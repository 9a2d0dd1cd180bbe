import DocPages.Proofs.GlobFrame
import DocPages.Site.Emit
/-!
# Copying the assets

The static assets of a site are the regular files that the asset patterns match in the template
directories, taken directory by directory, pattern by pattern, each pattern's matches sorted.
Of these, the first file of each name is copied into the output directory under that name, so a
directory earlier in the list shadows a later one wherever two files share a name.

This holds when the output directory lies apart from every template directory, neither inside
one nor holding one, and the log file, if there is one, lies outside the output directory and
apart from the template directories too: the copies and the records logged then never change
what a later glob finds or what a later copy reads. Without that, a copy can fall onto its own
source, which the system refuses.

A session of such a run is described by what it did: the records logged, then the files put in
place (`Session.logAll`, `Session.putFiles`). Logging commutes with writing elsewhere than the
log file, so every run is brought to that form.

## What is proved

* `firstOfEachName_spec` — the first element of each name is the one picked, in order, each name
  once.
* `Site.copyAsset_eq` — one asset: copied under its name when it is a regular file of a new name,
  passed over otherwise.
* `Session.putFiles_logAll`, `Session.logAll_putFiles_logAll` — logging and writing elsewhere
  than the log file commute.
* `Site.copyAssets_of_continues` — the whole run, from any session of a run that changed the
  files only in the output directory and the log file.
* `Site.copyAssets_first_files` — the assets copied are exactly the first regular file of each
  name among the matches, each target holds its source's bytes, and each copy is logged.
* `Site.copyAssets_same_file` — with the output directory among the template directories, a
  copy falls onto its own source and the run fails.
-/

namespace DocPages

/-! ### The first element of each name -/

/-- The elements that `keep` accepts, only the first of each name, in order; the names in `seen`
count as taken already. -/
def firstOfEachName {α : Type} (keep : α → Bool) (name : α → Text) : List Text → List α → List α
  | _, [] => []
  | seen, a :: as =>
    if keep a && !seen.contains (name a) then a :: firstOfEachName keep name (seen ++ [name a]) as
    else firstOfEachName keep name seen as

/-- `picks` holds exactly the first element of each name among those of `ms` that `keep`
accepts, in the order of `ms`. -/
structure FirstOfEachName {α : Type} (keep : α → Bool) (name : α → Text) (ms picks : List α) :
    Prop where
  /-- The picks are taken from `ms` in its order. -/
  sublist : picks.Sublist ms
  /-- Each pick is accepted. -/
  kept : ∀ p ∈ picks, keep p = true
  /-- No two picks share a name. -/
  nodup : (picks.map name).Nodup
  /-- Every name of an accepted element is picked. -/
  complete : ∀ m ∈ ms, keep m = true → name m ∈ picks.map name
  /-- No accepted element of the same name comes before a pick. -/
  first : ∀ p ∈ picks, ∃ pre post, ms = pre ++ p :: post ∧ ∀ m ∈ pre, keep m = true → name m ≠ name p

section FirstOfEachName

variable {α : Type} (keep : α → Bool) (name : α → Text)

theorem firstOfEachName_cons_of_pick {seen : List Text} {a : α} {as : List α}
    (h : (keep a && !seen.contains (name a)) = true) :
    firstOfEachName keep name seen (a :: as) = a :: firstOfEachName keep name (seen ++ [name a]) as := by
  rw [firstOfEachName, if_pos h]

theorem firstOfEachName_cons_of_skip {seen : List Text} {a : α} {as : List α}
    (h : ¬ (keep a && !seen.contains (name a)) = true) :
    firstOfEachName keep name seen (a :: as) = firstOfEachName keep name seen as := by
  rw [firstOfEachName, if_neg h]

theorem firstOfEachName_sublist : ∀ (seen : List Text) (ms : List α),
    (firstOfEachName keep name seen ms).Sublist ms
  | _, [] => List.Sublist.slnil
  | seen, a :: as => by
    unfold firstOfEachName
    split
    · exact (firstOfEachName_sublist _ as).cons_cons a
    · exact (firstOfEachName_sublist _ as).cons a

/-- A pick is accepted, and its name was not taken before. -/
theorem keep_of_mem_firstOfEachName : ∀ {seen : List Text} {ms : List α} {p : α},
    p ∈ firstOfEachName keep name seen ms → keep p = true ∧ name p ∉ seen
  | _, [], _, h => by simp [firstOfEachName] at h
  | seen, a :: as, p, h => by
    unfold firstOfEachName at h
    split at h
    · rename_i hka
      simp only [Bool.and_eq_true, Bool.not_eq_true', List.contains_eq_mem,
        decide_eq_false_iff_not] at hka
      rcases List.mem_cons.mp h with rfl | hp
      · exact hka
      · obtain ⟨hk, hn⟩ := keep_of_mem_firstOfEachName hp
        exact ⟨hk, fun h' => hn (List.mem_append_left _ h')⟩
    · exact keep_of_mem_firstOfEachName h

/-- The taken names and the picks' names never repeat. -/
theorem nodup_firstOfEachName : ∀ {seen : List Text} (ms : List α), seen.Nodup →
    (seen ++ (firstOfEachName keep name seen ms).map name).Nodup
  | _, [], hs => by simpa [firstOfEachName] using hs
  | seen, a :: as, hs => by
    unfold firstOfEachName
    split
    · rename_i hka
      simp only [Bool.and_eq_true, Bool.not_eq_true', List.contains_eq_mem,
        decide_eq_false_iff_not] at hka
      have := nodup_firstOfEachName as (List.nodup_append.mpr ⟨hs, List.nodup_singleton _,
        fun x hx y hy => by
        rintro rfl
        rw [List.mem_singleton.mp hy] at hx
        exact hka.2 hx⟩)
      simpa using this
    · exact nodup_firstOfEachName as hs

/-- Every accepted element's name is taken before or picked. -/
theorem mem_firstOfEachName_of_keep : ∀ (seen : List Text) {ms : List α} {m : α}, m ∈ ms →
    keep m = true → name m ∈ seen ++ (firstOfEachName keep name seen ms).map name
  | _, [], _, hm, _ => absurd hm List.not_mem_nil
  | seen, a :: as, m, hm, hk => by
    unfold firstOfEachName
    split
    · rcases List.mem_cons.mp hm with rfl | hm
      · simp
      · have := mem_firstOfEachName_of_keep (seen ++ [name a]) hm hk
        simpa using this
    · rename_i hka
      rcases List.mem_cons.mp hm with rfl | hm
      · -- an accepted element that was passed over has a taken name
        simp only [hk, Bool.true_and, Bool.not_eq_true', List.contains_eq_mem,
          decide_eq_false_iff_not, not_not] at hka
        exact List.mem_append_left _ hka
      · exact mem_firstOfEachName_of_keep seen hm hk

/-- Before each pick, no accepted element has its name. -/
theorem first_of_mem_firstOfEachName : ∀ {seen : List Text} {ms : List α} {p : α},
    p ∈ firstOfEachName keep name seen ms →
      ∃ pre post, ms = pre ++ p :: post ∧ ∀ m ∈ pre, keep m = true → name m ≠ name p
  | _, [], _, h => by simp [firstOfEachName] at h
  | seen, a :: as, p, h => by
    have hp := keep_of_mem_firstOfEachName keep name h
    unfold firstOfEachName at h
    split at h
    · rcases List.mem_cons.mp h with rfl | hp'
      · exact ⟨[], as, rfl, by simp⟩
      · -- the head was picked, so its name is taken for every later pick
        obtain ⟨pre, post, rfl, hpre⟩ := first_of_mem_firstOfEachName hp'
        have hne := (keep_of_mem_firstOfEachName keep name hp').2
        refine ⟨a :: pre, post, rfl, fun m hm hk => ?_⟩
        rcases List.mem_cons.mp hm with rfl | hm
        · exact fun h' => hne (by simp [h'])
        · exact hpre m hm hk
    · rename_i hka
      obtain ⟨pre, post, rfl, hpre⟩ := first_of_mem_firstOfEachName h
      refine ⟨a :: pre, post, rfl, fun m hm hk => ?_⟩
      rcases List.mem_cons.mp hm with rfl | hm
      · -- the head was passed over: accepted only with a taken name, which no pick has
        simp only [hk, Bool.true_and, Bool.not_eq_true', List.contains_eq_mem,
          decide_eq_false_iff_not, not_not] at hka
        exact fun h' => hp.2 (h' ▸ hka)
      · exact hpre m hm hk

/-- **The first element of each name** is what `firstOfEachName` picks. -/
theorem firstOfEachName_spec (ms : List α) :
    FirstOfEachName keep name ms (firstOfEachName keep name [] ms) where
  sublist := firstOfEachName_sublist keep name [] ms
  kept _ hp := (keep_of_mem_firstOfEachName keep name hp).1
  nodup := by simpa using nodup_firstOfEachName keep name ms List.nodup_nil
  complete _ hm hk := by simpa using mem_firstOfEachName_of_keep keep name [] hm hk
  first _ hp := first_of_mem_firstOfEachName keep name hp

/-- Picking from two lists in turn is picking from the first, then from the second with the
first's names taken. -/
theorem firstOfEachName_append : ∀ (seen : List Text) (xs ys : List α),
    firstOfEachName keep name seen (xs ++ ys) =
      firstOfEachName keep name seen xs ++
        firstOfEachName keep name (seen ++ (firstOfEachName keep name seen xs).map name) ys
  | seen, [], ys => by simp [firstOfEachName]
  | seen, a :: as, ys => by
    simp only [List.cons_append, firstOfEachName]
    split
    · rw [firstOfEachName_append]
      simp
    · exact firstOfEachName_append seen as ys

end FirstOfEachName

/-! ### Files read and written -/

namespace Tree

variable {t t' : Tree} {cwd : List Text}

/-- The bytes of the regular file a path names; none for anything else. -/
def fileBytes (t : Tree) (cwd : List Text) (p : PurePath) : List UInt8 :=
  match t.stat cwd p with
  | .ok (.file bytes) => bytes
  | _ => []

/-- The tree with each location given the bytes beside it, one after another. -/
def putFiles (t : Tree) (fs : List (List Text × List UInt8)) : Tree :=
  fs.foldl (fun t f => t.set f.1 (.file f.2)) t

theorem putFiles_append (fs fs' : List (List Text × List UInt8)) :
    t.putFiles (fs ++ fs') = (t.putFiles fs).putFiles fs' :=
  List.foldl_append

theorem putFiles_singleton (L : List Text) (bytes : List UInt8) :
    t.putFiles [(L, bytes)] = t.set L (.file bytes) := rfl

/-- Files written directly into one of the locations `ws`, where no directory stands, change
nothing outside them. -/
theorem AgreeOff.putFiles {ws : List (List Text)} {o : List Text} (h : AgreeOff ws t t') (ho : o ∈ ws)
    {fs : List (List Text × List UInt8)} (hfs : ∀ f ∈ fs, ∃ m, f.1 = o ++ [m] ∧ t.isDirAt f.1 = false) :
    AgreeOff ws t (t'.putFiles fs) := by
  induction fs generalizing t' with
  | nil => exact h
  | cons f fs ih =>
    obtain ⟨m, hm, hdir⟩ := hfs f List.mem_cons_self
    have h' : AgreeOff ws t (t'.set f.1 (.file f.2)) := by
      rw [hm] at hdir ⊢
      exact h.set_file ho ((h.dirs _).trans hdir)
    exact ih h' fun f' hf' => hfs f' (List.mem_cons_of_mem _ hf')

/-- Appending to the file at one location leaves every other location as it is. -/
theorem get?_appendAt_of_ne {P lf : List Text} {bytes : List UInt8} (h : P ≠ lf) :
    (t.appendAt lf bytes).get? P = t.get? P := by
  unfold appendAt
  split
  · by_cases hP : P = []
    · subst hP
      rfl
    · rw [get?_set hP, if_neg h]
  · rfl

/-- Asking whether a path is a regular file answers as `isFile` does, when it answers. -/
theorem probeFile_eq_ok {p : PurePath} {b : Bool} (h : t.probeFile cwd p = .ok b) :
    b = t.isFile cwd p := by
  unfold probeFile probe at h
  unfold isFile
  cases hs : t.stat cwd p with
  | ok n =>
    rw [hs] at h
    cases n <;> simp_all []
  | error e =>
    rw [hs] at h
    split at h <;> simp_all []

/-- The glob of a directory is the sorted selection of its pattern from it. -/
theorem glob_eq_of_select {d : PurePath} {pattern : Text} {sel : Selector} {found : List PurePath}
    (hs : Selector.ofPattern pattern = .ok sel) (hd : t.probeDir cwd d = .ok true)
    (hf : t.select cwd sel d = .ok found) :
    t.glob cwd d pattern = .ok (found.mergeSort PurePath.le) := by
  simp [glob, hs, hd, hf]

/-- A pattern that selects one path globs to that path alone. -/
theorem glob_eq_of_select_single {d p : PurePath} {pattern : Text} {sel : Selector}
    (hs : Selector.ofPattern pattern = .ok sel) (hd : t.probeDir cwd d = .ok true)
    (hf : t.select cwd sel d = .ok [p]) : t.glob cwd d pattern = .ok [p] := by
  rw [glob_eq_of_select hs hd hf, List.mergeSort_singleton]

/-- A regular file is reached, and its node holds its bytes. -/
theorem reach_of_isFile {p : PurePath} (h : t.isFile cwd p = true) :
    ∃ S, t.reach cwd p = .ok S ∧ t.get? S = some (.file (t.fileBytes cwd p)) := by
  cases hs : t.stat cwd p with
  | error e => simp [isFile, hs] at h
  | ok n =>
    cases n with
    | dir => simp [isFile, hs] at h
    | file bytes =>
      have hb : t.fileBytes cwd p = bytes := by simp [fileBytes, hs]
      rw [hb]
      unfold stat at hs
      cases hr : t.reach cwd p with
      | error e => simp [hr] at hs
      | ok S =>
        simp only [hr, bind, Except.bind, pure, Except.pure, Except.ok.injEq] at hs
        refine ⟨S, rfl, ?_⟩
        cases hg : t.get? S with
        | none => simp [hg] at hs
        | some n => simpa [hg] using hs

end Tree

/-! ### Logging and writing -/

namespace Session

variable {s : Session}

@[simp] theorem log_cwd (s : Session) (r : LogRecord) : (s.log r).cwd = s.cwd := by
  unfold log
  split
  · rfl
  · dsimp only
    split <;> rfl

@[simp] theorem log_sink (s : Session) (r : LogRecord) : (s.log r).sink = s.sink := by
  unfold log
  split
  · rfl
  · dsimp only
    split <;> rfl

/-- Logging changes the files at most by appending a line to the log file. -/
theorem log_tree (r : LogRecord) :
    (s.log r).tree = s.tree ∨
      ∃ lf bytes, s.sink.file = some lf ∧ (s.log r).tree = s.tree.appendAt lf bytes := by
  unfold log
  split
  · exact .inl rfl
  · dsimp only
    split
    · rename_i lf bytes hf _
      exact .inr ⟨lf, bytes, hf, rfl⟩
    · exact .inl rfl

/-- Logging leaves every location but the log file as it is. -/
theorem log_get? {P : List Text} (hP : s.sink.file ≠ some P) (r : LogRecord) :
    (s.log r).tree.get? P = s.tree.get? P := by
  rcases log_tree (s := s) r with h | ⟨lf, bytes, hf, h⟩
  · rw [h]
  · rw [h, Tree.get?_appendAt_of_ne fun hPl => hP (by rw [hPl]; exact hf)]

/-- Writing a file elsewhere than the log file and logging can be done in either order. -/
theorem log_set {L : List Text} {n : Node} (hL : s.sink.file ≠ some L) (r : LogRecord) :
    ({ s with tree := s.tree.set L n } : Session).log r =
      { s.log r with tree := (s.log r).tree.set L n } := by
  unfold log
  split
  · rfl
  · dsimp only
    split
    · rename_i lf bytes hf _
      rw [Tree.appendAt_set fun h => hL (by rw [h]; exact hf)]
    · rfl

@[simp] theorem logAll_cwd (s : Session) (rs : List LogRecord) : (s.logAll rs).cwd = s.cwd := by
  induction rs generalizing s with
  | nil => rfl
  | cons r rs ih =>
    show ((s.log r).logAll rs).cwd = s.cwd
    rw [ih, log_cwd]

@[simp] theorem logAll_sink (s : Session) (rs : List LogRecord) : (s.logAll rs).sink = s.sink := by
  induction rs generalizing s with
  | nil => rfl
  | cons r rs ih =>
    show ((s.log r).logAll rs).sink = s.sink
    rw [ih, log_sink]

@[simp] theorem logAll_nil (s : Session) : s.logAll [] = s := rfl

theorem logAll_append (s : Session) (rs rs' : List LogRecord) :
    s.logAll (rs ++ rs') = (s.logAll rs).logAll rs' :=
  List.foldl_append

/-- Logging leaves every location but the log file as it is. -/
theorem logAll_get? {P : List Text} (hP : s.sink.file ≠ some P) (rs : List LogRecord) :
    (s.logAll rs).tree.get? P = s.tree.get? P := by
  induction rs generalizing s with
  | nil => rfl
  | cons r rs ih =>
    show ((s.log r).logAll rs).tree.get? P = _
    rw [ih (by simpa using hP), log_get? hP]

/-- The session with the files `fs` put in place. -/
def putFiles (s : Session) (fs : List (List Text × List UInt8)) : Session :=
  { s with tree := s.tree.putFiles fs }

@[simp] theorem putFiles_cwd (s : Session) (fs : List (List Text × List UInt8)) :
    (s.putFiles fs).cwd = s.cwd := rfl

@[simp] theorem putFiles_sink (s : Session) (fs : List (List Text × List UInt8)) :
    (s.putFiles fs).sink = s.sink := rfl

@[simp] theorem putFiles_tree (s : Session) (fs : List (List Text × List UInt8)) :
    (s.putFiles fs).tree = s.tree.putFiles fs := rfl

@[simp] theorem putFiles_nil (s : Session) : s.putFiles [] = s := rfl

theorem putFiles_append (s : Session) (fs fs' : List (List Text × List UInt8)) :
    s.putFiles (fs ++ fs') = (s.putFiles fs).putFiles fs' := by
  simp only [putFiles, Tree.putFiles_append]

/-- Logging after files are put elsewhere than the log file is logging before. -/
theorem putFiles_log {fs : List (List Text × List UInt8)} (hfs : ∀ f ∈ fs, s.sink.file ≠ some f.1)
    (r : LogRecord) : (s.putFiles fs).log r = (s.log r).putFiles fs := by
  induction fs generalizing s with
  | nil => rfl
  | cons f fs ih =>
    have hstep : s.putFiles (f :: fs) =
        ({ s with tree := s.tree.set f.1 (.file f.2) } : Session).putFiles fs := rfl
    have hrest : ∀ f' ∈ fs, ({ s with tree := s.tree.set f.1 (.file f.2) } : Session).sink.file ≠
        some f'.1 := fun f' hf' => hfs f' (List.mem_cons_of_mem _ hf')
    rw [hstep, ih hrest, log_set (hfs f List.mem_cons_self)]
    rfl

theorem putFiles_logAll {fs : List (List Text × List UInt8)} (hfs : ∀ f ∈ fs, s.sink.file ≠ some f.1)
    (rs : List LogRecord) : (s.putFiles fs).logAll rs = (s.logAll rs).putFiles fs := by
  induction rs generalizing s with
  | nil => rfl
  | cons r rs ih =>
    show ((s.putFiles fs).log r).logAll rs = ((s.log r).logAll rs).putFiles fs
    rw [putFiles_log hfs, ih (by simpa using hfs)]

/-- Records logged and files put, twice over, are all the records logged and then all the files
put, when the first files miss the log file. -/
theorem logAll_putFiles_logAll {fs : List (List Text × List UInt8)}
    (hfs : ∀ f ∈ fs, s.sink.file ≠ some f.1) (rs rs' : List LogRecord)
    (fs' : List (List Text × List UInt8)) :
    (((s.logAll rs).putFiles fs).logAll rs').putFiles fs' =
      (s.logAll (rs ++ rs')).putFiles (fs ++ fs') := by
  rw [putFiles_logAll (by simpa using hfs), ← putFiles_append, ← logAll_append]

end Session

/-! ### The sessions of one run -/

namespace Site

open DocPages.Tree

/-- Where a run writing into the directory at `o` changes the files: there, and in the log file
when there is one. -/
def written (o : List Text) (sink : LogSink) : List (List Text) :=
  o :: sink.file.toList

/-- The log file, if there is one, lies outside the directory at `o`. -/
def LogOutside (o : List Text) (sink : LogSink) : Prop :=
  ∀ lf, sink.file = some lf → ¬ o <+: lf

/-- No file written directly into the directory is the log file. -/
theorem LogOutside.ne {o : List Text} {sink : LogSink} (h : LogOutside o sink) (m : Text) :
    sink.file ≠ some (o ++ [m]) :=
  fun hf => h _ hf (List.prefix_append _ _)

/-- `s₁` is a session of the run that started from `s` writing into the directory at `o`: the
same working directory and log sink, and files that agree with `s`'s outside `o` and the log
file. -/
structure Continues (s : Session) (o : List Text) (s₁ : Session) : Prop where
  /-- The working directory is the same. -/
  cwd : s₁.cwd = s.cwd
  /-- Records go where they went. -/
  sink : s₁.sink = s.sink
  /-- The files agree outside the output directory and the log file. -/
  agree : AgreeOff (written o s.sink) s.tree s₁.tree

section Continues

variable {s s₁ : Session} {o : List Text}

theorem Continues.refl (s : Session) (o : List Text) : Continues s o s :=
  ⟨rfl, rfl, AgreeOff.refl _ _⟩

theorem Continues.log (h : Continues s o s₁) (r : LogRecord) : Continues s o (s₁.log r) := by
  refine ⟨by simp [h.cwd], by simp [h.sink], ?_⟩
  rcases Session.log_tree (s := s₁) r with ht | ⟨lf, bytes, hf, ht⟩
  · exact ht ▸ h.agree
  · rw [ht]
    exact h.agree.appendAt (by simp [written, ← h.sink, hf])

theorem Continues.logAll (h : Continues s o s₁) (rs : List LogRecord) :
    Continues s o (s₁.logAll rs) := by
  induction rs generalizing s₁ with
  | nil => exact h
  | cons r rs ih => exact ih (h.log r)

/-- Files put directly into the output directory, where no directory stands, keep to the run. -/
theorem Continues.putFiles (h : Continues s o s₁) {fs : List (List Text × List UInt8)}
    (hfs : ∀ f ∈ fs, ∃ m, f.1 = o ++ [m] ∧ s.tree.isDirAt f.1 = false) :
    Continues s o (s₁.putFiles fs) :=
  ⟨h.cwd, h.sink, h.agree.putFiles List.mem_cons_self hfs⟩

end Continues

/-! ### The assets of the template directories -/


/-- The matches of the asset patterns in the template directories, each beside its directory:
directory by directory, pattern by pattern, each pattern's matches sorted. -/
def assetMatches (t : Tree) (cwd : List Text) (dirs : List PurePath) (pats : List Text) :
    Except GlobError (List (PurePath × PurePath)) := do
  let perDir ← dirs.mapM fun d => do
    let perPat ← pats.mapM (t.glob cwd d)
    pure (perPat.flatten.map (d, ·))
  pure perDir.flatten

/-- The matches that are copied when the names `seen` are taken: the first regular file of each
other name. -/
def assetCopies (t : Tree) (cwd seen : List Text) (ms : List (PurePath × PurePath)) :
    List (PurePath × PurePath) :=
  firstOfEachName (fun m => t.isFile cwd m.2) (·.2.name) seen ms

/-- Where a match is copied to in the output directory `out`: under its name. -/
def assetTarget (out : PurePath) (m : PurePath × PurePath) : PurePath :=
  out.join { parts := [m.2.name] }

/-- The record logged for a copied match. -/
def copyRecord (m : PurePath × PurePath) : LogRecord :=
  LogRecord.debug .emitter (Text.ofString "Copied asset " ++ m.2.name ++ " from " ++ m.1.toText)

/-- The files that copying `picks` into the directory at `o` writes: each under its name, with
the bytes its source has in `t`. -/
def copyWrites (t : Tree) (cwd o : List Text) (picks : List (PurePath × PurePath)) :
    List (List Text × List UInt8) :=
  picks.map fun m => (o ++ [canonicalName m.2.name], t.fileBytes cwd m.2)

/-- The session after copying `picks` into the directory at `o`, from `s₁` on: each copy's record
logged, and each target written with the bytes its source has in `s`. -/
def afterCopies (s : Session) (o : List Text) (s₁ : Session) (picks : List (PurePath × PurePath)) :
    Session :=
  (s₁.logAll (picks.map copyRecord)).putFiles (copyWrites s.tree s.cwd o picks)

theorem afterCopies_nil (s : Session) (o : List Text) (s₁ : Session) :
    afterCopies s o s₁ [] = s₁ := rfl

theorem afterCopies_append {s s₁ : Session} {o : List Text} (hlog : LogOutside o s₁.sink)
    (p₁ p₂ : List (PurePath × PurePath)) :
    afterCopies s o (afterCopies s o s₁ p₁) p₂ = afterCopies s o s₁ (p₁ ++ p₂) := by
  have hw : ∀ f ∈ copyWrites s.tree s.cwd o p₁, s₁.sink.file ≠ some f.1 := by
    intro f hf
    obtain ⟨m, -, rfl⟩ := List.mem_map.mp hf
    exact hlog.ne _
  rw [afterCopies, afterCopies, afterCopies, Session.logAll_putFiles_logAll hw]
  simp only [copyWrites, List.map_append]

@[simp] theorem afterCopies_cwd (s : Session) (o : List Text) (s₁ : Session)
    (picks : List (PurePath × PurePath)) : (afterCopies s o s₁ picks).cwd = s₁.cwd := by
  simp [afterCopies]

@[simp] theorem afterCopies_sink (s : Session) (o : List Text) (s₁ : Session)
    (picks : List (PurePath × PurePath)) : (afterCopies s o s₁ picks).sink = s₁.sink := by
  simp [afterCopies]

/-- What copying the assets of `dirs` into `out` asks of the session `s`: `out` leads to the
location `o`, and the log file, if any, lies outside it; every template directory lies apart
from `o` and from the log file, neither inside one nor holding one; no name of a template
directory, of a pattern or of the files is `..`; every glob succeeds, with the matches `ms`;
every match can be asked whether it is a regular file; and every target can be written. -/
structure AssetsApart (opts : EmitOptions) (dirs : List PurePath) (out : PurePath) (s : Session)
    (o : List Text) (ms : List (PurePath × PurePath)) : Prop where
  /-- The output directory's location. -/
  out_at : s.tree.reach s.cwd out = .ok o
  /-- The log file, if any, lies outside the output directory. -/
  log_outside : LogOutside o s.sink
  /-- No name of the files is `..`. -/
  tree_plain : s.tree.NoDotDot
  /-- No name of a template directory's path is `..`. -/
  dirs_plain : ∀ d ∈ dirs, (".." : Text) ∉ d.parts
  /-- Each template directory lies apart from the output directory and the log file. -/
  dirs_apart : ∀ d ∈ dirs, ∀ L, s.tree.reach s.cwd d = .ok L → Apart (written o s.sink) L
  /-- No name of a pattern is `..`. -/
  patterns_plain : ∀ pat ∈ opts.staticAssets, (".." : Text) ∉ (PurePath.ofText pat).parts
  /-- The matches. -/
  globs : assetMatches s.tree s.cwd dirs opts.staticAssets = .ok ms
  /-- Each match can be asked whether it is a regular file. -/
  probes : ∀ m ∈ ms, ∃ b, s.tree.probeFile s.cwd m.2 = .ok b
  /-- Each target can be written. -/
  targets : ∀ m ∈ assetCopies s.tree s.cwd [] ms,
    ∃ L, s.tree.fileTarget s.cwd (assetTarget out m) = .ok L

theorem assetCopies_cons_of_pick {t : Tree} {cwd seen : List Text} {m : PurePath × PurePath}
    {ms : List (PurePath × PurePath)} (h : (t.isFile cwd m.2 && !seen.contains m.2.name) = true) :
    assetCopies t cwd seen (m :: ms) = m :: assetCopies t cwd (seen ++ [m.2.name]) ms :=
  firstOfEachName_cons_of_pick _ _ h

theorem assetCopies_cons_of_skip {t : Tree} {cwd seen : List Text} {m : PurePath × PurePath}
    {ms : List (PurePath × PurePath)} (h : ¬ (t.isFile cwd m.2 && !seen.contains m.2.name) = true) :
    assetCopies t cwd seen (m :: ms) = assetCopies t cwd seen ms :=
  firstOfEachName_cons_of_skip _ _ h

theorem assetCopies_append (t : Tree) (cwd seen : List Text) (xs ys : List (PurePath × PurePath)) :
    assetCopies t cwd seen (xs ++ ys) = assetCopies t cwd seen xs ++
      assetCopies t cwd (seen ++ (assetCopies t cwd seen xs).map (·.2.name)) ys :=
  firstOfEachName_append _ _ seen xs ys

theorem assetTarget_eq (out : PurePath) (m : PurePath × PurePath) :
    assetTarget out m = childPath out m.2.name := by
  simp [assetTarget, PurePath.join, PurePath.isAbsolute, childPath]

section Copying

variable {s s₁ : Session} {o B : List Text} {out : PurePath}

/-- Copies into the directory at `o` whose targets can be written keep to the run. -/
theorem Continues.afterCopies {picks : List (PurePath × PurePath)} (h : Continues s o s₁)
    (hout : s.tree.reach s.cwd out = .ok o)
    (htargets : ∀ m ∈ picks, ∃ L, s.tree.fileTarget s.cwd (assetTarget out m) = .ok L) :
    Continues s o (afterCopies s o s₁ picks) := by
  refine (h.logAll _).putFiles fun f hf => ?_
  obtain ⟨m, hm, rfl⟩ := List.mem_map.mp hf
  obtain ⟨L, hL⟩ := htargets m hm
  obtain ⟨rfl, hdir⟩ := fileTarget_childPath hout (assetTarget_eq out m ▸ hL)
  exact ⟨_, rfl, hdir⟩

/-- **One asset.** A match below a directory apart from the output directory and the log file is
copied under its name when it is a regular file whose name was not copied before, and passed
over otherwise. The files copied from need only be a session of the same run as `s`. -/
theorem copyAsset_eq (seen : List Text) (copied : List PurePath) (m : PurePath × PurePath)
    (hs₁ : Continues s o s₁) (hlog : LogOutside o s.sink) (hout : s.tree.reach s.cwd out = .ok o)
    (hB : Along s.cwd B m.2) (hBa : Apart (written o s.sink) B)
    (hprobe : ∃ b, s.tree.probeFile s.cwd m.2 = .ok b)
    (htarget : (s.tree.isFile s.cwd m.2 && !seen.contains m.2.name) = true →
      ∃ L, s.tree.fileTarget s.cwd (assetTarget out m) = .ok L) :
    copyAsset m.1 out (seen, copied) m.2 s₁ =
      if s.tree.isFile s.cwd m.2 && !seen.contains m.2.name then
        .ok (seen ++ [m.2.name], copied ++ [assetTarget out m]) (afterCopies s o s₁ [m])
      else .ok (seen, copied) s₁ := by
  have hsame := hB.sameAt hs₁.agree hBa
  obtain ⟨b, hb⟩ := hprobe
  have hb' : s₁.tree.probeFile s₁.cwd m.2 = .ok (s.tree.isFile s.cwd m.2) := by
    rw [hs₁.cwd, probeFile, probe_eq_of_sameAt hsame, ← probeFile, hb, probeFile_eq_ok hb]
  by_cases hc : (s.tree.isFile s.cwd m.2 && !seen.contains m.2.name) = true
  · obtain ⟨L, hL⟩ := htarget hc
    have hisFile : s.tree.isFile s.cwd m.2 = true := by simp_all
    have hseen : m.2.name ∉ seen := by simp_all
    obtain ⟨S, hS, hSget⟩ := reach_of_isFile hisFile
    obtain ⟨rfl, -⟩ := fileTarget_childPath hout (assetTarget_eq out m ▸ hL)
    have hsource : Outside (written o s.sink) S :=
      hBa.outside (reach_eq_dest hS ▸ hB.2) (List.prefix_refl S)
    have hne : S ≠ o ++ [canonicalName m.2.name] := fun h =>
      hsource o List.mem_cons_self (h ▸ List.prefix_append o _)
    have hcopy : s₁.tree.copyFile s₁.cwd m.2 (assetTarget out m) = .ok (s₁.tree.set
        (o ++ [canonicalName m.2.name]) (.file (s.tree.fileBytes s.cwd m.2))) := by
      rw [hs₁.cwd]
      exact copyFile_eq ((reach_eq_of_sameAt hsame).trans hS)
        ((get?_eq_of_sameAt hsame hS).trans hSget) (fileTarget_eq_of_dirs hs₁.agree.dirs hL) hne
    have hlogged : (s₁.putFiles [(o ++ [canonicalName m.2.name], s.tree.fileBytes s.cwd m.2)]).log
        (copyRecord m) = afterCopies s o s₁ [m] :=
      Session.putFiles_log (by simpa [hs₁.sink] using hlog.ne (canonicalName m.2.name)) _
    simp only [assetTarget] at hcopy
    simp [copyAsset, hb', hisFile, hseen, hcopy, assetTarget, ← hlogged, copyRecord,
      Session.putFiles, putFiles_singleton]
  · have hc' : s.tree.isFile s.cwd m.2 = false ∨ m.2.name ∈ seen := by
      cases hf : s.tree.isFile s.cwd m.2 <;> simp_all
    simp [copyAsset, hb']
    rw [if_pos hc', if_neg (by rcases hc' with h | h <;> simp [h])]
    rfl

/-- **Copying a list of matches**, each below a directory apart from the output directory and
the log file: of the regular files among them, the first of each name not copied before is
copied, in order. -/
theorem copyMatches_eq (hlog : LogOutside o s.sink) (hout : s.tree.reach s.cwd out = .ok o)
    (seen : List Text) (copied : List PurePath) (s₁ : Session) {ms : List (PurePath × PurePath)}
    (hs₁ : Continues s o s₁)
    (hms : ∀ m ∈ ms, ∃ B, Along s.cwd B m.2 ∧ Apart (written o s.sink) B)
    (hprobes : ∀ m ∈ ms, ∃ b, s.tree.probeFile s.cwd m.2 = .ok b)
    (htargets : ∀ m ∈ assetCopies s.tree s.cwd seen ms,
      ∃ L, s.tree.fileTarget s.cwd (assetTarget out m) = .ok L) :
    ms.foldlM (fun acc m => copyAsset m.1 out acc m.2) (seen, copied) s₁ =
      .ok (seen ++ (assetCopies s.tree s.cwd seen ms).map (·.2.name),
          copied ++ (assetCopies s.tree s.cwd seen ms).map (assetTarget out))
        (afterCopies s o s₁ (assetCopies s.tree s.cwd seen ms)) := by
  induction ms generalizing seen copied s₁ with
  | nil => simp [assetCopies, firstOfEachName, afterCopies_nil]
  | cons m ms ih =>
    obtain ⟨B, hB, hBa⟩ := hms m List.mem_cons_self
    have htarget : (s.tree.isFile s.cwd m.2 && !seen.contains m.2.name) = true →
        ∃ L, s.tree.fileTarget s.cwd (assetTarget out m) = .ok L := fun hc =>
      htargets m (by rw [assetCopies_cons_of_pick hc]; exact List.mem_cons_self)
    have hstep := copyAsset_eq seen copied m hs₁ hlog hout hB hBa (hprobes m List.mem_cons_self)
      htarget
    rw [List.foldlM_cons, Step.bind_run, hstep]
    by_cases hc : (s.tree.isFile s.cwd m.2 && !seen.contains m.2.name) = true
    · rw [assetCopies_cons_of_pick hc] at htargets ⊢
      have hpick : ∀ m' ∈ [m], ∃ L, s.tree.fileTarget s.cwd (assetTarget out m') = .ok L := by
        simp only [List.mem_singleton, forall_eq]
        exact htargets m List.mem_cons_self
      have hrest := ih (seen ++ [m.2.name]) (copied ++ [assetTarget out m])
        (afterCopies s o s₁ [m]) (hs₁.afterCopies hout hpick)
        (fun m' hm' => hms m' (List.mem_cons_of_mem _ hm'))
        (fun m' hm' => hprobes m' (List.mem_cons_of_mem _ hm'))
        (fun m' hm' => htargets m' (List.mem_cons_of_mem _ hm'))
      rw [if_pos hc]
      dsimp only
      rw [hrest, afterCopies_append (hs₁.sink ▸ hlog)]
      simp
    · rw [assetCopies_cons_of_skip hc] at htargets ⊢
      rw [if_neg hc]
      exact ih seen copied s₁ hs₁ (fun m' hm' => hms m' (List.mem_cons_of_mem _ hm'))
        (fun m' hm' => hprobes m' (List.mem_cons_of_mem _ hm')) htargets

/-- **The patterns of one directory**: each pattern's matches, found on the files as they are,
are those found before any copy, so copying them all is copying the matches of every pattern
in turn. -/
theorem copyPatterns_eq (hlog : LogOutside o s.sink) (hout : s.tree.reach s.cwd out = .ok o)
    (hn : s.tree.NoDotDot) (seen : List Text) (copied : List PurePath) (s₁ : Session) {d : PurePath}
    {pats : List Text} {perPat : List (List PurePath)} (hs₁ : Continues s o s₁)
    (hd : (".." : Text) ∉ d.parts)
    (hapart : ∀ L, s.tree.reach s.cwd d = .ok L → Apart (written o s.sink) L)
    (hpats : ∀ pat ∈ pats, (".." : Text) ∉ (PurePath.ofText pat).parts)
    (hglobs : pats.mapM (s.tree.glob s.cwd d) = .ok perPat)
    (hprobes : ∀ m ∈ perPat.flatten.map (d, ·), ∃ b, s.tree.probeFile s.cwd m.2 = .ok b)
    (htargets : ∀ m ∈ assetCopies s.tree s.cwd seen (perPat.flatten.map (d, ·)),
      ∃ L, s.tree.fileTarget s.cwd (assetTarget out m) = .ok L) :
    pats.foldlM (fun acc pat => (do
        let s ← get
        let found ← Step.lift .pattern (s.tree.glob s.cwd d pat)
        found.foldlM (copyAsset d out) acc : EmitStep (List Text × List PurePath)))
      (seen, copied) s₁ =
      .ok (seen ++ (assetCopies s.tree s.cwd seen (perPat.flatten.map (d, ·))).map (·.2.name),
          copied ++ (assetCopies s.tree s.cwd seen (perPat.flatten.map (d, ·))).map (assetTarget out))
        (afterCopies s o s₁ (assetCopies s.tree s.cwd seen (perPat.flatten.map (d, ·)))) := by
  induction pats generalizing perPat seen copied s₁ with
  | nil =>
    cases hglobs
    simp [assetCopies, firstOfEachName, afterCopies_nil]
  | cons pat pats ih =>
    have hpat := hpats pat List.mem_cons_self
    obtain ⟨found, perPat', hg, hr, rfl⟩ := mapM_cons_eq_ok hglobs
    simp only [List.flatten_cons, List.map_append, assetCopies_append] at hprobes htargets ⊢
    have hregion : ∀ m ∈ found.map (d, ·), ∃ B, Along s.cwd B m.2 ∧ Apart (written o s.sink) B := by
      intro m hm
      obtain ⟨a, ha, rfl⟩ := List.mem_map.mp hm
      obtain ⟨L, hL, hal⟩ := along_of_mem_glob hn hd hpat hg ha
      exact ⟨L, hal, hapart L hL⟩
    have hglob' : s₁.tree.glob s₁.cwd d pat = .ok found := by
      rw [hs₁.cwd, glob_eq_of_agreeOff hs₁.agree hn hd hapart hpat, hg]
    have hfirst := copyMatches_eq hlog hout seen copied s₁ hs₁ hregion
      (fun m hm => hprobes m (List.mem_append_left _ hm))
      (fun m hm => htargets m (List.mem_append_left _ hm))
    simp only [List.foldlM_map] at hfirst
    have hrest := ih (seen ++ (assetCopies s.tree s.cwd seen (found.map (d, ·))).map (·.2.name))
      (copied ++ (assetCopies s.tree s.cwd seen (found.map (d, ·))).map (assetTarget out))
      (afterCopies s o s₁ (assetCopies s.tree s.cwd seen (found.map (d, ·))))
      (hs₁.afterCopies hout fun m hm => htargets m (List.mem_append_left _ hm))
      (fun pat' hpat' => hpats pat' (List.mem_cons_of_mem _ hpat')) hr
      (fun m hm => hprobes m (List.mem_append_right _ hm))
      (fun m hm => htargets m (List.mem_append_right _ hm))
    rw [List.foldlM_cons]
    simp only [Step.bind_run, Step.get_run, hglob', Step.lift_ok, hfirst]
    rw [hrest, afterCopies_append (hs₁.sink ▸ hlog)]
    simp

/-- **The template directories**: each directory's patterns copy in turn, so the whole loop
copies the matches of every directory and pattern in turn. -/
theorem copyDirs_eq (hlog : LogOutside o s.sink) (hout : s.tree.reach s.cwd out = .ok o)
    (hn : s.tree.NoDotDot) (seen : List Text) (copied : List PurePath) (s₁ : Session)
    {dirs : List PurePath} {pats : List Text} {perDir : List (List (PurePath × PurePath))}
    (hs₁ : Continues s o s₁) (hdirs : ∀ d ∈ dirs, (".." : Text) ∉ d.parts)
    (hapart : ∀ d ∈ dirs, ∀ L, s.tree.reach s.cwd d = .ok L → Apart (written o s.sink) L)
    (hpats : ∀ pat ∈ pats, (".." : Text) ∉ (PurePath.ofText pat).parts)
    (hglobs : dirs.mapM (fun d => do
      let perPat ← pats.mapM (s.tree.glob s.cwd d)
      pure (perPat.flatten.map (d, ·))) = .ok perDir)
    (hprobes : ∀ m ∈ perDir.flatten, ∃ b, s.tree.probeFile s.cwd m.2 = .ok b)
    (htargets : ∀ m ∈ assetCopies s.tree s.cwd seen perDir.flatten,
      ∃ L, s.tree.fileTarget s.cwd (assetTarget out m) = .ok L) :
    dirs.foldlM (fun acc dir => pats.foldlM (fun acc pat => (do
        let s ← get
        let found ← Step.lift .pattern (s.tree.glob s.cwd dir pat)
        found.foldlM (copyAsset dir out) acc : EmitStep (List Text × List PurePath))) acc)
      (seen, copied) s₁ =
      .ok (seen ++ (assetCopies s.tree s.cwd seen perDir.flatten).map (·.2.name),
          copied ++ (assetCopies s.tree s.cwd seen perDir.flatten).map (assetTarget out))
        (afterCopies s o s₁ (assetCopies s.tree s.cwd seen perDir.flatten)) := by
  induction dirs generalizing perDir seen copied s₁ with
  | nil =>
    cases hglobs
    simp [assetCopies, firstOfEachName, afterCopies_nil]
  | cons d dirs ih =>
    obtain ⟨ms₁, perDir', hd, hr, rfl⟩ := mapM_cons_eq_ok hglobs
    obtain ⟨perPat, hg, rfl⟩ := bind_pure_eq_ok hd
    simp only [List.flatten_cons, assetCopies_append] at hprobes htargets ⊢
    have hfirst := copyPatterns_eq hlog hout hn seen copied s₁ hs₁ (hdirs d List.mem_cons_self)
      (hapart d List.mem_cons_self) hpats hg
      (fun m hm => hprobes m (List.mem_append_left _ hm))
      (fun m hm => htargets m (List.mem_append_left _ hm))
    have hrest := ih
      (seen ++ (assetCopies s.tree s.cwd seen (perPat.flatten.map (d, ·))).map (·.2.name))
      (copied ++ (assetCopies s.tree s.cwd seen (perPat.flatten.map (d, ·))).map (assetTarget out))
      (afterCopies s o s₁ (assetCopies s.tree s.cwd seen (perPat.flatten.map (d, ·))))
      (hs₁.afterCopies hout fun m hm => htargets m (List.mem_append_left _ hm))
      (fun d' hd' => hdirs d' (List.mem_cons_of_mem _ hd'))
      (fun d' hd' => hapart d' (List.mem_cons_of_mem _ hd')) hr
      (fun m hm => hprobes m (List.mem_append_right _ hm))
      (fun m hm => htargets m (List.mem_append_right _ hm))
    rw [List.foldlM_cons, Step.bind_run, hfirst]
    dsimp only
    rw [hrest, afterCopies_append (hs₁.sink ▸ hlog)]
    simp

/-- **Copying the assets** from any session of the run that started from `s`: the first regular
file of each name among the matches found in `s` is copied, in order, with the bytes it has in
`s`, and its target returned. -/
theorem copyAssets_of_continues {opts : EmitOptions} {dirs : List PurePath}
    {ms : List (PurePath × PurePath)} (h : AssetsApart opts dirs out s o ms)
    (hs₁ : Continues s o s₁) :
    copyAssets opts dirs out s₁ =
      .ok ((assetCopies s.tree s.cwd [] ms).map (assetTarget out))
        (afterCopies s o s₁ (assetCopies s.tree s.cwd [] ms)) := by
  obtain ⟨perDir, hglobs, rfl⟩ := bind_pure_eq_ok h.globs
  have hloop := copyDirs_eq h.log_outside h.out_at h.tree_plain [] [] s₁ hs₁ h.dirs_plain
    h.dirs_apart h.patterns_plain hglobs h.probes h.targets
  unfold copyAssets
  rw [Step.bind_run, hloop]
  rfl

/-- **The assets copied.** When the output directory lies apart from the template directories,
and the log file, if any, lies apart from all of them, copying the assets copies exactly the
first regular file of each name among the matches, taken directory by directory, pattern by
pattern, each pattern's matches sorted: the names copied are pairwise distinct and in the order
of their first matches, every name of a regular file matched is copied, and so an earlier
directory shadows a later one on every name they share. The run returns each target, the output
directory joined with the name, in that order, logs a record for each copy, writes each target
with the bytes of its source, and changes nothing else. -/
theorem copyAssets_first_files {opts : EmitOptions} {dirs : List PurePath}
    {ms : List (PurePath × PurePath)} (h : AssetsApart opts dirs out s o ms) :
    FirstOfEachName (fun m => s.tree.isFile s.cwd m.2) (·.2.name) ms (assetCopies s.tree s.cwd [] ms) ∧
    copyAssets opts dirs out s =
      .ok ((assetCopies s.tree s.cwd [] ms).map (assetTarget out))
        ((s.logAll ((assetCopies s.tree s.cwd [] ms).map copyRecord)).putFiles
          (copyWrites s.tree s.cwd o (assetCopies s.tree s.cwd [] ms))) :=
  ⟨firstOfEachName_spec _ _ ms, copyAssets_of_continues h (Continues.refl s o)⟩

/-- A custom template directory `site` holding `styles.css` and a directory `logo.png`, the
packaged one `def` holding both as files, an empty output directory `out`, and a log file
`run.log` beside them. -/
def shadowSite : Session where
  tree := ⟨[(["site"], .dir), (["site", "styles.css"], .file [1]), (["site", "logo.png"], .dir),
    (["def"], .dir), (["def", "styles.css"], .file [2]), (["def", "logo.png"], .file [3]),
    (["out"], .dir), (["run.log"], .file [])]⟩
  cwd := []
  packaged := ["def"]
  sink := { verbose := true, file := some ["run.log"] }

/-- The matches of `styles.css` and `logo.png` in `site`, then in `def`. -/
def shadowMatches : List (PurePath × PurePath) :=
  [(PurePath.ofText "site", PurePath.ofText "site/styles.css"),
    (PurePath.ofText "site", PurePath.ofText "site/logo.png"),
    (PurePath.ofText "def", PurePath.ofText "def/styles.css"),
    (PurePath.ofText "def", PurePath.ofText "def/logo.png")]

theorem copyAssets_first_files_shadowing :
    AssetsApart { staticAssets := ["styles.css", "logo.png"] }
        [PurePath.ofText "site", PurePath.ofText "def"] (PurePath.ofText "out") shadowSite ["out"]
        shadowMatches ∧
      FirstOfEachName (fun m => shadowSite.tree.isFile shadowSite.cwd m.2) (·.2.name) shadowMatches
        (assetCopies shadowSite.tree shadowSite.cwd [] shadowMatches) ∧
      copyAssets { staticAssets := ["styles.css", "logo.png"] }
          [PurePath.ofText "site", PurePath.ofText "def"] (PurePath.ofText "out") shadowSite =
        .ok ((assetCopies shadowSite.tree shadowSite.cwd [] shadowMatches).map
            (assetTarget (PurePath.ofText "out")))
          ((shadowSite.logAll ((assetCopies shadowSite.tree shadowSite.cwd [] shadowMatches).map
              copyRecord)).putFiles (copyWrites shadowSite.tree shadowSite.cwd ["out"]
              (assetCopies shadowSite.tree shadowSite.cwd [] shadowMatches))) := by
  have hsite : shadowSite.tree.reach [] (PurePath.ofText "site") = .ok ["site"] := by decide +kernel
  have hdef : shadowSite.tree.reach [] (PurePath.ofText "def") = .ok ["def"] := by decide +kernel
  have hglob : ∀ d pat, Selector.ofPattern pat = .ok (.named pat false .here) →
      shadowSite.tree.probeDir [] d = .ok true →
      shadowSite.tree.select [] (.named pat false .here) d = .ok [Tree.childPath d pat] →
      shadowSite.tree.glob [] d pat = .ok [Tree.childPath d pat] := fun _ _ hs hd hf =>
    glob_eq_of_select_single hs hd hf
  have hlog : LogOutside ["out"] shadowSite.sink := by
    intro lf hlf
    cases (Option.some.inj hlf : (["run.log"] : List Text) = lf)
    decide
  have h : AssetsApart { staticAssets := ["styles.css", "logo.png"] }
      [PurePath.ofText "site", PurePath.ofText "def"] (PurePath.ofText "out") shadowSite ["out"]
      shadowMatches := by
    refine ⟨by decide +kernel, hlog, by unfold NoDotDot; decide +kernel, by decide +kernel, ?_,
      by decide +kernel, ?_,
      fun m hm => exists_eq_ok_of_toBool ?_, fun m hm => exists_eq_ok_of_toBool ?_⟩
    · intro d hd L hL
      simp only [List.mem_cons, List.not_mem_nil, or_false] at hd
      rcases hd with rfl | rfl
      · rw [show shadowSite.cwd = [] from rfl, hsite, Except.ok.injEq] at hL
        subst hL
        unfold Apart written
        decide
      · rw [show shadowSite.cwd = [] from rfl, hdef, Except.ok.injEq] at hL
        subst hL
        unfold Apart written
        decide
    · have g₁ := hglob (PurePath.ofText "site") "styles.css" rfl (by decide +kernel) (by decide +kernel)
      have g₂ := hglob (PurePath.ofText "site") "logo.png" rfl (by decide +kernel) (by decide +kernel)
      have g₃ := hglob (PurePath.ofText "def") "styles.css" rfl (by decide +kernel) (by decide +kernel)
      have g₄ := hglob (PurePath.ofText "def") "logo.png" rfl (by decide +kernel) (by decide +kernel)
      simp only [assetMatches, List.mapM_cons, List.mapM_nil, show shadowSite.cwd = [] from rfl,
        g₁, g₂, g₃, g₄]
      rfl
    · revert m
      decide +kernel
    · revert m
      decide +kernel
  exact ⟨h, copyAssets_first_files h⟩

/-- A session whose template directory `site` is also its output directory, holding
`styles.css`. -/
def sameDirSite : Session where
  tree := ⟨[(["site"], .dir), (["site", "styles.css"], .file [83])]⟩
  cwd := []
  packaged := ["def"]

/-- With the output directory among the template directories, the first asset is copied onto
itself, which the system refuses, and copying the assets fails. -/
theorem copyAssets_same_file :
    copyAssets { staticAssets := ["styles.css"] } [PurePath.ofText "site"] (PurePath.ofText "site")
        sameDirSite =
      .error (.fs (.io (.sameFile (PurePath.ofText "site/styles.css")
        (PurePath.ofText "site/styles.css")))) sameDirSite := by
  have hglob : sameDirSite.tree.glob sameDirSite.cwd (PurePath.ofText "site") "styles.css" =
      .ok [PurePath.ofText "site/styles.css"] := by
    have hs : Selector.ofPattern "styles.css" = .ok (.named "styles.css" false .here) := rfl
    have hf : sameDirSite.tree.select sameDirSite.cwd (.named "styles.css" false .here)
        (PurePath.ofText "site") = .ok [PurePath.ofText "site/styles.css"] := by
      decide +kernel
    exact glob_eq_of_select_single hs (by decide +kernel) hf
  have hprobe : sameDirSite.tree.probeFile sameDirSite.cwd (PurePath.ofText "site/styles.css") =
      .ok true := by
    decide +kernel
  have htarget : (PurePath.ofText "site").join { parts := [(PurePath.ofText "site/styles.css").name] } =
      PurePath.ofText "site/styles.css" := by
    decide
  have hreach : sameDirSite.tree.reach sameDirSite.cwd (PurePath.ofText "site/styles.css") =
      .ok ["site", "styles.css"] := by
    decide +kernel
  simp [copyAssets, copyAsset, hglob, hprobe, htarget, copyFile_self hreach]

end Copying

end Site

end DocPages
