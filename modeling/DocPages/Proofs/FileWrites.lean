import DocPages.Proofs.AsciiNames
import DocPages.Proofs.SourceWalk
/-!
# Writing files into a directory

A run that writes files directly into one directory, the output directory at location `o`,
changes nothing outside it: every directory stays a directory and nothing becomes one, and
every location outside `o` keeps its node and its entries. A log file written to as the run goes
is one more such location. `Tree.AgreeOff ws t t'` says this of two trees and the locations
`ws` written, and it holds from a tree to the tree after any number of such writes.

Reading a path depends only on the locations its walk passes. A path without `..` walks
through the prefixes of the location it names, so two trees that agree on those prefixes read
it alike (`Tree.SameAt`). Whether a path names a directory, and where a file is written, depend
only on which locations are directories.

## What is proved

* `Tree.get?_set`, `Tree.isDirAt_set_file`, `Tree.entries_set_of_not_child` — what setting a node
  changes.
* `Tree.AgreeOff.set_file`, `Tree.AgreeOff.appendAt` — writing a file directly into `o`, and
  appending to the log file, keep the agreement.
* `Tree.reach_eq_of_sameAt`, `Tree.probe_eq_of_sameAt` — paths read alike where the trees agree.
* `Tree.probeDir_eq_of_dirs`, `Tree.fileTarget_eq_of_dirs` — what depends on directories only.
* `Tree.fileTarget_childPath`, `Tree.writeFile_eq`, `Tree.copyFile_eq` — writing and copying a
  file by name into a directory; `Tree.copyFile_self` — a copy onto its own source is refused.
* `Tree.set_comm`, `Tree.appendAt_set` — writes to distinct locations, and appending to the log
  file, can be made in either order.
* `Tree.makeDirs_of_probeDir` — making a directory that is there already changes nothing.
-/

namespace DocPages

namespace Tree

variable {t t' : Tree}

/-! ### Setting a node -/

theorem get?_of_ne_nil {P : List Text} (hP : P ≠ []) :
    t.get? P = (t.nodes.find? (·.1 == P)).map (·.2) := by
  simp [get?, hP]

/-- The node found at `P` among nodes whose nodes at `L` are replaced by `n`. -/
theorem find?_map_replace {L P : List Text} {n : Node} (l : List (List Text × Node)) :
    ((l.map fun q => if q.1 == L then (L, n) else q).find? (·.1 == P)).map (·.2) =
      if P = L then (if l.any (·.1 == L) then some n else none) else (l.find? (·.1 == P)).map (·.2) := by
  induction l with
  | nil => split <;> rfl
  | cons q l ih =>
    rw [List.map_cons, List.find?_cons, List.any_cons]
    by_cases hq : q.1 = L
    · -- `q` is replaced by the node at `L`
      rw [if_pos (by simpa using hq)]
      by_cases hPL : P = L
      · subst hPL
        simp [hq]
      · simp only [beq_eq_false_iff_ne.mpr (Ne.symm hPL), if_neg hPL, List.find?_cons, beq_iff_eq,
          hq] at ih ⊢
        exact ih
    · have hqL : (q.1 == L) = false := beq_eq_false_iff_ne.mpr hq
      rw [if_neg (by simp [hqL]), hqL, Bool.false_or, List.find?_cons]
      by_cases hqP : q.1 = P
      · have hPL : P ≠ L := hqP ▸ hq
        simp [hqP, hPL]
      · simp only [beq_eq_false_iff_ne.mpr hqP]
        exact ih

/-- The node at a location other than the root after setting one. -/
theorem get?_set {L P : List Text} {n : Node} (hP : P ≠ []) :
    (t.set L n).get? P = if P = L then some n else t.get? P := by
  rw [get?_of_ne_nil hP, get?_of_ne_nil hP]
  unfold set
  split
  · rename_i hany
    rw [find?_map_replace, hany]
    rfl
  · rename_i hany
    rw [List.find?_append]
    by_cases hPL : P = L
    · subst hPL
      have hnone : t.nodes.find? (·.1 == P) = none :=
        List.find?_eq_none.mpr fun q hq hqP => hany (List.any_eq_true.mpr ⟨q, hq, hqP⟩)
      simp [hnone]
    · have hlast : [(L, n)].find? (·.1 == P) = none := by simp [Ne.symm hPL]
      rw [if_neg hPL, hlast, Option.or_none]

/-- Setting a file where no directory stands leaves every directory as it is. -/
theorem isDirAt_set_file {L P : List Text} {bytes : List UInt8} (hL : t.isDirAt L = false) :
    (t.set L (.file bytes)).isDirAt P = t.isDirAt P := by
  by_cases hP : P = []
  · subst hP
    rfl
  · simp only [isDirAt, get?_set hP]
    split
    · subst P
      simp only [isDirAt] at hL
      rw [hL]
      rfl
    · rfl

/-- The locations of the nodes after setting one: the same, or one more at the end. -/
theorem map_fst_set {L : List Text} {n : Node} :
    (t.set L n).nodes.map Prod.fst =
      if t.nodes.any (·.1 == L) then t.nodes.map Prod.fst else t.nodes.map Prod.fst ++ [L] := by
  unfold set
  split
  · simp only [List.map_map]
    refine List.map_congr_left fun q _ => ?_
    simp only [Function.comp]
    split <;> simp_all
  · simp

/-- Setting a node that is no child of `P` leaves the entries of `P` as they are. -/
theorem entries_set_of_not_child {L P : List Text} {n : Node} (h : ∀ x, L ≠ P ++ [x]) :
    (t.set L n).entries P = t.entries P := by
  rw [entries_eq, entries_eq, map_fst_set]
  split
  · rfl
  · have hL : entryName P L = none := by
      cases he : entryName P L with
      | none => rfl
      | some x => exact absurd (entryName_eq_some.mp he) (h x)
    simp [List.filterMap_append, hL]

/-- Setting a node where one stands leaves every entry list as it is. -/
theorem entries_set_of_mem {L P : List Text} {n : Node} (hL : t.nodes.any (·.1 == L) = true) :
    (t.set L n).entries P = t.entries P := by
  rw [entries_eq, entries_eq, map_fst_set, if_pos hL]

/-- A location other than the root where something stands is among the nodes. -/
theorem any_of_get?_eq_some {L : List Text} {n : Node} (h : t.get? L = some n) (hL : L ≠ []) :
    t.nodes.any (·.1 == L) = true := by
  rw [get?_of_ne_nil hL] at h
  obtain ⟨q, hq, -⟩ := Option.map_eq_some_iff.mp h
  have hqL := List.find?_some hq
  exact List.any_eq_true.mpr ⟨q, List.mem_of_find?_eq_some hq, hqL⟩

/-- Setting a node twice is setting it the second time. -/
theorem set_set {L : List Text} {a b : Node} : (t.set L a).set L b = t.set L b := by
  unfold set
  split
  · rename_i hany
    have hany' : (t.nodes.map fun q => if q.1 == L then (L, a) else q).any (·.1 == L) = true := by
      obtain ⟨q, hq, hqL⟩ := List.any_eq_true.mp hany
      refine List.any_eq_true.mpr ⟨_, List.mem_map_of_mem hq, ?_⟩
      split <;> simp_all
    simp only [hany', if_true, List.map_map, Tree.mk.injEq]
    refine List.map_congr_left fun q _ => ?_
    simp only [Function.comp]
    split <;> simp_all
  · rename_i hany
    have hall : ∀ q ∈ t.nodes, (q.1 == L) = false := fun q hq => by
      cases h : q.1 == L
      · rfl
      · exact absurd (List.any_eq_true.mpr ⟨q, hq, h⟩) hany
    simp only [List.any_append, List.any_cons, beq_self_eq_true, List.map_append, List.map_cons,
      List.map_nil, if_pos]
    rw [List.map_congr_left fun q hq => by rw [hall q hq, if_neg Bool.false_ne_true], List.map_id']
    simp

/-- Replacing the nodes at one location keeps every location where it was. -/
theorem any_map_replace {L K : List Text} {a : Node} (l : List (List Text × Node)) :
    (l.map fun q => if q.1 == L then (L, a) else q).any (·.1 == K) = l.any (·.1 == K) := by
  induction l with
  | nil => rfl
  | cons q l ih =>
    simp only [List.map_cons, List.any_cons, ih]
    split <;> simp_all

/-- Setting nodes at two locations, the second standing already, can be done in either order. -/
theorem set_comm {L M : List Text} {a b : Node} (hLM : L ≠ M) (hM : t.nodes.any (·.1 == M) = true) :
    (t.set L a).set M b = (t.set M b).set L a := by
  have hrep : ∀ q : List Text × Node,
      (if (if q.1 == L then (L, a) else q).1 == M then (M, b) else if q.1 == L then (L, a) else q) =
        (if (if q.1 == M then (M, b) else q).1 == L then (L, a) else if q.1 == M then (M, b) else q) := by
    intro q
    by_cases hqL : q.1 = L
    · have hqM : q.1 ≠ M := hqL ▸ hLM
      simp [hqL, hLM]
    · by_cases hqM : q.1 = M
      · simp [hqM, Ne.symm hLM]
      · simp [hqL, hqM]
  unfold set
  by_cases hL : t.nodes.any (·.1 == L) = true
  · simp only [hL, if_true, any_map_replace, hM, List.map_map, Function.comp_def]
    exact congrArg Tree.mk (List.map_congr_left fun q _ => hrep q)
  · have hL' : t.nodes.any (·.1 == L) = false := Bool.eq_false_iff.mpr hL
    have hML : (L == M) = false := beq_eq_false_iff_ne.mpr hLM
    simp only [hL', hM, if_true, List.any_append, Bool.true_or, any_map_replace, Bool.false_eq_true,
      if_false, List.map_append, List.map_cons, List.map_nil, hML]

/-- Appending to the file at one location and setting a node at another can be done in either
order. -/
theorem appendAt_set {L lf : List Text} {n : Node} {bytes : List UInt8} (h : L ≠ lf) :
    (t.set L n).appendAt lf bytes = (t.appendAt lf bytes).set L n := by
  by_cases hlf : lf = []
  · subst hlf
    rfl
  · unfold appendAt
    rw [get?_set hlf, if_neg (Ne.symm h)]
    split
    · rename_i old hold
      exact set_comm h (any_of_get?_eq_some hold hlf)
    · rfl

/-! ### Agreeing outside the locations written -/

/-- `P` lies outside each of the locations `ws`: it is none of them and lies below none. -/
def Outside (ws : List (List Text)) (P : List Text) : Prop := ∀ w ∈ ws, ¬ w <+: P

/-- `t'` agrees with `t` outside the locations `ws`: the same locations are directories, and
every location outside them has the same node and the same entries. -/
structure AgreeOff (ws : List (List Text)) (t t' : Tree) : Prop where
  /-- The directories are the same. -/
  dirs : ∀ P, t'.isDirAt P = t.isDirAt P
  /-- Outside `ws`, the nodes are the same. -/
  get : ∀ P, Outside ws P → t'.get? P = t.get? P
  /-- Outside `ws`, the entries are the same. -/
  entries : ∀ P, Outside ws P → t'.entries P = t.entries P

theorem AgreeOff.refl (ws : List (List Text)) (t : Tree) : AgreeOff ws t t :=
  ⟨fun _ => rfl, fun _ _ => rfl, fun _ _ => rfl⟩

theorem AgreeOff.trans {ws : List (List Text)} {t'' : Tree} (h : AgreeOff ws t t')
    (h' : AgreeOff ws t' t'') : AgreeOff ws t t'' :=
  ⟨fun P => (h'.dirs P).trans (h.dirs P), fun P hP => (h'.get P hP).trans (h.get P hP),
    fun P hP => (h'.entries P hP).trans (h.entries P hP)⟩

/-- **Writing a file directly into one of the locations** keeps the tree in agreement outside
them. -/
theorem AgreeOff.set_file {ws : List (List Text)} {o : List Text} {m : Text} {bytes : List UInt8}
    (h : AgreeOff ws t t') (ho : o ∈ ws) (hdir : t'.isDirAt (o ++ [m]) = false) :
    AgreeOff ws t (t'.set (o ++ [m]) (.file bytes)) := by
  refine h.trans ⟨fun P => isDirAt_set_file hdir, fun P hP => ?_, fun P hP => ?_⟩
  · by_cases hP0 : P = []
    · subst hP0
      rfl
    · rw [get?_set hP0, if_neg]
      rintro rfl
      exact hP o ho (List.prefix_append _ _)
  · refine entries_set_of_not_child fun x hx => hP o ho ?_
    have : o = P := by simpa using List.append_inj_left' hx rfl
    exact this ▸ List.prefix_refl P

/-- **Appending to a file at one of the locations** keeps the tree in agreement outside them:
nothing new stands anywhere. -/
theorem AgreeOff.appendAt {ws : List (List Text)} {lf : List Text} {bytes : List UInt8}
    (h : AgreeOff ws t t') (hf : lf ∈ ws) : AgreeOff ws t (t'.appendAt lf bytes) := by
  unfold Tree.appendAt
  split
  · rename_i old hold
    have hdir : t'.isDirAt lf = false := by simp [isDirAt, hold]
    have hlf : lf ≠ [] := by
      rintro rfl
      simp [get?] at hold
    refine h.trans ⟨fun P => isDirAt_set_file hdir, fun P hP => ?_,
      fun P _ => entries_set_of_mem (any_of_get?_eq_some hold hlf)⟩
    by_cases hP0 : P = []
    · subst hP0
      rfl
    · rw [get?_set hP0, if_neg]
      rintro rfl
      exact hP _ hf (List.prefix_refl _)
  · exact h

/-! ### Walks -/

theorem locate_eq_ok {cur L : List Text} {ns : List Text} (h : t.locate cur ns = .ok L) :
    L = ns.foldl stepName cur := by
  induction ns generalizing cur with
  | nil => simpa [locate] using h.symm
  | cons n ns ih =>
    simp only [locate] at h
    split at h
    · split at h
      · cases h
      · exact ih h
    · cases h
    · cases h

/-- A walk without `..` passes only through prefixes of where it leads. -/
theorem prefix_foldl_stepName {cur : List Text} {ns : List Text} (h : (".." : Text) ∉ ns) :
    cur <+: ns.foldl stepName cur := by
  induction ns generalizing cur with
  | nil => exact List.prefix_refl cur
  | cons n ns ih =>
    have hstep : cur <+: stepName cur n := by
      unfold stepName
      split
      · rename_i hn
        exact absurd (beq_iff_eq.mp hn ▸ List.mem_cons_self) h
      · split
        · exact List.prefix_refl cur
        · exact List.prefix_append cur [n]
    exact hstep.trans (ih fun h' => h (List.mem_cons_of_mem _ h'))

/-- Two trees that agree on the prefixes of where a walk without `..` leads walk it alike. -/
theorem locate_congr {cur : List Text} {ns : List Text} (hn : (".." : Text) ∉ ns)
    (h : ∀ P, P <+: ns.foldl stepName cur → t'.get? P = t.get? P) :
    t'.locate cur ns = t.locate cur ns := by
  induction ns generalizing cur with
  | nil => rfl
  | cons n ns ih =>
    have hcur : t'.get? cur = t.get? cur := h cur (prefix_foldl_stepName hn)
    have hrest : t'.locate (stepName cur n) ns = t.locate (stepName cur n) ns :=
      ih (fun h' => hn (List.mem_cons_of_mem _ h')) h
    simp only [locate, hcur, hrest]

/-- A walk's result up to which failure it is: a name too long, or another. -/
def tooLongOrNot {α : Type} (r : Except Errno α) : Except Bool α :=
  r.mapError (· == .nameTooLong)

/-- One step of a walk, up to why it fails: it goes on from a directory, unless the name is too
long, and fails otherwise. -/
theorem tooLongOrNot_locate_cons (t : Tree) (cur : List Text) (n : Text) (ns : List Text) :
    tooLongOrNot (t.locate cur (n :: ns)) =
      if t.isDirAt cur then
        (if tooLong n then .error true else tooLongOrNot (t.locate (stepName cur n) ns))
      else .error false := by
  simp only [locate]
  split
  · rename_i h
    simp only [isDirAt, h, beq_self_eq_true, if_true]
    split <;> rfl
  · rename_i bytes h
    simp [isDirAt, h, tooLongOrNot]
  · rename_i h
    simp [isDirAt, h, tooLongOrNot]

/-- Two trees with the same directories walk alike, up to why a walk fails when no name is too
long. -/
theorem tooLongOrNot_locate_of_dirs (hd : ∀ P, t'.isDirAt P = t.isDirAt P) (cur : List Text)
    (ns : List Text) : tooLongOrNot (t'.locate cur ns) = tooLongOrNot (t.locate cur ns) := by
  induction ns generalizing cur with
  | nil => rfl
  | cons n ns ih => rw [tooLongOrNot_locate_cons, tooLongOrNot_locate_cons, hd cur, ih]

/-! ### Reading a path -/

/-- Where a path leads, the tree not consulted: the walk of its names from the root or the
working directory. -/
def dest (cwd : List Text) (p : PurePath) : List Text :=
  (p.parts.map canonicalName).foldl stepName (if p.isAbsolute then [] else cwd)

theorem namesOf_eq_ok {cwd s ns : List Text} {p : PurePath} (h : namesOf cwd p = .ok (s, ns)) :
    s = (if p.isAbsolute then [] else cwd) ∧ ns = p.parts.map canonicalName := by
  unfold namesOf at h
  split at h
  · cases h
  · split at h
    · cases h
    · split at h
      · cases h
      · cases h
        exact ⟨rfl, rfl⟩

theorem not_mem_dotdot {p : PurePath} (h : (".." : Text) ∉ p.parts) : (".." : Text) ∉ p.parts.map canonicalName := by
  intro hm
  obtain ⟨x, hx, hcx⟩ := List.mem_map.mp hm
  exact h (canonicalName_eq_dotdot.mp hcx ▸ hx)

theorem reach_eq_dest {cwd L : List Text} {p : PurePath} (h : t.reach cwd p = .ok L) :
    L = dest cwd p := by
  unfold reach at h
  cases hn : namesOf cwd p with
  | error e => simp [hn] at h
  | ok sn =>
    obtain ⟨s, ns⟩ := sn
    obtain ⟨rfl, rfl⟩ := namesOf_eq_ok hn
    simp only [hn, bind, Except.bind] at h
    split at h
    · cases h
    · rename_i loc hloc
      split at h
      · cases h
        exact locate_eq_ok hloc
      · cases h

/-- The trees agree on every location the walk of `p` passes, and the walk takes no `..`. -/
structure SameAt (t t' : Tree) (cwd : List Text) (p : PurePath) : Prop where
  /-- No name of the path is `..`. -/
  plain : (".." : Text) ∉ p.parts
  /-- The trees agree on the prefixes of where the path leads. -/
  agree : ∀ P, P <+: dest cwd p → t'.get? P = t.get? P

theorem reach_eq_of_sameAt {cwd : List Text} {p : PurePath} (h : SameAt t t' cwd p) :
    t'.reach cwd p = t.reach cwd p := by
  unfold reach
  cases hn : namesOf cwd p with
  | error e => rfl
  | ok sn =>
    obtain ⟨s, ns⟩ := sn
    obtain ⟨rfl, rfl⟩ := namesOf_eq_ok hn
    simp only [bind, Except.bind]
    rw [locate_congr (not_mem_dotdot h.plain) h.agree]
    split
    · rfl
    · rename_i loc hloc
      have hdest : loc = dest cwd p := locate_eq_ok hloc
      have hhas : t'.has loc = t.has loc := by
        rw [has, has, h.agree loc (by simp only [hdest, List.prefix_refl])]
      rw [hhas]

theorem get?_eq_of_sameAt {cwd L : List Text} {p : PurePath} (h : SameAt t t' cwd p)
    (hr : t.reach cwd p = .ok L) : t'.get? L = t.get? L :=
  h.agree L (reach_eq_dest hr ▸ List.prefix_refl _)

theorem stat_eq_of_sameAt {cwd : List Text} {p : PurePath} (h : SameAt t t' cwd p) :
    t'.stat cwd p = t.stat cwd p := by
  unfold stat
  rw [reach_eq_of_sameAt h]
  cases hr : t.reach cwd p with
  | error e => rfl
  | ok L => simp only [bind, Except.bind, get?_eq_of_sameAt h hr]

theorem probe_eq_of_sameAt {cwd : List Text} {p : PurePath} (h : SameAt t t' cwd p) :
    t'.probe cwd p = t.probe cwd p := by
  simp only [probe, stat_eq_of_sameAt h]

theorem readFile_eq_of_sameAt {cwd : List Text} {p : PurePath} (h : SameAt t t' cwd p) :
    t'.readFile cwd p = t.readFile cwd p := by
  unfold readFile
  rw [reach_eq_of_sameAt h]
  cases hr : t.reach cwd p with
  | error e => rfl
  | ok L => simp only [bind, Except.bind, get?_eq_of_sameAt h hr]

/-! ### Apart from the locations written -/

/-- Below a location that lies apart from `o`, neither above nor below it, nothing is `o` or
below it. -/
theorem not_prefix_of_apart {o B L P : List Text} (hBo : ¬ B <+: o) (hoB : ¬ o <+: B)
    (hB : B <+: L) (hP : P <+: L) : ¬ o <+: P := by
  intro hoP
  rcases List.prefix_or_prefix_of_prefix (hoP.trans hP) hB with h | h
  · exact hoB h
  · exact hBo h

/-- `B` lies apart from each of the locations `ws`: neither at or below one nor above one. -/
def Apart (ws : List (List Text)) (B : List Text) : Prop := ∀ w ∈ ws, ¬ B <+: w ∧ ¬ w <+: B

/-- Every prefix of a location below `B` lies outside the locations `B` is apart from. -/
theorem Apart.outside {ws : List (List Text)} {B L P : List Text} (h : Apart ws B) (hB : B <+: L)
    (hP : P <+: L) : Outside ws P :=
  fun w hw => not_prefix_of_apart (h w hw).1 (h w hw).2 hB hP

/-- A path without `..` that leads below a location apart from `ws` reads alike in trees that
agree outside `ws`. -/
theorem AgreeOff.sameAt {ws : List (List Text)} {B cwd : List Text} {p : PurePath}
    (h : AgreeOff ws t t') (hB : Apart ws B) (hp : (".." : Text) ∉ p.parts) (hBd : B <+: dest cwd p) :
    SameAt t t' cwd p :=
  ⟨hp, fun P hP => h.get P (hB.outside hBd hP)⟩

/-! ### What depends on directories only -/

theorem tooLongOrNot_eq_ok {α : Type} {r : Except Errno α} {a : α} :
    tooLongOrNot r = .ok a ↔ r = .ok a := by
  cases r <;> simp [tooLongOrNot]

/-- Whether a path names a directory: where its walk leads, unless a name is too long or the
path cannot be handed to the system. -/
theorem probeDir_eq (cwd : List Text) (p : PurePath) : t.probeDir cwd p =
    match namesOf cwd p with
    | .error (.io (.nameTooLong shown)) => .error (.nameTooLong shown)
    | .error _ => .ok false
    | .ok (s, ns) =>
      match tooLongOrNot (t.locate s ns) with
      | .ok L => .ok (t.isDirAt L)
      | .error true => .error (.nameTooLong p.toText)
      | .error false => .ok false := by
  unfold probeDir probe stat reach
  cases hn : namesOf cwd p with
  | error e =>
    simp only [bind, Except.bind]
    split <;> rename_i he <;> cases e <;> simp_all []
  | ok sn =>
    obtain ⟨s, ns⟩ := sn
    simp only [bind, Except.bind]
    cases hl : t.locate s ns with
    | error e => cases e <;> rfl
    | ok L =>
      simp only [tooLongOrNot, Except.mapError]
      by_cases hL : t.has L
      · obtain ⟨x, hx⟩ := Option.isSome_iff_exists.mp hL
        simp [hL, isDirAt, hx]
      · have hnd : t.isDirAt L = false := by
          cases hd : t.isDirAt L
          · rfl
          · exact absurd (has_of_isDirAt hd) hL
        simp [hL, hnd]

/-- Whether a path names a directory depends only on the directories. -/
theorem probeDir_eq_of_dirs (hd : ∀ P, t'.isDirAt P = t.isDirAt P) (cwd : List Text)
    (p : PurePath) : t'.probeDir cwd p = t.probeDir cwd p := by
  rw [probeDir_eq, probeDir_eq]
  split
  · rfl
  · rfl
  · rw [tooLongOrNot_locate_of_dirs hd]
    simp only [hd]

/-- A path names a directory only when the system takes it and its walk ends at a directory. -/
theorem probeDir_eq_ok_true {cwd : List Text} {p : PurePath} (h : t.probeDir cwd p = .ok true) :
    ∃ s ns L, namesOf cwd p = .ok (s, ns) ∧ t.locate s ns = .ok L ∧ t.isDirAt L = true := by
  rw [probeDir_eq] at h
  split at h
  · cases h
  · cases h
  · rename_i s ns hn
    cases hl : t.locate s ns with
    | error e => rw [hl] at h; cases e <;> cases h
    | ok L =>
      rw [hl] at h
      simp only [tooLongOrNot, Except.mapError, Except.ok.injEq] at h
      exact ⟨s, ns, L, hn, hl, h⟩

/-- A walk through `xs` and then `ys` is the walk through `ys` from where `xs` leads. -/
theorem locate_append {cur : List Text} (xs ys : List Text) :
    t.locate cur (xs ++ ys) = (t.locate cur xs).bind fun D => t.locate D ys := by
  induction xs generalizing cur with
  | nil => rfl
  | cons n xs ih =>
    simp only [List.cons_append, locate]
    split
    · split
      · rfl
      · exact ih
    · rfl
    · rfl

/-- A walk through one more name passes the directory that name is taken in. -/
theorem locate_concat_eq_ok {cur L : List Text} {ns : List Text} {last : Text}
    (h : t.locate cur (ns ++ [last]) = .ok L) :
    ∃ D, t.locate cur ns = .ok D ∧ t.get? D = some .dir ∧ tooLong last = false ∧
      L = stepName D last := by
  rw [locate_append] at h
  cases hD : t.locate cur ns with
  | error e => rw [hD] at h; cases h
  | ok D =>
    rw [hD] at h
    simp only [Except.bind, locate] at h
    cases hg : t.get? D with
    | none => rw [hg] at h; cases h
    | some node =>
      cases node with
      | file b => rw [hg] at h; cases h
      | dir =>
        rw [hg] at h
        by_cases htoo : tooLong last = true
        · rw [if_pos htoo] at h
          cases h
        · rw [if_neg htoo] at h
          exact ⟨D, rfl, hg, by simpa using htoo, (Except.ok.inj h).symm⟩

/-- The directory a path's last name lies in, when it is found. -/
theorem reachParent_eq_ok {cwd D : List Text} {p : PurePath} {last : Text}
    (h : t.reachParent cwd p = .ok (D, some last)) :
    ∃ s ns, namesOf cwd p = .ok (s, ns ++ [last]) ∧ t.locate s ns = .ok D ∧
      t.get? D = some .dir ∧ tooLong last = false := by
  unfold reachParent at h
  cases hn : namesOf cwd p with
  | error e => simp [hn] at h
  | ok sn =>
    obtain ⟨s, names⟩ := sn
    simp only [hn, bind, Except.bind] at h
    cases hlast : names.getLast? with
    | none => simp [hlast] at h
    | some last' =>
      have hnames : names = names.dropLast ++ [last'] :=
        (List.dropLast_append_getLast? _ hlast).symm
      simp only [hlast] at h
      cases hD : t.locate s names.dropLast with
      | error e => simp [hD] at h
      | ok D' =>
        simp only [hD] at h
        cases hg : t.get? D' with
        | none => simp [hg] at h
        | some node =>
          cases node with
          | file b => simp [hg] at h
          | dir =>
            by_cases htoo : tooLong last' = true
            · simp [hg, htoo] at h
            · simp only [hg, htoo, Bool.false_eq_true, if_false, Except.ok.injEq, Prod.mk.injEq,
                Option.some.injEq] at h
              obtain ⟨rfl, rfl⟩ := h
              exact ⟨s, names.dropLast, by rw [← hnames], hD, hg, by simpa using htoo⟩

/-- The parent of a path whose other names lead to a directory, its last name not too long. -/
theorem reachParent_of_locate {cwd s D : List Text} {ns : List Text} {p : PurePath} {last : Text}
    (hn : namesOf cwd p = .ok (s, ns ++ [last])) (hD : t.locate s ns = .ok D)
    (hdir : t.get? D = some .dir) (htoo : tooLong last = false) :
    t.reachParent cwd p = .ok (D, some last) := by
  simp [reachParent, hn, hD, hdir, htoo]

/-- Where a file is written: the next name in the directory its path's other names lead to,
which must not be `.`, `..` or a directory. -/
theorem fileTarget_eq_ok {cwd L : List Text} {p : PurePath} (h : t.fileTarget cwd p = .ok L) :
    ∃ s ns last D, namesOf cwd p = .ok (s, ns ++ [last]) ∧ t.locate s ns = .ok D ∧
      t.get? D = some .dir ∧ tooLong last = false ∧ last ≠ ".." ∧ last ≠ "." ∧
      L = D ++ [last] ∧ t.isDirAt L = false := by
  unfold fileTarget at h
  cases hr : t.reachParent cwd p with
  | error e => simp [hr] at h
  | ok r =>
    obtain ⟨D, last⟩ := r
    cases last with
    | none => simp [hr] at h
    | some last =>
      obtain ⟨s, ns, hn, hD, hdir, htoo⟩ := reachParent_eq_ok hr
      simp only [hr, bind, Except.bind] at h
      by_cases hcheck : (last == ".." || last == "." || t.isDirAt (stepName D last)) = true
      · simp [hcheck] at h
      · simp only [hcheck, Bool.false_eq_true, if_false, Except.pure_eq_ok, Except.ok.injEq] at h
        simp only [Bool.or_eq_true, beq_iff_eq, not_or] at hcheck
        obtain ⟨⟨h1, h2⟩, h3⟩ := hcheck
        have hstep : stepName D last = D ++ [last] := by
          rw [stepName, if_neg (by simpa using h1), if_neg (by simpa using h2)]
        refine ⟨s, ns, last, D, hn, hD, hdir, htoo, h1, h2, by rw [← h, hstep], ?_⟩
        rw [← h]
        simpa using h3

/-- A file is written where its path leads. -/
theorem fileTarget_eq_dest {cwd L : List Text} {p : PurePath} (h : t.fileTarget cwd p = .ok L) :
    L = dest cwd p := by
  obtain ⟨s, ns, last, D, hn, hD, -, -, h1, h2, rfl, -⟩ := fileTarget_eq_ok h
  obtain ⟨rfl, hns⟩ := namesOf_eq_ok hn
  rw [dest, ← hns, List.foldl_append, ← locate_eq_ok hD]
  simp [stepName, h1, h2]

/-- Where a file is written depends only on the directories. -/
theorem fileTarget_eq_of_dirs (hd : ∀ P, t'.isDirAt P = t.isDirAt P) {cwd L : List Text}
    {p : PurePath} (h : t.fileTarget cwd p = .ok L) : t'.fileTarget cwd p = .ok L := by
  obtain ⟨s, ns, last, D, hn, hD, hdir, htoo, h1, h2, rfl, hL⟩ := fileTarget_eq_ok h
  have hD' : t'.locate s ns = .ok D := by
    rw [← tooLongOrNot_eq_ok, tooLongOrNot_locate_of_dirs hd, tooLongOrNot_eq_ok, hD]
  have hdir' : t'.get? D = some .dir := by
    have := hd D
    simp only [isDirAt, hdir] at this
    simpa using this
  have hL' : t'.isDirAt (D ++ [last]) = false := by rw [hd, hL]
  simp [fileTarget, reachParent, hn, hD', hdir', htoo, h1, h2, stepName, hL']

/-- Writing a file where it can be written sets it. -/
theorem writeFile_eq {cwd L : List Text} {p : PurePath} (bytes : List UInt8)
    (h : t.fileTarget cwd p = .ok L) : t.writeFile cwd p bytes = .ok (t.set L (.file bytes)) := by
  simp [writeFile, h]

theorem dest_childPath (cwd : List Text) (p : PurePath) (n : Text) :
    dest cwd (childPath p n) = stepName (dest cwd p) (canonicalName n) := by
  simp [dest, childPath, List.foldl_append, PurePath.isAbsolute]

/-- A file written by name into the directory at `o` goes to `o` and that name. -/
theorem fileTarget_childPath {cwd o L : List Text} {out : PurePath} {n : Text}
    (ho : t.reach cwd out = .ok o) (h : t.fileTarget cwd (childPath out n) = .ok L) :
    L = o ++ [canonicalName n] ∧ t.isDirAt L = false := by
  obtain ⟨s, ns, last, D, hn, hD, -, -, -, -, rfl, hL⟩ := fileTarget_eq_ok h
  refine ⟨?_, hL⟩
  obtain ⟨hs, hns⟩ := namesOf_eq_ok hn
  simp only [childPath, List.map_append, List.map_cons, List.map_nil] at hns
  obtain ⟨hns, hlast⟩ := List.append_inj' hns.symm rfl
  have hDo : D = o := by
    rw [locate_eq_ok hD, reach_eq_dest ho, dest, hs, hns]
    rfl
  rw [hDo, List.singleton_inj.mp hlast]

/-- Copying a file to a new place sets the target to the source's bytes. -/
theorem copyFile_eq {cwd S L : List Text} {src dst : PurePath} {bytes : List UInt8}
    (hsrc : t.reach cwd src = .ok S) (hS : t.get? S = some (.file bytes))
    (hdst : t.fileTarget cwd dst = .ok L) (hne : S ≠ L) :
    t.copyFile cwd src dst = .ok (t.set L (.file bytes)) := by
  have hread : t.readFile cwd src = .ok bytes := by
    simp [readFile, hsrc, hS]
  unfold copyFile
  rw [hsrc]
  cases hd : t.reach cwd dst with
  | error e => simp [hread, writeFile_eq _ hdst]
  | ok D =>
    have hDL : D = L := (reach_eq_dest hd).trans (fileTarget_eq_dest hdst).symm
    simp [hDL, hne, hread, writeFile_eq _ hdst]

/-- Copying a file that is there onto itself is refused. -/
theorem copyFile_self {cwd L : List Text} {p : PurePath} (h : t.reach cwd p = .ok L) :
    t.copyFile cwd p p = .error (.io (.sameFile p p)) := by
  simp [copyFile, h, throw, throwThe, MonadExceptOf.throw]

/-- Making a directory where one stands fails as making an existing file fails. -/
theorem makeDir_of_probeDir {cwd : List Text} {p : PurePath} (h : t.probeDir cwd p = .ok true) :
    ∃ shown, t.makeDir cwd p = .error (.io (.fileExists shown)) := by
  obtain ⟨s, names, L, hn, hl, hL⟩ := probeDir_eq_ok_true h
  refine ⟨p.toText, ?_⟩
  rcases List.eq_nil_or_concat names with rfl | ⟨ns, last, rfl⟩
  · -- no names: the path is where it starts
    simp [makeDir, reachParent, hn]
  · -- the last name is taken in a directory, where the directory it names stands
    rw [List.concat_eq_append] at hn hl
    obtain ⟨D, hD, hdir, htoo, rfl⟩ := locate_concat_eq_ok hl
    have hhas : t.has (stepName D last) = true := has_of_isDirAt hL
    simp [makeDir, reachParent_of_locate hn hD hdir htoo, hhas]

/-- **Making a directory that is there already changes nothing.** -/
theorem makeDirs_of_probeDir {cwd : List Text} {p : PurePath} (h : t.probeDir cwd p = .ok true) :
    t.makeDirs cwd p = .ok t := by
  obtain ⟨shown, hmk⟩ := makeDir_of_probeDir h
  simp [makeDirs, makeDirsAux, hmk, keepDir, h]

end Tree

end DocPages
