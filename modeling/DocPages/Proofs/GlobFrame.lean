import DocPages.Proofs.FileWrites
import DocPages.Proofs.Traversals
import DocPages.Fs.Glob
/-!
# Globbing apart from the locations written

A glob below a template directory reads only the directory and what lies below it, as long as
neither the directory's path nor the pattern nor any name in the tree is `..`: each path it
asks about leads to the directory or below it, and each entry list it reads is one of a
directory there. So when the template directory lies apart from the output directory and the
log file, neither inside one nor containing one, writing files there changes no glob of the
template directory. The walk below a `**` is bounded by the number of nodes, which writing
files changes; the bound is never reached, as a chain of directories that long would need
more directories than the tree has.

## What is proved

* `Tree.dirsBelow.go_fuel` — the walk below `**` does not depend on its bound, once the bound
  passes every chain of directories.
* `Tree.select_eq_of_agreeOff` — selecting from a path that leads into the template directory
  reads alike in trees that agree outside the locations written.
* `Tree.glob_eq_of_agreeOff` — so does the glob of the template directory.
* `Tree.along_of_mem_glob` — every path the glob finds leads into the template directory.
-/

namespace DocPages

namespace Tree

variable {t t' : Tree} {cwd B : List Text} {ws : List (List Text)}

/-! ### Paths into a directory -/

/-- The path leads, without `..`, to the location `B` or below it. -/
def Along (cwd B : List Text) (p : PurePath) : Prop :=
  (".." : Text) ∉ p.parts ∧ B <+: dest cwd p

theorem Along.childPath {p : PurePath} {n : Text} (h : Along cwd B p) (hn : n ≠ "..") :
    Along cwd B (childPath p n) := by
  refine ⟨?_, ?_⟩
  · simp only [Tree.childPath, List.mem_append, List.mem_singleton, not_or]
    exact ⟨h.1, Ne.symm hn⟩
  · rw [dest_childPath]
    have hcn : canonicalName n ≠ ".." := fun h' => hn (canonicalName_eq_dotdot.mp h')
    refine h.2.trans ?_
    unfold stepName
    split
    · rename_i h'
      exact absurd (beq_iff_eq.mp h') hcn
    · split
      · exact List.prefix_refl _
      · exact List.prefix_append _ _

/-- No node of the tree has `..` among its names. -/
def NoDotDot (t : Tree) : Prop := ∀ q ∈ t.nodes, (".." : Text) ∉ q.1

theorem NoDotDot.entry {n : Text} {P : List Text} (h : t.NoDotDot) (hn : n ∈ t.entries P) :
    n ≠ ".." := by
  obtain ⟨q, hq, hloc⟩ := mem_entries_iff.mp hn
  rintro rfl
  exact h q hq (by simp [hloc])

section Apart

variable (hag : AgreeOff ws t t') (hB : Apart ws B)
include hag hB

theorem Along.sameAt {p : PurePath} (h : Along cwd B p) : SameAt t t' cwd p :=
  hag.sameAt hB h.1 h.2

/-- The entries of every directory a path into `B` reaches are the same. -/
theorem entries_eq_of_reach {p : PurePath} {L : List Text} (h : Along cwd B p)
    (hr : t.reach cwd p = .ok L) (rel : List Text) : t'.entries (L ++ rel) = t.entries (L ++ rel) :=
  hag.entries _ (hB.outside ((reach_eq_dest hr ▸ h.2).trans (List.prefix_append _ _))
    (List.prefix_refl _))

end Apart

/-! ### The walk below `**` -/

/-- Every chain of directories below `loc`, each the entry of the one before, has fewer than
`F` links. -/
def ChainsBelow (t : Tree) (loc : List Text) (F : Nat) : Prop :=
  ∀ rel : List Text, (∀ q, q <+: rel → q ≠ [] → t.isDirAt (loc ++ q) = true) → rel.length < F

/-- The number of nodes bounds every chain of directories. -/
theorem chainsBelow_nodes (t : Tree) (loc : List Text) : ChainsBelow t loc (t.nodes.length + 1) :=
  fun _ h => Nat.lt_succ_of_le (length_le_of_prefixes fun q hq hne => has_of_isDirAt (h q hq hne))

theorem ChainsBelow.child {loc : List Text} {n : Text} {F : Nat} (h : ChainsBelow t loc (F + 1))
    (hn : t.isDirAt (loc ++ [n]) = true) : ChainsBelow t (loc ++ [n]) F := by
  intro rel hrel
  have := h (n :: rel) (forall_prefix_cons.mpr ⟨hn, fun q hq hne => by
    simpa using hrel q hq hne⟩)
  simpa using this

/-- **The walk below `**` does not depend on its bound** once the bound passes every chain of
directories. -/
theorem dirsBelow.go_fuel {F F' : Nat} {loc : List Text} {p : PurePath}
    (h : ChainsBelow t loc F) (h' : ChainsBelow t loc F') :
    dirsBelow.go t F loc p = dirsBelow.go t F' loc p := by
  induction F generalizing F' loc p with
  | zero => exact absurd (h [] (by simp)) (by simp)
  | succ a ih =>
    cases F' with
    | zero => exact absurd (h' [] (by simp)) (by simp)
    | succ b =>
      simp only [dirsBelow.go]
      congr 1
      refine List.flatMap_congr fun n _ => ?_
      split
      · rename_i hn
        exact ih (h.child hn) (h'.child hn)
      · rfl

/-- Trees with the same directories, and the same entries below `loc`, walk alike below it. -/
theorem dirsBelow.go_congr (hd : ∀ P, t'.isDirAt P = t.isDirAt P) {loc : List Text}
    (he : ∀ rel, t'.entries (loc ++ rel) = t.entries (loc ++ rel)) (F : Nat) (p : PurePath) :
    dirsBelow.go t' F loc p = dirsBelow.go t F loc p := by
  induction F generalizing loc p with
  | zero => rfl
  | succ a ih =>
    have he0 := he []
    rw [List.append_nil] at he0
    simp only [dirsBelow.go, he0, hd]
    congr 1
    refine List.flatMap_congr fun n _ => ?_
    split
    · exact ih (fun rel => by simpa using he (n :: rel)) _
    · rfl

/-- Every directory the walk below `**` gives leads into `B` when its start does. -/
theorem dirsBelow.along_of_mem_go (hn : t.NoDotDot) {F : Nat} {loc : List Text} {p q : PurePath}
    (hp : Along cwd B p) (hq : q ∈ dirsBelow.go t F loc p) : Along cwd B q := by
  induction F generalizing loc p with
  | zero => simp [dirsBelow.go] at hq
  | succ a ih =>
    simp only [dirsBelow.go, List.mem_cons, List.mem_flatMap] at hq
    rcases hq with rfl | ⟨n, hmem, hq⟩
    · exact hp
    · split at hq
      · exact ih (hp.childPath (hn.entry hmem)) hq
      · simp at hq

section Apart

variable (hag : AgreeOff ws t t') (hB : Apart ws B)
include hag hB

theorem dirsBelow_eq_of_agreeOff {p : PurePath} (hp : Along cwd B p) :
    t'.dirsBelow cwd p = t.dirsBelow cwd p := by
  unfold dirsBelow
  rw [reach_eq_of_sameAt (hp.sameAt hag hB)]
  cases hr : t.reach cwd p with
  | error e => rfl
  | ok L =>
    simp only
    have hchains : ChainsBelow t L (t'.nodes.length + 1) := fun rel hrel =>
      chainsBelow_nodes t' L rel fun q hq hne => by rw [hag.dirs]; exact hrel q hq hne
    rw [dirsBelow.go_congr hag.dirs (entries_eq_of_reach hag hB hp hr),
      dirsBelow.go_fuel hchains (chainsBelow_nodes t L)]

end Apart

theorem along_of_mem_dirsBelow (hn : t.NoDotDot) {p q : PurePath} (hp : Along cwd B p)
    (hq : q ∈ t.dirsBelow cwd p) : Along cwd B q := by
  unfold dirsBelow at hq
  split at hq
  · exact dirsBelow.along_of_mem_go hn hp hq
  · simp at hq

end Tree

/-! ### Selecting -/

/-- No segment of the selector names `..`. -/
def Selector.Plain : Selector → Prop
  | .here => True
  | .named name _ next => name ≠ ".." ∧ next.Plain
  | .matching _ _ next => next.Plain
  | .descend next => next.Plain

/-- Segments without `..` make a selector without `..`: each segment but an empty one puts its
own selector before the rest's. -/
theorem Selector.plain_ofSegments {segs : List Text} {sel : Selector}
    (hsegs : (".." : Text) ∉ segs) (h : Selector.ofSegments segs = .ok sel) : sel.Plain := by
  fun_induction Selector.ofSegments segs generalizing sel with
  | case1 =>
    cases h
    trivial
  | case2 =>
    cases h
    trivial
  | case3 seg rest _ _ ih =>
    obtain ⟨next, hnext, rfl⟩ := map_eq_ok_iff.mp h
    exact (ih (List.not_mem_of_not_mem_cons hsegs) hnext : next.Plain)
  | case4 => cases h
  | case5 seg rest _ _ _ _ ih =>
    obtain ⟨next, hnext, rfl⟩ := map_eq_ok_iff.mp h
    exact (ih (List.not_mem_of_not_mem_cons hsegs) hnext : next.Plain)
  | case6 seg rest _ _ _ _ ih =>
    obtain ⟨next, hnext, rfl⟩ := map_eq_ok_iff.mp h
    exact ⟨fun h' => hsegs (h' ▸ List.mem_cons_self), ih (List.not_mem_of_not_mem_cons hsegs) hnext⟩

theorem Selector.plain_ofPattern {pattern : Text} {sel : Selector}
    (hpat : (".." : Text) ∉ (PurePath.ofText pattern).parts) (h : Selector.ofPattern pattern = .ok sel) :
    sel.Plain := by
  unfold Selector.ofPattern at h
  simp only [bind, Except.bind] at h
  split at h
  · cases h
  · split at h
    · cases h
    · -- the segments are the pattern's names, and maybe an empty one
      have hsegs : (".." : Text) ∉ (PurePath.ofText pattern).parts ++
          (if pattern.getLast? == some (.char '/') then [[]] else []) := by
        rw [List.mem_append, not_or]
        refine ⟨hpat, ?_⟩
        split
        · simp only [List.mem_singleton]
          decide
        · simp
      split at h
      · cases h
      · cases h
      · exact Selector.plain_ofSegments hsegs h

namespace Tree

variable {t t' : Tree} {cwd B : List Text} {ws : List (List Text)}

theorem reach_of_probeDir {p : PurePath} (h : t.probeDir cwd p = .ok true) :
    ∃ L, t.reach cwd p = .ok L ∧ t.isDirAt L = true := by
  obtain ⟨s, ns, L, hn, hl, hL⟩ := probeDir_eq_ok_true h
  exact ⟨L, by simp [reach, hn, hl, has_of_isDirAt hL], hL⟩

/-- Every path a selector finds from a path into `B` leads into `B`. -/
theorem along_of_mem_select (hn : t.NoDotDot) : ∀ (sel : Selector), sel.Plain →
    ∀ p, Along cwd B p → ∀ found, t.select cwd sel p = .ok found → ∀ q ∈ found, Along cwd B q
  | .here, _, p, hp, found, h, q, hq => by
    cases h
    simp only [List.mem_singleton] at hq
    exact hq ▸ hp
  | .named name dirOnly next, hsel, p, hp, found, h, q, hq => by
    simp only [select, bind, Except.bind] at h
    split at h
    · cases h
    · split at h
      · exact along_of_mem_select hn next hsel.2 _ (hp.childPath hsel.1) found h q hq
      · cases h
        simp at hq
  | .matching pat dirOnly next, hsel, p, hp, found, h, q, hq => by
    simp only [select] at h
    split at h
    · cases h
      simp at hq
    · simp only [bind, Except.bind] at h
      split at h
      · cases h
      · rename_i rss hrss
        cases h
        obtain ⟨rs, hrs, hq⟩ := List.mem_flatten.mp hq
        obtain ⟨n, hmem, hsel'⟩ := mem_of_mapM_eq_ok hrss rs hrs
        exact along_of_mem_select hn next hsel _
          (hp.childPath (hn.entry (List.mem_of_mem_filter hmem))) rs hsel' q hq
  | .descend next, hsel, p, hp, found, h, q, hq => by
    simp only [select, bind, Except.bind] at h
    split at h
    · cases h
    · rename_i rss hrss
      cases h
      obtain ⟨rs, hrs, hq⟩ := List.mem_flatten.mp (List.mem_eraseDups.mp hq)
      obtain ⟨d, hd, hsel'⟩ := mem_of_mapM_eq_ok hrss rs hrs
      exact along_of_mem_select hn next hsel d (along_of_mem_dirsBelow hn hp hd) rs hsel' q hq

section Apart

variable (hag : AgreeOff ws t t') (hB : Apart ws B) (hn : t.NoDotDot)
include hag hB hn

/-- **Selecting from a path into `B`** reads alike in trees that agree outside `ws`. -/
theorem select_eq_of_agreeOff : ∀ (sel : Selector), sel.Plain → ∀ p, Along cwd B p →
    t'.select cwd sel p = t.select cwd sel p
  | .here, _, p, _ => rfl
  | .named name dirOnly next, hsel, p, hp => by
    have hq := hp.childPath hsel.1
    have hprobe := probe_eq_of_sameAt (hq.sameAt hag hB)
    simp only [select, probeDir, probeExists, hprobe,
      select_eq_of_agreeOff next hsel.2 _ hq]
  | .matching pat dirOnly next, hsel, p, hp => by
    simp only [select]
    rw [reach_eq_of_sameAt (hp.sameAt hag hB)]
    cases hr : t.reach cwd p with
    | error e => rfl
    | ok L =>
      have he := entries_eq_of_reach hag hB hp hr []
      rw [List.append_nil] at he
      simp only [he, hag.dirs]
      rw [List.mapM_congr_mem _ fun n hmem => select_eq_of_agreeOff next hsel _
        (hp.childPath (hn.entry (List.mem_of_mem_filter hmem)))]
  | .descend next, hsel, p, hp => by
    simp only [select, dirsBelow_eq_of_agreeOff hag hB hp]
    rw [List.mapM_congr_mem _ fun q hq => select_eq_of_agreeOff next hsel q
      (along_of_mem_dirsBelow hn hp hq)]

end Apart

/-! ### Globbing -/

/-- **The glob of a template directory apart from `ws`** reads alike in trees that agree
outside `ws`, when neither the directory's path, the pattern nor a name in the tree is `..`. -/
theorem glob_eq_of_agreeOff (hag : AgreeOff ws t t') (hn : t.NoDotDot) {d : PurePath}
    {pattern : Text} (hd : (".." : Text) ∉ d.parts)
    (hapart : ∀ L, t.reach cwd d = .ok L → Apart ws L)
    (hpat : (".." : Text) ∉ (PurePath.ofText pattern).parts) :
    t'.glob cwd d pattern = t.glob cwd d pattern := by
  unfold glob
  cases hs : Selector.ofPattern pattern with
  | error e => rfl
  | ok sel =>
    simp only [bind, Except.bind]
    rw [probeDir_eq_of_dirs hag.dirs]
    cases hpd : t.probeDir cwd d with
    | error e => rfl
    | ok b =>
      cases b with
      | false => rfl
      | true =>
        obtain ⟨L, hr, -⟩ := reach_of_probeDir hpd
        have hd' : Along cwd L d := ⟨hd, by simp only [← reach_eq_dest hr, List.prefix_refl]⟩
        simp only [select_eq_of_agreeOff hag (hapart L hr) hn sel (Selector.plain_ofPattern hpat hs) d hd']

/-- Every path the glob of a directory finds leads into the directory. -/
theorem along_of_mem_glob (hn : t.NoDotDot) {d : PurePath} {pattern : Text}
    {found : List PurePath} (hd : (".." : Text) ∉ d.parts)
    (hpat : (".." : Text) ∉ (PurePath.ofText pattern).parts) (h : t.glob cwd d pattern = .ok found)
    {q : PurePath} (hq : q ∈ found) : ∃ L, t.reach cwd d = .ok L ∧ Along cwd L q := by
  unfold glob at h
  cases hs : Selector.ofPattern pattern with
  | error e => simp [hs] at h
  | ok sel =>
    simp only [hs, bind, Except.bind] at h
    cases hpd : t.probeDir cwd d with
    | error e => simp [hpd] at h
    | ok b =>
      cases b with
      | false =>
        simp [hpd] at h
        subst h
        simp at hq
      | true =>
        obtain ⟨L, hr, -⟩ := reach_of_probeDir hpd
        have hd' : Along cwd L d := ⟨hd, by simp only [← reach_eq_dest hr, List.prefix_refl]⟩
        cases hsel : t.select cwd sel d with
        | error e => simp [hpd, hsel] at h
        | ok rs =>
          simp [hpd, hsel] at h
          subst h
          exact ⟨L, hr, along_of_mem_select hn sel (Selector.plain_ofPattern hpat hs) d hd' rs hsel q
            (List.mem_mergeSort.mp hq)⟩

end Tree

end DocPages
