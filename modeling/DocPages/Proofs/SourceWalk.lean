import DocPages.Scan
import Mathlib.Data.List.Nodup
import Mathlib.Data.List.Perm.Subperm
/-!
# Walking a source directory

A scanned directory is walked top-down. In each directory the walk lists the entries in code
point order, takes the files among them that end in `.js` and that no rule excludes as files,
then walks into the subdirectories among them that are neither version control nor package
directories and that no rule excludes as directories. The model bounds the depth of the walk by
the number of nodes of the tree.

This module gives the walk's result without the walk. A file is collected exactly when it ends
in `.js`, no rule excludes it, and every directory on the way down is entered. The files come in
pre-order: each directory's files, in code point order, before its subdirectories, in code point
order. The depth bound is never reached, since a path that deep would need more nodes than the
tree has.

The order holds for file trees as the system holds them: each location once, and names made of
characters and of surrogates from the surrogate range, as decoding a file name gives. Code point
order is only transitive on such names.

## What is proved

* `Text.le_iff_codes_lt` — on valid texts, code point order is the lexicographic order of the
  code numbers; so it is transitive there (`Text.le_trans_of_valid`), and total (`Text.le_total`).
* `Tree.pairwise_entries` — a directory's entries are distinct and in code point order.
* `mem_walkSources_iff` — what the walk collects below a directory, declaratively.
* `pairwise_walkSources` — the walk's result is in walk order.
-/

namespace DocPages

/-! ### Code point order -/

namespace Point

/-- A code point as a text holds it: a character, or a surrogate numbered in the surrogate
range. -/
def Valid : Point → Prop
  | .char _ => True
  | .surrogate n => isSurrogateCode n = true

instance : DecidablePred Point.Valid := fun
  | .char _ => isTrue trivial
  | .surrogate n => inferInstanceAs (Decidable (isSurrogateCode n = true))

/-- Valid code points with the same number are the same. -/
theorem eq_of_code_eq {a b : Point} (ha : a.Valid) (hb : b.Valid) (h : a.code = b.code) :
    a = b := by
  cases a with
  | char c =>
    cases b with
    | char d => exact congrArg Point.char (Char.ext (UInt32.toNat_inj.mp h))
    | surrogate n =>
      simp only [Valid, isSurrogateCode, Bool.and_eq_true, decide_eq_true_eq] at hb
      have hc := c.valid
      simp only [code] at h
      rw [Char.toNat] at h
      rcases hc with hc | ⟨hc, -⟩ <;> omega
  | surrogate n =>
    cases b with
    | char d =>
      simp only [Valid, isSurrogateCode, Bool.and_eq_true, decide_eq_true_eq] at ha
      have hd := d.valid
      simp only [code] at h
      rw [Char.toNat] at h
      rcases hd with hd | ⟨hd, -⟩ <;> omega
    | surrogate m => exact congrArg Point.surrogate h

end Point

namespace Text

/-- A text made of valid code points. -/
def Valid (t : Text) : Prop :=
  ∀ p ∈ t, p.Valid

instance : DecidablePred Text.Valid := fun t => inferInstanceAs (Decidable (∀ p ∈ t, p.Valid))

theorem valid_cons {x : Point} {xs : Text} : Valid (x :: xs) ↔ x.Valid ∧ xs.Valid :=
  List.forall_mem_cons

theorem le_total (a b : Text) : (le a b || le b a) = true := by
  induction a generalizing b with
  | nil => simp [le]
  | cons x xs ih =>
    cases b with
    | nil => simp [le]
    | cons y ys =>
      by_cases hxy : x = y
      · subst hxy
        simpa [le] using ih ys
      · have hyx : (y == x) = false := by simpa using Ne.symm hxy
        simp only [le, beq_false_of_ne hxy, hyx, Bool.false_eq_true, if_false, Point.le,
          Bool.or_eq_true, decide_eq_true_eq]
        omega

/-- **Code point order on valid texts** is the lexicographic order of their code numbers. -/
theorem le_iff_codes_lt {a b : Text} (ha : a.Valid) (hb : b.Valid) :
    le a b = true ↔ a = b ∨ a.map Point.code < b.map Point.code := by
  induction a generalizing b with
  | nil =>
    cases b with
    | nil => simp [le]
    | cons y ys => simp [le]
  | cons x xs ih =>
    cases b with
    | nil => simp [le]
    | cons y ys =>
      obtain ⟨hx, hxs⟩ := valid_cons.mp ha
      obtain ⟨hy, hys⟩ := valid_cons.mp hb
      rw [List.map_cons, List.map_cons, List.cons_lt_cons_iff]
      by_cases hxy : x = y
      · -- equal first points: the rest decides
        subst hxy
        simp [le, ih hxs hys]
      · -- distinct valid points have distinct numbers, and the first decides
        have hcode : x.code ≠ y.code := fun h => hxy (Point.eq_of_code_eq hx hy h)
        simp [le, hxy, hcode, Point.le]
        omega

theorem le_trans_of_valid {a b c : Text} (ha : a.Valid) (hb : b.Valid) (hc : c.Valid)
    (hab : le a b = true) (hbc : le b c = true) : le a c = true := by
  rcases (le_iff_codes_lt ha hb).mp hab with rfl | h₁
  · exact hbc
  rcases (le_iff_codes_lt hb hc).mp hbc with rfl | h₂
  · exact hab
  exact (le_iff_codes_lt ha hc).mpr (.inr (List.lt_trans h₁ h₂))

end Text

/-- A list sorted by a comparison that is total and transitive on its elements. -/
theorem pairwise_mergeSort_of_mem {α : Type} {l : List α} {le : α → α → Bool}
    (trans : ∀ a ∈ l, ∀ b ∈ l, ∀ c ∈ l, le a b = true → le b c = true → le a c = true)
    (total : ∀ a ∈ l, ∀ b ∈ l, (le a b || le b a) = true) : (l.mergeSort le).Pairwise
      fun a b => le a b = true := by
  have hmap : (l.attach.mergeSort fun a b => le a.1 b.1).map Subtype.val =
      (l.attach.map Subtype.val).mergeSort le :=
    List.map_mergeSort fun _ _ _ _ => rfl
  rw [List.attach_map_subtype_val] at hmap
  rw [← hmap, List.pairwise_map]
  exact List.pairwise_mergeSort (fun a b c => trans a.1 a.2 b.1 b.2 c.1 c.2)
    (fun a b => total a.1 a.2 b.1 b.2) _

/-! ### Entries of a directory -/

namespace Tree

/-- A file tree as the system holds it: each location once, and every name made of valid code
points. -/
structure WellFormed (t : Tree) : Prop where
  /-- No location holds two nodes. -/
  nodup : (t.nodes.map Prod.fst).Nodup
  /-- Every name on the way to a node is valid. -/
  valid : ∀ q ∈ t.nodes, ∀ n ∈ q.1, n.Valid

instance (t : Tree) : Decidable t.WellFormed :=
  decidable_of_iff ((t.nodes.map Prod.fst).Nodup ∧ ∀ q ∈ t.nodes, ∀ n ∈ q.1, n.Valid)
    ⟨fun h => ⟨h.1, h.2⟩, fun h => ⟨h.nodup, h.valid⟩⟩

variable {t : Tree} {p : List Text} {n : Text}

/-- The name a node contributes to the entries of the directory at `p`. -/
def entryName (p q : List Text) : Option Text :=
  if q.dropLast == p && q.length == p.length + 1 then q.getLast? else none

theorem entryName_eq_some {q : List Text} : entryName p q = some n ↔ q = p ++ [n] := by
  unfold entryName
  constructor
  · intro h
    split at h
    · rename_i hq
      obtain ⟨ys, rfl⟩ := List.getLast?_eq_some_iff.mp h
      simp only [Bool.and_eq_true, beq_iff_eq, List.dropLast_concat] at hq
      rw [hq.1]
    · cases h
  · rintro rfl
    simp

theorem entries_eq (t : Tree) (p : List Text) :
    t.entries p = ((t.nodes.map Prod.fst).filterMap (entryName p)).mergeSort Text.le := by
  rw [entries, List.filterMap_map]
  rfl

theorem mem_entries_iff : n ∈ t.entries p ↔ ∃ q ∈ t.nodes, q.1 = p ++ [n] := by
  simp [entries_eq, entryName_eq_some]

/-- Something stands at a location other than the root exactly when a node is there. -/
theorem has_iff {x : List Text} (hx : x ≠ []) : t.has x = true ↔ ∃ q ∈ t.nodes, q.1 = x := by
  simp [has, get?, hx, List.find?_isSome]

/-- A name is an entry of a directory exactly when something stands at it. -/
theorem has_append_iff : t.has (p ++ [n]) = true ↔ n ∈ t.entries p := by
  rw [has_iff (by simp), mem_entries_iff]

theorem has_of_isDirAt {x : List Text} (h : t.isDirAt x = true) : t.has x = true := by
  simp only [isDirAt, beq_iff_eq] at h
  simp [has, h]

/-- An entry that is no directory is a file. -/
theorem file_iff_entry : (n ∈ t.entries p ∧ t.isDirAt (p ++ [n]) = false) ↔
    ∃ bytes, t.get? (p ++ [n]) = some (.file bytes) := by
  rw [← has_append_iff, has, isDirAt]
  cases h : t.get? (p ++ [n]) with
  | none => simp
  | some node => cases node <;> simp

/-- A path below `root` whose every non-empty prefix names a node is no longer than the number
of nodes: the prefixes are that many distinct locations. -/
theorem length_le_of_prefixes {root rel : List Text}
    (h : ∀ q, q <+: rel → q ≠ [] → t.has (root ++ q) = true) : rel.length ≤ t.nodes.length := by
  let locs := (List.range rel.length).map fun i => root ++ rel.take (i + 1)
  have hnodup : locs.Nodup := by
    refine List.Nodup.map_on ?_ List.nodup_range
    intro i hi j hj hij
    have := congrArg List.length hij
    simp only [List.mem_range] at hi hj
    simp only [List.length_append, List.length_take] at this
    omega
  have hsub : locs ⊆ t.nodes.map Prod.fst := by
    intro x hx
    obtain ⟨i, hi, rfl⟩ := List.mem_map.mp hx
    have hne : rel.take (i + 1) ≠ [] := by
      simp only [List.mem_range] at hi
      rw [Ne, List.take_eq_nil_iff]
      rintro (h | rfl)
      · omega
      · simp at hi
    obtain ⟨q, hq, hloc⟩ := (has_iff (by simp [hne])).mp (h _ (List.take_prefix _ _) hne)
    exact List.mem_map.mpr ⟨q, hq, hloc⟩
  have := (hnodup.subperm hsub).length_le
  simpa [locs] using this

/-- **A directory's entries are distinct and in code point order.** -/
theorem pairwise_entries (ht : t.WellFormed) (p : List Text) :
    (t.entries p).Pairwise fun a b => a ≠ b ∧ Text.le a b = true := by
  have hvalid : ∀ a ∈ t.entries p, a.Valid := by
    intro a ha
    obtain ⟨q, hq, hloc⟩ := mem_entries_iff.mp ha
    exact ht.valid q hq a (by simp [hloc])
  have hsorted : (t.entries p).Pairwise fun a b => Text.le a b = true := by
    rw [entries_eq]
    refine pairwise_mergeSort_of_mem ?_ fun a _ b _ => Text.le_total a b
    have hmem : ∀ a, a ∈ (t.nodes.map Prod.fst).filterMap (entryName p) → a.Valid := fun a ha =>
      hvalid a (by rw [entries_eq, List.mem_mergeSort]; exact ha)
    intro a ha b hb c hc hab hbc
    exact Text.le_trans_of_valid (hmem a ha) (hmem b hb) (hmem c hc) hab hbc
  have hnodup : (t.entries p).Nodup := by
    rw [entries_eq, (List.mergeSort_perm _ _).nodup_iff]
    refine List.Nodup.filterMap (fun q q' a hq hq' => ?_) ht.nodup
    rw [Option.mem_def, entryName_eq_some] at hq hq'
    rw [hq, hq']
  exact hnodup.and hsorted

/-- Every non-empty prefix of `rel ++ s` names a node below `root` when those of `rel` do, and
those of `s` do below `rel`. -/
theorem has_prefixes_append {root rel s : List Text}
    (hrel : ∀ q, q <+: rel → q ≠ [] → t.has (root ++ q) = true)
    (hs : ∀ q, q <+: s → q ≠ [] → t.has (root ++ (rel ++ q)) = true) :
    ∀ q, q <+: rel ++ s → q ≠ [] → t.has (root ++ q) = true := by
  intro q hq hne
  rcases List.prefix_or_prefix_of_prefix hq (List.prefix_append rel s) with h | ⟨u, rfl⟩
  · exact hrel q h hne
  · by_cases hu : u = []
    · subst hu
      rw [List.append_nil] at hne ⊢
      exact hrel rel (List.prefix_refl rel) hne
    · exact hs u ((List.prefix_append_right_inj rel).mp hq) hu

end Tree

/-- The non-empty prefixes of `m :: p` are `[m]` and `m` before each non-empty prefix of `p`. -/
theorem forall_prefix_cons {α : Type} {P : List α → Prop} {m : α} {p : List α} :
    (∀ q, q <+: m :: p → q ≠ [] → P q) ↔ P [m] ∧ ∀ q, q <+: p → q ≠ [] → P (m :: q) := by
  constructor
  · intro h
    exact ⟨h [m] (List.cons_prefix_cons.mpr ⟨rfl, List.nil_prefix⟩) (List.cons_ne_nil _ _),
      fun q hq _ => h (m :: q) (List.cons_prefix_cons.mpr ⟨rfl, hq⟩) (List.cons_ne_nil _ _)⟩
  · rintro ⟨hm, hp⟩ q hq hne
    rcases List.prefix_cons_iff.mp hq with rfl | ⟨u, rfl, hu⟩
    · exact absurd rfl hne
    · by_cases hu0 : u = []
      · subst hu0
        exact hm
      · exact hp u hu hu0

/-! ### What the walk collects -/

section Walk

variable {t : Tree} {rules : List IgnoreRule} {root p : List Text} {n : Text}

/-- A directory the walk enters, at `p` below its root `root`: a directory that is neither
version control nor a package directory and that no rule excludes as a directory. -/
def Entered (t : Tree) (rules : List IgnoreRule) (root p : List Text) : Prop :=
  t.isDirAt (root ++ p) = true ∧ p.getLastD [] ∉ skippedDirs ∧
    ignored rules (Text.join "/" p) true = false

/-- A file the walk keeps, named `n` in the directory at `p` below its root `root`: its name
ends in `.js` and no rule excludes it as a file. -/
def KeptFile (t : Tree) (rules : List IgnoreRule) (root p : List Text) (n : Text) : Prop :=
  (∃ bytes, t.get? (root ++ (p ++ [n])) = some (.file bytes)) ∧
    Text.endsWith n sourceSuffix = true ∧ ignored rules (Text.join "/" (p ++ [n])) false = false

/-- A file the walk collects, at `r` below its root `root`: a file it keeps, every directory
above which, below the root, it enters. -/
def Collected (t : Tree) (rules : List IgnoreRule) (root r : List Text) : Prop :=
  ∃ p n, r = p ++ [n] ∧ KeptFile t rules root p n ∧ ∀ q, q <+: p → q ≠ [] → Entered t rules root q

theorem Entered.has (h : Entered t rules root p) : t.has (root ++ p) = true :=
  Tree.has_of_isDirAt h.1

theorem KeptFile.has (h : KeptFile t rules root p n) : t.has (root ++ (p ++ [n])) = true := by
  obtain ⟨⟨bytes, hb⟩, -⟩ := h
  simp [Tree.has, hb]

/-- The walk's test for the files of a directory. -/
theorem keptFile_iff : (n ∈ t.entries (root ++ p) ∧
    (!t.isDirAt (root ++ p ++ [n]) && Text.endsWith n sourceSuffix &&
      !ignored rules (Text.join "/" (p ++ [n])) false) = true) ↔ KeptFile t rules root p n := by
  have hfile := (Tree.file_iff_entry (t := t) (p := root ++ p) (n := n))
  simp only [List.append_assoc] at hfile
  simp only [Bool.and_eq_true, Bool.not_eq_eq_eq_not, Bool.not_true, List.append_assoc, KeptFile,
    ← hfile]
  tauto

/-- The walk's test for the subdirectories it enters. -/
theorem entered_iff : (n ∈ t.entries (root ++ p) ∧
    (t.isDirAt (root ++ p ++ [n]) && !skippedDirs.contains n &&
      !ignored rules (Text.join "/" (p ++ [n])) true) = true) ↔
    Entered t rules root (p ++ [n]) := by
  simp only [Bool.and_eq_true, Bool.not_eq_eq_eq_not, Bool.not_true, Entered, List.append_assoc,
    List.getLastD_concat]
  constructor
  · rintro ⟨-, ⟨hdir, hskip⟩, hrule⟩
    exact ⟨hdir, by simpa using hskip, hrule⟩
  · rintro ⟨hdir, hskip, hrule⟩
    have hmem : n ∈ t.entries (root ++ p) := by
      rw [← Tree.has_append_iff, List.append_assoc]
      exact Tree.has_of_isDirAt hdir
    exact ⟨hmem, ⟨hdir, by simpa using hskip⟩, hrule⟩

/-- **What the walk collects.** Walking the directory at `rel` below the root, with fuel enough
for a path as long as the tree has nodes, collects exactly the files it keeps below `rel` all of
whose directories below `rel` it enters. -/
theorem mem_walkSources_iff {fuel : Nat} {rel : List Text}
    (hfuel : t.nodes.length < fuel + rel.length)
    (hrel : ∀ q, q <+: rel → q ≠ [] → t.has (root ++ q) = true) (r : List Text) :
    r ∈ walkSources t rules fuel (root ++ rel) rel ↔
      ∃ p n, r = rel ++ (p ++ [n]) ∧ KeptFile t rules root (rel ++ p) n ∧
        ∀ q, q <+: p → q ≠ [] → Entered t rules root (rel ++ q) := by
  induction fuel generalizing rel r with
  | zero =>
    simp only [walkSources, List.not_mem_nil, false_iff]
    rintro ⟨p, n, rfl, hkept, hentered⟩
    have hall := Tree.has_prefixes_append (s := p ++ [n]) hrel fun q hq hne => by
      rcases List.prefix_concat_iff.mp hq with rfl | hq
      · simpa using hkept.has
      · exact (hentered q hq hne).has
    have := Tree.length_le_of_prefixes hall
    simp only [List.length_append, List.length_cons, List.length_nil] at this
    omega
  | succ fuel ih =>
    have hsub : ∀ m, Entered t rules root (rel ++ [m]) → ∀ r,
        r ∈ walkSources t rules fuel (root ++ rel ++ [m]) (rel ++ [m]) ↔
          ∃ p n, r = rel ++ [m] ++ (p ++ [n]) ∧ KeptFile t rules root (rel ++ [m] ++ p) n ∧
            ∀ q, q <+: p → q ≠ [] → Entered t rules root (rel ++ [m] ++ q) := by
      intro m hm r
      rw [List.append_assoc root]
      refine ih (by simp only [List.length_append, List.length_singleton]; omega) ?_ r
      refine Tree.has_prefixes_append hrel fun q hq hne => ?_
      rcases List.prefix_cons_iff.mp hq with rfl | ⟨u, rfl, hu⟩
      · exact absurd rfl hne
      · rw [List.prefix_nil.mp hu]
        exact hm.has
    simp only [walkSources, List.mem_append, List.mem_map, List.mem_filter, List.mem_flatMap]
    constructor
    · rintro (⟨n, hn, rfl⟩ | ⟨m, hm, hr⟩)
      · -- a file of this directory
        exact ⟨[], n, by simp, by simpa using keptFile_iff.mp hn, by simp⟩
      · -- a file below a subdirectory
        have hm := entered_iff.mp hm
        obtain ⟨p, n, rfl, hkept, hentered⟩ := (hsub m hm r).mp hr
        refine ⟨m :: p, n, by simp, by simpa using hkept, ?_⟩
        exact forall_prefix_cons.mpr ⟨hm, fun q hq hne => by simpa using hentered q hq hne⟩
    · rintro ⟨p, n, rfl, hkept, hentered⟩
      cases p with
      | nil => exact .inl ⟨n, keptFile_iff.mpr (by simpa using hkept), by simp⟩
      | cons m p =>
        obtain ⟨hm, hentered⟩ := forall_prefix_cons.mp hentered
        refine .inr ⟨m, entered_iff.mpr hm, (hsub m hm _).mpr ⟨p, n, by simp, by simpa using hkept,
          fun q hq hne => by simpa using hentered q hq hne⟩⟩

/-! ### The order of the walk -/

/-- The order in which a top-down walk yields files, by their paths below its root: in each
directory its files in code point order, then the files below its subdirectories, subdirectory
by subdirectory in code point order. -/
inductive WalkBefore : List Text → List Text → Prop
  /-- Two files of one directory, in code point order. -/
  | files {c : List Text} {a b : Text} : a ≠ b → Text.le a b = true →
      WalkBefore (c ++ [a]) (c ++ [b])
  /-- A file of a directory before everything below its subdirectories. -/
  | fileFirst {c s : List Text} {a d : Text} : s ≠ [] → WalkBefore (c ++ [a]) (c ++ d :: s)
  /-- What lies below two subdirectories of one directory, in their code point order. -/
  | dirs {c s u : List Text} {d e : Text} : d ≠ e → Text.le d e = true → s ≠ [] → u ≠ [] →
      WalkBefore (c ++ d :: s) (c ++ e :: u)

/-- What the walk of the directory at `rel` yields lies strictly below `rel`. -/
theorem below_of_mem_walkSources {fuel : Nat} {loc rel r : List Text}
    (h : r ∈ walkSources t rules fuel loc rel) : ∃ s, r = rel ++ s ∧ s ≠ [] := by
  induction fuel generalizing loc rel with
  | zero => simp [walkSources] at h
  | succ fuel ih =>
    simp only [walkSources, List.mem_append, List.mem_map, List.mem_flatMap] at h
    rcases h with ⟨n, -, rfl⟩ | ⟨m, -, hr⟩
    · exact ⟨[n], rfl, List.cons_ne_nil _ _⟩
    · obtain ⟨s, rfl, -⟩ := ih hr
      exact ⟨m :: s, by simp, List.cons_ne_nil _ _⟩

/-- **The walk's order.** In a well-formed tree, the walk yields its files in walk order. -/
theorem pairwise_walkSources (ht : t.WellFormed) (fuel : Nat) (loc rel : List Text) :
    (walkSources t rules fuel loc rel).Pairwise WalkBefore := by
  induction fuel generalizing loc rel with
  | zero => exact .nil
  | succ fuel ih =>
    have hnames := Tree.pairwise_entries ht loc
    have hdir : ∀ m r, r ∈ walkSources t rules fuel (loc ++ [m]) (rel ++ [m]) →
        ∃ s, r = rel ++ m :: s ∧ s ≠ [] := by
      intro m r hr
      obtain ⟨s, rfl, hs⟩ := below_of_mem_walkSources hr
      exact ⟨s, by simp, hs⟩
    simp only [walkSources]
    refine List.pairwise_append.mpr ⟨?_, ?_, ?_⟩
    · -- the files of this directory
      refine List.pairwise_map.mpr ((hnames.filter _).imp fun ⟨hne, hle⟩ => ?_)
      exact .files hne hle
    · -- the subdirectories, one after the other
      refine List.pairwise_flatMap.mpr ⟨fun m _ => ih _ _, (hnames.filter _).imp ?_⟩
      rintro d e ⟨hne, hle⟩ x hx y hy
      obtain ⟨s, rfl, hs⟩ := hdir d x hx
      obtain ⟨u, rfl, hu⟩ := hdir e y hy
      exact .dirs hne hle hs hu
    · -- the files of this directory before those below it
      intro x hx y hy
      obtain ⟨a, -, rfl⟩ := List.mem_map.mp hx
      obtain ⟨d, -, hy⟩ := List.mem_flatMap.mp hy
      obtain ⟨u, rfl, hu⟩ := hdir d y hy
      exact .fileFirst hu

end Walk

end DocPages
