import DocPages.Proofs.Republish
import DocPages.Page.Group
/-!
# Owners

A symbol's owner comes from two places. Normalisation derives it from a dotted name without an
owner: `Owner.rest` becomes the member `rest` of `Owner`. The page accumulator carries it along a
file: once a symbol names an owner, later symbols without one are grouped under it. This module
gives both a closed form.

## What is proved

* `Symbol.normalize_eq` — normalising rewrites exactly the symbols without an owner whose name
  has a dot with something before the first one; the owner becomes the text before that dot and
  the name the text after it.
* `normalizeFiles_rewrites_dotted` — over a list of files: what is rewritten, how many symbols
  the pass counts, that qualified names are kept, and that a second pass counts none and changes
  nothing.
* `Accumulator.fresh_step_last_owner` — at each symbol of a file, a fresh accumulator holds the
  owner of the last symbol so far that named one, and groups the symbol by it; before any owner,
  the group is the symbol's name after a dot.
-/

namespace DocPages

/-! ### The first dot -/

namespace Text

theorem breakAtAux_single (p : Point) (before t : Text) :
    breakAtAux [p] before t =
      if p ∈ t then some (before.reverse ++ t.takeWhile (· != p), (t.dropWhile (· != p)).drop 1)
      else none := by
  induction t generalizing before with
  | nil => simp [breakAtAux]
  | cons c rest ih =>
    by_cases hc : p = c
    · subst hc
      simp [breakAtAux]
    · have hne : (c != p) = true := by simpa using Ne.symm hc
      rw [breakAtAux, if_neg (by simpa [List.isPrefixOf] using hc), ih]
      simp [hne, hc]

/-- A text breaks at its first dot, if it has one. -/
theorem breakAt_dot (t : Text) :
    breakAt "." t =
      if Point.char '.' ∈ t then
        some (t.takeWhile (· != Point.char '.'), (t.dropWhile (· != Point.char '.')).drop 1)
      else none := by
  rw [breakAt, show Text.ofString "." = [Point.char '.'] from rfl, breakAtAux_single]
  rfl

/-- The text before the first dot, the dot and the text after it make up the text. -/
theorem takeWhile_dot_append {t : Text} (h : Point.char '.' ∈ t) :
    t.takeWhile (· != Point.char '.') ++ "." ++ (t.dropWhile (· != Point.char '.')).drop 1 = t := by
  induction t with
  | nil => cases h
  | cons c rest ih =>
    by_cases hc : c = Point.char '.'
    · subst hc
      simp
      rfl
    · have hr : Point.char '.' ∈ rest := by simpa [Ne.symm hc] using h
      have hne : (c != Point.char '.') = true := by simpa using hc
      simp only [List.takeWhile_cons, List.dropWhile_cons, hne, if_true, List.cons_append, ih hr]

end Text

/-! ### Normalising a symbol -/

/-- A symbol without an owner whose name has a dot with something before the first one. -/
def Symbol.HasDottedName (s : Symbol) : Prop :=
  s.memberof = [] ∧ Point.char '.' ∈ s.name ∧ s.name.takeWhile (· != Point.char '.') ≠ []

instance (s : Symbol) : Decidable s.HasDottedName :=
  inferInstanceAs (Decidable (_ ∧ _ ∧ _))

namespace Symbol

theorem dottedOwner?_eq (s : Symbol) :
    s.dottedOwner? =
      if s.HasDottedName then
        some (s.name.takeWhile (· != Point.char '.'),
          (s.name.dropWhile (· != Point.char '.')).drop 1)
      else none := by
  unfold dottedOwner? HasDottedName
  rw [Text.breakAt_dot]
  by_cases hm : s.memberof = []
  · by_cases hd : Point.char '.' ∈ s.name
    · by_cases ho : s.name.takeWhile (· != Point.char '.') = [] <;> simp [hm, hd, ho]
    · simp [hm, hd]
  · simp [hm]

/-- **Normalising rewrites exactly the dotted names without an owner.** The owner becomes the
text before the first dot and the name the text after it; every other field, and every other
symbol, is left as it was. -/
theorem normalize_eq (s : Symbol) :
    s.normalize =
      if s.HasDottedName then
        { s with memberof := s.name.takeWhile (· != Point.char '.'),
                 name := (s.name.dropWhile (· != Point.char '.')).drop 1 }
      else s := by
  by_cases h : s.HasDottedName <;> simp [normalize, dottedOwner?_eq, h]

theorem normalizes_eq (s : Symbol) : s.normalizes = decide s.HasDottedName := by
  rw [normalizes, normalize_eq]
  by_cases h : s.HasDottedName
  · -- the owner goes from empty to the non-empty text before the first dot
    have hne : s.name.takeWhile (· != Point.char '.') ≠ s.memberof := by
      rw [h.1]
      exact h.2.2
    simp [h, hne]
  · simp [h]

/-- Normalising keeps the qualified name: the owner, a dot and the new name spell the old name. -/
theorem qualifiedName_normalize (s : Symbol) : s.normalize.qualifiedName = s.qualifiedName := by
  rw [normalize_eq]
  by_cases h : s.HasDottedName
  · obtain ⟨hm, hd, ho⟩ := h
    have ho' : (s.name.takeWhile (· != Point.char '.')).isEmpty = false :=
      List.isEmpty_eq_false_iff.2 ho
    simp only [HasDottedName, hm, hd, ne_eq, ho, not_false_eq_true, and_self, if_true,
      qualifiedName, ho', List.isEmpty_nil]
    exact Text.takeWhile_dot_append hd
  · rw [if_neg h]

end Symbol

/-! ### Normalising files -/

section Files

variable (files : List SourceFile)

theorem normalizedCount_eq :
    normalizedCount files = (files.flatMap (·.symbols)).countP (fun s => decide s.HasDottedName) := by
  unfold normalizedCount
  congr 1
  funext s
  exact Symbol.normalizes_eq s

theorem symbols_normalizeFiles :
    (normalizeFiles files).flatMap (·.symbols) = (files.flatMap (·.symbols)).map Symbol.normalize := by
  simp [normalizeFiles, SourceFile.normalize, List.flatMap_map, List.map_flatMap]

/-- **Normalising files.** Every symbol is rewritten as `Symbol.normalize_eq` says, within its
file, with the file's path and overview kept; the pass counts exactly the rewritten symbols.
Every qualified name is kept, and normalising the result again counts nothing and changes
nothing. -/
theorem normalizeFiles_rewrites_dotted :
    normalizeFiles files =
      files.map (fun f => { f with symbols := f.symbols.map fun s =>
        if s.HasDottedName then
          { s with memberof := s.name.takeWhile (· != Point.char '.'),
                   name := (s.name.dropWhile (· != Point.char '.')).drop 1 }
        else s }) ∧
    normalizedCount files = (files.flatMap (·.symbols)).countP (fun s => decide s.HasDottedName) ∧
    (normalizeFiles files).map (·.symbols.map Symbol.qualifiedName) =
      files.map (·.symbols.map Symbol.qualifiedName) ∧
    normalizedCount (normalizeFiles files) = 0 ∧
    normalizeFiles (normalizeFiles files) = normalizeFiles files := by
  refine ⟨?_, normalizedCount_eq files, ?_, ?_, ?_⟩
  · simp only [normalizeFiles, ← Symbol.normalize_eq]
    rfl
  · simp [normalizeFiles, SourceFile.normalize, Function.comp_def, Symbol.qualifiedName_normalize]
  · -- a normalised symbol is not rewritten again
    rw [normalizedCount, symbols_normalizeFiles, List.countP_eq_zero]
    intro s hs
    obtain ⟨s, -, rfl⟩ := List.mem_map.1 hs
    simp [Symbol.normalizes]
  · simp [normalizeFiles, SourceFile.normalize, Function.comp_def]

end Files

/-! ### The owner a file's accumulator holds -/

namespace Accumulator

/-- The state after `pre` and then `s` is the one the run reports at `s`. -/
theorem steps_getElem?_length (acc : Accumulator) (pre post : List Symbol) (s : Symbol) :
    (acc.steps (pre ++ s :: post))[pre.length]? = some ((pre.foldl advance acc).advance s) := by
  induction pre generalizing acc with
  | nil => simp [steps]
  | cons t pre ih => simpa [steps] using ih (acc.advance t)

/-- After a run the accumulator holds the owner of the last symbol that named one, or the owner
it started with. -/
theorem memberof_foldl (acc : Accumulator) (syms : List Symbol) :
    (syms.foldl advance acc).memberof =
      ((syms.reverse.find? (fun t => !t.memberof.isEmpty)).map (·.memberof)).getD acc.memberof := by
  induction syms generalizing acc with
  | nil => rfl
  | cons t syms ih =>
    rw [List.foldl_cons, ih, List.reverse_cons, List.find?_append]
    cases syms.reverse.find? (fun t => !t.memberof.isEmpty) with
    | some u => rfl
    | none => cases ht : t.memberof.isEmpty <;> simp [advance, ht]

/-- **The group of each symbol is decided by the last owner so far.** For every file and every
symbol `s` in it, after the symbols `pre` before it, a fresh accumulator reports at `s` the
group of the owner of the last symbol up to `s` that names one, and holds that owner; when no
symbol so far names one, it reports `s`'s name after a dot and holds no owner. -/
theorem fresh_step_last_owner (pre post : List Symbol) (s : Symbol) :
    (({} : Accumulator).steps (pre ++ s :: post))[pre.length]? =
      some (match (pre ++ [s]).reverse.find? (fun t => !t.memberof.isEmpty) with
        | some t => { name := groupNameFor t.memberof, memberof := t.memberof }
        | none => { name := "." ++ s.name, memberof := [] }) := by
  rw [steps_getElem?_length, List.reverse_append, List.reverse_singleton, List.singleton_append,
    List.find?_cons]
  have hm := memberof_foldl {} pre
  cases hs : s.memberof.isEmpty
  · -- `s` names its own owner
    simp [advance, hs]
  · -- `s` has none: the owner held so far decides
    have hnil : s.memberof = [] := List.isEmpty_iff.1 hs
    cases hf : pre.reverse.find? (fun t => !t.memberof.isEmpty) with
    | none =>
      rw [hf] at hm
      simp [advance, hnil, hm]
    | some t =>
      have ht : t.memberof.isEmpty = false := by simpa using List.find?_some hf
      rw [hf] at hm
      simp [advance, hs, hm, ht]

end Accumulator

end DocPages
