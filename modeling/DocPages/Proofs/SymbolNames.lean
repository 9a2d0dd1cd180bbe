import DocPages.Comment.Source
import Mathlib.Data.List.TakeWhile
import Mathlib.Tactic.IntervalCases
/-!
# Names of documented symbols

A documented symbol's name goes through up to four steps: the declaration's name (a run of word
characters, `$` and `.`) or the first word of a `name` tag; the check that it is not empty;
`Owner.prototype.member` read as `Owner.member`; and a leading `owner.` taken off when the
comment names its owner with a `memberof` tag. No step brings in whitespace, since no word
character is whitespace and every later step keeps a part of the name. But the emptiness check
comes before the owner is taken off: a comment whose name is exactly its owner followed by a dot
documents a symbol with an empty name.

## What is proved

* `Text.isSpace_eq_false_of_isWordChar` — no word character is whitespace.
* `Text.noSpace_firstWord` — a first word holds no whitespace.
* `Text.breakAt_eq_some` — a text broken at a separator is the part before it, the separator and
  the part after it.
* `Comment.dropOwner_eq_nil_iff` — taking the owner off a non-empty name leaves nothing exactly
  when the name is the owner and a dot.
* `Comment.parseSource_symbol_names` — every symbol of a source text has a name and an owner
  without whitespace, and its name is empty exactly when the comment's name, read without
  `.prototype`, is its owner followed by a dot.
-/

namespace DocPages

namespace Text

/-- A text without whitespace. -/
def NoSpace (t : Text) : Prop :=
  ∀ c ∈ t, isSpace c = false

theorem NoSpace.mono {s t : Text} (h : NoSpace t) (hst : ∀ c ∈ s, c ∈ t) : NoSpace s :=
  fun c hc => h c (hst c hc)

theorem noSpace_nil : NoSpace [] := by
  simp [NoSpace]

theorem noSpace_append {s t : Text} : NoSpace (s ++ t) ↔ NoSpace s ∧ NoSpace t := by
  simp [NoSpace, or_imp, forall_and]

/-! ### Word characters are not whitespace -/

/-- The whitespace code points, run by run. -/
def spaceCodes : List Nat :=
  List.range' 9 5 ++ List.range' 0x1C 5 ++ [0x85, 0xA0, 0x1680] ++ List.range' 0x2000 11 ++
    [0x2028, 0x2029, 0x202F, 0x205F, 0x3000]

theorem mem_spaceCodes_of_isSpace {p : Point} (h : isSpace p = true) : p.code ∈ spaceCodes := by
  unfold isSpace at h
  generalize p.code = n at h ⊢
  simp only [Bool.or_eq_true, Bool.and_eq_true, decide_eq_true_eq, beq_iff_eq] at h
  rcases h with ((((((((((⟨h₁, h₂⟩ | ⟨h₁, h₂⟩) | rfl) | rfl) | rfl) | ⟨h₁, h₂⟩) | rfl) | rfl) | rfl) |
    rfl) | rfl)
  · interval_cases n <;> decide
  · interval_cases n <;> decide
  · decide
  · decide
  · decide
  · interval_cases n <;> decide
  · decide
  · decide
  · decide
  · decide
  · decide

/-- No whitespace code point is alphanumeric. -/
theorem alnum_contains_eq_false_of_isSpace {p : Point} (h : isSpace p = true) :
    Unicode.alnumTable.contains p.code = false := by
  have hall : spaceCodes.all (fun n => !Unicode.alnumTable.contains n) = true := by
    decide +kernel
  simpa using List.all_eq_true.mp hall _ (mem_spaceCodes_of_isSpace h)

/-- No word character is whitespace. -/
theorem isSpace_eq_false_of_isWordChar {c : Point} (h : isWordChar c = true) :
    isSpace c = false := by
  unfold isWordChar at h
  rcases Bool.or_eq_true_iff.mp h with hu | ha
  · rw [beq_iff_eq.mp hu]
    rfl
  · cases hs : isSpace c
    · rfl
    · rw [alnum_contains_eq_false_of_isSpace hs] at ha
      cases ha

/-! ### Words -/

theorem noSpace_of_mem_wordsAux {cur t w : Text} (hcur : NoSpace cur) (hw : w ∈ wordsAux cur t) :
    NoSpace w := by
  induction t generalizing cur with
  | nil =>
    unfold wordsAux at hw
    split at hw
    · cases hw
    · rw [List.mem_singleton.mp hw]
      exact hcur.mono fun c hc => List.mem_reverse.mp hc
  | cons c rest ih =>
    unfold wordsAux at hw
    split at hw
    · -- a space ends the current word
      split at hw
      · exact ih noSpace_nil hw
      · rcases List.mem_cons.mp hw with rfl | hw
        · exact hcur.mono fun c hc => List.mem_reverse.mp hc
        · exact ih noSpace_nil hw
    · -- any other character extends it
      rename_i hc
      refine ih ?_ hw
      intro d hd
      rcases List.mem_cons.mp hd with rfl | hd
      · simpa using hc
      · exact hcur d hd

theorem noSpace_firstWord (t : Text) : NoSpace (firstWord t) := by
  unfold firstWord words
  cases hw : wordsAux [] t with
  | nil => exact noSpace_nil
  | cons w ws => exact noSpace_of_mem_wordsAux noSpace_nil (by rw [hw]; simp)

/-! ### Breaking at a separator -/

theorem breakAtAux_eq_some {sep before t a b : Text} (h : breakAtAux sep before t = some (a, b)) :
    a ++ sep ++ b = before.reverse ++ t := by
  induction t generalizing before with
  | nil =>
    unfold breakAtAux at h
    split at h
    · rename_i hsep
      cases h
      simp [List.isEmpty_iff.mp hsep]
    · cases h
  | cons c rest ih =>
    unfold breakAtAux at h
    split at h
    · rename_i hpre
      cases h
      have hsplit := List.prefix_iff_eq_append.mp (List.isPrefixOf_iff_prefix.mp hpre)
      rw [List.append_assoc, hsplit]
    · rw [ih h]
      simp

/-- A text broken at the first occurrence of a separator is the part before it, the separator
and the part after it. -/
theorem breakAt_eq_some {sep t a b : Text} (h : breakAt sep t = some (a, b)) :
    a ++ sep ++ b = t := by
  simpa using breakAtAux_eq_some h

end Text

open Text

namespace Comment

/-! ### Declared names -/

theorem isSpace_eq_false_of_isNameChar {c : Point} (h : isNameChar c = true) :
    isSpace c = false := by
  unfold isNameChar at h
  rcases Bool.or_eq_true_iff.mp h with h | hdot
  · rcases Bool.or_eq_true_iff.mp h with hw | hdollar
    · exact isSpace_eq_false_of_isWordChar hw
    · rw [beq_iff_eq.mp hdollar]
      rfl
  · rw [beq_iff_eq.mp hdot]
    rfl

/-- A run of name characters holds no whitespace. -/
theorem noSpace_takeWhile_isNameChar (r : Text) : NoSpace (r.takeWhile isNameChar) :=
  fun _ hc => isSpace_eq_false_of_isNameChar (List.mem_takeWhile_imp hc)

theorem noSpace_of_functionName? {line n : Text} (h : functionName? line = some n) : NoSpace n := by
  unfold functionName? at h
  split at h
  · dsimp only at h
    split at h
    · cases h
    · split at h
      · split at h
        · cases h
        · cases h
          exact noSpace_takeWhile_isNameChar _
      · cases h
  · cases h

theorem noSpace_of_assignedName? {r n : Text} {f : Bool} (h : assignedName? r = some (n, f)) :
    NoSpace n := by
  unfold assignedName? at h
  split at h
  · dsimp only at h
    split at h
    · cases h
    · cases h
      exact noSpace_takeWhile_isNameChar _
  · cases h

theorem noSpace_of_keywordAssignment? {kw line n : Text} {f : Bool}
    (h : keywordAssignment? kw line = some (n, f)) : NoSpace n := by
  unfold keywordAssignment? at h
  split at h
  · dsimp only at h
    split at h
    · cases h
    · exact noSpace_of_assignedName? h
  · cases h

/-- A declared name holds no whitespace. -/
theorem noSpace_of_declaredName {line n : Text} {f : Bool} (h : declaredName line = some (n, f)) :
    NoSpace n := by
  unfold declaredName at h
  split at h
  · rename_i name hfun
    cases h
    exact noSpace_of_functionName? hfun
  · -- the assignments, tried in turn
    simp only [Option.orElse_eq_or, Option.or_eq_some_iff] at h
    rcases h with h | ⟨-, h | ⟨-, h | ⟨-, h⟩⟩⟩
    · exact noSpace_of_keywordAssignment? h
    · exact noSpace_of_keywordAssignment? h
    · exact noSpace_of_keywordAssignment? h
    · exact noSpace_of_assignedName? h

/-! ### The name of a symbol -/

theorem noSpace_firstTagWord? {doc : DocComment} {t w : Text} (h : firstTagWord? doc t = some w) :
    NoSpace w := by
  unfold firstTagWord? at h
  split at h
  · split at h
    · cases h
    · cases h
      exact noSpace_firstWord _
  · cases h

theorem noSpace_statedName (doc : DocComment) (declaration : Text) :
    NoSpace (statedName doc declaration) := by
  unfold statedName
  cases hw : firstTagWord? doc "name" with
  | some w => exact noSpace_firstTagWord? hw
  | none =>
    simp only [Option.getD_none]
    split
    · rename_i n f hd
      exact noSpace_of_declaredName hd
    · exact noSpace_nil

theorem noSpace_dot : NoSpace (Text.ofString ".") := by
  simp [NoSpace, Text.ofString]
  rfl

theorem noSpace_unprototype {name : Text} (h : NoSpace name) : NoSpace (unprototype name) := by
  unfold unprototype
  split
  · rename_i owner m hbreak
    have hname := breakAt_eq_some hbreak
    have howner : NoSpace owner := h.mono fun c hc => hname ▸ by simp [hc]
    have hm : NoSpace m := h.mono fun c hc => hname ▸ by simp [hc]
    exact noSpace_append.mpr ⟨noSpace_append.mpr ⟨howner, noSpace_dot⟩, hm⟩
  · exact h

theorem unprototype_ne_nil {name : Text} (h : name ≠ []) : unprototype name ≠ [] := by
  unfold unprototype
  split
  · simp [show Text.ofString "." = [Point.char '.'] from rfl]
  · exact h

theorem noSpace_dropOwner (memberof : Text) {name : Text} (h : NoSpace name) :
    NoSpace (dropOwner memberof name) := by
  unfold dropOwner
  split
  · exact h.mono fun c hc => List.mem_of_mem_drop hc
  · exact h

/-- Taking the owner off a non-empty name leaves nothing exactly when the name is the owner
and a dot. -/
theorem dropOwner_eq_nil_iff {memberof name : Text} (h : name ≠ []) :
    dropOwner memberof name = [] ↔ memberof ≠ [] ∧ name = memberof ++ "." := by
  have hdot : Text.ofString "." = [Point.char '.'] := rfl
  unfold dropOwner
  split
  · rename_i hc
    simp only [Bool.and_eq_true, Bool.not_eq_true', List.isEmpty_eq_false_iff] at hc
    obtain ⟨hm, hpre⟩ := hc
    obtain ⟨rest, rfl⟩ := List.isPrefixOf_iff_prefix.mp hpre
    simp [hdot, hm]
  · rename_i hc
    refine iff_of_false h ?_
    rintro ⟨hm, rfl⟩
    apply hc
    simp [List.isEmpty_eq_false_iff.mpr hm, startsWith]

theorem buildSymbol_eq_some {doc : DocComment} {declaration : Text} {s : Symbol}
    (h : buildSymbol doc declaration = some s) :
    statedName doc declaration ≠ [] ∧ s.memberof = (firstTagWord? doc "memberof").getD [] ∧
      s.name = dropOwner s.memberof (unprototype (statedName doc declaration)) := by
  unfold buildSymbol at h
  dsimp only at h
  split at h
  · cases h
  · rename_i hne
    cases h
    exact ⟨by simpa using hne, rfl, rfl⟩

/-- The name and the owner of a symbol hold no whitespace, and its name is empty exactly when
the comment's stated name, read without `.prototype`, is its owner followed by a dot. -/
theorem symbol_names_of_buildSymbol {doc : DocComment} {declaration : Text} {s : Symbol}
    (h : buildSymbol doc declaration = some s) :
    NoSpace s.name ∧ NoSpace s.memberof ∧
      (s.name = [] ↔ s.memberof ≠ [] ∧ unprototype (statedName doc declaration) = s.memberof ++ ".") := by
  obtain ⟨hne, hm, hn⟩ := buildSymbol_eq_some h
  have hmember : NoSpace s.memberof := by
    rw [hm]
    cases hw : firstTagWord? doc "memberof" with
    | some w => exact noSpace_firstTagWord? hw
    | none => exact noSpace_nil
  refine ⟨?_, hmember, ?_⟩
  · rw [hn]
    exact noSpace_dropOwner _ (noSpace_unprototype (noSpace_statedName doc declaration))
  · rw [hn]
    exact dropOwner_eq_nil_iff (unprototype_ne_nil hne)

/-! ### The symbols of a source text -/

theorem mem_symbols_foldl_applyRole {rs : List Role} {f : SourceFile} {s : Symbol}
    (h : s ∈ (rs.foldl applyRole f).symbols) : s ∈ f.symbols ∨ Role.symbol s ∈ rs := by
  induction rs generalizing f with
  | nil => exact Or.inl h
  | cons r rs ih =>
    rcases ih h with h | h
    · -- only a symbol's role adds to the symbols
      cases r with
      | symbol s' =>
        rcases List.mem_append.mp h with h | h
        · exact Or.inl h
        · rw [List.mem_singleton.mp h]
          exact Or.inr List.mem_cons_self
      | ignored => exact Or.inl h
      | overview t => exact Or.inl h
      | undeclared => exact Or.inl h
    · exact Or.inr (List.mem_cons_of_mem _ h)

theorem buildSymbol_of_role_eq_symbol {body after : Text} {s : Symbol}
    (h : role body after = .symbol s) :
    buildSymbol (parseBody body) (nextDeclaration after) = some s := by
  unfold role at h
  dsimp only at h
  split at h
  · cases h
  · split at h
    · cases h
    · split at h
      · rename_i s' hs
        cases h
        exact hs
      · cases h

/-- Every symbol of a source text is documented by one of its comments. -/
theorem comment_of_mem_symbols {text path : Text} {s : Symbol}
    (h : s ∈ (parseSource text path).symbols) :
    ∃ body after, (body, after) ∈ bodies text ∧
      buildSymbol (parseBody body) (nextDeclaration after) = some s := by
  rcases mem_symbols_foldl_applyRole h with h | h
  · cases h
  · obtain ⟨⟨body, after⟩, hmem, hrole⟩ := List.mem_map.mp h
    exact ⟨body, after, hmem, buildSymbol_of_role_eq_symbol hrole⟩

/-- **Symbol names hold no whitespace; they are empty only after a bare owner.** Every symbol of
a source text has a name and an owner without whitespace. It is documented by one of the text's
comments, and its name is empty exactly when it has an owner and that comment's stated name
(its `name` tag's first word or its declared name), read without `.prototype`, is the owner
followed by a dot. -/
theorem parseSource_symbol_names (text path : Text) (s : Symbol)
    (hs : s ∈ (parseSource text path).symbols) :
    (∀ c ∈ s.name, isSpace c = false) ∧ (∀ c ∈ s.memberof, isSpace c = false) ∧
      ∃ body after, (body, after) ∈ bodies text ∧
        buildSymbol (parseBody body) (nextDeclaration after) = some s ∧
        (s.name = [] ↔ s.memberof ≠ [] ∧
          unprototype (statedName (parseBody body) (nextDeclaration after)) = s.memberof ++ ".") := by
  obtain ⟨body, after, hmem, hbuild⟩ := comment_of_mem_symbols hs
  obtain ⟨hname, hmember, hempty⟩ := symbol_names_of_buildSymbol hbuild
  exact ⟨hname, hmember, body, after, hmem, hbuild, hempty⟩

/-- The comment `@memberof Foo` above `Foo. = 1;` documents a symbol of `Foo` whose name is
empty, as `parseSource_symbol_names` allows. -/
theorem parseSource_symbol_names_bare_owner :
    ({ memberof := "Foo", doc := { tags := [{ title := "memberof", desc := "Foo" }] } } : Symbol) ∈
        (parseSource "/** @memberof Foo */\nFoo. = 1;" []).symbols ∧
      ((∀ c ∈ ([] : Text), isSpace c = false) ∧ (∀ c ∈ Text.ofString "Foo", isSpace c = false) ∧
        ∃ body after, (body, after) ∈ bodies "/** @memberof Foo */\nFoo. = 1;" ∧
          buildSymbol (parseBody body) (nextDeclaration after) =
            some { memberof := "Foo", doc := { tags := [{ title := "memberof", desc := "Foo" }] } } ∧
          (([] : Text) = [] ↔ Text.ofString "Foo" ≠ [] ∧
            unprototype (statedName (parseBody body) (nextDeclaration after)) =
              Text.ofString "Foo" ++ ".")) := by
  have hs : ({ memberof := "Foo", doc := { tags := [{ title := "memberof", desc := "Foo" }] } } :
      Symbol) ∈ (parseSource "/** @memberof Foo */\nFoo. = 1;" []).symbols := by
    decide +kernel
  exact ⟨hs, parseSource_symbol_names _ _ _ hs⟩

/-- A comment whose declared name is its owner followed by a dot documents a symbol with an
empty name. -/
theorem bare_owner_declaration_empty_name :
    ∃ s ∈ (parseSource "/** @memberof Foo */\nFoo. = 1;" []).symbols, s.name = [] := by
  decide +kernel

end Comment

end DocPages
