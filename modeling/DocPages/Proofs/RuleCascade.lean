import Mathlib.Data.List.Basic
import DocPages.Proofs.Anchors
/-!
# Which rule takes a reference

The seven reference rules are tried in order, and their tests overlap: `Packages.helma` has one
dot and is taken by the member rule, `Packages.x.prototype.y` holds the prototype separator once
and is taken by the prototype rule. This module says, for every reference, what each test
accepts, and from that which references each part of the cascade receives.

Two formatters take their reference apart: the member rule reads `owner.member`, the prototype
rule `Owner.prototype.member`. Each is reached only through its test, and the test counts what
the formatter splits at; counting and splitting agree (`Text.length_splitOnText`), so the
formatter always finds exactly two pieces.

## What is proved

* `accepts_inNamespace`, `accepts_page`, `accepts_member`, `accepts_prototype` — each test as a
  statement about the reference's first segment, its dots and its separators.
* `firstMatch_outside_iff`, `firstMatch_eq_javadoc_iff` — a reference leaves the documentation
  exactly when every rule within it passes over the reference and it starts with `Packages.`.
* `SeeLink.resolve_two_piece_split` — when the member or the prototype rule is chosen, the
  reference splits into exactly two pieces and the address is made of them.
* `SeeLink.resolve_rule_regions` — the owner never decides the rule and changes the link only
  through the relative rule; the external and javadoc links, and the references no rule takes,
  are characterised by the reference alone.
-/

namespace DocPages

namespace Text

theorem startsWith_iff {t p : Text} : startsWith t p = true ↔ ∃ rest, t = p ++ rest := by
  rw [startsWith, List.isPrefixOf_iff_prefix]
  exact exists_congr fun _ => eq_comm

theorem startsWith_of_startsWith_append {t p q : Text} (h : startsWith t (p ++ q) = true) :
    startsWith t p = true := by
  obtain ⟨rest, rfl⟩ := startsWith_iff.1 h
  exact startsWith_iff.2 ⟨q ++ rest, List.append_assoc _ _ _⟩

end Text

namespace Rule

variable (st : LinkSettings) (item : Text)

/-! ### What each test accepts -/

theorem accepts_inNamespace :
    inNamespace.accepts st item = true ↔ item.takeWhile (· != Point.char '.') ∈ st.namespaces := by
  have hnil : Text.ofString "" = [] := rfl
  rw [accepts, hnil, Text.headD_splitOn, List.contains_iff_mem]

theorem accepts_page : page.accepts st item = true ↔ Point.char '.' ∉ item := by
  simp only [accepts, Bool.not_eq_eq_eq_not, Bool.not_true, List.any_eq_false, beq_iff_eq]
  exact ⟨fun h hm => h _ hm rfl, fun h x hx he => h (he ▸ hx)⟩

theorem accepts_member : member.accepts st item = true ↔ List.count (Point.char '.') item = 1 := by
  simp [accepts, Text.length_splitOn]

theorem accepts_prototype :
    prototype.accepts st item = true ↔ Text.count ".prototype." item = 1 := by
  simp [accepts, prototypeSeparator]

/-- A javadoc reference is a `Packages.` reference. -/
theorem accepts_search_of_javadoc (h : javadoc.accepts st item = true) :
    search.accepts st item = true := by
  have hp : javadocPrefix = packagesPrefix ++ Text.ofString "helma." := rfl
  rw [accepts, hp] at h
  exact Text.startsWith_of_startsWith_append h

theorem accepts_of_firstMatch {r : Rule} (h : firstMatch st item = some r) :
    r.accepts st item = true :=
  List.find?_some h

/-! ### Within the documentation and outside it -/

/-- The five rules within the documentation are tried before the two that lead outside it. -/
theorem firstMatch_eq_or :
    firstMatch st item =
      ([inNamespace, relative, page, member, prototype].find? (·.accepts st item)).or
        ([javadoc, search].find? (·.accepts st item)) := by
  rw [firstMatch, show order = [inNamespace, relative, page, member, prototype] ++ [javadoc, search]
    from rfl, List.find?_append]

theorem firstMatch_eq_javadoc_iff :
    firstMatch st item = some javadoc ↔
      [inNamespace, relative, page, member, prototype].find? (·.accepts st item) = none ∧
        javadoc.accepts st item = true := by
  rw [firstMatch_eq_or]
  cases hw : [inNamespace, relative, page, member, prototype].find? (·.accepts st item) with
  | some r =>
    have hr := List.mem_of_find?_eq_some hw
    simp only [Option.some_or, Option.some.injEq, reduceCtorEq, false_and, iff_false]
    rintro rfl
    simp at hr
  | none =>
    cases hj : javadoc.accepts st item
    · cases hs : search.accepts st item <;> simp [hj, hs]
    · simp [hj]

/-- A reference leaves the documentation exactly when the rules within it all pass it over and
it starts with `Packages.`: the javadoc test asks for more than the search test. -/
theorem firstMatch_outside_iff :
    (firstMatch st item = some javadoc ∨ firstMatch st item = some search) ↔
      [inNamespace, relative, page, member, prototype].find? (·.accepts st item) = none ∧
        search.accepts st item = true := by
  rw [firstMatch_eq_or]
  cases hw : [inNamespace, relative, page, member, prototype].find? (·.accepts st item) with
  | some r =>
    have hr := List.mem_of_find?_eq_some hw
    simp only [Option.some_or, Option.some.injEq, reduceCtorEq, false_and, iff_false]
    rintro (rfl | rfl) <;> simp at hr
  | none =>
    cases hj : javadoc.accepts st item
    · cases hs : search.accepts st item <;> simp [hj, hs]
    · simp [hj, accepts_search_of_javadoc st item hj]

/-- No rule takes a reference whose first segment is no namespace, that starts neither with `#`
nor with `Packages.`, has two dots or more and not exactly one prototype separator. -/
theorem firstMatch_eq_none_iff :
    firstMatch st item = none ↔
      item.takeWhile (· != Point.char '.') ∉ st.namespaces ∧ Text.startsWith item "#" = false ∧
        Text.startsWith item "Packages." = false ∧ 2 ≤ List.count (Point.char '.') item ∧
        Text.count ".prototype." item ≠ 1 := by
  simp only [firstMatch, order, List.find?_eq_none, List.mem_cons, List.not_mem_nil, or_false,
    forall_eq_or_imp, forall_eq, accepts_inNamespace, accepts_page, accepts_member,
    accepts_prototype, Decidable.not_not]
  simp only [accepts, Bool.not_eq_true]
  constructor
  · rintro ⟨hns, hrel, hdot, hmem, hproto, -, hsearch⟩
    have hpos := List.count_pos_iff.2 hdot
    exact ⟨hns, hrel, hsearch, by omega, hproto⟩
  · rintro ⟨hns, hrel, hsearch, hdots, hproto⟩
    refine ⟨hns, hrel, List.count_pos_iff.1 (by omega), by omega, hproto, ?_, hsearch⟩
    cases hj : javadoc.accepts st item
    · exact hj
    · exact absurd (accepts_search_of_javadoc st item hj) (by rw [Bool.not_eq_true]; exact hsearch)

/-! ### `Packages.` references -/

section Packages

variable {st : LinkSettings} (rest : Text)

theorem takeWhile_packages :
    (Text.ofString "Packages." ++ rest).takeWhile (· != Point.char '.') = Text.ofString "Packages" := by
  rw [show Text.ofString "Packages." = Text.ofString "Packages" ++ [Point.char '.'] from rfl,
    List.append_assoc, List.takeWhile_append_of_pos (by decide)]
  simp

theorem count_dot_packages :
    List.count (Point.char '.') (Text.ofString "Packages." ++ rest) =
      List.count (Point.char '.') rest + 1 := by
  rw [List.count_append, show List.count (Point.char '.') (Text.ofString "Packages.") = 1 by decide]
  omega

/-- A `Packages.` reference passes every rule within the documentation exactly when `Packages`
is no namespace, the reference has two dots or more and the prototype separator does not occur
in it exactly once. -/
theorem find?_within_packages_eq_none_iff :
    [inNamespace, relative, page, member, prototype].find?
        (·.accepts st (Text.ofString "Packages." ++ rest)) = none ↔
      Text.ofString "Packages" ∉ st.namespaces ∧
        2 ≤ List.count (Point.char '.') (Text.ofString "Packages." ++ rest) ∧
        Text.count ".prototype." (Text.ofString "Packages." ++ rest) ≠ 1 := by
  have hrel : relative.accepts st (Text.ofString "Packages." ++ rest) = false := by
    rw [accepts, Text.ofString_hash, Text.startsWith_append_of_ne_nil (by decide)]
    rfl
  have hpage : page.accepts st (Text.ofString "Packages." ++ rest) = false :=
    page_accepts_of_mem (List.mem_append_left rest (by decide))
  have hdots : ¬List.count (Point.char '.') rest + 1 = 1 ↔
      2 ≤ List.count (Point.char '.') rest + 1 := by omega
  simp only [List.find?_eq_none, List.mem_cons, List.not_mem_nil, or_false, forall_eq_or_imp,
    forall_eq, accepts_inNamespace, takeWhile_packages, hrel, hpage, accepts_member,
    count_dot_packages, accepts_prototype]
  simp only [Bool.false_eq_true, not_false_eq_true, true_and, hdots, ne_eq]

end Packages

theorem within_eq_none_and_search_iff :
    ([inNamespace, relative, page, member, prototype].find? (·.accepts st item) = none ∧
        search.accepts st item = true) ↔
      Text.startsWith item "Packages." = true ∧ Text.ofString "Packages" ∉ st.namespaces ∧
        2 ≤ List.count (Point.char '.') item ∧ Text.count ".prototype." item ≠ 1 := by
  constructor
  · rintro ⟨hw, hs⟩
    obtain ⟨rest, rfl⟩ := Text.startsWith_iff.1 hs
    exact ⟨hs, (find?_within_packages_eq_none_iff rest).1 hw⟩
  · rintro ⟨hs, hcond⟩
    obtain ⟨rest, rfl⟩ := Text.startsWith_iff.1 hs
    exact ⟨(find?_within_packages_eq_none_iff rest).2 hcond, hs⟩

/-! ### The owner -/

/-- Only a relative reference reads the owner of the symbol that makes it. -/
theorem url_congr_memberof {r : Rule} (h : r ≠ relative) (m m' : Text) :
    r.url st item m = r.url st item m' := by
  cases r with
  | relative => exact absurd rfl h
  | _ => rfl

theorem label_of_ne_relative {r : Rule} (h : r ≠ relative) (m : Text) : r.label item m = item := by
  cases r with
  | relative => exact absurd rfl h
  | _ => rfl

end Rule

namespace SeeLink

variable (st : LinkSettings) (item : Text)

@[simp] theorem rule_resolve (m : Text) : (resolve st item m).rule = Rule.firstMatch st item := by
  unfold resolve
  split <;> simp_all

theorem external_resolve_iff (m : Text) :
    (resolve st item m).external = true ↔
      Rule.firstMatch st item = some .javadoc ∨ Rule.firstMatch st item = some .search := by
  cases h : Rule.firstMatch st item with
  | none => simp [resolve, h]
  | some r =>
    rw [resolve_of_firstMatch m h]
    cases r <;> simp [Rule.external]

theorem resolve_congr_memberof (h : Rule.firstMatch st item ≠ some .relative) (m m' : Text) :
    resolve st item m = resolve st item m' := by
  cases hr : Rule.firstMatch st item with
  | none => simp [resolve, hr]
  | some r =>
    have hne : r ≠ .relative := fun he => h (hr ▸ he ▸ rfl)
    rw [resolve_of_firstMatch m hr, resolve_of_firstMatch m' hr,
      Rule.url_congr_memberof st item hne m m', Rule.label_of_ne_relative item hne,
      Rule.label_of_ne_relative item hne]

theorem resolve_eq_self_iff (m : Text) :
    resolve st item m = { target := item, url := item, text := item } ↔
      Rule.firstMatch st item = none := by
  cases hr : Rule.firstMatch st item with
  | none => simp [resolve, hr]
  | some r => simp [resolve, hr]

/-! ### Two pieces -/

/-- **The splitting formatters always find two pieces.** Whenever the member rule is chosen,
the reference has exactly two dot-separated segments, and whenever the prototype rule is
chosen, it splits at the prototype separator into exactly two pieces; the address is made of
the two pieces, for every reference and every owner. -/
theorem resolve_two_piece_split (memberof : Text) :
    (Rule.firstMatch st item = some .member →
      ∃ owner m, Text.splitOn '.' item = [owner, m] ∧
        (resolve st item memberof).url =
          owner ++ ".html#" ++ (if owner = Text.ofString "global" then m else item)) ∧
    (Rule.firstMatch st item = some .prototype →
      ∃ owner m, Text.splitOnText ".prototype." item = [owner, m] ∧
        (resolve st item memberof).url = owner ++ "Extensions.html#" ++ owner ++ "." ++ m) := by
  refine ⟨fun h => ?_, fun h => ?_⟩
  · -- the member test asked for exactly one dot
    have hlen : (Text.splitOn '.' item).length = 2 := by
      rw [Text.length_splitOn, (Rule.accepts_member st item).1 (Rule.accepts_of_firstMatch st item h)]
    obtain ⟨owner, m, hsplit⟩ := List.length_eq_two.1 hlen
    refine ⟨owner, m, hsplit, ?_⟩
    rw [resolve_of_firstMatch memberof h]
    simp [Rule.url, hsplit]
  · -- the prototype test asked for exactly one separator, found as the splitter finds it
    have hlen : (Text.splitOnText ".prototype." item).length = 2 := by
      rw [Text.length_splitOnText,
        (Rule.accepts_prototype st item).1 (Rule.accepts_of_firstMatch st item h)]
    obtain ⟨owner, m, hsplit⟩ := List.length_eq_two.1 hlen
    refine ⟨owner, m, hsplit, ?_⟩
    rw [resolve_of_firstMatch memberof h]
    simp [Rule.url, Rule.prototypeSeparator, hsplit]

/-! ### The regions of the cascade -/

/-- **Which references each part of the cascade receives.** The rule chosen does not depend on
the owner, and the owner changes the link only when the relative rule is chosen. A link is
external exactly when the reference starts with `Packages.`, `Packages` is no namespace, the
reference has two dots or more and the prototype separator does not occur in it exactly once;
it is a javadoc link when moreover it starts with `Packages.helma.`. No rule takes the
reference, which then links to itself, exactly when its first segment is no namespace, it
starts neither with `#` nor with `Packages.`, has two dots or more and not exactly one
prototype separator. -/
theorem resolve_rule_regions (m m' : Text) :
    (resolve st item m).rule = (resolve st item m').rule ∧
    ((resolve st item m).rule = some .relative ∨ resolve st item m = resolve st item m') ∧
    ((resolve st item m).external = true ↔
      Text.startsWith item "Packages." = true ∧ Text.ofString "Packages" ∉ st.namespaces ∧
        2 ≤ List.count (Point.char '.') item ∧ Text.count ".prototype." item ≠ 1) ∧
    ((resolve st item m).rule = some .javadoc ↔
      (Text.startsWith item "Packages." = true ∧ Text.ofString "Packages" ∉ st.namespaces ∧
          2 ≤ List.count (Point.char '.') item ∧ Text.count ".prototype." item ≠ 1) ∧
        Text.startsWith item "Packages.helma." = true) ∧
    (resolve st item m = { target := item, url := item, text := item } ↔
      item.takeWhile (· != Point.char '.') ∉ st.namespaces ∧ Text.startsWith item "#" = false ∧
        Text.startsWith item "Packages." = false ∧ 2 ≤ List.count (Point.char '.') item ∧
        Text.count ".prototype." item ≠ 1) := by
  have hrel : (resolve st item m).rule = some .relative ∨ resolve st item m = resolve st item m' := by
    by_cases h : Rule.firstMatch st item = some .relative
    · exact .inl (by rw [rule_resolve, h])
    · exact .inr (resolve_congr_memberof st item h m m')
  have hext := (external_resolve_iff st item m).trans
    ((Rule.firstMatch_outside_iff st item).trans (Rule.within_eq_none_and_search_iff st item))
  have hjav : (resolve st item m).rule = some .javadoc ↔
      (Text.startsWith item "Packages." = true ∧ Text.ofString "Packages" ∉ st.namespaces ∧
          2 ≤ List.count (Point.char '.') item ∧ Text.count ".prototype." item ≠ 1) ∧
        Text.startsWith item "Packages.helma." = true := by
    rw [rule_resolve, Rule.firstMatch_eq_javadoc_iff, ← Rule.within_eq_none_and_search_iff]
    constructor
    · rintro ⟨hw, hj⟩
      exact ⟨⟨hw, Rule.accepts_search_of_javadoc st item hj⟩, hj⟩
    · rintro ⟨⟨hw, -⟩, hj⟩
      exact ⟨hw, hj⟩
  refine ⟨by simp, hrel, hext, hjav, ?_⟩
  rw [resolve_eq_self_iff, Rule.firstMatch_eq_none_iff]

end SeeLink

end DocPages
