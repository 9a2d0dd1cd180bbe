import DocPages.Text.Basic
/-!
# Splitting and counting at separators

The reference rules and the page groups read names by their dot-separated segments and by
occurrences of a longer separator. This module computes those operations on names built from
pieces that hold no separator: such a piece passes through the scan unchanged, and each
separator between pieces closes one segment.

## What is proved

* `splitOn_append_cons` — `splitOn` of `t ++ c :: rest`, for `t` without `c`, is `t` followed by
  the segments of `rest`; with `splitOn_of_not_mem` this gives every name built from pieces.
* `join_splitOn` — joining the segments with the separator gives the text back.
* `count_append_sep`, `splitOnText_append_sep` — the same for a separator text whose first code
  point the pieces do not hold.
* `length_splitOn`, `length_splitOnText` — for every text, splitting gives one more piece than
  the separator has occurrences, counted without overlap; `headD_splitOn` — the first segment is
  the text up to the first separator.
-/

namespace DocPages

namespace Text

/-! ### One code point -/

theorem splitOnAux_append_of_not_mem {sep : Point} {t : Text} (h : sep ∉ t) (cur rest : Text) :
    splitOnAux sep cur (t ++ rest) = splitOnAux sep (t.reverse ++ cur) rest := by
  induction t generalizing cur with
  | nil => rfl
  | cons c t ih =>
    have hc : c ≠ sep := fun hc => h (hc ▸ List.mem_cons_self)
    rw [List.cons_append, splitOnAux, if_neg (by simpa using hc),
      ih (fun h' => h (List.mem_cons_of_mem c h'))]
    simp

theorem splitOnAux_sep (sep : Point) (cur rest : Text) :
    splitOnAux sep cur (sep :: rest) = cur.reverse :: splitOnAux sep [] rest := by
  simp [splitOnAux]

theorem splitOn_of_not_mem {c : Char} {t : Text} (h : Point.char c ∉ t) : splitOn c t = [t] := by
  have := splitOnAux_append_of_not_mem h [] []
  rw [List.append_nil] at this
  rw [splitOn, this]
  simp [splitOnAux]

/-- A piece without the separator is the first segment; the rest splits on its own. -/
theorem splitOn_append_cons {c : Char} {t : Text} (h : Point.char c ∉ t) (rest : Text) :
    splitOn c (t ++ Point.char c :: rest) = t :: splitOn c rest := by
  rw [splitOn, splitOnAux_append_of_not_mem h, splitOnAux_sep]
  simp [splitOn]

/-- The first segment of a text starts with the text's first code point, unless that is the
separator. -/
theorem splitOnAux_head (sep : Point) (cur t : Text) :
    ∃ u us, splitOnAux sep cur t = (cur.reverse ++ u) :: us := by
  induction t generalizing cur with
  | nil => exact ⟨[], [], by simp [splitOnAux]⟩
  | cons c t ih =>
    by_cases hc : c = sep
    · exact ⟨[], splitOnAux sep [] t, by simp [splitOnAux, hc]⟩
    · obtain ⟨u, us, h⟩ := ih (c :: cur)
      exact ⟨c :: u, us, by simp [splitOnAux, hc, h]⟩

theorem splitOnAux_intercalate (sep : Point) (cur t : Text) :
    [sep].intercalate (splitOnAux sep cur t) = cur.reverse ++ t := by
  induction t generalizing cur with
  | nil => simp [splitOnAux]
  | cons c t ih =>
    by_cases hc : c = sep
    · obtain ⟨u, us, h⟩ := splitOnAux_head sep [] t
      rw [hc, splitOnAux_sep, h, List.intercalate_cons_cons, ← h, ih]
      simp
    · simp [splitOnAux, hc, ih]

/-- Joining the segments with the separator gives the text back. -/
theorem join_splitOn (c : Char) (t : Text) : join [Point.char c] (splitOn c t) = t := by
  rw [join, splitOn, splitOnAux_intercalate]
  rfl

theorem not_mem_of_mem_splitOnAux {sep : Point} {s t : Text} :
    ∀ {cur : Text}, sep ∉ cur → s ∈ splitOnAux sep cur t → sep ∉ s := by
  induction t with
  | nil =>
    intro cur hcur hs
    rw [splitOnAux, List.mem_singleton] at hs
    rw [hs, List.mem_reverse]
    exact hcur
  | cons c t ih =>
    intro cur hcur hs
    by_cases hc : c = sep
    · rw [hc, splitOnAux_sep, List.mem_cons] at hs
      rcases hs with rfl | hs
      · rw [List.mem_reverse]
        exact hcur
      · exact ih List.not_mem_nil hs
    · rw [splitOnAux, if_neg (by simpa using hc)] at hs
      have hcur' : sep ∉ c :: cur := by
        rw [List.mem_cons, not_or]
        exact ⟨Ne.symm hc, hcur⟩
      exact ih hcur' hs

/-- No segment holds the separator. -/
theorem not_mem_of_mem_splitOn {c : Char} {s t : Text} (h : s ∈ splitOn c t) :
    Point.char c ∉ s :=
  not_mem_of_mem_splitOnAux List.not_mem_nil h

/-! ### A separator text -/

section SeparatorText

variable {p : Point} {s : Text}

theorem countAux_append_of_not_mem {t : Text} (h : p ∉ t) (x : Text) :
    countAux (p :: s) 0 (t ++ x) = countAux (p :: s) 0 x := by
  induction t with
  | nil => rfl
  | cons c t ih =>
    have hc : p ≠ c := fun hc => h (hc ▸ List.mem_cons_self)
    rw [List.cons_append, countAux, ← ih (fun h' => h (List.mem_cons_of_mem c h'))]
    simp [hc]

theorem countAux_skip (t x : Text) : countAux (p :: s) t.length (t ++ x) = countAux (p :: s) 0 x := by
  induction t with
  | nil => rfl
  | cons c t ih => rw [List.cons_append, List.length_cons, countAux, ih]

theorem countAux_sep (x : Text) : countAux (p :: s) 0 ((p :: s) ++ x) = countAux (p :: s) 0 x + 1 := by
  rw [List.cons_append, countAux]
  simp [countAux_skip]

/-- A separator text between two pieces that lack its first code point occurs once. -/
theorem count_append_sep {t u : Text} (ht : p ∉ t) (hu : p ∉ u) :
    count (p :: s) (t ++ (p :: s) ++ u) = 1 := by
  have hu' : countAux (p :: s) 0 u = 0 := by
    simpa [countAux] using countAux_append_of_not_mem hu []
  rw [count, List.append_assoc, countAux_append_of_not_mem ht, countAux_sep, hu']

theorem splitOnSubAux_append_of_not_mem {t : Text} (h : p ∉ t) (cur x : Text) :
    splitOnSubAux (p :: s) 0 cur (t ++ x) = splitOnSubAux (p :: s) 0 (t.reverse ++ cur) x := by
  induction t generalizing cur with
  | nil => rfl
  | cons c t ih =>
    have hc : p ≠ c := fun hc => h (hc ▸ List.mem_cons_self)
    rw [List.cons_append, splitOnSubAux, ih (fun h' => h (List.mem_cons_of_mem c h'))]
    simp [hc]

theorem splitOnSubAux_skip (t cur x : Text) :
    splitOnSubAux (p :: s) t.length cur (t ++ x) = splitOnSubAux (p :: s) 0 cur x := by
  induction t with
  | nil => rfl
  | cons c t ih => rw [List.cons_append, List.length_cons, splitOnSubAux, ih]

theorem splitOnSubAux_sep (cur x : Text) :
    splitOnSubAux (p :: s) 0 cur ((p :: s) ++ x) = cur.reverse :: splitOnSubAux (p :: s) 0 [] x := by
  rw [List.cons_append, splitOnSubAux]
  simp [splitOnSubAux_skip]

/-- A separator text between two pieces that lack its first code point splits them apart. -/
theorem splitOnText_append_sep {t u : Text} (ht : p ∉ t) (hu : p ∉ u) :
    splitOnText (p :: s) (t ++ (p :: s) ++ u) = [t, u] := by
  have hu' : splitOnSubAux (p :: s) 0 [] u = [u] := by
    simpa [splitOnSubAux] using splitOnSubAux_append_of_not_mem hu [] []
  rw [splitOnText, List.append_assoc, splitOnSubAux_append_of_not_mem ht, splitOnSubAux_sep, hu']
  simp

end SeparatorText

/-! ### Counting is splitting

The counter and the splitter scan a text the same way, a matched separator skipped as a whole,
so they agree on every text, also where occurrences could overlap. -/

theorem length_splitOnAux (sep : Point) (cur t : Text) :
    (splitOnAux sep cur t).length = List.count sep t + 1 := by
  fun_induction splitOnAux sep cur t with
  | case1 cur => simp
  | case2 cur c rest h ih => simp [List.count_cons, h, ih]
  | case3 cur c rest h ih => simp [List.count_cons, h, ih]

/-- A text splits at a code point into one more segment than the code point occurs. -/
theorem length_splitOn (c : Char) (t : Text) :
    (splitOn c t).length = List.count (Point.char c) t + 1 :=
  length_splitOnAux _ [] t

theorem headD_splitOnAux (sep : Point) (cur t : Text) :
    (splitOnAux sep cur t).headD [] = cur.reverse ++ t.takeWhile (· != sep) := by
  fun_induction splitOnAux sep cur t with
  | case1 cur => simp
  | case2 cur c rest h ih =>
    obtain rfl := eq_of_beq h
    simp
  | case3 cur c rest h ih =>
    rw [ih, List.takeWhile_cons_of_pos (by simpa using h)]
    simp

/-- The first segment is the text up to the first separator. -/
theorem headD_splitOn (c : Char) (t : Text) :
    (splitOn c t).headD [] = t.takeWhile (· != Point.char c) := by
  rw [splitOn, headD_splitOnAux]
  rfl

theorem length_splitOnSubAux (sep : Text) (skip : Nat) (cur t : Text) :
    (splitOnSubAux sep skip cur t).length = countAux sep skip t + 1 := by
  fun_induction splitOnSubAux sep skip cur t with
  | case1 cur => simp [countAux]
  | case2 cur c rest k ih => simp [countAux, ih]
  | case3 cur c rest h ih => simp [countAux, h, ih]
  | case4 cur c rest h ih => simp [countAux, h, ih]

/-- **Splitting at a separator text gives one piece more than its count.** Both find the
occurrences from the left without overlap. -/
theorem length_splitOnText (sep t : Text) : (splitOnText sep t).length = count sep t + 1 :=
  length_splitOnSubAux sep 0 [] t

example : splitOnText ".prototype." "a.prototype.prototype.b" =
      [Text.ofString "a", Text.ofString "prototype.b"] ∧
    count ".prototype." "a.prototype.prototype.b" = 1 := by
  decide

end Text

end DocPages
