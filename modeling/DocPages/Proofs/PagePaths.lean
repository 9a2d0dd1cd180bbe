import DocPages.Page.Route
/-!
# Labels with and without a leading slash

A file is documented under its label, which may or may not start with `/`. The router reads
two views of the label: the directory tests (`/core/`, `/jala/code/`) look at the label
anchored with a `/`, the file-name tests (`JSON.js`, `HopObject.js`) at the label as given.
Prefixing a `/` changes neither verdict. The anchored view of `/p` is that of `p`, or, when
`p` already starts with `/`, has one more `/` in front, where no directory needle can start,
since each has another point after its `/`. And no file-name needle starts with `/`.

## What is proved

* `contains_cons_of_isPrefixOf_eq_false` — a needle that is not a prefix of `c :: t` occurs in
  it exactly when it occurs in `t`.
* `contains_anchored_slash`, `contains_slash_cons` — a leading `/` changes no directory test
  on the anchored label and no file-name test on the label.
* `pageFor_leading_slash` — every group of the file labelled `p` is on the same page as the same
  group of the file labelled `/p`.
-/

namespace DocPages

namespace Text

theorem contains_cons_of_isPrefixOf_eq_false {c : Point} {t sub : Text}
    (h : sub.isPrefixOf (c :: t) = false) : contains (c :: t) sub = contains t sub := by
  simp [contains, h]

theorem ofString_slash : Text.ofString "/" = [Point.char '/'] := rfl

theorem ofString_slash_append (p : Text) : Text.ofString "/" ++ p = Point.char '/' :: p := rfl

/-- A needle that does not start with `/` occurs after a leading `/` exactly when it occurs
without it. -/
theorem contains_slash_cons {d : Point} (hd : d ≠ Point.char '/') (s p : Text) :
    contains (Text.ofString "/" ++ p) (d :: s) = contains p (d :: s) := by
  rw [ofString_slash_append]
  exact contains_cons_of_isPrefixOf_eq_false (by simp [List.isPrefixOf, hd])

end Text

open Text

theorem anchored_leading_slash (p : Text) : anchored (Text.ofString "/" ++ p) = Point.char '/' :: p := by
  simp [anchored, startsWith, ofString_slash]

/-- A needle `/y…` with `y ≠ /` occurs in the anchored label `/p` exactly when it occurs in the
anchored label `p`. -/
theorem contains_anchored_slash {y : Point} (hy : y ≠ Point.char '/') (s p : Text) :
    contains (anchored (Text.ofString "/" ++ p)) (Point.char '/' :: y :: s) =
      contains (anchored p) (Point.char '/' :: y :: s) := by
  rw [anchored_leading_slash]
  cases p with
  | nil => rfl
  | cons c r =>
    by_cases hc : c = Point.char '/'
    · -- `p` is anchored already, and `//r` holds the needle only where `/r` does
      subst hc
      have hp : anchored (Point.char '/' :: r) = Point.char '/' :: r := by
        simp [anchored, startsWith, ofString_slash]
      rw [hp]
      exact contains_cons_of_isPrefixOf_eq_false (by simp [List.isPrefixOf, hy])
    · have hp : anchored (c :: r) = Point.char '/' :: c :: r := by
        simp [anchored, startsWith, ofString_slash, Ne.symm hc]
      rw [hp]

theorem inCore_leading_slash (p : Text) : inCore (Text.ofString "/" ++ p) = inCore p :=
  contains_anchored_slash (y := Point.char 'c') (by decide) (Text.ofString "ore/") p

theorem isJalaHopObject_leading_slash (p : Text) :
    isJalaHopObject (Text.ofString "/" ++ p) = isJalaHopObject p := by
  have hdir : contains (anchored (Text.ofString "/" ++ p)) "/jala/code/" =
      contains (anchored p) "/jala/code/" :=
    contains_anchored_slash (y := Point.char 'j') (by decide) (Text.ofString "ala/code/") p
  have hfile : contains (Text.ofString "/" ++ p) "HopObject.js" = contains p "HopObject.js" :=
    contains_slash_cons (d := Point.char 'H') (by decide) (Text.ofString "opObject.js") p
  simp only [isJalaHopObject]
  rw [hdir, hfile]

theorem PageRule.applies_leading_slash (g p : Text) (r : PageRule) :
    r.applies g (Text.ofString "/" ++ p) = r.applies g p := by
  have hjson : contains (Text.ofString "/" ++ p) "JSON.js" = contains p "JSON.js" :=
    contains_slash_cons (d := Point.char 'J') (by decide) (Text.ofString "SON.js") p
  cases r <;> simp only [applies, inCore_leading_slash]
  case json => exact congrArg (inCore p && ·) hjson

/-- **Routing ignores a leading slash.** Every group of the file labelled `p` is documented on
the same page as the same group of the file labelled `/p`, although the directory tests read the
anchored label and the file-name tests the label as given. -/
theorem pageFor_leading_slash (g p : Text) : pageFor g (Text.ofString "/" ++ p) = pageFor g p := by
  simp only [pageFor, isJalaHopObject_leading_slash, PageRule.applies_leading_slash]

end DocPages
