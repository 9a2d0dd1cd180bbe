import Mathlib.Tactic.SplitIfs
import DocPages.Link.SeeLink
import DocPages.Proofs.Separators
/-!
# Escaped links

A link is written as one line of HTML, its address inside the `href` attribute and its text
inside the anchor. Both are escaped by a chain of replacements: `&` by `&amp;`, then `<` by
`&lt;` and `>` by `&gt;`, and, in the attribute value only, `"` by `&quot;` and the apostrophe
by `&#x27;`. Since `&` is replaced first, no reference that a later step writes is escaped
again, so the chain replaces each code point on its own. Every `&` of the result then starts one
of the five references, and reading those back from the left gives the original text.

## What is proved

* `replaceAll_point` — replacing one code point is a replacement point by point;
  `htmlEscape_true_eq_replaceAll`, `htmlEscape_false_eq_replaceAll` — the chains are the
  point-by-point escape.
* `htmlEscape_true_safe`, `htmlEscape_false_safe` — an escaped attribute value holds no quote,
  apostrophe or angle bracket, escaped content no angle bracket.
* `ampersandsStartReferences_htmlEscape` — every `&` of an escaped text starts a reference;
  `htmlUnescape_htmlEscape` — reading the references back gives the text.
* `render_escapes` — a rendered link is its escaped address and text in a fixed frame, neither
  can leave its place, both can be read back, and two links render alike exactly when they
  have the same address and text.
-/

namespace DocPages

namespace Text

/-- The apostrophe. -/
def apostrophe : Point := .char (Char.ofNat 0x27)

/-- The five references that escaping writes. -/
def htmlReferences : List Text := ["&amp;", "&lt;", "&gt;", "&quot;", "&#x27;"]

/-- Every `&` of the text starts one of the five references. -/
def AmpersandsStartReferences (t : Text) : Prop :=
  ∀ pre post, t = pre ++ Point.char '&' :: post → ∃ e ∈ htmlReferences, e <+: Point.char '&' :: post

/-- The text with the five references read back, from the left; every other code point stands
for itself. -/
def htmlUnescape : Text → Text
  | .char '&' :: .char 'a' :: .char 'm' :: .char 'p' :: .char ';' :: rest =>
    .char '&' :: htmlUnescape rest
  | .char '&' :: .char 'l' :: .char 't' :: .char ';' :: rest => .char '<' :: htmlUnescape rest
  | .char '&' :: .char 'g' :: .char 't' :: .char ';' :: rest => .char '>' :: htmlUnescape rest
  | .char '&' :: .char 'q' :: .char 'u' :: .char 'o' :: .char 't' :: .char ';' :: rest =>
    .char '"' :: htmlUnescape rest
  | .char '&' :: .char '#' :: .char 'x' :: .char '2' :: .char '7' :: .char ';' :: rest =>
    apostrophe :: htmlUnescape rest
  | c :: rest => c :: htmlUnescape rest
  | [] => []

/-! ### Escaping point by point -/

@[simp] theorem htmlEscape_nil (attr : Bool) : htmlEscape attr [] = [] := rfl

@[simp] theorem htmlEscape_cons (attr : Bool) (c : Point) (t : Text) :
    htmlEscape attr (c :: t) = htmlEscapePoint attr c ++ htmlEscape attr t := rfl

/-- A code point is escaped to a reference, or kept when it is none of the points escaping
replaces. -/
theorem htmlEscapePoint_mem_or (attr : Bool) (c : Point) :
    htmlEscapePoint attr c ∈ htmlReferences ∨
      htmlEscapePoint attr c = [c] ∧ c ≠ .char '&' ∧ c ≠ .char '<' ∧ c ≠ .char '>' ∧
        (attr = true → c ≠ .char '"' ∧ c ≠ apostrophe) := by
  unfold htmlEscapePoint
  split_ifs with h₁ h₂ h₃ h₄ h₅
  iterate 5 exact .inl (by decide)
  exact .inr ⟨rfl, by simp_all [apostrophe]⟩

/-- Every reference is `&` followed by points other than `&`. -/
theorem htmlReferences_shape :
    ∀ e ∈ htmlReferences, e.head? = some (.char '&') ∧ Point.char '&' ∉ e.tail := by
  decide

/-- No reference holds a quote, an apostrophe or an angle bracket. -/
theorem htmlReferences_safe :
    ∀ e ∈ htmlReferences, ∀ x ∈ e,
      x ≠ .char '"' ∧ x ≠ apostrophe ∧ x ≠ .char '<' ∧ x ≠ .char '>' := by
  decide

/-! ### The chain of replacements -/

theorem join_splitOnSubAux_point (p : Point) (r cur t : Text) :
    join r (splitOnSubAux [p] 0 cur t) = cur.reverse ++ t.flatMap fun c => if c = p then r else [c] := by
  induction t generalizing cur with
  | nil => simp [splitOnSubAux, join]
  | cons c t ih =>
    by_cases hc : c = p
    · -- the separator closes the piece gathered so far; the scan goes on with an empty one
      subst hc
      have hsplit : splitOnSubAux [c] 0 cur (c :: t) = cur.reverse :: splitOnSubAux [c] 0 [] t := by
        simp [splitOnSubAux]
      cases hrest : splitOnSubAux [c] 0 [] t with
      | nil =>
        have hlen := length_splitOnSubAux [c] 0 [] t
        rw [hrest] at hlen
        cases hlen
      | cons x xs =>
        have := ih []
        rw [hrest] at this
        rw [hsplit, hrest, join, List.intercalate_cons_cons, ← join, this]
        simp
    · have hsplit : splitOnSubAux [p] 0 cur (c :: t) = splitOnSubAux [p] 0 (c :: cur) t := by
        simp [splitOnSubAux, List.isPrefixOf, Ne.symm hc]
      rw [hsplit, ih]
      simp [hc]

/-- Replacing one code point replaces each of its occurrences on its own. -/
theorem replaceAll_point (p : Point) (r t : Text) :
    replaceAll [p] r t = t.flatMap fun c => if c = p then r else [c] := by
  simpa [replaceAll, splitOnText] using join_splitOnSubAux_point p r [] t

/-- Content escaping is the chain `&`, `<`, `>`: `&` comes first, so the references the chain
writes pass its later steps unchanged. -/
theorem htmlEscape_false_eq_replaceAll (t : Text) :
    htmlEscape false t = replaceAll ">" "&gt;" (replaceAll "<" "&lt;" (replaceAll "&" "&amp;" t)) := by
  have amp : ∀ t, replaceAll "&" "&amp;" t = t.flatMap fun c => if c = .char '&' then "&amp;" else [c] :=
    replaceAll_point _ _
  have lt : ∀ t, replaceAll "<" "&lt;" t = t.flatMap fun c => if c = .char '<' then "&lt;" else [c] :=
    replaceAll_point _ _
  have gt : ∀ t, replaceAll ">" "&gt;" t = t.flatMap fun c => if c = .char '>' then "&gt;" else [c] :=
    replaceAll_point _ _
  rw [amp, lt, gt, List.flatMap_assoc, List.flatMap_assoc, htmlEscape]
  congr 1
  funext c
  by_cases h₁ : c = .char '&'
  · subst h₁; decide
  by_cases h₂ : c = .char '<'
  · subst h₂; decide
  by_cases h₃ : c = .char '>'
  · subst h₃; decide
  simp [htmlEscapePoint, h₁, h₂, h₃]

/-- Attribute escaping is the content chain followed by `"` and the apostrophe. -/
theorem htmlEscape_true_eq_replaceAll (t : Text) :
    htmlEscape true t =
      replaceAll [apostrophe] "&#x27;" (replaceAll "\"" "&quot;" (htmlEscape false t)) := by
  have quot : ∀ t, replaceAll "\"" "&quot;" t =
      t.flatMap fun c => if c = .char '"' then "&quot;" else [c] := replaceAll_point _ _
  rw [replaceAll_point, quot, List.flatMap_assoc, htmlEscape, htmlEscape, List.flatMap_assoc]
  congr 1
  funext c
  by_cases h₁ : c = .char '&'
  · subst h₁; decide
  by_cases h₂ : c = .char '<'
  · subst h₂; decide
  by_cases h₃ : c = .char '>'
  · subst h₃; decide
  by_cases h₄ : c = .char '"'
  · subst h₄; decide
  by_cases h₅ : c = apostrophe
  · subst h₅; decide
  simp only [apostrophe] at h₅
  simp [htmlEscapePoint, apostrophe, h₁, h₂, h₃, h₄, h₅]

/-! ### What an escaped text holds -/

theorem htmlEscape_true_safe (t : Text) :
    ∀ x ∈ htmlEscape true t, x ≠ .char '"' ∧ x ≠ apostrophe ∧ x ≠ .char '<' ∧ x ≠ .char '>' := by
  intro x hx
  obtain ⟨c, -, hxc⟩ := List.mem_flatMap.mp hx
  rcases htmlEscapePoint_mem_or true c with href | ⟨hkeep, -, hlt, hgt, hq⟩
  · exact htmlReferences_safe _ href x hxc
  · rw [hkeep, List.mem_singleton] at hxc
    subst hxc
    exact ⟨(hq rfl).1, (hq rfl).2, hlt, hgt⟩

theorem htmlEscape_false_safe (t : Text) :
    ∀ x ∈ htmlEscape false t, x ≠ .char '<' ∧ x ≠ .char '>' := by
  intro x hx
  obtain ⟨c, -, hxc⟩ := List.mem_flatMap.mp hx
  rcases htmlEscapePoint_mem_or false c with href | ⟨hkeep, -, hlt, hgt, -⟩
  · exact ⟨(htmlReferences_safe _ href x hxc).2.2.1, (htmlReferences_safe _ href x hxc).2.2.2⟩
  · rw [hkeep, List.mem_singleton] at hxc
    subst hxc
    exact ⟨hlt, hgt⟩

/-- A point that does not occur before a separator fixes where the separator is. -/
theorem eq_of_append_cons_eq {a : Point} {x₁ x₂ z₁ z₂ : Text} (h₁ : a ∉ x₁) (h₂ : a ∉ x₂)
    (h : x₁ ++ a :: z₁ = x₂ ++ a :: z₂) : x₁ = x₂ ∧ z₁ = z₂ := by
  induction x₁ generalizing x₂ with
  | nil =>
    cases x₂ with
    | nil => simpa using h
    | cons y ys =>
      simp only [List.nil_append, List.cons_append, List.cons.injEq] at h
      exact absurd (h.1 ▸ List.mem_cons_self) h₂
  | cons y ys ih =>
    cases x₂ with
    | nil =>
      simp only [List.nil_append, List.cons_append, List.cons.injEq] at h
      exact absurd (h.1 ▸ List.mem_cons_self) h₁
    | cons w ws =>
      simp only [List.cons_append, List.cons.injEq] at h
      obtain ⟨rfl, h⟩ := h
      have := ih (fun hm => h₁ (List.mem_cons_of_mem _ hm)) (fun hm => h₂ (List.mem_cons_of_mem _ hm)) h
      exact ⟨by rw [this.1], this.2⟩

/-- Prefixing a reference or a point other than `&` keeps every `&` at the start of a
reference. -/
theorem AmpersandsStartReferences.append {piece rest : Text}
    (hp : piece ∈ htmlReferences ∨ ∃ c, piece = [c] ∧ c ≠ .char '&')
    (hr : AmpersandsStartReferences rest) : AmpersandsStartReferences (piece ++ rest) := by
  intro pre post h
  rcases hp with href | ⟨c, rfl, hc⟩
  · obtain ⟨hhead, htail⟩ := htmlReferences_shape piece href
    obtain ⟨s, rfl⟩ : ∃ s, piece = Point.char '&' :: s := by
      cases piece with
      | nil => cases hhead
      | cons d s => exact ⟨s, by simpa using hhead⟩
    simp only [List.tail_cons] at htail
    cases pre with
    | nil =>
      simp only [List.nil_append, List.cons_append, List.cons.injEq, true_and] at h
      exact ⟨_, href, ⟨rest, by rw [← h, List.cons_append]⟩⟩
    | cons x pre =>
      simp only [List.cons_append, List.cons.injEq] at h
      rcases List.append_eq_append_iff.mp h.2 with ⟨as, -, hrest⟩ | ⟨bs, hs, hpost⟩
      · exact hr as post hrest
      · cases bs with
        | nil =>
          rw [List.nil_append] at hpost
          exact hr [] post (by rw [← hpost, List.nil_append])
        | cons d bs =>
          rw [List.cons_append, List.cons.injEq] at hpost
          exact absurd (hs ▸ hpost.1 ▸ List.mem_append_right pre List.mem_cons_self) htail
  · cases pre with
    | nil =>
      simp only [List.nil_append, List.singleton_append, List.cons.injEq] at h
      exact absurd h.1 hc
    | cons x pre =>
      simp only [List.cons_append, List.cons.injEq] at h
      exact hr pre post h.2

theorem ampersandsStartReferences_htmlEscape (attr : Bool) (t : Text) :
    AmpersandsStartReferences (htmlEscape attr t) := by
  induction t with
  | nil => intro pre post h; simp at h
  | cons c t ih =>
    rw [htmlEscape_cons]
    refine AmpersandsStartReferences.append ?_ ih
    rcases htmlEscapePoint_mem_or attr c with href | ⟨hkeep, hamp, -⟩
    · exact .inl href
    · exact .inr ⟨c, hkeep, hamp⟩

/-! ### Reading the references back -/

/-- Reading back passes over a point other than `&`, as every reference starts with `&`. -/
theorem htmlUnescape_cons_of_ne {c : Point} (h : c ≠ .char '&') (rest : Text) :
    htmlUnescape (c :: rest) = c :: htmlUnescape rest := by
  conv => lhs; unfold htmlUnescape
  split <;> simp_all

theorem htmlUnescape_htmlEscapePoint_append (attr : Bool) (c : Point) (rest : Text) :
    htmlUnescape (htmlEscapePoint attr c ++ rest) = c :: htmlUnescape rest := by
  unfold htmlEscapePoint
  split_ifs with h₁ h₂ h₃ h₄ h₅
  · simp only [beq_iff_eq] at h₁; subst h₁; rfl
  · simp only [beq_iff_eq] at h₂; subst h₂; rfl
  · simp only [beq_iff_eq] at h₃; subst h₃; rfl
  · simp only [Bool.and_eq_true, beq_iff_eq] at h₄; rw [h₄.2]; rfl
  · simp only [Bool.and_eq_true, beq_iff_eq] at h₅; rw [h₅.2]; rfl
  · exact htmlUnescape_cons_of_ne (by simpa using h₁) rest

/-- Reading the references back from the left undoes escaping. -/
theorem htmlUnescape_htmlEscape (attr : Bool) (t : Text) : htmlUnescape (htmlEscape attr t) = t := by
  induction t with
  | nil => rfl
  | cons c t ih => rw [htmlEscape_cons, htmlUnescape_htmlEscapePoint_append, ih]

end Text

/-! ### Rendered links -/

namespace SeeLink

open Text

theorem quote_not_mem_htmlEscape_true (t : Text) : Point.char '"' ∉ htmlEscape true t :=
  fun hm => (htmlEscape_true_safe t _ hm).1 rfl

/-- The escaped address is closed by the first quote after the frame's opening. -/
theorem render_eq_frame (l : SeeLink) :
    l.render = Text.ofString "<div class=\"see\"><a href=\"" ++
      (htmlEscape true l.url ++ Point.char '"' :: Point.char '>' ::
        (htmlEscape false l.text ++ "</a></div>")) := by
  simp only [render, List.append_assoc]
  rfl

/-- Two links render alike exactly when they have the same address and text. -/
theorem render_eq_render_iff (l l' : SeeLink) :
    l'.render = l.render ↔ l'.url = l.url ∧ l'.text = l.text := by
  constructor
  · intro h
    rw [render_eq_frame, render_eq_frame] at h
    obtain ⟨hu, hx⟩ := eq_of_append_cons_eq (quote_not_mem_htmlEscape_true l'.url)
      (quote_not_mem_htmlEscape_true l.url) (List.append_cancel_left h)
    simp only [List.cons.injEq, true_and] at hx
    have ht := List.append_cancel_right hx
    refine ⟨?_, ?_⟩
    · rw [← htmlUnescape_htmlEscape true l'.url, hu, htmlUnescape_htmlEscape]
    · rw [← htmlUnescape_htmlEscape false l'.text, ht, htmlUnescape_htmlEscape]
  · rintro ⟨hu, ht⟩
    simp only [render, hu, ht]

/-- **A rendered link keeps its address and text in place and can be read back.** The address
and the text, escaped by the replacement chains, sit in a fixed frame; the address holds no
quote, apostrophe or angle bracket and the text no angle bracket, so neither leaves the attribute
or the anchor; every `&` in either starts a reference, and reading the references back from the
left gives the address and the text. So two links render alike exactly when their addresses and
texts agree. -/
theorem render_escapes (l : SeeLink) :
    let U := replaceAll [apostrophe] "&#x27;" (replaceAll "\"" "&quot;"
      (replaceAll ">" "&gt;" (replaceAll "<" "&lt;" (replaceAll "&" "&amp;" l.url))))
    let T := replaceAll ">" "&gt;" (replaceAll "<" "&lt;" (replaceAll "&" "&amp;" l.text))
    l.render = Text.ofString "<div class=\"see\"><a href=\"" ++ U ++ "\">" ++ T ++ "</a></div>" ∧
    (∀ x ∈ U, x ≠ .char '"' ∧ x ≠ apostrophe ∧ x ≠ .char '<' ∧ x ≠ .char '>') ∧
    (∀ x ∈ T, x ≠ .char '<' ∧ x ≠ .char '>') ∧
    AmpersandsStartReferences U ∧ AmpersandsStartReferences T ∧
    htmlUnescape U = l.url ∧ htmlUnescape T = l.text ∧
    ∀ l' : SeeLink, l'.render = l.render ↔ l'.url = l.url ∧ l'.text = l.text := by
  intro U T
  have hU : U = htmlEscape true l.url := by
    rw [htmlEscape_true_eq_replaceAll, htmlEscape_false_eq_replaceAll]
  have hT : T = htmlEscape false l.text := (htmlEscape_false_eq_replaceAll l.text).symm
  rw [hU, hT]
  exact ⟨rfl, htmlEscape_true_safe l.url, htmlEscape_false_safe l.text,
    ampersandsStartReferences_htmlEscape true l.url,
    ampersandsStartReferences_htmlEscape false l.text,
    htmlUnescape_htmlEscape true l.url, htmlUnescape_htmlEscape false l.text,
    fun l' => render_eq_render_iff l l'⟩

end SeeLink

end DocPages
