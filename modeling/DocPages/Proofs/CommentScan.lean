import Mathlib
import DocPages.Comment.Source
/-!
# Finding the doc comments of a text

The doc comments of a text are found by a scan over positions. From position `p` it finds the
first `/**`, at some `i ≥ p`, then the first `*/` at some `j ≥ i + 3`. The comment's body is
the text from `i + 3` to `j`, its declaration is looked for from `j + 2` on, and the scan goes
on from `j + 2`. It stops as soon as either search fails.

A regular expression search with the pattern `/\*\*(.*?)\*/`, where `.` matches every code
point, finds the same comments, match after match: it takes the leftmost start at which the
pattern matches at all, and there the shortest match, as the lazy `.*?` asks. The two agree
because a `/**` that no `*/` follows leaves none for any later `/**` either, so the search
stops where the scan does.

## What is proved

* `bodies_scan` — for every text, the scan and the search each have exactly one run from the
  start, the same one, and `bodies` (and so every comment the parser reads) are its comments,
  each with the text after its `*/`. The comments are disjoint and in order, and no body holds
  `*/`. `/**/` opens no comment, while `/***/` is an empty one.
-/

namespace DocPages.Comment

/-- The code points that open a doc comment. -/
def openMark : Text := "/**"

/-- The code points that close a comment. -/
def closeMark : Text := "*/"

/-- The text `mark` stands at position `i` of `cs`. -/
def MarkAt (mark cs : Text) (i : Nat) : Prop := mark <+: cs.drop i

/-- A `/**` stands at position `i`. -/
def OpensAt (cs : Text) (i : Nat) : Prop := MarkAt openMark cs i

/-- A `*/` stands at position `j`. -/
def ClosesAt (cs : Text) (j : Nat) : Prop := MarkAt closeMark cs j

/-- `i` is the first position from `p` on where `P` holds. -/
def FirstFrom (P : Nat → Prop) (p i : Nat) : Prop :=
  p ≤ i ∧ P i ∧ ∀ k, p ≤ k → k < i → ¬P k

/-- The body of the comment whose `/**` stands at `m.1` and whose `*/` stands at `m.2`, and the
text after that `*/`. -/
def commentAt (cs : Text) (m : Nat × Nat) : Text × Text :=
  ((cs.drop (m.1 + 3)).take (m.2 - (m.1 + 3)), cs.drop (m.2 + 2))

/-- The scan for doc comments from position `p`, as the positions of each comment's `/**` and
`*/`. -/
inductive Scan (cs : Text) : Nat → List (Nat × Nat) → Prop
  /-- No `/**` stands from `p` on. -/
  | noOpen {p : Nat} : (∀ i, p ≤ i → ¬OpensAt cs i) → Scan cs p []
  /-- No `*/` follows the first `/**` from `p` on. -/
  | noClose {p i : Nat} : FirstFrom (OpensAt cs) p i →
      (∀ j, i + 3 ≤ j → ¬ClosesAt cs j) → Scan cs p []
  /-- The first `/**` from `p` on stands at `i`, the first `*/` from `i + 3` on at `j`, and the
  scan goes on from `j + 2`. -/
  | found {p i j : Nat} {ms : List (Nat × Nat)} : FirstFrom (OpensAt cs) p i →
      FirstFrom (ClosesAt cs) (i + 3) j → Scan cs (j + 2) ms → Scan cs p ((i, j) :: ms)

/-- The pattern `/\*\*(.*?)\*/`, with `.` matching every code point, matches the text from `i`
to the end of the `*/` at `j`. -/
def Spans (cs : Text) (i j : Nat) : Prop :=
  OpensAt cs i ∧ i + 3 ≤ j ∧ ClosesAt cs j

/-- A search from `p` finds the match from `i` to the `*/` at `j`: `i` is the leftmost start
at which the pattern matches, and `j` ends the shortest match there, which the lazy `.*?`
takes. -/
def SearchFrom (cs : Text) (p i j : Nat) : Prop :=
  FirstFrom (fun k => ∃ j, Spans cs k j) p i ∧ FirstFrom (Spans cs i) 0 j

/-- Searches one after another, each from the end of the last match, as an iteration over all
matches runs them. -/
inductive FindIter (cs : Text) : Nat → List (Nat × Nat) → Prop
  /-- The pattern matches nowhere from `p` on. -/
  | done {p : Nat} : (∀ i j, p ≤ i → ¬Spans cs i j) → FindIter cs p []
  /-- The search from `p` finds a match, and the next search starts where it ends. -/
  | next {p i j : Nat} {ms : List (Nat × Nat)} : SearchFrom cs p i j →
      FindIter cs (j + 2) ms → FindIter cs p ((i, j) :: ms)

/-! ### First positions -/

namespace FirstFrom

variable {P : Nat → Prop} {p i : Nat}

theorem unique {i' : Nat} (h : FirstFrom P p i) (h' : FirstFrom P p i') : i = i' := by
  obtain ⟨hp, hi, hmin⟩ := h
  obtain ⟨hp', hi', hmin'⟩ := h'
  rcases Nat.lt_trichotomy i i' with hlt | heq | hgt
  · exact absurd hi (hmin' i hp hlt)
  · exact heq
  · exact absurd hi' (hmin i' hp' hgt)

theorem zero (h : P 0) : FirstFrom P 0 0 :=
  ⟨Nat.le_refl 0, h, fun _ _ hk => absurd hk (Nat.not_lt_zero _)⟩

/-- One position further on, past a position where `P` fails. -/
theorem succ (h0 : ¬P 0) (h : FirstFrom (fun n => P (n + 1)) 0 i) : FirstFrom P 0 (i + 1) := by
  obtain ⟨-, hi, hmin⟩ := h
  refine ⟨Nat.zero_le _, hi, fun k _ hk => ?_⟩
  cases k with
  | zero => exact h0
  | succ k => exact hmin k (Nat.zero_le k) (by omega)

/-- A first position found after the first `p` positions, counted from the start. -/
theorem shift {Q : Nat → Prop} {k : Nat} (hQ : ∀ n, Q n ↔ P (p + n)) (h : FirstFrom Q 0 k) :
    FirstFrom P p (p + k) := by
  obtain ⟨-, hk, hmin⟩ := h
  refine ⟨Nat.le_add_right p k, (hQ k).1 hk, fun n hpn hn => ?_⟩
  have hn' := hmin (n - p) (Nat.zero_le _) (by omega)
  rwa [hQ, Nat.add_sub_cancel' hpn] at hn'

end FirstFrom

/-! ### Marks at positions -/

theorem openMark_eq : openMark = [.char '/', .char '*', .char '*'] := rfl

theorem closeMark_eq : closeMark = [.char '*', .char '/'] := rfl

theorem markAt_zero_iff {mark cs : Text} : MarkAt mark cs 0 ↔ ∃ rest, cs = mark ++ rest := by
  rw [MarkAt, List.drop_zero]
  constructor
  · rintro ⟨rest, h⟩
    exact ⟨rest, h.symm⟩
  · rintro ⟨rest, rfl⟩
    exact List.prefix_append mark rest

theorem markAt_drop (mark cs : Text) (p k : Nat) :
    MarkAt mark (cs.drop p) k ↔ MarkAt mark cs (p + k) := by
  rw [MarkAt, MarkAt, List.drop_drop]

theorem not_markAt_nil {mark : Text} (h : mark ≠ []) (i : Nat) : ¬MarkAt mark [] i := by
  rintro ⟨rest, hr⟩
  rw [List.drop_nil] at hr
  exact h (List.append_eq_nil_iff.1 hr).1

/-- A mark found nowhere past the first `p` positions stands nowhere from `p` on. -/
theorem not_markAt_of_drop {mark cs : Text} {p : Nat} (h : ∀ k, ¬MarkAt mark (cs.drop p) k) :
    ∀ i, p ≤ i → ¬MarkAt mark cs i := by
  intro i hi
  have hno := h (i - p)
  rwa [markAt_drop, Nat.add_sub_cancel' hi] at hno

theorem opensAt_zero (rest : Text) : OpensAt (.char '/' :: .char '*' :: .char '*' :: rest) 0 :=
  markAt_zero_iff.2 ⟨rest, rfl⟩

theorem closesAt_zero (rest : Text) : ClosesAt (.char '*' :: .char '/' :: rest) 0 :=
  markAt_zero_iff.2 ⟨rest, rfl⟩

theorem not_opensAt_cons_zero {c : Point} {rest : Text}
    (h : ∀ r, c = .char '/' → rest = .char '*' :: .char '*' :: r → False) :
    ¬OpensAt (c :: rest) 0 := by
  intro h0
  obtain ⟨r, hr⟩ := markAt_zero_iff.1 h0
  rw [openMark_eq] at hr
  obtain ⟨hc, hrest⟩ := List.cons.inj hr
  exact h r hc hrest

theorem not_closesAt_cons_zero {c : Point} {rest : Text}
    (h : ∀ r, c = .char '*' → rest = .char '/' :: r → False) :
    ¬ClosesAt (c :: rest) 0 := by
  intro h0
  obtain ⟨r, hr⟩ := markAt_zero_iff.1 h0
  rw [closeMark_eq] at hr
  obtain ⟨hc, hrest⟩ := List.cons.inj hr
  exact h r hc hrest

/-- A `*/` ends inside the text. -/
theorem ClosesAt.le_length {cs : Text} {j : Nat} (h : ClosesAt cs j) : j + 2 ≤ cs.length := by
  have hl := List.IsPrefix.length_le h
  rw [List.length_drop, closeMark_eq] at hl
  simp only [List.length_cons, List.length_nil] at hl
  omega

/-- A text inside a slice of `cs` stands in `cs` at a position inside the slice. -/
theorem exists_prefix_drop_of_infix {u cs : Text} {a n : Nat} (h : u <:+: (cs.drop a).take n) :
    ∃ k, a ≤ k ∧ k + u.length ≤ a + n ∧ u <+: cs.drop k := by
  obtain ⟨s, t, hst⟩ := h
  refine ⟨a + s.length, Nat.le_add_right a _, ?_, ?_⟩
  · have hlen := congrArg List.length hst
    have htake := List.length_take_le n (cs.drop a)
    simp only [List.length_append] at hlen
    omega
  · have hd : cs.drop a = s ++ (u ++ (t ++ (cs.drop a).drop n)) := by
      rw [← List.append_assoc, ← List.append_assoc, hst, List.take_append_drop]
    rw [← List.drop_drop, hd, List.drop_left]
    exact List.prefix_append u _

/-! ### The two searches of `bodies` -/

theorem afterOpen?_eq_none {cs : Text} (h : afterOpen? cs = none) : ∀ i, ¬OpensAt cs i := by
  fun_induction afterOpen? cs with
  | case1 rest => exact absurd h (Option.some_ne_none rest)
  | case2 c rest hnot ih =>
    intro i hi
    cases i with
    | zero => exact not_opensAt_cons_zero hnot hi
    | succ i => exact ih h i hi
  | case3 => exact not_markAt_nil (List.cons_ne_nil _ _)

theorem afterOpen?_eq_some {cs r : Text} (h : afterOpen? cs = some r) :
    ∃ i, FirstFrom (OpensAt cs) 0 i ∧ r = cs.drop (i + 3) := by
  fun_induction afterOpen? cs with
  | case1 rest => exact ⟨0, FirstFrom.zero (opensAt_zero rest), (Option.some.inj h).symm⟩
  | case2 c rest hnot ih =>
    obtain ⟨i, hi, rfl⟩ := ih h
    exact ⟨i + 1, FirstFrom.succ (not_opensAt_cons_zero hnot) hi, rfl⟩
  | case3 => exact absurd h (Option.some_ne_none r).symm

theorem untilClose?_eq_none {acc r : Text} (h : untilClose? acc r = none) :
    ∀ j, ¬ClosesAt r j := by
  fun_induction untilClose? acc r with
  | case1 acc rest => exact absurd h (Option.some_ne_none _)
  | case2 acc c rest hnot ih =>
    intro j hj
    cases j with
    | zero => exact not_closesAt_cons_zero hnot hj
    | succ j => exact ih h j hj
  | case3 acc => exact not_markAt_nil (List.cons_ne_nil _ _)

theorem untilClose?_eq_some {acc r body rest : Text} (h : untilClose? acc r = some (body, rest)) :
    ∃ j, FirstFrom (ClosesAt r) 0 j ∧ body = acc.reverse ++ r.take j ∧
      rest = r.drop (j + 2) := by
  fun_induction untilClose? acc r with
  | case1 acc rest' =>
    obtain ⟨hb, hr⟩ := Prod.mk.inj (Option.some.inj h)
    exact ⟨0, FirstFrom.zero (closesAt_zero rest'), by simp [← hb], hr.symm⟩
  | case2 acc c rest' hnot ih =>
    obtain ⟨j, hj, rfl, rfl⟩ := ih h
    exact ⟨j + 1, FirstFrom.succ (not_closesAt_cons_zero hnot) hj, by simp, rfl⟩
  | case3 acc => exact absurd h (Option.some_ne_none _).symm

/-- The search for `/**` from position `p` finds the first one. -/
theorem afterOpen?_drop_eq_some {cs r : Text} {p : Nat} (h : afterOpen? (cs.drop p) = some r) :
    ∃ i, FirstFrom (OpensAt cs) p i ∧ r = cs.drop (i + 3) := by
  obtain ⟨k, hk, rfl⟩ := afterOpen?_eq_some h
  refine ⟨p + k, hk.shift (markAt_drop openMark cs p), ?_⟩
  rw [List.drop_drop, Nat.add_assoc]

/-- The search for `*/` from position `q` finds the first one; the body is what it passed. -/
theorem untilClose?_drop_eq_some {cs body rest : Text} {q : Nat}
    (h : untilClose? [] (cs.drop q) = some (body, rest)) :
    ∃ j, FirstFrom (ClosesAt cs) q j ∧ body = (cs.drop q).take (j - q) ∧
      rest = cs.drop (j + 2) := by
  obtain ⟨k, hk, rfl, rfl⟩ := untilClose?_eq_some h
  refine ⟨q + k, hk.shift (markAt_drop closeMark cs q), by simp, ?_⟩
  rw [List.drop_drop, Nat.add_assoc]

/-! ### `bodies` runs the scan -/

/-- Each round of `bodiesAux` is one step of the scan, and the fuel outlasts the text. -/
theorem bodiesAux_scan (cs : Text) (fuel : Nat) :
    ∀ p, cs.length - p < fuel →
      ∃ ms, Scan cs p ms ∧ bodiesAux fuel (cs.drop p) = ms.map (commentAt cs) := by
  induction fuel with
  | zero => exact fun p h => absurd h (Nat.not_lt_zero _)
  | succ fuel ih =>
    intro p hfuel
    rcases ho : afterOpen? (cs.drop p) with _ | r
    · exact ⟨[], .noOpen (not_markAt_of_drop (afterOpen?_eq_none ho)), by simp [bodiesAux, ho]⟩
    obtain ⟨i, hi, rfl⟩ := afterOpen?_drop_eq_some ho
    rcases hc : untilClose? [] (cs.drop (i + 3)) with _ | ⟨body, rest⟩
    · exact ⟨[], .noClose hi (not_markAt_of_drop (untilClose?_eq_none hc)),
        by simp [bodiesAux, ho, hc]⟩
    obtain ⟨j, hj, rfl, rfl⟩ := untilClose?_drop_eq_some hc
    have hlen := hj.2.1.le_length
    obtain ⟨ms, hscan, hms⟩ := ih (j + 2) (by have := hi.1; have := hj.1; omega)
    refine ⟨(i, j) :: ms, .found hi hj hscan, ?_⟩
    simp [bodiesAux, ho, hc, hms, commentAt]

theorem bodies_eq_scan (cs : Text) : ∃ ms, Scan cs 0 ms ∧ bodies cs = ms.map (commentAt cs) :=
  bodiesAux_scan cs (cs.length + 1) 0 (by omega)

/-! ### What a scan finds -/

namespace Scan

variable {cs : Text} {p : Nat} {ms : List (Nat × Nat)}

/-- The scan has one run from each position. -/
theorem unique {ms' : List (Nat × Nat)} (h : Scan cs p ms) (h' : Scan cs p ms') : ms = ms' := by
  induction h generalizing ms' with
  | noOpen hno =>
    cases h' with
    | noOpen _ => rfl
    | noClose hi _ => exact absurd hi.2.1 (hno _ hi.1)
    | found hi _ _ => exact absurd hi.2.1 (hno _ hi.1)
  | noClose hi hnc =>
    cases h' with
    | noOpen hno => exact absurd hi.2.1 (hno _ hi.1)
    | noClose _ _ => rfl
    | found hi' hj' _ =>
      obtain rfl := hi.unique hi'
      exact absurd hj'.2.1 (hnc _ hj'.1)
  | found hi hj _ ih =>
    cases h' with
    | noOpen hno => exact absurd hi.2.1 (hno _ hi.1)
    | noClose hi' hnc =>
      obtain rfl := hi.unique hi'
      exact absurd hj.2.1 (hnc _ hj.1)
    | found hi' hj' hs' =>
      obtain rfl := hi.unique hi'
      obtain rfl := hj.unique hj'
      rw [ih hs']

/-- Every comment of a scan from `p` opens at or after `p`, at a `/**`, and closes at the first
`*/` three past that. -/
theorem comment (h : Scan cs p ms) :
    ∀ m ∈ ms, p ≤ m.1 ∧ OpensAt cs m.1 ∧ FirstFrom (ClosesAt cs) (m.1 + 3) m.2 := by
  induction h with
  | noOpen _ => exact fun _ hm => absurd hm List.not_mem_nil
  | noClose _ _ => exact fun _ hm => absurd hm List.not_mem_nil
  | found hi hj _ ih =>
    intro m hm
    rcases List.mem_cons.1 hm with rfl | hm
    · exact ⟨hi.1, hi.2.1, hj⟩
    · obtain ⟨hjm, hm'⟩ := ih m hm
      exact ⟨by have := hi.1; have := hj.1; omega, hm'⟩

/-- The comments of a scan are disjoint and in order. -/
theorem pairwise (h : Scan cs p ms) : ms.Pairwise (fun a b => a.2 + 2 ≤ b.1) := by
  induction h with
  | noOpen _ => exact .nil
  | noClose _ _ => exact .nil
  | found _ _ hs ih => exact .cons (fun b hb => (hs.comment b hb).1) ih

end Scan

/-- No body holds `*/`: the first `*/` after the opening ends it. -/
theorem closeMark_not_infix_body {cs : Text} {i j : Nat}
    (hj : FirstFrom (ClosesAt cs) (i + 3) j) : ¬closeMark <:+: (commentAt cs (i, j)).1 := by
  intro h
  obtain ⟨k, hik, hkj, hk⟩ := exists_prefix_drop_of_infix h
  have h2 : closeMark.length = 2 := rfl
  exact hj.2.2 k hik (by have := hj.1; omega) hk

/-! ### The scan is the search -/

/-- Where the scan finds a comment, the search finds the same match. -/
theorem searchFrom_of_found {cs : Text} {p i j : Nat} (hi : FirstFrom (OpensAt cs) p i)
    (hj : FirstFrom (ClosesAt cs) (i + 3) j) : SearchFrom cs p i j := by
  obtain ⟨hpi, hopen, hfirst⟩ := hi
  obtain ⟨hij, hclose, hshort⟩ := hj
  refine ⟨⟨hpi, ⟨j, hopen, hij, hclose⟩, ?_⟩,
    ⟨Nat.zero_le j, ⟨hopen, hij, hclose⟩, ?_⟩⟩
  · rintro k hpk hki ⟨j', hk, -, -⟩
    exact hfirst k hpk hki hk
  · rintro k - hkj ⟨-, hik, hk⟩
    exact hshort k hik hkj hk

/-- A `/**` that no `*/` follows leaves none for any later `/**`: the pattern matches nowhere
from where the scan stops. -/
theorem not_spans_of_noClose {cs : Text} {p i : Nat} (hi : FirstFrom (OpensAt cs) p i)
    (hnc : ∀ j, i + 3 ≤ j → ¬ClosesAt cs j) : ∀ k j, p ≤ k → ¬Spans cs k j := by
  rintro k j hpk ⟨hk, hkj, hj⟩
  have hik : i ≤ k := Nat.le_of_not_lt fun hki => hi.2.2 k hpk hki hk
  exact hnc j (by omega) hj

theorem Scan.findIter {cs : Text} {p : Nat} {ms : List (Nat × Nat)} (h : Scan cs p ms) :
    FindIter cs p ms := by
  induction h with
  | noOpen hno => exact .done fun k _ hpk hs => hno k hpk hs.1
  | noClose hi hnc => exact .done (not_spans_of_noClose hi hnc)
  | found hi hj _ ih => exact .next (searchFrom_of_found hi hj) ih

/-- The search has one run from each position. -/
theorem FindIter.unique {cs : Text} {p : Nat} {ms ms' : List (Nat × Nat)} (h : FindIter cs p ms)
    (h' : FindIter cs p ms') : ms = ms' := by
  induction h generalizing ms' with
  | done hno =>
    cases h' with
    | done _ => rfl
    | next hs _ => exact absurd hs.2.2.1 (hno _ _ hs.1.1)
  | next hs _ ih =>
    cases h' with
    | done hno => exact absurd hs.2.2.1 (hno _ _ hs.1.1)
    | next hs' hrest =>
      obtain rfl := hs.1.unique hs'.1
      obtain rfl := hs.2.unique hs'.2
      rw [ih hrest]

/-! ### The comments of a text -/

/-- **The doc comments of a text.** The scan from the start has exactly one run, and so has the
search with the lazy pattern, the same one. `bodies` are its comments, each body with the text
after its `*/` where the declaration is looked for, and the parser reads each comment in that
order. The comments lie inside the text, disjoint and in order, and no body holds `*/`.
`/**/` opens no comment, while `/***/` is an empty one. -/
theorem bodies_scan :
    (∀ cs : Text, ∃ ms, (∀ ms', Scan cs 0 ms' ↔ ms' = ms) ∧
      (∀ ms', FindIter cs 0 ms' ↔ ms' = ms) ∧
      bodies cs = ms.map (commentAt cs) ∧
      roles cs = ms.map (fun m => role (commentAt cs m).1 (commentAt cs m).2) ∧
      (∀ m ∈ ms, m.1 + 3 ≤ m.2 ∧ m.2 + 2 ≤ cs.length) ∧
      ms.Pairwise (fun a b => a.2 + 2 ≤ b.1) ∧
      ∀ b ∈ bodies cs, ¬closeMark <:+: b.1) ∧
    bodies "/**/" = [] ∧ bodies "/***/" = [([], [])] := by
  refine ⟨fun cs => ?_, by decide, by decide⟩
  obtain ⟨ms, hscan, hbodies⟩ := bodies_eq_scan cs
  refine ⟨ms, fun ms' => ⟨fun h => hscan.unique h |>.symm, fun h => h ▸ hscan⟩,
    fun ms' => ⟨fun h => hscan.findIter.unique h |>.symm, fun h => h ▸ hscan.findIter⟩,
    hbodies, ?_, ?_, hscan.pairwise, ?_⟩
  · rw [roles, hbodies, List.map_map]
    rfl
  · intro m hm
    obtain ⟨-, -, hj⟩ := hscan.comment m hm
    exact ⟨hj.1, hj.2.1.le_length⟩
  · intro b hb
    rw [hbodies, List.mem_map] at hb
    obtain ⟨m, hm, rfl⟩ := hb
    exact closeMark_not_infix_body (hscan.comment m hm).2.2

end DocPages.Comment
