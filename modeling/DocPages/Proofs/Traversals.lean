import Mathlib.Data.List.Forall2
/-!
# Traversals that stop at the first failure

The program runs a step over each element of a list, in order, and stops at the first step that
fails: globbing each pattern, selecting below each directory, looking up each source. This
module says once what such a traversal gives, so that each loop of the program is read off it
rather than reopened.

## What is proved

* `Except.ok_bind`, `Except.error_bind`, `Except.map_ok`, `Except.mapError_ok` and their kin —
  the simp set that runs a result.
* `mapM_eq_ok_iff` — a traversal succeeds exactly with one result per element, each that
  element's; `mapM_cons_eq_ok` and `mem_of_mapM_eq_ok` read it off a first element and a member.
* `mapM_eq_error_iff` — it fails exactly with the error of the first element that fails.
* `foldlM_eq_map_mapM` — folding each element's results in as they come is folding them all once
  every element has succeeded.
-/

namespace DocPages

/-! ### Running a result

What binding, mapping and relabelling the error give on each kind of result, so that a
computation in `Except` is read off with `simp` and these equations rather than by opening the
monad. -/

section Run

variable {α β ε δ : Type}

@[simp] theorem Except.ok_bind (a : α) (f : α → Except ε β) : (Except.ok a >>= f) = f a := rfl

@[simp] theorem Except.error_bind (e : ε) (f : α → Except ε β) :
    (Except.error e >>= f) = .error e := rfl

@[simp] theorem Except.pure_eq_ok (a : α) : (pure a : Except ε α) = .ok a := rfl

@[simp] theorem Except.map_ok (f : α → β) (a : α) : (Except.ok a : Except ε α).map f = .ok (f a) :=
  rfl

@[simp] theorem Except.map_error (f : α → β) (e : ε) :
    (Except.error e : Except ε α).map f = .error e := rfl

@[simp] theorem Except.mapError_ok (f : ε → δ) (a : α) :
    (Except.ok a : Except ε α).mapError f = .ok a := rfl

@[simp] theorem Except.mapError_error (f : ε → δ) (e : ε) :
    (Except.error e : Except ε α).mapError f = .error (f e) := rfl

end Run

section Traverse

variable {α β ε : Type} (f : α → Except ε β)

/-- A traversal succeeds exactly with one result per element, each that element's. -/
theorem mapM_eq_ok_iff (l : List α) (out : List β) :
    l.mapM f = .ok out ↔ List.Forall₂ (fun a b => f a = .ok b) l out := by
  induction l generalizing out with
  | nil =>
    cases out <;> simp []
  | cons a l ih =>
    rw [List.mapM_cons, List.forall₂_cons_left_iff]
    cases ha : f a with
    | error e => simp []
    | ok b =>
      cases hl : l.mapM f with
      | error e =>
        simp only [Except.ok_bind, Except.error_bind, reduceCtorEq, false_iff, not_exists, not_and]
        intro b' l' _ hrest _
        rw [(ih l').mpr hrest] at hl
        cases hl
      | ok bs =>
        simp only [bind, Except.bind, pure, Except.pure, Except.ok.injEq, ← ih, hl]
        constructor
        · rintro rfl
          exact ⟨b, bs, rfl, rfl, rfl⟩
        · rintro ⟨b', l', rfl, rfl, rfl⟩
          rfl

variable {f}

/-- A traversal of a list that succeeds succeeds on its head and on its tail. -/
theorem mapM_cons_eq_ok {a : α} {l : List α} {rs : List β} (h : (a :: l).mapM f = .ok rs) :
    ∃ r rs', f a = .ok r ∧ l.mapM f = .ok rs' ∧ rs = r :: rs' := by
  obtain ⟨r, rs', hr, hrest, rfl⟩ := List.forall₂_cons_left_iff.mp ((mapM_eq_ok_iff f _ rs).mp h)
  exact ⟨r, rs', hr, (mapM_eq_ok_iff f l rs').mpr hrest, rfl⟩

/-- Every result of a traversal that succeeds is the result of some element. -/
theorem mem_of_mapM_eq_ok {l : List α} {rs : List β} (h : l.mapM f = .ok rs) :
    ∀ r ∈ rs, ∃ a ∈ l, f a = .ok r := by
  have hall := (mapM_eq_ok_iff f l rs).mp h
  clear h
  induction hall with
  | nil => simp
  | @cons a r l rs ha _ ih =>
    intro r' hr'
    rcases List.mem_cons.mp hr' with rfl | hr'
    · exact ⟨a, List.mem_cons_self, ha⟩
    · obtain ⟨a', ha', hfa⟩ := ih r' hr'
      exact ⟨a', List.mem_cons_of_mem _ ha', hfa⟩

variable (f)

/-- A traversal fails exactly with the error of the first element that fails, every element
before it succeeding. -/
theorem mapM_eq_error_iff (l : List α) (e : ε) :
    l.mapM f = .error e ↔ ∃ before x after, l = before ++ x :: after ∧
      (∀ b ∈ before, ∃ v, f b = .ok v) ∧ f x = .error e := by
  induction l with
  | nil =>
    refine ⟨fun h => (by rw [List.mapM_nil] at h; cases h), ?_⟩
    rintro ⟨before, x, after, h, -⟩
    cases before <;> cases h
  | cons a l ih =>
    cases ha : f a with
    | error e' =>
      have hhead : (a :: l).mapM f = .error e' := by
        rw [List.mapM_cons, ha]
        rfl
      rw [hhead, Except.error.injEq]
      constructor
      · rintro rfl
        exact ⟨[], a, l, rfl, by simp, ha⟩
      · rintro ⟨before, x, after, hl, hb, hx⟩
        cases before with
        | nil =>
          obtain ⟨rfl, rfl⟩ := List.cons.inj hl
          rw [ha] at hx
          exact Except.error.inj hx
        | cons b before =>
          obtain ⟨rfl, -⟩ := List.cons.inj hl
          obtain ⟨v, hv⟩ := hb _ List.mem_cons_self
          rw [ha] at hv
          cases hv
    | ok v =>
      have hrest : (a :: l).mapM f = .error e ↔ l.mapM f = .error e := by
        rw [List.mapM_cons, ha]
        cases l.mapM f <;> simp []
      rw [hrest, ih]
      constructor
      · rintro ⟨before, x, after, rfl, hb, hx⟩
        refine ⟨a :: before, x, after, rfl, ?_, hx⟩
        rintro b (_ | ⟨_, hb'⟩)
        · exact ⟨v, ha⟩
        · exact hb b hb'
      · rintro ⟨before, x, after, hl, hb, hx⟩
        cases before with
        | nil =>
          obtain ⟨rfl, rfl⟩ := List.cons.inj hl
          rw [ha] at hx
          cases hx
        | cons b before =>
          obtain ⟨rfl, rfl⟩ := List.cons.inj hl
          exact ⟨before, x, after, rfl, fun b' hb' => hb b' (List.mem_cons_of_mem _ hb'), hx⟩

theorem List.mapM_congr_mem {f g : α → Except ε β} :
    ∀ (l : List α), (∀ a ∈ l, f a = g a) → l.mapM f = l.mapM g
  | [], _ => rfl
  | a :: l, h => by
    rw [List.mapM_cons, List.mapM_cons, h a List.mem_cons_self,
      List.mapM_congr_mem l fun b hb => h b (List.mem_cons_of_mem _ hb)]

/-- Folding each element's results into an accumulator as they come is folding them all, joined,
once every element has succeeded. -/
theorem foldlM_eq_map_mapM {γ : Type} (h : α → Except ε (List β)) (g : γ → β → γ) (l : List α)
    (acc : γ) :
    l.foldlM (fun acc a => do let more ← h a; pure (more.foldl g acc)) acc =
      (l.mapM h).map fun bss => bss.flatten.foldl g acc := by
  induction l generalizing acc with
  | nil => rfl
  | cons a l ih =>
    rw [List.foldlM_cons, List.mapM_cons]
    cases ha : h a with
    | error e => rfl
    | ok more =>
      simp only [bind, Except.bind, pure, Except.pure] at ih ⊢
      rw [ih]
      cases l.mapM h with
      | error e => rfl
      | ok bss => simp [List.foldl_append]

end Traverse

section Results

variable {α β ε : Type}

theorem map_eq_ok_iff {γ : Type} {x : Except ε β} {F : β → γ} {c : γ} :
    x.map F = .ok c ↔ ∃ b, x = .ok b ∧ c = F b := by
  cases x <;> simp [eq_comm]

theorem map_eq_error_iff {γ : Type} {x : Except ε β} {F : β → γ} {e : ε} :
    x.map F = .error e ↔ x = .error e := by
  cases x <;> simp []

theorem bind_pure_eq_ok {e : Except ε α} {f : α → β} {r : β}
    (h : (do let x ← e; pure (f x)) = .ok r) : ∃ x, e = .ok x ∧ r = f x := by
  cases e with
  | error err => cases h
  | ok x =>
    cases h
    exact ⟨x, rfl, rfl⟩

theorem exists_eq_ok_of_toBool {r : Except ε α} (h : r.toBool = true) : ∃ a, r = .ok a := by
  cases r with
  | error e => cases h
  | ok a => exact ⟨a, rfl⟩

end Results

end DocPages
