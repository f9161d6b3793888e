import Mathlib.Data.List.Forall2
/-!
Steps that can fail, one after the other.

Texts, files, picks and statements are all taken in this way: each in its turn, until one cannot be taken. So
what has been taken was taken at every step (`mapM_eq_ok_iff`, `of_foldlM_eq_ok`), and a failure is the failure
of one step (`exists_of_mapM_eq_error`, `of_foldlM_eq_error`).
-/

namespace QueryDrill

variable {α β ε : Type}

/-! ## 1. One step -/

theorem bind_eq_ok_iff {x : Except ε α} {f : α → Except ε β} {b : β} :
    x >>= f = .ok b ↔ ∃ a, x = .ok a ∧ f a = .ok b := by
  cases x with
  | error e => simp [bind, Except.bind]
  | ok a => simp [bind, Except.bind]

theorem bind_eq_error_iff {x : Except ε α} {f : α → Except ε β} {e : ε} :
    x >>= f = .error e ↔ x = .error e ∨ ∃ a, x = .ok a ∧ f a = .error e := by
  cases x with
  | error e' => simp [bind, Except.bind]
  | ok a => simp [bind, Except.bind]

theorem pure_eq_ok_iff {a b : α} : (pure a : Except ε α) = .ok b ↔ a = b := by simp [pure, Except.pure]

theorem pure_ne_error {a : α} {e : ε} : (pure a : Except ε α) ≠ .error e := by simp [pure, Except.pure]

theorem isOk_iff {x : Except ε α} : x.isOk = true ↔ ∃ a, x = .ok a := by
  cases x <;> simp [Except.isOk, Except.toBool]

/-! ## 2. One for each element of a list -/

section Traversal

variable {x : α → Except ε β} {as : List α}

/-- A list is taken just when each element of it is. -/
theorem mapM_eq_ok_iff {bs : List β} : as.mapM x = .ok bs ↔ List.Forall₂ (fun a b => x a = .ok b) as bs := by
  induction as generalizing bs with
  | nil => rw [List.mapM_nil, pure_eq_ok_iff, List.forall₂_nil_left_iff, eq_comm]
  | cons a as ih =>
    simp only [List.mapM_cons, bind_eq_ok_iff, pure_eq_ok_iff, ih, List.forall₂_cons_left_iff]
    constructor
    · rintro ⟨b, hb, bs, hbs, rfl⟩
      exact ⟨b, bs, hb, hbs, rfl⟩
    · rintro ⟨b, bs, hb, hbs, rfl⟩
      exact ⟨b, hb, bs, hbs, rfl⟩

/-- A list is refused as the first element of it that is. -/
theorem exists_of_mapM_eq_error {e : ε} (h : as.mapM x = .error e) :
    ∃ done a rest, as = done ++ a :: rest ∧ (∀ b ∈ done, (x b).isOk) ∧ x a = .error e := by
  induction as with
  | nil => exact absurd h pure_ne_error
  | cons a as ih =>
    rw [List.mapM_cons, bind_eq_error_iff] at h
    obtain ha | ⟨b, hb, h⟩ := h
    · exact ⟨[], a, as, rfl, List.forall_mem_nil _, ha⟩
    · obtain has | ⟨bs, -, h⟩ := bind_eq_error_iff.1 h
      · obtain ⟨done, c, rest, rfl, hdone, hc⟩ := ih has
        exact ⟨a :: done, c, rest, rfl, List.forall_mem_cons.2 ⟨isOk_iff.2 ⟨b, hb⟩, hdone⟩, hc⟩
      · exact absurd h pure_ne_error

end Traversal

/-! ## 3. One from the result of the other -/

section Folding

variable {step : β → α → Except ε β} {as : List α} {b b' : β}

/-- What each step preserves holds of the result. -/
theorem of_foldlM_eq_ok {P : β → Prop} (hstep : ∀ b a b', P b → step b a = .ok b' → P b') (hb : P b)
    (h : as.foldlM step b = .ok b') : P b' := by
  induction as generalizing b with
  | nil => exact pure_eq_ok_iff.1 h ▸ hb
  | cons a as ih =>
    rw [List.foldlM_cons, bind_eq_ok_iff] at h
    obtain ⟨b₁, hfirst, hrest⟩ := h
    exact ih (hstep b a b₁ hb hfirst) hrest

/-- What holds of the failure of each step holds of the failure of all. -/
theorem of_foldlM_eq_error {P : ε → Prop} (hstep : ∀ b a e, step b a = .error e → P e) {e : ε}
    (h : as.foldlM step b = .error e) : P e := by
  induction as generalizing b with
  | nil => exact absurd h pure_ne_error
  | cons a as ih =>
    rw [List.foldlM_cons, bind_eq_error_iff] at h
    obtain hfirst | ⟨b₁, -, hrest⟩ := h
    · exact hstep b a e hfirst
    · exact ih hrest

end Folding

end QueryDrill
