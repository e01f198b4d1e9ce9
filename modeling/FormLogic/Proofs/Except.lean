/-
  FormLogic.Proofs.Except

  Taking computations that may fail apart: where the whole succeeds, so does
  every step of it; where it fails, the first step to fail tells why.
-/

namespace FormLogic
namespace Except

variable {ε α β : Type}

/-- A computation that gives no result ends in an error. -/
theorem toBool_eq_false {r : Except ε α} : r.toBool = false ↔ ∃ e, r = .error e := by
  cases r <;> simp [Except.toBool]

/-- Two steps succeed where the first succeeds and the second does with its result. -/
theorem bind_eq_ok {r : Except ε α} {f : α → Except ε β} {b : β} :
    r >>= f = .ok b ↔ ∃ a, r = .ok a ∧ f a = .ok b := by
  cases r <;> simp [bind, Except.bind]

/-- Two steps fail where the first fails, or where the second does with its result. -/
theorem bind_eq_error {r : Except ε α} {f : α → Except ε β} {e : ε} :
    r >>= f = .error e ↔ r = .error e ∨ ∃ a, r = .ok a ∧ f a = .error e := by
  cases r <;> simp [bind, Except.bind]

/-- What is done with a result succeeds where there is one. -/
theorem map_eq_ok {r : Except ε α} {f : α → β} {b : β} :
    r.map f = .ok b ↔ ∃ a, r = .ok a ∧ f a = b := by
  cases r <;> simp [Except.map]

/-- And it fails where there is none. -/
theorem map_eq_error {r : Except ε α} {f : α → β} {e : ε} :
    r.map f = .error e ↔ r = .error e := by
  cases r <;> simp [Except.map]

/-- Another wording of the error changes no result. -/
theorem mapError_eq_ok {ε' : Type} {r : Except ε α} {f : ε → ε'} {a : α} :
    r.mapError f = .ok a ↔ r = .ok a := by
  cases r with
  | error e => exact ⟨nofun, nofun⟩
  | ok b =>
    constructor
    · rintro ⟨⟩
      rfl
    · rintro ⟨⟩
      rfl

/-- An error is worded another way where there is one. -/
theorem mapError_eq_error {ε' : Type} {r : Except ε α} {f : ε → ε'} {e' : ε'} :
    r.mapError f = .error e' ↔ ∃ e, r = .error e ∧ f e = e' := by
  cases r with
  | error e =>
    constructor
    · exact fun h => ⟨e, rfl, Except.error.inj h⟩
    · rintro ⟨e, ⟨⟩, rfl⟩
      rfl
  | ok a => exact ⟨nofun, fun ⟨_, h, _⟩ => nomatch h⟩

/-- A computation gives a result where it does not fail. -/
theorem exists_ok_iff {r : Except ε α} : (∃ a, r = .ok a) ↔ ∀ e, r ≠ .error e := by
  cases r <;> simp

/-- A step that always succeeds leaves the failures of the first. -/
theorem bind_eq_error_of_ok {r : Except ε α} {f : α → Except ε β} {e : ε}
    (hf : ∀ a, ∃ b, f a = .ok b) : r >>= f = .error e ↔ r = .error e := by
  refine bind_eq_error.trans (or_iff_left ?_)
  rintro ⟨a, -, herror⟩
  obtain ⟨b, hb⟩ := hf a
  cases hb.symm.trans herror

/-- Two steps fail for a reason against the first of them; where there is none, as the second does,
whatever it is given. -/
theorem bind_eq_error_in_turn {γ : Type} {r : Except ε α} {f : α → Except ε β} {e : ε}
    {reasons : γ → Prop} {g : γ → ε} {Q : Prop}
    (hr : ∀ e, r = .error e ↔ ∃ x, reasons x ∧ e = g x) (hf : ∀ a, f a = .error e ↔ Q) :
    r >>= f = .error e ↔ (∃ x, reasons x ∧ e = g x) ∨ (∀ x, ¬ reasons x) ∧ Q := by
  have hok : (∃ a, r = .ok a) ↔ ∀ x, ¬ reasons x := by
    rw [exists_ok_iff]
    constructor
    · intro h x hx
      exact h _ ((hr _).mpr ⟨x, hx, rfl⟩)
    · intro h e he
      obtain ⟨x, hx, -⟩ := (hr e).mp he
      exact h x hx
  rw [bind_eq_error, hr, ← hok]
  simp only [hf, exists_and_right]

/-- Two things done with a result are done in one go. -/
theorem map_map {γ : Type} (r : Except ε α) (f : α → β) (g : β → γ) :
    (r.map f).map g = r.map fun a => g (f a) := by
  cases r <;> rfl

/-- Two computations agree up to `f` where both end in one error, or `f` takes their results to
one value. -/
theorem map_eq_map_iff {r s : Except ε α} {f : α → β} :
    r.map f = s.map f ↔ (∃ e, r = .error e ∧ s = .error e)
      ∨ ∃ a b, r = .ok a ∧ s = .ok b ∧ f a = f b := by
  cases r <;> cases s <;> simp [Except.map, eq_comm]

end Except
end FormLogic
