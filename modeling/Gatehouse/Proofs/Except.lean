/-
Checks in a row. They pass exactly if each of them does, and it makes no difference to that how their errors
are named.
-/
namespace Gatehouse

variable {ε δ α β : Type}

theorem bind_eq_ok_iff {x : Except ε α} {f : α → Except ε β} {b : β} :
    x >>= f = .ok b ↔ ∃ a, x = .ok a ∧ f a = .ok b := by
  constructor
  · intro h
    cases x with
    | error e => exact nomatch h
    | ok a => exact ⟨a, rfl, h⟩
  · rintro ⟨a, rfl, h⟩
    exact h

theorem mapError_eq_ok_iff {x : Except ε α} {f : ε → δ} {a : α} : x.mapError f = .ok a ↔ x = .ok a := by
  constructor
  · intro h
    cases x with
    | error e => exact nomatch h
    | ok b =>
      obtain rfl : b = a := Except.ok.inj h
      rfl
  · rintro rfl
    rfl

theorem mapError_injective {x y : Except ε α} {f : ε → δ} (hf : ∀ d e, f d = f e → d = e)
    (h : x.mapError f = y.mapError f) : x = y := by
  cases x with
  | error d =>
    cases y with
    | error e => rw [hf d e (Except.error.inj h)]
    | ok b => exact nomatch h
  | ok a =>
    cases y with
    | error e => exact nomatch h
    | ok b => rw [Except.ok.inj h]

theorem map_eq_ok_iff {x : Except ε α} {f : α → β} {b : β} : f <$> x = .ok b ↔ ∃ a, x = .ok a ∧ f a = b := by
  constructor
  · intro h
    cases x with
    | error e => exact nomatch h
    | ok a => exact ⟨a, rfl, Except.ok.inj h⟩
  · rintro ⟨a, rfl, rfl⟩
    rfl

end Gatehouse
