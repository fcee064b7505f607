/-!
# TclTls.Failure

Fallible steps in sequence: when they succeed, and when they fail.
-/

namespace TclTls

/-! ## Success -/

theorem ok_bind {ε α β : Type} (a : α) (f : α → Except ε β) : (Except.ok a >>= f) = f a := rfl

theorem bind_eq_ok_iff {ε α β : Type} {x : Except ε α} {f : α → Except ε β} {b : β} :
    (x >>= f) = .ok b ↔ ∃ a, x = .ok a ∧ f a = .ok b := by
  cases x <;> simp [bind, Except.bind]

theorem mapError_eq_ok_iff {ε ε' α : Type} {x : Except ε α} {f : ε → ε'} {a : α} :
    x.mapError f = .ok a ↔ x = .ok a := by
  cases x with
  | error e => exact ⟨nofun, nofun⟩
  | ok v => constructor <;> intro h <;> cases h <;> rfl

theorem eq_ok_of_toOption {ε α : Type} {x : Except ε α} {a : α} (h : x.toOption = some a) :
    x = .ok a := by
  cases x with
  | error e => contradiction
  | ok v => exact congrArg Except.ok (Option.some.inj h)

/-! ## Failure -/

/-- The result is an error. -/
def Fails {ε α : Type} (r : Except ε α) : Prop := ∃ e, r = .error e

@[simp] theorem fails_error {ε α : Type} (e : ε) : Fails (.error e : Except ε α) := ⟨e, rfl⟩

@[simp] theorem not_fails_ok {ε α : Type} (a : α) : ¬ Fails (.ok a : Except ε α) := by
  rintro ⟨e, he⟩
  contradiction

theorem fails_bind {ε α β : Type} (r : Except ε α) (f : α → Except ε β) :
    Fails (r >>= f) ↔ Fails r ∨ ∃ a, r = .ok a ∧ Fails (f a) := by
  cases r with
  | error e => exact iff_of_true ⟨e, rfl⟩ (.inl ⟨e, rfl⟩)
  | ok a => simp [Fails, Bind.bind, Except.bind]

/-- A sequence fails where its first step does or the rest, if that does not
depend on what the first step returns. -/
theorem fails_bind_iff {ε α β : Type} {r : Except ε α} {f : α → Except ε β} {P : Prop}
    (hf : ∀ a, Fails (f a) ↔ P) : Fails (r >>= f) ↔ Fails r ∨ P := by
  rw [fails_bind]
  cases r with
  | error e => simp
  | ok a => simp [hf]

@[simp] theorem fails_map {ε α β : Type} (r : Except ε α) (f : α → β) :
    Fails (f <$> r) ↔ Fails r := by
  cases r <;> simp [Fails, Functor.map, Except.map]

theorem fails_bind_pure {ε α β : Type} {r : Except ε α} {f : α → β} :
    Fails (r >>= fun a => pure (f a)) ↔ Fails r := by
  simp

end TclTls
