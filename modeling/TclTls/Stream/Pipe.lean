import Mathlib.Data.List.Basic

/-!
# TclTls.Stream.Pipe

One direction of a connection: what the sender still has to say, what has been
taken from it and is on its way, and what has come out at the far end.

A pipe is moved by accepting from the sender and by delivering to the receiver.
Either takes from the front and puts at the back, so that the `whole` of the pipe
stays what it is: nothing is lost, doubled or put out of order.  `Leads` is what
any number of moves comes to.
-/

namespace Stream

structure Pipe (α : Type) where
  unsent : List α
  carried : List α := []
  arrived : List α := []

namespace Pipe

variable {α : Type}

/-- All that is ever said. -/
def whole (p : Pipe α) : List α := p.arrived ++ (p.carried ++ p.unsent)

/-- The first `n` elements are taken from the sender. -/
def accept (n : Nat) (p : Pipe α) : Pipe α :=
  { p with unsent := p.unsent.drop n, carried := p.carried ++ p.unsent.take n }

/-- The next `n` elements come out. -/
def deliver (n : Nat) (p : Pipe α) : Pipe α :=
  { p with carried := p.carried.drop n, arrived := p.arrived ++ p.carried.take n }

/-- `q` may come after `p`. -/
structure Leads (p q : Pipe α) : Prop where
  whole : q.whole = p.whole
  arrived : p.arrived <+: q.arrived
  unsent : q.unsent <:+ p.unsent

@[simp] theorem accept_zero (p : Pipe α) : p.accept 0 = p := by
  simp [accept]

@[simp] theorem deliver_zero (p : Pipe α) : p.deliver 0 = p := by
  simp [deliver]

@[simp] theorem whole_accept (n : Nat) (p : Pipe α) : (p.accept n).whole = p.whole := by
  simp [whole, accept]

@[simp] theorem whole_deliver (n : Nat) (p : Pipe α) : (p.deliver n).whole = p.whole := by
  simp only [whole, deliver, List.append_assoc]
  rw [← List.append_assoc (p.carried.take n), List.take_append_drop]

namespace Leads

variable {p q r : Pipe α}

@[refl] theorem refl (p : Pipe α) : p.Leads p := ⟨rfl, List.prefix_rfl, List.suffix_rfl⟩

theorem trans (h : p.Leads q) (h' : q.Leads r) : p.Leads r :=
  ⟨h'.whole.trans h.whole, h.arrived.trans h'.arrived, h'.unsent.trans h.unsent⟩

theorem accept (n : Nat) (p : Pipe α) : p.Leads (p.accept n) :=
  ⟨whole_accept n p, List.prefix_rfl, List.drop_suffix n p.unsent⟩

theorem deliver (n : Nat) (p : Pipe α) : p.Leads (p.deliver n) :=
  ⟨whole_deliver n p, List.prefix_append _ _, List.suffix_rfl⟩

end Leads

/-- Everything has come out exactly if nothing is on its way or still to be said. -/
theorem arrived_eq_whole_iff (p : Pipe α) :
    p.arrived = p.whole ↔ p.carried = [] ∧ p.unsent = [] := by
  unfold whole
  rw [← List.append_eq_nil_iff]
  exact ⟨fun h => List.self_eq_append_right.mp h, fun h => by rw [h, List.append_nil]⟩

end Pipe

end Stream
