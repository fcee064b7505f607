/-!
# TclTls.Interaction.Program

Imperative code that owns a piece of mutable state and calls into its
surroundings.

A `Program σ R α` reads and writes a state `σ`, issues calls `e : E` that the
surroundings answer with a value of type `R e`, and returns an `α`.  The tree
is only the code: what a call does is said by whoever interprets it.  Two
readings of one tree are developed:

* `Program.run` — a *handler* answers every call, and the state is touched by
  nobody else;
* `Program.Safe` — a *contract* bounds what the code may do (which calls, which
  writes) and what it may rely on (which answers, which changes of the state
  while a call is pending), with a postcondition on the way out.

`run_of_safe` connects the two: a safe program run under a handler that honours
the contract meets its postcondition, and so does whatever the handler
remembers about the calls.
-/

namespace Interaction

/-- Code over a state `σ` whose calls `e` are answered by values of `R e`. -/
inductive Program (σ : Type) {E : Type} (R : E → Type) (α : Type) : Type where
  | pure (a : α)
  | get (k : σ → Program σ R α)
  | set (s : σ) (k : Program σ R α)
  | call (e : E) (k : R e → Program σ R α)

/-- The state together with the surroundings `γ`. -/
structure World (σ γ : Type) where
  st : σ
  env : γ

variable {σ γ E : Type} {R : E → Type} {α β : Type}

namespace Program

/-! ## Sequencing -/

def bind : Program σ R α → (α → Program σ R β) → Program σ R β
  | .pure a, f => f a
  | .get k, f => .get fun s => (k s).bind f
  | .set s k, f => .set s (k.bind f)
  | .call e k, f => .call e fun r => (k r).bind f

instance : Monad (Program σ R) where
  pure := .pure
  bind := .bind

/-- Read the state. -/
def state : Program σ R σ := .get .pure

/-- Rewrite the state in place. -/
def update (f : σ → σ) : Program σ R Unit := .get fun s => .set (f s) (.pure ())

/-- Issue a call and wait for its answer. -/
abbrev perform (e : E) : Program σ R (R e) := .call e .pure

theorem bind_eq (p : Program σ R α) (f : α → Program σ R β) : p >>= f = p.bind f := rfl

@[simp] theorem bind_pure_left (a : α) (f : α → Program σ R β) :
    (Pure.pure a : Program σ R α) >>= f = f a := rfl

@[simp] theorem bind_node_pure (a : α) (f : α → Program σ R β) :
    (Program.pure a : Program σ R α) >>= f = f a := rfl

theorem bind_assoc {δ : Type} (p : Program σ R α) (f : α → Program σ R β)
    (g : β → Program σ R δ) : (p >>= f) >>= g = p >>= fun a => f a >>= g := by
  simp only [bind_eq]
  induction p with
  | pure a => rfl
  | get k ih => simp only [bind, ih]
  | set s k ih => simp only [bind, ih]
  | call e k ih => simp only [bind, ih]

/-! ## Running under a handler -/

/-- Run a program: `h` answers each call and moves the surroundings along. -/
def run (h : (e : E) → γ → R e × γ) : Program σ R α → World σ γ → α × World σ γ
  | .pure a, w => (a, w)
  | .get k, w => (k w.st).run h w
  | .set s k, w => k.run h { w with st := s }
  | .call e k, w => (k (h e w.env).1).run h { w with env := (h e w.env).2 }

section Run

variable {h : (e : E) → γ → R e × γ} {w : World σ γ}

@[simp] theorem run_pure (a : α) : run h (Pure.pure a) w = (a, w) := rfl

@[simp] theorem run_bind (p : Program σ R α) (f : α → Program σ R β) (w : World σ γ) :
    run h (p >>= f) w = match run h p w with | (a, w') => run h (f a) w' := by
  rw [bind_eq]
  induction p generalizing w with
  | pure a => rfl
  | get k ih => simp only [bind, run, ih]
  | set s k ih => simp only [bind, run, ih]
  | call e k ih => simp only [bind, run, ih]

@[simp high] theorem run_state_bind (f : σ → Program σ R β) :
    run h (state >>= f) w = run h (f w.st) w := rfl

@[simp high] theorem run_update_bind (u : σ → σ) (f : Unit → Program σ R β) :
    run h (update u >>= f) w = run h (f ()) { w with st := u w.st } := rfl

@[simp] theorem run_node_pure (a : α) : run h (.pure a : Program σ R α) w = (a, w) := rfl

@[simp] theorem run_node_call (e : E) (k : R e → Program σ R α) :
    run h (.call e k) w = run h (k (h e w.env).1) { w with env := (h e w.env).2 } := rfl

theorem run_bind_pure (p : Program σ R α) (g : α → β) :
    run h (p >>= fun a => Pure.pure (g a)) w = (g (run h p w).1, (run h p w).2) := by
  simp

@[simp] theorem run_ite (c : Prop) [Decidable c] (p q : Program σ R α) :
    run h (if c then p else q) w = if c then run h p w else run h q w := by
  split <;> rfl

end Run

end Program

/-! ## Contracts -/

/-- What a piece of code may do and what it may rely on.

* `allowed s e` — in state `s` the call `e` may be issued;
* `writes s s'` — the state may be overwritten from `s` to `s'`;
* `answers e r` — the surroundings answer `e` with such `r` only;
* `interference e s s'` — while `e` is pending the surroundings may move the
  state from `s` to `s'`. -/
structure Contract (σ : Type) {E : Type} (R : E → Type) where
  allowed : σ → E → Prop := fun _ _ => True
  writes : σ → σ → Prop := fun _ _ => True
  answers : (e : E) → R e → Prop := fun _ _ => True
  interference : E → σ → σ → Prop := fun _ s s' => s = s'

namespace Program

variable {c : Contract σ R} {Q : α → σ → Prop} {s : σ}

/-- `p.Safe c Q s`: started in `s`, the program keeps its side of `c` as long
as the surroundings keep theirs, and returns only with `Q`. -/
def Safe (c : Contract σ R) (Q : α → σ → Prop) : Program σ R α → σ → Prop
  | .pure a, s => Q a s
  | .get k, s => (k s).Safe c Q s
  | .set s' k, s => c.writes s s' ∧ k.Safe c Q s'
  | .call e k, s => c.allowed s e ∧
      ∀ r s', c.answers e r → c.interference e s s' → (k r).Safe c Q s'

@[simp] theorem safe_pure (a : α) : Safe c Q (Pure.pure a) s ↔ Q a s := Iff.rfl

/-- Sequencing: the rest of the program is the postcondition of the first part. -/
@[simp] theorem safe_bind (p : Program σ R α) (f : α → Program σ R β) (Q : β → σ → Prop) (s : σ) :
    Safe c Q (p >>= f) s ↔ Safe c (fun a s' => Safe c Q (f a) s') p s := by
  rw [bind_eq]
  induction p generalizing s with
  | pure a => rfl
  | get k ih => simp only [bind, Safe, ih]
  | set s' k ih => simp only [bind, Safe, ih]
  | call e k ih => simp only [bind, Safe, ih]

@[simp] theorem safe_state (Q : σ → σ → Prop) : Safe c Q state s ↔ Q s s := Iff.rfl

@[simp] theorem safe_update (f : σ → σ) (Q : Unit → σ → Prop) :
    Safe c Q (update f) s ↔ c.writes s (f s) ∧ Q () (f s) := Iff.rfl

@[simp] theorem safe_node_pure (a : α) : Safe c Q (.pure a : Program σ R α) s ↔ Q a s := Iff.rfl

@[simp] theorem safe_node_call (e : E) (k : R e → Program σ R α) :
    Safe c Q (.call e k) s ↔
      c.allowed s e ∧ ∀ r s', c.answers e r → c.interference e s s' → (k r).Safe c Q s' := Iff.rfl

@[simp] theorem safe_ite (b : Prop) [Decidable b] (p q : Program σ R α) :
    Safe c Q (if b then p else q) s ↔ if b then Safe c Q p s else Safe c Q q s := by
  split <;> rfl

/-- A weaker postcondition is met wherever a stronger one is. -/
theorem Safe.mono {Q' : α → σ → Prop} {p : Program σ R α} (hp : p.Safe c Q s)
    (hQ : ∀ a s, Q a s → Q' a s) : p.Safe c Q' s := by
  induction p generalizing s with
  | pure a => exact hQ a s hp
  | get k ih => exact ih s hp
  | set s' k ih => exact ⟨hp.1, ih hp.2⟩
  | call e k ih => exact ⟨hp.1, fun r s' hr hs' => ih r (hp.2 r s' hr hs')⟩

/-- Code that keeps a contract keeps every contract that permits more and
relies on less. -/
theorem Safe.weaken {c' : Contract σ R} {p : Program σ R α} (hp : p.Safe c Q s)
    (hallowed : ∀ s e, c.allowed s e → c'.allowed s e)
    (hwrites : ∀ s s', c.writes s s' → c'.writes s s')
    (hanswers : ∀ e r, c'.answers e r → c.answers e r)
    (hinterference : ∀ e s s', c'.interference e s s' → c.interference e s s') :
    p.Safe c' Q s := by
  induction p generalizing s with
  | pure a => exact hp
  | get k ih => exact ih s hp
  | set s' k ih => exact ⟨hwrites s s' hp.1, ih hp.2⟩
  | call e k ih =>
      exact ⟨hallowed s e hp.1, fun r s' hr hs' =>
        ih r (hp.2 r s' (hanswers e r hr) (hinterference e s s' hs'))⟩

/-! ## Contracts bound runs -/

/-- A safe program run under a handler that honours the contract ends in its
postcondition, and carries along any fact `P` about the surroundings that every
allowed call keeps. -/
theorem run_of_safe {h : (e : E) → γ → R e × γ} {P : γ → Prop}
    (hcall : ∀ e g s, c.allowed s e → P g → c.answers e (h e g).1 ∧ P (h e g).2)
    (hquiet : ∀ e s, c.interference e s s) {p : Program σ R α} {w : World σ γ}
    (hp : p.Safe c Q w.st) (hP : P w.env) :
    Q (run h p w).1 (run h p w).2.st ∧ P (run h p w).2.env := by
  induction p generalizing w with
  | pure a => exact ⟨hp, hP⟩
  | get k ih => exact ih w.st hp hP
  | set s' k ih => exact ih (w := { w with st := s' }) hp.2 hP
  | call e k ih =>
      obtain ⟨hans, hP'⟩ := hcall e w.env w.st hp.1 hP
      exact ih _ (w := { w with env := (h e w.env).2 }) (hp.2 _ _ hans (hquiet e w.st)) hP'

end Program

end Interaction
