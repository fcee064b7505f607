import Mathlib.Data.Multiset.AddSub
import TclTls.Interaction.Program

/-!
# TclTls.Resource.Custody

Code that is responsible for handles: a call hands some over, needs some that
are held, and gives some up.

`Custody` says which, call by call, and what may be relied on in the answers.
Of a run it is the `trace` that counts: it is `Lawful` if nothing is needed
that is not held, and `heldAfter` is what remains.  `Owns` is the condition on
the code, with a postcondition on the result, the state and the handles, and
`run_of_owns` is its meaning for runs.

Giving up what is not held does nothing; a custody in which that is wrong says
so in `needs`.
-/

namespace Interaction

variable {σ γ E : Type} {R : E → Type} {α β : Type}

namespace Program

/-- The calls of a run, with their answers. -/
def trace (h : (e : E) → γ → R e × γ) : Program σ R α → World σ γ → List (Σ e, R e)
  | .pure _, _ => []
  | .get k, w => (k w.st).trace h w
  | .set s k, w => k.trace h { w with st := s }
  | .call e k, w => ⟨e, (h e w.env).1⟩ :: (k (h e w.env).1).trace h { w with env := (h e w.env).2 }

end Program

end Interaction

namespace Resource

open Interaction

variable {σ γ E κ : Type} {R : E → Type} {α β : Type}

/-- What calls have to do with handles of the kinds `κ`. -/
structure Custody {E : Type} (R : E → Type) (κ : Type) where
  needs : E → Multiset κ := fun _ => 0
  gives : (e : E) → R e → Multiset κ := fun _ _ => 0
  takes : (e : E) → R e → Multiset κ := fun _ _ => 0
  answers : (e : E) → R e → Prop := fun _ _ => True

namespace Custody

variable [DecidableEq κ] (c : Custody R κ)

/-- What is held after a call. -/
def after (held : Multiset κ) (e : E) (r : R e) : Multiset κ := held - c.gives e r + c.takes e r

/-- What is held after some calls. -/
def heldAfter (held : Multiset κ) : List (Σ e, R e) → Multiset κ
  | [] => held
  | ⟨e, r⟩ :: calls => heldAfter (c.after held e r) calls

/-- No call needs a handle that is not held. -/
def Lawful (held : Multiset κ) : List (Σ e, R e) → Prop
  | [] => True
  | ⟨e, r⟩ :: calls => c.needs e ≤ held ∧ Lawful (c.after held e r) calls

/-- Started in `s` with the handles `held`, the program needs only what it
holds, and returns only with `Q`. -/
def Owns (Q : α → σ → Multiset κ → Prop) : Program σ R α → σ → Multiset κ → Prop
  | .pure a, s, held => Q a s held
  | .get k, s, held => Owns Q (k s) s held
  | .set s' k, _, held => Owns Q k s' held
  | .call e k, s, held =>
      c.needs e ≤ held ∧ ∀ r, c.answers e r → Owns Q (k r) s (c.after held e r)

section Rules

variable {c} {Q : α → σ → Multiset κ → Prop} {s : σ} {held : Multiset κ}

@[simp] theorem owns_pure (a : α) : c.Owns Q (Pure.pure a) s held ↔ Q a s held := Iff.rfl

@[simp] theorem owns_node_pure (a : α) :
    c.Owns Q (.pure a : Program σ R α) s held ↔ Q a s held := Iff.rfl

/-- Sequencing: the rest of the program is the postcondition of the first part. -/
@[simp] theorem owns_bind (p : Program σ R α) (f : α → Program σ R β)
    (Q : β → σ → Multiset κ → Prop) (s : σ) (held : Multiset κ) :
    c.Owns Q (p >>= f) s held ↔ c.Owns (fun a s' held' => c.Owns Q (f a) s' held') p s held := by
  rw [Program.bind_eq]
  induction p generalizing s held with
  | pure a => rfl
  | get k ih => simp only [Program.bind, Owns, ih]
  | set s' k ih => simp only [Program.bind, Owns, ih]
  | call e k ih => simp only [Program.bind, Owns, ih]

@[simp] theorem owns_state (Q : σ → σ → Multiset κ → Prop) :
    c.Owns Q Program.state s held ↔ Q s s held := Iff.rfl

@[simp] theorem owns_update (f : σ → σ) (Q : Unit → σ → Multiset κ → Prop) :
    c.Owns Q (Program.update f) s held ↔ Q () (f s) held := Iff.rfl

@[simp] theorem owns_node_call (e : E) (k : R e → Program σ R α) :
    c.Owns Q (.call e k) s held ↔
      c.needs e ≤ held ∧ ∀ r, c.answers e r → c.Owns Q (k r) s (c.after held e r) := Iff.rfl

@[simp] theorem owns_ite (b : Prop) [Decidable b] (p q : Program σ R α) :
    c.Owns Q (if b then p else q) s held ↔
      if b then c.Owns Q p s held else c.Owns Q q s held := by
  split <;> rfl

/-- A weaker postcondition is met wherever a stronger one is. -/
theorem Owns.mono {Q' : α → σ → Multiset κ → Prop} {p : Program σ R α} (hp : c.Owns Q p s held)
    (hQ : ∀ a s held, Q a s held → Q' a s held) : c.Owns Q' p s held := by
  induction p generalizing s held with
  | pure a => exact hQ a s held hp
  | get k ih => exact ih s hp
  | set s' k ih => exact ih hp
  | call e k ih => exact ⟨hp.1, fun r hr => ih r (hp.2 r hr)⟩

/-- **Runs.**  Code that owns what it needs makes a lawful run of it, and its
postcondition is about what is held in the end. -/
theorem run_of_owns {h : (e : E) → γ → R e × γ} (hanswers : ∀ e g, c.answers e (h e g).1)
    {p : Program σ R α} {w : World σ γ} (hp : c.Owns Q p w.st held) :
    c.Lawful held (p.trace h w) ∧
      Q (p.run h w).1 (p.run h w).2.st (c.heldAfter held (p.trace h w)) := by
  induction p generalizing w held with
  | pure a => exact ⟨trivial, hp⟩
  | get k ih => exact ih w.st hp
  | set s' k ih => exact ih (w := { w with st := s' }) hp
  | call e k ih =>
      obtain ⟨hneeds, hk⟩ := hp
      obtain ⟨hlawful, hQ⟩ := ih _ (w := { w with env := (h e w.env).2 })
        (hk _ (hanswers e w.env))
      exact ⟨⟨hneeds, hlawful⟩, hQ⟩

end Rules

end Custody

end Resource
