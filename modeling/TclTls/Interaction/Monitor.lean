import TclTls.Interaction.Activation

/-!
# TclTls.Interaction.Monitor

Notes on re-entered code, and invariants that relate them to the state.

An `Observer` takes notes of the calls that are made and of their answers.  It
has no influence on the code: `Program.observe` writes the notes beside the
state, where the code does not see them, and every run of a machine is one of
the machine that is observed (`Run.observed`).

An invariant of the state and the notes is broken for a moment whenever an
answer has been noted and not been acted upon.  What matters is that it holds
whenever an activation gives up control.  A `Monitor` is such an invariant,
with what has to be the case when a call returns; `Monitor.run` concludes from
each procedure on its own that the invariant holds in every run whenever nobody
has control (`Quiescent`).
-/

namespace Interaction

open Program

variable {σ γ E α β : Type} {R : E → Type}

/-! ## Notes -/

/-- How the notes change when a call is made, and when it is answered. -/
structure Observer (γ : Type) {E : Type} (R : E → Type) where
  issued : E → γ → γ
  answered : (e : E) → R e → γ → γ

/-- A state with notes. -/
structure Noted (σ γ : Type) where
  st : σ
  notes : γ

namespace Program

variable (o : Observer γ R)

/-- The same code, with an observer. -/
def observe : Program σ R α → Program (Noted σ γ) R α
  | .pure a => .pure a
  | .get k => .get fun x => (k x.st).observe
  | .set s k => .get fun x => .set ⟨s, x.notes⟩ k.observe
  | .call e k => .get fun x => .set ⟨x.st, o.issued e x.notes⟩ (.call e fun r =>
      .get fun x => .set ⟨x.st, o.answered e r x.notes⟩ (k r).observe)

theorem observe_bind (p : Program σ R α) (f : α → Program σ R β) :
    (p >>= f).observe o = p.observe o >>= fun a => (f a).observe o := by
  simp only [bind_eq]
  induction p with
  | pure a => rfl
  | get k ih => simp only [bind, observe, ih]
  | set s k ih => simp only [bind, observe, ih]
  | call e k ih => simp only [bind, observe, ih]

section Safe

variable {o} {c : Contract (Noted σ γ) R} {Q : α → Noted σ γ → Prop} {x : Noted σ γ}

@[simp] theorem safe_observe_pure (a : α) :
    Safe c Q (observe o (Pure.pure a : Program σ R α)) x ↔ Q a x := Iff.rfl

@[simp] theorem safe_observe_node_pure (a : α) :
    Safe c Q (observe o (.pure a : Program σ R α)) x ↔ Q a x := Iff.rfl

@[simp] theorem safe_observe_bind (p : Program σ R α) (f : α → Program σ R β)
    (Q : β → Noted σ γ → Prop) :
    Safe c Q (observe o (p >>= f)) x ↔
      Safe c (fun a x' => Safe c Q (observe o (f a)) x') (observe o p) x := by
  rw [observe_bind, safe_bind]

@[simp] theorem safe_observe_state (Q : σ → Noted σ γ → Prop) :
    Safe c Q (observe o state) x ↔ Q x.st x := Iff.rfl

@[simp] theorem safe_observe_update (f : σ → σ) (Q : Unit → Noted σ γ → Prop) :
    Safe c Q (observe o (update f)) x ↔
      c.writes x ⟨f x.st, x.notes⟩ ∧ Q () ⟨f x.st, x.notes⟩ := Iff.rfl

end Safe

end Program

/-! ## Observed machines -/

namespace Machine

variable (o : Observer γ R) {m : Machine σ R}

/-- The same procedures, with an observer. -/
def observed (m : Machine σ R) : Machine (Noted σ γ) R where
  Proc := m.Proc
  body q := (m.body q).observe o
  starts := m.starts

/-- How far an activation has got does not depend on the observer. -/
def Stage.observe : Stage σ R → Stage (Noted σ γ) R
  | .running p => .running (p.observe o)
  | .pending e k => .pending e fun r =>
      .get fun x => .set ⟨x.st, o.answered e r x.notes⟩ ((k r).observe o)

def Activation.observe (f : m.Activation) : (m.observed o).Activation :=
  ⟨f.proc, Stage.observe o f.stage⟩

def Config.observe (x : m.Config) (g : γ) : (m.observed o).Config :=
  ⟨⟨x.st, g⟩, x.stack.map (Activation.observe o)⟩

/-- Anything may be started whenever a call starts it. -/
abbrev anyStart (m : Machine σ R) : m.Permit := fun _ _ _ => True

theorem Step.observed {permit : m.Permit} {x y : m.Config} (hxy : Step permit x y) (g : γ) :
    ∃ g', Run (anyStart (m.observed o)) (x.observe o g) (y.observe o g') := by
  cases hxy with
  | get => exact ⟨g, .single .get⟩
  | set => exact ⟨g, .head .get (.single .set)⟩
  | @issue s q e k fs => exact ⟨o.issued e g, .head .get (.head .set (.single .issue))⟩
  | @answer s q e k fs r =>
      exact ⟨o.answered e r g, .head (.answer r) (.head .get (.single .set))⟩
  | finish => exact ⟨g, .single .finish⟩
  | begin q => exact ⟨g, .single (.begin (m := m.observed o) q)⟩
  | start q hstarts _ => exact ⟨g, .single (.start (m := m.observed o) q hstarts trivial)⟩

/-- **The observer sees every run.** -/
theorem Run.observed {permit : m.Permit} {x y : m.Config} (hxy : Run permit x y) (g : γ) :
    ∃ g', Run (anyStart (m.observed o)) (x.observe o g) (y.observe o g') := by
  induction hxy with
  | refl => exact ⟨g, .refl⟩
  | tail _ hlast ih =>
      obtain ⟨g₁, hrun⟩ := ih
      obtain ⟨g₂, hstep⟩ := hlast.observed o g₁
      exact ⟨g₂, hrun.trans hstep⟩

/-- Nobody has control: nothing is active, or the latest activation waits. -/
def Quiescent (x : m.Config) : Prop := ∀ f ∈ x.stack.head?, f.Awaits fun _ => True

end Machine

/-! ## Monitors -/

open Machine

/-- An invariant `inv` of the state whenever nobody has control, and a condition
`admits` on the state in which a call returns. -/
structure Monitor {E : Type} {R : E → Type} (m : Machine σ R) where
  inv : σ → Prop
  admits : E → σ → Prop

namespace Monitor

variable {m : Machine σ R} (mo : Monitor m)

/-- To restore the invariant before every call; while a call is pending others
may do anything that keeps it, if the call starts them. -/
def contract : Contract σ R where
  allowed s _ := mo.inv s
  interference e s s' := mo.inv s' ∧ mo.admits e s' ∧ ((∀ q, ¬ m.starts e q) → s = s')

/-- The code keeps the invariant. -/
abbrev Keeps (p : Program σ R α) (s : σ) : Prop := p.Safe mo.contract (fun _ s' => mo.inv s') s

/-- If the step answers a call, then in a state that admits it. -/
def Admits (x y : m.Config) : Prop :=
  ∀ q e k fs r, x.stack = ⟨q, .pending e k⟩ :: fs → y.stack = ⟨q, .running (k r)⟩ :: fs →
    mo.admits e x.st

/-- Any number of steps that answer calls only in states that admit it. -/
abbrev Run : m.Config → m.Config → Prop :=
  Relation.ReflTransGen fun x y => Step (anyStart m) x y ∧ mo.Admits x y

/-- From the state `s` on, the activation keeps the invariant. -/
def Holds (s : σ) (f : m.Activation) : Prop :=
  match f.stage with
  | .running p => mo.Keeps p s
  | .pending e k => mo.inv s ∧ ∀ r s', mo.contract.interference e s s' → mo.Keeps (k r) s'

/-- Suspended activations go on from whatever state they find. -/
def Waits (f : m.Activation) : Prop :=
  match f.stage with
  | .running _ => False
  | .pending e k => ∀ r s', mo.inv s' → mo.admits e s' → mo.Keeps (k r) s'

/-- The invariant of a run. -/
def Kept : m.Config → Prop
  | ⟨s, []⟩ => mo.inv s
  | ⟨s, f :: fs⟩ => mo.Holds s f ∧ ∀ f ∈ fs, mo.Waits f

variable {mo}

theorem Waits.holds {f : m.Activation} {s : σ} (h : mo.Waits f) (hs : mo.inv s) :
    mo.Holds s f := by
  obtain ⟨q, p | ⟨e, k⟩⟩ := f
  · exact h.elim
  · exact ⟨hs, fun r s' hs' => h r s' hs'.1 hs'.2.1⟩

theorem Kept.of_waits {fs : List m.Activation} {s : σ} (h : ∀ f ∈ fs, mo.Waits f)
    (hs : mo.inv s) : mo.Kept ⟨s, fs⟩ := by
  cases fs with
  | nil => exact hs
  | cons f fs =>
      rw [List.forall_mem_cons] at h
      exact ⟨h.1.holds hs, h.2⟩

/-- **One step.** -/
theorem step (hbody : ∀ q s, mo.inv s → mo.Keeps (m.body q) s) {x y : m.Config}
    (hxy : Step (anyStart m) x y) (hadmits : mo.Admits x y) (hx : mo.Kept x) : mo.Kept y := by
  cases hxy with
  | get => exact hx
  | set => exact ⟨hx.1.2, hx.2⟩
  | issue => exact ⟨⟨hx.1.1, fun r s' hs' => hx.1.2 r s' trivial hs'⟩, hx.2⟩
  | @answer s q e k fs r =>
      exact ⟨hx.1.2 r s ⟨hx.1.1, hadmits q e k fs r rfl rfl, fun _ => rfl⟩, hx.2⟩
  | finish => exact .of_waits hx.2 hx.1
  | begin q => exact ⟨hbody q _ hx, List.forall_mem_nil _⟩
  | @start s p e k fs q hstarts hpermit =>
      obtain ⟨⟨hs, hk⟩, hrest⟩ := hx
      refine ⟨hbody q s hs, List.forall_mem_cons.mpr ⟨fun r s' hs' ha => ?_, hrest⟩⟩
      exact hk r s' ⟨hs', ha, fun hnone => (hnone q hstarts).elim⟩

/-- **Every run**: procedures that keep the invariant, each on its own, keep it
together. -/
theorem run (hbody : ∀ q s, mo.inv s → mo.Keeps (m.body q) s) {s : σ} (hs : mo.inv s)
    {x : m.Config} (hx : mo.Run ⟨s, []⟩ x) (hrest : Quiescent x) : mo.inv x.st := by
  have hkept : mo.Kept x := by
    clear hrest
    induction hx with
    | refl => exact hs
    | tail _ hlast ih => exact step hbody hlast.1 hlast.2 ih
  obtain ⟨s', fs⟩ := x
  cases fs with
  | nil => exact hkept
  | cons f fs =>
      obtain ⟨q, p | ⟨e, k⟩⟩ := f
      · exact (hrest ⟨q, .running p⟩ rfl).elim
      · exact hkept.1.1

section Answers

variable (mo) {q : m.Proc} {fs : List m.Activation} {e : E} {k : R e → Program σ R Unit} {s : σ}

/-- Where the latest activation runs, no call is answered. -/
theorem admits_of_running {p : Program σ R Unit} (y : m.Config) :
    mo.Admits ⟨s, ⟨q, .running p⟩ :: fs⟩ y := by
  intro _ _ _ _ _ hx
  simp at hx

theorem run_settle (p : Program σ R Unit) (s : σ) :
    mo.Run ⟨s, ⟨q, .running p⟩ :: fs⟩ ⟨(p.settle s).2, ⟨q, .running (p.settle s).1⟩ :: fs⟩ := by
  induction p generalizing s with
  | get k ih => exact .head ⟨.get, mo.admits_of_running _⟩ (ih s s)
  | set s' k ih => exact .head ⟨.set, mo.admits_of_running _⟩ (ih s')
  | pure a => exact .refl
  | call e k ih => exact .refl

/-- The activation goes on to its next call. -/
theorem run_issue {p : Program σ R Unit} {s' : σ} (hp : p.settle s = (.call e k, s')) :
    mo.Run ⟨s, ⟨q, .running p⟩ :: fs⟩ ⟨s', ⟨q, .pending e k⟩ :: fs⟩ := by
  have hsettle : mo.Run ⟨s, ⟨q, .running p⟩ :: fs⟩ _ := mo.run_settle p s
  rw [hp] at hsettle
  exact hsettle.tail ⟨.issue, mo.admits_of_running _⟩

/-- The activation goes on to its end. -/
theorem run_finish {p : Program σ R Unit} {s' : σ} (hp : p.settle s = (.pure (), s')) :
    mo.Run ⟨s, ⟨q, .running p⟩ :: fs⟩ ⟨s', fs⟩ := by
  have hsettle : mo.Run ⟨s, ⟨q, .running p⟩ :: fs⟩ _ := mo.run_settle p s
  rw [hp] at hsettle
  exact hsettle.tail ⟨.finish, mo.admits_of_running _⟩

theorem step_begin (q : m.Proc) : mo.Run ⟨s, []⟩ ⟨s, [enter q]⟩ := by
  refine .single ⟨.begin q, fun _ _ _ _ _ hx => ?_⟩
  simp at hx

/-- The call returns in a state that admits it. -/
theorem step_answer (r : R e) (hadmits : mo.admits e s) :
    mo.Run ⟨s, ⟨q, .pending e k⟩ :: fs⟩ ⟨s, ⟨q, .running (k r)⟩ :: fs⟩ := by
  refine .single ⟨.answer r, fun q' e' k' fs' r' hx _ => ?_⟩
  obtain ⟨⟨rfl, hstage⟩, rfl⟩ := by simpa using hx
  cases hstage.1
  exact hadmits

end Answers

end Monitor

/-- Code that, call by call and write by write, can do nothing to an invariant of
the state and the notes. -/
theorem Monitor.keeps_of_steady {m : Machine (Noted σ γ) R} {mo : Monitor m} {o : Observer γ R}
    {c : Contract σ R} {Q : α → σ → Prop} {p : Program σ R α} {s : σ} {g : γ}
    (hp : p.Safe c Q s)
    (hwrites : ∀ {s s' g}, c.writes s s' → mo.inv ⟨s, g⟩ → mo.inv ⟨s', g⟩)
    (hissued : ∀ {s e g}, c.allowed s e → mo.inv ⟨s, g⟩ → mo.inv ⟨s, o.issued e g⟩)
    (hanswered : ∀ {s s' e g} (r : R e), c.allowed s e → mo.inv ⟨s', g⟩ →
      mo.inv ⟨s', o.answered e r g⟩)
    (hanswers : ∀ e r, c.answers e r) (hinterference : ∀ e s s', c.interference e s s')
    (hinv : mo.inv ⟨s, g⟩) : mo.Keeps (p.observe o) ⟨s, g⟩ := by
  induction p generalizing s g with
  | pure a => exact hinv
  | get k ih => exact ih s hp hinv
  | set s' k ih => exact ⟨trivial, ih hp.2 (hwrites hp.1 hinv)⟩
  | call e k ih =>
      refine ⟨trivial, hissued hp.1 hinv, fun r x _ hx => ⟨trivial, ?_⟩⟩
      exact ih r (hp.2 r x.st (hanswers e r) (hinterference e s x.st))
        (hanswered r hp.1 hx.1)

end Interaction
