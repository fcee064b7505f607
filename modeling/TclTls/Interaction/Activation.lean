import TclTls.Interaction.Program
import Mathlib.Logic.Relation

/-!
# TclTls.Interaction.Activation

Code that is re-entered.  While one activation of a procedure waits for a call
to return, the called party may start another procedure over the same state,
and so on: the activations form a stack, and only the topmost one moves.

A `Machine` says what its procedures are and which of them a pending call can
start.  `Machine.Step` is one step of the stack, every answer being possible;
`permit` bounds what may be started in which situation.

A procedure can be *watched*: as long as an activation of it is on the stack,
whatever runs above has to keep a contract.  `Machine.Watch` collects what has
to be shown of each procedure on its own, and `Watch.kept` concludes that no
activation above a watched one ever waits for a call the contract forbids.
-/

namespace Interaction

open Program

variable {σ E : Type} {R : E → Type}

/-! ## Activations -/

/-- What is left of a program when it has read and written all it can before
its next call, and the state it leaves. -/
def Program.settle {α : Type} : Program σ R α → σ → Program σ R α × σ
  | .pure a, s => (.pure a, s)
  | .get k, s => (k s).settle s
  | .set s' k, _ => k.settle s'
  | .call e k, s => (.call e k, s)

/-- Some answers, nobody else touching the state, lead the program from `s` to
a call that `P` holds of. -/
def Program.Issues {α : Type} (P : E → Prop) : Program σ R α → σ → Prop
  | .pure _, _ => False
  | .get k, s => (k s).Issues P s
  | .set s' k, _ => k.Issues P s'
  | .call e k, s => P e ∨ ∃ r, (k r).Issues P s

section Issues

variable {α β : Type} {P : E → Prop} {s : σ}

theorem Program.Issues.bind {p : Program σ R α} (f : α → Program σ R β) (hp : p.Issues P s) :
    (p >>= f).Issues P s := by
  rw [bind_eq]
  induction p generalizing s with
  | pure a => exact hp.elim
  | get k ih => exact ih s hp
  | set s' k ih => exact ih hp
  | call e k ih => exact hp.imp_right fun ⟨r, hr⟩ => ⟨r, ih r hr⟩

@[simp] theorem Program.issues_state_bind (f : σ → Program σ R β) :
    (state >>= f).Issues P s ↔ (f s).Issues P s := Iff.rfl

@[simp] theorem Program.issues_update_bind (u : σ → σ) (f : Unit → Program σ R β) :
    (update u >>= f).Issues P s ↔ (f ()).Issues P (u s) := Iff.rfl

@[simp] theorem Program.issues_call_bind (e : E) (k : R e → Program σ R α)
    (f : α → Program σ R β) :
    (.call e k >>= f : Program σ R β).Issues P s ↔ P e ∨ ∃ r, (k r >>= f).Issues P s := Iff.rfl

end Issues

/-- How far an activation has got: it runs, or waits for a call to return. -/
inductive Stage (σ : Type) {E : Type} (R : E → Type) where
  | running (p : Program σ R Unit)
  | pending (e : E) (k : R e → Program σ R Unit)

structure Machine (σ : Type) {E : Type} (R : E → Type) where
  Proc : Type
  body : Proc → Program σ R Unit
  /-- a pending call may start the procedure -/
  starts : E → Proc → Prop

namespace Machine

variable (m : Machine σ R)

structure Activation where
  proc : m.Proc
  stage : Stage σ R

/-- The state, and the activations that have not ended, latest first. -/
structure Config where
  st : σ
  stack : List m.Activation

variable {m}

/-- A new activation. -/
def enter (q : m.Proc) : m.Activation := ⟨q, .running (m.body q)⟩

/-- What may be started in which state and on top of which stack. -/
abbrev Permit (m : Machine σ R) : Type := σ → List m.Activation → m.Proc → Prop

/-- One step, in which only what `permit` allows is started. -/
inductive Step (permit : m.Permit) : m.Config → m.Config → Prop
  | get {s q k fs} : Step permit ⟨s, ⟨q, .running (.get k)⟩ :: fs⟩ ⟨s, ⟨q, .running (k s)⟩ :: fs⟩
  | set {s q s' k fs} :
      Step permit ⟨s, ⟨q, .running (.set s' k)⟩ :: fs⟩ ⟨s', ⟨q, .running k⟩ :: fs⟩
  | issue {s q e k fs} :
      Step permit ⟨s, ⟨q, .running (.call e k)⟩ :: fs⟩ ⟨s, ⟨q, .pending e k⟩ :: fs⟩
  | answer {s q e k fs} (r : R e) :
      Step permit ⟨s, ⟨q, .pending e k⟩ :: fs⟩ ⟨s, ⟨q, .running (k r)⟩ :: fs⟩
  | finish {s q fs} : Step permit ⟨s, ⟨q, .running (.pure ())⟩ :: fs⟩ ⟨s, fs⟩
  | begin {s} (q : m.Proc) : Step permit ⟨s, []⟩ ⟨s, [enter q]⟩
  | start {s p e k fs} (q : m.Proc) (hstarts : m.starts e q)
      (hpermit : permit s (⟨p, .pending e k⟩ :: fs) q) :
      Step permit ⟨s, ⟨p, .pending e k⟩ :: fs⟩ ⟨s, enter q :: ⟨p, .pending e k⟩ :: fs⟩

/-- Any number of steps. -/
abbrev Run (permit : m.Permit) : m.Config → m.Config → Prop :=
  Relation.ReflTransGen (Step permit)

/-! ## From one call to the next -/

/-- An activation reads and writes until its next call. -/
theorem run_settle (permit : m.Permit) {q : m.Proc}
    {fs : List m.Activation} (p : Program σ R Unit) (s : σ) :
    Run permit ⟨s, ⟨q, .running p⟩ :: fs⟩ ⟨(p.settle s).2, ⟨q, .running (p.settle s).1⟩ :: fs⟩ := by
  induction p generalizing s with
  | get k ih => exact .head .get (ih s s)
  | set s' k ih => exact .head .set (ih s')
  | pure a => exact .refl
  | call e k ih => exact .refl

/-- It then waits for that call. -/
theorem run_issue {permit : m.Permit} {q : m.Proc}
    {fs : List m.Activation} {p : Program σ R Unit} {s s' : σ} {e : E}
    {k : R e → Program σ R Unit} (hp : p.settle s = (.call e k, s')) :
    Run permit ⟨s, ⟨q, .running p⟩ :: fs⟩ ⟨s', ⟨q, .pending e k⟩ :: fs⟩ := by
  have hsettle : Run permit ⟨s, ⟨q, .running p⟩ :: fs⟩ _ := run_settle permit p s
  rw [hp] at hsettle
  exact hsettle.tail .issue

/-- Or it comes to its end. -/
theorem run_finish {permit : m.Permit} {q : m.Proc} {fs : List m.Activation}
    {p : Program σ R Unit} {s s' : σ} (hp : p.settle s = (.pure (), s')) :
    Run permit ⟨s, ⟨q, .running p⟩ :: fs⟩ ⟨s', fs⟩ := by
  have hsettle : Run permit ⟨s, ⟨q, .running p⟩ :: fs⟩ _ := run_settle permit p s
  rw [hp] at hsettle
  exact hsettle.tail .finish

/-- Under a handler that answers every call, it comes to its end without anything
being started. -/
theorem run_program {γ : Type} (h : (e : E) → γ → R e × γ) (permit : m.Permit) (q : m.Proc)
    (fs : List m.Activation) (p : Program σ R Unit) (w : World σ γ) :
    Run permit ⟨w.st, ⟨q, .running p⟩ :: fs⟩ ⟨(p.run h w).2.st, fs⟩ := by
  induction p generalizing w with
  | pure a => exact .single .finish
  | get k ih => exact .head .get (ih w.st w)
  | set s' k ih => exact .head .set (ih { w with st := s' })
  | call e k ih =>
      exact .head .issue (.head (.answer (h e w.env).1)
        (ih (h e w.env).1 { w with env := (h e w.env).2 }))

/-- The activation waits for a call that `P` holds of. -/
def Activation.Awaits (P : E → Prop) (f : m.Activation) : Prop :=
  match f.stage with
  | .running _ => False
  | .pending e _ => P e

/-- A program that issues such a call for some answers is an activation that
can get there. -/
theorem run_of_issues (permit : m.Permit) {q : m.Proc}
    {fs : List m.Activation} {P : E → Prop} {p : Program σ R Unit} {s : σ} (hp : p.Issues P s) :
    ∃ s' stage, Run permit ⟨s, ⟨q, .running p⟩ :: fs⟩ ⟨s', ⟨q, stage⟩ :: fs⟩ ∧
      Activation.Awaits P (m := m) ⟨q, stage⟩ := by
  induction p generalizing s with
  | pure a => exact hp.elim
  | get k ih =>
      obtain ⟨s', stage, hrun, hawaits⟩ := ih s hp
      exact ⟨s', stage, .head .get hrun, hawaits⟩
  | set s₁ k ih =>
      obtain ⟨s', stage, hrun, hawaits⟩ := ih hp
      exact ⟨s', stage, .head .set hrun, hawaits⟩
  | call e k ih =>
      rcases hp with hP | ⟨r, hr⟩
      · exact ⟨s, .pending e k, .single .issue, hP⟩
      · obtain ⟨s', stage, hrun, hawaits⟩ := ih r hr
        exact ⟨s', stage, .head .issue (.head (.answer r) hrun), hawaits⟩

/-! ## Watched procedures -/

section Watched

variable (permit : m.Permit) (watched : m.Proc → Prop)
  (c : Contract σ R)

/-- A watched activation is on the stack. -/
def Critical (fs : List m.Activation) : Prop := ∃ f ∈ fs, watched f.proc

/-- What has to be shown of the procedures, each on its own: a watched one
keeps the contract, and so does one that is permitted above it.  The contract
relies on nothing but that calls which start no procedure leave the state alone. -/
structure Watch : Prop where
  of_watched : ∀ q s, watched q → (m.body q).Safe c (fun _ _ => True) s
  of_permit : ∀ s fs q, Critical watched fs → permit s fs q →
    (m.body q).Safe c (fun _ _ => True) s
  answers : ∀ e r, c.answers e r
  interference : ∀ e s s', s = s' ∨ (∃ q, m.starts e q) → c.interference e s s'

/-- What is left of the activation keeps the contract from the state `s` on. -/
def Activation.Keeps (s : σ) (f : m.Activation) : Prop :=
  match f.stage with
  | .running p => p.Safe c (fun _ _ => True) s
  | .pending e k => (∃ s, c.allowed s e) ∧
      ∀ r s', c.interference e s s' → (k r).Safe c (fun _ _ => True) s'

/-- Suspended activations go on from whatever state they find. -/
def Suspended : List m.Activation → Prop
  | [] => True
  | f :: fs => (Critical watched (f :: fs) → ∀ s, f.Keeps c s) ∧ Suspended fs

/-- The invariant: from a watched activation upwards, all keep the contract. -/
def Kept : m.Config → Prop
  | ⟨_, []⟩ => True
  | ⟨s, f :: fs⟩ => (Critical watched (f :: fs) → f.Keeps c s) ∧ Suspended watched c fs

variable {permit watched c}

theorem Critical.cons {f : m.Activation} {fs : List m.Activation} (h : Critical watched fs) :
    Critical watched (f :: fs) := by
  obtain ⟨g, hg, hw⟩ := h
  exact ⟨g, List.mem_cons_of_mem f hg, hw⟩

theorem critical_cons {f : m.Activation} {fs : List m.Activation} :
    Critical watched (f :: fs) ↔ watched f.proc ∨ Critical watched fs := by
  simp [Critical]

theorem Suspended.kept {fs : List m.Activation} (h : Suspended watched c fs) (s : σ) :
    Kept watched c ⟨s, fs⟩ := by
  cases fs with
  | nil => trivial
  | cons f fs => exact ⟨fun hcritical => h.1 hcritical s, h.2⟩

/-- An activation that goes on within the same stack. -/
theorem kept_top {s s' : σ} {q : m.Proc} {stage stage' : Stage σ R} {fs : List m.Activation}
    (h : Kept watched c ⟨s, ⟨q, stage⟩ :: fs⟩)
    (hgo : Activation.Keeps c s ⟨q, stage⟩ → Activation.Keeps (m := m) c s' ⟨q, stage'⟩) :
    Kept watched c ⟨s', ⟨q, stage'⟩ :: fs⟩ :=
  ⟨fun hcritical => hgo (h.1 (by simpa [Critical] using hcritical)), h.2⟩

/-- **One step keeps the invariant.** -/
theorem Watch.step (hw : Watch permit watched c) {x y : m.Config} (hxy : Step permit x y)
    (hx : Kept watched c x) : Kept watched c y := by
  cases hxy with
  | get => exact kept_top hx fun h => h
  | set => exact kept_top hx fun h => h.2
  | issue => exact kept_top hx fun h => ⟨⟨_, h.1⟩, fun r s' => h.2 r s' (hw.answers _ r)⟩
  | answer r => exact kept_top hx fun h => h.2 r _ (hw.interference _ _ _ (.inl rfl))
  | finish => exact hx.2.kept _
  | begin q =>
      refine ⟨fun hcritical => ?_, trivial⟩
      exact hw.of_watched q _ (by simpa [Critical, enter] using hcritical)
  | start q hstarts hpermit =>
      have hbelow := hx.1
      refine ⟨fun hcritical => ?_, fun hcritical s => ?_, hx.2⟩
      · -- either it is watched itself or something below it is
        rcases critical_cons.mp hcritical with hq | hcritical
        · exact hw.of_watched q _ hq
        · exact hw.of_permit _ _ q hcritical hpermit
      · obtain ⟨hallowed, hk⟩ := hbelow hcritical
        exact ⟨hallowed, fun r s' _ => hk r s' (hw.interference _ _ _ (.inr ⟨q, hstarts⟩))⟩

/-- **A run keeps the invariant.** -/
theorem Watch.run (hw : Watch permit watched c) {x y : m.Config} (hxy : Run permit x y)
    (hx : Kept watched c x) : Kept watched c y := by
  induction hxy with
  | refl => exact hx
  | tail _ hstep ih => exact hw.step hstep ih

/-- Above a watched activation nothing waits for a call the contract forbids. -/
theorem Kept.awaits {forbidden : E → Prop} (hc : ∀ s e, c.allowed s e → ¬ forbidden e)
    {x : m.Config} (hx : Kept watched c x) :
    x.stack.Pairwise fun f g => watched g.proc → ¬ f.Awaits forbidden := by
  obtain ⟨s, fs⟩ := x
  induction fs with
  | nil => exact .nil
  | cons f fs ih =>
      refine .cons (fun g hg hwatched => ?_) (ih (hx.2.kept s))
      have hkeeps := hx.1 (Critical.cons ⟨g, hg, hwatched⟩)
      obtain ⟨q, p | ⟨e, k⟩⟩ := f
      · exact id
      · obtain ⟨s, hallowed⟩ := hkeeps.1
        exact hc s e hallowed

/-- **Nothing forbidden is pending above a watched activation**, in any run of a
machine whose procedures keep the contract. -/
theorem Watch.awaits (hw : Watch permit watched c) {forbidden : E → Prop}
    (hc : ∀ s e, c.allowed s e → ¬ forbidden e) {s : σ} {x : m.Config}
    (hx : Run permit ⟨s, []⟩ x) :
    x.stack.Pairwise fun f g => watched g.proc → ¬ f.Awaits forbidden :=
  (hw.run hx trivial).awaits hc

end Watched

end Machine

end Interaction
