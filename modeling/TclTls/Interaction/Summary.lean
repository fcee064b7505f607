import TclTls.Interaction.Monitor

/-!
# TclTls.Interaction.Summary

What a complete activation does to the state.  While an activation waits for a
call to return, others are started above it and come to their end before it goes
on.  So it may rely on whatever holds between the beginning and the end of every
one of them: a `Summary` is such a relation, with an invariant as in `Monitor`
that holds whenever nobody has control.

In the middle of a procedure neither needs to hold.  In particular a procedure
may break what it relies on itself, as long as it puts it right by its end: this
is how one that excludes all others finds the state as it left it.
-/

namespace Interaction

open Program Machine

variable {σ E α β : Type} {R : E → Type}

/-- A monitor, with a preorder `sum s s'` on the states: an activation that is
begun in `s` ends in such `s'` only. -/
structure Summary {E : Type} {R : E → Type} (m : Machine σ R) extends Monitor m where
  sum : σ → σ → Prop
  refl : ∀ s, sum s s
  trans : ∀ {s s' s''}, sum s s' → sum s' s'' → sum s s''

namespace Summary

variable {m : Machine σ R} (S : Summary m)

/-- To restore the invariant before every call; while a call is pending others
run from beginning to end, if the call starts them. -/
def contract : Contract σ R where
  allowed s _ := S.inv s
  interference e s s' :=
    S.inv s' ∧ S.admits e s' ∧ S.sum s s' ∧ ((∀ q, ¬ m.starts e q) → s = s')

@[simp] theorem contract_allowed (s : σ) (e : E) : S.contract.allowed s e ↔ S.inv s := Iff.rfl

@[simp] theorem contract_writes (s s' : σ) : S.contract.writes s s' := trivial

@[simp] theorem contract_answers (e : E) (r : R e) : S.contract.answers e r := trivial

@[simp] theorem contract_interference (e : E) (s s' : σ) :
    S.contract.interference e s s' ↔
      S.inv s' ∧ S.admits e s' ∧ S.sum s s' ∧ ((∀ q, ¬ m.starts e q) → s = s') := Iff.rfl

/-- An activation that was begun in `s₀` keeps the invariant from `s` on, and ends
as the summary says. -/
abbrev Keeps (s₀ : σ) (p : Program σ R α) (s : σ) : Prop :=
  p.Safe S.contract (fun _ s' => S.inv s' ∧ S.sum s₀ s') s

/-- What is left of the latest activation, which was begun in `s₀`. -/
def Holds (s₀ s : σ) (f : m.Activation) : Prop :=
  match f.stage with
  | .running p => S.Keeps s₀ p s
  | .pending e k => S.inv s ∧ ∀ r s', S.contract.interference e s s' → S.Keeps s₀ (k r) s'

/-- What is left of an activation that was begun in `s₀`, when others have run
from `s` on. -/
def Waits (s₀ s : σ) (f : m.Activation) : Prop :=
  match f.stage with
  | .running _ => False
  | .pending e k => ∀ r s', S.inv s' → S.admits e s' → S.sum s s' → S.Keeps s₀ (k r) s'

/-- The activations below one that was begun in `s`, in a run from `s₀`. -/
def Below (s₀ : σ) : σ → List m.Activation → Prop
  | s, [] => S.sum s₀ s
  | s, f :: fs => ∃ s₁, S.Waits s₁ s f ∧ Below s₀ s₁ fs

/-- The invariant of a run from `s₀`. -/
def Kept (s₀ : σ) : m.Config → Prop
  | ⟨s, []⟩ => S.inv s ∧ S.sum s₀ s
  | ⟨s, f :: fs⟩ => ∃ s₁, S.Holds s₁ s f ∧ S.Below s₀ s₁ fs

variable {S}

/-- The latest activation has ended, and the one below goes on. -/
theorem Below.kept {s₀ s s' : σ} {fs : List m.Activation} (h : S.Below s₀ s fs) (hinv : S.inv s')
    (hsum : S.sum s s') : S.Kept s₀ ⟨s', fs⟩ := by
  cases fs with
  | nil => exact ⟨hinv, S.trans h hsum⟩
  | cons f fs =>
      obtain ⟨s₁, hwaits, hbelow⟩ := h
      obtain ⟨q, p | ⟨e, k⟩⟩ := f
      · exact hwaits.elim
      · exact ⟨s₁, ⟨hinv, fun r s'' hs'' => hwaits r s'' hs''.1 hs''.2.1
          (S.trans hsum hs''.2.2.1)⟩, hbelow⟩

/-- **One step.** -/
theorem step (hbody : ∀ q s, S.inv s → S.Keeps s (m.body q) s) {x y : m.Config}
    (hxy : Step (anyStart m) x y) (hadmits : S.Admits x y) {s₀ : σ} (hx : S.Kept s₀ x) :
    S.Kept s₀ y := by
  cases hxy with
  | get => exact hx
  | set =>
      obtain ⟨s₁, hholds, hbelow⟩ := hx
      exact ⟨s₁, hholds.2, hbelow⟩
  | issue =>
      obtain ⟨s₁, hholds, hbelow⟩ := hx
      exact ⟨s₁, ⟨hholds.1, fun r s' hs' => hholds.2 r s' trivial hs'⟩, hbelow⟩
  | @answer s q e k fs r =>
      obtain ⟨s₁, hholds, hbelow⟩ := hx
      have hadmitted : S.admits e s := hadmits q e k fs r rfl rfl
      exact ⟨s₁, hholds.2 r s ⟨hholds.1, hadmitted, S.refl s, fun _ => rfl⟩, hbelow⟩
  | finish =>
      obtain ⟨s₁, hholds, hbelow⟩ := hx
      exact hbelow.kept hholds.1 hholds.2
  | begin q => exact ⟨_, hbody q _ hx.1, hx.2⟩
  | @start s p e k fs q hstarts _ =>
      obtain ⟨s₁, ⟨hinv, hk⟩, hbelow⟩ := hx
      refine ⟨s, hbody q s hinv, s₁, fun r s' hinv' hadmitted hsum => ?_, hbelow⟩
      exact hk r s' ⟨hinv', hadmitted, hsum, fun hnone => (hnone q hstarts).elim⟩

/-- Any number of steps. -/
theorem kept_of_run (hbody : ∀ q s, S.inv s → S.Keeps s (m.body q) s) {s₀ : σ} (hs₀ : S.inv s₀)
    {x : m.Config} (hx : S.Run ⟨s₀, []⟩ x) : S.Kept s₀ x := by
  induction hx with
  | refl => exact ⟨hs₀, S.refl s₀⟩
  | tail _ hlast ih => exact step hbody hlast.1 hlast.2 ih

/-- **Every run**: the invariant holds whenever nobody has control, and when
nothing is active any more the run as a whole is as the summary says. -/
theorem run (hbody : ∀ q s, S.inv s → S.Keeps s (m.body q) s) {s₀ : σ} (hs₀ : S.inv s₀)
    {x : m.Config} (hx : S.Run ⟨s₀, []⟩ x) :
    (Quiescent x → S.inv x.st) ∧ (x.stack = [] → S.sum s₀ x.st) := by
  have hkept := kept_of_run hbody hs₀ hx
  obtain ⟨s, fs⟩ := x
  cases fs with
  | nil => exact ⟨fun _ => hkept.1, fun _ => hkept.2⟩
  | cons f fs =>
      obtain ⟨s₁, hholds, -⟩ := hkept
      refine ⟨fun hquiescent => ?_, fun hnone => nomatch hnone⟩
      have hawaits := hquiescent f rfl
      obtain ⟨q, p | ⟨e, k⟩⟩ := f
      · exact hawaits.elim
      · exact hholds.1

/-! ## Code in sequence -/

section Safe

variable {s₀ s : σ} {Q : β → σ → Prop}

/-- A call that starts nothing finds the state as it was. -/
theorem safe_call_of_quiet {e : E} {k : R e → Program σ R β} (hquiet : ∀ q, ¬ m.starts e q)
    (hinv : S.inv s) (hk : ∀ r, S.admits e s → (k r).Safe S.contract Q s) :
    Program.Safe S.contract Q (.call e k) s := by
  refine ⟨hinv, fun r s' _ hs' => ?_⟩
  obtain rfl := hs'.2.2.2 hquiet
  exact hk r hs'.2.1

end Safe

end Summary

end Interaction
