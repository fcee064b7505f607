import Mathlib.Data.List.Forall2
import TclTls.Interaction.Ledger

/-!
# TclTls.Interaction.Policy

Procedures that are judged each by its own terms.  A `Policy` says by which, and
with which account a procedure begins and ends.  The accounts of a stack and the
books that surround it are `Tallied` by a relation of the user's choice, which
may look at the procedures that are active, but not at how far they have got.
`Policy.Audit` is what has to be shown of such a relation, step by step; then it
holds in every run (`Audit.run`).
-/

namespace Interaction

variable {σ γ κ E : Type} {R : E → Type}

open Machine Surroundings

/-- By which terms the procedures of `m` are judged, and their accounts at the
beginning and at the end. -/
structure Policy (m : Machine σ R) (κ : Type) where
  terms : m.Proc → Terms σ R κ
  opens : m.Proc → κ
  closed : κ

namespace Policy

variable {m : Machine σ R} (π : Policy m κ)

/-- From the state `s` on, the activation keeps the terms of its procedure. -/
def Obeys (f : m.Activation) (a : κ) (s : σ) : Prop :=
  f.rest.Keeps (π.terms f.proc) (fun _ a _ => a = π.closed) a s

/-- A suspended activation goes on from whatever state it finds. -/
def Waits (f : m.Activation) (a : κ) : Prop :=
  f.Awaits (π.terms f.proc).exposed ∧ ∀ s, π.Obeys f a s

/-- All activations keep their terms, the latest one from `s` on. -/
inductive Kept (s : σ) : List m.Activation → List κ → Prop
  | nil : Kept s [] []
  | cons {f : m.Activation} {fs : List m.Activation} {a : κ} {as : List κ}
      (hobeys : π.Obeys f a s) (hwaits : List.Forall₂ π.Waits fs as) : Kept s (f :: fs) (a :: as)

/-- The procedures that are active, latest first. -/
abbrev procs (fs : List m.Activation) : List m.Proc := fs.map (·.proc)

/-- There are accounts that are kept, and tally with the books. -/
def Tallied (Tally : σ → γ → List m.Proc → List κ → Prop) (x : m.Scene γ) : Prop :=
  ∃ as, π.Kept x.st x.stack as ∧ Tally x.st x.env (procs x.stack) as

section Audit

variable {π} {s : σ} {f : m.Activation} {fs : List m.Activation} {a : κ} {as : List κ}

/-- A suspended activation waits for a call that its terms allow in any state. -/
theorem Waits.allowed (h : π.Waits f a) (s : σ) :
    ∃ e, (π.terms f.proc).exposed e ∧ (π.terms f.proc).allowed a s e := by
  obtain ⟨q, p | ⟨e, k⟩⟩ := f
  · exact h.1.elim
  · exact ⟨e, h.1, (h.2 s).1⟩

theorem Kept.of_waits (h : List.Forall₂ π.Waits fs as) (s : σ) : π.Kept s fs as := by
  cases h with
  | nil => exact .nil
  | cons hwaits hrest => exact .cons (hwaits.2 s) hrest

/-- An activation that awaits an exposed call is as good as suspended. -/
theorem Kept.waits (h : π.Kept s fs as)
    (hrest : ∀ f ∈ fs.head?, f.Awaits (π.terms f.proc).exposed) : List.Forall₂ π.Waits fs as := by
  cases h with
  | nil => exact .nil
  | @cons f fs a as hobeys hwaits =>
      have hawaits := hrest f rfl
      obtain ⟨q, p | ⟨e, k⟩⟩ := f
      · exact hawaits.elim
      · exact .cons ⟨hawaits, fun s' => Program.Keeps.exposed hawaits hobeys s'⟩ hwaits

end Audit

variable (u : Surroundings m γ) (permit : Permit m γ) (Tally : σ → γ → List m.Proc → List κ → Prop)

/-- What each kind of step has to do for the accounts to tally. -/
structure Audit : Prop where
  exposed : ∀ {p q e}, m.starts e q → (π.terms p).exposed e
  write : ∀ {s s' g q qs a as}, (π.terms q).writes a s s' → Tally s g (q :: qs) (a :: as) →
    Tally s' g (q :: qs) ((π.terms q).book a s s' :: as)
  answer : ∀ {s g q e r fs a as}, List.Forall₂ π.Waits fs as → (π.terms q).allowed a s e →
    u.reply g e r → Tally s g (q :: procs fs) (a :: as) →
    (π.terms q).answers a s e r ∧
      Tally s (u.after g e) (q :: procs fs) ((π.terms q).settle a e r :: as)
  finish : ∀ {s g q qs as}, Tally s g (q :: qs) (π.closed :: as) → Tally s g qs as
  start : ∀ {s g q fs as}, List.Forall₂ π.Waits fs as → permit ⟨s, g, fs⟩ q →
    Tally s g (procs fs) as →
    (m.body q).Keeps (π.terms q) (fun _ a _ => a = π.closed) (π.opens q) s ∧
      Tally s (u.enter q g) (q :: procs fs) (π.opens q :: as)

variable {π u permit Tally}

/-- One step. -/
theorem Audit.step (audit : π.Audit u permit Tally) {x y : m.Scene γ} (hxy : u.Step permit x y)
    (hx : π.Tallied Tally x) : π.Tallied Tally y := by
  obtain ⟨as, hkept, htally⟩ := hx
  cases hxy with
  | get =>
      cases hkept with
      | cons hobeys hwaits => exact ⟨_, .cons hobeys.2 hwaits, htally⟩
  | set =>
      cases hkept with
      | cons hobeys hwaits =>
          exact ⟨_, .cons hobeys.2 hwaits, audit.write hobeys.1 htally⟩
  | issue =>
      cases hkept with
      | cons hobeys hwaits => exact ⟨_, .cons hobeys hwaits, htally⟩
  | answer r hreply =>
      cases hkept with
      | cons hobeys hwaits =>
          obtain ⟨hanswers, htally'⟩ := audit.answer hwaits hobeys.1 hreply htally
          exact ⟨_, .cons (hobeys.2 r _ hanswers fun _ => rfl) hwaits, htally'⟩
  | finish =>
      cases hkept with
      | cons hobeys hwaits =>
          have hclosed : _ = π.closed := hobeys
          subst hclosed
          exact ⟨_, .of_waits hwaits _, audit.finish htally⟩
  | @start s g fs q hcalls hpermit =>
      have hwaits : List.Forall₂ π.Waits fs as := by
        refine hkept.waits fun f hf => ?_
        cases fs with
        | nil => contradiction
        | cons f' fs =>
            obtain rfl : f' = f := by simpa using hf
            obtain ⟨p, k | ⟨e, k⟩⟩ := f'
            · exact hcalls.elim
            · exact audit.exposed hcalls
      obtain ⟨hobeys, htally'⟩ := audit.start hwaits hpermit htally
      exact ⟨_, .cons hobeys hwaits, htally'⟩

/-- Any number of steps, beginning where nothing is active. -/
theorem Audit.run (audit : π.Audit u permit Tally) {s : σ} {g : γ} {x : m.Scene γ}
    (hx : u.Run permit ⟨s, g, []⟩ x) (hstart : Tally s g [] []) : π.Tallied Tally x :=
  run_invariant audit.step hx ⟨[], .nil, hstart⟩

end Policy

end Interaction
