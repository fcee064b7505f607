import TclTls.Interaction.Ledger

/-!
# TclTls.Interaction.Guarantee

Rely and guarantee for code that is re-entered.  While an activation waits for
its call to return, others move the state, and they run the same procedures.  So
what every procedure guarantees about its own writes is what each of them may
rely on while it waits.

A `Guarantee` is a preorder on the states, with the calls that may be made in a
state and the answers that may come.  `Guarantee.run` concludes from each
procedure on its own that a run moves forward in the preorder, and that every
call that is pending was permitted in a state from which the present one has
come.
-/

namespace Interaction

open Machine Surroundings

variable {σ γ E α β : Type} {R : E → Type}

/-- How code moves the state, and others do meanwhile.

* `rel s s'` — the state may be moved from `s` to `s'`;
* `permitted s e` — in state `s` the call `e` may be made;
* `possible e r` — `e` is answered with such `r` only. -/
structure Guarantee (σ : Type) {E : Type} (R : E → Type) where
  rel : σ → σ → Prop
  permitted : σ → E → Prop := fun _ _ => True
  possible : (e : E) → R e → Prop := fun _ _ => True
  refl : ∀ s, rel s s
  trans : ∀ {s s' s''}, rel s s' → rel s' s'' → rel s s''

namespace Guarantee

variable (G : Guarantee σ R)

/-- What is guaranteed is what is relied on. -/
def contract : Contract σ R where
  allowed := G.permitted
  writes := G.rel
  answers := G.possible
  interference _ := G.rel

@[simp] theorem contract_allowed (s : σ) (e : E) :
    G.contract.allowed s e ↔ G.permitted s e := Iff.rfl

@[simp] theorem contract_writes (s s' : σ) : G.contract.writes s s' ↔ G.rel s s' := Iff.rfl

@[simp] theorem contract_answers (e : E) (r : R e) :
    G.contract.answers e r ↔ G.possible e r := Iff.rfl

@[simp] theorem contract_interference (e : E) (s s' : σ) :
    G.contract.interference e s s' ↔ G.rel s s' := Iff.rfl

/-- Started in `s`, the code keeps the guarantee. -/
abbrev Keeps (p : Program σ R α) (s : σ) : Prop := p.Safe G.contract (fun _ _ => True) s

variable {G}

/-- The second part is started in whatever state the first one leaves. -/
theorem Keeps.bind {p : Program σ R α} {k : α → Program σ R β} {s : σ} (hp : G.Keeps p s)
    (hk : ∀ a s', G.Keeps (k a) s') : G.Keeps (p >>= k) s := by
  rw [Keeps, Program.safe_bind]
  exact hp.mono fun a s' _ => hk a s'

/-! ## Activations -/

variable {m : Machine σ R} {u : Surroundings m γ} {permit : Permit m γ}

variable (G) in
/-- In the state `s` the activation waits for a call it made in an earlier one. -/
def Waits (s : σ) (f : m.Activation) : Prop :=
  match f.stage with
  | .running _ => False
  | .pending e k => ∃ s₁, G.rel s₁ s ∧ G.permitted s₁ e ∧
      ∀ r s', G.possible e r → G.rel s₁ s' → G.Keeps (k r) s'

variable (G) in
/-- From the state `s` on, the activation keeps the guarantee. -/
def Holds (s : σ) (f : m.Activation) : Prop :=
  match f.stage with
  | .running p => G.Keeps p s
  | .pending _ _ => G.Waits s f

variable (G) in
/-- The invariant of a run that began in `s₀`: the latest activation keeps the
guarantee, and all others wait. -/
structure Kept (s₀ : σ) (x : m.Scene γ) : Prop where
  since : G.rel s₀ x.st
  top : ∀ f ∈ x.stack.head?, G.Holds x.st f
  below : ∀ f ∈ x.stack.tail, G.Waits x.st f

theorem Waits.holds {f : m.Activation} {s : σ} (h : G.Waits s f) : G.Holds s f := by
  obtain ⟨q, p | ⟨e, k⟩⟩ := f
  · exact h.elim
  · exact h

/-- Others move the state forward. -/
theorem Waits.later {f : m.Activation} {s s' : σ} (h : G.Waits s f) (hs : G.rel s s') :
    G.Waits s' f := by
  obtain ⟨q, p | ⟨e, k⟩⟩ := f
  · exact h.elim
  · obtain ⟨s₁, hrel, hpermitted, hk⟩ := h
    exact ⟨s₁, G.trans hrel hs, hpermitted, hk⟩

/-- The latest activation goes on. -/
theorem Kept.go {s₀ s s' : σ} {g g' : γ} {f f' : m.Activation} {fs : List m.Activation}
    (h : G.Kept s₀ (⟨s, g, f :: fs⟩ : m.Scene γ)) (hs : G.rel s s')
    (hf : G.Holds s f → G.Holds s' f') :
    G.Kept s₀ (⟨s', g', f' :: fs⟩ : m.Scene γ) ∧ G.rel s s' where
  left := {
    since := G.trans h.since hs
    top := by simpa using hf (h.top f rfl)
    below := fun f hf => (h.below f hf).later hs }
  right := hs

/-- **One step** keeps the invariant, and moves the state forward. -/
theorem step {s₀ : σ} (hbody : ∀ q s, G.rel s₀ s → G.Keeps (m.body q) s)
    (hreply : ∀ g e r, u.reply g e r → G.possible e r) {x y : m.Scene γ}
    (hxy : u.Step permit x y) (hx : G.Kept s₀ x) : G.Kept s₀ y ∧ G.rel x.st y.st := by
  cases hxy with
  | get => exact hx.go (G.refl _) fun h => h
  | set =>
      have hset := hx.top _ rfl
      exact hx.go hset.1 fun h => h.2
  | issue => exact hx.go (G.refl _) fun h => ⟨_, G.refl _, h.1, h.2⟩
  | answer r hr =>
      refine hx.go (G.refl _) fun h => ?_
      obtain ⟨s₁, hrel, -, hk⟩ := h
      exact hk r _ (hreply _ _ r hr) hrel
  | @finish s g q fs =>
      refine ⟨⟨hx.since, fun f hf => ?_, fun f hf => ?_⟩, G.refl _⟩
      · exact (hx.below f (List.mem_of_mem_head? hf)).holds
      · exact hx.below f (List.mem_of_mem_tail hf)
  | @start s g fs q hcalls _ =>
      refine ⟨⟨hx.since, fun f hf => ?_, fun f hf => ?_⟩, G.refl _⟩
      · obtain rfl : enter q = f := by simpa using hf
        exact hbody q s hx.since
      · cases fs with
        | nil => contradiction
        | cons f' fs =>
            -- a call that starts something is pending
            have hwaits : G.Waits s f' := by
              have htop := hx.top f' rfl
              obtain ⟨p, p' | ⟨e, k⟩⟩ := f'
              · exact hcalls.elim
              · exact htop
            have hall : ∀ f ∈ f' :: fs, G.Waits s f := List.forall_mem_cons.mpr ⟨hwaits, hx.below⟩
            exact hall f hf

/-- **Any number of steps.** -/
theorem steps {s₀ : σ} (hbody : ∀ q s, G.rel s₀ s → G.Keeps (m.body q) s)
    (hreply : ∀ g e r, u.reply g e r → G.possible e r) {x y : m.Scene γ}
    (hxy : u.Run permit x y) (hx : G.Kept s₀ x) : G.Kept s₀ y ∧ G.rel x.st y.st := by
  induction hxy with
  | refl => exact ⟨hx, G.refl _⟩
  | tail _ hlast ih =>
      obtain ⟨hkept, hrel⟩ := ih
      obtain ⟨hkept', hrel'⟩ := step hbody hreply hlast hkept
      exact ⟨hkept', G.trans hrel hrel'⟩

/-- A call that is pending was permitted when it was made. -/
theorem Kept.awaits {s₀ : σ} {x : m.Scene γ} (h : G.Kept s₀ x) {P : E → Prop}
    (hP : ∀ s₁ e, G.rel s₁ x.st → G.permitted s₁ e → ¬ P e) : ∀ f ∈ x.stack, ¬ f.Awaits P := by
  have hholds : ∀ f ∈ x.stack, G.Holds x.st f := by
    obtain ⟨s, g, fs⟩ := x
    cases fs with
    | nil => simp
    | cons f fs =>
        exact List.forall_mem_cons.mpr ⟨h.top f rfl, fun f hf => (h.below f hf).holds⟩
  intro f hf
  have hfholds := hholds f hf
  obtain ⟨q, p | ⟨e, k⟩⟩ := f
  · exact id
  · obtain ⟨s₁, hrel, hpermitted, -⟩ := hfholds
    exact hP s₁ e hrel hpermitted

/-- **Procedures that keep a guarantee, each on its own, keep it together**, in
every run that begins where nothing is active. -/
theorem run {s₀ : σ} (hbody : ∀ q s, G.rel s₀ s → G.Keeps (m.body q) s)
    (hreply : ∀ g e r, u.reply g e r → G.possible e r) {g : γ} {x : m.Scene γ}
    (hx : u.Run permit ⟨s₀, g, []⟩ x) : G.Kept s₀ x :=
  (steps hbody hreply hx ⟨G.refl s₀, by simp, by simp⟩).1

end Guarantee

end Interaction
