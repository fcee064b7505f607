import TclTls.Interaction.Activation

/-!
# TclTls.Interaction.Ledger

Re-entered code whose surroundings keep books on it.  Some answers depend on
what was called before: a release reports whether it was the last one, an
allocator whether anything is left.  `Surroundings` are such books, and
`Surroundings.Step` is `Machine.Step` in them.

The books of a stack are made up by all of its activations, so no activation
can be judged by them.  Each is judged by an *account* instead, its own part of
the books, which exists in proofs only.  `Terms` say how an account moves, what
an activation may do in the light of it, and what it may take from the answers;
`Program.Keeps` says that code does nothing else.  It is `Program.Safe` with an
account beside the state.
-/

namespace Interaction

variable {σ γ κ E : Type} {R : E → Type}

/-! ## Surroundings -/

/-- The books kept on the procedures of `m`: which answers they allow, and how
a call and the start of a procedure change them. -/
structure Surroundings (m : Machine σ R) (γ : Type) where
  reply : γ → (e : E) → R e → Prop
  after : γ → E → γ
  enter : m.Proc → γ → γ

namespace Machine

variable {m : Machine σ R}

/-- The state, the books, and the activations that have not ended, latest
first. -/
structure Scene (m : Machine σ R) (γ : Type) where
  st : σ
  env : γ
  stack : List m.Activation

/-- The procedure may be started now: nothing is active, or the latest
activation waits for a call that starts it. -/
def Calls : List m.Activation → m.Proc → Prop
  | [], _ => True
  | ⟨_, .running _⟩ :: _, _ => False
  | ⟨_, .pending e _⟩ :: _, q => m.starts e q

/-- The code an activation has still to run. -/
def Activation.rest (f : m.Activation) : Program σ R Unit :=
  match f.stage with
  | .running p => p
  | .pending e k => .call e k

end Machine

namespace Surroundings

open Machine

variable {m : Machine σ R} (u : Surroundings m γ)

/-- What may be started in which scene. -/
abbrev Permit (m : Machine σ R) (γ : Type) : Type := m.Scene γ → m.Proc → Prop

/-- One step, in which only what `permit` allows is started. -/
inductive Step (permit : Permit m γ) : m.Scene γ → m.Scene γ → Prop
  | get {s g q k fs} :
      Step permit ⟨s, g, ⟨q, .running (.get k)⟩ :: fs⟩ ⟨s, g, ⟨q, .running (k s)⟩ :: fs⟩
  | set {s g q s' k fs} :
      Step permit ⟨s, g, ⟨q, .running (.set s' k)⟩ :: fs⟩ ⟨s', g, ⟨q, .running k⟩ :: fs⟩
  | issue {s g q e k fs} :
      Step permit ⟨s, g, ⟨q, .running (.call e k)⟩ :: fs⟩ ⟨s, g, ⟨q, .pending e k⟩ :: fs⟩
  | answer {s g q e k fs} (r : R e) (hreply : u.reply g e r) :
      Step permit ⟨s, g, ⟨q, .pending e k⟩ :: fs⟩ ⟨s, u.after g e, ⟨q, .running (k r)⟩ :: fs⟩
  | finish {s g q fs} : Step permit ⟨s, g, ⟨q, .running (.pure ())⟩ :: fs⟩ ⟨s, g, fs⟩
  | start {s g fs} (q : m.Proc) (hcalls : Calls fs q) (hpermit : permit ⟨s, g, fs⟩ q) :
      Step permit ⟨s, g, fs⟩ ⟨s, u.enter q g, Machine.enter q :: fs⟩

/-- Any number of steps. -/
abbrev Run (permit : Permit m γ) : m.Scene γ → m.Scene γ → Prop :=
  Relation.ReflTransGen (u.Step permit)

section Runs

variable {u} {permit : Permit m γ} {s : σ} {g : γ} {q : m.Proc} {fs : List m.Activation}

/-- An activation reads and writes until its next call. -/
theorem run_settle (p : Program σ R Unit) (s : σ) :
    u.Run permit ⟨s, g, ⟨q, .running p⟩ :: fs⟩
      ⟨(p.settle s).2, g, ⟨q, .running (p.settle s).1⟩ :: fs⟩ := by
  induction p generalizing s with
  | get k ih => exact .head .get (ih s s)
  | set s' k ih => exact .head .set (ih s')
  | pure a => exact .refl
  | call e k ih => exact .refl

/-- It then waits for that call. -/
theorem run_issue {p : Program σ R Unit} {s' : σ} {e : E} {k : R e → Program σ R Unit}
    (hp : p.settle s = (.call e k, s')) :
    u.Run permit ⟨s, g, ⟨q, .running p⟩ :: fs⟩ ⟨s', g, ⟨q, .pending e k⟩ :: fs⟩ := by
  have hsettle : u.Run permit ⟨s, g, ⟨q, .running p⟩ :: fs⟩ _ := run_settle p s
  rw [hp] at hsettle
  exact hsettle.tail .issue

/-- A call that starts nothing is answered. -/
theorem run_answer {p : Program σ R Unit} {s' : σ} {e : E} {k : R e → Program σ R Unit}
    (r : R e) (hp : p.settle s = (.call e k, s')) (hreply : u.reply g e r) :
    u.Run permit ⟨s, g, ⟨q, .running p⟩ :: fs⟩
      ⟨s', u.after g e, ⟨q, .running (k r)⟩ :: fs⟩ :=
  (run_issue hp).tail (.answer r hreply)

/-- Under a handler that answers as the books have it, code runs to its end
without anything being started. -/
theorem run_handler {α : Type} {h : (e : E) → γ → R e × γ}
    (hh : ∀ e g, u.reply g e (h e g).1 ∧ (h e g).2 = u.after g e) (permit : Permit m γ) (q : m.Proc)
    (fs : List m.Activation) (p : Program σ R α) (k : α → Program σ R Unit) (w : World σ γ) :
    u.Run permit ⟨w.st, w.env, ⟨q, .running (p >>= k)⟩ :: fs⟩
      ⟨(p.run h w).2.st, (p.run h w).2.env, ⟨q, .running (k (p.run h w).1)⟩ :: fs⟩ := by
  rw [Program.bind_eq]
  induction p generalizing w with
  | pure a => exact .refl
  | get k' ih => exact .head .get (ih w.st w)
  | set s' k' ih => exact .head .set (ih { w with st := s' })
  | call e k' ih =>
      obtain ⟨hreply, hafter⟩ := hh e w.env
      refine .head .issue (.head (.answer (h e w.env).1 hreply) ?_)
      rw [← hafter]
      exact ih (h e w.env).1 { w with env := (h e w.env).2 }

/-- What every step keeps, a run keeps. -/
theorem run_invariant {Inv : m.Scene γ → Prop}
    (hstep : ∀ {x y}, u.Step permit x y → Inv x → Inv y) {x y : m.Scene γ}
    (hxy : u.Run permit x y) (hx : Inv x) : Inv y := by
  induction hxy with
  | refl => exact hx
  | tail _ hlast ih => exact hstep hlast ih

end Runs

end Surroundings

/-! ## Accounts -/

/-- How an account moves, and what it allows.

* `reads a s`, `writes a s s'`, `allowed a s e` — with the account `a` and in
  the state `s`, the state may be read, overwritten with `s'`, the call `e` made;
* `book a s s'`, `settle a e r` — the account after such a write, and after the
  call has been answered;
* `answers a s e r` — such an answer is possible;
* `exposed e` — others may move the state while `e` is pending, so neither
  what allows the call nor its answer may depend on the state. -/
structure Terms (σ : Type) {E : Type} (R : E → Type) (κ : Type) where
  exposed : E → Prop
  reads : κ → σ → Prop
  writes : κ → σ → σ → Prop
  book : κ → σ → σ → κ
  allowed : κ → σ → E → Prop
  answers : κ → σ → (e : E) → R e → Prop
  settle : κ → (e : E) → R e → κ
  allowed_exposed : ∀ {a s e} s', exposed e → allowed a s e → allowed a s' e
  answers_exposed : ∀ {a s e r} s', exposed e → answers a s' e r → answers a s e r

namespace Program

variable {α β : Type} {t : Terms σ R κ} {Q : α → κ → σ → Prop} {a : κ} {s : σ}

/-- `p.Keeps t Q a s`: started in `s` with the account `a`, the program does
only what the terms allow, and returns only with `Q`. -/
def Keeps (t : Terms σ R κ) (Q : α → κ → σ → Prop) : Program σ R α → κ → σ → Prop
  | .pure v, a, s => Q v a s
  | .get k, a, s => t.reads a s ∧ (k s).Keeps t Q a s
  | .set s' k, a, s => t.writes a s s' ∧ k.Keeps t Q (t.book a s s') s'
  | .call e k, a, s => t.allowed a s e ∧ ∀ r s', t.answers a s e r →
      (¬ t.exposed e → s = s') → (k r).Keeps t Q (t.settle a e r) s'

@[simp] theorem keeps_pure (v : α) : Keeps t Q (Pure.pure v) a s ↔ Q v a s := Iff.rfl

@[simp] theorem keeps_node_pure (v : α) : Keeps t Q (.pure v : Program σ R α) a s ↔ Q v a s :=
  Iff.rfl

/-- Sequencing: the rest of the program is the postcondition of the first part. -/
@[simp] theorem keeps_bind (p : Program σ R α) (f : α → Program σ R β) (Q : β → κ → σ → Prop)
    (a : κ) (s : σ) :
    Keeps t Q (p >>= f) a s ↔ Keeps t (fun v a' s' => Keeps t Q (f v) a' s') p a s := by
  rw [bind_eq]
  induction p generalizing a s with
  | pure v => rfl
  | get k ih => simp only [bind, Keeps, ih]
  | set s' k ih => simp only [bind, Keeps, ih]
  | call e k ih => simp only [bind, Keeps, ih]

@[simp] theorem keeps_state (Q : σ → κ → σ → Prop) :
    Keeps t Q state a s ↔ t.reads a s ∧ Q s a s := Iff.rfl

@[simp] theorem keeps_update (f : σ → σ) (Q : Unit → κ → σ → Prop) :
    Keeps t Q (update f) a s ↔
      t.reads a s ∧ t.writes a s (f s) ∧ Q () (t.book a s (f s)) (f s) := Iff.rfl

@[simp] theorem keeps_node_call (e : E) (k : R e → Program σ R α) :
    Keeps t Q (.call e k) a s ↔ t.allowed a s e ∧ ∀ r s', t.answers a s e r →
      (¬ t.exposed e → s = s') → (k r).Keeps t Q (t.settle a e r) s' := Iff.rfl

@[simp] theorem keeps_ite (b : Prop) [Decidable b] (p q : Program σ R α) :
    Keeps t Q (if b then p else q) a s ↔ if b then Keeps t Q p a s else Keeps t Q q a s := by
  split <;> rfl

/-- A weaker postcondition is met wherever a stronger one is. -/
theorem Keeps.mono {Q' : α → κ → σ → Prop} {p : Program σ R α} (hp : p.Keeps t Q a s)
    (hQ : ∀ v a s, Q v a s → Q' v a s) : p.Keeps t Q' a s := by
  induction p generalizing a s with
  | pure v => exact hQ v a s hp
  | get k ih => exact ⟨hp.1, ih s hp.2⟩
  | set s' k ih => exact ⟨hp.1, ih hp.2⟩
  | call e k ih => exact ⟨hp.1, fun r s' hr hs' => ih r (hp.2 r s' hr hs')⟩

/-- Terms that allow more, and rely on less, are kept as well. -/
theorem Keeps.weaken {t' : Terms σ R κ} {p : Program σ R α} (hp : p.Keeps t Q a s)
    (hreads : ∀ a s, t.reads a s → t'.reads a s)
    (hwrites : ∀ a s s', t.writes a s s' → t'.writes a s s') (hbook : t'.book = t.book)
    (hallowed : ∀ a s e, t.allowed a s e → t'.allowed a s e)
    (hanswers : ∀ a s e r, t'.answers a s e r → t.answers a s e r) (hsettle : t'.settle = t.settle)
    (hexposed : ∀ e, t'.exposed e → t.exposed e) : p.Keeps t' Q a s := by
  induction p generalizing a s with
  | pure v => exact hp
  | get k ih => exact ⟨hreads a s hp.1, ih s hp.2⟩
  | set s' k ih =>
      have hrest := ih hp.2
      rw [← hbook] at hrest
      exact ⟨hwrites a s s' hp.1, hrest⟩
  | call e k ih =>
      refine ⟨hallowed a s e hp.1, fun r s' hr hs' => ?_⟩
      have hrest := ih r (hp.2 r s' (hanswers a s e r hr) fun hquiet => hs' (hquiet ∘ hexposed e))
      rwa [← hsettle] at hrest

/-- A pending call that exposes the state may be answered in any other. -/
theorem Keeps.exposed {e : E} {k : R e → Program σ R α} (he : t.exposed e)
    (h : Keeps t Q (.call e k) a s) (s₁ : σ) : Keeps t Q (.call e k) a s₁ :=
  ⟨t.allowed_exposed s₁ he h.1,
    fun r s' hr _ => h.2 r s' (t.answers_exposed s₁ he hr) fun hquiet => (hquiet he).elim⟩

end Program

end Interaction
