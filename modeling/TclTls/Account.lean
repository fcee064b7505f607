import TclTls.Interaction.Ledger
import TclTls.Reentry

/-!
# TclTls.Account

What each procedure of the driver does to the references to a `State`.

References are taken by two pieces of code: `TlsWatchProc` takes one for the
timer it arms, which `TlsChannelHandlerTimer` or whoever disarms the timer gives
back, and `EvalCallback` holds one while its script runs.  An activity's
`Account` is the part of Tcl's books that it is answerable for, and `terms` are
what it keeps to: it releases only what it holds, frees the `State` only when it
has been told to, and lets others run only when nothing is half done.
`Activity.body_keeps` says that every activity does and closes its account.

The terms have a stricter reading, under which the `State` is touched only
while something the activity has cannot but keep it alive.  The timer handler,
which has its timer's reference, and `TlsCloseProc`, which is the one to give
the `State` up, keep to that as well; the procedures that do I/O do not.

Under `exactTerms` an activity that lets others run also holds no more than it
needs: the reference of its timer and that of its script.
-/

namespace TclTls

open Interaction
open Interaction.Program (state update)

variable (lib : Platform)

/-! ## Calls -/

/-- The request runs `TlsCloseProc`. -/
def Request.closes : Request → Bool
  | .close => true
  | .close2 closeRead closeWrite => !closeRead && !closeWrite
  | _ => false

/-- The call is given the `State` or something it owns. -/
def Call.touches : Call → Bool
  | .backgroundException _ | .objResult | .sleep _ => false
  | _ => true

/-- Nothing is left to do with the `State`. -/
def Quiet : Driver Unit → Prop
  | .pure _ => True
  | .get _ | .set _ _ => False
  | .call e k => e.touches = false ∧ ∀ r, Quiet (k r)

/-- Others may run while the call is pending. -/
def Call.exposed (e : Call) : Bool := e.scripted || e.wire

theorem Activity.startedBy.exposed {x : Activity} {e : Call} (h : x.startedBy e) :
    e.exposed = true := by
  cases x <;> simp_all [startedBy, Call.exposed]

/-- `EvalCallback` after the script. -/
def evalReturn (o : EvalOutcome) : Driver Unit := do
  if o.code ≠ tclOk then
    call (.backgroundException o.code)
  tclRelease

theorem evalCallback_eq (cmd : Command) :
    evalCallback lib cmd = (do
      call .preserve
      let o ← call (.evalObj cmd)
      evalReturn o
      pure (callbackResult lib o)) := by
  refine congrArg (call .preserve >>= ·) (funext fun _ => ?_)
  refine congrArg (call (.evalObj cmd) >>= ·) (funext fun o => ?_)
  by_cases hcode : o.code = tclOk <;> simp [evalReturn, hcode, Program.bind_assoc]

/-! ## Accounts -/

/-- The part of Tcl's books that one activity is answerable for: the references
it holds, the timer handlers it has created and not noted in `State.timer`
(negative for those it has removed and not noted yet), whether it is to give the
`State` up (`closing`), and whether it has been told to free it (`owner`). -/
structure Account where
  held : Nat := 0
  armed : Int := 0
  closing : Nat := 0
  owner : Nat := 0
deriving DecidableEq, Repr

/-- The reference and the handler that `State.timer` stands for. -/
def State.carried (s : State) : Nat := s.timer.toNat

namespace Account

/-- The `State` is there for the activity: it holds a reference, is to give the
`State` up or to free it, or a timer is armed. -/
def Covered (a : Account) (s : State) : Prop :=
  0 < a.held + a.closing + a.owner + s.carried

/-- A cover that no other activity can take away. -/
def Firm (a : Account) : Prop := 0 < a.held + a.closing

theorem Firm.covered {a : Account} (ha : a.Firm) (s : State) : a.Covered s := by
  simp only [Firm, Covered] at ha ⊢
  omega

@[simp] theorem firm_held (h c o : Nat) (n : Int) : Firm ⟨h + 1, n, c, o⟩ := by
  simp only [Firm]
  omega

@[simp] theorem firm_closing (h c o : Nat) (n : Int) : Firm ⟨h, n, c + 1, o⟩ := by
  simp only [Firm]
  omega

@[simp] theorem covered_owner (h c : Nat) (n : Int) (s : State) : Covered ⟨h, n, c, 1⟩ s := by
  simp only [Covered]
  omega

@[simp] theorem covered_of_timer {s : State} (hs : s.timer = true) (a : Account) :
    a.Covered s := by
  simp only [Covered, State.carried, hs, Bool.toNat_true]
  omega

/-- What the account must have in it for a call. -/
def Affords (a : Account) (s : State) : Call → Prop
  | .release => 0 < a.held
  | .eventuallyFree => 0 < a.closing
  | .free => 0 < a.owner
  | .preserve => a.owner = 0
  | .deleteTimerHandler => 0 < s.carried + a.armed
  | e => e.exposed = true → a.owner = 0 ∧ a.armed = 0 ∧ (e.scripted = true → 0 < a.held)

/-- The account after the `State` has been overwritten. -/
def book (a : Account) (s s' : State) : Account :=
  { a with
    held := a.held + s.carried - s'.carried
    armed := a.armed + s.carried - s'.carried }

/-- The account after a call has been answered. -/
def settle (a : Account) : (e : Call) → e.Ans → Account
  | .preserve, _ => { a with held := a.held + 1 }
  | .release, now => { a with held := a.held - 1, owner := a.owner + now.toNat }
  | .eventuallyFree, now => { a with closing := a.closing - 1, owner := a.owner + now.toNat }
  | .free, _ => { a with owner := a.owner - 1 }
  | .createTimerHandler _, _ => { a with armed := a.armed + 1 }
  | .deleteTimerHandler, _ => { a with armed := a.armed - 1 }
  | _, _ => a

/-- A release that frees the `State` gives up the last reference. -/
def Answers (a : Account) (s : State) : (e : Call) → e.Ans → Prop
  | .release, now => now = true → a.held = 1 ∧ s.carried = 0
  | .eventuallyFree, now => now = true → a.held = 0 ∧ s.carried = 0
  | _, _ => True

end Account

/-- The terms every activity keeps; those that are `sheltered` also touch the
`State` only under a cover of their own. -/
def terms (sheltered : Prop) : Terms State Call.Ans Account where
  exposed e := e.exposed = true
  reads a s := sheltered → a.Covered s
  writes a s s' := (sheltered → a.Covered s) ∧ s'.carried ≤ a.held + s.carried
  book := Account.book
  allowed a s e := a.Affords s e ∧
    (sheltered → e.touches = true → if e.exposed then a.Firm else a.Covered s)
  answers := Account.Answers
  settle := Account.settle
  allowed_exposed {_ _ e} s' he h := by
    refine ⟨?_, fun hsheltered htouches => ?_⟩
    · cases e <;> first
        | exact h.1
        | contradiction
    · simpa [he] using h.2 hsheltered htouches
  answers_exposed {_ _ e _} s' he h := by
    cases e <;> first
      | exact h
      | contradiction

section Terms

variable {P : Prop} {a : Account} {s s' : State} {e : Call}

@[simp] theorem terms_exposed : (terms P).exposed e ↔ e.exposed = true := Iff.rfl

@[simp] theorem terms_reads : (terms P).reads a s ↔ (P → a.Covered s) := Iff.rfl

@[simp] theorem terms_writes :
    (terms P).writes a s s' ↔ (P → a.Covered s) ∧ s'.carried ≤ a.held + s.carried := Iff.rfl

@[simp] theorem terms_book : (terms P).book a s s' = a.book s s' := rfl

@[simp] theorem terms_allowed :
    (terms P).allowed a s e ↔ a.Affords s e ∧
      (P → e.touches = true → if e.exposed then a.Firm else a.Covered s) := Iff.rfl

@[simp] theorem terms_answers {r : e.Ans} : (terms P).answers a s e r ↔ a.Answers s e r := Iff.rfl

@[simp] theorem terms_settle {r : e.Ans} : (terms P).settle a e r = a.settle e r := rfl

/-- A write that leaves the timer alone leaves the account alone. -/
@[simp] theorem Account.book_of_timer (htimer : s'.timer = s.timer) : a.book s s' = a := by
  have hcarried : s'.carried = s.carried := by rw [State.carried, State.carried, htimer]
  simp [Account.book, hcarried]

end Terms

/-! ## To the last reference -/

/-- A script is being evaluated. -/
def Call.evaluates : Call → Bool
  | .evalObj _ => true
  | _ => false

/-- What an activity has to do with the timer: it is run by one that has fired, or
arms one. -/
structure Role where
  fires : Bool := false
  arms : Bool := false
deriving DecidableEq, Repr

/-- When others may run, the references are those of the script that is being
evaluated and of the timer that has fired, and no more.  A timer is created only
by who `arms` one, where there is none, and the `State` given up without one. -/
def Account.Exact (ro : Role) (a : Account) (s : State) : Call → Prop
  | .createTimerHandler _ => ro.arms = true ∧ s.carried + a.armed = 0
  | .eventuallyFree => s.carried + a.armed = 0
  | e => e.exposed = true → ro.arms = false ∧ a.held = ro.fires.toNat + e.evaluates.toNat

/-- The terms, with the references counted. -/
def exactTerms (sheltered : Prop) (ro : Role) : Terms State Call.Ans Account :=
  { terms sheltered with
    allowed := fun a s e => (terms sheltered).allowed a s e ∧ a.Exact ro s e
    allowed_exposed := fun {_ _ e} s' he h => by
      refine ⟨(terms sheltered).allowed_exposed s' he h.1, ?_⟩
      cases e <;> first
        | exact h.2
        | contradiction }

section Exact

variable {P : Prop} {ro : Role} {a : Account} {s s' : State} {e : Call}

@[simp] theorem exactTerms_exposed :
    (exactTerms P ro).exposed e ↔ e.exposed = true := Iff.rfl

@[simp] theorem exactTerms_reads :
    (exactTerms P ro).reads a s ↔ (P → a.Covered s) := Iff.rfl

@[simp] theorem exactTerms_writes :
    (exactTerms P ro).writes a s s' ↔
      (P → a.Covered s) ∧ s'.carried ≤ a.held + s.carried := Iff.rfl

@[simp] theorem exactTerms_book : (exactTerms P ro).book a s s' = a.book s s' := rfl

@[simp] theorem exactTerms_allowed :
    (exactTerms P ro).allowed a s e ↔ (a.Affords s e ∧
      (P → e.touches = true → if e.exposed then a.Firm else a.Covered s)) ∧
        a.Exact ro s e := Iff.rfl

@[simp] theorem exactTerms_answers {r : e.Ans} :
    (exactTerms P ro).answers a s e r ↔ a.Answers s e r := Iff.rfl

@[simp] theorem exactTerms_settle {r : e.Ans} :
    (exactTerms P ro).settle a e r = a.settle e r := rfl

/-- Who keeps count keeps the terms. -/
theorem terms_of_exactTerms {α : Type} {p : Driver α} {Q : α → Account → State → Prop}
    (hp : p.Keeps (exactTerms P ro) Q a s) : p.Keeps (terms P) Q a s :=
  hp.weaken (fun _ _ h => h) (fun _ _ _ h => h) rfl (fun _ _ _ h => h.1) (fun _ _ _ _ h => h) rfl
    fun _ h => h

end Exact

/-! ## What the procedures owe -/

attribute [local simp] Account.Affords Account.settle Account.Answers State.carried Call.exposed
  Call.scripted Call.wire Call.touches Call.evaluates Account.Exact

section Owe

variable {P : Prop} {ro : Role} {s : State} {h c : Nat}

theorem tlsFree_keeps (hs : s.timer = false) :
    tlsFree.Keeps (exactTerms P ro) (fun _ a s' => a = ⟨h, 0, c, 0⟩ ∧ s'.timer = false)
      ⟨h, 0, c, 1⟩ s := by
  simp [tlsFree, tlsClean, hs, Account.book]

/-- `Tls_Free` is run only when no timer is armed. -/
theorem tlsFree_keeps_timer (hs : s.timer = false) :
    tlsFree.Keeps (exactTerms P ro) (fun _ a s' => a = ⟨h, 0, c, 0⟩ ∧ s'.timer = s.timer)
      ⟨h, 0, c, 1⟩ s :=
  (tlsFree_keeps hs).mono fun _ _ _ hfree => ⟨hfree.1, hfree.2.trans hs.symm⟩

theorem tclRelease_keeps :
    tclRelease.Keeps (exactTerms P ro) (fun _ a s' => a = ⟨h, 0, c, 0⟩ ∧ s'.timer = s.timer)
      ⟨h + 1, 0, c, 0⟩ s := by
  have hcovered := (Account.firm_held h c 0 0).covered s
  simpa [tclRelease, hcovered] using fun _ hs => tlsFree_keeps_timer hs

theorem tclEventuallyFree_keeps (hs : s.timer = false) :
    tclEventuallyFree.Keeps (exactTerms P ro)
      (fun _ a s' => a = ⟨h, 0, c, 0⟩ ∧ s'.timer = s.timer) ⟨h, 0, c + 1, 0⟩ s := by
  have hcovered := (Account.firm_closing h c 0 0).covered s
  simpa [tclEventuallyFree, hcovered, hs] using fun _ => tlsFree_keeps_timer hs

/-- The program returns the account it was given. -/
abbrev Restores (P : Prop) (ro : Role) (h c : Nat) {α : Type} (p : Driver α) (s : State) :
    Prop :=
  p.Keeps (exactTerms P ro) (fun _ a _ => a = ⟨h, 0, c, 0⟩) ⟨h, 0, c, 0⟩ s

theorem Restores.bind {α β : Type} {p : Driver α} {k : α → Driver β}
    (hp : Restores P ro h c p s) (hk : ∀ v s', Restores P ro h c (k v) s') :
    Restores P ro h c (p >>= k) s := by
  rw [Restores, Program.keeps_bind]
  refine hp.mono fun v a s' ha => ?_
  subst ha
  exact hk v s'

theorem evalReturn_keeps (o : EvalOutcome) :
    (evalReturn o).Keeps (exactTerms P ro) (fun _ a _ => a = ⟨h, 0, c, 0⟩)
      ⟨h + 1, 0, c, 0⟩ s := by
  have hrelease : ∀ s', tclRelease.Keeps (exactTerms P ro) (fun _ a _ => a = ⟨h, 0, c, 0⟩)
      ⟨h + 1, 0, c, 0⟩ s' := fun s' => tclRelease_keeps.mono fun _ _ _ ha => ha.1
  simpa [evalReturn] using hrelease s

/-- Disarming a timer hands its reference over, and `Tcl_Release` gives it back. -/
theorem removeTimer_keeps (hP : P → Account.Firm ⟨h, 0, c, 0⟩) :
    removeTimer.Keeps (exactTerms P ro) (fun _ a s' => a = ⟨h, 0, c, 0⟩ ∧ s'.timer = false)
      ⟨h, 0, c, 0⟩ s := by
  have hcovered := fun hp => (hP hp).covered s
  cases htimer : s.timer with
  | false => simpa [removeTimer, htimer] using hcovered
  | true =>
      have hrelease : tclRelease.Keeps (exactTerms P ro)
          (fun _ a s' => a = ⟨h, 0, c, 0⟩ ∧ s'.timer = false) ⟨h + 1, 0, c, 0⟩
          { s with timer := false } := tclRelease_keeps
      simpa [removeTimer, htimer, Account.book] using hrelease

theorem closeNotify_restores : Restores P {} 0 1 closeNotify s := by
  have hcovered : ∀ s', Account.Covered ⟨0, 0, 1, 0⟩ s' := (Account.firm_closing 0 0 0 0).covered
  simp [closeNotify, hcovered]

theorem outputWaiting_restores (hP : P → Account.Firm ⟨h, 0, c, 0⟩) :
    Restores P ro h c outputWaiting s := by
  simpa [outputWaiting] using fun hp => (hP hp).covered s

theorem inputWaiting_restores (hP : P → Account.Firm ⟨h, 0, c, 0⟩) :
    Restores P ro h c inputWaiting s := by
  simpa [inputWaiting] using fun hp => (hP hp).covered s

theorem timerMask_restores (hP : P → Account.Firm ⟨h, 0, c, 0⟩) :
    Restores P ro h c timerMask s :=
  .bind (by simpa using fun hp => (hP hp).covered s) fun _ _ =>
    .bind (outputWaiting_restores hP) fun _ _ => .bind (inputWaiting_restores hP) fun _ _ => rfl

theorem watchPending_restores (hP : P → Account.Firm ⟨h, 0, c, 0⟩) (mask : Mask) :
    Restores P ro h c (watchPending mask) s := by
  have hwritable : ∀ s', Restores P ro h c
      (if mask.writable then outputWaiting else pure false) s' := by
    intro s'
    cases mask.writable with
    | true => exact outputWaiting_restores hP
    | false => rfl
  have hreadable : ∀ s', Restores P ro h c
      (if mask.readable then inputWaiting else pure false) s' := by
    intro s'
    cases mask.readable with
    | true => exact inputWaiting_restores hP
    | false => rfl
  refine Restores.bind (by simpa using fun hp => (hP hp).covered s) fun s₀ s₁ => ?_
  cases s₀.want.any with
  | true => rfl
  | false =>
      refine Restores.bind (hreadable s₁) fun readable s₂ => ?_
      cases readable with
      | true => rfl
      | false => exact hwritable s₂

/-- A new timer takes over the reference that was taken for it. -/
theorem renewTimer_restores (mask : Mask) :
    Restores False { arms := true } 0 0 (renewTimer mask) s := by
  rw [Restores, renewTimer, Program.keeps_bind]
  refine (removeTimer_keeps False.elim).mono fun _ a s₁ hremoved => ?_
  obtain ⟨rfl, htimer⟩ := hremoved
  cases mask.readable <;> simp [htimer, Account.book]

theorem tlsWatchProc_restores (mask : Mask) :
    Restores False { arms := true } 0 0 (tlsWatchProc mask) s := by
  have hwatch : ∀ s', Restores False { arms := true } 0 0
      (do let _ ← watchPending mask; renewTimer mask) s' := fun s' =>
    (watchPending_restores False.elim mask).bind fun _ _ => renewTimer_restores mask
  simp only [Restores, Program.keeps_bind] at hwatch
  simp [tlsWatchProc, hwatch]

theorem tlsCloseProc_keeps :
    tlsCloseProc.Keeps (exactTerms P {}) (fun _ a _ => a = {}) ⟨0, 0, 1, 0⟩ s := by
  have hP : P → Account.Firm ⟨0, 0, 1, 0⟩ := fun _ => Account.firm_closing 0 0 0 0
  rw [tlsCloseProc, Program.keeps_bind]
  refine closeNotify_restores.mono fun _ a s₁ ha => ?_
  subst ha
  rw [Program.keeps_bind]
  refine (removeTimer_keeps hP).mono fun _ a s₂ hremoved => ?_
  obtain ⟨rfl, htimer⟩ := hremoved
  rw [Program.keeps_bind]
  exact (tclEventuallyFree_keeps htimer).mono fun _ _ _ hfree => hfree.1

/-- The handler takes over the reference of its timer. -/
theorem tlsChannelHandlerTimer_keeps (hs : s.timer = true) :
    tlsChannelHandlerTimer.Keeps (exactTerms P { fires := true }) (fun _ a _ => a = {})
      ⟨0, -1, 0, 0⟩ s := by
  have hP : P → Account.Firm ⟨1, 0, 0, 0⟩ := fun _ => Account.firm_held 0 0 0 0
  have hrelease : ∀ s', tclRelease.Keeps (exactTerms P { fires := true }) (fun _ a _ => a = {})
      ⟨1, 0, 0, 0⟩ s' :=
    fun s' => tclRelease_keeps.mono fun _ _ _ hrelease => hrelease.1
  rw [tlsChannelHandlerTimer, Program.keeps_bind, Program.keeps_state, Program.keeps_bind,
    Program.keeps_update, Program.keeps_bind]
  refine ⟨by simp [hs], by simp [hs], by simp [hs], ?_⟩
  have hbook : Account.book ⟨0, -1, 0, 0⟩ s { s with timer := false } = ⟨1, 0, 0, 0⟩ := by
    simp [Account.book, hs]
  rw [exactTerms_book, hbook]
  refine (timerMask_restores hP).mono fun mask a s₁ ha => ?_
  subst ha
  simpa [hs] using fun s' => ⟨fun hp => (hP hp).covered s', hrelease _⟩

end Owe

/-! ## The stricter reading -/

section Cover

variable {s : State} {a : Account} {e : Call} {h c : Nat}

/-- While a call is pending that lets others run, nothing is half done. -/
theorem Account.Affords.of_exposed (he : e.exposed = true) (h : a.Affords s e) :
    a.owner = 0 ∧ a.armed = 0 := by
  cases e <;> first
    | contradiction
    | exact ⟨(h he).1, (h he).2.1⟩

theorem Call.touches_of_exposed (he : e.exposed = true) : e.touches = true := by
  cases e <;> first
    | contradiction
    | rfl

/-- What does nothing with the `State` needs no cover, and goes on from any. -/
theorem Quiet.keeps {P : Prop} {p : Driver Unit} (hquiet : Quiet p)
    (hp : p.Keeps (terms P) (fun _ a _ => a = {}) a s) (s₁ : State) :
    p.Keeps (terms True) (fun _ a _ => a = {}) a s₁ := by
  induction p generalizing s₁ with
  | pure v => exact hp
  | get k ih => exact hquiet.elim
  | set s' k ih => exact hquiet.elim
  | call e k ih =>
      obtain ⟨huntouched, hrest⟩ := hquiet
      cases e <;> first
        | contradiction
        | exact ⟨by simp, fun r s' _ _ => ih r (hrest r) (hp.2 r s trivial fun _ => rfl) s'⟩

/-- Without a cover nothing is done to the `State`. -/
theorem quiet_of_uncovered {p : Driver Unit} {Q : Unit → Account → State → Prop}
    (hp : p.Keeps (terms True) Q a s) (ha : ¬ a.Covered s) : Quiet p := by
  induction p generalizing s with
  | pure v => trivial
  | get k ih => exact (ha (hp.1 trivial)).elim
  | set s' k ih => exact (ha (hp.1.1 trivial)).elim
  | call e k ih =>
      obtain ⟨⟨-, hcover⟩, hk⟩ := hp
      have huntouched : e.touches = false := by
        by_contra htouches
        have hcovered := hcover trivial (by simpa using htouches)
        split at hcovered
        · simp only [Account.Firm, Account.Covered] at hcovered ha
          omega
        · exact ha hcovered
      refine ⟨huntouched, fun r => ?_⟩
      cases e <;> first
        | contradiction
        | exact ih r (hk r s trivial fun _ => rfl) ha

/-- `EvalCallback` gets to its end. -/
theorem of_evalReturn_keeps {P : Prop} {o : EvalOutcome} {Q : Unit → Account → State → Prop}
    (hp : (evalReturn o).Keeps (terms P) Q ⟨h + 1, 0, c, 0⟩ s) : Q () ⟨h, 0, c, 0⟩ s := by
  have hrelease : ∀ {s'}, tclRelease.Keeps (terms P) Q ⟨h + 1, 0, c, 0⟩ s' → Q () ⟨h, 0, c, 0⟩ s' :=
    fun hp => hp.2 false _ (by simp) fun _ => rfl
  by_cases hcode : o.code = tclOk
  · exact hrelease (by simpa [evalReturn, hcode] using hp)
  · exact hrelease (by simpa [evalReturn, hcode] using hp)

end Cover

/-! ## Procedures without a reference of their own -/

section Pays

variable {s : State}

/-- The program gives back every reference it takes, whatever the scripts do
meanwhile. -/
abbrev Repays {α : Type} (p : Driver α) (s : State) : Prop := Restores False {} 0 0 p s

theorem evalCallback_repays (cmd : Command) : Repays (evalCallback lib cmd) s := by
  rw [evalCallback_eq]
  simpa using fun o s' => evalReturn_keeps o

theorem tlsError_repays (msg : Option String) : Repays (tlsError lib msg) s := by
  have heval : ∀ cmd s', Repays (evalCallback lib cmd) s' := fun cmd s' =>
    evalCallback_repays lib cmd
  cases hscript : s.callback <;> cases msg <;> simp [tlsError, hscript]
  case some.none script => exact fun text => heval _ _
  case some.some script text => exact heval _ _

theorem removeTimer_repays : Repays removeTimer s :=
  (removeTimer_keeps False.elim).mono fun _ _ _ hremoved => hremoved.1

theorem handshakeAttempt_repays : Repays handshakeAttempt s := by
  simp [handshakeAttempt]

theorem connectLoop_repays (retries : Nat) : Repays (connectLoop retries) s := by
  induction retries generalizing s with
  | zero =>
      rw [connectLoop]
      exact handshakeAttempt_repays.bind fun a s' => by simp
  | succ retries ih =>
      rw [connectLoop]
      exact handshakeAttempt_repays.bind fun a s' => by simp [ih]

theorem connectReport_repays (a : Answer) : Repays (connectReport lib a) s := by
  have hlast : ∀ s', Repays
      (if a.err ≠ 0 then tlsError lib (lib.reasonString a.err) else pure ()) s' := by
    intro s'
    split
    · exact tlsError_repays lib _
    · rfl
  refine Restores.bind (by simp) fun v s₁ => ?_
  by_cases hv : v ≠ x509Ok
  · rw [if_pos hv]
    exact (tlsError_repays lib _).bind fun _ s₂ => hlast s₂
  · rw [if_neg hv]
    exact hlast s₁

theorem connectVerdict_repays (a : Answer) : Repays (connectVerdict lib a) s := by
  have herror : ∀ msg s', Repays (tlsError lib msg) s' := fun msg s' => tlsError_repays lib msg
  have hreport : ∀ s', Repays (connectReport lib a) s' := fun s' => connectReport_repays lib a
  cases hcode : a.code with
  | ssl =>
      simp only [connectVerdict, hcode]
      exact (hreport s).bind fun _ s₁ => by simp
  | syscall =>
      simp only [connectVerdict, hcode]
      split
      · exact (herror _ s).bind fun _ s₁ => by simp
      · refine Restores.bind (by simp) fun _ s₁ => ?_
        split <;> exact (herror _ s₁).bind fun _ s₂ => by simp
  | zeroReturn =>
      simp only [connectVerdict, hcode]
      refine Restores.bind (by simp) fun _ s₁ => ?_
      exact (herror _ s₁).bind fun _ _ => rfl
  | _ => simp [connectVerdict, hcode]

theorem tlsWaitForConnect_repays (permanent : Bool) :
    Repays (tlsWaitForConnect lib permanent) s := by
  refine Restores.bind (by simp) fun s₀ s₁ => ?_
  split
  · rfl
  · split
    · cases permanent <;> rfl
    · refine (connectLoop_repays 10).bind fun o s₂ => ?_
      cases o with
      | none => rfl
      | some a => exact connectVerdict_repays lib a

theorem withConnection_repays (permanent : Bool) {io : Driver (Int × Errno)}
    (hio : ∀ s', Repays io s') : Repays (withConnection lib permanent io) s := by
  refine Restores.bind (by simp) fun s₀ s₁ => ?_
  split
  · refine (tlsWaitForConnect_repays lib permanent).bind fun r s₂ => ?_
    by_cases hfail : r.1 < 0
    · by_cases hreset : r.2 = Errno.econnreset <;> simp [hfail, hreset]
    · by_cases hwait : r.1 = 0
      · simp [hwait]
      · simpa [hfail, hwait] using hio s₂
  · exact hio s₁

theorem ioReport_repays (a : Answer) : Repays (ioReport lib a) s := by
  have herror : ∀ msg s', Repays (tlsError lib msg) s' := fun msg s' => tlsError_repays lib msg
  unfold ioReport
  split
  · exact herror _ s
  · refine Restores.bind (by simp) fun v s₁ => ?_
    split <;> exact herror _ s₁

theorem ioVerdict_repays (a : Answer) : Repays (ioVerdict lib a) s := by
  have herror : ∀ msg s', Repays (tlsError lib msg) s' := fun msg s' => tlsError_repays lib msg
  cases hcode : a.code with
  | wantRead | wantWrite | wantX509Lookup | wantAsync => simp [ioVerdict, hcode]
  | syscall =>
      simp only [ioVerdict, hcode]
      split
      · exact (herror _ s).bind fun _ s₁ => by simp
      · refine Restores.bind (by simp) fun _ s₁ => ?_
        split <;> exact (herror _ s₁).bind fun _ s₂ => by simp
  | zeroReturn =>
      simp only [ioVerdict, hcode]
      refine Restores.bind (by simp) fun _ s₁ => ?_
      exact (herror _ s₁).bind fun _ _ => rfl
  | _ =>
      simp only [ioVerdict, hcode]
      exact (herror _ s).bind fun _ _ => rfl

theorem inputVerdict_repays (a : Answer) : Repays (inputVerdict lib a) s := by
  cases hcode : a.code with
  | none => simp [inputVerdict, hcode]
  | ssl =>
      simp only [inputVerdict, hcode]
      refine (ioReport_repays lib a).bind fun _ s₁ => ?_
      split
      · exact (tlsError_repays lib _).bind fun _ s₂ => by simp
      · simp
  | _ => simpa only [inputVerdict, hcode] using ioVerdict_repays lib a

theorem tlsInputProc_repays (n : Int) : Repays (tlsInputProc lib n) s := by
  have hread : ∀ s', Repays (do
      let a ← call (.bioRead n)
      inputVerdict lib a.toAnswer) s' := fun s' =>
    Restores.bind (by simp) fun a s₁ => inputVerdict_repays lib a.toAnswer
  refine Restores.bind (by simp) fun s₀ s₁ => ?_
  split
  · rfl
  · split
    · rfl
    · split
      · rfl
      · exact withConnection_repays lib false hread

theorem outputVerdict_repays (a : Answer) : Repays (outputVerdict lib a) s := by
  cases hcode : a.code with
  | none => simp [outputVerdict, hcode]
  | ssl =>
      simp only [outputVerdict, hcode]
      exact (ioReport_repays lib a).bind fun _ s₁ => by simp
  | _ => simpa only [outputVerdict, hcode] using ioVerdict_repays lib a

theorem zeroWrite_repays : Repays (zeroWrite lib) s := by
  refine Restores.bind (by simp) fun flushed s₁ => ?_
  split
  · exact (tlsError_repays lib _).bind fun _ _ => rfl
  · rfl

theorem bioWrite_repays (n : Int) : Repays (bioWrite lib n) s := by
  refine Restores.bind (by simp) fun a s₁ => ?_
  by_cases hret : 0 < a.ret
  · rw [if_pos hret]
    exact Restores.bind (by simp) fun _ s₂ => outputVerdict_repays lib a.toAnswer
  · rw [if_neg hret]
    exact outputVerdict_repays lib a.toAnswer

theorem tlsOutputProc_repays (n : Int) : Repays (tlsOutputProc lib n) s := by
  have hwrite : ∀ s', Repays (if n = 0 then zeroWrite lib else bioWrite lib n) s' := fun s' => by
    split
    · exact zeroWrite_repays lib
    · exact bioWrite_repays lib n
  refine Restores.bind (by simp) fun s₀ s₁ => ?_
  split
  · rfl
  · split
    · rfl
    · exact withConnection_repays lib true hwrite

theorem tlsNotifyProc_repays (mask : Mask) : Repays (tlsNotifyProc lib mask) s := by
  refine removeTimer_repays.bind fun _ s₁ => Restores.bind (by simp) fun s₂ s₃ => ?_
  split
  · rfl
  · split
    · refine (tlsWaitForConnect_repays lib true).bind fun r s₄ => ?_
      split
      split <;> rfl
    · rfl

theorem handshakeObjCmd_repays (find : String → Option TopChannel) (objv : List String) :
    Repays (handshakeObjCmd lib find objv) s := by
  cases hobjv : namesTls find objv with
  | false =>
      obtain ⟨e, he⟩ := handshakeObjCmd_other lib hobjv
      rw [he]
      rfl
  | true =>
      rw [handshakeObjCmd_eq lib hobjv]
      exact (tlsWaitForConnect_repays lib true).bind fun r s₁ => by simp [handshakeReply]

theorem verifyCallback_repays (ok : Int) (cert : Option String) (depth err : Int) :
    Repays (verifyCallback lib ok cert depth err) s := by
  refine Restores.bind (by simp) fun s₀ s₁ => ?_
  cases s₀.vcmd with
  | none => dsimp only; split <;> rfl
  | some script =>
      cases cert with
      | none => rfl
      | some cert => exact evalCallback_repays lib _

end Pays

/-! ## Opening accounts -/

/-- The account of a new activity.  The handler of a timer has been removed by
the notifier, and `State.timer` still says otherwise; a close is to give the
`State` up. -/
def Activity.opens : Activity → Account
  | .request .timer => { armed := -1 }
  | .request q => { closing := q.closes.toNat }
  | .verify .. | .callback _ => {}

/-- The activities that are covered from the beginning. -/
def Activity.shelters : Activity → Bool
  | .request .timer => true
  | .request q => q.closes
  | .verify .. | .callback _ => false

def Activity.role : Activity → Role
  | .request .timer => { fires := true }
  | .request (.watch _) => { arms := true }
  | _ => {}

theorem Activity.body_restores {x : Activity} (hx : x.shelters = false) {s : State} :
    Restores False x.role 0 0 (x.body lib) s := by
  have hdone : ∀ {α β : Type} {ro : Role} {p : Driver α} (f : α → β), Restores False ro 0 0 p s →
      Restores False ro 0 0 (do let v ← p; pure (f v)) s := fun f hp => hp.bind fun _ _ => rfl
  cases x with
  | verify ok cert depth err => exact hdone _ (verifyCallback_repays lib ok cert depth err)
  | callback cmd => exact hdone _ (evalCallback_repays lib cmd)
  | request q =>
      refine hdone (fun _ => ()) ?_
      cases q with
      | input n => exact hdone _ (tlsInputProc_repays lib n)
      | output n => exact hdone _ (tlsOutputProc_repays lib n)
      | watch mask => exact hdone _ (tlsWatchProc_restores mask)
      | notify mask => exact hdone _ (tlsNotifyProc_repays lib mask)
      | timer => contradiction
      | blockMode nonblocking => simp [Request.proc, tlsBlockModeProc]
      | close => contradiction
      | close2 closeRead closeWrite =>
          have hhalf : ¬(!closeRead && !closeWrite) = true := by
            simpa [shelters, Request.closes] using hx
          rw [Request.proc, tlsClose2Proc, if_neg hhalf]
          rfl
      | handshake find objv => exact hdone _ (handshakeObjCmd_repays lib find objv)

/-- A close gives the `State` up. -/
theorem Request.proc_keeps_of_closes {q : Request} (hq : q.closes = true) {P : Prop} {s : State} :
    (q.proc lib).Keeps (exactTerms P {}) (fun _ a _ => a = {}) ⟨0, 0, 1, 0⟩ s := by
  cases q with
  | close => exact (Program.keeps_bind _ _ _ _ _).mpr tlsCloseProc_keeps
  | close2 closeRead closeWrite =>
      have hboth : (!closeRead && !closeWrite) = true := hq
      rw [proc, tlsClose2Proc, if_pos hboth]
      exact (Program.keeps_bind _ _ _ _ _).mpr tlsCloseProc_keeps
  | _ => contradiction

theorem Activity.opens_of_not_shelters {x : Activity} (hx : x.shelters = false) : x.opens = {} := by
  cases x with
  | request q => cases q <;> simp_all [shelters, opens]
  | _ => rfl

theorem Activity.opens_request {q : Request} (hq : q ≠ .timer) :
    (Activity.request q).opens = { closing := q.closes.toNat } := by
  cases q <;> first
    | contradiction
    | rfl

theorem Activity.shelters_request {q : Request} (hq : q ≠ .timer) :
    (Activity.request q).shelters = q.closes := by
  cases q <;> first
    | contradiction
    | rfl

/-- Every activity counts its references, and closes its account. -/
theorem Activity.body_exact (x : Activity) {P : Prop} {s : State} (hP : P → x.shelters = true)
    (htimer : x = .request .timer → s.timer = true) :
    (x.body lib).Keeps (exactTerms P x.role) (fun _ a _ => a = {}) x.opens s := by
  cases hx : x.shelters with
  | false =>
      obtain rfl : P = False := eq_false fun hp => by simp [hP hp] at hx
      rw [opens_of_not_shelters hx]
      exact body_restores lib hx
  | true =>
      cases x with
      | request q =>
          rw [body, Program.keeps_bind]
          by_cases hq : q = .timer
          · subst hq
            exact (Program.keeps_bind _ _ _ _ _).mpr (tlsChannelHandlerTimer_keeps (htimer rfl))
          · have hcloses : q.closes = true := by cases q <;> simp_all [shelters]
            have hopens : (Activity.request q).opens = ⟨0, 0, 1, 0⟩ := by
              cases q <;> simp_all [opens]
            have hrole : (Activity.request q).role = {} := by
              cases q <;> first
                | contradiction
                | rfl
            rw [hopens, hrole]
            exact q.proc_keeps_of_closes lib hcloses
      | _ => contradiction

/-- Every activity keeps the terms and closes its account; it keeps to its cover
if it has one. -/
theorem Activity.body_keeps (x : Activity) {P : Prop} {s : State} (hP : P → x.shelters = true)
    (htimer : x = .request .timer → s.timer = true) :
    (x.body lib).Keeps (terms P) (fun _ a _ => a = {}) x.opens s :=
  terms_of_exactTerms (x.body_exact lib hP htimer)

end TclTls
