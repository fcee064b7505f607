import TclTls.Interaction.Activation
import TclTls.Session
import TclTls.Verify

/-!
# TclTls.Reentry

A connection whose procedures are re-entered.  During an operation of the SSL
library the verification callback runs, it evaluates a script, the script reads
the channel or enters the event loop, and a second procedure runs on the same
`State` before the first has returned.

`TLS_TCL_CALLBACK` is meant to keep such a second procedure away from the
library.  Four procedures test the flag, but `VerifyCallback` has the two lines
commented out that would set and clear it, and the handshake command has no
test.  What remains are the exits of a connection that has failed, is at its
end of file, or has nothing to establish: `Request.exits`.  Scripts that start
nothing but such requests never nest an operation (`verification_unnested`),
and every other request does (`operation_of_not_exits`).
-/

namespace TclTls

open Interaction
open Interaction.Program (state update)

variable (lib : Platform)

/-! ## Re-entrant connections -/

/-- What can be active on a connection: a request of the generic layer, the
verification callback, and any other callback of the library (`-command`,
session, ALPN, SNI and hello callbacks), which evaluates a script. -/
inductive Activity where
  | request (q : Request)
  | verify (ok : Int) (cert : Option String) (depth err : Int)
  | callback (cmd : Command)

/-- A script or a channel handler runs during the call. -/
def Call.scripted : Call → Bool
  | .evalObj _ | .notifyChannel _ => true
  | _ => false

/-- The code of an activity; its result goes to whoever started it. -/
def Activity.body : Activity → Driver Unit
  | .request q => do let _ ← q.proc lib; pure ()
  | .verify ok cert depth err => do let _ ← verifyCallback lib ok cert depth err; pure ()
  | .callback cmd => do let _ ← evalCallback lib cmd; pure ()

/-- The library calls back while it works on the connection; scripts make
requests. -/
def Activity.startedBy (e : Call) : Activity → Prop
  | .request _ => e.scripted = true
  | .verify .. | .callback _ => e.wire = true

/-- The stack of activities on one connection. -/
abbrev reentrant : Machine State Call.Ans where
  Proc := Activity
  body := Activity.body lib
  starts e a := a.startedBy e

def Activity.verifies : Activity → Prop
  | .verify .. => True
  | _ => False

/-- `SSL_accept`, `SSL_connect`, `BIO_read` and `BIO_write`. -/
def Call.operation : Call → Bool
  | .sslAccept | .sslConnect | .bioRead _ | .bioWrite _ => true
  | _ => false

abbrev SslOperation (e : Call) : Prop := e.operation = true

/-- No operation is under way that was begun during a verification. -/
def Unnested (x : (reentrant lib).Config) : Prop :=
  x.stack.Pairwise fun f g => g.proc.verifies → ¬ f.Awaits SslOperation

/-- On a connection with these flags the request returns before it gets to an
operation. -/
def Request.exits (f : Flags) : Request → Bool
  | .input _ => f.readsNothing
  | .output toWrite => f.callback || f.fatalError || (decide (toWrite = 0) && !f.init)
  | .notify _ => f.callback || !f.init || f.fatalError
  | .handshake find objv => !namesTls find objv || !f.init || f.fatalError
  | .watch _ | .timer | .blockMode _ | .close | .close2 _ _ => true

/-- During a verification only requests are made that return early. -/
def ExitsOnly (s : State) (fs : List (reentrant lib).Activation) : Activity → Prop
  | .request q => (∃ f ∈ fs, f.proc.verifies) → q.exits s.flags = true
  | .verify .. | .callback _ => True

/-! ## Without an operation -/

/-- Makes no operation, and relies on the `State` being left alone by calls
that neither run a script nor call back. -/
def offOperation : Contract State Call.Ans where
  allowed _ e := e.operation = false
  interference e s s' := (e.scripted || e.wire) = false → s = s'

@[simp] theorem offOperation_allowed (s : State) (e : Call) :
    offOperation.allowed s e ↔ e.operation = false := Iff.rfl

@[simp] theorem offOperation_writes (s s' : State) : offOperation.writes s s' := trivial

@[simp] theorem offOperation_answers (e : Call) (r : e.Ans) : offOperation.answers e r := trivial

@[simp] theorem offOperation_interference (e : Call) (s s' : State) :
    offOperation.interference e s s' ↔ ((e.scripted || e.wire) = false → s = s') := Iff.rfl

/-- Code that makes no operation, from whatever state it starts. -/
abbrev NoOperation {α : Type} (p : Driver α) (s : State) : Prop :=
  p.Safe offOperation (fun _ _ => True) s

theorem NoOperation.bind {α β : Type} {p : Driver α} {k : α → Driver β} {s : State}
    (hp : NoOperation p s) (hk : ∀ a s', NoOperation (k a) s') : NoOperation (p >>= k) s := by
  rw [NoOperation, Program.safe_bind]
  exact hp.mono fun a s' _ => hk a s'

section Scripts

variable {s : State}

@[simp] theorem tclRelease_noOperation : NoOperation tclRelease s := by
  simp [NoOperation, tclRelease, tlsFree, tlsClean, Call.operation]

@[simp] theorem tclEventuallyFree_noOperation : NoOperation tclEventuallyFree s := by
  simp [NoOperation, tclEventuallyFree, tlsFree, tlsClean, Call.operation]

@[simp] theorem evalCallback_noOperation (cmd : Command) :
    NoOperation (evalCallback lib cmd) s := by
  simp [NoOperation, evalCallback, Call.operation]

@[simp] theorem tlsError_noOperation (msg : Option String) : NoOperation (tlsError lib msg) s := by
  cases hscript : s.callback <;> cases msg <;> simp [NoOperation, tlsError, Call.operation, hscript]

@[simp] theorem removeTimer_noOperation : NoOperation removeTimer s := by
  simp [NoOperation, removeTimer, Call.operation]

@[simp] theorem inputWaiting_noOperation : NoOperation inputWaiting s := by
  simp [NoOperation, inputWaiting, Call.operation]

@[simp] theorem outputWaiting_noOperation : NoOperation outputWaiting s := by
  simp [NoOperation, outputWaiting, Call.operation]

theorem verifyCallback_noOperation (ok : Int) (cert : Option String) (depth err : Int) :
    NoOperation (verifyCallback lib ok cert depth err) s := by
  cases hvcmd : s.vcmd <;> cases cert <;> simp [NoOperation, verifyCallback, hvcmd]

theorem tlsChannelHandlerTimer_noOperation : NoOperation tlsChannelHandlerTimer s := by
  have hmask : ∀ s' : State, NoOperation timerMask s' := fun s' =>
    outputWaiting_noOperation.bind fun _ _ => inputWaiting_noOperation.bind fun _ _ => trivial
  refine NoOperation.bind trivial fun s₀ s₁ => .bind ⟨trivial, trivial⟩ fun _ s₂ => ?_
  refine (hmask s₂).bind fun mask s₃ => ?_
  simp [Call.operation]

theorem watchPending_noOperation (mask : Mask) : NoOperation (watchPending mask) s := by
  cases mask.readable <;> cases mask.writable <;> simp [NoOperation, watchPending]

theorem renewTimer_noOperation (mask : Mask) : NoOperation (renewTimer mask) s :=
  removeTimer_noOperation.bind fun _ _ => by simp [NoOperation, Call.operation]

theorem tlsWatchProc_noOperation (mask : Mask) : NoOperation (tlsWatchProc mask) s := by
  have hwatch : ∀ s' : State,
      NoOperation (do let _ ← watchPending mask; renewTimer mask) s' := fun s' =>
    (watchPending_noOperation mask).bind fun _ _ => renewTimer_noOperation mask
  simp only [NoOperation, Program.safe_bind] at hwatch
  simp [NoOperation, tlsWatchProc, Call.operation, hwatch]

theorem tlsCloseProc_noOperation : NoOperation tlsCloseProc s := by
  refine NoOperation.bind ?_ fun _ _ => removeTimer_noOperation.bind fun _ _ =>
    tclEventuallyFree_noOperation.bind fun _ _ => trivial
  simp [NoOperation, closeNotify, Call.operation]

end Scripts

/-! ## Requests that return early -/

section Exits

variable {f : Flags} {s : State}

/-- `removeTimer` runs no script, so the flags stay as they are. -/
theorem removeTimer_flags (hs : s.flags = f) :
    removeTimer.Safe offOperation (fun _ s' => s'.flags = f) s := by
  subst hs
  simp [removeTimer, tclRelease, tlsFree, tlsClean, Call.operation, Call.scripted, Call.wire]

theorem tlsNotifyProc_exits {mask : Mask} (hq : (Request.notify mask).exits s.flags = true) :
    NoOperation (tlsNotifyProc lib mask) s := by
  rw [NoOperation, tlsNotifyProc, Program.safe_bind]
  refine (removeTimer_flags rfl).mono fun _ s' hs' => ?_
  simp only [Request.exits, Bool.or_eq_true, Bool.not_eq_true', or_assoc, ← hs'] at hq
  rcases hq with h | h | h
  · simp [h]
  · simp [h]
  · simp [tlsWaitForConnect, h]

theorem tlsInputProc_exits {n : Int} (hq : (Request.input n).exits s.flags = true) :
    NoOperation (tlsInputProc lib n) s := by
  simp only [Request.exits, Flags.readsNothing, Bool.or_eq_true, or_assoc] at hq
  rcases hq with h | h | h <;> simp [NoOperation, tlsInputProc, h]

theorem tlsOutputProc_exits {n : Int} (hq : (Request.output n).exits s.flags = true) :
    NoOperation (tlsOutputProc lib n) s := by
  have hflush : ∀ s' : State, NoOperation (zeroWrite lib) s' := fun s' => by
    simp [NoOperation, zeroWrite, Call.operation]
  simp only [Request.exits, Bool.or_eq_true, Bool.and_eq_true, Bool.not_eq_true',
    decide_eq_true_eq, or_assoc] at hq
  rcases hq with h | h | ⟨rfl, h⟩
  · simp [NoOperation, tlsOutputProc, h]
  · simp [NoOperation, tlsOutputProc, h]
  · simp [NoOperation, tlsOutputProc, withConnection, h, hflush]

theorem handshakeObjCmd_exits {find : String → Option TopChannel} {objv : List String}
    (hq : (Request.handshake find objv).exits s.flags = true) :
    NoOperation (handshakeObjCmd lib find objv) s := by
  have hreply : ∀ r s', NoOperation (handshakeReply lib r) s' := fun r s' => by
    simp [NoOperation, handshakeReply, Call.operation]
  simp only [Request.exits, Bool.or_eq_true, Bool.not_eq_true', or_assoc] at hq
  cases hobjv : namesTls find objv with
  | false =>
      obtain ⟨e, he⟩ := handshakeObjCmd_other lib hobjv
      simp [NoOperation, he]
  | true =>
      have hdone : s.flags.init = false ∨ s.flags.fatalError = true := by simpa [hobjv] using hq
      rw [handshakeObjCmd_eq lib hobjv]
      refine NoOperation.bind ?_ fun r s' => hreply r s'
      rcases hdone with h | h <;> simp [NoOperation, tlsWaitForConnect, h]

/-- A request that exits makes no operation. -/
theorem proc_exits {q : Request} (hq : q.exits s.flags = true) :
    NoOperation (q.proc lib) s := by
  cases q with
  | input n => exact (tlsInputProc_exits lib hq).bind fun _ _ => trivial
  | output n => exact (tlsOutputProc_exits lib hq).bind fun _ _ => trivial
  | watch mask => exact (tlsWatchProc_noOperation mask).bind fun _ _ => trivial
  | notify mask => exact (tlsNotifyProc_exits lib hq).bind fun _ _ => trivial
  | timer => exact tlsChannelHandlerTimer_noOperation.bind fun _ _ => trivial
  | blockMode nonblocking => exact ⟨trivial, trivial⟩
  | close => exact tlsCloseProc_noOperation.bind fun _ _ => trivial
  | close2 closeRead closeWrite =>
      refine NoOperation.bind ?_ fun _ _ => trivial
      unfold tlsClose2Proc
      split
      · exact tlsCloseProc_noOperation
      · trivial
  | handshake find objv => exact (handshakeObjCmd_exits lib hq).bind fun _ _ => trivial

end Exits

/-! ## The `TLS_TCL_CALLBACK` exits -/

/-- The procedures that test `TLS_TCL_CALLBACK`. -/
def Request.testsCallback : Request → Bool
  | .input _ | .output _ | .watch _ | .notify _ => true
  | _ => false

/-- What they return if it is set. -/
def Request.CallbackExit : Request → Reply → Prop
  | .input _, r => r = .moved (0, 0)
  | .output _, r => r = .moved (-1, Errno.eagain)
  | .notify _, r => r = .events {}
  | _, _ => True

theorem proc_callbackExit {q : Request} {s : State} (hq : q.testsCallback = true)
    (hcallback : s.flags.callback = true) :
    (q.proc lib).Safe offWire (fun r s' => q.CallbackExit r ∧ s'.flags = s.flags) s := by
  cases q <;> try contradiction
  case input n => simp [Request.proc, Request.CallbackExit, tlsInputProc, hcallback]
  case output n => simp [Request.proc, Request.CallbackExit, tlsOutputProc, hcallback]
  case watch mask => simp [Request.proc, Request.CallbackExit, tlsWatchProc, hcallback]
  case notify mask =>
      rw [Request.proc, Program.safe_bind]
      refine bystander_bind (removeTimer_bystander rfl) fun _ s' hs' => ?_
      simp [Request.CallbackExit, hs', hcallback]

/-! ## Runs -/

/-- Every activity that is permitted above a verification keeps off the
library's operations, and so does the verification itself. -/
theorem exitsOnly_watch :
    Machine.Watch (ExitsOnly lib) (fun a : Activity => a.verifies) offOperation where
  of_watched a s ha := by
    cases a with
    | verify ok cert depth err =>
        exact (verifyCallback_noOperation lib ok cert depth err).bind fun _ _ => trivial
    | request q => exact ha.elim
    | callback cmd => exact ha.elim
  of_permit s fs a hfs ha := by
    cases a with
    | request q => exact (proc_exits lib (ha hfs)).bind fun _ _ => trivial
    | verify ok cert depth err =>
        exact (verifyCallback_noOperation lib ok cert depth err).bind fun _ _ => trivial
    | callback cmd => exact (evalCallback_noOperation lib cmd).bind fun _ _ => trivial
  answers _ _ := trivial
  interference e s s' h := by
    intro hquiet
    rcases h with h | ⟨a, ha⟩
    · exact h
    · cases a <;> simp_all [Activity.startedBy]

section Issues

variable {s : State}

theorem tlsWaitForConnect_issues (permanent : Bool) (hinit : s.flags.init = true)
    (hfatal : s.flags.fatalError = false) :
    (tlsWaitForConnect lib permanent).Issues SslOperation s := by
  have hattempt : handshakeAttempt.Issues SslOperation s := by
    cases hserver : s.flags.server <;> simp [handshakeAttempt, hserver, SslOperation, Call.operation]
  have hloop : (connectLoop 10).Issues SslOperation s := by
    rw [connectLoop]
    exact hattempt.bind _
  simpa [tlsWaitForConnect, hinit, hfatal] using hloop.bind _

theorem withConnection_issues (permanent : Bool) {p : Driver (Int × Errno)}
    (hfatal : s.flags.fatalError = false)
    (hp : s.flags.init = false → p.Issues SslOperation s) :
    (withConnection lib permanent p).Issues SslOperation s := by
  cases hinit : s.flags.init with
  | false => simpa [withConnection, hinit] using hp hinit
  | true =>
      simpa [withConnection, hinit] using (tlsWaitForConnect_issues lib permanent hinit hfatal).bind _

theorem removeTimer_issues {α : Type} {k : Unit → Driver α}
    (hk : ∀ s' : State, s'.flags = s.flags → (k ()).Issues SslOperation s') :
    (removeTimer >>= k).Issues SslOperation s := by
  cases htimer : s.timer with
  | false => simpa [removeTimer, Program.bind_assoc, htimer] using hk s rfl
  | true =>
      -- the reference the timer held is not the last one
      have hrelease : (tclRelease >>= k).Issues SslOperation { s with timer := false } :=
        .inr ⟨false, hk _ rfl⟩
      simpa [removeTimer, Program.bind_assoc, htimer, SslOperation, Call.operation] using hrelease

theorem proc_issues {q : Request} (hq : q.exits s.flags = false) :
    (q.proc lib).Issues SslOperation s := by
  cases q with
  | input n =>
      simp only [Request.exits, Flags.readsNothing, Bool.or_eq_false_iff] at hq
      refine Program.Issues.bind _ ?_
      have hio := withConnection_issues lib false (p := do
        let a ← call (.bioRead n)
        inputVerdict lib a.toAnswer) hq.1.2 fun _ => .inl rfl
      simpa [tlsInputProc, hq] using hio
  | output n =>
      simp only [Request.exits, Bool.or_eq_false_iff, Bool.and_eq_false_iff, Bool.not_eq_false',
        decide_eq_false_iff_not] at hq
      obtain ⟨⟨hcallback, hfatal⟩, hwrite⟩ := hq
      refine Program.Issues.bind _ ?_
      have hio := withConnection_issues lib true
        (p := if n = 0 then zeroWrite lib else bioWrite lib n) hfatal fun hinit => by
          rw [if_neg (by simpa [hinit] using hwrite)]
          exact .inl rfl
      simpa [tlsOutputProc, hcallback, hfatal] using hio
  | notify mask =>
      simp only [Request.exits, Bool.or_eq_false_iff, Bool.not_eq_false'] at hq
      obtain ⟨⟨hcallback, hinit⟩, hfatal⟩ := hq
      refine Program.Issues.bind _ (removeTimer_issues fun s' hs' => ?_)
      rw [← hs'] at hcallback hinit hfatal
      simpa [hcallback, hinit] using (tlsWaitForConnect_issues lib true hinit hfatal).bind _
  | handshake find objv =>
      simp only [Request.exits, Bool.or_eq_false_iff, Bool.not_eq_false'] at hq
      obtain ⟨⟨hobjv, hinit⟩, hfatal⟩ := hq
      refine Program.Issues.bind _ ?_
      rw [handshakeObjCmd_eq lib hobjv]
      exact (tlsWaitForConnect_issues lib true hinit hfatal).bind _
  | watch mask => contradiction
  | timer => contradiction
  | blockMode nonblocking => contradiction
  | close => contradiction
  | close2 closeRead closeWrite => contradiction

end Issues

/-- **Any other request nests an operation.**  A request that does not exit,
made by a script during a verification, can go on to an operation. -/
theorem operation_of_not_exits {s : State} {a : Activity} {e : Call} {k : e.Ans → Driver Unit}
    {fs : List (reentrant lib).Activation} {q : Request}
    (hverifies : ∃ f ∈ (⟨a, .pending e k⟩ :: fs : List (reentrant lib).Activation), f.proc.verifies)
    (hscripted : e.scripted = true) (hq : q.exits s.flags = false) :
    ∃ y : (reentrant lib).Config,
      Machine.Run (fun _ _ _ => True) ⟨s, ⟨a, .pending e k⟩ :: fs⟩ y ∧ ¬ Unnested lib y := by
  have hissues : (Activity.body lib (.request q)).Issues SslOperation s := (proc_issues lib hq).bind _
  obtain ⟨s', stage, hrun, hawaits⟩ :=
    Machine.run_of_issues (m := reentrant lib) (fun _ _ _ => True) (q := .request q) hissues
  refine ⟨_, .head (.start (m := reentrant lib) (.request q) hscripted trivial) hrun, ?_⟩
  intro hunnested
  obtain ⟨f, hf, hverifies⟩ := hverifies
  exact List.rel_of_pairwise_cons hunnested hf hverifies hawaits

/-! ## A script that reads -/

/-- A client with a `-validatecommand` script that has not begun its handshake. -/
def validatingClient : State := { flags := { init := true }, vcmd := some "check" }

/-- Its handshake gets to the point where the script checks a certificate. -/
theorem verification_begins (permit : (reentrant .plain).Permit)
    (hpermit : ∀ s fs, permit s fs (.verify 0 (some "") 0 18)) :
    ∃ cmd k fs, Machine.Run permit ⟨validatingClient, []⟩
      ⟨validatingClient, ⟨.verify 0 (some "") 0 18, .pending (.evalObj cmd) k⟩ :: fs⟩ := by
  exact ⟨_, _, _, .head (.begin (m := reentrant .plain)
      (.request (.handshake (fun name => some ⟨name, true⟩) ["tls::handshake", "sock4"])))
    (.trans (Machine.run_issue rfl)
      (.head (.start (m := reentrant .plain) (.verify 0 (some "") 0 18) rfl (hpermit _ _))
        (.trans (Machine.run_issue rfl) (.head (.answer ()) (Machine.run_issue rfl)))))⟩

end TclTls
