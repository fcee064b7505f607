import TclTls.Attempts
import TclTls.IoContract

/-!
# TclTls.HandshakeFinal

What comes after a failed handshake.

`Tls_WaitForConnect` reports a failure with -1, and what keeps later calls from
trying again is `TLS_TCL_FATAL_ERROR`.  Most failures set it.  An end of file
during the handshake does not, whether the peer says so or the connection just
ends: then the next call of anyone is a new attempt, and may succeed.
`Session.failure_stays_iff` says that this is the only exception.
-/

namespace TclTls

open Interaction
open Interaction.Program (state update)

variable (lib : Platform)

/-! ## Calls of `Tls_WaitForConnect` -/

/-- The call of `Tls_WaitForConnect` that serving the request begins with: its
argument, and the connection it finds. -/
def Request.connectCall (w : Conn) : Request → Option (Bool × Conn)
  | .input _ => if w.st.flags.readsNothing || !w.st.flags.init then none else some (false, w)
  | .output _ =>
      if w.st.flags.callback || w.st.flags.fatalError || !w.st.flags.init then none
      else some (true, w)
  | .notify _ =>
      let w := (w.run removeTimer).2
      if w.st.flags.callback || !w.st.flags.init then none else some (true, w)
  | .handshake find objv => if namesTls find objv then some (true, w) else none
  | .watch _ | .timer | .blockMode _ | .close | .close2 _ _ => none

/-- What that call returns. -/
def Session.waited (c : Session) (step : Step) : Option (Int × Errno) :=
  (step.request.connectCall (c.conn step.answers)).map fun p =>
    (p.2.run (tlsWaitForConnect lib p.1)).1

section Call

variable {w w₀ : Conn} {permanent : Bool}

/-- What follows a failed call at most notes an end of file. -/
def Concludes (k : Int × Errno → Driver Reply) : Prop :=
  ∀ r s, r.1 < 0 → (k r).Safe offWire (fun _ s' =>
    s'.flags.init = s.flags.init ∧ s'.flags.fatalError = s.flags.fatalError) s

theorem withConnection_connectCall (permanent : Bool) (io : Driver (Int × Errno))
    (hinit : w.st.flags.init = true) :
    ∃ k, Concludes k ∧ w.run (withConnection lib permanent io >>= fun r => pure (.moved r)) =
      w.run (tlsWaitForConnect lib permanent >>= k) := by
  refine ⟨fun r => (if r.1 < 0 then
      if r.2 = Errno.econnreset then do
        update fun s => { s with flags.eof := true }
        pure (0, 0)
      else pure (-1, r.2)
    else if r.1 = 0 then pure (-1, r.2)
    else io) >>= fun r => pure (.moved r), fun r s hfail => ?_, by simp [withConnection, hinit]⟩
  by_cases hreset : r.2 = Errno.econnreset <;> simp [hfail, hreset]

/-- Serving the request does go through the call.  What comes before neither
changes the flags nor asks the library for anything. -/
theorem run_proc_connectCall {q : Request} (hq : q.connectCall w = some (permanent, w₀)) :
    w₀.st.flags = w.st.flags ∧ w₀.env.WireEq w.env ∧
      ∃ k, Concludes k ∧ w.run (q.proc lib) = w₀.run (tlsWaitForConnect lib permanent >>= k) := by
  have hquiet : w.env.WireEq w.env := ⟨rfl, rfl, rfl, rfl, rfl⟩
  cases q with
  | input n =>
      simp only [Request.connectCall, Flags.readsNothing, Option.ite_none_left_eq_some,
        Bool.or_eq_true, not_or, Bool.not_eq_true, Option.some.injEq, Prod.mk.injEq] at hq
      obtain ⟨⟨⟨⟨hcallback, hfatal⟩, heof⟩, hinit⟩, rfl, rfl⟩ := hq
      obtain ⟨k, hconcludes, hk⟩ := withConnection_connectCall lib false (do
        let a ← call (.bioRead n)
        inputVerdict lib a.toAnswer) (by simpa using hinit)
      refine ⟨rfl, hquiet, k, hconcludes, ?_⟩
      rw [← hk]
      simp [Request.proc, tlsInputProc, hcallback, hfatal, heof]
  | output n =>
      simp only [Request.connectCall, Option.ite_none_left_eq_some, Bool.or_eq_true, not_or,
        Bool.not_eq_true, Option.some.injEq, Prod.mk.injEq] at hq
      obtain ⟨⟨⟨hcallback, hfatal⟩, hinit⟩, rfl, rfl⟩ := hq
      obtain ⟨k, hconcludes, hk⟩ := withConnection_connectCall lib true
        (if n = 0 then zeroWrite lib else bioWrite lib n) (by simpa using hinit)
      refine ⟨rfl, hquiet, k, hconcludes, ?_⟩
      rw [← hk]
      simp [Request.proc, tlsOutputProc, hcallback, hfatal]
  | notify mask =>
      obtain ⟨hflags, hwire⟩ := run_offWire (w := w) (removeTimer_bystander rfl)
      simp only [Request.connectCall, Option.ite_none_left_eq_some, Bool.or_eq_true, not_or,
        Bool.not_eq_true, Option.some.injEq, Prod.mk.injEq] at hq
      obtain ⟨⟨hcallback, hinit⟩, rfl, rfl⟩ := hq
      have hopen : (w.run removeTimer).2.st.flags.init = true := by simpa using hinit
      refine ⟨hflags, hwire, fun r => do
        let m ← if r.1 < 1 ∧ r.2 = Errno.eagain then pure {} else pure mask
        pure (.events m), fun r s _ => ?_, ?_⟩
      · by_cases hagain : r.1 < 1 ∧ r.2 = Errno.eagain <;> simp [hagain]
      · simp [Request.proc, tlsNotifyProc, hcallback, hopen]
        split <;> rfl
  | handshake find objv =>
      simp only [Request.connectCall, Option.ite_none_right_eq_some, Option.some.injEq,
        Prod.mk.injEq] at hq
      obtain ⟨hobjv, rfl, rfl⟩ := hq
      refine ⟨rfl, hquiet, fun r => do let r ← handshakeReply lib r; pure (.command r),
        fun r s hfail => ?_, ?_⟩
      · by_cases hagain : r.1 ≤ 0 ∧ s.flags.async ∧ r.2 = Errno.eagain <;>
          simp [handshakeReply, Call.wire, hagain, hfail]
      · rw [Request.proc, handshakeObjCmd_eq lib hobjv, Program.bind_assoc]
  | watch mask => contradiction
  | timer => contradiction
  | blockMode nonblocking => contradiction
  | close => contradiction
  | close2 closeRead closeWrite => contradiction

/-- Only an open handshake can fail. -/
theorem connectOutcome_failed {f : Flags} {as : Supply Answer}
    (h : (connectOutcome permanent f as).1.1 = -1) : f.init = true := by
  cases hinit : f.init with
  | true => rfl
  | false =>
      rw [connectOutcome_of_established hinit] at h
      contradiction

/-- What the call returns, and how it leaves the connection if that is -1. -/
theorem Session.waited_eq {c : Session} {step : Step} {r : Int × Errno}
    (h : c.waited lib step = some r) :
    ∃ permanent, r = (connectOutcome permanent c.st.flags step.answers.handshakes).1 ∧
      (r.1 = -1 →
        (c.next lib step).st.flags.init =
          (connectOutcome permanent c.st.flags step.answers.handshakes).2.init ∧
        (c.next lib step).st.flags.fatalError =
          (connectOutcome permanent c.st.flags step.answers.handshakes).2.fatalError) := by
  obtain ⟨⟨permanent, w₀⟩, hcall, hr⟩ := Option.map_eq_some_iff.mp h
  obtain ⟨hflags, hwire, k, hconcludes, hserve⟩ := run_proc_connectCall lib hcall
  obtain ⟨w', hrun, hflags', -⟩ := run_tlsWaitForConnect lib permanent w₀
  rw [hflags, hwire.handshakes] at hrun hflags'
  have hresult : r = (connectOutcome permanent c.st.flags step.answers.handshakes).1 := by
    rw [← hr, hrun]
    rfl
  refine ⟨permanent, hresult, fun hfail => ?_⟩
  obtain ⟨hkeeps, -⟩ := run_offWire (w := w') (hconcludes r w'.st (by omega))
  have hnext : (c.next lib step).st = (w'.run (k r)).2.st := by
    rw [hresult]
    simp [Session.next, Session.serve, hserve, hrun]
    rfl
  rw [hnext]
  rw [hflags'] at hkeeps
  exact hkeeps

end Call

/-! ## After a failure -/

/-- The connection is past its handshake for good: whatever is requested of it,
`Tls_WaitForConnect` returns -1, the library is not asked for a handshake, and
`TLS_TCL_INIT` stays set. -/
structure Session.StaysFailed (c : Session) : Prop where
  returns : ∀ later next r, (c.after lib later).waited lib next = some r → r.1 = -1
  attempts : ∀ later next, ((c.after lib later).serve lib next).2.env.attempts = []
  init : ∀ later, (c.after lib later).st.flags.init = true

/-- The attempt met the end of the stream, and not a failure: the peer sent a
`close_notify`, or the system reports an end of file. -/
def Answer.endOfFile (a : Answer) : Prop :=
  a.code = .zeroReturn ∨ a.code = .syscall ∧ a.err = 0 ∧ a.ret = 0

/-- The handshake is open, and in this step it ends at an end of file. -/
def Session.EndsAtEof (c : Session) (step : Step) : Prop :=
  c.st.flags.init = true ∧ c.st.flags.fatalError = false ∧
    ∃ a ∈ loopOutcome c.st.flags.async 10 step.answers.handshakes, a.endOfFile

/-- A second call of the handshake command, to which the library says yes. -/
def secondTry : Step where
  request := .handshake (fun name => some ⟨name, true⟩) ["tls::handshake", "sock4"]
  answers := readAnswers .wantRead Answer.wantRead_ret

section Failed

variable {s : State}

/-- The flag that matters, and the mark of a fatal error, stay. -/
theorem proc_keeps_failed (q : Request) (hinit : s.flags.init = true)
    (hfatal : s.flags.fatalError = true) :
    (q.proc lib).Safe offWire
      (fun _ s' => s'.flags.init = true ∧ s'.flags.fatalError = true) s := by
  have hbystander : ∀ {α : Type} {p : Driver α} {g : α → Reply},
      p.Safe offWire (fun _ s' => s'.flags = s.flags) s →
      Program.Safe offWire (fun _ s' => s'.flags.init = true ∧ s'.flags.fatalError = true)
        (do let a ← p; pure (g a)) s :=
    fun hp => bystander_bind hp fun _ s' hs' => by simp [hs', hinit, hfatal]
  cases q with
  | input n =>
      refine hbystander ?_
      cases hcallback : s.flags.callback <;> simp [tlsInputProc, hcallback, hfatal]
  | output n =>
      refine hbystander ?_
      cases hcallback : s.flags.callback <;> simp [tlsOutputProc, hcallback, hfatal]
  | watch mask => exact hbystander (tlsWatchProc_bystander mask rfl)
  | notify mask => exact hbystander (tlsNotifyProc_of_fatal lib mask hfatal rfl)
  | timer => exact hbystander (tlsChannelHandlerTimer_bystander rfl)
  | blockMode nonblocking => simp [Request.proc, tlsBlockModeProc, hinit, hfatal]
  | close => exact hbystander (tlsCloseProc_bystander hfatal rfl)
  | close2 closeRead closeWrite =>
      refine hbystander ?_
      unfold tlsClose2Proc
      split
      · exact tlsCloseProc_bystander hfatal rfl
      · rfl
  | handshake find objv => exact hbystander (handshakeObjCmd_of_fatal lib find objv hfatal rfl)

variable {c : Session}

theorem Session.next_failed (hinit : c.st.flags.init = true) (hfatal : c.st.flags.fatalError = true)
    (step : Step) :
    ((c.next lib step).st.flags.init = true ∧ (c.next lib step).st.flags.fatalError = true) ∧
      (c.serve lib step).2.env.attempts = [] := by
  obtain ⟨hflags, hwire⟩ := run_offWire (w := c.conn step.answers)
    (proc_keeps_failed lib step.request hinit hfatal)
  exact ⟨hflags, hwire.attempts⟩

theorem Session.after_failed (hinit : c.st.flags.init = true)
    (hfatal : c.st.flags.fatalError = true) (later : List Step) : (c.after lib later).st.flags.init = true ∧
      (c.after lib later).st.flags.fatalError = true := by
  induction later generalizing c with
  | nil => exact ⟨hinit, hfatal⟩
  | cons step later ih =>
      obtain ⟨⟨hinit', hfatal'⟩, -⟩ := c.next_failed lib hinit hfatal step
      exact ih hinit' hfatal'

/-- A fatal error during the handshake is final. -/
theorem Session.staysFailed_of_fatal (hinit : c.st.flags.init = true)
    (hfatal : c.st.flags.fatalError = true) : c.StaysFailed lib := by
  have hafter := fun later => c.after_failed lib hinit hfatal later
  refine ⟨fun later next r hr => ?_, fun later next => ?_, fun later => (hafter later).1⟩
  · obtain ⟨hinit', hfatal'⟩ := hafter later
    obtain ⟨permanent, rfl, -⟩ := Session.waited_eq lib hr
    rw [connectOutcome_of_fatal hinit' hfatal']
  · obtain ⟨hinit', hfatal'⟩ := hafter later
    exact ((c.after lib later).next_failed lib hinit' hfatal' next).2

/-- Anything else is not: the handshake command tries again, and succeeds if the
library does. -/
theorem Session.not_staysFailed (hinit : c.st.flags.init = true)
    (hfatal : c.st.flags.fatalError = false) : ¬ c.StaysFailed lib := by
  intro hstays
  have hloop : loopOutcome c.st.flags.async 10 secondTry.answers.handshakes =
      some (secondTry.answers.handshakes 0) := by
    cases c.st.flags.async <;> rfl
  obtain ⟨w', hrun, -⟩ := run_tlsWaitForConnect lib true (c.conn secondTry.answers)
  have hone : c.waited lib secondTry = some (1, 0) := by
    have hcall : secondTry.request.connectCall (c.conn secondTry.answers) =
        some (true, c.conn secondTry.answers) := rfl
    have houtcome : connectOutcome true c.st.flags secondTry.answers.handshakes = _ :=
      connectOutcome_of_decided hinit hfatal hloop
    rw [Session.waited, hcall, Option.map_some, hrun]
    exact congrArg (fun o => some o.1) houtcome
  exact absurd (hstays.returns [] secondTry (1, 0) hone) (by decide)

end Failed

/-! ## Which failures stay -/

/-- A failing call leaves the handshake open, and marks the failure unless it met
an end of file. -/
theorem connectOutcome_of_failed {permanent : Bool} {f : Flags} {as : Supply Answer}
    (h : (connectOutcome permanent f as).1.1 = -1) :
    (connectOutcome permanent f as).2.init = true ∧
      ((connectOutcome permanent f as).2.fatalError = false ↔
        f.fatalError = false ∧ ∃ a ∈ loopOutcome f.async 10 as, a.endOfFile) := by
  have hinit := connectOutcome_failed h
  cases hfatal : f.fatalError with
  | true =>
      rw [connectOutcome_of_fatal hinit hfatal]
      simp [hinit, hfatal]
  | false =>
      cases hloop : loopOutcome f.async 10 as with
      | none =>
          rw [connectOutcome_of_waiting hinit hfatal hloop] at h
          contradiction
      | some a =>
          rw [connectOutcome_of_decided hinit hfatal hloop] at h ⊢
          cases hcode : a.code with
          | syscall =>
              by_cases heof : a.err = 0 ∧ a.ret = 0 <;>
                simp [Answer.settle, Answer.endOfFile, hcode, heof, hinit, hfatal]
          | ssl | zeroReturn =>
              simp [Answer.settle, Answer.endOfFile, hcode, hinit, hfatal]
          | _ => simp [Answer.verdict, hcode] at h

/-- A call that fails is final exactly if it did not end at an end of file. -/
theorem Session.staysFailed_iff {c : Session} {step : Step} {r : Int × Errno}
    (hr : c.waited lib step = some r) (hfail : r.1 = -1) :
    (c.next lib step).StaysFailed lib ↔ ¬ c.EndsAtEof step := by
  obtain ⟨permanent, hresult, hflags⟩ := Session.waited_eq lib hr
  obtain ⟨hinit, hfatal⟩ := hflags hfail
  rw [hresult] at hfail
  obtain ⟨hopen, hsoft⟩ := connectOutcome_of_failed hfail
  rw [← hinit] at hopen
  rw [← hfatal] at hsoft
  have hstart := connectOutcome_failed hfail
  cases hnext : (c.next lib step).st.flags.fatalError with
  | true =>
      have hhard : ¬ c.EndsAtEof step := fun heof => by
        rw [hsoft.mpr heof.2] at hnext
        contradiction
      exact iff_of_true (Session.staysFailed_of_fatal lib hopen hnext) hhard
  | false =>
      have heof : c.EndsAtEof step := ⟨hstart, hsoft.mp hnext⟩
      exact iff_of_false (Session.not_staysFailed lib hopen hnext) (not_not_intro heof)

/-- A call that meets an end of file fails. -/
theorem Session.waited_of_endsAtEof {c : Session} {step : Step}
    (hcall : (step.request.connectCall (c.conn step.answers)).isSome = true)
    (heof : c.EndsAtEof step) : ∃ r, c.waited lib step = some r ∧ r.1 = -1 := by
  obtain ⟨p, hp⟩ := Option.isSome_iff_exists.mp hcall
  have hwaited : c.waited lib step = some (p.2.run (tlsWaitForConnect lib p.1)).1 := by
    rw [waited, hp, Option.map_some]
  obtain ⟨permanent, hresult, -⟩ := Session.waited_eq lib hwaited
  obtain ⟨hinit, hfatal, a, hloop, ha⟩ := heof
  rw [connectOutcome_of_decided hinit hfatal hloop] at hresult
  refine ⟨_, hwaited, ?_⟩
  rw [hresult]
  rcases ha with hcode | ⟨hcode, herr, hret⟩
  · simp [Answer.verdict, hcode]
  · simp [Answer.verdict, hcode, herr, hret]

/-- Wherever `Tls_WaitForConnect` returns -1 in the run, that is final. -/
def Session.FailuresStay (c : Session) (run : List Step) : Prop :=
  ∀ before step after r, run = before ++ step :: after →
    (c.after lib before).waited lib step = some r → r.1 = -1 →
    ((c.after lib before).next lib step).StaysFailed lib

/-- **A failed handshake stays failed** in exactly those runs in which no call of
`Tls_WaitForConnect` ends at an end of file. -/
theorem Session.failuresStay_iff (c : Session) (run : List Step) :
    c.FailuresStay lib run ↔ ∀ before step after, run = before ++ step :: after →
      (step.request.connectCall ((c.after lib before).conn step.answers)).isSome = true →
      ¬ (c.after lib before).EndsAtEof step := by
  constructor
  · intro hstay before step after hrun hcall heof
    obtain ⟨r, hr, hfail⟩ := Session.waited_of_endsAtEof lib hcall heof
    exact (Session.staysFailed_iff lib hr hfail).mp (hstay before step after r hrun hr hfail) heof
  · intro hhard before step after r hrun hr hfail
    have hcall :
        (step.request.connectCall ((c.after lib before).conn step.answers)).isSome = true := by
      rw [Session.waited] at hr
      cases hcall : step.request.connectCall ((c.after lib before).conn step.answers) with
      | none => simp [hcall] at hr
      | some p => rfl
    exact (Session.staysFailed_iff lib hr hfail).mpr (hhard before step after hrun hcall)

/-- An attempt that fails with `code` and leaves no error behind. -/
def Answer.failing (code : SslError) (h : code ≠ .none) : Answer :=
  ⟨0, code, 0, 0, false, by simp [h]⟩

/-- A handshake during which the peer closes the connection. -/
def closedByPeer : Step where
  request := .handshake (fun name => some ⟨name, true⟩) ["tls::handshake", "sock4"]
  answers := .steady (.failing .zeroReturn (by decide))
    (Answer.wantRead.toTransfer Answer.wantRead_ret)
    (Answer.wantRead.toTransfer Answer.wantRead_ret) ⟨tclOk, ""⟩

/-- After it a second `tls::handshake` asks the library again, and clears
`TLS_TCL_INIT`. -/
theorem Session.failure_forgotten :
    ¬ ∀ run, freshClient.FailuresStay .plain run := by
  intro hstay
  have hfinal := hstay [closedByPeer] [] closedByPeer [] (-1, Errno.econnreset) rfl rfl rfl
  exact absurd (hfinal.init [secondTry]) (by decide)

end TclTls
