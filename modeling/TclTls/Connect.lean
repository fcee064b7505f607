import TclTls.Callback

/-!
# TclTls.Connect

`Tls_WaitForConnect`: drive the handshake until it is established, has failed,
or has to be continued later.

The source is one loop and one switch.  Here the loop is `connectLoop`, which
makes attempts until one of them is *decisive*, and the switch is
`connectVerdict`, which turns the decisive attempt into the result and the new
flags.  Both are then described without the program: `decisive` picks the
attempt out of the library's answers, `Answer.verdict` and `Answer.settle` give
the result and the flags, and `run_tlsWaitForConnect` says that this is what
the procedure does.
-/

namespace TclTls

open Interaction
open Interaction.Program (state update safe_bind safe_update)

variable (lib : Platform)

/-! ## One attempt -/

/-- `bioShouldRetry` after the attempt: the BIO's retry flag, or a code that
means the operation has to be repeated. -/
def Answer.again (a : Answer) : Bool :=
  a.retry || (decide (a.ret ≤ 0) &&
    match a.code with
    | .wantConnect | .wantAccept | .wantRead | .wantWrite => true
    | _ => false)

/-- The interest `statePtr->want` after an attempt that ended with this code. -/
def SslError.note : SslError → Mask → Mask
  | .wantRead, m => { m with readable := true }
  | .wantWrite, m => { m with writable := true }
  | _, m => m

/-- `SSL_accept` or `SSL_connect`, the flush after a successful one, and the
wants noted from an unsuccessful one. -/
def handshakeAttempt : Driver Answer := do
  let s ← state
  let a ← if s.flags.server then call .sslAccept else call .sslConnect
  if 0 < a.ret then
    let _ ← call .bioFlush
  else
    update fun s => { s with want := a.code.note s.want }
  pure a

/-- The `for (;;)` loop, `retries` more times on a blocking channel.  Returns
the attempt that ended it, or `none` when a nonblocking channel has to come
back later. -/
def connectLoop (retries : Nat) : Driver (Option Answer) := do
  let a ← handshakeAttempt
  if a.again then
    let s ← state
    if s.flags.async then
      pure none
    else
      match retries with
      | 0 => pure (some a)
      | retries + 1 => do
          call (.sleep 50)
          connectLoop retries
  else
    pure (some a)

/-! ## The switch on the error code -/

/-- What is reported for `SSL_ERROR_SSL`: a failed verification, then the first
entry of the error queue. -/
def connectReport (a : Answer) : Driver Unit := do
  let v ← call .getVerifyResult
  if v ≠ x509Ok then
    tlsError lib (some (lib.verifyErrorString v))
  if a.err ≠ 0 then
    tlsError lib (lib.reasonString a.err)

/-- The switch over `SSL_get_error`: result and `*errorCodePtr`. -/
def connectVerdict (a : Answer) : Driver (Int × Errno) :=
  match a.code with
  | .none => do
      update fun s => { s with flags.init := false }
      pure (1, 0)
  | .ssl => do
      connectReport lib a
      update fun s => { s with flags.fatalError := true, flags.eof := true }
      pure (-1, Errno.econnaborted)
  | .wantRead => do
      update fun s => { s with want.readable := true }
      pure (0, Errno.eagain)
  | .wantWrite => do
      update fun s => { s with want.writable := true }
      pure (0, Errno.eagain)
  | .syscall =>
      if a.err = 0 ∧ a.ret = 0 then do
        tlsError lib (some "(unexpected) EOF reached")
        update fun s => { s with flags.eof := true }
        pure (-1, Errno.econnreset)
      else do
        let errno := if a.errno = Errno.econnreset then Errno.econnaborted else a.errno
        update fun s => { s with flags.fatalError := true }
        if a.err = 0 ∧ a.ret = -1 then
          tlsError lib (some (lib.errnoMsg errno))
        else
          tlsError lib (lib.reasonString a.err)
        update fun s => { s with flags.eof := true }
        pure (-1, errno)
  | .zeroReturn => do
      update fun s => { s with flags.eof := true }
      tlsError lib (some "Peer has closed the connection for writing by sending the close_notify alert")
      pure (-1, Errno.econnreset)
  -- WANT_X509_LOOKUP, WANT_CONNECT, WANT_ACCEPT, the asynchronous codes and the unknown ones
  | _ => pure (0, Errno.eagain)

/-- `Tls_WaitForConnect`: 1 if established, 0 if waiting, -1 if failed, with
the POSIX error code. -/
def tlsWaitForConnect (handshakeFailureIsPermanent : Bool) : Driver (Int × Errno) := do
  let s ← state
  if !s.flags.init then
    pure (1, 0)
  else if s.flags.fatalError then
    if handshakeFailureIsPermanent then pure (-1, Errno.econnaborted)
    else pure (-1, Errno.econnreset)
  else
    match ← connectLoop 10 with
    | none => pure (0, Errno.eagain)
    | some a => connectVerdict lib a

/-! ## Data

The handshake moves no application data, and what is in store of it stays. -/

/-- Moves application data. -/
def Call.data : Call → Bool
  | .bioRead _ | .bioWrite _ => true
  | _ => false

/-- Moves no data. -/
def offData : Contract State Call.Ans where
  allowed _ e := e.data = false

@[simp] theorem offData_allowed (s : State) (e : Call) :
    offData.allowed s e ↔ e.data = false := Iff.rfl

@[simp] theorem offData_writes (s s' : State) : offData.writes s s' := trivial

@[simp] theorem offData_answers (e : Call) (r : e.Ans) : offData.answers e r := trivial

@[simp] theorem offData_interference (e : Call) (s s' : State) :
    offData.interference e s s' ↔ s = s' := Iff.rfl

/-- The part of the log that moved application data. -/
def Env.dataLog (g : Env) : List Event := g.log.filter (·.call.data)

/-- No data was moved, and none that is in store was used up. -/
structure Env.DataEq (g g' : Env) : Prop where
  reads : g.answers.reads = g'.answers.reads
  writes : g.answers.writes = g'.answers.writes
  dataLog : g.dataLog = g'.dataLog

theorem Env.DataEq.refl (g : Env) : g.DataEq g := ⟨rfl, rfl, rfl⟩

theorem Env.DataEq.trans {g g' g'' : Env} (h : g.DataEq g') (h' : g'.DataEq g'') :
    g.DataEq g'' :=
  ⟨h.reads.trans h'.reads, h.writes.trans h'.writes, h.dataLog.trans h'.dataLog⟩

theorem Env.DataEq.respond {g g' : Env} {e : Call} (h : g.DataEq g') (he : e.data = false) :
    (Env.respond e g).2.DataEq g' := by
  have hlog : (Env.respond e g).2.dataLog = g.dataLog := by simp [Env.dataLog, he]
  cases e <;> first
    | contradiction
    | exact ⟨h.reads, h.writes, hlog.trans h.dataLog⟩

/-- Code that moves no data leaves the data as it was. -/
theorem run_offData {α : Type} {p : Driver α} {w : Conn} {Q : α → State → Prop}
    (hp : p.Safe offData Q w.st) :
    Q (w.run p).1 (w.run p).2.st ∧ (w.run p).2.env.DataEq w.env :=
  Program.run_of_safe (P := fun g => g.DataEq w.env)
    (fun _ _ _ he hP => ⟨trivial, hP.respond he⟩) (fun _ _ => rfl) hp ⟨rfl, rfl, rfl⟩

/-- Code that keeps off the wire moves no data. -/
theorem offData_of_offWire {α : Type} {p : Driver α} {Q : α → State → Prop} {s : State}
    (hp : p.Safe offWire Q s) : p.Safe offData Q s := by
  refine hp.weaken (fun _ e he => ?_) (fun _ _ h => h) (fun _ _ h => h) (fun _ _ _ h => h)
  cases e <;> first
    | rfl
    | contradiction

/-! ## What the loop does

A blocking channel makes up to eleven attempts, an asynchronous one a single
one.  Neither touches the flags. -/

/-- The attempt that ends the loop of a blocking channel. -/
def decisive : Nat → Supply Answer → Answer
  | 0, as => as 0
  | retries + 1, as => if (as 0).again then decisive retries as.rest else as 0

/-- What the loop ends with. -/
def loopOutcome (async : Bool) (retries : Nat) (as : Supply Answer) : Option Answer :=
  if async then if (as 0).again then none else some (as 0)
  else some (decisive retries as)

theorem handshakeAttempt_offData {f : Flags} {s : State} (hs : s.flags = f) :
    handshakeAttempt.Safe offData (fun _ s' => s'.flags = f) s := by
  simp [handshakeAttempt, Call.data, hs]

theorem connectLoop_offData (retries : Nat) {f : Flags} {s : State} (hs : s.flags = f) :
    (connectLoop retries).Safe offData (fun _ s' => s'.flags = f) s := by
  induction retries generalizing s with
  | zero =>
      rw [connectLoop, safe_bind]
      refine (handshakeAttempt_offData hs).mono fun a s' hs' => ?_
      cases a.again <;> cases s'.flags.async <;> simp [hs']
  | succ retries ih =>
      rw [connectLoop, safe_bind]
      refine (handshakeAttempt_offData hs).mono fun a s' hs' => ?_
      cases a.again <;> cases s'.flags.async <;> simp [hs', Call.data, ih hs']

@[simp] theorem run_handshakeAttempt (w : Conn) :
    (w.run handshakeAttempt).1 = w.env.answers.handshakes 0 := by
  cases hserver : w.st.flags.server <;>
    by_cases hret : 0 < (w.env.answers.handshakes 0).ret <;>
    simp [handshakeAttempt, hserver, hret]

@[simp] theorem run_handshakeAttempt_handshakes (w : Conn) :
    (w.run handshakeAttempt).2.env.answers.handshakes = w.env.answers.handshakes.rest := by
  cases hserver : w.st.flags.server <;>
    by_cases hret : 0 < (w.env.answers.handshakes 0).ret <;>
    simp [handshakeAttempt, hserver, hret]

@[simp] theorem run_handshakeAttempt_flags (w : Conn) :
    (w.run handshakeAttempt).2.st.flags = w.st.flags :=
  (run_offData (handshakeAttempt_offData rfl)).1

theorem run_connectLoop (retries : Nat) (w : Conn) :
    (w.run (connectLoop retries)).1 =
      loopOutcome w.st.flags.async retries w.env.answers.handshakes := by
  induction retries generalizing w with
  | zero =>
      rw [connectLoop]
      cases ha : (w.env.answers.handshakes 0).again <;> cases hasync : w.st.flags.async <;>
        simp [loopOutcome, decisive, ha, hasync]
  | succ retries ih =>
      rw [connectLoop]
      cases ha : (w.env.answers.handshakes 0).again <;> cases hasync : w.st.flags.async <;>
        simp [loopOutcome, decisive, ha, hasync, ih]

/-! ## What the switch does -/

/-- `errno` as the handshake reports it: a reset by the peer counts as an abort. -/
def Answer.sysErrno (a : Answer) : Errno :=
  if a.errno = Errno.econnreset then Errno.econnaborted else a.errno

/-- Result and error code of a decisive attempt. -/
def Answer.verdict (a : Answer) : Int × Errno :=
  match a.code with
  | .none => (1, 0)
  | .ssl => (-1, Errno.econnaborted)
  | .syscall => if a.err = 0 ∧ a.ret = 0 then (-1, Errno.econnreset) else (-1, a.sysErrno)
  | .zeroReturn => (-1, Errno.econnreset)
  | _ => (0, Errno.eagain)

/-- The flags after a decisive attempt. -/
def Answer.settle (a : Answer) (f : Flags) : Flags :=
  match a.code with
  | .none => { f with init := false }
  | .ssl => { f with fatalError := true, eof := true }
  | .syscall =>
      if a.err = 0 ∧ a.ret = 0 then { f with eof := true }
      else { f with fatalError := true, eof := true }
  | .zeroReturn => { f with eof := true }
  | _ => f

@[simp] theorem Answer.settle_async (a : Answer) (f : Flags) : (a.settle f).async = f.async := by
  cases hcode : a.code <;> simp [Answer.settle, hcode]
  split <;> rfl

theorem connectReport_bystander (a : Answer) {f : Flags} {s : State} (hs : s.flags = f) :
    (connectReport lib a).Safe offWire (fun _ s' => s'.flags = f) s := by
  refine bystander_bind (f := f) (by simp [Call.wire, hs]) fun v s₁ hs₁ => ?_
  have hlast : ∀ s' : State, s'.flags = f →
      Program.Safe offWire (fun _ s' => s'.flags = f)
        (if a.err ≠ 0 then tlsError lib (lib.reasonString a.err) else pure ()) s' := by
    intro s' hs'
    by_cases herr : a.err = 0 <;> simp [herr, hs']
  by_cases hv : v ≠ x509Ok
  · rw [if_pos hv]
    exact bystander_bind (tlsError_bystander lib _ hs₁) fun _ s' hs' => hlast s' hs'
  · rw [if_neg hv]
    exact hlast s₁ hs₁

theorem connectVerdict_offWire (a : Answer) {f : Flags} {s : State} (hs : s.flags = f) :
    (connectVerdict lib a).Safe offWire (fun r s' => r = a.verdict ∧ s'.flags = a.settle f) s := by
  cases hcode : a.code with
  | ssl =>
      simp only [connectVerdict, Answer.verdict, Answer.settle, hcode]
      refine bystander_bind (connectReport_bystander lib a hs) fun _ s' hs' => ?_
      simp [hs']
  | syscall =>
      by_cases heof : a.err = 0 ∧ a.ret = 0
      · simp only [connectVerdict, Answer.verdict, Answer.settle, hcode, if_pos heof]
        refine bystander_bind (tlsError_bystander lib _ hs) fun _ s' hs' => ?_
        simp [hs']
      · simp only [connectVerdict, Answer.verdict, Answer.settle, hcode, if_neg heof]
        rw [safe_bind, safe_update]
        refine ⟨trivial, ?_⟩
        split
        all_goals
          refine bystander_bind (tlsError_bystander lib _ rfl) fun _ s' hs' => ?_
          simp [hs', hs, Answer.sysErrno]
  | _ => simp [connectVerdict, Answer.verdict, Answer.settle, hcode, hs]

/-! ## What the procedure does -/

/-- Result, error code and flags of `Tls_WaitForConnect`, read off the flags it
starts with and the library's answers. -/
def connectOutcome (permanent : Bool) (f : Flags) (as : Supply Answer) : (Int × Errno) × Flags :=
  if f.init = false then ((1, 0), f)
  else if f.fatalError then
    ((-1, if permanent then Errno.econnaborted else Errno.econnreset), f)
  else
    match loopOutcome f.async 10 as with
    | none => ((0, Errno.eagain), f)
    | some a => (a.verdict, a.settle f)

section Outcome

variable {permanent : Bool} {f : Flags} {as : Supply Answer}

theorem connectOutcome_of_established (hinit : f.init = false) :
    connectOutcome permanent f as = ((1, 0), f) := by
  rw [connectOutcome, if_pos hinit]

theorem connectOutcome_of_fatal (hinit : f.init = true) (hfatal : f.fatalError = true) :
    connectOutcome permanent f as =
      ((-1, if permanent then Errno.econnaborted else Errno.econnreset), f) := by
  have hopen : ¬ f.init = false := by simp [hinit]
  rw [connectOutcome, if_neg hopen, if_pos hfatal]

/-- A nonblocking channel has to come back later. -/
theorem connectOutcome_of_waiting (hinit : f.init = true) (hfatal : f.fatalError = false)
    (hloop : loopOutcome f.async 10 as = none) :
    connectOutcome permanent f as = ((0, Errno.eagain), f) := by
  have hopen : ¬ f.init = false := by simp [hinit]
  have hsound : ¬ f.fatalError = true := by simp [hfatal]
  rw [connectOutcome, if_neg hopen, if_neg hsound, hloop]

theorem connectOutcome_of_decided (hinit : f.init = true) (hfatal : f.fatalError = false)
    {a : Answer} (hloop : loopOutcome f.async 10 as = some a) :
    connectOutcome permanent f as = (a.verdict, a.settle f) := by
  have hopen : ¬ f.init = false := by simp [hinit]
  have hsound : ¬ f.fatalError = true := by simp [hfatal]
  rw [connectOutcome, if_neg hopen, if_neg hsound, hloop]

end Outcome

/-- **`Tls_WaitForConnect`** ends as `connectOutcome` says and moves no data. -/
theorem run_tlsWaitForConnect (permanent : Bool) (w : Conn) :
    ∃ w' : Conn, w.run (tlsWaitForConnect lib permanent) =
        ((connectOutcome permanent w.st.flags w.env.answers.handshakes).1, w') ∧
      w'.st.flags = (connectOutcome permanent w.st.flags w.env.answers.handshakes).2 ∧
      w'.env.DataEq w.env := by
  cases hinit : w.st.flags.init with
  | false =>
      rw [connectOutcome_of_established hinit]
      exact ⟨w, by simp [tlsWaitForConnect, hinit], rfl, .refl _⟩
  | true =>
      cases hfatal : w.st.flags.fatalError with
      | true =>
          rw [connectOutcome_of_fatal hinit hfatal]
          exact ⟨w, by cases permanent <;> simp [tlsWaitForConnect, hinit, hfatal], rfl, .refl _⟩
      | false =>
          obtain ⟨hflags, hdata⟩ := run_offData (w := w) (connectLoop_offData 10 rfl)
          have hloop := run_connectLoop 10 w
          cases hrun : w.run (connectLoop 10) with | mk o w₁
          rw [hrun] at hflags hdata hloop
          cases o with
          | none =>
              rw [connectOutcome_of_waiting hinit hfatal hloop.symm]
              exact ⟨w₁, by simp [tlsWaitForConnect, hinit, hfatal, hrun], hflags, hdata⟩
          | some a =>
              rw [connectOutcome_of_decided hinit hfatal hloop.symm]
              obtain ⟨⟨hresult, hsettle⟩, hdata'⟩ :=
                run_offData (w := w₁) (offData_of_offWire (connectVerdict_offWire lib a hflags))
              refine ⟨(w₁.run (connectVerdict lib a)).2, ?_, hsettle, hdata'.trans hdata⟩
              rw [← hresult]
              simp [tlsWaitForConnect, hinit, hfatal, hrun]

end TclTls
