import TclTls.Connect

/-!
# TclTls.Handshake

`HandshakeObjCmd`, the command `tls::handshake`.

The manual gives it three outcomes: 1 when the handshake is complete, 0 when a
nonblocking channel is still at it, an error when it failed.  The command
derives them from the result and the error code of `Tls_WaitForConnect`, and
`handshakeObjCmd_truthful_iff` says when that derivation is right: it is not
for a blocking channel that ran out of retries, and not for a nonblocking one
that failed with `EAGAIN` or had reached its end of file before.
-/

namespace TclTls

open Interaction
open Interaction.Program (state update)

variable (lib : Platform)

/-! ## The command -/

/-- What `Tcl_GetChannel` and `Tcl_GetTopChannel` find under a name: the name of
the topmost channel and whether its type is `Tls_ChannelType()`. -/
structure TopChannel where
  name : String
  tls : Bool
deriving DecidableEq, Repr

/-- The error of a failed handshake: the noted message or else the POSIX one,
and the verify result unless it is `X509_V_OK`. -/
def handshakeFailure (note : Option String) (errno : Errno) (verify : Int) : TclError :=
  let errStr := match note with
    | none | some "" => lib.posixError errno
    | some text => text
  let reason :=
    if verify ≠ x509Ok then " due to \"" ++ lib.verifyErrorString verify ++ "\"" else ""
  ⟨"handshake failed: " ++ errStr ++ reason, ["TLS", "HANDSHAKE", "FAILED"]⟩

/-- What the command makes of the result of `Tls_WaitForConnect`. -/
def handshakeReply (r : Int × Errno) : Driver (Except TclError Int) := do
  let s ← state
  if r.1 ≤ 0 ∧ s.flags.async ∧ r.2 = Errno.eagain then
    pure (.ok 0)
  else if r.1 < 0 then do
    let result ← call .getVerifyResult
    pure (.error (handshakeFailure lib s.err r.2 result))
  else
    pure (.ok 1)

/-- `HandshakeObjCmd` with the arguments `objv`. -/
def handshakeObjCmd (find : String → Option TopChannel) (objv : List String) :
    Driver (Except TclError Int) :=
  match objv with
  | [_, name] =>
      match find name with
      | none => pure (.error (.noChannel name))
      | some chan =>
          if chan.tls then do
            let r ← tlsWaitForConnect lib true
            handshakeReply lib r
          else
            pure (.error (.notTls "HANDSHAKE" chan.name))
  | _ => pure (.error (.wrongArgs (objv.headD "" ++ " channel")))

/-- The arguments name one channel, and its topmost layer is a TLS one. -/
def namesTls (find : String → Option TopChannel) : List String → Bool
  | [_, name] => (find name).any (·.tls)
  | _ => false

/-- On a TLS channel the command replies to `Tls_WaitForConnect`. -/
theorem handshakeObjCmd_eq {find : String → Option TopChannel} {objv : List String}
    (hobjv : namesTls find objv = true) :
    handshakeObjCmd lib find objv = tlsWaitForConnect lib true >>= handshakeReply lib := by
  unfold namesTls at hobjv
  split at hobjv
  next name =>
    obtain ⟨chan, hfind, htls⟩ := (Option.any_eq_true _ _).mp hobjv
    simp [handshakeObjCmd, hfind, htls]
  next => contradiction

/-- Any other arguments are an error, and the connection is left alone. -/
theorem handshakeObjCmd_other {find : String → Option TopChannel} {objv : List String}
    (hobjv : namesTls find objv = false) :
    ∃ e, handshakeObjCmd lib find objv = pure (.error e) := by
  unfold handshakeObjCmd
  split
  next name =>
    cases hfind : find name with
    | none => exact ⟨_, rfl⟩
    | some chan =>
        have htls : chan.tls = false := by simpa [namesTls, hfind] using hobjv
        exact ⟨.notTls "HANDSHAKE" chan.name, by simp [htls]⟩
  next => exact ⟨_, rfl⟩

/-! ## What the command says -/

/-- The result agrees with the flags the command leaves. -/
structure HandshakeTruthful (r : Except TclError Int) (f : Flags) : Prop where
  of_one : r = .ok 1 → f.init = false
  of_zero : r = .ok 0 → f.init = true ∧ f.fatalError = false ∧ f.eof = false
  one_or_zero : ∀ n, r = .ok n → n = 1 ∨ n = 0

/-- The code settles the handshake: it is established or has failed. -/
def SslError.final : SslError → Bool
  | .none | .ssl | .syscall | .zeroReturn => true
  | _ => false

/-- The attempt failed in the system, with `EAGAIN` for an error code. -/
def Answer.failedAgain (a : Answer) : Prop :=
  a.code = .syscall ∧ ¬(a.err = 0 ∧ a.ret = 0) ∧ a.errno = Errno.eagain

/-- The connections and answers for which the command tells the truth: there is
nothing to do, or a blocking channel ends with a final code, or a nonblocking
one has not reached its end of file when it has to wait and does not fail with
`EAGAIN`. -/
def HandshakeSettled (f : Flags) (as : Supply Answer) : Prop :=
  f.init = false ∨ f.fatalError = true ∨
    if f.async then
      if (as 0).again ∨ (as 0).code.final = false then f.eof = false else ¬(as 0).failedAgain
    else (decisive 10 as).code.final = true

/-- The value the command returns, `none` for an error. -/
def handshakeStatus (async : Bool) (r : Int × Errno) : Option Int :=
  if r.1 ≤ 0 ∧ async ∧ r.2 = Errno.eagain then some 0
  else if r.1 < 0 then none
  else some 1

theorem run_handshakeReply (r : Int × Errno) (w : Conn) :
    ∃ e w', w.run (handshakeReply lib r) =
        ((handshakeStatus w.st.flags.async r).elim (.error e) .ok, w') ∧
      w'.st.flags = w.st.flags := by
  unfold handshakeReply handshakeStatus
  by_cases hagain : r.1 ≤ 0 ∧ w.st.flags.async ∧ r.2 = Errno.eagain
  · exact ⟨default, w, by simp [hagain]⟩
  · by_cases hfail : r.1 < 0
    · refine ⟨handshakeFailure lib w.st.err r.2 (w.env.answers.verifyResults 0),
        ⟨w.st, (Env.respond .getVerifyResult w.env).2⟩, ?_, rfl⟩
      simp [hagain, hfail]
    · exact ⟨default, w, by simp [hagain, hfail]⟩

theorem run_handshakeObjCmd {find : String → Option TopChannel} {objv : List String}
    (hobjv : namesTls find objv = true) (w : Conn) :
    ∃ e w', w.run (handshakeObjCmd lib find objv) =
        ((handshakeStatus (connectOutcome true w.st.flags w.env.answers.handshakes).2.async
          (connectOutcome true w.st.flags w.env.answers.handshakes).1).elim (.error e) .ok, w') ∧
      w'.st.flags = (connectOutcome true w.st.flags w.env.answers.handshakes).2 := by
  obtain ⟨w₁, hconnect, hflags, -⟩ := run_tlsWaitForConnect lib true w
  obtain ⟨e, w', hreply, hflags'⟩ :=
    run_handshakeReply lib (connectOutcome true w.st.flags w.env.answers.handshakes).1 w₁
  refine ⟨e, w', ?_, by rw [hflags', hflags]⟩
  rw [handshakeObjCmd_eq lib hobjv]
  simp [hconnect, hreply, hflags]

theorem handshakeTruthful_status_iff (r : Int × Errno) (e : TclError) (f : Flags) :
    HandshakeTruthful ((handshakeStatus f.async r).elim (.error e) .ok) f ↔
      if r.1 ≤ 0 ∧ f.async ∧ r.2 = Errno.eagain then
        f.init = true ∧ f.fatalError = false ∧ f.eof = false
      else r.1 < 0 ∨ f.init = false := by
  unfold handshakeStatus
  by_cases hagain : r.1 ≤ 0 ∧ f.async ∧ r.2 = Errno.eagain
  · rw [if_pos hagain, if_pos hagain]
    constructor
    · intro h
      exact h.of_zero rfl
    · intro h
      exact ⟨fun h1 => by simp at h1, fun _ => h, fun n hn => .inr (by simpa using hn.symm)⟩
  · rw [if_neg hagain, if_neg hagain]
    by_cases hfail : r.1 < 0
    · rw [if_pos hfail]
      exact iff_of_true ⟨fun h => by simp at h, fun h => by simp at h, fun n h => by simp at h⟩
        (.inl hfail)
    · rw [if_neg hfail]
      constructor
      · intro h
        exact .inr (h.of_one rfl)
      · rintro (h | h)
        · exact absurd h hfail
        · exact ⟨fun _ => h, fun h0 => by simp at h0, fun n hn => .inl (by simpa using hn.symm)⟩

/-- A blocking channel reports a failure or is established exactly after a final code. -/
theorem verdict_final_iff (a : Answer) {f : Flags} (hinit : f.init = true) :
    a.verdict.1 < 0 ∨ (a.settle f).init = false ↔ a.code.final = true := by
  cases hcode : a.code <;> simp [Answer.verdict, Answer.settle, SslError.final, hcode, hinit]
  split <;> simp

/-- `EAGAIN` comes from a code that is not final, or from the system. -/
theorem verdict_eagain_iff (a : Answer) :
    a.verdict.1 ≤ 0 ∧ a.verdict.2 = Errno.eagain ↔ a.code.final = false ∨ a.failedAgain := by
  cases hcode : a.code with
  | syscall =>
      by_cases heof : a.err = 0 ∧ a.ret = 0
      · simp [Answer.verdict, Answer.failedAgain, SslError.final, hcode, heof, Errno.econnreset,
          Errno.eagain]
      · by_cases hreset : a.errno = Errno.econnreset
        · simp [Answer.verdict, Answer.failedAgain, Answer.sysErrno, SslError.final, hcode, heof,
            hreset, Errno.econnaborted, Errno.econnreset, Errno.eagain]
        · simp [Answer.verdict, Answer.failedAgain, Answer.sysErrno, SslError.final, hcode, heof,
            hreset]
  | _ => simp [Answer.verdict, Answer.failedAgain, SslError.final, hcode, Errno.econnaborted,
      Errno.econnreset, Errno.eagain]

/-- Nothing but a final code changes the flags. -/
theorem settle_of_not_final {a : Answer} (ha : a.code.final = false) (f : Flags) :
    a.settle f = f := by
  cases hcode : a.code <;> simp_all [Answer.settle, SslError.final]

theorem settle_of_failedAgain {a : Answer} (ha : a.failedAgain) (f : Flags) :
    (a.settle f).fatalError = true := by
  simp [Answer.settle, ha.1, ha.2.1]

/-- The outcome of `Tls_WaitForConnect` makes a true answer exactly in the
settled cases. -/
theorem handshakeTruthful_outcome_iff (f : Flags) (as : Supply Answer) (e : TclError) :
    HandshakeTruthful ((handshakeStatus (connectOutcome true f as).2.async
        (connectOutcome true f as).1).elim (.error e) .ok) (connectOutcome true f as).2 ↔
      HandshakeSettled f as := by
  rw [handshakeTruthful_status_iff]
  by_cases hinit : f.init = false
  · simp [connectOutcome, HandshakeSettled, hinit]
  by_cases hfatal : f.fatalError = true
  · simp [connectOutcome, HandshakeSettled, hinit, hfatal, Errno.eagain, Errno.econnaborted]
  cases hasync : f.async with
  | false =>
      have hfinal := verdict_final_iff (decisive 10 as) (f := f) (by simpa using hinit)
      simpa [connectOutcome, HandshakeSettled, loopOutcome, hinit, hfatal, hasync] using hfinal
  | true =>
      cases hagain : (as 0).again with
      | true => simp [connectOutcome, HandshakeSettled, loopOutcome, *]
      | false =>
          have heagain := verdict_eagain_iff (as 0)
          cases hfinal : (as 0).code.final with
          | false =>
              have hwait := heagain.mpr (.inl hfinal)
              simp [connectOutcome, HandshakeSettled, loopOutcome, settle_of_not_final hfinal, *]
          | true =>
              by_cases hfailed : (as 0).failedAgain
              · have hwait := heagain.mpr (.inr hfailed)
                simp [connectOutcome, HandshakeSettled, loopOutcome,
                  settle_of_failedAgain hfailed, *]
              · have hdone := (verdict_final_iff (as 0) (f := f) (by simpa using hinit)).mpr hfinal
                simp [connectOutcome, HandshakeSettled, loopOutcome, *]

/-- **`tls::handshake` tells the truth** exactly when its arguments do not name a
TLS channel, or the handshake is settled. -/
theorem handshakeObjCmd_truthful_iff (find : String → Option TopChannel) (objv : List String)
    (w : Conn) :
    HandshakeTruthful (w.run (handshakeObjCmd lib find objv)).1
        (w.run (handshakeObjCmd lib find objv)).2.st.flags ↔
      namesTls find objv = false ∨ HandshakeSettled w.st.flags w.env.answers.handshakes := by
  cases hobjv : namesTls find objv with
  | false =>
      obtain ⟨e, he⟩ := handshakeObjCmd_other lib hobjv
      rw [he]
      exact iff_of_true ⟨fun h => by simp at h, fun h => by simp at h, fun n h => by simp at h⟩
        (.inl rfl)
  | true =>
      obtain ⟨e, w', hrun, hflags⟩ := run_handshakeObjCmd lib hobjv w
      rw [hrun, hflags, handshakeTruthful_outcome_iff]
      simp

/-- A blocking client whose peer never answers. -/
def silentPeer : Conn where
  st := { flags := { init := true } }
  env.answers := .steady .wantRead (Answer.wantRead.toTransfer Answer.wantRead_ret)
    (Answer.wantRead.toTransfer Answer.wantRead_ret) ⟨tclOk, ""⟩

/-- After eleven attempts without an answer `tls::handshake` returns 1, and
`TLS_TCL_INIT` is still set. -/
theorem handshakeObjCmd_gives_up :
    ¬ HandshakeTruthful
      (silentPeer.run (handshakeObjCmd .plain (fun name => some ⟨name, true⟩)
        ["tls::handshake", "sock4"])).1
      (silentPeer.run (handshakeObjCmd .plain (fun name => some ⟨name, true⟩)
        ["tls::handshake", "sock4"])).2.st.flags := by
  intro h
  exact absurd (h.of_one rfl) (by decide)

end TclTls
