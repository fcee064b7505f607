import TclTls.Connect

/-!
# TclTls.Transfer

What `TlsInputProc` and `TlsOutputProc` have in common, word by word: the
handshake they begin with when there has been none yet (`withConnection`), and
all but two cases of the switch over the error code (`ioVerdict`).

What a transfer comes to is an `IoOutcome`, a function of the flags before the
call and of the library's answers.  `EndsAs` says that a program run on a
connection comes to it.
-/

namespace TclTls

open Interaction
open Interaction.Program (state update)

variable (lib : Platform)

/-- What a transfer comes to: byte count and error code, the flags it leaves,
and the data it moved. -/
structure IoOutcome where
  result : Int × Errno
  flags : Flags
  moved : List Event := []

/-- Run on `w`, the procedure `p` comes to `o`. -/
def EndsAs (w : Conn) (p : Driver (Int × Errno)) (o : IoOutcome) : Prop :=
  ∃ w' : Conn, w.run p = (o.result, w') ∧ w'.st.flags = o.flags ∧
    w'.env.dataLog = w.env.dataLog ++ o.moved

theorem endsAs_of_offWire {p : Driver (Int × Errno)} {w : Conn} {r : Int × Errno} {f : Flags}
    (hp : p.Safe offWire (fun r' s' => r' = r ∧ s'.flags = f) w.st) : EndsAs w p ⟨r, f, []⟩ := by
  obtain ⟨⟨hresult, hflags⟩, hdata⟩ := run_offData (offData_of_offWire hp)
  exact ⟨(w.run p).2, by rw [← hresult], hflags, by simp [hdata.dataLog]⟩

/-- A call that moves data is the first entry of what a program moves. -/
theorem EndsAs.call_bind {e : Call} {k : e.Ans → Driver (Int × Errno)} {w : Conn} {o : IoOutcome}
    (he : e.data = true)
    (hk : EndsAs { w with env := (Env.respond e w.env).2 } (k (w.env.reply e)) o) :
    EndsAs w (call e >>= k) { o with moved := ⟨e, w.env.reply e⟩ :: o.moved } := by
  obtain ⟨w', hrun, hflags, hmoved⟩ := hk
  refine ⟨w', by simpa using hrun, hflags, ?_⟩
  have hlog : (Env.respond e w.env).2.dataLog = w.env.dataLog ++ [⟨e, w.env.reply e⟩] := by
    simp only [Env.dataLog, List.filter_append, List.filter_cons_of_pos, he,
      List.filter_nil]
  rw [hmoved, hlog, List.append_assoc, List.singleton_append]

/-- Any other call moves nothing. -/
theorem EndsAs.call_bind_offData {e : Call} {k : e.Ans → Driver (Int × Errno)} {w : Conn}
    {o : IoOutcome} (he : e.data = false)
    (hk : EndsAs { w with env := (Env.respond e w.env).2 } (k (w.env.reply e)) o) :
    EndsAs w (call e >>= k) o := by
  obtain ⟨w', hrun, hflags, hmoved⟩ := hk
  refine ⟨w', by simpa using hrun, hflags, ?_⟩
  rw [hmoved, ((Env.DataEq.refl w.env).respond he).dataLog]

/-! ## The handshake on the way -/

/-- Establish the connection if that has not been done yet, then go on with
`io`.  A reset by the peer is a soft end of file. -/
def withConnection (handshakeFailureIsPermanent : Bool) (io : Driver (Int × Errno)) :
    Driver (Int × Errno) := do
  let s ← state
  if s.flags.init then do
    let (tlsConnect, errorCode) ← tlsWaitForConnect lib handshakeFailureIsPermanent
    if tlsConnect < 0 then
      if errorCode = Errno.econnreset then do
        update fun s => { s with flags.eof := true }
        pure (0, 0)
      else pure (-1, errorCode)
    else if tlsConnect = 0 then pure (-1, errorCode)
    else io
  else io

/-- What `withConnection` comes to, when `io` on the flags `f'` comes to `io f'`. -/
def withConnectionOutcome (permanent : Bool) (f : Flags) (as : Supply Answer)
    (io : Flags → IoOutcome) : IoOutcome :=
  match connectOutcome permanent f as with
  | ((tlsConnect, errorCode), f') =>
      if tlsConnect < 0 then
        if errorCode = Errno.econnreset then ⟨(0, 0), { f' with eof := true }, []⟩
        else ⟨(-1, errorCode), f', []⟩
      else if tlsConnect = 0 then ⟨(-1, errorCode), f', []⟩
      else io f'

/-- The connection when `io` gets its turn. -/
def established (permanent : Bool) (w : Conn) : Conn :=
  if w.st.flags.init then (w.run (tlsWaitForConnect lib permanent)).2 else w

theorem established_dataEq (permanent : Bool) (w : Conn) :
    (established lib permanent w).env.DataEq w.env := by
  obtain ⟨w₁, hrun, -, hdata⟩ := run_tlsWaitForConnect lib permanent w
  unfold established
  split
  · rw [hrun]
    exact hdata
  · exact .refl _

theorem withConnection_endsAs {permanent : Bool} {io : Driver (Int × Errno)}
    {o : Flags → IoOutcome} {w : Conn}
    (hio : EndsAs (established lib permanent w) io
      (o (established lib permanent w).st.flags)) :
    EndsAs w (withConnection lib permanent io)
      (withConnectionOutcome permanent w.st.flags w.env.answers.handshakes o) := by
  obtain ⟨w₁, hrun, hflags, hdata⟩ := run_tlsWaitForConnect lib permanent w
  have hlog : w₁.env.dataLog = w.env.dataLog := hdata.dataLog
  obtain ⟨w', hio, hflags', hmoved⟩ := hio
  by_cases hinit : w.st.flags.init = true
  · rw [established, if_pos hinit, hrun] at hio hflags' hmoved
    cases hc : connectOutcome permanent w.st.flags w.env.answers.handshakes with
    | mk r f' =>
        rw [hc] at hrun hflags
        subst hflags
        by_cases hfail : r.1 < 0
        · by_cases hreset : r.2 = Errno.econnreset
          · exact ⟨{ w₁ with st := { w₁.st with flags.eof := true } }, by
              simp [withConnection, withConnectionOutcome, hinit, hrun, hc, hfail, hreset, hlog]⟩
          · exact ⟨w₁, by
              simp [withConnection, withConnectionOutcome, hinit, hrun, hc, hfail, hreset, hlog]⟩
        · by_cases hwait : r.1 = 0
          · exact ⟨w₁, by
              simp [withConnection, withConnectionOutcome, hinit, hrun, hc, hwait, hlog]⟩
          · refine ⟨w', ?_, ?_, ?_⟩
            · simp [withConnection, withConnectionOutcome, hinit, hrun, hc, hfail, hwait, hio]
            · simp [withConnectionOutcome, hc, hfail, hwait, hflags']
            · simp [withConnectionOutcome, hc, hfail, hwait, hmoved, hlog]
  · rw [established, if_neg hinit] at hio hflags' hmoved
    refine ⟨w', ?_, ?_, ?_⟩
    · simp [withConnection, withConnectionOutcome, connectOutcome, hinit, hio]
    · simp [withConnectionOutcome, connectOutcome, hinit, hflags']
    · simp [withConnectionOutcome, connectOutcome, hinit, hmoved]

/-! ## The switch shared by input and output -/

/-- What is reported for `SSL_ERROR_SSL`. -/
def ioReport (a : Answer) : Driver Unit := do
  if a.err ≠ 0 then
    tlsError lib (lib.reasonString a.err)
  else
    let v ← call .getVerifyResult
    if v ≠ x509Ok then
      tlsError lib (some (lib.verifyErrorString v))
    else
      tlsError lib (some "Unknown SSL error")

/-- The cases other than `SSL_ERROR_NONE` and `SSL_ERROR_SSL`: byte count and
`*errorCodePtr`. -/
def ioVerdict (a : Answer) : Driver (Int × Errno) :=
  match a.code with
  | .wantRead | .wantWrite => do
      update fun s => { s with want := a.code.note s.want }
      pure (-1, Errno.eagain)
  | .wantX509Lookup => pure (-1, Errno.eagain)
  | .syscall =>
      if a.err = 0 ∧ a.ret = 0 then do
        tlsError lib (some "EOF reached")
        update fun s => { s with flags.eof := true }
        pure (0, 0)
      else do
        update fun s => { s with flags.fatalError := true }
        if a.err = 0 ∧ a.ret = -1 then
          tlsError lib (some (lib.errnoMsg a.errno))
        else
          tlsError lib (lib.reasonString a.err)
        update fun s => { s with flags.eof := true }
        pure (-1, a.errno)
  | .zeroReturn => do
      update fun s => { s with flags.eof := true }
      tlsError lib (some "Peer has closed the connection for writing by sending the close_notify alert")
      pure (0, 0)
  | .wantAsync => pure (0, Errno.eagain)
  | _ => do
      tlsError lib (some "Unknown error")
      pure (0, 0)

/-- Byte count and error code of the shared cases. -/
def Answer.ioResult (a : Answer) : Int × Errno :=
  match a.code with
  | .wantRead | .wantWrite | .wantX509Lookup => (-1, Errno.eagain)
  | .syscall => if a.err = 0 ∧ a.ret = 0 then (0, 0) else (-1, a.errno)
  | .wantAsync => (0, Errno.eagain)
  | _ => (0, 0)

/-- The flags after the shared cases. -/
def Answer.ioSettle (a : Answer) (f : Flags) : Flags :=
  match a.code with
  | .syscall =>
      if a.err = 0 ∧ a.ret = 0 then { f with eof := true }
      else { f with fatalError := true, eof := true }
  | .zeroReturn => { f with eof := true }
  | _ => f

theorem ioReport_bystander (a : Answer) {f : Flags} {s : State} (hs : s.flags = f) :
    (ioReport lib a).Safe offWire (fun _ s' => s'.flags = f) s := by
  by_cases herr : a.err = 0
  · simp [ioReport, herr, Call.wire, hs]
  · simp [ioReport, herr, hs]

theorem ioVerdict_offWire (a : Answer) {f : Flags} {s : State} (hs : s.flags = f) :
    (ioVerdict lib a).Safe offWire (fun r s' => r = a.ioResult ∧ s'.flags = a.ioSettle f) s := by
  cases hcode : a.code with
  | syscall =>
      by_cases heof : a.err = 0 ∧ a.ret = 0
      · simp only [ioVerdict, Answer.ioResult, Answer.ioSettle, hcode, if_pos heof]
        refine bystander_bind (tlsError_bystander lib _ hs) fun _ s' hs' => ?_
        simp [hs']
      · simp only [ioVerdict, Answer.ioResult, Answer.ioSettle, hcode, if_neg heof]
        rw [Program.safe_bind, Program.safe_update]
        refine ⟨trivial, ?_⟩
        split
        all_goals
          refine bystander_bind (tlsError_bystander lib _ rfl) fun _ s' hs' => ?_
          simp [hs', hs]
  | _ => simp [ioVerdict, Answer.ioResult, Answer.ioSettle, hcode, hs]

end TclTls
