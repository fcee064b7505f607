import TclTls.Transfer

/-!
# TclTls.Input

`TlsInputProc`: read from the connection, after a handshake if there has been
none yet.  What a call comes to is `inputOutcome`.
-/

namespace TclTls

open Interaction
open Interaction.Program (state update)

variable (lib : Platform)

/-! ## Reading -/

/-- The peer vanished without a `close_notify`, as OpenSSL 3 reports it. -/
def Answer.unexpectedEof (a : Answer) : Bool :=
  lib.openssl3 && decide (lib.getReason a.err = reasonUnexpectedEof)

/-- The switch over `SSL_get_error` after `BIO_read`. -/
def inputVerdict (a : Answer) : Driver (Int × Errno) :=
  match a.code with
  | .none => pure (a.ret, if a.ret ≤ 0 ∧ a.retry then Errno.eagain else 0)
  | .ssl => do
      ioReport lib a
      if a.unexpectedEof lib then
        tlsError lib (some "EOF reached")
        update fun s => { s with flags.eof := true }
        pure (0, 0)
      else
        update fun s => { s with flags.fatalError := true, flags.eof := true }
        pure (-1, Errno.econnaborted)
  | _ => ioVerdict lib a

/-- `TlsInputProc` on a buffer of `bufSize` bytes: byte count and error code. -/
def tlsInputProc (bufSize : Int) : Driver (Int × Errno) := do
  let s ← state
  -- the verify callback is still running, or nothing more can be read
  if s.flags.callback then pure (0, 0)
  else if s.flags.fatalError then pure (0, 0)
  else if s.flags.eof then pure (0, 0)
  else withConnection lib false do
    let a ← call (.bioRead bufSize)
    inputVerdict lib a.toAnswer

/-! ## What a read comes to -/

/-- Byte count and error code after `BIO_read`. -/
def Answer.inputResult (a : Answer) : Int × Errno :=
  match a.code with
  | .none => (a.ret, 0)
  | .ssl => if a.unexpectedEof lib then (0, 0) else (-1, Errno.econnaborted)
  | _ => a.ioResult

/-- The flags after `BIO_read`. -/
def Answer.inputSettle (a : Answer) (f : Flags) : Flags :=
  match a.code with
  | .none => f
  | .ssl =>
      if a.unexpectedEof lib then { f with eof := true }
      else { f with fatalError := true, eof := true }
  | _ => a.ioSettle f

/-- Reading is over: nothing is asked of the library any more. -/
def Flags.readsNothing (f : Flags) : Bool := f.callback || f.fatalError || f.eof

/-- What a call comes to, `a` being the answer in store for `BIO_read`. -/
def inputOutcome {bufSize : Int} (f : Flags) (as : Supply Answer) (a : Transfer bufSize) :
    IoOutcome :=
  if f.readsNothing then ⟨(0, 0), f, []⟩
  else withConnectionOutcome false f as fun f' =>
    ⟨a.inputResult lib, a.inputSettle lib f', [⟨.bioRead bufSize, a⟩]⟩

theorem inputVerdict_offWire (a : Answer) {f : Flags} {s : State} (hs : s.flags = f) :
    (inputVerdict lib a).Safe offWire
      (fun r s' => r = a.inputResult lib ∧ s'.flags = a.inputSettle lib f) s := by
  cases hcode : a.code with
  | none =>
      have hret : 0 < a.ret := a.none_iff.mp hcode
      have hread : ¬(a.ret ≤ 0 ∧ a.retry = true) := by omega
      simp [inputVerdict, Answer.inputResult, Answer.inputSettle, hcode, hread, hs]
  | ssl =>
      simp only [inputVerdict, Answer.inputResult, Answer.inputSettle, hcode]
      refine bystander_bind (ioReport_bystander lib a hs) fun _ s₁ hs₁ => ?_
      by_cases heof : a.unexpectedEof lib = true
      · simp only [if_pos heof]
        refine bystander_bind (tlsError_bystander lib _ hs₁) fun _ s' hs' => ?_
        simp [hs']
      · simp [heof, hs₁]
  | _ =>
      simpa only [inputVerdict, Answer.inputResult, Answer.inputSettle, hcode] using
        ioVerdict_offWire lib a hs

theorem bioRead_endsAs (bufSize : Int) (w : Conn) :
    EndsAs w (do let a ← call (.bioRead bufSize); inputVerdict lib a.toAnswer)
      ⟨(w.env.answers.reads 0 bufSize).inputResult lib,
        (w.env.answers.reads 0 bufSize).inputSettle lib w.st.flags,
        [⟨.bioRead bufSize, w.env.answers.reads 0 bufSize⟩]⟩ :=
  EndsAs.call_bind (o := ⟨_, _, []⟩) rfl (endsAs_of_offWire (inputVerdict_offWire lib _ rfl))

/-- **`TlsInputProc`** comes to `inputOutcome`. -/
theorem tlsInputProc_endsAs (bufSize : Int) (w : Conn) :
    EndsAs w (tlsInputProc lib bufSize)
      (inputOutcome lib w.st.flags w.env.answers.handshakes (w.env.answers.reads 0 bufSize)) := by
  by_cases hnothing : w.st.flags.readsNothing = true
  · refine ⟨w, ?_, by simp [inputOutcome, hnothing], by simp [inputOutcome, hnothing]⟩
    simp only [Flags.readsNothing, Bool.or_eq_true, or_assoc] at hnothing
    rcases hnothing with h | h | h <;> simp [tlsInputProc, inputOutcome, Flags.readsNothing, h]
  have hread := bioRead_endsAs lib bufSize (established lib false w)
  rw [(established_dataEq lib false w).reads] at hread
  have hconnect := withConnection_endsAs lib
    (o := fun f => ⟨_, (w.env.answers.reads 0 bufSize).inputSettle lib f, _⟩) hread
  simp only [Flags.readsNothing, Bool.or_eq_true, not_or] at hnothing
  simpa [EndsAs, tlsInputProc, inputOutcome, Flags.readsNothing, hnothing] using hconnect

end TclTls
