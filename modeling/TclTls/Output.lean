import TclTls.Transfer

/-!
# TclTls.Output

`TlsOutputProc`: write to the connection or flush it, after a handshake if
there has been none yet.  What a call comes to is `outputOutcome`.
-/

namespace TclTls

open Interaction
open Interaction.Program (state update)

variable (lib : Platform)

/-! ## Writing -/

/-- The switch over `SSL_get_error` after `BIO_write`. -/
def outputVerdict (a : Answer) : Driver (Int × Errno) :=
  match a.code with
  | .none => pure (if a.ret < 0 then 0 else a.ret, if a.ret ≤ 0 ∧ a.retry then Errno.eagain else 0)
  | .ssl => do
      ioReport lib a
      update fun s => { s with flags.fatalError := true, flags.eof := true }
      pure (-1, Errno.econnaborted)
  | _ => ioVerdict lib a

/-- The flush that a write of no bytes stands for. -/
def zeroWrite : Driver (Int × Errno) := do
  let flushed ← call .bioFlush
  if flushed ≤ 0 then
    tlsError lib (some "Flush failed")
    pure (-1, Errno.eio)
  else
    pure (0, 0)

/-- `BIO_write` of `toWrite` bytes, and the flush after a successful one. -/
def bioWrite (toWrite : Int) : Driver (Int × Errno) := do
  let a ← call (.bioWrite toWrite)
  if 0 < a.ret then
    let _ ← call .bioFlush
  outputVerdict lib a.toAnswer

/-- `TlsOutputProc` on `toWrite` bytes: byte count and error code. -/
def tlsOutputProc (toWrite : Int) : Driver (Int × Errno) := do
  let s ← state
  -- the verify callback is still running, or the connection has failed
  if s.flags.callback then pure (-1, Errno.eagain)
  else if s.flags.fatalError then pure (-1, Errno.econnaborted)
  else withConnection lib true (if toWrite = 0 then zeroWrite lib else bioWrite lib toWrite)

/-! ## What a write comes to -/

/-- Byte count and error code after `BIO_write`. -/
def Answer.outputResult (a : Answer) : Int × Errno :=
  match a.code with
  | .none => (a.ret, 0)
  | .ssl => (-1, Errno.econnaborted)
  | _ => a.ioResult

/-- The flags after `BIO_write`. -/
def Answer.outputSettle (a : Answer) (f : Flags) : Flags :=
  match a.code with
  | .none => f
  | .ssl => { f with fatalError := true, eof := true }
  | _ => a.ioSettle f

/-- What a call comes to, `a` being the answer in store for `BIO_write` and
`flushed` the one for the flush of a write of no bytes. -/
def outputOutcome {toWrite : Int} (f : Flags) (as : Supply Answer) (a : Transfer toWrite)
    (flushed : Int) : IoOutcome :=
  if f.callback then ⟨(-1, Errno.eagain), f, []⟩
  else if f.fatalError then ⟨(-1, Errno.econnaborted), f, []⟩
  else withConnectionOutcome true f as fun f' =>
    if toWrite = 0 then ⟨if flushed ≤ 0 then (-1, Errno.eio) else (0, 0), f', []⟩
    else ⟨a.outputResult, a.outputSettle f', [⟨.bioWrite toWrite, a⟩]⟩

theorem outputVerdict_offWire (a : Answer) {f : Flags} {s : State} (hs : s.flags = f) :
    (outputVerdict lib a).Safe offWire
      (fun r s' => r = a.outputResult ∧ s'.flags = a.outputSettle f) s := by
  cases hcode : a.code with
  | none =>
      have hret : 0 < a.ret := a.none_iff.mp hcode
      have hnonneg : ¬ a.ret < 0 := by omega
      have hwritten : ¬(a.ret ≤ 0 ∧ a.retry = true) := by omega
      simp [outputVerdict, Answer.outputResult, Answer.outputSettle, hcode, hnonneg, hwritten, hs]
  | ssl =>
      simp only [outputVerdict, Answer.outputResult, Answer.outputSettle, hcode]
      refine bystander_bind (ioReport_bystander lib a hs) fun _ s' hs' => ?_
      simp [hs']
  | _ =>
      simpa only [outputVerdict, Answer.outputResult, Answer.outputSettle, hcode] using
        ioVerdict_offWire lib a hs

theorem zeroWrite_endsAs (w : Conn) :
    EndsAs w (zeroWrite lib)
      ⟨if w.env.answers.flushes 0 ≤ 0 then (-1, Errno.eio) else (0, 0), w.st.flags, []⟩ := by
  refine EndsAs.call_bind_offData rfl (endsAs_of_offWire ?_)
  by_cases hflush : w.env.answers.flushes 0 ≤ 0
  · simp only [Env.reply, hflush, if_true]
    refine bystander_bind (tlsError_bystander lib _ rfl) fun _ s' hs' => ?_
    simp [hs']
  · simp [hflush]

theorem bioWrite_endsAs (toWrite : Int) (w : Conn) :
    EndsAs w (bioWrite lib toWrite)
      ⟨(w.env.answers.writes 0 toWrite).outputResult,
        (w.env.answers.writes 0 toWrite).outputSettle w.st.flags,
        [⟨.bioWrite toWrite, w.env.answers.writes 0 toWrite⟩]⟩ := by
  refine EndsAs.call_bind (o := ⟨_, _, []⟩) rfl ?_
  have hverdict := fun s hs =>
    outputVerdict_offWire lib (w.env.answers.writes 0 toWrite).toAnswer (f := w.st.flags) (s := s) hs
  by_cases hret : 0 < (w.env.answers.writes 0 toWrite).ret
  · simp only [Env.reply, hret, if_true]
    exact EndsAs.call_bind_offData rfl (endsAs_of_offWire (hverdict _ rfl))
  · simp only [Env.reply, hret, if_false]
    exact endsAs_of_offWire (hverdict _ rfl)

/-- **`TlsOutputProc`** comes to `outputOutcome`. -/
theorem tlsOutputProc_endsAs (toWrite : Int) (w : Conn) :
    EndsAs w (tlsOutputProc lib toWrite)
      (outputOutcome w.st.flags w.env.answers.handshakes (w.env.answers.writes 0 toWrite)
        ((established lib true w).env.answers.flushes 0)) := by
  by_cases hcallback : w.st.flags.callback = true
  · exact ⟨w, by simp [tlsOutputProc, outputOutcome, hcallback]⟩
  by_cases hfatal : w.st.flags.fatalError = true
  · exact ⟨w, by simp [tlsOutputProc, outputOutcome, hcallback, hfatal]⟩
  have hwrite : EndsAs (established lib true w)
      (if toWrite = 0 then zeroWrite lib else bioWrite lib toWrite)
      (if toWrite = 0 then
        ⟨if (established lib true w).env.answers.flushes 0 ≤ 0 then (-1, Errno.eio) else (0, 0),
          (established lib true w).st.flags, []⟩
      else ⟨(w.env.answers.writes 0 toWrite).outputResult,
        (w.env.answers.writes 0 toWrite).outputSettle (established lib true w).st.flags,
        [⟨.bioWrite toWrite, w.env.answers.writes 0 toWrite⟩]⟩) := by
    split
    · exact zeroWrite_endsAs lib _
    · rw [← (established_dataEq lib true w).writes]
      exact bioWrite_endsAs lib toWrite _
  have hconnect := withConnection_endsAs lib (o := fun f => if toWrite = 0 then ⟨_, f, []⟩
    else ⟨_, (w.env.answers.writes 0 toWrite).outputSettle f, _⟩) hwrite
  simpa [EndsAs, tlsOutputProc, outputOutcome, hcallback, hfatal] using hconnect

end TclTls
