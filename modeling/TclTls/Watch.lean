import TclTls.Session

/-!
# TclTls.Watch

What `TlsWatchProc` leaves behind when something waits already.  The underlying
channel does not announce data that has left it, nor what the library wants to
go on with, so a timer has to.

`TlsWatchProc` finds out whether there is anything to announce, and then arms
the timer by the mask alone.  `watch_armed_iff` says when that is enough.
-/

namespace TclTls

open Interaction
open Interaction.Program (state update)

/-! ## Buffers -/

/-- The number of bytes in the buffers of the channel and of the BIO. -/
structure Buffers where
  input : Nat := 0
  output : Nat := 0
  bioInput : Nat := 0
  bioOutput : Nat := 0

namespace Buffers

/-- The answer to the next call; the counts are those of the buffers. -/
def reply (b : Buffers) (g : Env) : (e : Call) → e.Ans
  | .inputBuffered => b.input
  | .outputBuffered => b.output
  | .bioPending => b.bioInput
  | .bioWpending => b.bioOutput
  | e => g.reply e

/-- Answer a call and write it to the log; nobody touches the buffers. -/
def respond (b : Buffers) (e : Call) (g : Env) : e.Ans × Env :=
  (b.reply g e,
    { answers := g.answers.after e, refs := g.refs.after e, log := g.log ++ [⟨e, b.reply g e⟩] })

end Buffers

/-- Something waits that the underlying channel will not announce: an event that
the library wants, or buffered data that the mask asks for. -/
def Awaited (b : Buffers) (mask : Mask) (s : State) : Prop :=
  s.want.any = true ∨ (mask.readable = true ∧ (0 < b.input ∨ 0 < b.bioInput)) ∨
    (mask.writable = true ∧ (0 < b.output ∨ 0 < b.bioOutput))

/-- The library wants nothing, and no data waits that could be written. -/
def NothingToWrite (b : Buffers) (mask : Mask) (s : State) : Prop :=
  s.want.any = false ∧ (mask.writable = true → b.output = 0 ∧ b.bioOutput = 0)

/-! ## The timer -/

/-- Code that makes any call, and has the `State` to itself. -/
def undisturbed : Contract State Call.Ans where

@[simp] theorem undisturbed_allowed (s : State) (e : Call) : undisturbed.allowed s e := trivial

@[simp] theorem undisturbed_writes (s s' : State) : undisturbed.writes s s' := trivial

@[simp] theorem undisturbed_answers (e : Call) (r : e.Ans) : undisturbed.answers e r := trivial

@[simp] theorem undisturbed_interference (e : Call) (s s' : State) :
    undisturbed.interference e s s' ↔ s = s' := Iff.rfl

section Timer

variable {s : State} {mask : Mask} {b : Buffers}

/-- Whatever is released on the way, the timer is gone and the wants stay. -/
theorem removeTimer_spec :
    removeTimer.Safe undisturbed (fun _ s' => s'.timer = false ∧ s'.want = s.want) s := by
  cases htimer : s.timer <;>
    simp [removeTimer, tclRelease, tlsFree, tlsClean, htimer]

theorem watchPending_spec : (watchPending mask).Safe undisturbed (fun _ s' => s' = s) s := by
  cases s.want.any <;> cases hreadable : mask.readable <;> cases hwritable : mask.writable <;>
    simp [watchPending, inputWaiting, outputWaiting, hreadable, hwritable]

/-- The timer is armed by the mask. -/
theorem renewTimer_spec :
    (renewTimer mask).Safe undisturbed
      (fun _ s' => s'.timer = mask.readable ∧ s'.want = s.want) s := by
  rw [renewTimer, Program.safe_bind]
  refine removeTimer_spec.mono fun _ s' hs' => ?_
  cases hreadable : mask.readable <;> simp [hs']

theorem tlsWatchProc_spec (hcallback : s.flags.callback = false)
    (hfatal : s.flags.fatalError = false) :
    (tlsWatchProc mask).Safe undisturbed
      (fun _ s' => s'.timer = mask.readable ∧ s'.want = s.want) s := by
  have hwatch : Program.Safe undisturbed
      (fun _ s' => s'.timer = mask.readable ∧ s'.want = s.want)
      (do let _ ← watchPending mask; renewTimer mask) { s with watchMask := mask } := by
    rw [Program.safe_bind]
    refine watchPending_spec.mono fun _ s' hs' => ?_
    rw [hs']
    exact renewTimer_spec (s := { s with watchMask := mask })
  simpa [tlsWatchProc, hcallback, hfatal] using hwatch

end Timer

/-- A procedure that is not disturbed ends as is said of it. -/
theorem Buffers.run_undisturbed {α : Type} (b : Buffers) {p : Driver α} {w : Conn}
    {Q : α → State → Prop} (hp : p.Safe undisturbed Q w.st) :
    Q (p.run b.respond w).1 (p.run b.respond w).2.st :=
  (Program.run_of_safe (P := fun _ => True) (fun _ _ _ _ _ => ⟨trivial, trivial⟩) (fun _ _ => rfl)
    hp trivial).1

/-- **What waits has a timer** exactly if the mask asks for input, or the library
wants nothing and there is nothing to write. -/
theorem watch_armed_iff (w : Conn) (mask : Mask) (b : Buffers)
    (hcallback : w.st.flags.callback = false) (hfatal : w.st.flags.fatalError = false) :
    (Awaited b mask ((tlsWatchProc mask).run b.respond w).2.st →
        ((tlsWatchProc mask).run b.respond w).2.st.timer = true) ↔
      mask.readable = true ∨ NothingToWrite b mask w.st := by
  have hspec : (tlsWatchProc mask).Safe undisturbed
      (fun _ s' => s'.timer = mask.readable ∧ s'.want = w.st.want) w.st :=
    tlsWatchProc_spec hcallback hfatal
  obtain ⟨htimer, hwant⟩ := b.run_undisturbed hspec
  rw [htimer, Awaited, hwant, NothingToWrite]
  cases mask.readable with
  | true => simp
  | false => cases w.st.want.any <;> simp

/-- `SSL_ERROR_WANT_WRITE` with the BIO's retry flag up. -/
def Answer.wantWrite : Answer := ⟨-1, .wantWrite, 0, Errno.eagain, true, by decide⟩

theorem Answer.wantWrite_ret : wantWrite.ret ≤ 0 := by decide

theorem Answer.success_none_iff : SslError.none = .none ↔ (0 : Int) < 1 :=
  iff_of_true rfl Int.one_pos

/-- A write during which the handshake succeeds, and that cannot go on since the
library has to write first. -/
def blockedWrite : Step where
  request := .output 5
  answers := .steady ⟨1, .none, 0, 0, false, Answer.success_none_iff⟩
    (Answer.wantRead.toTransfer Answer.wantRead_ret)
    (Answer.wantWrite.toTransfer Answer.wantWrite_ret) ⟨tclOk, ""⟩

/-- The connection after that. -/
def blockedClient : Conn := (freshClient.after .plain [blockedWrite]).conn blockedWrite.answers

/-- The library wants to write, and as the channel is watched for reading a timer
is armed. -/
theorem watch_armed_readable :
    Awaited {} { readable := true } ((tlsWatchProc { readable := true }).run
        (Buffers.respond {}) blockedClient).2.st ∧
      ((tlsWatchProc { readable := true }).run (Buffers.respond {}) blockedClient).2.st.timer =
        true := by
  have hawaited : Awaited {} { readable := true } ((tlsWatchProc { readable := true }).run
      (Buffers.respond {}) blockedClient).2.st := .inl rfl
  exact ⟨hawaited, (watch_armed_iff blockedClient { readable := true } {} rfl rfl).mpr (.inl rfl)
    hawaited⟩

/-- It is watched for writing, and none is. -/
theorem watch_unarmed :
    blockedClient.st.flags.callback = false ∧ blockedClient.st.flags.fatalError = false ∧
      ¬ (Awaited {} { writable := true } ((tlsWatchProc { writable := true }).run
          (Buffers.respond {}) blockedClient).2.st →
        ((tlsWatchProc { writable := true }).run (Buffers.respond {}) blockedClient).2.st.timer =
          true) :=
  ⟨rfl, rfl, fun h => absurd (h (.inl rfl)) (by decide)⟩

end TclTls
