import TclTls.Interaction.Summary
import TclTls.Digest
import TclTls.EncryptRead
import TclTls.State

/-!
# TclTls.TransformLife

The channel drivers of `tlsDigest.c` and `tlsEncrypt.c` as the memory and the
notifier see them: which fields of the state they access, when the state is
freed, and which timer handlers are pending for it.

The two drivers are the same code but for what an update yields and for one exit
of the close procedure, so there is one driver here with a `Kind` as parameter.
Neither holds a reference to its state while it calls the parent channel, and
such a call can run scripts: the parent may have callbacks, or be implemented by
scripts.  `Kind.lifetime` says what holds of every run in which no such script
closes the channel during a call whose caller goes on with the state: the timer
is accounted for, and the state is not accessed once it has been freed, and freed
unless the last write has failed.  It says too that one such script is enough for
an access to freed memory.
-/

namespace TclTls

namespace Stacked

open Interaction
open Interaction.Program (state update)

/-! ## State -/

/-- The fields of `DigestState` and `EncryptState` the channel driver works with.
`self` and `timer` say whether the pointer and the token are non-`NULL`. -/
structure TransformState where
  self : Bool := true
  timer : Bool := false
  async : Bool := false
  eof : Bool := false
  watchMask : Mask := {}
deriving DecidableEq, Repr

/-- The state, and what Tcl and the allocator know of it: how many timer handlers
are pending for it, whether the channel has been closed and its close procedure
is still running, whether the block has been freed, and whether the last write
of the close procedure has failed.  `misused` is set by an access to a freed
block, a second free, and the removal of a handler that is not there. -/
structure Memory where
  st : TransformState := {}
  timers : Nat := 0
  closed : Bool := false
  closing : Bool := false
  freed : Bool := false
  stuck : Bool := false
  misused : Bool := false
deriving DecidableEq, Repr

/-- The calls into the parent channel, the generic layer and the library. -/
inductive Call where
  | readRaw (toRead : Int)
  | writeRaw (n : Nat)
  | update
  | finalize
  | inputBuffered
  | notifyChannel (mask : Mask)
  | watchParent (mask : Mask)
  | parentOption
  | parentHandle

/-- An update and the final function put out some number of bytes, or fail. -/
@[reducible] def Call.Ans : Call → Type
  | .readRaw n => RawRead n
  | .writeRaw _ => Int
  | .update | .finalize => Option Nat
  | .inputBuffered => Nat
  | _ => Unit

/-- A script may run during the call. -/
def Call.scripted : Call → Bool
  | .readRaw _ | .writeRaw _ | .notifyChannel _ | .watchParent _ | .parentOption => true
  | _ => false

/-- Code of the driver. -/
abbrev Code (α : Type) := Program Memory Call.Ans α

/-- Make a call and wait for its answer. -/
abbrev call (e : Call) : Code e.Ans := Program.perform e

/-- Read the state through `statePtr`. -/
def access : Code TransformState := do
  update fun m => { m with misused := m.misused || m.freed }
  let m ← state
  pure m.st

/-- Assign to a field of `statePtr`. -/
def assign (f : TransformState → TransformState) : Code Unit :=
  update fun m => { m with st := f m.st, misused := m.misused || m.freed }

/-- `Tcl_DeleteTimerHandler` -/
def deleteTimerHandler : Code Unit :=
  update fun m => { m with timers := m.timers - 1, misused := m.misused || m.timers == 0 }

/-- `Tcl_CreateTimerHandler` -/
def createTimerHandler : Code Unit := update fun m => { m with timers := m.timers + 1 }

/-- `ckfree` -/
def ckfree : Code Unit := update fun m => { m with freed := true, misused := m.misused || m.freed }

/-! ## The driver -/

/-- What distinguishes the two transformations.

* `updated` — what the input procedure returns after an update;
* `writesOut` — the output procedure writes what the update has put out;
* `abandons` — the close procedure returns when its last write fails. -/
structure Kind where
  updated : Option Nat → Int × Errno
  writesOut : Bool
  abandons : Bool

variable (kind : Kind)

/-- Remove a pending timer. -/
def removeTimer : Code Unit := do
  let s ← access
  if s.timer then do
    deleteTimerHandler
    assign fun s => { s with timer := false }
  else pure ()

def stateFree : Code Unit := do
  let s ← access
  if s.timer then deleteTimerHandler else pure ()
  ckfree

def blockModeProc (nonblocking : Bool) : Code Unit :=
  assign fun s => { s with async := nonblocking }

/-- The message digest, or what is left of the data, goes to the parent channel. -/
def lastWrite (out : Nat) : Code Bool := do
  if kind.abandons && out == 0 then pure true
  else do
    let len ← call (.writeRaw out)
    if kind.abandons && decide (len < 0) then do
      update fun m => { m with stuck := true }
      pure false
    else pure true

/-- What the close procedure does with what the final function puts out. -/
def lastOutput : Option Nat → Code Bool
  | some out => lastWrite kind out
  | none => pure true

/-- Finalize and write, unless that has been done at the end of the input.  Returns
whether the close procedure goes on. -/
def finishOutput : Code Bool := do
  let s ← access
  if s.eof then pure true
  else do
    let out ← call .finalize
    let goesOn ← lastOutput kind out
    if goesOn then do
      assign fun s => { s with eof := true }
      pure true
    else pure false

def closeProc : Code Unit := do
  removeTimer
  let goesOn ← finishOutput kind
  if goesOn then stateFree else pure ()

/-- What the input procedure does with the answer of the parent channel. -/
def inputAnswered {toRead : Int} : RawRead toRead → Code (Int × Errno)
  | .data _ _ _ => do
      let _ ← access
      let out ← call .update
      pure (kind.updated out)
  | .error errno _ => pure (-1, errno)
  | .eof => do
      let s ← access
      if s.eof then pure (0, 0)
      else do
        let out ← call .finalize
        assign fun s => { s with eof := true }
        match out with
        | some out => pure (out, 0)
        | none => pure (0, Errno.einval)

def inputProc (toRead : Int) : Code (Int × Errno) := do
  if toRead ≤ 0 then pure (0, 0)
  else do
    let s ← access
    if !s.self then pure (0, 0)
    else do
      let a ← call (.readRaw toRead)
      inputAnswered kind a

def outputProc (toWrite : Int) : Code (Int × Errno) := do
  if toWrite ≤ 0 then pure (0, 0)
  else do
    let s ← access
    if !s.self then pure (0, 0)
    else do
      let out ← call .update
      if kind.writesOut then
        match out with
        | some (out + 1) => do
            let _ ← access
            let _ ← call (.writeRaw (out + 1))
            pure (toWrite, 0)
        | some 0 => pure (-1, Errno.eagain)
        | none => do
            let _ ← access
            pure (0, Errno.einval)
      else pure (toWrite, 0)

/-- The set and get option procedures leave it to the parent channel. -/
def optionProc : Code Unit := do
  let s ← access
  if !s.self then pure () else call .parentOption

def getHandleProc : Code Unit := do
  let s ← access
  if !s.self then pure () else call .parentHandle

def timerHandler : Code Unit := do
  let s ← access
  if !s.self then pure ()
  else do
    assign fun s => { s with timer := false }
    let s ← access
    if s.watchMask.readable then do
      let buffered ← call .inputBuffered
      if 0 < buffered then do
        let _ ← access
        call (.notifyChannel { readable := true })
      else pure ()
    else pure ()

/-- Fire an event for what is in the buffer already. -/
def announce (mask : Mask) : Code Unit := do
  if mask.readable then do
    let _ ← access
    let buffered ← call .inputBuffered
    if 0 < buffered then do
      createTimerHandler
      assign fun s => { s with timer := true }
    else pure ()
  else pure ()

def watchProc (mask : Mask) : Code Unit := do
  let s ← access
  if !s.self then pure ()
  else do
    assign fun s => { s with watchMask := mask }
    call (.watchParent mask)
    removeTimer
    announce mask

def notifyProc (mask : Mask) : Code Mask := do
  removeTimer
  pure mask

/-- Half of a channel cannot be closed. -/
def close2Proc (closeRead closeWrite : Bool) : Code Unit :=
  if !closeRead && !closeWrite then closeProc kind else pure ()

/-! ## The two kinds -/

/-- `DigestUpdate` without a result reports no failure, and the data goes on. -/
def digestKind : Kind where
  updated _ := (-1, Errno.eagain)
  writesOut := false
  abandons := false

def encryptKind : Kind where
  updated
    | some (out + 1) => ((out + 1 : Nat), 0)
    | some 0 => (-1, Errno.eagain)
    | none => (0, Errno.einval)
  writesOut := true
  abandons := true

/-! ## The generic layer -/

/-- What the generic layer and the notifier ask of a channel. -/
inductive Request where
  | input (toRead : Int)
  | output (toWrite : Int)
  | watch (mask : Mask)
  | notify (mask : Mask)
  | timer
  | blockMode (nonblocking : Bool)
  | option
  | handle
  | close
  | close2 (closeRead closeWrite : Bool)

/-- The request closes the channel. -/
def Request.closes : Request → Bool
  | .close => true
  | .close2 closeRead closeWrite => !closeRead && !closeWrite
  | _ => false

/-- The procedure behind a request. -/
def Request.proc : Request → Code Unit
  | .input toRead => do let _ ← inputProc kind toRead; pure ()
  | .output toWrite => do let _ ← outputProc kind toWrite; pure ()
  | .watch mask => watchProc mask
  | .notify mask => do let _ ← notifyProc mask; pure ()
  | .timer => timerHandler
  | .blockMode nonblocking => blockModeProc nonblocking
  | .option => optionProc
  | .handle => getHandleProc
  | .close => closeProc kind
  | .close2 closeRead closeWrite => close2Proc kind closeRead closeWrite

/-- The notifier runs the handlers it has and removes each one before; nothing is
asked of a channel that has been closed. -/
def Request.body (q : Request) : Code Unit := do
  let m ← state
  match q with
  | .timer =>
      if m.timers = 0 then pure ()
      else do
        update fun m => { m with timers := m.timers - 1 }
        timerHandler
  | q =>
      if m.closed then pure ()
      else if q.closes then do
        update fun m => { m with closed := true, closing := true }
        q.proc kind
        update fun m => { m with closing := false }
      else q.proc kind

/-- The activities on one channel. -/
abbrev machine : Machine Memory Call.Ans where
  Proc := Request
  body := Request.body kind
  starts e _ := e.scripted = true

/-! ## What holds of the memory -/

/-- Nothing has been misused; there is one timer at most, which the state has noted;
a channel that has been closed has none, and its state is freed when the close
procedure is through, unless its last write has failed. -/
structure Sound (m : Memory) : Prop where
  stacked : m.st.self = true
  unmisused : m.misused = false
  noted : m.timers = m.st.timer.toNat
  gone : m.closed = true → m.timers = 0
  ended : m.closed = true → m.closing = false → m.freed = !m.stuck
  shut : m.freed = true → m.closed = true
  closing : m.closing = true → m.closed = true ∧ m.freed = false
  stuck : m.stuck = true → kind.abandons = true ∧ m.closed = true

/-- The caller goes on with the state when the call has returned. -/
def Call.resumes : Call → Bool
  | .readRaw _ | .watchParent _ => true
  | _ => false

/-- What the procedures make of the memory.  When the channel has been closed and
its timer removed, nothing does anything to it; and a close is never left half
done.  Calls whose caller goes on with the state are to return while the channel
is open. -/
def summary : Summary (machine kind) where
  inv := Sound kind
  admits e m := e.resumes = true → m.closed = false
  sum m m' := (m.closed = true → m.timers = 0 → m' = m) ∧ m'.closing = m.closing
  refl m := ⟨fun _ _ => rfl, rfl⟩
  trans := fun {m m' m''} h h' => by
    refine ⟨fun hclosed htimers => ?_, h'.2.trans h.2⟩
    obtain rfl := h.1 hclosed htimers
    exact h'.1 hclosed htimers

section Accesses

variable {kind} {α : Type} {m : Memory} {Q : α → Memory → Prop}

/-- No timer is pending, and the state says so. -/
def Memory.disarmed (m : Memory) : Memory :=
  { m with timers := 0, st := { m.st with timer := false } }

theorem safe_access {Q : TransformState → Memory → Prop} (hm : m.freed = false) :
    access.Safe (summary kind).contract Q m ↔ Q m.st m := by
  obtain ⟨st, timers, closed, closing, freed, stuck, misused⟩ := m
  obtain rfl : freed = false := hm
  simp [access]

theorem safe_assign {Q : Unit → Memory → Prop} (hm : m.freed = false)
    (f : TransformState → TransformState) :
    (assign f).Safe (summary kind).contract Q m ↔ Q () { m with st := f m.st } := by
  simp [assign, hm]

theorem safe_removeTimer {Q : Unit → Memory → Prop} (hm : m.freed = false)
    (hnoted : m.timers = m.st.timer.toNat) :
    removeTimer.Safe (summary kind).contract Q m ↔ Q () m.disarmed := by
  obtain ⟨st, timers, closed, closing, freed, stuck, misused⟩ := m
  obtain rfl : freed = false := hm
  obtain ⟨self, timer, async, eof, watchMask⟩ := st
  cases timer <;> simp_all [removeTimer, access, assign, deleteTimerHandler, Memory.disarmed]

theorem safe_stateFree {Q : Unit → Memory → Prop} (hm : m.freed = false)
    (htimer : m.st.timer = false) :
    stateFree.Safe (summary kind).contract Q m ↔ Q () { m with freed := true } := by
  simp [stateFree, access, ckfree, hm, htimer]

/-- A call during which no script runs. -/
theorem safe_quiet {e : Call} {k : e.Ans → Code α} (he : e.scripted = false) (hm : Sound kind m)
    (hk : ∀ r, (k r).Safe (summary kind).contract Q m) :
    Program.Safe (summary kind).contract Q (call e >>= k) m := by
  refine Summary.safe_call_of_quiet (fun q hstarts => ?_) hm fun r _ => hk r
  have hscripted : e.scripted = true := hstarts
  rw [he] at hscripted
  contradiction

end Accesses

/-! ## The procedures -/

/-- Sound, and the channel is open. -/
structure Opened (m : Memory) : Prop extends Sound kind m where
  isOpen : m.closed = false

/-- Sound, and no close is under way. -/
structure Settled (m : Memory) : Prop extends Sound kind m where
  unclosing : m.closing = false

/-- Started in `m`, the code restores soundness by its end, and closes nothing. -/
abbrev Settles {α : Type} (p : Code α) (m : Memory) : Prop :=
  p.Safe (summary kind).contract (fun _ m' => Settled kind m') m

section Procedures

variable {kind} {m : Memory}

theorem Opened.alive (h : Opened kind m) : m.freed = false := by
  by_contra hfreed
  have hclosed := h.shut (by simpa using hfreed)
  rw [h.isOpen] at hclosed
  contradiction

theorem Opened.settled (h : Opened kind m) : Settled kind m where
  toSound := h.toSound
  unclosing := by
    by_contra hclosing
    have hclosed := (h.closing (by simpa using hclosing)).1
    rw [h.isOpen] at hclosed
    contradiction

/-- The other fields do not matter. -/
theorem Opened.assign (h : Opened kind m) {f : TransformState → TransformState}
    (hself : (f m.st).self = m.st.self) (htimer : (f m.st).timer = m.st.timer) :
    Opened kind { m with st := f m.st } :=
  ⟨⟨hself.trans h.stacked, h.unmisused, by rw [h.noted, htimer], h.gone, h.ended, h.shut, h.closing,
    h.stuck⟩, h.isOpen⟩

theorem Opened.disarmed (h : Opened kind m) : Opened kind m.disarmed :=
  ⟨⟨h.stacked, h.unmisused, rfl, fun _ => rfl, h.ended, h.shut, h.closing, h.stuck⟩, h.isOpen⟩

/-- A call during which scripts run, as the last thing that is done. -/
theorem settles_last {α : Type} {e : Call} {k : e.Ans → Code α} (hm : Opened kind m)
    (hk : ∀ r m', Settled kind m' → Settles kind (k r) m') :
    Settles kind (call e >>= k) m := by
  refine ⟨hm.toSound, fun r m' _ hm' => hk r m' ⟨hm'.1, ?_⟩⟩
  rw [hm'.2.2.1.2]
  exact hm.settled.unclosing

/-- A call during which scripts run that leave the channel open. -/
theorem settles_resumed {α : Type} {e : Call} {k : e.Ans → Code α} (he : e.resumes = true)
    (hm : Opened kind m) (hk : ∀ r m', Opened kind m' → Settles kind (k r) m') :
    Settles kind (call e >>= k) m :=
  ⟨hm.toSound, fun r m' _ hm' => hk r m' ⟨hm'.1, hm'.2.1 he⟩⟩

theorem settles_quiet {α : Type} {e : Call} {k : e.Ans → Code α} (he : e.scripted = false)
    (hm : Opened kind m) (hk : ∀ r, Settles kind (k r) m) :
    Settles kind (call e >>= k) m := safe_quiet he hm.toSound hk

/-- Reading the state of an open channel. -/
theorem settles_access {α : Type} {k : TransformState → Code α} (hm : Opened kind m)
    (hk : Settles kind (k m.st) m) : Settles kind (access >>= k) m := by
  rw [Settles, Program.safe_bind, safe_access hm.alive]
  exact hk

theorem inputAnswered_settles (hm : Opened kind m) {toRead : Int} (a : RawRead toRead) :
    Settles kind (inputAnswered kind a) m := by
  cases a with
  | data bytes _ _ => exact settles_access hm (settles_quiet rfl hm fun _ => hm.settled)
  | error errno _ => exact hm.settled
  | eof =>
      refine settles_access hm ?_
      split
      · exact hm.settled
      · refine settles_quiet rfl hm fun out => ?_
        have hdone := hm.assign (f := fun s => { s with eof := true }) rfl rfl
        rw [Settles, Program.safe_bind, safe_assign hm.alive]
        cases out <;> exact hdone.settled

theorem inputProc_settles (hm : Opened kind m) (toRead : Int) :
    Settles kind (inputProc kind toRead) m := by
  rw [inputProc]
  split
  · exact hm.settled
  · refine settles_access hm ?_
    split
    · exact hm.settled
    · exact settles_resumed rfl hm fun a m' hm' => inputAnswered_settles hm' a

theorem outputProc_settles (hm : Opened kind m) (toWrite : Int) :
    Settles kind (outputProc kind toWrite) m := by
  rw [outputProc]
  split
  · exact hm.settled
  · refine settles_access hm ?_
    split
    · exact hm.settled
    · refine settles_quiet rfl hm fun out => ?_
      split
      · split
        · exact settles_access hm (settles_last hm fun _ _ hm' => hm')
        · exact hm.settled
        · exact settles_access hm hm.settled
      · exact hm.settled

theorem optionProc_settles (hm : Opened kind m) : Settles kind optionProc m := by
  refine settles_access hm ?_
  split
  · exact hm.settled
  · exact settles_last hm fun _ _ hm' => hm'

theorem getHandleProc_settles (hm : Opened kind m) : Settles kind getHandleProc m := by
  refine settles_access hm ?_
  split
  · exact hm.settled
  · exact settles_quiet rfl hm fun _ => hm.settled

theorem notifyProc_settles (hm : Opened kind m) (mask : Mask) :
    Settles kind (notifyProc mask) m := by
  rw [notifyProc, Settles, Program.safe_bind, safe_removeTimer hm.alive hm.noted]
  exact hm.disarmed.settled

theorem announce_settles (hm : Opened kind m) (hnone : m.timers = 0) (mask : Mask) :
    Settles kind (announce mask) m := by
  rw [announce]
  split
  · refine settles_access hm (settles_quiet rfl hm fun buffered => ?_)
    split
    · have harmed : Opened kind { m with timers := 1, st := { m.st with timer := true } } :=
        ⟨⟨hm.stacked, hm.unmisused, rfl, fun hclosed => absurd hclosed (by simp [hm.isOpen]), hm.ended,
          hm.shut, hm.closing, hm.stuck⟩, hm.isOpen⟩
      simpa [Settles, createTimerHandler, assign, hm.alive, hnone] using harmed.settled
    · exact hm.settled
  · exact hm.settled

theorem watchProc_settles (hm : Opened kind m) (mask : Mask) :
    Settles kind (watchProc mask) m := by
  refine settles_access hm ?_
  rw [hm.stacked]
  have hmasked : Opened kind { m with st := { m.st with watchMask := mask } } :=
    hm.assign (f := fun s => { s with watchMask := mask }) rfl rfl
  rw [Bool.not_true, if_neg Bool.false_ne_true, Settles, Program.safe_bind, safe_assign hm.alive]
  refine settles_resumed rfl hmasked fun _ m' hm' => ?_
  rw [Settles, Program.safe_bind, safe_removeTimer hm'.alive hm'.noted]
  exact announce_settles hm'.disarmed rfl mask

/-- The handler is run when its timer has been removed, and notes it. -/
theorem timerHandler_settles (hm : Opened kind m) (htimer : m.timers ≠ 0) :
    Settles kind timerHandler { m with timers := m.timers - 1 } := by
  have hdisarmed := hm.disarmed
  have hone : m.timers = 1 := by
    have hnoted := hm.noted
    cases hs : m.st.timer <;> simp [hs] at hnoted
    · exact absurd hnoted htimer
    · exact hnoted
  have hfired : ({ m with timers := m.timers - 1, st := { m.st with timer := false } } : Memory) =
      m.disarmed := by simp [Memory.disarmed, hone]
  rw [timerHandler, Settles, Program.safe_bind,
    safe_access (m := { m with timers := m.timers - 1 }) hm.alive, hm.stacked, Bool.not_true,
    if_neg Bool.false_ne_true, Program.safe_bind,
    safe_assign (m := { m with timers := m.timers - 1 }) hm.alive, hfired]
  refine settles_access hdisarmed ?_
  split
  · refine settles_quiet rfl hdisarmed fun buffered => ?_
    split
    · exact settles_access hdisarmed (settles_last hdisarmed fun _ _ hm' => hm')
    · exact hdisarmed.settled
  · exact hdisarmed.settled

/-! ## Closing -/

/-- The close procedure is under way, and its timer has been removed. -/
structure Shutting (m : Memory) : Prop where
  stacked : m.st.self = true
  unmisused : m.misused = false
  timer : m.st.timer = false
  timers : m.timers = 0
  closed : m.closed = true
  closing : m.closing = true
  alive : m.freed = false
  unstuck : m.stuck = false

theorem Opened.shutting (hm : Opened kind m) :
    Shutting { m with closed := true, closing := true }.disarmed where
  stacked := hm.stacked
  unmisused := hm.unmisused
  timer := rfl
  timers := rfl
  closed := rfl
  closing := rfl
  alive := hm.alive
  unstuck := by
    by_contra hstuck
    have hclosed := (hm.stuck (by simpa [Memory.disarmed] using hstuck)).2
    rw [hm.isOpen] at hclosed
    contradiction

theorem Shutting.sound (h : Shutting m) : Sound kind m where
  stacked := h.stacked
  unmisused := h.unmisused
  noted := by rw [h.timers, h.timer]; rfl
  gone _ := h.timers
  ended _ hclosing := by rw [h.closing] at hclosing; contradiction
  shut _ := h.closed
  closing _ := ⟨h.closed, h.alive⟩
  stuck hstuck := by rw [h.unstuck] at hstuck; contradiction

/-- The close procedure has freed the state. -/
theorem Shutting.freed (h : Shutting m) :
    Settled kind { m with freed := true, closing := false } where
  stacked := h.stacked
  unmisused := h.unmisused
  noted := by simp [h.timers, h.timer]
  gone _ := h.timers
  ended _ _ := by simp [h.unstuck]
  shut _ := h.closed
  closing hclosing := by contradiction
  stuck hstuck := by simp [h.unstuck] at hstuck
  unclosing := rfl

/-- The close procedure has returned without freeing it. -/
theorem Shutting.abandoned (h : Shutting m) (habandons : kind.abandons = true) :
    Settled kind { m with stuck := true, closing := false } where
  stacked := h.stacked
  unmisused := h.unmisused
  noted := by simp [h.timers, h.timer]
  gone _ := h.timers
  ended _ _ := by simp [h.alive]
  shut _ := h.closed
  closing hclosing := by contradiction
  stuck _ := ⟨habandons, h.closed⟩
  unclosing := rfl

/-- Whatever the scripts do that run during the last write, they do it to other
channels. -/
theorem lastWrite_safe (hm : Shutting m) (out : Nat) :
    (lastWrite kind out).Safe (summary kind).contract (fun goesOn m' =>
      if goesOn then m' = m else m' = { m with stuck := true } ∧ kind.abandons = true) m := by
  rw [lastWrite]
  split
  · rfl
  · rw [Program.safe_bind]
    refine ⟨hm.sound, fun len m' _ hm' => ?_⟩
    obtain rfl : m' = m := hm'.2.2.1.1 hm.closed hm.timers
    rw [Program.safe_node_pure]
    split
    next hfails => exact ⟨trivial, rfl, (Bool.and_eq_true_iff.mp hfails).1⟩
    next => rfl

theorem finishOutput_safe (hm : Shutting m) :
    (finishOutput kind).Safe (summary kind).contract (fun goesOn m' =>
      if goesOn = true then Shutting m'
      else m' = { m with stuck := true } ∧ kind.abandons = true) m := by
  have hmarked : Shutting { m with st := { m.st with eof := true } } :=
    ⟨hm.stacked, hm.unmisused, hm.timer, hm.timers, hm.closed, hm.closing, hm.alive, hm.unstuck⟩
  rw [finishOutput, Program.safe_bind, safe_access hm.alive]
  split
  · exact hm
  · refine safe_quiet rfl hm.sound fun out => ?_
    have hwritten : (lastOutput kind out).Safe (summary kind).contract (fun goesOn m' =>
        if goesOn then m' = m else m' = { m with stuck := true } ∧ kind.abandons = true) m := by
      cases out with
      | some out => exact lastWrite_safe hm out
      | none => rfl
    rw [Program.safe_bind]
    refine hwritten.mono fun goesOn m' hm' => ?_
    cases goesOn with
    | true =>
        obtain rfl : m' = m := hm'
        rw [if_pos rfl, Program.safe_bind, safe_assign hm.alive]
        exact hmarked
    | false => exact hm'

/-- The state is freed unless the last write has failed. -/
theorem closeProc_safe (hm : Opened kind m) :
    (closeProc kind).Safe (summary kind).contract
      (fun _ m' => Settled kind { m' with closing := false })
      { m with closed := true, closing := true } := by
  rw [closeProc, Program.safe_bind,
    safe_removeTimer (m := { m with closed := true, closing := true }) hm.alive hm.noted,
    Program.safe_bind]
  refine (finishOutput_safe hm.shutting).mono fun goesOn m' hm' => ?_
  cases goesOn with
  | true =>
      have hshutting : Shutting m' := hm'
      rw [if_pos rfl, safe_stateFree hshutting.alive hshutting.timer]
      exact hshutting.freed
  | false =>
      obtain ⟨rfl, habandons⟩ := hm'
      exact hm.shutting.abandoned habandons

/-! ## Requests -/

/-- A request that does not close an open channel. -/
theorem proc_settles (hm : Opened kind m) {q : Request} (hq : q.closes = false)
    (htimer : q ≠ .timer) : Settles kind (q.proc kind) m := by
  have hdone : ∀ {α : Type} {p : Code α}, Settles kind p m →
      Settles kind (do let _ ← p; pure ()) m := fun hp => by
    rw [Settles, Program.safe_bind]
    exact hp.mono fun _ _ hm' => hm'
  cases q with
  | input toRead => exact hdone (inputProc_settles hm toRead)
  | output toWrite => exact hdone (outputProc_settles hm toWrite)
  | watch mask => exact watchProc_settles hm mask
  | notify mask => exact hdone (notifyProc_settles hm mask)
  | timer => exact (htimer rfl).elim
  | blockMode nonblocking =>
      rw [Request.proc, blockModeProc, Settles, safe_assign hm.alive]
      exact (hm.assign (f := fun s => { s with async := nonblocking }) rfl rfl).settled
  | option => exact optionProc_settles hm
  | handle => exact getHandleProc_settles hm
  | close => contradiction
  | close2 closeRead closeWrite =>
      have hhalf : ¬(!closeRead && !closeWrite) = true := by simpa [Request.closes] using hq
      rw [Request.proc, close2Proc, if_neg hhalf]
      exact hm.settled

theorem Opened.keeps (hm : Opened kind m) {p : Code Unit} {m' : Memory}
    (hp : Settles kind p m') : (summary kind).Keeps m p m' := by
  refine hp.mono fun _ m'' hm'' => ⟨hm''.toSound, fun hclosed => ?_, ?_⟩
  · rw [hm.isOpen] at hclosed
    contradiction
  · rw [hm''.unclosing, hm.settled.unclosing]

theorem timer_keeps (hm : Sound kind m) : (summary kind).Keeps m (Request.body kind .timer) m := by
  rw [Request.body, Summary.Keeps, Program.safe_bind, Program.safe_state]
  by_cases htimers : m.timers = 0
  · rw [if_pos htimers]
    exact ⟨hm, (summary kind).refl m⟩
  · have hopen : Opened kind m := ⟨hm, by
      by_contra hclosed
      exact htimers (hm.gone (by simpa using hclosed))⟩
    rw [if_neg htimers]
    exact ⟨trivial, hopen.keeps (timerHandler_settles hopen htimers)⟩

/-- Whoever closes the channel runs the whole close procedure. -/
theorem close_keeps (hm : Opened kind m) {q : Request} (hq : q.closes = true) :
    Settles kind (do
      update fun m => { m with closed := true, closing := true }
      q.proc kind
      update fun m => { m with closing := false }) m := by
  have hproc : q.proc kind = closeProc kind := by
    cases q with
    | close => rfl
    | close2 closeRead closeWrite => exact if_pos hq
    | _ => contradiction
  rw [hproc, Settles, Program.safe_bind, Program.safe_update]
  refine ⟨trivial, ?_⟩
  rw [Program.safe_bind]
  exact (closeProc_safe hm).mono fun _ m' hm' => ⟨trivial, hm'⟩

/-- Every request keeps the invariant, and does what the summary says. -/
theorem body_keeps (q : Request) (hm : Sound kind m) :
    (summary kind).Keeps m (q.body kind) m := by
  by_cases htimer : q = .timer
  · subst htimer
    exact timer_keeps hm
  · have hbody : q.body kind = (do
        let m ← state
        if m.closed then pure ()
        else if q.closes then do
          update fun m => { m with closed := true, closing := true }
          q.proc kind
          update fun m => { m with closing := false }
        else q.proc kind) := by
      cases q <;> first
        | contradiction
        | rfl
    rw [hbody, Summary.Keeps, Program.safe_bind, Program.safe_state]
    cases hclosed : m.closed with
    | true => exact ⟨hm, (summary kind).refl m⟩
    | false =>
        have hopen : Opened kind m := ⟨hm, hclosed⟩
        rw [if_neg Bool.false_ne_true]
        cases hq : q.closes with
        | true => exact hopen.keeps (close_keeps hopen hq)
        | false => exact hopen.keeps (proc_settles hopen hq htimer)

end Procedures

/-! ## The data

The input procedures return what the model of the data says, and mark the same
end of file. -/

section Data

variable {σ : Type} {m : Memory} (call : ReadCall)

/-- The parent answers `call`; the library puts out so much. -/
def answering (updated finalized : Option Nat) (e : Call) (g : Unit) : e.Ans × Unit :=
  (match e with
    | .readRaw n => if h : call.toRead = n then h ▸ call.answer else .eof
    | .writeRaw n => (n : Int)
    | .update => updated
    | .finalize => finalized
    | .inputBuffered => (0 : Nat)
    | .notifyChannel _ | .watchParent _ | .parentOption | .parentHandle => (), g)

theorem run_assign {h : (e : Call) → Unit → e.Ans × Unit} (f : TransformState → TransformState)
    (w : World Memory Unit) : (assign f).run h w =
      ((), ⟨{ w.st with st := f w.st.st, misused := w.st.misused || w.st.freed }, w.env⟩) := rfl

theorem run_inputProc_digest (lib : DigestLibrary σ) {st : DigestState σ}
    (hself : m.st.self = st.self) (heof : m.st.eof = st.eof) :
    let r := (inputProc digestKind call.toRead).run (answering call none
      ((digestFinalize lib st).1.toOption.map List.length)) ⟨m, ()⟩
    r.1 = (digestInputProc lib st call).1.result ∧
      r.2.st.st.eof = (digestInputProc lib st call).2.eof := by
  by_cases hread : call.toRead ≤ 0
  · simp [inputProc, digestInputProc, hread, heof]
  cases hst : st.self with
  | false => simp [inputProc, digestInputProc, access, hread, hself, hst, heof]
  | true =>
      cases hanswer : call.answer with
      | data bytes nonempty bounded =>
          simp [inputProc, inputAnswered, digestInputProc, digestUpdate, access, answering,
            digestKind, hread, hself, hst, heof, hanswer]
      | error errno nonzero =>
          simp [inputProc, inputAnswered, digestInputProc, access, answering, hread, hself, hst,
            heof, hanswer]
      | eof =>
          cases hdone : st.eof with
          | true =>
              simp [inputProc, inputAnswered, digestInputProc, access, answering, hread, hself,
                hst, heof, hanswer, hdone]
          | false =>
              cases hfinal : (digestFinalize lib st).1 <;>
                simp [inputProc, inputAnswered, digestInputProc, digestInputFinalized, access,
                  run_assign, answering, ReadReply.last, hread, hself, hst, heof, hanswer, hdone,
                  hfinal, Except.toOption]

theorem run_inputProc_encrypt (lib : CipherLibrary σ) {st : EncryptState σ}
    (hself : m.st.self = st.self) (heof : m.st.eof = st.eof) {updated finalized : Option Nat}
    (hupdated : (encryptUpdate lib st.ctx call.answer.bytes call.answer.bytes.length).toOption.map
      (fun out => out.1.length) = updated)
    (hfinalized : (encryptFinalize lib st.ctx).toOption.map List.length = finalized) :
    let r := (inputProc encryptKind call.toRead).run (answering call updated finalized) ⟨m, ()⟩
    r.1 = (encryptInputProc lib st call).1.result ∧
      r.2.st.st.eof = (encryptInputProc lib st call).2.eof := by
  by_cases hread : call.toRead ≤ 0
  · simp [inputProc, encryptInputProc, hread, heof]
  cases hst : st.self with
  | false => simp [inputProc, encryptInputProc, access, hread, hself, hst, heof]
  | true =>
      have hguard : ¬(call.toRead ≤ 0 ∨ st.self = false) := by simpa [hst] using hread
      rw [encryptInputProc, if_neg hguard]
      cases hanswer : call.answer with
      | data bytes nonempty bounded =>
          rw [hanswer] at hupdated
          dsimp only [RawRead.bytes] at hupdated ⊢
          generalize encryptUpdate lib st.ctx bytes bytes.length = u at hupdated ⊢
          subst hupdated
          cases u with
          | error e =>
              simp [inputProc, inputAnswered, inputUpdated, access, answering, encryptKind, hread,
                hself, hst, heof, hanswer, Except.toOption]
          | ok r =>
              obtain ⟨out, ctx⟩ := r
              cases out <;>
                simp [inputProc, inputAnswered, inputUpdated, access, answering, encryptKind,
                  hread, hself, hst, heof, hanswer, Except.toOption]
      | error errno nonzero =>
          simp [inputProc, inputAnswered, access, answering, hread, hself, hst, heof, hanswer]
      | eof =>
          cases hdone : st.eof with
          | true =>
              simp [inputProc, inputAnswered, access, answering, hread, hself, hst, heof, hanswer,
                hdone]
          | false =>
              subst hfinalized
              cases encryptFinalize lib st.ctx <;>
                simp [inputProc, inputAnswered, inputFinalized, access, run_assign, answering,
                  ReadReply.last, hread, hself, hst, heof, hanswer, hdone, Except.toOption]

end Data

/-! ## Closed meanwhile -/

section Meanwhile

variable {kind} {m : Memory}

/-- The library fails, and there is nothing in the buffers. -/
def failing (e : Call) (g : Unit) : e.Ans × Unit :=
  (match e with
    | .readRaw _ => .eof
    | .writeRaw _ => (0 : Int)
    | .update | .finalize => none
    | .inputBuffered => (0 : Nat)
    | .notifyChannel _ | .watchParent _ | .parentOption | .parentHandle => (), g)

/-- A close frees the state. -/
theorem run_close (hclosed : m.closed = false) :
    ((Request.close.body kind).run failing ⟨m, ()⟩).2.st.freed = true := by
  have hupdate : ∀ u (w : World Memory Unit),
      (update u : Code Unit).run failing w = ((), ⟨u w.st, w.env⟩) := fun _ _ => rfl
  cases htimer : m.st.timer <;> cases heof : m.st.eof <;>
    simp [hupdate, Request.body, Request.proc, Request.closes, closeProc, removeTimer, finishOutput,
      lastOutput, stateFree, access, assign, deleteTimerHandler, ckfree, failing, hclosed, htimer,
      heof]

/-- The request calls the parent channel and goes on with the state. -/
def Request.goesOn : Request → Prop
  | .input toRead => 0 < toRead
  | .watch _ => True
  | _ => False

theorem settle_state {α : Type} (f : Memory → Code α) (m : Memory) :
    (state >>= f).settle m = (f m).settle m := rfl

theorem settle_access {α : Type} (f : TransformState → Code α) (m : Memory) :
    (access >>= f).settle m =
      (f m.st).settle { m with misused := m.misused || m.freed } := rfl

theorem settle_assign {α : Type} (u : TransformState → TransformState) (f : Unit → Code α)
    (m : Memory) : (assign u >>= f).settle m =
      (f ()).settle { m with st := u m.st, misused := m.misused || m.freed } := rfl

/-- The request gets to its call, and goes on with the state when it has returned. -/
theorem body_settle (hopen : Opened kind m) {q : Request} (hq : q.goesOn) :
    ∃ (e : Call) (k : e.Ans → Code Unit) (m' : Memory), e.scripted = true ∧ m'.closed = false ∧
      (q.body kind).settle m = (.call e k, m') ∧
      ∃ r, ∀ m'' : Memory, m''.freed = true → ((k r).settle m'').2.misused = true := by
  cases q with
  | input toRead =>
      have hpos : ¬ toRead ≤ 0 := by
        have h : 0 < toRead := hq
        omega
      refine ⟨.readRaw toRead, fun a => do let _ ← inputAnswered kind a; pure (),
        { m with misused := m.misused || m.freed }, rfl, hopen.isOpen, ?_, .eof,
        fun m'' hfreed => ?_⟩
      · simp only [Request.body, Request.closes, Request.proc, inputProc, Program.bind_assoc, hpos,
          settle_state, settle_access, hopen.isOpen, hopen.stacked, if_neg, Bool.not_true,
          Bool.false_eq_true, not_false_eq_true]
        rfl
      · simp only [inputAnswered, Program.bind_assoc, settle_access, hfreed, Bool.or_true]
        cases m''.st.eof <;> rfl
  | watch mask =>
      refine ⟨.watchParent mask, fun _ => do removeTimer; announce mask,
        { m with
          st := { m.st with watchMask := mask }
          misused := m.misused || m.freed || m.freed }, rfl, hopen.isOpen, ?_, (),
        fun m'' hfreed => ?_⟩
      · simp only [Request.body, Request.closes, Request.proc, watchProc, Program.bind_assoc,
          settle_state, settle_access, settle_assign, hopen.isOpen, hopen.stacked, if_neg, Bool.not_true,
          Bool.false_eq_true, not_false_eq_true]
        rfl
      · simp only [removeTimer, announce, Program.bind_assoc, settle_access, hfreed, Bool.or_true]
        cases m''.st.timer <;> cases mask.readable <;> rfl
  | _ => exact hq.elim

/-- A script that closes the channel during that call makes the request access a
state that has been freed. -/
theorem run_misused (hopen : Opened kind m) {q : Request} (hq : q.goesOn)
    (fs : List (machine kind).Activation) :
    ∃ y, Machine.Run (Machine.anyStart (machine kind)) ⟨m, Machine.enter q :: fs⟩ y ∧
      y.st.misused = true := by
  obtain ⟨e, k, m', hscripted, hm', hsettle, r, hr⟩ := body_settle hopen hq
  have hissue : Machine.Run (Machine.anyStart (machine kind)) ⟨m, Machine.enter q :: fs⟩
      ⟨m', ⟨q, .pending e k⟩ :: fs⟩ := Machine.run_issue hsettle
  have hstart := hissue.tail (.start (m := machine kind) .close hscripted trivial)
  have hclosed := hstart.trans (Machine.run_program failing _ _ _ _ ⟨m', ()⟩)
  have hanswer := hclosed.tail (.answer r)
  exact ⟨_, hanswer.trans (Machine.run_settle _ _ _), hr _ (run_close hm')⟩

end Meanwhile

/-! ## Every run -/

/-- Something can be started: nothing is active, or a script runs. -/
def Idle (x : (machine kind).Config) : Prop :=
  ∀ f ∈ x.stack.head?, f.Awaits fun e => e.scripted = true

/-- **The state outlives its use** as long as no script closes the channel during
a call to the parent whose caller goes on with the state.  Whenever nobody has
control, nothing has been misused, and there is one timer at most, which the
state has noted; and when nothing is active any more, a channel that has been
closed has no timer, and its state has been freed once, or never if the last write
of the close procedure has failed.

Such a script is all it takes: whenever something can be started on an open
channel, a read or a change of the mask can come to use a state that has been
freed. -/
theorem Kind.lifetime (x : (machine kind).Config) (hx : (summary kind).Run ⟨{}, []⟩ x) :
    (Machine.Quiescent x → Sound kind x.st) ∧
      (x.stack = [] → x.st.closed = true → x.st.timers = 0 ∧ x.st.freed = !x.st.stuck) ∧
      (Idle kind x → x.st.closed = false → ∀ q : Request, q.goesOn →
        ∃ y, Machine.Run (Machine.anyStart (machine kind)) x y ∧ y.st.misused = true) := by
  have hstart : Sound kind {} := by
    refine ⟨rfl, rfl, rfl, ?_, ?_, ?_, ?_, ?_⟩ <;> simp
  obtain ⟨hinv, hsum⟩ := Summary.run (fun q m hm => body_keeps q hm) hstart hx
  refine ⟨hinv, fun hnone hclosed => ?_, fun hidle hopen q hq => ?_⟩
  · have hsound : Sound kind x.st := hinv fun f hf => by simp [hnone] at hf
    exact ⟨hsound.gone hclosed, hsound.ended hclosed (hsum hnone).2⟩
  · have hquiescent : Machine.Quiescent x := fun f hf => by
      have hawaits := hidle f hf
      obtain ⟨p, p' | ⟨e, k⟩⟩ := f
      · exact hawaits
      · trivial
    have hsound : Sound kind x.st := hinv hquiescent
    obtain ⟨y, hrun, hmisused⟩ := run_misused ⟨hsound, hopen⟩ hq x.stack
    refine ⟨y, .head ?_ hrun, hmisused⟩
    obtain ⟨m, fs⟩ := x
    cases fs with
    | nil => exact .begin (m := machine kind) q
    | cons f fs =>
        have hawaits := hidle f rfl
        obtain ⟨p, p' | ⟨e, k⟩⟩ := f
        · exact hawaits.elim
        · exact .start (m := machine kind) q hawaits trivial

/-- The parent of a digest channel is read, and a script closes the channel. -/
theorem lifetime_digest :
    ∃ y, Machine.Run (Machine.anyStart (machine digestKind)) ⟨{}, []⟩ y ∧ y.st.misused = true :=
  (Kind.lifetime digestKind ⟨{}, []⟩ .refl).2.2 (fun _ hf => nomatch hf) rfl (.input 4096)
    (by decide : (0 : Int) < 4096)

end Stacked

end TclTls
