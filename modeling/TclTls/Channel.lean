import TclTls.Connect

/-!
# TclTls.Channel

The rest of the channel driver: blocking mode, closing, watching for events and
the timer that makes up for events the underlying channel does not see.

None of these procedures but `tlsNotifyProc` and `tlsCloseProc` reaches the SSL
state machine, and `tlsNotifyProc` does so only to go on with the handshake.
-/

namespace TclTls

open Interaction
open Interaction.Program (state update)

variable (lib : Platform)

/-- `TLS_TCL_DELAY` -/
def tlsTclDelay : Nat := 5

/-- `TlsBlockModeProc` -/
def tlsBlockModeProc (nonblocking : Bool) : Driver Int := do
  update fun s => { s with flags.async := nonblocking }
  pure 0

/-! ## Closing -/

/-- Drop a pending timer and the reference it holds. -/
def removeTimer : Driver Unit := do
  let s ← state
  if s.timer then
    call .deleteTimerHandler
    update fun s => { s with timer := false }
    tclRelease

/-- Send the "close notify" alert, but never after a fatal error. -/
def closeNotify : Driver Unit := do
  let s ← state
  if s.ssl.isSome && !s.flags.init && !s.flags.fatalError then
    let _ ← call .bioFlush
    call .sslShutdown
    update fun s => { s with flags.closed := true }

/-- `TlsCloseProc` -/
def tlsCloseProc : Driver Int := do
  closeNotify
  removeTimer
  tclEventuallyFree
  pure 0

/-- `TlsClose2Proc`; the arguments are the bits `TCL_CLOSE_READ` and
`TCL_CLOSE_WRITE` of its `flags`. -/
def tlsClose2Proc (closeRead closeWrite : Bool) : Driver Int :=
  if !closeRead && !closeWrite then tlsCloseProc
  else pure Errno.einval

/-! ## Events -/

/-- Data waits in the channel's or the BIO's write buffer. -/
def outputWaiting : Driver Bool := do
  let buffered ← call .outputBuffered
  if 0 < buffered then pure true
  else
    let pending ← call .bioWpending
    pure (decide (0 < pending))

/-- Data waits in the channel's or the BIO's read buffer. -/
def inputWaiting : Driver Bool := do
  let buffered ← call .inputBuffered
  if 0 < buffered then pure true
  else
    let pending ← call .bioPending
    pure (decide (0 < pending))

/-- The events the timer announces: what the library waits for, and what the
buffers hold that the connection can still move. -/
def timerMask : Driver Mask := do
  let s ← state
  let writable ← outputWaiting
  let readable ← inputWaiting
  pure { s.want with
    writable := s.want.writable || (writable && !s.flags.eof)
    readable := s.want.readable || (readable && !s.flags.closed) }

/-- `TlsChannelHandlerTimer` -/
def tlsChannelHandlerTimer : Driver Unit := do
  let s ← state
  update fun s => { s with timer := false }
  let mask ← timerMask
  call (.notifyChannel mask)
  update fun s => { s with want := {} }
  if s.timer then
    tclRelease

/-- `pending` of `TlsWatchProc`: something waits that no event will announce. -/
def watchPending (mask : Mask) : Driver Bool := do
  let s ← state
  if s.want.any then pure true
  else
    let readable ← (if mask.readable then inputWaiting else pure false)
    if readable then pure true
    else if mask.writable then outputWaiting
    else pure false

/-- Remove the timer, and add one if the mask asks for input. -/
def renewTimer (mask : Mask) : Driver Unit := do
  removeTimer
  if mask.readable then
    call .preserve
    call (.createTimerHandler tlsTclDelay)
    update fun s => { s with timer := true }

/-- `TlsWatchProc` -/
def tlsWatchProc (mask : Mask) : Driver Unit := do
  let s ← state
  if s.flags.callback then pure ()
  else if s.flags.fatalError then do
    call (.watchParent {})
    update fun s => { s with watchMask := {} }
  else do
    update fun s => { s with watchMask := mask }
    call (.watchParent mask)
    -- the result is computed, but the timer is armed by the mask alone
    let _ ← watchPending mask
    renewTimer mask

/-- `TlsNotifyProc` -/
def tlsNotifyProc (mask : Mask) : Driver Mask := do
  removeTimer
  let s ← state
  if s.flags.callback then pure {}
  else if s.flags.init then do
    let (tlsConnect, errorCode) ← tlsWaitForConnect lib true
    if tlsConnect < 1 ∧ errorCode = Errno.eagain then pure {}
    else pure mask
  else pure mask

/-! ## What they do to the flags -/

section Flags

variable {f : Flags} {s : State}

@[simp] theorem removeTimer_bystander (hs : s.flags = f) :
    removeTimer.Safe offWire (fun _ s' => s'.flags = f) s := by
  cases htimer : s.timer <;> simp [removeTimer, Call.wire, htimer, hs]

@[simp] theorem outputWaiting_bystander (hs : s.flags = f) :
    outputWaiting.Safe offWire (fun _ s' => s'.flags = f) s := by
  simp [outputWaiting, Call.wire, hs]

@[simp] theorem inputWaiting_bystander (hs : s.flags = f) :
    inputWaiting.Safe offWire (fun _ s' => s'.flags = f) s := by
  simp [inputWaiting, Call.wire, hs]

@[simp] theorem timerMask_bystander (hs : s.flags = f) :
    timerMask.Safe offWire (fun _ s' => s'.flags = f) s := by
  refine bystander_bind (f := f) (by simp [hs]) fun s₀ s₁ hs₁ => ?_
  refine bystander_bind (outputWaiting_bystander hs₁) fun writable s₂ hs₂ => ?_
  exact bystander_bind (inputWaiting_bystander hs₂) fun readable s₃ hs₃ => hs₃

theorem tlsChannelHandlerTimer_bystander (hs : s.flags = f) :
    tlsChannelHandlerTimer.Safe offWire (fun _ s' => s'.flags = f) s := by
  refine bystander_bind (f := f) (by simp [hs]) fun s₀ s₁ hs₁ => ?_
  refine bystander_bind (f := f) (by simp [hs₁]) fun _ s₂ hs₂ => ?_
  refine bystander_bind (timerMask_bystander hs₂) fun mask s₃ hs₃ => ?_
  cases s₀.timer <;> simp [Call.wire, hs₃]

theorem watchPending_bystander (mask : Mask) (hs : s.flags = f) :
    (watchPending mask).Safe offWire (fun _ s' => s'.flags = f) s := by
  refine bystander_bind (f := f) (by simp [hs]) fun s₀ s₁ hs₁ => ?_
  cases s₀.want.any with
  | true => simpa using hs₁
  | false =>
      rw [if_neg Bool.false_ne_true]
      refine bystander_bind (f := f) ?_ fun readable s₂ hs₂ => ?_
      · cases mask.readable <;> simp [hs₁]
      · cases readable <;> cases mask.writable <;> simp [hs₂]

theorem renewTimer_bystander (mask : Mask) (hs : s.flags = f) :
    (renewTimer mask).Safe offWire (fun _ s' => s'.flags = f) s := by
  refine bystander_bind (removeTimer_bystander hs) fun _ s₁ hs₁ => ?_
  cases mask.readable <;> simp [Call.wire, hs₁]

theorem tlsWatchProc_bystander (mask : Mask) (hs : s.flags = f) :
    (tlsWatchProc mask).Safe offWire (fun _ s' => s'.flags = f) s := by
  have hwatch : ∀ s' : State, s'.flags = f →
      Program.Safe offWire (fun _ s' => s'.flags = f) (do
        call (.watchParent mask)
        let _ ← watchPending mask
        renewTimer mask) s' := by
    intro s' hs'
    refine bystander_bind (f := f) (by simp [Call.wire, hs']) fun _ s₁ hs₁ => ?_
    exact bystander_bind (watchPending_bystander mask hs₁) fun _ s₂ hs₂ =>
      renewTimer_bystander mask hs₂
  subst hs
  cases hcallback : s.flags.callback with
  | true => simp [tlsWatchProc, hcallback]
  | false =>
      cases hfatal : s.flags.fatalError with
      | true => simp [tlsWatchProc, hcallback, hfatal, Call.wire]
      | false =>
          have hmask := hwatch { s with watchMask := mask } rfl
          simpa [tlsWatchProc, hcallback, hfatal] using hmask

/-- What `TlsCloseProc` does after the alert. -/
theorem closeRelease_bystander (hs : s.flags = f) :
    Program.Safe offWire (fun _ s' => s'.flags = f)
      (do removeTimer; tclEventuallyFree; pure (0 : Int)) s := by
  refine bystander_bind (removeTimer_bystander hs) fun _ s₁ hs₁ => ?_
  exact bystander_bind (tclEventuallyFree_bystander hs₁) fun _ s₂ hs₂ => hs₂

/-- Closing at most marks the connection closed. -/
theorem tlsCloseProc_offData :
    tlsCloseProc.Safe offData
      (fun _ s' => s'.flags = s.flags ∨ s'.flags = { s.flags with closed := true }) s := by
  have hnotify : closeNotify.Safe offData
      (fun _ s' => s'.flags = s.flags ∨ s'.flags = { s.flags with closed := true }) s := by
    cases s.ssl.isSome && !s.flags.init && !s.flags.fatalError <;>
      simp [closeNotify, Call.data]
  rw [tlsCloseProc, Program.safe_bind]
  refine hnotify.mono fun _ s₁ hs₁ => ?_
  refine (offData_of_offWire (closeRelease_bystander rfl)).mono fun _ s₂ hs₂ => ?_
  rwa [hs₂]

/-- After a fatal error, closing keeps off the wire. -/
theorem tlsCloseProc_bystander (hfatal : s.flags.fatalError = true) (hs : s.flags = f) :
    tlsCloseProc.Safe offWire (fun _ s' => s'.flags = f) s := by
  refine bystander_bind (f := f) ?_ fun _ s₁ hs₁ => closeRelease_bystander hs₁
  simp [closeNotify, hfatal]
  exact hs

end Flags

end TclTls
