import TclTls.Channel
import TclTls.Handshake
import TclTls.Input
import TclTls.Output

/-!
# TclTls.Session

An imported channel over its whole life: the calls of the generic layer, one
after another, each with the answers the library gives during it.

Nothing here says which calls make sense when; a session may go on after it has
been closed, or fire a timer that is not armed.  What is shown for all of them
holds for those Tcl really makes.

`Flags.Later` is the order in which flags develop.  Every call moves forward in
it (`Session.next_later`), hence every run does (`Session.after_later`).
-/

namespace TclTls

open Interaction

variable (lib : Platform)

/-! ## Calls of the generic layer -/

inductive Request where
  | input (bufSize : Int)
  | output (toWrite : Int)
  | watch (mask : Mask)
  | notify (mask : Mask)
  | timer
  | blockMode (nonblocking : Bool)
  | close
  | close2 (closeRead closeWrite : Bool)
  | handshake (find : String → Option TopChannel) (objv : List String)

inductive Reply where
  | moved (r : Int × Errno)
  | code (n : Int)
  | events (mask : Mask)
  | command (r : Except TclError Int)
  | done

/-- The procedure behind a request. -/
def Request.proc : Request → Driver Reply
  | .input bufSize => do let r ← tlsInputProc lib bufSize; pure (.moved r)
  | .output toWrite => do let r ← tlsOutputProc lib toWrite; pure (.moved r)
  | .watch mask => do tlsWatchProc mask; pure .done
  | .notify mask => do let m ← tlsNotifyProc lib mask; pure (.events m)
  | .timer => do tlsChannelHandlerTimer; pure .done
  | .blockMode nonblocking => do let n ← tlsBlockModeProc nonblocking; pure (.code n)
  | .close => do let n ← tlsCloseProc; pure (.code n)
  | .close2 closeRead closeWrite => do let n ← tlsClose2Proc closeRead closeWrite; pure (.code n)
  | .handshake find objv => do let r ← handshakeObjCmd lib find objv; pure (.command r)

/-- A request, and the answers the library has in store for it. -/
structure Step where
  request : Request
  answers : Answers

/-- A connection between two calls. -/
structure Session where
  st : State
  refs : Refs := {}

namespace Session

/-- The connection at the beginning of a call: nothing has been logged. -/
def conn (c : Session) (answers : Answers) : Conn := ⟨c.st, ⟨answers, c.refs, []⟩⟩

/-- Serve one request. -/
def serve (c : Session) (step : Step) : Reply × Conn :=
  (c.conn step.answers).run (step.request.proc lib)

def reply (c : Session) (step : Step) : Reply := (c.serve lib step).1

/-- The calls on the wire that serving the request takes. -/
def wireLog (c : Session) (step : Step) : List Event := (c.serve lib step).2.env.wireLog

def next (c : Session) (step : Step) : Session :=
  ⟨(c.serve lib step).2.st, (c.serve lib step).2.env.refs⟩

/-- The connection after a run. -/
def after (c : Session) (run : List Step) : Session := run.foldl (next lib) c

@[simp] theorem after_nil (c : Session) : c.after lib [] = c := rfl

theorem after_append (c : Session) (run later : List Step) :
    c.after lib (run ++ later) = (c.after lib run).after lib later := by
  simp [after]

end Session

/-! ## How flags develop -/

/-- `f'` may come after `f`: a failure, an end of file and an established
connection are for good, and nothing fails without being at its end. -/
structure Flags.Later (f f' : Flags) : Prop where
  fatalError : f.fatalError = true → f'.fatalError = true
  eof : f.eof = true → f'.eof = true
  init : f.init = false → f'.init = false
  failed : (f.fatalError = true → f.eof = true) → f'.fatalError = true → f'.eof = true
  callback : f'.callback = f.callback

namespace Flags.Later

@[refl] theorem refl (f : Flags) : f.Later f := ⟨id, id, id, id, rfl⟩

theorem trans {f f' f'' : Flags} (h : f.Later f') (h' : f'.Later f'') : f.Later f'' :=
  ⟨h'.fatalError ∘ h.fatalError, h'.eof ∘ h.eof, h'.init ∘ h.init, h'.failed ∘ h.failed,
    h'.callback.trans h.callback⟩

theorem atEof (f : Flags) : f.Later { f with eof := true } :=
  ⟨id, fun _ => rfl, id, fun _ _ => rfl, rfl⟩

theorem atFailure (f : Flags) : f.Later { f with fatalError := true, eof := true } :=
  ⟨fun _ => rfl, fun _ => rfl, id, fun _ _ => rfl, rfl⟩

theorem settle (a : Answer) (f : Flags) : f.Later (a.settle f) := by
  unfold Answer.settle
  split
  · exact ⟨id, id, fun _ => rfl, id, rfl⟩
  · exact atFailure f
  · split
    · exact atEof f
    · exact atFailure f
  · exact atEof f
  · exact refl f

theorem connectOutcome (permanent : Bool) (f : Flags) (as : Supply Answer) :
    f.Later (connectOutcome permanent f as).2 := by
  unfold TclTls.connectOutcome
  split
  · exact refl f
  · split
    · exact refl f
    · split
      · exact refl f
      · exact settle _ f

theorem ioSettle (a : Answer) (f : Flags) : f.Later (a.ioSettle f) := by
  unfold Answer.ioSettle
  split
  · split
    · exact atEof f
    · exact atFailure f
  · exact atEof f
  · exact refl f

theorem inputSettle (a : Answer) (f : Flags) : f.Later (a.inputSettle lib f) := by
  unfold Answer.inputSettle
  split
  · exact refl f
  · split
    · exact atEof f
    · exact atFailure f
  · exact ioSettle a f

theorem outputSettle (a : Answer) (f : Flags) : f.Later (a.outputSettle f) := by
  unfold Answer.outputSettle
  split
  · exact refl f
  · exact atFailure f
  · exact ioSettle a f

theorem withConnectionOutcome {io : Flags → IoOutcome} (hio : ∀ f' : Flags, f'.Later (io f').flags)
    (permanent : Bool) (f : Flags) (as : Supply Answer) :
    f.Later (withConnectionOutcome permanent f as io).flags := by
  have hconnect := connectOutcome permanent f as
  unfold TclTls.withConnectionOutcome
  split
  next tlsConnect errorCode f' ho =>
    rw [ho] at hconnect
    split
    · split
      · exact hconnect.trans (atEof f')
      · exact hconnect
    · split
      · exact hconnect
      · exact hconnect.trans (hio f')

end Flags.Later

/-! ## One call -/

theorem inputOutcome_later (f : Flags) (as : Supply Answer) {n : Int} (a : Transfer n) :
    f.Later (inputOutcome lib f as a).flags := by
  unfold inputOutcome
  split
  · exact .refl f
  · exact Flags.Later.withConnectionOutcome (fun f' => .inputSettle lib a.toAnswer f') _ f as

theorem outputOutcome_later (f : Flags) (as : Supply Answer) {n : Int} (a : Transfer n)
    (flushed : Int) : f.Later (outputOutcome f as a flushed).flags := by
  unfold outputOutcome
  split
  · exact .refl f
  · split
    · exact .refl f
    · refine Flags.Later.withConnectionOutcome (fun f' => ?_) _ f as
      split
      · exact .refl f'
      · exact .outputSettle a.toAnswer f'

theorem tlsInputProc_later (n : Int) (w : Conn) :
    w.st.flags.Later (w.run (tlsInputProc lib n)).2.st.flags := by
  obtain ⟨w', hrun, hflags, -⟩ := tlsInputProc_endsAs lib n w
  rw [hrun, hflags]
  exact inputOutcome_later lib _ _ _

theorem tlsOutputProc_later (n : Int) (w : Conn) :
    w.st.flags.Later (w.run (tlsOutputProc lib n)).2.st.flags := by
  obtain ⟨w', hrun, hflags, -⟩ := tlsOutputProc_endsAs lib n w
  rw [hrun, hflags]
  exact outputOutcome_later _ _ _ _

/-- A procedure that leaves the flags alone. -/
theorem bystander_later {α : Type} {p : Driver α} {w : Conn}
    (hp : p.Safe offWire (fun _ s' => s'.flags = w.st.flags) w.st) :
    w.st.flags.Later (w.run p).2.st.flags := by
  obtain ⟨hflags, -⟩ := run_offWire hp
  rw [hflags]

theorem run_handshakeObjCmd_later (find : String → Option TopChannel) (objv : List String)
    (w : Conn) : w.st.flags.Later (w.run (handshakeObjCmd lib find objv)).2.st.flags := by
  cases hobjv : namesTls find objv with
  | false =>
      obtain ⟨e, he⟩ := handshakeObjCmd_other lib hobjv
      rw [he]
      exact .refl _
  | true =>
      obtain ⟨e, w', hrun, hflags⟩ := run_handshakeObjCmd lib hobjv w
      rw [hrun, hflags]
      exact .connectOutcome true _ _

theorem run_tlsNotifyProc_later (mask : Mask) (w : Conn) :
    w.st.flags.Later (w.run (tlsNotifyProc lib mask)).2.st.flags := by
  obtain ⟨hflags, -⟩ := run_offWire (w := w) (removeTimer_bystander rfl)
  cases hremove : w.run removeTimer with
  | mk u w₁ =>
      rw [hremove] at hflags
      rw [← hflags]
      obtain ⟨w', hconnect, hflags', -⟩ := run_tlsWaitForConnect lib true w₁
      cases hcallback : w₁.st.flags.callback with
      | true => simp [tlsNotifyProc, hremove, hcallback, Flags.Later.refl]
      | false =>
          cases hinit : w₁.st.flags.init with
          | false => simp [tlsNotifyProc, hremove, hcallback, hinit, Flags.Later.refl]
          | true =>
              have hrun : (w.run (tlsNotifyProc lib mask)).2.st.flags = w'.st.flags := by
                simp [tlsNotifyProc, hremove, hcallback, hinit, hconnect]
                split <;> rfl
              rw [hrun, hflags']
              exact .connectOutcome true _ _

theorem tlsCloseProc_later (w : Conn) : w.st.flags.Later (w.run tlsCloseProc).2.st.flags := by
  obtain ⟨h | h, -⟩ := run_offData (w := w) tlsCloseProc_offData
  · rw [h]
  · rw [h]
    exact ⟨id, id, id, id, rfl⟩

theorem tlsClose2Proc_later (closeRead closeWrite : Bool) (w : Conn) :
    w.st.flags.Later (w.run (tlsClose2Proc closeRead closeWrite)).2.st.flags := by
  unfold tlsClose2Proc
  split
  · exact tlsCloseProc_later w
  · exact .refl _

theorem tlsBlockModeProc_later (nonblocking : Bool) (w : Conn) :
    w.st.flags.Later (w.run (tlsBlockModeProc nonblocking)).2.st.flags :=
  ⟨id, id, id, id, rfl⟩

/-- **One call moves the flags forward.** -/
theorem Session.next_later (c : Session) (step : Step) :
    c.st.flags.Later (c.next lib step).st.flags := by
  obtain ⟨request, answers⟩ := step
  have hstart : (c.conn answers).st = c.st := rfl
  rw [← hstart]
  cases request <;> simp only [next, serve, Request.proc, Program.run_bind_pure]
  case input n => exact tlsInputProc_later lib n _
  case output n => exact tlsOutputProc_later lib n _
  case watch mask => exact bystander_later (tlsWatchProc_bystander mask rfl)
  case notify mask => exact run_tlsNotifyProc_later lib mask _
  case timer => exact bystander_later (tlsChannelHandlerTimer_bystander rfl)
  case blockMode nonblocking => exact tlsBlockModeProc_later nonblocking _
  case close => exact tlsCloseProc_later _
  case close2 closeRead closeWrite => exact tlsClose2Proc_later closeRead closeWrite _
  case handshake find objv => exact run_handshakeObjCmd_later lib find objv _

/-! ## After a failure -/

section Failed

variable {f : Flags} {s : State}

theorem tlsWaitForConnect_of_fatal (permanent : Bool) (hfatal : f.fatalError = true)
    (hs : s.flags = f) :
    (tlsWaitForConnect lib permanent).Safe offWire (fun _ s' => s'.flags = f) s := by
  subst hs
  cases hinit : s.flags.init <;> cases permanent <;> simp [tlsWaitForConnect, hinit, hfatal]

theorem tlsNotifyProc_of_fatal (mask : Mask) (hfatal : f.fatalError = true) (hs : s.flags = f) :
    (tlsNotifyProc lib mask).Safe offWire (fun _ s' => s'.flags = f) s := by
  refine bystander_bind (removeTimer_bystander hs) fun _ s₁ hs₁ => ?_
  subst hs₁
  have hconnect := tlsWaitForConnect_of_fatal lib true hfatal (s := s₁) rfl
  cases hcallback : s₁.flags.callback <;> cases hinit : s₁.flags.init
  all_goals simp [hcallback, hinit]
  exact hconnect.mono fun r s₂ hs₂ => hs₂

theorem handshakeObjCmd_of_fatal (find : String → Option TopChannel) (objv : List String)
    (hfatal : f.fatalError = true) (hs : s.flags = f) :
    (handshakeObjCmd lib find objv).Safe offWire (fun _ s' => s'.flags = f) s := by
  cases hobjv : namesTls find objv with
  | false =>
      obtain ⟨e, he⟩ := handshakeObjCmd_other lib hobjv
      rw [he]
      exact hs
  | true =>
      rw [handshakeObjCmd_eq lib hobjv]
      refine bystander_bind (tlsWaitForConnect_of_fatal lib true hfatal hs) fun r s₁ hs₁ => ?_
      by_cases hagain : r.1 ≤ 0 ∧ s₁.flags.async ∧ r.2 = Errno.eagain <;>
        by_cases hfail : r.1 < 0 <;>
        simp [handshakeReply, Call.wire, hagain, hfail, hs₁]

/-- What a request on a failed connection is answered. -/
def Request.Refused : Request → Reply → Prop
  | .input _, r => r = .moved (0, 0)
  | .output _, r => r = .moved (-1, Errno.econnaborted)
  | _, _ => True

theorem proc_of_fatal (q : Request) (hcallback : s.flags.callback = false)
    (hfatal : s.flags.fatalError = true) :
    (q.proc lib).Safe offWire (fun r _ => q.Refused r) s := by
  have hbystander : ∀ {α : Type} {p : Driver α} {g : α → Reply},
      p.Safe offWire (fun _ s' => s'.flags = s.flags) s →
      Program.Safe offWire (fun _ _ => True) (do let a ← p; pure (g a)) s :=
    fun hp => bystander_bind hp fun _ _ _ => trivial
  cases q with
  | input n => simp [Request.proc, Request.Refused, tlsInputProc, hcallback, hfatal]
  | output n => simp [Request.proc, Request.Refused, tlsOutputProc, hcallback, hfatal]
  | watch mask => exact hbystander (tlsWatchProc_bystander mask rfl)
  | notify mask => exact hbystander (tlsNotifyProc_of_fatal lib mask hfatal rfl)
  | timer => exact hbystander (tlsChannelHandlerTimer_bystander rfl)
  | blockMode nonblocking => simp [Request.proc, Request.Refused, tlsBlockModeProc]
  | close => exact hbystander (tlsCloseProc_bystander hfatal rfl)
  | close2 closeRead closeWrite =>
      refine hbystander ?_
      unfold tlsClose2Proc
      split
      · exact tlsCloseProc_bystander hfatal rfl
      · rfl
  | handshake find objv => exact hbystander (handshakeObjCmd_of_fatal lib find objv hfatal rfl)

end Failed

/-! ## Runs -/

/-- **A run moves the flags forward.** -/
theorem Session.after_later (c : Session) (run : List Step) :
    c.st.flags.Later (c.after lib run).st.flags := by
  induction run generalizing c with
  | nil => exact .refl _
  | cons step run ih => exact (c.next_later lib step).trans (ih (c.next lib step))

/-- Whatever is requested of it, the connection keeps off the wire; it reads
nothing and writes nothing. -/
structure Session.Failed (c : Session) : Prop where
  offWire : ∀ step, c.wireLog lib step = []
  reads : ∀ n answers, c.reply lib ⟨.input n, answers⟩ = .moved (0, 0)
  writes : ∀ n answers, c.reply lib ⟨.output n, answers⟩ = .moved (-1, Errno.econnaborted)

theorem Session.failed_of_fatal {c : Session} (hcallback : c.st.flags.callback = false)
    (hfatal : c.st.flags.fatalError = true) : c.Failed lib := by
  have hserve : ∀ step : Step, step.request.Refused (c.reply lib step) ∧ c.wireLog lib step = [] := by
    intro step
    obtain ⟨hreply, hwire⟩ := run_offWire (w := c.conn step.answers)
      (proc_of_fatal lib step.request hcallback hfatal)
    exact ⟨hreply, hwire.wireLog⟩
  exact ⟨fun step => (hserve step).2, fun n answers => (hserve ⟨.input n, answers⟩).1,
    fun n answers => (hserve ⟨.output n, answers⟩).1⟩

/-- **A failure is final.**  In every run of an imported channel the flags of
failure, end of file and establishment are for good, a failed connection is at
its end of file, and it stays failed. -/
theorem Session.failure_final (c : Session) (hc : c.st.flags.Imported) (run later : List Step) :
    ((c.after lib run).st.flags.fatalError = true →
        (c.after lib (run ++ later)).st.flags.fatalError = true) ∧
      ((c.after lib run).st.flags.eof = true →
        (c.after lib (run ++ later)).st.flags.eof = true) ∧
      ((c.after lib run).st.flags.init = false →
        (c.after lib (run ++ later)).st.flags.init = false) ∧
      ((c.after lib run).st.flags.fatalError = true → (c.after lib run).st.flags.eof = true) ∧
      ((c.after lib run).st.flags.fatalError = true →
        (c.after lib (run ++ later)).Failed lib) := by
  have hrun := c.after_later lib run
  have hlater := (c.after lib run).after_later lib later
  rw [← after_append] at hlater
  refine ⟨hlater.fatalError, hlater.eof, hlater.init, hrun.failed ?_, fun hfatal => ?_⟩
  · intro hfatal
    rw [hc.fatalError] at hfatal
    contradiction
  · refine failed_of_fatal lib ?_ (hlater.fatalError hfatal)
    rw [hlater.callback, hrun.callback, hc.callback]

/-- A fresh client. -/
def freshClient : Session where
  st := { flags := { init := true } }

/-- A read during which the handshake breaks down. -/
def brokenRead : Step where
  request := .input 4096
  answers := .steady ⟨-1, .ssl, 1, 0, false, by decide⟩
    (Answer.wantRead.toTransfer Answer.wantRead_ret) (Answer.wantRead.toTransfer Answer.wantRead_ret) ⟨tclOk, ""⟩

theorem Session.failure_final_broken :
    (freshClient.after .plain ([brokenRead] ++ [brokenRead])).Failed .plain :=
  (freshClient.failure_final .plain ⟨rfl, rfl, rfl, rfl, rfl⟩ [brokenRead] [brokenRead]).2.2.2.2
    (by decide)

end TclTls
