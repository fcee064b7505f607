import TclTls.Interaction.Monitor
import TclTls.Reentry

/-!
# TclTls.Wants

The events that the library waits for.  When an operation ends with
`SSL_ERROR_WANT_READ` or `SSL_ERROR_WANT_WRITE` the procedure adds a bit to
`statePtr->want`, and `TlsChannelHandlerTimer` hands the bits to
`Tcl_NotifyChannel`, which runs the handlers of the channel.

The handler of the timer clears all bits after that, also those that reads and
writes of the channel's handlers have added in the meantime.  `wants_kept` says
that nothing else loses a bit: where every bit that is added during such a call
is announced before the call returns, by a timer that fires within it, no bit is
lost.
-/

namespace TclTls

open Interaction
open Interaction.Machine (Quiescent)
open Interaction.Program (state update)

variable (lib : Platform)

/-! ## Masks -/

/-- All bits of the one mask are in the other. -/
instance : LE Mask where
  le m m' := (m.readable → m'.readable) ∧ (m.writable → m'.writable) ∧ (m.exception → m'.exception)

namespace Mask

variable {m m' n n' : Mask}

def or (m n : Mask) : Mask :=
  ⟨m.readable || n.readable, m.writable || n.writable, m.exception || n.exception⟩

def without (m n : Mask) : Mask :=
  ⟨m.readable && !n.readable, m.writable && !n.writable, m.exception && !n.exception⟩

theorem le_iff : m ≤ n ↔ (m.readable → n.readable) ∧ (m.writable → n.writable) ∧
    (m.exception → n.exception) := Iff.rfl

@[simp] theorem le_refl (m : Mask) : m ≤ m := by simp [le_iff]

theorem le_trans (h : m ≤ n) (h' : n ≤ m') : m ≤ m' := by
  rw [le_iff] at *
  grind

@[simp] theorem empty_le (m : Mask) : ({} : Mask) ≤ m := by simp [le_iff]

@[simp] theorem or_empty (m : Mask) : m.or {} = m := by simp [or]

theorem without_le (m n : Mask) : m.without n ≤ m := by
  simp only [le_iff, without, Bool.and_eq_true]
  grind

theorem without_of_le (h : m ≤ n) : m.without n = {} := by
  obtain ⟨r, w, e⟩ := m
  obtain ⟨r', w', e'⟩ := n
  simp only [le_iff, without, Mask.mk.injEq] at *
  grind

end Mask

/-! ## What is owed -/

/-- The bits that a procedure adds to `want` when the library answers so. -/
def Call.asks : (e : Call) → e.Ans → Mask
  | .sslAccept, a | .sslConnect, a => a.code.note {}
  | .bioRead _, a | .bioWrite _, a => a.code.note {}
  | _, _ => {}

/-- The bits that have been added, and that no `Tcl_NotifyChannel` has carried
since; the timer's handler is the only one that calls it. -/
def wantObserver : Observer Mask Call.Ans where
  issued
    | .notifyChannel mask, owed => owed.without mask
    | _, owed => owed
  answered e r owed := owed.or (e.asks r)

/-- A connection, with the bits that are owed. -/
abbrev wanting : Machine (Noted State Mask) Call.Ans := (reentrant lib).observed wantObserver

/-- All bits that are owed are set; and when `Tcl_NotifyChannel` returns to the
handler of a timer, then none is owed that has been added in the meantime. -/
def wantMonitor : Monitor (wanting lib) where
  inv x := x.notes ≤ x.st.want
  admits e x := (∃ mask, e = .notifyChannel mask) → x.notes = {}

/-! ## Code that loses no bit -/

/-- Makes no operation, and clears no bit. -/
def offWant : Contract State Call.Ans where
  allowed _ e := e.operation = false
  writes s s' := s.want ≤ s'.want
  interference _ _ _ := True

@[simp] theorem offWant_allowed (s : State) (e : Call) :
    offWant.allowed s e ↔ e.operation = false := Iff.rfl

@[simp] theorem offWant_writes (s s' : State) : offWant.writes s s' ↔ s.want ≤ s'.want := Iff.rfl

/-- Whatever the state is. -/
abbrev Steady {α : Type} (p : Driver α) : Prop := ∀ s, p.Safe offWant (fun _ _ => True) s

/-- The code adds the bits `m` before it gives up control, and keeps all others. -/
abbrev Adds {α : Type} (m : Mask) (p : Driver α) : Prop :=
  ∀ s owed, owed ≤ s.want → (wantMonitor lib).Keeps (p.observe wantObserver) ⟨s, owed.or m⟩

section Rules

variable {lib} {α β : Type} {m : Mask}

theorem Steady.bind {p : Driver α} {f : α → Driver β} (hp : Steady p) (hf : ∀ a, Steady (f a)) :
    Steady (p >>= f) := by
  intro s
  rw [Program.safe_bind]
  exact (hp s).mono fun a s' _ => hf a s'

theorem Call.asks_of_not_operation {e : Call} (he : e.operation = false) (r : e.Ans) :
    e.asks r = {} := by
  cases e <;> first
    | contradiction
    | rfl

theorem wantObserver_issued_le (e : Call) (owed : Mask) : wantObserver.issued e owed ≤ owed := by
  cases e
  case notifyChannel mask => exact owed.without_le mask
  all_goals exact owed.le_refl

/-- Such code loses no bit. -/
theorem Steady.adds {p : Driver α} (hp : Steady p) : Adds lib {} p := by
  intro s owed howed
  rw [Mask.or_empty]
  refine Monitor.keeps_of_steady (hp s) (fun hwrites hinv => ?_) (fun {s e g} _ hinv => ?_)
    (fun {s s' e g} r he hinv => ?_) (fun _ _ => trivial) (fun _ _ _ => trivial) howed
  · exact Mask.le_trans hinv hwrites
  · exact Mask.le_trans (wantObserver_issued_le e g) hinv
  · have hasks : e.asks r = {} := Call.asks_of_not_operation he r
    simpa [wantMonitor, wantObserver, hasks] using hinv

theorem Adds.of_pure (a : α) : Adds lib {} (pure a : Driver α) := Steady.adds fun _ => trivial

theorem Adds.bind {p : Driver α} {f : α → Driver β} (hp : Adds lib m p)
    (hf : ∀ a, Adds lib {} (f a)) : Adds lib m (p >>= f) := by
  intro s owed howed
  rw [Monitor.Keeps, Program.safe_observe_bind]
  refine (hp s owed howed).mono fun a x hx => ?_
  have hrest := hf a x.st x.notes hx
  rwa [Mask.or_empty] at hrest

/-- A write that adds the bits. -/
theorem Adds.of_update {f : State → State} {k : Driver α}
    (hf : ∀ s : State, s.want.or m ≤ (f s).want) (hk : Adds lib {} k) :
    Adds lib m (do update f; k) := by
  intro s owed howed
  have hwant : owed.or m ≤ (f s).want := by
    have hall := hf s
    simp only [Mask.le_iff, Mask.or, Bool.or_eq_true] at *
    grind
  have hrest := hk (f s) (owed.or m) hwant
  rw [Mask.or_empty] at hrest
  rw [Monitor.Keeps, Program.safe_observe_bind, Program.safe_observe_update]
  exact ⟨trivial, hrest⟩

/-- After the state has been read. -/
theorem Adds.of_state {k : State → Driver α} (hk : ∀ s, Adds lib m (k s)) :
    Adds lib m (do let s ← state; k s) := by
  intro s owed howed
  rw [Monitor.Keeps, Program.safe_observe_bind, Program.safe_observe_state]
  exact hk s s owed howed

/-- After a call the code adds the bits that the answer asks for. -/
theorem Adds.of_call {e : Call} {k : e.Ans → Driver α} (hk : ∀ r, Adds lib (e.asks r) (k r)) :
    Adds lib {} (do let r ← call e; k r) := by
  intro s owed howed
  rw [Mask.or_empty, Monitor.Keeps, Program.safe_observe_bind]
  refine ⟨trivial, Mask.le_trans (wantObserver_issued_le e owed) howed, fun r x _ hx => ?_⟩
  exact ⟨trivial, hk r x.st x.notes hx.1⟩

end Rules

/-! ## Code without operations -/

section Steady

@[simp] theorem tclRelease_steady (s : State) :
    tclRelease.Safe offWant (fun _ _ => True) s := by
  simp [tclRelease, tlsFree, tlsClean, Call.operation]

@[simp] theorem tclEventuallyFree_steady (s : State) :
    tclEventuallyFree.Safe offWant (fun _ _ => True) s := by
  simp [tclEventuallyFree, tlsFree, tlsClean, Call.operation]

@[simp] theorem evalCallback_steady (cmd : Command) (s : State) :
    (evalCallback lib cmd).Safe offWant (fun _ _ => True) s := by
  simp [evalCallback, Call.operation]

@[simp] theorem tlsError_steady (msg : Option String) (s : State) :
    (tlsError lib msg).Safe offWant (fun _ _ => True) s := by
  cases hscript : s.callback <;> cases msg <;> simp [tlsError, Call.operation, hscript]

@[simp] theorem removeTimer_steady (s : State) :
    removeTimer.Safe offWant (fun _ _ => True) s := by
  simp [removeTimer, Call.operation]

theorem verifyCallback_steady (ok : Int) (cert : Option String) (depth err : Int) :
    Steady (verifyCallback lib ok cert depth err) := by
  intro s
  cases hvcmd : s.vcmd <;> cases cert <;> simp [verifyCallback, hvcmd]

theorem tlsCloseProc_steady : Steady tlsCloseProc := by
  have hnotify : Steady closeNotify := by
    intro s
    simp [closeNotify, Call.operation]
  exact hnotify.bind fun _ => Steady.bind removeTimer_steady fun _ =>
    Steady.bind tclEventuallyFree_steady fun _ _ => trivial

theorem renewTimer_steady (mask : Mask) : Steady (renewTimer mask) := by
  refine Steady.bind removeTimer_steady fun _ s => ?_
  simp [Call.operation]

theorem watchPending_steady (mask : Mask) : Steady (watchPending mask) := by
  intro s
  cases mask.readable <;> cases mask.writable <;>
    simp [watchPending, inputWaiting, outputWaiting, Call.operation]

theorem tlsWatchProc_steady (mask : Mask) : Steady (tlsWatchProc mask) := by
  have hwatch : Steady (do let _ ← watchPending mask; renewTimer mask) :=
    (watchPending_steady mask).bind fun _ => renewTimer_steady mask
  intro s
  simp only [Steady, Program.safe_bind] at hwatch
  simp [tlsWatchProc, Call.operation, hwatch]

theorem handshakeReply_steady (r : Int × Errno) : Steady (handshakeReply lib r) := by
  intro s
  simp [handshakeReply, Call.operation]

theorem connectReport_steady (a : Answer) : Steady (connectReport lib a) := by
  intro s
  by_cases herr : a.err = 0 <;> simp [connectReport, Call.operation, herr]

theorem ioReport_steady (a : Answer) : Steady (ioReport lib a) := by
  intro s
  by_cases herr : a.err = 0 <;> simp [ioReport, Call.operation, herr]

end Steady

/-! ## Operations -/

section Operations

/-- What the library wants is or-ed to the bits that are set. -/
theorem SslError.or_note_le (code : SslError) (m : Mask) : m.or (code.note {}) ≤ code.note m := by
  cases code <;> simp [SslError.note, Mask.or]

/-- An attempt that moved something asks for nothing. -/
theorem Answer.note_of_pos {a : Answer} (hret : 0 < a.ret) (m : Mask) : a.code.note m = m := by
  rw [a.none_iff.mpr hret]
  rfl

/-- `statePtr->want |= ...` -/
theorem Adds.of_note {α : Type} (code : SslError) {k : Driver α} (hk : Adds lib {} k) :
    Adds lib (code.note {}) (do update fun s => { s with want := code.note s.want }; k) :=
  Adds.of_update (fun s => code.or_note_le s.want) hk

theorem handshakeAttempt_adds : Adds lib {} handshakeAttempt := by
  have hanswer : ∀ a : Answer, Adds lib (a.code.note {}) (do
      if 0 < a.ret then
        let _ ← call .bioFlush
      else
        update fun s => { s with want := a.code.note s.want }
      pure a) := by
    intro a
    by_cases hret : 0 < a.ret
    · rw [Answer.note_of_pos hret, if_pos hret]
      refine Steady.adds fun s => ?_
      simp [Call.operation]
    · rw [if_neg hret]
      exact Adds.of_note lib a.code (Adds.of_pure a)
  refine Adds.of_state fun s => ?_
  cases s.flags.server with
  | true => exact Adds.of_call hanswer
  | false => exact Adds.of_call hanswer

theorem connectLoop_adds (retries : Nat) : Adds lib {} (connectLoop retries) := by
  induction retries with
  | zero =>
      rw [connectLoop]
      refine (handshakeAttempt_adds lib).bind fun a => ?_
      cases a.again with
      | false => exact Adds.of_pure _
      | true =>
          refine Adds.of_state fun s => ?_
          cases s.flags.async <;> exact Adds.of_pure _
  | succ retries ih =>
      rw [connectLoop]
      refine (handshakeAttempt_adds lib).bind fun a => ?_
      cases a.again with
      | false => exact Adds.of_pure _
      | true =>
          refine Adds.of_state fun s => ?_
          cases s.flags.async with
          | true => exact Adds.of_pure _
          | false => exact Adds.of_call fun _ => ih

theorem connectVerdict_steady (a : Answer) : Steady (connectVerdict lib a) := by
  intro s
  have hreport := connectReport_steady lib a s
  cases hcode : a.code with
  | ssl =>
      simp only [connectVerdict, hcode, Program.safe_bind]
      refine hreport.mono fun _ s' _ => ?_
      simp
  | syscall =>
      by_cases heof : a.err = 0 ∧ a.ret = 0
      · simp only [connectVerdict, hcode, if_pos heof, Program.safe_bind]
        refine (tlsError_steady lib _ s).mono fun _ s' _ => ?_
        simp
      · simp only [connectVerdict, hcode, if_neg heof, Program.safe_bind, Program.safe_update]
        refine ⟨by simp, ?_⟩
        split
        all_goals
          refine Steady.bind (tlsError_steady lib _) (fun _ s' => ?_) _
          simp
  | _ => simp [connectVerdict, hcode, Mask.le_iff]

theorem tlsWaitForConnect_adds (permanent : Bool) :
    Adds lib {} (tlsWaitForConnect lib permanent) := by
  refine Adds.of_state fun s => ?_
  cases hinit : s.flags.init with
  | false => exact Adds.of_pure _
  | true =>
      cases hfatal : s.flags.fatalError with
      | true => cases permanent <;> exact Adds.of_pure _
      | false =>
          refine (connectLoop_adds lib 10).bind fun o => ?_
          cases o with
          | none => exact Adds.of_pure _
          | some a => exact (connectVerdict_steady lib a).adds

end Operations

/-! ## Reads, writes and everything else -/

section Requests

theorem withConnection_adds (permanent : Bool) {io : Driver (Int × Errno)} (hio : Adds lib {} io) :
    Adds lib {} (withConnection lib permanent io) := by
  refine Adds.of_state fun s => ?_
  cases s.flags.init with
  | false => exact hio
  | true =>
      refine (tlsWaitForConnect_adds lib permanent).bind fun r => ?_
      by_cases hfail : r.1 < 0
      · by_cases hreset : r.2 = Errno.econnreset
        · refine Steady.adds fun s => ?_
          simp [hfail, hreset]
        · simpa [hfail, hreset] using Adds.of_pure _
      · by_cases hwait : r.1 = 0
        · simpa [hfail, hwait] using Adds.of_pure _
        · simpa [hfail, hwait] using hio

theorem ioVerdict_adds (a : Answer) : Adds lib (a.code.note {}) (ioVerdict lib a) := by
  have hwant : Adds lib (a.code.note {})
      (do update fun s => { s with want := a.code.note s.want }; pure (-1, Errno.eagain)) :=
    Adds.of_note lib a.code (Adds.of_pure _)
  cases hcode : a.code with
  | wantRead => simpa [ioVerdict, hcode] using hwant
  | wantWrite => simpa [ioVerdict, hcode] using hwant
  | syscall =>
      refine Steady.adds fun s => ?_
      by_cases heof : a.err = 0 ∧ a.ret = 0
      · simp only [ioVerdict, hcode, if_pos heof]
        refine Steady.bind (tlsError_steady lib _) (fun _ s' => ?_) _
        simp
      · simp only [ioVerdict, hcode, if_neg heof, Program.safe_bind, Program.safe_update]
        refine ⟨by simp, ?_⟩
        split
        all_goals
          refine Steady.bind (tlsError_steady lib _) (fun _ s' => ?_) _
          simp
  | _ =>
      refine Steady.adds fun s => ?_
      simp [ioVerdict, hcode]

theorem inputVerdict_adds (a : Answer) : Adds lib (a.code.note {}) (inputVerdict lib a) := by
  have hio := ioVerdict_adds lib a
  cases hcode : a.code with
  | none =>
      simp only [inputVerdict, hcode]
      exact Adds.of_pure _
  | ssl =>
      refine Steady.adds fun s => ?_
      simp only [inputVerdict, hcode]
      refine Steady.bind (ioReport_steady lib a) (fun _ s' => ?_) _
      cases a.unexpectedEof lib <;> simp
  | _ => simpa [inputVerdict, hcode] using hio

theorem outputVerdict_adds (a : Answer) : Adds lib (a.code.note {}) (outputVerdict lib a) := by
  have hio := ioVerdict_adds lib a
  cases hcode : a.code with
  | none =>
      simp only [outputVerdict, hcode]
      exact Adds.of_pure _
  | ssl =>
      refine Steady.adds fun s => ?_
      simp only [outputVerdict, hcode]
      refine Steady.bind (ioReport_steady lib a) (fun _ s' => ?_) _
      simp
  | _ => simpa [outputVerdict, hcode] using hio

theorem tlsInputProc_adds (bufSize : Int) : Adds lib {} (tlsInputProc lib bufSize) := by
  have hread := withConnection_adds lib false
    (Adds.of_call (e := .bioRead bufSize) fun a => inputVerdict_adds lib a.toAnswer)
  refine Adds.of_state fun s => ?_
  cases s.flags.callback with
  | true => exact Adds.of_pure _
  | false =>
      cases s.flags.fatalError with
      | true => exact Adds.of_pure _
      | false =>
          cases s.flags.eof with
          | true => exact Adds.of_pure _
          | false => exact hread

theorem bioWrite_adds (toWrite : Int) : Adds lib {} (bioWrite lib toWrite) := by
  refine Adds.of_call fun a => ?_
  by_cases hret : 0 < a.ret
  · have hnote : Call.asks (.bioWrite toWrite) a = {} := Answer.note_of_pos hret {}
    have hverdict := outputVerdict_adds lib a.toAnswer
    rw [Answer.note_of_pos hret] at hverdict
    rw [hnote, if_pos hret]
    refine Adds.bind (Steady.adds fun s => ?_) fun _ => hverdict
    simp [Call.operation]
  · rw [if_neg hret]
    exact outputVerdict_adds lib a.toAnswer

theorem tlsOutputProc_adds (toWrite : Int) : Adds lib {} (tlsOutputProc lib toWrite) := by
  have hflush : Steady (zeroWrite lib) := by
    intro s
    simp [zeroWrite, Call.operation]
  have hwrite : Adds lib {} (if toWrite = 0 then zeroWrite lib else bioWrite lib toWrite) := by
    split
    · exact hflush.adds
    · exact bioWrite_adds lib toWrite
  refine Adds.of_state fun s => ?_
  cases s.flags.callback with
  | true => exact Adds.of_pure _
  | false =>
      cases s.flags.fatalError with
      | true => exact Adds.of_pure _
      | false => exact withConnection_adds lib true hwrite

theorem tlsNotifyProc_adds (mask : Mask) : Adds lib {} (tlsNotifyProc lib mask) := by
  refine Adds.bind (Steady.adds removeTimer_steady) fun _ => Adds.of_state fun s => ?_
  cases s.flags.callback with
  | true => exact Adds.of_pure _
  | false =>
      cases s.flags.init with
      | false => exact Adds.of_pure _
      | true =>
          refine (tlsWaitForConnect_adds lib true).bind fun r => ?_
          by_cases hagain : r.1 < 1 ∧ r.2 = Errno.eagain
          · simpa [hagain] using Adds.of_pure _
          · simpa [hagain] using Adds.of_pure _

theorem handshakeObjCmd_adds (find : String → Option TopChannel) (objv : List String) :
    Adds lib {} (handshakeObjCmd lib find objv) := by
  cases hobjv : namesTls find objv with
  | true =>
      rw [handshakeObjCmd_eq lib hobjv]
      exact (tlsWaitForConnect_adds lib true).bind fun r => (handshakeReply_steady lib r).adds
  | false =>
      obtain ⟨e, he⟩ := handshakeObjCmd_other lib hobjv
      rw [he]
      exact Adds.of_pure _

end Requests

/-! ## The timer -/

section Timer

variable {lib} {s : State} {owed : Mask}

/-- During a call that neither runs a script nor calls back nobody else moves. -/
theorem quiet_of_calls {e : Call} (he : (e.scripted || e.wire) = false) (q : Activity) :
    ¬ (wanting lib).starts e q := by
  intro hstarts
  have hstarted : q.startedBy e := hstarts
  cases q <;> simp_all [Activity.startedBy]

/-- A count leaves the state and the notes alone. -/
theorem count_stays {α : Type} {e : Call} {k : e.Ans → Driver α}
    {Q : α → Noted State Mask → Prop} (he : (e.scripted || e.wire) = false)
    (hissued : wantObserver.issued e owed = owed) (hasks : ∀ r, e.asks r = {})
    (howed : owed ≤ s.want)
    (hk : ∀ r, Program.Safe (wantMonitor lib).contract Q ((k r).observe wantObserver) ⟨s, owed⟩) :
    Program.Safe (wantMonitor lib).contract Q
      (Program.observe wantObserver (do let r ← call e; k r)) ⟨s, owed⟩ := by
  rw [Program.safe_observe_bind]
  refine ⟨trivial, ?_, fun r x _ hx => ⟨trivial, ?_⟩⟩
  · rw [hissued]
    exact howed
  · have hsame := hx.2.2 (quiet_of_calls he)
    rw [hissued] at hsame
    have hanswered : wantObserver.answered e r owed = owed := by simp [wantObserver, hasks r]
    rw [← hsame]
    dsimp only
    rw [hanswered]
    exact hk r

theorem outputWaiting_stays (howed : owed ≤ s.want) :
    (outputWaiting.observe wantObserver).Safe (wantMonitor lib).contract
      (fun _ x => x = ⟨s, owed⟩) ⟨s, owed⟩ := by
  refine count_stays rfl rfl (fun _ => rfl) howed fun buffered => ?_
  by_cases hpos : 0 < buffered
  · simp [hpos]
  · rw [if_neg hpos]
    exact count_stays rfl rfl (fun _ => rfl) howed fun pending => rfl

theorem inputWaiting_stays (howed : owed ≤ s.want) :
    (inputWaiting.observe wantObserver).Safe (wantMonitor lib).contract
      (fun _ x => x = ⟨s, owed⟩) ⟨s, owed⟩ := by
  refine count_stays rfl rfl (fun _ => rfl) howed fun buffered => ?_
  by_cases hpos : 0 < buffered
  · simp [hpos]
  · rw [if_neg hpos]
    exact count_stays rfl rfl (fun _ => rfl) howed fun pending => rfl

/-- The mask covers what is set. -/
theorem timerMask_covers (howed : owed ≤ s.want) :
    (timerMask.observe wantObserver).Safe (wantMonitor lib).contract
      (fun mask x => x = ⟨s, owed⟩ ∧ s.want ≤ mask) ⟨s, owed⟩ := by
  rw [timerMask, Program.safe_observe_bind, Program.safe_observe_state, Program.safe_observe_bind]
  refine (outputWaiting_stays howed).mono fun writable x hx => ?_
  rw [hx, Program.safe_observe_bind]
  refine (inputWaiting_stays howed).mono fun readable x' hx' => ⟨hx', ?_⟩
  simp only [Mask.le_iff, Bool.or_eq_true]
  exact ⟨.inl, .inl, id⟩

theorem tlsChannelHandlerTimer_adds : Adds lib {} tlsChannelHandlerTimer := by
  intro s owed howed
  rw [Mask.or_empty, tlsChannelHandlerTimer, Monitor.Keeps, Program.safe_observe_bind,
    Program.safe_observe_state, Program.safe_observe_bind, Program.safe_observe_update,
    Program.safe_observe_bind]
  refine ⟨trivial, ?_⟩
  refine (timerMask_covers (s := { s with timer := false }) howed).mono fun mask x hx => ?_
  obtain ⟨rfl, hcovers⟩ := hx
  have hissued : wantObserver.issued (.notifyChannel mask) owed = {} :=
    Mask.without_of_le (Mask.le_trans howed hcovers)
  rw [Program.safe_observe_bind]
  refine ⟨trivial, ?_, fun r x _ hx => ⟨trivial, ?_⟩⟩
  · rw [hissued]
    exact Mask.empty_le _
  · -- nothing is owed when the bits are cleared
    have hnone : x.notes = {} := hx.2.1 ⟨mask, rfl⟩
    have hrest : Adds lib {} (if s.timer = true then tclRelease else pure ()) := by
      cases s.timer with
      | true => exact Steady.adds tclRelease_steady
      | false => exact Adds.of_pure ()
    have hafter := hrest { x.st with want := {} } {} (Mask.empty_le _)
    have hanswered : wantObserver.answered (.notifyChannel mask) r x.notes = {} := by
      rw [hnone]
      exact Mask.or_empty _
    rw [hanswered, Program.safe_observe_node_pure, Program.safe_observe_bind,
      Program.safe_observe_update]
    rw [Mask.or_empty] at hafter
    exact ⟨trivial, hafter⟩

end Timer

/-! ## Runs -/

theorem Activity.body_adds (q : Activity) : Adds lib {} (q.body lib) := by
  have hdone : ∀ {α : Type} {p : Driver α} (reply : α → Reply), Adds lib {} p →
      Adds lib {} (do let _ ← (do let r ← p; pure (reply r)); pure ()) := by
    intro α p reply hp
    exact (hp.bind fun r => .of_pure (reply r)).bind fun _ => .of_pure ()
  cases q with
  | request q =>
      cases q with
      | input bufSize => exact hdone .moved (tlsInputProc_adds lib bufSize)
      | output toWrite => exact hdone .moved (tlsOutputProc_adds lib toWrite)
      | watch mask => exact hdone (fun _ => .done) (tlsWatchProc_steady mask).adds
      | notify mask => exact hdone .events (tlsNotifyProc_adds lib mask)
      | timer => exact hdone (fun _ => .done) tlsChannelHandlerTimer_adds
      | blockMode nonblocking =>
          refine hdone .code (Steady.adds fun s => ?_)
          simp [tlsBlockModeProc]
      | close => exact hdone .code tlsCloseProc_steady.adds
      | close2 closeRead closeWrite =>
          refine hdone .code (Steady.adds fun s => ?_)
          unfold tlsClose2Proc
          split
          · exact tlsCloseProc_steady s
          · trivial
      | handshake find objv => exact hdone .command (handshakeObjCmd_adds lib find objv)
  | verify ok cert depth err =>
      exact Adds.bind (verifyCallback_steady lib ok cert depth err).adds fun _ => .of_pure ()
  | callback cmd => exact Adds.bind (Steady.adds (evalCallback_steady lib cmd)) fun _ => .of_pure ()

/-- **No wanted event is lost** in a run in which every bit that has been added
during a `Tcl_NotifyChannel` of the timer has been announced when it returns. -/
theorem wants_kept (s : State) {x : (wanting lib).Config}
    (hx : (wantMonitor lib).Run ⟨⟨s, s.want⟩, []⟩ x) (hrest : Quiescent x) :
    x.st.notes ≤ x.st.st.want := by
  have hbody : ∀ (q : Activity) (y : Noted State Mask), (wantMonitor lib).inv y →
      (wantMonitor lib).Keeps ((wanting lib).body q) y := by
    intro q y hy
    have hadds := q.body_adds lib y.st y.notes hy
    rwa [Mask.or_empty] at hadds
  exact Monitor.run hbody s.want.le_refl hx hrest

theorem wantMonitor_admits {e : Call} (he : e.scripted = false) (x : Noted State Mask) :
    (wantMonitor lib).admits e x := by
  rintro ⟨mask, rfl⟩
  exact Bool.noConfusion he

/-- A read that has to wait leaves its bit. -/
theorem wants_kept_read : ∃ x : (wanting .plain).Config,
    (wantMonitor .plain).Run ⟨⟨{}, {}⟩, []⟩ x ∧ Quiescent x ∧ x.st.notes = { readable := true } ∧
      x.st.notes ≤ x.st.st.want := by
  have hrun : (wantMonitor .plain).Run ⟨⟨{}, {}⟩, []⟩
      ⟨⟨{ want := { readable := true } }, { readable := true }⟩, []⟩ := by
    refine (Monitor.step_begin (m := wanting .plain) _ (.request (.input 4096))).trans ?_
    refine (Monitor.run_issue _ rfl).trans ?_
    refine (Monitor.step_answer (e := .bioRead 4096) _
      (Answer.wantRead.toTransfer Answer.wantRead_ret 4096)
      (wantMonitor_admits .plain rfl _)).trans ?_
    exact Monitor.run_finish _ rfl
  exact ⟨_, hrun, by simp [Quiescent], rfl, wants_kept .plain {} hrun (by simp [Quiescent])⟩

/-- Input is buffered, and a timer is about to announce it. -/
def announcing : State := { timer := true }

/-- A handler reads while the input is announced, and more has to come. -/
theorem handler_waits {a : Activity} {mask : Mask}
    {k : Unit → Program (Noted State Mask) Call.Ans Unit} :
    Machine.Run (Machine.anyStart (wanting .plain))
      ⟨⟨{}, {}⟩, [⟨a, .pending (.notifyChannel mask) k⟩]⟩
      ⟨⟨{ want := { readable := true } }, { readable := true }⟩,
        [⟨a, .pending (.notifyChannel mask) k⟩]⟩ := by
  refine .head (.start (m := wanting .plain) (.request (.input 4096)) rfl trivial) ?_
  refine .trans (Machine.run_issue rfl) ?_
  refine .head (.answer (e := Call.bioRead 4096)
    (Answer.wantRead.toTransfer Answer.wantRead_ret 4096)) ?_
  exact Machine.run_finish rfl

/-- The bit that its read has added is cleared. -/
theorem wants_lost :
    ¬ ∀ x : (wanting .plain).Config,
      Machine.Run (Machine.anyStart (wanting .plain)) ⟨⟨announcing, announcing.want⟩, []⟩ x →
        Quiescent x → x.st.notes ≤ x.st.st.want := by
  intro hkept
  have hannounced : ∃ k : Unit → Program (Noted State Mask) Call.Ans Unit,
      Machine.Run (Machine.anyStart (wanting .plain)) ⟨⟨announcing, announcing.want⟩, []⟩
        ⟨⟨{}, {}⟩, [⟨.request .timer, .pending (.notifyChannel { readable := true }) k⟩]⟩ ∧
      ∃ e k', (k ()).settle ⟨{ want := { readable := true } }, { readable := true }⟩ =
        (.call e k', ⟨{}, { readable := true }⟩) := by
    refine ⟨_, .head (.begin (m := wanting .plain) (.request .timer))
      (.trans (Machine.run_issue rfl) (.head (.answer (0 : Nat)) (.trans (Machine.run_issue rfl)
        (.head (.answer (0 : Nat)) (.trans (Machine.run_issue rfl) (.head (.answer (1 : Nat))
          (Machine.run_issue rfl))))))), _, _, rfl⟩
  obtain ⟨k, hannounced, e, k', hcleared⟩ := hannounced
  have hlost := hannounced.trans (handler_waits.trans
    (.head (.answer ()) (Machine.run_issue hcleared)))
  have hall := hkept _ hlost fun f hf => by
    rw [List.head?_cons, Option.mem_some_iff] at hf
    rw [← hf]
    trivial
  simp [Mask.le_iff] at hall

end TclTls
