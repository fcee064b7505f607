import TclTls.Interaction.Guarantee
import TclTls.Reentry

/-!
# TclTls.HandshakeFirst

What holds of a connection whatever interrupts whatever.  The procedures of the
driver are re-entered in the middle (`TclTls.Reentry`), and `TLS_TCL_CALLBACK` is
never set, so each of them has to be right in any state the others may leave.

`onward` is what all of them guarantee and rely on: flags of failure, end of file
and establishment are for good, and application data is moved, and the connection
shut down, only when it is established.  As long as no attempt has succeeded, the
handshake stays to be done, and nothing but attempts goes on the wire
(`handshake_first`).
-/

namespace TclTls

open Interaction
open Interaction.Program (state update)

variable (lib : Platform)

/-! ## The guarantee -/

/-- `SSL_accept` and `SSL_connect`. -/
def Call.attempts : Call → Bool
  | .sslAccept | .sslConnect => true
  | _ => false

/-- The answer is that of an attempt that has succeeded. -/
def Call.Succeeds : (e : Call) → e.Ans → Prop
  | .sslAccept, a | .sslConnect, a => 0 < Answer.ret a
  | _, _ => False

/-- The call is for an established connection: it moves application data, or sends
the "close notify" alert. -/
def Call.forEstablished : Call → Bool
  | .bioRead _ | .bioWrite _ | .sslShutdown => true
  | _ => false

/-- How flags develop, also in the middle of a procedure. -/
structure Flags.Onward (f f' : Flags) : Prop where
  fatalError : f.fatalError = true → f'.fatalError = true
  eof : f.eof = true → f'.eof = true
  init : f.init = false → f'.init = false
  callback : f'.callback = f.callback

@[simp] theorem Flags.Onward.refl (f : Flags) : f.Onward f := ⟨id, id, id, rfl⟩

theorem Flags.Onward.trans {f f' f'' : Flags} (h : f.Onward f') (h' : f'.Onward f'') :
    f.Onward f'' :=
  ⟨h'.fatalError ∘ h.fatalError, h'.eof ∘ h.eof, h'.init ∘ h.init, h'.callback.trans h.callback⟩

/-- What the procedures guarantee and rely on.  If `waiting`, no attempt succeeds. -/
def onward (waiting : Prop) : Guarantee State Call.Ans where
  rel s s' := s.flags.Onward s'.flags ∧
    (waiting → s.flags.init = true → s'.flags.init = true)
  permitted s e := (e.forEstablished = true → s.flags.init = false) ∧
    (waiting → s.flags.init = true → e.wire = true → e.attempts = true)
  possible e r := waiting → ¬ e.Succeeds r
  refl _ := ⟨.refl _, fun _ h => h⟩
  trans h h' := ⟨h.1.trans h'.1, fun hw hs => h'.2 hw (h.2 hw hs)⟩

section Onward

variable {waiting : Prop} {s s' : State} {e : Call}

theorem onward_permitted : (onward waiting).permitted s e ↔
    (e.forEstablished = true → s.flags.init = false) ∧
      (waiting → s.flags.init = true → e.wire = true → e.attempts = true) := Iff.rfl

theorem onward_possible {r : e.Ans} :
    (onward waiting).possible e r ↔ (waiting → ¬ e.Succeeds r) := Iff.rfl

/-- A write that leaves the flags alone. -/
@[simp] theorem onward_rel_of_flags (h : s'.flags = s.flags) : (onward waiting).rel s s' :=
  ⟨by rw [h]; exact .refl _, fun _ hs => by rwa [h]⟩

/-- On an established connection anything may be called. -/
theorem onward_permitted_of_established (h : s.flags.init = false) :
    (onward waiting).permitted s e :=
  ⟨fun _ => h, fun _ hs => by rw [h] at hs; contradiction⟩

/-- A connection that is established stays so. -/
theorem onward_established (h : (onward waiting).rel s s') (hs : s.flags.init = false) :
    s'.flags.init = false := h.1.init hs

end Onward

/-- The code keeps the guarantee, from whatever state it starts. -/
abbrev Onwards (waiting : Prop) {α : Type} (p : Driver α) : Prop :=
  ∀ s, (onward waiting).Keeps p s

theorem Onwards.bind {waiting : Prop} {α β : Type} {p : Driver α} {k : α → Driver β}
    (hp : Onwards waiting p) (hk : ∀ a, Onwards waiting (k a)) : Onwards waiting (p >>= k) :=
  fun s => (hp s).bind fun a s' => hk a s'

/-! ## Procedures off the wire -/

section OffWire

variable {waiting : Prop} {s : State}

attribute [local simp] onward_permitted Call.wire Call.forEstablished

theorem tlsFree_onwards : Onwards waiting tlsFree := fun s => by
  simp [tlsFree, tlsClean]

theorem tclRelease_onwards : Onwards waiting tclRelease := fun s => by
  simp [tclRelease, tlsFree_onwards _]

theorem tclEventuallyFree_onwards : Onwards waiting tclEventuallyFree := fun s => by
  simp [tclEventuallyFree, tlsFree_onwards _]

theorem evalCallback_onwards (cmd : Command) : Onwards waiting (evalCallback lib cmd) := fun s => by
  have hrelease := fun s => @tclRelease_onwards waiting s
  simp [evalCallback, hrelease]

theorem tlsError_onwards (msg : Option String) : Onwards waiting (tlsError lib msg) := fun s => by
  have heval := fun cmd s => @evalCallback_onwards lib waiting cmd s
  cases hscript : s.callback <;> cases msg <;> simp [tlsError, hscript, heval]

theorem removeTimer_onwards : Onwards waiting removeTimer := fun s => by
  have hrelease := fun s => @tclRelease_onwards waiting s
  simp [removeTimer, hrelease]

theorem outputWaiting_onwards : Onwards waiting outputWaiting := fun s => by
  simp [outputWaiting]

theorem inputWaiting_onwards : Onwards waiting inputWaiting := fun s => by
  simp [inputWaiting]

theorem timerMask_onwards : Onwards waiting timerMask :=
  .bind (fun _ => trivial) fun _ => outputWaiting_onwards.bind fun _ =>
    inputWaiting_onwards.bind fun _ _ => trivial

theorem tlsChannelHandlerTimer_onwards : Onwards waiting tlsChannelHandlerTimer := by
  have hrelease := fun s => @tclRelease_onwards waiting s
  refine .bind (fun _ => trivial) fun _ => .bind (fun s => by simp) fun _ => ?_
  exact timerMask_onwards.bind fun mask s => by simp [hrelease]

theorem watchPending_onwards (mask : Mask) : Onwards waiting (watchPending mask) := by
  have hreadable : Onwards waiting (if mask.readable then inputWaiting else pure false) := by
    split
    · exact inputWaiting_onwards
    · exact fun _ => trivial
  have hwritable : Onwards waiting (if mask.writable then outputWaiting else pure false) := by
    split
    · exact outputWaiting_onwards
    · exact fun _ => trivial
  refine .bind (fun _ => trivial) fun s => ?_
  cases s.want.any with
  | true => exact fun _ => trivial
  | false =>
      refine hreadable.bind fun readable => ?_
      cases readable with
      | true => exact fun _ => trivial
      | false => exact hwritable

theorem renewTimer_onwards (mask : Mask) : Onwards waiting (renewTimer mask) :=
  removeTimer_onwards.bind fun _ s => by simp

theorem tlsWatchProc_onwards (mask : Mask) : Onwards waiting (tlsWatchProc mask) := by
  have hwatch : Onwards waiting (do let _ ← watchPending mask; renewTimer mask) :=
    (watchPending_onwards mask).bind fun _ => renewTimer_onwards mask
  intro s
  have hwatch' := fun s => hwatch s
  simp only [Guarantee.Keeps, Program.safe_bind] at hwatch'
  simp [tlsWatchProc, hwatch']

theorem verifyCallback_onwards (ok : Int) (cert : Option String) (depth err : Int) :
    Onwards waiting (verifyCallback lib ok cert depth err) := fun s => by
  have heval := fun cmd s => @evalCallback_onwards lib waiting cmd s
  cases hvcmd : s.vcmd <;> cases cert <;> simp [verifyCallback, hvcmd, heval]

end OffWire

/-! ## The handshake -/

section Handshake

variable {waiting : Prop} {s : State}

attribute [local simp] onward_permitted onward_possible Call.wire Call.forEstablished Call.attempts
  Call.Succeeds

/-- As long as no attempt succeeds, an attempt is all that goes on the wire. -/
theorem handshakeAttempt_onwards :
    handshakeAttempt.Safe (onward waiting).contract (fun a _ => waiting → a.ret ≤ 0) s := by
  have hanswered : ∀ (a : Answer) (s' : State), (waiting → a.ret ≤ 0) →
      (onward waiting).rel s s' →
      if 0 < a.ret then (waiting → s'.flags.init = false) ∧
        ∀ s'' : State, (onward waiting).rel s' s'' → waiting → a.ret ≤ 0
      else waiting → a.ret ≤ 0 := by
    intro a s' ha _
    split
    next hret => exact ⟨fun hw => absurd hret (Int.not_lt.mpr (ha hw)), fun _ _ => ha⟩
    next => exact ha
  simpa [handshakeAttempt] using hanswered

theorem connectLoop_onwards (retries : Nat) :
    (connectLoop retries).Safe (onward waiting).contract
      (fun o _ => ∀ a, o = some a → waiting → a.ret ≤ 0) s := by
  induction retries generalizing s with
  | zero =>
      rw [connectLoop, Program.safe_bind]
      refine handshakeAttempt_onwards.mono fun a s' ha => ?_
      cases a.again with
      | false => simpa using ha
      | true => simpa using fun _ => ha
  | succ retries ih =>
      rw [connectLoop, Program.safe_bind]
      refine handshakeAttempt_onwards.mono fun a s' ha => ?_
      cases a.again with
      | false => simpa using ha
      | true => cases s'.flags.async <;> simp [ih]

theorem connectReport_onwards (a : Answer) : Onwards waiting (connectReport lib a) := by
  have herror := fun msg => @tlsError_onwards lib waiting msg
  have hlast : Onwards waiting
      (if a.err ≠ 0 then tlsError lib (lib.reasonString a.err) else pure ()) := by
    split
    · exact herror _
    · exact fun _ => trivial
  refine .bind (fun s => by simp) fun v => ?_
  by_cases hv : v ≠ x509Ok
  · rw [if_pos hv]
    exact (herror _).bind fun _ => hlast
  · rw [if_neg hv]
    exact hlast

/-- A failure is noted for good. -/
@[simp] theorem onward_failed (s : State) :
    (onward waiting).rel s { s with flags.fatalError := true, flags.eof := true } :=
  ⟨⟨fun _ => rfl, fun _ => rfl, id, rfl⟩, fun _ h => h⟩

@[simp] theorem onward_fatal (s : State) :
    (onward waiting).rel s { s with flags.fatalError := true } :=
  ⟨⟨fun _ => rfl, id, id, rfl⟩, fun _ h => h⟩

@[simp] theorem onward_eof (s : State) : (onward waiting).rel s { s with flags.eof := true } :=
  ⟨⟨id, fun _ => rfl, id, rfl⟩, fun _ h => h⟩

/-- What follows a script that reports an error. -/
theorem Onwards.safe_bind {α β : Type} {p : Driver α} {k : α → Driver β} {Q : β → State → Prop}
    (hp : Onwards waiting p) (hk : ∀ a s', (k a).Safe (onward waiting).contract Q s') :
    (p >>= k).Safe (onward waiting).contract Q s := by
  rw [Program.safe_bind]
  exact (hp s).mono fun a s' _ => hk a s'

/-- The connection is established by an attempt that has succeeded. -/
theorem connectVerdict_onwards {a : Answer} (ha : waiting → a.ret ≤ 0) :
    (connectVerdict lib a).Safe (onward waiting).contract
      (fun r s' => 0 < r.1 → s'.flags.init = false) s := by
  have herror := fun msg => @tlsError_onwards lib waiting msg
  cases hcode : a.code with
  | none =>
      have hret : 0 < a.ret := a.none_iff.mp hcode
      have hsucceeds : ¬ waiting := fun hw => absurd hret (Int.not_lt.mpr (ha hw))
      simp only [connectVerdict, hcode]
      refine ⟨⟨⟨id, id, fun _ => rfl, rfl⟩, fun hw => (hsucceeds hw).elim⟩, fun _ => rfl⟩
  | ssl =>
      simp only [connectVerdict, hcode]
      exact (connectReport_onwards lib a).safe_bind fun _ s₁ => by simp
  | syscall =>
      simp only [connectVerdict, hcode]
      split
      · exact (herror _).safe_bind fun _ s₁ => by simp
      · refine ⟨onward_fatal s, ?_⟩
        split <;> exact (herror _).safe_bind fun _ s₁ => by simp
  | zeroReturn =>
      simp only [connectVerdict, hcode]
      exact ⟨onward_eof s, (herror _).safe_bind fun _ s₁ => by simp⟩
  | _ => simp [connectVerdict, hcode]

/-- Who is told that the connection is established finds it so. -/
theorem tlsWaitForConnect_onwards (permanent : Bool) :
    (tlsWaitForConnect lib permanent).Safe (onward waiting).contract
      (fun r s' => 0 < r.1 → s'.flags.init = false) s := by
  rw [tlsWaitForConnect, Program.safe_bind, Program.safe_state]
  cases hinit : s.flags.init with
  | false => simp [hinit]
  | true =>
      cases hfatal : s.flags.fatalError with
      | true => cases permanent <;> simp
      | false =>
          simp only [Bool.not_true, Bool.false_eq_true, if_false, Program.safe_bind]
          refine (connectLoop_onwards 10).mono fun o s₁ ho => ?_
          cases o with
          | none => simp
          | some a => exact connectVerdict_onwards lib (ho a rfl)

/-- Data is moved on an established connection. -/
theorem withConnection_onwards (permanent : Bool) {io : Driver (Int × Errno)}
    (hio : ∀ s : State, s.flags.init = false → (onward waiting).Keeps io s) :
    Onwards waiting (withConnection lib permanent io) := by
  intro s
  rw [withConnection, Guarantee.Keeps, Program.safe_bind, Program.safe_state]
  cases hinit : s.flags.init with
  | false => exact hio s hinit
  | true =>
      simp only [if_true, Program.safe_bind]
      refine (tlsWaitForConnect_onwards lib permanent).mono fun r s₁ hr => ?_
      by_cases hfail : r.1 < 0
      · by_cases hreset : r.2 = Errno.econnreset <;> simp [hfail, hreset]
      · by_cases hwait : r.1 = 0
        · simp [hwait]
        · have hestablished : s₁.flags.init = false := hr (by omega)
          simpa [hfail, hwait] using hio s₁ hestablished

theorem ioReport_onwards (a : Answer) : Onwards waiting (ioReport lib a) := by
  have herror := fun msg => @tlsError_onwards lib waiting msg
  unfold ioReport
  split
  · exact herror _
  · refine .bind (fun s => by simp) fun v => ?_
    split <;> exact herror _

theorem ioVerdict_onwards (a : Answer) : Onwards waiting (ioVerdict lib a) := by
  have herror := fun msg => @tlsError_onwards lib waiting msg
  intro s
  cases hcode : a.code with
  | wantRead | wantWrite | wantX509Lookup | wantAsync => simp [ioVerdict, hcode]
  | syscall =>
      simp only [ioVerdict, hcode]
      split
      · exact (herror _).safe_bind fun _ s₁ => by simp
      · refine ⟨onward_fatal s, ?_⟩
        split <;> exact (herror _).safe_bind fun _ s₁ => by simp
  | zeroReturn =>
      simp only [ioVerdict, hcode]
      exact ⟨onward_eof s, (herror _).safe_bind fun _ s₁ => trivial⟩
  | _ =>
      simp only [ioVerdict, hcode]
      exact (herror _).safe_bind fun _ s₁ => trivial

theorem inputVerdict_onwards (a : Answer) : Onwards waiting (inputVerdict lib a) := by
  intro s
  cases hcode : a.code with
  | none => simp [inputVerdict, hcode]
  | ssl =>
      simp only [inputVerdict, hcode]
      refine (ioReport_onwards lib a).safe_bind fun _ s₁ => ?_
      split
      · exact (tlsError_onwards lib _).safe_bind fun _ s₂ => by simp
      · simp
  | _ => simpa only [inputVerdict, hcode] using ioVerdict_onwards lib a s

theorem outputVerdict_onwards (a : Answer) : Onwards waiting (outputVerdict lib a) := by
  intro s
  cases hcode : a.code with
  | none => simp [outputVerdict, hcode]
  | ssl =>
      simp only [outputVerdict, hcode]
      exact (ioReport_onwards lib a).safe_bind fun _ s₁ => by simp
  | _ => simpa only [outputVerdict, hcode] using ioVerdict_onwards lib a s

theorem tlsInputProc_onwards (n : Int) : Onwards waiting (tlsInputProc lib n) := by
  refine .bind (fun _ => trivial) fun s => ?_
  split
  · exact fun _ => trivial
  · split
    · exact fun _ => trivial
    · split
      · exact fun _ => trivial
      · refine withConnection_onwards lib false fun s₁ hs₁ => ?_
        exact ⟨onward_permitted_of_established hs₁, fun a s₂ _ _ => inputVerdict_onwards lib _ s₂⟩

theorem zeroWrite_onwards {s : State} (hs : s.flags.init = false) :
    (onward waiting).Keeps (zeroWrite lib) s := by
  rw [zeroWrite, Guarantee.Keeps, Program.safe_bind]
  refine ⟨onward_permitted_of_established hs, fun flushed s₁ _ _ => ?_⟩
  rw [Program.safe_node_pure]
  split
  · exact (tlsError_onwards lib _).safe_bind fun _ _ => trivial
  · trivial

theorem bioWrite_onwards (n : Int) {s : State} (hs : s.flags.init = false) :
    (onward waiting).Keeps (bioWrite lib n) s := by
  have hverdict := fun a => @outputVerdict_onwards lib waiting a
  rw [bioWrite, Guarantee.Keeps, Program.safe_bind]
  refine ⟨onward_permitted_of_established hs, fun a s₁ _ hs₁ => ?_⟩
  have hestablished : s₁.flags.init = false := onward_established hs₁ hs
  rw [Program.safe_node_pure]
  by_cases hret : 0 < a.ret
  · simp only [if_pos hret]
    exact ⟨onward_permitted_of_established hestablished, fun _ s₂ _ _ => hverdict _ s₂⟩
  · simp only [if_neg hret]
    exact hverdict _ s₁

theorem tlsOutputProc_onwards (n : Int) : Onwards waiting (tlsOutputProc lib n) := by
  refine .bind (fun _ => trivial) fun s => ?_
  split
  · exact fun _ => trivial
  · split
    · exact fun _ => trivial
    · refine withConnection_onwards lib true fun s₁ hs₁ => ?_
      split
      · exact zeroWrite_onwards lib hs₁
      · exact bioWrite_onwards lib n hs₁

theorem tlsNotifyProc_onwards (mask : Mask) : Onwards waiting (tlsNotifyProc lib mask) := by
  refine removeTimer_onwards.bind fun _ => .bind (fun _ => trivial) fun s => ?_
  split
  · exact fun _ => trivial
  · split
    · intro s₁
      rw [Guarantee.Keeps, Program.safe_bind]
      refine (tlsWaitForConnect_onwards lib true).mono fun r s₂ _ => ?_
      split
      split <;> trivial
    · exact fun _ => trivial

theorem handshakeObjCmd_onwards (find : String → Option TopChannel) (objv : List String) :
    Onwards waiting (handshakeObjCmd lib find objv) := by
  intro s
  cases hobjv : namesTls find objv with
  | false =>
      obtain ⟨e, he⟩ := handshakeObjCmd_other lib hobjv
      rw [he]
      trivial
  | true =>
      rw [handshakeObjCmd_eq lib hobjv, Guarantee.Keeps, Program.safe_bind]
      refine (tlsWaitForConnect_onwards lib true).mono fun r s₁ _ => ?_
      simp [handshakeReply]

/-- The alert is sent on an established connection only. -/
theorem closeNotify_onwards : Onwards waiting closeNotify := by
  intro s
  rw [closeNotify, Guarantee.Keeps, Program.safe_bind, Program.safe_state]
  cases hsend : s.ssl.isSome && !s.flags.init && !s.flags.fatalError with
  | false => simp
  | true =>
      have hs : s.flags.init = false := by
        simp only [Bool.and_eq_true, Bool.not_eq_true'] at hsend
        exact hsend.1.2
      rw [if_pos rfl]
      refine ⟨onward_permitted_of_established hs, fun _ s₁ _ hs₁ => ?_⟩
      refine ⟨onward_permitted_of_established (onward_established hs₁ hs), fun _ s₂ _ _ => ?_⟩
      exact ⟨⟨⟨id, id, id, rfl⟩, fun _ h => h⟩, trivial⟩

theorem tlsCloseProc_onwards : Onwards waiting tlsCloseProc :=
  closeNotify_onwards.bind fun _ => removeTimer_onwards.bind fun _ =>
    tclEventuallyFree_onwards.bind fun _ _ => trivial

end Handshake

/-! ## Activities -/

theorem Request.proc_onwards {waiting : Prop} (q : Request) : Onwards waiting (q.proc lib) := by
  have hdone : ∀ {α : Type} {p : Driver α} (f : α → Reply), Onwards waiting p →
      Onwards waiting (do let v ← p; pure (f v)) := fun f hp => hp.bind fun _ _ => trivial
  cases q with
  | input n => exact hdone _ (tlsInputProc_onwards lib n)
  | output n => exact hdone _ (tlsOutputProc_onwards lib n)
  | watch mask => exact hdone _ (tlsWatchProc_onwards mask)
  | notify mask => exact hdone _ (tlsNotifyProc_onwards lib mask)
  | timer => exact hdone _ tlsChannelHandlerTimer_onwards
  | blockMode nonblocking => exact fun s => ⟨⟨⟨id, id, id, rfl⟩, fun _ h => h⟩, trivial⟩
  | close => exact hdone _ tlsCloseProc_onwards
  | close2 closeRead closeWrite =>
      refine hdone _ ?_
      unfold tlsClose2Proc
      split
      · exact tlsCloseProc_onwards
      · exact fun _ => trivial
  | handshake find objv => exact hdone _ (handshakeObjCmd_onwards lib find objv)

/-- Every activity keeps the guarantee. -/
theorem Activity.body_onwards {waiting : Prop} (x : Activity) : Onwards waiting (x.body lib) := by
  cases x with
  | request q => exact (q.proc_onwards lib).bind fun _ _ => trivial
  | verify ok cert depth err =>
      exact (verifyCallback_onwards lib ok cert depth err).bind fun _ _ => trivial
  | callback cmd => exact (evalCallback_onwards lib cmd).bind fun _ _ => trivial

/-! ## Every run -/

/-- Any answers, except that `waiting` no attempt succeeds. -/
def sslAnswers (waiting : Prop) : Surroundings (reentrant lib) Unit where
  reply _ e r := waiting → ¬ e.Succeeds r
  after _ _ := ()
  enter _ _ := ()

/-- Any activity may be started when a call starts it. -/
abbrev anyActivity : Surroundings.Permit (reentrant lib) Unit := fun _ _ => True

/-- A run from a connection on which nothing is active. -/
abbrev RunFrom (waiting : Prop) (s : State) (x : (reentrant lib).Scene Unit) : Prop :=
  (sslAnswers lib waiting).Run (anyActivity lib) ⟨s, (), []⟩ x

theorem kept_of_runFrom {waiting : Prop} {s : State} {x : (reentrant lib).Scene Unit}
    (hx : RunFrom lib waiting s x) : (onward waiting).Kept s x :=
  Guarantee.run (fun a s _ => Activity.body_onwards lib a s) (fun _ _ _ h => h) hx

/-- **The handshake comes first**, whatever runs in the middle of what.  The flags
of failure, end of file and establishment are for good; a call that moves data or
sends the alert is only ever pending on an established connection; and as long as
no attempt has succeeded the handshake stays to be done, and nothing but attempts
goes on the wire. -/
theorem handshake_first (s : State) :
    (∀ x y : (reentrant lib).Scene Unit, RunFrom lib False s x →
        (sslAnswers lib False).Run (anyActivity lib) x y → x.st.flags.Onward y.st.flags) ∧
      (∀ x : (reentrant lib).Scene Unit, RunFrom lib False s x →
        ∀ f ∈ x.stack, f.Awaits (·.forEstablished = true) → x.st.flags.init = false) ∧
      (s.flags.init = true → ∀ x : (reentrant lib).Scene Unit, RunFrom lib True s x →
        x.st.flags.init = true ∧
          ∀ f ∈ x.stack, ¬ f.Awaits fun e => e.wire = true ∧ e.attempts = false) := by
  refine ⟨fun x y hx hxy => ?_, fun x hx f hf hawaits => ?_, fun hs x hx => ?_⟩
  · have hsteps := Guarantee.steps (fun a s _ => Activity.body_onwards lib a s) (fun _ _ _ h => h)
      hxy (kept_of_runFrom lib hx)
    exact hsteps.2.1
  · by_contra hinit
    refine (kept_of_runFrom lib hx).awaits (fun s₁ e hrel hpermitted he => ?_) f hf hawaits
    exact hinit (hrel.1.init (hpermitted.1 he))
  · have hkept := kept_of_runFrom lib hx
    have hinit : x.st.flags.init = true := hkept.since.2 trivial hs
    refine ⟨hinit, hkept.awaits fun s₁ e hrel hpermitted he => ?_⟩
    -- it was not established then either
    have hinit₁ : s₁.flags.init = true := by
      by_contra hestablished
      have hnow := hrel.1.init (by simpa using hestablished)
      rw [hinit] at hnow
      contradiction
    have hattempts := hpermitted.2 trivial hinit₁ he.1
    rw [he.2] at hattempts
    contradiction

end TclTls
