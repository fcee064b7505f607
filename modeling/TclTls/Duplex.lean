import Mathlib.Logic.Relation
import TclTls.IoContract
import TclTls.Stream.Pipe

/-!
# TclTls.Duplex

Two imported channels that are the ends of one connection, and the data that goes
from one generic layer to the other.

The drivers' part is as in `TclTls.Session`: any request at either end, in any
order, with any answers of the library.  What the library does to the data is read
off the log: `BIO_write` takes from the front of the buffer it is given, `BIO_read`
hands out what the other end's `BIO_write` has taken, in that order.  The generic
layer of Tcl drops from its queue as many bytes as a write returns, and takes from
its buffer as many as a read returns.

Whether anything is lost or doubled then depends on the drivers alone: on how often
they call the library, and on what they return.
-/

namespace TclTls

open Interaction Stream
open Relation (ReflTransGen)

variable (lib : Platform)

/-! ## The data of a request -/

/-- The bytes that are written, if the queue holds `unsent`. -/
def Request.buffer (unsent : List UInt8) : Request → List UInt8
  | .output n => unsent.take n.toNat
  | _ => []

/-- What the generic layer drops from its queue. -/
def Request.written : Request → Reply → Nat
  | .output _, .moved r => r.1.toNat
  | _, _ => 0

/-- What the generic layer takes from its buffer. -/
def Request.obtained : Request → Reply → Nat
  | .input _, .moved r => r.1.toNat
  | _, _ => 0

/-- What the calls of `BIO_write` take, each of them given the same buffer. -/
def takenFrom (buffer : List UInt8) : List Event → List UInt8
  | [] => []
  | ⟨.bioWrite _, a⟩ :: log => buffer.take a.ret.toNat ++ takenFrom buffer log
  | _ :: log => takenFrom buffer log

/-- What is in the buffer after the calls of `BIO_read`, each of them given the
same buffer, and what is left to be handed out. -/
def filled : List UInt8 × List UInt8 → List Event → List UInt8 × List UInt8
  | x, [] => x
  | (buffer, carried), ⟨.bioRead _, a⟩ :: log =>
      filled (carried.take a.ret.toNat ++ buffer.drop a.ret.toNat, carried.drop a.ret.toNat) log
  | x, _ :: log => filled x log

/-- `BIO_read` hands out no more than there is. -/
def HandsOut : List UInt8 → List Event → Prop
  | _, [] => True
  | carried, ⟨.bioRead _, a⟩ :: log =>
      a.ret.toNat ≤ carried.length ∧ HandsOut (carried.drop a.ret.toNat) log
  | carried, _ :: log => HandsOut carried log

/-! ## The connection -/

inductive Peer where
  | client
  | server
deriving DecidableEq, Repr

def Peer.other : Peer → Peer
  | .client => .server
  | .server => .client

@[simp] theorem Peer.other_other (e : Peer) : e.other.other = e := by cases e <;> rfl

theorem Peer.other_ne (e : Peer) : e.other ≠ e := by cases e <;> nofun

/-- The two ends, and what each of them says to the other. -/
structure Duplex where
  session : Peer → Session
  way : Peer → Pipe UInt8

namespace Duplex

variable (d : Duplex) (e : Peer) (step : Step)

/-- The data that is moved while the end `e` serves a request. -/
def moved : List Event := ((d.session e).serve lib step).2.env.dataLog

/-- What the end says, after it has served the request. -/
def spoken : Pipe UInt8 :=
  { d.way e with
    carried := (d.way e).carried ++
      takenFrom (step.request.buffer (d.way e).unsent) (d.moved lib e step)
    unsent := (d.way e).unsent.drop (step.request.written ((d.session e).reply lib step)) }

/-- What is said to the end, after it has served the request. -/
def heard : Pipe UInt8 :=
  { d.way e.other with
    carried := (filled ([], (d.way e.other).carried) (d.moved lib e step)).2
    arrived := (d.way e.other).arrived ++
      (filled ([], (d.way e.other).carried) (d.moved lib e step)).1.take
        (step.request.obtained ((d.session e).reply lib step)) }

/-- The end `e` serves a request. -/
def next : Duplex where
  session e' := if e' = e then (d.session e).next lib step else d.session e'
  way e' := if e' = e then d.spoken lib e step else d.heard lib e step

/-- The generic layer has what it writes, and the library has what it hands out. -/
structure Admits : Prop where
  buffer : ∀ n, step.request = .output n → n ≤ (d.way e).unsent.length
  library : HandsOut (d.way e.other).carried (d.moved lib e step)

/-- One end serves one request. -/
def Serves (d d' : Duplex) : Prop := ∃ e step, d.Admits lib e step ∧ d' = d.next lib e step

/-- The ends serve requests in any order. -/
def Run : Duplex → Duplex → Prop := ReflTransGen (Serves lib)

/-- Nothing is moved, or one call of the library moves what the generic layer is told. -/
inductive Moves : Prop where
  | nothing (hmoved : d.moved lib e step = [])
      (hwritten : step.request.written ((d.session e).reply lib step) = 0)
      (hobtained : step.request.obtained ((d.session e).reply lib step) = 0)
  | written (n : Int) (a : Transfer n) (hrequest : step.request = .output n)
      (hmoved : d.moved lib e step = [⟨.bioWrite n, a⟩])
      (hwritten : step.request.written ((d.session e).reply lib step) = a.ret.toNat)
  | obtained (n : Int) (a : Transfer n) (hrequest : step.request = .input n)
      (hmoved : d.moved lib e step = [⟨.bioRead n, a⟩])
      (hobtained : step.request.obtained ((d.session e).reply lib step) = a.ret.toNat)

end Duplex

/-- Reading is over for good. -/
theorem Flags.Later.readsNothing {f f' : Flags} (h : f.Later f') (hf : f.readsNothing = true) :
    f'.readsNothing = true := by
  simp only [Flags.readsNothing, Bool.or_eq_true] at hf ⊢
  obtain (hcallback | hfatal) | heof := hf
  · exact .inl (.inl (h.callback.trans hcallback))
  · exact .inl (.inr (h.fatalError hfatal))
  · exact .inr (h.eof heof)

/-! ## What the procedures move -/

/-- A request either moves nothing and says so, or it makes one call and returns what
that has moved. -/
theorem withConnectionOutcome_moved {permanent : Bool} {f : Flags} {as : Supply Answer}
    {io : Flags → IoOutcome} {e : Call} {a : e.Ans} {count : Nat}
    (hio : ∀ f', ((io f').moved = [] ∧ (io f').result.1.toNat = 0) ∨
      ((io f').moved = [⟨e, a⟩] ∧ (io f').result.1.toNat = count)) :
    ((withConnectionOutcome permanent f as io).moved = [] ∧
        (withConnectionOutcome permanent f as io).result.1.toNat = 0) ∨
      ((withConnectionOutcome permanent f as io).moved = [⟨e, a⟩] ∧
        (withConnectionOutcome permanent f as io).result.1.toNat = count) := by
  unfold withConnectionOutcome
  split
  next tlsConnect errorCode f' ho =>
    split
    · split
      · exact .inl ⟨rfl, rfl⟩
      · exact .inl ⟨rfl, rfl⟩
    · split
      · exact .inl ⟨rfl, rfl⟩
      · exact hio f'

/-- An attempt that has not moved anything has no positive result. -/
theorem Answer.ret_toNat_of_code {a : Answer} (h : a.code ≠ .none) : a.ret.toNat = 0 := by
  have hret : ¬ 0 < a.ret := fun hpos => h (a.none_iff.mpr hpos)
  omega

theorem Answer.ioResult_toNat (a : Answer) : a.ioResult.1.toNat = 0 := by
  unfold ioResult
  split <;> try rfl
  split <;> rfl

theorem Answer.inputResult_toNat (a : Answer) : (a.inputResult lib).1.toNat = a.ret.toNat := by
  cases hcode : a.code with
  | none => simp [inputResult, hcode]
  | ssl =>
      rw [ret_toNat_of_code (by simp [hcode])]
      cases heof : a.unexpectedEof lib <;> simp [inputResult, hcode, heof]
  | _ =>
      rw [ret_toNat_of_code (by simp [hcode]), ← a.ioResult_toNat]
      simp [inputResult, hcode]

theorem Answer.outputResult_toNat (a : Answer) : a.outputResult.1.toNat = a.ret.toNat := by
  cases hcode : a.code with
  | none => simp [outputResult, hcode]
  | ssl =>
      rw [ret_toNat_of_code (by simp [hcode])]
      simp [outputResult, hcode]
  | _ =>
      rw [ret_toNat_of_code (by simp [hcode]), ← a.ioResult_toNat]
      simp [outputResult, hcode]

/-- A read returns what its one call of `BIO_read` has handed out. -/
theorem inputOutcome_moved (f : Flags) (as : Supply Answer) {n : Int} (a : Transfer n) :
    ((inputOutcome lib f as a).moved = [] ∧ (inputOutcome lib f as a).result.1.toNat = 0) ∨
      ((inputOutcome lib f as a).moved = [⟨.bioRead n, a⟩] ∧
        (inputOutcome lib f as a).result.1.toNat = a.ret.toNat) := by
  unfold inputOutcome
  split
  · exact .inl ⟨rfl, rfl⟩
  · exact withConnectionOutcome_moved (e := .bioRead n) fun f' =>
      .inr ⟨rfl, a.toAnswer.inputResult_toNat lib⟩

/-- A write returns what its one call of `BIO_write` has taken. -/
theorem outputOutcome_moved (f : Flags) (as : Supply Answer) {n : Int} (a : Transfer n)
    (flushed : Int) :
    ((outputOutcome f as a flushed).moved = [] ∧
        (outputOutcome f as a flushed).result.1.toNat = 0) ∨
      ((outputOutcome f as a flushed).moved = [⟨.bioWrite n, a⟩] ∧
        (outputOutcome f as a flushed).result.1.toNat = a.ret.toNat) := by
  unfold outputOutcome
  split
  · exact .inl ⟨rfl, rfl⟩
  · split
    · exact .inl ⟨rfl, rfl⟩
    · refine withConnectionOutcome_moved (e := .bioWrite n) fun f' => ?_
      split
      · refine .inl ⟨rfl, ?_⟩
        split <;> rfl
      · exact .inr ⟨rfl, a.toAnswer.outputResult_toNat⟩

theorem tlsWaitForConnect_offData (permanent : Bool) (s : State) :
    (tlsWaitForConnect lib permanent).Safe offData (fun _ _ => True) s := by
  rw [tlsWaitForConnect, Program.safe_bind, Program.safe_state]
  cases hinit : s.flags.init with
  | false => simp
  | true =>
      cases hfatal : s.flags.fatalError with
      | true => cases permanent <;> simp
      | false =>
          simp only [Bool.not_true, Bool.false_eq_true, if_false, Program.safe_bind]
          refine (connectLoop_offData 10 rfl).mono fun o s₁ hs₁ => ?_
          cases o with
          | none => simp
          | some a =>
              have hverdict := offData_of_offWire (connectVerdict_offWire lib a hs₁)
              exact hverdict.mono fun _ _ _ => trivial

/-- The requests that move data. -/
def Request.transfers : Request → Bool
  | .input _ | .output _ => true
  | _ => false

/-- No other request does. -/
theorem proc_offData {q : Request} (hq : q.transfers = false) (s : State) :
    (q.proc lib).Safe offData (fun _ _ => True) s := by
  have hdone : ∀ {α : Type} {p : Driver α} {Q : α → State → Prop} {g : α → Reply},
      p.Safe offData Q s →
      Program.Safe offData (fun _ _ => True) (do let a ← p; pure (g a)) s := by
    intro α p Q g hp
    rw [Program.safe_bind]
    exact hp.mono fun _ _ _ => trivial
  cases q with
  | input n => contradiction
  | output n => contradiction
  | watch mask => exact hdone (offData_of_offWire (tlsWatchProc_bystander mask rfl))
  | notify mask =>
      refine hdone (Q := fun _ _ => True) ?_
      rw [tlsNotifyProc, Program.safe_bind]
      refine (offData_of_offWire (removeTimer_bystander rfl)).mono fun _ s₁ _ => ?_
      rw [Program.safe_bind, Program.safe_state]
      split
      · trivial
      · split
        · rw [Program.safe_bind]
          refine (tlsWaitForConnect_offData lib true s₁).mono fun r s₂ _ => ?_
          split
          split <;> trivial
        · trivial
  | timer => exact hdone (offData_of_offWire (tlsChannelHandlerTimer_bystander rfl))
  | blockMode nonblocking =>
      exact hdone (p := tlsBlockModeProc nonblocking) (Q := fun _ _ => True) (by
        simp [tlsBlockModeProc])
  | close => exact hdone tlsCloseProc_offData
  | close2 closeRead closeWrite =>
      refine hdone (Q := fun _ _ => True) ?_
      unfold tlsClose2Proc
      split
      · exact tlsCloseProc_offData.mono fun _ _ _ => trivial
      · trivial
  | handshake find objv =>
      refine hdone (Q := fun _ _ => True) ?_
      cases hobjv : namesTls find objv with
      | false =>
          obtain ⟨r, hr⟩ := handshakeObjCmd_other lib hobjv
          rw [hr]
          trivial
      | true =>
          rw [handshakeObjCmd_eq lib hobjv, Program.safe_bind]
          refine (tlsWaitForConnect_offData lib true s).mono fun r s₁ _ => ?_
          simp [handshakeReply, Call.data]

/-! ## One request -/

namespace Duplex

variable {lib} {d d' : Duplex} {e : Peer} {step : Step}

@[simp] theorem next_session_self :
    (d.next lib e step).session e = (d.session e).next lib step := if_pos rfl

@[simp] theorem next_session_other :
    (d.next lib e step).session e.other = d.session e.other := if_neg e.other_ne

@[simp] theorem next_way_self : (d.next lib e step).way e = d.spoken lib e step := if_pos rfl

@[simp] theorem next_way_other : (d.next lib e step).way e.other = d.heard lib e step :=
  if_neg e.other_ne

theorem moved_of_offData (hq : step.request.transfers = false) : d.moved lib e step = [] := by
  obtain ⟨-, hdata⟩ := run_offData (w := (d.session e).conn step.answers)
    (proc_offData lib hq (d.session e).st)
  exact hdata.dataLog

theorem output_moves (n : Int) (answers : Answers) : d.Moves lib e ⟨.output n, answers⟩ := by
  obtain ⟨w', hrun, -, hmoved⟩ := tlsOutputProc_endsAs lib n ((d.session e).conn answers)
  have hreply : (d.session e).reply lib ⟨.output n, answers⟩ =
      .moved (outputOutcome (d.session e).st.flags answers.handshakes (answers.writes 0 n)
        ((established lib true ((d.session e).conn answers)).env.answers.flushes 0)).result := by
    simp only [Session.reply, Session.serve, Request.proc, Program.run_bind_pure, hrun]
    rfl
  have hlog : d.moved lib e ⟨.output n, answers⟩ =
      (outputOutcome (d.session e).st.flags answers.handshakes (answers.writes 0 n)
        ((established lib true ((d.session e).conn answers)).env.answers.flushes 0)).moved := by
    simp only [moved, Session.serve, Request.proc, Program.run_bind_pure, hrun]
    exact hmoved
  obtain ⟨hnothing, hresult⟩ | ⟨hwrite, hresult⟩ := outputOutcome_moved
    (d.session e).st.flags answers.handshakes (answers.writes 0 n)
    ((established lib true ((d.session e).conn answers)).env.answers.flushes 0)
  · exact .nothing (hlog.trans hnothing) (by rw [hreply]; exact hresult) rfl
  · exact .written n _ rfl (hlog.trans hwrite) (by rw [hreply]; exact hresult)

theorem input_moves (n : Int) (answers : Answers) : d.Moves lib e ⟨.input n, answers⟩ := by
  obtain ⟨w', hrun, -, hmoved⟩ := tlsInputProc_endsAs lib n ((d.session e).conn answers)
  have hreply := (d.session e).reply_input lib n answers
  have hlog : d.moved lib e ⟨.input n, answers⟩ =
      (inputOutcome lib (d.session e).st.flags answers.handshakes (answers.reads 0 n)).moved := by
    simp only [moved, Session.serve, Request.proc, Program.run_bind_pure, hrun]
    exact hmoved
  obtain ⟨hnothing, hresult⟩ | ⟨hread, hresult⟩ := inputOutcome_moved lib
    (d.session e).st.flags answers.handshakes (answers.reads 0 n)
  · exact .nothing (hlog.trans hnothing) rfl (by rw [hreply]; exact hresult)
  · exact .obtained n _ rfl (hlog.trans hread) (by rw [hreply]; exact hresult)

theorem moves (lib : Platform) (d : Duplex) (e : Peer) (step : Step) : d.Moves lib e step := by
  obtain ⟨q, answers⟩ := step
  cases q with
  | input n => exact input_moves n answers
  | output n => exact output_moves n answers
  | _ => exact .nothing (moved_of_offData rfl) rfl rfl

/-- The library has accepted what the generic layer drops from its queue. -/
theorem spoken_eq : d.spoken lib e step =
    (d.way e).accept (step.request.written ((d.session e).reply lib step)) := by
  cases d.moves lib e step with
  | nothing hmoved hwritten hobtained => simp [spoken, hmoved, hwritten, takenFrom]
  | written n a hrequest hmoved hwritten =>
      have hbound : a.ret ≤ max n 0 := a.bounded
      have htake : min a.ret.toNat n.toNat = a.ret.toNat := by omega
      rw [spoken, hwritten, hmoved, hrequest]
      simp [Pipe.accept, takenFrom, Request.buffer, List.take_take, htake]
  | obtained n a hrequest hmoved hobtained =>
      rw [spoken, hmoved, hrequest]
      simp [takenFrom, Request.written]

/-- The library has delivered what the generic layer takes from its buffer. -/
theorem heard_eq : d.heard lib e step =
    (d.way e.other).deliver (step.request.obtained ((d.session e).reply lib step)) := by
  cases d.moves lib e step with
  | nothing hmoved hwritten hobtained => simp [heard, hmoved, hobtained, filled]
  | written n a hrequest hmoved hwritten =>
      rw [heard, hmoved, hrequest]
      simp [filled, Request.obtained]
  | obtained n a hrequest hmoved hobtained =>
      rw [heard, hobtained, hmoved]
      simp [Pipe.deliver, filled, List.take_take]

/-- **One request** moves the data on, and loses nothing. -/
theorem next_leads (d : Duplex) (e : Peer) (step : Step) (e' : Peer) :
    (d.way e').Leads ((d.next lib e step).way e') := by
  obtain rfl | rfl : e' = e ∨ e' = e.other := by cases e <;> cases e' <;> simp [Peer.other]
  · rw [next_way_self, spoken_eq]
    exact .accept _ _
  · rw [next_way_other, heard_eq]
    exact .deliver _ _

/-! ## Every run -/

/-- **Nothing is lost, doubled or put out of order** on the way from one generic layer
to the other, whatever is requested of the two ends and in whatever order: what is left
of the one's queue, what the library holds, and what the other has got always make up
the same data. -/
theorem lossless (h : d.Run lib d') (e : Peer) : (d.way e).Leads (d'.way e) := by
  induction h with
  | refl => exact .refl _
  | tail _ hserves ih =>
      obtain ⟨e', step, -, rfl⟩ := hserves
      exact ih.trans (next_leads _ e' step e)

/-! ## Whether the rest can still arrive -/

theorem run_later (h : d.Run lib d') (e : Peer) :
    (d.session e).st.flags.Later (d'.session e).st.flags := by
  induction h with
  | refl => exact .refl _
  | @tail d₁ _ _ hserves ih =>
      obtain ⟨e', step, -, rfl⟩ := hserves
      obtain rfl | rfl : e = e' ∨ e = e'.other := by cases e <;> cases e' <;> simp [Peer.other]
      · rw [next_session_self]
        exact ih.trans ((d₁.session e).next_later lib step)
      · rwa [next_session_other]

/-- An end that reads nothing gets nothing. -/
theorem obtained_of_readsNothing (hnothing : (d.session e).st.flags.readsNothing = true) :
    step.request.obtained ((d.session e).reply lib step) = 0 := by
  obtain ⟨q, answers⟩ := step
  cases q with
  | input n =>
      rw [Session.reply_input, inputOutcome, if_pos hnothing]
      rfl
  | _ => rfl

/-- An end that has failed writes nothing. -/
theorem written_of_fatal (hcallback : (d.session e).st.flags.callback = false)
    (hfatal : (d.session e).st.flags.fatalError = true) :
    step.request.written ((d.session e).reply lib step) = 0 := by
  obtain ⟨q, answers⟩ := step
  cases q with
  | output n =>
      rw [((d.session e).failed_of_fatal lib hcallback hfatal).writes n answers]
      rfl
  | _ => rfl

theorem run_arrived_of_readsNothing (h : d.Run lib d')
    (hnothing : (d.session e.other).st.flags.readsNothing = true) :
    (d'.way e).arrived = (d.way e).arrived := by
  induction h with
  | refl => rfl
  | @tail d₁ _ hrun hserves ih =>
      obtain ⟨e', step, -, rfl⟩ := hserves
      have hlater := run_later hrun e.other
      have hnothing' := hlater.readsNothing hnothing
      obtain rfl | rfl : e' = e ∨ e' = e.other := by cases e <;> cases e' <;> simp [Peer.other]
      · rw [next_way_self, spoken_eq]
        exact ih
      · have hway := @next_way_other lib d₁ e.other step
        rw [Peer.other_other] at hway
        rw [hway, heard_eq, obtained_of_readsNothing hnothing', Pipe.deliver_zero, Peer.other_other]
        exact ih

theorem run_unsent_of_fatal (h : d.Run lib d') (hcallback : (d.session e).st.flags.callback = false)
    (hfatal : (d.session e).st.flags.fatalError = true) :
    (d'.way e).unsent = (d.way e).unsent := by
  induction h with
  | refl => rfl
  | @tail d₁ _ hrun hserves ih =>
      obtain ⟨e', step, -, rfl⟩ := hserves
      have hlater := run_later hrun e
      obtain rfl | rfl : e = e' ∨ e = e'.other := by cases e <;> cases e' <;> simp [Peer.other]
      · rw [next_way_self, spoken_eq,
          written_of_fatal (hlater.callback.trans hcallback) (hlater.fatalError hfatal),
          Pipe.accept_zero]
        exact ih
      · rw [next_way_other, heard_eq]
        exact ih

end Duplex

/-- The library moves all there is. -/
def Transfer.all (n : Int) : Transfer n :=
  if h : 0 < n then
    { ret := n, code := .none, err := 0, errno := 0, retry := false
      none_iff := iff_of_true rfl h
      bounded := Int.le_max_left n 0 }
  else Answer.wantRead.toTransfer Answer.wantRead_ret n

theorem Transfer.all_ret {n : Int} (h : 0 < n) : (all n).ret = n := by rw [all, dif_pos h]

theorem none_iff_one : SslError.none = .none ↔ (0 : Int) < 1 := iff_of_true rfl Int.one_pos

/-- A handshake that succeeds at once. -/
def Answer.success : Answer := ⟨1, .none, 0, 0, false, none_iff_one⟩

/-- A library that establishes the connection and moves all there is. -/
def prompt : Answers := .steady .success .all .all ⟨tclOk, ""⟩

theorem withConnectionOutcome_prompt (permanent : Bool) {f : Flags} (hfatal : f.fatalError = false)
    (io : Flags → IoOutcome) :
    withConnectionOutcome permanent f prompt.handshakes io = io { f with init := false } := by
  have hloop : loopOutcome f.async 10 prompt.handshakes = some .success := by
    have hdecisive : decisive 10 prompt.handshakes = .success := Session.decisive_const _ 10
    cases f.async with
    | false => exact congrArg some hdecisive
    | true => rfl
  rw [withConnectionOutcome_eq permanent hfatal, hloop]
  cases hinit : f.init with
  | false =>
      have hsame : { f with init := false } = f := by rw [← hinit]
      rw [hsame, if_neg Bool.false_ne_true]
  | true => rfl

namespace Duplex

variable {lib} {d d' : Duplex} {e : Peer} {step : Step}

/-- With a prompt library, an end that has not failed gets rid of its queue. -/
theorem written_prompt (lib : Platform) (hcallback : (d.session e).st.flags.callback = false)
    (hfatal : (d.session e).st.flags.fatalError = false) {n : Nat} (hn : 0 < n) :
    Request.written (.output n) ((d.session e).reply lib ⟨.output n, prompt⟩) = n := by
  have hpos : (0 : Int) < n := by omega
  have hwrite : (n : Int) ≠ 0 := by omega
  obtain ⟨w', hrun, -⟩ := tlsOutputProc_endsAs lib n ((d.session e).conn prompt)
  have hreply : (d.session e).reply lib ⟨.output n, prompt⟩ =
      .moved (outputOutcome (d.session e).st.flags prompt.handshakes (prompt.writes 0 n)
        ((established lib true ((d.session e).conn prompt)).env.answers.flushes 0)).result := by
    simp only [Session.reply, Session.serve, Request.proc, Program.run_bind_pure, hrun]
    rfl
  have hret : (prompt.writes 0 n).ret = n := Transfer.all_ret hpos
  rw [hreply, outputOutcome, hcallback, hfatal, if_neg Bool.false_ne_true,
    if_neg Bool.false_ne_true, withConnectionOutcome_prompt true hfatal, if_neg hwrite,
    Request.written, Answer.outputResult_toNat, hret, Int.toNat_natCast]

/-- With a prompt library, an end that is open gets what is on its way. -/
theorem obtained_prompt (lib : Platform) (hopen : (d.session e).st.flags.readsNothing = false)
    {n : Nat} (hn : 0 < n) :
    Request.obtained (.input n) ((d.session e).reply lib ⟨.input n, prompt⟩) = n := by
  have hpos : (0 : Int) < n := by omega
  have hfatal : (d.session e).st.flags.fatalError = false := by
    simp only [Flags.readsNothing, Bool.or_eq_false_iff] at hopen
    exact hopen.1.2
  have hret : (prompt.reads 0 n).ret = n := Transfer.all_ret hpos
  rw [Session.reply_input, inputOutcome, hopen, if_neg Bool.false_ne_true,
    withConnectionOutcome_prompt false hfatal, Request.obtained, Answer.inputResult_toNat, hret,
    Int.toNat_natCast]

/-- A write hands out nothing. -/
theorem admits_output (lib : Platform) {n : Int} {answers : Answers}
    (hbuffer : n ≤ (d.way e).unsent.length) : d.Admits lib e ⟨.output n, answers⟩ := by
  refine ⟨fun n' hn' => ?_, ?_⟩
  · cases hn'
    exact hbuffer
  · cases d.moves lib e ⟨.output n, answers⟩ with
    | nothing hmoved _ _ =>
        rw [hmoved]
        trivial
    | written n' a _ hmoved _ =>
        rw [hmoved]
        trivial
    | obtained n' a hrequest _ _ => contradiction

/-- The sender can get rid of its queue, and leave the receiver as it is. -/
theorem flushes (lib : Platform) (hcallback : (d.session e).st.flags.callback = false)
    (hwrites : (d.way e).unsent = [] ∨ (d.session e).st.flags.fatalError = false) :
    ∃ d', d.Run lib d' ∧ (d'.way e).unsent = [] ∧ d'.session e.other = d.session e.other := by
  by_cases hunsent : (d.way e).unsent = []
  · exact ⟨d, .refl, hunsent, rfl⟩
  · have hfatal : (d.session e).st.flags.fatalError = false := hwrites.resolve_left hunsent
    have hlength : 0 < (d.way e).unsent.length := List.length_pos_iff.mpr hunsent
    have hwritten := written_prompt lib hcallback hfatal hlength
    have hadmits : d.Admits lib e ⟨.output (d.way e).unsent.length, prompt⟩ :=
      admits_output lib (Int.le_refl _)
    refine ⟨_, .single ⟨e, _, hadmits, rfl⟩, ?_, next_session_other⟩
    rw [next_way_self, spoken_eq, hwritten]
    exact List.drop_length

/-- An open receiver can get what is on its way. -/
theorem drains (lib : Platform) (hopen : (d.session e.other).st.flags.readsNothing = false) :
    ∃ d', d.Run lib d' ∧ (d'.way e).carried = [] ∧ (d'.way e).unsent = (d.way e).unsent := by
  by_cases hcarried : (d.way e).carried = []
  · exact ⟨d, .refl, hcarried, rfl⟩
  · have hlength : 0 < (d.way e).carried.length := List.length_pos_iff.mpr hcarried
    have hobtained := obtained_prompt lib hopen hlength
    have hway := @next_way_other lib d e.other ⟨.input (d.way e).carried.length, prompt⟩
    rw [Peer.other_other, heard_eq, hobtained, Peer.other_other] at hway
    have hadmits : d.Admits lib e.other ⟨.input (d.way e).carried.length, prompt⟩ := by
      refine ⟨fun n hn => ?_, ?_⟩
      · contradiction
      · rw [Peer.other_other]
        cases d.moves lib e.other ⟨.input (d.way e).carried.length, prompt⟩ with
        | nothing hmoved _ _ =>
            rw [hmoved]
            trivial
        | written n a hrequest _ _ => contradiction
        | obtained n a hrequest hmoved hret =>
            rw [hmoved]
            exact ⟨by rw [← hret, hobtained], trivial⟩
    refine ⟨_, .single ⟨e.other, _, hadmits, rfl⟩, ?_, ?_⟩
    · rw [hway]
      exact List.drop_length
    · rw [hway]
      rfl

/-- **The rest can still arrive** exactly if there is none, or the receiver is open
and the sender has written everything or can still write. -/
theorem completes_iff (hcallback : (d.session e).st.flags.callback = false) :
    (∃ d', d.Run lib d' ∧ (d'.way e).arrived = (d.way e).whole) ↔
      ((d.way e).carried = [] ∧ (d.way e).unsent = []) ∨
        ((d.session e.other).st.flags.readsNothing = false ∧
          ((d.way e).unsent = [] ∨ (d.session e).st.flags.fatalError = false)) := by
  constructor
  · rintro ⟨d', hrun, harrived⟩
    have hleads := lossless hrun e
    rw [← hleads.whole, Pipe.arrived_eq_whole_iff] at harrived
    cases hreads : (d.session e.other).st.flags.readsNothing with
    | true =>
        have hsame := run_arrived_of_readsNothing hrun hreads
        have hwhole : (d.way e).arrived = (d.way e).whole := by
          rw [← hsame, ← hleads.whole]
          exact (Pipe.arrived_eq_whole_iff _).mpr harrived
        exact .inl ((Pipe.arrived_eq_whole_iff _).mp hwhole)
    | false =>
        refine .inr ⟨rfl, ?_⟩
        cases hfatal : (d.session e).st.flags.fatalError with
        | true =>
            have hsame := run_unsent_of_fatal hrun hcallback hfatal
            exact .inl (hsame.symm.trans harrived.2)
        | false => exact .inr rfl
  · rintro (hnone | ⟨hreads, hwrites⟩)
    · exact ⟨d, .refl, (Pipe.arrived_eq_whole_iff _).mpr hnone⟩
    · obtain ⟨d₁, hrun₁, hunsent, hother⟩ := flushes lib hcallback hwrites
      rw [← hother] at hreads
      obtain ⟨d₂, hrun₂, hcarried, hunsent₂⟩ := drains lib hreads
      have hrun := hrun₁.trans hrun₂
      refine ⟨d₂, hrun, ?_⟩
      rw [← (lossless hrun e).whole, Pipe.arrived_eq_whole_iff]
      exact ⟨hcarried, hunsent₂.trans hunsent⟩

/-- Two fresh ends; the client has three bytes to say. -/
def greeting : Duplex where
  session
    | .client => freshClient
    | .server => { st := { flags := { init := true, server := true } } }
  way
    | .client => { unsent := [104, 105, 10] }
    | .server => { unsent := [] }

/-- The client writes two of them, with a library that is not done with the handshake. -/
theorem lossless_greeting :
    (greeting.way .client).Leads
      ((greeting.next .plain .client ⟨.output 2, Session.waiting⟩).way .client) :=
  have hadmits : greeting.Admits .plain .client ⟨.output 2, Session.waiting⟩ :=
    admits_output .plain (by decide : (2 : Int) ≤ 3)
  lossless (.single ⟨.client, _, hadmits, rfl⟩) .client

theorem completes_iff_greeting :
    ∃ d', greeting.Run .plain d' ∧ (d'.way .client).arrived = [104, 105, 10] :=
  (completes_iff (e := .client) rfl).mpr (.inr ⟨rfl, .inr rfl⟩)

end Duplex

end TclTls
