import TclTls.Bio
import TclTls.IoContract

/-!
# TclTls.Transient

Conditions of the channel below that pass.

A read or write of the channel below that answers -1 with `EAGAIN` or one of its
likes is to be repeated later, and so is the call of the driver that it has
interrupted; any other -1 is an error.  The retry flags of the BIO carry this
through OpenSSL, but a flush sets none.  A write of no bytes is nothing but a
flush, and reports `EIO` for both (`transients_weathered_iff`).
-/

namespace TclTls

open Interaction

variable (lib : Platform)

/-! ## The channel below -/

/-- What the library's operations do with the channel below, and its answers to
flushes. -/
structure Transport where
  handshakes : Supply BioOperation
  reads : Supply (Int → BioOperation)
  writes : Supply (Int → BioOperation)
  flushes : Supply RawAnswer

/-- The answers of the library are what it makes of those of the channel below. -/
structure Transport.Carries (t : Transport) (answers : Answers) : Prop where
  handshakes : ∀ i, (t.handshakes i).Reports (answers.handshakes i)
  reads : ∀ i n, (t.reads i n).Reports (answers.reads i n).toAnswer
  writes : ∀ i n, (t.writes i n).Reports (answers.writes i n).toAnswer
  flushes : ∀ i, answers.flushes i = bioFlush (t.flushes i)

/-! ## The last attempt of a handshake -/

/-- Which attempt the loop ends with. -/
def lastIndex (async : Bool) : Nat → Supply Answer → Nat
  | 0, _ => 0
  | retries + 1, as => if (as 0).again && !async then lastIndex async retries as.rest + 1 else 0

/-- How many of the first `n` attempts are followed by a flush. -/
def flushed (as : Supply Answer) : Nat → Nat
  | 0 => 0
  | n + 1 => (if 0 < (as 0).ret then 1 else 0) + flushed as.rest n

theorem decisive_eq (retries : Nat) (as : Supply Answer) :
    decisive retries as = as (lastIndex false retries as) := by
  induction retries generalizing as with
  | zero => rfl
  | succ retries ih =>
      cases hagain : (as 0).again with
      | false => simp [decisive, lastIndex, hagain]
      | true => simp [decisive, lastIndex, hagain, ih, Supply.rest]

theorem lastIndex_async (retries : Nat) (as : Supply Answer) : lastIndex true retries as = 0 := by
  cases retries <;> simp [lastIndex]

/-- The loop of an asynchronous channel leaves an attempt that has to be repeated
for later. -/
theorem loopOutcome_eq (async : Bool) (retries : Nat) (as : Supply Answer) :
    loopOutcome async retries as =
      if async && (as (lastIndex async retries as)).again then none
      else some (as (lastIndex async retries as)) := by
  cases async with
  | false => simp [loopOutcome, decisive_eq]
  | true => simp [loopOutcome, lastIndex_async]

/-! ## Interrupted calls -/

/-- `Tls_WaitForConnect` tries to establish the connection and ends with such a
failure of the channel below. -/
def Transport.InterruptsConnect (t : Transport) (f : Flags) (as : Supply Answer)
    (transient : Bool) : Prop :=
  f.init = true ∧ f.fatalError = false ∧
    (t.handshakes (lastIndex f.async 10 as)).Fails transient

/-- The connection is established, or it gets established. -/
def Flags.Reaches (f : Flags) (as : Supply Answer) : Prop :=
  f.init = true → ∃ a, loopOutcome f.async 10 as = some a ∧ a.code = .none

/-- How many flushes come before the transfer. -/
def Flags.flushesBefore (f : Flags) (as : Supply Answer) : Nat :=
  if f.init then flushed as (lastIndex f.async 10 as + 1) else 0

/-- The handshake on the way ends with such a failure, or it is over and the
transfer does. -/
def Transport.InterruptsTransfer (t : Transport) (f : Flags) (as : Supply Answer)
    (transient : Bool) (io : Prop) : Prop :=
  t.InterruptsConnect f as transient ∨ (f.Reaches as ∧ io)

def Transport.InterruptsInput (t : Transport) (f : Flags) (as : Supply Answer) (bufSize : Int)
    (transient : Bool) : Prop :=
  f.readsNothing = false ∧ t.InterruptsTransfer f as transient ((t.reads 0 bufSize).Fails transient)

def Transport.InterruptsOutput (t : Transport) (f : Flags) (as : Supply Answer) (toWrite : Int)
    (transient : Bool) : Prop :=
  f.callback = false ∧ f.fatalError = false ∧ t.InterruptsTransfer f as transient
    (if toWrite = 0 then (t.flushes (f.flushesBefore as)).Fails transient
      else (t.writes 0 toWrite).Fails transient)

/-- A write of no bytes gets to its flush, and the channel below answers that it
has to be repeated. -/
def Transport.InterruptsFlush (t : Transport) (f : Flags) (as : Supply Answer) : Prop :=
  f.callback = false ∧ f.fatalError = false ∧ f.Reaches as ∧
    (t.flushes (f.flushesBefore as)).Fails true

/-- What an interrupted call has to come to: on a condition that passes it has
to be repeated and the connection stays as it is, and any other condition is not
taken for one that passes. -/
structure Weathers (interrupts : Bool → Prop) (waits : Int) (f : Flags) (r : Int × Errno)
    (f' : Flags) : Prop where
  repeated : interrupts true →
    r = (waits, Errno.eagain) ∧ f'.fatalError = f.fatalError ∧ f'.eof = f.eof
  failed : interrupts false → r.2 ≠ Errno.eagain

/-! ## Handshakes -/

section Connect

variable {t : Transport} {answers : Answers} {f : Flags} {o : BioOperation} {a : Answer}

theorem BioOperation.Reports.again_of_fails (h : o.Reports a) (ho : o.Fails false) :
    a.again = false := by
  obtain ⟨hcode, hretry, -⟩ := h.fatal ho
  rcases hcode with hcode | hcode <;> simp [Answer.again, hretry, hcode]

theorem Answer.verdict_of_wants (ha : a.code = .wantRead ∨ a.code = .wantWrite) (f : Flags) :
    a.verdict = (0, Errno.eagain) ∧ a.settle f = f := by
  rcases ha with ha | ha <;> simp [Answer.verdict, Answer.settle, ha]

theorem Answer.sysErrno_ne_eagain (ha : a.errno ≠ Errno.eagain) : a.sysErrno ≠ Errno.eagain := by
  unfold sysErrno
  split
  · decide
  · exact ha

theorem Answer.verdict_of_fatal (hcode : a.code = .syscall ∨ a.code = .ssl)
    (ha : a.errno ≠ Errno.eagain) : a.verdict.2 ≠ Errno.eagain := by
  rcases hcode with hcode | hcode
  · by_cases heof : a.err = 0 ∧ a.ret = 0
    · simp [Answer.verdict, hcode, heof, Errno.econnreset, Errno.eagain]
    · simpa [Answer.verdict, hcode, heof] using a.sysErrno_ne_eagain ha
  · simp [Answer.verdict, hcode, Errno.econnaborted, Errno.eagain]

/-- **`Tls_WaitForConnect`** passes both kinds on. -/
theorem connectOutcome_weathers (ht : t.Carries answers) (permanent : Bool) (f : Flags) :
    Weathers (t.InterruptsConnect f answers.handshakes) 0 f
      (connectOutcome permanent f answers.handshakes).1
      (connectOutcome permanent f answers.handshakes).2 where
  repeated h := by
    obtain ⟨hinit, hfatal, hfails⟩ := h
    have hwants := (ht.handshakes _).wants hfails
    obtain ⟨hverdict, hsettle⟩ := Answer.verdict_of_wants hwants f
    have hloop := loopOutcome_eq f.async 10 answers.handshakes
    split at hloop
    · rw [connectOutcome_of_waiting hinit hfatal hloop]
      exact ⟨rfl, rfl, rfl⟩
    · rw [connectOutcome_of_decided hinit hfatal hloop, hverdict, hsettle]
      exact ⟨rfl, rfl, rfl⟩
  failed h := by
    obtain ⟨hinit, hfatal, hfails⟩ := h
    obtain ⟨hcode, -, herrno⟩ := (ht.handshakes _).fatal hfails
    have hloop := loopOutcome_eq f.async 10 answers.handshakes
    rw [(ht.handshakes _).again_of_fails hfails, Bool.and_false, if_neg Bool.false_ne_true] at hloop
    rw [connectOutcome_of_decided hinit hfatal hloop]
    exact Answer.verdict_of_fatal hcode herrno

end Connect

/-! ## Transfers -/

section Transfer

variable {t : Transport} {answers : Answers} {f : Flags} {o : BioOperation} {a : Answer}

theorem Answer.proceed_of_wants (ha : a.code = .wantRead ∨ a.code = .wantWrite) (f : Flags)
    (io : Flags → IoOutcome) : a.proceed f io = ⟨(-1, Errno.eagain), f, []⟩ := by
  rcases ha with ha | ha <;> simp [Answer.proceed, ha]

theorem Answer.proceed_of_fatal (hcode : a.code = .syscall ∨ a.code = .ssl)
    (ha : a.errno ≠ Errno.eagain) (f : Flags) (io : Flags → IoOutcome) :
    (a.proceed f io).result.2 ≠ Errno.eagain := by
  rcases hcode with hcode | hcode
  · by_cases heof : a.err = 0 ∧ a.ret = 0
    · simp [Answer.proceed, hcode, heof, Errno.eagain]
    · simpa [Answer.proceed, hcode, heof] using a.sysErrno_ne_eagain ha
  · simp [Answer.proceed, hcode, Errno.econnaborted, Errno.eagain]

/-- On a connection that is or gets established the transfer gets its turn. -/
theorem withConnectionOutcome_of_reaches (permanent : Bool) (hfatal : f.fatalError = false)
    {as : Supply Answer} (h : f.Reaches as) (io : Flags → IoOutcome) :
    withConnectionOutcome permanent f as io = io { f with init := false } := by
  rw [withConnectionOutcome_eq permanent hfatal]
  cases hinit : f.init with
  | false =>
      rw [if_neg Bool.false_ne_true, ← hinit]
  | true =>
      obtain ⟨d, hloop, hcode⟩ := h hinit
      rw [if_pos rfl, hloop]
      simp [Answer.proceed, hcode]

/-- What is true of the transfer is true of it with the handshake on the way. -/
theorem withConnectionOutcome_weathers (ht : t.Carries answers) (permanent : Bool)
    (hfatal : f.fatalError = false) (interrupts : Bool → Prop) (io : Flags → IoOutcome)
    (hio : ∀ f', Weathers interrupts (-1) f' (io f').result (io f').flags) :
    Weathers (fun transient =>
        t.InterruptsTransfer f answers.handshakes transient (interrupts transient)) (-1) f
      (withConnectionOutcome permanent f answers.handshakes io).result
      (withConnectionOutcome permanent f answers.handshakes io).flags where
  repeated h := by
    rcases h with ⟨hinit, -, hfails⟩ | ⟨hreaches, hio'⟩
    · have hwants := (ht.handshakes _).wants hfails
      have hloop := loopOutcome_eq f.async 10 answers.handshakes
      rw [withConnectionOutcome_eq permanent hfatal, if_pos hinit]
      split at hloop
      · rw [hloop]
        exact ⟨rfl, rfl, rfl⟩
      · simp [hloop, Answer.proceed_of_wants hwants]
    · rw [withConnectionOutcome_of_reaches permanent hfatal hreaches]
      exact (hio _).repeated hio'
  failed h := by
    rcases h with ⟨hinit, -, hfails⟩ | ⟨hreaches, hio'⟩
    · obtain ⟨hcode, -, herrno⟩ := (ht.handshakes _).fatal hfails
      have hloop := loopOutcome_eq f.async 10 answers.handshakes
      rw [(ht.handshakes _).again_of_fails hfails, Bool.and_false, if_neg Bool.false_ne_true]
        at hloop
      rw [withConnectionOutcome_eq permanent hfatal, if_pos hinit, hloop]
      exact Answer.proceed_of_fatal hcode herrno f io
    · rw [withConnectionOutcome_of_reaches permanent hfatal hreaches]
      exact (hio _).failed hio'

/-- The cases that reading and writing share. -/
theorem Answer.ioResult_of_wants (ha : a.code = .wantRead ∨ a.code = .wantWrite) (f : Flags) :
    a.ioResult = (-1, Errno.eagain) ∧ a.ioSettle f = f := by
  rcases ha with ha | ha <;> simp [Answer.ioResult, Answer.ioSettle, ha]

theorem Answer.ioResult_of_syscall (hcode : a.code = .syscall) (ha : a.errno ≠ Errno.eagain) :
    a.ioResult.2 ≠ Errno.eagain := by
  by_cases heof : a.err = 0 ∧ a.ret = 0
  · simp [Answer.ioResult, hcode, heof, Errno.eagain]
  · simpa [Answer.ioResult, hcode, heof] using ha

theorem bioRead_weathers (h : o.Reports a) (f : Flags) :
    Weathers o.Fails (-1) f (a.inputResult lib) (a.inputSettle lib f) where
  repeated ho := by
    obtain ⟨hresult, hsettle⟩ := Answer.ioResult_of_wants (h.wants ho) f
    rcases h.wants ho with hcode | hcode <;>
      simp [Answer.inputResult, Answer.inputSettle, hcode, hresult, hsettle]
  failed ho := by
    obtain ⟨hcode, -, herrno⟩ := h.fatal ho
    rcases hcode with hcode | hcode
    · simpa only [Answer.inputResult, hcode] using Answer.ioResult_of_syscall hcode herrno
    · cases heof : a.unexpectedEof lib <;>
        simp [Answer.inputResult, hcode, heof, Errno.econnaborted, Errno.eagain]

theorem bioWrite_weathers (h : o.Reports a) (f : Flags) :
    Weathers o.Fails (-1) f a.outputResult (a.outputSettle f) where
  repeated ho := by
    obtain ⟨hresult, hsettle⟩ := Answer.ioResult_of_wants (h.wants ho) f
    rcases h.wants ho with hcode | hcode <;>
      simp [Answer.outputResult, Answer.outputSettle, hcode, hresult, hsettle]
  failed ho := by
    obtain ⟨hcode, -, herrno⟩ := h.fatal ho
    rcases hcode with hcode | hcode
    · simpa only [Answer.outputResult, hcode] using Answer.ioResult_of_syscall hcode herrno
    · simp [Answer.outputResult, hcode, Errno.econnaborted, Errno.eagain]

/-- **`TlsInputProc`** passes both kinds on. -/
theorem inputOutcome_weathers (ht : t.Carries answers) (f : Flags) (n : Int) :
    Weathers (t.InterruptsInput f answers.handshakes n) (-1) f
      (inputOutcome lib f answers.handshakes (answers.reads 0 n)).result
      (inputOutcome lib f answers.handshakes (answers.reads 0 n)).flags := by
  cases hnothing : f.readsNothing with
  | true => exact ⟨fun h => by simp [h.1] at hnothing, fun h => by simp [h.1] at hnothing⟩
  | false =>
      have hfatal : f.fatalError = false := by
        simp only [Flags.readsNothing, Bool.or_eq_false_iff] at hnothing
        exact hnothing.1.2
      have hread := withConnectionOutcome_weathers ht false hfatal (t.reads 0 n).Fails
        (fun f' => ⟨(answers.reads 0 n).inputResult lib,
          (answers.reads 0 n).inputSettle lib f', [⟨.bioRead n, answers.reads 0 n⟩]⟩)
        fun f' => bioRead_weathers lib (ht.reads 0 n) f'
      rw [inputOutcome, hnothing, if_neg Bool.false_ne_true]
      exact ⟨fun h => hread.repeated h.2, fun h => hread.failed h.2⟩

/-- A call that is refused gets to nothing that could be interrupted. -/
theorem weathers_of_refused (h : f.callback = true ∨ f.fatalError = true) (as : Supply Answer)
    (n : Int) (r : Int × Errno) (f' : Flags) :
    Weathers (t.InterruptsOutput f as n) (-1) f r f' := by
  have hnot : ∀ transient, ¬ t.InterruptsOutput f as n transient := by
    rintro transient ⟨hcallback, hfatal, -⟩
    rcases h with h | h
    · exact Bool.false_ne_true (hcallback.symm.trans h)
    · exact Bool.false_ne_true (hfatal.symm.trans h)
  exact ⟨fun h => absurd h (hnot true), fun h => absurd h (hnot false)⟩

/-- **`TlsOutputProc`** passes both kinds on, other than those of a mere flush. -/
theorem outputOutcome_weathers (ht : t.Carries answers) (f : Flags) {n : Int} (hn : n ≠ 0)
    (flush : Int) :
    Weathers (t.InterruptsOutput f answers.handshakes n) (-1) f
      (outputOutcome f answers.handshakes (answers.writes 0 n) flush).result
      (outputOutcome f answers.handshakes (answers.writes 0 n) flush).flags := by
  cases hcallback : f.callback with
  | true => exact weathers_of_refused (.inl hcallback) _ _ _ _
  | false =>
      cases hfatal : f.fatalError with
      | true => exact weathers_of_refused (.inr hfatal) _ _ _ _
      | false =>
          have hwrite := withConnectionOutcome_weathers ht true hfatal (t.writes 0 n).Fails
            (fun f' => ⟨(answers.writes 0 n).outputResult,
              (answers.writes 0 n).outputSettle f', [⟨.bioWrite n, answers.writes 0 n⟩]⟩)
            fun f' => bioWrite_weathers (ht.writes 0 n) f'
          simp only [outputOutcome, hcallback, hfatal, Bool.false_eq_true, if_false, if_neg hn]
          have hturn : ∀ transient, t.InterruptsOutput f answers.handshakes n transient →
              t.InterruptsTransfer f answers.handshakes transient
                ((t.writes 0 n).Fails transient) := by
            intro transient h
            have htransfer := h.2.2
            rwa [if_neg hn] at htransfer
          exact ⟨fun h => hwrite.repeated (hturn true h), fun h => hwrite.failed (hturn false h)⟩

theorem bioFlush_of_fails {raw : RawAnswer} {transient : Bool} (h : raw.Fails transient) :
    bioFlush raw = -1 := by
  simp [bioFlush, h.1]

/-- A write of no bytes does not tell them apart. -/
theorem outputOutcome_zero_weathers_iff (ht : t.Carries answers) (f : Flags) {flush : Int}
    (hflush : f.fatalError = false →
      flush = answers.flushes (f.flushesBefore answers.handshakes)) :
    Weathers (t.InterruptsOutput f answers.handshakes 0) (-1) f
        (outputOutcome f answers.handshakes (answers.writes 0 0) flush).result
        (outputOutcome f answers.handshakes (answers.writes 0 0) flush).flags ↔
      ¬ t.InterruptsFlush f answers.handshakes := by
  constructor
  · intro hweathers hinterrupts
    obtain ⟨hcallback, hfatal, hreaches, hfails⟩ := hinterrupts
    have hrepeated := hweathers.repeated ⟨hcallback, hfatal, .inr ⟨hreaches, hfails⟩⟩
    have hflushed : flush = -1 := by
      rw [hflush hfatal, ht.flushes, bioFlush_of_fails hfails]
    simp [outputOutcome, hcallback, hfatal, withConnectionOutcome_of_reaches true hfatal hreaches,
      hflushed, Errno.eio, Errno.eagain] at hrepeated
  · intro hflushes
    cases hcallback : f.callback with
    | true => exact weathers_of_refused (.inl hcallback) _ _ _ _
    | false =>
        cases hfatal : f.fatalError with
        | true => exact weathers_of_refused (.inr hfatal) _ _ _ _
        | false =>
            -- what is left to interrupt the flush is an error
            have hwrite := withConnectionOutcome_weathers ht true hfatal
              (fun transient => transient = false)
              (fun f' => ⟨if flush ≤ 0 then (-1, Errno.eio) else (0, 0), f', []⟩)
              fun f' => ⟨fun h => Bool.noConfusion h, fun _ => by
                split <;> simp [Errno.eio, Errno.eagain]⟩
            simp only [outputOutcome, hcallback, hfatal, Bool.false_eq_true, if_false, if_true]
            refine ⟨fun h => hwrite.repeated ?_, fun h => hwrite.failed (h.2.2.imp_right fun hio =>
              ⟨hio.1, rfl⟩)⟩
            rcases h.2.2 with hconnect | ⟨hreaches, hfails⟩
            · exact .inl hconnect
            · exact absurd ⟨hcallback, hfatal, hreaches, hfails⟩ hflushes

end Transfer

/-! ## Which flush it is -/

section Flushes

variable (w : Conn)

theorem run_handshakeAttempt_flushes (i : Nat) :
    (w.run handshakeAttempt).2.env.answers.flushes i = w.env.answers.flushes
      ((if 0 < (w.env.answers.handshakes 0).ret then 1 else 0) + i) := by
  cases hserver : w.st.flags.server <;>
    by_cases hret : 0 < (w.env.answers.handshakes 0).ret <;>
    simp [handshakeAttempt, hserver, hret, Supply.rest, Nat.add_comm]

theorem run_connectLoop_flushes (retries : Nat) (i : Nat) :
    (w.run (connectLoop retries)).2.env.answers.flushes i = w.env.answers.flushes
      (flushed w.env.answers.handshakes
        (lastIndex w.st.flags.async retries w.env.answers.handshakes + 1) + i) := by
  induction retries generalizing w i with
  | zero =>
      rw [connectLoop]
      cases ha : (w.env.answers.handshakes 0).again <;> cases hasync : w.st.flags.async <;>
        simp [lastIndex, flushed, ha, hasync, run_handshakeAttempt_flushes]
  | succ retries ih =>
      rw [connectLoop]
      cases ha : (w.env.answers.handshakes 0).again <;> cases hasync : w.st.flags.async <;>
        simp [lastIndex, flushed, ha, hasync, run_handshakeAttempt_flushes, ih, Nat.add_assoc]

theorem established_flushes (permanent : Bool) (hfatal : w.st.flags.fatalError = false) :
    (established lib permanent w).env.answers.flushes 0 =
      w.env.answers.flushes (w.st.flags.flushesBefore w.env.answers.handshakes) := by
  cases hinit : w.st.flags.init with
  | false => simp [established, Flags.flushesBefore, hinit]
  | true =>
      have hloop := run_connectLoop_flushes w 10 0
      simp only [established, Flags.flushesBefore, hinit, if_true]
      rw [← Nat.add_zero (flushed _ _), ← hloop]
      cases hrun : w.run (connectLoop 10) with | mk o w₁
      cases o with
      | none => simp [tlsWaitForConnect, hinit, hfatal, hrun]
      | some a =>
          -- the switch makes no flush
          have hverdict := (run_offWire (w := w₁) (connectVerdict_offWire lib a rfl)).2.flushes
          simp [tlsWaitForConnect, hinit, hfatal, hrun, hverdict]

end Flushes

/-! ## Runs -/

/-- A request with the answers of the library, and those of the channel below
that it makes them from. -/
structure Delivery extends Step where
  transport : Transport
  carries : transport.Carries answers

namespace Session

theorem reply_output (c : Session) (n : Int) (answers : Answers) :
    ∃ flush : Int, (c.st.flags.fatalError = false →
        flush = answers.flushes (c.st.flags.flushesBefore answers.handshakes)) ∧
      c.reply lib ⟨.output n, answers⟩ =
        .moved (outputOutcome c.st.flags answers.handshakes (answers.writes 0 n) flush).result ∧
      (c.next lib ⟨.output n, answers⟩).st.flags =
        (outputOutcome c.st.flags answers.handshakes (answers.writes 0 n) flush).flags := by
  obtain ⟨w', hrun, hflags, -⟩ := tlsOutputProc_endsAs lib n (c.conn answers)
  refine ⟨_, established_flushes lib (c.conn answers) true, ?_, ?_⟩
  · simp only [reply, serve, Request.proc, Program.run_bind_pure, hrun]
    rfl
  · simp only [next, serve, Request.proc, Program.run_bind_pure, hrun]
    exact hflags

/-- A call of `Tls_WaitForConnect` made now weathers the conditions of the
channel below. -/
def ConnectWeathers (c : Session) (d : Delivery) : Prop :=
  ∀ permanent, ∃ r w, (c.conn d.answers).run (tlsWaitForConnect lib permanent) = (r, w) ∧
    Weathers (d.transport.InterruptsConnect c.st.flags d.answers.handshakes) 0 c.st.flags r
      w.st.flags

/-- So does the read or write that is requested. -/
def RequestWeathers (c : Session) (d : Delivery) : Prop :=
  match d.request with
  | .input n => ∃ r, c.reply lib d.toStep = .moved r ∧
      Weathers (d.transport.InterruptsInput c.st.flags d.answers.handshakes n) (-1) c.st.flags r
        (c.next lib d.toStep).st.flags
  | .output n => ∃ r, c.reply lib d.toStep = .moved r ∧
      Weathers (d.transport.InterruptsOutput c.st.flags d.answers.handshakes n) (-1) c.st.flags r
        (c.next lib d.toStep).st.flags
  | _ => True

theorem connectWeathers (c : Session) (d : Delivery) : c.ConnectWeathers lib d := by
  intro permanent
  obtain ⟨w', hrun, hflags, -⟩ := run_tlsWaitForConnect lib permanent (c.conn d.answers)
  refine ⟨_, w', hrun, ?_⟩
  rw [hflags]
  exact connectOutcome_weathers d.carries permanent c.st.flags

/-- **One request**: only the flush that a write of no bytes stands for fails to. -/
theorem requestWeathers_iff (c : Session) (d : Delivery) :
    c.RequestWeathers lib d ↔
      (d.request = .output 0 → ¬ d.transport.InterruptsFlush c.st.flags d.answers.handshakes) := by
  obtain ⟨⟨request, answers⟩, transport, carries⟩ := d
  cases request with
  | input n =>
      have hinput := inputOutcome_weathers lib carries c.st.flags n
      rw [← next_input_flags lib c n answers] at hinput
      refine iff_of_true ⟨_, reply_input lib c n answers, hinput⟩ fun h => ?_
      cases h
  | output n =>
      obtain ⟨flush, hflush, hreply, hflags⟩ := reply_output lib c n answers
      have hrequest : c.RequestWeathers lib ⟨⟨.output n, answers⟩, transport, carries⟩ ↔
          Weathers (transport.InterruptsOutput c.st.flags answers.handshakes n) (-1) c.st.flags
            (outputOutcome c.st.flags answers.handshakes (answers.writes 0 n) flush).result
            (outputOutcome c.st.flags answers.handshakes (answers.writes 0 n) flush).flags := by
        rw [← hflags]
        constructor
        · rintro ⟨r, hr, hweathers⟩
          cases hreply.symm.trans hr
          exact hweathers
        · intro hweathers
          exact ⟨_, hreply, hweathers⟩
      rw [hrequest]
      by_cases hn : n = 0
      · subst hn
        rw [outputOutcome_zero_weathers_iff carries c.st.flags hflush]
        exact ⟨fun h _ => h, fun h => h rfl⟩
      · refine iff_of_true (outputOutcome_weathers carries c.st.flags hn flush) fun h => ?_
        cases h
        exact absurd rfl hn
  | _ => simp [RequestWeathers]

end Session

/-- **Transient conditions**, in every run: each call of `TlsInputProc`,
`TlsOutputProc` and `Tls_WaitForConnect` weathers them exactly when none of them
interrupts the flush of a write of no bytes. -/
theorem transients_weathered_iff (c : Session) (run : List Delivery) :
    (∀ before d later, run = before ++ d :: later →
        (c.after lib (before.map Delivery.toStep)).ConnectWeathers lib d ∧
          (c.after lib (before.map Delivery.toStep)).RequestWeathers lib d) ↔
      ∀ before d later, run = before ++ d :: later → d.request = .output 0 →
        ¬ d.transport.InterruptsFlush (c.after lib (before.map Delivery.toStep)).st.flags
          d.answers.handshakes := by
  constructor
  · intro h before d later hrun
    exact (Session.requestWeathers_iff lib _ d).mp (h before d later hrun).2
  · intro h before d later hrun
    exact ⟨Session.connectWeathers lib _ d,
      (Session.requestWeathers_iff lib _ d).mpr (h before d later hrun)⟩

/-! ## A flush that has to be repeated -/

/-- The library makes no calls, and what it answers is of no interest. -/
theorem BioOperation.reports_idle (a : Answer) : BioOperation.Reports {} a where
  retried h := absurd h (by decide)
  failed h := absurd h (by decide)
  settled h := absurd h (by decide)

/-- A write of no bytes, while the channel below is busy. -/
def busyFlush : Delivery where
  request := .output 0
  answers := { Session.waiting with flushes := fun _ => -1 }
  transport :=
    { handshakes := fun _ => {}
      reads := fun _ _ => {}
      writes := fun _ _ => {}
      flushes := fun _ => { ret := -1, errno := Errno.eagain } }
  carries :=
    { handshakes := fun _ => BioOperation.reports_idle _
      reads := fun _ _ => BioOperation.reports_idle _
      writes := fun _ _ => BioOperation.reports_idle _
      flushes := fun _ => rfl }

/-- On an established connection it fails with `EIO`. -/
theorem busyFlush_not_weathered :
    ¬ ∀ before d later, [busyFlush] = before ++ d :: later →
      (Session.after .plain ⟨{}, {}⟩ (before.map Delivery.toStep)).ConnectWeathers .plain d ∧
        (Session.after .plain ⟨{}, {}⟩ (before.map Delivery.toStep)).RequestWeathers .plain d := by
  intro h
  obtain ⟨r, hr, hweathers⟩ := (h [] busyFlush [] rfl).2
  have hreply : Reply.moved (-1, Errno.eio) = .moved r := hr
  cases hreply
  have hinterrupts : busyFlush.transport.InterruptsOutput {} busyFlush.answers.handshakes 0 true :=
    ⟨rfl, rfl, .inr ⟨fun hinit => Bool.noConfusion hinit, rfl, rfl⟩⟩
  exact absurd (hweathers.repeated hinterrupts).1 (by decide)

end TclTls
