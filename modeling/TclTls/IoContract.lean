import TclTls.Session

/-!
# TclTls.IoContract

What the generic layer may rely on when it reads or writes.

A read gives some bytes, or an error code, or nothing without an error code,
and then it is the end of file and stays so.  A write gives the number of bytes
the library took, or an error code; it never gives 0.  The driver keeps neither
law for every answer of the library.  `reads_lawful_iff` and
`writes_lawful_iff` say for which answers it does, in every run.
-/

namespace TclTls

open Interaction

variable (lib : Platform)

/-! ## The handshake before a transfer -/

/-- The attempt failed in the system, which set no error code. -/
def Answer.Silent (a : Answer) : Prop :=
  a.code = .syscall ∧ ¬(a.err = 0 ∧ a.ret = 0) ∧ a.errno = 0

/-- What a transfer comes to after the decisive attempt `a`. -/
def Answer.proceed (a : Answer) (f : Flags) (io : Flags → IoOutcome) : IoOutcome :=
  match a.code with
  | .none => io { f with init := false }
  | .ssl => ⟨(-1, Errno.econnaborted), { f with fatalError := true, eof := true }, []⟩
  | .syscall =>
      if a.err = 0 ∧ a.ret = 0 then ⟨(0, 0), { f with eof := true }, []⟩
      else ⟨(-1, a.sysErrno), { f with fatalError := true, eof := true }, []⟩
  | .zeroReturn => ⟨(0, 0), { f with eof := true }, []⟩
  | _ => ⟨(-1, Errno.eagain), f, []⟩

theorem Answer.sysErrno_ne_econnreset (a : Answer) : a.sysErrno ≠ Errno.econnreset := by
  unfold sysErrno
  split
  · decide
  · assumption

theorem Answer.sysErrno_eq_zero_iff (a : Answer) : a.sysErrno = 0 ↔ a.errno = 0 := by
  unfold sysErrno
  split
  next hreset => simp [hreset, Errno.econnaborted, Errno.econnreset]
  next => rfl

theorem withConnectionOutcome_eq (permanent : Bool) {f : Flags} (hfatal : f.fatalError = false)
    (as : Supply Answer) (io : Flags → IoOutcome) :
    withConnectionOutcome permanent f as io =
      if f.init then
        match loopOutcome f.async 10 as with
        | none => ⟨(-1, Errno.eagain), f, []⟩
        | some d => d.proceed f io
      else io f := by
  unfold withConnectionOutcome
  cases hinit : f.init with
  | false =>
      rw [connectOutcome_of_established hinit]
      simp
  | true =>
      cases hloop : loopOutcome f.async 10 as with
      | none =>
          rw [connectOutcome_of_waiting hinit hfatal hloop]
          simp
      | some d =>
          rw [connectOutcome_of_decided hinit hfatal hloop]
          cases hcode : d.code with
          | syscall =>
              have hreset := d.sysErrno_ne_econnreset
              by_cases heof : d.err = 0 ∧ d.ret = 0 <;>
                simp [Answer.proceed, Answer.verdict, Answer.settle, hcode, heof, hreset]
          | ssl => simp [Answer.proceed, Answer.verdict, Answer.settle, hcode, Errno.econnaborted,
              Errno.econnreset]
          | _ => simp [Answer.proceed, Answer.verdict, Answer.settle, hcode]

/-! ## Reading -/

/-- `BIO_read` ended with a code the switch gives a law-abiding result. -/
def Answer.ReadsClean (a : Answer) : Prop :=
  (match a.code with
    | .none | .ssl | .wantRead | .wantWrite | .wantX509Lookup | .syscall | .zeroReturn => True
    | _ => False) ∧ ¬ a.Silent

/-- The flags and answers for which a read keeps the law: reading is over, or
the handshake has to go on later or fails with an error code, or it is
established and `BIO_read` ends clean. -/
def ReadSettled (f : Flags) (as : Supply Answer) (a : Answer) : Prop :=
  f.fatalError = true ∨ f.eof = true ∨
    if f.init then
      match loopOutcome f.async 10 as with
      | none => True
      | some d => ¬ d.Silent ∧ (d.code = .none → a.ReadsClean)
    else a.ReadsClean

/-- One read of at most `n` bytes, as it shows in the result and the flags. -/
def IoOutcome.ReadLaw (o : IoOutcome) (n : Int) : Prop :=
  (1 ≤ o.result.1 ∧ o.result.1 ≤ n ∧ o.result.2 = 0) ∨ (o.result.1 = -1 ∧ o.result.2 ≠ 0) ∨
    (o.result = (0, 0) ∧ (o.flags.fatalError = true ∨ o.flags.eof = true))

theorem readLaw_bioRead_iff {n : Int} (hn : 0 < n) (a : Transfer n) {f : Flags}
    (hfatal : f.fatalError = false) (heof : f.eof = false) (moved : List Event) :
    IoOutcome.ReadLaw ⟨a.inputResult lib, a.inputSettle lib f, moved⟩ n ↔ a.ReadsClean := by
  unfold Answer.inputResult Answer.inputSettle Answer.ReadsClean Answer.Silent
  cases hcode : a.code with
  | none =>
      have hret : 0 < a.ret := a.none_iff.mp hcode
      have hmax := a.bounded
      have hbounds : 1 ≤ a.ret ∧ a.ret ≤ n := by omega
      simp [IoOutcome.ReadLaw, hbounds]
  | ssl =>
      cases a.unexpectedEof lib <;> simp [IoOutcome.ReadLaw, Errno.econnaborted]
  | syscall =>
      by_cases hend : a.err = 0 ∧ a.ret = 0
      · simp [IoOutcome.ReadLaw, Answer.ioResult, Answer.ioSettle, hcode, hend]
      · simp [IoOutcome.ReadLaw, Answer.ioResult, Answer.ioSettle, hcode, hend]
  | _ => simp [IoOutcome.ReadLaw, Answer.ioResult, Answer.ioSettle, hcode, hfatal, heof, Errno.eagain]

theorem readLaw_proceed_iff {n : Int} (hn : 0 < n) (a : Transfer n) {f : Flags}
    (hfatal : f.fatalError = false) (heof : f.eof = false) (d : Answer) :
    IoOutcome.ReadLaw (d.proceed f fun f' =>
        ⟨a.inputResult lib, a.inputSettle lib f', [⟨.bioRead n, a⟩]⟩) n ↔
      ¬ d.Silent ∧ (d.code = .none → a.ReadsClean) := by
  unfold Answer.proceed Answer.Silent
  cases hcode : d.code with
  | none =>
      have hread := readLaw_bioRead_iff lib hn a (f := { f with init := false }) hfatal heof
        [⟨.bioRead n, a⟩]
      simpa using hread
  | syscall =>
      by_cases hend : d.err = 0 ∧ d.ret = 0
      · simp [IoOutcome.ReadLaw, hend]
      · simp [IoOutcome.ReadLaw, hend, d.sysErrno_eq_zero_iff]
  | _ => simp [IoOutcome.ReadLaw, Errno.eagain, Errno.econnaborted]

theorem readLaw_inputOutcome_iff {n : Int} (hn : 0 < n) (a : Transfer n) {f : Flags}
    (hcallback : f.callback = false) (as : Supply Answer) :
    IoOutcome.ReadLaw (inputOutcome lib f as a) n ↔ ReadSettled f as a.toAnswer := by
  cases hfatal : f.fatalError with
  | true => simp [inputOutcome, Flags.readsNothing, IoOutcome.ReadLaw, ReadSettled, hfatal]
  | false =>
      cases heof : f.eof with
      | true => simp [inputOutcome, Flags.readsNothing, IoOutcome.ReadLaw, ReadSettled, heof]
      | false =>
          have hopen : f.readsNothing = false := by
            simp [Flags.readsNothing, hcallback, hfatal, heof]
          rw [inputOutcome, hopen, if_neg Bool.false_ne_true,
            withConnectionOutcome_eq false hfatal]
          simp only [ReadSettled, hfatal, heof, Bool.false_eq_true, false_or]
          cases hinit : f.init with
          | false => exact readLaw_bioRead_iff lib hn a hfatal heof _
          | true =>
              cases hloop : loopOutcome f.async 10 as with
              | none => simp [IoOutcome.ReadLaw, Errno.eagain]
              | some d => exact readLaw_proceed_iff lib hn a hfatal heof d

/-! ## Reads in a session -/

namespace Session

theorem reply_input (c : Session) (n : Int) (answers : Answers) :
    c.reply lib ⟨.input n, answers⟩ =
      .moved (inputOutcome lib c.st.flags answers.handshakes (answers.reads 0 n)).result := by
  obtain ⟨w', hrun, -⟩ := tlsInputProc_endsAs lib n (c.conn answers)
  simp only [reply, serve, Request.proc, Program.run_bind_pure, hrun]
  rfl

theorem next_input_flags (c : Session) (n : Int) (answers : Answers) :
    (c.next lib ⟨.input n, answers⟩).st.flags =
      (inputOutcome lib c.st.flags answers.handshakes (answers.reads 0 n)).flags := by
  obtain ⟨w', hrun, hflags, -⟩ := tlsInputProc_endsAs lib n (c.conn answers)
  simp only [next, serve, Request.proc, Program.run_bind_pure, hrun]
  exact hflags

/-- Every later read is at the end of file. -/
def AtEof (c : Session) : Prop :=
  ∀ (later : List Step) (n : Int) (answers : Answers),
    (c.after lib later).reply lib ⟨.input n, answers⟩ = .moved (0, 0)

/-- A library that has nothing to say. -/
def waiting : Answers :=
  .steady .wantRead (Answer.wantRead.toTransfer Answer.wantRead_ret)
    (Answer.wantRead.toTransfer Answer.wantRead_ret) ⟨tclOk, ""⟩

theorem decisive_const (a : Answer) (retries : Nat) : decisive retries (fun _ => a) = a := by
  induction retries with
  | zero => rfl
  | succ retries ih =>
      by_cases hagain : a.again
      · simp only [decisive, hagain, if_true]
        exact ih
      · simp [decisive, hagain]

/-- An open connection with nothing to read makes the reader wait. -/
theorem reply_waiting {c : Session} (hopen : c.st.flags.readsNothing = false) (n : Int) :
    c.reply lib ⟨.input n, waiting⟩ = .moved (-1, Errno.eagain) := by
  have hfatal : c.st.flags.fatalError = false := by
    simp only [Flags.readsNothing, Bool.or_eq_false_iff] at hopen
    exact hopen.1.2
  rw [reply_input, inputOutcome, hopen, if_neg Bool.false_ne_true,
    withConnectionOutcome_eq false hfatal]
  have hdecisive : decisive 10 waiting.handshakes = Answer.wantRead := decisive_const _ 10
  have hagain : (waiting.handshakes 0).again = true := rfl
  cases hinit : c.st.flags.init <;> cases hasync : c.st.flags.async <;>
    simp [loopOutcome, hagain, hdecisive]
  all_goals rfl

theorem atEof_iff {c : Session} (hcallback : c.st.flags.callback = false) :
    c.AtEof lib ↔ c.st.flags.fatalError = true ∨ c.st.flags.eof = true := by
  constructor
  · intro heof
    cases hopen : c.st.flags.readsNothing with
    | true => simpa [Flags.readsNothing, hcallback] using hopen
    | false =>
        have hnothing := heof [] 1 waiting
        rw [after_nil, reply_waiting lib hopen] at hnothing
        simp at hnothing
  · intro hover later n answers
    have hlater := c.after_later lib later
    have hnothing : (c.after lib later).st.flags.readsNothing = true := by
      rcases hover with h | h
      · simp [Flags.readsNothing, hlater.fatalError h]
      · simp [Flags.readsNothing, hlater.eof h]
    rw [reply_input, inputOutcome, if_pos hnothing]

/-- The law of one read: some bytes, or an error code, or the end of file for good. -/
def ReadLawful (c : Session) (n : Int) (answers : Answers) : Prop :=
  ∃ r, c.reply lib ⟨.input n, answers⟩ = .moved r ∧
    ((1 ≤ r.1 ∧ r.1 ≤ n ∧ r.2 = 0) ∨ (r.1 = -1 ∧ r.2 ≠ 0) ∨
      (r = (0, 0) ∧ (c.next lib ⟨.input n, answers⟩).AtEof lib))

theorem readLawful_iff {c : Session} (hcallback : c.st.flags.callback = false) {n : Int}
    (hn : 0 < n) (answers : Answers) :
    c.ReadLawful lib n answers ↔
      ReadSettled c.st.flags answers.handshakes (answers.reads 0 n).toAnswer := by
  have hnext : (c.next lib ⟨.input n, answers⟩).st.flags.callback = false :=
    (c.next_later lib ⟨.input n, answers⟩).callback.trans hcallback
  rw [← readLaw_inputOutcome_iff lib hn _ hcallback, ReadLawful, atEof_iff lib hnext,
    reply_input, next_input_flags]
  simp [IoOutcome.ReadLaw]

end Session

/-- **Reads are lawful** in a run of an imported channel exactly when each of
them is settled. -/
theorem reads_lawful_iff (c : Session) (hc : c.st.flags.Imported) (run : List Step) :
    (∀ before n answers later, run = before ++ ⟨.input n, answers⟩ :: later → 0 < n →
        (c.after lib before).ReadLawful lib n answers) ↔
      ∀ before n answers later, run = before ++ ⟨.input n, answers⟩ :: later → 0 < n →
        ReadSettled (c.after lib before).st.flags answers.handshakes
          (answers.reads 0 n).toAnswer := by
  have hread : ∀ before n answers, 0 < n →
      ((c.after lib before).ReadLawful lib n answers ↔
        ReadSettled (c.after lib before).st.flags answers.handshakes
          (answers.reads 0 n).toAnswer) := by
    intro before n answers hn
    exact Session.readLawful_iff lib
      ((c.after_later lib before).callback.trans hc.callback) hn answers
  constructor
  · intro h before n answers later hrun hn
    exact (hread before n answers hn).mp (h before n answers later hrun hn)
  · intro h before n answers later hrun hn
    exact (hread before n answers hn).mpr (h before n answers later hrun hn)

/-- The handshake succeeds at once, and `BIO_read` ends with `a`. -/
def readAnswers (a : Answer) (h : a.ret ≤ 0) : Answers :=
  .steady ⟨1, .none, 0, 0, false, by decide⟩ (a.toTransfer h)
    (Answer.wantRead.toTransfer Answer.wantRead_ret) ⟨tclOk, ""⟩

theorem reads_lawful_waiting :
    (∀ before n answers later, [⟨.input 4096, readAnswers .wantRead Answer.wantRead_ret⟩] =
        before ++ ⟨.input n, answers⟩ :: later → 0 < n →
        (freshClient.after .plain before).ReadLawful .plain n answers) ↔
      ∀ before n answers later, [⟨.input 4096, readAnswers .wantRead Answer.wantRead_ret⟩] =
        before ++ ⟨.input n, answers⟩ :: later → 0 < n →
        ReadSettled (freshClient.after .plain before).st.flags answers.handshakes
          (answers.reads 0 n).toAnswer :=
  reads_lawful_iff .plain freshClient ⟨rfl, rfl, rfl, rfl, rfl⟩ _

/-- An asynchronous engine makes the first read return 0 with `EAGAIN`.  An
unknown code makes it return 0 without an error code, and the next read has to
wait all the same. -/
theorem reads_not_lawful :
    ¬ freshClient.ReadLawful .plain 4096
        (readAnswers ⟨-1, .wantAsync, 0, 0, false, by decide⟩ (by decide)) ∧
      ¬ freshClient.ReadLawful .plain 4096
        (readAnswers ⟨-1, .wantAsyncJob, 0, 0, false, by decide⟩ (by decide)) := by
  constructor
  · rintro ⟨r, hr, h⟩
    have hreply : Reply.moved (0, Errno.eagain) = .moved r := hr
    cases hreply
    simp [Errno.eagain] at h
  · rintro ⟨r, hr, h⟩
    have hreply : Reply.moved (0, 0) = .moved r := hr
    cases hreply
    have heof := (h.resolve_left (by decide)).resolve_left (by decide)
    have hnext : Reply.moved (-1, Errno.eagain) = .moved (0, 0) := heof.2 [] 1 Session.waiting
    simp at hnext

/-! ## Writing -/

/-- The bytes `BIO_write` took, as the log has it. -/
def accepted : List Event → Int
  | [] => 0
  | ⟨.bioWrite _, a⟩ :: log => max a.ret 0 + accepted log
  | _ :: log => accepted log

/-- `BIO_write` ended with a code the switch gives a law-abiding result. -/
def Answer.WritesClean (a : Answer) : Prop :=
  (match a.code with
    | .none | .ssl | .wantRead | .wantWrite | .wantX509Lookup => True
    | .syscall => ¬(a.err = 0 ∧ a.ret = 0)
    | _ => False) ∧ ¬ a.Silent

/-- The handshake attempt shows the end of the connection, which counts as a
write of no bytes. -/
def Answer.SoftEof (a : Answer) : Prop :=
  a.code = .zeroReturn ∨ (a.code = .syscall ∧ a.err = 0 ∧ a.ret = 0)

/-- The flags and answers for which a write keeps the law: the connection has
failed, or the handshake has to go on later or fails with an error code, or it
is established and `BIO_write` ends clean. -/
def WriteSettled (f : Flags) (as : Supply Answer) (a : Answer) : Prop :=
  f.fatalError = true ∨
    if f.init then
      match loopOutcome f.async 10 as with
      | none => True
      | some d => ¬ d.SoftEof ∧ ¬ d.Silent ∧ (d.code = .none → a.WritesClean)
    else a.WritesClean

/-- One write of `n` bytes, as it shows in the result and the data moved. -/
def IoOutcome.WriteLaw (o : IoOutcome) (n : Int) : Prop :=
  (1 ≤ o.result.1 ∧ o.result.1 ≤ n ∧ o.result.2 = 0 ∧ accepted o.moved = o.result.1) ∨
    (o.result.1 = -1 ∧ o.result.2 ≠ 0 ∧ accepted o.moved = 0)

theorem writeLaw_bioWrite_iff {n : Int} (hn : 0 < n) (a : Transfer n) (f : Flags) :
    IoOutcome.WriteLaw ⟨a.outputResult, f, [⟨.bioWrite n, a⟩]⟩ n ↔ a.WritesClean := by
  have hbound := a.bounded
  have hnone := a.none_iff
  unfold Answer.outputResult Answer.WritesClean Answer.Silent
  cases hcode : a.code with
  | none =>
      have hret : 0 < a.ret := a.none_iff.mp hcode
      have hbounds : 1 ≤ a.ret ∧ a.ret ≤ n ∧ max a.ret 0 = a.ret := by omega
      simp [IoOutcome.WriteLaw, accepted, hbounds]
  | syscall =>
      have htook : max a.ret 0 = 0 := by simp [hcode] at hnone; omega
      by_cases hend : a.err = 0 ∧ a.ret = 0
      · simp [IoOutcome.WriteLaw, Answer.ioResult, hcode, hend]
      · simp [IoOutcome.WriteLaw, Answer.ioResult, accepted, hcode, hend, htook]
  | _ =>
      have htook : max a.ret 0 = 0 := by simp [hcode] at hnone; omega
      simp [IoOutcome.WriteLaw, Answer.ioResult, accepted, hcode, htook, Errno.eagain,
        Errno.econnaborted]

theorem writeLaw_proceed_iff {n : Int} (hn : 0 < n) (a : Transfer n) (f : Flags) (d : Answer) :
    IoOutcome.WriteLaw (d.proceed f fun f' =>
        ⟨a.outputResult, a.outputSettle f', [⟨.bioWrite n, a⟩]⟩) n ↔
      ¬ d.SoftEof ∧ ¬ d.Silent ∧ (d.code = .none → a.WritesClean) := by
  unfold Answer.proceed Answer.SoftEof Answer.Silent
  cases hcode : d.code with
  | none => simpa using writeLaw_bioWrite_iff hn a (a.outputSettle { f with init := false })
  | syscall =>
      by_cases hend : d.err = 0 ∧ d.ret = 0
      · simp [IoOutcome.WriteLaw, hend]
      · simp [IoOutcome.WriteLaw, accepted, hend, d.sysErrno_eq_zero_iff]
  | _ => simp [IoOutcome.WriteLaw, accepted, Errno.eagain, Errno.econnaborted]

theorem writeLaw_outputOutcome_iff {n : Int} (hn : 0 < n) (a : Transfer n) {f : Flags}
    (hcallback : f.callback = false) (as : Supply Answer) (flushed : Int) :
    IoOutcome.WriteLaw (outputOutcome f as a flushed) n ↔ WriteSettled f as a.toAnswer := by
  have hwrite : n ≠ 0 := by omega
  cases hfatal : f.fatalError with
  | true => simp [outputOutcome, IoOutcome.WriteLaw, WriteSettled, accepted, hcallback, hfatal,
      Errno.econnaborted]
  | false =>
      simp only [outputOutcome, hcallback, hfatal, Bool.false_eq_true, if_false, hwrite,
        withConnectionOutcome_eq true hfatal, WriteSettled, false_or]
      cases hinit : f.init with
      | false => exact writeLaw_bioWrite_iff hn a _
      | true =>
          cases hloop : loopOutcome f.async 10 as with
          | none => simp [IoOutcome.WriteLaw, accepted, Errno.eagain]
          | some d => exact writeLaw_proceed_iff hn a f d

/-! ## Writes in a session -/

namespace Session

/-- What `BIO_write` took while the request was served. -/
def acceptedBy (c : Session) (step : Step) : Int := accepted (c.serve lib step).2.env.dataLog

/-- The law of one write: the number of bytes the library took, or an error
code and nothing taken. -/
def WriteLawful (c : Session) (n : Int) (answers : Answers) : Prop :=
  ∃ r, c.reply lib ⟨.output n, answers⟩ = .moved r ∧
    ((1 ≤ r.1 ∧ r.1 ≤ n ∧ r.2 = 0 ∧ c.acceptedBy lib ⟨.output n, answers⟩ = r.1) ∨
      (r.1 = -1 ∧ r.2 ≠ 0 ∧ c.acceptedBy lib ⟨.output n, answers⟩ = 0))

theorem writeLawful_iff {c : Session} (hcallback : c.st.flags.callback = false) {n : Int}
    (hn : 0 < n) (answers : Answers) :
    c.WriteLawful lib n answers ↔
      WriteSettled c.st.flags answers.handshakes (answers.writes 0 n).toAnswer := by
  obtain ⟨w', hrun, -, hmoved⟩ := tlsOutputProc_endsAs lib n (c.conn answers)
  have hlog : (c.conn answers).env.dataLog = [] := rfl
  rw [hlog, List.nil_append] at hmoved
  rw [← writeLaw_outputOutcome_iff hn _ hcallback _
    ((established lib true (c.conn answers)).env.answers.flushes 0), WriteLawful]
  simp only [acceptedBy, reply, serve, Request.proc, Program.run_bind_pure, hrun, hmoved]
  simp [IoOutcome.WriteLaw, conn]

end Session

/-- **Writes are lawful** in a run of an imported channel exactly when each of
them is settled. -/
theorem writes_lawful_iff (c : Session) (hc : c.st.flags.Imported) (run : List Step) :
    (∀ before n answers later, run = before ++ ⟨.output n, answers⟩ :: later → 0 < n →
        (c.after lib before).WriteLawful lib n answers) ↔
      ∀ before n answers later, run = before ++ ⟨.output n, answers⟩ :: later → 0 < n →
        WriteSettled (c.after lib before).st.flags answers.handshakes
          (answers.writes 0 n).toAnswer := by
  have hwrite : ∀ before n answers, 0 < n →
      ((c.after lib before).WriteLawful lib n answers ↔
        WriteSettled (c.after lib before).st.flags answers.handshakes
          (answers.writes 0 n).toAnswer) := by
    intro before n answers hn
    exact Session.writeLawful_iff lib
      ((c.after_later lib before).callback.trans hc.callback) hn answers
  constructor
  · intro h before n answers later hrun hn
    exact (hwrite before n answers hn).mp (h before n answers later hrun hn)
  · intro h before n answers later hrun hn
    exact (hwrite before n answers hn).mpr (h before n answers later hrun hn)

/-- The handshake succeeds at once, and `BIO_write` ends with `a`. -/
def writeAnswers (a : Answer) (h : a.ret ≤ 0) : Answers :=
  .steady ⟨1, .none, 0, 0, false, by decide⟩ (Answer.wantRead.toTransfer Answer.wantRead_ret)
    (a.toTransfer h) ⟨tclOk, ""⟩

theorem writes_lawful_waiting :
    (∀ before n answers later, [⟨.output 5, writeAnswers .wantRead Answer.wantRead_ret⟩] =
        before ++ ⟨.output n, answers⟩ :: later → 0 < n →
        (freshClient.after .plain before).WriteLawful .plain n answers) ↔
      ∀ before n answers later, [⟨.output 5, writeAnswers .wantRead Answer.wantRead_ret⟩] =
        before ++ ⟨.output n, answers⟩ :: later → 0 < n →
        WriteSettled (freshClient.after .plain before).st.flags answers.handshakes
          (answers.writes 0 n).toAnswer :=
  writes_lawful_iff .plain freshClient ⟨rfl, rfl, rfl, rfl, rfl⟩ _

/-- With an asynchronous engine a write returns 0 with `EAGAIN`, with an unknown
code it returns 0 without an error code. -/
theorem writes_not_lawful :
    ¬ freshClient.WriteLawful .plain 5
        (writeAnswers ⟨-1, .wantAsync, 0, 0, false, by decide⟩ (by decide)) ∧
      ¬ freshClient.WriteLawful .plain 5
        (writeAnswers ⟨-1, .wantAsyncJob, 0, 0, false, by decide⟩ (by decide)) := by
  constructor
  · rintro ⟨r, hr, h⟩
    have hreply : Reply.moved (0, Errno.eagain) = .moved r := hr
    cases hreply
    simp at h
  · rintro ⟨r, hr, h⟩
    have hreply : Reply.moved (0, 0) = .moved r := hr
    cases hreply
    simp at h

end TclTls
