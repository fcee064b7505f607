import TclTls.Platform

/-!
# TclTls.Bio

The BIO between OpenSSL and the channel below.

OpenSSL moves encrypted data with `BioInput` and `BioOutput`, which pass the
request on to `Tcl_ReadRaw` and `Tcl_WriteRaw`.  Where these fail, the retry
flags of the BIO tell a condition that passes from an error.  A `BioOperation` of
the library makes any number of such calls, the last of which is the one it
fails with, and `BioOperation.Reports` is what OpenSSL documents about the way the
failure shows in `SSL_get_error`.
-/

namespace TclTls

namespace Errno

def eintr : Errno := 4
def eproto : Errno := 71
def ealready : Errno := 114
def einprogress : Errno := 115
def ewouldblock : Errno := eagain

end Errno

/-- `BIOShouldRetry` -/
def bioShouldRetry (code : Errno) : Bool :=
  code == Errno.ewouldblock || code == Errno.einprogress || code == Errno.ealready ||
    code == Errno.eagain || code == Errno.eproto || code == Errno.eintr

theorem bioShouldRetry_eagain : bioShouldRetry Errno.eagain = true := by decide

/-! ## The methods -/

/-- What `Tcl_ReadRaw` or `Tcl_WriteRaw` returns, and what `Tcl_Eof`,
`Tcl_InputBlocked` and `Tcl_GetErrno` report right after. -/
structure RawAnswer where
  ret : Int
  eof : Bool := false
  blocked : Bool := false
  errno : Errno := 0

/-- The flags of the BIO, and Tcl's `errno`. -/
structure Bio where
  retryRead : Bool := false
  retryWrite : Bool := false
  inEof : Bool := false
  errno : Errno := 0

namespace Bio

/-- `BIO_should_retry` -/
def shouldRetry (b : Bio) : Bool := b.retryRead || b.retryWrite

/-- After `BIO_clear_retry_flags`, and a call that left this `errno`. -/
def called (b : Bio) (errno : Errno) : Bio :=
  { b with retryRead := false, retryWrite := false, errno }

end Bio

/-- `BioOutput` -/
def bioOutput (b : Bio) (raw : RawAnswer) : Int × Bio :=
  let b := b.called raw.errno
  if 0 < raw.ret then (raw.ret, b)
  else if raw.ret = 0 then
    if raw.eof then (raw.ret, { b with errno := Errno.econnreset, inEof := true })
    else (raw.ret, { b with retryWrite := true, retryRead := true })
  else if bioShouldRetry raw.errno then (raw.ret, { b with retryWrite := true })
  else (raw.ret, b)

/-- `BioInput`, `null` being whether there is no buffer. -/
def bioInput (b : Bio) (null : Bool) (bufLen : Int) (raw : RawAnswer) : Int × Bio :=
  if null || decide (bufLen ≤ 0) then (0, b)
  else
    let b := b.called raw.errno
    if 0 < raw.ret then (raw.ret, b)
    else if raw.ret = 0 then
      if raw.eof then (raw.ret, { b with errno := Errno.econnreset, inEof := true })
      else if raw.blocked then (raw.ret, { b with retryRead := true })
      else (raw.ret, b)
    else if bioShouldRetry raw.errno then (raw.ret, { b with retryRead := true })
    else (raw.ret, b)

/-- `BioCtrl` for `BIO_CTRL_FLUSH`: a write of no bytes.  It leaves the flags of
the BIO alone. -/
def bioFlush (raw : RawAnswer) : Int := if 0 ≤ raw.ret then 1 else -1

/-! ## Failed calls -/

/-- The answer is -1, with an `errno` that is or is not one to retry for. -/
def RawAnswer.Fails (transient : Bool) (raw : RawAnswer) : Prop :=
  raw.ret = -1 ∧ bioShouldRetry raw.errno = transient

/-- A call of the library into the BIO, with the answer of the channel below. -/
inductive BioCall where
  | input (null : Bool) (bufLen : Int) (raw : RawAnswer)
  | output (raw : RawAnswer)

namespace BioCall

/-- What the call returns, and the BIO after it. -/
def run (b : Bio) : BioCall → Int × Bio
  | input null bufLen raw => bioInput b null bufLen raw
  | output raw => bioOutput b raw

/-- The channel below was asked and failed. -/
def Fails (transient : Bool) : BioCall → Prop
  | input null bufLen raw => null = false ∧ 0 < bufLen ∧ raw.Fails transient
  | output raw => raw.Fails transient

/-- The BIO after a failed call: the retry flags say what kind of failure. -/
structure Failed (transient : Bool) (r : Int × Bio) : Prop where
  ret : r.1 = -1
  retry : r.2.shouldRetry = transient
  errno : bioShouldRetry r.2.errno = transient

theorem Fails.failed {transient : Bool} {e : BioCall} (he : e.Fails transient) (b : Bio) :
    Failed transient (e.run b) := by
  cases e with
  | input null bufLen raw =>
      obtain ⟨rfl, hlen, hret, hcode⟩ := he
      have hasked : (false || decide (bufLen ≤ 0)) = false := by
        rw [Bool.false_or, decide_eq_false_iff_not]
        omega
      cases transient <;> constructor <;>
        simp [run, bioInput, hasked, hret, hcode, Bio.called, Bio.shouldRetry]
  | output raw =>
      obtain ⟨hret, hcode⟩ := he
      cases transient <;> constructor <;>
        simp [run, bioOutput, hret, hcode, Bio.called, Bio.shouldRetry]

end BioCall

/-! ## Operations -/

/-- A handshake attempt, a read or a write: the BIO that it finds, and the calls
it makes. -/
structure BioOperation where
  bio : Bio := {}
  calls : List BioCall := []

namespace BioOperation

/-- What the last call returned, and the BIO after it. -/
def last (o : BioOperation) : Int × Bio := o.calls.foldl (fun r e => e.run r.2) (1, o.bio)

/-- The operation ended with a failed call. -/
def Fails (transient : Bool) (o : BioOperation) : Prop :=
  ∃ e ∈ o.calls.getLast?, e.Fails transient

theorem Fails.last {transient : Bool} {o : BioOperation} (ho : o.Fails transient) :
    BioCall.Failed transient o.last := by
  obtain ⟨e, hlast, he⟩ := ho
  obtain ⟨before, hcalls⟩ := List.getLast?_eq_some_iff.mp hlast
  rw [BioOperation.last, hcalls, List.foldl_append]
  exact he.failed _

/-- What is documented of the library: if the call into the BIO has returned 0
or less, the code of the operation says so, and `errno` is the one that the call
has left. -/
structure Reports (o : BioOperation) (a : Answer) : Prop where
  retried : o.last.1 ≤ 0 → o.last.2.shouldRetry = true → a.code = .wantRead ∨ a.code = .wantWrite
  failed : o.last.1 ≤ 0 → o.last.2.shouldRetry = false → a.code = .syscall ∨ a.code = .ssl
  settled : o.last.1 ≤ 0 → o.last.2.shouldRetry = false →
    a.retry = false ∧ a.errno = o.last.2.errno

variable {o : BioOperation} {a : Answer}

/-- A condition that passes makes the library wait. -/
theorem Reports.wants (h : o.Reports a) (ho : o.Fails true) :
    a.code = .wantRead ∨ a.code = .wantWrite := by
  have hlast := ho.last
  have hret : o.last.1 ≤ 0 := by
    rw [hlast.ret]
    decide
  exact h.retried hret hlast.retry

/-- Any other is an error. -/
theorem Reports.fatal (h : o.Reports a) (ho : o.Fails false) :
    (a.code = .syscall ∨ a.code = .ssl) ∧ a.retry = false ∧ a.errno ≠ Errno.eagain := by
  have hlast := ho.last
  have hret : o.last.1 ≤ 0 := by
    rw [hlast.ret]
    decide
  obtain ⟨hretry, herrno⟩ := h.settled hret hlast.retry
  refine ⟨h.failed hret hlast.retry, hretry, fun hagain => ?_⟩
  have hcode := hlast.errno
  rw [← herrno, hagain, bioShouldRetry_eagain] at hcode
  contradiction

end BioOperation

end TclTls
