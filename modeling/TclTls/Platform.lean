import Mathlib.Algebra.Order.Ring.Int

/-!
# TclTls.Platform

What the extension is linked against: the constants, result types and pure
helper functions of Tcl, of the C library and of OpenSSL that its code names.

The SSL library's answer to one I/O attempt is an `Answer`.  It bundles
everything the drivers look at after `SSL_accept`, `SSL_connect`, `BIO_read`
or `BIO_write`: the return value, the `SSL_get_error` code, the head of the
error queue, `errno` and the BIO's retry flag.  The one documented link
between these, `SSL_ERROR_NONE` exactly for a positive return value, is a
field, so an answer that breaks it cannot be built.
-/

namespace TclTls

/-! ## POSIX error codes -/

abbrev Errno := Int

namespace Errno

def eio : Errno := 5
def eagain : Errno := 11
def einval : Errno := 22
def econnaborted : Errno := 103
def econnreset : Errno := 104

end Errno

/-! ## Tcl results -/

/-- Completion code of a script that ended normally. -/
def tclOk : Int := 0

/-- How a script ended: completion code and interpreter result. -/
structure EvalOutcome where
  code : Int
  result : String
deriving DecidableEq, Repr

/-- A callback command: the script the user registered, with the words the
extension appends to it. -/
structure Command where
  script : String
  args : List String
deriving DecidableEq, Repr

/-- Message and `errorCode` of a command that returned `TCL_ERROR`. -/
structure TclError where
  message : String
  code : List String := ["NONE"]
deriving DecidableEq, Repr, Inhabited

/-- `Tcl_GetChannel` knows no channel of that name. -/
def TclError.noChannel (name : String) : TclError :=
  ⟨"can not find channel named \"" ++ name ++ "\"", ["TCL", "LOOKUP", "CHANNEL", name]⟩

/-- The channel that the `tls` command got is not a TLS one. -/
def TclError.notTls (command name : String) : TclError :=
  ⟨"bad channel \"" ++ name ++ "\": not a TLS channel", ["TLS", command, "CHANNEL", "INVALID"]⟩

/-- `Tcl_WrongNumArgs` -/
def TclError.wrongArgs (usage : String) : TclError :=
  ⟨"wrong # args: should be \"" ++ usage ++ "\"", ["TCL", "WRONGARGS"]⟩

/-! ## Answers of the SSL library -/

/-- `SSL_get_error` codes; `other` is any code this release does not name. -/
inductive SslError where
  | none
  | ssl
  | wantRead
  | wantWrite
  | wantX509Lookup
  | syscall
  | zeroReturn
  | wantConnect
  | wantAccept
  | wantAsync
  | wantAsyncJob
  | wantClientHelloCb
  | wantRetryVerify
  | other (n : Int)
deriving DecidableEq, Repr

/-- `X509_V_OK`. -/
def x509Ok : Int := 0

/-- `SSL_R_UNEXPECTED_EOF_WHILE_READING`. -/
def reasonUnexpectedEof : Nat := 294

/-- One attempt of the library: `ret` is what the call returned, `code` what
`SSL_get_error` made of it, `err` the first entry of the error queue (0 when
empty), and `errno` and `retry` what `Tcl_GetErrno` and `BIO_should_retry`
report right after. -/
structure Answer where
  ret : Int
  code : SslError
  err : Nat
  errno : Errno
  retry : Bool
  none_iff : code = .none ↔ 0 < ret

/-- An attempt to move `size` bytes: the library never reports more. -/
structure Transfer (size : Int) extends Answer where
  bounded : ret ≤ max size 0

/-- `SSL_ERROR_WANT_READ` with the BIO's retry flag up. -/
def Answer.wantRead : Answer := ⟨-1, .wantRead, 0, Errno.eagain, true, by decide⟩

theorem Answer.wantRead_ret : wantRead.ret ≤ 0 := by decide

/-- An attempt that moved nothing, whatever its size. -/
def Answer.toTransfer (a : Answer) (h : a.ret ≤ 0) (n : Int) : Transfer n :=
  { a with bounded := by omega }

/-! ## Pure library functions -/

/-- The pure functions of Tcl and OpenSSL that the code calls, and the one
compile-time switch it tests.

The last three fields are what the Tcl manual says about reading integers and
booleans: an integer is a boolean, false exactly at 0, and the empty string is
neither. -/
structure Platform where
  /-- `OPENSSL_VERSION_NUMBER >= 0x30000000L` -/
  openssl3 : Bool
  /-- `ERR_GET_REASON` -/
  getReason : Nat → Nat
  /-- `ERR_reason_error_string`, `NULL` for an unknown code -/
  reasonString : Nat → Option String
  /-- `X509_verify_cert_error_string` -/
  verifyErrorString : Int → String
  /-- `Tcl_ErrnoMsg` -/
  errnoMsg : Errno → String
  /-- `Tcl_PosixError` -/
  posixError : Errno → String
  /-- `Tcl_GetIntFromObj` -/
  getInt : String → Option Int
  /-- `Tcl_GetBooleanFromObj` -/
  getBoolean : String → Option Bool
  getBoolean_of_getInt : ∀ s n, getInt s = some n → getBoolean s = some (decide (n ≠ 0))
  getInt_empty : getInt "" = none
  getBoolean_empty : getBoolean "" = none

namespace Platform

/-- Value of a run of decimal digits. -/
def digits : Nat → List Char → Option Nat
  | n, [] => some n
  | n, d :: ds => if d.isDigit then digits (10 * n + (d.toNat - '0'.toNat)) ds else none

/-- Signed decimal numeral in the range of a C `int`. -/
def decimal (s : String) : Option Int :=
  let value := match s.toList with
    | [] => none
    | ['-'] => none
    | '-' :: ds => (digits 0 ds).map fun n => -(n : Int)
    | ds => (digits 0 ds).map fun n => (n : Int)
  value.filter fun n => decide (-2 ^ 31 ≤ n ∧ n < 2 ^ 31)

/-- Tcl's boolean words, spelled out in full. -/
def booleanWord : String → Option Bool
  | "true" | "yes" | "on" => some true
  | "false" | "no" | "off" => some false
  | _ => none

/-- `Tcl_ErrnoMsg` on the codes named above. -/
def posixMessage (e : Errno) : String :=
  if e = Errno.eio then "I/O error"
  else if e = Errno.eagain then "resource temporarily unavailable"
  else if e = Errno.einval then "invalid argument"
  else if e = Errno.econnaborted then "software caused connection abort"
  else if e = Errno.econnreset then "connection reset by peer"
  else "unknown POSIX error"

/-- A platform with decimal integers and the boolean words, and without texts
for OpenSSL's own error codes. -/
def plain : Platform where
  openssl3 := true
  getReason e := e % 2 ^ 23
  reasonString _ := none
  verifyErrorString _ := "unspecified certificate verification error"
  errnoMsg := posixMessage
  posixError := posixMessage
  getInt := decimal
  getBoolean s := match decimal s with
    | some n => some (decide (n ≠ 0))
    | none => booleanWord s
  getBoolean_of_getInt s n h := by simp [h]
  getInt_empty := by decide
  getBoolean_empty := by decide

end Platform

end TclTls
