import TclTls.Interaction.Program
import TclTls.Platform

/-!
# TclTls.State

The per-connection `State` of `tlsInt.h`, the calls its driver procedures make
into Tcl and OpenSSL, and the two things that surround one procedure call: the
answers the library has in store for it, and Tcl's own bookkeeping of the
references to the `State` (`Tcl_Preserve`, `Tcl_EventuallyFree`, timers).

A driver procedure is a `Driver α`: a program over the `State` whose calls are
`Call`s.  `Env.respond` is the surroundings of a procedure that is not
re-entered: each call takes the next answer in store and is written to a log.
-/

namespace TclTls

open Interaction

/-! ## State -/

/-- `State.flags`, one field per `TLS_TCL_*` bit. -/
structure Flags where
  async : Bool := false
  server : Bool := false
  init : Bool := false
  debug : Bool := false
  callback : Bool := false
  fatalError : Bool := false
  fastpath : Bool := false
  eof : Bool := false
  closed : Bool := false
deriving DecidableEq, Repr

/-- The flags of a connection that `tls::import` has just made. -/
structure Flags.Imported (f : Flags) : Prop where
  init : f.init = true
  fatalError : f.fatalError = false
  eof : f.eof = false
  callback : f.callback = false
  closed : f.closed = false

/-- OR-ed combination of `TCL_READABLE`, `TCL_WRITABLE` and `TCL_EXCEPTION`. -/
structure Mask where
  readable : Bool := false
  writable : Bool := false
  exception : Bool := false
deriving DecidableEq, Repr

/-- The mask is not 0. -/
def Mask.any (m : Mask) : Bool := m.readable || m.writable || m.exception

/-- Bits of the verify mode (`SSL_VERIFY_*`). -/
def sslVerifyNone : Nat := 0
def sslVerifyPeer : Nat := 1
def sslVerifyFailIfNoPeerCert : Nat := 2
def sslVerifyClientOnce : Nat := 4
def sslVerifyPostHandshake : Nat := 8

/-- What `tls::import` configures on the `SSL` object of a connection. -/
structure Ssl where
  verifyMode : Nat := sslVerifyNone
  hostName : Option String := none
  verifyHost : Option String := none
  sessionId : Option String := none
  alpnProtos : Option (List UInt8) := none
  acceptState : Bool := false
deriving DecidableEq, Repr

/-- The per-instance state of an SSL channel.  `timer` and `bio` say whether the
token and the pointer are non-`NULL`; `err` is the last message given to
`Tls_Error`, `none` for a `NULL` one. -/
structure State where
  self : String := ""
  timer : Bool := false
  flags : Flags := {}
  watchMask : Mask := {}
  want : Mask := {}
  callback : Option String := none
  password : Option String := none
  vcmd : Option String := none
  vflags : Nat := sslVerifyNone
  ssl : Option Ssl := none
  ctx : Option Nat := none
  bio : Bool := false
  protos : Option (List UInt8) := none
  err : Option String := some ""
deriving DecidableEq, Repr

/-! ## Calls -/

/-- The calls of the driver code into OpenSSL and Tcl. -/
inductive Call where
  | sslAccept
  | sslConnect
  | bioRead (bufSize : Int)
  | bioWrite (toWrite : Int)
  | bioFlush
  | sslShutdown
  | getVerifyResult
  | bioPending
  | bioWpending
  | bioFree
  | sslFree
  | sslCtxFree
  | evalObj (cmd : Command)
  | backgroundException (code : Int)
  | objResult
  | sleep (ms : Nat)
  | preserve
  | release
  | eventuallyFree
  | free
  | createTimerHandler (ms : Nat)
  | deleteTimerHandler
  | notifyChannel (mask : Mask)
  | watchParent (mask : Mask)
  | inputBuffered
  | outputBuffered
deriving DecidableEq, Repr

/-- What each call returns.  `release` and `eventuallyFree` report whether Tcl
runs the free procedure on the spot. -/
@[reducible] def Call.Ans : Call → Type
  | .sslAccept | .sslConnect => Answer
  | .bioRead n | .bioWrite n => Transfer n
  | .bioFlush | .getVerifyResult => Int
  | .bioPending | .bioWpending | .inputBuffered | .outputBuffered => Nat
  | .evalObj _ => EvalOutcome
  | .objResult => String
  | .release | .eventuallyFree => Bool
  | _ => Unit

/-- The calls that drive the SSL state machine of the connection. -/
def Call.wire : Call → Bool
  | .sslAccept | .sslConnect | .bioRead _ | .bioWrite _ | .bioFlush | .sslShutdown => true
  | _ => false

/-- Code of a driver procedure. -/
abbrev Driver (α : Type) := Program State Call.Ans α

/-- Make a call and wait for its answer. -/
abbrev call (e : Call) : Driver e.Ans := Program.perform e

/-! ## References and timers -/

/-- Tcl's side of a `State`: the `Tcl_Preserve` count, a pending
`Tcl_EventuallyFree`, whether the block has been freed, and how many timer
handlers the notifier holds for it. -/
structure Refs where
  preserved : Nat := 0
  pendingFree : Bool := false
  freed : Bool := false
  timers : Nat := 0
deriving DecidableEq, Repr

namespace Refs

/-- `Tcl_Release` drops the last reference of a block that waits to be freed. -/
def lastRelease (r : Refs) : Bool := decide (r.preserved ≤ 1) && r.pendingFree

/-- The bookkeeping after a call. -/
def after (r : Refs) : Call → Refs
  | .preserve => { r with preserved := r.preserved + 1 }
  | .release => { r with preserved := r.preserved - 1, pendingFree := r.pendingFree && !r.lastRelease }
  | .eventuallyFree => { r with pendingFree := decide (r.preserved ≠ 0) }
  | .free => { r with freed := true }
  | .createTimerHandler _ => { r with timers := r.timers + 1 }
  | .deleteTimerHandler => { r with timers := r.timers - 1 }
  | _ => r

end Refs

/-! ## Answers in store -/

/-- Answers not taken yet, in order. -/
abbrev Supply (α : Type) := Nat → α

def Supply.rest {α : Type} (s : Supply α) : Supply α := fun n => s (n + 1)

/-- What OpenSSL, the scripts and the channel buffers answer during one
procedure call. -/
structure Answers where
  handshakes : Supply Answer
  reads : Supply ((n : Int) → Transfer n)
  writes : Supply ((n : Int) → Transfer n)
  flushes : Supply Int
  verifyResults : Supply Int
  evals : Supply EvalOutcome
  objResults : Supply String
  counts : Supply Nat

/-- The same answers over and over, no script output and empty buffers. -/
def Answers.steady (handshake : Answer) (read write : (n : Int) → Transfer n)
    (eval : EvalOutcome) : Answers where
  handshakes _ := handshake
  reads _ := read
  writes _ := write
  flushes _ := 1
  verifyResults _ := x509Ok
  evals _ := eval
  objResults _ := ""
  counts _ := 0

/-- The store after a call has taken its answer. -/
@[simp] def Answers.after (a : Answers) : Call → Answers
  | .sslAccept | .sslConnect => { a with handshakes := a.handshakes.rest }
  | .bioRead _ => { a with reads := a.reads.rest }
  | .bioWrite _ => { a with writes := a.writes.rest }
  | .bioFlush => { a with flushes := a.flushes.rest }
  | .getVerifyResult => { a with verifyResults := a.verifyResults.rest }
  | .evalObj _ => { a with evals := a.evals.rest }
  | .objResult => { a with objResults := a.objResults.rest }
  | .bioPending | .bioWpending | .inputBuffered | .outputBuffered =>
      { a with counts := a.counts.rest }
  | _ => a

/-! ## Surroundings of a procedure that is not re-entered -/

/-- A call that was made, with its answer. -/
structure Event where
  call : Call
  answer : call.Ans

structure Env where
  answers : Answers
  refs : Refs := {}
  log : List Event := []

namespace Env

/-- The answer to the next call. -/
@[simp, reducible] def reply (g : Env) : (e : Call) → e.Ans
  | .sslAccept | .sslConnect => g.answers.handshakes 0
  | .bioRead n => g.answers.reads 0 n
  | .bioWrite n => g.answers.writes 0 n
  | .bioFlush => g.answers.flushes 0
  | .getVerifyResult => g.answers.verifyResults 0
  | .bioPending | .bioWpending | .inputBuffered | .outputBuffered => g.answers.counts 0
  | .evalObj _ => g.answers.evals 0
  | .objResult => g.answers.objResults 0
  | .release => g.refs.lastRelease
  | .eventuallyFree => decide (g.refs.preserved = 0)
  | .sslShutdown | .bioFree | .sslFree | .sslCtxFree | .backgroundException _ | .sleep _
  | .preserve | .free | .createTimerHandler _ | .deleteTimerHandler | .notifyChannel _
  | .watchParent _ => ()

/-- Answer a call from the store and write it to the log. -/
@[reducible] def respond (e : Call) (g : Env) : e.Ans × Env :=
  (g.reply e,
    { answers := g.answers.after e, refs := g.refs.after e, log := g.log ++ [⟨e, g.reply e⟩] })

/-- The part of the log that the SSL state machine saw. -/
def wireLog (g : Env) : List Event := g.log.filter (·.call.wire)

theorem wireLog_respond {e : Call} {g : Env} (he : e.wire = false) :
    (respond e g).2.wireLog = g.wireLog := by
  simp [wireLog, he]

end Env

/-- A `State` and its surroundings during one procedure call. -/
abbrev Conn := World State Env

/-- Run a driver procedure to its end, nobody else touching the `State`. -/
abbrev Conn.run {α : Type} (w : Conn) (p : Driver α) : α × Conn := p.run Env.respond w

end TclTls
