import TclTls.State

/-!
# TclTls.Callback

The code that evaluates user scripts on behalf of the library, and the code
that releases a `State`.  They belong together: `Tcl_Release` at the end of
`EvalCallback` frees the `State` when its channel was closed meanwhile.

None of this code drives the SSL state machine or touches `State.flags`: the
`_bystander` lemmas say so once, for every procedure that reports an error on
its way.
-/

namespace TclTls

open Interaction
open Interaction.Program (state update)

variable (lib : Platform)

/-! ## Release -/

/-- `Tls_Clean`: release everything the `State` owns. -/
def tlsClean : Driver Unit := do
  let s ← state
  let doRelease := s.timer
  if s.timer then
    call .deleteTimerHandler
    update fun s => { s with timer := false }
  update fun s => { s with callback := none, password := none, vcmd := none, protos := none }
  if s.bio then
    call .bioFree
    update fun s => { s with bio := false }
  if s.ssl.isSome then
    call .sslFree
    update fun s => { s with ssl := none }
  if s.ctx.isSome then
    call .sslCtxFree
    update fun s => { s with ctx := none }
  if doRelease then
    let _ ← call .release

/-- `Tls_Free`. -/
def tlsFree : Driver Unit := do
  tlsClean
  call .free

/-- `Tcl_Release`: the last reference of a block that waits to be freed takes
the block with it. -/
def tclRelease : Driver Unit := do
  let last ← call .release
  if last then
    tlsFree

/-- `Tcl_EventuallyFree` with `Tls_Free`. -/
def tclEventuallyFree : Driver Unit := do
  let now ← call .eventuallyFree
  if now then
    tlsFree

/-! ## Scripts -/

/-- The integer `EvalCallback` makes of a script's outcome. -/
def callbackResult (o : EvalOutcome) : Int :=
  if o.code = tclOk then
    match lib.getInt o.result with
    | some n => n
    | none => 1
  else 0

/-- `EvalCallback`. -/
def evalCallback (cmd : Command) : Driver Int := do
  call .preserve
  let o ← call (.evalObj cmd)
  if o.code ≠ tclOk then
    call (.backgroundException o.code)
  tclRelease
  pure (callbackResult lib o)

/-- `Tls_Error`: note the message, then tell the `-command` script.  Without a
message the script gets the interpreter's current result. -/
def tlsError (msg : Option String) : Driver Unit := do
  update fun s => { s with err := msg }
  let s ← state
  match s.callback with
  | none => pure ()
  | some script =>
      let text ← match msg with
        | some text => pure text
        | none => call .objResult
      let _ ← evalCallback lib ⟨script, ["error", s.self, text]⟩

/-! ## Bystanders -/

/-- Makes no call on the wire. -/
def offWire : Contract State Call.Ans where
  allowed _ e := e.wire = false

@[simp] theorem offWire_allowed (s : State) (e : Call) :
    offWire.allowed s e ↔ e.wire = false := Iff.rfl

@[simp] theorem offWire_writes (s s' : State) : offWire.writes s s' := trivial

@[simp] theorem offWire_answers (e : Call) (r : e.Ans) : offWire.answers e r := trivial

@[simp] theorem offWire_interference (e : Call) (s s' : State) :
    offWire.interference e s s' ↔ s = s' := Iff.rfl

section Bystander

variable {f : Flags} {s : State}

@[simp] theorem tlsClean_bystander (hs : s.flags = f) :
    tlsClean.Safe offWire (fun _ s' => s'.flags = f) s := by
  subst hs
  simp [tlsClean, Call.wire]

@[simp] theorem tlsFree_bystander (hs : s.flags = f) :
    tlsFree.Safe offWire (fun _ s' => s'.flags = f) s := by
  simp [tlsFree, Call.wire, hs]

@[simp] theorem tclRelease_bystander (hs : s.flags = f) :
    tclRelease.Safe offWire (fun _ s' => s'.flags = f) s := by
  simp [tclRelease, Call.wire, hs]

@[simp] theorem tclEventuallyFree_bystander (hs : s.flags = f) :
    tclEventuallyFree.Safe offWire (fun _ s' => s'.flags = f) s := by
  simp [tclEventuallyFree, Call.wire, hs]

@[simp] theorem evalCallback_bystander (cmd : Command) (hs : s.flags = f) :
    (evalCallback lib cmd).Safe offWire (fun _ s' => s'.flags = f) s := by
  simp [evalCallback, Call.wire, hs]

@[simp] theorem tlsError_bystander (msg : Option String) (hs : s.flags = f) :
    (tlsError lib msg).Safe offWire (fun _ s' => s'.flags = f) s := by
  cases hscript : s.callback <;> cases msg <;> simp [tlsError, Call.wire, hs, hscript]

/-- What comes after a bystander may rely on the flags. -/
theorem bystander_bind {α β : Type} {p : Driver α} {k : α → Driver β} {Q : β → State → Prop}
    (hp : p.Safe offWire (fun _ s' => s'.flags = f) s)
    (hk : ∀ a s', s'.flags = f → (k a).Safe offWire Q s') : (p >>= k).Safe offWire Q s := by
  rw [Program.safe_bind]
  exact hp.mono hk

end Bystander

/-- Nothing the SSL library has in store is used up, and nothing is added to
what it was asked. -/
structure Env.WireEq (g g' : Env) : Prop where
  handshakes : g.answers.handshakes = g'.answers.handshakes
  reads : g.answers.reads = g'.answers.reads
  writes : g.answers.writes = g'.answers.writes
  flushes : g.answers.flushes = g'.answers.flushes
  wireLog : g.wireLog = g'.wireLog

theorem Env.WireEq.respond {g g' : Env} {e : Call} (h : g.WireEq g') (he : e.wire = false) :
    (Env.respond e g).2.WireEq g' := by
  cases e <;> first
    | contradiction
    | exact ⟨h.handshakes, h.reads, h.writes, h.flushes, by rw [wireLog_respond he, h.wireLog]⟩

/-- Code that makes no call on the wire leaves the wire as it was. -/
theorem run_offWire {α : Type} {p : Driver α} {w : Conn} {Q : α → State → Prop}
    (hp : p.Safe offWire Q w.st) :
    Q (w.run p).1 (w.run p).2.st ∧ (w.run p).2.env.WireEq w.env :=
  Program.run_of_safe (P := fun g => g.WireEq w.env)
    (fun _ _ _ he hP => ⟨trivial, hP.respond he⟩) (fun _ _ => rfl) hp ⟨rfl, rfl, rfl, rfl, rfl⟩

end TclTls
