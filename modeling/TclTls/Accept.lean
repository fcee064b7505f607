import TclTls.Platform

/-!
# TclTls.Accept

`tls::_accept`, which a TLS server runs for every connection: it makes the new
channel a TLS one and hands it to the callback of the user.

Only the evaluation of the callback is inside a `catch`.  If something else
fails, `tls::_accept` raises that error and leaves the channel open; and when
the callback has failed, `close` is something else.  `accepts_settled_iff` says
for which connections no channel is left behind and every error of a callback
gets through.
-/

namespace TclTls

/-! ## Surroundings -/

/-- An error as a procedure raises it.  `errorInfo` is the stack trace that
`error` has been given, if any; without one the interpreter makes it. -/
structure Raised where
  error : TclError
  errorInfo : Option String := none
deriving DecidableEq, Repr

/-- How a script ends: its completion code, and what `catch` leaves in its
variable, in `errorInfo` and in `errorCode`; and whether it has closed the new
channel. -/
structure ScriptEnd where
  code : Int
  err : String
  errorInfo : String
  errorCode : List String
  closes : Bool := false
deriving DecidableEq, Repr

/-- The error of a script that has failed. -/
def ScriptEnd.raised (r : ScriptEnd) : Raised := ⟨⟨r.err, r.errorCode⟩, some r.errorInfo⟩

/-- What a new channel is. -/
inductive Accepted where
  /-- accepted, and not a TLS channel -/
  | raw
  | tls
  | closed
deriving DecidableEq, Repr

/-- A new connection: the words that Tcl appends to `tls::_accept`, and what the
commands come to that it makes.  The user's log command gets the messages up to
the level `debug`; `logcmd n` is how its `n`-th evaluation ends. -/
structure Incoming where
  chan : String
  ipaddr : String
  port : String
  debug : Nat := 0
  logcmd : Nat → Option TclError := fun _ => none
  importCmd : List String → Except TclError Unit
  script : List String → ScriptEnd
  close : Option TclError := none

/-- `tls::log` -/
def Incoming.log (c : Incoming) (level n : Nat) : Option TclError :=
  if c.debug < level then none else c.logcmd n

-- `Tcl_SplitList`
variable (splitList : String → Except TclError (List String))

/-! ## The procedure -/

/-- The `close` of a channel that the callback may have closed. -/
def Incoming.closeCmd (c : Incoming) (r : ScriptEnd) : Option TclError :=
  if r.closes then some (.noChannel c.chan) else c.close

/-- What follows the evaluation of the callback. -/
def Incoming.handle (c : Incoming) (r : ScriptEnd) : Except Raised Unit × Accepted :=
  let after := if r.closes then .closed else .tls
  if r.code ≠ 0 then
    match c.log 1 1 with
    | some e => (.error ⟨e, none⟩, after)
    | none =>
        match c.closeCmd r with
        | some e => (.error ⟨e, none⟩, .closed)
        | none => (.error r.raised, .closed)
  else
    match c.log 2 1 with
    | some e => (.error ⟨e, none⟩, after)
    | none => (.ok (), after)

/-- `tls::_accept`, and what has become of the channel. -/
def tlsAccept (iopts : List String) (callback : String) (c : Incoming) :
    Except Raised Unit × Accepted :=
  match c.log 2 0 with
  | some e => (.error ⟨e, none⟩, .raw)
  | none =>
      match c.importCmd iopts with
      | .error e => (.error ⟨e, none⟩, .raw)
      | .ok () =>
          -- `lappend` makes a list of the callback
          match splitList callback with
          | .error e => (.error ⟨e, none⟩, .tls)
          | .ok words => c.handle (c.script (words ++ [c.chan, c.ipaddr, c.port]))

/-! ## What is expected -/

/-- How the callback ends, if it is evaluated. -/
def Incoming.invoked (c : Incoming) (iopts : List String) (callback : String) :
    Option ScriptEnd :=
  match c.log 2 0, c.importCmd iopts, splitList callback with
  | none, .ok (), .ok words => some (c.script (words ++ [c.chan, c.ipaddr, c.port]))
  | _, _, _ => none

/-- The channel is closed, or it is a TLS one and the callback has completed;
and the error of a callback that fails is the one that is raised. -/
structure Settled (iopts : List String) (callback : String) (c : Incoming) : Prop where
  channel : (tlsAccept splitList iopts callback c).2 = .closed ∨
    (tlsAccept splitList iopts callback c).2 = .tls ∧
      ∃ r, c.invoked splitList iopts callback = some r ∧ r.code = 0
  own : ∀ r, c.invoked splitList iopts callback = some r → r.code = 1 →
    (tlsAccept splitList iopts callback c).1 = .error r.raised

/-- The callback is evaluated; and if it fails, its channel is still open and can
be closed.  Where it ends with another completion code, it has to have closed
the channel if the failure can not be logged. -/
def Closable (iopts : List String) (callback : String) (c : Incoming) : Prop :=
  ∃ r, c.invoked splitList iopts callback = some r ∧
    (r.code = 1 → r.closes = false ∧ c.close = none) ∧
    (r.code ≠ 0 → r.code = 1 ∨ r.closes = false → c.log 1 1 = none)

/-! ## One connection -/

section Connection

variable {iopts : List String} {callback : String} {c : Incoming} {r : ScriptEnd}

/-- Either the callback is evaluated, or the channel stays open without one. -/
theorem tlsAccept_cases (iopts : List String) (callback : String) (c : Incoming) :
    (∃ r, c.invoked splitList iopts callback = some r ∧
        tlsAccept splitList iopts callback c = c.handle r) ∨
      (c.invoked splitList iopts callback = none ∧
        (tlsAccept splitList iopts callback c).2 ≠ .closed) := by
  unfold Incoming.invoked tlsAccept
  cases c.log 2 0 with
  | some e => exact .inr ⟨rfl, by simp⟩
  | none =>
      cases c.importCmd iopts with
      | error e => exact .inr ⟨rfl, by simp⟩
      | ok u =>
          cases splitList callback with
          | error e => exact .inr ⟨rfl, by simp⟩
          | ok words => exact .inl ⟨_, rfl, rfl⟩

/-- The channel is open and not a TLS one with a completed callback only if the
log command fails. -/
theorem handle_channel_iff :
    ((c.handle r).2 = .closed ∨ (c.handle r).2 = .tls ∧ r.code = 0) ↔
      (r.code ≠ 0 → r.closes = false → c.log 1 1 = none) := by
  unfold Incoming.handle
  by_cases hcode : r.code = 0
  · cases hlog : c.log 2 1 <;> cases hcloses : r.closes <;> simp [hcode]
  · cases hlog : c.log 1 1 with
    | some e => cases hcloses : r.closes <;> simp [hcode]
    | none => cases hclose : c.closeCmd r <;> simp [hcode]

/-- The error of a callback gets through if nothing else fails on the way. -/
theorem handle_own_iff (hcode : r.code = 1) :
    (c.handle r).1 = .error r.raised ↔
      c.log 1 1 = none ∧ r.closes = false ∧ c.close = none := by
  have hfails : r.code ≠ 0 := by omega
  simp only [Incoming.handle, if_pos hfails]
  cases hlog : c.log 1 1 with
  | some e => simp [ScriptEnd.raised]
  | none =>
      cases hcloses : r.closes <;> cases hclose : c.close <;>
        simp [Incoming.closeCmd, hcloses, hclose, ScriptEnd.raised]

theorem settled_iff : Settled splitList iopts callback c ↔ Closable splitList iopts callback c := by
  obtain ⟨r, hinvoked, haccept⟩ | ⟨hinvoked, hopen⟩ :=
    tlsAccept_cases splitList iopts callback c
  · constructor
    · intro h
      have hchannel : (c.handle r).2 = .closed ∨ (c.handle r).2 = .tls ∧ r.code = 0 := by
        rw [← haccept]
        refine h.channel.imp_right fun ⟨htls, r', hr', hcode⟩ => ⟨htls, ?_⟩
        cases hinvoked.symm.trans hr'
        exact hcode
      have hown : r.code = 1 → c.log 1 1 = none ∧ r.closes = false ∧ c.close = none := by
        intro hcode
        have hraised := h.own r hinvoked hcode
        rwa [haccept, handle_own_iff hcode] at hraised
      refine ⟨r, hinvoked, fun hcode => (hown hcode).2, fun hcode hlog => ?_⟩
      rcases hlog with hone | hcloses
      · exact (hown hone).1
      · exact handle_channel_iff.mp hchannel hcode hcloses
    · rintro ⟨r', hr', hclosable, hlog⟩
      cases hinvoked.symm.trans hr'
      have hchannel := handle_channel_iff.mpr fun hcode hcloses => hlog hcode (.inr hcloses)
      refine ⟨?_, fun r' hr' hcode => ?_⟩
      · rw [haccept]
        exact hchannel.imp_right fun ⟨htls, hcode⟩ => ⟨htls, r, hinvoked, hcode⟩
      · cases hinvoked.symm.trans hr'
        rw [haccept, handle_own_iff hcode]
        exact ⟨hlog (by omega) (.inl hcode), hclosable hcode⟩
  · constructor
    · intro h
      rcases h.channel with hclosed | ⟨-, r, hr, -⟩
      · exact absurd hclosed hopen
      · cases hinvoked.symm.trans hr
    · rintro ⟨r, hr, -⟩
      cases hinvoked.symm.trans hr

end Connection

/-- `tls::import` fails. -/
def unimportable : Incoming where
  chan := "sock5"
  ipaddr := "127.0.0.1"
  port := "40000"
  importCmd _ := .error ⟨"handshake failed", ["TLS", "IMPORT"]⟩
  script _ := ⟨0, "", "", ["NONE"], false⟩

/-- The callback closes its channel and fails. -/
def closesAndFails : Incoming where
  chan := "sock6"
  ipaddr := "127.0.0.1"
  port := "40001"
  importCmd _ := .ok ()
  script _ := ⟨1, "no such user", "no such user", ["NONE"], true⟩

end TclTls
