import TclTls.Callback

/-!
# TclTls.Negotiation

The callbacks of a server during negotiation: `HelloCallback`, `SNICallback`
and `ALPNCallback`.

OpenSSL runs them while it works on one connection, but with the argument that
was registered with the connection's `SSL_CTX`, and the argument is all they
know: the script, the channel name and the protocol list come from the `State`
it points to.  `body_reports` says so once for the three of them.
-/

namespace TclTls

open Interaction
open Interaction.Program (state update)

/-! ## Results -/

/-- `SSL_TLSEXT_ERR_*` -/
inductive ExtResult where
  | ok
  | alertWarning
  | alertFatal
  | noack
deriving DecidableEq, Repr

/-- `SSL_CLIENT_HELLO_*` -/
inductive HelloResult where
  | success
  | error
  | retry
deriving DecidableEq, Repr

/-- The values the callbacks store in `*alert`. -/
def sslAdUnrecognizedName : Int := 112
def sslRSslv3AlertIllegalParameter : Int := 1047
def sslRTlsv1AlertInternalError : Int := 1080
def sslRTlsv1AlertUserCancelled : Int := 1090

/-- What the callbacks use beyond `Platform`: how Tcl makes a value of bytes, and
`SSL_select_next_proto`, which for the server's and the client's list says
whether they overlap and leaves `*out` pointing at some text. -/
structure NegotiationLibrary extends Platform where
  /-- `Tcl_NewStringObj` -/
  newStringObj : List UInt8 → String
  /-- `Tcl_NewByteArrayObj` -/
  newByteArrayObj : List UInt8 → String
  /-- `SSL_select_next_proto` -/
  selectNextProto : List UInt8 → List UInt8 → Bool × String

/-- Strings are Latin-1, and no protocols overlap. -/
def NegotiationLibrary.plain : NegotiationLibrary where
  toPlatform := .plain
  newStringObj bytes := String.ofList (bytes.map fun b => Char.ofNat b.toNat)
  newByteArrayObj bytes := String.ofList (bytes.map fun b => Char.ofNat b.toNat)
  selectNextProto _ _ := (false, "")

variable (lib : NegotiationLibrary)

/-! ## Client hello -/

/-- A 16-bit length in network order. -/
def readLength (high low : UInt8) : Nat := high.toNat <<< 8 + low.toNat

/-- The server name of a `server_name` extension, or the alert. -/
def helloServername (ext : List UInt8) : Except Int (List UInt8) :=
  if ext.length ≤ 2 then .error sslRSslv3AlertIllegalParameter
  else
    let len := readLength (ext.getD 0 0) (ext.getD 1 0)
    if len + 2 ≠ ext.length then .error sslRSslv3AlertIllegalParameter
    -- only the first name of the list is considered; its type has to be 0
    else if len = 0 ∨ ext.getD 2 0 ≠ 0 then .error sslRTlsv1AlertInternalError
    else if len - 1 ≤ 2 then .error sslRTlsv1AlertInternalError
    else
      let nameLen := readLength (ext.getD 3 0) (ext.getD 4 0)
      if len - 1 < nameLen + 2 then .error sslRTlsv1AlertInternalError
      else .ok ((ext.drop 5).take nameLen)

/-- `HelloCallback` for a client hello with this `server_name` extension and
session id: the result, and the alert if it stores one. -/
def helloCallback (ext : Option (List UInt8)) (sessionId : List UInt8) :
    Driver (HelloResult × Option Int) := do
  let s ← state
  match s.vcmd with
  | none => pure (.success, none)
  | some script =>
      match (ext.map helloServername).getD (.ok []) with
      | .error alert => pure (.error, some alert)
      | .ok servername => do
          let code ← evalCallback lib.toPlatform ⟨script, ["hello", s.self,
            lib.newStringObj servername, lib.newByteArrayObj sessionId]⟩
          pure (if 1 < code then (.retry, some sslRTlsv1AlertUserCancelled)
            else if code = 1 then (.success, none)
            else (.error, some sslRTlsv1AlertInternalError))

/-! ## Server name -/

/-- `SNICallback`; `servername` is what `SSL_get_servername` returns. -/
def sniCallback (servername : Option String) : Driver (ExtResult × Option Int) :=
  match servername.filter (· ≠ "") with
  | none => pure (.noack, none)
  | some name => do
      let s ← state
      match s.vcmd with
      | none => pure (.ok, none)
      | some script => do
          let code ← evalCallback lib.toPlatform ⟨script, ["sni", s.self, name]⟩
          pure (if 1 < code then (.alertWarning, some sslAdUnrecognizedName)
            else if code = 1 then (.ok, none)
            else (.alertFatal, some sslAdUnrecognizedName))

/-! ## Protocols -/

/-- `ALPNCallback` for the protocols of the client. -/
def alpnCallback (input : List UInt8) : Driver ExtResult := do
  let s ← state
  let (negotiated, out) := lib.selectNextProto (s.protos.getD []) input
  let res : ExtResult := if negotiated then .ok else .noack
  match s.vcmd with
  | none => pure res
  | some script => do
      let code ← evalCallback lib.toPlatform ⟨script, ["alpn", s.self, out,
        if negotiated then "1" else "0"]⟩
      pure (if 1 < code then .noack else if code = 1 then .ok else .alertFatal)

/-! ## Whom they report -/

/-- A callback, with what the library passes to it. -/
inductive ServerCallback where
  | hello (ext : Option (List UInt8)) (sessionId : List UInt8)
  | sni (servername : Option String)
  | alpn (input : List UInt8)

/-- Its code; the result goes to the library. -/
def ServerCallback.body : ServerCallback → Driver Unit
  | .hello ext sessionId => do let _ ← helloCallback lib ext sessionId; pure ()
  | .sni servername => do let _ ← sniCallback lib servername; pure ()
  | .alpn input => do let _ ← alpnCallback lib input; pure ()

/-- The command is the `-validatecommand` script of `s`, called with the name of
its channel. -/
def Command.ReportsFor (cmd : Command) (s : State) : Prop :=
  s.vcmd = some cmd.script ∧ cmd.args[1]? = some s.self

/-- Every command that is evaluated reports for `s`. -/
def reportsFor (s : State) : Contract State Call.Ans where
  allowed _ e := ∀ cmd, e = .evalObj cmd → cmd.ReportsFor s
  interference _ _ _ := True

section Reports

variable {lib} {s s' : State}

theorem tlsFree_reports : tlsFree.Safe (reportsFor s) (fun _ _ => True) s' := by
  simp [tlsFree, tlsClean, reportsFor]

theorem evalCallback_reports {lib : Platform} {cmd : Command} (hcmd : cmd.ReportsFor s)
    {α : Type} (k : Int → α) :
    (do let code ← evalCallback lib cmd; pure (k code) : Driver α).Safe (reportsFor s)
      (fun _ _ => True) s' := by
  have hfree : ∀ s', tlsFree.Safe (reportsFor s) (fun _ _ => True) s' := fun _ => tlsFree_reports
  simp only [evalCallback, tclRelease, reportsFor] at hfree ⊢
  simp [hcmd, hfree]

theorem helloCallback_reports (ext : Option (List UInt8)) (sessionId : List UInt8) :
    (helloCallback lib ext sessionId).Safe (reportsFor s) (fun _ _ => True) s := by
  rw [helloCallback, Program.safe_bind, Program.safe_state]
  cases hvcmd : s.vcmd with
  | none => trivial
  | some script =>
      cases (ext.map helloServername).getD (.ok []) with
      | error alert => trivial
      | ok servername => exact evalCallback_reports ⟨hvcmd, rfl⟩ _

theorem sniCallback_reports (servername : Option String) :
    (sniCallback lib servername).Safe (reportsFor s) (fun _ _ => True) s := by
  rw [sniCallback]
  cases servername.filter (· ≠ "") with
  | none => trivial
  | some name =>
      simp only [Program.safe_bind, Program.safe_state]
      cases hvcmd : s.vcmd with
      | none => trivial
      | some script => exact evalCallback_reports ⟨hvcmd, rfl⟩ _

theorem alpnCallback_reports (input : List UInt8) :
    (alpnCallback lib input).Safe (reportsFor s) (fun _ _ => True) s := by
  rw [alpnCallback, Program.safe_bind, Program.safe_state]
  cases hvcmd : s.vcmd with
  | none => trivial
  | some script => exact evalCallback_reports ⟨hvcmd, rfl⟩ _

/-- **A callback reports for the `State` it is given.** -/
theorem body_reports (cb : ServerCallback) (s : State) :
    (cb.body lib).Safe (reportsFor s) (fun _ _ => True) s := by
  cases cb with
  | hello ext sessionId =>
      rw [ServerCallback.body, Program.safe_bind]
      exact (helloCallback_reports ext sessionId).mono fun _ _ _ => trivial
  | sni servername =>
      rw [ServerCallback.body, Program.safe_bind]
      exact (sniCallback_reports servername).mono fun _ _ _ => trivial
  | alpn input =>
      rw [ServerCallback.body, Program.safe_bind]
      exact (alpnCallback_reports input).mono fun _ _ _ => trivial

end Reports

end TclTls
