import TclTls.Negotiation
import TclTls.Verify

/-!
# TclTls.Verdicts

The verdict of a `-validatecommand` script, in the three callbacks of a server's
negotiation.

The documentation promises one meaning for all of them: 0 rejects the value and
aborts the connection, 1 accepts it, 2 rejects it and continues.  Each callback
says this with result codes of its own, and `ServerCallback.answer` is what these
codes mean to the library.  `answer_documented_iff` compares the two.
-/

namespace TclTls

open Interaction
open Interaction.Program (state update)

/-! ## Meanings -/

/-- What the result of a callback means. -/
inductive Verdict where
  /-- reject the value and abort the connection -/
  | abort
  | accept
  /-- reject the value and continue -/
  | decline
  /-- suspend the handshake and call again -/
  | again
deriving DecidableEq, Repr

def ExtResult.verdict : ExtResult → Verdict
  | .ok => .accept
  | .alertWarning => .decline
  | .alertFatal => .abort
  | .noack => .decline

/-- `SSL_CLIENT_HELLO_RETRY` makes the handshake return with
`SSL_ERROR_WANT_CLIENT_HELLO_CB`: the callback has asked to be called again. -/
def HelloResult.verdict : HelloResult → Verdict
  | .success => .accept
  | .error => .abort
  | .retry => .again

/-- How a script ends. -/
inductive Said where
  | failed
  | integer (v : Int)
deriving DecidableEq, Repr

/-- The integers of a C `int`. -/
def FitsInt (v : Int) : Prop := -2147483648 ≤ v ∧ v ≤ 2147483647

instance (v : Int) : Decidable (FitsInt v) :=
  inferInstanceAs (Decidable (-2147483648 ≤ v ∧ v ≤ 2147483647))

namespace Said

/-- The documented meaning. -/
def documented : Said → Verdict
  | .failed => .abort
  | .integer v => if v ≤ 0 then .abort else if v = 1 then .accept else .decline

/-- The outcome of the script is this.  `Tcl_GetIntFromObj` fails for an integer
that does not fit. -/
def Of (lib : Platform) (o : EvalOutcome) : Said → Prop
  | .failed => o.code ≠ tclOk
  | .integer v => o.code = tclOk ∧ lib.getInt o.result = if FitsInt v then some v else none

/-- What `EvalCallback` makes of it. -/
def code : Said → Int
  | .failed => 0
  | .integer v => if FitsInt v then v else 1

end Said

theorem callbackResult_of_said {lib : Platform} {o : EvalOutcome} {said : Said}
    (h : said.Of lib o) : callbackResult lib o = said.code := by
  cases said with
  | failed =>
      rw [callbackResult, if_neg h]
      rfl
  | integer v =>
      obtain ⟨hcode, hint⟩ := h
      by_cases hfits : FitsInt v <;> simp [callbackResult, hcode, hint, Said.code, hfits]

/-! ## Answers -/

namespace ServerCallback

/-- The callback gets to the script: a server name it needs is there and can be
read. -/
def Asks : ServerCallback → Prop
  | .hello ext _ => ∃ name, (ext.map helloServername).getD (.ok []) = .ok name
  | .sni servername => ∃ name, servername = some name ∧ name ≠ ""
  | .alpn _ => True

/-- The callback, with the meaning of its result. -/
def answer (lib : NegotiationLibrary) : ServerCallback → Driver Verdict
  | .hello ext sessionId => do
      let (res, _) ← helloCallback lib ext sessionId
      pure res.verdict
  | .sni servername => do
      let (res, _) ← sniCallback lib servername
      pure res.verdict
  | .alpn input => do
      let res ← alpnCallback lib input
      pure res.verdict

/-- The callback is `HelloCallback`. -/
def isHello : ServerCallback → Bool
  | .hello _ _ => true
  | _ => false

/-- The meaning of the result for a `code` of `EvalCallback`. -/
def ofCode (cb : ServerCallback) (code : Int) : Verdict :=
  if 1 < code then (if cb.isHello then .again else .decline)
  else if code = 1 then .accept
  else .abort

section Answer

variable {lib : NegotiationLibrary} {w : Conn} {script : String}

/-- The script decides. -/
theorem run_answer (hv : w.st.vcmd = some script) {cb : ServerCallback} (hasks : cb.Asks) :
    (w.run (cb.answer lib)).1 =
      cb.ofCode (callbackResult lib.toPlatform (w.env.answers.evals 0)) := by
  generalize hcode : callbackResult lib.toPlatform (w.env.answers.evals 0) = code
  cases cb with
  | hello ext sessionId =>
      obtain ⟨name, hname⟩ := hasks
      have hrun : (w.run ((hello ext sessionId).answer lib)).1 =
          (if 1 < code then HelloResult.retry else if code = 1 then .success
            else .error).verdict := by
        simp [answer, helloCallback, hv, hname, hcode, apply_ite Prod.fst]
      rw [hrun, apply_ite HelloResult.verdict, apply_ite HelloResult.verdict]
      rfl
  | sni servername =>
      obtain ⟨name, rfl, hname⟩ := hasks
      have hfilter : (some name).filter (· ≠ "") = some name := by simp [hname]
      have hrun : (w.run ((sni (some name)).answer lib)).1 =
          (if 1 < code then ExtResult.alertWarning else if code = 1 then .ok
            else .alertFatal).verdict := by
        rw [answer, sniCallback, hfilter]
        simp [hv, hcode, apply_ite Prod.fst]
      rw [hrun, apply_ite ExtResult.verdict, apply_ite ExtResult.verdict]
      rfl
  | alpn input =>
      have hrun : (w.run ((alpn input).answer lib)).1 =
          (if 1 < code then ExtResult.noack else if code = 1 then .ok
            else .alertFatal).verdict := by
        simp [answer, alpnCallback, hv, hcode]
      rw [hrun, apply_ite ExtResult.verdict, apply_ite ExtResult.verdict]
      rfl

/-- **The verdicts** have the documented meaning as long as their integers fit,
but for the 2 of `HelloCallback`: it asks again. -/
theorem answer_documented_iff (lib : NegotiationLibrary) (cb : ServerCallback) (w : Conn)
    (script : String) (hv : w.st.vcmd = some script) (hasks : cb.Asks) (said : Said)
    (hsaid : said.Of lib.toPlatform (w.env.answers.evals 0)) :
    (w.run (cb.answer lib)).1 = said.documented ↔
      ∀ v, said = .integer v → FitsInt v ∧ (cb.isHello = true → v ≤ 1) := by
  rw [run_answer hv hasks, callbackResult_of_said hsaid]
  cases said with
  | failed => simp [ofCode, Said.code, Said.documented]
  | integer v =>
      simp only [Said.integer.injEq, forall_eq', Said.code, Said.documented, FitsInt, ofCode]
      by_cases hfits : FitsInt v
      · cases hcb : cb.isHello <;> grind
      · grind [FitsInt]

theorem answer_documented_sni :
    ((scripted ⟨tclOk, "2"⟩).run ((sni (some "ab")).answer .plain)).1 = .decline :=
  (answer_documented_iff .plain (sni (some "ab")) (scripted ⟨tclOk, "2"⟩) "check" rfl
    ⟨"ab", rfl, by decide⟩ (.integer 2) ⟨rfl, by decide⟩).mpr (by simp [FitsInt, isHello])

/-- A 2 for the client hello suspends the handshake. -/
theorem helloCallback_asks_again :
    ((scripted ⟨tclOk, "2"⟩).run ((hello none []).answer .plain)).1 = .again ∧
      ((scripted ⟨tclOk, "2"⟩).run ((hello none []).answer .plain)).1 ≠
        (Said.integer 2).documented := by
  constructor
  · rfl
  · decide

end Answer

end ServerCallback

end TclTls
