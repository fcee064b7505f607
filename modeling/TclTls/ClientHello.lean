import TclTls.Negotiation
import TclTls.Verify
import TclTls.Wire.Memory

/-!
# TclTls.ClientHello

The parser of `HelloCallback` for the body of a `server_name` extension.

`helloServername` says what it comes to; `helloParser` is the code, with its
pointer, its shrinking count and its reads one by one.  `helloRead_eq` connects
them, and since a read outside of the body has no value, this is also why there
is none.  `helloServername_ok_iff` is the format: a list of names that fills the
body, with a host name first.
-/

namespace TclTls

open Interaction Wire
open Interaction.Program (state update)

/-! ## The code -/

/-- The parser on the body `ext`: the alert, or where the name is and how long.
`p` and `remaining` are the source's variables. -/
def helloParser (ext : List UInt8) : Option (Except Int (Nat × Nat)) :=
  let p := 0
  let remaining := ext.length
  if remaining ≤ 2 then some (.error sslRSslv3AlertIllegalParameter)
  else do
    let high ← ext[p]?
    let low ← ext[p + 1]?
    let p := p + 2
    let len := readLength high low
    if len + 2 ≠ remaining then some (.error sslRSslv3AlertIllegalParameter)
    else
      let remaining := len
      if remaining = 0 then some (.error sslRTlsv1AlertInternalError)
      else do
        let type ← ext[p]?
        let p := p + 1
        -- TLSEXT_NAMETYPE_host_name
        if type ≠ 0 then some (.error sslRTlsv1AlertInternalError)
        else
          let remaining := remaining - 1
          if remaining ≤ 2 then some (.error sslRTlsv1AlertInternalError)
          else do
            let high ← ext[p]?
            let low ← ext[p + 1]?
            let p := p + 2
            let len := readLength high low
            if remaining < len + 2 then some (.error sslRTlsv1AlertInternalError)
            else some (.ok (p, len))

/-- The name as `Tcl_NewStringObj` copies it. -/
def helloRead (ext : List UInt8) : Option (Except Int (List UInt8)) := do
  match ← helloParser ext with
  | .error alert => some (.error alert)
  | .ok (p, len) => (slice ext p len).map .ok

/-! ## The format -/

/-- The body carries the host name `name`: the length of a list of names, which
is the rest of the body; the type 0; the name with its length; and anything. -/
def CarriesName (ext name : List UInt8) : Prop :=
  ∃ h l nh nl rest, ext = [h, l, 0, nh, nl] ++ name ++ rest ∧
    256 * h.toNat + l.toNat = ext.length - 2 ∧ 256 * nh.toNat + nl.toNat = name.length ∧
    name ++ rest ≠ []

section Format

variable {ext name : List UInt8}

theorem readLength_eq (high low : UInt8) : readLength high low = 256 * high.toNat + low.toNat := by
  rw [readLength, Nat.shiftLeft_eq]
  omega

/-- **The code is the parser**, and reads inside the body only. -/
theorem helloRead_eq (ext : List UInt8) : helloRead ext = some (helloServername ext) := by
  match ext with
  | [] | [_] | [_, _] => rfl
  | h :: l :: type :: body =>
      by_cases hlen : readLength h l = body.length + 1
      · by_cases htype : type = 0
        · match body with
          | [] | [_] | [_, _] => simp [helloRead, helloParser, helloServername, hlen, htype]
          | nh :: nl :: b :: rest =>
              by_cases hname : rest.length + 2 ≤ readLength nh nl
              · simp +arith [helloRead, helloParser, helloServername, hlen, htype, hname]
              · have hbound : readLength nh nl ≤ rest.length + 1 := by omega
                simp +arith [helloRead, helloParser, helloServername, hlen, htype, hname, slice, hbound]
        · simp [helloRead, helloParser, helloServername, hlen, htype]
      · simp [helloRead, helloParser, helloServername, hlen]

/-- **The parser accepts exactly the format.** -/
theorem helloServername_ok_iff (ext name : List UInt8) :
    helloServername ext = .ok name ↔ CarriesName ext name := by
  constructor
  · intro hok
    match ext with
    | [] | [_] | [_, _] => simp [helloServername] at hok
    | h :: l :: type :: body =>
        by_cases hlen : readLength h l = body.length + 1
        · by_cases htype : type = 0
          · match body with
            | [] | [_] | [_, _] => simp [helloServername, hlen, htype] at hok
            | nh :: nl :: b :: rest =>
                by_cases hname : rest.length + 3 < readLength nh nl + 2
                · simp [helloServername, hlen, htype, hname] at hok
                · have htake : (b :: rest).take (readLength nh nl) = name := by
                    simpa [helloServername, hlen, htype, hname] using hok
                  refine ⟨h, l, nh, nl, (b :: rest).drop (readLength nh nl), ?_, ?_, ?_, ?_⟩
                  · simp [← htake, htype]
                  · rw [← readLength_eq, hlen]
                    simp
                  · rw [← readLength_eq, ← htake, List.length_take, List.length_cons]
                    omega
                  · rw [← htake, List.take_append_drop]
                    exact List.cons_ne_nil b rest
          · simp [helloServername, hlen, htype] at hok
        · simp [helloServername, hlen] at hok
  · rintro ⟨h, l, nh, nl, rest, rfl, hlist, hlen, hne⟩
    have hpos : 0 < name.length + rest.length := by
      rw [← List.length_append]
      exact List.length_pos_iff.mpr hne
    rw [← readLength_eq] at hlist hlen
    simp only [List.length_append, List.length_cons, List.length_nil] at hlist
    have hlist' : readLength h l = name.length + rest.length + 3 := by omega
    have hfits : ¬ name.length + rest.length + 2 < name.length + 2 := by omega
    simpa [helloServername, hlist', hlen, hfits] using hne

end Format

/-! ## The script -/

/-- The command an event evaluated. -/
def Event.command : Event → Option Command
  | ⟨.evalObj cmd, _⟩ => some cmd
  | _ => none

/-- The commands that were evaluated, in order. -/
def Env.commands (g : Env) : List Command := g.log.filterMap Event.command

/-- Evaluates nothing. -/
def offScript : Contract State Call.Ans where
  allowed _ e := ∀ cmd, e ≠ .evalObj cmd

theorem commands_respond {e : Call} {g : Env} (he : ∀ cmd, e ≠ .evalObj cmd) :
    (Env.respond e g).2.commands = g.commands := by
  have hnone : Event.command ⟨e, g.reply e⟩ = none := by
    cases e <;> first
      | rfl
      | exact (he _ rfl).elim
  simp [Env.commands, hnone]

/-- Code that evaluates nothing adds no command. -/
theorem run_offScript {α : Type} {p : Driver α} {w : Conn} {Q : α → State → Prop}
    (hp : p.Safe offScript Q w.st) :
    Q (w.run p).1 (w.run p).2.st ∧ (w.run p).2.env.commands = w.env.commands :=
  Program.run_of_safe (P := fun g => g.commands = w.env.commands)
    (fun _ _ _ he hP => ⟨trivial, (commands_respond he).trans hP⟩) (fun _ _ => rfl) hp rfl

/-- A script is evaluated. -/
theorem commands_evalObj (cmd : Command) (g : Env) :
    (Env.respond (.evalObj cmd) (Env.respond .preserve g).2).2.commands = g.commands ++ [cmd] := by
  simp only [Env.commands, List.filterMap_append, List.append_assoc]
  rfl

section Script

variable {lib : NegotiationLibrary} {w : Conn} {script : String} {ext sessionId : List UInt8}

/-- What `EvalCallback` does after the script. -/
theorem evalCallback_rest (lib : Platform) (o : EvalOutcome) (s : State) :
    Program.Safe offScript (fun _ _ => True) (do
      if o.code ≠ tclOk then
        call (.backgroundException o.code)
      tclRelease
      pure (callbackResult lib o) : Driver Int) s := by
  by_cases hcode : o.code = tclOk <;> simp [offScript, tclRelease, tlsFree, tlsClean, hcode]

/-- `EvalCallback` evaluates its command and nothing else. -/
theorem run_evalCallback_commands (lib : Platform) (cmd : Command) (w : Conn) :
    (w.run (evalCallback lib cmd)).2.env.commands = w.env.commands ++ [cmd] := by
  have hrest := (run_offScript
    (w := ⟨w.st, (Env.respond (.evalObj cmd) (Env.respond .preserve w.env).2).2⟩)
    (evalCallback_rest lib (w.env.answers.evals 0) w.st)).2
  rw [commands_evalObj] at hrest
  exact hrest

/-- The callback hands the name to the script. -/
theorem run_helloCallback_ok (hv : w.st.vcmd = some script) {name : List UInt8}
    (hname : helloServername ext = .ok name) :
    (w.run (helloCallback lib (some ext) sessionId)).2.env.commands = w.env.commands ++
      [⟨script, ["hello", w.st.self, lib.newStringObj name, lib.newByteArrayObj sessionId]⟩] := by
  have heval := run_evalCallback_commands lib.toPlatform
    ⟨script, ["hello", w.st.self, lib.newStringObj name, lib.newByteArrayObj sessionId]⟩ w
  simpa [helloCallback, hv, hname] using heval

/-- Or refuses the hello, and does nothing. -/
theorem run_helloCallback_error (hv : w.st.vcmd = some script) {alert : Int}
    (halert : helloServername ext = .error alert) :
    w.run (helloCallback lib (some ext) sessionId) = ((.error, some alert), w) := by
  simp [helloCallback, hv, halert]

/-- **The parser is exact.**  It reads inside the body only, and finds a name
exactly if the body carries one; that name is what the script gets.  Any other
body is refused without the script being run. -/
theorem helloCallback_exact (lib : NegotiationLibrary) (ext sessionId : List UInt8) (w : Conn)
    (script : String) (hv : w.st.vcmd = some script) :
    (helloRead ext).isSome = true ∧
      (∀ name, helloRead ext = some (.ok name) ↔ CarriesName ext name) ∧
      (∀ name, CarriesName ext name →
        (w.run (helloCallback lib (some ext) sessionId)).2.env.commands = w.env.commands ++
          [⟨script, ["hello", w.st.self, lib.newStringObj name, lib.newByteArrayObj sessionId]⟩]) ∧
      ((∀ name, ¬ CarriesName ext name) →
        (w.run (helloCallback lib (some ext) sessionId)).1.1 = .error ∧
          (w.run (helloCallback lib (some ext) sessionId)).2 = w) := by
  rw [helloRead_eq]
  refine ⟨rfl, fun name => ?_, fun name hname => ?_, fun hnone => ?_⟩
  · rw [Option.some.injEq, helloServername_ok_iff]
  · exact run_helloCallback_ok hv ((helloServername_ok_iff ext name).mpr hname)
  · cases hresult : helloServername ext with
    | ok name => exact (hnone name ((helloServername_ok_iff ext name).mp hresult)).elim
    | error alert =>
        rw [run_helloCallback_error hv hresult]
        exact ⟨rfl, rfl⟩

/-- The body for the name `ab`. -/
def helloAb : List UInt8 := [0, 5, 0, 0, 2, 97, 98]

theorem helloCallback_exact_ab :
    ((scripted ⟨tclOk, "1"⟩).run (helloCallback .plain (some helloAb) [])).2.env.commands =
      [⟨"check", ["hello", "", "ab", ""]⟩] := by
  have hname : CarriesName helloAb [97, 98] := ⟨0, 5, 0, 2, [], rfl, by decide, by decide, by decide⟩
  exact (helloCallback_exact .plain helloAb [] (scripted ⟨tclOk, "1"⟩) "check" rfl).2.2.1 _ hname

end Script

end TclTls
