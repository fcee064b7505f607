import TclTls.Callback

/-!
# TclTls.Verify

Certificate verification: `VerifyCallback` and the verdict it gives.

The comment on the function promises the `-validatecommand` script three
answers: 0 rejects the certificate, 1 accepts it, the empty string leaves the
library's verdict unchanged.  The verdict is what `EvalCallback` makes of the
script's result, and that helper takes every result which is not an integer for
a 1.  `verifyCallback_documented_iff` says for which outcomes the promise is
kept nevertheless.
-/

namespace TclTls

open Interaction
open Interaction.Program (state update)

variable (lib : Platform)

/-- `VerifyCallback`: the verdict on one certificate of the peer's chain.  `ok`
is the library's own verdict, `cert` the certificate's description for the
script (`none` for a `NULL` certificate), `err` the store's error code. -/
def verifyCallback (ok : Int) (cert : Option String) (depth err : Int) : Driver Int := do
  let s ← state
  match s.vcmd with
  | none =>
      -- use ok value if verification is required
      if s.vflags &&& sslVerifyFailIfNoPeerCert ≠ 0 then pure ok else pure 1
  | some script =>
      match cert with
      | none => pure 0
      | some cert =>
          evalCallback lib ⟨script, ["verify", s.self, toString depth, cert, toString ok,
            lib.verifyErrorString err]⟩

/-! ## The verdict -/

@[simp] theorem run_evalCallback (cmd : Command) (w : Conn) :
    (w.run (evalCallback lib cmd)).1 = callbackResult lib (w.env.answers.evals 0) := by
  by_cases hcode : (w.env.answers.evals 0).code = tclOk <;>
    simp [evalCallback, Answers.after, hcode]

/-- With a script and a certificate the verdict is the script's. -/
theorem run_verifyCallback_vcmd {w : Conn} {script : String} (hv : w.st.vcmd = some script)
    (ok : Int) (cert : String) (depth err : Int) :
    (w.run (verifyCallback lib ok (some cert) depth err)).1 =
      callbackResult lib (w.env.answers.evals 0) := by
  simp [verifyCallback, hv]

/-- Without a script a required certificate keeps the library's verdict. -/
theorem run_verifyCallback_required {w : Conn} (hv : w.st.vcmd = none)
    (hreq : w.st.vflags &&& sslVerifyFailIfNoPeerCert ≠ 0) (ok : Int) (cert : Option String)
    (depth err : Int) : (w.run (verifyCallback lib ok cert depth err)).1 = ok := by
  simp [verifyCallback, hv, hreq]

/-- The script said yes: a true boolean or a positive integer. -/
def SaysYes (r : String) : Prop :=
  lib.getBoolean r = some true ∨ ∃ n, lib.getInt r = some n ∧ 0 < n

/-- The documented meaning of a script's outcome `o` for a certificate whose
own verdict is `ok`. -/
structure VerdictDocumented (ok : Bool) (o : EvalOutcome) (verdict : Int) : Prop where
  of_error : o.code ≠ tclOk → verdict = 0
  of_false : o.code = tclOk → lib.getBoolean o.result = some false → verdict = 0
  of_empty : o.code = tclOk → o.result = "" → verdict = ok.toInt
  of_yes : o.code = tclOk → SaysYes lib o.result → verdict ≠ 0
  yes_of_invalid : ok = false → verdict ≠ 0 → o.code = tclOk ∧ SaysYes lib o.result

/-- The outcomes `EvalCallback` reads as documented: the script failed, or it
returned an integer or a true boolean, or the certificate is valid and the
script did not say no. -/
def VerdictSettled (ok : Bool) (o : EvalOutcome) : Prop :=
  o.code ≠ tclOk ∨ (lib.getInt o.result).isSome ∨ lib.getBoolean o.result = some true ∨
    (ok = true ∧ lib.getBoolean o.result ≠ some false)

theorem saysYes_iff (r : String) : SaysYes lib r ↔ lib.getBoolean r = some true := by
  refine ⟨?_, .inl⟩
  rintro (h | ⟨n, hn, hpos⟩)
  · exact h
  · rw [lib.getBoolean_of_getInt r n hn]
    simp
    omega

/-- An integer result is read as documented. -/
theorem verdictDocumented_of_getInt {ok : Bool} {o : EvalOutcome} {n : Int}
    (hcode : o.code = tclOk) (hn : lib.getInt o.result = some n) :
    VerdictDocumented lib ok o n := by
  have hbool := lib.getBoolean_of_getInt o.result n hn
  constructor
  · intro h
    exact absurd hcode h
  · intro _ hfalse
    simpa [hbool] using hfalse
  · intro _ hempty
    rw [hempty, lib.getInt_empty] at hn
    contradiction
  · intro _ hyes
    simpa [saysYes_iff, hbool] using hyes
  · intro _ hverdict
    exact ⟨hcode, by simpa [saysYes_iff, hbool] using hverdict⟩

/-- Any other result counts as a 1, which is as documented for a true boolean
and, on a valid certificate, for everything but a false one. -/
theorem verdictDocumented_one_iff {ok : Bool} {o : EvalOutcome} (hcode : o.code = tclOk) :
    VerdictDocumented lib ok o 1 ↔
      lib.getBoolean o.result = some true ∨ (ok = true ∧ lib.getBoolean o.result ≠ some false) := by
  constructor
  · intro h
    cases ok with
    | false => exact .inl ((saysYes_iff lib _).mp (h.yes_of_invalid rfl (by decide)).2)
    | true => exact .inr ⟨rfl, fun hfalse => absurd (h.of_false hcode hfalse) (by decide)⟩
  · rintro (hyes | ⟨rfl, hno⟩)
    · refine ⟨fun h => absurd hcode h, ?_, ?_, fun _ _ => by decide, fun _ _ => ⟨hcode, .inl hyes⟩⟩
      · intro _ hfalse
        rw [hyes] at hfalse
        contradiction
      · intro _ hempty
        rw [hempty, lib.getBoolean_empty] at hyes
        contradiction
    · exact ⟨fun h => absurd hcode h, fun _ hfalse => absurd hfalse hno, fun _ _ => rfl,
        fun _ _ => by decide, fun h => by contradiction⟩

/-- **The verdict of `VerifyCallback`** is the documented one exactly for the
outcomes `EvalCallback` settles. -/
theorem verifyCallback_documented_iff (w : Conn) (script : String) (hv : w.st.vcmd = some script)
    (ok : Bool) (cert : String) (depth err : Int) :
    VerdictDocumented lib ok (w.env.answers.evals 0)
        (w.run (verifyCallback lib ok.toInt (some cert) depth err)).1 ↔
      VerdictSettled lib ok (w.env.answers.evals 0) := by
  rw [run_verifyCallback_vcmd lib hv]
  generalize w.env.answers.evals 0 = o
  by_cases hcode : o.code = tclOk
  · cases hint : lib.getInt o.result with
    | some n =>
        have hresult : callbackResult lib o = n := by simp [callbackResult, hcode, hint]
        rw [hresult]
        exact iff_of_true (verdictDocumented_of_getInt lib hcode hint) (.inr (.inl (by simp [hint])))
    | none =>
        have hresult : callbackResult lib o = 1 := by simp [callbackResult, hcode, hint]
        rw [hresult, verdictDocumented_one_iff lib hcode]
        simp [VerdictSettled, hcode, hint]
  · have hresult : callbackResult lib o = 0 := by simp [callbackResult, hcode]
    rw [hresult]
    refine iff_of_true ⟨fun _ => rfl, ?_, ?_, ?_, fun _ h => absurd rfl h⟩ (.inl hcode)
    all_goals
      intro h
      exact absurd h hcode

/-- A connection whose `-validatecommand` script ends with `o`. -/
def scripted (o : EvalOutcome) : Conn where
  st := { vcmd := some "check" }
  env.answers := .steady .wantRead (Answer.wantRead.toTransfer Answer.wantRead_ret)
    (Answer.wantRead.toTransfer Answer.wantRead_ret) o

theorem verifyCallback_documented_yes :
    VerdictDocumented .plain false ⟨tclOk, "yes"⟩
      ((scripted ⟨tclOk, "yes"⟩).run (verifyCallback .plain 0 (some "") 0 18)).1 :=
  (verifyCallback_documented_iff .plain (scripted ⟨tclOk, "yes"⟩) "check" rfl false "" 0 18).mpr
    (.inr (.inr (.inl (by decide))))

/-- A script that returns `false` accepts an invalid certificate, and so does
one that returns nothing. -/
theorem verifyCallback_accepts_invalid :
    ¬ VerdictDocumented .plain false ⟨tclOk, "false"⟩
        ((scripted ⟨tclOk, "false"⟩).run (verifyCallback .plain 0 (some "") 0 18)).1 ∧
      ¬ VerdictDocumented .plain false ⟨tclOk, ""⟩
        ((scripted ⟨tclOk, ""⟩).run (verifyCallback .plain 0 (some "") 0 18)).1 := by
  constructor
  · intro h
    exact absurd (h.of_false rfl (by decide)) (by decide)
  · intro h
    exact absurd (h.of_empty rfl rfl) (by decide)

end TclTls
