import Mathlib.Data.List.Forall2
import TclTls.ContextInit

/-!
# TclTls.ContextExits

The exits of `CTX_Init`, read off its checklist: which of them forget a handle
(`ctxInit_released_iff`), and which of them show in their message what the
password script has left in the interpreter's result (`ctxInit_conceals_iff`).
-/

namespace TclTls

open Resource

variable {C N : Type} (lib : CtxLibrary C N) (cfg : CtxConfig)

/-! ## What is released -/

section Released

/-- The parameters have been read and cannot be set: the exit of a library from 3.0 on
keeps them. -/
structure ForgetsDh : Prop where
  openssl3 : lib.openssl3 = true
  before : ∀ step ∈ { ok := lib.reply (.ctxNew cfg.isServer) } :: (cipherSteps lib cfg ++
    ciphersuiteSteps lib cfg), SetupStep.ok step = true
  params : ∃ name, cfg.dhParams = some name ∧ lib.noDh = false ∧
    lib.reply (.bioNewFile name) = true ∧ lib.reply (.readDhParams name) = true ∧
    lib.reply .setTmpDh = false

/-- Everything has been configured but the verify locations: the exit of a library before
3.0 keeps the context. -/
structure ForgetsCtx : Prop where
  openssl3 : lib.openssl3 = false
  before : ∀ step ∈ setupSteps lib cfg, SetupStep.ok step = true
  locations : lib.trust.verifyLocations cfg = false

namespace SetupStep

variable {steps : List SetupStep} {result : String}

/-- A part that passes leaves the verdict to the rest. -/
theorem verdict_append_of_all {steps' : List SetupStep} (h : ∀ step ∈ steps, step.ok = true) :
    verdict (steps ++ steps') result = verdict steps' (leftBy steps result) := by
  rw [verdict_append, verdict_of_all h, if_pos rfl]

/-- Exits that forget nothing. -/
theorem held_of_thorough (h : ∀ step ∈ steps, step.leaks = 0)
    (hfails : ¬ ∀ step ∈ steps, step.ok = true) : (verdict steps result).held = 0 := by
  obtain ⟨passed, step, rest, rfl, hpassed, hstep⟩ := exists_first hfails
  rw [verdict_of_first hpassed hstep]
  exact h step (by simp)

/-- The verdict of a part that fails is the verdict. -/
theorem verdict_append_of_fails {steps' : List SetupStep}
    (hfails : ¬ ∀ step ∈ steps, step.ok = true) :
    verdict (steps ++ steps') result = verdict steps result := by
  have hok : (verdict steps result).ok = false := by
    rwa [← Bool.not_eq_true, ok_verdict_iff]
  rw [verdict_append, hok, if_neg Bool.false_ne_true]

end SetupStep

theorem thorough_before_dh : ∀ step ∈ { ok := lib.reply (.ctxNew cfg.isServer) } ::
    (cipherSteps lib cfg ++ ciphersuiteSteps lib cfg), SetupStep.leaks step = 0 := by
  intro step hstep
  simp only [cipherSteps, ciphersuiteSteps, List.mem_cons, List.mem_append, List.mem_map] at hstep
  rcases hstep with rfl | ⟨_, -, rfl⟩ | ⟨_, -, rfl⟩ <;> rfl

theorem thorough_after_dh :
    ∀ step ∈ certificateSteps lib cfg ++ privateKeySteps lib cfg, step.leaks = 0 := by
  intro step hstep
  rw [List.mem_append] at hstep
  rcases hstep with hstep | hstep
  · unfold certificateSteps at hstep
    split at hstep <;> simp_all
  · unfold privateKeySteps keySteps at hstep
    split at hstep
    · split at hstep <;> grind
    · simp at hstep

/-- The parameters are the one thing before the verify locations that an exit forgets. -/
theorem held_dhSteps_iff {result : String}
    (hfails : ¬ ∀ step ∈ dhSteps lib cfg, step.ok = true) :
    (SetupStep.verdict (dhSteps lib cfg) result).held = 0 ↔
      ¬(lib.openssl3 = true ∧ ∃ name, cfg.dhParams = some name ∧ lib.noDh = false ∧
        lib.reply (.bioNewFile name) = true ∧ lib.reply (.readDhParams name) = true ∧
        lib.reply .setTmpDh = false) := by
  cases hno : lib.noDh with
  | true =>
      refine iff_of_true ?_ (by simp)
      cases hparams : cfg.dhParams <;> simp [dhSteps, hparams, hno, SetupStep.verdict] at hfails ⊢
  | false =>
      cases hparams : cfg.dhParams with
      | none =>
          refine iff_of_true ?_ (by simp)
          cases hok : lib.reply .setDhAuto <;>
            simp [dhSteps, hparams, hno, hok, SetupStep.verdict] at hfails ⊢
      | some name =>
          cases hbio : lib.reply (.bioNewFile name) <;>
            cases hread : lib.reply (.readDhParams name) <;>
              cases hset : lib.reply .setTmpDh <;> cases hopenssl : lib.openssl3 <;>
                simp [dhSteps, dhFileSteps, hparams, hno, hbio, hread, hset, hopenssl,
                  SetupStep.verdict] at hfails ⊢

/-- The step that forgets the parameters is one that fails. -/
theorem ForgetsDh.fails (h : ForgetsDh lib cfg) : ¬ ∀ step ∈ dhSteps lib cfg, step.ok = true := by
  obtain ⟨name, hname, hno, -, -, hset⟩ := h.params
  intro hall
  simp [dhSteps, dhFileSteps, hname, hno, hset] at hall

theorem ForgetsCtx.dhSteps_ok (h : ForgetsCtx lib cfg) :
    ∀ step ∈ dhSteps lib cfg, step.ok = true := by
  intro step hstep
  exact h.before step (by simp [setupSteps, hstep])

/-- What is held when the checklist is not passed. -/
theorem held_checklist_iff (hfails : ¬ ∀ step ∈ checklist lib cfg, step.ok = true) :
    (SetupStep.verdict (checklist lib cfg) "").held = 0 ↔
      ¬ ForgetsDh lib cfg ∧ ¬ ForgetsCtx lib cfg := by
  have hlist : checklist lib cfg = ({ ok := lib.reply (.ctxNew cfg.isServer) } ::
      (cipherSteps lib cfg ++ ciphersuiteSteps lib cfg)) ++ (dhSteps lib cfg ++
        ((certificateSteps lib cfg ++ privateKeySteps lib cfg) ++ verifySteps lib cfg)) := by
    simp only [checklist, setupSteps, List.cons_append, List.append_assoc]
  have hsetup : ∀ step, step ∈ setupSteps lib cfg ↔
      step ∈ { ok := lib.reply (.ctxNew cfg.isServer) } ::
        (cipherSteps lib cfg ++ ciphersuiteSteps lib cfg) ∨ step ∈ dhSteps lib cfg ∨
      step ∈ certificateSteps lib cfg ++ privateKeySteps lib cfg := by
    intro step
    simp only [setupSteps, List.mem_cons, List.mem_append]
    tauto
  rw [hlist] at hfails ⊢
  -- the part in which the first failing step stands
  by_cases hbefore : ∀ step ∈ { ok := lib.reply (.ctxNew cfg.isServer) } ::
      (cipherSteps lib cfg ++ ciphersuiteSteps lib cfg), SetupStep.ok step = true
  · rw [SetupStep.verdict_append_of_all hbefore]
    by_cases hdh : ∀ step ∈ dhSteps lib cfg, step.ok = true
    · rw [SetupStep.verdict_append_of_all hdh]
      have hnodh : ¬ ForgetsDh lib cfg := fun h => h.fails lib cfg hdh
      by_cases hafter : ∀ step ∈ certificateSteps lib cfg ++ privateKeySteps lib cfg,
          step.ok = true
      · -- the verify locations do not load, and the library is one before 3.0
        have hverify : (lib.openssl3 || lib.trust.verifyLocations cfg) = false := by
          rw [← Bool.not_eq_true]
          intro hok
          refine hfails (List.forall_mem_append.mpr ⟨hbefore, List.forall_mem_append.mpr ⟨hdh,
            List.forall_mem_append.mpr ⟨hafter, ?_⟩⟩⟩)
          simpa [verifySteps] using hok
        rw [SetupStep.verdict_append_of_all hafter, verifySteps, SetupStep.verdict, hverify,
          if_neg Bool.false_ne_true]
        rw [Bool.or_eq_false_iff] at hverify
        refine iff_of_false (Multiset.singleton_ne_zero _) fun h => h.2 ⟨hverify.1, ?_, hverify.2⟩
        intro step hstep
        rcases (hsetup step).mp hstep with h | h | h
        · exact hbefore step h
        · exact hdh step h
        · exact hafter step h
      · rw [SetupStep.verdict_append_of_fails hafter,
          SetupStep.held_of_thorough (thorough_after_dh lib cfg) hafter]
        refine iff_of_true rfl ⟨hnodh, fun h => hafter fun step hstep => ?_⟩
        exact h.before step ((hsetup step).mpr (.inr (.inr hstep)))
    · rw [SetupStep.verdict_append_of_fails hdh, held_dhSteps_iff lib cfg hdh]
      have hnoctx : ¬ ForgetsCtx lib cfg := fun h => hdh (h.dhSteps_ok lib cfg)
      refine ⟨fun h => ⟨fun hforgets => h ⟨hforgets.openssl3, hforgets.params⟩, hnoctx⟩,
        fun h hparams => h.1 ⟨hparams.1, hbefore, hparams.2⟩⟩
  · rw [SetupStep.verdict_append_of_fails hbefore,
      SetupStep.held_of_thorough (thorough_before_dh lib cfg) hbefore]
    refine iff_of_true rfl ⟨fun h => hbefore h.before, fun h => hbefore fun step hstep => ?_⟩
    exact h.before step ((hsetup step).mpr (.inl hstep))

end Released

/-! ## What the password script leaves

`PasswordCallback` returns with the password in the interpreter's result.  The exits for a
private key that does not load flush it; the other exits append to it. -/

/-- The same library with other scripts: whatever a script ended with, it ends with what `f`
makes of it. -/
def CtxLibrary.withScripts (f : CtxInitCall → EvalOutcome → EvalOutcome) : CtxLibrary C N :=
  { lib with
    reply
      | .useCertificateFile name =>
          let l := lib.reply (.useCertificateFile name)
          ⟨l.ok, l.asked.map (f (.useCertificateFile name))⟩
      | .usePrivateKeyFile name =>
          let l := lib.reply (.usePrivateKeyFile name)
          ⟨l.ok, l.asked.map (f (.usePrivateKeyFile name))⟩
      | .ctxNew isServer => lib.reply (.ctxNew isServer)
      | .ctxFree => ()
      | .setCipherList ciphers => lib.reply (.setCipherList ciphers)
      | .setCiphersuites ciphersuites => lib.reply (.setCiphersuites ciphersuites)
      | .f2n _ => ()
      | .dstringFree => ()
      | .bioNewFile name => lib.reply (.bioNewFile name)
      | .bioFree => ()
      | .readDhParams name => lib.reply (.readDhParams name)
      | .setTmpDh => lib.reply .setTmpDh
      | .dhFree => ()
      | .setDhAuto => lib.reply .setDhAuto
      | .useCertificateAsn1 len cert => lib.reply (.useCertificateAsn1 len cert)
      | .usePrivateKeyAsn1 key len => lib.reply (.usePrivateKeyAsn1 key len)
      | .checkPrivateKey => lib.reply .checkPrivateKey }

namespace SetupStep

/-- Two steps that differ in their scripts at most, and there by `P`. -/
structure Alike (P : EvalOutcome → EvalOutcome → Prop) (step step' : SetupStep) : Prop where
  ok : step'.ok = step.ok
  asked : Option.Rel P step.asked step'.asked
  flushes : step'.flushes = step.flushes
  text : step'.text = step.text
  reason : step'.reason = step.reason

/-- The step that fails does not flush the result, and a script has been asked by then. -/
def reveals : Bool → List SetupStep → Bool
  | _, [] => false
  | asked, step :: steps =>
      if step.ok then reveals (asked || step.asked.isSome) steps
      else (asked || step.asked.isSome) && !step.flushes

variable {P : EvalOutcome → EvalOutcome → Prop} {steps steps' : List SetupStep}
  {step step' : SetupStep} {result result' : String} {asked : Bool}

theorem Alike.of_silent (h : step.asked = none) : Alike P step step := by
  refine ⟨rfl, ?_, rfl, rfl, rfl⟩
  rw [h]
  exact .none

theorem Alike.isSome (h : Alike P step step') : step'.asked.isSome = step.asked.isSome := by
  have hasked := h.asked
  cases hstep : step.asked <;> cases hstep' : step'.asked <;> rw [hstep, hstep'] at hasked <;>
    first
      | rfl
      | cases hasked

/-- A step that asks no script leaves the result as it was. -/
theorem leaves_of_silent (h : step.asked.isSome = false) : step.leaves result = result := by
  have hasked : step.asked = none := by simpa using h
  simp [leaves, FileLoad.leaves, hasked]

/-- Where nothing is revealed, the message does not depend on the scripts. -/
theorem result_of_concealed (h : List.Forall₂ (Alike P) steps steps')
    (hresult : asked = false → result' = result) (hreveals : reveals asked steps = false)
    (hfails : (verdict steps result).ok = false) :
    (verdict steps' result').result = (verdict steps result).result := by
  induction h generalizing asked result result' with
  | nil => contradiction
  | @cons step step' steps steps' hstep hsteps ih =>
      have hleaves : (asked || step.asked.isSome) = false →
          step'.leaves result' = step.leaves result := by
        intro hsilent
        rw [Bool.or_eq_false_iff] at hsilent
        rw [leaves_of_silent (hstep.isSome.trans hsilent.2), leaves_of_silent hsilent.2,
          hresult hsilent.1]
      rw [verdict, hstep.ok]
      rw [verdict] at hfails ⊢
      rw [reveals] at hreveals
      cases hok : step.ok with
      | true =>
          rw [hok, if_pos rfl] at hfails hreveals
          rw [if_pos rfl, if_pos rfl]
          exact ih hleaves hreveals hfails
      | false =>
          rw [hok, if_neg Bool.false_ne_true] at hreveals
          rw [if_neg Bool.false_ne_true, if_neg Bool.false_ne_true]
          show step'.fails result' = step.fails result
          rw [fails, fails, hstep.flushes, hstep.text, hstep.reason]
          cases hflushes : step.flushes with
          | true => rfl
          | false =>
              have hsilent : (asked || step.asked.isSome) = false := by
                simpa [hflushes] using hreveals
              rw [hleaves hsilent]

/-- Something is revealed only by a failure. -/
theorem fails_of_reveals (h : reveals asked steps = true) : (verdict steps result).ok = false := by
  induction steps generalizing asked result with
  | nil => contradiction
  | cons step steps ih =>
      rw [reveals] at h
      rw [verdict]
      split at h
      next hok =>
        rw [if_pos hok]
        exact ih h
      next hok => rw [if_neg hok]

/-- Scripts that all add an `x` to what they leave show it where something is revealed. -/
theorem result_of_revealed
    (h : List.Forall₂ (Alike fun o o' => o'.left = o.left ++ "x") steps steps')
    (hresult : asked = true → result' = result ++ "x") (hreveals : reveals asked steps = true) :
    (verdict steps' result').result ≠ (verdict steps result).result := by
  induction h generalizing asked result result' with
  | nil => contradiction
  | @cons step step' steps steps' hstep hsteps ih =>
      have hleaves : (asked || step.asked.isSome) = true →
          step'.leaves result' = step.leaves result ++ "x" := by
        intro hsome
        have hrel := hstep.asked
        cases hfirst : step.asked with
        | none =>
            have hsilent : step.asked.isSome = false := by rw [hfirst]; rfl
            rw [leaves_of_silent (hstep.isSome.trans hsilent), leaves_of_silent hsilent]
            exact hresult (by simpa [hfirst] using hsome)
        | some o =>
            cases hsecond : step'.asked with
            | none => rw [hfirst, hsecond] at hrel; cases hrel
            | some o' =>
                rw [hfirst, hsecond] at hrel
                cases hrel with
                | some hleft => simpa [leaves, FileLoad.leaves, hfirst, hsecond] using hleft
      rw [verdict, hstep.ok, verdict]
      rw [reveals] at hreveals
      cases hok : step.ok with
      | true =>
          rw [hok, if_pos rfl] at hreveals
          rw [if_pos rfl, if_pos rfl]
          exact ih hleaves hreveals
      | false =>
          rw [hok, if_neg Bool.false_ne_true, Bool.and_eq_true, Bool.not_eq_true'] at hreveals
          rw [if_neg Bool.false_ne_true, if_neg Bool.false_ne_true]
          show step'.fails result' ≠ step.fails result
          rw [fails, fails, hstep.flushes, hstep.text, hstep.reason, hreveals.2,
            if_neg Bool.false_ne_true, if_neg Bool.false_ne_true, hleaves hreveals.1]
          intro hsame
          have hlength := congrArg String.length hsame
          simp only [String.length_append] at hlength
          have hx : "x".length = 1 := rfl
          omega

end SetupStep

section Scripts

variable {f : CtxInitCall → EvalOutcome → EvalOutcome} {P : EvalOutcome → EvalOutcome → Prop}

theorem forall₂_alike_of_silent {steps : List SetupStep} (h : ∀ step ∈ steps, step.asked = none) :
    List.Forall₂ (SetupStep.Alike P) steps steps :=
  List.forall₂_same.mpr fun step hstep => .of_silent (h step hstep)

/-- Other scripts make for a checklist that differs in them only. -/
theorem checklist_alike (hP : ∀ e o, P o (f e o)) :
    List.Forall₂ (SetupStep.Alike P) (checklist lib cfg) (checklist (lib.withScripts f) cfg) := by
  have hrel : ∀ e (o : Option EvalOutcome), Option.Rel P o (o.map (f e)) := by
    intro e o
    cases o with
    | none => exact .none
    | some o => exact .some (hP e o)
  refine List.rel_append (.cons (.of_silent rfl) (List.rel_append ?_ (List.rel_append ?_
    (List.rel_append ?_ (List.rel_append ?_ ?_))))) ?_
  · exact forall₂_alike_of_silent (by simp [cipherSteps])
  · exact forall₂_alike_of_silent (by simp [ciphersuiteSteps])
  · show List.Forall₂ _ (dhSteps lib cfg) (dhSteps lib cfg)
    refine forall₂_alike_of_silent fun step hstep => ?_
    unfold dhSteps dhFileSteps at hstep
    split at hstep <;> grind
  · unfold certificateSteps
    split
    · exact .cons ⟨rfl, hrel _ _, rfl, rfl, rfl⟩ .nil
    · exact .cons (.of_silent rfl) .nil
    · exact .cons ⟨rfl, hrel _ _, rfl, rfl, rfl⟩ .nil
  · unfold privateKeySteps keySteps
    split
    · refine List.rel_append ?_ (.cons (.of_silent rfl) .nil)
      split
      · exact .cons ⟨rfl, hrel _ _, rfl, rfl, rfl⟩ .nil
      · exact .cons (.of_silent rfl) .nil
      · exact .nil
    · exact .nil
  · exact .cons (.of_silent rfl) .nil

variable [DecidableEq C]

/-- **The password stays hidden** in the message of a `CTX_Init` that fails, whatever the
script leaves, exactly where the step that fails flushes the result or comes before any script
is asked: the exits for a certificate file, for a key that does not match its certificate, and
for the verify locations of a library before 3.0 do not flush. -/
theorem ctxInit_conceals_iff (trust : TrustCtx C N) :
    ((runCtxInit lib cfg trust).1 = false → ∀ f,
        (runCtxInit (lib.withScripts f) cfg trust).2.st.result =
          (runCtxInit lib cfg trust).2.st.result) ↔
      SetupStep.reveals false (checklist lib cfg) = false := by
  have hresult : ∀ lib : CtxLibrary C N, (runCtxInit lib cfg trust).2.st.result =
      (SetupStep.verdict (checklist lib cfg) "").result := fun lib =>
    congrArg SetupVerdict.result (run_ctxInit lib cfg trust).2.1
  have hok : (runCtxInit lib cfg trust).1 = (SetupStep.verdict (checklist lib cfg) "").ok :=
    congrArg SetupVerdict.ok (run_ctxInit lib cfg trust).2.1
  simp only [hresult, hok]
  constructor
  · intro hconceals
    rw [← Bool.not_eq_true]
    intro hreveals
    have hlonger := checklist_alike lib cfg (f := fun _ o => ⟨tclOk, o.left ++ "x"⟩)
      (P := fun o o' => o'.left = o.left ++ "x") fun _ o => rfl
    have hfirst : false = true → "" = "" ++ "x" := nofun
    exact SetupStep.result_of_revealed hlonger hfirst hreveals
      (hconceals (SetupStep.fails_of_reveals hreveals) _)
  · intro hreveals hfails f
    exact SetupStep.result_of_concealed (checklist_alike (P := fun _ _ => True) lib cfg
      fun _ _ => trivial) (fun _ => rfl) hreveals hfails

end Scripts

end TclTls
