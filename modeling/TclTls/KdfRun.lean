import Mathlib.Algebra.Order.BigOperators.Group.List
import Mathlib.Data.Multiset.OrderedMonoid
import TclTls.Kdf

/-!
# TclTls.KdfRun

What the key derivation commands return, what they release, and what they leave on the
stack.

Each piece of the code is shown once to own what it uses, with a postcondition on the
value, the array and the handles.  The option loop comes to what the reader of the
command says (`kdfOptions_owns`), the derivation to what the variables say
(`derive_owns`), and a command to both (`main_owns`).  The results are about runs:
`kdf_returns_iff` for the value, `kdf_released_iff` for the handles, and `pbkdf2_array`.
-/

namespace TclTls

open Interaction
open Interaction.Program (state update)
open Resource Settings

variable (lib : KdfLibrary)

/-! ## Custody -/

/-- Which handles the calls acquire, need and release.  No call releases an algorithm. -/
@[simps]
def kdfCustody : Custody KdfCall.Ans KdfHandle where
  needs
    | .pbkdf2 _ _ _ _ _ => lib.reference .md
    | .configure (.md _) => {.ctx} + lib.reference .md
    | .configure _ => {.ctx}
    | .derive _ => {.ctx, .obj}
    | .setLength _ | .setResult | .decrRef => {.obj}
    | .ctxFree => {.ctx}
    | _ => 0
  gives
    | .setResult, _ | .decrRef, _ => {.obj}
    | .ctxFree, _ => {.ctx}
    | _, _ => 0
  takes
    | .fetchCipher _, found => if found.isSome then lib.reference .cipher else 0
    | .fetchDigest _, found => if found.isSome then lib.reference .md else 0
    | .ctxNew _, ok => if ok then {.ctx} else 0
    | .newObj, _ => {.obj}
    | _, _ => 0
  answers e r := r = lib.reply e

section Options

variable {lib} {cmd : KdfCommand} {buf : List UInt8} {v : KdfVars} {held : Multiset KdfHandle}

/-- The code of an option does what is said of it. -/
theorem KdfAction.code_owns (a : KdfAction) :
    (kdfCustody lib).Owns
      (fun r buf' held' => buf' = buf ∧ r = (a.outcome lib held).map Prod.fst ∧
        held' = ((a.outcome lib held).toOption.map Prod.snd).getD held) a.code buf held := by
  cases a with
  | cipher name set =>
      cases hfetch : lib.reply (.fetchCipher name) <;>
        simp [code, outcome, Custody.after, hfetch, Except.map, Except.toOption]
  | digest name set =>
      cases hfetch : lib.reply (.fetchDigest name) <;>
        simp [code, outcome, Custody.after, hfetch, Except.map, Except.toOption]
  | assign r => cases r <;> simp [code, outcome, Except.map, Except.toOption]

/-- **The option loop** is the reader. -/
theorem kdfOptions_owns (words : List Obj) :
    (kdfCustody lib).Owns
      (fun r buf' held' => buf' = buf ∧
        r = (Reader.result ((kdfReader lib cmd).read words (v, held))).map Prod.fst ∧
        held' = (Reader.reached ((kdfReader lib cmd).read words (v, held))).2)
      (kdfOptions (cmd.opt lib) words v) buf held := by
  fun_induction kdfOptions (cmd.opt lib) words v generalizing held with
  | case1 v => exact ⟨rfl, rfl, rfl⟩
  | case2 v word e hindex =>
      simp [Reader.read, Reader.result, Reader.reached, kdfReader, hindex, Except.map,
        Except.mapError]
  | case3 v word fn hindex =>
      simp [Reader.read, Reader.result, Reader.reached, kdfReader, hindex, Except.map,
        Except.mapError]
  | case4 word value words v e hindex =>
      simp [Reader.read, Reader.result, Reader.reached, kdfReader, hindex, Except.map,
        Except.mapError]
  | case5 word value words v fn hindex ih =>
      rw [Custody.owns_bind]
      refine (KdfAction.code_owns (cmd.opt lib fn value v)).mono fun r buf' held' h => ?_
      obtain ⟨rfl, rfl, rfl⟩ := h
      cases houtcome : (cmd.opt lib fn value v).outcome lib held with
      | error e =>
          rw [Reader.read_of_refused hindex rfl houtcome]
          exact ⟨rfl, rfl, rfl⟩
      | ok r =>
          rw [Reader.read_of_assigned hindex rfl houtcome]
          exact ih r.1

theorem acquires_of_digest {fn : KdfOpt} (hheeds : fn ∈ cmd.heeds)
    (hfn : fn ∈ [KdfOpt.digest, .hash]) : cmd.acquires lib fn = lib.reference .md := by
  unfold KdfCommand.acquires
  rw [if_pos hheeds]
  cases fn <;> first | rfl | simp at hfn

/-- A digest that has been found is held. -/
def HoldsMd (lib : KdfLibrary) (r : KdfVars × Multiset KdfHandle) : Prop :=
  r.1.md.isSome → lib.reference .md ≤ r.2

theorem kdfRead_holdsMd {objv : List Obj} {r : KdfVars × Multiset KdfHandle}
    (hread : kdfRead lib cmd objv = .ok r) : HoldsMd lib r := by
  refine (Reader.steps_of_read hread).invariant (fun s r r' hdoes hr => ?_) nofun
  obtain ⟨fn, value, -, hset, hacquires⟩ := kdfReader_does hdoes
  intro hmd
  rw [hacquires]
  by_cases hfn : fn ∈ cmd.heeds ∧ fn ∈ [KdfOpt.digest, .hash]
  · rw [acquires_of_digest hfn.1 hfn.2]
    exact Multiset.le_add_left _ _
  · have hkept : r'.1.md = r.1.md := by
      rw [hset]
      exact if_neg hfn
    rw [hkept] at hmd
    exact (hr hmd).trans (Multiset.le_add_right _ _)

end Options

/-! ## Derivation -/

/-- The value made of what has been derived: all of it, or a key and an IV. -/
def KdfVars.Splits (v : KdfVars) (out : List UInt8) (value : KdfValue) : Prop :=
  match v.cipher with
  | none => value = .bytes out
  | some cipher => ∃ key iv, value = .keyIv key iv ∧ key ++ iv = out ∧
      key.length = cipher.keyLength ∧ iv.length = cipher.ivLength

/-- The context is created and configured. -/
def KdfLibrary.configures (id : KdfId) (params : List (KdfParam × String)) : Bool :=
  lib.reply (.ctxNew id) && params.all fun param => lib.reply (.configure param.1)

/-- And it derives. -/
structure ContextDerives (id : KdfId) (params : List (KdfParam × String)) (dkLen : Int)
    (value : KdfValue) : Prop where
  configures : lib.configures id params = true
  room : lib.reply (.setLength dkLen) = true
  derives : ∃ out, lib.reply (.derive dkLen) = some out ∧ value = .bytes out

/-- What is derived from the options. -/
def KdfCommand.Derives (v : KdfVars) (value : KdfValue) : KdfCommand → Prop
  | .pbkdf2 => ∃ md, v.md = some md ∧ (lib.reply (v.pbkdf2 md)).ok = true ∧
      v.Splits (lib.reply (v.pbkdf2 md)).out value
  | .hkdf => v.pass.isSome ∧ ∃ md, v.md = some md ∧
      ContextDerives lib .hkdf (hkdfParams v md) v.dkLen value
  | .scrypt => v.pass.isSome ∧ v.salt.isSome ∧
      ContextDerives lib .scrypt (scryptParams v) v.dkLen value

/-- The array after `KDF_PBKDF2`. -/
def KdfVars.leaves (v : KdfVars) (buf : List UInt8) : List UInt8 :=
  match v.md with
  | none => buf
  | some md =>
      let derived := lib.reply (v.pbkdf2 md)
      if derived.ok then List.replicate kdfBufLen 0
      else derived.out ++ buf.drop derived.out.length

/-- The object that is lost with a context. -/
def KdfLibrary.lostObj (id : KdfId) (params : List (KdfParam × String))
    (dkLen : Int) : Multiset KdfHandle :=
  if lib.configures id params && !lib.reply (.setLength dkLen) then {.obj} else 0

namespace KdfCommand

/-- The object that a command loses, when the options have been read. -/
def lost (v : KdfVars) : KdfCommand → Multiset KdfHandle
  | .pbkdf2 => 0
  | .hkdf =>
      match v.md, v.pass with
      | some md, some _ => lib.lostObj .hkdf (hkdfParams v md) v.dkLen
      | _, _ => 0
  | .scrypt =>
      match v.pass, v.salt with
      | some _, some _ => lib.lostObj .scrypt (scryptParams v) v.dkLen
      | _, _ => 0

/-- Only `KDF_PBKDF2` has an array. -/
def leaves (v : KdfVars) (buf : List UInt8) : KdfCommand → List UInt8
  | .pbkdf2 => v.leaves lib buf
  | _ => buf

end KdfCommand

section Derivation

variable {lib} {v : KdfVars} {held : Multiset KdfHandle} {buf : List UInt8}

theorem value_append_eq_iff {out : List UInt8} (hout : out.length = (v.sizes.1 + v.sizes.2).toNat)
    (rest : List UInt8) (value : KdfValue) :
    v.value (out ++ rest) = value ↔ v.Splits out value := by
  unfold KdfVars.value KdfVars.Splits
  cases hcipher : v.cipher with
  | none =>
      have hlength : v.sizes.1.toNat = out.length := by
        simp [hout, KdfVars.sizes, hcipher]
      rw [hlength, List.take_left, eq_comm]
  | some cipher =>
      have hsizes : v.sizes = ((cipher.keyLength : Int), (cipher.ivLength : Int)) := by
        simp [KdfVars.sizes, hcipher]
      rw [hsizes] at hout ⊢
      have hlength : out.length = cipher.keyLength + cipher.ivLength := by
        dsimp only at hout
        omega
      have hkey : (out ++ rest).take cipher.keyLength = out.take cipher.keyLength :=
        List.take_append_of_le_length (by omega)
      have hiv : ((out ++ rest).drop cipher.keyLength).take cipher.ivLength =
          out.drop cipher.keyLength := by
        have hrest : cipher.ivLength = (out.drop cipher.keyLength).length := by
          rw [List.length_drop]
          omega
        rw [List.drop_append_of_le_length (by omega), hrest, List.take_left]
      simp only [Int.toNat_natCast, hkey, hiv]
      constructor
      · rintro rfl
        refine ⟨_, _, rfl, List.take_append_drop _ _, ?_, ?_⟩
        · rw [List.length_take]
          omega
        · rw [List.length_drop]
          omega
      · rintro ⟨key, iv, rfl, rfl, hkeyLength, -⟩
        rw [← hkeyLength, List.take_left, List.drop_left]

/-- `KDF_PBKDF2`, when the options have been read. -/
theorem pbkdf2Derive_owns (hmd : v.md.isSome → lib.reference .md ≤ held) :
    (kdfCustody lib).Owns
      (fun r buf' held' => held' = held ∧ buf' = v.leaves lib buf ∧
        ∀ value, r = .ok value ↔ KdfCommand.pbkdf2.Derives lib v value)
      (pbkdf2Derive lib v) buf held := by
  cases hv : v.md with
  | none => simp [pbkdf2Derive, hv, KdfCommand.Derives, KdfVars.leaves]
  | some md =>
      have hneeds : lib.reference .md ≤ held := hmd (by rw [hv]; rfl)
      have hout := (lib.reply (v.pbkdf2 md)).length_eq
      have hvalue := fun rest value => @value_append_eq_iff v _ hout rest value
      rw [pbkdf2Derive, hv]
      cases hok : (lib.reply (v.pbkdf2 md)).ok with
      | true =>
          simp [KdfCommand.Derives, KdfVars.leaves, Custody.after, hv, hok, hneeds, hvalue]
      | false => simp [KdfCommand.Derives, KdfVars.leaves, Custody.after, hv, hok, hneeds]

theorem kdfConfigure_owns {params : List (KdfParam × String)}
    (hneeds : ∀ param ∈ params, (kdfCustody lib).needs (.configure param.1) ≤ held) :
    (kdfCustody lib).Owns
      (fun r buf' held' => held' = held ∧ buf' = buf ∧
        (r = .ok () ↔ ∀ param ∈ params, lib.reply (.configure param.1) = true))
      (kdfConfigure lib params) buf held := by
  induction params with
  | nil => simp [kdfConfigure]
  | cons param params ih =>
      obtain ⟨hfirst, hrest⟩ := List.forall_mem_cons.mp hneeds
      rw [kdfConfigure, Custody.owns_bind, Custody.owns_node_call]
      refine ⟨hfirst, fun ok hok => ?_⟩
      have hanswer : ok = lib.reply (.configure param.1) := hok
      have hafter : (kdfCustody lib).after held (.configure param.1) ok = held := by
        simp [Custody.after]
      rw [hafter, Custody.owns_node_pure, hanswer]
      cases hreply : lib.reply (.configure param.1) with
      | true => simpa [hreply] using ih hrest
      | false => simp [hreply]

/-- The object is lost if it gets no memory. -/
theorem kdfOutput_owns (dkLen : Int) (hctx : KdfHandle.ctx ∈ held) :
    (kdfCustody lib).Owns
      (fun r buf' held' => buf' = buf ∧
        held' = held + (if lib.reply (.setLength dkLen) then 0 else {.obj}) ∧
        ∀ value, r = .ok value ↔ lib.reply (.setLength dkLen) = true ∧
          ∃ out, lib.reply (.derive dkLen) = some out ∧ value = .bytes out)
      (kdfOutput lib dkLen) buf held := by
  have hneeds : KdfHandle.ctx ::ₘ {KdfHandle.obj} ≤ held + {KdfHandle.obj} :=
    Multiset.add_le_add_right (Multiset.singleton_le.mpr hctx)
  have herase : (held + {KdfHandle.obj}).erase KdfHandle.obj = held := by
    rw [Multiset.add_comm, Multiset.singleton_add, Multiset.erase_cons_head]
  cases hroom : lib.reply (.setLength dkLen) with
  | false => simp [kdfOutput, Custody.after, hroom]
  | true =>
      cases hderive : lib.reply (.derive dkLen) with
      | none =>
          simp [kdfOutput, Custody.after, hroom, hderive, hneeds, herase]
      | some out =>
          simp [kdfOutput, Custody.after, hroom, hderive, hneeds, herase]
          exact fun value => eq_comm

/-- `KDF_HKDF` and `KDF_Scrypt`, when nothing is missing. -/
theorem kdfContext_owns {id : KdfId} {params : List (KdfParam × String)} (dkLen : Int)
    (hneeds : ∀ param ∈ params, (kdfCustody lib).needs (.configure param.1) ≤ held + {.ctx}) :
    (kdfCustody lib).Owns
      (fun r buf' held' => buf' = buf ∧ held' = held + lib.lostObj id params dkLen ∧
        ∀ value, r = .ok value ↔ ContextDerives lib id params dkLen value)
      (kdfContext lib id params dkLen) buf held := by
  have hderives : ∀ value, ContextDerives lib id params dkLen value ↔
      lib.configures id params = true ∧ lib.reply (.setLength dkLen) = true ∧
        ∃ out, lib.reply (.derive dkLen) = some out ∧ value = .bytes out := by
    intro value
    constructor
    · intro h
      exact ⟨h.configures, h.room, h.derives⟩
    · intro h
      exact ⟨h.1, h.2.1, h.2.2⟩
  simp only [hderives]
  cases hnew : lib.reply (.ctxNew id) with
  | false =>
      simp [kdfContext, KdfLibrary.lostObj, KdfLibrary.configures, Custody.after, hnew]
  | true =>
      have hctx : KdfHandle.ctx ∈ held + {.ctx} :=
        Multiset.mem_add.mpr (.inr (Multiset.mem_singleton_self _))
      have hfree : ∀ lost : Multiset KdfHandle,
          (kdfCustody lib).after (held + {.ctx} + lost) .ctxFree () = held + lost := by
        intro lost
        have hcons : held + {KdfHandle.ctx} + lost = KdfHandle.ctx ::ₘ (held + lost) := by
          rw [Multiset.add_comm held, Multiset.singleton_add, Multiset.cons_add]
        simp [Custody.after, hcons]
      rw [kdfContext, Custody.owns_bind, Custody.owns_node_call]
      refine ⟨Multiset.zero_le _, fun ok hok => ?_⟩
      have hanswer : ok = true := Eq.trans hok hnew
      have hafter : (kdfCustody lib).after held (.ctxNew id) ok = held + {.ctx} := by
        simp [Custody.after, hanswer]
      rw [hafter, Custody.owns_node_pure, hanswer, if_pos rfl, Custody.owns_bind]
      refine (kdfConfigure_owns hneeds).mono fun r buf' held' h => ?_
      obtain ⟨rfl, rfl, hr⟩ := h
      have hall : (∀ param ∈ params, lib.reply (.configure param.1) = true) ↔
          lib.configures id params = true := by
        simp [KdfLibrary.configures, hnew]
      rw [hall] at hr
      cases r with
      | error e =>
          have hnot : lib.configures id params = false := by
            rw [Bool.eq_false_iff]
            intro h
            have hok := hr.mpr h
            contradiction
          rw [Custody.owns_bind, Custody.owns_node_call]
          refine ⟨Multiset.singleton_le.mpr hctx, fun u _ => ?_⟩
          have hafter := hfree 0
          rw [Multiset.add_zero, Multiset.add_zero] at hafter
          rw [hafter]
          simp [KdfLibrary.lostObj, hnot]
      | ok u =>
          have hconfigures := hr.mp rfl
          dsimp only
          rw [Custody.owns_bind]
          refine (kdfOutput_owns dkLen hctx).mono fun r buf'' held'' h => ?_
          obtain ⟨rfl, rfl, hr⟩ := h
          rw [Custody.owns_bind, Custody.owns_node_call]
          refine ⟨Multiset.singleton_le.mpr (Multiset.mem_add.mpr (.inl hctx)), fun u _ => ?_⟩
          rw [hfree]
          refine ⟨rfl, ?_, fun value => ?_⟩
          · cases hroom : lib.reply (.setLength dkLen) <;>
              simp [KdfLibrary.lostObj, hconfigures, hroom]
          · rw [hr, hconfigures, and_iff_right rfl]

namespace KdfCommand

theorem needs_configure {param : KdfParam} (hmd : ∀ md, param = .md md → lib.reference .md ≤ held) :
    (kdfCustody lib).needs (.configure param) ≤ held + {.ctx} := by
  cases param with
  | md md =>
      have hneeds : (kdfCustody lib).needs (.configure (.md md)) = {.ctx} + lib.reference .md := rfl
      rw [hneeds, Multiset.add_comm]
      exact Multiset.add_le_add_right (hmd md rfl)
  | _ => exact Multiset.le_add_left _ _

theorem scryptParams_ne_md {param : KdfParam × String} (hparam : param ∈ scryptParams v) (md : Md) :
    param.1 ≠ .md md := by
  rintro hmd
  obtain ⟨param, text⟩ := param
  cases hmd
  simp only [scryptParams, List.mem_append, List.mem_ite_nil_right] at hparam
  simp at hparam

/-- **The derivation**, when the options have been read. -/
theorem derive_owns (cmd : KdfCommand) (hmd : HoldsMd lib (v, held)) :
    (kdfCustody lib).Owns
      (fun r buf' held' => held' = held + cmd.lost lib v ∧ buf' = cmd.leaves lib v buf ∧
        ∀ value, r = .ok value ↔ cmd.Derives lib v value)
      (cmd.derive lib v) buf held := by
  cases cmd with
  | pbkdf2 =>
      refine (pbkdf2Derive_owns hmd).mono fun r buf' held' h => ?_
      rwa [lost, Multiset.add_zero]
  | hkdf =>
      cases hdigest : v.md with
      | none => simp [derive, hkdfDerive, hdigest, lost, leaves, Derives]
      | some md =>
          cases hkey : v.pass with
          | none => simp [derive, hkdfDerive, hdigest, hkey, lost, leaves, Derives]
          | some key =>
              have hheld : lib.reference .md ≤ held := hmd (by rw [hdigest]; rfl)
              have hcontext := @kdfContext_owns lib held buf .hkdf (hkdfParams v md) v.dkLen
                fun param _ => needs_configure fun _ _ => hheld
              simpa [derive, hkdfDerive, hdigest, hkey, lost, leaves, Derives, and_left_comm]
                using hcontext
  | scrypt =>
      cases hpass : v.pass with
      | none => simp [derive, scryptDerive, hpass, lost, leaves, Derives]
      | some pass =>
          cases hsalt : v.salt with
          | none => simp [derive, scryptDerive, hpass, hsalt, lost, leaves, Derives]
          | some salt =>
              have hcontext := @kdfContext_owns lib held buf .scrypt (scryptParams v) v.dkLen
                fun param hparam => needs_configure fun md hparam' =>
                  absurd hparam' (scryptParams_ne_md hparam md)
              simpa [derive, scryptDerive, hpass, hsalt, lost, leaves, Derives, and_left_comm]
                using hcontext

end KdfCommand

end Derivation

/-! ## The commands -/

namespace KdfCommand

variable (cmd : KdfCommand) (objv : List Obj)

/-- The number of arguments is right. -/
def Counts : Prop := cmd.objc.1 ≤ objv.length ∧ objv.length ≤ cmd.objc.2

instance : Decidable (cmd.Counts objv) := inferInstanceAs (Decidable (_ ∧ _))

/-- What a setting acquires. -/
def adds (cmd : KdfCommand) : Setting KdfOpt Obj → Multiset KdfHandle
  | .value fn _ => cmd.acquires lib fn
  | _ => 0

/-- What the options acquire that are taken, be it that a later one is refused. -/
def acquired : Multiset KdfHandle :=
  (((kdfReader lib cmd).made objv.tail ({ dkLen := cmd.dkLen }, 0)).map (cmd.adds lib)).sum

/-- The handles that are held in the end. -/
def leaks : Multiset KdfHandle :=
  if cmd.Counts objv then
    cmd.acquired lib objv +
      match kdfRead lib cmd objv with
      | .ok r => cmd.lost lib r.1
      | .error _ => 0
  else 0

/-- The array before the options are read. -/
def cleared (buf : List UInt8) : KdfCommand → List UInt8
  | .pbkdf2 => List.replicate kdfBufLen 0
  | _ => buf

/-- The array in the end. -/
def array (buf : List UInt8) : List UInt8 :=
  if cmd.Counts objv then
    match kdfRead lib cmd objv with
    | .ok r => cmd.leaves lib r.1 (cmd.cleared buf)
    | .error _ => cmd.cleared buf
  else buf

/-- The command returns the value. -/
def Returns (value : KdfValue) : Prop :=
  cmd.Counts objv ∧ ∃ ps, (kdfReader lib cmd).pairs objv.tail = some ps ∧
    (∀ p ∈ ps, cmd.Takes lib p) ∧ cmd.Derives lib (cmd.chosen lib ps) value

variable {lib cmd objv} {buf : List UInt8}

theorem reached_eq_acquired :
    (Reader.reached (kdfRead lib cmd objv)).2 = cmd.acquired lib objv := by
  have hsteps := Reader.steps_reached (t := kdfReader lib cmd) objv.tail ({ dkLen := cmd.dkLen }, 0)
  have hadds : ∀ s r r', (kdfReader lib cmd).Does s r r' → r'.2 = r.2 + cmd.adds lib s := by
    intro s r r' hdoes
    obtain ⟨fn, value, rfl, -, hacquires⟩ := kdfReader_does hdoes
    exact hacquires
  have hsum := @Reader.Steps.sum _ _ _ _ _ _ _ Prod.snd (cmd.adds lib) _ _ _ hsteps hadds
  rw [kdfRead, hsum, zero_add, acquired]

/-- The option loop and the derivation. -/
theorem body_owns :
    (kdfCustody lib).Owns
      (fun r buf' held' =>
        held' = cmd.acquired lib objv +
          (match kdfRead lib cmd objv with
            | .ok r => cmd.lost lib r.1
            | .error _ => 0) ∧
        buf' = (match kdfRead lib cmd objv with
          | .ok r => cmd.leaves lib r.1 buf
          | .error _ => buf) ∧
        ∀ value, r = .ok value ↔
          ∃ v held, kdfRead lib cmd objv = .ok (v, held) ∧ cmd.Derives lib v value)
      (kdfOptions (cmd.opt lib) objv.tail { dkLen := cmd.dkLen } >>= fun r =>
        match r with
        | .error e => pure (.error e)
        | .ok v => cmd.derive lib v) buf 0 := by
  rw [Custody.owns_bind]
  refine (kdfOptions_owns objv.tail).mono fun r buf' held' h => ?_
  obtain ⟨rfl, rfl, rfl⟩ := h
  have hread : (kdfReader lib cmd).read objv.tail ({ dkLen := cmd.dkLen }, 0) =
      kdfRead lib cmd objv := rfl
  rw [hread, ← reached_eq_acquired]
  cases hkdf : kdfRead lib cmd objv with
  | error e =>
      simp [Reader.result, Reader.reached, Except.mapError, Except.map]
  | ok r =>
      have hderive := @derive_owns lib r.1 r.2 buf' cmd (kdfRead_holdsMd hkdf)
      refine hderive.mono fun r' buf'' held'' h => ?_
      obtain ⟨hheld, hbuf, hvalue⟩ := h
      refine ⟨hheld, hbuf, fun value => ?_⟩
      rw [hvalue]
      constructor
      · intro hderives
        exact ⟨r.1, r.2, rfl, hderives⟩
      · rintro ⟨v, held, hr, hderives⟩
        cases hr
        exact hderives

/-- **A command**, from its first line on. -/
theorem main_owns :
    (kdfCustody lib).Owns
      (fun r buf' held' => held' = cmd.leaks lib objv ∧ buf' = cmd.array lib objv buf ∧
        ∀ value, r = .ok value ↔ cmd.Returns lib objv value)
      (cmd.main lib objv) buf 0 := by
  have hreturns : ∀ value, cmd.Returns lib objv value ↔ cmd.Counts objv ∧
      ∃ v held, kdfRead lib cmd objv = .ok (v, held) ∧ cmd.Derives lib v value := by
    intro value
    refine and_congr_right fun _ => ?_
    constructor
    · rintro ⟨ps, hpairs, hps, hderives⟩
      obtain ⟨held, hread⟩ := kdfRead_eq_ok_iff.mpr ⟨ps, hpairs, hps, rfl⟩
      exact ⟨_, held, hread, hderives⟩
    · rintro ⟨v, held, hread, hderives⟩
      obtain ⟨ps, hpairs, hps, rfl⟩ := kdfRead_eq_ok_iff.mp ⟨held, hread⟩
      exact ⟨ps, hpairs, hps, hderives⟩
  have hguard : ∀ least most : Nat, cmd.objc = (least, most) →
      (cmd.Counts objv ↔ ¬ (objv.length < least ∨ most < objv.length)) := by
    intro least most hobjc
    rw [Counts, hobjc]
    omega
  by_cases hcounts : cmd.Counts objv
  · simp only [hreturns, leaks, array, if_pos hcounts, and_iff_right hcounts]
    cases cmd with
    | pbkdf2 =>
        rw [main, kdfPbkdf2, if_neg ((hguard 3 11 rfl).mp hcounts), Custody.owns_bind,
          Custody.owns_update]
        exact body_owns
    | hkdf =>
        rw [main, kdfHkdf, if_neg ((hguard 5 11 rfl).mp hcounts)]
        exact body_owns
    | scrypt =>
        rw [main, kdfScrypt, if_neg ((hguard 5 13 rfl).mp hcounts)]
        exact body_owns
  · simp only [hreturns, leaks, array, hcounts, if_false, false_and, iff_false]
    cases cmd with
    | pbkdf2 =>
        rw [main, kdfPbkdf2, if_pos (not_not.mp (mt (hguard 3 11 rfl).mpr hcounts))]
        exact ⟨rfl, rfl, nofun⟩
    | hkdf =>
        rw [main, kdfHkdf, if_pos (not_not.mp (mt (hguard 5 11 rfl).mpr hcounts))]
        exact ⟨rfl, rfl, nofun⟩
    | scrypt =>
        rw [main, kdfScrypt, if_pos (not_not.mp (mt (hguard 5 13 rfl).mpr hcounts))]
        exact ⟨rfl, rfl, nofun⟩

/-! ## Runs -/

variable (lib cmd objv buf)

/-- The library answers every call, and has nothing else to remember. -/
def answer (e : KdfCall) (g : Unit) : e.Ans × Unit := (lib.reply e, g)

/-- A run of a command, with the array in the end. -/
def run : KdfResult × World (List UInt8) Unit := (cmd.main lib objv).run (answer lib) ⟨buf, ()⟩

/-- The calls that are made in it. -/
def calls : List (Σ e, KdfCall.Ans e) := (cmd.main lib objv).trace (answer lib) ⟨buf, ()⟩

variable {lib cmd objv buf}

theorem run_eq :
    (kdfCustody lib).Lawful 0 (cmd.calls lib objv buf) ∧
      (kdfCustody lib).heldAfter 0 (cmd.calls lib objv buf) = cmd.leaks lib objv ∧
      (cmd.run lib objv buf).2.st = cmd.array lib objv buf ∧
      ∀ value, (cmd.run lib objv buf).1 = .ok value ↔ cmd.Returns lib objv value :=
  Custody.run_of_owns (h := answer lib) (w := ⟨buf, ()⟩) (fun _ _ => rfl) main_owns

/-- Nothing is given for the memory of the result. -/
def LosesObj (lib : KdfLibrary) (cmd : KdfCommand) (objv : List Obj) : Prop :=
  ∃ v held, kdfRead lib cmd objv = .ok (v, held) ∧ cmd.lost lib v ≠ 0

/-- The setting has fetched an algorithm. -/
def fetches (cmd : KdfCommand) : Setting KdfOpt Obj → Prop
  | .value fn _ => fn ∈ cmd.heeds ∧ fn ∈ [KdfOpt.cipher, .digest, .hash]
  | _ => False

theorem adds_eq_zero_iff (s : Setting KdfOpt Obj) :
    cmd.adds lib s = 0 ↔ lib.openssl3 = false ∨ ¬ cmd.fetches s := by
  cases s with
  | flag k => simp [adds, fetches]
  | tail v => simp [adds, fetches]
  | value fn value =>
      have href : ∀ handle, lib.reference handle = 0 ↔ lib.openssl3 = false := by
        intro handle
        cases hopenssl : lib.openssl3 <;> simp [KdfLibrary.reference, hopenssl]
      by_cases hheeds : fn ∈ cmd.heeds
      · cases fn <;> simp [adds, acquires, fetches, hheeds, href]
      · simp [adds, acquires, fetches, hheeds]

/-- No option that is taken fetches anything. -/
def FetchesNothing (lib : KdfLibrary) (cmd : KdfCommand) (objv : List Obj) : Prop :=
  ∀ s ∈ (kdfReader lib cmd).made objv.tail ({ dkLen := cmd.dkLen }, 0), ¬ cmd.fetches s

theorem acquired_eq_zero_iff :
    cmd.acquired lib objv = 0 ↔ lib.openssl3 = false ∨ FetchesNothing lib cmd objv := by
  rw [acquired, List.sum_eq_zero_iff (M := Multiset KdfHandle), List.forall_mem_map]
  simp only [adds_eq_zero_iff, FetchesNothing]
  cases lib.openssl3 <;> simp

theorem acquired_scrypt : KdfCommand.scrypt.acquired lib objv = 0 := by
  refine acquired_eq_zero_iff.mpr (.inr fun s _ hfetches => ?_)
  cases s with
  | value fn value => cases fn <;> simp [fetches, heeds] at hfetches
  | _ => exact hfetches

theorem ctx_notMem_lostObj {id : KdfId} {params : List (KdfParam × String)} {dkLen : Int} :
    KdfHandle.ctx ∉ lib.lostObj id params dkLen := by
  unfold KdfLibrary.lostObj
  split <;> simp

theorem ctx_notMem_lost (v : KdfVars) : KdfHandle.ctx ∉ cmd.lost lib v := by
  unfold lost
  split
  · exact Multiset.notMem_zero _
  all_goals
    split
    · exact ctx_notMem_lostObj
    · exact Multiset.notMem_zero _

theorem ctx_notMem_acquires (fn : KdfOpt) : KdfHandle.ctx ∉ cmd.acquires lib fn := by
  have href : ∀ handle, handle ≠ KdfHandle.ctx → KdfHandle.ctx ∉ lib.reference handle := by
    intro handle hne
    cases hopenssl : lib.openssl3 <;> simp [KdfLibrary.reference, hopenssl, hne.symm]
  unfold acquires
  split
  · cases fn <;> first | exact href _ nofun | exact Multiset.notMem_zero _
  · exact Multiset.notMem_zero _

theorem ctx_notMem_acquired : KdfHandle.ctx ∉ cmd.acquired lib objv := by
  rw [← reached_eq_acquired]
  have hsteps := Reader.steps_reached (t := kdfReader lib cmd) objv.tail ({ dkLen := cmd.dkLen }, 0)
  refine hsteps.invariant (P := fun r : KdfVars × Multiset KdfHandle => KdfHandle.ctx ∉ r.2)
    (fun s r r' hdoes hr => ?_) (Multiset.notMem_zero _)
  obtain ⟨fn, value, -, -, hacquires⟩ := kdfReader_does hdoes
  rw [hacquires, Multiset.mem_add]
  exact not_or.mpr ⟨hr, ctx_notMem_acquires fn⟩

theorem ctx_notMem_leaks : KdfHandle.ctx ∉ cmd.leaks lib objv := by
  unfold leaks
  split
  · rw [Multiset.mem_add]
    rintro (hacquired | hlost)
    · exact ctx_notMem_acquired hacquired
    · split at hlost
      · exact ctx_notMem_lost _ hlost
      · exact Multiset.notMem_zero _ hlost
  · exact Multiset.notMem_zero _

theorem leaks_eq_zero_iff : cmd.leaks lib objv = 0 ↔
    ¬ cmd.Counts objv ∨ (lib.openssl3 = false ∨ FetchesNothing lib cmd objv) ∧
      ¬ LosesObj lib cmd objv := by
  by_cases hcounts : cmd.Counts objv
  · have hlost : (match kdfRead lib cmd objv with
        | .ok r => cmd.lost lib r.1
        | .error _ => 0) = 0 ↔ ¬ LosesObj lib cmd objv := by
      unfold LosesObj
      cases kdfRead lib cmd objv with
      | error e => simp
      | ok r =>
          obtain ⟨v, held⟩ := r
          simp
    rw [leaks, if_pos hcounts, add_eq_zero, acquired_eq_zero_iff, hlost]
    simp [hcounts]
  · simp [leaks, hcounts]

/-- A context that derives has given the memory. -/
theorem lostObj_of_derives {id : KdfId} {params : List (KdfParam × String)} {dkLen : Int}
    {value : KdfValue} (h : ContextDerives lib id params dkLen value) :
    lib.lostObj id params dkLen = 0 := by
  simp [KdfLibrary.lostObj, h.room]

theorem lost_of_derives {v : KdfVars} {value : KdfValue} (h : cmd.Derives lib v value) :
    cmd.lost lib v = 0 := by
  cases cmd with
  | pbkdf2 => rfl
  | hkdf =>
      obtain ⟨hkey, md, hmd, hderives⟩ := h
      obtain ⟨key, hkey⟩ := Option.isSome_iff_exists.mp hkey
      rw [lost, hmd, hkey]
      exact lostObj_of_derives hderives
  | scrypt =>
      obtain ⟨hpass, hsalt, hderives⟩ := h
      obtain ⟨pass, hpass⟩ := Option.isSome_iff_exists.mp hpass
      obtain ⟨salt, hsalt⟩ := Option.isSome_iff_exists.mp hsalt
      rw [lost, hpass, hsalt]
      exact lostObj_of_derives hderives

/-- There is no key without a digest but from scrypt. -/
theorem md_of_derives {v : KdfVars} {value : KdfValue} (h : cmd.Derives lib v value)
    (hcmd : cmd ≠ .scrypt) : v.md.isSome := by
  cases cmd with
  | pbkdf2 =>
      obtain ⟨md, hmd, -⟩ := h
      rw [hmd]
      rfl
  | hkdf =>
      obtain ⟨-, md, hmd, -⟩ := h
      rw [hmd]
      rfl
  | scrypt => contradiction

theorem leaks_eq_zero_iff_of_returns {value : KdfValue} (h : cmd.Returns lib objv value) :
    cmd.leaks lib objv = 0 ↔ cmd = .scrypt ∨ lib.openssl3 = false := by
  obtain ⟨hcounts, ps, hpairs, hps, hderives⟩ := h
  obtain ⟨held, hread⟩ := kdfRead_eq_ok_iff.mpr ⟨ps, hpairs, hps, rfl⟩
  have hleaks : cmd.leaks lib objv = cmd.acquired lib objv := by
    rw [leaks, if_pos hcounts, hread]
    dsimp only
    rw [lost_of_derives hderives, add_zero]
  rw [hleaks]
  by_cases hcmd : cmd = .scrypt
  · subst hcmd
    exact iff_of_true acquired_scrypt (.inl rfl)
  · have hmd := kdfRead_holdsMd hread (md_of_derives hderives hcmd)
    have hheld : held = cmd.acquired lib objv := by
      rw [← reached_eq_acquired, hread]
      rfl
    rw [hheld] at hmd
    rw [or_iff_right hcmd]
    constructor
    · intro hzero
      by_contra hopenssl
      rw [hzero, KdfLibrary.reference, if_pos (Bool.not_eq_false _ ▸ hopenssl)] at hmd
      exact absurd (Multiset.singleton_le.mp hmd) (Multiset.notMem_zero _)
    · exact fun hopenssl => acquired_eq_zero_iff.mpr (.inl hopenssl)

/-- **What a command does not release.**  No handle is used that is not held, and the context
is always freed.  But nothing is freed of what the options have fetched, and the object for
the result is lost where it gets no memory.  So a command that has succeeded leaves something
behind exactly if it has used a digest of OpenSSL 3.0. -/
theorem kdf_released_iff (lib : KdfLibrary) (cmd : KdfCommand) (objv : List Obj) (buf : List UInt8) :
    (kdfCustody lib).Lawful 0 (cmd.calls lib objv buf) ∧
      KdfHandle.ctx ∉ (kdfCustody lib).heldAfter 0 (cmd.calls lib objv buf) ∧
      ((kdfCustody lib).heldAfter 0 (cmd.calls lib objv buf) = 0 ↔
        ¬ cmd.Counts objv ∨ (lib.openssl3 = false ∨ FetchesNothing lib cmd objv) ∧
          ¬ LosesObj lib cmd objv) ∧
      ∀ value, (cmd.run lib objv buf).1 = .ok value →
        ((kdfCustody lib).heldAfter 0 (cmd.calls lib objv buf) = 0 ↔
          cmd = .scrypt ∨ lib.openssl3 = false) := by
  obtain ⟨hlawful, hheld, -, hvalue⟩ := @run_eq lib cmd objv buf
  rw [hheld]
  refine ⟨hlawful, ctx_notMem_leaks, leaks_eq_zero_iff, fun value hrun => ?_⟩
  exact leaks_eq_zero_iff_of_returns ((hvalue value).mp hrun)

/-! ## The array of PBKDF2 -/

/-- The derivation has failed, and has left something in the array. -/
def LeavesKey (lib : KdfLibrary) (objv : List Obj) : Prop :=
  ∃ v held md, kdfRead lib .pbkdf2 objv = .ok (v, held) ∧ v.md = some md ∧
    (lib.reply (v.pbkdf2 md)).ok = false ∧ ∃ b ∈ (lib.reply (v.pbkdf2 md)).out, b ≠ 0

/-- What is asked for has room in the array. -/
theorem sizes_le (v : KdfVars) : (v.sizes.1 + v.sizes.2).toNat ≤ kdfBufLen := by
  unfold KdfVars.sizes
  cases v.cipher with
  | none =>
      dsimp only
      split <;> omega
  | some cipher =>
      have hkey := cipher.keyLength_le
      have hiv := cipher.ivLength_le
      have hmax : evpMaxKeyLength + evpMaxIvLength ≤ kdfBufLen := by decide
      dsimp only
      omega

theorem length_leaves (v : KdfVars) :
    (v.leaves lib (List.replicate kdfBufLen 0)).length = kdfBufLen := by
  unfold KdfVars.leaves
  cases v.md with
  | none => exact List.length_replicate
  | some md =>
      have hout := (lib.reply (v.pbkdf2 md)).length_eq
      have hle := sizes_le v
      dsimp only
      split
      · exact List.length_replicate
      · rw [List.length_append, List.length_drop, List.length_replicate]
        omega

theorem leaves_eq_zeros_iff (v : KdfVars) :
    v.leaves lib (List.replicate kdfBufLen 0) = List.replicate kdfBufLen 0 ↔
      ∀ md, v.md = some md → (lib.reply (v.pbkdf2 md)).ok = false →
        ∀ b ∈ (lib.reply (v.pbkdf2 md)).out, b = 0 := by
  have hlength := @length_leaves lib v
  rw [List.eq_replicate_iff, and_iff_right hlength]
  unfold KdfVars.leaves
  cases v.md with
  | none => simp
  | some md =>
      cases hok : (lib.reply (v.pbkdf2 md)).ok with
      | true => simp [hok]
      | false => simp +contextual [hok, or_imp]

/-- **The array on the stack** is not written beyond its end, and no key is left in it unless
the derivation fails. -/
theorem pbkdf2_array (lib : KdfLibrary) (objv : List Obj) (buf : List UInt8) :
    (¬ KdfCommand.pbkdf2.Counts objv → (KdfCommand.pbkdf2.run lib objv buf).2.st = buf) ∧
      (KdfCommand.pbkdf2.Counts objv →
        (KdfCommand.pbkdf2.run lib objv buf).2.st.length = kdfBufLen ∧
          ((KdfCommand.pbkdf2.run lib objv buf).2.st = List.replicate kdfBufLen 0 ↔
            ¬ LeavesKey lib objv)) := by
  obtain ⟨-, -, harray, -⟩ := @run_eq lib .pbkdf2 objv buf
  rw [harray]
  refine ⟨fun hcounts => if_neg hcounts, fun hcounts => ?_⟩
  rw [array, if_pos hcounts]
  unfold LeavesKey
  cases kdfRead lib .pbkdf2 objv with
  | error e => simp [cleared]
  | ok r =>
      obtain ⟨v, held⟩ := r
      refine ⟨length_leaves v, (leaves_eq_zeros_iff v).trans ?_⟩
      simp

end KdfCommand

end TclTls
