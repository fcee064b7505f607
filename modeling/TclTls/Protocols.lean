import Mathlib.Data.Nat.Bitwise
import TclTls.Import

/-!
# TclTls.Protocols

The protocol versions that a script enables, and those that a context of `CTX_Init`
can negotiate.

The choice is written down three times: as a boolean for each version, as the mask
`proto`, and as the `SSL_OP_NO_` options, which are the mask turned around.  They say the
same (`negotiable_of_enabled`), unless no version is enabled: `CTX_Init` then falls back
to a range of its own (`negotiable_fallback`).
-/

namespace TclTls

open Settings

/-! ## Versions -/

inductive TlsVersion where
  | ssl2
  | ssl3
  | tls1
  | tls1_1
  | tls1_2
  | tls1_3
deriving DecidableEq, Repr

namespace TlsVersion

/-- The option that enables the version. -/
def option : TlsVersion → String
  | .ssl2 => "-ssl2"
  | .ssl3 => "-ssl3"
  | .tls1 => "-tls1"
  | .tls1_1 => "-tls1.1"
  | .tls1_2 => "-tls1.2"
  | .tls1_3 => "-tls1.3"

/-- Whether it is enabled where the option is not given. -/
def default : TlsVersion → Bool
  | .ssl2 | .ssl3 | .tls1 | .tls1_1 => false
  | .tls1_2 | .tls1_3 => true

/-- `TLS_PROTO_` -/
def proto : TlsVersion → Nat
  | .ssl2 => 0x01
  | .ssl3 => 0x02
  | .tls1 => 0x04
  | .tls1_1 => 0x08
  | .tls1_2 => 0x10
  | .tls1_3 => 0x20

/-- `SSL_OP_NO_`; that of SSL 2 is the one of the libraries that have it. -/
def opNo : TlsVersion → Nat
  | .ssl2 => 0x01000000
  | .ssl3 => 0x02000000
  | .tls1 => 0x04000000
  | .tls1_2 => 0x08000000
  | .tls1_1 => 0x10000000
  | .tls1_3 => 0x20000000

/-- The version's number in the protocol, such as `TLS1_2_VERSION`. -/
def number : TlsVersion → Nat
  | .ssl2 => 0x0002
  | .ssl3 => 0x0300
  | .tls1 => 0x0301
  | .tls1_1 => 0x0302
  | .tls1_2 => 0x0303
  | .tls1_3 => 0x0304

end TlsVersion

/-! ## The context -/

/-- What the versions depend on at compile time. -/
structure ProtoBuild where
  /-- `OPENSSL_VERSION_NUMBER >= 0x10100000L` -/
  openssl11 : Bool
  /-- `defined(NO_SSL2)`, and so on -/
  no : TlsVersion → Bool
  /-- `defined(OPENSSL_NO_SSL2)`, and so on -/
  opensslNo : TlsVersion → Bool

/-- One of the two is defined. -/
def ProtoBuild.compiledOut (build : ProtoBuild) (v : TlsVersion) : Bool :=
  build.no v || build.opensslNo v

/-- What a context knows about versions; 0 is no bound. -/
structure CtxVersions where
  minProto : Nat
  maxProto : Nat
  options : Nat
deriving DecidableEq, Repr

/-- The test of `proto` for a version; there is none for a version that is compiled out. -/
def ProtoBuild.off (build : ProtoBuild) (proto : Nat) (v : TlsVersion) : Nat :=
  if build.compiledOut v ∨ proto &&& v.proto = 0 then v.opNo else 0

/-- `SSL_OP_CIPHER_SERVER_PREFERENCE` for a client, `SSL_OP_ALL` and
`SSL_OP_NO_COMPRESSION`. -/
def otherOptions (isServer : Bool) : Nat :=
  (if isServer then 0 else 0x00400000) ||| 0x80000850 ||| 0x00020000

/-- `CTX_Init`, as far as versions are concerned. -/
def ctxInitVersions (build : ProtoBuild) (cfg : CtxConfig) : CtxVersions :=
  let off := (if build.openssl11 then 0 else build.off cfg.proto .ssl2) |||
    build.off cfg.proto .ssl3 ||| build.off cfg.proto .tls1 ||| build.off cfg.proto .tls1_1 |||
    build.off cfg.proto .tls1_2 ||| build.off cfg.proto .tls1_3
  if cfg.proto = 0 then
    { minProto := TlsVersion.tls1_2.number, maxProto := TlsVersion.tls1_3.number
      options := otherOptions cfg.isServer }
  else { minProto := 0, maxProto := 0, options := off ||| otherOptions cfg.isServer }

/-- The library has the version: it is not compiled out, and from 1.1 on there is no
SSL 2. -/
def ProtoBuild.Supports (build : ProtoBuild) (v : TlsVersion) : Prop :=
  build.compiledOut v = false ∧ (v = .ssl2 → build.openssl11 = false)

/-- The versions that a context can negotiate. -/
structure Negotiable (build : ProtoBuild) (ctx : CtxVersions) (v : TlsVersion) : Prop where
  supported : build.Supports v
  min : ctx.minProto = 0 ∨ ctx.minProto ≤ v.number
  max : ctx.maxProto = 0 ∨ v.number ≤ ctx.maxProto
  option : ctx.options &&& v.opNo = 0

/-! ## What is enabled -/

/-- The last value given for the version, or its default. -/
def enabled (lib : TclLibrary) (words : List String) (v : TlsVersion) : Bool :=
  (last (· == v.option) (pairs words)).elim v.default fun value =>
    (lib.getBoolean value).getD v.default

/-- The variable that goes with the version. -/
def ImportOptions.version (o : ImportOptions) : TlsVersion → Bool
  | .ssl2 => o.ssl2
  | .ssl3 => o.ssl3
  | .tls1 => o.tls1
  | .tls1_1 => o.tls1_1
  | .tls1_2 => o.tls1_2
  | .tls1_3 => o.tls1_3

section Enabled

variable {lib : TclLibrary} {words : List String} {o : ImportOptions}

/-- The option of a version writes its variable. -/
theorem writes_version (v : TlsVersion) : ∀ entry ∈ (importTable lib).entries,
    (entry.name == v.option) = true → entry.Writes (fun o => o.version v)
      fun value => (lib.getBoolean value).getD v.default := by
  have hwrites : ∀ set : Bool → ImportOptions → ImportOptions,
      (∀ b o, (set b o).version v = b) → (optBool lib v.option set).Writes
        (fun o => o.version v) fun value => (lib.getBoolean value).getD v.default := by
    intro set hset
    exact optBool_writes (·.getD v.default) hset
  simp only [importTable, List.forall_mem_cons]
  cases v
  · have hssl2 := hwrites (fun b o => { o with ssl2 := b }) fun _ _ => rfl
    simpa [TlsVersion.option] using hssl2
  · have hssl3 := hwrites (fun b o => { o with ssl3 := b }) fun _ _ => rfl
    simpa [TlsVersion.option] using hssl3
  · have htls1 := hwrites (fun b o => { o with tls1 := b }) fun _ _ => rfl
    simpa [TlsVersion.option] using htls1
  · have htls1_1 := hwrites (fun b o => { o with tls1_1 := b }) fun _ _ => rfl
    simpa [TlsVersion.option] using htls1_1
  · have htls1_2 := hwrites (fun b o => { o with tls1_2 := b }) fun _ _ => rfl
    simpa [TlsVersion.option] using htls1_2
  · have htls1_3 := hwrites (fun b o => { o with tls1_3 := b }) fun _ _ => rfl
    simpa [TlsVersion.option] using htls1_3

/-- No other option does. -/
theorem keeps_version (v : TlsVersion) : ∀ entry ∈ (importTable lib).entries,
    (entry.name == v.option) = false → entry.Keeps fun o => o.version v := by
  simp only [importTable, List.forall_mem_cons]
  cases v <;> simp [ImportOptions.version, TlsVersion.option]

theorem importOptions_version (h : importOptions lib words = .ok o) (v : TlsVersion) :
    o.version v = enabled lib words v := by
  have hlast := @Table.loop_last _ _ _ (importTable lib) (fun o => o.version v)
    (fun value => (lib.getBoolean value).getD v.default) (· == v.option) words {} o h
    (writes_version v) (keeps_version v)
  have hinitial : ImportOptions.version {} v = v.default := by
    cases v <;> rfl
  rw [hinitial] at hlast
  exact hlast

end Enabled

/-! ## The masks -/

/-- The number of the version's bit in `proto`. -/
def TlsVersion.protoBit : TlsVersion → Nat
  | .ssl2 => 0
  | .ssl3 => 1
  | .tls1 => 2
  | .tls1_1 => 3
  | .tls1_2 => 4
  | .tls1_3 => 5

/-- The number of its bit in the options. -/
def TlsVersion.opBit : TlsVersion → Nat
  | .ssl2 => 24
  | .ssl3 => 25
  | .tls1 => 26
  | .tls1_2 => 27
  | .tls1_1 => 28
  | .tls1_3 => 29

theorem proto_eq_two_pow (v : TlsVersion) : v.proto = 2 ^ v.protoBit := by
  cases v <;> rfl

theorem opNo_eq_two_pow (v : TlsVersion) : v.opNo = 2 ^ v.opBit := by
  cases v <;> rfl

theorem and_two_pow_eq_zero_iff (n i : Nat) : n &&& 2 ^ i = 0 ↔ n.testBit i = false := by
  rw [Nat.and_two_pow, Nat.mul_eq_zero]
  cases n.testBit i <;> simp

theorem testBit_two_pow_ite (p : Prop) [Decidable p] (i j : Nat) :
    (if p then 2 ^ i else 0).testBit j = (decide p && decide (i = j)) := by
  by_cases hp : p <;> simp [hp, Nat.testBit_two_pow]

/-- The bit of a version in `proto` is its variable. -/
theorem testBit_proto (o : ImportOptions) (v : TlsVersion) :
    o.proto.testBit v.protoBit = o.version v := by
  have hproto : o.proto = (if o.ssl2 then 2 ^ 0 else 0) ||| (if o.ssl3 then 2 ^ 1 else 0) |||
      (if o.tls1 then 2 ^ 2 else 0) ||| (if o.tls1_1 then 2 ^ 3 else 0) |||
      (if o.tls1_2 then 2 ^ 4 else 0) ||| (if o.tls1_3 then 2 ^ 5 else 0) := rfl
  rw [hproto]
  simp only [Nat.testBit_or, testBit_two_pow_ite]
  cases v <;> simp [TlsVersion.protoBit, ImportOptions.version]

/-- No version is enabled exactly where the mask is 0. -/
theorem proto_eq_zero_iff (o : ImportOptions) : o.proto = 0 ↔ ∀ v, o.version v = false := by
  constructor
  · intro h v
    rw [← testBit_proto, h, Nat.zero_testBit]
  · intro h
    have hssl2 : o.ssl2 = false := h .ssl2
    have hssl3 : o.ssl3 = false := h .ssl3
    have htls1 : o.tls1 = false := h .tls1
    have htls1_1 : o.tls1_1 = false := h .tls1_1
    have htls1_2 : o.tls1_2 = false := h .tls1_2
    have htls1_3 : o.tls1_3 = false := h .tls1_3
    simp [ImportOptions.proto, hssl2, hssl3, htls1, htls1_1, htls1_2, htls1_3]

theorem opBit_inj {v w : TlsVersion} : v.opBit = w.opBit ↔ v = w := by
  cases v <;> cases w <;> decide

theorem testBit_off (build : ProtoBuild) (proto : Nat) (v w : TlsVersion) :
    (build.off proto w).testBit v.opBit =
      (decide (w = v) && (build.compiledOut v || !proto.testBit v.protoBit)) := by
  rw [ProtoBuild.off, opNo_eq_two_pow, testBit_two_pow_ite, proto_eq_two_pow]
  simp only [and_two_pow_eq_zero_iff, opBit_inj]
  by_cases hwv : w = v
  · subst hwv
    cases build.compiledOut w <;> cases proto.testBit w.protoBit <;> simp
  · simp [hwv]

/-- The other options leave the versions alone. -/
theorem testBit_otherOptions (isServer : Bool) (v : TlsVersion) :
    (otherOptions isServer).testBit v.opBit = false := by
  cases isServer <;> cases v <;> decide

/-! ## What can be negotiated -/

section Negotiate

variable {lib : TclLibrary} {build : ProtoBuild} {words : List String} {o : ImportOptions}

/-- Where a version is enabled, a context negotiates the versions that are. -/
theorem negotiable_of_enabled (h : importOptions lib words = .ok o)
    (hsome : ∃ v, enabled lib words v = true) (v : TlsVersion) :
    Negotiable build (ctxInitVersions build (ctxConfig lib o)) v ↔
      build.Supports v ∧ enabled lib words v = true := by
  have hversion := importOptions_version h
  have hproto : o.proto ≠ 0 := by
    rw [ne_eq, proto_eq_zero_iff]
    intro hall
    obtain ⟨w, hw⟩ := hsome
    rw [← hversion, hall w] at hw
    contradiction
  have hctx : ctxInitVersions build (ctxConfig lib o) =
      ⟨0, 0, ((if build.openssl11 then 0 else build.off o.proto .ssl2) |||
        build.off o.proto .ssl3 ||| build.off o.proto .tls1 ||| build.off o.proto .tls1_1 |||
        build.off o.proto .tls1_2 ||| build.off o.proto .tls1_3) ||| otherOptions o.server⟩ := by
    rw [ctxInitVersions]
    exact if_neg hproto
  -- the option of a version that the library has says that it is not enabled
  have hoption : build.Supports v →
      ((ctxInitVersions build (ctxConfig lib o)).options &&& v.opNo = 0 ↔
        enabled lib words v = true) := by
    rintro ⟨hout, hssl2⟩
    rw [hctx, opNo_eq_two_pow, and_two_pow_eq_zero_iff]
    simp only [Nat.testBit_or, testBit_otherOptions, testBit_off, testBit_proto, hversion, hout]
    cases v with
    | ssl2 => simp [hssl2 rfl, testBit_off, testBit_proto, hversion, hout]
    | ssl3 | tls1 | tls1_1 | tls1_2 | tls1_3 =>
        cases build.openssl11 <;> simp [testBit_off]
  constructor
  · intro hneg
    exact ⟨hneg.supported, (hoption hneg.supported).mp hneg.option⟩
  · rintro ⟨hsupported, hon⟩
    exact ⟨hsupported, .inl (by rw [hctx]), .inl (by rw [hctx]), (hoption hsupported).mpr hon⟩

/-- Where none is, it negotiates TLS 1.2 and TLS 1.3. -/
theorem negotiable_fallback (h : importOptions lib words = .ok o)
    (hnone : ∀ v, enabled lib words v = false) (v : TlsVersion) :
    Negotiable build (ctxInitVersions build (ctxConfig lib o)) v ↔
      build.Supports v ∧ (v = .tls1_2 ∨ v = .tls1_3) := by
  have hproto : o.proto = 0 := by
    rw [proto_eq_zero_iff]
    intro w
    rw [importOptions_version h, hnone]
  have hctx : ctxInitVersions build (ctxConfig lib o) =
      ⟨TlsVersion.tls1_2.number, TlsVersion.tls1_3.number, otherOptions o.server⟩ := by
    rw [ctxInitVersions]
    exact if_pos hproto
  have hoption : otherOptions o.server &&& v.opNo = 0 := by
    rw [opNo_eq_two_pow, and_two_pow_eq_zero_iff, testBit_otherOptions]
  have hrange : (TlsVersion.tls1_2.number ≤ v.number ∧ v.number ≤ TlsVersion.tls1_3.number) ↔
      v = .tls1_2 ∨ v = .tls1_3 := by
    cases v <;> decide
  have hfrom : TlsVersion.tls1_2.number ≠ 0 := by decide
  have hto : TlsVersion.tls1_3.number ≠ 0 := by decide
  rw [hctx]
  constructor
  · intro hneg
    have hmin := hneg.min.resolve_left hfrom
    have hmax := hneg.max.resolve_left hto
    exact ⟨hneg.supported, hrange.mp ⟨hmin, hmax⟩⟩
  · rintro ⟨hsupported, hv⟩
    obtain ⟨hmin, hmax⟩ := hrange.mpr hv
    exact ⟨hsupported, .inr hmin, .inr hmax, hoption⟩

end Negotiate

/-- A library from 1.1 on with nothing compiled out. -/
def usualBuild : ProtoBuild where
  openssl11 := true
  no _ := false
  opensslNo _ := false

end TclTls
