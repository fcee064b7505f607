import TclTls.Protocols
import TclTls.Resource.Custody
import TclTls.TrustSources

/-!
# TclTls.ContextInit

`CTX_Init` from its first line to its last: it makes a context, configures it
step by step, and returns it or `NULL`.

Every step that can fail has an exit of its own, and each of these exits writes
a message and releases what it thinks is held.  `checklist` says the same in
one list: what is checked, in which order, what is left in the interpreter's
result, and which handles the exit forgets.  A piece of the code `Conforms` to
its part of the list, piece by piece, and `ctxInit_follows_checklist` is the
agreement of the whole.
-/

namespace TclTls

open Interaction
open Interaction.Program (state update)
open Resource

/-! ## The library -/

/-- What a file with a certificate or a private key comes to: whether it loads,
and how the password script ended, if the library has called it. -/
structure FileLoad where
  ok : Bool
  asked : Option EvalOutcome := none
deriving DecidableEq, Repr

/-- The calls of `CTX_Init` that can fail, and those that acquire or release
something. -/
inductive CtxInitCall where
  | ctxNew (isServer : Bool)
  | ctxFree
  | setCipherList (ciphers : String)
  | setCiphersuites (ciphersuites : String)
  /-- `F2N`: the name is translated into a dynamic string -/
  | f2n (name : String)
  | dstringFree
  | bioNewFile (name : String)
  | bioFree
  | readDhParams (name : String)
  /-- `SSL_CTX_set_tmp_dh` or `SSL_CTX_set0_tmp_dh_pkey` -/
  | setTmpDh
  | dhFree
  | setDhAuto
  | useCertificateFile (name : String)
  | useCertificateAsn1 (len : Int) (cert : List UInt8)
  | usePrivateKeyFile (name : String)
  | usePrivateKeyAsn1 (key : List UInt8) (len : Int)
  | checkPrivateKey
deriving DecidableEq, Repr

/-- What each call returns. -/
@[reducible] def CtxInitCall.Ans : CtxInitCall → Type
  | .ctxFree | .f2n _ | .dstringFree | .bioFree | .dhFree => Unit
  | .useCertificateFile _ | .usePrivateKeyFile _ => FileLoad
  | _ => Bool

/-- The library that `CTX_Init` is linked against, and the environment. -/
structure CtxLibrary (C N : Type) where
  build : ProtoBuild
  /-- `OPENSSL_VERSION_NUMBER >= 0x30000000L` -/
  openssl3 : Bool
  /-- `OPENSSL_NO_DH` -/
  noDh : Bool
  /-- `getenv(SSLKEYLOGFILE)` -/
  keylog : Bool
  /-- `X509_get_default_cert_file` -/
  defaultCertFile : String
  /-- `GET_ERR_REASON()` after a call that has failed; it may be `NULL` -/
  reason : CtxInitCall → Option String
  reply : (e : CtxInitCall) → e.Ans
  trust : TrustAnswers C N

/-- Where a certificate or a private key comes from. -/
inductive CertSource where
  | default
  | file (name : String)
  | asn1 (der : List UInt8)
deriving DecidableEq, Repr

/-- The Diffie-Hellman parameters of a context. -/
inductive DhSource where
  | auto
  | file (name : String)
deriving DecidableEq, Repr

/-- A context, as far as its configuration depends on the caller. -/
structure SslCtx (C N : Type) where
  versions : CtxVersions := ⟨0, 0, 0⟩
  keylog : Bool := false
  cipherList : Option String := none
  ciphersuites : Option String := none
  securityLevel : Option Int := none
  dh : Option DhSource := none
  certificate : Option CertSource := none
  privateKey : Option CertSource := none
  keyChecked : Bool := false
  verify : VerifyCtx C N

/-- The context under construction and the interpreter's result. -/
structure CtxInit (C N : Type) where
  ctx : SslCtx C N
  result : String := ""

/-- Code of `CTX_Init`. -/
abbrev CtxCode (C N α : Type) := Program (CtxInit C N) CtxInitCall.Ans α

abbrev ctxCall {C N : Type} (e : CtxInitCall) : CtxCode C N e.Ans := Program.perform e

variable {C N : Type} (lib : CtxLibrary C N) (cfg : CtxConfig)

/-! ## The code -/

/-- Change the context. -/
def configure (f : SslCtx C N → SslCtx C N) : CtxCode C N Unit :=
  update fun s => { s with ctx := f s.ctx }

/-- `Tcl_AppendResult`; the list of texts ends with the first that is `NULL`. -/
def appendResult (text : String) (reason : Option String := none) : CtxCode C N Unit :=
  update fun s => { s with result := s.result ++ text ++ reason.getD "" }

/-- `Tcl_SetResult(interp, NULL, TCL_STATIC)` -/
def flushResult : CtxCode C N Unit := update fun s => { s with result := "" }

/-- What a script that was evaluated leaves in the result. -/
def EvalOutcome.left (o : EvalOutcome) : String :=
  -- `Tcl_BackgroundException` resets the result
  if o.code = tclOk then o.result else ""

/-- The result after the library may have called `PasswordCallback`. -/
def FileLoad.leaves (l : FileLoad) (result : String) : String :=
  (l.asked.map EvalOutcome.left).getD result

/-- Whether a file has loaded; the password script may have left something. -/
def loaded (l : FileLoad) : CtxCode C N Bool := do
  update fun s => { s with result := l.leaves s.result }
  pure l.ok

/-- The last lines of an exit: `SSL_CTX_free(ctx); return NULL;`. -/
def releaseCtx : CtxCode C N Bool := do
  ctxCall .ctxFree
  pure false

/-- Go on if the step before has not returned. -/
def andThen (p q : CtxCode C N Bool) : CtxCode C N Bool := do
  if ← p then q else pure false

/-- Create the context and set what cannot fail. -/
def createCtx : CtxCode C N Bool := do
  if ← ctxCall (.ctxNew cfg.isServer) then
    configure fun c => { c with versions := ctxInitVersions lib.build cfg, keylog := lib.keylog }
    pure true
  else pure false

def setCiphers : CtxCode C N Bool :=
  match cfg.ciphers with
  | none => pure true
  | some ciphers => do
      if ← ctxCall (.setCipherList ciphers) then
        configure fun c => { c with cipherList := some ciphers }
        pure true
      else
        appendResult "Set ciphers failed: No valid ciphers"
        releaseCtx

def setCiphersuites : CtxCode C N Bool :=
  match cfg.ciphersuites with
  | none => pure true
  | some ciphersuites => do
      if ← ctxCall (.setCiphersuites ciphersuites) then
        configure fun c => { c with ciphersuites := some ciphersuites }
        pure true
      else
        appendResult "Set cipher suites failed: No valid cipher suites"
        releaseCtx

/-- A level that is out of range is passed over. -/
def setSecurityLevel : CtxCode C N Bool := do
  if -1 < cfg.level ∧ cfg.level < 6 then
    configure fun c => { c with securityLevel := some cfg.level }
  pure true

/-- The parameters in a file. -/
def setDhFile (name : String) : CtxCode C N Bool := do
  ctxCall (.f2n name)
  if ← ctxCall (.bioNewFile name) then
    let dh ← ctxCall (.readDhParams name)
    ctxCall .bioFree
    ctxCall .dstringFree
    if dh then
      if ← ctxCall .setTmpDh then
        if !lib.openssl3 then ctxCall .dhFree
        configure fun c => { c with dh := some (.file name) }
        pure true
      else
        appendResult "Could not set DH parameters from file: " (lib.reason .setTmpDh)
        -- only the branch for a library before 3.0 has this line
        if !lib.openssl3 then ctxCall .dhFree
        releaseCtx
    else
      appendResult "Could not read DH parameters from file: " (lib.reason (.readDhParams name))
      releaseCtx
  else
    ctxCall .dstringFree
    appendResult "Could not find DH parameters file"
    releaseCtx

def setDh : CtxCode C N Bool :=
  match cfg.dhParams, lib.noDh with
  | none, true => pure true
  | some _, true => do
      appendResult "DH parameter support not available"
      releaseCtx
  | some name, false => setDhFile lib name
  | none, false => do
      if ← ctxCall .setDhAuto then
        configure fun c => { c with dh := some .auto }
        pure true
      else
        appendResult "Could not enable set DH auto: " (lib.reason .setDhAuto)
        releaseCtx

/-- Set our certificate. -/
def setCertificate : CtxCode C N Bool :=
  match cfg.certfile, cfg.cert with
  | some certfile, _ => do
      ctxCall (.f2n certfile)
      if ← loaded (← ctxCall (.useCertificateFile certfile)) then
        ctxCall .dstringFree
        configure fun c => { c with certificate := some (.file certfile) }
        pure true
      else
        ctxCall .dstringFree
        appendResult ("unable to set certificate file " ++ certfile ++ ": ")
          (lib.reason (.useCertificateFile certfile))
        releaseCtx
  | none, some cert => do
      if ← ctxCall (.useCertificateAsn1 (toInt cert.length) cert) then
        configure fun c => { c with certificate := some (.asn1 cert) }
        pure true
      else
        appendResult "unable to set certificate: "
          (lib.reason (.useCertificateAsn1 (toInt cert.length) cert))
        releaseCtx
  | none, none => do
      -- whether the default certificate loads makes no difference
      if ← loaded (← ctxCall (.useCertificateFile lib.defaultCertFile)) then
        configure fun c => { c with certificate := some .default }
      pure true

/-- The private key in a file. -/
def setKeyFile (keyfile : String) : CtxCode C N Bool := do
  ctxCall (.f2n keyfile)
  if ← loaded (← ctxCall (.usePrivateKeyFile keyfile)) then
    ctxCall .dstringFree
    configure fun c => { c with privateKey := some (.file keyfile) }
    pure true
  else
    ctxCall .dstringFree
    flushResult
    appendResult ("unable to set public key file " ++ keyfile ++ " ")
      (lib.reason (.usePrivateKeyFile keyfile))
    releaseCtx

/-- The private key in memory. -/
def setKeyAsn1 (key : List UInt8) : CtxCode C N Bool := do
  if ← ctxCall (.usePrivateKeyAsn1 key (toInt key.length)) then
    configure fun c => { c with privateKey := some (.asn1 key) }
    pure true
  else
    flushResult
    appendResult "unable to set public key: "
      (lib.reason (.usePrivateKeyAsn1 key (toInt key.length)))
    releaseCtx

/-- The key that is loaded: the file, or the data, or what stands in the
certificate's file.  There is none for a certificate in memory alone. -/
def keySource : Option CertSource :=
  match cfg.keyfile, cfg.key, cfg.certfile with
  | some keyfile, _, _ => some (.file keyfile)
  | none, some key, _ => some (.asn1 key)
  | none, none, some certfile => some (.file certfile)
  | none, none, none => none

/-- A certificate is configured. -/
def CtxConfig.hasCertificate : Bool := cfg.certfile.isSome || cfg.cert.isSome

def setKey : CtxCode C N Bool :=
  match keySource cfg with
  | some (.file keyfile) => setKeyFile lib keyfile
  | some (.asn1 key) => setKeyAsn1 lib key
  | _ => pure true

def checkKey : CtxCode C N Bool := do
  if ← ctxCall .checkPrivateKey then
    configure fun c => { c with keyChecked := true }
    pure true
  else
    appendResult "private key does not match the certificate public key"
    releaseCtx

/-- Set our private key, if a certificate was given. -/
def setPrivateKey : CtxCode C N Bool :=
  if cfg.hasCertificate then andThen (setKey lib cfg) checkKey
  else pure true

/-- The verify locations, with which the context is complete. -/
def setVerify [DecidableEq C] : CtxCode C N Bool := do
  let s ← state
  let (returned, verify) :=
    if lib.openssl3 then ctxInitVerify30 cfg lib.trust s.ctx.verify.trust
    else ctxInitVerify11 cfg lib.trust s.ctx.verify.trust
  configure fun c => { c with verify := verify }
  pure returned

/-- `CTX_Init`: whether it returns the context. -/
def ctxInit [DecidableEq C] : CtxCode C N Bool :=
  andThen (createCtx lib cfg) <| andThen (setCiphers cfg) <| andThen (setCiphersuites cfg) <|
    andThen (setSecurityLevel cfg) <| andThen (setDh lib cfg) <| andThen (setCertificate lib cfg) <|
      andThen (setPrivateKey lib cfg) (setVerify lib cfg)

/-! ## The checklist -/

/-- What `CTX_Init` has to release. -/
inductive CtxHandle where
  | ctx
  | bio
  | dh
  | ds
deriving DecidableEq, Repr

/-- A step that may fail: whether it does not, how the password script ended if
it was called, and what the exit does. -/
structure SetupStep where
  ok : Bool
  asked : Option EvalOutcome := none
  flushes : Bool := false
  text : String := ""
  reason : Option String := none
  /-- the handles that the exit forgets -/
  leaks : Multiset CtxHandle := 0

/-- What the step leaves in the result when it does not fail. -/
def SetupStep.leaves (step : SetupStep) (result : String) : String :=
  (⟨step.ok, step.asked⟩ : FileLoad).leaves result

/-- What it leaves when it fails. -/
def SetupStep.fails (step : SetupStep) (result : String) : String :=
  (if step.flushes then "" else step.leaves result) ++ step.text ++ step.reason.getD ""

/-- What a checklist comes to: whether all is well, the interpreter's result, and
the handles that are held. -/
structure SetupVerdict where
  ok : Bool
  result : String
  held : Multiset CtxHandle

/-- The first step that fails decides. -/
def SetupStep.verdict : List SetupStep → String → SetupVerdict
  | [], result => ⟨true, result, {.ctx}⟩
  | step :: steps, result =>
      if step.ok then verdict steps (step.leaves result) else ⟨false, step.fails result, step.leaks⟩

def cipherSteps : List SetupStep :=
  cfg.ciphers.toList.map fun ciphers =>
    { ok := lib.reply (.setCipherList ciphers), text := "Set ciphers failed: No valid ciphers" }

def ciphersuiteSteps : List SetupStep :=
  cfg.ciphersuites.toList.map fun ciphersuites =>
    { ok := lib.reply (.setCiphersuites ciphersuites)
      text := "Set cipher suites failed: No valid cipher suites" }

/-- A file of parameters is found, read, and set. -/
def dhFileSteps (name : String) : List SetupStep :=
  [{ ok := lib.reply (.bioNewFile name), text := "Could not find DH parameters file" },
    { ok := lib.reply (.readDhParams name)
      text := "Could not read DH parameters from file: "
      reason := lib.reason (.readDhParams name) },
    { ok := lib.reply .setTmpDh
      text := "Could not set DH parameters from file: ", reason := lib.reason .setTmpDh
      leaks := if lib.openssl3 then {.dh} else 0 }]

def dhSteps : List SetupStep :=
  match cfg.dhParams, lib.noDh with
  | none, true => []
  | some _, true => [{ ok := false, text := "DH parameter support not available" }]
  | some name, false => dhFileSteps lib name
  | none, false =>
      [{ ok := lib.reply .setDhAuto
         text := "Could not enable set DH auto: ", reason := lib.reason .setDhAuto }]

def certificateSteps : List SetupStep :=
  match cfg.certfile, cfg.cert with
  | some certfile, _ =>
      [{ ok := (lib.reply (.useCertificateFile certfile)).ok
         asked := (lib.reply (.useCertificateFile certfile)).asked
         text := "unable to set certificate file " ++ certfile ++ ": "
         reason := lib.reason (.useCertificateFile certfile) }]
  | none, some cert =>
      [{ ok := lib.reply (.useCertificateAsn1 (toInt cert.length) cert)
         text := "unable to set certificate: "
         reason := lib.reason (.useCertificateAsn1 (toInt cert.length) cert) }]
  | none, none =>
      [{ ok := true, asked := (lib.reply (.useCertificateFile lib.defaultCertFile)).asked }]

def keySteps : List SetupStep :=
  match keySource cfg with
  | some (.file keyfile) =>
      [{ ok := (lib.reply (.usePrivateKeyFile keyfile)).ok
         asked := (lib.reply (.usePrivateKeyFile keyfile)).asked
         flushes := true
         text := "unable to set public key file " ++ keyfile ++ " "
         reason := lib.reason (.usePrivateKeyFile keyfile) }]
  | some (.asn1 key) =>
      [{ ok := lib.reply (.usePrivateKeyAsn1 key (toInt key.length))
         flushes := true
         text := "unable to set public key: "
         reason := lib.reason (.usePrivateKeyAsn1 key (toInt key.length)) }]
  | _ => []

def privateKeySteps : List SetupStep :=
  if cfg.hasCertificate then
    keySteps lib cfg ++
      [{ ok := lib.reply .checkPrivateKey
         text := "private key does not match the certificate public key" }]
  else []

/-- Before 3.0, verify locations that do not load end `CTX_Init` without a word, and
without `SSL_CTX_free`. -/
def verifySteps : List SetupStep :=
  [{ ok := lib.openssl3 || lib.trust.verifyLocations cfg, leaks := {.ctx} }]

/-- What `CTX_Init` checks before it comes to the verify locations. -/
def setupSteps : List SetupStep :=
  { ok := lib.reply (.ctxNew cfg.isServer) } :: (cipherSteps lib cfg ++ (ciphersuiteSteps lib cfg ++
    (dhSteps lib cfg ++ (certificateSteps lib cfg ++ privateKeySteps lib cfg))))

/-- What `CTX_Init` checks, in order. -/
def checklist : List SetupStep := setupSteps lib cfg ++ verifySteps lib cfg

/-- The certificate that is in force. -/
def certSource : Option CertSource :=
  match cfg.certfile, cfg.cert with
  | some certfile, _ => some (.file certfile)
  | none, some cert => some (.asn1 cert)
  | none, none =>
      if (lib.reply (.useCertificateFile lib.defaultCertFile)).ok then some .default else none

/-- The configuration of a context that is returned. -/
def configured [DecidableEq C] (trust : TrustCtx C N) : SslCtx C N where
  versions := ctxInitVersions lib.build cfg
  keylog := lib.keylog
  cipherList := cfg.ciphers
  ciphersuites := cfg.ciphersuites
  securityLevel := if -1 < cfg.level ∧ cfg.level < 6 then some cfg.level else none
  dh := if lib.noDh then none else some ((cfg.dhParams.map DhSource.file).getD .auto)
  certificate := certSource lib cfg
  privateKey := if cfg.hasCertificate then keySource cfg else none
  keyChecked := cfg.hasCertificate
  verify :=
    if lib.openssl3 then (ctxInitVerify30 cfg lib.trust trust).2
    else (ctxInitVerify11 cfg lib.trust trust).2

/-! ## The code and the checklist -/

/-- Which handles the calls acquire, need and release.  A dynamic string may be
freed when it is empty; `SSL_CTX_set0_tmp_dh_pkey` takes its argument over if it
succeeds. -/
@[simps]
def ctxCustody : Custody CtxInitCall.Ans CtxHandle where
  needs
    | .ctxNew _ | .f2n _ | .dstringFree | .bioNewFile _ => 0
    | .bioFree | .readDhParams _ => {.bio}
    | .setTmpDh => {.ctx, .dh}
    | .dhFree => {.dh}
    | _ => {.ctx}
  gives
    | .ctxFree, _ => {.ctx}
    | .bioFree, _ => {.bio}
    | .dhFree, _ => {.dh}
    | .dstringFree, _ => {.ds}
    | .setTmpDh, ok => if lib.openssl3 ∧ ok = true then {.dh} else 0
    | _, _ => 0
  takes
    | .ctxNew _, ok => if ok = true then {.ctx} else 0
    | .f2n _, _ => {.ds}
    | .bioNewFile _, ok => if ok = true then {.bio} else 0
    | .readDhParams _, ok => if ok = true then {.dh} else 0
    | _, _ => 0
  answers e r := r = lib.reply e

/-- Started with the context, the code does what the steps say: it goes on exactly if
none of them fails, with the context changed by `f`. -/
def Conforms (p : CtxCode C N Bool) (steps : List SetupStep) (f : SslCtx C N → SslCtx C N) :
    Prop :=
  ∀ s, (ctxCustody lib).Owns
    (fun ok s' held => (⟨ok, s'.result, held⟩ : SetupVerdict) = SetupStep.verdict steps s.result ∧
      (ok = true → s'.ctx = f s.ctx)) p s {.ctx}

namespace SetupStep

variable {steps steps' : List SetupStep} {result : String}

theorem held_verdict (h : (verdict steps result).ok = true) :
    (verdict steps result).held = {.ctx} := by
  induction steps generalizing result with
  | nil => rfl
  | cons step steps ih =>
      rw [verdict] at h ⊢
      split at h
      next hok =>
        rw [if_pos hok]
        exact ih h
      next => contradiction

theorem verdict_append :
    verdict (steps ++ steps') result =
      if (verdict steps result).ok then verdict steps' (verdict steps result).result
      else verdict steps result := by
  induction steps generalizing result with
  | nil => rfl
  | cons step steps ih =>
      rw [List.cons_append, verdict, verdict, ih]
      cases step.ok <;> simp

end SetupStep

section Phases

variable {lib cfg}

theorem Conforms.andThen {p q : CtxCode C N Bool} {steps steps' : List SetupStep}
    {f g : SslCtx C N → SslCtx C N} (hp : Conforms lib p steps f) (hq : Conforms lib q steps' g) :
    Conforms lib (andThen p q) (steps ++ steps') (g ∘ f) := by
  intro s
  rw [TclTls.andThen, Custody.owns_bind]
  refine (hp s).mono fun ok s' held hverdict => ?_
  obtain ⟨hverdict, hctx⟩ := hverdict
  have hok : ok = (SetupStep.verdict steps s.result).ok := congrArg SetupVerdict.ok hverdict
  have hresult : s'.result = (SetupStep.verdict steps s.result).result :=
    congrArg SetupVerdict.result hverdict
  have hheld : held = (SetupStep.verdict steps s.result).held :=
    congrArg SetupVerdict.held hverdict
  cases ok with
  | false =>
      have hstop : SetupStep.verdict (steps ++ steps') s.result =
          SetupStep.verdict steps s.result := by
        rw [SetupStep.verdict_append, ← hok, if_neg Bool.false_ne_true]
      rw [if_neg Bool.false_ne_true, Custody.owns_pure, hstop]
      exact ⟨hverdict, nofun⟩
  | true =>
      have hgo : SetupStep.verdict (steps ++ steps') s.result =
          SetupStep.verdict steps' s'.result := by
        rw [SetupStep.verdict_append, ← hok, if_pos rfl, hresult]
      rw [if_pos rfl, hheld, SetupStep.held_verdict hok.symm, hgo]
      refine (hq s').mono fun ok' s'' held' hverdict' => ⟨hverdict'.1, fun hok' => ?_⟩
      rw [hverdict'.2 hok', hctx rfl, Function.comp_apply]

/-! ### Step by step -/

attribute [local simp] SetupStep.verdict SetupStep.fails SetupStep.leaves FileLoad.leaves
  Custody.after configure appendResult flushResult loaded releaseCtx Multiset.zero_le

theorem setCiphers_conforms : Conforms lib (setCiphers cfg) (cipherSteps lib cfg)
    (fun c => { c with cipherList := cfg.ciphers <|> c.cipherList }) := by
  intro s
  cases hciphers : cfg.ciphers with
  | none => simp [setCiphers, cipherSteps, hciphers]
  | some ciphers =>
      cases hok : lib.reply (.setCipherList ciphers) <;>
        simp [setCiphers, cipherSteps, hciphers, hok]

theorem setCiphersuites_conforms : Conforms lib (setCiphersuites cfg) (ciphersuiteSteps lib cfg)
    (fun c => { c with ciphersuites := cfg.ciphersuites <|> c.ciphersuites }) := by
  intro s
  cases hsuites : cfg.ciphersuites with
  | none => simp [setCiphersuites, ciphersuiteSteps, hsuites]
  | some ciphersuites =>
      cases hok : lib.reply (.setCiphersuites ciphersuites) <;>
        simp [setCiphersuites, ciphersuiteSteps, hsuites, hok]

theorem setSecurityLevel_conforms : Conforms lib (setSecurityLevel cfg) []
    (fun c => if -1 < cfg.level ∧ cfg.level < 6 then { c with securityLevel := some cfg.level }
      else c) := by
  intro s
  by_cases hlevel : -1 < cfg.level ∧ cfg.level < 6 <;> simp [setSecurityLevel, hlevel]

theorem setDhFile_conforms (name : String) : Conforms lib (setDhFile lib name)
    (dhFileSteps lib name) (fun c => { c with dh := some (.file name) }) := by
  intro s
  cases hbio : lib.reply (.bioNewFile name) with
  | false => simp [setDhFile, dhFileSteps, hbio]
  | true =>
      cases hread : lib.reply (.readDhParams name) with
      | false => simp [setDhFile, dhFileSteps, hbio, hread]
      | true =>
          -- what becomes of the parameters depends on the library
          cases hset : lib.reply .setTmpDh <;> cases hopenssl : lib.openssl3 <;>
            simp [setDhFile, dhFileSteps, hbio, hread, hset, hopenssl]

theorem setDh_conforms : Conforms lib (setDh lib cfg) (dhSteps lib cfg)
    (fun c => if lib.noDh then c
      else { c with dh := some ((cfg.dhParams.map DhSource.file).getD .auto) }) := by
  cases hno : lib.noDh with
  | true =>
      intro s
      cases hparams : cfg.dhParams <;> simp [setDh, dhSteps, hparams, hno]
  | false =>
      cases hparams : cfg.dhParams with
      | some name =>
          simpa [setDh, dhSteps, hparams, hno] using @setDhFile_conforms C N lib name
      | none =>
          intro s
          cases hok : lib.reply .setDhAuto <;> simp [setDh, dhSteps, hparams, hno, hok]

theorem setCertificate_conforms : Conforms lib (setCertificate lib cfg)
    (certificateSteps lib cfg)
    (fun c => { c with certificate := certSource lib cfg <|> c.certificate }) := by
  intro s
  cases hfile : cfg.certfile with
  | some certfile =>
      cases hok : (lib.reply (.useCertificateFile certfile)).ok <;>
        simp [setCertificate, certificateSteps, certSource, hfile, hok]
  | none =>
      cases hcert : cfg.cert with
      | some cert =>
          cases hok : lib.reply (.useCertificateAsn1 (toInt cert.length) cert) <;>
            simp [setCertificate, certificateSteps, certSource, hfile, hcert, hok]
      | none =>
          cases hok : (lib.reply (.useCertificateFile lib.defaultCertFile)).ok <;>
            simp [setCertificate, certificateSteps, certSource, hfile, hcert, hok]

/-- No key is taken from the default certificate. -/
theorem keySource_ne_default (cfg : CtxConfig) : keySource cfg ≠ some .default := by
  unfold keySource
  split <;> simp

theorem setKey_conforms : Conforms lib (setKey lib cfg) (keySteps lib cfg)
    (fun c => { c with privateKey := keySource cfg <|> c.privateKey }) := by
  intro s
  cases hsource : keySource cfg with
  | none => simp [setKey, keySteps, hsource]
  | some source =>
      cases source with
      | default => exact absurd hsource (keySource_ne_default cfg)
      | file keyfile =>
          cases hok : (lib.reply (.usePrivateKeyFile keyfile)).ok <;>
            simp [setKey, setKeyFile, keySteps, hsource, hok]
      | asn1 key =>
          cases hok : lib.reply (.usePrivateKeyAsn1 key (toInt key.length)) <;>
            simp [setKey, setKeyAsn1, keySteps, hsource, hok]

theorem checkKey_conforms : Conforms lib checkKey
    [{ ok := lib.reply .checkPrivateKey
       text := "private key does not match the certificate public key" }]
    (fun c => { c with keyChecked := true }) := by
  intro s
  cases hok : lib.reply .checkPrivateKey <;> simp [checkKey, hok]

theorem setPrivateKey_conforms : Conforms lib (setPrivateKey lib cfg) (privateKeySteps lib cfg)
    (fun c => if cfg.hasCertificate then
        { c with privateKey := keySource cfg <|> c.privateKey, keyChecked := true }
      else c) := by
  cases hcert : cfg.hasCertificate with
  | false =>
      intro s
      simp [setPrivateKey, privateKeySteps, hcert]
  | true =>
      have hkey := (@setKey_conforms C N lib cfg).andThen checkKey_conforms
      simpa [setPrivateKey, privateKeySteps, hcert, Function.comp_def] using hkey

theorem setVerify_conforms [DecidableEq C] : Conforms lib (setVerify lib cfg)
    (verifySteps lib cfg)
    (fun c => { c with verify :=
      if lib.openssl3 then (ctxInitVerify30 cfg lib.trust c.verify.trust).2
      else (ctxInitVerify11 cfg lib.trust c.verify.trust).2 }) := by
  intro s
  cases hopenssl : lib.openssl3 with
  | true =>
      have hreturned : (ctxInitVerify30 cfg lib.trust s.ctx.verify.trust).1 = true := rfl
      simp [setVerify, verifySteps, hopenssl, hreturned]
  | false =>
      have hreturned : (ctxInitVerify11 cfg lib.trust s.ctx.verify.trust).1 =
          lib.trust.verifyLocations cfg :=
        Bool.eq_iff_iff.mpr (returned11_iff cfg lib.trust s.ctx.verify.trust)
      cases hlocations : lib.trust.verifyLocations cfg <;>
        simp [setVerify, verifySteps, hopenssl, hreturned, hlocations]

end Phases

/-! ## From the first line to the last -/

section Whole

variable [DecidableEq C] {lib cfg}

/-- A context that has just been created: it has the versions, and the sources of
trust of a new one. -/
def created (lib : CtxLibrary C N) (cfg : CtxConfig) (trust : TrustCtx C N) : SslCtx C N where
  versions := ctxInitVersions lib.build cfg
  keylog := lib.keylog
  verify := { trust }

/-- Everything that is done to it. -/
theorem configure_conforms : ∃ f, (∀ trust, f (created lib cfg trust) = configured lib cfg trust) ∧
    Conforms lib (andThen (setCiphers cfg) <| andThen (setCiphersuites cfg) <|
      andThen (setSecurityLevel cfg) <| andThen (setDh lib cfg) <|
        andThen (setCertificate lib cfg) <| andThen (setPrivateKey lib cfg) (setVerify lib cfg))
      (checklist lib cfg).tail f := by
  have hsteps : (checklist lib cfg).tail = cipherSteps lib cfg ++ (ciphersuiteSteps lib cfg ++
      ([] ++ (dhSteps lib cfg ++ (certificateSteps lib cfg ++ (privateKeySteps lib cfg ++
        verifySteps lib cfg))))) := by
    simp only [checklist, setupSteps, List.cons_append, List.tail_cons, List.append_assoc,
      List.nil_append]
  rw [hsteps]
  refine ⟨_, fun trust => ?_, setCiphers_conforms.andThen <| setCiphersuites_conforms.andThen <|
    setSecurityLevel_conforms.andThen <| setDh_conforms.andThen <|
      setCertificate_conforms.andThen <| setPrivateKey_conforms.andThen setVerify_conforms⟩
  simp only [Function.comp_apply, created, configured, Option.orElse_eq_orElse]
  cases lib.noDh <;> cases cfg.hasCertificate <;>
    by_cases hlevel : -1 < cfg.level ∧ cfg.level < 6 <;> simp [hlevel]

/-- The interpreter and the context before `CTX_Init`. -/
def CtxInit.fresh (trust : TrustCtx C N) : CtxInit C N where
  ctx := { verify := { trust } }

/-- `CTX_Init` owns what it uses, and comes to what the checklist says. -/
theorem ctxInit_owns (trust : TrustCtx C N) :
    (ctxCustody lib).Owns
      (fun ok s' held => (⟨ok, s'.result, held⟩ : SetupVerdict) =
          SetupStep.verdict (checklist lib cfg) "" ∧
        (ok = true → s'.ctx = configured lib cfg trust))
      (ctxInit lib cfg) (CtxInit.fresh trust) 0 := by
  have hlist : checklist lib cfg = { ok := lib.reply (.ctxNew cfg.isServer) } ::
      (checklist lib cfg).tail := rfl
  rw [ctxInit, andThen, Custody.owns_bind, createCtx, hlist, SetupStep.verdict]
  cases hnew : lib.reply (.ctxNew cfg.isServer) with
  | false => simp [Custody.after, hnew, CtxInit.fresh, SetupStep.fails,
      SetupStep.leaves, FileLoad.leaves]
  | true =>
      obtain ⟨f, hf, hrest⟩ := @configure_conforms C N lib cfg _
      have hconfigure := hrest ⟨created lib cfg trust, ""⟩
      rw [hf] at hconfigure
      simpa [Custody.after, hnew, CtxInit.fresh, configure, created,
        SetupStep.leaves, FileLoad.leaves] using hconfigure

end Whole

/-! ## What a checklist comes to -/

namespace SetupStep

variable {steps passed rest : List SetupStep} {step : SetupStep} {result : String}

/-- What is left in the result by steps that do not fail. -/
def leftBy (passed : List SetupStep) (result : String) : String :=
  passed.foldl (fun result step => step.leaves result) result

theorem verdict_of_all (h : ∀ step ∈ steps, step.ok = true) :
    verdict steps result = ⟨true, leftBy steps result, {.ctx}⟩ := by
  induction steps generalizing result with
  | nil => rfl
  | cons step steps ih =>
      rw [List.forall_mem_cons] at h
      rw [verdict, if_pos h.1, ih h.2]
      rfl

theorem verdict_of_first (hpassed : ∀ step ∈ passed, step.ok = true) (hstep : step.ok = false) :
    verdict (passed ++ step :: rest) result =
      ⟨false, step.fails (leftBy passed result), step.leaks⟩ := by
  rw [verdict_append, verdict_of_all hpassed, if_pos rfl, verdict, hstep,
    if_neg Bool.false_ne_true]

theorem ok_verdict_iff : (verdict steps result).ok = true ↔ ∀ step ∈ steps, step.ok = true := by
  induction steps generalizing result with
  | nil => simp [verdict]
  | cons step steps ih => cases hok : step.ok <;> simp [verdict, hok, ih]

/-- A checklist that is not passed has a first step that fails. -/
theorem exists_first (h : ¬ ∀ step ∈ steps, step.ok = true) :
    ∃ passed step rest, steps = passed ++ step :: rest ∧ (∀ step ∈ passed, step.ok = true) ∧
      step.ok = false := by
  induction steps with
  | nil => exact absurd (List.forall_mem_nil _) h
  | cons step steps ih =>
      cases hok : step.ok with
      | false => exact ⟨[], step, steps, rfl, List.forall_mem_nil _, hok⟩
      | true =>
          have hrest : ¬ ∀ step ∈ steps, step.ok = true := fun hall =>
            h (List.forall_mem_cons.mpr ⟨hok, hall⟩)
          obtain ⟨passed, first, rest, rfl, hpassed, hfirst⟩ := ih hrest
          exact ⟨step :: passed, first, rest, rfl, List.forall_mem_cons.mpr ⟨hok, hpassed⟩, hfirst⟩

end SetupStep

/-! ## Runs -/

section Runs

variable [DecidableEq C]

/-- The library answers every call, and has nothing else to remember. -/
def CtxLibrary.answer (e : CtxInitCall) (g : Unit) : e.Ans × Unit := (lib.reply e, g)

/-- A run of `CTX_Init`. -/
def runCtxInit (trust : TrustCtx C N) : Bool × World (CtxInit C N) Unit :=
  (ctxInit lib cfg).run lib.answer ⟨.fresh trust, ()⟩

/-- The calls that are made in it. -/
def ctxInitCalls (trust : TrustCtx C N) : List (Σ e, CtxInitCall.Ans e) :=
  (ctxInit lib cfg).trace lib.answer ⟨.fresh trust, ()⟩

theorem run_ctxInit (trust : TrustCtx C N) :
    (ctxCustody lib).Lawful 0 (ctxInitCalls lib cfg trust) ∧
      (⟨(runCtxInit lib cfg trust).1, (runCtxInit lib cfg trust).2.st.result,
        (ctxCustody lib).heldAfter 0 (ctxInitCalls lib cfg trust)⟩ : SetupVerdict) =
          SetupStep.verdict (checklist lib cfg) "" ∧
      ((runCtxInit lib cfg trust).1 = true →
        (runCtxInit lib cfg trust).2.st.ctx = configured lib cfg trust) := by
  obtain ⟨hlawful, hverdict, hctx⟩ := Custody.run_of_owns (h := lib.answer)
    (w := ⟨CtxInit.fresh trust, ()⟩) (fun _ _ => rfl) (@ctxInit_owns C N lib cfg _ trust)
  exact ⟨hlawful, hverdict, hctx⟩

end Runs

end TclTls
