import Mathlib.Data.List.Basic
import TclTls.Cipher
import TclTls.Import

/-!
# TclTls.TrustSources

Where the trusted certificates of a context come from.

`TlsLoadClientCAFileFromMemory` adds the certificates of a file to the store of the
context one by one, and the store keeps what it was given when a later one fails
(`memory_allOrNothing_iff`).  `CTX_Init` counts the sources that fail to load, and does
nothing with the count (`trust_sources_iff`).
-/

namespace TclTls

section Memory

variable {C N : Type} [DecidableEq C]

/-! ## Certificates in memory -/

/-- A certificate that `PEM_read_bio_X509` reads, and what becomes of it. -/
structure PemCert (C N : Type) where
  cert : C
  /-- `X509_get_subject_name`, which may be `NULL` -/
  subject : Option N
  /-- `X509_STORE_add_cert` -/
  added : Bool
  /-- `X509_NAME_dup` and `sk_X509_NAME_push` -/
  named : Bool

/-- A file of certificates, and the steps before the first of them is read. -/
structure PemFile (C N : Type) where
  /-- `Tcl_FSOpenFileChannel` -/
  opened : Bool
  /-- `Tcl_ReadChars` -/
  read : Bool
  /-- `BIO_new_mem_buf` -/
  bio : Bool
  /-- `X509_STORE_new` -/
  newStore : Bool
  /-- `sk_X509_NAME_new_null` -/
  newNames : Bool
  certs : List (PemCert C N)

/-- The store of a context, and the list of CAs that it sends to clients. -/
structure TrustCtx (C N : Type) where
  certStore : Option (List C)
  clientCAs : Option (List N)

/-- The variables of the loop. -/
structure LoadState (C N : Type) where
  store : List C
  certNames : List N
  ret : Int

/-- The loop.  A store has a certificate once, however often it is added. -/
def loadCerts (st : LoadState C N) : List (PemCert C N) → LoadState C N
  | [] => st
  | pem :: certs =>
      if pem.added then
        let st := { st with store := st.store.insert pem.cert }
        match pem.subject with
        | some name =>
            if pem.named then
              loadCerts { st with certNames := st.certNames ++ [name], ret := toInt (st.ret + 1) }
                certs
            else { st with ret := 0 }
        | none => loadCerts { st with ret := toInt (st.ret + 1) } certs
      else { st with ret := 0 }

/-- `TlsLoadClientCAFileFromMemory`: what it returns, and the context. -/
def tlsLoadClientCAFileFromMemory (ctx : TrustCtx C N) (file : PemFile C N) :
    Int × TrustCtx C N :=
  if file.opened && file.read && file.bio then
    match ctx.certStore with
    | some store =>
        if file.newNames then
          -- the store is the context's own, and is not put back at `cleanup`
          let st := loadCerts ⟨store, [], 0⟩ file.certs
          if st.ret ≠ 0 then (st.ret, ⟨some st.store, some st.certNames⟩)
          else (0, { ctx with certStore := some st.store })
        else (0, ctx)
    | none =>
        if file.newStore && file.newNames then
          let st := loadCerts ⟨[], [], 0⟩ file.certs
          if st.ret ≠ 0 then (st.ret, ⟨some st.store, some st.certNames⟩)
          else (0, ctx)
        else (0, ctx)
  else (0, ctx)

/-! ## All or nothing -/

/-- The store with the certificates added. -/
def addAll (store certs : List C) : List C := certs.foldl (fun store cert => store.insert cert) store

/-- The certificates of the file. -/
def PemFile.all (file : PemFile C N) : List C := file.certs.map PemCert.cert

/-- Their subjects. -/
def PemFile.subjects (file : PemFile C N) : List N := file.certs.filterMap PemCert.subject

/-- Either all certificates are in force and counted, or nothing has changed. -/
def AllOrNothing (ctx : TrustCtx C N) (file : PemFile C N) (result : Int × TrustCtx C N) : Prop :=
  (0 < file.certs.length ∧ result.1 = file.certs.length ∧
      result.2 = ⟨some (addAll (ctx.certStore.getD []) file.all), some file.subjects⟩) ∨
    (result.1 = 0 ∧ result.2 = ctx)

/-- The certificates that have been added when a step fails, if one does. -/
def addedBeforeFailure : List (PemCert C N) → Option (List C)
  | [] => none
  | pem :: certs =>
      if pem.added then
        if pem.subject.isSome && !pem.named then some [pem.cert]
        else (addedBeforeFailure certs).map (pem.cert :: ·)
      else some []

/-- The file is read, and there is memory for its certificates. -/
def PemFile.Reaches (file : PemFile C N) (ctx : TrustCtx C N) : Prop :=
  (file.opened && file.read && file.bio && file.newNames) = true ∧
    (ctx.certStore = none → file.newStore = true)

/-- Adding the certificates makes no difference to the context: it has them, or has no
store yet. -/
def Unaffected (ctx : TrustCtx C N) (certs : List C) : Prop :=
  ∀ store, ctx.certStore = some store → ∀ cert ∈ certs, cert ∈ store

/-- No step fails, and an `int` counts the certificates; or the count ends as 0, and what
has been added by then makes no difference. -/
def LoadsOrUnaffected (ctx : TrustCtx C N) (file : PemFile C N) : Prop :=
  match addedBeforeFailure file.certs with
  | some added => Unaffected ctx added
  | none => file.certs.length < 2 ^ 31 ∨
      ((2 ^ 32 : Int) ∣ file.certs.length ∧ Unaffected ctx file.all)

theorem mem_addAll {store certs : List C} {cert : C} :
    cert ∈ addAll store certs ↔ cert ∈ certs ∨ cert ∈ store := by
  induction certs generalizing store with
  | nil => simp [addAll]
  | cons c certs ih =>
      rw [addAll, List.foldl_cons, ← addAll, ih, List.mem_insert_iff, List.mem_cons]
      grind

theorem addAll_eq_self_iff {store certs : List C} :
    addAll store certs = store ↔ ∀ cert ∈ certs, cert ∈ store := by
  constructor
  · intro h cert hcert
    rw [← h, mem_addAll]
    exact .inl hcert
  · intro h
    induction certs with
    | nil => rfl
    | cons c certs ih =>
        rw [List.forall_mem_cons] at h
        rw [addAll, List.foldl_cons, List.insert_of_mem h.1]
        exact ih h.2

/-- A step that fails ends the loop with a count of 0 and the store as it is then. -/
theorem loadCerts_of_failure {certs : List (PemCert C N)} {added : List C}
    (h : addedBeforeFailure certs = some added) (st : LoadState C N) :
    (loadCerts st certs).ret = 0 ∧ (loadCerts st certs).store = addAll st.store added := by
  induction certs generalizing st added with
  | nil => contradiction
  | cons pem certs ih =>
      obtain ⟨cert, subject, added', named⟩ := pem
      cases added' with
      | false =>
          obtain rfl : [] = added := by simpa [addedBeforeFailure] using h
          exact ⟨rfl, rfl⟩
      | true =>
          have hrest : ∀ ret names, (addedBeforeFailure certs).map (cert :: ·) = some added →
              (loadCerts ⟨st.store.insert cert, names, ret⟩ certs).ret = 0 ∧
                (loadCerts ⟨st.store.insert cert, names, ret⟩ certs).store =
                  addAll st.store added := by
            intro ret names hmap
            obtain ⟨later, hlater, rfl⟩ := Option.map_eq_some_iff.mp hmap
            exact ih hlater _
          cases subject with
          | none => exact hrest _ _ (by simpa [addedBeforeFailure] using h)
          | some name =>
              cases named with
              | true => exact hrest _ _ (by simpa [addedBeforeFailure] using h)
              | false =>
                  obtain rfl : [cert] = added := by simpa [addedBeforeFailure] using h
                  exact ⟨rfl, rfl⟩

/-- Without one the loop goes through all certificates. -/
theorem loadCerts_of_success {certs : List (PemCert C N)} (h : addedBeforeFailure certs = none)
    (store : List C) (names : List N) (n : Int) :
    loadCerts ⟨store, names, toInt n⟩ certs =
      ⟨addAll store (certs.map PemCert.cert), names ++ certs.filterMap PemCert.subject,
        toInt (n + certs.length)⟩ := by
  induction certs generalizing store names n with
  | nil => simp [loadCerts, addAll]
  | cons pem certs ih =>
      obtain ⟨cert, subject, added, named⟩ := pem
      have hcount := toInt_add n 1
      have hlength : n + 1 + (certs.length : Int) = n + ((certs.length + 1 : Nat) : Int) := by
        omega
      cases added with
      | false => simp [addedBeforeFailure] at h
      | true =>
          cases subject with
          | none =>
              have hrest : addedBeforeFailure certs = none := by
                simpa [addedBeforeFailure] using h
              simp only [loadCerts, if_true, hcount, ih hrest, hlength, List.length_cons]
              simp [addAll]
          | some name =>
              cases named with
              | false => simp [addedBeforeFailure] at h
              | true =>
                  have hrest : addedBeforeFailure certs = none := by
                    simpa [addedBeforeFailure] using h
                  simp only [loadCerts, if_true, hcount, ih hrest, hlength, List.length_cons]
                  simp [addAll]

/-- Without memory or without the file nothing happens. -/
theorem load_of_not_reaches {ctx : TrustCtx C N} {file : PemFile C N} (h : ¬ file.Reaches ctx) :
    tlsLoadClientCAFileFromMemory ctx file = (0, ctx) := by
  unfold PemFile.Reaches at h
  unfold tlsLoadClientCAFileFromMemory
  cases hstore : ctx.certStore <;> grind

theorem load_of_reaches {ctx : TrustCtx C N} {file : PemFile C N} (h : file.Reaches ctx) :
    tlsLoadClientCAFileFromMemory ctx file =
      if (loadCerts ⟨ctx.certStore.getD [], [], 0⟩ file.certs).ret ≠ 0 then
        ((loadCerts ⟨ctx.certStore.getD [], [], 0⟩ file.certs).ret,
          ⟨some (loadCerts ⟨ctx.certStore.getD [], [], 0⟩ file.certs).store,
            some (loadCerts ⟨ctx.certStore.getD [], [], 0⟩ file.certs).certNames⟩)
      else (0, { ctx with
        certStore := ctx.certStore.map fun store =>
          (loadCerts ⟨store, [], 0⟩ file.certs).store }) := by
  obtain ⟨certStore, clientCAs⟩ := ctx
  unfold PemFile.Reaches at h
  unfold tlsLoadClientCAFileFromMemory
  cases certStore <;> grind

/-- The context with the certificates in its store, if it has one. -/
theorem certStore_map_eq_iff (ctx : TrustCtx C N) (certs : List C) :
    ({ ctx with certStore := ctx.certStore.map fun store => addAll store certs } :
      TrustCtx C N) = ctx ↔ Unaffected ctx certs := by
  obtain ⟨certStore, clientCAs⟩ := ctx
  unfold Unaffected
  cases certStore with
  | none => simp
  | some store => simp [addAll_eq_self_iff]

/-- **Loading from memory is all or nothing** exactly where no step fails and an `int`
counts the certificates, or where what has been added by the time a step fails makes no
difference. -/
theorem memory_allOrNothing_iff (ctx : TrustCtx C N) (file : PemFile C N) :
    AllOrNothing ctx file (tlsLoadClientCAFileFromMemory ctx file) ↔
      (file.Reaches ctx → LoadsOrUnaffected ctx file) := by
  by_cases hreach : file.Reaches ctx
  · rw [imp_iff_right hreach, load_of_reaches hreach, LoadsOrUnaffected, AllOrNothing]
    cases hfailure : addedBeforeFailure file.certs with
    | some added =>
        obtain ⟨hret, -⟩ := loadCerts_of_failure hfailure (⟨ctx.certStore.getD [], [], 0⟩ :
          LoadState C N)
        have hstore : ∀ store, (loadCerts (⟨store, [], 0⟩ : LoadState C N) file.certs).store =
            addAll store added := fun store => (loadCerts_of_failure hfailure _).2
        simp only [hret, hstore, ne_eq, not_true, if_false, true_and]
        rw [certStore_map_eq_iff]
        exact or_iff_right (by omega)
    | none =>
        have hload : ∀ store, loadCerts (⟨store, [], 0⟩ : LoadState C N) file.certs =
            ⟨addAll store file.all, file.subjects, toInt file.certs.length⟩ := by
          intro store
          have hzero : (0 : Int) = toInt 0 := rfl
          rw [hzero, loadCerts_of_success hfailure, List.nil_append, Int.zero_add]
          rfl
        simp only [hload]
        by_cases hcount : toInt file.certs.length = 0
        · simp only [hcount, ne_eq, not_true, if_false, true_and]
          rw [certStore_map_eq_iff, ← toInt_eq_zero_iff, ← toInt_eq_natCast_iff, hcount]
          have hempty : (0 : Int) = file.certs.length → Unaffected ctx file.all := by
            intro hlength store hstore cert hcert
            have hnil : file.certs = [] := List.eq_nil_of_length_eq_zero (by omega)
            rw [PemFile.all, hnil, List.map_nil] at hcert
            exact absurd hcert List.not_mem_nil
          grind
        · rw [if_pos hcount, ← toInt_eq_natCast_iff, ← toInt_eq_zero_iff]
          have hpos : 0 < file.certs.length := by
            apply Nat.pos_of_ne_zero
            intro hzero
            apply hcount
            rw [hzero]
            rfl
          simp [hcount, hpos]
  · rw [load_of_not_reaches hreach]
    exact iff_of_true (.inr ⟨rfl, rfl⟩) fun h => absurd h hreach

end Memory

/-- A file of two certificates, of which the second is not added. -/
def brokenFile : PemFile Nat String where
  opened := true
  read := true
  bio := true
  newStore := true
  newNames := true
  certs := [⟨1, some "first", true, true⟩, ⟨2, some "second", false, true⟩]

/-- The first one stays in the store. -/
theorem memory_keeps_first :
    tlsLoadClientCAFileFromMemory ⟨some [], none⟩ brokenFile = (0, ⟨some [1], none⟩) ∧
      ¬ AllOrNothing ⟨some [], none⟩ brokenFile
        (tlsLoadClientCAFileFromMemory ⟨some [], none⟩ brokenFile) := by
  refine ⟨rfl, ?_⟩
  rintro (⟨-, hcount, -⟩ | ⟨-, hsame⟩)
  · exact absurd hcount (by decide)
  · have hstore : some [1] = some ([] : List Nat) := congrArg TrustCtx.certStore hsame
    exact absurd hstore (by decide)

/-! ## The sources of a context -/

/-- Where trusted certificates are loaded from. -/
inductive TrustSource where
  | defaultPaths
  | dir (caPath : String)
  | store (caStore : String)
  | file (caFile : String)
deriving DecidableEq, Repr

/-- The sources that `CTX_Init` is given, beside the default paths. -/
def trustSources (cfg : CtxConfig) : List TrustSource :=
  .defaultPaths :: (cfg.caPath.toList.map .dir ++ (cfg.caStore.toList.map .store ++
    cfg.caFile.toList.map .file))

theorem forall_trustSources_iff (cfg : CtxConfig) (P : TrustSource → Prop) :
    (∀ source ∈ trustSources cfg, P source) ↔
      P .defaultPaths ∧ (∀ caPath, cfg.caPath = some caPath → P (.dir caPath)) ∧
        (∀ caStore, cfg.caStore = some caStore → P (.store caStore)) ∧
        ∀ caFile, cfg.caFile = some caFile → P (.file caFile) := by
  rw [trustSources, List.forall_mem_cons, List.forall_mem_append, List.forall_mem_append]
  simp

/-- Success or failure of the library for each source. -/
structure TrustAnswers (C N : Type) where
  /-- `SSL_CTX_set_default_verify_paths` -/
  defaultPaths : Bool
  /-- the directory loads -/
  dir : Bool
  /-- `SSL_CTX_load_verify_store` -/
  store : Bool
  /-- the file loads through the native file system -/
  file : Bool
  /-- `SSL_load_client_CA_file`, which may be `NULL` -/
  clientCAFile : Option (List N)
  /-- the type in `Tcl_FSFileSystemInfo`, which may be `NULL` -/
  fsType : Option String
  /-- what is read of the file through Tcl -/
  memory : PemFile C N

/-- A context, with the sources that have been loaded into it: what the library loads by
itself is known by its source only. -/
structure VerifyCtx (C N : Type) where
  trust : TrustCtx C N
  loaded : List TrustSource := []
  freed : Bool := false

/-- The context and the counter of the sources that failed. -/
structure Verifying (C N : Type) where
  ctx : VerifyCtx C N
  abort : Nat

section Sources

variable {C N : Type}

/-- One call of the library: the source is loaded, or `abort++`. -/
def Verifying.load (v : Verifying C N) (source : TrustSource) (ok : Bool) : Verifying C N :=
  if ok then { v with ctx := { v.ctx with loaded := v.ctx.loaded ++ [source] } }
  else { v with abort := v.abort + 1 }

/-- `SSL_CTX_set_client_CA_list` -/
def Verifying.setClientCAs (v : Verifying C N) (certNames : Option (List N)) : Verifying C N :=
  match certNames with
  | some names => { v with ctx.trust.clientCAs := some names }
  | none => v

/-- The end of `CTX_Init`: whether it returns the context.  The branch for
`abort > 0` is empty. -/
def Verifying.finish (v : Verifying C N) : Bool × VerifyCtx C N := (true, v.ctx)

/-- A context that is returned has all the sources, and one that is not has been
released. -/
def LoadedOrReleased (cfg : CtxConfig) (result : Bool × VerifyCtx C N) : Prop :=
  (result.1 = true → ∀ source ∈ trustSources cfg, source ∈ result.2.loaded) ∧
    (result.1 = false → result.2.freed = true)

theorem mem_loaded_load {v : Verifying C N} {source source' : TrustSource} {ok : Bool} :
    source ∈ (v.load source' ok).ctx.loaded ↔
      source ∈ v.ctx.loaded ∨ (source = source' ∧ ok = true) := by
  cases ok <;> simp [Verifying.load]

@[simp] theorem trust_load (v : Verifying C N) (source : TrustSource) (ok : Bool) :
    (v.load source ok).ctx.trust = v.ctx.trust := by
  cases ok <;> rfl

@[simp] theorem loaded_setClientCAs (v : Verifying C N) (certNames : Option (List N)) :
    (v.setClientCAs certNames).ctx.loaded = v.ctx.loaded := by
  cases certNames <;> rfl

/-! ## Before 3.0 -/

/-- `SSL_CTX_load_verify_locations`: both locations load that are given. -/
def TrustAnswers.verifyLocations (ans : TrustAnswers C N) (cfg : CtxConfig) : Bool :=
  (cfg.caFile.isNone || ans.file) && (cfg.caPath.isNone || ans.dir)

/-- The verify locations of `CTX_Init`, for a library before 3.0. -/
def ctxInitVerify11 (cfg : CtxConfig) (ans : TrustAnswers C N) (trust : TrustCtx C N) :
    Bool × VerifyCtx C N :=
  let v := Verifying.load ⟨{ trust }, 0⟩ .defaultPaths ans.defaultPaths
  if cfg.caPath.isSome || cfg.caFile.isSome then
    if ans.verifyLocations cfg then
      let loaded := v.ctx.loaded ++ (cfg.caFile.toList.map .file ++ cfg.caPath.toList.map .dir)
      let v := { v with ctx.loaded := loaded }
      (v.setClientCAs (cfg.caFile.bind fun _ => ans.clientCAFile)).finish
    -- `return NULL`, without `SSL_CTX_free`
    else (false, v.ctx)
  else v.finish

/-- The source can be loaded, before 3.0: there are no stores, and no other file
systems. -/
def TrustAnswers.Loads11 (ans : TrustAnswers C N) : TrustSource → Prop
  | .defaultPaths => ans.defaultPaths = true
  | .dir _ => ans.dir = true
  | .store _ => False
  | .file _ => ans.file = true

theorem verifyLocations_iff (ans : TrustAnswers C N) (cfg : CtxConfig) :
    ans.verifyLocations cfg = true ↔
      (∀ caPath, cfg.caPath = some caPath → ans.dir = true) ∧
        ∀ caFile, cfg.caFile = some caFile → ans.file = true := by
  rw [TrustAnswers.verifyLocations]
  cases cfg.caPath <;> cases cfg.caFile <;> simp [and_comm]

/-- Before 3.0 nothing is returned where one of the two locations does not load. -/
theorem returned11_iff (cfg : CtxConfig) (ans : TrustAnswers C N) (trust : TrustCtx C N) :
    (ctxInitVerify11 cfg ans trust).1 = true ↔ ans.verifyLocations cfg = true := by
  rw [ctxInitVerify11, TrustAnswers.verifyLocations]
  cases cfg.caPath <;> cases cfg.caFile <;> simp [Verifying.finish] <;> split <;> grind

theorem freed11 (cfg : CtxConfig) (ans : TrustAnswers C N) (trust : TrustCtx C N) :
    (ctxInitVerify11 cfg ans trust).2.freed = false := by
  have hload : ∀ ok, (Verifying.load (⟨{ trust }, 0⟩ : Verifying C N) .defaultPaths
      ok).ctx.freed = false := by
    intro ok
    cases ok <;> rfl
  have hcas : ∀ (v : Verifying C N) certNames, (v.setClientCAs certNames).ctx.freed = v.ctx.freed := by
    intro v certNames
    cases certNames <;> rfl
  simp only [ctxInitVerify11, Verifying.finish]
  split
  · split
    · rw [hcas]
      exact hload _
    · exact hload _
  · exact hload _

/-- A context that is returned has the default paths, the file and the directory. -/
theorem mem_loaded11_iff {cfg : CtxConfig} {ans : TrustAnswers C N} (trust : TrustCtx C N)
    (h : ans.verifyLocations cfg = true) (source : TrustSource) :
    source ∈ (ctxInitVerify11 cfg ans trust).2.loaded ↔
      (source = .defaultPaths ∧ ans.defaultPaths = true) ∨
        source ∈ cfg.caFile.toList.map TrustSource.file ∨
        source ∈ cfg.caPath.toList.map TrustSource.dir := by
  have hfirst : source ∈ (Verifying.load (⟨{ trust }, 0⟩ : Verifying C N) .defaultPaths
      ans.defaultPaths).ctx.loaded ↔ source = .defaultPaths ∧ ans.defaultPaths = true := by
    rw [mem_loaded_load]
    simp
  rw [ctxInitVerify11, if_pos h]
  split
  · simp only [Verifying.finish, loaded_setClientCAs, List.mem_append, hfirst]
  · rename_i hneither
    have hnone : cfg.caPath = none ∧ cfg.caFile = none := by
      simpa using hneither
    simp [Verifying.finish, hfirst, hnone]

theorem loadedOrReleased11_iff (cfg : CtxConfig) (ans : TrustAnswers C N)
    (trust : TrustCtx C N) :
    LoadedOrReleased cfg (ctxInitVerify11 cfg ans trust) ↔
      ∀ source ∈ trustSources cfg, ans.Loads11 source := by
  rw [forall_trustSources_iff, LoadedOrReleased, freed11]
  by_cases hlocations : ans.verifyLocations cfg = true
  · have hctx : (ctxInitVerify11 cfg ans trust).1 = true :=
      (returned11_iff cfg ans trust).mpr hlocations
    simp only [hctx, mem_loaded11_iff trust hlocations, forall_trustSources_iff]
    rw [verifyLocations_iff] at hlocations
    simp only [TrustAnswers.Loads11]
    grind
  · -- nothing is returned, and the context is not released
    have hnull : (ctxInitVerify11 cfg ans trust).1 = false := by
      rw [← Bool.not_eq_true, returned11_iff]
      exact hlocations
    rw [verifyLocations_iff] at hlocations
    refine iff_of_false (fun h => Bool.noConfusion (h.2 hnull)) fun hall => ?_
    exact hlocations ⟨hall.2.1, hall.2.2.2⟩

/-! ## From 3.0 on -/

variable [DecidableEq C]

/-- The file of CA certificates, from 3.0 on. -/
def Verifying.loadFile (v : Verifying C N) (caFile : String) (ans : TrustAnswers C N) :
    Verifying C N :=
  match ans.fsType with
  | some fsType =>
      -- `Tcl_StringMatch`; the names of file systems have no special characters
      if fsType = "native" then (v.load (.file caFile) ans.file).setClientCAs ans.clientCAFile
      else
        let (ret, trust) := tlsLoadClientCAFileFromMemory v.ctx.trust ans.memory
        ({ v with ctx.trust := trust }).load (.file caFile) (ret != 0)
  | none => { v with abort := v.abort + 1 }

/-- The verify locations of `CTX_Init`, with `OPENSSL_VERSION_NUMBER >= 0x30000000L`. -/
def ctxInitVerify30 (cfg : CtxConfig) (ans : TrustAnswers C N) (trust : TrustCtx C N) :
    Bool × VerifyCtx C N :=
  let v := Verifying.load ⟨{ trust }, 0⟩ .defaultPaths ans.defaultPaths
  let v := cfg.caPath.elim v fun caPath => v.load (.dir caPath) ans.dir
  let v := cfg.caStore.elim v fun caStore => v.load (.store caStore) ans.store
  let v := cfg.caFile.elim v fun caFile => v.loadFile caFile ans
  v.finish

/-- No step of loading the file into memory fails, and the count of its certificates
does not end as 0. -/
def PemFile.Loads (file : PemFile C N) (trust : TrustCtx C N) : Prop :=
  file.Reaches trust ∧ addedBeforeFailure file.certs = none ∧
    ¬ (2 ^ 32 : Int) ∣ file.certs.length

/-- The source can be loaded, from 3.0 on: a file on another file system than the
native one is loaded from memory. -/
def TrustAnswers.Loads30 (ans : TrustAnswers C N) (trust : TrustCtx C N) : TrustSource → Prop
  | .defaultPaths => ans.defaultPaths = true
  | .dir _ => ans.dir = true
  | .store _ => ans.store = true
  | .file _ =>
      (ans.fsType = some "native" ∧ ans.file = true) ∨
        ((∃ fsType, ans.fsType = some fsType ∧ fsType ≠ "native") ∧ ans.memory.Loads trust)

/-- The loader reports success exactly where the file loads. -/
theorem load_ne_zero_iff (trust : TrustCtx C N) (file : PemFile C N) :
    (tlsLoadClientCAFileFromMemory trust file).1 ≠ 0 ↔ file.Loads trust := by
  unfold PemFile.Loads
  by_cases hreach : file.Reaches trust
  · rw [load_of_reaches hreach]
    have hfst : ∀ (ret : Int) (ctx ctx' : TrustCtx C N),
        (if ret ≠ 0 then (ret, ctx) else (0, ctx')).1 = ret := by
      intro ret ctx ctx'
      split <;> simp_all
    rw [hfst]
    cases hfailure : addedBeforeFailure file.certs with
    | some added =>
        have hret := (loadCerts_of_failure hfailure
          (⟨trust.certStore.getD [], [], 0⟩ : LoadState C N)).1
        simp [hret]
    | none =>
        have hzero : (0 : Int) = toInt 0 := rfl
        have hload : (loadCerts (⟨trust.certStore.getD [], [], 0⟩ : LoadState C N)
            file.certs).ret = toInt file.certs.length := by
          rw [hzero, loadCerts_of_success hfailure, Int.zero_add]
        rw [hload, ne_eq, toInt_eq_zero_iff]
        simp [hreach]
  · rw [load_of_not_reaches hreach]
    simp [hreach]

theorem mem_loaded_loadFile {v : Verifying C N} {caFile : String} {ans : TrustAnswers C N}
    {source : TrustSource} :
    source ∈ (v.loadFile caFile ans).ctx.loaded ↔
      source ∈ v.ctx.loaded ∨
        (source = .file caFile ∧ ans.Loads30 v.ctx.trust (.file caFile)) := by
  rw [Verifying.loadFile, TrustAnswers.Loads30]
  cases ans.fsType with
  | none => simp
  | some fsType =>
      by_cases hnative : fsType = "native"
      · simp [hnative, mem_loaded_load]
      · simp [hnative, mem_loaded_load, load_ne_zero_iff]

/-- From 3.0 on the context ends up with the sources that can be loaded. -/
theorem mem_loaded30_iff (cfg : CtxConfig) (ans : TrustAnswers C N) (trust : TrustCtx C N)
    (source : TrustSource) :
    source ∈ (ctxInitVerify30 cfg ans trust).2.loaded ↔
      source ∈ trustSources cfg ∧ ans.Loads30 trust source := by
  have hfirst : ∀ source, source ∈ (Verifying.load (⟨{ trust }, 0⟩ : Verifying C N) .defaultPaths
      ans.defaultPaths).ctx.loaded ↔ source = .defaultPaths ∧ ans.defaultPaths = true := by
    intro source
    rw [mem_loaded_load]
    simp
  simp only [ctxInitVerify30, Verifying.finish, trustSources]
  cases cfg.caPath <;> cases cfg.caStore <;> cases cfg.caFile <;>
    simp only [Option.elim, mem_loaded_loadFile, mem_loaded_load, hfirst, trust_load,
      Option.toList, List.map_cons, List.map_nil, List.mem_cons, List.mem_append,
      List.not_mem_nil] <;>
    grind [TrustAnswers.Loads30]

theorem loadedOrReleased30_iff (cfg : CtxConfig) (ans : TrustAnswers C N)
    (trust : TrustCtx C N) :
    LoadedOrReleased cfg (ctxInitVerify30 cfg ans trust) ↔
      ∀ source ∈ trustSources cfg, ans.Loads30 trust source := by
  have hreturned : (ctxInitVerify30 cfg ans trust).1 = true := rfl
  rw [LoadedOrReleased, hreturned]
  simp only [mem_loaded30_iff]
  grind

/-- **All trust sources are loaded** exactly where they all can be: from 3.0 on with the
file by the way that its file system calls for, and before 3.0 without a store.  The two
branches agree exactly where the directory and the file load natively. -/
theorem trust_sources_iff (cfg : CtxConfig) (ans : TrustAnswers C N) (trust : TrustCtx C N) :
    (LoadedOrReleased cfg (ctxInitVerify30 cfg ans trust) ↔
        ∀ source ∈ trustSources cfg, ans.Loads30 trust source) ∧
      (LoadedOrReleased cfg (ctxInitVerify11 cfg ans trust) ↔
        ∀ source ∈ trustSources cfg, ans.Loads11 source) ∧
      ((ctxInitVerify30 cfg ans trust).1 = (ctxInitVerify11 cfg ans trust).1 ↔
        ans.verifyLocations cfg = true) := by
  have hreturned : (ctxInitVerify30 cfg ans trust).1 = true := rfl
  refine ⟨loadedOrReleased30_iff cfg ans trust, loadedOrReleased11_iff cfg ans trust, ?_⟩
  rw [hreturned, ← returned11_iff cfg ans trust]
  exact eq_comm

end Sources

/-- A client with a file of CA certificates. -/
def caFileConfig : CtxConfig where
  isServer := false
  proto := 0x30
  keyfile := none
  certfile := none
  key := none
  cert := none
  caPath := none
  caStore := none
  caFile := some "ca.pem"
  ciphers := none
  ciphersuites := none
  level := -1
  dhParams := none

/-- The file is in the native file system and does not load. -/
def caFileMissing : TrustAnswers Nat String where
  defaultPaths := true
  dir := true
  store := true
  file := false
  clientCAFile := none
  fsType := some "native"
  memory := brokenFile

/-- The context is returned without it; a library before 3.0 refuses it, and keeps the
context. -/
theorem caFile_not_loaded :
    ((ctxInitVerify30 caFileConfig caFileMissing ⟨some [], none⟩).1 = true ∧
        .file "ca.pem" ∉ (ctxInitVerify30 caFileConfig caFileMissing ⟨some [], none⟩).2.loaded) ∧
      ¬ (LoadedOrReleased caFileConfig
          (ctxInitVerify30 caFileConfig caFileMissing ⟨some [], none⟩) ∧
        LoadedOrReleased caFileConfig
          (ctxInitVerify11 caFileConfig caFileMissing ⟨some [], none⟩) ∧
        (ctxInitVerify30 caFileConfig caFileMissing ⟨some [], none⟩).1 =
          (ctxInitVerify11 caFileConfig caFileMissing ⟨some [], none⟩).1) := by
  have hmissing : .file "ca.pem" ∉
      (ctxInitVerify30 caFileConfig caFileMissing ⟨some [], none⟩).2.loaded := by
    decide
  refine ⟨⟨rfl, hmissing⟩, fun h => ?_⟩
  exact hmissing (h.1.1 rfl _ (by decide))

end TclTls
