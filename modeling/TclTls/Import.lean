import TclTls.Failure
import TclTls.Import.Interp

/-!
# TclTls.Import

`ImportObjCmd`, the command `tls::import`: it makes a new `State`, stacks a TLS
layer with it on a channel, and sets the `SSL` object up.

The command has error exits before and after the new layer is in place, and
all of them do the same: free the `State` and return.  That is enough before
the channel is touched.  `importObjCmd_atomic_iff` says when it is not: the
layer stays although its `State` is gone, and if the layer could not be
stacked the channel keeps the options it was given for the purpose.
-/

namespace TclTls

/-! ## Answers of the libraries -/

/-- What `CTX_Init` is given. -/
structure CtxConfig where
  isServer : Bool
  proto : Nat
  keyfile : Option String
  certfile : Option String
  key : Option (List UInt8)
  cert : Option (List UInt8)
  caPath : Option String
  caStore : Option String
  caFile : Option String
  ciphers : Option String
  ciphersuites : Option String
  level : Int
  dhParams : Option String
deriving DecidableEq, Repr

/-- Success or failure of the calls `tls::import` makes.  Those into OpenSSL
fail with the reason `GET_ERR_REASON()` finds for it. -/
structure ImportAnswers where
  ctxInit : CtxConfig → Except TclError Nat
  stackChannel : Except TclError Unit
  sslNew : Except String Unit
  setHostName : String → Except String Unit
  add1Host : String → Except String Unit
  setIdContext : String → Except String Unit
  setAlpnProtos : List UInt8 → Except String Unit

/-- An OpenSSL call whose failure is the command's: text and `errorCode`. -/
def orFail (r : Except String Unit) (text what : String) : Except TclError Unit :=
  match r with
  | .ok () => .ok ()
  | .error reason => .error ⟨text ++ reason, ["TLS", "IMPORT", what, "FAILED"]⟩

variable (lib : TclLibrary) (ans : ImportAnswers)

/-! ## Arguments and context -/

/-- The channel `objv[1]` names, and the options. -/
def importArguments (i : Interp) : List String → Except TclError (Nat × ImportOptions)
  | _ :: name :: words =>
      match i.find name with
      | none => .error (.noChannel name)
      | some chan =>
          match importOptions lib words with
          | .error e => .error e
          | .ok o => .ok (chan, o)
  | objv => .error (.wrongArgs (objv.headD "" ++ " channel ?options?"))

/-- `TLS_PROTO_*` of the enabled versions. -/
def ImportOptions.proto (o : ImportOptions) : Nat :=
  (if o.ssl2 then 0x01 else 0) ||| (if o.ssl3 then 0x02 else 0) ||| (if o.tls1 then 0x04 else 0) |||
    (if o.tls1_1 then 0x08 else 0) ||| (if o.tls1_2 then 0x10 else 0) |||
    (if o.tls1_3 then 0x20 else 0)

/-- A blank string counts as not given. -/
def nonblank (s : Option String) : Option String := s.filter (· ≠ "")

/-- And so does a byte array that starts with a zero byte. -/
def nonblankBytes (b : Option (List UInt8)) : Option (List UInt8) :=
  b.filter fun bytes => bytes.headD 0 ≠ 0

def ctxConfig (o : ImportOptions) : CtxConfig where
  isServer := o.server
  proto := o.proto
  keyfile := nonblank o.keyfile
  certfile := nonblank o.certfile
  key := nonblankBytes o.key
  cert := nonblankBytes o.cert
  caPath := nonblank o.caPath
  caStore :=
    if lib.winstore && (nonblank o.caStore).isNone && (nonblank o.caFile).isNone &&
        (nonblank o.caPath).isNone then some "org.openssl.winstore://"
    else nonblank o.caStore
  caFile := nonblank o.caFile
  ciphers := nonblank o.ciphers
  ciphersuites := nonblank o.ciphersuites
  level := o.level
  dhParams := nonblank o.dhParams

/-- The new `State`. -/
def newState (o : ImportOptions) : State where
  flags := { init := true }
  vflags := o.verify
  callback := nonblank o.script
  password := nonblank o.password
  vcmd := nonblank o.vcmd

/-- The channel to stack on and the `SSL_CTX`.  With `-model` both are those of
the model channel. -/
def importContext (i : Interp) (chan : Nat) (o : ImportOptions) :
    Except TclError (Nat × Option Nat) :=
  match o.model with
  | some model =>
      match i.find model with
      | none => .error (.noChannel model)
      | some chan =>
          match (i.chan chan).layers.head? with
          | some (.tls p) => .ok (chan, (i.deref p).ctx)
          | _ => .error (.notTls "IMPORT" (i.chan chan).name)
  | none =>
      match ans.ctxInit (ctxConfig lib o) with
      | .error e => .error e
      | .ok ctx => .ok (chan, some ctx)

/-! ## Stacking -/

/-- The settings the channel needs to carry the encrypted data. -/
def forEncryption : List ChanSetting := [.binary, .blocking true]

/-- The settings that bring saved options back. -/
def restoring (saved : ChanOptions) : List ChanSetting :=
  [.translation saved.translation, .encoding saved.encoding, .eofchar saved.eofchar,
    .blocking saved.blocking]

/-- One `Tcl_SetChannelOption` after another. -/
def Interp.setChannelOptions (i : Interp) (c : Nat) (settings : List ChanSetting) : Interp :=
  settings.foldl (fun i setting => i.setChannelOption lib c setting) i

/-- Save the options, make the channel binary and blocking, stack the new layer
on it and give it the options back. -/
def stackLayer (i : Interp) (chan statePtr : Nat) : Except TclError Unit × Interp :=
  let saved := (i.chan chan).options
  let i := i.setChannelOptions lib chan forEncryption
  match ans.stackChannel with
  | .error e => (.error e, i)
  | .ok () =>
      (.ok (), (i.stackChannel chan statePtr).setChannelOptions lib chan (restoring saved))

/-! ## Setting up the `SSL` object -/

/-- `SSL_MAX_SID_CTX_LENGTH` -/
def sslMaxSidCtxLength : Nat := 32

/-- Server name indication and the name to verify.  Without `-require` the
former may fail. -/
def setServername (o : ImportOptions) (ssl : Ssl) : Except TclError Ssl :=
  match o.servername with
  | none => .ok ssl
  | some name =>
      match ans.setHostName name, o.requires with
      | .error reason, true =>
          .error ⟨"Set SNI extension failed: " ++ reason, ["TLS", "IMPORT", "SNI", "FAILED"]⟩
      | sni, _ => do
          orFail (ans.add1Host name) "Set DNS hostname failed: " "HOSTNAME"
          pure { ssl with
            hostName := if sni.isOk then some name else ssl.hostName
            verifyHost := some name }

/-- Session resumption; an id that is too long is ignored. -/
def setSessionId (o : ImportOptions) (ssl : Ssl) : Except TclError Ssl :=
  match o.sessionId with
  | none => .ok ssl
  | some id =>
      if (lib.getString id).length ≤ sslMaxSidCtxLength then do
        orFail (ans.setIdContext id) "Resume session failed: " "SESSION"
        pure { ssl with sessionId := some id }
      else .ok ssl

/-- Memory for the protocol list, `none` if a name is too long for its length
to be a byte. -/
def protosLen : List String → Option Nat
  | [] => some 0
  | name :: list =>
      if 255 < (lib.getString name).length then none
      else (protosLen list).map (1 + (lib.getString name).length + ·)

/-- The protocol list in wire format. -/
def fillProtos : List String → List UInt8
  | [] => []
  | name :: list =>
      UInt8.ofNat (lib.getString name).length :: (lib.getString name ++ fillProtos list)

/-- Application-layer protocol negotiation. -/
def setAlpn (o : ImportOptions) : Except TclError (Option (List UInt8)) :=
  match o.alpn with
  | none => .ok none
  | some alpn => do
      let list ← lib.listElements alpn
      match protosLen lib list with
      | none => .error ⟨"ALPN protocol names too long", ["TLS", "IMPORT", "ALPN", "FAILED"]⟩
      | some _ => do
          let protos := fillProtos lib list
          orFail (ans.setAlpnProtos protos) "Set ALPN protocols failed: " "ALPN"
          pure (some protos)

/-- Everything after the layer has been stacked: the finished `State`. -/
def sslInit (o : ImportOptions) (s : State) : Except TclError State := do
  orFail ans.sslNew "couldn't construct ssl session: " "INIT"
  let ssl ← setServername ans o {}
  let ssl ← setSessionId lib ans o ssl
  let protos ← setAlpn lib ans o
  pure { s with
    ssl := some { ssl with verifyMode := o.verify, alpnProtos := protos, acceptState := o.server }
    protos := protos
    bio := true
    flags.server := s.flags.server || o.server }

/-! ## The command -/

/-- The part of the command that has a channel to stack on. -/
def importLayer (i : Interp) (chan statePtr : Nat) (o : ImportOptions) :
    Except TclError String × Interp :=
  match stackLayer lib ans i chan statePtr with
  | (.error e, i) => (.error e, i.free statePtr)
  | (.ok (), i) =>
      match sslInit lib ans o { i.deref statePtr with self := (i.chan chan).name } with
      | .error e => (.error e, i.free statePtr)
      | .ok s => (.ok (i.chan chan).name, i.write statePtr s)

/-- `ImportObjCmd` with the arguments `objv`. -/
def importObjCmd (i : Interp) (objv : List String) : Except TclError String × Interp :=
  match importArguments lib i objv with
  | .error e => (.error e, i)
  | .ok (chan, o) =>
      let statePtr := i.newPtr
      let i := i.alloc (newState o)
      match importContext lib ans i chan o with
      | .error e => (.error e, i.free statePtr)
      -- with `-model` this is another channel from here on
      | .ok (chan, ctx) =>
          importLayer lib ans (i.write statePtr { newState o with ctx := ctx }) chan statePtr o

/-! ## Stacking and the channel -/

section Stacking

variable {lib ans} {i : Interp} {c c' p q : Nat} {s : State}

/-- The options of a channel that carries encrypted data. -/
def ChanOptions.encrypting (lib : TclLibrary) (opts : ChanOptions) : ChanOptions :=
  { opts with
    translation := (.lf, .lf), encoding := lib.binaryEncoding, eofchar := (none, none)
    blocking := true }

theorem restoring_foldl (saved opts : ChanOptions) :
    (restoring saved).foldl (ChanOptions.set lib) opts = saved := rfl

theorem forEncryption_foldl (opts : ChanOptions) :
    forEncryption.foldl (ChanOptions.set lib) opts = opts.encrypting lib := rfl

@[simp] theorem setChannelOption_options (setting : ChanSetting) :
    ((i.setChannelOption lib c setting).chan c).options =
      (i.chan c).options.set lib setting := by
  cases setting <;> simp [Interp.setChannelOption]

@[simp] theorem setChannelOption_layers (setting : ChanSetting) :
    ((i.setChannelOption lib c setting).chan c').layers = (i.chan c').layers := by
  by_cases h : c' = c
  · subst h
    cases setting <;> simp [Interp.setChannelOption]
  · cases setting <;> simp [Interp.setChannelOption, h]

theorem setChannelOption_other (h : c' ≠ c) (setting : ChanSetting) :
    (i.setChannelOption lib c setting).chan c' = i.chan c' := by
  cases setting <;> simp [Interp.setChannelOption, h]

theorem setChannelOptions_options (settings : List ChanSetting) :
    ((i.setChannelOptions lib c settings).chan c).options =
      settings.foldl (ChanOptions.set lib) (i.chan c).options := by
  induction settings generalizing i with
  | nil => rfl
  | cons setting settings ih =>
      have hstep := ih (i := i.setChannelOption lib c setting)
      rwa [setChannelOption_options] at hstep

@[simp] theorem setChannelOptions_layers (settings : List ChanSetting) :
    ((i.setChannelOptions lib c settings).chan c').layers = (i.chan c').layers := by
  induction settings generalizing i with
  | nil => rfl
  | cons setting settings ih =>
      have hstep := ih (i := i.setChannelOption lib c setting)
      rwa [setChannelOption_layers] at hstep

theorem setChannelOptions_other (h : c' ≠ c) (settings : List ChanSetting) :
    (i.setChannelOptions lib c settings).chan c' = i.chan c' := by
  induction settings generalizing i with
  | nil => rfl
  | cons setting settings ih =>
      exact (ih (i := i.setChannelOption lib c setting)).trans (setChannelOption_other h setting)

theorem sameBlock_setChannelOptions (settings : List ChanSetting) :
    Interp.SameBlock i (i.setChannelOptions lib c settings) p := by
  induction settings generalizing i with
  | nil => exact .refl i p
  | cons setting settings ih =>
      exact (Interp.sameBlock_setChannelOption lib setting).trans
        (ih (i := i.setChannelOption lib c setting))

/-- Apart from the channel `c` and block modes nothing differs. -/
structure SameBut (c : Nat) (i i' : Interp) : Prop where
  chan : ∀ c' ≠ c, i'.chan c' = i.chan c'
  block : ∀ q, Interp.SameBlock i i' q

/-- Stacking puts the new layer on top and leaves the options as they were. -/
theorem stackLayer_ok (h : ans.stackChannel = .ok ()) :
    ∃ i', stackLayer lib ans i c p = (.ok (), i') ∧ SameBut c i i' ∧
      (i'.chan c).layers = .tls p :: (i.chan c).layers ∧
      (i'.chan c).options = (i.chan c).options := by
  refine ⟨((i.setChannelOptions lib c forEncryption).stackChannel c p).setChannelOptions lib c
    (restoring (i.chan c).options), by simp only [stackLayer, h], ⟨fun c' hc' => ?_, fun q => ?_⟩,
    ?_, ?_⟩
  · rw [setChannelOptions_other hc', Interp.stackChannel, Interp.modifyChan_other _ hc',
      setChannelOptions_other hc']
  · exact (sameBlock_setChannelOptions _).trans ((Interp.sameBlock_modifyChan _).trans
      (sameBlock_setChannelOptions _))
  · simp [Interp.stackChannel]
  · rw [setChannelOptions_options, restoring_foldl]

/-- A channel that refuses the layer is left with the options of an encrypted one. -/
theorem stackLayer_error {e : TclError} (h : ans.stackChannel = .error e) :
    ∃ i', stackLayer lib ans i c p = (.error e, i') ∧ SameBut c i i' ∧
      (i'.chan c).layers = (i.chan c).layers ∧
      (i'.chan c).options = (i.chan c).options.encrypting lib := by
  refine ⟨i.setChannelOptions lib c forEncryption, by simp only [stackLayer, h],
    ⟨fun c' hc' => ?_, fun q => ?_⟩, ?_, ?_⟩
  · rw [setChannelOptions_other hc']
  · exact sameBlock_setChannelOptions _
  · simp
  · rw [setChannelOptions_options, forEncryption_foldl]

end Stacking

/-! ## When the setup fails -/

/-- Some step after the stacking of the layer fails. -/
def SetupFails (o : ImportOptions) : Prop :=
  Fails ans.sslNew ∨
    (∃ name, o.servername = some name ∧
      (o.requires = true ∧ Fails (ans.setHostName name) ∨ Fails (ans.add1Host name))) ∨
    (∃ id, o.sessionId = some id ∧ (lib.getString id).length ≤ sslMaxSidCtxLength ∧
      Fails (ans.setIdContext id)) ∨
    (∃ alpn, o.alpn = some alpn ∧ (Fails (lib.listElements alpn) ∨
      ∃ list, lib.listElements alpn = .ok list ∧
        ((∃ name ∈ list, 255 < (lib.getString name).length) ∨
          Fails (ans.setAlpnProtos (fillProtos lib list)))))

section Setup

variable {lib ans} {o : ImportOptions}

@[simp] theorem fails_orFail (r : Except String Unit) (text what : String) :
    Fails (orFail r text what) ↔ Fails r := by
  cases r <;> simp [orFail]

theorem protosLen_eq_none_iff (list : List String) :
    protosLen lib list = none ↔ ∃ name ∈ list, 255 < (lib.getString name).length := by
  induction list with
  | nil => simp [protosLen]
  | cons name list ih =>
      by_cases h : 255 < (lib.getString name).length <;> simp [protosLen, h, ih]

theorem fails_setServername (ssl : Ssl) :
    Fails (setServername ans o ssl) ↔ ∃ name, o.servername = some name ∧
      (o.requires = true ∧ Fails (ans.setHostName name) ∨ Fails (ans.add1Host name)) := by
  cases hname : o.servername with
  | none => simp [setServername, hname]
  | some name =>
      cases hsni : ans.setHostName name <;> cases hrequires : o.requires <;>
        simp [setServername, hname, hsni, hrequires]

theorem fails_setSessionId (ssl : Ssl) :
    Fails (setSessionId lib ans o ssl) ↔ ∃ id, o.sessionId = some id ∧
      (lib.getString id).length ≤ sslMaxSidCtxLength ∧ Fails (ans.setIdContext id) := by
  cases hid : o.sessionId with
  | none => simp [setSessionId, hid]
  | some id =>
      by_cases hlen : (lib.getString id).length ≤ sslMaxSidCtxLength <;>
        simp [setSessionId, hid, hlen]

theorem fails_setAlpn :
    Fails (setAlpn lib ans o) ↔ ∃ alpn, o.alpn = some alpn ∧ (Fails (lib.listElements alpn) ∨
      ∃ list, lib.listElements alpn = .ok list ∧
        ((∃ name ∈ list, 255 < (lib.getString name).length) ∨
          Fails (ans.setAlpnProtos (fillProtos lib list)))) := by
  cases halpn : o.alpn with
  | none => simp [setAlpn, halpn]
  | some alpn =>
      cases hlist : lib.listElements alpn with
      | error e => simp [setAlpn, halpn, hlist, fails_bind]
      | ok list =>
          have hlong : protosLen lib list = none ↔ _ := protosLen_eq_none_iff list
          cases hlen : protosLen lib list with
          | none => simp [setAlpn, halpn, hlist, hlen, fails_bind, ← hlong]
          | some n => simp [setAlpn, halpn, hlist, hlen, fails_bind, ← hlong]

theorem fails_sslInit (s : State) : Fails (sslInit lib ans o s) ↔ SetupFails lib ans o := by
  unfold sslInit
  refine (fails_bind_iff fun _ => fails_bind_iff fun ssl => (fails_bind_iff fun _ =>
    fails_bind_pure).trans (or_congr_left (fails_setSessionId ssl))).trans ?_
  rw [fails_orFail, fails_setServername, fails_setAlpn, SetupFails]

/-- The three ways `importLayer` ends on the channel `c`. -/
inductive LayerOutcome (lib : TclLibrary) (ans : ImportAnswers) (i : Interp) (c p : Nat)
    (o : ImportOptions) : Except TclError String × Interp → Prop
  | refused {e : TclError} {i₁ : Interp} (hstack : ans.stackChannel = .error e)
      (hsame : SameBut c i i₁) (hlayers : (i₁.chan c).layers = (i.chan c).layers)
      (hoptions : (i₁.chan c).options = (i.chan c).options.encrypting lib) :
      LayerOutcome lib ans i c p o (.error e, i₁.free p)
  | failed {e : TclError} {i₁ : Interp} (hstack : ans.stackChannel = .ok ())
      (hsetup : SetupFails lib ans o) (hsame : SameBut c i i₁)
      (hlayers : (i₁.chan c).layers = .tls p :: (i.chan c).layers) :
      LayerOutcome lib ans i c p o (.error e, i₁.free p)
  | imported {s : State} {i₁ : Interp} (hstack : ans.stackChannel = .ok ())
      (hsetup : ¬ SetupFails lib ans o) (hsame : SameBut c i i₁)
      (hlayers : (i₁.chan c).layers = .tls p :: (i.chan c).layers)
      (hoptions : (i₁.chan c).options = (i.chan c).options)
      (hinit : sslInit lib ans o { i₁.deref p with self := (i₁.chan c).name } = .ok s) :
      LayerOutcome lib ans i c p o (.ok (i₁.chan c).name, i₁.write p s)

theorem importLayer_outcome (lib : TclLibrary) (ans : ImportAnswers) (o : ImportOptions)
    (i : Interp) (c p : Nat) :
    LayerOutcome lib ans i c p o (importLayer lib ans i c p o) := by
  unfold importLayer
  cases hstack : ans.stackChannel with
  | error e =>
      obtain ⟨i₁, hrun, hsame, hlayers, hoptions⟩ := stackLayer_error hstack
      rw [hrun]
      exact .refused hstack hsame hlayers hoptions
  | ok u =>
      obtain ⟨i₁, hrun, hsame, hlayers, hoptions⟩ := stackLayer_ok hstack
      rw [hrun]
      have hfails : Fails (sslInit lib ans o _) ↔ _ :=
        fails_sslInit { i₁.deref p with self := (i₁.chan c).name }
      cases hinit : sslInit lib ans o { i₁.deref p with self := (i₁.chan c).name } with
      | error e =>
          simp only [hinit]
          exact .failed hstack (hfails.mp ⟨e, hinit⟩) hsame hlayers
      | ok s =>
          simp only [hinit]
          refine .imported hstack (fun h => ?_) hsame hlayers hoptions hinit
          obtain ⟨e, he⟩ := hfails.mpr h
          rw [hinit] at he
          contradiction

end Setup

/-! ## A finished import -/

section Imported

variable {lib ans} {o : ImportOptions} {i i' : Interp} {objv : List String} {name : String}

/-- What the setup of the `SSL` object does to the `State`. -/
theorem sslInit_ok {s s' : State} (h : sslInit lib ans o s = .ok s') :
    ∃ (ssl : Ssl) (protos : Option (List UInt8)), s' = { s with
      ssl := some { ssl with
        verifyMode := o.verify, alpnProtos := protos, acceptState := o.server }
      protos := protos
      bio := true
      flags.server := s.flags.server || o.server } := by
  simp only [sslInit, bind_eq_ok_iff] at h
  obtain ⟨-, -, -, -, ssl, -, protos, -, h⟩ := h
  exact ⟨ssl, protos, (Except.ok.inj h).symm⟩

/-- A finished import: its layer is on top of a channel, and the `State` is set
up for the options that were given. -/
structure Finished (o : ImportOptions) (i i' : Interp) (s : State) : Prop where
  layer : ∃ c, (i'.chan c).layers.head? = some (.tls i.newPtr)
  block : i'.heap[i.newPtr]? = some (some s)
  flags : s.flags.Imported
  vflags : s.vflags = o.verify
  vcmd : s.vcmd = nonblank o.vcmd
  verifyMode : s.ssl.map (·.verifyMode) = some o.verify

/-- **A successful `tls::import`** is finished. -/
theorem importObjCmd_ok (h : importObjCmd lib ans i objv = (.ok name, i')) :
    ∃ c o s, importArguments lib i objv = .ok (c, o) ∧ Finished o i i' s := by
  unfold importObjCmd at h
  cases hargs : importArguments lib i objv with
  | error e => simp [hargs] at h
  | ok r =>
      obtain ⟨c, o⟩ := r
      simp only [hargs] at h
      cases hctx : importContext lib ans (i.alloc (newState o)) c o with
      | error e => simp [hctx] at h
      | ok r =>
          obtain ⟨c', ctx⟩ := r
          simp only [hctx] at h
          have hout := importLayer_outcome lib ans o
            ((i.alloc (newState o)).write i.newPtr { newState o with ctx := ctx }) c' i.newPtr
          rw [h] at hout
          cases hout with
          | imported hstack hsetup hsame hlayers hoptions hinit =>
              have hnew : ((i.alloc (newState o)).write i.newPtr
                  { newState o with ctx := ctx }).heap[i.newPtr]? =
                    some (some { newState o with ctx := ctx }) := by
                simp [Interp.write, Interp.alloc, Interp.newPtr]
              obtain ⟨b, hb⟩ := hsame.block i.newPtr _ hnew
              have hlt := (List.getElem?_eq_some_iff.mp hb).1
              obtain ⟨ssl, protos, rfl⟩ := sslInit_ok hinit
              refine ⟨c, o, _, rfl, ⟨c', ?_⟩, List.getElem?_set_self hlt, ?_, ?_, ?_, rfl⟩
              · simp [hlayers]
              · constructor <;> simp [Interp.deref, hb, newState]
              · simp [Interp.deref, hb, newState]
              · simp [Interp.deref, hb, newState]

end Imported

/-! ## Atomicity -/

/-- The channel is as it was: its layers, its options, and the `State`s of its
layers. -/
structure Untouched (i i' : Interp) (c : Nat) : Prop where
  layers : (i'.chan c).layers = (i.chan c).layers
  options : (i'.chan c).options = (i.chan c).options
  states : ¬ i.Dangling c → ¬ i'.Dangling c

/-- The channel named by `objv[1]`. -/
def namedChannel (i : Interp) : List String → Option Nat
  | _ :: name :: _ => i.find name
  | _ => none

/-- What the command returns and leaves behind: an error leaves the named
channel untouched. -/
def AtomicOnError (i : Interp) (objv : List String) (r : Except TclError String × Interp) : Prop :=
  Fails r.1 → ∀ c, namedChannel i objv = some c → Untouched i r.2 c

/-- The command fails with something done to the named channel.  The arguments
and the context are accepted, and the channel to stack on is the named one;
then either the layer is stacked and the setup fails, or the layer is refused
and the channel was not one that carries encrypted data already. -/
def LeavesTraces (i : Interp) (objv : List String) : Prop :=
  ∃ c o, importArguments lib i objv = .ok (c, o) ∧
    (∃ ctx, importContext lib ans i c o = .ok (c, ctx)) ∧
    match ans.stackChannel with
    | .ok () => SetupFails lib ans o
    | .error _ => (i.chan c).options ≠ (i.chan c).options.encrypting lib

section Atomic

variable {lib ans} {i i' : Interp} {objv : List String} {c c' : Nat} {o : ImportOptions}

theorem namedChannel_of_importArguments (h : importArguments lib i objv = .ok (c, o)) :
    namedChannel i objv = some c := by
  unfold importArguments at h
  split at h
  next name words =>
    cases hfind : i.find name with
    | none => simp [hfind] at h
    | some chan =>
        cases hopts : importOptions lib words with
        | error e => simp [hfind, hopts] at h
        | ok o' =>
            simp only [hfind, hopts, Except.ok.injEq, Prod.mk.injEq] at h
            simp [namedChannel, hfind, h.1]
  next => contradiction

theorem importOptions_of_importArguments {cmd name : String} {words : List String}
    (h : importArguments lib i (cmd :: name :: words) = .ok (c, o)) :
    importOptions lib words = .ok o := by
  unfold importArguments at h
  cases hfind : i.find name with
  | none => simp [hfind] at h
  | some chan =>
      cases hopts : importOptions lib words with
      | error e => simp [hfind, hopts] at h
      | ok o' =>
          simp only [hfind, hopts, Except.ok.injEq, Prod.mk.injEq] at h
          rw [h.2]

/-- Which channel is stacked on does not depend on the memory. -/
theorem importContext_alloc (s : State) :
    (∃ ctx, importContext lib ans (i.alloc s) c o = .ok (c', ctx)) ↔
      ∃ ctx, importContext lib ans i c o = .ok (c', ctx) := by
  unfold importContext
  cases o.model with
  | none => rfl
  | some model =>
      cases hfind : i.find model with
      | none => simp [hfind]
      | some chan =>
          cases hlayer : (i.chan chan).layers.head? with
          | none => simp [hfind, hlayer]
          | some layer => cases layer <;> simp [hfind, hlayer]

/-- Where no block that was in use has been freed, layers and options tell. -/
theorem untouched_iff (hlive : ∀ p, i.Live p → i'.Live p) :
    Untouched i i' c ↔ (i'.chan c).layers = (i.chan c).layers ∧
      (i'.chan c).options = (i.chan c).options := by
  refine ⟨fun h => ⟨h.layers, h.options⟩, fun ⟨hlayers, hoptions⟩ => ⟨hlayers, hoptions, ?_⟩⟩
  rintro hi ⟨p, hp, hdead⟩
  rw [hlayers] at hp
  exact hi ⟨p, hp, fun h => hdead (hlive p h)⟩

theorem atomicOnError_iff (hnamed : namedChannel i objv = some c)
    (r : Except TclError String × Interp) :
    AtomicOnError i objv r ↔ (Fails r.1 → Untouched i r.2 c) := by
  simp [AtomicOnError, hnamed]

theorem leavesTraces_iff (hargs : importArguments lib i objv = .ok (c, o)) :
    LeavesTraces lib ans i objv ↔ (∃ ctx, importContext lib ans i c o = .ok (c, ctx)) ∧
      match ans.stackChannel with
      | .ok () => SetupFails lib ans o
      | .error _ => (i.chan c).options ≠ (i.chan c).options.encrypting lib := by
  constructor
  · rintro ⟨c', o', hargs', h⟩
    rw [hargs] at hargs'
    cases hargs'
    exact h
  · intro h
    exact ⟨c, o, hargs, h⟩

/-- The new block, written to, costs no other block. -/
theorem live_write_newPtr (s s' : State) :
    ∀ q, i.Live q → q ≠ i.newPtr ∧ ((i.alloc s).write i.newPtr s').Live q := by
  intro q hq
  have hne : q ≠ i.newPtr := Nat.ne_of_lt hq.lt
  exact ⟨hne, (Interp.live_write_of_ne hne).mpr ((Interp.live_alloc hq.lt).mpr hq)⟩

section Layer

variable {i₀ i₁ : Interp} {p : Nat}

/-- From `i₀` to `i` a block `p` was taken, and no other changed hands. -/
structure NewBlock (i₀ i : Interp) (p : Nat) : Prop where
  chan : i.chan = i₀.chan
  live : ∀ q, i₀.Live q → q ≠ p ∧ i.Live q

theorem NewBlock.live_free (h : NewBlock i₀ i p) (hsame : SameBut c' i i₁) :
    ∀ q, i₀.Live q → (i₁.free p).Live q := fun q hq =>
  (Interp.live_free_of_ne (h.live q hq).1).mpr ((hsame.block q).live (h.live q hq).2)

theorem NewBlock.live_write (h : NewBlock i₀ i p) (hsame : SameBut c' i i₁) (s : State) :
    ∀ q, i₀.Live q → (i₁.write p s).Live q := fun q hq =>
  (Interp.live_write_of_ne (h.live q hq).1).mpr ((hsame.block q).live (h.live q hq).2)

/-- Stacking on another channel touches the channel `c` in no way. -/
theorem importLayer_other (hnew : NewBlock i₀ i p) (hc : c ≠ c') :
    Untouched i₀ (importLayer lib ans i c' p o).2 c := by
  have hchan : ∀ {i₁ : Interp}, SameBut c' i i₁ → i₁.chan c = i₀.chan c := fun h => by
    rw [h.chan c hc, hnew.chan]
  have hout := importLayer_outcome lib ans o i c' p
  generalize importLayer lib ans i c' p o = r at hout ⊢
  cases hout with
  | refused hstack hsame =>
      rw [untouched_iff (hnew.live_free hsame)]
      simp [hchan hsame]
  | failed hstack hsetup hsame =>
      rw [untouched_iff (hnew.live_free hsame)]
      simp [hchan hsame]
  | imported hstack hsetup hsame =>
      rw [untouched_iff (hnew.live_write hsame _)]
      simp [hchan hsame]

/-- Stacking on `c` itself leaves traces if the setup fails then, or if the
layer is refused and the options were different. -/
theorem importLayer_named (hnew : NewBlock i₀ i p) :
    (Fails (importLayer lib ans i c p o).1 → Untouched i₀ (importLayer lib ans i c p o).2 c) ↔
      ¬ match ans.stackChannel with
        | .ok () => SetupFails lib ans o
        | .error _ => (i₀.chan c).options ≠ (i₀.chan c).options.encrypting lib := by
  have hout := importLayer_outcome lib ans o i c p
  generalize importLayer lib ans i c p o = r at hout ⊢
  cases hout with
  | refused hstack hsame hlayers hoptions =>
      rw [untouched_iff (hnew.live_free hsame)]
      simp [hstack, hlayers, hoptions, hnew.chan, eq_comm]
  | failed hstack hsetup hsame hlayers =>
      rw [untouched_iff (hnew.live_free hsame)]
      simp [hstack, hsetup, hlayers, hnew.chan]
  | imported hstack hsetup => simp [hstack, hsetup]

end Layer

end Atomic

/-- **`tls::import` is atomic** exactly when it does not fail with something
done to the channel. -/
theorem importObjCmd_atomic_iff (i : Interp) (objv : List String) :
    AtomicOnError i objv (importObjCmd lib ans i objv) ↔ ¬ LeavesTraces lib ans i objv := by
  unfold importObjCmd
  cases hargs : importArguments lib i objv with
  | error e =>
      refine iff_of_true (fun _ c _ => ⟨rfl, rfl, id⟩) ?_
      rintro ⟨c, o, hargs', -⟩
      rw [hargs] at hargs'
      contradiction
  | ok r =>
      obtain ⟨c, o⟩ := r
      rw [atomicOnError_iff (namedChannel_of_importArguments hargs), leavesTraces_iff hargs,
        ← importContext_alloc (newState o)]
      have hnew : ∀ s', NewBlock i ((i.alloc (newState o)).write i.newPtr s') i.newPtr :=
        fun s' => ⟨rfl, live_write_newPtr (newState o) s'⟩
      cases hctx : importContext lib ans (i.alloc (newState o)) c o with
      | error e =>
          simp only [hctx]
          refine iff_of_true (fun _ => (untouched_iff fun q hq => ?_).mpr ⟨rfl, rfl⟩) (by simp)
          have hne : q ≠ i.newPtr := Nat.ne_of_lt hq.lt
          exact (Interp.live_free_of_ne hne).mpr ((Interp.live_alloc hq.lt).mpr hq)
      | ok r =>
          obtain ⟨c', ctx⟩ := r
          simp only [hctx]
          by_cases hc : c = c'
          · subst hc
            simpa using importLayer_named (hnew _)
          · exact iff_of_true (fun _ => importLayer_other (hnew _) hc) (by simp [Ne.symm hc])

/-- An interpreter with one socket. -/
def oneSocket : Interp where
  find name := if name = "sock4" then some 0 else none
  chan _ := ⟨"sock4", [.other "tcp"], ⟨(.auto, .crlf), "utf-8", (none, none), true⟩⟩
  heap := []

/-- Libraries that do all they are asked for, but for the call that `Tcl_StackChannel`
or `SSL_new` is. -/
def answering (stackChannel : Except TclError Unit) (sslNew : Except String Unit) :
    ImportAnswers where
  ctxInit _ := .ok 1
  stackChannel := stackChannel
  sslNew := sslNew
  setHostName _ := .ok ()
  add1Host _ := .ok ()
  setIdContext _ := .ok ()
  setAlpnProtos _ := .ok ()

/-- When `SSL_new` fails the socket keeps a layer whose `State` is gone, and when
`Tcl_StackChannel` fails it stays in binary mode. -/
theorem importObjCmd_leaves_traces :
    ¬ AtomicOnError oneSocket ["tls::import", "sock4"]
        (importObjCmd .plain (answering (.ok ()) (.error "")) oneSocket ["tls::import", "sock4"]) ∧
      ¬ AtomicOnError oneSocket ["tls::import", "sock4"]
        (importObjCmd .plain (answering (.error default) (.ok ())) oneSocket
          ["tls::import", "sock4"]) := by
  constructor
  · intro h
    exact absurd (h ⟨_, rfl⟩ 0 rfl).layers (by decide)
  · intro h
    exact absurd (h ⟨_, rfl⟩ 0 rfl).options (by decide)

end TclTls
