import TclTls.Settings.Loop
import TclTls.State

/-!
# TclTls.Import.Options

The options of `tls::import`: the loop over the command's arguments, the
defaults, and the verify mode they amount to.

`importTable` is the source's list of `OPT*` macros, in its order.  A client
verifies its peer unless it is told otherwise: `verifyMode_of_default` says
which option lists leave that default standing.
-/

namespace TclTls

open Settings

/-! ## Tcl's value conversions -/

/-- What `tls::import` uses of Tcl beyond `Platform`, and its compile-time
switch for the certificate store. -/
structure TclLibrary extends Platform where
  /-- the error `Tcl_GetIntFromObj` leaves -/
  badInt : String → TclError
  /-- the error `Tcl_GetBooleanFromObj` leaves -/
  badBoolean : String → TclError
  /-- `Tcl_GetByteArrayFromObj` -/
  getByteArray : String → List UInt8
  /-- `Tcl_GetStringFromObj` -/
  getString : String → List UInt8
  /-- `Tcl_ListObjGetElements` -/
  listElements : String → Except TclError (List String)
  /-- the `-encoding` of a binary channel -/
  binaryEncoding : String
  /-- `OPENSSL_VERSION_NUMBER >= 0x30200000L && defined(_WIN32)` -/
  winstore : Bool

/-- A Tcl whose strings are Latin-1 and whose lists have no quoting. -/
def TclLibrary.plain : TclLibrary where
  toPlatform := .plain
  badInt s := ⟨"expected integer but got \"" ++ s ++ "\"", ["TCL", "VALUE", "NUMBER"]⟩
  badBoolean s := ⟨"expected boolean value but got \"" ++ s ++ "\"", ["TCL", "VALUE", "BOOLEAN"]⟩
  getByteArray s := s.toList.map fun c => UInt8.ofNat c.toNat
  getString s := s.toList.map fun c => UInt8.ofNat c.toNat
  listElements s := .ok ((s.splitOn " ").filter (· ≠ ""))
  binaryEncoding := "iso8859-1"
  winstore := false

/-! ## Options -/

/-- The variables the option loop assigns, with their initial values.  For
`request` and `require`, `none` is the -1 of an option that is not given. -/
structure ImportOptions where
  alpn : Option String := none
  caPath : Option String := none
  caFile : Option String := none
  caStore : Option String := none
  cert : Option (List UInt8) := none
  certfile : Option String := none
  ciphers : Option String := none
  ciphersuites : Option String := none
  script : Option String := none
  dhParams : Option String := none
  key : Option (List UInt8) := none
  keyfile : Option String := none
  model : Option String := none
  password : Option String := none
  postHandshake : Bool := false
  request : Option Bool := none
  require : Option Bool := none
  level : Int := -1
  server : Bool := false
  servername : Option String := none
  sessionId : Option String := none
  ssl2 : Bool := false
  ssl3 : Bool := false
  tls1 : Bool := false
  tls1_1 : Bool := false
  tls1_2 : Bool := true
  tls1_3 : Bool := true
  vcmd : Option String := none
deriving DecidableEq, Repr

section Macros

variable (lib : TclLibrary)

/-- `OPTOBJ` and `OPTSTR` -/
def optStr (option : String) (var : String → ImportOptions → ImportOptions) :
    Entry ImportOptions TclError :=
  ⟨option, fun value o => .ok (var value o)⟩

/-- `OPTINT` -/
def optInt (option : String) (var : Int → ImportOptions → ImportOptions) :
    Entry ImportOptions TclError :=
  ⟨option, fun value o =>
    match lib.getInt value with
    | some n => .ok (var n o)
    | none => .error (lib.badInt value)⟩

/-- `OPTBOOL` -/
def optBool (option : String) (var : Bool → ImportOptions → ImportOptions) :
    Entry ImportOptions TclError :=
  ⟨option, fun value o =>
    match lib.getBoolean value with
    | some b => .ok (var b o)
    | none => .error (lib.badBoolean value)⟩

/-- `OPTBYTE` -/
def optByte (option : String) (var : List UInt8 → ImportOptions → ImportOptions) :
    Entry ImportOptions TclError :=
  ⟨option, fun value o => .ok (var (lib.getByteArray value) o)⟩

/-- The options of `ImportObjCmd`. -/
def importTable : Table ImportOptions TclError where
  entries := [
    optStr "-alpn" fun v o => { o with alpn := some v },
    optStr "-cadir" fun v o => { o with caPath := some v },
    optStr "-cafile" fun v o => { o with caFile := some v },
    optStr "-castore" fun v o => { o with caStore := some v },
    optByte lib "-cert" fun v o => { o with cert := some v },
    optStr "-certfile" fun v o => { o with certfile := some v },
    optStr "-cipher" fun v o => { o with ciphers := some v },
    optStr "-ciphers" fun v o => { o with ciphers := some v },
    optStr "-ciphersuites" fun v o => { o with ciphersuites := some v },
    optStr "-command" fun v o => { o with script := some v },
    optStr "-dhparams" fun v o => { o with dhParams := some v },
    optByte lib "-key" fun v o => { o with key := some v },
    optStr "-keyfile" fun v o => { o with keyfile := some v },
    optStr "-model" fun v o => { o with model := some v },
    optStr "-password" fun v o => { o with password := some v },
    optBool lib "-post_handshake" fun b o => { o with postHandshake := b },
    optBool lib "-request" fun b o => { o with request := some b },
    optBool lib "-require" fun b o => { o with require := some b },
    optInt lib "-security_level" fun n o => { o with level := n },
    optBool lib "-server" fun b o => { o with server := b },
    optStr "-servername" fun v o => { o with servername := some v },
    optStr "-session_id" fun v o => { o with sessionId := some v },
    optBool lib "-ssl2" fun b o => { o with ssl2 := b },
    optBool lib "-ssl3" fun b o => { o with ssl3 := b },
    optBool lib "-tls1" fun b o => { o with tls1 := b },
    optBool lib "-tls1.1" fun b o => { o with tls1_1 := b },
    optBool lib "-tls1.2" fun b o => { o with tls1_2 := b },
    optBool lib "-tls1.3" fun b o => { o with tls1_3 := b },
    optStr "-validatecommand" fun v o => { o with vcmd := some v },
    optStr "-vcmd" fun v o => { o with vcmd := some v }]
  missing option := ⟨"no argument given for " ++ option ++ " option", ["NONE"]⟩
  bad opt := ⟨"bad option \"" ++ opt ++ "\": must be " ++
    "-alpn, -cadir, -cafile, -castore, -cert, -certfile, -cipher, -ciphersuites, -command, " ++
    "-dhparams, -key, -keyfile, -model, -password, -post_handshake, -request, -require, " ++
    "-security_level, -server, -servername, -session_id, -ssl2, -ssl3, -tls1, -tls1.1, " ++
    "-tls1.2, -tls1.3, or -validatecommand", ["NONE"]⟩

/-- The option loop. -/
def importOptions (words : List String) : Except TclError ImportOptions :=
  (importTable lib).loop words {}

end Macros

/-! ## The last value wins -/

section Last

variable {lib : TclLibrary} {words : List String} {o : ImportOptions}

@[simp] theorem optStr_name (option : String) (var : String → ImportOptions → ImportOptions) :
    (optStr option var).name = option := rfl

@[simp] theorem optByte_name (option : String) (var : List UInt8 → ImportOptions → ImportOptions) :
    (optByte lib option var).name = option := rfl

@[simp] theorem optInt_name (option : String) (var : Int → ImportOptions → ImportOptions) :
    (optInt lib option var).name = option := rfl

@[simp] theorem optBool_name (option : String) (var : Bool → ImportOptions → ImportOptions) :
    (optBool lib option var).name = option := rfl

variable {β : Type} {field : ImportOptions → β} {option : String}

@[simp] theorem optStr_keeps {var : String → ImportOptions → ImportOptions}
    (hvar : ∀ v o, field (var v o) = field o) : (optStr option var).Keeps field := by
  intro value o o' h
  cases h
  exact hvar value o

@[simp] theorem optByte_keeps {var : List UInt8 → ImportOptions → ImportOptions}
    (hvar : ∀ v o, field (var v o) = field o) : (optByte lib option var).Keeps field := by
  intro value o o' h
  cases h
  exact hvar _ o

@[simp] theorem optInt_keeps {var : Int → ImportOptions → ImportOptions}
    (hvar : ∀ n o, field (var n o) = field o) : (optInt lib option var).Keeps field := by
  intro value o o' h
  cases hn : lib.getInt value <;> simp only [optInt, hn] at h <;> cases h
  exact hvar _ o

@[simp] theorem optBool_keeps {var : Bool → ImportOptions → ImportOptions}
    (hvar : ∀ b o, field (var b o) = field o) : (optBool lib option var).Keeps field := by
  intro value o o' h
  cases hb : lib.getBoolean value <;> simp only [optBool, hb] at h <;> cases h
  exact hvar _ o

theorem optStr_writes {var : String → ImportOptions → ImportOptions} {read : String → β}
    (hvar : ∀ v o, field (var v o) = read v) : (optStr option var).Writes field read := by
  intro value o o' h
  cases h
  exact hvar value o

theorem optBool_writes {var : Bool → ImportOptions → ImportOptions} (read : Option Bool → β)
    (hvar : ∀ b o, field (var b o) = read (some b)) :
    (optBool lib option var).Writes field fun v => read (lib.getBoolean v) := by
  intro value o o' h
  cases hb : lib.getBoolean value <;> simp only [optBool, hb] at h <;> cases h
  exact (hvar _ o).trans (by simp only [hb])

/-- `server` is the last value given to `-server`. -/
theorem importOptions_server (h : importOptions lib words = .ok o) :
    o.server = (last (· == "-server") (pairs words)).elim false
      fun v => (lib.getBoolean v).getD false := by
  refine Table.loop_last h ?_ ?_ <;> simp only [importTable, List.forall_mem_cons]
  · have hserver : (optBool lib "-server" fun b o => { o with server := b }).Writes
        ImportOptions.server fun v => (lib.getBoolean v).getD false :=
      optBool_writes (·.getD false) fun _ _ => rfl
    simp [hserver]
  · simp

/-- `require` is the last value given to `-require`. -/
theorem importOptions_require (h : importOptions lib words = .ok o) :
    o.require = (last (· == "-require") (pairs words)).elim none lib.getBoolean := by
  refine Table.loop_last h ?_ ?_ <;> simp only [importTable, List.forall_mem_cons]
  · have hrequire : (optBool lib "-require" fun b o => { o with require := some b }).Writes
        ImportOptions.require lib.getBoolean :=
      optBool_writes id fun _ _ => rfl
    simp [hrequire]
  · simp

/-- `request` is the last value given to `-request`. -/
theorem importOptions_request (h : importOptions lib words = .ok o) :
    o.request = (last (· == "-request") (pairs words)).elim none lib.getBoolean := by
  refine Table.loop_last h ?_ ?_ <;> simp only [importTable, List.forall_mem_cons]
  · have hrequest : (optBool lib "-request" fun b o => { o with request := some b }).Writes
        ImportOptions.request lib.getBoolean :=
      optBool_writes id fun _ _ => rfl
    simp [hrequest]
  · simp

/-- `caFile` is the last value given to `-cafile`. -/
theorem importOptions_caFile (h : importOptions lib words = .ok o) :
    o.caFile = last (· == "-cafile") (pairs words) := by
  have hlast : o.caFile = (last (· == "-cafile") (pairs words)).elim none some := by
    refine Table.loop_last h ?_ ?_ <;> simp only [importTable, List.forall_mem_cons]
    · have hcaFile : (optStr "-cafile" fun v o => { o with caFile := some v }).Writes
          ImportOptions.caFile some := optStr_writes fun _ _ => rfl
      simp [hcaFile]
    · simp
  rw [hlast]
  cases last (· == "-cafile") (pairs words) <;> rfl

/-- `vcmd` is the last value given to one of its two options. -/
theorem importOptions_vcmd (h : importOptions lib words = .ok o) :
    o.vcmd = last (fun word => word == "-validatecommand" || word == "-vcmd") (pairs words) := by
  have hlast : o.vcmd = (last (fun word => word == "-validatecommand" || word == "-vcmd")
      (pairs words)).elim none some := by
    refine Table.loop_last h ?_ ?_ <;> simp only [importTable, List.forall_mem_cons]
    · have hvcmd : ∀ option, (optStr option fun v o => { o with vcmd := some v }).Writes
          ImportOptions.vcmd some := fun _ => optStr_writes fun _ _ => rfl
      simp [hvcmd]
    · simp
  rw [hlast]
  cases last (fun word => word == "-validatecommand" || word == "-vcmd") (pairs words) <;> rfl

/-! ## What an option takes -/

theorem optStr_uniform {option : String} {var : String → ImportOptions → ImportOptions} :
    (optStr option var).Uniform := fun _ _ _ _ => ⟨_, rfl⟩

theorem optByte_uniform {option : String} {var : List UInt8 → ImportOptions → ImportOptions} :
    (optByte lib option var).Uniform := fun _ _ _ _ => ⟨_, rfl⟩

theorem optInt_uniform {option : String} {var : Int → ImportOptions → ImportOptions} :
    (optInt lib option var).Uniform := by
  intro value r r' h
  cases hn : lib.getInt value with
  | none => simp [optInt, hn] at h
  | some n => exact ⟨var n r', by simp only [optInt, hn]⟩

theorem optBool_uniform {option : String} {var : Bool → ImportOptions → ImportOptions} :
    (optBool lib option var).Uniform := by
  intro value r r' h
  cases hb : lib.getBoolean value with
  | none => simp [optBool, hb] at h
  | some b => exact ⟨var b r', by simp only [optBool, hb]⟩

theorem importTable_uniform : ∀ entry ∈ (importTable lib).entries, entry.Uniform := by
  simp only [importTable, List.forall_mem_cons, List.not_mem_nil, false_implies, implies_true,
    and_true]
  simp [optStr_uniform, optByte_uniform, optInt_uniform, optBool_uniform]

end Last

/-! ## The verify mode -/

namespace ImportOptions

variable (o : ImportOptions)

/-- `require` after the defaults: true for a client. -/
def requires : Bool := o.require.getD !o.server

/-- `request` after the defaults: true for a client, and for who requires. -/
def requests : Bool := o.requires || o.request.getD !o.server

/-- The bits for `SSL_set_verify`. -/
def verify : Nat :=
  (if o.requests then sslVerifyClientOnce ||| sslVerifyPeer else sslVerifyNone) |||
    (if o.requests && o.requires then sslVerifyFailIfNoPeerCert else sslVerifyNone) |||
    (if o.requests && o.postHandshake then sslVerifyPostHandshake else sslVerifyNone)

/-- Who requires a certificate verifies the peer and fails without one. -/
theorem verify_of_requires (h : o.requires = true) :
    o.verify &&& sslVerifyPeer ≠ 0 ∧ o.verify &&& sslVerifyFailIfNoPeerCert ≠ 0 := by
  cases hpost : o.postHandshake <;> simp [verify, requests, h, hpost] <;> decide

end ImportOptions

end TclTls
