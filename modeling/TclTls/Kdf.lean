import TclTls.Digest
import TclTls.Import.Options
import TclTls.Resource.Custody
import TclTls.Settings.Reader

/-!
# TclTls.Kdf

Key derivation: the commands `tls::pbkdf2`, `tls::hkdf` and `tls::scrypt`.

The three share a table of options, and a loop of the same form, in which each of them
heeds the options it knows and passes over the values of the others.  PBKDF2 derives
into an array on the stack, and divides what it gets into a key and an IV if there is a
cipher.  The other two configure a context of the library, call by call, and derive into
a new object.

`kdfRead_eq_ok_iff` says which options a command accepts, and what it makes of them:
the last value of each option counts.
-/

namespace TclTls

open Interaction
open Interaction.Program (state update)
open Resource Settings

/-! ## Options -/

/-- `enum _command_opts` -/
inductive KdfOpt where
  | cipher
  | digest
  | hash
  | info
  | iter
  | key
  | length
  | password
  | salt
  | size
  | N
  | n
  | r
  | p
deriving DecidableEq, Repr

/-- `command_opts` -/
def kdfOpts : List (String × KdfOpt) := [
  ("-cipher", .cipher), ("-digest", .digest), ("-hash", .hash), ("-info", .info),
  ("-iterations", .iter), ("-key", .key), ("-length", .length), ("-password", .password),
  ("-salt", .salt), ("-size", .size), ("-N", .N), ("-n", .n), ("-r", .r), ("-p", .p)]

/-- `command_opts[fn]` -/
def KdfOpt.text (fn : KdfOpt) : String :=
  ((kdfOpts.find? fun entry => entry.2 == fn).map Prod.fst).getD ""

/-- The option that a word names or abbreviates. -/
def kdfIndex (word : Obj) : Except TclError KdfOpt :=
  (getIndexFromObj (kdfOpts.map Prod.fst) "option" word.string).map fun fn =>
    (kdfOpts.map Prod.snd).getD fn .p

/-- The error for an option that is the last word. -/
def kdfMissing (fn : KdfOpt) : TclError :=
  ⟨"No value for option \"" ++ fn.text ++ "\"", ["NONE"]⟩

/-- The local variables, with their initial values. -/
@[ext]
structure KdfVars where
  cipher : Option Cipher := none
  md : Option Md := none
  iter : Int := 1
  /-- the password or the key -/
  pass : Option Bytes := none
  salt : Option Bytes := none
  info : Option Bytes := none
  dkLen : Int
  N : Int := 0
  r : Int := 0
  p : Int := 0

/-- `sizeof(tmpkeyiv)` -/
def kdfBufLen : Nat := (evpMaxKeyLength + evpMaxIvLength) * 4

/-! ## The library -/

/-- A pointer with a length that has been narrowed to an `int`. -/
structure CArg where
  data : Option (List UInt8)
  len : Int

def narrow (b : Option Bytes) : CArg := ⟨b.map Bytes.data, toInt (b.elim 0 (·.data.length))⟩

/-- What is set in a context, before it derives. -/
inductive KdfParam where
  /-- `EVP_PKEY_derive_init` -/
  | init
  | md (md : Md)
  | key (key : CArg)
  | salt (salt : CArg)
  | info (info : CArg)
  | pass (pass : CArg)
  | N (n : Nat)
  | r (n : Nat)
  | p (n : Nat)

/-- `EVP_PKEY_HKDF` and `EVP_PKEY_SCRYPT` -/
inductive KdfId where
  | hkdf
  | scrypt
deriving DecidableEq, Repr

/-- What `PKCS5_PBKDF2_HMAC` returns, and what it leaves in the array. -/
structure Derived (n : Int) where
  ok : Bool
  out : List UInt8
  length_eq : out.length = n.toNat

/-- The calls that can fail, and those that acquire or release something. -/
inductive KdfCall where
  | fetchCipher (name : String)
  | fetchDigest (name : String)
  | pbkdf2 (pass salt : CArg) (iter : Int) (md : Md) (dkLen : Int)
  | ctxNew (id : KdfId)
  | configure (param : KdfParam)
  | newObj
  /-- `Tcl_SetByteArrayLength` of the new object -/
  | setLength (n : Int)
  /-- `EVP_PKEY_derive` into at most that many bytes -/
  | derive (n : Int)
  /-- `Tcl_SetObjResult` -/
  | setResult
  /-- `Tcl_DecrRefCount` -/
  | decrRef
  | ctxFree

/-- What each call returns. -/
@[reducible] def KdfCall.Ans : KdfCall → Type
  | .fetchCipher _ => Option Cipher
  | .fetchDigest _ => Option Md
  | .pbkdf2 _ _ _ _ n => Derived n
  | .derive _ => Option (List UInt8)
  | .newObj | .setResult | .decrRef | .ctxFree => Unit
  | _ => Bool

/-- The library that the commands are linked against. -/
structure KdfLibrary where
  tcl : TclLibrary
  /-- `OPENSSL_VERSION_NUMBER >= 0x30000000L` -/
  openssl3 : Bool
  /-- `Tcl_GetWideIntFromObj` -/
  getWide : String → Except TclError Int
  /-- `GET_ERR_REASON()` after a call that has failed; it may be `NULL` -/
  reason : KdfCall → Option String
  reply : (e : KdfCall) → e.Ans

variable (lib : KdfLibrary)

/-- `Util_GetInt` with a value -/
def utilGetInt (value : Obj) (name : String) (min max : Int) : Except TclError Int :=
  match lib.tcl.getInt value.string with
  | none => .error (lib.tcl.badInt value.string)
  | some n =>
      let invalid := "invalid value \"" ++ toString n ++ "\" for option \"" ++ name ++ "\": must be "
      if n < min then .error ⟨invalid ++ ">= " ++ toString min, ["NONE"]⟩
      else if 0 < max ∧ max < n then .error ⟨invalid ++ "<= " ++ toString max, ["NONE"]⟩
      else .ok n

/-! ## The option loops -/

/-- What an option asks for: an algorithm of the library, or nothing of it. -/
inductive KdfAction where
  | cipher (name : String) (set : Cipher → KdfVars)
  | digest (name : String) (set : Md → KdfVars)
  | assign (r : Except TclError KdfVars)

/-- The `switch` of `KDF_PBKDF2`. -/
def pbkdf2Opt (fn : KdfOpt) (value : Obj) (v : KdfVars) : KdfAction :=
  match fn with
  | .cipher => .cipher value.string fun cipher => { v with cipher := some cipher }
  | .digest | .hash => .digest value.string fun md => { v with md := some md }
  | .iter => .assign ((utilGetInt lib value "iterations" 1 (-1)).map fun n => { v with iter := n })
  | .key | .password => .assign (.ok { v with pass := some value.bytes })
  | .salt => .assign (.ok { v with salt := some value.bytes })
  | .length | .size =>
      .assign ((utilGetInt lib value fn.text 1 kdfBufLen).map fun n => { v with dkLen := n })
  | _ => .assign (.ok v)

/-- The `switch` of `KDF_HKDF`. -/
def hkdfOpt (fn : KdfOpt) (value : Obj) (v : KdfVars) : KdfAction :=
  match fn with
  | .digest | .hash => .digest value.string fun md => { v with md := some md }
  | .info => .assign (.ok { v with info := some value.bytes })
  | .key | .password => .assign (.ok { v with pass := some value.bytes })
  | .salt => .assign (.ok { v with salt := some value.bytes })
  | .length | .size =>
      .assign ((utilGetInt lib value fn.text 1 0).map fun n => { v with dkLen := n })
  | _ => .assign (.ok v)

/-- The `switch` of `KDF_Scrypt`. -/
def scryptOpt (fn : KdfOpt) (value : Obj) (v : KdfVars) : KdfAction :=
  match fn with
  | .key | .password => .assign (.ok { v with pass := some value.bytes })
  | .salt => .assign (.ok { v with salt := some value.bytes })
  | .length | .size =>
      .assign ((utilGetInt lib value fn.text 1 0).map fun n => { v with dkLen := n })
  | .N | .n => .assign ((lib.getWide value.string).map fun n => { v with N := n })
  | .r => .assign ((lib.getWide value.string).map fun n => { v with r := n })
  | .p => .assign ((lib.getWide value.string).map fun n => { v with p := n })
  | _ => .assign (.ok v)

/-- Code of the commands; its state is the array `tmpkeyiv`. -/
abbrev KdfCode (α : Type) := Program (List UInt8) KdfCall.Ans α

abbrev kdfCall (e : KdfCall) : KdfCode e.Ans := Program.perform e

/-- `Util_GetCipher` and `Util_GetDigest` are called with a name here. -/
def KdfAction.code : KdfAction → KdfCode (Except TclError KdfVars)
  | .cipher name set => do
      match ← kdfCall (.fetchCipher name) with
      | some found => pure (.ok (set found))
      | none => pure (.error ⟨"invalid cipher \"" ++ name ++ "\"", ["NONE"]⟩)
  | .digest name set => do
      match ← kdfCall (.fetchDigest name) with
      | some found => pure (.ok (set found))
      | none => pure (.error ⟨"invalid digest \"" ++ name ++ "\"", ["NONE"]⟩)
  | .assign r => pure r

/-- The option loop. -/
def kdfOptions (opt : KdfOpt → Obj → KdfVars → KdfAction) :
    List Obj → KdfVars → KdfCode (Except TclError KdfVars)
  | [], v => pure (.ok v)
  | [word], _ =>
      match kdfIndex word with
      | .error e => pure (.error e)
      | .ok fn => pure (.error (kdfMissing fn))
  | word :: value :: words, v =>
      match kdfIndex word with
      | .error e => pure (.error e)
      | .ok fn => do
          match ← (opt fn value v).code with
          | .error e => pure (.error e)
          | .ok v => kdfOptions opt words v

/-! ## The commands -/

/-- The value that a command returns. -/
inductive KdfValue where
  | bytes (key : List UInt8)
  | keyIv (key iv : List UInt8)
deriving DecidableEq, Repr

abbrev KdfResult := Except TclError KdfValue

/-- `iklen` and `ivlen` -/
def KdfVars.sizes (v : KdfVars) : Int × Int :=
  match v.cipher with
  | none => (if kdfBufLen < v.dkLen then kdfBufLen else v.dkLen, 0)
  | some cipher => (cipher.keyLength, cipher.ivLength)

/-- The result of `KDF_PBKDF2`, read from the array. -/
def KdfVars.value (v : KdfVars) (buf : List UInt8) : KdfValue :=
  match v.cipher with
  | none => .bytes (buf.take v.sizes.1.toNat)
  | some _ => .keyIv (buf.take v.sizes.1.toNat) ((buf.drop v.sizes.1.toNat).take v.sizes.2.toNat)

/-- The call of `KDF_PBKDF2` that derives. -/
abbrev KdfVars.pbkdf2 (v : KdfVars) (md : Md) : KdfCall :=
  .pbkdf2 (narrow v.pass) (narrow v.salt) v.iter md (v.sizes.1 + v.sizes.2)

/-- `KDF_PBKDF2`, when the options have been read. -/
def pbkdf2Derive (v : KdfVars) : KdfCode KdfResult :=
  match v.md with
  | none => pure (.error ⟨"no digest", ["NONE"]⟩)
  | some md => do
      let derived ← kdfCall (v.pbkdf2 md)
      update fun buf => derived.out ++ buf.drop derived.out.length
      if derived.ok then
        let buf ← state
        update fun _ => List.replicate kdfBufLen 0
        pure (.ok (v.value buf))
      else
        pure (.error ⟨"Key derivation failed: " ++ (lib.reason (v.pbkdf2 md)).getD "", ["NONE"]⟩)

/-- The usage message of `KDF_PBKDF2`, behind the name of the command. -/
def pbkdf2Usage : String :=
  " [-cipher cipher | -size length] -digest digest ?-iterations count? ?-password string? " ++
  "?-salt string?"

/-- `KDF_PBKDF2` -/
def kdfPbkdf2 (objv : List Obj) : KdfCode KdfResult :=
  if objv.length < 3 ∨ 11 < objv.length then
    pure (.error (.wrongArgs ((objv.head?.map Obj.string).getD "" ++ pbkdf2Usage)))
  else do
    update fun _ => List.replicate kdfBufLen 0
    match ← kdfOptions (pbkdf2Opt lib) objv.tail { dkLen := kdfBufLen } with
    | .error e => pure (.error e)
    | .ok v => pbkdf2Derive lib v

/-- Calls that configure the context, each with the text of its failure. -/
def kdfConfigure : List (KdfParam × String) → KdfCode (Except TclError Unit)
  | [] => pure (.ok ())
  | (param, text) :: params => do
      if ← kdfCall (.configure param) then kdfConfigure params
      else pure (.error ⟨text ++ (lib.reason (.configure param)).getD "", ["NONE"]⟩)

/-- Get the buffer and derive the key. -/
def kdfOutput (dkLen : Int) : KdfCode KdfResult := do
  kdfCall .newObj
  if ← kdfCall (.setLength dkLen) then
    match ← kdfCall (.derive dkLen) with
    | some out => do
        kdfCall .setResult
        pure (.ok (.bytes out))
    | none => do
        kdfCall .decrRef
        pure (.error ⟨"Key derivation failed: " ++ (lib.reason (.derive dkLen)).getD "", ["NONE"]⟩)
  else pure (.error ⟨"Memory allocation error", ["NONE"]⟩)

/-- From the creation of the context to `done:`. -/
def kdfContext (id : KdfId) (params : List (KdfParam × String)) (dkLen : Int) :
    KdfCode KdfResult := do
  if ← kdfCall (.ctxNew id) then
    match ← kdfConfigure lib params with
    | .ok _ => do
        let res ← kdfOutput lib dkLen
        kdfCall .ctxFree
        pure res
    | .error e => do
        kdfCall .ctxFree
        pure (.error e)
  else pure (.error ⟨"Memory allocation error", ["NONE"]⟩)

/-- What `KDF_HKDF` configures. -/
def hkdfParams (v : KdfVars) (md : Md) : List (KdfParam × String) :=
  [(.init, "Initialize failed: "), (.md md, "Set digest failed: "),
    (.key (narrow v.pass), "Set key failed: ")] ++
  (if v.salt.isSome then [(.salt (narrow v.salt), "Set salt failed: ")] else []) ++
  (if v.info.isSome then [(.info (narrow v.info), "Set info failed: ")] else [])

/-- `KDF_HKDF`, when the options have been read. -/
def hkdfDerive (v : KdfVars) : KdfCode KdfResult :=
  match v.md, v.pass with
  | none, _ => pure (.error ⟨"no digest", ["NONE"]⟩)
  | some _, none => pure (.error ⟨"no key", ["NONE"]⟩)
  | some md, some _ => kdfContext lib .hkdf (hkdfParams v md) v.dkLen

/-- The usage message of `KDF_HKDF`, behind the name of the command. -/
def hkdfUsage : String :=
  " -digest digest -key string ?-info string? ?-salt string? ?-size derived_length?"

/-- `KDF_HKDF` -/
def kdfHkdf (objv : List Obj) : KdfCode KdfResult :=
  if objv.length < 5 ∨ 11 < objv.length then
    pure (.error (.wrongArgs ((objv.head?.map Obj.string).getD "" ++ hkdfUsage)))
  else do
    match ← kdfOptions (hkdfOpt lib) objv.tail { dkLen := evpMaxKeyLength + evpMaxIvLength } with
    | .error e => pure (.error e)
    | .ok v => hkdfDerive lib v

/-- What `KDF_Scrypt` configures.  A parameter of 0 is left at the default. -/
def scryptParams (v : KdfVars) : List (KdfParam × String) :=
  [(.init, "Initialize failed: "), (.pass (narrow v.pass), "Set key failed: "),
    (.salt (narrow v.salt), "Set salt failed: ")] ++
  (if v.N ≠ 0 then [(.N (toSizeT v.N), "Set cost parameter (N) failed: ")] else []) ++
  (if v.r ≠ 0 then [(.r (toSizeT v.r), "Set lock size parameter (r) failed: ")] else []) ++
  (if v.p ≠ 0 then [(.p (toSizeT v.p), "Set Parallelization parameter (p) failed: ")] else [])

/-- `KDF_Scrypt`, when the options have been read. -/
def scryptDerive (v : KdfVars) : KdfCode KdfResult :=
  match v.pass, v.salt with
  | none, _ => pure (.error ⟨"no password", ["NONE"]⟩)
  | some _, none => pure (.error ⟨"no salt", ["NONE"]⟩)
  | some _, some _ => kdfContext lib .scrypt (scryptParams v) v.dkLen

/-- The usage message of `KDF_Scrypt`, behind the name of the command. -/
def scryptUsage : String :=
  " -password string -salt string ?-N costParameter? ?-r blockSize? ?-p parallelization? " ++
  "?-size derived_length?"

/-- `KDF_Scrypt` -/
def kdfScrypt (objv : List Obj) : KdfCode KdfResult :=
  if objv.length < 5 ∨ 13 < objv.length then
    pure (.error (.wrongArgs ((objv.head?.map Obj.string).getD "" ++ scryptUsage)))
  else do
    match ← kdfOptions (scryptOpt lib) objv.tail { dkLen := 64 } with
    | .error e => pure (.error e)
    | .ok v => scryptDerive lib v

/-- The three commands. -/
inductive KdfCommand where
  | pbkdf2
  | hkdf
  | scrypt
deriving DecidableEq, Repr

namespace KdfCommand

def main : KdfCommand → List Obj → KdfCode KdfResult
  | .pbkdf2 => kdfPbkdf2 lib
  | .hkdf => kdfHkdf lib
  | .scrypt => kdfScrypt lib

def opt : KdfCommand → KdfOpt → Obj → KdfVars → KdfAction
  | .pbkdf2 => pbkdf2Opt lib
  | .hkdf => hkdfOpt lib
  | .scrypt => scryptOpt lib

def derive : KdfCommand → KdfVars → KdfCode KdfResult
  | .pbkdf2 => pbkdf2Derive lib
  | .hkdf => hkdfDerive lib
  | .scrypt => scryptDerive lib

/-- The initial value of `dk_len`. -/
def dkLen : KdfCommand → Int
  | .pbkdf2 => kdfBufLen
  | .hkdf => evpMaxKeyLength + evpMaxIvLength
  | .scrypt => 64

/-- The least and the greatest `objc`. -/
def objc : KdfCommand → Nat × Nat
  | .pbkdf2 => (3, 11)
  | .hkdf => (5, 11)
  | .scrypt => (5, 13)

end KdfCommand

/-! ## What the options come to -/

/-- What a command has to release. -/
inductive KdfHandle where
  | cipher
  | md
  | ctx
  | obj
deriving DecidableEq, Repr

/-- Algorithms are counted since OpenSSL 3.0. -/
def KdfLibrary.reference (handle : KdfHandle) : Multiset KdfHandle :=
  if lib.openssl3 then {handle} else 0

/-- What an option does, with what it acquires. -/
def KdfAction.outcome (held : Multiset KdfHandle) :
    KdfAction → Except TclError (KdfVars × Multiset KdfHandle)
  | .cipher name set =>
      match lib.reply (.fetchCipher name) with
      | some found => .ok (set found, held + lib.reference .cipher)
      | none => .error ⟨"invalid cipher \"" ++ name ++ "\"", ["NONE"]⟩
  | .digest name set =>
      match lib.reply (.fetchDigest name) with
      | some found => .ok (set found, held + lib.reference .md)
      | none => .error ⟨"invalid digest \"" ++ name ++ "\"", ["NONE"]⟩
  | .assign r => r.map (·, held)

/-- The option loop of a command. -/
def kdfReader (cmd : KdfCommand) : Reader KdfOpt Obj (KdfVars × Multiset KdfHandle) TclError where
  index := kdfIndex
  flag _ := none
  missing := kdfMissing
  assign fn value r := (cmd.opt lib fn value r.1).outcome lib r.2
  tail _ _ := none

/-- Reading the arguments. -/
def kdfRead (cmd : KdfCommand) (objv : List Obj) :
    Except (TclError × KdfVars × Multiset KdfHandle) (KdfVars × Multiset KdfHandle) :=
  (kdfReader lib cmd).read objv.tail ({ dkLen := cmd.dkLen }, 0)

namespace KdfCommand

/-- The options that a command has in its `switch`. -/
def heeds : KdfCommand → List KdfOpt
  | .pbkdf2 => [.cipher, .digest, .hash, .iter, .key, .password, .salt, .length, .size]
  | .hkdf => [.digest, .hash, .info, .key, .password, .salt, .length, .size]
  | .scrypt => [.key, .password, .salt, .length, .size, .N, .n, .r, .p]

/-- The greatest `-length`, or 0. -/
def longest : KdfCommand → Int
  | .pbkdf2 => kdfBufLen
  | .hkdf | .scrypt => 0

/-- The value is one that the option can have. -/
def Takes (cmd : KdfCommand) (p : KdfOpt × Obj) : Prop :=
  p.1 ∈ cmd.heeds →
    match p.1 with
    | .cipher => (lib.reply (.fetchCipher p.2.string)).isSome
    | .digest | .hash => (lib.reply (.fetchDigest p.2.string)).isSome
    | .iter => ∃ n, lib.tcl.getInt p.2.string = some n ∧ 1 ≤ n
    | .length | .size =>
        ∃ n, lib.tcl.getInt p.2.string = some n ∧ 1 ≤ n ∧ (0 < cmd.longest → n ≤ cmd.longest)
    | .N | .n | .r | .p => ∃ n, lib.getWide p.2.string = .ok n
    | _ => True

/-- The last value of the options in `names`, as `read` has it. -/
def last {β : Type} (cmd : KdfCommand) (ps : List (KdfOpt × Obj)) (names : List KdfOpt)
    (read : Obj → β) (b : β) : β :=
  (ps.filterMap fun p =>
    if p.1 ∈ cmd.heeds ∧ p.1 ∈ names then some (read p.2) else none).getLast?.getD b

/-- The variables after the loop: of each option the last value. -/
def chosen (cmd : KdfCommand) (ps : List (KdfOpt × Obj)) : KdfVars where
  cipher := cmd.last ps [.cipher] (fun value => lib.reply (.fetchCipher value.string)) none
  md := cmd.last ps [.digest, .hash] (fun value => lib.reply (.fetchDigest value.string)) none
  iter := cmd.last ps [.iter] (fun value => (lib.tcl.getInt value.string).getD 0) 1
  pass := cmd.last ps [.key, .password] (fun value => some value.bytes) none
  salt := cmd.last ps [.salt] (fun value => some value.bytes) none
  info := cmd.last ps [.info] (fun value => some value.bytes) none
  dkLen := cmd.last ps [.length, .size] (fun value => (lib.tcl.getInt value.string).getD 0)
    cmd.dkLen
  N := cmd.last ps [.N, .n] (fun value => (lib.getWide value.string).toOption.getD 0) 0
  r := cmd.last ps [.r] (fun value => (lib.getWide value.string).toOption.getD 0) 0
  p := cmd.last ps [.p] (fun value => (lib.getWide value.string).toOption.getD 0) 0

end KdfCommand

/-- What one option does to the variables. -/
def KdfVars.set (v : KdfVars) (cmd : KdfCommand) (fn : KdfOpt) (value : Obj) : KdfVars where
  cipher := if fn ∈ cmd.heeds ∧ fn ∈ [KdfOpt.cipher] then
    lib.reply (.fetchCipher value.string) else v.cipher
  md := if fn ∈ cmd.heeds ∧ fn ∈ [KdfOpt.digest, .hash] then
    lib.reply (.fetchDigest value.string) else v.md
  iter := if fn ∈ cmd.heeds ∧ fn ∈ [KdfOpt.iter] then
    (lib.tcl.getInt value.string).getD 0 else v.iter
  pass := if fn ∈ cmd.heeds ∧ fn ∈ [KdfOpt.key, .password] then some value.bytes else v.pass
  salt := if fn ∈ cmd.heeds ∧ fn ∈ [KdfOpt.salt] then some value.bytes else v.salt
  info := if fn ∈ cmd.heeds ∧ fn ∈ [KdfOpt.info] then some value.bytes else v.info
  dkLen := if fn ∈ cmd.heeds ∧ fn ∈ [KdfOpt.length, .size] then
    (lib.tcl.getInt value.string).getD 0 else v.dkLen
  N := if fn ∈ cmd.heeds ∧ fn ∈ [KdfOpt.N, .n] then
    (lib.getWide value.string).toOption.getD 0 else v.N
  r := if fn ∈ cmd.heeds ∧ fn ∈ [KdfOpt.r] then
    (lib.getWide value.string).toOption.getD 0 else v.r
  p := if fn ∈ cmd.heeds ∧ fn ∈ [KdfOpt.p] then
    (lib.getWide value.string).toOption.getD 0 else v.p

/-- What an option acquires. -/
def KdfCommand.acquires (cmd : KdfCommand) (fn : KdfOpt) : Multiset KdfHandle :=
  if fn ∈ cmd.heeds then
    match fn with
    | .cipher => lib.reference .cipher
    | .digest | .hash => lib.reference .md
    | _ => 0
  else 0

section Reading

variable {lib} {cmd : KdfCommand} {fn : KdfOpt} {value : Obj} {v v' : KdfVars}
  {held held' : Multiset KdfHandle}

theorem utilGetInt_eq_ok_iff {name : String} {min max n : Int} :
    utilGetInt lib value name min max = .ok n ↔
      lib.tcl.getInt value.string = some n ∧ min ≤ n ∧ (0 < max → n ≤ max) := by
  unfold utilGetInt
  cases lib.tcl.getInt value.string with
  | none => simp
  | some m =>
      simp only [Option.some.injEq]
      split
      next hmin =>
        constructor
        · nofun
        · omega
      next hmin =>
        split
        next hmax =>
          constructor
          · nofun
          · omega
        next hmax =>
          constructor
          · intro h
            cases h
            omega
          · rintro ⟨rfl, -⟩
            rfl

theorem outcome_assign_eq_ok_iff {r : Except TclError KdfVars} :
    (KdfAction.assign r).outcome lib held = .ok (v', held') ↔ r = .ok v' ∧ held' = held := by
  cases r with
  | error e => simp [KdfAction.outcome, Except.map]
  | ok v => simp [KdfAction.outcome, Except.map, eq_comm]

theorem outcome_ok :
    (KdfAction.assign (.ok v)).outcome lib held = .ok (v', held') ↔ v' = v ∧ held' = held := by
  rw [outcome_assign_eq_ok_iff, Except.ok.injEq, eq_comm]

theorem outcome_utilGetInt {name : String} {min max : Int} {g : Int → KdfVars} :
    (KdfAction.assign ((utilGetInt lib value name min max).map g)).outcome lib held =
        .ok (v', held') ↔
      (∃ n, lib.tcl.getInt value.string = some n ∧ min ≤ n ∧ (0 < max → n ≤ max)) ∧
        v' = g ((lib.tcl.getInt value.string).getD 0) ∧ held' = held := by
  rw [outcome_assign_eq_ok_iff, ← and_assoc]
  refine and_congr_left fun _ => ?_
  cases hutil : utilGetInt lib value name min max with
  | ok n =>
      obtain ⟨hint, hmin, hmax⟩ := utilGetInt_eq_ok_iff.mp hutil
      have hrange : ∃ m, some n = some m ∧ min ≤ m ∧ (0 < max → m ≤ max) := ⟨n, rfl, hmin, hmax⟩
      rw [hint, Option.getD_some, and_iff_right hrange]
      simp [Except.map, eq_comm]
  | error e =>
      have hnone : ¬ ∃ n, lib.tcl.getInt value.string = some n ∧ min ≤ n ∧ (0 < max → n ≤ max) := by
        rintro ⟨n, hn⟩
        rw [← @utilGetInt_eq_ok_iff lib value name, hutil] at hn
        contradiction
      simp [Except.map, hnone]

theorem outcome_getWide {g : Int → KdfVars} :
    (KdfAction.assign ((lib.getWide value.string).map g)).outcome lib held = .ok (v', held') ↔
      (∃ n, lib.getWide value.string = .ok n) ∧
        v' = g ((lib.getWide value.string).toOption.getD 0) ∧ held' = held := by
  rw [outcome_assign_eq_ok_iff, ← and_assoc]
  refine and_congr_left fun _ => ?_
  cases lib.getWide value.string with
  | ok n => simp [Except.map, Except.toOption, eq_comm]
  | error e => simp [Except.map]

attribute [local simp] KdfCommand.opt pbkdf2Opt hkdfOpt scryptOpt KdfCommand.Takes KdfVars.set
  KdfCommand.heeds KdfCommand.acquires KdfCommand.longest outcome_ok
  outcome_utilGetInt outcome_getWide

/-- **One option**: it is taken if its value is one that it can have. -/
theorem outcome_eq_ok_iff :
    (cmd.opt lib fn value v).outcome lib held = .ok (v', held') ↔
      cmd.Takes lib (fn, value) ∧ v' = v.set lib cmd fn value ∧
        held' = held + cmd.acquires lib fn := by
  cases cmd <;> cases fn
  case pbkdf2.cipher =>
    cases hfetch : lib.reply (.fetchCipher value.string) <;>
      simp [KdfAction.outcome, hfetch, eq_comm]
  case pbkdf2.digest | pbkdf2.hash | hkdf.digest | hkdf.hash =>
    cases hfetch : lib.reply (.fetchDigest value.string) <;>
      simp [KdfAction.outcome, hfetch, eq_comm]
  all_goals simp

theorem kdfReader_plain : (kdfReader lib cmd).Plain := ⟨fun _ => rfl, fun _ _ => rfl⟩

theorem kdfReader_accepts_iff (p : KdfOpt × Obj) :
    (kdfReader lib cmd).Accepts p ↔ cmd.Takes lib p := by
  constructor
  · intro h
    obtain ⟨r', hassign⟩ := h ({ dkLen := 0 }, 0)
    exact (outcome_eq_ok_iff.mp hassign).1
  · intro h r
    exact ⟨_, outcome_eq_ok_iff.mpr ⟨h, rfl, rfl⟩⟩

theorem kdfReader_uniform : (kdfReader lib cmd).Uniform := by
  intro fn value r r' hassign
  rw [kdfReader_accepts_iff]
  exact (outcome_eq_ok_iff.mp hassign).1

/-- What a setting does: the option is set, and acquires something. -/
theorem kdfReader_does {s : Setting KdfOpt Obj} {r r' : KdfVars × Multiset KdfHandle}
    (h : (kdfReader lib cmd).Does s r r') :
    ∃ fn value, s = .value fn value ∧ r'.1 = r.1.set lib cmd fn value ∧
      r'.2 = r.2 + cmd.acquires lib fn := by
  cases h with
  | flag hflag r => contradiction
  | value hflag hassign => exact ⟨_, _, rfl, (outcome_eq_ok_iff.mp hassign).2⟩
  | tail htail => contradiction

/-- A variable has the last value of its options. -/
theorem steps_last {β : Type} (field : KdfVars → β) {ps : List (KdfOpt × Obj)}
    {r r' : KdfVars × Multiset KdfHandle}
    (h : (kdfReader lib cmd).Steps (ps.map Reader.value) r r') {names : List KdfOpt}
    {read : Obj → β}
    (hfield : ∀ v fn value, field (KdfVars.set lib v cmd fn value) =
      if fn ∈ cmd.heeds ∧ fn ∈ names then read value else field v) :
    field r'.1 = cmd.last ps names read (field r.1) := by
  let gives := Reader.valueOf (cmd.heeds.filter (· ∈ names)) read
  have hgives : ∀ fn value, gives (.value fn value) =
      if fn ∈ cmd.heeds ∧ fn ∈ names then some (read value) else none := by
    intro fn value
    simp only [gives, Reader.valueOf, List.mem_filter, decide_eq_true_eq]
  have hstep : ∀ s r r', (kdfReader lib cmd).Does s r r' →
      field r'.1 = (gives s).getD (field r.1) := by
    intro s r r' hdoes
    obtain ⟨fn, value, rfl, hset, -⟩ := kdfReader_does hdoes
    rw [hset, hfield, hgives]
    split <;> rfl
  have hlast : field r'.1 = ((ps.map Reader.value).filterMap gives).getLast?.getD (field r.1) :=
    @Reader.Steps.last _ _ _ _ _ _ (fun r => field r.1) gives _ _ _ h hstep
  have hcomp : gives ∘ Reader.value = fun p : KdfOpt × Obj =>
      if p.1 ∈ cmd.heeds ∧ p.1 ∈ names then some (read p.2) else none :=
    funext fun p => hgives p.1 p.2
  rw [hlast, List.filterMap_map, hcomp]
  rfl

theorem steps_eq_chosen {ps : List (KdfOpt × Obj)} {r' : KdfVars × Multiset KdfHandle}
    (h : (kdfReader lib cmd).Steps (ps.map Reader.value) ({ dkLen := cmd.dkLen }, 0) r') :
    r'.1 = cmd.chosen lib ps := by
  apply KdfVars.ext
  case cipher => exact steps_last KdfVars.cipher h fun v fn value => rfl
  case md => exact steps_last KdfVars.md h fun v fn value => rfl
  case iter => exact steps_last KdfVars.iter h fun v fn value => rfl
  case pass => exact steps_last KdfVars.pass h fun v fn value => rfl
  case salt => exact steps_last KdfVars.salt h fun v fn value => rfl
  case info => exact steps_last KdfVars.info h fun v fn value => rfl
  case dkLen => exact steps_last KdfVars.dkLen h fun v fn value => rfl
  case N => exact steps_last KdfVars.N h fun v fn value => rfl
  case r => exact steps_last KdfVars.r h fun v fn value => rfl
  case p => exact steps_last KdfVars.p h fun v fn value => rfl

theorem kdfRead_eq_chosen {objv : List Obj} {ps : List (KdfOpt × Obj)}
    {r' : KdfVars × Multiset KdfHandle} (hread : kdfRead lib cmd objv = .ok r')
    (hpairs : (kdfReader lib cmd).pairs objv.tail = some ps)
    (hps : ∀ p ∈ ps, (kdfReader lib cmd).Accepts p) : r'.1 = cmd.chosen lib ps := by
  have hsteps := Reader.steps_of_read hread
  rw [kdfReader_plain.made_eq hpairs hps] at hsteps
  exact steps_eq_chosen hsteps

/-- **The options read**: all have values they can have, and the last of each counts. -/
theorem kdfRead_eq_ok_iff {objv : List Obj} :
    (∃ held, kdfRead lib cmd objv = .ok (v, held)) ↔
      ∃ ps, (kdfReader lib cmd).pairs objv.tail = some ps ∧ (∀ p ∈ ps, cmd.Takes lib p) ∧
        v = cmd.chosen lib ps := by
  have haccepts : ∀ ps : List (KdfOpt × Obj),
      (∀ p ∈ ps, (kdfReader lib cmd).Accepts p) ↔ ∀ p ∈ ps, cmd.Takes lib p := fun ps =>
    forall₂_congr fun p _ => kdfReader_accepts_iff p
  have hok := @Reader.Plain.read_ok_iff _ _ _ _ _ (@kdfReader_plain lib cmd) kdfReader_uniform
    objv.tail ({ dkLen := cmd.dkLen }, 0)
  constructor
  · rintro ⟨held, hread⟩
    obtain ⟨ps, hpairs, hps⟩ := hok.mp ⟨_, hread⟩
    exact ⟨ps, hpairs, (haccepts ps).mp hps, kdfRead_eq_chosen hread hpairs hps⟩
  · rintro ⟨ps, hpairs, hps, rfl⟩
    obtain ⟨r', hread⟩ := hok.mpr ⟨ps, hpairs, (haccepts ps).mpr hps⟩
    have hchosen := kdfRead_eq_chosen hread hpairs ((haccepts ps).mpr hps)
    exact ⟨r'.2, by rw [← hchosen]; exact hread⟩

end Reading

end TclTls
