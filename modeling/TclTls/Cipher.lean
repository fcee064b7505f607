import TclTls.Failure
import TclTls.Platform
import TclTls.Stream.Transducer

/-!
# TclTls.Cipher

`EncryptInitialize` and the helpers of `tlsUtil.c` that read its arguments.

The key and the IV are copied into two arrays on the stack.  A copy goes
through `memcpy`, which is where the program stops when the array is too small;
`encryptInitialize_fits_iff` says when it never does.  The helpers check a
length only against a positive maximum, so a cipher without a key or without an
IV leaves the array unguarded, and the IV's length is narrowed to an `int`
before it is checked.
-/

namespace TclTls

/-! ## C integers -/

/-- Conversion to a 32-bit `int`. -/
def toInt (n : Int) : Int := n.bmod (2 ^ 32)

/-- Conversion to a 64-bit `size_t`. -/
def toSizeT (n : Int) : Nat := (n % 2 ^ 64).toNat

/-! ## Ciphers -/

/-- `EVP_MAX_KEY_LENGTH` -/
def evpMaxKeyLength : Nat := 64

/-- `EVP_MAX_IV_LENGTH` -/
def evpMaxIvLength : Nat := 16

/-- `TYPE_ENCRYPT` and `TYPE_DECRYPT`. -/
inductive Operation where
  | encrypt
  | decrypt
deriving DecidableEq, Repr

/-- What the code asks of an `EVP_CIPHER`.  The library has no cipher that needs
a longer key or a longer IV. -/
structure Cipher where
  name : String
  keyLength : Nat
  ivLength : Nat
  keyLength_le : keyLength ≤ evpMaxKeyLength
  ivLength_le : ivLength ≤ evpMaxIvLength

/-- The part of the library that makes cipher contexts `σ`, and what a context
does with data. -/
structure CipherLibrary (σ : Type) where
  /-- `EVP_CIPHER_fetch` -/
  fetch : String → Option Cipher
  /-- `EVP_CIPHER_CTX_new` finds the memory -/
  contextNew : Bool
  /-- `EVP_EncryptInit_ex` or `EVP_DecryptInit_ex` with the cipher alone -/
  init : Operation → Cipher → Option σ
  /-- `EVP_CIPHER_CTX_set_padding` with 0 -/
  noPadding : σ → σ
  /-- `EVP_EncryptInit_ex` or `EVP_DecryptInit_ex` with the key and the IV alone -/
  setKeyIv : Operation → σ → List UInt8 → List UInt8 → Option σ
  /-- `GET_ERR_REASON()` after a failure -/
  errReason : String
  /-- the update and final functions -/
  stream : Stream.Transducer σ UInt8 UInt8

/-- A byte array of Tcl; its length is a `Tcl_Size`. -/
structure Bytes where
  data : List UInt8
  length_lt : data.length < 2 ^ 63

/-! ## Reading the arguments -/

/-- `Util_GetCipher` -/
def utilGetCipher {σ : Type} (lib : CipherLibrary σ) (cipherObj : Option String) (noNull : Bool) :
    Except TclError (Option Cipher) :=
  match cipherObj with
  | some name =>
      match lib.fetch name with
      | some cipher => .ok (some cipher)
      | none => .error ⟨"invalid cipher \"" ++ name ++ "\"", ["NONE"]⟩
  | none => if noNull then .error ⟨"no cipher", ["NONE"]⟩ else .ok none

/-- `Util_GetKey`: the bytes and the length it reports. -/
def utilGetKey (keyObj : Option Bytes) (name : String) (max : Int) (noNull : Bool) :
    Except TclError (Option (List UInt8 × Int)) :=
  match keyObj with
  | some key =>
      let len : Int := key.data.length
      if 0 < max ∧ max < len then
        .error ⟨"Invalid " ++ name ++ " length. Must be <= " ++ toString max ++ " bytes", ["NONE"]⟩
      else .ok (some (key.data, len))
  | none => if noNull then .error ⟨"no " ++ name, ["NONE"]⟩ else .ok none

/-- `Util_GetIV`: the bytes and the length it reports, an `int`. -/
def utilGetIV (ivObj : Option Bytes) (max : Int) (noNull : Bool) :
    Except TclError (Option (List UInt8 × Int)) :=
  match ivObj with
  | some iv =>
      let len := toInt iv.data.length
      if 0 < max ∧ max < len then
        .error ⟨"IV too long. Must be <= " ++ toString max ++ " bytes", ["NONE"]⟩
      else .ok (some (iv.data, len))
  | none =>
      if noNull then .error ⟨"no initialization vector (IV)", ["NONE"]⟩ else .ok none

/-! ## Copying into the stack frame -/

/-- The local arrays of `EncryptInitialize`. -/
inductive LocalArray where
  | key
  | iv
deriving DecidableEq, Repr

def LocalArray.capacity : LocalArray → Nat
  | .key => evpMaxKeyLength
  | .iv => evpMaxIvLength

/-- Why a function did not come to its end: it returned `TCL_ERROR`, or it wrote
`size` bytes into an array that is too small. -/
inductive Stop where
  | error (e : TclError)
  | overflow (array : LocalArray) (size : Nat)
deriving DecidableEq, Repr

/-- `memcpy` into a local array that has been cleared. -/
def memcpy (array : LocalArray) (src : List UInt8) (size : Nat) : Except Stop (List UInt8) :=
  if size ≤ array.capacity then
    .ok (src.take size ++ List.replicate (array.capacity - size) 0)
  else .error (.overflow array size)

/-- Copy what a helper handed back; without a pointer the array stays clear. -/
def copyArgument (array : LocalArray) (arg : Except TclError (Option (List UInt8 × Int))) :
    Except Stop (List UInt8) :=
  match arg with
  | .error e => .error (.error e)
  | .ok none => .ok (List.replicate array.capacity 0)
  | .ok (some (src, len)) => memcpy array src (toSizeT len)

/-- Create the context and initialize the operation, with a key and an IV of
full length. -/
def encryptContext {σ : Type} (lib : CipherLibrary σ) (type : Operation) (cipher : Cipher)
    (key iv : List UInt8) (padding : Bool) : Except TclError σ :=
  if lib.contextNew then
    match lib.init type cipher with
    | none => .error ⟨"Initialize failed: " ++ lib.errReason, ["NONE"]⟩
    | some ctx =>
        match lib.setKeyIv type (if padding then ctx else lib.noPadding ctx) key iv with
        | none => .error ⟨"Set key and IV failed: " ++ lib.errReason, ["NONE"]⟩
        | some ctx => .ok ctx
  else .error ⟨"Memory allocation error", ["NONE"]⟩

/-- `EncryptInitialize`: the context it leaves in `*ctx`. -/
def encryptInitialize {σ : Type} (lib : CipherLibrary σ) (type : Operation)
    (cipherObj : Option String) (keyObj ivObj : Option Bytes) (padding : Bool) :
    Except Stop σ :=
  match utilGetCipher lib cipherObj true with
  | .error e => .error (.error e)
  | .ok none => .error (.error ⟨"", ["NONE"]⟩)
  | .ok (some cipher) => do
      let key ← copyArgument .key (utilGetKey keyObj "key" cipher.keyLength false)
      let iv ← copyArgument .iv (utilGetIV ivObj cipher.ivLength false)
      (encryptContext lib type cipher key iv padding).mapError .error

/-! ## When the arguments fit -/

/-- Nothing was written past the end of a local array. -/
def Fits {α : Type} (r : Except Stop α) : Prop := ∀ array size, r ≠ .error (.overflow array size)

/-- A cipher without a key takes a key of any length. -/
def KeyFits (cipher : Cipher) (keyObj : Option Bytes) : Prop :=
  ∀ key, keyObj = some key → cipher.keyLength = 0 → key.data.length ≤ evpMaxKeyLength

/-- The length check lets the key pass. -/
def KeyAccepted (cipher : Cipher) (keyObj : Option Bytes) : Prop :=
  ∀ key, keyObj = some key → cipher.keyLength = 0 ∨ key.data.length ≤ cipher.keyLength

/-- A cipher without an IV takes one of any length, and a narrowed length may
be negative. -/
def IvFits (cipher : Cipher) (ivObj : Option Bytes) : Prop :=
  ∀ iv, ivObj = some iv → 0 ≤ toInt iv.data.length ∧
    (cipher.ivLength = 0 → toInt iv.data.length ≤ evpMaxIvLength)

theorem toInt_bounds (n : Int) : -2 ^ 31 ≤ toInt n ∧ toInt n < 2 ^ 31 := by
  unfold toInt
  have hlow := Int.le_bmod (x := n) (m := 2 ^ 32) (by decide)
  have hhigh := Int.bmod_lt (x := n) (m := 2 ^ 32) (by decide)
  omega

theorem toInt_natCast {n : Nat} (hn : n < 2 ^ 31) : toInt n = n := by
  unfold toInt
  rw [Int.bmod_eq_of_le (by omega) (by omega)]

theorem toInt_eq_natCast_iff (n : Nat) : toInt n = n ↔ n < 2 ^ 31 := by
  constructor
  · intro h
    have hbounds := toInt_bounds n
    omega
  · exact toInt_natCast

/-- A narrowed count goes on as if it had not been narrowed before. -/
theorem toInt_add (n m : Int) : toInt (toInt n + m) = toInt (n + m) := Int.bmod_add_bmod

theorem toInt_eq_zero_iff (n : Int) : toInt n = 0 ↔ (2 ^ 32 : Int) ∣ n :=
  Int.dvd_iff_bmod_eq_zero.symm

/-- A copy fits when its length is neither negative nor too large. -/
theorem fits_memcpy_iff (array : LocalArray) (src : List UInt8) {len : Int}
    (hlow : -2 ^ 63 ≤ len) (hhigh : len < 2 ^ 63) :
    Fits (memcpy array src (toSizeT len)) ↔ 0 ≤ len ∧ len ≤ array.capacity := by
  have hcapacity : array.capacity < 2 ^ 63 := by cases array <;> decide
  have hsize : toSizeT len ≤ array.capacity ↔ 0 ≤ len ∧ len ≤ array.capacity := by
    unfold toSizeT
    omega
  rw [← hsize]
  unfold memcpy
  split
  next h => exact iff_of_true (fun _ _ h' => by cases h') h
  next h => exact iff_of_false (fun h' => h' array (toSizeT len) rfl) h

theorem fits_copyKey_iff (cipher : Cipher) (keyObj : Option Bytes) :
    Fits (copyArgument .key (utilGetKey keyObj "key" cipher.keyLength false)) ↔
      KeyFits cipher keyObj := by
  cases keyObj with
  | none => exact iff_of_true (fun _ _ h => by cases h) (fun _ h => by cases h)
  | some key =>
      have hmax := cipher.keyLength_le
      have hlen := key.length_lt
      by_cases hlong : 0 < (cipher.keyLength : Int) ∧ (cipher.keyLength : Int) < key.data.length
      · simp only [utilGetKey, if_pos hlong, copyArgument]
        refine iff_of_true (fun _ _ h => by cases h) ?_
        intro k hk hzero
        omega
      · simp only [utilGetKey, if_neg hlong, copyArgument]
        rw [fits_memcpy_iff _ _ (by omega) (by omega)]
        have hcapacity : LocalArray.key.capacity = evpMaxKeyLength := rfl
        simp only [KeyFits, Option.some.injEq, forall_eq', hcapacity]
        omega

theorem keyAccepted_iff (cipher : Cipher) (keyObj : Option Bytes) :
    KeyAccepted cipher keyObj ↔
      ∀ e, copyArgument .key (utilGetKey keyObj "key" cipher.keyLength false) ≠ .error (.error e) := by
  cases keyObj with
  | none => exact iff_of_true (fun _ h => by cases h) (fun _ h => by cases h)
  | some key =>
      by_cases hlong : 0 < (cipher.keyLength : Int) ∧ (cipher.keyLength : Int) < key.data.length
      · simp only [utilGetKey, if_pos hlong, copyArgument]
        refine iff_of_false ?_ (fun h => h _ rfl)
        simp only [KeyAccepted, Option.some.injEq, forall_eq']
        omega
      · simp only [utilGetKey, if_neg hlong, copyArgument, memcpy]
        refine iff_of_true ?_ (fun e h => by split at h <;> cases h)
        simp only [KeyAccepted, Option.some.injEq, forall_eq']
        omega

theorem fits_copyIv_iff (cipher : Cipher) (ivObj : Option Bytes) :
    Fits (copyArgument .iv (utilGetIV ivObj cipher.ivLength false)) ↔ IvFits cipher ivObj := by
  cases ivObj with
  | none => exact iff_of_true (fun _ _ h => by cases h) (fun _ h => by cases h)
  | some iv =>
      have hmax := cipher.ivLength_le
      obtain ⟨hlow, hhigh⟩ := toInt_bounds iv.data.length
      have hcapacity : LocalArray.iv.capacity = evpMaxIvLength := rfl
      by_cases hlong : 0 < (cipher.ivLength : Int) ∧ (cipher.ivLength : Int) < toInt iv.data.length
      · simp only [utilGetIV, if_pos hlong, copyArgument]
        refine iff_of_true (fun _ _ h => by cases h) ?_
        simp only [IvFits, Option.some.injEq, forall_eq']
        omega
      · simp only [utilGetIV, if_neg hlong, copyArgument]
        rw [fits_memcpy_iff _ _ (by omega) (by omega)]
        simp only [IvFits, Option.some.injEq, forall_eq', hcapacity]
        omega

theorem utilGetCipher_eq {σ : Type} (lib : CipherLibrary σ) (cipherObj : Option String) :
    (∃ e, utilGetCipher lib cipherObj true = .error e ∧ cipherObj.bind lib.fetch = none) ∨
      ∃ cipher, utilGetCipher lib cipherObj true = .ok (some cipher) ∧
        cipherObj.bind lib.fetch = some cipher := by
  cases cipherObj with
  | none => exact .inl ⟨_, rfl, rfl⟩
  | some name =>
      cases hfetch : lib.fetch name with
      | none =>
          exact .inl ⟨⟨"invalid cipher \"" ++ name ++ "\"", ["NONE"]⟩,
            by simp [utilGetCipher, hfetch], hfetch⟩
      | some cipher => exact .inr ⟨cipher, by simp [utilGetCipher, hfetch], hfetch⟩

/-- Without a cipher, or with one that is unknown, nothing else is looked at. -/
theorem encryptInitialize_of_noCipher {σ : Type} {lib : CipherLibrary σ}
    {cipherObj : Option String} (hcipher : cipherObj.bind lib.fetch = none) (type : Operation)
    (keyObj ivObj : Option Bytes) (padding : Bool) :
    ∃ e, encryptInitialize lib type cipherObj keyObj ivObj padding = .error (.error e) := by
  rw [encryptInitialize]
  obtain ⟨e, hget, -⟩ | ⟨cipher, -, hsome⟩ := utilGetCipher_eq lib cipherObj
  · rw [hget]
    exact ⟨e, rfl⟩
  · rw [hcipher] at hsome
    contradiction

/-- With a cipher it goes on with the key and the IV. -/
theorem encryptInitialize_of_cipher {σ : Type} {lib : CipherLibrary σ}
    {cipherObj : Option String} {cipher : Cipher}
    (hcipher : cipherObj.bind lib.fetch = some cipher) (type : Operation)
    (keyObj ivObj : Option Bytes) (padding : Bool) :
    encryptInitialize lib type cipherObj keyObj ivObj padding = (do
      let key ← copyArgument .key (utilGetKey keyObj "key" cipher.keyLength false)
      let iv ← copyArgument .iv (utilGetIV ivObj cipher.ivLength false)
      (encryptContext lib type cipher key iv padding).mapError .error) := by
  rw [encryptInitialize]
  obtain ⟨e, -, hnone⟩ | ⟨cipher', hget, hsome⟩ := utilGetCipher_eq lib cipherObj
  · rw [hcipher] at hnone
    contradiction
  · rw [hcipher, Option.some.injEq] at hsome
    rw [hget, ← hsome]

theorem fits_ok {α : Type} (a : α) : Fits (.ok a) := fun _ _ h => by cases h

theorem fits_error {α : Type} (e : TclError) : Fits (.error (.error e) : Except Stop α) :=
  fun _ _ h => by cases h

theorem fits_mapError {α : Type} (r : Except TclError α) : Fits (r.mapError .error) := by
  cases r with
  | ok a => exact fits_ok a
  | error e => exact fits_error e

/-- **`EncryptInitialize` stays inside its arrays** exactly when the key fits
and, if the key is accepted, the IV does. -/
theorem encryptInitialize_fits_iff {σ : Type} (lib : CipherLibrary σ) (type : Operation)
    (cipherObj : Option String) (keyObj ivObj : Option Bytes) (padding : Bool) :
    Fits (encryptInitialize lib type cipherObj keyObj ivObj padding) ↔
      ∀ cipher, cipherObj.bind lib.fetch = some cipher →
        KeyFits cipher keyObj ∧ (KeyAccepted cipher keyObj → IvFits cipher ivObj) := by
  cases hcipher : cipherObj.bind lib.fetch with
  | none =>
      obtain ⟨e, he⟩ := encryptInitialize_of_noCipher hcipher type keyObj ivObj padding
      rw [he]
      exact iff_of_true (fits_error e) (fun _ h => by cases h)
  | some cipher =>
      rw [encryptInitialize_of_cipher hcipher]
      simp only [Option.some.injEq, forall_eq', ← fits_copyKey_iff, ← fits_copyIv_iff,
        keyAccepted_iff]
      cases copyArgument .key (utilGetKey keyObj "key" cipher.keyLength false) with
      | error stop =>
          cases stop with
          | error e => exact iff_of_true (fits_error e) ⟨fits_error e, fun h => absurd rfl (h e)⟩
          | overflow array size =>
              exact iff_of_false (fun h => h array size rfl) (fun h => h.1 array size rfl)
      | ok key =>
          cases copyArgument .iv (utilGetIV ivObj cipher.ivLength false) with
          | error stop =>
              cases stop with
              | error e => exact iff_of_true (fits_error e) ⟨fits_ok key, fun _ => fits_error e⟩
              | overflow array size =>
                  exact iff_of_false (fun h => h array size rfl)
                    (fun h => h.2 (fun _ h' => by cases h') array size rfl)
          | ok iv => exact iff_of_true (fits_mapError _) ⟨fits_ok key, fun _ => fits_ok iv⟩

/-! ## A cipher without an IV -/

/-- The last block: padded as PKCS#7 says, or refused if it is not complete. -/
def pkcs7 (n : Nat) (padding : Bool) (rest : List UInt8) : Option (List UInt8) :=
  if padding then some (rest ++ List.replicate (n - rest.length) (UInt8.ofNat (n - rest.length)))
  else if rest = [] then some []
  else none

/-- A library with one cipher, which has blocks and keys of 16 bytes and no IV.
What it does to a block does not matter here; it leaves blocks as they are. -/
def ecbLibrary : CipherLibrary (Bool × List UInt8) where
  fetch name := if name = "aes-128-ecb" then some ⟨name, 16, 0, by decide, by decide⟩ else none
  contextNew := true
  init _ _ := some (true, [])
  noPadding ctx := (false, ctx.2)
  setKeyIv _ ctx _ _ := some ctx
  errReason := "wrong final block length"
  stream := Stream.ofBlocks 16 id (pkcs7 16)

/-- With `-iv` of 17 bytes, an ECB cipher lets `memcpy` write past the end of the
array. -/
theorem encryptInitialize_overflows :
    ¬ Fits (encryptInitialize ecbLibrary .encrypt (some "aes-128-ecb")
      (some ⟨List.replicate 16 0, by decide⟩) (some ⟨List.replicate 17 0, by decide⟩) true) :=
  fun h => h .iv 17 rfl

end TclTls
