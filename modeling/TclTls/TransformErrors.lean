import TclTls.Digest
import TclTls.EncryptRead

/-!
# TclTls.TransformErrors

How the transformations tell the generic layer of an error.

The layer looks at the error code only if the result is -1.  Where the library
fails the procedures leave `EINVAL` behind and return 0, which is an end of file
to a reader.  Everything else they report as they should, so a procedure keeps
the law exactly where the library does what it is asked to do
(`errors_reported_iff`).
-/

namespace TclTls

/-- -1 is returned exactly if an error code is left. -/
def ErrorLaw (result : Int × Errno) : Prop := result.1 = -1 ↔ result.2 ≠ 0

/-- A count, with no error. -/
theorem errorLaw_count (n : Nat) : ErrorLaw ((n : Int), 0) := by
  have hcount : (n : Int) ≠ -1 := by omega
  exact iff_of_false hcount (fun h => h rfl)

theorem errorLaw_error {errno : Errno} (h : errno ≠ 0) : ErrorLaw (-1, errno) := iff_of_true rfl h

/-- What a procedure reports when the library has failed. -/
theorem not_errorLaw_einval : ¬ ErrorLaw (0, Errno.einval) := by
  intro h
  have hresult : (0 : Int) = -1 := h.mpr (by decide)
  contradiction

/-! ## Digests -/

section Digests

variable {σ : Type} (lib : DigestLibrary σ)

/-- The call meets the end of file, and the digest cannot be finalized. -/
def DigestFinalFails (st : DigestState σ) (call : ReadCall) : Prop :=
  st.self = true ∧ st.eof = false ∧ call.answer = .eof ∧ (digestFinal lib st).1 = none

/-- Without a message an update does not fail. -/
theorem digestUpdate_false (st : DigestState σ) (buf : List UInt8) :
    (digestUpdate lib st buf false).1 = .ok () := by
  simp [digestUpdate]

theorem errorLaw_digestInputFinalized_iff (st : DigestState σ) :
    ErrorLaw (digestInputFinalized lib (digestFinalize lib st)).1.result ↔
      (digestFinal lib st).1 ≠ none := by
  rw [digestInputFinalized, digestFinalize]
  cases hfinal : (digestFinal lib st).1 with
  | none => exact iff_of_false not_errorLaw_einval (fun h => h rfl)
  | some md => exact iff_of_true (errorLaw_count _) (Option.some_ne_none md)

theorem errorLaw_digestInputProc_iff (st : DigestState σ) {call : ReadCall}
    (hread : 0 < call.toRead) :
    ErrorLaw (digestInputProc lib st call).1.result ↔ ¬ DigestFinalFails lib st call := by
  rw [DigestFinalFails]
  cases hself : st.self with
  | false =>
      rw [digestInputProc, if_pos (.inr hself)]
      exact iff_of_true (errorLaw_count 0) (fun h => Bool.noConfusion h.1)
  | true =>
      rw [digestInputProc, if_neg (by simpa [hself] using hread)]
      cases hanswer : call.answer with
      | error errno nonzero =>
          exact iff_of_true (errorLaw_error nonzero) (by simp)
      | data bytes nonempty bounded =>
          dsimp only
          rw [digestUpdate_false]
          exact iff_of_true (errorLaw_error (by decide)) (by simp)
      | eof =>
          dsimp only
          cases heof : st.eof with
          | true => exact iff_of_true (errorLaw_count 0) (fun h => Bool.noConfusion h.2.1)
          | false =>
              rw [if_neg Bool.false_ne_true, errorLaw_digestInputFinalized_iff]
              simp

theorem errorLaw_digestOutputProc (st : DigestState σ) (buf : List UInt8) :
    ErrorLaw (digestOutputProc lib st buf).1 := by
  unfold digestOutputProc
  dsimp only
  rw [digestUpdate_false]
  split
  · exact errorLaw_count 0
  · exact errorLaw_count buf.length

end Digests

/-! ## Encryption -/

section Encryption

variable {σ : Type} (lib : CipherLibrary σ)

/-- The library fails to do what the call asks of it: to update with what was read,
or to finalize at the end of file. -/
def EncryptReadFails (st : EncryptState σ) (call : ReadCall) : Prop :=
  st.self = true ∧
    match call.answer with
    | .data bytes _ _ => lib.stream.update st.ctx bytes = none
    | .error _ _ => False
    | .eof => st.eof = false ∧ lib.stream.finish st.ctx = none

/-- The library fails to update with what is written. -/
def EncryptWriteFails (st : EncryptState σ) (buf : List UInt8) : Prop :=
  st.self = true ∧ lib.stream.update st.ctx buf = none

theorem errorLaw_inputUpdated_iff (st : EncryptState σ) (r : Except TclError (List UInt8 × σ)) :
    ErrorLaw (inputUpdated lib st r).1.result ↔ ¬ Fails r := by
  cases r with
  | error e => exact iff_of_false not_errorLaw_einval (fun h => h ⟨e, rfl⟩)
  | ok r =>
      refine iff_of_true ?_ (not_fails_ok r)
      rw [inputUpdated]
      split
      · exact errorLaw_count _
      · exact errorLaw_error (by decide)

theorem errorLaw_inputFinalized_iff (st : EncryptState σ) (r : Except TclError (List UInt8)) :
    ErrorLaw (inputFinalized lib st r).1.result ↔ ¬ Fails r := by
  cases r with
  | error e => exact iff_of_false not_errorLaw_einval (fun h => h ⟨e, rfl⟩)
  | ok out => exact iff_of_true (errorLaw_count _) (not_fails_ok out)

theorem fails_encryptUpdate_iff (ctx : σ) {data : List UInt8} (hdata : data.length < 2 ^ 31) :
    Fails (encryptUpdate lib ctx data data.length) ↔ lib.stream.update ctx data = none := by
  rw [encryptUpdate_eq lib ctx hdata]
  cases lib.stream.update ctx data <;> simp

theorem fails_encryptFinalize_iff (ctx : σ) :
    Fails (encryptFinalize lib ctx) ↔ lib.stream.finish ctx = none := by
  rw [encryptFinalize]
  cases lib.stream.finish ctx <;> simp

theorem errorLaw_encryptInputProc_iff (st : EncryptState σ) {call : ReadCall}
    (hread : 0 < call.toRead) :
    ErrorLaw (encryptInputProc lib st call).1.result ↔ ¬ EncryptReadFails lib st call := by
  have hint := call.isInt
  rw [EncryptReadFails]
  cases hself : st.self with
  | false =>
      rw [encryptInputProc, if_pos (.inr hself)]
      exact iff_of_true (errorLaw_count 0) (fun h => Bool.noConfusion h.1)
  | true =>
      rw [encryptInputProc, if_neg (by simpa [hself] using hread)]
      cases hanswer : call.answer with
      | error errno nonzero => exact iff_of_true (errorLaw_error nonzero) (fun h => h.2)
      | data bytes nonempty bounded =>
          have hshort : bytes.length < 2 ^ 31 := by omega
          dsimp only
          rw [errorLaw_inputUpdated_iff, fails_encryptUpdate_iff lib st.ctx hshort]
          simp
      | eof =>
          dsimp only
          cases heof : st.eof with
          | true => exact iff_of_true (errorLaw_count 0) (fun h => Bool.noConfusion h.2.1)
          | false =>
              rw [if_neg Bool.false_ne_true, errorLaw_inputFinalized_iff, fails_encryptFinalize_iff]
              simp

theorem errorLaw_encryptOutputProc_iff (st : EncryptState σ) {buf : List UInt8}
    (hbuf : Writable buf) :
    ErrorLaw (encryptOutputProc lib st buf).1 ↔ ¬ EncryptWriteFails lib st buf := by
  rw [EncryptWriteFails]
  cases hself : st.self with
  | false =>
      unfold encryptOutputProc
      rw [if_pos (.inr hself)]
      exact iff_of_true (errorLaw_count 0) (fun h => Bool.noConfusion h.1)
  | true =>
      rw [encryptOutputProc_eq lib hself hbuf]
      cases hupdate : lib.stream.update st.ctx buf with
      | none => exact iff_of_false not_errorLaw_einval (fun h => h ⟨rfl, rfl⟩)
      | some r =>
          refine iff_of_true ?_ (fun h => Option.some_ne_none r h.2)
          dsimp only
          split
          · exact errorLaw_error (by decide)
          · exact errorLaw_count buf.length

end Encryption

/-! ## All four procedures -/

/-- **Errors are reported** as errors exactly where the library does not fail; the
output procedure of a digest takes no notice of its failures. -/
theorem errors_reported_iff {σ τ : Type} (dlib : DigestLibrary σ) (lib : CipherLibrary τ) :
    (∀ st (call : ReadCall), 0 < call.toRead →
      (ErrorLaw (digestInputProc dlib st call).1.result ↔ ¬ DigestFinalFails dlib st call)) ∧
    (∀ st buf, Writable buf → ErrorLaw (digestOutputProc dlib st buf).1) ∧
    (∀ st (call : ReadCall), 0 < call.toRead →
      (ErrorLaw (encryptInputProc lib st call).1.result ↔ ¬ EncryptReadFails lib st call)) ∧
    (∀ st buf, Writable buf →
      (ErrorLaw (encryptOutputProc lib st buf).1 ↔ ¬ EncryptWriteFails lib st buf)) :=
  ⟨fun st _ hread => errorLaw_digestInputProc_iff dlib st hread,
    fun st buf _ => errorLaw_digestOutputProc dlib st buf,
    fun st _ hread => errorLaw_encryptInputProc_iff lib st hread,
    fun st _ hbuf => errorLaw_encryptOutputProc_iff lib st hbuf⟩

/-- A single byte is no block, and cannot be decrypted without padding: the reader
gets an end of file all the same. -/
theorem truncated_stream_ends :
    ∃ st, encryptChannelHandler ecbLibrary .decrypt (some "aes-128-ecb")
        (some ⟨List.replicate 16 0, by decide⟩) none false = .ok st ∧
      ∃ r ∈ (reads (encryptInputProc ecbLibrary) st
        [⟨4096, by decide, .data [0] (by decide) (by decide)⟩, eofCall]).1, ¬ ErrorLaw r.result := by
  refine ⟨_, rfl, _, List.mem_cons_of_mem _ List.mem_cons_self, not_errorLaw_einval⟩

end TclTls
