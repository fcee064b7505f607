import TclTls.Digest
import TclTls.EncryptRead

/-!
# TclTls.TransformBuffer

Whether the input procedures keep to the buffer they are given.

Neither looks at its size after the parent has been read: what the library hands
out is put into the buffer whole.  `DigestChannelHandler` and
`EncryptChannelHandler` make the channel's buffer large enough for a digest or a
block, but the size of each read is up to the generic layer, and the size of the
channel's buffer can be changed later.  So a run keeps to its buffers exactly
where each call has room for what the library has to hand out
(`buffers_respected_iff`).
-/

namespace TclTls

/-! ## Runs -/

/-- Whenever a call is made, `P` holds of the state and the call. -/
def Throughout {τ : Type} (inputProc : τ → ReadCall → ReadReply × τ) (P : τ → ReadCall → Prop) :
    τ → List ReadCall → Prop
  | _, [] => True
  | st, call :: calls => P st call ∧ Throughout inputProc P (inputProc st call).2 calls

/-- If each call, from a state with the invariant, keeps to its buffer exactly where
`P` holds, so does a run. -/
theorem fits_iff_throughout {τ : Type} {inputProc : τ → ReadCall → ReadReply × τ}
    (Inv : τ → Prop) {P : τ → ReadCall → Prop} {calls : List ReadCall}
    (hstep : ∀ st, Inv st → ∀ call ∈ calls,
      (ReadReply.Fits call (inputProc st call).1 ↔ P st call) ∧ Inv (inputProc st call).2)
    {st : τ} (hst : Inv st) :
    List.Forall₂ ReadReply.Fits calls (reads inputProc st calls).1 ↔
      Throughout inputProc P st calls := by
  induction calls generalizing st with
  | nil => exact iff_of_true .nil trivial
  | cons call calls ih =>
      obtain ⟨hcall, hinv⟩ := hstep st hst call List.mem_cons_self
      rw [reads, Throughout, List.forall₂_cons, hcall,
        ih (fun st hst c hc => hstep st hst c (List.mem_cons_of_mem _ hc)) hinv]

/-- A run keeps to its buffers if every call does, whatever the state. -/
theorem fits_of_forall {τ : Type} {inputProc : τ → ReadCall → ReadReply × τ}
    {calls : List ReadCall} (hstep : ∀ st, ∀ call ∈ calls, (inputProc st call).1.Fits call) (st : τ) :
    List.Forall₂ ReadReply.Fits calls (reads inputProc st calls).1 := by
  induction calls generalizing st with
  | nil => exact .nil
  | cons call calls ih =>
      refine .cons (hstep st call List.mem_cons_self) ?_
      exact ih (fun st c hc => hstep st c (List.mem_cons_of_mem _ hc)) _

/-- Nothing is put into the buffer. -/
theorem fits_of_nothing {call : ReadCall} (hread : 0 < call.toRead) {r : ReadReply}
    (hplaced : r.placed = []) (hresult : r.result.1 = 0 ∨ r.result.1 = -1) : r.Fits call := by
  constructor
  · rw [hplaced]
    exact Int.le_of_lt hread
  · omega

/-- What is put into the buffer is also what is returned. -/
theorem fits_iff_of_count {call : ReadCall} {r : ReadReply}
    (hresult : r.result.1 = r.placed.length) : r.Fits call ↔ r.placed.length ≤ call.toRead := by
  constructor
  · exact fun h => h.placed
  · exact fun h => ⟨h, hresult ▸ h⟩

/-! ## Digests -/

section Digests

variable {σ : Type} (lib : DigestLibrary σ)

/-- The size of a digest when it is printed. -/
def DigestFormat.printedSize : DigestFormat → Nat → Nat
  | .bin, n => n
  | .hex, n => 2 * n

theorem length_print (format : DigestFormat) (md : List UInt8) :
    (format.print md).length = format.printedSize md.length := by
  cases format with
  | bin => rfl
  | hex =>
      show (md.flatMap hexByte).length = 2 * md.length
      induction md with
      | nil => rfl
      | cons b md ih =>
          rw [List.flatMap_cons, List.length_append, ih, List.length_cons]
          have hbyte : (hexByte b).length = 2 := rfl
          omega

/-- If the call meets the end of file for the first time, there is room for the
printed digest. -/
def DigestRoom (st : DigestState σ) (call : ReadCall) : Prop :=
  st.self = true → st.eof = false → call.answer = .eof →
    ∀ md, (digestFinal lib st).1 = some md → st.format.printedSize md.length ≤ call.toRead

theorem fits_digestInputFinalized_iff (st : DigestState σ) {call : ReadCall}
    (hread : 0 < call.toRead) :
    (digestInputFinalized lib (digestFinalize lib st)).1.Fits call ↔
      ∀ md, (digestFinal lib st).1 = some md → st.format.printedSize md.length ≤ call.toRead := by
  rw [digestInputFinalized, digestFinalize]
  cases hfinal : (digestFinal lib st).1 with
  | none => exact iff_of_true (fits_of_nothing hread rfl (.inl rfl)) (by simp)
  | some md =>
      dsimp only
      rw [fits_iff_of_count rfl]
      simp only [ReadReply.last, length_print, Option.some.injEq, forall_eq']

theorem fits_digestInputProc_iff (st : DigestState σ) {call : ReadCall} (hread : 0 < call.toRead) :
    (digestInputProc lib st call).1.Fits call ↔ DigestRoom lib st call := by
  rw [DigestRoom]
  cases hself : st.self with
  | false =>
      rw [digestInputProc, if_pos (.inr hself)]
      exact iff_of_true (fits_of_nothing hread rfl (.inl rfl)) (by simp)
  | true =>
      rw [digestInputProc, if_neg (by simpa [hself] using hread)]
      cases hanswer : call.answer with
      | error errno nonzero =>
          exact iff_of_true (fits_of_nothing hread rfl (.inr rfl)) (by simp)
      | data bytes nonempty bounded =>
          dsimp only
          refine iff_of_true ?_ (by simp)
          have hagain : (-1 : Int) ≤ call.toRead := by omega
          have hzero : (0 : Int) ≤ call.toRead := by omega
          split
          · exact ⟨bounded, hagain⟩
          · exact ⟨bounded, hzero⟩
      | eof =>
          dsimp only
          cases heof : st.eof with
          | true => exact iff_of_true (fits_of_nothing hread rfl (.inl rfl)) (by simp)
          | false =>
              rw [if_neg Bool.false_ne_true, fits_digestInputFinalized_iff lib st hread]
              simp

/-- A digest has at most `EVP_MAX_MD_SIZE` bytes. -/
theorem digestFinal_le {st : DigestState σ} {md : List UInt8}
    (hmd : (digestFinal lib st).1 = some md) : md.length ≤ evpMaxMdSize := by
  unfold digestFinal at hmd
  split at hmd
  · split at hmd
    · exact lib.final_le _ _ _ hmd
    · rw [lib.finalXof_length _ _ _ hmd]
      split <;> omega
  · exact lib.final_le _ _ _ hmd
  · exact lib.final_le _ _ _ hmd

/-- The size that `DigestChannelHandler` gives to the channel's buffer is enough. -/
theorem digestRoom_of_large {st : DigestState σ} {call : ReadCall}
    (hlarge : 2 * evpMaxMdSize ≤ call.toRead) : DigestRoom lib st call := by
  intro _ _ _ md hmd
  have hle := digestFinal_le lib hmd
  cases st.format with
  | bin =>
      show (md.length : Int) ≤ call.toRead
      omega
  | hex =>
      show ((2 * md.length : Nat) : Int) ≤ call.toRead
      omega

end Digests

/-! ## Encryption -/

section Encryption

variable {σ : Type} (lib : CipherLibrary σ) {b : Nat}

/-- There is room for what the context has to hand out: for all blocks that are
complete with what is read, or, at the first end of file, for the last bytes. -/
def CipherRoom (acc : lib.stream.Blocked b) (st : EncryptState σ) (call : ReadCall) : Prop :=
  st.self = true →
    match call.answer with
    | .data bytes _ _ =>
        lib.stream.update st.ctx bytes ≠ none → acc.due st.ctx bytes.length ≤ call.toRead
    | .error _ _ => True
    | .eof =>
        st.eof = false → ∀ last, lib.stream.finish st.ctx = some last → last.length ≤ call.toRead

theorem fits_inputUpdated_iff (st : EncryptState σ) {call : ReadCall} (hread : 0 < call.toRead)
    (r : Except TclError (List UInt8 × σ)) :
    (inputUpdated lib st r).1.Fits call ↔ ∀ out ctx, r = .ok (out, ctx) → out.length ≤ call.toRead := by
  cases r with
  | error e => exact iff_of_true (fits_of_nothing hread rfl (.inl rfl)) (by simp)
  | ok r =>
      obtain ⟨out, ctx⟩ := r
      rw [inputUpdated]
      simp only [Except.ok.injEq, Prod.mk.injEq, and_imp, forall_eq', forall_apply_eq_imp_iff]
      split
      · rw [fits_iff_of_count rfl]
      next hempty =>
        refine iff_of_true (fits_of_nothing hread rfl (.inr rfl)) ?_
        omega

theorem fits_inputFinalized_iff (st : EncryptState σ) {call : ReadCall} (hread : 0 < call.toRead)
    (r : Except TclError (List UInt8)) :
    (inputFinalized lib st r).1.Fits call ↔ ∀ last, r = .ok last → last.length ≤ call.toRead := by
  cases r with
  | error e => exact iff_of_true (fits_of_nothing hread rfl (.inl rfl)) (by simp)
  | ok last =>
      rw [inputFinalized, fits_iff_of_count rfl]
      simp only [ReadReply.last, Except.ok.injEq, forall_eq']

theorem fits_encryptInputProc_iff (acc : lib.stream.Blocked b) {st : EncryptState σ}
    (hst : acc.Valid st.ctx) {call : ReadCall} (hread : 0 < call.toRead) :
    (encryptInputProc lib st call).1.Fits call ↔ CipherRoom lib acc st call := by
  have hint := call.isInt
  rw [CipherRoom]
  cases hself : st.self with
  | false =>
      rw [encryptInputProc, if_pos (.inr hself)]
      exact iff_of_true (fits_of_nothing hread rfl (.inl rfl)) (by simp)
  | true =>
      rw [encryptInputProc, if_neg (by simpa [hself] using hread)]
      cases hanswer : call.answer with
      | error errno nonzero =>
          exact iff_of_true (fits_of_nothing hread rfl (.inr rfl)) (fun _ => trivial)
      | data bytes nonempty bounded =>
          have hshort : bytes.length < 2 ^ 31 := by omega
          dsimp only
          rw [fits_inputUpdated_iff lib st hread, encryptUpdate_eq lib st.ctx hshort]
          cases hupdate : lib.stream.update st.ctx bytes with
          | none => simp
          | some r =>
              obtain ⟨out, ctx⟩ := r
              have hlen : out.length = acc.due st.ctx bytes.length := acc.update_length hst hupdate
              rw [← hlen]
              simp
      | eof =>
          dsimp only
          cases heof : st.eof with
          | true => exact iff_of_true (fits_of_nothing hread rfl (.inl rfl)) (by simp)
          | false =>
              rw [if_neg Bool.false_ne_true, fits_inputFinalized_iff lib st hread, encryptFinalize]
              cases lib.stream.finish st.ctx <;> simp

/-- The context stays valid. -/
theorem valid_encryptInputProc (acc : lib.stream.Blocked b) {st : EncryptState σ}
    (hst : acc.Valid st.ctx) (call : ReadCall) :
    acc.Valid (encryptInputProc lib st call).2.ctx := by
  have hint := call.isInt
  unfold encryptInputProc
  split
  · exact hst
  · cases call.answer with
    | error errno nonzero => exact hst
    | eof =>
        dsimp only
        split
        · exact hst
        · cases encryptFinalize lib st.ctx <;> exact hst
    | data bytes nonempty bounded =>
        have hshort : bytes.length < 2 ^ 31 := by omega
        dsimp only
        rw [encryptUpdate_eq lib st.ctx hshort]
        cases hupdate : lib.stream.update st.ctx bytes with
        | none => exact hst
        | some r =>
            dsimp only [inputUpdated]
            split <;> exact acc.update_valid hst hupdate

/-- Whatever a context holds, there is room for it in a buffer that is larger than
what is read by all but one byte of a block. -/
theorem fits_of_large (hlib : lib.stream.EmitsAtMost b) (st : EncryptState σ) {call : ReadCall}
    (hread : 0 < call.toRead) (hlarge : call.answer.bytes.length + b ≤ call.toRead + 1)
    (hlast : call.answer = .eof → b ≤ call.toRead) : (encryptInputProc lib st call).1.Fits call := by
  have hint := call.isInt
  unfold encryptInputProc
  split
  · exact fits_of_nothing hread rfl (.inl rfl)
  · cases hanswer : call.answer with
    | error errno nonzero => exact fits_of_nothing hread rfl (.inr rfl)
    | data bytes nonempty bounded =>
        have hshort : bytes.length < 2 ^ 31 := by omega
        rw [hanswer] at hlarge
        dsimp only
        rw [fits_inputUpdated_iff lib st hread, encryptUpdate_eq lib st.ctx hshort]
        intro out ctx hout
        cases hupdate : lib.stream.update st.ctx bytes with
        | none => simp [hupdate] at hout
        | some r =>
            simp only [hupdate, Except.ok.injEq] at hout
            rw [hout] at hupdate
            have hlen := hlib.update hupdate
            simp only [RawRead.bytes] at hlarge
            omega
    | eof =>
        dsimp only
        split
        · exact fits_of_nothing hread rfl (.inl rfl)
        · rw [fits_inputFinalized_iff lib st hread, encryptFinalize]
          intro last hout
          cases hfinish : lib.stream.finish st.ctx with
          | none => simp [hfinish] at hout
          | some last' =>
              simp only [hfinish, Except.ok.injEq] at hout
              rw [hout] at hfinish
              have hlen := hlib.finish hfinish
              have hroom := hlast hanswer
              omega

end Encryption

/-! ## Both procedures -/

/-- **Buffers are respected** exactly where each call has room: at the end of file for
the printed digest, and for the blocks that a cipher context completes, or its last
bytes.  Buffers of the sizes that the code sets for its channels are enough for
digests; for a cipher it takes one byte less than a block more than is read. -/
theorem buffers_respected_iff {σ τ : Type} (dlib : DigestLibrary σ) (lib : CipherLibrary τ)
    (b : Nat) :
    (∀ st (calls : List ReadCall), (∀ call ∈ calls, 0 < call.toRead) →
      (List.Forall₂ ReadReply.Fits calls (reads (digestInputProc dlib) st calls).1 ↔
        Throughout (digestInputProc dlib) (DigestRoom dlib) st calls)) ∧
    (∀ st (calls : List ReadCall), (∀ call ∈ calls, (2 * evpMaxMdSize : Int) ≤ call.toRead) →
      List.Forall₂ ReadReply.Fits calls (reads (digestInputProc dlib) st calls).1) ∧
    (∀ (acc : lib.stream.Blocked b) st (calls : List ReadCall), acc.Valid st.ctx →
      (∀ call ∈ calls, 0 < call.toRead) →
      (List.Forall₂ ReadReply.Fits calls (reads (encryptInputProc lib) st calls).1 ↔
        Throughout (encryptInputProc lib) (CipherRoom lib acc) st calls)) ∧
    (lib.stream.EmitsAtMost b → ∀ st (calls : List ReadCall),
      (∀ call ∈ calls, 0 < call.toRead ∧ (call.answer.bytes.length + b : Int) ≤ call.toRead + 1 ∧
        (call.answer = .eof → (b : Int) ≤ call.toRead)) →
      List.Forall₂ ReadReply.Fits calls (reads (encryptInputProc lib) st calls).1) := by
  refine ⟨fun st calls hread => ?_, fun st calls hlarge => ?_, fun acc st calls hvalid hread => ?_,
    fun hlib st calls hlarge => ?_⟩
  · refine fits_iff_throughout (fun _ => True) (fun st _ call hcall => ?_) trivial
    exact ⟨fits_digestInputProc_iff dlib st (hread call hcall), trivial⟩
  · refine fits_of_forall (fun st call hcall => ?_) st
    have hread : 0 < call.toRead := Int.lt_of_lt_of_le (by decide) (hlarge call hcall)
    exact (fits_digestInputProc_iff dlib st hread).mpr (digestRoom_of_large dlib (hlarge call hcall))
  · refine fits_iff_throughout (fun st => acc.Valid st.ctx) (fun st hst call hcall => ?_) hvalid
    exact ⟨fits_encryptInputProc_iff lib acc hst (hread call hcall),
      valid_encryptInputProc lib acc hst call⟩
  · refine fits_of_forall (fun st call hcall => ?_) st
    obtain ⟨hread, hroom, hlast⟩ := hlarge call hcall
    exact fits_of_large lib hlib st hread hroom hlast

/-- The blocks of `ecbLibrary`. -/
def ecbBlocks : ecbLibrary.stream.Blocked 16 := Stream.blockedOfBlocks fun _ => rfl

theorem buffers_respected_ecb :
    List.Forall₂ ReadReply.Fits
      [⟨16, by decide, .data (List.replicate 15 0) (by decide) (by decide)⟩, eofCall]
      (reads (encryptInputProc ecbLibrary) (ecbState [] [])
        [⟨16, by decide, .data (List.replicate 15 0) (by decide) (by decide)⟩, eofCall]).1 := by
  obtain ⟨-, -, hcipher, -⟩ := buffers_respected_iff md5Library ecbLibrary 16
  have hvalid : ecbBlocks.Valid (ecbState [] []).ctx := Nat.succ_pos 15
  refine (hcipher ecbBlocks _ _ hvalid (by simp [eofCall])).mpr ⟨?_, ?_, trivial⟩
  · intro _ _
    decide
  · intro _ _ last hlast
    cases hlast
    decide

/-- A byte that completes a block is read with a buffer of one byte, and sixteen come
out; a buffer of one byte at the end of file receives 32 digits. -/
theorem buffers_overflow :
    (∃ st, encryptChannelHandler ecbLibrary .encrypt (some "aes-128-ecb")
        (some ⟨List.replicate 16 0, by decide⟩) none true = .ok st ∧
      ¬ List.Forall₂ ReadReply.Fits
        [⟨15, by decide, .data (List.replicate 15 0) (by decide) (by decide)⟩,
          ⟨1, by decide, .data [0] (by decide) (by decide)⟩]
        (reads (encryptInputProc ecbLibrary) st
          [⟨15, by decide, .data (List.replicate 15 0) (by decide) (by decide)⟩,
            ⟨1, by decide, .data [0] (by decide) (by decide)⟩]).1) ∧
    ∃ st, digestChannelHandler md5Library (md5Options .hex) = .ok st ∧
      ¬ List.Forall₂ ReadReply.Fits [⟨1, by decide, .eof⟩]
        (reads (digestInputProc md5Library) st [⟨1, by decide, .eof⟩]).1 := by
  refine ⟨⟨_, rfl, ?_⟩, ⟨_, rfl, ?_⟩⟩
  · rintro (_ | ⟨-, _ | ⟨h, -⟩⟩)
    exact absurd h.placed (by decide)
  · rintro (_ | ⟨h, -⟩)
    exact absurd h.placed (by decide)

end TclTls
