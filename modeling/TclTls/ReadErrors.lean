import Mathlib.Data.Nat.Find
import TclTls.Digest
import TclTls.EncryptFile

/-!
# TclTls.ReadErrors

Files whose reads may fail.

A read that fails has not set the end of file.  The loop of `DigestFileHandler` looks at
nothing else and reads on: for ever, if all further reads fail too, as those of a
directory do, and otherwise it returns the digest of what is left.  `EncryptFileHandler`
stops there.  So both do what they should exactly where no read of the file to be hashed
fails (`fileReads_right_iff`).
-/

namespace TclTls

/-! ## Sequences of reads -/

/-- What the reads of a file return one after the other, for as long as it is read.  It
does not have data for ever. -/
structure ReadSeq (toRead : Int) where
  read : Nat → RawRead toRead
  finite : ∃ i, (read i).bytes = []

namespace ReadSeq

variable {toRead : Int} (s : ReadSeq toRead)

/-- The first `n` reads. -/
def take (n : Nat) : List (RawRead toRead) := (List.range n).map s.read

/-- The file is read up to its end, and no read fails. -/
def ReachesEof : Prop := ∃ n, s.read n = .eof ∧ ∀ i < n, (s.read i).bytes ≠ []

/-- The bytes that are read up to the end of the file are `d`. -/
def Holds (d : List UInt8) : Prop :=
  ∃ n, s.read n = .eof ∧ (∀ i < n, s.read i ≠ .eof) ∧ ((s.take n).map RawRead.bytes).flatten = d

variable {s} {n : Nat}

theorem mem_take {answer : RawRead toRead} : answer ∈ s.take n ↔ ∃ i < n, s.read i = answer := by
  simp [take]

theorem ne_eof_of_mem_take (h : ∀ i < n, s.read i ≠ .eof) :
    ∀ answer ∈ s.take n, answer ≠ .eof := by
  intro answer hanswer
  obtain ⟨i, hi, rfl⟩ := mem_take.mp hanswer
  exact h i hi

theorem take_succ : s.take (n + 1) = s.take n ++ [s.read n] := by
  rw [take, List.range_succ, List.map_append]
  rfl

theorem exists_first_eof (h : ∃ n, s.read n = .eof) :
    ∃ n, s.read n = .eof ∧ ∀ i < n, s.read i ≠ .eof := by
  classical
  exact ⟨Nat.find h, Nat.find_spec h, fun i hi => Nat.find_min h hi⟩

/-- The reads up to one of them, and the others. -/
theorem exists_take_eq {m : Nat} (h : m < n) :
    ∃ after, s.take n = s.take m ++ s.read m :: after := by
  induction n, h using Nat.le_induction with
  | base => exact ⟨[], take_succ⟩
  | succ n hn ih =>
      obtain ⟨after, hafter⟩ := ih
      refine ⟨after ++ [s.read n], ?_⟩
      rw [take_succ, hafter, List.append_assoc]
      rfl

/-- A part of the reads up to one of them. -/
theorem take_eq_append_cons {before after : List (RawRead toRead)} {answer : RawRead toRead}
    (h : s.take n = before ++ answer :: after) :
    before = s.take before.length ∧ s.read before.length = answer := by
  have hlength : before.length < n := by
    have hsum := congrArg List.length h
    simp only [take, List.length_map, List.length_range, List.length_append,
      List.length_cons] at hsum
    omega
  constructor
  · have hbefore := congrArg (List.take before.length) h
    rw [List.take_left, take, ← List.map_take, List.take_range,
      Nat.min_eq_left (Nat.le_of_lt hlength)] at hbefore
    exact hbefore.symm
  · have hanswer := congrArg (·[before.length]?) h
    simpa [take, hlength] using hanswer

end ReadSeq

/-! ## The digest of a file -/

section Digest

variable {σ : Type} (lib : DigestLibrary σ)

/-- The message digest of `d`, from one update. -/
def digestOf (o : DigestOptions) (d : List UInt8) : Except TclError (List UInt8) := do
  let st ← digestInitialize lib o
  (digestFinalize lib (st.absorb lib d)).1

/-- Hashing the file comes to an end, and if it gives a digest then no read has failed and
the digest is that of all bytes. -/
structure DigestReadsRight (o : DigestOptions) (file : FileAnswers) (s : ReadSeq bufferSize) :
    Prop where
  ends : ∃ n, digestFileHandler lib o { file with reads := s.take n } ≠ none
  whole : ∀ n digest,
    digestFileHandler lib o { file with reads := s.take n } = some (.ok digest) →
    s.ReachesEof ∧ (Stream.Absorbs (DigestState.absorb lib) →
      ∀ d, s.Holds d → digestOf lib o d = .ok digest)

/-- Nothing goes wrong but in reads. -/
structure FileAnswers.Opens (file : FileAnswers) : Prop where
  opens : file.openChannel = .ok ()
  binary : file.setTranslation = .ok ()
  closes : file.close = .ok ()

variable {lib}

theorem digestFileLoop_ne_none {answers : List (RawRead bufferSize)} (heof : .eof ∈ answers)
    (st : DigestState σ) : digestFileLoop lib st answers ≠ none := by
  induction answers generalizing st with
  | nil => simp at heof
  | cons answer answers ih =>
      cases answer with
      | eof => simp [digestFileLoop]
      | error errno nonzero =>
          rw [digestFileLoop]
          exact ih (by simpa using heof) st
      | data bytes nonempty bounded =>
          rw [digestFileLoop]
          dsimp only
          split
          · exact ih (by simpa using heof) _
          · simp

/-- What a digest that is returned has come from. -/
theorem digestFileHandler_eq_ok {o : DigestOptions} {file : FileAnswers} {digest : List UInt8}
    (h : digestFileHandler lib o file = some (.ok digest)) :
    ∃ st st', digestInitialize lib o = .ok st ∧
      digestFileLoop lib st file.reads = some (.ok st') ∧
      (digestFinalize lib st').1 = .ok digest := by
  rw [digestFileHandler, digestOpenFile] at h
  cases hopen : file.openChannel with
  | error e => simp [hopen] at h
  | ok u =>
      rw [hopen] at h
      cases hinit : (do file.setTranslation; digestInitialize lib o) with
      | error e =>
          rw [hinit] at h
          cases hclose : file.close <;> simp [hclose] at h
      | ok st =>
          obtain ⟨u', -, hst⟩ := bind_eq_ok_iff.mp hinit
          rw [hinit, Option.map_map, Option.map_eq_some_iff] at h
          obtain ⟨res, hloop, hres⟩ := h
          cases hclose : file.close with
          | error e => simp [hclose] at hres
          | ok u'' =>
              rw [Function.comp, hclose] at hres
              obtain ⟨st', rfl, hdigest⟩ := bind_eq_ok_iff.mp hres
              exact ⟨st, st', hst, hloop, hdigest⟩

/-- A handler that does not come to an end is in its loop. -/
theorem digestFileHandler_ne_none {o : DigestOptions} {file : FileAnswers}
    (h : ∀ st, digestFileLoop lib st file.reads ≠ none) : digestFileHandler lib o file ≠ none := by
  rw [digestFileHandler, digestOpenFile]
  cases file.openChannel with
  | error e => simp
  | ok u =>
      cases (do file.setTranslation; digestInitialize lib o) with
      | error e => simp
      | ok st => simpa using h st

/-- The handler without any failure but in reads. -/
theorem digestFileHandler_of_opens {o : DigestOptions} {file : FileAnswers} (hfile : file.Opens)
    {st : DigestState σ} (hst : digestInitialize lib o = .ok st)
    (answers : List (RawRead bufferSize)) :
    digestFileHandler lib o { file with reads := answers } =
      (digestFileLoop lib st answers).map fun res =>
        res.bind fun st => (digestFinalize lib st).1 := by
  rw [digestFileHandler, hfile.opens, digestOpenFile, hfile.binary, ok_bind, hst, hfile.closes]
  simp [Function.comp_def]

/-- What has been absorbed at the end of file is what has been read. -/
theorem digestFileLoop_eq_ok (habsorbs : Stream.Absorbs (DigestState.absorb lib))
    {s : ReadSeq bufferSize} {d : List UInt8} (hd : s.Holds d) {n : Nat} {st st' : DigestState σ}
    (hloop : digestFileLoop lib st (s.take n) = some (.ok st')) : st' = st.absorb lib d := by
  obtain ⟨m, heof, hbefore, rfl⟩ := hd
  have hblocks : ∀ k ≤ m, ∀ block ∈ s.take k, block ≠ .eof := fun k hk =>
    ReadSeq.ne_eof_of_mem_take fun i hi => hbefore i (Nat.lt_of_lt_of_le hi hk)
  by_cases hn : n ≤ m
  · -- the loop is still reading, or an update has failed
    rw [← List.append_nil (s.take n)] at hloop
    rcases digestFileLoop_append lib habsorbs (hblocks n hn) st with happend | ⟨-, e, herror⟩
    · rw [happend, digestFileLoop] at hloop
      contradiction
    · rw [herror] at hloop
      simp at hloop
  · obtain ⟨after, hafter⟩ := ReadSeq.exists_take_eq (s := s) (Nat.lt_of_not_le hn)
    rw [hafter, heof] at hloop
    rcases digestFileLoop_append lib habsorbs (hblocks m (Nat.le_refl m)) st with
      happend | ⟨-, e, herror⟩
    · rw [happend, digestFileLoop] at hloop
      exact (Except.ok.inj (Option.some.inj hloop)).symm
    · rw [herror] at hloop
      simp at hloop

/-- Without a read that fails the digest is that of all bytes. -/
theorem digestReads_right {s : ReadSeq bufferSize} (hs : s.ReachesEof) (o : DigestOptions)
    (file : FileAnswers) : DigestReadsRight lib o file s where
  ends := by
    obtain ⟨n, heof, -⟩ := hs
    refine ⟨n + 1, digestFileHandler_ne_none fun st => digestFileLoop_ne_none ?_ st⟩
    exact ReadSeq.mem_take.mpr ⟨n, Nat.lt_succ_self n, heof⟩
  whole n digest h := by
    refine ⟨hs, fun habsorbs d hd => ?_⟩
    obtain ⟨st, st', hst, hloop, hdigest⟩ := digestFileHandler_eq_ok h
    rw [digestFileLoop_eq_ok habsorbs hd hloop] at hdigest
    rw [digestOf, hst, ok_bind, hdigest]

/-- Without an end of file hashing does not come to an end. -/
theorem digestFileHandler_eq_none (hlib : lib.Folds) {o : DigestOptions} {file : FileAnswers}
    (hfile : file.Opens) {st : DigestState σ} (hst : digestInitialize lib o = .ok st)
    {s : ReadSeq bufferSize} (hnever : ∀ i, s.read i ≠ .eof) (n : Nat) :
    digestFileHandler lib o { file with reads := s.take n } = none := by
  have hblocks := ReadSeq.ne_eof_of_mem_take fun i (_ : i < n) => hnever i
  have hnone := digestFileLoop_absorbs lib hlib hblocks st []
  rw [List.append_nil, digestFileLoop] at hnone
  rw [digestFileHandler_of_opens hfile hst, hnone, Option.map_none]

/-- **Hashing a file** without any failure but in reads is right exactly if no read
fails. -/
theorem digestReadsRight_iff (hlib : lib.Folds) {o : DigestOptions} {file : FileAnswers}
    (hfile : file.Opens) {st : DigestState σ} (hst : digestInitialize lib o = .ok st)
    (s : ReadSeq bufferSize) :
    DigestReadsRight lib o file s ↔ s.ReachesEof := by
  constructor
  · intro h
    by_cases heof : ∃ n, s.read n = .eof
    · -- a digest is returned, be it of all bytes or not
      obtain ⟨n, heof, hbefore⟩ := ReadSeq.exists_first_eof heof
      obtain ⟨value, ctx, hvalue⟩ := digestFinalize_eq lib hlib
        (st.absorb lib ((s.take n).map RawRead.bytes).flatten)
      have hdigest : digestFileHandler lib o { file with reads := s.take (n + 1) } =
          some (.ok value) := by
        rw [digestFileHandler_of_opens hfile hst, ReadSeq.take_succ,
          digestFileLoop_absorbs lib hlib (ReadSeq.ne_eof_of_mem_take hbefore), heof,
          digestFileLoop]
        simp only [Option.map_some, Except.bind, hvalue]
      exact (h.whole (n + 1) value hdigest).1
    · obtain ⟨n, hend⟩ := h.ends
      have hnever : ∀ i, s.read i ≠ .eof := fun i hi => heof ⟨i, hi⟩
      exact absurd (digestFileHandler_eq_none hlib hfile hst hnever n) hend
  · intro hs
    exact digestReads_right hs o file

end Digest

/-! ## The encryption of a file -/

section Encrypt

variable {σ : Type} (lib : CipherLibrary σ)

/-- Encrypting the file comes to an end, and if it returns `TCL_OK` then no read has failed
and all bytes have been encrypted. -/
structure EncryptReadsRight (type : Operation) (files : EncryptFiles) (cipherObj : Option String)
    (keyObj ivObj : Option Bytes) (padding : Bool) (s : ReadSeq encryptBufferSize) : Prop where
  ends : ∃ n, encryptFileHandler lib type { files with reads := s.take n } cipherObj keyObj ivObj
    padding ≠ none
  whole : ∀ n total out,
    encryptFileHandler lib type { files with reads := s.take n } cipherObj keyObj ivObj padding =
      some (.ok total, out) →
    s.ReachesEof ∧ ∀ d, s.Holds d → ∃ ctx blocks pieces file, out = some file ∧
      GoesThrough lib type { files with reads := s.take n } cipherObj keyObj ivObj padding ctx
        blocks pieces file ∧ blocks.flatten = d

variable {lib}

/-- The loop ends at the latest with a read that gives no data. -/
theorem encryptFileLoop_ne_none (files : EncryptFiles)
    {answers : List (RawRead encryptBufferSize)} (hstop : ∃ answer ∈ answers, answer.bytes = [])
    (st : FileState σ) : encryptFileLoop lib files st answers ≠ none := by
  induction answers generalizing st with
  | nil => simp at hstop
  | cons answer answers ih =>
      cases answer with
      | eof => simp [encryptFileLoop]
      | error errno nonzero => simp [encryptFileLoop]
      | data bytes nonempty bounded =>
          rw [encryptFileLoop]
          split
          · exact ih (by simpa [RawRead.bytes, nonempty] using hstop) _
          · simp

/-- The blocks come before the end of file. -/
theorem fileBlocks_eq_some {toRead : Int} {answers : List (RawRead toRead)}
    {blocks : List (List UInt8)} (h : fileBlocks answers = some blocks) :
    ∃ before after, answers = before ++ .eof :: after ∧ (∀ block ∈ before, block.bytes ≠ []) ∧
      before.map RawRead.bytes = blocks := by
  induction answers generalizing blocks with
  | nil => simp [fileBlocks] at h
  | cons answer answers ih =>
      cases answer with
      | eof =>
          obtain rfl : [] = blocks := Option.some.inj h
          exact ⟨[], answers, rfl, List.forall_mem_nil _, rfl⟩
      | error errno nonzero => simp [fileBlocks] at h
      | data bytes nonempty bounded =>
          obtain ⟨rest, hrest, rfl⟩ := Option.map_eq_some_iff.mp h
          obtain ⟨before, after, rfl, hbefore, rfl⟩ := ih hrest
          exact ⟨.data bytes nonempty bounded :: before, after, rfl,
            List.forall_mem_cons.mpr ⟨nonempty, hbefore⟩, rfl⟩

/-- **Encrypting a file** is right whatever the reads return. -/
theorem encryptReads_right (s : ReadSeq encryptBufferSize) (type : Operation)
    (files : EncryptFiles) (cipherObj : Option String) (keyObj ivObj : Option Bytes)
    (padding : Bool) : EncryptReadsRight lib type files cipherObj keyObj ivObj padding s where
  ends := by
    obtain ⟨i, hi⟩ := s.finite
    refine ⟨i + 1, encryptFileHandler_ne_none lib fun st => encryptFileLoop_ne_none _ ?_ st⟩
    exact ⟨s.read i, ReadSeq.mem_take.mpr ⟨i, Nat.lt_succ_self i, rfl⟩, hi⟩
  whole n total out h := by
    obtain ⟨file, rfl⟩ := encryptFileHandler_opened lib h
    obtain ⟨⟨ctx, blocks, pieces, hgoes⟩, -⟩ := (encryptFileHandler_eq_ok_iff lib total file).mp h
    obtain ⟨before, after, htake, hdata, hblocks⟩ := fileBlocks_eq_some hgoes.reads
    obtain ⟨hbefore, heof⟩ := ReadSeq.take_eq_append_cons htake
    have hread : ∀ i < before.length, (s.read i).bytes ≠ [] := by
      intro i hi
      rw [hbefore] at hdata
      exact hdata _ (ReadSeq.mem_take.mpr ⟨i, hi, rfl⟩)
    refine ⟨⟨before.length, heof, hread⟩, ?_⟩
    rintro d ⟨m, heof', hbefore', hd⟩
    refine ⟨ctx, blocks, pieces, file, rfl, hgoes, ?_⟩
    have hm : m = before.length := by
      rcases Nat.lt_trichotomy m before.length with hlt | heq | hgt
      · exact absurd (congrArg RawRead.bytes heof') (hread m hlt)
      · exact heq
      · exact absurd heof (hbefore' before.length hgt)
    rw [← hblocks, ← hd, hm, ← hbefore]

end Encrypt

/-! ## Both -/

/-- A file that can be opened and closed. -/
def openedFile : FileAnswers where
  openChannel := .ok ()
  setTranslation := .ok ()
  reads := []
  close := .ok ()

theorem openedFile_opens : openedFile.Opens := ⟨rfl, rfl, rfl⟩

/-- **File reads are right** in both, for whatever library and options there are, exactly
if no read of the file to be hashed fails. -/
theorem fileReads_right_iff (s : ReadSeq bufferSize) (s' : ReadSeq encryptBufferSize) :
    ((∀ (σ : Type) (lib : DigestLibrary σ) (o : DigestOptions) (file : FileAnswers),
        DigestReadsRight lib o file s) ∧
      ∀ (σ : Type) (lib : CipherLibrary σ) (type : Operation) (files : EncryptFiles)
        (cipherObj : Option String) (keyObj ivObj : Option Bytes) (padding : Bool),
        EncryptReadsRight lib type files cipherObj keyObj ivObj padding s') ↔
    s.ReachesEof := by
  constructor
  · rintro ⟨h, -⟩
    exact (digestReadsRight_iff md5Library_folds openedFile_opens rfl s).mp
      (h _ md5Library (md5Options .hex) openedFile)
  · intro hs
    exact ⟨fun _ _ o file => digestReads_right hs o file,
      fun _ _ type files cipherObj keyObj ivObj padding =>
        encryptReads_right s' type files cipherObj keyObj ivObj padding⟩

/-- A directory, which can be opened: every read fails with `EISDIR`. -/
def directory {toRead : Int} : ReadSeq toRead where
  read _ := .error 21 (by decide)
  finite := ⟨0, rfl⟩

/-- Hashing a directory never comes to an end. -/
theorem directory_endless :
    (∀ n, digestFileHandler md5Library (md5Options .hex)
      { openedFile with reads := directory.take n } = none) ∧
    ¬ ((∀ (σ : Type) (lib : DigestLibrary σ) (o : DigestOptions) (file : FileAnswers),
          DigestReadsRight lib o file directory) ∧
        ∀ (σ : Type) (lib : CipherLibrary σ) (type : Operation) (files : EncryptFiles)
          (cipherObj : Option String) (keyObj ivObj : Option Bytes) (padding : Bool),
          EncryptReadsRight lib type files cipherObj keyObj ivObj padding directory) := by
  have hnever : ∀ i, (directory : ReadSeq bufferSize).read i ≠ .eof := nofun
  have hnone := digestFileHandler_eq_none md5Library_folds openedFile_opens
    (o := md5Options .hex) rfl hnever
  refine ⟨hnone, ?_⟩
  rintro ⟨h, -⟩
  obtain ⟨n, hend⟩ := (h _ md5Library (md5Options .hex) openedFile).ends
  exact hend (hnone n)

end TclTls
