import TclTls.Encrypt
import TclTls.Stream.Sink
import TclTls.Transform

/-!
# TclTls.EncryptFile

Encryption of a file, by `EncryptFileHandler`.

Each block that is read goes through the context, and what comes out is written to the
other file at once.  A write that takes less than it is given counts as a success, and
what it takes is added up in an `int`.  So the file agrees with `EncryptDataHandler` if
every write is taken whole, and the number returned is its size if that is an `int`
(`encryptFile_agrees_iff`).
-/

namespace TclTls

variable {σ : Type} (lib : CipherLibrary σ)

/-! ## The handler -/

/-- `BUFFER_SIZE` of `tlsEncrypt.c`. -/
def encryptBufferSize : Int := 32768

/-- What `Tcl_WriteRaw` gives for `toWrite` bytes: how many of them it has written, or -1
with an error code. -/
inductive RawWrite (toWrite : Nat) where
  | wrote (n : Nat) (bounded : n ≤ toWrite)
  | error (errno : Errno)

/-- What the file system and the channels answer to `EncryptFileHandler`, with the
answers to the writes by their number. -/
structure EncryptFiles where
  openIn : Except TclError Unit
  openOut : Except TclError Unit
  reads : List (RawRead encryptBufferSize)
  write : Nat → (toWrite : Nat) → RawWrite toWrite
  /-- `Tcl_ErrnoMsg` -/
  errnoMsg : Errno → String

/-- The variables of the handler, with the number of writes and the contents of the
output file. -/
structure FileState (σ : Type) where
  ctx : σ
  total : Int := 0
  writes : Nat := 0
  out : List UInt8 := []

/-- Write what is in `out_buf`, if there is anything. -/
def writeOutput (files : EncryptFiles) (st : FileState σ) (outBuf : List UInt8) :
    Except Stop Unit × FileState σ :=
  if 0 < outBuf.length then
    match files.write st.writes outBuf.length with
    | .wrote len _ =>
        -- the count is an `int` like the length of `out_buf`
        (.ok (), { st with
          total := toInt (st.total + len)
          writes := st.writes + 1
          out := st.out ++ outBuf.take len })
    | .error errno => (.error (.error ⟨"Write error: " ++ files.errnoMsg errno, ["NONE"]⟩), st)
  else (.ok (), st)

/-- What is done with the result of `EncryptUpdate`. -/
def writeUpdate (files : EncryptFiles) (st : FileState σ) :
    Except TclError (List UInt8 × σ) → Except Stop Unit × FileState σ
  | .error e => (.error (.error e), st)
  | .ok (outBuf, ctx) => writeOutput files { st with ctx } outBuf

/-- A block that has been read: update the context with it, and write what comes out. -/
def encryptBlock (files : EncryptFiles) (st : FileState σ) (bytes : List UInt8) :
    Except Stop Unit × FileState σ :=
  writeUpdate files st (encryptUpdate lib st.ctx bytes bytes.length)

/-- The loop of `EncryptFileHandler`; `none` if it is still reading when the answers
come to their end. -/
def encryptFileLoop (files : EncryptFiles) : FileState σ → List (RawRead encryptBufferSize) →
    Option (Except Stop Unit × FileState σ)
  | _, [] => none
  | st, .eof :: _ => some (.ok (), st)
  | st, .error errno _ :: _ =>
      some (.error (.error ⟨"Read error: " ++ files.errnoMsg errno, ["NONE"]⟩), st)
  | st, .data bytes _ _ :: answers =>
      let r := encryptBlock lib files st bytes
      if r.1.isOk then encryptFileLoop files r.2 answers else some r

/-- What is done with the result of the loop. -/
def encryptFileFinish (files : EncryptFiles) :
    Except Stop Unit × FileState σ → Except Stop Int × FileState σ
  | (.error stop, st) => (.error stop, st)
  | (.ok _, st) =>
      match encryptFinalize lib st.ctx with
      | .error e => (.error (.error e), st)
      | .ok outBuf =>
          let (res, st) := writeOutput files st outBuf
          (res.map fun _ => st.total, st)

/-- `EncryptFileHandler`: the result, and the contents of the output file, with `none`
for a file that has not been opened for writing.  Opening it makes it empty.  Without a
result the handler does not come to an end. -/
def encryptFileHandler (type : Operation) (files : EncryptFiles) (cipherObj : Option String)
    (keyObj ivObj : Option Bytes) (padding : Bool) :
    Option (Except Stop Int × Option (List UInt8)) :=
  match files.openIn with
  | .error e => some (.error (.error e), none)
  | .ok _ =>
      match files.openOut with
      | .error e => some (.error (.error e), none)
      | .ok _ =>
          match encryptInitialize lib type cipherObj keyObj ivObj padding with
          | .error stop => some (.error stop, some [])
          | .ok ctx =>
              (encryptFileLoop lib files { ctx } files.reads).map fun r =>
                let (res, st) := encryptFileFinish lib files r
                (res, some st.out)

/-! ## Blocks and pieces -/

/-- The blocks that are read up to the end of file, unless a read fails before or the
answers come to their end. -/
def fileBlocks {toRead : Int} : List (RawRead toRead) → Option (List (List UInt8))
  | [] => none
  | .eof :: _ => some []
  | .error _ _ :: _ => none
  | .data bytes _ _ :: answers => (fileBlocks answers).map (bytes :: ·)

/-- The writes as those of a sink. -/
def EncryptFiles.sink (files : EncryptFiles) : Stream.Sink where
  taken i toWrite :=
    match files.write i toWrite with
    | .wrote n _ => some n
    | .error _ => none
  taken_le i toWrite k h := by
    cases hwrite : files.write i toWrite with
    | wrote n bounded =>
        rw [hwrite, Option.some.injEq] at h
        omega
    | error errno =>
        rw [hwrite] at h
        contradiction

/-- Everything goes through: the files are opened, the context is set up, the input is
read up to its end and converted, and no write fails. -/
structure GoesThrough (type : Operation) (files : EncryptFiles) (cipherObj : Option String)
    (keyObj ivObj : Option Bytes) (padding : Bool) (ctx : σ) (blocks pieces : List (List UInt8))
    (written : List UInt8) : Prop where
  openIn : files.openIn = .ok ()
  openOut : files.openOut = .ok ()
  init : encryptInitialize lib type cipherObj keyObj ivObj padding = .ok ctx
  reads : fileBlocks files.reads = some blocks
  converts : lib.stream.pieces ctx blocks = some pieces
  writes : files.sink.accepted 0 pieces = some written

section Run

variable {lib} {files : EncryptFiles}

/-- The total is the size of the file, as an `int`. -/
def FileState.Counted (st : FileState σ) : Prop := st.total = toInt st.out.length

theorem writeOutput_nil (st : FileState σ) : writeOutput files st [] = (.ok (), st) := rfl

theorem writeOutput_of_taken {st : FileState σ} {outBuf : List UInt8} {k : Nat}
    (hout : outBuf ≠ []) (hk : files.sink.taken st.writes outBuf.length = some k) :
    writeOutput files st outBuf =
      (.ok (), { st with
        total := toInt (st.total + k)
        writes := st.writes + 1
        out := st.out ++ outBuf.take k }) := by
  rw [writeOutput, if_pos (List.length_pos_iff.mpr hout)]
  cases hwrite : files.write st.writes outBuf.length with
  | wrote n bounded =>
      obtain rfl : n = k := by simpa [EncryptFiles.sink, hwrite] using hk
      rfl
  | error errno => simp [EncryptFiles.sink, hwrite] at hk

theorem writeOutput_of_fails {st st' : FileState σ} {outBuf : List UInt8}
    (hout : outBuf ≠ []) (hk : files.sink.taken st.writes outBuf.length = none) :
    writeOutput files st outBuf ≠ (.ok (), st') := by
  rw [writeOutput, if_pos (List.length_pos_iff.mpr hout)]
  cases hwrite : files.write st.writes outBuf.length with
  | wrote n bounded => simp [EncryptFiles.sink, hwrite] at hk
  | error errno => simp

/-- A write that succeeds keeps the count right. -/
theorem writeOutput_counted {st st' : FileState σ} {outBuf : List UInt8} (hst : st.Counted)
    (h : writeOutput files st outBuf = (.ok (), st')) : st'.Counted ∧ st'.ctx = st.ctx := by
  by_cases hout : outBuf = []
  · subst hout
    obtain rfl : st = st' := (Prod.mk.inj h).2
    exact ⟨hst, rfl⟩
  · cases hk : files.sink.taken st.writes outBuf.length with
    | none => exact absurd h (writeOutput_of_fails hout hk)
    | some k =>
        have hle := files.sink.taken_le _ _ k hk
        rw [writeOutput_of_taken hout hk] at h
        obtain rfl := (Prod.mk.inj h).2
        refine ⟨?_, rfl⟩
        rw [FileState.Counted, hst, toInt_add, List.length_append, List.length_take,
          Nat.min_eq_left hle, Nat.cast_add]

variable (files) in
/-- One write: the sink accepts the piece and the rest exactly if the write succeeds and
the rest is accepted from there on. -/
theorem accepted_cons_iff (st : FileState σ) (outBuf file : List UInt8)
    (rest : List (List UInt8)) :
    (∃ w, files.sink.accepted st.writes (outBuf :: rest) = some w ∧ file = st.out ++ w) ↔
      ∃ st', writeOutput files st outBuf = (.ok (), st') ∧
        ∃ w, files.sink.accepted st'.writes rest = some w ∧ file = st'.out ++ w := by
  by_cases hout : outBuf = []
  · subst hout
    rw [Stream.Sink.accepted_nil_cons, writeOutput_nil]
    constructor
    · intro h
      exact ⟨st, rfl, h⟩
    · rintro ⟨st', hst', h⟩
      obtain rfl : st = st' := (Prod.mk.inj hst').2
      exact h
  · simp only [Stream.Sink.accepted_cons_eq_some_iff hout]
    cases hk : files.sink.taken st.writes outBuf.length with
    | none =>
        constructor
        · rintro ⟨w, ⟨k, _, hk', -⟩, -⟩
          contradiction
        · rintro ⟨st', hst', -⟩
          exact absurd hst' (writeOutput_of_fails hout hk)
    | some k =>
        rw [writeOutput_of_taken hout hk]
        constructor
        · rintro ⟨w, ⟨k', rest', hk', hrest, rfl⟩, rfl⟩
          obtain rfl : k = k' := Option.some.inj hk'
          exact ⟨_, rfl, rest', hrest, (List.append_assoc _ _ _).symm⟩
        · rintro ⟨st', hst', w, hw, rfl⟩
          obtain rfl := (Prod.mk.inj hst').2
          exact ⟨_, ⟨k, w, rfl, hw, rfl⟩, List.append_assoc _ _ _⟩

/-- What is done behind the loop: the last piece is written. -/
theorem finish_eq_ok_iff {st : FileState σ} (hst : st.Counted) (total : Int)
    (file : List UInt8) :
    (∃ st', encryptFileFinish lib files (.ok (), st) = (.ok total, st') ∧ st'.out = file) ↔
      ∃ last, lib.stream.finish st.ctx = some last ∧
        (∃ w, files.sink.accepted st.writes [last] = some w ∧ file = st.out ++ w) ∧
        total = toInt file.length := by
  simp only [accepted_cons_iff, encryptFileFinish, encryptFinalize]
  cases lib.stream.finish st.ctx with
  | none => simp
  | some last =>
      simp only [Option.some.injEq, exists_eq_left']
      cases hout : writeOutput files st last with
      | mk res st₁ =>
          cases res with
          | error stop =>
              simp only [Except.map, Prod.mk.injEq, reduceCtorEq, false_and, exists_false]
          | ok u =>
              have hcounted := (writeOutput_counted hst hout).1
              simp only [Except.map, Prod.mk.injEq, Except.ok.injEq, true_and,
                Stream.Sink.accepted, Option.some.injEq, exists_eq_left', List.append_nil]
              constructor
              · rintro ⟨st', ⟨rfl, rfl⟩, rfl⟩
                exact ⟨rfl, hcounted⟩
              · rintro ⟨hfile, htotal⟩
                rw [hfile, ← hcounted] at htotal
                exact ⟨st₁, ⟨htotal.symm, rfl⟩, hfile.symm⟩

theorem encryptBlock_of_update {st : FileState σ} {bytes outBuf : List UInt8} {ctx : σ}
    (hbytes : bytes.length < 2 ^ 31)
    (hupdate : lib.stream.update st.ctx bytes = some (outBuf, ctx)) :
    encryptBlock lib files st bytes = writeOutput files { st with ctx } outBuf := by
  rw [encryptBlock, encryptUpdate_eq lib st.ctx hbytes, hupdate]
  rfl

variable (files) in
theorem encryptBlock_of_fails {st : FileState σ} {bytes : List UInt8}
    (hbytes : bytes.length < 2 ^ 31) (hupdate : lib.stream.update st.ctx bytes = none) :
    ∃ stop, encryptBlock lib files st bytes = (.error stop, st) := by
  rw [encryptBlock, encryptUpdate_eq lib st.ctx hbytes, hupdate]
  exact ⟨_, rfl⟩

/-- The pieces that the blocks are converted to. -/
def converted (lib : CipherLibrary σ) (ctx : σ) (answers : List (RawRead encryptBufferSize)) :
    Option (List (List UInt8)) :=
  (fileBlocks answers).bind (lib.stream.pieces ctx)

theorem converted_data {ctx ctx' : σ} {bytes outBuf : List UInt8} (hbytes : bytes ≠ [])
    (hbound : bytes.length ≤ encryptBufferSize)
    (hupdate : lib.stream.update ctx bytes = some (outBuf, ctx'))
    (answers : List (RawRead encryptBufferSize)) :
    converted lib ctx (.data bytes hbytes hbound :: answers) =
      (converted lib ctx' answers).map (outBuf :: ·) := by
  rw [converted, fileBlocks, converted]
  cases fileBlocks answers with
  | none => rfl
  | some blocks => exact lib.stream.pieces_cons_of_update hupdate

theorem converted_data_of_fails {ctx : σ} {bytes : List UInt8} (hbytes : bytes ≠ [])
    (hbound : bytes.length ≤ encryptBufferSize) (hupdate : lib.stream.update ctx bytes = none)
    (answers : List (RawRead encryptBufferSize)) :
    converted lib ctx (.data bytes hbytes hbound :: answers) = none := by
  rw [converted, fileBlocks]
  cases fileBlocks answers with
  | none => rfl
  | some blocks => exact lib.stream.pieces_cons_of_fails hupdate

variable (lib files) in
/-- The loop and its end.  The induction is on the answers: what comes out for a block is
a piece that is written. -/
theorem run_eq_ok_iff {st : FileState σ} (hst : st.Counted)
    (answers : List (RawRead encryptBufferSize)) (total : Int) (file : List UInt8) :
    (∃ st', (encryptFileLoop lib files st answers).map (encryptFileFinish lib files) =
        some (.ok total, st') ∧ st'.out = file) ↔
      ∃ pieces, converted lib st.ctx answers = some pieces ∧
        (∃ w, files.sink.accepted st.writes pieces = some w ∧ file = st.out ++ w) ∧
        total = toInt file.length := by
  induction answers generalizing st with
  | nil => simp [encryptFileLoop, converted, fileBlocks]
  | cons answer answers ih =>
      cases answer with
      | error errno nonzero => simp [encryptFileLoop, converted, fileBlocks, encryptFileFinish]
      | eof =>
          have hlast : converted lib st.ctx (.eof :: answers) =
              (lib.stream.finish st.ctx).map fun last => [last] := rfl
          simp only [encryptFileLoop, Option.map_some, Option.some.injEq, finish_eq_ok_iff hst,
            hlast, Option.map_eq_some_iff, exists_exists_and_eq_and]
      | data bytes nonempty bounded =>
          have hshort : bytes.length < 2 ^ 31 := by
            unfold encryptBufferSize at bounded
            omega
          rw [encryptFileLoop]
          cases hupdate : lib.stream.update st.ctx bytes with
          | none =>
              obtain ⟨stop, hblock⟩ := encryptBlock_of_fails files hshort hupdate
              rw [hblock, converted_data_of_fails nonempty bounded hupdate]
              simp [Except.isOk, Except.toBool, encryptFileFinish]
          | some r =>
              obtain ⟨outBuf, ctx⟩ := r
              have hst' : ({ st with ctx } : FileState σ).Counted := hst
              have hcons := accepted_cons_iff files { st with ctx } outBuf file
              rw [encryptBlock_of_update hshort hupdate, converted_data nonempty bounded hupdate]
              have hmap : ∀ P : List (List UInt8) → Prop,
                  (∃ pieces, (converted lib ctx answers).map (outBuf :: ·) = some pieces ∧
                    P pieces) ↔
                  ∃ rest, converted lib ctx answers = some rest ∧ P (outBuf :: rest) := by
                simp [Option.map_eq_some_iff]
              rw [hmap]
              simp only [hcons]
              cases hwrite : writeOutput files { st with ctx } outBuf with
              | mk res st₁ =>
                  cases res with
                  | error stop => simp [Except.isOk, Except.toBool, encryptFileFinish]
                  | ok u =>
                      obtain ⟨hcounted, hctx⟩ := writeOutput_counted hst' hwrite
                      have hrest := ih hcounted
                      rw [hctx] at hrest
                      simp only [Except.isOk, Except.toBool, if_true, hrest, Prod.mk.injEq,
                        true_and, exists_eq_left']

end Run

section Handler

variable {type : Operation} {files : EncryptFiles} {cipherObj : Option String}
  {keyObj ivObj : Option Bytes} {padding : Bool}

/-- What `EncryptFileHandler` can do: it cannot open the files, it cannot set up the
context, or it runs the loop. -/
theorem encryptFileHandler_cases (type : Operation) (files : EncryptFiles)
    (cipherObj : Option String) (keyObj ivObj : Option Bytes) (padding : Bool) :
    (¬ (files.openIn = .ok () ∧ files.openOut = .ok ()) ∧
      ∃ e, encryptFileHandler lib type files cipherObj keyObj ivObj padding =
        some (.error (.error e), none)) ∨
    (files.openIn = .ok () ∧ files.openOut = .ok ()) ∧
      ((∃ stop, encryptInitialize lib type cipherObj keyObj ivObj padding = .error stop ∧
        encryptFileHandler lib type files cipherObj keyObj ivObj padding =
          some (.error stop, some [])) ∨
      ∃ ctx, encryptInitialize lib type cipherObj keyObj ivObj padding = .ok ctx ∧
        encryptFileHandler lib type files cipherObj keyObj ivObj padding =
          (encryptFileLoop lib files { ctx } files.reads).map fun r =>
            ((encryptFileFinish lib files r).1, some (encryptFileFinish lib files r).2.out)) := by
  rw [encryptFileHandler]
  cases hin : files.openIn with
  | error e => exact .inl ⟨by simp, e, rfl⟩
  | ok u =>
      cases hout : files.openOut with
      | error e => exact .inl ⟨by simp, e, rfl⟩
      | ok u' =>
          refine .inr ⟨⟨rfl, rfl⟩, ?_⟩
          cases encryptInitialize lib type cipherObj keyObj ivObj padding with
          | error stop => exact .inl ⟨stop, rfl, rfl⟩
          | ok ctx => exact .inr ⟨ctx, rfl, rfl⟩

/-- Where everything goes through. -/
theorem goesThrough_iff (file : List UInt8) :
    (∃ ctx blocks pieces,
      GoesThrough lib type files cipherObj keyObj ivObj padding ctx blocks pieces file) ↔
    (files.openIn = .ok () ∧ files.openOut = .ok ()) ∧
      ∃ ctx, encryptInitialize lib type cipherObj keyObj ivObj padding = .ok ctx ∧
        ∃ pieces, converted lib ctx files.reads = some pieces ∧
          files.sink.accepted 0 pieces = some file := by
  constructor
  · rintro ⟨ctx, blocks, pieces, h⟩
    have hconverted : converted lib ctx files.reads = some pieces := by
      rw [converted, h.reads, Option.bind_some, h.converts]
    exact ⟨⟨h.openIn, h.openOut⟩, ctx, h.init, pieces, hconverted, h.writes⟩
  · rintro ⟨⟨hin, hout⟩, ctx, hinit, pieces, hconverted, hwrites⟩
    obtain ⟨blocks, hreads, hconverts⟩ := Option.bind_eq_some_iff.mp hconverted
    exact ⟨ctx, blocks, pieces, hin, hout, hinit, hreads, hconverts, hwrites⟩

/-- The result of `EncryptFileHandler` where it returns `TCL_OK`. -/
theorem encryptFileHandler_eq_ok_iff (total : Int) (file : List UInt8) :
    encryptFileHandler lib type files cipherObj keyObj ivObj padding =
        some (.ok total, some file) ↔
      (∃ ctx blocks pieces,
        GoesThrough lib type files cipherObj keyObj ivObj padding ctx blocks pieces file) ∧
      total = toInt file.length := by
  rw [goesThrough_iff]
  rcases encryptFileHandler_cases lib type files cipherObj keyObj ivObj padding with
    ⟨hopen, e, h⟩ | ⟨hopen, ⟨stop, hinit, h⟩ | ⟨ctx, hinit, h⟩⟩
  · simp [h, hopen]
  · simp [h, hinit]
  · have hst : ({ ctx } : FileState σ).Counted := (toInt_natCast (Nat.two_pow_pos 31)).symm
    have hrun := run_eq_ok_iff lib files hst files.reads total file
    simp only [List.nil_append, exists_eq_right'] at hrun
    simp only [h, hinit, Except.ok.injEq, exists_eq_left', hopen, true_and]
    rw [← exists_and_right]
    simp only [and_assoc, ← hrun]
    cases encryptFileLoop lib files { ctx } files.reads with
    | none => simp
    | some r => simp [Prod.ext_iff]

/-- What is returned with `TCL_OK` comes with an output file. -/
theorem encryptFileHandler_opened {total : Int} {out : Option (List UInt8)}
    (h : encryptFileHandler lib type files cipherObj keyObj ivObj padding = some (.ok total, out)) :
    ∃ file, out = some file := by
  rcases encryptFileHandler_cases lib type files cipherObj keyObj ivObj padding with
    ⟨-, e, h'⟩ | ⟨-, ⟨stop, -, h'⟩ | ⟨ctx, -, h'⟩⟩
  · simp [h'] at h
  · simp [h'] at h
  · rw [h', Option.map_eq_some_iff] at h
    obtain ⟨r, -, hr⟩ := h
    exact ⟨_, (Prod.mk.inj hr).2.symm⟩

/-- A handler that does not come to an end is in its loop. -/
theorem encryptFileHandler_ne_none (h : ∀ st, encryptFileLoop lib files st files.reads ≠ none) :
    encryptFileHandler lib type files cipherObj keyObj ivObj padding ≠ none := by
  rcases encryptFileHandler_cases lib type files cipherObj keyObj ivObj padding with
    ⟨-, e, h'⟩ | ⟨-, ⟨stop, -, h'⟩ | ⟨ctx, -, h'⟩⟩
  · simp [h']
  · simp [h']
  · simpa [h'] using h { ctx }

end Handler

/-! ## Agreement with the data handler -/

/-- Where `EncryptFileHandler` returns `TCL_OK`, the output file holds what
`EncryptDataHandler` makes of the whole input, and the result is its length. -/
def FileAgrees (type : Operation) (files : EncryptFiles) (cipherObj : Option String)
    (keyObj ivObj : Option Bytes) (padding : Bool) : Prop :=
  ∀ total file,
    encryptFileHandler lib type files cipherObj keyObj ivObj padding = some (.ok total, some file) →
    (∀ blocks, fileBlocks files.reads = some blocks → ∀ d : Bytes, d.data = blocks.flatten →
      encryptDataHandler lib type (some d) cipherObj keyObj ivObj padding = .ok file) ∧
    total = file.length

/-- The length of the output is an `int`; that of the input is one too and every write
takes all that it is given.  For a longer input `EncryptDataHandler` reads only as much as
the narrowed length says, and what the writes have taken would have to be the output for
that. -/
def WholeFile (files : EncryptFiles) (ctx : σ) (input : List UInt8) (pieces : List (List UInt8))
    (written : List UInt8) : Prop :=
  written.length < 2 ^ 31 ∧
    if input.length < 2 ^ 31 then files.sink.Full 0 pieces
    else input.length < 2 ^ 63 → 0 ≤ toInt input.length ∧
      lib.stream.session ctx (input.take (toInt input.length).toNat) = some written

/-- What has been written is what `EncryptDataHandler` makes of the input. -/
theorem dataHandler_eq_ok_iff_of_goesThrough {type : Operation} {files : EncryptFiles}
    {cipherObj : Option String} {keyObj ivObj : Option Bytes} {padding : Bool} {ctx : σ}
    {blocks pieces : List (List UInt8)} {written : List UInt8}
    (h : GoesThrough lib type files cipherObj keyObj ivObj padding ctx blocks pieces written) :
    (∀ d : Bytes, d.data = blocks.flatten →
      encryptDataHandler lib type (some d) cipherObj keyObj ivObj padding = .ok written) ↔
    if blocks.flatten.length < 2 ^ 31 then files.sink.Full 0 pieces
    else blocks.flatten.length < 2 ^ 63 → 0 ≤ toInt blocks.flatten.length ∧
      lib.stream.session ctx (blocks.flatten.take (toInt blocks.flatten.length).toNat) =
        some written := by
  have hbytes : (∀ d : Bytes, d.data = blocks.flatten →
      encryptDataHandler lib type (some d) cipherObj keyObj ivObj padding = .ok written) ↔
      ∀ hlength : blocks.flatten.length < 2 ^ 63,
        encryptDataHandler lib type (some ⟨blocks.flatten, hlength⟩) cipherObj keyObj ivObj
          padding = .ok written := by
    constructor
    · intro hd hlength
      exact hd ⟨blocks.flatten, hlength⟩ rfl
    · rintro hlength ⟨data, hdata⟩ rfl
      exact hlength hdata
  rw [hbytes]
  by_cases hshort : blocks.flatten.length < 2 ^ 31
  · have hlength : blocks.flatten.length < 2 ^ 63 := by omega
    rw [if_pos hshort, ← Stream.Sink.accepted_eq_flatten_iff h.writes, forall_prop_of_true hlength,
      encryptDataHandler_eq_ok_iff_of_short lib hshort h.init,
      lib.stream.session_of_pieces h.converts, Option.some.injEq, eq_comm]
  · rw [if_neg hshort]
    refine forall_congr' fun hlength => ?_
    exact encryptDataHandler_eq_ok_iff lib h.init written

/-- **File encryption is data encryption**, and reports the size of the output, exactly
where all of the file goes through. -/
theorem encryptFile_agrees_iff (type : Operation) (files : EncryptFiles)
    (cipherObj : Option String) (keyObj ivObj : Option Bytes) (padding : Bool) :
    FileAgrees lib type files cipherObj keyObj ivObj padding ↔
      ∀ ctx blocks pieces written,
        GoesThrough lib type files cipherObj keyObj ivObj padding ctx blocks pieces written →
        WholeFile lib files ctx blocks.flatten pieces written := by
  constructor
  · intro h ctx blocks pieces written hgoes
    have hok := (encryptFileHandler_eq_ok_iff lib _ written).mpr ⟨⟨ctx, blocks, pieces, hgoes⟩, rfl⟩
    obtain ⟨hdata, htotal⟩ := h _ written hok
    exact ⟨(toInt_eq_natCast_iff _).mp htotal,
      (dataHandler_eq_ok_iff_of_goesThrough lib hgoes).mp (hdata blocks hgoes.reads)⟩
  · intro h total file hok
    obtain ⟨⟨ctx, blocks, pieces, hgoes⟩, htotal⟩ :=
      (encryptFileHandler_eq_ok_iff lib _ file).mp hok
    obtain ⟨hsize, hwhole⟩ := h ctx blocks pieces file hgoes
    rw [htotal]
    refine ⟨?_, toInt_natCast hsize⟩
    intro blocks' hblocks
    rw [hgoes.reads, Option.some.injEq] at hblocks
    rw [← hblocks]
    exact (dataHandler_eq_ok_iff_of_goesThrough lib hgoes).mpr hwhole

/-- A file of three bytes, and room for ten bytes on the disk. -/
def tenBytesLeft : EncryptFiles where
  openIn := .ok ()
  openOut := .ok ()
  reads := [.data [1, 2, 3] (by decide) (by decide), .eof]
  write _ toWrite := .wrote (min 10 toWrite) (Nat.min_le_right 10 toWrite)
  errnoMsg _ := ""

/-- The last block of 16 bytes is not written whole, and `EncryptFileHandler` returns
`TCL_OK`. -/
theorem encryptFile_loses :
    ¬ FileAgrees ecbLibrary .encrypt tenBytesLeft (some "aes-128-ecb")
      (some ⟨List.replicate 16 0, by decide⟩) none true := by
  intro h
  have hfile : encryptFileHandler ecbLibrary .encrypt tenBytesLeft (some "aes-128-ecb")
      (some ⟨List.replicate 16 0, by decide⟩) none true =
        some (.ok 10, some ([1, 2, 3] ++ List.replicate 7 13)) := rfl
  obtain ⟨hdata, -⟩ := h _ _ hfile
  have hwhole : encryptDataHandler ecbLibrary .encrypt (some ⟨[1, 2, 3], by decide⟩)
      (some "aes-128-ecb") (some ⟨List.replicate 16 0, by decide⟩) none true =
        .ok ([1, 2, 3] ++ List.replicate 13 13) := rfl
  have hsame := hdata [[1, 2, 3]] rfl ⟨[1, 2, 3], by decide⟩ rfl
  rw [hwhole] at hsame
  exact absurd (Except.ok.inj hsame) (by decide)

end TclTls
