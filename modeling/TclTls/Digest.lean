import TclTls.Encrypt
import TclTls.Transform

/-!
# TclTls.Digest

Message digests and authentication codes: of data, of a file, by an instance
command, and through a stacked channel that is read from or written to.

All of them feed one context and print what it comes to.  If the library never
fails, it does not matter which of them does so, nor in which pieces
(`digest_paths_agree`).
-/

namespace TclTls

/-! ## The library -/

/-- `EVP_MAX_MD_SIZE` -/
def evpMaxMdSize : Nat := 64

/-- `TYPE_MD`, `TYPE_HMAC` and `TYPE_CMAC`.  `DigestMain` has turned `TYPE_MAC` into
one of the other two. -/
inductive DigestType where
  | md
  | hmac
  | cmac
deriving DecidableEq, Repr

/-- `BIN_FORMAT` and `HEX_FORMAT`. -/
inductive DigestFormat where
  | bin
  | hex
deriving DecidableEq, Repr

/-- What the code asks of an `EVP_MD`: its name, and whether `EVP_MD_flags` has
`EVP_MD_FLAG_XOF`. -/
structure Md where
  name : String
  xof : Bool

/-- The part of the library that makes digest contexts `σ`.  What an update or a
final function does is whether it succeeds and what becomes of the context. -/
structure DigestLibrary (σ : Type) where
  /-- `EVP_MD_fetch` -/
  fetchDigest : String → Option Md
  /-- `EVP_CIPHER_fetch` -/
  fetchCipher : String → Option Cipher
  /-- `EVP_MD_CTX_new`, `HMAC_CTX_new` or `CMAC_CTX_new` finds the memory -/
  contextNew : DigestType → Bool
  /-- `EVP_DigestInit_ex` -/
  digestInit : Md → Option σ
  /-- `HMAC_Init_ex` with a key and its length -/
  hmacInit : Md → List UInt8 → Int → Option σ
  /-- `CMAC_Init` with a key and its length -/
  cmacInit : Cipher → List UInt8 → Int → Option σ
  /-- `EVP_DigestUpdate`, `HMAC_Update` or `CMAC_Update` -/
  update : DigestType → σ → List UInt8 → Bool × σ
  /-- `EVP_DigestFinal_ex`, `HMAC_Final` or `CMAC_Final` -/
  final : DigestType → σ → Option (List UInt8) × σ
  /-- `EVP_DigestFinalXOF` -/
  finalXof : σ → Nat → Option (List UInt8) × σ
  /-- `GET_ERR_REASON()` after a failure -/
  errReason : String
  final_le : ∀ type ctx out, (final type ctx).1 = some out → out.length ≤ evpMaxMdSize
  finalXof_length : ∀ ctx n out, (finalXof ctx n).1 = some out → out.length = n

variable {σ : Type} (lib : DigestLibrary σ)

/-- `Util_GetCipher` and `Util_GetDigest`, which look up a `kind` of algorithm. -/
def utilFetch {α : Type} (fetch : String → Option α) (kind : String) (nameObj : Option String)
    (noNull : Bool) : Except TclError (Option α) :=
  match nameObj with
  | some name =>
      match fetch name with
      | some found => .ok (some found)
      | none => .error ⟨"invalid " ++ kind ++ " \"" ++ name ++ "\"", ["NONE"]⟩
  | none => if noNull then .error ⟨"no " ++ kind, ["NONE"]⟩ else .ok none

theorem utilGetCipher_eq_utilFetch {τ : Type} (lib : CipherLibrary τ) (cipherObj : Option String)
    (noNull : Bool) :
    utilGetCipher lib cipherObj noNull = utilFetch lib.fetch "cipher" cipherObj noNull := by
  cases cipherObj with
  | none => rfl
  | some name =>
      have hkind : "invalid cipher \"" = "invalid " ++ "cipher" ++ " \"" := by decide
      rw [utilGetCipher, utilFetch, hkind]
      cases lib.fetch name <;> rfl

/-! ## The state -/

/-- The options of a digest. -/
structure DigestOptions where
  type : DigestType
  format : DigestFormat
  digestObj : Option String
  cipherObj : Option String
  keyObj : Option Bytes
  /-- 0 stands for the default -/
  length : Nat

/-- `DigestState`, with the bytes that the parent channel has received.  `self` says
whether the channel pointer is non-`NULL`, `eof` is the flag `CHAN_EOF`. -/
structure DigestState (σ : Type) where
  self : Bool := false
  eof : Bool := false
  type : DigestType
  format : DigestFormat
  xof : Bool := false
  length : Nat
  ctx : σ
  channelError : Option String := none
  parent : List UInt8 := []

/-- `TCL_ERROR` without a message. -/
def TclError.silent : TclError := ⟨"", ["NONE"]⟩

/-- What `DigestInitialize` does when a lookup has found nothing. -/
def found {α : Type} (r : Except TclError (Option α)) : Except TclError α :=
  r.bind fun
    | some a => .ok a
    | none => .error .silent

/-- The result of the `_Init` functions. -/
def initialized (ctx : Option σ) : Except TclError σ :=
  match ctx with
  | some ctx => .ok ctx
  | none => .error ⟨"Initialize failed: " ++ lib.errReason, ["NONE"]⟩

/-- The result of the `_CTX_new` functions. -/
def contextCreated (type : DigestType) : Except TclError Unit :=
  if lib.contextNew type then .ok () else .error ⟨"Create context failed", ["NONE"]⟩

/-- `DigestInitialize`: the context, and whether the digest is an XOF. -/
def digestContext (o : DigestOptions) : Except TclError (σ × Bool) :=
  match o.type with
  | .md => do
      let md ← found (utilFetch lib.fetchDigest "digest" o.digestObj true)
      contextCreated lib .md
      let ctx ← initialized lib (lib.digestInit md)
      pure (ctx, md.xof)
  | .hmac => do
      let md ← found (utilFetch lib.fetchDigest "digest" o.digestObj true)
      let (key, keyLen) ← found (utilGetKey o.keyObj "key" 0 true)
      contextCreated lib .hmac
      let ctx ← initialized lib (lib.hmacInit md key (toInt keyLen))
      pure (ctx, md.xof)
  | .cmac => do
      let cipher ← found (utilFetch lib.fetchCipher "cipher" o.cipherObj true)
      let (key, keyLen) ← found (utilGetKey o.keyObj "key" 0 true)
      contextCreated lib .cmac
      let ctx ← initialized lib (lib.cmacInit cipher key (toInt keyLen))
      pure (ctx, false)

/-- `DigestStateNew` and `DigestInitialize` -/
def digestInitialize (o : DigestOptions) : Except TclError (DigestState σ) := do
  let (ctx, xof) ← digestContext lib o
  pure { type := o.type, format := o.format, xof, length := o.length, ctx }

/-! ## Update and finalize -/

/-- `DigestUpdate`: what it returns depends on whether the caller wants a message. -/
def digestUpdate (st : DigestState σ) (buf : List UInt8) (doResult : Bool) :
    Except TclError Unit × DigestState σ :=
  let r := lib.update st.type st.ctx buf
  (if ¬ r.1 ∧ doResult then .error ⟨"Update failed: " ++ lib.errReason, ["NONE"]⟩ else .ok (),
    { st with ctx := r.2 })

/-- The digits of a hexadecimal string. -/
def hexDigits : List UInt8 := "0123456789abcdef".toList.map fun c => UInt8.ofNat c.toNat

/-- Two digits for each byte. -/
def hexByte (b : UInt8) : List UInt8 :=
  [hexDigits.getD ((b >>> 4) &&& 0x0F).toNat 0, hexDigits.getD (b &&& 0x0F).toNat 0]

/-- The message digest as it is returned. -/
def DigestFormat.print : DigestFormat → List UInt8 → List UInt8
  | .bin, md => md
  | .hex, md => md.flatMap hexByte

/-- The library call of `DigestFinalize`. -/
def digestFinal (st : DigestState σ) : Option (List UInt8) × σ :=
  match st.type with
  | .md =>
      if ¬ st.xof ∨ st.length = 0 then lib.final .md st.ctx
      else lib.finalXof st.ctx (if st.length < evpMaxMdSize then st.length else evpMaxMdSize)
  | .hmac => lib.final .hmac st.ctx
  | .cmac => lib.final .cmac st.ctx

/-- `DigestFinalize`: the message digest, printed. -/
def digestFinalize (st : DigestState σ) : Except TclError (List UInt8) × DigestState σ :=
  let r := digestFinal lib st
  (match r.1 with
    | some md => .ok (st.format.print md)
    | none => .error ⟨"Finalize failed: " ++ lib.errReason, ["NONE"]⟩,
    { st with ctx := r.2 })

/-! ## Data and files -/

/-- `DigestDataHandler` -/
def digestDataHandler (o : DigestOptions) (d : Bytes) : Except TclError (List UInt8) := do
  let st ← digestInitialize lib o
  let (res, st) := digestUpdate lib st d.data true
  res
  (digestFinalize lib st).1

/-- `BUFFER_SIZE` -/
def bufferSize : Int := 65536

/-- What the file system and the channel answer to `DigestFileHandler`. -/
structure FileAnswers where
  openChannel : Except TclError Unit
  setTranslation : Except TclError Unit
  reads : List (RawRead bufferSize)
  close : Except TclError Unit

/-- The loop of `DigestFileHandler`; `none` if it is still reading when the answers
come to their end. -/
def digestFileLoop : DigestState σ → List (RawRead bufferSize) →
    Option (Except TclError (DigestState σ))
  | _, [] => none
  | st, .eof :: _ => some (.ok st)
  | st, .error _ _ :: answers => digestFileLoop st answers
  | st, .data bytes _ _ :: answers =>
      let (res, st') := digestUpdate lib st bytes true
      match res with
      | .ok _ => digestFileLoop st' answers
      | .error e => some (.error e)

/-- What `DigestFileHandler` does between opening and closing the file. -/
def digestOpenFile (o : DigestOptions) (file : FileAnswers) :
    Option (Except TclError (List UInt8)) :=
  match (do file.setTranslation; digestInitialize lib o) with
  | .error e => some (.error e)
  | .ok st => (digestFileLoop lib st file.reads).map fun res =>
      res.bind fun st => (digestFinalize lib st).1

/-- `DigestFileHandler`; `none` if it does not come to an end. -/
def digestFileHandler (o : DigestOptions) (file : FileAnswers) :
    Option (Except TclError (List UInt8)) :=
  match file.openChannel with
  | .error e => some (.error e)
  | .ok _ => (digestOpenFile lib o file).map fun res =>
      match file.close with
      | .ok _ => res
      | .error e => .error e

/-! ## The instance command -/

/-- `DigestCommandHandler`: the state of the new command. -/
def digestCommandHandler (o : DigestOptions) : Except TclError (DigestState σ) :=
  digestInitialize lib o

/-- `DigestInstanceObjCmd`: the result, and the state unless the command has been
deleted. -/
def digestInstanceObjCmd (st : DigestState σ) (objv : List Obj) :
    Except TclError (List UInt8) × Option (DigestState σ) :=
  match instanceArguments objv with
  | .error e => (.error e, some st)
  | .ok (.update data) =>
      let (res, st') := digestUpdate lib st data.data true
      (res.map fun _ => [], some st')
  | .ok .finalize =>
      let (res, st') := digestFinalize lib st
      (res, if res.isOk then none else some st')

/-- Create a command, update it with one piece after the other, and finalize. -/
def digestByPieces (cmd : Obj) (o : DigestOptions) (pieces : List Bytes) :
    Except TclError (List UInt8) := do
  let st ← digestCommandHandler lib o
  callInstance (digestInstanceObjCmd lib) cmd (some st) (pieces.map .update ++ [.finalize])

/-! ## The channel -/

/-- The layer that `DigestChannelHandler` puts on a channel. -/
def digestChannelHandler (o : DigestOptions) : Except TclError (DigestState σ) := do
  let st ← digestInitialize lib o
  pure { st with self := true }

/-- What `DigestInputProc` does after the final function. -/
def digestInputFinalized (r : Except TclError (List UInt8) × DigestState σ) :
    ReadReply × DigestState σ :=
  match r.1 with
  | .ok value => (.last value, { r.2 with eof := true })
  | .error _ =>
      ({ result := (0, Errno.einval), finalized := true },
        { r.2 with eof := true, channelError := some ("Finalize failed: " ++ lib.errReason) })

/-- `DigestInputProc` -/
def digestInputProc (st : DigestState σ) (call : ReadCall) : ReadReply × DigestState σ :=
  if call.toRead ≤ 0 ∨ st.self = false then ({ result := (0, 0) }, st)
  else
    match call.answer with
    | .data bytes _ _ =>
        -- the parent has read into the caller's buffer
        let (res, st') := digestUpdate lib st bytes false
        match res with
        | .ok _ => ({ result := (-1, Errno.eagain), placed := bytes }, st')
        | .error _ =>
            ({ result := (0, Errno.einval), placed := bytes },
              { st' with channelError := some ("Update failed: " ++ lib.errReason) })
    | .error errno _ => ({ result := (-1, errno) }, st)
    | .eof =>
        if st.eof then ({ result := (0, 0) }, st)
        else digestInputFinalized lib (digestFinalize lib st)

/-- `DigestOutputProc`: byte count and error code. -/
def digestOutputProc (st : DigestState σ) (buf : List UInt8) : (Int × Errno) × DigestState σ :=
  let toWrite : Int := buf.length
  if toWrite ≤ 0 ∨ st.self = false then ((0, 0), st)
  else
    let (res, st') := digestUpdate lib st buf false
    match res with
    | .ok _ => ((toWrite, 0), st')
    | .error _ =>
        ((0, Errno.einval),
          { st' with channelError := some ("Update failed: " ++ lib.errReason) })

/-- `DigestCloseProc` -/
def digestCloseProc (st : DigestState σ) : DigestState σ :=
  if st.eof then st
  else
    let (res, st') := digestFinalize lib st
    match res with
    | .ok value => { st' with parent := st'.parent ++ value, eof := true }
    | .error _ => { st' with eof := true }

/-- One write after the other, with what the output procedure returns. -/
def digestWrites : DigestState σ → List (List UInt8) → List (Int × Errno) × DigestState σ
  | st, [] => ([], st)
  | st, chunk :: chunks =>
      let r := digestOutputProc lib st chunk
      let rest := digestWrites r.2 chunks
      (r.1 :: rest.1, rest.2)

/-! ## Contexts that fold -/

/-- The contexts are folds, and no operation of the library fails. -/
structure DigestLibrary.Folds : Prop where
  updates : ∀ type ctx data, (lib.update type ctx data).1 = true
  absorbs : ∀ type, Stream.Absorbs fun ctx data => (lib.update type ctx data).2
  finals : ∀ type ctx, ∃ md, (lib.final type ctx).1 = some md
  finalXofs : ∀ ctx n, ∃ md, (lib.finalXof ctx n).1 = some md

/-- What an update makes of the state. -/
def DigestState.absorb (st : DigestState σ) (data : List UInt8) : DigestState σ :=
  { st with ctx := (lib.update st.type st.ctx data).2 }

theorem digestUpdate_eq (hlib : lib.Folds) (st : DigestState σ) (data : List UInt8)
    (doResult : Bool) : digestUpdate lib st data doResult = (.ok (), st.absorb lib data) := by
  simp [digestUpdate, DigestState.absorb, hlib.updates]

theorem absorbs_absorb (hlib : lib.Folds) : Stream.Absorbs (DigestState.absorb lib) where
  nil st := by rw [DigestState.absorb, (hlib.absorbs st.type).nil]
  append st xs ys := by
    rw [DigestState.absorb, (hlib.absorbs st.type).append]
    rfl

/-- `DigestFinalize` succeeds. -/
theorem digestFinalize_eq (hlib : lib.Folds) (st : DigestState σ) :
    ∃ value ctx, digestFinalize lib st = (.ok value, { st with ctx }) := by
  have hfinal : ∃ md, (digestFinal lib st).1 = some md := by
    unfold digestFinal
    split
    · split
      · exact hlib.finals .md st.ctx
      · exact hlib.finalXofs st.ctx _
    · exact hlib.finals .hmac st.ctx
    · exact hlib.finals .cmac st.ctx
  obtain ⟨md, hmd⟩ := hfinal
  refine ⟨st.format.print md, (digestFinal lib st).2, ?_⟩
  rw [digestFinalize]
  simp only [hmd]

theorem digestDataHandler_eq (hlib : lib.Folds) (o : DigestOptions) (d : Bytes) :
    digestDataHandler lib o d =
      digestInitialize lib o >>= fun st => (digestFinalize lib (st.absorb lib d.data)).1 := by
  unfold digestDataHandler
  simp only [digestUpdate_eq lib hlib]
  rfl

/-! ## The instance command -/

theorem callInstance_update (hlib : lib.Folds) (cmd : Obj) (st : DigestState σ) (data : Bytes)
    (calls : List InstanceCall) :
    callInstance (digestInstanceObjCmd lib) cmd (some st) (.update data :: calls) =
      callInstance (digestInstanceObjCmd lib) cmd (some (st.absorb lib data.data)) calls := by
  rw [callInstance, digestInstanceObjCmd, instanceArguments_words]
  dsimp only
  rw [digestUpdate_eq lib hlib]
  cases h : callInstance (digestInstanceObjCmd lib) cmd (some (st.absorb lib data.data)) calls <;>
    simp [h, Functor.map, Except.map]

theorem callInstance_finalize (cmd : Obj) (st : DigestState σ) :
    callInstance (digestInstanceObjCmd lib) cmd (some st) [.finalize] =
      (digestFinalize lib st).1 := by
  rw [callInstance, digestInstanceObjCmd, instanceArguments_words]
  dsimp only
  cases (digestFinalize lib st).1 <;> simp [callInstance, Functor.map, Except.map]

/-- By induction on the calls: each of them is absorbed. -/
theorem callInstance_updates (hlib : lib.Folds) (cmd : Obj) (st : DigestState σ)
    (pieces : List Bytes) (calls : List InstanceCall) :
    callInstance (digestInstanceObjCmd lib) cmd (some st) (pieces.map .update ++ calls) =
      callInstance (digestInstanceObjCmd lib) cmd
        (some ((pieces.map Bytes.data).foldl (DigestState.absorb lib) st)) calls := by
  induction pieces generalizing st with
  | nil => rfl
  | cons piece pieces ih =>
      rw [List.map_cons, List.cons_append, callInstance_update lib hlib, ih]
      rfl

theorem digestByPieces_eq (hlib : lib.Folds) (cmd : Obj) (o : DigestOptions) {d : Bytes}
    {pieces : List Bytes} (hd : (pieces.map Bytes.data).flatten = d.data) :
    digestByPieces lib cmd o pieces = digestDataHandler lib o d := by
  rw [digestByPieces, digestCommandHandler, digestDataHandler_eq lib hlib]
  refine bind_congr fun st => ?_
  rw [callInstance_updates lib hlib, (absorbs_absorb lib hlib).foldl, hd, callInstance_finalize]

/-! ## Files -/

/-- The file holds `d`, in blocks as the reads return them, and nothing goes wrong. -/
structure FileAnswers.Holds (file : FileAnswers) (d : List UInt8) : Prop where
  opens : file.openChannel = .ok ()
  binary : file.setTranslation = .ok ()
  reads : ∃ blocks, file.reads = blocks ++ [.eof] ∧ (∀ block ∈ blocks, block.bytes ≠ []) ∧
    (blocks.map RawRead.bytes).flatten = d
  closes : file.close = .ok ()

/-- Before the end of file the loop absorbs what is read, unless an update fails.  The
induction is on the reads: those that fail are passed over. -/
theorem digestFileLoop_append (habsorbs : Stream.Absorbs (DigestState.absorb lib))
    {blocks : List (RawRead bufferSize)} (hblocks : ∀ block ∈ blocks, block ≠ .eof)
    (st : DigestState σ) :
    (∀ rest, digestFileLoop lib st (blocks ++ rest) =
      digestFileLoop lib (st.absorb lib (blocks.map RawRead.bytes).flatten) rest) ∨
    ¬ lib.Folds ∧ ∃ e, ∀ rest, digestFileLoop lib st (blocks ++ rest) = some (.error e) := by
  induction blocks generalizing st with
  | nil =>
      left
      intro rest
      rw [List.map_nil, List.flatten_nil, habsorbs.nil, List.nil_append]
  | cons block blocks ih =>
      have hrest := ih fun b hb => hblocks b (List.mem_cons_of_mem _ hb)
      cases block with
      | eof => exact absurd rfl (hblocks .eof List.mem_cons_self)
      | error errno nonzero => exact hrest st
      | data bytes nonempty bounded =>
          simp only [List.cons_append, digestFileLoop]
          cases hupdate : (digestUpdate lib st bytes true).1 with
          | error e =>
              right
              refine ⟨fun hlib => ?_, e, fun rest => rfl⟩
              rw [digestUpdate_eq lib hlib] at hupdate
              contradiction
          | ok u =>
              have happend := habsorbs.append st bytes (blocks.map RawRead.bytes).flatten
              simp only [List.map_cons, List.flatten_cons, RawRead.bytes]
              rw [happend]
              exact hrest (st.absorb lib bytes)

/-- If no update fails the loop does not end before the end of file. -/
theorem digestFileLoop_absorbs (hlib : lib.Folds) {blocks : List (RawRead bufferSize)}
    (hblocks : ∀ block ∈ blocks, block ≠ .eof) (st : DigestState σ)
    (rest : List (RawRead bufferSize)) :
    digestFileLoop lib st (blocks ++ rest) =
      digestFileLoop lib (st.absorb lib (blocks.map RawRead.bytes).flatten) rest := by
  rcases digestFileLoop_append lib (absorbs_absorb lib hlib) hblocks st with happend | ⟨hnot, -⟩
  · exact happend rest
  · exact absurd hlib hnot

theorem digestFileHandler_eq (hlib : lib.Folds) (o : DigestOptions) {file : FileAnswers} {d : Bytes}
    (hfile : file.Holds d.data) :
    digestFileHandler lib o file = some (digestDataHandler lib o d) := by
  obtain ⟨blocks, hreads, hblocks, hd⟩ := hfile.reads
  rw [digestFileHandler, hfile.opens, digestOpenFile, hfile.binary, ok_bind, hfile.closes, hreads,
    digestDataHandler_eq lib hlib]
  cases hst : digestInitialize lib o with
  | error e => rfl
  | ok st =>
      have hdata : ∀ block ∈ blocks, block ≠ .eof := by
        rintro block hblock rfl
        exact hblocks _ hblock rfl
      dsimp only
      rw [digestFileLoop_absorbs lib hlib hdata, hd]
      rfl

/-! ## Reading -/

/-- A read that gives data is absorbed, and has to be tried again. -/
theorem digestInputProc_data (hlib : lib.Folds) {st : DigestState σ} (hself : st.self = true)
    {call : ReadCall} (hread : 0 < call.toRead) (hdata : call.answer.bytes ≠ []) :
    digestInputProc lib st call =
      ({ result := (-1, Errno.eagain), placed := call.answer.bytes },
        st.absorb lib call.answer.bytes) := by
  rw [digestInputProc, if_neg (by simpa [hself] using hread)]
  cases hanswer : call.answer with
  | eof => exact absurd (by rw [hanswer]; rfl) hdata
  | error errno nonzero => exact absurd (by rw [hanswer]; rfl) hdata
  | data bytes nonempty bounded =>
      dsimp only
      rw [digestUpdate_eq lib hlib]
      rfl

theorem digestInputProc_again {st : DigestState σ} (hself : st.self = true) {call : ReadCall}
    (hread : 0 < call.toRead) (hagain : call.answer = .again) :
    digestInputProc lib st call = ({ result := (-1, Errno.eagain) }, st) := by
  rw [digestInputProc, if_neg (by simpa [hself] using hread), hagain]
  rfl

theorem digestInputProc_eof {st : DigestState σ} (hself : st.self = true) (heof : st.eof = false)
    {call : ReadCall} (hcall : AtEof call) {value : List UInt8} {ctx : σ}
    (hvalue : digestFinalize lib st = (.ok value, { st with ctx })) :
    digestInputProc lib st call = (.last value, { st with ctx, eof := true }) := by
  obtain ⟨hread, hanswer⟩ := hcall
  rw [digestInputProc, if_neg (by simpa [hself] using hread), hanswer]
  dsimp only
  rw [heof, if_neg Bool.false_ne_true, hvalue]
  rfl

theorem digestInputProc_atEnd {st : DigestState σ} (heof : st.eof = true) {call : ReadCall}
    (hcall : AtEof call) : digestInputProc lib st call = ({ result := (0, 0) }, st) := by
  obtain ⟨-, hanswer⟩ := hcall
  rw [digestInputProc, hanswer]
  simp [heof]

/-- While the parent delivers, everything is absorbed and the reader gets nothing.
The induction is on the calls. -/
theorem digestReads_delivers (hlib : lib.Folds) {st : DigestState σ} (hself : st.self = true)
    {calls : List ReadCall} {d : List UInt8} (hcalls : Delivers calls d) :
    (reads (digestInputProc lib) st calls).2 = st.absorb lib d ∧
      (∀ r ∈ (reads (digestInputProc lib) st calls).1, r.again ∧ r.finalized = false) ∧
      List.Forall₂ ReadReply.Fits calls (reads (digestInputProc lib) st calls).1 := by
  induction calls generalizing st d with
  | nil =>
      have hd : d = [] := hcalls.2.symm
      rw [hd, (absorbs_absorb lib hlib).nil]
      exact ⟨rfl, nofun, .nil⟩
  | cons call calls ih =>
      obtain ⟨hread, hanswer⟩ := hcalls.1 call List.mem_cons_self
      obtain ⟨rest, rfl, hrest⟩ := hcalls.cons
      have hself' : (st.absorb lib call.answer.bytes).self = true := hself
      obtain ⟨hst, hreplies, hfit⟩ := ih hself' hrest
      have hbounded : call.answer.bytes.length ≤ call.toRead := by
        cases hanswer : call.answer with
        | data bytes nonempty bounded => exact bounded
        | eof => exact Int.le_of_lt hread
        | error errno nonzero => exact Int.le_of_lt hread
      rw [(absorbs_absorb lib hlib).append]
      rcases hanswer with hdata | hagain
      · simp only [reads, digestInputProc_data lib hlib hself hread hdata]
        refine ⟨hst, List.forall_mem_cons.mpr ⟨⟨rfl, rfl⟩, hreplies⟩, .cons ⟨hbounded, ?_⟩ hfit⟩
        show (-1 : Int) ≤ call.toRead
        omega
      · have hnothing : st.absorb lib call.answer.bytes = st := by
          rw [hagain]
          exact (absorbs_absorb lib hlib).nil st
        rw [hnothing] at hst hreplies hfit ⊢
        simp only [reads, digestInputProc_again lib hself hread hagain]
        refine ⟨hst, List.forall_mem_cons.mpr ⟨⟨rfl, rfl⟩, hreplies⟩,
          .cons ⟨Int.le_of_lt hread, ?_⟩ hfit⟩
        show (-1 : Int) ≤ call.toRead
        omega

/-- The reader gets the value once, and nothing is put past the end of a buffer. -/
theorem digestReads_eq (hlib : lib.Folds) {st : DigestState σ} (hself : st.self = true)
    (heof : st.eof = false) {before after : List ReadCall} {d : List UInt8}
    (hbefore : Delivers before d) {call : ReadCall} (hafter : ∀ c ∈ call :: after, AtEof c)
    {value : List UInt8} (hvalue : (digestFinalize lib (st.absorb lib d)).1 = .ok value)
    (hsize : value.length ≤ call.toRead) :
    ReadsOnce (digestInputProc lib) (digestCloseProc lib) st (before ++ call :: after) value ∧
      List.Forall₂ ReadReply.Fits (before ++ call :: after)
        (reads (digestInputProc lib) st (before ++ call :: after)).1 := by
  obtain ⟨hst, hreplies, hfit⟩ := digestReads_delivers lib hlib hself hbefore
  obtain ⟨value', ctx, hfinalize⟩ := digestFinalize_eq lib hlib (st.absorb lib d)
  rw [hfinalize, Except.ok.injEq] at hvalue
  rw [hvalue] at hfinalize
  have hself' : (st.absorb lib d).self = true := hself
  have hcall := digestInputProc_eof lib hself' heof (hafter call List.mem_cons_self) hfinalize
  rw [← hst] at hcall
  have hend : ∀ c ∈ after, 0 ≤ c.toRead ∧ digestInputProc lib
      { (reads (digestInputProc lib) st before).2 with ctx, eof := true } c =
        ({ result := (0, 0) },
          { (reads (digestInputProc lib) st before).2 with ctx, eof := true }) := by
    intro c hc
    have hc' := hafter c (List.mem_cons_of_mem _ hc)
    exact ⟨Int.le_of_lt hc'.1, digestInputProc_atEnd lib rfl hc'⟩
  refine ⟨?_, reads_fit_of_eof hfit hcall hend hsize⟩
  have hnothing := received_of_again fun r hr => (hreplies r hr).1
  rw [← List.nil_append value, ← hnothing]
  exact readsOnce_of_eof (fun r hr => (hreplies r hr).2) hcall (fun c hc => (hend c hc).2)
    (by simp [digestCloseProc])

/-! ## Writing -/

theorem digestOutputProc_eq (hlib : lib.Folds) {st : DigestState σ} (hself : st.self = true)
    {chunk : List UInt8} (hchunk : Writable chunk) :
    digestOutputProc lib st chunk = (((chunk.length : Int), 0), st.absorb lib chunk) := by
  have hpos : 0 < chunk.length := List.length_pos_iff.mpr hchunk.1
  have hguard : ¬((chunk.length : Int) ≤ 0 ∨ st.self = false) := by
    rw [hself]
    simp only [Bool.true_eq_false, or_false]
    omega
  unfold digestOutputProc
  rw [if_neg hguard, digestUpdate_eq lib hlib]

/-- Every chunk is taken whole, and absorbed. -/
theorem digestWrites_eq (hlib : lib.Folds) {st : DigestState σ} (hself : st.self = true)
    {chunks : List (List UInt8)} (hchunks : ∀ chunk ∈ chunks, Writable chunk) :
    digestWrites lib st chunks =
      (chunks.map fun chunk => ((chunk.length : Int), 0),
        chunks.foldl (DigestState.absorb lib) st) := by
  induction chunks generalizing st with
  | nil => rfl
  | cons chunk chunks ih =>
      have hself' : (st.absorb lib chunk).self = true := hself
      have hrest := ih hself' fun c hc => hchunks c (List.mem_cons_of_mem _ hc)
      simp only [digestWrites, digestOutputProc_eq lib hlib hself (hchunks chunk List.mem_cons_self),
        hrest, List.map_cons, List.foldl_cons]

/-- Closing the channel gives the value to the parent. -/
theorem digestCloseProc_eq {st : DigestState σ} (heof : st.eof = false) {value : List UInt8}
    (hvalue : (digestFinalize lib st).1 = .ok value) :
    (digestCloseProc lib st).parent = st.parent ++ value := by
  rw [digestCloseProc, heof, if_neg Bool.false_ne_true]
  simp only [hvalue]
  rfl

/-! ## Agreement -/

theorem digestChannelHandler_eq_ok {o : DigestOptions} {st : DigestState σ}
    (hst : digestChannelHandler lib o = .ok st) :
    ∃ st₀, digestInitialize lib o = .ok st₀ ∧ st = { st₀ with self := true } ∧
      st₀.eof = false ∧ st₀.parent = [] := by
  obtain ⟨st₀, hinit, hst⟩ := bind_eq_ok_iff.mp hst
  obtain ⟨r, -, hr⟩ := bind_eq_ok_iff.mp hinit
  refine ⟨st₀, hinit, (Except.ok.inj hst).symm, ?_, ?_⟩
  all_goals rw [← Except.ok.inj hr]

/-- The channel computes what `DigestDataHandler` computes. -/
theorem digestChannel_value (hlib : lib.Folds) {o : DigestOptions} (d : Bytes) {st : DigestState σ}
    (hst : digestChannelHandler lib o = .ok st) :
    st.self = true ∧ st.eof = false ∧ st.parent = [] ∧
      (digestFinalize lib (st.absorb lib d.data)).1 = digestDataHandler lib o d := by
  obtain ⟨st₀, hinit, rfl, heof, hparent⟩ := digestChannelHandler_eq_ok lib hst
  refine ⟨rfl, heof, hparent, ?_⟩
  rw [digestDataHandler_eq lib hlib, hinit, ok_bind]
  rfl

/-- Whatever path it takes, `d` comes to the same value: through an instance command
in any pieces, in a file with blocks of any size, by reading from a channel and by
writing to one. -/
structure DigestPathsAgree (o : DigestOptions) (d : Bytes) : Prop where
  command : ∀ cmd pieces, (pieces.map Bytes.data).flatten = d.data →
    digestByPieces lib cmd o pieces = digestDataHandler lib o d
  file : ∀ file : FileAnswers, file.Holds d.data →
    digestFileHandler lib o file = some (digestDataHandler lib o d)
  /-- the buffers hold the printed digest -/
  read : ∀ st before after, digestChannelHandler lib o = .ok st → Delivers before d.data →
    after ≠ [] ∧ (∀ call ∈ after, AtEof call) →
    ∃ value, digestDataHandler lib o d = .ok value ∧
      ((∀ call ∈ before ++ after, value.length ≤ call.toRead) →
        ReadsOnce (digestInputProc lib) (digestCloseProc lib) st (before ++ after) value ∧
          List.Forall₂ ReadReply.Fits (before ++ after)
            (reads (digestInputProc lib) st (before ++ after)).1)
  write : ∀ st chunks, digestChannelHandler lib o = .ok st → chunks.flatten = d.data →
    (∀ chunk ∈ chunks, Writable chunk) →
    (digestWrites lib st chunks).1 = (chunks.map fun chunk => ((chunk.length : Int), 0)) ∧
      digestDataHandler lib o d = .ok (digestCloseProc lib (digestWrites lib st chunks).2).parent

/-- **All digest paths agree** where contexts are folds and the library does not
fail. -/
theorem digest_paths_agree (hlib : lib.Folds) (o : DigestOptions) (d : Bytes) :
    DigestPathsAgree lib o d where
  command cmd pieces hd := digestByPieces_eq lib hlib cmd o hd
  file file hfile := digestFileHandler_eq lib hlib o hfile
  read st before after hst hbefore hafter := by
    obtain ⟨hself, heof, -, hdata⟩ := digestChannel_value lib hlib d hst
    obtain ⟨value, ctx, hvalue⟩ := digestFinalize_eq lib hlib (st.absorb lib d.data)
    obtain ⟨call, after, rfl⟩ := List.exists_cons_of_ne_nil hafter.1
    have hok : (digestFinalize lib (st.absorb lib d.data)).1 = .ok value := by rw [hvalue]
    refine ⟨value, hdata ▸ hok, fun hsize => ?_⟩
    exact digestReads_eq lib hlib hself heof hbefore hafter.2 hok (hsize call (by simp))
  write st chunks hst hd hchunks := by
    obtain ⟨hself, heof, hparent, hdata⟩ := digestChannel_value lib hlib d hst
    obtain ⟨value, ctx, hvalue⟩ := digestFinalize_eq lib hlib (st.absorb lib d.data)
    have hok : (digestFinalize lib (st.absorb lib d.data)).1 = .ok value := by rw [hvalue]
    have heof' : (st.absorb lib d.data).eof = false := heof
    have hparent' : (st.absorb lib d.data).parent = [] := hparent
    have hclose := digestCloseProc_eq lib heof' hok
    rw [digestWrites_eq lib hlib hself hchunks, (absorbs_absorb lib hlib).foldl, hd]
    refine ⟨rfl, ?_⟩
    rw [hclose, hparent', List.nil_append, ← hdata, hok]

/-- A library with MD5, which knows the digest of "abc". -/
def md5Library : DigestLibrary (List UInt8) where
  fetchDigest name := if name = "md5" then some ⟨name, false⟩ else none
  fetchCipher _ := none
  contextNew _ := true
  digestInit _ := some []
  hmacInit _ _ _ := some []
  cmacInit _ _ _ := some []
  update _ ctx data := (true, ctx ++ data)
  final _ ctx :=
    (some (if ctx = [0x61, 0x62, 0x63] then
      [0x90, 0x01, 0x50, 0x98, 0x3c, 0xd2, 0x4f, 0xb0, 0xd6, 0x96, 0x3f, 0x7d, 0x28, 0xe1, 0x7f,
        0x72] else List.replicate 16 0), ctx)
  finalXof ctx n := (some (List.replicate n 0), ctx)
  errReason := ""
  final_le type ctx out h := by
    rw [← Option.some.inj h]
    split <;> decide
  finalXof_length ctx n out h := by
    rw [← Option.some.inj h, List.length_replicate]

theorem md5Library_folds : md5Library.Folds where
  updates _ _ _ := rfl
  absorbs _ := ⟨List.append_nil, fun ctx xs ys => (List.append_assoc ctx xs ys).symm⟩
  finals _ _ := ⟨_, rfl⟩
  finalXofs _ _ := ⟨_, rfl⟩

def md5Options (format : DigestFormat) : DigestOptions where
  type := .md
  format := format
  digestObj := some "md5"
  cipherObj := none
  keyObj := none
  length := 0

theorem digest_paths_agree_md5 :
    DigestPathsAgree md5Library (md5Options .hex) ⟨[0x61, 0x62, 0x63], by decide⟩ ∧
      digestDataHandler md5Library (md5Options .hex) ⟨[0x61, 0x62, 0x63], by decide⟩ =
        .ok ("900150983cd24fb0d6963f7d28e17f72".toList.map fun c => UInt8.ofNat c.toNat) :=
  ⟨digest_paths_agree md5Library md5Library_folds (md5Options .hex) _, by decide⟩

end TclTls
