import TclTls.Encrypt
import TclTls.Transform

/-!
# TclTls.EncryptInstance

Encryption and decryption by an instance command: `update` as often as wanted,
then `finalize`, which deletes the command.

An instance command and `EncryptDataHandler` build the same context, and cutting
the data into pieces changes nothing.  But either narrows the length of what it
is given to an `int`, so that a piece must be short, and for
`EncryptDataHandler` all data is one piece (`encrypt_paths_agree`).
-/

namespace TclTls

variable {σ : Type} (lib : CipherLibrary σ)

/-! ## The command -/

/-- The options that an encryption and its decryption share. -/
structure CipherOptions where
  cipherObj : Option String
  keyObj : Option Bytes
  ivObj : Option Bytes
  padding : Bool

/-- `EncryptInitialize` with these options. -/
def CipherOptions.context (o : CipherOptions) (type : Operation) : Except Stop σ :=
  encryptInitialize lib type o.cipherObj o.keyObj o.ivObj o.padding

/-- `EncryptDataHandler` with these options. -/
def CipherOptions.dataHandler (o : CipherOptions) (type : Operation) (d : Bytes) :
    Except Stop (List UInt8) :=
  encryptDataHandler lib type (some d) o.cipherObj o.keyObj o.ivObj o.padding

/-- The result of a call, and the context unless the command has been deleted.  A
call that fails leaves the command as it is. -/
def callReply (ctx : σ) : Except TclError (List UInt8 × Option σ) →
    Except TclError (List UInt8) × Option σ
  | .ok (out, ctx') => (.ok out, ctx')
  | .error e => (.error e, some ctx)

/-- `EncryptInstanceObjCmd` -/
def encryptInstanceObjCmd (ctx : σ) (objv : List Obj) : Except TclError (List UInt8) × Option σ :=
  callReply ctx <| do
    match ← instanceArguments objv with
    | .update data =>
        let (out, ctx') ← encryptUpdate lib ctx data.data data.data.length
        pure (out, some ctx')
    | .finalize =>
        let out ← encryptFinalize lib ctx
        pure (out, none)

/-- `EncryptCommandHandler`: the context of the new command. -/
def encryptCommandHandler (type : Operation) (o : CipherOptions) : Except Stop σ :=
  o.context lib type

/-- Create a command, update it with one piece after the other, and finalize. -/
def encryptByPieces (cmd : Obj) (type : Operation) (o : CipherOptions) (pieces : List Bytes) :
    Except Stop (List UInt8) := do
  let ctx ← encryptCommandHandler lib type o
  (callInstance (encryptInstanceObjCmd lib) cmd (some ctx) (pieces.map .update ++ [.finalize])).mapError .error

/-! ## Ways to encrypt and to decrypt -/

/-- The pieces make up `d`, and each is short. -/
def Cuts (d : Bytes) (pieces : List Bytes) : Prop :=
  (pieces.map Bytes.data).flatten = d.data ∧ ∀ piece ∈ pieces, Short piece

/-- All at once, or through the instance command `cmd` in pieces. -/
inductive Path where
  | data
  | pieces (cmd : Obj) (cut : List Bytes)

/-- The path is one for `d`. -/
def Path.Cuts (d : Bytes) : Path → Prop
  | .data => True
  | .pieces _ cut => TclTls.Cuts d cut

/-- What the path takes at once is short. -/
def Path.Short (d : Bytes) : Path → Prop
  | .data => TclTls.Short d
  | .pieces _ _ => True

/-- What the path gives for `d`. -/
def Path.run (type : Operation) (o : CipherOptions) (d : Bytes) : Path → Except Stop (List UInt8)
  | .data => o.dataHandler lib type d
  | .pieces cmd cut => encryptByPieces lib cmd type o cut

/-- Every cutting of `d` gives what `EncryptDataHandler` gives for `d`. -/
def PiecesAgree (type : Operation) (o : CipherOptions) (d : Bytes) : Prop :=
  ∀ cmd cut, Cuts d cut → encryptByPieces lib cmd type o cut = o.dataHandler lib type d

/-- Every path gives `d` back from `c`. -/
def GivesBack (o : CipherOptions) (c d : Bytes) : Prop :=
  ∀ path : Path, path.Cuts c → path.run lib .decrypt o c = .ok d.data

/-- With this cipher, key, IV and padding, decrypting in one go undoes encrypting
in one go. -/
def CipherLibrary.Undoes (cipher : Cipher) (key iv : List UInt8) (padding : Bool) : Prop :=
  ∀ enc, encryptContext lib .encrypt cipher key iv padding = .ok enc →
    ∃ dec, encryptContext lib .decrypt cipher key iv padding = .ok dec ∧
      lib.stream.Inverts dec lib.stream enc

/-- The options choose this cipher, and come to this key and this IV. -/
structure CipherOptions.Chooses (o : CipherOptions) (cipher : Cipher) (key iv : List UInt8) :
    Prop where
  getCipher : utilGetCipher lib o.cipherObj true = .ok (some cipher)
  getKey : copyArgument .key (utilGetKey o.keyObj "key" cipher.keyLength false) = .ok key
  getIv : copyArgument .iv (utilGetIV o.ivObj cipher.ivLength false) = .ok iv

/-- What is encrypted with these options can be decrypted with them. -/
def CipherOptions.Undone (o : CipherOptions) : Prop :=
  ∀ cipher key iv, o.Chooses lib cipher key iv → lib.Undoes cipher key iv o.padding

/-! ## Both sides build the same key and IV -/

theorem context_eq_ok_iff {o : CipherOptions} {type : Operation} {ctx : σ} :
    o.context lib type = .ok ctx ↔
      ∃ cipher key iv, o.Chooses lib cipher key iv ∧
        encryptContext lib type cipher key iv o.padding = .ok ctx := by
  rw [CipherOptions.context, encryptInitialize]
  constructor
  · intro h
    cases hcipher : utilGetCipher lib o.cipherObj true with
    | error e => simp [hcipher] at h
    | ok found =>
        cases found with
        | none => simp [hcipher] at h
        | some cipher =>
            simp only [hcipher, bind_eq_ok_iff, mapError_eq_ok_iff] at h
            obtain ⟨key, hkey, iv, hiv, hctx⟩ := h
            exact ⟨cipher, key, iv, ⟨hcipher, hkey, hiv⟩, hctx⟩
  · rintro ⟨cipher, key, iv, hchosen, hctx⟩
    rw [hchosen.getCipher]
    simp only [bind_eq_ok_iff, mapError_eq_ok_iff]
    exact ⟨key, hchosen.getKey, iv, hchosen.getIv, hctx⟩

/-- What one side encrypts with, the other side can decrypt with. -/
theorem exists_context_decrypt {o : CipherOptions} (ho : o.Undone lib) {enc : σ}
    (henc : o.context lib .encrypt = .ok enc) :
    ∃ dec, o.context lib .decrypt = .ok dec ∧ lib.stream.Inverts dec lib.stream enc := by
  obtain ⟨cipher, key, iv, hchosen, hctx⟩ := (context_eq_ok_iff lib).mp henc
  obtain ⟨dec, hdec, hinverts⟩ := ho cipher key iv hchosen enc hctx
  exact ⟨dec, (context_eq_ok_iff lib).mpr ⟨cipher, key, iv, hchosen, hdec⟩, hinverts⟩

/-! ## All pieces are fed to one context -/

/-- The result for `d` of a context whose updates see all of their input. -/
def encryptSession (ctx : σ) (d : List UInt8) : Except TclError (List UInt8) :=
  match lib.stream.update ctx d with
  | none => .error ⟨"Update failed: " ++ lib.errReason, ["NONE"]⟩
  | some (out, ctx') => (out ++ ·) <$> encryptFinalize lib ctx'

theorem encryptSession_nil (ctx : σ) : encryptSession lib ctx [] = encryptFinalize lib ctx := by
  rw [encryptSession, lib.stream.update_nil]
  cases hlast : encryptFinalize lib ctx <;> simp [hlast, Functor.map, Except.map]

theorem encryptSession_append (ctx : σ) (d d' : List UInt8) :
    encryptSession lib ctx (d ++ d') =
      match lib.stream.update ctx d with
      | none => .error ⟨"Update failed: " ++ lib.errReason, ["NONE"]⟩
      | some (out, ctx') => (out ++ ·) <$> encryptSession lib ctx' d' := by
  rw [encryptSession, lib.stream.update_append]
  cases lib.stream.update ctx d with
  | none => rfl
  | some r =>
      rw [Option.bind_some]
      cases hrest : lib.stream.update r.2 d' with
      | none => simp [encryptSession, hrest, Functor.map, Except.map]
      | some r' =>
          cases hlast : encryptFinalize lib r'.2 <;>
            simp [encryptSession, hrest, hlast, Functor.map, Except.map]

theorem encryptSession_eq_ok_iff {ctx : σ} {d out : List UInt8} :
    encryptSession lib ctx d = .ok out ↔ lib.stream.session ctx d = some out := by
  rw [encryptSession, Stream.Transducer.session]
  cases lib.stream.update ctx d with
  | none => simp
  | some r =>
      simp only [encryptFinalize, Option.bind_some]
      cases lib.stream.finish r.2 <;> simp [Functor.map, Except.map]

theorem encryptInstanceObjCmd_update (cmd : Obj) (ctx : σ) {piece : Bytes} (hpiece : Short piece) :
    encryptInstanceObjCmd lib ctx (InstanceCall.words cmd (.update piece)) =
      match lib.stream.update ctx piece.data with
      | none => (.error ⟨"Update failed: " ++ lib.errReason, ["NONE"]⟩, some ctx)
      | some (out, ctx') => (.ok out, some ctx') := by
  rw [encryptInstanceObjCmd, instanceArguments_words, ok_bind]
  dsimp only
  rw [encryptUpdate_eq lib ctx hpiece]
  cases lib.stream.update ctx piece.data <;> rfl

theorem encryptInstanceObjCmd_finalize (cmd : Obj) (ctx : σ) :
    encryptInstanceObjCmd lib ctx (InstanceCall.words cmd .finalize) =
      match encryptFinalize lib ctx with
      | .ok out => (.ok out, none)
      | .error e => (.error e, some ctx) := by
  rw [encryptInstanceObjCmd, instanceArguments_words, ok_bind]
  dsimp only
  cases encryptFinalize lib ctx <;> rfl

/-- By induction on the pieces: the context reads the rest from where the first
piece has left it. -/
theorem callInstance_pieces (cmd : Obj) (ctx : σ) {pieces : List Bytes}
    (hpieces : ∀ piece ∈ pieces, Short piece) :
    callInstance (encryptInstanceObjCmd lib) cmd (some ctx) (pieces.map .update ++ [.finalize]) =
      encryptSession lib ctx (pieces.map Bytes.data).flatten := by
  induction pieces generalizing ctx with
  | nil =>
      rw [List.map_nil, List.map_nil, List.nil_append, List.flatten_nil, encryptSession_nil,
        callInstance, encryptInstanceObjCmd_finalize]
      cases encryptFinalize lib ctx with
      | error e => rfl
      | ok out => simp [callInstance, Functor.map, Except.map]
  | cons piece pieces ih =>
      have hrest := fun ctx' => ih ctx' fun p hp => hpieces p (List.mem_cons_of_mem _ hp)
      rw [List.map_cons, List.map_cons, List.cons_append, List.flatten_cons,
        encryptSession_append, callInstance,
        encryptInstanceObjCmd_update lib cmd ctx (hpieces piece List.mem_cons_self)]
      cases lib.stream.update ctx piece.data with
      | none => rfl
      | some r => simp only [hrest]

theorem encryptByPieces_eq (cmd : Obj) (type : Operation) (o : CipherOptions) {d : Bytes}
    {cut : List Bytes} (hcut : Cuts d cut) :
    encryptByPieces lib cmd type o cut =
      o.context lib type >>= fun ctx => (encryptSession lib ctx d.data).mapError .error := by
  unfold encryptByPieces encryptCommandHandler
  simp only [callInstance_pieces lib cmd _ hcut.2, hcut.1]

theorem dataHandler_eq (type : Operation) (o : CipherOptions) {d : Bytes} (hd : Short d) :
    o.dataHandler lib type d =
      o.context lib type >>= fun ctx => (encryptSession lib ctx d.data).mapError .error := by
  unfold CipherOptions.dataHandler encryptDataHandler CipherOptions.context
  refine bind_congr fun ctx => ?_
  rw [encryptUpdate_eq lib ctx hd, encryptSession]
  cases lib.stream.update ctx d.data with
  | none => rfl
  | some r =>
      simp only [bind, Except.bind, Except.mapError]
      cases encryptFinalize lib r.2 <;> rfl

/-! ## What a path reads -/

/-- A context is updated with the bytes that the length, as an `int`, counts. -/
def Path.read (d : Bytes) : Path → List UInt8
  | .data => d.data.take (toInt d.data.length).toNat
  | .pieces _ _ => d.data

theorem Path.read_eq_iff (path : Path) (d : Bytes) : path.read d = d.data ↔ path.Short d := by
  cases path with
  | pieces cmd cut => exact iff_of_true rfl trivial
  | data =>
      show d.data.take (toInt d.data.length).toNat = d.data ↔ d.data.length < 2 ^ 31
      constructor
      · intro hall
        have hlen := congrArg List.length hall
        rw [List.length_take] at hlen
        apply Nat.lt_of_not_le
        intro hlong
        have hlt := toInt_toNat_lt hlong
        omega
      · intro hshort
        rw [toInt_natCast hshort, Int.toNat_natCast, List.take_length]

theorem Path.run_eq_ok_iff {type : Operation} {o : CipherOptions} {ctx : σ}
    (hctx : o.context lib type = .ok ctx) {path : Path} {d : Bytes} (hpath : path.Cuts d)
    (hshort : path.Short d) {out : List UInt8} :
    path.run lib type o d = .ok out ↔ lib.stream.session ctx d.data = some out := by
  have hrun : path.run lib type o d =
      o.context lib type >>= fun ctx => (encryptSession lib ctx d.data).mapError .error := by
    cases path with
    | data => exact dataHandler_eq lib type o hshort
    | pieces cmd cut => exact encryptByPieces_eq lib cmd type o hpath
  rw [hrun, hctx, bind_eq_ok_iff]
  simp only [Except.ok.injEq, exists_eq_left', mapError_eq_ok_iff, encryptSession_eq_ok_iff]

/-- Whether short or not, what comes out is the output for what was read. -/
theorem Path.session_of_run {type : Operation} {o : CipherOptions} (path : Path) {d : Bytes}
    (hpath : path.Cuts d) {out : List UInt8} (hrun : path.run lib type o d = .ok out) :
    ∃ ctx, o.context lib type = .ok ctx ∧
      lib.stream.session ctx (path.read d) = some out := by
  cases path with
  | data =>
      obtain ⟨ctx, hctx, -⟩ := bind_eq_ok_iff.mp hrun
      exact ⟨ctx, hctx, ((encryptDataHandler_eq_ok_iff lib hctx out).mp hrun).2⟩
  | pieces cmd cut =>
      obtain ⟨ctx, hctx, -⟩ := bind_eq_ok_iff.mp hrun
      exact ⟨ctx, hctx, (Path.run_eq_ok_iff lib hctx hpath trivial).mp hrun⟩

/-- Every byte string can be cut into short pieces. -/
theorem exists_cuts (d : Bytes) : ∃ cut, Cuts d cut := by
  refine ⟨d.data.map fun x => ⟨[x], Nat.one_lt_two_pow (by decide)⟩, ?_, ?_⟩
  · rw [List.map_map]
    induction d.data with
    | nil => rfl
    | cons x xs ih => simpa using ih
  · intro piece hpiece
    obtain ⟨x, -, rfl⟩ := List.mem_map.mp hpiece
    exact Nat.one_lt_two_pow (by decide)

/-! ## Agreement -/

theorem piecesAgree_of_short (type : Operation) (o : CipherOptions) {d : Bytes} (hd : Short d) :
    PiecesAgree lib type o d := by
  intro cmd cut hcut
  rw [encryptByPieces_eq lib cmd type o hcut, dataHandler_eq lib type o hd]

theorem short_of_piecesAgree {type : Operation} {o : CipherOptions} {d : Bytes} {ctx : σ}
    (hctx : o.context lib type = .ok ctx) (hinj : lib.stream.Injective ctx) {out : List UInt8}
    (hout : lib.stream.session ctx d.data = some out) (h : PiecesAgree lib type o d) : Short d := by
  obtain ⟨cut, hcut⟩ := exists_cuts d
  have hpath : (Path.pieces ⟨"", d⟩ cut).Cuts d := hcut
  have hpieces := (Path.run_eq_ok_iff lib hctx hpath trivial).mpr hout
  have hdata : Path.data.run lib type o d = .ok out := by
    rw [← hpieces]
    exact (h ⟨"", d⟩ cut hcut).symm
  obtain ⟨ctx', hctx', hread⟩ := Path.session_of_run lib .data trivial hdata
  rw [hctx, Except.ok.injEq] at hctx'
  rw [← hctx'] at hread
  exact (Path.read_eq_iff .data d).mp (hinj _ _ out hread hout)

theorem givesBack_of_short {o : CipherOptions} (ho : o.Undone lib) {path : Path} {d c : Bytes}
    (hpath : path.Cuts d) (hrun : path.run lib .encrypt o d = .ok c.data) (hd : path.Short d)
    (hc : Short c) : GivesBack lib o c d := by
  intro back hback
  obtain ⟨enc, henc, hread⟩ := path.session_of_run lib hpath hrun
  obtain ⟨dec, hdec, hinverts⟩ := exists_context_decrypt lib ho henc
  rw [(path.read_eq_iff d).mpr hd] at hread
  have hshort : back.Short c := by
    cases back with
    | data => exact hc
    | pieces cmd cut => trivial
  exact (back.run_eq_ok_iff lib hdec hback hshort).mpr (hinverts _ _ hread)

theorem short_of_givesBack {o : CipherOptions} (ho : o.Undone lib)
    (hinj : ∀ dec, o.context lib .decrypt = .ok dec → lib.stream.Injective dec)
    {path : Path} {d c : Bytes} (hpath : path.Cuts d)
    (hrun : path.run lib .encrypt o d = .ok c.data) (h : GivesBack lib o c d) :
    path.Short d ∧ Short c := by
  obtain ⟨enc, henc, hread⟩ := path.session_of_run lib hpath hrun
  obtain ⟨dec, hdec, hinverts⟩ := exists_context_decrypt lib ho henc
  have hback := hinverts _ _ hread
  -- the pieces of `c` give back what the encryption has read
  obtain ⟨cut, hcut⟩ := exists_cuts c
  have hpieces : (Path.pieces ⟨"", c⟩ cut).Cuts c := hcut
  have hsame := (Path.run_eq_ok_iff lib hdec hpieces trivial).mp (h _ hpieces)
  rw [hback, Option.some.injEq] at hsame
  -- and `EncryptDataHandler` does so only if it reads all of `c`
  obtain ⟨dec', hdec', hall⟩ := Path.session_of_run lib .data trivial (h .data trivial)
  rw [hdec, Except.ok.injEq] at hdec'
  rw [← hdec', ← hsame] at hall
  exact ⟨(path.read_eq_iff d).mp hsame,
    (Path.read_eq_iff .data c).mp (hinj dec hdec _ _ _ hall hback)⟩

/-- **All paths agree** where what `EncryptDataHandler` is given is short: pieces give
what it gives, and what any path has encrypted any path decrypts.  Where outputs
tell streams apart they agree only then. -/
theorem encrypt_paths_agree (o : CipherOptions) (ho : o.Undone lib) :
    (∀ type d, Short d → PiecesAgree lib type o d) ∧
    (∀ (path : Path) (d c : Bytes), path.Cuts d → path.run lib .encrypt o d = .ok c.data →
      path.Short d → Short c → GivesBack lib o c d) ∧
    ((∀ type ctx, o.context lib type = .ok ctx → lib.stream.Injective ctx) →
      (∀ type d ctx out, o.context lib type = .ok ctx →
        lib.stream.session ctx d.data = some out → PiecesAgree lib type o d → Short d) ∧
      ∀ (path : Path) (d c : Bytes), path.Cuts d → path.run lib .encrypt o d = .ok c.data →
        GivesBack lib o c d → path.Short d ∧ Short c) := by
  refine ⟨fun type d hd => piecesAgree_of_short lib type o hd,
    fun path d c hpath hrun hd hc => givesBack_of_short lib ho hpath hrun hd hc, fun hinj => ?_⟩
  constructor
  · intro type d ctx out hctx hout h
    exact short_of_piecesAgree lib hctx (hinj type ctx hctx) hout h
  · intro path d c hpath hrun h
    exact short_of_givesBack lib ho (hinj .decrypt) hpath hrun h

/-- The null cipher with no key and no IV. -/
def nullOptions : CipherOptions where
  cipherObj := some "NULL"
  keyObj := none
  ivObj := none
  padding := true

theorem nullLibrary_inverts (ctx ctx' : Unit) :
    nullLibrary.stream.Inverts ctx nullLibrary.stream ctx' := by
  intro xs out hout
  rw [nullLibrary_session] at hout
  rw [nullLibrary_session, Option.some.inj hout]

theorem nullOptions_undone : nullOptions.Undone nullLibrary :=
  fun _ _ _ _ enc _ => ⟨(), rfl, nullLibrary_inverts () enc⟩

theorem encrypt_paths_agree_null :
    PiecesAgree nullLibrary .encrypt nullOptions ⟨[1, 2, 3], by decide⟩ ∧
      GivesBack nullLibrary nullOptions ⟨[1, 2, 3], by decide⟩ ⟨[1, 2, 3], by decide⟩ ∧
      ∀ ctx, nullLibrary.stream.Injective ctx := by
  obtain ⟨hpieces, hback, -⟩ := encrypt_paths_agree nullLibrary nullOptions nullOptions_undone
  have hshort : Short ⟨[1, 2, 3], by decide⟩ := by
    show 3 < 2 ^ 31
    decide
  refine ⟨hpieces _ _ hshort, hback .data _ _ trivial ?_ hshort hshort, fun ctx => ?_⟩
  · rw [Path.run, dataHandler_eq _ _ _ hshort]
    rfl
  · exact (nullLibrary_inverts ctx ctx).injective

/-- The length of 2^31 bytes is negative as an `int`: `EncryptDataHandler` refuses what
an instance command takes in pieces. -/
theorem pieces_disagree :
    nullOptions.Undone nullLibrary ∧
      ¬ PiecesAgree nullLibrary .encrypt nullOptions
        ⟨List.replicate (2 ^ 31) 0, by rw [List.length_replicate]; decide⟩ := by
  refine ⟨nullOptions_undone, fun h => ?_⟩
  have hctx : nullOptions.context nullLibrary .encrypt = .ok () := rfl
  have hshort := short_of_piecesAgree nullLibrary hctx
    (nullLibrary_inverts () ()).injective (nullLibrary_session _) h
  rw [Short, List.length_replicate] at hshort
  exact absurd hshort (Nat.lt_irrefl _)

end TclTls
