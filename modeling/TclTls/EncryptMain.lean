import TclTls.EncryptFile
import TclTls.EncryptInstance
import TclTls.Import.Options

/-!
# TclTls.EncryptMain

The commands `tls::encrypt` and `tls::decrypt`: their options, and what they are asked to
encrypt or decrypt.

`EncryptMain` looks only whether there are a cipher and a key, and after "No cipher" it
goes on.  All else is checked by `EncryptInitialize`, and for files that comes after the
output file has been opened, which makes it empty.  So rejected arguments leave files
alone exactly where the output file is not opened (`rejected_leaves_files_iff`).
-/

namespace TclTls

/-! ## Options -/

/-- The variables that the option loop assigns, with their initial values. -/
structure MainOptions where
  channel : Option String := none
  cipherObj : Option String := none
  cmdObj : Option String := none
  dataObj : Option Bytes := none
  inFileObj : Option String := none
  outFileObj : Option String := none
  keyObj : Option Bytes := none
  ivObj : Option Bytes := none
  padding : Bool := true

/-- `enum _command_opts` -/
inductive CommandOpt where
  | chan
  | channel
  | cipher
  | command
  | data
  | digest
  | infile
  | filename
  | outfile
  | hash
  | iv
  | key
  | mac
  | padding
deriving DecidableEq, Repr

/-- `command_opts` -/
def commandOpts : List (String × CommandOpt) := [
  ("-chan", .chan), ("-channel", .channel), ("-cipher", .cipher), ("-command", .command),
  ("-data", .data), ("-digest", .digest), ("-infile", .infile), ("-filename", .filename),
  ("-outfile", .outfile), ("-hash", .hash), ("-iv", .iv), ("-key", .key), ("-mac", .mac),
  ("-padding", .padding)]

/-- The usage message of `EncryptMain`, behind the name of the command. -/
def encryptUsage : String :=
  " ?-cipher? name ?-digest name? -key key ?-iv string? ?-mac name? ?-padding boolean? " ++
  "[-channel chan | -command cmdName | -infile filename -outfile filename | ?-data? data]"

variable (tcl : TclLibrary)

/-- The `switch` of the option loop.  No handler looks at the digest, and the MAC is not
passed on at all. -/
def setCommandOpt (o : MainOptions) (opt : CommandOpt) (value : Obj) :
    Except TclError MainOptions :=
  match opt with
  | .chan | .channel => .ok { o with channel := some value.string }
  | .cipher => .ok { o with cipherObj := some value.string }
  | .command => .ok { o with cmdObj := some value.string }
  | .data => .ok { o with dataObj := some value.bytes }
  | .digest | .hash | .mac => .ok o
  | .infile | .filename => .ok { o with inFileObj := some value.string }
  | .outfile => .ok { o with outFileObj := some value.string }
  | .iv => .ok { o with ivObj := some value.bytes }
  | .key => .ok { o with keyObj := some value.bytes }
  | .padding =>
      match tcl.getBoolean value.string with
      | some padding => .ok { o with padding }
      | none => .error (tcl.badBoolean value.string)

/-- The word starts with a dash. -/
def Obj.dashed (word : Obj) : Bool := word.string.toList.head? = some '-'

/-- The option loop.  The last word may be the data. -/
def encryptOptions : MainOptions → List Obj → Except TclError MainOptions
  | o, [] => .ok o
  | o, [word] =>
      if ¬ word.dashed ∧ o.dataObj.isNone then .ok { o with dataObj := some word.bytes }
      else do
        let fn ← getIndexFromObj (commandOpts.map Prod.fst) "option" word.string
        let name := (commandOpts.map Prod.fst).getD fn ""
        .error ⟨"No value for option \"" ++ name ++ "\"", ["NONE"]⟩
  | o, word :: value :: words => do
      let fn ← getIndexFromObj (commandOpts.map Prod.fst) "option" word.string
      let o ← setCommandOpt tcl o ((commandOpts.map Prod.snd).getD fn .padding) value
      encryptOptions o words

/-- The arguments of `EncryptMain`.  The first may be the cipher. -/
def encryptArguments (objv : List Obj) : Except TclError MainOptions :=
  if objv.length < 3 ∨ 12 < objv.length then
    .error (.wrongArgs ((objv.head?.map Obj.string).getD "" ++ encryptUsage))
  else
    match objv.tail with
    | [] => .ok {}
    | first :: words =>
        if first.dashed then encryptOptions tcl {} (first :: words)
        else encryptOptions tcl { cipherObj := some first.string } words

/-! ## Dispatch -/

/-- What a call returns: the size of the output file, the new layer of a channel, the
name of a new command with its context, or the data. -/
inductive EncryptReply (σ : Type) where
  | size (total : Int)
  | channel (st : EncryptState σ)
  | command (name : String) (ctx : σ)
  | data (out : List UInt8)

/-- What a call meets outside: Tcl, its channels, and what the file system answers for
the two names. -/
structure EncryptEnv where
  tcl : TclLibrary
  /-- `Tcl_GetChannel` -/
  getChannel : String → Except TclError Unit
  files : String → String → EncryptFiles

variable {σ : Type} (lib : CipherLibrary σ)

/-- A message that is appended to `text`. -/
def Stop.after (text : String) : Stop → Stop
  | .error e => .error { e with message := text ++ e.message }
  | .overflow array size => .overflow array size

/-- What the result holds when a handler is called. -/
def MainOptions.text (o : MainOptions) : String := if o.cipherObj.isNone then "No cipher" else ""

/-- `EncryptFileHandler`, called by `EncryptMain`.  The message of a file that cannot be
opened takes the place of what the result holds. -/
def encryptFiles (env : EncryptEnv) (type : Operation) (o : MainOptions)
    (inFile outFile : String) :
    Option (Except Stop (EncryptReply σ) × Option (List UInt8)) :=
  (encryptFileHandler lib type (env.files inFile outFile) o.cipherObj o.keyObj o.ivObj
    o.padding).map fun (res, file) =>
      ((res.mapError (if file.isSome then Stop.after o.text else id)).map .size, file)

/-- The handlers that open no file. -/
def encryptNoFiles (env : EncryptEnv) (type : Operation) (o : MainOptions) :
    Except Stop (EncryptReply σ) :=
  match o.channel, o.cmdObj, o.dataObj with
  | some channel, _, _ => do
      (env.getChannel channel).mapError .error
      let st ← (encryptChannelHandler lib type o.cipherObj o.keyObj o.ivObj o.padding).mapError
        (Stop.after o.text)
      pure (.channel st)
  | none, some cmd, _ => do
      let ctx ← (encryptCommandHandler lib type
        ⟨o.cipherObj, o.keyObj, o.ivObj, o.padding⟩).mapError (Stop.after o.text)
      pure (.command cmd ctx)
  | none, none, some d => do
      let out ← (encryptDataHandler lib type (some d) o.cipherObj o.keyObj o.ivObj
        o.padding).mapError (Stop.after o.text)
      pure (.data out)
  | none, none, none =>
      .error (.error ⟨o.text ++
        "No operation specified: Use -channel, -command, -data, or -infile option", ["NONE"]⟩)

/-- `EncryptMain`: the result, and the contents of the output file, with `none` where no
file has been opened for writing.  Without a result it does not come to an end. -/
def encryptMain (env : EncryptEnv) (type : Operation) (objv : List Obj) :
    Option (Except Stop (EncryptReply σ) × Option (List UInt8)) :=
  match encryptArguments env.tcl objv with
  | .error e => some (.error (.error e), none)
  | .ok o =>
      -- without a cipher the missing key goes unnoticed
      if o.cipherObj.isSome ∧ o.keyObj.isNone then some (.error (.error ⟨"No key", ["NONE"]⟩), none)
      else
        match o.inFileObj, o.outFileObj with
        | some inFile, some outFile => encryptFiles lib env type o inFile outFile
        | _, _ => some (encryptNoFiles lib env type o, none)

/-! ## Rejected arguments -/

/-- A required option is missing, the cipher is unknown, or the key or the IV is too long
for the cipher.  The IV is looked at after the key has been copied. -/
inductive Rejected (o : MainOptions) : Prop
  | noCipher (hcipher : o.cipherObj = none)
  | noKey (hkey : o.keyObj = none)
  | unknownCipher {name : String} (hname : o.cipherObj = some name) (hfetch : lib.fetch name = none)
  | longKey {cipher : Cipher} {key : Bytes} (hcipher : o.cipherObj.bind lib.fetch = some cipher)
      (hkey : o.keyObj = some key) (hpos : 0 < cipher.keyLength)
      (hlong : cipher.keyLength < key.data.length)
  | longIv {cipher : Cipher} {iv : Bytes} (hcipher : o.cipherObj.bind lib.fetch = some cipher)
      (hkey : KeyFits cipher o.keyObj) (hiv : o.ivObj = some iv) (hpos : 0 < cipher.ivLength)
      (hlong : cipher.ivLength < toInt iv.data.length)

/-- Both files are given, and can be opened. -/
def EncryptEnv.OpensFiles (env : EncryptEnv) (o : MainOptions) : Prop :=
  ∃ inFile outFile, o.inFileObj = some inFile ∧ o.outFileObj = some outFile ∧
    (env.files inFile outFile).openIn = .ok () ∧ (env.files inFile outFile).openOut = .ok ()

/-- A call that returns `TCL_ERROR` for rejected arguments has opened no file for
writing. -/
def FilesLeftAlone (env : EncryptEnv) (type : Operation) (objv : List Obj) : Prop :=
  ∀ o e file, encryptArguments env.tcl objv = .ok o → Rejected lib o →
    encryptMain lib env type objv = some (.error (.error e), file) → file = none

variable {lib}

/-- Where `EncryptInitialize` gets to see rejected arguments it fails. -/
theorem encryptInitialize_of_rejected {o : MainOptions} (ho : Rejected lib o)
    (hseen : o.cipherObj = none ∨ o.keyObj ≠ none) (type : Operation) :
    ∃ e, encryptInitialize lib type o.cipherObj o.keyObj o.ivObj o.padding = .error (.error e) := by
  have hmissing : o.cipherObj.bind lib.fetch = none → ∃ e,
      encryptInitialize lib type o.cipherObj o.keyObj o.ivObj o.padding = .error (.error e) :=
    fun hcipher => encryptInitialize_of_noCipher hcipher type o.keyObj o.ivObj o.padding
  cases ho with
  | noCipher hcipher => exact hmissing (by rw [hcipher, Option.bind_none])
  | noKey hkey =>
      rcases hseen with hcipher | hkey'
      · exact hmissing (by rw [hcipher, Option.bind_none])
      · exact absurd hkey hkey'
  | unknownCipher hname hfetch => exact hmissing (by rw [hname, Option.bind_some, hfetch])
  | @longKey cipher key hcipher hkey hpos hlong =>
      have hmax : 0 < (cipher.keyLength : Int) ∧ (cipher.keyLength : Int) < key.data.length := by
        omega
      rw [encryptInitialize_of_cipher hcipher, hkey]
      simp only [utilGetKey, if_pos hmax, copyArgument]
      exact ⟨_, rfl⟩
  | @longIv cipher iv hcipher hkey hiv hpos hlong =>
      have hmax : 0 < (cipher.ivLength : Int) ∧ (cipher.ivLength : Int) < toInt iv.data.length :=
        ⟨by omega, hlong⟩
      have hfits := (fits_copyKey_iff cipher o.keyObj).mpr hkey
      rw [encryptInitialize_of_cipher hcipher, hiv]
      cases hcopy : copyArgument .key (utilGetKey o.keyObj "key" cipher.keyLength false) with
      | ok key =>
          rw [ok_bind]
          simp only [utilGetIV, if_pos hmax, copyArgument]
          exact ⟨_, rfl⟩
      | error stop =>
          cases stop with
          | error e => exact ⟨e, rfl⟩
          | overflow array size => exact absurd hcopy (hfits array size)

/-- The handlers that open no file return `TCL_ERROR` for rejected arguments. -/
theorem encryptNoFiles_of_rejected {o : MainOptions} (ho : Rejected lib o)
    (hseen : o.cipherObj = none ∨ o.keyObj ≠ none) (env : EncryptEnv) (type : Operation) :
    ∃ e, encryptNoFiles lib env type o = .error (.error e) := by
  obtain ⟨e, he⟩ := encryptInitialize_of_rejected ho hseen type
  rw [encryptNoFiles]
  cases o.channel with
  | some channel =>
      cases hchannel : env.getChannel channel with
      | error e' => exact ⟨e', by simp [hchannel, Except.mapError, bind, Except.bind]⟩
      | ok u =>
          simp [hchannel, Except.mapError, bind, Except.bind, encryptChannelHandler, he, Stop.after]
  | none =>
      cases o.cmdObj with
      | some cmd =>
          simp [Except.mapError, bind, Except.bind, encryptCommandHandler, CipherOptions.context,
            he, Stop.after]
      | none =>
          cases o.dataObj with
          | some d => simp [Except.mapError, bind, Except.bind, encryptDataHandler, he, Stop.after]
          | none => exact ⟨_, rfl⟩

/-- `EncryptFileHandler` does so too, but not before it has opened the files. -/
theorem encryptFiles_of_rejected {o : MainOptions} (ho : Rejected lib o)
    (hseen : o.cipherObj = none ∨ o.keyObj ≠ none) (env : EncryptEnv) (type : Operation)
    (inFile outFile : String) :
    ∃ e file, encryptFiles lib env type o inFile outFile = some (.error (.error e), file) ∧
      (file = none ↔ ¬ ((env.files inFile outFile).openIn = .ok () ∧
        (env.files inFile outFile).openOut = .ok ())) := by
  obtain ⟨e, he⟩ := encryptInitialize_of_rejected ho hseen type
  rw [encryptFiles]
  rcases encryptFileHandler_cases lib type (env.files inFile outFile) o.cipherObj o.keyObj o.ivObj
    o.padding with ⟨hopen, e', h⟩ | ⟨hopen, ⟨stop, hinit, h⟩ | ⟨ctx, hinit, h⟩⟩
  · rw [h]
    exact ⟨e', none, rfl, iff_of_true rfl hopen⟩
  · rw [he, Except.error.injEq] at hinit
    rw [h, ← hinit]
    exact ⟨_, some [], rfl, iff_of_false nofun (not_not_intro hopen)⟩
  · rw [he] at hinit
    contradiction

/-- **Rejected arguments** make `EncryptMain` return `TCL_ERROR`; no file has been opened
for writing if the check for "No key" has been reached and fails, or the files are not
both given and there. -/
theorem encryptMain_of_rejected {env : EncryptEnv} {objv : List Obj} {o : MainOptions}
    (hargs : encryptArguments env.tcl objv = .ok o) (ho : Rejected lib o) (type : Operation) :
    ∃ e file, encryptMain lib env type objv = some (.error (.error e), file) ∧
      (file = none ↔ (o.cipherObj ≠ none ∧ o.keyObj = none) ∨ ¬ env.OpensFiles o) := by
  rw [encryptMain, hargs]
  dsimp only
  by_cases hkey : o.cipherObj.isSome ∧ o.keyObj.isNone
  · rw [if_pos hkey]
    refine ⟨_, none, rfl, iff_of_true rfl (.inl ?_)⟩
    exact ⟨Option.isSome_iff_ne_none.mp hkey.1, Option.isNone_iff_eq_none.mp hkey.2⟩
  · rw [if_neg hkey]
    have hnot : ¬ (o.cipherObj ≠ none ∧ o.keyObj = none) := by
      rwa [← Option.isSome_iff_ne_none, ← Option.isNone_iff_eq_none]
    have hseen : o.cipherObj = none ∨ o.keyObj ≠ none := by
      by_cases hcipher : o.cipherObj = none
      · exact .inl hcipher
      · exact .inr fun hnone => hnot ⟨hcipher, hnone⟩
    rw [or_iff_right hnot]
    obtain ⟨e, he⟩ := encryptNoFiles_of_rejected ho hseen env type
    cases hin : o.inFileObj with
    | none => exact ⟨e, none, by rw [he], iff_of_true rfl (by simp [EncryptEnv.OpensFiles, hin])⟩
    | some inFile =>
        cases hout : o.outFileObj with
        | none =>
            exact ⟨e, none, by rw [he], iff_of_true rfl (by simp [EncryptEnv.OpensFiles, hout])⟩
        | some outFile =>
            obtain ⟨e, file, hfiles, hfile⟩ :=
              encryptFiles_of_rejected ho hseen env type inFile outFile
            refine ⟨e, file, hfiles, ?_⟩
            rw [hfile]
            simp [EncryptEnv.OpensFiles, hin, hout]

/-- **Rejected arguments leave files alone** exactly where only the key is missing, or not
both files are given and can be opened. -/
theorem rejected_leaves_files_iff (lib : CipherLibrary σ) (env : EncryptEnv) (type : Operation)
    (objv : List Obj) :
    FilesLeftAlone lib env type objv ↔
      ∀ o, encryptArguments env.tcl objv = .ok o → Rejected lib o →
        (o.cipherObj ≠ none ∧ o.keyObj = none) ∨ ¬ env.OpensFiles o := by
  constructor
  · intro h o hargs ho
    obtain ⟨e, file, hmain, hfile⟩ := encryptMain_of_rejected hargs ho type
    exact hfile.mp (h o e file hargs ho hmain)
  · intro h o e file hargs ho hmain
    obtain ⟨e', file', hmain', hfile⟩ := encryptMain_of_rejected hargs ho type
    rw [hmain, Option.some.injEq, Prod.mk.injEq] at hmain'
    rw [hmain'.2]
    exact hfile.mpr (h o hargs ho)

/-- A file of three bytes that can be encrypted. -/
def anyFiles : EncryptEnv where
  tcl := .plain
  getChannel _ := .ok ()
  files _ _ := tenBytesLeft

/-- An option word. -/
def Obj.word (string : String) : Obj := ⟨string, ⟨[], Nat.two_pow_pos 63⟩⟩

/-- A mistyped cipher empties the output file. -/
theorem unknownCipher_empties :
    ¬ FilesLeftAlone ecbLibrary anyFiles .encrypt [.word "tls::encrypt", .word "-cipher",
      .word "aes-129-ecb", .word "-key", ⟨"", ⟨List.replicate 16 0, by decide⟩⟩,
      .word "-infile", .word "plain", .word "-outfile", .word "secret"] := by
  intro h
  have hfile := h { cipherObj := some "aes-129-ecb", keyObj := some ⟨List.replicate 16 0, by decide⟩
                    inFileObj := some "plain", outFileObj := some "secret" } _ (some []) rfl
    (.unknownCipher rfl rfl) rfl
  contradiction

-- So does a missing one.
example :
    encryptMain ecbLibrary anyFiles .encrypt [.word "tls::encrypt", .word "-infile", .word "plain",
        .word "-outfile", .word "secret"] =
      some (.error (.error ⟨"No cipherno cipher", ["NONE"]⟩), some []) := rfl

end TclTls
