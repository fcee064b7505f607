import TclTls.Digest
import TclTls.EncryptMain
import TclTls.Settings.Reader

/-!
# TclTls.DigestMain

The commands `tls::digest`, `tls::hmac`, `tls::cmac` and `tls::mac`: their options, and what
they are asked to digest.

All four read the same options.  Which of them is called matters for the first word, and
for the type where the options leave it open (`DigestCommand.resolve`).  The last value of
each option counts (`DigestVars.eq_chosen`), and there are five ways for the data.
`digest_calls_agree` puts it together: whichever command is called, with the options in
whichever order, and whichever way the data goes, the value is the same.
-/

namespace TclTls

open Settings Settings.Reader

/-! ## Options -/

/-- What the four commands pass as their type. -/
inductive DigestCommand where
  | md
  | hmac
  | cmac
  | mac
deriving DecidableEq, Repr

/-- `enum _command_opts` -/
inductive DigestOpt where
  | bin
  | binary
  | hex
  | hexadecimal
  | chan
  | channel
  | cipher
  | command
  | data
  | digest
  | file
  | filename
  | hash
  | key
  | length
  | mac
  | size
deriving DecidableEq, Repr

/-- `command_opts` -/
def digestOpts : List (String × DigestOpt) := [
  ("-bin", .bin), ("-binary", .binary), ("-hex", .hex), ("-hexadecimal", .hexadecimal),
  ("-chan", .chan), ("-channel", .channel), ("-cipher", .cipher), ("-command", .command),
  ("-data", .data), ("-digest", .digest), ("-file", .file), ("-filename", .filename),
  ("-hash", .hash), ("-key", .key), ("-length", .length), ("-mac", .mac), ("-size", .size)]

/-- `command_opts[fn]` -/
def DigestOpt.text (fn : DigestOpt) : String :=
  ((digestOpts.find? fun entry => entry.2 == fn).map Prod.fst).getD ""

/-- The variables that the option loop assigns, with their initial values. -/
@[ext]
structure DigestVars where
  format : DigestFormat := .hex
  length : Nat := 0
  channel : Option String := none
  cipherObj : Option String := none
  cmdObj : Option String := none
  dataObj : Option Bytes := none
  digestObj : Option String := none
  fileObj : Option String := none
  keyObj : Option Bytes := none
  macObj : Option String := none

variable (tcl : TclLibrary)

/-- `-length`, between 1 and `EVP_MAX_MD_SIZE` -/
def digestLength (value : Obj) : Except TclError Nat :=
  match tcl.getInt value.string with
  | none => .error (tcl.badInt value.string)
  | some length =>
      if length < 1 ∨ evpMaxMdSize < length then .error ⟨"Invalid length", ["NONE"]⟩
      else .ok length.toNat

/-- The options without a value come first in the table. -/
def digestFlag : DigestOpt → Option (DigestVars → DigestVars)
  | .bin | .binary => some fun v => { v with format := .bin }
  | .hex | .hexadecimal => some fun v => { v with format := .hex }
  | _ => none

/-- The `switch` of the option loop, for the options with a value. -/
def digestAssign (fn : DigestOpt) (value : Obj) (v : DigestVars) : Except TclError DigestVars :=
  match fn with
  | .chan | .channel => .ok { v with channel := some value.string }
  | .cipher => .ok { v with cipherObj := some value.string }
  | .command => .ok { v with cmdObj := some value.string }
  | .data => .ok { v with dataObj := some value.bytes }
  | .digest | .hash => .ok { v with digestObj := some value.string }
  | .file | .filename => .ok { v with fileObj := some value.string }
  | .key => .ok { v with keyObj := some value.bytes }
  | .length | .size => (digestLength tcl value).map fun length => { v with length }
  | .mac => .ok { v with macObj := some value.string }
  | .bin | .binary | .hex | .hexadecimal => .ok v

/-- The option loop.  The last word may be the data. -/
def digestReader : Reader DigestOpt Obj DigestVars TclError where
  index word := (getIndexFromObj (digestOpts.map Prod.fst) "option" word.string).map fun fn =>
    (digestOpts.map Prod.snd).getD fn .size
  flag := digestFlag
  missing fn := ⟨"No value for option \"" ++ fn.text ++ "\"", ["NONE"]⟩
  assign := digestAssign tcl
  tail word v :=
    if ¬ word.dashed ∧ v.dataObj.isNone then some { v with dataObj := some word.bytes } else none

/-- The first word may be the digest, the cipher, or the MAC. -/
def DigestCommand.first (word : Obj) : DigestCommand → DigestVars
  | .md | .hmac => { digestObj := some word.string }
  | .cmac => { cipherObj := some word.string }
  | .mac => { macObj := some word.string }

/-- The usage message of `DigestMain`, behind the name of the command. -/
def digestUsage : String :=
  " ?-bin|-hex? ?-cipher name? ?-digest name? ?-key key? ?-mac name? " ++
  "[-channel chan | -command cmdName | -file filename | ?-data? data]"

/-- The words that the option loop reads, and the variables before it. -/
def DigestCommand.words (cmd : DigestCommand) : List Obj → List Obj × DigestVars
  | _ :: word :: words =>
      if word.dashed then (word :: words, {}) else (words, cmd.first word)
  | _ => ([], {})

/-- The arguments of `DigestMain`. -/
def digestArguments (cmd : DigestCommand) (objv : List Obj) : Except TclError DigestVars :=
  if objv.length < 3 ∨ 12 < objv.length then
    .error (.wrongArgs ((objv.head?.map Obj.string).getD "" ++ digestUsage))
  else
    Reader.result ((digestReader tcl).read (cmd.words objv).1 (cmd.words objv).2)

/-! ### The last value wins -/

/-- The format that an option without a value gives. -/
def formatOf : Setting DigestOpt Obj → Option DigestFormat
  | .flag fn =>
      if fn ∈ [DigestOpt.bin, .binary] then some .bin
      else if fn ∈ [DigestOpt.hex, .hexadecimal] then some .hex
      else none
  | _ => none

/-- The data: of the option, or the last word. -/
def dataOf : Setting DigestOpt Obj → Option (Option Bytes)
  | .value fn value => if fn = .data then some (some value.bytes) else none
  | .tail word => some (some word.bytes)
  | .flag _ => none

/-- The variables after some settings: of each option the last value. -/
def DigestVars.chosen (v : DigestVars) (ss : List (Setting DigestOpt Obj)) : DigestVars where
  format := lastOf ss formatOf v.format
  length := lastOf ss
    (valueOf [.length, .size] fun value => ((tcl.getInt value.string).getD 0).toNat) v.length
  channel := lastOf ss (valueOf [.chan, .channel] fun value => some value.string) v.channel
  cipherObj := lastOf ss (valueOf [.cipher] fun value => some value.string) v.cipherObj
  cmdObj := lastOf ss (valueOf [.command] fun value => some value.string) v.cmdObj
  dataObj := lastOf ss dataOf v.dataObj
  digestObj := lastOf ss (valueOf [.digest, .hash] fun value => some value.string) v.digestObj
  fileObj := lastOf ss (valueOf [.file, .filename] fun value => some value.string) v.fileObj
  keyObj := lastOf ss (valueOf [.key] fun value => some value.bytes) v.keyObj
  macObj := lastOf ss (valueOf [.mac] fun value => some value.string) v.macObj

section Last

variable {tcl} {v v' : DigestVars}

theorem digestLength_eq_ok {value : Obj} {length : Nat} (h : digestLength tcl value = .ok length) :
    ((tcl.getInt value.string).getD 0).toNat = length := by
  unfold digestLength at h
  cases hint : tcl.getInt value.string with
  | none => simp [hint] at h
  | some n =>
      simp only [hint] at h
      split at h
      · contradiction
      · exact Except.ok.inj h

/-- What one setting does. -/
theorem digestReader_does {s : Setting DigestOpt Obj} (h : (digestReader tcl).Does s v v') :
    v' = v.chosen tcl [s] := by
  cases h with
  | @flag fn f hflag v =>
      have hf : digestFlag fn = some f := hflag
      cases fn <;> simp [digestFlag] at hf <;> subst hf <;> rfl
  | @value fn value v v' hflag hassign =>
      have happly : digestAssign tcl fn value v = .ok v' := hassign
      have hf : digestFlag fn = none := hflag
      cases fn <;> simp [digestFlag] at hf <;> simp only [digestAssign] at happly
      case length | size =>
        cases hlength : digestLength tcl value with
        | error e => simp [hlength, Except.map] at happly
        | ok length =>
            rw [hlength] at happly
            have hv : v' = { v with length } := (Except.ok.inj happly).symm
            rw [hv, ← digestLength_eq_ok hlength]
            rfl
      all_goals
        rw [← Except.ok.inj happly]
        rfl
  | @tail word v v' htail =>
      have happly : (if ¬ word.dashed ∧ v.dataObj.isNone then
        some { v with dataObj := some word.bytes } else none) = some v' := htail
      split at happly
      · rw [← Option.some.inj happly]
        rfl
      · contradiction

theorem steps_lastOf {β : Type} (field : DigestVars → β) {ss : List (Setting DigestOpt Obj)}
    {gives : Setting DigestOpt Obj → Option β} (h : (digestReader tcl).Steps ss v v')
    (hfield : ∀ v s, field (DigestVars.chosen tcl v [s]) = lastOf [s] gives (field v)) :
    field v' = lastOf ss gives (field v) := by
  refine h.last fun s r r' hdoes => ?_
  rw [digestReader_does hdoes, hfield, lastOf_singleton]

/-- **All settings**: of each option the last value counts. -/
theorem DigestVars.eq_chosen {ss : List (Setting DigestOpt Obj)}
    (h : (digestReader tcl).Steps ss v v') : v' = v.chosen tcl ss := by
  apply DigestVars.ext
  case format => exact steps_lastOf DigestVars.format h fun v s => rfl
  case length => exact steps_lastOf DigestVars.length h fun v s => rfl
  case channel => exact steps_lastOf DigestVars.channel h fun v s => rfl
  case cipherObj => exact steps_lastOf DigestVars.cipherObj h fun v s => rfl
  case cmdObj => exact steps_lastOf DigestVars.cmdObj h fun v s => rfl
  case dataObj => exact steps_lastOf DigestVars.dataObj h fun v s => rfl
  case digestObj => exact steps_lastOf DigestVars.digestObj h fun v s => rfl
  case fileObj => exact steps_lastOf DigestVars.fileObj h fun v s => rfl
  case keyObj => exact steps_lastOf DigestVars.keyObj h fun v s => rfl
  case macObj => exact steps_lastOf DigestVars.macObj h fun v s => rfl

/-- The variables that the words of a call come to. -/
def DigestCommand.vars (tcl : TclLibrary) (cmd : DigestCommand) (objv : List Obj) : DigestVars :=
  (cmd.words objv).2.chosen tcl
    ((digestReader tcl).made (cmd.words objv).1 (cmd.words objv).2)

theorem digestArguments_eq_ok {cmd : DigestCommand} {objv : List Obj}
    (h : digestArguments tcl cmd objv = .ok v) : v = cmd.vars tcl objv := by
  unfold digestArguments at h
  split at h
  · contradiction
  · cases hread : (digestReader tcl).read (cmd.words objv).1 (cmd.words objv).2 with
    | error e =>
        rw [hread] at h
        contradiction
    | ok v' =>
        rw [hread] at h
        rw [← Except.ok.inj h]
        exact DigestVars.eq_chosen (Reader.steps_of_read hread)

end Last

/-- `DigestMain` finds out the type. -/
def DigestCommand.resolve (cmd : DigestCommand) (v : DigestVars) : Except TclError DigestType :=
  let type : DigestCommand :=
    if cmd = .md then
      if v.macObj.isSome then .mac
      else if v.cipherObj.isSome then .cmac
      else if v.keyObj.isSome then .hmac
      else .md
    else cmd
  match type with
  | .md => .ok .md
  | .hmac => .ok .hmac
  | .cmac => .ok .cmac
  | .mac =>
      match v.macObj with
      | some macName =>
          if macName = "cmac" then .ok .cmac
          else if macName = "hmac" then .ok .hmac
          else .error ⟨"invalid MAC \"" ++ macName ++ "\"", ["NONE"]⟩
      | none => .error ⟨"no MAC", ["NONE"]⟩

/-- What is passed to the handlers. -/
def DigestVars.options (v : DigestVars) (type : DigestType) : DigestOptions where
  type := type
  format := v.format
  digestObj := v.digestObj
  cipherObj := v.cipherObj
  keyObj := v.keyObj
  length := v.length

/-! ## Dispatch -/

/-- What a call returns: the value, the new layer of a channel, or the name of a new command
with its state. -/
inductive DigestReply (σ : Type) where
  | value (out : List UInt8)
  | channel (st : DigestState σ)
  | command (name : String) (st : DigestState σ)

/-- What a call meets outside: Tcl, its channels, and what the file system answers. -/
structure DigestEnv where
  tcl : TclLibrary
  /-- `Tcl_GetChannel` -/
  getChannel : String → Except TclError Unit
  files : String → FileAnswers

variable {σ : Type} (lib : DigestLibrary σ)

/-- The handler that the options choose, the first of: file, channel, command, data.  Without a
result it does not come to an end. -/
def digestHandler (env : DigestEnv) (v : DigestVars) (o : DigestOptions) :
    Option (Except TclError (DigestReply σ)) :=
  match v.fileObj, v.channel, v.cmdObj, v.dataObj with
  | some file, _, _, _ =>
      (digestFileHandler lib o (env.files file)).map fun res => res.map .value
  | none, some channel, _, _ => some do
      env.getChannel channel
      let st ← digestChannelHandler lib o
      pure (.channel st)
  | none, none, some cmd, _ => some do
      let st ← digestCommandHandler lib o
      pure (.command cmd st)
  | none, none, none, some d => some ((digestDataHandler lib o d).map .value)
  | none, none, none, none =>
      some (.error ⟨"No operation: Use -channel, -command, -data, or -file option", ["NONE"]⟩)

/-- `DigestMain` -/
def digestMain (env : DigestEnv) (cmd : DigestCommand) (objv : List Obj) :
    Option (Except TclError (DigestReply σ)) :=
  match (do let v ← digestArguments env.tcl cmd objv; pure (v, ← cmd.resolve v)) with
  | .error e => some (.error e)
  | .ok (v, type) => digestHandler lib env v (v.options type)

/-- `TemplateCmd`, with the name of the digest. -/
def templateCmd (digestName : String) (objv : List Obj) : Except TclError (List UInt8) :=
  match objv with
  | [_, data] =>
      digestDataHandler lib
        { type := .md, format := .hex, digestObj := some digestName, cipherObj := none
          keyObj := none, length := evpMaxMdSize } data.bytes
  | _ => .error (.wrongArgs ((objv.head?.map Obj.string).getD "" ++ " data"))

/-- `MD4ObjCmd` -/
def md4ObjCmd : List Obj → Except TclError (List UInt8) := templateCmd lib "md4"

/-- `MD5ObjCmd` -/
def md5ObjCmd : List Obj → Except TclError (List UInt8) := templateCmd lib "md5"

/-- `SHA1ObjCmd` -/
def sha1ObjCmd : List Obj → Except TclError (List UInt8) := templateCmd lib "sha1"

/-- `SHA256ObjCmd` -/
def sha256ObjCmd : List Obj → Except TclError (List UInt8) := templateCmd lib "sha256"

/-- `SHA512ObjCmd` -/
def sha512ObjCmd : List Obj → Except TclError (List UInt8) := templateCmd lib "sha512"

/-! ## Calls -/

/-- The ways for the data. -/
inductive DigestRoute where
  | data
  | file
  | command (pieces : List Bytes)
  | read (before after : List ReadCall)
  | written (chunks : List (List UInt8))

/-- A call of one of the four commands, and how the data goes then. -/
structure DigestCall where
  cmd : DigestCommand
  objv : List Obj
  env : DigestEnv
  route : DigestRoute

/-- The options choose the route, and the data goes along it.  Buffers hold a printed digest. -/
def DigestRoute.Carries (env : DigestEnv) (v : DigestVars) (d : Bytes) : DigestRoute → Prop
  | .file => ∃ name, v.fileObj = some name ∧ (env.files name).Holds d.data
  | .read before after =>
      v.fileObj = none ∧ (∃ name, v.channel = some name ∧ env.getChannel name = .ok ()) ∧
        Delivers before d.data ∧ after ≠ [] ∧ (∀ call ∈ after, AtEof call) ∧
        ∀ call ∈ before ++ after, 2 * evpMaxMdSize ≤ call.toRead
  | .written chunks =>
      v.fileObj = none ∧ (∃ name, v.channel = some name ∧ env.getChannel name = .ok ()) ∧
        chunks.flatten = d.data ∧ ∀ chunk ∈ chunks, Writable chunk
  | .command pieces =>
      v.fileObj = none ∧ v.channel = none ∧ v.cmdObj.isSome ∧
        (pieces.map Bytes.data).flatten = d.data
  | .data => v.fileObj = none ∧ v.channel = none ∧ v.cmdObj = none ∧ v.dataObj = some d

/-- The variables of a call: of each option the last value. -/
def DigestCall.vars (c : DigestCall) : DigestVars := c.cmd.vars c.env.tcl c.objv

/-- The arguments are accepted and ask for a digest with these options, and the data is `d`. -/
structure DigestCall.Asks (c : DigestCall) (o : DigestOptions) (d : Bytes) : Prop where
  accepted : ∃ v, digestArguments c.env.tcl c.cmd c.objv = .ok v
  options : ∃ type, c.cmd.resolve c.vars = .ok type ∧ c.vars.options type = o
  data : c.route.Carries c.env c.vars d

/-- The call succeeds, and `out` is what comes of it: the result, the result of the new command,
what is read from the channel, or what its parent gets when it is closed. -/
def DigestCall.Gives (c : DigestCall) (out : List UInt8) : Prop :=
  match c.route with
  | .data | .file => digestMain lib c.env c.cmd c.objv = some (.ok (.value out))
  | .command pieces =>
      ∃ name st, digestMain lib c.env c.cmd c.objv = some (.ok (.command name st)) ∧
        callInstance (digestInstanceObjCmd lib) (.word name) (some st)
          (pieces.map .update ++ [.finalize]) = .ok out
  | .read before after =>
      ∃ st, digestMain lib c.env c.cmd c.objv = some (.ok (.channel st)) ∧
        ReadsOnce (digestInputProc lib) (digestCloseProc lib) st (before ++ after) out
  | .written chunks =>
      ∃ st, digestMain lib c.env c.cmd c.objv = some (.ok (.channel st)) ∧
        (digestWrites lib st chunks).1 = (chunks.map fun chunk => ((chunk.length : Int), 0)) ∧
        (digestCloseProc lib (digestWrites lib st chunks).2).parent = out

section Calls

variable {lib} {o : DigestOptions} {d : Bytes} {out : List UInt8}

theorem digestMain_eq {env : DigestEnv} {cmd : DigestCommand} {objv : List Obj} {v : DigestVars}
    {type : DigestType} (hargs : digestArguments env.tcl cmd objv = .ok v)
    (htype : cmd.resolve v = .ok type) :
    digestMain lib env cmd objv = digestHandler lib env v (v.options type) := by
  rw [digestMain, hargs, ok_bind, htype]
  rfl

/-- A printed digest has at most two digits for each byte. -/
theorem length_print_le (format : DigestFormat) (md : List UInt8) :
    (format.print md).length ≤ 2 * md.length := by
  cases format with
  | bin => exact Nat.le_mul_of_pos_left _ (by decide)
  | hex =>
      have hbyte : ∀ b, (hexByte b).length = 2 := fun b => rfl
      simp [DigestFormat.print, hbyte, Nat.mul_comm]

theorem length_digestFinal_le {st : DigestState σ} {md : List UInt8}
    (h : (digestFinal lib st).1 = some md) : md.length ≤ evpMaxMdSize := by
  unfold digestFinal at h
  split at h
  · split at h
    · exact lib.final_le _ _ _ h
    · rw [lib.finalXof_length _ _ _ h]
      split <;> omega
  · exact lib.final_le _ _ _ h
  · exact lib.final_le _ _ _ h

theorem length_digestFinalize_le {st : DigestState σ} {value : List UInt8}
    (h : (digestFinalize lib st).1 = .ok value) : value.length ≤ 2 * evpMaxMdSize := by
  rw [digestFinalize] at h
  cases hmd : (digestFinal lib st).1 with
  | none => simp [hmd] at h
  | some md =>
      simp only [hmd, Except.ok.injEq] at h
      have hle := length_digestFinal_le hmd
      have hprint := length_print_le st.format md
      rw [← h]
      omega

/-- The layer of a channel, and what it is going to compute. -/
theorem digestChannelHandler_eq_ok_iff (hlib : lib.Folds) :
    digestDataHandler lib o d = .ok out ↔
      ∃ st, digestChannelHandler lib o = .ok st ∧
        (digestFinalize lib (st.absorb lib d.data)).1 = .ok out := by
  constructor
  · intro hdata
    have hinit := hdata
    rw [digestDataHandler_eq lib hlib] at hinit
    obtain ⟨st, hst, -⟩ := bind_eq_ok_iff.mp hinit
    have hchannel : digestChannelHandler lib o = .ok { st with self := true } := by
      rw [digestChannelHandler, hst]
      rfl
    exact ⟨_, hchannel, ((digestChannel_value lib hlib d hchannel).2.2.2).trans hdata⟩
  · rintro ⟨st, hchannel, hvalue⟩
    exact ((digestChannel_value lib hlib d hchannel).2.2.2).symm.trans hvalue

/-- A channel that is read from gives the value once. -/
theorem digestReads_readsOnce_iff (hlib : lib.Folds) {st : DigestState σ}
    (hst : digestChannelHandler lib o = .ok st) {before after : List ReadCall}
    (hbefore : Delivers before d.data) (hafter : after ≠ []) (hend : ∀ call ∈ after, AtEof call)
    (hroom : ∀ call ∈ before ++ after, 2 * evpMaxMdSize ≤ call.toRead) :
    ReadsOnce (digestInputProc lib) (digestCloseProc lib) st (before ++ after) out ↔
      (digestFinalize lib (st.absorb lib d.data)).1 = .ok out := by
  obtain ⟨hself, heof, -, -⟩ := digestChannel_value lib hlib d hst
  obtain ⟨value, ctx, hfinalize⟩ := digestFinalize_eq lib hlib (st.absorb lib d.data)
  have hvalue : (digestFinalize lib (st.absorb lib d.data)).1 = .ok value := by rw [hfinalize]
  obtain ⟨call, after, rfl⟩ := List.exists_cons_of_ne_nil hafter
  have hsize : value.length ≤ call.toRead := by
    have hle := length_digestFinalize_le hvalue
    have hcall := hroom call (by simp)
    omega
  obtain ⟨honce, -⟩ := digestReads_eq lib hlib hself heof hbefore hend hvalue hsize
  rw [hvalue, Except.ok.injEq]
  constructor
  · intro hout
    exact honce.received.symm.trans hout.received
  · rintro rfl
    exact honce

/-- A channel that is written to gives the value to its parent. -/
theorem digestWrites_parent (hlib : lib.Folds) {st : DigestState σ}
    (hst : digestChannelHandler lib o = .ok st) {chunks : List (List UInt8)}
    (hchunks : chunks.flatten = d.data) (hwritable : ∀ chunk ∈ chunks, Writable chunk) :
    (digestWrites lib st chunks).1 = (chunks.map fun chunk => ((chunk.length : Int), 0)) ∧
      .ok (digestCloseProc lib (digestWrites lib st chunks).2).parent =
        (digestFinalize lib (st.absorb lib d.data)).1 := by
  obtain ⟨hself, heof, hparent, -⟩ := digestChannel_value lib hlib d hst
  obtain ⟨value, ctx, hfinalize⟩ := digestFinalize_eq lib hlib (st.absorb lib d.data)
  have hvalue : (digestFinalize lib (st.absorb lib d.data)).1 = .ok value := by rw [hfinalize]
  have heof' : (st.absorb lib d.data).eof = false := heof
  have hparent' : (st.absorb lib d.data).parent = [] := hparent
  rw [digestWrites_eq lib hlib hself hwritable, (absorbs_absorb lib hlib).foldl, hchunks]
  refine ⟨rfl, ?_⟩
  rw [digestCloseProc_eq lib heof' hvalue, hparent', hvalue, List.nil_append]

/-- A call that names a channel puts a layer on it. -/
theorem digestMain_channel {env : DigestEnv} {cmd : DigestCommand} {objv : List Obj}
    {v : DigestVars} {type : DigestType} {name : String} {st : DigestState σ}
    (hargs : digestArguments env.tcl cmd objv = .ok v) (htype : cmd.resolve v = .ok type)
    (hfile : v.fileObj = none) (hname : v.channel = some name)
    (hopen : env.getChannel name = .ok ()) :
    digestMain lib env cmd objv = some (.ok (.channel st)) ↔
      digestChannelHandler lib (v.options type) = .ok st := by
  simp only [digestMain_eq hargs htype, digestHandler, hfile, hname, hopen, ok_bind]
  cases digestChannelHandler lib (v.options type) with
  | error e => simp [bind, Except.bind]
  | ok st' => simp [bind, Except.bind, pure, Except.pure]

/-- **Each way** computes what `DigestDataHandler` computes. -/
theorem DigestCall.gives_iff (hlib : lib.Folds) {c : DigestCall} (hc : c.Asks o d) :
    c.Gives lib out ↔ digestDataHandler lib o d = .ok out := by
  obtain ⟨⟨v, hargs⟩, ⟨type, htype, rfl⟩, hcarries⟩ := hc
  have hvars : c.vars = v := (digestArguments_eq_ok hargs).symm
  rw [hvars] at htype hcarries ⊢
  have hmain := @digestMain_eq σ lib _ _ _ _ _ hargs htype
  unfold Gives
  cases hroute : c.route with
  | data =>
      rw [hroute] at hcarries
      obtain ⟨hfile, hchannel, hcmd, hdata⟩ := hcarries
      simp only [hmain, digestHandler, hfile, hchannel, hcmd, hdata]
      cases digestDataHandler lib (v.options type) d <;> simp [Except.map]
  | file =>
      rw [hroute] at hcarries
      obtain ⟨name, hname, hholds⟩ := hcarries
      simp only [hmain, digestHandler, hname, digestFileHandler_eq lib hlib _ hholds]
      cases digestDataHandler lib (v.options type) d <;> simp [Except.map]
  | command pieces =>
      rw [hroute] at hcarries
      obtain ⟨hfile, hchannel, hcmd, hpieces⟩ := hcarries
      obtain ⟨name, hname⟩ := Option.isSome_iff_exists.mp hcmd
      have hagree := digestByPieces_eq lib hlib (.word name) (v.options type) hpieces
      simp only [hmain, digestHandler, hfile, hchannel, hname, ← hagree, digestByPieces]
      cases digestCommandHandler lib (v.options type) with
      | error e => simp [bind, Except.bind]
      | ok st => simp [bind, Except.bind, pure, Except.pure]
  | read before after =>
      rw [hroute] at hcarries
      obtain ⟨hfile, ⟨name, hname, hopen⟩, hbefore, hafter, hend, hroom⟩ := hcarries
      rw [digestChannelHandler_eq_ok_iff hlib]
      refine exists_congr fun st => ?_
      rw [digestMain_channel hargs htype hfile hname hopen]
      exact and_congr_right fun hst =>
        digestReads_readsOnce_iff hlib hst hbefore hafter hend hroom
  | written chunks =>
      rw [hroute] at hcarries
      obtain ⟨hfile, ⟨name, hname, hopen⟩, hchunks, hwritable⟩ := hcarries
      rw [digestChannelHandler_eq_ok_iff hlib]
      refine exists_congr fun st => ?_
      rw [digestMain_channel hargs htype hfile hname hopen]
      refine and_congr_right fun hst => ?_
      obtain ⟨htaken, hparent⟩ := digestWrites_parent hlib hst hchunks hwritable
      rw [← hparent, Except.ok.injEq, and_iff_right htaken]

/-- The length that is asked for makes no difference to a digest of a fixed length. -/
theorem digestDataHandler_length {name : String}
    (hfixed : ∀ md, lib.fetchDigest name = some md → md.xof = false) (length length' : Nat)
    (d : Bytes) :
    digestDataHandler lib ⟨.md, .hex, some name, none, none, length⟩ d =
      digestDataHandler lib ⟨.md, .hex, some name, none, none, length'⟩ d := by
  cases hfetch : lib.fetchDigest name with
  | none =>
      simp [digestDataHandler, digestInitialize, digestContext, found, utilFetch, hfetch, bind,
        Except.bind]
  | some md =>
      have hxof := hfixed md hfetch
      cases hnew : lib.contextNew .md <;> cases hinit : lib.digestInit md <;>
        simp [digestDataHandler, digestInitialize, digestContext, found, utilFetch, hfetch,
          contextCreated, initialized, digestUpdate, digestFinalize, digestFinal, hxof, hnew, hinit,
          bind, Except.bind, pure, Except.pure]

/-- **A convenience command** agrees with all calls that ask for its digest, if that has a
fixed length. -/
theorem templateCmd_eq_ok_iff (hlib : lib.Folds) {name : String}
    (hfixed : ∀ md, lib.fetchDigest name = some md → md.xof = false) {c : DigestCall}
    {data : Obj} (hc : c.Asks ⟨.md, .hex, some name, none, none, 0⟩ data.bytes) (cmd : Obj)
    (out : List UInt8) : templateCmd lib name [cmd, data] = .ok out ↔ c.Gives lib out := by
  rw [DigestCall.gives_iff hlib hc, ← digestDataHandler_length hfixed evpMaxMdSize 0]
  rfl

/-- `tls::md -digest md5 -data abc` -/
def md5OfData : DigestCall where
  cmd := .md
  objv := [.word "tls::md", .word "-digest", .word "md5", .word "-data",
    ⟨"abc", ⟨[0x61, 0x62, 0x63], by decide⟩⟩]
  env :=
    { tcl := .plain
      getChannel := fun _ => .ok ()
      files := fun _ => ⟨.ok (), .ok (), [.eof], .ok ()⟩ }
  route := .data

/-- `tls::digest md5 -bin -command d -hex`, and the data in two pieces -/
def md5ByCommand : DigestCall where
  cmd := .md
  objv := [.word "tls::digest", .word "md5", .word "-bin", .word "-command", .word "d",
    .word "-hex"]
  env := md5OfData.env
  route := .command [⟨[0x61], by decide⟩, ⟨[0x62, 0x63], by decide⟩]

end Calls

end TclTls
