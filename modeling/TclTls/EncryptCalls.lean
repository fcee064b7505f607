import TclTls.Conversion
import TclTls.EncryptMain
import TclTls.Settings.Reader

/-!
# TclTls.EncryptCalls

What `tls::encrypt` has been asked to encrypt, `tls::decrypt` can be asked to decrypt.

The option loop of `EncryptMain` is one of those in `TclTls.Settings.Reader`
(`encryptOptions_eq_read`), so of each option the last value counts
(`MainOptions.eq_chosen`).  A call then takes one of the routes of `TclTls.Conversion`,
and what comes of it depends on nothing but the cipher, the key, the IV, the padding and
the data (`EncryptCall.gives_iff`).
-/

namespace TclTls

open Settings Settings.Reader

attribute [ext] MainOptions

variable (tcl : TclLibrary)

/-! ## The option loop -/

/-- `command_opts[fn]` -/
def CommandOpt.text (fn : CommandOpt) : String :=
  ((commandOpts.find? fun entry => entry.2 == fn).map Prod.fst).getD ""

/-- The option loop of `EncryptMain`, as a reader. -/
def encryptReader : Reader CommandOpt Obj MainOptions TclError where
  index word := (getIndexFromObj (commandOpts.map Prod.fst) "option" word.string).map fun fn =>
    (commandOpts.map Prod.snd).getD fn .padding
  flag _ := none
  missing fn := ⟨"No value for option \"" ++ fn.text ++ "\"", ["NONE"]⟩
  assign fn value o := setCommandOpt tcl o fn value
  tail word o :=
    if ¬ word.dashed ∧ o.dataObj.isNone then some { o with dataObj := some word.bytes } else none

/-- An entry that is found is one of the table. -/
theorem getIndexFromObj_lt {table : List String} {msg word : String} {n : Nat}
    (h : getIndexFromObj table msg word = .ok n) : n < table.length := by
  unfold getIndexFromObj at h
  cases hfind : table.findIdx? (· == word) with
  | some m =>
      simp only [hfind, Except.ok.injEq] at h
      rw [← h]
      exact (List.findIdx?_eq_some_iff_findIdx_eq.mp hfind).1
  | none =>
      simp only [hfind] at h
      split at h
      next entry m hmatching hempty =>
        have hmem := List.mem_singleton_self (entry, m)
        rw [← hmatching] at hmem
        have hlt := (List.mem_zipIdx (List.mem_filter.mp hmem).1).2.1
        rw [← Except.ok.inj h]
        omega
      next => contradiction

theorem text_commandOpts {fn : Nat} (hfn : fn < commandOpts.length) :
    ((commandOpts.map Prod.snd).getD fn .padding).text = (commandOpts.map Prod.fst).getD fn "" := by
  have hall : ∀ fn < 14, ((commandOpts.map Prod.snd).getD fn .padding).text =
    (commandOpts.map Prod.fst).getD fn "" := by decide
  exact hall fn hfn

/-- **The option loop** is a reading of its words. -/
theorem encryptOptions_eq_read (o : MainOptions) (words : List Obj) :
    encryptOptions tcl o words = Reader.result ((encryptReader tcl).read words o) := by
  have hflag : ∀ fn, (encryptReader tcl).flag fn = none := fun fn => rfl
  have hread : ∀ word, (encryptReader tcl).index word =
      (getIndexFromObj (commandOpts.map Prod.fst) "option" word.string).map fun fn =>
        (commandOpts.map Prod.snd).getD fn .padding := fun word => rfl
  fun_induction encryptOptions tcl o words with
  | case1 o => rfl
  | case2 o word hdata =>
      have htail : (encryptReader tcl).tail word o = some { o with dataObj := some word.bytes } :=
        if_pos hdata
      simp only [Reader.read, htail]
      rfl
  | case3 o word hdata =>
      have htail : (encryptReader tcl).tail word o = none := if_neg hdata
      have hword := hread word
      cases hindex : getIndexFromObj (commandOpts.map Prod.fst) "option" word.string with
      | error e =>
          rw [hindex, Except.map] at hword
          simp only [Reader.read, htail, hword]
          rfl
      | ok fn =>
          have hfn := getIndexFromObj_lt hindex
          rw [List.length_map] at hfn
          rw [hindex, Except.map] at hword
          simp only [Reader.read, htail, hword, hflag]
          simp only [encryptReader, text_commandOpts hfn]
          rfl
  | case4 o word value words ih =>
      have hword := hread word
      cases hindex : getIndexFromObj (commandOpts.map Prod.fst) "option" word.string with
      | error e =>
          rw [hindex, Except.map] at hword
          simp only [Reader.read, hword]
          rfl
      | ok fn =>
          rw [hindex, Except.map] at hword
          rw [ok_bind]
          cases hset : setCommandOpt tcl o ((commandOpts.map Prod.snd).getD fn .padding) value with
          | error e =>
              rw [Reader.read_of_refused hword (hflag _) hset]
              rfl
          | ok o' =>
              rw [Reader.read_of_assigned hword (hflag _) hset, ok_bind]
              exact ih o'

/-! ### The last value wins -/

/-- The data: of the option, or the last word. -/
def givenData : Setting CommandOpt Obj → Option (Option Bytes)
  | .value fn value => if fn = .data then some (some value.bytes) else none
  | .tail word => some (some word.bytes)
  | .flag _ => none

/-- The variables after some settings: of each option the last value. -/
def MainOptions.chosen (o : MainOptions) (ss : List (Setting CommandOpt Obj)) : MainOptions where
  channel := lastOf ss (valueOf [.chan, .channel] fun value => some value.string) o.channel
  cipherObj := lastOf ss (valueOf [.cipher] fun value => some value.string) o.cipherObj
  cmdObj := lastOf ss (valueOf [.command] fun value => some value.string) o.cmdObj
  dataObj := lastOf ss givenData o.dataObj
  inFileObj := lastOf ss (valueOf [.infile, .filename] fun value => some value.string) o.inFileObj
  outFileObj := lastOf ss (valueOf [.outfile] fun value => some value.string) o.outFileObj
  keyObj := lastOf ss (valueOf [.key] fun value => some value.bytes) o.keyObj
  ivObj := lastOf ss (valueOf [.iv] fun value => some value.bytes) o.ivObj
  padding :=
    lastOf ss (valueOf [.padding] fun value => (tcl.getBoolean value.string).getD true) o.padding

/-- The words that the option loop reads, and the variables before it. -/
def encryptWords : List Obj → List Obj × MainOptions
  | _ :: word :: words =>
      if word.dashed then (word :: words, {}) else (words, { cipherObj := some word.string })
  | _ => ([], {})

/-- The variables that the words of a call come to. -/
def encryptVars (objv : List Obj) : MainOptions :=
  (encryptWords objv).2.chosen tcl
    ((encryptReader tcl).made (encryptWords objv).1 (encryptWords objv).2)

section Last

variable {tcl} {o o' : MainOptions}

/-- What one setting does. -/
theorem encryptReader_does {s : Setting CommandOpt Obj} (h : (encryptReader tcl).Does s o o') :
    o' = o.chosen tcl [s] := by
  cases h with
  | flag hflag o => cases hflag
  | @value fn value o o' hflag hassign =>
      have hset : setCommandOpt tcl o fn value = .ok o' := hassign
      cases fn <;> simp only [setCommandOpt] at hset
      case padding =>
        cases hbool : tcl.getBoolean value.string with
        | none => simp [hbool] at hset
        | some padding =>
            simp only [hbool, Except.ok.injEq] at hset
            have hpadding : (tcl.getBoolean value.string).getD true = padding := by rw [hbool]; rfl
            rw [← hset, ← hpadding]
            rfl
      all_goals
        rw [← Except.ok.inj hset]
        rfl
  | @tail word o o' htail =>
      have hword : (if ¬ word.dashed ∧ o.dataObj.isNone then
        some { o with dataObj := some word.bytes } else none) = some o' := htail
      split at hword
      · rw [← Option.some.inj hword]
        rfl
      · contradiction

theorem encryptSteps_last {β : Type} (field : MainOptions → β) {ss : List (Setting CommandOpt Obj)}
    {gives : Setting CommandOpt Obj → Option β} (h : (encryptReader tcl).Steps ss o o')
    (hfield : ∀ o s, field (MainOptions.chosen tcl o [s]) = lastOf [s] gives (field o)) :
    field o' = lastOf ss gives (field o) := by
  refine h.last fun s r r' hdoes => ?_
  rw [encryptReader_does hdoes, hfield, lastOf_singleton]

/-- **All settings**: of each option the last value counts. -/
theorem MainOptions.eq_chosen {ss : List (Setting CommandOpt Obj)}
    (h : (encryptReader tcl).Steps ss o o') : o' = o.chosen tcl ss := by
  apply MainOptions.ext
  case channel => exact encryptSteps_last MainOptions.channel h fun v s => rfl
  case cipherObj => exact encryptSteps_last MainOptions.cipherObj h fun v s => rfl
  case cmdObj => exact encryptSteps_last MainOptions.cmdObj h fun v s => rfl
  case dataObj => exact encryptSteps_last MainOptions.dataObj h fun v s => rfl
  case inFileObj => exact encryptSteps_last MainOptions.inFileObj h fun v s => rfl
  case outFileObj => exact encryptSteps_last MainOptions.outFileObj h fun v s => rfl
  case keyObj => exact encryptSteps_last MainOptions.keyObj h fun v s => rfl
  case ivObj => exact encryptSteps_last MainOptions.ivObj h fun v s => rfl
  case padding => exact encryptSteps_last MainOptions.padding h fun v s => rfl

theorem encryptArguments_eq_ok {objv : List Obj} (h : encryptArguments tcl objv = .ok o) :
    o = encryptVars tcl objv := by
  have hread : ∀ {words : List Obj} {o₀ : MainOptions}, encryptOptions tcl o₀ words = .ok o →
      o = o₀.chosen tcl ((encryptReader tcl).made words o₀) := by
    intro words o₀ hwords
    rw [encryptOptions_eq_read] at hwords
    cases hread : (encryptReader tcl).read words o₀ with
    | error e =>
        rw [hread] at hwords
        contradiction
    | ok o' =>
        rw [hread] at hwords
        rw [← Except.ok.inj hwords]
        exact MainOptions.eq_chosen (Reader.steps_of_read hread)
  unfold encryptArguments at h
  split at h
  · contradiction
  next hlength =>
    match objv with
    | [] => exact absurd (.inl (by decide)) hlength
    | [_] => exact absurd (.inl (by simp)) hlength
    | _ :: word :: words =>
        simp only [List.tail_cons] at h
        unfold encryptVars encryptWords
        by_cases hword : word.dashed
        · simp only [if_pos hword] at h ⊢
          exact hread h
        · simp only [if_neg hword] at h ⊢
          exact hread h

end Last

/-! ## Calls -/

/-- A call of `tls::encrypt` or `tls::decrypt`, and how the data goes then. -/
structure EncryptCall where
  type : Operation
  objv : List Obj
  env : EncryptEnv
  route : Route

/-- The variables of a call: of each option the last value. -/
def EncryptCall.vars (c : EncryptCall) : MainOptions := encryptVars c.env.tcl c.objv

/-- What is passed to `EncryptInitialize`. -/
def MainOptions.cipherOptions (v : MainOptions) : CipherOptions where
  cipherObj := v.cipherObj
  keyObj := v.keyObj
  ivObj := v.ivObj
  padding := v.padding

/-- The options choose the route: files before a channel, that before a command, and data
only where there is nothing else. -/
def MainOptions.Leads (env : EncryptEnv) (v : MainOptions) (d : Bytes) : Route → Prop
  | .file files =>
      ∃ inFile outFile, v.inFileObj = some inFile ∧ v.outFileObj = some outFile ∧
        env.files inFile outFile = files
  | .written _ | .read _ _ =>
      (v.inFileObj = none ∨ v.outFileObj = none) ∧
        ∃ name, v.channel = some name ∧ env.getChannel name = .ok ()
  | .path (.pieces _ _) =>
      (v.inFileObj = none ∨ v.outFileObj = none) ∧ v.channel = none ∧ v.cmdObj.isSome
  | .path .data =>
      (v.inFileObj = none ∨ v.outFileObj = none) ∧ v.channel = none ∧ v.cmdObj = none ∧
        v.dataObj = some d

variable {σ : Type} (lib : CipherLibrary σ)

/-- The arguments are accepted and ask for a conversion with these options, there is a key, and
the route carries all of `d`. -/
structure EncryptCall.Asks (c : EncryptCall) (o : CipherOptions) (d : Bytes) : Prop where
  accepted : ∃ v, encryptArguments c.env.tcl c.objv = .ok v
  options : c.vars.cipherOptions = o
  key : o.keyObj.isSome
  leads : c.vars.Leads c.env d c.route
  fits : c.route.Fits lib c.type o d

/-- The call succeeds, and `out` is what comes of it: the result, the result of the new command,
what is read from the channel, what its parent gets, or the output file. -/
def EncryptCall.Gives (c : EncryptCall) (out : List UInt8) : Prop :=
  match c.route with
  | .path .data => encryptMain lib c.env c.type c.objv = some (.ok (.data out), none)
  | .path (.pieces cmd cut) =>
      ∃ name ctx, encryptMain lib c.env c.type c.objv = some (.ok (.command name ctx), none) ∧
        callInstance (encryptInstanceObjCmd lib) cmd (some ctx)
          (cut.map .update ++ [.finalize]) = .ok out
  | .written chunks =>
      ∃ st, encryptMain lib c.env c.type c.objv = some (.ok (.channel st), none) ∧
        (∃ st', FlushedAll lib st chunks st') ∧ ∀ st', FlushedAll lib st chunks st' →
          (∃ last, encryptFinalize lib st'.ctx = .ok last) ∧ (encryptCloseProc lib st').parent = out
  | .read before after =>
      ∃ st, encryptMain lib c.env c.type c.objv = some (.ok (.channel st), none) ∧
        ReadSideAgrees lib st (before ++ after) out ∧
        ∀ r ∈ (reads (encryptInputProc lib) st (before ++ after)).1, r.result.2 ≠ Errno.einval
  | .file _ => ∃ total, encryptMain lib c.env c.type c.objv = some (.ok (.size total), some out)

section Calls

variable {lib} {o : CipherOptions} {d : Bytes} {out : List UInt8}

/-- With a key and both files `EncryptMain` comes to the handler for files. -/
theorem encryptMain_eq_files {env : EncryptEnv} {type : Operation} {objv : List Obj}
    {v : MainOptions} {inFile outFile : String}
    (hargs : encryptArguments env.tcl objv = .ok v) (hkey : v.keyObj.isSome)
    (hin : v.inFileObj = some inFile) (hout : v.outFileObj = some outFile) :
    encryptMain lib env type objv = encryptFiles lib env type v inFile outFile := by
  have hthere : v.keyObj.isNone = false := by rw [← Option.not_isSome, hkey]; rfl
  simp [encryptMain, hargs, hthere, hin, hout]

/-- With a key and not both files it comes to one of the others. -/
theorem encryptMain_eq_noFiles {env : EncryptEnv} {type : Operation} {objv : List Obj}
    {v : MainOptions} (hargs : encryptArguments env.tcl objv = .ok v) (hkey : v.keyObj.isSome)
    (hfiles : v.inFileObj = none ∨ v.outFileObj = none) :
    encryptMain lib env type objv = some (encryptNoFiles lib env type v, none) := by
  have hthere : v.keyObj.isNone = false := by rw [← Option.not_isSome, hkey]; rfl
  rcases hfiles with hin | hout
  · simp [encryptMain, hargs, hthere, hin]
  · cases hin : v.inFileObj <;> simp [encryptMain, hargs, hthere, hin, hout]

section Handlers

variable {env : EncryptEnv} {type : Operation} {v : MainOptions}

/-- A call that names a channel puts a layer on it. -/
theorem encryptNoFiles_channel {name : String} {st : EncryptState σ}
    (hname : v.channel = some name) (hopen : env.getChannel name = .ok ()) :
    encryptNoFiles lib env type v = .ok (.channel st) ↔
      v.cipherOptions.channelHandler lib type = .ok st := by
  simp only [encryptNoFiles, hname, hopen, CipherOptions.channelHandler, MainOptions.cipherOptions]
  cases encryptChannelHandler lib type v.cipherObj v.keyObj v.ivObj v.padding with
  | error e => simp [bind, Except.bind, Except.mapError]
  | ok st' => simp [bind, Except.bind, Except.mapError, pure, Except.pure]

/-- A call that names a command creates it, with the context that the options make. -/
theorem encryptNoFiles_command {cmd : String} {name : String} {ctx : σ}
    (hchannel : v.channel = none) (hcmd : v.cmdObj = some cmd) :
    encryptNoFiles lib env type v = .ok (.command name ctx) ↔
      name = cmd ∧ encryptCommandHandler lib type v.cipherOptions = .ok ctx := by
  simp only [encryptNoFiles, hchannel, hcmd, MainOptions.cipherOptions]
  cases encryptCommandHandler lib type ⟨v.cipherObj, v.keyObj, v.ivObj, v.padding⟩ with
  | error e => simp [bind, Except.bind, Except.mapError]
  | ok ctx' => simp [bind, Except.bind, Except.mapError, pure, Except.pure, eq_comm]

/-- A call with nothing but data returns what comes of it. -/
theorem encryptNoFiles_data (hchannel : v.channel = none) (hcmd : v.cmdObj = none)
    (hdata : v.dataObj = some d) :
    encryptNoFiles lib env type v = .ok (.data out) ↔
      v.cipherOptions.dataHandler lib type d = .ok out := by
  simp only [encryptNoFiles, hchannel, hcmd, hdata, CipherOptions.dataHandler,
    MainOptions.cipherOptions]
  cases encryptDataHandler lib type (some d) v.cipherObj v.keyObj v.ivObj v.padding with
  | error e => simp [bind, Except.bind, Except.mapError]
  | ok out' => simp [bind, Except.bind, Except.mapError, pure, Except.pure]

/-- A call with both files returns the size of what it has written. -/
theorem encryptFiles_eq_some {inFile outFile : String} {total : Int} :
    encryptFiles lib env type v inFile outFile = some (.ok (.size total), some out) ↔
      v.cipherOptions.fileHandler lib type (env.files inFile outFile) =
        some (.ok total, some out) := by
  rw [encryptFiles, CipherOptions.fileHandler]
  unfold MainOptions.cipherOptions
  rcases encryptFileHandler lib type (env.files inFile outFile) v.cipherObj v.keyObj v.ivObj
    v.padding with _ | ⟨⟨stop⟩ | ⟨total'⟩, file⟩
  · simp
  · simp [Except.mapError, Except.map]
  · simp [Except.mapError, Except.map]

end Handlers

/-- **Each way** comes to what the context makes of the data in one session. -/
theorem EncryptCall.gives_iff {c : EncryptCall} (hc : c.Asks lib o d) :
    c.Gives lib out ↔ o.Converts lib c.type d out := by
  obtain ⟨⟨v, hargs⟩, rfl, hkey, hleads, hfits⟩ := hc
  have hvars : c.vars = v := (encryptArguments_eq_ok hargs).symm
  rw [hvars] at hkey hleads hfits ⊢
  rw [← Route.gives_iff hfits]
  unfold Gives
  cases hroute : c.route with
  | path path =>
      rw [hroute] at hleads
      cases path with
      | data =>
          obtain ⟨hfiles, hchannel, hcmd, hdata⟩ := hleads
          show encryptMain lib c.env c.type c.objv = some (.ok (.data out), none) ↔
            v.cipherOptions.dataHandler lib c.type d = .ok out
          rw [encryptMain_eq_noFiles hargs hkey hfiles, Option.some.injEq, Prod.mk.injEq,
            and_iff_left rfl, encryptNoFiles_data hchannel hcmd hdata]
      | pieces cmd cut =>
          obtain ⟨hfiles, hchannel, hcmd⟩ := hleads
          obtain ⟨name, hname⟩ := Option.isSome_iff_exists.mp hcmd
          show _ ↔ encryptByPieces lib cmd c.type v.cipherOptions cut = .ok out
          simp only [encryptMain_eq_noFiles hargs hkey hfiles, Option.some.injEq, Prod.mk.injEq,
            and_true, encryptNoFiles_command hchannel hname, encryptByPieces, bind_eq_ok_iff,
            mapError_eq_ok_iff, and_assoc, exists_and_left, exists_eq_left]
  | written chunks =>
      rw [hroute] at hleads
      obtain ⟨hfiles, name, hname, hopen⟩ := hleads
      refine exists_congr fun st => and_congr_left' ?_
      rw [encryptMain_eq_noFiles hargs hkey hfiles, Option.some.injEq, Prod.mk.injEq,
        and_iff_left rfl, encryptNoFiles_channel hname hopen]
  | read before after =>
      rw [hroute] at hleads
      obtain ⟨hfiles, name, hname, hopen⟩ := hleads
      refine exists_congr fun st => and_congr_left' ?_
      rw [encryptMain_eq_noFiles hargs hkey hfiles, Option.some.injEq, Prod.mk.injEq,
        and_iff_left rfl, encryptNoFiles_channel hname hopen]
  | file files =>
      rw [hroute] at hleads
      obtain ⟨inFile, outFile, hin, hout, rfl⟩ := hleads
      refine exists_congr fun total => ?_
      rw [encryptMain_eq_files hargs hkey hin hout, encryptFiles_eq_some]

/-- **All calls agree** that ask for the same: the words and the way of the data make no
difference. -/
theorem EncryptCall.agree {c c' : EncryptCall} (htype : c.type = c'.type) (hc : c.Asks lib o d)
    (hc' : c'.Asks lib o d) : c.Gives lib out ↔ c'.Gives lib out := by
  rw [gives_iff hc, gives_iff hc', htype]

/-- The null cipher with an empty key. -/
def emptyKey : CipherOptions := { nullOptions with keyObj := some (Obj.word "").bytes }

/-- `tls::encrypt NULL -key {} -channel sock`, and two writes -/
def nullWritten : EncryptCall where
  type := .encrypt
  objv := [.word "tls::encrypt", .word "NULL", .word "-key", .word "", .word "-channel",
    .word "sock"]
  env := anyFiles
  route := .written [[1, 2], [3]]

/-- `tls::decrypt -command c -key {} -cipher NULL -command d`, and two pieces for the command -/
def nullByCommand : EncryptCall where
  type := .decrypt
  objv := [.word "tls::decrypt", .word "-command", .word "c", .word "-key", .word "",
    .word "-cipher", .word "NULL", .word "-command", .word "d"]
  env := anyFiles
  route := .path (.pieces (.word "d") [⟨[1], by decide⟩, ⟨[2, 3], by decide⟩])

end Calls

end TclTls
