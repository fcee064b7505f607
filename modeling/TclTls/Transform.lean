import Mathlib.Data.List.Forall2
import TclTls.Cipher

/-!
# TclTls.Transform

What the digest and the encryption transformations share: the answers their
parent channel gives to a read, the calls the generic layer makes of them, and
the arguments of the commands that `-command` creates.
-/

namespace TclTls

/-! ## Reading from the parent -/

/-- What `Tcl_ReadRaw` gives for a buffer of `toRead` bytes: some bytes, nothing
at the end of file, or -1 with an error code. -/
inductive RawRead (toRead : Int) where
  | data (bytes : List UInt8) (nonempty : bytes ≠ []) (bounded : bytes.length ≤ toRead)
  | eof
  | error (errno : Errno) (nonzero : errno ≠ 0)

/-- The bytes that were read. -/
def RawRead.bytes {toRead : Int} : RawRead toRead → List UInt8
  | .data bytes _ _ => bytes
  | .eof | .error _ _ => []

/-- The parent has nothing to say yet. -/
def RawRead.again {toRead : Int} : RawRead toRead :=
  .error Errno.eagain (by decide)

/-- A call of the generic layer to the input procedure, with what the parent
answers during it.  The size of the buffer is an `int`. -/
structure ReadCall where
  toRead : Int
  isInt : toRead < 2 ^ 31
  answer : RawRead toRead

/-- What an input procedure does: the value it returns with `*errorCodePtr`, the
bytes it has put into the buffer, and whether it ran the final function of the
library. -/
structure ReadReply where
  result : Int × Errno
  placed : List UInt8 := []
  finalized : Bool := false

/-- The caller is told to try again. -/
def ReadReply.again (r : ReadReply) : Prop := r.result = (-1, Errno.eagain)

instance (r : ReadReply) : Decidable r.again := inferInstanceAs (Decidable (_ = _))

/-- The call has kept to the buffer it was given. -/
structure ReadReply.Fits (call : ReadCall) (r : ReadReply) : Prop where
  placed : r.placed.length ≤ call.toRead
  result : r.result.1 ≤ call.toRead

/-- What the generic layer takes out of the buffer. -/
def ReadReply.returned (r : ReadReply) : List UInt8 := r.placed.take r.result.1.toNat

/-- What the reader gets from a run of calls: those that have to be tried again
give it nothing. -/
def received (replies : List ReadReply) : List UInt8 :=
  ((replies.filter fun r => ¬ r.again).map ReadReply.returned).flatten

@[simp] theorem received_nil : received [] = [] := rfl

theorem received_cons (r : ReadReply) (rs : List ReadReply) :
    received (r :: rs) = (if r.again then [] else r.returned) ++ received rs := by
  by_cases h : r.again <;> simp [received, h]

theorem received_append (rs rs' : List ReadReply) :
    received (rs ++ rs') = received rs ++ received rs' := by
  simp [received]

/-- Calls that return 0 give the reader nothing. -/
theorem received_eq_nil {rs : List ReadReply} (h : ∀ r ∈ rs, r.result.1 = 0) : received rs = [] := by
  induction rs with
  | nil => rfl
  | cons r rs ih =>
      have hzero := h r List.mem_cons_self
      rw [received_cons, ih fun r' hr' => h r' (List.mem_cons_of_mem _ hr'), ReadReply.returned, hzero]
      simp

/-- Calls that have to be tried again give the reader nothing. -/
theorem received_of_again {rs : List ReadReply} (h : ∀ r ∈ rs, r.again) : received rs = [] := by
  induction rs with
  | nil => rfl
  | cons r rs ih =>
      rw [received_cons, if_pos (h r List.mem_cons_self),
        ih fun r' hr' => h r' (List.mem_cons_of_mem _ hr'), List.nil_append]

/-- The parent has nothing but data, perhaps after some waiting. -/
def Delivers (calls : List ReadCall) (d : List UInt8) : Prop :=
  (∀ call ∈ calls, 0 < call.toRead ∧ (call.answer.bytes ≠ [] ∨ call.answer = .again)) ∧
    (calls.map (·.answer.bytes)).flatten = d

theorem Delivers.cons {call : ReadCall} {calls : List ReadCall} {d : List UInt8}
    (h : Delivers (call :: calls) d) :
    ∃ rest, d = call.answer.bytes ++ rest ∧ Delivers calls rest := by
  obtain ⟨hcalls, hd⟩ := h
  rw [List.map_cons, List.flatten_cons] at hd
  exact ⟨_, hd.symm, fun c hc => hcalls c (List.mem_cons_of_mem _ hc), rfl⟩

/-- The parent is at its end of file. -/
def AtEof (call : ReadCall) : Prop := 0 < call.toRead ∧ call.answer = .eof

/-- A call at the end of file. -/
def eofCall : ReadCall := ⟨4096, by decide, .eof⟩

/-- One call after the other. -/
def reads {τ : Type} (inputProc : τ → ReadCall → ReadReply × τ) :
    τ → List ReadCall → List ReadReply × τ
  | st, [] => ([], st)
  | st, call :: calls =>
      let r := inputProc st call
      let rest := reads inputProc r.2 calls
      (r.1 :: rest.1, rest.2)

theorem reads_append {τ : Type} (inputProc : τ → ReadCall → ReadReply × τ) (st : τ)
    (calls calls' : List ReadCall) :
    reads inputProc st (calls ++ calls') =
      ((reads inputProc st calls).1 ++ (reads inputProc (reads inputProc st calls).2 calls').1,
        (reads inputProc (reads inputProc st calls).2 calls').2) := by
  induction calls generalizing st with
  | nil => rfl
  | cons call calls ih => simp only [List.cons_append, reads, ih]

/-- One of the calls runs the final function; those after it return 0. -/
def FinalizedOnce (replies : List ReadReply) : Prop :=
  ∃ before last after, replies = before ++ last :: after ∧
    (∀ r ∈ before, r.finalized = false) ∧ last.finalized = true ∧
    ∀ r ∈ after, r.finalized = false ∧ r.result = (0, 0)

/-- The reader receives `out`; the final function is run once, by one of the calls,
and those after it return 0, as does closing the channel without another one. -/
structure ReadsOnce {τ : Type} (inputProc : τ → ReadCall → ReadReply × τ) (closeProc : τ → τ)
    (st : τ) (calls : List ReadCall) (out : List UInt8) : Prop where
  received : received (reads inputProc st calls).1 = out
  finalizedOnce : FinalizedOnce (reads inputProc st calls).1
  close : closeProc (reads inputProc st calls).2 = (reads inputProc st calls).2

section Reads

variable {τ : Type} {inputProc : τ → ReadCall → ReadReply × τ}

/-- A state that stays as it is gives the same reply every time. -/
theorem reads_of_stuck {st : τ} {reply : ReadReply} {calls : List ReadCall}
    (h : ∀ call ∈ calls, inputProc st call = (reply, st)) :
    (reads inputProc st calls).2 = st ∧ ∀ r ∈ (reads inputProc st calls).1, r = reply := by
  induction calls with
  | nil => exact ⟨rfl, nofun⟩
  | cons call calls ih =>
      obtain ⟨hst, hreplies⟩ := ih fun c hc => h c (List.mem_cons_of_mem _ hc)
      simp only [reads, h call List.mem_cons_self]
      exact ⟨hst, List.forall_mem_cons.mpr ⟨rfl, hreplies⟩⟩

/-- The reply of the call that finalizes. -/
def ReadReply.last (out : List UInt8) : ReadReply where
  result := (out.length, 0)
  placed := out
  finalized := true

/-- A run that ends as it should: `call` finalizes, and `after` has nothing more to
say. -/
theorem reads_eq_of_eof {st st' : τ} {before after : List ReadCall} {call : ReadCall}
    {out : List UInt8} (hcall : inputProc (reads inputProc st before).2 call = (.last out, st'))
    (hafter : ∀ c ∈ after, inputProc st' c = ({ result := (0, 0) }, st')) :
    reads inputProc st (before ++ call :: after) =
      ((reads inputProc st before).1 ++ .last out :: (reads inputProc st' after).1, st') := by
  rw [reads_append]
  simp only [reads, hcall, (reads_of_stuck hafter).1]

theorem readsOnce_of_eof {closeProc : τ → τ} {st st' : τ} {before after : List ReadCall}
    {call : ReadCall} {out : List UInt8}
    (hbefore : ∀ r ∈ (reads inputProc st before).1, r.finalized = false)
    (hcall : inputProc (reads inputProc st before).2 call = (.last out, st'))
    (hafter : ∀ c ∈ after, inputProc st' c = ({ result := (0, 0) }, st'))
    (hclose : closeProc st' = st') :
    ReadsOnce inputProc closeProc st (before ++ call :: after)
      (TclTls.received (reads inputProc st before).1 ++ out) := by
  obtain ⟨-, hreplies⟩ := reads_of_stuck hafter
  have hzero : ∀ r ∈ (reads inputProc st' after).1, r.result.1 = 0 := by
    intro r hr
    rw [hreplies r hr]
  refine ⟨?_, ?_, ?_⟩
  all_goals rw [reads_eq_of_eof hcall hafter]
  · rw [received_append, received_cons, received_eq_nil hzero]
    simp [ReadReply.again, ReadReply.returned, ReadReply.last]
  · refine ⟨_, _, _, rfl, hbefore, rfl, fun r hr => ?_⟩
    rw [hreplies r hr]
    exact ⟨rfl, rfl⟩
  · exact hclose

/-- Such a run keeps to its buffers if it does up to the end of file and what comes
there fits. -/
theorem reads_fit_of_eof {st st' : τ} {before after : List ReadCall} {call : ReadCall}
    {out : List UInt8} (hbefore : List.Forall₂ ReadReply.Fits before (reads inputProc st before).1)
    (hcall : inputProc (reads inputProc st before).2 call = (.last out, st'))
    (hafter : ∀ c ∈ after, 0 ≤ c.toRead ∧ inputProc st' c = ({ result := (0, 0) }, st'))
    (hout : out.length ≤ call.toRead) :
    List.Forall₂ ReadReply.Fits (before ++ call :: after)
      (reads inputProc st (before ++ call :: after)).1 := by
  rw [reads_eq_of_eof hcall fun c hc => (hafter c hc).2]
  refine List.rel_append hbefore (.cons ⟨hout, hout⟩ ?_)
  induction after with
  | nil => exact .nil
  | cons c after ih =>
      obtain ⟨hsize, hc⟩ := hafter c List.mem_cons_self
      simp only [reads, hc]
      exact .cons ⟨hsize, hsize⟩ (ih fun c' hc' => hafter c' (List.mem_cons_of_mem _ hc'))

end Reads

/-! ## Arguments of instance commands -/

/-- A length that an `int` can hold. -/
def Short (d : Bytes) : Prop := d.data.length < 2 ^ 31

/-- An argument of a command: its string and its bytes. -/
structure Obj where
  string : String
  bytes : Bytes

/-- The entries behind the first ones of a list that ends with "or". -/
def listedEntries : List String → String
  | [] => ""
  | [entry] => "or " ++ entry
  | entry :: entries => entry ++ ", " ++ listedEntries entries

/-- The entries of a table, as an error message lists them. -/
def oneOfEntries : List String → String
  | [entry] => entry
  | [entry, entry'] => entry ++ " or " ++ entry'
  | entries => listedEntries entries

/-- `Tcl_GetIndexFromObj`: an exact match, or else the only entry that the word
is an abbreviation of. -/
def getIndexFromObj (table : List String) (msg word : String) : Except TclError Nat :=
  match table.findIdx? (· == word) with
  | some n => .ok n
  | none =>
      let matching := table.zipIdx.filter fun (entry, _) => word.isPrefixOf entry
      match matching, word.isEmpty with
      | [(_, n)], false => .ok n
      | _, _ =>
          let kind := if 1 < matching.length then "ambiguous " else "bad "
          .error ⟨kind ++ msg ++ " \"" ++ word ++ "\": must be " ++ oneOfEntries table,
            ["TCL", "LOOKUP", "INDEX", msg, word]⟩

/-- The functions of an instance command. -/
def instanceFns : List String := ["finalize", "update"]

/-- What an instance command is asked for. -/
inductive InstanceCall where
  | finalize
  | update (data : Bytes)

/-- The argument check of `DigestInstanceObjCmd` and `EncryptInstanceObjCmd`. -/
def instanceArguments (objv : List Obj) : Except TclError InstanceCall :=
  let name := (objv.head?.map Obj.string).getD ""
  if objv.length < 2 ∨ 3 < objv.length then .error (.wrongArgs (name ++ " function ?data?"))
  else
    match getIndexFromObj instanceFns "function" ((objv[1]?.map Obj.string).getD "") with
    | .error e => .error e
    | .ok fn =>
        if fn = 0 then .ok .finalize
        else
          match objv[2]? with
          | some data => .ok (.update data.bytes)
          | none => .error (.wrongArgs (name ++ " update data"))

/-- The words of a call. -/
def InstanceCall.words (cmd : Obj) : InstanceCall → List Obj
  | .finalize => [cmd, ⟨"finalize", ⟨[], by decide⟩⟩]
  | .update data => [cmd, ⟨"update", ⟨[], by decide⟩⟩, ⟨"", data⟩]

@[simp] theorem instanceArguments_words (cmd : Obj) (c : InstanceCall) :
    instanceArguments (c.words cmd) = .ok c := by
  cases c <;> rfl

/-- A script that calls the command and concatenates the results; it ends with
the first error.  The last call may have deleted the command. -/
def callInstance {τ : Type} (objCmd : τ → List Obj → Except TclError (List UInt8) × Option τ)
    (cmd : Obj) : Option τ → List InstanceCall → Except TclError (List UInt8)
  | _, [] => .ok []
  | none, _ :: _ => .error ⟨"invalid command name \"" ++ cmd.string ++ "\"",
      ["TCL", "LOOKUP", "COMMAND", cmd.string]⟩
  | some st, call :: calls =>
      match objCmd st (call.words cmd) with
      | (.error e, _) => .error e
      | (.ok out, st') => (out ++ ·) <$> callInstance objCmd cmd st' calls

end TclTls
