import TclTls.Import.Options
import TclTls.Resource.Slots

/-!
# TclTls.MiscReq

The information list of `tls::misc req`.

`MiscObjCmd` goes through the list in steps of two.  It keeps the values of the
name fields in seven variables with a reference to each, and gives these
references back when it is done.  A list of odd length is an error, but the loop
runs all the same and takes what follows the last word for its value; and a name
that occurs again replaces the object of its first occurrence, whose reference
is lost.  `miscReq_safe_iff` says that it does what it should for all other
lists.
-/

namespace TclTls

open Resource

variable (lib : TclLibrary)

/-! ## The loop -/

inductive NameField where
  | C
  | ST
  | L
  | O
  | OU
  | CN
  | Email
deriving DecidableEq, Repr

/-- The variables `k_C` to `k_Email`, in the order of the clean-up. -/
def nameFields : List NameField := [.C, .ST, .L, .O, .OU, .CN, .Email]

theorem mem_nameFields (f : NameField) : f ∈ nameFields := by
  cases f <;> decide

theorem nameFields_nodup : nameFields.Nodup := by decide

/-- What a word of the list says about the next one. -/
inductive ReqParameter where
  | days
  | serial
  | field (f : NameField)
deriving DecidableEq, Repr

def reqParameter : String → Option ReqParameter
  | "days" => some .days
  | "serial" => some .serial
  | "C" => some (.field .C)
  | "ST" => some (.field .ST)
  | "L" => some (.field .L)
  | "O" => some (.field .O)
  | "OU" => some (.field .OU)
  | "CN" => some (.field .CN)
  | "Email" => some (.field .Email)
  | _ => none

/-- `Tcl_IncrRefCount` and `Tcl_DecrRefCount` of the object `listv[i]`. -/
inductive ObjRef where
  | incr (i : Nat)
  | decr (i : Nat)
deriving DecidableEq, Repr

def objRefs : Accounting ObjRef Nat where
  key
    | .incr i | .decr i => i
  effect
    | .incr _ => .acquire
    | .decr _ => .release

/-- The variables of the command; a name field is the index in `listv` of the
object that it points to.  `reads` are the indices at which `listv` is read, and
`error` is the result if `res` is `TCL_ERROR`. -/
structure ReqState where
  days : Int := 365
  serial : Int := 0
  fields : NameField → Option Nat := fun _ => none
  reads : List Nat := []
  refs : List ObjRef := []
  error : Option TclError := none

/-- One turn of the loop, and whether there is a next one. -/
def infoStep (i : Nat) (word value : String) (st : ReqState) : ReqState × Bool :=
  match reqParameter word with
  | some .days =>
      let st := { st with reads := st.reads ++ [i, i + 1] }
      match lib.getInt value with
      | some n => ({ st with days := n }, true)
      | none => ({ st with error := some (lib.badInt value) }, false)
  | some .serial =>
      let st := { st with reads := st.reads ++ [i, i + 1] }
      match lib.getInt value with
      | some n => ({ st with serial := n }, true)
      | none => ({ st with error := some (lib.badInt value) }, false)
  | some (.field f) =>
      ({ st with
        reads := st.reads ++ [i, i + 1]
        fields := Function.update st.fields f (some (i + 1))
        refs := st.refs ++ [.incr (i + 1)] }, true)
  | none =>
      ({ st with reads := st.reads ++ [i], error := some ⟨"Unknown parameter", ["NONE"]⟩ }, false)

/-- The loop from index `i` on.  What comes `beyond` the list in memory is taken
for the value of a last word that has none. -/
def infoLoop (beyond : String) : Nat → List String → ReqState → ReqState
  | _, [], st => st
  | i, [word], st => (infoStep lib i word beyond st).1
  | i, word :: value :: rest, st =>
      match infoStep lib i word value st with
      | (st', true) => infoLoop beyond (i + 2) rest st'
      | (st', false) => st'

/-- The variables when the loop begins: an odd length has been noticed. -/
def ReqState.start (listc : Nat) : ReqState where
  error := if listc % 2 ≠ 0 then
      some ⟨"Information list must have even number of arguments", ["NONE"]⟩
    else none

/-- The loop, and the one that frees the words. -/
def infoList (beyond : String) (listv : List String) : ReqState :=
  let st := infoLoop lib beyond 0 listv (.start listv.length)
  let words := (List.range ((listv.length + 1) / 2)).map (2 * ·)
  { st with
    reads := st.reads ++ words
    refs := st.refs ++ words.flatMap fun i => [.incr i, .decr i] }

/-! ## The command -/

/-- What the certificate is made from. -/
structure ReqCert where
  keysize : Int
  days : Int
  serial : Int
  subject : NameField → Option String

/-- Whether OpenSSL makes the key, the certificate and the signature, and what
follows the list in memory. -/
structure ReqAnswers where
  generateKey : Int → Bool
  newCert : Bool
  sign : ReqCert → Bool
  beyond : String

variable (ans : ReqAnswers)

/-- The arguments: size of the key, and the words of the list. -/
def reqArguments : List String → Except TclError (Int × List String)
  | [_, _, keysize, _, _] =>
      match lib.getInt keysize with
      | some n => .ok (n, [])
      | none => .error (lib.badInt keysize)
  | [_, _, keysize, _, _, info] =>
      match lib.getInt keysize with
      | some n =>
          match lib.listElements info with
          | .ok listv => .ok (n, listv)
          | .error e => .error e
      | none => .error (lib.badInt keysize)
  | objv => .error (.wrongArgs
      (objv.headD "" ++ " " ++ objv.getD 1 "" ++ " keysize keyfile certfile ?info?"))

/-- Key, certificate and signature, each with its exit. -/
def makeCert (cert : ReqCert) : Except TclError ReqCert :=
  if !ans.generateKey cert.keysize then .error ⟨"Error generating private key", ["NONE"]⟩
  else if !ans.newCert then .error ⟨"Error generating certificate request", ["NONE"]⟩
  else if !ans.sign cert then .error ⟨"Error signing certificate", ["NONE"]⟩
  else .ok cert

/-- The references after the label `done`. -/
def ReqState.done (st : ReqState) : List ObjRef :=
  st.refs ++ (nameFields.filterMap st.fields).map .decr

structure ReqRun where
  result : Except TclError ReqCert
  reads : List Nat := []
  refs : List ObjRef := []

/-- `MiscObjCmd` for `req` and `strreq`. -/
def miscReq (objv : List String) : ReqRun :=
  match reqArguments lib objv with
  | .error e => { result := .error e }
  | .ok (keysize, listv) =>
      let st := infoList lib ans.beyond listv
      { result := match st.error with
          | some e => .error e
          | none => makeCert ans
              { keysize, days := st.days, serial := st.serial,
                subject := fun f => (st.fields f).map fun i => listv[i]?.getD ans.beyond }
        reads := st.reads
        refs := st.done }

/-! ## What is expected -/

/-- The words of the information list. -/
def reqList (objv : List String) : List String :=
  match reqArguments lib objv with
  | .error _ => []
  | .ok (_, listv) => listv

/-- The list is read within its bounds, an odd length is an error, and every
reference is given back. -/
structure ReqRun.Safe (run : ReqRun) (listv : List String) : Prop where
  inBounds : ∀ i ∈ run.reads, i < listv.length
  odd : listv.length % 2 = 1 → ∃ e, run.result = .error e
  balanced : ∀ i, objRefs.count i run.refs = 0

/-- The loop goes on after such a pair. -/
def acceptsPair (word value : String) : Bool :=
  match reqParameter word with
  | some .days | some .serial => (lib.getInt value).isSome
  | some (.field _) => true
  | none => false

/-- The loop gets to a last word that asks for a value. -/
def overruns : List String → Bool
  | [] => false
  | [word] => (reqParameter word).isSome
  | word :: value :: rest => acceptsPair lib word value && overruns rest

/-- The name field of a word. -/
def fieldOf (word : String) : Option NameField :=
  match reqParameter word with
  | some (.field f) => some f
  | _ => none

/-- The fields that get a value from index `i` on, with the index of it. -/
def assignments : Nat → List String → List (NameField × Nat)
  | _, [] => []
  | i, [word] => (fieldOf word).toList.map fun f => (f, i + 1)
  | i, word :: value :: rest =>
      ((fieldOf word).toList.map fun f => (f, i + 1)) ++
        if acceptsPair lib word value then assignments (i + 2) rest else []

/-! ## One turn -/

section Turn

variable {i : Nat} {word value : String} {st : ReqState}

@[simp] theorem infoStep_continues :
    (infoStep lib i word value st).2 = acceptsPair lib word value := by
  unfold infoStep acceptsPair
  rcases reqParameter word with - | - | - | f
  · rfl
  · cases lib.getInt value <;> rfl
  · cases lib.getInt value <;> rfl
  · rfl

theorem infoStep_reads : (infoStep lib i word value st).1.reads =
    st.reads ++ i :: if (reqParameter word).isSome then [i + 1] else [] := by
  unfold infoStep
  rcases reqParameter word with - | - | - | f
  · rfl
  · cases lib.getInt value <;> rfl
  · cases lib.getInt value <;> rfl
  · rfl

/-- The assignments, as they show in the variables and in the references. -/
theorem infoStep_fields {as : List (NameField × Nat)} (h : st.fields = held as) :
    (infoStep lib i word value st).1.fields =
      held (as ++ (fieldOf word).toList.map fun f => (f, i + 1)) := by
  unfold infoStep fieldOf
  rcases reqParameter word with - | - | - | f
  · simpa using h
  · cases lib.getInt value <;> simpa using h
  · cases lib.getInt value <;> simpa using h
  · simp [h]

theorem infoStep_refs : (infoStep lib i word value st).1.refs =
    st.refs ++ ((fieldOf word).toList.map fun f => (f, i + 1)).map fun a => .incr a.2 := by
  unfold infoStep fieldOf
  rcases reqParameter word with - | - | - | f
  · simp
  · cases lib.getInt value <;> simp
  · cases lib.getInt value <;> simp
  · simp

theorem infoStep_error (h : st.error.isSome) : (infoStep lib i word value st).1.error.isSome := by
  unfold infoStep
  rcases reqParameter word with - | - | - | f
  · rfl
  · cases lib.getInt value <;> simp [h]
  · cases lib.getInt value <;> simp [h]
  · exact h

end Turn

/-! ## The whole list -/

section Loop

variable (beyond : String)

theorem infoLoop_cons (i : Nat) (word value : String) (rest : List String) (st : ReqState) :
    infoLoop lib beyond i (word :: value :: rest) st =
      if acceptsPair lib word value then
        infoLoop lib beyond (i + 2) rest (infoStep lib i word value st).1
      else (infoStep lib i word value st).1 := by
  have hnext : (infoStep lib i word value st).2 = acceptsPair lib word value :=
    infoStep_continues lib
  rw [infoLoop, ← hnext]
  split
  next st' h => rw [h, if_pos rfl]
  next st' h => rw [h, if_neg Bool.false_ne_true]

theorem infoLoop_error (i : Nat) (words : List String) (st : ReqState) (h : st.error.isSome) :
    (infoLoop lib beyond i words st).error.isSome := by
  induction words using overruns.induct generalizing i st with
  | case1 => exact h
  | case2 word => exact infoStep_error lib h
  | case3 word value rest ih =>
      rw [infoLoop_cons]
      split
      · exact ih _ _ (infoStep_error lib h)
      · exact infoStep_error lib h

theorem infoLoop_fields (i : Nat) (words : List String) (st : ReqState)
    (as : List (NameField × Nat)) (h : st.fields = held as) :
    (infoLoop lib beyond i words st).fields = held (as ++ assignments lib i words) := by
  induction words using overruns.induct generalizing i st as with
  | case1 => simpa [infoLoop, assignments] using h
  | case2 word => exact infoStep_fields lib h
  | case3 word value rest ih =>
      rw [infoLoop_cons, assignments]
      split
      · rw [ih _ _ _ (infoStep_fields lib h), List.append_assoc]
      · rw [List.append_nil]
        exact infoStep_fields lib h

theorem infoLoop_refs (i : Nat) (words : List String) (st : ReqState) :
    (infoLoop lib beyond i words st).refs =
      st.refs ++ (assignments lib i words).map fun a => .incr a.2 := by
  induction words using overruns.induct generalizing i st with
  | case1 => simp [infoLoop, assignments]
  | case2 word => exact infoStep_refs lib
  | case3 word value rest ih =>
      rw [infoLoop_cons, assignments, List.map_append, ← List.append_assoc, ← infoStep_refs lib]
      split
      · exact ih _ _
      · simp

/-- The loop stays in the list unless a last word asks for its value. -/
theorem infoLoop_reads_iff (i : Nat) (words : List String) (st : ReqState) :
    (∀ j ∈ (infoLoop lib beyond i words st).reads, j < i + words.length) ↔
      (∀ j ∈ st.reads, j < i + words.length) ∧ overruns lib words = false := by
  induction words using overruns.induct generalizing i st with
  | case1 => simp [infoLoop, overruns]
  | case2 word =>
      rw [infoLoop, infoStep_reads, overruns]
      cases hparameter : (reqParameter word).isSome <;> simp [or_imp, forall_and]
  | case3 word value rest ih =>
      rw [infoLoop_cons, overruns]
      have hstep : (∀ j ∈ (infoStep lib i word value st).1.reads,
          j < i + (word :: value :: rest).length) ↔
            ∀ j ∈ st.reads, j < i + (word :: value :: rest).length := by
        rw [infoStep_reads]
        cases (reqParameter word).isSome <;> simp [or_imp, forall_and]
      cases haccepts : acceptsPair lib word value with
      | false => simpa using hstep
      | true =>
          have hlength : i + 2 + rest.length = i + (word :: value :: rest).length := by
            simp only [List.length_cons]
            omega
          have hih := ih (i + 2) (infoStep lib i word value st).1
          rw [hlength, hstep] at hih
          simpa using hih

theorem infoList_reads_iff (listv : List String) :
    (∀ i ∈ (infoList lib beyond listv).reads, i < listv.length) ↔
      overruns lib listv = false := by
  have hwords : ∀ i ∈ (List.range ((listv.length + 1) / 2)).map (2 * ·), i < listv.length := by
    intro i hi
    obtain ⟨k, hk, rfl⟩ := List.mem_map.mp hi
    rw [List.mem_range] at hk
    omega
  have hloop := infoLoop_reads_iff lib beyond 0 listv
    (.start listv.length)
  rw [Nat.zero_add] at hloop
  rw [infoList, List.forall_mem_append, hloop]
  exact ⟨fun h => h.1.2, fun h => ⟨⟨List.forall_mem_nil _, h⟩, hwords⟩⟩

theorem infoList_error {listv : List String} (hodd : listv.length % 2 = 1) :
    (infoList lib beyond listv).error.isSome := by
  refine infoLoop_error lib beyond 0 listv _ ?_
  simp [ReqState.start, hodd]

/-- Freeing the words leaves their references as they were. -/
theorem count_words (words : List Nat) (i : Nat) :
    objRefs.count i (words.flatMap fun i => [.incr i, .decr i]) = 0 := by
  induction words with
  | nil => rfl
  | cons word words ih =>
      rw [List.flatMap_cons, Accounting.count_append, ih]
      by_cases hi : word = i <;>
        simp [Accounting.count_cons, Accounting.delta, objRefs, Effect.delta, hi]

theorem infoList_balanced_iff (listv : List String) :
    (∀ i, objRefs.count i (infoList lib beyond listv).done = 0) ↔
      ((assignments lib 0 listv).map Prod.fst).Nodup := by
  have hfields := infoLoop_fields lib beyond 0 listv (.start listv.length) [] rfl
  have hrefs := infoLoop_refs lib beyond 0 listv (.start listv.length)
  have hnone : (ReqState.start listv.length).refs = [] := rfl
  rw [List.nil_append] at hfields
  rw [hnone, List.nil_append] at hrefs
  have hreleased : (infoList lib beyond listv).done =
      (((assignments lib 0 listv).map fun a => .incr a.2) ++
        ((List.range ((listv.length + 1) / 2)).map (2 * ·)).flatMap fun i => [.incr i, .decr i]) ++
      (released nameFields (assignments lib 0 listv)).map .decr := by
    rw [ReqState.done, infoList, released, ← hfields, ← hrefs]
  have hcount : ∀ i, objRefs.count i (infoList lib beyond listv).done =
      objRefs.count i (((assignments lib 0 listv).map fun a => ObjRef.incr a.2) ++
        (released nameFields (assignments lib 0 listv)).map .decr) := by
    intro i
    rw [hreleased]
    simp [count_words]
  rw [← released_perm_iff nameFields_nodup fun a _ => mem_nameFields a.1]
  simp only [hcount]
  rw [Accounting.count_eq_zero_iff_perm]
  · simp [List.map_map, Function.comp_def, objRefs]
  · intro e he
    obtain ⟨a, -, rfl⟩ := List.mem_map.mp he
    rfl
  · intro e he
    obtain ⟨i, -, rfl⟩ := List.mem_map.mp he
    rfl

end Loop

/-- **`tls::misc req`** handles its information list properly exactly if the loop
gets to no last word that asks for a value, and to no name field twice. -/
theorem miscReq_safe_iff (objv : List String) :
    (miscReq lib ans objv).Safe (reqList lib objv) ↔
      overruns lib (reqList lib objv) = false ∧
        ((assignments lib 0 (reqList lib objv)).map Prod.fst).Nodup := by
  unfold miscReq reqList
  cases hargs : reqArguments lib objv with
  | error e =>
      refine iff_of_true ⟨?_, ?_, ?_⟩ ⟨rfl, List.nodup_nil⟩ <;> simp
  | ok r =>
      obtain ⟨keysize, listv⟩ := r
      rw [← infoList_reads_iff lib ans.beyond, ← infoList_balanced_iff lib ans.beyond]
      refine ⟨fun h => ⟨h.inBounds, h.balanced⟩, fun h => ⟨h.1, fun hodd => ?_, h.2⟩⟩
      obtain ⟨e, he⟩ := Option.isSome_iff_exists.mp (infoList_error lib ans.beyond hodd)
      exact ⟨e, by simp [he]⟩

/-- OpenSSL makes whatever it is asked for. -/
def willing : ReqAnswers where
  generateKey _ := true
  newCert := true
  sign _ := true
  beyond := ""

/-- The two information lists below. -/
def infoLibrary : TclLibrary :=
  { TclLibrary.plain with
    listElements := fun info => .ok (if info = "C" then ["C"] else ["CN", "a", "CN", "b"]) }

/-- A list whose last word is a name field, and one that names the field twice. -/
theorem miscReq_unsafe :
    ¬ (miscReq infoLibrary willing ["tls::misc", "req", "2048", "key", "cert", "C"]).Safe
        (reqList infoLibrary ["tls::misc", "req", "2048", "key", "cert", "C"]) ∧
      ¬ (miscReq infoLibrary willing ["tls::misc", "req", "2048", "key", "cert", "CN a CN b"]).Safe
        (reqList infoLibrary ["tls::misc", "req", "2048", "key", "cert", "CN a CN b"]) := by
  constructor
  · intro h
    have hread := h.inBounds 1
    revert hread
    decide
  · intro h
    have hcount := h.balanced 1
    revert hcount
    decide

end TclTls
