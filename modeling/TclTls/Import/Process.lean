import TclTls.Channel
import TclTls.Import

/-!
# TclTls.Import.Process

A process that imports and closes TLS channels, and what it does to its
`SSL_CTX` objects on the way.

`tls::import` makes a context with `CTX_Init` or, with `-model`, takes the one
of another channel; the `SSL` object is made from it, `Tls_Clean` gives both up.
`importCalls` and `cleanCalls` list the calls on the context in the order in
which the code makes them.  A `Process` is an interpreter with the history of
these calls, and `Process.run` takes it through any sequence of imports, closes
and driver procedures.

What an import does is told once, by `importObjCmd_effect`: which `State` is
there afterwards, and which calls were made for it.
-/

namespace TclTls

open Interaction

/-! ## Calls on a context -/

/-- The calls that concern an `SSL_CTX`; `modelCtx` is the copy of the model's
pointer, and a callback is registered with the address of a `State`. -/
inductive CtxCall where
  | ctxInit
  | modelCtx
  | sslNew
  | setServername (statePtr : Nat)
  | setClientHello (statePtr : Nat)
  | setAlpnSelect (statePtr : Nat)
  | setSessionCache
  | sslShutdown
  | sslFree
  | sslCtxFree
deriving DecidableEq, Repr

/-- A call on the context `ctx`. -/
structure CtxEvent where
  ctx : Nat
  call : CtxCall
deriving DecidableEq, Repr

/-- Nothing is called on a `NULL` context. -/
def onCtx (ctx : Option Nat) (calls : List CtxCall) : List CtxEvent :=
  match ctx with
  | none => []
  | some x => calls.map fun call => ⟨x, call⟩

/-- The calls of `Tls_Clean`. -/
def cleanCalls (s : State) : List CtxCall :=
  (if s.ssl.isSome then [.sslFree] else []) ++ (if s.ctx.isSome then [.sslCtxFree] else [])

/-- The calls of `TlsCloseProc` before the `State` is freed. -/
def closeCalls (s : State) : List CtxCall :=
  if s.ssl.isSome && !s.flags.init && !s.flags.fatalError then [.sslShutdown] else []

/-- Where the context of an import comes from. -/
def contextCall (o : ImportOptions) : CtxCall :=
  if o.model.isSome then .modelCtx else .ctxInit

/-- What a finished import registers with its context. -/
def registrations (o : ImportOptions) (statePtr : Nat) (protos : Option (List UInt8)) :
    List CtxCall :=
  if o.server then
    [.setServername statePtr, .setClientHello statePtr] ++
      (if protos.isSome then [.setAlpnSelect statePtr] else [])
  else [.setSessionCache]

section Import

variable (lib : TclLibrary) (ans : ImportAnswers)

/-- The calls of an import that has got a context, `s` being its `State`.  Every
error exit is a `Tls_Free`. -/
def layerCalls (statePtr : Nat) (o : ImportOptions) (s : State) : List CtxCall :=
  contextCall o ::
    match ans.stackChannel with
    | .error _ => cleanCalls s
    | .ok () =>
        match ans.sslNew with
        | .error _ => cleanCalls s
        | .ok () => .sslNew ::
            match sslInit lib ans o s with
            | .error _ => cleanCalls { s with ssl := some {} }
            | .ok s => registrations o statePtr s.protos

/-- The calls of `ImportObjCmd`. -/
def importCalls (i : Interp) (objv : List String) : List CtxEvent :=
  match importArguments lib i objv with
  | .error _ => []
  | .ok (chan, o) =>
      match importContext lib ans (i.alloc (newState o)) chan o with
      | .error _ => []
      | .ok (_, ctx) => onCtx ctx (layerCalls lib ans i.newPtr o { newState o with ctx := ctx })

end Import

/-! ## The driver's calls -/

/-- The calls of the driver procedures that concern the context. -/
def Call.onCtx : Call → Option CtxCall
  | .sslShutdown => some .sslShutdown
  | .sslFree => some .sslFree
  | .sslCtxFree => some .sslCtxFree
  | _ => none

/-- What a log says about the context. -/
def Env.ctxCalls (g : Env) : List CtxCall := g.log.filterMap (·.call.onCtx)

/-- `Tls_Free` makes the calls of `cleanCalls`. -/
theorem ctxCalls_tlsFree (w : Conn) :
    (w.run tlsFree).2.env.ctxCalls = w.env.ctxCalls ++ cleanCalls w.st := by
  cases htimer : w.st.timer <;> cases hbio : w.st.bio <;> cases hssl : w.st.ssl <;>
    cases hctx : w.st.ctx <;>
    simp [tlsFree, tlsClean, cleanCalls, Env.ctxCalls, Call.onCtx, htimer, hbio, hssl, hctx]

/-- The alert that `TlsCloseProc` sends makes those of `closeCalls`. -/
theorem ctxCalls_closeNotify (w : Conn) :
    (w.run closeNotify).2.env.ctxCalls = w.env.ctxCalls ++ closeCalls w.st := by
  cases hssl : w.st.ssl <;> cases hinit : w.st.flags.init <;>
    cases hfatal : w.st.flags.fatalError <;>
    simp [closeNotify, closeCalls, Env.ctxCalls, Call.onCtx, Program.update, Program.run, hssl,
      hinit, hfatal]

/-! ## The process -/

/-- What a driver procedure makes of a `State`, as far as contexts and callbacks
go: `s'` is where it leaves the other fields. -/
def State.driven (s s' : State) : State :=
  { s with
    flags := { s'.flags with server := s.flags.server }
    timer := s'.timer
    watchMask := s'.watchMask
    want := s'.want
    err := s'.err }

/-- `CTX_Init` makes a new context whenever it succeeds: contexts are told apart
by their number. -/
def ImportAnswers.numbered (ans : ImportAnswers) (n : Nat) : ImportAnswers :=
  { ans with ctxInit := fun cfg => (ans.ctxInit cfg).map fun _ => n }

/-- A process with its TLS channels: the calls on contexts made so far, the
`State`s whose channel is closed but which are still in use (`Tcl_Preserve`),
and the `State`s that imports have finished, each as the import left it. -/
structure Process where
  interp : Interp
  calls : List CtxEvent
  closing : List Nat
  imported : List (Nat × State)

/-- What happens in a process: an import, a driver procedure that leaves `s'`,
the close of a channel's topmost layer, and `Tls_Free` of a `State` that is not
in use any more.  Closing a channel closes its layers one by one. -/
inductive Action where
  | tlsImport (ans : ImportAnswers) (objv : List String)
  | drive (statePtr : Nat) (s' : State)
  | close (chan : Nat)
  | free (statePtr : Nat)

namespace Process

/-- No TLS channel has been made. -/
def start (find : String → Option Nat) (chan : Nat → Chan) : Process where
  interp := ⟨find, chan, []⟩
  calls := []
  closing := []
  imported := []

/-- How many contexts `CTX_Init` has made. -/
def contexts (st : Process) : Nat := st.calls.countP (·.call == .ctxInit)

section Actions

variable (lib : TclLibrary) (st : Process)

/-- `tls::import` -/
def tlsImport (ans : ImportAnswers) (objv : List String) : Process :=
  let ans := ans.numbered st.contexts
  let r := importObjCmd lib ans st.interp objv
  { st with
    interp := r.2
    calls := st.calls ++ importCalls lib ans st.interp objv
    imported := st.imported ++
      match r.1 with
      | .error _ => []
      | .ok _ => [(st.interp.newPtr, r.2.deref st.interp.newPtr)] }

/-- A driver procedure on a `State` that has not been freed. -/
def drive (statePtr : Nat) (s' : State) : Process :=
  match st.interp.heap[statePtr]?.join with
  | none => st
  | some s => { st with interp := st.interp.write statePtr (s.driven s') }

/-- The close procedure of the topmost layer; the layer is gone. -/
def close (c : Nat) : Process :=
  match (st.interp.chan c).layers with
  | [] => st
  | layer :: rest =>
      let st := { st with interp := st.interp.modifyChan c fun chan => { chan with layers := rest } }
      match layer with
      | .other _ => st
      | .tls p =>
          { st with
            calls := st.calls ++ onCtx (st.interp.deref p).ctx (closeCalls (st.interp.deref p))
            closing := p :: st.closing }

/-- `Tls_Free` -/
def free (p : Nat) : Process :=
  if p ∈ st.closing then
    { st with
      interp := st.interp.free p
      calls := st.calls ++ onCtx (st.interp.deref p).ctx (cleanCalls (st.interp.deref p))
      closing := st.closing.erase p }
  else st

def perform : Action → Process
  | .tlsImport ans objv => st.tlsImport lib ans objv
  | .drive p s' => st.drive p s'
  | .close c => st.close c
  | .free p => st.free p

/-- One action after another. -/
def run (actions : List Action) : Process := actions.foldl (perform lib) st

end Actions

end Process

/-! ## States up to what the driver changes -/

/-- The `State` without what driver procedures change. -/
def State.settled (s : State) : State := s.driven {}

@[simp] theorem State.settled_driven (s s' : State) : (s.driven s').settled = s.settled := rfl

@[simp] theorem State.settled_ctx (s : State) : s.settled.ctx = s.ctx := rfl

@[simp] theorem State.settled_ssl (s : State) : s.settled.ssl = s.ssl := rfl

@[simp] theorem State.settled_protos (s : State) : s.settled.protos = s.protos := rfl

@[simp] theorem State.settled_server (s : State) : s.settled.flags.server = s.flags.server := rfl

namespace Interp

variable {i : Interp} {c p : Nat} {s : State}

/-- The blocks, without what driver procedures change. -/
def states (i : Interp) : List (Option State) := i.heap.map (Option.map State.settled)

@[simp] theorem length_states : i.states.length = i.heap.length := List.length_map _

@[simp] theorem states_alloc : (i.alloc s).states = i.states ++ [some s.settled] := by
  rw [states, alloc, List.map_append]
  rfl

@[simp] theorem states_write : (i.write p s).states = i.states.set p (some s.settled) := by
  rw [states, write, List.map_set]
  rfl

@[simp] theorem states_free : (i.free p).states = i.states.set p none := by
  rw [states, free, List.map_set]
  rfl

@[simp] theorem states_modifyChan (f : Chan → Chan) : (i.modifyChan c f).states = i.states := rfl

@[simp] theorem states_blockMode (b : Bool) : (i.blockMode c b).states = i.states := by
  rw [states, states, blockMode]
  apply List.ext_getElem?
  intro p
  rw [List.getElem?_map, List.getElem?_map, List.getElem?_mapIdx, Option.map_map]
  congr 1
  funext block
  cases block with
  | none => simp
  | some s => by_cases h : .tls p ∈ (i.chan c).layers <;> simp [h, State.settled, State.driven]

@[simp] theorem states_setChannelOption (lib : TclLibrary) (setting : ChanSetting) :
    (i.setChannelOption lib c setting).states = i.states := by
  cases setting <;> simp [setChannelOption]

@[simp] theorem states_setChannelOptions (lib : TclLibrary) (settings : List ChanSetting) :
    (i.setChannelOptions lib c settings).states = i.states := by
  induction settings generalizing i with
  | nil => rfl
  | cons setting settings ih =>
      have hstep : ((i.setChannelOption lib c setting).setChannelOptions lib c settings).states =
        _ := ih
      rwa [states_setChannelOption] at hstep

/-- A block as `states` shows it. -/
theorem states_getElem? : i.states[p]? = (i.heap[p]?).map (Option.map State.settled) :=
  List.getElem?_map ..

theorem settled_deref : (i.deref p).settled = (i.states[p]?.join).getD {} := by
  rw [states_getElem?, deref]
  cases i.heap[p]? with
  | none => rfl
  | some block => cases block <;> rfl

end Interp

section Effect

variable {lib : TclLibrary} {ans : ImportAnswers} {i i' : Interp} {c c' p : Nat}
  {o : ImportOptions} {objv : List String}

/-- Stacking a layer does not touch the blocks. -/
theorem states_stackLayer (lib : TclLibrary) (ans : ImportAnswers) (i : Interp) (c p : Nat) :
    (stackLayer lib ans i c p).1 = ans.stackChannel ∧
      (stackLayer lib ans i c p).2.states = i.states := by
  unfold stackLayer
  cases hstack : ans.stackChannel with
  | error e => simp
  | ok u => simp [Interp.stackChannel]

/-- What the setup makes, and whether it succeeds, does not depend on the
`State` it is for. -/
theorem sslInit_uniform (lib : TclLibrary) (ans : ImportAnswers) (o : ImportOptions) :
    ∃ r : Except TclError (Ssl × Option (List UInt8)), ∀ s, sslInit lib ans o s =
      r.map fun made => { s with
        ssl := some { made.1 with
          verifyMode := o.verify, alpnProtos := made.2, acceptState := o.server }
        protos := made.2
        bio := true
        flags.server := s.flags.server || o.server } := by
  unfold sslInit
  cases orFail ans.sslNew "couldn't construct ssl session: " "INIT" with
  | error e => exact ⟨.error e, fun s => rfl⟩
  | ok u =>
      cases setServername ans o {} with
      | error e => exact ⟨.error e, fun s => rfl⟩
      | ok ssl =>
          cases hid : setSessionId lib ans o ssl with
          | error e => exact ⟨.error e, fun s => by rw [ok_bind, ok_bind, hid]; rfl⟩
          | ok ssl' =>
              cases halpn : setAlpn lib ans o with
              | error e => exact ⟨.error e, fun s => by rw [ok_bind, ok_bind, hid]; rfl⟩
              | ok protos => exact ⟨.ok (ssl', protos), fun s => by rw [ok_bind, ok_bind, hid]; rfl⟩

/-- Where the context of an import comes from: it is new, or it is that of a
`State`, or the model's `State` was gone and there is none. -/
inductive Obtained (ans : ImportAnswers) (i : Interp) : Option Nat → CtxCall → Prop
  | init {cfg : CtxConfig} {x : Nat} (h : ans.ctxInit cfg = .ok x) : Obtained ans i (some x) .ctxInit
  | model {q : Nat} {s : State} (h : i.heap[q]? = some (some s)) : Obtained ans i s.ctx .modelCtx
  | null : Obtained ans i none .modelCtx

/-- The ways an import ends, with the calls on its context. -/
inductive ImportEffect (ans : ImportAnswers) (i : Interp) :
    Except TclError String × Interp → List CtxEvent → Prop
  | rejected {e : TclError} {i' : Interp}
      (hstates : i'.states = i.states ∨ i'.states = i.states ++ [none]) :
      ImportEffect ans i (.error e, i') []
  | failed {e : TclError} {i' : Interp} {ctx : Option Nat} {source : CtxCall}
      {session : List CtxCall} (hobtained : Obtained ans i ctx source)
      (hsession : session = [] ∨ session = [.sslNew, .sslFree])
      (hstates : i'.states = i.states ++ [none]) :
      ImportEffect ans i (.error e, i') (onCtx ctx (source :: (session ++ [.sslCtxFree])))
  | finished {name : String} {i' : Interp} {source : CtxCall} {o : ImportOptions} {s : State}
      (hobtained : Obtained ans i s.ctx source) (hssl : s.ssl.isSome)
      (hserver : s.flags.server = o.server) (hstates : i'.states = i.states ++ [some s.settled]) :
      ImportEffect ans i (.ok name, i')
        (onCtx s.ctx (source :: .sslNew :: registrations o i.newPtr s.protos))

theorem states_write_of_append {b : Option State} (h : i'.states = i.states ++ [b]) (s : State) :
    (i'.write i.newPtr s).states = i.states ++ [some s.settled] := by
  have hlen : i.newPtr = i.states.length := Interp.length_states.symm
  rw [Interp.states_write, h, hlen, List.set_append_right _ _ (le_refl _), Nat.sub_self,
    List.set_cons_zero]

theorem states_write_newPtr (s s' : State) :
    ((i.alloc s).write i.newPtr s').states = i.states ++ [some s'.settled] :=
  states_write_of_append Interp.states_alloc s'

/-- A new block is as it was written. -/
theorem settled_newPtr {s : State} (h : i'.states = i.states ++ [some s.settled]) :
    (i'.deref i.newPtr).settled = s.settled := by
  rw [Interp.settled_deref, h, Interp.newPtr, ← Interp.length_states, List.getElem?_concat_length]
  rfl

theorem states_free_newPtr {b : Option State} (h : i'.states = i.states ++ [b]) :
    (i'.free i.newPtr).states = i.states ++ [none] := by
  have hlen : i.newPtr = i.states.length := Interp.length_states.symm
  rw [Interp.states_free, h, hlen, List.set_append_right _ _ (le_refl _), Nat.sub_self,
    List.set_cons_zero]

/-- The error exits before `SSL_new` succeeds. -/
theorem onCtx_clean_of_none {s : State} (source : CtxCall) (hssl : s.ssl = none) :
    onCtx s.ctx (source :: cleanCalls s) = onCtx s.ctx (source :: ([] ++ [.sslCtxFree])) := by
  cases hctx : s.ctx <;> simp [onCtx, cleanCalls, hssl, hctx]

/-- The error exits after that. -/
theorem onCtx_clean (source : CtxCall) (s : State) (ssl : Ssl) :
    onCtx s.ctx (source :: .sslNew :: cleanCalls { s with ssl := some ssl }) =
      onCtx s.ctx (source :: ([.sslNew, .sslFree] ++ [.sslCtxFree])) := by
  cases s.ctx <;> simp [onCtx, cleanCalls]

/-- The pointer of a model: the model's `State` may be a block that is not in
use, and then there is no context. -/
theorem obtained_deref (q : Nat) :
    Obtained ans i ((i.alloc (newState o)).deref q).ctx .modelCtx := by
  rcases Nat.lt_trichotomy q i.heap.length with hlt | rfl | hgt
  · have hq : (i.alloc (newState o)).heap[q]? = i.heap[q]? := List.getElem?_append_left hlt
    rw [Interp.deref, hq]
    cases hblock : i.heap[q]? with
    | none => exact .null
    | some block =>
        cases block with
        | none => exact .null
        | some s => exact .model hblock
  · have hq : (i.alloc (newState o)).heap[i.heap.length]? = some (some (newState o)) :=
      List.getElem?_concat_length
    rw [Interp.deref, hq]
    exact .null
  · have hq : (i.alloc (newState o)).heap[q]? = none := by
      rw [List.getElem?_eq_none_iff]
      simp only [Interp.alloc, List.length_append, List.length_singleton]
      omega
    rw [Interp.deref, hq]
    exact .null

/-- What an import has obtained when it gets to the stacking. -/
theorem obtained_of_importContext {ctx : Option Nat}
    (h : importContext lib ans (i.alloc (newState o)) c o = .ok (c', ctx)) :
    Obtained ans i ctx (contextCall o) := by
  unfold importContext at h
  unfold contextCall
  cases hmodel : o.model with
  | none =>
      cases hinit : ans.ctxInit (ctxConfig lib o) with
      | error e => simp [hmodel, hinit] at h
      | ok x =>
          simp only [hmodel, hinit, Except.ok.injEq, Prod.mk.injEq] at h
          rw [← h.2]
          exact .init hinit
  | some model =>
      cases hfind : i.find model with
      | none => simp [hmodel, hfind] at h
      | some chan =>
          cases hlayer : (i.chan chan).layers.head? with
          | none => simp [hmodel, hfind, hlayer] at h
          | some layer =>
              cases layer with
              | other typeName => simp [hmodel, hfind, hlayer] at h
              | tls q =>
                  simp only [hmodel, Interp.alloc_find, Interp.alloc_chan, hfind, hlayer,
                    Except.ok.injEq, Prod.mk.injEq] at h
                  rw [← h.2]
                  exact obtained_deref q

/-- The setup fails without `SSL_new`. -/
theorem sslInit_of_error (lib : TclLibrary) (o : ImportOptions) {reason : String}
    (hnew : ans.sslNew = .error reason) :
    ∃ e, ∀ s, sslInit lib ans o s = .error e := by
  unfold sslInit
  rw [hnew]
  exact ⟨_, fun s => rfl⟩

/-- The part of an import that has a context, which the new `State` `s` holds. -/
theorem importLayer_effect {s : State} {i₀ : Interp}
    (hobtained : Obtained ans i s.ctx (contextCall o)) (hssl : s.ssl = none)
    (hserver : s.flags.server = false) (hstates : i₀.states = i.states ++ [some s.settled]) :
    ImportEffect ans i (importLayer lib ans i₀ c i.newPtr o)
      (onCtx s.ctx (layerCalls lib ans i.newPtr o s)) := by
  obtain ⟨hresult, hstack⟩ := states_stackLayer lib ans i₀ c i.newPtr
  rw [hstates] at hstack
  unfold importLayer layerCalls
  generalize stackLayer lib ans i₀ c i.newPtr = r at hresult hstack ⊢
  obtain ⟨result, i₁⟩ := r
  obtain ⟨made, hmade⟩ := sslInit_uniform lib ans o
  cases hanswer : ans.stackChannel with
  | error e =>
      obtain rfl : result = .error e := hresult.trans hanswer
      rw [onCtx_clean_of_none _ hssl]
      exact .failed hobtained (.inl rfl) (states_free_newPtr hstack)
  | ok u =>
      obtain rfl : result = .ok u := hresult.trans hanswer
      cases hnew : ans.sslNew with
      | error reason =>
          obtain ⟨e, hfails⟩ := sslInit_of_error lib o hnew
          simp only [hfails]
          rw [onCtx_clean_of_none _ hssl]
          exact .failed hobtained (.inl rfl) (states_free_newPtr hstack)
      | ok v =>
          cases made with
          | error e =>
              simp only [hmade, Except.map]
              rw [onCtx_clean]
              exact .failed hobtained (.inr rfl) (states_free_newPtr hstack)
          | ok m =>
              simp only [hmade, Except.map]
              have hblock := settled_newPtr hstack
              have hctx : (i₁.deref i.newPtr).ctx = s.ctx := by
                have h := congrArg State.ctx hblock
                exact h
              have hflag : (i₁.deref i.newPtr).flags.server = s.flags.server := by
                have h := congrArg (fun s : State => s.flags.server) hblock
                exact h
              rw [← hctx] at hobtained ⊢
              exact .finished (s := { i₁.deref i.newPtr with
                self := (i₁.chan c).name
                ssl := some { m.1 with
                  verifyMode := o.verify, alpnProtos := m.2, acceptState := o.server }
                protos := m.2
                bio := true
                flags.server := (i₁.deref i.newPtr).flags.server || o.server }) hobtained rfl
                (by simp [hflag, hserver]) (states_write_of_append hstack _)

/-- **What `tls::import` does** to the `State`s and the contexts. -/
theorem importObjCmd_effect (lib : TclLibrary) (ans : ImportAnswers) (i : Interp)
    (objv : List String) :
    ImportEffect ans i (importObjCmd lib ans i objv) (importCalls lib ans i objv) := by
  unfold importObjCmd importCalls
  cases hargs : importArguments lib i objv with
  | error e => exact .rejected (.inl rfl)
  | ok r =>
      obtain ⟨c, o⟩ := r
      simp only
      cases hctx : importContext lib ans (i.alloc (newState o)) c o with
      | error e =>
          exact .rejected (.inr (states_free_newPtr Interp.states_alloc))
      | ok r =>
          obtain ⟨c', ctx⟩ := r
          exact importLayer_effect (s := { newState o with ctx := ctx })
            (obtained_of_importContext hctx) rfl rfl (states_write_newPtr _ _)

end Effect

/-! ## What one action changes -/

namespace Process

/-- The blocks, without what driver procedures change. -/
def states (st : Process) : List (Option State) := st.interp.states

/-- A `State` that has not been freed has the context. -/
def Holds (st : Process) (x : Nat) : Prop :=
  ∃ (p : Nat) (s : State), st.interp.heap[p]? = some (some s) ∧ s.ctx = some x

/-- Where the context of an import comes from: it is the next one, or it is held
by some `State` already. -/
inductive Source (st : Process) : Option Nat → CtxCall → Prop
  | init : Source st (some st.contexts) .ctxInit
  | model {ctx : Option Nat} (h : ∀ x, ctx = some x → st.Holds x) : Source st ctx .modelCtx

/-- What an action does to the `State`s, the calls and the finished imports. -/
inductive Change (st st' : Process) : Prop
  | same (hstates : st'.states = st.states ∨ st'.states = st.states ++ [none])
      (hcalls : st'.calls = st.calls) (himported : st'.imported = st.imported)
  | failed {ctx : Option Nat} {source : CtxCall} {session : List CtxCall}
      (hsource : Source st ctx source) (hsession : session = [] ∨ session = [.sslNew, .sslFree])
      (hstates : st'.states = st.states ++ [none])
      (hcalls : st'.calls = st.calls ++ onCtx ctx (source :: (session ++ [.sslCtxFree])))
      (himported : st'.imported = st.imported)
  | finished {source : CtxCall} {o : ImportOptions} {s s' : State}
      (hsource : Source st s.ctx source) (hssl : s.ssl.isSome)
      (hserver : s.flags.server = o.server) (hstates : st'.states = st.states ++ [some s.settled])
      (hcalls : st'.calls = st.calls ++
        onCtx s.ctx (source :: .sslNew :: registrations o st.states.length s.protos))
      (hsettled : s'.settled = s.settled)
      (himported : st'.imported = st.imported ++ [(st.states.length, s')])
  | closed {p : Nat} {s : State} {calls : List CtxCall}
      (hlive : st.states[p]? = some (some s)) (hclose : ∀ call ∈ calls, call = .sslShutdown)
      (hstates : st'.states = st.states) (hcalls : st'.calls = st.calls ++ onCtx s.ctx calls)
      (himported : st'.imported = st.imported)
  | freed {p : Nat} {s : State} (hlive : st.states[p]? = some (some s))
      (hstates : st'.states = st.states.set p none)
      (hcalls : st'.calls = st.calls ++ onCtx s.ctx (cleanCalls s))
      (himported : st'.imported = st.imported)

section Change

variable {lib : TclLibrary} {st : Process} {p : Nat} {s : State}

/-- A block that is in use, or the zeros that are left of it. -/
theorem live_or_blank (st : Process) (p : Nat) :
    st.states[p]? = some (some (st.interp.deref p).settled) ∨
      st.interp.deref p = {} ∧ st.states.set p none = st.states := by
  have hstates : st.states[p]? = _ := Interp.states_getElem?
  rw [Interp.deref]
  cases hblock : st.interp.heap[p]? with
  | none =>
      rw [hblock] at hstates
      exact .inr ⟨rfl, List.set_eq_of_length_le (List.getElem?_eq_none_iff.mp hstates)⟩
  | some block =>
      cases block with
      | none =>
          rw [hblock] at hstates
          obtain ⟨hlt, hp⟩ := List.getElem?_eq_some_iff.mp hstates
          refine .inr ⟨rfl, ?_⟩
          conv_rhs => rw [← List.set_getElem_self hlt]
          rw [hp]
          rfl
      | some s =>
          rw [hblock] at hstates
          exact .inl hstates

theorem source_of_obtained {ans : ImportAnswers} {ctx : Option Nat} {source : CtxCall}
    (h : Obtained (ans.numbered st.contexts) st.interp ctx source) : Source st ctx source := by
  cases h with
  | @init cfg x h =>
      have hx : (ans.ctxInit cfg).map (fun _ => st.contexts) = .ok x := h
      cases hanswer : ans.ctxInit cfg with
      | error e => rw [hanswer] at hx; contradiction
      | ok y =>
          rw [hanswer] at hx
          obtain rfl : st.contexts = x := Except.ok.inj hx
          exact .init
  | model h => exact .model fun x hx => ⟨_, _, h, hx⟩
  | null => exact .model fun x hx => absurd hx (by simp)

theorem change_tlsImport (ans : ImportAnswers) (objv : List String) :
    Change st (st.tlsImport lib ans objv) := by
  have heffect := importObjCmd_effect lib (ans.numbered st.contexts) st.interp objv
  have hcalls : (st.tlsImport lib ans objv).calls =
    st.calls ++ importCalls lib (ans.numbered st.contexts) st.interp objv := rfl
  have hinterp : (st.tlsImport lib ans objv).states =
    (importObjCmd lib (ans.numbered st.contexts) st.interp objv).2.states := rfl
  have himported : (st.tlsImport lib ans objv).imported = st.imported ++
    match (importObjCmd lib (ans.numbered st.contexts) st.interp objv).1 with
    | .error _ => []
    | .ok _ => [(st.interp.newPtr, (importObjCmd lib (ans.numbered st.contexts) st.interp
        objv).2.deref st.interp.newPtr)] := rfl
  generalize importObjCmd lib (ans.numbered st.contexts) st.interp objv = r at *
  generalize importCalls lib (ans.numbered st.contexts) st.interp objv = calls at *
  cases heffect with
  | rejected hstates =>
      exact .same (hinterp ▸ hstates) (hcalls.trans (List.append_nil _))
        (himported.trans (List.append_nil _))
  | failed hobtained hsession hstates =>
      exact .failed (source_of_obtained hobtained) hsession (hinterp.trans hstates) hcalls
        (himported.trans (List.append_nil _))
  | @finished name i' source o s hobtained hssl hserver hstates =>
      have hnew : st.interp.newPtr = st.states.length := Interp.length_states.symm
      refine .finished (source_of_obtained hobtained) hssl hserver (hinterp.trans hstates)
        (by rw [hcalls, hnew]) ?_ (by rw [himported, hnew])
      rw [Interp.settled_deref, hstates, ← hnew, Interp.newPtr, ← Interp.length_states,
        List.getElem?_concat_length]
      rfl

/-- A driver procedure writes to a `State` what `settled` does not show. -/
theorem drive_eq (s' : State) :
    ∃ i, st.drive p s' = { st with interp := i } ∧ i.chan = st.interp.chan ∧
      i.states = st.states := by
  have hstates : st.states[p]? = _ := Interp.states_getElem?
  unfold drive
  cases hblock : st.interp.heap[p]?.join with
  | none => exact ⟨st.interp, rfl, rfl, rfl⟩
  | some s =>
      refine ⟨st.interp.write p (s.driven s'), rfl, rfl, ?_⟩
      have hp : st.states[p]? = some (some s.settled) := by
        rw [hstates, Option.join_eq_some_iff.mp hblock]
        rfl
      obtain ⟨hlt, hget⟩ := List.getElem?_eq_some_iff.mp hp
      rw [Interp.states_write, State.settled_driven, ← hget]
      exact List.set_getElem_self hlt

theorem change_drive (s' : State) : Change st (st.drive p s') := by
  obtain ⟨i, hdrive, -, hstates⟩ := @drive_eq st p s'
  rw [hdrive]
  exact .same (.inl hstates) rfl rfl

theorem change_close (c : Nat) : Change st (st.close c) := by
  unfold close
  cases (st.interp.chan c).layers with
  | nil => exact .same (.inl rfl) rfl rfl
  | cons layer rest =>
      cases layer with
      | other typeName => exact .same (.inl rfl) rfl rfl
      | tls p =>
          rcases live_or_blank st p with hlive | ⟨hblank, -⟩
          · refine .closed hlive (fun call hcall => ?_) rfl rfl rfl
            rw [closeCalls] at hcall
            split at hcall
            · exact List.mem_singleton.mp hcall
            · contradiction
          · refine .same (.inl rfl) ?_ rfl
            show st.calls ++ onCtx (st.interp.deref p).ctx (closeCalls (st.interp.deref p)) = _
            rw [hblank]
            exact List.append_nil _

theorem change_free (p : Nat) : Change st (st.free p) := by
  unfold free
  split
  · rcases live_or_blank st p with hlive | ⟨hblank, hset⟩
    · exact .freed hlive Interp.states_free rfl rfl
    · refine .same (.inl (Interp.states_free.trans hset)) ?_ rfl
      rw [hblank]
      exact List.append_nil _
  · exact .same (.inl rfl) rfl rfl

/-- **What one action does.** -/
theorem perform_change (lib : TclLibrary) (st : Process) (a : Action) :
    Change st (st.perform lib a) := by
  cases a with
  | tlsImport ans objv => exact change_tlsImport ans objv
  | drive p s' => exact change_drive s'
  | close c => exact change_close c
  | free p => exact change_free p

end Change

/-- Two sockets by name, to be opened on the channels 0 and 1. -/
def twoSockets (name : String) : Option Nat :=
  if name = "sock4" then some 0 else if name = "sock5" then some 1 else none

end Process

end TclTls
