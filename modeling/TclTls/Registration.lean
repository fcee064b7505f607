import Mathlib.Data.List.Induction
import TclTls.Import.Process
import TclTls.Negotiation

/-!
# TclTls.Registration

Which `State` a server callback runs on.

`tls::import -server 1` registers its new `State` as the argument of the three
callbacks, and it does so with the `SSL_CTX`, where the last registration wins.
`VerifyCallback` and `InfoCallback` find their `State` through the `SSL` object
they are called for; these three do not look.  With `-model` a context has
several connections, and `callbacks_own_iff` says for which of them the
callbacks run on the right `State`: for the one that was imported last.
-/

namespace TclTls

/-! ## The argument of a callback -/

/-- The callbacks by what they are registered for. -/
inductive CallbackKind where
  | hello
  | sni
  | alpn
deriving DecidableEq, Repr

def ServerCallback.kind : ServerCallback → CallbackKind
  | .hello .. => .hello
  | .sni _ => .sni
  | .alpn _ => .alpn

/-- The argument a call registers for the callback. -/
def CallbackKind.registered : CallbackKind → CtxCall → Option Nat
  | .hello, .setClientHello p => some p
  | .sni, .setServername p => some p
  | .alpn, .setAlpnSelect p => some p
  | _, _ => none

namespace Process

/-- The arguments registered with the context `x`, in order. -/
def registered (st : Process) (kind : CallbackKind) (x : Nat) : List Nat :=
  st.calls.filterMap fun e => if e.ctx = x then kind.registered e.call else none

/-- The argument with which the library runs the callback for a connection of the
context `x`: the one registered last, if any. -/
def argument (st : Process) (kind : CallbackKind) (x : Nat) : Option Nat :=
  (st.registered kind x).getLast?

/-- A server connection: its `State`, which is in use, and its context. -/
structure Serves (st : Process) (p x : Nat) (s : State) : Prop where
  live : st.interp.heap[p]? = some (some s)
  ctx : s.ctx = some x
  server : s.flags.server = true

/-- The argument `q` is right for the connection `p`: it is the `State` of `p` and
has not been freed, so that the callback evaluates the script of `p` with the
name of its channel and consults its protocol list. -/
structure RunsFor (lib : NegotiationLibrary) (st : Process) (p q : Nat) (kind : CallbackKind) :
    Prop where
  own : q = p
  live : st.interp.Live q
  protos : (st.interp.deref q).protos = (st.interp.deref p).protos
  reports : ∀ cb : ServerCallback, cb.kind = kind →
    (cb.body lib).Safe (reportsFor (st.interp.deref p)) (fun _ _ => True) (st.interp.deref q)

/-- Whichever callback the library runs for the connection `p` of the context
`x`, it runs on the `State` of `p`. -/
def CallbacksOwn (lib : NegotiationLibrary) (st : Process) (p x : Nat) : Prop :=
  ∀ kind q, st.argument kind x = some q → st.RunsFor lib p q kind

/-- No server was imported with the context after the connection `p`, and none
with `-alpn` if `p` has no protocol list itself. -/
def LastServer (st : Process) (p x : Nat) (s : State) : Prop :=
  ∀ q t, (q, t) ∈ st.imported → t.ctx = some x → t.flags.server = true →
    q ≤ p ∧ (t.protos.isSome → s.protos.isSome)

end Process

/-! ## What is registered -/

/-- The import registers its `State` for the callback. -/
def CallbackKind.registers (kind : CallbackKind) (x : Nat) (c : Nat × State) : Bool :=
  decide (c.2.ctx = some x) && c.2.flags.server && (kind != .alpn || c.2.protos.isSome)

namespace Process

section Registered

variable {st st' : Process} {kind : CallbackKind} {x : Nat}

/-- Calls that register nothing. -/
theorem registered_of_append {ctx : Option Nat} {calls : List CtxCall}
    (h : st'.calls = st.calls ++ onCtx ctx calls) :
    st'.registered kind x = st.registered kind x ++
      if ctx = some x then calls.filterMap kind.registered else [] := by
  rw [registered, h, List.filterMap_append]
  congr 1
  cases ctx with
  | none => rfl
  | some y =>
      rw [onCtx, List.filterMap_map]
      by_cases hy : y = x
      · subst hy
        rw [if_pos rfl]
        congr 1
        funext call
        exact if_pos rfl
      · rw [if_neg (by simpa using hy)]
        exact List.filterMap_eq_nil_iff.mpr fun call _ => if_neg hy

/-- What always holds: the finished imports are in the order of their `State`s,
those that are left are as the import left them, and the registrations are
theirs. -/
structure Registers (st : Process) : Prop where
  sorted : st.imported.Pairwise fun c c' => c.1 < c'.1
  known : ∀ q t, (q, t) ∈ st.imported → q < st.states.length ∧
    ∀ s, st.states[q]? = some (some s) → s = t.settled
  live : ∀ p s, st.states[p]? = some (some s) → ∃ t, (p, t) ∈ st.imported
  registered : ∀ kind x, st.registered kind x =
    (st.imported.filter (CallbackKind.registers kind x)).map Prod.fst

theorem registers_start (find : String → Option Nat) (chan : Nat → Chan) :
    (start find chan).Registers where
  sorted := .nil
  known q t h := absurd h List.not_mem_nil
  live p s h := absurd h (by simp [start, states, Interp.states])
  registered kind x := rfl

/-- Calls that register nothing leave the registrations as they are. -/
theorem registered_of_none {ctx : Option Nat} {calls : List CtxCall}
    (h : st'.calls = st.calls ++ onCtx ctx calls)
    (hnone : ∀ call ∈ calls, kind.registered call = none) :
    st'.registered kind x = st.registered kind x := by
  rw [registered_of_append h, List.filterMap_eq_nil_iff.mpr hnone, ite_self, List.append_nil]

theorem Source.registered_eq_none {ctx : Option Nat} {source : CtxCall} (h : Source st ctx source) :
    kind.registered source = none := by
  cases h <;> cases kind <;> rfl

/-- A finished server import registers its `State` for each callback, for `alpn`
only if it has a protocol list. -/
theorem registered_registrations (o : ImportOptions) (p : Nat) (protos : Option (List UInt8)) :
    (registrations o p protos).filterMap kind.registered =
      if o.server && (kind != .alpn || protos.isSome) then [p] else [] := by
  unfold registrations
  generalize o.server = server
  generalize protos.isSome = given
  cases server <;> cases given <;> cases kind <;> rfl

/-- Blocks that stay where they are or are freed. -/
theorem Registers.keep (h : st.Registers) (hlen : st.states.length ≤ st'.states.length)
    (hstates : ∀ (p : Nat) (s : State), st'.states[p]? = some (some s) →
      st.states[p]? = some (some s))
    (himported : st'.imported = st.imported)
    (hregistered : ∀ kind x, st'.registered kind x = st.registered kind x) : st'.Registers where
  sorted := by rw [himported]; exact h.sorted
  known q t ht := by
    rw [himported] at ht
    obtain ⟨hlt, hq⟩ := h.known q t ht
    exact ⟨Nat.lt_of_lt_of_le hlt hlen, fun s hs => hq s (hstates q s hs)⟩
  live p s hs := by
    rw [himported]
    exact h.live p s (hstates p s hs)
  registered kind x := by rw [hregistered, himported, h.registered]

/-- A block that has been given up at once. -/
theorem Registers.blank (h : st.Registers) (hstates : st'.states = st.states ++ [none])
    (himported : st'.imported = st.imported)
    (hregistered : ∀ kind x, st'.registered kind x = st.registered kind x) : st'.Registers := by
  refine h.keep ?_ (fun p s hs => ?_) himported hregistered
  · rw [hstates, List.length_append]
    exact Nat.le_add_right _ _
  · rw [hstates, List.getElem?_append] at hs
    split at hs
    · exact hs
    · have hmem := List.mem_of_getElem? hs
      simp at hmem

/-- What a finished import adds to the registrations. -/
theorem registered_finished {source : CtxCall} {o : ImportOptions} {s s' : State}
    (hsource : Source st s.ctx source) (hserver : s.flags.server = o.server)
    (hcalls : st'.calls = st.calls ++
      onCtx s.ctx (source :: .sslNew :: registrations o st.states.length s.protos))
    (hsettled : s'.settled = s.settled) :
    st'.registered kind x = st.registered kind x ++
      ([(st.states.length, s')].filter (CallbackKind.registers kind x)).map Prod.fst := by
  have hctx : s'.ctx = s.ctx := by
    rw [← State.settled_ctx, hsettled, State.settled_ctx]
  have hprotos : s'.protos = s.protos := by
    rw [← State.settled_protos, hsettled, State.settled_protos]
  have hflag : s'.flags.server = o.server := by
    rw [← State.settled_server, hsettled, State.settled_server, hserver]
  have hcall : (source :: CtxCall.sslNew :: registrations o st.states.length s.protos).filterMap
      kind.registered =
        if o.server && (kind != .alpn || s.protos.isSome) then [st.states.length] else [] := by
    have hnew : kind.registered .sslNew = none := by cases kind <;> rfl
    rw [List.filterMap_cons_none hsource.registered_eq_none, List.filterMap_cons_none hnew,
      registered_registrations]
  rw [registered_of_append hcalls, hcall]
  congr 1
  by_cases hx : s.ctx = some x
  · cases hreg : o.server && (kind != .alpn || s.protos.isSome) <;>
      simp [CallbackKind.registers, hctx, hflag, hprotos, hx, hreg]
  · simp [CallbackKind.registers, hctx, hx]

/-- A finished import is the last one, with a `State` of its own. -/
theorem Registers.finished (h : st.Registers) {s s' : State}
    (hstates : st'.states = st.states ++ [some s.settled]) (hsettled : s'.settled = s.settled)
    (himported : st'.imported = st.imported ++ [(st.states.length, s')])
    (hregistered : ∀ kind x, st'.registered kind x = st.registered kind x ++
      ([(st.states.length, s')].filter (CallbackKind.registers kind x)).map Prod.fst) :
    st'.Registers := by
  have hlen : st'.states.length = st.states.length + 1 := by
    rw [hstates, List.length_append, List.length_singleton]
  refine ⟨?_, fun q t ht => ?_, fun p t ht => ?_, fun kind x => ?_⟩
  · rw [himported]
    refine List.pairwise_append.mpr ⟨h.sorted, List.pairwise_singleton _ _, fun c hc c' hc' => ?_⟩
    obtain rfl := List.mem_singleton.mp hc'
    exact (h.known c.1 c.2 hc).1
  · rw [himported] at ht
    rw [hlen, hstates]
    rcases List.mem_append.mp ht with ht | ht
    · obtain ⟨hlt, hq⟩ := h.known q t ht
      rw [List.getElem?_append_left hlt]
      exact ⟨Nat.lt_succ_of_lt hlt, hq⟩
    · obtain ⟨rfl, rfl⟩ := Prod.mk.inj (List.mem_singleton.mp ht)
      refine ⟨Nat.lt_succ_self _, fun u hu => ?_⟩
      rw [List.getElem?_concat_length] at hu
      rw [hsettled]
      exact (Option.some.inj (Option.some.inj hu)).symm
  · rw [himported]
    rw [hstates, List.getElem?_append] at ht
    split at ht
    · obtain ⟨u, hu⟩ := h.live p t ht
      exact ⟨u, List.mem_append_left _ hu⟩
    next hge =>
      have hp : p = st.states.length := by
        have hlt := (List.getElem?_eq_some_iff.mp ht).1
        rw [List.length_singleton] at hlt
        omega
      exact ⟨s', List.mem_append_right _ (by rw [hp]; exact List.mem_singleton_self _)⟩
  · rw [hregistered, h.registered, himported, List.filter_append, List.map_append]

/-- Freeing a `State` registers nothing. -/
theorem cleanCalls_registered {s : State} : ∀ call ∈ cleanCalls s, kind.registered call = none := by
  intro call hcall
  rcases List.mem_append.mp hcall with hcall | hcall
  · split at hcall
    · obtain rfl := List.mem_singleton.mp hcall
      cases kind <;> rfl
    · contradiction
  · split at hcall
    · obtain rfl := List.mem_singleton.mp hcall
      cases kind <;> rfl
    · contradiction

/-- **One action keeps the registrations in order.** -/
theorem Registers.step (h : st.Registers) (hchange : Change st st') : st'.Registers := by
  cases hchange with
  | same hstates hcalls himported =>
      have hregistered : ∀ kind x, st'.registered kind x = st.registered kind x := fun kind x => by
        rw [Process.registered, hcalls]
        rfl
      rcases hstates with hstates | hstates
      · exact h.keep (by rw [hstates]) (by rw [hstates]; exact fun _ _ hs => hs) himported
          hregistered
      · exact h.blank hstates himported hregistered
  | failed hsource hsession hstates hcalls himported =>
      refine h.blank hstates himported fun kind x => registered_of_none hcalls fun call hcall => ?_
      rcases List.mem_cons.mp hcall with rfl | hcall
      · exact hsource.registered_eq_none
      · rcases hsession with rfl | rfl <;> simp at hcall
        · subst hcall
          cases kind <;> rfl
        · rcases hcall with rfl | rfl | rfl <;> cases kind <;> rfl
  | finished hsource hssl hserver hstates hcalls hsettled himported =>
      exact h.finished hstates hsettled himported fun kind x =>
        registered_finished hsource hserver hcalls hsettled
  | closed hlive hclose hstates hcalls himported =>
      refine h.keep (by rw [hstates]) (by rw [hstates]; exact fun _ _ hs => hs) himported
        fun kind x => registered_of_none hcalls fun call hcall => ?_
      obtain rfl := hclose call hcall
      cases kind <;> rfl
  | freed hlive hstates hcalls himported =>
      refine h.keep (by rw [hstates, List.length_set]) (fun q t ht => ?_) himported
        fun kind x => registered_of_none hcalls cleanCalls_registered
      rw [hstates, List.getElem?_set] at ht
      split at ht
      · split at ht <;> simp at ht
      · exact ht

end Registered

/-! ## The last registration -/

/-- In increasing order the last one is the greatest. -/
theorem getLast?_eq_some_iff_of_sorted {qs : List Nat} (h : qs.Pairwise (· < ·)) (p : Nat) :
    qs.getLast? = some p ↔ p ∈ qs ∧ ∀ q ∈ qs, q ≤ p := by
  constructor
  · intro hlast
    obtain ⟨front, rfl⟩ := List.getLast?_eq_some_iff.mp hlast
    refine ⟨by simp, fun q hq => ?_⟩
    rcases List.mem_append.mp hq with hq | hq
    · exact Nat.le_of_lt ((List.pairwise_append.mp h).2.2 q hq p (List.mem_singleton_self p))
    · exact Nat.le_of_eq (List.mem_singleton.mp hq)
  · rintro ⟨hp, hmax⟩
    obtain ⟨front, last, rfl⟩ := (List.eq_nil_or_concat qs).resolve_left (List.ne_nil_of_mem hp)
    rw [List.concat_eq_append] at *
    have hle := hmax last (by simp)
    have hlast : p = last := by
      rcases List.mem_append.mp hp with hp | hp
      · have hlt := (List.pairwise_append.mp h).2.2 p hp last (List.mem_singleton_self last)
        omega
      · exact List.mem_singleton.mp hp
    rw [List.getLast?_concat, hlast]

section Own

variable {lib : TclLibrary} {st : Process} {kind : CallbackKind} {p q x : Nat} {s : State}

theorem mem_registered (h : st.Registers) : q ∈ st.registered kind x ↔
    ∃ t, (q, t) ∈ st.imported ∧ kind.registers x (q, t) = true := by
  rw [h.registered]
  simp

/-- The last one of the context's imports that gave the callback an argument. -/
theorem argument_eq_some_iff (h : st.Registers) : st.argument kind x = some p ↔
    p ∈ st.registered kind x ∧ ∀ q ∈ st.registered kind x, q ≤ p := by
  refine getLast?_eq_some_iff_of_sorted ?_ p
  rw [h.registered]
  exact List.pairwise_map.mpr (h.sorted.filter _)

/-- A callback that has an argument for a connection has one for the context. -/
theorem exists_argument (hq : q ∈ st.registered kind x) : ∃ p, st.argument kind x = some p := by
  exact ⟨_, List.getLast?_eq_some_getLast (List.ne_nil_of_mem hq)⟩

/-- The connection's own registration: the `alpn` one is there if it has a
protocol list. -/
theorem Serves.mem_registered_iff (h : st.Registers) (hs : st.Serves p x s) :
    p ∈ st.registered kind x ↔ (kind = .alpn → s.protos.isSome) := by
  have hlive : st.states[p]? = some (some s.settled) := by
    rw [states, Interp.states_getElem?, hs.live]
    rfl
  have hsame : ∀ t, (p, t) ∈ st.imported →
      t.ctx = some x ∧ t.flags.server = true ∧ t.protos = s.protos := by
    intro t ht
    have hsettled := (h.known p t ht).2 _ hlive
    rw [← State.settled_ctx t, ← State.settled_server t, ← State.settled_protos t, ← hsettled]
    exact ⟨hs.ctx, hs.server, rfl⟩
  rw [mem_registered h]
  constructor
  · rintro ⟨t, ht, hregisters⟩ rfl
    obtain ⟨-, -, hprotos⟩ := hsame t ht
    simp [CallbackKind.registers] at hregisters
    rw [← hprotos]
    exact hregisters.2
  · intro hprotos
    obtain ⟨t, ht⟩ := h.live p _ hlive
    obtain ⟨hctx, hserver, hsame⟩ := hsame t ht
    refine ⟨t, ht, ?_⟩
    cases kind <;> simp [CallbackKind.registers, hctx, hserver, hsame]
    exact hprotos rfl

theorem callbacksOwn_iff (h : st.Registers) (lib : NegotiationLibrary) (hs : st.Serves p x s) :
    st.CallbacksOwn lib p x ↔ st.LastServer p x s := by
  constructor
  · intro hown q t ht hctx hserver
    have hargument : ∀ kind, q ∈ st.registered kind x →
        q ≤ p ∧ p ∈ st.registered kind x := by
      intro kind hq
      obtain ⟨p', hp'⟩ := exists_argument hq
      obtain rfl := (hown kind p' hp').own
      obtain ⟨hmem, hmax⟩ := (argument_eq_some_iff h).mp hp'
      exact ⟨hmax q hq, hmem⟩
    constructor
    · exact (hargument .hello ((mem_registered h).mpr
        ⟨t, ht, by simp [CallbackKind.registers, hctx, hserver]⟩)).1
    · intro hprotos
      have hp := (hargument .alpn ((mem_registered h).mpr
        ⟨t, ht, by simp [CallbackKind.registers, hctx, hserver, hprotos]⟩)).2
      exact (hs.mem_registered_iff h).mp hp rfl
  · intro hlast kind q hq
    obtain ⟨hmem, hmax⟩ := (argument_eq_some_iff h).mp hq
    obtain ⟨t, ht, hregisters⟩ := (mem_registered h).mp hmem
    simp [CallbackKind.registers] at hregisters
    obtain ⟨⟨hctx, hserver⟩, hkind⟩ := hregisters
    obtain ⟨hle, hprotos⟩ := hlast q t ht hctx hserver
    have hp : p ∈ st.registered kind x :=
      (hs.mem_registered_iff h).mpr fun halpn => hprotos (hkind.resolve_left (by simp [halpn]))
    obtain rfl : q = p := Nat.le_antisymm hle (hmax p hp)
    exact ⟨rfl, ⟨s, hs.live⟩, rfl, fun cb _ => body_reports cb _⟩

/-- **The registrations are in order** all through a run. -/
theorem registers_run {find : String → Option Nat} {chan : Nat → Chan} (actions : List Action) :
    ((start find chan).run lib actions).Registers := by
  induction actions using List.reverseRecOn with
  | nil => exact registers_start find chan
  | append_singleton actions a ih =>
      rw [run, List.foldl_append]
      exact ih.step (perform_change lib _ a)

end Own

/-- **The callbacks report their own connection** exactly if it was the last
server that was imported with its context, and either has a protocol list or
none of the others did. -/
theorem callbacks_own_iff (lib : TclLibrary) (nlib : NegotiationLibrary)
    (find : String → Option Nat) (chan : Nat → Chan) (actions : List Action) (p x : Nat) (s : State)
    (hs : ((start find chan).run lib actions).Serves p x s) :
    ((start find chan).run lib actions).CallbacksOwn nlib p x ↔
      ((start find chan).run lib actions).LastServer p x s :=
  callbacksOwn_iff (registers_run actions) nlib hs

/-- A server. -/
def serverImport : Action :=
  .tlsImport (answering (.ok ()) (.ok ())) ["tls::import", "sock4", "-server", "1"]

/-- Another one, with the first as its model. -/
def modelImport : Action :=
  .tlsImport (answering (.ok ()) (.ok ()))
    ["tls::import", "sock5", "-server", "1", "-model", "sock4"]

/-- The `State` of the first server. -/
def firstServer : State :=
  ((start twoSockets oneSocket.chan).run .plain [serverImport]).interp.deref 0

/-- Alone on its context, a server gets its own callbacks. -/
theorem callbacks_own_alone :
    ((start twoSockets oneSocket.chan).run .plain [serverImport]).CallbacksOwn .plain 0 0 := by
  refine (callbacks_own_iff .plain .plain twoSockets oneSocket.chan [serverImport] 0 0 firstServer
    ⟨rfl, rfl, rfl⟩).mpr ?_
  have himported : ((start twoSockets oneSocket.chan).run .plain [serverImport]).imported =
    [(0, firstServer)] := rfl
  intro q t ht hctx hserver
  rw [himported, List.mem_singleton] at ht
  obtain ⟨rfl, rfl⟩ := Prod.mk.inj ht
  exact ⟨le_refl 0, id⟩

/-- With a second server on its context, the first gets the callbacks of the
second, and it still does when the second has been closed and freed. -/
theorem callbacks_taken_over :
    (∃ s, ((start twoSockets oneSocket.chan).run .plain [serverImport, modelImport]).Serves 0 0 s) ∧
      ¬ ((start twoSockets oneSocket.chan).run .plain
        [serverImport, modelImport]).CallbacksOwn .plain 0 0 ∧
      ((start twoSockets oneSocket.chan).run .plain
        [serverImport, modelImport, .close 0, .free 1]).argument .hello 0 = some 1 ∧
      ¬ ((start twoSockets oneSocket.chan).run .plain
        [serverImport, modelImport, .close 0, .free 1]).interp.Live 1 := by
  refine ⟨⟨firstServer, rfl, rfl, rfl⟩, fun h => ?_, rfl, fun h => ?_⟩
  · exact absurd (h .hello 1 rfl).own (by decide)
  · obtain ⟨s, hs⟩ := h
    have hfreed : ((start twoSockets oneSocket.chan).run .plain
      [serverImport, modelImport, .close 0, .free 1]).interp.heap[1]? = some none := rfl
    rw [hfreed] at hs
    exact absurd (Option.some.inj hs) (Option.some_ne_none s).symm

end Process

end TclTls
