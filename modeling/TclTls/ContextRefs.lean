import Mathlib.Data.List.Count
import TclTls.Import.Process
import TclTls.Resource.RefCount

/-!
# TclTls.ContextRefs

Who owns an `SSL_CTX`.

`CTX_Init` and `SSL_new` take a reference to the context, `SSL_free` and the
`SSL_CTX_free` of `Tls_Clean` give one back.  A `State` whose import was given a
`-model` gives back one more than it took: the pointer is copied without
`SSL_CTX_up_ref`.  With `n` copies made, the references are `n` short of two for
each `State` that holds the context, and `contexts_balanced_iff` says how long
that goes well: until more than half of these `State`s have been freed.
-/

namespace TclTls

open Resource

/-! ## Balance -/

/-- What a call does to the reference count. -/
def CtxCall.effect : CtxCall → Effect
  | .ctxInit | .sslNew => .acquire
  | .sslFree | .sslCtxFree => .release
  | _ => .use

/-- The reference counts of the contexts. -/
def ctxRefs : Accounting CtxEvent Nat where
  key e := e.ctx
  effect e := e.call.effect

namespace Process

/-- How often a call was made on the context `x`. -/
def tally (st : Process) (x : Nat) (call : CtxCall) : Nat := st.calls.count ⟨x, call⟩

/-- The references to `x`. -/
def refs (st : Process) (x : Nat) : Int := ctxRefs.count x st.calls

/-- No context is released more often than it was acquired, and none is used,
released or held by a `State` that has no references. -/
structure Balanced (st : Process) : Prop where
  released : ∀ x, st.tally x .sslFree + st.tally x .sslCtxFree ≤
    st.tally x .ctxInit + st.tally x .sslNew
  used : ctxRefs.Sound st.calls
  held : ∀ x, st.Holds x → 0 < st.refs x

/-- Of the `State`s a context has had, which are one more than the imports that
took it with `-model`, at most half have been freed; or it was never taken. -/
def HalfKept (st : Process) : Prop :=
  ∀ x, st.tally x .modelCtx = 0 ∨ 2 * st.tally x .sslCtxFree ≤ st.tally x .modelCtx + 1

end Process

/-! ## Counting calls -/

theorem count_onCtx (ctx : Option Nat) (calls : List CtxCall) (x : Nat) (call : CtxCall) :
    (onCtx ctx calls).count ⟨x, call⟩ = if ctx = some x then calls.count call else 0 := by
  cases ctx with
  | none => rfl
  | some y =>
      have hinj : Function.Injective fun call : CtxCall => (⟨y, call⟩ : CtxEvent) := by
        intro a b h
        exact (CtxEvent.mk.inj h).2
      by_cases h : y = x
      · subst h
        rw [onCtx, if_pos rfl]
        exact List.count_map_of_injective calls _ hinj call
      · rw [if_neg (by simpa using h)]
        refine List.count_eq_zero_of_not_mem fun hmem => ?_
        obtain ⟨a, -, ha⟩ := List.mem_map.mp hmem
        exact h (CtxEvent.mk.inj ha).1

/-- The references to a context, call by call. -/
theorem ctxRefs_count (calls : List CtxEvent) (x : Nat) :
    ctxRefs.count x calls = (calls.count ⟨x, .ctxInit⟩ : Int) + calls.count ⟨x, .sslNew⟩ -
      calls.count ⟨x, .sslFree⟩ - calls.count ⟨x, .sslCtxFree⟩ := by
  induction calls with
  | nil => rfl
  | cons e calls ih =>
      obtain ⟨y, call⟩ := e
      rw [Accounting.count_cons, ih, Accounting.delta]
      by_cases h : y = x
      · subst h
        cases call <;> simp [ctxRefs, CtxCall.effect, Effect.delta] <;> omega
      · simp [ctxRefs, h]

/-- One more call on the context. -/
theorem ctxRefs_count_snoc (calls : List CtxEvent) (x : Nat) (call : CtxCall) :
    ctxRefs.count x (calls ++ [⟨x, call⟩]) = ctxRefs.count x calls + call.effect.delta := by
  have hdelta : ctxRefs.delta x ⟨x, call⟩ = call.effect.delta := if_pos rfl
  rw [Accounting.count_append, Accounting.count_singleton, hdelta]

/-- What a finished import registers takes and gives back nothing. -/
theorem registrations_use {o : ImportOptions} {p : Nat} {protos : Option (List UInt8)} :
    ∀ call ∈ registrations o p protos, call.effect = .use ∧ call ≠ .modelCtx := by
  intro call hcall
  unfold registrations at hcall
  split at hcall
  · rcases List.mem_append.mp hcall with hcall | hcall
    · simp only [List.mem_cons, List.not_mem_nil, or_false] at hcall
      rcases hcall with rfl | rfl <;> exact ⟨rfl, by simp⟩
    · split at hcall
      · obtain rfl := List.mem_singleton.mp hcall
        exact ⟨rfl, by simp⟩
      · contradiction
  · obtain rfl := List.mem_singleton.mp hcall
    exact ⟨rfl, by simp⟩

theorem count_registrations {call : CtxCall} {o : ImportOptions} {p : Nat}
    {protos : Option (List UInt8)} (h : call.effect ≠ .use ∨ call = .modelCtx) :
    (registrations o p protos).count call = 0 := by
  refine List.count_eq_zero_of_not_mem fun hmem => ?_
  obtain ⟨huse, hmodel⟩ := registrations_use call hmem
  exact h.elim (fun h => h huse) hmodel

/-! ## The books -/

namespace Process

/-- The `State`s that hold the context `x`. -/
def holders (st : Process) (x : Nat) : Nat :=
  st.states.countP fun block => block.any fun s => decide (s.ctx = some x)

section Books

variable {st st' : Process} {x p : Nat} {s : State}

theorem holds_iff : st.Holds x ↔ 0 < st.holders x := by
  rw [holders, List.countP_pos_iff]
  constructor
  · rintro ⟨p, s, hp, hs⟩
    have hget : st.states[p]? = some (some s.settled) := by
      rw [states, Interp.states_getElem?, hp]
      rfl
    exact ⟨_, List.mem_of_getElem? hget, decide_eq_true hs⟩
  · rintro ⟨block, hmem, hblock⟩
    obtain ⟨p, hp⟩ := List.getElem?_of_mem hmem
    rw [states, Interp.states_getElem?] at hp
    obtain ⟨block', hblock', rfl⟩ := Option.map_eq_some_iff.mp hp
    cases block' with
    | none => contradiction
    | some s => exact ⟨p, s, hblock', of_decide_eq_true hblock⟩

theorem holds_of_live (hlive : st.states[p]? = some (some s)) (hs : s.ctx = some x) :
    st.Holds x :=
  holds_iff.mpr (List.countP_pos_iff.mpr ⟨some s, List.mem_of_getElem? hlive, decide_eq_true hs⟩)

theorem holders_of_append_none (h : st'.states = st.states ++ [none]) :
    st'.holders x = st.holders x := by
  rw [holders, h, List.countP_append]
  rfl

theorem holders_of_append (h : st'.states = st.states ++ [some s.settled]) :
    st'.holders x = st.holders x + if s.ctx = some x then 1 else 0 := by
  have hone : [some s.settled].countP (fun block => block.any fun s => decide (s.ctx = some x)) =
      if s.ctx = some x then 1 else 0 := by
    by_cases hs : s.ctx = some x <;> simp [hs]
  rw [holders, h, List.countP_append, hone]
  rfl

theorem holders_of_set (hlive : st.states[p]? = some (some s))
    (h : st'.states = st.states.set p none) :
    st.holders x = st'.holders x + if s.ctx = some x then 1 else 0 := by
  obtain ⟨hlt, hget⟩ := List.getElem?_eq_some_iff.mp hlive
  have hpos : s.ctx = some x → 0 < st.holders x := fun hs =>
    holds_iff.mp (holds_of_live hlive hs)
  have hset : st'.holders x = st.holders x - if s.ctx = some x then 1 else 0 := by
    rw [holders, h, List.countP_set hlt, hget]
    simp [holders]
  by_cases hs : s.ctx = some x
  · rw [if_pos hs] at hset ⊢
    have hcount := hpos hs
    omega
  · rw [if_neg hs] at hset ⊢
    omega

/-- What always holds: every `State` with a context has an `SSL` object, contexts
are numbered as they are made, and the `State`s that hold one are those it was
made for or copied to, less those that have been freed. -/
structure Accounted (st : Process) : Prop where
  ready : ∀ s, some s ∈ st.states → s.ctx.isSome → s.ssl.isSome
  known : ∀ e ∈ st.calls, e.ctx < st.contexts
  made : ∀ x, st.tally x .ctxInit = if x < st.contexts then 1 else 0
  sessions : ∀ x, st.tally x .sslNew = st.holders x + st.tally x .sslFree
  holding : ∀ x, st.holders x + st.tally x .sslCtxFree =
    st.tally x .ctxInit + st.tally x .modelCtx

/-- The references are short by the number of copies. -/
theorem Accounted.refs_eq (h : st.Accounted) (x : Nat) :
    st.refs x = 2 * st.holders x - st.tally x .modelCtx := by
  have hsessions := h.sessions x
  have hholding := h.holding x
  rw [refs, ctxRefs_count]
  unfold tally at hsessions hholding ⊢
  omega

theorem Accounted.tally_of_unknown (h : st.Accounted) (hx : st.contexts ≤ x) (call : CtxCall) :
    st.tally x call = 0 := by
  refine List.count_eq_zero_of_not_mem fun hmem => ?_
  exact absurd (h.known _ hmem) (Nat.not_lt.mpr hx)

/-- In the books of a balanced process at least half of each context's `State`s
are left, and the other way round. -/
theorem Accounted.halfKept_iff (h : st.Accounted) :
    st.HalfKept ↔ ∀ x, 0 ≤ st.refs x ∧ (st.Holds x → 0 < st.refs x) := by
  refine forall_congr' fun x => ?_
  rw [h.refs_eq, holds_iff]
  have hholding := h.holding x
  have hmade := h.made x
  by_cases hx : x < st.contexts
  · rw [if_pos hx] at hmade
    omega
  · have hzero := h.tally_of_unknown (Nat.not_lt.mp hx)
    rw [hzero, hzero] at hholding
    rw [hzero, hzero]
    omega

theorem tally_of_append {ctx : Option Nat} {calls : List CtxCall}
    (h : st'.calls = st.calls ++ onCtx ctx calls) (x : Nat) (call : CtxCall) :
    st'.tally x call = st.tally x call + if ctx = some x then calls.count call else 0 := by
  rw [tally, h, List.count_append, count_onCtx]
  rfl

theorem contexts_of_append {ctx : Option Nat} {calls : List CtxCall}
    (h : st'.calls = st.calls ++ onCtx ctx calls) :
    st'.contexts = st.contexts + if ctx.isSome then calls.count .ctxInit else 0 := by
  rw [contexts, h, List.countP_append]
  cases ctx with
  | none => rfl
  | some y =>
      rw [onCtx, List.countP_map]
      rfl

theorem mem_onCtx {ctx : Option Nat} {calls : List CtxCall} {e : CtxEvent}
    (h : e ∈ onCtx ctx calls) : ctx = some e.ctx ∧ e.call ∈ calls := by
  cases ctx with
  | none => contradiction
  | some y =>
      obtain ⟨call, hcall, rfl⟩ := List.mem_map.mp h
      exact ⟨rfl, hcall⟩

theorem Accounted.lt_of_holds (h : st.Accounted) (hx : st.Holds x) : x < st.contexts := by
  refine Nat.lt_of_not_le fun hle => ?_
  have hzero := h.tally_of_unknown hle
  have hholding := h.holding x
  have hpos := holds_iff.mp hx
  rw [hzero, hzero, hzero] at hholding
  omega

theorem Source.ne {ctx : Option Nat} {source : CtxCall} (h : Source st ctx source) :
    source ≠ .sslNew ∧ source ≠ .sslFree ∧ source ≠ .sslCtxFree := by
  cases h <;> simp

/-- Calls on a context that is known or just made keep contexts numbered. -/
theorem Accounted.obtain (h : st.Accounted) {ctx : Option Nat} {source : CtxCall}
    {rest : List CtxCall} (hsource : Source st ctx source) (hinit : rest.count .ctxInit = 0)
    (hmodel : rest.count .modelCtx = 0)
    (hcalls : st'.calls = st.calls ++ onCtx ctx (source :: rest)) :
    (∀ e ∈ st'.calls, e.ctx < st'.contexts) ∧
      (∀ x, st'.tally x .ctxInit = if x < st'.contexts then 1 else 0) ∧
      ∀ x, st'.tally x .ctxInit + st'.tally x .modelCtx =
        st.tally x .ctxInit + st.tally x .modelCtx + if ctx = some x then 1 else 0 := by
  have hcontexts := contexts_of_append hcalls
  have htally := tally_of_append hcalls
  cases hsource with
  | init =>
      have hnext : st'.contexts = st.contexts + 1 := by
        rw [hcontexts, Option.isSome_some, if_pos rfl, List.count_cons_self, hinit]
      refine ⟨fun e he => ?_, fun x => ?_, fun x => ?_⟩
      · rw [hcalls] at he
        rcases List.mem_append.mp he with he | he
        · have hlt := h.known e he
          omega
        · have hctx := Option.some.inj (mem_onCtx he).1
          omega
      · have hmade := h.made x
        rw [htally, hmade, hnext]
        by_cases hx : st.contexts = x
        · simp [hx, hinit]
        · have hiff : x < st.contexts ↔ x < st.contexts + 1 := by omega
          simp [hx, hiff]
      · rw [htally, htally]
        by_cases hx : st.contexts = x
        · simp [hx, hinit, hmodel]
          omega
        · simp [hx]
  | model hholds =>
      have hsame : st'.contexts = st.contexts := by
        rw [hcontexts]
        simp [hinit]
      refine ⟨fun e he => ?_, fun x => ?_, fun x => ?_⟩
      · rw [hcalls] at he
        rw [hsame]
        rcases List.mem_append.mp he with he | he
        · exact h.known e he
        · exact h.lt_of_holds (hholds _ (mem_onCtx he).1)
      · rw [htally, hsame, h.made x]
        simp [hinit]
      · rw [htally, htally]
        by_cases hx : ctx = some x
        · simp [hx, hinit, hmodel]
          omega
        · simp [hx]

/-- Books without a new call, and with no new `State` in use. -/
theorem Accounted.same (h : st.Accounted)
    (hstates : st'.states = st.states ∨ st'.states = st.states ++ [none])
    (hcalls : st'.calls = st.calls) : st'.Accounted := by
  have hholders : ∀ x, st'.holders x = st.holders x := by
    intro x
    rcases hstates with hstates | hstates
    · rw [holders, hstates]
      rfl
    · exact holders_of_append_none hstates
  have hmem : ∀ s, some s ∈ st'.states → some s ∈ st.states := by
    intro s hs
    rcases hstates with hstates | hstates
    · rwa [← hstates]
    · simpa [hstates] using hs
  have htally : ∀ x call, st'.tally x call = st.tally x call := fun x call => by
    rw [tally, hcalls]
    rfl
  have hcontexts : st'.contexts = st.contexts := by
    rw [contexts, hcalls]
    rfl
  refine ⟨fun s hs => h.ready s (hmem s hs), ?_, ?_, ?_, ?_⟩
  · rw [hcalls, hcontexts]
    exact h.known
  · simpa only [htally, hcontexts] using h.made
  · simpa only [htally, hholders] using h.sessions
  · simpa only [htally, hholders] using h.holding

/-- An import that fails gives back the context it has obtained. -/
theorem Accounted.failed (h : st.Accounted) {ctx : Option Nat} {source : CtxCall}
    {session : List CtxCall} (hsource : Source st ctx source)
    (hsession : session = [] ∨ session = [.sslNew, .sslFree])
    (hstates : st'.states = st.states ++ [none])
    (hcalls : st'.calls = st.calls ++ onCtx ctx (source :: (session ++ [.sslCtxFree]))) :
    st'.Accounted := by
  obtain ⟨rest, heq⟩ : ∃ rest : List CtxCall, session ++ [.sslCtxFree] = rest := ⟨_, rfl⟩
  rw [heq] at hcalls
  have hrest : rest.count .ctxInit = 0 ∧ rest.count .modelCtx = 0 ∧
      rest.count .sslNew = rest.count .sslFree ∧ rest.count .sslCtxFree = 1 := by
    subst heq
    rcases hsession with rfl | rfl <;> decide
  obtain ⟨hinit, hmodel, hpairs, hone⟩ := hrest
  obtain ⟨hnew, hfree, hctx⟩ := hsource.ne
  obtain ⟨hknown, hmade, hsum⟩ := h.obtain hsource hinit hmodel hcalls
  have htally := tally_of_append hcalls
  have hholders : ∀ x, st'.holders x = st.holders x := fun x => holders_of_append_none hstates
  have hready : ∀ s, some s ∈ st'.states → some s ∈ st.states := fun s hs => by
    simpa [hstates] using hs
  refine ⟨fun s hs => h.ready s (hready s hs), hknown, hmade, fun x => ?_, fun x => ?_⟩
  · rw [htally, htally, hholders, h.sessions x, List.count_cons_of_ne hnew,
      List.count_cons_of_ne hfree, hpairs, Nat.add_assoc]
  · have hholding := h.holding x
    rw [hsum, htally, hholders, List.count_cons_of_ne hctx, hone]
    omega

/-- An import that succeeds keeps its context, and adds a session to it. -/
theorem Accounted.finished (h : st.Accounted) {source : CtxCall} {o : ImportOptions}
    (hsource : Source st s.ctx source) (hssl : s.ssl.isSome)
    (hstates : st'.states = st.states ++ [some s.settled])
    (hcalls : st'.calls = st.calls ++
      onCtx s.ctx (source :: .sslNew :: registrations o st.states.length s.protos)) :
    st'.Accounted := by
  obtain ⟨rest, heq⟩ : ∃ rest, CtxCall.sslNew :: registrations o st.states.length s.protos = rest :=
    ⟨_, rfl⟩
  rw [heq] at hcalls
  have hregister : ∀ call, call.effect ≠ .use ∨ call = .modelCtx →
      (registrations o st.states.length s.protos).count call = 0 := fun _ =>
    count_registrations
  have hrest : rest.count .ctxInit = 0 ∧ rest.count .modelCtx = 0 ∧ rest.count .sslNew = 1 ∧
      rest.count .sslFree = 0 ∧ rest.count .sslCtxFree = 0 := by
    subst heq
    simp [hregister, CtxCall.effect]
  obtain ⟨hinit, hmodel, hone, hzero, hzero'⟩ := hrest
  obtain ⟨hnew, hfree, hctx⟩ := hsource.ne
  obtain ⟨hknown, hmade, hsum⟩ := h.obtain hsource hinit hmodel hcalls
  have htally := tally_of_append hcalls
  have hholders : ∀ x, st'.holders x = st.holders x + if s.ctx = some x then 1 else 0 :=
    fun x => holders_of_append hstates
  refine ⟨fun t ht => ?_, hknown, hmade, fun x => ?_, fun x => ?_⟩
  · rw [hstates] at ht
    rcases List.mem_append.mp ht with ht | ht
    · exact h.ready t ht
    · obtain rfl : t = s.settled := by simpa using ht
      exact fun _ => hssl
  · have hsessions := h.sessions x
    rw [htally, htally, hholders, List.count_cons_of_ne hnew, List.count_cons_of_ne hfree,
      hone, hzero, ite_self]
    omega
  · have hholding := h.holding x
    rw [hsum, htally, hholders, List.count_cons_of_ne hctx, hzero', ite_self]
    omega

/-- Calls on the context of a `State` that is in use name no new context. -/
theorem Accounted.known_of_live (h : st.Accounted) {calls : List CtxCall}
    (hlive : st.states[p]? = some (some s)) (hcalls : st'.calls = st.calls ++ onCtx s.ctx calls)
    (hcontexts : st'.contexts = st.contexts) : ∀ e ∈ st'.calls, e.ctx < st'.contexts := by
  intro e he
  rw [hcalls] at he
  rw [hcontexts]
  rcases List.mem_append.mp he with he | he
  · exact h.known e he
  · exact h.lt_of_holds (holds_of_live hlive (mem_onCtx he).1)

/-- Closing a channel leaves its context alone. -/
theorem Accounted.closed (h : st.Accounted) {calls : List CtxCall}
    (hlive : st.states[p]? = some (some s)) (hclose : ∀ call ∈ calls, call = .sslShutdown)
    (hstates : st'.states = st.states) (hcalls : st'.calls = st.calls ++ onCtx s.ctx calls) :
    st'.Accounted := by
  have hholders : ∀ x, st'.holders x = st.holders x := fun x => by
    rw [holders, hstates]
    rfl
  have hcount : ∀ call, call ≠ .sslShutdown → calls.count call = 0 := fun call hcall =>
    List.count_eq_zero_of_not_mem fun hmem => hcall (hclose call hmem)
  have htally : ∀ x call, call ≠ .sslShutdown → st'.tally x call = st.tally x call := by
    intro x call hcall
    rw [tally_of_append hcalls, hcount call hcall, ite_self, Nat.add_zero]
  have hcontexts : st'.contexts = st.contexts := by
    rw [contexts_of_append hcalls, hcount _ (by simp), ite_self, Nat.add_zero]
  refine ⟨by rw [hstates]; exact h.ready, h.known_of_live hlive hcalls hcontexts, ?_, ?_, ?_⟩
  · simpa [htally, hcontexts] using h.made
  · simpa [htally, hholders] using h.sessions
  · simpa [htally, hholders] using h.holding

/-- A `State` is freed with its session and its context. -/
theorem Accounted.cleanCalls_eq (h : st.Accounted) (hlive : st.states[p]? = some (some s))
    (hx : s.ctx = some x) : cleanCalls s = [.sslFree, .sslCtxFree] := by
  have hctx : s.ctx.isSome := by simp [hx]
  rw [cleanCalls, if_pos (h.ready s (List.mem_of_getElem? hlive) hctx), if_pos hctx]
  rfl

theorem Accounted.freed (h : st.Accounted) (hlive : st.states[p]? = some (some s))
    (hstates : st'.states = st.states.set p none)
    (hcalls : st'.calls = st.calls ++ onCtx s.ctx (cleanCalls s)) : st'.Accounted := by
  have hholders : ∀ x, st.holders x = st'.holders x + if s.ctx = some x then 1 else 0 :=
    fun x => holders_of_set hlive hstates
  have htally : ∀ x call, st'.tally x call = st.tally x call +
      if s.ctx = some x then [CtxCall.sslFree, .sslCtxFree].count call else 0 := by
    intro x call
    rw [tally_of_append hcalls]
    by_cases hx : s.ctx = some x
    · rw [if_pos hx, if_pos hx, h.cleanCalls_eq hlive hx]
    · rw [if_neg hx, if_neg hx]
  have hcontexts : st'.contexts = st.contexts := by
    rw [contexts_of_append hcalls]
    cases hctx : s.ctx with
    | none => rfl
    | some x =>
        rw [h.cleanCalls_eq hlive hctx]
        rfl
  have hmem : ∀ t, some t ∈ st'.states → some t ∈ st.states := by
    intro t ht
    rw [hstates] at ht
    exact (List.mem_or_eq_of_mem_set ht).resolve_right (by simp)
  refine ⟨fun t ht => h.ready t (hmem t ht), h.known_of_live hlive hcalls hcontexts, fun x => ?_,
    fun x => ?_, fun x => ?_⟩
  · rw [htally, hcontexts, h.made x]
    exact Nat.add_eq_left.mpr (ite_self 0)
  · have hsessions := h.sessions x
    have hx := hholders x
    have hnew : [CtxCall.sslFree, .sslCtxFree].count .sslNew = 0 := rfl
    have hfree : [CtxCall.sslFree, .sslCtxFree].count .sslFree = 1 := rfl
    rw [htally, htally, hnew, hfree, ite_self]
    omega
  · have hholding := h.holding x
    have hx := hholders x
    have hinit : [CtxCall.sslFree, .sslCtxFree].count .ctxInit = 0 := rfl
    have hmodel : [CtxCall.sslFree, .sslCtxFree].count .modelCtx = 0 := rfl
    have hctx : [CtxCall.sslFree, .sslCtxFree].count .sslCtxFree = 1 := rfl
    rw [htally, htally, htally, hinit, hmodel, hctx, ite_self]
    omega

/-- **One action keeps the books.** -/
theorem Accounted.step (h : st.Accounted) (hchange : Change st st') : st'.Accounted := by
  cases hchange with
  | same hstates hcalls himported => exact h.same hstates hcalls
  | failed hsource hsession hstates hcalls himported =>
      exact h.failed hsource hsession hstates hcalls
  | finished hsource hssl hserver hstates hcalls hsettled himported =>
      exact h.finished hsource hssl hstates hcalls
  | closed hlive hclose hstates hcalls himported => exact h.closed hlive hclose hstates hcalls
  | freed hlive hstates hcalls himported => exact h.freed hlive hstates hcalls

end Books

/-! ## Along a run -/

section Run

variable {lib : TclLibrary} {st st' : Process} {x : Nat}

/-- A context that an import has just made or copied has references. -/
theorem Balanced.source {source : CtxCall} (h : st.Balanced) (hsource : Source st (some x) source) :
    (source.effect ≠ .acquire → 0 < ctxRefs.count x st.calls) ∧
      0 < ctxRefs.count x (st.calls ++ [⟨x, source⟩]) := by
  have hnonneg := h.used.count_nonneg x
  cases hsource with
  | init =>
      refine ⟨fun hacquire => absurd rfl hacquire, ?_⟩
      rw [ctxRefs_count_snoc]
      exact Int.lt_add_one_of_le hnonneg
  | model hholds =>
      have hpos : 0 < ctxRefs.count x st.calls := h.held x (hholds x rfl)
      refine ⟨fun _ => hpos, ?_⟩
      rw [ctxRefs_count_snoc]
      exact Int.add_pos_of_pos_of_nonneg hpos (le_refl 0)

/-- Only the calls on a context have to be admitted. -/
theorem Balanced.sound_append (h : st.Balanced) {ctx : Option Nat} {calls : List CtxCall}
    (hcalls : st'.calls = st.calls ++ onCtx ctx calls)
    (hadmits : ∀ x, ctx = some x → ctxRefs.Admits st.calls (onCtx (some x) calls)) :
    ctxRefs.Sound st'.calls := by
  rw [hcalls, Accounting.sound_append]
  cases ctx with
  | none => exact ⟨h.used, trivial⟩
  | some x => exact ⟨h.used, hadmits x rfl⟩

/-- A context is released again by the import that fails with it. -/
theorem Balanced.admits_failed (h : st.Balanced) {source : CtxCall} {session : List CtxCall}
    (hsource : Source st (some x) source)
    (hsession : session = [] ∨ session = [.sslNew, .sslFree]) :
    ctxRefs.Admits st.calls (onCtx (some x) (source :: (session ++ [.sslCtxFree]))) := by
  obtain ⟨huse, hpos⟩ := h.source hsource
  rcases hsession with rfl | rfl
  · exact ⟨huse, fun _ => hpos, trivial⟩
  · have hnew : 0 < ctxRefs.count x (st.calls ++ [⟨x, source⟩] ++ [⟨x, .sslNew⟩]) := by
      rw [ctxRefs_count_snoc]
      exact Int.lt_add_one_of_le (le_of_lt hpos)
    have hfree : 0 < ctxRefs.count x
        (st.calls ++ [⟨x, source⟩] ++ [⟨x, .sslNew⟩] ++ [⟨x, .sslFree⟩]) := by
      rw [ctxRefs_count_snoc, ctxRefs_count_snoc]
      exact lt_of_lt_of_eq hpos (Int.add_neg_cancel_right _ _).symm
    exact ⟨huse, fun hacquire => absurd rfl hacquire, fun _ => hnew, fun _ => hfree, trivial⟩

/-- One that succeeds adds a session to it, and uses it. -/
theorem Balanced.admits_finished (h : st.Balanced) {source : CtxCall} {o : ImportOptions} {p : Nat}
    {protos : Option (List UInt8)} (hsource : Source st (some x) source) :
    ctxRefs.Admits st.calls (onCtx (some x) (source :: .sslNew :: registrations o p protos)) := by
  obtain ⟨huse, hpos⟩ := h.source hsource
  refine ⟨huse, fun hacquire => absurd rfl hacquire, Accounting.admits_uses (k := x) ?_ ?_⟩
  · intro e he
    obtain ⟨call, hcall, rfl⟩ := List.mem_map.mp he
    exact ⟨(registrations_use call hcall).1, rfl⟩
  · rw [ctxRefs_count_snoc]
    exact Int.lt_add_one_of_le (le_of_lt hpos)

/-- A context may be released when it has a reference to spare. -/
theorem admits_clean (hpos : 0 < ctxRefs.count x st.calls)
    (hleft : 0 ≤ ctxRefs.count x (st.calls ++ onCtx (some x) [.sslFree, .sslCtxFree])) :
    ctxRefs.Admits st.calls (onCtx (some x) [.sslFree, .sslCtxFree]) := by
  have hpair : onCtx (some x) [.sslFree, .sslCtxFree] = [⟨x, .sslFree⟩] ++ [⟨x, .sslCtxFree⟩] := rfl
  rw [hpair, ← List.append_assoc, ctxRefs_count_snoc] at hleft
  have hfree : 0 < ctxRefs.count x (st.calls ++ [⟨x, .sslFree⟩]) := Int.sub_nonneg.mp hleft
  exact ⟨fun _ => hpos, fun _ => hfree, trivial⟩

/-- What an action does to the contexts is admitted if enough of their `State`s
are left afterwards. -/
theorem Balanced.sound (h : st.Balanced) (hacc : st.Accounted) (hacc' : st'.Accounted)
    (hchange : Change st st') (hkept : st'.HalfKept) : ctxRefs.Sound st'.calls := by
  cases hchange with
  | same hstates hcalls himported =>
      rw [hcalls]
      exact h.used
  | failed hsource hsession hstates hcalls himported =>
      refine h.sound_append hcalls fun x hctx => ?_
      rw [hctx] at hsource
      exact h.admits_failed hsource hsession
  | finished hsource hssl hserver hstates hcalls hsettled himported =>
      refine h.sound_append hcalls fun x hctx => ?_
      rw [hctx] at hsource
      exact h.admits_finished hsource
  | closed hlive hclose hstates hcalls himported =>
      refine h.sound_append hcalls fun x hctx => ?_
      refine Accounting.admits_uses (k := x) ?_ (h.held x (holds_of_live hlive hctx))
      intro e he
      obtain ⟨call, hcall, rfl⟩ := List.mem_map.mp he
      obtain rfl := hclose call hcall
      exact ⟨rfl, rfl⟩
  | freed hlive hstates hcalls himported =>
      refine h.sound_append hcalls fun x hctx => ?_
      have hleft := (hacc'.halfKept_iff.mp hkept x).1
      have hclean := hacc.cleanCalls_eq hlive hctx
      rw [refs, hcalls, hctx, hclean] at hleft
      rw [hclean]
      exact admits_clean (h.held x (holds_of_live hlive hctx)) hleft

/-- **One step.**  A balanced process stays balanced exactly if, of the `State`s
of every context, enough are left. -/
theorem balanced_step (hacc : st.Accounted) (h : st.Balanced) (hchange : Change st st') :
    st'.Balanced ↔ st'.HalfKept := by
  have hacc' := hacc.step hchange
  constructor
  · intro h'
    exact hacc'.halfKept_iff.mpr fun x => ⟨h'.used.count_nonneg x, h'.held x⟩
  · intro hkept
    have hrefs := hacc'.halfKept_iff.mp hkept
    refine ⟨fun x => ?_, h.sound hacc hacc' hchange hkept, fun x => (hrefs x).2⟩
    have hnonneg := (hrefs x).1
    rw [refs, ctxRefs_count] at hnonneg
    unfold tally
    omega

theorem run_append_singleton (actions : List Action) (a : Action) :
    st.run lib (actions ++ [a]) = (st.run lib actions).perform lib a :=
  List.foldl_append

variable {find : String → Option Nat} {chan : Nat → Chan}

theorem accounted_start : (start find chan).Accounted where
  ready _ hs := absurd hs List.not_mem_nil
  known _ he := absurd he List.not_mem_nil
  made x := (if_neg (Nat.not_lt_zero x)).symm
  sessions _ := rfl
  holding _ := rfl

theorem balanced_start : (start find chan).Balanced where
  released _ := le_refl 0
  used := Accounting.sound_nil
  held _ hx := absurd (holds_iff.mp hx) (Nat.lt_irrefl 0)

/-- **The books are kept** through every run. -/
theorem accounted_run (actions : List Action) :
    ((start find chan).run lib actions).Accounted := by
  induction actions using List.reverseRecOn with
  | nil => exact accounted_start
  | append_singleton actions a ih =>
      rw [run_append_singleton]
      exact ih.step (perform_change lib _ a)

/-- A run in which enough `State`s are left at all times is balanced. -/
theorem balanced_run (actions : List Action)
    (hkept : ∀ pre, pre <+: actions → ((start find chan).run lib pre).HalfKept) :
    ((start find chan).run lib actions).Balanced := by
  induction actions using List.reverseRecOn with
  | nil => exact balanced_start
  | append_singleton actions a ih =>
      have hbefore := ih fun pre hpre => hkept pre (hpre.trans (List.prefix_append actions [a]))
      have hafter := hkept _ (List.prefix_refl _)
      rw [run_append_singleton] at hafter ⊢
      exact (balanced_step (accounted_run actions) hbefore (perform_change lib _ a)).mpr hafter

end Run

/-- **The ownership of contexts balances** all through a run exactly if at all
times at least half of the `State`s of every context that was given away with
`-model` are left. -/
theorem contexts_balanced_iff (lib : TclLibrary) (find : String → Option Nat) (chan : Nat → Chan)
    (actions : List Action) :
    (∀ pre, pre <+: actions → ((start find chan).run lib pre).Balanced) ↔
      ∀ pre, pre <+: actions → ((start find chan).run lib pre).HalfKept := by
  constructor
  · intro h pre hpre
    exact (accounted_run pre).halfKept_iff.mpr fun x =>
      ⟨(h pre hpre).used.count_nonneg x, (h pre hpre).held x⟩
  · intro h pre hpre
    exact balanced_run pre fun pre' hpre' => h pre' (hpre'.trans hpre)

/-- Both are imported, the second one with the first one as its model, and then
closed. -/
def shareAndClose : List Action :=
  [.tlsImport (answering (.ok ()) (.ok ())) ["tls::import", "sock4"],
    .tlsImport (answering (.ok ()) (.ok ())) ["tls::import", "sock5", "-model", "sock4"],
    .close 0, .free 1, .close 0, .free 0]

/-- The context of the two is released four times and was acquired three times. -/
theorem contexts_unbalanced :
    ¬ ((start twoSockets oneSocket.chan).run .plain shareAndClose).Balanced := by
  intro h
  exact absurd (h.released 0) (by decide)

end Process

end TclTls
