import TclTls.Interaction.Policy
import TclTls.Lifetime

/-!
# TclTls.TimerRefs

The timer of a connection and the reference that goes with it.  `TlsWatchProc`
takes the reference and creates the timer, `TlsNotifyProc`, `TlsCloseProc` and
`TlsWatchProc` itself cancel it, and `TlsChannelHandlerTimer` takes it over and
gives it back when the handlers of the channel have run, which may have done any
of this.

Every activity counts what it takes (`timerPolicy`), so the references are
accounted for to the last one whenever others may run: those of the timer, of
the handlers of timers that have fired, and of the `EvalCallback`s whose script
has not returned.  Nothing is assumed of what the scripts do.
-/

namespace TclTls

open Interaction
open Interaction.Program (state update)

variable (lib : Platform)

/-! ## The terms of an activity -/

/-- Every activity counts its references. -/
def timerPolicy : Policy (reentrant lib) Account where
  terms x := exactTerms False x.role
  opens := Activity.opens
  closed := {}

/-- The activity gives up nothing that it was not begun for. -/
def Within (x : Activity) (a : Account) : Prop := a.closing ≤ x.opens.closing

/-- Books that are square, with one timer at most.  None is left when the channel
has been closed and no close is under way, nor is there anyone to arm one. -/
structure Reckoned (s : State) (g : Books) (xs : List Activity) (as : List Account) : Prop
    extends Squared s g (total as) where
  pending : g.refs.pendingFree = true → 0 < g.refs.preserved
  single : g.refs.timers ≤ 1
  gone : g.closed = true → (total as).closing = 0 → g.refs.timers = 0
  disarmed : g.closed = true → ∀ x ∈ xs, x.role.arms = false
  within : List.Forall₂ Within xs as

/-- The activity waits for the script of an `EvalCallback`. -/
def Evaluates (f : (reentrant lib).Activation) : Bool :=
  match f.stage with
  | .pending e _ => e.evaluates
  | .running _ => false

section Waits

variable {lib} {s : State} {g : Books} {f : (reentrant lib).Activation}
  {fs : List (reentrant lib).Activation} {x : Activity} {xs : List Activity} {a : Account}
  {as : List Account} {e : Call}

/-- A call during which others may run is made with the references of a timer and
a script, and with nothing half done. -/
theorem Account.Exact.of_exposed {ro : Role} (he : e.exposed = true) (h : a.Exact ro s e) :
    ro.arms = false ∧ a.held = ro.fires.toNat + e.evaluates.toNat := by
  cases e <;> first
    | contradiction
    | exact h he

theorem Waits.exact (h : (timerPolicy lib).Waits f a) :
    f.proc.role.arms = false ∧ a.held = f.proc.role.fires.toNat + (Evaluates lib f).toNat ∧
      a.armed = 0 ∧ a.owner = 0 := by
  obtain ⟨q, p | ⟨e, k⟩⟩ := f
  · exact h.1.elim
  · obtain ⟨⟨haffords, -⟩, hexact⟩ := (h.2 {}).1
    obtain ⟨harms, hheld⟩ := hexact.of_exposed h.1
    obtain ⟨howner, harmed⟩ := haffords.of_exposed h.1
    exact ⟨harms, hheld, harmed, howner⟩

/-- What suspended activities have between them. -/
theorem total_of_waits (h : List.Forall₂ (timerPolicy lib).Waits fs as) :
    (total as).held = fs.countP (·.proc.role.fires) + fs.countP (Evaluates lib) ∧
      (total as).armed = 0 ∧ (total as).owner = 0 := by
  induction h with
  | nil => exact ⟨rfl, rfl, rfl⟩
  | @cons f a fs as hwaits _ ih =>
      obtain ⟨-, hheld, harmed, howner⟩ := Waits.exact hwaits
      obtain ⟨hheld', harmed', howner'⟩ := ih
      simp only [total, List.countP_cons, hheld, hheld', harmed, harmed', howner, howner']
      cases f.proc.role.fires <;> cases Evaluates lib f <;> simp <;> omega

theorem disarmed_of_waits (h : List.Forall₂ (timerPolicy lib).Waits fs as) :
    ∀ x ∈ Policy.procs fs, x.role.arms = false := by
  induction h with
  | nil => simp
  | cons hwaits _ ih => simpa [(Waits.exact hwaits).1] using ih

end Waits

/-! ## What the steps do to the books -/

section Reckoned

variable {lib} {s s' : State} {g : Books} {fs : List (reentrant lib).Activation} {x : Activity}
  {xs : List Activity} {a : Account} {as : List Account} {e : Call}

theorem Within.settle (h : Within x a) (e : Call) (r : e.Ans) : Within x (a.settle e r) := by
  have hclosing : (a.settle e r).closing ≤ a.closing := by cases e <;> simp [Account.settle]
  exact hclosing.trans h

theorem Reckoned.write (h : Reckoned s g (x :: xs) (a :: as))
    (hcarried : s'.carried ≤ a.held + s.carried) :
    Reckoned s' g (x :: xs) (a.book s s' :: as) where
  toSquared := h.toSquared.write hcarried
  pending := h.pending
  single := h.single
  gone := h.gone
  disarmed := h.disarmed
  within := by
    obtain ⟨hwithin, hrest⟩ := List.forall₂_cons.mp h.within
    exact .cons hwithin hrest

/-- The free procedure is left to the last reference when there is one. -/
theorem pendingFree_after (hpending : g.refs.pendingFree = true → 0 < g.refs.preserved) (e : Call)
    (hafter : (g.refs.after e).pendingFree = true) : 0 < (g.refs.after e).preserved := by
  cases e
  case preserve => simp [Refs.after]
  case release =>
      simp only [Refs.after, Refs.lastRelease] at hafter ⊢
      have hmany : ¬ g.refs.preserved ≤ 1 := by
        intro hone
        simp [hone] at hafter
      omega
  case eventuallyFree => simpa [Refs.after, Nat.pos_iff_ne_zero] using hafter
  all_goals exact hpending hafter

theorem Reckoned.answer {r : e.Ans} (h : Reckoned s g (x :: xs) (a :: as))
    (howner : (total as).owner = 0) (harmed : (total as).armed = 0)
    (haffords : a.Affords s e) (hexact : a.Exact x.role s e) (hreply : g.Replies e r) :
    a.Answers s e r ∧
      Reckoned s { g with refs := g.refs.after e } (x :: xs) (a.settle e r :: as) := by
  obtain ⟨hanswers, hsquared⟩ := h.toSquared.answer howner harmed haffords hreply
  obtain ⟨hwithin, hrest⟩ := List.forall₂_cons.mp h.within
  have hwithin' := List.Forall₂.cons (hwithin.settle e r) hrest
  have hpending := pendingFree_after h.pending e
  have htimers := h.timers
  simp only [total, harmed] at htimers
  suffices hnew : (g.refs.after e).timers ≤ 1 ∧ (g.closed = true →
      (total (a.settle e r :: as)).closing = 0 → (g.refs.after e).timers = 0) from
    ⟨hanswers, hsquared, hpending, hnew.1, hnew.2, h.disarmed, hwithin'⟩
  have hsingle := h.single
  cases e
  case createTimerHandler ms =>
      obtain ⟨harms, hnone⟩ := hexact
      refine ⟨?_, fun hclosed _ => ?_⟩
      · simp only [Refs.after]
        omega
      · have hdisarmed := h.disarmed hclosed x List.mem_cons_self
        simp [harms] at hdisarmed
  case eventuallyFree =>
      have hnone : s.carried + a.armed = 0 := hexact
      have hzero : g.refs.timers = 0 := by omega
      exact ⟨hsingle, fun _ _ => hzero⟩
  case deleteTimerHandler =>
      have hgone := h.gone
      simp only [Refs.after, Account.settle, total] at hgone ⊢
      exact ⟨by omega, fun hclosed hclosing => by simp [hgone hclosed hclosing]⟩
  all_goals exact ⟨hsingle, h.gone⟩

theorem Reckoned.finish (h : Reckoned s g (x :: xs) ({} :: as)) : Reckoned s g xs as where
  toSquared := by simpa using h.toSquared
  pending := h.pending
  single := h.single
  gone := by simpa using h.gone
  disarmed hclosed y hy := h.disarmed hclosed y (List.mem_cons_of_mem x hy)
  within := (List.forall₂_cons.mp h.within).2

/-- Nobody starts to watch a channel that has been closed. -/
theorem TclStarts.disarmed (hx : TclStarts lib ⟨s, g, fs⟩ x) (hclosed : (g.enter x).closed = true) :
    x.role.arms = false := by
  cases x with
  | request q =>
      cases q with
      | watch mask =>
          have hopen : g.closed = false := hx
          simp [Books.enter, Request.closes, hopen] at hclosed
      | _ => rfl
  | _ => rfl

/-- Only a close closes the channel. -/
theorem closed_of_enter (hclosed : (g.enter x).closed = true) (hx : x.opens.closing = 0) :
    g.closed = true := by
  cases x with
  | request q =>
      by_cases hq : q = .timer
      · subst hq
        exact hclosed
      · rw [Activity.opens_request hq] at hx
        have hnot : q.closes = false := by simpa using hx
        simpa [Books.enter_request hq, hnot] using hclosed
  | _ => exact hclosed

theorem Reckoned.enter (h : Reckoned s g (Policy.procs fs) as) (hx : TclStarts lib ⟨s, g, fs⟩ x)
    (hdisarmed : ∀ y ∈ Policy.procs fs, y.role.arms = false) :
    Reckoned s (g.enter x) (x :: Policy.procs fs) (x.opens :: as) := by
  obtain ⟨n, hle, hrefs⟩ := Books.enter_refs x g
  refine ⟨h.toSquared.enter hx, ?_, ?_, fun hclosed hclosing => ?_, fun hclosed => ?_,
    .cons le_rfl h.within⟩
  · rw [hrefs]
    exact h.pending
  · rw [hrefs]
    exact hle.trans h.single
  · simp only [total] at hclosing
    have hzero := h.gone (closed_of_enter hclosed (by omega)) (by omega)
    rw [hrefs]
    exact Nat.eq_zero_of_le_zero (hzero ▸ hle)
  · exact List.forall_mem_cons.mpr ⟨hx.disarmed hclosed, hdisarmed⟩

/-- **Every step keeps the books.** -/
theorem timer_audit :
    (timerPolicy lib).Audit (tcl lib) (TclStarts lib) Reckoned where
  exposed hstarts := hstarts.exposed
  write hwrites h := h.write hwrites.2
  answer hwaits hallowed hreply h := by
    obtain ⟨-, harmed, howner⟩ := total_of_waits hwaits
    exact h.answer howner harmed hallowed.1.1 hallowed.2 hreply
  finish h := h.finish
  start hwaits hx h := by
    have hidle := (total_of_waits hwaits).2.1
    refine ⟨?_, h.enter hx (disarmed_of_waits hwaits)⟩
    refine Activity.body_exact lib _ False.elim fun htimer => ?_
    subst htimer
    exact h.toSquared.armed hidle hx

end Reckoned

/-! ## Every run -/

/-- Others may run: nothing is active, or the latest activation waits for a call
that lets them. -/
def AtRest (x : Scene lib) : Prop := ∀ f ∈ x.stack.head?, f.Awaits (fun e => e.exposed = true)

/-- No `TlsCloseProc` is under way. -/
def NoClose (x : Scene lib) : Prop :=
  ∀ f ∈ x.stack, ∀ q, f.proc = .request q → q.closes = false

/-- The timer, its reference, and what becomes of the `State`.

* `refs` — whenever others may run, the references are that of the timer, one for
  each `TlsChannelHandlerTimer` in progress, and one for each `EvalCallback` whose
  script has not returned;
* `noted`, `single` — there is one timer at most, and `State.timer` says whether
  there is one when others may run; so the handler of each one finds it there;
* `gone` — there is none after a close;
* `unheld` — `Tls_Free` is called once, when there is neither a reference nor a
  timer;
* `kept` — until then a `State` that has been given up has a reference;
* `ended` — it has been called when nothing is active any more. -/
structure TimerAccounted (x : Scene lib) : Prop where
  refs : AtRest lib x → x.env.refs.preserved =
    x.env.refs.timers + x.stack.countP (·.proc.role.fires) + x.stack.countP (Evaluates lib)
  noted : AtRest lib x → x.env.refs.timers = x.st.timer.toNat
  single : x.env.refs.timers ≤ 1
  gone : x.env.closed = true → NoClose lib x → x.env.refs.timers = 0
  unheld : ∀ f ∈ x.stack.head?, f.Awaits (· = .free) →
    x.env.refs.freed = false ∧ x.env.refs.preserved = 0 ∧ x.env.refs.timers = 0
  kept : AtRest lib x → x.env.closed = true → NoClose lib x → x.env.refs.freed = false →
    0 < x.env.refs.preserved
  ended : x.stack = [] → x.env.closed = true → x.env.refs.freed = true

section Runs

variable {lib} {s : State} {g : Books} {fs : List (reentrant lib).Activation} {xs : List Activity}
  {a : Account} {as : List Account}

theorem opens_closing {x : Activity} (hx : ∀ q, x = .request q → q.closes = false) :
    x.opens.closing = 0 := by
  cases x with
  | request q =>
      by_cases hq : q = .timer
      · subst hq
        rfl
      · simp [Activity.opens_request hq, hx q rfl]
  | _ => rfl

theorem closing_of_within (h : List.Forall₂ Within xs as) (hxs : ∀ x ∈ xs, x.opens.closing = 0) :
    (total as).closing = 0 := by
  induction h with
  | nil => rfl
  | cons hwithin _ ih =>
      rw [List.forall_mem_cons] at hxs
      rw [Within, hxs.1] at hwithin
      have hrest := ih hxs.2
      simp only [total]
      omega

theorem Reckoned.refs (h : Reckoned s g xs as)
    (hwaits : List.Forall₂ (timerPolicy lib).Waits fs as) :
    g.refs.preserved = g.refs.timers + fs.countP (·.proc.role.fires) + fs.countP (Evaluates lib) ∧
      g.refs.timers = s.timer.toNat := by
  obtain ⟨hheld, harmed, -⟩ := total_of_waits hwaits
  have hpreserved := h.preserved
  have htimers := h.timers
  rw [State.carried] at hpreserved htimers
  omega

/-- A `State` that has been given up and not freed is kept by a reference. -/
theorem Reckoned.kept (h : Reckoned s g xs as) (howner : (total as).owner = 0)
    (hclosing : (total as).closing = 0) (hclosed : g.closed = true)
    (hfreed : g.refs.freed = false) : 0 < g.refs.preserved := by
  have hright := h.right
  rw [hclosed, hclosing, howner, hfreed] at hright
  have hpending : g.refs.pendingFree = true := by simpa using hright
  exact h.pending hpending

/-- `Tls_Free` is called by who has the right to. -/
theorem owner_of_free {f : (reentrant lib).Activation} (hobeys : (timerPolicy lib).Obeys f a s)
    (hf : f.Awaits (· = .free)) : 0 < a.owner := by
  obtain ⟨q, p | ⟨e, k⟩⟩ := f
  · exact hf.elim
  · have hfree : e = .free := hf
    subst hfree
    exact hobeys.1.1.1

theorem Reckoned.freeing (h : Reckoned s g xs (a :: as)) (ha : 0 < a.owner) :
    g.refs.freed = false ∧ g.refs.preserved = 0 ∧ g.refs.timers = 0 := by
  have hright := h.right
  have howner : 0 < (total (a :: as)).owner := Nat.add_pos_left ha _
  have hopen : (!g.closed).toNat = 0 := by omega
  have hclosed : g.closed = true := by simpa using hopen
  have hunfreed : g.refs.freed.toNat = 0 := by omega
  exact ⟨by simpa using hunfreed, h.unheld howner, h.gone hclosed (by omega)⟩

/-- **The reference of the timer is accounted for in every run**, and the `State`
is freed once, with the last reference. -/
theorem timer_refs {s : State} (hs : s.timer = false) {x : Scene lib}
    (hx : (tcl lib).Run (TclStarts lib) ⟨s, {}, []⟩ x) : TimerAccounted lib x := by
  have hstart : Reckoned s {} [] [] := by
    refine ⟨⟨?_, ?_, ?_, ?_⟩, ?_, ?_, ?_, ?_, ?_⟩ <;> simp [total, State.carried, hs]
  obtain ⟨as, hkept, h⟩ := timer_audit.run hx hstart
  have hclosing : NoClose lib x → (total as).closing = 0 := fun hno =>
    closing_of_within h.within (List.forall_mem_map.mpr fun f hf => opens_closing (hno f hf))
  have hrefs : AtRest lib x → _ := fun hrest => h.refs (hkept.waits hrest)
  have hlast : AtRest lib x → x.env.closed = true → NoClose lib x → x.env.refs.freed = false →
      0 < x.env.refs.preserved := fun hrest hclosed hno =>
    h.kept (total_of_waits (hkept.waits hrest)).2.2 (hclosing hno) hclosed
  have hgone : x.env.closed = true → NoClose lib x → x.env.refs.timers = 0 := fun hclosed hno =>
    h.gone hclosed (hclosing hno)
  refine ⟨fun hrest => (hrefs hrest).1, fun hrest => (hrefs hrest).2, h.single, hgone, ?_, hlast,
    ?_⟩
  · intro f hf hfree
    obtain ⟨f', fs, hstack⟩ : ∃ f' fs, x.stack = f' :: fs :=
      List.exists_cons_of_ne_nil fun hnone => by simp [hnone] at hf
    rw [hstack] at hkept hf h
    obtain rfl : f' = f := by simpa using hf
    cases hkept with
    | cons hobeys _ => exact h.freeing (owner_of_free hobeys hfree)
  · intro hnone hclosed
    by_contra hfreed
    have hrest : AtRest lib x := by simp [AtRest, hnone]
    have hno : NoClose lib x := by simp [NoClose, hnone]
    have hheld := hlast hrest hclosed hno (by simpa using hfreed)
    rw [(hrefs hrest).1, hgone hclosed hno, hnone] at hheld
    contradiction

end Runs

/-- A channel that is watched has a timer, and one reference for it. -/
theorem watched_armed : (tcl .plain).Run (TclStarts .plain) ⟨reportingServer, {}, []⟩
    ⟨{ reportingServer with timer := true, watchMask := { readable := true } },
      { refs := { preserved := 1, timers := 1 } }, []⟩ := by
  have hwatch : (tcl .plain).Run (TclStarts .plain) _ _ := Surroundings.run_handler
    (Books.respond_replies .plain) (TclStarts .plain) (.request (.watch { readable := true }))
    [] ((Request.watch { readable := true }).proc .plain) (fun _ => pure ()) ⟨reportingServer, {}⟩
  exact .head (.start (m := reentrant .plain) (.request (.watch { readable := true })) trivial rfl)
    (hwatch.tail .finish)

/-- The timer fires, and its handler tells the handlers of the channel. -/
theorem armed_fired (s : State) :
    ∃ mask k, (tcl .plain).Run (TclStarts .plain)
      ⟨s, { refs := { preserved := 1, timers := 1 } }, []⟩
      ⟨{ s with timer := false }, { refs := { preserved := 1 } },
        [⟨.request .timer, .pending (.notifyChannel mask) k⟩]⟩ := by
  have hstart : (tcl .plain).Run (TclStarts .plain)
      ⟨s, { refs := { preserved := 1, timers := 1 } }, []⟩
      ⟨s, { refs := { preserved := 1 } },
        [Machine.enter (m := reentrant .plain) (.request .timer)]⟩ :=
    .single (.start (m := reentrant .plain) (.request .timer) trivial Nat.one_pos)
  have hbody : (reentrant .plain).body (.request .timer) = (do
      let s ← state
      update fun s => { s with timer := false }
      let mask ← timerMask
      call (.notifyChannel mask)
      update fun s => { s with want := {} }
      let _ ← (if s.timer then tclRelease else pure ())
      pure ()) := by
    simp [Activity.body, Request.proc, tlsChannelHandlerTimer, Program.bind_assoc]
  rw [Machine.enter, hbody] at hstart
  exact ⟨_, _, hstart.trans (.head .get (.head .get (.head .set (.tail (Surroundings.run_handler
    (Books.respond_replies .plain) (TclStarts .plain) (.request .timer) [] timerMask _
    ⟨{ s with timer := false }, { refs := { preserved := 1 } }⟩) .issue))))⟩

/-- They close the channel: the `State` waits for the handler of the timer. -/
theorem timer_refs_fired :
    ∃ x : Scene .plain,
      x.env = { refs := { preserved := 1, pendingFree := true }, closed := true } ∧
      x.stack.map (·.proc) = [.request .timer] ∧ TimerAccounted .plain x := by
  obtain ⟨mask, k, hfired⟩ := armed_fired
    { reportingServer with timer := true, watchMask := { readable := true } }
  have hclose : (tcl .plain).Run (TclStarts .plain) _ _ := Surroundings.run_handler
    (Books.respond_replies .plain) (TclStarts .plain) (.request .close)
    [⟨.request .timer, .pending (.notifyChannel mask) k⟩] (Request.close.proc .plain)
    (fun _ => pure ()) ⟨{ reportingServer with watchMask := { readable := true } },
      { refs := { preserved := 1 }, closed := true }⟩
  have hclosed := hclose.tail .finish
  refine ⟨_, ?_, ?_, timer_refs (s := reportingServer) rfl (watched_armed.trans (hfired.trans (.head
    (.start (m := reentrant .plain) (.request .close) rfl rfl) hclosed)))⟩
  · rfl
  · rfl

end TclTls
