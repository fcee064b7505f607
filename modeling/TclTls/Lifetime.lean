import TclTls.Account

/-!
# TclTls.Lifetime

How long a `State` lives.  `Tcl_EventuallyFree` in `TlsCloseProc` frees it at
once when nobody holds a reference, otherwise the last `Tcl_Release` does; and
scripts close the channel while driver procedures run on it, to any depth.

The books of Tcl are made up by the accounts of all that is active on the
connection (`Balanced`), and one step keeps them so (`Accounted.step`).  Once
the channel has been closed the outermost activity has to keep to a cover of its
own, since nothing else keeps the `State` for it.  `ClosedSafely` says when it
does; then the `State` outlives it (`state_outlives`).  The procedures that do
I/O mostly do not: `TlsInputProc` and `TlsOutputProc` rely on the reference of
an `EvalCallback` that is over when they set their flags.  A script that closes
the channel before has freed the `State` under them (`freed_early`), and so has
one that does it in a callback of the library (`freed_in_operation`).
-/

namespace TclTls

open Interaction
open Interaction.Program (state update)

variable (lib : Platform)

/-! ## Tcl's books -/

/-- What Tcl knows of a connection: the references to its `State` and its timer
handlers, and whether the channel has been closed. -/
structure Books where
  refs : Refs := {}
  closed : Bool := false
deriving DecidableEq, Repr

/-- The answers of `Tcl_Release` and `Tcl_EventuallyFree`: whether the free
procedure is run on the spot. -/
def Books.Replies (g : Books) : (e : Call) → e.Ans → Prop
  | .release, now => now = g.refs.lastRelease
  | .eventuallyFree, now => now = decide (g.refs.preserved = 0)
  | _, _ => True

/-- The notifier removes a timer handler before it calls it, and a channel is
marked closed before its close procedure is called. -/
def Books.enter : Activity → Books → Books
  | .request .timer, g => { g with refs.timers := g.refs.timers - 1 }
  | .request q, g => { g with closed := g.closed || q.closes }
  | .verify .., g | .callback _, g => g

/-- Tcl as the surroundings of a connection. -/
def tcl : Surroundings (reentrant lib) Books where
  reply g e r := g.Replies e r
  after g e := { g with refs := g.refs.after e }
  enter := Books.enter

/-- A connection with the activities on it. -/
abbrev Scene := (reentrant lib).Scene Books

/-- What Tcl may start: a timer handler it holds, and any other procedure of the
driver as long as the channel has not been closed.  The library calls back in
the middle of its own operations only. -/
def TclStarts (x : Scene lib) : Activity → Prop
  | .request .timer => 0 < x.env.refs.timers
  | .request _ => x.env.closed = false
  | .verify .. | .callback _ => x.stack ≠ []

/-! ## Accesses -/

/-- The outermost activity has made its last access to a `State` that has been
freed. -/
def Outlives (x : Scene lib) : Prop :=
  x.env.refs.freed = true → ∀ f ∈ x.stack.getLast?, Quiet f.rest

/-- The activity waits for a script in `EvalCallback`, and does nothing with the
`State` after that. -/
def InLastCallback (f : (reentrant lib).Activation) : Prop :=
  ∃ (cmd : Command) (rest : EvalOutcome → Driver Unit), (∀ o, Quiet (rest o)) ∧
    f.stage = .pending (.evalObj cmd) fun o => do evalReturn o; rest o

/-- A channel is closed by a script only if the outermost procedure on it is the
timer handler, or does nothing with the `State` after the `EvalCallback` it
waits for. -/
def ClosedSafely (x : Scene lib) : Activity → Prop
  | .request q => q.closes = true →
      ∀ f ∈ x.stack.getLast?, f.proc = .request .timer ∨ InLastCallback lib f
  | .verify .. | .callback _ => True

/-! ## The books of a stack -/

/-- All accounts together. -/
def total : List Account → Account
  | [] => {}
  | a :: as =>
      ⟨a.held + (total as).held, a.armed + (total as).armed, a.closing + (total as).closing,
        a.owner + (total as).owner⟩

@[simp] theorem total_cons_empty (as : List Account) : total ({} :: as) = total as := by
  simp [total]

/-- What holds of the books also when a `State` is used that has been freed: they
are the state and the accounts, the right to free the `State` is in one place,
and there is no reference when an activity has it. -/
structure Squared (s : State) (g : Books) (t : Account) : Prop where
  preserved : g.refs.preserved = s.carried + t.held
  timers : (g.refs.timers : Int) = s.carried + t.armed
  right : (!g.closed).toNat + t.closing + g.refs.pendingFree.toNat + t.owner +
    g.refs.freed.toNat = 1
  unheld : 0 < t.owner → g.refs.preserved = 0

/-- Tcl's books are the state and the accounts.  The right to free the `State`
is in one place: the channel is open, or an activity is to give it up or to free
it, or the last reference will, or it has been used. -/
structure Balanced (s : State) (g : Books) (t : Account) : Prop where
  preserved : g.refs.preserved = s.carried + t.held
  timers : (g.refs.timers : Int) = s.carried + t.armed
  right : (!g.closed).toNat + t.closing + g.refs.pendingFree.toNat + t.owner +
    g.refs.freed.toNat = 1
  spent : 0 < t.owner + g.refs.freed.toNat → g.refs.preserved = 0

/-- The activity keeps the terms from the state `s` on. -/
def Obeys (P : Prop) (f : (reentrant lib).Activation) (a : Account) (s : State) : Prop :=
  f.rest.Keeps (terms P) (fun _ a _ => a = {}) a s

/-- The activity above `fs` is the outermost one, and has to keep to its cover:
it handles a timer, or the channel has been closed. -/
def Sheltered (closed : Bool) (f : (reentrant lib).Activation)
    (fs : List (reentrant lib).Activation) : Prop :=
  fs = [] ∧ (closed = true ∨ f.proc = .request .timer)

/-- Suspended activities go on from whatever state they find. -/
def Waiting (closed : Bool) : List (reentrant lib).Activation → List Account → Prop
  | [], [] => True
  | f :: fs, a :: as => f.Awaits (fun e => e.exposed = true) ∧
      (∀ s, Obeys lib (Sheltered lib closed f fs) f a s) ∧ Waiting closed fs as
  | _, _ => False

/-- Every activity keeps the terms. -/
def Kept (closed : Bool) (s : State) : List (reentrant lib).Activation → List Account → Prop
  | [], [] => True
  | f :: fs, a :: as => Obeys lib (Sheltered lib closed f fs) f a s ∧ Waiting lib closed fs as
  | _, _ => False

/-- The invariant. -/
def Accounted (x : Scene lib) : Prop :=
  ∃ as, Kept lib x.env.closed x.st x.stack as ∧ Balanced x.st x.env (total as)

section Step

variable {lib} {closed : Bool} {s s' : State} {g : Books} {fs : List (reentrant lib).Activation}
  {a : Account} {as : List Account} {e : Call}

theorem waiting_nil : Waiting lib closed [] as ↔ as = [] := by
  cases as <;> simp [Waiting]

theorem waiting_cons {f : (reentrant lib).Activation} :
    Waiting lib closed (f :: fs) as ↔ ∃ a as', as = a :: as' ∧
      f.Awaits (fun e => e.exposed = true) ∧
      (∀ s, Obeys lib (Sheltered lib closed f fs) f a s) ∧ Waiting lib closed fs as' := by
  cases as <;> simp [Waiting]

theorem kept_nil : Kept lib closed s [] as ↔ as = [] := by
  cases as <;> simp [Kept]

theorem kept_cons {f : (reentrant lib).Activation} :
    Kept lib closed s (f :: fs) as ↔ ∃ a as', as = a :: as' ∧
      Obeys lib (Sheltered lib closed f fs) f a s ∧ Waiting lib closed fs as' := by
  cases as <;> simp [Kept]

theorem Waiting.kept (h : Waiting lib closed fs as) (s : State) : Kept lib closed s fs as := by
  cases fs with
  | nil => exact kept_nil.mpr (waiting_nil.mp h)
  | cons f fs =>
      obtain ⟨a, as, rfl, -, hobeys, hrest⟩ := waiting_cons.mp h
      exact ⟨hobeys s, hrest⟩

/-- A suspended activity waits for a call that the terms allow. -/
theorem allowed_of_awaits {P : Prop} {f : (reentrant lib).Activation}
    (hf : f.Awaits (fun e => e.exposed = true)) (h : Obeys lib P f a s) :
    ∃ e, e.exposed = true ∧ (terms P).allowed a s e := by
  obtain ⟨q, p | ⟨e, k⟩⟩ := f
  · exact hf.elim
  · exact ⟨e, hf, h.1⟩

theorem Waiting.idle (h : Waiting lib closed fs as) :
    (total as).armed = 0 ∧ (total as).owner = 0 := by
  induction fs generalizing as with
  | nil =>
      obtain rfl := waiting_nil.mp h
      exact ⟨rfl, rfl⟩
  | cons f fs ih =>
      obtain ⟨a, as, rfl, hf, hobeys, hrest⟩ := waiting_cons.mp h
      obtain ⟨e, he, haffords, -⟩ := allowed_of_awaits hf (hobeys {})
      obtain ⟨howner, harmed⟩ := haffords.of_exposed he
      obtain ⟨harmed', howner'⟩ := ih hrest
      simp [total, harmed, howner, harmed', howner']

/-- On a closed channel the outermost activity has a cover of its own. -/
theorem Waiting.firm (h : Waiting lib true fs as) (hfs : fs ≠ []) : (total as).Firm := by
  induction fs generalizing as with
  | nil => contradiction
  | cons f fs ih =>
      obtain ⟨a, as, rfl, hf, hobeys, hrest⟩ := waiting_cons.mp h
      rcases eq_or_ne fs [] with rfl | hne
      · obtain ⟨e, he, -, hcover⟩ := allowed_of_awaits hf (hobeys {})
        have hfirm := hcover ⟨rfl, .inl rfl⟩ (Call.touches_of_exposed he)
        rw [if_pos he] at hfirm
        simp only [Account.Firm, total] at hfirm ⊢
        omega
      · have hfirm := ih hrest hne
        simp only [Account.Firm, total] at hfirm ⊢
        omega

/-- A write moves references between the state and the account. -/
theorem Squared.write (h : Squared s g (total (a :: as)))
    (hcarried : s'.carried ≤ a.held + s.carried) : Squared s' g (total (a.book s s' :: as)) := by
  obtain ⟨hpreserved, htimers, hright, hunheld⟩ := h
  simp only [total] at *
  refine ⟨?_, ?_, hright, hunheld⟩ <;> simp only [Account.book] <;> omega

/-- `Tcl_Release` frees the `State` with the last reference, and then it is the
account's. -/
theorem Squared.release {now : Bool} (h : Squared s g (total (a :: as)))
    (howner : (total as).owner = 0) (hheld : 0 < a.held) (hreply : now = g.refs.lastRelease) :
    (now = true → a.held = 1 ∧ s.carried = 0) ∧
      Squared s { g with refs := g.refs.after .release } (total (a.settle .release now :: as)) := by
  obtain ⟨hpreserved, htimers, hright, hunheld⟩ := h
  have hnow : now = true ↔ g.refs.preserved ≤ 1 ∧ g.refs.pendingFree = true := by
    simp [hreply, Refs.lastRelease]
  simp only [total] at *
  refine ⟨fun htrue => ?_, ?_, htimers, ?_, ?_⟩
  · have hone := (hnow.mp htrue).1
    omega
  · simp only [Refs.after, Account.settle]
    omega
  · simp only [Refs.after, Account.settle, ← hreply]
    cases hr : now with
    | false => simpa using hright
    | true =>
        have hpending := (hnow.mp hr).2
        simp only [hpending, Bool.toNat_true] at hright
        simp
        omega
  · simp only [Refs.after, Account.settle]
    intro hown
    cases hr : now with
    | false =>
        simp only [hr, Bool.toNat_false] at hown
        have hzero := hunheld (by omega)
        omega
    | true =>
        have hone := (hnow.mp hr).1
        omega

/-- `Tcl_EventuallyFree` leaves the `State` to the account or to the last
reference. -/
theorem Squared.eventuallyFree {now : Bool} (h : Squared s g (total (a :: as)))
    (howner : (total as).owner = 0) (hclosing : 0 < a.closing)
    (hreply : now = decide (g.refs.preserved = 0)) :
    (now = true → a.held = 0 ∧ s.carried = 0) ∧
      Squared s { g with refs := g.refs.after .eventuallyFree }
        (total (a.settle .eventuallyFree now :: as)) := by
  obtain ⟨hpreserved, htimers, hright, hunheld⟩ := h
  simp only [total] at *
  refine ⟨fun htrue => ?_, hpreserved, htimers, ?_, ?_⟩
  · have hzero : g.refs.preserved = 0 := by simpa [hreply] using htrue
    omega
  · simp only [Refs.after, Account.settle, hreply]
    by_cases hzero : g.refs.preserved = 0 <;> simp [hzero] <;> omega
  · intro hown
    by_contra hnonzero
    simp only [Refs.after, Account.settle] at hown hnonzero
    simp only [hreply, hnonzero, decide_false, Bool.toNat_false] at hown
    omega

/-- Tcl answers as the account has it, and the books stay square. -/
theorem Squared.answer {r : e.Ans} (h : Squared s g (total (a :: as)))
    (howner : (total as).owner = 0) (harmed : (total as).armed = 0) (haffords : a.Affords s e)
    (hreply : g.Replies e r) :
    a.Answers s e r ∧ Squared s { g with refs := g.refs.after e } (total (a.settle e r :: as)) := by
  have hbooks := h
  obtain ⟨hpreserved, htimers, hright, hunheld⟩ := h
  simp only [total] at hpreserved htimers hright hunheld
  cases e
  case release => exact hbooks.release howner haffords hreply
  case eventuallyFree => exact hbooks.eventuallyFree howner haffords hreply
  case preserve =>
      have hown : a.owner = 0 := haffords
      refine ⟨trivial, ?_, htimers, hright, ?_⟩ <;>
        simp only [Refs.after, Account.settle, total] <;> omega
  case free =>
      have hown : 0 < a.owner := haffords
      have hfreed := g.refs.freed.toNat_le
      refine ⟨trivial, hpreserved, htimers, ?_, fun _ => hunheld (by omega)⟩
      simp only [Refs.after, Account.settle, total, Bool.toNat_true]
      omega
  case createTimerHandler ms =>
      refine ⟨trivial, hpreserved, ?_, hright, hunheld⟩
      simp only [Refs.after, Account.settle, total]
      omega
  case deleteTimerHandler =>
      have hcreated : 0 < s.carried + a.armed := haffords
      refine ⟨trivial, hpreserved, ?_, hright, hunheld⟩
      simp only [Refs.after, Account.settle, total]
      omega
  all_goals exact ⟨trivial, hbooks⟩

theorem Balanced.squared {t : Account} (h : Balanced s g t) : Squared s g t :=
  ⟨h.preserved, h.timers, h.right, fun hown => h.spent (by omega)⟩

/-- Books that are square are balanced when a `State` that has been freed has no
references. -/
theorem Squared.balanced {t : Account} (h : Squared s g t)
    (hfreed : g.refs.freed = true → g.refs.preserved = 0) : Balanced s g t := by
  refine ⟨h.preserved, h.timers, h.right, fun hspent => ?_⟩
  cases hfree : g.refs.freed with
  | true => exact hfreed hfree
  | false => exact h.unheld (by simpa [hfree] using hspent)

theorem Balanced.spent_of_freed {t : Account} (h : Balanced s g t) (hfreed : g.refs.freed = true) :
    g.refs.preserved = 0 :=
  h.spent (by simp [hfreed])

theorem Balanced.write (h : Balanced s g (total (a :: as)))
    (hcarried : s'.carried ≤ a.held + s.carried) : Balanced s' g (total (a.book s s' :: as)) :=
  (h.squared.write hcarried).balanced h.spent_of_freed

/-- Tcl answers as the account has it, and the books stay balanced. -/
theorem Balanced.answer {r : e.Ans} (h : Balanced s g (total (a :: as)))
    (howner : (total as).owner = 0) (harmed : (total as).armed = 0) (haffords : a.Affords s e)
    (hlive : e = .preserve → g.refs.freed = false) (hreply : g.Replies e r) :
    a.Answers s e r ∧
      Balanced s { g with refs := g.refs.after e } (total (a.settle e r :: as)) := by
  obtain ⟨hanswers, hsquared⟩ := h.squared.answer howner harmed haffords hreply
  refine ⟨hanswers, hsquared.balanced fun hfreed => ?_⟩
  have hspent := h.spent_of_freed
  cases e
  case preserve =>
      have hunfreed : g.refs.freed = false := hlive rfl
      simp [Refs.after, hunfreed] at hfreed
  case release => simp [Refs.after, hspent hfreed]
  case free =>
      have hown : 0 < a.owner := haffords
      exact h.squared.unheld (by simp only [total]; omega)
  all_goals exact hspent hfreed

/-- Nothing is left of a `State` that has been freed. -/
theorem Balanced.freed {t : Account} (h : Balanced s g t) (hfreed : g.refs.freed = true) :
    g.closed = true ∧ ¬ t.Covered s := by
  obtain ⟨hpreserved, htimers, hright, hspent⟩ := h
  rw [hfreed, Bool.toNat_true] at hright hspent
  have hzero := hspent (by omega)
  have hopen : (!g.closed).toNat = 0 := by omega
  refine ⟨by simpa using hopen, ?_⟩
  simp only [Account.Covered]
  omega

/-- On a `State` that has been freed at most one activity is left, and it has
no cover. -/
theorem Kept.freed {f : (reentrant lib).Activation}
    (hkept : Kept lib g.closed s (f :: fs) (a :: as)) (h : Balanced s g (total (a :: as)))
    (hfreed : g.refs.freed = true) : fs = [] ∧ Obeys lib True f a s ∧ ¬ a.Covered s := by
  obtain ⟨hclosed, huncovered⟩ := h.freed hfreed
  rw [hclosed] at hkept
  obtain ⟨hobeys, hwaiting⟩ := hkept
  have hfs : fs = [] := by
    by_contra hne
    have hfirm := hwaiting.firm hne
    simp only [Account.Firm, Account.Covered, total] at hfirm huncovered
    omega
  have hsheltered : Sheltered lib true f fs = True := eq_true ⟨hfs, .inl rfl⟩
  rw [hsheltered] at hobeys
  refine ⟨hfs, hobeys, ?_⟩
  simp only [Account.Covered, total] at huncovered ⊢
  omega

/-- An activity above which another is started is suspended. -/
theorem Kept.suspend {q : Activity} (h : Kept lib closed s fs as)
    (hcalls : Machine.Calls (m := reentrant lib) fs q) : Waiting lib closed fs as := by
  cases fs with
  | nil => exact waiting_nil.mpr (kept_nil.mp h)
  | cons f fs =>
      obtain ⟨a, as, rfl, hobeys, hwaiting⟩ := kept_cons.mp h
      obtain ⟨p, stage⟩ := f
      cases stage with
      | running k => exact hcalls.elim
      | pending e k =>
          have hstarts : q.startedBy e := hcalls
          have he := hstarts.exposed
          exact ⟨he, fun s' => Program.Keeps.exposed he hobeys s', hwaiting⟩

/-- Tcl starts a timer handler only when the `State` has a timer. -/
theorem Squared.armed (h : Squared s g (total as)) (hidle : (total as).armed = 0)
    (htimers : 0 < g.refs.timers) : s.timer = true := by
  have hcarried := h.timers
  cases htimer : s.timer with
  | true => rfl
  | false =>
      simp only [State.carried, htimer, hidle, Bool.toNat_false] at hcarried
      omega

theorem tclStarts_request {x : Scene lib} {q : Request} (hq : q ≠ .timer) :
    TclStarts lib x (.request q) ↔ x.env.closed = false := by
  cases q <;> first
    | contradiction
    | exact Iff.rfl

theorem Books.enter_request {q : Request} (hq : q ≠ .timer) (g : Books) :
    Books.enter (.request q) g = { g with closed := g.closed || q.closes } := by
  cases q <;> first
    | contradiction
    | rfl

/-- Starting an activity takes no reference, and creates no timer. -/
theorem Books.enter_refs (q : Activity) (g : Books) :
    ∃ n ≤ g.refs.timers, (g.enter q).refs = { g.refs with timers := n } := by
  cases q with
  | request q =>
      cases q with
      | timer => exact ⟨_, Nat.sub_le _ _, rfl⟩
      | _ => exact ⟨_, le_rfl, rfl⟩
  | _ => exact ⟨_, le_rfl, rfl⟩

/-- A new activity opens its account. -/
theorem Squared.enter {q : Activity} (h : Squared s g (total as))
    (hq : TclStarts lib ⟨s, g, fs⟩ q) : Squared s (g.enter q) (total (q.opens :: as)) := by
  cases q with
  | verify ok cert depth err => simpa [Activity.opens, Books.enter] using h
  | callback cmd => simpa [Activity.opens, Books.enter] using h
  | request q =>
      obtain ⟨hpreserved, htimers, hright, hunheld⟩ := h
      by_cases htimer : q = .timer
      · subst htimer
        have hcreated : 0 < g.refs.timers := hq
        refine ⟨?_, ?_, ?_, ?_⟩ <;> simp only [Books.enter, Activity.opens, total] <;> omega
      · have hopen : g.closed = false := (tclStarts_request htimer).mp hq
        rw [Books.enter_request htimer, Activity.opens_request htimer]
        simp only [hopen, Bool.not_false, Bool.toNat_true] at hright
        refine ⟨?_, ?_, ?_, ?_⟩ <;> simp only [total]
        · omega
        · omega
        · cases q.closes <;> simp [hopen] <;> omega
        · omega

theorem Balanced.enter {q : Activity} (h : Balanced s g (total as))
    (hq : TclStarts lib ⟨s, g, fs⟩ q) : Balanced s (g.enter q) (total (q.opens :: as)) := by
  obtain ⟨n, -, hrefs⟩ := Books.enter_refs q g
  refine (h.squared.enter hq).balanced fun hfreed => ?_
  rw [hrefs] at hfreed ⊢
  exact h.spent_of_freed hfreed

/-- Until its script returns, an activity in its last `EvalCallback` is covered
by the reference this holds. -/
theorem InLastCallback.obeys {P : Prop} {f : (reentrant lib).Activation} (hf : InLastCallback lib f)
    (h : Obeys lib P f a s) : Obeys lib True f a s := by
  obtain ⟨q, stage⟩ := f
  obtain ⟨cmd, rest, hquiet, rfl⟩ := hf
  obtain ⟨held, armed, closing, owner⟩ := a
  obtain ⟨⟨haffords, -⟩, hk⟩ := h
  obtain ⟨rfl, rfl, hheld⟩ := haffords rfl
  obtain ⟨held, rfl⟩ := Nat.exists_eq_add_of_le' (hheld rfl)
  have hfirm : Account.Firm ⟨held + 1, 0, closing, 0⟩ := Nat.lt_add_right closing held.succ_pos
  refine ⟨⟨haffords, fun _ _ => hfirm⟩, fun o s' hr hs' => ?_⟩
  have hreturn := hk o s' hr hs'
  have hrest := of_evalReturn_keeps ((Program.keeps_bind _ _ _ _ _).mp hreturn)
  have hkeeps : (evalReturn o).Keeps (exactTerms True {}) (fun _ a _ => a = ⟨held, 0, closing, 0⟩)
      ⟨held + 1, 0, closing, 0⟩ s' := evalReturn_keeps o
  refine (Program.keeps_bind _ _ _ _ _).mpr
    ((terms_of_exactTerms hkeeps).mono fun _ a s₁ ha => ?_)
  subst ha
  exact (hquiet o).keeps hrest s₁

/-- Closing the channel leaves the outermost activity covered. -/
theorem Waiting.close (h : Waiting lib false fs as)
    (hsafe : ∀ f ∈ fs.getLast?, f.proc = .request .timer ∨ InLastCallback lib f) :
    Waiting lib true fs as := by
  induction fs generalizing as with
  | nil => exact waiting_nil.mpr (waiting_nil.mp h)
  | cons f fs ih =>
      obtain ⟨a, as, rfl, hf, hobeys, hrest⟩ := waiting_cons.mp h
      cases fs with
      | nil =>
          refine ⟨hf, fun s => ?_, waiting_nil.mpr (waiting_nil.mp hrest)⟩
          have houter : Sheltered lib true f [] = True := eq_true ⟨rfl, .inl rfl⟩
          rw [houter]
          rcases hsafe f rfl with htimer | hlast
          · have hsheltered : Sheltered lib false f [] = True := eq_true ⟨rfl, .inr htimer⟩
            rw [← hsheltered]
            exact hobeys s
          · exact hlast.obeys (hobeys s)
      | cons f' fs =>
          have hinner : Sheltered lib true f (f' :: fs) = Sheltered lib false f (f' :: fs) := by
            simp [Sheltered]
          exact ⟨hf, fun s => hinner ▸ hobeys s, ih hrest hsafe⟩

/-- No reference is taken to a `State` that has been freed. -/
theorem Kept.live {q : Activity} {k : e.Ans → Driver Unit}
    (hkept : Kept lib g.closed s (⟨q, .pending e k⟩ :: fs) (a :: as))
    (h : Balanced s g (total (a :: as))) (he : e = .preserve) : g.refs.freed = false := by
  subst he
  by_contra hfreed
  obtain ⟨-, hobeys, huncovered⟩ := hkept.freed h (by simpa using hfreed)
  exact huncovered (hobeys.1.2 trivial rfl)

/-- Starting an activity keeps the invariant. -/
theorem Accounted.start {q : Activity} (hwaiting : Waiting lib g.closed fs as)
    (hbalanced : Balanced s g (total as)) (htcl : TclStarts lib ⟨s, g, fs⟩ q)
    (hsafe : ClosedSafely lib ⟨s, g, fs⟩ q) :
    Accounted lib ⟨s, g.enter q, Machine.enter (m := reentrant lib) q :: fs⟩ := by
  have htimer : q = .request .timer → s.timer = true := by
    rintro rfl
    exact hbalanced.squared.armed hwaiting.idle.1 htcl
  suffices hopen : (Sheltered lib (g.enter q).closed (Machine.enter (m := reentrant lib) q) fs →
      q.shelters = true) ∧ Waiting lib (g.enter q).closed fs as by
    exact ⟨q.opens :: as, ⟨q.body_keeps lib hopen.1 htimer, hopen.2⟩, hbalanced.enter htcl⟩
  cases q with
  | verify ok cert depth err => exact ⟨fun houter => (htcl houter.1).elim, hwaiting⟩
  | callback cmd => exact ⟨fun houter => (htcl houter.1).elim, hwaiting⟩
  | request q =>
      by_cases hq : q = .timer
      · subst hq
        exact ⟨fun _ => rfl, hwaiting⟩
      · have hopen : g.closed = false := (tclStarts_request hq).mp htcl
        rw [hopen] at hwaiting
        rw [Books.enter_request hq, Activity.shelters_request hq, hopen, Bool.false_or]
        cases hcloses : q.closes with
        | true => exact ⟨fun _ => rfl, hwaiting.close (hsafe hcloses)⟩
        | false =>
            refine ⟨fun houter => ?_, hwaiting⟩
            rcases houter.2 with hclosed | htimer
            · exact hclosed
            · exact (hq (Activity.request.inj htimer)).elim

/-- **One step keeps the invariant.** -/
theorem Accounted.step {x y : Scene lib}
    (hxy : (tcl lib).Step (fun x q => TclStarts lib x q ∧ ClosedSafely lib x q) x y)
    (hx : Accounted lib x) : Accounted lib y := by
  obtain ⟨as, hkept, hbalanced⟩ := hx
  cases hxy with
  | start q hcalls hpermit =>
      exact .start (hkept.suspend hcalls) hbalanced hpermit.1 hpermit.2
  | get =>
      obtain ⟨a, as, rfl, hobeys, hwaiting⟩ := kept_cons.mp hkept
      exact ⟨a :: as, ⟨hobeys.2, hwaiting⟩, hbalanced⟩
  | set =>
      obtain ⟨a, as, rfl, ⟨hwrites, hk⟩, hwaiting⟩ := kept_cons.mp hkept
      exact ⟨_ :: as, ⟨hk, hwaiting⟩, hbalanced.write hwrites.2⟩
  | issue =>
      obtain ⟨a, as, rfl, hobeys, hwaiting⟩ := kept_cons.mp hkept
      exact ⟨a :: as, ⟨hobeys, hwaiting⟩, hbalanced⟩
  | answer r hreply =>
      obtain ⟨a, as, rfl, ⟨⟨haffords, hcover⟩, hk⟩, hwaiting⟩ := kept_cons.mp hkept
      obtain ⟨harmed, howner⟩ := hwaiting.idle
      obtain ⟨hanswers, hbalanced'⟩ :=
        hbalanced.answer howner harmed haffords (hkept.live hbalanced) hreply
      exact ⟨_ :: as, ⟨hk r _ hanswers fun _ => rfl, hwaiting⟩, hbalanced'⟩
  | finish =>
      obtain ⟨a, as, rfl, hdone, hwaiting⟩ := kept_cons.mp hkept
      obtain rfl : a = {} := hdone
      exact ⟨as, hwaiting.kept _, by simpa using hbalanced⟩

end Step

/-! ## A close by a script -/

/-- Tcl answers, the library has nothing to say, and nothing else happens. -/
def Books.respond (e : Call) (g : Books) : e.Ans × Books :=
  (Env.reply ⟨.steady .wantRead (Answer.wantRead.toTransfer Answer.wantRead_ret)
    (Answer.wantRead.toTransfer Answer.wantRead_ret) ⟨tclOk, ""⟩, g.refs, []⟩ e,
    { g with refs := g.refs.after e })

theorem Books.respond_replies (e : Call) (g : Books) :
    (tcl lib).reply g e (g.respond e).1 ∧ (g.respond e).2 = (tcl lib).after g e := by
  refine ⟨?_, rfl⟩
  cases e <;> first
    | exact trivial
    | exact rfl

section Close

variable {s : State} {g : Books}

theorem run_tlsFree_freed (w : World State Books) :
    (tlsFree.run Books.respond w).2.env.refs.freed = true := by
  simp [tlsFree, Books.respond, Refs.after]

/-- The last reference takes the `State` with it. -/
theorem run_evalReturn_freed (o : EvalOutcome) (hheld : g.refs.preserved = 1)
    (hpending : g.refs.pendingFree = true) :
    ((evalReturn o).run Books.respond ⟨s, g⟩).2.env.refs.freed = true := by
  have hrelease : ∀ w : World State Books, w.env.refs.preserved = 1 →
      w.env.refs.pendingFree = true →
      (tclRelease.run Books.respond w).2.env.refs.freed = true := by
    intro w hheld hpending
    have hlast : (w.env.respond .release).1 = true := by
      simp [Books.respond, Refs.lastRelease, hheld, hpending]
    simp [tclRelease, hlast, run_tlsFree_freed]
  by_cases hcode : o.code = tclOk
  · simpa [evalReturn, hcode] using hrelease ⟨s, g⟩ hheld hpending
  · simpa [evalReturn, hcode] using
      hrelease ⟨s, (g.respond (.backgroundException o.code)).2⟩ hheld hpending

/-- The alert changes neither the references nor the timer. -/
theorem run_closeNotify (w : World State Books) :
    (closeNotify.run Books.respond w).2.env = w.env ∧
      (closeNotify.run Books.respond w).2.st.timer = w.st.timer := by
  rw [closeNotify, Program.run_state_bind, Program.run_ite]
  split <;> exact ⟨rfl, rfl⟩

/-- Closing leaves the reference of the `EvalCallback` that ran the script. -/
theorem run_tlsCloseProc_refs (hheld : g.refs.preserved = s.carried + 1) :
    (tlsCloseProc.run Books.respond ⟨s, g⟩).2.env.refs.preserved = 1 ∧
      (tlsCloseProc.run Books.respond ⟨s, g⟩).2.env.refs.pendingFree = true := by
  obtain ⟨henv, htimer⟩ := run_closeNotify ⟨s, g⟩
  rw [State.carried] at hheld
  cases hs : s.timer <;>
    simp [tlsCloseProc, removeTimer, tclRelease, tclEventuallyFree, henv, htimer, hs, hheld,
      Books.respond, Refs.after, Refs.lastRelease]

/-- A script closes the channel, and the `EvalCallback` that ran it frees the
`State`. -/
theorem close_frees (permit : Surroundings.Permit (reentrant lib) Books) (q : Activity)
    (cmd : Command) (fs : List (reentrant lib).Activation) {k : EvalOutcome → Driver Unit}
    {o : EvalOutcome} {rest : Driver Unit}
    (hpermit : permit ⟨s, g, ⟨q, .pending (.evalObj cmd) k⟩ :: fs⟩ (.request .close))
    (hheld : g.refs.preserved = s.carried + 1) (hk : k o = do evalReturn o; rest) :
    ∃ s' g', g'.refs.freed = true ∧ (tcl lib).Run permit
      ⟨s, g, ⟨q, .pending (.evalObj cmd) k⟩ :: fs⟩ ⟨s', g', ⟨q, .running rest⟩ :: fs⟩ := by
  have hreplies := Books.respond_replies lib
  have hstart : (tcl lib).Step permit ⟨s, g, ⟨q, .pending (.evalObj cmd) k⟩ :: fs⟩
      ⟨s, g.enter (.request .close), Machine.enter (m := reentrant lib) (.request .close) ::
        ⟨q, .pending (.evalObj cmd) k⟩ :: fs⟩ :=
    .start (m := reentrant lib) (.request .close) rfl hpermit
  have henter : g.enter (.request .close) = { g with closed := true } := by
    simp [Books.enter, Request.closes]
  rw [henter] at hstart
  obtain ⟨hone, hpending⟩ := run_tlsCloseProc_refs (s := s) (g := { g with closed := true }) hheld
  have hclose := Surroundings.run_handler hreplies permit (.request .close)
    (⟨q, .pending (.evalObj cmd) k⟩ :: fs) (Request.proc lib .close) (fun _ => pure ())
    ⟨s, { g with closed := true }⟩
  simp only [Request.proc, Program.run_bind_pure] at hclose
  generalize (tlsCloseProc.run Books.respond ⟨s, { g with closed := true }⟩).2 = w at *
  obtain ⟨s₁, g₁⟩ := w
  -- the script returns to the `EvalCallback`
  have hanswer : (tcl lib).Step permit ⟨s₁, g₁, ⟨q, .pending (.evalObj cmd) k⟩ :: fs⟩
      ⟨s₁, (tcl lib).after g₁ (.evalObj cmd), ⟨q, .running (k o)⟩ :: fs⟩ :=
    .answer (m := reentrant lib) (e := Call.evalObj cmd) (k := k) o trivial
  have hreturn := Surroundings.run_handler hreplies permit q fs (evalReturn o) (fun _ => rest)
    ⟨s₁, g₁⟩
  rw [← hk] at hreturn
  exact ⟨_, _, run_evalReturn_freed (s := s₁) (g := g₁) o hone hpending,
    .head hstart (hclose.trans (.head .finish (.head hanswer hreturn)))⟩

end Close

/-- An established connection with a `-command` script. -/
def reportingServer : State :=
  { flags := { server := true }, callback := some "report", ssl := some {}, ctx := some 0,
    bio := true }

/-- The peer sends a `close_notify`. -/
def Transfer.closeNotify (n : Int) : Transfer n :=
  Answer.toTransfer ⟨0, .zeroReturn, 0, 0, false, by decide⟩ (by decide) n

/-- The peer goes away without one. -/
def Transfer.vanished (n : Int) : Transfer n :=
  Answer.toTransfer ⟨0, .syscall, 0, 0, false, by decide⟩ (by decide) n

/-! ## Runs -/

/-- **A `State` outlives its procedures** in every run in which scripts close the
channel safely: when it is freed, the outermost activity has made its last
access to it. -/
theorem state_outlives {s : State} (hs : s.timer = false) {x : Scene lib}
    (hx : (tcl lib).Run (fun x q => TclStarts lib x q ∧ ClosedSafely lib x q) ⟨s, {}, []⟩ x) :
    Outlives lib x := by
  have hstart : Accounted lib ⟨s, {}, []⟩ := by
    refine ⟨[], trivial, ?_⟩
    constructor <;> simp [total, State.carried, hs]
  obtain ⟨as, hkept, hbalanced⟩ := Surroundings.run_invariant Accounted.step hx hstart
  intro hfreed f hf
  cases hstack : x.stack with
  | nil => simp [hstack] at hf
  | cons f' fs =>
      rw [hstack] at hkept hf
      obtain ⟨a, as, rfl, hobeys, hwaiting⟩ := kept_cons.mp hkept
      obtain ⟨rfl, hobeys, huncovered⟩ := Kept.freed ⟨hobeys, hwaiting⟩ hbalanced hfreed
      obtain rfl : f' = f := by simpa using hf
      exact quiet_of_uncovered hobeys huncovered

/-- A read gets to the point where the script is told that the peer has closed
the connection, which is all that is left to do. -/
theorem closeNotify_reported :
    ∃ s cmd k, s.timer = false ∧ (∀ o, k o = (do evalReturn o; pure ())) ∧
      (tcl .plain).Run (fun x q => TclStarts .plain x q ∧ ClosedSafely .plain x q)
        ⟨reportingServer, {}, []⟩ ⟨s, { refs := { preserved := 1 } },
          [⟨.request (.input 4096), .pending (.evalObj cmd) k⟩]⟩ := by
  refine ⟨_, _, _, rfl, fun o => ?_,
    .head (.start (m := reentrant .plain) (.request (.input 4096)) trivial ⟨rfl, ?_⟩)
      (.trans (Surroundings.run_answer (e := Call.bioRead 4096) (.closeNotify 4096) rfl trivial)
        (.trans (Surroundings.run_answer (e := Call.preserve) () rfl trivial)
          (Surroundings.run_issue rfl)))⟩
  · simp only [← Program.bind_eq]
    by_cases hcode : o.code = tclOk <;> simp [evalReturn, hcode, Program.bind_assoc]
  · intro hcloses
    contradiction

/-- The script may close the channel then. -/
theorem state_outlives_closeNotify :
    ∃ x : Scene .plain, x.env.refs.freed = true ∧ x.stack ≠ [] ∧ Outlives .plain x := by
  obtain ⟨s, cmd, k, htimer, hk, hreported⟩ := closeNotify_reported
  have hlast : InLastCallback .plain ⟨.request (.input 4096), .pending (.evalObj cmd) k⟩ :=
    ⟨cmd, fun _ => pure (), fun _ => trivial, by rw [funext hk]⟩
  have hpermit : TclStarts .plain ⟨s, { refs := { preserved := 1 } },
        [⟨.request (.input 4096), .pending (.evalObj cmd) k⟩]⟩ (.request .close) ∧
      ClosedSafely .plain ⟨s, { refs := { preserved := 1 } },
        [⟨.request (.input 4096), .pending (.evalObj cmd) k⟩]⟩ (.request .close) := by
    refine ⟨rfl, ?_⟩
    rintro - f ⟨rfl⟩
    exact .inr hlast
  obtain ⟨s', g', hfreed, hclose⟩ := close_frees .plain
    (fun x q => TclStarts .plain x q ∧ ClosedSafely .plain x q) _ _ [] hpermit
    (by simp [State.carried, htimer]) (hk ⟨tclOk, ""⟩)
  exact ⟨_, hfreed, by simp, state_outlives .plain rfl (hreported.trans hclose)⟩

/-! ## A close that comes too early -/

section Early

variable {s : State} {g : Books}

/-- **A close in the middle of a procedure is too early.**  The outermost
activity has something to do after the `EvalCallback` whose script closes the
channel. -/
theorem freed_early (q : Activity) (cmd : Command) {k : EvalOutcome → Driver Unit} {o : EvalOutcome}
    {rest : Driver Unit} (hopen : g.closed = false) (hheld : g.refs.preserved = s.carried + 1)
    (hk : k o = do evalReturn o; rest) (hrest : ¬ Quiet rest) :
    ∃ y : Scene lib, (tcl lib).Run (TclStarts lib) ⟨s, g, [⟨q, .pending (.evalObj cmd) k⟩]⟩ y ∧
      ¬ Outlives lib y := by
  obtain ⟨s', g', hfreed, hrun⟩ := close_frees lib (TclStarts lib) q cmd [] hopen hheld hk
  exact ⟨_, hrun, fun houtlives => hrest (houtlives hfreed _ rfl)⟩

/-- **So is a close in the middle of an operation of the library**, by the script
of a callback. -/
theorem freed_in_operation {q : Activity} {e : Call} {k : e.Ans → Driver Unit} (cmd : Command)
    (he : e.wire = true) (hopen : g.closed = false) (hheld : g.refs.preserved = s.carried) :
    ∃ y : Scene lib, (tcl lib).Run (TclStarts lib) ⟨s, g, [⟨q, .pending e k⟩]⟩ y ∧
      ¬ Outlives lib y := by
  have hbody : (reentrant lib).body (.callback cmd) = (do
      call .preserve
      let o ← call (.evalObj cmd)
      evalReturn o
      pure ()) := by
    simp [Activity.body, evalCallback_eq, Program.bind_assoc]
  have hbegin : (tcl lib).Run (TclStarts lib) ⟨s, g, [⟨q, .pending e k⟩]⟩
      ⟨s, { g with refs.preserved := g.refs.preserved + 1 },
        [⟨.callback cmd, .pending (.evalObj cmd) fun o => do evalReturn o; pure ()⟩,
          ⟨q, .pending e k⟩]⟩ := by
    refine .head (.start (m := reentrant lib) (.callback cmd) he (by simp [TclStarts])) ?_
    rw [Machine.enter, hbody]
    exact .trans (Surroundings.run_answer (e := Call.preserve) () rfl trivial)
      (Surroundings.run_issue rfl)
  obtain ⟨s', g', hfreed, hclose⟩ := close_frees lib (TclStarts lib) (.callback cmd) cmd
    [⟨q, .pending e k⟩] (k := fun o => do evalReturn o; pure ()) (o := ⟨tclOk, ""⟩)
    (s := s) (g := { g with refs.preserved := g.refs.preserved + 1 }) hopen (by simp [hheld]) rfl
  refine ⟨_, hbegin.trans hclose, fun houtlives => ?_⟩
  obtain ⟨huntouched, -⟩ : Quiet (.call e k) := houtlives hfreed _ rfl
  have htouched := Call.touches_of_exposed (e := e) (by simp [Call.exposed, he])
  simp [htouched] at huntouched

end Early

/-- A read gets to the point where the script is told that the peer is gone. -/
theorem vanished_reported :
    ∃ k : EvalOutcome → Driver Unit, (tcl .plain).Run (TclStarts .plain) ⟨reportingServer, {}, []⟩
        ⟨{ reportingServer with err := some "EOF reached" }, { refs := { preserved := 1 } },
          [⟨.request (.input 4096),
            .pending (.evalObj ⟨"report", ["error", "", "EOF reached"]⟩) k⟩]⟩ ∧
      k ⟨tclOk, ""⟩ =
        (do evalReturn ⟨tclOk, ""⟩; update fun s => { s with flags.eof := true }) := by
  refine ⟨_, .head (.start (m := reentrant .plain) (.request (.input 4096)) trivial rfl)
    (.trans (Surroundings.run_answer (e := Call.bioRead 4096) (Transfer.vanished 4096) rfl trivial)
      (.trans (Surroundings.run_answer (e := Call.preserve) () rfl trivial)
        (Surroundings.run_issue rfl))), ?_⟩
  simp only [← Program.bind_eq]
  simp [evalReturn, Program.bind_assoc]
  rfl

/-- A read finds that the peer has gone away, the `-command` script closes the
channel, and `TlsInputProc` notes the end of file in a `State` that has been
freed. -/
theorem state_freed_early :
    ¬ ∀ x : Scene .plain, (tcl .plain).Run (TclStarts .plain) ⟨reportingServer, {}, []⟩ x →
      Outlives .plain x := by
  intro houtlives
  obtain ⟨k, hreported, hk⟩ := vanished_reported
  have hrest : ¬ Quiet (update fun s => { s with flags.eof := true }) := fun hquiet => hquiet
  obtain ⟨y, hrun, hearly⟩ := freed_early .plain (.request (.input 4096))
    ⟨"report", ["error", "", "EOF reached"]⟩ (g := { refs := { preserved := 1 } })
    (s := { reportingServer with err := some "EOF reached" }) rfl rfl hk hrest
  exact hearly (houtlives y (hreported.trans hrun))

end TclTls
