import Mathlib.Data.List.Forall2

/-!
# TclTls.Stream.Queue

A queue that is shared: each turn appends what one writer has to say, and then
may take as much from the front as it has room for.

What a turn takes comes from its own writer only if nothing has been left behind
before.  With outputs that can be told apart, every turn takes its own exactly if
no turn that leaves something behind comes before one that takes
(`turns_own_iff`).
-/

namespace Stream

/-- What is written, whether the queue is read then, and how much there is room
for. -/
structure Turn (α : Type) where
  written : List α
  drains : Bool
  room : Nat

/-- What a turn takes, and the queue it leaves. -/
def Turn.take {α : Type} (t : Turn α) (queue : List α) : List α × List α :=
  if t.drains then ((queue ++ t.written).take t.room, (queue ++ t.written).drop t.room)
  else ([], queue ++ t.written)

/-- One turn after the other: what each takes, and the queue in the end. -/
def turns {α : Type} : List α → List (Turn α) → List (List α) × List α
  | queue, [] => ([], queue)
  | queue, t :: ts =>
      ((t.take queue).1 :: (turns (t.take queue).2 ts).1, (turns (t.take queue).2 ts).2)

/-- On an empty queue the turn does not get rid of all it writes. -/
def Turn.LeavesBehind {α : Type} (t : Turn α) : Prop :=
  t.written ≠ [] ∧ (t.drains = false ∨ t.room < t.written.length)

/-- Every turn takes a part of what was written for it. -/
def TakesOwn {α : Type} (taken : List (List α)) (ts : List (Turn α)) : Prop :=
  List.Forall₂ (fun out (t : Turn α) => out <+: t.written) taken ts

section Turns

variable {α β : Type}

theorem turns_append (queue : List α) (ts ts' : List (Turn α)) :
    turns queue (ts ++ ts') =
      ((turns queue ts).1 ++ (turns (turns queue ts).2 ts').1, (turns (turns queue ts).2 ts').2) := by
  induction ts generalizing queue with
  | nil => rfl
  | cons t ts ih => simp only [List.cons_append, turns, ih]

/-- A queue does not look at what it holds. -/
def Turn.map (f : α → β) (t : Turn α) : Turn β where
  written := t.written.map f
  drains := t.drains
  room := t.room

theorem turns_map (f : α → β) (queue : List α) (ts : List (Turn α)) :
    turns (queue.map f) (ts.map (Turn.map f)) =
      ((turns queue ts).1.map (List.map f), (turns queue ts).2.map f) := by
  induction ts generalizing queue with
  | nil => rfl
  | cons t ts ih =>
      have htake : (t.map f).take (queue.map f) =
          ((t.take queue).1.map f, (t.take queue).2.map f) := by
        unfold Turn.take
        cases hdrains : t.drains with
        | false => simp [Turn.map, hdrains]
        | true => simp [Turn.map, hdrains, List.map_take, List.map_drop]
      rw [List.map_cons, turns, htake, ih]
      rfl

theorem leavesBehind_map_iff (f : α → β) (t : Turn α) :
    (t.map f).LeavesBehind ↔ t.LeavesBehind := by
  simp [Turn.LeavesBehind, Turn.map]

theorem exists_label {ι : Type} {R : ι → Turn β → Prop} {labels : List ι} {ts : List (Turn β)}
    (h : List.Forall₂ R labels ts) {t : Turn β} (ht : t ∈ ts) : ∃ label ∈ labels, R label t := by
  induction h with
  | nil => exact absurd ht List.not_mem_nil
  | cons hfirst hrest ih =>
      rcases List.mem_cons.mp ht with rfl | ht
      · exact ⟨_, List.mem_cons_self, hfirst⟩
      · obtain ⟨label, hmem, hlabel⟩ := ih ht
        exact ⟨label, List.mem_cons_of_mem _ hmem, hlabel⟩

/-- Labels tell the outputs of the turns apart. -/
theorem disjoint_of_labels {ι : Type} {labels : List ι} {ts : List (Turn (ι × α))}
    (h : List.Forall₂ (fun label (t : Turn (ι × α)) => ∀ x ∈ t.written, x.1 = label) labels ts)
    (hlabels : labels.Nodup) :
    ts.Pairwise fun t t' => t.written.Disjoint t'.written := by
  induction h with
  | nil => exact .nil
  | @cons label t labels ts ht hrest ih =>
      obtain ⟨hlabel, hlabels⟩ := List.nodup_cons.mp hlabels
      refine .cons (fun t' ht' x hx hx' => hlabel ?_) (ih hlabels)
      obtain ⟨label', hmem, ht'⟩ := exists_label hrest ht'
      rw [← ht x hx, ht' x hx']
      exact hmem

/-- What the queue holds comes first: only turns that take nothing take their own. -/
theorem takesOwn_of_leftover {queue : List α} (hqueue : queue ≠ []) {ts : List (Turn α)}
    (hroom : ∀ t ∈ ts, 0 < t.room) (hforeign : ∀ t ∈ ts, queue.Disjoint t.written)
    (hdistinct : ts.Pairwise fun t t' => t.written.Disjoint t'.written) :
    TakesOwn (turns queue ts).1 ts ↔ ∀ t ∈ ts, t.drains = false := by
  induction ts generalizing queue with
  | nil => exact iff_of_true .nil (List.forall_mem_nil _)
  | cons t ts ih =>
      obtain ⟨hfirst, hrest⟩ := List.pairwise_cons.mp hdistinct
      rw [List.forall_mem_cons, turns, TakesOwn, List.forall₂_cons]
      cases hdrains : t.drains with
      | true =>
          -- the first element is taken, and it is not the writer's own
          refine iff_of_false (fun h => ?_) (fun h => Bool.noConfusion h.1)
          obtain ⟨x, queue, rfl⟩ := List.exists_cons_of_ne_nil hqueue
          obtain ⟨room, hpos⟩ := Nat.exists_eq_add_one.mpr (hroom t List.mem_cons_self)
          have hmem : x ∈ (t.take (x :: queue)).1 := by
            simp [Turn.take, hdrains, hpos]
          exact hforeign t List.mem_cons_self List.mem_cons_self (h.1.subset hmem)
      | false =>
          have htake : t.take queue = ([], queue ++ t.written) := by
            rw [Turn.take, hdrains, if_neg Bool.false_ne_true]
          have hnonempty : queue ++ t.written ≠ [] := fun h => hqueue (List.append_eq_nil_iff.mp h).1
          have hforeign' : ∀ t' ∈ ts, (queue ++ t.written).Disjoint t'.written := by
            intro t' ht'
            rw [List.disjoint_append_left]
            exact ⟨hforeign t' (List.mem_cons_of_mem _ ht'), hfirst t' ht'⟩
          have hih := ih hnonempty (fun t' ht' => hroom t' (List.mem_cons_of_mem _ ht')) hforeign' hrest
          rw [htake]
          exact and_congr (iff_of_true (List.nil_prefix) rfl) hih

/-- **Every turn takes its own** exactly if none leaves something behind for a later
one that takes.  The induction is on the turns as long as the queue is empty. -/
theorem turns_own_iff {ts : List (Turn α)} (hroom : ∀ t ∈ ts, 0 < t.room)
    (hdistinct : ts.Pairwise fun t t' => t.written.Disjoint t'.written) :
    TakesOwn (turns [] ts).1 ts ↔
      ts.Pairwise fun t t' => t.LeavesBehind → t'.drains = false := by
  induction ts with
  | nil => exact iff_of_true .nil .nil
  | cons t ts ih =>
      obtain ⟨hfirst, hrest⟩ := List.pairwise_cons.mp hdistinct
      have hroom' : ∀ t' ∈ ts, 0 < t'.room := fun t' ht' => hroom t' (List.mem_cons_of_mem _ ht')
      have hown : (t.take []).1 <+: t.written := by
        unfold Turn.take
        split
        · exact List.take_prefix _ _
        · exact List.nil_prefix
      have hsubset : ∀ x ∈ (t.take []).2, x ∈ t.written := by
        intro x hx
        unfold Turn.take at hx
        split at hx
        · exact List.mem_of_mem_drop hx
        · exact hx
      have hleft : (t.take []).2 ≠ [] ↔ t.LeavesBehind := by
        unfold Turn.take Turn.LeavesBehind
        cases t.drains with
        | false => simp
        | true =>
            simp only [if_true, List.nil_append, ne_eq, List.drop_eq_nil_iff, Nat.not_le,
              Bool.true_eq_false, false_or]
            refine ⟨fun h => ⟨?_, h⟩, fun h => h.2⟩
            intro hnil
            rw [hnil] at h
            exact Nat.not_lt_zero _ h
      rw [turns, TakesOwn, List.forall₂_cons, List.pairwise_cons, and_iff_right hown]
      by_cases hqueue : (t.take []).2 = []
      · have hnothing : ¬ t.LeavesBehind := fun h => hleft.mpr h hqueue
        rw [hqueue, and_iff_right fun t' _ h => absurd h hnothing]
        exact ih hroom' hrest
      · have hleaves := hleft.mp hqueue
        have hforeign : ∀ t' ∈ ts, (t.take []).2.Disjoint t'.written := by
          intro t' ht' x hx hx'
          exact hfirst t' ht' (hsubset x hx) hx'
        have hlater := takesOwn_of_leftover hqueue hroom' hforeign hrest
        rw [TakesOwn] at hlater
        rw [hlater]
        constructor
        · intro h
          refine ⟨fun t' ht' _ => h t' ht', ?_⟩
          exact List.pairwise_of_forall_mem_list fun _ _ t' ht' _ => h t' ht'
        · exact fun h t' ht' => h.1 t' ht' hleaves

end Turns

end Stream
