import Mathlib.Data.List.Nodup
import Mathlib.Logic.Function.Basic

/-!
# TclTls.Resource.Estate

Objects with one owner each.

An object is made and given to a holder, who keeps what it is given in a stack.
Later the holder lets go of the one on top, and after that it is freed.  What may go
wrong is that an object is freed as soon as it has been given away (`spoil`).

`run` follows a history of such events, and `Kept` is what holds after any of them: no
object has two owners, an owned object is there unless it was spoilt, and an object
that is there is owned.
-/

namespace Resource

/-- How an object came to be. -/
inductive Birth where
  | made
  | spoilt
  | wasted
deriving DecidableEq, Repr

/-- What the holders have, what they have let go of, and how each object came to be and
whether it is still there.  An object is called by its number. -/
structure Estate (κ : Type) where
  held : κ → List Nat
  retired : List Nat
  objects : List (Birth × Bool)

namespace Estate

variable {κ : Type}

inductive Event (κ : Type) where
  /-- make an object for the holder -/
  | make (k : κ)
  /-- the same, but free it -/
  | spoil (k : κ)
  /-- make an object and free it -/
  | waste
  /-- the holder lets go of the object on top -/
  | drop (k : κ)
  | free (p : Nat)

/-- Nobody has anything. -/
def empty : Estate κ := ⟨fun _ => [], [], []⟩

variable (e : Estate κ)

/-- The number of the next object. -/
def next : Nat := e.objects.length

/-- A new object. -/
def add (birth : Birth) (there : Bool) : Estate κ :=
  { e with objects := e.objects ++ [(birth, there)] }

def free (p : Nat) : Estate κ :=
  if p ∈ e.retired then
    { e with
      retired := e.retired.erase p
      objects := e.objects.modify p fun object => (object.1, false) }
  else e

/-! ## What is kept -/

/-- The object is there if it was made, and is not if it was spoilt. -/
def Proper (p : Nat) : Prop :=
  e.objects[p]? = some (.made, true) ∨ e.objects[p]? = some (.spoilt, false)

/-- Nothing has two owners, what is owned is proper, and what is there is owned. -/
structure Kept : Prop where
  nodup : ∀ k, (e.held k).Nodup
  apart : ∀ k k' p, p ∈ e.held k → p ∈ e.held k' → k = k'
  retired_nodup : e.retired.Nodup
  retired_apart : ∀ k, ∀ p ∈ e.held k, p ∉ e.retired
  held_proper : ∀ k, ∀ p ∈ e.held k, e.Proper p
  retired_proper : ∀ p ∈ e.retired, e.Proper p
  owned : ∀ p birth, e.objects[p]? = some (birth, true) → p ∈ e.retired ∨ ∃ k, p ∈ e.held k

section Add

variable {e} {p : Nat}

theorem Proper.lt (h : e.Proper p) : p < e.next := by
  rcases h with h | h
  all_goals exact (List.getElem?_eq_some_iff.mp h).1

/-- What is owned is there if and only if it was made. -/
theorem Proper.there_iff (h : e.Proper p) :
    (e.objects.map Prod.snd)[p]? = some true ↔ (e.objects.map Prod.fst)[p]? = some .made := by
  rw [List.getElem?_map, List.getElem?_map]
  rcases h with h | h
  all_goals rw [h]
  all_goals simp

theorem kept_empty : (empty : Estate κ).Kept where
  nodup k := List.nodup_nil
  apart k k' p hp := absurd hp List.not_mem_nil
  retired_nodup := List.nodup_nil
  retired_apart k p hp := absurd hp List.not_mem_nil
  held_proper k p hp := absurd hp List.not_mem_nil
  retired_proper p hp := absurd hp List.not_mem_nil
  owned p birth hp := by simp [empty] at hp

/-- A new object is not one that there was. -/
theorem add_objects {birth : Birth} {there : Bool} (hp : p < e.next) :
    (e.add birth there).objects[p]? = e.objects[p]? := List.getElem?_append_left hp

theorem add_objects_next {birth : Birth} {there : Bool} :
    (e.add birth there).objects[e.next]? = some (birth, there) := List.getElem?_concat_length

theorem Proper.add {birth : Birth} {there : Bool} (h : e.Proper p) :
    (e.add birth there).Proper p := by
  unfold Proper
  rwa [add_objects h.lt]

theorem owned_add {birth birth' : Birth} {there : Bool} (h : e.Kept)
    (hp : (e.add birth there).objects[p]? = some (birth', true)) :
    (p = e.next ∧ there = true) ∨ p ∈ e.retired ∨ ∃ k, p ∈ e.held k := by
  have hlt := (List.getElem?_eq_some_iff.mp hp).1
  by_cases hnext : p = e.next
  · rw [hnext, add_objects_next, Option.some.injEq, Prod.mk.injEq] at hp
    exact .inl ⟨hnext, hp.2⟩
  · have hold : p < e.next := by
      simp only [Estate.add, List.length_append, List.length_singleton] at hlt
      unfold next at hnext ⊢
      omega
    rw [add_objects hold] at hp
    exact .inr (h.owned p birth' hp)

/-- An object for nobody, of which nothing is left. -/
theorem Kept.add (h : e.Kept) (birth : Birth) : (e.add birth false).Kept where
  nodup := h.nodup
  apart := h.apart
  retired_nodup := h.retired_nodup
  retired_apart := h.retired_apart
  held_proper k p hp := (h.held_proper k p hp).add
  retired_proper p hp := (h.retired_proper p hp).add
  owned p birth' hp := by
    rcases owned_add h hp with ⟨-, hthere⟩ | hold
    · contradiction
    · exact hold

theorem free_objects_of_ne {q : Nat} (hne : q ≠ p) : (e.free p).objects[q]? = e.objects[q]? := by
  unfold Estate.free
  split
  · simp [Ne.symm hne]
  · rfl

/-- Where an object comes from is never changed. -/
theorem map_fst_free (p : Nat) :
    (e.free p).objects.map Prod.fst = e.objects.map Prod.fst := by
  unfold Estate.free
  split
  · apply List.ext_getElem?
    intro q
    rw [List.getElem?_map, List.getElem?_map, List.getElem?_modify]
    cases e.objects[q]? with
    | none => rfl
    | some object => by_cases hq : p = q <;> simp [hq]
  · rfl

theorem map_snd_free (hp : p ∈ e.retired) :
    (e.free p).objects.map Prod.snd = (e.objects.map Prod.snd).set p false := by
  unfold Estate.free
  rw [if_pos hp]
  apply List.ext_getElem?
  intro q
  rw [List.getElem?_map, List.getElem?_modify, List.getElem?_set, List.length_map]
  by_cases hq : p = q
  · subst hq
    by_cases hlt : p < e.objects.length
    · simp [hlt]
    · simp [hlt]
  · rw [if_neg hq, List.getElem?_map]
    cases e.objects[q]? <;> simp [hq]

/-- What has been freed is not there any more. -/
theorem free_objects_self (hp : p ∈ e.retired) (birth : Birth) :
    (e.free p).objects[p]? ≠ some (birth, true) := by
  unfold Estate.free
  rw [if_pos hp]
  cases hobject : e.objects[p]? <;> simp [hobject]

theorem Kept.free (h : e.Kept) (p : Nat) : (e.free p).Kept := by
  by_cases hp : p ∈ e.retired
  · have hfree : e.free p =
        { e with
          retired := e.retired.erase p
          objects := e.objects.modify p fun object => (object.1, false) } := if_pos hp
    have hheld : (e.free p).held = e.held := by rw [hfree]
    have hretired : ∀ q, q ∈ (e.free p).retired ↔ q ≠ p ∧ q ∈ e.retired := by
      intro q
      rw [hfree]
      exact h.retired_nodup.mem_erase_iff
    have hproper : ∀ q, q ≠ p → e.Proper q → (e.free p).Proper q := by
      intro q hne hq
      unfold Proper
      rwa [free_objects_of_ne hne]
    constructor
    · rw [hheld]
      exact h.nodup
    · rw [hheld]
      exact h.apart
    · rw [hfree]
      exact h.retired_nodup.erase p
    · intro k q hq hq'
      rw [hheld] at hq
      exact h.retired_apart k q hq ((hretired q).mp hq').2
    · intro k q hq
      rw [hheld] at hq
      refine hproper q (fun heq => ?_) (h.held_proper k q hq)
      exact h.retired_apart k q hq (heq ▸ hp)
    · intro q hq
      obtain ⟨hne, hq⟩ := (hretired q).mp hq
      exact hproper q hne (h.retired_proper q hq)
    · intro q birth hq
      by_cases hne : q = p
      · rw [hne] at hq
        exact absurd hq (free_objects_self hp birth)
      · rw [free_objects_of_ne hne] at hq
        rw [hheld]
        rcases h.owned q birth hq with hret | hk
        · exact .inl ((hretired q).mpr ⟨hne, hret⟩)
        · exact .inr hk
  · have hsame : e.free p = e := if_neg hp
    rwa [hsame]

end Add

/-! ## Events -/

variable [DecidableEq κ]

def give (k : κ) (p : Nat) : Estate κ :=
  { e with held := Function.update e.held k (p :: e.held k) }

def drop (k : κ) : Estate κ :=
  match e.held k with
  | [] => e
  | p :: ps => { e with held := Function.update e.held k ps, retired := p :: e.retired }

def step : Event κ → Estate κ
  | .make k => (e.add .made true).give k e.next
  | .spoil k => (e.add .spoilt false).give k e.next
  | .waste => e.add .wasted false
  | .drop k => e.drop k
  | .free p => e.free p

/-- One event after another. -/
def run (es : List (Event κ)) : Estate κ := es.foldl (fun e event => e.step event) e

theorem run_append (es fs : List (Event κ)) : e.run (es ++ fs) = (e.run es).run fs :=
  List.foldl_append

section Kept

variable {e} {k : κ} {p : Nat}

/-- An object for a holder. -/
theorem Kept.give {birth : Birth} {there : Bool} (h : e.Kept)
    (hproper : birth = .made ∧ there = true ∨ birth = .spoilt ∧ there = false) :
    ((e.add birth there).give k e.next).Kept := by
  have hfresh : ∀ k', e.next ∉ e.held k' := fun k' hp =>
    absurd (h.held_proper k' _ hp).lt (Nat.lt_irrefl _)
  have hgone : e.next ∉ e.retired := fun hp =>
    absurd (h.retired_proper _ hp).lt (Nat.lt_irrefl _)
  have hnew : (e.add birth there).Proper e.next := by
    unfold Proper
    rw [add_objects_next]
    rcases hproper with ⟨rfl, rfl⟩ | ⟨rfl, rfl⟩
    · exact .inl rfl
    · exact .inr rfl
  have hmem : ∀ k' p, p ∈ ((e.add birth there).give k e.next).held k' →
      (p = e.next ∧ k' = k) ∨ p ∈ e.held k' := by
    intro k' p hp
    by_cases hk : k' = k
    · subst hk
      have hp' : p ∈ e.next :: e.held k' := by
        simpa [Estate.give, Estate.add] using hp
      rcases List.mem_cons.mp hp' with hp' | hp'
      · exact .inl ⟨hp', rfl⟩
      · exact .inr hp'
    · exact .inr (by simpa [Estate.give, Estate.add, Function.update_of_ne hk] using hp)
  constructor
  · intro k'
    by_cases hk : k' = k
    · subst hk
      have hnodup : (e.next :: e.held k').Nodup := List.nodup_cons.mpr ⟨hfresh k', h.nodup k'⟩
      simpa [Estate.give, Estate.add] using hnodup
    · simpa [Estate.give, Estate.add, Function.update_of_ne hk] using h.nodup k'
  · intro k₁ k₂ p hp₁ hp₂
    rcases hmem k₁ p hp₁ with ⟨hnext, hk₁⟩ | hold₁
    · rcases hmem k₂ p hp₂ with ⟨-, hk₂⟩ | hold₂
      · rw [hk₁, hk₂]
      · exact absurd (hnext ▸ hold₂) (hfresh k₂)
    · rcases hmem k₂ p hp₂ with ⟨hnext, -⟩ | hold₂
      · exact absurd (hnext ▸ hold₁) (hfresh k₁)
      · exact h.apart k₁ k₂ p hold₁ hold₂
  · exact h.retired_nodup
  · intro k' p hp
    rcases hmem k' p hp with ⟨rfl, -⟩ | hp
    · exact hgone
    · exact h.retired_apart k' p hp
  · intro k' p hp
    rcases hmem k' p hp with ⟨rfl, -⟩ | hp
    · exact hnew
    · exact (h.held_proper k' p hp).add
  · intro p hp
    exact (h.retired_proper p hp).add
  · intro p birth' hp
    have hself : e.next ∈ ((e.add birth there).give k e.next).held k := by simp [Estate.give]
    rcases owned_add h hp with ⟨hnext, -⟩ | hretired | ⟨k', hk'⟩
    · rw [hnext]
      exact .inr ⟨k, hself⟩
    · exact .inl hretired
    · refine .inr ⟨k', ?_⟩
      by_cases hk : k' = k
      · subst hk
        simp [Estate.give, Estate.add, hk']
      · simpa [Estate.give, Estate.add, Function.update_of_ne hk] using hk'

theorem Kept.drop (h : e.Kept) (k : κ) : (e.drop k).Kept := by
  unfold Estate.drop
  cases hheld : e.held k with
  | nil => exact h
  | cons p ps =>
      have hp : p ∈ e.held k := by
        rw [hheld]
        exact List.mem_cons_self
      have hnodup := h.nodup k
      rw [hheld] at hnodup
      obtain ⟨hps, hrest⟩ := List.nodup_cons.mp hnodup
      have hmem : ∀ k' q, q ∈ Function.update e.held k ps k' → q ∈ e.held k' ∧ q ≠ p := by
        intro k' q hq
        by_cases hk : k' = k
        · subst hk
          rw [Function.update_self] at hq
          exact ⟨hheld ▸ List.mem_cons_of_mem p hq, fun heq => hps (heq ▸ hq)⟩
        · rw [Function.update_of_ne hk] at hq
          exact ⟨hq, fun heq => hk (h.apart k' k p (heq ▸ hq) hp)⟩
      constructor
      · intro k'
        by_cases hk : k' = k
        · subst hk
          simpa using hrest
        · simpa [Function.update_of_ne hk] using h.nodup k'
      · exact fun k₁ k₂ q hq₁ hq₂ => h.apart k₁ k₂ q (hmem k₁ q hq₁).1 (hmem k₂ q hq₂).1
      · exact List.nodup_cons.mpr ⟨h.retired_apart k p hp, h.retired_nodup⟩
      · intro k' q hq hretired
        obtain ⟨hheld', hne⟩ := hmem k' q hq
        rcases List.mem_cons.mp hretired with heq | hretired
        · exact hne heq
        · exact h.retired_apart k' q hheld' hretired
      · exact fun k' q hq => h.held_proper k' q (hmem k' q hq).1
      · intro q hq
        rcases List.mem_cons.mp hq with rfl | hq
        · exact h.held_proper k q hp
        · exact h.retired_proper q hq
      · intro q birth hq
        rcases h.owned q birth hq with hretired | ⟨k', hk'⟩
        · exact .inl (List.mem_cons_of_mem p hretired)
        · by_cases heq : q = p
          · exact .inl (heq ▸ List.mem_cons_self)
          · refine .inr ⟨k', ?_⟩
            by_cases hk : k' = k
            · subst hk
              rw [hheld] at hk'
              simpa [heq] using hk'
            · simpa [Function.update_of_ne hk] using hk'

theorem Kept.step (h : e.Kept) (event : Event κ) : (e.step event).Kept := by
  cases event with
  | make k => exact h.give (.inl ⟨rfl, rfl⟩)
  | spoil k => exact h.give (.inr ⟨rfl, rfl⟩)
  | waste => exact h.add .wasted
  | drop k => exact h.drop k
  | free p => exact h.free p

/-- **Everything is kept in order**, whatever happens. -/
theorem Kept.run (h : e.Kept) (es : List (Event κ)) : (e.run es).Kept := by
  induction es generalizing e with
  | nil => exact h
  | cons event es ih => exact ih (h.step event)

end Kept

end Estate

end Resource
