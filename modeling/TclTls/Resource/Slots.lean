import Mathlib.Data.List.Perm.Basic
import Mathlib.Logic.Function.Basic
import TclTls.Resource.RefCount

/-!
# TclTls.Resource.Slots

Objects that are kept in slots.

An object is acquired when it is put into a slot.  When all is done, what the
slots hold is released: an object that has been overwritten is not.  So as much
is released as has been acquired exactly if no slot has been used twice
(`released_perm_iff`).
-/

namespace Resource

variable {κ α : Type} [DecidableEq κ]

/-- What the slots hold after the assignments. -/
def held (as : List (κ × α)) : κ → Option α :=
  as.foldl (fun h x => Function.update h x.1 (some x.2)) fun _ => none

/-- What is released of the `slots`, in their order. -/
def released (slots : List κ) (as : List (κ × α)) : List α := slots.filterMap (held as)

section Held

variable {slots : List κ} {as : List (κ × α)} {h : κ → Option α} {k : κ} {x : α}

@[simp] theorem held_nil : held ([] : List (κ × α)) = fun _ => none := rfl

@[simp] theorem held_concat (a : κ × α) :
    held (as ++ [a]) = Function.update (held as) a.1 (some a.2) := by
  rw [held, List.foldl_append]
  rfl

theorem held_eq_none_iff : held as k = none ↔ k ∉ as.map Prod.fst := by
  induction as using List.reverseRecOn with
  | nil => simp
  | append_singleton as a ih =>
      rw [held_concat, List.map_append, List.mem_append, not_or, ← ih]
      by_cases hk : k = a.1
      · simp [hk]
      · simp [hk]

/-- A slot that was empty adds what it is given. -/
theorem filterMap_update_of_none (hslots : slots.Nodup) (hk : k ∈ slots) (hnone : h k = none) :
    (slots.filterMap (Function.update h k (some x))).Perm (x :: slots.filterMap h) := by
  induction slots with
  | nil => cases hk
  | cons slot slots ih =>
      obtain ⟨hslot, hslots⟩ := List.nodup_cons.mp hslots
      by_cases heq : slot = k
      · subst heq
        have hrest : slots.filterMap (Function.update h slot (some x)) = slots.filterMap h := by
          refine List.filterMap_congr fun s hs => ?_
          rw [Function.update_of_ne (ne_of_mem_of_not_mem hs hslot)]
        simp [hrest, hnone]
      · have hih := ih hslots ((List.mem_cons.mp hk).resolve_left (Ne.symm heq))
        rw [List.filterMap_cons, Function.update_of_ne heq, List.filterMap_cons]
        cases h slot with
        | none => exact hih
        | some y => exact (hih.cons y).trans (.swap x y _)

/-- One that was not is overwritten. -/
theorem length_filterMap_update_of_some (hsome : (h k).isSome) :
    (slots.filterMap (Function.update h k (some x))).length = (slots.filterMap h).length := by
  induction slots with
  | nil => rfl
  | cons slot slots ih =>
      by_cases heq : slot = k
      · subst heq
        obtain ⟨y, hy⟩ := Option.isSome_iff_exists.mp hsome
        simp [hy, ih]
      · rw [List.filterMap_cons, Function.update_of_ne heq, List.filterMap_cons]
        cases h slot <;> simp [ih]

end Held

section Released

variable {slots : List κ} {as : List (κ × α)}

theorem released_perm_of_nodup (hslots : slots.Nodup) (hall : ∀ a ∈ as, a.1 ∈ slots)
    (has : (as.map Prod.fst).Nodup) : (released slots as).Perm (as.map Prod.snd) := by
  induction as using List.reverseRecOn with
  | nil => simp [released]
  | append_singleton as a ih =>
      rw [List.map_append, List.nodup_append] at has
      have hnone : held as a.1 = none :=
        held_eq_none_iff.mpr fun hmem => has.2.2 a.1 hmem a.1 (by simp) rfl
      have hih := ih (fun b hb => hall b (List.mem_append_left _ hb)) has.1
      rw [released, held_concat, List.map_append]
      exact (filterMap_update_of_none hslots (hall a (by simp)) hnone).trans
        ((hih.cons a.2).trans (List.perm_append_singleton a.2 _).symm)

/-- If as much is released as has been acquired, no slot has been used twice. -/
theorem nodup_of_length_le (hslots : slots.Nodup) (hall : ∀ a ∈ as, a.1 ∈ slots) :
    (released slots as).length ≤ as.length ∧
      (as.length ≤ (released slots as).length → (as.map Prod.fst).Nodup) := by
  induction as using List.reverseRecOn with
  | nil => simp [released]
  | append_singleton as a ih =>
      obtain ⟨hle, hnodup⟩ := ih fun b hb => hall b (List.mem_append_left _ hb)
      rw [released, held_concat, List.length_append, List.length_singleton]
      by_cases hnone : held as a.1 = none
      · have hperm := filterMap_update_of_none (x := a.2) hslots (hall a (by simp)) hnone
        have hlength := hperm.length_eq
        rw [List.length_cons] at hlength
        refine ⟨by rw [released] at hle; omega, fun hmore => ?_⟩
        have hfresh := held_eq_none_iff.mp hnone
        have hbefore := hnodup (by rw [released]; omega)
        rw [List.map_append, List.nodup_append]
        refine ⟨hbefore, by simp, fun k hk k' hk' heq => hfresh ?_⟩
        rw [List.map_singleton, List.mem_singleton] at hk'
        rwa [← hk', ← heq]
      · have hsome : (held as a.1).isSome := Option.isSome_iff_ne_none.mpr hnone
        have hlength : (slots.filterMap (Function.update (held as) a.1 (some a.2))).length = _ :=
          length_filterMap_update_of_some hsome
        rw [released] at hle
        exact ⟨by omega, fun hmore => by omega⟩

/-- **What has been acquired is released** exactly if no slot has been used twice. -/
theorem released_perm_iff (hslots : slots.Nodup) (hall : ∀ a ∈ as, a.1 ∈ slots) :
    (released slots as).Perm (as.map Prod.snd) ↔ (as.map Prod.fst).Nodup := by
  constructor
  · intro hperm
    have hlength := hperm.length_eq
    rw [List.length_map] at hlength
    exact (nodup_of_length_le hslots hall).2 (by omega)
  · exact released_perm_of_nodup hslots hall

end Released

/-! ## Counts -/

namespace Accounting

variable {ε : Type} {a : Accounting ε κ} {es fs : List ε} {k : κ}

theorem count_of_acquires (h : ∀ e ∈ es, a.effect e = .acquire) :
    a.count k es = ((es.map a.key).count k : Nat) := by
  induction es with
  | nil => rfl
  | cons e es ih =>
      obtain ⟨he, hes⟩ := List.forall_mem_cons.mp h
      rw [count_cons, ih hes, delta, he, List.map_cons, List.count_cons]
      by_cases hk : a.key e = k
      · simp [Effect.delta, hk, Int.add_comm]
      · simp [hk]

theorem count_of_releases (h : ∀ e ∈ es, a.effect e = .release) :
    a.count k es = -((es.map a.key).count k : Nat) := by
  induction es with
  | nil => rfl
  | cons e es ih =>
      obtain ⟨he, hes⟩ := List.forall_mem_cons.mp h
      rw [count_cons, ih hes, delta, he, List.map_cons, List.count_cons]
      by_cases hk : a.key e = k
      · simp only [hk, if_true, Effect.delta, beq_self_eq_true]
        omega
      · simp [hk]

/-- Every object is released as often as it is acquired. -/
theorem count_eq_zero_iff_perm (hes : ∀ e ∈ es, a.effect e = .acquire)
    (hfs : ∀ e ∈ fs, a.effect e = .release) :
    (∀ k, a.count k (es ++ fs) = 0) ↔ (fs.map a.key).Perm (es.map a.key) := by
  rw [List.perm_iff_count]
  refine forall_congr' fun k => ?_
  rw [count_append, count_of_acquires hes, count_of_releases hfs]
  omega

end Accounting

end Resource
