import Mathlib.Data.List.Induction

/-!
# TclTls.Resource.RefCount

Objects with a reference count, seen from outside: a history of events, each of
which acquires an object, releases it or uses it.

`Accounting.count` is the count the history amounts to, and a history is
`Sound` if nothing is used or released whose count is not positive.  A sound
history never releases more than it acquires (`Sound.count_nonneg`), and it can
be checked piece by piece: `sound_append` says that a sound history may be
continued by what it `Admits`.
-/

namespace Resource

/-- What an event does with the object it is about. -/
inductive Effect where
  | acquire
  | release
  | use
deriving DecidableEq, Repr

/-- What it does to the count. -/
def Effect.delta : Effect → Int
  | .acquire => 1
  | .release => -1
  | .use => 0

/-- How events of type `ε` are read: which object they are about, and what they
do with it. -/
structure Accounting (ε κ : Type) where
  key : ε → κ
  effect : ε → Effect

namespace Accounting

variable {ε κ : Type} [DecidableEq κ] (a : Accounting ε κ)

/-- What an event does to the count of `k`. -/
def delta (k : κ) (e : ε) : Int := if a.key e = k then (a.effect e).delta else 0

/-- The references to `k` after the events, if there were none before. -/
def count (k : κ) : List ε → Int
  | [] => 0
  | e :: es => a.delta k e + count k es

/-- Only an object with references is used or released. -/
def Sound (es : List ε) : Prop :=
  ∀ pre e post, es = pre ++ e :: post → a.effect e ≠ .acquire → 0 < a.count (a.key e) pre

/-- The events `fs` use and release nothing without references if they come
after `es`. -/
def Admits (es : List ε) : List ε → Prop
  | [] => True
  | e :: fs => (a.effect e ≠ .acquire → 0 < a.count (a.key e) es) ∧ Admits (es ++ [e]) fs

section Rules

variable {a} {es fs gs : List ε} {e : ε} {k : κ}

@[simp] theorem count_nil : a.count k [] = 0 := rfl

theorem count_cons : a.count k (e :: fs) = a.delta k e + a.count k fs := rfl

@[simp] theorem count_append : a.count k (es ++ fs) = a.count k es + a.count k fs := by
  induction es with
  | nil => exact (Int.zero_add _).symm
  | cons e es ih => rw [List.cons_append, count_cons, ih, count_cons, Int.add_assoc]

@[simp] theorem count_singleton : a.count k [e] = a.delta k e := by
  rw [count_cons, count_nil, Int.add_zero]

@[simp] theorem admits_nil : a.Admits es [] := trivial

theorem sound_nil : a.Sound [] := by
  intro pre e post h
  exact absurd h (by simp)

theorem sound_append_singleton :
    a.Sound (es ++ [e]) ↔ a.Sound es ∧ (a.effect e ≠ .acquire → 0 < a.count (a.key e) es) := by
  constructor
  · intro h
    refine ⟨fun pre f post hes => h pre f (post ++ [e]) ?_, h es e [] rfl⟩
    rw [hes, List.append_assoc, List.cons_append]
  · rintro ⟨hes, he⟩ pre f post hsplit
    -- the event is either the last one or one of the earlier ones
    rcases List.eq_nil_or_concat post with rfl | ⟨post, g, rfl⟩
    · obtain ⟨rfl, hf⟩ := List.append_inj' hsplit rfl
      obtain rfl : e = f := by simpa using hf
      exact he
    · have hinit : es ++ [e] = (pre ++ f :: post) ++ [g] := by simpa using hsplit
      exact hes pre f post (List.append_inj' hinit rfl).1

/-- A history may be continued by what it admits. -/
theorem sound_append : a.Sound (es ++ fs) ↔ a.Sound es ∧ a.Admits es fs := by
  induction fs generalizing es with
  | nil => simp
  | cons f fs ih =>
      rw [List.append_cons, ih, sound_append_singleton, and_assoc]
      rfl

/-- **Nothing is released more often than it is acquired.** -/
theorem Sound.count_nonneg (h : a.Sound es) (k : κ) : 0 ≤ a.count k es := by
  induction es using List.reverseRecOn with
  | nil => exact Int.le_refl 0
  | append_singleton es e ih =>
      obtain ⟨hes, he⟩ := sound_append_singleton.mp h
      have hnonneg := ih hes
      rw [count_append, count_singleton, delta]
      split
      next hkey =>
        subst hkey
        cases heffect : a.effect e with
        | acquire => simp only [Effect.delta]; omega
        | release =>
            have hpos := he (by simp [heffect])
            simp only [Effect.delta]
            omega
        | use => simpa [Effect.delta] using hnonneg
      next => simpa using hnonneg

/-- A use leaves the count alone. -/
theorem admits_uses (h : ∀ f ∈ fs, a.effect f = .use ∧ a.key f = k) (hk : 0 < a.count k es) :
    a.Admits es fs := by
  induction fs generalizing es with
  | nil => trivial
  | cons f fs ih =>
      obtain ⟨heffect, hkey⟩ := h f List.mem_cons_self
      refine ⟨fun _ => hkey ▸ hk, ih (fun g hg => h g (List.mem_cons_of_mem f hg)) ?_⟩
      rw [count_append, count_singleton, delta, if_pos hkey, heffect]
      simpa [Effect.delta] using hk

end Rules

end Accounting

end Resource
