import Mathlib.Algebra.BigOperators.Group.List.Basic

/-!
# TclTls.Settings.Reader

Option lists in which a word may be abbreviated, some options have no value, and
the last word may stand for itself.

A `Reader` says what a word names and what each option does to a record.
`Reader.read` goes through the words from left to right; where it stops it tells how
far it has got.  `made` are the settings that it makes until then, and `Steps` is what
they come to (`steps_reached`).  `Steps.last` reduces a fact about all settings to a fact
about one: a field has what the last of them has given it.
-/

namespace Settings

variable {κ ω ρ ε β : Type}

/-- What words name, and what the options do. -/
structure Reader (κ ω ρ ε : Type) where
  index : ω → Except ε κ
  /-- an option without a value -/
  flag : κ → Option (ρ → ρ)
  /-- the error for an option that is the last word -/
  missing : κ → ε
  assign : κ → ω → ρ → Except ε ρ
  /-- the last word stands for itself -/
  tail : ω → ρ → Option ρ

/-- One thing that words ask for. -/
inductive Setting (κ ω : Type) where
  | flag (k : κ)
  | value (k : κ) (v : ω)
  | tail (v : ω)

namespace Reader

variable (t : Reader κ ω ρ ε)

/-- Go through the words.  An error comes with the record as it is by then. -/
def read : List ω → ρ → Except (ε × ρ) ρ
  | [], r => .ok r
  | [word], r =>
      match t.tail word r with
      | some r' => .ok r'
      | none =>
          match t.index word with
          | .error e => .error (e, r)
          | .ok k =>
              match t.flag k with
              | some f => .ok (f r)
              | none => .error (t.missing k, r)
  | word :: value :: words, r =>
      match t.index word with
      | .error e => .error (e, r)
      | .ok k =>
          match t.flag k with
          | some f => read (value :: words) (f r)
          | none =>
              match t.assign k value r with
              | .error e => .error (e, r)
              | .ok r' => read words r'

/-- The result of a reading, without the record that an error comes with. -/
def result (x : Except (ε × ρ) ρ) : Except ε ρ := x.mapError Prod.fst

/-- The record as far as the reading has got. -/
def reached : Except (ε × ρ) ρ → ρ
  | .ok r => r
  | .error (_, r) => r

/-- The settings that are made before the reading stops. -/
def made : List ω → ρ → List (Setting κ ω)
  | [], _ => []
  | [word], r =>
      match t.tail word r with
      | some _ => [.tail word]
      | none =>
          match t.index word with
          | .error _ => []
          | .ok k =>
              match t.flag k with
              | some _ => [.flag k]
              | none => []
  | word :: value :: words, r =>
      match t.index word with
      | .error _ => []
      | .ok k =>
          match t.flag k with
          | some f => .flag k :: made (value :: words) (f r)
          | none =>
              match t.assign k value r with
              | .error _ => []
              | .ok r' => .value k value :: made words r'

/-! ## Settings, one after another -/

/-- What a setting does to the record. -/
inductive Does : Setting κ ω → ρ → ρ → Prop
  | flag {k : κ} {f : ρ → ρ} (hflag : t.flag k = some f) (r : ρ) : Does (.flag k) r (f r)
  | value {k : κ} {v : ω} {r r' : ρ} (hflag : t.flag k = none) (hassign : t.assign k v r = .ok r') :
      Does (.value k v) r r'
  | tail {v : ω} {r r' : ρ} (htail : t.tail v r = some r') : Does (.tail v) r r'

inductive Steps : List (Setting κ ω) → ρ → ρ → Prop
  | nil (r : ρ) : Steps [] r r
  | cons {s : Setting κ ω} {ss : List (Setting κ ω)} {r r₁ r' : ρ} (hdoes : t.Does s r r₁)
      (hrest : Steps ss r₁ r') : Steps (s :: ss) r r'

variable {t}

/-- What holds at first and is kept by every setting holds in the end. -/
theorem Steps.invariant {P : ρ → Prop} {ss : List (Setting κ ω)} {r r' : ρ} (h : t.Steps ss r r')
    (hstep : ∀ s r r', t.Does s r r' → P r → P r') (hr : P r) : P r' := by
  induction h with
  | nil r => exact hr
  | cons hdoes hrest ih => exact ih (hstep _ _ _ hdoes hr)

/-- **The last setting wins**: if each setting gives the field a value or leaves it alone,
then the field has the last of the values, or what it had. -/
theorem Steps.last {field : ρ → β} {gives : Setting κ ω → Option β} {ss : List (Setting κ ω)}
    {r r' : ρ} (h : t.Steps ss r r')
    (hstep : ∀ s r r', t.Does s r r' → field r' = (gives s).getD (field r)) :
    field r' = (ss.filterMap gives).getLast?.getD (field r) := by
  induction h with
  | nil r => rfl
  | @cons s ss r r₁ r' hdoes hrest ih =>
      rw [ih, hstep _ _ _ hdoes]
      cases hs : gives s with
      | none => rw [List.filterMap_cons_none hs, Option.getD_none]
      | some b =>
          rw [List.filterMap_cons_some hs, List.getLast?_cons, Option.getD_some, Option.getD_some]

/-- The last of what the settings give, or what there was. -/
def lastOf (ss : List (Setting κ ω)) (gives : Setting κ ω → Option β) (b : β) : β :=
  (ss.filterMap gives).getLast?.getD b

theorem lastOf_singleton (s : Setting κ ω) (gives : Setting κ ω → Option β) (b : β) :
    lastOf [s] gives b = (gives s).getD b := by
  unfold lastOf
  cases hs : gives s with
  | none => rw [List.filterMap_cons_none hs, List.filterMap_nil, List.getLast?_nil]
  | some b' =>
      rw [List.filterMap_cons_some hs, List.filterMap_nil, List.getLast?_singleton]

/-- What an option in `names` gives, as `read` has it. -/
def valueOf [DecidableEq κ] (names : List κ) (read : ω → β) : Setting κ ω → Option β
  | .value k v => if k ∈ names then some (read v) else none
  | _ => none

/-- **A sum**: if each setting adds something to the field, the field has it all. -/
theorem Steps.sum [AddMonoid β] {field : ρ → β} {adds : Setting κ ω → β}
    {ss : List (Setting κ ω)} {r r' : ρ} (h : t.Steps ss r r')
    (hstep : ∀ s r r', t.Does s r r' → field r' = field r + adds s) :
    field r' = field r + (ss.map adds).sum := by
  induction h with
  | nil r => rw [List.map_nil, List.sum_nil, add_zero]
  | cons hdoes hrest ih => rw [ih, hstep _ _ _ hdoes, List.map_cons, List.sum_cons, add_assoc]

/-- **A reading** has made its settings, whether it stops early or not. -/
theorem steps_reached (words : List ω) (r : ρ) :
    t.Steps (t.made words r) r (reached (t.read words r)) := by
  fun_induction read t words r with
  | case1 r => exact .nil r
  | case2 word r r' htail =>
      simp only [made, htail]
      exact .cons (.tail htail) (.nil _)
  | case3 word r htail e hindex =>
      simp only [made, htail, hindex]
      exact .nil _
  | case4 word r htail k hindex f hflag =>
      simp only [made, htail, hindex, hflag]
      exact .cons (.flag hflag r) (.nil _)
  | case5 word r htail k hindex hflag =>
      simp only [made, htail, hindex, hflag]
      exact .nil _
  | case6 word value words r e hindex =>
      simp only [made, hindex]
      exact .nil _
  | case7 word value words r k hindex f hflag ih =>
      simp only [made, hindex, hflag]
      exact .cons (.flag hflag r) ih
  | case8 word value words r k hindex hflag e hassign =>
      simp only [made, hindex, hflag, hassign]
      exact .nil _
  | case9 word value words r k hindex hflag r' hassign ih =>
      simp only [made, hindex, hflag, hassign]
      exact .cons (.value hflag hassign) ih

theorem steps_of_read {words : List ω} {r r' : ρ} (h : t.read words r = .ok r') :
    t.Steps (t.made words r) r r' := by
  have hsteps := steps_reached (t := t) words r
  rwa [h] at hsteps

/-! ## Options with values only -/

theorem read_of_refused {word value : ω} {words : List ω} {k : κ} {r : ρ} {e : ε}
    (hindex : t.index word = .ok k) (hflag : t.flag k = none)
    (hassign : t.assign k value r = .error e) :
    t.read (word :: value :: words) r = .error (e, r) := by
  simp only [read, hindex, hflag, hassign]

theorem read_of_assigned {word value : ω} {words : List ω} {k : κ} {r r' : ρ}
    (hindex : t.index word = .ok k) (hflag : t.flag k = none)
    (hassign : t.assign k value r = .ok r') :
    t.read (word :: value :: words) r = t.read words r' := by
  simp only [read, hindex, hflag, hassign]

/-- All options have a value, and every word belongs to one. -/
structure Plain (t : Reader κ ω ρ ε) : Prop where
  flag : ∀ k, t.flag k = none
  tail : ∀ word r, t.tail word r = none

/-- The options that the words name, with their values. -/
def pairs (t : Reader κ ω ρ ε) : List ω → Option (List (κ × ω))
  | [] => some []
  | [_] => none
  | word :: value :: words =>
      match t.index word with
      | .error _ => none
      | .ok k => (pairs t words).map ((k, value) :: ·)

/-- The option takes the value, whatever has been set before. -/
def Accepts (t : Reader κ ω ρ ε) (p : κ × ω) : Prop := ∀ r, ∃ r', t.assign p.1 p.2 r = .ok r'

/-- Whether the value is taken does not depend on what has been set before. -/
def Uniform (t : Reader κ ω ρ ε) : Prop :=
  ∀ k v r r', t.assign k v r = .ok r' → t.Accepts (k, v)

/-- A value that is set. -/
def value (p : κ × ω) : Setting κ ω := .value p.1 p.2

/-- **What a plain reader accepts**: names and values that are each taken. -/
theorem Plain.read_ok_iff (hplain : t.Plain) (huniform : t.Uniform) {words : List ω} {r : ρ} :
    (∃ r', t.read words r = .ok r') ↔
      ∃ ps, t.pairs words = some ps ∧ ∀ p ∈ ps, t.Accepts p := by
  induction words using pairs.induct t generalizing r with
  | case1 => simp [read, pairs]
  | case2 word =>
      cases hindex : t.index word with
      | error e => simp [read, pairs, hplain.tail, hindex]
      | ok k => simp [read, pairs, hplain.tail, hplain.flag, hindex]
  | case3 word v words e hindex => simp [read, pairs, hindex]
  | case4 word v words k hindex ih =>
      have hpairs : t.pairs (word :: v :: words) = (t.pairs words).map ((k, v) :: ·) := by
        rw [pairs, hindex]
      have hread : ∀ r', (∃ r₁, t.assign k v r = .ok r₁ ∧ t.read words r₁ = .ok r') ↔
          t.read (word :: v :: words) r = .ok r' := by
        intro r'
        cases hassign : t.assign k v r with
        | error e => simp [read_of_refused hindex (hplain.flag k) hassign]
        | ok r₁ => simp [read_of_assigned hindex (hplain.flag k) hassign]
      simp only [← hread, hpairs]
      constructor
      · rintro ⟨r', r₁, hassign, hrest⟩
        obtain ⟨ps, hps, haccepts⟩ := ih.mp ⟨r', hrest⟩
        refine ⟨(k, v) :: ps, by rw [hps]; rfl, ?_⟩
        exact List.forall_mem_cons.mpr ⟨huniform _ _ _ _ hassign, haccepts⟩
      · rintro ⟨ps, hps, haccepts⟩
        obtain ⟨ps, hrest, rfl⟩ := Option.map_eq_some_iff.mp hps
        obtain ⟨hfirst, haccepts⟩ := List.forall_mem_cons.mp haccepts
        obtain ⟨r₁, hassign⟩ := hfirst r
        obtain ⟨r', hread⟩ := (@ih r₁).mpr ⟨ps, hrest, haccepts⟩
        exact ⟨r', r₁, hassign, hread⟩

/-- Then these are the settings that are made. -/
theorem Plain.made_eq (hplain : t.Plain) {words : List ω} {ps : List (κ × ω)} {r : ρ}
    (hpairs : t.pairs words = some ps) (haccepts : ∀ p ∈ ps, t.Accepts p) :
    t.made words r = ps.map value := by
  induction words using pairs.induct t generalizing ps r with
  | case1 =>
      cases hpairs
      rfl
  | case2 word => contradiction
  | case3 word v words e hindex =>
      rw [pairs, hindex] at hpairs
      contradiction
  | case4 word v words k hindex ih =>
      rw [pairs, hindex] at hpairs
      obtain ⟨ps, hrest, rfl⟩ := Option.map_eq_some_iff.mp hpairs
      obtain ⟨hfirst, haccepts⟩ := List.forall_mem_cons.mp haccepts
      obtain ⟨r₁, hassign⟩ := hfirst r
      simp only [made, hindex, hplain.flag, hassign, List.map_cons]
      rw [ih hrest haccepts]
      rfl

end Reader

end Settings
