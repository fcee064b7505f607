/-!
# TclTls.Stream.Transducer

Streaming transducers: a context that takes input in pieces, hands out output
as it goes, and has something left to say at the end.

The law is a field: updating with one piece after the other is updating with
both at once.  A transducer that looks at one element after the other obeys it
whatever it does (`ofSteps`).
-/

namespace Stream

/-- A context `σ` reading `α`s and writing `β`s.  Either operation may fail. -/
structure Transducer (σ α β : Type) where
  update : σ → List α → Option (List β × σ)
  finish : σ → Option (List β)
  update_nil : ∀ s, update s [] = some ([], s)
  update_append : ∀ s xs ys, update s (xs ++ ys) =
    (update s xs).bind fun (out, s') =>
      (update s' ys).map fun (out', s'') => (out ++ out', s'')

namespace Transducer

variable {σ α β : Type} (T : Transducer σ α β)

/-! ## Sessions -/

/-- The whole output for `xs`. -/
def session (s : σ) (xs : List α) : Option (List β) :=
  (T.update s xs).bind fun (out, s') => (T.finish s').map (out ++ ·)

/-- Every piece makes the context hand out something. -/
def Prompt : σ → List (List α) → Prop
  | _, [] => True
  | s, piece :: pieces =>
      ∀ out s', T.update s piece = some (out, s') → out ≠ [] ∧ Prompt s' pieces

/-- Every stream has an output, and no two have the same. -/
structure Distinct (s : σ) : Prop where
  total : ∀ xs, ∃ out, T.session s xs = some out
  injective : ∀ xs ys, T.session s xs = T.session s ys → xs = ys

/-- A part of what can be updated can be updated. -/
theorem update_of_append {s : σ} {xs ys : List α} {out : List β} {s' : σ}
    (h : T.update s (xs ++ ys) = some (out, s')) :
    ∃ out₁ s₁ out₂, T.update s xs = some (out₁, s₁) ∧ T.update s₁ ys = some (out₂, s') ∧
      out = out₁ ++ out₂ := by
  rw [T.update_append] at h
  cases hx : T.update s xs with
  | none => simp [hx] at h
  | some r =>
      obtain ⟨out₁, s₁⟩ := r
      cases hy : T.update s₁ ys with
      | none => simp [hx, hy] at h
      | some r' =>
          obtain ⟨out₂, s₂⟩ := r'
          simp only [hx, hy, Option.bind_some, Option.map_some, Option.some.injEq,
            Prod.mk.injEq] at h
          exact ⟨out₁, s₁, out₂, rfl, by rw [hy, h.2], h.1.symm⟩

/-! ## Piece by piece -/

/-- One update after the other. -/
def updates : σ → List (List α) → Option (List β × σ)
  | s, [] => some ([], s)
  | s, piece :: pieces =>
      (T.update s piece).bind fun (out, s') =>
        (updates s' pieces).map fun (out', s'') => (out ++ out', s'')

/-- **Updating piece by piece** is updating with all pieces at once. -/
theorem updates_eq (s : σ) (pieces : List (List α)) :
    T.updates s pieces = T.update s pieces.flatten := by
  induction pieces generalizing s with
  | nil => rw [List.flatten_nil, T.update_nil, updates]
  | cons piece pieces ih =>
      rw [List.flatten_cons, T.update_append, updates]
      simp only [ih]

/-- What comes out for each of the pieces. -/
def outputs : σ → List (List α) → Option (List (List β) × σ)
  | s, [] => some ([], s)
  | s, piece :: pieces =>
      (T.update s piece).bind fun (out, s') =>
        (outputs s' pieces).map fun (outs, s'') => (out :: outs, s'')

theorem updates_eq_outputs (s : σ) (pieces : List (List α)) :
    T.updates s pieces = (T.outputs s pieces).map fun (outs, s') => (outs.flatten, s') := by
  induction pieces generalizing s with
  | nil => rfl
  | cons piece pieces ih =>
      rw [updates, outputs]
      cases T.update s piece with
      | none => rfl
      | some r =>
          obtain ⟨out, s'⟩ := r
          simp only [Option.bind_some, ih]
          cases T.outputs s' pieces <;> simp

/-- The pieces that come out, with the last one from the end of the input. -/
def pieces (s : σ) (xss : List (List α)) : Option (List (List β)) :=
  (T.outputs s xss).bind fun (outs, s') => (T.finish s').map fun last => outs ++ [last]

theorem pieces_cons_of_update {s s' : σ} {xs : List α} {out : List β} {xss : List (List α)}
    (hupdate : T.update s xs = some (out, s')) :
    T.pieces s (xs :: xss) = (T.pieces s' xss).map (out :: ·) := by
  rw [pieces, pieces, outputs, hupdate, Option.bind_some]
  dsimp only
  cases T.outputs s' xss with
  | none => rfl
  | some r =>
      obtain ⟨outs, s''⟩ := r
      cases hfinish : T.finish s'' <;> simp [hfinish]

theorem pieces_cons_of_fails {s : σ} {xs : List α} {xss : List (List α)}
    (hupdate : T.update s xs = none) : T.pieces s (xs :: xss) = none := by
  rw [pieces, outputs, hupdate]
  rfl

/-- Put together they are the whole output. -/
theorem session_of_pieces {s : σ} {xss : List (List α)} {outs : List (List β)}
    (h : T.pieces s xss = some outs) : T.session s xss.flatten = some outs.flatten := by
  rw [pieces] at h
  rw [session, ← T.updates_eq, T.updates_eq_outputs]
  cases hout : T.outputs s xss with
  | none => simp [hout] at h
  | some r =>
      obtain ⟨outs', s'⟩ := r
      rw [hout, Option.bind_some, Option.map_eq_some_iff] at h
      obtain ⟨last, hlast, rfl⟩ := h
      simp [hlast]

theorem session_eq_some_iff {s : σ} {xs : List α} {out : List β} :
    T.session s xs = some out ↔ ∃ out₁ s' last,
      T.update s xs = some (out₁, s') ∧ T.finish s' = some last ∧ out₁ ++ last = out := by
  rw [session]
  constructor
  · intro h
    obtain ⟨⟨out₁, s'⟩, hupdate, h⟩ := Option.bind_eq_some_iff.mp h
    obtain ⟨last, hlast, h⟩ := Option.map_eq_some_iff.mp h
    exact ⟨out₁, s', last, hupdate, hlast, h⟩
  · rintro ⟨out₁, s', last, hupdate, hlast, rfl⟩
    simp [hupdate, hlast]

/-- Where there is an output for all pieces together, there is one for each. -/
theorem exists_pieces {s : σ} {xss : List (List α)} {out : List β}
    (h : T.session s xss.flatten = some out) : ∃ outs, T.pieces s xss = some outs := by
  obtain ⟨out₁, s', last, hupdate, hlast, -⟩ := T.session_eq_some_iff.mp h
  rw [← T.updates_eq, T.updates_eq_outputs] at hupdate
  obtain ⟨⟨outs, s''⟩, houts, hsame⟩ := Option.map_eq_some_iff.mp hupdate
  cases hsame
  exact ⟨outs ++ [last], by simp [pieces, houts, hlast]⟩

/-- Outputs of the context tell the streams apart that have one. -/
def Injective (s : σ) : Prop :=
  ∀ xs ys out, T.session s xs = some out → T.session s ys = some out → xs = ys

/-- From `d` on, `T'` gives back what `T` from `e` on has made its output of. -/
def Inverts {τ : Type} (T' : Transducer τ β α) (d : τ) (T : Transducer σ α β) (e : σ) : Prop :=
  ∀ xs out, T.session e xs = some out → T'.session d out = some xs

theorem Inverts.injective {τ : Type} {T' : Transducer τ β α} {d : τ} {T : Transducer σ α β} {e : σ}
    (h : T'.Inverts d T e) : T.Injective e := by
  intro xs ys out hxs hys
  have hsame := h xs out hxs
  rw [h ys out hys] at hsame
  exact (Option.some.inj hsame).symm

/-! ## How much comes out -/

/-- No update on `k` elements makes the context emit `k + n` of them, and no final
function more than `n`. -/
structure EmitsAtMost (n : Nat) : Prop where
  update : ∀ {s xs out s'}, T.update s xs = some (out, s') → out.length < xs.length + n
  finish : ∀ {s out}, T.finish s = some out → out.length ≤ n

/-- A context that works in blocks of `n`: it holds some elements back, and of those
that it has it emits as many blocks as it can, keeping none or one in any case. -/
structure Blocked (n : Nat) where
  Valid : σ → Prop
  held : σ → Nat
  keep : σ → Nat
  update_valid : ∀ {s xs out s'}, Valid s → T.update s xs = some (out, s') → Valid s'
  update_length : ∀ {s xs out s'}, Valid s → T.update s xs = some (out, s') →
    out.length = n * ((held s + xs.length - keep s) / n)

variable {T}

/-- What an update on `k` elements makes the context emit. -/
def Blocked.due {n : Nat} (acc : T.Blocked n) (s : σ) (k : Nat) : Nat :=
  n * ((acc.held s + k - acc.keep s) / n)

end Transducer

/-! ## Input alone -/

/-- A context that hands out nothing until the end: taking one piece after the
other is taking both at once. -/
structure Absorbs {σ α : Type} (update : σ → List α → σ) : Prop where
  nil : ∀ s, update s [] = s
  append : ∀ s xs ys, update s (xs ++ ys) = update (update s xs) ys

/-- **Absorbing piece by piece** is absorbing all pieces at once. -/
theorem Absorbs.foldl {σ α : Type} {update : σ → List α → σ} (h : Absorbs update) (s : σ)
    (pieces : List (List α)) : pieces.foldl update s = update s pieces.flatten := by
  induction pieces generalizing s with
  | nil => rw [List.foldl_nil, List.flatten_nil, h.nil]
  | cons piece pieces ih => rw [List.foldl_cons, List.flatten_cons, h.append, ih]

/-! ## Element by element

A step function says what one element does; it gives a transducer whatever it
is.  `ofBlocks` keeps elements back until it has a whole block of them. -/

section Steps

variable {σ α β : Type} (step : σ → α → List β × σ)

/-- One step after the other. -/
def steps : σ → List α → List β × σ
  | s, [] => ([], s)
  | s, x :: xs => ((step s x).1 ++ (steps (step s x).2 xs).1, (steps (step s x).2 xs).2)

theorem steps_append (s : σ) (xs ys : List α) :
    steps step s (xs ++ ys) =
      ((steps step s xs).1 ++ (steps step (steps step s xs).2 ys).1,
        (steps step (steps step s xs).2 ys).2) := by
  induction xs generalizing s with
  | nil => rfl
  | cons x xs ih => simp only [List.cons_append, steps, ih, List.append_assoc]

def ofSteps (finish : σ → Option (List β)) : Transducer σ α β where
  update s xs := some (steps step s xs)
  finish := finish
  update_nil _ := rfl
  update_append s xs ys := by
    simp only [steps_append, Option.bind_some, Option.map_some]

end Steps

/-- Blocks of `n` are mapped by `f`; what is left is finished by `last`, which
may look at settings `γ` that stay as they are. -/
def ofBlocks {γ α β : Type} (n : Nat) (f : List α → List β)
    (last : γ → List α → Option (List β)) : Transducer (γ × List α) α β :=
  ofSteps
    (fun s x =>
      if s.2.length + 1 = n then (f (s.2 ++ [x]), (s.1, [])) else ([], (s.1, s.2 ++ [x])))
    fun s => last s.1 s.2

section Blocks

variable {γ α β : Type} {n : Nat} {f : List α → List β} {last : γ → List α → Option (List β)}

/-- By induction on the input: an element completes a block or is held back too. -/
theorem ofBlocks_length (hf : ∀ block, (f block).length = block.length) {s : γ × List α}
    (hs : s.2.length < n) {xs : List α} {out : List β} {s' : γ × List α}
    (hupdate : (ofBlocks n f last).update s xs = some (out, s')) :
    out.length = n * ((s.2.length + xs.length) / n) ∧ s'.2.length < n := by
  have hpos : 0 < n := by omega
  simp only [ofBlocks, ofSteps, Option.some.injEq] at hupdate
  induction xs generalizing s out with
  | nil =>
      obtain ⟨rfl, rfl⟩ := Prod.mk.inj hupdate
      refine ⟨?_, hs⟩
      rw [List.length_nil, List.length_nil, Nat.add_zero, Nat.div_eq_of_lt hs, Nat.mul_zero]
  | cons x xs ih =>
      rw [steps, Prod.mk.injEq] at hupdate
      obtain ⟨rfl, hs'⟩ := hupdate
      rw [List.length_append, List.length_cons]
      by_cases hfull : s.2.length + 1 = n
      · simp only [if_pos hfull] at hs' ⊢
        have hempty : ([] : List α).length < n := hpos
        obtain ⟨hlen, hrest⟩ := ih hempty (Prod.ext rfl hs')
        have hdiv : (s.2.length + (xs.length + 1)) / n = xs.length / n + 1 := by
          rw [← Nat.add_div_right _ hpos]
          congr 1
          omega
        rw [hf, List.length_append, List.length_singleton, hfull, hlen, hdiv, List.length_nil,
          Nat.zero_add, Nat.mul_add, Nat.mul_one, Nat.add_comm]
        exact ⟨rfl, hrest⟩
      · simp only [if_neg hfull] at hs' ⊢
        have hroom : (s.2 ++ [x]).length < n := by
          rw [List.length_append, List.length_singleton]
          omega
        obtain ⟨hlen, hrest⟩ := ih hroom (Prod.ext rfl hs')
        rw [List.length_append, List.length_singleton] at hlen
        rw [hlen, List.length_nil, Nat.zero_add, Nat.add_assoc, Nat.add_comm 1]
        exact ⟨rfl, hrest⟩

/-- Blocks of `n` that keep their length. -/
def blockedOfBlocks (hf : ∀ block, (f block).length = block.length) :
    (ofBlocks n f last).Blocked n where
  Valid s := s.2.length < n
  held s := s.2.length
  keep _ := 0
  update_valid hs hupdate := (ofBlocks_length hf hs hupdate).2
  update_length hs hupdate := (ofBlocks_length hf hs hupdate).1

end Blocks

end Stream
