/-!
# TclTls.Stream.Sink

A sink that takes what it is given in part.

Every write is answered by how much of it has been taken, or fails.  A writer that does
not look at the answers loses what is not taken, so the sink holds everything exactly if
every write is taken whole (`accepted_eq_flatten_iff`).
-/

namespace Stream

/-- The answers to the writes: of the `i`-th, of `n` elements, so many are taken. -/
structure Sink where
  taken : Nat → Nat → Option Nat
  taken_le : ∀ i n k, taken i n = some k → k ≤ n

namespace Sink

variable {α : Type} (S : Sink)

/-- What the sink holds after the pieces have been written from the `i`-th write on,
unless a write fails.  Nothing is written for an empty piece. -/
def accepted : Nat → List (List α) → Option (List α)
  | _, [] => some []
  | i, piece :: pieces =>
      if piece = [] then accepted i pieces
      else (S.taken i piece.length).bind fun k =>
        (accepted (i + 1) pieces).map (piece.take k ++ ·)

/-- Every piece is taken whole. -/
def Full : Nat → List (List α) → Prop
  | _, [] => True
  | i, piece :: pieces =>
      if piece = [] then Full i pieces
      else S.taken i piece.length = some piece.length ∧ Full (i + 1) pieces

variable {S} {i : Nat} {piece : List α} {pieces : List (List α)} {out : List α}

theorem accepted_nil_cons : S.accepted i ([] :: pieces) = S.accepted i pieces := by
  rw [accepted, if_pos rfl]

/-- A piece with something in it: what is taken of it comes first. -/
theorem accepted_cons_eq_some_iff (hpiece : piece ≠ []) :
    S.accepted i (piece :: pieces) = some out ↔
      ∃ k rest, S.taken i piece.length = some k ∧ S.accepted (i + 1) pieces = some rest ∧
        out = piece.take k ++ rest := by
  rw [accepted, if_neg hpiece, Option.bind_eq_some_iff]
  simp only [Option.map_eq_some_iff]
  constructor
  · rintro ⟨k, hk, rest, hrest, rfl⟩
    exact ⟨k, rest, hk, hrest, rfl⟩
  · rintro ⟨k, rest, hk, hrest, rfl⟩
    exact ⟨k, hk, rest, hrest, rfl⟩

/-- The sink holds no more than it was given. -/
theorem length_accepted_le (h : S.accepted i pieces = some out) :
    out.length ≤ pieces.flatten.length := by
  induction pieces generalizing i out with
  | nil =>
      obtain rfl : [] = out := Option.some.inj h
      exact Nat.le_refl 0
  | cons piece pieces ih =>
      rw [List.flatten_cons, List.length_append]
      by_cases hpiece : piece = []
      · subst hpiece
        rw [accepted_nil_cons] at h
        have hrest := ih h
        omega
      · obtain ⟨k, rest, hk, hrest, rfl⟩ := (accepted_cons_eq_some_iff hpiece).mp h
        have hlength := ih hrest
        have htake := List.length_take_le' k piece
        rw [List.length_append]
        omega

/-- **Nothing is lost** exactly if every piece is taken whole. -/
theorem accepted_eq_flatten_iff (h : S.accepted i pieces = some out) :
    out = pieces.flatten ↔ S.Full i pieces := by
  induction pieces generalizing i out with
  | nil =>
      obtain rfl : [] = out := Option.some.inj h
      exact iff_of_true rfl trivial
  | cons piece pieces ih =>
      rw [Full, List.flatten_cons]
      by_cases hpiece : piece = []
      · subst hpiece
        rw [accepted_nil_cons] at h
        rw [if_pos rfl, List.nil_append]
        exact ih h
      · obtain ⟨k, rest, hk, hrest, rfl⟩ := (accepted_cons_eq_some_iff hpiece).mp h
        have hle := S.taken_le i piece.length k hk
        have hlength := length_accepted_le hrest
        rw [if_neg hpiece, hk, Option.some.injEq, ← ih hrest]
        constructor
        · intro hall
          -- the lengths leave room for nothing else
          have hsum := congrArg List.length hall
          rw [List.length_append, List.length_append, List.length_take] at hsum
          have hwhole : k = piece.length := by omega
          rw [hwhole, List.take_length] at hall
          exact ⟨hwhole, List.append_cancel_left hall⟩
        · rintro ⟨rfl, rfl⟩
          rw [List.take_length]

theorem accepted_of_full (h : S.Full i pieces) : S.accepted i pieces = some pieces.flatten := by
  induction pieces generalizing i with
  | nil => rfl
  | cons piece pieces ih =>
      rw [List.flatten_cons, accepted]
      rw [Full] at h
      by_cases hpiece : piece = []
      · rw [if_pos hpiece] at h ⊢
        rw [ih h, hpiece, List.nil_append]
      · rw [if_neg hpiece] at h ⊢
        rw [h.1, Option.bind_some, ih h.2, Option.map_some, List.take_length]

end Sink

end Stream
