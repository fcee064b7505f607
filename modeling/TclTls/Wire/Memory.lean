/-!
# TclTls.Wire.Memory

An object in memory, read and written through a pointer into it.

The object is the list of its bytes and the pointer an offset.  An access that
is not inside the object is undefined in C, so every operation here is partial
and `none` for such an access; a theorem that an operation succeeds says, among
other things, that it stays inside.
-/

namespace Wire

/-! ## Reading -/

/-- The `n` bytes at `p`. -/
def slice (object : List UInt8) (p n : Nat) : Option (List UInt8) :=
  if p + n ≤ object.length then some ((object.drop p).take n) else none

/-- The string at the beginning of the object, which ends before its first zero
byte. -/
def cString : List UInt8 → Option (List UInt8)
  | [] => none
  | b :: object => if b = 0 then some [] else (cString object).map (b :: ·)

/-- A slice is what stands between its neighbours. -/
theorem slice_eq_some_iff {object s : List UInt8} {p n : Nat} :
    slice object p n = some s ↔
      ∃ before after, object = before ++ s ++ after ∧ before.length = p ∧ s.length = n := by
  unfold slice
  constructor
  · intro h
    by_cases hbound : p + n ≤ object.length
    · rw [if_pos hbound, Option.some.injEq] at h
      refine ⟨object.take p, (object.drop p).drop n, ?_, ?_, ?_⟩
      · rw [← h, List.append_assoc, List.take_append_drop, List.take_append_drop]
      · rw [List.length_take]
        omega
      · rw [← h, List.length_take, List.length_drop]
        omega
    · rw [if_neg hbound] at h
      contradiction
  · rintro ⟨before, after, rfl, rfl, rfl⟩
    have hbound : before.length + s.length ≤ (before ++ s ++ after).length := by
      simp only [List.length_append]
      omega
    rw [if_pos hbound, List.append_assoc, List.drop_left, List.take_left]

theorem slice_append (before s after : List UInt8) :
    slice (before ++ s ++ after) before.length s.length = some s :=
  slice_eq_some_iff.mpr ⟨before, after, rfl, rfl, rfl⟩

/-- A string is followed by a zero byte of the object, and has none. -/
theorem cString_eq_some_iff {object s : List UInt8} :
    cString object = some s ↔ 0 ∉ s ∧ ∃ rest, object = s ++ 0 :: rest := by
  induction object generalizing s with
  | nil => simp [cString]
  | cons b object ih =>
      rw [cString]
      by_cases hb : b = 0
      · rw [if_pos hb, Option.some.injEq]
        constructor
        · rintro rfl
          exact ⟨List.not_mem_nil, object, by rw [hb, List.nil_append]⟩
        · rintro ⟨hzero, rest, hrest⟩
          cases s with
          | nil => rfl
          | cons c s =>
              have hc : b = c := (List.cons.inj hrest).1
              exact (hzero (by simp [← hc, hb])).elim
      · rw [if_neg hb]
        cases s with
        | nil => simp [hb]
        | cons c s =>
            have hstep : (cString object).map (b :: ·) = some (c :: s) ↔
                b = c ∧ cString object = some s := by
              cases cString object <;> simp [and_comm]
            rw [hstep, ih]
            constructor
            · rintro ⟨rfl, hzero, rest, rfl⟩
              exact ⟨by simpa [Ne.symm hb] using hzero, rest, rfl⟩
            · rintro ⟨hzero, rest, hrest⟩
              obtain ⟨rfl, hobject⟩ := List.cons.inj hrest
              exact ⟨rfl, fun h => hzero (List.mem_cons_of_mem b h), rest, hobject⟩

/-! ## Writing -/

/-- The object after the bytes have been copied to `p`. -/
def store (object : List UInt8) (p : Nat) (bytes : List UInt8) : Option (List UInt8) :=
  if p + bytes.length ≤ object.length then
    some (object.take p ++ bytes ++ object.drop (p + bytes.length))
  else none

/-- Copying behind what has been written already takes away from the room that
is left. -/
theorem store_append (written room bytes : List UInt8) (h : bytes.length ≤ room.length) :
    store (written ++ room) written.length bytes =
      some (written ++ bytes ++ room.drop bytes.length) := by
  have hbound : written.length + bytes.length ≤ (written ++ room).length := by
    rw [List.length_append]
    omega
  rw [store, if_pos hbound, List.take_left, List.drop_append]
  have hwritten : written.drop (written.length + bytes.length) = [] :=
    List.drop_eq_nil_of_le (by omega)
  rw [hwritten, List.nil_append, Nat.add_sub_cancel_left]

end Wire
