/-!
# TclTls.Wire.Prefixed

Lists of byte strings on the wire: each is preceded by its length, one byte.

`split` reads such a list back.  `split_prefixed` is the round trip for names
that are not too long for their prefix, and `prefixed_inj` what it gives: the
wire form determines the list.
-/

namespace Wire

/-- The wire form of a list of names. -/
def prefixed : List (List UInt8) → List UInt8
  | [] => []
  | name :: names => UInt8.ofNat name.length :: (name ++ prefixed names)

/-- The names of a wire form, `none` if it ends in the middle of one. -/
def split : List UInt8 → Option (List (List UInt8))
  | [] => some []
  | n :: bytes =>
      if n.toNat ≤ bytes.length then
        (split (bytes.drop n.toNat)).map (bytes.take n.toNat :: ·)
      else none
termination_by bytes => bytes.length
decreasing_by
  rw [List.length_drop, List.length_cons]
  omega

/-- A name that fits its prefix. -/
def FitsPrefix (name : List UInt8) : Prop := name.length ≤ 255

instance (name : List UInt8) : Decidable (FitsPrefix name) :=
  inferInstanceAs (Decidable (name.length ≤ 255))

theorem prefixed_append (names names' : List (List UInt8)) :
    prefixed (names ++ names') = prefixed names ++ prefixed names' := by
  induction names with
  | nil => rfl
  | cons name names ih => simp [prefixed, ih]

/-- **Round trip.** -/
theorem split_prefixed {names : List (List UInt8)} (h : ∀ name ∈ names, FitsPrefix name) :
    split (prefixed names) = some names := by
  induction names with
  | nil => rw [prefixed, split]
  | cons name names ih =>
      have hfits : name.length ≤ 255 := h name List.mem_cons_self
      have hlen : (UInt8.ofNat name.length).toNat = name.length := by
        rw [UInt8.toNat_ofNat']
        omega
      have hbound : name.length ≤ (name ++ prefixed names).length := by
        rw [List.length_append]
        omega
      rw [prefixed, split, hlen, if_pos hbound, List.drop_left, List.take_left,
        ih fun name' hname' => h name' (List.mem_cons_of_mem name hname')]
      rfl

/-- The wire form determines the list. -/
theorem prefixed_inj {names names' : List (List UInt8)} (h : ∀ name ∈ names, FitsPrefix name)
    (h' : ∀ name ∈ names', FitsPrefix name) (heq : prefixed names = prefixed names') :
    names = names' := by
  have hsplit := split_prefixed h
  rw [heq, split_prefixed h'] at hsplit
  exact (Option.some.inj hsplit).symm

end Wire
