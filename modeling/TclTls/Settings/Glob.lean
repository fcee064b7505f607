/-!
# TclTls.Settings.Glob

Glob patterns in which `*` is the only special character.

A pattern without a `*` matches itself (`matches_literal`), and with a `*` in
front of it everything that ends with it (`matches_star`).
-/

namespace Settings

/-- Some end of the text is one that `f` holds of. -/
def anyEnd (f : List Char → Bool) : List Char → Bool
  | [] => f []
  | c :: text => f (c :: text) || anyEnd f text

/-- The text is `c` and then one that `f` holds of. -/
def startsWith (c : Char) (f : List Char → Bool) : List Char → Bool
  | [] => false
  | d :: text => c == d && f text

/-- The pattern matches the text. -/
def globMatch : List Char → List Char → Bool
  | [] => List.isEmpty
  | c :: pattern =>
      if c = '*' then anyEnd (globMatch pattern) else startsWith c (globMatch pattern)

theorem anyEnd_iff (f : List Char → Bool) (text : List Char) :
    anyEnd f text = true ↔ ∃ rest, rest <:+ text ∧ f rest = true := by
  induction text with
  | nil => simp [anyEnd]
  | cons c text ih =>
      rw [anyEnd, Bool.or_eq_true, ih]
      constructor
      · rintro (h | ⟨rest, hrest, h⟩)
        · exact ⟨c :: text, List.suffix_refl _, h⟩
        · exact ⟨rest, hrest.trans (List.suffix_cons c text), h⟩
      · rintro ⟨rest, hrest, h⟩
        rcases List.suffix_cons_iff.mp hrest with rfl | hrest
        · exact .inl h
        · exact .inr ⟨rest, hrest, h⟩

theorem matches_literal {pattern : List Char} (h : '*' ∉ pattern) (text : List Char) :
    globMatch pattern text = true ↔ text = pattern := by
  induction pattern generalizing text with
  | nil => simp [globMatch]
  | cons c pattern ih =>
      have hc : ¬ c = '*' := fun hc => h (hc ▸ List.mem_cons_self)
      have hrest := ih fun hmem => h (List.mem_cons_of_mem c hmem)
      rw [globMatch, if_neg hc]
      cases text with
      | nil => simp [startsWith]
      | cons d text =>
          rw [startsWith, Bool.and_eq_true, beq_iff_eq, hrest, List.cons.injEq, eq_comm]

theorem matches_star {pattern : List Char} (h : '*' ∉ pattern) (text : List Char) :
    globMatch ('*' :: pattern) text = true ↔ pattern <:+ text := by
  rw [globMatch, if_pos rfl, anyEnd_iff]
  constructor
  · rintro ⟨rest, hrest, hmatch⟩
    rwa [(matches_literal h rest).mp hmatch] at hrest
  · intro hsuffix
    exact ⟨pattern, hsuffix, (matches_literal h pattern).mpr rfl⟩

/-- Behind a separator that does not occur before it, an end of the text is the
rest, or an end of the rest. -/
theorem suffix_of_separated {sep : Char} {front word name : List Char} (h : sep ∉ front) :
    sep :: name <:+ front ++ sep :: word ↔ name = word ∨ sep :: name <:+ word := by
  induction front with
  | nil => simp [List.suffix_cons_iff]
  | cons c front ih =>
      have hc : ¬ sep = c := fun hc => h (hc ▸ List.mem_cons_self)
      have hrest := ih fun hmem => h (List.mem_cons_of_mem c hmem)
      rw [List.cons_append, List.suffix_cons_iff, hrest]
      simp [hc]

end Settings
