/-!
# TclTls.Settings.Loop

Option lists of the form `-name value -name value …`, read into a record.

A `Table` names the options and says what the value of each does to the
record.  `Table.loop` goes through the words from left to right and stops at
the first one that is not an option; `pairs` are the names and values it gets
to see.

The rule `loop_last` reduces a fact about the whole loop to facts about the
table's entries: a field that only certain options write has the value of the
last one given.

A word that is no option ends the loop, and `ignored` are the words from there
on.  `loop_ok_iff` says what the loop accepts: everything before has to be taken
by the table, and nothing is asked of what is ignored.
-/

namespace Settings

variable {ρ ε β : Type}

/-! ## Tables -/

/-- An option: its value may be refused, or it changes the record. -/
structure Entry (ρ ε : Type) where
  name : String
  apply : String → ρ → Except ε ρ

/-- Whatever its value, the option leaves the field alone. -/
def Entry.Keeps (entry : Entry ρ ε) (field : ρ → β) : Prop :=
  ∀ value r r', entry.apply value r = .ok r' → field r' = field r

/-- The option gives the field the value `read` makes of its own. -/
def Entry.Writes (entry : Entry ρ ε) (field : ρ → β) (read : String → β) : Prop :=
  ∀ value r r', entry.apply value r = .ok r' → field r' = read value

structure Table (ρ ε : Type) where
  entries : List (Entry ρ ε)
  /-- the error for an option that is the last word -/
  missing : String → ε
  /-- the error for a word no option has as its name -/
  bad : String → ε

/-- The word starts with a `-`. -/
def isOption (word : String) : Bool := word.toList.head? == some '-'

/-- The first option of that name. -/
def Table.find (t : Table ρ ε) (word : String) : Option (Entry ρ ε) :=
  t.entries.find? (·.name == word)

/-- Go through the words; what follows a word that is no option is ignored. -/
def Table.loop (t : Table ρ ε) : List String → ρ → Except ε ρ
  | [], r => .ok r
  | [word], r =>
      if isOption word then
        match t.find word with
        | none => .error (t.bad word)
        | some _ => .error (t.missing word)
      else .ok r
  | word :: value :: words, r =>
      if isOption word then
        match t.find word with
        | none => .error (t.bad word)
        | some entry =>
            match entry.apply value r with
            | .error e => .error e
            | .ok r => t.loop words r
      else .ok r

/-- The options given, with their values. -/
def pairs : List String → List (String × String)
  | word :: value :: words => if isOption word then (word, value) :: pairs words else []
  | _ => []

/-- The last value given to an option that `names` holds of. -/
def last (names : String → Bool) : List (String × String) → Option String
  | [] => none
  | (word, value) :: ps => (last names ps).or (if names word then some value else none)

theorem exists_of_last {names : String → Bool} {ps : List (String × String)} {value : String}
    (h : last names ps = some value) : ∃ word, names word = true ∧ (word, value) ∈ ps := by
  induction ps with
  | nil => contradiction
  | cons p ps ih =>
      rw [last, Option.or_eq_some_iff] at h
      rcases h with h | ⟨-, h⟩
      · obtain ⟨word, hword, hmem⟩ := ih h
        exact ⟨word, hword, List.mem_cons_of_mem _ hmem⟩
      · split at h
        next hword =>
          cases h
          exact ⟨p.1, hword, List.mem_cons_self⟩
        next => contradiction

theorem last_append (names : String → Bool) (ps ps' : List (String × String)) :
    last names (ps ++ ps') = (last names ps').or (last names ps) := by
  induction ps with
  | nil => simp [last]
  | cons p ps ih =>
      obtain ⟨word, value⟩ := p
      rw [List.cons_append, last, last, ih, Option.or_assoc]

theorem last_eq_none_iff (names : String → Bool) (ps : List (String × String)) :
    last names ps = none ↔ ∀ p ∈ ps, names p.1 = false := by
  induction ps with
  | nil => simp [last]
  | cons p ps ih =>
      obtain ⟨word, value⟩ := p
      rw [last, Option.or_eq_none_iff, ih, List.forall_mem_cons]
      cases names word <;> simp

theorem last_eq_some_iff (names : String → Bool) (ps : List (String × String)) (value : String) :
    last names ps = some value ↔ ∃ before word after,
      ps = before ++ (word, value) :: after ∧ names word = true ∧
        ∀ p ∈ after, names p.1 = false := by
  constructor
  · intro h
    induction ps with
    | nil => contradiction
    | cons p ps ih =>
        rw [last, Option.or_eq_some_iff] at h
        rcases h with h | ⟨hnone, h⟩
        · obtain ⟨before, word, after, hsplit, hword⟩ := ih h
          exact ⟨p :: before, word, after, by rw [hsplit, List.cons_append], hword⟩
        · split at h
          next hword =>
            cases h
            exact ⟨[], p.1, ps, rfl, hword, (last_eq_none_iff names ps).mp hnone⟩
          next => contradiction
  · rintro ⟨before, word, after, rfl, hword, hafter⟩
    rw [last_append, last, (last_eq_none_iff names after).mpr hafter, if_pos hword]
    rfl

/-- An array that is set for one option after another holds the last values. -/
theorem lookup_reverse (key : String) (ps : List (String × String)) :
    ps.reverse.lookup key = last (· == key) ps := by
  induction ps with
  | nil => rfl
  | cons p ps ih =>
      obtain ⟨word, value⟩ := p
      rw [List.reverse_cons, List.lookup_append, ih, last]
      by_cases hword : word = key
      · simp [hword]
      · have hkey : (key == word) = false := beq_eq_false_iff_ne.mpr (Ne.symm hword)
        simp [List.lookup_cons, hword, hkey]

/-! ## Rules -/

variable {t : Table ρ ε}

/-- Options applied one after another. -/
inductive Table.Applied (t : Table ρ ε) : List (String × String) → ρ → ρ → Prop
  | nil (r : ρ) : Applied t [] r r
  | cons {entry : Entry ρ ε} {value : String} {ps : List (String × String)} {r r₁ r' : ρ}
      (hmem : entry ∈ t.entries) (happly : entry.apply value r = .ok r₁)
      (hrest : Applied t ps r₁ r') : Applied t ((entry.name, value) :: ps) r r'

theorem Table.mem_of_find {word : String} {entry : Entry ρ ε} (h : t.find word = some entry) :
    entry ∈ t.entries ∧ entry.name = word :=
  ⟨List.mem_of_find?_eq_some h, by simpa using List.find?_some h⟩

theorem Table.find_isSome_iff (word : String) :
    (t.find word).isSome = true ↔ word ∈ t.entries.map (·.name) := by
  simp [Table.find, List.find?_isSome]

/-- An accepted list has its options applied. -/
theorem Table.loop_applied {words : List String} {r r' : ρ} (h : t.loop words r = .ok r') :
    t.Applied (pairs words) r r' := by
  fun_induction loop t words r with
  | case1 r =>
      cases h
      exact .nil _
  | case2 | case3 => contradiction
  | case4 word r =>
      cases h
      exact .nil _
  | case5 | case6 => contradiction
  | case7 word value words r hword entry hfind r₁ happly ih =>
      obtain ⟨hmem, rfl⟩ := t.mem_of_find hfind
      rw [pairs, if_pos hword]
      exact .cons hmem happly (ih h)
  | case8 word value words r hword =>
      cases h
      rw [pairs, if_neg hword]
      exact .nil _

/-- A field that only the options `names` write has the value `read` makes of
the last of them, or the value it had. -/
theorem Table.loop_last {field : ρ → β} {read : String → β} {names : String → Bool}
    {words : List String} {r r' : ρ} (h : t.loop words r = .ok r')
    (hwrite : ∀ entry ∈ t.entries, names entry.name = true → entry.Writes field read)
    (hkeep : ∀ entry ∈ t.entries, names entry.name = false → entry.Keeps field) :
    field r' = (last names (pairs words)).elim (field r) read := by
  have happlied := loop_applied h
  clear h
  generalize pairs words = ps at happlied
  induction happlied with
  | nil r => rfl
  | @cons entry value ps r r₁ r' hmem happly hrest ih =>
      -- a later option wins; if there is none, this one may have written the field
      rw [ih, last]
      cases hlast : last names ps with
      | some later => rfl
      | none =>
          cases hnames : names entry.name with
          | true => exact hwrite entry hmem hnames value r r₁ happly
          | false => exact hkeep entry hmem hnames value r r₁ happly

/-! ## What the loop leaves out -/

/-- The words from the first one that is no option, or that has no value. -/
def ignored : List String → List String
  | word :: value :: words => if isOption word then ignored words else word :: value :: words
  | words => words

/-- Names and values, written out as words. -/
def unpairs : List (String × String) → List String
  | [] => []
  | (word, value) :: ps => word :: value :: unpairs ps

theorem unpairs_append (ps ps' : List (String × String)) :
    unpairs (ps ++ ps') = unpairs ps ++ unpairs ps' := by
  induction ps with
  | nil => rfl
  | cons p ps ih => simp [unpairs, ih]

theorem pairs_unpairs {ps : List (String × String)} (h : ∀ p ∈ ps, isOption p.1 = true) :
    pairs (unpairs ps) = ps := by
  induction ps with
  | nil => rfl
  | cons p ps ih =>
      obtain ⟨word, value⟩ := p
      rw [List.forall_mem_cons] at h
      rw [unpairs, pairs, if_pos h.1, ih h.2]

/-- No word gets lost between the two. -/
theorem unpairs_pairs (words : List String) : unpairs (pairs words) ++ ignored words = words := by
  fun_induction pairs words with
  | case1 word value words hword ih =>
      rw [ignored, if_pos hword, unpairs, List.cons_append, List.cons_append, ih]
  | case2 word value words hword => rw [ignored, if_neg hword, unpairs, List.nil_append]
  | case3 words hshort =>
      have hignored : ignored words = words := by
        unfold ignored
        split
        next word value words => exact (hshort word value words rfl).elim
        next => rfl
      rw [hignored, unpairs, List.nil_append]

theorem unpairs_pairs_eq_iff (words : List String) :
    unpairs (pairs words) = words ↔ ignored words = [] := by
  have hsplit := unpairs_pairs words
  constructor
  · intro hall
    rw [hall] at hsplit
    exact List.append_right_eq_self.mp hsplit
  · intro hnone
    rwa [hnone, List.append_nil] at hsplit

/-- Whether the option takes a value does not depend on the record. -/
def Entry.Uniform (entry : Entry ρ ε) : Prop :=
  ∀ value r r', (∃ r₁, entry.apply value r = .ok r₁) → ∃ r₁, entry.apply value r' = .ok r₁

/-- There is an option of that name, and it takes the value. -/
def Table.Takes (t : Table ρ ε) (r : ρ) (p : String × String) : Prop :=
  ∃ entry r', t.find p.1 = some entry ∧ entry.apply p.2 r = .ok r'

theorem Table.takes_of_uniform (hu : ∀ entry ∈ t.entries, entry.Uniform) {r r' : ρ}
    {p : String × String} (h : t.Takes r p) : t.Takes r' p := by
  obtain ⟨entry, r₁, hfind, happly⟩ := h
  obtain ⟨r₂, happly'⟩ := hu entry (t.mem_of_find hfind).1 p.2 r r' ⟨r₁, happly⟩
  exact ⟨entry, r₂, hfind, happly'⟩

/-- **What the loop accepts**: the table takes all the options given, and they
are followed by nothing or by a word that is no option. -/
theorem Table.loop_ok_iff (hu : ∀ entry ∈ t.entries, entry.Uniform) (words : List String) (r : ρ) :
    (∃ r', t.loop words r = .ok r') ↔
      (∀ p ∈ pairs words, t.Takes r p) ∧ ∀ word ∈ (ignored words).head?, isOption word = false := by
  fun_induction loop t words r with
  | case1 r => simp [pairs, ignored]
  | case2 word r hword hfind => simp [pairs, ignored, hword]
  | case3 word r hword entry hfind => simp [pairs, ignored, hword]
  | case4 word r hword => simpa [pairs, ignored] using hword
  | case5 word value words r hword hfind => simp [pairs, hword, Takes, hfind]
  | case6 word value words r hword entry hfind e happly =>
      simp [pairs, hword, Takes, hfind, happly]
  | case7 word value words r hword entry hfind r₁ happly ih =>
      have htakes : t.Takes r (word, value) := ⟨entry, r₁, hfind, happly⟩
      have hrest : (∀ p ∈ pairs words, t.Takes r₁ p) ↔ ∀ p ∈ pairs words, t.Takes r p :=
        ⟨fun h p hp => takes_of_uniform hu (h p hp), fun h p hp => takes_of_uniform hu (h p hp)⟩
      rw [ih, hrest, pairs, if_pos hword, ignored, if_pos hword, List.forall_mem_cons]
      simp [htakes]
  | case8 word value words r hword => simp [pairs, ignored, hword]

/-! ## Lists that are understood -/

/-- The words are options of the table, each with a value. -/
def Table.Understands (t : Table ρ ε) (words : List String) : Prop :=
  ignored words = [] ∧ ∀ p ∈ pairs words, (t.find p.1).isSome = true

theorem Table.understands_unpairs_iff (ps : List (String × String)) :
    t.Understands (unpairs ps) ↔ ∀ p ∈ ps, isOption p.1 = true ∧ (t.find p.1).isSome = true := by
  induction ps with
  | nil => simp [Understands, unpairs, pairs, ignored]
  | cons p ps ih =>
      obtain ⟨word, value⟩ := p
      rw [List.forall_mem_cons, ← ih]
      cases hword : isOption word <;> simp [Understands, unpairs, pairs, ignored, hword]
      exact and_left_comm

/-- At most the value of an option is refused then. -/
theorem Table.refused_of_understands {words : List String} {r : ρ} {e : ε}
    (h : t.Understands words) (he : t.loop words r = .error e) :
    ∃ p ∈ pairs words, ∃ entry r', t.find p.1 = some entry ∧ entry.apply p.2 r' = .error e := by
  fun_induction loop t words r with
  | case1 r => contradiction
  | case2 word r | case3 word r | case4 word r => simp [Understands, ignored] at h
  | case5 word value words r hword hfind =>
      have hfound := h.2 (word, value) (by simp [pairs, hword])
      rw [hfind] at hfound
      contradiction
  | case6 word value words r hword entry hfind e' happly =>
      rw [Except.error.injEq] at he
      exact ⟨(word, value), by simp [pairs, hword], entry, r, hfind, he ▸ happly⟩
  | case7 word value words r hword entry hfind r₁ happly ih =>
      have hrest : t.Understands words := by
        rw [Understands, ignored, if_pos hword, pairs, if_pos hword] at h
        exact ⟨h.1, fun p hp => h.2 p (List.mem_cons_of_mem _ hp)⟩
      obtain ⟨p, hp, hrefused⟩ := ih hrest he
      rw [pairs, if_pos hword]
      exact ⟨p, List.mem_cons_of_mem _ hp, hrefused⟩
  | case8 word value words r hword => contradiction

end Settings
