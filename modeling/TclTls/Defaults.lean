import TclTls.ServerName

/-!
# TclTls.Defaults

The defaults of `tls::init` in front of the arguments of `tls::socket`.

Both commands run the same `switch` over their words, `tls::init` with a server
of -1 that no rule is restricted to.  It accepts whatever the loop does not
stumble over, also a list that the loop leaves at a word which is no option.
`tls::socket` then stops at that word as well, and takes the rest for host and
port.  `defaults_harmless_iff` says which defaults go with which arguments.
-/

namespace TclTls

open Settings

/-! ## The three servers -/

section Switch

variable {server word : String} {rule : OptionRule}

/-- A rule is for both sides and takes a value, or it is for clients; and its
option begins with a dash. -/
theorem rules_shape : ∀ rule ∈ socketOptionRules,
    (rule.server = "*" ∧ rule.takesValue = true ∨ rule.server = "0") ∧
      '*' ∉ rule.option.toList ∧ rule.option.toList.head? = some '-' := by
  decide +kernel

theorem toList_separated (server word : String) :
    (server ++ "," ++ word).toList = server.toList ++ ',' :: word.toList := by
  rw [String.toList_append, String.toList_append, List.append_assoc]
  rfl

/-- What the pattern of a rule matches. -/
theorem pattern_matches_iff (hserver : ',' ∉ server.toList) (hrule : rule ∈ socketOptionRules) :
    stringMatch rule.pattern (server ++ "," ++ word) = true ↔
      if rule.server = "*" then
        rule.option.toList = word.toList ∨ ',' :: rule.option.toList <:+ word.toList
      else server = "0" ∧ rule.option = word := by
  obtain ⟨hshape, hplain, -⟩ := rules_shape rule hrule
  have hliteral : '*' ∉ ',' :: rule.option.toList := by simpa using hplain
  rw [stringMatch, OptionRule.pattern, toList_separated, toList_separated]
  split
  next hstar =>
    have hpattern : rule.server.toList = ['*'] := by
      rw [hstar]
      rfl
    rw [hpattern, List.singleton_append, matches_star hliteral, suffix_of_separated hserver]
  next hstar =>
    have hclient : rule.server = "0" := hshape.resolve_left fun h => hstar h.1
    have hpattern : rule.server.toList = ['0'] := by
      rw [hclient]
      rfl
    rw [hpattern, List.singleton_append, matches_literal (by simpa using hplain)]
    constructor
    · intro h
      -- the separator is the first comma
      have hfront : server.toList = ['0'] := by
        cases hchars : server.toList with
        | nil => simp [hchars] at h
        | cons c cs =>
            cases cs with
            | nil =>
                simp only [hchars, List.cons_append, List.cons.injEq] at h
                rw [h.1]
            | cons d cs =>
                simp only [hchars, List.cons_append, List.cons.injEq] at h
                simp [hchars, h.2.1] at hserver
      rw [hfront] at h
      refine ⟨String.toList_inj.mp (hfront.trans rfl), String.toList_inj.mp ?_⟩
      simpa using h.symm
    · rintro ⟨rfl, rfl⟩
      rfl

/-- `*,-*` looks for a dash at the beginning of the word or behind a comma in it. -/
theorem dashed_iff (hserver : ',' ∉ server.toList) :
    stringMatch "*,-*" (server ++ "," ++ word) = true ↔
      ∃ rest, '-' :: rest = word.toList ∨ ',' :: '-' :: rest <:+ word.toList := by
  have hany : ∀ text, anyEnd List.isEmpty text = true := by
    intro text
    rw [anyEnd_iff]
    exact ⟨[], List.nil_suffix, rfl⟩
  have hpattern : "*,-*".toList = ['*', ',', '-', '*'] := by decide
  rw [stringMatch, hpattern, toList_separated, globMatch, if_pos rfl, anyEnd_iff]
  constructor
  · rintro ⟨ending, hsuffix, hmatch⟩
    rcases ending with - | ⟨c, - | ⟨d, rest⟩⟩
    · simp [globMatch, startsWith] at hmatch
    · simp [globMatch, startsWith] at hmatch
    · obtain ⟨rfl, rfl⟩ : ',' = c ∧ '-' = d := by
        simpa [globMatch, startsWith, hany] using hmatch
      exact ⟨rest, (suffix_of_separated hserver).mp hsuffix⟩
  · rintro ⟨rest, hrest⟩
    refine ⟨',' :: '-' :: rest, (suffix_of_separated hserver).mpr hrest, ?_⟩
    simp [globMatch, startsWith, hany]

theorem server_spelling (hserver : server = "0" ∨ server = "1") : ',' ∉ server.toList := by
  rcases hserver with rfl | rfl <;> decide

/-- The pattern of a rule for both sides matches for one server as for another. -/
theorem pattern_matches_both (hserver : server = "0" ∨ server = "1")
    (hrule : rule ∈ socketOptionRules) (hstar : rule.server = "*") :
    stringMatch rule.pattern (server ++ "," ++ word) =
      stringMatch rule.pattern ("-1" ++ "," ++ word) := by
  have hinit : ',' ∉ "-1".toList := by decide
  rw [Bool.eq_iff_iff, pattern_matches_iff (server_spelling hserver) hrule,
    pattern_matches_iff hinit hrule, if_pos hstar, if_pos hstar]

theorem star_of_init (hrule : rule ∈ socketOptionRules)
    (h : stringMatch rule.pattern ("-1" ++ "," ++ word) = true) : rule.server = "*" := by
  rw [pattern_matches_iff (by decide) hrule] at h
  split at h
  next hstar => exact hstar
  next => exact absurd h.1 (by decide)

theorem takesValue_of_init (h : switchRule "-1" word = some rule) : rule.takesValue = true := by
  obtain ⟨hrule, hmatch⟩ := switchRule_eq_some h
  have hstar := star_of_init hrule hmatch
  rcases (rules_shape rule hrule).1 with hboth | hclient
  · exact hboth.2
  · exact absurd (hstar.symm.trans hclient) (by decide)

/-- An option for clients only is none of `tls::init`. -/
theorem switchRule_init_client : ∀ rule ∈ socketOptionRules, rule.server ≠ "*" →
    switchRule "-1" rule.option = none := by
  decide +kernel

/-- An option of `tls::init` is one of `tls::socket`. -/
theorem switchRule_of_init (hserver : server = "0" ∨ server = "1")
    (h : switchRule "-1" word = some rule) : switchRule server word = some rule := by
  have hmem := (switchRule_eq_some h).1
  obtain ⟨hmatch, before, after, hrules, hbefore⟩ := List.find?_eq_some_iff_append.mp h
  have hstar := star_of_init hmem hmatch
  refine List.find?_eq_some_iff_append.mpr ⟨?_, before, after, hrules, fun other hother => ?_⟩
  · rwa [pattern_matches_both hserver hmem hstar]
  · have hrule : other ∈ socketOptionRules := by
      rw [hrules]
      exact List.mem_append_left _ hother
    by_cases hboth : other.server = "*"
    · rw [pattern_matches_both hserver hrule hboth]
      exact hbefore other hother
    · rw [Bool.not_eq_true', ← Bool.not_eq_true]
      intro hclient
      rw [pattern_matches_iff (server_spelling hserver) hrule, if_neg hboth] at hclient
      have hnone := switchRule_init_client other hrule hboth
      rw [hclient.2, h] at hnone
      contradiction

/-- Where `tls::init` stops, `tls::socket` stops too. -/
theorem switchRule_of_stop (hserver : server = "0" ∨ server = "1")
    (h : switchRule "-1" word = none) (hstop : stringMatch "*,-*" ("-1" ++ "," ++ word) = false) :
    switchRule server word = none ∧ stringMatch "*,-*" (server ++ "," ++ word) = false := by
  have hdash : stringMatch "*,-*" ("-1" ++ "," ++ word) = true ↔
      ∃ rest, '-' :: rest = word.toList ∨ ',' :: '-' :: rest <:+ word.toList :=
    dashed_iff (by decide)
  constructor
  · rw [switchRule, List.find?_eq_none] at h ⊢
    intro rule hrule hmatch
    by_cases hstar : rule.server = "*"
    · rw [pattern_matches_both hserver hrule hstar] at hmatch
      exact h rule hrule hmatch
    · rw [pattern_matches_iff (server_spelling hserver) hrule, if_neg hstar] at hmatch
      obtain ⟨rest, hrest⟩ := List.head?_eq_some_iff.mp (rules_shape rule hrule).2.2
      rw [hmatch.2] at hrest
      rw [hdash.mpr ⟨rest, .inl hrest.symm⟩] at hstop
      contradiction
  · rw [← Bool.not_eq_true, dashed_iff (server_spelling hserver), ← hdash, hstop]
    exact Bool.false_ne_true

end Switch

/-! ## Two lists in one -/

/-- The loop of `tls::init` gets to the end of the words: they are options, each
with its value. -/
def readThrough : List String → Bool
  | [] => true
  | [_] => false
  | arg :: _ :: args => (switchRule "-1" arg).isSome && readThrough args

section Loop

variable {server options : String} {words args : List String}

/-- The option that a list read through begins with, for `tls::init` and for
`tls::socket`. -/
theorem exists_rule_of_readThrough (hserver : server = "0" ∨ server = "1")
    {arg : String} (h : ((switchRule "-1" arg).isSome && readThrough words) = true) :
    ∃ rule, switchRule "-1" arg = some rule ∧ switchRule server arg = some rule ∧
      rule.takesValue = true ∧ readThrough words = true := by
  rw [Bool.and_eq_true, Option.isSome_iff_exists] at h
  obtain ⟨⟨rule, hrule⟩, hwords⟩ := h
  exact ⟨rule, hrule, switchRule_of_init hserver hrule, takesValue_of_init hrule, hwords⟩

/-- What the loop leaves does not depend on what it has collected. -/
theorem optionLoop_rest (st st' : SocketArgs) :
    (optionLoop server options words st).map Prod.snd =
      (optionLoop server options words st').map Prod.snd := by
  have hnoRule : ∀ arg rest (st st' : SocketArgs),
      (noRule server options arg st rest).map Prod.snd =
        (noRule server options arg st' rest).map Prod.snd := by
    intro arg rest st st'
    unfold noRule
    split <;> rfl
  fun_induction optionLoop server options words st generalizing st' with
  | case1 st => rfl
  | case2 arg st rule hrule hvalue => simp [optionLoop, hrule, hvalue, Except.map]
  | case3 arg st rule hrule hvalue => simp [optionLoop, hrule, hvalue, Except.map]
  | case4 arg st hrule =>
      simp only [optionLoop, hrule]
      exact hnoRule arg [] st st'
  | case5 arg argValue args st rule hrule hvalue ih =>
      simp only [optionLoop, hrule, hvalue, if_true]
      exact ih _
  | case6 arg argValue args st rule hrule hvalue ih =>
      simp only [optionLoop, hrule, hvalue]
      exact ih _
  | case7 arg argValue args st hrule =>
      simp only [optionLoop, hrule]
      exact hnoRule arg (argValue :: args) st st'

theorem length_rest_le {rest : List String} {st : SocketArgs}
    (h : (optionLoop server options words st).map Prod.snd = .ok rest) :
    rest.length ≤ words.length := by
  cases hloop : optionLoop server options words st with
  | error e => simp [hloop, Except.map] at h
  | ok r =>
      obtain ⟨st', rest'⟩ := r
      simp only [hloop, Except.map, Except.ok.injEq] at h
      obtain ⟨front, hfront⟩ := suffix_of_optionLoop hloop
      rw [hfront, ← h, List.length_append]
      omega

/-- After defaults that are read through the loop goes on with the arguments. -/
theorem optionLoop_of_readThrough (hserver : server = "0" ∨ server = "1")
    (h : readThrough words = true) (st : SocketArgs) :
    (optionLoop server options (words ++ args) st).map Prod.snd =
      (optionLoop server options args {}).map Prod.snd := by
  fun_induction readThrough words generalizing st with
  | case1 => exact optionLoop_rest st {}
  | case2 arg => contradiction
  | case3 arg argValue rest ih =>
      obtain ⟨rule, -, hrule, hvalue, hrest⟩ := exists_rule_of_readThrough hserver h
      simp only [List.cons_append, optionLoop, hrule, hvalue, if_true]
      exact ih hrest _

theorem importPairs_append (hserver : server = "0" ∨ server = "1") (h : readThrough words = true) :
    importPairs server (words ++ args) = importPairs "-1" words ++ importPairs server args := by
  fun_induction readThrough words with
  | case1 => rfl
  | case2 arg => contradiction
  | case3 arg argValue rest ih =>
      obtain ⟨rule, hinit, hrule, hvalue, hrest⟩ := exists_rule_of_readThrough hserver h
      simp only [List.cons_append, importPairs_option hinit hvalue, importPairs_option hrule hvalue]
      rw [ih hrest, List.append_assoc]

theorem optionPairs_append (hserver : server = "0" ∨ server = "1") (h : readThrough words = true) :
    optionPairs server (words ++ args) = optionPairs "-1" words ++ optionPairs server args := by
  fun_induction readThrough words with
  | case1 => rfl
  | case2 arg => contradiction
  | case3 arg argValue rest ih =>
      obtain ⟨rule, hinit, hrule, hvalue, hrest⟩ := exists_rule_of_readThrough hserver h
      simp only [List.cons_append, optionPairs_option hinit hvalue, optionPairs_option hrule hvalue]
      rw [ih hrest]

/-- Where `tls::init` has left the loop, `tls::socket` leaves it as well, with all
arguments still to come. -/
theorem optionLoop_of_stop (hserver : server = "0" ∨ server = "1") (args : List String)
    {opts : String} {st : SocketArgs} {r : SocketArgs × List String}
    (hinit : optionLoop "-1" opts words st = .ok r) (h : readThrough words = false)
    (options : String) (st' : SocketArgs) :
    ∃ word rest, (optionLoop server options (words ++ args) st').map Prod.snd =
      .ok (word :: rest ++ args) := by
  obtain ⟨st₁, left⟩ := r
  have htaken : Taken "-1" words st st₁ left := taken_of_optionLoop hinit
  clear hinit
  induction htaken generalizing st' with
  | nil st => contradiction
  | @stop arg rest st hrule hdash =>
      obtain ⟨hrule', hdash'⟩ := switchRule_of_stop hserver hrule hdash
      refine ⟨arg, rest, ?_⟩
      rw [List.cons_append]
      cases rest ++ args <;> simp [optionLoop, noRule, hrule', hdash', Except.map]
  | option hrule hvalue hrest ih =>
      have hrule' := switchRule_of_init hserver hrule
      rw [readThrough, hrule, Option.isSome_some, Bool.true_and] at h
      simp only [List.cons_append, optionLoop, hrule', hvalue, if_true]
      exact ih h _
  | flag hrule hvalue hrest ih => exact absurd (takesValue_of_init hrule) hvalue

end Loop

/-! ## Acceptance -/

section Accepted

variable {lib : TclLibrary} {defaults args : List String}

/-- Truth value of the last `-autoservername`. -/
def AutoBoolean (lib : TclLibrary) (given : List (String × String)) : Prop :=
  ∀ auto, last (· == "-autoservername") given = some auto → (lib.getBoolean auto).isSome

theorem tlsSocket_server_iff (hserver : "-server" ∈ args) :
    (∃ plan, tlsSocket lib defaults args = .ok plan) ↔
      ∃ port, (optionLoop "1" (socketOptions "1") (defaults ++ withoutServer args) {}).map
        Prod.snd = .ok [port] := by
  rw [optionLoop_rest {} { iopts := ["-server", "1"] }]
  simp only [tlsSocket, if_pos hserver]
  cases hloop : optionLoop "1" (socketOptions "1") (defaults ++ withoutServer args)
      { iopts := ["-server", "1"] } with
  | error e => simp [Except.map]
  | ok r =>
      obtain ⟨st, rest⟩ := r
      rcases rest with - | ⟨port, - | ⟨word, rest⟩⟩ <;> simp [Except.map]

theorem autoServername_isOk (st : SocketArgs) (host : String) :
    (∃ servername, autoServername lib st host = .ok servername) ↔
      ∀ auto, st.argsArray.lookup "-autoservername" = some auto → (lib.getBoolean auto).isSome := by
  unfold autoServername
  cases hauto : st.argsArray.lookup "-autoservername" with
  | none => cases st.argsArray.lookup "-servername" <;> simp
  | some auto =>
      cases hbool : lib.getBoolean auto with
      | none => simp [hbool]
      | some on => cases on <;> simp [hbool]

theorem tlsSocket_client_iff (hclient : "-server" ∉ args) :
    (∃ plan, tlsSocket lib defaults args = .ok plan) ↔
      (∃ host port, (optionLoop "0" (socketOptions "0") (defaults ++ args) {}).map Prod.snd =
        .ok [host, port]) ∧ AutoBoolean lib (optionPairs "0" (defaults ++ args)) := by
  rw [optionLoop_rest {} { iopts := ["-server", "0"] }]
  simp only [tlsSocket, if_neg hclient]
  cases hloop : optionLoop "0" (socketOptions "0") (defaults ++ args)
      { iopts := ["-server", "0"] } with
  | error e => simp [Except.map]
  | ok r =>
      obtain ⟨st, rest⟩ := r
      rcases rest with - | ⟨host, - | ⟨port, - | ⟨word, rest⟩⟩⟩
      · simp [Except.map]
      · simp [Except.map]
      · have hauto : (∃ servername, autoServername lib st host = .ok servername) ↔ _ :=
          autoServername_isOk st host
        rw [argsArray_of_optionLoop hloop, List.append_nil] at hauto
        simp only [lookup_reverse] at hauto
        rw [AutoBoolean, ← hauto]
        cases hname : autoServername lib st host <;> simp [Except.map, hname]
      · simp [Except.map]

end Accepted

/-! ## Whose option it is -/

/-- Who gave an option: `tls::socket` itself, the defaults, or the arguments. -/
inductive Origin where
  | socket
  | defaults
  | arguments
deriving DecidableEq, Repr

/-- The arguments that the loop goes through. -/
def loopArgs (args : List String) : List String :=
  if "-server" ∈ args then withoutServer args else args

/-- The options for `tls::import` in the order in which they are passed on, but for
a servername that is appended.  A server has asked for `-server` itself. -/
def passedPairs (defaults args : List String) : List (Origin × String × String) :=
  (if "-server" ∈ args then .arguments else .socket, "-server", socketServer args) ::
    ((importPairs "-1" defaults).map (Origin.defaults, ·) ++
      (importPairs (socketServer args) (loopArgs args)).map (Origin.arguments, ·))

/-- The last one of these options is one of the arguments. -/
def LastGiven (name : String) (passed : List (Origin × String × String)) : Prop :=
  ∃ before value after, passed = before ++ (.arguments, name, value) :: after ∧
    ∀ p ∈ after, p.2.1 ≠ name

/-- With the defaults `tls::socket` accepts the arguments, and their options prevail. -/
def Harmless (lib : TclLibrary) (defaults args : List String) : Prop :=
  ∃ plan servername, tlsSocket lib defaults args = .ok plan ∧
    plan.iopts = unpairs ((passedPairs defaults args).map Prod.snd ++ servername) ∧
    ∀ p ∈ passedPairs defaults args, p.1 = .arguments →
      LastGiven p.2.1 (passedPairs defaults args ++ servername.map (Origin.socket, ·))

/-- The defaults are options with their values.  For a client that does not say
itself whether to use its host name, what they say is a boolean; and for a server
they leave `-server` alone, unless it gives the option once more. -/
structure Compatible (lib : TclLibrary) (defaults args : List String) : Prop where
  options : readThrough defaults = true
  autoservername : "-server" ∉ args →
    (∀ p ∈ optionPairs "0" args, p.1 ≠ "-autoservername") →
      AutoBoolean lib (optionPairs "-1" defaults)
  server : "-server" ∈ args →
    (∀ p ∈ importPairs "1" (withoutServer args), p.1 ≠ "-server") →
      ∀ p ∈ importPairs "-1" defaults, p.1 ≠ "-server"

section Harmless

variable {lib : TclLibrary} {defaults args : List String} {plan₀ : SocketPlan}

theorem defaults_of_init {initArgs : List String} (h : tlsInit initArgs = .ok defaults) :
    initArgs = defaults ∧ ∃ r, optionLoop "-1" (socketOptions "1") defaults {} = .ok r := by
  unfold tlsInit at h
  split at h
  next => contradiction
  next r hloop =>
    obtain rfl := Except.ok.inj h
    exact ⟨rfl, r, hloop⟩

theorem socketServer_eq (args : List String) :
    socketServer args = "0" ∨ socketServer args = "1" := by
  unfold socketServer
  split
  · exact .inr rfl
  · exact .inl rfl

/-- Defaults that stop the loop leave more words than the arguments do alone. -/
theorem readThrough_of_rest {server options : String} {words rest rest' : List String}
    (hserver : server = "0" ∨ server = "1") (hinit : tlsInit defaults = .ok defaults)
    (halone : (optionLoop server options words {}).map Prod.snd = .ok rest)
    (h : (optionLoop server options (defaults ++ words) {}).map Prod.snd = .ok rest')
    (hlength : rest.length = rest'.length) : readThrough defaults = true := by
  obtain ⟨-, r, hloop⟩ := defaults_of_init hinit
  by_contra hstop
  rw [Bool.not_eq_true] at hstop
  obtain ⟨word, left, hleft⟩ := optionLoop_of_stop hserver words hloop hstop options {}
  have hmore := length_rest_le halone
  have hword := congrArg List.length (Except.ok.inj (hleft.symm.trans h))
  rw [List.cons_append, List.length_cons, List.length_append] at hword
  omega

/-- There is a host and a port or none, so the defaults leave nothing. -/
theorem readThrough_of_accepted (hinit : tlsInit defaults = .ok defaults)
    (halone : ∃ plan, tlsSocket lib [] args = .ok plan)
    (h : ∃ plan, tlsSocket lib defaults args = .ok plan) : readThrough defaults = true := by
  by_cases hserver : "-server" ∈ args
  · rw [tlsSocket_server_iff hserver] at h halone
    obtain ⟨port, hport⟩ := h
    obtain ⟨port', hport'⟩ := halone
    exact readThrough_of_rest (.inr rfl) hinit hport' hport rfl
  · rw [tlsSocket_client_iff hserver] at h halone
    obtain ⟨⟨host, port, hport⟩, -⟩ := h
    obtain ⟨⟨host', port', hport'⟩, -⟩ := halone
    exact readThrough_of_rest (.inl rfl) hinit hport' hport rfl

/-- The last `-autoservername` is the arguments' if they have one. -/
theorem autoBoolean_append_iff {ps qs : List (String × String)} (halone : AutoBoolean lib qs) :
    AutoBoolean lib (ps ++ qs) ↔
      ((∀ q ∈ qs, q.1 ≠ "-autoservername") → AutoBoolean lib ps) := by
  unfold AutoBoolean at *
  simp only [last_append]
  cases hlast : last (· == "-autoservername") qs with
  | none =>
      have hno : ∀ q ∈ qs, q.1 ≠ "-autoservername" := fun q hq =>
        ne_of_beq_false ((last_eq_none_iff _ _).mp hlast q hq)
      simp only [Option.none_or]
      exact ⟨fun h _ => h, fun h => h hno⟩
  | some auto =>
      have hgiven : ¬ ∀ q ∈ qs, q.1 ≠ "-autoservername" := by
        intro hno
        have hnone := (last_eq_none_iff (· == "-autoservername") qs).mpr fun q hq =>
          beq_false_of_ne (hno q hq)
        rw [hlast] at hnone
        contradiction
      simp only [Option.some_or, Option.some.injEq, forall_eq']
      exact iff_of_true (halone auto hlast) fun hno => absurd hno hgiven

/-- **Acceptance** of arguments that are accepted without defaults. -/
theorem accepted_iff (hinit : tlsInit defaults = .ok defaults)
    (halone : ∃ plan, tlsSocket lib [] args = .ok plan) :
    (∃ plan, tlsSocket lib defaults args = .ok plan) ↔
      readThrough defaults = true ∧ ("-server" ∉ args →
        (∀ p ∈ optionPairs "0" args, p.1 ≠ "-autoservername") →
          AutoBoolean lib (optionPairs "-1" defaults)) := by
  have hread : (∃ plan, tlsSocket lib defaults args = .ok plan) → readThrough defaults = true :=
    readThrough_of_accepted hinit halone
  by_cases hserver : "-server" ∈ args
  · simp only [hserver, not_true_eq_false, false_imp_iff, and_true]
    refine ⟨hread, fun hthrough => ?_⟩
    rw [tlsSocket_server_iff hserver] at halone ⊢
    rwa [optionLoop_of_readThrough (.inr rfl) hthrough]
  · constructor
    · intro h
      have hthrough := hread h
      rw [tlsSocket_client_iff hserver] at halone h
      rw [optionPairs_append (.inl rfl) hthrough] at h
      exact ⟨hthrough, fun _ => (autoBoolean_append_iff halone.2).mp h.2⟩
    · rintro ⟨hthrough, hauto⟩
      rw [tlsSocket_client_iff hserver] at halone ⊢
      rw [optionLoop_of_readThrough (.inl rfl) hthrough, optionPairs_append (.inl rfl) hthrough]
      exact ⟨halone.1, (autoBoolean_append_iff halone.2).mpr (hauto hserver)⟩

/-- A server that is accepted: the loop leaves the port. -/
theorem tlsSocket_server {plan : SocketPlan} (h : tlsSocket lib defaults args = .ok plan)
    (hserver : "-server" ∈ args) :
    ∃ st port, optionLoop "1" (socketOptions "1") (defaults ++ withoutServer args)
      { iopts := ["-server", "1"] } = .ok (st, [port]) ∧ plan.iopts = st.iopts := by
  rw [tlsSocket, if_pos hserver] at h
  split at h
  next => contradiction
  next st port hloop =>
    obtain rfl := Except.ok.inj h
    exact ⟨st, port, hloop, rfl⟩
  next => contradiction

/-- What is passed on; a servername is appended where the arguments have none. -/
theorem iopts_passed {plan : SocketPlan} (h : tlsSocket lib defaults args = .ok plan)
    (hthrough : readThrough defaults = true) :
    ∃ servername : List (String × String), (∀ p ∈ servername, p.1 = "-servername") ∧
      plan.iopts = unpairs ((passedPairs defaults args).map Prod.snd ++ servername) ∧
      (servername ≠ [] →
        ∀ p ∈ importPairs (socketServer args) (loopArgs args), p.1 ≠ "-servername") := by
  have hpassed : (passedPairs defaults args).map Prod.snd =
      ("-server", socketServer args) :: (importPairs "-1" defaults ++
        importPairs (socketServer args) (loopArgs args)) := by
    simp [passedPairs, Function.comp_def]
  rw [hpassed, ← importPairs_append (socketServer_eq args) hthrough]
  by_cases hserver : "-server" ∈ args
  · obtain ⟨st, port, hloop, hiopts⟩ := tlsSocket_server h hserver
    refine ⟨[], by simp, ?_, fun hne => absurd rfl hne⟩
    rw [hiopts, optionLoop_iopts hloop, socketServer, if_pos hserver, loopArgs, if_pos hserver]
    simp [unpairs]
  · obtain ⟨st, host, port, servername, hloop, hauto, rfl⟩ := tlsSocket_client h hserver
    obtain ⟨ps, hps, rfl, hlast⟩ := last_autoServername hauto
    rw [socketServer, if_neg hserver, loopArgs, if_neg hserver]
    refine ⟨ps, hps, ?_, fun hne => ?_⟩
    · rw [optionLoop_iopts hloop]
      simp [unpairs, unpairs_append]
    · -- nothing is appended to a list that has a servername
      rw [argsArray_of_optionLoop hloop, List.append_nil, lookup_reverse,
        ← last_servername] at hlast
      have hnone : last (· == "-servername") (importPairs "0" (defaults ++ args)) = none := by
        cases hgiven : last (· == "-servername") (importPairs "0" (defaults ++ args)) with
        | none => rfl
        | some given =>
            rw [hgiven] at hlast
            obtain ⟨p, hp⟩ := List.exists_mem_of_ne_nil ps hne
            have hother := (last_eq_none_iff _ _).mp hlast p hp
            rw [hps p hp] at hother
            contradiction
      rw [importPairs_append (.inl rfl) hthrough, last_append, Option.or_eq_none_iff] at hnone
      intro p hp
      exact ne_of_beq_false ((last_eq_none_iff _ _).mp hnone.1 p hp)

/-- An option that the arguments have is theirs, if none of its name comes behind them. -/
theorem lastGiven_of_mem {name : String} {front back : List (Origin × String × String)}
    {ps : List (String × String)} (h : ∃ p ∈ ps, p.1 = name) (hback : ∀ p ∈ back, p.2.1 ≠ name) :
    LastGiven name (front ++ ps.map (Origin.arguments, ·) ++ back) := by
  have hsome : last (· == name) ps ≠ none := by
    intro hnone
    obtain ⟨p, hp, hname⟩ := h
    exact ne_of_beq_false ((last_eq_none_iff _ _).mp hnone p hp) hname
  obtain ⟨value, hvalue⟩ := Option.ne_none_iff_exists'.mp hsome
  obtain ⟨before, word, after, rfl, hword, hafter⟩ := (last_eq_some_iff _ _ _).mp hvalue
  obtain rfl := eq_of_beq hword
  refine ⟨front ++ before.map (Origin.arguments, ·), value,
    after.map (Origin.arguments, ·) ++ back, by simp, fun p hp => ?_⟩
  rcases List.mem_append.mp hp with hp | hp
  · obtain ⟨q, hq, rfl⟩ := List.mem_map.mp hp
    exact ne_of_beq_false (hafter q hq)
  · exact hback p hp

/-- Compatible defaults leave the last word to the arguments. -/
theorem lastGiven_of_compatible (h : Compatible lib defaults args)
    {servername : List (String × String)} (hname : ∀ p ∈ servername, p.1 = "-servername")
    (hnone : servername ≠ [] →
      ∀ p ∈ importPairs (socketServer args) (loopArgs args), p.1 ≠ "-servername") :
    ∀ p ∈ passedPairs defaults args, p.1 = .arguments →
      LastGiven p.2.1 (passedPairs defaults args ++ servername.map (Origin.socket, ·)) := by
  intro p hp horigin
  by_cases hgiven : ∃ q ∈ importPairs (socketServer args) (loopArgs args), q.1 = p.2.1
  · rw [passedPairs, ← List.cons_append]
    refine lastGiven_of_mem hgiven fun q hq => ?_
    obtain ⟨r, hr, rfl⟩ := List.mem_map.mp hq
    obtain ⟨q, hq, hqname⟩ := hgiven
    rw [hname r hr, ← hqname]
    exact (hnone (List.ne_nil_of_mem hr) q hq).symm
  · -- the `-server` of a server that is not repeated
    push Not at hgiven
    rw [passedPairs, List.mem_cons, List.mem_append] at hp
    rcases hp with rfl | hp | hp
    · have hserver : "-server" ∈ args := by
        by_contra hclient
        rw [if_neg hclient] at horigin
        contradiction
      have hdefaults := h.server hserver (by
        rw [socketServer, if_pos hserver, loopArgs, if_pos hserver] at hgiven
        exact hgiven)
      refine ⟨[], socketServer args, (importPairs "-1" defaults).map (Origin.defaults, ·) ++
        (importPairs (socketServer args) (loopArgs args)).map (Origin.arguments, ·) ++
        servername.map (Origin.socket, ·), ?_, fun q hq => ?_⟩
      · rw [passedPairs, if_pos hserver]
        rfl
      simp only [List.mem_append, List.mem_map] at hq
      rcases hq with (⟨r, hr, rfl⟩ | ⟨r, hr, rfl⟩) | ⟨r, hr, rfl⟩
      · exact hdefaults r hr
      · exact hgiven r hr
      · have hother : "-servername" ≠ "-server" := by decide
        rw [hname r hr]
        exact hother
    · obtain ⟨q, hq, rfl⟩ := List.mem_map.mp hp
      contradiction
    · obtain ⟨q, hq, rfl⟩ := List.mem_map.mp hp
      exact absurd rfl (hgiven q hq)

/-- A server that has the last word on `-server`, but says it only once, has it
from defaults that do not say it. -/
theorem server_of_lastGiven (hserver : "-server" ∈ args)
    (honce : ∀ p ∈ importPairs "1" (withoutServer args), p.1 ≠ "-server")
    {servername : List (String × String)}
    (h : LastGiven "-server" (passedPairs defaults args ++ servername.map (Origin.socket, ·))) :
    ∀ p ∈ importPairs "-1" defaults, p.1 ≠ "-server" := by
  intro p hp
  obtain ⟨before, value, after, hsplit, hafter⟩ := h
  rw [passedPairs, if_pos hserver, socketServer, if_pos hserver, loopArgs, if_pos hserver] at hsplit
  cases before with
  | nil =>
      rw [List.nil_append, List.cons_append, List.cons.injEq] at hsplit
      rw [← hsplit.2] at hafter
      refine hafter (Origin.defaults, p) ?_
      exact List.mem_append_left _ (List.mem_append_left _ (List.mem_map_of_mem hp))
  | cons q before =>
      rw [List.cons_append, List.cons_append, List.cons.injEq] at hsplit
      have hmem : (Origin.arguments, "-server", value) ∈
          before ++ (Origin.arguments, "-server", value) :: after := by simp
      rw [← hsplit.2] at hmem
      simp only [List.mem_append, List.mem_map, Prod.mk.injEq, reduceCtorEq, false_and, and_false,
        exists_false, false_or, or_false, true_and, exists_eq_right] at hmem
      exact absurd rfl (honce _ hmem)

/-- **Defaults do no harm** to arguments that are accepted without them, if and
only if they are compatible with them. -/
theorem defaults_harmless_iff (lib : TclLibrary) (initArgs defaults args : List String)
    (plan₀ : SocketPlan) (hinit : tlsInit initArgs = .ok defaults)
    (halone : tlsSocket lib [] args = .ok plan₀) :
    Harmless lib defaults args ↔ Compatible lib defaults args := by
  obtain ⟨rfl, -⟩ := defaults_of_init hinit
  have haccepted := accepted_iff hinit ⟨plan₀, halone⟩
  constructor
  · rintro ⟨plan, servername, hsocket, -, hlast⟩
    obtain ⟨hthrough, hauto⟩ := haccepted.mp ⟨plan, hsocket⟩
    refine ⟨hthrough, hauto, fun hserver honce => ?_⟩
    have hhead : (Origin.arguments, "-server", socketServer args) ∈ passedPairs initArgs args := by
      rw [passedPairs, if_pos hserver]
      exact List.mem_cons_self
    exact server_of_lastGiven hserver honce (hlast _ hhead rfl)
  · intro h
    obtain ⟨plan, hsocket⟩ := haccepted.mpr ⟨h.options, h.autoservername⟩
    obtain ⟨servername, hname, hiopts, hnone⟩ := iopts_passed hsocket h.options
    exact ⟨plan, servername, hsocket, hiopts, lastGiven_of_compatible h hname hnone⟩

/-- Defaults that a client overrides. -/
theorem defaults_harmless_require :
    Harmless .plain ["-require", "1", "-cafile", "all.pem"]
      ["-cafile", "ca.pem", "localhost", "443"] := by
  have hauto : AutoBoolean .plain
      (optionPairs "-1" ["-require", "1", "-cafile", "all.pem"]) := by
    intro auto hlast
    have hnone : last (· == "-autoservername")
        (optionPairs "-1" ["-require", "1", "-cafile", "all.pem"]) = none := by decide +kernel
    rw [hnone] at hlast
    contradiction
  exact (defaults_harmless_iff .plain ["-require", "1", "-cafile", "all.pem"]
    ["-require", "1", "-cafile", "all.pem"] ["-cafile", "ca.pem", "localhost", "443"]
    ⟨["localhost", "443"],
      ["-server", "0", "-cafile", "ca.pem", "-servername", "localhost"], none⟩
    (eq_ok_of_toOption (by decide +kernel)) (eq_ok_of_toOption (by decide +kernel))).mpr
    ⟨by decide +kernel, fun _ _ => hauto, fun hserver => absurd hserver (by decide)⟩

/-- `tls::init` accepts a word that is no option, and no socket can be made then. -/
theorem defaults_harmful :
    tlsInit ["foo"] = .ok ["foo"] ∧
      (∃ plan, tlsSocket .plain [] ["localhost", "443"] = .ok plan) ∧
      ¬ Harmless .plain ["foo"] ["localhost", "443"] := by
  have halone : tlsSocket .plain [] ["localhost", "443"] =
      .ok ⟨["localhost", "443"], ["-server", "0", "-servername", "localhost"], none⟩ :=
    eq_ok_of_toOption (by decide +kernel)
  have hnone : (tlsSocket .plain ["foo"] ["localhost", "443"]).toOption = none := by
    decide +kernel
  refine ⟨eq_ok_of_toOption (by decide +kernel), ⟨_, halone⟩, ?_⟩
  rintro ⟨plan, servername, hsocket, -⟩
  rw [hsocket] at hnone
  exact Option.some_ne_none plan hnone

end Harmless

end TclTls
