import TclTls.SocketOptions

/-!
# TclTls.ServerName

The `-servername` that `tls::socket` passes on for a client.

The loop keeps two records of what it is given: the words for `tls::import`, and the
array that the tests behind the loop look at.  The array has the last value of every
option (`argsArray_of_optionLoop`), and a servername that is appended behind the loop
is the last one of the list (`servername_passed`).
-/

namespace TclTls

open Settings

/-! ## What is given -/

/-- The words that the switch takes as options, with their values, and `true` for those
that take none. -/
def optionPairs (server : String) : List String → List (String × String)
  | [] => []
  | [arg] =>
      match switchRule server arg with
      | some rule => if rule.takesValue then [] else [(arg, "true")]
      | none => []
  | arg :: argValue :: args =>
      match switchRule server arg with
      | some rule =>
          if rule.takesValue then (arg, argValue) :: optionPairs server args
          else (arg, "true") :: optionPairs server (argValue :: args)
      | none => []

/-- All words that the switch takes as options are spelt as in the table. -/
def LiteralWords (server : String) (words : List String) : Prop :=
  ∀ p ∈ optionPairs server words, p.1 ∈ socketOptionRules.map (·.option)

/-- The servername that goes with the options given: the last one of the caller's, and
else the host, unless that is turned off. -/
def expectedServername (lib : TclLibrary) (given : List (String × String)) (host : String) :
    Option String :=
  match last (· == "-servername") given with
  | some servername => some servername
  | none =>
      match last (· == "-autoservername") given with
      | some auto => if lib.getBoolean auto = some false then none else some host
      | none => some host

section Loop

variable {lib : TclLibrary} {server options : String} {words rest : List String}
  {st st' : SocketArgs}

theorem argsArray_lappend (st : SocketArgs) (words : List String) (var : RuleVar) :
    (st.lappend words var).argsArray = st.argsArray := by
  cases var <;> rfl

theorem optionPairs_option {arg argValue : String} {args : List String} {rule : OptionRule}
    (hrule : switchRule server arg = some rule) (hvalue : rule.takesValue = true) :
    optionPairs server (arg :: argValue :: args) = (arg, argValue) :: optionPairs server args := by
  rw [optionPairs, hrule]
  simp [hvalue]

theorem optionPairs_flag {arg : String} {args : List String} {rule : OptionRule}
    (hrule : switchRule server arg = some rule) (hvalue : ¬ rule.takesValue = true) :
    optionPairs server (arg :: args) = (arg, "true") :: optionPairs server args := by
  cases args <;> simp [optionPairs, hrule, hvalue]

theorem optionPairs_stop {arg : String} {args : List String}
    (hrule : switchRule server arg = none) : optionPairs server (arg :: args) = [] := by
  cases args <;> simp [optionPairs, hrule]

/-- The loop sets the array for one option after another. -/
theorem argsArray_of_optionLoop (h : optionLoop server options words st = .ok (st', rest)) :
    st'.argsArray = (optionPairs server words).reverse ++ st.argsArray := by
  have htaken : Taken server words st st' rest := taken_of_optionLoop h
  clear h
  induction htaken with
  | nil st => simp [optionPairs]
  | stop st hrule hdash => simp [optionPairs_stop hrule]
  | option hrule hvalue hrest ih =>
      rw [ih, optionPairs_option hrule hvalue]
      simp [SocketArgs.option, SocketArgs.set, argsArray_lappend]
  | flag hrule hvalue hrest ih =>
      rw [ih, optionPairs_flag hrule hvalue]
      simp [SocketArgs.flag, SocketArgs.set, argsArray_lappend]

/-- What the loop leaves is the end of what it was given. -/
theorem suffix_of_optionLoop (h : optionLoop server options words st = .ok (st', rest)) :
    ∃ front, words = front ++ rest := by
  have htaken : Taken server words st st' rest := taken_of_optionLoop h
  clear h
  induction htaken with
  | nil st => exact ⟨[], rfl⟩
  | stop st hrule hdash => exact ⟨[], rfl⟩
  | @option arg argValue _ _ _ _ _ hrule hvalue hrest ih =>
      obtain ⟨front, rfl⟩ := ih
      exact ⟨arg :: argValue :: front, rfl⟩
  | @flag arg _ _ _ _ _ hrule hvalue hrest ih =>
      obtain ⟨front, rfl⟩ := ih
      exact ⟨arg :: front, rfl⟩

/-- The rule of `-servername` is the one of that name. -/
theorem switchRule_servername {rule : OptionRule}
    (h : switchRule "0" "-servername" = some rule) : rule.var = .iopts := by
  have hrule : switchRule "0" "-servername" = some ⟨"*", "-servername", .iopts, true⟩ := by
    decide +kernel
  rw [hrule, Option.some.injEq] at h
  rw [← h]

/-- A servername that is given is one that is passed on. -/
theorem last_servername (words : List String) :
    last (· == "-servername") (importPairs "0" words) =
      last (· == "-servername") (optionPairs "0" words) := by
  have hflag : ∀ {arg : String} {rule : OptionRule}, switchRule "0" arg = some rule →
      ¬ rule.takesValue = true → (arg == "-servername") = false := by
    intro arg rule hrule hvalue
    rw [beq_eq_false_iff_ne]
    rintro rfl
    exact hvalue (rules_iopts rule (switchRule_eq_some hrule).1 (switchRule_servername hrule)).1
  fun_induction optionPairs "0" words with
  | case1 => rfl
  | case2 arg rule hrule hvalue => rfl
  | case3 arg rule hrule hvalue => simp [importPairs, last, hflag hrule hvalue]
  | case4 arg hrule => rfl
  | case5 arg argValue args rule hrule hvalue ih =>
      rw [importPairs_option hrule hvalue, last_append, ih, last]
      split
      next hvar => simp [last]
      next hvar =>
        have hname : (arg == "-servername") = false := by
          rw [beq_eq_false_iff_ne]
          rintro rfl
          exact hvar (switchRule_servername hrule)
        simp [last, hname]
  | case6 arg argValue args rule hrule hvalue ih =>
      simp [importPairs_flag hrule hvalue, ih, last, hflag hrule hvalue]
  | case7 arg argValue args hrule => rw [importPairs_stop hrule]

/-- What is passed on is among what is given. -/
theorem importPairs_subset (words : List String) :
    ∀ p ∈ importPairs server words, p ∈ optionPairs server words := by
  fun_induction importPairs server words with
  | case1 arg argValue args rule hrule hvalue ih =>
      intro p hp
      rw [optionPairs_option hrule hvalue]
      rw [List.mem_append] at hp
      rcases hp with hp | hp
      · split at hp
        next => exact List.mem_cons.mpr (.inl (List.mem_singleton.mp hp))
        next => contradiction
      · exact List.mem_cons_of_mem _ (ih p hp)
  | case2 arg argValue args rule hrule hvalue ih =>
      intro p hp
      rw [optionPairs_flag hrule hvalue]
      exact List.mem_cons_of_mem _ (ih p hp)
  | case3 arg argValue args hrule => simp
  | case4 words hshort => simp

/-- The servername that is appended behind the loop, by what is in the array. -/
theorem last_autoServername {host : String} {servername : List String}
    (h : autoServername lib st host = .ok servername) :
    ∃ ps : List (String × String), (∀ p ∈ ps, p.1 = "-servername") ∧ servername = unpairs ps ∧
      last (· == "-servername") ps =
        match st.argsArray.lookup "-servername" with
        | some _ => none
        | none =>
            match st.argsArray.lookup "-autoservername" with
            | some auto => if lib.getBoolean auto = some false then none else some host
            | none => some host := by
  unfold autoServername at h
  cases hauto : st.argsArray.lookup "-autoservername" with
  | none =>
      cases hname : st.argsArray.lookup "-servername" with
      | none =>
          simp only [hauto, hname, Except.ok.injEq] at h
          exact ⟨[("-servername", host)], by simp, h.symm, by simp [last]⟩
      | some name =>
          simp only [hauto, hname, Except.ok.injEq] at h
          exact ⟨[], by simp, h.symm, rfl⟩
  | some auto =>
      cases hbool : lib.getBoolean auto with
      | none => simp [hauto, hbool] at h
      | some on =>
          cases on with
          | false =>
              simp only [hauto, hbool, Except.ok.injEq] at h
              refine ⟨[], by simp, h.symm, ?_⟩
              cases st.argsArray.lookup "-servername" <;> simp [last, hbool]
          | true =>
              cases hname : st.argsArray.lookup "-servername" with
              | none =>
                  simp only [hauto, hname, hbool, Except.ok.injEq] at h
                  exact ⟨[("-servername", host)], by simp, h.symm, by simp [last, hbool]⟩
              | some name =>
                  simp only [hauto, hname, hbool, Except.ok.injEq] at h
                  exact ⟨[], by simp, h.symm, rfl⟩

end Loop

/-! ## What is passed on -/

/-- The names in the table are options. -/
theorem option_isOption : ∀ name ∈ socketOptionRules.map (·.option), isOption name = true := by
  decide +kernel

/-- The list for `tls::import` has options with their values only, and the servername
that goes with the words. -/
structure ServernamePassed (lib : TclLibrary) (words iopts : List String) (host : String) :
    Prop where
  options : unpairs (pairs iopts) = iopts
  servername : last (· == "-servername") (pairs iopts) =
    expectedServername lib (optionPairs "0" words) host
  without : expectedServername lib (optionPairs "0" words) host = none →
    ∀ p ∈ pairs iopts, p.1 ≠ "-servername"

section Client

variable {lib : TclLibrary} {defaults args : List String} {plan : SocketPlan}

/-- A client that is accepted: the loop leaves the host and the port. -/
theorem tlsSocket_client (h : tlsSocket lib defaults args = .ok plan)
    (hclient : "-server" ∉ args) :
    ∃ st host port servername,
      optionLoop "0" (socketOptions "0") (defaults ++ args) { iopts := ["-server", "0"] } =
        .ok (st, [host, port]) ∧
      autoServername lib st host = .ok servername ∧
      plan = ⟨st.sopts ++ [host, port], st.iopts ++ servername, none⟩ := by
  rw [tlsSocket, if_neg hclient] at h
  split at h
  next => contradiction
  next st host port hloop =>
    cases hauto : autoServername lib st host with
    | error e => simp [hauto] at h
    | ok servername =>
        simp only [hauto, Except.ok.injEq] at h
        exact ⟨st, host, port, servername, hloop, hauto, h.symm⟩
  next => contradiction

/-- The list, where the words are spelt as in the table. -/
theorem pairs_iopts {words : List String} (hwords : LiteralWords "0" words)
    {ps : List (String × String)} (hps : ∀ p ∈ ps, p.1 = "-servername") :
    pairs (unpairs (("-server", "0") :: importPairs "0" words ++ ps)) =
      ("-server", "0") :: importPairs "0" words ++ ps := by
  apply pairs_unpairs
  intro p hp
  rw [List.mem_append, List.mem_cons] at hp
  rcases hp with (rfl | hp) | hp
  · decide
  · exact option_isOption _ (hwords p (importPairs_subset _ p hp))
  · rw [hps p hp]
    decide

/-- The servername that is appended is the last one, and only appended where there is
none. -/
theorem last_passed {words : List String} {ps : List (String × String)} {host : String}
    (hlast : last (· == "-servername") ps =
      match last (· == "-servername") (optionPairs "0" words) with
      | some _ => none
      | none =>
          match last (· == "-autoservername") (optionPairs "0" words) with
          | some auto => if lib.getBoolean auto = some false then none else some host
          | none => some host) :
    last (· == "-servername") (("-server", "0") :: importPairs "0" words ++ ps) =
      expectedServername lib (optionPairs "0" words) host := by
  have hserver : last (· == "-servername") (("-server", "0") :: importPairs "0" words) =
      last (· == "-servername") (optionPairs "0" words) := by
    rw [last, last_servername]
    simp
  rw [last_append, hserver, hlast, expectedServername]
  cases last (· == "-servername") (optionPairs "0" words) <;> simp

end Client

/-- **Host names are checked by default.**  The last servername in the list for
`tls::import` is the caller's last one, and without one the host, unless the last
`-autoservername` is false, and then there is none. -/
theorem servername_passed (lib : TclLibrary) (defaults args : List String) (plan : SocketPlan)
    (hsocket : tlsSocket lib defaults args = .ok plan) (hclient : "-server" ∉ args)
    (hwords : LiteralWords "0" (defaults ++ args)) :
    ∃ front host port sopts, defaults ++ args = front ++ [host, port] ∧
      plan.sopts = sopts ++ [host, port] ∧
      ServernamePassed lib (defaults ++ args) plan.iopts host := by
  obtain ⟨st, host, port, servername, hloop, hauto, rfl⟩ := tlsSocket_client hsocket hclient
  obtain ⟨front, hfront⟩ := suffix_of_optionLoop hloop
  obtain ⟨ps, hps, rfl, hlast⟩ := last_autoServername hauto
  -- the array as a function of the options given
  have hlookup : ∀ key, st.argsArray.lookup key =
      last (· == key) (optionPairs "0" (defaults ++ args)) := by
    intro key
    rw [argsArray_of_optionLoop hloop, List.append_nil, lookup_reverse]
  rw [hlookup, hlookup] at hlast
  have hiopts : st.iopts ++ unpairs ps =
      unpairs (("-server", "0") :: importPairs "0" (defaults ++ args) ++ ps) := by
    rw [optionLoop_iopts hloop]
    simp [unpairs, unpairs_append]
  have hpairs := pairs_iopts hwords hps
  rw [← hiopts] at hpairs
  have hservername := last_passed hlast
  rw [← hpairs] at hservername
  refine ⟨front, host, port, st.sopts, hfront, rfl, by rw [hpairs, hiopts], hservername, ?_⟩
  intro hnone p hp
  exact ne_of_beq_false ((last_eq_none_iff _ _).mp (hservername.trans hnone) p hp)

/-- Defaults that turn the name off, and arguments that turn it on again. -/
theorem servername_passed_host :
    ∃ front host port sopts,
      ["-autoservername", "0"] ++ ["-autoservername", "1", "-cafile", "ca.pem", "localhost", "443"] =
        front ++ [host, port] ∧ ["localhost", "443"] = sopts ++ [host, port] ∧
      ServernamePassed .plain
        (["-autoservername", "0"] ++
          ["-autoservername", "1", "-cafile", "ca.pem", "localhost", "443"])
        ["-server", "0", "-cafile", "ca.pem", "-servername", "localhost"] host :=
  servername_passed .plain ["-autoservername", "0"]
    ["-autoservername", "1", "-cafile", "ca.pem", "localhost", "443"]
    ⟨["localhost", "443"], ["-server", "0", "-cafile", "ca.pem", "-servername", "localhost"], none⟩
    (eq_ok_of_toOption (by decide +kernel)) (by decide +kernel)
    (by unfold LiteralWords; decide +kernel)

end TclTls
