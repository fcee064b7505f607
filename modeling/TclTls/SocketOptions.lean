import TclTls.Import
import TclTls.Settings.Glob

/-!
# TclTls.SocketOptions

The options of `tls::init` and `tls::socket`, and what becomes of them in
`tls::import`.

The script library has a table of its own, `socketOptionRules`, which a `switch`
matches the words against; the words it takes for `tls::import` are passed on as
they were given.  `importTable` reads them then, on a server not before the first
client connects.  `socket_options_agree_iff` compares the two: the list that is
passed on is understood but for `-securitylevel`, which `tls::import` spells with
an underscore, and for what the patterns let through beside the options' names.
-/

namespace TclTls

open Settings

/-! ## The table -/

/-- The variable an option is added to. -/
inductive RuleVar where
  | sopts
  | iopts
  | discardOpts
deriving DecidableEq, Repr

structure OptionRule where
  /-- matched against 0 for a client and 1 for a server -/
  server : String
  option : String
  var : RuleVar
  /-- the option consumes one argument, or none -/
  takesValue : Bool
deriving DecidableEq, Repr

def socketOptionRules : List OptionRule := [
  ⟨"0", "-async", .sopts, false⟩,
  ⟨"*", "-myaddr", .sopts, true⟩,
  ⟨"0", "-myport", .sopts, true⟩,
  ⟨"*", "-type", .sopts, true⟩,
  ⟨"*", "-alpn", .iopts, true⟩,
  ⟨"*", "-cadir", .iopts, true⟩,
  ⟨"*", "-cafile", .iopts, true⟩,
  ⟨"*", "-castore", .iopts, true⟩,
  ⟨"*", "-cert", .iopts, true⟩,
  ⟨"*", "-certfile", .iopts, true⟩,
  ⟨"*", "-cipher", .iopts, true⟩,
  ⟨"*", "-ciphersuites", .iopts, true⟩,
  ⟨"*", "-command", .iopts, true⟩,
  ⟨"*", "-dhparams", .iopts, true⟩,
  ⟨"*", "-key", .iopts, true⟩,
  ⟨"*", "-keyfile", .iopts, true⟩,
  ⟨"*", "-password", .iopts, true⟩,
  ⟨"*", "-post_handshake", .iopts, true⟩,
  ⟨"*", "-request", .iopts, true⟩,
  ⟨"*", "-require", .iopts, true⟩,
  ⟨"*", "-securitylevel", .iopts, true⟩,
  ⟨"*", "-autoservername", .discardOpts, true⟩,
  ⟨"*", "-server", .iopts, true⟩,
  ⟨"*", "-servername", .iopts, true⟩,
  ⟨"*", "-session_id", .iopts, true⟩,
  ⟨"*", "-ssl2", .iopts, true⟩,
  ⟨"*", "-ssl3", .iopts, true⟩,
  ⟨"*", "-tls1", .iopts, true⟩,
  ⟨"*", "-tls1.1", .iopts, true⟩,
  ⟨"*", "-tls1.2", .iopts, true⟩,
  ⟨"*", "-tls1.3", .iopts, true⟩,
  ⟨"*", "-validatecommand", .iopts, true⟩,
  ⟨"*", "-vcmd", .iopts, true⟩]

/-- `string match`; the patterns here have no special character but `*`. -/
def stringMatch (pattern string : String) : Bool := globMatch pattern.toList string.toList

/-- `socketOptionsNoServer` for 0 and `socketOptionsServer` for 1. -/
def socketOptions (server : String) : String :=
  ", ".intercalate ((socketOptionRules.filter (stringMatch ·.server server)).map (·.option))

/-- The pattern of a rule in `socketOptionsSwitchBody`. -/
def OptionRule.pattern (rule : OptionRule) : String := rule.server ++ "," ++ rule.option

/-- `switch -glob -- $server,$arg`: the rule that is run, if it is one. -/
def switchRule (server arg : String) : Option OptionRule :=
  socketOptionRules.find? fun rule => stringMatch rule.pattern (server ++ "," ++ arg)

/-! ## The loop -/

/-- The variables the rules add to. -/
structure SocketArgs where
  sopts : List String := []
  iopts : List String := []
  discardOpts : List String := []
  /-- `argsArray`, the last setting of a key first -/
  argsArray : List (String × String) := []
deriving DecidableEq, Repr

namespace SocketArgs

/-- `lappend @VAR@` -/
def lappend (st : SocketArgs) (words : List String) : RuleVar → SocketArgs
  | .sopts => { st with sopts := st.sopts ++ words }
  | .iopts => { st with iopts := st.iopts ++ words }
  | .discardOpts => { st with discardOpts := st.discardOpts ++ words }

def set (st : SocketArgs) (key value : String) : SocketArgs :=
  { st with argsArray := (key, value) :: st.argsArray }

/-- An option that consumes no argument. -/
def flag (st : SocketArgs) (rule : OptionRule) (arg : String) : SocketArgs :=
  (st.lappend [arg] rule.var).set arg "true"

/-- An option with its value. -/
def option (st : SocketArgs) (rule : OptionRule) (arg argValue : String) : SocketArgs :=
  (st.lappend [arg, argValue] rule.var).set arg argValue

end SocketArgs

/-- The last two patterns of the switch: an error, or the end of the loop. -/
def noRule (server options arg : String) (st : SocketArgs) (rest : List String) :
    Except TclError (SocketArgs × List String) :=
  if stringMatch "*,-*" (server ++ "," ++ arg) then
    .error ⟨"bad option \"" ++ arg ++ "\": must be one of " ++ options, ["NONE"]⟩
  else .ok (st, arg :: rest)

/-- The loop over the words of `args`; with the variables it returns the words
from `idx` on. -/
def optionLoop (server options : String) : List String → SocketArgs →
    Except TclError (SocketArgs × List String)
  | [], st => .ok (st, [])
  | [arg], st =>
      match switchRule server arg with
      | some rule =>
          if rule.takesValue then
            .error ⟨"\"" ++ arg ++ "\" option must be followed by value", ["NONE"]⟩
          else .ok (st.flag rule arg, [])
      | none => noRule server options arg st []
  | arg :: argValue :: args, st =>
      match switchRule server arg with
      | some rule =>
          if rule.takesValue then optionLoop server options args (st.option rule arg argValue)
          else optionLoop server options (argValue :: args) (st.flag rule arg)
      | none => noRule server options arg st (argValue :: args)

/-! ## The commands -/

/-- `tls::init`: the new `defaults`. -/
def tlsInit (args : List String) : Except TclError (List String) :=
  match optionLoop "-1" (socketOptions "1") args {} with
  | .error e => .error e
  | .ok _ => .ok args

/-- What `tls::socket` has put together when it creates the socket. -/
structure SocketPlan where
  /-- the arguments of `$socketCmd`, but for the `-server` of a server -/
  sopts : List String
  /-- the options of `tls::import`, for a server in the hands of `tls::_accept` -/
  iopts : List String
  /-- the callback of a server -/
  callback : Option String
deriving DecidableEq, Repr

/-- `-autoservername`: the `-servername` a client adds. -/
def autoServername (lib : TclLibrary) (st : SocketArgs) (host : String) :
    Except TclError (List String) :=
  match st.argsArray.lookup "-autoservername", st.argsArray.lookup "-servername" with
  | none, none => .ok ["-servername", host]
  | none, some _ => .ok []
  | some auto, servername =>
      match lib.getBoolean auto with
      | none => .error (lib.badBoolean auto)
      | some true => .ok (if servername.isNone then ["-servername", host] else [])
      | some false => .ok []

/-- The words without the first `-server` and the one after it. -/
def withoutServer (args : List String) : List String :=
  args.take (args.idxOf "-server") ++ args.drop (args.idxOf "-server" + 2)

/-- `tls::socket` -/
def tlsSocket (lib : TclLibrary) (defaults args : List String) : Except TclError SocketPlan :=
  if "-server" ∈ args then
    let callback := args.getD (args.idxOf "-server" + 1) ""
    match optionLoop "1" (socketOptions "1") (defaults ++ withoutServer args)
        { iopts := ["-server", "1"] } with
    | .error e => .error e
    | .ok (st, [port]) => .ok ⟨st.sopts ++ [port], st.iopts, some callback⟩
    | .ok _ => .error ⟨"wrong # args: should be \"tls::socket -server command ?options? port\"",
        ["NONE"]⟩
  else
    match optionLoop "0" (socketOptions "0") (defaults ++ args) { iopts := ["-server", "0"] } with
    | .error e => .error e
    | .ok (st, [host, port]) =>
        match autoServername lib st host with
        | .error e => .error e
        | .ok servername => .ok ⟨st.sopts ++ [host, port], st.iopts ++ servername, none⟩
    | .ok _ => .error ⟨"wrong # args: should be \"tls::socket ?options? host port\"", ["NONE"]⟩

/-! ## What is passed on -/

/-- `$server` -/
def socketServer (args : List String) : String := if "-server" ∈ args then "1" else "0"

/-- The words the loop of `tls::socket` goes through. -/
def socketWords (defaults args : List String) : List String :=
  defaults ++ if "-server" ∈ args then withoutServer args else args

/-- The words that the switch takes for `tls::import`, with their values. -/
def importPairs (server : String) : List String → List (String × String)
  | arg :: argValue :: args =>
      match switchRule server arg with
      | some rule =>
          if rule.takesValue then
            (if rule.var = .iopts then [(arg, argValue)] else []) ++ importPairs server args
          else importPairs server (argValue :: args)
      | none => []
  | _ => []

section Passed

variable {lib : TclLibrary} {server options word : String} {rule : OptionRule}
  {defaults args : List String} {plan : SocketPlan}

/-- An option for `tls::import` is one of both sides, and takes a value. -/
theorem rules_iopts : ∀ rule ∈ socketOptionRules, rule.var = .iopts →
    rule.takesValue = true ∧ rule.server = "*" ∧ '*' ∉ rule.option.toList := by
  decide +kernel

theorem switchRule_eq_some (h : switchRule server word = some rule) :
    rule ∈ socketOptionRules ∧ stringMatch rule.pattern (server ++ "," ++ word) = true := by
  have hfound := List.find?_some h
  exact ⟨List.mem_of_find?_eq_some h, by simpa using hfound⟩

/-- The rule is the word's own, unless there is a comma in the word. -/
theorem eq_option_of_switchRule (hserver : ',' ∉ server.toList)
    (h : switchRule server word = some rule) (hvar : rule.var = .iopts)
    (hcomma : ',' ∉ word.toList) : word = rule.option := by
  obtain ⟨hmem, hmatch⟩ := switchRule_eq_some h
  obtain ⟨-, hstar, hplain⟩ := rules_iopts rule hmem hvar
  have hpattern : rule.pattern.toList = '*' :: ',' :: rule.option.toList := by
    rw [OptionRule.pattern, hstar, String.toList_append, String.toList_append]
    rfl
  have htext : (server ++ "," ++ word).toList = server.toList ++ ',' :: word.toList := by
    rw [String.toList_append, String.toList_append, List.append_assoc]
    rfl
  have hliteral : '*' ∉ ',' :: rule.option.toList := by simpa using hplain
  rw [stringMatch, hpattern, htext, matches_star hliteral, suffix_of_separated hserver] at hmatch
  rcases hmatch with heq | hsuffix
  · exact (String.toList_inj.mp heq).symm
  · exact (hcomma (hsuffix.subset List.mem_cons_self)).elim

theorem exists_rule_of_importPairs {words : List String} {p : String × String}
    (h : p ∈ importPairs server words) :
    ∃ rule, switchRule server p.1 = some rule ∧ rule.var = .iopts := by
  fun_induction importPairs server words with
  | case1 arg argValue args rule hrule hvalue ih =>
      rw [List.mem_append] at h
      rcases h with h | h
      · split at h
        next hvar =>
          obtain rfl := List.mem_singleton.mp h
          exact ⟨rule, hrule, hvar⟩
        next => contradiction
      · exact ih h
  | case2 arg argValue args rule hrule hvalue ih => exact ih h
  | case3 arg argValue args hrule => contradiction
  | case4 words hshort => contradiction

theorem option_iopts (st : SocketArgs) (rule : OptionRule) (arg argValue : String) :
    (st.option rule arg argValue).iopts =
      st.iopts ++ unpairs (if rule.var = .iopts then [(arg, argValue)] else []) := by
  cases hvar : rule.var <;>
    simp [SocketArgs.option, SocketArgs.set, SocketArgs.lappend, hvar, unpairs]

theorem flag_iopts (hrule : rule ∈ socketOptionRules) (hflag : ¬ rule.takesValue = true)
    (st : SocketArgs) (arg : String) : (st.flag rule arg).iopts = st.iopts := by
  cases hvar : rule.var with
  | iopts => exact (hflag (rules_iopts rule hrule hvar).1).elim
  | sopts | discardOpts => simp [SocketArgs.flag, SocketArgs.set, SocketArgs.lappend, hvar]

/-- A run of the loop that raises no error: it takes options, with and without a
value, and stops at the end or at a word that is none. -/
inductive Taken (server : String) :
    List String → SocketArgs → SocketArgs → List String → Prop
  | nil (st : SocketArgs) : Taken server [] st st []
  | stop {arg : String} {args : List String} (st : SocketArgs)
      (hrule : switchRule server arg = none)
      (hdash : stringMatch "*,-*" (server ++ "," ++ arg) = false) :
      Taken server (arg :: args) st st (arg :: args)
  | option {arg argValue : String} {args rest : List String} {rule : OptionRule}
      {st st' : SocketArgs} (hrule : switchRule server arg = some rule)
      (hvalue : rule.takesValue = true)
      (hrest : Taken server args (st.option rule arg argValue) st' rest) :
      Taken server (arg :: argValue :: args) st st' rest
  | flag {arg : String} {args rest : List String} {rule : OptionRule} {st st' : SocketArgs}
      (hrule : switchRule server arg = some rule) (hvalue : ¬ rule.takesValue = true)
      (hrest : Taken server args (st.flag rule arg) st' rest) :
      Taken server (arg :: args) st st' rest

theorem taken_of_noRule {st : SocketArgs} {rest : List String} {r : SocketArgs × List String}
    (hrule : switchRule server word = none) (h : noRule server options word st rest = .ok r) :
    Taken server (word :: rest) st r.1 r.2 := by
  rw [noRule] at h
  split at h
  next => contradiction
  next hdash =>
    cases h
    exact .stop st hrule (Bool.eq_false_iff.mpr hdash)

theorem taken_of_optionLoop {words : List String} {st : SocketArgs}
    {r : SocketArgs × List String} (h : optionLoop server options words st = .ok r) :
    Taken server words st r.1 r.2 := by
  fun_induction optionLoop server options words st with
  | case1 st =>
      cases h
      exact .nil st
  | case2 arg st rule hrule hvalue => contradiction
  | case3 arg st rule hrule hvalue =>
      cases h
      exact .flag hrule hvalue (.nil _)
  | case4 arg st hrule => exact taken_of_noRule hrule h
  | case5 arg argValue args st rule hrule hvalue ih => exact .option hrule hvalue (ih h)
  | case6 arg argValue args st rule hrule hvalue ih => exact .flag hrule hvalue (ih h)
  | case7 arg argValue args st hrule => exact taken_of_noRule hrule h

theorem importPairs_option {arg argValue : String} {args : List String}
    (hrule : switchRule server arg = some rule) (hvalue : rule.takesValue = true) :
    importPairs server (arg :: argValue :: args) =
      (if rule.var = .iopts then [(arg, argValue)] else []) ++ importPairs server args := by
  rw [importPairs, hrule]
  simp [hvalue]

theorem importPairs_flag {arg : String} {args : List String}
    (hrule : switchRule server arg = some rule) (hvalue : ¬ rule.takesValue = true) :
    importPairs server (arg :: args) = importPairs server args := by
  cases args with
  | nil => rfl
  | cons argValue args =>
      rw [importPairs, hrule]
      simp [hvalue]

theorem importPairs_stop {arg : String} {args : List String}
    (hrule : switchRule server arg = none) : importPairs server (arg :: args) = [] := by
  cases args with
  | nil => rfl
  | cons argValue args => rw [importPairs, hrule]

/-- The loop leaves in `iopts` what it takes for `tls::import`. -/
theorem optionLoop_iopts {words rest : List String} {st st' : SocketArgs}
    (h : optionLoop server options words st = .ok (st', rest)) :
    st'.iopts = st.iopts ++ unpairs (importPairs server words) := by
  have htaken : Taken server words st st' rest := taken_of_optionLoop h
  clear h
  induction htaken with
  | nil st => simp [importPairs, unpairs]
  | stop st hrule hdash => rw [importPairs_stop hrule, unpairs, List.append_nil]
  | option hrule hvalue hrest ih =>
      rw [ih, option_iopts, importPairs_option hrule hvalue, unpairs_append, List.append_assoc]
  | flag hrule hvalue hrest ih =>
      rw [ih, flag_iopts (switchRule_eq_some hrule).1 hvalue, importPairs_flag hrule hvalue]

theorem autoServername_ok {st : SocketArgs} {host : String} {servername : List String}
    (h : autoServername lib st host = .ok servername) :
    ∃ ps : List (String × String), (∀ p ∈ ps, p.1 = "-servername") ∧ servername = unpairs ps := by
  have hcases : servername = ["-servername", host] ∨ servername = [] := by
    unfold autoServername at h
    split at h
    · exact .inl (Except.ok.inj h).symm
    · exact .inr (Except.ok.inj h).symm
    · split at h
      · contradiction
      · obtain rfl := Except.ok.inj h
        exact ite_eq_or_eq _ _ _
      · exact .inr (Except.ok.inj h).symm
  rcases hcases with rfl | rfl
  · exact ⟨[("-servername", host)], by simp, rfl⟩
  · exact ⟨[], by simp, rfl⟩

/-- What `tls::socket` passes on. -/
theorem iopts_eq (h : tlsSocket lib defaults args = .ok plan) :
    ∃ servername : List (String × String), (∀ p ∈ servername, p.1 = "-servername") ∧
      plan.iopts = unpairs (("-server", socketServer args) ::
        importPairs (socketServer args) (socketWords defaults args) ++ servername) := by
  unfold tlsSocket at h
  by_cases hserver : "-server" ∈ args
  · rw [if_pos hserver] at h
    split at h
    next => contradiction
    next st port hloop =>
      obtain rfl := Except.ok.inj h
      refine ⟨[], by simp, ?_⟩
      rw [socketServer, if_pos hserver, socketWords, if_pos hserver]
      simpa [unpairs] using optionLoop_iopts hloop
    next => contradiction
  · rw [if_neg hserver] at h
    split at h
    next => contradiction
    next st host port hloop =>
      cases hauto : autoServername lib st host with
      | error e => simp [hauto] at h
      | ok servername =>
          simp only [hauto, Except.ok.injEq] at h
          obtain ⟨ps, hps, rfl⟩ := autoServername_ok hauto
          refine ⟨ps, hps, ?_⟩
          rw [socketServer, if_neg hserver, socketWords, if_neg hserver, ← h,
            optionLoop_iopts hloop]
          simp [unpairs, unpairs_append]
    next => contradiction

/-- The names of the options of `tls::import`. -/
def importNames : List String := (importTable .plain).entries.map (·.name)

theorem find_isSome_iff (word : String) :
    ((importTable lib).find word).isSome = true ↔ word ∈ importNames := by
  rw [Table.find_isSome_iff]
  rfl

/-- No name of an option contains a comma, and none is spelt `-securitylevel`. -/
theorem importNames_spelling : ∀ name ∈ importNames,
    isOption name = true ∧ ',' ∉ name.toList ∧ name ≠ "-securitylevel" := by
  decide +kernel

theorem option_spelling : ∀ name ∈ socketOptionRules.map (·.option), ',' ∉ name.toList := by
  decide +kernel

/-- All other options are spelt alike. -/
theorem option_mem_importNames : ∀ rule ∈ socketOptionRules, rule.var = .iopts →
    rule.option ≠ "-securitylevel" → rule.option ∈ importNames := by
  decide +kernel

theorem socketServer_spelling (args : List String) : ',' ∉ (socketServer args).toList := by
  unfold socketServer
  split <;> decide

/-- An option for `tls::import` is one it knows if it is spelt as in the table,
and not `-securitylevel`. -/
theorem known_iff {words : List String} {p : String × String}
    (h : p ∈ importPairs (socketServer args) words) :
    p.1 ∈ importNames ↔ p.1 ∈ socketOptionRules.map (·.option) ∧ p.1 ≠ "-securitylevel" := by
  obtain ⟨rule, hrule, hvar⟩ := exists_rule_of_importPairs h
  have hmem := (switchRule_eq_some hrule).1
  have hserver := socketServer_spelling args
  constructor
  · intro hname
    obtain ⟨-, hcomma, hspelling⟩ := importNames_spelling p.1 hname
    have heq := eq_option_of_switchRule hserver hrule hvar hcomma
    exact ⟨by rw [heq]; exact List.mem_map_of_mem hmem, hspelling⟩
  · rintro ⟨hname, hspelling⟩
    have heq := eq_option_of_switchRule hserver hrule hvar (option_spelling p.1 hname)
    rw [heq] at hspelling ⊢
    exact option_mem_importNames rule hmem hvar hspelling

end Passed

/-! ## The two parsers -/

/-- `tls::import` understands the options it is given: all of them are options it
knows, with a value each, and if it refuses the list, then because of a value. -/
structure OptionsAgree (lib : TclLibrary) (iopts : List String) : Prop where
  understood : (importTable lib).Understands iopts
  refused : ∀ (i : Interp) (cmd name : String) (e : TclError),
    importArguments lib i (cmd :: name :: iopts) = .error e → i.find name = none ∨
      ∃ p ∈ pairs iopts, ∃ entry o, (importTable lib).find p.1 = some entry ∧
        entry.apply p.2 o = .error e

theorem optionsAgree_iff (lib : TclLibrary) (iopts : List String) :
    OptionsAgree lib iopts ↔ (importTable lib).Understands iopts := by
  refine ⟨fun h => h.understood, fun h => ⟨h, fun i cmd name e he => ?_⟩⟩
  cases hfind : i.find name with
  | none => exact .inl rfl
  | some chan =>
      cases hoptions : importOptions lib iopts with
      | ok o => simp [importArguments, hfind, hoptions] at he
      | error e' =>
          simp only [importArguments, hfind, hoptions, Except.error.injEq] at he
          exact .inr (Table.refused_of_understands h (he ▸ hoptions))

/-- **The parsers agree** on every list in which the options for `tls::import`
are spelt as in `socketOptionRules`, but for `-securitylevel`. -/
theorem socket_options_agree_iff (lib : TclLibrary) (initArgs defaults args : List String)
    (plan : SocketPlan) (hinit : tlsInit initArgs = .ok defaults)
    (hsocket : tlsSocket lib defaults args = .ok plan) :
    OptionsAgree lib plan.iopts ↔
      ∀ p ∈ importPairs (socketServer args) (socketWords initArgs args),
        p.1 ∈ socketOptionRules.map (·.option) ∧ p.1 ≠ "-securitylevel" := by
  have hdefaults : initArgs = defaults := by
    unfold tlsInit at hinit
    split at hinit
    · contradiction
    · exact Except.ok.inj hinit
  subst hdefaults
  obtain ⟨servername, hservername, hiopts⟩ := iopts_eq hsocket
  have hserver : "-server" ∈ importNames := by decide +kernel
  have hname : ∀ p ∈ servername, p.1 ∈ importNames := by
    intro p hp
    rw [hservername p hp]
    decide +kernel
  have hknown : ∀ word, (isOption word = true ∧ ((importTable lib).find word).isSome = true) ↔
      word ∈ importNames := by
    intro word
    rw [find_isSome_iff, and_iff_right_iff_imp]
    exact fun hword => (importNames_spelling word hword).1
  rw [optionsAgree_iff, hiopts, Table.understands_unpairs_iff]
  constructor
  · intro hall p hp
    have hpassed := hall p (List.mem_append_left _ (List.mem_cons_of_mem _ hp))
    exact (known_iff hp).mp ((hknown p.1).mp hpassed)
  · intro hspelling p hp
    rw [hknown]
    rcases List.mem_append.mp hp with hp | hp
    · rcases List.mem_cons.mp hp with rfl | hp
      · exact hserver
      · exact (known_iff hp).mpr (hspelling p hp)
    · exact hname p hp

theorem socket_options_agree_cafile :
    OptionsAgree .plain ["-server", "0", "-require", "1", "-cafile", "ca.pem", "-servername",
      "localhost"] :=
  (socket_options_agree_iff .plain ["-require", "1"] ["-require", "1"]
    ["-cafile", "ca.pem", "localhost", "443"] ⟨["localhost", "443"], _, none⟩
    (eq_ok_of_toOption (by decide +kernel)) (eq_ok_of_toOption (by decide +kernel))).mpr
    (by decide +kernel)

/-- `tls::socket` accepts `-securitylevel`, and `tls::import` does not know it. -/
theorem socket_options_disagree :
    ∃ plan, tlsSocket .plain [] ["-securitylevel", "1", "localhost", "443"] = .ok plan ∧
      ¬ OptionsAgree .plain plan.iopts ∧
      (importArguments .plain oneSocket ("tls::import" :: "sock4" :: plan.iopts)).toOption =
        none := by
  refine ⟨⟨["localhost", "443"], ["-server", "0", "-securitylevel", "1", "-servername",
    "localhost"], none⟩, eq_ok_of_toOption (by decide +kernel), ?_, by decide +kernel⟩
  intro h
  have hknown := h.understood.2 ("-securitylevel", "1") (by decide +kernel)
  rw [find_isSome_iff] at hknown
  exact (importNames_spelling "-securitylevel" hknown).2.2 rfl

end TclTls
