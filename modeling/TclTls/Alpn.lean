import TclTls.ClientHello
import TclTls.Import
import TclTls.Wire.Prefixed

/-!
# TclTls.Alpn

Protocol lists: how `tls::import` makes one of `-alpn`, and how the selected
protocol gets from one to the script.

`ImportObjCmd` goes through the names twice, to count the memory they need and
to fill it.  `fillLoop` is the second loop with its pointer; `fillLoop_eq` says
that it writes what `fillProtos` is, all of the memory and nothing else, and
`alpn_roundtrip` that the list can be read back.

On the way back the length is lost: `ALPNCallback` makes a string of the pointer
into the list alone, so what the script gets ends at the next zero byte, wherever
that is (`alpnCallback_shows_iff`).
-/

namespace TclTls

open Interaction Wire

variable (lib : TclLibrary)

/-! ## Filling the list -/

/-- The loop that fills the memory at `protos`; `p` is the source's pointer. -/
def fillLoop : List String → List UInt8 → Nat → Option (List UInt8 × Nat)
  | [], protos, p => some (protos, p)
  | name :: list, protos, p => do
      let str := lib.getString name
      let protos ← store protos p [UInt8.ofNat str.length]
      let protos ← store protos (p + 1) str
      fillLoop list protos (p + 1 + str.length)

section Fill

variable {lib} {list list' : List String}

theorem fillProtos_eq (list : List String) :
    fillProtos lib list = prefixed (list.map lib.getString) := by
  induction list with
  | nil => rfl
  | cons name list ih => rw [fillProtos, List.map_cons, prefixed, ih]

/-- The names fit their prefixes exactly if the memory can be counted. -/
theorem fits_iff : (∀ name ∈ list.map lib.getString, FitsPrefix name) ↔
    ∃ n, protosLen lib list = some n := by
  have hnone : protosLen lib list = none ↔ _ := protosLen_eq_none_iff list
  rw [← Option.isSome_iff_exists, ← Option.ne_none_iff_isSome, ne_eq, hnone]
  simp [FitsPrefix]

/-- What is counted is what the wire form takes. -/
theorem protosLen_eq {n : Nat} (h : protosLen lib list = some n) :
    (fillProtos lib list).length = n := by
  induction list generalizing n with
  | nil =>
      rw [protosLen, Option.some.injEq] at h
      exact h
  | cons name list ih =>
      rw [protosLen] at h
      split at h
      next => contradiction
      next =>
        obtain ⟨m, hm, rfl⟩ := Option.map_eq_some_iff.mp h
        rw [fillProtos, List.length_cons, List.length_append, ih hm]
        omega

/-- The loop fills the room behind what has been written. -/
theorem fillLoop_append (list : List String) (written room : List UInt8)
    (h : (fillProtos lib list).length ≤ room.length) :
    fillLoop lib list (written ++ room) written.length =
      some (written ++ fillProtos lib list ++ room.drop (fillProtos lib list).length,
        written.length + (fillProtos lib list).length) := by
  induction list generalizing written room with
  | nil => simp [fillLoop, fillProtos]
  | cons name list ih =>
      rw [fillProtos, List.length_cons, List.length_append] at h
      have hbyte := store_append written room [UInt8.ofNat (lib.getString name).length]
        (by rw [List.length_singleton]; omega)
      have hname := store_append (written ++ [UInt8.ofNat (lib.getString name).length])
        (room.drop 1) (lib.getString name) (by rw [List.length_drop]; omega)
      have hrest := ih (written ++ [UInt8.ofNat (lib.getString name).length] ++ lib.getString name)
        ((room.drop 1).drop (lib.getString name).length)
        (by rw [List.length_drop, List.length_drop]; omega)
      simp only [List.length_append, List.length_singleton] at hbyte hname hrest
      simp only [fillLoop, hbyte, hname, hrest, Option.bind_eq_bind, Option.bind_some]
      simp [fillProtos, List.drop_drop]
      omega

/-- **The loops agree**: in memory of the counted length, whatever is in it, the
names are written from the first byte to the last. -/
theorem fillLoop_eq {n : Nat} (h : protosLen lib list = some n) {protos : List UInt8}
    (hprotos : protos.length = n) :
    fillLoop lib list protos 0 = some (fillProtos lib list, n) := by
  have hlen := protosLen_eq h
  have hroom : (fillProtos lib list).length ≤ protos.length := by omega
  have hloop := fillLoop_append list [] protos hroom
  simpa [hlen, ← hprotos] using hloop

end Fill

/-! ## The command -/

/-- The answer to a name that is too long. -/
def namesTooLong : TclError :=
  ⟨"ALPN protocol names too long", ["TLS", "IMPORT", "ALPN", "FAILED"]⟩

/-- The list as the command builds it, with `protos_len`; `tclAlloc` is the
memory it gets.  `none` stands for an access outside of this memory. -/
def buildProtos (tclAlloc : Nat → List UInt8) (list : List String) :
    Option (Except TclError (List UInt8 × Nat)) :=
  match protosLen lib list with
  | none => some (.error namesTooLong)
  | some n => (fillLoop lib list (tclAlloc n) 0).map fun r => .ok (r.1, n)

section Build

variable {lib} {list : List String} {tclAlloc : Nat → List UInt8}

theorem buildProtos_eq {n : Nat} (h : protosLen lib list = some n)
    (halloc : ∀ n, (tclAlloc n).length = n) :
    buildProtos lib tclAlloc list = some (.ok (fillProtos lib list, n)) := by
  have hloop := fillLoop_eq h (halloc n)
  simp only [buildProtos, h, hloop, Option.map_some]

/-- What the list is when it is built. -/
theorem buildProtos_ok {protos : List UInt8} {n : Nat} (halloc : ∀ n, (tclAlloc n).length = n)
    (h : buildProtos lib tclAlloc list = some (.ok (protos, n))) :
    protosLen lib list = some n ∧ protos = prefixed (list.map lib.getString) := by
  cases hlen : protosLen lib list with
  | none => simp [buildProtos, hlen] at h
  | some m =>
      rw [buildProtos_eq hlen halloc] at h
      simp only [Option.some.injEq, Except.ok.injEq, Prod.mk.injEq] at h
      exact ⟨by rw [h.2], by rw [← h.1, fillProtos_eq]⟩

/-- **The protocol list makes the round trip.**  A name that is too long is an
error, and there is no memory to write to yet.  Otherwise the loop fills the
memory that was counted, and the names can be read back from it; so lists of
different names differ on the wire. -/
theorem alpn_roundtrip (lib : TclLibrary) (ans : ImportAnswers) (o : ImportOptions)
    (alpn : String) (list : List String) (halpn : o.alpn = some alpn)
    (hlist : lib.listElements alpn = .ok list) :
    ((∃ name ∈ list, 255 < (lib.getString name).length) →
      (∀ tclAlloc, buildProtos lib tclAlloc list = some (.error namesTooLong)) ∧
        setAlpn lib ans o = .error namesTooLong) ∧
    ((∀ name ∈ list, (lib.getString name).length ≤ 255) →
      ∃ protos n, protosLen lib list = some n ∧ protos.length = n ∧
        (∀ memory, memory.length = n → fillLoop lib list memory 0 = some (protos, n)) ∧
        split protos = some (list.map lib.getString) ∧
        setAlpn lib ans o =
          (orFail (ans.setAlpnProtos protos) "Set ALPN protocols failed: " "ALPN").map
            fun _ => some protos) ∧
    (∀ tclAlloc, (∀ n, (tclAlloc n).length = n) → ∀ list' protos n n',
      buildProtos lib tclAlloc list = some (.ok (protos, n)) →
      buildProtos lib tclAlloc list' = some (.ok (protos, n')) →
      list.map lib.getString = list'.map lib.getString) := by
  refine ⟨fun hlong => ?_, fun hfits => ?_, fun tclAlloc halloc list' protos n n' h h' => ?_⟩
  · have hnone : protosLen lib list = none := (protosLen_eq_none_iff list).mpr hlong
    refine ⟨fun tclAlloc => ?_, ?_⟩
    · simp only [buildProtos, hnone]
    · simp only [setAlpn, halpn, hlist, bind, Except.bind, hnone]
      rfl
  · have hfits' : ∀ name ∈ list.map lib.getString, FitsPrefix name := by
      simpa [FitsPrefix] using hfits
    obtain ⟨n, hn⟩ := fits_iff.mp hfits'
    refine ⟨fillProtos lib list, n, hn, protosLen_eq hn, fun memory hmemory => ?_, ?_, ?_⟩
    · exact fillLoop_eq hn hmemory
    · rw [fillProtos_eq]
      exact split_prefixed hfits'
    · simp only [setAlpn, halpn, hlist, bind, Except.bind, hn]
      cases orFail (ans.setAlpnProtos (fillProtos lib list)) "Set ALPN protocols failed: " "ALPN" <;>
        rfl
  · obtain ⟨hlen, hprotos⟩ := buildProtos_ok halloc h
    obtain ⟨hlen', hprotos'⟩ := buildProtos_ok halloc h'
    exact prefixed_inj (fits_iff.mpr ⟨n, hlen⟩) (fits_iff.mpr ⟨n', hlen'⟩) (hprotos ▸ hprotos')

/-- Libraries for which every list has two protocols in it. -/
def twoProtocols : TclLibrary :=
  { TclLibrary.plain with listElements := fun _ => .ok ["h2", "http/1.1"] }

theorem alpn_roundtrip_two :
    ∃ protos n, protosLen twoProtocols ["h2", "http/1.1"] = some n ∧ protos.length = n ∧
      split protos = some (["h2", "http/1.1"].map twoProtocols.getString) := by
  have hfits : ∀ name ∈ ["h2", "http/1.1"], (twoProtocols.getString name).length ≤ 255 := by decide
  have hround := alpn_roundtrip twoProtocols (answering (.ok ()) (.ok ()))
    { alpn := some "h2 http/1.1" } "h2 http/1.1" ["h2", "http/1.1"] rfl rfl
  obtain ⟨protos, n, hn, hlen, -, hsplit, -⟩ := hround.2.1 hfits
  exact ⟨protos, n, hn, hlen, hsplit⟩

end Build

/-! ## Selecting -/

/-- What `SSL_select_next_proto` finds: `name`, in the list of the server or in
that of the client. -/
structure Selection (server client : List UInt8) where
  /-- The result is `OPENSSL_NPN_NEGOTIATED`. -/
  negotiated : Bool
  before : List (List UInt8)
  name : List UInt8
  after : List (List UInt8)
  fits : ∀ name ∈ after, FitsPrefix name
  inside : prefixed (before ++ name :: after) = server ∨ prefixed (before ++ name :: after) = client

namespace Selection

variable {server client : List UInt8}

/-- The list the name is in. -/
def list (sel : Selection server client) : List UInt8 := prefixed (sel.before ++ sel.name :: sel.after)

/-- `*out`, as an offset into that list. -/
def out (sel : Selection server client) : Nat := (prefixed sel.before).length + 1

/-- `*outlen` -/
def outlen (sel : Selection server client) : Nat := sel.name.length

/-- The bytes `Tcl_NewStringObj` copies when it is given `*out` alone; behind the
list there is `beyond`. -/
def stringAt (sel : Selection server client) (beyond : List UInt8) : Option (List UInt8) :=
  cString ((sel.list ++ beyond).drop sel.out)

/-- From `*out` on, the list consists of the name and the entries after it. -/
theorem drop_out (sel : Selection server client) (beyond : List UInt8) :
    (sel.list ++ beyond).drop sel.out = sel.name ++ prefixed sel.after ++ beyond := by
  have hlist : sel.list ++ beyond = (prefixed sel.before ++ [UInt8.ofNat sel.name.length]) ++
      (sel.name ++ prefixed sel.after ++ beyond) := by
    simp [list, prefixed_append, prefixed]
  have hout : sel.out = (prefixed sel.before ++ [UInt8.ofNat sel.name.length]).length := by
    rw [List.length_append, List.length_singleton]
    rfl
  rw [hlist, hout, List.drop_left]

/-- The name is the `*outlen` bytes at `*out`. -/
theorem slice_out (sel : Selection server client) :
    slice sel.list sel.out sel.outlen = some sel.name := by
  have hlist : sel.list = (prefixed sel.before ++ [UInt8.ofNat sel.name.length]) ++ sel.name ++
      prefixed sel.after := by
    simp [list, prefixed_append, prefixed]
  have hout : sel.out = (prefixed sel.before ++ [UInt8.ofNat sel.name.length]).length := by
    rw [List.length_append, List.length_singleton]
    rfl
  rw [hlist, hout, outlen, slice_append]

/-- The string is the name exactly if the next entry is empty: its length is
the zero byte that is needed. -/
theorem stringAt_eq_name_iff (sel : Selection server client) :
    (∀ beyond, sel.stringAt beyond = some sel.name) ↔
      0 ∉ sel.name ∧ sel.after.head? = some [] := by
  constructor
  · intro h
    have hlist := h []
    rw [stringAt, drop_out, List.append_nil, cString_eq_some_iff] at hlist
    obtain ⟨hzero, rest, hrest⟩ := hlist
    refine ⟨hzero, ?_⟩
    have hafter : prefixed sel.after = 0 :: rest := List.append_cancel_left hrest
    cases hcases : sel.after with
    | nil => simp [hcases, prefixed] at hafter
    | cons next after =>
        have hfits : next.length ≤ 255 := sel.fits next (by rw [hcases]; exact List.mem_cons_self)
        rw [hcases, prefixed] at hafter
        have hbyte := congrArg UInt8.toNat (List.cons.inj hafter).1
        rw [UInt8.toNat_ofNat'] at hbyte
        have hnext : next.length = 0 := by
          have hzero' : (0 : UInt8).toNat = 0 := rfl
          omega
        rw [List.head?_cons, List.eq_nil_of_length_eq_zero hnext]
  · rintro ⟨hzero, hnext⟩ beyond
    obtain ⟨after, hafter⟩ := List.head?_eq_some_iff.mp hnext
    rw [stringAt, drop_out, hafter, cString_eq_some_iff]
    exact ⟨hzero, prefixed after ++ beyond, by simp [prefixed]⟩

end Selection

/-! ## What the script is shown -/

/-- The library, when the selection is `sel` and `beyond` is what lies behind the
list. -/
def NegotiationLibrary.selecting (lib : NegotiationLibrary) {server client : List UInt8}
    (sel : Selection server client) (beyond : List UInt8) : NegotiationLibrary :=
  { lib with
    selectNextProto := fun _ _ =>
      (sel.negotiated, lib.newStringObj ((sel.stringAt beyond).getD [])) }

/-- The script is called with the `*outlen` bytes at `*out`, whatever lies behind
the list. -/
def ShowsSelected (lib : NegotiationLibrary) (w : Conn) (script : String) (client : List UInt8)
    (sel : Selection (w.st.protos.getD []) client) : Prop :=
  ∀ beyond, sel.stringAt beyond = slice sel.list sel.out sel.outlen ∧
    (w.run (alpnCallback (lib.selecting sel beyond) client)).2.env.commands = w.env.commands ++
      [⟨script, ["alpn", w.st.self, lib.newStringObj sel.name, if sel.negotiated then "1" else "0"]⟩]

section Script

variable {lib : NegotiationLibrary} {w : Conn} {script : String} {client : List UInt8}

/-- The script gets what `*out` points at. -/
theorem run_alpnCallback_commands (hv : w.st.vcmd = some script) {negotiated : Bool} {out : String}
    (hselect : lib.selectNextProto (w.st.protos.getD []) client = (negotiated, out)) :
    (w.run (alpnCallback lib client)).2.env.commands = w.env.commands ++
      [⟨script, ["alpn", w.st.self, out, if negotiated then "1" else "0"]⟩] := by
  have heval := run_evalCallback_commands lib.toPlatform
    ⟨script, ["alpn", w.st.self, out, if negotiated then "1" else "0"]⟩ w
  cases negotiated <;> simpa [alpnCallback, hv, hselect] using heval

/-- **The script is shown too much**, unless an empty name happens to follow. -/
theorem alpnCallback_shows_iff (lib : NegotiationLibrary) (w : Conn) (script : String)
    (hv : w.st.vcmd = some script) (client : List UInt8)
    (sel : Selection (w.st.protos.getD []) client) :
    ShowsSelected lib w script client sel ↔ 0 ∉ sel.name ∧ sel.after.head? = some [] := by
  rw [← sel.stringAt_eq_name_iff]
  constructor
  · intro h beyond
    rw [(h beyond).1, sel.slice_out]
  · intro h beyond
    have hselect : (lib.selecting sel beyond).selectNextProto (w.st.protos.getD []) client =
        (sel.negotiated, lib.newStringObj sel.name) := by
      rw [NegotiationLibrary.selecting, h beyond]
      rfl
    exact ⟨by rw [h beyond, sel.slice_out], run_alpnCallback_commands hv hselect⟩

/-- The server's list is `h2` and `http/1.1`. -/
def offering : Conn :=
  let w := scripted ⟨tclOk, "1"⟩
  { w with st.protos := some (prefixed [[104, 50], [104, 116, 116, 112, 47, 49, 46, 49]]) }

/-- And a client that knows `h2` is answered with it. -/
def selectedH2 : Selection (offering.st.protos.getD []) (prefixed [[104, 50]]) where
  negotiated := true
  before := []
  name := [104, 50]
  after := [[104, 116, 116, 112, 47, 49, 46, 49]]
  fits := by decide
  inside := .inl rfl

/-- The client's list, after which there is an empty name. -/
def selectedEmpty : Selection (offering.st.protos.getD []) (prefixed [[104, 50], []]) where
  negotiated := true
  before := []
  name := [104, 50]
  after := [[]]
  fits := by decide
  inside := .inr rfl

theorem alpnCallback_shows_empty :
    ShowsSelected .plain offering "check" (prefixed [[104, 50], []]) selectedEmpty :=
  (alpnCallback_shows_iff .plain offering "check" rfl _ selectedEmpty).mpr (by decide)

/-- The script for `h2` is called with `http/1.1` as well. -/
theorem alpnCallback_shows_next :
    ¬ ShowsSelected .plain offering "check" (prefixed [[104, 50]]) selectedH2 ∧
      (offering.run (alpnCallback (NegotiationLibrary.plain.selecting selectedH2 [0])
        (prefixed [[104, 50]]))).2.env.commands =
      [⟨"check", ["alpn", "", "h2\x08http/1.1", "1"]⟩] := by
  constructor
  · intro h
    exact absurd (h [0]).1 (by decide)
  · rfl

end Script

end TclTls
