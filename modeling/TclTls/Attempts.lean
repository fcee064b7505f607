import TclTls.Handshake

/-!
# TclTls.Attempts

How often `Tls_WaitForConnect` asks the library for a handshake, and what may
be relied on when it returns.

`Event.attempt` picks `SSL_accept` and `SSL_connect` out of the log.  The loop
appends its attempts to it (`run_connectLoop_attempts`), at most one on an
asynchronous channel and at most eleven on a blocking one, and the last of them
is the one the switch decides on.  `tlsWaitForConnect_sound` puts this together
with the outcome that `run_tlsWaitForConnect` gives.
-/

namespace TclTls

open Interaction
open Interaction.Program (state update)

variable (lib : Platform)

/-! ## Attempts -/

/-- `SSL_accept` or `SSL_connect`. -/
def Call.attempt : Call → Bool
  | .sslAccept | .sslConnect => true
  | _ => false

/-- The attempts of the log, in order. -/
def Env.attempts (g : Env) : List Event := g.log.filter (·.call.attempt)

/-- What an attempt returned. -/
def Event.ret : Event → Int
  | ⟨.sslAccept, a⟩ => a.ret
  | ⟨.sslConnect, a⟩ => a.ret
  | _ => 0

theorem Call.wire_of_attempt {e : Call} (he : e.attempt = true) : e.wire = true := by
  cases e <;> first
    | contradiction
    | rfl

/-- The attempts are on the wire. -/
theorem Env.attempts_eq (g : Env) : g.attempts = g.wireLog.filter (·.call.attempt) := by
  rw [attempts, wireLog, List.filter_filter]
  refine List.filter_congr fun e _ => ?_
  cases he : e.call.attempt with
  | false => simp
  | true => simp [Call.wire_of_attempt he]

theorem Env.WireEq.attempts {g g' : Env} (h : g.WireEq g') : g.attempts = g'.attempts := by
  rw [attempts_eq, attempts_eq, h.wireLog]

/-! ## The loop -/

section Loop

variable {w : Conn}

/-- One attempt is one entry of the log. -/
theorem run_handshakeAttempt_attempts (w : Conn) :
    ∃ e : Event, (w.run handshakeAttempt).2.env.attempts = w.env.attempts ++ [e] ∧
      e.ret = (w.run handshakeAttempt).1.ret := by
  cases hserver : w.st.flags.server with
  | true =>
      refine ⟨⟨.sslAccept, w.env.answers.handshakes 0⟩, ?_, by rw [run_handshakeAttempt]; rfl⟩
      by_cases hret : 0 < (w.env.answers.handshakes 0).ret <;>
        simp [handshakeAttempt, hserver, hret, Env.attempts, Call.attempt]
  | false =>
      refine ⟨⟨.sslConnect, w.env.answers.handshakes 0⟩, ?_, by rw [run_handshakeAttempt]; rfl⟩
      by_cases hret : 0 < (w.env.answers.handshakes 0).ret <;>
        simp [handshakeAttempt, hserver, hret, Env.attempts, Call.attempt]

/-- A pause is no attempt. -/
theorem attempts_sleep (g : Env) (ms : Nat) :
    (Env.respond (.sleep ms) g).2.attempts = g.attempts := by
  simp [Env.attempts, Call.attempt]

/-- The attempts of the loop: one if nobody may wait, else up to one for every
retry and one more.  The attempt that ends the loop is the last. -/
theorem run_connectLoop_attempts (retries : Nat) (w : Conn) :
    ∃ es : List Event, (w.run (connectLoop retries)).2.env.attempts = w.env.attempts ++ es ∧
      es.length ≤ (if w.st.flags.async then 1 else retries + 1) ∧
      ∀ a, (w.run (connectLoop retries)).1 = some a → ∃ e ∈ es.getLast?, e.ret = a.ret := by
  obtain ⟨e, hlog, hret⟩ := run_handshakeAttempt_attempts w
  have hflags := run_handshakeAttempt_flags w
  rw [connectLoop]
  cases hrun : w.run handshakeAttempt with | mk a w₁
  rw [hrun] at hlog hret hflags
  have hone : ∀ a', some a = some a' → ∃ e' ∈ [e].getLast?, e'.ret = a'.ret := by
    intro a' ha'
    cases ha'
    exact ⟨e, rfl, hret⟩
  cases hagain : a.again with
  | false =>
      refine ⟨[e], by simp [hrun, hagain, hlog], ?_, by simpa [hrun, hagain] using hone⟩
      split <;> simp
  | true =>
      cases hasync : w.st.flags.async with
      | true =>
          have hasync₁ : w₁.st.flags.async = true := by rw [hflags, hasync]
          exact ⟨[e], by simp [hrun, hagain, hasync₁, hlog], by simp,
            by simp [hrun, hagain, hasync₁]⟩
      | false =>
          have hasync₁ : w₁.st.flags.async = false := by rw [hflags, hasync]
          cases retries with
          | zero =>
              exact ⟨[e], by simp [hrun, hagain, hasync₁, hlog], by simp,
                by simpa [hrun, hagain, hasync₁] using hone⟩
          | succ retries =>
              -- after the pause the loop goes on with one retry less
              obtain ⟨es, hlog', hlen, hlast⟩ := run_connectLoop_attempts retries
                ⟨w₁.st, (Env.respond (.sleep 50) w₁.env).2⟩
              rw [attempts_sleep, hlog, List.append_assoc] at hlog'
              simp only [hasync₁, Bool.false_eq_true, if_false] at hlen
              refine ⟨e :: es, by simpa [hrun, hagain, hasync₁] using hlog', ?_, fun a' ha' => ?_⟩
              · simp only [Bool.false_eq_true, if_false, List.length_cons]
                omega
              · obtain ⟨e', he', hret'⟩ := hlast a' (by simpa [hrun, hagain, hasync₁] using ha')
                refine ⟨e', ?_, hret'⟩
                rw [List.getLast?_cons, Option.mem_def.mp he']
                rfl

end Loop

/-! ## The verdict -/

/-- What a caller may rely on when a run from `w` has got to `w'` with the result
`r` and the attempts `es`. -/
structure SoundVerdict (w w' : Conn) (r : Int × Errno) (es : List Event) : Prop where
  attempts : w'.env.attempts = w.env.attempts ++ es
  bounded : es.length ≤ if w.st.flags.async then 1 else 11
  verdicts : r.1 = 1 ∨ r.1 = 0 ∨ r.1 = -1
  established_iff : r.1 = 1 ↔ w'.st.flags.init = false
  established : r.1 = 1 → r.2 = 0 ∧
    (w.st.flags.init = false ∨ ∃ e ∈ es.getLast?, 0 < e.ret)
  waiting : r.1 = 0 → r.2 = Errno.eagain ∧ w'.st.flags.init = w.st.flags.init ∧
    w'.st.flags.fatalError = w.st.flags.fatalError ∧ w'.st.flags.eof = w.st.flags.eof
  failed : r.1 = -1 → w'.st.flags.init = true ∧ w'.st.flags.eof = true

/-- The attempts of the procedure. -/
theorem run_tlsWaitForConnect_attempts (permanent : Bool) (w : Conn) :
    ∃ es : List Event,
      (w.run (tlsWaitForConnect lib permanent)).2.env.attempts = w.env.attempts ++ es ∧
      es.length ≤ (if w.st.flags.async then 1 else 11) ∧
      (w.st.flags.init = true → w.st.flags.fatalError = false →
        ∀ a, loopOutcome w.st.flags.async 10 w.env.answers.handshakes = some a →
          ∃ e ∈ es.getLast?, e.ret = a.ret) := by
  cases hinit : w.st.flags.init with
  | false => exact ⟨[], by simp [tlsWaitForConnect, hinit], by simp, by simp⟩
  | true =>
      cases hfatal : w.st.flags.fatalError with
      | true =>
          refine ⟨[], ?_, by simp, by simp⟩
          cases permanent <;> simp [tlsWaitForConnect, hinit, hfatal]
      | false =>
          obtain ⟨es, hlog, hlen, hlast⟩ := run_connectLoop_attempts 10 w
          have hloop := run_connectLoop 10 w
          refine ⟨es, ?_, hlen, fun _ _ a ha => hlast a (by rw [hloop, ha])⟩
          cases hrun : w.run (connectLoop 10) with | mk o w₁
          rw [hrun] at hlog
          cases o with
          | none => simpa [tlsWaitForConnect, hinit, hfatal, hrun] using hlog
          | some a =>
              obtain ⟨-, hwire⟩ := run_offWire (w := w₁) (connectVerdict_offWire lib a rfl)
              have hswitch := hwire.attempts
              rw [hlog] at hswitch
              simpa [tlsWaitForConnect, hinit, hfatal, hrun] using hswitch

/-- What the flags and the result of an attempt have to do with each other. -/
theorem verdict_sound (a : Answer) {f : Flags} (hinit : f.init = true) :
    (a.verdict.1 = 1 ∨ a.verdict.1 = 0 ∨ a.verdict.1 = -1) ∧
      (a.verdict.1 = 1 ↔ (a.settle f).init = false) ∧
      (a.verdict.1 = 1 → a.verdict.2 = 0 ∧ 0 < a.ret) ∧
      (a.verdict.1 = 0 → a.verdict.2 = Errno.eagain ∧ a.settle f = f) ∧
      (a.verdict.1 = -1 → (a.settle f).init = true ∧ (a.settle f).eof = true) := by
  have hnone := a.none_iff
  cases hcode : a.code with
  | none => simpa [Answer.verdict, Answer.settle, hcode] using hnone.mp hcode
  | syscall =>
      by_cases heof : a.err = 0 ∧ a.ret = 0 <;>
        simp [Answer.verdict, Answer.settle, hcode, heof, hinit]
  | _ => simp [Answer.verdict, Answer.settle, hcode, hinit]

/-- **`Tls_WaitForConnect` returns**, after at most one attempt on an asynchronous
channel and eleven on another, with a verdict that can be relied on. -/
theorem tlsWaitForConnect_sound (permanent : Bool) (w : Conn)
    (hw : w.st.flags.fatalError = true → w.st.flags.eof = true) :
    ∃ es, SoundVerdict w (w.run (tlsWaitForConnect lib permanent)).2
      (w.run (tlsWaitForConnect lib permanent)).1 es := by
  obtain ⟨es, hlog, hlen, hlast⟩ := run_tlsWaitForConnect_attempts lib permanent w
  obtain ⟨w', hrun, hflags, -⟩ := run_tlsWaitForConnect lib permanent w
  rw [hrun] at hlog ⊢
  refine ⟨es, ?_⟩
  cases hinit : w.st.flags.init with
  | false =>
      rw [connectOutcome_of_established hinit] at hflags ⊢
      refine ⟨hlog, hlen, ?_, ?_, ?_, ?_, ?_⟩ <;> simp [hflags, hinit]
  | true =>
      cases hfatal : w.st.flags.fatalError with
      | true =>
          rw [connectOutcome_of_fatal hinit hfatal] at hflags ⊢
          refine ⟨hlog, hlen, ?_, ?_, ?_, ?_, ?_⟩ <;> simp [hflags, hinit, hw hfatal]
      | false =>
          cases hloop : loopOutcome w.st.flags.async 10 w.env.answers.handshakes with
          | none =>
              rw [connectOutcome_of_waiting hinit hfatal hloop] at hflags ⊢
              refine ⟨hlog, hlen, ?_, ?_, ?_, ?_, ?_⟩ <;> simp [hflags, hinit]
          | some a =>
              rw [connectOutcome_of_decided hinit hfatal hloop] at hflags ⊢
              obtain ⟨hverdicts, hestablished, hone, hzero, hminus⟩ := verdict_sound a hinit
              obtain ⟨e, he, hret⟩ := hlast hinit hfatal a hloop
              have hsettle : w'.st.flags = a.settle w.st.flags := hflags
              rw [← hsettle] at hestablished hzero hminus
              refine ⟨hlog, hlen, hverdicts, hestablished, fun h => ?_, fun h => ?_, hminus⟩
              · obtain ⟨hcode, hpositive⟩ := hone h
                exact ⟨hcode, .inr ⟨e, he, by rw [hret]; exact hpositive⟩⟩
              · obtain ⟨hagain, hsame⟩ := hzero h
                exact ⟨hagain, by rw [hsame], by rw [hsame], by rw [hsame]⟩

/-- So it is with a peer that never answers. -/
theorem tlsWaitForConnect_sound_silent :
    ∃ es, SoundVerdict silentPeer (silentPeer.run (tlsWaitForConnect .plain true)).2
      (silentPeer.run (tlsWaitForConnect .plain true)).1 es :=
  tlsWaitForConnect_sound .plain true silentPeer (by decide)

end TclTls
