import TclTls.Cipher

/-!
# TclTls.Encrypt

Encryption of data: at once, by `EncryptDataHandler`, and through a stacked
channel that is written to.

A block cipher keeps input back until it has a whole block.  For an update that
emits nothing `EncryptOutputProc` tells the generic layer to try again, as if
it had taken nothing, and the layer repeats the chunk the context has already
consumed.  So the two ways agree when every chunk makes the context emit
something, and where outputs tell streams apart they agree only then
(`writeSide_agrees`).
-/

namespace TclTls

variable {σ : Type} (lib : CipherLibrary σ)

/-! ## Update and finalize -/

/-- `EVP_EncryptUpdate` or `EVP_DecryptUpdate` on `inl` bytes; a negative length
is refused. -/
def evpUpdate (ctx : σ) (data : List UInt8) (inl : Int) : Option (List UInt8 × σ) :=
  if inl < 0 then none else lib.stream.update ctx (data.take inl.toNat)

/-- `EncryptUpdate` -/
def encryptUpdate (ctx : σ) (data : List UInt8) (dataLen : Int) :
    Except TclError (List UInt8 × σ) :=
  match evpUpdate lib ctx data (toInt dataLen) with
  | some r => .ok r
  | none => .error ⟨"Update failed: " ++ lib.errReason, ["NONE"]⟩

/-- `EncryptFinalize` -/
def encryptFinalize (ctx : σ) : Except TclError (List UInt8) :=
  match lib.stream.finish ctx with
  | some out => .ok out
  | none => .error ⟨"Finalize failed: " ++ lib.errReason, ["NONE"]⟩

/-! ## At once -/

/-- `EncryptDataHandler` -/
def encryptDataHandler (type : Operation) (dataObj : Option Bytes) (cipherObj : Option String)
    (keyObj ivObj : Option Bytes) (padding : Bool) : Except Stop (List UInt8) :=
  match dataObj with
  | none => .error (.error ⟨"No data", ["NONE"]⟩)
  | some data => do
      let ctx ← encryptInitialize lib type cipherObj keyObj ivObj padding
      let r ← (encryptUpdate lib ctx data.data data.data.length).mapError .error
      let last ← (encryptFinalize lib r.2).mapError .error
      pure (r.1 ++ last)

/-! ## Through a channel -/

/-- `EncryptState`, as far as writing goes, with the bytes that the parent
channel has received.  `self` says whether the channel pointer is non-`NULL`,
`eof` is the flag `CHAN_EOF`. -/
structure EncryptState (σ : Type) where
  self : Bool
  eof : Bool
  ctx : σ
  channelError : Option String := none
  parent : List UInt8 := []

/-- The layer that `EncryptChannelHandler` puts on a channel. -/
def encryptChannelHandler (type : Operation) (cipherObj : Option String)
    (keyObj ivObj : Option Bytes) (padding : Bool) : Except Stop (EncryptState σ) := do
  let ctx ← encryptInitialize lib type cipherObj keyObj ivObj padding
  pure { self := true, eof := false, ctx }

/-- `EncryptOutputProc`: byte count and error code. -/
def encryptOutputProc (st : EncryptState σ) (buf : List UInt8) :
    (Int × Errno) × EncryptState σ :=
  let toWrite : Int := buf.length
  if toWrite ≤ 0 ∨ st.self = false then ((0, 0), st)
  else
    match encryptUpdate lib st.ctx buf toWrite with
    | .ok (out, ctx) =>
        if 0 < out.length then ((toWrite, 0), { st with ctx, parent := st.parent ++ out })
        else ((-1, Errno.eagain), { st with ctx })
    | .error _ =>
        ((0, Errno.einval), { st with channelError := some ("Update failed: " ++ lib.errReason) })

/-- `EncryptCloseProc` -/
def encryptCloseProc (st : EncryptState σ) : EncryptState σ :=
  if st.eof then st
  else
    match encryptFinalize lib st.ctx with
    | .ok out => { st with parent := st.parent ++ out, eof := true }
    | .error _ => { st with eof := true }

/-! ## The generic layer -/

/-- The generic layer gets rid of one chunk: it repeats it after `EAGAIN`, and
otherwise goes on after the bytes that were taken. -/
inductive Flushed : EncryptState σ → List UInt8 → EncryptState σ → Prop
  | done (st : EncryptState σ) : Flushed st [] st
  | again {st st₁ st' : EncryptState σ} {buf : List UInt8} (hbuf : buf ≠ [])
      (hout : encryptOutputProc lib st buf = ((-1, Errno.eagain), st₁))
      (hrest : Flushed st₁ buf st') : Flushed st buf st'
  | wrote {st st₁ st' : EncryptState σ} {buf : List UInt8} {n : Nat} {errno : Errno}
      (hbuf : buf ≠ []) (hout : encryptOutputProc lib st buf = (((n : Int), errno), st₁))
      (hrest : Flushed st₁ (buf.drop n) st') : Flushed st buf st'

/-- The generic layer gets rid of one chunk after the other. -/
inductive FlushedAll : EncryptState σ → List (List UInt8) → EncryptState σ → Prop
  | nil (st : EncryptState σ) : FlushedAll st [] st
  | cons {st st₁ st' : EncryptState σ} {chunk : List UInt8} {chunks : List (List UInt8)}
      (hchunk : Flushed lib st chunk st₁) (hrest : FlushedAll st₁ chunks st') :
      FlushedAll st (chunk :: chunks) st'

/-- A write of the generic layer: not empty, and its length is an `int`. -/
def Writable (chunk : List UInt8) : Prop := chunk ≠ [] ∧ chunk.length < 2 ^ 31

/-- Whenever `EncryptDataHandler` succeeds on `d`, writing the chunks and closing
the channel comes to an end, and leaves the parent with the same bytes. -/
def WriteSideAgrees (type : Operation) (cipherObj : Option String) (keyObj ivObj : Option Bytes)
    (padding : Bool) (d : Bytes) (chunks : List (List UInt8)) : Prop :=
  ∀ out st, encryptDataHandler lib type (some d) cipherObj keyObj ivObj padding = .ok out →
    encryptChannelHandler lib type cipherObj keyObj ivObj padding = .ok st →
    (∃ st', FlushedAll lib st chunks st') ∧
      ∀ st', FlushedAll lib st chunks st' → (encryptCloseProc lib st').parent = out

/-- Either the length of `d` as an `int` is negative, which `EncryptDataHandler`
refuses, or `d` is short enough for an `int` and every chunk makes the fresh
context emit something. -/
def WriteSidePrompt (type : Operation) (cipherObj : Option String) (keyObj ivObj : Option Bytes)
    (padding : Bool) (d : Bytes) (chunks : List (List UInt8)) : Prop :=
  ∀ ctx, encryptInitialize lib type cipherObj keyObj ivObj padding = .ok ctx →
    toInt d.data.length < 0 ∨ (d.data.length < 2 ^ 31 ∧ lib.stream.Prompt ctx chunks)

/-! ## What the context has consumed -/

/-- From `ctx₀` on, the context of `st` has consumed `xs`, and the parent has
received the output. -/
structure Fed (ctx₀ : σ) (st : EncryptState σ) (xs : List UInt8) : Prop where
  self : st.self = true
  eof : st.eof = false
  update : lib.stream.update ctx₀ xs = some (st.parent, st.ctx)

theorem encryptUpdate_eq (ctx : σ) {data : List UInt8} (hdata : data.length < 2 ^ 31) :
    encryptUpdate lib ctx data data.length =
      match lib.stream.update ctx data with
      | some r => .ok r
      | none => .error ⟨"Update failed: " ++ lib.errReason, ["NONE"]⟩ := by
  rw [encryptUpdate, evpUpdate, toInt_natCast hdata, if_neg (by omega), Int.toNat_natCast,
    List.take_length]

theorem encryptOutputProc_eq {st : EncryptState σ} {chunk : List UInt8} (hself : st.self = true)
    (hchunk : Writable chunk) :
    encryptOutputProc lib st chunk =
      match lib.stream.update st.ctx chunk with
      | some (out, ctx) =>
          if out = [] then ((-1, Errno.eagain), { st with ctx })
          else ((chunk.length, 0), { st with ctx, parent := st.parent ++ out })
      | none => ((0, Errno.einval),
          { st with channelError := some ("Update failed: " ++ lib.errReason) }) := by
  have hpos : 0 < chunk.length := List.length_pos_iff.mpr hchunk.1
  have hsize : ¬((chunk.length : Int) ≤ 0 ∨ st.self = false) := by
    rintro (h | h)
    · omega
    · rw [hself] at h
      contradiction
  unfold encryptOutputProc
  rw [if_neg hsize, encryptUpdate_eq lib st.ctx hchunk.2]
  cases lib.stream.update st.ctx chunk with
  | none => rfl
  | some r =>
      obtain ⟨out, ctx⟩ := r
      by_cases hout : out = []
      · simp [hout]
      · simp [hout, List.length_pos_iff.mpr hout]

theorem Fed.step {ctx₀ : σ} {st : EncryptState σ} {chunk xs out : List UInt8} {ctx : σ}
    (hst : Fed lib ctx₀ st xs) (hupdate : lib.stream.update st.ctx chunk = some (out, ctx)) :
    Fed lib ctx₀ { st with ctx, parent := st.parent ++ out } (xs ++ chunk) := by
  refine ⟨hst.self, hst.eof, ?_⟩
  rw [lib.stream.update_append, hst.update]
  simp [hupdate]

theorem Flushed.of_nil {st st' : EncryptState σ} (h : Flushed lib st [] st') : st' = st := by
  cases h with
  | done => rfl
  | again hbuf => exact absurd rfl hbuf
  | wrote hbuf => exact absurd rfl hbuf

/-- A chunk whose update emits something is consumed once, one whose update emits
nothing is consumed again. -/
theorem Flushed.fed {ctx₀ : σ} {st st' : EncryptState σ} {chunk xs : List UInt8}
    (h : Flushed lib st chunk st') (hchunk : Writable chunk) (hst : Fed lib ctx₀ st xs) :
    ∃ ys out ctx, Fed lib ctx₀ st' (xs ++ ys) ∧
      lib.stream.update st.ctx chunk = some (out, ctx) ∧
      ((out ≠ [] ∧ ys = chunk ∧ st'.ctx = ctx) ∨ (out = [] ∧ chunk.length < ys.length)) := by
  induction h generalizing xs with
  | done st => exact absurd rfl hchunk.1
  | @again st st₁ st' buf hbuf hout hrest ih =>
      rw [encryptOutputProc_eq lib hst.self hchunk] at hout
      cases hupdate : lib.stream.update st.ctx buf with
      | none => simp [hupdate, Errno.eagain] at hout
      | some r =>
          obtain ⟨out, ctx⟩ := r
          by_cases hempty : out = []
          · have hstep := hst.step lib hupdate
            simp only [hupdate, hempty, if_true, Prod.mk.injEq, true_and] at hout
            simp only [hempty, List.append_nil, hout] at hstep
            obtain ⟨ys, out₁, ctx₁, hfed, -, hys⟩ := ih hchunk hstep
            have hpos : 0 < buf.length := List.length_pos_iff.mpr hbuf
            have hlen : buf.length ≤ ys.length := by
              rcases hys with ⟨-, hys, -⟩ | ⟨-, hys⟩
              · exact Nat.le_of_eq (by rw [hys])
              · omega
            refine ⟨buf ++ ys, out, ctx, by simpa using hfed, rfl, .inr ⟨hempty, ?_⟩⟩
            rw [List.length_append]
            omega
          · simp [hupdate, hempty] at hout
  | @wrote st st₁ st' buf n errno hbuf hout hrest ih =>
      rw [encryptOutputProc_eq lib hst.self hchunk] at hout
      cases hupdate : lib.stream.update st.ctx buf with
      | none =>
          -- a failed update takes nothing, and the same update would have to succeed later
          simp only [hupdate, Prod.mk.injEq] at hout
          obtain ⟨⟨hn, -⟩, hst₁⟩ := hout
          have hzero : n = 0 := by omega
          have hfed : Fed lib ctx₀ st₁ xs := by
            rw [← hst₁]
            exact ⟨hst.self, hst.eof, hst.update⟩
          rw [hzero, List.drop_zero] at ih
          obtain ⟨_, out, ctx, -, hsome, -⟩ := ih hchunk hfed
          rw [← hst₁, hupdate] at hsome
          contradiction
      | some r =>
          obtain ⟨out, ctx⟩ := r
          by_cases hempty : out = []
          · simp [hupdate, hempty] at hout
          · simp only [hupdate, if_neg hempty, Prod.mk.injEq, Int.natCast_inj] at hout
            obtain ⟨⟨hn, -⟩, hst₁⟩ := hout
            rw [← hn, List.drop_length] at hrest
            have hend := hrest.of_nil lib
            have hstep := hst.step lib hupdate
            rw [hst₁, ← hend] at hstep
            exact ⟨buf, out, ctx, hstep, rfl, .inl ⟨hempty, rfl, by rw [hend, ← hst₁]⟩⟩

/-- The context consumes what was written, unless some chunk emits nothing: then
it consumes more. -/
theorem FlushedAll.fed {ctx₀ : σ} {st st' : EncryptState σ} {chunks : List (List UInt8)}
    {xs : List UInt8} (h : FlushedAll lib st chunks st') (hchunks : ∀ chunk ∈ chunks, Writable chunk)
    (hst : Fed lib ctx₀ st xs) :
    ∃ ys, Fed lib ctx₀ st' (xs ++ ys) ∧ chunks.flatten.length ≤ ys.length ∧
      (lib.stream.Prompt st.ctx chunks → ys = chunks.flatten) ∧
      (¬ lib.stream.Prompt st.ctx chunks → chunks.flatten.length < ys.length) := by
  induction h generalizing xs with
  | nil st => exact ⟨[], by simpa using hst, by simp, fun _ => rfl, fun h => absurd trivial h⟩
  | @cons st st₁ st' chunk chunks hchunk hrest ih =>
      obtain ⟨ys₁, out, ctx, hfed₁, hupdate, hys₁⟩ :=
        hchunk.fed lib (hchunks chunk List.mem_cons_self) hst
      obtain ⟨ys₂, hfed₂, hlen₂, hprompt₂, hrepeat₂⟩ :=
        ih (fun c hc => hchunks c (List.mem_cons_of_mem _ hc)) hfed₁
      refine ⟨ys₁ ++ ys₂, by simpa using hfed₂, ?_, ?_, ?_⟩
      all_goals simp only [List.flatten_cons, List.length_append]
      · rcases hys₁ with ⟨-, hys₁, -⟩ | ⟨-, hys₁⟩
        · rw [hys₁]
          omega
        · omega
      · intro hprompt
        obtain ⟨hout, hprompt⟩ := hprompt out ctx hupdate
        rcases hys₁ with ⟨-, hys₁, hctx⟩ | ⟨hempty, -⟩
        · rw [hys₁, hprompt₂ (hctx ▸ hprompt)]
        · exact absurd hempty hout
      · intro hslow
        rcases hys₁ with ⟨hout, hys₁, hctx⟩ | ⟨-, hys₁⟩
        · have hslow₂ : ¬ lib.stream.Prompt st₁.ctx chunks := by
            intro hprompt
            apply hslow
            intro out' ctx' hupdate'
            rw [hupdate, Option.some.injEq, Prod.mk.injEq] at hupdate'
            exact ⟨hupdate'.1 ▸ hout, hupdate'.2 ▸ hctx ▸ hprompt⟩
          have hlen := hrepeat₂ hslow₂
          rw [hys₁]
          omega
        · omega

/-- Where every chunk emits something the generic layer gets rid of them all. -/
theorem exists_flushedAll {st : EncryptState σ} {chunks : List (List UInt8)} {r : List UInt8 × σ}
    (hself : st.self = true) (hchunks : ∀ chunk ∈ chunks, Writable chunk)
    (hprompt : lib.stream.Prompt st.ctx chunks)
    (hupdate : lib.stream.update st.ctx chunks.flatten = some r) :
    ∃ st', FlushedAll lib st chunks st' := by
  induction chunks generalizing st r with
  | nil => exact ⟨st, .nil st⟩
  | cons chunk chunks ih =>
      have hchunk := hchunks chunk List.mem_cons_self
      rw [List.flatten_cons] at hupdate
      obtain ⟨out, s'⟩ := r
      obtain ⟨out₁, ctx₁, out₂, hfirst, hrest, -⟩ := lib.stream.update_of_append hupdate
      obtain ⟨hout, hprompt⟩ := hprompt out₁ ctx₁ hfirst
      have hproc := encryptOutputProc_eq lib hself hchunk
      simp only [hfirst, if_neg hout] at hproc
      have hself₁ : ({ st with ctx := ctx₁, parent := st.parent ++ out₁ } : EncryptState σ).self :=
        hself
      obtain ⟨st', hall⟩ := ih hself₁
        (fun c hc => hchunks c (List.mem_cons_of_mem _ hc)) hprompt hrest
      refine ⟨st', .cons (.wrote hchunk.1 hproc ?_) hall⟩
      rw [List.drop_length]
      exact .done _

/-! ## Agreement -/

/-- `EncryptDataHandler` gives the whole output of a fresh context for as many
bytes as the length, as an `int`, says. -/
theorem encryptDataHandler_eq_ok_iff {type : Operation} {cipherObj : Option String}
    {keyObj ivObj : Option Bytes} {padding : Bool} {d : Bytes} {ctx : σ}
    (hctx : encryptInitialize lib type cipherObj keyObj ivObj padding = .ok ctx)
    (out : List UInt8) :
    encryptDataHandler lib type (some d) cipherObj keyObj ivObj padding = .ok out ↔
      0 ≤ toInt d.data.length ∧
        lib.stream.session ctx (d.data.take (toInt d.data.length).toNat) = some out := by
  have hupdate : ∀ r, encryptUpdate lib ctx d.data d.data.length = .ok r ↔
      0 ≤ toInt d.data.length ∧
        lib.stream.update ctx (d.data.take (toInt d.data.length).toNat) = some r := by
    intro r
    rw [encryptUpdate, evpUpdate]
    by_cases hneg : toInt d.data.length < 0
    · rw [if_pos hneg]
      simp [Int.not_le.mpr hneg]
    · rw [if_neg hneg]
      cases lib.stream.update ctx (d.data.take (toInt d.data.length).toNat) <;>
        simp [Int.not_lt.mp hneg]
  have hfinish : ∀ ctx last, encryptFinalize lib ctx = .ok last ↔
      lib.stream.finish ctx = some last := by
    intro ctx last
    unfold encryptFinalize
    cases lib.stream.finish ctx <;> simp
  rw [encryptDataHandler]
  simp only [bind_eq_ok_iff, mapError_eq_ok_iff, hctx, Except.ok.injEq, exists_eq_left', hupdate,
    hfinish, Stream.Transducer.session, Option.bind_eq_some_iff, Option.map_eq_some_iff, pure,
    Except.pure, and_assoc, exists_and_left]

/-- A short `d` is read whole. -/
theorem encryptDataHandler_eq_ok_iff_of_short {type : Operation} {cipherObj : Option String}
    {keyObj ivObj : Option Bytes} {padding : Bool} {d : Bytes} (hd : d.data.length < 2 ^ 31)
    {ctx : σ} (hctx : encryptInitialize lib type cipherObj keyObj ivObj padding = .ok ctx)
    (out : List UInt8) :
    encryptDataHandler lib type (some d) cipherObj keyObj ivObj padding = .ok out ↔
      lib.stream.session ctx d.data = some out := by
  rw [encryptDataHandler_eq_ok_iff lib hctx, toInt_natCast hd, Int.toNat_natCast,
    List.take_length]
  exact and_iff_right (Int.natCast_nonneg _)

/-- Of a long `d` not all is read. -/
theorem toInt_toNat_lt {n : Nat} (hn : 2 ^ 31 ≤ n) : (toInt n).toNat < n := by
  have hlt : toInt n < 2 ^ 31 := Int.bmod_lt (by decide)
  omega

theorem encryptChannelHandler_eq_ok {type : Operation} {cipherObj : Option String}
    {keyObj ivObj : Option Bytes} {padding : Bool} {st : EncryptState σ}
    (hst : encryptChannelHandler lib type cipherObj keyObj ivObj padding = .ok st) :
    encryptInitialize lib type cipherObj keyObj ivObj padding = .ok st.ctx ∧
      Fed lib st.ctx st [] := by
  unfold encryptChannelHandler at hst
  cases hctx : encryptInitialize lib type cipherObj keyObj ivObj padding with
  | error stop => simp [hctx, bind, Except.bind] at hst
  | ok ctx =>
      simp only [hctx, bind, Except.bind, pure, Except.pure, Except.ok.injEq] at hst
      subst hst
      exact ⟨rfl, rfl, rfl, lib.stream.update_nil ctx⟩

/-- At the end the parent has received the whole output for what the context has
consumed, or the output without the last block if that cannot be made. -/
theorem Fed.close {ctx₀ : σ} {st : EncryptState σ} {xs : List UInt8} (hst : Fed lib ctx₀ st xs)
    {out : List UInt8} (hsession : lib.stream.session ctx₀ xs = some out) :
    (encryptCloseProc lib st).parent = out := by
  rw [Stream.Transducer.session, hst.update] at hsession
  cases hfinish : lib.stream.finish st.ctx with
  | none => simp [hfinish] at hsession
  | some last =>
      simp only [hfinish, Option.bind_some, Option.map_some, Option.some.injEq] at hsession
      simp [encryptCloseProc, hst.eof, encryptFinalize, hfinish, hsession]

/-- Where every chunk makes the context emit something, the two ways agree. -/
theorem agrees_of_prompt {type : Operation} {cipherObj : Option String}
    {keyObj ivObj : Option Bytes} {padding : Bool} {d : Bytes} {chunks : List (List UInt8)}
    (hd : d.data = chunks.flatten) (hchunks : ∀ chunk ∈ chunks, Writable chunk)
    (hprompt : WriteSidePrompt lib type cipherObj keyObj ivObj padding d chunks) :
    WriteSideAgrees lib type cipherObj keyObj ivObj padding d chunks := by
  intro out st hout hst
  obtain ⟨hctx, hfed⟩ := encryptChannelHandler_eq_ok lib hst
  rcases hprompt st.ctx hctx with hneg | ⟨hshort, hprompt⟩
  · rw [encryptDataHandler_eq_ok_iff lib hctx] at hout
    omega
  rw [encryptDataHandler_eq_ok_iff_of_short lib hshort hctx, hd] at hout
  refine ⟨?_, fun st' hall => ?_⟩
  · cases hupdate : lib.stream.update st.ctx chunks.flatten with
    | none => simp [Stream.Transducer.session, hupdate] at hout
    | some r => exact exists_flushedAll lib hfed.self hchunks hprompt hupdate
  · obtain ⟨ys, hfed', -, hys, -⟩ := hall.fed lib hchunks hfed
    rw [List.nil_append, hys hprompt] at hfed'
    exact hfed'.close lib hout

/-- Where outputs tell streams apart and the two ways agree on what
`EncryptDataHandler` reads of `d`, the context consumes just that. -/
theorem consumed_of_agrees {type : Operation} {cipherObj : Option String}
    {keyObj ivObj : Option Bytes} {padding : Bool} {d : Bytes} {chunks : List (List UInt8)}
    (hchunks : ∀ chunk ∈ chunks, Writable chunk) {ctx : σ}
    (hctx : encryptInitialize lib type cipherObj keyObj ivObj padding = .ok ctx)
    (hdistinct : lib.stream.Distinct ctx)
    (hagrees : WriteSideAgrees lib type cipherObj keyObj ivObj padding d chunks)
    (hnonneg : 0 ≤ toInt d.data.length) :
    chunks.flatten.length ≤ (d.data.take (toInt d.data.length).toNat).length ∧
      (¬ lib.stream.Prompt ctx chunks →
        chunks.flatten.length < (d.data.take (toInt d.data.length).toNat).length) := by
  obtain ⟨out, hout⟩ := hdistinct.total (d.data.take (toInt d.data.length).toNat)
  have hst : encryptChannelHandler lib type cipherObj keyObj ivObj padding =
      .ok { self := true, eof := false, ctx } := by
    simp [encryptChannelHandler, hctx, bind, Except.bind, pure, Except.pure]
  obtain ⟨-, hfed⟩ := encryptChannelHandler_eq_ok lib hst
  obtain ⟨⟨st', hall⟩, hparent⟩ :=
    hagrees out _ ((encryptDataHandler_eq_ok_iff lib hctx out).mpr ⟨hnonneg, hout⟩) hst
  obtain ⟨ys, hfed', hlen, -, hslow⟩ := hall.fed lib hchunks hfed
  obtain ⟨out', hout'⟩ := hdistinct.total ys
  have hsame := hparent st' hall
  rw [hfed'.close lib hout'] at hsame
  have hys : ys = d.data.take (toInt d.data.length).toNat :=
    hdistinct.injective _ _ (by rw [hout', hout, hsame])
  rw [← hys]
  exact ⟨hlen, hslow⟩

/-- Where outputs tell streams apart, the two ways agree only then. -/
theorem prompt_of_agrees {type : Operation} {cipherObj : Option String}
    {keyObj ivObj : Option Bytes} {padding : Bool} {d : Bytes} {chunks : List (List UInt8)}
    (hd : d.data = chunks.flatten) (hchunks : ∀ chunk ∈ chunks, Writable chunk)
    (hdistinct : ∀ ctx, encryptInitialize lib type cipherObj keyObj ivObj padding = .ok ctx →
      lib.stream.Distinct ctx)
    (hagrees : WriteSideAgrees lib type cipherObj keyObj ivObj padding d chunks) :
    WriteSidePrompt lib type cipherObj keyObj ivObj padding d chunks := by
  intro ctx hctx
  by_cases hneg : toInt d.data.length < 0
  · exact .inl hneg
  obtain ⟨hread, hslow⟩ := consumed_of_agrees lib hchunks hctx (hdistinct ctx hctx) hagrees
    (Int.not_lt.mp hneg)
  rw [← hd, List.length_take] at hread hslow
  have hshort : d.data.length < 2 ^ 31 := by
    apply Nat.lt_of_not_le
    intro hlong
    have hlt := toInt_toNat_lt hlong
    omega
  refine .inr ⟨hshort, Classical.byContradiction fun hnot => ?_⟩
  have hlt := hslow hnot
  omega

/-- **The write side agrees** with `EncryptDataHandler` when every chunk makes
the context emit something and the length is an `int`, or the length is refused;
and where outputs tell streams apart, only then. -/
theorem writeSide_agrees (type : Operation) (cipherObj : Option String)
    (keyObj ivObj : Option Bytes) (padding : Bool) (d : Bytes) (chunks : List (List UInt8))
    (hd : d.data = chunks.flatten) (hchunks : ∀ chunk ∈ chunks, Writable chunk) :
    (WriteSidePrompt lib type cipherObj keyObj ivObj padding d chunks →
      WriteSideAgrees lib type cipherObj keyObj ivObj padding d chunks) ∧
    ((∀ ctx, encryptInitialize lib type cipherObj keyObj ivObj padding = .ok ctx →
        lib.stream.Distinct ctx) →
      WriteSideAgrees lib type cipherObj keyObj ivObj padding d chunks →
      WriteSidePrompt lib type cipherObj keyObj ivObj padding d chunks) :=
  ⟨agrees_of_prompt lib hd hchunks, prompt_of_agrees lib hd hchunks⟩

/-- The null cipher, which needs no key and hands out what it takes. -/
def nullLibrary : CipherLibrary Unit where
  fetch name := if name = "NULL" then some ⟨name, 0, 0, Nat.zero_le _, Nat.zero_le _⟩ else none
  contextNew := true
  init _ _ := some ()
  noPadding ctx := ctx
  setKeyIv _ ctx _ _ := some ctx
  errReason := ""
  stream := Stream.ofSteps (fun s x => ([x], s)) fun _ => some []

theorem nullLibrary_session (xs : List UInt8) : nullLibrary.stream.session () xs = some xs := by
  have hsteps : Stream.steps (fun (s : Unit) (x : UInt8) => ([x], s)) () xs = (xs, ()) := by
    induction xs with
    | nil => rfl
    | cons x xs ih => simp [Stream.steps, ih]
  simp [nullLibrary, Stream.Transducer.session, Stream.ofSteps, hsteps]

theorem nullLibrary_distinct (ctx : Unit) : nullLibrary.stream.Distinct ctx where
  total xs := ⟨xs, nullLibrary_session xs⟩
  injective xs ys h := by
    have hsame := (nullLibrary_session xs).symm.trans (h.trans (nullLibrary_session ys))
    exact Option.some.inj hsame

theorem writeSide_agrees_null :
    (∀ ctx, nullLibrary.stream.Distinct ctx) ∧
      WriteSideAgrees nullLibrary .encrypt (some "NULL") none none true ⟨[1, 2, 3], by decide⟩
        [[1], [2, 3]] := by
  refine ⟨nullLibrary_distinct, (writeSide_agrees nullLibrary .encrypt (some "NULL") none none
    true ⟨[1, 2, 3], by decide⟩ [[1], [2, 3]] rfl ?_).1 ?_⟩
  · simp [Writable]
  · intro ctx _
    refine .inr ⟨by decide, ?_⟩
    intro out s' hupdate
    cases hupdate
    refine ⟨by simp, ?_⟩
    intro out s' hupdate
    cases hupdate
    exact ⟨by simp, trivial⟩

/-- A channel over `ecbLibrary` that has buffered `rest`. -/
def ecbState (rest parent : List UInt8) : EncryptState (Bool × List UInt8) where
  self := true
  eof := false
  ctx := (true, rest)
  parent := parent

/-- Sixteen bytes written as fifteen and one: either write is repeated, and the
parent receives three blocks instead of two. -/
theorem writeSide_repeats :
    ¬ WriteSideAgrees ecbLibrary .encrypt (some "aes-128-ecb")
      (some ⟨List.replicate 16 0, by decide⟩) none true ⟨List.replicate 16 0, by decide⟩
      [List.replicate 15 0, [0]] := by
  intro h
  obtain ⟨-, hparent⟩ := h (List.replicate 16 0 ++ List.replicate 16 16) (ecbState [] []) rfl rfl
  have hfirst : Flushed ecbLibrary (ecbState [] []) (List.replicate 15 0)
      (ecbState (List.replicate 14 0) (List.replicate 16 0)) :=
    .again (by decide) rfl (.wrote (by decide) rfl (.done _))
  have hsecond : Flushed ecbLibrary (ecbState (List.replicate 14 0) (List.replicate 16 0)) [0]
      (ecbState [] (List.replicate 32 0)) :=
    .again (by decide) rfl (.wrote (by decide) rfl (.done _))
  have hclose := hparent _ (.cons hfirst (.cons hsecond (.nil _)))
  exact absurd hclose (by decide)

end TclTls
