import TclTls.EncryptInstance

/-!
# TclTls.EncryptRead

A stacked encryption channel that is read from.

A read of the generic layer is a read of the parent: what it gives goes through
the context, and a read that makes the context emit nothing has to be tried
again.  The first end of file runs the final function, and a flag sees to it
that no later one does, nor closing the channel.  A read never gives more than
an `int` can count, so this side has no limit, and agrees with
`EncryptDataHandler` for the data that has none there (`readSide_agrees`).
-/

namespace TclTls

variable {σ : Type} (lib : CipherLibrary σ)

/-! ## The input procedure -/

/-- What `EncryptInputProc` does after the update. -/
def inputUpdated (st : EncryptState σ) :
    Except TclError (List UInt8 × σ) → ReadReply × EncryptState σ
  | .ok (out, ctx) =>
      if 0 < out.length then ({ result := (out.length, 0), placed := out }, { st with ctx })
      else ({ result := (-1, Errno.eagain) }, { st with ctx })
  | .error _ =>
      ({ result := (0, Errno.einval) },
        { st with channelError := some ("Update failed: " ++ lib.errReason) })

/-- What `EncryptInputProc` does after the final function. -/
def inputFinalized (st : EncryptState σ) :
    Except TclError (List UInt8) → ReadReply × EncryptState σ
  | .ok out => (.last out, { st with eof := true })
  | .error _ =>
      ({ result := (0, Errno.einval), finalized := true },
        { st with eof := true, channelError := some ("Finalize failed: " ++ lib.errReason) })

/-- `EncryptInputProc` -/
def encryptInputProc (st : EncryptState σ) (call : ReadCall) : ReadReply × EncryptState σ :=
  if call.toRead ≤ 0 ∨ st.self = false then ({ result := (0, 0) }, st)
  else
    match call.answer with
    | .data bytes _ _ => inputUpdated lib st (encryptUpdate lib st.ctx bytes bytes.length)
    | .error errno _ => ({ result := (-1, errno) }, st)
    | .eof =>
        if st.eof then ({ result := (0, 0) }, st)
        else inputFinalized lib st (encryptFinalize lib st.ctx)

/-! ## One call -/

/-- A read that gives data goes through the context. -/
theorem encryptInputProc_data {st : EncryptState σ} (hself : st.self = true) {call : ReadCall}
    (hread : 0 < call.toRead) (hdata : call.answer.bytes ≠ []) {out : List UInt8} {ctx : σ}
    (hupdate : lib.stream.update st.ctx call.answer.bytes = some (out, ctx)) :
    encryptInputProc lib st call =
      (if out = [] then { result := (-1, Errno.eagain) }
        else { result := (out.length, 0), placed := out }, { st with ctx }) := by
  have hguard : ¬(call.toRead ≤ 0 ∨ st.self = false) := by simpa [hself] using hread
  have hint := call.isInt
  rw [encryptInputProc, if_neg hguard]
  cases hanswer : call.answer with
  | eof => exact absurd (by rw [hanswer]; rfl) hdata
  | error errno nonzero => exact absurd (by rw [hanswer]; rfl) hdata
  | data bytes nonempty bounded =>
      rw [hanswer] at hupdate
      have hshort : bytes.length < 2 ^ 31 := by omega
      dsimp only
      rw [encryptUpdate_eq lib st.ctx hshort]
      simp only [RawRead.bytes] at hupdate
      rw [hupdate]
      by_cases hout : out = []
      · simp [inputUpdated, hout]
      · simp [inputUpdated, hout, List.length_pos_iff.mpr hout]

theorem encryptInputProc_again {st : EncryptState σ} (hself : st.self = true) {call : ReadCall}
    (hread : 0 < call.toRead) (hagain : call.answer = .again) :
    encryptInputProc lib st call = ({ result := (-1, Errno.eagain) }, st) := by
  rw [encryptInputProc, if_neg (by simpa [hself] using hread), hagain]
  rfl

theorem encryptInputProc_eof {st : EncryptState σ} (hself : st.self = true) (heof : st.eof = false)
    {call : ReadCall} (hcall : AtEof call) {last : List UInt8}
    (hfinish : lib.stream.finish st.ctx = some last) :
    encryptInputProc lib st call = (.last last, { st with eof := true }) := by
  obtain ⟨hread, hanswer⟩ := hcall
  rw [encryptInputProc, if_neg (by simpa [hself] using hread), hanswer]
  simp [heof, inputFinalized, encryptFinalize, hfinish]

theorem encryptInputProc_atEnd {st : EncryptState σ} (heof : st.eof = true) {call : ReadCall}
    (hcall : AtEof call) : encryptInputProc lib st call = ({ result := (0, 0) }, st) := by
  obtain ⟨-, hanswer⟩ := hcall
  unfold encryptInputProc
  rw [hanswer]
  simp [heof]

/-! ## A run of calls -/

/-- While the parent delivers, the reader receives what the context emits.  The
induction is on the calls; a call that has to be tried again may have moved the
context on all the same. -/
theorem reads_delivers {st : EncryptState σ} (hself : st.self = true) {calls : List ReadCall}
    {d : List UInt8} (hcalls : Delivers calls d) {out : List UInt8} {ctx : σ}
    (hupdate : lib.stream.update st.ctx d = some (out, ctx)) :
    (reads (encryptInputProc lib) st calls).2 = { st with ctx } ∧
      received (reads (encryptInputProc lib) st calls).1 = out ∧
      ∀ r ∈ (reads (encryptInputProc lib) st calls).1, r.finalized = false := by
  induction calls generalizing st d out with
  | nil =>
      have hd : d = [] := hcalls.2.symm
      rw [hd, lib.stream.update_nil, Option.some.injEq, Prod.mk.injEq] at hupdate
      obtain ⟨rfl, rfl⟩ := hupdate
      exact ⟨rfl, rfl, nofun⟩
  | cons call calls ih =>
      obtain ⟨hread, hanswer⟩ := hcalls.1 call List.mem_cons_self
      obtain ⟨rest, rfl, hrest⟩ := hcalls.cons
      obtain ⟨out₁, ctx₁, out₂, hfirst, hsecond, rfl⟩ := lib.stream.update_of_append hupdate
      rcases hanswer with hdata | hagain
      · have hproc := encryptInputProc_data lib hself hread hdata hfirst
        have hself₁ : ({ st with ctx := ctx₁ } : EncryptState σ).self = true := hself
        obtain ⟨hst, hreceived, hfinal⟩ := ih hself₁ hrest hsecond
        simp only [reads, hproc, received_cons]
        refine ⟨hst, ?_, ?_⟩
        · rw [hreceived]
          by_cases hout : out₁ = []
          · simp [hout, ReadReply.again]
          · simp [hout, ReadReply.again, ReadReply.returned]
        · intro r hr
          rcases List.mem_cons.mp hr with rfl | hr
          · split <;> rfl
          · exact hfinal r hr
      · have hproc := encryptInputProc_again lib hself hread hagain
        rw [hagain] at hfirst
        have hnil := (lib.stream.update_nil st.ctx).symm.trans hfirst
        rw [Option.some.injEq, Prod.mk.injEq] at hnil
        obtain ⟨rfl, rfl⟩ := hnil
        obtain ⟨hst, hreceived, hfinal⟩ := ih hself hrest hsecond
        simp only [reads, hproc, received_cons]
        refine ⟨hst, ?_, ?_⟩
        · rw [hreceived]
          simp [ReadReply.again]
        · intro r hr
          rcases List.mem_cons.mp hr with rfl | hr
          · rfl
          · exact hfinal r hr

/-! ## Agreement -/

/-- What the reader gets is `out`, and the final function is run once. -/
def ReadSideAgrees (st : EncryptState σ) (calls : List ReadCall) (out : List UInt8) : Prop :=
  ReadsOnce (encryptInputProc lib) (encryptCloseProc lib) st calls out

/-- Whatever its length, the reader receives the output for all of `d`. -/
theorem readSideAgrees_session (st : EncryptState σ) (hself : st.self = true)
    (heof : st.eof = false) {before after : List ReadCall} {d : List UInt8}
    (hbefore : Delivers before d) {call : ReadCall} (hafter : ∀ c ∈ call :: after, AtEof c)
    {out : List UInt8} (hout : lib.stream.session st.ctx d = some out) :
    ReadSideAgrees lib st (before ++ call :: after) out := by
  rw [Stream.Transducer.session, Option.bind_eq_some_iff] at hout
  obtain ⟨⟨out₁, ctx⟩, hupdate, hout⟩ := hout
  rw [Option.map_eq_some_iff] at hout
  obtain ⟨last, hfinish, rfl⟩ := hout
  obtain ⟨hst, hreceived, hfinal⟩ := reads_delivers lib hself hbefore hupdate
  have hself' : ({ st with ctx } : EncryptState σ).self = true := hself
  have hcall := encryptInputProc_eof lib hself' heof (hafter call List.mem_cons_self) hfinish
  rw [← hst] at hcall
  rw [← hreceived]
  refine readsOnce_of_eof hfinal hcall (fun c hc => ?_) ?_
  · exact encryptInputProc_atEnd lib rfl (hafter c (List.mem_cons_of_mem _ hc))
  · simp [encryptCloseProc]

/-- **The read side agrees** with `EncryptDataHandler` where that reads all of `d`,
and where outputs tell streams apart, only there. -/
theorem readSide_agrees (type : Operation) (o : CipherOptions) (d : Bytes) (out : List UInt8)
    (st : EncryptState σ) (before after : List ReadCall)
    (hout : o.dataHandler lib type d = .ok out)
    (hst : encryptChannelHandler lib type o.cipherObj o.keyObj o.ivObj o.padding = .ok st)
    (hbefore : Delivers before d.data) (hafter : after ≠ [] ∧ ∀ call ∈ after, AtEof call) :
    (Short d → ReadSideAgrees lib st (before ++ after) out) ∧
    (lib.stream.Injective st.ctx → (lib.stream.session st.ctx d.data).isSome →
      ReadSideAgrees lib st (before ++ after) out → Short d) := by
  obtain ⟨hctx, hfed⟩ := encryptChannelHandler_eq_ok lib hst
  obtain ⟨ctx, hctx', hread⟩ := Path.session_of_run lib .data trivial hout
  have hsame : ctx = st.ctx := Except.ok.inj (hctx'.symm.trans hctx)
  rw [hsame] at hread
  obtain ⟨call, after, rfl⟩ := List.exists_cons_of_ne_nil hafter.1
  constructor
  · intro hshort
    rw [(Path.read_eq_iff .data d).mpr hshort] at hread
    exact readSideAgrees_session lib st hfed.self hfed.eof hbefore hafter.2 hread
  · intro hinj hsome hagrees
    obtain ⟨out', hout'⟩ := Option.isSome_iff_exists.mp hsome
    have hall := readSideAgrees_session lib st hfed.self hfed.eof hbefore hafter.2 hout'
    have hsameOut : out' = out := hall.received.symm.trans hagrees.received
    rw [hsameOut] at hout'
    exact (Path.read_eq_iff .data d).mp (hinj _ _ out hread hout')

/-- A read of `n` bytes 0. -/
def zerosCall (n : Nat) (hpos : 0 < n) (hint : n < 2 ^ 31) : ReadCall where
  toRead := n
  isInt := by omega
  answer := .data (List.replicate n 0)
    (List.ne_nil_of_length_pos (by rw [List.length_replicate]; exact hpos))
    (by rw [List.length_replicate])

theorem readSide_agrees_null :
    ReadSideAgrees nullLibrary { self := true, eof := false, ctx := () }
      ([⟨4096, by decide, .data [1] (by decide) (by decide)⟩, ⟨4096, by decide, .again⟩,
        ⟨2, by decide, .data [2, 3] (by decide) (by decide)⟩] ++ [eofCall, eofCall]) [1, 2, 3] := by
  have hshort : Short ⟨[1, 2, 3], by decide⟩ := by
    show 3 < 2 ^ 31
    decide
  refine (readSide_agrees nullLibrary .decrypt nullOptions ⟨[1, 2, 3], by decide⟩ [1, 2, 3] _ _ _
    ?_ rfl ⟨?_, rfl⟩ ⟨List.cons_ne_nil _ _, ?_⟩).1 hshort
  · rw [dataHandler_eq _ _ _ hshort]
    rfl
  · simp [RawRead.bytes]
  · simp [AtEof, eofCall]

/-- 2^32 bytes: their number is 0 as an `int`, so `EncryptDataHandler` succeeds without
having read one, but a reader of the channel gets the output for all of them. -/
theorem readSide_disagrees :
    nullOptions.dataHandler nullLibrary .decrypt
        ⟨List.replicate (2 ^ 32) 0, by rw [List.length_replicate]; decide⟩ = .ok [] ∧
      Delivers (List.replicate 4 (zerosCall (2 ^ 30) (by decide) (by decide)))
        (List.replicate (2 ^ 32) 0) ∧
      ¬ ReadSideAgrees nullLibrary { self := true, eof := false, ctx := () }
        (List.replicate 4 (zerosCall (2 ^ 30) (by decide) (by decide)) ++ [eofCall]) [] := by
  have hdelivers : Delivers (List.replicate 4 (zerosCall (2 ^ 30) (by decide) (by decide)))
      (List.replicate (2 ^ 32) 0) := by
    constructor
    · intro call hcall
      obtain ⟨-, rfl⟩ := List.mem_replicate.mp hcall
      refine ⟨by decide, .inl fun h => ?_⟩
      have hlen := congrArg List.length h
      rw [zerosCall, RawRead.bytes, List.length_replicate] at hlen
      contradiction
    · rw [List.map_replicate]
      exact List.flatten_replicate_replicate
  have hafter : ∀ call ∈ [eofCall], AtEof call := by simp [AtEof, eofCall]
  have hall := readSideAgrees_session nullLibrary { self := true, eof := false, ctx := () } rfl rfl
    hdelivers hafter (nullLibrary_session _)
  refine ⟨?_, hdelivers, fun h => ?_⟩
  · have hzero : toInt (List.replicate (2 ^ 32) (0 : UInt8)).length = 0 := by
      rw [List.length_replicate]
      decide
    have hctx : nullOptions.context nullLibrary .decrypt = .ok () := rfl
    refine (encryptDataHandler_eq_ok_iff nullLibrary hctx []).mpr ?_
    dsimp only
    rw [hzero]
    exact ⟨Int.le_refl 0, nullLibrary_session _⟩
  · have hsame := congrArg List.length (hall.received.symm.trans h.received)
    rw [List.length_replicate] at hsame
    contradiction

end TclTls
