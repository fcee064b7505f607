import TclTls.EncryptFile
import TclTls.EncryptRead

/-!
# TclTls.Conversion

All the ways to encrypt or decrypt: at once, by an instance command, through a
stacked channel that is written to or read from, and from file to file.

`Route.Fits` says what a way needs so as to carry a piece of data whole: lengths
that an `int` counts, chunks that make the context emit something, writes that take
all they are given.  Then each way comes to what the context makes of the data in
one session (`Route.gives_iff`), and a decryption gives back what was encrypted
(`CipherOptions.Converts.back`).
-/

namespace TclTls

variable {σ : Type} (lib : CipherLibrary σ)

/-! ## Routes -/

/-- A way to have data converted, with what the surroundings do to it. -/
inductive Route where
  /-- `-data`, or `-command` and calls of the command -/
  | path (path : Path)
  /-- `-channel`, and writes until the channel is closed -/
  | written (chunks : List (List UInt8))
  /-- `-channel`, and reads, the last of them at the end of file -/
  | read (before after : List ReadCall)
  /-- `-infile` and `-outfile` -/
  | file (files : EncryptFiles)

/-- `EncryptChannelHandler` with these options. -/
def CipherOptions.channelHandler (o : CipherOptions) (type : Operation) :
    Except Stop (EncryptState σ) :=
  encryptChannelHandler lib type o.cipherObj o.keyObj o.ivObj o.padding

/-- `EncryptFileHandler` with these options. -/
def CipherOptions.fileHandler (o : CipherOptions) (type : Operation) (files : EncryptFiles) :
    Option (Except Stop Int × Option (List UInt8)) :=
  encryptFileHandler lib type files o.cipherObj o.keyObj o.ivObj o.padding

/-- The route carries `d`, and all of it. -/
def Route.Fits (type : Operation) (o : CipherOptions) (d : Bytes) : Route → Prop
  | .path p => p.Cuts d ∧ p.Short d
  | .written chunks =>
      d.data = chunks.flatten ∧ (∀ chunk ∈ chunks, Writable chunk) ∧
        ∀ ctx, o.context lib type = .ok ctx → lib.stream.Prompt ctx chunks
  | .read before after => Delivers before d.data ∧ after ≠ [] ∧ ∀ call ∈ after, AtEof call
  | .file files =>
      files.openIn = .ok () ∧ files.openOut = .ok () ∧
        ∃ blocks, fileBlocks files.reads = some blocks ∧ blocks.flatten = d.data ∧
          ∀ ctx pieces, o.context lib type = .ok ctx → lib.stream.pieces ctx blocks = some pieces →
            files.sink.Full 0 pieces

/-- The route comes to its end without an error, and `out` is what comes out: the
result, what the parent has received, what has been read, or the output file. -/
def Route.Gives (type : Operation) (o : CipherOptions) (d : Bytes) (out : List UInt8) :
    Route → Prop
  | .path p => p.run lib type o d = .ok out
  | .written chunks =>
      ∃ st, o.channelHandler lib type = .ok st ∧ (∃ st', FlushedAll lib st chunks st') ∧
        ∀ st', FlushedAll lib st chunks st' →
          (∃ last, encryptFinalize lib st'.ctx = .ok last) ∧ (encryptCloseProc lib st').parent = out
  | .read before after =>
      ∃ st, o.channelHandler lib type = .ok st ∧ ReadSideAgrees lib st (before ++ after) out ∧
        ∀ r ∈ (reads (encryptInputProc lib) st (before ++ after)).1, r.result.2 ≠ Errno.einval
  | .file files => ∃ total, o.fileHandler lib type files = some (.ok total, some out)

/-- What the context of these options makes of the data in one session. -/
def CipherOptions.Converts (o : CipherOptions) (type : Operation) (d : Bytes)
    (out : List UInt8) : Prop :=
  ∃ ctx, o.context lib type = .ok ctx ∧ lib.stream.session ctx d.data = some out

/-! ## Each route is a session -/

section Routes

variable {lib} {type : Operation} {o : CipherOptions} {d : Bytes} {out : List UInt8}

theorem path_gives_iff {path : Path} (hcuts : path.Cuts d) (hshort : path.Short d) :
    path.run lib type o d = .ok out ↔ o.Converts lib type d out := by
  constructor
  · intro hrun
    obtain ⟨ctx, hctx, hsession⟩ := path.session_of_run lib hcuts hrun
    rw [(path.read_eq_iff d).mpr hshort] at hsession
    exact ⟨ctx, hctx, hsession⟩
  · rintro ⟨ctx, hctx, hsession⟩
    exact (path.run_eq_ok_iff lib hctx hcuts hshort).mpr hsession

/-- A fresh layer has the context that the options make. -/
theorem channelHandler_eq_ok_iff {st : EncryptState σ} :
    o.channelHandler lib type = .ok st ↔
      o.context lib type = .ok st.ctx ∧ st = { self := true, eof := false, ctx := st.ctx } := by
  unfold CipherOptions.channelHandler encryptChannelHandler CipherOptions.context
  constructor
  · intro hst
    obtain ⟨ctx, hctx, hst⟩ := bind_eq_ok_iff.mp hst
    cases hst
    exact ⟨hctx, rfl⟩
  · rintro ⟨hctx, hst⟩
    rw [hctx, ok_bind, ← hst]
    rfl

theorem exists_channelHandler {ctx : σ} (hctx : o.context lib type = .ok ctx) :
    o.channelHandler lib type = .ok { self := true, eof := false, ctx } :=
  channelHandler_eq_ok_iff.mpr ⟨hctx, rfl⟩

theorem encryptFinalize_eq_ok_iff {ctx : σ} {last : List UInt8} :
    encryptFinalize lib ctx = .ok last ↔ lib.stream.finish ctx = some last := by
  unfold encryptFinalize
  cases lib.stream.finish ctx <;> simp

theorem written_gives_iff {chunks : List (List UInt8)}
    (hfits : Route.Fits lib type o d (.written chunks)) :
    Route.Gives lib type o d out (.written chunks) ↔ o.Converts lib type d out := by
  obtain ⟨hdata, hchunks, hprompt⟩ := hfits
  constructor
  · rintro ⟨st, hst, ⟨st', hall⟩, hend⟩
    obtain ⟨hctx, hfed⟩ := encryptChannelHandler_eq_ok lib hst
    obtain ⟨ys, hfed', -, hys, -⟩ := hall.fed lib hchunks hfed
    rw [List.nil_append, hys (hprompt st.ctx hctx)] at hfed'
    obtain ⟨⟨last, hlast⟩, hparent⟩ := hend st' hall
    refine ⟨st.ctx, hctx, ?_⟩
    have hsession : lib.stream.session st.ctx chunks.flatten = some (st'.parent ++ last) :=
      lib.stream.session_eq_some_iff.mpr
        ⟨_, _, last, hfed'.update, encryptFinalize_eq_ok_iff.mp hlast, rfl⟩
    rw [hdata, hsession, ← hparent, hfed'.close lib hsession]
  · rintro ⟨ctx, hctx, hsession⟩
    rw [hdata] at hsession
    obtain ⟨-, hfed⟩ := encryptChannelHandler_eq_ok lib (exists_channelHandler hctx)
    refine ⟨_, exists_channelHandler hctx, ?_, fun st' hall => ?_⟩
    · obtain ⟨r, hupdate, -⟩ := Option.bind_eq_some_iff.mp hsession
      exact exists_flushedAll lib rfl hchunks (hprompt ctx hctx) hupdate
    · obtain ⟨ys, hfed', -, hys, -⟩ := hall.fed lib hchunks hfed
      rw [List.nil_append, hys (hprompt ctx hctx)] at hfed'
      refine ⟨?_, hfed'.close lib hsession⟩
      obtain ⟨out₁, ctx', last, hupdate, hlast, -⟩ := lib.stream.session_eq_some_iff.mp hsession
      rw [hfed'.update, Option.some.injEq, Prod.mk.injEq] at hupdate
      rw [← hupdate.2] at hlast
      exact ⟨last, encryptFinalize_eq_ok_iff.mpr hlast⟩

/-- An update that fails is reported as `EINVAL`. -/
theorem encryptInputProc_fails {st : EncryptState σ} (hself : st.self = true) {call : ReadCall}
    (hread : 0 < call.toRead) (hdata : call.answer.bytes ≠ [])
    (hupdate : lib.stream.update st.ctx call.answer.bytes = none) :
    (encryptInputProc lib st call).1.result.2 = Errno.einval := by
  have hguard : ¬(call.toRead ≤ 0 ∨ st.self = false) := by simpa [hself] using hread
  have hint := call.isInt
  rw [encryptInputProc, if_neg hguard]
  cases hanswer : call.answer with
  | eof => exact absurd (by rw [hanswer]; rfl) hdata
  | error errno nonzero => exact absurd (by rw [hanswer]; rfl) hdata
  | data bytes nonempty bounded =>
      rw [hanswer] at hupdate
      have hshort : bytes.length < 2 ^ 31 := by omega
      have hfails : lib.stream.update st.ctx bytes = none := hupdate
      dsimp only
      rw [encryptUpdate_eq lib st.ctx hshort, hfails]
      rfl

/-- Where no call reports an error the context has taken all that was delivered.  By
induction on the calls: an update that fails is reported by the call it belongs to. -/
theorem exists_update_of_reads {st : EncryptState σ} (hself : st.self = true)
    {calls : List ReadCall} {data : List UInt8} (hcalls : Delivers calls data)
    (hclean : ∀ r ∈ (reads (encryptInputProc lib) st calls).1, r.result.2 ≠ Errno.einval) :
    ∃ r, lib.stream.update st.ctx data = some r := by
  induction calls generalizing st data with
  | nil =>
      have hdata : data = [] := hcalls.2.symm
      rw [hdata, lib.stream.update_nil]
      exact ⟨_, rfl⟩
  | cons call calls ih =>
      obtain ⟨hread, hanswer⟩ := hcalls.1 call List.mem_cons_self
      obtain ⟨rest, rfl, hrest⟩ := hcalls.cons
      obtain ⟨hfirst, hlater⟩ := List.forall_mem_cons.mp hclean
      rcases hanswer with hdata | hagain
      · cases hupdate : lib.stream.update st.ctx call.answer.bytes with
        | none => exact absurd (encryptInputProc_fails hself hread hdata hupdate) hfirst
        | some r =>
            rw [encryptInputProc_data lib hself hread hdata hupdate] at hlater
            have hself' : ({ st with ctx := r.2 } : EncryptState σ).self = true := hself
            obtain ⟨r', hr'⟩ := ih hself' hrest hlater
            have hthen : lib.stream.update r.2 rest = some r' := hr'
            rw [lib.stream.update_append, hupdate, Option.bind_some]
            dsimp only
            rw [hthen]
            exact ⟨_, rfl⟩
      · rw [encryptInputProc_again lib hself hread hagain] at hlater
        rw [hagain]
        exact ih hself hrest hlater

/-- Where the context takes all that is delivered no call reports an error. -/
theorem reads_clean_of_update {st : EncryptState σ} (hself : st.self = true)
    {calls : List ReadCall} {data : List UInt8} (hcalls : Delivers calls data)
    {r : List UInt8 × σ} (hupdate : lib.stream.update st.ctx data = some r) :
    ∀ r ∈ (reads (encryptInputProc lib) st calls).1, r.result.2 ≠ Errno.einval := by
  induction calls generalizing st data r with
  | nil => exact fun r hr => nomatch hr
  | cons call calls ih =>
      obtain ⟨hread, hanswer⟩ := hcalls.1 call List.mem_cons_self
      obtain ⟨rest, rfl, hrest⟩ := hcalls.cons
      obtain ⟨out, ctx⟩ := r
      obtain ⟨out₁, ctx₁, out₂, hfirst, hsecond, -⟩ := lib.stream.update_of_append hupdate
      refine List.forall_mem_cons.mpr ?_
      rcases hanswer with hdata | hagain
      · rw [encryptInputProc_data lib hself hread hdata hfirst]
        have hself' : ({ st with ctx := ctx₁ } : EncryptState σ).self = true := hself
        refine ⟨?_, ih hself' hrest hsecond⟩
        by_cases hout : out₁ = [] <;> simp [hout, Errno.eagain, Errno.einval]
      · rw [hagain] at hfirst
        have hnil := (lib.stream.update_nil st.ctx).symm.trans hfirst
        rw [Option.some.injEq, Prod.mk.injEq] at hnil
        rw [← hnil.2] at hsecond
        rw [encryptInputProc_again lib hself hread hagain]
        refine ⟨?_, ih hself hrest hsecond⟩
        simp [Errno.eagain, Errno.einval]

/-- Nor does one at the end of file if the final function succeeds. -/
theorem reads_clean {st : EncryptState σ} (hself : st.self = true) (heof : st.eof = false)
    {before after : List ReadCall} {call : ReadCall} (hbefore : Delivers before d.data)
    (hend : ∀ c ∈ call :: after, AtEof c) (hsession : lib.stream.session st.ctx d.data = some out) :
    ∀ r ∈ (reads (encryptInputProc lib) st (before ++ call :: after)).1,
      r.result.2 ≠ Errno.einval := by
  obtain ⟨out₁, ctx, last, hupdate, hlast, -⟩ := lib.stream.session_eq_some_iff.mp hsession
  obtain ⟨hst, -, -⟩ := reads_delivers lib hself hbefore hupdate
  have hself' : ({ st with ctx } : EncryptState σ).self = true := hself
  have hcall := encryptInputProc_eof lib hself' heof (hend call List.mem_cons_self) hlast
  rw [← hst] at hcall
  have hdone : ∀ c ∈ after, encryptInputProc lib
      { (reads (encryptInputProc lib) st before).2 with eof := true } c =
        ({ result := (0, 0) }, { (reads (encryptInputProc lib) st before).2 with eof := true }) :=
    fun c hc => encryptInputProc_atEnd lib rfl (hend c (List.mem_cons_of_mem _ hc))
  rw [reads_eq_of_eof hcall hdone]
  intro r hr
  rcases List.mem_append.mp hr with hr | hr
  · exact reads_clean_of_update hself hbefore hupdate r hr
  · rcases List.mem_cons.mp hr with rfl | hr
    · simp [ReadReply.last, Errno.einval]
    · rw [(reads_of_stuck hdone).2 r hr]
      simp [Errno.einval]

theorem read_gives_iff {before after : List ReadCall}
    (hfits : Route.Fits lib type o d (.read before after)) :
    Route.Gives lib type o d out (.read before after) ↔ o.Converts lib type d out := by
  obtain ⟨hbefore, hafter, hend⟩ := hfits
  obtain ⟨call, after, rfl⟩ := List.exists_cons_of_ne_nil hafter
  constructor
  · rintro ⟨st, hst, hagrees, hclean⟩
    obtain ⟨hctx, hfresh⟩ := channelHandler_eq_ok_iff.mp hst
    have hself : st.self = true := by rw [hfresh]
    have heof : st.eof = false := by rw [hfresh]
    have hcleanBefore : ∀ r ∈ (reads (encryptInputProc lib) st before).1,
        r.result.2 ≠ Errno.einval := fun r hr =>
      hclean r (by rw [reads_append]; exact List.mem_append_left _ hr)
    obtain ⟨⟨out₁, ctx⟩, hupdate⟩ := exists_update_of_reads hself hbefore hcleanBefore
    obtain ⟨hst', -, -⟩ := reads_delivers lib hself hbefore hupdate
    have hfinish : ∃ last, lib.stream.finish ctx = some last := by
      cases hfinish : lib.stream.finish ctx with
      | some last => exact ⟨last, rfl⟩
      | none =>
          obtain ⟨hread, hanswer⟩ := hend call List.mem_cons_self
          have hreply : (encryptInputProc lib { st with ctx } call).1.result.2 = Errno.einval := by
            have hguard : ¬(call.toRead ≤ 0 ∨ st.self = false) := by simpa [hself] using hread
            rw [encryptInputProc, if_neg hguard, hanswer]
            simp [heof, inputFinalized, encryptFinalize, hfinish]
          refine absurd hreply (hclean _ ?_)
          rw [reads_append, hst']
          exact List.mem_append_right _ List.mem_cons_self
    obtain ⟨last, hlast⟩ := hfinish
    have hsession : lib.stream.session st.ctx d.data = some (out₁ ++ last) :=
      lib.stream.session_eq_some_iff.mpr ⟨_, _, last, hupdate, hlast, rfl⟩
    have hsame := (readSideAgrees_session lib st hself heof hbefore hend hsession).received
    exact ⟨st.ctx, hctx, by rw [hsession, ← hsame, hagrees.received]⟩
  · rintro ⟨ctx, hctx, hsession⟩
    refine ⟨_, exists_channelHandler hctx,
      readSideAgrees_session lib _ rfl rfl hbefore hend hsession, ?_⟩
    exact reads_clean rfl rfl hbefore hend hsession

theorem file_gives_iff {files : EncryptFiles} (hfits : Route.Fits lib type o d (.file files)) :
    Route.Gives lib type o d out (.file files) ↔ o.Converts lib type d out := by
  obtain ⟨hin, hout, blocks, hblocks, hdata, hfull⟩ := hfits
  have hok : Route.Gives lib type o d out (.file files) ↔ ∃ ctx blocks pieces,
      GoesThrough lib type files o.cipherObj o.keyObj o.ivObj o.padding ctx blocks pieces out := by
    simp only [Route.Gives, CipherOptions.fileHandler, encryptFileHandler_eq_ok_iff]
    simp
  rw [hok]
  constructor
  · rintro ⟨ctx, blocks', pieces, h⟩
    have hsame : blocks' = blocks := Option.some.inj (h.reads.symm.trans hblocks)
    subst hsame
    have hwhole := (Stream.Sink.accepted_eq_flatten_iff h.writes).mpr
      (hfull ctx pieces h.init h.converts)
    exact ⟨ctx, h.init, by rw [← hdata, hwhole, lib.stream.session_of_pieces h.converts]⟩
  · rintro ⟨ctx, hctx, hsession⟩
    obtain ⟨pieces, hpieces⟩ := lib.stream.exists_pieces (hdata ▸ hsession)
    have hfull' := hfull ctx pieces hctx hpieces
    have hwrites := Stream.Sink.accepted_of_full hfull'
    have hwhole : pieces.flatten = out := by
      rw [← hdata, lib.stream.session_of_pieces hpieces, Option.some.injEq] at hsession
      exact hsession
    rw [hwhole] at hwrites
    exact ⟨ctx, blocks, pieces, hin, hout, hctx, hblocks, hpieces, hwrites⟩

/-- **Every route is a session** of the context that the options make. -/
theorem Route.gives_iff {r : Route} (hfits : r.Fits lib type o d) :
    r.Gives lib type o d out ↔ o.Converts lib type d out := by
  cases r with
  | path p => exact path_gives_iff hfits.1 hfits.2
  | written chunks => exact written_gives_iff hfits
  | read before after => exact read_gives_iff hfits
  | file files => exact file_gives_iff hfits

end Routes

/-- **The way back**: what was encrypted is decrypted to the same data, and to nothing
else. -/
theorem CipherOptions.Converts.back {o : CipherOptions} (ho : o.Undone lib) {d c : Bytes}
    (hencrypted : o.Converts lib .encrypt d c.data) (out : List UInt8) :
    o.Converts lib .decrypt c out ↔ out = d.data := by
  obtain ⟨enc, henc, hsession⟩ := hencrypted
  obtain ⟨dec, hdec, hinverts⟩ := exists_context_decrypt lib ho henc
  have hdecrypted : lib.stream.session dec c.data = some d.data := hinverts _ _ hsession
  constructor
  · rintro ⟨dec', hdec', hout⟩
    rw [hdec, Except.ok.injEq] at hdec'
    rw [← hdec', hdecrypted, Option.some.injEq] at hout
    exact hout.symm
  · rintro rfl
    exact ⟨dec, hdec, hdecrypted⟩

end TclTls
