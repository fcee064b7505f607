import TclTls.Digest

/-!
# TclTls.DigestFailure

What becomes of a failed update.

`DigestUpdate` returns `TCL_ERROR` only to a caller that wants a message.  The
channel procedures do not want one, so for them a failed update is none, and the
digest they finally hand out lacks a chunk.  An instance command reports the
failure, but lives on, and a later `finalize` hands out such a digest too
(`digest_failure_surfaces`).
-/

namespace TclTls

variable {σ : Type} (lib : DigestLibrary σ)

/-! ## Reports -/

/-- A call of `DigestUpdate`. -/
structure UpdateCall (σ : Type) where
  st : DigestState σ
  buf : List UInt8
  doResult : Bool

/-- The library reports that the update has failed. -/
def UpdateCall.LibraryFails (u : UpdateCall σ) : Prop :=
  (lib.update u.st.type u.st.ctx u.buf).1 = false

/-- What `DigestUpdate` returns. -/
def UpdateCall.result (u : UpdateCall σ) : Except TclError Unit :=
  (digestUpdate lib u.st u.buf u.doResult).1

/-- What there is to say about a call of a command or of the driver: the updates it
makes, whether it reports an error, and the digest it hands out, as its result, in
the buffer or to the parent. -/
structure CallReport (σ : Type) where
  updates : List (UpdateCall σ)
  reported : Bool
  digest : Option (List UInt8)

/-- In every call in which an update fails `DigestUpdate` returns `TCL_ERROR` and the
call reports an error, and neither that call nor a later one hands out a digest. -/
def Surfaces : List (CallReport σ) → Prop
  | [] => True
  | r :: rs =>
      (∀ u ∈ r.updates, u.LibraryFails lib →
        Fails (u.result lib) ∧ r.reported = true ∧ ∀ r' ∈ r :: rs, r'.digest = none) ∧
      Surfaces rs

/-- The library reports no failure. -/
def NoUpdateFails (rs : List (CallReport σ)) : Prop :=
  ∀ r ∈ rs, ∀ u ∈ r.updates, ¬ u.LibraryFails lib

/-- The report of a command that ends with `res`. -/
def commandReport (updates : List (UpdateCall σ)) (res : Except TclError (List UInt8))
    (handsOut : Bool) : CallReport σ where
  updates := updates
  reported := !res.isOk
  digest := if handsOut then res.toOption else none

/-- `DigestDataHandler` -/
def dataReport (o : DigestOptions) (d : Bytes) : CallReport σ :=
  commandReport
    (match digestInitialize lib o with
      | .ok st => [⟨st, d.data, true⟩]
      | .error _ => [])
    (digestDataHandler lib o d) true

/-- The updates of the loop in `DigestFileHandler`. -/
def fileLoopUpdates : DigestState σ → List (RawRead bufferSize) → List (UpdateCall σ)
  | _, [] => []
  | _, .eof :: _ => []
  | st, .error _ _ :: answers => fileLoopUpdates st answers
  | st, .data bytes _ _ :: answers =>
      ⟨st, bytes, true⟩ ::
        if (digestUpdate lib st bytes true).1.isOk then
          fileLoopUpdates (digestUpdate lib st bytes true).2 answers
        else []

/-- `DigestFileHandler` -/
def fileReport (o : DigestOptions) (file : FileAnswers) (res : Except TclError (List UInt8)) :
    CallReport σ :=
  commandReport
    (match (do file.openChannel; file.setTranslation; digestInitialize lib o) with
      | .ok st => fileLoopUpdates lib st file.reads
      | .error _ => [])
    res true

/-- The calls of an instance command, from creation on or from any later point. -/
def instanceReports : Option (DigestState σ) → List (List Obj) → List (CallReport σ)
  | some st, objv :: calls =>
      let r := digestInstanceObjCmd lib st objv
      (match instanceArguments objv with
        | .ok (.update data) => commandReport [⟨st, data.data, true⟩] r.1 false
        | .ok .finalize => commandReport [] r.1 true
        | .error _ => commandReport [] r.1 false) :: instanceReports r.2 calls
  | _, _ => []

/-- What the generic layer asks of a stacked channel. -/
inductive ChannelCall where
  | input (call : ReadCall)
  | output (buf : List UInt8)
  | close

/-- The driver reports an error to the generic layer. -/
def reportsError (result : Int × Errno) : Bool := result.2 ≠ 0 ∧ result.2 ≠ Errno.eagain

/-- The calls of the channel driver, in any order, until the channel is closed. -/
def channelReports : DigestState σ → List ChannelCall → List (CallReport σ)
  | _, [] => []
  | st, .input call :: calls =>
      let r := digestInputProc lib st call
      { updates :=
          if call.toRead ≤ 0 ∨ st.self = false then []
          else match call.answer with
            | .data bytes _ _ => [⟨st, bytes, false⟩]
            | _ => []
        reported := reportsError r.1.result
        digest := if r.1.finalized ∧ r.1.result.2 = 0 then some r.1.placed else none } ::
        channelReports r.2 calls
  | st, .output buf :: calls =>
      let r := digestOutputProc lib st buf
      { updates := if (buf.length : Int) ≤ 0 ∨ st.self = false then [] else [⟨st, buf, false⟩]
        reported := reportsError r.1
        digest := none } :: channelReports r.2 calls
  | st, .close :: _ =>
      [{ updates := []
         reported := false
         digest := if st.eof then none else (digestFinalize lib st).1.toOption }]

/-! ## Updates that fail -/

/-- `DigestUpdate` tells only a caller who wants a message. -/
theorem fails_digestUpdate_iff {st : DigestState σ} {buf : List UInt8} {doResult : Bool}
    (hfail : (lib.update st.type st.ctx buf).1 = false) :
    Fails (digestUpdate lib st buf doResult).1 ↔ doResult = true := by
  cases doResult <;> simp [digestUpdate, hfail]

theorem UpdateCall.fails_result_iff {u : UpdateCall σ} (hfail : u.LibraryFails lib) :
    Fails (u.result lib) ↔ u.doResult = true :=
  fails_digestUpdate_iff lib hfail

theorem digestUpdate_of_fails {st : DigestState σ} {buf : List UInt8}
    (hfail : (lib.update st.type st.ctx buf).1 = false) :
    (digestUpdate lib st buf true).1 =
      .error ⟨"Update failed: " ++ lib.errReason, ["NONE"]⟩ := by
  simp [digestUpdate, hfail]

theorem digestUpdate_of_succeeds {st : DigestState σ} {buf : List UInt8} (doResult : Bool)
    (hok : ¬ (lib.update st.type st.ctx buf).1 = false) :
    (digestUpdate lib st buf doResult).1 = .ok () := by
  rw [Bool.not_eq_false] at hok
  simp [digestUpdate, hok]

/-- A command that fails when one of its updates does, where it wants a message. -/
theorem surfaces_commandReport {updates : List (UpdateCall σ)}
    {res : Except TclError (List UInt8)} {handsOut : Bool}
    (hmessage : ∀ u ∈ updates, u.doResult = true)
    (hfails : ∀ u ∈ updates, u.LibraryFails lib → Fails res) :
    Surfaces lib [commandReport updates res handsOut] := by
  refine ⟨fun u hu hlib => ?_, trivial⟩
  obtain ⟨e, rfl⟩ := hfails u hu hlib
  refine ⟨(u.fails_result_iff lib hlib).mpr (hmessage u hu), rfl, ?_⟩
  intro r hr
  rw [List.mem_singleton.mp hr]
  cases handsOut <;> rfl

theorem surfaces_commandReport_nil {res : Except TclError (List UInt8)} {handsOut : Bool} :
    Surfaces lib [commandReport [] res handsOut] :=
  surfaces_commandReport lib (List.forall_mem_nil _) (List.forall_mem_nil _)

theorem surfaces_dataReport (o : DigestOptions) (d : Bytes) :
    Surfaces lib [dataReport lib o d] := by
  rw [dataReport, digestDataHandler]
  cases hst : digestInitialize lib o with
  | error e => exact surfaces_commandReport_nil lib
  | ok st =>
      refine surfaces_commandReport lib ?_ ?_
      · intro u hu
        rw [List.mem_singleton.mp hu]
      · intro u hu hlib
        rw [List.mem_singleton.mp hu] at hlib
        have hres := digestUpdate_of_fails lib hlib
        cases hupdate : digestUpdate lib st d.data true with
        | mk res st' =>
            simp only [hupdate] at hres
            simp only [ok_bind, hupdate, hres]
            exact ⟨_, rfl⟩

/-! ## Files -/

theorem fileLoopUpdates_doResult (st : DigestState σ) (answers : List (RawRead bufferSize)) :
    ∀ u ∈ fileLoopUpdates lib st answers, u.doResult = true := by
  induction answers generalizing st with
  | nil => exact List.forall_mem_nil _
  | cons answer answers ih =>
      cases answer with
      | eof => exact List.forall_mem_nil _
      | error errno nonzero => exact ih st
      | data bytes nonempty bounded =>
          rw [fileLoopUpdates]
          refine List.forall_mem_cons.mpr ⟨rfl, ?_⟩
          split
          · exact ih _
          · exact List.forall_mem_nil _

/-- The loop ends with the first update that fails.  The induction is on the
answers; a read that fails changes nothing. -/
theorem digestFileLoop_of_fails {st : DigestState σ} {answers : List (RawRead bufferSize)}
    {u : UpdateCall σ} (hu : u ∈ fileLoopUpdates lib st answers) (hlib : u.LibraryFails lib) :
    ∃ e, digestFileLoop lib st answers = some (.error e) := by
  induction answers generalizing st with
  | nil => exact absurd hu (List.not_mem_nil)
  | cons answer answers ih =>
      cases answer with
      | eof => exact absurd hu (List.not_mem_nil)
      | error errno nonzero => exact ih hu
      | data bytes nonempty bounded =>
          rw [digestFileLoop]
          by_cases hfirst : (lib.update st.type st.ctx bytes).1 = false
          · have hres := digestUpdate_of_fails lib hfirst
            simp only [hres]
            exact ⟨_, rfl⟩
          · have hres := digestUpdate_of_succeeds lib true hfirst
            simp only [fileLoopUpdates, hres] at hu
            simp only [hres]
            rcases List.mem_cons.mp hu with rfl | hu
            · exact absurd hlib hfirst
            · exact ih hu

theorem surfaces_fileReport {o : DigestOptions} {file : FileAnswers}
    {res : Except TclError (List UInt8)} (hres : digestFileHandler lib o file = some res) :
    Surfaces lib [fileReport lib o file res] := by
  rw [digestFileHandler] at hres
  rw [fileReport]
  cases hopen : file.openChannel with
  | error e => exact surfaces_commandReport_nil lib
  | ok _ =>
      rw [hopen] at hres
      rw [ok_bind]
      rw [digestOpenFile] at hres
      cases hst : (do file.setTranslation; digestInitialize lib o : Except TclError _) with
      | error e => exact surfaces_commandReport_nil lib
      | ok st =>
          rw [hst] at hres
          refine surfaces_commandReport lib (fileLoopUpdates_doResult lib st file.reads) ?_
          intro u hu hlib
          obtain ⟨e, hloop⟩ := digestFileLoop_of_fails lib hu hlib
          simp only [hloop, Option.map_some, Option.some.injEq] at hres
          rw [← hres]
          cases file.close <;> exact ⟨_, rfl⟩

/-! ## Instance commands -/

/-- In the rest of the script the library finalizes nothing. -/
def FinalizesNothing : Option (DigestState σ) → List (List Obj) → Prop
  | some st, objv :: calls =>
      (instanceArguments objv = .ok .finalize → (digestFinal lib st).1 = none) ∧
        FinalizesNothing (digestInstanceObjCmd lib st objv).2 calls
  | _, _ => True

/-- The library finalizes nothing after an update that has failed. -/
def AbandonsFailures : Option (DigestState σ) → List (List Obj) → Prop
  | some st, objv :: calls =>
      (∀ data, instanceArguments objv = .ok (.update data) →
        (lib.update st.type st.ctx data.data).1 = false →
          FinalizesNothing lib (digestInstanceObjCmd lib st objv).2 calls) ∧
      AbandonsFailures (digestInstanceObjCmd lib st objv).2 calls
  | _, _ => True

theorem digestFinalize_toOption (st : DigestState σ) :
    (digestFinalize lib st).1.toOption = (digestFinal lib st).1.map st.format.print := by
  rw [digestFinalize]
  cases (digestFinal lib st).1 <;> rfl

/-- A script gets no digest exactly where nothing is finalized. -/
theorem instanceReports_silent_iff (st : Option (DigestState σ)) (calls : List (List Obj)) :
    (∀ r ∈ instanceReports lib st calls, r.digest = none) ↔ FinalizesNothing lib st calls := by
  induction calls generalizing st with
  | nil => cases st <;> simp [instanceReports, FinalizesNothing]
  | cons objv calls ih =>
      cases st with
      | none => simp [instanceReports, FinalizesNothing]
      | some st =>
          rw [instanceReports, FinalizesNothing, List.forall_mem_cons, ih]
          refine and_congr ?_ Iff.rfl
          cases hargs : instanceArguments objv with
          | error e => simp [commandReport]
          | ok call =>
              cases call with
              | update data => simp [commandReport]
              | finalize =>
                  simp [commandReport, digestInstanceObjCmd, hargs, digestFinalize_toOption]

/-- By induction on the calls: of a call only an update can fail, and then it is the
rest of the script that matters. -/
theorem surfaces_instanceReports_iff (st : Option (DigestState σ)) (calls : List (List Obj)) :
    Surfaces lib (instanceReports lib st calls) ↔ AbandonsFailures lib st calls := by
  induction calls generalizing st with
  | nil => cases st <;> simp [instanceReports, AbandonsFailures, Surfaces]
  | cons objv calls ih =>
      cases st with
      | none => simp [instanceReports, AbandonsFailures, Surfaces]
      | some st =>
          rw [instanceReports, AbandonsFailures, Surfaces, ih]
          refine and_congr ?_ Iff.rfl
          simp only [List.forall_mem_cons, instanceReports_silent_iff]
          cases hargs : instanceArguments objv with
          | error e => simp [commandReport]
          | ok call =>
              cases call with
              | finalize => simp [commandReport]
              | update data =>
                  have hfails : UpdateCall.LibraryFails lib ⟨st, data.data, true⟩ →
                      Fails (UpdateCall.result lib ⟨st, data.data, true⟩) ∧
                        (commandReport [⟨st, data.data, true⟩]
                          (digestInstanceObjCmd lib st objv).1 false).reported = true := by
                    intro hlib
                    refine ⟨(UpdateCall.fails_result_iff lib hlib).mpr rfl, ?_⟩
                    simp only [commandReport, digestInstanceObjCmd, hargs,
                      digestUpdate_of_fails lib hlib]
                    rfl
                  simp only [commandReport] at hfails ⊢
                  simp only [List.mem_singleton, forall_eq, Except.ok.injEq,
                    InstanceCall.update.injEq, forall_eq']
                  refine forall_congr' fun hlib => ?_
                  simp [hfails hlib]

/-! ## Channels -/

theorem Surfaces.fails_result {rs : List (CallReport σ)} (h : Surfaces lib rs)
    {r : CallReport σ} (hr : r ∈ rs) {u : UpdateCall σ} (hu : u ∈ r.updates)
    (hlib : u.LibraryFails lib) : Fails (u.result lib) := by
  induction rs with
  | nil => exact absurd hr (List.not_mem_nil)
  | cons r' rs ih =>
      obtain ⟨hfirst, hrest⟩ := h
      rcases List.mem_cons.mp hr with rfl | hr
      · exact (hfirst u hu hlib).1
      · exact ih hrest hr

theorem surfaces_of_noUpdateFails {rs : List (CallReport σ)} (h : NoUpdateFails lib rs) :
    Surfaces lib rs := by
  induction rs with
  | nil => trivial
  | cons r rs ih =>
      refine ⟨fun u hu hlib => absurd hlib (h r List.mem_cons_self u hu), ?_⟩
      exact ih fun r' hr' => h r' (List.mem_cons_of_mem _ hr')

/-- The driver never wants a message. -/
theorem channelReports_doResult (st : DigestState σ) (calls : List ChannelCall) :
    ∀ r ∈ channelReports lib st calls, ∀ u ∈ r.updates, u.doResult = false := by
  induction calls generalizing st with
  | nil => exact List.forall_mem_nil _
  | cons call calls ih =>
      cases call with
      | close => simp [channelReports]
      | input call =>
          refine List.forall_mem_cons.mpr ⟨?_, ih _⟩
          dsimp only
          split
          · exact List.forall_mem_nil _
          · split <;> simp
      | output buf =>
          refine List.forall_mem_cons.mpr ⟨?_, ih _⟩
          dsimp only
          split <;> simp

theorem surfaces_channelReports_iff (st : DigestState σ) (calls : List ChannelCall) :
    Surfaces lib (channelReports lib st calls) ↔ NoUpdateFails lib (channelReports lib st calls) := by
  refine ⟨fun h r hr u hu hlib => ?_, surfaces_of_noUpdateFails lib⟩
  have hmessage := (u.fails_result_iff lib hlib).mp (h.fails_result lib hr hu hlib)
  rw [channelReports_doResult lib st calls r hr u hu] at hmessage
  contradiction

/-! ## Where failures surface -/

/-- **Where a failed update surfaces**: always when data or a file is digested; with
an instance command if nothing is finalized afterwards; on a channel never. -/
theorem digest_failure_surfaces :
    (∀ (st : DigestState σ) buf doResult, (lib.update st.type st.ctx buf).1 = false →
      (Fails (digestUpdate lib st buf doResult).1 ↔ doResult = true)) ∧
    (∀ o d, Surfaces lib [dataReport lib o d]) ∧
    (∀ o file res, digestFileHandler lib o file = some res →
      Surfaces lib [fileReport lib o file res]) ∧
    (∀ st calls, Surfaces lib (instanceReports lib st calls) ↔ AbandonsFailures lib st calls) ∧
    (∀ st calls, Surfaces lib (channelReports lib st calls) ↔
      NoUpdateFails lib (channelReports lib st calls)) := by
  refine ⟨fun st buf doResult hfail => fails_digestUpdate_iff lib hfail, surfaces_dataReport lib,
    fun o file res hres => surfaces_fileReport lib hres, ?_, ?_⟩
  · exact surfaces_instanceReports_iff lib
  · exact surfaces_channelReports_iff lib

/-- `md5Library`, but it cannot update a context with the byte 0. -/
def faultyLibrary : DigestLibrary (List UInt8) :=
  { md5Library with
    update := fun _ ctx data => if data = [0] then (false, ctx) else (true, ctx ++ data) }

/-- "abc" read from the parent with a byte 0 before it, of which the library makes
nothing: the reader gets the digest of "abc", and no error. -/
theorem digest_failure_swallowed :
    ∃ st, digestChannelHandler faultyLibrary (md5Options .hex) = .ok st ∧
      ¬ Surfaces faultyLibrary (channelReports faultyLibrary st
        [.input ⟨1, by decide, .data [0] (by decide) (by decide)⟩,
          .input ⟨4096, by decide, .data [0x61, 0x62, 0x63] (by decide) (by decide)⟩,
          .input eofCall]) := by
  refine ⟨_, rfl, fun h => ?_⟩
  obtain ⟨⟨e, he⟩, -, -⟩ := h.1 _ List.mem_cons_self rfl
  contradiction

end TclTls
