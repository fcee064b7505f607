import TclTls.Registration
import TclTls.Resource.Estate
import TclTls.Unimport

/-!
# TclTls.Stacks

The layers of all channels and the `State`s they are for, while a process imports,
unimports, configures and closes its channels.

`Shows` relates a process to an estate of `TclTls.Resource.Estate`, whose holders are the
channels: an import makes a `State` for one of them, or spoils it if it fails with the
layer stacked, and a layer that is taken off retires its `State`.  Every deed comes to
such events (`exists_events`), so what is kept of an estate is kept of a process
(`stacks_kept`).
-/

namespace TclTls

open Resource

/-- The `State` of a layer. -/
def Layer.statePtr : Layer → Option Nat
  | .tls p => some p
  | .other _ => none

/-- The `State`s of a channel, that of the topmost TLS layer first. -/
def Chan.statePtrs (chan : Chan) : List Nat := chan.layers.filterMap Layer.statePtr

/-! ## Deeds -/

/-- What Tcl has for a channel: the directions it is open for, and what is held back. -/
structure ChanBuffers where
  readable : Bool
  writable : Bool
  input : List UInt8
  output : List UInt8

/-- `tls::unimport` gets to `Tcl_UnstackChannel`. -/
def BufferedChan.Unstacks (chan : BufferedChan) (ans : UnstackAnswers) : Prop :=
  1 < chan.layers.length ∧ ¬(0 < chan.output.length ∧ ans.flush.ok = false)

instance (chan : BufferedChan) (ans : UnstackAnswers) : Decidable (chan.Unstacks ans) :=
  inferInstanceAs (Decidable (_ ∧ _))

namespace Process

/-- An action of `Process`, `tls::unimport`, `fconfigure`, and the stacking of a layer of
another type. -/
inductive Deed where
  | act (a : Action)
  | tlsUnimport (ans : UnstackAnswers) (buffers : Nat → ChanBuffers) (objv : List String)
  | configure (c : Nat) (setting : ChanSetting)
  | stack (c : Nat) (typeName : String)

variable (lib : TclLibrary) (st : Process)

/-- The channels with their buffers. -/
def opened (buffers : Nat → ChanBuffers) : OpenChannels where
  find := st.interp.find
  chan c :=
    { st.interp.chan c with
      readable := (buffers c).readable
      writable := (buffers c).writable
      input := (buffers c).input
      output := (buffers c).output }

/-- `tls::unimport`.  `Tcl_UnstackChannel` runs the close procedure of the layer, and when
`-blocking` is restored the other layers are told. -/
def tlsUnimport (ans : UnstackAnswers) (buffers : Nat → ChanBuffers) (objv : List String) :
    Process :=
  match unimportArgument (st.opened buffers) objv with
  | .error _ => st
  | .ok c =>
      let before := (st.opened buffers).chan c
      let after := (unimportChannel lib ans before).2
      if before.Unstacks ans then
        let st := if after.layers = before.layers then st else st.close c
        { st with
          interp := (st.interp.modifyChan c fun _ => after.toChan).blockMode c
            after.options.blocking }
      else st

def performDeed : Deed → Process
  | .act a => st.perform lib a
  | .tlsUnimport ans buffers objv => st.tlsUnimport lib ans buffers objv
  | .configure c setting => { st with interp := st.interp.setChannelOption lib c setting }
  | .stack c typeName =>
      { st with
        interp := st.interp.modifyChan c fun chan =>
          { chan with layers := .other typeName :: chan.layers } }

/-- One deed after another. -/
def runDeeds (deeds : List Deed) : Process := deeds.foldl (performDeed lib) st

end Process

/-! ## What unimporting does to the layers -/

section Unimport

variable {lib : TclLibrary} {ans : UnstackAnswers} {chan : BufferedChan} {st : Process}

/-- A command that does not get to `Tcl_UnstackChannel` leaves the channel as it is. -/
theorem unimportChannel_of_not_unstacks (h : ¬ chan.Unstacks ans) :
    (unimportChannel lib ans chan).2.toChan = chan.toChan := by
  by_cases hbase : chan.layers.length ≤ 1
  · rw [(unimportChannel_of_base lib ans hbase).2]
  · have hstacked : 1 < chan.layers.length := by omega
    have hrefused : 0 < chan.output.length ∧ ans.flush.ok = false := by
      by_contra hflushed
      exact h ⟨hstacked, hflushed⟩
    rw [(unimportChannel_of_refused lib ans hstacked hrefused).2]
    rfl

/-- Otherwise the topmost layer goes or stays. -/
theorem unimportChannel_layers (h : chan.Unstacks ans) :
    (unimportChannel lib ans chan).2.layers = chan.layers ∨
      (unimportChannel lib ans chan).2.layers = chan.layers.tail := by
  rw [unimportChannel_of_flushed lib ans h.1 h.2]
  by_cases hclogged : (chan.ready ans).writable = true ∧ ans.unstackFlush.ok = false
  · left
    rw [(unstack_of_refused ans (chan.ready ans) hclogged.1 hclogged.2).2]
    exact ready_layers ans
  · right
    rw [unstack_layers ans _ hclogged, ready_layers]

namespace Process

/-- Closing a layer takes it off its channel. -/
theorem close_chan (st : Process) (c : Nat) :
    (st.close c).interp.chan = (st.interp.modifyChan c fun chan =>
      { chan with layers := chan.layers.tail }).chan := by
  funext c'
  cases hlayers : (st.interp.chan c).layers with
  | nil =>
      have hclose : st.close c = st := by
        rw [close, hlayers]
      rw [hclose]
      by_cases hc : c' = c
      · rw [hc, Interp.modifyChan_self, hlayers, List.tail_nil, ← hlayers]
      · rw [Interp.modifyChan_other _ hc]
  | cons layer rest =>
      have hchan : (st.interp.modifyChan c fun chan => { chan with layers := rest }).chan c' =
          (st.interp.modifyChan c fun chan =>
            { chan with layers := chan.layers.tail }).chan c' := by
        by_cases hc : c' = c
        · rw [hc, Interp.modifyChan_self, Interp.modifyChan_self, hlayers, List.tail_cons]
        · rw [Interp.modifyChan_other _ hc, Interp.modifyChan_other _ hc]
      rw [close, hlayers]
      cases layer with
      | tls p => exact hchan
      | other typeName => exact hchan

theorem close_chan_other {c c' : Nat} (hc : c' ≠ c) :
    (st.close c).interp.chan c' = st.interp.chan c' := by
  rw [close_chan, Interp.modifyChan_other _ hc]

theorem close_layers (st : Process) (c : Nat) :
    ((st.close c).interp.chan c).layers = (st.interp.chan c).layers.tail := by
  rw [close_chan, Interp.modifyChan_self]

/-- **The channels of the process** are those that `UnimportObjCmd` leaves. -/
theorem tlsUnimport_chan (lib : TclLibrary) (st : Process) (ans : UnstackAnswers)
    (buffers : Nat → ChanBuffers) (objv : List String) (c' : Nat) :
    (st.tlsUnimport lib ans buffers objv).interp.chan c' =
      ((unimportObjCmd lib ans (st.opened buffers) objv).2.chan c').toChan := by
  unfold tlsUnimport unimportObjCmd
  cases unimportArgument (st.opened buffers) objv with
  | error err => rfl
  | ok c =>
      dsimp only
      by_cases hunstacks : ((st.opened buffers).chan c).Unstacks ans
      · rw [if_pos hunstacks]
        dsimp only
        rw [Interp.blockMode_chan]
        by_cases hc : c' = c
        · rw [hc, if_pos rfl, Interp.modifyChan_self]
        · rw [if_neg hc, Interp.modifyChan_other _ hc]
          split
          · rfl
          · exact close_chan_other hc
      · rw [if_neg hunstacks]
        by_cases hc : c' = c
        · rw [hc, if_pos rfl, unimportChannel_of_not_unstacks hunstacks]
          rfl
        · rw [if_neg hc]
          rfl

end Process

end Unimport

/-! ## What an import does to the layers -/

section Import

variable {lib : TclLibrary} {ans : ImportAnswers} {i i₀ : Interp} {c : Nat} {o : ImportOptions}

/-- The ways an import ends: without a layer, with a layer whose `State` is gone, and with a
layer. -/
inductive StackEffect (i : Interp) : Except TclError String × Interp → Prop
  | none {e : TclError} {i' : Interp}
      (hlayers : ∀ c, (i'.chan c).layers = (i.chan c).layers)
      (hstates : i'.states = i.states ∨ i'.states = i.states ++ [none]) :
      StackEffect i (.error e, i')
  | spoilt {e : TclError} {i' : Interp} (c : Nat)
      (hlayers : (i'.chan c).layers = .tls i.newPtr :: (i.chan c).layers)
      (hothers : ∀ c' ≠ c, (i'.chan c').layers = (i.chan c').layers)
      (hstates : i'.states = i.states ++ [none]) : StackEffect i (.error e, i')
  | made {name : String} {i' : Interp} (c : Nat) {s : State}
      (hlayers : (i'.chan c).layers = .tls i.newPtr :: (i.chan c).layers)
      (hothers : ∀ c' ≠ c, (i'.chan c').layers = (i.chan c').layers)
      (hstates : i'.states = i.states ++ [some s]) : StackEffect i (.ok name, i')

/-- The new block is there afterwards if the import succeeds, and else it is gone. -/
theorem states_importLayer {s : State} (hstates : i₀.states = i.states ++ [some s]) :
    (Fails (importLayer lib ans i₀ c i.newPtr o).1 →
        (importLayer lib ans i₀ c i.newPtr o).2.states = i.states ++ [none]) ∧
      ∀ name, (importLayer lib ans i₀ c i.newPtr o).1 = .ok name →
        ∃ s', (importLayer lib ans i₀ c i.newPtr o).2.states = i.states ++ [some s'] := by
  obtain ⟨-, hstack⟩ := states_stackLayer lib ans i₀ c i.newPtr
  rw [hstates] at hstack
  unfold importLayer
  generalize stackLayer lib ans i₀ c i.newPtr = r at hstack ⊢
  obtain ⟨result, i₁⟩ := r
  cases result with
  | error e =>
      refine ⟨fun _ => states_free_newPtr hstack, fun name h => ?_⟩
      contradiction
  | ok u =>
      cases hinit : sslInit lib ans o { i₁.deref i.newPtr with self := (i₁.chan c).name } with
      | error e =>
          simp only [hinit]
          refine ⟨fun _ => states_free_newPtr hstack, fun name h => ?_⟩
          contradiction
      | ok s' =>
          simp only [hinit]
          refine ⟨fun h => ?_, fun name h => ⟨_, states_write_of_append hstack s'⟩⟩
          obtain ⟨e, he⟩ := h
          contradiction

theorem importLayer_stackEffect {s : State} (hchan : i₀.chan = i.chan)
    (hstates : i₀.states = i.states ++ [some s]) :
    StackEffect i (importLayer lib ans i₀ c i.newPtr o) := by
  have hout := importLayer_outcome lib ans o i₀ c i.newPtr
  obtain ⟨hfails, hok⟩ := @states_importLayer lib ans i i₀ c o s hstates
  generalize importLayer lib ans i₀ c i.newPtr o = r at hout hfails hok ⊢
  have hothers : ∀ {i₁ : Interp}, (∀ c' ≠ c, i₁.chan c' = i₀.chan c') →
      ∀ c' ≠ c, (i₁.chan c').layers = (i.chan c').layers := by
    intro i₁ hsame c' hc'
    rw [hsame c' hc', hchan]
  cases hout with
  | @refused e i₁ hstack hsame hlayers hoptions =>
      refine .none (fun c' => ?_) (.inr (hfails ⟨e, rfl⟩))
      by_cases hc : c' = c
      · rw [hc, Interp.free_chan, hlayers, hchan]
      · exact hothers hsame.chan c' hc
  | @failed e i₁ hstack hsetup hsame hlayers =>
      exact .spoilt c (hlayers.trans (by rw [hchan])) (hothers hsame.chan) (hfails ⟨e, rfl⟩)
  | @imported s' i₁ hstack hsetup hsame hlayers hoptions hinit =>
      obtain ⟨s'', hs''⟩ := hok _ rfl
      exact .made c (hlayers.trans (by rw [hchan])) (hothers hsame.chan) hs''

/-- **What `tls::import` does to the layers.** -/
theorem importObjCmd_stackEffect (lib : TclLibrary) (ans : ImportAnswers) (i : Interp)
    (objv : List String) : StackEffect i (importObjCmd lib ans i objv) := by
  unfold importObjCmd
  cases hargs : importArguments lib i objv with
  | error e => exact .none (fun c => rfl) (.inl rfl)
  | ok r =>
      obtain ⟨c, o⟩ := r
      cases hctx : importContext lib ans (i.alloc (newState o)) c o with
      | error e =>
          simp only [hctx]
          exact .none (fun c => rfl) (.inr (states_free_newPtr Interp.states_alloc))
      | ok r =>
          obtain ⟨c', ctx⟩ := r
          simp only [hctx]
          exact importLayer_stackEffect rfl (states_write_newPtr _ _)

end Import

/-! ## A process as an estate -/

namespace Process

/-- The estate shows which `State`s the channels hold, which are retired, and which are there;
those that were made belong to the imports that have been finished. -/
structure Shows (st : Process) (e : Estate Nat) : Prop where
  held : ∀ c, e.held c = (st.interp.chan c).statePtrs
  retired : e.retired = st.closing
  there : e.objects.map Prod.snd = st.states.map Option.isSome
  made : ∀ p, (∃ s, (p, s) ∈ st.imported) ↔ (e.objects.map Prod.fst)[p]? = some .made

section Shows

variable {st st' : Process} {e : Estate Nat} {c p : Nat}

theorem Shows.next (h : Shows st e) : e.next = st.interp.newPtr := by
  have hlength := congrArg List.length h.there
  rw [List.length_map, List.length_map] at hlength
  exact hlength.trans Interp.length_states

/-- The layers hold the same `State`s, and the same ones are there. -/
theorem Shows.same (h : Shows st e)
    (hlayers : ∀ c, (st'.interp.chan c).statePtrs = (st.interp.chan c).statePtrs)
    (hstates : st'.states = st.states) (hclosing : st'.closing = st.closing)
    (himported : st'.imported = st.imported) : Shows st' e where
  held c := (h.held c).trans (hlayers c).symm
  retired := h.retired.trans hclosing.symm
  there := by rw [h.there, hstates]
  made p := by rw [himported, h.made p]

theorem made_add {birth : Birth} {there : Bool} :
    ((e.add birth there).objects.map Prod.fst)[p]? = some .made ↔
      (e.objects.map Prod.fst)[p]? = some .made ∨ (p = e.next ∧ birth = .made) := by
  rw [Estate.add, List.map_append, List.map_singleton]
  unfold Estate.next
  rcases Nat.lt_trichotomy p e.objects.length with hlt | rfl | hgt
  · rw [List.getElem?_append_left (by rwa [List.length_map])]
    simp [Nat.ne_of_lt hlt]
  · rw [← List.length_map (f := Prod.fst), List.getElem?_concat_length]
    simp
  · simp only [List.getElem?_append, List.length_map, Nat.not_lt_of_gt hgt, if_false]
    have hpos : 0 < p - e.objects.length := by omega
    have hnone : ([birth] : List Birth)[p - e.objects.length]? = none :=
      List.getElem?_eq_none hpos
    rw [hnone, List.getElem?_eq_none (by rw [List.length_map]; omega)]
    simp [Nat.ne_of_gt hgt]

/-- One more `State`, that is there or not. -/
theorem Shows.added (h : Shows st e) (birth : Birth) (block : Option State)
    {held : Nat → List Nat} (hheld : ∀ c, held c = (st'.interp.chan c).statePtrs)
    (hstates : st'.states = st.states ++ [block]) (hclosing : st'.closing = st.closing)
    (himported : ∀ p, (∃ s, (p, s) ∈ st'.imported) ↔
      (∃ s, (p, s) ∈ st.imported) ∨ (p = e.next ∧ birth = .made)) :
    Shows st' { e.add birth block.isSome with held := held } where
  held := hheld
  retired := h.retired.trans hclosing.symm
  there := by
    rw [hstates, List.map_append, ← h.there]
    exact List.map_append
  made p := by
    rw [himported, h.made p]
    exact made_add.symm

/-- The layers after one has been pushed. -/
theorem statePtrs_pushed (h : Shows st e)
    (hlayers : (st'.interp.chan c).layers = .tls st.interp.newPtr :: (st.interp.chan c).layers)
    (hothers : ∀ c' ≠ c, (st'.interp.chan c').layers = (st.interp.chan c').layers) (c' : Nat) :
    Function.update e.held c (e.next :: e.held c) c' = (st'.interp.chan c').statePtrs := by
  by_cases hc : c' = c
  · subst hc
    rw [Function.update_self, h.next, h.held, Chan.statePtrs, Chan.statePtrs, hlayers]
    rfl
  · rw [Function.update_of_ne hc, h.held, Chan.statePtrs, Chan.statePtrs, hothers c' hc]

theorem imported_of_error {lib : TclLibrary} {st : Process} {ans : ImportAnswers}
    {objv : List String} (err : TclError)
    (h : (importObjCmd lib (ans.numbered st.contexts) st.interp objv).1 = .error err) :
    (st.tlsImport lib ans objv).imported = st.imported := by
  unfold tlsImport
  simp only [h, List.append_nil]

/-- A finished import is noted. -/
theorem imported_of_ok {lib : TclLibrary} {st : Process} {ans : ImportAnswers}
    {objv : List String} (name : String)
    (h : (importObjCmd lib (ans.numbered st.contexts) st.interp objv).1 = .ok name) :
    ∃ s, (st.tlsImport lib ans objv).imported = st.imported ++ [(st.interp.newPtr, s)] := by
  unfold tlsImport
  simp only [h]
  exact ⟨_, rfl⟩

/-- An import makes a `State`, spoils it, wastes it, or never gets to it. -/
theorem exists_events_tlsImport (lib : TclLibrary) (h : Shows st e) (ans : ImportAnswers)
    (objv : List String) : ∃ es, Shows (st.tlsImport lib ans objv) (e.run es) := by
  have heffect := importObjCmd_stackEffect lib (ans.numbered st.contexts) st.interp objv
  have hinterp : (st.tlsImport lib ans objv).interp =
    (importObjCmd lib (ans.numbered st.contexts) st.interp objv).2 := rfl
  have hclosing : (st.tlsImport lib ans objv).closing = st.closing := rfl
  have hfailed := fun err => @imported_of_error lib st ans objv err
  have hfinished := fun name => @imported_of_ok lib st ans objv name
  generalize st.tlsImport lib ans objv = st' at *
  generalize importObjCmd lib (ans.numbered st.contexts) st.interp objv = r at *
  cases heffect with
  | @none err i' hlayers hstates =>
      have hptrs : ∀ c, (st'.interp.chan c).statePtrs = (st.interp.chan c).statePtrs := by
        intro c
        rw [hinterp, Chan.statePtrs, hlayers c]
        rfl
      have himported := hfailed err rfl
      rcases hstates with hsame | hnew
      · exact ⟨[], h.same hptrs (by rw [states, hinterp]; exact hsame) hclosing himported⟩
      · refine ⟨[.waste], h.added .wasted Option.none
          (fun c => (h.held c).trans (hptrs c).symm) (by rw [states, hinterp]; exact hnew) hclosing
          fun p => ?_⟩
        simp [himported]
  | @spoilt err i' c hlayers hothers hstates =>
      have himported := hfailed err rfl
      refine ⟨[.spoil c], h.added .spoilt Option.none
        (statePtrs_pushed h (by rw [hinterp]; exact hlayers) (by rw [hinterp]; exact hothers))
        (by rw [states, hinterp]; exact hstates) hclosing fun p => ?_⟩
      simp [himported]
  | @made name i' c s hlayers hothers hstates =>
      obtain ⟨s', himported⟩ := hfinished name rfl
      refine ⟨[.make c], h.added .made (some s)
        (statePtrs_pushed h (by rw [hinterp]; exact hlayers) (by rw [hinterp]; exact hothers))
        (by rw [states, hinterp]; exact hstates) hclosing fun p => ?_⟩
      rw [himported, h.next]
      simp [exists_or]

theorem statePtrs_cons_tls {chan : Chan} {rest : List Layer}
    (hlayers : chan.layers = .tls p :: rest) :
    chan.statePtrs = p :: rest.filterMap Layer.statePtr := by
  rw [Chan.statePtrs, hlayers]
  rfl

theorem statePtrs_cons_other {chan : Chan} {rest : List Layer} {typeName : String}
    (hlayers : chan.layers = .other typeName :: rest) :
    chan.statePtrs = rest.filterMap Layer.statePtr := by
  rw [Chan.statePtrs, hlayers]
  rfl

/-- A driver procedure leaves the layers as they are. -/
theorem exists_events_drive (h : Shows st e) (p : Nat) (s' : State) :
    ∃ es, Shows (st.drive p s') (e.run es) := by
  obtain ⟨i, hdrive, hchan, hstates⟩ := @drive_eq st p s'
  rw [hdrive]
  exact ⟨[], h.same (fun c => by rw [hchan]) hstates rfl rfl⟩

/-- A layer that goes takes nothing with it, or its `State` is retired. -/
theorem exists_events_close (h : Shows st e) (c : Nat) : ∃ es, Shows (st.close c) (e.run es) := by
  have hself : ((st.close c).interp.chan c).statePtrs =
      (st.interp.chan c).layers.tail.filterMap Layer.statePtr := by
    rw [Chan.statePtrs, close_layers]
  cases hlayers : (st.interp.chan c).layers with
  | nil =>
      have hclose : st.close c = st := by
        rw [close, hlayers]
      rw [hclose]
      exact ⟨[], h⟩
  | cons layer rest =>
      rw [hlayers, List.tail_cons] at hself
      cases layer with
      | other typeName =>
          have hrest : (st.close c).states = st.states ∧ (st.close c).closing = st.closing ∧
              (st.close c).imported = st.imported := by
            rw [close, hlayers]
            exact ⟨rfl, rfl, rfl⟩
          refine ⟨[], h.same (fun c' => ?_) hrest.1 hrest.2.1 hrest.2.2⟩
          by_cases hc : c' = c
          · rw [hc, hself, statePtrs_cons_other hlayers]
          · rw [close_chan_other hc]
      | tls p =>
          have hrest : (st.close c).states = st.states ∧ (st.close c).closing = p :: st.closing ∧
              (st.close c).imported = st.imported := by
            rw [close, hlayers]
            exact ⟨rfl, rfl, rfl⟩
          have hdrop : e.run [.drop c] =
              { e with
                held := Function.update e.held c (rest.filterMap Layer.statePtr)
                retired := p :: e.retired } := by
            show e.drop c = _
            rw [Estate.drop, h.held, statePtrs_cons_tls hlayers]
          refine ⟨[.drop c], ?_⟩
          rw [hdrop]
          refine ⟨fun c' => ?_, ?_, ?_, ?_⟩
          · by_cases hc : c' = c
            · rw [hc, hself]
              exact Function.update_self ..
            · rw [close_chan_other hc, ← h.held]
              exact Function.update_of_ne hc ..
          · rw [hrest.2.1, ← h.retired]
          · rw [hrest.1, ← h.there]
          · rw [hrest.2.2]
            exact h.made

/-- `Tls_Free` frees what is retired. -/
theorem exists_events_free (h : Shows st e) (p : Nat) : ∃ es, Shows (st.free p) (e.run es) := by
  refine ⟨[.free p], ?_⟩
  show Shows (st.free p) (e.free p)
  have hfst := Estate.map_fst_free (e := e) p
  by_cases hp : p ∈ st.closing
  · have hp' : p ∈ e.retired := h.retired ▸ hp
    have hsnd := Estate.map_snd_free hp'
    have hfree : (e.free p).held = e.held ∧ (e.free p).retired = e.retired.erase p := by
      rw [Estate.free, if_pos hp']
      exact ⟨rfl, rfl⟩
    unfold free
    rw [if_pos hp]
    refine ⟨fun c => ?_, ?_, ?_, fun q => ?_⟩
    · rw [hfree.1]
      exact h.held c
    · rw [hfree.2, h.retired]
    · show (e.free p).objects.map Prod.snd = (st.interp.free p).states.map Option.isSome
      rw [hsnd, h.there, Interp.states_free, List.map_set]
      rfl
    · rw [hfst]
      exact h.made q
  · have hp' : p ∉ e.retired := h.retired ▸ hp
    rw [free, if_neg hp, Estate.free, if_neg hp']
    exact h

theorem Shows.replaced (h : Shows st e) {chan : Chan} (c : Nat) (blocking : Bool)
    (hlayers : chan.layers = (st.interp.chan c).layers) :
    Shows { st with
      interp := (st.interp.modifyChan c fun _ => chan).blockMode c blocking } e := by
  refine h.same (fun c' => ?_) ?_ rfl rfl
  · rw [Interp.blockMode_chan]
    by_cases hc : c' = c
    · rw [hc, Interp.modifyChan_self, Chan.statePtrs, hlayers]
      rfl
    · rw [Interp.modifyChan_other _ hc]
  · exact Interp.states_blockMode blocking

/-- `tls::unimport` does what the close of the layer does, or nothing. -/
theorem exists_events_tlsUnimport (lib : TclLibrary) (h : Shows st e) (ans : UnstackAnswers)
    (buffers : Nat → ChanBuffers) (objv : List String) :
    ∃ es, Shows (st.tlsUnimport lib ans buffers objv) (e.run es) := by
  unfold tlsUnimport
  cases unimportArgument (st.opened buffers) objv with
  | error err => exact ⟨[], h⟩
  | ok c =>
      dsimp only
      by_cases hunstacks : ((st.opened buffers).chan c).Unstacks ans
      · rw [if_pos hunstacks]
        have hbefore : ((st.opened buffers).chan c).layers = (st.interp.chan c).layers := rfl
        have hafter := @unimportChannel_layers lib ans _ hunstacks
        generalize (unimportChannel lib ans ((st.opened buffers).chan c)).2 = after at hafter ⊢
        rw [hbefore] at hafter ⊢
        by_cases hsame : after.layers = (st.interp.chan c).layers
        · rw [if_pos hsame]
          exact ⟨[], h.replaced c _ hsame⟩
        · rw [if_neg hsame]
          obtain ⟨es, hes⟩ := exists_events_close h c
          refine ⟨es, hes.replaced c _ ?_⟩
          rw [hafter.resolve_left hsame]
          exact (close_layers st c).symm
      · rw [if_neg hunstacks]
        exact ⟨[], h⟩

/-- Another layer is put on a channel. -/
theorem statePtrs_stack (lib : TclLibrary) {typeName : String} {c' : Nat} :
    ((st.performDeed lib (.stack c typeName)).interp.chan c').statePtrs =
      (st.interp.chan c').statePtrs := by
  show ((st.interp.modifyChan c fun chan =>
    { chan with layers := .other typeName :: chan.layers }).chan c').statePtrs = _
  by_cases hc : c' = c
  · rw [hc, Interp.modifyChan_self]
    rfl
  · rw [Interp.modifyChan_other _ hc]

/-- **A deed** comes to events. -/
theorem exists_events (lib : TclLibrary) (h : Shows st e) (d : Deed) :
    ∃ es, Shows (st.performDeed lib d) (e.run es) := by
  cases d with
  | act a =>
      cases a with
      | tlsImport ans objv => exact exists_events_tlsImport lib h ans objv
      | drive p s' => exact exists_events_drive h p s'
      | close c => exact exists_events_close h c
      | free p => exact exists_events_free h p
  | tlsUnimport ans buffers objv => exact exists_events_tlsUnimport lib h ans buffers objv
  | configure c setting =>
      refine ⟨[], h.same (fun c' => ?_) (Interp.states_setChannelOption lib setting) rfl rfl⟩
      exact congrArg (List.filterMap Layer.statePtr) (setChannelOption_layers setting)
  | stack c typeName =>
      exact ⟨[], h.same (fun c' => statePtrs_stack lib) rfl rfl rfl⟩

/-- **Any number of deeds.** -/
theorem exists_events_run (lib : TclLibrary) (h : Shows st e) (deeds : List Deed) :
    ∃ es, Shows (st.runDeeds lib deeds) (e.run es) := by
  induction deeds generalizing st e with
  | nil => exact ⟨[], h⟩
  | cons d deeds ih =>
      obtain ⟨es, hes⟩ := exists_events lib h d
      obtain ⟨fs, hfs⟩ := ih hes
      refine ⟨es ++ fs, ?_⟩
      rw [Estate.run_append]
      exact hfs

end Shows

/-! ## What is kept -/

/-- The import that made the `State` has succeeded. -/
def Finished (st : Process) (p : Nat) : Prop := ∃ s, (p, s) ∈ st.imported

/-- A `State` belongs to one layer of one channel, or its layer is gone and it waits to be
freed.  It is there if and only if its import has succeeded, and there is no other. -/
structure StacksKept (st : Process) : Prop where
  nodup : ∀ c, (st.interp.chan c).statePtrs.Nodup
  apart : ∀ c c' p, p ∈ (st.interp.chan c).statePtrs → p ∈ (st.interp.chan c').statePtrs → c = c'
  closing_nodup : st.closing.Nodup
  closing_apart : ∀ c, ∀ p ∈ (st.interp.chan c).statePtrs, p ∉ st.closing
  live_iff : ∀ c, ∀ p ∈ (st.interp.chan c).statePtrs, st.interp.Live p ↔ st.Finished p
  closing_live_iff : ∀ p ∈ st.closing, st.interp.Live p ↔ st.Finished p
  owned : ∀ p, st.interp.Live p → p ∈ st.closing ∨ ∃ c, p ∈ (st.interp.chan c).statePtrs

section Kept

variable {st : Process} {e : Estate Nat} {p : Nat}

theorem Shows.live_iff (h : Shows st e) :
    st.interp.Live p ↔ (e.objects.map Prod.snd)[p]? = some true := by
  rw [h.there, List.getElem?_map, states, Interp.states_getElem?, Interp.Live]
  cases st.interp.heap[p]? with
  | none => simp
  | some block => cases block <;> simp

theorem Shows.live_iff_finished (h : Shows st e) (hproper : e.Proper p) :
    st.interp.Live p ↔ st.Finished p :=
  h.live_iff.trans (hproper.there_iff.trans (h.made p).symm)

/-- The process is kept in order with the estate. -/
theorem Shows.kept (h : Shows st e) (hkept : e.Kept) : st.StacksKept where
  nodup c := by
    rw [← h.held]
    exact hkept.nodup c
  apart c c' p hp hp' := by
    rw [← h.held] at hp hp'
    exact hkept.apart c c' p hp hp'
  closing_nodup := by
    rw [← h.retired]
    exact hkept.retired_nodup
  closing_apart c p hp := by
    rw [← h.held] at hp
    rw [← h.retired]
    exact hkept.retired_apart c p hp
  live_iff c p hp := by
    rw [← h.held] at hp
    exact h.live_iff_finished (hkept.held_proper c p hp)
  closing_live_iff p hp := by
    rw [← h.retired] at hp
    exact h.live_iff_finished (hkept.retired_proper p hp)
  owned p hlive := by
    have hthere := h.live_iff.mp hlive
    rw [List.getElem?_map] at hthere
    obtain ⟨⟨birth, there⟩, hobject, rfl⟩ := Option.map_eq_some_iff.mp hthere
    simp only [← h.held, ← h.retired]
    exact hkept.owned p birth hobject

theorem shows_start (find : String → Option Nat) {chan : Nat → Chan}
    (hplain : ∀ c, (chan c).statePtrs = []) : Shows (start find chan) Estate.empty where
  held c := (hplain c).symm
  retired := rfl
  there := rfl
  made p := by simp [start, Estate.empty]

end Kept

/-- **The layers of all channels and their `State`s**, after any deeds of a process that begins
without TLS channels. -/
theorem stacks_kept (lib : TclLibrary) (find : String → Option Nat) {chan : Nat → Chan}
    (hplain : ∀ c, (chan c).statePtrs = []) (deeds : List Deed) :
    ((start find chan).runDeeds lib deeds).StacksKept := by
  obtain ⟨es, hes⟩ := exists_events_run lib (shows_start find hplain) deeds
  exact hes.kept (Estate.kept_empty.run es)

/-- An import fails with its layer on the channel, and the next one puts a layer over it,
which is taken off again. -/
theorem stacks_kept_spoilt :
    ((start twoSockets oneSocket.chan).runDeeds .plain [
      .act (.tlsImport (answering (.ok ()) (.error "no memory")) ["tls::import", "sock4"]),
      .act serverImport,
      .tlsUnimport ⟨⟨true, 0⟩, ⟨true, 0⟩, 0⟩ (fun _ => ⟨true, true, [], []⟩)
        ["tls::unimport", "sock4"]]).StacksKept :=
  stacks_kept .plain twoSockets (fun _ => rfl) _

end Process

end TclTls
