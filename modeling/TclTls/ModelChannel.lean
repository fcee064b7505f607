import TclTls.Import

/-!
# TclTls.ModelChannel

`-model` of `tls::import`: share the `SSL_CTX` of another channel.

`ImportObjCmd` has one variable for a channel.  It starts out as the channel to
import, and the branch for `-model` looks the model up in it; from there on the
command works on the model.  So whenever it succeeds, the new layer is on top
of the model and the channel that was to be imported is as it was
(`importObjCmd_stacks_on_model`).
-/

namespace TclTls

/-- What a successful import of the channel `c` with the model `m` should come
to: the layer is on top of `c`, and nothing has happened to the model. -/
structure ModelLeftAlone (i i' : Interp) (c m : Nat) (result : String) : Prop where
  layer : (i'.chan c).layers = .tls i.newPtr :: (i.chan c).layers
  result : result = (i'.chan c).name
  options : (i'.chan c).options = (i.chan c).options
  modelLayers : (i'.chan m).layers = (i.chan m).layers
  modelOptions : (i'.chan m).options = (i.chan m).options
  modelStates : ∀ p, .tls p ∈ (i.chan m).layers → i'.heap[p]? = i.heap[p]?

section Model

variable {lib : TclLibrary} {ans : ImportAnswers} {i i' : Interp} {objv : List String}
  {o : ImportOptions} {c m : Nat} {model result : String}

/-- The channel to stack on is the model. -/
theorem importContext_model {c' : Nat} {ctx : Option Nat} (hmodel : o.model = some model)
    (hfind : i.find model = some m) (h : importContext lib ans i c o = .ok (c', ctx)) : c' = m := by
  unfold importContext at h
  simp only [hmodel, hfind] at h
  split at h
  · exact (congrArg Prod.fst (Except.ok.inj h)).symm
  · contradiction

/-- The two are not the same list. -/
theorem layers_ne_cons (l : Layer) (ls : List Layer) : ls ≠ l :: ls := by
  intro h
  have hlen := congrArg List.length h
  simp only [List.length_cons] at hlen
  omega

/-- **`-model` is imported itself.**  If the command succeeds the channel it
names is as it was, the model has the new layer on top, and the result is the
model's name: the model is never left alone. -/
theorem importObjCmd_stacks_on_model (hargs : importArguments lib i objv = .ok (c, o))
    (hmodel : o.model = some model) (hfind : i.find model = some m) (hne : c ≠ m)
    (hok : importObjCmd lib ans i objv = (.ok result, i')) :
    i'.chan c = i.chan c ∧ (i'.chan m).layers = .tls i.newPtr :: (i.chan m).layers ∧
      result = (i'.chan m).name ∧ ¬ ModelLeftAlone i i' c m result := by
  unfold importObjCmd at hok
  simp only [hargs] at hok
  cases hctx : importContext lib ans (i.alloc (newState o)) c o with
  | error e => simp [hctx] at hok
  | ok r =>
      obtain ⟨c', ctx⟩ := r
      have hc' : c' = m := importContext_model (i := i.alloc (newState o)) hmodel hfind hctx
      subst hc'
      simp only [hctx] at hok
      have hout := importLayer_outcome lib ans o
        ((i.alloc (newState o)).write i.newPtr { newState o with ctx := ctx }) c' i.newPtr
      rw [hok] at hout
      cases hout with
      | imported hstack hsetup hsame hlayers hoptions hinit =>
          rename_i s i₁
          have hchan : (i₁.write i.newPtr s).chan c = i.chan c := hsame.chan c hne
          refine ⟨hchan, hlayers, rfl, fun halone => ?_⟩
          have hlayer := halone.layer
          rw [hchan] at hlayer
          exact layers_ne_cons _ _ hlayer

end Model

/-- An interpreter with a socket and a TLS channel. -/
def socketAndModel : Interp where
  find name := if name = "sock4" then some 0 else if name = "model5" then some 1 else none
  chan c := ⟨if c = 0 then "sock4" else "model5",
    if c = 0 then [.other "tcp"] else [.tls 0, .other "tcp"],
    ⟨(.auto, .crlf), "utf-8", (none, none), true⟩⟩
  heap := [some { ctx := some 1 }]

/-- Importing `sock4` with the model `model5` is no import of `sock4`. -/
theorem importObjCmd_model5 :
    ∃ i', importObjCmd .plain (answering (.ok ()) (.ok ())) socketAndModel
        ["tls::import", "sock4", "-model", "model5"] = (.ok "model5", i') ∧
      ¬ ModelLeftAlone socketAndModel i' 0 1 "model5" := by
  refine ⟨_, rfl, fun halone => ?_⟩
  exact absurd halone.layer (by decide)

/-- It stacks a second layer on `model5`. -/
theorem importObjCmd_stacks_on_model5 :
    ∃ i', (i'.chan 1).layers = [.tls 1, .tls 0, .other "tcp"] ∧
      i'.chan 0 = socketAndModel.chan 0 ∧ ¬ ModelLeftAlone socketAndModel i' 0 1 "model5" := by
  have hargs : importArguments .plain socketAndModel ["tls::import", "sock4", "-model", "model5"] =
      .ok (0, { model := some "model5" }) := rfl
  obtain ⟨hchan, hlayers, -, hnot⟩ := importObjCmd_stacks_on_model (m := 1) hargs rfl rfl (by decide)
    (rfl : importObjCmd .plain (answering (.ok ()) (.ok ())) _ _ = (.ok "model5", _))
  exact ⟨_, hlayers, hchan, hnot⟩

end TclTls
