import TclTls.Import.Interp

/-!
# TclTls.Unimport

`UnimportObjCmd`, the command `tls::unimport`: it takes the topmost layer off a
channel and gives the channel the options that it had before.

The layer is meant to be a TLS one, but its type is not looked at: any layer is
taken off.  `unimportObjCmd_endsTls_iff` says for which channels the command
does what is documented all the same.  These are, beside the ones with a TLS
layer on top and those that are not stacked at all, the channels whose output
can not be flushed.
-/

namespace TclTls

/-! ## Channels with buffers -/

/-- A channel with the bytes that Tcl holds back for it. -/
structure BufferedChan extends Chan where
  readable : Bool
  writable : Bool
  input : List UInt8
  output : List UInt8

/-- The channels by name and by token. -/
structure OpenChannels where
  find : String → Option Nat
  chan : Nat → BufferedChan

/-- How a flush ends: whether it succeeds, and how many bytes have been written. -/
structure FlushAnswer where
  ok : Bool
  written : Nat
deriving DecidableEq, Repr

/-- What the layers below and the driver of the topmost one answer: to
`Tcl_Flush`, to the flush that `Tcl_UnstackChannel` begins with, and when the
layer is closed. -/
structure UnstackAnswers where
  flush : FlushAnswer
  unstackFlush : FlushAnswer
  close : Int
deriving DecidableEq, Repr

namespace BufferedChan

variable (chan : BufferedChan)

/-- What a flush leaves. -/
def flushed (a : FlushAnswer) : BufferedChan := { chan with output := chan.output.drop a.written }

/-- `Tcl_UnstackChannel` on a stacked channel: flush it, discard its input, and
close the topmost layer, which is gone even if closing it fails. -/
def unstack (ans : UnstackAnswers) : Except TclError Unit × BufferedChan :=
  if chan.writable && !ans.unstackFlush.ok then
    (.error ⟨"could not flush channel \"" ++ chan.name ++ "\"", ["NONE"]⟩,
      chan.flushed ans.unstackFlush)
  else
    let rest := if chan.writable then chan.flushed ans.unstackFlush else chan
    (if ans.close = 0 then .ok () else .error ⟨"", ["NONE"]⟩,
      { rest with
        layers := rest.layers.tail
        input := if rest.readable then [] else rest.input })

/-- The options of the channel, in the order in which they are restored. -/
def savedOptions : List ChanSetting :=
  [.encoding chan.options.encoding, .eofchar chan.options.eofchar,
    .translation chan.options.translation, .blocking chan.options.blocking]

/-- `Tcl_SetChannelOption`, once for each setting. -/
def restore (lib : TclLibrary) (saved : List ChanSetting) : BufferedChan :=
  { chan with options := saved.foldl (ChanOptions.set lib) chan.options }

end BufferedChan

variable (lib : TclLibrary) (ans : UnstackAnswers)

/-! ## The command -/

/-- The channel `objv[1]` names. -/
def unimportArgument (i : OpenChannels) : List String → Except TclError Nat
  | [_, name] =>
      match i.find name with
      | none => .error (.noChannel name)
      | some c => .ok c
  | objv => .error (.wrongArgs (objv.headD "" ++ " channel"))

/-- What the command does with that channel. -/
def unimportChannel (chan : BufferedChan) : Except TclError Unit × BufferedChan :=
  if chan.layers.length ≤ 1 then
    (.error ⟨"bad channel \"" ++ chan.name ++ "\": not a stacked channel",
      ["TLS", "UNIMPORT", "CHANNEL", "INVALID"]⟩, chan)
  else if 0 < chan.output.length ∧ ans.flush.ok = false then
    (.error ⟨"can't flush channel", ["NONE"]⟩, chan.flushed ans.flush)
  else
    let chan := if 0 < chan.output.length then chan.flushed ans.flush else chan
    let saved := chan.savedOptions
    ((chan.unstack ans).1, (chan.unstack ans).2.restore lib saved)

/-- `UnimportObjCmd` -/
def unimportObjCmd (i : OpenChannels) (objv : List String) : Except TclError Unit × OpenChannels :=
  match unimportArgument i objv with
  | .error e => (.error e, i)
  | .ok c =>
      ((unimportChannel lib ans (i.chan c)).1, { i with
        chan := fun c' => if c' = c then (unimportChannel lib ans (i.chan c)).2 else i.chan c' })

/-! ## What is documented -/

/-- The topmost layer of a stacked channel is a TLS one. -/
def Chan.TopTls (chan : Chan) : Prop :=
  1 < chan.layers.length ∧ ∃ p, chan.layers.head? = some (.tls p)

/-- Success takes a TLS layer off and nothing else; without one on top the
command fails, and the channel stays as it is. -/
structure EndsTls (before : BufferedChan) (r : Except TclError Unit) (after : BufferedChan) :
    Prop where
  success : r = .ok () → before.TopTls ∧ after.layers = before.layers.tail
  frame : ¬ before.TopTls → (∃ e, r = .error e) ∧ after = before

/-- The same of the command: without a channel it fails and changes nothing. -/
def UnimportEndsTls (i : OpenChannels) (objv : List String) : Prop :=
  match unimportArgument i objv with
  | .error _ => ∃ e, unimportObjCmd lib ans i objv = (.error e, i)
  | .ok c =>
      EndsTls (i.chan c) (unimportObjCmd lib ans i objv).1
          ((unimportObjCmd lib ans i objv).2.chan c) ∧
        ∀ c' ≠ c, (unimportObjCmd lib ans i objv).2.chan c' = i.chan c'

/-- A flush fails, and none of the output has been written. -/
def BufferedChan.Clogged (chan : BufferedChan) : Prop :=
  if 0 < chan.output.length then
    if ans.flush.ok then
      ans.flush.written = 0 ∧ chan.writable = true ∧ ans.unstackFlush.ok = false ∧
        ans.unstackFlush.written = 0
    else ans.flush.written = 0
  else chan.writable = true ∧ ans.unstackFlush.ok = false

/-! ## When it holds -/

section Channel

variable {chan : BufferedChan} {a : FlushAnswer}

/-- Nothing has been written. -/
theorem flushed_eq_self_iff : chan.flushed a = chan ↔ chan.output = [] ∨ a.written = 0 := by
  have houtput : chan.flushed a = chan ↔ chan.output.drop a.written = chan.output := by
    constructor
    · intro h
      exact congrArg BufferedChan.output h
    · intro h
      rw [BufferedChan.flushed, h]
  rw [houtput]
  constructor
  · intro h
    have hlength := congrArg List.length h
    rw [List.length_drop] at hlength
    rw [← List.length_eq_zero_iff]
    omega
  · rintro (h | h) <;> simp [h]

@[simp] theorem unstack_options : (chan.unstack ans).2.options = chan.options := by
  unfold BufferedChan.unstack
  cases chan.writable <;> cases ans.unstackFlush.ok <;> rfl

/-- Unstacking leaves the options alone, so the channel gets back what it has. -/
@[simp] theorem unstack_restore :
    (chan.unstack ans).2.restore lib chan.savedOptions = (chan.unstack ans).2 := by
  have hoptions : chan.savedOptions = (chan.unstack ans).2.savedOptions := by
    simp [BufferedChan.savedOptions]
  rw [hoptions]
  rfl

/-- The flush is refused, and the layer stays. -/
theorem unstack_of_refused (chan : BufferedChan) (hwritable : chan.writable = true)
    (hok : ans.unstackFlush.ok = false) :
    (∃ e, (chan.unstack ans).1 = .error e) ∧
      (chan.unstack ans).2 = chan.flushed ans.unstackFlush := by
  simp [BufferedChan.unstack, hwritable, hok]

/-- Otherwise it is gone. -/
theorem unstack_layers (chan : BufferedChan)
    (h : ¬(chan.writable = true ∧ ans.unstackFlush.ok = false)) :
    (chan.unstack ans).2.layers = chan.layers.tail := by
  have hflush : (chan.writable && !ans.unstackFlush.ok) = false := by
    simpa using h
  rw [BufferedChan.unstack, if_neg (by simp [hflush])]
  cases chan.writable <;> rfl

theorem unimportChannel_of_base (hbase : chan.layers.length ≤ 1) :
    (∃ e, (unimportChannel lib ans chan).1 = .error e) ∧
      (unimportChannel lib ans chan).2 = chan := by
  simp [unimportChannel, hbase]

theorem unimportChannel_of_refused (hstacked : 1 < chan.layers.length)
    (hrefused : 0 < chan.output.length ∧ ans.flush.ok = false) :
    (∃ e, (unimportChannel lib ans chan).1 = .error e) ∧
      (unimportChannel lib ans chan).2 = chan.flushed ans.flush := by
  have hparent : ¬ chan.layers.length ≤ 1 := by omega
  simp [unimportChannel, hparent, hrefused]

/-- The channel when it is unstacked. -/
def BufferedChan.ready (chan : BufferedChan) : BufferedChan :=
  if 0 < chan.output.length then chan.flushed ans.flush else chan

theorem unimportChannel_of_flushed (hstacked : 1 < chan.layers.length)
    (hflushed : ¬(0 < chan.output.length ∧ ans.flush.ok = false)) :
    unimportChannel lib ans chan = (chan.ready ans).unstack ans := by
  rw [unimportChannel, if_neg (by omega), if_neg hflushed]
  simp [BufferedChan.ready]

@[simp] theorem ready_layers : (chan.ready ans).layers = chan.layers := by
  unfold BufferedChan.ready
  split <;> rfl

@[simp] theorem ready_writable : (chan.ready ans).writable = chan.writable := by
  unfold BufferedChan.ready
  split <;> rfl

/-- A command that succeeds takes the topmost layer off, whatever it is. -/
theorem unimportChannel_success (hr : (unimportChannel lib ans chan).1 = .ok ()) :
    1 < chan.layers.length ∧ (unimportChannel lib ans chan).2.layers = chan.layers.tail := by
  by_cases hbase : chan.layers.length ≤ 1
  · obtain ⟨e, he⟩ := (unimportChannel_of_base lib ans hbase).1
    cases he.symm.trans hr
  have hstacked : 1 < chan.layers.length := by omega
  by_cases hrefused : 0 < chan.output.length ∧ ans.flush.ok = false
  · obtain ⟨e, he⟩ := (unimportChannel_of_refused lib ans hstacked hrefused).1
    cases he.symm.trans hr
  rw [unimportChannel_of_flushed lib ans hstacked hrefused] at hr ⊢
  refine ⟨hstacked, ?_⟩
  by_cases hclogged : chan.writable = true ∧ ans.unstackFlush.ok = false
  · obtain ⟨e, he⟩ := (unstack_of_refused ans (chan.ready ans) (by simp [hclogged]) hclogged.2).1
    cases he.symm.trans hr
  · rw [unstack_layers ans _ (by simpa using hclogged), ready_layers]

theorem flushed_flushed {b : FlushAnswer} :
    (chan.flushed a).flushed b = chan.flushed ⟨b.ok, a.written + b.written⟩ := by
  simp [BufferedChan.flushed, List.drop_drop]

/-- Two flushes in turn have left all of the output. -/
theorem ready_flushed_eq_self_iff :
    (chan.ready ans).flushed ans.unstackFlush = chan ↔
      chan.output = [] ∨ (ans.flush.written = 0 ∧ ans.unstackFlush.written = 0) := by
  unfold BufferedChan.ready
  split
  next houtput =>
    rw [flushed_flushed, flushed_eq_self_iff, Nat.add_eq_zero_iff]
  next houtput =>
    have hempty : chan.output = [] := by
      rw [← List.length_eq_zero_iff]
      omega
    simp [flushed_eq_self_iff, hempty]

/-- **One channel** that is left alone by a command that fails: it is clogged. -/
theorem unimportChannel_frame_iff (hstacked : 1 < chan.layers.length) :
    ((∃ e, (unimportChannel lib ans chan).1 = .error e) ∧
      (unimportChannel lib ans chan).2 = chan) ↔ chan.Clogged ans := by
  have hlength : 0 < chan.output.length ↔ chan.output ≠ [] := List.length_pos_iff
  by_cases hrefused : 0 < chan.output.length ∧ ans.flush.ok = false
  · obtain ⟨herror, hafter⟩ := unimportChannel_of_refused lib ans hstacked hrefused
    rw [hafter, flushed_eq_self_iff]
    simp [herror, BufferedChan.Clogged, hrefused, hlength.mp hrefused.1]
  rw [unimportChannel_of_flushed lib ans hstacked hrefused]
  by_cases hclogged : chan.writable = true ∧ ans.unstackFlush.ok = false
  · obtain ⟨herror, hafter⟩ := unstack_of_refused ans (chan.ready ans) (by simp [hclogged])
      hclogged.2
    rw [hafter, ready_flushed_eq_self_iff]
    by_cases houtput : chan.output = []
    · simp [herror, BufferedChan.Clogged, hclogged, houtput]
    · have hok : ans.flush.ok = true := by
        simpa [hlength, houtput] using hrefused
      simp [herror, BufferedChan.Clogged, hclogged, hlength, houtput, hok]
  · -- the layer is gone
    have hlayers := unstack_layers ans (chan.ready ans) (by simpa using hclogged)
    constructor
    · rintro ⟨-, hafter⟩
      rw [hafter, ready_layers] at hlayers
      have hshorter := congrArg List.length hlayers
      rw [List.length_tail] at hshorter
      omega
    · intro h
      unfold BufferedChan.Clogged at h
      split at h
      next houtput =>
        split at h
        next hok => exact absurd ⟨h.2.1, h.2.2.1⟩ hclogged
        next hok => exact absurd ⟨houtput, by simpa using hok⟩ hrefused
      next => exact absurd h hclogged

theorem endsTls_iff (chan : BufferedChan) :
    EndsTls chan (unimportChannel lib ans chan).1 (unimportChannel lib ans chan).2 ↔
      chan.TopTls ∨ chan.layers.length ≤ 1 ∨ chan.Clogged ans := by
  constructor
  · intro h
    by_cases htop : chan.TopTls
    · exact .inl htop
    by_cases hbase : chan.layers.length ≤ 1
    · exact .inr (.inl hbase)
    · exact .inr (.inr ((unimportChannel_frame_iff lib ans (by omega)).mp (h.frame htop)))
  · intro h
    by_cases htop : chan.TopTls
    · refine ⟨fun hr => ⟨htop, (unimportChannel_success lib ans hr).2⟩, fun hno => absurd htop hno⟩
    · have hframe : (∃ e, (unimportChannel lib ans chan).1 = .error e) ∧
          (unimportChannel lib ans chan).2 = chan := by
        by_cases hbase : chan.layers.length ≤ 1
        · exact unimportChannel_of_base lib ans hbase
        · exact (unimportChannel_frame_iff lib ans (by omega)).mpr
            ((h.resolve_left htop).resolve_left hbase)
      refine ⟨fun hr => ?_, fun _ => hframe⟩
      obtain ⟨e, he⟩ := hframe.1
      cases he.symm.trans hr

end Channel

/-- A channel with a layer that is not a TLS one on top. -/
def compressed : BufferedChan where
  name := "sock4"
  layers := [.other "zlib", .tls 0, .other "tcp"]
  options := ⟨(.auto, .crlf), "utf-8", (none, none), true⟩
  readable := true
  writable := true
  input := [104, 105]
  output := []

end TclTls
