import TclTls.Import.Options

/-!
# TclTls.Import.Interp

The channels of an interpreter, as far as `tls::import` changes them: a stack
of layers with options that belong to the stack as a whole, and the memory
blocks that hold the `State`s of the TLS layers.

A layer keeps the address of its `State`.  Nothing prevents a layer from
outliving it, so `Interp.Dangling` is a property and not excluded by a type.
-/

namespace TclTls

/-! ## Channels -/

/-- End-of-line translation of one direction. -/
inductive Translation where
  | auto
  | cr
  | crlf
  | lf
deriving DecidableEq, Repr

/-- The options of a channel; translation and end-of-file character are given
for input and output. -/
structure ChanOptions where
  translation : Translation × Translation
  encoding : String
  eofchar : Option Char × Option Char
  blocking : Bool
deriving DecidableEq, Repr

/-- An argument of `Tcl_SetChannelOption`; `binary` is `-translation binary`. -/
inductive ChanSetting where
  | translation (t : Translation × Translation)
  | binary
  | encoding (e : String)
  | eofchar (c : Option Char × Option Char)
  | blocking (b : Bool)
deriving DecidableEq, Repr

/-- What a setting does to the options. -/
def ChanOptions.set (lib : TclLibrary) (opts : ChanOptions) : ChanSetting → ChanOptions
  | .translation t => { opts with translation := t }
  | .binary => { opts with
      translation := (.lf, .lf), encoding := lib.binaryEncoding, eofchar := (none, none) }
  | .encoding e => { opts with encoding := e }
  | .eofchar c => { opts with eofchar := c }
  | .blocking b => { opts with blocking := b }

/-- A layer of a channel: of type `Tls_ChannelType()`, with the address of its
`State`, or of another type. -/
inductive Layer where
  | tls (statePtr : Nat)
  | other (typeName : String)
deriving DecidableEq, Repr

/-- A channel, topmost layer first. -/
structure Chan where
  name : String
  layers : List Layer
  options : ChanOptions

/-! ## The interpreter -/

/-- The channels by name (`Tcl_GetChannel`) and by token, and the blocks
`Tcl_Alloc` has given out so far, `none` for one that was freed. -/
structure Interp where
  find : String → Option Nat
  chan : Nat → Chan
  heap : List (Option State)

namespace Interp

variable (i : Interp)

/-- The address belongs to a `State` that has not been freed. -/
def Live (p : Nat) : Prop := ∃ s, i.heap[p]? = some (some s)

/-- A TLS layer of the channel has lost its `State`. -/
def Dangling (c : Nat) : Prop := ∃ p, .tls p ∈ (i.chan c).layers ∧ ¬ i.Live p

/-- The `State` at an address. -/
def deref (p : Nat) : State := (i.heap[p]?.join).getD {}

/-- The address of the next block. -/
def newPtr : Nat := i.heap.length

/-- `Tcl_Alloc` -/
def alloc (s : State) : Interp := { i with heap := i.heap ++ [some s] }

/-- Overwrite the `State` at an address. -/
def write (p : Nat) (s : State) : Interp := { i with heap := i.heap.set p (some s) }

/-- `Tls_Free` -/
def free (p : Nat) : Interp := { i with heap := i.heap.set p none }

/-- Change one channel. -/
def modifyChan (c : Nat) (f : Chan → Chan) : Interp :=
  { i with chan := fun c' => if c' = c then f (i.chan c) else i.chan c' }

/-- The block mode procedure of every layer is called; the TLS one is
`TlsBlockModeProc`. -/
def blockMode (c : Nat) (b : Bool) : Interp :=
  { i with heap := i.heap.mapIdx fun p s =>
      if .tls p ∈ (i.chan c).layers then s.map fun s => { s with flags.async := !b } else s }

/-- `Tcl_SetChannelOption` -/
def setChannelOption (lib : TclLibrary) (c : Nat) (setting : ChanSetting) : Interp :=
  let i' := match setting with
    | .blocking b => i.blockMode c b
    | _ => i
  i'.modifyChan c fun chan => { chan with options := chan.options.set lib setting }

/-- `Tcl_StackChannel`, when it succeeds: a new topmost layer. -/
def stackChannel (c : Nat) (p : Nat) : Interp :=
  i.modifyChan c fun chan => { chan with layers := .tls p :: chan.layers }

/-! ## What the operations leave alone -/

section Frame

variable {i} {c c' p q : Nat} {s : State}

@[simp] theorem alloc_chan : (i.alloc s).chan = i.chan := rfl

@[simp] theorem alloc_find : (i.alloc s).find = i.find := rfl

@[simp] theorem write_chan : (i.write p s).chan = i.chan := rfl

@[simp] theorem free_chan : (i.free p).chan = i.chan := rfl

@[simp] theorem modifyChan_self (f : Chan → Chan) : (i.modifyChan c f).chan c = f (i.chan c) := by
  simp [modifyChan]

@[simp] theorem modifyChan_other (f : Chan → Chan) (h : c' ≠ c) :
    (i.modifyChan c f).chan c' = i.chan c' := by
  simp [modifyChan, h]

@[simp] theorem blockMode_chan (b : Bool) : (i.blockMode c b).chan = i.chan := rfl

/-- A fresh block changes nothing about the others. -/
theorem live_alloc (h : p < i.heap.length) : (i.alloc s).Live p ↔ i.Live p := by
  simp [Live, alloc, List.getElem?_append_left h]

theorem live_write_of_ne (h : p ≠ q) : (i.write q s).Live p ↔ i.Live p := by
  simp [Live, write, List.getElem?_set_ne h.symm]

theorem live_free_of_ne (h : p ≠ q) : (i.free q).Live p ↔ i.Live p := by
  simp [Live, free, List.getElem?_set_ne h.symm]

/-- The block `p` is the same in `i'` as in `i`, except that its channel may
have been told a block mode. -/
def SameBlock (i i' : Interp) (p : Nat) : Prop :=
  ∀ s, i.heap[p]? = some (some s) → ∃ b, i'.heap[p]? = some (some { s with flags.async := b })

theorem SameBlock.refl (i : Interp) (p : Nat) : SameBlock i i p := fun s hs => ⟨s.flags.async, hs⟩

theorem SameBlock.trans {i₁ i₂ : Interp} (h : SameBlock i i₁ p) (h' : SameBlock i₁ i₂ p) :
    SameBlock i i₂ p := by
  intro s hs
  obtain ⟨b, hb⟩ := h s hs
  obtain ⟨b', hb'⟩ := h' _ hb
  exact ⟨b', hb'⟩

theorem SameBlock.live {i₁ : Interp} (h : SameBlock i i₁ p) (hp : i.Live p) : i₁.Live p := by
  obtain ⟨s, hs⟩ := hp
  obtain ⟨b, hb⟩ := h s hs
  exact ⟨_, hb⟩

theorem sameBlock_modifyChan (f : Chan → Chan) : SameBlock i (i.modifyChan c f) p :=
  SameBlock.refl i p

theorem sameBlock_blockMode (b : Bool) : SameBlock i (i.blockMode c b) p := by
  intro s hs
  by_cases htls : .tls p ∈ (i.chan c).layers
  · exact ⟨!b, by simp [blockMode, hs, htls]⟩
  · exact ⟨s.flags.async, by simp [blockMode, hs, htls]⟩

theorem sameBlock_setChannelOption (lib : TclLibrary) (setting : ChanSetting) :
    SameBlock i (i.setChannelOption lib c setting) p := by
  cases setting with
  | blocking b => exact sameBlock_blockMode b
  | _ => exact SameBlock.refl i p

theorem Live.lt (h : i.Live p) : p < i.heap.length := by
  obtain ⟨s, hs⟩ := h
  exact (List.getElem?_eq_some_iff.mp hs).1

end Frame

end Interp

end TclTls
