import Mathlib.Data.List.TakeWhile
import TclTls.ClientHello

/-!
# TclTls.Password

`PasswordCallback`: the library wants a password, and the `-password` script gives one.

The library hands over a buffer and its size.  `passwordCallback_exact` says what the
script is asked, when the callback stays inside the buffer, and what the library finds
there: the password, or as much of it as fits, with a zero byte behind it.
-/

namespace TclTls

open Interaction
open Interaction.Program (state)
open Wire

/-! ## The buffer -/

/-- The `n` bytes that `strncpy` writes: the string, which ends before its first zero byte, and
zeros. -/
def strncpy (src : List UInt8) (n : Nat) : List UInt8 :=
  let copied := (src.takeWhile (· ≠ 0)).take n
  copied ++ List.replicate (n - copied.length) 0

/-- The assignment of one element. -/
def storeElement (buf : List UInt8) (i : Int) (b : UInt8) : Option (List UInt8) :=
  if 0 ≤ i then store buf i.toNat [b] else none

/-- How many bytes of the password are passed on. -/
def passwordLength (ret : List UInt8) (size : Int) : Int :=
  if (ret.length : Int) > size - 1 then size - 1 else ret.length

/-- What the callback returns for a password, and the buffer, or `none` if it leaves the buffer.
A negative length does so, however many bytes it makes `strncpy` write. -/
def passwordReply (buf : List UInt8) (size : Int) (ret : List UInt8) : Int × Option (List UInt8) :=
  let len := passwordLength ret size
  (len, (store buf 0 (strncpy ret len.toNat)).bind fun buf => storeElement buf len 0)

/-- As much of a password as fits. -/
def fitting (ret : List UInt8) (size : Int) : List UInt8 := ret.take (size - 1).toNat

section Buffer

variable {buf ret : List UInt8} {size : Int}

/-- A string without zero bytes is copied as it is. -/
theorem strncpy_eq_take {n : Nat} (hzero : 0 ∉ ret) (hn : n ≤ ret.length) :
    strncpy ret n = ret.take n := by
  have hself : ret.takeWhile (· ≠ 0) = ret := by
    rw [List.takeWhile_eq_self_iff]
    intro b hb
    have hne : b ≠ 0 := fun hb0 => hzero (hb0 ▸ hb)
    simp [hne]
  have hnone : n - (ret.take n).length = 0 := by
    rw [List.length_take]
    omega
  rw [strncpy, hself, hnone, List.replicate_zero, List.append_nil]

theorem passwordLength_eq (hsize : 1 ≤ size) :
    passwordLength ret size = ((fitting ret size).length : Int) := by
  unfold passwordLength fitting
  rw [List.length_take]
  split <;> omega

/-- A string and the zero byte behind it. -/
theorem store_terminated (buf password : List UInt8) :
    ((store buf 0 password).bind fun buf => storeElement buf password.length 0) =
      if password.length < buf.length then
        some (password ++ 0 :: buf.drop (password.length + 1))
      else none := by
  have hstore : store buf 0 password =
      if password.length ≤ buf.length then some (password ++ buf.drop password.length)
      else none := by
    simp [store]
  have hassign : storeElement (password ++ buf.drop password.length) password.length 0 =
      store (password ++ buf.drop password.length) password.length [0] := by
    simp [storeElement]
  by_cases hfits : password.length < buf.length
  · have hroom : ([0] : List UInt8).length ≤ (buf.drop password.length).length := by
      rw [List.length_drop, List.length_singleton]
      omega
    rw [hstore, if_pos (by omega), Option.bind_some, hassign, store_append _ _ _ hroom,
      if_pos hfits, List.drop_drop, List.length_singleton, List.append_assoc,
      List.singleton_append]
  · rw [hstore, if_neg hfits]
    by_cases hexact : password.length ≤ buf.length
    · have hfull : (buf.drop password.length).length = 0 := by
        rw [List.length_drop]
        omega
      rw [if_pos hexact, Option.bind_some, hassign, store, if_neg]
      rw [List.length_append, hfull, List.length_singleton]
      omega
    · rw [if_neg hexact, Option.bind_none]

/-- **The buffer** afterwards. -/
theorem passwordReply_eq (hzero : 0 ∉ ret) :
    passwordReply buf size ret = (passwordLength ret size,
      if 1 ≤ size ∧ (fitting ret size).length < buf.length then
        some (fitting ret size ++ 0 :: buf.drop ((fitting ret size).length + 1))
      else none) := by
  by_cases hsize : 1 ≤ size
  · have hlen := @passwordLength_eq ret size hsize
    have hcopied : strncpy ret (fitting ret size).length = fitting ret size := by
      have hshort : (fitting ret size).length ≤ ret.length := List.length_take_le' ..
      rw [strncpy_eq_take hzero hshort, fitting, List.length_take]
      exact List.take_eq_take_iff.mpr (by omega)
    simp only [passwordReply, hlen, Int.toNat_natCast, hcopied, store_terminated, hsize, true_and]
  · -- the length is negative
    have hneg : ¬ 0 ≤ passwordLength ret size := by
      unfold passwordLength
      split <;> omega
    have hnone : ∀ buf, storeElement buf (passwordLength ret size) 0 = none := fun buf => if_neg hneg
    rw [passwordReply, if_neg (fun h => hsize h.1)]
    simp [hnone]

end Buffer

/-! ## The callback -/

variable (getString : String → List UInt8)

/-- What the script is asked. -/
def passwordCommand (s : State) (size rwflag : Int) : Command :=
  ⟨s.password.getD "tls::password", ["password", toString rwflag, toString size]⟩

/-- The callback after the script. -/
def passwordEnd (buf : List UInt8) (size : Int) (o : EvalOutcome) :
    Driver (Int × Option (List UInt8)) := do
  if o.code ≠ tclOk then
    call (.backgroundException o.code)
  tclRelease
  if o.code = tclOk then
    pure (passwordReply buf size (getString o.result))
  else
    pure (-1, some buf)

/-- `PasswordCallback` -/
def passwordCallback (buf : List UInt8) (size rwflag : Int) :
    Driver (Int × Option (List UInt8)) := do
  let s ← state
  call .preserve
  let o ← call (.evalObj (passwordCommand s size rwflag))
  passwordEnd getString buf size o

section Callback

variable {getString : String → List UInt8} {buf : List UInt8} {size rwflag : Int}

/-- No other script is evaluated. -/
theorem passwordEnd_offScript (o : EvalOutcome) (s : State) :
    (passwordEnd getString buf size o).Safe offScript (fun r _ => r =
      if o.code = tclOk then passwordReply buf size (getString o.result) else (-1, some buf)) s := by
  by_cases hcode : o.code = tclOk <;>
    simp [passwordEnd, offScript, tclRelease, tlsFree, tlsClean, hcode]

/-- The script is asked, and what it says decides. -/
theorem run_passwordCallback (w : Conn) :
    (w.run (passwordCallback getString buf size rwflag)).1 =
        (if (w.env.answers.evals 0).code = tclOk then
          passwordReply buf size (getString (w.env.answers.evals 0).result)
        else (-1, some buf)) ∧
      (w.run (passwordCallback getString buf size rwflag)).2.env.commands =
        w.env.commands ++ [passwordCommand w.st size rwflag] := by
  have hrest := run_offScript
    (w := ⟨w.st, (Env.respond (.evalObj (passwordCommand w.st size rwflag))
      (Env.respond .preserve w.env).2).2⟩)
    (@passwordEnd_offScript getString buf size (w.env.answers.evals 0) w.st)
  rw [commands_evalObj] at hrest
  exact hrest

end Callback

/-- **The password gets there**, or as much of it as fits.  The callback leaves the buffer only
for a password that has no room, which a buffer of `size` bytes has if `size` is positive; a
script that fails leaves the buffer as it is. -/
theorem passwordCallback_exact (hzero : ∀ s, 0 ∉ getString s) (w : Conn) (buf : List UInt8)
    (size rwflag : Int) :
    let o := w.env.answers.evals 0
    let password := fitting (getString o.result) size
    let r := w.run (passwordCallback getString buf size rwflag)
    r.2.env.commands = w.env.commands ++ [passwordCommand w.st size rwflag] ∧
      (r.1.2 = none ↔ o.code = tclOk ∧ (size < 1 ∨ buf.length ≤ password.length)) ∧
      ∀ buf', r.1.2 = some buf' →
        if o.code = tclOk then
          r.1.1 = password.length ∧ buf' = password ++ 0 :: buf.drop (password.length + 1)
        else r.1.1 = -1 ∧ buf' = buf := by
  intro o password r
  obtain ⟨hreply, hcommands⟩ := @run_passwordCallback getString buf size rwflag w
  refine ⟨hcommands, ?_⟩
  change r.1 = _ at hreply
  rw [hreply]
  have hlen : password.length = (fitting (getString o.result) size).length := rfl
  by_cases hcode : o.code = tclOk
  · rw [if_pos hcode, passwordReply_eq (hzero o.result)]
    by_cases hfits : 1 ≤ size ∧ (fitting (getString o.result) size).length < buf.length
    · have hroom : ¬(size < 1 ∨ buf.length ≤ password.length) := by omega
      rw [if_pos hfits]
      refine ⟨by simp [hroom], fun buf' hbuf => ?_⟩
      rw [if_pos hcode, ← Option.some.inj hbuf]
      exact ⟨passwordLength_eq hfits.1, rfl⟩
    · have hroom : size < 1 ∨ buf.length ≤ password.length := by omega
      rw [if_neg hfits]
      simp [hcode, hroom]
  · rw [if_neg hcode]
    refine ⟨by simp [hcode], fun buf' hbuf => ?_⟩
    rw [if_neg hcode, ← Option.some.inj hbuf]
    exact ⟨rfl, rfl⟩

/-- The bytes of a text without zeros. -/
def textBytes (s : String) : List UInt8 := s.toUTF8.toList.filter (· ≠ 0)

/-- A password that is too long is cut off. -/
theorem passwordCallback_exact_secret :
    ((scripted ⟨tclOk, "secret"⟩).run
      (passwordCallback textBytes [9, 9, 9, 9, 9, 9] 5 0)).1.2 ≠ none := by
  have hzero : ∀ s, 0 ∉ textBytes s := fun s h => by simp [textBytes] at h
  intro hnone
  have hout := (passwordCallback_exact textBytes hzero (scripted ⟨tclOk, "secret"⟩)
    [9, 9, 9, 9, 9, 9] 5 0).2.1.mp hnone
  rcases hout.2 with hsize | hroom
  · contradiction
  · have hshort := hroom.trans (List.length_take_le ..)
    contradiction

end TclTls
