/-
# Theory.Decimal -- decimal numbers at the ends of a text

`Nat.toDigits 10` prints a number.  A number printed before or after a separator that is
no digit is read back by scanning digits from that end, and nothing of the rest of the
text matters.

* `leading_printed`, `trailing_printed` -- the scan stops at the separator;
* `value_printed` -- and its value is the number.
-/
import Mathlib.Data.List.Basic

namespace GameServer.Theory.Decimal

set_option autoImplicit false

/-- The digits a text starts with. -/
def leading (text : List Char) : List Char := text.takeWhile Char.isDigit

/-- The digits a text ends in. -/
def trailing (text : List Char) : List Char := (text.reverse.takeWhile Char.isDigit).reverse

/-- The number digits stand for. -/
def value (digits : List Char) : Nat := Nat.ofDigitChars 10 digits 0

theorem isDigit_of_printed {n : Nat} {c : Char} (member : c ∈ Nat.toDigits 10 n) :
    c.isDigit = true :=
  Nat.isDigit_of_mem_toDigits (by decide) (by decide) member

@[simp] theorem value_printed (n : Nat) : value (Nat.toDigits 10 n) = n :=
  Nat.ofDigitChars_ten_toDigits

section Separated

variable {separator : Char} (apart : separator.isDigit = false)

include apart

theorem takeWhile_separated {digits : List Char} (all : ∀ c ∈ digits, c.isDigit = true)
    (rest : List Char) : (digits ++ separator :: rest).takeWhile Char.isDigit = digits := by
  rw [List.takeWhile_append_of_pos all, List.takeWhile_cons, apart]
  simp

/-- **A number in front** is read up to its separator. -/
theorem leading_printed (n : Nat) (rest : List Char) :
    leading (Nat.toDigits 10 n ++ separator :: rest) = Nat.toDigits 10 n :=
  takeWhile_separated apart (fun _ => isDigit_of_printed) rest

/-- **A number at the end** is read back to its separator. -/
theorem trailing_printed (front : List Char) (n : Nat) :
    trailing (front ++ separator :: Nat.toDigits 10 n) = Nat.toDigits 10 n := by
  have all : ∀ c ∈ (Nat.toDigits 10 n).reverse, c.isDigit = true := by
    intro c member
    exact isDigit_of_printed (List.mem_reverse.mp member)
  rw [trailing, List.reverse_append, List.reverse_cons, List.append_assoc]
  show (List.takeWhile _ ((Nat.toDigits 10 n).reverse ++ separator :: front.reverse)).reverse = _
  rw [takeWhile_separated apart all, List.reverse_reverse]

end Separated

end GameServer.Theory.Decimal
