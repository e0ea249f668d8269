import Shorthand.Text.Basic

/-!
# `Shorthand.Text.Numeral`: numerals

Reading and writing natural numbers, in base ten unless said otherwise. `readWord`
reads a numeral into a 64-bit word and gives up on an empty one or on one that does
not fit; `padded` writes with leading zeros up to a width, and `padded?` only up to
the greatest one; `valueIn?` reads in any base up to sixteen.
-/

set_option autoImplicit false

namespace Shorthand

/-- The largest 64-bit word. -/
def wordMax : Nat := 0xFFFFFFFFFFFFFFFF

/-- The greatest width of a numeral with zeros in front. -/
def maxWidth : Nat := 65535

namespace Text

/-- An ASCII digit. -/
def isDigit (c : Char) : Bool :=
  c.isDigit

/-- Value of a string of ASCII digits, read from the left. -/
def digitsValue (digits : Text) : Nat :=
  digits.foldl (fun n c => 10 * n + (c.toNat - '0'.toNat)) 0

/-- The value of a non-empty string of digits when a 64-bit word holds it. -/
def readWord (digits : Text) : Option Nat :=
  if digits = [] then none
  else if digitsValue digits ≤ wordMax then some (digitsValue digits)
  else none

/-- The shortest decimal numeral of a number. -/
def ofNat (n : Nat) : Text :=
  Nat.toDigits 10 n

/-- The decimal numeral of an integer, with a sign below zero. -/
def ofInt : Int → Text
  | .ofNat n => ofNat n
  | .negSucc n => '-' :: ofNat (n + 1)

/-- The decimal numeral with zeros in front up to `width` digits. -/
def padded (width n : Nat) : Text :=
  List.replicate (width - (ofNat n).length) '0' ++ ofNat n

/-- The numeral with zeros in front, if the width is not too great. -/
def padded? (width n : Nat) : Option Text :=
  if width ≤ maxWidth then some (padded width n) else none

/-! ### Other bases -/

/-- Value of a hexadecimal digit. -/
def hexValue (c : Char) : Option Nat :=
  let n := c.toNat
  if 0x30 ≤ n ∧ n ≤ 0x39 then some (n - 0x30)
  else if 0x41 ≤ n ∧ n ≤ 0x46 then some (n - 0x37)
  else if 0x61 ≤ n ∧ n ≤ 0x66 then some (n - 0x57)
  else none

/-- Value of a string of digits in a base up to sixteen, `none` when one of them is no
digit of the base. -/
def valueIn? (base : Nat) (digits : Text) : Option Nat :=
  digits.foldlM (fun n c => do
    let d ← hexValue c
    if d < base then some (base * n + d) else none) 0

/-- The hexadecimal numeral of a number in lower case. -/
def hexOfNat (n : Nat) : Text :=
  Nat.toDigits 16 n

end Text

end Shorthand
