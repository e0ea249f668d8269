import Shorthand.Text.Numeral
import Shorthand.Text.Utf8

/-!
# `Shorthand.Uri.Escape`: percent escapes

A character that may not stand in a part of an identifier is written as its bytes, each
behind a percent sign in two hexadecimal digits. Which characters those are depends on
the part. An escaped byte is read back as that byte (`unescape_escapeByte`).
-/

set_option autoImplicit false

namespace Shorthand

namespace Uri

/-- A hexadecimal digit in upper case. -/
def hexDigit (n : Nat) : Char :=
  (Nat.digitChar n).toUpper

/-- A byte as a percent escape. -/
def escapeByte (b : UInt8) : Text :=
  ['%', hexDigit (b.toNat / 16), hexDigit (b.toNat % 16)]

/-- Escapes control characters, everything beyond ASCII, and the given characters. -/
def escape (special : List Char) (t : Text) : Text :=
  t.flatMap fun c =>
    if c.toNat < 0x20 ∨ 0x7F ≤ c.toNat ∨ c ∈ special then
      (Text.charBytes c).flatMap escapeByte
    else [c]

/-- Characters escaped in fragments. -/
def fragmentSpecial : List Char := [' ', '"', '<', '>', '\x60']

/-- Characters escaped in paths. -/
def pathSpecial : List Char := fragmentSpecial ++ ['#', '?', '{', '}']

/-- Characters escaped in the name and password of a user. -/
def userSpecial : List Char :=
  pathSpecial ++ ['/', ':', ';', '=', '@', '[', '\\', ']', '^', '|']

/-- Characters escaped in queries. -/
def querySpecial : List Char := [' ', '"', '#', '<', '>']

/-- The bytes of a text with its percent escapes undone. -/
def unescape : Text → List UInt8
  | '%' :: a :: b :: rest =>
    match Text.hexValue a, Text.hexValue b with
    | some a, some b => (a * 16 + b).toUInt8 :: unescape rest
    | _, _ => Text.charBytes '%' ++ unescape (a :: b :: rest)
  | c :: rest => Text.charBytes c ++ unescape rest
  | [] => []

/-- A hexadecimal digit is read as the value it was written for. -/
theorem hexValue_hexDigit {n : Nat} (h : n < 16) : Text.hexValue (hexDigit n) = some n := by
  have hall : ∀ m ∈ List.range 16, Text.hexValue (hexDigit m) = some m := by decide
  exact hall n (List.mem_range.mpr h)

/-- The escape of a byte is read back, whatever follows it. -/
theorem unescape_escapeByte (b : UInt8) (rest : Text) :
    unescape (escapeByte b ++ rest) = b :: unescape rest := by
  have hb : b.toNat < 256 := b.toNat_lt
  have hhi : b.toNat / 16 < 16 := Nat.div_lt_of_lt_mul hb
  have hlo : b.toNat % 16 < 16 := Nat.mod_lt _ (by decide)
  have hsum : b.toNat / 16 * 16 + b.toNat % 16 = b.toNat := Nat.div_add_mod' _ _
  simp only [escapeByte, List.cons_append, List.nil_append, unescape, hexValue_hexDigit hhi,
    hexValue_hexDigit hlo, hsum, Nat.toUInt8_eq, UInt8.ofNat_toNat]

end Uri

end Shorthand
