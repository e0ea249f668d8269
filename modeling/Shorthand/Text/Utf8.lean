import Shorthand.Text.Basic

/-!
# `Shorthand.Text.Utf8`: text from and to bytes

UTF-8 encoding, strict decoding, and decoding that puts U+FFFD in the place of
what is not UTF-8: once for each longest beginning of a character, and once for
each byte that begins none.
-/

set_option autoImplicit false

namespace Shorthand

namespace Text

/-- Range of the second byte of a character by its first byte, with the number of
bytes that follow the first. -/
def utf8Head (b : Nat) : Option (Nat × Nat × Nat) :=
  if 0xC2 ≤ b ∧ b ≤ 0xDF then some (1, 0x80, 0xBF)
  else if b = 0xE0 then some (2, 0xA0, 0xBF)
  else if b = 0xED then some (2, 0x80, 0x9F)
  else if 0xE1 ≤ b ∧ b ≤ 0xEF then some (2, 0x80, 0xBF)
  else if b = 0xF0 then some (3, 0x90, 0xBF)
  else if 0xF1 ≤ b ∧ b ≤ 0xF3 then some (3, 0x80, 0xBF)
  else if b = 0xF4 then some (3, 0x80, 0x8F)
  else none

/-- The bits that the first byte of a character contributes. -/
def utf8Lead (b : Nat) : Nat :=
  if b < 0xE0 then b % 0x20 else if b < 0xF0 then b % 0x10 else b % 0x08

/-- What decoding stands in: between characters, or inside one with the bits so
far, the bytes still owed and the range of the next. -/
inductive Utf8State where
  | start
  | inside (bits owed lo hi : Nat)

/-- Decodes byte by byte. `bad` says what an ill-formed piece becomes: a
replacement, or a refusal of the whole. -/
def decodeWith (bad : Option Text) : Utf8State → List UInt8 → Option Text
  | .start, [] => some []
  | .inside _ _ _ _, [] => bad
  | .start, b :: rest =>
    if b.toNat < 0x80 then (decodeWith bad .start rest).map (Char.ofNat b.toNat :: ·)
    else
      match utf8Head b.toNat with
      | some (owed, lo, hi) => decodeWith bad (.inside (utf8Lead b.toNat) owed lo hi) rest
      | none => bad.bind fun mark => (decodeWith bad .start rest).map (mark ++ ·)
  | .inside bits owed lo hi, b :: rest =>
    let n := b.toNat
    if lo ≤ n ∧ n ≤ hi then
      if owed ≤ 1 then
        (decodeWith bad .start rest).map (Char.ofNat (bits * 0x40 + n % 0x40) :: ·)
      else decodeWith bad (.inside (bits * 0x40 + n % 0x40) (owed - 1) 0x80 0xBF) rest
    else
      bad.bind fun mark =>
        if n < 0x80 then
          (decodeWith bad .start rest).map fun t => mark ++ Char.ofNat n :: t
        else
          match utf8Head n with
          | some (owed, lo, hi) =>
            (decodeWith bad (.inside (utf8Lead n) owed lo hi) rest).map (mark ++ ·)
          | none => (decodeWith bad .start rest).map (mark ++ mark ++ ·)

/-- The text that the bytes encode, when they are UTF-8. -/
def ofUtf8? (bytes : List UInt8) : Option Text :=
  decodeWith none .start bytes

/-- The text that the bytes encode, with U+FFFD for what is not UTF-8. -/
def ofUtf8Lossy (bytes : List UInt8) : Text :=
  (decodeWith (some [Char.ofNat 0xFFFD]) .start bytes).getD []

/-- The bytes of one character. -/
def charBytes (c : Char) : List UInt8 :=
  let n := c.toNat
  if n < 0x80 then [n.toUInt8]
  else if n < 0x800 then [(0xC0 + n / 0x40).toUInt8, (0x80 + n % 0x40).toUInt8]
  else if n < 0x10000 then
    [(0xE0 + n / 0x1000).toUInt8, (0x80 + n / 0x40 % 0x40).toUInt8, (0x80 + n % 0x40).toUInt8]
  else
    [(0xF0 + n / 0x40000).toUInt8, (0x80 + n / 0x1000 % 0x40).toUInt8,
      (0x80 + n / 0x40 % 0x40).toUInt8, (0x80 + n % 0x40).toUInt8]

/-- The UTF-8 encoding of a text. -/
def toUtf8 (t : Text) : List UInt8 :=
  t.flatMap charBytes

end Text

end Shorthand
