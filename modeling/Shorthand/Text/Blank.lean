import Shorthand.Text.Basic

/-!
# `Shorthand.Text.Blank`: white space

The characters with the Unicode property White_Space, and trimming by them.
-/

set_option autoImplicit false

namespace Shorthand

namespace Text

/-- Unicode White_Space. -/
def isBlank (c : Char) : Bool :=
  let n := c.toNat
  (0x09 ≤ n && n ≤ 0x0D) || n == 0x20 || n == 0x85 || n == 0xA0 || n == 0x1680 ||
  (0x2000 ≤ n && n ≤ 0x200A) || n == 0x2028 || n == 0x2029 || n == 0x202F ||
  n == 0x205F || n == 0x3000

/-- Without leading white space. -/
def trimStart (t : Text) : Text :=
  t.dropWhile isBlank

/-- Without trailing white space. -/
def trimEnd (t : Text) : Text :=
  trimEndWhile isBlank t

/-- Without white space at either end. -/
def trim (t : Text) : Text :=
  trimEnd (trimStart t)

end Text

end Shorthand
