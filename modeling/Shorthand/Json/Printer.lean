import Shorthand.Json.Basic
import Shorthand.Text.Numeral

/-!
# `Shorthand.Json.Printer`: JSON as text

Values are written without spaces, fields in their order. In strings only quotes,
backslashes and control characters are escaped.
-/

set_option autoImplicit false

namespace Shorthand

namespace Decimal

/-- A number with as many places as its scale. -/
def toText (d : Decimal) : Text :=
  let unit := Nat.pow 10 d.scale
  let sign : Text := if d.mantissa < 0 then ['-'] else []
  let whole := Text.ofNat (d.mantissa.natAbs / unit)
  if d.scale = 0 then sign ++ whole
  else sign ++ whole ++ '.' :: Text.padded d.scale (d.mantissa.natAbs % unit)

end Decimal

namespace Json

/-- A character inside a string. -/
def escapeChar (c : Char) : Text :=
  if c = '"' ∨ c = '\\' then ['\\', c]
  else if c = '\n' then ['\\', 'n']
  else if c = '\r' then ['\\', 'r']
  else if c = '\t' then ['\\', 't']
  else if c.toNat < 0x20 then
    ['\\', 'u', '0', '0', Nat.digitChar (c.toNat / 16), Nat.digitChar (c.toNat % 16)]
  else [c]

/-- A string in quotes. -/
def quote (t : Text) : Text :=
  '"' :: t.flatMap escapeChar ++ ['"']

mutual

/-- A value as text. -/
def toText : Json → Text
  | null => "null"
  | bool true => "true"
  | bool false => "false"
  | num value => value.toText
  | str value => quote value
  | arr items => '[' :: Text.join [','] (itemTexts items) ++ [']']
  | obj fields => '{' :: Text.join [','] (fieldTexts fields) ++ ['}']

/-- The texts of items. -/
def itemTexts : List Json → List Text
  | [] => []
  | item :: rest => toText item :: itemTexts rest

/-- The texts of fields. -/
def fieldTexts : List (Text × Json) → List Text
  | [] => []
  | (name, value) :: rest => (quote name ++ ':' :: toText value) :: fieldTexts rest

end

end Json

end Shorthand
