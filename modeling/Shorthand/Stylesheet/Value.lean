import Shorthand.Error
import Shorthand.Stylesheet.Vocabulary
import Shorthand.Text.Numeral

/-!
# `Shorthand.Stylesheet.Value`: numbers and colours

A value is a colour, a hash sign with hexadecimal digits, or a number: an optional
minus sign, digits and points, and an optional unit. Values follow one another
with a minus sign between them, which a colour does not need.

- `readValue_length`: a value takes at least one character, so reading a sequence
  of them ends.
-/

set_option autoImplicit false

namespace Shorthand

namespace Stylesheet

/-- A value as it is written. -/
inductive Value where
  /-- A colour by its hexadecimal digits. -/
  | color (digits : Text)
  /-- A number by its sign, digits and points, with its unit. -/
  | number (digits unit : Text)
  deriving DecidableEq, Repr

/-- Units of numbers written without one. -/
structure Units where
  /-- The unit of integers. -/
  int : Text := "px"
  /-- The unit of numbers with a point. -/
  float : Text := "em"

/-! ### Writing -/

/-- A colour in lower case. Without digits it is black, and one or two digits are
written three times. -/
def colorText (digits : Text) : Text :=
  let digits := Text.toLower digits
  if digits = [] then "#000"
  else if digits.length ≤ 2 then '#' :: Text.times 3 digits
  else '#' :: digits

/-- A number's digits with a zero before a leading point. -/
def digitsText : Text → Text
  | '-' :: '.' :: rest => '-' :: '0' :: '.' :: rest
  | '.' :: rest => '0' :: '.' :: rest
  | digits => digits

/-- Whether a number's digits are all zeros. -/
def isZero (digits : Text) : Bool :=
  (digits.dropWhile (· == '-')).all fun c => c == '0' || c == '.'

/-- The unit that a number is written with, by the unit it was given. -/
def unitText (property : Text) (units : Units) (digits unit : Text) : Text :=
  if unit = "p".toList then "%"
  else if unit = "e".toList then "em"
  else if unit = "x".toList then "ex"
  else if unit = "r".toList then "rem"
  else if unit ≠ [] then unit
  else if Text.oneOf unitless property then []
  else if isZero digits then []
  else if digits.contains '.' then units.float
  else units.int

/-- A value in a declaration of a property. -/
def Value.toText (property : Text) (units : Units) : Value → Text
  | .color digits => colorText digits
  | .number digits unit => digitsText digits ++ unitText property units digits unit

/-! ### Reading -/

/-- A hexadecimal digit. -/
def isHexDigit (c : Char) : Bool :=
  c.isDigit || ('a' ≤ c && c ≤ 'f') || ('A' ≤ c && c ≤ 'F')

/-- A digit or point of a number. -/
def isNumberChar (c : Char) : Bool :=
  c.isDigit || c == '.'

/-- A character of a unit. -/
def isUnitChar (c : Char) : Bool :=
  c.isAlpha || c == '%'

/-- Digits and unit behind an optional sign. At least one digit or point is needed. -/
def readNumber? (sign s : Text) : Option (Value × Text) :=
  match s.takeWhile isNumberChar with
  | [] => none
  | digits =>
    let rest := s.dropWhile isNumberChar
    some (.number (sign ++ digits) (rest.takeWhile isUnitChar), rest.dropWhile isUnitChar)

/-- A value at the start of a text. -/
def readValue? : Text → Option (Value × Text)
  | '#' :: rest => some (.color (rest.takeWhile isHexDigit), rest.dropWhile isHexDigit)
  | '-' :: rest => readNumber? ['-'] rest
  | s => readNumber? [] s

theorem readNumber?_length {sign s rest : Text} {value : Value}
    (h : readNumber? sign s = some (value, rest)) : rest.length < s.length := by
  unfold readNumber? at h
  split at h
  · simp at h
  · rename_i digits hne
    have h1 := congrArg List.length
      (List.takeWhile_append_dropWhile (p := isNumberChar) (l := s))
    have h2 : ((s.dropWhile isNumberChar).dropWhile isUnitChar).length
        ≤ (s.dropWhile isNumberChar).length := (List.dropWhile_suffix _).length_le
    have h3 : 0 < (s.takeWhile isNumberChar).length := List.length_pos_iff.2 hne
    simp only [List.length_append] at h1
    simp only [Option.some.injEq, Prod.mk.injEq] at h
    rw [← h.2]
    omega

theorem readValue_length {s rest : Text} {value : Value}
    (h : readValue? s = some (value, rest)) : rest.length < s.length := by
  unfold readValue? at h
  split at h
  · rename_i rest'
    have : (rest'.dropWhile isHexDigit).length ≤ rest'.length :=
      (List.dropWhile_suffix _).length_le
    simp only [Option.some.injEq, Prod.mk.injEq] at h
    rw [← h.2]
    simp; omega
  · have := readNumber?_length h
    simp; omega
  · exact readNumber?_length h

/-- The values of a whole text. A refusal keeps the text that stands where a value
or a separator has to. -/
def readValues (s : Text) : Except Text (List Value) :=
  match _h : readValue? s with
  | none => .error s
  | some (value, []) => .ok [value]
  | some (value, '#' :: rest) =>
    match readValues ('#' :: rest) with
    | .error stop => .error stop
    | .ok values => .ok (value :: values)
  | some (value, '-' :: c :: rest) =>
    match readValues (c :: rest) with
    | .error stop => .error stop
    | .ok values => .ok (value :: values)
  | some (_, rest) => .error rest
termination_by s.length
decreasing_by
  · exact readValue_length _h
  · have := readValue_length _h
    simp only [List.length_cons] at this ⊢
    omega

/-- The error for a text that stands where it cannot, in a text of `length`
characters. -/
def unexpectedAt (length : Nat) : Text → ExpandError
  | [] => .unexpectedEnd
  | c :: rest => .unexpected c (length - (rest.length + 1))

/-- The values of a text as a declaration of the property has them. An empty text has none. -/
def parseValues (property : Text) (units : Units) (s : Text) : Except ExpandError Text :=
  if s = [] then .ok []
  else
    match readValues s with
    | .error stop => .error (unexpectedAt s.length stop)
    | .ok values => .ok (Text.join [' '] (values.map (Value.toText property units)))

end Stylesheet

end Shorthand
