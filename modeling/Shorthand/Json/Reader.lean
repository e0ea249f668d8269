import Shorthand.Json.Basic
import Shorthand.Text.Numeral
import Shorthand.Text.Utf8

/-!
# `Shorthand.Json.Reader`: JSON text

A strict reader: no comments, no trailing commas, no control characters inside
strings, no unpaired surrogate escapes, nothing after the value but white space.
Values nest at most `maxNesting` deep. Of equal field names the last one counts.
Integers that fit into 64 bits, signed or unsigned, stay integers; every other
number is a fraction, and one too large for a double is refused.
-/

set_option autoImplicit false

namespace Shorthand

namespace Json

/-- Arrays and objects inside one another. -/
def maxNesting : Nat := 127

/-- White space between tokens. -/
def isSpace (c : Char) : Bool :=
  c == ' ' || c == '\n' || c == '\t' || c == '\r'

/-- Without leading white space. -/
def skipSpace (s : Text) : Text :=
  s.dropWhile isSpace

/-! ### Numbers -/

/-- Whether a number of the given size is too large for a double: it would round
to two to the 1024 or more. -/
def overflows (mantissa scaleUp : Nat) : Bool :=
  mantissa != 0 &&
    ((Text.ofNat mantissa).length + scaleUp > 310 ||
      mantissa * Nat.pow 10 scaleUp ≥ Nat.pow 2 1024 - Nat.pow 2 970)

/-- A number with a fraction or an exponent. At least one place is kept, and what
is below every double is zero. -/
def fraction? (negative : Bool) (mantissa : Nat) (exponent : Int) : Option Decimal :=
  let sign : Int := if negative then -1 else 1
  match exponent with
  | .ofNat up =>
    if mantissa = 0 then some ⟨0, 1⟩
    else if overflows mantissa up then none
    else some ⟨sign * ((mantissa * Nat.pow 10 (up + 1) : Nat) : Int), 1⟩
  | .negSucc down =>
    let scale := down + 1
    let digits := (Text.ofNat mantissa).length
    if mantissa = 0 ∨ digits + 400 < scale then some ⟨0, 1⟩
    else if scale < digits ∧ overflows (mantissa / Nat.pow 10 scale) 0 then none
    else some ⟨sign * (mantissa : Int), scale⟩

/-- An integer, which stays one when 64 bits hold it. -/
def integer? (negative : Bool) (n : Nat) : Option Decimal :=
  if negative then
    if n = 0 then some ⟨0, 1⟩
    else if n ≤ 0x8000000000000000 then some ⟨-(n : Int), 0⟩
    else fraction? true n 0
  else if n ≤ wordMax then some ⟨n, 0⟩
  else fraction? false n 0

/-- The exponent after its letter, with the text behind it. -/
def readExponent (s : Text) : Option (Int × Text) :=
  let (negative, s) :=
    match s with
    | '-' :: rest => (true, rest)
    | '+' :: rest => (false, rest)
    | s => (false, s)
  match s.takeWhile Text.isDigit with
  | [] => none
  | digits =>
    let n := Text.digitsValue digits
    some (if negative then -(n : Int) else n, s.dropWhile Text.isDigit)

/-- A number, from its sign or first digit. -/
def readNumber (s : Text) : Option (Decimal × Text) :=
  let (negative, s) :=
    match s with
    | '-' :: rest => (true, rest)
    | s => (false, s)
  let whole := s.takeWhile Text.isDigit
  let s := s.dropWhile Text.isDigit
  if whole = [] ∨ (whole.head? = some '0' ∧ 1 < whole.length) then none
  else
    let places := match s with
      | '.' :: rest => some (rest.takeWhile Text.isDigit)
      | _ => none
    if places = some [] then none
    else
      let s := match places, s with
        | some digits, _ :: rest => rest.drop digits.length
        | _, s => s
      let mantissa := Text.digitsValue (whole ++ places.getD [])
      let shift : Int := (places.getD []).length
      match s with
      | c :: rest =>
        if c = 'e' ∨ c = 'E' then
          (readExponent rest).bind fun (exponent, after) =>
            (fraction? negative mantissa (exponent - shift)).map (·, after)
        else if places.isNone then (integer? negative mantissa).map (·, s)
        else (fraction? negative mantissa (-shift)).map (·, s)
      | [] =>
        if places.isNone then (integer? negative mantissa).map (·, s)
        else (fraction? negative mantissa (-shift)).map (·, s)

/-! ### Strings -/

/-- Four hexadecimal digits. -/
def readUnit : Text → Option (Nat × Text)
  | a :: b :: c :: d :: rest => do
    let a ← Text.hexValue a
    let b ← Text.hexValue b
    let c ← Text.hexValue c
    let d ← Text.hexValue d
    return (((a * 16 + b) * 16 + c) * 16 + d, rest)
  | _ => none

/-- The character of an escape by code units, a surrogate pair included. -/
def readUnicodeEscape (s : Text) : Option (Char × Text) := do
  let (high, rest) ← readUnit s
  if 0xDC00 ≤ high ∧ high ≤ 0xDFFF then none
  else if 0xD800 ≤ high ∧ high ≤ 0xDBFF then
    match rest with
    | '\\' :: 'u' :: rest =>
      let (low, rest) ← readUnit rest
      if 0xDC00 ≤ low ∧ low ≤ 0xDFFF then
        return (Char.ofNat (0x10000 + (high - 0xD800) * 0x400 + (low - 0xDC00)), rest)
      else none
    | _ => none
  else return (Char.ofNat high, rest)

/-- The character of an escape, after its backslash. -/
def readEscape : Text → Option (Char × Text)
  | '"' :: rest => some ('"', rest)
  | '\\' :: rest => some ('\\', rest)
  | '/' :: rest => some ('/', rest)
  | 'b' :: rest => some (Char.ofNat 0x08, rest)
  | 'f' :: rest => some (Char.ofNat 0x0C, rest)
  | 'n' :: rest => some ('\n', rest)
  | 'r' :: rest => some ('\r', rest)
  | 't' :: rest => some ('\t', rest)
  | 'u' :: rest => readUnicodeEscape rest
  | _ => none

/-- A string after its opening quote, in at most `fuel` characters. -/
def readString : Nat → Text → Option (Text × Text)
  | 0, _ => none
  | _, [] => none
  | fuel + 1, c :: rest =>
    if c = '"' then some ([], rest)
    else if c = '\\' then
      (readEscape rest).bind fun (c, rest) =>
        (readString fuel rest).map fun (text, after) => (c :: text, after)
    else if c.toNat < 0x20 then none
    else (readString fuel rest).map fun (text, after) => (c :: text, after)

/-! ### Values -/

/-- Items of an array with a reader for one, after the opening bracket or a comma,
in at most `fuel` items. -/
def readItems (value : Text → Option (Json × Text)) : Nat → Text → Option (List Json × Text)
  | 0, _ => none
  | fuel + 1, s =>
    (value s).bind fun (item, rest) =>
      match skipSpace rest with
      | ']' :: after => some ([item], after)
      | ',' :: rest => (readItems value fuel rest).map fun (items, after) => (item :: items, after)
      | _ => none

/-- Fields of an object with a reader for one value, after the opening brace or a
comma, in at most `fuel` fields. -/
def readFields (value : Text → Option (Json × Text)) :
    Nat → Text → Option (List (Text × Json) × Text)
  | 0, _ => none
  | fuel + 1, s =>
    match skipSpace s with
    | '"' :: rest =>
      (readString (rest.length + 1) rest).bind fun (name, rest) =>
        match skipSpace rest with
        | ':' :: rest =>
          (value rest).bind fun (item, rest) =>
            match skipSpace rest with
            | '}' :: after => some ([(name, item)], after)
            | ',' :: rest =>
              (readFields value fuel rest).map fun (fields, after) =>
                ((name, item) :: fields, after)
            | _ => none
        | _ => none
    | _ => none

/-- A value with at most `depth` arrays and objects inside one another. -/
def readValue : Nat → Text → Option (Json × Text)
  | depth, s =>
    match skipSpace s with
    | [] => none
    | c :: rest =>
      if c = '"' then
        (readString (rest.length + 1) rest).map fun (text, after) => (str text, after)
      else if c = '[' then
        match depth with
        | 0 => none
        | depth + 1 =>
          match skipSpace rest with
          | ']' :: after => some (arr [], after)
          | rest =>
            (readItems (readValue depth) (rest.length + 1) rest).map fun (items, after) =>
              (arr items, after)
      else if c = '{' then
        match depth with
        | 0 => none
        | depth + 1 =>
          match skipSpace rest with
          | '}' :: after => some (obj [], after)
          | rest =>
            (readFields (readValue depth) (rest.length + 1) rest).map fun (fields, after) =>
              (obj (Dict.ofEntries fields), after)
      else if c = '-' ∨ c.isDigit then
        (readNumber (c :: rest)).map fun (n, after) => (num n, after)
      else
        match Text.stripStart? "null" (c :: rest), Text.stripStart? "true" (c :: rest),
            Text.stripStart? "false" (c :: rest) with
        | some after, _, _ => some (null, after)
        | _, some after, _ => some (bool true, after)
        | _, _, some after => some (bool false, after)
        | none, none, none => none

/-- The value a text denotes, when it is JSON. -/
def ofText? (s : Text) : Option Json :=
  (readValue maxNesting s).bind fun (value, rest) =>
    if skipSpace rest = [] then some value else none

/-- The value a file's bytes denote: UTF-8, with or without a byte order mark. -/
def ofBytes? : List UInt8 → Option Json
  | 0xEF :: 0xBB :: 0xBF :: bytes => (Text.ofUtf8? bytes).bind ofText?
  | bytes => (Text.ofUtf8? bytes).bind ofText?

end Json

end Shorthand
