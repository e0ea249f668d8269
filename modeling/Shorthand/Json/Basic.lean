import Shorthand.Dict

/-!
# `Shorthand.Json.Basic`: JSON values

The values that clients send and that extension files hold, and the look-ups the
decoders need.
-/

set_option autoImplicit false

namespace Shorthand

/-- A decimal number, the mantissa divided by ten to the scale. Scale zero marks a
number written as an integer. -/
structure Decimal where
  mantissa : Int
  scale : Nat := 0
  deriving DecidableEq, Repr

/-- A JSON value. An object lists its fields, each name once. -/
inductive Json where
  | null
  | bool (value : Bool)
  | num (value : Decimal)
  | str (value : Text)
  | arr (items : List Json)
  | obj (fields : List (Text × Json))
  deriving Repr, Inhabited

namespace Json

/-- The value of a field of an object. -/
def field? : Json → Text → Option Json
  | obj fields, name => Dict.get? fields name
  | _, _ => none

/-- A string's text. -/
def text? : Json → Option Text
  | str value => some value
  | _ => none

/-- A truth value. -/
def bool? : Json → Option Bool
  | bool value => some value
  | _ => none

/-- An object's fields. -/
def fields? : Json → Option (Dict Json)
  | obj fields => some fields
  | _ => none

/-- An integer, written as one. -/
def int? : Json → Option Int
  | num ⟨mantissa, 0⟩ => some mantissa
  | _ => none

/-- An array's items. -/
def items? : Json → Option (List Json)
  | arr items => some items
  | _ => none

/-- An array of strings. -/
def texts? (j : Json) : Option (List Text) :=
  j.items?.bind fun items => items.mapM text?

/-- An object of strings. -/
def textFields? (j : Json) : Option (Dict Text) :=
  j.fields?.bind fun fields =>
    fields.mapM fun (name, value) => value.text?.map fun text => (name, text)

/-- An integer. -/
def ofInt (n : Int) : Json :=
  num ⟨n, 0⟩

/-- A natural number. -/
def ofNat (n : Nat) : Json :=
  ofInt n

end Json

end Shorthand
