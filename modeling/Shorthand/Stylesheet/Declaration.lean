import Shorthand.Snippet.Registry
import Shorthand.Stylesheet.Value
import Shorthand.Text.Blank

/-!
# `Shorthand.Stylesheet.Declaration`: one part of a stylesheet abbreviation

A part is looked up as a whole first: among the custom snippets, the whole
declarations and the short names of properties. Otherwise it is a property with a
value, divided by a colon or by where a number or colour starts.
-/

set_option autoImplicit false

namespace Shorthand

namespace Stylesheet

/-- How far the look-up of a property goes. -/
inductive Lookup where
  /-- Short names and full names only. -/
  | exact
  /-- Beginnings of full names as well, and unknown words stand for themselves. -/
  | fuzzy
  deriving DecidableEq, Repr

/-- A declaration. Without a value it has a tab stop in its place. -/
structure Declaration where
  property : Option Text := none
  value : Option Text := none
  deriving DecidableEq, Repr

namespace Declaration

/-- Reads a declaration that is written out, its final semicolons aside. -/
def ofText (text : Text) : Declaration :=
  let text := Text.trimEndWhile (· == ';') (Text.trim text)
  match Text.splitOnce ':' text with
  | none => { value := some text }
  | some (property, value) =>
    let value := Text.trim value
    { property := some (Text.trim property), value := if value = [] then none else some value }

/-- A word that names no property: itself, with an empty value, in a fuzzy look-up. -/
def unknown (part : Text) : Lookup → Declaration
  | .exact => {}
  | .fuzzy => { property := some part }

end Declaration

/-- The property of a name. -/
def property? (lookup : Lookup) (name : Text) : Option Text :=
  if name = [] then none
  else
    match find? properties name with
    | some property => some property
    | none =>
      if properties.any (fun entry => entry.2.toList == name) then some name
      else
        match lookup with
        | .exact => none
        | .fuzzy =>
          (properties.find? fun entry => Text.startsWith entry.2.toList name).map
            fun entry => entry.2.toList

/-- Whether a number or a colour starts here. -/
def startsValue : Text → Bool
  | '-' :: c :: _ => isNumberChar c
  | c :: _ => isNumberChar c || c == '#'
  | [] => false

/-- Name and values of a part, divided where the first value starts. -/
def splitName (part : Text) : Text × Text :=
  let (name, values) := Text.breakBefore startsValue part
  (name, values.getD [])

/-- A property with a value behind a colon. -/
def withColon (lookup : Lookup) (units : Units) (part name value : Text) :
    Except ExpandError Declaration :=
  match property? lookup name with
  | none => .ok (.unknown part lookup)
  | some property =>
    match find? keywords value with
    | some keyword => .ok { property := some property, value := some keyword }
    | none =>
      if value = [] then .ok { property := some property }
      else if startsValue value then
        (parseValues property units value).map fun value =>
          { property := some property, value := some value }
      else .ok { property := some property, value := some value }

/-- A property with its values right behind it. -/
def withoutColon (lookup : Lookup) (units : Units) (part : Text) :
    Except ExpandError Declaration :=
  let (name, values) := splitName part
  match property? lookup name with
  | none => .ok (.unknown part lookup)
  | some property =>
    if values = [] then .ok { property := some property }
    else
      (parseValues property units values).map fun value =>
        { property := some property, value := some value }

/-- The declaration of a part. -/
def declaration (grammar : Text) (registry : Registry) (units : Units) (lookup : Lookup)
    (part : Text) : Except ExpandError Declaration :=
  match registry.snippet? grammar part, find? declarations part, find? properties part with
  | some custom, _, _ => .ok (.ofText custom)
  | none, some text, _ => .ok (.ofText text)
  | none, none, some property => .ok { property := some property }
  | none, none, none =>
    match Text.splitOnce ':' part with
    | some (name, value) => withColon lookup units part name value
    | none => withoutColon lookup units part

end Stylesheet

end Shorthand
