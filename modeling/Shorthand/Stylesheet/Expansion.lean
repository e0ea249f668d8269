import Shorthand.Options
import Shorthand.Stylesheet.Declaration
import Shorthand.TabStop

/-!
# `Shorthand.Stylesheet.Expansion`: stylesheet abbreviations

Parts are divided by plus signs, and each becomes a declaration on a line of its
own. A part that ends in an exclamation mark is important. Declarations without a
value have tab stops, numbered from one.
-/

set_option autoImplicit false

namespace Shorthand

namespace Stylesheet

/-- A part without its mark of importance, and whether it had one. -/
def splitImportant (part : Text) : Text × Bool :=
  match Text.stripEnd? '!' part with
  | some rest => (rest, true)
  | none => (part, false)

/-- A declaration's line. `n` counts the tab stops before and after. -/
def declarationLine (terminator : Text) (important : Bool) (n : Nat) (d : Declaration) :
    Text × Nat :=
  let (value, n) := match d.value with
    | some value => (value, n)
    | none => (tabStop (n + 1), n + 1)
  let start := match d.property with
    | some property => property ++ ": ".toList
    | none => []
  (start ++ value ++ (if important then " !important".toList else []) ++ terminator, n)

/-- The lines of parts, from left to right. -/
def expandParts (terminator : Text) (declare : Text → Except ExpandError Declaration) :
    Nat → List Text → Except ExpandError (List Text)
  | _, [] => .ok []
  | n, part :: rest =>
    if part = [] then .error .unexpectedEnd
    else
      let (body, important) := splitImportant part
      match declare body with
      | .error e => .error e
      | .ok d =>
        let (line, n) := declarationLine terminator important n d
        match expandParts terminator declare n rest with
        | .error e => .error e
        | .ok lines => .ok (line :: lines)

/-- What ends a declaration in a grammar. -/
def terminatorOf (grammar : Text) : Text :=
  if Text.oneOf indented grammar then "" else ";"

/-- The units that options set, or the usual ones. -/
def unitsOf (options : ExpandOptions) : Units :=
  { int := (options.text? ExpandOptions.intUnitKey).getD "px"
    float := (options.text? ExpandOptions.floatUnitKey).getD "em" }

/-- The expansion of a stylesheet abbreviation in a grammar. -/
def expand (abbreviation grammar : Text) (registry : Registry) (options : ExpandOptions) :
    Except ExpandError Text :=
  let abbreviation := Text.trim abbreviation
  if abbreviation = [] then .error .empty
  else
    (expandParts (terminatorOf grammar)
      (declaration grammar registry (unitsOf options) .fuzzy) 0
      (Text.split '+' abbreviation)).map (Text.join ['\n'])

/-- Whether a part names a property by the exact look-up. -/
def isKnownPart (grammar : Text) (registry : Registry) (part : Text) : Bool :=
  match declaration grammar registry {} .exact (splitImportant part).1 with
  | .ok d => d.property.isSome
  | .error _ => false

/-- Whether every part names a property by the exact look-up. -/
def isKnown (abbreviation grammar : Text) (registry : Registry) : Bool :=
  abbreviation != [] && (Text.split '+' abbreviation).all (isKnownPart grammar registry)

end Stylesheet

end Shorthand
