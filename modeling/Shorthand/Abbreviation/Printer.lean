import Shorthand.Abbreviation.Node
import Shorthand.Text.Numeral

/-!
# `Shorthand.Abbreviation.Printer`: a forest as an abbreviation

One way to write each forest. Attributes stand in brackets with quoted values, text
in braces with its braces and backslashes escaped. Behind a node without children
the next one follows a plus sign; behind children it follows one climb for each
level that is still open.
-/

set_option autoImplicit false

namespace Shorthand

namespace Abbreviation

/-- Text inside braces. -/
def printText (t : Text) : Text :=
  t.flatMap fun c => if c = '\\' ∨ c = '{' ∨ c = '}' then ['\\', c] else [c]

/-- An attribute inside brackets. -/
def printAttribute (a : Attribute) : Text :=
  match a.value with
  | some value => a.name ++ '=' :: '"' :: value ++ ['"']
  | none => a.name

/-- Attributes with their brackets, or nothing. -/
def printAttributes : List Attribute → Text
  | [] => []
  | attributes => '[' :: Text.join [' '] (attributes.map printAttribute) ++ [']']

/-- A repeat with its asterisk, or nothing. -/
def printCount : Option Nat → Text
  | some n => '*' :: Text.ofNat n
  | none => []

/-- One element. -/
def printElement (e : Element) : Text :=
  e.name.getD [] ++ printAttributes e.attributes ++
    (match e.text with
      | some text => '{' :: printText text ++ ['}']
      | none => []) ++
    printCount e.count ++ if e.selfClosing then ['/'] else []

mutual

/-- Levels that are still open behind a node. -/
def openLevels : Node → Nat
  | .element _ children => openBelow children
  | .group _ _ => 0

/-- Levels that are still open behind the children of an element. -/
def openBelow : List Node → Nat
  | [] => 0
  | [node] => openLevels node + 1
  | _ :: next :: rest => openBelow (next :: rest)

end

/-- What stands between a node and the next one beside it. -/
def separator (node : Node) : Text :=
  match openLevels node with
  | 0 => ['+']
  | n + 1 => List.replicate (n + 1) '^'

mutual

/-- A node with all that is below it. -/
def printNode : Node → Text
  | .element head children =>
    printElement head ++ (if children.isEmpty then [] else '>' :: print children)
  | .group members count => '(' :: print members ++ ')' :: printCount count

/-- A forest. -/
def print : List Node → Text
  | [] => []
  | [node] => printNode node
  | node :: next :: rest => printNode node ++ separator node ++ print (next :: rest)

end

end Abbreviation

end Shorthand
