import Shorthand.Text.Basic

/-!
# `Shorthand.Abbreviation.Node`: what an abbreviation stands for

An abbreviation denotes a forest of nodes. A node is an element with children, or
a group of nodes in parentheses. `Element` is what is written for one element
without its children, so that a traversal can speak of elements alone.

`Node.append` attaches children the way the child operator does: an element takes
them, a group hands them to its last member.
-/

set_option autoImplicit false

namespace Shorthand

/-- An attribute, with a value or with a name only. -/
structure Attribute where
  name : Text
  value : Option Text := none
  deriving DecidableEq, Repr

namespace Attribute

/-- Sets an attribute in a list: the first one of that name takes the value, and a
new name goes to the end. -/
def set (name : Text) (value : Option Text) : List Attribute → List Attribute
  | [] => [⟨name, value⟩]
  | a :: rest => if a.name = name then ⟨name, value⟩ :: rest else a :: set name value rest

/-- The value of `class` after one more class is added to the present value. -/
def joinClass (extra : Text) : Option Text → Text
  | some present => if present = [] then extra else present ++ ' ' :: extra
  | none => extra

/-- Adds a class to a list of attributes: after a blank where there are classes
already, as the only one otherwise. -/
def addClass (extra : Text) : List Attribute → List Attribute
  | [] => [⟨"class", some extra⟩]
  | a :: rest =>
    if a.name = "class".toList then ⟨a.name, some (joinClass extra a.value)⟩ :: rest
    else a :: addClass extra rest

end Attribute

/-- One element as it is written, without its children. -/
structure Element where
  name : Option Text := none
  attributes : List Attribute := []
  text : Option Text := none
  count : Option Nat := none
  selfClosing : Bool := false
  deriving DecidableEq, Repr

namespace Element

/-- The element with one attribute set. -/
def setAttribute (e : Element) (name : Text) (value : Option Text) : Element :=
  { e with attributes := Attribute.set name value e.attributes }

/-- The element with one more class. -/
def addClass (e : Element) (extra : Text) : Element :=
  { e with attributes := Attribute.addClass extra e.attributes }

/-- The element with more text after its text. -/
def addText (e : Element) (extra : Text) : Element :=
  { e with text := some (e.text.getD [] ++ extra) }

/-- Text and nothing else, apart from a repeat count. -/
def isTextOnly (e : Element) : Bool :=
  e.name.isNone && e.attributes.isEmpty && e.text.isSome && !e.selfClosing

end Element

/-- A node of an abbreviation. -/
inductive Node where
  /-- An element above its children. -/
  | element (head : Element) (children : List Node)
  /-- A group, repeated as a whole. -/
  | group (members : List Node) (count : Option Nat)
  deriving Repr

namespace Node

mutual

/-- Attaches children below a node. -/
def append (extra : List Node) : Node → Node
  | element head children => element head (children ++ extra)
  | group members count => group (appendLast extra members) count

/-- Attaches children below the last of several nodes. Without any node they
stand alone. -/
def appendLast (extra : List Node) : List Node → List Node
  | [] => extra
  | [node] => [append extra node]
  | node :: next :: rest => node :: appendLast extra (next :: rest)

end

/-- An element that is text and nothing else. -/
def isTextOnly : Node → Bool
  | element head children => head.isTextOnly && children.isEmpty
  | group _ _ => false

end Node

end Shorthand
