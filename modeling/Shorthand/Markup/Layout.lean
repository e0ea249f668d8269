import Shorthand.Markup.Tree
import Shorthand.Markup.Vocabulary
import Shorthand.TabStop

/-!
# `Shorthand.Markup.Layout`: lines of tags

Rendering goes through a list of lines, each a depth and a content, so that the
indentation unit enters only at the end. An element whose children all stay inline
is one line. A block has a line for its opening tag, the lines of its text and
children one level deeper, and a line for its closing tag.

Tab stops are numbered from one in the order of the output: one for each attribute
without a value, and one for each element without content that has a closing tag.
-/

set_option autoImplicit false

namespace Shorthand

namespace Markup

/-- How a tag without content ends. -/
inductive SelfClosing where
  | html
  | xhtml
  | xml
  deriving DecidableEq, Repr

namespace SelfClosing

/-- The style of a name. -/
def ofName? (name : Text) : Option SelfClosing :=
  if name = "html".toList then some html
  else if name = "xhtml".toList then some xhtml
  else if name = "xml".toList then some xml
  else none

/-- The style of a grammar that sets none. -/
def ofGrammar (grammar : Text) : SelfClosing :=
  if grammar = "jsx".toList then xhtml
  else if Text.oneOf ["xml", "xsl"] grammar then xml
  else html

/-- What stands before the closing angle bracket. -/
def mark : SelfClosing → Text
  | html => ""
  | xhtml => " /"
  | xml => "/"

end SelfClosing

/-- How tags are written. -/
structure Style where
  /-- Attribute names and values of component markup. -/
  jsx : Bool := false
  selfClosing : SelfClosing := .html

/-- One line of output. -/
structure Line where
  depth : Nat
  content : Text
  deriving DecidableEq, Repr

/-- The lines joined, each behind its indentation. -/
def Line.joined (indent : Text) (lines : List Line) : Text :=
  Text.join ['\n'] (lines.map fun line => Text.times line.depth indent ++ line.content)

/-! ### Tags -/

/-- An attribute's name as it is written. -/
def attributeName (style : Style) (name : Text) : Text :=
  if style.jsx ∧ name = "class".toList then "className"
  else if style.jsx ∧ name = "for".toList then "htmlFor"
  else name

/-- Whether a value is an expression in braces. -/
def isExpression (value : Text) : Bool :=
  value.head? == some '{' && value.getLast? == some '}'

/-- Whether a text is missing or empty. -/
def isBare (text : Option Text) : Bool :=
  text.getD [] == []

/-- An attribute, behind a blank. `n` counts the tab stops before and after. -/
def renderAttribute (style : Style) (n : Nat) (a : Attribute) : Text × Nat :=
  let value := a.value.getD []
  let start := ' ' :: attributeName style a.name ++ ['=']
  if style.jsx && isExpression value then (start ++ value, n)
  else if value = [] then (start ++ '"' :: tabStop (n + 1) ++ ['"'], n + 1)
  else (start ++ '"' :: value ++ ['"'], n)

/-- Attributes in order. -/
def renderAttributes (style : Style) : Nat → List Attribute → Text × Nat
  | n, [] => ([], n)
  | n, a :: rest =>
    let first := renderAttribute style n a
    let others := renderAttributes style first.2 rest
    (first.1 ++ others.1, others.2)

/-- An opening tag without its closing angle bracket. -/
def tagStart (style : Style) (n : Nat) (name : Text) (attributes : List Attribute) : Text × Nat :=
  let rendered := renderAttributes style n attributes
  ('<' :: name ++ rendered.1, rendered.2)

/-- A closing tag. -/
def closingTag (name : Text) : Text :=
  '<' :: '/' :: name ++ ['>']

/-- Whether an element is written as one tag. -/
def closesItself (name : Text) (text : Option Text) (selfClosing : Bool) (children : List Tree) :
    Bool :=
  selfClosing || (isVoid name && text.isNone && children.isEmpty)

/-! ### Inline content -/

mutual

/-- Whether a node stays on one line with its neighbours. -/
def isInline : Tree → Bool
  | .text _ => true
  | .element name _ _ _ children => isInlineName name && allInline children

/-- Whether all nodes stay on one line. -/
def allInline : List Tree → Bool
  | [] => true
  | tree :: rest => isInline tree && allInline rest

end

mutual

/-- A node on one line. `n` counts the tab stops before and after. -/
def inlineNode (style : Style) (n : Nat) : Tree → Text × Nat
  | .text content => (content, n)
  | .element name attributes text selfClosing children =>
    let start := tagStart style n name attributes
    if closesItself name text selfClosing children then
      (start.1 ++ style.selfClosing.mark ++ ['>'], start.2)
    else if isBare text && children.isEmpty then
      (start.1 ++ '>' :: tabStop (start.2 + 1) ++ closingTag name, start.2 + 1)
    else
      let below := inlineForest style start.2 children
      (start.1 ++ '>' :: text.getD [] ++ below.1 ++ closingTag name, below.2)

/-- Nodes on one line, without anything between them. -/
def inlineForest (style : Style) (n : Nat) : List Tree → Text × Nat
  | [] => ([], n)
  | tree :: rest =>
    let first := inlineNode style n tree
    let others := inlineForest style first.2 rest
    (first.1 ++ others.1, others.2)

end

/-! ### Blocks -/

/-- Whether an element is written on several lines. -/
def isBlock (name : Text) (text : Option Text) (selfClosing : Bool) (children : List Tree) :
    Bool :=
  !closesItself name text selfClosing children && (forcesBlock name || !allInline children)

mutual

/-- The lines of a node at a depth. `n` counts the tab stops before and after. -/
def nodeLines (style : Style) (depth n : Nat) : Tree → List Line × Nat
  | .text content => ([⟨depth, content⟩], n)
  | .element name attributes text selfClosing children =>
    if isBlock name text selfClosing children then
      let start := tagStart style n name attributes
      let inner := if skipsIndent name then depth else depth + 1
      let textLines := if isBare text then [] else [⟨inner, text.getD []⟩]
      let below := forestLines style inner start.2 children
      let stop :=
        if isBare text && children.isEmpty then ([⟨inner, tabStop (below.2 + 1)⟩], below.2 + 1)
        else ([], below.2)
      (⟨depth, start.1 ++ ['>']⟩ :: textLines ++ below.1 ++ stop.1 ++ [⟨depth, closingTag name⟩],
        stop.2)
    else
      let line := inlineNode style n (.element name attributes text selfClosing children)
      ([⟨depth, line.1⟩], line.2)

/-- The lines of nodes at a depth. -/
def forestLines (style : Style) (depth n : Nat) : List Tree → List Line × Nat
  | [] => ([], n)
  | tree :: rest =>
    let first := nodeLines style depth n tree
    let others := forestLines style depth first.2 rest
    (first.1 ++ others.1, others.2)

end

/-- The lines of a whole forest: one line when all of it stays inline. -/
def layout (style : Style) (forest : List Tree) : List Line :=
  if allInline forest then [⟨0, (inlineForest style 0 forest).1⟩]
  else (forestLines style 0 0 forest).1

/-- The text of a forest. -/
def render (style : Style) (indent : Text) (forest : List Tree) : Text :=
  Line.joined indent (layout style forest)

end Markup

end Shorthand
