import Shorthand.Document.Lines

/-!
# `Shorthand.Document.Basic`: documents, positions and edits

A position is a line and a column in UTF-16 units, as editors count. `offsetAt`
gives its offset in bytes and `positionAt` the way back. Positions that denote no
place are moved to one: a column beyond a line to the end of the line, a column
inside a surrogate pair behind the character, a line beyond the text to the end of
the text.
-/

set_option autoImplicit false

namespace Shorthand

/-- A line and a column, both from zero. Columns count UTF-16 units. -/
structure Position where
  line : Nat
  column : Nat
  deriving DecidableEq, Repr

/-- What lies between two positions. -/
structure Range where
  start : Position
  stop : Position
  deriving DecidableEq, Repr

/-- A change to a document: new text for a range, or for all of it. -/
structure Change where
  range : Option Range := none
  text : Text
  deriving DecidableEq, Repr

/-- An open document. -/
structure Document where
  language : Text
  version : Int
  text : Text
  deriving DecidableEq, Repr

namespace Text

/-- Offset in bytes of a position. -/
def offsetAt (t : Text) (p : Position) : Nat :=
  match (lineStarts t)[p.line]?, (lines t)[p.line]? with
  | some start, some line => start + utf8Size (takeUnits p.column (lineContent line))
  | _, _ => utf8Size t

/-- The line and column that lie `offset` bytes into lines of which the first has
the number `line`. -/
def locate (line offset : Nat) : List Text → Position
  | [] => ⟨line, 0⟩
  | [last] => ⟨line, utf16Size (takeBytes offset last)⟩
  | first :: next :: rest =>
    if offset < utf8Size first then ⟨line, utf16Size (takeBytes offset first)⟩
    else locate (line + 1) (offset - utf8Size first) (next :: rest)

/-- Position of an offset in bytes. An offset beyond the text is its end. -/
def positionAt (t : Text) (offset : Nat) : Position :=
  locate 0 (min offset (utf8Size t)) (lines t)

/-- The part of a position's line that lies before it. -/
def linePrefixAt (t : Text) (p : Position) : Text :=
  match (lines t)[p.line]? with
  | some line => takeUnits p.column (lineContent line)
  | none => []

/-- Replaces what lies between two offsets. An end before the start counts as the
start. -/
def splice (t : Text) (start stop : Nat) (new : Text) : Text :=
  takeBytes start t ++ new ++ dropBytes (max start stop) t

/-- The text after a change. -/
def change (t : Text) (c : Change) : Text :=
  match c.range with
  | some range => splice t (offsetAt t range.start) (offsetAt t range.stop) c.text
  | none => c.text

end Text

namespace Document

/-- The document after changes, one after another, under a new version. -/
def apply (d : Document) (changes : List Change) (version : Int) : Document :=
  { d with text := changes.foldl Text.change d.text, version }

/-- Number of lines. -/
def lineCount (d : Document) : Nat :=
  (Text.lines d.text).length

end Document

end Shorthand
