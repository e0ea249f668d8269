import Shorthand.Tag.Scanner

/-!
# `Shorthand.Tag.Region`: elements in a document

A region is an element as tags delimit it: a self-closing tag, or an opening tag
with its closing tag. A closing tag pairs with the last opening tag that has no
partner yet, and only under the same name.
-/

set_option autoImplicit false

namespace Shorthand

/-- An element at its place. Ranges are byte offsets, the end not included. -/
structure Region where
  name : Text
  opening : Nat × Nat
  closing : Option (Nat × Nat) := none
  deriving DecidableEq, Repr

namespace Region

/-- Where the region starts. -/
def start (r : Region) : Nat :=
  r.opening.1

/-- Where the region ends. -/
def stop (r : Region) : Nat :=
  match r.closing with
  | some closing => closing.2
  | none => r.opening.2

/-- Whether an offset lies strictly inside. -/
def encloses (r : Region) (offset : Nat) : Bool :=
  r.start < offset && offset < r.stop

/-- The regions of tags in the order of their ends. `stack` holds the opening tags
without a partner, the last one first. -/
def ofTags (stack : List Tag) : List Tag → List Region
  | [] => []
  | tag :: rest =>
    match tag.kind with
    | .opening => ofTags (tag :: stack) rest
    | .selfClosing => { name := tag.name, opening := (tag.start, tag.stop) } :: ofTags stack rest
    | .closing =>
      match stack with
      | [] => ofTags [] rest
      | top :: below =>
        if top.name = tag.name then
          { name := top.name, opening := (top.start, top.stop),
            closing := some (tag.start, tag.stop) } :: ofTags below rest
        else ofTags (top :: below) rest

/-- The regions of a document. -/
def all (s : Text) : List Region :=
  ofTags [] (Tag.scan s)

/-- The innermost region around an offset: the first one to end of those that
enclose it. -/
def at? (s : Text) (offset : Nat) : Option Region :=
  (all s).find? (·.encloses offset)

end Region

end Shorthand
