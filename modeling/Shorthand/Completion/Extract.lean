import Shorthand.Text.Blank
import Shorthand.Text.Word

/-!
# `Shorthand.Completion.Extract`: the abbreviation before the cursor

The text of a line up to the cursor is read from right to left. Inside brackets
and braces everything belongs to the abbreviation, and quotes may hold further
brackets. Outside, it ends where a character cannot be part of it: at other
characters, at an opening bracket without its partner, and at the angle bracket
that closes a tag.
-/

set_option autoImplicit false

namespace Shorthand

namespace Completion

/-- Characters of abbreviations outside brackets, besides letters, numbers and
parentheses. -/
def isOperator (c : Char) : Bool :=
  ['#', '.', '*', ':', '$', '-', '_', '!', '@', '%', '^', '+', '>', '/'].contains c

/-- A character of a tag's name. -/
def isTagNameChar (c : Char) : Bool :=
  Text.isWord c || c == ':' || c == '.' || c == '-'

/-- Whether a text can stand between the angle brackets of a tag: a name, perhaps
behind a slash, and then nothing, a slash, or white space and attributes. -/
def isTagBody (body : Text) : Bool :=
  let name := match body with
    | '/' :: rest => rest
    | rest => rest
  match name with
  | [] => false
  | c :: rest =>
    c.isAlpha &&
      match rest.dropWhile isTagNameChar with
      | [] => true
      | ['/'] => true
      | c :: rest => Text.isBlank c && !rest.contains '>'

/-- Whether an angle bracket closes a tag. `before` is what stands before it, the
nearest character first. -/
def closesTag (before : Text) : Bool :=
  before.contains '<' && isTagBody (before.takeWhile (· != '<')).reverse

/-- What is open while reading from right to left. -/
structure Scan where
  /-- Brackets and braces that wait for their opening partner, the last one first. -/
  closers : List Char := []
  /-- The quote that is open inside them. -/
  quote : Option Char := none
  /-- Parentheses that wait for their opening partner. -/
  groups : Nat := 0

/-- The closing partner of an opening bracket or brace. -/
def closerOf (c : Char) : Char :=
  if c = '[' then ']' else '}'

/-- What one character does: it belongs to the abbreviation, it stands before it, or
there is no abbreviation. -/
inductive Step where
  | take (state : Scan)
  | stop
  | fail

/-- The step for a character, with what stands before it, the nearest first. -/
def step (state : Scan) (c : Char) (before : Text) : Step :=
  match state.quote, state.closers with
  | some quote, _ => .take (if c = quote then { state with quote := none } else state)
  | none, closer :: outer =>
    if c = '"' ∨ c = '\'' then .take { state with quote := some c }
    else if c = ']' ∨ c = '}' then .take { state with closers := c :: closer :: outer }
    else if c = '[' ∨ c = '{' then
      if closer = closerOf c then .take { state with closers := outer } else .fail
    else .take state
  | none, [] =>
    if c = ']' ∨ c = '}' then .take { state with closers := [c] }
    else if c = '[' ∨ c = '{' then .stop
    else if c = ')' then .take { state with groups := state.groups + 1 }
    else if c = '(' then
      if state.groups = 0 then .stop else .take { state with groups := state.groups - 1 }
    else if c = '>' ∧ closesTag before then .stop
    else if Text.isAlphanumeric c || isOperator c then .take state
    else .stop

/-- Reads from right to left. `taken` is what belongs to the abbreviation so far, in
order. Gives the part of the line before the abbreviation, from right to left, and
the abbreviation. -/
def scan (state : Scan) (taken : Text) : Text → Option (Text × Text)
  | [] => if state.quote.isNone && state.closers.isEmpty then some ([], taken) else none
  | c :: before =>
    match step state c before with
    | .take state => scan state (c :: taken) before
    | .stop => some (c :: before, taken)
    | .fail => none

/-- Characters that an abbreviation does not start with. -/
def isBadStart (c : Char) : Bool :=
  ['>', '+', '^', '*', '/', ')'].contains c

/-- The abbreviation at the end of a line, with what stands before it. -/
def extract (line : Text) : Option (Text × Text) :=
  match scan {} [] line.reverse with
  | none => none
  | some (before, abbreviation) =>
    match abbreviation with
    | [] => none
    | c :: _ => if isBadStart c then none else some (before.reverse, abbreviation)

end Completion

end Shorthand
