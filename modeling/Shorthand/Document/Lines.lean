import Shorthand.Text.Basic

/-!
# `Shorthand.Document.Lines`: lines of a text

A line ends with a line feed, a carriage return, or both in this order. `lines`
cuts a text behind each line end, so the last line has none and a text has one
line more than it has line ends.

- `flatten_lines`: the lines put together are the text.
-/

set_option autoImplicit false

namespace Shorthand

namespace Text

/-- Puts a character in front of the first line. -/
def consFirst (c : Char) : List Text → List Text
  | [] => [[c]]
  | line :: rest => (c :: line) :: rest

/-- The lines of a text, each with its line end. -/
def lines : Text → List Text
  | [] => [[]]
  | '\r' :: '\n' :: rest => ['\r', '\n'] :: lines rest
  | c :: rest =>
    if c = '\n' ∨ c = '\r' then [c] :: lines rest else consFirst c (lines rest)

/-- A character of a line end. -/
def isBreak (c : Char) : Bool :=
  c == '\n' || c == '\r'

/-- A line without its line end. -/
def lineContent (line : Text) : Text :=
  trimEndWhile isBreak line

/-- Offsets in bytes at which lines start, the first one at `offset`. -/
def startsFrom (offset : Nat) : List Text → List Nat
  | [] => []
  | line :: rest => offset :: startsFrom (offset + utf8Size line) rest

/-- Offsets in bytes at which the lines of a text start. -/
def lineStarts (t : Text) : List Nat :=
  startsFrom 0 (lines t)

/-- The lines put together are the text. -/
theorem flatten_lines (t : Text) : (lines t).flatten = t := by
  fun_induction lines t with
  | case1 => rfl
  | case2 rest ih => simp [ih]
  | case3 c rest _ _ ih => simp [ih]
  | case4 c rest _ _ ih =>
    have first (ls : List Text) : (consFirst c ls).flatten = c :: ls.flatten := by
      cases ls <;> simp [consFirst]
    rw [first, ih]

end Text

end Shorthand
