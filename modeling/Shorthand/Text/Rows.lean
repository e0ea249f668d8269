import Shorthand.Text.Numeral
import Shorthand.Text.Ranges

/-!
# `Shorthand.Text.Rows`: tables of scalar values

A large table of characters is written as text: rows between blanks or line breaks, and
in a row hexadecimal numbers with some other mark between them, as in `41-5A` or
`FB01=66+69`. `hexRows` reads such a table, and `rangeRows` one whose rows are ranges.
-/

set_option autoImplicit false

namespace Shorthand

namespace Text

/-- A table half read: the rows so far, the numbers of the current row so far, both
with the last one first, and the value of the current number. -/
structure RowReader where
  rows : List (List Nat) := []
  row : List Nat := []
  number : Option Nat := none

namespace RowReader

/-- The row with its last number complete. -/
def closedRow (r : RowReader) : List Nat :=
  match r.number with
  | some n => n :: r.row
  | none => r.row

/-- The rows with the last row complete. An empty row does not count. -/
def closedRows (r : RowReader) : List (List Nat) :=
  match r.closedRow with
  | [] => r.rows
  | row => row.reverse :: r.rows

/-- Reads one character: a digit, the end of a row, or a mark between two numbers. -/
def step (r : RowReader) (c : Char) : RowReader :=
  match hexValue c with
  | some d => { r with number := some (16 * r.number.getD 0 + d) }
  | none =>
    if c = ' ' ∨ c = '\n' then { rows := r.closedRows }
    else { rows := r.rows, row := r.closedRow }

end RowReader

/-- The rows of a table. -/
def hexRows (table : String) : List (List Nat) :=
  (table.toList.foldl RowReader.step {}).closedRows.reverse

/-- The ranges of a table. A row of one number is the range of that number alone. -/
def rangeRows (table : String) : List (Nat × Nat) :=
  (hexRows table).filterMap fun
    | [n] => some (n, n)
    | [lo, hi] => some (lo, hi)
    | _ => none

end Text

end Shorthand
