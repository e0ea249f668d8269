/-!
# `Shorthand.Text.Basic`: text as a list of characters

Everything the library reads or writes is a `Text`, a list of Unicode scalar
values taken from the left. This file holds the cuts and joins the other modules
share:

- `split` and `splitOnce` cut at a separator character;
- `breakBefore` cuts before the first suffix that satisfies a test;
- `replace` substitutes every occurrence of a pattern, left to right and without
  overlaps;
- `utf8Size` and `utf16Size` measure a text in the two encodings that offsets and
  columns count in, and `takeBytes` / `dropBytes` / `takeUnits` cut by them.
-/

set_option autoImplicit false

namespace Shorthand

/-- Text, one Unicode scalar value after another. -/
abbrev Text := List Char

/-- A string literal may stand where a text is expected. -/
instance : Coe String Text := ⟨String.toList⟩

namespace Text

/-- Whether the text is one of the given names. -/
def oneOf (names : List String) (t : Text) : Bool :=
  names.any fun name => name.toList == t

/-- ASCII letters in lower case, all else unchanged. -/
def toLower (t : Text) : Text :=
  t.map Char.toLower

/-- Equality up to the case of ASCII letters. -/
def eqIgnoreCase (s t : Text) : Bool :=
  toLower s == toLower t

/-! ### Cutting -/

/-- The pieces between separators. A text without separator is its one piece, so
the list is never empty. -/
def split (sep : Char) : Text → List Text
  | [] => [[]]
  | c :: rest =>
    if c = sep then [] :: split sep rest
    else match split sep rest with
      | [] => [[c]]
      | piece :: pieces => (c :: piece) :: pieces

/-- What stands before and after the first separator. -/
def splitOnce (sep : Char) : Text → Option (Text × Text)
  | [] => none
  | c :: rest =>
    if c = sep then some ([], rest)
    else (splitOnce sep rest).map fun (before, after) => (c :: before, after)

/-- Cuts before the first suffix that satisfies the test. The second part is
`none` when no suffix does. The empty suffix is tested as well. -/
def breakBefore (test : Text → Bool) : Text → Text × Option Text
  | [] => ([], if test [] then some [] else none)
  | c :: rest =>
    if test (c :: rest) then ([], some (c :: rest))
    else ((c :: (breakBefore test rest).1), (breakBefore test rest).2)

/-- Drops the longest suffix made of characters that satisfy the test. -/
def trimEndWhile (test : Char → Bool) (t : Text) : Text :=
  (t.reverse.dropWhile test).reverse

/-- The text without the given last character, when it ends in it. -/
def stripEnd? (c : Char) (t : Text) : Option Text :=
  if t.getLast? = some c then some t.dropLast else none

/-- The text after the given beginning, when it starts with it. -/
def stripStart? : Text → Text → Option Text
  | [], t => some t
  | _ :: _, [] => none
  | p :: ps, c :: rest => if p = c then stripStart? ps rest else none

/-- Whether the text starts with the given beginning. -/
def startsWith (t : Text) (beginning : Text) : Bool :=
  beginning.isPrefixOf t

/-! ### Joining -/

/-- The texts in order with a separator between neighbours. -/
def join (sep : Text) : List Text → Text
  | [] => []
  | [t] => t
  | t :: ts => t ++ sep ++ join sep ts

/-- The text written out `n` times. -/
def times (n : Nat) (t : Text) : Text :=
  (List.replicate n t).flatten

/-- Substitutes every occurrence of a non-empty pattern. `skip` counts the
characters of a match that are still to be passed over. -/
def replaceFrom (pattern value : Text) : Nat → Text → Text
  | _, [] => []
  | skip + 1, _ :: rest => replaceFrom pattern value skip rest
  | 0, c :: rest =>
    if pattern.isPrefixOf (c :: rest) then
      value ++ replaceFrom pattern value (pattern.length - 1) rest
    else c :: replaceFrom pattern value 0 rest

/-- Every occurrence of `pattern` becomes `value`, left to right, and what was
put in is not searched again. -/
def replace (pattern value t : Text) : Text :=
  replaceFrom pattern value 0 t

/-! ### Order -/

/-- Order by scalar value, the order of the UTF-8 encodings. -/
def precedes : Text → Text → Bool
  | _, [] => false
  | [], _ :: _ => true
  | a :: s, b :: t => a.toNat < b.toNat || (a == b && precedes s t)

/-- Inserts into an ascending list, and does nothing when the text is there. -/
def insertSorted (t : Text) : List Text → List Text
  | [] => [t]
  | u :: us =>
    if t == u then u :: us
    else if precedes t u then t :: u :: us
    else u :: insertSorted t us

/-- The distinct texts of a list in ascending order. -/
def sortDistinct (ts : List Text) : List Text :=
  ts.foldl (fun sorted t => insertSorted t sorted) []

/-! ### Measures -/

/-- Number of bytes in UTF-8. -/
def utf8Size : Text → Nat
  | [] => 0
  | c :: rest => c.utf8Size + utf8Size rest

/-- Number of 16-bit units of one character in UTF-16: a surrogate pair beyond
U+FFFF. -/
def charUnits (c : Char) : Nat :=
  if c.toNat ≤ 0xFFFF then 1 else 2

/-- Number of 16-bit units in UTF-16. -/
def utf16Size : Text → Nat
  | [] => 0
  | c :: rest => charUnits c + utf16Size rest

/-- The longest beginning that fits into `n` bytes. -/
def takeBytes : Nat → Text → Text
  | _, [] => []
  | n, c :: rest =>
    if c.utf8Size ≤ n then c :: takeBytes (n - c.utf8Size) rest else []

/-- What follows `takeBytes`. -/
def dropBytes : Nat → Text → Text
  | _, [] => []
  | n, c :: rest =>
    if c.utf8Size ≤ n then dropBytes (n - c.utf8Size) rest else c :: rest

/-- The shortest beginning that covers `n` UTF-16 units, or the whole text. A
character that the count ends inside of is taken. -/
def takeUnits : Nat → Text → Text
  | _, [] => []
  | 0, _ :: _ => []
  | n + 1, c :: rest => c :: takeUnits (n + 1 - charUnits c) rest

end Text

end Shorthand
