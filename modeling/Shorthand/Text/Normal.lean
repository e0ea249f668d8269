import Shorthand.Text.Canonical
import Shorthand.Text.CombiningClass

/-!
# `Shorthand.Text.Normal`: one spelling for equivalent texts

Unicode's normalisation form C. A text is taken apart into the characters its composites
are short for, marks on one base are put in the order of their classes, and what can be
composed is composed again. Equivalent texts become equal, and ASCII stays as it is.
-/

set_option autoImplicit false

namespace Shorthand

namespace Text

/-! ### Taking apart -/

/-- Puts a character in front of a text and moves it behind the marks of a lower class
that the text starts with. -/
def placeMark (c : Char) : Text → Text
  | [] => [c]
  | d :: rest =>
    if 0 < combiningClass d ∧ combiningClass d < combiningClass c then d :: placeMark c rest
    else c :: d :: rest

/-- Marks on one base in the order of their classes. Marks of one class keep their
order. -/
def orderMarks (t : Text) : Text :=
  t.foldr placeMark []

/-- The text in which nothing is composed. -/
def decomposed (t : Text) : Text :=
  orderMarks (t.flatMap canonical)

/-! ### Putting together -/

/-- Composes what follows a base. `passed` holds the marks that could not be composed
with the base, the last one first; only a mark of a higher class than the last of them
can reach the base. -/
def composeOnto (base : Char) (passed : Text) : Text → Text
  | [] => base :: passed.reverse
  | c :: rest =>
    let reaches := match passed with
      | [] => true
      | last :: _ => combiningClass last < combiningClass c
    match (if reaches then composite? base c else none) with
    | some base => composeOnto base passed rest
    | none =>
      if combiningClass c = 0 then base :: passed.reverse ++ composeOnto c [] rest
      else composeOnto base (c :: passed) rest

/-- Composes a text in which nothing is composed. Marks without a base stay. -/
def composed : Text → Text
  | [] => []
  | c :: rest => if combiningClass c = 0 then composeOnto c [] rest else c :: composed rest

/-- Whether every character is ASCII. -/
def isAscii (t : Text) : Bool :=
  t.all fun c => decide (c.toNat < 0x80)

/-- The normal spelling of a text. -/
def normal (t : Text) : Text :=
  if isAscii t then t else composed (decomposed t)

end Text

end Shorthand
