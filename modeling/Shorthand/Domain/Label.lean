import Shorthand.Domain.Mapping
import Shorthand.Domain.Punycode
import Shorthand.Text.Direction
import Shorthand.Text.Joining
import Shorthand.Text.Mark
import Shorthand.Text.Normal

/-!
# `Shorthand.Domain.Label`: the parts of a domain name

When a label may stand in a name: it is in normal form, holds plain characters only,
does not start with a mark, and has its invisible joiners where they show. A name with
characters from right to left asks more of all its labels (`followsDirection`), so that
each shows in one piece.
-/

set_option autoImplicit false

namespace Shorthand

namespace Domain

open Text

/-- What stands before a label in Punycode. -/
def punycodeMark : Text := "xn--"

/-! ### Joiners -/

/-- The zero width non-joiner. -/
def nonJoiner : Char := Char.ofNat 0x200C

/-- The zero width joiner. -/
def joiner : Char := Char.ofNat 0x200D

/-- Whether the first character that joining does not pass over satisfies the test. -/
def firstJoining (test : Char → Bool) : Text → Bool
  | [] => false
  | c :: rest => test c || (joinsThrough c && firstJoining test rest)

/-- Whether all joiners are in a place where they show: behind a sign that takes away a
vowel, or, for the non-joiner, between two letters that would join. `before` holds the
label so far, the last character first. -/
def joinersShow (before : Text) : Text → Bool
  | [] => true
  | c :: rest =>
    let behindVirama := match before with
      | last :: _ => combiningClass last == viramaClass
      | [] => false
    let shows :=
      if c = nonJoiner then
        behindVirama || (firstJoining joinsBehind before && firstJoining joinsBefore rest)
      else if c = joiner then behindVirama
      else true
    shows && joinersShow (c :: before) rest

/-! ### Direction -/

/-- Whether a label makes its name one with text from right to left. -/
def hasRightToLeft (label : Text) : Bool :=
  label.any fun c =>
    match Direction.of c with
    | .rightToLeft | .arabicLetter | .arabicNumber => true
    | _ => false

/-- Whether a character may stand in a label from left to right. -/
def runsRight : Direction → Bool
  | .leftToRight | .europeanNumber | .numberSign | .numberUnit | .numberSeparator | .mark
  | .ignored | .neutral => true
  | _ => false

/-- Whether a character may stand in a label from right to left. -/
def runsLeft : Direction → Bool
  | .rightToLeft | .arabicLetter | .arabicNumber | .europeanNumber | .numberSign | .numberUnit
  | .numberSeparator | .mark | .ignored | .neutral => true
  | _ => false

/-- The rule for labels of a name with text from right to left: a label starts with a
letter, goes on in that letter's direction, and ends in a letter or number of it; and
European and Arabic numbers do not stand in one label. -/
def followsDirection (label : Text) : Bool :=
  match label.map Direction.of with
  | [] => true
  | first :: rest =>
    let all := first :: rest
    let last := (all.reverse.dropWhile (· == .mark)).head?
    if first = .leftToRight then
      rest.all runsRight && (last == some .leftToRight || last == some .europeanNumber)
    else if first = .rightToLeft ∨ first = .arabicLetter then
      rest.all runsLeft &&
        (last == some .rightToLeft || last == some .arabicLetter ||
          last == some .europeanNumber || last == some .arabicNumber) &&
        !(all.contains .europeanNumber && all.contains .arabicNumber)
    else false

/-! ### Labels -/

/-- Characters of ASCII that no name holds. -/
def isForbidden (c : Char) : Bool :=
  c.toNat ≤ 0x20 || c.toNat == 0x7F ||
    ['%', '#', '/', ':', '<', '>', '?', '@', '[', '\\', ']', '^', '|'].contains c

/-- Whether a label may stand in a name. -/
def isLabel (label : Text) : Bool :=
  normal label == label && !startsWith label punycodeMark &&
    !(match label with
      | first :: _ => isMark first
      | [] => false) &&
    label.all (fun c => isPlain c && !isForbidden c) && joinersShow [] label

/-- The longest label in Punycode that is read. -/
def longestRead : Nat := 2000

/-- The longest label that is written in Punycode. -/
def longestWritten : Nat := 1000

/-- The label that a mapped and normal label stands for. A label in Punycode has to
stand for one with characters beyond ASCII. -/
def readLabel? (label : Text) : Option Text :=
  match stripStart? punycodeMark label with
  | some code => do
    if !isAscii code || longestRead < code.length then none
    else
      let label ← Punycode.decode? code
      if isAscii label || !isLabel label then none else some label
  | none => if isLabel label then some label else none

/-- A label in ASCII. -/
def writeLabel? (label : Text) : Option Text :=
  if isAscii label then some label
  else if longestWritten < label.length then none
  else some (punycodeMark ++ Punycode.encode label)

end Domain

end Shorthand
