import Shorthand.Limits
import Shorthand.Text.Numeral

/-!
# `Shorthand.Error`: why an abbreviation does not expand

`ExpandError` lists the causes and `ExpandError.message` words them. Positions
count characters from the start of the text that was being read.
-/

set_option autoImplicit false

namespace Shorthand

/-- Why an abbreviation does not expand. -/
inductive ExpandError where
  /-- Nothing but white space. -/
  | empty
  /-- The text ends where more is needed. -/
  | unexpectedEnd
  /-- A bracket or quote without its partner. -/
  | unclosed (opener : Char)
  /-- A character that cannot stand at its place. -/
  | unexpected (found : Char) (position : Nat)
  /-- No grammar has this name. -/
  | unknownGrammar (name : Text)
  /-- A grammar whose output is not made of tags. -/
  | unsupportedGrammar (name : Text)
  /-- More than `maxDepth` levels. -/
  | tooDeep
  /-- More than `maxNodes` elements. -/
  | tooLarge
  deriving DecidableEq, Repr

namespace ExpandError

/-- The wording shown to a client. -/
def message : ExpandError → Text
  | empty => "empty abbreviation"
  | unexpectedEnd => "unexpected end of abbreviation"
  | unclosed opener => "unclosed '".toList ++ [opener] ++ "'".toList
  | unexpected found position =>
    "unexpected '".toList ++ [found] ++ "' at position ".toList ++ Text.ofNat position
  | unknownGrammar name => "unknown syntax: ".toList ++ name
  | unsupportedGrammar name =>
    "syntax ".toList ++ name ++ " is not supported by the built-in engine".toList
  | tooDeep =>
    "abbreviation nests deeper than ".toList ++ Text.ofNat maxDepth ++ " levels".toList
  | tooLarge =>
    "abbreviation expands to more than ".toList ++ Text.ofNat maxNodes ++ " elements".toList

end ExpandError

end Shorthand
