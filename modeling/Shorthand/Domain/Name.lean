import Shorthand.Domain.Label

/-!
# `Shorthand.Domain.Name`: domain names in ASCII

A name is mapped to plain characters, put in normal form and cut into labels at its
dots; each label is written in ASCII. Labels may be empty and may be of any length,
since the name need not be one of the Domain Name System.
-/

set_option autoImplicit false

namespace Shorthand

namespace Domain

/-- The labels of a name, `none` when it is not a proper name. -/
def labels? (name : Text) : Option (List Text) := do
  let mapped ← name.mapM mapChar?
  let labels ← (Text.split '.' (Text.normal mapped.flatten)).mapM readLabel?
  if labels.any hasRightToLeft && !labels.all followsDirection then none
  else some labels

/-- A name in ASCII and lower case, `none` when it is not a proper name. -/
def toAscii? (name : Text) : Option Text := do
  let labels ← labels? name
  let written ← labels.mapM writeLabel?
  return Text.join ['.'] written

end Domain

end Shorthand
