import Shorthand.Domain.Name
import Shorthand.Host.Address
import Shorthand.Uri.Escape

/-!
# `Shorthand.Host.Basic`: who an identifier speaks of

A host is a name or a numeric address. Schemes of the network read a name as a domain
name, and as an address when it ends in a number; other schemes take a name as it is.
-/

set_option autoImplicit false

namespace Shorthand

/-- A host. The empty name stands for no host. -/
inductive Host where
  | name (text : Text)
  /-- An address of four bytes. -/
  | v4 (value : Nat)
  /-- An address of eight pieces. -/
  | v6 (pieces : List Nat)
  deriving DecidableEq, Repr

namespace Host

/-- No host. -/
def absent : Host := .name []

/-- A host as it is written. -/
def toText : Host → Text
  | .name text => text
  | .v4 value => v4Text value
  | .v6 pieces => '[' :: v6Text pieces ++ [']']

/-- The address between brackets, from what follows the first one. -/
def bracketed? (t : Text) : Option Host := do
  let inner ← Text.stripEnd? ']' t
  return .v6 (← v6? inner)

/-- A host of a network scheme. It is never empty. -/
def ofDomain? (t : Text) : Option Host :=
  match t with
  | '[' :: t => bracketed? t
  | t => do
    let name ← Domain.toAscii? (← Text.ofUtf8? (Uri.unescape t))
    if name = [] then none
    else if endsInNumber name then (v4? name).map .v4
    else some (.name name)

/-- Characters that no host of any scheme holds. -/
def isForbidden (c : Char) : Bool :=
  [Char.ofNat 0, '\t', '\n', '\r', ' ', '#', '/', ':', '<', '>', '?', '@', '[', '\\', ']', '^',
    '|'].contains c

/-- A host of another scheme. -/
def ofPlain? (t : Text) : Option Host :=
  match t with
  | '[' :: t => bracketed? t
  | t => if t.any isForbidden then none else some (.name (Uri.escape [] t))

end Host

end Shorthand
