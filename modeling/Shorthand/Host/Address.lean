import Shorthand.Text.Numeral

/-!
# `Shorthand.Host.Address`: numeric addresses

Addresses of four bytes, written as up to four numbers between dots, and addresses of
eight pieces of 16 bits, written in hexadecimal between colons with one run of zeros
left out. Both are written in one form, whatever form they were read from.
-/

set_option autoImplicit false

namespace Shorthand

namespace Host

/-! ### Four bytes -/

/-- A number of an address: hexadecimal behind `0x`, octal behind `0`, else decimal. No
digits behind `0x` are a zero. -/
def v4Number? : Text → Option Nat
  | [] => none
  | '0' :: 'x' :: digits => Text.valueIn? 16 digits
  | '0' :: 'X' :: digits => Text.valueIn? 16 digits
  | '0' :: d :: digits => Text.valueIn? 8 (d :: digits)
  | digits => Text.valueIn? 10 digits

/-- The parts of a name between its dots. One empty part at the end does not count. -/
def dottedParts (name : Text) : List Text :=
  let parts := Text.split '.' name
  if 1 < parts.length ∧ parts.getLast? = some [] then parts.dropLast else parts

/-- Whether a name ends in a number, so that it has to be an address. -/
def endsInNumber (name : Text) : Bool :=
  match (dottedParts name).getLast? with
  | some last => (last != [] && last.all Char.isDigit) || (v4Number? last).isSome
  | none => false

/-- The address of at most four numbers: each is one byte, and the last one fills the
rest. -/
def v4OfNumbers? : List Nat → Option Nat
  | [d] => if d < 0x100000000 then some d else none
  | [a, d] => if a < 0x100 ∧ d < 0x1000000 then some (a * 0x1000000 + d) else none
  | [a, b, d] =>
    if a < 0x100 ∧ b < 0x100 ∧ d < 0x10000 then some (a * 0x1000000 + b * 0x10000 + d) else none
  | [a, b, c, d] =>
    if a < 0x100 ∧ b < 0x100 ∧ c < 0x100 ∧ d < 0x100 then
      some (a * 0x1000000 + b * 0x10000 + c * 0x100 + d)
    else none
  | _ => none

/-- An address of four bytes. -/
def v4? (name : Text) : Option Nat := do
  v4OfNumbers? (← (dottedParts name).mapM v4Number?)

/-- An address of four bytes as four decimal numbers. -/
def v4Text (n : Nat) : Text :=
  Text.join ['.'] ([n / 0x1000000, n / 0x10000 % 0x100, n / 0x100 % 0x100, n % 0x100].map
    Text.ofNat)

/-! ### Eight pieces -/

/-- A piece of one to four hexadecimal digits. -/
def piece? (digits : Text) : Option Nat :=
  if digits.length = 0 ∨ 4 < digits.length then none else Text.valueIn? 16 digits

/-- A byte in decimal, without zeros in front. -/
def byte? (digits : Text) : Option Nat :=
  match digits with
  | [] => none
  | '0' :: _ :: _ => none
  | _ => do
    let n ← Text.valueIn? 10 digits
    if n < 0x100 then some n else none

/-- The two pieces of four decimal bytes. -/
def dottedPieces? (t : Text) : Option (List Nat) :=
  match Text.split '.' t with
  | [a, b, c, d] => do
    let a ← byte? a
    let b ← byte? b
    let c ← byte? c
    let d ← byte? d
    return [a * 0x100 + b, c * 0x100 + d]
  | _ => none

/-- Pieces in order. The last ones may be written as four decimal bytes when `bytes`
says so. -/
def pieces? (bytes : Bool) : List Text → Option (List Nat)
  | [] => some []
  | [last] =>
    if bytes && last.contains '.' then dottedPieces? last else (piece? last).map ([·])
  | t :: rest => do
    let n ← piece? t
    let ns ← pieces? bytes rest
    return n :: ns

/-- What stands before and behind the first pair of colons. -/
def splitRun : Text → Option (Text × Text)
  | ':' :: ':' :: rest => some ([], rest)
  | c :: rest => (splitRun rest).map fun (before, behind) => (c :: before, behind)
  | [] => none

/-- The texts between colons, none in an empty text. -/
def colonParts (t : Text) : List Text :=
  if t.isEmpty then [] else Text.split ':' t

/-- An address of eight pieces. A pair of colons stands for at least one zero. -/
def v6? (t : Text) : Option (List Nat) := do
  match splitRun t with
  | some (before, behind) =>
    let before ← pieces? false (colonParts before)
    let behind ← pieces? true (colonParts behind)
    let given := before.length + behind.length
    if given < 8 then some (before ++ List.replicate (8 - given) 0 ++ behind) else none
  | none =>
    let pieces ← pieces? true (colonParts t)
    if pieces.length = 8 then some pieces else none

/-- Where the longest run of zeros starts and how long it is; the first of several. -/
def longestRun (pieces : List Nat) : Nat × Nat :=
  (List.range pieces.length).foldl (fun best i =>
    let length := ((pieces.drop i).takeWhile (· == 0)).length
    if best.2 < length then (i, length) else best) (0, 0)

/-- An address of eight pieces with its longest run of two zeros or more left out. -/
def v6Text (pieces : List Nat) : Text :=
  let write (ns : List Nat) : Text := Text.join [':'] (ns.map Text.hexOfNat)
  let (start, length) := longestRun pieces
  if length < 2 then write pieces
  else write (pieces.take start) ++ [':', ':'] ++ write (pieces.drop (start + length))

end Host

end Shorthand
