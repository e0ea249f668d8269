import Shorthand.Text.Basic

/-!
# `Shorthand.Domain.Punycode`: names in ASCII

Punycode writes a label of any script in letters, digits and hyphens. The ASCII
characters stand first; behind the last hyphen, each other character is a number that
says how far to go, in scalar values and in places, from the insertion before it. The
numbers are in base 36 with the least digit first, and the range of each digit follows
the size of the numbers before (`adapt`).
-/

set_option autoImplicit false

namespace Shorthand

namespace Domain

namespace Punycode

/-! ### Digits -/

/-- The digit of a value below 36: letters first. -/
def digitChar (d : Nat) : Char :=
  if d < 26 then Char.ofNat (0x61 + d) else Char.ofNat (0x30 + (d - 26))

/-- The value of a digit. -/
def digitValue? (c : Char) : Option Nat :=
  let n := c.toNat
  if 0x61 ≤ n ∧ n ≤ 0x7A then some (n - 0x61)
  else if 0x30 ≤ n ∧ n ≤ 0x39 then some (n - 0x30 + 26)
  else none

/-- A digit is read as the value it was written for. -/
theorem digitValue?_digitChar {d : Nat} (h : d < 36) : digitValue? (digitChar d) = some d := by
  have hall : ∀ e ∈ List.range 36, digitValue? (digitChar e) = some e := by decide
  exact hall d (List.mem_range.mpr h)

/-- At the place of `k`, which counts up in steps of 36, a digit below the threshold
ends the number. -/
def threshold (k bias : Nat) : Nat :=
  if k ≤ bias then 1 else if bias + 26 ≤ k then 26 else k - bias

theorem threshold_pos (k bias : Nat) : 1 ≤ threshold k bias := by
  unfold threshold
  split
  · omega
  · split <;> omega

/-- Divides `delta` by 35 until it is small. Each step moves the digits up by 36. -/
def adaptFrom (delta k : Nat) : Nat × Nat :=
  if 455 < delta then adaptFrom (delta / 35) (k + 36) else (delta, k)
termination_by delta
decreasing_by exact Nat.div_lt_self (by omega) (by omega)

/-- The bias after a number: large numbers make the next one start with larger digits.
`points` counts the characters placed, and the first number is damped. -/
def adapt (delta points : Nat) (first : Bool) : Nat :=
  let delta := if first then delta / 700 else delta / 2
  let (delta, k) := adaptFrom (delta + delta / points) 0
  k + 36 * delta / (delta + 38)

/-- The bias before the first number. -/
def startBias : Nat := 72

/-- The first scalar value beyond ASCII. -/
def startPoint : Nat := 0x80

/-! ### Writing -/

/-- The digits of a number, the least first. -/
def digits (bias k q : Nat) : Text :=
  let t := threshold k bias
  if q < t then [digitChar q]
  else digitChar (t + (q - t) % (36 - t)) :: digits bias (k + 36) ((q - t) / (36 - t))
termination_by q
decreasing_by
  have ht := threshold_pos k bias
  exact Nat.lt_of_le_of_lt (Nat.div_le_self _ _) (by omega)

/-- What is written so far, the distance not yet written, and the characters placed. -/
structure Writer where
  written : Text := []
  delta : Nat := 0
  bias : Nat := startBias
  placed : Nat

namespace Writer

/-- Passes a character of the label while characters of value `m` are placed: a smaller
one is in place already and counts, an equal one is placed. -/
def pass (basic m : Nat) (w : Writer) (c : Char) : Writer :=
  if c.toNat < m then { w with delta := w.delta + 1 }
  else if c.toNat = m then
    { written := w.written ++ digits w.bias 36 w.delta
      delta := 0
      bias := adapt w.delta (w.placed + 1) (w.placed == basic)
      placed := w.placed + 1 }
  else w

/-- Places all characters of the given values, which ascend from `n` on. -/
def placeAll (label : Text) (basic n : Nat) (w : Writer) : List Nat → Writer
  | [] => w
  | m :: rest =>
    let w := { w with delta := w.delta + (m - n) * (w.placed + 1) }
    let w := label.foldl (pass basic m) w
    placeAll label basic (m + 1) { w with delta := w.delta + 1 } rest

end Writer

/-- Inserts into an ascending list without doubles. -/
def insertAscending (n : Nat) : List Nat → List Nat
  | [] => [n]
  | m :: rest =>
    if n < m then n :: m :: rest
    else if n = m then m :: rest
    else m :: insertAscending n rest

/-- The values beyond ASCII in a label, ascending. -/
def pointsBeyondAscii (label : Text) : List Nat :=
  ((label.map Char.toNat).filter (startPoint ≤ ·)).foldr insertAscending []

/-- A label in Punycode. -/
def encode (label : Text) : Text :=
  let basic := label.filter (·.toNat < startPoint)
  let tail := (Writer.placeAll label basic.length startPoint { placed := basic.length }
    (pointsBeyondAscii label)).written
  (if basic.isEmpty then [] else basic ++ ['-']) ++ tail

/-! ### Reading -/

/-- Reads a number on top of `i`: the sum, and the text behind. Sums and weights stay
below 32 bits. -/
def readNumber? (bias k weight i : Nat) : Text → Option (Nat × Text)
  | [] => none
  | c :: rest => do
    let d ← digitValue? c
    let i := i + d * weight
    let t := threshold k bias
    if 0xFFFFFFFF < i then none
    else if d < t then some (i, rest)
    else if 0xFFFFFFFF < weight * (36 - t) then none
    else readNumber? bias (k + 36) (weight * (36 - t)) i rest

theorem readNumber?_length {bias k weight i n : Nat} {s rest : Text}
    (h : readNumber? bias k weight i s = some (n, rest)) : rest.length < s.length := by
  induction s generalizing k weight i with
  | nil => simp [readNumber?] at h
  | cons c s ih =>
    simp only [readNumber?, Option.bind_eq_bind] at h
    obtain ⟨d, _, h⟩ := Option.bind_eq_some_iff.mp h
    split at h
    · cases h
    · split at h
      · cases h
        exact Nat.lt_succ_self _
      · split at h
        · cases h
        · exact Nat.lt_succ_of_lt (ih h)

/-- Whether a number is a scalar value. -/
def isScalar (n : Nat) : Bool :=
  n < 0xD800 || (0xDFFF < n && n < 0x110000)

/-- Inserts the characters that the numbers stand for. `point` and `i` are value and
place of the next insertion if its number is 0. -/
def insertAll? (bias point i : Nat) (label : Text) : Text → Option Text
  | [] => some label
  | c :: rest =>
    match _h : readNumber? bias 36 1 i (c :: rest) with
    | none => none
    | some (sum, after) =>
      let places := label.length + 1
      let point := point + sum / places
      let place := sum % places
      if isScalar point then
        insertAll? (adapt (sum - i) places (i == 0)) point (place + 1)
          (label.take place ++ Char.ofNat point :: label.drop place) after
      else none
termination_by s => s.length
decreasing_by exact readNumber?_length _h

/-- The parts before and behind the last hyphen. A hyphen at the very start does not
divide. -/
def splitLastHyphen (s : Text) : Text × Text :=
  let tail := (s.reverse.takeWhile (· != '-')).reverse
  match s.take (s.length - tail.length - 1) with
  | [] => ([], s)
  | basic => (basic, tail)

/-- The label that a text in lower case stands for. -/
def decode? (s : Text) : Option Text :=
  let (basic, tail) := splitLastHyphen s
  insertAll? startBias startPoint 0 basic tail

end Punycode

end Domain

end Shorthand
