import Shorthand.Text.Numeral

/-!
# `Shorthand.Markup.Counter`: numbering of repeated nodes

A run of dollar signs stands for the position among the copies of the nearest
repeated node, padded with zeros to the length of the run. An at sign behind the
run changes the base that positions count from, and a minus sign behind it counts
down. A dollar sign before a brace is a tab stop, and one behind a backslash is
itself.

Two kinds of token have no number: a run that is longer than a numeral can be wide,
and one that counts down from an end that lies behind. `number?` gives nothing where a
text has such a token, and `number` is its result everywhere else.
-/

set_option autoImplicit false

namespace Shorthand

/-- Position among the copies of the nearest repeated node. -/
structure Counter where
  /-- Copies before this one. -/
  index : Nat := 0
  /-- Copies in all. -/
  total : Nat := 1
  deriving DecidableEq, Repr

namespace Counter

/-- Counters of the copies of a node. Without a repeat count there is one copy,
which keeps the counter around it. -/
def copies (outer : Counter) : Option Nat → List Counter
  | none => [outer]
  | some n => (List.range n).map fun i => { index := i, total := n }

/-- The number that a token stands for, in a 64-bit word that does not wrap. -/
def value (counter : Counter) (countsDown : Bool) (base : Nat) : Nat :=
  if countsDown then min (base + (counter.total - counter.index - 1)) wordMax
  else min (base + counter.index) wordMax

/-- The number that a token stands for, unless it counts down from an end that lies
behind. -/
def value? (counter : Counter) (countsDown : Bool) (base : Nat) : Option Nat :=
  if countsDown ∧ counter.total ≤ counter.index then none
  else some (counter.value countsDown base)

/-- The digits of a base. Without digits, or with too many for a 64-bit word, the
base is one. -/
def baseOf (digits : Text) : Nat :=
  (Text.readWord digits).getD 1

/-- What may follow a run of dollar signs: whether it counts down, its base, and
the text behind. -/
def readModifier : Text → Bool × Nat × Text
  | '@' :: '-' :: rest => (true, baseOf (rest.takeWhile Text.isDigit), rest.dropWhile Text.isDigit)
  | '@' :: rest => (false, baseOf (rest.takeWhile Text.isDigit), rest.dropWhile Text.isDigit)
  | rest => (false, 1, rest)

theorem readModifier_length (s : Text) : (readModifier s).2.2.length ≤ s.length := by
  have drop_le (s : Text) : (s.dropWhile Text.isDigit).length ≤ s.length :=
    (List.dropWhile_suffix Text.isDigit).length_le
  unfold readModifier
  split
  · rename_i rest
    have := drop_le rest
    simp; omega
  · rename_i rest _
    have := drop_le rest
    simp; omega
  · simp

theorem tokenRest_length_lt (s : Text) :
    (readModifier (s.dropWhile (· == '$'))).2.2.length < s.length + 1 := by
  have hmodifier := readModifier_length (s.dropWhile (· == '$'))
  have hrun : (s.dropWhile (· == '$')).length ≤ s.length := (List.dropWhile_suffix _).length_le
  omega

/-- The text with its counter tokens replaced by numbers. -/
def number (counter : Counter) (s : Text) : Text :=
  match s with
  | [] => []
  | '\\' :: '$' :: rest => '$' :: number counter rest
  | '$' :: '{' :: rest => '$' :: '{' :: number counter rest
  | '$' :: rest =>
    let width := (rest.takeWhile (· == '$')).length + 1
    let modifier := readModifier (rest.dropWhile (· == '$'))
    Text.padded width (counter.value modifier.1 modifier.2.1) ++ number counter modifier.2.2
  | c :: rest => c :: number counter rest
termination_by s.length
decreasing_by
  · exact Nat.lt_succ_of_lt (Nat.lt_succ_self _)
  · exact Nat.lt_succ_of_lt (Nat.lt_succ_self _)
  · exact tokenRest_length_lt rest
  · simp

/-- The text with its counter tokens replaced by numbers, if all of them have one. -/
def number? (counter : Counter) (s : Text) : Option Text :=
  match s with
  | [] => some []
  | '\\' :: '$' :: rest => (number? counter rest).map fun t => '$' :: t
  | '$' :: '{' :: rest => (number? counter rest).map fun t => '$' :: '{' :: t
  | '$' :: rest =>
    let width := (rest.takeWhile (· == '$')).length + 1
    let modifier := readModifier (rest.dropWhile (· == '$'))
    match (counter.value? modifier.1 modifier.2.1).bind (Text.padded? width) with
    | none => none
    | some numeral => (number? counter modifier.2.2).map fun t => numeral ++ t
  | c :: rest => (number? counter rest).map fun t => c :: t
termination_by s.length
decreasing_by
  · exact Nat.lt_succ_of_lt (Nat.lt_succ_self _)
  · exact Nat.lt_succ_of_lt (Nat.lt_succ_self _)
  · exact tokenRest_length_lt rest
  · simp

end Counter

end Shorthand
