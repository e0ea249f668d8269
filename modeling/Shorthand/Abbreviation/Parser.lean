import Shorthand.Abbreviation.Reader

/-!
# `Shorthand.Abbreviation.Parser`: the forest of an abbreviation

The parser reads items and operators in turn and keeps a `Frame` for each group
that is still open. A frame holds its levels: the innermost one, where the next
item goes, and the levels around it. The child operator opens a level and the
climbing operator folds one back below its parent, so a finished frame is one
forest.

The depth of the next item is the number of levels in all frames, less one. An
item at `maxDepth` or beyond is refused before it is read.
-/

set_option autoImplicit false

namespace Shorthand

namespace Abbreviation

/-- The levels of one group, or of the whole abbreviation. -/
structure Frame where
  /-- The innermost level, in order. -/
  level : List Node := []
  /-- The levels around it, nearest first. The last node of each is the parent of
  the level inside it. -/
  outer : List (List Node) := []

namespace Frame

/-- Number of levels. -/
def depth (f : Frame) : Nat :=
  f.outer.length + 1

/-- Puts a node at the end of the innermost level. -/
def push (f : Frame) (node : Node) : Frame :=
  { f with level := f.level ++ [node] }

/-- Opens a level for children of the last node. -/
def descend (f : Frame) : Frame :=
  { level := [], outer := f.level :: f.outer }

/-- Folds a level below its parent, which is the last node of the level around it. Without a
parent the level is dropped. -/
def foldInto (level : List Node) : List Node → List Node
  | [] => []
  | node :: rest => Node.appendLast level (node :: rest)

/-- Folds the innermost level below its parent. The outermost level stays. -/
def climb (f : Frame) : Frame :=
  match f.outer with
  | [] => f
  | up :: outer => { level := foldInto f.level up, outer := outer }

/-- Folds `n` levels. -/
def climbBy : Nat → Frame → Frame
  | 0, f => f
  | n + 1, f => climbBy n f.climb

/-- Folds a level into the levels around it, one after another. -/
def foldOuter (level : List Node) : List (List Node) → List Node
  | [] => level
  | up :: outer => foldOuter (foldInto level up) outer

/-- The forest of a finished frame. -/
def forest (f : Frame) : List Node :=
  foldOuter f.level f.outer

end Frame

/-- Levels in all frames. -/
def totalDepth (frame : Frame) : List Frame → Nat
  | [] => frame.depth
  | next :: enclosing => totalDepth frame enclosing + next.depth

/-- The repeat count after a group, if there is one. -/
def readRepeat : Text → Option Nat × Text
  | '*' :: rest => (some (readCount rest).1, (readCount rest).2)
  | rest => (none, rest)

theorem readRepeat_length (s : Text) : (readRepeat s).2.length ≤ s.length := by
  unfold readRepeat
  split
  · rename_i rest
    have := length_dropWhile_le Text.isDigit rest
    simp [readCount]; omega
  · simp

mutual

/-- Reads from where an item has to stand. `enclosing` holds the frames around the
current one, nearest first. -/
def readItem (enclosing : List Frame) (frame : Frame) (s : Text) :
    Except Stop (List Node) :=
  if maxDepth < totalDepth frame enclosing then .error .tooDeep
  else
    match s with
    | '(' :: rest => readItem (frame :: enclosing) {} rest
    | s =>
      match _h : readElement s with
      | .error stop => .error stop
      | .ok (e, rest) => readOperator enclosing (frame.push (.element e [])) rest
termination_by s.length
decreasing_by
  · exact Nat.lt_succ_self _
  · exact readElement_length _h

/-- Reads from after an item. -/
def readOperator (enclosing : List Frame) (frame : Frame) (s : Text) :
    Except Stop (List Node) :=
  match s with
  | [] =>
    match enclosing with
    | [] => .ok frame.forest
    | _ :: _ => .error (.unclosed '(')
  | '>' :: rest => readItem enclosing frame.descend rest
  | '+' :: rest => readItem enclosing frame rest
  | '^' :: rest =>
    readItem enclosing (frame.climbBy ((rest.takeWhile (· == '^')).length + 1))
      (rest.dropWhile (· == '^'))
  | ')' :: rest =>
    match enclosing with
    | [] => .error (.unexpected (')' :: rest))
    | parent :: enclosing =>
      readOperator enclosing (parent.push (.group frame.forest (readRepeat rest).1))
        (readRepeat rest).2
  | s => .error (.unexpected s)
termination_by s.length
decreasing_by
  · exact Nat.lt_succ_self _
  · exact Nat.lt_succ_self _
  · exact Nat.lt_succ_of_le (length_dropWhile_le (· == '^') rest)
  · exact Nat.lt_succ_of_le (readRepeat_length rest)

end

/-- The forest of an abbreviation, white space around it aside. -/
def parse (abbreviation : Text) : Except ExpandError (List Node) :=
  let s := Text.trim abbreviation
  if s = [] then .error .empty
  else
    match readItem [] {} s with
    | .error stop => .error (stop.toError s.length)
    | .ok forest => .ok forest

end Abbreviation

end Shorthand
