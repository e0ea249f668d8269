import Shorthand.Abbreviation.Node

/-!
# `Shorthand.Abbreviation.Views`: measures and views of a forest

What can be said of a forest without following how it was read: how deep it nests,
which elements it holds, how many nodes it stands for once repeats are written out,
and the forest without repeats and groups that stands for the same.
-/

set_option autoImplicit false

namespace Shorthand

namespace Node

mutual

/-- Levels of a node. Elements and groups count alike. -/
def depth : Node → Nat
  | element _ children => forestDepth children + 1
  | group members _ => forestDepth members + 1

/-- Levels of a forest. -/
def forestDepth : List Node → Nat
  | [] => 0
  | node :: rest => max (depth node) (forestDepth rest)

end

mutual

/-- The elements of a node, each without its children and before those below it. -/
def elements : Node → List Element
  | element head children => head :: forestElements children
  | group members _ => forestElements members

/-- The elements of a forest from left to right. -/
def forestElements : List Node → List Element
  | [] => []
  | node :: rest => elements node ++ forestElements rest

end

mutual

/-- Elements that a node stands for with its repeats written out. -/
def instances : Node → Nat
  | element head children => head.count.getD 1 * (1 + forestInstances children)
  | group members count => count.getD 1 * forestInstances members

/-- Elements that a forest stands for. -/
def forestInstances : List Node → Nat
  | [] => 0
  | node :: rest => instances node + forestInstances rest

end

mutual

/-- A node with repeats as copies and groups as their members. -/
def writtenOut : Node → List Node
  | element head children =>
    List.replicate (head.count.getD 1)
      (element { head with count := none } (forestWrittenOut children))
  | group members count => (List.replicate (count.getD 1) (forestWrittenOut members)).flatten

/-- A forest with repeats as copies and groups as their members. -/
def forestWrittenOut : List Node → List Node
  | [] => []
  | node :: rest => writtenOut node ++ forestWrittenOut rest

end

end Node

end Shorthand
