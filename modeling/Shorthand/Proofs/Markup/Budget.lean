import Shorthand.Abbreviation.Views
import Shorthand.Markup.Expansion

/-!
# `Shorthand.Proofs.Markup.Budget`: the budget of an expansion is exact

Unrolling takes one from a budget for every node that it makes, and stops when there is
nothing left to take. The budget runs through copies of copies, so what a forest takes is the
sum over its nodes and the product over repeats that stand inside one another. That number is
`Node.forestInstances`, which is computed from the forest alone.

`Charges run n` says that a step takes `n` from any budget, makes `n` nodes, and fails on
every smaller budget. Steps in sequence add up (`Charges.andThen`), copies multiply
(`charges_forCopies`) and an element adds itself (`charges_node`), so `charges_unroll` is one
induction over the forest, and `unroll_instances` says what it means for one budget.
-/

set_option autoImplicit false

namespace Shorthand

/-! ### Nodes of the output -/

namespace Tree

mutual

/-- Nodes of a tree. Bare text is one as well. -/
def size : Tree → Nat
  | element _ _ _ _ children => forestSize children + 1
  | text _ => 1

/-- Nodes of several trees. -/
def forestSize : List Tree → Nat
  | [] => 0
  | tree :: rest => size tree + forestSize rest

end

@[simp]
theorem forestSize_nil : forestSize [] = 0 := by
  rw [forestSize]

@[simp]
theorem forestSize_singleton (tree : Tree) : forestSize [tree] = size tree := by
  rw [forestSize, forestSize_nil, Nat.add_zero]

@[simp]
theorem forestSize_append (trees more : List Tree) :
    forestSize (trees ++ more) = forestSize trees + forestSize more := by
  induction trees with
  | nil => simp
  | cons tree rest ih =>
    show forestSize (tree :: (rest ++ more)) = forestSize (tree :: rest) + forestSize more
    rw [forestSize, forestSize, ih, Nat.add_assoc]

end Tree

namespace Markup

/-! ### Steps that take from a budget -/

/-- A step that takes `n` from every budget. A smaller budget does not suffice for it, and
from every other one it makes `n` nodes and hands the rest on. -/
structure Charges (run : Nat → Option (List Tree × Nat)) (n : Nat) : Prop where
  enough : ∀ rest, ∃ trees, run (n + rest) = some (trees, rest) ∧ Tree.forestSize trees = n
  short : ∀ budget, budget < n → run budget = none

/-- Nothing is made for nothing. -/
theorem charges_zero : Charges (fun budget => some ([], budget)) 0 where
  enough rest := ⟨[], by rw [Nat.zero_add], Tree.forestSize_nil⟩
  short budget h := absurd h (Nat.not_lt_zero budget)

/-- Two steps in sequence. The second gets the budget that the first hands on. -/
def andThen (first second : Nat → Option (List Tree × Nat)) (budget : Nat) :
    Option (List Tree × Nat) :=
  match first budget with
  | none => none
  | some (trees, budget) =>
    match second budget with
    | none => none
    | some (more, budget) => some (trees ++ more, budget)

/-- Two steps take what they take together, and either can be the one that runs short. -/
theorem Charges.andThen {first second : Nat → Option (List Tree × Nat)} {m n : Nat}
    (hfirst : Charges first m) (hsecond : Charges second n) :
    Charges (andThen first second) (m + n) where
  enough rest := by
    obtain ⟨trees, htrees, hsize⟩ := hfirst.enough (n + rest)
    obtain ⟨more, hmore, hsize'⟩ := hsecond.enough rest
    refine ⟨trees ++ more, ?_, by rw [Tree.forestSize_append, hsize, hsize']⟩
    simp only [Markup.andThen, Nat.add_assoc, htrees, hmore]
  short budget h := by
    unfold Markup.andThen
    rcases Nat.lt_or_ge budget m with hlt | hge
    · simp only [hfirst.short budget hlt]
    · obtain ⟨left, rfl⟩ := Nat.exists_eq_add_of_le hge
      obtain ⟨trees, htrees, -⟩ := hfirst.enough left
      have hshort : second left = none := hsecond.short left (by omega)
      simp only [htrees, hshort]

/-- Copies that take the same take a multiple of it. -/
theorem charges_forCopies {step : Counter → Nat → Option (List Tree × Nat)} {n : Nat}
    (hstep : ∀ counter, Charges (step counter) n) (counters : List Counter) :
    Charges (forCopies step counters) (counters.length * n) := by
  induction counters with
  | nil =>
    rw [List.length_nil, Nat.zero_mul]
    exact charges_zero
  | cons counter rest ih =>
    rw [List.length_cons, Nat.succ_mul, Nat.add_comm]
    exact (hstep counter).andThen ih

/-- A node takes one, before those below it take theirs. -/
theorem charges_node {below : Nat → Option (List Tree × Nat)} {n : Nat}
    (hbelow : Charges below n) (node : List Tree → Tree)
    (hnode : ∀ trees, Tree.forestSize trees = n → (node trees).size = 1 + n) :
    Charges
      (fun budget => match budget with
        | 0 => none
        | budget + 1 =>
          match below budget with
          | none => none
          | some (trees, budget) => some ([node trees], budget))
      (1 + n) where
  enough rest := by
    obtain ⟨trees, htrees, hsize⟩ := hbelow.enough rest
    refine ⟨[node trees], ?_, ?_⟩
    · rw [Nat.add_assoc, Nat.add_comm]
      simp only [htrees]
    · rw [Tree.forestSize_singleton, hnode trees hsize]
  short budget h := by
    cases budget with
    | zero => rfl
    | succ left => simp only [hbelow.short left (by omega)]

/-! ### Unrolling -/

theorem length_copies (counter : Counter) (count : Option Nat) :
    (counter.copies count).length = count.getD 1 := by
  cases count with
  | none => rfl
  | some n => simp [Counter.copies]

/-- One copy of an element with what is below it. -/
def elementCopy (parent : Option Text) (head : Element) (children : List Node)
    (counter : Counter) (budget : Nat) : Option (List Tree × Nat) :=
  match budget with
  | 0 => none
  | budget + 1 =>
    if head.isTextOnly && children.isEmpty then
      some ([.text (counter.number (head.text.getD []))], budget)
    else
      match unroll (some (elementName parent counter head)) counter children budget with
      | none => none
      | some (below, budget) =>
        some ([.element (elementName parent counter head)
          (head.attributes.map (numberAttribute counter)) (head.text.map counter.number)
          head.selfClosing below], budget)

theorem unrollNode_element (parent : Option Text) (counter : Counter) (head : Element)
    (children : List Node) :
    unrollNode parent counter (.element head children)
      = forCopies (elementCopy parent head children) (counter.copies head.count) := by
  funext budget
  rw [unrollNode]
  rfl

theorem unrollNode_group (parent : Option Text) (counter : Counter) (members : List Node)
    (count : Option Nat) :
    unrollNode parent counter (.group members count)
      = forCopies (fun counter => unroll parent counter members) (counter.copies count) := by
  funext budget
  rw [unrollNode]

theorem unroll_nil (parent : Option Text) (counter : Counter) :
    unroll parent counter [] = fun budget => some ([], budget) := by
  funext budget
  rw [unroll]

theorem unroll_cons (parent : Option Text) (counter : Counter) (node : Node)
    (rest : List Node) :
    unroll parent counter (node :: rest)
      = andThen (unrollNode parent counter node) (unroll parent counter rest) := by
  funext budget
  rw [unroll]
  rfl

/-- One copy takes one for itself and what its children take. -/
theorem charges_elementCopy {parent : Option Text} {head : Element} {children : List Node}
    {counter : Counter} {n : Nat}
    (hchildren : ∀ parent, Charges (unroll parent counter children) n)
    (hnil : children = [] → n = 0) :
    Charges (elementCopy parent head children counter) (1 + n) := by
  unfold elementCopy
  by_cases htext : (head.isTextOnly && children.isEmpty) = true
  · -- Bare text has no children, so there is nothing to take below it.
    have hn : n = 0 := hnil (List.isEmpty_iff.1 (Bool.and_eq_true_iff.1 htext).2)
    simp only [htext, if_true, hn]
    exact charges_node charges_zero (fun _ => .text _) fun trees _ => by rw [Tree.size]
  · simp only [htext]
    refine charges_node (hchildren _) (fun below => .element _ _ _ _ below) fun trees htrees => ?_
    rw [Tree.size, htrees, Nat.add_comm]

mutual

/-- A node takes from a budget what it stands for. -/
theorem charges_unrollNode (parent : Option Text) (counter : Counter) :
    (node : Node) → Charges (unrollNode parent counter node) node.instances
  | .element head children => by
    rw [unrollNode_element, Node.instances, ← length_copies counter]
    refine charges_forCopies (fun counter => charges_elementCopy ?_ ?_) _
    · exact fun parent => charges_unroll parent counter children
    · rintro rfl
      rw [Node.forestInstances]
  | .group members count => by
    rw [unrollNode_group, Node.instances, ← length_copies counter]
    exact charges_forCopies (fun counter => charges_unroll parent counter members) _

/-- A forest takes from a budget what it stands for. -/
theorem charges_unroll (parent : Option Text) (counter : Counter) :
    (forest : List Node) → Charges (unroll parent counter forest) (Node.forestInstances forest)
  | [] => by
    rw [unroll_nil, Node.forestInstances]
    exact charges_zero
  | node :: rest => by
    rw [unroll_cons, Node.forestInstances]
    exact (charges_unrollNode parent counter node).andThen (charges_unroll parent counter rest)

end

/-- A forest is unrolled if and only if the budget covers what it stands for. Then it becomes
that many nodes, and the rest of the budget is left. -/
theorem unroll_instances (parent : Option Text) (counter : Counter) (forest : List Node)
    (budget : Nat) :
    if Node.forestInstances forest ≤ budget then
      ∃ trees, unroll parent counter forest budget
          = some (trees, budget - Node.forestInstances forest) ∧
        Tree.forestSize trees = Node.forestInstances forest
    else unroll parent counter forest budget = none := by
  have hcharges := charges_unroll parent counter forest
  split
  · rename_i hle
    obtain ⟨rest, rfl⟩ := Nat.exists_eq_add_of_le hle
    rw [Nat.add_sub_cancel_left]
    exact hcharges.enough rest
  · rename_i hgt
    exact hcharges.short budget (Nat.lt_of_not_le hgt)

end Markup

end Shorthand
