import Mathlib.Data.List.Forall2
import Shorthand.Proofs.Markup.Budget

/-!
# `Shorthand.Proofs.Markup.Copies`: the nodes of the output are copies of elements

Unrolling writes repeats out, so each node of the output is a copy of an element of the forest,
under the counter of that copy. Which copies there are, and in which order, is known from the
forest alone: `Node.forestCopies` lists them, each before those below it.

`forall₂_unroll` says that the nodes of the output, read in the same order, are these copies.
Whatever is numbered in a node is numbered with the counter of its copy (`Copy.WrittenAs`), so
what holds of all copies of a forest holds of all that unrolling writes. Two things do: a copy
is of an element of the forest, and its counter is a position among so many copies
(`head_mem_and_index_lt`).
-/

set_option autoImplicit false

namespace Shorthand

/-- An element with the counter of one of its copies. -/
structure Copy where
  head : Element
  counter : Counter
  deriving DecidableEq, Repr

namespace Node

mutual

/-- The copies that a node stands for. -/
def copies (counter : Counter) : Node → List Copy
  | element head children =>
    (counter.copies head.count).flatMap fun counter =>
      ⟨head, counter⟩ :: forestCopies counter children
  | group members count =>
    (counter.copies count).flatMap fun counter => forestCopies counter members

/-- The copies that a forest stands for, each before those below it. -/
def forestCopies (counter : Counter) : List Node → List Copy
  | [] => []
  | node :: rest => copies counter node ++ forestCopies counter rest

end

end Node

namespace Tree

mutual

/-- A node of the output with all nodes below it. -/
def nodes : Tree → List Tree
  | element name attributes content selfClosing children =>
    element name attributes content selfClosing children :: forestNodes children
  | text content => [text content]

/-- All nodes of the output, each before those below it. -/
def forestNodes : List Tree → List Tree
  | [] => []
  | tree :: rest => nodes tree ++ forestNodes rest

end

@[simp]
theorem forestNodes_nil : forestNodes [] = [] := by
  rw [forestNodes]

@[simp]
theorem forestNodes_singleton (tree : Tree) : forestNodes [tree] = nodes tree := by
  rw [forestNodes, forestNodes_nil, List.append_nil]

@[simp]
theorem forestNodes_append (trees more : List Tree) :
    forestNodes (trees ++ more) = forestNodes trees ++ forestNodes more := by
  induction trees with
  | nil => simp
  | cons tree rest ih =>
    show forestNodes (tree :: (rest ++ more)) = forestNodes (tree :: rest) ++ forestNodes more
    rw [forestNodes, forestNodes, ih, List.append_assoc]

end Tree

open Markup in
/-- `copy.WrittenAs tree`: the node of the output is the copy. Its texts are those of the element,
numbered with the counter of the copy. A name that the element lacks comes from the parent. -/
inductive Copy.WrittenAs (copy : Copy) : Tree → Prop where
  | text (h : copy.head.isTextOnly = true) :
    WrittenAs copy (.text (copy.counter.number (copy.head.text.getD [])))
  | element (name : Text) (below : List Tree)
    (hname : ∀ own, copy.head.name = some own → name = copy.counter.number own) :
    WrittenAs copy (.element name (copy.head.attributes.map (numberAttribute copy.counter))
      (copy.head.text.map copy.counter.number) copy.head.selfClosing below)

namespace Markup

/-! ### Steps that make copies -/

/-- A step that makes the given copies, whenever its budget suffices. -/
def Makes (run : Nat → Option (List Tree × Nat)) (copies : List Copy) : Prop :=
  ∀ budget trees rest, run budget = some (trees, rest) →
    List.Forall₂ Copy.WrittenAs copies (Tree.forestNodes trees)

theorem makes_nothing : Makes (fun budget => some ([], budget)) [] := by
  intro budget trees rest h
  cases h
  rw [Tree.forestNodes_nil]
  exact .nil

theorem Makes.andThen {first second : Nat → Option (List Tree × Nat)} {copies more : List Copy}
    (hfirst : Makes first copies) (hsecond : Makes second more) :
    Makes (andThen first second) (copies ++ more) := by
  intro budget trees rest h
  unfold Markup.andThen at h
  split at h
  · cases h
  · rename_i trees left hrun
    split at h
    · cases h
    · rename_i others left' hrun'
      cases h
      rw [Tree.forestNodes_append]
      exact List.rel_append (hfirst _ _ _ hrun) (hsecond _ _ _ hrun')

/-- What each counter makes is made for all of them in turn. -/
theorem makes_forCopies {step : Counter → Nat → Option (List Tree × Nat)}
    {copies : Counter → List Copy} (hstep : ∀ counter, Makes (step counter) (copies counter))
    (counters : List Counter) : Makes (forCopies step counters) (counters.flatMap copies) := by
  induction counters with
  | nil => exact makes_nothing
  | cons counter rest ih =>
    rw [List.flatMap_cons]
    exact (hstep counter).andThen ih

/-- One copy of an element is made before the copies below it. -/
theorem makes_elementCopy {parent : Option Text} {head : Element} {children : List Node}
    {counter : Counter} {copies : List Copy}
    (hchildren : ∀ parent, Makes (unroll parent counter children) copies)
    (hnil : children = [] → copies = []) :
    Makes (elementCopy parent head children counter) (⟨head, counter⟩ :: copies) := by
  intro budget trees rest h
  unfold elementCopy at h
  split at h
  · cases h
  · split at h
    · -- Bare text has no children, so it is the only copy.
      rename_i htext
      rw [Bool.and_eq_true, List.isEmpty_iff] at htext
      cases h
      rw [hnil htext.2, Tree.forestNodes_singleton, Tree.nodes]
      exact .cons (Copy.WrittenAs.text htext.1) .nil
    · split at h
      · cases h
      · rename_i below left hbelow
        cases h
        rw [Tree.forestNodes_singleton, Tree.nodes]
        refine .cons (Copy.WrittenAs.element _ _ fun own hown => ?_) (hchildren _ _ _ _ hbelow)
        rw [elementName, hown]

mutual

theorem makes_unrollNode (parent : Option Text) (counter : Counter) :
    (node : Node) → Makes (unrollNode parent counter node) (node.copies counter)
  | .element head children => by
    rw [unrollNode_element, Node.copies]
    refine makes_forCopies (fun counter => makes_elementCopy (fun parent => ?_) ?_) _
    · exact makes_unroll parent counter children
    · rintro rfl
      rw [Node.forestCopies]
  | .group members count => by
    rw [unrollNode_group, Node.copies]
    exact makes_forCopies (fun counter => makes_unroll parent counter members) _

theorem makes_unroll (parent : Option Text) (counter : Counter) :
    (forest : List Node) → Makes (unroll parent counter forest) (Node.forestCopies counter forest)
  | [] => by
    rw [unroll_nil, Node.forestCopies]
    exact makes_nothing
  | node :: rest => by
    rw [unroll_cons, Node.forestCopies]
    exact (makes_unrollNode parent counter node).andThen (makes_unroll parent counter rest)

end

/-- The nodes of the output are the copies that the forest stands for, in their order. -/
theorem forall₂_unroll {parent : Option Text} {counter : Counter} {forest : List Node}
    {budget rest : Nat} {trees : List Tree}
    (h : unroll parent counter forest budget = some (trees, rest)) :
    List.Forall₂ Copy.WrittenAs (Node.forestCopies counter forest) (Tree.forestNodes trees) :=
  makes_unroll parent counter forest budget trees rest h

end Markup

/-! ### What all copies have in common -/

/-- Repeats count up to their number, and a node without a repeat keeps the counter around it. -/
theorem Counter.index_lt_of_mem_copies {outer counter : Counter} {count : Option Nat}
    (houter : outer.index < outer.total) (h : counter ∈ outer.copies count) :
    counter.index < counter.total := by
  cases count with
  | none =>
    rw [List.mem_singleton.1 h]
    exact houter
  | some n =>
    obtain ⟨i, hi, rfl⟩ := List.mem_map.1 h
    exact List.mem_range.1 hi

namespace Node

mutual

theorem head_mem_and_index_lt_node {counter : Counter} {copy : Copy} : (node : Node) →
    copy ∈ node.copies counter → copy.head ∈ node.elements ∧
      (counter.index < counter.total → copy.counter.index < copy.counter.total)
  | element head children, h => by
    rw [copies, List.mem_flatMap] at h
    obtain ⟨inner, hinner, hmem⟩ := h
    rw [elements, List.mem_cons]
    obtain rfl | hbelow := List.mem_cons.1 hmem
    · exact ⟨.inl rfl, fun hcounter => Counter.index_lt_of_mem_copies hcounter hinner⟩
    · obtain ⟨hhead, hindex⟩ := head_mem_and_index_lt children hbelow
      exact ⟨.inr hhead, fun hcounter => hindex (Counter.index_lt_of_mem_copies hcounter hinner)⟩
  | group members count, h => by
    rw [copies, List.mem_flatMap] at h
    obtain ⟨inner, hinner, hmem⟩ := h
    rw [elements]
    obtain ⟨hhead, hindex⟩ := head_mem_and_index_lt members hmem
    exact ⟨hhead, fun hcounter => hindex (Counter.index_lt_of_mem_copies hcounter hinner)⟩

/-- A copy is of an element of the forest. Under a counter that is a position, so is its own. -/
theorem head_mem_and_index_lt {counter : Counter} {copy : Copy} : (forest : List Node) →
    copy ∈ forestCopies counter forest → copy.head ∈ forestElements forest ∧
      (counter.index < counter.total → copy.counter.index < copy.counter.total)
  | [], h => by
    rw [forestCopies] at h
    cases h
  | node :: rest, h => by
    rw [forestCopies, List.mem_append] at h
    rw [forestElements, List.mem_append]
    obtain hnode | hrest := h
    · obtain ⟨hhead, hindex⟩ := head_mem_and_index_lt_node node hnode
      exact ⟨.inl hhead, hindex⟩
    · obtain ⟨hhead, hindex⟩ := head_mem_and_index_lt rest hrest
      exact ⟨.inr hhead, hindex⟩

end

end Node

end Shorthand
