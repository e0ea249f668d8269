import Shorthand.Proofs.Markup.Budget
import Shorthand.Proofs.Markup.Numbering

/-!
# `Shorthand.Proofs.Markup.WrittenOut`: repeats and groups are shorthand

A repeat stands for copies and a group stands for its members, so a forest can be written out
without either. `Node.forestWrittenOut` does so before anything is unrolled.
`unroll_forestWrittenOut` says that this makes no difference: both forests are unrolled to the
same trees and leave the same budget, or the budget covers neither.

Three things could tell the two apart. Numbers could, since a copy that is written out is no
longer numbered, so the forest has no dollar signs. The name of an element without one comes
from its parent, which a group passes on. And an element is bare text only while nothing stands
below it, so groups must not be empty and repeats must not be zero: then something is written
out below an element if and only if something stands there (`isEmpty_forestWrittenOut`).

The counters around the two forests differ, so the induction is over both at once: a forest
under any counter, and what it is written out to under any other.
-/

set_option autoImplicit false

namespace Shorthand

/-! ### Forests that are shorthand -/

/-- An element without dollar signs. -/
structure Element.IsUnnumbered (e : Element) : Prop where
  name : ∀ name ∈ e.name, '$' ∉ name
  attributeNames : ∀ a ∈ e.attributes, '$' ∉ a.name
  attributeValues : ∀ a ∈ e.attributes, ∀ value ∈ a.value, '$' ∉ value
  text : ∀ text ∈ e.text, '$' ∉ text

namespace Node

mutual

/-- A node in which nothing is numbered, every repeat makes a copy and every group has a
member. -/
def IsShorthand : Node → Prop
  | element head children =>
    head.IsUnnumbered ∧ (∀ n ∈ head.count, 1 ≤ n) ∧ IsShorthandForest children
  | group members count =>
    members ≠ [] ∧ (∀ n ∈ count, 1 ≤ n) ∧ IsShorthandForest members

/-- A forest of such nodes. -/
def IsShorthandForest : List Node → Prop
  | [] => True
  | node :: rest => IsShorthand node ∧ IsShorthandForest rest

end

mutual

/-- A node without repeats and without groups. -/
def IsWrittenOut : Node → Prop
  | element head children => head.count = none ∧ IsWrittenOutForest children
  | group _ _ => False

/-- A forest without repeats and without groups. -/
def IsWrittenOutForest : List Node → Prop
  | [] => True
  | node :: rest => IsWrittenOut node ∧ IsWrittenOutForest rest

end

theorem isWrittenOutForest_iff {forest : List Node} :
    IsWrittenOutForest forest ↔ ∀ node ∈ forest, IsWrittenOut node := by
  induction forest with
  | nil => simp [IsWrittenOutForest]
  | cons node rest ih => rw [IsWrittenOutForest, ih, List.forall_mem_cons]

mutual

theorem isWrittenOut_of_mem_writtenOut :
    (host : Node) → ∀ node ∈ writtenOut host, IsWrittenOut node
  | element head children, node, hnode => by
    rw [writtenOut] at hnode
    rw [(List.mem_replicate.1 hnode).2, IsWrittenOut]
    exact ⟨rfl, isWrittenOutForest_iff.2 (isWrittenOut_of_mem_forestWrittenOut children)⟩
  | group members count, node, hnode => by
    rw [writtenOut] at hnode
    obtain ⟨copy, hcopy, hmem⟩ := List.mem_flatten.1 hnode
    rw [(List.mem_replicate.1 hcopy).2] at hmem
    exact isWrittenOut_of_mem_forestWrittenOut members node hmem

theorem isWrittenOut_of_mem_forestWrittenOut :
    (forest : List Node) → ∀ node ∈ forestWrittenOut forest, IsWrittenOut node
  | [], node, hnode => by
    rw [forestWrittenOut] at hnode
    cases hnode
  | first :: rest, node, hnode => by
    rw [forestWrittenOut, List.mem_append] at hnode
    obtain hfirst | hrest := hnode
    · exact isWrittenOut_of_mem_writtenOut first node hfirst
    · exact isWrittenOut_of_mem_forestWrittenOut rest node hrest

end

theorem getD_one_ne_zero {count : Option Nat} (h : ∀ n ∈ count, 1 ≤ n) : count.getD 1 ≠ 0 := by
  cases count with
  | none => exact Nat.one_ne_zero
  | some n => exact Nat.ne_of_gt (h n rfl)

mutual

/-- Something is written out for every node. -/
theorem writtenOut_ne_nil : (node : Node) → IsShorthand node → writtenOut node ≠ []
  | element head children, ⟨_, hcount, _⟩ => by
    rw [writtenOut, Ne, List.replicate_eq_nil_iff]
    exact getD_one_ne_zero hcount
  | group members count, ⟨hmembers, hcount, h⟩ => by
    have hnonempty := forestWrittenOut_ne_nil members hmembers h
    rw [writtenOut, Ne, List.flatten_eq_nil_iff]
    intro hcopies
    exact hnonempty (hcopies _ (List.mem_replicate.2 ⟨getD_one_ne_zero hcount, rfl⟩))

theorem forestWrittenOut_ne_nil :
    (forest : List Node) → forest ≠ [] → IsShorthandForest forest → forestWrittenOut forest ≠ []
  | [], hne, _ => absurd rfl hne
  | node :: rest, _, ⟨hnode, _⟩ => by
    rw [forestWrittenOut]
    exact List.append_ne_nil_of_left_ne_nil (writtenOut_ne_nil node hnode) _

end

/-- Nothing is written out if and only if nothing is there. -/
theorem isEmpty_forestWrittenOut {forest : List Node} (h : IsShorthandForest forest) :
    (forestWrittenOut forest).isEmpty = forest.isEmpty := by
  cases forest with
  | nil => rfl
  | cons node rest =>
    rw [List.isEmpty_eq_false_iff.2 (forestWrittenOut_ne_nil _ (List.cons_ne_nil _ _) h)]
    rfl

end Node

namespace Markup

/-! ### Steps in sequence -/

theorem andThen_nothing (run : Nat → Option (List Tree × Nat)) :
    andThen run (fun budget => some ([], budget)) = run := by
  funext budget
  unfold andThen
  cases run budget with
  | none => rfl
  | some result => simp only [List.append_nil]

theorem nothing_andThen (run : Nat → Option (List Tree × Nat)) :
    andThen (fun budget => some ([], budget)) run = run := by
  funext budget
  unfold andThen
  simp only
  cases run budget with
  | none => rfl
  | some result => simp only [List.nil_append]

theorem andThen_assoc (first second third : Nat → Option (List Tree × Nat)) :
    andThen (andThen first second) third = andThen first (andThen second third) := by
  funext budget
  unfold andThen
  cases first budget with
  | none => rfl
  | some trees =>
    simp only
    cases second trees.2 with
    | none => rfl
    | some more =>
      simp only
      cases third more.2 with
      | none => rfl
      | some others => simp only [List.append_assoc]

section

variable (parent : Option Text) (counter : Counter)

theorem unroll_singleton (node : Node) :
    unroll parent counter [node] = unrollNode parent counter node := by
  rw [unroll_cons, unroll_nil, andThen_nothing]

/-- Bare text takes one of the budget. -/
theorem unrollNode_text (text : Text) (budget : Nat) :
    unrollNode parent counter (.element { text := some text } []) (budget + 1)
      = some ([.text (counter.number text)], budget) := by
  rw [unrollNode_element]
  simp [Counter.copies, forCopies, elementCopy, Element.isTextOnly]

theorem unroll_append (nodes more : List Node) :
    unroll parent counter (nodes ++ more)
      = andThen (unroll parent counter nodes) (unroll parent counter more) := by
  induction nodes with
  | nil => rw [List.nil_append, unroll_nil, nothing_andThen]
  | cons node rest ih => rw [List.cons_append, unroll_cons, unroll_cons, ih, andThen_assoc]

/-- Copies that are all made alike are copies in a forest. -/
theorem forCopies_eq_unroll {step : Counter → Nat → Option (List Tree × Nat)}
    {nodes : List Node} (hstep : ∀ copy, step copy = unroll parent counter nodes)
    (counters : List Counter) :
    forCopies step counters
      = unroll parent counter (List.replicate counters.length nodes).flatten := by
  induction counters with
  | nil =>
    rw [List.length_nil, List.replicate_zero, List.flatten_nil, unroll_nil]
    rfl
  | cons copy rest ih =>
    rw [List.length_cons, List.replicate_succ, List.flatten_cons, unroll_append, ← hstep copy,
      ← ih]
    rfl

end

/-! ### One element under two counters -/

section

variable {head : Element} (h : head.IsUnnumbered)
include h

theorem elementName_unnumbered (parent : Option Text) (counter : Counter) :
    elementName parent counter head = head.name.getD (implicitName parent) := by
  unfold elementName
  cases hname : head.name with
  | none => rfl
  | some name => exact counter.number_of_notMem (h.name name hname)

theorem map_numberAttribute (counter : Counter) :
    head.attributes.map (numberAttribute counter) = head.attributes := by
  conv => rhs; rw [← List.map_id head.attributes]
  refine List.map_congr_left fun a ha => ?_
  have hvalue : a.value.map counter.number = a.value := by
    cases hv : a.value with
    | none => rfl
    | some value => exact congrArg some (counter.number_of_notMem (h.attributeValues a ha value hv))
  rw [numberAttribute, counter.number_of_notMem (h.attributeNames a ha), hvalue, id]

theorem map_number_text (counter : Counter) : head.text.map counter.number = head.text := by
  cases htext : head.text with
  | none => rfl
  | some text => exact congrArg some (counter.number_of_notMem (h.text text htext))

theorem number_text (counter : Counter) :
    counter.number (head.text.getD []) = head.text.getD [] := by
  cases htext : head.text with
  | none => exact counter.number_nil
  | some text => exact counter.number_of_notMem (h.text text htext)

/-- A copy does not depend on its counter, nor on the repeat that it is a copy of, when the
nodes below it do not. -/
theorem elementCopy_eq {parent : Option Text} {counter other : Counter}
    {children written : List Node} (hempty : written.isEmpty = children.isEmpty)
    (hbelow : ∀ parent, unroll parent counter children = unroll parent other written) :
    elementCopy parent head children counter
      = elementCopy parent { head with count := none } written other := by
  have hwritten : Element.IsUnnumbered { head with count := none } :=
    ⟨h.name, h.attributeNames, h.attributeValues, h.text⟩
  funext budget
  cases budget with
  | zero => rfl
  | succ budget =>
    simp only [elementCopy, hempty, hbelow, elementName_unnumbered h,
      elementName_unnumbered hwritten, number_text h, map_numberAttribute h, map_number_text h]
    rfl

end

/-! ### Whole forests -/

mutual

/-- A node is unrolled to what its copies and members are unrolled to. -/
theorem unrollNode_eq_unroll (parent : Option Text) (counter other : Counter) :
    (node : Node) → node.IsShorthand →
      unrollNode parent counter node = unroll parent other node.writtenOut
  | .element head children, ⟨hhead, _, hchildren⟩ => by
    -- No copy shows its counter, so each is unrolled like the one node that is written out.
    have hcopy : ∀ copy, elementCopy parent head children copy
        = unroll parent other
            [.element { head with count := none } (Node.forestWrittenOut children)] := by
      intro copy
      rw [unroll_singleton, unrollNode_element,
        elementCopy_eq hhead (Node.isEmpty_forestWrittenOut hchildren)
          fun parent => unroll_eq_unroll parent copy other children hchildren]
      exact (andThen_nothing _).symm
    rw [unrollNode_element, forCopies_eq_unroll parent other hcopy, length_copies,
      Node.writtenOut, List.flatten_replicate_singleton]
  | .group members count, ⟨_, _, hmembers⟩ => by
    rw [unrollNode_group, Node.writtenOut, ← length_copies counter count]
    exact forCopies_eq_unroll parent other
      (fun copy => unroll_eq_unroll parent copy other members hmembers) _

theorem unroll_eq_unroll (parent : Option Text) (counter other : Counter) :
    (forest : List Node) → Node.IsShorthandForest forest →
      unroll parent counter forest = unroll parent other (Node.forestWrittenOut forest)
  | [], _ => by rw [Node.forestWrittenOut, unroll_nil, unroll_nil]
  | node :: rest, ⟨hnode, hrest⟩ => by
    rw [unroll_cons, Node.forestWrittenOut, unroll_append,
      unrollNode_eq_unroll parent counter other node hnode,
      unroll_eq_unroll parent counter other rest hrest]

end

/-- Repeats and groups are only shorthand. A forest in which nothing is numbered, no group is
empty and no repeat is zero can be written out without repeats and groups, and what is written
out is unrolled alike: below every parent, under every counter and from every budget it gives
the same trees and leaves the same budget, or both run short. -/
theorem unroll_forestWrittenOut {forest : List Node} (h : Node.IsShorthandForest forest) :
    Node.IsWrittenOutForest (Node.forestWrittenOut forest) ∧
    ∀ (parent : Option Text) (counter : Counter) (budget : Nat),
      unroll parent counter forest budget
        = unroll parent counter (Node.forestWrittenOut forest) budget :=
  ⟨Node.isWrittenOutForest_iff.2 (Node.isWrittenOut_of_mem_forestWrittenOut forest),
    fun parent counter budget => congrFun (unroll_eq_unroll parent counter counter forest h) budget⟩

/-- A list with a repeated group of a repeated text and an element without a name. -/
def repeatedItems : List Node :=
  [.element { name := some "ul" }
    [.group
      [.element { text := some "x", count := some 2 } [],
        .element { attributes := [⟨"class", some "c"⟩] } [.element { text := some "y" } []]]
      (some 2)]]

/-- The same list, copy by copy. -/
def copiedItems : List Node :=
  let text : Node := .element { text := some "x" } []
  let item : Node :=
    .element { attributes := [⟨"class", some "c"⟩] } [.element { text := some "y" } []]
  [.element { name := some "ul" } [text, text, item, text, text, item]]

theorem isShorthandForest_repeatedItems : Node.IsShorthandForest repeatedItems := by
  have hul : Element.IsUnnumbered { name := some "ul" } :=
    ⟨by decide, by decide, by decide, by decide⟩
  have hx : Element.IsUnnumbered { text := some "x", count := some 2 } :=
    ⟨by decide, by decide, by decide, by decide⟩
  have hitem : Element.IsUnnumbered { attributes := [⟨"class", some "c"⟩] } :=
    ⟨by decide, by decide, by decide, by decide⟩
  have hy : Element.IsUnnumbered { text := some "y" } :=
    ⟨by decide, by decide, by decide, by decide⟩
  exact ⟨⟨hul, by decide, ⟨List.cons_ne_nil _ _, by decide, ⟨hx, by decide, trivial⟩,
    ⟨hitem, by decide, ⟨hy, by decide, trivial⟩, trivial⟩, trivial⟩, trivial⟩, trivial⟩

/-- What both are unrolled to. -/
def itemTrees : List Tree :=
  let item : Tree := .element "li" [⟨"class", some "c"⟩] none false [.text "y"]
  [.element "ul" [] none false [.text "x", .text "x", item, .text "x", .text "x", item]]

theorem unroll_forestWrittenOut_repeatedItems :
    Node.IsShorthandForest repeatedItems ∧
    unroll none {} repeatedItems maxNodes = unroll none {} copiedItems maxNodes ∧
    unroll none {} repeatedItems maxNodes = some (itemTrees, 9991) := by
  have hsame : unroll none {} repeatedItems maxNodes = unroll none {} copiedItems maxNodes :=
    (unroll_forestWrittenOut isShorthandForest_repeatedItems).2 none {} maxNodes
  have hnumber (s : Text) (hs : '$' ∉ s) : Counter.number {} s = s :=
    Counter.number_of_notMem {} hs
  have hname : implicitName (some "ul".toList) = "li" := by decide
  have hitem (budget : Nat) :
      unrollNode (some "ul".toList) {} (.element { attributes := [⟨"class", some "c"⟩] }
          [.element { text := some "y" } []]) (budget + 1 + 1)
        = some ([.element "li" [⟨"class", some "c"⟩] none false [.text "y"]], budget) := by
    rw [unrollNode_element]
    simp only [Counter.copies, forCopies, elementCopy, elementName, hname, unroll_singleton,
      unrollNode_text, numberAttribute, List.map, Option.map, hnumber "class" (by decide),
      hnumber "c" (by decide), hnumber "y" (by decide)]
    rfl
  refine ⟨isShorthandForest_repeatedItems, hsame, ?_⟩
  rw [hsame, copiedItems, unroll_singleton, unrollNode_element]
  simp only [Counter.copies, forCopies, elementCopy, elementName, hnumber "ul" (by decide), unroll,
    unrollNode_text, hnumber "x" (by decide), hitem, maxNodes]
  rfl

end Markup

end Shorthand
