import Shorthand.Proofs.Markup.Slots

/-!
# `Shorthand.Proofs.Markup.Nested`: markup written from the inside

The layout makes a list of lines first and indents them at the end. The text can also be written
without lines, one element at a time: the text of an element has the texts of its children put
in, each behind a line end and the indentation of its own level if the element is a block.

`nestedNode` writes it so, and takes the indentation unit along. `renderNested_eq` says that both
ways give the same text, for every unit. Two things have to agree for this. The layout decides
from outside, before it looks below an element, that a whole subtree goes on one line, where
`nestedNode` decides for each element anew (`nestedNode_of_line`). And each line of a subtree
gets its indentation from its depth, where `nestedNode` writes it behind the line end.
-/

set_option autoImplicit false

namespace Shorthand

/-- A node that is written on several lines. -/
def Tree.isBlock : Tree → Bool
  | .text _ => false
  | .element name _ content selfClosing children =>
    Markup.isBlock name content selfClosing children

namespace Markup

/-! ### Writing without lines -/

mutual

/-- The text of a node at a level. `n` counts the tab stops before and after. -/
def nestedNode (style : Style) (indent : Text) (level n : Nat) : Tree → Text × Nat
  | .text content => (content, n)
  | .element name attributes text selfClosing children =>
    let start := tagStart style n name attributes
    if closesItself name text selfClosing children then
      (start.1 ++ style.selfClosing.mark ++ ['>'], start.2)
    else if !forcesBlock name && allInline children then
      let own :=
        if !isBare text then (text.getD [], start.2)
        else if children.isEmpty then (tabStop (start.2 + 1), start.2 + 1)
        else ([], start.2)
      let below := nestedForest style indent level own.2 children
      (start.1 ++ '>' :: own.1 ++ below.1.flatten ++ closingTag name, below.2)
    else
      let pad := Text.times (innerDepth name level) indent
      let own := if isBare text then [] else '\n' :: pad ++ text.getD []
      let below := nestedForest style indent (innerDepth name level) start.2 children
      let stop :=
        if children.isEmpty && isBare text then
          ('\n' :: pad ++ tabStop (below.2 + 1), below.2 + 1)
        else ([], below.2)
      (start.1 ++ '>' :: own ++ below.1.flatMap (fun child => '\n' :: pad ++ child) ++ stop.1
        ++ '\n' :: Text.times level indent ++ closingTag name, stop.2)

/-- The texts of nodes at a level. -/
def nestedForest (style : Style) (indent : Text) (level n : Nat) :
    List Tree → List Text × Nat
  | [] => ([], n)
  | tree :: rest =>
    let first := nestedNode style indent level n tree
    let others := nestedForest style indent level first.2 rest
    (first.1 :: others.1, others.2)

end

/-- The text of a forest: its nodes side by side when all of it stays inline, and else one below
the other. -/
def renderNested (style : Style) (indent : Text) (forest : List Tree) : Text :=
  if allInline forest then (nestedForest style indent 0 0 forest).1.flatten
  else Text.join ['\n'] (nestedForest style indent 0 0 forest).1

/-! ### On one line -/

/-- No element is kept inline and made a block as well. -/
theorem forcesBlock_of_isInlineName {name : Text} (h : isInlineName name = true) :
    forcesBlock name = false := by
  cases hblock : forcesBlock name with
  | false => rfl
  | true =>
    have hname : "body".toList = name := by simpa [forcesBlock, Text.oneOf] using hblock
    rw [← hname] at h
    exact absurd h (by decide)

theorem isBlock_eq_false_iff {name : Text} {text : Option Text} {selfClosing : Bool}
    {children : List Tree} (h : closesItself name text selfClosing children = false) :
    isBlock name text selfClosing children = false
      ↔ forcesBlock name = false ∧ allInline children = true := by
  simp [isBlock, h]

theorem isBlock_of_isInline {tree : Tree} (h : isInline tree = true) : tree.isBlock = false := by
  cases tree with
  | text content => rfl
  | element name attributes text selfClosing children =>
    rw [isInline, Bool.and_eq_true] at h
    simp [Tree.isBlock, isBlock, forcesBlock_of_isInlineName h.1, h.2]

mutual

/-- A node that is no block is written on one line, at every level. -/
theorem nestedNode_of_line (style : Style) (indent : Text) (level n : Nat) : (tree : Tree) →
    tree.isBlock = false → nestedNode style indent level n tree = inlineNode style n tree
  | .text content, _ => by rw [nestedNode, inlineNode]
  | .element name attributes text selfClosing children, h => by
    rw [nestedNode]
    cases hclosed : closesItself name text selfClosing children with
    | true => rw [inlineNode_closed n hclosed, if_pos rfl]
    | false =>
      rw [Tree.isBlock, isBlock_eq_false_iff hclosed] at h
      simp only [h, Bool.not_false, Bool.and_self, Bool.false_eq_true, if_false, if_true]
      cases hbare : isBare text && children.isEmpty with
      | true =>
        rw [Bool.and_eq_true, List.isEmpty_iff] at hbare
        obtain ⟨hbare, rfl⟩ := hbare
        rw [inlineNode_bare n hclosed (by simp [hbare])]
        simp [hbare, nestedForest]
      | false =>
        -- A text that is bare has children beside it, and is written as nothing.
        have hown : (if (!isBare text) = true then
              (text.getD [], (tagStart style n name attributes).2)
            else if children.isEmpty = true then
              (tabStop ((tagStart style n name attributes).2 + 1),
                (tagStart style n name attributes).2 + 1)
            else ([], (tagStart style n name attributes).2))
            = (text.getD [], (tagStart style n name attributes).2) := by
          cases hempty : isBare text with
          | false => rfl
          | true =>
            rw [hempty, Bool.true_and] at hbare
            rw [hbare, beq_iff_eq.1 hempty]
            rfl
        rw [hown, inlineNode_filled n hclosed hbare,
          ← nestedForest_of_allInline style indent level _ children h.2]

/-- Nodes that stay inline are written side by side. -/
theorem nestedForest_of_allInline (style : Style) (indent : Text) (level n : Nat) :
    (forest : List Tree) → allInline forest = true →
    ((nestedForest style indent level n forest).1.flatten,
      (nestedForest style indent level n forest).2) = inlineForest style n forest
  | [], _ => by rw [nestedForest, inlineForest]; rfl
  | tree :: rest, h => by
    rw [allInline, Bool.and_eq_true] at h
    have hfirst := nestedNode_of_line style indent level n tree (isBlock_of_isInline h.1)
    have hrest := nestedForest_of_allInline style indent level (inlineNode style n tree).2 rest h.2
    rw [nestedForest, inlineForest, ← hrest, hfirst]
    rfl

end

/-! ### On several lines -/

/-- A line behind a line end. -/
def broken (indent : Text) (line : Line) : Text :=
  '\n' :: Text.times line.depth indent ++ line.content

theorem cons_join {texts : List Text} (h : texts ≠ []) :
    '\n' :: Text.join ['\n'] texts = texts.flatMap ('\n' :: ·) := by
  induction texts with
  | nil => exact absurd rfl h
  | cons text rest ih =>
    cases rest with
    | nil => simp [Text.join]
    | cons next rest =>
      rw [List.flatMap_cons, ← ih (List.cons_ne_nil _ _)]
      simp [Text.join]

/-- Lines are joined by what stands before each of them, the first line end aside. -/
theorem cons_joined (indent : Text) {lines : List Line} (h : lines ≠ []) :
    '\n' :: Line.joined indent lines = lines.flatMap (broken indent) := by
  rw [Line.joined, cons_join (mt List.map_eq_nil_iff.1 h), List.flatMap_map]
  rfl

mutual

/-- The lines of a node are its text at their depth. -/
theorem broken_nodeLines (style : Style) (indent : Text) (depth n : Nat) : (tree : Tree) →
    (nodeLines style depth n tree).1.flatMap (broken indent)
        = '\n' :: Text.times depth indent ++ (nestedNode style indent depth n tree).1 ∧
      (nodeLines style depth n tree).2 = (nestedNode style indent depth n tree).2
  | .text content => by
    rw [nodeLines, nestedNode]
    exact ⟨List.append_nil _, rfl⟩
  | .element name attributes text selfClosing children => by
    cases hblock : isBlock name text selfClosing children with
    | false =>
      have hline : Tree.isBlock (.element name attributes text selfClosing children) = false :=
        hblock
      rw [nodeLines_line n depth hblock, nestedNode_of_line style indent depth n _ hline]
      exact ⟨List.append_nil _, rfl⟩
    | true =>
      obtain ⟨hbelow, hstops⟩ := broken_forestLines style indent (innerDepth name depth)
        (tagStart style n name attributes).2 children
      have hclosed := closesItself_of_isBlock hblock
      have hspread : (!forcesBlock name && allInline children) = false := by
        rw [← Bool.not_eq_true', Bool.not_and, Bool.not_not]
        exact (Bool.and_eq_true_iff.1 hblock).2
      rw [nodeLines_block hblock rfl rfl, nestedNode]
      simp only [hclosed, hspread, Bool.false_eq_true, if_false, ← hstops, List.flatMap_append,
        hbelow]
      -- The text and the tab stop are there or not, in both ways of writing.
      cases hbare : isBare text with
      | false => simp [blockStart, blockEnd, hbare, broken]
      | true => cases hempty : children.isEmpty <;> simp [blockStart, blockEnd, hbare, broken]

theorem broken_forestLines (style : Style) (indent : Text) (depth n : Nat) :
    (forest : List Tree) →
    (forestLines style depth n forest).1.flatMap (broken indent)
        = (nestedForest style indent depth n forest).1.flatMap
          (fun text => '\n' :: Text.times depth indent ++ text) ∧
      (forestLines style depth n forest).2 = (nestedForest style indent depth n forest).2
  | [] => by
    rw [forestLines, nestedForest]
    exact ⟨rfl, rfl⟩
  | tree :: rest => by
    obtain ⟨hfirst, hstops⟩ := broken_nodeLines style indent depth n tree
    obtain ⟨hrest, hlast⟩ := broken_forestLines style indent depth
      (nodeLines style depth n tree).2 rest
    rw [forestLines, nestedForest, ← hstops]
    exact ⟨by simp only [List.flatMap_append, List.flatMap_cons, hfirst, hrest], hlast⟩

end

theorem forestLines_ne_nil (style : Style) (depth n : Nat) {forest : List Tree}
    (h : forest ≠ []) : (forestLines style depth n forest).1 ≠ [] := by
  obtain ⟨tree, rest, rfl⟩ := List.exists_cons_of_ne_nil h
  intro hnil
  have hbroken := (broken_forestLines style [] depth n (tree :: rest)).1
  rw [hnil, nestedForest, List.flatMap_cons] at hbroken
  cases hbroken

/-- Written without lines, a forest has the same text. -/
theorem renderNested_eq (style : Style) (indent : Text) (forest : List Tree) :
    renderNested style indent forest = render style indent forest := by
  rw [renderNested, render, layout]
  cases hinline : allInline forest with
  | true =>
    have hline := nestedForest_of_allInline style indent 0 0 forest hinline
    simp [Line.joined, Text.join, Text.times, ← hline]
  | false =>
    have hne : forest ≠ [] := by
      rintro rfl
      exact absurd hinline (by decide)
    have hnested : (nestedForest style indent 0 0 forest).1 ≠ [] := by
      obtain ⟨tree, rest, rfl⟩ := List.exists_cons_of_ne_nil hne
      rw [nestedForest]
      exact List.cons_ne_nil _ _
    simp only [Bool.false_eq_true, if_false]
    -- Both texts are the same with a line end before them.
    refine List.tail_eq_of_cons_eq (?_ : '\n' :: _ = '\n' :: _)
    calc '\n' :: Text.join ['\n'] (nestedForest style indent 0 0 forest).1
      _ = (nestedForest style indent 0 0 forest).1.flatMap ('\n' :: ·) := cons_join hnested
      _ = (forestLines style 0 0 forest).1.flatMap (broken indent) :=
        (broken_forestLines style indent 0 0 forest).1.symm
      _ = '\n' :: Line.joined indent (forestLines style 0 0 forest).1 :=
        (cons_joined indent (forestLines_ne_nil style 0 0 hne)).symm

end Markup

end Shorthand
