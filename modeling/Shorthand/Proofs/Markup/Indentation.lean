import Shorthand.Proofs.Markup.Nested

/-!
# `Shorthand.Proofs.Markup.Indentation`: how deep the lines of a forest are

The layout of a forest is one list of lines, whatever the indentation unit is. `render_marked`
says which depths these lines have, by the elements of the forest and not by how the layout
comes to them. Where a node starts, the line is as deep as there are blocks around the node, not
counting those of the name `html`. Where an element ends it is so as well, so that the closing
tag of a block stands below its opening tag.

For this, every line is divided into parts, and a part that starts or ends a node is marked with
the node and the elements around it (`Mark`). Read through all lines, the marks are those of the
forest in order (`Tree.forestMarks`): each written node starts once, and ends once behind all that
is below it. What a marked part holds is the tag or the text of its node (`Mark.IsWrittenAs`).

That nodes on one line are at the depth of the line needs that none of the elements around them
on that line is a block (`isBlock_of_isInline`).
-/

set_option autoImplicit false

namespace Shorthand

/-- The start or the end of a node in the output, with the elements around the node, the
innermost first. -/
structure Mark where
  opens : Bool
  above : List Tree
  node : Tree

namespace Tree

open Markup (closesItself)

mutual

/-- Where a tree and what is below it start and end. Text has no end of its own, and neither has
an element that closes itself. -/
def marks (above : List Tree) : Tree → List Mark
  | .text content => [⟨true, above, .text content⟩]
  | .element name attributes content selfClosing children =>
    if closesItself name content selfClosing children then
      [⟨true, above, .element name attributes content selfClosing children⟩]
    else
      ⟨true, above, .element name attributes content selfClosing children⟩
        :: forestMarks (.element name attributes content selfClosing children :: above) children
        ++ [⟨false, above, .element name attributes content selfClosing children⟩]

/-- Where the trees of a forest start and end. -/
def forestMarks (above : List Tree) : List Tree → List Mark
  | [] => []
  | tree :: rest => marks above tree ++ forestMarks above rest

end

/-- A block that is not named `html`. -/
def indents : Tree → Bool
  | .text _ => false
  | .element name attributes content selfClosing children =>
    isBlock (.element name attributes content selfClosing children) && name != "html".toList

end Tree

open Markup (Style tagStart closesItself closingTag) in
/-- What a node is written as where it starts or ends: an element by its tags, with some number
before its first tab stop, and text by itself. -/
def Mark.IsWrittenAs (style : Style) (mark : Mark) (content : Text) : Prop :=
  match mark.node with
  | .text text => content = text
  | .element name attributes text selfClosing children =>
    if mark.opens then
      ∃ n, content = (tagStart style n name attributes).1
        ++ (if closesItself name text selfClosing children then style.selfClosing.mark else [])
        ++ ['>']
    else content = closingTag name

/-- How many of the elements around a node are blocks and not named `html`. -/
def Mark.depth (mark : Mark) : Nat :=
  mark.above.countP Tree.indents

namespace Markup

open Shorthand.Tree (marks forestMarks)

/-! ### Marked lines -/

/-- A part of a line, marked when a node starts or ends with it. -/
structure Part where
  mark : Option Mark
  content : Text

/-- A line in parts. -/
structure MarkedLine where
  depth : Nat
  parts : List Part

namespace MarkedLine

/-- The line without its marks. -/
def line (marked : MarkedLine) : Line :=
  ⟨marked.depth, marked.parts.flatMap Part.content⟩

/-- The marks of a line in order. -/
def marks (marked : MarkedLine) : List Mark :=
  marked.parts.filterMap Part.mark

end MarkedLine

/-- Parts with the given marks, all of one depth, and what is written for them. -/
structure Shows (style : Style) (depth : Nat) (marks : List Mark) (parts : List Part) : Prop where
  marks_eq : parts.filterMap Part.mark = marks
  depth_eq : ∀ mark ∈ marks, mark.depth = depth
  written : ∀ part ∈ parts, ∀ mark ∈ part.mark, mark.IsWrittenAs style part.content

/-- Lines with the given marks, each at the depth of its marks, and what is written for them. -/
structure LinesShow (style : Style) (marks : List Mark) (lines : List MarkedLine) : Prop where
  marks_eq : lines.flatMap MarkedLine.marks = marks
  depth_eq : ∀ line ∈ lines, ∀ mark ∈ line.marks, line.depth = mark.depth
  written : ∀ line ∈ lines, ∀ part ∈ line.parts, ∀ mark ∈ part.mark,
    mark.IsWrittenAs style part.content

/-- A text that divides into parts with the given marks. -/
def ShowsText (style : Style) (depth : Nat) (marks : List Mark) (text : Text) : Prop :=
  ∃ parts, Shows style depth marks parts ∧ parts.flatMap Part.content = text

/-- Lines that divide into parts with the given marks. -/
def HasMarks (style : Style) (marks : List Mark) (lines : List Line) : Prop :=
  ∃ marked, LinesShow style marks marked ∧ marked.map MarkedLine.line = lines

section

variable {style : Style} {depth : Nat} {marks more : List Mark}

theorem showsText_plain (text : Text) : ShowsText style depth [] text :=
  ⟨[⟨none, text⟩], ⟨rfl, by simp, by simp⟩, by simp⟩

theorem showsText_mark {mark : Mark} {text : Text} (hdepth : mark.depth = depth)
    (h : mark.IsWrittenAs style text) : ShowsText style depth [mark] text :=
  ⟨[⟨some mark, text⟩], ⟨rfl, by simpa using hdepth, by simpa using h⟩, by simp⟩

theorem ShowsText.append {text others : Text} (h : ShowsText style depth marks text)
    (hothers : ShowsText style depth more others) :
    ShowsText style depth (marks ++ more) (text ++ others) := by
  obtain ⟨parts, hparts, rfl⟩ := h
  obtain ⟨parts', hparts', rfl⟩ := hothers
  refine ⟨parts ++ parts', ⟨?_, ?_, ?_⟩, List.flatMap_append⟩
  · rw [List.filterMap_append, hparts.marks_eq, hparts'.marks_eq]
  · exact List.forall_mem_append.2 ⟨hparts.depth_eq, hparts'.depth_eq⟩
  · exact List.forall_mem_append.2 ⟨hparts.written, hparts'.written⟩

/-- Any lines have no marks. -/
theorem hasMarks_plain (lines : List Line) : HasMarks style [] lines := by
  refine ⟨lines.map fun line => ⟨line.depth, [⟨none, line.content⟩]⟩, ⟨?_, ?_, ?_⟩, ?_⟩
  · simp [MarkedLine.marks]
  · simp [MarkedLine.marks]
  · simp
  · simp [MarkedLine.line, Function.comp_def]

/-- A line at the depth of its marks. -/
theorem ShowsText.hasMarks {text : Text} (h : ShowsText style depth marks text) :
    HasMarks style marks [⟨depth, text⟩] := by
  obtain ⟨parts, hparts, rfl⟩ := h
  refine ⟨[⟨depth, parts⟩], ⟨?_, ?_, ?_⟩, rfl⟩
  · rw [List.flatMap_singleton, MarkedLine.marks, hparts.marks_eq]
  · simp only [List.mem_singleton, forall_eq, MarkedLine.marks, hparts.marks_eq]
    exact fun mark hmark => (hparts.depth_eq mark hmark).symm
  · simpa using hparts.written

theorem HasMarks.append {lines others : List Line} (h : HasMarks style marks lines)
    (hothers : HasMarks style more others) : HasMarks style (marks ++ more) (lines ++ others) := by
  obtain ⟨marked, hmarked, rfl⟩ := h
  obtain ⟨marked', hmarked', rfl⟩ := hothers
  refine ⟨marked ++ marked', ⟨?_, ?_, ?_⟩, List.map_append⟩
  · rw [List.flatMap_append, hmarked.marks_eq, hmarked'.marks_eq]
  · exact List.forall_mem_append.2 ⟨hmarked.depth_eq, hmarked'.depth_eq⟩
  · exact List.forall_mem_append.2 ⟨hmarked.written, hmarked'.written⟩

end

/-! ### Nodes on one line -/

theorem indents_of_line {tree : Tree} (h : tree.isBlock = false) : tree.indents = false := by
  cases tree with
  | text content => rfl
  | element name attributes text selfClosing children => rw [Tree.indents, h, Bool.false_and]

section

variable {style : Style} {name : Text} {attributes : List Attribute} {text : Option Text}
  {selfClosing : Bool} {children : List Tree} (above : List Tree)

theorem marks_of_open (h : closesItself name text selfClosing children = false) :
    marks above (.element name attributes text selfClosing children)
      = [⟨true, above, .element name attributes text selfClosing children⟩]
        ++ forestMarks (.element name attributes text selfClosing children :: above) children
        ++ [⟨false, above, .element name attributes text selfClosing children⟩] := by
  rw [marks, if_neg (ne_true_of_eq_false h)]
  rfl

theorem showsText_opening (n : Nat) (h : closesItself name text selfClosing children = false) :
    ShowsText style (above.countP Tree.indents)
      [⟨true, above, .element name attributes text selfClosing children⟩]
      ((tagStart style n name attributes).1 ++ ['>']) := by
  refine showsText_mark rfl ⟨n, ?_⟩
  simp [h]

theorem showsText_closing :
    ShowsText style (above.countP Tree.indents)
      [⟨false, above, .element name attributes text selfClosing children⟩] (closingTag name) :=
  showsText_mark rfl rfl

/-- An element on one line, with what is between its tags. -/
theorem ShowsText.between_tags {body : Text} (n : Nat)
    (h : closesItself name text selfClosing children = false)
    (hbody : ShowsText style (above.countP Tree.indents)
      (forestMarks (.element name attributes text selfClosing children :: above) children) body) :
    ShowsText style (above.countP Tree.indents)
      (marks above (.element name attributes text selfClosing children))
      ((tagStart style n name attributes).1 ++ ['>'] ++ body ++ closingTag name) := by
  rw [marks_of_open above h]
  exact ((showsText_opening above n h).append hbody).append (showsText_closing above)

end

mutual

/-- A node that is no block starts and ends at the depth of its line, with all that is below
it. -/
theorem showsText_inlineNode (style : Style) (above : List Tree) (n : Nat) : (tree : Tree) →
    tree.isBlock = false →
    ShowsText style (above.countP Tree.indents) (marks above tree) (inlineNode style n tree).1
  | .text content, _ => by
    rw [inlineNode, marks]
    exact showsText_mark rfl rfl
  | .element name attributes text selfClosing children, h => by
    cases hclosed : closesItself name text selfClosing children with
    | true =>
      rw [inlineNode_closed n hclosed, marks, if_pos hclosed]
      refine showsText_mark rfl ⟨n, ?_⟩
      simp [hclosed]
    | false =>
      -- The element is no block, so what is below it is at the same depth.
      have hbelow := showsText_inlineForest style
        (.element name attributes text selfClosing children :: above)
        (tagStart style n name attributes).2 children ((isBlock_eq_false_iff hclosed).1 h).2
      rw [List.countP_cons_of_neg (by simp [indents_of_line h])] at hbelow
      cases hbare : isBare text && children.isEmpty with
      | true =>
        have hstop : ShowsText style (above.countP Tree.indents)
            (forestMarks (.element name attributes text selfClosing children :: above) children)
            (tabStop ((tagStart style n name attributes).2 + 1)) := by
          rw [List.isEmpty_iff.1 (Bool.and_eq_true_iff.1 hbare).2, forestMarks]
          exact showsText_plain _
        rw [inlineNode_bare n hclosed hbare]
        simpa using hstop.between_tags above n hclosed
      | false =>
        rw [inlineNode_filled n hclosed hbare]
        simpa using ((showsText_plain (text.getD [])).append hbelow).between_tags above n hclosed

/-- Nodes that stay inline are at the depth of their line. -/
theorem showsText_inlineForest (style : Style) (above : List Tree) (n : Nat) :
    (forest : List Tree) → allInline forest = true →
    ShowsText style (above.countP Tree.indents) (forestMarks above forest)
      (inlineForest style n forest).1
  | [], _ => by
    rw [inlineForest, forestMarks]
    exact showsText_plain []
  | tree :: rest, h => by
    rw [allInline, Bool.and_eq_true] at h
    rw [inlineForest, forestMarks]
    exact (showsText_inlineNode style above n tree (isBlock_of_isInline h.1)).append
      (showsText_inlineForest style above _ rest h.2)

end

/-! ### Nodes on several lines -/

/-- A block is one level around what is inside it, unless it is named `html`. -/
theorem innerDepth_eq {name : Text} {attributes : List Attribute} {text : Option Text}
    {selfClosing : Bool} {children : List Tree}
    (h : isBlock name text selfClosing children = true) (above : List Tree) :
    innerDepth name (above.countP Tree.indents)
      = (.element name attributes text selfClosing children :: above).countP Tree.indents := by
  have hindents : (Tree.element name attributes text selfClosing children).indents
      = !skipsIndent name := by
    rw [Tree.indents, Tree.isBlock, h, Bool.true_and]
    simp [skipsIndent, Text.oneOf, bne, Bool.beq_comm]
  rw [List.countP_cons, hindents, innerDepth]
  cases skipsIndent name <;> rfl

section

variable {style : Style} {name : Text} {attributes : List Attribute} {text : Option Text}
  {selfClosing : Bool} {children : List Tree} (above : List Tree)

theorem hasMarks_blockStart (n : Nat)
    (h : closesItself name text selfClosing children = false) :
    HasMarks style [⟨true, above, .element name attributes text selfClosing children⟩]
      (blockStart style (above.countP Tree.indents) n name attributes text) :=
  (showsText_opening above n h).hasMarks.append (hasMarks_plain _)

theorem hasMarks_blockEnd (n : Nat) (bare : Bool) :
    HasMarks style [⟨false, above, .element name attributes text selfClosing children⟩]
      (blockEnd (above.countP Tree.indents) n name bare).1 := by
  cases bare with
  | false => exact (showsText_closing above).hasMarks
  | true =>
    exact (hasMarks_plain [⟨_, tabStop (n + 1)⟩]).append (showsText_closing above).hasMarks

end

mutual

/-- The lines of a node are at the depths of the marks on them. -/
theorem hasMarks_nodeLines (style : Style) (above : List Tree) (n : Nat) : (tree : Tree) →
    HasMarks style (marks above tree)
      (nodeLines style (above.countP Tree.indents) n tree).1
  | .text content => by
    rw [nodeLines, marks]
    exact ShowsText.hasMarks (showsText_mark rfl rfl)
  | .element name attributes text selfClosing children => by
    cases hblock : isBlock name text selfClosing children with
    | false =>
      rw [nodeLines_line n _ hblock]
      exact ShowsText.hasMarks (showsText_inlineNode style above n _ hblock)
    | true =>
      have hclosed := closesItself_of_isBlock hblock
      have hbelow := hasMarks_forestLines style
        (.element name attributes text selfClosing children :: above)
        (tagStart style n name attributes).2 children
      rw [← innerDepth_eq hblock] at hbelow
      rw [nodeLines_block hblock rfl rfl, marks_of_open above hclosed]
      exact ((hasMarks_blockStart above n hclosed).append hbelow).append
        (hasMarks_blockEnd above _ (isBare text && children.isEmpty))

theorem hasMarks_forestLines (style : Style) (above : List Tree) (n : Nat) :
    (forest : List Tree) →
    HasMarks style (forestMarks above forest)
      (forestLines style (above.countP Tree.indents) n forest).1
  | [] => by
    rw [forestLines, forestMarks]
    exact hasMarks_plain []
  | tree :: rest => by
    rw [forestLines, forestMarks]
    exact (hasMarks_nodeLines style above n tree).append
      (hasMarks_forestLines style above _ rest)

end

/-! ### Forests -/

/-- The lines of a forest do not depend on the indentation unit, nor on the way in which the text
is written. Their marks are those of the forest in order, and every line is as deep as there are
blocks not named `html` around the nodes that start and end on it. A forest of which all stays
inline has one line, at depth zero. -/
theorem render_marked (style : Style) (forest : List Tree) :
    ∃ lines : List MarkedLine, LinesShow style (forestMarks [] forest) lines ∧
      (∀ indent, render style indent forest
          = Line.joined indent (lines.map MarkedLine.line) ∧
        renderNested style indent forest = Line.joined indent (lines.map MarkedLine.line)) ∧
      (allInline forest = true → ∃ parts, lines = [⟨0, parts⟩]) := by
  have hlayout : ∃ lines, LinesShow style (forestMarks [] forest) lines ∧
      lines.map MarkedLine.line = layout style forest := by
    rw [layout]
    cases hinline : allInline forest with
    | true => exact (showsText_inlineForest style [] 0 forest hinline).hasMarks
    | false => exact hasMarks_forestLines style [] 0 forest
  obtain ⟨lines, hmarks, hlines⟩ := hlayout
  refine ⟨lines, hmarks, fun indent => ?_, fun hinline => ?_⟩
  · rw [renderNested_eq, render, hlines]
    exact ⟨rfl, rfl⟩
  · rw [layout, if_pos hinline, List.map_eq_singleton_iff] at hlines
    obtain ⟨⟨depth, parts⟩, rfl, hline⟩ := hlines
    obtain rfl : depth = 0 := congrArg Line.depth hline
    exact ⟨parts, rfl⟩

/-- A paragraph in the body of a page. Only the body is around it and counts. -/
example :
    (layout {} [.element "html" [] none false [.element "body" [] none false
      [.element "p" [] (some "hi") false []]]]).map Line.depth = [0, 0, 1, 0, 0] := by
  decide

end Markup

end Shorthand
