import Shorthand.Proofs.Markup.Slots
import Shorthand.Proofs.TabStop.Drafts

/-!
# `Shorthand.Proofs.Markup.TabStops`: the tab stops of rendered markup

The layout hands the number of the last tab stop on from one part of the output to the next,
through attributes, lines and nested elements. `render_tabStops` says that this comes out as one
count: the tab stops of the output are 1, 2, 3 and so on from left to right, and a preview of
the output is the output without them.

How many there are is said of the trees alone. `Tree.forestWritten` lists the nodes that are
written, which are all but those below an element that closes itself, and `Tree.stopsOf` counts
what they lack: an attribute its value, an element its content.

The proof goes along the layout with one relation for a part of the output (`Numbers`). A part
that starts behind tab stop `k` has the tab stops from `k + 1` on, and hands on the number of
its last one.
-/

set_option autoImplicit false

namespace Shorthand

namespace Tree

open Markup (closesItself isBare)

mutual

/-- All texts of a node: names, values and contents. -/
def texts : Tree → List Text
  | .text content => [content]
  | .element name attributes content _ children =>
    name :: attributes.flatMap (fun a => a.name :: a.value.toList) ++ content.toList
      ++ forestTexts children

/-- All texts of a forest. -/
def forestTexts : List Tree → List Text
  | [] => []
  | tree :: rest => texts tree ++ forestTexts rest

end

mutual

/-- The nodes of a tree that are written, each before what is below it. -/
def written : Tree → List Tree
  | .text content => [.text content]
  | .element name attributes content selfClosing children =>
    .element name attributes content selfClosing children
      :: if closesItself name content selfClosing children then [] else forestWritten children

/-- The nodes of a forest that are written. -/
def forestWritten : List Tree → List Tree
  | [] => []
  | tree :: rest => written tree ++ forestWritten rest

end

/-- How many attributes of a node have no value or an empty one. -/
def bareAttributes : Tree → Nat
  | .text _ => 0
  | .element _ attributes _ _ _ => attributes.countP fun a => isBare a.value

/-- An element that has a closing tag and nothing to stand before it. -/
def isHollow : Tree → Bool
  | .text _ => false
  | .element name _ content selfClosing children =>
    !closesItself name content selfClosing children && (isBare content && children.isEmpty)

/-- How many tab stops nodes have. -/
def stopsOf (nodes : List Tree) : Nat :=
  (nodes.map bareAttributes).sum + nodes.countP isHollow

theorem stopsOf_append (nodes more : List Tree) :
    stopsOf (nodes ++ more) = stopsOf nodes + stopsOf more := by
  simp only [stopsOf, List.map_append, List.sum_append, List.countP_append]
  omega

theorem stopsOf_cons (node : Tree) (nodes : List Tree) :
    stopsOf (node :: nodes)
      = bareAttributes node + (if node.isHollow then 1 else 0) + stopsOf nodes := by
  simp only [stopsOf, List.map_cons, List.sum_cons, List.countP_cons]
  omega

end Tree

namespace Markup

open Shorthand.Tree (texts forestTexts written forestWritten stopsOf stopsOf_append stopsOf_cons
  bareAttributes isHollow)

/-! ### Parts of the output -/

/-- A text with the tab stops from `k + 1` to `k + m` in order, and no dollar sign else. -/
def Numbered (k m : Nat) (text : Text) : Prop :=
  ∃ draft : Draft, draft.stops = m ∧ draft.IsPlain ∧ text = draft.number k

theorem numbered_plain {text : Text} (k : Nat) (h : '$' ∉ text) : Numbered k 0 text := by
  refine ⟨[some text], rfl, fun t hmem => ?_, (List.append_nil text).symm⟩
  obtain rfl := Option.some.inj (List.mem_singleton.1 hmem)
  exact h

theorem numbered_tabStop (k : Nat) : Numbered k 1 (tabStop (k + 1)) := by
  refine ⟨[none], rfl, fun t hmem => ?_, (List.append_nil _).symm⟩
  cases List.mem_singleton.1 hmem

theorem Numbered.append {k m n : Nat} {text more : Text} (h : Numbered k m text)
    (hmore : Numbered (k + m) n more) : Numbered k (m + n) (text ++ more) := by
  obtain ⟨draft, rfl, hplain, rfl⟩ := h
  obtain ⟨draft', rfl, hplain', rfl⟩ := hmore
  exact ⟨draft ++ draft', Draft.stops_append _ _, hplain.append hplain',
    (Draft.number_append _ _ _).symm⟩

/-- Text on both sides has no tab stops. -/
theorem Numbered.between {k m : Nat} {text : Text} (h : Numbered k m text) (before after : Text)
    (hbefore : '$' ∉ before) (hafter : '$' ∉ after) :
    Numbered k m (before ++ text ++ after) := by
  have hleft := (numbered_plain k hbefore).append h
  rw [Nat.zero_add] at hleft
  exact hleft.append (numbered_plain _ hafter)

/-- A part of the output behind tab stop `k`, with `m` tab stops of its own, and the number of
the last one. -/
structure Numbers (k m : Nat) (part : Text × Nat) : Prop where
  numbered : Numbered k m part.1
  last : part.2 = k + m

theorem Numbers.append {k m n : Nat} {part more : Text × Nat} (h : Numbers k m part)
    (hmore : Numbers part.2 n more) : Numbers k (m + n) (part.1 ++ more.1, more.2) where
  numbered := h.numbered.append (h.last ▸ hmore.numbered)
  last := by rw [hmore.last, h.last, Nat.add_assoc]

theorem Numbers.between {k m : Nat} {part : Text × Nat} (h : Numbers k m part)
    (before after : Text) (hbefore : '$' ∉ before) (hafter : '$' ∉ after) :
    Numbers k m (before ++ part.1 ++ after, part.2) :=
  ⟨h.numbered.between before after hbefore hafter, h.last⟩

/-- Lines with tab stops from `k + 1` on. -/
inductive LinesNumbered : Nat → Nat → List Line → Prop where
  | nil (k : Nat) : LinesNumbered k 0 []
  | cons {k m n : Nat} {line : Line} {lines : List Line} (hline : Numbered k m line.content)
      (hlines : LinesNumbered (k + m) n lines) : LinesNumbered k (m + n) (line :: lines)

theorem linesNumbered_single {k m : Nat} {line : Line} (h : Numbered k m line.content) :
    LinesNumbered k m [line] :=
  .cons h (.nil _)

theorem LinesNumbered.append {k m n : Nat} {lines more : List Line}
    (h : LinesNumbered k m lines) (hmore : LinesNumbered (k + m) n more) :
    LinesNumbered k (m + n) (lines ++ more) := by
  induction h with
  | nil k =>
    rw [Nat.zero_add]
    exact hmore
  | cons hline _ ih =>
    rw [Nat.add_assoc]
    exact .cons hline (ih (by rwa [Nat.add_assoc]))

/-- Indentation and line ends have no tab stops. -/
theorem LinesNumbered.joined {k m : Nat} {lines : List Line} {indent : Text}
    (hindent : '$' ∉ indent) (h : LinesNumbered k m lines) :
    Numbered k m (Line.joined indent lines) := by
  have hpad (depth : Nat) : '$' ∉ Text.times depth indent := by
    intro hmem
    obtain ⟨unit, hunit, hmem⟩ := List.mem_flatten.1 hmem
    exact hindent (List.eq_of_mem_replicate hunit ▸ hmem)
  induction h with
  | nil k => exact numbered_plain k List.not_mem_nil
  | @cons k m n line lines hline hlines ih =>
    -- A line end follows only if there is another line, so the next constructor is needed too.
    have hfirst := (numbered_plain k (hpad line.depth)).append (Nat.add_zero k ▸ hline)
    rw [Nat.zero_add] at hfirst
    cases hlines with
    | nil => exact hfirst
    | cons hnext hrest =>
      have hline : '$' ∉ ['\n'] := by decide
      have hbreak := hfirst.append (numbered_plain (k + m) hline)
      rw [Nat.add_zero] at hbreak
      exact hbreak.append ih

/-- Lines behind tab stop `k`, with `m` tab stops of their own, and the number of the last one. -/
structure LinesNumbers (k m : Nat) (part : List Line × Nat) : Prop where
  numbered : LinesNumbered k m part.1
  last : part.2 = k + m

theorem LinesNumbers.append {k m n : Nat} {part more : List Line × Nat}
    (h : LinesNumbers k m part) (hmore : LinesNumbers part.2 n more) :
    LinesNumbers k (m + n) (part.1 ++ more.1, more.2) where
  numbered := h.numbered.append (h.last ▸ hmore.numbered)
  last := by rw [hmore.last, h.last, Nat.add_assoc]

/-! ### Tags -/

/-- The texts of an element have no dollar sign. -/
structure PlainParts (name : Text) (attributes : List Attribute) (content : Option Text)
    (children : List Tree) : Prop where
  name : '$' ∉ name
  attributeName : ∀ a ∈ attributes, '$' ∉ a.name
  attributeValue : ∀ a ∈ attributes, ∀ value ∈ a.value, '$' ∉ value
  content : '$' ∉ content.getD []
  children : ∀ t ∈ forestTexts children, '$' ∉ t

theorem plainParts_of_texts {name : Text} {attributes : List Attribute} {content : Option Text}
    {selfClosing : Bool} {children : List Tree}
    (h : ∀ t ∈ texts (.element name attributes content selfClosing children), '$' ∉ t) :
    PlainParts name attributes content children := by
  simp only [texts, List.mem_append, List.mem_cons, List.mem_flatMap, Option.mem_toList] at h
  refine ⟨h name (by simp), fun a ha => h a.name ?_, fun a ha value hv => h value ?_, ?_,
    fun t ht => h t (.inr ht)⟩
  · exact .inl (.inl (.inr ⟨a, ha, .inl rfl⟩))
  · exact .inl (.inl (.inr ⟨a, ha, .inr hv⟩))
  · cases content with
    | none => exact List.not_mem_nil
    | some content => exact h content (.inl (.inr rfl))

/-- An attribute has a tab stop when it has no value or an empty one. -/
theorem numbers_renderAttribute (style : Style) (k : Nat) {a : Attribute}
    (hname : '$' ∉ a.name) (hvalue : ∀ value ∈ a.value, '$' ∉ value) :
    Numbers k (if isBare a.value then 1 else 0) (renderAttribute style k a) := by
  have hwritten : '$' ∉ attributeName style a.name := by
    unfold attributeName
    split_ifs
    · decide
    · decide
    · exact hname
  cases hbare : isBare a.value with
  | true =>
    have hempty : a.value.getD [] = [] := beq_iff_eq.1 hbare
    have hexpr : (style.jsx && isExpression []) = false := Bool.and_false _
    simp only [renderAttribute, hempty, hexpr, Bool.false_eq_true, if_false, if_true]
    have hstop : Numbers k 1 (tabStop (k + 1), k + 1) := ⟨numbered_tabStop k, rfl⟩
    have hstart : '$' ∉ ' ' :: attributeName style a.name ++ ['='] ++ ['"'] := by
      simp [hwritten]
    simpa using hstop.between _ ['"'] hstart (by decide)
  | false =>
    have hempty : a.value.getD [] ≠ [] := beq_eq_false_iff_ne.1 hbare
    have hown : '$' ∉ a.value.getD [] := by
      cases hv : a.value with
      | none => exact List.not_mem_nil
      | some value => exact hvalue value hv
    simp only [renderAttribute, hempty, Bool.false_eq_true, if_false]
    split_ifs
    · exact ⟨numbered_plain k (by simp [hwritten, hown]), rfl⟩
    · exact ⟨numbered_plain k (by simp [hwritten, hown]), rfl⟩

theorem numbers_renderAttributes (style : Style) (k : Nat) {attributes : List Attribute}
    (hnames : ∀ a ∈ attributes, '$' ∉ a.name)
    (hvalues : ∀ a ∈ attributes, ∀ value ∈ a.value, '$' ∉ value) :
    Numbers k (attributes.countP fun a => isBare a.value)
      (renderAttributes style k attributes) := by
  induction attributes generalizing k with
  | nil => exact ⟨numbered_plain k List.not_mem_nil, rfl⟩
  | cons a rest ih =>
    have hfirst := numbers_renderAttribute style k (hnames a List.mem_cons_self)
      (hvalues a List.mem_cons_self)
    have hothers := ih (renderAttribute style k a).2
      (fun b hb => hnames b (List.mem_cons_of_mem _ hb))
      (fun b hb => hvalues b (List.mem_cons_of_mem _ hb))
    rw [List.countP_cons, Nat.add_comm]
    exact hfirst.append hothers

theorem numbers_tagStart (style : Style) (k : Nat) {name : Text} {attributes : List Attribute}
    {content : Option Text} {children : List Tree}
    (h : PlainParts name attributes content children) :
    Numbers k (attributes.countP fun a => isBare a.value) (tagStart style k name attributes) := by
  have hattributes := numbers_renderAttributes style k h.attributeName h.attributeValue
  have hname : '$' ∉ '<' :: name := by simp [h.name]
  have hboth := hattributes.between _ [] hname List.not_mem_nil
  rwa [List.append_nil] at hboth

theorem notMem_mark (style : Style) : '$' ∉ style.selfClosing.mark := by
  cases style.selfClosing <;> decide

theorem notMem_closingTag {name : Text} (h : '$' ∉ name) : '$' ∉ closingTag name := by
  simp [closingTag, h]

/-! ### Elements -/

section

variable {name : Text} {attributes : List Attribute} {content : Option Text}
  {selfClosing : Bool} {children : List Tree}

/-- An element that closes itself has the tab stops of its attributes. -/
theorem stopsOf_written_closed (h : closesItself name content selfClosing children = true) :
    stopsOf (written (.element name attributes content selfClosing children))
      = attributes.countP fun a => isBare a.value := by
  rw [written, stopsOf_cons, if_pos h]
  simp [bareAttributes, isHollow, h, stopsOf]

/-- Any other has one more when it is empty, and else those of its children. -/
theorem stopsOf_written_open (h : closesItself name content selfClosing children = false) :
    stopsOf (written (.element name attributes content selfClosing children))
      = (attributes.countP fun a => isBare a.value)
        + (if isBare content && children.isEmpty then 1 else 0)
        + stopsOf (forestWritten children) := by
  rw [written, stopsOf_cons, if_neg (ne_true_of_eq_false h)]
  simp [bareAttributes, isHollow, h]

end

theorem stopsOf_forestWritten_of_isEmpty {children : List Tree} (h : children.isEmpty = true) :
    stopsOf (forestWritten children) = 0 := by
  rw [List.isEmpty_iff.1 h, forestWritten]
  rfl

mutual

/-- On one line the tab stops of a node are in order. -/
theorem numbers_inlineNode (style : Style) (k : Nat) : (tree : Tree) →
    (∀ t ∈ texts tree, '$' ∉ t) → Numbers k (stopsOf (written tree)) (inlineNode style k tree)
  | .text content, h => by
    rw [inlineNode]
    exact ⟨numbered_plain k (h content (by simp [texts])), rfl⟩
  | .element name attributes content selfClosing children, h => by
    have hparts := plainParts_of_texts h
    -- The attributes have their tab stops first, and what is below starts behind them.
    have hstart := numbers_tagStart style k hparts
    have hbelow := numbers_inlineForest style (tagStart style k name attributes).2 children
      hparts.children
    have hclosing := notMem_closingTag hparts.name
    cases hclosed : closesItself name content selfClosing children with
    | true =>
      rw [inlineNode_closed k hclosed, stopsOf_written_closed hclosed]
      simpa using hstart.between [] (style.selfClosing.mark ++ ['>']) List.not_mem_nil
        (by simp [notMem_mark])
    | false =>
      rw [stopsOf_written_open hclosed]
      cases hbare : isBare content && children.isEmpty with
      | true =>
        rw [inlineNode_bare k hclosed hbare,
          stopsOf_forestWritten_of_isEmpty (Bool.and_eq_true_iff.1 hbare).2]
        have hstop : Numbers (tagStart style k name attributes).2 1
            (tabStop ((tagStart style k name attributes).2 + 1),
              (tagStart style k name attributes).2 + 1) := ⟨numbered_tabStop _, rfl⟩
        simpa using hstart.append (hstop.between ['>'] _ (by decide) hclosing)
      | false =>
        rw [inlineNode_filled k hclosed hbare]
        have hopen : '$' ∉ '>' :: content.getD [] := by simp [hparts.content]
        simpa using hstart.append (hbelow.between _ _ hopen hclosing)

/-- So are those of nodes on one line. -/
theorem numbers_inlineForest (style : Style) (k : Nat) : (forest : List Tree) →
    (∀ t ∈ forestTexts forest, '$' ∉ t) →
    Numbers k (stopsOf (forestWritten forest)) (inlineForest style k forest)
  | [], _ => by
    rw [inlineForest]
    exact ⟨numbered_plain k List.not_mem_nil, rfl⟩
  | tree :: rest, h => by
    simp only [forestTexts, List.mem_append] at h
    rw [inlineForest, forestWritten, stopsOf_append]
    exact (numbers_inlineNode style k tree fun t ht => h t (.inl ht)).append
      (numbers_inlineForest style _ rest fun t ht => h t (.inr ht))

end

/-- The first lines of a block have the tab stops of its attributes. -/
theorem numbers_blockStart (style : Style) (depth k : Nat) {name : Text}
    {attributes : List Attribute} {content : Option Text} {children : List Tree}
    (h : PlainParts name attributes content children) :
    LinesNumbers k (attributes.countP fun a => isBare a.value)
      (blockStart style depth k name attributes content, (tagStart style k name attributes).2) where
  last := (numbers_tagStart style k h).last
  numbered := by
    have hopening := ((numbers_tagStart style k h).between [] ['>'] List.not_mem_nil
      (by decide)).numbered
    have htext : LinesNumbered (k + attributes.countP fun a => isBare a.value) 0
        (if isBare content then [] else [⟨innerDepth name depth, content.getD []⟩]) := by
      split
      · exact .nil _
      · exact linesNumbered_single (numbered_plain _ h.content)
    exact .cons hopening htext

/-- The last ones have a tab stop when there is nothing else in the block. -/
theorem numbers_blockEnd (depth k : Nat) {name : Text} (hname : '$' ∉ name) (bare : Bool) :
    LinesNumbers k (if bare then 1 else 0) (blockEnd depth k name bare) := by
  have hclosing (n : Nat) : LinesNumbered n 0 [⟨depth, closingTag name⟩] :=
    linesNumbered_single (numbered_plain n (notMem_closingTag hname))
  cases bare with
  | false => exact ⟨hclosing k, rfl⟩
  | true =>
    have hstop : LinesNumbered k 1 [⟨innerDepth name depth, tabStop (k + 1)⟩] :=
      linesNumbered_single (numbered_tabStop k)
    exact ⟨hstop.append (hclosing (k + 1)), rfl⟩

mutual

/-- On several lines they are as well. -/
theorem numbers_nodeLines (style : Style) (depth k : Nat) : (tree : Tree) →
    (∀ t ∈ texts tree, '$' ∉ t) →
    LinesNumbers k (stopsOf (written tree)) (nodeLines style depth k tree)
  | .text content, h => by
    rw [nodeLines]
    exact ⟨linesNumbered_single (numbered_plain k (h content (by simp [texts]))), rfl⟩
  | .element name attributes content selfClosing children, h => by
    cases hblock : isBlock name content selfClosing children with
    | false =>
      have hline := numbers_inlineNode style k (.element name attributes content selfClosing
        children) h
      rw [nodeLines_line k depth hblock]
      exact ⟨linesNumbered_single hline.numbered, hline.last⟩
    | true =>
      have hparts := plainParts_of_texts h
      have hstart := numbers_tagStart style k hparts
      have hbelow := numbers_forestLines style (innerDepth name depth)
        (tagStart style k name attributes).2 children hparts.children
      rw [nodeLines_block hblock rfl rfl, stopsOf_written_open (closesItself_of_isBlock hblock),
        Nat.add_right_comm]
      exact ((numbers_blockStart style depth k hparts).append hbelow).append
        (numbers_blockEnd depth _ hparts.name (isBare content && children.isEmpty))

theorem numbers_forestLines (style : Style) (depth k : Nat) : (forest : List Tree) →
    (∀ t ∈ forestTexts forest, '$' ∉ t) →
    LinesNumbers k (stopsOf (forestWritten forest)) (forestLines style depth k forest)
  | [], _ => by
    rw [forestLines]
    exact ⟨.nil k, rfl⟩
  | tree :: rest, h => by
    simp only [forestTexts, List.mem_append] at h
    rw [forestLines, forestWritten, stopsOf_append]
    exact (numbers_nodeLines style depth k tree fun t ht => h t (.inl ht)).append
      (numbers_forestLines style depth _ rest fun t ht => h t (.inr ht))

end

/-! ### Forests -/

/-- The tab stops of the output are 1, 2, 3 and so on, from left to right, and there are as many
as the written nodes lack values and contents. A preview of the output is the output without
them, and all else in it is unchanged. -/
theorem render_tabStops (style : Style) {forest : List Tree} {indent : Text}
    (hforest : ∀ t ∈ forestTexts forest, '$' ∉ t) (hindent : '$' ∉ indent) :
    stopNumbers (render style indent forest)
      = (List.range (stopsOf (forestWritten forest))).map (fun i => Text.ofNat (i + 1)) ∧
    ∃ draft : Draft, draft.stops = stopsOf (forestWritten forest) ∧ draft.IsPlain ∧
      render style indent forest = draft.number 0 ∧
      preview (render style indent forest) = draft.fixed := by
  -- On one line or on several, the layout starts at the first tab stop.
  have hlayout : LinesNumbered 0 (stopsOf (forestWritten forest)) (layout style forest) := by
    rw [layout]
    split
    · exact linesNumbered_single (numbers_inlineForest style 0 forest hforest).numbered
    · exact (numbers_forestLines style 0 0 forest hforest).numbered
  obtain ⟨draft, hstops, hplain, hrender⟩ := hlayout.joined hindent
  change render style indent forest = draft.number 0 at hrender
  refine ⟨?_, draft, hstops, hplain, hrender, ?_⟩
  · rw [hrender, stopNumbers_number hplain, hstops]
    simp only [Nat.zero_add]
  · rw [hrender, preview_number hplain]

/-- A form with a void element, an empty one, and one that closes itself above another. -/
def entryForm : List Tree := [
  .element "form" [⟨"action", none⟩] none false [
    .element "input" [⟨"name", some []⟩] none false [],
    .element "p" [] none false [],
    .text "end"],
  .element "img" [⟨"src", none⟩] none true [.element "p" [⟨"id", none⟩] none false []]]

theorem render_tabStops_entryForm :
    (∀ t ∈ forestTexts entryForm, '$' ∉ t) ∧ '$' ∉ "\t".toList ∧
    stopNumbers (render {} "\t" entryForm) = ["1", "2", "3", "4"].map String.toList ∧
    preview (render {} "\t" entryForm)
      = "<form action=\"\">\n\t<input name=\"\">\n\t<p></p>\n\tend\n</form>\n<img src=\"\">" := by
  have hforest : ∀ t ∈ forestTexts entryForm, '$' ∉ t := by decide +kernel
  have hindent : '$' ∉ "\t".toList := by decide
  obtain ⟨hnumbers, -⟩ := render_tabStops {} hforest hindent
  refine ⟨hforest, hindent, ?_, ?_⟩
  · rw [hnumbers]
    decide +kernel
  · decide +kernel

end Markup

end Shorthand
