import Shorthand.Markup.Layout
import Shorthand.Proofs.Text.Pieces

/-!
# `Shorthand.Proofs.Markup.Slots`: one text at several places of the output

A text that stands in bare text nodes is written out as it is. To say this of all trees in
which it stands, the trees are taken as functions of the text: `Stencil` has the forests that
are fixed but for a number of text nodes, all with the text that is put in. Nothing of a
child is written below an element that closes itself, so text nodes there do not count.

`Stencil.slotted_render` says that the output is such a function as well: fixed pieces of text,
and between each two of them the text that is put in. The pieces do not depend on it, since the
layout asks of a text node only whether it is there.

The proof goes along the layout, once for a forest on one line
(`Stencil.slotted_inlineForest`) and once for a forest on several
(`Stencil.linesSlotted_forestLines`).
-/

set_option autoImplicit false

namespace Shorthand

/-! ### Fixed pieces with a text between them -/

namespace Text

/-- Where two joined texts meet, two pieces become one. -/
theorem join_append_join (separator last first : Text) (pieces more : List Text) :
    join separator (pieces ++ [last]) ++ join separator (first :: more)
      = join separator (pieces ++ (last ++ first) :: more) := by
  induction pieces with
  | nil =>
    cases more with
    | nil => rfl
    | cons next more =>
      show last ++ join separator (first :: next :: more)
        = join separator ((last ++ first) :: next :: more)
      rw [join_cons _ _ (List.cons_ne_nil _ _), join_cons _ _ (List.cons_ne_nil _ _)]
      simp only [List.append_assoc]
  | cons piece pieces ih =>
    have hleft : pieces ++ [last] ≠ [] := by simp
    have hright : pieces ++ (last ++ first) :: more ≠ [] := by simp
    rw [List.cons_append, List.cons_append, join_cons _ _ hleft, join_cons _ _ hright, ← ih,
      List.append_assoc]

/-- A text that is fixed but for `n` places, at each of which the text stands that is put in. -/
def Slotted (written : Text → Text) (n : Nat) : Prop :=
  ∃ pieces : List Text, pieces.length = n + 1 ∧ ∀ content, written content = join content pieces

theorem slotted_fixed (text : Text) : Slotted (fun _ => text) 0 :=
  ⟨[text], rfl, fun _ => rfl⟩

theorem slotted_self : Slotted (fun content => content) 1 :=
  ⟨[[], []], rfl, fun content => (List.append_nil content).symm⟩

theorem Slotted.append {written others : Text → Text} {m n : Nat} (h : Slotted written m)
    (hothers : Slotted others n) :
    Slotted (fun content => written content ++ others content) (m + n) := by
  obtain ⟨pieces, hlength, hwritten⟩ := h
  obtain ⟨more, hmore, hothers⟩ := hothers
  have hne : pieces ≠ [] := List.ne_nil_of_length_eq_add_one hlength
  obtain ⟨first, more, rfl⟩ := List.exists_cons_of_length_eq_add_one hmore
  refine ⟨pieces.dropLast ++ (pieces.getLast hne ++ first) :: more, ?_, fun content => ?_⟩
  · simp only [List.length_append, List.length_dropLast, List.length_cons] at hmore ⊢
    omega
  · show written content ++ others content = _
    rw [hwritten, hothers, ← join_append_join, List.dropLast_concat_getLast hne]

/-- Fixed text on both sides adds no place. -/
theorem Slotted.between {written : Text → Text} {n : Nat} (h : Slotted written n)
    (before after : Text) : Slotted (fun content => before ++ written content ++ after) n := by
  have hboth := ((slotted_fixed before).append h).append (slotted_fixed after)
  rwa [Nat.zero_add, Nat.add_zero] at hboth

end Text

namespace Markup

open Text (Slotted slotted_fixed slotted_self)

/-! ### Lines -/

/-- Lines that are fixed but for `n` places. -/
inductive LinesSlotted : (Text → List Line) → Nat → Prop where
  | nil : LinesSlotted (fun _ => []) 0
  | cons {written : Text → Text} {lines : Text → List Line} {m n : Nat} (depth : Nat)
      (hline : Slotted written m) (hlines : LinesSlotted lines n) :
      LinesSlotted (fun content => ⟨depth, written content⟩ :: lines content) (m + n)

theorem linesSlotted_single {written : Text → Text} {n : Nat} (depth : Nat)
    (h : Slotted written n) : LinesSlotted (fun content => [⟨depth, written content⟩]) n :=
  .cons depth h .nil

theorem linesSlotted_fixed (lines : List Line) : LinesSlotted (fun _ => lines) 0 := by
  induction lines with
  | nil => exact .nil
  | cons line lines ih => exact .cons line.depth (slotted_fixed line.content) ih

theorem LinesSlotted.append {lines others : Text → List Line} {m n : Nat}
    (h : LinesSlotted lines m) (hothers : LinesSlotted others n) :
    LinesSlotted (fun content => lines content ++ others content) (m + n) := by
  induction h with
  | nil =>
    rw [Nat.zero_add]
    exact hothers
  | cons depth hline _ ih =>
    rw [Nat.add_assoc]
    exact .cons depth hline ih

/-- Fixed lines on both sides add no place. -/
theorem LinesSlotted.between {lines : Text → List Line} {n : Nat} (h : LinesSlotted lines n)
    (before after : List Line) :
    LinesSlotted (fun content => before ++ lines content ++ after) n := by
  have hboth := ((linesSlotted_fixed before).append h).append (linesSlotted_fixed after)
  rwa [Nat.zero_add, Nat.add_zero] at hboth

/-- Indentation and line ends are fixed. -/
theorem LinesSlotted.joined {lines : Text → List Line} {n : Nat} (h : LinesSlotted lines n)
    (indent : Text) : Slotted (fun content => Line.joined indent (lines content)) n := by
  induction h with
  | nil => exact slotted_fixed []
  | cons depth hline hlines ih =>
    have hfirst := (slotted_fixed (Text.times depth indent)).append hline
    rw [Nat.zero_add] at hfirst
    cases hlines with
    | nil => exact hfirst
    | cons next hnext hrest =>
      have hbreak := hfirst.append (slotted_fixed ['\n'])
      rw [Nat.add_zero] at hbreak
      exact hbreak.append ih

/-! ### One element -/

section

variable {style : Style} {name : Text} {attributes : List Attribute} {text : Option Text}
  {selfClosing : Bool} {children : List Tree} (k depth : Nat)

theorem inlineNode_closed (h : closesItself name text selfClosing children = true) :
    inlineNode style k (.element name attributes text selfClosing children)
      = ((tagStart style k name attributes).1 ++ style.selfClosing.mark ++ ['>'],
        (tagStart style k name attributes).2) := by
  rw [inlineNode, if_pos h]

theorem inlineNode_bare (h : closesItself name text selfClosing children = false)
    (hbare : (isBare text && children.isEmpty) = true) :
    inlineNode style k (.element name attributes text selfClosing children)
      = ((tagStart style k name attributes).1
          ++ '>' :: tabStop ((tagStart style k name attributes).2 + 1) ++ closingTag name,
        (tagStart style k name attributes).2 + 1) := by
  rw [inlineNode, if_neg (ne_true_of_eq_false h), if_pos hbare]

theorem inlineNode_filled (h : closesItself name text selfClosing children = false)
    (hbare : (isBare text && children.isEmpty) = false) :
    inlineNode style k (.element name attributes text selfClosing children)
      = ((tagStart style k name attributes).1 ++ '>' :: text.getD []
          ++ (inlineForest style (tagStart style k name attributes).2 children).1
          ++ closingTag name,
        (inlineForest style (tagStart style k name attributes).2 children).2) := by
  rw [inlineNode, if_neg (ne_true_of_eq_false h), if_neg (ne_true_of_eq_false hbare)]

/-- A block has a closing tag. -/
theorem closesItself_of_isBlock (h : isBlock name text selfClosing children = true) :
    closesItself name text selfClosing children = false := by
  rw [isBlock, Bool.and_eq_true, Bool.not_eq_true'] at h
  exact h.1

theorem nodeLines_line (h : isBlock name text selfClosing children = false) :
    nodeLines style depth k (.element name attributes text selfClosing children)
      = ([⟨depth, (inlineNode style k (.element name attributes text selfClosing children)).1⟩],
        (inlineNode style k (.element name attributes text selfClosing children)).2) := by
  rw [nodeLines, if_neg (ne_true_of_eq_false h)]

end

/-- The depth of what is inside a block. -/
def innerDepth (name : Text) (depth : Nat) : Nat :=
  if skipsIndent name then depth else depth + 1

/-- The lines of a block before its children. -/
def blockStart (style : Style) (depth k : Nat) (name : Text) (attributes : List Attribute)
    (text : Option Text) : List Line :=
  ⟨depth, (tagStart style k name attributes).1 ++ ['>']⟩
    :: if isBare text then [] else [⟨innerDepth name depth, text.getD []⟩]

/-- The lines of a block behind its children, after a tab stop when there is nothing else. -/
def blockEnd (depth k : Nat) (name : Text) (bare : Bool) : List Line × Nat :=
  if bare then ([⟨innerDepth name depth, tabStop (k + 1)⟩, ⟨depth, closingTag name⟩], k + 1)
  else ([⟨depth, closingTag name⟩], k)

theorem nodeLines_block {style : Style} {name : Text} {attributes : List Attribute}
    {text : Option Text} {selfClosing bare : Bool} {children : List Tree} {lines : List Line}
    {depth k stops : Nat} (h : isBlock name text selfClosing children = true)
    (hbare : (isBare text && children.isEmpty) = bare)
    (hlines : forestLines style (innerDepth name depth) (tagStart style k name attributes).2
      children = (lines, stops)) :
    nodeLines style depth k (.element name attributes text selfClosing children)
      = (blockStart style depth k name attributes text ++ lines
          ++ (blockEnd depth stops name bare).1, (blockEnd depth stops name bare).2) := by
  unfold innerDepth at hlines
  rw [nodeLines, if_pos h]
  simp only [hlines, hbare, blockStart, blockEnd, innerDepth]
  cases bare <;> simp

/-! ### Trees -/

/-- Forests that are fixed but for `n` text nodes with the text that is put in. Those that are
not written out are not counted. -/
inductive Stencil : (Text → List Tree) → Nat → Prop where
  | fixed (trees : List Tree) : Stencil (fun _ => trees) 0
  | leaf : Stencil (fun content => [.text content]) 1
  | append {forest others : Text → List Tree} {m n : Nat} (h : Stencil forest m)
      (hothers : Stencil others n) :
      Stencil (fun content => forest content ++ others content) (m + n)
  | element {forest : Text → List Tree} {n : Nat} (name : Text) (attributes : List Attribute)
      (text : Option Text) (selfClosing : Bool) (h : Stencil forest n) :
      Stencil (fun content => [.element name attributes text selfClosing (forest content)])
        (if selfClosing then 0 else n)

theorem allInline_append (trees more : List Tree) :
    allInline (trees ++ more) = (allInline trees && allInline more) := by
  induction trees with
  | nil => rw [List.nil_append, allInline, Bool.true_and]
  | cons tree rest ih => rw [List.cons_append, allInline, allInline, ih, Bool.and_assoc]

theorem inlineForest_append (style : Style) (k : Nat) (trees more : List Tree) :
    inlineForest style k (trees ++ more)
      = ((inlineForest style k trees).1
          ++ (inlineForest style (inlineForest style k trees).2 more).1,
        (inlineForest style (inlineForest style k trees).2 more).2) := by
  induction trees generalizing k with
  | nil => simp [inlineForest]
  | cons tree rest ih => simp [inlineForest, ih]

theorem inlineForest_singleton (style : Style) (k : Nat) (tree : Tree) :
    inlineForest style k [tree] = inlineNode style k tree := by
  simp [inlineForest]

theorem forestLines_append (style : Style) (depth k : Nat) (trees more : List Tree) :
    forestLines style depth k (trees ++ more)
      = ((forestLines style depth k trees).1
          ++ (forestLines style depth (forestLines style depth k trees).2 more).1,
        (forestLines style depth (forestLines style depth k trees).2 more).2) := by
  induction trees generalizing k with
  | nil => simp [forestLines]
  | cons tree rest ih => simp [forestLines, ih]

theorem forestLines_singleton (style : Style) (depth k : Nat) (tree : Tree) :
    forestLines style depth k [tree] = nodeLines style depth k tree := by
  simp [forestLines]

namespace Stencil

variable {forest : Text → List Tree} {n : Nat}

/-- Whether there are trees at all does not depend on the text, and without trees there is no
place for it. -/
theorem isEmpty_eq (h : Stencil forest n) :
    ∃ empty, (∀ content, (forest content).isEmpty = empty) ∧ (empty = true → n = 0) := by
  induction h with
  | fixed trees => exact ⟨trees.isEmpty, fun _ => rfl, fun _ => rfl⟩
  | leaf => exact ⟨false, fun _ => rfl, fun h => by cases h⟩
  | append _ _ ih ihothers =>
    obtain ⟨empty, hempty, hzero⟩ := ih
    obtain ⟨others, hothers, hzero'⟩ := ihothers
    refine ⟨empty && others, fun content => ?_, fun hboth => ?_⟩
    · rw [← hempty content, ← hothers content, Bool.eq_iff_iff]
      simp
    · rw [Bool.and_eq_true] at hboth
      rw [hzero hboth.1, hzero' hboth.2]
  | element => exact ⟨false, fun _ => rfl, fun h => by cases h⟩

/-- Whether the trees stay on one line does not depend on the text. -/
theorem allInline_eq (h : Stencil forest n) :
    ∃ inline, ∀ content, allInline (forest content) = inline := by
  induction h with
  | fixed trees => exact ⟨allInline trees, fun _ => rfl⟩
  | leaf => exact ⟨true, fun _ => rfl⟩
  | append _ _ ih ihothers =>
    obtain ⟨inline, hinline⟩ := ih
    obtain ⟨others, hothers⟩ := ihothers
    exact ⟨inline && others, fun content => by rw [allInline_append, hinline, hothers]⟩
  | element name attributes text selfClosing _ ih =>
    obtain ⟨inline, hinline⟩ := ih
    refine ⟨isInlineName name && inline && true, fun content => ?_⟩
    rw [allInline, isInline, hinline, allInline]

/-- Whether an element above the trees is one tag does not depend on the text. If it is, the
text has no place below it. -/
theorem closesItself_eq (h : Stencil forest n) (name : Text) (text : Option Text)
    (selfClosing : Bool) :
    ∃ closes, (∀ content, closesItself name text selfClosing (forest content) = closes) ∧
      (closes = true → (if selfClosing then 0 else n) = 0) ∧
      (closes = false → selfClosing = false) := by
  obtain ⟨empty, hempty, hzero⟩ := h.isEmpty_eq
  refine ⟨selfClosing || (isVoid name && text.isNone && empty),
    fun content => by rw [closesItself, hempty], fun hcloses => ?_, fun hopen => ?_⟩
  · cases selfClosing with
    | true => rfl
    | false =>
      rw [Bool.false_or, Bool.and_eq_true] at hcloses
      exact hzero hcloses.2
  · exact (Bool.or_eq_false_iff.1 hopen).1

/-- On one line the text stands at its places, and no tab stop depends on it. -/
theorem slotted_inlineForest (h : Stencil forest n) (style : Style) (k : Nat) :
    ∃ written stops, Slotted written n ∧
      ∀ content, inlineForest style k (forest content) = (written content, stops) := by
  induction h generalizing k with
  | fixed trees => exact ⟨_, _, slotted_fixed _, fun _ => rfl⟩
  | leaf =>
    refine ⟨_, k, slotted_self, fun content => ?_⟩
    rw [inlineForest_singleton, inlineNode]
  | append _ _ ih ihothers =>
    obtain ⟨written, stops, hwritten, heq⟩ := ih k
    obtain ⟨others, stops', hothers, heq'⟩ := ihothers stops
    -- The tab stops of the first part do not depend on the text, so the second part starts
    -- from the same number for each.
    refine ⟨_, stops', hwritten.append hothers, fun content => ?_⟩
    simp only [inlineForest_append, heq, heq']
  | element name attributes text selfClosing hbelow ih =>
    obtain ⟨written, stops, hwritten, heq⟩ := ih (tagStart style k name attributes).2
    obtain ⟨empty, hempty, hzero⟩ := hbelow.isEmpty_eq
    obtain ⟨closes, hcloses, hclosed, hopen⟩ := hbelow.closesItself_eq name text selfClosing
    simp only [inlineForest_singleton]
    cases closes with
    | true =>
      rw [hclosed rfl]
      exact ⟨_, _, slotted_fixed _, fun content => inlineNode_closed k (hcloses content)⟩
    | false =>
      rw [hopen rfl]
      cases hbare : isBare text && empty with
      | true =>
        -- A tab stop stands where nothing else does.
        rw [hzero (Bool.and_eq_true_iff.1 hbare).2]
        refine ⟨_, _, slotted_fixed _, fun content => inlineNode_bare k ?_ ?_⟩
        · exact (hopen rfl ▸ hcloses content)
        · rw [hempty, hbare]
      | false =>
        refine ⟨_, stops, hwritten.between
          ((tagStart style k name attributes).1 ++ '>' :: text.getD []) (closingTag name),
          fun content => ?_⟩
        rw [inlineNode_filled k (hopen rfl ▸ hcloses content) (by rw [hempty, hbare]), heq]

/-- On several lines as well. -/
theorem linesSlotted_forestLines (h : Stencil forest n) (style : Style) (depth k : Nat) :
    ∃ lines stops, LinesSlotted lines n ∧
      ∀ content, forestLines style depth k (forest content) = (lines content, stops) := by
  induction h generalizing depth k with
  | fixed trees => exact ⟨_, _, linesSlotted_fixed _, fun _ => rfl⟩
  | leaf =>
    refine ⟨_, k, linesSlotted_single depth slotted_self, fun content => ?_⟩
    rw [forestLines_singleton, nodeLines]
  | append _ _ ih ihothers =>
    obtain ⟨lines, stops, hlines, heq⟩ := ih depth k
    obtain ⟨others, stops', hothers, heq'⟩ := ihothers depth stops
    refine ⟨_, stops', hlines.append hothers, fun content => ?_⟩
    simp only [forestLines_append, heq, heq']
  | @element below m name attributes text selfClosing hbelow ih =>
    obtain ⟨empty, hempty, -⟩ := hbelow.isEmpty_eq
    obtain ⟨inline, hinline⟩ := hbelow.allInline_eq
    obtain ⟨closes, hcloses, -, hopen⟩ := hbelow.closesItself_eq name text selfClosing
    have hblock (content : Text) : isBlock name text selfClosing (below content)
        = (!closes && (forcesBlock name || !inline)) := by
      rw [isBlock, hcloses content, hinline]
    simp only [forestLines_singleton]
    cases hform : !closes && (forcesBlock name || !inline) with
    | false =>
      -- The element is one line, and its place in the output is known from that line.
      obtain ⟨written, stops, hwritten, heq⟩ :=
        (element name attributes text selfClosing hbelow).slotted_inlineForest style k
      refine ⟨_, stops, linesSlotted_single depth hwritten, fun content => ?_⟩
      rw [nodeLines_line k depth ((hblock content).trans hform), ← inlineForest_singleton, heq]
    | true =>
      have hclosed : closes = false := by simpa using (Bool.and_eq_true_iff.1 hform).1
      obtain ⟨lines, stops, hlines, heq⟩ :=
        ih (innerDepth name depth) (tagStart style k name attributes).2
      rw [hopen hclosed]
      refine ⟨_, (blockEnd depth stops name (isBare text && empty)).2,
        hlines.between (blockStart style depth k name attributes text)
          (blockEnd depth stops name (isBare text && empty)).1, fun content => ?_⟩
      rw [← hopen hclosed]
      exact nodeLines_block ((hblock content).trans hform) (by rw [hempty]) (heq content)

/-- The text of the output has the text that is put in at its places, and all else is fixed. -/
theorem slotted_render (h : Stencil forest n) (style : Style) (indent : Text) :
    Slotted (fun content => render style indent (forest content)) n := by
  have hlayout : LinesSlotted (fun content => layout style (forest content)) n := by
    obtain ⟨inline, hinline⟩ := h.allInline_eq
    obtain ⟨written, stops, hwritten, hline⟩ := h.slotted_inlineForest style 0
    obtain ⟨lines, stops', hlines, hblock⟩ := h.linesSlotted_forestLines style 0 0
    simp only [layout, hinline, hline, hblock]
    cases inline with
    | true => exact linesSlotted_single 0 hwritten
    | false => exact hlines
  exact hlayout.joined indent

end Stencil

end Markup

end Shorthand
