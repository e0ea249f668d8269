import Mathlib.Data.Nat.Digits.Defs
import Shorthand.Markup.Layout
import Shorthand.Proofs.Tag.Reading

/-!
# `Shorthand.Proofs.Markup.RenderedTags`: rendered markup has the tags of its trees

The renderer writes trees as text and the scanner finds tags in a text. They share the
table of void elements and nothing else. `scan_render` says that the scanner finds in the
text of a forest the tags that the forest has, in the same order.

`Tree.tags` says which those are, without a look at the text: one tag for an element that
is void or closes itself, and otherwise an opening tag, the tags of the children, and a
closing tag. Names and texts have to be such that they do not look like markup themselves,
which `Tree.IsPlain` collects. Values of attributes are free of double quotes and otherwise
arbitrary, brackets included.

The proof goes along the layout. What is written between tags holds no opening bracket,
whether it is text, a tab stop or indentation, so each part of the output reads as the tags
of its node (`Tag.Reads`), on one line (`reads_inlineNode`) or on several
(`linesRead_nodeLines`).
-/

set_option autoImplicit false

namespace Shorthand

namespace Tree

mutual

/-- The tags of a node in the order of the output. -/
def tags : Tree → List Tag.Label
  | .text _ => []
  | .element name _ _ selfClosing children =>
    if Markup.isVoid name || selfClosing then [(.selfClosing, name)]
    else (.opening, name) :: forestTags children ++ [(.closing, name)]

/-- The tags of a forest. -/
def forestTags : List Tree → List Tag.Label
  | [] => []
  | tree :: rest => tags tree ++ forestTags rest

end

/-- An element whose parts are not mistaken for markup, in a style of tags without
content. -/
structure PlainElement (mark : Markup.SelfClosing) (name : Text) (attributes : List Attribute)
    (text : Option Text) (selfClosing : Bool) (children : List Tree) : Prop where
  isName : Tag.IsName name
  not_rawText : Markup.isRawText name = false
  attributeNames : ∀ a ∈ attributes, ∀ c ∈ a.name, c ∉ ['<', '>', '"', '\'']
  attributeValues : ∀ a ∈ attributes, ∀ value ∈ a.value, '"' ∉ value
  text_plain : ∀ t ∈ text, '<' ∉ t
  void_empty : Markup.isVoid name = true → text = none ∧ children = []
  selfClosing_empty : selfClosing = true → text = none ∧ children = []
  /-- Without a mark, a tag that closes itself is known by its name only. -/
  selfClosing_void : selfClosing = true → mark = .html → Markup.isVoid name = true

mutual

/-- A node whose parts are not mistaken for markup. -/
def IsPlain (mark : Markup.SelfClosing) : Tree → Prop
  | .text content => '<' ∉ content
  | .element name attributes content selfClosing children =>
    PlainElement mark name attributes content selfClosing children ∧ IsPlainForest mark children

/-- A forest whose parts are not mistaken for markup. -/
def IsPlainForest (mark : Markup.SelfClosing) : List Tree → Prop
  | [] => True
  | tree :: rest => IsPlain mark tree ∧ IsPlainForest mark rest

end

end Tree

namespace Markup

open Tag (Reads Passes reads_plain reads_opening reads_closing)
open Shorthand.Tree (PlainElement)

/-! ### Inside a tag -/

/-- A tab stop is no markup, in a tag or outside. -/
theorem notMem_tabStop {c : Char} (h : c ∈ ['<', '"']) (n : Nat) : c ∉ tabStop n := by
  intro hc
  simp only [tabStop, List.mem_append] at hc
  have hdigit (hmem : c ∈ Text.ofNat n) : c.isDigit = true :=
    Nat.isDigit_of_mem_toDigits (by decide) (by decide) hmem
  obtain rfl | rfl : c = '<' ∨ c = '"' := by simpa using h
  all_goals
    obtain (hc | hc) | hc := hc
    · exact absurd hc (by decide)
    · exact absurd (hdigit hc) (by decide)
    · exact absurd hc (by decide)

/-- An attribute is a name and a quoted value, of its own or for a tab stop. -/
theorem renderAttribute_eq {style : Style} (hjsx : style.jsx = false) (n : Nat) {a : Attribute}
    (hvalue : ∀ value ∈ a.value, '"' ∉ value) :
    ∃ value, '"' ∉ value ∧
      (renderAttribute style n a).1 = ' ' :: a.name ++ ['='] ++ ('"' :: value ++ ['"']) := by
  have hname : attributeName style a.name = a.name := by simp [attributeName, hjsx]
  have hown : '"' ∉ a.value.getD [] := by
    cases hv : a.value with
    | none => simp
    | some value => exact hvalue value hv
  by_cases hempty : a.value.getD [] = []
  · refine ⟨tabStop (n + 1), notMem_tabStop (by decide) _, ?_⟩
    simp [renderAttribute, hjsx, hname, hempty]
  · refine ⟨a.value.getD [], hown, ?_⟩
    simp [renderAttribute, hjsx, hname, hempty]

/-- What the attributes of a tag look like to the scanner. -/
structure Attributed (s : Text) : Prop where
  passes : Passes s
  head : ∀ c ∈ s.head?, c = ' '
  last : ∀ c ∈ s.getLast?, c = '"'

theorem attributed_renderAttributes {style : Style} (hjsx : style.jsx = false) (n : Nat)
    {attributes : List Attribute}
    (hnames : ∀ a ∈ attributes, ∀ c ∈ a.name, c ∉ ['<', '>', '"', '\''])
    (hvalues : ∀ a ∈ attributes, ∀ value ∈ a.value, '"' ∉ value) :
    Attributed (renderAttributes style n attributes).1 := by
  induction attributes generalizing n with
  | nil => exact ⟨Tag.passes_nil, by simp [renderAttributes], by simp [renderAttributes]⟩
  | cons a rest ih =>
    obtain ⟨value, hvalue, hfirst⟩ :=
      renderAttribute_eq hjsx n (hvalues a List.mem_cons_self)
    have hothers := ih (renderAttribute style n a).2
      (fun b hb => hnames b (List.mem_cons_of_mem _ hb))
      (fun b hb => hvalues b (List.mem_cons_of_mem _ hb))
    have hname : Passes (' ' :: a.name ++ ['=']) := by
      refine Tag.passes_of_forall fun c hc => ?_
      simp only [List.mem_append, List.mem_cons, List.not_mem_nil, or_false] at hc
      obtain (rfl | hc) | rfl := hc
      · decide
      · exact hnames a List.mem_cons_self c hc
      · decide
    simp only [renderAttributes]
    rw [hfirst]
    refine ⟨(hname.append (Tag.passes_quoted (.inl rfl) hvalue)).append hothers.passes, ?_, ?_⟩
    · rintro c ⟨⟩
      rfl
    · -- The last character is that of the last attribute.
      intro c hc
      rw [List.getLast?_append] at hc
      cases hlast : (renderAttributes style (renderAttribute style n a).2 rest).1.getLast? with
      | some x =>
        rw [hlast] at hc
        cases hc
        exact hothers.last _ hlast
      | none =>
        rw [hlast, Option.none_or, ← List.append_assoc, List.getLast?_concat] at hc
        cases hc
        rfl

/-! ### Tags -/

section

variable {style : Style} {name : Text} {attributes : List Attribute} {text : Option Text}
  {selfClosing : Bool} {children : List Tree}

theorem closesItself_eq
    (h : PlainElement style.selfClosing name attributes text selfClosing children) :
    closesItself name text selfClosing children = (isVoid name || selfClosing) := by
  unfold closesItself
  cases hvoid : isVoid name with
  | false => simp
  | true =>
    obtain ⟨rfl, rfl⟩ := h.void_empty hvoid
    simp

/-- The opening tag of an element with a closing tag. -/
theorem reads_tagStart (hjsx : style.jsx = false) (n : Nat)
    (h : PlainElement style.selfClosing name attributes text selfClosing children)
    (hvoid : isVoid name = false) :
    Reads ((tagStart style n name attributes).1 ++ ['>']) [(.opening, name)] := by
  have hinside := attributed_renderAttributes hjsx n h.attributeNames h.attributeValues
  have hstops : ∀ c ∈ (renderAttributes style n attributes).1.head?, Tag.isNameChar c = false := by
    intro c hc
    rw [hinside.head c hc]
    decide
  -- The bracket stands behind a character of the name or behind a quote.
  have hlast : ('<' :: name ++ (renderAttributes style n attributes).1).getLast? ≠ some '/' := by
    intro hslash
    rw [List.getLast?_append] at hslash
    cases hq : (renderAttributes style n attributes).1.getLast? with
    | some c =>
      rw [hq, hinside.last c hq, Option.some_or] at hslash
      exact absurd hslash (by decide)
    | none =>
      rw [hq, Option.none_or] at hslash
      have hmem := List.mem_of_getLast? hslash
      rw [List.mem_cons] at hmem
      obtain heq | hmem := hmem
      · exact absurd heq (by decide)
      · exact absurd (h.isName.chars _ hmem) (by decide)
  have hreads := reads_opening h.isName h.not_rawText hstops hinside.passes
  rw [Tag.openingKind_append, if_neg (not_or.2 ⟨hlast, ne_true_of_eq_false hvoid⟩)] at hreads
  exact hreads

/-- The one tag of an element without a closing tag. -/
theorem reads_selfClosing (hjsx : style.jsx = false) (n : Nat)
    (h : PlainElement style.selfClosing name attributes text selfClosing children)
    (hcloses : (isVoid name || selfClosing) = true) :
    Reads ((tagStart style n name attributes).1 ++ style.selfClosing.mark ++ ['>'])
      [(.selfClosing, name)] := by
  have hattributes := attributed_renderAttributes hjsx n h.attributeNames h.attributeValues
  have hmark : ∀ c ∈ style.selfClosing.mark, c ∉ ['<', '>', '"', '\''] := by
    cases style.selfClosing <;> simp [SelfClosing.mark]
  have hinside := hattributes.passes.append (Tag.passes_of_forall hmark)
  have hstops : ∀ c ∈ ((renderAttributes style n attributes).1 ++ style.selfClosing.mark).head?,
      Tag.isNameChar c = false := by
    intro c hc
    rw [List.head?_append] at hc
    cases hhead : (renderAttributes style n attributes).1.head? with
    | some x =>
      rw [hhead] at hc
      cases hc
      rw [hattributes.head _ hhead]
      decide
    | none =>
      rw [hhead, Option.none_or] at hc
      cases hstyle : style.selfClosing <;> rw [hstyle] at hc <;> cases hc <;> rfl
  -- The scanner knows the tag by the slash of the mark. Where there is none, by its name.
  have hknown : ('<' :: name ++ ((renderAttributes style n attributes).1
      ++ style.selfClosing.mark)).getLast? = some '/' ∨ isVoid name = true := by
    cases hstyle : style.selfClosing with
    | html =>
      right
      cases hvoid : isVoid name with
      | true => rfl
      | false =>
        rw [hvoid, Bool.false_or] at hcloses
        rw [← hvoid]
        exact h.selfClosing_void hcloses hstyle
    | xhtml =>
      left
      rw [← List.append_assoc, List.getLast?_append]
      rfl
    | xml =>
      left
      rw [← List.append_assoc, List.getLast?_append]
      rfl
  have hreads := reads_opening h.isName h.not_rawText hstops hinside
  rw [Tag.openingKind_append, if_pos hknown] at hreads
  simpa [tagStart] using hreads

theorem notMem_text (h : PlainElement style.selfClosing name attributes text selfClosing children) :
    '<' ∉ text.getD [] := by
  cases htext : text with
  | none => simp
  | some t => exact h.text_plain t htext

end

/-! ### One line -/

mutual

theorem reads_inlineNode {style : Style} (hjsx : style.jsx = false) (n : Nat) :
    (tree : Tree) → tree.IsPlain style.selfClosing → Reads (inlineNode style n tree).1 tree.tags
  | .text content, h => by
    rw [Tree.IsPlain] at h
    exact reads_plain h
  | .element name attributes text selfClosing children, ⟨h, hbelow⟩ => by
    rw [inlineNode, Tree.tags, closesItself_eq h]
    cases hcloses : isVoid name || selfClosing with
    | true => exact reads_selfClosing hjsx n h hcloses
    | false =>
      rw [Bool.or_eq_false_iff] at hcloses
      have hopening := reads_tagStart hjsx n h hcloses.1
      have hclosing := reads_closing h.isName
      simp only [Bool.false_eq_true, if_false]
      split
      · rename_i hbare
        have hstop := reads_plain (notMem_tabStop (c := '<') (by decide)
          ((tagStart style n name attributes).2 + 1))
        have hnone : children = [] := by simpa using (Bool.and_eq_true_iff.1 hbare).2
        subst hnone
        simpa [Tree.forestTags, closingTag] using (hopening.append hstop).append hclosing
      · have htext := reads_plain (notMem_text h)
        have hchildren :=
          reads_inlineForest hjsx (tagStart style n name attributes).2 children hbelow
        simpa [closingTag] using ((hopening.append htext).append hchildren).append hclosing

theorem reads_inlineForest {style : Style} (hjsx : style.jsx = false) (n : Nat) :
    (forest : List Tree) → Tree.IsPlainForest style.selfClosing forest →
      Reads (inlineForest style n forest).1 (Tree.forestTags forest)
  | [], _ => Tag.reads_nil
  | tree :: rest, ⟨h, hrest⟩ => by
    rw [inlineForest, Tree.forestTags]
    exact (reads_inlineNode hjsx n tree h).append (reads_inlineForest hjsx _ rest hrest)

end

/-! ### Several lines -/

/-- Lines in which the scanner finds the given tags. No tag goes over the end of a line. -/
inductive LinesRead : List Line → List Tag.Label → Prop where
  | nil : LinesRead [] []
  | cons {line : Line} {lines : List Line} {found more : List Tag.Label}
      (hline : Reads line.content found) (hlines : LinesRead lines more) :
      LinesRead (line :: lines) (found ++ more)

theorem LinesRead.append {lines others : List Line} {found more : List Tag.Label}
    (h : LinesRead lines found) (hothers : LinesRead others more) :
    LinesRead (lines ++ others) (found ++ more) := by
  induction h with
  | nil => exact hothers
  | cons hline hlines ih =>
    rw [List.append_assoc]
    exact .cons hline ih

theorem linesRead_single (depth : Nat) {content : Text} {found : List Tag.Label}
    (h : Reads content found) : LinesRead [⟨depth, content⟩] found := by
  have hlines : LinesRead [⟨depth, content⟩] (found ++ []) := .cons h .nil
  rwa [List.append_nil] at hlines

/-- Line ends and indentation hold no tags. -/
theorem LinesRead.reads_joined {indent : Text} (hindent : '<' ∉ indent) {lines : List Line}
    {found : List Tag.Label} (h : LinesRead lines found) :
    Reads (Line.joined indent lines) found := by
  have hpad (n : Nat) : '<' ∉ Text.times n indent := by
    simp only [Text.times, List.mem_flatten, List.mem_replicate]
    rintro ⟨_, ⟨_, rfl⟩, hmem⟩
    exact hindent hmem
  induction h with
  | nil => exact Tag.reads_nil
  | @cons line lines found more hline hlines ih =>
    have hfirst := (reads_plain (hpad line.depth)).append hline
    cases hlines with
    | nil => simpa [Line.joined, Text.join] using hfirst
    | cons hnext hlines =>
      have hbreak : Reads ['\n'] [] := reads_plain (by decide)
      have hjoined := (hfirst.append hbreak).append ih
      simpa [Line.joined, Text.join] using hjoined

mutual

theorem linesRead_nodeLines {style : Style} (hjsx : style.jsx = false) (depth n : Nat) :
    (tree : Tree) → tree.IsPlain style.selfClosing →
      LinesRead (nodeLines style depth n tree).1 tree.tags
  | .text content, h => linesRead_single depth (reads_inlineNode hjsx n (.text content) h)
  | .element name attributes text selfClosing children, ⟨h, hbelow⟩ => by
    rw [nodeLines]
    split
    · rename_i hblock
      -- A block has a closing tag, so it is neither void nor self-closing.
      have hcloses : (isVoid name || selfClosing) = false := by
        rw [← closesItself_eq h]
        simpa using (Bool.and_eq_true_iff.1 hblock).1
      have hopening := linesRead_single depth
        (reads_tagStart hjsx n h (Bool.or_eq_false_iff.1 hcloses).1)
      have hclosing := linesRead_single depth (reads_closing h.isName)
      have htext (inner : Nat) :
          LinesRead (if isBare text then [] else [⟨inner, text.getD []⟩]) [] := by
        split
        · exact .nil
        · exact linesRead_single inner (reads_plain (notMem_text h))
      have hstop (inner m : Nat) :
          LinesRead (if isBare text && children.isEmpty then
            ([⟨inner, tabStop (m + 1)⟩], m + 1) else (([] : List Line), m)).1 [] := by
        split
        · exact linesRead_single inner (reads_plain (notMem_tabStop (by decide) _))
        · exact .nil
      have hchildren (inner : Nat) :=
        linesRead_forestLines hjsx inner (tagStart style n name attributes).2 children hbelow
      have hlines (inner m : Nat) :=
        (((hopening.append (htext inner)).append (hchildren inner)).append
          (hstop inner m)).append hclosing
      rw [Tree.tags, hcloses, if_neg Bool.false_ne_true]
      simpa [closingTag] using hlines (if skipsIndent name then depth else depth + 1) _
    · exact linesRead_single depth
        (reads_inlineNode hjsx n (.element name attributes text selfClosing children) ⟨h, hbelow⟩)

theorem linesRead_forestLines {style : Style} (hjsx : style.jsx = false) (depth n : Nat) :
    (forest : List Tree) → Tree.IsPlainForest style.selfClosing forest →
      LinesRead (forestLines style depth n forest).1 (Tree.forestTags forest)
  | [], _ => .nil
  | tree :: rest, ⟨h, hrest⟩ => by
    rw [forestLines, Tree.forestTags]
    exact (linesRead_nodeLines hjsx depth n tree h).append
      (linesRead_forestLines hjsx depth _ rest hrest)

end

/-- The scanner finds in a rendered forest the tags of the forest, in order and no others:
for every style of tags without content, every forest whose names and texts do not look
like markup, and every indentation without an opening bracket. Component markup is left
out, since its values in braces are not quoted. -/
theorem scan_render {style : Style} (hjsx : style.jsx = false) {indent : Text}
    (hindent : '<' ∉ indent) {forest : List Tree}
    (h : Tree.IsPlainForest style.selfClosing forest) :
    (Tag.scan (render style indent forest)).map Tag.label = Tree.forestTags forest := by
  have hlines : LinesRead (layout style forest) (Tree.forestTags forest) := by
    unfold layout
    split
    · exact linesRead_single 0 (reads_inlineForest hjsx 0 forest h)
    · exact linesRead_forestLines hjsx 0 0 forest h
  rw [Tag.map_label_scan]
  exact (hlines.reads_joined hindent).labels

/-- A block with a value that holds brackets, a void element, and text that holds one. -/
def quotedBrackets : List Tree :=
  [.element "div" [⟨"title", some "<b> > 'c'"⟩] none false
    [.element "br" [] none true [],
      .element "p" [⟨"id", none⟩] (some "x > y") false [.text "z"]],
    .text "end"]

theorem isPlainForest_quotedBrackets : Tree.IsPlainForest .html quotedBrackets := by
  have hdiv : Tag.IsName "div" := ⟨⟨'d', by decide, by decide⟩, List.all_eq_true.1 rfl⟩
  have hbr : Tag.IsName "br" := ⟨⟨'b', by decide, by decide⟩, List.all_eq_true.1 rfl⟩
  have hp : Tag.IsName "p" := ⟨⟨'p', by decide, by decide⟩, List.all_eq_true.1 rfl⟩
  refine ⟨⟨⟨hdiv, ?_, ?_, ?_, ?_, ?_, ?_, ?_⟩, ⟨⟨hbr, ?_, ?_, ?_, ?_, ?_, ?_, ?_⟩, trivial⟩,
    ⟨⟨hp, ?_, ?_, ?_, ?_, ?_, ?_, ?_⟩, ?htext, trivial⟩, trivial⟩, ?hend, trivial⟩
  case htext => exact (by decide : '<' ∉ "z".toList)
  case hend => exact (by decide : '<' ∉ "end".toList)
  all_goals simp <;> decide

theorem scan_render_quotedBrackets :
    (Tag.scan (render {} ['\t'] quotedBrackets)).map Tag.label
      = ([(.opening, "div"), (.selfClosing, "br"), (.opening, "p"), (.closing, "p"),
        (.closing, "div")] : List Tag.Label) := by
  rw [scan_render rfl (by decide) isPlainForest_quotedBrackets]
  decide

end Markup

end Shorthand
