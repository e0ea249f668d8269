import Shorthand.Proofs.Abbreviation.PrintedElement
import Shorthand.Proofs.Markup.Slots
import Shorthand.Proofs.Markup.WholeSnippet

/-!
# `Shorthand.Proofs.Markup.EscapedText`: what becomes of escaped text

A text in braces passes two readers that know the backslash. The first takes the braces off,
and with them the backslash before every escaped character. The second numbers the copies of a
node, where a dollar sign is a counter and a dollar sign behind a backslash is itself. So a
backslash before a dollar sign is gone when the second one looks for it.

`expand_escaped` says what is written for a text whose backslashes, braces and dollar signs are
all escaped: the text after numbering, and so the text itself if and only if it has no counter
tokens. `expand_escaped_dollar` shows the two ways in which a dollar sign is lost.
-/

set_option autoImplicit false

namespace Shorthand

namespace Counter

/-- Numbering leaves something of a text that is not empty. -/
theorem number_ne_nil (counter : Counter) {s : Text} (h : s ≠ []) : counter.number s ≠ [] := by
  fun_cases number counter s with
  | case1 => exact absurd rfl h
  | case2 => exact List.cons_ne_nil _ _
  | case3 => exact List.cons_ne_nil _ _
  | case4 => exact List.append_ne_nil_of_left_ne_nil (padded_ne_nil _ _) _
  | case5 => exact List.cons_ne_nil _ _

end Counter

namespace Markup

/-- A text with a backslash before every backslash, brace and dollar sign. -/
def escape (t : Text) : Text :=
  t.flatMap fun c => if c = '\\' ∨ c = '{' ∨ c = '}' ∨ c = '$' then ['\\', c] else [c]

/-- A paragraph with an escaped text. -/
def paragraphOf (t : Text) : Text :=
  'p' :: '{' :: escape t ++ ['}']

/-- A paragraph as it is read. -/
def textParagraph (t : Text) : Element :=
  { name := some "p", text := some t }

/-! ### Reading -/

theorem trimmed_paragraphOf (t : Text) : Text.Trimmed (paragraphOf t) :=
  Text.trimmed_of_ends rfl (by decide) List.getLast?_concat (by decide)

open Abbreviation in
/-- The backslashes are taken away with the braces. -/
theorem parse_paragraphOf (t : Text) :
    parse (paragraphOf t) = .ok [.element (textParagraph t) []] := by
  -- Behind the name there is one part, the text, and nothing behind that.
  have htext : readText 0 (escape t ++ ['}']) = some (t, []) :=
    @readText_escaped (fun c => c = '\\' ∨ c = '{' ∨ c = '}' ∨ c = '$') _ (.inl rfl)
      (.inr (.inl rfl)) (.inr (.inr (.inl rfl))) t []
  have hread : readElement (paragraphOf t) = .ok (textParagraph t, []) :=
    calc readElement (paragraphOf t)
      _ = readParts { name := some "p" } ('{' :: (escape t ++ ['}'])) :=
        readElement_named (List.cons_ne_nil _ _) rfl
      _ = readParts (textParagraph t) [] := readParts_text _ htext
      _ = .ok (textParagraph t, []) := readParts_followsItem _ followsItem_nil
  rw [parse_trimmed (trimmed_paragraphOf t),
    readItem_element (by decide) (by simp [paragraphOf]) hread, readOperator_nil]
  rfl

/-! ### Resolving and writing an element that stands alone -/

theorem resolve_of_lookup_none {scope : Scope} {depth : Nat} {skip : Option Text} {head : Element}
    {name : Text} (hname : head.name = some name) (hlookup : scope.lookup name = none) :
    resolve scope (depth + 1) skip [.element head []] = .ok [.element head []] := by
  simp only [resolve, rebuildForest, rebuild, resolveElement, hname, hlookup, ite_self]

theorem unroll_unrepeated {parent : Option Text} {counter : Counter} {head : Element}
    (hcount : head.count = none) (htext : head.isTextOnly = false) (budget : Nat) :
    unroll parent counter [.element head []] (budget + 1)
      = some ([.element (elementName parent counter head)
          (head.attributes.map (numberAttribute counter)) (head.text.map counter.number)
          head.selfClosing []], budget) := by
  rw [unroll_singleton, unrollNode_element, hcount]
  simp only [Counter.copies, forCopies, elementCopy, htext, Bool.false_and, unroll_nil,
    List.append_nil, Bool.false_eq_true, if_false]

/-- An element with a text and nothing below it is one line. -/
theorem render_filled {style : Style} {indent name text : Text}
    (hname : isInlineName name = false) (hblock : forcesBlock name = false) (htext : text ≠ []) :
    render style indent [.element name [] (some text) false []]
      = '<' :: name ++ '>' :: text ++ closingTag name := by
  have hinline : allInline [.element name [] (some text) false []] = false := by
    simp [allInline, isInline, hname]
  have hclosed : closesItself name (some text) false [] = false := by simp [closesItself]
  have hline : isBlock name (some text) false [] = false := by simp [isBlock, hblock, allInline]
  have hbare : (isBare (some text) && ([] : List Tree).isEmpty) = false := by
    simpa [isBare] using htext
  rw [render, layout, if_neg (ne_true_of_eq_false hinline), forestLines_singleton,
    nodeLines_line _ _ hline, inlineNode_filled _ hclosed hbare]
  simp [Line.joined, Text.join, Text.times, tagStart, renderAttributes, inlineForest]

/-! ### Escaped text -/

/-- No snippet has a name with this first letter. -/
theorem lookup_of_head?_eq {name : Text} (h : name.head? = some 'p') :
    (Scope.ofOptions "html" {} {}).lookup name = none := by
  -- The registry is empty, so only the built-in names are left to look at.
  have hfirst : ∀ entry ∈ Snippet.builtin, entry.1.toList.head? ≠ some 'p' := by decide
  have hbuiltin : Snippet.builtin? name = none := by
    rw [Snippet.builtin?, Option.map_eq_none_iff, List.find?_eq_none]
    intro entry hmem heq
    rw [← beq_iff_eq.1 heq] at h
    exact hfirst entry hmem h
  show Option.map _ (Snippet.builtin? name) = none
  rw [hbuiltin, Option.map_none]

/-- The element has one copy, in which the text is numbered. -/
theorem writeForest_textParagraph {t : Text} (ht : t ≠ []) :
    writeForest "html" {} {} [.element (textParagraph t) []]
      = .ok ("<p>".toList ++ Counter.number {} t ++ "</p>".toList) := by
  have hname : elementName none {} (textParagraph t) = "p" :=
    Counter.number_of_notMem _ (by decide)
  have hunroll : unroll none {} [.element (textParagraph t) []] maxNodes
      = some ([.element "p" [] (some (Counter.number {} t)) false []], maxNodes - 1) := by
    rw [← hname]
    exact unroll_unrepeated rfl rfl (maxNodes - 1)
  have hrender (style : Style) (indent : Text) :
      render style indent [.element "p" [] (some (Counter.number {} t)) false []]
        = "<p>".toList ++ Counter.number {} t ++ "</p>".toList :=
    render_filled (by decide) (by decide) (Counter.number_ne_nil {} ht)
  rw [writeForest, hunroll]
  simp only [hrender]

/-- A text whose backslashes, braces and dollar signs are escaped is written numbered, and so it
comes out as it is if and only if it has no counter tokens: each dollar sign stands before an
opening brace, and none behind a backslash. -/
theorem expand_escaped {t : Text} (ht : t ≠ []) :
    expand (paragraphOf t) "html" {} {}
      = .ok ("<p>".toList ++ Counter.number {} t ++ "</p>".toList) ∧
    (expand (paragraphOf t) "html" {} {} = .ok ("<p>".toList ++ t ++ "</p>".toList)
      ↔ Counter.hasNoToken t = true) := by
  -- Neither the abbreviation as a whole nor its element is looked up with success.
  have hlookup : (Scope.ofOptions "html" {} {}).lookup (Text.trim (paragraphOf t)) = none := by
    rw [Text.trim_eq_self (trimmed_paragraphOf t)]
    exact lookup_of_head?_eq rfl
  have hresolve : resolve (Scope.ofOptions "html" {} {}) maxSnippetDepth none
      [.element (textParagraph t) []] = .ok [.element (textParagraph t) []] :=
    resolve_of_lookup_none rfl (lookup_of_head?_eq rfl)
  have hexpand : expand (paragraphOf t) "html" {} {}
      = .ok ("<p>".toList ++ Counter.number {} t ++ "</p>".toList) := by
    rw [expand_read (by decide) hlookup (parse_paragraphOf t), hresolve]
    exact writeForest_textParagraph ht
  refine ⟨hexpand, ?_⟩
  rw [hexpand, ← Counter.number_eq_self_iff {}, Except.ok.injEq, List.append_left_inj,
    List.append_right_inj]

/-- Braces, a backslash and a tab stop. -/
def literalText : Text := "a\\\x7bb\x7d$\x7b1\x7d"

theorem expand_escaped_literalText :
    literalText ≠ [] ∧
    expand (paragraphOf literalText) "html" {} {}
      = .ok ("<p>".toList ++ literalText ++ "</p>".toList) :=
  ⟨by decide, (expand_escaped (by decide)).2.2 (by decide)⟩

/-- A dollar sign alone becomes a number. Behind a backslash it stays, without the backslash. -/
theorem expand_escaped_dollar :
    paragraphOf "$" = "p\x7b\\$\x7d".toList ∧
    expand (paragraphOf "$") "html" {} {} = .ok "<p>1</p>" ∧
    paragraphOf "\\$" = "p\x7b\\\\\\$\x7d".toList ∧
    expand (paragraphOf "\\$") "html" {} {} = .ok "<p>$</p>" := by
  decide +kernel

end Markup

end Shorthand
