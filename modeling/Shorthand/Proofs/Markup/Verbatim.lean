import Shorthand.Proofs.Markup.Spots

/-!
# `Shorthand.Proofs.Markup.Verbatim`: raw snippets are written out as they are

A custom snippet that starts with a tag is raw text. As a whole abbreviation it is the output. As
an element of an abbreviation it becomes a text node, which is then unrolled, numbered and laid
out like the texts that are written by hand. `raw_verbatim` says that it comes out unchanged on
both ways.

What an element contributes to an output is said without a trace of where its characters come
from (`Contributes`). Any other text can stand in place of the element, and the output changes
with it: fixed pieces, and the text between each two of them.

Three things keep a raw snippet out of the output or change it, and `raw_not_verbatim` has an
abbreviation for each. An element that closes itself is written without what is below it. An
element that names raw text itself is replaced with all that is below it. And counter tokens in
a raw text are numbered where it is an element, though not where it is the whole abbreviation.
-/

set_option autoImplicit false

namespace Shorthand

namespace Markup

/-- What a text at a place of a forest contributes to an output.

Resolved, the place is still one, whatever it holds. The output is made of pieces that do not
depend on what it holds, one more than the place has copies, and between each two of them stands
the text. Any other text without counter tokens would stand there in its stead. -/
structure Contributes (grammar : Text) (registry : Registry) (options : ExpandOptions)
    (spot resolved : Spot) (text output : Text) : Prop where
  stays : ∀ content,
    resolve (Scope.ofOptions grammar registry options) maxSnippetDepth none
      (spot.fill (Node.bare content)) = .ok (resolved.fill (Node.bare content))
  copies : (∀ e ∈ spot.site.heads, ¬ (Scope.ofOptions grammar registry options).Names e) →
    resolved.site.copies = spot.site.copies
  written : ∃ pieces : List Text, pieces.length = resolved.site.copies + 1 ∧
    output = Text.join text pieces ∧
    ∀ content, Counter.hasNoToken content = true →
      writeForest grammar registry options (resolved.fill (Node.bare content))
        = .ok (Text.join content pieces)

section

variable {grammar : Text} {registry : Registry} {options : ExpandOptions}

theorem lookup_raw {name custom text : Text}
    (hcustom : registry.snippet? grammar name = some custom)
    (htext : Snippet.substitute (Snippet.bindings registry options) custom = text)
    (htag : (Text.trimStart text).head? = some '<') :
    (Scope.ofOptions grammar registry options).lookup name = some (.raw text) := by
  simp only [Scope.lookup, Scope.ofOptions, hcustom, htext, htag, if_true]

/-- In parentheses, a raw text is a text node in a group. -/
theorem resolve_parenthesized_raw {scope : Scope} {depth : Nat} {name text : Text}
    (hlookup : scope.lookup name = some (.raw text)) :
    resolve scope (depth + 1) none [.group [.element { name := some name } []] none]
      = .ok [.group [Node.bare text] none] := by
  simp only [resolve, rebuildForest, rebuild, resolveElement, hlookup, reduceCtorEq, if_false]
  rfl

/-- The element that names a raw text contributes that text, for each copy of its place. -/
theorem contributes_raw {abbreviation name text output : Text} {spot : Spot} {head : Element}
    {children : List Node} (hgrammar : Text.oneOf unsupported grammar = false)
    (hlookup : (Scope.ofOptions grammar registry options).lookup name = some (.raw text))
    (htext : Counter.hasNoToken text = true)
    (hwhole : (Scope.ofOptions grammar registry options).lookup (Text.trim abbreviation) = none)
    (hparse : Abbreviation.parse abbreviation = .ok (spot.fill (.element head children)))
    (hname : head.name = some name) (hcount : head.count = none)
    (hraw : ∀ e ∈ spot.site.heads, ¬ (Scope.ofOptions grammar registry options).NamesRaw e)
    (h : expand abbreviation grammar registry options = .ok output) :
    ∃ resolved, Contributes grammar registry options spot resolved text output := by
  rw [expand_read hgrammar hwhole hparse] at h
  cases hresolve : resolve (Scope.ofOptions grammar registry options) maxSnippetDepth none
      (spot.fill (.element head children)) with
  | error e =>
    rw [hresolve] at h
    cases h
  | ok forest =>
    obtain ⟨resolved, hstays, ⟨replaced, hreplaced⟩, hcopies⟩ := resolve_fill hraw hresolve
    obtain rfl := replaced_eq_bare hname hcount (Option.some_ne_none name) hlookup hreplaced
    -- What is written is what would be written for the bare text in place of the element.
    have hbare : resolve (Scope.ofOptions grammar registry options) maxSnippetDepth none
        (spot.fill (.element head children)) = .ok (resolved.fill (Node.bare text)) :=
      hstays _ _ hreplaced
    rw [hbare] at h
    obtain ⟨pieces, hlength, hpieces⟩ := writeForest_fill htext h
    refine ⟨resolved, fun content => hstays _ _ (replaces_bare content), hcopies,
      pieces, hlength, ?_, hpieces⟩
    exact Except.ok.inj (h.symm.trans (hpieces text htext))

/-- A custom snippet whose text starts with a tag is written out as it is.

As the whole abbreviation its name expands to the text, also between blanks. If the text has
no counter tokens, the name expands to the text in parentheses as well, and so it does in every
abbreviation that is read: an element of that name, without a repeat of its own, contributes
the text and nothing else. No element around it names raw text, and below one that closes
itself it has no copies. -/
theorem raw_verbatim {grammar name custom text : Text} {registry : Registry}
    {options : ExpandOptions} (hgrammar : Text.oneOf unsupported grammar = false)
    (hname : name ≠ []) (hchars : ∀ c ∈ name, Abbreviation.isNameChar c = true)
    (hcustom : registry.snippet? grammar name = some custom)
    (htext : Snippet.substitute (Snippet.bindings registry options) custom = text)
    (htag : (Text.trimStart text).head? = some '<') :
    expand name grammar registry options = .ok text ∧
    (∀ abbreviation, Text.trim abbreviation = name →
      expand abbreviation grammar registry options = .ok text) ∧
    (Counter.hasNoToken text = true →
      ((Scope.ofOptions grammar registry options).lookup ('(' :: name ++ [')']) = none →
        expand ('(' :: name ++ [')']) grammar registry options = .ok text) ∧
      ∀ (abbreviation output : Text) (spot : Spot) (head : Element) (children : List Node),
        expand abbreviation grammar registry options = .ok output →
        (Scope.ofOptions grammar registry options).lookup (Text.trim abbreviation) = none →
        Abbreviation.parse abbreviation = .ok (spot.fill (.element head children)) →
        head.name = some name → head.count = none →
        (∀ e ∈ spot.site.heads, ¬ (Scope.ofOptions grammar registry options).NamesRaw e) →
        ∃ resolved, Contributes grammar registry options spot resolved text output) := by
  have hlookup := lookup_raw hcustom htext htag
  have htrim : Text.trim name = name :=
    Text.trim_eq_self (Abbreviation.trimmed_of_names hname hchars)
  have hwhole (abbreviation : Text) (h : Text.trim abbreviation = name) :
      expand abbreviation grammar registry options = .ok text :=
    expand_raw (by rwa [h]) hgrammar (by rwa [h])
  refine ⟨hwhole name htrim, hwhole, fun hplain => ⟨?_, ?_⟩⟩
  · intro hgroup
    have htrimGroup : Text.trim ('(' :: name ++ [')']) = '(' :: name ++ [')'] :=
      Text.trim_eq_self (Abbreviation.trimmed_parenthesized name)
    rw [expand_read hgrammar (by rwa [htrimGroup]) (Abbreviation.parse_parenthesized hname hchars),
      maxSnippetDepth, resolve_parenthesized_raw hlookup]
    exact writeForest_group hplain
  · intro abbreviation output spot head children h hwhole hparse hhead hcount hraw
    exact contributes_raw hgrammar hlookup hplain hwhole hparse hhead hcount hraw h

end

/-! ### Raw text in three places -/

/-- A registry with one custom snippet. -/
def rawRegistry (text : Text) : Registry :=
  { snippets := [("html", [("raw", text)])] }

/-- The paragraphs around a raw text. -/
def twoParagraphs : Spot :=
  ⟨[], .under { name := some "p", count := some 2 } [] .here [], []⟩

open Abbreviation in
theorem parse_twoParagraphs :
    parse "p*2>raw" = .ok (twoParagraphs.fill (.element { name := some "raw" } [])) := by
  have htrimmed : Text.Trimmed "p*2>raw" := Text.trimmed_of_ends rfl (by decide) rfl (by decide)
  have hchild : FollowsItem ('>' :: "raw".toList) := followsItem_cons (by decide) _
  have hp : readElement "p*2>raw"
      = .ok ({ name := some "p", count := some 2 }, '>' :: "raw".toList) :=
    (readElement_named (List.cons_ne_nil _ _) rfl).trans
      ((readParts_count rfl _).trans (readParts_followsItem _ hchild))
  have hraw : readElement "raw" = .ok ({ name := some "raw" }, []) :=
    readElement_name "raw" (by decide) (by decide) followsItem_nil
  rw [parse_trimmed htrimmed, readItem_element (by decide) (by decide) hp, readOperator_child,
    readItem_element (by decide) (by decide) hraw, readOperator_nil]
  rfl

theorem raw_verbatim_twoParagraphs :
    expand "p*2>raw" "html" (rawRegistry "<hr>") {} = .ok "<p><hr></p>\n<p><hr></p>" ∧
    ∃ resolved, Contributes "html" (rawRegistry "<hr>") {} twoParagraphs resolved "<hr>"
      "<p><hr></p>\n<p><hr></p>" ∧ resolved.site.copies = 2 := by
  have hexpand : expand "p*2>raw" "html" (rawRegistry "<hr>") {}
      = .ok "<p><hr></p>\n<p><hr></p>" := by decide +kernel
  have hnames : ∀ e ∈ twoParagraphs.site.heads,
      ¬ (Scope.ofOptions "html" (rawRegistry "<hr>") {}).Names e := by
    have hp : (Scope.ofOptions "html" (rawRegistry "<hr>") {}).lookup "p" = none := by decide
    rintro e he ⟨name, body, hname, hlookup⟩
    obtain rfl := List.mem_singleton.1 he
    cases hname
    cases hp.symm.trans hlookup
  have hraw : ∀ e ∈ twoParagraphs.site.heads,
      ¬ (Scope.ofOptions "html" (rawRegistry "<hr>") {}).NamesRaw e :=
    fun e he ⟨name, text, hname, hlookup⟩ => hnames e he ⟨name, .raw text, hname, hlookup⟩
  have hchars : ∀ c ∈ "raw".toList, Abbreviation.isNameChar c = true :=
    List.all_eq_true.1 (by decide)
  have hcustom : (rawRegistry "<hr>").snippet? "html" "raw" = some "<hr>" := by decide
  have htext : Snippet.substitute (Snippet.bindings (rawRegistry "<hr>") {}) "<hr>" = "<hr>" := by
    decide
  obtain ⟨-, helement⟩ :=
    (raw_verbatim (by decide) (by decide) hchars hcustom htext (by decide)).2.2 (by decide)
  obtain ⟨resolved, hcontributes⟩ := helement "p*2>raw" _ twoParagraphs { name := some "raw" } []
    hexpand (by decide) parse_twoParagraphs rfl rfl hraw
  exact ⟨hexpand, resolved, hcontributes, hcontributes.copies hnames⟩

/-- Below an element that closes itself and below a raw text, a raw text is not written out. In
parentheses, a counter token in it is numbered. -/
theorem raw_not_verbatim :
    (expand "raw" "html" (rawRegistry "<hr>") {} = .ok "<hr>" ∧
      expand "div/>raw" "html" (rawRegistry "<hr>") {} = .ok "<div>" ∧
      expand "raw>raw" "html" (rawRegistry "<hr>") {} = .ok "<hr>") ∧
    (Scope.ofOptions "html" (rawRegistry "<b>$</b>") {}).lookup "(raw)" = none ∧
    expand "raw" "html" (rawRegistry "<b>$</b>") {} = .ok "<b>$</b>" ∧
    expand "(raw)" "html" (rawRegistry "<b>$</b>") {} = .ok "<b>1</b>" := by
  decide +kernel

end Markup

end Shorthand
