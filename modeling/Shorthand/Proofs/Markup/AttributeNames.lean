import Shorthand.Proofs.Abbreviation.Traversal
import Shorthand.Proofs.Markup.Copies
import Shorthand.Proofs.Markup.EscapedText
import Shorthand.Proofs.Markup.Numbering
import Shorthand.Proofs.Markup.Spots

/-!
# `Shorthand.Proofs.Markup.AttributeNames`: each attribute of an element has a name of its own

Attributes are set one after another, by the parts of an element and by what is written on an
element that names a snippet. Setting one that is there already changes its value, and adding a
class is setting `class` (`exists_addClass_eq`), so no name comes up twice.

`attributeNames_distinct` follows this to the output:

- the parser reads elements whose attributes have distinct names (`distinctNames_of_readElement`);
- every element of a resolved forest was read, or is raw text, or is a snippet's element with
  attributes put on it (`forall_forestElements_resolve`), at any depth of snippets;
- a class that is written on an element goes behind the classes of its snippet, after a blank
  (`mem_foldl_mergeAttribute`);
- unrolling numbers the names of attributes too. Names without a dollar sign stay as they are.

Two names that differ can be numbered alike, even to a name without a dollar sign
(`numbering_repeats_name`).
-/

set_option autoImplicit false

namespace Shorthand

/-! ### Setting attributes -/

namespace Attribute

/-- Adding a class is setting the attribute, to some value. -/
theorem exists_addClass_eq (extra : Text) (attributes : List Attribute) :
    ∃ value, addClass extra attributes = set "class" (some value) attributes := by
  induction attributes with
  | nil => exact ⟨extra, rfl⟩
  | cons a rest ih =>
    obtain ⟨value, hvalue⟩ := ih
    by_cases hclass : a.name = "class".toList
    · refine ⟨joinClass extra a.value, ?_⟩
      rw [addClass, set, if_pos hclass, if_pos hclass, hclass]
    · refine ⟨value, ?_⟩
      rw [addClass, set, if_neg hclass, if_neg hclass, hvalue]

theorem nodup_names_set {attributes : List Attribute} (h : (names attributes).Nodup)
    (name : Text) (value : Option Text) : (names (set name value attributes)).Nodup := by
  induction attributes with
  | nil => exact List.pairwise_singleton _ name
  | cons a rest ih =>
    obtain ⟨ha, hrest⟩ := List.nodup_cons.1 h
    rw [set]
    by_cases hname : a.name = name
    · rw [if_pos hname]
      show (name :: names rest).Nodup
      rw [← hname]
      exact h
    · rw [if_neg hname]
      refine List.nodup_cons.2 ⟨fun hmem => ?_, ih hrest⟩
      obtain heq | hmem := mem_names_set.1 hmem
      · exact hname heq
      · exact ha hmem

/-- All other attributes stay. -/
theorem mem_set_of_ne {attributes : List Attribute} {a : Attribute} {name : Text}
    (value : Option Text) (hne : a.name ≠ name) (h : a ∈ attributes) :
    a ∈ set name value attributes := by
  induction attributes with
  | nil => cases h
  | cons first rest ih =>
    rw [set]
    obtain rfl | h := List.mem_cons.1 h
    · rw [if_neg hne]
      exact List.mem_cons_self
    · split
      · exact List.mem_cons_of_mem _ h
      · exact List.mem_cons_of_mem _ (ih h)

/-- The class that is there is the one that is added to. -/
theorem joinClass_mem_addClass {attributes : List Attribute} {present : Option Text}
    (hnames : (names attributes).Nodup) (extra : Text) (h : ⟨"class", present⟩ ∈ attributes) :
    ⟨"class", some (joinClass extra present)⟩ ∈ addClass extra attributes := by
  induction attributes with
  | nil => cases h
  | cons a rest ih =>
    obtain ⟨ha, hrest⟩ := List.nodup_cons.1 hnames
    rw [addClass]
    obtain rfl | h := List.mem_cons.1 h
    · rw [if_pos rfl]
      exact List.mem_cons_self
    · have hclass : a.name ≠ "class".toList := by
        intro heq
        exact ha (heq ▸ List.mem_map_of_mem h)
      rw [if_neg hclass]
      exact List.mem_cons_of_mem _ (ih hrest h)

end Attribute

/-- No two attributes of an element have the same name. -/
def Element.DistinctNames (e : Element) : Prop :=
  (Attribute.names e.attributes).Nodup

namespace Element.DistinctNames

variable {e : Element}

theorem setAttribute (h : e.DistinctNames) (name : Text) (value : Option Text) :
    (e.setAttribute name value).DistinctNames :=
  Attribute.nodup_names_set h name value

theorem addClass (h : e.DistinctNames) (extra : Text) : (e.addClass extra).DistinctNames := by
  obtain ⟨value, hvalue⟩ := Attribute.exists_addClass_eq extra e.attributes
  show (Attribute.names (Attribute.addClass extra e.attributes)).Nodup
  rw [hvalue]
  exact Attribute.nodup_names_set h "class" (some value)

end Element.DistinctNames

/-! ### What is read -/

namespace Abbreviation

theorem nodup_names_of_readAttributes {attributes result : List Attribute} {s after : Text}
    (h : readAttributes attributes s = .ok (result, after))
    (hnames : (Attribute.names attributes).Nodup) : (Attribute.names result).Nodup := by
  -- Each attribute in the brackets is set on those before it.
  fun_induction readAttributes attributes s with
  | case1 | case3 | case5 => cases h
  | case2 =>
    cases h
    exact hnames
  | case4 _ _ _ _ _ _ _ _ _ _ ih => exact ih h (Attribute.nodup_names_set hnames _ _)
  | case6 _ _ _ _ _ _ _ _ _ _ _ _ _ _ ih =>
    exact ih h (Attribute.nodup_names_set hnames _ _)
  | case7 _ _ _ _ _ _ _ _ _ _ _ _ _ ih => exact ih h (Attribute.nodup_names_set hnames _ _)

theorem distinctNames_of_readParts {e e' : Element} {s after : Text}
    (h : readParts e s = .ok (e', after)) (hnames : e.DistinctNames) : e'.DistinctNames := by
  fun_induction readParts e s with
  | case1 | case11 =>
    cases h
    exact hnames
  | case3 | case5 | case7 => cases h
  | case2 _ _ ih => exact ih h (hnames.setAttribute _ _)
  | case4 _ _ _ _ ih => exact ih h (hnames.addClass _)
  | case6 _ _ _ _ hr _ _ ih => exact ih h (nodup_names_of_readAttributes hr hnames)
  -- Texts, repeats and the self-closing mark are no attributes.
  | case8 _ _ _ _ _ _ _ _ ih | case9 _ _ _ _ _ _ _ _ ih | case10 _ _ _ _ _ _ _ ih =>
    exact ih h hnames

theorem distinctNames_of_readElement {e : Element} {s after : Text}
    (h : readElement s = .ok (e, after)) : e.DistinctNames := by
  unfold readElement at h
  split at h
  · exact distinctNames_of_readParts h List.nodup_nil
  · split at h
    · cases h
    · rename_i hparts
      split at h
      · cases h
      · cases h
        exact distinctNames_of_readParts hparts List.nodup_nil

/-- An element among the tokens of a text is read somewhere in it. -/
theorem Spells.exists_readElement {place : Place} {s : Text} {tokens : List Token} {e : Element}
    (h : Spells place s tokens) (hmem : Token.element e ∈ tokens) :
    ∃ t after, readElement t = .ok (e, after) := by
  induction h with
  | finish => cases hmem
  | @element s rest e' tokens _ helement _ ih =>
    obtain heq | hmem := List.mem_cons.1 hmem
    · cases heq
      exact ⟨s, rest, helement⟩
    · exact ih hmem
  | opening _ ih | child _ ih | sibling _ ih | climb _ ih | closing _ ih =>
    obtain heq | hmem := List.mem_cons.1 hmem
    · cases heq
    · exact ih hmem

/-- The elements of a parsed forest are as they were read. -/
theorem exists_readElement_of_parse {abbreviation : Text} {forest : List Node} {e : Element}
    (h : parse abbreviation = .ok forest) (he : e ∈ Node.forestElements forest) :
    ∃ t after, readElement t = .ok (e, after) := by
  have hread : e ∈ (tokens abbreviation).filterMap Token.element? := by
    rw [(run_of_parse h).forestElements_eq fits_empty] at he
    exact he
  obtain ⟨token, htoken, helement⟩ := List.mem_filterMap.1 hread
  cases token with
  | element e' =>
    cases helement
    exact (spells_of_parse h).exists_readElement htoken
  | opening | closing | child | sibling | climb => cases helement

theorem distinctNames_of_parse {abbreviation : Text} {forest : List Node}
    (h : parse abbreviation = .ok forest) :
    ∀ e ∈ Node.forestElements forest, e.DistinctNames := by
  intro e he
  obtain ⟨t, after, helement⟩ := exists_readElement_of_parse h he
  exact distinctNames_of_readElement helement

end Abbreviation

/-! ### What is resolved -/

namespace Markup

/-- An attribute that is put on an element is set, to some value. -/
theorem exists_mergeAttribute_eq (e : Element) (a : Attribute) :
    ∃ value, mergeAttribute e a = e.setAttribute a.name value := by
  unfold mergeAttribute
  split
  · split
    · rename_i value _ hclass
      obtain ⟨joined, hjoined⟩ := Attribute.exists_addClass_eq value e.attributes
      refine ⟨some joined, ?_⟩
      rw [Element.addClass, Element.setAttribute, hjoined, hclass.1]
    · exact ⟨_, rfl⟩
  · exact ⟨_, rfl⟩

theorem distinctNames_mergeAttribute {e : Element} (h : e.DistinctNames) (a : Attribute) :
    (mergeAttribute e a).DistinctNames := by
  obtain ⟨value, hvalue⟩ := exists_mergeAttribute_eq e a
  rw [hvalue]
  exact h.setAttribute a.name value

/-- What is written on an element brings no name a second time. -/
theorem distinctNames_mergeElement {snippet : Element} (written : Element)
    (h : snippet.DistinctNames) : (mergeElement written snippet).DistinctNames := by
  have hfold (attributes : List Attribute) {e : Element} (he : e.DistinctNames) :
      (attributes.foldl mergeAttribute e).DistinctNames := by
    induction attributes generalizing e with
    | nil => exact he
    | cons a rest ih => exact ih (distinctNames_mergeAttribute he a)
  exact hfold written.attributes h

/-- An attribute stays while others are put on its element. -/
theorem mem_foldl_mergeAttribute_of_notMem {a : Attribute} {attributes : List Attribute}
    {e : Element} (hname : a.name ∉ Attribute.names attributes) (h : a ∈ e.attributes) :
    a ∈ (attributes.foldl mergeAttribute e).attributes := by
  induction attributes generalizing e with
  | nil => exact h
  | cons first rest ih =>
    obtain ⟨hne, hrest⟩ := List.ne_and_not_mem_of_not_mem_cons hname
    refine ih hrest ?_
    obtain ⟨value, hvalue⟩ := exists_mergeAttribute_eq e first
    rw [hvalue]
    exact Attribute.mem_set_of_ne value hne h

/-- Classes that are written go behind those that are there. -/
theorem mem_foldl_mergeAttribute {attributes : List Attribute} {e : Element}
    {typed present : Text} (hnames : (Attribute.names attributes).Nodup)
    (he : e.DistinctNames) (htyped : typed ≠ []) (hpresent : present ≠ [])
    (hmem : ⟨"class", some typed⟩ ∈ attributes) (h : ⟨"class", some present⟩ ∈ e.attributes) :
    ⟨"class", some (present ++ ' ' :: typed)⟩
      ∈ (attributes.foldl mergeAttribute e).attributes := by
  induction attributes generalizing e with
  | nil => cases hmem
  | cons a rest ih =>
    obtain ⟨ha, hrest⟩ := List.nodup_cons.1 hnames
    rw [List.foldl_cons]
    obtain rfl | hmem := List.mem_cons.1 hmem
    · -- The class is joined here, and no attribute after it is a class.
      have hjoined : mergeAttribute e ⟨"class", some typed⟩ = e.addClass typed :=
        if_pos ⟨rfl, htyped⟩
      have hclass := Attribute.joinClass_mem_addClass he typed h
      rw [Attribute.joinClass, if_neg hpresent] at hclass
      rw [hjoined]
      exact mem_foldl_mergeAttribute_of_notMem ha hclass
    · have hne : "class".toList ≠ a.name := by
        intro heq
        exact ha (heq ▸ List.mem_map_of_mem hmem)
      obtain ⟨value, hvalue⟩ := exists_mergeAttribute_eq e a
      refine ih hrest (distinctNames_mergeAttribute he a) hmem ?_
      rw [hvalue]
      exact Attribute.mem_set_of_ne value hne h

/-- The elements of a joined node are the children's, the snippet's, and one of them with what
was written put on it. -/
theorem mem_elements_merge {written : Element} {children forest : List Node} {e : Element}
    (h : e ∈ (merge written children forest).elements) :
    (∃ snippet ∈ Node.forestElements forest, e = mergeElement written snippet) ∨
      e ∈ Node.forestElements forest ∨ e ∈ Node.forestElements children := by
  unfold merge at h
  split at h
  · rename_i snippet below
    rw [Node.elements, Node.forestElements_append, List.mem_cons, List.mem_append] at h
    obtain rfl | hbelow | hchildren := h
    · exact .inl ⟨snippet, List.mem_cons_self, rfl⟩
    · rw [Node.forestElements_singleton]
      exact .inr (.inl (List.mem_cons_of_mem _ hbelow))
    · exact .inr (.inr hchildren)
  · simp only at h
    split at h
    · exact .inr (.inl h)
    · rw [Node.elements_append, List.mem_append] at h
      exact .inr h

/-- What a rule makes of an element has a property where the element and all below it have. -/
def RuleKeeps (P : Element → Prop) (rule : Element → List Node → Except ExpandError Node) :
    Prop :=
  ∀ head children node, P head → (∀ e ∈ Node.forestElements children, P e) →
    rule head children = .ok node → ∀ e ∈ node.elements, P e

section

variable {P : Element → Prop} {rule : Element → List Node → Except ExpandError Node}

mutual

theorem RuleKeeps.rebuild (hrule : RuleKeeps P rule) : (node : Node) → {replaced : Node} →
    (∀ e ∈ node.elements, P e) → Markup.rebuild rule node = .ok replaced →
    ∀ e ∈ replaced.elements, P e
  | .element head children, replaced, hnode, h => by
    obtain ⟨resolved, hresolved, hreplaced⟩ := rebuild_element h
    rw [Node.elements, List.forall_mem_cons] at hnode
    exact hrule head resolved replaced hnode.1 (hrule.rebuildForest children hnode.2 hresolved)
      hreplaced
  | .group members count, replaced, hnode, h => by
    rw [Markup.rebuild] at h
    split at h
    · cases h
    · rename_i resolved hresolved
      cases h
      exact hrule.rebuildForest members hnode hresolved

theorem RuleKeeps.rebuildForest (hrule : RuleKeeps P rule) : (forest : List Node) →
    {result : List Node} → (∀ e ∈ Node.forestElements forest, P e) →
    Markup.rebuildForest rule forest = .ok result → ∀ e ∈ Node.forestElements result, P e
  | [], result, hforest, h => by
    rw [Markup.rebuildForest] at h
    cases h
    exact hforest
  | node :: rest, result, hforest, h => by
    obtain ⟨first, others, hfirst, hothers, rfl⟩ := rebuildForest_cons_iff.1 h
    rw [Node.forestElements, List.forall_mem_append] at hforest ⊢
    exact ⟨hrule.rebuild node hforest.1 hfirst, hrule.rebuildForest rest hforest.2 hothers⟩

end

end

variable {scope : Scope}

/-- All that the rule for an element can make of it. -/
theorem snippetRule_eq_ok {depth : Nat} {skip : Option Text} {head : Element}
    {children : List Node} {node : Node}
    (h : snippetRule scope depth skip head children = .ok node) :
    node = .element head children ∨
    (∃ text, node = .element { text := some text, count := head.count } []) ∨
    ∃ name source parsed inner, Abbreviation.parse source = .ok parsed ∧
      resolve scope depth (some name) parsed = .ok inner ∧ node = merge head children inner := by
  by_cases hnames : scope.Names head
  · obtain ⟨name, body, hname, hlookup⟩ := hnames
    by_cases hskip : some name = skip
    · simp only [snippetRule, resolveElement, hname, if_pos hskip, Except.ok.injEq] at h
      exact .inl h.symm
    · cases body with
      | raw text => exact .inr (.inl ⟨text, snippetRule_raw hname hskip h hlookup⟩)
      | abbreviation source =>
        obtain ⟨parsed, inner, hjoined⟩ := snippetRule_abbreviation hname hskip h hlookup
        exact .inr (.inr ⟨name, source, parsed, inner, hjoined⟩)
  · rw [snippetRule_unnamed hnames] at h
    exact .inl (Except.ok.inj h).symm

/-- What holds of all elements that are read and of raw text, and is kept where attributes are
put on an element, holds of all elements of a resolved forest. -/
theorem forall_forestElements_resolve {P : Element → Prop}
    (hread : ∀ source parsed, Abbreviation.parse source = .ok parsed →
      ∀ e ∈ Node.forestElements parsed, P e)
    (hraw : ∀ text count, P { text := some text, count := count })
    (hmerge : ∀ written snippet, P written → P snippet → P (mergeElement written snippet))
    {depth : Nat} {skip : Option Text} {forest result : List Node}
    (hforest : ∀ e ∈ Node.forestElements forest, P e)
    (h : resolve scope depth skip forest = .ok result) :
    ∀ e ∈ Node.forestElements result, P e := by
  induction depth generalizing skip forest result with
  | zero =>
    rw [resolve] at h
    cases h
    exact hforest
  | succ depth ih =>
    rw [resolve] at h
    suffices hrule : RuleKeeps P (snippetRule scope depth skip) from
      hrule.rebuildForest forest hforest h
    intro head children node hhead hchildren hnode
    obtain rfl | ⟨text, rfl⟩ | ⟨name, source, parsed, inner, hparsed, hinner, rfl⟩ :=
      snippetRule_eq_ok hnode
    · exact List.forall_mem_cons.2 ⟨hhead, hchildren⟩
    · exact List.forall_mem_singleton.2 (hraw text head.count)
    · -- The forest of the snippet is resolved with one snippet less to go.
      have hsnippet := ih (hread source parsed hparsed) hinner
      intro e he
      obtain ⟨snippet, hmem, rfl⟩ | hmem | hmem := mem_elements_merge he
      · exact hmerge head snippet hhead (hsnippet snippet hmem)
      · exact hsnippet e hmem
      · exact hchildren e hmem

theorem distinctNames_of_resolve {depth : Nat} {skip : Option Text} {forest result : List Node}
    (hforest : ∀ e ∈ Node.forestElements forest, e.DistinctNames)
    (h : resolve scope depth skip forest = .ok result) :
    ∀ e ∈ Node.forestElements result, e.DistinctNames :=
  forall_forestElements_resolve (fun _ _ => Abbreviation.distinctNames_of_parse)
    (fun _ _ => List.nodup_nil) (fun written _ _ => distinctNames_mergeElement written) hforest h

/-- Where a forest is resolved, so are the children of each of its elements. -/
theorem exists_resolve_children {depth : Nat} {skip : Option Text} {spot : Spot}
    {head : Element} {children result : List Node}
    (h : resolve scope depth skip (spot.fill (.element head children)) = .ok result) :
    ∃ resolved, resolve scope depth skip children = .ok resolved := by
  cases depth with
  | zero => exact ⟨children, resolve.eq_1 ..⟩
  | succ depth =>
    rw [resolve] at h
    obtain ⟨-, top, -, -, htop, -, -⟩ := rebuildForest_between_iff.1 h
    obtain ⟨node, hnode⟩ := rebuild_within (within_iff_exists_fill.2 ⟨spot.site, rfl⟩) htop
    obtain ⟨resolved, hresolved, -⟩ := rebuild_element hnode
    refine ⟨resolved, ?_⟩
    rw [resolve]
    exact hresolved

/-- With `depth` snippets to go, an element names a snippet that stands for one element above
some nodes. -/
inductive NamesElement (scope : Scope) :
    Nat → Option Text → Element → Element → List Node → Prop where
  | intro {depth : Nat} {skip : Option Text} {head snippet : Element} {below parsed : List Node}
      {name source : Text} (hname : head.name = some name) (hskip : some name ≠ skip)
      (hlookup : scope.lookup name = some (.abbreviation source))
      (hparsed : Abbreviation.parse source = .ok parsed)
      (hinner : resolve scope depth (some name) parsed = .ok [.element snippet below]) :
      NamesElement scope (depth + 1) skip head snippet below

/-- Such an element becomes that of its snippet, with the attributes put on it and the children
behind those that it has. -/
theorem NamesElement.replaces {depth : Nat} {skip : Option Text} {head snippet : Element}
    {children below resolved : List Node} (h : NamesElement scope depth skip head snippet below)
    (hchildren : resolve scope depth skip children = .ok resolved) :
    Replaces scope depth skip (.element head children)
      (.element (mergeElement head snippet) (below ++ resolved)) := by
  obtain ⟨hname, hskip, hlookup, hparsed, hinner⟩ := h
  rw [resolve] at hchildren
  rw [replaces_iff, rebuild, hchildren]
  exact snippetRule_eq hname hskip hlookup hparsed hinner

theorem NamesElement.distinctNames {depth : Nat} {skip : Option Text} {head snippet : Element}
    {below : List Node} (h : NamesElement scope depth skip head snippet below) :
    snippet.DistinctNames := by
  obtain ⟨-, -, -, hparsed, hinner⟩ := h
  exact distinctNames_of_resolve (Abbreviation.distinctNames_of_parse hparsed) hinner snippet
    List.mem_cons_self

end Markup

/-! ### Elements at a place -/

/-- What stands at a place is in the forest. -/
theorem Spot.mem_forestElements_fill {node : Node} {e : Element} (h : e ∈ node.elements)
    (spot : Spot) : e ∈ Node.forestElements (spot.fill node) := by
  have hbetween {inner : Node} (before after : List Node) (hinner : e ∈ inner.elements) :
      e ∈ Node.forestElements (before ++ inner :: after) := by
    rw [Node.forestElements_append, Node.forestElements]
    exact List.mem_append_right _ (List.mem_append_left _ hinner)
  have hsite (site : Site) : e ∈ (site.fill node).elements := by
    induction site with
    | here => exact h
    | under head before site after ih => exact List.mem_cons_of_mem _ (hbetween before after ih)
    | inside before site after count ih => exact hbetween before after ih
  exact hbetween spot.before spot.after (hsite spot.site)

/-! ### What is written out -/

/-- The names of the attributes of a node of the output. -/
def Tree.attributeNames : Tree → List Text
  | .element _ attributes _ _ _ => Attribute.names attributes
  | .text _ => []

/-- A node of the output has the names of its element, when they have no dollar sign. -/
theorem Copy.WrittenAs.nodup_attributeNames {copy : Copy} {tree : Tree}
    (h : copy.WrittenAs tree) (hnames : copy.head.DistinctNames)
    (hdollar : ∀ name ∈ Attribute.names copy.head.attributes, '$' ∉ name) :
    tree.attributeNames.Nodup := by
  cases h with
  | text => exact List.nodup_nil
  | element name below hname =>
    have hsame : Attribute.names (copy.head.attributes.map (Markup.numberAttribute copy.counter))
        = Attribute.names copy.head.attributes := by
      rw [Attribute.names, Attribute.names, List.map_map]
      exact List.map_congr_left fun a ha =>
        Counter.number_of_notMem copy.counter (hdollar a.name (List.mem_map_of_mem ha))
    rw [Tree.attributeNames, hsame]
    exact hnames

namespace Markup

/-- Attributes have names of their own. In a forest that is read, and in what it is resolved to
with any number of snippets inside one another, no element has two attributes of one name. An
element that names a snippet of one element becomes that element, with the classes that were
written on it behind those of the snippet. It stands in the resolved forest, unless raw text took
the place of an element around it. So no node of the output has two attributes of one name, when
the names of its element have no dollar sign. -/
theorem attributeNames_distinct {abbreviation : Text} {forest : List Node}
    (hparse : Abbreviation.parse abbreviation = .ok forest) :
    (∀ e ∈ Node.forestElements forest, e.DistinctNames) ∧
    ∀ (scope : Scope) (depth : Nat) (skip : Option Text) (result : List Node),
      resolve scope depth skip forest = .ok result →
      (∀ e ∈ Node.forestElements result, e.DistinctNames) ∧
      (∀ (spot : Spot) (head snippet : Element) (children below : List Node),
        forest = spot.fill (.element head children) →
        NamesElement scope depth skip head snippet below →
        ∃ resolved,
          resolve scope depth skip children = .ok resolved ∧
          Replaces scope depth skip (.element head children)
            (.element (mergeElement head snippet) (below ++ resolved)) ∧
          ((∀ e ∈ spot.site.heads, ¬ scope.NamesRaw e) → ∃ place : Spot,
            result = place.fill (.element (mergeElement head snippet) (below ++ resolved))) ∧
          ∀ typed present, typed ≠ [] → present ≠ [] →
            ⟨"class", some typed⟩ ∈ head.attributes →
            ⟨"class", some present⟩ ∈ snippet.attributes →
            ⟨"class", some (present ++ ' ' :: typed)⟩
              ∈ (mergeElement head snippet).attributes) ∧
      ∀ parent counter budget trees rest,
        unroll parent counter result budget = some (trees, rest) →
        List.Forall₂
          (fun copy tree => copy.head ∈ Node.forestElements result ∧ copy.WrittenAs tree ∧
            ((∀ name ∈ Attribute.names copy.head.attributes, '$' ∉ name) →
              tree.attributeNames.Nodup))
          (Node.forestCopies counter result) (Tree.forestNodes trees) := by
  have hforest := Abbreviation.distinctNames_of_parse hparse
  refine ⟨hforest, fun scope depth skip result hresolve => ?_⟩
  have hresult := distinctNames_of_resolve hforest hresolve
  refine ⟨hresult, ?_, ?_⟩
  · rintro spot head snippet children below rfl hnames
    obtain ⟨resolved, hresolved⟩ := exists_resolve_children hresolve
    have hreplaces := hnames.replaces hresolved
    refine ⟨resolved, hresolved, hreplaces, fun hraw => ?_, ?_⟩
    · cases hnames
      obtain ⟨place, hplace, -, -⟩ := resolve_fill hraw hresolve
      exact ⟨place, Except.ok.inj (hresolve.symm.trans (hplace _ _ hreplaces))⟩
    · intro typed present htyped hpresent hhead hsnippet
      have hwritten : head.DistinctNames :=
        hforest head (spot.mem_forestElements_fill List.mem_cons_self)
      exact mem_foldl_mergeAttribute hwritten hnames.distinctNames htyped hpresent hhead hsnippet
  · intro parent counter budget trees rest hunroll
    have hcopies := forall₂_unroll hunroll
    have hheads : ∀ copy ∈ Node.forestCopies counter result,
        copy.head ∈ Node.forestElements result :=
      fun copy hcopy => (Node.head_mem_and_index_lt result hcopy).1
    refine ((List.forall₂_and_left _ _).2 ⟨hheads, hcopies⟩).imp fun copy tree h => ?_
    exact ⟨h.1, h.2, h.2.nodup_attributeNames (hresult copy.head h.1)⟩

theorem namesElement_card :
    NamesElement (oneSnippet "card" "div.card") maxSnippetDepth none (classed "card" "x")
      (classed "div" "card") [] :=
  .intro rfl (Option.some_ne_none _) rfl parse_card rfl

/-- A card with one more class. -/
theorem attributeNames_distinct_card : ∃ merged trees rest,
    resolve (oneSnippet "card" "div.card") maxSnippetDepth none
      [.element (classed "card" "x") []] = .ok [.element merged []] ∧
    merged.DistinctNames ∧ ⟨"class", some "card x"⟩ ∈ merged.attributes ∧
    unroll none {} [.element merged []] maxNodes = some (trees, rest) ∧
    List.Forall₂ (fun _ tree => tree.attributeNames.Nodup)
      (Node.forestCopies {} [.element merged []]) (Tree.forestNodes trees) := by
  have hparse : Abbreviation.parse "card.x" = .ok [.element (classed "card" "x") []] :=
    parse_classed "card" "x" (Text.trimmed_of_ends rfl (by decide) rfl (by decide))
      (by decide) (by decide) (by decide) (by decide)
  have hmerged : mergeElement (classed "card" "x") (classed "div" "card")
      = classed "div" "card x" := rfl
  have hchildren : resolve (oneSnippet "card" "div.card") maxSnippetDepth none [] = .ok [] := rfl
  have hresolve : resolve (oneSnippet "card" "div.card") maxSnippetDepth none
      [.element (classed "card" "x") []] = .ok [.element (classed "div" "card x") []] :=
    namesElement_card.replaces hchildren
  obtain ⟨hnames, hclass, hwritten⟩ := (attributeNames_distinct hparse).2 _ _ _ _ hresolve
  obtain ⟨-, -, -, -, hjoined⟩ := hclass ⟨[], .here, []⟩ _ _ [] [] rfl namesElement_card
  rw [hmerged] at hjoined
  have hunroll : unroll none {} [.element (classed "div" "card x") []] maxNodes
      = some (_, maxNodes - 1) := unroll_unrepeated rfl rfl (maxNodes - 1)
  have hdollar : ∀ e ∈ Node.forestElements [.element (classed "div" "card x") []],
      ∀ name ∈ Attribute.names e.attributes, '$' ∉ name := by decide
  exact ⟨classed "div" "card x", _, _, hresolve, hnames _ List.mem_cons_self,
    hjoined "x" "card" (by decide) (by decide) List.mem_cons_self List.mem_cons_self, hunroll,
    (hwritten none {} maxNodes _ _ hunroll).imp fun copy _ h => h.2.2 (hdollar copy.head h.1)⟩

/-- A paragraph with two attributes, one of them numbered. -/
def numberedNames : Element :=
  { name := some "p", attributes := [⟨"a$", none⟩, ⟨"a1", none⟩] }

open Abbreviation in
theorem parse_numberedNames : parse "p[a$ a1]" = .ok [.element numberedNames []] := by
  have htrimmed : Text.Trimmed "p[a$ a1]" := Text.trimmed_of_ends rfl (by decide) rfl (by decide)
  have hfirst : "a$ a1]".toList.dropWhile Text.isBlank = 'a' :: "$ a1]".toList := rfl
  have hsecond : " a1]".toList.dropWhile Text.isBlank = 'a' :: "1]".toList := rfl
  have hattributes : readAttributes [] "a$ a1]" = .ok (numberedNames.attributes, []) :=
    calc readAttributes [] "a$ a1]"
      _ = readAttributes [⟨"a$", none⟩] " a1]" :=
        readAttributes_bare hfirst (by decide) (by decide) rfl rfl (by decide)
      _ = readAttributes numberedNames.attributes "]" :=
        readAttributes_bare hsecond (by decide) (by decide) rfl rfl (by decide)
      _ = .ok (numberedNames.attributes, []) := readAttributes_close rfl
  have hp : readElement "p[a$ a1]" = .ok (numberedNames, []) :=
    calc readElement "p[a$ a1]"
      _ = readParts { name := some "p" } "[a$ a1]" := readElement_named (by decide) rfl
      _ = readParts numberedNames [] := readParts_attributes hattributes
      _ = .ok (numberedNames, []) := readParts_followsItem _ followsItem_nil
  rw [parse_trimmed htrimmed, readItem_element (by decide) (by decide) hp, readOperator_nil]
  rfl

/-- Two names that differ, numbered alike. -/
theorem numbering_repeats_name :
    Abbreviation.parse "p[a$ a1]" = .ok [.element numberedNames []] ∧
    resolve (Scope.ofOptions "html" {} {}) maxSnippetDepth none [.element numberedNames []]
      = .ok [.element numberedNames []] ∧
    ∃ tree rest, unroll none {} [.element numberedNames []] maxNodes = some ([tree], rest) ∧
      (∀ name ∈ tree.attributeNames, '$' ∉ name) ∧ ¬ tree.attributeNames.Nodup := by
  have hnames : Attribute.names (numberedNames.attributes.map (numberAttribute {}))
      = ["a1", "a1"] := by decide +kernel
  refine ⟨parse_numberedNames, rfl, _, maxNodes - 1, unroll_unrepeated rfl rfl (maxNodes - 1), ?_⟩
  rw [Tree.attributeNames, hnames]
  decide

end Markup

end Shorthand
