import Shorthand.Proofs.Markup.Slots
import Shorthand.Proofs.Markup.WholeSnippet

/-!
# `Shorthand.Proofs.Markup.Spots`: a place in a forest and what is written there

A `Spot` is a place in a forest of nodes, with all that stands around it. This module follows
such a place from the forest to the output.

A place stays a place. Resolving replaces the elements around it and may put groups around it or
nodes before it, but never looks at what it holds (`resolve_fill`). Only an element that names raw
text is replaced with all that stands below it, so none stands around the place.

A text that stands at the place is then copied (`fills_site`). Repeats around it multiply, and
nothing is written below an element that closes itself, so `Site.copies` counts no copies there.
The output has the text at each of the copies, and all else in it does not depend on the text
(`writeForest_fill`). This needs a text without counter tokens, which numbering would replace.
-/

set_option autoImplicit false

namespace Shorthand

/-! ### Places in a forest -/

namespace Node

/-- A node of text and nothing else. -/
def bare (content : Text) : Node :=
  .element { text := some content } []

end Node

/-- A place at or below a node, with the nodes around it. -/
inductive Site where
  /-- The node itself. -/
  | here
  /-- Below an element, between some of its children. -/
  | under (head : Element) (before : List Node) (site : Site) (after : List Node)
  /-- In a group, between some of its members. -/
  | inside (before : List Node) (site : Site) (after : List Node) (count : Option Nat)

namespace Site

/-- The node with another one put in its place. -/
def fill : Site → Node → Node
  | here, node => node
  | under head before site after, node => .element head (before ++ site.fill node :: after)
  | inside before site after count, node => .group (before ++ site.fill node :: after) count

/-- The elements around the place, the outermost first. -/
def heads : Site → List Element
  | here => []
  | under head _ site _ => head :: site.heads
  | inside _ site _ _ => site.heads

/-- How often the place is written out. Repeats around it multiply, and nothing is written
below an element that closes itself. -/
def copies : Site → Nat
  | here => 1
  | under head _ site _ => head.count.getD 1 * if head.selfClosing then 0 else site.copies
  | inside _ site _ count => count.getD 1 * site.copies

end Site

/-- A place in a forest. -/
structure Spot where
  before : List Node
  site : Site
  after : List Node

/-- The forest with a node put in its place. -/
def Spot.fill (spot : Spot) (node : Node) : List Node :=
  spot.before ++ spot.site.fill node :: spot.after

/-- Below an element, a forest behind other children keeps its place. -/
theorem Spot.element_append_fill (spot : Spot) (head : Element) (below : List Node)
    (node : Node) :
    Node.element head (below ++ spot.fill node)
      = (Site.under head (below ++ spot.before) spot.site spot.after).fill node := by
  rw [Spot.fill, ← List.append_assoc]
  rfl

namespace Markup

/-! ### Resolving around a place -/

mutual

/-- Children that are attached to a node keep their places. -/
theorem append_fill (spot : Spot) : (node : Node) →
    ∃ site : Site, ∀ inner, Node.append (spot.fill inner) node = site.fill inner
  | .element head children => by
    refine ⟨.under head (children ++ spot.before) spot.site spot.after, fun inner => ?_⟩
    rw [Node.append, Spot.element_append_fill]
  | .group members count => by
    obtain ⟨last, hlast⟩ := appendLast_fill spot members
    refine ⟨.inside last.before last.site last.after count, fun inner => ?_⟩
    rw [Node.append, hlast]
    rfl

theorem appendLast_fill (spot : Spot) : (nodes : List Node) →
    ∃ last : Spot, ∀ inner, Node.appendLast (spot.fill inner) nodes = last.fill inner
  | [] => ⟨spot, fun _ => rfl⟩
  | [node] => by
    obtain ⟨site, hsite⟩ := append_fill spot node
    refine ⟨⟨[], site, []⟩, fun inner => ?_⟩
    rw [Node.appendLast, hsite]
    rfl
  | node :: next :: rest => by
    obtain ⟨last, hlast⟩ := appendLast_fill spot (next :: rest)
    refine ⟨⟨node :: last.before, last.site, last.after⟩, fun inner => ?_⟩
    rw [Node.appendLast, hlast]
    rfl

end

/-- Joining an element with a snippet keeps the places below the element. -/
theorem merge_fill (written : Element) (spot : Spot) (forest : List Node) :
    ∃ site : Site, ∀ inner, merge written (spot.fill inner) forest = site.fill inner := by
  unfold merge
  split
  · rename_i snippet below
    exact ⟨.under (mergeElement written snippet) (below ++ spot.before) spot.site spot.after,
      spot.element_append_fill (mergeElement written snippet) below⟩
  · -- Several nodes become a group, and the place is among its children, so it has some.
    obtain ⟨site, hsite⟩ := append_fill spot (.group forest written.count)
    refine ⟨site, fun inner => ?_⟩
    have hchildren : (spot.fill inner).isEmpty = false := by simp [Spot.fill]
    rw [hchildren]
    exact hsite inner

/-- An element that names a snippet. -/
def Scope.Names (scope : Scope) (e : Element) : Prop :=
  ∃ name body, e.name = some name ∧ scope.lookup name = some body

/-- An element that names a snippet of raw text. -/
def Scope.NamesRaw (scope : Scope) (e : Element) : Prop :=
  ∃ name text, e.name = some name ∧ scope.lookup name = some (.raw text)

section

variable {scope : Scope} {depth : Nat} {skip : Option Text}

theorem snippetRule_unnamed {head : Element} (h : ¬ scope.Names head) (children : List Node) :
    snippetRule scope depth skip head children = .ok (.element head children) := by
  unfold snippetRule resolveElement
  cases hname : head.name with
  | none => rfl
  | some name =>
    cases hlookup : scope.lookup name with
    | none =>
      simp only [hlookup]
      exact ite_self _
    | some body => exact absurd ⟨name, body, hname, hlookup⟩ h

/-- What the rule for an element does with what is below it, unless raw text takes the place of
all: the element stays above it, or is joined with a forest that does not depend on it. -/
theorem snippetRule_cases {head : Element} (hraw : ¬ scope.NamesRaw head) :
    (∀ children, snippetRule scope depth skip head children = .ok (.element head children)) ∨
    (∃ forest, ∀ children,
      snippetRule scope depth skip head children = .ok (merge head children forest)) ∨
    ∃ e, ∀ children, snippetRule scope depth skip head children = .error e := by
  unfold snippetRule resolveElement
  cases hname : head.name with
  | none => exact .inl fun _ => rfl
  | some name =>
    by_cases hskip : some name = skip
    · exact .inl fun _ => if_pos hskip
    · simp only [if_neg hskip]
      cases hlookup : scope.lookup name with
      | none => exact .inl fun _ => rfl
      | some body =>
        cases body with
        | raw text => exact absurd ⟨name, text, hname, hlookup⟩ hraw
        | abbreviation source =>
          cases hparsed : Abbreviation.parse source with
          | error e => exact .inr (.inr ⟨e, fun _ => by simp only [hparsed]⟩)
          | ok parsed =>
            cases hinner : resolve scope depth (some name) parsed with
            | error e => exact .inr (.inr ⟨e, fun _ => by simp only [hparsed, hinner]⟩)
            | ok forest => exact .inr (.inl ⟨forest, fun _ => by simp only [hparsed, hinner]⟩)

/-- So the rule keeps the places below an element, and keeps all around them when the element
names no snippet. -/
theorem snippetRule_fill {head : Element} (spot : Spot) {inner result : Node}
    (hraw : ¬ scope.NamesRaw head)
    (h : snippetRule scope depth skip head (spot.fill inner) = .ok result) :
    ∃ site : Site,
      (∀ inner, snippetRule scope depth skip head (spot.fill inner) = .ok (site.fill inner)) ∧
      (¬ scope.Names head → site = .under head spot.before spot.site spot.after) := by
  by_cases hnames : scope.Names head
  · obtain hstays | ⟨forest, hjoined⟩ | ⟨e, herror⟩ := snippetRule_cases hraw
    · exact ⟨.under head spot.before spot.site spot.after, fun inner => hstays _, fun _ => rfl⟩
    · obtain ⟨site, hsite⟩ := merge_fill head spot forest
      exact ⟨site, fun inner => by rw [hjoined, hsite], fun hnot => absurd hnames hnot⟩
    · rw [herror] at h
      cases h
  · exact ⟨.under head spot.before spot.site spot.after,
      fun inner => snippetRule_unnamed hnames _, fun _ => rfl⟩

variable {rule : Element → List Node → Except ExpandError Node}

theorem rebuildForest_cons_iff {node : Node} {rest result : List Node} :
    rebuildForest rule (node :: rest) = .ok result ↔
      ∃ first others, rebuild rule node = .ok first ∧ rebuildForest rule rest = .ok others ∧
        result = first :: others := by
  rw [rebuildForest_eq_ok_iff, List.forall₂_cons_left_iff]
  simp only [rebuildForest_eq_ok_iff]

/-- Nodes around a node are rebuilt by themselves. -/
theorem rebuildForest_between_iff {before after result : List Node} {node : Node} :
    rebuildForest rule (before ++ node :: after) = .ok result ↔
      ∃ first replaced last, rebuildForest rule before = .ok first ∧
        rebuild rule node = .ok replaced ∧ rebuildForest rule after = .ok last ∧
        result = first ++ replaced :: last := by
  induction before generalizing result with
  | nil =>
    rw [List.nil_append, rebuildForest_cons_iff]
    constructor
    · rintro ⟨replaced, last, hnode, hafter, rfl⟩
      exact ⟨[], replaced, last, by rw [rebuildForest], hnode, hafter, rfl⟩
    · rintro ⟨first, replaced, last, hbefore, hnode, hafter, rfl⟩
      rw [rebuildForest] at hbefore
      cases hbefore
      exact ⟨replaced, last, hnode, hafter, rfl⟩
  | cons start before ih =>
    rw [List.cons_append, rebuildForest_cons_iff]
    constructor
    · rintro ⟨done, others, hstart, hothers, rfl⟩
      obtain ⟨first, replaced, last, hbefore, hnode, hafter, rfl⟩ := ih.1 hothers
      exact ⟨done :: first, replaced, last,
        rebuildForest_cons_iff.2 ⟨done, first, hstart, hbefore, rfl⟩, hnode, hafter, rfl⟩
    · rintro ⟨first, replaced, last, hbefore, hnode, hafter, rfl⟩
      obtain ⟨done, others, hstart, hothers, rfl⟩ := rebuildForest_cons_iff.1 hbefore
      exact ⟨done, _, hstart, ih.2 ⟨others, replaced, last, hothers, hnode, hafter, rfl⟩, rfl⟩

/-- A place stays a place when the nodes around it are replaced. What it holds is replaced by
itself, and where no element around it names a snippet, it is written out as often as before. -/
theorem rebuild_fill {site : Site} {inner result replaced : Node}
    (hraw : ∀ e ∈ site.heads, ¬ scope.NamesRaw e)
    (hinner : rebuild (snippetRule scope depth skip) inner = .ok replaced)
    (h : rebuild (snippetRule scope depth skip) (site.fill inner) = .ok result) :
    ∃ resolved : Site,
      (∀ inner replaced, rebuild (snippetRule scope depth skip) inner = .ok replaced →
        rebuild (snippetRule scope depth skip) (site.fill inner)
          = .ok (resolved.fill replaced)) ∧
      ((∀ e ∈ site.heads, ¬ scope.Names e) → resolved.copies = site.copies) := by
  induction site generalizing result with
  | here => exact ⟨.here, fun _ _ h => h, fun _ => rfl⟩
  | under head before site after ih =>
    obtain ⟨children, hchildren, hrule⟩ := rebuild_element h
    obtain ⟨first, node, last, hbefore, hnode, hafter, rfl⟩ :=
      rebuildForest_between_iff.1 hchildren
    obtain ⟨resolved, hresolved, hcopies⟩ :=
      ih (fun e he => hraw e (List.mem_cons_of_mem _ he)) hnode
    -- The children are done, with the place among them, and the rule for the element is next.
    obtain rfl : resolved.fill replaced = node :=
      Except.ok.inj ((hresolved inner replaced hinner).symm.trans hnode)
    obtain ⟨done, hdone, hstays⟩ :=
      snippetRule_fill ⟨first, resolved, last⟩ (hraw head List.mem_cons_self) hrule
    refine ⟨done, fun other replaced hother => ?_, fun hnames => ?_⟩
    · rw [Site.fill, rebuild, rebuildForest_between_iff.2
        ⟨first, _, last, hbefore, hresolved other replaced hother, hafter, rfl⟩]
      exact hdone replaced
    · rw [hstays (hnames head List.mem_cons_self), Site.copies, Site.copies,
        hcopies fun e he => hnames e (List.mem_cons_of_mem _ he)]
  | inside before site after count ih =>
    rw [Site.fill, rebuild] at h
    split at h
    · cases h
    · rename_i members hmembers
      obtain ⟨first, node, last, hbefore, hnode, hafter, rfl⟩ :=
        rebuildForest_between_iff.1 hmembers
      obtain ⟨resolved, hresolved, hcopies⟩ := ih hraw hnode
      refine ⟨.inside first resolved last count, fun other replaced hother => ?_, fun hnames => ?_⟩
      · rw [Site.fill, rebuild, rebuildForest_between_iff.2
          ⟨first, _, last, hbefore, hresolved other replaced hother, hafter, rfl⟩]
        rfl
      · rw [Site.copies, Site.copies, hcopies hnames]

/-- A node stands at a place if and only if it is somewhere at or below the host. -/
theorem within_iff_exists_fill {node host : Node} :
    Node.Within node host ↔ ∃ site : Site, site.fill node = host := by
  constructor
  · intro hwithin
    induction hwithin with
    | refl => exact ⟨.here, rfl⟩
    | @deeper next host hnext _ ih =>
      obtain ⟨site, rfl⟩ := ih
      obtain ⟨before, after, hunder⟩ := List.append_of_mem hnext
      cases host with
      | element head children =>
        exact ⟨.under head before site after, congrArg (Node.element head) hunder.symm⟩
      | group members count =>
        exact ⟨.inside before site after count, congrArg (Node.group · count) hunder.symm⟩
  · rintro ⟨site, rfl⟩
    induction site with
    | here => exact .refl
    | under head before site after ih =>
      exact .deeper (List.mem_append_right _ List.mem_cons_self) ih
    | inside before site after count ih =>
      exact .deeper (List.mem_append_right _ List.mem_cons_self) ih

/-- A place in a forest stays one. -/
theorem resolve_fill {spot : Spot} {inner : Node} {result : List Node}
    (hraw : ∀ e ∈ spot.site.heads, ¬ scope.NamesRaw e)
    (h : resolve scope (depth + 1) skip (spot.fill inner) = .ok result) :
    ∃ resolved : Spot,
      (∀ inner replaced, Replaces scope (depth + 1) skip inner replaced →
        resolve scope (depth + 1) skip (spot.fill inner) = .ok (resolved.fill replaced)) ∧
      (∃ replaced, Replaces scope (depth + 1) skip inner replaced) ∧
      ((∀ e ∈ spot.site.heads, ¬ scope.Names e) →
        resolved.site.copies = spot.site.copies) := by
  rw [resolve] at h
  obtain ⟨first, node, last, hbefore, hnode, hafter, rfl⟩ := rebuildForest_between_iff.1 h
  obtain ⟨replaced, hreplaced⟩ := rebuild_within (within_iff_exists_fill.2 ⟨spot.site, rfl⟩) hnode
  obtain ⟨resolved, hresolved, hcopies⟩ := rebuild_fill hraw hreplaced hnode
  refine ⟨⟨first, resolved, last⟩, fun other replaced hother => ?_,
    ⟨replaced, replaces_iff.2 hreplaced⟩, hcopies⟩
  rw [resolve]
  exact rebuildForest_between_iff.2
    ⟨first, _, last, hbefore, hresolved other replaced (replaces_iff.1 hother), hafter, rfl⟩

theorem replaces_bare (content : Text) :
    Replaces scope (depth + 1) skip (Node.bare content) (Node.bare content) := by
  rw [replaces_iff, Node.bare, rebuild, rebuildForest]
  rfl

/-- Raw text takes the place of the element that names it. -/
theorem replaced_eq_bare {head : Element} {children : List Node} {name text : Text}
    {replaced : Node} (hname : head.name = some name) (hcount : head.count = none)
    (hskip : some name ≠ skip) (hlookup : scope.lookup name = some (.raw text))
    (h : Replaces scope (depth + 1) skip (.element head children) replaced) :
    replaced = Node.bare text := by
  obtain ⟨resolved, -, hrule⟩ := rebuild_element (replaces_iff.1 h)
  rw [snippetRule_raw hname hskip hrule hlookup, hcount]
  rfl

end

/-! ### Unrolling around a place -/

/-- A step that has a text put in, at `n` places of what it makes. What it takes from a budget
does not depend on the text, nor whether the budget suffices. -/
def Fills (run : Text → Nat → Option (List Tree × Nat)) (n : Nat) : Prop :=
  ∀ budget,
    (∀ content, Counter.hasNoToken content = true → run content budget = none) ∨
    ∃ forest rest, Stencil forest n ∧
      ∀ content, Counter.hasNoToken content = true →
        run content budget = some (forest content, rest)

theorem fills_fixed (run : Nat → Option (List Tree × Nat)) : Fills (fun _ => run) 0 := by
  intro budget
  cases hrun : run budget with
  | none => exact .inl fun _ _ => hrun
  | some result => exact .inr ⟨fun _ => result.1, result.2, .fixed _, fun _ _ => hrun⟩

theorem Fills.andThen {first second : Text → Nat → Option (List Tree × Nat)} {m n : Nat}
    (hfirst : Fills first m) (hsecond : Fills second n) :
    Fills (fun content => andThen (first content) (second content)) (m + n) := by
  intro budget
  obtain hshort | ⟨forest, left, hforest, hrun⟩ := hfirst budget
  · exact .inl fun content hcontent => by simp only [Markup.andThen, hshort content hcontent]
  · obtain hshort | ⟨more, rest, hmore, hrun'⟩ := hsecond left
    · refine .inl fun content hcontent => ?_
      simp only [Markup.andThen, hrun content hcontent, hshort content hcontent]
    · refine .inr ⟨_, rest, hforest.append hmore, fun content hcontent => ?_⟩
      simp only [Markup.andThen, hrun content hcontent, hrun' content hcontent]

/-- Copies have the text at the places of each. -/
theorem fills_forCopies {step : Counter → Text → Nat → Option (List Tree × Nat)} {n : Nat}
    (hstep : ∀ counter, Fills (step counter) n) (counters : List Counter) :
    Fills (fun content => forCopies (fun counter => step counter content) counters)
      (counters.length * n) := by
  induction counters with
  | nil =>
    rw [List.length_nil, Nat.zero_mul]
    exact fills_fixed _
  | cons counter rest ih =>
    rw [List.length_cons, Nat.succ_mul, Nat.add_comm]
    exact (hstep counter).andThen ih

section

variable {parent : Option Text} {counter : Counter}

/-- A text without counter tokens becomes a node as it is. -/
theorem unrollNode_bare {content : Text} (h : Counter.hasNoToken content = true) (budget : Nat) :
    unrollNode parent counter (Node.bare content) (budget + 1)
      = some ([.text content], budget) := by
  rw [Node.bare, unrollNode_element]
  show some ([Tree.text (counter.number content)], budget) = _
  rw [(counter.number_eq_self_iff content).2 h]

theorem fills_bare : Fills (fun content => unrollNode parent counter (Node.bare content)) 1 := by
  intro budget
  cases budget with
  | zero =>
    refine .inl fun content _ => ?_
    simp only [Node.bare, unrollNode_element]
    rfl
  | succ budget =>
    exact .inr ⟨_, budget, .leaf, fun content hcontent => unrollNode_bare hcontent budget⟩

/-- One copy of an element with the place below it. -/
theorem fills_elementCopy {head : Element} {children : Text → List Node} {n : Nat}
    (hchildren : ∀ content, (children content).isEmpty = false)
    (hbelow : ∀ parent, Fills (fun content => unroll parent counter (children content)) n) :
    Fills (fun content => elementCopy parent head (children content) counter)
      (if head.selfClosing then 0 else n) := by
  intro budget
  cases budget with
  | zero => exact .inl fun _ _ => rfl
  | succ budget =>
    -- With a child below it the element is not bare text, whatever was written on it.
    simp only [elementCopy, hchildren, Bool.and_false, Bool.false_eq_true, if_false]
    obtain hshort | ⟨forest, rest, hforest, hrun⟩ :=
      hbelow (some (elementName parent counter head)) budget
    · exact .inl fun content hcontent => by simp only [hshort content hcontent]
    · refine .inr ⟨_, rest, hforest.element (elementName parent counter head)
        (head.attributes.map (numberAttribute counter)) (head.text.map counter.number)
        head.selfClosing, fun content hcontent => ?_⟩
      simp only [hrun content hcontent]

/-- Nodes around a node are unrolled by themselves. -/
theorem fills_between {node : Text → Node} {n : Nat} (before after : List Node)
    (h : Fills (fun content => unrollNode parent counter (node content)) n) :
    Fills (fun content => unroll parent counter (before ++ node content :: after)) n := by
  simp only [unroll_append, unroll_cons]
  have hboth := (fills_fixed (unroll parent counter before)).andThen
    (h.andThen (fills_fixed (unroll parent counter after)))
  rwa [Nat.zero_add, Nat.add_zero] at hboth

end

/-- A place is unrolled to all its copies. -/
theorem fills_site (site : Site) (parent : Option Text) (counter : Counter) :
    Fills (fun content => unrollNode parent counter (site.fill (Node.bare content)))
      site.copies := by
  -- Both change on the way down: an element is the parent of what is below it, and every copy
  -- has a counter of its own.
  induction site generalizing parent counter with
  | here => exact fills_bare
  | under head before site after ih =>
    simp only [Site.fill, Site.copies, unrollNode_element]
    rw [← length_copies counter head.count]
    refine fills_forCopies (fun copy => fills_elementCopy (fun content => by simp) ?_) _
    exact fun parent => fills_between before after (ih parent copy)
  | inside before site after count ih =>
    simp only [Site.fill, Site.copies, unrollNode_group]
    rw [← length_copies counter count]
    exact fills_forCopies (fun copy => fills_between before after (ih parent copy)) _

/-! ### The output around a place -/

section

variable {grammar : Text} {registry : Registry} {options : ExpandOptions}

/-- If the budget suffices for one text, it does for each, and the output has the text at all
copies of the place. -/
theorem writeForest_fill {spot : Spot} {text output : Text}
    (htext : Counter.hasNoToken text = true)
    (h : writeForest grammar registry options (spot.fill (Node.bare text)) = .ok output) :
    ∃ pieces : List Text, pieces.length = spot.site.copies + 1 ∧
      ∀ content, Counter.hasNoToken content = true →
        writeForest grammar registry options (spot.fill (Node.bare content))
          = .ok (Text.join content pieces) := by
  have hspot : Fills (fun content => unroll none {} (spot.fill (Node.bare content)))
      spot.site.copies := fills_between spot.before spot.after (fills_site spot.site none {})
  obtain hshort | ⟨forest, rest, hforest, hrun⟩ := hspot maxNodes
  · simp only [writeForest, hshort text htext, reduceCtorEq] at h
  · obtain ⟨pieces, hlength, hwritten⟩ :=
      hforest.slotted_render (styleOf grammar registry options) (indentOf options)
    refine ⟨pieces, hlength, fun content hcontent => ?_⟩
    simp only [writeForest, hrun content hcontent, ← hwritten content]

/-- A text alone in a group is the output. -/
theorem writeForest_group {text : Text} (h : Counter.hasNoToken text = true) :
    writeForest grammar registry options [.group [Node.bare text] none] = .ok text := by
  rw [writeForest, unroll_group, unroll_singleton, maxNodes, unrollNode_bare h]
  simp [render, layout, allInline, isInline, inlineForest, inlineNode, Line.joined, Text.join,
    Text.times]

end

end Markup

end Shorthand
