import Shorthand.Proofs.Abbreviation.Nesting

/-!
# `Shorthand.Proofs.Abbreviation.Traversal`: the elements of a forest are those of the text

The parser reads elements from left to right and moves them about before they are a forest: an
element waits on its level, a level is folded below its parent, and a group hands children down
to its last member. `forestElements_parse` says that none of this loses an element, doubles one
or changes their order. Read from the top and from left to right, the forest has the elements
of the text.

Which elements a text has is known from its tokens. `tokens` computes them, and `Spells` says of
them that nothing of the text is left out: each token stands where the one before it ends, an
element is what `readElement` reads there, and the last token ends where the text ends.

The proof looks at the frames of the parser folded together, as if all groups ended there
(`whole`). Only a push changes the elements of that forest, and it puts those of one node behind
all others, since everything that is folded afterwards goes below the last node
(`forestElements_foldOuter`). A level without such a node would lose what is folded into it. In a
run every level has one, because a level is opened behind an item (`Place.Fits`).
-/

set_option autoImplicit false

namespace Shorthand

/-! ### Elements of a forest -/

namespace Node

theorem forestElements_append (nodes more : List Node) :
    forestElements (nodes ++ more) = forestElements nodes ++ forestElements more := by
  induction nodes with
  | nil => rfl
  | cons node rest ih =>
    show elements node ++ forestElements (rest ++ more) = elements node ++ _ ++ _
    rw [ih, List.append_assoc]

theorem forestElements_singleton (node : Node) : forestElements [node] = elements node :=
  List.append_nil _

mutual

/-- Children of a node come behind all that it has. -/
theorem elements_append (extra : List Node) : (node : Node) →
    elements (append extra node) = elements node ++ forestElements extra
  | element head children => by
    show head :: forestElements (children ++ extra) = head :: (forestElements children ++ _)
    rw [forestElements_append]
  | group members count => forestElements_appendLast extra members

theorem forestElements_appendLast (extra : List Node) : (nodes : List Node) →
    forestElements (appendLast extra nodes) = forestElements nodes ++ forestElements extra
  | [] => rfl
  | [node] => by
    rw [appendLast, forestElements_singleton, forestElements_singleton]
    exact elements_append extra node
  | node :: next :: rest => by
    show elements node ++ forestElements (appendLast extra (next :: rest))
      = elements node ++ forestElements (next :: rest) ++ _
    rw [forestElements_appendLast extra (next :: rest), List.append_assoc]

end

end Node

namespace Abbreviation

/-! ### The run of the parser -/

/-- The element that a token is, when it is one. -/
def Token.element? : Token → Option Element
  | .element e => some e
  | _ => none

/-- What waits on the innermost level comes behind what waits around it. -/
theorem forestElements_foldOuter (level : List Node) {outer : List (List Node)}
    (houter : ∀ up ∈ outer, up ≠ []) :
    Node.forestElements (Frame.foldOuter level outer)
      = Node.forestElements (Frame.foldOuter [] outer) ++ Node.forestElements level := by
  induction outer generalizing level with
  | nil => rfl
  | cons up outer ih =>
    obtain ⟨hup, houter⟩ := List.forall_mem_cons.1 houter
    rw [Frame.foldOuter, Frame.foldOuter, Frame.foldInto_nil, Frame.foldInto_of_ne_nil level hup,
      ih (Node.appendLast level up) houter, ih up houter, Node.forestElements_appendLast,
      List.append_assoc]

section

variable {frame : Frame} (hframe : frame.HasParents)
include hframe

theorem forestElements_push (node : Node) :
    Node.forestElements (frame.push node).forest
      = Node.forestElements frame.forest ++ node.elements := by
  show Node.forestElements (Frame.foldOuter (frame.level ++ [node]) frame.outer)
    = Node.forestElements (Frame.foldOuter frame.level frame.outer) ++ _
  rw [forestElements_foldOuter (frame.level ++ [node]) hframe,
    forestElements_foldOuter frame.level hframe, Node.forestElements_append,
    Node.forestElements_singleton, List.append_assoc]

/-- A node that is pushed comes last, whatever groups are open around it. -/
theorem forestElements_whole_push {enclosing : List Frame}
    (henclosing : ∀ f ∈ enclosing, f.HasParents) (node : Node) :
    Node.forestElements (whole enclosing (frame.push node))
      = Node.forestElements (whole enclosing frame) ++ node.elements := by
  induction enclosing generalizing frame node with
  | nil => exact forestElements_push hframe node
  | cons next enclosing ih =>
    obtain ⟨hnext, henclosing⟩ := List.forall_mem_cons.1 henclosing
    have hgroup (members : List Node) (count : Option Nat) :
        (Node.group members count).elements = Node.forestElements members := rfl
    rw [whole, whole, ih hnext henclosing, ih hnext henclosing, hgroup, hgroup,
      forestElements_push hframe, List.append_assoc]

end

/-- A run adds the elements of its tokens to those that its frames have. -/
theorem Run.forestElements_eq {place : Place} {enclosing : List Frame} {frame : Frame}
    {tokens : List Token} {forest : List Node} (h : Run place enclosing frame tokens forest)
    (hfits : place.Fits enclosing frame) :
    Node.forestElements forest
      = Node.forestElements (whole enclosing frame) ++ tokens.filterMap Token.element? := by
  induction h with
  | @opening enclosing frame rest forest _ _ ih =>
    obtain ⟨hframe, henclosing⟩ := List.forall_mem_cons.1 hfits.hasParents
    -- The group is still empty.
    have hopen : Node.forestElements (whole (frame :: enclosing) {})
        = Node.forestElements (whole enclosing frame) := by
      rw [whole, forestElements_whole_push hframe henclosing]
      exact List.append_nil _
    rw [ih hfits.opening, hopen]
    rfl
  | element e _ _ ih =>
    obtain ⟨hframe, henclosing⟩ := List.forall_mem_cons.1 hfits.hasParents
    rw [ih (hfits.element e), forestElements_whole_push hframe henclosing, List.append_assoc]
    rfl
  | finish frame => exact (List.append_nil _).symm
  | child _ ih =>
    rw [ih hfits.child, whole_descend]
    rfl
  | sibling _ ih => exact ih hfits.sibling
  | climb n _ ih =>
    rw [ih (hfits.climb n), whole_climbBy]
    rfl
  | @closing enclosing frame next rest forest count _ ih =>
    obtain ⟨-, henclosing⟩ := List.forall_mem_cons.1 hfits.hasParents
    obtain ⟨hnext, henclosing⟩ := List.forall_mem_cons.1 henclosing
    -- The members were there before the group was closed.
    have hclose : Node.forestElements (whole enclosing (next.push (.group frame.forest count)))
        = Node.forestElements (whole (next :: enclosing) frame) := by
      rw [whole, forestElements_whole_push hnext henclosing,
        forestElements_whole_push hnext henclosing]
      rfl
    rw [ih (hfits.closing count), hclose]
    rfl

/-- The parser loses, doubles and reorders nothing. The tokens of an abbreviation that is
parsed make up all of its text, and its forest, each element before those below it and through
groups as through children, has the elements among these tokens in their order. -/
theorem forestElements_parse {abbreviation : Text} {forest : List Node}
    (h : parse abbreviation = .ok forest) :
    Spells .item (Text.trim abbreviation) (tokens abbreviation) ∧
    Node.forestElements forest = (tokens abbreviation).filterMap Token.element? :=
  ⟨spells_of_parse h, (run_of_parse h).forestElements_eq fits_empty⟩

/-- A group that takes a child, and a way up that ends at the root. -/
theorem forestElements_parse_groupChild : ∃ forest,
    parse "ul>(li>a^b)>i^^^p" = .ok forest ∧
    Node.forestElements forest
      = ["ul", "li", "a", "b", "i", "p"].map fun name : String => { name := some name } := by
  have hok : (parse "ul>(li>a^b)>i^^^p").isOk = true := by decide +kernel
  cases hparse : parse "ul>(li>a^b)>i^^^p" with
  | error e =>
    rw [hparse] at hok
    cases hok
  | ok forest =>
    exact ⟨forest, rfl, (forestElements_parse hparse).2.trans (by decide +kernel)⟩

end Abbreviation

end Shorthand
