import Shorthand.Abbreviation.Views
import Shorthand.Proofs.Abbreviation.Tokens

/-!
# `Shorthand.Proofs.Abbreviation.Nesting`: how deep an abbreviation nests

The parser refuses an item when `maxDepth` levels are open around it. Each child operator
counts as one level there. What is built can be deeper: a group hands children to its last
member, so the children of a group stand below the group *and* below that member, and a
group that ends with a group goes further down. In `parse_groupChain` groups are children
of groups, and `n` of them above an element nest `2 * n + 1` levels deep.

What an abbreviation nests is known without building it. `itemLevels` runs over its tokens
and keeps a number for each open level in place of its nodes: how far down the last item
of the level passes its children on (`Node.reach`). Added up, they are the level of the
next item. `forestDepth_le_iff` says that this is exact: the forest stays within the limit
if and only if each item does. Where no child operator stands behind a group, both counts
are the same, so what the parser checks is enough.

## How the proof goes

`forest` is built when levels are folded, long after the items were read, so the parser's
frames have to be measured before they are folded. `whole` folds them at any time, as if
all groups ended there. Its depth changes by one step only, the push of a node
(`forestDepth_whole_push`): descending, climbing and closing a group leave it as it is.

Two things are needed of the frames of a run. A level that is folded needs a parent, since
without one it is dropped (`Frame.HasParents`). And it must not change how far down its parent
reaches. For a group without members it would, and `TakesChildren` rules them out. Both follow
from `Place.Fits`, which every step of a run keeps: a level is only opened behind an item.
-/

set_option autoImplicit false

namespace Shorthand

/-! ### Children of a node -/

namespace Node

mutual

/-- How far below the level of a node the children that it is given stand. A group hands
them to its last member. -/
def reach : Node → Nat
  | element _ _ => 1
  | group members _ => reachLast members + 1

/-- How far down the last of several nodes reaches. -/
def reachLast : List Node → Nat
  | [] => 0
  | [node] => reach node
  | _ :: next :: rest => reachLast (next :: rest)

end

mutual

/-- Children of this node end up below an element. -/
def TakesChildren : Node → Prop
  | element _ _ => True
  | group members _ => LastTakesChildren members

/-- There is a last node, and it takes children. -/
def LastTakesChildren : List Node → Prop
  | [] => False
  | [node] => TakesChildren node
  | _ :: next :: rest => LastTakesChildren (next :: rest)

end

theorem reachLast_concat (nodes : List Node) (node : Node) :
    reachLast (nodes ++ [node]) = reach node := by
  induction nodes with
  | nil => rfl
  | cons first rest ih =>
    cases rest with
    | nil => rfl
    | cons next rest => exact ih

theorem lastTakesChildren_concat {nodes : List Node} {node : Node} (h : TakesChildren node) :
    LastTakesChildren (nodes ++ [node]) := by
  induction nodes with
  | nil => exact h
  | cons first rest ih =>
    cases rest with
    | nil => exact h
    | cons next rest => exact ih

theorem LastTakesChildren.ne_nil {nodes : List Node} (h : LastTakesChildren nodes) :
    nodes ≠ [] := by
  rintro rfl
  exact h

/-- A node in front of others is not the last one. -/
theorem LastTakesChildren.cons {nodes : List Node} (h : LastTakesChildren nodes)
    (node : Node) :
    reachLast (node :: nodes) = reachLast nodes ∧ LastTakesChildren (node :: nodes) := by
  cases nodes with
  | nil => cases h
  | cons next rest => exact ⟨rfl, h⟩

theorem forestDepth_append (nodes more : List Node) :
    forestDepth (nodes ++ more) = max (forestDepth nodes) (forestDepth more) := by
  induction nodes with
  | nil =>
    show forestDepth more = max 0 (forestDepth more)
    omega
  | cons node rest ih =>
    show max (depth node) (forestDepth (rest ++ more)) = max (max _ _) _
    rw [ih]
    omega

mutual

/-- Children of a node stand below its reach, and all else stays where it is. -/
theorem depth_append (extra : List Node) : (node : Node) →
    depth (append extra node) = max (depth node) (reach node + forestDepth extra)
  | element head children => by
    show forestDepth (children ++ extra) + 1 = max (forestDepth children + 1) (1 + _)
    rw [forestDepth_append]
    omega
  | group members count => by
    show forestDepth (appendLast extra members) + 1
      = max (forestDepth members + 1) (reachLast members + 1 + _)
    rw [forestDepth_appendLast extra members]
    omega

theorem forestDepth_appendLast (extra : List Node) : (nodes : List Node) →
    forestDepth (appendLast extra nodes)
      = max (forestDepth nodes) (reachLast nodes + forestDepth extra)
  | [] => by
    show forestDepth extra = max 0 (0 + forestDepth extra)
    omega
  | [node] => by
    show max (depth (append extra node)) 0 = max (max (depth node) 0) (reach node + _)
    rw [depth_append extra node]
    omega
  | node :: next :: rest => by
    show max (depth node) (forestDepth (appendLast extra (next :: rest)))
      = max (max (depth node) (forestDepth (next :: rest))) (reachLast (next :: rest) + _)
    rw [forestDepth_appendLast extra (next :: rest)]
    omega

end

mutual

/-- More children do not change how far down a node reaches. -/
theorem reach_append (extra : List Node) : (node : Node) → TakesChildren node →
    reach (append extra node) = reach node ∧ TakesChildren (append extra node)
  | element _ _, _ => ⟨rfl, trivial⟩
  | group members _, h => by
    obtain ⟨hreach, htakes⟩ := reachLast_appendLast extra members h
    exact ⟨congrArg (· + 1) hreach, htakes⟩

theorem reachLast_appendLast (extra : List Node) : (nodes : List Node) →
    LastTakesChildren nodes → reachLast (appendLast extra nodes) = reachLast nodes ∧
      LastTakesChildren (appendLast extra nodes)
  | [], h => by cases h
  | [node], h => reach_append extra node h
  | node :: next :: rest, h => by
    obtain ⟨hreach, htakes⟩ := reachLast_appendLast extra (next :: rest) h
    obtain ⟨hcons, htakes'⟩ := htakes.cons node
    exact ⟨hcons.trans hreach, htakes'⟩

end

mutual

theorem append_nil : (node : Node) → append [] node = node
  | element head children => by
    show element head (children ++ []) = _
    rw [List.append_nil]
  | group members count => by
    show group (appendLast [] members) count = _
    rw [appendLast_nil members]

theorem appendLast_nil : (nodes : List Node) → appendLast [] nodes = nodes
  | [] => rfl
  | [node] => congrArg ([·]) (append_nil node)
  | node :: next :: rest => congrArg (node :: ·) (appendLast_nil (next :: rest))

end

end Node

namespace Abbreviation

open Text (Trimmed trimmed_of_ends)

/-! ### Frames before they are folded -/

/-- Levels around the innermost one of a frame, in the forest that is built. -/
def Frame.above (f : Frame) : Nat :=
  (f.outer.map Node.reachLast).sum

/-- Levels around the next item. Each open group is one itself. -/
def levelsAbove (frame : Frame) (enclosing : List Frame) : Nat :=
  frame.above + (enclosing.map fun f => f.above + 1).sum

/-- Each level around the innermost one has a node, under which the level inside it is folded. -/
def Frame.HasParents (f : Frame) : Prop :=
  ∀ up ∈ f.outer, up ≠ []

theorem Frame.foldInto_of_ne_nil (level : List Node) {up : List Node} (h : up ≠ []) :
    Frame.foldInto level up = Node.appendLast level up := by
  cases up with
  | nil => exact absurd rfl h
  | cons node rest => rfl

/-- A level without nodes folds into nothing. -/
theorem Frame.foldInto_nil (up : List Node) : Frame.foldInto [] up = up := by
  cases up with
  | nil => rfl
  | cons node rest => exact Node.appendLast_nil (node :: rest)

/-- All frames folded, as if the groups ended here. -/
def whole : List Frame → Frame → List Node
  | [], frame => frame.forest
  | next :: enclosing, frame => whole enclosing (next.push (.group frame.forest none))

/-- What is folded below some levels stands below all that their last nodes reach. -/
theorem forestDepth_foldOuter (level : List Node) {outer : List (List Node)}
    (houter : ∀ up ∈ outer, up ≠ []) :
    Node.forestDepth (Frame.foldOuter level outer)
      = max (Node.forestDepth (Frame.foldOuter [] outer))
          ((outer.map Node.reachLast).sum + Node.forestDepth level) := by
  induction outer generalizing level with
  | nil =>
    show Node.forestDepth level = max 0 (0 + Node.forestDepth level)
    omega
  | cons up outer ih =>
    obtain ⟨hup, houter⟩ := List.forall_mem_cons.1 houter
    have hnil : Node.forestDepth [] = 0 := rfl
    -- One fold further in, on both sides. With nothing to fold, `up` still counts as far as
    -- it reaches, which is within its own depth.
    rw [Frame.foldOuter, Frame.foldOuter, Frame.foldInto_of_ne_nil level hup,
      Frame.foldInto_of_ne_nil [] hup, ih (Node.appendLast level up) houter,
      ih (Node.appendLast [] up) houter, Node.forestDepth_appendLast, Node.forestDepth_appendLast,
      List.map_cons, List.sum_cons, hnil]
    omega

section

variable {frame : Frame} (hframe : frame.HasParents)
include hframe

theorem forestDepth_push (node : Node) :
    Node.forestDepth (frame.push node).forest
      = max (Node.forestDepth frame.forest) (frame.above + node.depth) := by
  have hnode : Node.forestDepth [node] = node.depth := Nat.max_zero _
  show Node.forestDepth (Frame.foldOuter (frame.level ++ [node]) frame.outer)
    = max (Node.forestDepth (Frame.foldOuter frame.level frame.outer)) _
  rw [forestDepth_foldOuter (frame.level ++ [node]) hframe,
    forestDepth_foldOuter frame.level hframe, Node.forestDepth_append, hnode, Frame.above]
  omega

/-- A node that is pushed adds its own levels below those around it. -/
theorem forestDepth_whole_push {enclosing : List Frame}
    (henclosing : ∀ f ∈ enclosing, f.HasParents) (node : Node) :
    Node.forestDepth (whole enclosing (frame.push node))
      = max (Node.forestDepth (whole enclosing frame))
          (levelsAbove frame enclosing + node.depth) := by
  induction enclosing generalizing frame node with
  | nil =>
    rw [whole, whole, forestDepth_push hframe]
    rfl
  | cons next enclosing ih =>
    obtain ⟨hnext, henclosing⟩ := List.forall_mem_cons.1 henclosing
    have hgroup (members : List Node) (count : Option Nat) :
        (Node.group members count).depth = Node.forestDepth members + 1 := rfl
    -- The frame around is given a group on both sides, before and after the push.
    rw [whole, whole, ih hnext henclosing, ih hnext henclosing, hgroup, hgroup,
      forestDepth_push hframe]
    simp only [levelsAbove, List.map_cons, List.sum_cons]
    omega

end

/-- The repeat of a group does not matter for its depth. -/
theorem forestDepth_whole_close {next : Frame} {enclosing : List Frame}
    (h : ∀ f ∈ next :: enclosing, f.HasParents) (frame : Frame) (count : Option Nat) :
    Node.forestDepth (whole enclosing (next.push (.group frame.forest count)))
      = Node.forestDepth (whole (next :: enclosing) frame) := by
  obtain ⟨hnext, henclosing⟩ := List.forall_mem_cons.1 h
  rw [whole, forestDepth_whole_push hnext henclosing, forestDepth_whole_push hnext henclosing]
  rfl

theorem forestDepth_whole_open {frame : Frame} {enclosing : List Frame}
    (h : ∀ f ∈ frame :: enclosing, f.HasParents) :
    Node.forestDepth (whole (frame :: enclosing) {})
      = max (Node.forestDepth (whole enclosing frame)) (levelsAbove frame enclosing + 1) := by
  obtain ⟨hframe, henclosing⟩ := List.forall_mem_cons.1 h
  rw [whole, forestDepth_whole_push hframe henclosing]
  rfl

/-- Of the innermost frame, only its forest matters. -/
theorem whole_congr {frame frame' : Frame} (h : frame.forest = frame'.forest)
    (enclosing : List Frame) : whole enclosing frame = whole enclosing frame' := by
  cases enclosing with
  | nil => exact h
  | cons next enclosing => rw [whole, whole, h]

theorem whole_descend (enclosing : List Frame) (frame : Frame) :
    whole enclosing frame.descend = whole enclosing frame := by
  refine whole_congr ?_ enclosing
  show Frame.foldOuter (Frame.foldInto [] frame.level) frame.outer = frame.forest
  rw [Frame.foldInto_nil]
  rfl

theorem whole_climbBy (enclosing : List Frame) (n : Nat) (frame : Frame) :
    whole enclosing (frame.climbBy n) = whole enclosing frame :=
  whole_congr (frame.forest_climbBy n) enclosing

/-! ### Levels counted from tokens -/

/-- A frame of numbers. For each level it has how far down the last item passes children
on, and zero for a level without items. -/
structure Gauge where
  last : Nat := 0
  outer : List Nat := []

namespace Gauge

/-- An item that passes children `reach` levels down. -/
def push (g : Gauge) (reach : Nat) : Gauge :=
  { g with last := reach }

/-- A level for children of the last item. -/
def descend (g : Gauge) : Gauge :=
  { last := 0, outer := g.last :: g.outer }

/-- The innermost level is folded, and its parent is the last item again. -/
def climb (g : Gauge) : Gauge :=
  match g.outer with
  | [] => g
  | up :: outer => { last := up, outer := outer }

/-- Folds `n` levels. -/
def climbBy : Nat → Gauge → Gauge
  | 0, g => g
  | n + 1, g => climbBy n g.climb

/-- The last item of the outermost level passes children this far. -/
def root (g : Gauge) : Nat :=
  g.outer.getLast?.getD g.last

theorem root_climb (g : Gauge) : g.climb.root = g.root := by
  obtain ⟨last, outer⟩ := g
  cases outer with
  | nil => rfl
  | cons up outer =>
    show outer.getLast?.getD up = (up :: outer).getLast?.getD last
    rw [List.getLast?_cons, Option.getD_some]

end Gauge

/-- The level of the next item: the levels around it in each frame, one for each open
group, and one for the item. -/
def itemLevel (gauge : Gauge) (enclosing : List Gauge) : Nat :=
  gauge.outer.sum + (enclosing.map fun g => g.outer.sum + 1).sum + 1

/-- The levels of the items of an abbreviation, elements and groups alike, in order. -/
def itemLevels (enclosing : List Gauge) (gauge : Gauge) : List Token → List Nat
  | [] => []
  | .element _ :: rest =>
    itemLevel gauge enclosing :: itemLevels enclosing (gauge.push 1) rest
  | .opening :: rest => itemLevel gauge enclosing :: itemLevels (gauge :: enclosing) {} rest
  | .closing _ :: rest =>
    match enclosing with
    | [] => []
    -- The group passes children on to the last of its members.
    | next :: enclosing => itemLevels enclosing (next.push (gauge.root + 1)) rest
  | .child :: rest => itemLevels enclosing gauge.descend rest
  | .sibling :: rest => itemLevels enclosing gauge rest
  | .climb n :: rest => itemLevels enclosing (gauge.climbBy n) rest

/-- The numbers of a frame. -/
def Frame.gauge (f : Frame) : Gauge :=
  { last := Node.reachLast f.level, outer := f.outer.map Node.reachLast }

theorem itemLevel_gauge (frame : Frame) (enclosing : List Frame) :
    itemLevel frame.gauge (enclosing.map Frame.gauge) = levelsAbove frame enclosing + 1 := by
  rw [itemLevel, levelsAbove, List.map_map]
  rfl

theorem gauge_push (frame : Frame) (node : Node) :
    (frame.push node).gauge = frame.gauge.push node.reach := by
  show Gauge.mk (Node.reachLast (frame.level ++ [node])) _ = _
  rw [Node.reachLast_concat]
  rfl

theorem gauge_descend (frame : Frame) : frame.descend.gauge = frame.gauge.descend := rfl

/-- The levels around the innermost one have items that take children. -/
def Frame.OuterTakes (f : Frame) : Prop :=
  ∀ up ∈ f.outer, Node.LastTakesChildren up

/-- So has the innermost one: an item was just read. -/
structure Frame.Takes (f : Frame) : Prop where
  level : Node.LastTakesChildren f.level
  outer : f.OuterTakes

theorem Frame.OuterTakes.hasParents {f : Frame} (h : f.OuterTakes) : f.HasParents :=
  fun up hup => (h up hup).ne_nil

theorem Frame.outerTakes_empty : Frame.OuterTakes {} := by
  intro up hup
  cases hup

theorem Frame.Takes.descend {f : Frame} (h : f.Takes) : f.descend.OuterTakes := by
  intro up hup
  rcases List.mem_cons.1 hup with rfl | hup
  · exact h.level
  · exact h.outer up hup

/-- A level that is folded does not change how far down its parent reaches. -/
theorem Frame.Takes.climb {f : Frame} (h : f.Takes) :
    f.climb.Takes ∧ f.climb.gauge = f.gauge.climb := by
  obtain ⟨level, outer⟩ := f
  cases outer with
  | nil => exact ⟨h, rfl⟩
  | cons up outer =>
    -- The parent takes children already, so more of them leave its reach as it is.
    have hup : Node.LastTakesChildren up := h.outer up List.mem_cons_self
    obtain ⟨hreach, htakes⟩ := Node.reachLast_appendLast level up hup
    rw [← Frame.foldInto_of_ne_nil level hup.ne_nil] at hreach htakes
    refine ⟨⟨htakes, fun x hx => h.outer x (List.mem_cons_of_mem up hx)⟩, ?_⟩
    show Gauge.mk (Node.reachLast (Frame.foldInto level up)) _ = Gauge.mk (Node.reachLast up) _
    rw [hreach]
    rfl

theorem Frame.Takes.climbBy (n : Nat) {f : Frame} (h : f.Takes) :
    (f.climbBy n).Takes ∧ (f.climbBy n).gauge = f.gauge.climbBy n := by
  induction n generalizing f with
  | zero => exact ⟨h, rfl⟩
  | succ n ih =>
    obtain ⟨htakes, hgauge⟩ := h.climb
    rw [Frame.climbBy, Gauge.climbBy, ← hgauge]
    exact ih htakes

/-- A finished frame reaches as far as the last item of its outermost level. -/
theorem Frame.Takes.forest {f : Frame} (h : f.Takes) :
    Node.LastTakesChildren f.forest ∧ Node.reachLast f.forest = f.gauge.root := by
  obtain ⟨level, outer⟩ := f
  induction outer generalizing level with
  | nil => exact ⟨h.level, rfl⟩
  | cons up outer ih =>
    -- The fold is a climb, and climbing does not change the outermost level.
    obtain ⟨htakes, hgauge⟩ := h.climb
    obtain ⟨hforest, hroot⟩ := ih (Frame.foldInto level up) htakes
    refine ⟨hforest, hroot.trans ?_⟩
    show (Frame.climb ⟨level, up :: outer⟩).gauge.root = _
    rw [hgauge, Gauge.root_climb]

/-! ### The run of the parser -/

/-- What holds of the frames of a run. Behind an item, the innermost level takes
children. -/
structure Place.Fits (place : Place) (enclosing : List Frame) (frame : Frame) : Prop where
  level : place = .operator → Node.LastTakesChildren frame.level
  outer : frame.OuterTakes
  enclosing : ∀ f ∈ enclosing, f.OuterTakes

theorem fits_empty : Place.item.Fits [] {} where
  level h' := by cases h'
  outer := Frame.outerTakes_empty
  enclosing _ hf := by cases hf

section

variable {enclosing : List Frame} {frame next : Frame}

theorem Place.Fits.hasParents {place : Place} (h : place.Fits enclosing frame) :
    ∀ f ∈ frame :: enclosing, f.HasParents :=
  List.forall_mem_cons.2 ⟨h.outer.hasParents, fun f hf => (h.enclosing f hf).hasParents⟩

theorem Place.Fits.takes (h : Place.operator.Fits enclosing frame) : frame.Takes :=
  ⟨h.level rfl, h.outer⟩

theorem Place.Fits.opening (h : Place.item.Fits enclosing frame) :
    Place.item.Fits (frame :: enclosing) {} where
  level h' := by cases h'
  outer := Frame.outerTakes_empty
  enclosing := List.forall_mem_cons.2 ⟨h.outer, h.enclosing⟩

theorem Place.Fits.element (h : Place.item.Fits enclosing frame) (e : Element) :
    Place.operator.Fits enclosing (frame.push (.element e [])) where
  level _ := Node.lastTakesChildren_concat trivial
  outer := h.outer
  enclosing := h.enclosing

theorem Place.Fits.child (h : Place.operator.Fits enclosing frame) :
    Place.item.Fits enclosing frame.descend where
  level h' := by cases h'
  outer := h.takes.descend
  enclosing := h.enclosing

theorem Place.Fits.sibling (h : Place.operator.Fits enclosing frame) :
    Place.item.Fits enclosing frame where
  level h' := by cases h'
  outer := h.outer
  enclosing := h.enclosing

theorem Place.Fits.climb (h : Place.operator.Fits enclosing frame) (n : Nat) :
    Place.item.Fits enclosing (frame.climbBy n) where
  level h' := by cases h'
  outer := (h.takes.climbBy n).1.outer
  enclosing := h.enclosing

theorem Place.Fits.closing (h : Place.operator.Fits (next :: enclosing) frame)
    (count : Option Nat) :
    Place.operator.Fits enclosing (next.push (.group frame.forest count)) where
  level _ := Node.lastTakesChildren_concat h.takes.forest.1
  outer := h.enclosing next List.mem_cons_self
  enclosing := (List.forall_mem_cons.1 h.enclosing).2

/-- A group that ends reaches one level further than the last of its members. -/
theorem gauge_closing (h : Place.operator.Fits (next :: enclosing) frame) (count : Option Nat) :
    (next.push (.group frame.forest count)).gauge = next.gauge.push (frame.gauge.root + 1) := by
  rw [gauge_push, ← h.takes.forest.2]
  rfl

end

/-- Every item of a run adds its level to what is built, and nothing else does. -/
theorem Run.forestDepth_eq {place : Place} {enclosing : List Frame} {frame : Frame}
    {tokens : List Token} {forest : List Node} (h : Run place enclosing frame tokens forest)
    (hfits : place.Fits enclosing frame) :
    Node.forestDepth forest
      = (itemLevels (enclosing.map Frame.gauge) frame.gauge tokens).foldl max
          (Node.forestDepth (whole enclosing frame)) := by
  induction h with
  | opening _ _ ih =>
    -- The group is one level at once, whatever its members will be.
    rw [ih hfits.opening, forestDepth_whole_open hfits.hasParents, itemLevels, List.foldl_cons,
      itemLevel_gauge]
    rfl
  | element e _ _ ih =>
    obtain ⟨hframe, henclosing⟩ := List.forall_mem_cons.1 hfits.hasParents
    rw [ih (hfits.element e), forestDepth_whole_push hframe henclosing, gauge_push, itemLevels,
      List.foldl_cons, itemLevel_gauge]
    rfl
  | finish frame => rfl
  | child _ ih => rw [ih hfits.child, whole_descend, gauge_descend, itemLevels]
  | sibling _ ih => rw [ih hfits.sibling, itemLevels]
  | climb n _ ih =>
    rw [ih (hfits.climb n), whole_climbBy, (hfits.takes.climbBy n).2, itemLevels]
  | closing count _ ih =>
    -- The group was counted when it was opened, so closing it adds nothing.
    obtain ⟨-, henclosing⟩ := List.forall_mem_cons.1 hfits.hasParents
    rw [ih (hfits.closing count), forestDepth_whole_close henclosing, gauge_closing hfits]
    rfl

/-! ### Where the parser's count is right -/

/-- Every level of a frame passes its children one level down, as an element does. -/
def Gauge.Plain (g : Gauge) : Prop :=
  ∀ reach ∈ g.outer, reach = 1

theorem Gauge.Plain.climbBy (n : Nat) {g : Gauge} (h : g.Plain) : (g.climbBy n).Plain := by
  induction n generalizing g with
  | zero => exact h
  | succ n ih =>
    refine ih ?_
    obtain ⟨last, outer⟩ := g
    cases outer with
    | nil => exact h
    | cons up outer => exact fun reach hreach => h reach (List.mem_cons_of_mem up hreach)

/-- With such levels the parser counts right. -/
theorem itemLevel_eq_totalDepth {enclosing : List Frame} {frame : Frame}
    (h : ∀ f ∈ frame :: enclosing, f.gauge.Plain) :
    itemLevel frame.gauge (enclosing.map Frame.gauge) = totalDepth frame enclosing := by
  -- A sum of ones is a count of levels.
  have habove : ∀ f ∈ frame :: enclosing, f.gauge.outer.sum + 1 = f.depth := by
    intro f hf
    rw [List.eq_replicate_of_mem (h f hf), List.sum_replicate_nat]
    simp [Frame.gauge, Frame.depth]
  obtain ⟨hframe, henclosing⟩ := List.forall_mem_cons.1 habove
  have hsum : (enclosing.map fun f => f.gauge.outer.sum + 1) = enclosing.map Frame.depth :=
    List.map_congr_left henclosing
  rw [totalDepth_eq, itemLevel, List.map_map, ← hframe, ← hsum]
  show _ + (enclosing.map fun f => f.gauge.outer.sum + 1).sum + 1 = _
  omega

/-- A child operator stands behind a group. -/
def HasGroupChildren (tokens : List Token) : Prop :=
  ∃ count, [.closing count, .child] <:+: tokens

theorem HasGroupChildren.cons {rest : List Token} (h : HasGroupChildren rest) (token : Token) :
    HasGroupChildren (token :: rest) := by
  obtain ⟨count, hinfix⟩ := h
  exact ⟨count, List.infix_cons hinfix⟩

/-- Without children of groups, the limit that the parser checks is kept. -/
theorem Run.itemLevels_le {place : Place} {enclosing : List Frame} {frame : Frame}
    {tokens : List Token} {forest : List Node} (h : Run place enclosing frame tokens forest)
    (hfits : place.Fits enclosing frame) (hplain : ∀ f ∈ frame :: enclosing, f.gauge.Plain)
    (hlast : place = .operator → tokens.head? = some .child → frame.gauge.last = 1)
    (hnone : ¬ HasGroupChildren tokens) :
    ∀ level ∈ itemLevels (enclosing.map Frame.gauge) frame.gauge tokens, level ≤ maxDepth := by
  induction h with
  | opening hdepth _ ih =>
    have hempty : Gauge.Plain (Frame.gauge {}) := by
      intro reach hreach
      cases hreach
    have hrest := ih hfits.opening (List.forall_mem_cons.2 ⟨hempty, hplain⟩)
      (fun hplace => by cases hplace) (fun hrest => hnone (hrest.cons _))
    rw [← itemLevel_eq_totalDepth hplain] at hdepth
    exact List.forall_mem_cons.2 ⟨hdepth, hrest⟩
  | element e hdepth _ ih =>
    obtain ⟨hframe, henclosing⟩ := List.forall_mem_cons.1 hplain
    have hrest := ih (hfits.element e) (List.forall_mem_cons.2 ⟨hframe, henclosing⟩)
      (fun _ _ => by rw [gauge_push]; rfl) (fun hrest => hnone (hrest.cons _))
    rw [← itemLevel_eq_totalDepth hplain] at hdepth
    rw [gauge_push] at hrest
    exact List.forall_mem_cons.2 ⟨hdepth, hrest⟩
  | finish frame =>
    intro level hlevel
    cases hlevel
  | child _ ih =>
    -- The operator stands behind an element, which is what `hlast` says.
    obtain ⟨hframe, henclosing⟩ := List.forall_mem_cons.1 hplain
    have hdescend : (Frame.gauge (Frame.descend _)).Plain :=
      List.forall_mem_cons.2 ⟨hlast rfl rfl, hframe⟩
    exact ih hfits.child (List.forall_mem_cons.2 ⟨hdescend, henclosing⟩)
      (fun hplace => by cases hplace) (fun hrest => hnone (hrest.cons _))
  | sibling _ ih =>
    exact ih hfits.sibling hplain (fun hplace => by cases hplace)
      (fun hrest => hnone (hrest.cons _))
  | climb n _ ih =>
    obtain ⟨hframe, henclosing⟩ := List.forall_mem_cons.1 hplain
    have hgauge := (hfits.takes.climbBy n).2
    have hclimb := hframe.climbBy n
    rw [← hgauge] at hclimb
    have hrest := ih (hfits.climb n) (List.forall_mem_cons.2 ⟨hclimb, henclosing⟩)
      (fun hplace => by cases hplace) (fun hrest => hnone (hrest.cons _))
    rw [hgauge] at hrest
    exact hrest
  | closing count _ ih =>
    obtain ⟨-, henclosing⟩ := List.forall_mem_cons.1 hplain
    obtain ⟨hnext, henclosing⟩ := List.forall_mem_cons.1 henclosing
    have hrest := ih (hfits.closing count) (List.forall_mem_cons.2 ⟨hnext, henclosing⟩) ?_
      (fun hrest => hnone (hrest.cons _))
    · rw [gauge_closing hfits] at hrest
      exact hrest
    · -- The group reaches further than one level, so no child operator may come next.
      intro _ hchild
      obtain ⟨rest, rfl⟩ := List.head?_eq_some_iff.1 hchild
      exact absurd ⟨count, [], rest, rfl⟩ hnone

theorem foldl_max_le_iff (levels : List Nat) (start bound : Nat) :
    levels.foldl max start ≤ bound ↔ start ≤ bound ∧ ∀ n ∈ levels, n ≤ bound := by
  induction levels generalizing start with
  | nil => simp
  | cons n rest ih =>
    rw [List.foldl_cons, ih, Nat.max_le, List.forall_mem_cons, and_assoc]

/-- An abbreviation that is read nests within the limit if and only if each of its items
does, where children of a group are counted below the member that takes them. Without
children of groups it always does. -/
theorem forestDepth_le_iff {abbreviation : Text} {forest : List Node}
    (h : parse abbreviation = .ok forest) :
    (Node.forestDepth forest ≤ maxDepth ↔
      ∀ level ∈ itemLevels [] {} (tokens abbreviation), level ≤ maxDepth) ∧
    (¬ HasGroupChildren (tokens abbreviation) → Node.forestDepth forest ≤ maxDepth) := by
  have hrun := run_of_parse h
  have hiff : Node.forestDepth forest ≤ maxDepth ↔
      ∀ level ∈ itemLevels [] {} (tokens abbreviation), level ≤ maxDepth := by
    -- Before the run there is nothing, which is within any limit.
    rw [hrun.forestDepth_eq fits_empty, foldl_max_le_iff]
    exact and_iff_right (Nat.zero_le maxDepth)
  refine ⟨hiff, fun hnone => hiff.2 ?_⟩
  have hplain : ∀ f ∈ [({} : Frame)], f.gauge.Plain := by
    intro f hf reach hreach
    obtain rfl := List.mem_singleton.1 hf
    cases hreach
  exact hrun.itemLevels_le fits_empty hplain (fun hplace => by cases hplace) hnone

/-! ### A chain of groups -/

/-- Groups of one element, each a child of the one before, and an element below them. -/
def groupChain : Nat → Text
  | 0 => ['a']
  | n + 1 => '(' :: 'a' :: ')' :: '>' :: groupChain n

/-- What they stand for. Each group is above its element, and that above the next group. -/
def groupChainForest : Nat → List Node
  | 0 => [.element { name := some ['a'] } []]
  | n + 1 => [.group [.element { name := some ['a'] } (groupChainForest n)] none]

theorem forestDepth_groupChainForest (n : Nat) :
    Node.forestDepth (groupChainForest n) = 2 * n + 1 := by
  induction n with
  | zero => rfl
  | succ n ih =>
    show max (max (Node.forestDepth (groupChainForest n) + 1) 0 + 1) 0 = _
    rw [ih]
    omega

/-- The parser counts one level for each group of the chain, where two are built. -/
theorem readItem_groupChain (n : Nat) (frame : Frame)
    (h : totalDepth frame [] + n ≤ maxDepth) :
    readItem [] frame (groupChain n)
      = .ok (Frame.foldOuter (frame.level ++ groupChainForest n) frame.outer) := by
  induction n generalizing frame with
  | zero =>
    rw [groupChain, readItem_element (by omega) (by simp) (readElement_letter followsItem_nil),
      readOperator_nil]
    rfl
  | succ n ih =>
    have hopen : totalDepth {} [frame] ≤ maxDepth := by
      rw [totalDepth_open]
      omega
    have hchild (node : Node) : totalDepth (frame.push node).descend [] + n ≤ maxDepth := by
      rw [totalDepth_descend, totalDepth_push]
      omega
    have helement : readElement ('a' :: ')' :: '>' :: groupChain n)
        = .ok ({ name := some ['a'] }, ')' :: '>' :: groupChain n) :=
      readElement_letter (followsItem_cons (by decide) _)
    rw [groupChain, readItem_open (by omega), readItem_element hopen (by simp) helement,
      readOperator_close, readRepeat_of_ne (by simp), readOperator_child, ih _ (hchild _)]
    -- The rest of the chain is folded below the element of the group that was just read.
    show Except.ok (Frame.foldOuter (Frame.foldInto (groupChainForest n)
      (frame.level ++ [.group [.element { name := some ['a'] } []] none])) frame.outer) = _
    rw [foldInto_concat]
    rfl

theorem trimmed_groupChain (n : Nat) : Trimmed (groupChain n) := by
  have hlast : (groupChain n).getLast? = some 'a' := by
    induction n with
    | zero => rfl
    | succ n ih =>
      rw [groupChain, List.getLast?_cons, List.getLast?_cons, List.getLast?_cons,
        List.getLast?_cons, ih]
      rfl
  cases n with
  | zero => exact trimmed_of_ends rfl (by decide) hlast (by decide)
  | succ n => exact trimmed_of_ends rfl (by decide) hlast (by decide)

/-- Up to the limit of the parser, a chain of `n` groups nests `2 * n + 1` levels deep. -/
theorem parse_groupChain {n : Nat} (h : n < maxDepth) :
    parse (groupChain n) = .ok (groupChainForest n) := by
  have hdepth : totalDepth {} [] + n ≤ maxDepth := by
    show 1 + n ≤ maxDepth
    omega
  rw [parse_trimmed (trimmed_groupChain n), readItem_groupChain n {} hdepth]
  rfl

/-- 32 groups in a chain nest deeper than the limit, and are read. -/
theorem maxDepth_lt_groupChain :
    ∃ forest, parse (groupChain 32) = .ok forest ∧ maxDepth < Node.forestDepth forest := by
  refine ⟨groupChainForest 32, parse_groupChain (by decide), ?_⟩
  rw [forestDepth_groupChainForest]
  decide

/-- With 31 groups every item is within the limit, and with one more an item is not. -/
theorem forestDepth_le_iff_groupChain :
    (∀ level ∈ itemLevels [] {} (tokens (groupChain 31)), level ≤ maxDepth) ∧
    ¬ ∀ level ∈ itemLevels [] {} (tokens (groupChain 32)), level ≤ maxDepth := by
  rw [← (forestDepth_le_iff (parse_groupChain (n := 31) (by decide))).1,
    ← (forestDepth_le_iff (parse_groupChain (n := 32) (by decide))).1,
    forestDepth_groupChainForest, forestDepth_groupChainForest]
  decide

end Abbreviation

end Shorthand
