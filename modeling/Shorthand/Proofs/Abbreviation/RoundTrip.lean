import Shorthand.Abbreviation.Views
import Shorthand.Proofs.Abbreviation.PrintedElement

/-!
# `Shorthand.Proofs.Abbreviation.RoundTrip`: a forest is read back

`parse_print`: every well-formed forest that nests at most `maxDepth` levels deep is the
parse of what `print` writes for it.

The parser works on a stack of frames, so the statement that goes through the induction
is about one frame. `readItem_print` says that reading a printed forest from any frame
comes to `readOperator` in the frame that has the forest read into it. That frame still
has the levels of the last children open. `climbBy_after` is the other half: the climbs
that the printer writes close exactly these.
-/

set_option autoImplicit false

namespace Shorthand

/-! ### Well-formed forests -/

namespace Node

mutual

/-- A node whose elements can be written and whose groups have members. -/
def WellFormed : Node → Prop
  | element head children => head.WellFormed ∧ ForestWellFormed children
  | group members count => members ≠ [] ∧ ForestWellFormed members ∧ CountFits count

/-- A forest of such nodes. -/
def ForestWellFormed : List Node → Prop
  | [] => True
  | node :: rest => node.WellFormed ∧ ForestWellFormed rest

end

end Node

namespace Abbreviation

open Text (takeWhile_append_run dropWhile_append_run isBlank_of_isDigit Trimmed)

/-! ### Where an item starts -/

/-- A character that an item can start with. -/
def isItemStart (c : Char) : Bool :=
  isNameChar c || c == '(' || c == '[' || c == '{' || c == '*' || c == '/'

/-- A text that starts like an item. -/
def StartsItem (t : Text) : Prop :=
  ∃ c rest, t = c :: rest ∧ isItemStart c = true

theorem StartsItem.append {s : Text} (h : StartsItem s) (t : Text) : StartsItem (s ++ t) := by
  obtain ⟨c, rest, rfl, hc⟩ := h
  exact ⟨c, rest ++ t, rfl, hc⟩

theorem StartsItem.head?_ne {t : Text} (h : StartsItem t) {x : Char}
    (hx : isItemStart x = false) : t.head? ≠ some x := by
  obtain ⟨c, rest, rfl, hc⟩ := h
  intro heq
  obtain rfl : c = x := by simpa using heq
  simp [hx] at hc

theorem startsItem_printElement {e : Element} (he : e.WellFormed) :
    StartsItem (printElement e) ∧ (printElement e).head? ≠ some '(' := by
  rw [printElement_eq]
  cases hname : e.name with
  | some name =>
    obtain ⟨c, rest, rfl⟩ := List.exists_cons_of_ne_nil (he.name_ne_nil name hname)
    have hc : isNameChar c = true := he.name_chars _ hname c (by simp)
    refine ⟨⟨c, rest ++ printParts e, rfl, by simp [isItemStart, hc]⟩, ?_⟩
    intro heq
    obtain rfl : c = '(' := by simpa using heq
    exact absurd hc (by decide)
  | none =>
    have hne := printParts_ne_nil he hname
    obtain ⟨c, rest, hparts⟩ := List.exists_cons_of_ne_nil hne
    have hstart : ∀ x ∈ (printParts e).head?, x = '[' ∨ x = '{' ∨ x = '*' ∨ x = '/' := by
      refine head?_append ?_ (head?_append ?_ (head?_append ?_ ?_))
      · cases e.attributes <;> simp [printAttributes]
      · cases e.text <;> simp [printBraced]
      · cases e.count <;> simp [printCount]
      · cases e.selfClosing <;> simp [printMark]
    rw [hparts] at hstart
    rw [Option.getD_none, List.nil_append, hparts]
    have hc := hstart c rfl
    refine ⟨⟨c, rest, rfl, ?_⟩, ?_⟩
    · rcases hc with rfl | rfl | rfl | rfl <;> decide
    · rcases hc with rfl | rfl | rfl | rfl <;> simp

theorem startsItem_printNode {node : Node} (h : node.WellFormed) :
    StartsItem (printNode node) := by
  cases node with
  | element head children =>
    rw [printNode]
    exact (startsItem_printElement h.1).1.append _
  | group members count =>
    rw [printNode]
    exact ⟨'(', _, rfl, by decide⟩

theorem startsItem_print {nodes : List Node} (hne : nodes ≠ [])
    (h : Node.ForestWellFormed nodes) : StartsItem (print nodes) := by
  match nodes, hne with
  | [node], _ =>
    rw [print]
    exact startsItem_printNode h.1
  | node :: next :: rest, _ =>
    rw [print, List.append_assoc]
    exact (startsItem_printNode h.1).append _

/-! ### The levels that a printed forest leaves open

Behind the children of an element the parser still stands on their level. `Frame.after`
is the frame in which it stands behind a node, and the climbs that the printer writes
lead from there to the frame that holds the finished node. -/

namespace Frame

mutual

/-- The frame behind a node that was read into a frame. -/
def after (f : Frame) : Node → Frame
  | .element head [] => f.push (.element head [])
  | .element head (child :: rest) =>
    afterForest (f.push (.element head [])).descend (child :: rest)
  | .group members count => f.push (.group members count)

/-- The frame behind a forest that was read into a frame. -/
def afterForest (f : Frame) : List Node → Frame
  | [] => f
  | [node] => after f node
  | node :: next :: rest => afterForest (f.push node) (next :: rest)

end

/-- Puts nodes at the end of the innermost level. -/
def pushAll (f : Frame) (nodes : List Node) : Frame :=
  { f with level := f.level ++ nodes }

theorem climbBy_succ (n : Nat) (f : Frame) : f.climbBy (n + 1) = (f.climbBy n).climb := by
  induction n generalizing f with
  | zero => rfl
  | succ n ih =>
    rw [climbBy, ih, climbBy]

end Frame

theorem openBelow_pos (child : Node) (rest : List Node) : 0 < openBelow (child :: rest) := by
  induction rest generalizing child with
  | nil => simp [openBelow]
  | cons next rest ih =>
    rw [openBelow]
    exact ih next

mutual

/-- The climbs behind a node lead to the frame that holds it. -/
theorem climbBy_after : (f : Frame) → (node : Node) →
    (f.after node).climbBy (openLevels node) = f.push node
  | f, .element head [] => by
    rw [Frame.after, openLevels, openBelow, Frame.climbBy]
  | f, .element head (child :: rest) => by
    have hlevels : openLevels (.element head (child :: rest))
        = openBelow (child :: rest) - 1 + 1 := by
      have := openBelow_pos child rest
      rw [openLevels]
      omega
    -- All climbs but one finish the children, and the last one folds them below the element.
    rw [Frame.after, hlevels, Frame.climbBy_succ, climbBy_afterForest _ _ (List.cons_ne_nil _ _)]
    show Frame.mk (Frame.foldInto (child :: rest) (f.level ++ [.element head []])) f.outer = _
    rw [foldInto_concat, Node.append, List.nil_append]
    rfl
  | f, .group members count => by
    rw [Frame.after, openLevels, Frame.climbBy]

/-- All but one of the climbs behind a forest lead to the frame that holds it. -/
theorem climbBy_afterForest : (f : Frame) → (nodes : List Node) → nodes ≠ [] →
    (f.afterForest nodes).climbBy (openBelow nodes - 1) = f.pushAll nodes
  | _, [], hne => absurd rfl hne
  | f, [node], _ => by
    rw [Frame.afterForest, openBelow, Nat.add_sub_cancel, climbBy_after f node]
    rfl
  | f, node :: next :: rest, _ => by
    rw [Frame.afterForest, openBelow,
      climbBy_afterForest (f.push node) (next :: rest) (List.cons_ne_nil _ _)]
    simp [Frame.pushAll, Frame.push]

end

/-- A forest that was read into an empty frame is the forest of the frame behind it. -/
theorem forest_afterForest {nodes : List Node} (hne : nodes ≠ []) :
    (Frame.afterForest {} nodes).forest = nodes := by
  rw [← Frame.forest_climbBy (openBelow nodes - 1), climbBy_afterForest _ nodes hne]
  rfl

/-! ### Reading back a forest -/

theorem followsItem_separator (node : Node) (t : Text) : FollowsItem (separator node ++ t) := by
  unfold separator
  split
  · exact followsItem_cons (by decide) t
  · rw [List.replicate_succ, List.cons_append]
    exact followsItem_cons (by decide) _

/-- Behind a separator the next item goes beside the finished node. -/
theorem readOperator_separator (enclosing : List Frame) (frame : Frame) (node : Node) {t : Text}
    (ht : t.head? ≠ some '^') :
    readOperator enclosing (frame.after node) (separator node ++ t)
      = readItem enclosing (frame.push node) t := by
  have hclimb := climbBy_after frame node
  have hstop : ∀ c ∈ t.head?, (c == '^') = false := by
    intro c hc
    simp only [beq_eq_false_iff_ne, ne_eq]
    rintro rfl
    exact ht hc
  unfold separator
  cases hlevels : openLevels node with
  | zero =>
    rw [hlevels, Frame.climbBy] at hclimb
    rw [hclimb, List.singleton_append, readOperator_sibling]
  | succ n =>
    -- The run of climbs is counted as a whole, so the next item must not go on with it.
    have hrun : ∀ c ∈ List.replicate n '^', (c == '^') = true := by
      intro c hc
      simp [List.eq_of_mem_replicate hc]
    rw [hlevels] at hclimb
    show readOperator enclosing (frame.after node) (List.replicate (n + 1) '^' ++ t) = _
    rw [List.replicate_succ, List.cons_append, readOperator_climb,
      takeWhile_append_run hrun hstop, dropWhile_append_run hrun hstop,
      List.length_replicate, hclimb]

theorem readRepeat_printCount {count : Option Nat} (hcount : CountFits count) {t : Text}
    (ht : FollowsItem t) : readRepeat (printCount count ++ t) = (count, t) := by
  cases count with
  | none =>
    apply readRepeat_of_ne
    intro heq
    exact absurd (ht '*' heq) (by decide)
  | some n =>
    obtain ⟨hpos, hle⟩ := hcount n rfl
    rw [printCount, List.cons_append, readRepeat,
      readCount_ofNat hpos hle (ht.stops isDigit_of_isOperator)]

mutual

/-- A printed node is read into the frame. -/
theorem readItem_printNode : (node : Node) → node.WellFormed →
    (enclosing : List Frame) → (frame : Frame) →
    totalDepth frame enclosing + node.depth ≤ maxDepth + 1 → (t : Text) → FollowsItem t →
    readItem enclosing frame (printNode node ++ t)
      = readOperator enclosing (frame.after node) t
  | .element head children, hwell, enclosing, frame, hdepth, t, ht => by
    rw [Node.depth] at hdepth
    have hroom : totalDepth frame enclosing ≤ maxDepth := by omega
    have hopen (u : Text) : (printElement head ++ u).head? ≠ some '(' := by
      obtain ⟨⟨c, rest, hprint, -⟩, hne⟩ := startsItem_printElement hwell.1
      rw [hprint] at hne ⊢
      exact hne
    cases children with
    | nil =>
      rw [printNode, List.isEmpty_nil, if_pos rfl, List.append_nil,
        readItem_element hroom (hopen t) (readElement_print hwell.1 ht), Frame.after]
    | cons child rest =>
      have hgreater : FollowsItem ('>' :: (print (child :: rest) ++ t)) :=
        followsItem_cons (by decide) _
      have hprint : printNode (.element head (child :: rest)) ++ t
          = printElement head ++ '>' :: (print (child :: rest) ++ t) := by
        simp [printNode]
      rw [hprint, readItem_element hroom (hopen _) (readElement_print hwell.1 hgreater),
        readOperator_child, readItem_print (child :: rest) (by simp) hwell.2, Frame.after]
      · rw [totalDepth_descend, totalDepth_push]
        omega
      · exact ht
  | .group members count, hwell, enclosing, frame, hdepth, t, ht => by
    obtain ⟨hne, hmembers, hcount⟩ := hwell
    rw [Node.depth] at hdepth
    have hroom : totalDepth frame enclosing ≤ maxDepth := by omega
    have hclose : FollowsItem (')' :: (printCount count ++ t)) := followsItem_cons (by decide) _
    have hprint : printNode (.group members count) ++ t
        = '(' :: (print members ++ ')' :: (printCount count ++ t)) := by
      simp [printNode]
    -- Inside the group there is one level more around and one level less to go.
    have hinside : totalDepth {} (frame :: enclosing) + Node.forestDepth members
        ≤ maxDepth + 1 := by
      rw [totalDepth_open]
      omega
    rw [hprint, readItem_open hroom, readItem_print members hne hmembers _ _ hinside _ hclose,
      readOperator_close, readRepeat_printCount hcount ht, forest_afterForest hne, Frame.after]

/-- A printed forest is read into the frame. -/
theorem readItem_print : (nodes : List Node) → nodes ≠ [] → Node.ForestWellFormed nodes →
    (enclosing : List Frame) → (frame : Frame) →
    totalDepth frame enclosing + Node.forestDepth nodes ≤ maxDepth + 1 → (t : Text) →
    FollowsItem t →
    readItem enclosing frame (print nodes ++ t)
      = readOperator enclosing (frame.afterForest nodes) t
  | [], hne, _, _, _, _, _, _ => absurd rfl hne
  | [node], _, hwell, enclosing, frame, hdepth, t, ht => by
    rw [Node.forestDepth, Node.forestDepth, Nat.max_zero] at hdepth
    rw [print, readItem_printNode node hwell.1 enclosing frame hdepth t ht, Frame.afterForest]
  | node :: next :: rest, _, hwell, enclosing, frame, hdepth, t, ht => by
    rw [Node.forestDepth] at hdepth
    have hnode : totalDepth frame enclosing + node.depth ≤ maxDepth + 1 := by omega
    have hrest : totalDepth (frame.push node) enclosing + Node.forestDepth (next :: rest)
        ≤ maxDepth + 1 := by
      rw [totalDepth_push]
      omega
    -- The next item starts with no climb, so the separator is all that is read as one.
    have hstart : (print (next :: rest) ++ t).head? ≠ some '^' :=
      ((startsItem_print (by simp) hwell.2).append t).head?_ne (by decide)
    rw [print, List.append_assoc, List.append_assoc,
      readItem_printNode node hwell.1 enclosing frame hnode _ (followsItem_separator _ _),
      readOperator_separator _ _ _ hstart,
      readItem_print (next :: rest) (by simp) hwell.2 enclosing _ hrest t ht, Frame.afterForest]

end

/-! ### Round trip -/

/-- A text that ends with no white space. -/
def EndsSolid (t : Text) : Prop :=
  ∀ c ∈ t.getLast?, Text.isBlank c = false

theorem EndsSolid.append {s t : Text} (hs : EndsSolid s) (ht : EndsSolid t) :
    EndsSolid (s ++ t) := by
  intro c hc
  rw [List.getLast?_append] at hc
  rcases Option.or_eq_some_iff.1 hc with h | ⟨-, h⟩
  · exact ht c h
  · exact hs c h

theorem endsSolid_concat (s : Text) {c : Char} (hc : Text.isBlank c = false) :
    EndsSolid (s ++ [c]) := by
  intro x hx
  obtain rfl : c = x := by simpa using hx
  exact hc

theorem endsSolid_of_forall {t : Text} (h : ∀ c ∈ t, Text.isBlank c = false) : EndsSolid t :=
  fun c hc => h c (List.mem_of_getLast? hc)

theorem endsSolid_printCount (count : Option Nat) : EndsSolid (printCount count) := by
  apply endsSolid_of_forall
  cases count with
  | none => simp [printCount]
  | some n =>
    intro c hc
    rcases List.mem_cons.1 hc with rfl | hc
    · decide
    · exact isBlank_of_isDigit (isDigit_of_mem_ofNat hc)

theorem endsSolid_printElement {e : Element} (he : e.WellFormed) :
    EndsSolid (printElement e) := by
  rw [printElement_eq]
  refine .append ?_ (.append ?_ (.append ?_ (.append ?_ ?_)))
  · apply endsSolid_of_forall
    cases hname : e.name with
    | none => simp
    | some name => exact fun c hc => isBlank_of_isNameChar (he.name_chars name hname c hc)
  · cases e.attributes with
    | nil => simp [EndsSolid, printAttributes]
    | cons a rest => exact endsSolid_concat _ (by decide)
  · cases e.text with
    | none => simp [EndsSolid, printBraced]
    | some text => exact endsSolid_concat _ (by decide)
  · exact endsSolid_printCount _
  · cases e.selfClosing with
    | false => simp [EndsSolid, printMark]
    | true => exact endsSolid_concat [] (by decide)

mutual

theorem endsSolid_printNode : (node : Node) → node.WellFormed → EndsSolid (printNode node)
  | .element head children, hwell => by
    rw [printNode]
    refine (endsSolid_printElement hwell.1).append ?_
    cases children with
    | nil => simp [EndsSolid]
    | cons child rest =>
      exact EndsSolid.append (s := ['>']) (endsSolid_concat [] (by decide))
        (endsSolid_print (child :: rest) hwell.2)
  | .group members count, _ => by
    rw [printNode]
    have hsplit : '(' :: print members ++ ')' :: printCount count
        = '(' :: print members ++ [')'] ++ printCount count := by simp
    rw [hsplit]
    exact (endsSolid_concat _ (by decide)).append (endsSolid_printCount count)

theorem endsSolid_print : (nodes : List Node) → Node.ForestWellFormed nodes →
    EndsSolid (print nodes)
  | [], _ => by simp [EndsSolid, print]
  | [node], hwell => by
    rw [print]
    exact endsSolid_printNode node hwell.1
  | node :: next :: rest, hwell => by
    have hseparator : EndsSolid (separator node) := by
      apply endsSolid_of_forall
      unfold separator
      split
      · simp; decide
      · intro c hc
        rw [List.eq_of_mem_replicate hc]
        decide
    rw [print]
    exact ((endsSolid_printNode node hwell.1).append hseparator).append
      (endsSolid_print (next :: rest) hwell.2)

end

/-- Every well-formed forest within the nesting limit is the parse of what is printed for
it. -/
theorem parse_print {nodes : List Node} (hne : nodes ≠ []) (hwell : Node.ForestWellFormed nodes)
    (hdepth : Node.forestDepth nodes ≤ maxDepth) : parse (print nodes) = .ok nodes := by
  obtain ⟨c, rest, hprint, hc⟩ := startsItem_print hne hwell
  have hblank : Text.isBlank c = false := by
    simp only [isItemStart, Bool.or_eq_true, beq_iff_eq] at hc
    rcases hc with ((((hc | rfl) | rfl) | rfl) | rfl) | rfl
    · exact isBlank_of_isNameChar hc
    all_goals decide
  have htrim : Trimmed (print nodes) := by
    refine ⟨?_, ?_, endsSolid_print nodes hwell⟩
    · simp [hprint]
    · simpa [hprint] using hblank
  have hread : readItem [] {} (print nodes) = .ok nodes := by
    have hroom : totalDepth {} [] + Node.forestDepth nodes ≤ maxDepth + 1 := by
      rw [totalDepth, Frame.depth, List.length_nil]
      omega
    have h := readItem_print nodes hne hwell [] {} hroom [] followsItem_nil
    rw [List.append_nil] at h
    rw [h, readOperator_nil, forest_afterForest hne]
  rw [parse_trimmed htrim, hread]

/-- A climb behind children, an escaped brace, a quoted value with a blank and a repeated
group. -/
def climbAndGroup : List Node := [
  .element { name := some "a" } [.element { text := some "\x7d" } []],
  .group [.element { attributes := [⟨"t", some "x y"⟩], selfClosing := true } []] (some 3)]

theorem parse_print_climbAndGroup : print climbAndGroup = "a>\x7b\\\x7d\x7d^([t=\"x y\"]/)*3" ∧
    parse (print climbAndGroup) = .ok climbAndGroup := by
  have hname : Element.WellFormed { name := some "a" } :=
    ⟨by simp, by simp, by simpa using (by decide), by simp, by simp, by simp [CountFits]⟩
  have htext : Element.WellFormed { text := some "\x7d" } :=
    ⟨by simp, by simp, by simp, by simp, by simp, by simp [CountFits]⟩
  have hattribute : Attribute.WellFormed ⟨"t", some "x y"⟩ :=
    ⟨by simp, by simpa using (by decide), by simp⟩
  have hmark : Element.WellFormed
      { attributes := [⟨"t", some "x y"⟩], selfClosing := true } :=
    ⟨by simp, by simp, by simp, by simpa using hattribute, by simp, by simp [CountFits]⟩
  have hwell : Node.ForestWellFormed climbAndGroup :=
    ⟨⟨hname, ⟨htext, trivial⟩, trivial⟩,
      ⟨by simp, ⟨⟨hmark, trivial⟩, trivial⟩, by simp [CountFits, maxRepeat]⟩, trivial⟩
  exact ⟨by decide, parse_print (by simp [climbAndGroup]) hwell (by decide)⟩

end Abbreviation

end Shorthand
