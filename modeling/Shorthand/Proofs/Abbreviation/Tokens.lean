import Shorthand.Proofs.Abbreviation.Steps

/-!
# `Shorthand.Proofs.Abbreviation.Tokens`: what an abbreviation says, from left to right

The parser reads and builds at once. For what a statement says about the text alone, this
module reads without building: `tokens` gives the elements, brackets and operators of an
abbreviation in order, and keeps no levels. It reads with the same readers of elements and
repeats, so its tokens are those that the parser acts on, one step each.

The text is cut at the first place where no token stands. A successful parse gets to the
end, so nothing is lost where a statement assumes one. `Run` is such a parse, from any frames
and over tokens in place of text, with a rule for each step: invariants of the parser are
inductions on it.

- `run_of_read`: a forest that the parser returns is the end of a run over the tokens of the
  text, and the tokens are all of it (`Spells`);
- `run_of_parse`, `spells_of_parse`: the same for abbreviations.
-/

set_option autoImplicit false

namespace Shorthand

namespace Abbreviation

/-- One step of an abbreviation. -/
inductive Token where
  /-- An element with all its parts. -/
  | element (e : Element)
  /-- The start of a group. -/
  | opening
  /-- The end of a group, with its repeat. -/
  | closing (count : Option Nat)
  /-- Down to the children of the last item. -/
  | child
  /-- On to the next item of the same level. -/
  | sibling
  /-- Up by some levels. -/
  | climb (levels : Nat)
  deriving DecidableEq, Repr

mutual

/-- The tokens from where an item has to stand. -/
def itemTokens (s : Text) : List Token :=
  match s with
  | '(' :: rest => .opening :: itemTokens rest
  | s =>
    match _h : readElement s with
    | .error _ => []
    | .ok (e, rest) => .element e :: operatorTokens rest
termination_by s.length
decreasing_by
  · exact Nat.lt_succ_self _
  · exact readElement_length _h

/-- The tokens from after an item. -/
def operatorTokens (s : Text) : List Token :=
  match s with
  | '>' :: rest => .child :: itemTokens rest
  | '+' :: rest => .sibling :: itemTokens rest
  | '^' :: rest =>
    .climb ((rest.takeWhile (· == '^')).length + 1) :: itemTokens (rest.dropWhile (· == '^'))
  | ')' :: rest => .closing (readRepeat rest).1 :: operatorTokens (readRepeat rest).2
  | _ => []
termination_by s.length
decreasing_by
  · exact Nat.lt_succ_self _
  · exact Nat.lt_succ_self _
  · exact Nat.lt_succ_of_le (length_dropWhile_le (· == '^') rest)
  · exact Nat.lt_succ_of_le (readRepeat_length rest)

end

/-- The tokens of an abbreviation, white space around it aside. -/
def tokens (abbreviation : Text) : List Token :=
  itemTokens (Text.trim abbreviation)

/-! ### One token after another -/

theorem itemTokens_open (rest : Text) : itemTokens ('(' :: rest) = .opening :: itemTokens rest := by
  rw [itemTokens]

theorem itemTokens_element {s rest : Text} {e : Element} (hs : s.head? ≠ some '(')
    (he : readElement s = .ok (e, rest)) :
    itemTokens s = .element e :: operatorTokens rest := by
  rw [itemTokens.eq_def]
  split
  · simp at hs
  · split <;> rename_i heq <;> rw [he] at heq <;> cases heq
    rfl

theorem operatorTokens_nil : operatorTokens [] = [] := by
  rw [operatorTokens]
  all_goals simp

theorem operatorTokens_child (rest : Text) :
    operatorTokens ('>' :: rest) = .child :: itemTokens rest := by
  rw [operatorTokens]

theorem operatorTokens_sibling (rest : Text) :
    operatorTokens ('+' :: rest) = .sibling :: itemTokens rest := by
  rw [operatorTokens]

theorem operatorTokens_climb (rest : Text) :
    operatorTokens ('^' :: rest)
      = .climb ((rest.takeWhile (· == '^')).length + 1)
          :: itemTokens (rest.dropWhile (· == '^')) := by
  rw [operatorTokens]

theorem operatorTokens_close (rest : Text) :
    operatorTokens (')' :: rest)
      = .closing (readRepeat rest).1 :: operatorTokens (readRepeat rest).2 := by
  rw [operatorTokens]

/-! ### Runs that end well -/

/-- What the parser has to read next. -/
inductive Place where
  | item
  | operator
  deriving DecidableEq, Repr

/-- The run of the parser that reads some tokens from its frames and ends with a forest.
Each rule is one step, with all that the parser checks there. -/
inductive Run : Place → List Frame → Frame → List Token → List Node → Prop where
  | opening {enclosing frame rest forest} (hdepth : totalDepth frame enclosing ≤ maxDepth)
      (h : Run .item (frame :: enclosing) {} rest forest) :
      Run .item enclosing frame (.opening :: rest) forest
  | element {enclosing frame rest forest} (e : Element)
      (hdepth : totalDepth frame enclosing ≤ maxDepth)
      (h : Run .operator enclosing (frame.push (.element e [])) rest forest) :
      Run .item enclosing frame (.element e :: rest) forest
  | finish (frame : Frame) : Run .operator [] frame [] frame.forest
  | child {enclosing frame rest forest} (h : Run .item enclosing frame.descend rest forest) :
      Run .operator enclosing frame (.child :: rest) forest
  | sibling {enclosing frame rest forest} (h : Run .item enclosing frame rest forest) :
      Run .operator enclosing frame (.sibling :: rest) forest
  | climb {enclosing frame rest forest} (n : Nat)
      (h : Run .item enclosing (frame.climbBy n) rest forest) :
      Run .operator enclosing frame (.climb n :: rest) forest
  | closing {enclosing frame next rest forest} (count : Option Nat)
      (h : Run .operator enclosing (next.push (.group frame.forest count)) rest forest) :
      Run .operator (next :: enclosing) frame (.closing count :: rest) forest

/-- A text is made of tokens, from one end to the other. -/
inductive Spells : Place → Text → List Token → Prop where
  | opening {rest tokens} (h : Spells .item rest tokens) :
      Spells .item ('(' :: rest) (.opening :: tokens)
  | element {s rest e tokens} (hs : s.head? ≠ some '(') (he : readElement s = .ok (e, rest))
      (h : Spells .operator rest tokens) : Spells .item s (.element e :: tokens)
  | finish : Spells .operator [] []
  | child {rest tokens} (h : Spells .item rest tokens) :
      Spells .operator ('>' :: rest) (.child :: tokens)
  | sibling {rest tokens} (h : Spells .item rest tokens) :
      Spells .operator ('+' :: rest) (.sibling :: tokens)
  | climb {rest tokens} (h : Spells .item (rest.dropWhile (· == '^')) tokens) :
      Spells .operator ('^' :: rest)
        (.climb ((rest.takeWhile (· == '^')).length + 1) :: tokens)
  | closing {rest tokens} (h : Spells .operator (readRepeat rest).2 tokens) :
      Spells .operator (')' :: rest) (.closing (readRepeat rest).1 :: tokens)

/-- Whatever the parser returns, it returns at the end of such a run over the tokens of its
text, and these tokens are all of the text. -/
theorem run_of_read :
    (∀ enclosing frame s forest, readItem enclosing frame s = .ok forest →
      Run .item enclosing frame (itemTokens s) forest ∧ Spells .item s (itemTokens s)) ∧
    (∀ enclosing frame s forest, readOperator enclosing frame s = .ok forest →
      Run .operator enclosing frame (operatorTokens s) forest ∧
        Spells .operator s (operatorTokens s)) := by
  refine readItem.mutual_induct
    (fun enclosing frame s => ∀ forest, readItem enclosing frame s = .ok forest →
      Run .item enclosing frame (itemTokens s) forest ∧ Spells .item s (itemTokens s))
    (fun enclosing frame s => ∀ forest, readOperator enclosing frame s = .ok forest →
      Run .operator enclosing frame (operatorTokens s) forest ∧
        Spells .operator s (operatorTokens s))
    ?deep ?opening ?badElement ?element ?finished ?unclosed ?child ?sibling ?climb ?extraClose
    ?close ?other
  -- Five of the cases are errors and have nothing to show.
  case deep =>
    intro enclosing frame s hdepth forest hread
    rw [readItem_tooDeep hdepth] at hread
    cases hread
  case opening =>
    intro enclosing frame hdepth rest ih forest hread
    rw [readItem_open (Nat.not_lt.1 hdepth)] at hread
    obtain ⟨hrun, hspells⟩ := ih forest hread
    rw [itemTokens_open]
    exact ⟨.opening (Nat.not_lt.1 hdepth) hrun, .opening hspells⟩
  case badElement =>
    intro enclosing frame hdepth s hbracket stop herror forest hread
    rw [readItem_error (Nat.not_lt.1 hdepth) (head?_ne_of_forall hbracket) herror] at hread
    cases hread
  case element =>
    intro enclosing frame hdepth s hbracket e rest helement ih forest hread
    have hhead := head?_ne_of_forall hbracket
    rw [readItem_element (Nat.not_lt.1 hdepth) hhead helement] at hread
    obtain ⟨hrun, hspells⟩ := ih forest hread
    rw [itemTokens_element hhead helement]
    exact ⟨.element e (Nat.not_lt.1 hdepth) hrun, .element hhead helement hspells⟩
  case finished =>
    intro frame forest hread
    rw [readOperator_nil] at hread
    cases hread
    rw [operatorTokens_nil]
    exact ⟨.finish frame, .finish⟩
  case unclosed =>
    intro frame next enclosing forest hread
    rw [readOperator_unclosed] at hread
    cases hread
  case child =>
    intro enclosing frame rest ih forest hread
    rw [readOperator_child] at hread
    obtain ⟨hrun, hspells⟩ := ih forest hread
    rw [operatorTokens_child]
    exact ⟨.child hrun, .child hspells⟩
  case sibling =>
    intro enclosing frame rest ih forest hread
    rw [readOperator_sibling] at hread
    obtain ⟨hrun, hspells⟩ := ih forest hread
    rw [operatorTokens_sibling]
    exact ⟨.sibling hrun, .sibling hspells⟩
  case climb =>
    intro enclosing frame rest ih forest hread
    rw [readOperator_climb] at hread
    obtain ⟨hrun, hspells⟩ := ih forest hread
    rw [operatorTokens_climb]
    exact ⟨.climb _ hrun, .climb hspells⟩
  case extraClose =>
    intro frame rest forest hread
    rw [readOperator_extraClose] at hread
    cases hread
  case close =>
    intro frame rest next enclosing ih forest hread
    rw [readOperator_close] at hread
    obtain ⟨hrun, hspells⟩ := ih forest hread
    rw [operatorTokens_close]
    exact ⟨.closing _ hrun, .closing hspells⟩
  case other =>
    intro enclosing frame s hnil hchild hsibling hclimb hclose forest hread
    obtain ⟨c, rest, rfl⟩ := List.exists_cons_of_ne_nil hnil
    rw [readOperator_other (isOperator_of_forall hchild hsibling hclimb hclose)] at hread
    cases hread

theorem readItem_of_parse_ok {abbreviation : Text} {forest : List Node}
    (h : parse abbreviation = .ok forest) :
    readItem [] {} (Text.trim abbreviation) = .ok forest := by
  unfold parse at h
  dsimp only at h
  split at h
  · cases h
  · split at h
    · cases h
    · rename_i hread
      cases h
      exact hread

/-- The forest of an abbreviation is the end of a run over its tokens. -/
theorem run_of_parse {abbreviation : Text} {forest : List Node}
    (h : parse abbreviation = .ok forest) : Run .item [] {} (tokens abbreviation) forest :=
  (run_of_read.1 [] {} _ forest (readItem_of_parse_ok h)).1

/-- Nothing of an abbreviation stands outside its tokens. -/
theorem spells_of_parse {abbreviation : Text} {forest : List Node}
    (h : parse abbreviation = .ok forest) :
    Spells .item (Text.trim abbreviation) (tokens abbreviation) :=
  (run_of_read.1 [] {} _ forest (readItem_of_parse_ok h)).2

end Abbreviation

end Shorthand
