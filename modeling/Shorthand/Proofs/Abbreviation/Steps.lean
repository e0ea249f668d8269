import Mathlib.Algebra.GroupWithZero.Nat
import Shorthand.Abbreviation.Parser
import Shorthand.Proofs.Text.Runs

/-!
# `Shorthand.Proofs.Abbreviation.Steps`: the parser step by step

What the proofs about abbreviations share. White space around an abbreviation does not
matter (`parse_trim`). An item ends before an operator, the end of a group or the end of the
text (`FollowsItem`).

`readItem` and `readOperator` are given one equation for each character they look at, so
that no later proof has to open them.
-/

set_option autoImplicit false

namespace Shorthand

namespace Abbreviation

open Text (Settles Trimmed takeWhile_append_of_settles dropWhile_append_of_settles
  takeWhile_append_run dropWhile_append_run trim_eq_self trimmed_trim isBlank_of_class)

/-! ### White space -/

/-- Without white space at its ends, an abbreviation is read as it is. -/
theorem parse_trimmed {s : Text} (h : Trimmed s) :
    parse s = match readItem [] {} s with
      | .error stop => .error (stop.toError s.length)
      | .ok forest => .ok forest := by
  unfold parse
  rw [trim_eq_self h]
  exact if_neg h.ne_nil

theorem parse_trim {s : Text} (h : Text.trim s ≠ []) : parse (Text.trim s) = parse s := by
  rw [parse, parse, trim_eq_self (trimmed_trim h)]

-- Letters and digits are a table of ranges, so this looks up 25 scalar values and no more.
theorem isBlank_of_isNameChar {c : Char} (h : isNameChar c = true) : Text.isBlank c = false :=
  isBlank_of_class (by decide +kernel) h

/-! ### Behind an item -/

/-- An operator, or the end of a group. -/
def isOperator (c : Char) : Bool :=
  c == '>' || c == '+' || c == '^' || c == ')'

/-- A text that may stand behind an item: it is empty, or it starts with an operator or the
end of a group. -/
def FollowsItem (t : Text) : Prop :=
  ∀ c ∈ t.head?, isOperator c = true

theorem followsItem_nil : FollowsItem [] := by
  simp [FollowsItem]

theorem followsItem_cons {c : Char} (hc : isOperator c = true) (rest : Text) :
    FollowsItem (c :: rest) := by
  simpa [FollowsItem] using hc

/-- A class without operators stops before a text that may stand behind an item. -/
theorem FollowsItem.stops {p : Char → Bool} {t : Text} (h : FollowsItem t)
    (hp : ∀ c, isOperator c = true → p c = false) : ∀ c ∈ t.head?, p c = false :=
  fun c hc => hp c (h c hc)

theorem isNameChar_of_isOperator (c : Char) (hc : isOperator c = true) :
    isNameChar c = false := by
  simp only [isOperator, Bool.or_eq_true, beq_iff_eq] at hc
  rcases hc with ((rfl | rfl) | rfl) | rfl <;> decide

theorem isDigit_of_isOperator (c : Char) (hc : isOperator c = true) :
    Text.isDigit c = false := by
  simp only [isOperator, Bool.or_eq_true, beq_iff_eq] at hc
  rcases hc with ((rfl | rfl) | rfl) | rfl <;> decide

/-- An element has no part that starts with an operator. -/
theorem readParts_followsItem (e : Element) {t : Text} (h : FollowsItem t) :
    readParts e t = .ok (e, t) := by
  cases t with
  | nil => rw [readParts]
  | cons c rest =>
    have hc : isOperator c = true := by simpa [FollowsItem] using h
    simp only [isOperator, Bool.or_eq_true, beq_iff_eq] at hc
    rcases hc with ((rfl | rfl) | rfl) | rfl <;> rw [readParts] <;> simp

/-! ### Attributes -/

theorem readValue_bare {c : Char} (hdouble : c ≠ '"') (hsingle : c ≠ '\'') (hbrace : c ≠ '{')
    (rest : Text) :
    readValue (c :: rest)
      = .ok ((c :: rest).takeWhile isBareValueChar, (c :: rest).dropWhile isBareValueChar) := by
  rw [readValue, if_neg (by simp [hdouble, hsingle]), if_neg hbrace]

theorem readValue_quote {c : Char} (hc : c = '"' ∨ c = '\'') {s after : Text} {last : Char}
    (hs : s.dropWhile (· != c) = last :: after) :
    readValue (c :: s) = .ok (s.takeWhile (· != c), after) := by
  rw [readValue, if_pos hc, hs]

theorem readValue_braces {s text after : Text} (hs : readText 0 s = some (text, after)) :
    readValue ('{' :: s) = .ok ('{' :: text ++ ['}'], after) := by
  rw [readValue, if_neg (by decide), if_pos rfl, hs]

section

variable {attributes : List Attribute} {s rest : Text} {c : Char}

theorem readAttributes_end (hs : s.dropWhile Text.isBlank = []) :
    readAttributes attributes s = .error (.unclosed '[') := by
  rw [readAttributes]
  split
  · rfl
  · rename_i heq
    cases hs.symm.trans heq

theorem readAttributes_close (hs : s.dropWhile Text.isBlank = ']' :: rest) :
    readAttributes attributes s = .ok (attributes, rest) := by
  rw [readAttributes]
  split <;> rename_i heq <;> rw [hs] at heq <;> cases heq
  rw [if_pos rfl]

theorem readAttributes_unexpected (hs : s.dropWhile Text.isBlank = c :: rest) (hc : c ≠ ']')
    (hn : (c :: rest).takeWhile isAttributeChar = []) :
    readAttributes attributes s = .error (.unexpected (c :: rest)) := by
  rw [readAttributes]
  split <;> rename_i heq <;> rw [hs] at heq <;> cases heq
  rw [if_neg hc]
  split
  · rfl
  · rename_i heq
    cases hn.symm.trans heq

/-- A name that no equals sign follows. -/
theorem readAttributes_bare {name after : Text} (hs : s.dropWhile Text.isBlank = c :: rest)
    (hc : c ≠ ']') (hname : name ≠ []) (hn : (c :: rest).takeWhile isAttributeChar = name)
    (ha : (c :: rest).dropWhile isAttributeChar = after) (hafter : after.head? ≠ some '=') :
    readAttributes attributes s
      = readAttributes (Attribute.set name none attributes) after := by
  rw [readAttributes]
  split <;> rename_i heq <;> rw [hs] at heq <;> cases heq
  rw [if_neg hc]
  split
  · rename_i heq
    exact absurd (hn.symm.trans heq) hname
  · rename_i n ns heq
    obtain rfl := hn.symm.trans heq
    -- At the end of the text and before another character, the reader goes on alike.
    split
    · rename_i heq
      rw [← ha, heq]
    · rename_i a tail heq
      obtain rfl := ha.symm.trans heq
      rw [if_neg (by simpa using hafter)]

/-- A name that an equals sign and a value follow. -/
theorem readAttributes_value {name after value after' : Text}
    (hs : s.dropWhile Text.isBlank = c :: rest) (hc : c ≠ ']') (hname : name ≠ [])
    (hn : (c :: rest).takeWhile isAttributeChar = name)
    (ha : (c :: rest).dropWhile isAttributeChar = '=' :: after)
    (hv : readValue after = .ok (value, after')) :
    readAttributes attributes s
      = readAttributes (Attribute.set name (some value) attributes) after' := by
  rw [readAttributes]
  split <;> rename_i heq <;> rw [hs] at heq <;> cases heq
  rw [if_neg hc]
  split
  · rename_i heq
    exact absurd (hn.symm.trans heq) hname
  · rename_i n ns heq
    obtain rfl := hn.symm.trans heq
    split <;> rename_i heq <;> rw [ha] at heq <;> cases heq
    rw [if_pos rfl]
    split <;> rename_i heq <;> rw [hv] at heq <;> cases heq
    rfl

/-- A name that an equals sign and no value follow. -/
theorem readAttributes_valueError {name after : Text} {stop : Stop}
    (hs : s.dropWhile Text.isBlank = c :: rest) (hc : c ≠ ']') (hname : name ≠ [])
    (hn : (c :: rest).takeWhile isAttributeChar = name)
    (ha : (c :: rest).dropWhile isAttributeChar = '=' :: after)
    (hv : readValue after = .error stop) : readAttributes attributes s = .error stop := by
  rw [readAttributes]
  split <;> rename_i heq <;> rw [hs] at heq <;> cases heq
  rw [if_neg hc]
  split
  · rename_i heq
    exact absurd (hn.symm.trans heq) hname
  · split <;> rename_i heq <;> rw [ha] at heq <;> cases heq
    rw [if_pos rfl]
    split <;> rename_i heq <;> rw [hv] at heq <;> cases heq
    rfl

end

/-! ### Parts of an element -/

theorem readParts_id (e : Element) (s : Text) :
    readParts e ('#' :: s)
      = readParts (e.setAttribute "id" (some (s.takeWhile isNameChar)))
          (s.dropWhile isNameChar) := by
  rw [readParts, if_pos rfl]

theorem readParts_class (e : Element) {s name : Text} (hname : name ≠ [])
    (hs : s.takeWhile isNameChar = name) :
    readParts e ('.' :: s) = readParts (e.addClass name) (s.dropWhile isNameChar) := by
  rw [readParts, if_neg (by decide), if_pos rfl, if_neg (by rwa [hs]), hs]

theorem readParts_noClass (e : Element) {s : Text} (hs : s.takeWhile isNameChar = []) :
    readParts e ('.' :: s) = .error (.unexpected s) := by
  rw [readParts, if_neg (by decide), if_pos rfl, if_pos hs]

theorem readParts_attributes {e : Element} {s after : Text} {attributes : List Attribute}
    (h : readAttributes e.attributes s = .ok (attributes, after)) :
    readParts e ('[' :: s) = readParts { e with attributes } after := by
  rw [readParts, if_neg (by decide), if_neg (by decide), if_pos rfl]
  split <;> rename_i heq <;> rw [h] at heq <;> cases heq
  rfl

theorem readParts_attributesError {e : Element} {s : Text} {stop : Stop}
    (h : readAttributes e.attributes s = .error stop) :
    readParts e ('[' :: s) = .error stop := by
  rw [readParts, if_neg (by decide), if_neg (by decide), if_pos rfl]
  split <;> rename_i heq <;> rw [h] at heq <;> cases heq
  rfl

theorem readParts_text (e : Element) {s text after : Text}
    (h : readText 0 s = some (text, after)) :
    readParts e ('{' :: s) = readParts (e.addText text) after := by
  rw [readParts, if_neg (by decide), if_neg (by decide), if_neg (by decide), if_pos rfl]
  split <;> rename_i heq <;> rw [h] at heq <;> cases heq
  rfl

theorem readParts_textError (e : Element) {s : Text} (h : readText 0 s = none) :
    readParts e ('{' :: s) = .error (.unclosed '{') := by
  rw [readParts, if_neg (by decide), if_neg (by decide), if_neg (by decide), if_pos rfl]
  split
  · rfl
  · rename_i heq
    cases h.symm.trans heq

theorem readParts_count {e : Element} (h : e.count = none) (s : Text) :
    readParts e ('*' :: s)
      = readParts { e with count := some (readCount s).1 } (readCount s).2 := by
  -- An asterisk is a part only while there is no repeat.
  rw [readParts, if_neg (by decide), if_neg (by decide), if_neg (by decide),
    if_neg (by decide), if_pos ⟨rfl, h⟩]

theorem readParts_selfClosing (e : Element) (s : Text) :
    readParts e ('/' :: s) = readParts { e with selfClosing := true } s := by
  rw [readParts, if_neg (by decide), if_neg (by decide), if_neg (by decide),
    if_neg (by decide), if_neg (by simp), if_pos rfl]

theorem readElement_named {s name : Text} (hname : name ≠ [])
    (hs : s.takeWhile isNameChar = name) :
    readElement s = readParts { name := some name } (s.dropWhile isNameChar) := by
  unfold readElement
  split
  · rename_i n ns heq
    rw [← hs, heq]
  · rename_i heq
    exact absurd (hs.symm.trans heq) hname

theorem readElement_unnamed {s after : Text} {e : Element}
    (hs : ∀ c ∈ s.head?, isNameChar c = false) (hparts : readParts {} s = .ok (e, after))
    (hlength : after.length ≠ s.length) : readElement s = .ok (e, after) := by
  have hrun : s.takeWhile isNameChar = [] := takeWhile_append_run (s := []) (by simp) hs
  unfold readElement
  rw [hrun, hparts]
  exact if_neg hlength

/-- Nothing of an element at all. -/
theorem readElement_none {s : Text} {e : Element} (hs : s.takeWhile isNameChar = [])
    (h : readParts {} s = .ok (e, s)) : readElement s = .error (.unexpected s) := by
  unfold readElement
  rw [hs, h]
  exact if_pos rfl

theorem readElement_nil : readElement [] = .error (.unexpected []) :=
  readElement_none rfl (readParts_followsItem {} followsItem_nil)

theorem readElement_error {s : Text} {stop : Stop} (hs : s.takeWhile isNameChar = [])
    (h : readParts {} s = .error stop) : readElement s = .error stop := by
  unfold readElement
  rw [hs, h]

/-- A letter before what may stand behind an item is a run of its own. -/
theorem letter_run {t : Text} (ht : FollowsItem t) :
    ('a' :: t).takeWhile isNameChar = ['a'] ∧ ('a' :: t).dropWhile isNameChar = t := by
  have hrun : ∀ c ∈ ['a'], isNameChar c = true := by
    rw [List.forall_mem_singleton]
    decide
  have hstops := ht.stops isNameChar_of_isOperator
  exact ⟨takeWhile_append_run hrun hstops, dropWhile_append_run hrun hstops⟩

/-- The shortest element. -/
theorem readElement_letter {t : Text} (ht : FollowsItem t) :
    readElement ('a' :: t) = .ok ({ name := some ['a'] }, t) := by
  obtain ⟨hname, hafter⟩ := letter_run ht
  rw [readElement_named (by simp) hname, hafter, readParts_followsItem _ ht]

/-! ### Repeats -/

theorem readCount_append {s t : Text} (h : Settles Text.isDigit s t) :
    readCount (s ++ t) = ((readCount s).1, (readCount s).2 ++ t) := by
  unfold readCount
  rw [takeWhile_append_of_settles h, dropWhile_append_of_settles h]

/-- Nothing that starts otherwise than with an asterisk is a repeat. -/
theorem readRepeat_of_ne {t : Text} (h : t.head? ≠ some '*') : readRepeat t = (none, t) := by
  unfold readRepeat
  split
  · simp at h
  · rfl

/-! ### Levels -/

@[simp]
theorem Frame.depth_push (f : Frame) (node : Node) : (f.push node).depth = f.depth := rfl

@[simp]
theorem Frame.depth_descend (f : Frame) : f.descend.depth = f.depth + 1 := rfl

theorem Frame.depth_climb_le (f : Frame) : f.climb.depth ≤ f.depth := by
  unfold Frame.climb
  split
  · exact Nat.le_refl _
  · rename_i up outer h
    simp [Frame.depth, h]

theorem Frame.depth_climbBy_le (n : Nat) (f : Frame) : (f.climbBy n).depth ≤ f.depth := by
  induction n generalizing f with
  | zero => exact Nat.le_refl _
  | succ n ih => exact Nat.le_trans (ih f.climb) f.depth_climb_le

theorem Frame.forest_climb (f : Frame) : f.climb.forest = f.forest := by
  unfold Frame.climb
  split
  · rfl
  · rename_i up outer h
    rw [Frame.forest, Frame.forest, h, Frame.foldOuter]

theorem Frame.forest_climbBy (n : Nat) (f : Frame) : (f.climbBy n).forest = f.forest := by
  induction n generalizing f with
  | zero => rfl
  | succ n ih => rw [Frame.climbBy, ih, Frame.forest_climb]

theorem appendLast_concat (extra nodes : List Node) (node : Node) :
    Node.appendLast extra (nodes ++ [node]) = nodes ++ [Node.append extra node] := by
  induction nodes with
  | nil => rfl
  | cons first rest ih =>
    cases rest with
    | nil => rw [List.cons_append, List.nil_append, Node.appendLast, Node.appendLast]; rfl
    | cons next rest =>
      rw [List.cons_append, List.cons_append, Node.appendLast, ← List.cons_append, ih]
      rfl

/-- A level behind a node is folded below that node. -/
theorem foldInto_concat (level nodes : List Node) (node : Node) :
    Frame.foldInto level (nodes ++ [node]) = nodes ++ [Node.append level node] := by
  rw [← appendLast_concat]
  cases nodes <;> rfl

/-- All frames add up, the innermost like the others. -/
theorem totalDepth_eq (frame : Frame) (enclosing : List Frame) :
    totalDepth frame enclosing = frame.depth + (enclosing.map Frame.depth).sum := by
  induction enclosing with
  | nil => simp [totalDepth]
  | cons next enclosing ih =>
    rw [totalDepth, ih, List.map_cons, List.sum_cons]
    omega

@[simp]
theorem totalDepth_push (f : Frame) (node : Node) (enclosing : List Frame) :
    totalDepth (f.push node) enclosing = totalDepth f enclosing := by
  rw [totalDepth_eq, totalDepth_eq, Frame.depth_push]

@[simp]
theorem totalDepth_descend (f : Frame) (enclosing : List Frame) :
    totalDepth f.descend enclosing = totalDepth f enclosing + 1 := by
  rw [totalDepth_eq, totalDepth_eq, Frame.depth_descend]
  omega

/-- A group that was just opened is one level inside the frame it stands in. -/
@[simp]
theorem totalDepth_open (f : Frame) (enclosing : List Frame) :
    totalDepth {} (f :: enclosing) = totalDepth f enclosing + 1 := by
  rw [totalDepth_eq, totalDepth_eq, List.map_cons, List.sum_cons]
  simp only [Frame.depth, List.length_nil]
  omega

/-! ### One step of the parser -/

theorem head?_ne_of_forall {s : Text} {c : Char} (h : ∀ rest, s = c :: rest → False) :
    s.head? ≠ some c := by
  intro hhead
  obtain ⟨rest, hs⟩ := List.head?_eq_some_iff.1 hhead
  exact h rest hs

/-- What is left when all marks behind an item are ruled out. -/
theorem isOperator_of_forall {c : Char} {rest : Text} (hchild : ∀ t, c :: rest = '>' :: t → False)
    (hsibling : ∀ t, c :: rest = '+' :: t → False) (hclimb : ∀ t, c :: rest = '^' :: t → False)
    (hclose : ∀ t, c :: rest = ')' :: t → False) : isOperator c = false := by
  simp only [isOperator, Bool.or_eq_false_iff, beq_eq_false_iff_ne]
  refine ⟨⟨⟨?_, ?_⟩, ?_⟩, ?_⟩
  · exact fun h => hchild rest (h ▸ rfl)
  · exact fun h => hsibling rest (h ▸ rfl)
  · exact fun h => hclimb rest (h ▸ rfl)
  · exact fun h => hclose rest (h ▸ rfl)

section

variable {enclosing : List Frame} {frame : Frame}

theorem readItem_tooDeep (h : maxDepth < totalDepth frame enclosing) (s : Text) :
    readItem enclosing frame s = .error .tooDeep := by
  rw [readItem.eq_def, if_pos h]

theorem readItem_open (h : totalDepth frame enclosing ≤ maxDepth) (rest : Text) :
    readItem enclosing frame ('(' :: rest) = readItem (frame :: enclosing) {} rest := by
  rw [readItem, if_neg (Nat.not_lt.2 h)]

theorem readItem_element (h : totalDepth frame enclosing ≤ maxDepth) {s rest : Text}
    {e : Element} (hs : s.head? ≠ some '(') (he : readElement s = .ok (e, rest)) :
    readItem enclosing frame s = readOperator enclosing (frame.push (.element e [])) rest := by
  rw [readItem.eq_def, if_neg (Nat.not_lt.2 h)]
  split
  · simp at hs
  · split <;> rename_i heq <;> rw [he] at heq <;> cases heq
    rfl

theorem readItem_error (h : totalDepth frame enclosing ≤ maxDepth) {s : Text} {stop : Stop}
    (hs : s.head? ≠ some '(') (he : readElement s = .error stop) :
    readItem enclosing frame s = .error stop := by
  rw [readItem.eq_def, if_neg (Nat.not_lt.2 h)]
  split
  · simp at hs
  · split <;> rename_i heq <;> rw [he] at heq <;> cases heq
    rfl

theorem readOperator_nil : readOperator [] frame [] = .ok frame.forest := by
  rw [readOperator]

theorem readOperator_unclosed (parent : Frame) :
    readOperator (parent :: enclosing) frame [] = .error (.unclosed '(') := by
  rw [readOperator]

theorem readOperator_extraClose (rest : Text) :
    readOperator [] frame (')' :: rest) = .error (.unexpected (')' :: rest)) := by
  rw [readOperator]

theorem readOperator_child (rest : Text) :
    readOperator enclosing frame ('>' :: rest) = readItem enclosing frame.descend rest := by
  rw [readOperator]

theorem readOperator_sibling (rest : Text) :
    readOperator enclosing frame ('+' :: rest) = readItem enclosing frame rest := by
  rw [readOperator]

theorem readOperator_climb (rest : Text) :
    readOperator enclosing frame ('^' :: rest)
      = readItem enclosing (frame.climbBy ((rest.takeWhile (· == '^')).length + 1))
          (rest.dropWhile (· == '^')) := by
  rw [readOperator]

theorem readOperator_other {c : Char} (hc : isOperator c = false) (rest : Text) :
    readOperator enclosing frame (c :: rest) = .error (.unexpected (c :: rest)) := by
  simp only [isOperator, Bool.or_eq_false_iff, beq_eq_false_iff_ne] at hc
  rw [readOperator]
  all_goals simp_all

theorem readOperator_close (parent : Frame) (rest : Text) :
    readOperator (parent :: enclosing) frame (')' :: rest)
      = readOperator enclosing (parent.push (.group frame.forest (readRepeat rest).1))
          (readRepeat rest).2 := by
  rw [readOperator]

end

end Abbreviation

end Shorthand
