import Shorthand.Abbreviation.Node
import Shorthand.Error
import Shorthand.Text.Blank
import Shorthand.Text.Word

/-!
# `Shorthand.Abbreviation.Reader`: one element

Readers for the parts of an element, each from the text to the part and the text
that follows. A reader that cannot go on returns a `Stop`, which keeps the text it
stood before, so a position is the length of what was read.

- `readText_length`, `readAttributes_length`, `readParts_length` and
  `readElement_length`: what follows a part is shorter than what was read, which is
  why the loops end.
-/

set_option autoImplicit false

namespace Shorthand

namespace Abbreviation

/-- Why reading stopped. -/
inductive Stop where
  /-- Before a text that cannot stand here. -/
  | unexpected (rest : Text)
  /-- At the end, with an open bracket or quote. -/
  | unclosed (opener : Char)
  /-- Before a node that would nest too deep. -/
  | tooDeep
  deriving DecidableEq, Repr

/-- The error a stop amounts to in a text of `length` characters. -/
def Stop.toError (length : Nat) : Stop → ExpandError
  | .unexpected [] => .unexpectedEnd
  | .unexpected (c :: rest) => .unexpected c (length - (rest.length + 1))
  | .unclosed opener => .unclosed opener
  | .tooDeep => .tooDeep

/-! ### Character classes -/

/-- A character of element names, ids and classes. -/
def isNameChar (c : Char) : Bool :=
  Text.isAlphanumeric c || c == '-' || c == '_' || c == ':' || c == '!' || c == '$' || c == '@'

/-- A character of attribute names. -/
def isAttributeChar (c : Char) : Bool :=
  !Text.isBlank c && c != '=' && c != ']' && c != '"' && c != '\''

/-- A character of attribute values written without quotes. -/
def isBareValueChar (c : Char) : Bool :=
  !Text.isBlank c && c != ']'

/-! ### Parts of an element -/

/-- Text in braces, from after the opening brace to after its partner. `depth`
counts the braces open inside. A backslash takes the next character as it is. -/
def readText : Nat → Text → Option (Text × Text)
  | _, [] => none
  | _, ['\\'] => none
  | depth, '\\' :: c :: rest =>
    (readText depth rest).map fun (text, after) => (c :: text, after)
  | depth, '{' :: rest =>
    (readText (depth + 1) rest).map fun (text, after) => ('{' :: text, after)
  | 0, '}' :: rest => some ([], rest)
  | depth + 1, '}' :: rest =>
    (readText depth rest).map fun (text, after) => ('}' :: text, after)
  | depth, c :: rest =>
    (readText depth rest).map fun (text, after) => (c :: text, after)

/-- The count of a repeat from its digits. A count that is missing, or that no
64-bit word holds, is one; every other is moved into `1 … maxRepeat`. -/
def repeatCount (digits : Text) : Nat :=
  max 1 (min ((Text.readWord digits).getD 1) maxRepeat)

/-- A repeat after its asterisk. -/
def readCount (s : Text) : Nat × Text :=
  (repeatCount (s.takeWhile Text.isDigit), s.dropWhile Text.isDigit)

/-- An attribute value after its equals sign: quoted, in braces that are kept, or
bare. -/
def readValue : Text → Except Stop (Text × Text)
  | [] => .ok ([], [])
  | c :: rest =>
    if c = '"' ∨ c = '\'' then
      match rest.dropWhile (· != c) with
      | [] => .error (.unclosed c)
      | _ :: after => .ok (rest.takeWhile (· != c), after)
    else if c = '{' then
      match readText 0 rest with
      | none => .error (.unclosed '{')
      | some (text, after) => .ok ('{' :: text ++ ['}'], after)
    else
      .ok ((c :: rest).takeWhile isBareValueChar, (c :: rest).dropWhile isBareValueChar)

/-! ### What follows is shorter -/

theorem length_dropWhile_le (p : Char → Bool) (s : Text) :
    (s.dropWhile p).length ≤ s.length :=
  (List.dropWhile_suffix p).length_le

theorem readText_length {depth : Nat} {s text after : Text}
    (h : readText depth s = some (text, after)) : after.length < s.length := by
  fun_induction readText depth s generalizing text after with
  | case1 => simp at h
  | case2 => simp at h
  | case5 => simp_all
  | case3 _ _ _ ih | case4 _ _ ih | case6 _ _ ih | case7 _ _ _ _ _ _ _ _ ih =>
    obtain ⟨⟨t, a⟩, hr, he⟩ := Option.map_eq_some_iff.1 h
    have := ih hr
    simp_all
    omega

theorem readValue_length {s value after : Text}
    (h : readValue s = .ok (value, after)) : after.length ≤ s.length := by
  unfold readValue at h
  split at h
  · simp_all
  · rename_i c rest
    split at h
    · have hle := length_dropWhile_le (· != c) rest
      split at h <;> simp_all
      omega
    · split at h
      · split at h
        · simp at h
        · rename_i text after' heq
          have := readText_length heq
          simp_all
          omega
      · have hle := length_dropWhile_le isBareValueChar (c :: rest)
        simp only [Except.ok.injEq, Prod.mk.injEq] at h
        rw [← h.2]
        exact hle

/-- Attributes after the opening bracket, set one after another, up to after the
closing bracket. -/
def readAttributes (attributes : List Attribute) (s : Text) :
    Except Stop (List Attribute × Text) :=
  match _hs : s.dropWhile Text.isBlank with
  | [] => .error (.unclosed '[')
  | c :: rest =>
    if c = ']' then .ok (attributes, rest)
    else
      match _hn : (c :: rest).takeWhile isAttributeChar with
      | [] => .error (.unexpected (c :: rest))
      | n :: ns =>
        match _ha : (c :: rest).dropWhile isAttributeChar with
        | [] => readAttributes (Attribute.set (n :: ns) none attributes) []
        | a :: after =>
          if a = '=' then
            match _hv : readValue after with
            | .error stop => .error stop
            | .ok (value, after') =>
              readAttributes (Attribute.set (n :: ns) (some value) attributes) after'
          else readAttributes (Attribute.set (n :: ns) none attributes) (a :: after)
termination_by s.length
decreasing_by
  all_goals
    have h1 := length_dropWhile_le Text.isBlank s
    have h2 := congrArg List.length
      (List.takeWhile_append_dropWhile (p := isAttributeChar) (l := c :: rest))
    simp only [_hs, _hn, _ha, List.length_append, List.length_cons] at h1 h2
  · simp; omega
  · have h3 := readValue_length _hv; simp at h3 ⊢; omega
  · simp; omega

theorem readAttributes_length {attributes result : List Attribute} {s after : Text}
    (h : readAttributes attributes s = .ok (result, after)) : after.length < s.length := by
  fun_induction readAttributes attributes s generalizing result after with
  | case1 => simp at h
  | case2 _ s rest hs =>
    have h1 := length_dropWhile_le Text.isBlank s
    simp only [Except.ok.injEq, Prod.mk.injEq] at h
    rw [hs, List.length_cons] at h1
    rw [← h.2]
    omega
  | case3 => simp at h
  | case4 _ s c rest hs _ n ns hn ha ih =>
    have := ih h
    simp at this
  | case5 => simp at h
  | case6 _ s c rest hs _ n ns hn after' value after'' hv ha ih =>
    have h1 := length_dropWhile_le Text.isBlank s
    have h2 := congrArg List.length
      (List.takeWhile_append_dropWhile (p := isAttributeChar) (l := c :: rest))
    have h3 := readValue_length hv
    have h4 := ih h
    simp only [hs, hn, ha, List.length_append, List.length_cons] at h1 h2
    omega
  | case7 _ s c rest hs _ n ns hn a after' ha _ ih =>
    have h1 := length_dropWhile_le Text.isBlank s
    have h2 := congrArg List.length
      (List.takeWhile_append_dropWhile (p := isAttributeChar) (l := c :: rest))
    have h4 := ih h
    simp only [hs, hn, ha, List.length_append, List.length_cons] at h1 h2 h4
    omega

/-! ### The element -/

/-- The parts after an element's name: id, classes, attributes, texts, one repeat
and the self-closing mark, in any order, as long as there are some. -/
def readParts (e : Element) (s : Text) : Except Stop (Element × Text) :=
  match s with
  | [] => .ok (e, [])
  | c :: rest =>
    if c = '#' then
      readParts (e.setAttribute "id" (some (rest.takeWhile isNameChar)))
        (rest.dropWhile isNameChar)
    else if c = '.' then
      if rest.takeWhile isNameChar = [] then .error (.unexpected rest)
      else readParts (e.addClass (rest.takeWhile isNameChar)) (rest.dropWhile isNameChar)
    else if c = '[' then
      match _h : readAttributes e.attributes rest with
      | .error stop => .error stop
      | .ok (attributes, after) => readParts { e with attributes := attributes } after
    else if c = '{' then
      match _h : readText 0 rest with
      | none => .error (.unclosed '{')
      | some (text, after) => readParts (e.addText text) after
    else if c = '*' ∧ e.count = none then
      readParts { e with count := some (readCount rest).1 } (readCount rest).2
    else if c = '/' then readParts { e with selfClosing := true } rest
    else .ok (e, c :: rest)
termination_by s.length
decreasing_by
  · exact Nat.lt_succ_of_le (length_dropWhile_le isNameChar rest)
  · exact Nat.lt_succ_of_le (length_dropWhile_le isNameChar rest)
  · exact Nat.lt_succ_of_lt (readAttributes_length _h)
  · exact Nat.lt_succ_of_lt (readText_length _h)
  · exact Nat.lt_succ_of_le (length_dropWhile_le Text.isDigit rest)
  · exact Nat.lt_succ_self _

/-- One element, from its name to its last part. It has at least one of them. -/
def readElement (s : Text) : Except Stop (Element × Text) :=
  match s.takeWhile isNameChar with
  | n :: ns => readParts { name := some (n :: ns) } (s.dropWhile isNameChar)
  | [] =>
    match readParts {} s with
    | .error stop => .error stop
    | .ok (e, after) =>
      if after.length = s.length then .error (.unexpected s) else .ok (e, after)

theorem readParts_length {e e' : Element} {s after : Text}
    (h : readParts e s = .ok (e', after)) : after.length ≤ s.length := by
  fun_induction readParts e s generalizing e' after with
  | case1 => simp_all
  | case2 e rest ih =>
    have := length_dropWhile_le isNameChar rest
    have := ih h
    simp; omega
  | case3 => simp at h
  | case4 e rest _ _ ih =>
    have := length_dropWhile_le isNameChar rest
    have := ih h
    simp; omega
  | case5 => simp at h
  | case6 e rest attributes after' hr _ _ ih =>
    have := readAttributes_length hr
    have := ih h
    simp; omega
  | case7 => simp at h
  | case8 e rest text after' hr _ _ _ ih =>
    have := readText_length hr
    have := ih h
    simp; omega
  | case9 e c rest _ _ _ _ _ ih =>
    have := length_dropWhile_le Text.isDigit rest
    have := ih h
    simp [readCount] at *; omega
  | case10 e rest _ _ _ _ _ ih =>
    have := ih h
    simp; omega
  | case11 => simp_all

theorem readElement_length {s after : Text} {e : Element}
    (h : readElement s = .ok (e, after)) : after.length < s.length := by
  unfold readElement at h
  split at h
  · rename_i n ns hn
    have h1 := readParts_length h
    have h2 := congrArg List.length
      (List.takeWhile_append_dropWhile (p := isNameChar) (l := s))
    simp only [hn, List.length_append, List.length_cons] at h2
    omega
  · split at h
    · simp at h
    · rename_i e' after' hp
      have := readParts_length hp
      split at h <;> simp_all
      omega

end Abbreviation

end Shorthand
