import Shorthand.Markup.Vocabulary

/-!
# `Shorthand.Tag.Scanner`: tags in a document

The scanner cuts a document into pieces: tags, and everything that holds none,
such as text, comments, declarations, the bodies of scripts and styles, and angle
brackets that begin no tag. The pieces follow one another without gaps, so a tag's
place is the size of the pieces before it.

- `source_lexeme`: the pieces read in one step and what follows them are the text;
- `lexeme_length`: a step reads at least one character;
- `source_pieces`: the pieces of a text put together are the text.
-/

set_option autoImplicit false

namespace Shorthand

namespace Tag

/-- What a tag does. -/
inductive Kind where
  | opening
  | closing
  | selfClosing
  deriving DecidableEq, Repr

/-- A piece of a document. -/
inductive Piece where
  /-- Text without tags. -/
  | plain (source : Text)
  /-- A tag. -/
  | tag (kind : Kind) (name source : Text)
  deriving DecidableEq, Repr

namespace Piece

/-- The text of a piece. -/
def source : Piece → Text
  | plain source => source
  | tag _ _ source => source

end Piece

/-- A character of a tag's name. -/
def isNameChar (c : Char) : Bool :=
  c.isAlphanum || c == '-' || c == '_' || c == ':' || c == '.'

/-! ### Reading one piece -/

/-- Text up to after a terminator, or all of it, and what follows. -/
def untilPast (terminator s : Text) : Text × Text :=
  match Text.breakBefore (Text.startsWith · terminator) s with
  | (before, some rest) => (before ++ rest.take terminator.length, rest.drop terminator.length)
  | (before, none) => (before, [])

/-- Text up to after the angle bracket that ends a tag, quoted values passed over.
Another opening bracket outside quotes means that there is no tag. -/
def tagTail? : Option Char → Text → Option (Text × Text)
  | _, [] => none
  | some quote, c :: rest =>
    (tagTail? (if c = quote then none else some quote) rest).map fun (tail, after) =>
      (c :: tail, after)
  | none, c :: rest =>
    if c = '>' then some ([c], rest)
    else if c = '<' then none
    else
      (tagTail? (if c = '"' ∨ c = '\'' then some c else none) rest).map fun (tail, after) =>
        (c :: tail, after)

/-- The kind of an opening tag by its name and source. -/
def openingKind (name source : Text) : Kind :=
  if source.dropLast.getLast? = some '/' ∨ Markup.isVoid name then .selfClosing else .opening

/-- A tag from its name on, with what follows. The slash of a closing tag, if any,
has been read. -/
def readNamed? (slash body : Text) : Option (Piece × Text) :=
  let name := body.takeWhile isNameChar
  if name.head?.any Char.isAlpha then
    match tagTail? none (body.dropWhile isNameChar) with
    | none => none
    | some (tail, after) =>
      let source := '<' :: slash ++ name ++ tail
      some (.tag (if slash = [] then openingKind name source else .closing) name source, after)
  else none

/-- A tag from after its opening angle bracket, with what follows. -/
def readTag? : Text → Option (Piece × Text)
  | '/' :: body => readNamed? ['/'] body
  | body => readNamed? [] body

/-- The body of a script or style, up to its closing tag in any letter case or to
the end. -/
def rawBody (name s : Text) : Text × Text :=
  let closing := '<' :: '/' :: Text.toLower name
  match Text.breakBefore (fun t => Text.toLower (t.take closing.length) == closing) s with
  | (body, rest) => (body, rest.getD [])

/-- The pieces at an opening angle bracket, from after it, with what follows. -/
def lexeme (s : Text) : List Piece × Text :=
  if Text.startsWith s "!--" then
    let (body, rest) := untilPast "-->" (s.drop 3)
    ([.plain ('<' :: s.take 3 ++ body)], rest)
  else if Text.startsWith s "![CDATA[" then
    let (body, rest) := untilPast "]]>" (s.drop 8)
    ([.plain ('<' :: s.take 8 ++ body)], rest)
  else if s.head? = some '!' ∨ s.head? = some '?' then
    let (body, rest) := untilPast ">" (s.drop 1)
    ([.plain ('<' :: s.take 1 ++ body)], rest)
  else
    match readTag? s with
    | none => ([.plain ['<']], s)
    | some (.tag .opening name source, rest) =>
      if Markup.isRawText name then
        ([.tag .opening name source, .plain (rawBody name rest).1], (rawBody name rest).2)
      else ([.tag .opening name source], rest)
    | some (piece, rest) => ([piece], rest)

/-! ### Nothing is lost -/

theorem append_breakBefore (test : Text → Bool) (s : Text) :
    (Text.breakBefore test s).1 ++ (Text.breakBefore test s).2.getD [] = s := by
  induction s with
  | nil => unfold Text.breakBefore; split <;> rfl
  | cons c rest ih =>
    unfold Text.breakBefore
    split
    · simp
    · simpa using ih

theorem append_untilPast (terminator s : Text) :
    (untilPast terminator s).1 ++ (untilPast terminator s).2 = s := by
  have h := append_breakBefore (Text.startsWith · terminator) s
  unfold untilPast
  split <;> rename_i heq <;> simp [heq] at h
  · simpa using h
  · simpa using h

theorem append_tagTail? {quote : Option Char} {s tail after : Text}
    (h : tagTail? quote s = some (tail, after)) : tail ++ after = s := by
  fun_induction tagTail? quote s generalizing tail after with
  | case1 => simp at h
  | case2 quote c rest ih | case5 c rest _ _ ih =>
    obtain ⟨⟨t, a⟩, hr, he⟩ := Option.map_eq_some_iff.1 h
    have ih := ih hr
    simp only [Prod.mk.injEq] at he
    rw [← he.1, ← he.2, List.cons_append, ih]
  | case3 =>
    simp only [Option.some.injEq, Prod.mk.injEq] at h
    rw [← h.1, ← h.2]
    rfl
  | case4 => simp at h

/-- A tag's source starts with an angle bracket and, with what follows, is the text. -/
theorem append_readNamed? {slash body after : Text} {piece : Piece}
    (h : readNamed? slash body = some (piece, after)) :
    0 < piece.source.length ∧ piece.source ++ after = '<' :: slash ++ body := by
  unfold readNamed? at h
  simp only at h
  split at h
  · split at h
    · simp at h
    · rename_i tail after' hr
      have h1 := append_tagTail? hr
      simp only [Option.some.injEq, Prod.mk.injEq] at h
      rw [← h.1, ← h.2]
      simp [Piece.source, h1]
  · simp at h

theorem append_readTag? {s after : Text} {piece : Piece}
    (h : readTag? s = some (piece, after)) :
    0 < piece.source.length ∧ piece.source ++ after = '<' :: s := by
  unfold readTag? at h
  split at h
  · exact append_readNamed? h
  · exact append_readNamed? h

theorem append_rawBody (name s : Text) : (rawBody name s).1 ++ (rawBody name s).2 = s :=
  append_breakBefore _ s

/-- The pieces of one step are not empty and, with the text behind them, are the
text. -/
theorem source_lexeme (s : Text) :
    0 < ((lexeme s).1.map Piece.source).flatten.length ∧
      ((lexeme s).1.map Piece.source).flatten ++ (lexeme s).2 = '<' :: s := by
  unfold lexeme
  split
  · simp [Piece.source, append_untilPast]
  · split
    · simp [Piece.source, append_untilPast]
    · split
      · refine ⟨by simp [Piece.source], ?_⟩
        simp only [Piece.source, List.map_cons, List.map_nil, List.flatten_cons, List.flatten_nil,
          List.append_nil, List.cons_append, List.append_assoc, append_untilPast,
          List.take_append_drop]
      · split
        · simp [Piece.source]
        · rename_i name source rest hr
          obtain ⟨h0, h1⟩ := append_readTag? hr
          simp only [Piece.source] at h0 h1
          split
          · have hb := append_rawBody name rest
            simp [Piece.source, hb, h1]
            omega
          · simpa [Piece.source] using ⟨h0, h1⟩
        · rename_i piece rest _ hr
          simpa using append_readTag? hr

/-- A step reads at least one character. -/
theorem lexeme_length (s : Text) : (lexeme s).2.length ≤ s.length := by
  have h1 := congrArg List.length (source_lexeme s).2
  have h2 := (source_lexeme s).1
  simp only [List.length_append, List.length_cons] at h1
  omega

/-! ### The whole document -/

/-- The pieces of a document. -/
def pieces (s : Text) : List Piece :=
  match s with
  | [] => []
  | c :: rest =>
    if c = '<' then (lexeme rest).1 ++ pieces (lexeme rest).2
    else .plain [c] :: pieces rest
termination_by s.length
decreasing_by
  · exact Nat.lt_succ_of_le (lexeme_length rest)
  · simp

/-- The pieces of a text put together are the text. -/
theorem source_pieces (s : Text) : ((pieces s).map Piece.source).flatten = s := by
  fun_induction pieces s with
  | case1 => rfl
  | case2 rest ih =>
    rw [List.map_append, List.flatten_append, ih, (source_lexeme rest).2]
  | case3 c rest _ ih => simp [Piece.source, ih]

end Tag

/-- A tag at its place, in bytes from the start of the document. -/
structure Tag where
  kind : Tag.Kind
  name : Text
  start : Nat
  stop : Nat
  deriving DecidableEq, Repr

namespace Tag

/-- The tags among pieces that start at an offset. -/
def ofPieces (offset : Nat) : List Piece → List Tag
  | [] => []
  | .plain source :: rest => ofPieces (offset + Text.utf8Size source) rest
  | .tag kind name source :: rest =>
    { kind, name, start := offset, stop := offset + Text.utf8Size source } ::
      ofPieces (offset + Text.utf8Size source) rest

/-- The tags of a document, from left to right. -/
def scan (s : Text) : List Tag :=
  ofPieces 0 (pieces s)

end Tag

end Shorthand
