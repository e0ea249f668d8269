import Shorthand.Proofs.Tag.Places
import Shorthand.Proofs.Tag.Reading
import Shorthand.Proofs.Text.Search

/-!
# `Shorthand.Proofs.Tag.Turn`: one turn of a scanner of bytes

The scanner takes a document apart character by character, so it has no place to lose and no
cut to miss. A scanner of encoded text has both. It keeps an offset in bytes, and in each turn
of its loop it takes what it needs from the document by offsets that it computes: the text from
one on, the text between two, the bytes from one on.

`turn?` is one turn of such a loop. It has no result if a single one of its cuts does not exist,
and it borrows nothing from the scanner but the classes of characters and the names of elements.
From a place between two characters it has a result, and goes over the pieces that the scanner
finds there:

- `tagBytes?_toUtf8`: the loop over the bytes of a tag, which knows quotes and brackets only,
  stops where the tag ends;
- `named?_of_none` and `named?_of_some`: a turn that has come to a name;
- `turn?_bracket` and `turn?_finished`: a turn from any place on.
-/

set_option autoImplicit false

namespace Shorthand

namespace Tag

/-! ### The loop -/

/-- What a turn of the loop comes to. -/
inductive Turn where
  /-- No bracket is left. -/
  | finished
  /-- No tag. The loop goes on at an offset. -/
  | moved (next : Nat)
  /-- A tag. The loop goes on at an offset. -/
  | found (tag : Tag) (next : Nat)
  deriving DecidableEq

/-- Where the loop goes on. -/
def Turn.next? : Turn → Option Nat
  | finished => none
  | moved next => some next
  | found _ next => some next

/-- The offset behind the first occurrence of a terminator, or the end of the document. -/
def past? (s : Text) (start : Nat) (terminator : Text) : Option Nat := do
  let rest ← Text.after? s start
  match Text.find? terminator rest with
  | some gap => some (start + gap + Text.utf8Size terminator)
  -- What has no terminator takes the rest of the document with it.
  | none => some (Text.utf8Size s)

/-- The number of bytes up to and with the bracket that ends a tag. -/
def tagBytes? : Option UInt8 → List UInt8 → Option Nat
  | _, [] => none
  | some quote, b :: rest =>
    (tagBytes? (if b = quote then none else some quote) rest).map (· + 1)
  | none, b :: rest =>
    if b = '>'.toUInt8 then some 1
    else if b = '<'.toUInt8 then none
    else
      (tagBytes? (if b = '"'.toUInt8 ∨ b = '\''.toUInt8 then some b else none) rest).map (· + 1)

/-- The offset at which the body of a script or style ends. -/
def bodyStop? (s : Text) (start : Nat) (name : Text) : Option Nat := do
  let rest ← Text.after? s start
  match Text.find? ('<' :: '/' :: Text.toLower name) (Text.toLower rest) with
  | some gap => some (start + gap)
  | none => some (Text.utf8Size s)

/-- The kind of a tag by its name and the document up to its end. -/
def kindUpTo (closing : Bool) (name upTo : Text) : Kind :=
  if closing then .closing
  else if "/>".toList.isSuffixOf upTo ∨ Markup.isVoid name then .selfClosing
  else .opening

/-- A turn that has come to the end of a tag. -/
def complete? (s : Text) (start stop : Nat) (name : Text) (closing : Bool) : Option Turn := do
  let upTo ← Text.before? s stop
  let kind := kindUpTo closing name upTo
  let next ←
    if kind = .opening ∧ Markup.isRawText name then bodyStop? s stop name else some stop
  some (.found { kind, name, start, stop } next)

/-- A turn that has come to what may be a tag's name. -/
def named? (s : Text) (start nameStart : Nat) (closing : Bool) : Option Turn := do
  let bytes ← Text.bytesAfter? s nameStart
  let length := (bytes.takeWhile fun b => isNameChar (Char.ofUInt8 b)).length
  -- No tag: the loop goes on right behind the bracket, since a tag may stand inside.
  if length = 0 ∨ ¬(bytes.head?.any fun b => (Char.ofUInt8 b).isAlpha) then
    some (.moved (start + 1))
  else do
    let name ← Text.between? s nameStart (nameStart + length)
    let inside ← Text.bytesAfter? s (nameStart + length)
    match tagBytes? none inside with
    | none => some (.moved (start + 1))
    | some count => complete? s start (nameStart + length + count) name closing

/-- A turn that has come to an opening bracket. -/
def bracket? (s : Text) (start : Nat) : Option Turn := do
  let rest ← Text.after? s start
  if Text.startsWith rest "<!--" then (past? s (start + 4) "-->").map .moved
  else if Text.startsWith rest "<![CDATA[" then (past? s (start + 9) "]]>").map .moved
  else if Text.startsWith rest "<!" ∨ Text.startsWith rest "<?" then
    (past? s (start + 2) ">").map .moved
  else if Text.startsWith rest "</" then named? s start (start + 2) true
  else named? s start (start + 1) false

/-- One turn of the loop from an offset on. -/
def turn? (s : Text) (pos : Nat) : Option Turn := do
  let rest ← Text.after? s pos
  match Text.find? "<" rest with
  | none => some .finished
  | some gap => bracket? s (pos + gap)

/-! ### Searches -/

/-- What holds no match is searched to its end. -/
theorem eq_of_breakBefore_none {test : Text → Bool} {s before : Text}
    (h : Text.breakBefore test s = (before, none)) : before = s := by
  have happend := append_breakBefore test s
  rw [h] at happend
  simpa using happend

theorem past?_append (before rest terminator : Text) :
    past? (before ++ rest) (Text.utf8Size before) terminator
      = some (Text.utf8Size before + Text.utf8Size (untilPast terminator rest).1) := by
  rw [past?, Text.after?_append]
  simp only [Option.bind_eq_bind, Option.bind_some]
  unfold Text.find? untilPast
  cases hbreak : Text.breakBefore (Text.startsWith · terminator) rest with
  | mk front found =>
    cases found with
    | none =>
      obtain rfl := eq_of_breakBefore_none hbreak
      simp [Text.utf8Size_append]
    | some found =>
      have hstarts := Text.test_of_breakBefore hbreak
      obtain ⟨more, rfl⟩ := List.isPrefixOf_iff_prefix.1 hstarts
      simp [Text.utf8Size_append, Nat.add_assoc]

theorem bodyStop?_append (before rest name : Text) :
    bodyStop? (before ++ rest) (Text.utf8Size before) name
      = some (Text.utf8Size before + Text.utf8Size (rawBody name rest).1) := by
  rw [bodyStop?, Text.after?_append]
  simp only [Option.bind_eq_bind, Option.bind_some]
  unfold Text.find? rawBody
  generalize '<' :: '/' :: Text.toLower name = closing
  have hlower : Text.breakBefore (Text.startsWith · closing) (Text.toLower rest) = _ :=
    Text.breakBefore_map (Text.startsWith_toLower closing) rest
  rw [hlower]
  cases hbreak :
      Text.breakBefore (fun t => Text.toLower (t.take closing.length) == closing) rest with
  | mk front found =>
    cases found with
    | none =>
      obtain rfl := eq_of_breakBefore_none hbreak
      simp [hbreak, Text.utf8Size_append]
    | some found =>
      have hsize : Text.utf8Size (front.map Char.toLower) = Text.utf8Size front :=
        Text.utf8Size_toLower front
      simp [hbreak, hsize]

/-! ### The end of a tag -/

/-- Bytes of other characters than ASCII ones are passed over, inside quotes and outside. -/
theorem tagBytes?_append {quote : Option UInt8} (hquote : ∀ q ∈ quote, q.toNat < 0x80)
    {bytes : List UInt8} (hbytes : ∀ b ∈ bytes, 0x80 ≤ b.toNat) (rest : List UInt8) :
    tagBytes? quote (bytes ++ rest) = (tagBytes? quote rest).map (· + bytes.length) := by
  induction bytes with
  | nil => simp
  | cons b bytes ih =>
    obtain ⟨hb, hbytes⟩ := List.forall_mem_cons.1 hbytes
    have hne {q : UInt8} (hq : q.toNat < 0x80) : b ≠ q := by
      rintro rfl
      omega
    have hstep : tagBytes? quote (b :: (bytes ++ rest))
        = (tagBytes? quote (bytes ++ rest)).map (· + 1) := by
      cases quote with
      | none =>
        rw [tagBytes?, if_neg (hne (by decide)), if_neg (hne (by decide)),
          if_neg (not_or.2 ⟨hne (by decide), hne (by decide)⟩)]
      | some q => rw [tagBytes?, if_neg (hne (hquote q rfl))]
    rw [List.cons_append, hstep, ih hbytes, Option.map_map]
    congr 1

theorem tagTail?_cons_of_le {quote : Option Char} (hquote : ∀ q ∈ quote, q.toNat < 0x80)
    {c : Char} (hc : 0x80 ≤ c.toNat) (rest : Text) :
    tagTail? quote (c :: rest)
      = (tagTail? quote rest).map fun (tail, after) => (c :: tail, after) := by
  have hne {q : Char} (hq : q.toNat < 0x80) : c ≠ q := by
    rintro rfl
    omega
  cases quote with
  | none =>
    rw [tagTail?, if_neg (hne (by decide)), if_neg (hne (by decide)),
      if_neg (not_or.2 ⟨hne (by decide), hne (by decide)⟩)]
  | some q => rw [tagTail?, if_neg (hne (hquote q rfl))]

/-- The size of what is read of a tag. -/
def tailSize? (quote : Option Char) (s : Text) : Option Nat :=
  (tagTail? quote s).map fun (tail, _) => Text.utf8Size tail

/-- What is read behind a character is larger by the character. -/
theorem map_cons_tagTail? (quote : Option Char) (c : Char) (rest : Text) :
    ((tagTail? quote rest).map fun (tail, after) => (c :: tail, after)).map
        (fun (tail, _) => Text.utf8Size tail)
      = (tailSize? quote rest).map (· + c.utf8Size) := by
  rw [tailSize?, Option.map_map, Option.map_map]
  congr 1
  funext ⟨tail, after⟩
  exact Nat.add_comm _ _

/-- One byte against one character: both loops compare it with the same marks. -/
theorem tagBytes?_cons_of_lt {c : Char} (hc : c.toNat < 0x80) {rest : Text}
    (hrest : ∀ quote : Option Char, (∀ q ∈ quote, q.toNat < 0x80) →
      tagBytes? (quote.map Char.toUInt8) (Text.toUtf8 rest) = tailSize? quote rest)
    {quote : Option Char} (hquote : ∀ q ∈ quote, q.toNat < 0x80) :
    tagBytes? (quote.map Char.toUInt8) (c.toUInt8 :: Text.toUtf8 rest)
      = tailSize? quote (c :: rest) := by
  have hmark {d : Char} (hd : d.toNat < 0x80) : c.toUInt8 = d.toUInt8 ↔ c = d :=
    Text.toUInt8_inj hc hd
  have hsize : c.utf8Size = 1 := Text.utf8Size_of_lt hc
  have hnone := hrest none (by simp)
  rw [Option.map_none] at hnone
  cases quote with
  | some q =>
    -- Inside quotes only the quote that opened them is a mark.
    have hinside := hrest (some q) hquote
    rw [Option.map_some] at hinside
    rw [Option.map_some, tagBytes?, tailSize?, tagTail?, map_cons_tagTail?, hsize]
    simp only [hmark (hquote q rfl)]
    by_cases hq : c = q
    · rw [if_pos hq, if_pos hq, hnone]
    · rw [if_neg hq, if_neg hq, hinside]
  | none =>
    -- The character itself may be the quote for what follows.
    have hquoted := hrest (some c) (by rintro q ⟨⟩; exact hc)
    rw [Option.map_some] at hquoted
    rw [Option.map_none, tagBytes?, tailSize?, tagTail?]
    simp only [hmark (d := '>') (by decide), hmark (d := '<') (by decide),
      hmark (d := '"') (by decide), hmark (d := '\'') (by decide)]
    by_cases hclose : c = '>'
    · rw [if_pos hclose, if_pos hclose]
      simp [Text.utf8Size, hsize]
    · rw [if_neg hclose, if_neg hclose]
      by_cases hopen : c = '<'
      · rw [if_pos hopen, if_pos hopen]
        rfl
      · rw [if_neg hopen, if_neg hopen, map_cons_tagTail?, hsize]
        by_cases hquotes : c = '"' ∨ c = '\''
        · rw [if_pos hquotes, if_pos hquotes, hquoted]
        · rw [if_neg hquotes, if_neg hquotes, hnone]

/-- The loop over the bytes of a tag stops where the tag ends. -/
theorem tagBytes?_toUtf8 (s : Text) (quote : Option Char) (hquote : ∀ q ∈ quote, q.toNat < 0x80) :
    tagBytes? (quote.map Char.toUInt8) (Text.toUtf8 s) = tailSize? quote s := by
  induction s generalizing quote with
  | nil => cases quote <;> rfl
  | cons c rest ih =>
    obtain hc | hc := Nat.lt_or_ge c.toNat 0x80
    · rw [Text.toUtf8_cons_of_lt hc]
      exact tagBytes?_cons_of_lt hc ih hquote
    · have hbytes : ∀ b ∈ Text.charBytes c, 0x80 ≤ b.toNat := fun b hb =>
        Text.le_toNat_of_mem_charBytes hc hb
      have hquote' : ∀ b ∈ quote.map Char.toUInt8, b.toNat < 0x80 := by
        intro b hb
        obtain ⟨q, hq, rfl⟩ := Option.map_eq_some_iff.1 hb
        rw [Text.toNat_charToUInt8 (hquote q hq)]
        exact hquote q hq
      rw [Text.toUtf8_cons, tagBytes?_append hquote' hbytes, ih quote hquote, Text.length_charBytes]
      show _ = (tagTail? quote (c :: rest)).map fun tag => Text.utf8Size tag.1
      rw [tagTail?_cons_of_le hquote hc, map_cons_tagTail?]

/-! ### A turn at a name -/

theorem lt_of_isNameChar {c : Char} (h : isNameChar c = true) : c.toNat < 0x80 := by
  simp only [isNameChar, Char.isAlphanum, Bool.or_eq_true, beq_iff_eq] at h
  obtain ((((halpha | hdigit) | rfl) | rfl) | rfl) | rfl := h
  · exact Text.lt_of_isAlpha halpha
  · have hle := of_decide_eq_true (Bool.and_eq_true_iff.1 hdigit).2
    have hle : c.toNat ≤ 57 := UInt32.le_iff_toNat_le.1 hle
    omega
  all_goals decide

theorem head?_takeWhile_isNameChar (body : Text) :
    (body.takeWhile isNameChar).head?.any Char.isAlpha = body.head?.any Char.isAlpha := by
  cases body with
  | nil => rfl
  | cons c rest =>
    by_cases hc : isNameChar c = true
    · rw [List.takeWhile_cons, if_pos hc, List.head?_cons, List.head?_cons]
    · have halpha : c.isAlpha = false := by
        by_contra h
        exact hc (by simp [isNameChar, Char.isAlphanum, h])
      simp [hc, halpha]

/-- What is read of a tag ends with its bracket. -/
theorem exists_tagTail?_concat {quote : Option Char} {s tail after : Text}
    (h : tagTail? quote s = some (tail, after)) : ∃ inner, tail = inner ++ ['>'] := by
  fun_induction tagTail? quote s generalizing tail after with
  | case1 => simp at h
  | case2 quote c rest ih | case5 c rest _ _ ih =>
    obtain ⟨⟨t, a⟩, hr, he⟩ := Option.map_eq_some_iff.1 h
    obtain ⟨inner, rfl⟩ := ih hr
    exact ⟨c :: inner, (Prod.mk.inj he).1.symm⟩
  | case3 => exact ⟨[], (Prod.mk.inj (Option.some.inj h)).1.symm⟩
  | case4 => simp at h

/-- A tag is read where there is a letter, and a bracket that ends what follows the name. -/
theorem readNamed?_eq_some_iff {slash body after : Text} {piece : Piece} :
    readNamed? slash body = some (piece, after) ↔
      body.head?.any Char.isAlpha = true ∧
      ∃ inner, tagTail? none (body.dropWhile isNameChar) = some (inner ++ ['>'], after) ∧
        piece = .tag
          (if slash = [] then
            openingKind (body.takeWhile isNameChar)
              ('<' :: slash ++ body.takeWhile isNameChar ++ (inner ++ ['>']))
          else .closing)
          (body.takeWhile isNameChar)
          ('<' :: slash ++ body.takeWhile isNameChar ++ (inner ++ ['>'])) := by
  simp only [readNamed?, head?_takeWhile_isNameChar]
  cases halpha : body.head?.any Char.isAlpha with
  | false => simp
  | true =>
    cases htail : tagTail? none (body.dropWhile isNameChar) with
    | none => simp
    | some found =>
      obtain ⟨tail, rest⟩ := found
      obtain ⟨inner, rfl⟩ := exists_tagTail?_concat htail
      constructor
      · intro h
        obtain ⟨hpiece, rfl⟩ := Prod.mk.inj (Option.some.inj h)
        exact ⟨rfl, inner, rfl, hpiece.symm⟩
      · rintro ⟨-, other, hother, rfl⟩
        obtain ⟨hinner, rfl⟩ := Prod.mk.inj (Option.some.inj hother)
        obtain rfl := List.append_cancel_right hinner
        rfl

/-- What stands before an offset ends a tag with a slash if the tag does. -/
theorem isSuffixOf_append {x : Text} (hx : x ≠ []) (before : Text) :
    "/>".toList.isSuffixOf (before ++ (x ++ ['>'])) = true ↔ x.getLast? = some '/' := by
  have hlast : (before ++ x).getLast? = x.getLast? := by
    obtain ⟨init, c, rfl⟩ := (List.eq_nil_or_concat' x).resolve_left hx
    simp
  -- The bracket is the same on both sides, and leaves the slash as a last character.
  have hmark : "/>".toList = ['/'] ++ ['>'] := rfl
  rw [List.isSuffixOf_iff_suffix, ← hlast, List.getLast?_eq_some_iff, hmark, ← List.append_assoc,
    List.suffix_append_self_iff]
  exact exists_congr fun init => eq_comm

/-- Without a letter there is no name, and the bracket is passed over. -/
theorem named?_of_noLetter {front body : Text} (h : body.head?.any Char.isAlpha = false)
    (start : Nat) (closing : Bool) :
    named? (front ++ body) start (Text.utf8Size front) closing = some (.moved (start + 1)) := by
  have hletter := Text.any_head?_toUtf8 (fun c => Text.lt_of_isAlpha) body
  rw [named?, Text.bytesAfter?_append]
  simp only [Option.bind_eq_bind, Option.bind_some]
  rw [if_pos (.inr (by simp [hletter, h]))]

theorem takeWhile_isNameChar_ne_nil {body : Text} (h : body.head?.any Char.isAlpha = true) :
    body.takeWhile isNameChar ≠ [] := by
  intro hnil
  rw [← head?_takeWhile_isNameChar, hnil] at h
  cases h

theorem complete?_append (upTo after name : Text) (start : Nat) (closing : Bool) :
    complete? (upTo ++ after) start (Text.utf8Size upTo) name closing
      = some (.found
          { kind := kindUpTo closing name upTo, name, start, stop := Text.utf8Size upTo }
          (Text.utf8Size upTo +
            if kindUpTo closing name upTo = .opening ∧ Markup.isRawText name then
              Text.utf8Size (rawBody name after).1
            else 0)) := by
  rw [complete?, Text.before?_append]
  simp only [Option.bind_eq_bind, Option.bind_some]
  split
  · rw [bodyStop?_append, Option.bind_some]
  · rfl

/-- At a letter a turn has a name, and goes by what follows it. -/
theorem named?_of_letter {front body : Text} (hletter : body.head?.any Char.isAlpha = true)
    (start : Nat) (closing : Bool) :
    named? (front ++ body) start (Text.utf8Size front) closing
      = (match tagTail? none (body.dropWhile isNameChar) with
        | none => some (.moved (start + 1))
        | some (tail, _) =>
          complete? (front ++ body) start
            (Text.utf8Size (front ++ body.takeWhile isNameChar ++ tail))
            (body.takeWhile isNameChar) closing) := by
  have hsplit : body = body.takeWhile isNameChar ++ body.dropWhile isNameChar :=
    List.takeWhile_append_dropWhile.symm
  have hne := takeWhile_isNameChar_ne_nil hletter
  have hbytes := Text.takeWhile_toUtf8 (fun c => lt_of_isNameChar) body
  have hhead := Text.any_head?_toUtf8 (fun c => Text.lt_of_isAlpha) body
  rw [named?, Text.bytesAfter?_append]
  simp only [Option.bind_eq_bind, Option.bind_some, hbytes, hhead, Text.length_toUtf8]
  generalize body.takeWhile isNameChar = name at hsplit hne ⊢
  generalize body.dropWhile isNameChar = inside at hsplit ⊢
  have hpos := Text.utf8Size_pos hne
  have hdoc : front ++ body = front ++ name ++ inside := by rw [hsplit, List.append_assoc]
  have htail : tagBytes? none (Text.toUtf8 inside) = _ :=
    tagBytes?_toUtf8 inside none (by simp)
  have hnamed : ¬(Text.utf8Size name = 0 ∨ ¬body.head?.any Char.isAlpha = true) := by
    rintro (h | h)
    · omega
    · exact h hletter
  rw [if_neg hnamed, ← Text.utf8Size_append, hdoc, Text.between?_append, Option.bind_some,
    Text.bytesAfter?_append, Option.bind_some, htail, tailSize?]
  cases tagTail? none inside with
  | none => rfl
  | some found =>
    obtain ⟨tail, after⟩ := found
    rw [Option.map_some]
    simp only [Text.utf8Size_append]

/-- The slash of a closing tag. -/
def slashOf (closing : Bool) : Text :=
  if closing then ['/'] else []

/-- The kind is the same whether a tag stands alone or at the end of what is in front of it. -/
theorem kindUpTo_append (closing : Bool) (name inner before : Text) :
    kindUpTo closing name (before ++ ('<' :: slashOf closing ++ name ++ (inner ++ ['>'])))
      = if slashOf closing = [] then
          openingKind name ('<' :: slashOf closing ++ name ++ (inner ++ ['>']))
        else .closing := by
  cases closing with
  | true => rfl
  | false =>
    have hsource : '<' :: slashOf false ++ name ++ (inner ++ ['>'])
        = '<' :: name ++ inner ++ ['>'] := by
      simp [slashOf]
    have hslash := isSuffixOf_append (x := '<' :: name ++ inner) (by simp) before
    have hnil : slashOf false = [] := rfl
    rw [hsource, if_pos hnil, openingKind_append, kindUpTo, if_neg Bool.false_ne_true]
    simp only [hslash]

/-- Where no tag can be read a turn passes over the bracket. -/
theorem named?_of_none {before body : Text} {closing : Bool}
    (h : readNamed? (slashOf closing) body = none) (start : Nat) :
    named? (before ++ body) start (Text.utf8Size before) closing = some (.moved (start + 1)) := by
  cases hletter : body.head?.any Char.isAlpha with
  | false => exact named?_of_noLetter hletter start closing
  | true =>
    rw [named?_of_letter hletter]
    cases htail : tagTail? none (body.dropWhile isNameChar) with
    | none => rfl
    | some found =>
      obtain ⟨tail, after⟩ := found
      obtain ⟨inner, rfl⟩ := exists_tagTail?_concat htail
      rw [readNamed?_eq_some_iff.2 ⟨hletter, inner, htail, rfl⟩] at h
      cases h

/-- Where a tag can be read a turn finds it at its place, and goes on behind its body. -/
theorem named?_of_some {before body name source after : Text} {closing : Bool} {kind : Kind}
    (h : readNamed? (slashOf closing) body = some (.tag kind name source, after)) :
    named? (before ++ ('<' :: slashOf closing ++ body)) (Text.utf8Size before)
        (Text.utf8Size (before ++ '<' :: slashOf closing)) closing
      = some (.found
          { kind, name, start := Text.utf8Size before, stop := Text.utf8Size (before ++ source) }
          (Text.utf8Size (before ++ source) +
            if kind = .opening ∧ Markup.isRawText name then Text.utf8Size (rawBody name after).1
            else 0)) := by
  obtain ⟨hletter, inner, htail, hpiece⟩ := readNamed?_eq_some_iff.1 h
  have hinside := append_tagTail? htail
  rw [← List.append_assoc, named?_of_letter hletter, htail]
  have hsource : before ++ '<' :: slashOf closing ++ body.takeWhile isNameChar ++ (inner ++ ['>'])
      = before ++ source := by
    rw [(Piece.tag.inj hpiece).2.2]
    simp
  have hdoc : before ++ '<' :: slashOf closing ++ body = before ++ source ++ after := by
    rw [← hsource, List.append_assoc _ _ after, hinside, List.append_assoc _ _ (List.dropWhile _ _),
      List.takeWhile_append_dropWhile]
  have hkind : kindUpTo closing name (before ++ source) = kind := by
    obtain ⟨rfl, rfl, rfl⟩ := Piece.tag.inj hpiece
    exact kindUpTo_append closing _ inner before
  show complete? _ _ _ _ _ = _
  rw [hsource, hdoc, ← (Piece.tag.inj hpiece).2.1, complete?_append, hkind]

/-! ### A turn -/

/-- What a turn comes to that goes over pieces. -/
def Turn.over (start : Nat) (ps : List Piece) : Turn :=
  match ofPieces start ps with
  | [] => .moved (start + size ps)
  | tag :: _ => .found tag (start + size ps)

theorem over_plain (start : Nat) (source : Text) :
    Turn.over start [.plain source] = .moved (start + Text.utf8Size source) := by
  simp [Turn.over, ofPieces, size, Piece.source]

theorem over_tag (start : Nat) (kind : Kind) (name source : Text) (ps : List Piece) :
    Turn.over start (.tag kind name source :: ps)
      = .found { kind, name, start, stop := start + Text.utf8Size source }
          (start + Text.utf8Size source + size ps) := by
  rw [Nat.add_assoc, Turn.over, size_cons]
  rfl

/-- What is skipped up to a terminator is one piece. -/
theorem past?_mark (before mark body terminator : Text) :
    (past? (before ++ (mark ++ body)) (Text.utf8Size before + Text.utf8Size mark) terminator).map
        Turn.moved
      = some (Turn.over (Text.utf8Size before)
          [.plain (mark ++ (untilPast terminator body).1)]) := by
  rw [← List.append_assoc, ← Text.utf8Size_append, past?_append, Option.map_some, over_plain,
    Text.utf8Size_append, Text.utf8Size_append, Nat.add_assoc]

/-- What stands behind an opening bracket is read with the slash of a closing tag or without. -/
theorem exists_slashOf (rest : Text) :
    ∃ closing body, rest = slashOf closing ++ body ∧
      readTag? rest = readNamed? (slashOf closing) body ∧
      Text.startsWith ('<' :: rest) "</" = closing := by
  cases rest with
  | nil => exact ⟨false, [], rfl, rfl, rfl⟩
  | cons c body =>
    by_cases hc : c = '/'
    · subst hc
      exact ⟨true, body, rfl, rfl, by simp [Text.startsWith, List.isPrefixOf]⟩
    · refine ⟨false, c :: body, rfl, ?_, ?_⟩
      · unfold readTag?
        split
        · rename_i heq
          exact absurd (List.cons.inj heq).1 hc
        · rfl
      · simp [Text.startsWith, List.isPrefixOf, Ne.symm hc]

/-- A bracket that begins nothing is a piece of its own. -/
theorem lexeme_of_readTag?_none {s : Text} (hbang : s.head? ≠ some '!') (hmark : s.head? ≠ some '?')
    (h : readTag? s = none) : lexeme s = ([.plain ['<']], s) := by
  have hcomment : Text.startsWith s "!--" = false := startsWith_of_head?_ne hbang
  have hdata : Text.startsWith s "![CDATA[" = false := startsWith_of_head?_ne hbang
  have hdeclared : ¬(s.head? = some '!' ∨ s.head? = some '?') := not_or.2 ⟨hbang, hmark⟩
  rw [lexeme, if_neg (ne_true_of_eq_false hcomment), if_neg (ne_true_of_eq_false hdata),
    if_neg hdeclared, h]

/-- A turn that is at neither a comment nor a declaration reads a tag or passes over the
bracket. -/
theorem named?_eq_over (before : Text) {rest body : Text} {closing : Bool}
    (hbang : rest.head? ≠ some '!') (hmark : rest.head? ≠ some '?')
    (hrest : rest = slashOf closing ++ body)
    (hread : readTag? rest = readNamed? (slashOf closing) body) :
    named? (before ++ '<' :: rest) (Text.utf8Size before)
        (Text.utf8Size before + Text.utf8Size ('<' :: slashOf closing)) closing
      = some (Turn.over (Text.utf8Size before) (lexeme rest).1) := by
  have hdoc : before ++ '<' :: rest = before ++ '<' :: slashOf closing ++ body := by
    rw [hrest]
    simp
  rw [hdoc, ← Text.utf8Size_append]
  cases htag : readNamed? (slashOf closing) body with
  | none =>
    rw [named?_of_none htag, lexeme_of_readTag?_none hbang hmark (hread.trans htag), over_plain]
    rfl
  | some found =>
    obtain ⟨piece, after⟩ := found
    obtain ⟨kind, name, source, rfl⟩ : ∃ kind name source, piece = .tag kind name source := by
      obtain ⟨-, inner, -, hpiece⟩ := readNamed?_eq_some_iff.1 htag
      exact ⟨_, _, _, hpiece⟩
    have hlexeme := lexeme_of_readTag? hbang hmark (hread.trans htag)
    rw [List.append_assoc, named?_of_some htag, hlexeme, Text.utf8Size_append]
    by_cases hraw : kind = .opening ∧ Markup.isRawText name = true
    · rw [if_pos hraw, if_pos hraw, over_tag]
      simp [size, Piece.source]
    · rw [if_neg hraw, if_neg hraw, over_tag]
      rfl

/-- The mark of a declaration is two bytes. -/
theorem exists_declared {rest : Text} (h : rest.head? = some '!' ∨ rest.head? = some '?') :
    ∃ c body, rest = c :: body ∧ Text.utf8Size ['<', c] = 2 := by
  obtain h | h := h
  all_goals
    obtain ⟨body, rfl⟩ := List.head?_eq_some_iff.1 h
    exact ⟨_, body, rfl, rfl⟩

theorem bracket?_append (before rest : Text) :
    bracket? (before ++ '<' :: rest) (Text.utf8Size before)
      = some (Turn.over (Text.utf8Size before) (lexeme rest).1) := by
  have hcons (w : Text) :
      Text.startsWith ('<' :: rest) ('<' :: w) = Text.startsWith rest w := by
    simp [Text.startsWith, List.isPrefixOf]
  have hcomment : Text.startsWith ('<' :: rest) "<!--" = Text.startsWith rest "!--" := hcons _
  have hdata : Text.startsWith ('<' :: rest) "<![CDATA[" = Text.startsWith rest "![CDATA[" :=
    hcons _
  have hdeclared : (Text.startsWith ('<' :: rest) "<!" = true ∨
      Text.startsWith ('<' :: rest) "<?" = true) ↔
      rest.head? = some '!' ∨ rest.head? = some '?' := by
    have hbang : Text.startsWith ('<' :: rest) "<!" = Text.startsWith rest ['!'] := hcons _
    have hmark : Text.startsWith ('<' :: rest) "<?" = Text.startsWith rest ['?'] := hcons _
    rw [hbang, hmark, Text.startsWith_singleton, Text.startsWith_singleton]
  rw [bracket?, Text.after?_append]
  simp only [Option.bind_eq_bind, Option.bind_some, hcomment, hdata, hdeclared]
  -- The same questions in the same order as where the pieces are read.
  by_cases isComment : Text.startsWith rest "!--" = true
  · rw [if_pos isComment, lexeme, if_pos isComment]
    obtain ⟨body, rfl⟩ := List.isPrefixOf_iff_prefix.1 isComment
    exact past?_mark before "<!--" body "-->"
  · rw [if_neg isComment]
    by_cases isData : Text.startsWith rest "![CDATA[" = true
    · rw [if_pos isData, lexeme, if_neg isComment, if_pos isData]
      obtain ⟨body, rfl⟩ := List.isPrefixOf_iff_prefix.1 isData
      exact past?_mark before "<![CDATA[" body "]]>"
    · rw [if_neg isData]
      by_cases isDeclared : rest.head? = some '!' ∨ rest.head? = some '?'
      · rw [if_pos isDeclared, lexeme, if_neg isComment, if_neg isData, if_pos isDeclared]
        obtain ⟨c, body, rfl, hsize⟩ := exists_declared isDeclared
        have hturn := past?_mark before ['<', c] body ">"
        rw [hsize] at hturn
        exact hturn
      · rw [if_neg isDeclared]
        rw [not_or] at isDeclared
        obtain ⟨hbang, hmark⟩ := isDeclared
        obtain ⟨closing, body, hrest, hread, hclosing⟩ := exists_slashOf rest
        have hturn := named?_eq_over before hbang hmark hrest hread
        rw [hclosing]
        cases closing with
        | true => exact hturn
        | false => exact hturn

theorem turn?_bracket {plain : Text} (h : '<' ∉ plain) (before rest : Text) :
    turn? (before ++ (plain ++ '<' :: rest)) (Text.utf8Size before)
      = some (Turn.over (Text.utf8Size (before ++ plain)) (lexeme rest).1) := by
  have hfind : Text.find? "<" (plain ++ '<' :: rest) = some (Text.utf8Size plain) :=
    Text.find?_char h rest
  rw [turn?, Text.after?_append, ← List.append_assoc, ← bracket?_append, Text.utf8Size_append]
  simp only [Option.bind_eq_bind, Option.bind_some, hfind]

theorem turn?_finished {plain : Text} (h : '<' ∉ plain) (before : Text) :
    turn? (before ++ plain) (Text.utf8Size before) = some .finished := by
  have hfind : Text.find? "<" plain = none := Text.find?_char_eq_none h
  rw [turn?, Text.after?_append]
  simp only [Option.bind_eq_bind, Option.bind_some, hfind]

end Tag

end Shorthand
