import Shorthand.Proofs.Tag.Places
import Shorthand.Proofs.Tag.Reading
import Shorthand.Proofs.Text.Search
import Shorthand.Tag.Region

/-!
# `Shorthand.Proofs.Tag.OpaqueBody`: the body of a style element is opaque

The scanner passes over the body of a style element up to its closing tag, whatever brackets,
quotes and comment marks stand in the body. `scan_opaque` says what that comes to: behind a
text in which comments and tags are complete, the tags of a document are those of the text,
the two tags of the style element, and the tags of what follows, moved. So a body can be
replaced by any other of the same size, and neither the tags nor the region around any offset
change.

Two searches look ahead without a bound: for the end of a comment and for the end of a body.
Each looks for a word that cannot overlap with itself (`Unbordered`), so the word is found
where it was put, if the text before does not hold it (`breakBefore_word`).
-/

set_option autoImplicit false

namespace Shorthand

namespace Tag

theorem untilPast_append {terminator c : Text} (hw : Text.Unbordered terminator)
    (hc : ¬terminator <:+: c) (rest : Text) :
    untilPast terminator (c ++ (terminator ++ rest)) = (c ++ terminator, rest) := by
  have htest (t : Text) : Text.startsWith t terminator = true ↔ terminator <+: t.map id := by
    rw [List.map_id, Text.startsWith, List.isPrefixOf_iff_prefix]
  have hbreak : Text.breakBefore (Text.startsWith · terminator) (c ++ (terminator ++ rest))
      = (c, some (terminator ++ rest)) :=
    Text.breakBefore_word htest hw (by simpa using hc) (by simp)
  simp [untilPast, hbreak]

theorem rawBody_append {name closer body : Text} (hcloser : Text.toLower closer = Text.toLower name)
    (hw : Text.Unbordered ('<' :: '/' :: Text.toLower name))
    (hbody : ¬('<' :: '/' :: Text.toLower name) <:+: Text.toLower body) (rest : Text) :
    rawBody name (body ++ ('<' :: '/' :: closer ++ rest))
      = (body, '<' :: '/' :: closer ++ rest) := by
  have htest (t : Text) :
      (Text.toLower (t.take ('<' :: '/' :: Text.toLower name).length)
        == '<' :: '/' :: Text.toLower name) = true
        ↔ ('<' :: '/' :: Text.toLower name) <+: t.map Char.toLower := by
    rw [← Text.startsWith_toLower, Text.startsWith, List.isPrefixOf_iff_prefix]
    rfl
  have hrest : ('<' :: '/' :: Text.toLower name)
      <+: ('<' :: '/' :: closer ++ rest).map Char.toLower := by
    rw [← hcloser]
    exact ⟨rest.map Char.toLower, by simp [Text.toLower]⟩
  rw [rawBody, Text.breakBefore_word htest hw hbody hrest]
  rfl

/-! ### Text in which comments and tags are complete -/

/-- What may stand behind the name in a tag: quotes are closed, and there is no bracket
outside quotes. -/
inductive IsAttributeText : Text → Prop where
  | nil : IsAttributeText []
  | char {c : Char} {rest : Text} (hc : c ∉ ['<', '>', '"', '\'']) (hrest : IsAttributeText rest) :
      IsAttributeText (c :: rest)
  | quoted {quote : Char} {value rest : Text} (hquote : quote = '"' ∨ quote = '\'')
      (hvalue : quote ∉ value) (hrest : IsAttributeText rest) :
      IsAttributeText (quote :: value ++ [quote] ++ rest)

theorem IsAttributeText.passes {s : Text} (h : IsAttributeText s) : Passes s := by
  induction h with
  | nil => exact passes_nil
  | char hc _ ih => exact (passes_char hc).append ih
  | quoted hquote hvalue _ ih => exact (passes_quoted hquote hvalue).append ih

/-- A tag's name, which is not that of a script or style, and what stands behind it. -/
structure IsTagText (name inside : Text) : Prop where
  isName : IsName name
  not_rawText : Markup.isRawText name = false
  stops : ∀ c ∈ inside.head?, isNameChar c = false
  attributes : IsAttributeText inside

/-- Text without brackets, comments and tags, one behind the other, each of them complete. -/
inductive IsComplete : Text → Prop where
  | nil : IsComplete []
  | plain {s rest : Text} (hs : '<' ∉ s) (hrest : IsComplete rest) : IsComplete (s ++ rest)
  | comment {c rest : Text} (hc : ¬"-->".toList <:+: c) (hrest : IsComplete rest) :
      IsComplete ("<!--".toList ++ c ++ "-->".toList ++ rest)
  | opening {name inside rest : Text} (htag : IsTagText name inside) (hrest : IsComplete rest) :
      IsComplete ('<' :: name ++ inside ++ ['>'] ++ rest)
  | closing {name inside rest : Text} (htag : IsTagText name inside) (hrest : IsComplete rest) :
      IsComplete ('<' :: '/' :: name ++ inside ++ ['>'] ++ rest)

theorem yields_comment {c : Text} (hc : ¬"-->".toList <:+: c) :
    Yields ("<!--".toList ++ c ++ "-->".toList)
      [.plain ("<!--".toList ++ c ++ "-->".toList)] := by
  refine yields_bracket (s := '!' :: '-' :: '-' :: (c ++ "-->".toList)) fun rest => ?_
  have hsplit : '!' :: '-' :: '-' :: (c ++ "-->".toList) ++ rest
      = '!' :: '-' :: '-' :: (c ++ ("-->".toList ++ rest)) := by simp
  have hmark : Text.startsWith ('!' :: '-' :: '-' :: (c ++ ("-->".toList ++ rest))) "!--" = true :=
    rfl
  -- The search starts behind the opening mark, so the dashes of the mark do not count.
  have huntil := untilPast_append (by decide) hc rest
  rw [hsplit, lexeme, if_pos hmark]
  simp only [List.drop_succ_cons, List.drop_zero, huntil]
  rfl

/-- The scanner is outside a tag behind a complete text, whatever follows. -/
theorem IsComplete.yields {s : Text} (h : IsComplete s) : Yields s (pieces s) := by
  suffices hfound : ∃ found, Yields s found by
    obtain ⟨found, hyields⟩ := hfound
    rwa [hyields.pieces_eq]
  induction h with
  | nil => exact ⟨[], yields_nil⟩
  | plain hs _ ih =>
    obtain ⟨found, hrest⟩ := ih
    exact ⟨_, (yields_plain hs).append hrest⟩
  | comment hc _ ih =>
    obtain ⟨found, hrest⟩ := ih
    exact ⟨_, (yields_comment hc).append hrest⟩
  | opening htag _ ih =>
    obtain ⟨found, hrest⟩ := ih
    have hopening :=
      yields_opening htag.isName htag.not_rawText htag.stops htag.attributes.passes
    exact ⟨_, hopening.append hrest⟩
  | closing htag _ ih =>
    obtain ⟨found, hrest⟩ := ih
    exact ⟨_, (yields_closing htag.isName htag.stops htag.attributes.passes).append hrest⟩

/-! ### A style element -/

/-- A body between two tags without attributes. -/
def element (opener body closer : Text) : Text :=
  '<' :: opener ++ ['>'] ++ body ++ ('<' :: '/' :: closer ++ ['>'])

theorem isAlpha_of_isAlpha_toLower {c : Char} (h : c.toLower.isAlpha = true) :
    c.isAlpha = true := by
  unfold Char.toLower at h
  split at h
  · rename_i hupper
    exact Bool.or_eq_true_iff.2 (.inl (decide_eq_true hupper))
  · exact h

theorem utf8Size_of_isAlpha {c : Char} (h : c.isAlpha = true) : c.utf8Size = 1 :=
  Text.utf8Size_of_lt (Text.lt_of_isAlpha h)

section

variable {name : Text} (h : Text.toLower name = "style".toList)
include h

theorem isAlpha_of_mem_style {c : Char} (hc : c ∈ name) : c.isAlpha = true := by
  have hlower : c.toLower ∈ "style".toList := by
    rw [← h]
    exact List.mem_map_of_mem hc
  have hletters : ∀ d ∈ "style".toList, d.isAlpha = true := List.all_eq_true.1 (by decide)
  exact isAlpha_of_isAlpha_toLower (hletters _ hlower)

theorem isName_style : IsName name where
  head := by
    cases name with
    | nil => exact absurd h (by decide)
    | cons c rest => exact ⟨c, rfl, isAlpha_of_mem_style h List.mem_cons_self⟩
  chars c hc := by
    have halpha := isAlpha_of_mem_style h hc
    simp [isNameChar, Char.isAlphanum, halpha]

/-- Each letter of the name is one byte. -/
theorem utf8Size_style : Text.utf8Size name = 5 := by
  have hlength := congrArg List.length h
  rw [Text.toLower, List.length_map] at hlength
  rw [Text.utf8Size_eq_length fun c hc => utf8Size_of_isAlpha (isAlpha_of_mem_style h hc), hlength]
  rfl

theorem openingKind_style : openingKind name ('<' :: name ++ ['>']) = .opening := by
  have hslash : ('<' :: name).getLast? ≠ some '/' := by
    intro hlast
    obtain hbracket | hmem := List.mem_cons.1 (List.mem_of_getLast? hlast)
    · exact absurd hbracket (by decide)
    · exact absurd (isAlpha_of_mem_style h hmem) (by decide)
  have hvoid : Markup.isVoid name = false := by
    rw [Markup.isVoid, h]
    decide
  have hkind := openingKind_append name []
  rwa [List.append_nil, if_neg (by simp [hslash, hvoid])] at hkind

/-- The tags of a style element stand around its body, which is one piece. -/
theorem yields_style {closer body : Text} (hcloser : Text.toLower closer = "style".toList)
    (hbody : ¬"</style".toList <:+: Text.toLower body) :
    Yields (element name body closer)
      [.tag .opening name ('<' :: name ++ ['>']), .plain body,
        .tag .closing closer ('<' :: '/' :: closer ++ ['>'])] := by
  intro rest
  have hname := isName_style h
  have hraw : Markup.isRawText name = true := by
    rw [Markup.isRawText, h]
    decide
  have hsplit : element name body closer ++ rest
      = '<' :: (name ++ ([] ++ '>' :: (body ++ ('<' :: '/' :: closer ++ '>' :: rest)))) := by
    simp [element]
  have hread := readTag?_opening hname (by simp) passes_nil
    (body ++ ('<' :: '/' :: closer ++ '>' :: rest))
  rw [List.append_nil, openingKind_style h] at hread
  -- The search for the end of the body stops at the closing tag, in either spelling.
  have hend : rawBody name (body ++ ('<' :: '/' :: closer ++ '>' :: rest))
      = (body, '<' :: '/' :: closer ++ '>' :: rest) :=
    rawBody_append (by rw [hcloser, h]) (by rw [h]; decide) (by rwa [h]) ('>' :: rest)
  have hclosing := yields_closing (isName_style hcloser) (by simp) passes_nil rest
  rw [hsplit, pieces_bracket, lexeme_of_readTag? (hname.head?_ne _ (by decide))
    (hname.head?_ne _ (by decide)) hread, if_pos ⟨rfl, hraw⟩, hend]
  simpa using hclosing

end

/-- The tags of a style element stand behind those of a complete text, and before those of
what follows. -/
theorem scan_style {before opener body closer : Text} (hbefore : IsComplete before)
    (hopener : Text.toLower opener = "style".toList)
    (hcloser : Text.toLower closer = "style".toList)
    (hbody : ¬"</style".toList <:+: Text.toLower body) (after : Text) :
    scan (before ++ element opener body closer ++ after)
      = scan before ++
        [{ kind := .opening, name := opener, start := Text.utf8Size before,
           stop := Text.utf8Size before + 7 },
          { kind := .closing, name := closer,
            start := Text.utf8Size before + 7 + Text.utf8Size body,
            stop := Text.utf8Size before + 7 + Text.utf8Size body + 8 }] ++
        (scan after).map (shift (Text.utf8Size before + 7 + Text.utf8Size body + 8)) := by
  have hyields := hbefore.yields.append (yields_style hopener hcloser hbody) after
  have hopening : Text.utf8Size ('<' :: opener ++ ['>']) = 7 := by
    rw [Text.utf8Size_append, Text.utf8Size, utf8Size_style hopener]
    rfl
  have hclosing : Text.utf8Size ('<' :: '/' :: closer ++ ['>']) = 8 := by
    rw [Text.utf8Size_append, Text.utf8Size, Text.utf8Size, utf8Size_style hcloser]
    rfl
  -- The pieces before fix where the element starts, and its three pieces where it ends.
  rw [scan, hyields, List.append_assoc, ofPieces_append, Nat.zero_add, size_pieces,
    List.append_assoc]
  congr 1
  show ofPieces _ (.tag _ _ _ :: .plain body :: .tag _ _ _ :: pieces after) = _
  rw [ofPieces, ofPieces, ofPieces, hopening, hclosing, ofPieces_pieces]
  rfl

/-- Behind a text in which comments and tags are complete, a style element has its two tags at
its place, whatever its body, and the document is scanned afresh behind it. So with any other
body of the same size the tags are the same, and so is the region around each offset. -/
theorem scan_opaque {before body : Text} (hbefore : IsComplete before)
    (hbody : ¬"</style".toList <:+: Text.toLower body) (after : Text) :
    scan (before ++ element "style" body "style" ++ after)
      = scan before ++
        [{ kind := .opening, name := "style", start := Text.utf8Size before,
           stop := Text.utf8Size before + 7 },
          { kind := .closing, name := "style",
            start := Text.utf8Size before + 7 + Text.utf8Size body,
            stop := Text.utf8Size before + 7 + Text.utf8Size body + 8 }] ++
        (scan after).map (shift (Text.utf8Size before + 7 + Text.utf8Size body + 8)) ∧
    ∀ other, ¬"</style".toList <:+: Text.toLower other →
      Text.utf8Size other = Text.utf8Size body →
      scan (before ++ element "style" other "style" ++ after)
        = scan (before ++ element "style" body "style" ++ after) ∧
      ∀ offset, Region.at? (before ++ element "style" other "style" ++ after) offset
        = Region.at? (before ++ element "style" body "style" ++ after) offset := by
  have hstyle : Text.toLower "style".toList = "style".toList := by decide
  have hscan := scan_style hbefore hstyle hstyle hbody after
  refine ⟨hscan, fun other hother hsize => ?_⟩
  have hsame : scan (before ++ element "style" other "style" ++ after)
      = scan (before ++ element "style" body "style" ++ after) := by
    rw [hscan, scan_style hbefore hstyle hstyle hother after, hsize]
  refine ⟨hsame, fun offset => ?_⟩
  rw [Region.at?, Region.all, hsame, ← Region.all, ← Region.at?]

/-- A text with a comment that holds a tag, and a tag that holds another one in quotes. -/
def quotedTag : Text :=
  "a<!-- <style> --><p x='<b>'></p>"

theorem isComplete_quotedTag : IsComplete quotedTag := by
  have hname : IsName "p" := ⟨⟨'p', by decide, by decide⟩, List.all_eq_true.1 (by decide)⟩
  have hvalue : IsAttributeText ('\'' :: "<b>".toList ++ ['\''] ++ []) :=
    .quoted (.inr rfl) (by decide) .nil
  have hquoted : IsAttributeText " x='<b>'".toList :=
    .char (by decide) <| .char (by decide) <| .char (by decide) hvalue
  have hblank : ∀ c ∈ " x='<b>'".toList.head?, isNameChar c = false := by
    rintro c ⟨⟩
    decide
  have hopening : IsTagText "p" " x='<b>'" := ⟨hname, by decide, hblank, hquoted⟩
  have hclosing : IsTagText "p" [] := ⟨hname, by decide, by simp, .nil⟩
  exact .plain (s := ['a']) (by decide) <| .comment (c := " <style> ".toList) (by decide) <|
    .opening hopening <| .closing hclosing .nil

theorem scan_opaque_quotedTag :
    scan (quotedTag ++ element "style" "<p '<!--" "style" ++ "<br>".toList)
      = scan quotedTag ++ [⟨.opening, "style", 32, 39⟩, ⟨.closing, "style", 47, 55⟩] ++
        (scan "<br>").map (shift 55) ∧
    ∀ offset, Region.at? (quotedTag ++ element "style" "b:c; d:e" "style" ++ "<br>".toList) offset
      = Region.at? (quotedTag ++ element "style" "<p '<!--" "style" ++ "<br>".toList) offset := by
  have hbody : ¬"</style".toList <:+: Text.toLower "<p '<!--".toList := by decide
  obtain ⟨hscan, hother⟩ := scan_opaque isComplete_quotedTag hbody "<br>".toList
  exact ⟨hscan, (hother "b:c; d:e" (by decide) (by decide)).2⟩

end Tag

end Shorthand
