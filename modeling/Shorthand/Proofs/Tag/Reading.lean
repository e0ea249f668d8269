import Mathlib.Data.List.TakeWhile
import Shorthand.Tag.Scanner

/-!
# `Shorthand.Proofs.Tag.Reading`: scanning what was put together

A document is often known by its parts: some text, a tag, more text. `Yields s found` says
that the scanner cuts `s` into the pieces `found` wherever `s` stands outside a tag, and is
outside a tag again behind it. Parts that yield so can be joined (`Yields.append`), so a
document is scanned one part at a time. `Reads s found` says the same of the tags alone,
without their places.

- `yields_plain`: text without an angle bracket holds no tag;
- `yields_opening`, `yields_closing`: a complete tag is found as it is.

What stands between the name of a tag and its last bracket is put together in the same
way. `Passes s` says that the scanner goes through `s` inside a tag and has no quote open
behind it, whatever brackets are quoted in `s`.
-/

set_option autoImplicit false

namespace Shorthand

namespace Tag

/-! ### Tags without their places -/

/-- What a tag does, and its name. -/
abbrev Label := Kind × Text

/-- A tag without its place. -/
def label (t : Tag) : Label :=
  (t.kind, t.name)

/-- The label of a piece that is a tag. -/
def Piece.label? : Piece → Option Label
  | plain _ => none
  | tag kind name _ => some (kind, name)

/-- The labels of the tags of a document. -/
def labels (s : Text) : List Label :=
  (pieces s).filterMap Piece.label?

theorem map_label_ofPieces (offset : Nat) (ps : List Piece) :
    (ofPieces offset ps).map label = ps.filterMap Piece.label? := by
  induction ps generalizing offset with
  | nil => rfl
  | cons piece rest ih =>
    cases piece with
    | plain source => rw [ofPieces, ih, List.filterMap_cons_none rfl]
    | tag kind name source =>
      have hlabel : (Piece.tag kind name source).label? = some (kind, name) := rfl
      rw [ofPieces, List.map_cons, ih, List.filterMap_cons_some hlabel, label]

theorem map_label_scan (s : Text) : (scan s).map label = labels s :=
  map_label_ofPieces 0 (pieces s)

/-! ### Inside a tag -/

/-- Inside a tag and outside quotes, the scanner goes through `s` and is outside quotes
again. -/
def Passes (s : Text) : Prop :=
  ∀ rest, tagTail? none (s ++ rest)
    = (tagTail? none rest).map fun (tail, after) => (s ++ tail, after)

theorem passes_nil : Passes [] := by
  intro rest
  cases h : tagTail? none rest <;> simp [h]

theorem Passes.append {s t : Text} (hs : Passes s) (ht : Passes t) : Passes (s ++ t) := by
  intro rest
  rw [List.append_assoc, hs, ht, Option.map_map]
  congr 1
  funext ⟨tail, after⟩
  simp

/-- A character that is neither a bracket nor a quote. -/
theorem passes_char {c : Char} (h : c ∉ ['<', '>', '"', '\'']) : Passes [c] := by
  intro rest
  simp only [List.mem_cons, List.not_mem_nil, or_false, not_or] at h
  obtain ⟨hopen, hclose, hdouble, hsingle⟩ := h
  rw [List.singleton_append, tagTail?, if_neg hclose, if_neg hopen,
    if_neg (not_or.2 ⟨hdouble, hsingle⟩)]
  rfl

theorem passes_of_forall {s : Text} (h : ∀ c ∈ s, c ∉ ['<', '>', '"', '\'']) : Passes s := by
  induction s with
  | nil => exact passes_nil
  | cons c rest ih =>
    have hrest := ih fun x hx => h x (List.mem_cons_of_mem _ hx)
    exact (passes_char (h c List.mem_cons_self)).append hrest

/-- Inside quotes the scanner goes on to the next quote of the same kind. -/
theorem tagTail?_quoted {quote : Char} {value : Text} (h : quote ∉ value) (rest : Text) :
    tagTail? (some quote) (value ++ quote :: rest)
      = (tagTail? none rest).map fun (tail, after) => (value ++ quote :: tail, after) := by
  induction value with
  | nil =>
    rw [List.nil_append, tagTail?, if_pos rfl]
    rfl
  | cons c value ih =>
    have hc : c ≠ quote := fun he => h (he ▸ List.mem_cons_self)
    have hvalue : quote ∉ value := fun hm => h (List.mem_cons_of_mem _ hm)
    rw [List.cons_append, tagTail?, if_neg hc, ih hvalue, Option.map_map]
    rfl

/-- A quoted value may hold brackets and quotes of the other kind. -/
theorem passes_quoted {quote : Char} (hquote : quote = '"' ∨ quote = '\'') {value : Text}
    (h : quote ∉ value) : Passes (quote :: value ++ [quote]) := by
  intro rest
  have hcons : quote :: value ++ [quote] ++ rest = quote :: (value ++ quote :: rest) := by simp
  have hclose : quote ≠ '>' := by
    rintro rfl
    exact absurd hquote (by decide)
  have hopen : quote ≠ '<' := by
    rintro rfl
    exact absurd hquote (by decide)
  rw [hcons, tagTail?, if_neg hclose, if_neg hopen, if_pos hquote, tagTail?_quoted h,
    Option.map_map]
  congr 1
  funext ⟨tail, after⟩
  simp

theorem Passes.tagTail? {s : Text} (h : Passes s) (rest : Text) :
    tagTail? none (s ++ '>' :: rest) = some (s ++ ['>'], rest) := by
  rw [h, Tag.tagTail?, if_pos rfl]
  rfl

/-! ### Names -/

/-- A name as the scanner reads it. -/
structure IsName (name : Text) : Prop where
  head : ∃ c, name.head? = some c ∧ c.isAlpha = true
  chars : ∀ c ∈ name, isNameChar c = true

/-- The first letter of a name starts neither a comment, nor a declaration, nor a closing
tag. -/
theorem IsName.head?_ne {name : Text} (h : IsName name) (rest : Text) {c : Char}
    (hc : c.isAlpha = false) : (name ++ rest).head? ≠ some c := by
  obtain ⟨first, hfirst, halpha⟩ := h.head
  rw [List.head?_append, hfirst, Option.some_or]
  rintro ⟨⟩
  rw [halpha] at hc
  exact Bool.noConfusion hc

/-- A text does not start with a text whose first character is another. -/
theorem startsWith_of_head?_ne {s beginning : Text} {c : Char} (h : s.head? ≠ some c) :
    Text.startsWith s (c :: beginning) = false := by
  cases s with
  | nil => rfl
  | cons x rest =>
    have hx : c ≠ x := by
      rintro rfl
      exact h rfl
    simp [Text.startsWith, List.isPrefixOf, hx]

theorem readNamed?_append {name inside : Text} (hname : IsName name)
    (hstops : ∀ c ∈ inside.head?, isNameChar c = false) (hinside : Passes inside)
    (slash rest : Text) :
    readNamed? slash (name ++ (inside ++ '>' :: rest))
      = some (.tag
          (if slash = [] then openingKind name ('<' :: slash ++ name ++ (inside ++ ['>']))
            else .closing)
          name ('<' :: slash ++ name ++ (inside ++ ['>'])), rest) := by
  have hend : ∀ c ∈ (inside ++ '>' :: rest).head?, isNameChar c = false := by
    cases inside with
    | nil =>
      rintro c ⟨⟩
      decide
    | cons x tail => exact hstops
  have htake : (name ++ (inside ++ '>' :: rest)).takeWhile isNameChar = name := by
    rw [List.takeWhile_append_of_pos hname.chars]
    cases h : inside ++ '>' :: rest with
    | nil => simp
    | cons x tail => simp [hend x (by simp [h])]
  have hdrop : (name ++ (inside ++ '>' :: rest)).dropWhile isNameChar
      = inside ++ '>' :: rest := by
    rw [List.dropWhile_append_of_pos hname.chars]
    cases h : inside ++ '>' :: rest with
    | nil => rfl
    | cons x tail => simp [hend x (by simp [h])]
  obtain ⟨first, hfirst, halpha⟩ := hname.head
  simp only [readNamed?, htake, hdrop, hfirst, hinside.tagTail?]
  simp [halpha]

/-- The kind of a complete opening tag by what stands before its last bracket. -/
theorem openingKind_append (name inside : Text) :
    openingKind name ('<' :: name ++ inside ++ ['>'])
      = if ('<' :: name ++ inside).getLast? = some '/' ∨ Markup.isVoid name then .selfClosing
        else .opening := by
  rw [openingKind, List.dropLast_concat]

/-- A complete opening tag, from after its bracket. -/
theorem readTag?_opening {name inside : Text} (hname : IsName name)
    (hstops : ∀ c ∈ inside.head?, isNameChar c = false) (hinside : Passes inside) (rest : Text) :
    readTag? (name ++ (inside ++ '>' :: rest))
      = some (.tag (openingKind name ('<' :: name ++ inside ++ ['>'])) name
          ('<' :: name ++ inside ++ ['>']), rest) := by
  have hslash := hname.head?_ne (inside ++ '>' :: rest) (c := '/') (by decide)
  have hread := readNamed?_append hname hstops hinside [] rest
  unfold readTag?
  split
  · rename_i heq
    rw [heq] at hslash
    exact absurd rfl hslash
  · simpa using hread

/-- A complete closing tag, from after its bracket. -/
theorem readTag?_closing {name inside : Text} (hname : IsName name)
    (hstops : ∀ c ∈ inside.head?, isNameChar c = false) (hinside : Passes inside) (rest : Text) :
    readTag? ('/' :: name ++ (inside ++ '>' :: rest))
      = some (.tag .closing name ('<' :: '/' :: name ++ inside ++ ['>']), rest) := by
  have hread := readNamed?_append hname hstops hinside ['/'] rest
  rw [List.cons_append, readTag?]
  simpa using hread

/-- A tag is one piece. An opening tag of a script or style takes the body with it. -/
theorem lexeme_of_readTag? {s rest source name : Text} {kind : Kind}
    (hbang : s.head? ≠ some '!') (hmark : s.head? ≠ some '?')
    (h : readTag? s = some (.tag kind name source, rest)) :
    lexeme s = if kind = .opening ∧ Markup.isRawText name then
        ([.tag kind name source, .plain (rawBody name rest).1], (rawBody name rest).2)
      else ([.tag kind name source], rest) := by
  have hcomment : Text.startsWith s "!--" = false := startsWith_of_head?_ne hbang
  have hdata : Text.startsWith s "![CDATA[" = false := startsWith_of_head?_ne hbang
  have hdeclared : ¬(s.head? = some '!' ∨ s.head? = some '?') := not_or.2 ⟨hbang, hmark⟩
  rw [lexeme, if_neg (ne_true_of_eq_false hcomment), if_neg (ne_true_of_eq_false hdata),
    if_neg hdeclared, h]
  cases kind <;> simp

/-! ### Parts of a document as pieces -/

theorem pieces_nil : pieces [] = [] := by
  rw [pieces]

theorem pieces_plain {c : Char} (hc : c ≠ '<') (rest : Text) :
    pieces (c :: rest) = .plain [c] :: pieces rest := by
  rw [pieces, if_neg hc]

theorem pieces_bracket (rest : Text) :
    pieces ('<' :: rest) = (lexeme rest).1 ++ pieces (lexeme rest).2 := by
  rw [pieces, if_pos rfl]

/-- Outside a tag, the scanner cuts `s` into the pieces `found` and is outside a tag again. -/
def Yields (s : Text) (found : List Piece) : Prop :=
  ∀ rest, pieces (s ++ rest) = found ++ pieces rest

theorem Yields.pieces_eq {s : Text} {found : List Piece} (h : Yields s found) :
    pieces s = found := by
  rw [← List.append_nil s, h [], pieces_nil, List.append_nil]

theorem yields_nil : Yields [] [] := by
  intro rest
  rfl

theorem Yields.append {s t : Text} {found more : List Piece} (hs : Yields s found)
    (ht : Yields t more) : Yields (s ++ t) (found ++ more) := by
  intro rest
  rw [List.append_assoc, hs, ht, List.append_assoc]

theorem yields_plain {s : Text} (h : '<' ∉ s) : Yields s (s.map fun c => .plain [c]) := by
  intro rest
  induction s with
  | nil => rfl
  | cons c s ih =>
    have hc : c ≠ '<' := fun he => h (he ▸ List.mem_cons_self)
    rw [List.cons_append, pieces_plain hc, ih fun hm => h (List.mem_cons_of_mem _ hm)]
    rfl

/-- One step of the scanner that stops where `s` ends. -/
theorem yields_bracket {s : Text} {found : List Piece}
    (h : ∀ rest, lexeme (s ++ rest) = (found, rest)) : Yields ('<' :: s) found := by
  intro rest
  rw [List.cons_append, pieces_bracket, h]

/-- A complete opening tag. -/
theorem yields_opening {name inside : Text} (hname : IsName name)
    (hraw : Markup.isRawText name = false)
    (hstops : ∀ c ∈ inside.head?, isNameChar c = false) (hinside : Passes inside) :
    Yields ('<' :: name ++ inside ++ ['>'])
      [.tag (openingKind name ('<' :: name ++ inside ++ ['>'])) name
        ('<' :: name ++ inside ++ ['>'])] := by
  refine yields_bracket (s := name ++ inside ++ ['>']) fun rest => ?_
  have hsplit : name ++ inside ++ ['>'] ++ rest = name ++ (inside ++ '>' :: rest) := by simp
  rw [hsplit, lexeme_of_readTag? (hname.head?_ne _ (by decide)) (hname.head?_ne _ (by decide))
    (readTag?_opening hname hstops hinside rest), if_neg (by simp [hraw])]

/-- A complete closing tag. -/
theorem yields_closing {name inside : Text} (hname : IsName name)
    (hstops : ∀ c ∈ inside.head?, isNameChar c = false) (hinside : Passes inside) :
    Yields ('<' :: '/' :: name ++ inside ++ ['>'])
      [.tag .closing name ('<' :: '/' :: name ++ inside ++ ['>'])] := by
  refine yields_bracket (s := '/' :: name ++ inside ++ ['>']) fun rest => ?_
  have hsplit : '/' :: name ++ inside ++ ['>'] ++ rest
      = '/' :: name ++ (inside ++ '>' :: rest) := by simp
  rw [hsplit, lexeme_of_readTag? (by simp) (by simp)
    (readTag?_closing hname hstops hinside rest), if_neg (by simp)]

/-! ### Parts of a document as labels -/

/-- Outside a tag, the scanner finds the tags `found` in `s` and is outside a tag again. -/
def Reads (s : Text) (found : List Label) : Prop :=
  ∀ rest, labels (s ++ rest) = found ++ labels rest

theorem Yields.reads {s : Text} {found : List Piece} (h : Yields s found) :
    Reads s (found.filterMap Piece.label?) := by
  intro rest
  rw [labels, h, List.filterMap_append, labels]

theorem Reads.labels {s : Text} {found : List Label} (h : Reads s found) :
    labels s = found := by
  have hnil : Tag.labels [] = [] := by
    rw [Tag.labels, pieces_nil]
    rfl
  rw [← List.append_nil s, h [], hnil, List.append_nil]

theorem reads_nil : Reads [] [] :=
  yields_nil.reads

theorem Reads.append {s t : Text} {found more : List Label} (hs : Reads s found)
    (ht : Reads t more) : Reads (s ++ t) (found ++ more) := by
  intro rest
  rw [List.append_assoc, hs, ht, List.append_assoc]

theorem reads_plain {s : Text} (h : '<' ∉ s) : Reads s [] := by
  have hnone : (s.map fun c => Piece.plain [c]).filterMap Piece.label? = [] := by
    rw [List.filterMap_map]
    exact List.filterMap_eq_nil_iff.2 fun _ _ => rfl
  exact hnone ▸ (yields_plain h).reads

theorem reads_opening {name inside : Text} (hname : IsName name)
    (hraw : Markup.isRawText name = false)
    (hstops : ∀ c ∈ inside.head?, isNameChar c = false) (hinside : Passes inside) :
    Reads ('<' :: name ++ inside ++ ['>'])
      [(openingKind name ('<' :: name ++ inside ++ ['>']), name)] :=
  (yields_opening hname hraw hstops hinside).reads

theorem reads_closing {name : Text} (hname : IsName name) :
    Reads ('<' :: '/' :: name ++ ['>']) [(.closing, name)] := by
  have hyields := yields_closing hname (by simp) passes_nil
  rw [List.append_nil] at hyields
  exact hyields.reads

end Tag

end Shorthand
