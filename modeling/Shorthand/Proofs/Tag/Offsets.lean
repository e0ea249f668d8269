import Shorthand.Proofs.Tag.Turn

/-!
# `Shorthand.Proofs.Tag.Offsets`: scanning by offsets

`turn?` is one turn of a loop that scans a document by offsets, and has no result if a single
cut of the document does not exist. `Loop` says of the turns from an offset on that all of them
have results and that they come to an end, and which tags they find on the way.

- `exists_turn`: from every boundary a turn has a result, and moves ahead to a boundary;
- `loop_pieces`: the turns find the tags of the pieces that are left;
- `exists_cut_of_mem_scan`: a tag stands between an opening bracket and a closing one;
- `scan_by_offsets`: these together.
-/

set_option autoImplicit false

namespace Shorthand

namespace Tag

/-- From an offset on the loop comes to its end, and finds tags on the way. -/
inductive Loop (s : Text) : Nat → List Tag → Prop
  | finished {pos : Nat} (h : turn? s pos = some .finished) : Loop s pos []
  | moved {pos next : Nat} {tags : List Tag} (h : turn? s pos = some (.moved next))
      (hmore : Loop s next tags) : Loop s pos tags
  | found {pos next : Nat} {tag : Tag} {tags : List Tag}
      (h : turn? s pos = some (.found tag next)) (hmore : Loop s next tags) :
      Loop s pos (tag :: tags)

/-! ### One turn -/

theorem next?_over (start : Nat) (ps : List Piece) :
    (Turn.over start ps).next? = some (start + size ps) := by
  unfold Turn.over
  split <;> rfl

/-- The pieces at a bracket stand where the bracket does. -/
theorem append_lexeme (before rest : Text) :
    before ++ ((lexeme rest).1.map Piece.source).flatten ++ (lexeme rest).2
      = before ++ '<' :: rest := by
  rw [List.append_assoc, (source_lexeme rest).2]

/-- From every boundary a turn has a result. It moves on, and to a boundary again. -/
theorem exists_turn {s : Text} {pos : Nat} (h : Text.IsBoundary s pos) :
    ∃ turn, turn? s pos = some turn ∧
      ∀ next ∈ turn.next?, pos < next ∧ Text.IsBoundary s next := by
  obtain ⟨before, after, rfl, rfl⟩ := h
  by_cases hmem : '<' ∈ after
  · obtain ⟨plain, rest, rfl, hplain⟩ := List.eq_append_cons_of_mem hmem
    refine ⟨_, turn?_bracket hplain before rest, fun next hnext => ?_⟩
    have hgrows := Text.utf8Size_pos (List.ne_nil_of_length_pos (source_lexeme rest).1)
    rw [next?_over, Option.mem_some_iff] at hnext
    subst hnext
    refine ⟨?_, ?_⟩
    · rw [Text.utf8Size_append, size]
      omega
    · rw [size, ← Text.utf8Size_append, ← List.append_assoc, ← append_lexeme]
      exact Text.isBoundary_append _ _
  · exact ⟨.finished, turn?_finished hmem before, by simp [Turn.next?]⟩

/-! ### The whole loop -/

theorem ofPieces_plain (offset : Nat) (s : Text) :
    ofPieces offset (s.map fun c => .plain [c]) = [] := by
  induction s generalizing offset with
  | nil => rfl
  | cons c s ih => rw [List.map_cons, ofPieces, ih]

theorem size_plain {s : Text} (h : '<' ∉ s) :
    size (s.map fun c => .plain [c]) = Text.utf8Size s := by
  rw [← (yields_plain h).pieces_eq, size_pieces]

/-- In one step at most one tag is read. -/
theorem ofPieces_lexeme (offset : Nat) (s : Text) :
    ofPieces offset (lexeme s).1 = [] ∨ ∃ tag, ofPieces offset (lexeme s).1 = [tag] := by
  -- Comments, data and declarations come first and are no tags. Of what is read after them only
  -- a tag with its body makes more than one piece, and the body is plain.
  unfold lexeme
  split
  · exact .inl rfl
  · split
    · exact .inl rfl
    · split
      · exact .inl rfl
      · split
        · exact .inl rfl
        · split <;> exact .inr ⟨_, rfl⟩
        · rename_i piece rest _ _
          cases piece with
          | plain => exact .inl rfl
          | tag => exact .inr ⟨_, rfl⟩

/-- From a place on, the turns find the tags of the pieces behind it. -/
theorem loop_pieces (before s : Text) :
    Loop (before ++ s) (Text.utf8Size before) (ofPieces (Text.utf8Size before) (pieces s)) := by
  -- A turn goes over all pieces up to the next bracket and over those at it, so the induction is
  -- on the length of what is left.
  induction hn : s.length using Nat.strong_induction_on generalizing before s with
  | h n ih =>
    by_cases hmem : '<' ∈ s
    · obtain ⟨plain, rest, rfl, hplain⟩ := List.eq_append_cons_of_mem hmem
      have hturn := turn?_bracket hplain before rest
      have hshorter : (lexeme rest).2.length < n := by
        have hle := lexeme_length rest
        rw [← hn, List.length_append, List.length_cons]
        omega
      have hmore := ih _ hshorter (before ++ plain ++ ((lexeme rest).1.map Piece.source).flatten)
        (lexeme rest).2 rfl
      rw [append_lexeme, List.append_assoc before, Text.utf8Size_append, ← size] at hmore
      rw [yields_plain hplain, ofPieces_append, ofPieces_plain, size_plain hplain, List.nil_append,
        pieces_bracket, ofPieces_append, ← Text.utf8Size_append]
      unfold Turn.over at hturn
      obtain hnone | ⟨tag, htag⟩ := ofPieces_lexeme (Text.utf8Size (before ++ plain)) rest
      · rw [hnone] at hturn ⊢
        exact .moved hturn hmore
      · rw [htag] at hturn ⊢
        exact .found hturn hmore
    · rw [(yields_plain hmem).pieces_eq, ofPieces_plain]
      exact .finished (turn?_finished hmem before)

theorem loop_scan (s : Text) : Loop s 0 (scan s) :=
  loop_pieces [] s

/-- The loop can go only one way. -/
theorem Loop.unique {s : Text} {pos : Nat} {tags others : List Tag} (h : Loop s pos tags)
    (hother : Loop s pos others) : tags = others := by
  induction h generalizing others with
  | finished h => cases hother <;> simp_all
  | moved h _ ih =>
    cases hother with
    | finished h' => simp_all
    | moved h' hmore =>
      rw [h, Option.some.injEq, Turn.moved.injEq] at h'
      exact ih (h' ▸ hmore)
    | found h' => simp_all
  | found h _ ih =>
    cases hother with
    | finished h' => simp_all
    | moved h' => simp_all
    | found h' hmore =>
      rw [h, Option.some.injEq, Turn.found.injEq] at h'
      obtain ⟨rfl, rfl⟩ := h'
      rw [ih hmore]

/-! ### Where tags stand -/

theorem exists_cut_of_mem_ofPieces {offset : Nat} {ps : List Piece} {t : Tag}
    (h : t ∈ ofPieces offset ps) :
    ∃ front source back, ps = front ++ .tag t.kind t.name source :: back ∧
      t.start = offset + size front ∧ t.stop = offset + size front + Text.utf8Size source := by
  induction ps generalizing offset with
  | nil => simp [ofPieces] at h
  | cons piece ps ih =>
    cases piece with
    | plain source =>
      obtain ⟨front, source', back, rfl, hstart, hstop⟩ := ih h
      refine ⟨.plain source :: front, source', back, rfl, ?_, ?_⟩
      · rw [hstart, size_cons, Piece.source, Nat.add_assoc]
      · rw [hstop, size_cons, Piece.source, Nat.add_assoc offset]
    | tag kind name source =>
      obtain rfl | hmore := List.mem_cons.1 h
      · exact ⟨[], source, ps, rfl, rfl, rfl⟩
      · obtain ⟨front, source', back, rfl, hstart, hstop⟩ := ih hmore
        refine ⟨.tag kind name source :: front, source', back, rfl, ?_, ?_⟩
        · rw [hstart, size_cons, Piece.source, Nat.add_assoc]
        · rw [hstop, size_cons, Piece.source, Nat.add_assoc offset]

/-- A tag starts with an opening bracket and stops behind a closing one. -/
theorem exists_source_eq {s name source : Text} {kind : Kind}
    (h : .tag kind name source ∈ pieces s) : ∃ inner, source = '<' :: inner ++ ['>'] := by
  obtain ⟨t, after, hread⟩ := exists_readTag?_of_mem h
  obtain ⟨closing, body, -, hnamed, -⟩ := exists_slashOf t
  obtain ⟨-, inner, -, hpiece⟩ := readNamed?_eq_some_iff.1 (hnamed.symm.trans hread)
  refine ⟨slashOf closing ++ body.takeWhile isNameChar ++ inner, ?_⟩
  rw [(Piece.tag.inj hpiece).2.2]
  simp

theorem exists_cut_of_mem_scan {s : Text} {t : Tag} (h : t ∈ scan s) :
    ∃ before inner after, s = before ++ ('<' :: inner ++ ['>']) ++ after ∧
      t.start = Text.utf8Size before ∧
      t.stop = Text.utf8Size (before ++ ('<' :: inner ++ ['>'])) := by
  obtain ⟨front, source, back, hpieces, hstart, hstop⟩ := exists_cut_of_mem_ofPieces h
  obtain ⟨inner, rfl⟩ : ∃ inner, source = '<' :: inner ++ ['>'] :=
    exists_source_eq (by rw [hpieces]; exact List.mem_append_right _ List.mem_cons_self)
  have hdoc := source_pieces s
  rw [hpieces] at hdoc
  refine ⟨(front.map Piece.source).flatten, inner, (back.map Piece.source).flatten, ?_, ?_, ?_⟩
  · rw [← hdoc]
    simp [Piece.source]
  · rw [hstart, Nat.zero_add, size]
  · rw [hstop, Nat.zero_add, size, ← Text.utf8Size_append]

/-- The bytes at the two ends of a cut are its brackets. -/
theorem bytes_of_cut {s before inner after : Text} {t : Tag}
    (hdoc : s = before ++ ('<' :: inner ++ ['>']) ++ after)
    (hstart : t.start = Text.utf8Size before)
    (hstop : t.stop = Text.utf8Size (before ++ ('<' :: inner ++ ['>']))) :
    (Text.toUtf8 s)[t.start]? = some '<'.toUInt8 ∧
      (Text.toUtf8 s)[t.stop - 1]? = some '>'.toUInt8 := by
  constructor
  · rw [hstart, hdoc, List.append_assoc]
    exact Text.getElem?_toUtf8_append (by decide) before (inner ++ ['>'] ++ after)
  · have hlast : t.stop - 1 = Text.utf8Size (before ++ '<' :: inner) := by
      have hone : Text.utf8Size ['>'] = 1 := rfl
      rw [hstop, ← List.append_assoc, Text.utf8Size_append _ ['>'], hone, Nat.add_sub_cancel]
    have hsplit : s = before ++ '<' :: inner ++ '>' :: after := by
      rw [hdoc]
      simp
    rw [hlast, hsplit]
    exact Text.getElem?_toUtf8_append (by decide) (before ++ '<' :: inner) after

/-- Scanning by offsets misses no cut. From every boundary a turn of the loop has a result, and
moves ahead to a boundary again. So from the start of a document the loop comes to its end, and
finds the tags of the document. A tag stands between two brackets and at boundaries, and starts
where the one before it has ended or later. -/
theorem scan_by_offsets (s : Text) :
    (∀ tags, Loop s 0 tags ↔ tags = scan s) ∧
    (∀ pos, Text.IsBoundary s pos → ∃ turn, turn? s pos = some turn ∧
      ∀ next ∈ turn.next?, pos < next ∧ Text.IsBoundary s next) ∧
    (∀ t ∈ scan s, t.start < t.stop ∧ t.stop ≤ Text.utf8Size s ∧
      (Text.toUtf8 s)[t.start]? = some '<'.toUInt8 ∧
      (Text.toUtf8 s)[t.stop - 1]? = some '>'.toUInt8 ∧
      Text.IsBoundary s t.start ∧ Text.IsBoundary s t.stop) ∧
    (scan s).Pairwise fun t next => t.stop ≤ next.start := by
  have horder := inOrder_scan s
  refine ⟨fun tags => ⟨fun h => h.unique (loop_scan s), ?_⟩, fun pos => exists_turn, ?_,
    horder.stop_le_start⟩
  · rintro rfl
    exact loop_scan s
  · intro t ht
    obtain ⟨before, inner, after, hdoc, hstart, hstop⟩ := exists_cut_of_mem_scan ht
    obtain ⟨hopen, hclose⟩ := bytes_of_cut hdoc hstart hstop
    have hstartBoundary : Text.IsBoundary s t.start :=
      ⟨before, '<' :: inner ++ ['>'] ++ after, by rw [hdoc, List.append_assoc], hstart.symm⟩
    have hstopBoundary : Text.IsBoundary s t.stop := ⟨_, after, hdoc, hstop.symm⟩
    exact ⟨horder.start_lt_stop t ht, hstopBoundary.le, hopen, hclose, hstartBoundary,
      hstopBoundary⟩

/-- A comment, a tag cut short by another one that quotes a bracket, and a tag without an end. -/
def brokenTags : Text :=
  "é<!--<b>--><a <p t='>'>ü</p"

theorem scan_by_offsets_brokenTags :
    Loop brokenTags 0 [⟨.opening, "p", 15, 24⟩] ∧
    (Text.IsBoundary brokenTags 12 ∧ ∃ turn, turn? brokenTags 12 = some turn ∧
      ∀ next ∈ turn.next?, 12 < next ∧ Text.IsBoundary brokenTags next) ∧
    (⟨.opening, "p", 15, 24⟩ ∈ scan brokenTags ∧ 24 ≤ Text.utf8Size brokenTags ∧
      (Text.toUtf8 brokenTags)[15]? = some '<'.toUInt8 ∧
      (Text.toUtf8 brokenTags)[23]? = some '>'.toUInt8 ∧
      Text.IsBoundary brokenTags 15 ∧ Text.IsBoundary brokenTags 24) := by
  obtain ⟨hloop, hturn, htags, -⟩ := scan_by_offsets brokenTags
  have hscan : scan brokenTags = [⟨.opening, "p", 15, 24⟩] := by decide +kernel
  have hmem : ⟨.opening, "p", 15, 24⟩ ∈ scan brokenTags := by
    rw [hscan]
    exact List.mem_cons_self
  have hboundary : Text.IsBoundary brokenTags 12 :=
    ⟨"é<!--<b>-->".toList, "<a <p t='>'>ü</p".toList, by decide, by decide⟩
  exact ⟨(hloop _).2 hscan.symm, ⟨hboundary, hturn 12 hboundary⟩, hmem, (htags _ hmem).2⟩

end Tag

end Shorthand
