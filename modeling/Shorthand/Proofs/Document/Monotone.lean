import Mathlib.Data.List.Infix
import Shorthand.Proofs.Document.Inverse

/-!
# `Shorthand.Proofs.Document.Monotone`: offsets of arbitrary positions

An editor may send any two numbers as a position, and any two positions as a range, the later
one first as well. Whatever they are, offsets stay between characters and in order:

- `Clamped.isPrefix`: the place that a position is taken for is a beginning of the text;
- `offsetAt_le_offsetAt`: a later position has no smaller offset;
- `exists_change`: a change replaces what lies between two beginnings of the text;
- `offsetAt_boundary_monotone`: these together, with the part of the line before a position.
-/

set_option autoImplicit false

namespace Shorthand

/-- The order of positions in a text: by line, and on one line by column. -/
instance : LE Position where
  le p q := p.line < q.line ∨ p.line = q.line ∧ p.column ≤ q.column

namespace Text

/-! ### Beginnings of a text -/

theorem utf8Size_le_of_isPrefix {s t : Text} (h : s <+: t) : utf8Size s ≤ utf8Size t := by
  obtain ⟨rest, rfl⟩ := h
  rw [utf8Size_append]
  omega

/-- More units take no less of a line. -/
theorem takeUnits_isPrefix_takeUnits {m n : Nat} (h : m ≤ n) (s : Text) :
    takeUnits m s <+: takeUnits n s := by
  induction s generalizing m n with
  | nil => exact List.nil_prefix
  | cons c rest ih =>
    cases m with
    | zero => exact List.nil_prefix
    | succ m =>
      obtain ⟨k, rfl⟩ : ∃ k, n = k + 1 := ⟨n - 1, by omega⟩
      exact (List.prefix_cons_inj c).2 (ih (Nat.sub_le_sub_right h _))

/-- The place that a position is taken for is a beginning of the text. -/
theorem Clamped.isPrefix {t before : Text} {p : Position} (h : Clamped t p before) :
    before <+: t := by
  cases h with
  | @place n above front rest below line =>
    exact ⟨rest ++ below, by rw [line.eq_append]; simp⟩
  | @beyondLine n column above content below line _ =>
    exact ⟨below, by rw [line.eq_append]; simp⟩
  | @insidePair n column above front rest below c line _ _ =>
    exact ⟨rest ++ below, by rw [line.eq_append]; simp⟩
  | beyondText => exact List.prefix_rfl

/-- The offset of a position is the size of a beginning of the text. -/
theorem exists_isPrefix_offsetAt (t : Text) (p : Position) :
    ∃ before, before <+: t ∧ offsetAt t p = utf8Size before := by
  obtain ⟨before, h⟩ := exists_clamped t p
  exact ⟨before, h.isPrefix, h.offsetAt⟩

/-! ### Order -/

/-- A line ends before the lines below it start. -/
theorem LineAt.isPrefix_above {t above content below above' content' below' : Text} {m n : Nat}
    (h : LineAt t m above content below) (h' : LineAt t n above' content' below')
    (hlt : m < n) : above ++ content <+: above' := by
  obtain ⟨ending, rest, -, -, hon, -⟩ := h.exists_onLine
  obtain ⟨ending', rest', -, -, hon', -⟩ := h'.exists_onLine
  obtain ⟨hm, hline⟩ := List.getElem?_eq_some_iff.1 hon.getElem?_lines
  have htake : ((lines t).take (m + 1)).flatten = above ++ content ++ ending := by
    rw [List.take_succ_eq_append_getElem hm, List.flatten_append, ← hon.above_eq, hline]
    simp
  have hlines : ((lines t).take (m + 1)).flatten <+: ((lines t).take n).flatten :=
    List.IsPrefix.flatten (List.take_prefix_take_left hlt)
  rw [htake, ← hon'.above_eq] at hlines
  exact (List.prefix_append _ ending).trans hlines

/-- A later position has no smaller offset. -/
theorem offsetAt_le_offsetAt {t : Text} {p q : Position} (h : p ≤ q) :
    offsetAt t p ≤ offsetAt t q := by
  obtain ⟨m, column⟩ := p
  obtain ⟨n, column'⟩ := q
  obtain hn | hn := Nat.lt_or_ge (lineEnds t) n
  · -- The later position is at the end of the text.
    obtain ⟨before, hbefore, hoffset⟩ := exists_isPrefix_offsetAt t ⟨m, column⟩
    have hend : offsetAt t ⟨n, column'⟩ = utf8Size t := offsetAt_of_lineEnds_lt hn
    rw [hend, hoffset]
    exact utf8Size_le_of_isPrefix hbefore
  · obtain ⟨above', content', below', hline'⟩ := exists_lineAt hn
    obtain hlt | ⟨heq, hcolumn⟩ : m < n ∨ m = n ∧ column ≤ column' := h
    · obtain ⟨above, content, below, hline⟩ := exists_lineAt (hlt.le.trans hn)
      rw [hline.offsetAt, hline'.offsetAt]
      apply utf8Size_le_of_isPrefix
      calc above ++ takeUnits column content
        _ <+: above ++ content := (List.prefix_append_right_inj above).2 (takeUnits_isPrefix _ _)
        _ <+: above' := hline.isPrefix_above hline' hlt
        _ <+: above' ++ takeUnits column' content' := List.prefix_append _ _
    · subst heq
      rw [hline'.offsetAt, hline'.offsetAt]
      apply utf8Size_le_of_isPrefix
      exact (List.prefix_append_right_inj above').2 (takeUnits_isPrefix_takeUnits hcolumn _)

/-! ### Changes -/

theorem splice_max (t : Text) (start stop : Nat) (new : Text) :
    splice t start (max start stop) new = splice t start stop new := by
  rw [splice, splice, ← Nat.max_assoc, Nat.max_self]

/-- A change replaces what lies between two beginnings of the text, the start of its range and
the later one of its two ends. -/
theorem exists_change (t new : Text) (range : Range) :
    ∃ before between after, t = before ++ between ++ after ∧
      utf8Size before = offsetAt t range.start ∧
      utf8Size (before ++ between)
        = max (offsetAt t range.start) (offsetAt t range.stop) ∧
      change t { range := some range, text := new } = before ++ new ++ after := by
  obtain ⟨before, hbefore, hstart⟩ := exists_isPrefix_offsetAt t range.start
  obtain ⟨upto, hupto, hstop⟩ := exists_isPrefix_offsetAt t range.stop
  -- Of two beginnings of one text one is a beginning of the other.
  obtain ⟨between, after, rfl, hmax⟩ : ∃ between after, t = before ++ between ++ after ∧
      utf8Size (before ++ between) = max (utf8Size before) (utf8Size upto) := by
    obtain ⟨between, rfl⟩ | hle := List.prefix_or_prefix_of_prefix hbefore hupto
    · obtain ⟨after, rfl⟩ := hupto
      exact ⟨between, after, rfl, by rw [utf8Size_append]; omega⟩
    · obtain ⟨after, rfl⟩ := hbefore
      have hsize := utf8Size_le_of_isPrefix hle
      exact ⟨[], after, by simp, by rw [List.append_nil]; omega⟩
  refine ⟨before, between, after, rfl, hstart.symm, by rw [hmax, hstart, hstop], ?_⟩
  show splice _ (offsetAt _ range.start) (offsetAt _ range.stop) new = _
  rw [← splice_max, hstart, hstop, ← hmax, splice_append]

/-- Offsets of positions lie between characters and in order, so a change replaces what lies
between two places in order, and the part of a line before a position lies on this line. -/
theorem offsetAt_boundary_monotone (t : Text) :
    (∀ p, ∃ before after, t = before ++ after ∧ offsetAt t p = utf8Size before) ∧
    (∀ p q : Position, p ≤ q → offsetAt t p ≤ offsetAt t q) ∧
    (∀ range new, ∃ before between after, t = before ++ between ++ after ∧
      utf8Size before = offsetAt t range.start ∧
      utf8Size (before ++ between)
        = max (offsetAt t range.start) (offsetAt t range.stop) ∧
      change t { range := some range, text := new } = before ++ new ++ after) ∧
    (∀ p above content below, LineAt t p.line above content below →
      linePrefixAt t p <+: content ∧
      (lineStarts t)[p.line]? = some (utf8Size above) ∧
      offsetAt t p = utf8Size (above ++ linePrefixAt t p)) ∧
    ∀ p : Position, lineEnds t < p.line → linePrefixAt t p = [] := by
  refine ⟨fun p => ?_, fun p q => offsetAt_le_offsetAt, fun range new => exists_change t new range,
    ?_, fun p => linePrefixAt_of_lineEnds_lt⟩
  · obtain ⟨before, ⟨after, happend⟩, hoffset⟩ := exists_isPrefix_offsetAt t p
    exact ⟨before, after, happend.symm, hoffset⟩
  · rintro ⟨n, column⟩ above content below hline
    obtain ⟨ending, rest, -, -, hon, -⟩ := hline.exists_onLine
    rw [hline.offsetAt, hline.linePrefixAt]
    exact ⟨takeUnits_isPrefix _ _, hon.getElem?_lineStarts, rfl⟩

/-- Columns beyond a line and inside a pair, and a range from the end of the text back to the
inside of a pair. -/
theorem offsetAt_boundary_monotone_pairedLines :
    (⟨0, 9⟩ : Position) ≤ ⟨1, 0⟩ ∧
    offsetAt pairedLines ⟨0, 9⟩ ≤ offsetAt pairedLines ⟨1, 0⟩ ∧
    linePrefixAt pairedLines ⟨0, 2⟩ <+: ['é', '😀'] ∧ linePrefixAt pairedLines ⟨7, 2⟩ = [] ∧
    ∃ before between after, pairedLines = before ++ between ++ after ∧
      utf8Size before = offsetAt pairedLines ⟨7, 0⟩ ∧
      utf8Size (before ++ between)
        = max (offsetAt pairedLines ⟨7, 0⟩) (offsetAt pairedLines ⟨0, 2⟩) ∧
      change pairedLines { range := some ⟨⟨7, 0⟩, ⟨0, 2⟩⟩, text := "!" }
        = before ++ "!" ++ after := by
  obtain ⟨-, hmono, hchange, hbegins, hbelow⟩ := offsetAt_boundary_monotone pairedLines
  have hle : (⟨0, 9⟩ : Position) ≤ ⟨1, 0⟩ := .inl (by decide)
  exact ⟨hle, hmono _ _ hle, (hbegins ⟨0, 2⟩ _ _ _ lineAt_pairedLines).1,
    hbelow ⟨7, 2⟩ (by decide), hchange ⟨⟨7, 0⟩, ⟨0, 2⟩⟩ "!"⟩

end Text

end Shorthand
