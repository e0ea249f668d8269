import Shorthand.Proofs.Document.Line

/-!
# `Shorthand.Proofs.Document.Inverse`: positions and offsets are inverse

Offsets between characters and the positions that denote places are two names of the same
places. `offsetAt_positionAt` says so in both directions, and says what becomes of all other
positions and of the offset inside a line end:

- `Clamped`: the place that a position is taken for, said of the text and its lines;
- `exists_clamped` and `Clamped.offsetAt`: there is one for every position, and the offset of
  the position is there;
- `positionAt_cursor`: the position of an offset is where counting from the left arrives.
-/

set_option autoImplicit false

namespace Shorthand

namespace Text

/-- The place that a position is taken for, as the text before it. -/
inductive Clamped (t : Text) : Position → Text → Prop
  /-- A column between two characters of its line, or at one of its ends. -/
  | place {n : Nat} {above front rest below : Text}
      (line : LineAt t n above (front ++ rest) below) :
      Clamped t ⟨n, utf16Size front⟩ (above ++ front)
  /-- A column beyond the line is the end of the line, before its line end. -/
  | beyondLine {n column : Nat} {above content below : Text}
      (line : LineAt t n above content below) (beyond : utf16Size content < column) :
      Clamped t ⟨n, column⟩ (above ++ content)
  /-- A column inside a surrogate pair is the end of the character. -/
  | insidePair {n column : Nat} {above front rest below : Text} {c : Char}
      (line : LineAt t n above (front ++ c :: rest) below) (behind : utf16Size front < column)
      (inside : column < utf16Size front + charUnits c) :
      Clamped t ⟨n, column⟩ (above ++ (front ++ [c]))
  /-- A line below the last one is the end of the text. -/
  | beyondText {n column : Nat} (beyond : lineEnds t < n) : Clamped t ⟨n, column⟩ t

/-! ### Columns -/

theorem utf16Size_append (s t : Text) : utf16Size (s ++ t) = utf16Size s + utf16Size t := by
  induction s with
  | nil => simp [utf16Size]
  | cons c rest ih => rw [List.cons_append, utf16Size, utf16Size, ih, Nat.add_assoc]

theorem takeUnits_of_utf16Size_le {s : Text} {n : Nat} (h : utf16Size s ≤ n) :
    takeUnits n s = s := by
  obtain ⟨k, rfl⟩ := Nat.exists_eq_add_of_le h
  have htake := takeUnits_append s [] k
  rwa [List.append_nil, takeUnits, List.append_nil] at htake

/-- A count that ends inside a character takes the character. -/
theorem takeUnits_inside {c : Char} {n : Nat} (hpos : 0 < n) (h : n < charUnits c)
    (rest : Text) : takeUnits n (c :: rest) = [c] := by
  obtain ⟨k, rfl⟩ := Nat.exists_eq_succ_of_ne_zero hpos.ne'
  rw [takeUnits, Nat.sub_eq_zero_of_le h.le, takeUnits_zero]

/-- A column is behind a beginning of the line, beyond the line, or inside a character. -/
theorem column_cases (content : Text) (column : Nat) :
    (∃ front rest, content = front ++ rest ∧ utf16Size front = column) ∨
    utf16Size content < column ∨
    ∃ front c rest, content = front ++ c :: rest ∧ utf16Size front < column ∧
      column < utf16Size front + charUnits c := by
  induction content generalizing column with
  | nil =>
    cases column with
    | zero => exact .inl ⟨[], [], rfl, rfl⟩
    | succ column => exact .inr (.inl (Nat.succ_pos column))
  | cons c content ih =>
    obtain hlt | hge := Nat.lt_or_ge column (charUnits c)
    · cases column with
      | zero => exact .inl ⟨[], c :: content, rfl, rfl⟩
      | succ column =>
        exact .inr (.inr ⟨[], c, content, rfl, Nat.succ_pos column, by simpa [utf16Size]⟩)
    · obtain ⟨k, rfl⟩ := Nat.exists_eq_add_of_le hge
      obtain ⟨front, rest, rfl, rfl⟩ | hlt | ⟨front, d, rest, rfl, hbehind, hinside⟩ := ih k
      · exact .inl ⟨c :: front, rest, rfl, rfl⟩
      · exact .inr (.inl (by rw [utf16Size]; omega))
      · exact .inr (.inr ⟨c :: front, d, rest, rfl, by rw [utf16Size]; omega,
          by rw [utf16Size]; omega⟩)

/-! ### Positions -/

/-- Every position is taken for a place. -/
theorem exists_clamped (t : Text) (p : Position) : ∃ before, Clamped t p before := by
  obtain ⟨n, column⟩ := p
  obtain hn | hn := Nat.lt_or_ge (lineEnds t) n
  · exact ⟨t, .beyondText hn⟩
  · obtain ⟨above, content, below, hline⟩ := exists_lineAt hn
    obtain ⟨front, rest, rfl, rfl⟩ | hbeyond | ⟨front, c, rest, rfl, hbehind, hinside⟩ :=
      column_cases content column
    · exact ⟨_, .place hline⟩
    · exact ⟨_, .beyondLine hline hbeyond⟩
    · exact ⟨_, .insidePair hline hbehind hinside⟩

/-- The offset of a position is behind the text before its place. -/
theorem Clamped.offsetAt {t before : Text} {p : Position} (h : Clamped t p before) :
    offsetAt t p = utf8Size before := by
  cases h with
  | place line => rw [line.offsetAt, takeUnits_utf16Size_append]
  | beyondLine line beyond => rw [line.offsetAt, takeUnits_of_utf16Size_le beyond.le]
  | insidePair line behind inside =>
    obtain ⟨k, rfl⟩ := Nat.exists_eq_add_of_le behind.le
    rw [line.offsetAt, takeUnits_append, takeUnits_inside (by omega) (by omega)]
  | beyondText beyond => exact offsetAt_of_lineEnds_lt beyond

/-- The position of an offset counts the line ends before it, and the units since the last. -/
theorem positionAt_cursor {before after : Text} (h : ¬SplitsBreak before after) :
    positionAt (before ++ after) (utf8Size before) = cursor before := by
  obtain ⟨above, rest, below, hbefore, -, hline⟩ := exists_lineAt_of_cut h
  have hposition := hline.positionAt
  rwa [← hbefore] at hposition

/-- A cut inside a line end of two characters is one character behind the end of a line. -/
theorem exists_lineAt_of_splitsBreak {before after : Text} (h : SplitsBreak before after) :
    ∃ n above content tail, before = above ++ content ++ ['\r'] ∧ after = '\n' :: tail ∧
      LineAt (before ++ after) n above content ('\r' :: '\n' :: tail) := by
  obtain ⟨init, rfl⟩ : ∃ init, before = init ++ ['\r'] := List.getLast?_eq_some_iff.1 h.1
  obtain ⟨tail, rfl⟩ : ∃ tail, after = '\n' :: tail := List.head?_eq_some_iff.1 h.2
  have hcut : ¬SplitsBreak init ('\r' :: '\n' :: tail) := by simp [SplitsBreak]
  obtain ⟨above, rest, below, hinit, hrest, hline⟩ := exists_lineAt_of_cut hcut
  obtain rfl : rest = [] := by
    cases rest with
    | nil => rfl
    | cons c rest =>
      obtain rfl : '\r' = c := (List.cons.inj hrest).1
      exact absurd (hline.isBreak_content '\r' (by simp)) (by decide)
  obtain rfl : '\r' :: '\n' :: tail = below := hrest
  refine ⟨lineEnds init, above, lastLine init, tail, by rw [← hinit], rfl, ?_⟩
  simpa using hline

/-- The pair in front of the rest of the text ends its line. -/
theorem LineAt.onLine_pair {t above content tail : Text} {n : Nat}
    (h : LineAt t n above content ('\r' :: '\n' :: tail)) :
    OnLine t n above (content ++ ['\r', '\n']) tail := by
  obtain ⟨ending, rest, hbelow, hending, hon, -⟩ := h.exists_onLine
  cases hending with
  | nothing => cases hbelow
  | lineFeed => cases hbelow
  | pair =>
    cases hbelow
    exact hon
  | carriageReturn hwhole =>
    cases hbelow
    exact absurd rfl hwhole

/-- The position inside a line end of two characters is beyond its line, so the way back ends
in front of the line end. -/
theorem offsetAt_positionAt_of_splitsBreak {before after : Text} (h : SplitsBreak before after) :
    offsetAt (before ++ after) (positionAt (before ++ after) (utf8Size before))
      = utf8Size before - 1 := by
  obtain ⟨n, above, content, tail, hbefore, hafter, hline⟩ := exists_lineAt_of_splitsBreak h
  have hposition : positionAt (before ++ after) (utf8Size before)
      = ⟨n, utf16Size (content ++ ['\r'])⟩ := by
    have hon : OnLine (before ++ after) n above ((content ++ ['\r']) ++ ['\n']) tail := by
      simpa using hline.onLine_pair
    have hfound := hon.positionAt (.inl (by simp))
    rwa [← List.append_assoc, ← hbefore] at hfound
  have hbeyond : utf16Size content ≤ utf16Size (content ++ ['\r']) := by
    rw [utf16Size_append]
    omega
  have hsize : utf8Size before = utf8Size (above ++ content) + 1 := by
    rw [hbefore, utf8Size_append]
    rfl
  rw [hposition, hline.offsetAt, takeUnits_of_utf16Size_le hbeyond, hsize, Nat.add_sub_cancel]

/-- Offsets between characters and positions of places are two names of one thing. An offset
inside a line end comes back one byte earlier, and every position has the offset of the place
that it is taken for. -/
theorem offsetAt_positionAt (t : Text) :
    (∀ before after, t = before ++ after → ¬SplitsBreak before after →
      offsetAt t (positionAt t (utf8Size before)) = utf8Size before) ∧
    (∀ before after, t = before ++ after → SplitsBreak before after →
      offsetAt t (positionAt t (utf8Size before)) = utf8Size before - 1) ∧
    (∀ n above front rest below, LineAt t n above (front ++ rest) below →
      positionAt t (offsetAt t ⟨n, utf16Size front⟩) = ⟨n, utf16Size front⟩) ∧
    ∀ p, (∃ before, Clamped t p before) ∧
      ∀ before, Clamped t p before → offsetAt t p = utf8Size before := by
  refine ⟨?_, ?_, ?_, fun p => ⟨exists_clamped t p, fun before h => h.offsetAt⟩⟩
  · rintro before after rfl hcut
    rw [positionAt_cursor hcut, offsetAt_cursor hcut]
  · rintro before after rfl hsplit
    exact offsetAt_positionAt_of_splitsBreak hsplit
  · intro n above front rest below hline
    rw [(Clamped.place hline).offsetAt, hline.positionAt]

/-- A line with a surrogate pair, a line end of two characters, and a last line. -/
def pairedLines : Text := "é😀\r\nb"

theorem lineAt_pairedLines : LineAt pairedLines 0 [] ['é', '😀'] ['\r', '\n', 'b'] where
  eq_append := rfl
  lineEnds_above := rfl
  startsLine := startsLine_nil _
  isBreak_content := by simp [isBreak]
  isBreak_below := by simp [isBreak]

theorem offsetAt_positionAt_pairedLines :
    offsetAt pairedLines (positionAt pairedLines 6) = 6 ∧
    offsetAt pairedLines (positionAt pairedLines 7) = 6 ∧
    positionAt pairedLines (offsetAt pairedLines ⟨0, 3⟩) = ⟨0, 3⟩ ∧
    offsetAt pairedLines ⟨0, 2⟩ = 6 ∧ offsetAt pairedLines ⟨0, 9⟩ = 6 ∧
    offsetAt pairedLines ⟨2, 0⟩ = 9 := by
  obtain ⟨hback, hsplit, hplace, hclamp⟩ := offsetAt_positionAt pairedLines
  have hline := lineAt_pairedLines
  have hpair : LineAt pairedLines 0 [] (['é'] ++ '😀' :: []) ['\r', '\n', 'b'] := hline
  refine ⟨hback ['é', '😀'] ['\r', '\n', 'b'] rfl (by simp [SplitsBreak]),
    hsplit ['é', '😀', '\r'] ['\n', 'b'] rfl (by simp [SplitsBreak]),
    hplace 0 [] ['é', '😀'] [] _ hline, ?_, ?_, ?_⟩
  · exact (hclamp ⟨0, 2⟩).2 _ (.insidePair hpair (by decide) (by decide))
  · exact (hclamp ⟨0, 9⟩).2 _ (.beyondLine hline (by decide))
  · exact (hclamp ⟨2, 0⟩).2 _ (.beyondText (by decide))

end Text

end Shorthand
