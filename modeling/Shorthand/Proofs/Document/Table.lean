import Mathlib.Data.List.Chain
import Shorthand.Proofs.Document.Line
import Shorthand.Proofs.Text.Bytes

/-!
# `Shorthand.Proofs.Document.Table`: the table of lines

The table holds the offset at which each line starts. Two other accounts of a text need it to
be exact. One loop over the bytes, which knows line ends by two bytes and takes a pair at once,
makes the same table (`lineStarts_eq_stopsFrom`). And what stands between two neighbours in the
table is one line with one line end (`exists_row`): so it does no harm that a line's end is
found by trimming every carriage return and every line feed (`Row.lineStop?_eq`).
-/

set_option autoImplicit false

namespace Shorthand

namespace Text

/-! ### One loop over the bytes -/

/-- The offsets behind line ends. A carriage return and its line feed are passed over at once. -/
def stopsFrom (offset : Nat) : List UInt8 → List Nat
  | [] => []
  | b :: rest =>
    if b = '\r'.toUInt8 ∧ rest.head? = some '\n'.toUInt8 then
      (offset + 2) :: stopsFrom (offset + 2) rest.tail
    else if b = '\r'.toUInt8 ∨ b = '\n'.toUInt8 then (offset + 1) :: stopsFrom (offset + 1) rest
    else stopsFrom (offset + 1) rest
termination_by bytes => bytes.length
decreasing_by all_goals simp; try omega

/-- Other bytes are passed over. -/
theorem stopsFrom_append {bytes : List UInt8} (offset : Nat)
    (h : ∀ b ∈ bytes, b ≠ '\r'.toUInt8 ∧ b ≠ '\n'.toUInt8) (rest : List UInt8) :
    stopsFrom offset (bytes ++ rest) = stopsFrom (offset + bytes.length) rest := by
  induction bytes generalizing offset with
  | nil => rfl
  | cons b bytes ih =>
    obtain ⟨⟨hcr, hlf⟩, hbytes⟩ := List.forall_mem_cons.1 h
    have hpair : ¬(b = '\r'.toUInt8 ∧ (bytes ++ rest).head? = some '\n'.toUInt8) :=
      fun hb => hcr hb.1
    rw [List.cons_append, stopsFrom, if_neg hpair, if_neg (not_or.2 ⟨hcr, hlf⟩),
      ih (offset + 1) hbytes, List.length_cons, Nat.add_assoc, Nat.add_comm 1]

/-- A character that ends no line has no byte that does. -/
theorem ne_of_mem_charBytes {c : Char} (hc : isBreak c = false) {b : UInt8}
    (hb : b ∈ charBytes c) : b ≠ '\r'.toUInt8 ∧ b ≠ '\n'.toUInt8 := by
  have hne {d : Char} (hd : isBreak d = true) : c ≠ d := by
    rintro rfl
    rw [hc] at hd
    cases hd
  exact ⟨ne_toUInt8_of_mem_charBytes (by decide) (hne rfl) hb,
    ne_toUInt8_of_mem_charBytes (by decide) (hne rfl) hb⟩

/-- The loop makes the table, from any offset on. -/
theorem startsFrom_lines (t : Text) (offset : Nat) :
    startsFrom offset (lines t) = offset :: stopsFrom offset (toUtf8 t) := by
  fun_induction lines t generalizing offset with
  | case1 =>
    rw [startsFrom, startsFrom]
    simp [toUtf8, stopsFrom]
  | case2 rest ih =>
    -- A pair is two bytes, and both loops take them at once.
    have hcr : '\r'.toNat < 0x80 := by decide
    have hlf : '\n'.toNat < 0x80 := by decide
    rw [startsFrom, ih, toUtf8_cons_of_lt hcr, toUtf8_cons_of_lt hlf, stopsFrom, if_pos ⟨rfl, rfl⟩]
    rfl
  | case3 c rest hpair hc ih =>
    -- A line end of one byte: the byte behind it makes no pair of it either.
    have hlt : c.toNat < 0x80 := by obtain rfl | rfl := hc <;> decide
    have hwhole : ¬(c.toUInt8 = '\r'.toUInt8 ∧ (toUtf8 rest).head? = some '\n'.toUInt8) := by
      rw [toUInt8_inj hlt (by decide), head?_toUtf8_eq_some_iff (by decide)]
      exact not_pair hpair
    have hends : c.toUInt8 = '\r'.toUInt8 ∨ c.toUInt8 = '\n'.toUInt8 := by
      rw [toUInt8_inj hlt (by decide), toUInt8_inj hlt (by decide)]
      exact hc.symm
    rw [startsFrom, ih, toUtf8_cons_of_lt hlt, stopsFrom, if_neg hwhole, if_pos hends, utf8Size,
      utf8Size_of_lt hlt]
    rfl
  | case4 c rest hpair hc ih =>
    -- Any other character only moves the start of the next line.
    have hbreak : isBreak c = false := by simpa [isBreak] using hc
    obtain ⟨line, tail, hlines⟩ := List.exists_cons_of_ne_nil (lines_ne_nil rest)
    rw [toUtf8_cons, stopsFrom_append offset (fun b hb => ne_of_mem_charBytes hbreak hb),
      length_charBytes]
    have ih := ih (offset + c.utf8Size)
    rw [hlines, startsFrom, List.cons.injEq] at ih
    rw [hlines, consFirst, startsFrom, utf8Size, ← Nat.add_assoc, ih.2]

theorem lineStarts_eq_stopsFrom (t : Text) : lineStarts t = 0 :: stopsFrom 0 (toUtf8 t) :=
  startsFrom_lines t 0

/-! ### What stands between two starts -/

/-- The offset at which a line ends, in front of its line end: all carriage returns and line
feeds are trimmed from what stands between its start and the next one. -/
def lineStop? (t : Text) (n : Nat) : Option Nat := do
  let start ← (lineStarts t)[n]?
  let line ← between? t start ((lineStarts t)[n + 1]?.getD (utf8Size t))
  some (start + utf8Size (lineContent line))

/-- A line of the table: the text above it, the line without its line end, the line end, and the
text below. -/
structure Row (t : Text) (n : Nat) (above content ending below : Text) : Prop where
  eq_append : t = above ++ (content ++ ending) ++ below
  getElem?_lineStarts : (lineStarts t)[n]? = some (utf8Size above)
  getElem?_lineStarts_succ : (lineStarts t)[n + 1]?
    = if ending = [] then none else some (utf8Size (above ++ (content ++ ending)))
  getElem?_lines : (lines t)[n]? = some (content ++ ending)
  isBreak_content : ∀ c ∈ content, isBreak c = false
  lineEnd : LineEnd ending below

/-- Only at the end of the text there is no line end. -/
theorem LineEnd.eq_nil {below : Text} (h : LineEnd [] below) : below = [] := by
  cases h
  rfl

theorem length_startsFrom (offset : Nat) (ls : List Text) :
    (startsFrom offset ls).length = ls.length := by
  induction ls generalizing offset with
  | nil => rfl
  | cons line rest ih => rw [startsFrom, List.length_cons, ih, List.length_cons]

theorem length_lineStarts (t : Text) : (lineStarts t).length = lineEnds t + 1 := by
  rw [lineStarts, length_startsFrom, length_lines]

theorem exists_row {t : Text} {n : Nat} (h : n ≤ lineEnds t) :
    ∃ above content ending below, Row t n above content ending below := by
  obtain ⟨above, content, rest, hline⟩ := exists_lineAt h
  obtain ⟨ending, below, rfl, hending, hon, hlast⟩ := hline.exists_onLine
  refine ⟨above, content, ending, below, ?_, hon.getElem?_lineStarts, ?_, hon.getElem?_lines,
    hline.isBreak_content, hending⟩
  · rw [hline.eq_append]
    simp
  · split
    · rename_i hnil
      rw [List.getElem?_eq_none]
      rw [length_lineStarts, ← length_lines, hlast.1 hnil]
    · rename_i hne
      -- The next line starts where this one with its line end stops.
      obtain ⟨hn, hline⟩ := List.getElem?_eq_some_iff.1 hon.getElem?_lines
      have hnext : n + 1 < (lines t).length := by
        have := mt hlast.2 hne
        omega
      have hon' := onLine_of_getElem? (List.getElem?_eq_getElem hnext)
      rw [hon'.getElem?_lineStarts, List.take_succ_eq_append_getElem hn, List.flatten_append,
        ← hon.above_eq, hline]
      simp

section

variable {t above content ending below : Text} {n : Nat}

theorem Row.lineContent_eq (h : Row t n above content ending below) :
    lineContent (content ++ ending) = content :=
  lineContent_append h.isBreak_content h.lineEnd.isBreak

/-- A line stops where the next one starts, or with the text. -/
theorem Row.getD_eq (h : Row t n above content ending below) :
    (lineStarts t)[n + 1]?.getD (utf8Size t) = utf8Size (above ++ (content ++ ending)) := by
  rw [h.getElem?_lineStarts_succ]
  split
  · rename_i hnil
    subst hnil
    obtain rfl := h.lineEnd.eq_nil
    rw [Option.getD_none, h.eq_append, List.append_nil _]
  · rfl

theorem Row.between?_eq (h : Row t n above content ending below) :
    between? t (utf8Size above) (utf8Size (above ++ (content ++ ending)))
      = some (content ++ ending) := by
  rw [h.eq_append]
  exact between?_append above (content ++ ending) below

/-- Trimming takes the line end away, and nothing else. -/
theorem Row.lineStop?_eq (h : Row t n above content ending below) :
    lineStop? t n = some (utf8Size above + utf8Size content) := by
  rw [lineStop?, h.getElem?_lineStarts]
  simp only [Option.bind_eq_bind, Option.bind_some]
  rw [h.getD_eq, h.between?_eq, Option.bind_some, h.lineContent_eq]

/-- All lines but the last one have a line end. -/
theorem Row.ending_eq_nil_iff (h : Row t n above content ending below) :
    ending = [] ↔ n = lineEnds t := by
  obtain ⟨hn, -⟩ := List.getElem?_eq_some_iff.1 h.getElem?_lineStarts
  have hsucc := h.getElem?_lineStarts_succ
  rw [length_lineStarts] at hn
  constructor
  · intro hnil
    rw [if_pos hnil, List.getElem?_eq_none_iff, length_lineStarts] at hsucc
    omega
  · intro hlast
    by_contra hne
    rw [if_neg hne] at hsucc
    obtain ⟨hn', -⟩ := List.getElem?_eq_some_iff.1 hsucc
    rw [length_lineStarts] at hn'
    omega

end

theorem pairwise_lineStarts (t : Text) : (lineStarts t).Pairwise (· < ·) := by
  rw [← List.isChain_iff_pairwise, List.isChain_iff_getElem]
  intro n hn
  have hle : n < lineEnds t := by
    rw [length_lineStarts] at hn
    omega
  obtain ⟨above, content, ending, below, hrow⟩ := exists_row hle.le
  have hne : ending ≠ [] := mt hrow.ending_eq_nil_iff.1 hle.ne
  have hstart := hrow.getElem?_lineStarts
  have hstop := hrow.getElem?_lineStarts_succ
  rw [if_neg hne] at hstop
  obtain ⟨_, hstart⟩ := List.getElem?_eq_some_iff.1 hstart
  obtain ⟨_, hstop⟩ := List.getElem?_eq_some_iff.1 hstop
  have hpos : 0 < utf8Size (content ++ ending) := utf8Size_pos (by simp [hne])
  rw [hstart, hstop, utf8Size_append]
  omega

/-- The table has a start for each line and one more than there are line ends, all in order.
What stands between two of them has one line end at its end and no other, and what stands
behind the last one has none. So the trim that finds the end of a line takes away this line
end and nothing else. -/
theorem lineStarts_exact (t : Text) :
    lineStarts t = 0 :: stopsFrom 0 (toUtf8 t) ∧
    (lineStarts t).Pairwise (· < ·) ∧
    (lineStarts t).length = lineEnds t + 1 ∧
    (∀ n start stop, (lineStarts t)[n]? = some start → (lineStarts t)[n + 1]? = some stop →
      ∃ content ending below, between? t start stop = some (content ++ ending) ∧
        after? t stop = some below ∧ (∀ c ∈ content, isBreak c = false) ∧
        ending ≠ [] ∧ LineEnd ending below ∧
        (lines t)[n]? = some (content ++ ending) ∧ lineContent (content ++ ending) = content ∧
        lineStop? t n = some (start + utf8Size content)) ∧
    ∃ start last, (lineStarts t)[lineEnds t]? = some start ∧ after? t start = some last ∧
      (∀ c ∈ last, isBreak c = false) ∧
      (lines t)[lineEnds t]? = some last ∧ lineContent last = last ∧
      lineStop? t (lineEnds t) = some (utf8Size t) := by
  refine ⟨lineStarts_eq_stopsFrom t, pairwise_lineStarts t, length_lineStarts t, ?_, ?_⟩
  · intro n start stop hstart hstop
    obtain ⟨hn, -⟩ := List.getElem?_eq_some_iff.1 hstop
    rw [length_lineStarts] at hn
    have hlt : n < lineEnds t := Nat.lt_of_succ_lt_succ hn
    obtain ⟨above, content, ending, below, hrow⟩ := exists_row hlt.le
    have hne : ending ≠ [] := mt hrow.ending_eq_nil_iff.1 hlt.ne
    rw [hrow.getElem?_lineStarts, Option.some.injEq] at hstart
    rw [hrow.getElem?_lineStarts_succ, if_neg hne, Option.some.injEq] at hstop
    subst hstart hstop
    refine ⟨content, ending, below, hrow.between?_eq, ?_, hrow.isBreak_content, hne,
      hrow.lineEnd, hrow.getElem?_lines, hrow.lineContent_eq, hrow.lineStop?_eq⟩
    rw [hrow.eq_append]
    exact after?_append (above ++ (content ++ ending)) below
  · obtain ⟨above, last, ending, below, hrow⟩ := exists_row (Nat.le_refl (lineEnds t))
    obtain rfl : ending = [] := hrow.ending_eq_nil_iff.2 rfl
    obtain rfl := hrow.lineEnd.eq_nil
    have hdoc : t = above ++ last := by simpa using hrow.eq_append
    have hlines := hrow.getElem?_lines
    have hcontent := hrow.lineContent_eq
    rw [List.append_nil] at hlines hcontent
    refine ⟨_, last, hrow.getElem?_lineStarts, ?_, hrow.isBreak_content, hlines, hcontent, ?_⟩
    · rw [hdoc, after?_append]
    · rw [hrow.lineStop?_eq, ← utf8Size_append, ← hdoc]

/-- A carriage return before a pair, a line feed before a carriage return, and one at the end. -/
def mixedEnds : Text :=
  "é\r\r\n\n\rb\r"

theorem lineStarts_exact_mixedEnds :
    lineStarts mixedEnds = [0, 3, 5, 6, 7, 9] ∧
    (lineStarts mixedEnds)[1]? = some 3 ∧ (lineStarts mixedEnds)[2]? = some 5 ∧
    ∃ content ending below, between? mixedEnds 3 5 = some (content ++ ending) ∧
      after? mixedEnds 5 = some below ∧ (∀ c ∈ content, isBreak c = false) ∧
      ending ≠ [] ∧ LineEnd ending below ∧
      (lines mixedEnds)[1]? = some (content ++ ending) ∧ lineContent (content ++ ending) = content ∧
      lineStop? mixedEnds 1 = some (3 + utf8Size content) := by
  obtain ⟨-, -, -, hpiece, -⟩ := lineStarts_exact mixedEnds
  have hstart : (lineStarts mixedEnds)[1]? = some 3 := by decide
  have hstop : (lineStarts mixedEnds)[2]? = some 5 := by decide
  exact ⟨by decide, hstart, hstop, hpiece 1 3 5 hstart hstop⟩

end Text

end Shorthand
