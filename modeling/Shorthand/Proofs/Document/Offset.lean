import Mathlib.Data.List.TakeWhile
import Shorthand.Document.Basic
import Shorthand.Proofs.Text.Bytes

/-!
# `Shorthand.Proofs.Document.Offset`: offsets of positions

A position names a place by line and column, an offset by the bytes before it. Here the
way from the first to the second is followed along the text:

- `offsetAt_crlf`, `offsetAt_break`, `offsetAt_cons_zero` and `offsetAt_cons_succ`: what
  the first character of a text adds to an offset, once for each way in which it can
  stand there. `offsetAt` itself goes through the table of lines. These four say that it
  may as well have walked over the characters;
- `offsetAt_cursor`: the position behind a beginning of a text has as its offset the
  number of bytes of the beginning, unless the cut separates a carriage return from its
  line feed;
- `splice_cuts`: a splice between two such places replaces what lies between them.

`cursor` counts lines and columns over a text from the left and knows no table of lines.
It is how an editor counts.
-/

set_option autoImplicit false

namespace Shorthand

namespace Text

/-! ### Columns -/

theorem charUnits_pos (c : Char) : 0 < charUnits c := by
  unfold charUnits
  split <;> omega

/-- A character takes its units from a count that goes beyond it. -/
theorem takeUnits_charUnits_add (c : Char) (n : Nat) (rest : Text) :
    takeUnits (charUnits c + n) (c :: rest) = c :: takeUnits n rest := by
  obtain ⟨k, hk⟩ : ∃ k, charUnits c + n = k + 1 :=
    ⟨charUnits c + n - 1, by have := charUnits_pos c; omega⟩
  rw [hk, takeUnits, ← hk, Nat.add_sub_cancel_left]

theorem takeUnits_zero (t : Text) : takeUnits 0 t = [] := by
  cases t <;> rfl

/-- A character that ends no line stays in front of the content of its line. -/
theorem lineContent_cons {c : Char} (hc : isBreak c = false) (line : Text) :
    lineContent (c :: line) = c :: lineContent line := by
  unfold lineContent trimEndWhile
  rw [List.reverse_cons, List.dropWhile_append]
  split
  · rename_i hempty
    rw [List.isEmpty_iff] at hempty
    simp [hempty, hc]
  · simp

/-! ### Offsets along the text -/

/-- Lines that start later start later by the same number of bytes. -/
theorem startsFrom_add (n offset : Nat) (ls : List Text) :
    startsFrom (n + offset) ls = (startsFrom offset ls).map (n + ·) := by
  induction ls generalizing offset with
  | nil => rfl
  | cons line rest ih =>
    rw [startsFrom, startsFrom, List.map_cons, Nat.add_assoc, ih]

theorem lines_ne_nil (t : Text) : lines t ≠ [] := by
  fun_induction lines t with
  | case1 => simp
  | case2 => simp
  | case3 => simp
  | case4 c rest _ _ ih =>
    cases h : lines rest <;> simp [consFirst]

/-- The beginning of a text is at offset zero. -/
theorem offsetAt_start (t : Text) : offsetAt t ⟨0, 0⟩ = 0 := by
  obtain ⟨line, rest, h⟩ := List.exists_cons_of_ne_nil (lines_ne_nil t)
  simp [offsetAt, lineStarts, h, startsFrom, takeUnits_zero, utf8Size]

/-- Behind a first line of its own, positions are those of the rest, one line down. -/
theorem offsetAt_line {t rest : Text} {line : Text} (h : lines t = line :: lines rest)
    (n column : Nat) :
    offsetAt t ⟨n + 1, column⟩ = utf8Size line + offsetAt rest ⟨n, column⟩ := by
  have hsize : utf8Size t = utf8Size line + utf8Size rest := by
    rw [← flatten_lines t, h, List.flatten_cons, flatten_lines, utf8Size_append]
  -- The table of the rest is that of the text, moved by the first line.
  have hstarts : lineStarts t = 0 :: (lineStarts rest).map (utf8Size line + ·) := by
    rw [lineStarts, h, startsFrom, Nat.zero_add, lineStarts, ← startsFrom_add, Nat.add_zero]
  unfold offsetAt
  rw [hstarts, h, hsize]
  simp only [List.getElem?_cons_succ, List.getElem?_map]
  cases (lineStarts rest)[n]? <;> cases (lines rest)[n]? <;> simp [Nat.add_assoc]

theorem offsetAt_crlf (rest : Text) (n column : Nat) :
    offsetAt ('\r' :: '\n' :: rest) ⟨n + 1, column⟩ = 2 + offsetAt rest ⟨n, column⟩ := by
  have h : lines ('\r' :: '\n' :: rest) = ['\r', '\n'] :: lines rest := by rw [lines]
  exact offsetAt_line h n column

/-- The lines behind a line end of one character. -/
theorem lines_break {c : Char} (hc : isBreak c = true) {rest : Text}
    (hcut : ¬(c = '\r' ∧ rest.head? = some '\n')) : lines (c :: rest) = [c] :: lines rest := by
  have hbreak : c = '\n' ∨ c = '\r' := by simpa [isBreak] using hc
  rw [lines]
  · rw [if_pos hbreak]
  · rintro tail rfl rfl
    exact hcut ⟨rfl, rfl⟩

/-- A character that ends no line stands in front of the first line of the rest. -/
theorem lines_cons {c : Char} (hc : isBreak c = false) (rest : Text) :
    lines (c :: rest) = consFirst c (lines rest) := by
  have hbreak : ¬(c = '\n' ∨ c = '\r') := by simpa [isBreak] using hc
  rw [lines]
  · rw [if_neg hbreak]
  · rintro tail rfl rfl
    exact hbreak (Or.inr rfl)

theorem offsetAt_break {c : Char} (hc : isBreak c = true) {rest : Text}
    (hcut : ¬(c = '\r' ∧ rest.head? = some '\n')) (n column : Nat) :
    offsetAt (c :: rest) ⟨n + 1, column⟩ = c.utf8Size + offsetAt rest ⟨n, column⟩ := by
  rw [offsetAt_line (lines_break hc hcut), utf8Size, utf8Size, Nat.add_zero]

theorem offsetAt_cons_zero {c : Char} (hc : isBreak c = false) (rest : Text) (column : Nat) :
    offsetAt (c :: rest) ⟨0, charUnits c + column⟩
      = c.utf8Size + offsetAt rest ⟨0, column⟩ := by
  obtain ⟨line, tail, h⟩ := List.exists_cons_of_ne_nil (lines_ne_nil rest)
  have h' : lines (c :: rest) = (c :: line) :: tail := by rw [lines_cons hc, h, consFirst]
  simp [offsetAt, lineStarts, h, h', startsFrom, lineContent_cons hc,
    takeUnits_charUnits_add, utf8Size]

theorem offsetAt_cons_succ {c : Char} (hc : isBreak c = false) (rest : Text)
    (n column : Nat) :
    offsetAt (c :: rest) ⟨n + 1, column⟩ = c.utf8Size + offsetAt rest ⟨n + 1, column⟩ := by
  obtain ⟨line, tail, h⟩ := List.exists_cons_of_ne_nil (lines_ne_nil rest)
  have h' : lines (c :: rest) = (c :: line) :: tail := by rw [lines_cons hc, h, consFirst]
  have hstarts : startsFrom (c.utf8Size + utf8Size line) tail
      = (startsFrom (utf8Size line) tail).map (c.utf8Size + ·) := startsFrom_add _ _ _
  simp only [offsetAt, lineStarts, h, h', startsFrom, utf8Size, Nat.zero_add, hstarts,
    List.getElem?_cons_succ, List.getElem?_map]
  cases (startsFrom (utf8Size line) tail)[n]? <;> cases tail[n]? <;> simp [Nat.add_assoc]

/-! ### Counting from the left -/

/-- Number of line ends. A carriage return with its line feed is one. -/
def lineEnds : Text → Nat
  | [] => 0
  | '\r' :: '\n' :: rest => lineEnds rest + 1
  | c :: rest => if isBreak c then lineEnds rest + 1 else lineEnds rest

/-- What follows the last line end. -/
def lastLine (t : Text) : Text :=
  (t.reverse.takeWhile fun c => !isBreak c).reverse

/-- The position behind a text: its line ends, and the UTF-16 units since the last one. -/
def cursor (t : Text) : Position :=
  ⟨lineEnds t, utf16Size (lastLine t)⟩

theorem lineEnds_eq_zero_iff (t : Text) : lineEnds t = 0 ↔ ∀ c ∈ t, isBreak c = false := by
  fun_induction lineEnds t with
  | case1 => simp
  | case2 rest ih => simp [isBreak]
  | case3 c rest _ hc ih => simp [hc]
  | case4 c rest _ hc ih => simp [hc, ih]

theorem lastLine_eq_self {t : Text} (h : lineEnds t = 0) : lastLine t = t := by
  have hall : ∀ c ∈ t.reverse, (!isBreak c) = true := by
    simpa using (lineEnds_eq_zero_iff t).1 h
  unfold lastLine
  rw [List.takeWhile_eq_self_iff.2 hall, List.reverse_reverse]

/-- A text with a line end has the same last line with a character in front. -/
theorem lastLine_cons {c : Char} {rest : Text} (h : lineEnds (c :: rest) ≠ 0) :
    lastLine (c :: rest) = lastLine rest := by
  unfold lastLine
  rw [List.reverse_cons, List.takeWhile_append]
  split
  · -- Nothing in the rest ends a line, so the character in front of it does.
    rename_i hlen
    have hself := (List.takeWhile_prefix _).eq_of_length hlen
    have hrest : ∀ x ∈ rest, isBreak x = false := by
      simpa using List.takeWhile_eq_self_iff.1 hself
    have hc : isBreak c = true := by
      by_contra hc
      exact h ((lineEnds_eq_zero_iff _).2 (by simpa using ⟨eq_false_of_ne_true hc, hrest⟩))
    simp [hc, hself]
  · rfl

/-- A cut between a carriage return and its line feed. -/
def SplitsBreak (before after : Text) : Prop :=
  before.getLast? = some '\r' ∧ after.head? = some '\n'

/-- A cut of a text behind its first `n` bytes: between characters, and not between a
carriage return and its line feed. -/
structure Cuts (t : Text) (n : Nat) (before after : Text) : Prop where
  eq_append : t = before ++ after
  length_before : (toUtf8 before).length = n
  not_splitsBreak : ¬SplitsBreak before after

theorem Cuts.utf8Size_eq {t before after : Text} {n : Nat} (h : Cuts t n before after) :
    utf8Size before = n := by
  rw [← length_toUtf8, h.length_before]

theorem SplitsBreak.cons {before after : Text} (h : SplitsBreak before after) (c : Char) :
    SplitsBreak (c :: before) after := by
  obtain ⟨hlast, hhead⟩ := h
  refine ⟨?_, hhead⟩
  rw [List.getLast?_cons, hlast]
  rfl

/-- The position behind a beginning of a text is where the beginning ends. -/
theorem offsetAt_cursor {before after : Text} (h : ¬SplitsBreak before after) :
    offsetAt (before ++ after) (cursor before) = utf8Size before := by
  unfold cursor
  -- The induction follows the count of line ends: the pair, a line end of one character, and
  -- any other character.
  fun_induction lineEnds before with
  | case1 => exact offsetAt_start after
  | case2 rest ih =>
    have hlast : lastLine ('\r' :: '\n' :: rest) = lastLine rest := by
      rw [lastLine_cons (by simp [lineEnds]), lastLine_cons (by simp [lineEnds, isBreak])]
    have hrest : ¬SplitsBreak rest after := fun hs => h ((hs.cons '\n').cons '\r')
    rw [hlast, List.cons_append, List.cons_append, offsetAt_crlf, ih hrest]
    simp only [utf8Size]
    rw [← Nat.add_assoc]
    rfl
  | case3 c rest hcrlf hc ih =>
    -- A carriage return here has no line feed: not in `rest`, where it would be a pair, and
    -- not in `after`, where the cut would separate the two.
    have hcut : ¬(c = '\r' ∧ (rest ++ after).head? = some '\n') := by
      rintro ⟨rfl, hhead⟩
      cases rest with
      | nil => exact h ⟨rfl, hhead⟩
      | cons x rest =>
        cases Option.some.inj hhead
        exact hcrlf rest rfl rfl
    have hends : lineEnds (c :: rest) ≠ 0 := by
      rw [Ne, lineEnds_eq_zero_iff]
      simp [hc]
    rw [lastLine_cons hends, List.cons_append, offsetAt_break hc hcut, ih fun hs => h (hs.cons c),
      utf8Size]
  | case4 c rest hcrlf hc ih =>
    have hc : isBreak c = false := by simpa using hc
    rw [List.cons_append, utf8Size, ← ih fun hs => h (hs.cons c)]
    -- The character adds to the column on the first line, and to no column further down.
    cases hn : lineEnds rest with
    | zero =>
      have hends : lineEnds (c :: rest) = 0 := by
        rw [lineEnds_eq_zero_iff] at hn ⊢
        simpa [hc] using hn
      rw [lastLine_eq_self hends, lastLine_eq_self hn, utf16Size, offsetAt_cons_zero hc]
    | succ n =>
      have hends : lineEnds (c :: rest) ≠ 0 := by
        rw [Ne, lineEnds_eq_zero_iff]
        intro hall
        have := (lineEnds_eq_zero_iff rest).2 fun x hx => hall x (List.mem_cons_of_mem _ hx)
        omega
      rw [lastLine_cons hends, offsetAt_cons_succ hc]

theorem Cuts.offsetAt_cursor {t before after : Text} {n : Nat} (h : Cuts t n before after) :
    offsetAt t (cursor before) = n := by
  rw [h.eq_append, Text.offsetAt_cursor h.not_splitsBreak, h.utf8Size_eq]

/-- A splice between two cuts replaces what lies between them. -/
theorem splice_cuts {t before rest upto after : Text} {start stop : Nat}
    (hle : start ≤ stop) (hstart : Cuts t start before rest) (hstop : Cuts t stop upto after)
    (new : Text) : splice t start stop new = before ++ new ++ after := by
  have htake : takeBytes start t = before := by
    rw [← hstart.utf8Size_eq, hstart.eq_append, takeBytes_utf8Size_append]
  have hdrop : dropBytes stop t = after := by
    rw [← hstop.utf8Size_eq, hstop.eq_append, dropBytes_utf8Size_append]
  rw [splice, Nat.max_eq_right hle, htake, hdrop]

end Text

end Shorthand
