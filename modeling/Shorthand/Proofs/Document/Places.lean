import Shorthand.Proofs.Document.Offset

/-!
# `Shorthand.Proofs.Document.Places`: places on a line

An offset and a position are two names of one place. Here both are read off a cut of the
text at the place: the lines above it, the part of its line before it, and the rest.

- `OnLine`: a line with what stands above and below it, and `onLine_of_getElem?`, which
  finds them for every line that a text has;
- `OnLine.offsetAt`: a column is passed over in the content of its line;
- `OnLine.positionAt`: the way back, for a place that has part of its line behind it or
  stands on the last line;
- `before_of_linePrefixAt`: both together, for each place before a position on its line.
-/

set_option autoImplicit false

namespace Shorthand

namespace Text

/-! ### Beginnings -/

/-- A count of units that goes beyond a beginning goes on behind it. -/
theorem takeUnits_append (s t : Text) (n : Nat) :
    takeUnits (utf16Size s + n) (s ++ t) = s ++ takeUnits n t := by
  induction s with
  | nil => rw [utf16Size, Nat.zero_add, List.nil_append, List.nil_append]
  | cons c rest ih =>
    rw [List.cons_append, utf16Size, Nat.add_assoc, takeUnits_charUnits_add, ih, List.cons_append]

/-- Units of a beginning take the beginning. -/
theorem takeUnits_utf16Size_append (s t : Text) : takeUnits (utf16Size s) (s ++ t) = s := by
  have htake := takeUnits_append s t 0
  rwa [Nat.add_zero, takeUnits_zero, List.append_nil] at htake

theorem takeUnits_isPrefix (n : Nat) (s : Text) : takeUnits n s <+: s := by
  fun_induction takeUnits n s with
  | case1 => exact List.prefix_rfl
  | case2 => exact List.nil_prefix
  | case3 n c rest ih => exact (List.prefix_cons_inj c).2 ih

theorem lineContent_isPrefix (line : Text) : lineContent line <+: line := by
  have hsuffix := List.dropWhile_suffix isBreak (l := line.reverse)
  simpa [lineContent, trimEndWhile] using List.reverse_prefix.2 hsuffix

/-! ### Lines of a text -/

/-- The line with the number `n`, with what stands above and below it. -/
structure OnLine (t : Text) (n : Nat) (above line below : Text) : Prop where
  getElem?_lines : (lines t)[n]? = some line
  above_eq : above = ((lines t).take n).flatten
  below_eq : below = ((lines t).drop (n + 1)).flatten

theorem onLine_of_getElem? {t line : Text} {n : Nat} (h : (lines t)[n]? = some line) :
    OnLine t n ((lines t).take n).flatten line ((lines t).drop (n + 1)).flatten :=
  ⟨h, rfl, rfl⟩

theorem OnLine.eq_append {t above line below : Text} {n : Nat}
    (h : OnLine t n above line below) : t = above ++ (line ++ below) := by
  obtain ⟨hn, hline⟩ := List.getElem?_eq_some_iff.1 h.getElem?_lines
  calc t = (lines t).flatten := (flatten_lines t).symm
    _ = ((lines t).take n ++ (lines t).drop n).flatten := by rw [List.take_append_drop]
    _ = above ++ (line ++ below) := by
      rw [List.drop_eq_getElem_cons hn, hline, List.flatten_append, List.flatten_cons,
        ← h.above_eq, ← h.below_eq]

/-- A line starts behind the lines above it. -/
theorem getElem?_startsFrom {ls : List Text} {n : Nat} {line : Text} (h : ls[n]? = some line)
    (offset : Nat) :
    (startsFrom offset ls)[n]? = some (offset + utf8Size (ls.take n).flatten) := by
  induction ls generalizing n offset with
  | nil => simp at h
  | cons first rest ih =>
    cases n with
    | zero => simp [startsFrom, utf8Size]
    | succ n =>
      rw [List.getElem?_cons_succ] at h
      rw [startsFrom, List.getElem?_cons_succ, ih h, List.take_succ_cons, List.flatten_cons,
        utf8Size_append, Nat.add_assoc]

section

variable {t above line below : Text} {n : Nat}

theorem OnLine.linePrefixAt (h : OnLine t n above line below) (column : Nat) :
    linePrefixAt t ⟨n, column⟩ = takeUnits column (lineContent line) := by
  simp only [Text.linePrefixAt, h.getElem?_lines]

/-- The units of a beginning of a line are the column behind it. -/
theorem OnLine.linePrefixAt_utf16Size (h : OnLine t n above line below) {front rest : Text}
    (hcontent : lineContent line = front ++ rest) :
    Text.linePrefixAt t ⟨n, utf16Size front⟩ = front := by
  rw [h.linePrefixAt, hcontent, takeUnits_utf16Size_append]

/-- The table has the line where the lines above it end. -/
theorem OnLine.getElem?_lineStarts (h : OnLine t n above line below) :
    (lineStarts t)[n]? = some (utf8Size above) := by
  have hstart := getElem?_startsFrom h.getElem?_lines 0
  rwa [Nat.zero_add, ← h.above_eq] at hstart

/-- The offset of a position is behind the part of its line that lies before it. -/
theorem OnLine.offsetAt (h : OnLine t n above line below) (column : Nat) :
    offsetAt t ⟨n, column⟩ = utf8Size (above ++ Text.linePrefixAt t ⟨n, column⟩) := by
  simp only [Text.offsetAt, h.getElem?_lineStarts, h.getElem?_lines]
  rw [utf8Size_append, h.linePrefixAt]

/-- The part of a line before a position, with what follows it in the text. -/
theorem OnLine.exists_append (h : OnLine t n above line below) (column : Nat) :
    ∃ after, t = above ++ (Text.linePrefixAt t ⟨n, column⟩ ++ after) := by
  obtain ⟨rest, hrest⟩ := (takeUnits_isPrefix column _).trans (lineContent_isPrefix line)
  refine ⟨rest ++ below, ?_⟩
  rw [h.linePrefixAt, ← List.append_assoc _ rest, hrest]
  exact h.eq_append

end

/-- A place on a line is found on this line. The place behind all of a line is the start of
the next, unless there is none. -/
theorem locate_append {ls : List Text} {n : Nat} {before after : Text}
    (h : ls[n]? = some (before ++ after)) (hafter : after ≠ [] ∨ ls.length = n + 1)
    (first : Nat) :
    locate first (utf8Size ((ls.take n).flatten ++ before)) ls
      = ⟨first + n, utf16Size before⟩ := by
  induction ls generalizing n first with
  | nil => simp at h
  | cons line rest ih =>
    cases n with
    | zero =>
      rw [List.getElem?_cons_zero, Option.some.injEq] at h
      subst h
      rw [List.take_zero, List.flatten_nil, List.nil_append]
      have htake := takeBytes_utf8Size_append before after
      cases rest with
      | nil => rw [locate, htake, Nat.add_zero]
      | cons next rest =>
        have hlt : utf8Size before < utf8Size (before ++ after) := by
          obtain ⟨c, tail, rfl⟩ : ∃ c tail, after = c :: tail :=
            List.exists_cons_of_ne_nil (hafter.resolve_right (by simp))
          have := c.utf8Size_pos
          rw [utf8Size_append, utf8Size]
          omega
        rw [locate, if_pos hlt, htake, Nat.add_zero]
    | succ n =>
      rw [List.getElem?_cons_succ] at h
      cases rest with
      | nil => simp at h
      | cons next rest =>
        rw [List.take_succ_cons, List.flatten_cons, List.append_assoc, utf8Size_append, locate,
          if_neg (by omega), Nat.add_sub_cancel_left,
          ih h (hafter.imp_right fun hlen => by simpa using hlen), Nat.add_assoc, Nat.add_comm 1]

theorem OnLine.positionAt {t above below before after : Text} {n : Nat}
    (h : OnLine t n above (before ++ after) below)
    (hafter : after ≠ [] ∨ (lines t).length = n + 1) :
    positionAt t (utf8Size (above ++ before)) = ⟨n, utf16Size before⟩ := by
  have hle : utf8Size (above ++ before) ≤ utf8Size t := by
    rw [h.eq_append]
    simp only [utf8Size_append]
    omega
  rw [Text.positionAt, Nat.min_eq_left hle, h.above_eq, locate_append h.getElem?_lines hafter,
    Nat.zero_add]

/-- A place before a position and on its line: `above` are the lines above, `front` the part
of the line up to the place, and `between` what lies between the place and the position. -/
structure Before (t : Text) (p : Position) (above front between : Text) : Prop where
  exists_append : ∃ after, t = above ++ front ++ between ++ after
  offsetAt_eq : offsetAt t p = utf8Size (above ++ front ++ between)
  positionAt_eq : positionAt t (utf8Size (above ++ front)) = ⟨p.line, utf16Size front⟩
  offsetAt_front : offsetAt t ⟨p.line, utf16Size front⟩ = utf8Size (above ++ front)

/-- Each cut of the part of a line before a position is a place before it. The position
itself need not be one: its column may lie beyond the line or inside a character. -/
theorem before_of_linePrefixAt {t : Text} {p : Position} {front between : Text}
    (h : linePrefixAt t p = front ++ between) (hne : between ≠ []) :
    ∃ above, Before t p above front between := by
  obtain ⟨n, column⟩ := p
  obtain ⟨c, tail, rfl⟩ := List.exists_cons_of_ne_nil hne
  -- Where there is something before the position there is a line.
  obtain ⟨line, hline⟩ : ∃ line, (lines t)[n]? = some line := by
    cases hline : (lines t)[n]? with
    | some line => exact ⟨line, rfl⟩
    | none => simp [linePrefixAt, hline] at h
  have hon := onLine_of_getElem? hline
  obtain ⟨more, hmore⟩ := takeUnits_isPrefix column (lineContent line)
  obtain ⟨ending, hending⟩ := lineContent_isPrefix line
  rw [← hon.linePrefixAt column, h, List.append_assoc] at hmore
  have hsplit : line = front ++ c :: (tail ++ (more ++ ending)) := by
    rw [← hending, ← hmore]
    simp
  obtain ⟨after, hafter⟩ := hon.exists_append column
  refine ⟨_, ⟨after, ?_⟩, ?_, (hsplit ▸ hon).positionAt (.inl (by simp)), ?_⟩
  · rw [h] at hafter
    simpa using hafter
  · rw [hon.offsetAt, h, List.append_assoc]
  · rw [hon.offsetAt, hon.linePrefixAt_utf16Size hmore.symm]

/-- A splice between the ends of two beginnings replaces what lies between them. -/
theorem splice_append (before between after new : Text) :
    splice (before ++ between ++ after) (utf8Size before) (utf8Size (before ++ between)) new
      = before ++ new ++ after := by
  have hle : utf8Size before ≤ utf8Size (before ++ between) := by
    rw [utf8Size_append]
    omega
  have htake : takeBytes (utf8Size before) (before ++ between ++ after) = before := by
    rw [List.append_assoc, takeBytes_utf8Size_append]
  rw [splice, Nat.max_eq_right hle, dropBytes_utf8Size_append, htake]

end Text

end Shorthand
