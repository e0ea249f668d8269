import Shorthand.Proofs.Document.Places

/-!
# `Shorthand.Proofs.Document.Line`: lines of a text without a table

Offsets and positions go through a table of lines. Here a line is said of the text alone, by
the line end above it and the one that ends it:

- `LineAt`: a line without its line end, with what stands above and below it;
- `exists_lineAt` and `exists_lineAt_of_cut`: a text has a line for each number up to that of
  its line ends, and each cut that keeps line ends whole lies on one;
- `LineAt.exists_onLine`: this is the line of the table, where one line end stands behind it;
- `LineAt.offsetAt`, `LineAt.linePrefixAt` and `LineAt.positionAt`: what the table says of a
  position, read off the line.
-/

set_option autoImplicit false

namespace Shorthand

namespace Text

/-- A cut at which a line starts: at the beginning of the text, or behind a whole line end. -/
structure StartsLine (above rest : Text) : Prop where
  isBreak_above : ∀ c, above.getLast? = some c → isBreak c = true
  not_splitsBreak : ¬SplitsBreak above rest

/-- The line with the number `n` without its line end. `above` is the text up to the line, and
`below` the rest of the text from its line end on. -/
structure LineAt (t : Text) (n : Nat) (above content below : Text) : Prop where
  eq_append : t = above ++ (content ++ below)
  lineEnds_above : lineEnds above = n
  startsLine : StartsLine above (content ++ below)
  isBreak_content : ∀ c ∈ content, isBreak c = false
  isBreak_below : ∀ c, below.head? = some c → isBreak c = true

/-- A line end, with what follows it. The last line has none. -/
inductive LineEnd : Text → Text → Prop
  | nothing : LineEnd [] []
  | lineFeed (rest : Text) : LineEnd ['\n'] rest
  | pair (rest : Text) : LineEnd ['\r', '\n'] rest
  | carriageReturn {rest : Text} (h : rest.head? ≠ some '\n') : LineEnd ['\r'] rest

/-! ### Line ends -/

theorem isBreak_iff (c : Char) : isBreak c = true ↔ c = '\n' ∨ c = '\r' := by
  simp [isBreak]

theorem lineEnds_cons {c : Char} (hc : isBreak c = false) (rest : Text) :
    lineEnds (c :: rest) = lineEnds rest := by
  rw [lineEnds]
  · simp [hc]
  · rintro tail rfl rfl
    cases hc

theorem lineEnds_break {c : Char} (hc : isBreak c = true) {rest : Text}
    (hcut : ¬(c = '\r' ∧ rest.head? = some '\n')) : lineEnds (c :: rest) = lineEnds rest + 1 := by
  rw [lineEnds]
  · simp [hc]
  · rintro tail rfl rfl
    exact hcut ⟨rfl, rfl⟩

/-- In the third case of the count the line end is whole. -/
theorem not_pair {c : Char} {rest : Text}
    (h : ∀ tail, c = '\r' → rest = '\n' :: tail → False) :
    ¬(c = '\r' ∧ rest.head? = some '\n') := by
  rintro ⟨rfl, hhead⟩
  obtain ⟨tail, rfl⟩ := List.head?_eq_some_iff.1 hhead
  exact h tail rfl rfl

theorem LineEnd.isBreak {ending rest : Text} (h : LineEnd ending rest) :
    ∀ c ∈ ending, isBreak c = true := by
  cases h <;> simp [Text.isBreak]

/-- What starts with a character of a line end starts with a line end. -/
theorem exists_lineEnd {below : Text} (h : ∀ c, below.head? = some c → isBreak c = true) :
    ∃ ending rest, below = ending ++ rest ∧ LineEnd ending rest := by
  cases below with
  | nil => exact ⟨[], [], rfl, .nothing⟩
  | cons c rest =>
    obtain rfl | rfl := (isBreak_iff c).1 (h c rfl)
    · exact ⟨['\n'], rest, rfl, .lineFeed rest⟩
    · by_cases hrest : rest.head? = some '\n'
      · obtain ⟨tail, rfl⟩ := List.head?_eq_some_iff.1 hrest
        exact ⟨['\r', '\n'], tail, rfl, .pair tail⟩
      · exact ⟨['\r'], rest, rfl, .carriageReturn hrest⟩

/-! ### Starts of lines -/

theorem startsLine_nil (rest : Text) : StartsLine [] rest :=
  ⟨by simp, by simp [SplitsBreak]⟩

theorem StartsLine.tail {c : Char} {above rest : Text} (h : StartsLine (c :: above) rest) :
    StartsLine above rest := by
  cases above with
  | nil => exact startsLine_nil rest
  | cons x above =>
    obtain ⟨habove, hsplit⟩ := h
    rw [SplitsBreak, List.getLast?_cons_cons] at hsplit
    rw [List.getLast?_cons_cons] at habove
    exact ⟨habove, hsplit⟩

/-- A character in front of a start of a line, where it is a line end if nothing else is. -/
theorem StartsLine.cons {c : Char} {above rest : Text} (h : StartsLine above rest)
    (hc : above = [] → isBreak c = true ∧ ¬(c = '\r' ∧ rest.head? = some '\n')) :
    StartsLine (c :: above) rest := by
  cases above with
  | nil =>
    obtain ⟨hbreak, hwhole⟩ := hc rfl
    exact ⟨by simpa using hbreak, by simpa [SplitsBreak] using hwhole⟩
  | cons x above =>
    obtain ⟨habove, hsplit⟩ := h
    refine ⟨?_, ?_⟩
    · rwa [List.getLast?_cons_cons]
    · rwa [SplitsBreak, List.getLast?_cons_cons]

/-- A character of a line does not stand alone in front of a start of a line. -/
theorem StartsLine.ne_nil {c : Char} {above rest : Text} (h : StartsLine (c :: above) rest)
    (hc : isBreak c = false) : above ≠ [] := by
  rintro rfl
  have hbreak := h.isBreak_above c rfl
  rw [hc] at hbreak
  cases hbreak

/-- The line ends above a start of a line are counted apart from those that follow. -/
theorem exists_startsLine {t : Text} {n : Nat} (h : n ≤ lineEnds t) :
    ∃ above rest, t = above ++ rest ∧ lineEnds above = n ∧ StartsLine above rest := by
  fun_induction lineEnds t generalizing n with
  | case1 => exact ⟨[], [], rfl, (Nat.le_zero.1 h).symm, startsLine_nil _⟩
  | case2 tail ih =>
    cases n with
    | zero => exact ⟨[], _, rfl, rfl, startsLine_nil _⟩
    | succ n =>
      obtain ⟨above, rest, rfl, hends, hstart⟩ := ih (Nat.le_of_succ_le_succ h)
      refine ⟨'\r' :: '\n' :: above, rest, rfl, by rw [lineEnds, hends], ?_⟩
      exact (hstart.cons fun _ => ⟨rfl, by simp⟩).cons (by simp)
  | case3 c tail hcrlf hc ih =>
    cases n with
    | zero => exact ⟨[], _, rfl, rfl, startsLine_nil _⟩
    | succ n =>
      obtain ⟨above, rest, rfl, hends, hstart⟩ := ih (Nat.le_of_succ_le_succ h)
      have hwhole := not_pair hcrlf
      refine ⟨c :: above, rest, rfl, ?_, hstart.cons ?_⟩
      · rw [lineEnds_break hc, hends]
        rintro ⟨rfl, hhead⟩
        exact hwhole ⟨rfl, by rw [List.head?_append, hhead, Option.some_or]⟩
      · rintro rfl
        exact ⟨hc, hwhole⟩
  | case4 c tail hcrlf hc ih =>
    have hc : isBreak c = false := by simpa using hc
    cases n with
    | zero => exact ⟨[], _, rfl, rfl, startsLine_nil _⟩
    | succ n =>
      obtain ⟨above, rest, rfl, hends, hstart⟩ := ih h
      refine ⟨c :: above, rest, rfl, by rw [lineEnds_cons hc, hends], hstart.cons ?_⟩
      rintro rfl
      cases hends

/-- What follows a start of a line, up to the next line end, is the line. -/
theorem StartsLine.exists_lineAt {above front after : Text}
    (h : StartsLine above (front ++ after)) (hfront : ∀ c ∈ front, isBreak c = false) :
    ∃ rest below, after = rest ++ below ∧
      LineAt (above ++ (front ++ after)) (lineEnds above) above (front ++ rest) below := by
  have hsplit : after = (after.takeWhile fun c => !isBreak c)
      ++ after.dropWhile fun c => !isBreak c := List.takeWhile_append_dropWhile.symm
  have hwhole : front ++ after = (front ++ after.takeWhile fun c => !isBreak c)
      ++ after.dropWhile fun c => !isBreak c := by rw [List.append_assoc, ← hsplit]
  refine ⟨_, _, hsplit, congrArg (above ++ ·) hwhole, rfl, hwhole ▸ h, ?_, ?_⟩
  · intro c hc
    obtain hc | hc := List.mem_append.1 hc
    · exact hfront c hc
    · simpa using List.mem_takeWhile_imp hc
  · intro c hc
    have hhead := List.head?_dropWhile_not (fun c => !isBreak c) after
    rw [hc] at hhead
    simpa using hhead

/-- A text has a line for each number up to that of its line ends. -/
theorem exists_lineAt {t : Text} {n : Nat} (h : n ≤ lineEnds t) :
    ∃ above content below, LineAt t n above content below := by
  obtain ⟨above, rest, rfl, rfl, hstart⟩ := exists_startsLine h
  rw [← List.nil_append rest] at hstart
  obtain ⟨content, below, -, hline⟩ := hstart.exists_lineAt (by simp)
  exact ⟨above, content, below, hline⟩

theorem lineEnds_append {above front : Text} (hfront : ∀ c ∈ front, isBreak c = false) :
    lineEnds (above ++ front) = lineEnds above := by
  fun_induction lineEnds above with
  | case1 => exact (lineEnds_eq_zero_iff front).2 hfront
  | case2 tail ih => rw [List.cons_append, List.cons_append, lineEnds, ih]
  | case3 c tail hcrlf hc ih =>
    have hwhole : ¬(c = '\r' ∧ (tail ++ front).head? = some '\n') := by
      rintro ⟨rfl, hhead⟩
      cases tail with
      | nil => simpa [isBreak] using hfront '\n' (List.mem_of_head? hhead)
      | cons x tail => exact not_pair hcrlf ⟨rfl, hhead⟩
    rw [List.cons_append, lineEnds_break hc hwhole, ih]
  | case4 c tail hcrlf hc ih => rw [List.cons_append, lineEnds_cons (by simpa using hc), ih]

theorem isBreak_lastLine {before : Text} {c : Char} (h : c ∈ lastLine before) :
    isBreak c = false := by
  simpa using List.mem_takeWhile_imp (List.mem_reverse.1 h)

/-- The last line of a text stands behind a line end, or at the beginning of the text. -/
theorem exists_append_lastLine (before : Text) :
    ∃ above, before = above ++ lastLine before ∧
      ∀ c, above.getLast? = some c → isBreak c = true := by
  refine ⟨(before.reverse.dropWhile fun c => !isBreak c).reverse, ?_, fun c hc => ?_⟩
  · rw [lastLine, ← List.reverse_append, List.takeWhile_append_dropWhile, List.reverse_reverse]
  · have hhead := List.head?_dropWhile_not (fun c => !isBreak c) before.reverse
    rw [List.getLast?_reverse] at hc
    rw [hc] at hhead
    simpa using hhead

/-- A cut that keeps line ends whole lies on a line, behind what stands on its last line. -/
theorem exists_lineAt_of_cut {before after : Text} (hcut : ¬SplitsBreak before after) :
    ∃ above rest below, before = above ++ lastLine before ∧ after = rest ++ below ∧
      LineAt (before ++ after) (lineEnds before) above (lastLine before ++ rest) below := by
  obtain ⟨above, hsplit, hlast⟩ := exists_append_lastLine before
  have hfront : ∀ c ∈ lastLine before, isBreak c = false := fun c hc => isBreak_lastLine hc
  generalize lastLine before = front at hsplit hfront ⊢
  subst hsplit
  have hstart : StartsLine above (front ++ after) := by
    refine ⟨hlast, fun hs => ?_⟩
    cases front with
    | nil => exact hcut (by simpa using hs)
    | cons c front =>
      obtain rfl : c = '\n' := by simpa using hs.2
      exact absurd (hfront '\n' List.mem_cons_self) (by decide)
  obtain ⟨rest, below, hafter, hline⟩ := hstart.exists_lineAt hfront
  refine ⟨above, rest, below, rfl, hafter, ?_⟩
  rwa [lineEnds_append hfront, List.append_assoc]

/-! ### The line of the table -/

/-- A line end is a line, and the last one only where nothing is left. -/
theorem LineEnd.lines {ending rest : Text} (h : LineEnd ending rest) :
    ∃ tail, Text.lines (ending ++ rest) = ending :: tail ∧ (ending = [] ↔ tail = []) := by
  have hne := lines_ne_nil rest
  cases h with
  | nothing => exact ⟨[], rfl, by simp⟩
  | lineFeed => exact ⟨Text.lines rest, lines_break rfl (by simp), by simp [hne]⟩
  | pair => exact ⟨Text.lines rest, by simp [Text.lines], by simp [hne]⟩
  | carriageReturn hrest =>
    exact ⟨Text.lines rest, lines_break rfl fun hcut => hrest hcut.2, by simp [hne]⟩

/-- A text without line ends is part of the first line of what follows. -/
theorem lines_append {content s line : Text} {tail : List Text}
    (hc : ∀ c ∈ content, isBreak c = false) (hs : lines s = line :: tail) :
    lines (content ++ s) = (content ++ line) :: tail := by
  induction content with
  | nil => exact hs
  | cons c content ih =>
    rw [List.forall_mem_cons] at hc
    rw [List.cons_append, lines_cons hc.1, ih hc.2, consFirst]
    rfl

/-- The lines above the start of a line are lines of the text, as many as their line ends. -/
theorem StartsLine.exists_lines {above rest : Text} (h : StartsLine above rest) :
    ∃ ls, ls.length = lineEnds above ∧ ls.flatten = above ∧
      lines (above ++ rest) = ls ++ lines rest := by
  fun_induction lineEnds above with
  | case1 => exact ⟨[], rfl, rfl, rfl⟩
  | case2 tail ih =>
    obtain ⟨ls, hlen, hflat, hlines⟩ := ih h.tail.tail
    exact ⟨['\r', '\n'] :: ls, by simp [hlen], by simp [hflat], by simp [lines, hlines]⟩
  | case3 c tail hcrlf hc ih =>
    obtain ⟨ls, hlen, hflat, hlines⟩ := ih h.tail
    -- The line end is whole: neither `tail` nor `rest` goes on with a line feed.
    have hwhole : ¬(c = '\r' ∧ (tail ++ rest).head? = some '\n') := by
      rintro ⟨rfl, hhead⟩
      cases tail with
      | nil => exact h.not_splitsBreak ⟨rfl, hhead⟩
      | cons x tail => exact not_pair hcrlf ⟨rfl, hhead⟩
    refine ⟨[c] :: ls, by simp [hlen], by simp [hflat], ?_⟩
    rw [List.cons_append, lines_break hc hwhole, hlines, List.cons_append]
  | case4 c tail hcrlf hc ih =>
    have hc : isBreak c = false := by simpa using hc
    obtain ⟨ls, hlen, hflat, hlines⟩ := ih h.tail
    -- The character stands in front of the first of these lines, and there is one.
    cases ls with
    | nil => exact absurd hflat.symm (h.ne_nil hc)
    | cons line ls =>
      refine ⟨(c :: line) :: ls, hlen, by simpa using hflat, ?_⟩
      rw [List.cons_append, lines_cons hc, hlines, List.cons_append, consFirst,
        List.cons_append]

theorem length_lines (t : Text) : (lines t).length = lineEnds t + 1 := by
  fun_induction lineEnds t with
  | case1 => rfl
  | case2 rest ih => simp [lines, ih]
  | case3 c rest hcrlf hc ih => rw [lines_break hc (not_pair hcrlf), List.length_cons, ih]
  | case4 c rest _ hc ih =>
    obtain ⟨line, tail, h⟩ := List.exists_cons_of_ne_nil (lines_ne_nil rest)
    rw [lines_cons (by simpa using hc), h, consFirst, ← ih, h, List.length_cons, List.length_cons]

theorem lineContent_append {content ending : Text} (hc : ∀ c ∈ content, isBreak c = false)
    (he : ∀ c ∈ ending, isBreak c = true) : lineContent (content ++ ending) = content := by
  have hending : ending.reverse.dropWhile isBreak = [] := by
    simpa [List.dropWhile_eq_nil_iff] using he
  have hcontent : content.reverse.dropWhile isBreak = content.reverse := by
    rw [List.dropWhile_eq_self_iff]
    intro hlen
    simpa using hc _ (List.mem_reverse.1 (List.getElem_mem hlen))
  rw [lineContent, trimEndWhile, List.reverse_append, List.dropWhile_append, hending,
    List.isEmpty_nil, if_pos rfl, hcontent, List.reverse_reverse]

section

variable {t above content below : Text} {n : Nat}

/-- The line of the table has one line end behind the content, and none on the last line. -/
theorem LineAt.exists_onLine (h : LineAt t n above content below) :
    ∃ ending rest, below = ending ++ rest ∧ LineEnd ending rest ∧
      OnLine t n above (content ++ ending) rest ∧
      (ending = [] ↔ (lines t).length = n + 1) := by
  obtain ⟨ending, rest, rfl, hending⟩ := exists_lineEnd h.isBreak_below
  obtain ⟨tail, htail, hlast⟩ := hending.lines
  obtain ⟨ls, hlen, hflat, hlines⟩ := h.startsLine.exists_lines
  rw [← h.eq_append, lines_append h.isBreak_content htail] at hlines
  rw [h.lineEnds_above] at hlen
  have hrest : tail.flatten = rest := by
    have hwhole := flatten_lines (ending ++ rest)
    rw [htail, List.flatten_cons] at hwhole
    exact List.append_cancel_left hwhole
  refine ⟨ending, rest, rfl, hending, ⟨?_, ?_, ?_⟩, ?_⟩
  · simp [hlines, ← hlen]
  · simp [hlines, ← hlen, hflat]
  · simp [hlines, ← hlen, hrest]
  · simp [hlines, hlen, hlast]

theorem LineAt.linePrefixAt (h : LineAt t n above content below) (column : Nat) :
    linePrefixAt t ⟨n, column⟩ = takeUnits column content := by
  obtain ⟨ending, rest, -, hending, hon, -⟩ := h.exists_onLine
  rw [hon.linePrefixAt, lineContent_append h.isBreak_content hending.isBreak]

/-- An offset is behind the lines above and the part of the line that the column covers. -/
theorem LineAt.offsetAt (h : LineAt t n above content below) (column : Nat) :
    offsetAt t ⟨n, column⟩ = utf8Size (above ++ takeUnits column content) := by
  obtain ⟨ending, rest, -, -, hon, -⟩ := h.exists_onLine
  rw [hon.offsetAt, h.linePrefixAt]

theorem LineAt.positionAt {front rest : Text} (h : LineAt t n above (front ++ rest) below) :
    positionAt t (utf8Size (above ++ front)) = ⟨n, utf16Size front⟩ := by
  obtain ⟨ending, tail, -, -, hon, hlast⟩ := h.exists_onLine
  rw [List.append_assoc] at hon
  refine hon.positionAt ?_
  by_cases he : ending = []
  · exact .inr (hlast.1 he)
  · exact .inl (by simp [he])

end

/-- Positions below the last line are at the end of the text. -/
theorem offsetAt_of_lineEnds_lt {t : Text} {p : Position} (h : lineEnds t < p.line) :
    offsetAt t p = utf8Size t := by
  have hnone : (lines t)[p.line]? = none :=
    List.getElem?_eq_none (by rw [length_lines]; exact h)
  unfold offsetAt
  rw [hnone]
  cases (lineStarts t)[p.line]? <;> rfl

theorem linePrefixAt_of_lineEnds_lt {t : Text} {p : Position} (h : lineEnds t < p.line) :
    linePrefixAt t p = [] := by
  rw [linePrefixAt, List.getElem?_eq_none (by rw [length_lines]; exact h)]

end Text

end Shorthand
