import Mathlib.Data.List.Forall2
import Shorthand.Proofs.Text.Pieces
import Shorthand.Proofs.Text.Runs
import Shorthand.Stylesheet.Expansion

/-!
# `Shorthand.Proofs.Stylesheet.Parts`: the parts of a stylesheet abbreviation

Every part of an abbreviation becomes a line of its own. What it becomes depends on the part
alone, but for the number of the tab stop that stands for a missing value. `Line` is a line that
still knows whether its value is one or a tab stop, and `Spells` says which line a part gives.

`expand_plus` says how two abbreviations expand when a plus sign joins them. The first error of
either is the error of both together, those of the first abbreviation before those of the second.
Without an error, the lines of the second follow those of the first, and its tab stops are
numbered on. The tab stops of one abbreviation are 1, 2, 3 and so on, one for each part whose
declaration lacks a value.

`readLines` is the common account: it gives the lines of parts behind a number of tab stops. The
expansion writes them (`expandParts_eq`), the number only shifts the tab stops (`readLines_add`),
and parts are read from left to right (`readLines_append`).
-/

set_option autoImplicit false

namespace Shorthand

namespace Stylesheet

/-! ### Lines -/

/-- A line of the output. Its value is a text, or a tab stop by its number. -/
structure Line where
  property : Option Text
  value : Text ⊕ Nat
  important : Bool

namespace Line

/-- The number of the tab stop on a line. -/
def stop? (line : Line) : Option Nat :=
  line.value.getRight?

/-- The line with its tab stop, if it has one, moved on by `k`. -/
def shift (k : Nat) (line : Line) : Line :=
  { line with value := line.value.map id (k + ·) }

/-- The line as it is written. -/
def text (terminator : Text) (line : Line) : Text :=
  (match line.property with
    | some property => property ++ ": ".toList
    | none => [])
    ++ line.value.elim id tabStop ++ (if line.important then " !important".toList else [])
    ++ terminator

end Line

/-- The text of lines. -/
def written (terminator : Text) (lines : List Line) : Text :=
  Text.join ['\n'] (lines.map (Line.text terminator))

section

variable (declare : Text → Except ExpandError Declaration)

/-- Whether the declaration of a part has no value. -/
def lacksValue (part : Text) : Bool :=
  match declare (splitImportant part).1 with
  | .ok d => d.value.isNone
  | .error _ => false

/-- The line that a part gives. It has the property and the value of the part's declaration, and
some tab stop if there is no value. -/
structure Spells (part : Text) (line : Line) : Prop where
  ne_nil : part ≠ []
  declared : ∃ d n, declare (splitImportant part).1 = .ok d ∧ line.property = d.property ∧
    line.value = d.value.elim (.inr n) .inl
  important : line.important = (splitImportant part).2

/-- The number of an abbreviation's parts whose declarations have no value. -/
def lacking (a : Text) : Nat :=
  (Text.split '+' a).countP (lacksValue declare)

/-- The lines of an abbreviation: one for each part, with tab stops numbered from one. -/
structure IsLinesOf (a : Text) (lines : List Line) : Prop where
  spells : List.Forall₂ (Spells declare) (Text.split '+' a) lines
  stops : lines.filterMap Line.stop? = List.range' 1 (lacking declare a)

/-- The line of a part behind `k` tab stops. -/
def readLine (k : Nat) (part : Text) : Except ExpandError Line :=
  if part = [] then .error .unexpectedEnd
  else
    (declare (splitImportant part).1).map fun d =>
      ⟨d.property, d.value.elim (.inr (k + 1)) .inl, (splitImportant part).2⟩

/-- The lines of parts behind `k` tab stops. -/
def readLines : Nat → List Text → Except ExpandError (List Line)
  | _, [] => .ok []
  | k, part :: rest =>
    match readLine declare k part with
    | .error e => .error e
    | .ok line =>
      (readLines (k + if lacksValue declare part then 1 else 0) rest).map (line :: ·)

variable {declare}

/-! ### Reading parts -/

/-- A line that is read is the one which the part spells, and its tab stop is the next one. -/
theorem spells_of_readLine {k : Nat} {part : Text} {line : Line}
    (h : readLine declare k part = .ok line) :
    Spells declare part line ∧
      line.stop? = if lacksValue declare part then some (k + 1) else none := by
  unfold readLine at h
  split at h
  · cases h
  · rename_i hne
    cases hd : declare (splitImportant part).1 with
    | error e =>
      rw [hd] at h
      cases h
    | ok d =>
      rw [hd] at h
      cases h
      refine ⟨⟨hne, ⟨d, k + 1, hd, rfl, rfl⟩, rfl⟩, ?_⟩
      simp only [lacksValue, hd, Line.stop?]
      cases d.value <;> rfl

/-- More tab stops before a part move its own. -/
theorem readLine_add (k j : Nat) (part : Text) :
    readLine declare (k + j) part = (readLine declare j part).map (Line.shift k) := by
  unfold readLine
  split
  · rfl
  · cases declare (splitImportant part).1 with
    | error e => rfl
    | ok d => cases hv : d.value <;> simp [Except.map, Line.shift, hv, Nat.add_assoc]

theorem readLines_add (k j : Nat) (parts : List Text) :
    readLines declare (k + j) parts
      = (readLines declare j parts).map (List.map (Line.shift k)) := by
  induction parts generalizing j with
  | nil => rfl
  | cons part rest ih =>
    rw [readLines, readLines, readLine_add]
    cases readLine declare j part with
    | error e => rfl
    | ok line =>
      simp only
      rw [Nat.add_assoc, ih]
      cases readLines declare (j + if lacksValue declare part then 1 else 0) rest <;> rfl

/-- Parts are read from left to right, and the first error counts. -/
theorem readLines_append (k : Nat) (parts more : List Text) :
    readLines declare k (parts ++ more) =
      match readLines declare k parts with
      | .error e => .error e
      | .ok lines =>
        (readLines declare (k + parts.countP (lacksValue declare)) more).map (lines ++ ·) := by
  induction parts generalizing k with
  | nil =>
    rw [List.nil_append, readLines, List.countP_nil, Nat.add_zero]
    cases readLines declare k more <;> rfl
  | cons part rest ih =>
    rw [List.cons_append, readLines, readLines, List.countP_cons]
    cases readLine declare k part with
    | error e => rfl
    | ok line =>
      rw [Nat.add_comm (rest.countP _), ← Nat.add_assoc]
      simp only [ih]
      cases readLines declare (k + if lacksValue declare part then 1 else 0) rest with
      | error e => rfl
      | ok lines =>
        simp only
        cases readLines declare _ more <;> rfl

/-- The lines of parts are those which the parts spell, with tab stops in order. -/
theorem readLines_eq_ok {k : Nat} {parts : List Text} {lines : List Line}
    (h : readLines declare k parts = .ok lines) :
    List.Forall₂ (Spells declare) parts lines ∧
      lines.filterMap Line.stop? = List.range' (k + 1) (parts.countP (lacksValue declare)) := by
  induction parts generalizing k lines with
  | nil =>
    cases h
    exact ⟨.nil, rfl⟩
  | cons part rest ih =>
    rw [readLines] at h
    cases hline : readLine declare k part with
    | error e =>
      rw [hline] at h
      cases h
    | ok line =>
      cases hrest : readLines declare (k + if lacksValue declare part then 1 else 0) rest with
      | error e =>
        rw [hline] at h
        simp only [hrest] at h
        cases h
      | ok others =>
        rw [hline] at h
        simp only [hrest] at h
        cases h
        obtain ⟨hspells, hstop⟩ := spells_of_readLine hline
        obtain ⟨hothers, hstops⟩ := ih hrest
        refine ⟨.cons hspells hothers, ?_⟩
        rw [List.filterMap_cons, hstop, List.countP_cons, hstops]
        cases lacksValue declare part <;> rfl

end

/-- A part is written as its line is. -/
theorem declarationLine_eq (terminator : Text) (important : Bool) (k : Nat) (d : Declaration) :
    declarationLine terminator important k d
      = (Line.text terminator ⟨d.property, d.value.elim (.inr (k + 1)) .inl, important⟩,
        k + if d.value.isNone then 1 else 0) := by
  unfold declarationLine Line.text
  cases d.value <;> rfl

/-- The expansion writes the lines of its parts. -/
theorem expandParts_eq (terminator : Text) (declare : Text → Except ExpandError Declaration)
    (k : Nat) (parts : List Text) :
    expandParts terminator declare k parts
      = (readLines declare k parts).map (List.map (Line.text terminator)) := by
  induction parts generalizing k with
  | nil => rfl
  | cons part rest ih =>
    rw [expandParts, readLines, readLine]
    split
    · rfl
    · cases hd : declare (splitImportant part).1 with
      | error e =>
        simp only [hd]
        rfl
      | ok d =>
        -- The number that is handed on says whether this line took a tab stop.
        have hlacks : lacksValue declare part = d.value.isNone := by rw [lacksValue, hd]
        simp only [hd, declarationLine_eq, ih, Except.map, hlacks]
        cases readLines declare (k + if d.value.isNone then 1 else 0) rest <;> rfl

/-- Lines behind others are written behind a line break. -/
theorem written_append (terminator : Text) {lines more : List Line} (hlines : lines ≠ [])
    (hmore : more ≠ []) :
    written terminator (lines ++ more)
      = written terminator lines ++ '\n' :: written terminator more := by
  rw [written, List.map_append, Text.join_append ['\n'] (mt List.map_eq_nil_iff.1 hlines)
    (mt List.map_eq_nil_iff.1 hmore), List.append_assoc]
  rfl

/-! ### Whole abbreviations -/

/-- An abbreviation has a part, even if it is an empty one, and so it has a line. -/
theorem IsLinesOf.ne_nil {declare : Text → Except ExpandError Declaration} {a : Text}
    {lines : List Line} (h : IsLinesOf declare a lines) : lines ≠ [] := by
  rintro rfl
  exact Text.split_ne_nil '+' a (List.forall₂_nil_right_iff.1 h.spells)

theorem isLinesOf_of_readLines {declare : Text → Except ExpandError Declaration} {a : Text}
    {lines : List Line} (h : readLines declare 0 (Text.split '+' a) = .ok lines) :
    IsLinesOf declare a lines :=
  ⟨(readLines_eq_ok h).1, (readLines_eq_ok h).2⟩

/-- The parts on both sides of a plus sign are read one after the other. -/
theorem readLines_plus (declare : Text → Except ExpandError Declaration) (a b : Text) :
    readLines declare 0 (Text.split '+' (a ++ '+' :: b)) =
      match readLines declare 0 (Text.split '+' a) with
      | .error e => .error e
      | .ok lines =>
        (readLines declare 0 (Text.split '+' b)).map fun more =>
          lines ++ more.map (Line.shift (lacking declare a)) := by
  -- The parts of `b` come behind the tab stops of `a`, and are read as if behind none.
  rw [Text.split_append, readLines_append, Nat.zero_add, ← Nat.add_zero (List.countP _ _),
    readLines_add]
  cases readLines declare 0 (Text.split '+' b) <;> rfl

theorem trimmed_plus {a b : Text} (ha : Text.Trimmed a) (hb : Text.Trimmed b) :
    Text.Trimmed (a ++ '+' :: b) where
  ne_nil := List.append_ne_nil_of_left_ne_nil ha.ne_nil _
  head := by
    rw [List.head?_append_of_ne_nil _ ha.ne_nil]
    exact ha.head
  last := by
    rw [List.append_cons, List.getLast?_append_of_ne_nil _ hb.ne_nil]
    exact hb.last

section

variable (grammar : Text) (registry : Registry) (options : ExpandOptions)

/-- The declaration of a part in an expansion. -/
def declarationIn : Text → Except ExpandError Declaration :=
  declaration grammar registry (unitsOf options) .fuzzy

/-- The expansion of an abbreviation without white space at its ends. -/
theorem expand_trimmed {a : Text} (h : Text.Trimmed a) :
    expand a grammar registry options
      = (readLines (declarationIn grammar registry options) 0 (Text.split '+' a)).map
          (written (terminatorOf grammar)) := by
  rw [expand, Text.trim_eq_self h]
  simp only [if_neg h.ne_nil, expandParts_eq]
  change ((readLines (declarationIn grammar registry options) 0 (Text.split '+' a)).map _).map _ = _
  cases readLines (declarationIn grammar registry options) 0 (Text.split '+' a) <;> rfl

/-- Two abbreviations with a plus sign between them. The error of the first counts before that
of the second. Without an error, each abbreviation has lines of its own, and the lines of the
second follow those of the first, with their tab stops moved on by the number of the first. -/
theorem expand_plus {a b : Text} (ha : Text.Trimmed a) (hb : Text.Trimmed b) :
    (∀ e, expand a grammar registry options = .error e →
      expand (a ++ '+' :: b) grammar registry options = .error e) ∧
    ∀ first, expand a grammar registry options = .ok first →
      (∃ lines, IsLinesOf (declarationIn grammar registry options) a lines ∧
        first = written (terminatorOf grammar) lines) ∧
      (∀ e, expand b grammar registry options = .error e →
        expand (a ++ '+' :: b) grammar registry options = .error e) ∧
      ∀ second, expand b grammar registry options = .ok second →
        ∃ more, IsLinesOf (declarationIn grammar registry options) b more ∧
          second = written (terminatorOf grammar) more ∧
          expand (a ++ '+' :: b) grammar registry options = .ok
            (first ++ '\n' :: written (terminatorOf grammar)
              (more.map (Line.shift (lacking (declarationIn grammar registry options) a)))) := by
  rw [expand_trimmed grammar registry options ha, expand_trimmed grammar registry options hb,
    expand_trimmed grammar registry options (trimmed_plus ha hb), readLines_plus]
  cases hlines : readLines (declarationIn grammar registry options) 0 (Text.split '+' a) with
  | error e => exact ⟨fun _ h => h, fun _ h => nomatch h⟩
  | ok lines =>
    have hfirst := isLinesOf_of_readLines hlines
    refine ⟨fun _ h => (nomatch h), ?_⟩
    rintro _ ⟨⟩
    refine ⟨⟨lines, hfirst, rfl⟩, ?_⟩
    cases hmore : readLines (declarationIn grammar registry options) 0 (Text.split '+' b) with
    | error e => exact ⟨fun _ h => h, fun _ h => nomatch h⟩
    | ok more =>
      have hsecond := isLinesOf_of_readLines hmore
      refine ⟨fun _ h => (nomatch h), ?_⟩
      rintro _ ⟨⟩
      refine ⟨more, hsecond, rfl, congrArg Except.ok ?_⟩
      exact written_append _ hfirst.ne_nil (mt List.map_eq_nil_iff.1 hsecond.ne_nil)

end

/-- Each of the two has one tab stop. That of the second becomes the second one. -/
theorem expand_plus_paddingAndOrder :
    expand "m10+p" "css" {} {} = .ok "margin: 10px;\npadding: $\x7b1\x7d;" ∧
    expand "c#f!+z" "css" {} {} = .ok "color: #fff !important;\nz-index: $\x7b1\x7d;" ∧
    (∃ more, IsLinesOf (declarationIn "css" {} {}) "c#f!+z" more ∧
      expand "m10+p+c#f!+z" "css" {} {} = .ok
        ("margin: 10px;\npadding: $\x7b1\x7d;".toList
          ++ '\n' :: written [';'] (more.map (Line.shift 1)))) ∧
    expand "m10-+c#f!+z" "css" {} {} = .error (.unexpected '-' 2) := by
  have hfirst : Text.Trimmed "m10+p" :=
    Text.trimmed_of_ends rfl (by decide) rfl (by decide)
  have hwrong : Text.Trimmed "m10-" :=
    Text.trimmed_of_ends rfl (by decide) rfl (by decide)
  have hsecond : Text.Trimmed "c#f!+z" :=
    Text.trimmed_of_ends rfl (by decide) rfl (by decide)
  have hmargin : expand "m10+p" "css" {} {} = .ok "margin: 10px;\npadding: $\x7b1\x7d;" := by
    decide +kernel
  have hcolor : expand "c#f!+z" "css" {} {}
      = .ok "color: #fff !important;\nz-index: $\x7b1\x7d;" := by
    decide +kernel
  have herror : expand "m10-" "css" {} {} = .error (.unexpected '-' 2) := by decide +kernel
  have hlacking : lacking (declarationIn "css" {} {}) "m10+p" = 1 := by decide +kernel
  obtain ⟨-, -, hjoined⟩ := (expand_plus "css" {} {} hfirst hsecond).2 _ hmargin
  obtain ⟨more, hmore, -, htext⟩ := hjoined _ hcolor
  rw [hlacking] at htext
  exact ⟨hmargin, hcolor, ⟨more, hmore, htext⟩,
    (expand_plus "css" {} {} hwrong hsecond).1 _ herror⟩

end Stylesheet

end Shorthand
