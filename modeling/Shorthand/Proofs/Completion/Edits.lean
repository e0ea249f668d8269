import Shorthand.Completion.Items
import Shorthand.Proofs.Document.Places

/-!
# `Shorthand.Proofs.Completion.Edits`: a completion replaces the abbreviation

An item carries the range that it replaces, and an editor trusts it. The range starts where
the abbreviation does and ends at the requested position as it was sent, which may lie
beyond its line or inside a surrogate pair. `complete_replaces` says that the edit takes
out the abbreviation and nothing else, for every position and all line ends.

The start of the range has gone a long way: from the position to an offset, to the part of
the line before it, to the abbreviation that the extractor finds at its end
(`append_extract`), and from its offset back to a position. All of it happens on one line
(`Text.OnLine`), and the abbreviation is not empty, so the place before it has part of the
line behind it and is found on the same line again.
-/

set_option autoImplicit false

namespace Shorthand

namespace Completion

/-! ### Extraction -/

theorem append_scan {state : Scan} {taken s before abbreviation : Text}
    (h : scan state taken s = some (before, abbreviation)) :
    before.reverse ++ abbreviation = s.reverse ++ taken := by
  induction s generalizing state taken with
  | nil =>
    rw [scan] at h
    split at h
    · cases h
      rfl
    · cases h
  | cons c rest ih =>
    rw [scan] at h
    split at h
    · rw [ih h]
      simp
    · cases h
      rfl
    · cases h

/-- The extracted abbreviation is the end of the line, and it is not empty. -/
theorem append_extract {line before abbreviation : Text}
    (h : extract line = some (before, abbreviation)) :
    line = before ++ abbreviation ∧ abbreviation ≠ [] := by
  unfold extract at h
  split at h
  · cases h
  · rename_i hscan
    have happend := append_scan hscan
    split at h
    · cases h
    · split at h
      · cases h
      · cases h
        exact ⟨by simpa using happend.symm, by simp⟩

/-! ### Edits -/

/-- An item whose edit takes out an abbreviation that ends at a position. -/
structure Item.Replaces (item : Item) (document : Document) (position : Position)
    (abbreviation : Text) : Prop where
  line_start : item.range.start.line = position.line
  offset_start : Text.offsetAt document.text item.range.start
    = Text.offsetAt document.text position - Text.utf8Size abbreviation
  offset_stop : Text.offsetAt document.text item.range.stop
    = Text.offsetAt document.text position
  /-- The abbreviation stands between the two offsets, and the edit puts the new text in its
  place. -/
  edit : ∃ before after, document.text = before ++ abbreviation ++ after ∧
    Text.utf8Size before = Text.offsetAt document.text item.range.start ∧
    Text.utf8Size (before ++ abbreviation) = Text.offsetAt document.text position ∧
    ∀ version,
      (document.apply [{ range := some item.range, text := item.newText }] version).text
        = before ++ item.newText ++ after

/-- The range from the start of an abbreviation to the position behind it. -/
def rangeOf (text : Text) (position : Position) (abbreviation : Text) : Range :=
  ⟨Text.positionAt text (Text.offsetAt text position - Text.utf8Size abbreviation), position⟩

theorem replaces_of_range {item : Item} {document : Document} {position : Position}
    {front abbreviation : Text}
    (hextract : extract (Text.linePrefixAt document.text position) = some (front, abbreviation))
    (hrange : item.range = rangeOf document.text position abbreviation) :
    item.Replaces document position abbreviation := by
  obtain ⟨hcut, hne⟩ := append_extract hextract
  obtain ⟨above, hbefore⟩ := Text.before_of_linePrefixAt hcut hne
  obtain ⟨after, hafter⟩ := hbefore.exists_append
  have hstop := hbefore.offsetAt_eq
  have hsub : Text.offsetAt document.text position - Text.utf8Size abbreviation
      = Text.utf8Size (above ++ front) := by
    rw [hstop, Text.utf8Size_append, Nat.add_sub_cancel]
  have hstart : item.range = ⟨⟨position.line, Text.utf16Size front⟩, position⟩ := by
    rw [hrange, rangeOf, hsub, hbefore.positionAt_eq]
  have hoffset : Text.offsetAt document.text item.range.start = Text.utf8Size (above ++ front) := by
    rw [hstart, hbefore.offsetAt_front]
  have happly (version : Int) :
      (document.apply [{ range := some item.range, text := item.newText }] version).text
        = above ++ front ++ item.newText ++ after := by
    have hrangeStop : Text.offsetAt document.text item.range.stop
        = Text.utf8Size (above ++ front ++ abbreviation) := by rw [hstart, hstop]
    show Text.splice document.text (Text.offsetAt document.text item.range.start)
      (Text.offsetAt document.text item.range.stop) item.newText = _
    rw [hoffset, hrangeStop, hafter, Text.splice_append]
  exact ⟨by rw [hstart], hoffset.trans hsub.symm, by rw [hstart],
    above ++ front, after, hafter, hoffset.symm, hstop.symm, happly⟩

theorem range_of_item? {grammar label : Text} {settings : Settings} {registry : Registry}
    {range : Range} {item : Item} (h : item? grammar settings registry range label = some item) :
    item.range = range := by
  unfold item? at h
  split at h
  · cases h
    rfl
  · cases h

/-- What `complete` has found when it answers. -/
theorem complete_cases {document : Document} {position : Position} {grammar : Text}
    {settings : Settings} {registry : Registry} {items : List Item}
    (h : complete document position grammar settings registry = some items) :
    ∃ front abbreviation,
      extract (Text.linePrefixAt document.text position) = some (front, abbreviation) ∧
      ∀ item ∈ items, item.range = rangeOf document.text position abbreviation := by
  unfold complete at h
  split at h
  · cases h
  · split at h
    · rename_i kind front abbreviation hkind hextract
      refine ⟨front, abbreviation, hextract, fun item hitem => ?_⟩
      split at h
      · cases h
      · simp only at h
        split at h
        · cases h
        · cases h
          obtain ⟨label, -, hlabel⟩ := List.mem_filterMap.1 hitem
          exact range_of_item? hlabel
    · cases h

/-- Every item of a completion takes out the abbreviation before the position and nothing
else, wherever the position is. Without a line there are no items. -/
theorem complete_replaces (document : Document) (position : Position) (grammar : Text)
    (settings : Settings) (registry : Registry) :
    (∀ items, complete document position grammar settings registry = some items →
      ∃ front abbreviation,
        extract (Text.linePrefixAt document.text position) = some (front, abbreviation) ∧
        ∀ item ∈ items, item.Replaces document position abbreviation) ∧
    (document.lineCount ≤ position.line →
      complete document position grammar settings registry = none) := by
  refine ⟨fun items h => ?_, fun hline => ?_⟩
  · obtain ⟨front, abbreviation, hextract, hranges⟩ := complete_cases h
    exact ⟨front, abbreviation, hextract,
      fun item hitem => replaces_of_range hextract (hranges item hitem)⟩
  · -- The part of a line that is not there is empty, and has no abbreviation.
    cases h : complete document position grammar settings registry with
    | none => rfl
    | some items =>
      obtain ⟨front, abbreviation, hextract, -⟩ := complete_cases h
      have hnone : (Text.lines document.text)[position.line]? = none :=
        List.getElem?_eq_none hline
      obtain ⟨hempty, hne⟩ := append_extract hextract
      rw [Text.linePrefixAt, hnone] at hempty
      exact absurd (List.append_eq_nil_iff.1 hempty.symm).2 hne

/-- An abbreviation behind a surrogate pair, between two kinds of line ends. -/
def ruledLine : Document :=
  { language := "html", version := 1, text := "a\n😀 hr-x\r\nb" }

/-- The item for a column far beyond the line. -/
def ruledItem : Item :=
  { label := "hr-x", asSnippet := false, range := ⟨⟨1, 3⟩, ⟨1, 99⟩⟩, newText := "<hr>" }

theorem complete_ruledLine :
    complete ruledLine ⟨1, 99⟩ "html" { showSuggestions := false }
      { snippets := [("html", [("hr-x", "<hr>")])] } = some [ruledItem] := by
  decide

theorem complete_replaces_ruledLine :
    ruledItem.Replaces ruledLine ⟨1, 99⟩ "hr-x" ∧
    complete ruledLine ⟨3, 0⟩ "html" {} {} = none := by
  obtain ⟨front, abbreviation, hextract, hitems⟩ :=
    (complete_replaces ruledLine ⟨1, 99⟩ "html" { showSuggestions := false }
      { snippets := [("html", [("hr-x", "<hr>")])] }).1 [ruledItem] complete_ruledLine
  have hfound : extract (Text.linePrefixAt ruledLine.text ⟨1, 99⟩)
      = some ("😀 ".toList, "hr-x".toList) := by decide
  rw [hfound] at hextract
  cases hextract
  exact ⟨hitems ruledItem List.mem_cons_self,
    (complete_replaces ruledLine ⟨3, 0⟩ "html" {} {}).2 (by decide)⟩

end Completion

end Shorthand
