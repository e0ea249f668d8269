import Shorthand.Abbreviation.Printer
import Shorthand.Proofs.Abbreviation.Steps

/-!
# `Shorthand.Proofs.Abbreviation.PrintedElement`: an element is read back

`printElement` writes an element one part after another, and `readElement` gives the
element back (`readElement_print`), in front of anything that may stand behind an item.
Each part has its own lemma, which says what reading the printed part does to an element
that does not have it yet:

- `readParts_printAttributes`: attributes in brackets, with distinct names;
- `readParts_printBraced`: text in braces, which may be any text;
- `readParts_printCount`: a repeat from 1 to `maxRepeat`;
- `readParts_printMark`: the self-closing mark.

`Element.WellFormed` collects what these need.
-/

set_option autoImplicit false

namespace Shorthand

/-! ### Well-formed elements -/

/-- A repeat that the reader leaves as it is. -/
def CountFits (count : Option Nat) : Prop :=
  ∀ n ∈ count, 1 ≤ n ∧ n ≤ maxRepeat

/-- An attribute that can be written in brackets with a quoted value. -/
structure Attribute.WellFormed (a : Attribute) : Prop where
  name_ne_nil : a.name ≠ []
  name_chars : ∀ c ∈ a.name, Abbreviation.isAttributeChar c = true
  value_unquoted : ∀ v ∈ a.value, '"' ∉ v

/-- An element that can be written: there is something of it to write, and every part has
the characters of its place. Its text may be any. -/
structure Element.WellFormed (e : Element) : Prop where
  has_part : e.name ≠ none ∨ e.attributes ≠ [] ∨ e.text ≠ none ∨ e.count ≠ none
    ∨ e.selfClosing = true
  name_ne_nil : ∀ name ∈ e.name, name ≠ []
  name_chars : ∀ name ∈ e.name, ∀ c ∈ name, Abbreviation.isNameChar c = true
  attributes : ∀ a ∈ e.attributes, a.WellFormed
  distinct : (e.attributes.map Attribute.name).Nodup
  count : CountFits e.count

namespace Abbreviation

open Text (takeWhile_append_run dropWhile_append_run)

/-! ### Reading back the parts of an element -/

/-- Text in braces is read back, whatever it is, when every brace and backslash in it stands
behind a backslash. Other characters may do so as well. -/
theorem readText_escaped {special : Char → Prop} [DecidablePred special] (hslash : special '\\')
    (hopen : special '{') (hclose : special '}') (text rest : Text) :
    readText 0 (text.flatMap (fun c => if special c then ['\\', c] else [c]) ++ '}' :: rest)
      = some (text, rest) := by
  induction text with
  | nil => rfl
  | cons c text ih =>
    rw [List.flatMap_cons, List.append_assoc]
    by_cases hc : special c
    · rw [if_pos hc, List.cons_append, List.cons_append, List.nil_append, readText, ih]
      rfl
    · have hne {d : Char} (hd : special d) : c ≠ d := by
        rintro rfl
        exact hc hd
      have hnotSlash := hne hslash
      have hnotOpen := hne hopen
      have hnotClose := hne hclose
      rw [if_neg hc, List.cons_append, List.nil_append, readText, ih]
      · rfl
      all_goals simp_all

theorem readText_printText (text rest : Text) :
    readText 0 (printText text ++ '}' :: rest) = some (text, rest) :=
  @readText_escaped (fun c => c = '\\' ∨ c = '{' ∨ c = '}') _ (.inl rfl) (.inr (.inl rfl))
    (.inr (.inr rfl)) text rest

theorem digitsValue_ofNat (n : Nat) : Text.digitsValue (Text.ofNat n) = n :=
  Nat.ofDigitChars_ten_toDigits

theorem isDigit_of_mem_ofNat {n : Nat} {c : Char} (hc : c ∈ Text.ofNat n) :
    Text.isDigit c = true :=
  Nat.isDigit_of_mem_toDigits (by decide) (by decide) hc

/-- The numeral of a count is read back as the count. -/
theorem repeatCount_ofNat {n : Nat} (hpos : 1 ≤ n) (hle : n ≤ maxRepeat) :
    repeatCount (Text.ofNat n) = n := by
  have hword : n ≤ wordMax := Nat.le_trans hle (by decide)
  have hne : Text.ofNat n ≠ [] := Nat.toDigits_ne_nil
  rw [repeatCount, Text.readWord, if_neg hne, digitsValue_ofNat, if_pos hword, Option.getD_some]
  omega

theorem readCount_ofNat {n : Nat} (hpos : 1 ≤ n) (hle : n ≤ maxRepeat) {rest : Text}
    (hrest : ∀ c ∈ rest.head?, Text.isDigit c = false) :
    readCount (Text.ofNat n ++ rest) = (n, rest) := by
  have hdigits : ∀ c ∈ Text.ofNat n, Text.isDigit c = true := fun c => isDigit_of_mem_ofNat
  rw [readCount, takeWhile_append_run hdigits hrest, dropWhile_append_run hdigits hrest,
    repeatCount_ofNat hpos hle]

/-! ### Reading back attributes -/

theorem readValue_quoted {value : Text} (h : '"' ∉ value) (rest : Text) :
    readValue ('"' :: value ++ '"' :: rest) = .ok (value, rest) := by
  have hvalue : ∀ c ∈ value, (c != '"') = true := by
    intro c hc
    simp only [bne_iff_ne, ne_eq]
    rintro rfl
    exact h hc
  have hquote : ∀ c ∈ ('"' :: rest).head?, (c != '"') = false := by simp
  rw [List.cons_append, readValue_quote (Or.inl rfl) (dropWhile_append_run hvalue hquote),
    takeWhile_append_run hvalue hquote]

/-- A name that the list does not have goes to its end. -/
theorem set_of_notMem {name : Text} {attributes : List Attribute}
    (h : name ∉ attributes.map Attribute.name) (value : Option Text) :
    Attribute.set name value attributes = attributes ++ [⟨name, value⟩] := by
  induction attributes with
  | nil => rfl
  | cons a rest ih =>
    simp only [List.map_cons, List.mem_cons, not_or] at h
    rw [Attribute.set, if_neg (Ne.symm h.1), ih h.2, List.cons_append]

/-- What stands behind an attribute in brackets: a blank or the closing bracket. -/
def FollowsAttribute (t : Text) : Prop :=
  ∃ c rest, t = c :: rest ∧ (c = ' ' ∨ c = ']')

theorem FollowsAttribute.stops {t : Text} (h : FollowsAttribute t) :
    ∀ c ∈ t.head?, isAttributeChar c = false := by
  obtain ⟨c, rest, rfl, hc⟩ := h
  intro x hx
  obtain rfl : c = x := by simpa using hx
  rcases hc with rfl | rfl <;> decide

/-- One attribute is read back and set. -/
theorem readAttributes_printAttribute {a : Attribute} (ha : a.WellFormed) {t : Text}
    (ht : FollowsAttribute t) (attributes : List Attribute) :
    readAttributes attributes (printAttribute a ++ t)
      = readAttributes (Attribute.set a.name a.value attributes) t := by
  obtain ⟨c, name, hname⟩ := List.exists_cons_of_ne_nil ha.name_ne_nil
  have hchar : isAttributeChar c = true := ha.name_chars c (by simp [hname])
  have hblank : Text.isBlank c = false := by
    simp only [isAttributeChar, Bool.and_eq_true, Bool.not_eq_true'] at hchar
    exact hchar.1.1.1.1
  have hbracket : c ≠ ']' := by
    rintro rfl
    simp [isAttributeChar] at hchar
  -- The name starts with no blank, so the reader looks at it at once.
  have hstart (tail : Text) : (a.name ++ tail).dropWhile Text.isBlank = c :: (name ++ tail) := by
    rw [hname, List.cons_append, List.dropWhile_cons_of_neg (by simp [hblank])]
  have hrun (tail : Text) : c :: (name ++ tail) = a.name ++ tail := by
    rw [hname, List.cons_append]
  cases hvalue : a.value with
  | none =>
    have hprint : printAttribute a = a.name := by rw [printAttribute, hvalue]
    have hequals : t.head? ≠ some '=' := by
      obtain ⟨x, rest, rfl, rfl | rfl⟩ := ht <;> simp
    rw [hprint]
    refine readAttributes_bare (hstart t) hbracket ha.name_ne_nil ?_ ?_ hequals
    · rw [hrun, takeWhile_append_run ha.name_chars ht.stops]
    · rw [hrun, dropWhile_append_run ha.name_chars ht.stops]
  | some value =>
    have hprint : printAttribute a ++ t = a.name ++ '=' :: ('"' :: value ++ '"' :: t) := by
      rw [printAttribute, hvalue]
      simp
    have hequals : ∀ x ∈ ('=' :: ('"' :: value ++ '"' :: t)).head?,
        isAttributeChar x = false := by
      simp [isAttributeChar]
    rw [hprint]
    refine readAttributes_value (hstart _) hbracket ha.name_ne_nil ?_ ?_
      (readValue_quoted (ha.value_unquoted value hvalue) t)
    · rw [hrun, takeWhile_append_run ha.name_chars hequals]
    · rw [hrun, dropWhile_append_run ha.name_chars hequals]

theorem readAttributes_blank (attributes : List Attribute) (t : Text) :
    readAttributes attributes (' ' :: t) = readAttributes attributes t := by
  have h : (' ' :: t).dropWhile Text.isBlank = t.dropWhile Text.isBlank :=
    List.dropWhile_cons_of_pos (by decide)
  rw [readAttributes.eq_def, readAttributes.eq_def, h]

/-- Attributes in brackets are read back in order, behind those that were there. -/
theorem readAttributes_join {present attributes : List Attribute}
    (hne : attributes ≠ []) (hwell : ∀ a ∈ attributes, a.WellFormed)
    (hdistinct : ((present ++ attributes).map Attribute.name).Nodup) (rest : Text) :
    readAttributes present (Text.join [' '] (attributes.map printAttribute) ++ ']' :: rest)
      = .ok (present ++ attributes, rest) := by
  induction attributes generalizing present with
  | nil => exact absurd rfl hne
  | cons a attributes ih =>
    have ha : a.WellFormed := hwell a (by simp)
    -- Names are distinct, so no attribute that is there takes the value.
    have hset : Attribute.set a.name a.value present = present ++ [a] := by
      apply set_of_notMem
      rw [List.map_append, List.nodup_append] at hdistinct
      intro hmem
      exact hdistinct.2.2 _ hmem _ (by simp) rfl
    cases attributes with
    | nil =>
      have hjoin : Text.join [' '] ([a].map printAttribute) = printAttribute a := rfl
      rw [hjoin, readAttributes_printAttribute ha ⟨']', rest, rfl, Or.inr rfl⟩, hset]
      exact readAttributes_close (List.dropWhile_cons_of_neg (by decide))
    | cons b attributes =>
      -- The blank behind the attribute ends its name and is skipped before the next one.
      have hjoin : Text.join [' '] ((a :: b :: attributes).map printAttribute) ++ ']' :: rest
          = printAttribute a ++ ' ' ::
            (Text.join [' '] ((b :: attributes).map printAttribute) ++ ']' :: rest) := by
        simp [Text.join]
      rw [hjoin, readAttributes_printAttribute ha ⟨' ', _, rfl, Or.inl rfl⟩,
        readAttributes_blank, hset,
        ih (by simp) (fun x hx => hwell x (by simp [hx])) (by simpa using hdistinct)]
      simp

/-! ### Reading back an element -/

/-- Text with its braces, or nothing. -/
def printBraced : Option Text → Text
  | some text => '{' :: printText text ++ ['}']
  | none => []

/-- The mark of a self-closing element, or nothing. -/
def printMark (selfClosing : Bool) : Text :=
  if selfClosing then ['/'] else []

/-- What an element has behind its name. -/
def printParts (e : Element) : Text :=
  printAttributes e.attributes ++ (printBraced e.text ++
    (printCount e.count ++ printMark e.selfClosing))

theorem printElement_eq (e : Element) : printElement e = e.name.getD [] ++ printParts e := by
  unfold printElement printParts printBraced printMark
  cases e.text <;> simp

theorem readParts_printAttributes {e : Element} (h : e.attributes = [])
    {attributes : List Attribute} (hwell : ∀ a ∈ attributes, a.WellFormed)
    (hdistinct : (attributes.map Attribute.name).Nodup) (t : Text) :
    readParts e (printAttributes attributes ++ t) = readParts { e with attributes } t := by
  cases attributes with
  | nil =>
    have he : { e with attributes := [] } = e := by rw [← h]
    rw [he]
    rfl
  | cons a rest =>
    have hprint : printAttributes (a :: rest) ++ t
        = '[' :: (Text.join [' '] ((a :: rest).map printAttribute) ++ ']' :: t) := by
      simp [printAttributes]
    rw [hprint]
    apply readParts_attributes
    rw [h]
    exact readAttributes_join (by simp) hwell (by simpa using hdistinct) t

theorem readParts_printBraced {e : Element} (h : e.text = none) (text : Option Text) (t : Text) :
    readParts e (printBraced text ++ t) = readParts { e with text } t := by
  cases text with
  | none =>
    have he : { e with text := none } = e := by rw [← h]
    rw [he]
    rfl
  | some text =>
    have hprint : printBraced (some text) ++ t = '{' :: (printText text ++ '}' :: t) := by
      simp [printBraced]
    rw [hprint, readParts_text e (readText_printText text t), Element.addText, h]
    rfl

theorem readParts_printCount {e : Element} (h : e.count = none) {count : Option Nat}
    (hcount : CountFits count) {t : Text} (ht : ∀ c ∈ t.head?, Text.isDigit c = false) :
    readParts e (printCount count ++ t) = readParts { e with count } t := by
  cases count with
  | none =>
    have he : { e with count := none } = e := by rw [← h]
    rw [he]
    rfl
  | some n =>
    obtain ⟨hpos, hle⟩ := hcount n rfl
    rw [printCount, List.cons_append, readParts_count h, readCount_ofNat hpos hle ht]

theorem readParts_printMark {e : Element} (h : e.selfClosing = false) (selfClosing : Bool)
    {t : Text} (ht : FollowsItem t) :
    readParts e (printMark selfClosing ++ t) = .ok ({ e with selfClosing }, t) := by
  cases selfClosing with
  | false =>
    have he : { e with selfClosing := false } = e := by rw [← h]
    rw [he]
    exact readParts_followsItem e ht
  | true =>
    show readParts e ('/' :: t) = _
    rw [readParts_selfClosing, readParts_followsItem _ ht]

theorem head?_append {P : Char → Prop} {s t : Text} (hs : ∀ c ∈ s.head?, P c)
    (ht : ∀ c ∈ t.head?, P c) : ∀ c ∈ (s ++ t).head?, P c := by
  cases s with
  | nil => exact ht
  | cons c rest => exact hs

/-- The parts behind an element's name are read back. -/
theorem readParts_print {e : Element} (he : e.WellFormed) {t : Text} (ht : FollowsItem t) :
    readParts { name := e.name } (printParts e ++ t) = .ok (e, t) := by
  -- The digits of the repeat end before the mark or before the operator.
  have hmark : ∀ c ∈ (printMark e.selfClosing ++ t).head?, Text.isDigit c = false := by
    apply head?_append
    · cases e.selfClosing <;> simp [printMark, Text.isDigit]
    · exact ht.stops isDigit_of_isOperator
  simp only [printParts, List.append_assoc]
  rw [readParts_printAttributes rfl he.attributes he.distinct, readParts_printBraced rfl,
    readParts_printCount rfl he.count hmark, readParts_printMark rfl _ ht]

/-- No part behind an element's name goes on with the name. -/
theorem isNameChar_printParts (e : Element) {t : Text} (ht : FollowsItem t) :
    ∀ c ∈ (printParts e ++ t).head?, isNameChar c = false := by
  refine head?_append (head?_append ?_ (head?_append ?_ (head?_append ?_ ?_)))
    (ht.stops isNameChar_of_isOperator)
  · cases e.attributes <;> simp [printAttributes]; decide
  · cases e.text <;> simp [printBraced]; decide
  · cases e.count <;> simp [printCount]; decide
  · cases e.selfClosing <;> simp [printMark]; decide

theorem printParts_ne_nil {e : Element} (he : e.WellFormed) (hname : e.name = none) :
    printParts e ≠ [] := by
  unfold printParts
  rcases he.has_part with h | h | h | h | h
  · exact absurd hname h
  · cases hattributes : e.attributes <;> simp_all [printAttributes]
  · cases htext : e.text <;> simp_all [printBraced]
  · cases hcount : e.count <;> simp_all [printCount]
  · simp [h, printMark]

/-- A printed element is read back. -/
theorem readElement_print {e : Element} (he : e.WellFormed) {t : Text} (ht : FollowsItem t) :
    readElement (printElement e ++ t) = .ok (e, t) := by
  have hstop := isNameChar_printParts e ht
  have hparts := readParts_print he ht
  rw [printElement_eq, List.append_assoc]
  cases hname : e.name with
  | some name =>
    have hchars := he.name_chars name hname
    rw [hname] at hparts
    rw [Option.getD_some, readElement_named (he.name_ne_nil name hname)
      (takeWhile_append_run hchars hstop), dropWhile_append_run hchars hstop, hparts]
  | none =>
    -- Without a name, the reader asks that the parts are not empty.
    have hlength := List.length_pos_iff.2 (printParts_ne_nil he hname)
    rw [hname] at hparts
    rw [Option.getD_none, List.nil_append]
    refine readElement_unnamed hstop hparts ?_
    rw [List.length_append]
    omega

end Abbreviation

end Shorthand
