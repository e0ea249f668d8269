import Shorthand.Proofs.Text.Runs
import Shorthand.Stylesheet.Value

/-!
# `Shorthand.Proofs.Stylesheet.Values`: the language of values

A `Reading` divides a text into values: a colour or a number first, and then more of them, each
behind a minus sign or, if it is a colour, behind nothing. `WellFormed` says which readings count,
by what may stand in a colour, in a number and in a unit.

`parseValues_eq_ok_iff` says that exactly the texts with such a reading are accepted, and that
they are written value by value with blanks between. A text has one reading at most, although a
minus sign is a sign as well as a separator, and a letter a unit as well as a digit.

The reader takes of every value as much as there is. So a value is read off the start of a text
if what follows it starts with a minus sign or a hash sign (`readValue?_append`), and conversely
what it reads is a value (`eq_append_of_readValue?`).
-/

set_option autoImplicit false

namespace Shorthand

namespace Stylesheet

/-! ### Readings -/

/-- Digits and points, at least one of them, behind an optional minus sign. -/
def IsNumeral (digits : Text) : Prop :=
  ∃ body, (digits = body ∨ digits = '-' :: body) ∧ body ≠ [] ∧ ∀ c ∈ body, isNumberChar c = true

namespace Value

/-- A value as it stands in an abbreviation. -/
def spelling : Value → Text
  | .color digits => '#' :: digits
  | .number digits unit => digits ++ unit

def isColor : Value → Bool
  | .color _ => true
  | .number _ _ => false

/-- A colour of hexadecimal digits, or a number with a unit of letters and percent signs. -/
def WellFormed : Value → Prop
  | .color digits => ∀ c ∈ digits, isHexDigit c = true
  | .number digits unit => IsNumeral digits ∧ ∀ c ∈ unit, isUnitChar c = true

end Value

/-- A value behind another one, and whether a minus sign divides them. -/
structure Next where
  dash : Bool
  value : Value

namespace Next

def spelling (next : Next) : Text :=
  (if next.dash then ['-'] else []) ++ next.value.spelling

/-- Only a colour needs no minus sign before it. -/
structure WellFormed (next : Next) : Prop where
  value : next.value.WellFormed
  divided : next.dash = true ∨ next.value.isColor = true

end Next

/-- A text in values. -/
structure Reading where
  first : Value
  others : List Next

namespace Reading

/-- The text that is read. -/
def text (r : Reading) : Text :=
  r.first.spelling ++ r.others.flatMap Next.spelling

/-- The values in order. -/
def values (r : Reading) : List Value :=
  r.first :: r.others.map Next.value

structure WellFormed (r : Reading) : Prop where
  first : r.first.WellFormed
  others : ∀ next ∈ r.others, next.WellFormed

end Reading

/-! ### Reading one value -/

/-- What may follow a value. -/
def FollowsValue (t : Text) : Prop :=
  ∀ c ∈ t.head?, c = '-' ∨ c = '#'

theorem FollowsValue.stops {t : Text} (h : FollowsValue t) {p : Char → Bool}
    (hdash : p '-' = false) (hhash : p '#' = false) : ∀ c ∈ t.head?, p c = false := by
  intro c hc
  obtain rfl | rfl := h c hc
  · exact hdash
  · exact hhash

theorem isNumberChar_of_isUnitChar {c : Char} (h : isUnitChar c = true) :
    isNumberChar c = false := by
  -- Letters stand behind the digits and the point.
  have hletter {first : Char} (hfirst : first.val ≤ c.val) (hpoint : ¬ first.val ≤ '.'.val)
      (hnine : ¬ first.val ≤ '9'.val) : isNumberChar c = false := by
    simp only [isNumberChar, Char.isDigit, Bool.or_eq_false_iff, Bool.and_eq_false_iff,
      decide_eq_false_iff_not, beq_eq_false_iff_ne]
    exact ⟨.inr fun hle => hnine (UInt32.le_trans hfirst hle), fun heq => hpoint (heq ▸ hfirst)⟩
  rw [isUnitChar, Bool.or_eq_true, beq_iff_eq] at h
  obtain halpha | rfl := h
  · obtain hupper | hlower := Bool.or_eq_true_iff.1 halpha
    · have hfirst : 'A'.val ≤ c.val := (of_decide_eq_true hupper).1
      exact hletter hfirst (by decide) (by decide)
    · have hfirst : 'a'.val ≤ c.val := of_decide_eq_true (Bool.and_eq_true_iff.1 hlower).1
      exact hletter hfirst (by decide) (by decide)
  · decide

/-- A number takes its digits, and then its unit. -/
theorem readNumber?_append (sign : Text) {body unit rest : Text} (hne : body ≠ [])
    (hbody : ∀ c ∈ body, isNumberChar c = true) (hunit : ∀ c ∈ unit, isUnitChar c = true)
    (hrest : FollowsValue rest) :
    readNumber? sign (body ++ (unit ++ rest)) = some (.number (sign ++ body) unit, rest) := by
  -- The digits end where the unit starts, or the rest if there is no unit.
  have hnumber : ∀ c ∈ (unit ++ rest).head?, isNumberChar c = false := by
    cases unit with
    | nil => exact hrest.stops (by decide) (by decide)
    | cons c unit =>
      intro d hd
      obtain rfl : c = d := Option.some.inj hd
      exact isNumberChar_of_isUnitChar (hunit c List.mem_cons_self)
  have hletters : ∀ c ∈ rest.head?, isUnitChar c = false := hrest.stops (by decide) (by decide)
  unfold readNumber?
  rw [Text.takeWhile_append_run hbody hnumber,
    Text.dropWhile_append_run hbody hnumber]
  obtain ⟨c, body, rfl⟩ := List.exists_cons_of_ne_nil hne
  simp only [Text.takeWhile_append_run hunit hletters,
    Text.dropWhile_append_run hunit hletters]

/-- A value is read as far as it goes. -/
theorem readValue?_append {value : Value} (h : value.WellFormed) {rest : Text}
    (hrest : FollowsValue rest) :
    readValue? (value.spelling ++ rest) = some (value, rest) := by
  cases value with
  | color digits =>
    have hstop : ∀ c ∈ rest.head?, isHexDigit c = false := hrest.stops (by decide) (by decide)
    rw [Value.spelling, List.cons_append, readValue?, Text.takeWhile_append_run h hstop,
      Text.dropWhile_append_run h hstop]
  | number digits unit =>
    obtain ⟨⟨body, hdigits, hne, hbody⟩, hunit⟩ := h
    rw [Value.spelling, List.append_assoc]
    obtain rfl | rfl := hdigits
    · -- A digit or a point comes first, so neither a colour nor a sign is seen.
      have hother {c : Char} (hc : isNumberChar c = false) : digits.head? ≠ some c := by
        intro hhead
        rw [hbody c (List.mem_of_mem_head? hhead)] at hc
        cases hc
      obtain ⟨c, rest', rfl⟩ := List.exists_cons_of_ne_nil hne
      rw [List.cons_append, readValue?]
      · exact readNumber?_append [] hne hbody hunit hrest
      · intro tail htail
        exact hother (c := '#') (by decide) (by rw [(List.cons_eq_cons.1 htail).1]; rfl)
      · intro tail htail
        exact hother (c := '-') (by decide) (by rw [(List.cons_eq_cons.1 htail).1]; rfl)
    · rw [List.cons_append, readValue?, readNumber?_append ['-'] hne hbody hunit hrest]
      rfl

/-- What is read as a number is one. -/
theorem eq_append_of_readNumber? {sign s rest : Text} {value : Value}
    (h : readNumber? sign s = some (value, rest)) :
    ∃ body unit, value = .number (sign ++ body) unit ∧ body ≠ [] ∧
      (∀ c ∈ body, isNumberChar c = true) ∧ (∀ c ∈ unit, isUnitChar c = true) ∧
      s = body ++ (unit ++ rest) := by
  unfold readNumber? at h
  split at h
  · cases h
  · rename_i digits hne
    simp only [Option.some.injEq, Prod.mk.injEq] at h
    obtain ⟨rfl, rfl⟩ := h
    refine ⟨_, _, rfl, hne, fun c hc => List.mem_takeWhile_imp hc,
      fun c hc => List.mem_takeWhile_imp hc, ?_⟩
    rw [List.takeWhile_append_dropWhile, List.takeWhile_append_dropWhile]

/-- What is read as a value is one, with the rest behind it. -/
theorem eq_append_of_readValue? {s rest : Text} {value : Value}
    (h : readValue? s = some (value, rest)) : value.WellFormed ∧ s = value.spelling ++ rest := by
  unfold readValue? at h
  split at h
  · rename_i tail
    simp only [Option.some.injEq, Prod.mk.injEq] at h
    obtain ⟨rfl, rfl⟩ := h
    refine ⟨fun c hc => List.mem_takeWhile_imp hc, ?_⟩
    rw [Value.spelling, List.cons_append, List.takeWhile_append_dropWhile]
  · obtain ⟨body, unit, rfl, hne, hbody, hunit, rfl⟩ := eq_append_of_readNumber? h
    exact ⟨⟨⟨body, .inr rfl, hne, hbody⟩, hunit⟩, by simp [Value.spelling]⟩
  · obtain ⟨body, unit, rfl, hne, hbody, hunit, rfl⟩ := eq_append_of_readNumber? h
    exact ⟨⟨⟨body, .inl rfl, hne, hbody⟩, hunit⟩, by simp [Value.spelling]⟩

/-! ### Reading values -/

section

variable {s rest : Text} {value : Value}

theorem readValues_last (h : readValue? s = some (value, [])) : readValues s = .ok [value] := by
  rw [readValues]
  split <;> simp_all

theorem readValues_color (h : readValue? s = some (value, '#' :: rest)) :
    readValues s = (readValues ('#' :: rest)).map (value :: ·) := by
  rw [readValues]
  split
  case h_3 heq =>
    rw [h] at heq
    cases heq
    cases readValues ('#' :: rest) <;> rfl
  all_goals simp_all

theorem readValues_dash {c : Char} (h : readValue? s = some (value, '-' :: c :: rest)) :
    readValues s = (readValues (c :: rest)).map (value :: ·) := by
  rw [readValues]
  split
  case h_4 heq =>
    rw [h] at heq
    cases heq
    cases readValues (c :: rest) <;> rfl
  all_goals simp_all

end

theorem Value.spelling_ne_nil {value : Value} (h : value.WellFormed) : value.spelling ≠ [] := by
  cases value with
  | color digits => exact List.cons_ne_nil _ _
  | number digits unit =>
    obtain ⟨⟨body, rfl | rfl, hne, -⟩, -⟩ := h
    · exact List.append_ne_nil_of_left_ne_nil hne _
    · exact List.cons_ne_nil _ _

/-- A value may follow another one as a colour or behind a minus sign. -/
theorem Next.WellFormed.spelling_cases {next : Next} (h : next.WellFormed) :
    (next.dash = true ∧ next.spelling = '-' :: next.value.spelling) ∨
    (next.dash = false ∧ ∃ digits, next.value = .color digits ∧ next.spelling = '#' :: digits) := by
  obtain ⟨dash, value⟩ := next
  cases dash with
  | true => exact .inl ⟨rfl, rfl⟩
  | false =>
    cases value with
    | color digits => exact .inr ⟨rfl, digits, rfl, rfl⟩
    | number digits unit => cases h.divided <;> contradiction

theorem followsValue_nil : FollowsValue [] :=
  fun _ hc => by cases hc

theorem Next.WellFormed.followsValue {next : Next} (h : next.WellFormed) (rest : Text) :
    FollowsValue (next.spelling ++ rest) := by
  intro c hc
  obtain ⟨-, hspelling⟩ | ⟨-, digits, -, hspelling⟩ := h.spelling_cases
  · rw [hspelling] at hc
    exact .inl (Option.some.inj hc).symm
  · rw [hspelling] at hc
    exact .inr (Option.some.inj hc).symm

/-- A well-formed reading is what its text is read as. -/
theorem readValues_text {r : Reading} (h : r.WellFormed) : readValues r.text = .ok r.values := by
  obtain ⟨first, others⟩ := r
  -- The next value is the first of what is left, so the induction is for any first one.
  induction others generalizing first with
  | nil => exact readValues_last (readValue?_append h.first followsValue_nil)
  | cons next others ih =>
    have hnext := h.others next List.mem_cons_self
    have hfirst := readValue?_append h.first (hnext.followsValue (others.flatMap Next.spelling))
    have hothers : readValues (next.value.spelling ++ others.flatMap Next.spelling)
        = .ok (next.value :: others.map Next.value) :=
      ih next.value ⟨hnext.value, fun n hn => h.others n (List.mem_cons_of_mem _ hn)⟩
    rw [Reading.text, Reading.values, List.flatMap_cons]
    obtain ⟨-, hspelling⟩ | ⟨-, digits, hcolor, hspelling⟩ := hnext.spelling_cases
    · -- Behind the minus sign there is more, so it divides the two values.
      obtain ⟨c, tail, htail⟩ := List.exists_cons_of_ne_nil (List.append_ne_nil_of_left_ne_nil
        (Value.spelling_ne_nil hnext.value) (others.flatMap Next.spelling))
      rw [hspelling, List.cons_append, htail] at hfirst ⊢
      rw [readValues_dash hfirst, ← htail, hothers]
      rfl
    · rw [hcolor, Value.spelling, List.cons_append] at hothers
      rw [hspelling, List.cons_append] at hfirst ⊢
      rw [readValues_color hfirst, hothers, List.map_cons, hcolor]
      rfl

/-- A value before a reading, with or without a minus sign. -/
def Reading.cons (value : Value) (dash : Bool) (r : Reading) : Reading :=
  ⟨value, ⟨dash, r.first⟩ :: r.others⟩

theorem Reading.text_cons (value : Value) (dash : Bool) (r : Reading) :
    (Reading.cons value dash r).text
      = value.spelling ++ ((if dash then ['-'] else []) ++ r.text) := by
  simp [Reading.cons, Reading.text, Next.spelling]

theorem Reading.WellFormed.cons {value : Value} {dash : Bool} {r : Reading} (h : r.WellFormed)
    (hvalue : value.WellFormed) (hdash : dash = true ∨ r.first.isColor = true) :
    (Reading.cons value dash r).WellFormed where
  first := hvalue
  others := List.forall_mem_cons.2 ⟨⟨h.first, hdash⟩, h.others⟩

/-- Behind a hash sign there is a colour. -/
theorem Value.isColor_of_head? {value : Value} (h : value.WellFormed) {rest tail : Text}
    (hhash : value.spelling ++ rest = '#' :: tail) : value.isColor = true := by
  cases value with
  | color digits => rfl
  | number digits unit =>
    obtain ⟨⟨body, rfl | rfl, hne, hbody⟩, -⟩ := h
    · obtain ⟨c, body, rfl⟩ := List.exists_cons_of_ne_nil hne
      obtain rfl : c = '#' := (List.cons_eq_cons.1 hhash).1
      exact absurd (hbody '#' List.mem_cons_self) (by decide)
    · exact absurd (List.cons_eq_cons.1 hhash).1 (by decide)

/-- What is read as values has a well-formed reading with these values. -/
theorem exists_reading {s : Text} {values : List Value} (h : readValues s = .ok values) :
    ∃ r : Reading, r.WellFormed ∧ r.text = s ∧ r.values = values := by
  -- Cases 2, 4 and 6 accept: at the end, before a colour and before a minus sign.
  fun_induction readValues s generalizing values with
  | case1 => cases h
  | case2 s value hvalue =>
    cases h
    obtain ⟨hwell, rfl⟩ := eq_append_of_readValue? hvalue
    exact ⟨⟨value, []⟩, ⟨hwell, List.forall_mem_nil _⟩, rfl, rfl⟩
  | case3 => cases h
  | case4 s value rest hvalue values _ ih =>
    cases h
    obtain ⟨hwell, rfl⟩ := eq_append_of_readValue? hvalue
    obtain ⟨r, hr, htext, rfl⟩ := ih ‹_›
    have hcolor : r.first.isColor = true := Value.isColor_of_head? hr.first htext
    refine ⟨.cons value false r, hr.cons hwell (.inr hcolor), ?_, rfl⟩
    rw [Reading.text_cons, htext]
    rfl
  | case5 => cases h
  | case6 s value c rest hvalue values _ ih =>
    cases h
    obtain ⟨hwell, rfl⟩ := eq_append_of_readValue? hvalue
    obtain ⟨r, hr, htext, rfl⟩ := ih ‹_›
    refine ⟨.cons value true r, hr.cons hwell (.inl rfl), ?_, rfl⟩
    rw [Reading.text_cons, htext]
    rfl
  | case7 => cases h

/-! ### One reading -/

/-- A text that starts with the same value behind another one has the same minus sign or none. -/
theorem Next.WellFormed.unique {next next' : Next} (h : next.WellFormed) (h' : next'.WellFormed)
    (hvalue : next.value = next'.value) {rest rest' : Text}
    (htext : next.spelling ++ rest = next'.spelling ++ rest') : next = next' := by
  have hdash : next.dash = next'.dash := by
    obtain ⟨hdash, hspelling⟩ | ⟨hdash, digits, -, hspelling⟩ := h.spelling_cases <;>
    obtain ⟨hdash', hspelling'⟩ | ⟨hdash', digits', -, hspelling'⟩ := h'.spelling_cases
    · rw [hdash, hdash']
    · rw [hspelling, hspelling'] at htext
      exact absurd (List.cons_eq_cons.1 htext).1 (by decide)
    · rw [hspelling, hspelling'] at htext
      exact absurd (List.cons_eq_cons.1 htext).1 (by decide)
    · rw [hdash, hdash']
  obtain ⟨dash, value⟩ := next
  obtain ⟨dash', value'⟩ := next'
  obtain rfl : dash = dash' := hdash
  obtain rfl : value = value' := hvalue
  rfl

/-- With the values, the text determines where minus signs divide them. -/
theorem others_unique {others others' : List Next} (h : ∀ next ∈ others, next.WellFormed)
    (h' : ∀ next ∈ others', next.WellFormed)
    (hvalues : others.map Next.value = others'.map Next.value)
    (htext : others.flatMap Next.spelling = others'.flatMap Next.spelling) :
    others = others' := by
  induction others generalizing others' with
  | nil => exact (List.map_eq_nil_iff.1 hvalues.symm).symm
  | cons next others ih =>
    cases others' with
    | nil => cases hvalues
    | cons next' others' =>
      obtain ⟨hvalue, hrest⟩ := List.cons_eq_cons.1 hvalues
      rw [List.flatMap_cons, List.flatMap_cons] at htext
      obtain rfl : next = next' := (h next List.mem_cons_self).unique
        (h' next' List.mem_cons_self) hvalue htext
      rw [ih (fun n hn => h n (List.mem_cons_of_mem _ hn))
        (fun n hn => h' n (List.mem_cons_of_mem _ hn)) hrest (List.append_cancel_left htext)]

/-- A text has one reading at most. -/
theorem reading_unique {r r' : Reading} (h : r.WellFormed) (h' : r'.WellFormed)
    (htext : r.text = r'.text) : r = r' := by
  -- Both have the values that their text is read as. What is left are the minus signs.
  have hvalues : r.values = r'.values :=
    Except.ok.inj ((readValues_text h).symm.trans ((congrArg readValues htext).trans
      (readValues_text h')))
  obtain ⟨first, others⟩ := r
  obtain ⟨first', others'⟩ := r'
  obtain ⟨hfirst, hothers⟩ := List.cons_eq_cons.1 hvalues
  obtain rfl : first = first' := hfirst
  obtain rfl := others_unique h.others h'.others hothers (List.append_cancel_left htext)
  rfl

/-- A text of values is accepted if and only if it has a well-formed reading. Then it has just
this one, and the values are written in order with blanks between. -/
theorem parseValues_eq_ok_iff (property : Text) (units : Units) {text : Text} (h : text ≠ []) :
    (∀ written, parseValues property units text = .ok written ↔
      ∃ r : Reading, r.WellFormed ∧ r.text = text ∧
        written = Text.join [' '] (r.values.map (Value.toText property units))) ∧
    ∀ r r' : Reading, r.WellFormed → r'.WellFormed → r.text = text → r'.text = text →
      r = r' := by
  refine ⟨fun written => ⟨fun hparse => ?_, ?_⟩, fun r r' hr hr' htext htext' => ?_⟩
  · rw [parseValues, if_neg h] at hparse
    cases hread : readValues text with
    | error stop =>
      rw [hread] at hparse
      cases hparse
    | ok values =>
      rw [hread] at hparse
      cases hparse
      obtain ⟨r, hr, htext, rfl⟩ := exists_reading hread
      exact ⟨r, hr, htext, rfl⟩
  · rintro ⟨r, hr, rfl, rfl⟩
    rw [parseValues, if_neg h, readValues_text hr]
  · exact reading_unique hr hr' (htext.trans htext'.symm)

/-- A number, a number with a sign, and a colour. -/
def threeValues : Reading :=
  ⟨.number "10" [], [⟨true, .number "-20" []⟩, ⟨false, .color "f"⟩]⟩

theorem parseValues_eq_ok_iff_threeValues :
    "10--20#f".toList ≠ [] ∧ threeValues.WellFormed ∧ threeValues.text = "10--20#f" ∧
    parseValues "margin" {} "10--20#f" = .ok "10px -20px #fff" ∧
    ∀ r : Reading, r.WellFormed → r.text = "10--20#f" → r = threeValues := by
  have hwell : threeValues.WellFormed := by
    have hten : Value.WellFormed (.number "10" []) :=
      ⟨⟨"10", .inl rfl, by decide, List.all_eq_true.1 (by decide)⟩, List.forall_mem_nil _⟩
    have htwenty : Value.WellFormed (.number "-20" []) :=
      ⟨⟨"20", .inr rfl, by decide, List.all_eq_true.1 (by decide)⟩, List.forall_mem_nil _⟩
    have hwhite : Value.WellFormed (.color "f") := List.all_eq_true.1 (by decide)
    exact ⟨hten, List.forall_mem_cons.2 ⟨⟨htwenty, .inl rfl⟩,
      List.forall_mem_singleton.2 ⟨hwhite, .inr rfl⟩⟩⟩
  have htext : threeValues.text = "10--20#f" := by decide
  have hne : "10--20#f".toList ≠ [] := by decide
  obtain ⟨haccepted, hunique⟩ := parseValues_eq_ok_iff "margin" {} hne
  exact ⟨hne, hwell, htext, (haccepted _).2 ⟨threeValues, hwell, htext, by decide⟩,
    fun r hr hr' => hunique r threeValues hr hwell hr' htext⟩

end Stylesheet

end Shorthand
