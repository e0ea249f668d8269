import Shorthand.Completion.Extract
import Shorthand.Proofs.Abbreviation.Steps

/-!
# `Shorthand.Proofs.Completion.TagEnds`: the angle bracket that closes a tag

An abbreviation may have an angle bracket, but not one that closes a tag. `closesTag` decides it
from right to left, on the text before the bracket. `IsTag` says what a tag is, in the order in
which it is written: an opening angle bracket, perhaps a slash, a letter and more characters of a
name, perhaps white space with anything but angle brackets behind it, perhaps a slash, and a
closing angle bracket.

`closesTag_iff` says that the two agree: a bracket closes a tag if and only if the text up to it
ends in one. So more text before a tag does not undo it (`closesTag_of_isPrefix`).
-/

set_option autoImplicit false

namespace Shorthand

namespace Completion

/-! ### What a tag is -/

/-- A slash or nothing. -/
def IsSlash (t : Text) : Prop :=
  t = [] ∨ t = ['/']

/-- White space with anything but angle brackets behind it, or nothing. -/
def IsAttributes (t : Text) : Prop :=
  t = [] ∨ ∃ blank rest, t = blank :: rest ∧ Text.isBlank blank = true ∧ '<' ∉ rest ∧ '>' ∉ rest

/-- The body of a tag from its name on: a name that starts with a letter, perhaps attributes, and
perhaps a slash. -/
def IsNamedBody (body : Text) : Prop :=
  ∃ first name attributes finish, body = first :: (name ++ (attributes ++ finish)) ∧
    first.isAlpha = true ∧ (∀ c ∈ name, isTagNameChar c = true) ∧ IsAttributes attributes ∧
    IsSlash finish

/-- A tag: such a body between angle brackets, perhaps behind a slash. -/
def IsTag (tag : Text) : Prop :=
  ∃ slash body, tag = '<' :: (slash ++ body ++ ['>']) ∧ IsSlash slash ∧ IsNamedBody body

/-- The test of what stands behind the name of a tag. -/
def isTagTail : Text → Bool
  | [] => true
  | ['/'] => true
  | c :: rest => Text.isBlank c && !rest.contains '>'

/-- The test of a tag's body from its name on. -/
def isNamedBody : Text → Bool
  | [] => false
  | c :: rest => c.isAlpha && isTagTail (rest.dropWhile isTagNameChar)

theorem isTagBody_slash (rest : Text) : isTagBody ('/' :: rest) = isNamedBody rest := by
  cases rest <;> rfl

theorem isTagBody_of_head? {body : Text} (h : body.head? ≠ some '/') :
    isTagBody body = isNamedBody body := by
  unfold isTagBody
  split
  · exact absurd rfl h
  · cases body <;> rfl

theorem isTagTail_iff {tail : Text} (h : '<' ∉ tail) :
    isTagTail tail = true ↔
      ∃ attributes finish, tail = attributes ++ finish ∧ IsAttributes attributes ∧
        IsSlash finish := by
  constructor
  · intro htail
    unfold isTagTail at htail
    split at htail
    · exact ⟨[], [], rfl, .inl rfl, .inl rfl⟩
    · exact ⟨[], ['/'], rfl, .inl rfl, .inr rfl⟩
    · rename_i blank rest _
      simp only [Bool.and_eq_true, Bool.not_eq_true', List.contains_eq_mem,
        decide_eq_false_iff_not] at htail
      have hopen : '<' ∉ rest := mt (List.mem_cons_of_mem _) h
      exact ⟨blank :: rest, [], by simp, .inr ⟨blank, rest, rfl, htail.1, hopen, htail.2⟩, .inl rfl⟩
  · rintro ⟨attributes, finish, rfl, rfl | ⟨blank, rest, rfl, hblank, -, hclose⟩, hfinish⟩
    · obtain rfl | rfl := hfinish <;> rfl
    · have hnone : '>' ∉ rest ++ finish := by
        obtain rfl | rfl := hfinish <;> simpa using hclose
      unfold isTagTail
      split
      · rfl
      · rfl
      · rename_i heq
        obtain ⟨rfl, rfl⟩ := List.cons_eq_cons.1 heq
        simp [hblank, hnone]

/-- A word character is a character of names, or one of the others that words are made of. -/
theorem isNameChar_or_of_isWord {c : Char} (h : Text.isWord c = true) :
    Abbreviation.isNameChar c = true ∨ Text.inRanges Text.wordExtraRanges c = true := by
  rw [Text.isWord] at h
  split at h
  · rename_i hascii
    left
    rw [Bool.or_eq_true, beq_iff_eq] at h
    obtain halpha | rfl := h
    · simp [Abbreviation.isNameChar, Text.isAlphanumeric_of_isAlphanum hascii halpha]
    · decide
  · rename_i hascii
    rw [Bool.and_eq_true, Bool.or_eq_true] at h
    obtain ⟨-, halpha | hextra⟩ := h
    · left
      simp [Abbreviation.isNameChar, Text.isAlphanumeric, Text.isAlphabetic, hascii, halpha]
    · exact .inr hextra

-- The table of letters has been searched for white space before. Only the other one is left.
theorem isBlank_of_isTagNameChar {c : Char} (h : isTagNameChar c = true) :
    Text.isBlank c = false := by
  simp only [isTagNameChar, Bool.or_eq_true, beq_iff_eq] at h
  obtain ((hword | rfl) | rfl) | rfl := h
  · obtain hname | hextra := isNameChar_or_of_isWord hword
    · exact Abbreviation.isBlank_of_isNameChar hname
    · exact Text.isBlank_of_class (by decide +kernel) hextra
  · decide
  · decide
  · decide

/-- The name of a tag ends before its attributes and before a slash. -/
theorem isTagNameChar_of_head? {attributes finish : Text} (hattributes : IsAttributes attributes)
    (hfinish : IsSlash finish) :
    ∀ c ∈ (attributes ++ finish).head?, isTagNameChar c = false := by
  intro c hc
  obtain rfl | ⟨blank, rest, rfl, hblank, -⟩ := hattributes
  · obtain rfl | rfl := hfinish
    · cases hc
    · obtain rfl : '/' = c := Option.some.inj hc
      decide
  · obtain rfl : blank = c := Option.some.inj hc
    by_contra hname
    rw [isBlank_of_isTagNameChar (Bool.of_not_eq_false hname)] at hblank
    cases hblank

theorem isNamedBody_iff {body : Text} (h : '<' ∉ body) :
    isNamedBody body = true ↔ IsNamedBody body := by
  constructor
  · intro hbody
    cases body with
    | nil => cases hbody
    | cons first rest =>
      rw [isNamedBody, Bool.and_eq_true] at hbody
      have hsuffix : rest.dropWhile isTagNameChar <:+ rest := List.dropWhile_suffix _
      have hopen : '<' ∉ rest.dropWhile isTagNameChar :=
        fun hmem => h (List.mem_cons_of_mem _ (hsuffix.subset hmem))
      obtain ⟨attributes, finish, htail, hattributes, hfinish⟩ :=
        (isTagTail_iff hopen).1 hbody.2
      refine ⟨first, rest.takeWhile isTagNameChar, attributes, finish, ?_, hbody.1,
        fun c hc => List.mem_takeWhile_imp hc, hattributes, hfinish⟩
      rw [← htail, List.takeWhile_append_dropWhile]
  · rintro ⟨first, name, attributes, finish, rfl, hfirst, hname, hattributes, hfinish⟩
    have hopen : '<' ∉ attributes ++ finish :=
      fun hmem => h (List.mem_cons_of_mem _ (List.mem_append_right _ hmem))
    rw [isNamedBody, hfirst, Bool.true_and,
      Text.dropWhile_append_run hname (isTagNameChar_of_head? hattributes hfinish)]
    exact (isTagTail_iff hopen).2 ⟨attributes, finish, rfl, hattributes, hfinish⟩

theorem IsNamedBody.head?_ne {body : Text} (h : IsNamedBody body) : body.head? ≠ some '/' := by
  obtain ⟨first, name, attributes, finish, rfl, hfirst, -⟩ := h
  intro hhead
  obtain rfl : first = '/' := Option.some.inj hhead
  cases hfirst

/-- A slash before the name of a tag is passed over. -/
theorem isTagBody_iff {body : Text} (h : '<' ∉ body) :
    isTagBody body = true ↔ ∃ slash rest, body = slash ++ rest ∧ IsSlash slash ∧
      IsNamedBody rest := by
  constructor
  · intro hbody
    by_cases hhead : body.head? = some '/'
    · obtain ⟨rest, rfl⟩ := List.head?_eq_some_iff.1 hhead
      rw [isTagBody_slash] at hbody
      have hrest : '<' ∉ rest := mt (List.mem_cons_of_mem _) h
      exact ⟨['/'], rest, rfl, .inr rfl, (isNamedBody_iff hrest).1 hbody⟩
    · rw [isTagBody_of_head? hhead] at hbody
      exact ⟨[], body, rfl, .inl rfl, (isNamedBody_iff h).1 hbody⟩
  · rintro ⟨slash, rest, rfl, hslash, hrest⟩
    have hopen : '<' ∉ rest := mt (List.mem_append_right _) h
    obtain rfl | rfl := hslash
    · rw [List.nil_append, isTagBody_of_head? hrest.head?_ne]
      exact (isNamedBody_iff hopen).2 hrest
    · rw [List.singleton_append, isTagBody_slash]
      exact (isNamedBody_iff hopen).2 hrest

/-- There is no angle bracket inside a tag. -/
theorem IsNamedBody.notMem {body : Text} (h : IsNamedBody body) : '<' ∉ body := by
  obtain ⟨first, name, attributes, finish, rfl, hfirst, hname, hattributes, hfinish⟩ := h
  have hother {p : Char → Bool} (hp : p '<' = false) {c : Char} (hc : p c = true) : '<' ≠ c := by
    rintro rfl
    rw [hp] at hc
    cases hc
  simp only [List.mem_cons, List.mem_append, not_or]
  refine ⟨hother (by decide) hfirst, fun hmem => ?_, ?_, ?_⟩
  · exact absurd (hname _ hmem) (by decide)
  · obtain rfl | ⟨blank, rest, rfl, hblank, hopen, -⟩ := hattributes
    · exact List.not_mem_nil
    · simp only [List.mem_cons, not_or]
      exact ⟨hother (by decide) hblank, hopen⟩
  · obtain rfl | rfl := hfinish <;> decide

/-- The body that is tested goes back to the nearest opening angle bracket. -/
theorem closesTag_append {body : Text} (h : '<' ∉ body) (more : Text) :
    closesTag (body ++ '<' :: more) = isTagBody body.reverse := by
  have hbody : ∀ c ∈ body, (c != '<') = true := by
    intro c hc
    rw [bne_iff_ne]
    rintro rfl
    exact h hc
  rw [closesTag, Text.takeWhile_append_run hbody (by simp)]
  simp

/-- An angle bracket closes a tag if and only if a tag ends with it. -/
theorem closesTag_iff {before : Text} :
    closesTag before = true ↔ ∃ front tag, IsTag tag ∧ before.reverse ++ ['>'] = front ++ tag := by
  constructor
  · intro hcloses
    have hmem : '<' ∈ before := by
      rw [closesTag, Bool.and_eq_true] at hcloses
      simpa using hcloses.1
    obtain ⟨body, more, rfl, hbody⟩ := List.eq_append_cons_of_mem hmem
    rw [closesTag_append hbody, isTagBody_iff (by simpa using hbody)] at hcloses
    obtain ⟨slash, rest, hcut, hslash, hrest⟩ := hcloses
    exact ⟨more.reverse, _, ⟨slash, rest, rfl, hslash, hrest⟩, by simp [hcut]⟩
  · rintro ⟨front, tag, ⟨slash, rest, rfl, hslash, hrest⟩, hline⟩
    have hbody : '<' ∉ slash ++ rest := by
      obtain rfl | rfl := hslash <;> simp [hrest.notMem]
    have hbefore : before = (slash ++ rest).reverse ++ '<' :: front.reverse := by
      rw [← List.reverse_inj, ← List.append_left_inj ['>'], hline]
      simp
    rw [hbefore, closesTag_append (mt List.mem_reverse.1 hbody), List.reverse_reverse,
      isTagBody_iff hbody]
    exact ⟨slash, rest, rfl, hslash, hrest⟩

/-- A tag that ends here ends here in a longer line too. -/
theorem closesTag_of_isPrefix {short before : Text} (h : short <+: before)
    (hcloses : closesTag short = true) : closesTag before = true := by
  obtain ⟨more, rfl⟩ := h
  obtain ⟨front, tag, htag, hline⟩ := closesTag_iff.1 hcloses
  refine closesTag_iff.2 ⟨more.reverse ++ front, tag, htag, ?_⟩
  rw [List.reverse_append, List.append_assoc, hline, List.append_assoc]

end Completion

end Shorthand
