import Shorthand.Proofs.Abbreviation.Conclusive

/-!
# `Shorthand.Proofs.Abbreviation.Errors`: what an error says about longer abbreviations

While an abbreviation is typed, each text on the way is a beginning of the final one. The
error of such a beginning tells whether typing on can help. An unexpected character and a
nesting that is too deep stay what they are whatever follows, and a character is reported
with the place where it stands. An unexpected end and an open bracket or quote go away
with the right text behind.

- `readOperator_closers`: closing brackets end all groups that are open;
- `verdict_of_end`, `verdict_of_missingItem`: what is missing after the last item, and
  what is missing in place of one;
- `verdict_read`: the three statements for the parser at every place in its run;
- `parse_error_longer`: the same for abbreviations.
-/

set_option autoImplicit false

namespace Shorthand

namespace Abbreviation

open Text (Settles takeWhile_append_of_settles dropWhile_append_of_settles Trimmed trim_append
  takeWhile_append_run dropWhile_append_run trimmed_of_ends)

/-- What the parser's outcome on a text says about longer texts. -/
structure Verdict (read : Text → Except Stop (List Node)) (s : Text) : Prop where
  /-- A character that was refused is refused with more text behind. -/
  refused : ∀ c rest, read s = .error (.unexpected (c :: rest)) → c :: rest <:+ s ∧
    ∀ t, read (s ++ t) = .error (.unexpected (c :: rest ++ t))
  /-- A nesting that was refused is refused with more text behind. -/
  deep : read s = .error .tooDeep → ∀ t, read (s ++ t) = .error .tooDeep
  /-- What is unfinished can be finished. -/
  unfinished : ∀ stop, stop.IsOpen → read s = .error stop →
    ∃ t, Solid t ∧ ∃ forest, read (s ++ t) = .ok forest

section

variable {read read' : Text → Except Stop (List Node)} {s s' : Text}

theorem verdict_of_ok {forest : List Node} (h : read s = .ok forest) : Verdict read s where
  refused _ _ h' := by cases h.symm.trans h'
  deep h' := by cases h.symm.trans h'
  unfinished _ _ h' := by cases h.symm.trans h'

theorem verdict_of_refused {c : Char} {rest : Text}
    (h : read s = .error (.unexpected (c :: rest))) (hsuffix : c :: rest <:+ s)
    (hmore : ∀ t, read (s ++ t) = .error (.unexpected (c :: rest ++ t))) :
    Verdict read s where
  refused c' rest' h' := by
    cases h.symm.trans h'
    exact ⟨hsuffix, hmore⟩
  deep h' := by cases h.symm.trans h'
  unfinished stop hopen h' := by
    cases h.symm.trans h'
    cases hopen

theorem verdict_of_deep (h : ∀ t, read (s ++ t) = .error .tooDeep) : Verdict read s where
  refused c rest h' := by
    have hself := h []
    rw [List.append_nil, h'] at hself
    cases hself
  deep _ := h
  unfinished stop hopen h' := by
    have hself := h []
    rw [List.append_nil, h'] at hself
    cases hself
    cases hopen

theorem verdict_of_unfinished {stop : Stop} (h : read s = .error stop) (hopen : stop.IsOpen)
    {t : Text} (ht : Solid t) (hmore : ∃ forest, read (s ++ t) = .ok forest) :
    Verdict read s where
  refused c rest h' := by
    cases h.symm.trans h'
    cases hopen
  deep h' := by
    cases h.symm.trans h'
    cases hopen
  unfinished _ _ _ := ⟨t, ht, hmore⟩

/-- One step that is the same whatever follows. -/
theorem Verdict.of_step (h : Verdict read' s') (hsuffix : s' <:+ s)
    (hstep : ∀ t, read (s ++ t) = read' (s' ++ t)) : Verdict read s := by
  have hself : read s = read' s' := by
    simpa using hstep []
  constructor
  · intro c rest hread
    obtain ⟨hrest, hmore⟩ := h.refused c rest (hself.symm.trans hread)
    exact ⟨hrest.trans hsuffix, fun t => (hstep t).trans (hmore t)⟩
  · intro hread t
    exact (hstep t).trans (h.deep (hself.symm.trans hread) t)
  · intro stop hopen hread
    obtain ⟨t, ht, forest, hmore⟩ := h.unfinished stop hopen (hself.symm.trans hread)
    exact ⟨t, ht, forest, (hstep t).trans hmore⟩

end

/-! ### What is missing at the end -/

/-- The brackets that close the open groups. -/
def closers (enclosing : List Frame) : Text :=
  List.replicate enclosing.length ')'

theorem followsItem_closers (enclosing : List Frame) : FollowsItem (closers enclosing) := by
  intro c hc
  have hmem := List.mem_of_mem_head? hc
  rw [List.eq_of_mem_replicate hmem]
  rfl

theorem solid_closers (enclosing : List Frame) : Solid (closers enclosing) :=
  solid_replicate (by decide) _

/-- Closing brackets end all groups that are open. -/
theorem readOperator_closers (enclosing : List Frame) (frame : Frame) :
    ∃ forest, readOperator enclosing frame (closers enclosing) = .ok forest := by
  induction enclosing generalizing frame with
  | nil => exact ⟨frame.forest, readOperator_nil⟩
  | cons parent enclosing ih =>
    have hcount : readRepeat (closers enclosing) = (none, closers enclosing) := by
      refine readRepeat_of_ne fun h => ?_
      have hstar := followsItem_closers enclosing '*' h
      exact absurd hstar (by decide)
    show ∃ forest, readOperator (parent :: enclosing) frame (')' :: closers enclosing) = .ok forest
    rw [readOperator_close, hcount]
    exact ih _

/-- Behind its last item, an abbreviation misses closing brackets only. -/
theorem verdict_of_end {read : Text → Except Stop (List Node)} {s : Text}
    {enclosing : List Frame} {frame : Frame}
    (hstep : ∀ t, FollowsItem t → read (s ++ t) = readOperator enclosing frame t) :
    Verdict read s := by
  have hself : read s = readOperator enclosing frame [] := by
    simpa using hstep [] followsItem_nil
  -- Without an open group the end is no error at all.
  cases enclosing with
  | nil => exact verdict_of_ok (hself.trans readOperator_nil)
  | cons parent outer =>
    have hstop : read s = .error (.unclosed '(') := hself.trans (readOperator_unclosed parent)
    obtain ⟨forest, hforest⟩ := readOperator_closers (parent :: outer) frame
    refine verdict_of_unfinished hstop trivial (solid_closers (parent :: outer)) ?_
    exact ⟨forest, (hstep _ (followsItem_closers _)).trans hforest⟩

/-- An element starts neither with a bracket nor with an operator. -/
theorem head?_ne_of_readElement {s rest : Text} {e : Element} {c : Char}
    (h : readElement s = .ok (e, rest)) (hc : c = '(' ∨ isOperator c = true) :
    s.head? ≠ some c := by
  intro hhead
  obtain ⟨tail, rfl⟩ := List.head?_eq_some_iff.1 hhead
  have hname : isNameChar c = false := by
    rcases hc with rfl | hc
    · decide
    · exact isNameChar_of_isOperator c hc
  have hparts : readParts {} (c :: tail) = .ok ({}, c :: tail) := by
    rcases hc with rfl | hc
    · rw [readParts]
      simp
    · exact readParts_followsItem {} (followsItem_cons hc tail)
  rw [readElement_none (List.takeWhile_cons_of_neg (by simp [hname])) hparts] at h
  cases h

/-- In place of an item, an abbreviation misses what finishes the item and then closing
brackets. -/
theorem verdict_of_missingItem {read : Text → Except Stop (List Node)} {s s' : Text}
    {enclosing : List Frame} {frame : Frame} (hdepth : totalDepth frame enclosing ≤ maxDepth)
    {stop : Stop} (hread : read s = .error stop) (hopen : stop.IsOpen)
    (helement : readElement s' = .error stop)
    (hstep : ∀ t e, readElement (s' ++ t) = .ok e →
      read (s ++ t) = readItem enclosing frame (s' ++ t)) : Verdict read s := by
  obtain ⟨t, ht, hmore⟩ := (conclusive_readElement s').unfinished stop hopen helement
  -- Operators may follow the element, so closing brackets may, and they deepen nothing.
  obtain ⟨e, he⟩ := hmore (closers enclosing) (followsItem_closers enclosing)
  obtain ⟨forest, hforest⟩ := readOperator_closers enclosing (frame.push (.element e []))
  refine verdict_of_unfinished hread hopen (ht.append (solid_closers enclosing)) ?_
  refine ⟨forest, ?_⟩
  rw [hstep _ _ he, readItem_element hdepth (head?_ne_of_readElement he (Or.inl rfl)) he]
  exact hforest

/-! ### Every place in a run -/

/-- Climbing does not deepen. -/
theorem totalDepth_climbBy_le {frame : Frame} {enclosing : List Frame} (n : Nat)
    (h : totalDepth frame enclosing ≤ maxDepth) :
    totalDepth (frame.climbBy n) enclosing ≤ maxDepth := by
  have hclimb := Frame.depth_climbBy_le n frame
  rw [totalDepth_eq] at h ⊢
  omega

/-- Closing a group does not deepen. -/
theorem totalDepth_le_cons (frame next : Frame) (enclosing : List Frame) :
    totalDepth next enclosing ≤ totalDepth frame (next :: enclosing) := by
  rw [totalDepth_eq, totalDepth_eq, List.map_cons, List.sum_cons]
  omega

/-- A run of climbs with more text behind it. -/
theorem readOperator_climb_append {enclosing : List Frame} {frame : Frame} {rest t : Text}
    (h : Settles (· == '^') rest t) :
    readOperator enclosing frame ('^' :: rest ++ t)
      = readItem enclosing (frame.climbBy ((rest.takeWhile (· == '^')).length + 1))
          (rest.dropWhile (· == '^') ++ t) := by
  rw [List.cons_append, readOperator_climb, takeWhile_append_of_settles h,
    dropWhile_append_of_settles h]

/-- The repeat behind a group, with more text behind it. -/
theorem readRepeat_append {s t : Text} (h : (readRepeat s).2 ≠ [] ∨ FollowsItem t) :
    readRepeat (s ++ t) = ((readRepeat s).1, (readRepeat s).2 ++ t) := by
  by_cases hstar : s.head? = some '*'
  · obtain ⟨rest, rfl⟩ := List.head?_eq_some_iff.1 hstar
    have hsettles : Settles Text.isDigit rest t :=
      h.imp_right fun ht => ht.stops isDigit_of_isOperator
    show (some (readCount (rest ++ t)).1, (readCount (rest ++ t)).2)
      = (some (readCount rest).1, (readCount rest).2 ++ t)
    rw [readCount_append hsettles]
  · rw [readRepeat_of_ne hstar] at h ⊢
    refine readRepeat_of_ne fun happend => ?_
    cases s with
    | nil => exact absurd (h.resolve_left (by simp) '*' happend) (by decide)
    | cons c rest => exact hstar happend

theorem readRepeat_suffix (s : Text) : (readRepeat s).2 <:+ s := by
  unfold readRepeat
  split
  · exact (List.dropWhile_suffix _).trans (List.suffix_cons _ _)
  · exact List.suffix_refl _

/-- At every place of its run, the parser's outcome says what it will be on longer texts. An
operator is looked at when its item was not too deep. -/
theorem verdict_read :
    (∀ enclosing frame s, Verdict (readItem enclosing frame) s) ∧
    (∀ enclosing frame s, totalDepth frame enclosing ≤ maxDepth →
      Verdict (readOperator enclosing frame) s) := by
  refine readItem.mutual_induct (fun enclosing frame s => Verdict (readItem enclosing frame) s)
    (fun enclosing frame s => totalDepth frame enclosing ≤ maxDepth →
      Verdict (readOperator enclosing frame) s)
    ?deep ?opening ?badElement ?element ?finished ?unclosed ?child ?sibling ?climb ?extraClose
    ?close ?other
  case deep =>
    intro enclosing frame s hdepth
    exact verdict_of_deep fun t => readItem_tooDeep hdepth (s ++ t)
  case opening =>
    intro enclosing frame hdepth rest ih
    exact ih.of_step (List.suffix_cons _ _)
      fun t => readItem_open (Nat.not_lt.1 hdepth) (rest ++ t)
  case badElement =>
    intro enclosing frame hdepth s hbracket stop hread
    have hhead := head?_ne_of_forall hbracket
    have hself := readItem_error (Nat.not_lt.1 hdepth) hhead hread
    rcases stop.isOpen_or with hopen | ⟨c, rest, rfl⟩ | rfl
    · exact verdict_of_missingItem (Nat.not_lt.1 hdepth) hself hopen hread fun t e _ => rfl
    · obtain ⟨hsuffix, hmore⟩ := (conclusive_readElement s).refused c rest hread
      -- Something was refused, so the longer text starts as the shorter one does.
      have hne : s ≠ [] := by
        rintro rfl
        cases List.suffix_nil.1 hsuffix
      refine verdict_of_refused hself hsuffix fun t => ?_
      refine readItem_error (Nat.not_lt.1 hdepth) ?_ (hmore t)
      obtain ⟨first, tail, rfl⟩ := List.exists_cons_of_ne_nil hne
      exact hhead
    · exact absurd hread (conclusive_readElement s).shallow
  case element =>
    intro enclosing frame hdepth s _ e rest hread ih
    obtain ⟨hsuffix, hmore⟩ := (conclusive_readElement s).ok e rest hread
    have hstep {t : Text} (ht : rest ≠ [] ∨ FollowsItem t) : readItem enclosing frame (s ++ t)
        = readOperator enclosing (frame.push (.element e [])) (rest ++ t) :=
      readItem_element (Nat.not_lt.1 hdepth)
        (head?_ne_of_readElement (hmore t ht) (Or.inl rfl)) (hmore t ht)
    -- An element that goes up to the end may go on, so its step holds before operators.
    by_cases hrest : rest = []
    · subst hrest
      exact verdict_of_end fun t ht => hstep (Or.inr ht)
    · have hdepth' : totalDepth (frame.push (.element e [])) enclosing ≤ maxDepth := by
        rw [totalDepth_push]
        exact Nat.not_lt.1 hdepth
      exact (ih hdepth').of_step hsuffix fun t => hstep (Or.inl hrest)
  case finished =>
    intro frame _
    exact verdict_of_ok readOperator_nil
  case unclosed =>
    intro frame next enclosing _
    exact verdict_of_end (s := []) fun t _ => rfl
  case child =>
    intro enclosing frame rest ih _
    exact ih.of_step (List.suffix_cons _ _) fun t => readOperator_child (rest ++ t)
  case sibling =>
    intro enclosing frame rest ih _
    exact ih.of_step (List.suffix_cons _ _) fun t => readOperator_sibling (rest ++ t)
  case climb =>
    intro enclosing frame rest ih hdepth
    have hclimbed := totalDepth_climbBy_le ((rest.takeWhile (· == '^')).length + 1) hdepth
    by_cases hrest : rest.dropWhile (· == '^') = []
    · -- More climbing may follow, but no element starts with it.
      have hself : readOperator enclosing frame ('^' :: rest) = .error (.unexpected []) := by
        rw [readOperator_climb, hrest]
        exact readItem_error hclimbed (by simp) readElement_nil
      refine verdict_of_missingItem hclimbed hself rfl readElement_nil fun t e he => ?_
      have hsettles : Settles (· == '^') rest t := by
        refine Or.inr fun c hc => ?_
        have hclimb : t.head? ≠ some '^' := head?_ne_of_readElement he (Or.inr rfl)
        have hne : c ≠ '^' := fun h => hclimb (h ▸ hc)
        simpa using hne
      rw [readOperator_climb_append hsettles, hrest]
    · exact ih.of_step ((List.dropWhile_suffix _).trans (List.suffix_cons _ _))
        fun t => readOperator_climb_append (Or.inl hrest)
  case extraClose =>
    intro frame rest _
    exact verdict_of_refused (readOperator_extraClose rest) (List.suffix_refl _)
      fun t => readOperator_extraClose (rest ++ t)
  case close =>
    intro frame rest next enclosing ih hdepth
    have hstep {t : Text} (ht : (readRepeat rest).2 ≠ [] ∨ FollowsItem t) :
        readOperator (next :: enclosing) frame (')' :: rest ++ t)
          = readOperator enclosing (next.push (.group frame.forest (readRepeat rest).1))
              ((readRepeat rest).2 ++ t) := by
      rw [List.cons_append, readOperator_close, readRepeat_append ht]
    -- The digits of a repeat that goes up to the end may go on as well.
    by_cases hrest : (readRepeat rest).2 = []
    · rw [hrest] at hstep
      exact verdict_of_end fun t ht => hstep (Or.inr ht)
    · have hdepth' : totalDepth (next.push (.group frame.forest (readRepeat rest).1)) enclosing
          ≤ maxDepth := by
        rw [totalDepth_push]
        exact Nat.le_trans (totalDepth_le_cons frame next enclosing) hdepth
      exact (ih hdepth').of_step ((readRepeat_suffix rest).trans (List.suffix_cons _ _))
        fun t => hstep (Or.inl hrest)
  case other =>
    intro enclosing frame s hnil hchild hsibling hclimb hclose _
    obtain ⟨c, rest, rfl⟩ := List.exists_cons_of_ne_nil hnil
    have hc := isOperator_of_forall hchild hsibling hclimb hclose
    exact verdict_of_refused (readOperator_other hc rest) (List.suffix_refl _)
      fun t => readOperator_other hc (rest ++ t)

/-! ### Errors -/

theorem toError_eq_unexpected {stop : Stop} {length position : Nat} {found : Char}
    (h : stop.toError length = .unexpected found position) :
    ∃ rest, stop = .unexpected (found :: rest) ∧ position = length - (rest.length + 1) := by
  match stop, h with
  | .unexpected (c :: rest), h =>
    cases h
    exact ⟨rest, rfl, rfl⟩

theorem toError_eq_tooDeep {stop : Stop} {length : Nat} (h : stop.toError length = .tooDeep) :
    stop = .tooDeep := by
  match stop, h with
  | .tooDeep, _ => rfl
  | .unexpected [], h => cases h
  | .unexpected (_ :: _), h => cases h

theorem isOpen_of_toError {stop : Stop} {length : Nat}
    (h : stop.toError length = .unexpectedEnd ∨ ∃ c, stop.toError length = .unclosed c) :
    stop.IsOpen := by
  match stop, h with
  | .unexpected [], _ => exact rfl
  | .unexpected (_ :: _), h => simp [Stop.toError] at h
  | .unclosed _, _ => exact trivial
  | .tooDeep, h => simp [Stop.toError] at h

theorem trimEnd_of_solid {t : Text} (h : Solid t) : Text.trimEnd t = t := by
  have hreverse : t.reverse.dropWhile Text.isBlank = t.reverse := by
    cases hlast : t.reverse with
    | nil => rfl
    | cons c rest =>
      have hc : Text.isBlank c = false := h c (by rw [← List.mem_reverse, hlast]; simp)
      exact List.dropWhile_cons_of_neg (by simp [hc])
  rw [Text.trimEnd, Text.trimEndWhile, hreverse, List.reverse_reverse]

/-- Behind a text without white space at its ends, only white space at the very end is
left out. -/
theorem parse_append {s : Text} (h : Trimmed s) (t : Text) :
    parse (s ++ t) = match readItem [] {} (s ++ Text.trimEnd t) with
      | .error stop => .error (stop.toError (s ++ Text.trimEnd t).length)
      | .ok forest => .ok forest := by
  have hne : s ++ Text.trimEnd t ≠ [] := by
    intro hnil
    exact h.ne_nil (List.append_eq_nil_iff.1 hnil).1
  unfold parse
  rw [trim_append h]
  exact if_neg hne

theorem readItem_of_parse {s : Text} (h : Trimmed s) {error : ExpandError}
    (herror : parse s = .error error) :
    ∃ stop, readItem [] {} s = .error stop ∧ stop.toError s.length = error := by
  have hparse := parse_trimmed h
  rw [herror] at hparse
  split at hparse
  · rename_i stop hread
    cases hparse
    exact ⟨stop, hread, rfl⟩
  · cases hparse

/-- The error of a beginning. A character that is refused stands where the error says. It
is refused in every longer text, as is a nesting that is too deep. Where the end came too
early or something is open, some longer text is an abbreviation. -/
theorem parse_error_longer {s : Text} (hs : Trimmed s) :
    (∀ found position, parse s = .error (.unexpected found position) →
      s[position]? = some found ∧
      ∀ t, parse (s ++ t) = .error (.unexpected found position)) ∧
    (parse s = .error .tooDeep → ∀ t, parse (s ++ t) = .error .tooDeep) ∧
    (parse s = .error .unexpectedEnd ∨ (∃ c, parse s = .error (.unclosed c)) →
      ∃ t forest, parse (s ++ t) = .ok forest) := by
  have hverdict : Verdict (readItem [] {}) s := verdict_read.1 [] {} s
  refine ⟨fun found position herror => ?_, fun herror t => ?_, fun herror => ?_⟩
  · obtain ⟨stop, hread, hstop⟩ := readItem_of_parse hs herror
    obtain ⟨rest, rfl, rfl⟩ := toError_eq_unexpected hstop
    obtain ⟨⟨before, hbefore⟩, hmore⟩ := hverdict.refused found rest hread
    -- The place is the length of what was read, the same in every longer text.
    have hplace (tail : Text) :
        (s ++ tail).length - ((rest ++ tail).length + 1) = before.length := by
      rw [← hbefore]
      simp only [List.length_append, List.length_cons]
      omega
    have hself := hplace []
    rw [List.append_nil, List.append_nil] at hself
    refine ⟨?_, fun t => ?_⟩
    · rw [hself, ← hbefore, List.getElem?_append_right (Nat.le_refl _), Nat.sub_self]
      rfl
    · have hlonger := hplace (Text.trimEnd t)
      rw [parse_append hs, hmore, hself, ← hlonger]
      rfl
  · obtain ⟨stop, hread, hstop⟩ := readItem_of_parse hs herror
    obtain rfl := toError_eq_tooDeep hstop
    rw [parse_append hs, hverdict.deep hread]
    rfl
  · obtain ⟨stop, hread, hopen⟩ : ∃ stop, readItem [] {} s = .error stop ∧ stop.IsOpen := by
      rcases herror with herror | ⟨c, herror⟩
      · obtain ⟨stop, hread, hstop⟩ := readItem_of_parse hs herror
        exact ⟨stop, hread, isOpen_of_toError (Or.inl hstop)⟩
      · obtain ⟨stop, hread, hstop⟩ := readItem_of_parse hs herror
        exact ⟨stop, hread, isOpen_of_toError (Or.inr ⟨c, hstop⟩)⟩
    obtain ⟨t, ht, forest, hforest⟩ := hverdict.unfinished stop hopen hread
    refine ⟨t, forest, ?_⟩
    rw [parse_append hs, trimEnd_of_solid ht, hforest]

/-- A class is missing before an operator, then at the end, and then 65 groups are open. -/
theorem parse_error_longer_unnamedClass :
    (∀ t, parse (['(', 'u', 'l', '.', '>'] ++ t) = .error (.unexpected '>' 4)) ∧
    (∃ t forest, parse (['(', 'u', 'l', '.'] ++ t) = .ok forest) ∧
    (∀ t, parse (List.replicate 65 '(' ++ t) = .error .tooDeep) := by
  have hclass (s : Text) (hs : s.takeWhile isNameChar = []) :
      readItem [] {} ('(' :: 'u' :: 'l' :: '.' :: s) = .error (.unexpected s) := by
    have hrun : ∀ c ∈ ['u', 'l'], isNameChar c = true := by
      rw [List.forall_mem_cons, List.forall_mem_singleton]
      decide
    have hdot : ∀ c ∈ ('.' :: s).head?, isNameChar c = false := by
      intro c hc
      obtain rfl : '.' = c := by simpa using hc
      decide
    have hname := takeWhile_append_run hrun hdot
    have hafter := dropWhile_append_run hrun hdot
    rw [readItem_open (by decide)]
    refine readItem_error (by decide) (by simp) ?_
    show readElement (['u', 'l'] ++ '.' :: s) = _
    rw [readElement_named (by simp) hname, hafter, readParts_noClass _ hs]
  have hrefused : Trimmed ['(', 'u', 'l', '.', '>'] :=
    trimmed_of_ends rfl (by decide) rfl (by decide)
  have hopen : Trimmed ['(', 'u', 'l', '.'] := trimmed_of_ends rfl (by decide) rfl (by decide)
  have hdeep : Trimmed (List.replicate 65 '(') :=
    trimmed_of_ends rfl (by decide) rfl (by decide)
  refine ⟨?_, ?_, ?_⟩
  · have herror : parse ['(', 'u', 'l', '.', '>'] = .error (.unexpected '>' 4) := by
      rw [parse_trimmed hrefused, hclass ['>'] (by decide)]
      rfl
    exact ((parse_error_longer hrefused).1 '>' 4 herror).2
  · have herror : parse ['(', 'u', 'l', '.'] = .error .unexpectedEnd := by
      rw [parse_trimmed hopen, hclass [] (by decide)]
      rfl
    exact (parse_error_longer hopen).2.2 (Or.inl herror)
  · exact (parse_error_longer hdeep).2.1 (by cbv)

end Abbreviation

end Shorthand
