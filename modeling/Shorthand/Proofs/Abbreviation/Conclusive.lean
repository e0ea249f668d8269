import Shorthand.Proofs.Abbreviation.Steps

/-!
# `Shorthand.Proofs.Abbreviation.Conclusive`: what an outcome says about longer texts

A reader that looked at a text has said something about every text that starts with it.
What it read, it reads there as well. What it refused before the end, it refuses there.
And where it only missed something at the end, there is a text that can be put behind.
`Conclusive` is these three together. They go through one induction: the readers call
each other, and an outcome of one comes from any kind of outcome of another.

A reader that reads up to the end of the text can be made to read on. So the first and the
third part hold for texts behind it that do not go on with what it reads. Which texts
these are is the parameter `Q`: any for what ends with a bracket, those behind an item for
the parts of an element.

- `Conclusive.of_step`: a step that leaves a shorter text carries all three back;
- `conclusive_readValue`, `conclusive_readAttributes`, `conclusive_readParts` and
  `conclusive_readElement`: the readers, from the inside out.
-/

set_option autoImplicit false

namespace Shorthand

namespace Abbreviation

open Text (dropWhile_append_of_settles Settles takeWhile_append_of_settles)

/-- A stop at the end of the text, with something missing. -/
def Stop.IsOpen : Stop → Prop
  | .unexpected rest => rest = []
  | .unclosed _ => True
  | .tooDeep => False

/-- A stop is at the end, at a character or at a level. -/
theorem Stop.isOpen_or (stop : Stop) :
    stop.IsOpen ∨ (∃ c rest, stop = .unexpected (c :: rest)) ∨ stop = .tooDeep := by
  cases stop with
  | unexpected rest =>
    cases rest with
    | nil => exact Or.inl rfl
    | cons c rest => exact Or.inr (Or.inl ⟨c, rest, rfl⟩)
  | unclosed opener => exact Or.inl trivial
  | tooDeep => exact Or.inr (Or.inr rfl)

/-- No white space at all. -/
def Solid (t : Text) : Prop :=
  ∀ c ∈ t, Text.isBlank c = false

theorem Solid.append {s t : Text} (hs : Solid s) (ht : Solid t) : Solid (s ++ t) := by
  intro c hc
  rcases List.mem_append.1 hc with h | h
  · exact hs c h
  · exact ht c h

theorem solid_nil : Solid [] := by
  simp [Solid]

theorem solid_cons {c : Char} {s : Text} (hc : Text.isBlank c = false) (hs : Solid s) :
    Solid (c :: s) := by
  intro x hx
  rcases List.mem_cons.1 hx with rfl | h
  · exact hc
  · exact hs x h

theorem solid_replicate {c : Char} (hc : Text.isBlank c = false) (n : Nat) :
    Solid (List.replicate n c) := by
  intro x hx
  rw [List.eq_of_mem_replicate hx, hc]

/-- The outcome of a reader on a text decides what it does on longer ones. -/
structure Conclusive {α : Type} (Q : Text → Prop) (read : Text → Except Stop (α × Text))
    (s : Text) : Prop where
  /-- What was read is read with more text behind. -/
  ok : ∀ x after, read s = .ok (x, after) → after <:+ s ∧
    ∀ t, after ≠ [] ∨ Q t → read (s ++ t) = .ok (x, after ++ t)
  /-- What was refused before the end is refused with more text behind. -/
  refused : ∀ c rest, read s = .error (.unexpected (c :: rest)) → c :: rest <:+ s ∧
    ∀ t, read (s ++ t) = .error (.unexpected (c :: rest ++ t))
  /-- What is unfinished can be finished. -/
  unfinished : ∀ stop, stop.IsOpen → read s = .error stop → ∃ t, Solid t ∧
    ∀ u, Q u → ∃ x, read (s ++ (t ++ u)) = .ok (x, u)
  /-- A reader of parts counts no levels. -/
  shallow : read s ≠ .error .tooDeep

section

variable {α : Type} {Q : Text → Prop} {read : Text → Except Stop (α × Text)}
  {s s' : Text}

theorem conclusive_of_ok {x : α} {after : Text} (h : read s = .ok (x, after))
    (hsuffix : after <:+ s)
    (hmore : ∀ t, after ≠ [] ∨ Q t → read (s ++ t) = .ok (x, after ++ t)) :
    Conclusive Q read s where
  ok x' after' h' := by
    cases h.symm.trans h'
    exact ⟨hsuffix, hmore⟩
  refused c rest h' := by cases h.symm.trans h'
  unfinished stop _ h' := by cases h.symm.trans h'
  shallow h' := by cases h.symm.trans h'

theorem conclusive_of_refused {c : Char} {rest : Text}
    (h : read s = .error (.unexpected (c :: rest))) (hsuffix : c :: rest <:+ s)
    (hmore : ∀ t, read (s ++ t) = .error (.unexpected (c :: rest ++ t))) :
    Conclusive Q read s where
  ok x after h' := by cases h.symm.trans h'
  refused c' rest' h' := by
    cases h.symm.trans h'
    exact ⟨hsuffix, hmore⟩
  unfinished stop hopen h' := by
    cases h.symm.trans h'
    cases hopen
  shallow h' := by cases h.symm.trans h'

theorem conclusive_of_unfinished {stop : Stop} (h : read s = .error stop) (hopen : stop.IsOpen)
    {t : Text} (ht : Solid t) (hmore : ∀ u, Q u → ∃ x, read (s ++ (t ++ u)) = .ok (x, u)) :
    Conclusive Q read s where
  ok x after h' := by cases h.symm.trans h'
  refused c rest h' := by
    cases h.symm.trans h'
    cases hopen
  unfinished _ _ _ := ⟨t, ht, hmore⟩
  shallow h' := by
    cases h.symm.trans h'
    exact hopen

/-- One step. The reader goes over to another one on a text that is left. Where that is
nothing, the other one has to be done. -/
theorem Conclusive.of_step {read' : Text → Except Stop (α × Text)} (h : Conclusive Q read' s')
    (hsuffix : s' <:+ s) (hstep : ∀ t, s' ≠ [] ∨ Q t → read (s ++ t) = read' (s' ++ t))
    (hnil : Q []) (hend : s' = [] → ∃ x, read' [] = .ok (x, [])) : Conclusive Q read s := by
  have hself : read s = read' s' := by
    simpa using hstep [] (Or.inr hnil)
  -- Behind something that is left, the step is the same whatever follows.
  have hmore (hne : s' ≠ []) (t : Text) : read (s ++ t) = read' (s' ++ t) :=
    hstep t (Or.inl hne)
  cases hread : read' s' with
  | ok result =>
    obtain ⟨x, after⟩ := result
    obtain ⟨hafter, happend⟩ := h.ok x after hread
    refine conclusive_of_ok (hself.trans hread) (hafter.trans hsuffix) fun t ht => ?_
    rw [← happend t ht]
    -- With something left behind the other reader, there was something left before it.
    refine hstep t (ht.imp_left fun hne hnil => hne ?_)
    rw [hnil] at hafter
    exact List.suffix_nil.1 hafter
  | error stop =>
    -- The other reader is done with an empty text, so the error comes from a character.
    have hne : s' ≠ [] := by
      intro hnil
      obtain ⟨x, hx⟩ := hend hnil
      rw [hnil, hx] at hread
      cases hread
    rcases stop.isOpen_or with hopen | ⟨c, rest, rfl⟩ | rfl
    · obtain ⟨t, ht, hfinish⟩ := h.unfinished stop hopen hread
      refine conclusive_of_unfinished (hself.trans hread) hopen ht fun u hu => ?_
      rw [hmore hne]
      exact hfinish u hu
    · obtain ⟨hrest, happend⟩ := h.refused c rest hread
      refine conclusive_of_refused (hself.trans hread) (hrest.trans hsuffix) fun t => ?_
      rw [hmore hne, happend]
    · exact absurd hread h.shallow

/-- A part that stops the reader. Behind what finishes the part, `more` finishes the
whole. -/
theorem Conclusive.of_error {β : Type} {Q' : Text → Prop}
    {read' : Text → Except Stop (β × Text)} (h : Conclusive Q' read' s') {stop : Stop}
    (hread : read' s' = .error stop) (hsuffix : s' <:+ s)
    (herror : ∀ t stop, read' (s' ++ t) = .error stop → read (s ++ t) = .error stop)
    (more : Text) (hsolid : Solid more) (hbehind : ∀ u, Q u → Q' (more ++ u))
    (hfinish : ∀ t x u, Q u → read' (s' ++ t) = .ok (x, more ++ u) →
      ∃ y, read (s ++ t) = .ok (y, u)) : Conclusive Q read s := by
  have hself : read s = .error stop := by
    simpa [hread] using herror [] stop
  rcases stop.isOpen_or with hopen | ⟨c, rest, rfl⟩ | rfl
  · -- First what finishes the part, then what finishes the whole.
    obtain ⟨t, ht, hpart⟩ := h.unfinished stop hopen hread
    refine conclusive_of_unfinished hself hopen (ht.append hsolid) fun u hu => ?_
    obtain ⟨x, hx⟩ := hpart (more ++ u) (hbehind u hu)
    rw [List.append_assoc]
    exact hfinish _ x u hu hx
  · obtain ⟨hrest, happend⟩ := h.refused c rest hread
    exact conclusive_of_refused hself (hrest.trans hsuffix) fun t => herror t _ (happend t)
  · exact absurd hread h.shallow

end

/-! ### Text in braces -/

theorem readText_other {c : Char} (hescape : c ≠ '\\') (hopen : c ≠ '{') (hclose : c ≠ '}')
    (depth : Nat) (rest : Text) :
    readText depth (c :: rest)
      = (readText depth rest).map fun (text, after) => (c :: text, after) := by
  rw [readText]
  all_goals simp_all

/-- The last clause of `readText` is left with characters that mean themselves. -/
theorem ne_escape_and_ne_close {depth : Nat} {c : Char} {rest : Text}
    (hend : c = '\\' → rest = [] → False)
    (hescape : ∀ x tail, c = '\\' → rest = x :: tail → False)
    (hzero : depth = 0 → c = '}' → False)
    (hsucc : ∀ n : Nat, depth = n.succ → c = '}' → False) : c ≠ '\\' ∧ c ≠ '}' := by
  constructor
  · intro hc
    cases rest with
    | nil => exact hend hc rfl
    | cons x tail => exact hescape x tail hc rfl
  · intro hc
    cases depth with
    | zero => exact hzero rfl hc
    | succ n => exact hsucc n rfl hc

/-- A text in braces ends with its last brace, so what follows it does not matter. -/
theorem readText_append {depth : Nat} {s text after : Text}
    (h : readText depth s = some (text, after)) :
    after <:+ s ∧ ∀ t, readText depth (s ++ t) = some (text, after ++ t) := by
  fun_induction readText depth s generalizing text after with
  | case1 => cases h
  | case2 => cases h
  | case3 depth c rest ih =>
    obtain ⟨⟨text', after'⟩, hrest, heq⟩ := Option.map_eq_some_iff.1 h
    cases heq
    obtain ⟨hsuffix, hmore⟩ := ih hrest
    refine ⟨hsuffix.trans ((List.suffix_cons c rest).trans (List.suffix_cons _ _)), fun t => ?_⟩
    rw [List.cons_append, List.cons_append, readText, hmore]
    rfl
  | case4 depth rest ih =>
    obtain ⟨⟨text', after'⟩, hrest, heq⟩ := Option.map_eq_some_iff.1 h
    cases heq
    obtain ⟨hsuffix, hmore⟩ := ih hrest
    refine ⟨hsuffix.trans (List.suffix_cons _ _), fun t => ?_⟩
    rw [List.cons_append, readText, hmore]
    rfl
  | case5 rest =>
    cases h
    exact ⟨List.suffix_cons _ _, fun t => by rw [List.cons_append, readText]⟩
  | case6 depth rest ih =>
    obtain ⟨⟨text', after'⟩, hrest, heq⟩ := Option.map_eq_some_iff.1 h
    cases heq
    obtain ⟨hsuffix, hmore⟩ := ih hrest
    refine ⟨hsuffix.trans (List.suffix_cons _ _), fun t => ?_⟩
    rw [List.cons_append, readText, hmore]
    rfl
  | case7 depth c rest hend hescape hopen hzero hsucc ih =>
    obtain ⟨⟨text', after'⟩, hrest, heq⟩ := Option.map_eq_some_iff.1 h
    cases heq
    obtain ⟨hsuffix, hmore⟩ := ih hrest
    refine ⟨hsuffix.trans (List.suffix_cons _ _), fun t => ?_⟩
    have hne := ne_escape_and_ne_close hend hescape hzero hsucc
    rw [List.cons_append, readText_other hne.1 hopen hne.2, hmore]
    rfl

/-- As many closing braces as are open end the text. -/
theorem readText_closers (depth : Nat) (u : Text) :
    readText depth (List.replicate (depth + 1) '}' ++ u)
      = some (List.replicate depth '}', u) := by
  induction depth with
  | zero => rw [List.replicate_one, List.singleton_append, readText, List.replicate_zero]
  | succ depth ih =>
    rw [List.replicate_succ, List.cons_append, readText, ih]
    rfl

/-- A text in braces that is not closed can be closed. A backslash at its end first takes
a character of its own. -/
theorem readText_finish {depth : Nat} {s : Text} (h : readText depth s = none) :
    ∃ t, Solid t ∧ ∀ u, ∃ text, readText depth (s ++ (t ++ u)) = some (text, u) := by
  fun_induction readText depth s with
  | case1 depth =>
    refine ⟨List.replicate (depth + 1) '}', solid_replicate (by decide) _, fun u => ?_⟩
    exact ⟨_, readText_closers depth u⟩
  | case2 depth =>
    -- The brace would be escaped, so some other character has to come first.
    refine ⟨'x' :: List.replicate (depth + 1) '}', ?_, fun u => ?_⟩
    · exact solid_cons (by decide) (solid_replicate (by decide) _)
    · refine ⟨'x' :: List.replicate depth '}', ?_⟩
      show readText depth ('\\' :: 'x' :: (List.replicate (depth + 1) '}' ++ u)) = _
      rw [readText, readText_closers]
      rfl
  | case3 depth c rest ih =>
    obtain ⟨t, ht, hmore⟩ := ih (Option.map_eq_none_iff.1 h)
    refine ⟨t, ht, fun u => ?_⟩
    obtain ⟨text, htext⟩ := hmore u
    refine ⟨c :: text, ?_⟩
    rw [List.cons_append, List.cons_append, readText, htext]
    rfl
  | case4 depth rest ih =>
    obtain ⟨t, ht, hmore⟩ := ih (Option.map_eq_none_iff.1 h)
    refine ⟨t, ht, fun u => ?_⟩
    obtain ⟨text, htext⟩ := hmore u
    refine ⟨'{' :: text, ?_⟩
    rw [List.cons_append, readText, htext]
    rfl
  | case5 rest => cases h
  | case6 depth rest ih =>
    obtain ⟨t, ht, hmore⟩ := ih (Option.map_eq_none_iff.1 h)
    refine ⟨t, ht, fun u => ?_⟩
    obtain ⟨text, htext⟩ := hmore u
    refine ⟨'}' :: text, ?_⟩
    rw [List.cons_append, readText, htext]
    rfl
  | case7 depth c rest hend hescape hopen hzero hsucc ih =>
    obtain ⟨t, ht, hmore⟩ := ih (Option.map_eq_none_iff.1 h)
    refine ⟨t, ht, fun u => ?_⟩
    obtain ⟨text, htext⟩ := hmore u
    refine ⟨c :: text, ?_⟩
    have hne := ne_escape_and_ne_close hend hescape hzero hsucc
    rw [List.cons_append, readText_other hne.1 hopen hne.2, htext]
    rfl

/-! ### Attributes -/

/-- Before the end of the attributes. -/
def EndsAttributes (t : Text) : Prop :=
  t.head? = some ']'

theorem EndsAttributes.stops {t : Text} (h : EndsAttributes t) :
    ∀ c ∈ t.head?, isBareValueChar c = false := by
  rw [h]
  simp [isBareValueChar]

theorem readValue_endsAttributes {t : Text} (h : EndsAttributes t) :
    readValue t = .ok ([], t) := by
  cases t with
  | nil => cases h
  | cons c rest =>
    obtain rfl : c = ']' := by simpa [EndsAttributes] using h
    rw [readValue_bare (by decide) (by decide) (by decide)]
    rfl

/-- A value ends with its quote or brace, or before the end of the attributes. -/
theorem conclusive_readValue (s : Text) : Conclusive EndsAttributes readValue s := by
  cases s with
  | nil =>
    refine conclusive_of_ok rfl (List.suffix_refl _) fun t ht => ?_
    exact readValue_endsAttributes (ht.resolve_left (by simp))
  | cons c rest =>
    by_cases hquote : c = '"' ∨ c = '\''
    · -- In quotes, all that counts is whether the same quote comes again.
      cases hdrop : rest.dropWhile (· != c) with
      | nil =>
        have hstop : readValue (c :: rest) = .error (.unclosed c) := by
          rw [readValue, if_pos hquote, hdrop]
        have hsolid : Solid [c] := by
          rcases hquote with rfl | rfl <;> exact solid_cons (by decide) solid_nil
        refine conclusive_of_unfinished hstop trivial hsolid fun u _ => ?_
        have hend : (rest ++ ([c] ++ u)).dropWhile (· != c) = c :: u := by
          rw [dropWhile_append_of_settles (Or.inr (by simp)), hdrop]
          rfl
        exact ⟨_, readValue_quote hquote hend⟩
      | cons last after =>
        have hsuffix : after <:+ c :: rest :=
          (List.suffix_cons last after).trans
            ((hdrop ▸ List.dropWhile_suffix _).trans (List.suffix_cons _ _))
        refine conclusive_of_ok (readValue_quote hquote hdrop) hsuffix fun t _ => ?_
        have hsettles : Settles (· != c) rest t := Or.inl (by simp [hdrop])
        have hend : (rest ++ t).dropWhile (· != c) = last :: (after ++ t) := by
          rw [dropWhile_append_of_settles hsettles, hdrop]
          rfl
        rw [List.cons_append, readValue_quote hquote hend, takeWhile_append_of_settles hsettles]
    · by_cases hbrace : c = '{'
      · subst hbrace
        cases htext : readText 0 rest with
        | none =>
          have hstop : readValue ('{' :: rest) = .error (.unclosed '{') := by
            rw [readValue, if_neg (by decide), if_pos rfl, htext]
          obtain ⟨t, ht, hfinish⟩ := readText_finish htext
          refine conclusive_of_unfinished hstop trivial ht fun u _ => ?_
          obtain ⟨text, hread⟩ := hfinish u
          exact ⟨_, readValue_braces hread⟩
        | some result =>
          obtain ⟨text, after⟩ := result
          obtain ⟨hsuffix, hmore⟩ := readText_append htext
          exact conclusive_of_ok (readValue_braces htext) (hsuffix.trans (List.suffix_cons _ _))
            fun t _ => readValue_braces (hmore t)
      · -- A bare value never fails. It may go on, except before a bracket.
        have hne : c ≠ '"' ∧ c ≠ '\'' := by simpa using hquote
        refine conclusive_of_ok (readValue_bare hne.1 hne.2 hbrace rest)
          (List.dropWhile_suffix _) fun t ht => ?_
        have hsettles : Settles isBareValueChar (c :: rest) t :=
          ht.imp_right EndsAttributes.stops
        rw [List.cons_append, readValue_bare hne.1 hne.2 hbrace, ← List.cons_append,
          takeWhile_append_of_settles hsettles, dropWhile_append_of_settles hsettles]

section

variable {attributes : List Attribute} {s rest t : Text} {c : Char}

/-- White space before a text that is left is skipped with more text behind as well. -/
theorem dropBlank_append (hs : s.dropWhile Text.isBlank = c :: rest) (t : Text) :
    (s ++ t).dropWhile Text.isBlank = c :: (rest ++ t) := by
  rw [dropWhile_append_of_settles (Or.inl (by simp [hs])), hs, List.cons_append]

theorem readAttributes_bare_append {name after : Text}
    (hs : s.dropWhile Text.isBlank = c :: rest) (hc : c ≠ ']') (hname : name ≠ [])
    (hn : (c :: rest).takeWhile isAttributeChar = name)
    (ha : (c :: rest).dropWhile isAttributeChar = after)
    (hsettles : Settles isAttributeChar (c :: rest) t) (hequals : (after ++ t).head? ≠ some '=') :
    readAttributes attributes (s ++ t)
      = readAttributes (Attribute.set name none attributes) (after ++ t) := by
  refine readAttributes_bare (dropBlank_append hs t) hc hname ?_ ?_ hequals
  · rw [← List.cons_append, takeWhile_append_of_settles hsettles, hn]
  · rw [← List.cons_append, dropWhile_append_of_settles hsettles, ha]

/-- The name before an equals sign is the same whatever follows. -/
theorem name_append {name after : Text} (hn : (c :: rest).takeWhile isAttributeChar = name)
    (ha : (c :: rest).dropWhile isAttributeChar = '=' :: after) (t : Text) :
    (c :: (rest ++ t)).takeWhile isAttributeChar = name ∧
      (c :: (rest ++ t)).dropWhile isAttributeChar = '=' :: (after ++ t) := by
  have hsettles : Settles isAttributeChar (c :: rest) t := Or.inl (by simp [ha])
  rw [← List.cons_append, takeWhile_append_of_settles hsettles,
    dropWhile_append_of_settles hsettles, hn, ha]
  exact ⟨rfl, rfl⟩

end

/-- Attributes that are read up to the end miss their closing bracket. -/
theorem conclusive_of_readAttributes_nil {attributes : List Attribute}
    (attributes' : List Attribute) {s : Text}
    (hself : readAttributes attributes s = readAttributes attributes' [])
    (hstep : ∀ t, EndsAttributes t →
      readAttributes attributes (s ++ t) = readAttributes attributes' t) :
    Conclusive (fun _ => True) (readAttributes attributes) s := by
  have hstop := hself.trans (readAttributes_end rfl)
  have hsolid : Solid [']'] := solid_cons (by decide) solid_nil
  refine conclusive_of_unfinished hstop trivial hsolid fun u _ => ?_
  refine ⟨attributes', ?_⟩
  have hclose : EndsAttributes ([']'] ++ u) := rfl
  rw [hstep _ hclose]
  exact readAttributes_close rfl

/-- Attributes end with their bracket. -/
theorem conclusive_readAttributes (attributes : List Attribute) (s : Text) :
    Conclusive (fun _ => True) (readAttributes attributes) s := by
  fun_induction readAttributes attributes s with
  | case1 attributes s hs =>
    refine conclusive_of_readAttributes_nil attributes ?_ fun t ht => ?_
    · rw [readAttributes_end hs, readAttributes_end rfl]
    · obtain ⟨rest, rfl⟩ : ∃ rest, t = ']' :: rest := List.head?_eq_some_iff.1 ht
      have hdrop : (s ++ ']' :: rest).dropWhile Text.isBlank = ']' :: rest := by
        rw [dropWhile_append_of_settles (Or.inr (by simp; decide)), hs, List.nil_append]
      rw [readAttributes_close hdrop, readAttributes_close (s := ']' :: rest) rfl]
  | case2 attributes s rest hs =>
    refine conclusive_of_ok (readAttributes_close hs)
      ((List.suffix_cons _ rest).trans (hs ▸ List.dropWhile_suffix _)) fun t _ => ?_
    exact readAttributes_close (dropBlank_append hs t)
  | case3 attributes s c rest hs hc hn =>
    refine conclusive_of_refused (readAttributes_unexpected hs hc hn)
      (hs ▸ List.dropWhile_suffix _) fun t => ?_
    refine readAttributes_unexpected (dropBlank_append hs t) hc ?_
    rw [List.takeWhile_eq_nil_iff] at hn ⊢
    intro _
    simpa using hn
  | case4 attributes s c rest hs hc n ns hn ha ih =>
    -- The name goes up to the end, and a closing bracket ends both.
    refine conclusive_of_readAttributes_nil (Attribute.set (n :: ns) none attributes) ?_
      fun t ht => ?_
    · exact readAttributes_bare hs hc (List.cons_ne_nil n ns) hn ha (by simp)
    · have hstops : ∀ x ∈ t.head?, isAttributeChar x = false := by
        rw [ht]
        simp [isAttributeChar]
      refine readAttributes_bare_append hs hc (List.cons_ne_nil n ns) hn ha (Or.inr hstops) ?_
      rw [List.nil_append, ht]
      decide
  | case5 attributes s c rest hs hc n ns hn after stop hv ha =>
    have hsuffix : after <:+ s :=
      (List.suffix_cons _ _).trans
        ((ha ▸ List.dropWhile_suffix _).trans (hs ▸ List.dropWhile_suffix _))
    -- What finishes the value leaves the list open, so a bracket has to follow it.
    refine (conclusive_readValue after).of_error hv hsuffix (fun t stop' hstop => ?_) [']']
      (solid_cons (by decide) solid_nil) (fun u _ => rfl) fun t value u _ hvalue => ?_
    · obtain ⟨hn', ha'⟩ := name_append hn ha t
      exact readAttributes_valueError (dropBlank_append hs t) hc (List.cons_ne_nil n ns) hn' ha'
        hstop
    · obtain ⟨hn', ha'⟩ := name_append hn ha t
      rw [readAttributes_value (dropBlank_append hs t) hc (List.cons_ne_nil n ns) hn' ha' hvalue]
      exact ⟨_, readAttributes_close rfl⟩
  | case6 attributes s c rest hs hc n ns hn after value after' hv ha ih =>
    have hstep {t tail : Text} (ht : readValue (after ++ t) = .ok (value, tail)) :
        readAttributes attributes (s ++ t)
          = readAttributes (Attribute.set (n :: ns) (some value) attributes) tail := by
      obtain ⟨hn', ha'⟩ := name_append hn ha t
      exact readAttributes_value (dropBlank_append hs t) hc (List.cons_ne_nil n ns) hn' ha' ht
    obtain ⟨hafter, hmore⟩ := (conclusive_readValue after).ok value after' hv
    -- A value up to the end keeps its extent before a bracket only.
    cases after' with
    | nil =>
      refine conclusive_of_readAttributes_nil
        (Attribute.set (n :: ns) (some value) attributes) ?_ fun t ht => ?_
      · have hnil : readValue (after ++ []) = .ok (value, []) := by rwa [List.append_nil]
        simpa using hstep hnil
      · exact hstep (hmore t (Or.inr ht))
    | cons x tail =>
      have hsuffix : x :: tail <:+ s :=
        hafter.trans ((List.suffix_cons _ _).trans
          ((ha ▸ List.dropWhile_suffix _).trans (hs ▸ List.dropWhile_suffix _)))
      refine ih.of_step hsuffix (fun t _ => ?_) trivial (fun h => by cases h)
      exact hstep (hmore t (Or.inl (List.cons_ne_nil x tail)))
  | case7 attributes s c rest hs hc n ns hn a after ha hne ih =>
    have hsuffix : a :: after <:+ s :=
      (ha ▸ List.dropWhile_suffix _).trans (hs ▸ List.dropWhile_suffix _)
    refine ih.of_step hsuffix (fun t _ => ?_) trivial (fun h => by cases h)
    exact readAttributes_bare_append hs hc (List.cons_ne_nil n ns) hn ha
      (Or.inl (by simp [ha])) (by simpa using hne)

/-! ### Parts of an element -/

/-- One part, behind which the others are read. -/
theorem conclusive_readParts_of_step {e e' : Element} {s s' : Text}
    (h : Conclusive FollowsItem (readParts e') s') (hsuffix : s' <:+ s)
    (hstep : ∀ t, s' ≠ [] ∨ FollowsItem t → readParts e (s ++ t) = readParts e' (s' ++ t)) :
    Conclusive FollowsItem (readParts e) s :=
  h.of_step hsuffix hstep followsItem_nil
    fun _ => ⟨e', readParts_followsItem e' followsItem_nil⟩

/-- The parts of an element end before an operator. -/
theorem conclusive_readParts (e : Element) (s : Text) :
    Conclusive FollowsItem (readParts e) s := by
  fun_induction readParts e s with
  | case1 e =>
    refine conclusive_of_ok (readParts_followsItem e followsItem_nil) (List.suffix_refl _)
      fun t ht => ?_
    exact readParts_followsItem e (ht.resolve_left (by simp))
  | case2 e rest ih =>
    refine conclusive_readParts_of_step ih
      ((List.dropWhile_suffix _).trans (List.suffix_cons _ _)) fun t ht => ?_
    have hsettles : Settles isNameChar rest t :=
      ht.imp_right fun h => h.stops isNameChar_of_isOperator
    rw [List.cons_append, readParts_id, takeWhile_append_of_settles hsettles,
      dropWhile_append_of_settles hsettles]
  | case3 e rest hempty hid =>
    cases rest with
    | nil =>
      -- Behind the dot at the end, any letter is a class.
      refine conclusive_of_unfinished (readParts_noClass e rfl) rfl
        (solid_cons (c := 'a') (by decide) solid_nil) fun u hu => ?_
      obtain ⟨hname, hafter⟩ := letter_run hu
      refine ⟨e.addClass ['a'], ?_⟩
      show readParts e ('.' :: 'a' :: u) = _
      rw [readParts_class e (by simp) hname, hafter, readParts_followsItem _ hu]
    | cons c rest =>
      refine conclusive_of_refused (readParts_noClass e hempty) (List.suffix_cons _ _)
        fun t => ?_
      refine readParts_noClass e ?_
      rw [List.takeWhile_eq_nil_iff] at hempty ⊢
      intro _
      simpa using hempty
  | case4 e rest hname hid ih =>
    refine conclusive_readParts_of_step ih
      ((List.dropWhile_suffix _).trans (List.suffix_cons _ _)) fun t ht => ?_
    have hsettles : Settles isNameChar rest t :=
      ht.imp_right fun h => h.stops isNameChar_of_isOperator
    rw [List.cons_append, readParts_class e hname (takeWhile_append_of_settles hsettles),
      dropWhile_append_of_settles hsettles]
  | case5 e rest stop hstop =>
    refine (conclusive_readAttributes e.attributes rest).of_error hstop (List.suffix_cons _ _)
      (fun t stop' ht => readParts_attributesError ht) [] solid_nil (fun u _ => trivial)
      fun t attributes u hu ht => ?_
    refine ⟨{ e with attributes }, ?_⟩
    rw [List.cons_append, readParts_attributes ht, List.nil_append, readParts_followsItem _ hu]
  | case6 e rest attributes after hread hdot hbracket ih =>
    obtain ⟨hsuffix, hmore⟩ := (conclusive_readAttributes e.attributes rest).ok _ _ hread
    refine conclusive_readParts_of_step ih (hsuffix.trans (List.suffix_cons _ _)) fun t _ => ?_
    exact readParts_attributes (hmore t (Or.inr trivial))
  | case7 e rest hnone =>
    obtain ⟨t, ht, hfinish⟩ := readText_finish hnone
    refine conclusive_of_unfinished (readParts_textError e hnone) trivial ht fun u hu => ?_
    obtain ⟨text, htext⟩ := hfinish u
    refine ⟨e.addText text, ?_⟩
    rw [List.cons_append, readParts_text e htext, readParts_followsItem _ hu]
  | case8 e rest text after hread hdot hbracket hbrace ih =>
    obtain ⟨hsuffix, hmore⟩ := readText_append hread
    refine conclusive_readParts_of_step ih (hsuffix.trans (List.suffix_cons _ _)) fun t _ => ?_
    exact readParts_text e (hmore t)
  | case9 e c rest hid hdot hbracket hbrace hcount ih =>
    obtain ⟨rfl, hnone⟩ := hcount
    refine conclusive_readParts_of_step ih
      ((List.dropWhile_suffix _).trans (List.suffix_cons _ _)) fun t ht => ?_
    have hsettles : Settles Text.isDigit rest t :=
      ht.imp_right fun h => h.stops isDigit_of_isOperator
    rw [List.cons_append, readParts_count hnone, readCount_append hsettles]
  | case10 e rest hid hdot hbracket hbrace hcount ih =>
    exact conclusive_readParts_of_step ih (List.suffix_cons _ _)
      fun t _ => readParts_selfClosing e (rest ++ t)
  | case11 e c rest hid hdot hbracket hbrace hcount hslash =>
    have hread (t : Text) : readParts e (c :: t) = .ok (e, c :: t) := by
      rw [readParts, if_neg hid, if_neg hdot, if_neg hbracket, if_neg hbrace, if_neg hcount,
        if_neg hslash]
    exact conclusive_of_ok (hread rest) (List.suffix_refl _) fun t _ => hread (rest ++ t)

/-! ### The element -/

/-- An element ends before an operator. -/
theorem conclusive_readElement (s : Text) : Conclusive FollowsItem readElement s := by
  cases hs : s.takeWhile isNameChar with
  | cons n ns =>
    have hname : (n :: ns) ≠ [] := List.cons_ne_nil n ns
    refine (conclusive_readParts { name := some (n :: ns) } (s.dropWhile isNameChar)).of_step
      (List.dropWhile_suffix _) (fun t ht => ?_) followsItem_nil
      fun _ => ⟨_, readParts_followsItem _ followsItem_nil⟩
    have hsettles : Settles isNameChar s t :=
      ht.imp_right fun h => h.stops isNameChar_of_isOperator
    rw [readElement_named hname ((takeWhile_append_of_settles hsettles).trans hs),
      dropWhile_append_of_settles hsettles]
  | nil =>
    cases s with
    | nil =>
      have hsolid : Solid ['a'] := solid_cons (by decide) solid_nil
      exact conclusive_of_unfinished readElement_nil rfl hsolid
        fun u hu => ⟨_, readElement_letter hu⟩
    | cons c rest =>
      have hc : isNameChar c = false := by
        by_contra h
        rw [List.takeWhile_cons_of_pos (by simpa using h)] at hs
        cases hs
      have hhead (t : Text) : ∀ x ∈ (c :: rest ++ t).head?, isNameChar x = false := by
        simpa using hc
      have hrun (t : Text) : (c :: rest ++ t).takeWhile isNameChar = [] :=
        List.takeWhile_cons_of_neg (by simp [hc])
      have hparts := conclusive_readParts {} (c :: rest)
      cases hread : readParts {} (c :: rest) with
      | ok result =>
        obtain ⟨e, after⟩ := result
        obtain ⟨hsuffix, hmore⟩ := hparts.ok e after hread
        -- Nothing read is what makes an element without a name fail.
        by_cases hlength : after.length = (c :: rest).length
        · obtain rfl : after = c :: rest := hsuffix.eq_of_length hlength
          exact conclusive_of_refused (readElement_none hs hread) (List.suffix_refl _) fun t =>
            readElement_none (hrun t) (hmore t (Or.inl (List.cons_ne_nil c rest)))
        · have hself : readElement (c :: rest) = .ok (e, after) :=
            readElement_unnamed (by simpa using hc) hread hlength
          refine conclusive_of_ok hself hsuffix fun t ht => ?_
          refine readElement_unnamed (hhead t) (hmore t ht) ?_
          rw [List.length_append, List.length_append]
          omega
      | error stop =>
        refine hparts.of_error hread (List.suffix_refl _)
          (fun t stop' ht => readElement_error (hrun t) ht) [] solid_nil (fun u hu => hu)
          fun t e u hu ht => ⟨e, ?_⟩
        refine readElement_unnamed (hhead t) ht fun hlength => ?_
        -- An element of no parts would stand before an operator, and there nothing stops it.
        obtain ⟨hsuffix, -⟩ := (conclusive_readParts {} (c :: rest ++ t)).ok _ _ ht
        have hwhole : [] ++ u = c :: rest ++ t := hsuffix.eq_of_length hlength
        rw [List.nil_append] at hwhole
        have hfollows : FollowsItem (c :: rest) := by
          rw [hwhole] at hu
          exact hu
        rw [readParts_followsItem {} hfollows] at hread
        cases hread

end Abbreviation

end Shorthand
