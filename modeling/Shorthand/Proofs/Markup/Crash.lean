import Mathlib.Data.List.TakeWhile
import Shorthand.Engine
import Shorthand.Proofs.Markup.Copies

/-!
# `Shorthand.Proofs.Markup.Crash`: where an expansion does not crash

A counter token has no number if its run of dollar signs is longer than a numeral can be wide,
or if it counts down from an end that lies behind. Texts without such a run
(`Text.HasShortRuns`), under a counter that is short of its end, have none of these tokens
(`Counter.number?_eq`), and counters of copies always are.

So unrolling comes in two forms. `tryUnroll` meets the numbers one after another and crashes at
the first that is missing. `unroll` knows of no crash. `Mirrors` relates the two: they do the
same, or the first one crashes where that is not excluded. It goes along with steps in sequence
(`Mirrors.andThen`, `Mirrors.sequence`), so that `mirrors_tryUnroll` is one induction over the
forest.
-/

set_option autoImplicit false

namespace Shorthand

/-! ### Texts whose tokens all have numbers -/

namespace Text

/-- No run of dollar signs is longer than a numeral can be wide. -/
def HasShortRuns (s : Text) : Prop :=
  ¬List.replicate (maxWidth + 1) '$' <:+: s

theorem hasShortRuns_of_length_le {s : Text} (h : s.length ≤ maxWidth) : HasShortRuns s := by
  intro hrun
  have hle := hrun.length_le
  rw [List.length_replicate] at hle
  omega

theorem HasShortRuns.of_suffix {s t : Text} (h : HasShortRuns s) (ht : t <:+ s) :
    HasShortRuns t :=
  fun hrun => h (hrun.trans ht.isInfix)

theorem HasShortRuns.length_run_le {rest : Text} (h : HasShortRuns ('$' :: rest)) :
    (rest.takeWhile (· == '$')).length + 1 ≤ maxWidth := by
  refine Nat.le_of_not_lt fun hlong => ?_
  have hrun : rest.takeWhile (· == '$')
      = List.replicate (rest.takeWhile (· == '$')).length '$' :=
    List.eq_replicate_of_mem fun c hc => by simpa using List.mem_takeWhile_imp hc
  have hprefix : List.replicate ((rest.takeWhile (· == '$')).length + 1) '$' <+: '$' :: rest := by
    rw [List.replicate_succ, ← hrun]
    exact List.cons_prefix_cons.2 ⟨rfl, List.takeWhile_prefix _⟩
  refine h (List.IsPrefix.isInfix (List.IsPrefix.trans ?_ hprefix))
  rw [List.prefix_replicate_iff]
  simp only [List.length_replicate, and_true]
  omega

end Text

namespace Element

/-- The texts of an element that are numbered. -/
def texts (e : Element) : List Text :=
  e.name.toList ++ e.attributes.flatMap (fun a => a.name :: a.value.toList) ++ e.text.toList

/-- No text of an element has a run of dollar signs that is too long. -/
def HasShortRuns (e : Element) : Prop :=
  ∀ t ∈ e.texts, t.HasShortRuns

section

variable {e : Element} (h : e.HasShortRuns) {t : Text}
include h

theorem HasShortRuns.name (ht : e.name = some t) : t.HasShortRuns :=
  h t (by simp [texts, ht])

theorem HasShortRuns.text (ht : e.text = some t) : t.HasShortRuns :=
  h t (by simp [texts, ht])

theorem HasShortRuns.attributeName {a : Attribute} (ha : a ∈ e.attributes) :
    a.name.HasShortRuns := by
  refine h a.name (List.mem_append_left _ (List.mem_append_right _ ?_))
  exact List.mem_flatMap.2 ⟨a, ha, List.mem_cons_self⟩

theorem HasShortRuns.attributeValue {a : Attribute} (ha : a ∈ e.attributes)
    (ht : a.value = some t) : t.HasShortRuns := by
  refine h t (List.mem_append_left _ (List.mem_append_right _ ?_))
  exact List.mem_flatMap.2 ⟨a, ha, List.mem_cons_of_mem _ (Option.mem_toList.2 ht)⟩

end

end Element

namespace Counter

variable {counter : Counter}

theorem tokenRest_suffix (s : Text) : (readModifier (s.dropWhile (· == '$'))).2.2 <:+ s := by
  have hmodifier (t : Text) : (readModifier t).2.2 <:+ t := by
    unfold readModifier
    split
    · exact ((List.dropWhile_suffix _).trans (List.suffix_cons _ _)).trans (List.suffix_cons _ _)
    · exact (List.dropWhile_suffix _).trans (List.suffix_cons _ _)
    · exact List.suffix_rfl
  exact (hmodifier _).trans (List.dropWhile_suffix _)

/-- What is written for a text is its numbering. -/
theorem eq_number_of_number? {s t : Text} (h : counter.number? s = some t) :
    t = counter.number s := by
  fun_induction number? counter s generalizing t with
  | case1 =>
    rw [number]
    exact (Option.some.inj h).symm
  | case2 rest ih =>
    obtain ⟨more, hmore, rfl⟩ := Option.map_eq_some_iff.1 h
    rw [number, ih hmore]
  | case3 rest ih =>
    obtain ⟨more, hmore, rfl⟩ := Option.map_eq_some_iff.1 h
    rw [number, ih hmore]
  | case4 rest hbrace width modifier => cases h
  | case5 rest hbrace width modifier numeral hnumeral =>
    rename_i ih
    obtain ⟨more, hmore, rfl⟩ := Option.map_eq_some_iff.1 h
    obtain ⟨value, hvalue, hpadded⟩ := Option.bind_eq_some_iff.1 hnumeral
    rw [value?] at hvalue
    rw [Text.padded?] at hpadded
    split at hvalue
    · cases hvalue
    · split at hpadded
      · cases hvalue
        cases hpadded
        rw [number, ih hmore]
        exact hbrace
      · cases hpadded
  | case6 c rest hescaped htab hdollar ih =>
    obtain ⟨more, hmore, rfl⟩ := Option.map_eq_some_iff.1 h
    rw [number, ih hmore]
    · exact hescaped
    · exact htab
    · exact hdollar

theorem number?_eq (hcounter : counter.index < counter.total) {s : Text} (h : s.HasShortRuns) :
    counter.number? s = some (counter.number s) := by
  suffices hsome : (counter.number? s).isSome = true by
    obtain ⟨t, ht⟩ := Option.isSome_iff_exists.1 hsome
    rw [ht, eq_number_of_number? ht]
  fun_induction number? counter s with
  | case1 => rfl
  | case2 rest ih =>
    rw [Option.isSome_map]
    exact ih (h.of_suffix ((List.suffix_cons _ _).trans (List.suffix_cons _ _)))
  | case3 rest ih =>
    rw [Option.isSome_map]
    exact ih (h.of_suffix ((List.suffix_cons _ _).trans (List.suffix_cons _ _)))
  | case4 rest hbrace width modifier =>
    rename_i hnone
    -- The copy is short of the end, and the run is not too long.
    have hvalue : counter.value? modifier.1 modifier.2.1
        = some (counter.value modifier.1 modifier.2.1) :=
      if_neg fun hend => absurd hcounter (Nat.not_lt.2 hend.2)
    rw [hvalue, Option.bind_some, Text.padded?, if_pos h.length_run_le] at hnone
    cases hnone
  | case5 rest hbrace width modifier numeral hnumeral =>
    rename_i ih
    rw [Option.isSome_map]
    exact ih (h.of_suffix ((tokenRest_suffix rest).trans (List.suffix_cons _ _)))
  | case6 c rest hescaped htab hdollar ih =>
    rw [Option.isSome_map]
    exact ih (h.of_suffix (List.suffix_cons _ _))

/-- A run that is too long has no number. -/
theorem number?_replicate (counter : Counter) {n : Nat} (h : maxWidth < n) :
    counter.number? (List.replicate n '$') = none := by
  obtain ⟨m, rfl⟩ := Nat.exists_eq_succ_of_ne_zero (Nat.ne_of_gt (Nat.zero_lt_of_lt h))
  have hrun : (List.replicate m '$').takeWhile (· == '$') = List.replicate m '$' :=
    List.takeWhile_eq_self_iff.2 fun c hc => by simp [List.eq_of_mem_replicate hc]
  have hwide : Text.padded? (m + 1) = fun _ => none :=
    funext fun n => if_neg (Nat.not_le.2 h)
  rw [List.replicate_succ, number?]
  · simp only [hrun, List.length_replicate, hwide, Option.bind_fun_none]
  · intro rest hbrace
    have hmem : '{' ∈ List.replicate m '$' := hbrace ▸ List.mem_cons_self
    exact absurd (List.eq_of_mem_replicate hmem) (by decide)

end Counter

namespace Markup

/-! ### Steps that crash beside steps that do not -/

/-- What a step that may crash does, and what the same step does without crashes: the same, or
the first one crashes, which `safe` excludes. -/
inductive Mirrors {α : Type} (safe : Prop) : Except Halt α → Option α → Prop where
  | crash (plain : Option α) (h : ¬safe) : Mirrors safe (.error .crash) plain
  | short : Mirrors safe (.error .tooLarge) none
  | done (a : α) : Mirrors safe (.ok a) (some a)

/-- A step that needs no budget, before others. -/
theorem Mirrors.andThen {α β : Type} {safe : Prop} {first : Except Halt α} {a : α}
    {next : α → Except Halt β} {plain : Option β} (hfirst : Mirrors safe first (some a))
    (hnext : Mirrors safe (next a) plain) : Mirrors safe (first >>= next) plain := by
  cases hfirst with
  | crash _ h => exact .crash plain h
  | done a => exact hnext

/-- Steps in sequence, the second with the budget that the first hands on. -/
theorem Mirrors.sequence {safe : Prop} {first : Except Halt (List Tree × Nat)}
    {second : Nat → Except Halt (List Tree × Nat)} {plain plain' : Nat → Option (List Tree × Nat)}
    {budget : Nat} (hfirst : Mirrors safe first (plain budget))
    (hsecond : ∀ budget, Mirrors safe (second budget) (plain' budget)) :
    Mirrors safe
      (do
        let (trees, budget) ← first
        let (more, budget) ← second budget
        return (trees ++ more, budget))
      (Markup.andThen plain plain' budget) := by
  unfold Markup.andThen
  generalize plain budget = result at hfirst ⊢
  cases hfirst with
  | crash _ h => exact .crash _ h
  | short => exact .short
  | done made =>
    obtain ⟨trees, left⟩ := made
    have hleft := hsecond left
    simp only
    generalize plain' left = result at hleft ⊢
    show Mirrors safe (second left >>= _) _
    generalize second left = tried at hleft ⊢
    cases hleft with
    | crash _ h => exact .crash _ h
    | short => exact .short
    | done made => exact .done (trees ++ made.1, made.2)

/-- Without a crash the two do the same. -/
theorem Mirrors.eq_or {α : Type} {safe : Prop} {tried : Except Halt α} {plain : Option α}
    (h : Mirrors safe tried plain) :
    (tried = .error .crash ∧ ¬safe) ∨ tried = plain.elim (.error .tooLarge) .ok := by
  cases h with
  | crash _ h => exact .inl ⟨rfl, h⟩
  | short | done => exact .inr rfl

theorem mirrors_tryCopies {safe : Prop} {step : Counter → Nat → Except Halt (List Tree × Nat)}
    {plain : Counter → Nat → Option (List Tree × Nat)} {counters : List Counter}
    (hstep : ∀ counter ∈ counters, ∀ budget,
      Mirrors safe (step counter budget) (plain counter budget))
    (budget : Nat) :
    Mirrors safe (tryCopies step counters budget) (forCopies plain counters budget) := by
  induction counters generalizing budget with
  | nil => exact .done _
  | cons counter rest ih =>
    obtain ⟨hfirst, hrest⟩ := List.forall_mem_cons.1 hstep
    exact (hfirst budget).sequence (ih hrest)

/-! ### Numbering -/

section

variable {safe : Prop} {counter : Counter} (hcounter : safe → counter.index < counter.total)
include hcounter

theorem mirrors_tryNumber {s : Text} (hs : safe → s.HasShortRuns) :
    Mirrors safe (tryNumber counter s) (some (counter.number s)) := by
  unfold tryNumber
  cases hnumber : counter.number? s with
  | none =>
    refine .crash _ fun h => ?_
    cases hnumber.symm.trans (Counter.number?_eq (hcounter h) (hs h))
  | some t =>
    rw [Counter.eq_number_of_number? hnumber]
    exact .done _

theorem mirrors_tryNumberOption {s : Option Text}
    (hs : safe → ∀ t, s = some t → t.HasShortRuns) :
    Mirrors safe (tryNumberOption counter s) (some (s.map counter.number)) := by
  cases s with
  | none => exact .done _
  | some t =>
    exact (mirrors_tryNumber hcounter fun h => hs h t rfl).andThen (.done _)

theorem mirrors_tryNumberAttributes {attributes : List Attribute}
    (hname : safe → ∀ a ∈ attributes, a.name.HasShortRuns)
    (hvalue : safe → ∀ a ∈ attributes, ∀ t, a.value = some t → t.HasShortRuns) :
    Mirrors safe (tryNumberAttributes counter attributes)
      (some (attributes.map (numberAttribute counter))) := by
  induction attributes with
  | nil => exact .done _
  | cons a rest ih =>
    refine (mirrors_tryNumber hcounter fun h => hname h a List.mem_cons_self).andThen ?_
    refine (mirrors_tryNumberOption hcounter fun h => hvalue h a List.mem_cons_self).andThen ?_
    refine (ih (fun h b hb => ?_) fun h b hb => ?_).andThen (.done _)
    · exact hname h b (List.mem_cons_of_mem a hb)
    · exact hvalue h b (List.mem_cons_of_mem a hb)

theorem mirrors_tryElementName (parent : Option Text) {head : Element}
    (hname : safe → ∀ t, head.name = some t → t.HasShortRuns) :
    Mirrors safe (tryElementName parent counter head)
      (some (elementName parent counter head)) := by
  unfold tryElementName elementName
  cases hhead : head.name with
  | none => exact .done _
  | some name => exact mirrors_tryNumber hcounter fun h => hname h name hhead

end

/-! ### Unrolling -/

/-- One copy of an element with what is below it, up to a crash. -/
def tryElementCopy (parent : Option Text) (head : Element) (children : List Node)
    (counter : Counter) (budget : Nat) : Except Halt (List Tree × Nat) :=
  match budget with
  | 0 => .error .tooLarge
  | budget + 1 =>
    if head.isTextOnly && children.isEmpty then do
      let text ← tryNumber counter (head.text.getD [])
      return ([.text text], budget)
    else do
      let name ← tryElementName parent counter head
      let attributes ← tryNumberAttributes counter head.attributes
      let (below, budget) ← tryUnroll (some name) counter children budget
      let text ← tryNumberOption counter head.text
      return ([.element name attributes text head.selfClosing below], budget)

theorem tryUnrollNode_element (parent : Option Text) (counter : Counter) (head : Element)
    (children : List Node) :
    tryUnrollNode parent counter (.element head children)
      = tryCopies (tryElementCopy parent head children) (counter.copies head.count) := by
  funext budget
  rw [tryUnrollNode]
  rfl

theorem mirrors_tryElementCopy {safe : Prop} {counter : Counter} {head : Element}
    {children : List Node} (parent : Option Text)
    (hcounter : safe → counter.index < counter.total) (hhead : safe → head.HasShortRuns)
    (hchildren : ∀ parent budget, Mirrors safe (tryUnroll parent counter children budget)
      (unroll parent counter children budget)) (budget : Nat) :
    Mirrors safe (tryElementCopy parent head children counter budget)
      (elementCopy parent head children counter budget) := by
  unfold tryElementCopy elementCopy
  cases budget with
  | zero => exact .short
  | succ budget =>
    by_cases htext : (head.isTextOnly && children.isEmpty) = true
    · simp only [htext, if_true]
      refine (mirrors_tryNumber hcounter fun h => ?_).andThen (.done _)
      cases hcontent : head.text with
      | none => exact Text.hasShortRuns_of_length_le (Nat.zero_le _)
      | some content => exact (hhead h).text hcontent
    · simp only [htext]
      refine (mirrors_tryElementName hcounter parent fun h _ => (hhead h).name).andThen ?_
      refine (mirrors_tryNumberAttributes hcounter (fun h _ => (hhead h).attributeName)
        fun h _ ha _ => (hhead h).attributeValue ha).andThen ?_
      have hbelow := hchildren (some (elementName parent counter head)) budget
      generalize unroll (some (elementName parent counter head)) counter children budget = plain
        at hbelow ⊢
      generalize tryUnroll (some (elementName parent counter head)) counter children budget = tried
        at hbelow ⊢
      cases hbelow with
      | crash _ h => exact .crash _ h
      | short => exact .short
      | done made =>
        exact (mirrors_tryNumberOption hcounter fun h _ => (hhead h).text).andThen (.done _)

section

variable {safe : Prop}

mutual

theorem mirrors_tryUnrollNode (parent : Option Text) {counter : Counter}
    (hcounter : safe → counter.index < counter.total) : (node : Node) →
    (safe → ∀ head ∈ node.elements, head.HasShortRuns) → ∀ budget,
    Mirrors safe (tryUnrollNode parent counter node budget)
      (unrollNode parent counter node budget)
  | .element head children, helements, budget => by
    rw [tryUnrollNode_element, unrollNode_element]
    refine mirrors_tryCopies (fun inner hinner budget => ?_) budget
    have hposition : safe → inner.index < inner.total :=
      fun h => Counter.index_lt_of_mem_copies (hcounter h) hinner
    simp only [Node.elements, List.forall_mem_cons] at helements
    exact mirrors_tryElementCopy parent hposition (fun h => (helements h).1)
      (fun parent => mirrors_tryUnroll parent hposition children fun h => (helements h).2) budget
  | .group members count, helements, budget => by
    rw [tryUnrollNode, unrollNode_group]
    refine mirrors_tryCopies (fun inner hinner budget => ?_) budget
    rw [Node.elements] at helements
    exact mirrors_tryUnroll parent (fun h => Counter.index_lt_of_mem_copies (hcounter h) hinner)
      members helements budget

/-- Unrolling crashes or does what it does without crashes. -/
theorem mirrors_tryUnroll (parent : Option Text) {counter : Counter}
    (hcounter : safe → counter.index < counter.total) : (forest : List Node) →
    (safe → ∀ head ∈ Node.forestElements forest, head.HasShortRuns) → ∀ budget,
    Mirrors safe (tryUnroll parent counter forest budget) (unroll parent counter forest budget)
  | [], _, budget => by
    rw [tryUnroll, unroll_nil]
    exact .done _
  | node :: rest, helements, budget => by
    rw [tryUnroll, unroll_cons]
    simp only [Node.forestElements, List.forall_mem_append] at helements
    exact (mirrors_tryUnrollNode parent hcounter node (fun h => (helements h).1) budget).sequence
      (mirrors_tryUnroll parent hcounter rest fun h => (helements h).2)

end

end

/-! ### Expansions -/

/-- What is written for a resolved abbreviation, up to a crash. -/
def writeResolved? (scope : Scope) (options : ExpandOptions) :
    Except ExpandError (Text ⊕ List Node) → Option (Except ExpandError Text)
  | .error e => some (.error e)
  | .ok (.inl text) => some (.ok text)
  | .ok (.inr forest) =>
    match tryUnroll none {} forest maxNodes with
    | .error .crash => none
    | .error .tooLarge => some (.error .tooLarge)
    | .ok (trees, _) =>
      some (.ok (render (styleOf scope.grammar scope.registry options) (indentOf options) trees))

theorem expandIn?_eq {scope : Scope} {options : ExpandOptions} {abbreviation : Text}
    (hne : Text.trim abbreviation ≠ [])
    (hgrammar : Text.oneOf unsupported scope.grammar = false) :
    expandIn? scope options abbreviation
      = writeResolved? scope options (resolved scope (Text.trim abbreviation)) := by
  rw [expandIn?, if_neg hne, if_neg (by simp [hgrammar])]
  rfl

/-- An expansion that does not crash is the one that knows of no crash. -/
theorem expand?_eq_some {abbreviation grammar : Text} {registry : Registry}
    {options : ExpandOptions} {result : Except ExpandError Text}
    (h : expand? abbreviation grammar registry options = some result) :
    expand abbreviation grammar registry options = result := by
  unfold expand? expandIn? at h
  unfold expand
  simp only at h ⊢
  by_cases hblank : Text.trim abbreviation = []
  · rw [if_pos hblank] at h ⊢
    exact Option.some.inj h
  rw [if_neg hblank] at h ⊢
  by_cases hgrammar : Text.oneOf unsupported (Scope.ofOptions grammar registry options).grammar
  · rw [if_pos hgrammar] at h
    rw [if_pos (show Text.oneOf unsupported grammar = true from hgrammar)]
    exact Option.some.inj h
  rw [if_neg hgrammar] at h
  rw [if_neg (show ¬Text.oneOf unsupported grammar = true from hgrammar)]
  cases hresolved : resolved (Scope.ofOptions grammar registry options) (Text.trim abbreviation)
    with
  | error e =>
    rw [hresolved] at h
    exact Option.some.inj h
  | ok outcome =>
    rw [hresolved] at h
    cases outcome with
    | inl text => exact Option.some.inj h
    | inr forest =>
      simp only at h ⊢
      have hmirrors : Mirrors False (tryUnroll none {} forest maxNodes)
          (unroll none {} forest maxNodes) :=
        mirrors_tryUnroll none False.elim forest False.elim maxNodes
      generalize tryUnroll none {} forest maxNodes = tried at h hmirrors
      generalize unroll none {} forest maxNodes = plain at hmirrors ⊢
      cases hmirrors with
      | crash _ _ => cases h
      | short => exact Option.some.inj h
      | done made => exact Option.some.inj h

end Markup

/-- In any grammar, an expansion that does not crash is the one that knows of no crash: only
markup numbers anything. -/
theorem expand?_eq_some {abbreviation : Text} {options : ExpandOptions} {registry : Registry}
    {result : Except ExpandError Text}
    (h : expand? abbreviation options registry = some result) :
    expand abbreviation options registry = result := by
  unfold expand? at h
  unfold expand
  simp only at h ⊢
  generalize (if options.grammar.getD [] = [] then Grammar.default
    else options.grammar.getD []) = grammar at h ⊢
  cases hkind : Grammar.kind? grammar with
  | none =>
    rw [hkind] at h
    exact Option.some.inj h
  | some kind =>
    rw [hkind] at h
    cases kind with
    | markup => exact Markup.expand?_eq_some h
    | stylesheet => exact Option.some.inj h

theorem Engine.expand?_eq_some {engine : Engine} {abbreviation : Text} {options : ExpandOptions}
    {result : Except ExpandError Text}
    (h : engine.expand? abbreviation options = some result) :
    engine.expand abbreviation options = result :=
  Shorthand.expand?_eq_some h

end Shorthand
