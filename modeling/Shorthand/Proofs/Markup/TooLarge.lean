import Shorthand.Proofs.Markup.Crash

/-!
# `Shorthand.Proofs.Markup.TooLarge`: what is too large

An expansion that does not crash is refused as too large for one reason, that its resolved
forest stands for more nodes than the limit. Unrolling is refused for no other
(`tryUnroll_instances`), and reading and resolving an abbreviation never fails with `tooLarge`
(`resolved_ne_tooLarge`).

`nodeBudget_exact` says both for every forest, and excludes the crash where no run of dollar
signs is too long.
-/

set_option autoImplicit false

namespace Shorthand

namespace Markup

/-! ### Errors of reading and resolving -/

theorem parse_ne_tooLarge (s : Text) : Abbreviation.parse s ≠ .error .tooLarge := by
  have hstop : ∀ (stop : Abbreviation.Stop) (length : Nat), stop.toError length ≠ .tooLarge := by
    intro stop length h
    match stop with
    | .unexpected [] => cases h
    | .unexpected (_ :: _) => cases h
    | .unclosed _ => cases h
    | .tooDeep => cases h
  intro h
  unfold Abbreviation.parse at h
  simp only at h
  split at h
  · cases h
  · split at h
    · exact hstop _ _ (Except.error.inj h)
    · cases h

section

variable {rule : Element → List Node → Except ExpandError Node} {e : ExpandError}

mutual

/-- A node fails to be rebuilt only where the rule fails. -/
theorem rebuild_error : (node : Node) → rebuild rule node = .error e →
    ∃ head children, rule head children = .error e
  | .element head children, h => by
    rw [rebuild] at h
    split at h
    · rename_i e' hchildren
      cases h
      exact rebuildForest_error children hchildren
    · rename_i resolved _
      exact ⟨head, resolved, h⟩
  | .group members count, h => by
    rw [rebuild] at h
    split at h
    · rename_i e' hmembers
      cases h
      exact rebuildForest_error members hmembers
    · cases h

theorem rebuildForest_error : (forest : List Node) → rebuildForest rule forest = .error e →
    ∃ head children, rule head children = .error e
  | [], h => by
    rw [rebuildForest] at h
    cases h
  | node :: rest, h => by
    rw [rebuildForest] at h
    split at h
    · rename_i e' hnode
      cases h
      exact rebuild_error node hnode
    · split at h
      · rename_i e' hrest
        cases h
        exact rebuildForest_error rest hrest
      · cases h

end

end

/-- Resolving fails only where the abbreviation of a snippet cannot be read. -/
theorem resolve_error {scope : Scope} {depth : Nat} {skip : Option Text} {forest : List Node}
    {e : ExpandError} (h : resolve scope depth skip forest = .error e) :
    ∃ source, Abbreviation.parse source = .error e := by
  induction depth generalizing skip forest with
  | zero =>
    rw [resolve] at h
    cases h
  | succ depth ih =>
    rw [resolve] at h
    obtain ⟨head, children, hrule⟩ := rebuildForest_error forest h
    unfold resolveElement at hrule
    split at hrule
    · cases hrule
    · split at hrule
      · cases hrule
      · split at hrule
        · cases hrule
        · cases hrule
        · rename_i source _
          split at hrule
          · rename_i e' hparse
            cases hrule
            exact ⟨source, hparse⟩
          · split at hrule
            · rename_i e' hdeeper
              cases hrule
              exact ih hdeeper
            · cases hrule

theorem resolved_ne_tooLarge (scope : Scope) (abbreviation : Text) :
    resolved scope abbreviation ≠ .error .tooLarge := by
  have hresolve : ∀ depth skip forest,
      (resolve scope depth skip forest).map Sum.inr
        ≠ (.error .tooLarge : Except ExpandError (Text ⊕ List Node)) := by
    intro depth skip forest h
    cases hresult : resolve scope depth skip forest with
    | ok result =>
      rw [hresult] at h
      cases h
    | error e =>
      rw [hresult] at h
      cases h
      obtain ⟨source, hsource⟩ := resolve_error hresult
      exact parse_ne_tooLarge source hsource
  intro h
  unfold resolved at h
  split at h
  · cases h
  · split at h
    · rename_i e hparse
      cases h
      exact parse_ne_tooLarge _ hparse
    · exact hresolve _ _ _ h
  · split at h
    · rename_i e hparse
      cases h
      exact parse_ne_tooLarge _ hparse
    · exact hresolve _ _ _ h

/-! ### Forests that are too large -/

/-- Unrolling that does not crash succeeds if and only if the budget covers what the forest
stands for. Then the trees have that many nodes, and the rest of the budget is left. -/
theorem tryUnroll_instances (parent : Option Text) (counter : Counter) (forest : List Node)
    (budget : Nat) :
    tryUnroll parent counter forest budget = .error .crash ∨
    if Node.forestInstances forest ≤ budget then
      ∃ trees, tryUnroll parent counter forest budget
          = .ok (trees, budget - Node.forestInstances forest) ∧
        Tree.forestSize trees = Node.forestInstances forest
    else tryUnroll parent counter forest budget = .error .tooLarge := by
  have hmirrors : Mirrors False (tryUnroll parent counter forest budget)
      (unroll parent counter forest budget) :=
    mirrors_tryUnroll parent False.elim forest False.elim budget
  obtain ⟨hcrash, -⟩ | heq := hmirrors.eq_or
  · exact .inl hcrash
  · right
    have hunroll := unroll_instances parent counter forest budget
    split at hunroll
    · rename_i hle
      obtain ⟨trees, htrees, hsize⟩ := hunroll
      rw [if_pos hle]
      exact ⟨trees, by rw [heq, htrees]; rfl, hsize⟩
    · rename_i hgt
      rw [if_neg hgt, heq, hunroll]
      rfl

theorem tryUnroll_ne_crash (parent : Option Text) {counter : Counter} {forest : List Node}
    (budget : Nat) (hcounter : counter.index < counter.total)
    (hforest : ∀ head ∈ Node.forestElements forest, head.HasShortRuns) :
    tryUnroll parent counter forest budget ≠ .error .crash := by
  have hmirrors : Mirrors True _ _ :=
    mirrors_tryUnroll parent (fun _ => hcounter) forest (fun _ => hforest) budget
  intro hcrash
  rw [hcrash] at hmirrors
  cases hmirrors with
  | crash _ h => exact h trivial

/-! ### Expansions that are too large -/

section

variable {scope : Scope} {options : ExpandOptions}

theorem writeResolved?_tooLarge_iff {forest : List Node}
    (hcrash : writeResolved? scope options (.ok (.inr forest)) ≠ none) :
    writeResolved? scope options (.ok (.inr forest)) = some (.error .tooLarge) ↔
      maxNodes < Node.forestInstances forest := by
  simp only [writeResolved?] at hcrash ⊢
  obtain hhalt | hexact := tryUnroll_instances none {} forest maxNodes
  · rw [hhalt] at hcrash
    exact absurd rfl hcrash
  split at hexact
  · rename_i hle
    obtain ⟨trees, htrees, -⟩ := hexact
    simp [htrees, Nat.not_lt.2 hle]
  · rename_i hgt
    simp [hexact, Nat.lt_of_not_le hgt]

theorem writeResolved?_ne_none {forest : List Node}
    (h : ∀ head ∈ Node.forestElements forest, head.HasShortRuns) :
    writeResolved? scope options (.ok (.inr forest)) ≠ none := by
  have hposition : ({} : Counter).index < ({} : Counter).total := Nat.zero_lt_one
  have hcrash := tryUnroll_ne_crash none maxNodes hposition h
  rw [writeResolved?]
  split
  · rename_i hhalt
    exact absurd hhalt hcrash
  · simp
  · simp

variable (scope options) (abbreviation : Text)

/-- Without a resolved forest, an expansion neither crashes nor is too large. -/
theorem expandIn?_cases :
    (∃ forest, Text.trim abbreviation ≠ [] ∧ Text.oneOf unsupported scope.grammar = false ∧
      resolved scope (Text.trim abbreviation) = .ok (.inr forest)) ∨
    ∃ result, expandIn? scope options abbreviation = some result ∧ result ≠ .error .tooLarge := by
  by_cases hne : Text.trim abbreviation = []
  · exact .inr ⟨_, if_pos hne, by simp⟩
  cases hgrammar : Text.oneOf unsupported scope.grammar with
  | true => exact .inr ⟨_, (if_neg hne).trans (if_pos hgrammar), by simp⟩
  | false =>
    rw [expandIn?_eq hne hgrammar]
    cases hresolved : resolved scope (Text.trim abbreviation) with
    | error e =>
      refine .inr ⟨_, rfl, fun he => ?_⟩
      cases he
      exact resolved_ne_tooLarge _ _ hresolved
    | ok result =>
      cases result with
      | inl text => exact .inr ⟨_, rfl, by simp⟩
      | inr forest => exact .inl ⟨forest, hne, rfl, rfl⟩

variable {scope options abbreviation}

/-- An expansion that does not crash is too large if and only if the abbreviation has a resolved
forest and that forest stands for too many nodes. -/
theorem expandIn?_tooLarge_iff (hcrash : expandIn? scope options abbreviation ≠ none) :
    expandIn? scope options abbreviation = some (.error .tooLarge) ↔
      Text.trim abbreviation ≠ [] ∧ Text.oneOf unsupported scope.grammar = false ∧
      ∃ forest, resolved scope (Text.trim abbreviation) = .ok (.inr forest) ∧
        maxNodes < Node.forestInstances forest := by
  constructor
  · intro htooLarge
    obtain ⟨forest, hne, hgrammar, hresolved⟩ | ⟨result, hresult, hother⟩ :=
      expandIn?_cases scope options abbreviation
    · rw [expandIn?_eq hne hgrammar, hresolved] at htooLarge hcrash
      exact ⟨hne, hgrammar, forest, hresolved, (writeResolved?_tooLarge_iff hcrash).1 htooLarge⟩
    · rw [hresult] at htooLarge
      exact absurd (Option.some.inj htooLarge) hother
  · rintro ⟨hne, hgrammar, forest, hresolved, hlarge⟩
    rw [expandIn?_eq hne hgrammar, hresolved] at hcrash ⊢
    exact (writeResolved?_tooLarge_iff hcrash).2 hlarge

theorem expandIn?_ne_none
    (h : ∀ forest, resolved scope (Text.trim abbreviation) = .ok (.inr forest) →
      ∀ head ∈ Node.forestElements forest, head.HasShortRuns) :
    expandIn? scope options abbreviation ≠ none := by
  obtain ⟨forest, hne, hgrammar, hresolved⟩ | ⟨result, hresult, -⟩ :=
    expandIn?_cases scope options abbreviation
  · rw [expandIn?_eq hne hgrammar, hresolved]
    exact writeResolved?_ne_none (h forest hresolved)
  · simp [hresult]

end

/-- The budget of an expansion is exact, up to a crash. A forest is unrolled from a budget if
and only if the budget covers the nodes that it stands for. The trees then have exactly so many
nodes, and what is left is the difference. There is no crash if no text of the forest has a run
of dollar signs that is too long and the counter is short of its end.

So an expansion is too large if and only if the abbreviation is read and resolved, in a grammar
that is written with tags, and its resolved forest stands for more than ten thousand nodes. -/
theorem nodeBudget_exact :
    (∀ (parent : Option Text) (counter : Counter) (forest : List Node) (budget : Nat),
      tryUnroll parent counter forest budget = .error .crash ∨
      if Node.forestInstances forest ≤ budget then
        ∃ trees, tryUnroll parent counter forest budget
            = .ok (trees, budget - Node.forestInstances forest) ∧
          Tree.forestSize trees = Node.forestInstances forest
      else tryUnroll parent counter forest budget = .error .tooLarge) ∧
    (∀ (parent : Option Text) (counter : Counter) (forest : List Node) (budget : Nat),
      counter.index < counter.total →
      (∀ head ∈ Node.forestElements forest, head.HasShortRuns) →
      tryUnroll parent counter forest budget ≠ .error .crash) ∧
    (∀ (scope : Scope) (options : ExpandOptions) (abbreviation : Text),
      expandIn? scope options abbreviation = none ∨
      (expandIn? scope options abbreviation = some (.error .tooLarge) ↔
        Text.trim abbreviation ≠ [] ∧ Text.oneOf unsupported scope.grammar = false ∧
        ∃ forest, resolved scope (Text.trim abbreviation) = .ok (.inr forest) ∧
          10000 < Node.forestInstances forest)) ∧
    (∀ (scope : Scope) (options : ExpandOptions) (abbreviation : Text),
      (∀ forest, resolved scope (Text.trim abbreviation) = .ok (.inr forest) →
        ∀ head ∈ Node.forestElements forest, head.HasShortRuns) →
      expandIn? scope options abbreviation ≠ none) ∧
    ExpandError.message .tooLarge = "abbreviation expands to more than 10000 elements".toList := by
  refine ⟨tryUnroll_instances, fun parent _ _ budget => tryUnroll_ne_crash parent budget, ?_,
    fun _ _ _ => expandIn?_ne_none, by decide⟩
  intro scope options abbreviation
  by_cases hcrash : expandIn? scope options abbreviation = none
  · exact .inl hcrash
  · exact .inr (expandIn?_tooLarge_iff hcrash)

/-- A list of three items with two texts each. -/
def itemTexts : List Node :=
  [.element { name := some "ul" } [
    .element { name := some "li", count := some 3 } [
      .element { text := some "$", count := some 2 } []]]]

/-- Whether no text of a resolved forest is longer than a numeral can be wide. -/
def hasShortTexts : Except ExpandError (Text ⊕ List Node) → Bool
  | .ok (.inr forest) =>
    (Node.forestElements forest).all fun head => head.texts.all fun t => t.length ≤ maxWidth
  | _ => true

theorem hasShortRuns_of_hasShortTexts {forest : List Node}
    (h : hasShortTexts (.ok (.inr forest)) = true) :
    ∀ head ∈ Node.forestElements forest, head.HasShortRuns := by
  intro head hhead t ht
  have htexts := List.all_eq_true.1 h head hhead
  exact Text.hasShortRuns_of_length_le (of_decide_eq_true (List.all_eq_true.1 htexts t ht))

/-- Nodes that a resolved forest stands for. -/
def resolvedInstances : Except ExpandError (Text ⊕ List Node) → Nat
  | .ok (.inr forest) => Node.forestInstances forest
  | _ => 0

theorem exists_of_resolvedInstances {outcome : Except ExpandError (Text ⊕ List Node)} {n : Nat}
    (h : resolvedInstances outcome = n + 1) :
    ∃ forest, outcome = .ok (.inr forest) ∧ Node.forestInstances forest = n + 1 := by
  match outcome, h with
  | .ok (.inr forest), h => exact ⟨forest, rfl, h⟩

theorem nodeBudget_exact_itemTexts :
    (∃ trees, tryUnroll none {} itemTexts 12 = .ok (trees, 2) ∧ Tree.forestSize trees = 10) ∧
    tryUnroll none {} itemTexts 9 = .error .tooLarge ∧
    expandIn? (Scope.ofOptions "html" {} {}) {} "li*1000>p*11" = some (.error .tooLarge) := by
  obtain ⟨hexact, hrun, hexpand, hexpandRun, -⟩ := nodeBudget_exact
  have hinstances : Node.forestInstances itemTexts = 10 := by decide
  have hshort : ∀ head ∈ Node.forestElements itemTexts, head.HasShortRuns :=
    hasShortRuns_of_hasShortTexts (by decide)
  have hfits (budget : Nat) := (hexact none {} itemTexts budget).resolve_left
    (hrun none {} itemTexts budget Nat.zero_lt_one hshort)
  rw [hinstances] at hfits
  refine ⟨hfits 12, hfits 9, ?_⟩
  have hwritten : hasShortTexts (resolved (Scope.ofOptions "html" {} {})
      (Text.trim "li*1000>p*11")) = true := by decide +kernel
  have hlarge : resolvedInstances (resolved (Scope.ofOptions "html" {} {})
      (Text.trim "li*1000>p*11")) = 11999 + 1 := by decide +kernel
  obtain ⟨forest, hresolved, hforest⟩ := exists_of_resolvedInstances hlarge
  refine ((hexpand _ _ _).resolve_left (hexpandRun _ _ _ fun forest hforest => ?_)).2
    ⟨by decide, by decide, forest, hresolved, by omega⟩
  rw [hforest] at hwritten
  exact hasShortRuns_of_hasShortTexts hwritten

theorem tryUnroll_text_of_none {parent : Option Text} {counter : Counter} {s : Text}
    (h : counter.number? s = none) (budget : Nat) :
    tryUnroll parent counter [.element { text := some s } []] (budget + 1) = .error .crash := by
  rw [tryUnroll, tryUnrollNode_element]
  show (tryElementCopy parent _ [] counter (budget + 1) >>= _) >>= _ = _
  have hcopy : tryElementCopy parent { text := some s } [] counter (budget + 1)
      = .error .crash := by
    show (tryNumber counter s >>= _) = _
    rw [tryNumber, h]
    rfl
  rw [hcopy]
  rfl

/-- Without these bounds a budget that covers a forest does not suffice: a run of 65536 dollar
signs crashes, and so does a token that counts down from an end that lies behind. A grammar that
is not written with tags is refused whatever a forest stands for. -/
theorem budget_not_enough :
    (Node.forestInstances [.element { text := some (List.replicate 65536 '$') } []] = 1 ∧
      tryUnroll none {} [.element { text := some (List.replicate 65536 '$') } []] 1
        = .error .crash) ∧
    (Node.forestInstances [.element { text := some "$@-" } []] = 1 ∧
      tryUnroll none { index := 1, total := 1 } [.element { text := some "$@-" } []] 1
        = .error .crash) ∧
    (∃ forest, resolved (Scope.ofOptions "pug" {} {}) "li*1000>p*11" = .ok (.inr forest) ∧
      10000 < Node.forestInstances forest ∧
      expandIn? (Scope.ofOptions "pug" {} {}) {} "li*1000>p*11"
        = some (.error (.unsupportedGrammar "pug"))) := by
  refine ⟨⟨rfl, ?_⟩, ⟨rfl, ?_⟩, ?_⟩
  · exact tryUnroll_text_of_none (Counter.number?_replicate {} (by decide)) 0
  · exact tryUnroll_text_of_none (by decide +kernel) 0
  · have hlarge : resolvedInstances (resolved (Scope.ofOptions "pug" {} {}) "li*1000>p*11")
        = 11999 + 1 := by decide +kernel
    obtain ⟨forest, hresolved, hforest⟩ := exists_of_resolvedInstances hlarge
    exact ⟨forest, hresolved, by omega, rfl⟩

end Markup

end Shorthand
