import Mathlib.Data.List.Forall2
import Mathlib.Data.List.TakeWhile
import Shorthand.Path
import Shorthand.Proofs.Text.Pieces

/-!
# `Shorthand.Proofs.Path.Location`: folding double dots keeps the place

An absolute path denotes a place below the root. It is found by going through the components
(`enter`): a dot stays, a double dot goes to the parent, and a name goes down. The parent of the
root is the root, so a path may climb above the root and come down again.

`resolveAll_denotes` says what becomes of the directories that a client configures. A relative
one becomes an absolute path in normal form which denotes the place that the directory denotes
below the working directory.

Folding does not look at places. It takes back the component before a double dot, and where there
is none it keeps the double dot as a component, which the next double dot takes back. What is
kept is therefore the names down to the place, with at most one double dot above them:
`foldParents_eq` is the induction over the components with this as its invariant, and
`exists_normalize_eq` says that a folded path is spelled from the place alone (`spell`). The
normal form and its place are then read off the spelling (`normal_spell`, `location_spell`).
-/

set_option autoImplicit false

namespace Shorthand

namespace Path

/-! ### Places -/

/-- The place that a component leads to. A place is the names from the root down to it, the last
one first, so the root has none and its parent is itself. -/
def enter (place : List Text) (component : Text) : List Text :=
  if component = [] ∨ component = ['.'] then place
  else if component = parent then place.tail
  else component :: place

/-- The place that an absolute path denotes. -/
def location (path : Text) : List Text :=
  (Text.split '/' path).foldl enter []

/-- A component that is the name of a place below another. -/
structure IsName (component : Text) : Prop where
  ne_nil : component ≠ []
  ne_dot : component ≠ ['.']
  ne_parent : component ≠ parent
  notMem_slash : '/' ∉ component

/-- An absolute path in normal form: it has no dot among its components, and no double dot but
perhaps directly behind the root, and folding it once more changes nothing. The first component
is the empty one before the slash of the root, so what is behind the second one is dropped two
components from the start. -/
structure Normal (path : Text) : Prop where
  absolute : isAbsolute path = true
  notMem_dot : ['.'] ∉ Text.split '/' path
  notMem_parent : parent ∉ (Text.split '/' path).drop 2
  normalize_eq : normalize path = path

/-- `path` is what a configured directory stands for. An absolute one stands for itself, white
space around it aside. A relative one is a place below the working directory, and the path is
that place in normal form. -/
structure StandsFor (workingDirectory entry path : Text) : Prop where
  absolute : isAbsolute (Text.trim entry) = true → path = Text.trim entry
  relative : isAbsolute (Text.trim entry) = false →
    Normal path ∧ location path = location (workingDirectory ++ '/' :: Text.trim entry)

/-! ### Components of a place -/

/-- A name leads down. -/
theorem enter_name {place : List Text} {component : Text} (h : IsName component) :
    enter place component = component :: place := by
  rw [enter, if_neg (not_or.2 ⟨h.ne_nil, h.ne_dot⟩), if_neg h.ne_parent]

/-- A double dot leads up. -/
theorem enter_parent (place : List Text) : enter place parent = place.tail := by
  rw [enter, if_neg (by decide), if_pos rfl]

/-- An empty component stays. -/
theorem enter_nil (place : List Text) : enter place [] = place :=
  if_pos (.inl rfl)

/-- Names lead down one after another. -/
theorem foldl_enter_names {names : List Text} (h : ∀ name ∈ names, IsName name)
    (place : List Text) : names.foldl enter place = names.reverse ++ place := by
  induction names generalizing place with
  | nil => rfl
  | cons name names ih =>
    obtain ⟨hname, hnames⟩ := List.forall_mem_cons.1 h
    rw [List.foldl_cons, enter_name hname, ih hnames, List.reverse_cons, List.append_assoc,
      List.singleton_append]

/-- A place is made of names. -/
theorem isName_of_mem_foldl_enter {components place : List Text}
    (hcomponents : ∀ component ∈ components, '/' ∉ component)
    (hplace : ∀ name ∈ place, IsName name) :
    ∀ name ∈ components.foldl enter place, IsName name := by
  induction components generalizing place with
  | nil => exact hplace
  | cons component rest ih =>
    obtain ⟨hslash, hrest⟩ := List.forall_mem_cons.1 hcomponents
    refine ih hrest fun name hname => ?_
    rw [enter] at hname
    split at hname
    · exact hplace name hname
    · rename_i hstays
      split at hname
      · exact hplace name (List.mem_of_mem_tail hname)
      · rename_i hparent
        obtain rfl | hmem := List.mem_cons.1 hname
        · exact ⟨fun hnil => hstays (.inl hnil), fun hdot => hstays (.inr hdot), hparent, hslash⟩
        · exact hplace name hmem

theorem isName_of_mem_location {path name : Text} (h : name ∈ location path) : IsName name := by
  refine isName_of_mem_foldl_enter (fun component hmem => Text.notMem_of_mem_split hmem) ?_ name h
  exact fun name hname => absurd hname List.not_mem_nil

/-- Components that stay may be left out. -/
theorem location_eq (path : Text) : location path = (components path).foldl enter [] := by
  rw [components, List.foldl_filter, location]
  congr 1
  funext place component
  by_cases hstays : component = [] ∨ component = ['.']
  · rw [enter, if_pos hstays, if_neg]
    rw [Bool.and_eq_true, bne_iff_ne, bne_iff_ne]
    exact fun hkept => hstays.elim hkept.1 hkept.2
  · rw [if_pos]
    rw [Bool.and_eq_true, bne_iff_ne, bne_iff_ne]
    exact not_or.1 hstays

/-! ### Folding double dots -/

/-- The double dot that may stand behind the root. -/
def above (up : Bool) : List Text :=
  if up then [parent] else []

/-- A double dot with nothing before it stays. -/
theorem foldParents_parent (rest : List Text) :
    foldParents [] (parent :: rest) = foldParents [parent] rest := by
  rw [foldParents, if_pos rfl]

/-- A double dot takes back the component before it. -/
theorem foldParents_back (component : Text) (done rest : List Text) :
    foldParents (component :: done) (parent :: rest) = foldParents done rest := by
  rw [foldParents, if_pos rfl]

theorem foldParents_keep {component : Text} (h : component ≠ parent) (done rest : List Text) :
    foldParents done (component :: rest) = foldParents (component :: done) rest := by
  rw [foldParents.eq_def]
  exact if_neg h

/-- Without double dots there is nothing to fold. -/
theorem foldParents_names {names : List Text} (h : parent ∉ names) (done : List Text) :
    foldParents done names = done.reverse ++ names := by
  induction names generalizing done with
  | nil => rw [foldParents, List.append_nil]
  | cons name names ih =>
    rw [List.mem_cons, not_or] at h
    rw [foldParents_keep (Ne.symm h.1), ih h.2, List.reverse_cons, List.append_assoc,
      List.singleton_append]

/-- Folding keeps the names down to the place where the components lead, with a double dot above
them or not. -/
theorem foldParents_eq {components : List Text}
    (h : ∀ component ∈ components, component ≠ [] ∧ component ≠ ['.'])
    (names : List Text) (up : Bool) :
    ∃ up', foldParents (names ++ above up) components
      = above up' ++ (components.foldl enter names).reverse := by
  induction components generalizing names up with
  | nil =>
    refine ⟨up, ?_⟩
    rw [foldParents, List.reverse_append]
    cases up <;> rfl
  | cons component rest ih =>
    obtain ⟨⟨hnil, hdot⟩, hrest⟩ := List.forall_mem_cons.1 h
    rw [List.foldl_cons]
    by_cases hparent : component = parent
    · rw [hparent, enter_parent]
      -- Without a name to take back, the double dot above comes and goes.
      match names, up with
      | name :: names, up =>
        rw [List.cons_append, foldParents_back]
        exact ih hrest names up
      | [], true =>
        show ∃ up', foldParents [parent] (parent :: rest) = _
        rw [foldParents_back]
        exact ih hrest [] false
      | [], false =>
        show ∃ up', foldParents [] (parent :: rest) = _
        rw [foldParents_parent]
        exact ih hrest [] true
    · rw [foldParents_keep hparent, enter, if_neg (not_or.2 ⟨hnil, hdot⟩), if_neg hparent]
      exact ih hrest (component :: names) up

/-- The absolute path of a place, spelled with a double dot behind the root or not. -/
def spell (up : Bool) (place : List Text) : Text :=
  ofComponents true (above up ++ place.reverse)

theorem mem_components {path component : Text} (h : component ∈ components path) :
    component ≠ [] ∧ component ≠ ['.'] := by
  have hkept := (List.mem_filter.1 h).2
  rwa [Bool.and_eq_true, bne_iff_ne, bne_iff_ne] at hkept

/-- A folded path is spelled from its place. -/
theorem exists_normalize_eq {path : Text} (h : isAbsolute path = true) :
    ∃ up, normalize path = spell up (location path) := by
  have hkept : ∀ component ∈ components path, component ≠ [] ∧ component ≠ ['.'] :=
    fun _ => mem_components
  obtain ⟨up, hfold⟩ := foldParents_eq hkept [] false
  refine ⟨up, ?_⟩
  rw [normalize, h, spell, location_eq, ← hfold]
  rfl

/-! ### Spellings of a place -/

section

variable {place : List Text} (hplace : ∀ name ∈ place, IsName name) (up : Bool)
include hplace

/-- What is spelled is a double dot or a name. -/
theorem mem_above_append {component : Text} (h : component ∈ above up ++ place.reverse) :
    component = parent ∨ IsName component := by
  obtain hup | hname := List.mem_append.1 h
  · cases up with
    | true => exact .inl (List.mem_singleton.1 hup)
    | false => cases hup
  · exact .inr (hplace component (List.mem_reverse.1 hname))

/-- The root is a slash with nothing behind it, and every other path has its components there. -/
theorem split_spell :
    Text.split '/' (spell up place)
      = [] :: if above up ++ place.reverse = [] then [[]] else above up ++ place.reverse := by
  have hslash : ∀ component ∈ above up ++ place.reverse, '/' ∉ component := by
    intro component hmem
    obtain rfl | hname := mem_above_append hplace up hmem
    · decide
    · exact hname.notMem_slash
  show Text.split '/' ([] ++ '/' :: Text.join ['/'] (above up ++ place.reverse)) = _
  have hbefore : Text.split '/' [] = [[]] := rfl
  rw [Text.split_append, hbefore, List.singleton_append]
  split
  · rename_i hroot
    rw [hroot]
    rfl
  · rename_i hne
    rw [Text.split_join hne hslash]

theorem components_spell : components (spell up place) = above up ++ place.reverse := by
  have hkept : (above up ++ place.reverse).filter (fun part => part != [] && part != ['.'])
      = above up ++ place.reverse := by
    refine List.filter_eq_self.2 fun component hmem => ?_
    obtain rfl | hname := mem_above_append hplace up hmem
    · decide
    · simp [hname.ne_nil, hname.ne_dot]
  rw [components, split_spell hplace, List.filter_cons_of_neg (by decide)]
  split
  · rename_i hroot
    rw [hroot]
    rfl
  · exact hkept

/-- Whatever its spelling, the place is the same. -/
theorem location_spell : location (spell up place) = place := by
  have hnames : ∀ name ∈ place.reverse, IsName name :=
    fun name hname => hplace name (List.mem_reverse.1 hname)
  have habove : (above up).foldl enter [] = [] := by
    cases up with
    | true => exact enter_parent []
    | false => rfl
  rw [location_eq, components_spell hplace, List.foldl_append, habove,
    foldl_enter_names hnames, List.reverse_reverse, List.append_nil]

/-- There is nothing to fold in names below a double dot. -/
theorem normalize_spell : normalize (spell up place) = spell up place := by
  have hnames : parent ∉ place.reverse :=
    fun hmem => (hplace parent (List.mem_reverse.1 hmem)).ne_parent rfl
  have hfold : foldParents [] (above up ++ place.reverse) = above up ++ place.reverse := by
    cases up with
    | true =>
      show foldParents [] (parent :: place.reverse) = _
      rw [foldParents_parent, foldParents_names hnames]
      rfl
    | false => exact foldParents_names hnames []
  rw [normalize, components_spell hplace, hfold]
  rfl

theorem normal_spell : Normal (spell up place) where
  absolute := rfl
  notMem_dot := by
    rw [split_spell hplace, List.mem_cons, not_or]
    refine ⟨by decide, fun hmem => ?_⟩
    split at hmem
    · exact absurd hmem (by decide)
    · obtain hparent | hname := mem_above_append hplace up hmem
      · exact absurd hparent (by decide)
      · exact hname.ne_dot rfl
  notMem_parent := by
    rw [split_spell hplace, List.drop_succ_cons]
    intro hmem
    split at hmem
    · exact absurd hmem (by decide)
    · -- Behind the first component there are names only.
      have hname : parent ∈ place.reverse := by
        cases up with
        | true => exact hmem
        | false => exact List.mem_of_mem_drop hmem
      exact (hplace parent (List.mem_reverse.1 hname)).ne_parent rfl
  normalize_eq := normalize_spell hplace up

end

/-! ### Configured directories -/

/-- A relative path is read from the place of the directory that it is joined to. -/
theorem location_join {directory : Text} (h : isAbsolute directory = true) (path : Text) :
    location (join directory path) = location (directory ++ '/' :: path) := by
  have hne : directory ≠ [] := by
    rintro rfl
    cases h
  rw [join]
  split
  · rename_i hends
    -- The slash at the end is there already, and an empty component stays.
    obtain ⟨front, rfl⟩ := List.getLast?_eq_some_iff.1 (hends.resolve_left hne)
    have hslash : front ++ ['/'] ++ path = front ++ '/' :: path := by simp
    rw [hslash, location, location, Text.split_append, Text.split_append, Text.split_append,
      List.foldl_append, List.foldl_append, List.foldl_append]
    show _ = (Text.split '/' path).foldl enter ([[]].foldl enter _)
    rw [List.foldl_cons, enter_nil]
    rfl
  · rfl

/-- Trimming leaves nothing of white space, and only of white space. -/
theorem trim_eq_nil_iff (t : Text) : Text.trim t = [] ↔ t.all Text.isBlank = true := by
  rw [Text.trim, Text.trimEnd, Text.trimEndWhile, List.reverse_eq_nil_iff,
    List.dropWhile_eq_nil_iff, List.all_eq_true]
  constructor
  · intro h c hc
    rw [Text.trimStart] at h
    rw [← List.takeWhile_append_dropWhile (p := Text.isBlank) (l := t), List.mem_append] at hc
    obtain hstart | hrest := hc
    · exact List.mem_takeWhile_imp hstart
    · exact h c (List.mem_reverse.2 hrest)
  · intro h c hc
    exact h c ((List.dropWhile_suffix _).subset (List.mem_reverse.1 hc))

theorem standsFor_resolve {workingDirectory : Text} (h : isAbsolute workingDirectory = true)
    (entry : Text) :
    StandsFor workingDirectory entry (resolve workingDirectory (Text.trim entry)) where
  absolute habsolute := by
    rw [resolve, if_pos habsolute]
  relative hrelative := by
    have hjoined : isAbsolute (join workingDirectory (Text.trim entry)) = true := by
      obtain ⟨rest, rfl⟩ := List.head?_eq_some_iff.1 (beq_iff_eq.1 h)
      rw [join]
      split <;> rfl
    obtain ⟨up, hnormalize⟩ := exists_normalize_eq hjoined
    rw [resolve, if_neg (by simp [hrelative]), hnormalize, ← location_join h]
    have hplace : ∀ name ∈ location (join workingDirectory (Text.trim entry)), IsName name :=
      fun _ => isName_of_mem_location
    exact ⟨normal_spell hplace up, location_spell hplace up⟩

/-- The directories that a client configures, seen from the working directory. There is one path
for each entry that is not blank, in order. It is the entry itself, trimmed, where that is
absolute. A relative entry becomes an absolute path in normal form, which denotes the same place
as the entry below the working directory. -/
theorem resolveAll_denotes {workingDirectory : Text} (h : isAbsolute workingDirectory = true)
    (entries : List Text) :
    List.Forall₂ (StandsFor workingDirectory)
      (entries.filter fun entry => !entry.all Text.isBlank)
      (resolveAll workingDirectory entries) := by
  have hkept : ((· != []) ∘ Text.trim) = fun entry => !entry.all Text.isBlank := by
    funext entry
    rw [Function.comp_apply, Bool.eq_iff_iff, bne_iff_ne, Bool.not_eq_true',
      Bool.eq_false_iff, not_iff_not]
    exact trim_eq_nil_iff entry
  have hfilter : (entries.map Text.trim).filter (· != [])
      = (entries.filter fun entry => !entry.all Text.isBlank).map Text.trim := by
    rw [List.filter_map, hkept]
  rw [resolveAll, hfilter, List.map_map, List.forall₂_map_right_iff, List.forall₂_same]
  exact fun entry _ => standsFor_resolve h entry

/-- Up to the root, above it, down and up again. -/
theorem resolveAll_denotes_climbing :
    isAbsolute "/proj" = true ∧
    resolveAll "/proj" ["../shared/./emmet", "  ", " /abs/./dir ", "../../../a/../.."]
      = ["/shared/emmet", "/abs/./dir", "/.."] ∧
    List.Forall₂ (StandsFor "/proj") ["../shared/./emmet", " /abs/./dir ", "../../../a/../.."]
      ["/shared/emmet", "/abs/./dir", "/.."] := by
  have habsolute : isAbsolute "/proj" = true := rfl
  have hpaths : resolveAll "/proj" ["../shared/./emmet", "  ", " /abs/./dir ", "../../../a/../.."]
      = ["/shared/emmet", "/abs/./dir", "/.."] := by decide
  have hall := resolveAll_denotes habsolute
    ["../shared/./emmet", "  ", " /abs/./dir ", "../../../a/../.."]
  rw [hpaths] at hall
  exact ⟨habsolute, hpaths, hall⟩

end Path

end Shorthand
