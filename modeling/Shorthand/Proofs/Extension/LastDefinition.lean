import Shorthand.Engine
import Shorthand.Files.Table
import Shorthand.Proofs.Extension.Loading
import Shorthand.Proofs.Json.Distinct

/-!
# `Shorthand.Proofs.Extension.LastDefinition`: the last definition of a name counts

A load reads directories one after another, each with a file of snippets and a file of
profiles, into three tables. What is in the tables is said by the files alone: a snippet, a
variable or a key of a profile has the value that stands at its path (`Json.at?`) in the file
of the last directory that has a value there. Whatever has another shape is passed over.

The three tables are views of one state that a fold builds, entry by entry and directory by
directory. `view_foldl` is the argument they share: where each step sets a view or keeps it,
the last step that sets it counts. Inside a file no name comes twice
(`Json.distinct_ofBytes?`), so there the last field of a name is the only one
(`Dict.findSome?_reverse`), and the order of fields does not matter.

`loads_lastDefinition` adds the engine: after any loads its tables are those of the last one
that succeeded, and nothing of any other.
-/

set_option autoImplicit false

namespace Shorthand

/-! ### Folds -/

/-- A view of what a fold builds. Each step sets it or keeps it, so the last step that sets
it counts. -/
theorem view_foldl {σ ε β : Type} {step : σ → ε → σ} (view : σ → Option β)
    {write : ε → Option β} (entries : List ε)
    (hstep : ∀ entry ∈ entries, ∀ state, view (step state entry) = (write entry).or (view state))
    (state : σ) :
    view (entries.foldl step state) = (entries.reverse.findSome? write).or (view state) := by
  induction entries generalizing state with
  | nil => simp
  | cons entry rest ih =>
    have hrest := ih (fun e he => hstep e (List.mem_cons_of_mem _ he)) (step state entry)
    rw [List.foldl_cons, hrest, hstep entry List.mem_cons_self, List.reverse_cons,
      List.findSome?_append, Option.or_assoc]
    simp

/-- A view that no step of a fold touches. -/
theorem frame_foldl {σ ε β : Type} {step : σ → ε → σ} (view : σ → β)
    (hstep : ∀ state entry, view (step state entry) = view state) (entries : List ε)
    (state : σ) : view (entries.foldl step state) = view state := by
  induction entries generalizing state with
  | nil => rfl
  | cons entry rest ih => rw [List.foldl_cons, ih, hstep]

namespace Dict

variable {α β : Type}

theorem get?_eq_none {d : Dict α} {key : Text} (h : key ∉ d.keys) : d.get? key = none := by
  rw [mem_keys_iff] at h
  simpa using h

/-- Where no key comes twice, the last entry of a key is the one that a look-up finds. -/
theorem findSome?_reverse {d : Dict α} (h : d.keys.Nodup) (key : Text) (f : α → Option β) :
    d.reverse.findSome? (fun entry => if entry.1 = key then f entry.2 else none)
      = (d.get? key).bind f := by
  induction d with
  | nil => rfl
  | cons entry rest ih =>
    obtain ⟨k, v⟩ := entry
    obtain ⟨hk, hrest⟩ := List.nodup_cons.1 h
    rw [List.reverse_cons, List.findSome?_append, ih hrest, get?]
    by_cases hkey : k = key
    · subst hkey
      simp [get?_eq_none hk]
    · simp [hkey]

theorem get?_extend {d e : Dict α} (h : e.keys.Nodup) (key : Text) :
    (d.extend e).get? key = (e.get? key).or (d.get? key) := by
  have hstep : ∀ entry ∈ e, ∀ state : Dict α, (state.insert entry.1 entry.2).get? key
      = (if entry.1 = key then some entry.2 else none).or (state.get? key) := by
    intro entry _ state
    rw [get?_insert]
    split <;> rfl
  have hfold := view_foldl (fun state : Dict α => state.get? key) e hstep d
  rw [findSome?_reverse h key some, Option.bind_fun_some] at hfold
  exact hfold

end Dict

/-! ### Values in files -/

namespace Json

/-- The value at a path of field names. -/
def at? (j : Json) : List Text → Option Json
  | [] => some j
  | name :: path => (j.field? name).bind fun inner => inner.at? path

/-- The string at a path of field names. -/
def textAt? (j : Json) (path : List Text) : Option Text :=
  (j.at? path).bind text?

/-- The fields of the object at a path. -/
def fieldsAt (j : Json) (path : List Text) : Dict Json :=
  ((j.at? path).bind fields?).getD []

theorem field?_eq (j : Json) (name : Text) : j.field? name = (j.fieldsAt []).get? name := by
  cases j <;> rfl

theorem at?_concat (j : Json) (path : List Text) (name : Text) :
    j.at? (path ++ [name]) = (j.fieldsAt path).get? name := by
  induction path generalizing j with
  | nil =>
    rw [List.nil_append, at?, ← field?_eq]
    exact Option.bind_fun_some _
  | cons first path ih =>
    rw [List.cons_append, at?, fieldsAt, at?]
    cases j.field? first with
    | none => rfl
    | some inner => exact ih inner

theorem textAt?_concat (j : Json) (path : List Text) (name : Text) :
    j.textAt? (path ++ [name]) = ((j.fieldsAt path).get? name).bind text? := by
  rw [textAt?, at?_concat]

theorem textAt?_cons (fields : Dict Json) (name : Text) (path : List Text) :
    (obj fields).textAt? (name :: path) = (fields.get? name).bind fun j => j.textAt? path := by
  rw [textAt?, at?, Option.bind_assoc]
  rfl

theorem Distinct.at? {j : Json} (h : j.Distinct) {path : List Text} {value : Json}
    (hvalue : j.at? path = some value) : value.Distinct := by
  induction path generalizing j with
  | nil => exact Option.some.inj hvalue ▸ h
  | cons name path ih =>
    obtain ⟨inner, hinner, hrest⟩ := Option.bind_eq_some_iff.1 hvalue
    cases j with
    | obj fields => exact ih (h.get? hinner) hrest
    | null | bool _ | num _ | str _ | arr _ => cases hinner

theorem Distinct.fieldsAt {j : Json} (h : j.Distinct) (path : List Text) :
    (j.fieldsAt path).keys.Nodup := by
  rw [Json.fieldsAt]
  cases hvalue : j.at? path with
  | none => exact List.nodup_nil
  | some value =>
    cases value with
    | obj fields => exact (h.at? hvalue).nodup
    | null | bool _ | num _ | str _ | arr _ => exact List.nodup_nil

end Json

/-! ### What one entry sets -/

namespace Registry

theorem get?_ownSnippets_addSnippet (r : Registry) (grammar name value : Text)
    (grammar' name' : Text) :
    ((r.addSnippet grammar name value).ownSnippets grammar').get? name'
      = (if name = name' then if grammar = grammar' then some value else none else none).or
        ((r.ownSnippets grammar').get? name') := by
  rw [addSnippet, ownSnippets, Dict.get?_insert]
  by_cases hgrammar : grammar = grammar'
  · subst hgrammar
    rw [if_pos rfl, Option.getD_some, Dict.get?_insert]
    by_cases hname : name = name' <;> simp [hname]
  · simp [hgrammar, ownSnippets]

theorem get?_profile?_addProfile (r : Registry) (grammar : Text) {profile : Dict Json}
    (hprofile : profile.keys.Nodup) (grammar' key : Text) :
    ((r.addProfile grammar profile).profile? grammar').bind (·.get? key)
      = (if grammar = grammar' then profile.get? key else none).or
        ((r.profile? grammar').bind (·.get? key)) := by
  rw [addProfile, profile?, Dict.get?_insert]
  by_cases hgrammar : grammar = grammar'
  · subst hgrammar
    rw [if_pos rfl, if_pos rfl, Option.bind_some, Dict.get?_extend hprofile, profile?]
    cases Dict.get? r.profiles grammar with
    | none => rfl
    | some present => rfl
  · simp [hgrammar, profile?]

end Registry

namespace Extension

/-- Variables and snippets come from the strings of an object in the same way. -/
theorem view_foldl_textEntries {β : Type} (view : Registry → Option β)
    {add : Registry → Text → Text → Registry} {name : Text} {f : Text → Option β}
    (hadd : ∀ r name' text,
      view (add r name' text) = (if name' = name then f text else none).or (view r))
    {fields : Dict Json} (hfields : fields.keys.Nodup) (r : Registry) :
    view ((textEntries fields).foldl (fun r entry => add r entry.1 entry.2) r)
      = ((fields.get? name).bind fun value => value.text?.bind f).or (view r) := by
  rw [textEntries, List.foldl_filterMap, ← Dict.findSome?_reverse hfields]
  refine view_foldl view fields (fun entry _ r => ?_) r
  cases htext : entry.2.text? with
  | none => simp [htext]
  | some text => simp [htext, hadd]

/-- The strings of an object as variables. -/
def addVariables (r : Registry) (fields : Dict Json) : Registry :=
  (textEntries fields).foldl (fun r entry => r.addVariable entry.1 entry.2) r

/-- The strings of an object as snippets of a grammar. -/
def addGrammar (r : Registry) (grammar : Text) (fields : Dict Json) : Registry :=
  (textEntries fields).foldl (fun r entry => r.addSnippet grammar entry.1 entry.2) r

/-- A section is the strings of one object: of itself for variables, of one of its fields
for the snippets of a grammar. -/
theorem addSection_eq (r : Registry) (key : Text) (value : Json) :
    addSection r key value
      = if key = "variables".toList then addVariables r (value.fieldsAt [])
        else addGrammar r key (value.fieldsAt ["snippets"]) := by
  cases value with
  | obj fields =>
    rw [addSection]
    split
    · rfl
    · simp only [Json.fieldsAt, Json.at?, Json.field?]
      cases Dict.get? fields "snippets" with
      | none => rfl
      | some inner => cases inner <;> rfl
  | null | bool _ | num _ | str _ | arr _ => exact (ite_self r).symm

section

variable (r : Registry) (fields : Dict Json) (grammar : Text)

@[simp]
theorem snippets_addVariables : (addVariables r fields).snippets = r.snippets := by
  refine frame_foldl Registry.snippets ?_ _ r
  intro r entry
  rfl

@[simp]
theorem profiles_addVariables : (addVariables r fields).profiles = r.profiles := by
  refine frame_foldl Registry.profiles ?_ _ r
  intro r entry
  rfl

@[simp]
theorem bindings_addGrammar : (addGrammar r grammar fields).bindings = r.bindings := by
  refine frame_foldl Registry.bindings ?_ _ r
  intro r entry
  rfl

@[simp]
theorem profiles_addGrammar : (addGrammar r grammar fields).profiles = r.profiles := by
  refine frame_foldl Registry.profiles ?_ _ r
  intro r entry
  rfl

end

theorem get?_bindings_addVariables (r : Registry) {fields : Dict Json}
    (hfields : fields.keys.Nodup) (name : Text) :
    (addVariables r fields).bindings.get? name
      = ((fields.get? name).bind Json.text?).or (r.bindings.get? name) := by
  have hadd : ∀ (r : Registry) (name' text : Text), (r.addVariable name' text).bindings.get? name
      = (if name' = name then some text else none).or (r.bindings.get? name) := by
    intro r name' text
    rw [Registry.addVariable, Dict.get?_insert]
    split <;> rfl
  have hfold := view_foldl_textEntries (fun r => r.bindings.get? name) hadd hfields r
  simp only [Option.bind_fun_some] at hfold
  exact hfold

theorem get?_ownSnippets_addGrammar (r : Registry) {fields : Dict Json}
    (hfields : fields.keys.Nodup) (grammar grammar' name : Text) :
    ((addGrammar r grammar fields).ownSnippets grammar').get? name
      = (if grammar = grammar' then (fields.get? name).bind Json.text? else none).or
        ((r.ownSnippets grammar').get? name) := by
  have hfold := view_foldl_textEntries (fun r => (r.ownSnippets grammar').get? name)
    (fun r name' text => r.get?_ownSnippets_addSnippet grammar name' text grammar' name) hfields r
  by_cases hgrammar : grammar = grammar'
  · subst hgrammar
    simp only [if_true, Option.bind_fun_some] at hfold ⊢
    exact hfold
  · simp only [hgrammar, if_false, Option.bind_fun_none] at hfold ⊢
    exact hfold

section

variable (r : Registry) (key : Text) {value : Json}

/-- A section sets the snippets of its own grammar. The one of variables sets none. -/
theorem get?_ownSnippets_addSection (hvalue : value.Distinct) (grammar name : Text) :
    ((addSection r key value).ownSnippets grammar).get? name
      = (if key = grammar then
          if grammar = "variables".toList then none else value.textAt? ["snippets", name]
        else none).or ((r.ownSnippets grammar).get? name) := by
  have hpath : value.textAt? ["snippets", name] = _ := value.textAt?_concat ["snippets"] name
  rw [addSection_eq]
  by_cases hkey : key = "variables".toList
  · rw [if_pos hkey, Registry.ownSnippets, snippets_addVariables]
    by_cases hgrammar : key = grammar
    · rw [if_pos hgrammar, if_pos (hgrammar ▸ hkey)]
      rfl
    · rw [if_neg hgrammar]
      rfl
  · rw [if_neg hkey, get?_ownSnippets_addGrammar r (hvalue.fieldsAt _), hpath]
    by_cases hgrammar : key = grammar
    · rw [if_pos hgrammar, if_pos hgrammar, if_neg (hgrammar ▸ hkey)]
    · rw [if_neg hgrammar, if_neg hgrammar]

/-- The section of variables sets variables, and no other does. -/
theorem get?_bindings_addSection (hvalue : value.Distinct) (name : Text) :
    (addSection r key value).bindings.get? name
      = (if key = "variables".toList then value.textAt? [name] else none).or
        (r.bindings.get? name) := by
  have hpath : value.textAt? [name] = _ := value.textAt?_concat [] name
  rw [addSection_eq]
  split
  · rw [get?_bindings_addVariables r (hvalue.fieldsAt _), hpath]
  · rw [bindings_addGrammar]
    rfl

theorem profiles_addSection : (addSection r key value).profiles = r.profiles := by
  rw [addSection_eq]
  split <;> simp

end

/-! ### What one file sets -/

section

variable (r : Registry) {root : Dict Json} (hroot : (Json.obj root).Distinct)
include hroot

theorem get?_ownSnippets_addSnippets (grammar name : Text) :
    ((addSnippets r root).ownSnippets grammar).get? name
      = (if grammar = "variables".toList then none
        else (Json.obj root).textAt? [grammar, "snippets", name]).or
          ((r.ownSnippets grammar).get? name) := by
  have hfold := view_foldl (fun r : Registry => (r.ownSnippets grammar).get? name) root
    (fun entry hentry r =>
      get?_ownSnippets_addSection r entry.1 (hroot.entry hentry) grammar name) r
  rw [Dict.findSome?_reverse hroot.nodup grammar fun value =>
    if grammar = "variables".toList then none else value.textAt? ["snippets", name]] at hfold
  rw [Json.textAt?_cons]
  refine hfold.trans ?_
  split
  · rw [Option.bind_fun_none]
  · rfl

theorem get?_bindings_addSnippets (name : Text) :
    (addSnippets r root).bindings.get? name
      = ((Json.obj root).textAt? ["variables", name]).or (r.bindings.get? name) := by
  have hfold := view_foldl (fun r : Registry => r.bindings.get? name) root
    (fun entry hentry r => get?_bindings_addSection r entry.1 (hroot.entry hentry) name) r
  rw [Dict.findSome?_reverse hroot.nodup "variables" fun value => value.textAt? [name]] at hfold
  rw [Json.textAt?_cons]
  exact hfold

/-- A file of profiles sets the keys of the objects in it. -/
theorem get?_profile?_addProfiles (grammar key : Text) :
    ((addProfiles r root).profile? grammar).bind (·.get? key)
      = ((Json.obj root).at? [grammar, key]).or ((r.profile? grammar).bind (·.get? key)) := by
  have hpath : (Json.obj root).at? [grammar, key]
      = (root.get? grammar).bind fun value => value.at? [key] := rfl
  rw [addProfiles, hpath, ← Dict.findSome?_reverse hroot.nodup]
  refine view_foldl (fun r : Registry => (r.profile? grammar).bind (·.get? key)) root ?_ r
  rintro ⟨grammar', value⟩ hentry r
  have hvalue : value.Distinct := hroot.entry hentry
  have hat : value.at? [key] = _ := value.at?_concat [] key
  simp only [hat]
  cases value with
  | obj profile => exact r.get?_profile?_addProfile grammar' hvalue.nodup grammar key
  | null | bool _ | num _ | str _ | arr _ =>
    show _ = (if grammar' = grammar then none else none).or _
    rw [ite_self]
    rfl

end

theorem profiles_addSnippets (r : Registry) (root : Dict Json) :
    (addSnippets r root).profiles = r.profiles := by
  refine frame_foldl Registry.profiles ?_ root r
  intro r entry
  exact profiles_addSection r entry.1

theorem snippets_addProfiles (r : Registry) (root : Dict Json) :
    (addProfiles r root).snippets = r.snippets := by
  refine frame_foldl Registry.snippets ?_ root r
  intro r entry
  simp only
  split <;> rfl

theorem bindings_addProfiles (r : Registry) (root : Dict Json) :
    (addProfiles r root).bindings = r.bindings := by
  refine frame_foldl Registry.bindings ?_ root r
  intro r entry
  simp only
  split <;> rfl

/-! ### Directories -/

/-- In a file each name stands once in each object. -/
theorem distinct_contents? {files : Files} {path : Text} {value : Json}
    (h : contents? files path = some value) : value.Distinct := by
  obtain ⟨stat, -, h⟩ := Option.bind_eq_some_iff.1 h
  split at h
  · cases h
  · obtain ⟨bytes, -, hvalue⟩ := Option.bind_eq_some_iff.1 h
    exact Json.distinct_ofBytes? hvalue

theorem distinct_rootAt (files : Files) (path : Text) :
    (Json.obj (rootAt files path)).Distinct := by
  have hempty : (Json.obj []).Distinct := .obj List.nodup_nil (List.forall_mem_nil _)
  unfold rootAt
  cases hvalue : contents? files path with
  | none => exact hempty
  | some value =>
    cases value with
    | obj fields => exact distinct_contents? hvalue
    | null | bool _ | num _ | str _ | arr _ => exact hempty

/-- Below its top, a file has what its object has. -/
theorem at?_rootAt (files : Files) (path name : Text) (inner : List Text) :
    (Json.obj (rootAt files path)).at? (name :: inner)
      = (contents? files path).bind (·.at? (name :: inner)) := by
  unfold rootAt
  cases contents? files path with
  | none => rfl
  | some value => cases value <;> rfl

theorem textAt?_rootAt (files : Files) (path name : Text) (inner : List Text) :
    (Json.obj (rootAt files path)).textAt? (name :: inner)
      = (contents? files path).bind (·.textAt? (name :: inner)) := by
  simp only [Json.textAt?, at?_rootAt, Option.bind_assoc]

/-- What stands at a place of one file in the last directory that has it there. -/
def lastOf {β : Type} (files : Files) (file : Text) (place : Json → Option β)
    (directories : List Text) : Option β :=
  directories.reverse.findSome? fun directory =>
    (contents? files (Path.join directory file)).bind place

section

variable {files : Files} {directories : List Text} {registry : Registry}
  (h : load files directories = .ok registry)
include h

/-- A view that starts empty and that each directory sets from one place of one file. -/
theorem view_load {β : Type} (view : Registry → Option β) (hempty : view {} = none)
    {file : Text} (place : Json → Option β)
    (hstep : ∀ directory r, view (addDirectory files r directory)
      = ((contents? files (Path.join directory file)).bind place).or (view r)) :
    view registry = lastOf files file place directories := by
  have hfold := view_foldl view directories (fun directory _ => hstep directory) {}
  rw [← ((load_eq_ok_iff files directories registry).1 h).2, hempty, Option.or_none] at hfold
  exact hfold

theorem get?_ownSnippets_load (grammar name : Text) :
    (registry.ownSnippets grammar).get? name
      = if grammar = "variables".toList then none
        else lastOf files snippetsFile (·.textAt? [grammar, "snippets", name]) directories := by
  have hload := view_load h (fun r => (r.ownSnippets grammar).get? name) rfl
    (fun root => if grammar = "variables".toList then none
      else root.textAt? [grammar, "snippets", name])
    fun directory r => by
      rw [addDirectory, Registry.ownSnippets, snippets_addProfiles]
      refine (get?_ownSnippets_addSnippets r (distinct_rootAt files _) grammar name).trans ?_
      split
      · rw [Option.bind_fun_none]
      · rw [textAt?_rootAt]
  refine hload.trans ?_
  by_cases hgrammar : grammar = "variables".toList
  · simp only [hgrammar, if_true, lastOf, Option.bind_fun_none]
    exact List.findSome?_eq_none_iff.2 fun _ _ => rfl
  · simp only [hgrammar, if_false]

theorem get?_bindings_load (name : Text) :
    registry.bindings.get? name
      = lastOf files snippetsFile (·.textAt? ["variables", name]) directories := by
  refine view_load h (fun r => r.bindings.get? name) rfl _ fun directory r => ?_
  rw [addDirectory, bindings_addProfiles, ← textAt?_rootAt]
  exact get?_bindings_addSnippets r (distinct_rootAt files _) name

theorem get?_profile?_load (grammar key : Text) :
    (registry.profile? grammar).bind (·.get? key)
      = lastOf files profilesFile (·.at? [grammar, key]) directories := by
  refine view_load h (fun r => (r.profile? grammar).bind (·.get? key)) rfl _ fun directory r => ?_
  rw [addDirectory, get?_profile?_addProfiles _ (distinct_rootAt files _), at?_rootAt,
    Registry.profile?, profiles_addSnippets]
  rfl

end

end Extension

namespace Engine

/-! ### Loads one after another -/

/-- A load that fails. -/
def Fails (call : Files × List Text) : Prop :=
  ∃ e, Extension.load call.1 call.2 = .error e

theorem fails_iff (files : Files) (directories : List Text) :
    Fails (files, directories) ↔
      ∃ directory ∈ directories, ¬Extension.IsLoadable files directory := by
  have hok := Extension.exists_load_eq_ok_iff files directories
  simp only [Fails, ← exists_prop, ← Classical.not_forall, ← hok]
  cases hload : Extension.load files directories with
  | error e => simp
  | ok registry => simp

/-- After several loads an engine is as it was, because all of them failed, or has the tables
of one that succeeded with none after it that did. -/
theorem loads_cases (engine : Engine) (calls : List (Files × List Text)) :
    ((∀ call ∈ calls, Fails call) ∧ engine.loads calls = engine) ∨
    ∃ before files directories after registry,
      calls = before ++ (files, directories) :: after ∧ (∀ call ∈ after, Fails call) ∧
      Extension.load files directories = .ok registry ∧ engine.loads calls = { registry } := by
  induction calls generalizing engine with
  | nil => exact .inl ⟨List.forall_mem_nil _, rfl⟩
  | cons call rest ih =>
    obtain ⟨files, directories⟩ := call
    have hloads : engine.loads ((files, directories) :: rest)
        = (engine.load files directories).1.loads rest := rfl
    obtain ⟨hfail, hrest⟩ | ⟨before, files', directories', after, registry, rfl, hafter, hload,
      hrest⟩ := ih (engine.load files directories).1
    · -- No later load succeeds, so this one decides.
      rw [hloads, hrest, load]
      cases hload : Extension.load files directories with
      | ok registry =>
        exact .inr ⟨[], files, directories, rest, registry, rfl, hfail, hload, rfl⟩
      | error e => exact .inl ⟨List.forall_mem_cons.2 ⟨⟨e, hload⟩, hfail⟩, rfl⟩
    · exact .inr ⟨(files, directories) :: before, files', directories', after, registry, rfl,
        hafter, hload, hloads.trans hrest⟩

/-- After any loads, each over its own files and directories, an engine has the tables of the
last one that succeeded, and empty tables if none did. A load succeeds if all its directories
can be taken.

In these tables the last definition of a name counts. A grammar's own snippet is the string at
`grammar.snippets.name` in the file of snippets of the last directory that has one there, a
variable is the string at `variables.name`, and a key of a profile is what stands at
`grammar.key` in the file of profiles. In none of these files does a name stand twice in an
object, so the order of fields does not matter. Behind a grammar's own snippets stand those of
its base. -/
theorem loads_lastDefinition (calls : List (Files × List Text)) :
    let registry := (({} : Engine).loads calls).registry
    (∀ files directories, Fails (files, directories) ↔
      ∃ directory ∈ directories, ¬Extension.IsLoadable files directory) ∧
    (((∀ call ∈ calls, Fails call) ∧ registry = {}) ∨
    ∃ before files directories after,
      calls = before ++ (files, directories) :: after ∧ (∀ call ∈ after, Fails call) ∧
      Extension.load files directories = .ok registry ∧
      (∀ grammar name, (registry.ownSnippets grammar).get? name
        = if grammar = "variables".toList then none
          else Extension.lastOf files Extension.snippetsFile
            (·.textAt? [grammar, "snippets", name]) directories) ∧
      (∀ name, registry.bindings.get? name
        = Extension.lastOf files Extension.snippetsFile
            (·.textAt? ["variables", name]) directories) ∧
      (∀ grammar key, (registry.profile? grammar).bind (·.get? key)
        = Extension.lastOf files Extension.profilesFile (·.at? [grammar, key]) directories) ∧
      (∀ path value, Extension.contents? files path = some value → value.Distinct) ∧
      (∀ grammar name, registry.snippet? grammar name
        = ((registry.ownSnippets grammar).get? name).or
          ((registry.ownSnippets (Grammar.base grammar)).get? name))) := by
  intro registry
  refine ⟨fails_iff, ?_⟩
  obtain ⟨hfail, hloads⟩ | ⟨before, files, directories, after, loaded, hcalls, hafter, hload,
    hloads⟩ := loads_cases {} calls
  · left
    exact ⟨hfail, congrArg Engine.registry hloads⟩
  · right
    have hregistry : registry = loaded := congrArg Engine.registry hloads
    rw [← hregistry] at hload
    exact ⟨before, files, directories, after, hcalls, hafter, hload,
      Extension.get?_ownSnippets_load hload, Extension.get?_bindings_load hload,
      Extension.get?_profile?_load hload, fun _ _ => Extension.distinct_contents?,
      fun _ _ => rfl⟩

/-- Two directories. The second one has a snippet over one of the first, a value that is no
snippet, and a file of profiles. -/
def overlaid : FileTable where
  directories := ["/a", "/b"]
  files := [
    ("/a/snippets.json", some (Text.toUtf8
      "\x7b\"variables\": \x7b\"v\": \"1\"\x7d,
        \"html\": \x7b\"snippets\": \x7b\"x\": \"p\", \"y\": \"ul\"\x7d\x7d\x7d")),
    ("/b/snippets.json", some (Text.toUtf8
      "\x7b\"html\": \x7b\"snippets\": \x7b\"x\": \"em\", \"y\": 1\x7d\x7d\x7d")),
    ("/b/syntaxProfiles.json", some (Text.toUtf8
      "\x7b\"xml\": \x7b\"indent\": \"tab\"\x7d, \"css\": 1\x7d"))]

theorem loads_lastDefinition_overlaid :
    let registry := (({} : Engine).loads
      [(overlaid.toFiles, ["/a", "/b"]), (overlaid.toFiles, ["/a", "/c"])]).registry
    Fails (overlaid.toFiles, ["/a", "/c"]) ∧
    (registry.ownSnippets "html").get? "x" = some "em".toList ∧
    (registry.ownSnippets "html").get? "y" = some "ul".toList ∧
    registry.snippet? "xml" "x" = some "em".toList ∧
    registry.bindings.get? "v" = some "1".toList ∧
    ((registry.profile? "xml").bind (·.get? "indent")).bind Json.text? = some "tab".toList := by
  have hmissing : Fails (overlaid.toFiles, ["/a", "/c"]) := by
    refine ((loads_lastDefinition []).1 _ _).2 ⟨"/c", by simp, fun h => ?_⟩
    obtain ⟨stat, hstat, htype⟩ := h.isDirectory
    obtain rfl : FileStat.missing = stat := Option.some.inj hstat
    cases htype
  have hfound : ¬Fails (overlaid.toFiles, ["/a", "/b"]) := by
    rintro ⟨e, he⟩
    have hok : (Extension.load overlaid.toFiles ["/a", "/b"]).isOk = true := by decide +kernel
    rw [he] at hok
    cases hok
  have hlast := (loads_lastDefinition
    [(overlaid.toFiles, ["/a", "/b"]), (overlaid.toFiles, ["/a", "/c"])]).2
  dsimp only at hlast ⊢
  generalize (({} : Engine).loads _).registry = registry at hlast ⊢
  obtain ⟨hfails, -⟩ | ⟨before, files, directories, after, hcalls, -, hload, hsnippets,
    hbindings, hprofiles, -, hbase⟩ := hlast
  · exact absurd (hfails _ List.mem_cons_self) hfound
  -- The second load fails, so the tables are those of the first.
  obtain _ | ⟨first, _ | ⟨second, before⟩⟩ := before
  · obtain ⟨hcall, -⟩ := List.cons.inj hcalls
    cases hcall
    have hbaseXml : Grammar.base "xml" = "html".toList := by decide
    have hx : (registry.ownSnippets "html").get? "x" = some "em".toList := by
      rw [hsnippets]
      decide +kernel
    refine ⟨hmissing, hx, ?_, ?_, ?_, ?_⟩
    · rw [hsnippets]
      decide +kernel
    · rw [hbase, hbaseXml, hsnippets "xml", hx]
      decide +kernel
    · rw [hbindings]
      decide +kernel
    · rw [hprofiles]
      decide +kernel
  · obtain ⟨-, hrest⟩ := List.cons.inj hcalls
    obtain ⟨hcall, -⟩ := List.cons.inj hrest
    cases hcall
    obtain ⟨e, he⟩ := hmissing
    cases he.symm.trans hload
  · simp at hcalls

end Engine

end Shorthand
