import Shorthand.Extension

/-!
# `Shorthand.Proofs.Extension.Loading`: when a load succeeds, and with what

A load asks the file system about each directory and its two files. What it makes of the
answers is said here by the answers alone: `contents?` is the value in a file, and
`IsLoadable` holds of a directory that is there and whose files can be read. Each function of
a load has one lemma that says when it succeeds and with what, from one file
(`readObject_eq_ok_iff`) to all directories (`load_eq_ok_iff`).

Directories are taken or refused one by one, whatever was loaded before, so a fold over them
that may fail is a test of all and a plain fold (`foldlM_eq_ok_iff`).
-/

set_option autoImplicit false

namespace Shorthand

theorem Except.bind_eq_ok_iff {ε α β : Type} {first : Except ε α} {next : α → Except ε β}
    {result : β} : first >>= next = .ok result ↔ ∃ a, first = .ok a ∧ next a = .ok result := by
  cases first with
  | error e => simp [bind, Except.bind]
  | ok a => simp [bind, Except.bind]

/-- A fold of steps that may fail. If a step succeeds on the entries that it can take, and
depends on nothing else, then so does the fold. -/
theorem foldlM_eq_ok_iff {σ ε α : Type} {step : σ → α → Except ε σ} {plain : σ → α → σ}
    {Takes : α → Prop}
    (hstep : ∀ state entry result,
      step state entry = .ok result ↔ Takes entry ∧ result = plain state entry)
    (entries : List α) (state result : σ) :
    entries.foldlM step state = .ok result ↔
      (∀ entry ∈ entries, Takes entry) ∧ result = entries.foldl plain state := by
  induction entries generalizing state with
  | nil =>
    simp only [List.foldlM_nil, List.foldl_nil, pure, Except.pure, Except.ok.injEq]
    exact ⟨fun h => ⟨List.forall_mem_nil _, h.symm⟩, fun h => h.2.symm⟩
  | cons entry rest ih =>
    rw [List.foldlM_cons, Except.bind_eq_ok_iff, List.forall_mem_cons, List.foldl_cons]
    constructor
    · rintro ⟨next, hfirst, hrest⟩
      obtain ⟨htakes, rfl⟩ := (hstep state entry next).1 hfirst
      obtain ⟨hall, hresult⟩ := (ih _).1 hrest
      exact ⟨⟨htakes, hall⟩, hresult⟩
    · rintro ⟨⟨htakes, hall⟩, hresult⟩
      exact ⟨_, (hstep state entry _).2 ⟨htakes, rfl⟩, (ih _).2 ⟨hall, hresult⟩⟩

namespace Extension

/-! ### Files -/

/-- The value in a file, if there is one at that path and its bytes are JSON. -/
def contents? (files : Files) (path : Text) : Option Json :=
  (files.stat (filePath path)).bind fun stat =>
    if stat.type = .unknown then none else (files.read (filePath path)).bind Json.ofBytes?

/-- An optional file that does not stop a load: the search for it ends, and what it finds can
be read and is JSON. -/
def IsReadable (files : Files) (path : Text) : Prop :=
  ∃ stat, files.stat (filePath path) = some stat ∧
    (stat.type ≠ .unknown →
      ∃ bytes value, files.read (filePath path) = some bytes ∧ Json.ofBytes? bytes = some value)

/-- The object in a file. Where there is none it is empty. -/
def rootAt (files : Files) (path : Text) : Dict Json :=
  ((contents? files path).bind Json.fields?).getD []

theorem readObject_eq_ok_iff (files : Files) (path : Text) (root : Dict Json) :
    readObject files path = .ok root ↔ IsReadable files path ∧ root = rootAt files path := by
  unfold readObject Files.statAt Files.readAt IsReadable rootAt contents?
  cases hstat : files.stat (filePath path) with
  | none => simp
  | some stat =>
    by_cases htype : stat.type = .unknown
    · simp [htype, eq_comm]
    · cases hread : files.read (filePath path) with
      | none => simp [htype]
      | some bytes =>
        cases hvalue : Json.ofBytes? bytes with
        | none => simp [htype, hvalue]
        | some value => simp [htype, hvalue, eq_comm (b := root)]

/-! ### Directories -/

/-- A directory that a load can take: it is there, under an absolute path, and its two files
do not stop the load. -/
structure IsLoadable (files : Files) (directory : Text) : Prop where
  absolute : Path.isAbsolute directory = true
  isDirectory : ∃ stat, files.stat (directoryPath directory) = some stat ∧ stat.type = .directory
  snippets : IsReadable files (Path.join directory snippetsFile)
  profiles : IsReadable files (Path.join directory profilesFile)

theorem checkDirectory_eq_ok_iff (files : Files) (directory : Text) :
    checkDirectory files directory = .ok () ↔
      Path.isAbsolute directory = true ∧
      ∃ stat, files.stat (directoryPath directory) = some stat ∧ stat.type = .directory := by
  unfold checkDirectory Files.statAt
  cases Path.isAbsolute directory with
  | false => simp
  | true =>
    cases files.stat (directoryPath directory) with
    | none => simp
    | some stat => by_cases htype : stat.type = .directory <;> simp [htype]

/-- The files of a directory added to tables. -/
def addDirectory (files : Files) (r : Registry) (directory : Text) : Registry :=
  addProfiles (addSnippets r (rootAt files (Path.join directory snippetsFile)))
    (rootAt files (Path.join directory profilesFile))

theorem loadDirectory_eq_ok_iff (files : Files) (r : Registry) (directory : Text)
    (result : Registry) :
    loadDirectory files r directory = .ok result ↔
      IsLoadable files directory ∧ result = addDirectory files r directory := by
  have hcheck := checkDirectory_eq_ok_iff files directory
  have hsnippets := readObject_eq_ok_iff files (Path.join directory snippetsFile)
  have hprofiles := readObject_eq_ok_iff files (Path.join directory profilesFile)
  constructor
  · intro h
    -- Each of the three steps has succeeded.
    obtain ⟨⟨⟩, hdirectory, h⟩ := Except.bind_eq_ok_iff.1 h
    obtain ⟨snippets, hread, h⟩ := Except.bind_eq_ok_iff.1 h
    obtain ⟨profiles, hread', h⟩ := Except.bind_eq_ok_iff.1 h
    obtain ⟨habsolute, hstat⟩ := hcheck.1 hdirectory
    obtain ⟨hreadable, rfl⟩ := (hsnippets snippets).1 hread
    obtain ⟨hreadable', rfl⟩ := (hprofiles profiles).1 hread'
    exact ⟨⟨habsolute, hstat, hreadable, hreadable'⟩, (Except.ok.inj h).symm⟩
  · rintro ⟨hloadable, rfl⟩
    unfold loadDirectory
    rw [hcheck.2 ⟨hloadable.absolute, hloadable.isDirectory⟩,
      (hsnippets _).2 ⟨hloadable.snippets, rfl⟩, (hprofiles _).2 ⟨hloadable.profiles, rfl⟩]
    rfl

/-- A load succeeds if it can take every directory, and then it has added them in order. -/
theorem load_eq_ok_iff (files : Files) (directories : List Text) (registry : Registry) :
    load files directories = .ok registry ↔
      (∀ directory ∈ directories, IsLoadable files directory) ∧
      registry = directories.foldl (addDirectory files) {} :=
  foldlM_eq_ok_iff (loadDirectory_eq_ok_iff files) directories {} registry

theorem exists_load_eq_ok_iff (files : Files) (directories : List Text) :
    (∃ registry, load files directories = .ok registry) ↔
      ∀ directory ∈ directories, IsLoadable files directory := by
  simp [load_eq_ok_iff]

end Extension

end Shorthand
