import Shorthand.Session

/-!
# `Shorthand.Proofs.Session.RoundTrip`: a session and its flat object

A session is written as one flat object, in which two fields of its own, seven of the settings
inside it and all that nobody knows stand side by side. Reading takes the object apart again.

`Reads fields session` says field by field what reading takes from an object, and
`ofJson?_eq_some_iff` that this is all reading does. The rest follows from it:

- what is written is read back (`ofJson?_toJson`);
- an object is read if and only if each known field in it is null or has its type
  (`exists_reads_iff`), so one field of a wrong type makes the whole unreadable;
- unknown fields come through unchanged (`Reads.field?_toJson`), and a known field that is
  absent or null takes its default (`Reads.takesDefaults`).

`flatObject_roundTrip` puts these together for both ways in which a session arrives.
-/

set_option autoImplicit false

namespace Shorthand

/-- A key that the first table has not is looked up in the second. -/
theorem Dict.get?_append {α : Type} {d e : Dict α} {key : Text} (h : key ∉ d.keys) :
    Dict.get? (d ++ e) key = e.get? key := by
  induction d with
  | nil => rfl
  | cons entry rest ih =>
    have hentry : ¬ entry.1 = key ∧ key ∉ Dict.keys rest := by
      simpa [Dict.keys, eq_comm] using h
    rw [List.cons_append, Dict.get?, if_neg hentry.1, ih hentry.2]

namespace Json

/-! ### What the decoders of fields accept -/

theorem text?_eq_some_iff {j : Json} {t : Text} : j.text? = some t ↔ j = str t := by
  cases j <;> simp [text?]

theorem bool?_eq_some_iff {j : Json} {b : Bool} : j.bool? = some b ↔ j = bool b := by
  cases j <;> simp [bool?]

theorem fields?_eq_some_iff {j : Json} {fields : Dict Json} :
    j.fields? = some fields ↔ j = obj fields := by
  cases j <;> simp [fields?]

/-- A list is decoded item by item, so it is the list of the encoded items. -/
theorem mapM_eq_some_iff {α β : Type} {decode : α → Option β} {encode : β → α}
    (h : ∀ {a b}, decode a = some b ↔ a = encode b) {items : List α} {results : List β} :
    items.mapM decode = some results ↔ items = results.map encode := by
  induction items generalizing results with
  | nil => cases results <;> simp
  | cons item rest ih =>
    cases results with
    | nil => simp [List.mapM_cons, Option.bind_eq_some_iff]
    | cons result results => simp [List.mapM_cons, Option.bind_eq_some_iff, h, ih]

theorem texts?_eq_some_iff {j : Json} {texts : List Text} :
    j.texts? = some texts ↔ j = arr (texts.map str) := by
  cases j <;> simp [texts?, items?, mapM_eq_some_iff text?_eq_some_iff]

theorem textFields?_eq_some_iff {j : Json} {table : Dict Text} :
    j.textFields? = some table ↔ j = ofTexts table := by
  have hentry : ∀ {entry : Text × Json} {result : Text × Text},
      (entry.2.text?.map fun text => (entry.1, text)) = some result
        ↔ entry = (result.1, str result.2) := by
    rintro ⟨name, value⟩ ⟨name', text⟩
    simp only [Option.map_eq_some_iff, text?_eq_some_iff, Prod.mk.injEq]
    constructor
    · rintro ⟨_, rfl, rfl, rfl⟩
      exact ⟨rfl, rfl⟩
    · rintro ⟨rfl, rfl⟩
      exact ⟨text, rfl, rfl, rfl⟩
  cases j with
  | obj fields =>
    show fields.mapM (fun entry => entry.2.text?.map fun text => (entry.1, text)) = some table
      ↔ obj fields = ofTexts table
    rw [mapM_eq_some_iff hentry, ofTexts, obj.injEq]
  | null | bool _ | num _ | str _ | arr _ => simp [textFields?, fields?, ofTexts]

/-! ### Fields of an object -/

/-- A field that is absent or null. -/
def Unset (fields : Dict Json) (name : Text) : Prop :=
  fields.get? name = none ∨ fields.get? name = some null

section

variable {α : Type} {fields : Dict Json} {name : Text} {absent : α} {decode : Json → Option α}

theorem fieldOr_of_unset (h : Unset fields name) :
    fieldOr fields name absent decode = some absent := by
  unfold fieldOr
  rcases h with h | h <;> rw [h]

theorem eq_absent_of_unset {result : α} (hread : fieldOr fields name absent decode = some result)
    (h : Unset fields name) : result = absent := by
  rw [fieldOr_of_unset h] at hread
  exact (Option.some.inj hread).symm

theorem fieldOr_of_get? {value : Json} (h : fields.get? name = some value) (hnull : value ≠ null) :
    fieldOr fields name absent decode = decode value := by
  unfold fieldOr
  rw [h]
  cases value with
  | null => exact absurd rfl hnull
  | bool _ | num _ | str _ | arr _ | obj _ => rfl

/-- A field is read if it is absent or null, or has a value that the decoder accepts. -/
theorem exists_fieldOr_iff (absent : α) {Fits : Json → Prop}
    (hfits : ∀ value, (∃ result, decode value = some result) ↔ Fits value) :
    (∃ result, fieldOr fields name absent decode = some result)
      ↔ ∀ value, fields.get? name = some value → value = null ∨ Fits value := by
  cases hvalue : fields.get? name with
  | none =>
    simp [fieldOr_of_unset (.inl hvalue)]
  | some value =>
    by_cases hnull : value = null
    · subst hnull
      simp [fieldOr_of_unset (.inr hvalue)]
    · rw [fieldOr_of_get? hvalue hnull, hfits]
      simp [hnull]

end

theorem get?_without (names : List String) (fields : Dict Json) (name : Text) :
    (without names fields).get? name
      = if Text.oneOf names name then none else fields.get? name := by
  induction fields with
  | nil => simp [without, Dict.get?]
  | cons entry rest ih =>
    obtain ⟨key, value⟩ := entry
    have hcons : without names ((key, value) :: rest)
        = if Text.oneOf names key then without names rest
          else (key, value) :: without names rest := by
      unfold without
      cases hkey : Text.oneOf names key <;> simp [hkey]
    rw [hcons, Dict.get?]
    by_cases hname : key = name
    · subst hname
      by_cases hkey : Text.oneOf names key
      · rw [if_pos hkey, if_pos hkey, ih, if_pos hkey]
      · rw [if_neg hkey, if_neg hkey, Dict.get?, if_pos rfl, if_pos rfl]
    · rw [if_neg hname, ← ih]
      by_cases hkey : Text.oneOf names key
      · rw [if_pos hkey]
      · rw [if_neg hkey, Dict.get?, if_neg hname]

theorem fieldOr_without {α : Type} {names : List String} {fields : Dict Json} {name : Text}
    {absent : α} {decode : Json → Option α} (h : Text.oneOf names name = false) :
    fieldOr (without names fields) name absent decode = fieldOr fields name absent decode := by
  unfold fieldOr
  rw [get?_without, h, if_neg Bool.false_ne_true]

theorem without_append (names : List String) (fields more : Dict Json) :
    without names (fields ++ more) = without names fields ++ without names more :=
  List.filter_append ..

theorem without_eq_self {names : List String} {fields : Dict Json}
    (h : ∀ name ∈ fields.keys, Text.oneOf names name = false) : without names fields = fields := by
  refine List.filter_eq_self.2 fun entry hentry => ?_
  simp [h entry.1 (List.mem_map.2 ⟨entry, hentry, rfl⟩)]

end Json

theorem ShowExpanded.ofName?_eq_some_iff {t : Text} {value : ShowExpanded} :
    ofName? t = some value ↔ t = value.name := by
  constructor
  · intro h
    unfold ofName? at h
    have hname := List.find?_some h
    exact (eq_of_beq hname).symm
  · rintro rfl
    cases value <;> decide

theorem ShowExpanded.ofJson?_eq_some_iff {j : Json} {value : ShowExpanded} :
    ofJson? j = some value ↔ j = .str value.name ∨ j = .obj [(value.name, .null)] := by
  unfold ofJson?
  split
  · simp [ofName?_eq_some_iff]
  · simp [ofName?_eq_some_iff]
  · rename_i hstr hobj
    simp only [reduceCtorEq, false_iff, not_or]
    exact ⟨fun h => hstr _ h, fun h => hobj _ h⟩

namespace Session

/-! ### Known fields -/

/-- The type that a known field has. -/
inductive FieldType where
  | choice
  | flag
  | object
  | textTable
  | textList

/-- A value has the type. A choice may also stand as the one field of an object, with null in
it. -/
def FieldType.Fits : FieldType → Json → Prop
  | choice, j => ∃ value : ShowExpanded, j = .str value.name ∨ j = .obj [(value.name, .null)]
  | flag, j => ∃ value, j = .bool value
  | object, j => ∃ fields, j = .obj fields
  | textTable, j => ∃ table, j = Json.ofTexts table
  | textList, j => ∃ texts : List Text, j = .arr (texts.map .str)

/-- The fields that have a meaning, to the session itself or to the settings in it. -/
def fieldTypes : List (String × FieldType) :=
  [("extensionsPath", .textList),
    ("includeLanguages", .textTable),
    ("showExpandedAbbreviation", .choice),
    ("showAbbreviationSuggestions", .flag),
    ("showSuggestionsAsSnippets", .flag),
    ("syntaxProfiles", .object),
    ("variables", .textTable),
    ("preferences", .object),
    ("excludeLanguages", .textList)]

/-- No known field has the name. -/
def IsUnknown (name : Text) : Prop :=
  ∀ entry ∈ fieldTypes, name ≠ entry.1.toList

instance (name : Text) : Decidable (IsUnknown name) :=
  inferInstanceAs (Decidable (∀ entry ∈ fieldTypes, name ≠ entry.1.toList))

theorem isUnknown_iff {name : Text} :
    IsUnknown name ↔ Text.oneOf (knownFields ++ Settings.knownFields) name = false := by
  have hnames : knownFields ++ Settings.knownFields = fieldTypes.map Prod.fst := rfl
  rw [hnames, Text.oneOf, List.any_map, List.any_eq_false]
  simp only [IsUnknown, Function.comp_apply, beq_iff_eq, ne_comm, ne_eq]

/-- The two levels of reading leave the unknown fields. -/
theorem without_without (fields : Dict Json) :
    Json.without Settings.knownFields (Json.without knownFields fields)
      = Json.without (knownFields ++ Settings.knownFields) fields := by
  unfold Json.without
  rw [List.filter_filter]
  congr 1
  funext entry
  simp [Text.oneOf, List.any_append, Bool.and_comm]

/-! ### What reading takes from an object -/

/-- The session has the values of the fields, or their defaults, and all unknown fields. -/
structure Reads (fields : Dict Json) (session : Session) : Prop where
  extensionsPath :
    Json.fieldOr fields "extensionsPath" [] Json.texts? = some session.extensionsPath
  includeLanguages :
    Json.fieldOr fields "includeLanguages" [] Json.textFields? = some session.includeLanguages
  showExpanded :
    Json.fieldOr fields "showExpandedAbbreviation" .always ShowExpanded.ofJson?
      = some session.settings.showExpanded
  showSuggestions :
    Json.fieldOr fields "showAbbreviationSuggestions" true Json.bool?
      = some session.settings.showSuggestions
  suggestionsAsSnippets :
    Json.fieldOr fields "showSuggestionsAsSnippets" false Json.bool?
      = some session.settings.suggestionsAsSnippets
  profiles :
    Json.fieldOr fields "syntaxProfiles" [] Json.fields? = some session.settings.profiles
  bindings :
    Json.fieldOr fields "variables" [] Json.textFields? = some session.settings.bindings
  preferences :
    Json.fieldOr fields "preferences" [] Json.fields? = some session.settings.preferences
  excludedLanguages :
    Json.fieldOr fields "excludeLanguages" [] Json.texts?
      = some session.settings.excludedLanguages
  extra :
    session.settings.extra = Json.without (knownFields ++ Settings.knownFields) fields

/-- The settings are read without the session's own fields, which are none of theirs. -/
theorem fieldOr_settings {α : Type} {fields : Dict Json} {name : String} {absent : α}
    {decode : Json → Option α} (h : name ∈ Settings.knownFields) :
    Json.fieldOr (Json.without knownFields fields) name absent decode
      = Json.fieldOr fields name absent decode := by
  refine Json.fieldOr_without ?_
  revert name
  decide

theorem ofJson?_eq_some_iff {fields : Dict Json} {session : Session} :
    ofJson? (.obj fields) = some session ↔ Reads fields session := by
  simp (disch := decide) only [ofJson?, Json.fields?, Settings.ofFields?, bind, pure,
    Option.bind_eq_some_iff, Option.some.injEq, without_without, fieldOr_settings]
  constructor
  · rintro ⟨_, rfl, settings, ⟨_, h₁, _, h₂, _, h₃, _, h₄, _, h₅, _, h₆, _, h₇, rfl⟩,
      _, h₈, _, h₉, rfl⟩
    exact ⟨h₈, h₉, h₁, h₂, h₃, h₄, h₅, h₆, h₇, rfl⟩
  · intro h
    refine ⟨fields, rfl, session.settings, ⟨_, h.showExpanded, _, h.showSuggestions, _,
      h.suggestionsAsSnippets, _, h.profiles, _, h.bindings, _, h.preferences, _,
      h.excludedLanguages, ?_⟩, _, h.extensionsPath, _, h.includeLanguages, rfl⟩
    rw [← h.extra]

/-! ### Writing and reading back -/

/-- The known fields stand in front, as they do where there is no other. -/
theorem exists_front (session : Session) : ∃ front : Dict Json,
    front.keys = fieldTypes.map (fun entry => entry.1.toList) ∧
    session.toJson = .obj (front ++ session.settings.extra) := by
  obtain ⟨front, -, hkeys, hfront⟩ : ∃ front : Dict Json,
      toJson { session with settings := { session.settings with extra := [] } } = .obj front ∧
      front.keys = fieldTypes.map (fun entry => entry.1.toList) ∧
      session.toJson = .obj (front ++ session.settings.extra) := ⟨_, rfl, rfl, rfl⟩
  exact ⟨front, hkeys, hfront⟩

/-- Reading leaves none of them to the further fields. -/
theorem without_front {front : Dict Json}
    (h : front.keys = fieldTypes.map (fun entry => entry.1.toList)) :
    Json.without (knownFields ++ Settings.knownFields) front = [] := by
  refine List.filter_eq_nil_iff.2 ?_
  intro entry hentry
  have hknown : ¬ IsUnknown entry.1 := by
    have hmem : entry.1 ∈ front.keys := List.mem_map.2 ⟨entry, hentry, rfl⟩
    rw [h, List.mem_map] at hmem
    obtain ⟨known, hmem, hname⟩ := hmem
    intro hunknown
    exact hunknown known hmem hname.symm
  simpa [isUnknown_iff] using hknown

/-- What is written is read back, if no further field has the name of a known one. -/
theorem ofJson?_toJson {session : Session}
    (h : ∀ name ∈ session.settings.extra.keys, IsUnknown name) :
    ofJson? session.toJson = some session := by
  rw [toJson, ofJson?_eq_some_iff]
  -- Each known field is found under its name, and its decoder takes what was written.
  constructor
  case extensionsPath | excludedLanguages =>
    exact (Json.fieldOr_of_get? rfl (by nofun)).trans (Json.texts?_eq_some_iff.2 rfl)
  case includeLanguages | bindings =>
    exact (Json.fieldOr_of_get? rfl (by nofun)).trans (Json.textFields?_eq_some_iff.2 rfl)
  case showExpanded =>
    exact (Json.fieldOr_of_get? rfl (by nofun)).trans
      (ShowExpanded.ofJson?_eq_some_iff.2 (.inl rfl))
  case showSuggestions | suggestionsAsSnippets =>
    exact (Json.fieldOr_of_get? rfl (by nofun)).trans (Json.bool?_eq_some_iff.2 rfl)
  case profiles | preferences =>
    exact (Json.fieldOr_of_get? rfl (by nofun)).trans (Json.fields?_eq_some_iff.2 rfl)
  case extra =>
    obtain ⟨front, hkeys, hfront⟩ := exists_front session
    rw [Json.obj.inj hfront, Json.without_append, without_front hkeys, List.nil_append]
    exact (Json.without_eq_self fun name hname => isUnknown_iff.1 (h name hname)).symm

/-- The unknown fields that reading keeps have no name of a known one. -/
theorem Reads.isUnknown {fields : Dict Json} {session : Session} (h : Reads fields session) :
    ∀ name ∈ session.settings.extra.keys, IsUnknown name := by
  intro name hname
  rw [h.extra, Dict.mem_keys_iff, Json.get?_without] at hname
  rw [isUnknown_iff]
  by_cases hknown : Text.oneOf (knownFields ++ Settings.knownFields) name
  · rw [if_pos hknown] at hname
    simp at hname
  · exact Bool.eq_false_iff.2 hknown

/-- An unknown field is written as it was read. -/
theorem Reads.field?_toJson {fields : Dict Json} {session : Session} (h : Reads fields session)
    {name : Text} (hname : IsUnknown name) : session.toJson.field? name = fields.get? name := by
  obtain ⟨front, hkeys, hfront⟩ := exists_front session
  have hnew : name ∉ front.keys := by
    rw [hkeys, List.mem_map]
    rintro ⟨entry, hentry, rfl⟩
    exact hname entry hentry rfl
  have hextra : session.toJson.field? name = session.settings.extra.get? name := by
    rw [hfront]
    exact Dict.get?_append hnew
  rw [hextra, h.extra, Json.get?_without, isUnknown_iff.1 hname, if_neg Bool.false_ne_true]

/-! ### Which objects can be read -/

/-- An object is read if and only if each known field in it is null or has its type. -/
theorem exists_reads_iff {fields : Dict Json} :
    (∃ session, Reads fields session)
      ↔ ∀ entry ∈ fieldTypes, ∀ value, fields.get? entry.1 = some value →
          value = .null ∨ entry.2.Fits value := by
  have hchoice : ∀ value, (∃ result, ShowExpanded.ofJson? value = some result)
      ↔ FieldType.choice.Fits value := fun value =>
    exists_congr fun result => ShowExpanded.ofJson?_eq_some_iff
  have hflag : ∀ value, (∃ result, Json.bool? value = some result)
      ↔ FieldType.flag.Fits value := fun value =>
    exists_congr fun result => Json.bool?_eq_some_iff
  have hobject : ∀ value, (∃ result, Json.fields? value = some result)
      ↔ FieldType.object.Fits value := fun value =>
    exists_congr fun result => Json.fields?_eq_some_iff
  have htable : ∀ value, (∃ result, Json.textFields? value = some result)
      ↔ FieldType.textTable.Fits value := fun value =>
    exists_congr fun result => Json.textFields?_eq_some_iff
  have htexts : ∀ value, (∃ result, Json.texts? value = some result)
      ↔ FieldType.textList.Fits value := fun value =>
    exists_congr fun result => Json.texts?_eq_some_iff
  -- Every field is read by itself, so the two sides are the same nine facts.
  simp only [fieldTypes, List.forall_mem_cons, List.not_mem_nil, false_implies, implies_true,
    and_true, ← Json.exists_fieldOr_iff [] htexts, ← Json.exists_fieldOr_iff [] htable,
    ← Json.exists_fieldOr_iff [] hobject, ← Json.exists_fieldOr_iff .always hchoice]
  rw [← Json.exists_fieldOr_iff true hflag, ← Json.exists_fieldOr_iff false hflag]
  constructor
  · rintro ⟨session, h⟩
    exact ⟨⟨_, h.extensionsPath⟩, ⟨_, h.includeLanguages⟩, ⟨_, h.showExpanded⟩,
      ⟨_, h.showSuggestions⟩, ⟨_, h.suggestionsAsSnippets⟩, ⟨_, h.profiles⟩, ⟨_, h.bindings⟩,
      ⟨_, h.preferences⟩, ⟨_, h.excludedLanguages⟩⟩
  · rintro ⟨⟨_, h₁⟩, ⟨_, h₂⟩, ⟨_, h₃⟩, ⟨_, h₄⟩, ⟨_, h₅⟩, ⟨_, h₆⟩, ⟨_, h₇⟩, ⟨_, h₈⟩, ⟨_, h₉⟩⟩
    exact ⟨⟨⟨_, _, _, _, _, _, _, _⟩, _, _⟩, h₁, h₂, h₃, h₄, h₅, h₆, h₇, h₈, h₉, rfl⟩

/-- A known field that is absent or null has its default in the session. -/
structure TakesDefaults (fields : Dict Json) (session : Session) : Prop where
  extensionsPath : Json.Unset fields "extensionsPath" → session.extensionsPath = []
  includeLanguages : Json.Unset fields "includeLanguages" → session.includeLanguages = []
  showExpanded :
    Json.Unset fields "showExpandedAbbreviation" → session.settings.showExpanded = .always
  showSuggestions :
    Json.Unset fields "showAbbreviationSuggestions" → session.settings.showSuggestions = true
  suggestionsAsSnippets :
    Json.Unset fields "showSuggestionsAsSnippets" → session.settings.suggestionsAsSnippets = false
  profiles : Json.Unset fields "syntaxProfiles" → session.settings.profiles = []
  bindings : Json.Unset fields "variables" → session.settings.bindings = []
  preferences : Json.Unset fields "preferences" → session.settings.preferences = []
  excludedLanguages :
    Json.Unset fields "excludeLanguages" → session.settings.excludedLanguages = []

theorem Reads.takesDefaults {fields : Dict Json} {session : Session}
    (h : Reads fields session) : TakesDefaults fields session where
  extensionsPath := Json.eq_absent_of_unset h.extensionsPath
  includeLanguages := Json.eq_absent_of_unset h.includeLanguages
  showExpanded := Json.eq_absent_of_unset h.showExpanded
  showSuggestions := Json.eq_absent_of_unset h.showSuggestions
  suggestionsAsSnippets := Json.eq_absent_of_unset h.suggestionsAsSnippets
  profiles := Json.eq_absent_of_unset h.profiles
  bindings := Json.eq_absent_of_unset h.bindings
  preferences := Json.eq_absent_of_unset h.preferences
  excludedLanguages := Json.eq_absent_of_unset h.excludedLanguages

/-- An object cannot be read if and only if a known field in it is neither null nor of its
type. -/
theorem ofJson?_eq_none_iff {fields : Dict Json} :
    ofJson? (.obj fields) = none
      ↔ ∃ entry ∈ fieldTypes, ∃ value, fields.get? entry.1 = some value ∧
          value ≠ .null ∧ ¬ entry.2.Fits value := by
  have hreads : (∃ session, ofJson? (.obj fields) = some session)
      ↔ ∃ session, Reads fields session := exists_congr fun _ => ofJson?_eq_some_iff
  rw [exists_reads_iff, ← Option.isSome_iff_exists] at hreads
  rw [← Option.not_isSome_iff_eq_none, hreads]
  simp only [Classical.not_forall, not_or, exists_prop]

/-! ### Both ways in -/

/-- A session arrives with the first message, or in a section of changed settings. Both read
the object in the same way, and only differ in what they make of one that cannot be read. -/
theorem arrives (j : Json) :
    ofInitialization (some j) = (ofJson? j).getD {} ∧
    ∀ settings : Json, settings.field? "emmet" = some j → ofChange? settings = ofJson? j := by
  refine ⟨rfl, ?_⟩
  intro settings hsettings
  rw [ofChange?, hsettings]
  rfl

/-- Writing a session as one flat object and reading it are inverse, whichever way the object
arrives.

- A session whose further fields have no known name is written and read back as it was.
- An object that can be read gives a session that is written and read back as well. Its
  unknown fields are written unchanged, and its known fields that are absent or null have
  their defaults.
- An object cannot be read if and only if a known field in it is neither null nor of its type.
  It then counts as no options in a first message, and as no section in changed settings. -/
theorem flatObject_roundTrip :
    (∀ session : Session, (∀ name ∈ session.settings.extra.keys, IsUnknown name) →
      ofInitialization (some session.toJson) = session ∧
      ∀ settings : Json, settings.field? "emmet" = some session.toJson →
        ofChange? settings = some session) ∧
    (∀ (fields : Dict Json) (session : Session), ofJson? (.obj fields) = some session →
      ofInitialization (some (.obj fields)) = session ∧
      (∀ settings : Json, settings.field? "emmet" = some (.obj fields) →
        ofChange? settings = some session) ∧
      ofJson? session.toJson = some session ∧
      (∀ name, IsUnknown name → session.toJson.field? name = fields.get? name) ∧
      TakesDefaults fields session) ∧
    (∀ fields : Dict Json,
      (ofJson? (.obj fields) = none
        ↔ ∃ entry ∈ fieldTypes, ∃ value, fields.get? entry.1 = some value ∧
            value ≠ .null ∧ ¬ entry.2.Fits value) ∧
      (ofJson? (.obj fields) = none →
        ofInitialization (some (.obj fields)) = {} ∧
        ∀ settings : Json, settings.field? "emmet" = some (.obj fields) →
          ofChange? settings = none)) := by
  refine ⟨?_, ?_, ?_⟩
  · intro session hextra
    obtain ⟨hfirst, hchange⟩ := arrives session.toJson
    rw [ofJson?_toJson hextra] at hfirst hchange
    exact ⟨hfirst, hchange⟩
  · intro fields session hread
    obtain ⟨hfirst, hchange⟩ := arrives (.obj fields)
    rw [hread] at hfirst hchange
    -- What was kept of the object has no known name, so writing it is reversible.
    have hreads := ofJson?_eq_some_iff.1 hread
    have hwritten := ofJson?_toJson hreads.isUnknown
    exact ⟨hfirst, hchange, hwritten, fun name => hreads.field?_toJson, hreads.takesDefaults⟩
  · intro fields
    refine ⟨ofJson?_eq_none_iff, ?_⟩
    intro hnone
    obtain ⟨hfirst, hchange⟩ := arrives (.obj fields)
    rw [hnone] at hfirst hchange
    exact ⟨hfirst, hchange⟩

/-- A session with a field that nobody knows. -/
def customSession : Session :=
  { settings := { extra := [("custom", .bool true)] }, extensionsPath := ["lib"] }

theorem flatObject_roundTrip_customSession :
    ofInitialization (some customSession.toJson) = customSession ∧
    -- A flag that is null, and a list that is none.
    ofInitialization (some (.obj [("custom".toList, .bool true),
      ("showAbbreviationSuggestions".toList, .null),
      ("extensionsPath".toList, .arr [.str "lib"])])) = customSession ∧
    ofInitialization (some (.obj [("custom".toList, .bool true),
      ("extensionsPath".toList, .bool true)])) = {} := by
  obtain ⟨hwritten, hread, hunread⟩ := flatObject_roundTrip
  refine ⟨(hwritten customSession (by decide)).1, (hread _ customSession rfl).1, ?_⟩
  refine ((hunread _).2 ((hunread _).1.2 ?_)).1
  exact ⟨("extensionsPath", .textList), .head _, .bool true, rfl, nofun, nofun⟩

end Session

end Shorthand
