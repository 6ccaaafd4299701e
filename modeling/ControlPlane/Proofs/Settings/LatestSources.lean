import ControlPlane.Proofs.Settings.VariableSettings

/-!
# Where settings come from

Each setting has the value of the last source that says anything about it: of its variable,
else of the settings file, else of the defaults.  The other settings in these sources make
no difference, whether they are known or not, and in whatever section they stand.  And the
sources amount to settings if the last one for each setting says a text.
-/

namespace ControlPlane.Settings

variable {file : Option Bytes} {environment : List (String × String)} {field : Field}
  {settings : Settings} {value : String}

/-! ## What the sources say -/

/-- What a settings file, if there is one, says about a setting. -/
def Field.inFile? (field : Field) (file : Option Bytes) : Option Tree := do
  field.find? (← Toml.document? (← file))

/-- Whether a settings file, if there is one, is a document in which the sections of
settings are groups. -/
def HasSections (file : Option Bytes) : Prop :=
  ∀ bytes ∈ file, ∃ tree, Toml.document? bytes = some tree ∧ tree.Sectioned

/-- What the last source says that says anything about a setting. -/
def latest (file : Option Bytes) (environment : List (String × String)) (field : Field) : Tree :=
  ((field.inEnvironment? environment).or (field.inFile? file)).getD (.text (defaults.text field))

theorem latest_of_inEnvironment? {tree : Tree}
    (said : field.inEnvironment? environment = some tree) :
    latest file environment field = tree := by
  rw [latest, said, Option.some_or, Option.getD_some]

theorem latest_of_none (unsaid : field.inEnvironment? environment = none) :
    latest file environment field = (field.inFile? file).getD (.text (defaults.text field)) := by
  rw [latest, unsaid, Option.none_or]

/-! ## Settings of a tree -/

theorem name_of_ofName? {name : String} {medium : Medium}
    (known : Medium.ofName? name = some medium) : medium.name = name := by
  have named := List.find?_some known
  exact beq_iff_eq.1 named

/-- A tree amounts to settings if it says the text of each of them. -/
theorem ofTree?_eq_some_iff {tree : Tree} :
    ofTree? tree = some settings ↔
      ∀ field : Field, field.find? tree = some (.text (settings.text field)) := by
  constructor
  case mp =>
    intro held field
    simp only [ofTree?, Option.bind_eq_bind, Option.bind_eq_some_iff, Option.pure_def,
      Option.some.injEq, Field.text?_eq_some_iff] at held
    rcases held with ⟨member, isMember, address, isAddress, name, isName, medium, known,
      directory, isDirectory, level, isLevel, format, isFormat, rfl⟩
    cases field with
    | member => exact isMember
    | address => exact isAddress
    | medium => rw [isName, text, name_of_ofName? known]
    | directory => exact isDirectory
    | logLevel => exact isLevel
    | logFormat => exact isFormat
  case mpr =>
    intro held
    have told (field : Field) : field.text? tree = some (settings.text field) :=
      Field.text?_eq_some_iff.2 (held field)
    simp [ofTree?, told, text]

/-! ## Below the environment -/

/-- The settings file, if there is one, laid over the defaults. -/
def belowEnvironment? : Option Bytes → Option Tree
  | none => some defaults.toTree
  | some document => (Toml.document? document).map (·.overlay defaults.toTree)

theorem load?_eq_bind (file : Option Bytes) (environment : List (String × String)) :
    load? file environment = (belowEnvironment? file).bind fun below =>
      ofTree? ((ofVariables environment).overlay below) := by
  cases file <;> rfl

/-- Below the environment, a setting has its text from the settings file, or from the
defaults if the file says nothing about it. -/
theorem text_of_belowEnvironment? {below : Tree} (laid : belowEnvironment? file = some below)
    (found : field.find? below = some (.text value)) :
    (field.inFile? file).getD (.text (defaults.text field)) = .text value := by
  cases file with
  | none =>
    cases laid
    rw [find?_toTree] at found
    exact Option.some.inj found
  | some bytes =>
    rcases Option.map_eq_some_iff.1 laid with ⟨tree, read, rfl⟩
    have told : field.inFile? (some bytes) = field.find? tree := by simp [Field.inFile?, read]
    rw [told]
    rcases Field.text_of_overlay found with upper | ⟨missing, lower⟩
    · rw [upper, Option.getD_some]
    · rw [missing, Option.getD_none]
      rw [find?_toTree] at lower
      exact Option.some.inj lower

/-- Where the file has sections, what it says about a setting is laid over the default. -/
theorem HasSections.belowEnvironment? (sections : HasSections file) :
    ∃ below, Settings.belowEnvironment? file = some below ∧ below.Sectioned ∧
      ∀ field : Field, field.find? below =
        Tree.overlayOption (field.inFile? file) (some (.text (defaults.text field))) := by
  cases file with
  | none => exact ⟨_, rfl, sectioned_toTree defaults, find?_toTree defaults⟩
  | some bytes =>
    rcases sections bytes rfl with ⟨tree, read, sectioned⟩
    refine ⟨tree.overlay defaults.toTree, by rw [Settings.belowEnvironment?, read, Option.map_some],
      sectioned.overlay (sectioned_toTree defaults), fun field => ?_⟩
    have told : field.inFile? (some bytes) = field.find? tree := by simp [Field.inFile?, read]
    rw [Field.find?_overlay sectioned (sectioned_toTree defaults), find?_toTree, told]

/-! ## Loaded settings -/

namespace WellNamed

variable (wellNamed : WellNamed environment)

include wellNamed

/-- Loaded settings have the texts that the last sources say. -/
theorem latest_of_load? (loaded : load? file environment = some settings) (field : Field) :
    latest file environment field = .text (settings.text field) := by
  rw [load?_eq_bind, Option.bind_eq_some_iff] at loaded
  rcases loaded with ⟨below, laid, held⟩
  rcases Field.text_of_overlay (ofTree?_eq_some_iff.1 held field) with upper | ⟨missing, lower⟩
  · exact latest_of_inEnvironment? (wellNamed.inEnvironment?_of_text upper)
  · rw [latest_of_none (wellNamed.inEnvironment?_of_none missing)]
    exact text_of_belowEnvironment? laid lower

/-- Settings are loaded where variables set whole members, the file has sections, and the
last sources say the texts of these settings. -/
theorem load?_of_latest (setsWhole : ∀ entry ∈ environment, Variable.SetsWholeMember entry)
    (sections : HasSections file)
    (texts : ∀ field, latest file environment field = .text (settings.text field)) :
    load? file environment = some settings := by
  rcases sections.belowEnvironment? with ⟨below, laid, sectioned, find?_below⟩
  have above := sectioned_ofVariables wellNamed.setsMembers
  rw [load?_eq_bind, laid, Option.bind_some, ofTree?_eq_some_iff]
  intro field
  have told := texts field
  rw [Field.find?_overlay above sectioned]
  apply Tree.overlayOption_of_text
  cases said : field.inEnvironment? environment with
  | some tree =>
    rw [latest_of_inEnvironment? said] at told
    rw [told] at said
    rw [wellNamed.find?_of_text setsWhole said, Option.some_or]
  | none =>
    rw [latest_of_none said] at told
    rw [wellNamed.find?_of_none setsWhole said, Option.none_or, find?_below]
    apply Tree.overlayOption_of_text
    cases inFile : field.inFile? file with
    | some tree =>
      rw [inFile, Option.getD_some] at told
      rw [told, Option.some_or]
    | none =>
      rw [inFile, Option.getD_none] at told
      rw [told, Option.none_or]

end WellNamed

/-- Each loaded setting has the text of its variable, if there is one, else the one that the
settings file gives, and else that of the defaults.  Settings that are loaded from other
sources have the same text where these say the same about this setting.  Where variables set
whole members and the file has sections, settings with these texts are loaded, so no partial
section hides what the sources below it say. -/
theorem settings_have_latest_texts (wellNamed : WellNamed environment) :
    (∀ {settings : Settings}, load? file environment = some settings → ∀ field : Field,
      latest file environment field = .text (settings.text field) ∧
        ∀ {file' : Option Bytes} {environment' : List (String × String)} {settings' : Settings},
          WellNamed environment' → load? file' environment' = some settings' →
          field.inEnvironment? environment' = field.inEnvironment? environment →
          field.inFile? file' = field.inFile? file →
            settings'.text field = settings.text field) ∧
      ∀ {settings : Settings},
        (∀ entry ∈ environment, Variable.SetsWholeMember entry) → HasSections file →
        (∀ field, latest file environment field = .text (settings.text field)) →
          load? file environment = some settings := by
  refine ⟨fun loaded field => ⟨wellNamed.latest_of_load? loaded field, ?_⟩,
    wellNamed.load?_of_latest⟩
  intro file' environment' settings' wellNamed' loaded' sameVariable sameFile
  have same := wellNamed'.latest_of_load? loaded' field
  rw [latest, sameVariable, sameFile] at same
  exact (Tree.text.inj ((wellNamed.latest_of_load? loaded field).symm.trans same)).symm

/-- Two sections of which the file and the environment give only parts, with a variable over
a setting of the file and one that nobody asks for. -/
theorem settings_have_latest_texts_of_partial_sections :
    let document := "[storage]\nbackend = 'memory'\n[observability]\nlog_level = 'info'\n"
    let environment := [("CLUSTERD_OBSERVABILITY__LOG_LEVEL", "trace"),
      ("clusterd_storage__cache", "5"), ("HOME", "/root")]
    let file := some (Utf8.encode document)
    let settings := { defaults with medium := .memory, logLevel := "trace" }
    WellNamed environment ∧ (∀ entry ∈ environment, Variable.SetsWholeMember entry) ∧
      HasSections file ∧ load? file environment = some settings ∧
        ∀ field, latest file environment field = .text (settings.text field) := by
  intro document environment file settings
  have first : Variable.path? "CLUSTERD_OBSERVABILITY__LOG_LEVEL" =
      some ["observability", "log_level"] := by decide
  have second : Variable.path? "clusterd_storage__cache" = some ["storage", "cache"] := by decide
  have third : Variable.path? "HOME" = none := by decide
  have wellNamed : WellNamed environment := by
    constructor
    case named =>
      intro entry member marked
      simp only [environment, List.mem_cons, List.not_mem_nil, or_false] at member
      rcases member with rfl | rfl | rfl
      · exact ⟨"CLUSTERD_".toList, "OBSERVABILITY".toList, "LOG_LEVEL".toList, by decide⟩
      · exact ⟨"clusterd_".toList, "storage".toList, "cache".toList, by decide⟩
      · exact absurd marked (by unfold Variable.IsMarked; decide)
    case single =>
      intro field entry member other member' sets sets'
      simp only [environment, List.mem_cons, List.not_mem_nil, or_false] at member member'
      rcases member with rfl | rfl | rfl
      · rw [first] at sets
        rcases member' with rfl | rfl | rfl
        · rfl
        · rw [second, ← sets] at sets'
          exact absurd sets' (by decide)
        · rw [third] at sets'
          cases sets'
      · rw [second, Field.path] at sets
        cases field <;> exact absurd sets (by decide)
      · rw [third] at sets
        cases sets
  have lines : Toml.lines? document.toList =
      some [.header ["storage"], .value ["backend"] (.text "memory"),
        .header ["observability"], .value ["log_level"] (.text "info")] := by
    dsimp only [document]
    rfl
  have read : Toml.document? (Utf8.encode document) =
      some (.group [("observability", .group [("log_level", .text "info")]),
        ("storage", .group [("backend", .text "memory")])]) := by
    have unmarked : Toml.withoutMark document.toList = document.toList := by decide
    rw [Toml.document?, Utf8.decode_encode]
    simp only [Except.toOption, Option.bind_eq_bind, Option.bind_some, unmarked, lines]
    rfl
  have setsWhole : ∀ entry ∈ environment, Variable.SetsWholeMember entry := by
    intro entry member path sets
    simp only [environment, List.mem_cons, List.not_mem_nil, or_false] at member
    rcases member with rfl | rfl | rfl
    · rw [first] at sets
      cases sets
      rfl
    · rw [second] at sets
      cases sets
      rfl
    · rw [third] at sets
      cases sets
  have sections : HasSections file := by
    intro bytes given
    rw [← Option.some.inj given]
    refine ⟨_, read, _, rfl, fun field part found => ?_⟩
    cases field <;> cases found <;> exact ⟨_, rfl⟩
  have texts (field : Field) :
      latest file environment field = .text (settings.text field) := by
    simp only [latest, Field.inEnvironment?, Field.inFile?, environment, file, read,
      List.find?_cons, first, second, third, Option.bind_eq_bind, Option.bind_some]
    cases field <;> rfl
  have loaded := (settings_have_latest_texts wellNamed).2 setsWhole sections texts
  exact ⟨wellNamed, setsWhole, sections, loaded,
    fun field => ((settings_have_latest_texts wellNamed).1 loaded field).1⟩

end ControlPlane.Settings
