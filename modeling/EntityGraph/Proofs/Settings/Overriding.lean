import Mathlib
import EntityGraph.Command.Run
import EntityGraph.Proofs.Settings.Sources

/-!
# Settings override each other

The places where settings are given stand in an order: a file counts before the defaults, the
environment before the file, and the command line before them all. This is so for each setting by
itself (`SettingSources.Counts`): a place which leaves a setting out does not matter for it, and
neither does a value which is overridden, of whatever type it is. So there are settings exactly if
each value which counts is of the type its setting needs (`SettingSources.load_of_read`).
-/

namespace EntityGraph

/-- What settings are given by, besides their defaults. -/
structure SettingSources where
  file : TomlTable
  environment : List (String × String)
  options : List GivenOption

/-- The value of a setting which counts: that of the last source which gives one, in the order of
    defaults, file, environment and command line. There is none if the default counts. -/
inductive SettingSources.Counts (sources : SettingSources) (setting : Setting) :
    Option SettingValue → Prop
  | options {v : SettingValue} : OptionsGive sources.options setting v →
      Counts sources setting (some v)
  | environment {v : SettingValue} : (∀ w, ¬ OptionsGive sources.options setting w) →
      EnvironmentGives sources.environment setting v → Counts sources setting (some v)
  | file {v : SettingValue} : (∀ w, ¬ OptionsGive sources.options setting w) →
      (∀ w, ¬ EnvironmentGives sources.environment setting w) → sources.file.Gives setting v →
      Counts sources setting (some v)
  | default : (∀ w, ¬ OptionsGive sources.options setting w) →
      (∀ w, ¬ EnvironmentGives sources.environment setting w) →
      (∀ w, ¬ sources.file.Gives setting w) → Counts sources setting none

/-- The table of the file settings are taken from. It is empty where there is no file. -/
inductive Surroundings.FileHolds (s : Surroundings) : Option String → TomlTable → Prop
  | noFile : FileHolds s none []
  | nowhere {path : String} : s.locate? path = none → FileHolds s (some path) []
  | table {path full text : String} {t : TomlTable} : s.locate? path = some full →
      s.files.readText full = .ok text → Toml.read text = .ok t → FileHolds s (some path) t

/-- All sources of a command can be read: its options are accepted, its file is there and holds a
    table, and every variable about a setting is a whole text. -/
structure SettingSources.Read (sources : SettingSources) (s : Surroundings)
    (arguments : List String) (file : Option String) : Prop where
  options : ∃ waiting,
    ArgumentProgress.readAll ⟨[], none⟩ arguments = .ok ⟨sources.options, waiting⟩
  accepted : Arguments.check (sources.options.map (·.option)) = .ok ()
  named : s.settingsFile (Arguments.ofGiven sources.options).config = .ok file
  holds : s.FileHolds file sources.file
  environment : sources.environment = s.environment
  whole : ∀ entry ∈ s.environment, (Surroundings.settingName? entry.1).isSome = true →
    SettingValue.ofText entry.2 ≠ .torn

/-- The layers of a file give what its table gives. -/
theorem Surroundings.FileHolds.exists_layers {s : Surroundings} {file : Option String}
    {t : TomlTable} (h : s.FileHolds file t) :
    ∃ layers, (file.map s.fileLayers).getD (.ok []) = .ok layers ∧ ∀ setting v,
      (Settings.given? setting layers).map Prod.fst = some v ↔ t.Gives setting v := by
  have hempty : ∀ setting v, (Settings.given? setting []).map Prod.fst = some v ↔
      TomlTable.Gives [] setting v := by
    intro setting v
    simp [Settings.given?, TomlTable.Gives]
  cases h with
  | noFile => exact ⟨[], rfl, hempty⟩
  | nowhere hnowhere =>
    refine ⟨[], ?_, hempty⟩
    rw [Option.map_some, Option.getD_some, fileLayers, hnowhere]
  | @table path full text _ hlocate htext htable =>
    refine ⟨[t.layer (.file (Path.seenFrom s.directory full))], ?_, fun setting v => ?_⟩
    · rw [Option.map_some, Option.getD_some, fileLayers, hlocate]
      simp only
      rw [htext]
      simp only
      rw [htable]
      rfl
    · rw [← value?_file (.file (Path.seenFrom s.directory full)) (Toml.nodup_keys_of_read htable),
        ← List.nil_append [_], Settings.given?_concat]
      simp [Settings.given?]

namespace SettingSources

section

variable {sources : SettingSources} {setting : Setting} {v : Option SettingValue}

/-- The first value there is counts, beginning with the options. -/
theorem counts_iff {options environment file : Option SettingValue}
    (hoptions : ∀ w, options = some w ↔ OptionsGive sources.options setting w)
    (henvironment : ∀ w, environment = some w ↔ EnvironmentGives sources.environment setting w)
    (hfile : ∀ w, file = some w ↔ sources.file.Gives setting w) :
    sources.Counts setting v ↔ options.or (environment.or file) = v := by
  have hnone {found : Option SettingValue} {gives : SettingValue → Prop}
      (h : ∀ w, found = some w ↔ gives w) : found = none ↔ ∀ w, ¬ gives w := by
    simp [Option.eq_none_iff_forall_ne_some, h]
  constructor
  · intro h
    cases h with
    | options h => rw [(hoptions _).2 h, Option.some_or]
    | environment ho h =>
      rw [(hnone hoptions).2 ho, (henvironment _).2 h, Option.none_or, Option.some_or]
    | file ho he h =>
      rw [(hnone hoptions).2 ho, (hnone henvironment).2 he, (hfile _).2 h, Option.none_or,
        Option.none_or]
    | default ho he h =>
      rw [(hnone hoptions).2 ho, (hnone henvironment).2 he, (hnone hfile).2 h, Option.none_or,
        Option.none_or]
  · rintro rfl
    cases options with
    | some w => exact .options ((hoptions w).1 rfl)
    | none =>
      have ho := (hnone hoptions).1 rfl
      cases environment with
      | some w => exact .environment ho ((henvironment w).1 rfl)
      | none =>
        have he := (hnone henvironment).1 rfl
        cases file with
        | some w => exact .file ho he ((hfile w).1 rfl)
        | none => exact .default ho he ((hnone hfile).1 rfl)

/-- What a command is told is settled by layers, which tell what counts. -/
theorem Read.exists_layers {s : Surroundings} {arguments : List String} {file : Option String}
    (h : sources.Read s arguments file) :
    ∃ layers, (∀ setting v, sources.Counts setting v ↔
        (Settings.given? setting layers).map Prod.fst = v) ∧
      Command.load s arguments = ((Settings.ofLayers layers).mapError .settings).map
        fun settings => ⟨file, settings, (Arguments.ofGiven sources.options).action⟩ := by
  obtain ⟨waiting, hoptions⟩ := h.options
  have hsound : ArgumentProgress.IsSound ⟨sources.options, waiting⟩ :=
    ArgumentProgress.isSound_start.readAll hoptions
  obtain ⟨fromFile, hfromFile, hfile⟩ := h.holds.exists_layers
  refine ⟨fromFile ++ [s.environmentLayer, (Arguments.ofGiven sources.options).layer], ?_, ?_⟩
  · intro setting v
    rw [counts_iff (fun _ => value?_ofGiven hsound)
      (fun _ => h.environment ▸ value?_environmentLayer) (hfile setting),
      Settings.given?_file_environment_command, Settings.Merged.fst_merge,
      Settings.Merged.fst_merge, Settings.given?_eq_foldl]
  · have hread : Arguments.read arguments = .ok (Arguments.ofGiven sources.options) :=
      Arguments.read_eq_ok hoptions h.accepted
    have hsettings : s.settings file (Arguments.ofGiven sources.options).layer =
        Settings.ofLayers
          (fromFile ++ [s.environmentLayer, (Arguments.ofGiven sources.options).layer]) := by
      rw [Surroundings.settings, not_torn_of_whole h.whole, hfromFile]
      rfl
    rw [Command.load, hread]
    simp only [Except.mapError, bind, Except.bind, h.named, hsettings]
    cases Settings.ofLayers _ <;> rfl

/-- A setting has the value which counts, read as one of its type, or else its default. -/
inductive Settles (sources : SettingSources) (setting : Setting) : SettingValue → Prop
  | given {v w : SettingValue} : sources.Counts setting (some v) → v.StandsFor setting w →
      Settles sources setting w
  | default : sources.Counts setting none → Settles sources setting (Settings.default.value setting)

section

variable {layers : List SettingLayer}
  (hcounts : ∀ setting v, sources.Counts setting v ↔
    (Settings.given? setting layers).map Prod.fst = v)

include hcounts

/-- What becomes of a setting in the layers depends on the value which counts. -/
theorem exists_resolved (setting : Setting) :
    ∃ found, Settings.Resolved setting found (Settings.resolve layers setting) ∧
      ∀ v, sources.Counts setting v ↔ found.map Prod.fst = v :=
  ⟨_, Settings.resolved_resolve setting layers, hcounts setting⟩

/-- The value a setting has is what becomes of it in the layers. -/
theorem settles_iff {w : SettingValue} :
    sources.Settles setting w ↔ Settings.resolve layers setting = .ok w := by
  obtain ⟨found, hresolved, hcounts⟩ := exists_resolved hcounts setting
  generalize Settings.resolve layers setting = result at hresolved
  constructor
  · intro h
    cases h with
    | given hv hw =>
      rw [hcounts, Option.map_eq_some_iff] at hv
      obtain ⟨⟨v, source⟩, rfl, rfl⟩ := hv
      cases hresolved with
      | given hw' => rw [hw.unique hw']
      | wrongType hnot => exact absurd ⟨_, hw⟩ hnot
      | outOfRange hnot => exact absurd ⟨_, hw⟩ hnot
    | default hnone =>
      rw [hcounts, Option.map_eq_none_iff] at hnone
      subst hnone
      cases hresolved
      rfl
  · rintro rfl
    cases hresolved with
    | default => exact .default ((hcounts _).2 rfl)
    | given hw => exact .given ((hcounts _).2 rfl) hw

/-- Only the value which counts may be of the wrong type. -/
theorem exists_resolve_iff :
    (∃ w, Settings.resolve layers setting = .ok w) ↔
      ∀ v, sources.Counts setting (some v) → v.Fits setting := by
  obtain ⟨found, hresolved, hcounts⟩ := exists_resolved hcounts setting
  generalize Settings.resolve layers setting = result at hresolved
  simp only [hcounts]
  cases hresolved with
  | default => simp
  | given hw => simpa using ⟨_, hw⟩
  | wrongType hnot => simpa using hnot
  | outOfRange hnot => simpa using hnot

theorem exists_counts_of_resolve {fault : SettingsFault}
    (h : Settings.resolve layers setting = .error fault) :
    ∃ v source, sources.Counts setting (some v) ∧ ¬ v.Fits setting ∧
      (fault = .wrongType setting v source ∨ fault = .outOfRange setting v source) := by
  obtain ⟨found, hresolved, hcounts⟩ := exists_resolved hcounts setting
  rw [h] at hresolved
  cases hresolved with
  | wrongType hnot => exact ⟨_, _, (hcounts _).2 rfl, hnot, .inl rfl⟩
  | outOfRange hnot => exact ⟨_, _, (hcounts _).2 rfl, hnot, .inr rfl⟩

end

/-- For each setting one value counts, that of the last source which gives one, or else the default.
    Settings are loaded if each of these values is of the type its setting needs, and then they have
    these values; otherwise it is told of one of them that it is of the wrong type. -/
theorem load_of_read {s : Surroundings} {arguments : List String} {file : Option String}
    (h : sources.Read s arguments file) :
    (∀ setting, ∃! v, sources.Counts setting v) ∧
    (∀ l, Command.load s arguments = .ok l ↔ l.file = file ∧
      l.action = (Arguments.ofGiven sources.options).action ∧
      ∀ setting, sources.Settles setting (l.settings.value setting)) ∧
    ((∃ l, Command.load s arguments = .ok l) ↔
      ∀ setting v, sources.Counts setting (some v) → v.Fits setting) ∧
    ∀ stop, Command.load s arguments = .error stop → ∃ setting v source,
      sources.Counts setting (some v) ∧ ¬ v.Fits setting ∧
      (stop = .settings (.wrongType setting v source) ∨
        stop = .settings (.outOfRange setting v source)) := by
  obtain ⟨layers, hcounts, hload⟩ := h.exists_layers
  have hok : ∀ l, Command.load s arguments = .ok l ↔ l.file = file ∧
      l.action = (Arguments.ofGiven sources.options).action ∧
      ∀ setting, sources.Settles setting (l.settings.value setting) := by
    intro l
    simp only [settles_iff hcounts, ← Settings.ofLayers_eq_ok, hload, Outcome.map_eq_ok,
      Outcome.mapError_eq_ok]
    constructor
    · rintro ⟨settings, hsettings, rfl⟩
      exact ⟨rfl, rfl, hsettings⟩
    · rintro ⟨rfl, haction, hsettings⟩
      exact ⟨l.settings, hsettings, by rw [← haction]⟩
  refine ⟨fun setting => ⟨_, (hcounts _ _).2 rfl, fun v hv => ((hcounts _ _).1 hv).symm⟩, hok, ?_,
    fun stop hstop => ?_⟩
  · calc (∃ l, Command.load s arguments = .ok l)
        ↔ ∃ settings, Settings.ofLayers layers = .ok settings := by
          simp [hload, Outcome.map_eq_ok, Outcome.mapError_eq_ok]
      _ ↔ ∀ setting, ∃ w, Settings.resolve layers setting = .ok w :=
          ⟨fun ⟨_, hsettings⟩ _ => ⟨_, Settings.resolve_of_ofLayers hsettings _⟩,
            Settings.exists_ofLayers⟩
      _ ↔ ∀ setting v, sources.Counts setting (some v) → v.Fits setting :=
          forall_congr' fun _ => exists_resolve_iff hcounts
  · cases hlayers : Settings.ofLayers layers with
    | ok settings =>
      rw [hload, hlayers] at hstop
      cases hstop
    | error fault =>
      rw [hload, hlayers] at hstop
      obtain rfl := Except.error.inj hstop
      obtain ⟨setting, hsetting⟩ := Settings.exists_resolve_eq_error hlayers
      obtain ⟨v, source, hv, hnot, hfault⟩ := exists_counts_of_resolve hcounts hsetting
      exact ⟨setting, v, source, hv, hnot, hfault.imp (congrArg _) (congrArg _)⟩

end

/-! ### A command which is told settings everywhere -/

namespace Sample

def configText : String := "data_dir = \"/srv\"\nhttp_port = \"x\"\nlog_level = 3\n"

/-- A file in the working directory, and variables of which one is written in small letters. -/
def surroundings : Surroundings where
  directory := "/work"
  environment := [("JIRAPH_HTTP_PORT", "true"), ("jiraph_log_level", "debug"),
    ("JIRAPH_SCHEMA_PATH", "[1]")]
  files := ⟨[(["work", "config.toml"], .file configText.toUTF8)]⟩

def commandLine : List String := ["--http-port", "4000", "-sapi.graphql"]

def sources : SettingSources where
  file := [("data_dir", .string "/srv"), ("http_port", .string "x"), ("log_level", .integer 3)]
  environment := surroundings.environment
  options := [⟨.httpPort, "4000"⟩, ⟨.schemaPath, "api.graphql"⟩]

theorem read_sources : sources.Read surroundings commandLine (some "/work/config.toml") where
  options := ⟨none, rfl⟩
  accepted := rfl
  named := by decide +kernel
  holds := by
    have hlocate : surroundings.locate? "/work/config.toml" = some "/work/config.toml" := by
      decide +kernel
    have htext : surroundings.files.readText "/work/config.toml" = .ok configText := by
      decide +kernel
    exact .table hlocate htext rfl
  environment := rfl
  whole := by decide +kernel

end Sample

/-- The file is wrong about the socket and the level of the log, and the environment about the
    socket and the schema document. All of this is overridden; the index is given nowhere. -/
theorem load_of_read_overridden :
    Sample.sources.Read Sample.surroundings Sample.commandLine (some "/work/config.toml") ∧
    ∃ l, Command.load Sample.surroundings Sample.commandLine = .ok l ∧
      l.settings = ⟨"debug", "/srv", 4000, "api.graphql", "index.json"⟩ ∧
      ∀ setting, Sample.sources.Settles setting (l.settings.value setting) := by
  have hload : (Command.load Sample.surroundings Sample.commandLine).toOption.map (·.settings) =
      some ⟨"debug", "/srv", 4000, "api.graphql", "index.json"⟩ := by
    decide +kernel
  obtain ⟨l, hl, hsettings⟩ := Option.map_eq_some_iff.1 hload
  have hl := Outcome.toOption_eq_some.1 hl
  have hsettles := (((load_of_read Sample.read_sources).2.1 l).1 hl).2.2
  exact ⟨Sample.read_sources, l, hl, hsettings, hsettles⟩

end SettingSources

end EntityGraph
