import EntityGraph.Configuration
import EntityGraph.Http.Service
import EntityGraph.Settings.Value

/-!
# Settings

What the command can be told besides what to do. A setting may be given at several places: each
place is a layer, and the layer given last counts, whatever the others hold.

* `Settings.ofLayers`: the settings of layers, or the first fault in the order of names;
* `Settings.announcement`: the settings as they are shown to the user.
-/

namespace EntityGraph

structure Settings where
  logLevel : String
  dataDirectory : String
  httpPort : UInt16
  schemaPath : String
  indexPath : String
deriving DecidableEq, Repr

/-- The settings, in the order of their names. -/
inductive Setting where
  | dataDirectory
  | httpPort
  | indexPath
  | logLevel
  | schemaPath
deriving DecidableEq, Repr

namespace Setting

def name : Setting → String
  | .dataDirectory => "data_dir"
  | .httpPort => "http_port"
  | .indexPath => Configuration.indexPathKey
  | .logLevel => "log_level"
  | .schemaPath => Configuration.schemaPathKey

/-- What a setting needs, in the words of an error. -/
def need : Setting → String
  | .dataDirectory => "path string"
  | .httpPort => "u16"
  | _ => "a string"

end Setting

/-- Where settings are given. -/
inductive SettingSource where
  /-- A file, by the path to be shown. -/
  | file (shown : String)
  | environment
  | command
deriving DecidableEq, Repr

namespace SettingSource

/-- What the names of environment variables start with. -/
def nameStart : String := "JIRAPH_"

/-- A setting as it is called at a place. -/
def key (setting : Setting) : SettingSource → String
  | .file _ => "default." ++ setting.name
  | .environment => String.ofList (setting.name.toList.map Char.toUpper)
  | .command => setting.name

def shown : SettingSource → String
  | .file path => path ++ " TOML file"
  | .environment => s!"`{nameStart}` environment variable(s)"
  | .command => "command line"

end SettingSource

/-- Values given at one place, by the names of settings. -/
structure SettingLayer where
  source : SettingSource
  values : List (String × SettingValue)

inductive SettingsFault where
  | fileMissing (path : String)
  /-- A text of the environment was cut within a character. -/
  | tornText
  | fileBroken (source : SettingSource) (fault : Toml.Fault)
  | fileUnreadable (source : SettingSource) (fault : FileFault)
  | wrongType (setting : Setting) (value : SettingValue) (source : SettingSource)
  | outOfRange (setting : Setting) (value : SettingValue) (source : SettingSource)
deriving DecidableEq, Repr

/-- The setting and the place a fault is about. -/
def SettingsFault.place (setting : Setting) (source : SettingSource) : String :=
  s!"for key {Text.quoted (source.key setting)} in {source.shown}"

def SettingsFault.message : SettingsFault → String
  | .fileMissing path => s!"Config file '{path}' does not exist"
  | .tornText => "a text of the environment is cut within a character"
  | .fileBroken source fault => s!"{fault.message} in {source.shown}"
  | .fileUnreadable source fault => s!"{fault.message} in {source.shown}"
  | .wrongType setting value source =>
    s!"invalid type: found {value.shown}, expected {setting.need} {place setting source}"
  | .outOfRange setting value source =>
    s!"invalid value {value.shown}, expected {setting.need} {place setting source}"

namespace Settings

def default : Settings where
  logLevel := "warn"
  dataDirectory := "."
  httpPort := 2020
  schemaPath := Configuration.default.schemaPath
  indexPath := Configuration.default.indexPath

/-- The value of a setting which counts, and where it is given. -/
def given? (setting : Setting) (layers : List SettingLayer) :
    Option (SettingValue × SettingSource) :=
  layers.reverse.findSome? fun layer =>
    (layer.values.reverse.lookup setting.name).map (·, layer.source)

/-- A setting which is a text; a single letter is one. -/
def textOf (setting : Setting) (fallback : String) (layers : List SettingLayer) :
    Except SettingsFault String :=
  match given? setting layers with
  | none => .ok fallback
  | some (.text s, _) => .ok s
  | some (.letter c, _) => .ok (String.ofList [c])
  | some (value, source) => .error (.wrongType setting value source)

/-- A setting which is a number of 16 bits, given as an integer of any kind. -/
def numberOf (setting : Setting) (fallback : UInt16) (layers : List SettingLayer) :
    Except SettingsFault UInt16 :=
  let ofInt (value : SettingValue) (n : Int) (source : SettingSource) :=
    if 0 ≤ n ∧ n < UInt16.size then .ok (UInt16.ofNat n.toNat)
    else .error (.outOfRange setting value source)
  match given? setting layers with
  | none => .ok fallback
  | some (.unsigned n, source) => ofInt (.unsigned n) n source
  | some (.signed n, source) => ofInt (.signed n) n source
  | some (value, source) => .error (.wrongType setting value source)

/-- The settings of layers, of which later ones override earlier ones. -/
def ofLayers (layers : List SettingLayer) : Except SettingsFault Settings := do
  let dataDirectory ← textOf .dataDirectory default.dataDirectory layers
  let httpPort ← numberOf .httpPort default.httpPort layers
  let indexPath ← textOf .indexPath default.indexPath layers
  let logLevel ← textOf .logLevel default.logLevel layers
  let schemaPath ← textOf .schemaPath default.schemaPath layers
  return { logLevel, dataDirectory, httpPort, schemaPath, indexPath }

/-- The settings a schema is built with. -/
def configuration (s : Settings) : Configuration := ⟨s.schemaPath, s.indexPath⟩

/-- The settings as they are shown when the service starts: the file they come from if there is
    one, and what they mean in a working directory. -/
def announcement (program directory : String) (file : Option String) (s : Settings) : String :=
  let origin := match file with
    | some path => s!"Loading config file from {Path.absolute directory path}\n"
    | none => "No config file provided\n"
  program ++ "\n\n" ++ origin ++ "\nConfiguration\n\n"
    ++ s!"Data directory: {Path.absolute directory s.dataDirectory}\n"
    ++ s!"Schema: {s.schemaPath}\nIndex: {s.indexPath}\n"
    ++ s!"GraphQL API: http://localhost:{Text.decimal s.httpPort.toNat}{HttpService.route}\n"

end Settings

end EntityGraph
