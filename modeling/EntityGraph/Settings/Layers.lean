import EntityGraph.Settings.Basic
import EntityGraph.Store.Files

/-!
# Places of settings

Files and environment variables as layers of settings. Without a file named on the command line,
one in the working directory or else in the user's configuration directory is taken.
-/

namespace EntityGraph

/-- What surrounds the command when it is started. -/
structure Surroundings where
  /-- The working directory. -/
  directory : String
  /-- The environment variables. -/
  environment : List (String × String)
  files : Files

namespace Surroundings

/-- An environment variable which is set to something. -/
def environment? (s : Surroundings) (name : String) : Option String :=
  (s.environment.lookup name).filter (· ≠ "")

/-! ### Environment -/

/-- The name of a setting which an environment variable is about: what is behind `JIRAPH_`, in any
    case, in lower case. What is behind a dot is the name of a part of it. -/
def settingName? (name : String) : Option (List Char × Bool) :=
  let lower := name.toList.map Char.toLower
  let start := SettingSource.nameStart.toList.map Char.toLower
  if start.isPrefixOf lower then
    let parts := lower.drop start.length
    let key := parts.takeWhile (· ≠ '.')
    if key.isEmpty then none else some (key, key.length < parts.length)
  else none

/-- The layer of the environment. -/
def environmentLayer (s : Surroundings) : SettingLayer where
  source := .environment
  values := s.environment.filterMap fun (name, text) =>
    (settingName? name).map fun (key, isPart) =>
      (String.ofList key, if isPart then .map else .ofText text)

/-! ### Files -/

/-- Name of the file settings are looked for in. -/
def fileName : String := "config.toml"

/-- The user's configuration directory. -/
def configDirectory? (s : Surroundings) : Option String :=
  match (s.environment? "XDG_CONFIG_HOME").filter Path.isAbsolute with
  | some directory => some directory
  | none => (s.environment? "HOME").map fun home => Path.join home ".config"

/-- The files settings are looked for in, the first which exists being taken. -/
def candidates (s : Surroundings) : List String :=
  Path.join s.directory fileName ::
    (s.configDirectory?.map fun d => Path.join (Path.join d "jiraph") fileName).toList

/-- The file settings are taken from: the one named, or one which is found. -/
def settingsFile (s : Surroundings) (named : Option String) :
    Except SettingsFault (Option String) :=
  match named with
  | some path =>
    if s.files.contains (Path.join s.directory path) then .ok (some path)
    else .error (.fileMissing path)
  | none => .ok (s.candidates.find? s.files.contains)

/-- Directories from one up to the root, by their components. -/
def upwards (directory : List String) : List (List String) :=
  (List.range (directory.length + 1)).reverse.map directory.take

/-- Full paths a path may stand for: from the working directory, or else from one above. -/
def fullPaths (s : Surroundings) (path : String) : List String :=
  if Path.isAbsolute path then [path]
  else (upwards (Path.components s.directory)).map fun parts =>
    Path.join ("/" ++ String.intercalate "/" parts) path

/-- Where a path leads to a file. -/
def locate? (s : Surroundings) (path : String) : Option String :=
  (s.fullPaths path).find? fun full => (s.files.readText full) matches .ok _ | .error .notText

/-- All full paths which may lead to the file settings are taken from. -/
def settingsPaths (s : Surroundings) (named : Option String) : List String :=
  named.elim s.candidates s.fullPaths

/-- The layers of a file; there is none if the path leads to no file. -/
def fileLayers (s : Surroundings) (path : String) : Except SettingsFault (List SettingLayer) :=
  match s.locate? path with
  | none => .ok []
  | some full =>
    let source := SettingSource.file (Path.seenFrom s.directory full)
    match s.files.readText full with
    | .error fault => .error (.fileUnreadable source fault)
    | .ok text =>
      match Toml.read text with
      | .error fault => .error (.fileBroken source fault)
      | .ok table => .ok [⟨source, table.map fun (key, value) => (key, .ofToml value)⟩]

/-- All settings: those of a file, of the environment and of the command line, the last of which
    counts. -/
def settings (s : Surroundings) (file : Option String) (command : SettingLayer) :
    Except SettingsFault Settings := do
  if s.environmentLayer.values.any fun (_, value) => value = .torn then throw .tornText
  let fromFile ← (file.map s.fileLayers).getD (.ok [])
  Settings.ofLayers (fromFile ++ [s.environmentLayer, command])

end Surroundings

end EntityGraph
