import EntityGraph.Command.Run
import Std.Time.Format

/-!
# The command as a program

The outer layer: it takes a picture of what surrounds the program, lets the command run on it and
writes what comes out. Files are read as they are asked for: the command runs again with those it
asked for, until it asks for no other.
-/

namespace EntityGraph.Program

/-- Environment variables which matter. -/
def variableNames : List String :=
  ["HOME", "XDG_CONFIG_HOME", "RUST_LOG"]
    ++ [Setting.dataDirectory, .httpPort, .indexPath, .logLevel, .schemaPath].map fun s =>
      SettingSource.nameStart ++ SettingSource.environment.key s

def environment : IO (List (String × String)) :=
  variableNames.filterMapM fun name => do
    return (← IO.getEnv name).map (name, ·)

/-- The file or directory a full path leads to, if there is one. -/
def readNode (path : String) : IO (List (List String × FileNode)) := do
  let components := Path.components (Path.clean path)
  try
    return [(components, .file (← IO.FS.readBinFile path))]
  catch e =>
    match e with
    | .inappropriateType .. => return [(components, .directory)]
    | _ => return []

/-- Adds the files of paths which were not tried before. -/
def addFiles (s : Surroundings) (paths : List String) : IO Surroundings := do
  let nodes ← paths.flatMapM readNode
  return { s with files := ⟨s.files.entries ++ nodes⟩ }

/-- Runs the command until it has all the files it asks for. -/
partial def settle (s : Surroundings) (suffixes : Suffixes) (time : String)
    (arguments tried : List String) : IO CommandResult := do
  let result := Command.run s suffixes time arguments
  let missing := (result.asked.filter fun path => !tried.contains path).eraseDups
  if missing.isEmpty then return result
  settle (← addFiles s missing) suffixes time arguments (tried ++ missing)

/-- A picture of what surrounds the program, with the files settings may be in. -/
def surroundings (arguments : List String) : IO Surroundings := do
  let directory := (← IO.currentDir).toString
  let s : Surroundings := ⟨directory, ← environment, ⟨[(Path.components directory, .directory)]⟩⟩
  match Arguments.read arguments with
  | .ok a => addFiles s (s.settingsPaths a.config)
  | .error _ => return s

/-- The time in the log. -/
def now : IO String := do
  let time := Std.Time.DateTime.ofTimestamp (← Std.Time.Timestamp.now)
    Std.Time.TimeZone.ZoneRules.UTC
  return time.format "uuuu-MM-dd'T'HH:mm:ss'Z'"

def randomNumber : IO Nat := do
  return (← IO.getRandomBytes 16).toList.foldl (fun n b => n * 256 + b.toNat) 0

end EntityGraph.Program

open EntityGraph Program in
def main (arguments : List String) : IO UInt32 := do
  let s ← surroundings arguments
  let result ← settle s (.hexadecimal (← randomNumber)) (← now) arguments []
  (← IO.getStderr).putStr result.errors
  (← IO.getStdout).putStr result.output
  if result.serves.isSome then
    (← IO.getStderr).putStr "Error: requests are not listened for\n"
    return 1
  return result.status.toUInt32
