import EntityGraph.Command.Arguments
import EntityGraph.Command.LogFilter
import EntityGraph.Execution.Execute
import EntityGraph.Schema.Assembly
import EntityGraph.Schema.Text
import EntityGraph.Settings.Layers

/-!
# Running the command

The command builds the schema of the documents in a directory and prints it, answers one query or
serves queries over HTTP. What it writes is text for the standard output and text for the error
output, which starts with the log.

* `Command.load`: what a command line asks for, with all settings;
* `Command.run`: what is written and the exit status.
-/

namespace EntityGraph

/-- What the command writes, and how it ends. -/
structure CommandResult where
  status : Nat
  output : String
  errors : String
  /-- Full paths of the documents which were asked for. -/
  asked : List String
  /-- Where queries are served from now on. -/
  serves : Option UInt16

/-- Why the command fails: what could not be done, and the causes of it, the nearest first. -/
inductive CommandFault where
  | settings (fault : SettingsFault)
  | build (failure : BuildFailure)
  | badVariables (message : String)

namespace CommandFault

def context : CommandFault → String
  | .settings _ => "Could not load configuration"
  | .build _ => "Could not build GraphQL schema"
  | .badVariables _ => "Query variables are not valid JSON"

def causes : CommandFault → List String
  | .settings fault => [fault.message]
  | .build (.error e) => e.message :: e.causes
  | .build (.fieldTwice type field) => [s!"field {field} is added twice to type {type}"]
  | .build (.interfaceTwice type interface) =>
    [s!"interface {interface} is added twice to type {type}"]
  | .badVariables message => [message]

/-- A cause below its error: later lines are indented as far as the first one, behind the number if
    there are several causes. -/
def causeText (number : Option Nat) (cause : String) : String :=
  let (lead, indent) := match number with
    | none => ("    ", "    ")
    | some n =>
      let digits := Text.decimal n
      (String.ofList (List.replicate (5 - digits.length) ' ') ++ digits ++ ": ", "       ")
  lead ++ String.ofList (cause.toList.flatMap fun c =>
    if c = '\n' then '\n' :: indent.toList else [c])

def message (fault : CommandFault) : String :=
  let texts := match fault.causes with
    | [cause] => [causeText none cause]
    | causes => causes.zipIdx.map fun (cause, n) => causeText (some n) cause
  s!"Error: {fault.context}\n\nCaused by:\n" ++ String.intercalate "\n" texts ++ "\n"

end CommandFault

namespace Command

def name : String := "jiraph"

def version : String := "0.1.0"

/-! ### Help -/

def optionHelp (o : CommandOption) : String :=
  let short := o.short?.elim "    " fun c => String.ofList ['-', c, ',', ' ']
  let shown := short ++ o.shown
  "  " ++ shown ++ String.ofList (List.replicate (32 - shown.length) ' ') ++ o.about ++ "\n"

def usage : String := s!"Usage: {name} [OPTIONS]\n"

def help : String :=
  "Serve and query GraphQL schemas backed by JSON documents\n\n" ++ usage ++ "\nOptions:\n"
    ++ String.join (CommandOption.all.map optionHelp)

/-! ### Loading -/

/-- What a command line asks for. -/
structure Loaded where
  /-- The file settings are taken from. -/
  file : Option String
  settings : Settings
  action : CommandAction

inductive LoadStop where
  | arguments (stop : ArgumentStop)
  | settings (fault : SettingsFault)

/-- Reads a command line and all settings. -/
def load (surroundings : Surroundings) (arguments : List String) : Except LoadStop Loaded := do
  let a ← (Arguments.read arguments).mapError .arguments
  let file ← (surroundings.settingsFile a.config).mapError .settings
  let settings ← (surroundings.settings file a.layer).mapError .settings
  return ⟨file, settings, a.action⟩

def Loaded.announcement (l : Loaded) (surroundings : Surroundings) : String :=
  l.settings.announcement s!"{name} v{version}" surroundings.directory l.file

/-! ### Running -/

/-- A result which is only text. -/
def texts (status : Nat) (output errors : String) : CommandResult :=
  ⟨status, output, errors, [], none⟩

/-- What is answered to a command line which is not carried out. -/
def stopped : ArgumentStop → CommandResult
  | .help => texts 0 help ""
  | .version => texts 0 s!"{name} {version}\n" ""
  | .fault f =>
    texts 2 "" s!"error: {f.message}\n\n{usage}\nFor more information, try '--help'.\n"

/-- A line of the log. -/
def logLine (time : String) (r : LogRecord) : String :=
  let level := r.level.name
  let space := String.ofList (List.replicate (5 - level.length) ' ')
  s!"[{time} {level}{space} {r.target}] {r.message}\n"

/-- The filter of the log: the environment decides before the settings do. -/
def logFilter (surroundings : Surroundings) (settings : Settings) : LogFilter × List String :=
  match surroundings.environment.lookup "RUST_LOG" with
  | some spec => LogFilter.ofSpec spec
  | none => LogFilter.ofLevel LogSource.command.target settings.logLevel

/-- What there is to print in the end, and where queries are served. -/
structure Printed where
  text : String
  serves : Option UInt16

/-- Does what is asked for with a schema. -/
def act (surroundings : Surroundings) (storage : Storage) (l : Loaded) (schema : Schema) :
    RunResult CommandFault Printed :=
  match l.action with
  | .printSchema => EventualResult.ok ⟨schema.text ++ "\n", none⟩
  | .serve =>
    EventualResult.ok ⟨l.announcement surroundings ++ "\n", some l.settings.httpPort⟩
  | .query text variableText =>
    match variableText.map fun v => (v, Json.read v) with
    | some (v, .error e) => EventualResult.fail (.badVariables (e.message v))
    | some (_, .ok values) => respond ⟨text, Request.variablesOf values, none⟩
    | none => respond ⟨text, [], none⟩
where
  respond (request : Request) : RunResult CommandFault Printed :=
    (schema.respond storage request).map fun response =>
      .ok ⟨response.toData.indented ++ "\n", none⟩

/-- Builds the schema of a directory and does what is asked for. -/
def perform (surroundings : Surroundings) (suffixes : Suffixes) (l : Loaded) :
    RunResult CommandFault Printed :=
  let directory := Path.absolute surroundings.directory l.settings.dataDirectory
  let fetcher := Fetcher.directory directory surroundings.files.readText
  let configuration := l.settings.configuration
  let storage : Storage := ⟨fetcher, .index configuration.indexPath⟩
  (Run.log .command .info s!"Build schema from documents in {directory}").andThen fun _ =>
    EventualResult.andThen ((Schema.create fetcher configuration suffixes).mapError .build)
      (act surroundings storage l)

/-- Carries out a command line. The records of the log are given the time `time`. -/
def run (surroundings : Surroundings) (suffixes : Suffixes) (time : String)
    (arguments : List String) : CommandResult :=
  match load surroundings arguments with
  | .error (.arguments stop) => stopped stop
  | .error (.settings fault) => texts 1 "" (CommandFault.settings fault).message
  | .ok l =>
    let (filter, warnings) := logFilter surroundings l.settings
    let performed := perform surroundings suffixes l
    let shown := (performed.events.filterMap Event.log?).filter filter.admits
    let log := String.join (warnings.map (· ++ "\n")) ++ String.join (shown.map (logLine time))
    let directory := Path.absolute surroundings.directory l.settings.dataDirectory
    let asked := (performed.events.filterMap Event.fetch?).filterMap (Path.below? directory)
    match performed.wait with
    | .ok printed => ⟨0, printed.text, log, asked, printed.serves⟩
    | .error fault => ⟨1, "", log ++ fault.message, asked, none⟩

end Command

end EntityGraph
