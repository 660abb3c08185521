import EntityGraph.Settings.Basic

/-!
# Command line arguments

Options have a long name and most of them a short one; a value follows as the next argument, or
directly, perhaps behind an equals sign. An option waits for its value until another option or the
end comes; only then is the value looked at.

* `Arguments.read`: the arguments of a command line, or why there are none;
* `ArgumentFault.message`: what is wrong with a command line.
-/

namespace EntityGraph

inductive CommandOption where
  | config
  | dataDirectory
  | httpPort
  | schemaPath
  | indexPath
  | query
  | queryVariables
  | printSchema
  | logLevel
  | help
  | version
deriving DecidableEq, Repr

namespace CommandOption

def all : List CommandOption :=
  [config, dataDirectory, httpPort, schemaPath, indexPath, query, queryVariables, printSchema,
    logLevel, help, version]

def long : CommandOption → String
  | config => "config"
  | dataDirectory => "data-dir"
  | httpPort => "http-port"
  | schemaPath => "schema-path"
  | indexPath => "index-path"
  | query => "query"
  | queryVariables => "variables"
  | printSchema => "print-schema"
  | logLevel => "log-level"
  | help => "help"
  | version => "version"

def short? : CommandOption → Option Char
  | config => some 'c'
  | dataDirectory => some 'd'
  | httpPort => some 'p'
  | schemaPath => some 's'
  | indexPath => some 'i'
  | query => some 'q'
  | queryVariables => none
  | printSchema => none
  | logLevel => some 'l'
  | help => some 'h'
  | version => some 'V'

/-- What the value of an option is called, if it has one. -/
def valueName? : CommandOption → Option String
  | config | dataDirectory | schemaPath | indexPath => some "PATH"
  | httpPort => some "PORT"
  | query => some "QUERY"
  | queryVariables => some "JSON"
  | logLevel => some "LEVEL"
  | printSchema | help | version => none

def about : CommandOption → String
  | config => "Configuration file"
  | dataDirectory => "Directory holding the documents"
  | httpPort => "Number of the socket queries are served at"
  | schemaPath => "Path of the schema document"
  | indexPath => "Path of the index document"
  | query => "Execute a query and print its response"
  | queryVariables => "Variables of the query"
  | printSchema => "Print the schema"
  | logLevel => "Level of the log"
  | help => "Print help"
  | version => "Print version"

/-- The option as it is written with its value. -/
def shown (o : CommandOption) : String :=
  "--" ++ o.long ++ (o.valueName?.elim "" fun name => " <" ++ name ++ ">")

def ofLong? (name : String) : Option CommandOption := all.find? fun o => o.long = name

def ofShort? (letter : Char) : Option CommandOption := all.find? fun o => o.short? = some letter

/-- The value of an option must not be empty. -/
def needsText : CommandOption → Bool
  | config | dataDirectory => true
  | _ => false

end CommandOption

/-- Why a text is no number of a socket. -/
inductive PortFault where
  | empty
  | invalidDigit
  | tooLarge
  | tooSmall
  | outOfRange (n : Int)
deriving DecidableEq, Repr

def PortFault.message : PortFault → String
  | .empty => "cannot parse integer from empty string"
  | .invalidDigit => "invalid digit found in string"
  | .tooLarge => "number too large to fit in target type"
  | .tooSmall => "number too small to fit in target type"
  | .outOfRange n => s!"{String.ofList (Json.intChars n)} is not in 0..=65535"

inductive ArgumentFault where
  | unexpected (argument : String)
  | invalidPort (value : String) (fault : PortFault)
  | missingValue (o : CommandOption)
  | needlessValue (o : CommandOption) (value : String)
  | repeated (o : CommandOption)
  | conflict (o other : CommandOption)
  | required (o : CommandOption)
deriving DecidableEq, Repr

def ArgumentFault.message : ArgumentFault → String
  | .unexpected argument => s!"unexpected argument '{argument}' found"
  | .invalidPort value fault =>
    s!"invalid value '{value}' for '{CommandOption.httpPort.shown}': {fault.message}"
  | .missingValue o => s!"a value is required for '{o.shown}' but none was supplied"
  | .needlessValue o value =>
    s!"unexpected value '{value}' for '{o.shown}' found; no more were expected"
  | .repeated o => s!"the argument '{o.shown}' cannot be used multiple times"
  | .conflict o other => s!"the argument '{o.shown}' cannot be used with '{other.shown}'"
  | .required o => s!"the following required arguments were not provided:\n  {o.shown}"

/-! ### Numbers of sockets -/

namespace PortFault

/-- Reads digits behind a sign, stopping as soon as the number does not fit 64 bits. -/
def digits (negative : Bool) (acc : Nat) : List Char → Except PortFault Int
  | [] => .ok (if negative then -acc else acc)
  | c :: rest =>
    if !c.isDigit then .error .invalidDigit
    else
      let n := acc * 10 + (c.toNat - '0'.toNat)
      if negative ∧ 0x8000000000000000 < n then .error .tooSmall
      else if !negative ∧ 0x7fffffffffffffff < n then .error .tooLarge
      else digits negative n rest

/-- The integer a text stands for. -/
def integer (text : String) : Except PortFault Int :=
  match text.toList with
  | [] => .error .empty
  | [c] => digits false 0 [c]
  | '-' :: rest => digits true 0 rest
  | '+' :: rest => digits false 0 rest
  | cs => digits false 0 cs

/-- The number of a socket a text stands for. -/
def socketNumber (text : String) : Except PortFault UInt16 := do
  let n ← integer text
  if 0 ≤ n ∧ n < UInt16.size then .ok (UInt16.ofNat n.toNat) else .error (.outOfRange n)

end PortFault

/-! ### Reading -/

/-- An option as it was given; the value of an option without one is empty. -/
structure GivenOption where
  option : CommandOption
  value : String
deriving DecidableEq, Repr

/-- Why a command line is not carried out. -/
inductive ArgumentStop where
  | fault (f : ArgumentFault)
  | help
  | version
deriving DecidableEq, Repr

/-- The options read so far, and the one which waits for a value or has just been given it. -/
structure ArgumentProgress where
  given : List GivenOption
  waiting : Option (CommandOption × Option String)

namespace ArgumentProgress

/-- Takes an option with its value. -/
def take (p : ArgumentProgress) (o : CommandOption) (value : String) :
    Except ArgumentStop ArgumentProgress :=
  if p.given.any fun g => g.option = o then .error (.fault (.repeated o))
  else if o.needsText ∧ value = "" then .error (.fault (.missingValue o))
  else
    let taken : ArgumentProgress := { p with given := p.given ++ [⟨o, value⟩] }
    if o = .httpPort then
      match PortFault.socketNumber value with
      | .error fault => .error (.fault (.invalidPort value fault))
      | .ok _ => .ok taken
    else .ok taken

/-- Takes the option which waits. -/
def settle (p : ArgumentProgress) : Except ArgumentStop ArgumentProgress :=
  match p.waiting with
  | none => .ok p
  | some (o, none) => .error (.fault (.missingValue o))
  | some (o, some value) => { p with waiting := none }.take o value

/-- An option with a value, perhaps one given with it. -/
def valued (p : ArgumentProgress) (o : CommandOption) (value : Option String) :
    Except ArgumentStop ArgumentProgress := do
  let p ← p.settle
  match value with
  | some value => p.take o value
  | none => return { p with waiting := some (o, none) }

/-- An option without value. -/
def plain (p : ArgumentProgress) (o : CommandOption) : Except ArgumentStop ArgumentProgress := do
  let p ← p.settle
  match o with
  | .help => throw .help
  | .version => throw .version
  | o => p.take o ""

/-- An argument behind two dashes, its value behind an equals sign. -/
def long (p : ArgumentProgress) (argument : List Char) : Except ArgumentStop ArgumentProgress :=
  let name := String.ofList (argument.takeWhile (· ≠ '='))
  let value := match argument.dropWhile (· ≠ '=') with
    | _ :: rest => some (String.ofList rest)
    | [] => none
  match CommandOption.ofLong? name with
  | none => .error (.fault (.unexpected ("--" ++ name)))
  | some o =>
    match o.valueName?, value with
    | some _, value => p.valued o value
    | none, some value => .error (.fault (.needlessValue o value))
    | none, none => p.plain o

/-- Letters behind one dash: options without value, and at most one with a value, which is the
    rest. -/
def short (p : ArgumentProgress) : List Char → Except ArgumentStop ArgumentProgress
  | [] => .ok p
  | letter :: rest =>
    match CommandOption.ofShort? letter with
    | none => .error (.fault (.unexpected (String.ofList ['-', letter])))
    | some o =>
      match o.valueName?, rest with
      | none, rest => do short (← p.plain o) rest
      | some _, [] => p.valued o none
      | some _, '=' :: value => p.valued o (some (String.ofList value))
      | some _, value => p.valued o (some (String.ofList value))

/-- An argument which is no option: the value of the one which waits. -/
def word (p : ArgumentProgress) (argument : String) : Except ArgumentStop ArgumentProgress :=
  match p.waiting with
  | some (o, none) => .ok { p with waiting := some (o, some argument) }
  | _ => .error (.fault (.unexpected argument))

/-- Reads arguments; behind two dashes alone none may follow. -/
def readAll (p : ArgumentProgress) : List String → Except ArgumentStop ArgumentProgress
  | [] => p.settle
  | argument :: rest =>
    match argument.toList with
    | ['-', '-'] =>
      match rest with
      | [] => p.settle
      | other :: _ => .error (.fault (.unexpected other))
    | '-' :: '-' :: cs => do readAll (← p.long cs) rest
    | '-' :: c :: cs => do readAll (← p.short (c :: cs)) rest
    | _ => do readAll (← p.word argument) rest

end ArgumentProgress

/-- What the command is told to do. -/
inductive CommandAction where
  /-- Answer queries over HTTP. -/
  | serve
  | query (text : String) (variableText : Option String)
  | printSchema
deriving DecidableEq, Repr

structure Arguments where
  /-- The configuration file. -/
  config : Option String
  action : CommandAction
  /-- Settings given as options. -/
  layer : SettingLayer

namespace Arguments

/-- The setting an option gives. -/
def settingOf? : CommandOption → Option Setting
  | .dataDirectory => some .dataDirectory
  | .httpPort => some .httpPort
  | .schemaPath => some .schemaPath
  | .indexPath => some .indexPath
  | .logLevel => some .logLevel
  | _ => none

def settingValue (o : CommandOption) (value : String) : SettingValue :=
  match o, PortFault.socketNumber value with
  | .httpPort, .ok n => .unsigned n.toNat
  | _, _ => .text value

/-- Options which exclude each other, or need each other, are refused. -/
def check (given : List CommandOption) : Except ArgumentFault Unit :=
  let excluding := given.filter fun o => o = .query ∨ o = .printSchema
  match excluding with
  | first :: second :: _ => .error (.conflict first second)
  | _ =>
    if .queryVariables ∈ given ∧ excluding.isEmpty then .error (.required .query) else .ok ()

/-- The arguments of options. -/
def ofGiven (given : List GivenOption) : Arguments :=
  let value? (o : CommandOption) : Option String :=
    (given.find? fun g => g.option = o).map (·.value)
  let action := match value? .query with
    | some text => CommandAction.query text (value? .queryVariables)
    | none => if (value? .printSchema).isSome then .printSchema else .serve
  let values := given.filterMap fun g =>
    (settingOf? g.option).map fun s => (s.name, settingValue g.option g.value)
  ⟨value? .config, action, ⟨.command, values⟩⟩

/-- Reads a command line without the name of the program. -/
def read (arguments : List String) : Except ArgumentStop Arguments := do
  let progress ← ArgumentProgress.readAll ⟨[], none⟩ arguments
  match check (progress.given.map (·.option)) with
  | .error f => throw (.fault f)
  | .ok () => return ofGiven progress.given

end Arguments

end EntityGraph
