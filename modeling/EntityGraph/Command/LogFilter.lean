import EntityGraph.Regex.Reader
import EntityGraph.Trace

/-!
# Log filters

A filter tells which log records are shown: directives allow records up to a level, all of them or
those of one part of the program, of which the most specific one counts; a regular expression may
have to occur in the message.

* `LogFilter.ofSpec`: the filter a text stands for, and the parts of the text which do not count;
* `LogFilter.admits`: whether a record is shown.
-/

namespace EntityGraph

/-- Records up to a level, or none. -/
abbrev LogLimit := Option LogLevel

structure LogDirective where
  /-- What the source of a record starts with. -/
  target : String
  limit : LogLimit
deriving DecidableEq, Repr

structure LogFilter where
  directives : List LogDirective
  pattern : Option Regex
deriving DecidableEq, Repr

namespace LogFilter

def limits : List (String × LogLimit) :=
  [("off", none), ("error", some .error), ("warn", some .warn), ("info", some .info),
    ("debug", some .debug), ("trace", some .trace)]

/-- The limit a word stands for, in any case. -/
def limit? (word : String) : Option LogLimit :=
  limits.lookup (String.ofList (word.toList.map Char.toLower))

def withinLimit (level : LogLevel) : LogLimit → Bool
  | none => false
  | some limit => level.rank ≤ limit.rank

/-- The last of the directives which are most specific for a source. -/
def directiveFor? (directives : List LogDirective) (target : String) : Option LogDirective :=
  (directives.filter fun d => d.target.toList.isPrefixOf target.toList).foldl
    (fun best d => match best with
      | none => some d
      | some b => if b.target.utf8ByteSize ≤ d.target.utf8ByteSize then some d else some b) none

def admits (f : LogFilter) (r : LogRecord) : Bool :=
  (directiveFor? f.directives r.target).any (fun d => withinLimit r.level d.limit)
    && f.pattern.all fun p => p.occursIn r.message

/-- A filter without directives lets errors through. -/
def ofDirectives (directives : List LogDirective) (pattern : Option Regex) : LogFilter :=
  ⟨if directives.isEmpty then [⟨"", some .error⟩] else directives, pattern⟩

/-! ### Text -/

/-- The parts of a text between separators. -/
def split (separator : Char) : List Char → List (List Char)
  | [] => [[]]
  | c :: rest =>
    match split separator rest with
    | [] => [[c]]
    | part :: parts => if c = separator then [] :: part :: parts else (c :: part) :: parts

/-- The directive of a part of a text, nothing for an empty part, or what does not count. -/
def directive? (part : List Char) : Except String (Option LogDirective) :=
  let text := String.ofList part
  let most : LogLimit := some .trace
  match split '=' part with
  | [[]] => .ok none
  | [_] =>
    .ok (some ((limit? text).elim ⟨text, most⟩ fun limit => ⟨"", limit⟩))
  | [target, level] =>
    let level := String.ofList (Text.trim level)
    if level = "" then .ok (some ⟨String.ofList target, most⟩)
    else match limit? level with
      | some limit => .ok (some ⟨String.ofList target, limit⟩)
      | none => .error level
  | _ => .error text

/-- What is said about a part of a text which does not count. -/
def warning (part : String) : String := s!"warning: invalid logging spec '{part}', ignoring it"

/-- The regular expression behind the slash, or what is said about it if it is none. -/
def patternOf (text : String) : Option Regex × List String :=
  match Regex.read text with
  | .ok r => (some r, [])
  | .error fault => (none, ["warning: invalid regex filter - " ++ fault.shown text])

/-- The filter a text stands for: directives separated by commas, and a regular expression behind a
    slash. -/
def ofSpec (spec : String) : LogFilter × List String :=
  let ofParts (directives : List Char) (pattern : Option Regex × List String) :
      LogFilter × List String :=
    let read := (split ',' directives).map fun part => directive? (Text.trim part)
    (ofDirectives (read.filterMap fun r => r.toOption.join) pattern.1,
      (read.filterMap fun r => match r with
        | .error part => some (warning part)
        | .ok _ => none) ++ pattern.2)
  match split '/' spec.toList with
  | [] => ofParts [] (none, [])
  | [directives] => ofParts directives (none, [])
  | [directives, pattern] => ofParts directives (patternOf (String.ofList pattern))
  | _ => (ofDirectives [] none, [warning spec ++ " (too many '/'s)"])

/-- The filter of a level for everything below a source, or else the one a text stands for. -/
def ofLevel (target level : String) : LogFilter × List String :=
  match limit? level with
  | some limit => (⟨[⟨target, limit⟩], none⟩, [])
  | none => ofSpec level

end LogFilter

end EntityGraph
