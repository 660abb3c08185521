import EntityGraph.Eventual
import EntityGraph.Key

/-!
# What happens on the way

Resolving a field looks up keys, fetches documents and tells about it in log records. These are the
events an eventual value carries along.
-/

namespace EntityGraph

/-- Importance of a log record. -/
inductive LogLevel where
  | error
  | warn
  | info
  | debug
  | trace
deriving DecidableEq, Repr

namespace LogLevel

def rank : LogLevel → Nat
  | .error => 1
  | .warn => 2
  | .info => 3
  | .debug => 4
  | .trace => 5

def name : LogLevel → String
  | .error => "ERROR"
  | .warn => "WARN"
  | .info => "INFO"
  | .debug => "DEBUG"
  | .trace => "TRACE"

end LogLevel

/-- A line of the log and the part of the program it comes from. -/
structure LogRecord where
  level : LogLevel
  target : String
  message : String
deriving DecidableEq, Repr

inductive Event where
  /-- The path of a key was asked for. -/
  | lookup (key : EntityKey)
  /-- A document was asked for. -/
  | fetch (path : String)
  | log (record : LogRecord)

namespace Event

def log? : Event → Option LogRecord
  | .log record => some record
  | _ => none

def fetch? : Event → Option String
  | .fetch path => some path
  | _ => none

def lookup? : Event → Option EntityKey
  | .lookup key => some key
  | _ => none

end Event

/-- The parts of the program which write log records. -/
inductive LogSource where
  | command
  | schema
  | typeSystem
  | queryByKey
  | node
  | resolvers
  | fetcher
  | lookup
  | http
deriving DecidableEq, Repr

def LogSource.target : LogSource → String
  | .command => "jiraph"
  | .schema => "jiraph::graphql::schema"
  | .typeSystem => "jiraph::graphql::type_system"
  | .queryByKey => "jiraph::graphql::query_by_key"
  | .node => "jiraph::graphql::node"
  | .resolvers => "jiraph::graphql::resolvers"
  | .fetcher => "jiraph::fetcher"
  | .lookup => "jiraph::lookup"
  | .http => "jiraph::http::service"

def LogSource.record (source : LogSource) (level : LogLevel) (message : String) : LogRecord :=
  ⟨level, source.target, message⟩

/-- An eventual value whose events are those of a run. -/
abbrev Run (α : Type) := Eventual Event α

/-- An eventual value or a failure. -/
abbrev RunResult (σ α : Type) := EventualResult Event σ α

/-- Writes a log record. -/
def Run.log (source : LogSource) (level : LogLevel) (message : String) : Run Unit :=
  Eventual.note (.log (source.record level message))

end EntityGraph
