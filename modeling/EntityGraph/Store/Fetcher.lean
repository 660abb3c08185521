import EntityGraph.Error
import EntityGraph.Trace
import EntityGraph.Store.Path

/-!
# Fetchers

A fetcher answers which text the document at a path holds. Documents in memory are there right
away, documents in a directory have to be waited for. As the answer is a function of the path, the
content of a store does not change while it is being read.
-/

namespace EntityGraph

/-- A source of documents. -/
structure Fetcher where
  answer : String → RunResult FetchError String

/-- Documents by path; of two documents at one path the first counts. -/
abbrev Documents := List (String × String)

namespace Documents

/-- Adds a document, replacing the one at its path. -/
def insert (documents : Documents) (path content : String) : Documents :=
  (path, content) :: documents.filter fun d => d.1 ≠ path

def ofList (pairs : List (String × String)) : Documents :=
  pairs.foldl (fun documents d => insert documents d.1 d.2) []

end Documents

namespace Fetcher

/-- Asks for the document at a path. -/
def fetch (fetcher : Fetcher) (path : String) : RunResult FetchError String :=
  Eventual.andThen (Eventual.note (.fetch path)) fun _ => fetcher.answer path

/-- Documents held in memory. -/
def memory (documents : Documents) : Fetcher where
  answer path :=
    (Run.log .fetcher .trace s!"Fetch in-memory document '{path}'").andThen fun _ =>
      match documents.lookup path with
      | some content => EventualResult.ok content
      | none => EventualResult.fail (.notFound path)

/-- The same answers, each of them a round later. -/
def deferred (fetcher : Fetcher) : Fetcher where
  answer path := (fetcher.answer path).later

/-- Documents in the directory `root`, `read` being the content of the file at a full path. A path
    leading out of the directory is refused without reading anything. -/
def directory (root : String) (read : String → Except FileFault String) : Fetcher where
  answer path :=
    match Path.below? root path with
    | none => EventualResult.fail (.invalidPath path)
    | some full =>
      Eventual.onDemand <|
        (Run.log .fetcher .trace s!"Read document '{path}' from {full}").andThen fun _ =>
          Eventual.later <| match read full with
            | .ok content => EventualResult.ok content
            | .error .notFound => EventualResult.fail (.notFound path)
            | .error fault => EventualResult.fail (.io full fault)

end Fetcher

end EntityGraph
