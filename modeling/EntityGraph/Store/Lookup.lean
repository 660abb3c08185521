import EntityGraph.Store.Fetcher
import EntityGraph.Text.Quoted

/-!
# Looking up keys

A lookup answers which document holds the data of an entity. The usual one reads an index: a
document which is a JSON object from encoded keys to paths. Entries which are `null` count as
missing.
-/

namespace EntityGraph

/-- The path of the document holding an entity, if there is one. -/
abbrev Lookup := EntityKey → Fetcher → RunResult ResolveError (Option String)

namespace Lookup

/-- The path of an encoded key in the text of an index. -/
def findPath (indexPath content encodedKey : String) : RunResult ResolveError (Option String) :=
  match Json.read? content with
  | some (.object index) =>
    let found (path : Option String) : RunResult ResolveError (Option String) :=
      (Run.log .lookup .trace
        s!"Lookup {encodedKey} in index resolved to {Text.optional Text.quoted path}").andThen
        fun _ => EventualResult.ok path
    match Json.Fields.get? encodedKey index with
    | some (.string path) => found (some path)
    | some .null | none => found none
    | some _ => EventualResult.fail (.invalidIndex indexPath)
  | _ => EventualResult.fail (.invalidIndex indexPath)

/-- The lookup in the index at a path. -/
def index (indexPath : String) : Lookup := fun key fetcher =>
  EventualResult.andThen (EventualResult.mapError .fetch (fetcher.fetch indexPath)) fun content =>
    findPath indexPath content (EntityKey.encode key)

end Lookup

end EntityGraph
