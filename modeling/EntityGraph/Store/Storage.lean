import EntityGraph.Store.Lookup

/-!
# Storage

A fetcher and a lookup together: the entity of a key is the document at the path its key leads to.
-/

namespace EntityGraph

structure Storage where
  fetcher : Fetcher
  lookup : Lookup

namespace Storage

/-- The path of an entity. -/
def path? (storage : Storage) (key : EntityKey) : RunResult ResolveError (Option String) :=
  Eventual.andThen (Eventual.note (.lookup key)) fun _ => storage.lookup key storage.fetcher

/-- The object a document holds. -/
def parseDocument (path content : String) : Except ResolveError Json.Fields :=
  match Json.read? content with
  | some (.object fields) => .ok fields
  | _ => .error (.invalidDocument path)

/-- Looks up an entity and fetches its document. -/
def entity (storage : Storage) (key : EntityKey) : RunResult ResolveError Json.Fields :=
  EventualResult.andThen (storage.path? key) fun
    | some path =>
      EventualResult.andThen (EventualResult.mapError .fetch (storage.fetcher.fetch path))
        fun content => Eventual.pure (parseDocument path content)
    | none => EventualResult.fail (.keyNotFound (EntityKey.encode key))

end Storage

end EntityGraph
