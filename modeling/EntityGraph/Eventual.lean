/-!
# Eventual values

An eventual value is either there right away or has to be waited for. It also tells what was done
to obtain it. What happens goes on in *rounds*: a few events happen before waiting, and while the
value is waited for, some more happen in each round, until the value is there at the end of the
last one. Values which are waited for together take their rounds together, so the events of one
round come in the order of the values.

* `Eventual.andThen`: continues with a value; on a value which is not ready nothing of the
  continuation happens before waiting;
* `Eventual.joinAll`: waits for several values, ready if all of them are;
* `Eventual.wait`: the value in the end;
* `EventualResult.sideBySide`: waits for several values until one of them fails.
-/

namespace EntityGraph

/-- A value of type `α` and the events of type `ε` on the way to it. -/
structure Eventual (ε : Type) (α : Type) where
  /-- What has happened before waiting. -/
  done : List ε
  /-- What happens in the rounds of waiting. The value is ready if there are none. -/
  rounds : List (List ε)
  /-- The value in the end. -/
  wait : α

namespace Rounds

variable {ε : Type}

/-- Rounds taken together. -/
def merge : List (List ε) → List (List ε) → List (List ε)
  | [], rounds => rounds
  | rounds, [] => rounds
  | a :: as, b :: bs => (a ++ b) :: merge as bs

/-- Rounds one after the other: what comes later begins in the last round of what comes first. -/
def append : List (List ε) → List (List ε) → List (List ε)
  | [], later => later
  | rounds, [] => rounds
  | [last], first :: later => (last ++ first) :: later
  | round :: rounds, later => round :: append rounds later

end Rounds

namespace Eventual

variable {ε δ α β : Type}

def pure (value : α) : Eventual ε α := ⟨[], [], value⟩

/-- Nothing but an event. -/
def note (event : ε) : Eventual ε Unit := ⟨[event], [], ()⟩

def isReady (e : Eventual ε α) : Bool := e.rounds.isEmpty

/-- What happens once the value is waited for. -/
def awaited (e : Eventual ε α) : List ε := e.rounds.flatten

/-- Everything that has happened in the end. -/
def events (e : Eventual ε α) : List ε := e.done ++ e.awaited

/-- The same value a round later. What is done before waiting stays so. -/
def later (e : Eventual ε α) : Eventual ε α :=
  ⟨e.done, [] :: (if e.isReady then [[]] else e.rounds), e.wait⟩

/-- The rounds if nothing happens before waiting. -/
def allRounds (e : Eventual ε α) : List (List ε) :=
  match e.rounds with
  | [] => [e.done]
  | first :: rest => (e.done ++ first) :: rest

/-- The same value, nothing being done for it before it is waited for. -/
def onDemand (e : Eventual ε α) : Eventual ε α := ⟨[], e.allRounds, e.wait⟩

/-- Continues with the value, right away or once it was waited for. -/
def andThen (e : Eventual ε α) (f : α → Eventual ε β) : Eventual ε β :=
  let next := f e.wait
  if e.isReady then ⟨e.done ++ next.done, next.rounds, next.wait⟩
  else ⟨e.done, Rounds.append e.rounds next.allRounds, next.wait⟩

def map (f : α → β) (e : Eventual ε α) : Eventual ε β := ⟨e.done, e.rounds, f e.wait⟩

/-- The same value with events in place of others. -/
def mapEvents (f : ε → δ) (e : Eventual ε α) : Eventual δ α :=
  ⟨e.done.map f, e.rounds.map (·.map f), e.wait⟩

/-- The same value with events in place of some of the others. -/
def filterMapEvents (f : ε → Option δ) (e : Eventual ε α) : Eventual δ α :=
  ⟨e.done.filterMap f, e.rounds.map (·.filterMap f), e.wait⟩

instance : Monad (Eventual ε) where
  pure := Eventual.pure
  bind := Eventual.andThen

/-- Waits for all values. They were all started before, in order. -/
def joinAll (items : List (Eventual ε α)) : Eventual ε (List α) :=
  ⟨items.flatMap (·.done), items.foldr (fun e rounds => Rounds.merge e.rounds rounds) [],
    items.map (·.wait)⟩

end Eventual

/-- An eventual value or a failure. -/
abbrev EventualResult (ε σ α : Type) := Eventual ε (Except σ α)

namespace EventualResult

variable {ε σ τ α β : Type}

def ok (value : α) : EventualResult ε σ α := Eventual.pure (.ok value)

def fail (failure : σ) : EventualResult ε σ α := Eventual.pure (.error failure)

/-- Continues with a value; a failure stays as it is. -/
def andThen (e : EventualResult ε σ α) (f : α → EventualResult ε σ β) : EventualResult ε σ β :=
  Eventual.andThen e fun
    | .ok value => f value
    | .error failure => fail failure

def mapError (f : σ → τ) (e : EventualResult ε σ α) : EventualResult ε τ α :=
  Eventual.map (Except.mapError f) e

/-- Obtains values one after the other; nothing happens behind a failure. -/
def inTurn (f : α → EventualResult ε σ β) : List α → EventualResult ε σ (List β)
  | [] => ok []
  | a :: rest => andThen (f a) fun b => andThen (inTurn f rest) fun more => ok (b :: more)

/-- Waits for all values; of several failures the first one in order is reported. -/
def joinAll (items : List (EventualResult ε σ α)) : EventualResult ε σ (List α) :=
  (Eventual.joinAll items).map fun results => results.mapM id

/-- Waits for a value together with those behind it, until something fails. In the round of a
    failure nothing happens any more behind it. -/
def besides (first : EventualResult ε σ α) (rest : EventualResult ε σ (List α)) :
    EventualResult ε σ (List α) :=
  let a := first.allRounds
  let b := rest.allRounds
  match first.wait, rest.wait with
  | .ok value, .ok values => ⟨[], Rounds.merge a b, .ok (value :: values)⟩
  | .ok _, .error failure => ⟨[], Rounds.merge (a.take b.length) b, .error failure⟩
  | .error failure, .ok _ => ⟨[], Rounds.merge a (b.take (a.length - 1)), .error failure⟩
  | .error failure, .error other =>
    if a.length ≤ b.length then
      ⟨[], Rounds.merge a (b.take (a.length - 1)), .error failure⟩
    else ⟨[], Rounds.merge (a.take b.length) b, .error other⟩

/-- Obtains values side by side until the first one in time fails, and of those which fail in one
    round the first one in order. -/
def sideBySide (f : α → EventualResult ε σ β) (items : List α) : EventualResult ε σ (List β) :=
  items.foldr (fun a rest => besides (f a) rest) (ok [])

end EventualResult

end EntityGraph
