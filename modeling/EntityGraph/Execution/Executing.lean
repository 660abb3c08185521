import EntityGraph.Execution.Response
import EntityGraph.Trace

/-!
# Executing

The execution of a query obtains data as an eventual value or fails. An error below a place which
may be `null` does not end it: the error is reported, and `null` takes the place.

* `Executing.orNull`: an execution which reports its failure;
* `Executing.response`: the response once an execution has come to its end.
-/

namespace EntityGraph

/-- What happens during an execution. -/
inductive ExecutionEvent where
  | resolving (e : Event)
  | reported (e : ResponseError)

namespace ExecutionEvent

def resolving? : ExecutionEvent → Option Event
  | .resolving e => some e
  | .reported _ => none

def reported? : ExecutionEvent → Option ResponseError
  | .reported e => some e
  | .resolving _ => none

end ExecutionEvent

/-- A value which is obtained in the end unless the execution fails. -/
abbrev Executing (α : Type) := EventualResult ExecutionEvent ResponseError α

namespace Executing

def ofRun {α : Type} (e : RunResult ResponseError α) : Executing α := e.mapEvents .resolving

def failAt {α : Type} (p : Position) (path : List PathSegment) (fault : ExecutionFault) :
    Executing α :=
  EventualResult.fail ⟨.execution fault, [p], path⟩

/-- A failure is reported and leaves `null`. -/
def orNull (e : Executing Data) : Executing Data :=
  Eventual.andThen e fun
    | .ok d => EventualResult.ok d
    | .error failure => ⟨[.reported failure], [], .ok .null⟩

/-- The data with all errors reported, or no data and the failure in front of these. -/
def response (e : Executing Data) : Run Response :=
  let reported := e.events.filterMap ExecutionEvent.reported?
  (e.filterMapEvents ExecutionEvent.resolving?).map fun
    | .ok data => ⟨data, reported⟩
    | .error failure => Response.ofErrors (failure :: reported)

end Executing

end EntityGraph
