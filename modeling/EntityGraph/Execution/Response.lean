import EntityGraph.Text.Decimal
import EntityGraph.Error
import EntityGraph.Request.Violation

/-!
# Responses

What a request is answered: data in the order of its selections, or `null` and what went wrong.
-/

namespace EntityGraph

/-- The data of a response; fields stand in the order of selection. -/
inductive Data where
  /-- A value which is no array and no object. -/
  | leaf (v : Json)
  | list (items : List Data)
  | object (fields : List (String × Data))

namespace Data

def null : Data := .leaf .null

instance : Inhabited Data := ⟨null⟩

mutual

/-- The data of a JSON value. -/
def ofJson : Json → Data
  | .array items => .list (ofItems items)
  | .object fields => .object (ofJsonFields fields)
  | v => .leaf v

def ofItems : List Json → List Data
  | [] => []
  | v :: rest => ofJson v :: ofItems rest

def ofJsonFields : List (String × Json) → List (String × Data)
  | [] => []
  | (n, v) :: rest => (n, ofJson v) :: ofJsonFields rest

end

mutual

/-- The text of response data without white space. -/
def compact : Data → String
  | .leaf v => v.compact
  | .list items => "[" ++ String.intercalate "," (compactItems items) ++ "]"
  | .object fields => "\x7b" ++ String.intercalate "," (compactFields fields) ++ "\x7d"

def compactItems : List Data → List String
  | [] => []
  | d :: rest => compact d :: compactItems rest

def compactFields : List (String × Data) → List String
  | [] => []
  | (n, d) :: rest => (Json.quote n ++ ":" ++ compact d) :: compactFields rest

end

/-! ### Indented text -/

/-- The line end in front of something at a depth. -/
def lineAt (depth : Nat) : String := "\n" ++ String.ofList (List.replicate (2 * depth) ' ')

/-- Parts between brackets, each on lines of its own. -/
def enclosed (opening closing : String) (depth : Nat) (parts : List String) : String :=
  if parts.isEmpty then opening ++ closing
  else opening ++ String.intercalate "," (parts.map fun p => lineAt (depth + 1) ++ p)
    ++ lineAt depth ++ closing

mutual

/-- The text of data at a depth, every item and every field on lines of its own. -/
def indentedAt (depth : Nat) : Data → String
  | .leaf v => v.compact
  | .list items => enclosed "[" "]" depth (indentedItems (depth + 1) items)
  | .object fields => enclosed "\x7b" "\x7d" depth (indentedFields (depth + 1) fields)

def indentedItems (depth : Nat) : List Data → List String
  | [] => []
  | d :: rest => indentedAt depth d :: indentedItems depth rest

def indentedFields (depth : Nat) : List (String × Data) → List String
  | [] => []
  | (n, d) :: rest =>
    (Json.quote n ++ ": " ++ indentedAt depth d) :: indentedFields depth rest

end

/-- The text of data over several lines. -/
def indented (d : Data) : String := indentedAt 0 d

/-! ### Merging -/

mutual

/-- One value for a field which was selected twice: objects have the fields of both, and the items
    of lists which are objects in both are merged. -/
def merge : Data → Data → Data
  | .object fields, .object more => .object (mergeFields fields more)
  | .list items, .list more => .list (mergeItems items more)
  | d, _ => d
termination_by d e => (sizeOf e, sizeOf d)

/-- Adds fields to those of an object. -/
def mergeFields (fields : List (String × Data)) : List (String × Data) → List (String × Data)
  | [] => fields
  | (n, d) :: more => mergeFields (addField fields n d) more
termination_by more => (sizeOf more, sizeOf fields)

/-- Adds a field to those of an object, merging it with one of the same name. -/
def addField (fields : List (String × Data)) (n : String) (d : Data) : List (String × Data) :=
  match fields with
  | [] => [(n, d)]
  | (m, e) :: rest => if m = n then (m, merge e d) :: rest else (m, e) :: addField rest n d
termination_by (sizeOf d, sizeOf fields)

def mergeItems : List Data → List Data → List Data
  | .object fields :: rest, .object more :: others =>
    .object (mergeFields fields more) :: mergeItems rest others
  | d :: rest, _ :: others => d :: mergeItems rest others
  | items, _ => items
termination_by items more => (sizeOf more, sizeOf items)

end

/-- The object of fields, those of one name merged. -/
def ofFields (fields : List (String × Data)) : Data := .object (mergeFields [] fields)

end Data

/-! ### Errors -/

/-- A step on the way to a value of a response. -/
inductive PathSegment where
  | key (name : String)
  | index (n : Nat)
deriving DecidableEq, Repr

/-- Why a query was not executed to the end. -/
inductive ExecutionFault where
  | resolve (e : ResolveError)
  | undefinedVariable (name : String)
  /-- The value of an argument is not of its type. -/
  | unexpectedInput (type : String) (found : Constant)
  | missingValue
  | notAList
  | scalarShape (scalar : String)
  | enumItem (enum : String)
  | enumShape (enum : String)
  | interfaceShape (interface : String)
  | notImplemented (object interface : String)
  | unionShape (union : String)
  | notMember (union object : String)
  | inputAsOutput (input : String)

def ExecutionFault.message : ExecutionFault → String
  | .resolve e => e.message
  | .undefinedVariable name => s!"Variable {name} is not defined."
  | .unexpectedInput type found =>
    "Expected input type \"" ++ type ++ "\", found " ++ found.text ++ "."
  | .missingValue => "internal: non-null types require a return value"
  | .notAList => "internal: expects an array"
  | .scalarShape scalar =>
    s!"internal: invalid value for scalar \"{scalar}\", expected \"FieldValue::Value\""
  | .enumItem enum => s!"internal: invalid item for enum \"{enum}\""
  | .enumShape enum =>
    s!"internal: invalid value for enum \"{enum}\", expected \"FieldValue::Value\""
  | .interfaceShape interface =>
    s!"internal: invalid value for interface \"{interface}\", expected \"FieldValue::WithType\""
  | .notImplemented object interface =>
    s!"internal: object \"{object}\" does not implement interface \"{interface}\""
  | .unionShape union =>
    s!"internal: invalid value for union \"{union}\", expected \"FieldValue::WithType\""
  | .notMember union object => s!"internal: union \"{union}\" does not contain object \"{object}\""
  | .inputAsOutput input => s!"internal: cannot use input object \"{input}\" as output value"

/-- Why a request has no data. -/
inductive RequestFault where
  | document (fault : ParseFault)
  | violation (v : QueryViolation)
  | unknownOperation (name : String)
  | operationRequired
  | execution (fault : ExecutionFault)

def RequestFault.message : RequestFault → String
  | .document fault => fault.message
  | .violation v => v.message
  | .unknownOperation name => s!"Unknown operation named \"{name}\""
  | .operationRequired => "Operation name required in request."
  | .execution fault => fault.message

/-- A fault, the places in the document it is about, and the way to the value it is about. -/
structure ResponseError where
  fault : RequestFault
  positions : List Position
  path : List PathSegment

structure Response where
  data : Data
  errors : List ResponseError

namespace Response

/-- A response without data. -/
def ofErrors (errors : List ResponseError) : Response := ⟨.null, errors⟩

def number (n : Nat) : Data := .leaf (Json.ofNat n)

def position (p : Position) : Data :=
  .object [("line", number p.line), ("column", number p.column)]

def segment : PathSegment → Data
  | .key name => .leaf (.string name)
  | .index n => number n

/-- A part of an object which is left out if it is empty. -/
def part (name : String) (items : List Data) : List (String × Data) :=
  if items.isEmpty then [] else [(name, .list items)]

def errorData (e : ResponseError) : Data :=
  .object (("message", .leaf (.string e.fault.message))
    :: part "locations" (e.positions.map position) ++ part "path" (e.path.map segment))

/-- A response as one object: its data, then its errors if there are any. -/
def toData (r : Response) : Data :=
  .object (("data", r.data) :: part "errors" (r.errors.map errorData))

/-- The text of a response without white space. -/
def text (r : Response) : String := r.toData.compact

end Response

end EntityGraph
