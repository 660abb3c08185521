import EntityGraph.Execution.Execute
import EntityGraph.Http.Multipart

/-!
# Request bodies

The body of a request is a JSON object with the query, the name of an operation and variables. It
may as well be the list of these values in order. What is missing is empty, other fields do not
matter.

A body of several parts has such a body in its part `operations`. Further parts are files; the part
`map` tells which variables stand for them.
-/

namespace EntityGraph

namespace Request

def empty : Request := ⟨"", [], none⟩

/-- The only value written under a name; a name written twice is a mistake. -/
def onlyField (name : String) (fields : List (String × Json)) : Except Unit (Option Json) :=
  match fields.filter fun f => f.1 = name with
  | [] => .ok none
  | [(_, v)] => .ok (some v)
  | _ => .error ()

def queryOf : Option Json → Except Unit String
  | none => .ok ""
  | some (.string s) => .ok s
  | _ => .error ()

def operationOf : Option Json → Except Unit (Option String)
  | none | some .null => .ok none
  | some (.string s) => .ok (some s)
  | _ => .error ()

/-- The fields of an object, none for `null`. -/
def variableValuesOf : Option Json → Except Unit Json
  | none | some .null => .ok (.object [])
  | some (.object fields) => .ok (.object fields)
  | _ => .error ()

def checkExtensions : Option Json → Except Unit Unit
  | none | some (.object _) => .ok ()
  | _ => .error ()

/-- The request of its parts; extensions are read and left out. -/
def ofParts (query operation variableValues extensions : Option Json) : Except Unit Request := do
  let query ← queryOf query
  let operation ← operationOf operation
  let values ← variableValuesOf variableValues
  checkExtensions extensions
  return ⟨query, variablesOf values, operation⟩

def ofObject (fields : List (String × Json)) : Except Unit Request := do
  ofParts (← onlyField "query" fields) (← onlyField "operationName" fields)
    (← onlyField "variables" fields) (← onlyField "extensions" fields)

def ofList (items : List Json) : Except Unit Request :=
  if 4 < items.length then .error ()
  else ofParts items[0]? items[1]? items[2]? items[3]?

/-- The request a JSON text stands for. -/
def ofText (body : String) : Except Unit Request :=
  match Json.read? body with
  | some (.object _) => ofObject ((Json.readFields? body).getD [])
  | some (.array items) => ofList items
  | _ => .error ()

/-! ### Several parts -/

/-- What stands for a file among the values of variables. -/
def filePlace (index : Nat) : Constant := .string ("#__graphql_file__:" ++ Text.decimal index)

/-- Sets a value inside of another one, `none` if it has no such place. -/
def setWithin (value : Constant) : List String → Constant → Option Constant
  | [], _ => some value
  | step :: steps, .list items => do
    let i ← step.toNat?
    let item ← items[i]?
    return .list (items.set i (← setWithin value steps item))
  | step :: steps, .object fields => do
    let field ← fields.lookup step
    return .object (Literal.setField step (← setWithin value steps field) fields)
  | _, _ => none

/-- Puts a file at a place among the variables, if there is such a place. -/
def putFile (request : Request) (files : Nat) (place : String) : Request × Nat :=
  match place.splitOn "." with
  | "variables" :: name :: steps =>
    match setWithin (filePlace files) (name :: steps) (.object request.variableValues) with
    | some (.object fields) => ({ request with variableValues := fields }, files + 1)
    | _ => (request, files)
  | _ => (request, files)

/-- The places of files by the names of their parts. -/
def filePlaces? (text : String) : Option (List (String × List String)) :=
  match Json.read? text with
  | some (.object fields) => fields.mapM fun (name, v) =>
    match v with
    | .array places => (places.mapM Json.asString?).map (name, ·)
    | _ => none
  | _ => none

/-- The request a body of several parts stands for. Every file the map speaks of has to be there. -/
def ofMultipart (parts : List Multipart.Part) : Except Unit Request := do
  let texts (name : String) := (parts.filter fun p => p.name? = some name).map (·.content)
  let requests ← (texts "operations").mapM ofText
  let maps ← (texts "map").mapM fun text => (filePlaces? text).elim (.error ()) .ok
  match requests.getLast?, maps.getLast? with
  | some request, some map =>
    let files := (parts.filter fun p => p.fileName?.isSome).filterMap (·.name?)
    let files := files.filter fun name => name ≠ "operations" && name ≠ "map"
    if map.all fun (name, _) => files.contains name then
      let places := files.eraseDups.flatMap fun name => (map.lookup name).getD []
      return (places.foldl (fun (r, n) place => putFile r n place) (request, 0)).1
    else .error ()
  | _, _ => .error ()

/-- The request a body of a media type stands for. -/
def ofBody (type : MediaType) (body : String) : Except Unit Request :=
  if type.isMultipart then
    match (type.parameter? "boundary").bind fun boundary => Multipart.parts? boundary body with
    | some parts => ofMultipart parts
    | none => .error ()
  else ofText body

end Request

end EntityGraph
