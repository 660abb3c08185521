import EntityGraph.Language.Diagnosis

/-!
# Errors

Three layers fail for different reasons: a document can not be had (`FetchError`), a schema can
not be built (`BuildError`), a field can not be resolved (`ResolveError`). Each cause is a
constructor, its wording is given once by `message`.
-/

namespace EntityGraph

/-- Why a file could not be read. -/
inductive FileFault where
  | notFound
  | notADirectory
  | isADirectory
  | nameTooLong
  | zeroInName
  | notText
deriving DecidableEq, Repr

def FileFault.message : FileFault → String
  | .notFound => "No such file or directory (os error 2)"
  | .notADirectory => "Not a directory (os error 20)"
  | .isADirectory => "Is a directory (os error 21)"
  | .nameTooLong => "File name too long (os error 36)"
  | .zeroInName => "file name contained an unexpected NUL byte"
  | .notText => "stream did not contain valid UTF-8"

/-- Why a document could not be had. -/
inductive FetchError where
  | notFound (path : String)
  /-- The path can not address a document, for example because it leaves the data directory. -/
  | invalidPath (path : String)
  /-- Reading the file at the full path failed. -/
  | io (path : String) (fault : FileFault)
deriving DecidableEq, Repr

def FetchError.message : FetchError → String
  | .notFound path => s!"document '{path}' does not exist"
  | .invalidPath path => s!"invalid document path '{path}'"
  | .io path fault => s!"could not read document '{path}': {fault.message}"

/-- What is wrong with a document written in the GraphQL language. -/
inductive ParseFault where
  /-- The text does not follow the grammar. -/
  | unexpected (diagnosis : Diagnosis)
  | multipleRoots (root : String)
  | missingQueryRoot
  | multipleOperations
  | operationDuplicated (name : String)
  | fragmentDuplicated (name : String)
  | missingOperation
  | tooDeep
  /-- The document holds a number which is out of range, as the words of the number tell. -/
  | invalidNumber (words : String)
deriving DecidableEq, Repr

def ParseFault.message : ParseFault → String
  | .unexpected diagnosis => diagnosis.text
  | .multipleRoots root => s!"multiple {root} roots in schema definition"
  | .missingQueryRoot => "schema definition is missing query root"
  | .multipleOperations => "document contains multiple operations"
  | .operationDuplicated name => s!"operation {name} is defined twice"
  | .fragmentDuplicated name => s!"fragment {name} is defined twice"
  | .missingOperation => "document does not contain an operation"
  | .tooDeep => "recursion limit exceeded."
  | .invalidNumber words => s!"invalid number: {words}"

/-- Why a field set does not select key fields. -/
inductive KeyFault where
  | parse (fault : ParseFault)
  | aliasOrArguments (field : String)
  | fragment
  | severalSelections
  | empty
  /-- There is no field set: the argument is missing or no string. -/
  | missingFieldSet
deriving DecidableEq, Repr

def KeyFault.message : KeyFault → String
  | .parse fault => fault.message
  | .aliasOrArguments field => s!"key field '{field}' can not have aliases or arguments"
  | .fragment => "fragments are not allowed in key fields"
  | .severalSelections => "key fields must be a single selection"
  | .empty => "key fields must select at least one field"
  | .missingFieldSet => "missing `fields` string argument"

/-- Why a schema document was not loaded. -/
inductive SchemaFault where
  | parse (fault : ParseFault)
  | declaredTwice (type : String)
  | extensionKind (type : String)
deriving DecidableEq, Repr

def SchemaFault.message : SchemaFault → String
  | .parse fault => fault.message
  | .declaredTwice type => s!"type {type} is declared more than once"
  | .extensionKind type => s!"extension of {type} does not match its kind"

/-- Why an assembled schema is refused. -/
inductive SchemaViolation where
  | typeNotFound (type : String)
  | noFields (object : String)
  | reservedField (type field : String)
  | reservedArgument (type field argument : String)
  | notOutputField (type field : String)
  | notInputField (type field : String)
  | notInputArgument (type field argument : String)
  | notAnInterface (type : String)
  | missingField (kind type field interface : String)
  | missingArgument (type field argument interface : String)
  | argumentType (type field argument interface : String)
  | fieldType (type field interface : String)
  | implementsItself (interface : String)
  | inputCycle (input : String)
  | memberNotObject (union member : String)
  | rootNotObject
deriving DecidableEq, Repr

def SchemaViolation.message : SchemaViolation → String
  | .typeNotFound type => s!"Type \"{type}\" not found"
  | .noFields object => s!"Object \"{object}\" must define one or more fields"
  | .reservedField type field =>
    s!"Field \"{type}.{field}\" must not have a name which begins with the characters \"__"
      ++ s!"\" (two underscores)"
  | .reservedArgument type field argument =>
    s!"Argument \"{type}.{field}.{argument}\" must not have a name which begins with the "
      ++ s!"characters \"__\" (two underscores)"
  | .notOutputField type field => s!"Field \"{type}.{field}\" must return a output type"
  | .notInputField type field => s!"Field \"{type}.{field}\" must accept a input type"
  | .notInputArgument type field argument =>
    s!"Argument \"{type}.{field}.{argument}\" must accept a input type"
  | .notAnInterface type => s!"Type \"{type}\" is not interface"
  | .missingField kind type field interface =>
    s!"{kind} \"{type}\" requires field \"{field}\" defined by interface \"{interface}\""
  | .missingArgument type field argument interface =>
    s!"Field \"{type}.{field}\" requires argument \"{argument}\" defined by interface \""
      ++ s!"{interface}.{field}\""
  | .argumentType type field argument interface =>
    s!"Argument \"{interface}.{field}.{argument}\" is not sub-type of \"{type}.{field}.{argument}\""
  | .fieldType type field interface =>
    s!"Field \"{type}.{field}\" is not sub-type of \"{interface}.{field}\""
  | .implementsItself interface => s!"Interface \"{interface}\" may not implement itself"
  | .inputCycle input =>
    s!"\"{input}\" references itself either directly or through referenced Input Objects, "
      ++ s!"at least one of the fields in the chain of references must be either a nullable or a"
      ++ s!" List type."
  | .memberNotObject union member => s!"Member \"{member}\" of union \"{union}\" is not an object"
  | .rootNotObject => "The query root must be an object"

/-- Why no schema was built. -/
inductive BuildError where
  | fetch (error : FetchError)
  | schemaParse (fault : SchemaFault)
  | missingQueryType (type : String)
  | invalidKeyFields (type fields : String) (reason : KeyFault)
  | unknownKeyField (type field : String)
  | idFieldExists (type : String)
  | nodeFieldExists (type : String)
  | queryFieldExists (field : String)
  /-- A reference names a type which is not part of the schema. -/
  | missingReplacement (type : String)
  | notAnOutputType (field typeRef : String)
  | notAnInputType (argument typeRef : String)
  | notAnInterface (type interface : String)
  | unionMemberNotFound (union member : String)
  | reservedTypeName (type : String)
  | invalidSchema (violation : SchemaViolation)
deriving DecidableEq, Repr

def BuildError.message : BuildError → String
  | .fetch error => s!"could not fetch schema document: {error.message}"
  | .schemaParse fault => s!"could not parse schema document: {fault.message}"
  | .missingQueryType type => s!"schema does not contain query root type '{type}'"
  | .invalidKeyFields type fields reason =>
    s!"invalid key fields '{fields}' on type {type}: {reason.message}"
  | .unknownKeyField type field => s!"key selects unknown field '{field}' on type {type}"
  | .idFieldExists type => s!"type {type} already has an id field when trying to create Node.id"
  | .nodeFieldExists type =>
    s!"type {type} already has a node field when trying to create Query.node"
  | .queryFieldExists field => s!"query already has a {field} field"
  | .missingReplacement type => s!"failed to find mapped type by name: '{type}'"
  | .notAnOutputType field typeRef =>
    s!"field {field} does not map to a valid output type: {typeRef}"
  | .notAnInputType argument typeRef =>
    s!"argument {argument} does not map to a valid input type: {typeRef}"
  | .notAnInterface type interface =>
    s!"type {type} implements {interface} which is not an interface"
  | .unionMemberNotFound union member => s!"union {union} has unknown member type {member}"
  | .reservedTypeName type => s!"type name {type} is reserved"
  | .invalidSchema violation => s!"invalid schema: {violation.message}"

/-- The errors behind an error, outermost first: an error about a document passes on the one of
    the document. -/
def BuildError.causes : BuildError → List String
  | .fetch (.io path fault) => [(FetchError.io path fault).message, fault.message]
  | .fetch error => [error.message]
  | _ => []

/-- Why a field was not resolved. -/
inductive ResolveError where
  | fetch (error : FetchError)
  /-- The key, in its encoded form, has no path. -/
  | keyNotFound (key : String)
  | invalidDocument (path : String)
  | invalidIndex (path : String)
  /-- The entity whose id is asked for was not found. -/
  | selfLookupFailed (key : String)
  | missingTypename (type : String)
  /-- A value does not fit a list type; both are given as text. -/
  | expectedList (typeRef value : String)
  | expectedEnum (type value : String)
  | missingArgument (field argument : String)
deriving DecidableEq, Repr

def ResolveError.message : ResolveError → String
  | .fetch error => error.message
  | .keyNotFound key => s!"failed to find key {key} in index"
  | .invalidDocument path => s!"document '{path}' did not include expected data"
  | .invalidIndex path => s!"failed to lookup index '{path}': returned value was not a map"
  | .selfLookupFailed key => s!"failed to self look up id of {key}: returned no data"
  | .missingTypename type => s!"value of abstract type {type} is missing a __typename"
  | .expectedList typeRef value => s!"invalid value: expected list for {typeRef}, got {value}"
  | .expectedEnum type value => s!"invalid value: expected enum value of {type}, got {value}"
  | .missingArgument field argument =>
    s!"invalid arguments: {field} requires an {argument} argument"

end EntityGraph
