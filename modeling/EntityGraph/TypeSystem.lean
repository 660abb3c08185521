import EntityGraph.Language.Declaration
import EntityGraph.Selection
import EntityGraph.Trace

/-!
# Type system

The type system holds the types a schema document declares, built-in scalars first, each with its
extensions merged into it. An object type is *primary* if its instances have an identity: if it
has a key, or is the query root.

* `TypeSystem.load`: the type system of a document, and the records of redeclared scalars;
* `TypeSystem.keysOf?`: the keys of a primary type.
-/

namespace EntityGraph

/-- A field set as it was written, and the tree it stands for. -/
structure KeyDeclaration where
  fields : String
  selection : SelectionTree

/-- What a type is made of, as far as it matters for the schema. -/
inductive TypeKind where
  | scalar
  | object (implements : List String) (fields : List FieldDeclaration)
  | interface (implements : List String) (fields : List FieldDeclaration)
  | union (members : List String)
  | enum (values : List String)
  | inputObject (fields : List InputValue)

structure SourceType where
  name : String
  description : Option String
  kind : TypeKind
  keys : List KeyDeclaration
  isBuiltIn : Bool

namespace SourceType

def builtIn (name : String) : SourceType := ⟨name, none, .scalar, [], true⟩

def isObject (t : SourceType) : Bool :=
  match t.kind with
  | .object .. => true
  | _ => false

/-- The fields of an object or an interface. -/
def fields (t : SourceType) : List FieldDeclaration :=
  match t.kind with
  | .object _ fields | .interface _ fields => fields
  | _ => []

/-- The first field of a name. -/
def field? (t : SourceType) (name : String) : Option FieldDeclaration :=
  t.fields.find? fun f => f.name = name

end SourceType

/-- The declared types in order, and the name of the query root. -/
structure TypeSystem where
  types : List SourceType
  queryType : String

namespace TypeSystem

/-- The directive declaring a key, and its argument. -/
def keyDirective : String := "key"

def keyFieldsArgument : String := "fields"

def defaultQueryType : String := "Query"

/-! ### Loading -/

def kindOf : TypeBody → TypeKind
  | .scalar => .scalar
  | .object interfaces fields => .object interfaces fields
  | .interface interfaces fields => .interface interfaces fields
  | .union members => .union members
  | .enum values => .enum (values.map (·.name))
  | .inputObject fields => .inputObject fields

/-- The key a directive declares on a type. -/
def keyOf (type : String) (use : DirectiveUse Empty) : Except BuildError KeyDeclaration :=
  match use.argument? keyFieldsArgument with
  | some ⟨.string fields, _⟩ =>
    match SelectionTree.read fields with
    | .ok selection => .ok ⟨fields, selection⟩
    | .error reason => .error (.invalidKeyFields type fields reason)
  | _ => .error (.invalidKeyFields type "" .missingFieldSet)

/-- The keys declared on a type; only objects and interfaces have any. -/
def keysOfDeclaration (d : TypeDeclaration) : Except BuildError (List KeyDeclaration) :=
  match d.body with
  | .object .. | .interface .. =>
    (d.directives.filter fun use => use.name.value = keyDirective).mapM (keyOf d.name)
  | _ => .ok []

def ofDeclaration (d : TypeDeclaration) : Except BuildError SourceType := do
  let keys ← keysOfDeclaration d
  return ⟨d.name, d.description, kindOf d.body, keys, false⟩

/-- The parts of a type and those of an extension of the same kind. -/
def mergeKind? : TypeKind → TypeKind → Option TypeKind
  | .object i f, .object i' f' => some (.object (i ++ i') (f ++ f'))
  | .interface i f, .interface i' f' => some (.interface (i ++ i') (f ++ f'))
  | .union m, .union m' => some (.union (m ++ m'))
  | .enum v, .enum v' => some (.enum (v ++ v'))
  | .inputObject f, .inputObject f' => some (.inputObject (f ++ f'))
  | .scalar, .scalar => some .scalar
  | _, _ => none

/-- A type with an extension merged into it. -/
def extend (t extension : SourceType) : Except BuildError SourceType :=
  match mergeKind? t.kind extension.kind with
  | some kind => .ok { t with kind, keys := t.keys ++ extension.keys }
  | none => .error (.schemaParse (.extensionKind t.name))

/-- What is loaded so far. -/
structure Loading where
  types : List SourceType
  queryType : Option String
  records : List LogRecord

def Loading.empty : Loading := ⟨builtInScalars.map SourceType.builtIn, none, []⟩

/-- Adds a declared type. An extension is merged into the type it extends, or stands in for it as
    long as there is none; a built-in scalar can not be declared anew. -/
def Loading.addType (l : Loading) (d : TypeDeclaration) : Except BuildError Loading := do
  let t ← ofDeclaration d
  match l.types.find? fun other => other.name = t.name with
  | none => return { l with types := l.types ++ [t] }
  | some existing =>
    if d.isExtension then
      let merged ← extend existing t
      return { l with
        types := l.types.map fun other => if other.name = t.name then merged else other }
    else if existing.isBuiltIn then
      let record := LogSource.typeSystem.record .trace
        s!"Ignore redeclaration of built-in scalar {existing.name}"
      return { l with records := l.records ++ [record] }
    else throw (.schemaParse (.declaredTwice existing.name))

/-- Adds a declaration; of several schema definitions with a query root the last one counts. -/
def Loading.add (l : Loading) : Declaration → Except BuildError Loading
  | .schema s => .ok { l with queryType := (s.root? "query").or l.queryType }
  | .type d => l.addType d
  | .directive => .ok l

/-- Adds declarations in order. The records written before a failure are kept. -/
def Loading.addAll (l : Loading) : List Declaration → Except BuildError Loading × List LogRecord
  | [] => (.ok l, l.records)
  | d :: rest =>
    match l.add d with
    | .ok l => l.addAll rest
    | .error e => (.error e, l.records)

/-- The type system once everything is loaded; its query root has to be an object type. -/
def Loading.finish (l : Loading) : Except BuildError TypeSystem :=
  let queryType := l.queryType.getD defaultQueryType
  if l.types.any fun t => t.name = queryType && t.isObject then .ok ⟨l.types, queryType⟩
  else .error (.missingQueryType queryType)

/-- The type system of a schema document and the log records written on the way. -/
def loadLogged (sdl : String) : Except BuildError TypeSystem × List LogRecord :=
  match Declaration.readAll sdl with
  | .error fault => (.error (.schemaParse (.parse fault)), [])
  | .ok declarations =>
    let (loaded, records) := Loading.empty.addAll declarations
    (loaded.bind Loading.finish, records)

/-- The type system of a schema document. -/
def load (sdl : String) : Except BuildError TypeSystem := (loadLogged sdl).1

/-! ### Types -/

def get? (ts : TypeSystem) (name : String) : Option SourceType :=
  ts.types.find? fun t => t.name = name

/-- Instances of the type have an identity. -/
def isPrimary (ts : TypeSystem) (t : SourceType) : Bool :=
  t.isObject && (t.name == ts.queryType || !t.keys.isEmpty)

/-- The keys of a primary type in order of declaration. -/
def keysOf? (ts : TypeSystem) (t : SourceType) : Option (List KeyDeclaration) :=
  if ts.isPrimary t then some t.keys else none

end TypeSystem

end EntityGraph
