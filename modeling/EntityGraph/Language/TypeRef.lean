/-!
# Type references

A reference names a type, wrapped into any number of lists and non-null marks.
-/

namespace EntityGraph

inductive TypeRef where
  | named (name : String)
  | list (item : TypeRef)
  | nonNull (inner : TypeRef)
deriving DecidableEq, Repr, Inhabited

namespace TypeRef

/-- The name at the core of a reference. -/
def core : TypeRef → String
  | .named name => name
  | .list item => item.core
  | .nonNull inner => inner.core

/-- A reference as it is written: `[Int!]!`. -/
def text : TypeRef → String
  | .named name => name
  | .list item => "[" ++ item.text ++ "]"
  | .nonNull inner => inner.text ++ "!"

/-- The same reference to another type. -/
def withCore (name : String) : TypeRef → TypeRef
  | .named _ => .named name
  | .list item => .list (item.withCore name)
  | .nonNull inner => .nonNull (inner.withCore name)

def isNonNull : TypeRef → Bool
  | .nonNull _ => true
  | _ => false

/-- A reference to lists, which may be marked as non-null. -/
def isList : TypeRef → Bool
  | .list _ | .nonNull (.list _) => true
  | _ => false

/-- Both references have the same shape, but for non-null marks: where the first one has a mark
    the second one has one too. -/
def covers : TypeRef → TypeRef → Bool
  | a, .nonNull b =>
    match a with
    | .nonNull a => a.covers b
    | a => a.covers b
  | .named a, .named b => a == b
  | .list a, .list b => a.covers b
  | _, _ => false

end TypeRef

/-- Types every schema provides. -/
def builtInScalars : List String := ["Int", "Float", "String", "Boolean", "ID"]

/-- The prefix of names which belong to introspection. -/
def reservedPrefix : String := "__"

def isReserved (name : String) : Bool := reservedPrefix.toList.isPrefixOf name.toList

end EntityGraph
