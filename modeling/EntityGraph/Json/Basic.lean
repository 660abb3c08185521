import EntityGraph.Number.Double

/-!
# JSON values

Numbers keep their kind: a number is either a whole number which fits 64 bits (signed or unsigned)
or a finite double. The fields of an object are kept in the order of their names, so a value has
one representation however it was written: `Fields.insert` puts a field at its place and replaces
an earlier field of the same name.
-/

namespace EntityGraph

/-- An integer which fits 64 bits, signed or unsigned. -/
structure Whole where
  val : Int
  inRange : -0x8000000000000000 ≤ val ∧ val ≤ 0xffffffffffffffff
deriving DecidableEq

namespace Whole

def ofInt? (n : Int) : Option Whole :=
  if h : -0x8000000000000000 ≤ n ∧ n ≤ 0xffffffffffffffff then some ⟨n, h⟩ else none

/-- The number also fits 64 bits with a sign. -/
def isSigned (n : Whole) : Bool := decide (n.val ≤ 0x7fffffffffffffff)

end Whole

/-- A number, which keeps the kind it was written in. -/
inductive Number where
  | whole (n : Whole)
  | float (d : Double)
deriving DecidableEq

/-- Both numbers are of one kind and equal; zero has no sign. -/
def Number.alike (a b : Number) : Bool :=
  a == b || match a, b with
    | .float a, .float b => a.isZero && b.isZero
    | _, _ => false

/-- A JSON value; the fields of an object are sorted by name. -/
inductive Json where
  | null
  | bool (value : Bool)
  | number (value : Number)
  | string (value : String)
  | array (items : List Json)
  | object (fields : List (String × Json))

instance : Inhabited Json := ⟨.null⟩

namespace Json

/-- The fields of an object in the order of their names. -/
abbrev Fields := List (String × Json)

namespace Fields

/-- Puts a field at its place, replacing a field of the same name. -/
def insert (name : String) (value : Json) : Fields → Fields
  | [] => [(name, value)]
  | (n, v) :: rest =>
    if name = n then (name, value) :: rest
    else if name < n then (name, value) :: (n, v) :: rest
    else (n, v) :: insert name value rest

def get? (name : String) : Fields → Option Json
  | [] => none
  | (n, v) :: rest => if name = n then some v else get? name rest

/-- Inserts the fields one after the other: of two fields of one name the later one stays. -/
def ofList (fields : List (String × Json)) : Fields :=
  fields.foldl (fun acc f => insert f.1 f.2 acc) []

def names (fields : Fields) : List String := fields.map (·.1)

end Fields

/-- The field of an object; other values have no fields. -/
def field? (value : Json) (name : String) : Option Json :=
  match value with
  | .object fields => Fields.get? name fields
  | _ => none

def asString? : Json → Option String
  | .string s => some s
  | _ => none

def isObject : Json → Bool
  | .object _ => true
  | _ => false

/-- The fields of an object, no fields of anything else. -/
def fields : Json → Fields
  | .object fields => fields
  | _ => []

def ofNat (n : Nat) : Json :=
  match Whole.ofInt? n with
  | some w => .number (.whole w)
  | none => .null

end Json

end EntityGraph
