import EntityGraph.Number.Floating

/-!
# TOML documents

A TOML document is a table: keys with values, some of which are tables themselves. A key leads to
one value only, and a table is written in one place: `Table` remembers how each part of it came to
be, so that a second definition can be refused.

* `TomlValue`: values;
* `TomlTable.define`, `TomlTable.header`, `TomlTable.arrayHeader`: the statements a document is
  made of, as steps which extend the document read so far.
-/

namespace EntityGraph

/-- How a table came to be. -/
inductive TableOrigin where
  /-- By a header of its own. -/
  | header
  /-- As a step on the path of a header. -/
  | implicit
  /-- As a step on the path of a dotted key. -/
  | dotted
deriving DecidableEq, Repr

inductive TomlValue where
  | string (s : String)
  | integer (n : Int)
  | float (x : Floating)
  | bool (b : Bool)
  | dateTime
  | array (items : List TomlValue)
  /-- A table written as one value, which is closed. -/
  | inlineTable (fields : List (String × TomlValue))
  | table (origin : TableOrigin) (fields : List (String × TomlValue))
  /-- Tables with one header each. -/
  | tables (items : List (List (String × TomlValue)))

/-- Keys with their values in order of writing. -/
abbrev TomlTable := List (String × TomlValue)

namespace TomlTable

/-- Replaces the value of a key, or adds the key. -/
def set (key : String) (value : TomlValue) : TomlTable → TomlTable
  | [] => [(key, value)]
  | (k, v) :: rest => if k = key then (k, value) :: rest else (k, v) :: set key value rest

/-- Changes the table at the end of a path. The steps on the way are made tables of origin `origin`
    where there is nothing; `enter` tells whether a table may be passed through. -/
def below (origin : TableOrigin) (enter : TableOrigin → Bool)
    (change : TableOrigin → TomlTable → Option TomlTable) (here : TableOrigin) :
    (path : List String) → TomlTable → Option TomlTable
  | [], t => change here t
  | key :: rest, t =>
    match t.lookup key with
    | none => do
      let inner ← below origin enter change origin rest []
      return set key (.table origin inner) t
    | some (.table o inner) =>
      if enter o then do
        let inner ← below origin enter change o rest inner
        return set key (.table o inner) t
      else none
    | some (.tables items) =>
      match items.reverse with
      | [] => none
      | last :: before => do
        if !enter .header then none
        let last ← below origin enter change .header rest last
        return set key (.tables (before.reverse ++ [last])) t
    | some _ => none

/-- Gives a key a value in a table; the key must be new, and the table must have been made by
    dotted keys exactly if the key is behind a dot. -/
def insert (behindDot : Bool) (key : String) (value : TomlValue) (origin : TableOrigin)
    (t : TomlTable) : Option TomlTable :=
  if (origin == .dotted) != behindDot ∨ (t.lookup key).isSome then none
  else some (set key value t)

/-- The statement which gives a dotted key, taken apart into its last part and those before it, a
    value. -/
def define (path : List String) (key : String) (value : TomlValue) (t : TomlTable) :
    Option TomlTable :=
  below .dotted (fun o => o != .header) (insert (!path.isEmpty) key value) .header path t

/-- Opens the table a header names; it must be new or only a step on the way to others so far. -/
def header (path : List String) (key : String) (t : TomlTable) : Option TomlTable :=
  below .implicit (fun _ => true) (fun _ t =>
    match t.lookup key with
    | none => some (set key (.table .header []) t)
    | some (.table .implicit inner) => some (set key (.table .header inner) t)
    | some _ => none) .header path t

/-- Opens one more table of the tables a header names. -/
def arrayHeader (path : List String) (key : String) (t : TomlTable) : Option TomlTable :=
  below .implicit (fun _ => true) (fun _ t =>
    match t.lookup key with
    | none => some (set key (.tables [[]]) t)
    | some (.tables items) => some (set key (.tables (items ++ [[]])) t)
    | some _ => none) .header path t

/-- The statement of a value within the table opened last. -/
def defineIn (opened : List String) (path : List String) (key : String) (value : TomlValue)
    (t : TomlTable) : Option TomlTable :=
  below .implicit (fun _ => true) (fun _ t => define path key value t) .header opened t

end TomlTable

end EntityGraph
