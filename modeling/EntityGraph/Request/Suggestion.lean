/-!
# Suggestions

Names close to a mistyped one: those whose edit distance is below half of the length of either
name, closest first.
-/

namespace EntityGraph.Suggestion

/-- One row of the table of edit distances. The entry of a row for each beginning of `input` comes
    from its left neighbour, the entry above it and the one above to the left. -/
def nextRow (c : UInt8) (left diagonal : Nat) : List UInt8 → List Nat → List Nat
  | [], _ => []
  | _, [] => []
  | d :: input, above :: row =>
    let here := min (above + 1) (min (left + 1) (if c = d then diagonal else diagonal + 1))
    here :: nextRow c here above input row

/-- How many bytes have to be inserted, left out or replaced to come from one name to another. -/
def distance (input option : String) : Nat :=
  let a := input.toUTF8.toList
  let rows := option.toUTF8.toList.zipIdx.foldl (fun row (c, i) =>
    match row with
    | [] => []
    | first :: rest => (i + 1) :: nextRow c (i + 1) first a rest) (List.range (a.length + 1))
  rows.getLast?.getD 0

/-- The names among the options which are close to the input, closest first. -/
def close (options : List String) (input : String) : List String :=
  let near := options.filterMap fun option =>
    let d := distance input option
    if d < max (input.utf8ByteSize / 2) (max (option.utf8ByteSize / 2) 1) then some (option, d)
    else none
  (near.mergeSort fun a b => a.2 ≤ b.2).map (·.1)

/-- A question naming the close options, nothing if there are none. -/
def question (options : List String) (input : String) : String :=
  match close options input with
  | [] => ""
  | names => " Did you mean " ++ String.intercalate ", " (names.map fun n => "\"" ++ n ++ "\"")
      ++ "?"

end EntityGraph.Suggestion
