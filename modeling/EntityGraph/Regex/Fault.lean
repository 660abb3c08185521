import EntityGraph.Text.Decimal

/-!
# Faults of regular expressions

Why a text is no regular expression, and which part of it is to blame.

* `Regex.Fault.shown`: the fault below the text, with marks under that part.
-/

namespace EntityGraph.Regex

inductive FaultKind where
  | escapeInSet
  | rangeReversed
  | rangeBoundary
  | setUnclosed
  | hexEmpty
  | hexInvalid
  | hexDigit
  | escapeUnfinished
  | escapeUnknown
  | flagNegationDangling
  | flagTwice
  | flagNegationTwice
  | flagMissing
  | flagUnknown
  | nameTwice
  | nameEmpty
  | nameInvalid
  | nameUnclosed
  | groupUnclosed
  | groupUnopened
  | countReversed
  | countEmpty
  | countInvalid
  | countUnclosed
  | repetitionOfNothing
  | edgeUnclosed
  | edgeUnknown
  | edgeUnfinished
  | propertyInvalid
  | propertyUnknown
  | backReference
  | lookAround
deriving DecidableEq, Repr

def FaultKind.message : FaultKind → String
  | .escapeInSet => "invalid escape sequence found in character class"
  | .rangeReversed => "invalid character class range, the start must be <= the end"
  | .rangeBoundary => "invalid range boundary, must be a literal"
  | .setUnclosed => "unclosed character class"
  | .hexEmpty => "hexadecimal literal empty"
  | .hexInvalid => "hexadecimal literal is not a Unicode scalar value"
  | .hexDigit => "invalid hexadecimal digit"
  | .escapeUnfinished => "incomplete escape sequence, reached end of pattern prematurely"
  | .escapeUnknown => "unrecognized escape sequence"
  | .flagNegationDangling => "dangling flag negation operator"
  | .flagTwice => "duplicate flag"
  | .flagNegationTwice => "flag negation operator repeated"
  | .flagMissing => "expected flag but got end of regex"
  | .flagUnknown => "unrecognized flag"
  | .nameTwice => "duplicate capture group name"
  | .nameEmpty => "empty capture group name"
  | .nameInvalid => "invalid capture group character"
  | .nameUnclosed => "unclosed capture group name"
  | .groupUnclosed => "unclosed group"
  | .groupUnopened => "unopened group"
  | .countReversed => "invalid repetition count range, the start must be <= the end"
  | .countEmpty => "repetition quantifier expects a valid decimal"
  | .countInvalid => "decimal literal invalid"
  | .countUnclosed => "unclosed counted repetition"
  | .repetitionOfNothing => "repetition operator missing expression"
  | .edgeUnclosed =>
    "special word boundary assertion is either unclosed or contains an invalid character"
  | .edgeUnknown => "unrecognized special word boundary assertion, valid choices are: "
      ++ "start, end, start-half or end-half"
  | .edgeUnfinished => "found either the beginning of a special word boundary or a bounded "
      ++ "repetition on a \\b with an opening brace, but no closing brace"
  | .propertyInvalid => "invalid Unicode character class"
  | .propertyUnknown => "Unicode property not found"
  | .backReference => "backreferences are not supported"
  | .lookAround => "look-around, including look-ahead and look-behind, is not supported"

/-- A part of a text by the numbers of characters in front of it and up to its end. -/
structure Span where
  start : Nat
  stop : Nat
deriving DecidableEq, Repr

structure Fault where
  kind : FaultKind
  span : Span
  /-- What stands in the way of the part at fault. -/
  earlier : Option Span
deriving DecidableEq, Repr

namespace Fault

/-- Marks under parts in order of writing; an empty part has one mark. -/
def marks (column : Nat) : List Span → List Char
  | [] => []
  | s :: rest =>
    let width := max 1 (s.stop - s.start)
    List.replicate (s.start - column) ' ' ++ List.replicate width '^'
      ++ marks (max column s.start + width) rest

/-- The parts at fault in order of writing. -/
def parts (f : Fault) : List Span := f.earlier.toList ++ [f.span]

/-- The number of the line and of the column of a character, both counted from one. -/
def place (text : String) (index : Nat) : Nat × Nat :=
  (text.toList.take index).foldl (fun (line, column) c =>
    if c = '\n' then (line + 1, 1) else (line, column + 1)) (1, 1)

/-- The lines of a text; nothing behind the last line feed is no line. -/
def lines (text : String) : List String :=
  let all := text.splitOn "\n"
  let ended := all.dropLast.map fun line =>
    if line.endsWith "\r" then String.ofList line.toList.dropLast else line
  ended ++ (all.getLast?.filter (· ≠ "")).toList

/-- The part of a line which a part of the text is, if it lies in that line. -/
def inLine? (text : String) (line : Nat) (s : Span) : Option Span :=
  let (first, start) := place text s.start
  let (last, stop) := place text s.stop
  if first = line ∧ last = line then some ⟨start - 1, stop - 1⟩ else none

/-- The lines of a text behind margins of some width, with marks below those at fault. -/
def markedLines (margin : Nat → String) (text : String) (f : Fault) : String :=
  String.join <| (lines text).zipIdx.map fun (line, i) =>
    let margin := margin (i + 1)
    let marked := match f.parts.filterMap (inLine? text (i + 1)) with
      | [] => ""
      | spans => String.ofList
          (List.replicate margin.length ' ' ++ marks 0 spans ++ ['\n'])
    margin ++ line ++ "\n" ++ marked

/-- Where a part begins and ends, if these are different lines. -/
def acrossLines? (text : String) (s : Span) : Option String :=
  let (first, start) := place text s.start
  let (last, stop) := place text s.stop
  if first = last then none
  else
    let told (line column : Nat) := s!"line {Text.decimal line} (column {Text.decimal column})"
    some ("on " ++ told first start ++ " through " ++ told last (stop - 1) ++ "\n")

/-- The margin of a line which is told by its number, `width` being the width of the largest. -/
def numbered (width line : Nat) : String :=
  let number := Text.decimal line
  String.ofList (List.replicate (width - number.length) ' ') ++ number ++ ": "

/-- The text and what is wrong with it. A text of several lines stands between rules. -/
def shown (text : String) (f : Fault) : String :=
  let rule := String.ofList (List.replicate 79 '~') ++ "\n"
  let width := (Text.decimal (text.splitOn "\n").length).length
  let body := if text.contains '\n' then
      rule ++ markedLines (numbered width) text f ++ rule
        ++ String.join (f.parts.filterMap (acrossLines? text))
    else markedLines (fun _ => "    ") text f
  "regex parse error:\n" ++ body ++ "error: " ++ f.kind.message

end Fault

end EntityGraph.Regex
