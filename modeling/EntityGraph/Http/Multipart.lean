import EntityGraph.Http.MediaType

/-!
# Bodies of several parts

A body may hold several parts, each with headers of its own, between lines which start with two
hyphens and the boundary. Two more hyphens behind the boundary end the body.

* `Multipart.parts?`: the parts of a body.
-/

namespace EntityGraph.Multipart

structure Part where
  /-- Headers by names in lower case. -/
  headers : List (String × String)
  content : String
deriving DecidableEq, Repr

/-- The text in front of the first place with certain characters, and the text from there on. -/
def breakAt? (mark : List Char) : List Char → Option (List Char × List Char)
  | [] => if mark.isEmpty then some ([], []) else none
  | c :: rest =>
    if mark.isPrefixOf (c :: rest) then some ([], c :: rest)
    else (breakAt? mark rest).map fun (before, r) => (c :: before, r)

/-- The text behind certain characters. -/
def behind? (mark cs : List Char) : Option (List Char) :=
  if mark.isPrefixOf cs then some (cs.drop mark.length) else none

def lineEnd : List Char := ['\r', '\n']

def isSpace (c : Char) : Bool := c == ' ' || c == '\t'

/-! ### Headers -/

/-- How many headers a part may have. -/
def maxHeaders : Nat := 32

/-- A header: a name and a colon, and the value with no white space around it. -/
def header? (line : List Char) : Option (String × String) :=
  match line.takeWhile MediaType.isTokenChar, line.dropWhile MediaType.isTokenChar with
  | c :: name, ':' :: rest =>
    let value := ((rest.dropWhile isSpace).reverse.dropWhile isSpace).reverse
    if value.all fun c => c == '\t' || (0x1f < c.toNat && c.toNat ≠ 0x7f) then
      some (MediaType.lowerName (c :: name), String.ofList value)
    else none
  | _, _ => none

/-- The lines of a text in front of the first empty one. -/
def headerLines (cs : List Char) : List (List Char) :=
  ((String.ofList cs).splitOn "\n").map (fun line =>
    let line := line.toList
    if line.getLast? = some '\r' then line.dropLast else line) |>.takeWhile (!·.isEmpty)

def headers? (cs : List Char) : Option (List (String × String)) := do
  let headers ← (headerLines cs).mapM header?
  if headers.length ≤ maxHeaders then return headers else none

/-! ### Parts -/

/-- The parts from a boundary on, `mark` being the hyphens and the boundary. -/
def partsFrom? (fuel : Nat) (mark cs : List Char) : Option (List Part) :=
  match fuel with
  | 0 => none
  | fuel + 1 => do
    let rest ← behind? mark cs
    if ['-', '-'].isPrefixOf rest then return []
    let rest ← behind? lineEnd (rest.dropWhile isSpace)
    let (head, rest) ← breakAt? (lineEnd ++ lineEnd) rest
    let headers ← headers? head
    let (content, rest) ← breakAt? (lineEnd ++ mark) (rest.drop 4)
    let more ← partsFrom? fuel mark (rest.drop 2)
    return ⟨headers, String.ofList content⟩ :: more

/-- The parts of a body. What stands in front of the first boundary and behind the end does not
    count. -/
def parts? (boundary body : String) : Option (List Part) := do
  let mark := '-' :: '-' :: boundary.toList
  let (_, rest) ← breakAt? mark body.toList
  partsFrom? (body.length + 1) mark rest

namespace Part

/-- A header by name, of two with one name the last. -/
def header? (p : Part) (name : String) : Option String := p.headers.reverse.lookup name

/-- What a header says behind a word and an equals sign, in quotes or up to a blank or a
    semicolon. The word starts the header or stands behind white space or a semicolon. -/
def attributeIn? (word : List Char) (fuel : Nat) (start : Bool) (cs : List Char) :
    Option String :=
  match fuel with
  | 0 => none
  | fuel + 1 => do
    let (before, rest) ← breakAt? word cs
    let after := rest.drop word.length
    let apart := match before.getLast? with
      | none => start
      | some c => c == ';' || isSpace c
    if !apart then attributeIn? word fuel false after
    else
      match after.dropWhile isSpace with
      | '=' :: rest =>
        match rest.dropWhile isSpace with
        | '"' :: rest =>
          if rest.contains '"' then some (String.ofList (rest.takeWhile (· ≠ '"'))) else none
        | rest => some (String.ofList (rest.takeWhile fun c => c ≠ ';' && c ≠ ' '))
      | _ => none

def attribute? (p : Part) (word : String) : Option String :=
  (p.header? "content-disposition").bind fun header =>
    attributeIn? word.toList (header.length + 1) true header.toList

def name? (p : Part) : Option String := p.attribute? "name"

def fileName? (p : Part) : Option String := p.attribute? "filename"

end Part

end EntityGraph.Multipart
