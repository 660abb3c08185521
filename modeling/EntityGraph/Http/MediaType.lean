/-!
# Media types

What the body of a message is, as its header tells: two names with a slash between them, as in
`text/html`, and perhaps parameters, each a name and a value which may be quoted.

* `MediaType.read?`: the media type a header stands for.
-/

namespace EntityGraph

/-- A media type; its names are in lower case. -/
structure MediaType where
  kind : String
  subtype : String
  parameters : List (String × String)
deriving DecidableEq, Repr

namespace MediaType

def json : MediaType := ⟨"application", "json", []⟩

/-- The value of a parameter, of two with one name the first. -/
def parameter? (m : MediaType) (name : String) : Option String := m.parameters.lookup name

def isMultipart (m : MediaType) : Bool := m.kind == "multipart"

/-! ### Reading -/

/-- A character of a name. -/
def isTokenChar (c : Char) : Bool :=
  c.isAlphanum || "!#$%&'*+-.^_`|~".toList.contains c

def lowerName (chars : List Char) : String := String.ofList (chars.map Char.toLower)

/-- The value between quotes and what is behind it. A quote right behind the first one belongs to
    the value. -/
def quoted? : List Char → Option (List Char × List Char)
  | [] => none
  | first :: rest =>
    let value := first :: rest.takeWhile (· ≠ '"')
    match rest.dropWhile (· ≠ '"') with
    | _ :: after => if value.all isQuotable then some (value, after) else none
    | [] => none
where
  isQuotable (c : Char) : Bool := 0x1f < c.toNat && c.toNat ≠ 0x7f

/-- What is behind the semicolon which ends a quoted value, nothing at the end of the text. -/
def behindQuoted? (cs : List Char) : Option (List Char) :=
  match cs.dropWhile (· = ' ') with
  | [] => some []
  | ';' :: rest => some rest
  | _ => none

/-- The value of a parameter, and the parameters behind it. -/
def value? : List Char → Option (List Char × List Char)
  | '"' :: rest => do
    let (value, after) ← quoted? rest
    return (value, ← behindQuoted? after)
  | cs =>
    match cs.takeWhile isTokenChar, cs.dropWhile isTokenChar with
    | value, [] => some (value, [])
    | c :: value, ';' :: rest => some (c :: value, rest)
    | _, _ => none

/-- The parameters of a text, `fuel` being more than its length. -/
def parameters? (fuel : Nat) (cs : List Char) : Option (List (String × String)) :=
  match fuel with
  | 0 => none
  | fuel + 1 =>
    match cs.dropWhile (· = ' ') with
    | [] => some []
    | cs =>
      match cs.takeWhile isTokenChar, cs.dropWhile isTokenChar with
      | c :: name, '=' :: rest => do
        let (value, rest) ← value? rest
        let more ← parameters? fuel rest
        return (lowerName (c :: name), String.ofList value) :: more
      | _, _ => none

/-- The media type of a header. -/
def read? (header : String) : Option MediaType :=
  match header.toList.takeWhile isTokenChar, header.toList.dropWhile isTokenChar with
  | c :: kind, '/' :: rest =>
    let type (parameters : List (String × String)) : MediaType :=
      ⟨lowerName (c :: kind), lowerName (rest.takeWhile isTokenChar), parameters⟩
    match rest.takeWhile isTokenChar, rest.dropWhile isTokenChar with
    | _, [] => some (type [])
    | _ :: _, mark :: after =>
      if mark = ';' ∨ mark = ' ' then (parameters? (after.length + 1) after).map type else none
    | [], _ :: _ => none
  | _, _ => none

end MediaType

end EntityGraph
