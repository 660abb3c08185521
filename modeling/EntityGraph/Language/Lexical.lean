import EntityGraph.Json.Reader

/-!
# The characters of documents

What names, numerals and strings look like, and what may stand between the parts of a document:
blanks, commas, line ends and comments. Each reader takes what it reads off the front of a text.

* `Lexical.layout`: the layout at the start of a text, and the text behind it;
* `Lexical.numeral?`, `Lexical.string?`: a numeral or a string, and the text behind it.
-/

namespace EntityGraph.Lexical

/-! ### Character classes -/

def isNameStart (c : Char) : Bool := c.isAlpha || c == '_'

def isNameChar (c : Char) : Bool := c.isAlphanum || c == '_'

def isLineEnd (c : Char) : Bool := c == '\n' || c == '\r'

/-- Characters which only separate tokens. -/
def isBlank (c : Char) : Bool :=
  c == ' ' || c == ',' || c == '\t' || c == '\ufeff' || isLineEnd c

/-! ### Layout -/

/-- The layout at the start of a text and the text behind it; `comment` tells whether the text
    starts within a comment. -/
def layoutFrom (comment : Bool) : List Char → List Char × List Char
  | [] => ([], [])
  | c :: rest =>
    if comment || isBlank c || c = '#' then
      let (taken, left) := layoutFrom (if comment then !isLineEnd c else c = '#') rest
      (c :: taken, left)
    else ([], c :: rest)

/-- Blanks and comments at the start of a text, and the text behind them. -/
def layout (cs : List Char) : List Char × List Char := layoutFrom false cs

/-- The name at the start of a text and the text behind it. -/
def name? : List Char → Option (List Char × List Char)
  | [] => none
  | c :: rest =>
    if isNameStart c then some (c :: rest.takeWhile isNameChar, rest.dropWhile isNameChar)
    else none

/-! ### Numerals -/

/-- An optional sign and an integer without leading zeros. -/
def integer? (cs : List Char) : Option (Bool × List Char × List Char) :=
  let (negative, cs) := match cs with
    | '-' :: rest => (true, rest)
    | cs => (false, cs)
  match cs with
  | '0' :: rest => some (negative, ['0'], rest)
  | c :: rest =>
    if c.isDigit then
      some (negative, c :: rest.takeWhile Char.isDigit, rest.dropWhile Char.isDigit)
    else none
  | [] => none

/-- The digits behind a point. -/
def fraction? (cs : List Char) : Option (List Char × List Char) :=
  match cs with
  | '.' :: c :: rest =>
    if c.isDigit then some (c :: rest.takeWhile Char.isDigit, rest.dropWhile Char.isDigit)
    else none
  | _ => none

/-- The sign and the digits of an exponent. -/
def exponent? (cs : List Char) : Option ((Bool × List Char) × List Char) :=
  match cs with
  | e :: rest =>
    if e = 'e' ∨ e = 'E' then
      let (negative, rest) := match rest with
        | '-' :: r => (true, r)
        | '+' :: r => (false, r)
        | r => (false, r)
      match rest with
      | c :: r =>
        if c.isDigit then
          some ((negative, c :: r.takeWhile Char.isDigit), r.dropWhile Char.isDigit)
        else none
      | [] => none
    else none
  | [] => none

/-- The numeral at the start of a text. A numeral which runs into a name is none. -/
def numeral? (cs : List Char) : Option (Json.Reader.Numeral × List Char) :=
  match integer? cs with
  | none => none
  | some (negative, whole, rest) =>
    let (fraction, rest) := (fraction? rest).elim ([], rest) id
    let (exponent, rest) := (exponent? rest).elim (none, rest) fun (e, r) => (some e, r)
    if rest.head?.any isNameStart then none
    else some (⟨negative, whole, fraction, exponent⟩, rest)

/-! ### Strings -/

/-- The value of four hexadecimal digits, unless it is half of a surrogate pair. -/
def scalar? (a b c d : Char) : Option Char :=
  match Json.Reader.hexValue? a, Json.Reader.hexValue? b, Json.Reader.hexValue? c,
      Json.Reader.hexValue? d with
  | some a, some b, some c, some d =>
    let n := ((a * 16 + b) * 16 + c) * 16 + d
    if h : n.isValidChar then some (Char.ofNatAux n h) else none
  | _, _, _, _ => none

/-- The character a letter behind a backslash stands for. -/
def escaped? : Char → Option Char
  | '"' => some '"'
  | '\\' => some '\\'
  | '/' => some '/'
  | 'b' => some '\x08'
  | 'f' => some '\x0c'
  | 'n' => some '\n'
  | 'r' => some '\r'
  | 't' => some '\t'
  | _ => none

/-- The characters of a string up to its closing quote, and what is behind that quote. -/
def stringRest? : List Char → Option (List Char × List Char)
  | '"' :: rest => some ([], rest)
  | '\\' :: 'u' :: a :: b :: c :: d :: rest =>
    match scalar? a b c d with
    | some value => (stringRest? rest).map fun (s, r) => (value :: s, r)
    | none => none
  | '\\' :: e :: rest =>
    match escaped? e with
    | some value => (stringRest? rest).map fun (s, r) => (value :: s, r)
    | none => none
  | c :: rest =>
    if isLineEnd c ∨ c = '\\' then none
    else (stringRest? rest).map fun (s, r) => (c :: s, r)
  | [] => none

/-- The raw text of a block string up to its closing quotes, and what is behind them. -/
def blockRest? : List Char → Option (List Char × List Char)
  | '"' :: '"' :: '"' :: rest => some ([], rest)
  | '\\' :: '"' :: '"' :: '"' :: rest =>
    (blockRest? rest).map fun (s, r) => ('\\' :: '"' :: '"' :: '"' :: s, r)
  | c :: rest => (blockRest? rest).map fun (s, r) => (c :: s, r)
  | [] => none

/-- The lines of a text, which end at line feeds, carriage returns or both. -/
def lines : List Char → List (List Char)
  | [] => [[]]
  | '\r' :: '\n' :: rest => [] :: lines rest
  | c :: rest =>
    if isLineEnd c then [] :: lines rest
    else match lines rest with
      | [] => [[c]]
      | line :: more => (c :: line) :: more

def isIndent (c : Char) : Bool := c == ' ' || c == '\t'

/-- The value of a block string: lines without content at both ends are left out, and the indent
    common to all lines but the first is removed from these. -/
def blockValue (raw : List Char) : List Char :=
  let all := lines raw
  let blank (line : List Char) : Bool := line.all isIndent
  let indents := (all.drop 1).filterMap fun line =>
    if blank line then none else some (line.takeWhile isIndent).length
  let indent := indents.min?.getD 0
  let cut : List (List Char) := match all with
    | [] => []
    | first :: more =>
      first :: more.map fun line => if indent ≤ line.length then line.drop indent else line
  let kept := ((cut.dropWhile blank).reverse.dropWhile blank).reverse
  List.intercalate ['\n'] kept

/-- A string, in block form if it has three quotes and an end of that form. -/
def string? (cs : List Char) : Option (List Char × List Char) :=
  let block := match cs with
    | '"' :: '"' :: '"' :: rest => (blockRest? rest).map fun (raw, r) => (blockValue raw, r)
    | _ => none
  match block with
  | some result => some result
  | none =>
    match cs with
    | '"' :: rest => stringRest? rest
    | _ => none

end EntityGraph.Lexical
