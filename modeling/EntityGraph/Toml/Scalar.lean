import EntityGraph.Json.Reader
import EntityGraph.Toml.Basic

/-!
# Scalars of TOML documents

Strings in their four forms, numbers, and dates with times. Underscores may stand between the
digits of a number; a date has to be one of the calendar. Each reader takes a value off the front
of a text and returns what is behind it, or fails.
-/

namespace EntityGraph.Toml

/-- A reader which takes an `α` off the front of a text. -/
abbrev Reader (α : Type) := List Char → Option (α × List Char)

/-! ### Characters -/

def isBlank (c : Char) : Bool := c == ' ' || c == '\t'

def skipBlanks (cs : List Char) : List Char := cs.dropWhile isBlank

/-- Characters which may stand in comments and strings; line ends and most control characters
    may not. -/
def isPrintable (c : Char) : Bool := c == '\t' || (0x20 ≤ c.toNat && c.toNat ≠ 0x7f)

/-- What is behind a line end. -/
def lineEnd? : List Char → Option (List Char)
  | '\n' :: rest => some rest
  | '\r' :: '\n' :: rest => some rest
  | _ => none

/-! ### Strings -/

/-- The character which some hexadecimal digits stand for. -/
def scalar? (digits : List Char) : Option Char := do
  let values ← digits.mapM Json.Reader.hexValue?
  let n := values.foldl (fun a d => a * 16 + d) 0
  if h : n.isValidChar then some (Char.ofNatAux n h) else none

/-- The character behind a backslash. -/
def escape : Reader Char
  | 'b' :: rest => some ('\x08', rest)
  | 't' :: rest => some ('\t', rest)
  | 'n' :: rest => some ('\n', rest)
  | 'f' :: rest => some ('\x0c', rest)
  | 'r' :: rest => some ('\r', rest)
  | '"' :: rest => some ('"', rest)
  | '\\' :: rest => some ('\\', rest)
  | 'u' :: rest =>
    if rest.length < 4 then none else (scalar? (rest.take 4)).map (·, rest.drop 4)
  | 'U' :: rest =>
    if rest.length < 8 then none else (scalar? (rest.take 8)).map (·, rest.drop 8)
  | _ => none

/-- The characters up to a closing quote. -/
def basicRest (fuel : Nat) (cs : List Char) : Option (List Char × List Char) :=
  match fuel, cs with
  | _, '"' :: rest => some ([], rest)
  | fuel + 1, '\\' :: rest => do
    let (c, rest) ← escape rest
    let (s, rest) ← basicRest fuel rest
    return (c :: s, rest)
  | fuel + 1, c :: rest =>
    if isPrintable c then (basicRest fuel rest).map fun (s, r) => (c :: s, r) else none
  | _, _ => none

/-- The characters up to a closing quote, none of which is escaped. -/
def literalRest : Reader (List Char)
  | '\'' :: rest => some ([], rest)
  | c :: rest =>
    if isPrintable c then (literalRest rest).map fun (s, r) => (c :: s, r) else none
  | [] => none

/-- The quotes in front of a closing triple which still belong to the string, if the text goes on
    with such a triple. -/
def closing? (quote : Char) (cs : List Char) : Option (List Char × List Char) :=
  match (cs.takeWhile (· == quote)).length with
  | 0 | 1 | 2 => none
  | n => some (List.replicate (min (n - 3) 2) quote, cs.drop (min n 5))

/-- What is behind a line end which is left out together with all blanks and line ends after it. -/
def joinLines? (cs : List Char) : Option (List Char) :=
  (lineEnd? (skipBlanks cs)).map fun rest => skipSpace rest.length rest
where
  skipSpace (fuel : Nat) (cs : List Char) : List Char :=
    match fuel with
    | 0 => cs
    | fuel + 1 =>
      match cs with
      | c :: rest =>
        if isBlank c then skipSpace fuel rest
        else (lineEnd? (c :: rest)).elim (c :: rest) (skipSpace fuel)
      | [] => []

/-- The rest of a string over several lines, up to its closing quotes. -/
def blockRest (escapes : Bool) (quote : Char) (fuel : Nat) (cs : List Char) :
    Option (List Char × List Char) :=
  match fuel with
  | 0 => none
  | fuel + 1 =>
    match closing? quote cs with
    | some result => some result
    | none =>
      let more (c : Char) (rest : List Char) :=
        (blockRest escapes quote fuel rest).map fun (s, r) => (c :: s, r)
      match lineEnd? cs, cs with
      | some rest, _ => more '\n' rest
      | none, [] => none
      | none, c :: rest =>
        if escapes ∧ c = '\\' then
          match joinLines? rest with
          | some rest => blockRest escapes quote fuel rest
          | none => (escape rest).bind fun (c, rest) => more c rest
        else if isPrintable c then more c rest
        else none

/-- A string of any form. -/
def string (cs : List Char) : Option (String × List Char) :=
  let block (escapes : Bool) (quote : Char) (rest : List Char) :=
    blockRest escapes quote (rest.length + 1) ((lineEnd? rest).getD rest)
  let chars := match cs with
    | '"' :: '"' :: '"' :: rest => block true '"' rest
    | '\'' :: '\'' :: '\'' :: rest => block false '\'' rest
    | '"' :: rest => basicRest rest.length rest
    | '\'' :: rest => literalRest rest
    | _ => none
  chars.map fun (s, rest) => (String.ofList s, rest)

/-! ### Numbers -/

/-- Digits with single underscores between them; the digits alone. -/
def grouped? (isDigit : Char → Bool) : List Char → Option (List Char)
  | [] => none
  | [c] => if isDigit c then some [c] else none
  | c :: '_' :: rest => if isDigit c then (grouped? isDigit rest).map (c :: ·) else none
  | c :: rest => if isDigit c then (grouped? isDigit rest).map (c :: ·) else none

/-- Decimal digits without a zero in front of others. -/
def decimal? (cs : List Char) : Option (List Char) := do
  let digits ← grouped? Char.isDigit cs
  if digits.length ≠ 1 ∧ digits.head? = some '0' then none
  return digits

/-- The integer of digits in a base. -/
def based? (base : Nat) (cs : List Char) : Option Int := do
  let digits ← grouped? (fun c => (Json.Reader.hexValue? c).any (· < base)) cs
  return (digits.foldl (fun n c => n * base + (Json.Reader.hexValue? c).getD 0) 0 : Nat)

def integer? (word : List Char) : Option Int :=
  match word with
  | '0' :: 'x' :: rest => based? 16 rest
  | '0' :: 'o' :: rest => based? 8 rest
  | '0' :: 'b' :: rest => based? 2 rest
  | word => do
    let (negative, rest) := Floating.sign word
    let n : Nat := Floating.natOf (← decimal? rest)
    return if negative then -n else n

/-- Integers fit 64 bits with a sign. -/
def isSigned (n : Int) : Bool := decide (-0x8000000000000000 ≤ n ∧ n ≤ 0x7fffffffffffffff)

/-- The digits of an exponent behind its sign; no text is no exponent. -/
def exponentPart? : List Char → Option (List Char)
  | [] => some []
  | e :: rest =>
    if e = 'e' ∨ e = 'E' then
      let (negative, digits) := Floating.sign rest
      (grouped? Char.isDigit digits).map fun ds => 'e' :: (if negative then '-' else '+') :: ds
    else none

def isExponentMark (c : Char) : Bool := c == 'e' || c == 'E'

/-- A number with a fraction or an exponent, `inf` or `nan`. What is too large is refused, unless
    it is negative. -/
def float? (word : List Char) : Option Floating := do
  let (negative, body) := Floating.sign word
  if body = "inf".toList then return .infinite negative
  if body = "nan".toList then return .notANumber
  let isWhole (c : Char) : Bool := c.isDigit || c == '_'
  let whole ← decimal? (body.takeWhile isWhole)
  let rest := body.dropWhile isWhole
  let (fraction, rest) ← match rest with
    | '.' :: rest => do
      let digits ← grouped? Char.isDigit (rest.takeWhile isWhole)
      some ('.' :: digits, rest.dropWhile isWhole)
    | rest => some ([], rest)
  let exponent ← exponentPart? rest
  if fraction.isEmpty ∧ exponent.isEmpty then none
  let x ← Floating.readDecimal? negative (whole ++ fraction ++ exponent)
  if x = .infinite false then none
  return x

/-! ### Dates and times -/

/-- Some number of digits, and nothing else. -/
def fixed? (count : Nat) (cs : List Char) : Option (Nat × List Char) :=
  let digits := cs.take count
  if digits.length = count ∧ digits.all Char.isDigit then
    some (Floating.natOf digits, cs.drop count)
  else none

def mark? (mark : Char) (cs : List Char) : Option (List Char) :=
  match cs with
  | c :: rest => if c = mark then some rest else none
  | [] => none

def daysOf (year month : Nat) : Nat :=
  if month = 2 then
    if year % 4 = 0 ∧ (year % 100 ≠ 0 ∨ year % 400 = 0) then 29 else 28
  else if month = 4 ∨ month = 6 ∨ month = 9 ∨ month = 11 then 30
  else 31

/-- What is behind a day of the calendar. -/
def date? (cs : List Char) : Option (List Char) := do
  let (year, cs) ← fixed? 4 cs
  let (month, cs) ← fixed? 2 (← mark? '-' cs)
  let (day, cs) ← fixed? 2 (← mark? '-' cs)
  if 1 ≤ month ∧ month ≤ 12 ∧ 1 ≤ day ∧ day ≤ daysOf year month then some cs else none

/-- What is behind a time of day. -/
def time? (cs : List Char) : Option (List Char) := do
  let (hour, cs) ← fixed? 2 cs
  let (minute, cs) ← fixed? 2 (← mark? ':' cs)
  let (second, cs) ← fixed? 2 (← mark? ':' cs)
  if 24 ≤ hour ∨ 60 ≤ minute ∨ 61 ≤ second then none
  match cs with
  | '.' :: rest => if rest.head?.any Char.isDigit then some (rest.dropWhile Char.isDigit) else none
  | cs => some cs

/-- What is behind the distance of a time from the universal one, if there is one. -/
def offset? (cs : List Char) : Option (List Char) :=
  match cs with
  | 'Z' :: rest | 'z' :: rest => some rest
  | c :: rest =>
    if c = '+' ∨ c = '-' then do
      let (hour, rest) ← fixed? 2 rest
      let (minute, rest) ← fixed? 2 (← mark? ':' rest)
      if 24 ≤ hour ∨ 60 ≤ minute then none else some rest
    else some cs
  | [] => some []

/-- What is behind a date, a time or both. -/
def dateTime? (cs : List Char) : Option (List Char) :=
  match date? cs with
  | none => time? cs
  | some cs =>
    match cs with
    | 'T' :: rest | 't' :: rest => (time? rest).bind offset?
    | ' ' :: rest => if rest.head?.any Char.isDigit then (time? rest).bind offset? else some cs
    | cs => some cs

/-! ### All scalars -/

/-- Characters of a number or a keyword. -/
def isWordChar (c : Char) : Bool :=
  c.isAlphanum || c == '+' || c == '-' || c == '_' || c == '.'

/-- A word which stands for a value. -/
def word? (word : List Char) : Option TomlValue :=
  if word = "true".toList then some (.bool true)
  else if word = "false".toList then some (.bool false)
  else match integer? word with
    | some n => if isSigned n then some (.integer n) else none
    | none => (float? word).map .float

def scalar (cs : List Char) : Option (TomlValue × List Char) :=
  match cs with
  | '"' :: _ | '\'' :: _ => (string cs).map fun (s, rest) => (.string s, rest)
  | cs =>
    match dateTime? cs with
    | some rest => some (.dateTime, rest)
    | none => (word? (cs.takeWhile isWordChar)).map (·, cs.dropWhile isWordChar)

end EntityGraph.Toml
