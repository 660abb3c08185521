import EntityGraph.Json.Reader
import EntityGraph.Regex.Basic
import EntityGraph.Regex.Fault

/-!
# Reading regular expressions

Branches are separated by bars and consist of parts, each perhaps with a repetition behind it. Flags
in a group, `(?i)`, change how the rest of this group is read. The text is read from left to right,
and its first fault is the one reported.

* `Regex.read`: the regular expression a text stands for, or why it stands for none.
-/

namespace EntityGraph.Regex

/-- How characters are read. -/
structure Flags where
  /-- Letters stand for both of their cases. -/
  caseless : Bool
  /-- Lines have starts and ends of their own. -/
  manyLines : Bool
  /-- The dot stands for line feeds too. -/
  dotAll : Bool
  /-- Carriage returns end lines. -/
  carriageReturns : Bool
  /-- Names of sets are about all characters, not only those below 128. -/
  unicode : Bool
  /-- White space and comments do not count. -/
  spaced : Bool
deriving DecidableEq, Repr

namespace Flags

def initial : Flags := ⟨false, false, false, false, true, false⟩

/-- Sets the flag of a letter. -/
def set (f : Flags) (value : Bool) : Char → Flags
  | 'i' => { f with caseless := value }
  | 'm' => { f with manyLines := value }
  | 's' => { f with dotAll := value }
  | 'R' => { f with carriageReturns := value }
  | 'u' => { f with unicode := value }
  | 'x' => { f with spaced := value }
  | _ => f

/-- The letters of flags; one of them only changes what is preferred, not what is found. -/
def letters : List Char := ['i', 'm', 's', 'U', 'u', 'R', 'x']

def digits (f : Flags) : CharSet := if f.unicode then .digit else .range '0' '9'

def spaces (f : Flags) : CharSet :=
  if f.unicode then .space else .ofRanges [('\t', '\r'), (' ', ' ')]

def words (f : Flags) : CharSet :=
  if f.unicode then .word else .ofRanges [('0', '9'), ('A', 'Z'), ('_', '_'), ('a', 'z')]

/-- What the dot stands for. -/
def dot (f : Flags) : CharSet :=
  if f.dotAll then .negated .nothing
  else if f.carriageReturns then .negated (.ofList [.single '\n', .single '\r'])
  else .negated (.single '\n')

def fold (f : Flags) (s : CharSet) : CharSet := if f.caseless then .folded s else s

def start (f : Flags) : Assertion :=
  if !f.manyLines then .textStart else if f.carriageReturns then .anyLineStart else .lineStart

def finish (f : Flags) : Assertion :=
  if !f.manyLines then .textEnd else if f.carriageReturns then .anyLineEnd else .lineEnd

end Flags

/-- What is left to read, and what is known so far. -/
structure Progress where
  index : Nat
  rest : List Char
  flags : Flags
  /-- Names of groups and where they stand. -/
  names : List (String × Span)

/-- A step reading an `α`. -/
abbrev Reading (α : Type) := StateT Progress (Except Fault) α

namespace Reading

def fail {α : Type} (kind : FaultKind) (start stop : Nat) : Reading α :=
  throw ⟨kind, ⟨start, stop⟩, none⟩

def index : Reading Nat := do return (← get).index

def peek : Reading (Option Char) := do return (← get).rest.head?

/-- The character behind the next one. -/
def second : Reading (Option Char) := do return (← get).rest[1]?

def atEnd : Reading Bool := do return (← get).rest.isEmpty

/-- Moves on by a number of characters. -/
def skip (count : Nat) : Reading Unit :=
  modify fun p => { p with index := p.index + count, rest := p.rest.drop count }

/-- White space and comments in front of a text. -/
def spaceAhead (comment : Bool) : List Char → Nat
  | [] => 0
  | c :: rest =>
    if comment then spaceAhead (c != '\n') rest + 1
    else if c == '#' then spaceAhead true rest + 1
    else if Text.isWhite c then spaceAhead false rest + 1
    else 0

/-- Moves on to the next character which counts. -/
def skipSpace : Reading Unit := do
  let p ← get
  if p.flags.spaced then skip (spaceAhead false p.rest)

/-- Moves on by one character and the space behind it; tells whether something is left. -/
def advance : Reading Bool := do
  skip 1
  skipSpace
  return !(← atEnd)

/-- Takes the first of several texts which is next. -/
def takeOne (texts : List String) : Reading Bool := do
  let p ← get
  match texts.find? fun text => text.toList.isPrefixOf p.rest with
  | some text =>
    skip text.length
    return true
  | none => return false

/-- Takes characters of a kind, each with the space behind it. -/
def takeWhile (accepts : Char → Bool) (fuel : Nat) : Reading (List Char) := do
  match fuel, ← peek with
  | fuel + 1, some c =>
    if accepts c then
      let _ ← advance
      return c :: (← takeWhile accepts fuel)
    else return []
  | _, _ => return []

/-- The number of characters left, which bounds what can be taken. -/
def left : Reading Nat := do return (← get).rest.length

end Reading

open Reading

/-! ### Escapes -/

/-- What an escape or another single character stands for. -/
inductive Atom where
  | character (c : Char)
  | set (s : CharSet)
  | dot
  | start
  | finish
  | assertion (a : Assertion)

/-- Characters with a meaning of their own. -/
def metaCharacters : List Char := "\\.+*?()|[]\x7b\x7d^$#&-~".toList

/-- A backslash in front of the character changes nothing but takes away its meaning. -/
def isEscapable (c : Char) : Bool :=
  metaCharacters.contains c
    || (c.toNat < 0x80 && !c.isAlphanum && c != '<' && c != '>')

def hexNumber (digits : List Char) : Nat :=
  digits.foldl (fun n c => n * 16 + (Json.Reader.hexValue? c).getD 0) 0

def isHex (c : Char) : Bool := (Json.Reader.hexValue? c).isSome

/-- The character of hexadecimal digits, which stand at a span. -/
def hexCharacter (digits : List Char) (start stop : Nat) : Reading Char :=
  let n := hexNumber digits
  if h : n.isValidChar then return Char.ofNatAux n h else fail .hexInvalid start stop

/-- A number of hexadecimal digits. -/
def hexDigits (first : Bool) : Nat → Reading (List Char)
  | 0 => return []
  | count + 1 => do
    unless first do
      if !(← advance) then fail .escapeUnfinished (← index) (← index)
    match ← peek with
    | some c =>
      if isHex c then return c :: (← hexDigits false count)
      else fail .hexDigit (← index) ((← index) + 1)
    | none => fail .escapeUnfinished (← index) (← index)

/-- Hexadecimal digits between braces. -/
def hexBraced (fuel : Nat) : Reading (List Char) := do
  match fuel with
  | 0 => return []
  | fuel + 1 =>
    if !(← advance) then return []
    match ← peek with
    | some '\x7d' => return []
    | some c =>
      if isHex c then return c :: (← hexBraced fuel)
      else fail .hexDigit (← index) ((← index) + 1)
    | none => return []

/-- The character whose number follows the letter of an escape. -/
def hexEscape (letter : Char) : Reading Char := do
  if !(← advance) then fail .escapeUnfinished (← index) (← index)
  let start ← index
  if (← peek) == some '\x7b' then
    let digits ← hexBraced (← left)
    if ← atEnd then fail .escapeUnfinished start (← index)
    let stop ← index
    let _ ← advance
    if digits.isEmpty then fail .hexEmpty start (← index)
    hexCharacter digits (start + 1) stop
  else
    let digits ← hexDigits true (if letter = 'x' then 2 else if letter = 'u' then 4 else 8)
    let _ ← advance
    hexCharacter digits start (← index)

/-- The set of a property by its name, in which case and marks do not count. -/
def property? (name : List Char) : Option CharSet :=
  let plain := (name.filter fun c => !Text.isWhite c && c != '_' && c != '-').map Char.toLower
  match String.ofList plain with
  | "l" | "letter" | "alphabetic" | "alpha" => some .letter
  | "lu" | "uppercaseletter" | "uppercase" | "upper" => some .upper
  | "ll" | "lowercaseletter" | "lowercase" | "lower" => some .lower
  | "n" | "number" | "nd" | "decimalnumber" | "digit" => some .digit
  | "whitespace" | "wspace" | "space" => some .space
  | "any" => some (.negated .nothing)
  | "ascii" => some (.range '\x00' '\x7f')
  | _ => none

/-- The characters of a property, whose escape started at `start`. -/
def propertyEscape (start : Nat) (negated : Bool) : Reading CharSet := do
  if !(← advance) then fail .escapeUnfinished (← index) (← index)
  let name ← match ← peek with
    | some '\x7b' => do
      let _ ← advance
      let name ← takeWhile (· != '\x7d') (← left)
      if ← atEnd then fail .escapeUnfinished (← index) (← index)
      skip 1
      pure name
    | some '\\' => fail .propertyInvalid (← index) ((← index) + 1)
    | some c => do
      let _ ← advance
      pure [c]
    | none => pure []
  match property? name with
  | some s => return if negated then .negated s else s
  | none => fail .propertyUnknown start (← index)

/-- The edge of a word which is named in braces behind `\b`, if there is such a name. -/
def namedEdge? (start : Nat) : Reading (Option Assertion) := do
  let before ← get
  let isNameChar (c : Char) : Bool := c.isAlpha || c == '-'
  if before.rest.head? != some '\x7b' then return none
  if !(← advance) then fail .edgeUnfinished start (← index)
  let nameStart ← index
  if !(← peek).any isNameChar then
    set before
    return none
  let name ← takeWhile isNameChar (← left)
  if (← peek) != some '\x7d' then fail .edgeUnclosed before.index (← index)
  let nameStop ← index
  skip 1
  match String.ofList name with
  | "start" => return some .wordStart
  | "end" => return some .wordEnd
  | "start-half" => return some .notBehindWord
  | "end-half" => return some .notBeforeWord
  | _ => fail .edgeUnknown nameStart nameStop

/-- What an escape stands for. -/
def escape : Reading Atom := do
  let start ← index
  let flags := (← get).flags
  skip 1
  match ← peek with
  | none => fail .escapeUnfinished start (← index)
  | some c =>
    if c.isDigit then fail .backReference start ((← index) + 1)
    match c with
    | 'x' | 'u' | 'U' => return .character (← hexEscape c)
    | 'p' => return .set (← propertyEscape start false)
    | 'P' => return .set (← propertyEscape start true)
    | _ =>
      skip 1
      if isEscapable c then return .character c
      match c with
      | 'd' => return .set flags.digits
      | 'D' => return .set (.negated flags.digits)
      | 's' => return .set flags.spaces
      | 'S' => return .set (.negated flags.spaces)
      | 'w' => return .set flags.words
      | 'W' => return .set (.negated flags.words)
      | 'a' => return .character '\x07'
      | 'f' => return .character '\x0c'
      | 't' => return .character '\t'
      | 'n' => return .character '\n'
      | 'r' => return .character '\r'
      | 'v' => return .character '\x0b'
      | 'A' => return .assertion .textStart
      | 'z' => return .assertion .textEnd
      | 'b' => return .assertion ((← namedEdge? start).getD .wordEdge)
      | 'B' => return .assertion .noWordEdge
      | '<' => return .assertion .wordStart
      | '>' => return .assertion .wordEnd
      | _ => fail .escapeUnknown start (← index)

/-- A character with its meaning outside of brackets. -/
def atom : Reading Atom := do
  match ← peek with
  | some '\\' => escape
  | some c =>
    skip 1
    match c with
    | '.' => return .dot
    | '^' => return .start
    | '$' => return .finish
    | c => return .character c
  | none => return .character ' '

def Atom.toRegex (f : Flags) : Atom → Regex
  | .character c => .one (f.fold (.single c))
  | .set s => .one s
  | .dot => .one f.dot
  | .start => .assertion f.words f.start
  | .finish => .assertion f.words f.finish
  | .assertion a => .assertion f.words a

/-! ### Brackets -/

/-- How two sets in brackets are combined. -/
inductive SetOperation where
  | inter
  | minus
  | difference

def SetOperation.apply (a b : CharSet) : SetOperation → CharSet
  | inter => .inter a b
  | minus => .minus a b
  | difference => .union (.minus a b) (.minus b a)

/-- An item of a set and where it stands. -/
def setItem : Reading (Atom × Span) := do
  let start ← index
  let item ← match ← peek with
    | some '\\' => escape
    | some c => do
      skip 1
      pure (.character c)
    | none => pure (.character ' ')
  return (item, ⟨start, ← index⟩)

def boundary : Atom × Span → Reading Char
  | (.character c, _) => return c
  | (_, span) => fail .rangeBoundary span.start span.stop

/-- The next character which counts behind the next one. -/
def secondCounting : Reading (Option Char) := do
  let before ← get
  let _ ← advance
  let c ← peek
  set before
  return c

/-- A character, a set or a range within the brackets opened at a span. -/
def setRange (opened : Span) : Reading CharSet := do
  let first ← setItem
  skipSpace
  if ← atEnd then fail .setUnclosed opened.start opened.stop
  let next ← secondCounting
  if (← peek) != some '-' || next == some ']' || next == some '-' then
    match first with
    | (.character c, _) => return .single c
    | (.set s, _) => return s
    | (_, span) => fail .escapeInSet span.start span.stop
  else
    if !(← advance) then fail .setUnclosed opened.start opened.stop
    let last ← setItem
    let a ← boundary first
    let b ← boundary last
    if a ≤ b then return .range a b
    else fail .rangeReversed first.2.start last.2.stop

/-- A named set, `[:alpha:]`, if there is one. -/
def namedSet? : Reading (Option CharSet) := do
  let before ← get
  let name (cs : List Char) : List Char := cs.takeWhile (· != ':')
  match before.rest with
  | '[' :: ':' :: rest =>
    let (negated, rest) := match rest with
      | '^' :: rest => (true, rest)
      | rest => (false, rest)
    let chars := name rest
    match CharSet.named? (String.ofList chars), rest.drop chars.length with
    | some s, ':' :: ']' :: _ =>
      skip (4 + chars.length + if negated then 1 else 0)
      return some (if negated then .negated s else s)
    | _, _ => return none
  | _ => return none

/-- Hyphens at the start of a set, which stand for themselves. -/
def leadingHyphens (start : Nat) (fuel : Nat) : Reading (List CharSet) := do
  match fuel with
  | 0 => return []
  | fuel + 1 =>
    if (← peek) != some '-' then return []
    if !(← advance) then fail .setUnclosed start start
    return .single '-' :: (← leadingHyphens start fuel)

/-- The opening of a set: whether it is negated, the items which can only stand at its start, and
    what was read for it. -/
def openSet : Reading (Bool × List CharSet × Span) := do
  let start ← index
  if !(← advance) then fail .setUnclosed start (← index)
  let negated := (← peek) == some '^'
  if negated then
    if !(← advance) then fail .setUnclosed start (← index)
  let hyphens ← leadingHyphens start (← left)
  if hyphens.isEmpty && (← peek) == some ']' then
    if !(← advance) then fail .setUnclosed start (← index)
    return (negated, [.single ']'], ⟨start, ← index⟩)
  return (negated, hyphens, ⟨start, ← index⟩)

def combine (combined : Option (CharSet × SetOperation)) (items : List CharSet) : CharSet :=
  match combined with
  | none => .ofList items
  | some (first, operation) => operation.apply first (.ofList items)

/-- The items of a set up to its closing bracket. -/
def setItems (fuel : Nat) (opened : Span) (combined : Option (CharSet × SetOperation))
    (items : List CharSet) : Reading CharSet := do
  match fuel with
  | 0 => return .nothing
  | fuel + 1 =>
    skipSpace
    let operation (mark : String) (o : SetOperation) : Reading CharSet := do
      skip mark.length
      setItems fuel opened (some (combine combined items, o)) []
    match ← peek, ← second with
    | none, _ => fail .setUnclosed opened.start opened.stop
    | some '[', _ =>
      match ← namedSet? with
      | some s => setItems fuel opened combined (items ++ [s])
      | none =>
        let (negated, first, span) ← openSet
        let inner ← setItems fuel span none first
        let inner := (← get).flags.fold inner
        setItems fuel opened combined (items ++ [if negated then .negated inner else inner])
    | some ']', _ =>
      skip 1
      return combine combined items
    | some '&', some '&' => operation "&&" .inter
    | some '-', some '-' => operation "--" .minus
    | some '~', some '~' => operation "~~" .difference
    | _, _ => setItems fuel opened combined (items ++ [← setRange opened])

/-- A set in brackets. -/
def bracketed : Reading CharSet := do
  let (negated, first, span) ← openSet
  let s ← setItems ((← left) + 1) span none first
  let s := (← get).flags.fold s
  return if negated then .negated s else s

/-! ### Repetitions -/

/-- The largest number a count can be. -/
def maxCount : Nat := 0xffffffff

/-- A decimal number with white space around it; `none` with its place if there are no digits. -/
def count : Reading (Except Fault Nat) := do
  let white ← left
  skip ((← get).rest.takeWhile Text.isWhite).length
  let start ← index
  let digits ← takeWhile Char.isDigit white
  let stop ← index
  let _ ← takeWhile Text.isWhite white
  if digits.isEmpty then return .error ⟨.countEmpty, ⟨start, stop⟩, none⟩
  let n := digits.foldl (fun n c => n * 10 + (c.toNat - 48)) 0
  if n ≤ maxCount then return .ok n else return .error ⟨.countInvalid, ⟨start, stop⟩, none⟩

def lazyMark : Reading Unit := do
  if (← peek) == some '?' then skip 1

/-- The bounds of a repetition in braces. -/
def counts : Reading (Nat × Option Nat) := do
  let start ← index
  let unclosed {α : Type} : Reading α := do fail .countUnclosed start (← index)
  let given : Except Fault Nat → Reading Nat
    | .ok n => return n
    | .error fault => throw fault
  if !(← advance) then unclosed
  let least ← count
  if ← atEnd then unclosed
  let bounds ← do
    if (← peek) == some ',' then
      if !(← advance) then unclosed
      let least ← given least
      if (← peek) == some '\x7d' then pure (least, none)
      else pure (least, some (← given (← count)))
    else
      let n ← given least
      pure (n, some n)
  if (← peek) != some '\x7d' then unclosed
  if ← advance then lazyMark
  if bounds.2.any (· < bounds.1) then fail .countReversed start (← index)
  return bounds

/-! ### Groups -/

/-- The letters of flags up to a colon or a closing parenthesis, each with whether it is behind a
    minus sign. `seen` holds those read before and where they stand. -/
def flagLetters (fuel : Nat) (negation : Option Nat) (seen : List (Char × Nat)) :
    Reading (List (Char × Bool)) := do
  match fuel, ← peek with
  | fuel + 1, some c =>
    let here ← index
    if c == ':' || c == ')' then
      if (seen.getLast?).any (·.1 == '-') then fail .flagNegationDangling (here - 1) here
      return []
    if c != '-' && !Flags.letters.contains c then fail .flagUnknown here (here + 1)
    if let some first := seen.lookup c then
      throw ⟨if c == '-' then .flagNegationTwice else .flagTwice, ⟨here, here + 1⟩,
        some ⟨first, first + 1⟩⟩
    skip 1
    if ← atEnd then fail .flagMissing (← index) (← index)
    let negation := if c == '-' then some here else negation
    let more ← flagLetters fuel negation (seen ++ [(c, here)])
    return (c, negation.isNone) :: more
  | _, _ => return []

/-- The name of a group up to its closing mark. -/
def groupName : Reading Unit := do
  let start ← index
  let chars := (← get).rest
  let accepted := chars.zipIdx.takeWhile fun (c, i) =>
    c == '_' || CharSet.isLetter c
      || (0 < i && (CharSet.isDigit c || c == '.' || c == '[' || c == ']'))
  skip accepted.length
  match ← peek with
  | none => fail .nameUnclosed (← index) (← index)
  | some '>' =>
    let stop ← index
    skip 1
    if accepted.isEmpty then fail .nameEmpty start start
    let name := String.ofList (accepted.map (·.1))
    if let some first := (← get).names.lookup name then
      throw ⟨.nameTwice, ⟨start, stop⟩, some first⟩
    modify fun p => { p with names := p.names ++ [(name, ⟨start, stop⟩)] }
  | some _ => fail .nameInvalid (← index) ((← index) + 1)

/-- The opening of a group: its flags, or none of them for flags on their own, which are set for
    what follows. -/
def openGroup : Reading (Option Flags) := do
  let start ← index
  let flags := (← get).flags
  skip 1
  skipSpace
  let inner ← index
  if ← takeOne ["?=", "?!", "?<=", "?<!"] then
    fail .lookAround start (← index)
  if ← takeOne ["?P<", "?<"] then
    groupName
    return some flags
  if ← takeOne ["?"] then
    if ← atEnd then fail .groupUnclosed start (start + 1)
    let letters ← flagLetters (← left) none []
    let changed := letters.foldl (fun f (c, value) => f.set value c) flags
    let closes := (← peek) == some ')'
    skip 1
    if !closes then return some changed
    if letters.isEmpty then fail .repetitionOfNothing inner inner
    modify fun p => { p with flags := changed }
    return none
  return some flags

/-! ### Expressions -/

def sequence (parts : List Regex) : Regex := parts.foldr .both .empty

/-- The branches of a group which was opened at an index, or of the whole text. What can be repeated
    is the last one of `parts`, unless flags stand behind it. -/
def branches (fuel : Nat) (opened : Option Nat) (done : List Regex) (parts : List Regex)
    (repeatable : Bool) : Reading Regex := do
  let whole := done.foldr .either (sequence parts)
  match fuel with
  | 0 => return whole
  | fuel + 1 =>
    skipSpace
    let next (part : Regex) : Reading Regex :=
      branches fuel opened done (parts ++ [part]) true
    let repeating (least : Nat) (most : Option Nat) : Reading Regex :=
      match parts.getLast? with
      | some last =>
        branches fuel opened done (parts.dropLast ++ [.repeated last least most]) true
      | none => return whole
    let here ← index
    let mark (least : Nat) (most : Option Nat) : Reading Regex := do
      if !repeatable then fail .repetitionOfNothing here here
      skip 1
      lazyMark
      repeating least most
    match ← peek with
    | none =>
      match opened with
      | some start => fail .groupUnclosed start (start + 1)
      | none => return whole
    | some ')' =>
      if opened.isNone then fail .groupUnopened here (here + 1)
      skip 1
      return whole
    | some '|' =>
      skip 1
      branches fuel opened (done ++ [sequence parts]) [] false
    | some '(' =>
      let outer := (← get).flags
      match ← openGroup with
      | none => branches fuel opened done parts false
      | some flags =>
        modify fun p => { p with flags }
        let inner ← branches fuel (some here) [] [] false
        modify fun p => { p with flags := outer }
        next inner
    | some '[' =>
      let s ← bracketed
      next (.one s)
    | some '?' => mark 0 (some 1)
    | some '*' => mark 0 none
    | some '+' => mark 1 none
    | some '\x7b' =>
      if !repeatable then fail .repetitionOfNothing here here
      let (least, most) ← counts
      repeating least most
    | some _ =>
      let a ← atom
      next (a.toRegex (← get).flags)

/-- The regular expression a text stands for. -/
def read (text : String) : Except Fault Regex :=
  let start : Progress := ⟨0, text.toList, .initial, []⟩
  ((branches (text.length + 1) none [] [] false).run start).map (·.1)

end EntityGraph.Regex
