import EntityGraph.Text.LetterCase
import EntityGraph.Text.WhiteSpace

/-!
# Sets of characters

What one place of a regular expression accepts.

* `CharSet.has`: whether a character is in a set.
-/

namespace EntityGraph.Regex

inductive CharSet where
  | range (first last : Char)
  | digit
  | space
  | letter
  /-- Letters, digits and the underscore. -/
  | word
  | upper
  | lower
  | union (a b : CharSet)
  | inter (a b : CharSet)
  | minus (a b : CharSet)
  | negated (s : CharSet)
  /-- Characters of a set and those which differ from them by case alone. -/
  | folded (s : CharSet)
deriving DecidableEq, Repr

namespace CharSet

/-- The zeros of the decimal digits of all scripts. -/
def zeros : List Nat := [
  0x30, 0x660, 0x6f0, 0x7c0, 0x966, 0x9e6, 0xa66, 0xae6, 0xb66, 0xbe6, 0xc66, 0xce6, 0xd66,
  0xde6, 0xe50, 0xed0, 0xf20, 0x1040, 0x1090, 0x17e0, 0x1810, 0x1946, 0x19d0, 0x1a80, 0x1a90,
  0x1b50, 0x1bb0, 0x1c40, 0x1c50, 0xa620, 0xa8d0, 0xa900, 0xa9d0, 0xa9f0, 0xaa50, 0xabf0,
  0xff10, 0x104a0, 0x10d30, 0x10d40, 0x11066, 0x110f0, 0x11136, 0x111d0, 0x112f0, 0x11450,
  0x114d0, 0x11650, 0x116c0, 0x116d0, 0x116da, 0x11730, 0x118e0, 0x11950, 0x11bf0, 0x11c50,
  0x11d50, 0x11da0, 0x11de0, 0x11f50, 0x16130, 0x16a60, 0x16ac0, 0x16b50, 0x16d70, 0x1ccf0,
  0x1d7ce, 0x1d7d8, 0x1d7e2, 0x1d7ec, 0x1d7f6, 0x1e140, 0x1e2f0, 0x1e4f0, 0x1e5f1, 0x1e950,
  0x1fbf0]

def isDigit (c : Char) : Bool := zeros.any fun first => first ≤ c.toNat && c.toNat < first + 10

def isUpper (c : Char) : Bool := LetterCase.lower c != [c]

def isLower (c : Char) : Bool := LetterCase.upper c != [c]

/-- Letters with a case, and those of the large scripts without one. -/
def isLetter (c : Char) : Bool :=
  isUpper c || isLower c || [(0x5d0, 0x5ea), (0x620, 0x64a), (0x904, 0x939), (0xe01, 0xe30),
    (0x3041, 0x3096), (0x30a1, 0x30fa), (0x3400, 0x4dbf), (0x4e00, 0x9fff), (0xac00, 0xd7a3),
    (0x20000, 0x2a6df)].any fun (first, last) => first ≤ c.toNat && c.toNat ≤ last

def isWord (c : Char) : Bool := isLetter c || isDigit c || c == '_'

/-- The character and those which differ from it by case alone. -/
def variants (c : Char) : List Char :=
  let mapped (f : Char → List Char) (c : Char) : List Char :=
    match f c with
    | [d] => [d]
    | _ => []
  let upper := mapped LetterCase.upper c
  let lower := mapped LetterCase.lower c
  c :: (upper ++ lower ++ upper.flatMap (mapped LetterCase.lower)
    ++ lower.flatMap (mapped LetterCase.upper))

def has : CharSet → Char → Bool
  | range first last, c => first ≤ c && c ≤ last
  | digit, c => isDigit c
  | space, c => Text.isWhite c
  | letter, c => isLetter c
  | word, c => isWord c
  | upper, c => isUpper c
  | lower, c => isLower c
  | union a b, c => has a c || has b c
  | inter a b, c => has a c && has b c
  | minus a b, c => has a c && !has b c
  | negated s, c => !has s c
  | folded s, c => (variants c).any (has s)

def single (c : Char) : CharSet := .range c c

/-- No character. -/
def nothing : CharSet := .range '\x01' '\x00'

def ofList (sets : List CharSet) : CharSet := sets.foldl .union nothing

/-- The set of some ranges. -/
def ofRanges (ranges : List (Char × Char)) : CharSet :=
  ofList (ranges.map fun (first, last) => .range first last)

/-- The sets of characters below 128 which have names. -/
def named? : String → Option CharSet
  | "alnum" => some (ofRanges [('0', '9'), ('A', 'Z'), ('a', 'z')])
  | "alpha" => some (ofRanges [('A', 'Z'), ('a', 'z')])
  | "ascii" => some (ofRanges [('\x00', '\x7f')])
  | "blank" => some (ofRanges [('\t', '\t'), (' ', ' ')])
  | "cntrl" => some (ofRanges [('\x00', '\x1f'), ('\x7f', '\x7f')])
  | "digit" => some (ofRanges [('0', '9')])
  | "graph" => some (ofRanges [('!', '~')])
  | "lower" => some (ofRanges [('a', 'z')])
  | "print" => some (ofRanges [(' ', '~')])
  | "punct" => some (ofRanges [('!', '/'), (':', '@'), ('[', '`'), ('\x7b', '~')])
  | "space" => some (ofRanges [('\t', '\r'), (' ', ' ')])
  | "upper" => some (ofRanges [('A', 'Z')])
  | "word" => some (ofRanges [('0', '9'), ('A', 'Z'), ('_', '_'), ('a', 'z')])
  | "xdigit" => some (ofRanges [('0', '9'), ('A', 'F'), ('a', 'f')])
  | _ => none

end CharSet

end EntityGraph.Regex
