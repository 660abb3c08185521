import EntityGraph.Language.Lexical

/-!
# Tokens

A document seen as a sequence of tokens with layout between them: marks, names, numbers and
strings, each as long as it can be. The grammar is read character by character and does not need
tokens; they tell what is left of a text once its layout is taken away.
-/

namespace EntityGraph

inductive Token where
  | mark (chars : List Char)
  | name (chars : List Char)
  /-- A number, which may be out of range, as it is written. -/
  | number (numeral : Json.Reader.Numeral)
  | string (value : List Char)
deriving DecidableEq, Repr

namespace Token

/-- The characters which are marks on their own. -/
def marks : List Char :=
  ['!', '$', '&', '(', ')', ':', '=', '@', '[', ']', '\x7b', '|', '\x7d']

def openBrace : Token := .mark ['\x7b']

def closeBrace : Token := .mark ['\x7d']

/-- The token at the start of a text, and the rest of the text. -/
def read? (cs : List Char) : Option (Token × List Char) :=
  match cs with
  | [] => none
  | '.' :: '.' :: '.' :: rest => some (.mark ['.', '.', '.'], rest)
  | c :: rest =>
    if c ∈ marks then some (.mark [c], rest)
    else match Lexical.name? (c :: rest) with
      | some (n, rest) => some (.name n, rest)
      | none =>
        if c = '"' then (Lexical.string? (c :: rest)).map fun (s, r) => (.string s, r)
        else (Lexical.numeral? (c :: rest)).map fun (n, r) => (.number n, r)

/-- The tokens of a text which starts with layout or a token. -/
def scanFrom (fuel : Nat) (cs : List Char) : Option (List Token) :=
  match fuel with
  | 0 => none
  | fuel + 1 =>
    match (Lexical.layout cs).2 with
    | [] => some []
    | start =>
      match read? start with
      | none => none
      | some (token, rest) => (scanFrom fuel rest).map (token :: ·)

/-- The tokens of a text; none if some part of it is neither token nor layout. -/
def scan (text : String) : Option (List Token) := scanFrom (text.length + 1) text.toList

end Token

end EntityGraph
