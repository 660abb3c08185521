import EntityGraph.Text.Shown

/-!
# Quoted text

Text shown to a developer stands between double quotes. Quotes, backslashes and line ends are
escaped by a letter, every character without a printed form by its code point; a single quote
stays as it is.
-/

namespace EntityGraph.Text

/-- How one character is shown between quotes. -/
def shownChar (c : Char) : List Char :=
  match c with
  | '\x00' => ['\\', '0']
  | '\t' => ['\\', 't']
  | '\n' => ['\\', 'n']
  | '\r' => ['\\', 'r']
  | '"' => ['\\', '"']
  | '\\' => ['\\', '\\']
  | c => if isShown c then [c] else "\\u\x7b".toList ++ Nat.toDigits 16 c.toNat ++ ['\x7d']

def quoted (s : String) : String :=
  String.ofList ('"' :: (s.toList.flatMap shownChar ++ ['"']))

/-- A single character between single quotes, of which these are escaped and not double ones. -/
def quotedChar (c : Char) : String :=
  let shown := match c with
    | '"' => ['"']
    | '\'' => ['\\', '\'']
    | c => shownChar c
  String.ofList ('\'' :: (shown ++ ['\'']))

/-- An optional value, whose text is `shown`. -/
def optional {α : Type} (shown : α → String) : Option α → String
  | none => "None"
  | some v => "Some(" ++ shown v ++ ")"

end EntityGraph.Text
