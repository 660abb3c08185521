import EntityGraph.Language.GrammarRule
import EntityGraph.Language.Position
import EntityGraph.Text.Decimal

/-!
# Diagnosis of unreadable documents

Where a document can not be read any further, the rules which were tried there tell what was
expected. The rules are followed one character after the other, and of all attempts those which
came furthest are kept. A rule stands for the rules it is made of if several of these were tried
at its own start; if only one was, that one is told instead.

* `Pattern.follow`: what a pattern takes off a text, and the attempts made on the way;
* `Diagnosis.ofText`: the diagnosis of a text which should have followed a rule.
-/

namespace EntityGraph

/-- A place in a text: the number of characters before it, and the characters behind it. -/
structure Place where
  index : Nat
  rest : List Char

namespace Place

def start (text : String) : Place := ⟨0, text.toList⟩

/-- The place behind one character. -/
def char? (accepts : Char → Bool) (place : Place) : Option Place :=
  match place.rest with
  | [] => none
  | c :: rest => if accepts c then some ⟨place.index + 1, rest⟩ else none

/-- The place behind certain characters. -/
def text? (chars : List Char) (place : Place) : Option Place :=
  if chars.isPrefixOf place.rest then
    some ⟨place.index + chars.length, place.rest.drop chars.length⟩
  else none

/-- The place behind blanks and comments. -/
def skipLayout (place : Place) : Place :=
  let (taken, rest) := Lexical.layout place.rest
  ⟨place.index + taken.length, rest⟩

end Place

/-- The rules tried at the furthest place. -/
structure Attempts where
  furthest : Nat
  /-- Rules which could not go on. -/
  expected : List GrammarRule
  /-- Rules which should not have gone on. -/
  unexpected : List GrammarRule

namespace Attempts

def none : Attempts := ⟨0, [], []⟩

/-- How many attempts were made at a place. -/
def countAt (a : Attempts) (index : Nat) : Nat :=
  if a.furthest = index then a.expected.length + a.unexpected.length else 0

def push (a : Attempts) (negated : Bool) (rule : GrammarRule) : Attempts :=
  if negated then { a with unexpected := a.unexpected ++ [rule] }
  else { a with expected := a.expected ++ [rule] }

/-- Adds a rule tried at a place to the attempts `a` made before and on behalf of the rule, of
    which those of `before` were made before. -/
def tell (before a : Attempts) (negated : Bool) (index : Nat) (rule : GrammarRule) : Attempts :=
  if a.countAt index = before.countAt index + 1 then a
  else if a.furthest = index then
    let kept := if before.furthest = index then before else none
    push ⟨index, a.expected.take kept.expected.length,
      a.unexpected.take kept.unexpected.length⟩ negated rule
  else if a.furthest < index then push ⟨index, [], []⟩ negated rule
  else a

end Attempts

/-- How a pattern is followed: with what between its parts, and whether it should fit. -/
structure Approach where
  spacing : GrammarRule.Spacing
  negated : Bool

namespace Approach

/-- The approach to the pattern of a rule. -/
def within (a : Approach) (rule : GrammarRule) : Approach :=
  { a with spacing := rule.spacing?.getD a.spacing }

def skip (a : Approach) (place : Place) : Place :=
  if a.spacing = .loose then place.skipLayout else place

end Approach

/-- Follows a pattern from a place: the place behind it if it fits. `depth` bounds how deep
    patterns nest. -/
def Pattern.follow (depth : Nat) (a : Approach) (p : Pattern) (attempts : Attempts)
    (place : Place) : Attempts × Option Place :=
  match depth with
  | 0 => (attempts, none)
  | depth + 1 =>
    match p with
    | .text s => (attempts, place.text? s.toList)
    | .char accepts => (attempts, place.char? accepts)
    | .finish => (attempts, if place.rest.isEmpty then some place else none)
    | .rule r =>
      let (after, result) := r.pattern.follow depth (a.within r) attempts place
      if result.isSome = a.negated ∧ a.spacing ≠ .whole then
        (attempts.tell after a.negated place.index r, result)
      else (after, result)
    | .and first second =>
      match first.follow depth a attempts place with
      | (attempts, none) => (attempts, none)
      | (attempts, some next) => second.follow depth a attempts (a.skip next)
    | .or first second =>
      match first.follow depth a attempts place with
      | (attempts, none) => second.follow depth a attempts place
      | result => result
    | .optional q =>
      match q.follow depth a attempts place with
      | (attempts, none) => (attempts, some place)
      | result => result
    | .many q =>
      match q.follow depth a attempts place with
      | (attempts, none) => (attempts, some place)
      | (attempts, some next) => (Pattern.many q).follow depth a attempts (a.skip next)
    | .without q =>
      match q.follow depth { a with negated := !a.negated } attempts place with
      | (attempts, none) => (attempts, some place)
      | (attempts, some _) => (attempts, none)

/-- What is wrong with a text which does not follow the grammar. -/
structure Diagnosis where
  /-- Where it can not be read any further, counted in characters. -/
  position : Position
  /-- The line of this position as it is shown. -/
  line : String
  unexpected : List GrammarRule
  expected : List GrammarRule
deriving DecidableEq, Repr

namespace Diagnosis

/-- The position behind some characters. A carriage return in front of a line feed takes no
    column. -/
def positionBehind (p : Position) : List Char → Position
  | [] => p
  | '\r' :: '\n' :: rest => positionBehind ⟨p.line + 1, 1⟩ rest
  | '\n' :: rest => positionBehind ⟨p.line + 1, 1⟩ rest
  | _ :: rest => positionBehind ⟨p.line, p.column + 1⟩ rest

/-- The line a place is in. Line ends are only shown if the place is at one. -/
def shownLine (before behind : List Char) : String :=
  let head := (before.reverse.takeWhile (· ≠ '\n')).reverse
  let tail := behind.takeWhile (· ≠ '\n')
  let feed := if tail.length < behind.length then ['\n'] else []
  let line := head ++ tail ++ feed
  String.ofList <|
    if behind.head?.any Lexical.isLineEnd then
      line.map fun c => if c = '\n' then '␊' else if c = '\r' then '␍' else c
    else line.filter fun c => !Lexical.isLineEnd c

/-- Rules in the order of listing, each once. -/
def listed (rules : List GrammarRule) : List GrammarRule :=
  (rules.eraseDups).mergeSort fun r s => r.ctorIdx ≤ s.ctorIdx

/-- A bound on how deep patterns nest for each character of a text. -/
def depthPerCharacter : Nat := 64

/-- The diagnosis of a text which should have followed a rule. -/
def ofText (rule : GrammarRule) (text : String) : Diagnosis :=
  let start := Place.start text
  let (attempts, _) := (Pattern.rule rule).follow (depthPerCharacter * (text.length + 1))
    ⟨.loose, false⟩ .none start.skipLayout
  let before := start.rest.take attempts.furthest
  ⟨positionBehind .start before, shownLine before (start.rest.drop attempts.furthest),
    listed attempts.unexpected, listed attempts.expected⟩

/-- A list of rules in words. -/
def enumerated : List GrammarRule → String
  | [] => ""
  | [r] => r.word
  | [r, s] => r.word ++ " or " ++ s.word
  | rules => String.intercalate ", " (rules.dropLast.map (·.word)) ++ ", or "
      ++ (rules.getLast?.map (·.word)).getD ""

def words (d : Diagnosis) : String :=
  match d.unexpected, d.expected with
  | [], [] => "unknown parsing error"
  | [], expected => "expected " ++ enumerated expected
  | unexpected, [] => "unexpected " ++ enumerated unexpected
  | unexpected, expected =>
    "unexpected " ++ enumerated unexpected ++ "; expected " ++ enumerated expected

/-- The text of a diagnosis, with the line and a mark below the place. -/
def text (d : Diagnosis) : String :=
  let number := Text.decimal d.position.line
  let margin := String.ofList (List.replicate number.length ' ')
  let lead := String.ofList ((d.line.toList.take (d.position.column - 1)).map
    fun c => if c = '\t' then c else ' ')
  margin ++ "--> " ++ number ++ ":" ++ Text.decimal d.position.column ++ "\n"
    ++ margin ++ " |\n"
    ++ number ++ " | " ++ d.line ++ "\n"
    ++ margin ++ " | " ++ lead ++ "^---\n"
    ++ margin ++ " |\n"
    ++ margin ++ " = " ++ d.words

end Diagnosis

end EntityGraph
