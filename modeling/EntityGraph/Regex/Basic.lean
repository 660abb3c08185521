import EntityGraph.Regex.CharSet

/-!
# Regular expressions

A regular expression leads from places in a text to the places behind what it takes there. Places
are kept as sets, so all ways of taking something are followed at once.

* `Regex.ends`: the places a regular expression leads to;
* `Regex.occursIn`: whether it takes some part of a text.
-/

namespace EntityGraph

namespace Regex

/-- A place in a text: the character in front of it and the text behind it. -/
structure Spot where
  before : Option Char
  rest : List Char
deriving DecidableEq, Repr

/-- What has to hold at a place. -/
inductive Assertion where
  | textStart
  | textEnd
  | lineStart
  | lineEnd
  /-- At the start or the end of a line, where a carriage return may end a line as well. -/
  | anyLineStart
  | anyLineEnd
  | wordStart
  | wordEnd
  | wordEdge
  | noWordEdge
  | notBehindWord
  | notBeforeWord
deriving DecidableEq, Repr

/-- Whether an assertion holds, `inWords` being the characters of words. -/
def Assertion.holds (inWords : CharSet) (s : Spot) : Assertion → Bool :=
  let behind := s.before.any inWords.has
  let ahead := s.rest.head?.any inWords.has
  fun
  | textStart => s.before.isNone
  | textEnd => s.rest.isEmpty
  | lineStart => s.before.all (· == '\n')
  | lineEnd => s.rest.head?.all (· == '\n')
  | anyLineStart =>
    s.before.all fun c => c == '\n' || (c == '\r' && s.rest.head? != some '\n')
  | anyLineEnd =>
    s.rest.head?.all fun c => c == '\r' || (c == '\n' && s.before != some '\r')
  | wordStart => !behind && ahead
  | wordEnd => behind && !ahead
  | wordEdge => behind != ahead
  | noWordEdge => behind == ahead
  | notBehindWord => !behind
  | notBeforeWord => !ahead

end Regex

inductive Regex where
  | empty
  | one (set : Regex.CharSet)
  | assertion (inWords : Regex.CharSet) (a : Regex.Assertion)
  | both (first second : Regex)
  | either (first second : Regex)
  /-- At least `least` times, and at most `most` times if that is given. -/
  | repeated (r : Regex) (least : Nat) (most : Option Nat)
deriving DecidableEq, Repr

namespace Regex

/-- Places of either of two sets. -/
def merge (a b : List Spot) : List Spot :=
  a ++ b.filter fun s => !a.any fun t => t.rest.length == s.rest.length

/-- The place behind a character of a set. -/
def step? (set : CharSet) (s : Spot) : Option Spot :=
  match s.rest with
  | [] => none
  | c :: rest => if set.has c then some ⟨some c, rest⟩ else none

/-- More than the number of characters behind any of some places. What is repeated this often or
    more leads to the same places. -/
def bound (spots : List Spot) : Nat := spots.foldl (fun n s => max n (s.rest.length + 1)) 0

/-- The places which a regular expression leads to from some places. -/
def ends : Regex → List Spot → List Spot
  | .empty, spots => spots
  | .one set, spots => spots.filterMap (step? set)
  | .assertion inWords a, spots => spots.filter fun s => a.holds inWords s
  | .both r q, spots => ends q (ends r spots)
  | .either r q, spots => merge (ends r spots) (ends q spots)
  | .repeated r least most, spots =>
    let most := (most.map (· - least)).getD (bound spots)
    let spots' := Nat.repeat (ends r) (min least (bound spots)) spots
    Nat.repeat (fun found => merge found (ends r found)) (min most (bound spots)) spots'

/-- All places of a text. -/
def spots (before : Option Char) : List Char → List Spot
  | [] => [⟨before, []⟩]
  | c :: rest => ⟨before, c :: rest⟩ :: spots (some c) rest

/-- Whether a regular expression takes some part of a text. -/
def occursIn (r : Regex) (text : String) : Bool := !(r.ends (spots none text.toList)).isEmpty

end Regex

end EntityGraph
