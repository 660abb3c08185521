/-!
# Positions in a document

Lines and columns are counted from one. A `Ruler` tells the position of a place from the number of
bytes in front of it, and takes as many characters for as many bytes: behind characters of several
bytes, positions run ahead.
-/

namespace EntityGraph

/-- A line and a column of a document, both counted from one. -/
structure Position where
  line : Nat
  column : Nat
deriving DecidableEq, Repr, Inhabited

namespace Position

def start : Position := ⟨1, 1⟩

/-- The position behind a character. A carriage return leads back to the start of the line. -/
def next (p : Position) (c : Char) : Position :=
  if c = '\n' then ⟨p.line + 1, 1⟩
  else if c = '\r' then ⟨p.line, 1⟩
  else ⟨p.line, p.column + 1⟩

end Position

/-- The position reached so far, and the characters it is counted on. -/
structure Ruler where
  position : Position
  /-- The characters still ahead. -/
  ahead : List Char

namespace Ruler

/-- The ruler moved on by a number of bytes. -/
def advance (r : Ruler) : Nat → Ruler
  | 0 => r
  | n + 1 =>
    match r.ahead with
    | [] => r
    | c :: rest => advance ⟨r.position.next c, rest⟩ n

end Ruler

/-- A value and where it is written. -/
structure Located (α : Type) where
  value : α
  position : Position
deriving Repr

end EntityGraph
