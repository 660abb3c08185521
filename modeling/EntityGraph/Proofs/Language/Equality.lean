import Mathlib
import EntityGraph.Language.Declaration

/-!
# Equality of declarations

Literals are equal exactly if they are so constructor by constructor (`Literal.same_iff`). So it can
be decided whether two declarations are the same.
-/

namespace EntityGraph

namespace Literal

variable {ν : Type} [DecidableEq ν]

mutual

/-- Equality of literals, constructor by constructor. -/
def same : Literal ν → Literal ν → Bool
  | .variable v, .variable w => v = w
  | .null, .null => true
  | .bool b, .bool c => b = c
  | .number n, .number m => n = m
  | .string s, .string t => s = t
  | .enum name, .enum other => name = other
  | .list items, .list others => sameItems items others
  | .object fields, .object others => sameFields fields others
  | _, _ => false

def sameItems : List (Literal ν) → List (Literal ν) → Bool
  | [], [] => true
  | v :: rest, w :: others => same v w && sameItems rest others
  | _, _ => false

def sameFields : List (String × Literal ν) → List (String × Literal ν) → Bool
  | [], [] => true
  | (n, v) :: rest, (m, w) :: others => n = m && same v w && sameFields rest others
  | _, _ => false

end

mutual

theorem same_iff : ∀ v w : Literal ν, v.same w = true ↔ v = w
  | .variable v, w => by cases w <;> simp [same]
  | .null, w => by cases w <;> simp [same]
  | .bool b, w => by cases w <;> simp [same]
  | .number n, w => by cases w <;> simp [same]
  | .string s, w => by cases w <;> simp [same]
  | .enum name, w => by cases w <;> simp [same]
  | .list items, w => by cases w <;> simp [same, sameItems_iff items]
  | .object fields, w => by cases w <;> simp [same, sameFields_iff fields]

theorem sameItems_iff : ∀ vs ws : List (Literal ν), sameItems vs ws = true ↔ vs = ws
  | [], ws => by cases ws <;> simp [sameItems]
  | v :: rest, ws => by cases ws <;> simp [sameItems, same_iff v, sameItems_iff rest]

theorem sameFields_iff : ∀ fs gs : List (String × Literal ν), sameFields fs gs = true ↔ fs = gs
  | [], gs => by cases gs <;> simp [sameFields]
  | (n, v) :: rest, gs => by
    rcases gs with _ | ⟨⟨m, w⟩, others⟩ <;>
      simp [sameFields, same_iff v, sameFields_iff rest]

end

instance : DecidableEq (Literal ν) := fun v w => decidable_of_iff _ (same_iff v w)

end Literal

deriving instance DecidableEq for Located, Argument, DirectiveUse, InputValue, FieldDeclaration,
  EnumValue, TypeBody, TypeDeclaration, SchemaDeclaration, Declaration

end EntityGraph
