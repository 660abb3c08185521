import EntityGraph.Language.Query
import EntityGraph.Language.Token

/-!
# Key selections

The fields which identify an entity are given as a field set, `name owner { id }`: names of fields
in order, each perhaps with the fields selected below it.

* `SelectionTree.read`: the tree of a field set, or why it is none;
* `SelectionTree.tokens`: the tokens of the field set of a tree.
-/

namespace EntityGraph

/-- A selected field and what is selected below it, nothing for a leaf. -/
inductive Selection where
  | mk (name : String) (children : List Selection)
deriving Repr

instance : Inhabited Selection := ⟨.mk "" []⟩

/-- Selected fields in order. -/
abbrev SelectionTree := List Selection

namespace Selection

def name : Selection → String
  | .mk name _ => name

def children : Selection → SelectionTree
  | .mk _ children => children

def leaf (name : String) : Selection := .mk name []

def nested (name : String) (children : SelectionTree) : Selection := .mk name children

def isNested (s : Selection) : Bool := !s.children.isEmpty

mutual

/-- Equality of selections, name by name in order. -/
def same : Selection → Selection → Bool
  | .mk n cs, .mk m ds => n == m && sameList cs ds

def sameList : List Selection → List Selection → Bool
  | [], [] => true
  | s :: ss, t :: ts => same s t && sameList ss ts
  | _, _ => false

end

mutual

/-- The tokens of a selected field. -/
def tokens : Selection → List Token
  | .mk n [] => [.name n.toList]
  | .mk n (c :: cs) =>
    .name n.toList :: .openBrace :: (tokensOfList (c :: cs) ++ [.closeBrace])

def tokensOfList : List Selection → List Token
  | [] => []
  | s :: rest => tokens s ++ tokensOfList rest

end

end Selection

namespace SelectionTree

/-- The tokens of the field set of a tree. -/
def tokens (tree : SelectionTree) : List Token := Selection.tokensOfList tree

mutual

/-- The key field which a selection of a query stands for. -/
def ofQuery : QuerySelection → Except KeyFault Selection
  | .field head below =>
    if head.label.isSome || !head.arguments.isEmpty then
      .error (.aliasOrArguments head.name.value)
    else do return .mk head.name.value (← ofQueryList below)
  | .inlineFragment _ _ => .error .fragment
  | .spread _ => .error .fragment

def ofQueryList : List QuerySelection → Except KeyFault SelectionTree
  | [] => .ok []
  | s :: rest => do
    let first ← ofQuery s
    return first :: (← ofQueryList rest)

end

/-- The tree of a query document, which has to hold a single operation without a name. -/
def ofDocument (document : QueryDocument) : Except KeyFault SelectionTree :=
  match document.operations with
  | [o] =>
    if o.name.isSome then .error .severalSelections
    else match ofQueryList o.selections with
      | .error fault => .error fault
      | .ok [] => .error .empty
      | .ok tree => .ok tree
  | _ => .error .severalSelections

/-- Reads a field set, as if it stood between the braces of a query. -/
def read (fields : String) : Except KeyFault SelectionTree :=
  match QueryDocument.read ("\x7b " ++ fields ++ " \x7d") with
  | .error e => .error (.parse e.fault)
  | .ok document => ofDocument document

end SelectionTree

end EntityGraph
