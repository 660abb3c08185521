import EntityGraph.Error
import EntityGraph.Store.Path

/-!
# Files

A snapshot of a file system: which paths hold a file or a directory. Reading walks down component
by component, every component but the last has to be a directory.
-/

namespace EntityGraph

inductive FileNode where
  | file (content : ByteArray)
  | directory

/-- Files and directories by the components of their absolute path. Directories which hold
    something need no entry of their own. -/
structure Files where
  entries : List (List String × FileNode)

namespace Files

/-- The node at exactly these components. -/
def node? (files : Files) (path : List String) : Option FileNode :=
  match files.entries.find? fun e => e.1 = path with
  | some e => some e.2
  | none =>
    if path.isEmpty || files.entries.any fun e => path.isPrefixOf e.1 then some .directory
    else none

/-- Longest name of one file, in bytes. -/
def maxName : Nat := 255

/-- Longest path, in bytes. -/
def maxPath : Nat := 4095

/-- Walks from the directory `at_` (in reverse) along the parts of a path. -/
def walk (files : Files) (at_ : List String) : List String → Except FileFault FileNode
  | [] => (files.node? at_.reverse).elim (.error .notFound) .ok
  | part :: rest =>
    match files.node? at_.reverse with
    | none => .error .notFound
    | some (.file _) => .error .notADirectory
    | some .directory =>
      if part = "" ∨ part = "." then walk files at_ rest
      else if part = ".." then walk files at_.tail rest
      else if maxName < part.utf8ByteSize then .error .nameTooLong
      else walk files (part :: at_) rest

/-- The node an absolute path leads to. -/
def find (files : Files) (path : String) : Except FileFault FileNode :=
  if '\x00' ∈ path.toList then .error .zeroInName
  else if maxPath < path.utf8ByteSize then .error .nameTooLong
  else walk files [] (Path.pieces path)

def contains (files : Files) (path : String) : Bool := (files.find path).isOk

/-- The text of the file at an absolute path. -/
def readText (files : Files) (path : String) : Except FileFault String :=
  match files.find path with
  | .error fault => .error fault
  | .ok .directory => .error .isADirectory
  | .ok (.file content) => (String.fromUTF8? content).elim (.error .notText) .ok

end Files

end EntityGraph
