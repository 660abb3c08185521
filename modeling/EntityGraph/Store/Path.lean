/-!
# Paths

Paths are taken apart at slashes. Empty components and `.` lead nowhere, `..` leads to the
directory above; a leading slash makes a path absolute. Nothing here asks a file system.

* `Path.clean`: the shortest path leading to the same place, by its text alone;
* `Path.absolute`: the clean path seen from a working directory;
* `Path.seenFrom`: a path as it is shown to someone in a directory;
* `Path.steps`: a path as it is walked along, step by step;
* `Path.below?`: a document path inside a root directory, none if it could lead out of it.
-/

namespace EntityGraph.Path

/-- The parts of a path between its slashes. -/
def split (path : List Char) : List (List Char) :=
  match path with
  | [] => [[]]
  | c :: rest =>
    match c, split rest with
    | '/', parts => [] :: parts
    | c, [] => [[c]]
    | c, part :: parts => (c :: part) :: parts

def isAbsolute (path : String) : Bool := path.toList.head? == some '/'

/-- The parts of a path between its slashes, as texts. -/
def pieces (path : String) : List String := (split path.toList).map String.ofList

/-- The components of a path which lead somewhere. -/
def components (path : String) : List String :=
  (pieces path).filter fun c => c ≠ "" ∧ c ≠ "."

/-- Appends a path to a directory. An absolute path replaces it. -/
def join (directory path : String) : String :=
  if isAbsolute path then path
  else if directory = "" ∨ directory.toList.getLast? = some '/' then directory ++ path
  else directory ++ "/" ++ path

/-- Takes back one component for each `..`; what leads above the start is kept only by a relative
    path. The result is in reverse. -/
def collapse (absolute : Bool) (parts : List String) : List String :=
  parts.foldl (fun acc part =>
    if part = ".." then
      match acc with
      | [] => if absolute then [] else [".."]
      | ".." :: rest => ".." :: ".." :: rest
      | _ :: rest => rest
    else part :: acc) []

/-- The shortest path to the same place. -/
def clean (path : String) : String :=
  let absolute := isAbsolute path
  let parts := (collapse absolute (components path)).reverse
  let joined := String.intercalate "/" parts
  if absolute then "/" ++ joined else if parts.isEmpty then "." else joined

/-- The clean path seen from a working directory. -/
def absolute (workingDirectory path : String) : String := clean (join workingDirectory path)

/-- A step on the way along a path. -/
inductive Step where
  /-- To the root of the file system. -/
  | root
  /-- Nowhere, the path beginning with `.`. -/
  | current
  /-- To the directory above. -/
  | parent
  /-- To a file or directory with a name. -/
  | name (text : String)
deriving DecidableEq

/-- The step which a piece of a path makes wherever it stands. -/
def Step.ofPiece? (piece : String) : Option Step :=
  if piece = "" ∨ piece = "." then none
  else if piece = ".." then some .parent
  else some (.name piece)

/-- The step does not leave the directory it starts in. -/
def Step.stays : Step → Bool
  | current | name _ => true
  | root | parent => false

/-- The step which a path begins with before any of its pieces leads somewhere. -/
def lead (path : String) : List Step :=
  if isAbsolute path then [.root]
  else if (pieces path).head? = some "." then [.current]
  else []

/-- The steps of a path. A `.` counts at the very beginning only. -/
def steps (path : String) : List Step := lead path ++ (pieces path).filterMap Step.ofPiece?

/-- The path of a document inside `root`. A document path is refused if it is empty or makes a step
    which leaves the directory it starts in. -/
def below? (root path : String) : Option String :=
  if path = "" ∨ ¬ (steps path).all Step.stays then none else some (join root path)

/-- The parts behind those which two paths start with in common. -/
def apart : List String → List String → List String × List String
  | p :: path, d :: directory =>
    if p = d then apart path directory else (p :: path, d :: directory)
  | path, directory => (path, directory)

/-- An absolute path as it is shown to someone in a directory: the way from there, if it has fewer
    parts. -/
def seenFrom (directory path : String) : String :=
  let parts := components path
  let (rest, up) := apart parts (components directory)
  let way := up.map (fun _ => "..") ++ rest
  if way.length < parts.length + 1 then String.intercalate "/" way else path

end EntityGraph.Path
