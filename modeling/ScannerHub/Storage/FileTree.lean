import ScannerHub.Storage.FilePath

/-!
# A tree of files

As much of a file system as a stored flag and a configuration file need: directories and files
below one directory, each under the list of names that leads to it. There is nothing above that
directory; two points there stay where they are.

* `FileTree.place?` — the list of names under which the end of a path is;
* `FileTree.node?` — what is at a path;
* `FileTree.makeDirectory`, `FileTree.writeFile?`, `FileTree.removeFile` — the changes.
-/

namespace ScannerHub

/-- What is at a path. -/
inductive FileNode where
  | directory
  | file (content : List UInt8)
deriving DecidableEq, Repr

/-- The directories and files below one directory, which is there without being listed. -/
structure FileTree where
  nodes : List (List String × FileNode)
deriving DecidableEq, Repr

namespace FileTree

def empty : FileTree := ⟨[]⟩

-- ---------------------------------------------------------------------------
-- Queries
-- ---------------------------------------------------------------------------

/-- What is under a list of names. -/
def nodeAt? (t : FileTree) (names : List String) : Option FileNode :=
  if names.isEmpty then some .directory else t.nodes.lookup names

/-- The directory that a step leads to from another directory. -/
def enter? (t : FileTree) (names : List String) : PathStep → Option (List String)
  | .up => some names.dropLast
  | .name name =>
    if t.nodeAt? (names ++ [name]) = some .directory then some (names ++ [name]) else none

/-- The directory that steps lead to. -/
def directory? (t : FileTree) (steps : List PathStep) : Option (List String) :=
  steps.foldlM t.enter? []

/-- The names under which the end of a path is. All but the end must be there. -/
def place? (t : FileTree) (p : FilePath) : Option (List String) :=
  if !p.isUsable then none
  else match p.steps.getLast? with
    | some (.name name) => (t.directory? p.steps.dropLast).map fun names => names ++ [name]
    | _ => t.directory? p.steps

/-- What is at a path. -/
def node? (t : FileTree) (p : FilePath) : Option FileNode :=
  match (t.place? p).bind t.nodeAt? with
  | some .directory => some .directory
  | some (.file content) => if p.meansDirectory then none else some (.file content)
  | none => none

def content? (t : FileTree) (p : FilePath) : Option (List UInt8) :=
  match t.node? p with
  | some (.file content) => some content
  | _ => none

def text? (t : FileTree) (p : FilePath) : Option String :=
  (t.content? p).bind fun content => String.fromUTF8? (ByteArray.mk content.toArray)

/-- The permission bits of what is at a path: everyone may read, and the owner may write. -/
def mode? (t : FileTree) (p : FilePath) : Option Nat :=
  (t.node? p).map fun
    | .directory => 0o755
    | .file _ => 0o644

-- ---------------------------------------------------------------------------
-- Changes
-- ---------------------------------------------------------------------------

/-- Puts something under a list of names. -/
def put (t : FileTree) (names : List String) (node : FileNode) : FileTree :=
  ⟨(t.nodes.filter fun n => n.1 != names) ++ [(names, node)]⟩

/-- Makes the directories along steps from a directory; tells whether all of them are there now.
Those in front of the first obstacle stay. -/
def makeAlong (t : FileTree) (names : List String) : List PathStep → FileTree × Bool
  | [] => (t, true)
  | .up :: rest => t.makeAlong names.dropLast rest
  | .name name :: rest =>
    let names := names ++ [name]
    match t.nodeAt? names with
    | some .directory => t.makeAlong names rest
    | some (.file _) => (t, false)
    | none =>
      if FilePath.isName name then (t.put names .directory).makeAlong names rest else (t, false)

/-- Makes a directory and those above it; tells whether it is there now. -/
def makeDirectory (t : FileTree) (p : FilePath) : FileTree × Bool :=
  if !p.isUsable then (t, false)
  else if p.endsInPoint then
    -- a point is no name under which something could be made
    let (t, made) := t.makeAlong [] p.parent.steps
    (t, made && (t.node? p).isSome)
  else t.makeAlong [] p.steps

/-- Writes a file. Its directory must be there, and it must not be a directory itself. -/
def writeFile? (t : FileTree) (p : FilePath) (content : List UInt8) : Option FileTree :=
  if p.meansDirectory then none
  else (t.place? p).bind fun names =>
    if names.getLast?.all FilePath.isName && t.nodeAt? names != some .directory then
      some (t.put names (.file content))
    else none

def removeFile (t : FileTree) (p : FilePath) : FileTree :=
  match t.place? p, t.node? p with
  | some names, some (.file _) => ⟨t.nodes.filter fun n => n.1 != names⟩
  | _, _ => t

end FileTree

end ScannerHub
