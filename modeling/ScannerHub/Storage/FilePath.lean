import ScannerHub.Text.Blank

/-!
# Paths of files

A path leads from one directory to a file or a directory below it. It is written as names between
slashes; a point stands for the directory reached so far, and two points for the one above. A path
that ends in a slash or in points can only mean a directory.

* `FilePath.steps` — the way that a path leads;
* `FilePath.parent` — the path of the directory above;
* `FilePath.isUsable` — what a path must fulfil to be of any use.
-/

namespace ScannerHub

/-- A path, as the texts between its slashes. -/
structure FilePath where
  parts : List String
deriving DecidableEq, Repr

/-- A step along a path: to the directory above, or to what has a name. -/
inductive PathStep where
  | up
  | name (name : String)
deriving DecidableEq, Repr

namespace FilePath

def ofText (text : String) : FilePath :=
  ⟨(pieces (· == '/') text.toList).map String.ofList⟩

/-- Whether a part of a path leads nowhere. -/
def stays (part : String) : Bool := part.isEmpty || part == "."

def steps (p : FilePath) : List PathStep :=
  (p.parts.filter fun part => !stays part).map fun part =>
    if part = ".." then .up else .name part

/-- Whether a path can only mean a directory. -/
def meansDirectory (p : FilePath) : Bool :=
  p.parts.getLast?.all fun part => stays part || part == ".."

/-- Whether the last thing in a path, apart from slashes, is a point. -/
def endsInPoint (p : FilePath) : Bool :=
  (p.parts.filter fun part => !part.isEmpty).getLast? == some "."

/-- The path of the directory above: without the last step, and without parts that lead nowhere at
the end. -/
def parent (p : FilePath) : FilePath :=
  ⟨(((p.parts.reverse.dropWhile stays).drop 1).dropWhile stays).reverse⟩

example : (ofText "a/./b/").parent = ofText "a" := by decide +kernel

/-- How many bytes a name may have. -/
def nameLimit : Nat := 255

/-- How many bytes a path may have. The path of the directory from which it leads, and the slash
behind that, take 16 of the 4095 bytes that a whole path may have. -/
def sizeLimit : Nat := 4095 - 16

/-- The number of bytes of a path. -/
def size (p : FilePath) : Nat :=
  p.parts.foldl (fun n part => n + part.utf8ByteSize) 0 + (p.parts.length - 1)

/-- Whether a path is of any use: it is not too long, and no character in it is the one with the
number zero, which ends a path. -/
def isUsable (p : FilePath) : Bool :=
  p.size ≤ sizeLimit && p.parts.all fun part => part.toList.all fun c => c.toNat != 0

/-- Whether something can be made under a name. -/
def isName (name : String) : Bool := name.utf8ByteSize ≤ nameLimit

end FilePath

end ScannerHub
