import ScannerHub.Error
import ScannerHub.Storage.FileTree
import ScannerHub.Toml.Decode

/-!
# The stored flag

One flag outlives the daemon: whether networking is enabled. It is kept in a small file; where
there is none, or none that can be read, networking is enabled.

* `StateStore.openFile` — the store of a file, with the flag that the file holds;
* `StateStore.set` — sets the flag first and then writes it, so a failure to write does not undo
  it.
-/

namespace ScannerHub

/-- Where the flag is kept. -/
inductive StateMedium where
  /-- Nowhere: the flag ends with the daemon. -/
  | memory
  /-- At a place that cannot be written. -/
  | broken
  /-- In a file. -/
  | file (path : FilePath) (tree : FileTree)
deriving DecidableEq, Repr

/-- The flag and where it is kept. -/
structure StateStore where
  enabled : Bool
  medium : StateMedium
deriving DecidableEq, Repr

namespace StateStore

/-- The flag that the text of a file holds. -/
def flagOfText? (text : String) : Option Bool :=
  (Toml.ofText? text).bind fun es =>
    match es.get? "main" with
    | none => some true
    | some v => (v.fields? ["NetworkingEnabled"]).bind fun fields =>
        fields.field? "NetworkingEnabled" true Toml.Value.asFlag?

/-- The text of a file that holds a flag. -/
def textOfFlag (enabled : Bool) : String :=
  s!"[main]\nNetworkingEnabled = {enabled}\n"

def openFile (path : FilePath) (tree : FileTree) : StateStore :=
  { enabled := ((tree.text? path).bind flagOfText?).getD true, medium := .file path tree }

/-- Writes the flag to where it is kept. A directory that cannot be made and a file that cannot be
written are different errors; what was made on the way stays. -/
def save (enabled : Bool) : StateMedium → StateMedium × Except Error Unit
  | .memory => (.memory, .ok ())
  | .broken => (.broken, .error (.configWriteFailed "the state cannot be written"))
  | .file path tree =>
    let (tree, made) := tree.makeDirectory path.parent
    if !made then (.file path tree, .error (.io "the directory cannot be made"))
    else match tree.writeFile? path (textOfFlag enabled).toUTF8.toList with
      | none => (.file path tree, .error (.configWriteFailed "the file cannot be written"))
      | some tree => (.file path tree, .ok ())

/-- Sets the flag and writes it. -/
def set (s : StateStore) (enabled : Bool) : StateStore × Except Error Unit :=
  let (medium, result) := save enabled s.medium
  ({ enabled, medium }, result)

/-- The files around the flag, if it is kept in one. -/
def files (s : StateStore) : FileTree :=
  match s.medium with
  | .file _ tree => tree
  | _ => .empty

/-- The text of the file, if the flag is kept in one. -/
def fileText? (s : StateStore) : Option String :=
  match s.medium with
  | .file path tree => tree.text? path
  | _ => none

end StateStore

end ScannerHub
