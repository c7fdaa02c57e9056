import ScannerHub.Daemon.Launch

/-!
# The program

The outermost layer: it hands the arguments and the configuration file to `Launch` and does what
the answer says. The program has no message bus of its own to go on; a start that would run ends
as one does where there is no bus, with status 1 and no further word.
-/

namespace ScannerHub

/-- The name under which the usage text speaks of the program. -/
def programName : String := "barcode-manager"

/-- What is at a path of the machine. What is there and cannot be read counts as a directory. -/
def readNode (path : String) : IO (Option FileNode) := do
  try
    let content ← IO.FS.readBinFile path
    return some (.file content.toList)
  catch
    | .noFileOrDirectory .. => return none
    | _ => return some .directory

/-- Writes the texts of an end and tells its status. -/
def finish (status : Nat) (output error : String) : IO UInt32 := do
  IO.print output
  IO.eprint error
  return .ofNat status

end ScannerHub

open ScannerHub in
/-- Runs the program. -/
def main (arguments : List String) : IO UInt32 := do
  match CommandLine.parse programName arguments with
  | .exit status output error => finish status output error
  | .run options =>
    let node ← readNode (options.config.getD Config.defaultPath)
    match Launch.ofOptions options node with
    | .exit status output error => finish status output error
    | .run _ => finish 1 "" ""
