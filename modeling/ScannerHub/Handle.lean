import ScannerHub.Text.Numeral

/-!
# Object paths of handles

The objects of the manager are exported under paths that end in the number of a handle.
-/

namespace ScannerHub

def managerPath : String := "/org/freedesktop/BarcodeManager"

/-- The path under which devices are exported. -/
def devicesPath : String := "/org/freedesktop/BarcodeManager/Devices"

/-- The path under which active connections are exported. -/
def activeConnectionsPath : String := "/org/freedesktop/BarcodeManager/ActiveConnection"

/-- The path of the object with a number, below another path. -/
def objectPath (parent : String) (number : Nat) : String := s!"{parent}/{number}"

/-- The number at the end of a path below another path. -/
def numberOfPath? (parent path : String) : Option Nat :=
  let front := parent.toList ++ ['/']
  if front.isPrefixOf path.toList then word32? (path.toList.drop front.length) else none

def devicePath (device : Nat) : String := objectPath devicesPath device

def deviceOfPath? (path : String) : Option Nat := numberOfPath? devicesPath path

def activePath (request : Nat) : String := objectPath activeConnectionsPath request

/-- The active connection that a path names. -/
def activeOfPath? (path : String) : Option Nat := numberOfPath? activeConnectionsPath path

end ScannerHub
