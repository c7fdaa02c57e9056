import ScannerHub.Daemon.Basic

/-!
# Calls to the daemon

What clients ask of the manager object: its methods, and the one property that can be written.
Privileged calls need to know who calls; the bus may fail to tell.

* `Daemon.run` — runs a command for a caller and replies;
* `Daemon.writeNetworking` — writes the property `NetworkingEnabled`.
-/

namespace ScannerHub

/-- An error as it is sent over the bus. -/
structure BusError where
  name : String
  message : String
deriving DecidableEq, Repr

namespace BusError

/-- The error that stands for a cause. -/
def ofError (e : Error) : BusError := { name := e.fullBusName, message := e.message }

/-- The bus cannot tell who a caller is. -/
def unknownCaller : BusError :=
  let cause := "org.freedesktop.DBus.Error.NameHasNoOwner: no such name"
  { name := (Error.permissionDenied "").fullBusName
    message := "Could not identify caller: " ++ cause }

def accessDenied (message : String) : BusError :=
  { name := "org.freedesktop.DBus.Error.AccessDenied", message }

/-- A property could not be written. -/
def failed (message : String) : BusError :=
  { name := "org.freedesktop.DBus.Error.Failed", message }

end BusError

-- ---------------------------------------------------------------------------
-- Commands
-- ---------------------------------------------------------------------------

/-- The user who calls, if the bus can tell. -/
abbrev Caller := Option Nat

/-- A method call on the manager object. -/
inductive Command where
  | getDevices
  | enable (value : Bool)
  | sleep (value : Bool)
  | setLogging (level domains : String)
  | activateConnection (service path device specific : String)
  | deactivateConnection (path : String)
deriving DecidableEq, Repr

/-- What a method call returns. -/
inductive Reply where
  | done
  | path (path : String)
  | paths (paths : List String)
deriving DecidableEq, Repr

-- ---------------------------------------------------------------------------
-- Running a command
-- ---------------------------------------------------------------------------

namespace Daemon

/-- Runs an operation of the manager that can fail. -/
def attempt {α : Type} (d : Daemon) (reply : α → Reply) (r : Manager × Except Error α) :
    Daemon × Except BusError Reply :=
  ((d.operate r.1).publish,
   match r.2 with
   | .ok a => .ok (reply a)
   | .error e => .error (.ofError e))

/-- Runs a privileged command for a user. -/
def runFor (d : Daemon) (uid : Nat) : Command → Daemon × Except BusError Reply
  | .getDevices => (d, .ok (.paths (d.manager.devices.map fun device => devicePath device.id)))
  | .enable value => d.attempt (fun _ => .done) (d.manager.setEnabled uid value)
  | .sleep value => d.attempt (fun _ => .done) (d.manager.setSleeping uid value)
  | .setLogging level domains =>
    match authorize d.manager.allowed uid .setLogging with
    | .error e => (d, .error (.ofError e))
    | .ok () =>
      match d.logging.setLogging level domains with
      | .error e => (d, .error (.ofError e))
      | .ok logging => ({ d with logging }, .ok .done)
  | .activateConnection service path device specific =>
    d.attempt (fun id => .path (activePath id))
      (d.manager.activateConnection uid service path device (some specific))
  | .deactivateConnection path =>
    d.attempt (fun _ => .done) (d.manager.deactivateConnection uid path)

/-- Runs a command. The list of devices is open to everyone; all else needs to know who calls. -/
def run (d : Daemon) (caller : Caller) (command : Command) : Daemon × Except BusError Reply :=
  match command, caller with
  | .getDevices, _ => d.runFor 0 .getDevices
  | _, none => (d, .error .unknownCaller)
  | _, some uid => d.runFor uid command

/-- What a client that wrote `NetworkingEnabled` does once the write was accepted: it stores the
value in the object and announces it once more. -/
def finishWrite (d : Daemon) (value : Bool) : Daemon :=
  let status := { d.objects.manager with networkingEnabled := value }
  { d with
    objects := d.objects.setManager status
    signals := d.signals ++ [.propertyChanged .manager status.networkingProperty] }

/-- Writes the property `NetworkingEnabled`. The errors are those of property access. -/
def writeNetworking (d : Daemon) (caller : Caller) (value : Bool) :
    Daemon × Except BusError Unit :=
  match caller with
  | none =>
    let cause := BusError.unknownCaller.message
    (d, .error (.accessDenied ("PermissionDenied(\"" ++ cause ++ "\")")))
  | some uid =>
    let (m, r) := d.manager.setEnabled uid value
    let d := (d.operate m).publish
    match r with
    | .ok () => (d.finishWrite value, .ok ())
    | .error (.permissionDenied cause) => (d, .error (.accessDenied cause))
    | .error e => (d, .error (.failed e.message))

end Daemon

end ScannerHub
