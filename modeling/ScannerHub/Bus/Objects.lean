import ScannerHub.Bus.Status

/-!
# Exported objects

The manager, its devices and its active connections are objects on the bus. They are kept up to
date from the published events of the manager, one event at a time, so what the bus shows may lag
behind the manager while events wait.

* `BusObjects.sync` — what one event changes, and the signals that tell of it;
* `BusObjects.properties?` — what a client reads at a path.
-/

namespace ScannerHub

/-- An object on the bus. -/
inductive ExportedObject where
  | manager
  | device (id : Nat)
  | active (id : Nat)
deriving DecidableEq, Repr

namespace ExportedObject

def path : ExportedObject → String
  | manager => managerPath
  | device id => devicePath id
  | active id => activePath id

/-- The bus interface of an object, without the leading `org.freedesktop.`. -/
def interface : ExportedObject → String
  | manager => "BarcodeManager"
  | device _ => "BarcodeManager.Device"
  | active _ => "BarcodeManager.Connection.Active"

end ExportedObject

-- ---------------------------------------------------------------------------
-- Signals
-- ---------------------------------------------------------------------------

/-- What is announced on the bus. -/
inductive Signal where
  /-- A property of an object has a new value. -/
  | propertyChanged (object : ExportedObject) (property : Property)
  /-- A property of the manager has a new value, told by the manager itself. -/
  | managerPropertyChanged (property : Property)
  | managerStateChanged (state : ManagerState)
  | deviceAdded (device : Nat)
  | deviceRemoved (device : Nat)
  | deviceStateChanged (device : Nat) (new old : DeviceState) (reason : StateReason)
deriving DecidableEq, Repr

/-- An argument of a signal. -/
inductive SignalArgument where
  | value (value : PublishedValue)
  | properties (properties : List Property)
deriving DecidableEq, Repr

namespace Signal

def sender : Signal → ExportedObject
  | propertyChanged object _ => object
  | deviceStateChanged device _ _ _ => .device device
  | _ => .manager

/-- The interface that a signal belongs to, without the leading `org.freedesktop.`. -/
def interface (s : Signal) : String :=
  match s with
  | propertyChanged _ _ => "DBus.Properties"
  | _ => s.sender.interface

/-- The name of a signal. -/
def member : Signal → String
  | propertyChanged _ _ | managerPropertyChanged _ => "PropertiesChanged"
  | managerStateChanged _ | deviceStateChanged _ _ _ _ => "StateChanged"
  | deviceAdded _ => "DeviceAdded"
  | deviceRemoved _ => "DeviceRemoved"

def arguments : Signal → List SignalArgument
  | propertyChanged object property =>
    [.value (.text ("org.freedesktop." ++ object.interface)), .properties [property],
     .value (.texts [])]
  | managerPropertyChanged property => [.properties [property]]
  | managerStateChanged state => [.value (.number state.number)]
  | deviceAdded device | deviceRemoved device => [.value (.text (devicePath device))]
  | deviceStateChanged _ new old reason =>
    [.value (.number new.number), .value (.number old.number), .value (.number reason.number)]

/-- How a property of the manager is announced: as that of any object, and by the manager. -/
def announcement (property : Property) : List Signal :=
  [.propertyChanged .manager property, .managerPropertyChanged property]

end Signal

-- ---------------------------------------------------------------------------
-- Objects
-- ---------------------------------------------------------------------------

/-- The objects on the bus, with what they show. -/
structure BusObjects where
  manager : ManagerStatus
  devices : List (Nat × DeviceStatus)
  active : List (Nat × ActiveStatus)
deriving DecidableEq, Repr

namespace BusObjects

/-- The objects of a manager that has no devices yet. -/
def start (m : Manager) : BusObjects := { manager := .of m, devices := [], active := [] }

/-- The objects with another status of the manager. -/
def setManager (o : BusObjects) (status : ManagerStatus) : BusObjects :=
  { o with manager := status }

/-- Puts a device in its place, or behind the others. -/
def setDevice (o : BusObjects) (id : Nat) (status : DeviceStatus) : BusObjects :=
  { o with devices := (o.devices.filter fun d => d.1 != id) ++ [(id, status)] }

/-- Puts an active connection in its place, or behind the others. -/
def setActive (o : BusObjects) (id : Nat) (status : ActiveStatus) : BusObjects :=
  { o with active := (o.active.filter fun a => a.1 != id) ++ [(id, status)] }

/-- The properties that differ between two states of a device, and its state in any case. -/
def deviceSignals (id : Nat) (shown now : DeviceStatus) : List Signal :=
  let managed := if shown.managed = now.managed then [] else [now.managedProperty]
  let firmware :=
    if shown.firmwareMissing = now.firmwareMissing then [] else [now.firmwareProperty]
  (managed ++ firmware ++ [now.stateProperty]).map (.propertyChanged (.device id))

/-- The properties that differ between two states of an active connection. -/
def activeSignals (id : Nat) (shown now : ActiveStatus) : List Signal :=
  let state := if shown.state = now.state then [] else [now.stateProperty]
  let default := if shown.isDefault = now.isDefault then [] else [now.defaultProperty]
  let default6 := if shown.isDefault6 = now.isDefault6 then [] else [now.default6Property]
  (state ++ default ++ default6).map (.propertyChanged (.active id))

/-- Follows one event of a manager, and tells what follows from it on the bus. -/
def sync (o : BusObjects) (m : Manager) : ManagerEvent → BusObjects × List Signal
  | .stateChanged state =>
    let status := { o.manager with state := state.number }
    (o.setManager status, .managerStateChanged state :: Signal.announcement status.stateProperty)
  | .networkingEnabledChanged networkingEnabled =>
    let status := { o.manager with networkingEnabled }
    (o.setManager status, Signal.announcement status.networkingProperty)
  | .activeConnectionsChanged =>
    let activeConnections := (ManagerStatus.of m).activeConnections
    if o.manager.activeConnections = activeConnections then (o, [])
    else
      let status := { o.manager with activeConnections }
      (o.setManager status, Signal.announcement status.activeProperty)
  | .deviceAdded id =>
    match m.device? id with
    | none => (o, [])
    | some d => (o.setDevice id (.of d), [.deviceAdded id])
  | .deviceRemoved id =>
    if (o.devices.lookup id).isNone then (o, [])
    else ({ o with devices := o.devices.filter fun d => d.1 != id }, [.deviceRemoved id])
  | .deviceStateChanged id new old reason =>
    match m.device? id, o.devices.lookup id with
    | some d, some shown =>
      -- the state is that of the event, since the device may have moved on
      let status := { DeviceStatus.of d with state := new.number }
      (o.setDevice id status,
       deviceSignals id shown status ++ [.deviceStateChanged id new old reason])
    | _, _ => (o, [])
  | .activeConnectionAdded id =>
    match m.request? id with
    | none => (o, [])
    | some r => (o.setActive id (.of r), [])
  | .activeConnectionRemoved id =>
    ({ o with active := o.active.filter fun a => a.1 != id }, [])
  | .activeConnectionChanged id =>
    match m.request? id, o.active.lookup id with
    | some r, some shown => (o.setActive id (.of r), activeSignals id shown (.of r))
    | _, _ => (o, [])
  | .sleepingChanged _ | .linkRequested _ _ => (o, [])

def properties? (o : BusObjects) (path : String) : Option (List Property) :=
  if path = managerPath then some o.manager.properties
  else
    match o.devices.find? fun d => devicePath d.1 == path with
    | some d => some d.2.properties
    | none => (o.active.find? fun a => activePath a.1 == path).map fun a => a.2.properties

end BusObjects

end ScannerHub
