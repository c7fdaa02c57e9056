import ScannerHub.Activation.Request
import ScannerHub.Data.Keyed
import ScannerHub.Handle
import ScannerHub.Manager.Cache
import ScannerHub.Permission
import ScannerHub.Storage.StateStore

/-!
# The manager

The manager owns every device and every activation request, the connections of both settings
services, and the two switches that put everything to sleep. What it has to tell the outside waits
in two lists, the published events and the effects of requests, until someone takes them; what its
devices tell it waits in a queue.

Devices and requests are known by handles, which are given out one after the other and are words of 32
bits. They are counted here without a bound: whatever is said of a run supposes that fewer than 2^32
devices come in it and fewer than 2^32 requests are made. What is looked up by a handle is the first
entry that has it, and that is the one which is replaced. A device is dropped in the same way; the requests
stand for a map, from which a handle is dropped altogether.

* `Manager.aggregate` — the state of the whole;
* `Manager.updateDevice` — runs an operation on a device and delivers the events;
* `Manager.teardown` — ends a request.
-/

namespace ScannerHub

/-- What the manager publishes. -/
inductive ManagerEvent where
  | stateChanged (state : ManagerState)
  | deviceAdded (device : Nat)
  | deviceRemoved (device : Nat)
  | deviceStateChanged (device : Nat) (new old : DeviceState) (reason : StateReason)
  /-- The list of active connections should be read again. -/
  | activeConnectionsChanged
  | activeConnectionAdded (request : Nat)
  | activeConnectionRemoved (request : Nat)
  /-- The state or a default flag of an active connection changed. -/
  | activeConnectionChanged (request : Nat)
  | networkingEnabledChanged (enabled : Bool)
  | sleepingChanged (sleeping : Bool)
  /-- A device wants its link brought up. -/
  | linkRequested (device : Nat) (request : LinkRequest)
deriving DecidableEq, Repr

/-- An activation that goes on after its request timed out. -/
structure Orphan where
  connection : Connection
  userRequested : Bool
deriving DecidableEq

/-- The devices, the requests, and all that decides about them. -/
structure Manager where
  /-- The devices, in the order in which they came. -/
  devices : List Device
  /-- The requests, in the order of their handles. -/
  requests : List Request
  /-- The handle of the next device that comes. -/
  nextDevice : Nat
  /-- The handle of the next request. -/
  nextRequest : Nat
  system : ConnectionCache
  user : ConnectionCache
  /-- The identifiers of connections whose automatic activation failed. -/
  invalid : List String
  /-- The devices on which an automatic activation is due. -/
  pending : List Nat
  /-- The activations without a request, by device. -/
  orphans : List (Nat × Orphan)
  sleeping : Bool
  networkingEnabled : Bool
  state : ManagerState
  /-- How long an activation may take, in milliseconds. -/
  activationTimeout : Option Nat
  store : StateStore
  /-- The users who may use privileged operations besides the superuser. -/
  allowed : List Nat
  /-- The time since the start, in milliseconds. -/
  now : Nat
  /-- The time of the start, in seconds. -/
  epoch : Nat
  /-- The device events that were not handled yet. -/
  queue : List DeviceEvent
  /-- The published events that were not taken yet. -/
  events : List ManagerEvent
  /-- The effects of requests that were not taken yet. -/
  effects : List Effect
deriving DecidableEq

namespace Manager

-- ---------------------------------------------------------------------------
-- Queries
-- ---------------------------------------------------------------------------

/-- Whether the devices sleep: the manager does, or networking is off. -/
def isAsleep (m : Manager) : Bool := m.sleeping || !m.networkingEnabled

def device? (m : Manager) (id : Nat) : Option Device := m.devices.find? fun d => d.id == id

def deviceByInterface? (m : Manager) (interface : String) : Option Device :=
  m.devices.find? fun d => d.interface == interface

/-- A device by the path that names it in the system. -/
def deviceByUdi? (m : Manager) (udi : String) : Option Device :=
  m.devices.find? fun d => d.udi == udi

def request? (m : Manager) (id : Nat) : Option Request := m.requests.find? fun r => r.id == id

def requestOn? (m : Manager) (device : Nat) : Option Request :=
  m.requests.find? fun r => r.device == device

/-- The activation without a request on a device. -/
def orphan? (m : Manager) (device : Nat) : Option Orphan := m.orphans.lookup device

/-- The connections of a scope. -/
def cache (m : Manager) : Scope → ConnectionCache
  | .system => m.system
  | .user => m.user

/-- The manager with other connections in a scope. -/
def setCache (m : Manager) (scope : Scope) (cache : ConnectionCache) : Manager :=
  match scope with
  | .system => { m with system := cache }
  | .user => { m with user := cache }

/-- Whether a connection is left out of automatic activations. -/
def isInvalid (m : Manager) (uuid : String) : Bool := m.invalid.contains uuid

/-- The present time of day in seconds, without fractions. -/
def clockSeconds (m : Manager) : Nat := m.epoch + m.now / 1000

/-- The earliest deadline of a request or a device. -/
def nextDeadline? (m : Manager) : Option Nat :=
  (m.requests.filterMap Request.deadline ++ m.devices.filterMap Device.deadline?).min?

/-- The state of the whole: asleep, else connected if a device is activated, else connecting if
one is on the way, else disconnected. -/
def aggregate (m : Manager) : ManagerState :=
  if m.isAsleep then .asleep
  else if m.devices.any fun d => d.state == .activated then .connected
  else if m.devices.any Device.isActivating then .connecting
  else .disconnected

-- ---------------------------------------------------------------------------
-- Elementary changes
-- ---------------------------------------------------------------------------

def publish (m : Manager) (event : ManagerEvent) : Manager :=
  { m with events := m.events ++ [event] }

/-- Notes effects of a request. -/
def perform (m : Manager) (effects : List Effect) : Manager :=
  { m with effects := m.effects ++ effects }

/-- Computes the state of the whole anew and publishes it if it changed. -/
def updateState (m : Manager) : Manager :=
  if m.aggregate = m.state then m
  else { m with state := m.aggregate }.publish (.stateChanged m.aggregate)

/-- Puts a device in the place of the one that is found under its handle. -/
def setDevice (m : Manager) (device : Device) : Manager :=
  { m with devices := replaceFirst Device.id device m.devices }

/-- Puts a request in the place of the one that is found under its handle. -/
def setRequest (m : Manager) (request : Request) : Manager :=
  { m with requests := replaceFirst Request.id request m.requests }

/-- Hands device events to listeners: the manager and requests have a queue each. -/
def deliver (m : Manager) (listeners : List Listener) (events : List DeviceEvent) : Manager :=
  { m with
    queue := if Listener.manager ∈ listeners then m.queue ++ events else m.queue
    requests := m.requests.map fun r =>
      if Listener.request r.id ∈ listeners then { r with queue := r.queue ++ events } else r }

/-- Runs an operation on a device and delivers the events. -/
def updateDevice (m : Manager) (id : Nat) (f : Device → Update) : Manager :=
  match m.device? id with
  | none => m
  | some d =>
    let u := f d
    (m.setDevice u.device).deliver d.listeners u.events

/-- Changes a device without any event. -/
def modifyDevice (m : Manager) (id : Nat) (f : Device → Device) : Manager :=
  match m.device? id with
  | none => m
  | some d => m.setDevice (f d)

/-- Ends a request and forgets it. The device is left alone, apart from its subscribers. -/
def teardown (m : Manager) (id : Nat) (reason : StateReason) : Manager :=
  match m.request? id with
  | none => m
  | some r =>
    -- effects go out although the request itself is dropped
    let (_, effects) := r.detach reason
    let m := { m with requests := m.requests.filter fun r => r.id != id }
    let m := m.modifyDevice r.device r.leave
    ((m.perform effects).publish (.activeConnectionRemoved id)).publish .activeConnectionsChanged

/-- Ends the request on a device, if there is one. -/
def teardownOn (m : Manager) (device : Nat) (reason : StateReason) : Manager :=
  match m.requestOn? device with
  | none => m
  | some r => m.teardown r.id reason

/-- Leaves a connection out of automatic activations from now on. -/
def markInvalid (m : Manager) (uuid : String) : Manager :=
  if m.isInvalid uuid then m else { m with invalid := m.invalid ++ [uuid] }

/-- Forgets the activation without a request on a device. -/
def dropOrphan (m : Manager) (device : Nat) : Manager :=
  { m with orphans := m.orphans.filter fun o => o.1 != device }

/-- Notes an activation without a request. -/
def addOrphan (m : Manager) (device : Nat) (orphan : Orphan) : Manager :=
  let m := m.dropOrphan device
  { m with orphans := m.orphans ++ [(device, orphan)] }

-- ---------------------------------------------------------------------------
-- The start
-- ---------------------------------------------------------------------------

/-- A manager without devices and connections. -/
def start (store : StateStore) (allowed : List Nat) (activationTimeout : Option Nat)
    (epoch : Nat) : Manager :=
  let m : Manager :=
    { devices := [], requests := [], nextDevice := 0, nextRequest := 0
      system := .empty, user := .empty, invalid := [], pending := [], orphans := []
      sleeping := false, networkingEnabled := store.enabled, state := .unknown
      activationTimeout, store, allowed, now := 0, epoch
      queue := [], events := [], effects := [] }
  { m with state := m.aggregate }

end Manager

end ScannerHub
