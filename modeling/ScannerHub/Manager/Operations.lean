import ScannerHub.Manager.Settle

/-!
# Operations of the manager

What devices, settings services, users and the clock ask of the manager. Every operation settles
before it returns, unless it had nothing to do.

* devices: `addDevice`, `removeDevice`, `setFirmwareMissing`, `linkChanged`;
* connections: `setServiceRunning`, `connectionAdded`, `connectionUpdated`, `connectionRemoved`;
* users: `activateConnection`, `deactivateConnection`, `setSleeping`, `setEnabled`;
* answers and time: `secretsReply`, `processTimeoutsAt`, `shutdown`.
-/

namespace ScannerHub.Manager

-- ---------------------------------------------------------------------------
-- Devices
-- ---------------------------------------------------------------------------

/-- Takes in a device under a new handle, unless one with its path or interface is known. -/
def addDevice (m : Manager) (device : Device) : Manager × Option Nat :=
  if m.devices.any fun d => d.udi == device.udi || d.interface == device.interface then (m, none)
  else
    let id := m.nextDevice
    let device := { device with id }.subscribe .manager
    let m := { m with nextDevice := id + 1, devices := m.devices ++ [device] }
    let m := m.publish (.deviceAdded id)
    let m :=
      if m.isAsleep then m else m.updateDevice id fun d => d.setManaged true .nowManaged
    (m.settle, some id)

/-- Gives up a device. Its request ends, and it is no longer managed when it goes. -/
def removeDevice (m : Manager) (id : Nat) : Manager :=
  let m := m.teardownOn id .removed
  let m := (m.updateDevice id fun d => d.setManaged false .removed).pump
  -- its last events are handled while it is still among the devices
  let m :=
    if (m.device? id).isSome then
      { m with
        devices := m.devices.eraseP fun d => d.id == id
        pending := m.pending.filter fun p => p != id }.publish (.deviceRemoved id)
    else m
  m.settle

/-- Gives up the device with an interface; tells whether there is one. -/
def removeDeviceByInterface (m : Manager) (interface : String) : Manager × Bool :=
  match m.deviceByInterface? interface with
  | none => (m, false)
  | some d => (m.removeDevice d.id, true)

/-- Notes whether the firmware of the device with an interface is missing; tells whether there is
such a device. -/
def setFirmwareMissing (m : Manager) (interface : String) (missing : Bool) : Manager × Bool :=
  match m.deviceByInterface? interface with
  | none => (m, false)
  | some d => ((m.updateDevice d.id fun d => d.setFirmwareMissing missing).settle, true)

-- ---------------------------------------------------------------------------
-- Connections
-- ---------------------------------------------------------------------------

/-- Drops a connection. Devices that use it are disconnected. -/
def connectionRemoved (m : Manager) (scope : Scope) (path : String) : Manager :=
  let cache := m.cache scope
  if (cache.get? path).isNone then m
  else
    let m := m.setCache scope { cache with connections := cache.connections.erase path }
    let affected := m.requests.filter fun r => r.connection.scope = scope ∧ r.path = path
    let m := affected.foldl (fun m r =>
      (m.teardown r.id .connectionRemoved).updateDevice r.device fun d =>
        d.deactivate .connectionRemoved) m
    m.settle

/-- A settings service appeared or went away. All connections of one that went away are
dropped. -/
def setServiceRunning (m : Manager) (scope : Scope) (running : Bool) : Manager :=
  if (m.cache scope).running = running then m
  else
    let m := m.setCache scope { m.cache scope with running }
    let m :=
      if running then m
      else (m.cache scope).connections.keys.foldl (fun m p => m.connectionRemoved scope p) m
    m.scheduleAll.settle

/-- Takes in a connection, if its settings are acceptable. -/
def connectionAdded (m : Manager) (scope : Scope) (path : String) (settings : Settings) :
    Manager × Except Error Unit :=
  match Connection.ofSettings scope settings with
  | .error e => (m, .error (.connectionInvalid e.message))
  | .ok c =>
    let cache := m.cache scope
    let m := m.setCache scope { cache with connections := cache.connections.insert path c }
    (m.scheduleAll.settle, .ok ())

/-- Takes in new settings of a connection. Settings that are not acceptable drop it; a connection
that is not known is taken in. -/
def connectionUpdated (m : Manager) (scope : Scope) (path : String) (settings : Settings) :
    Manager :=
  let cache := m.cache scope
  match cache.get? path with
  | none => (m.connectionAdded scope path settings).1
  | some held =>
    match held.replaceSettings settings with
    | .error _ => m.connectionRemoved scope path
    | .ok c =>
      let m := m.setCache scope { cache with connections := cache.connections.insert path c }
      -- with new settings the connection gets another chance
      let m := { m with invalid := m.invalid.filter fun u => u != c.uuid }
      m.scheduleAll.settle

-- ---------------------------------------------------------------------------
-- Users
-- ---------------------------------------------------------------------------

/-- Starts a connection on a device for a user. -/
def activateConnection (m : Manager) (uid : Nat) (service path device : String)
    (specific : Option String) : Manager × Except Error Nat :=
  match authorize m.allowed uid .useConnection with
  | .error e => (m, .error e)
  | .ok () =>
    match (Scope.ofServiceName? service).filter fun s => (m.cache s).running with
    | none => (m, .error (.invalidService service))
    | some scope =>
      match (deviceOfPath? device).filter fun id => (m.device? id).isSome with
      | none => (m, .error (.unknownDevice device))
      | some id =>
        -- the root stands for no specific object
        let specific := specific.filter fun p => !p.isEmpty && p != "/"
        match m.activate id scope path specific true with
        | (m, .error e) => (m, .error e)
        | (m, .ok request) => (m.settle, .ok request)

/-- Stops an active connection for a user. The device stays down until a user starts it. -/
def deactivateConnection (m : Manager) (uid : Nat) (active : String) :
    Manager × Except Error Unit :=
  match authorize m.allowed uid .useConnection with
  | .error e => (m, .error e)
  | .ok () =>
    match (activeOfPath? active).bind m.request? with
    | none => (m, .error (.connectionNotActive active))
    | some r =>
      let m := m.teardown r.id .userRequested
      let stop := fun d : Device =>
        { d with autoconnectInhibited := true }.deactivate .userRequested
      -- that the device cannot stop is an error, but the request has ended all the same
      let result := match (m.device? r.device).bind fun d => (stop d).error with
        | some e => .error e
        | none => .ok ()
      ((m.updateDevice r.device stop).settle, result)

/-- Lets someone wait for the outcome of a request; tells whether there is one. -/
def wait (m : Manager) (request waiter : Nat) : Manager × Bool :=
  match m.request? request with
  | none => (m, false)
  | some r =>
    let (r, effects) := r.wait waiter
    ((m.setRequest r).perform effects, true)

/-- Sets the default flags of a request and publishes a change. -/
def setRequestDefault (m : Manager) (request : Nat) (default default6 : Bool) : Manager :=
  match m.request? request with
  | none => m
  | some r =>
    let m := m.setRequest { r with isDefault := default, isDefault6 := default6 }
    if r.isDefault != default || r.isDefault6 != default6 then
      m.publish (.activeConnectionChanged request)
    else m

/-- Follows one of the switches that put the devices to sleep. Asleep, no request is left, no
device is managed, and failed connections get another chance. Awake, all devices are managed, and
no device is kept down. -/
def applySwitches (m : Manager) : Manager :=
  let m :=
    if m.isAsleep then
      let m := m.requests.foldl (fun m r => m.teardown r.id .sleeping) { m with invalid := [] }
      m.devices.foldl (fun m d => m.updateDevice d.id fun d => d.setManaged false .sleeping) m
    else
      m.devices.foldl (fun m d => m.updateDevice d.id fun d =>
        { d with autoconnectInhibited := false }.setManaged true .nowManaged) m
  m.settle

/-- Puts the manager to sleep or wakes it, for a user. -/
def setSleeping (m : Manager) (uid : Nat) (sleeping : Bool) : Manager × Except Error Unit :=
  if m.sleeping = sleeping then (m, .error (.alreadyAsleepOrAwake sleeping))
  else match authorize m.allowed uid .sleepWake with
    | .error e => (m, .error e)
    | .ok () =>
      (({ m with sleeping }.publish (.sleepingChanged sleeping)).applySwitches, .ok ())

/-- Turns networking on or off, for a user. The switch is stored first; that it cannot be stored
does not stop it. -/
def setEnabled (m : Manager) (uid : Nat) (enabled : Bool) : Manager × Except Error Unit :=
  if m.networkingEnabled = enabled then (m, .error (.alreadyEnabledOrDisabled enabled))
  else match authorize m.allowed uid .enableDisable with
    | .error e => (m, .error e)
    | .ok () =>
      let m := { m with store := (m.store.set enabled).1, networkingEnabled := enabled }
      ((m.publish (.networkingEnabledChanged enabled)).applySwitches, .ok ())

-- ---------------------------------------------------------------------------
-- Answers and time
-- ---------------------------------------------------------------------------

/-- Takes the answer to a call for secrets. -/
def secretsReply (m : Manager) (call : SecretsCall) (answer : Except Error Settings) : Manager :=
  match m.request? call.request with
  | none => m
  | some r =>
    match m.device? r.device with
    | none => m
    | some _ =>
      let m := match r.takeSecrets call answer with
        | none => m
        | some (r, some setting) =>
          (m.setRequest r).updateDevice r.device fun d =>
            d.secretsUpdated m.now r.connection setting
        | some (r, none) =>
          let (r, effects) := r.finish (.failed (.activationFailed .noSecrets))
          ((m.setRequest r).perform effects).updateDevice r.device fun d =>
            d.moveTo .failed .noSecrets
      m.settle

/-- The link of a device came up or went down. An activation that lost its request still follows
its link. -/
def linkChanged (m : Manager) (device : Nat) (up : Bool) : Manager :=
  let connection := match m.requestOn? device with
    | some r => some r.connection
    | none => (m.orphan? device).map Orphan.connection
  match connection with
  | none => m
  | some c => (m.updateDevice device fun d => d.linkChanged m.now c up).settle

/-- Ends a request whose deadline has passed. The activation goes on without it, unless the device
waits for secrets. -/
def expireRequest (m : Manager) (id : Nat) : Manager :=
  match m.request? id with
  | none => m
  | some r =>
    let m :=
      if (m.device? r.device).any fun d => d.state.isActive then
        m.addOrphan r.device { connection := r.connection, userRequested := r.userRequested }
      else m
    (m.teardown id .unknown).failUnansweredAuth r.device

/-- Ends requests and activations whose deadline is not after a moment. -/
def processTimeoutsAt (m : Manager) (moment : Nat) : Manager :=
  -- all requests end first; what follows for their devices comes afterwards
  let expired := (m.requests.filter fun r => (r.checkTimeout moment).2.2).map Request.id
  let m := m.requests.foldl (fun m r =>
    let (r, effects, _) := r.checkTimeout moment
    (m.setRequest r).perform effects) m
  let m := expired.foldl expireRequest m
  -- devices come last, so a link that is late fails the activation that lost its request
  let m := m.devices.foldl (fun m d => m.updateDevice d.id fun d => d.pollDeadline moment) m
  m.settle

/-- Ends requests and activations whose deadline has passed. -/
def processTimeouts (m : Manager) : Manager := m.processTimeoutsAt m.now

/-- Ends all requests and announces that all devices go. -/
def shutdown (m : Manager) : Manager :=
  let m := m.requests.foldl (fun m r => m.teardown r.id .unknown) m
  let m := { m with orphans := [] }
  let m := m.devices.foldl (fun m d => m.publish (.deviceRemoved d.id)) m
  { m with devices := [] }

end ScannerHub.Manager
