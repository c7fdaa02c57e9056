import ScannerHub.Manager.Basic

/-!
# Settling

After every operation the manager settles: it works off the queue of device events, starts the
automatic activations that are due, and computes the state of the whole.

* `Manager.handleEvent` — what the manager does about one device event;
* `Manager.pump` — works off the queues of the requests and of the manager;
* `Manager.activate` — starts an activation;
* `Manager.settle` — all of it, until nothing is left to do.
-/

namespace ScannerHub.Manager

-- ---------------------------------------------------------------------------
-- Automatic activations that are due
-- ---------------------------------------------------------------------------

/-- Notes that an automatic activation is due on a device, if one may start there. -/
def schedule (m : Manager) (id : Nat) : Manager :=
  if m.isAsleep || m.pending.contains id then m
  else match m.device? id with
    | none => m
    | some d =>
      if d.autoconnectAllowed then
        { m.setDevice { d with activationScheduled := true } with pending := m.pending ++ [id] }
      else m

/-- Notes that automatic activations are due on all devices on which one may start. -/
def scheduleAll (m : Manager) : Manager :=
  m.devices.foldl (fun m d => m.schedule d.id) m

-- ---------------------------------------------------------------------------
-- Device events
-- ---------------------------------------------------------------------------

/-- Fails a device that waits for secrets although no request is left to get them. -/
def failUnansweredAuth (m : Manager) (id : Nat) : Manager :=
  if (m.requestOn? id).isSome then m else m.updateDevice id Device.failAuth

/-- Notes in the cached connection that the activation on a device succeeded now. -/
def updateTimestamp (m : Manager) (id : Nat) : Manager :=
  match m.requestOn? id with
  | none => m
  | some r =>
    let cache := m.cache r.connection.scope
    match cache.get? r.path with
    | none => m
    | some c =>
      let c := c.setTimestamp (.ofNat m.clockSeconds)
      m.setCache r.connection.scope
        { cache with connections := cache.connections.insert r.path c }

/-- Ends the activation without a request on a device that failed: its connection is left out of
automatic activations if it was started by one. -/
def failOrphan (m : Manager) (id : Nat) : Manager :=
  match m.orphan? id with
  | none => m
  | some o =>
    let m := m.dropOrphan id
    if o.userRequested then m else m.markInvalid o.connection.uuid

/-- Ends the request on a device that failed, in the same way. -/
def failRequest (m : Manager) (id : Nat) (reason : StateReason) : Manager :=
  match m.requestOn? id with
  | none => m
  | some r =>
    let m := if r.userRequested then m else m.markInvalid r.connection.uuid
    m.teardown r.id reason

/-- An activation failed: whoever owned it goes, and the device goes back to where it can be used
again. -/
def activationFailed (m : Manager) (id : Nat) (reason : StateReason) : Manager :=
  ((m.failOrphan id).failRequest id reason).updateDevice id fun d => d.moveTo .disconnected reason

/-- What follows from the new state of a device. -/
def followState (m : Manager) (id : Nat) (new : DeviceState) (reason : StateReason) : Manager :=
  match new with
  | .activated => m.updateTimestamp id
  | .failed => m.activationFailed id reason
  | .disconnected => (m.teardownOn id reason).schedule id
  | .unavailable | .unmanaged => m.teardownOn id reason
  | _ => m

/-- The states whose entry makes others read the list of active connections again. -/
def rereadsActive : DeviceState → Bool
  | .unmanaged | .unavailable | .disconnected | .prepare | .failed => true
  | _ => false

def handleEvent (m : Manager) : DeviceEvent → Manager
  | .stateChanged id new old reason =>
    -- others hear of the move before they hear of what follows from it
    let m := m.publish (.deviceStateChanged id new old reason)
    let m := if rereadsActive new then m.publish .activeConnectionsChanged else m
    -- a failed device still needs its orphan, to know whose connection failed
    let m := if !new.isActive && new != .failed then m.dropOrphan id else m
    (m.followState id new reason).updateState
  | .linkRequested id request => m.publish (.linkRequested id request)
  | .needSecrets id _ => m.failUnansweredAuth id

-- ---------------------------------------------------------------------------
-- Working off the queues
-- ---------------------------------------------------------------------------

/-- Works off the queue of one request. -/
def processRequest (m : Manager) (id : Nat) : Manager :=
  match m.request? id with
  | none => m
  | some r =>
    let p := r.processEvents
    let m := (m.setRequest p.request).perform p.effects
    if p.stateChanged then m.publish (.activeConnectionChanged id) else m

/-- Works off the queues of all requests. -/
def processRequests (m : Manager) : Manager :=
  m.requests.foldl (fun m r => m.processRequest r.id) m

/-- The number of events that may follow from one event, itself included: a need for secrets may
fail the device, and a failure leads to the disconnected state, which leads nowhere. -/
def eventWeight : DeviceEvent → Nat
  | .needSecrets _ _ => 3
  | .stateChanged _ .failed _ _ => 2
  | _ => 1

/-- The number of events that may follow from events. -/
def totalWeight : List DeviceEvent → Nat
  | [] => 0
  | e :: es => eventWeight e + totalWeight es

/-- The number of events that may follow from the queue. -/
def queueWeight (m : Manager) : Nat := totalWeight m.queue

/-- Handles device events in their order, with those that follow from them. The number bounds the
events. -/
def drain : Nat → Manager → Manager
  | 0, m => m
  | n + 1, m =>
    match m.queue with
    | [] => m
    | event :: rest => drain n ({ m with queue := rest }.handleEvent event)

/-- Works off all queues. Requests hear of an event before the manager handles it, and none of
what they do is a device event, so their queues are worked off once more at the end. -/
def pump (m : Manager) : Manager :=
  -- a request that asks for secrets now is known before the manager looks for one that waits
  let m := m.processRequests
  if m.queue.isEmpty then m else (drain m.queueWeight m).processRequests

-- ---------------------------------------------------------------------------
-- Activations
-- ---------------------------------------------------------------------------

/-- Why an activation cannot start on a device now. -/
def checkActivation (d : Device) (c : Connection) : Except Error Unit :=
  if !d.managed then .error (.unmanagedDevice d.interface)
  else if d.state = .unavailable ∨ d.state = .unmanaged ∨ d.state = .unknown then
    .error (.deviceNotAvailable d.interface)
  else match d.check c with
    | .error e => .error (.connectionInvalid e.message)
    | .ok () => .ok ()

/-- Registers a request whose device was told to start, unless the device refused. -/
def register (m : Manager) (r : Request) (listeners : List Listener) (u : Update) :
    Manager × Except Error Nat :=
  match u.error with
  | some e =>
    let (_, effects) := r.detach .configFailed
    ((m.setDevice (r.leave u.device)).perform effects, .error e)
  | none =>
    let m := { m.setDevice u.device with requests := m.requests ++ [r] }
    let m := m.deliver listeners u.events
    ((m.publish (.activeConnectionAdded r.id)).publish .activeConnectionsChanged, .ok r.id)

/-- Starts a request on a device, and the device with it. -/
def launch (m : Manager) (id : Nat) (device : Device) (spec : RequestSpec) :
    Manager × Except Error Nat :=
  let device := { device with activationScheduled := false }
  let device :=
    if spec.userRequested then { device with autoconnectInhibited := false } else device
  -- the request listens before the device starts, so it hears of every stage
  let (r, device) := Request.start id spec m.now device
  m.register r device.listeners (device.activate m.now r.connection)

/-- Starts an activation. Nothing is touched before all checks have passed; then the request that
holds the device ends, and the events of that are handled before the new request listens. -/
def activate (m : Manager) (device : Nat) (scope : Scope) (path : String)
    (specific : Option String) (userRequested : Bool) : Manager × Except Error Nat :=
  match (m.cache scope).get? path with
  | none => (m, .error (.unknownConnection path))
  | some connection =>
    match m.device? device with
    | none => (m, .error (.unknownDevice (devicePath device)))
    | some d =>
      match checkActivation d connection with
      | .error e => (m, .error e)
      | .ok () =>
        let m := m.teardownOn device .userRequested
        let id := m.nextRequest
        let m := { m with nextRequest := id + 1 }
        -- a device that is on its way stops first, and may become due for an automatic activation
        let m := (m.updateDevice device fun d => d.deactivate .userRequested).pump
        let m := { m with pending := m.pending.filter fun p => p != device }
        -- the device may look different now
        match m.device? device with
        | none => (m, .error (.unknownDevice (devicePath device)))
        | some d =>
          m.launch id d
            { connection, path, specific, userRequested, assumed := false
              timeout := m.activationTimeout, nowait := false }

/-- The connections of a scope that may be started automatically, in the order of preference. -/
def autoCandidates (m : Manager) (scope : Scope) : List (String × Connection) :=
  (m.cache scope).candidates.filter fun e => !m.isInvalid e.2.uuid

/-- The connection to start automatically on a device: that of the system comes first. -/
def autoChoice? (m : Manager) (d : Device) : Option (Scope × String) :=
  [Scope.system, Scope.user].findSome? fun scope =>
    ((m.autoCandidates scope).find? fun e => d.hardware.fitsAutomatically d.identity e.2).map
      fun e => (scope, e.1)

/-- Starts the best automatic activation on a device. -/
def autoActivate (m : Manager) (id : Nat) : Manager :=
  if m.isAsleep || (m.requestOn? id).isSome then m
  else match m.device? id with
    | none => m
    | some d =>
      if !d.autoconnectAllowed then m
      else match m.autoChoice? d with
        | none => m
        | some (scope, path) => (m.activate id scope path none false).1

-- ---------------------------------------------------------------------------
-- Settling
-- ---------------------------------------------------------------------------

/-- Starts an automatic activation that was due. -/
def startPending (m : Manager) (id : Nat) : Manager :=
  (m.modifyDevice id fun d => { d with activationScheduled := false }).autoActivate id

/-- Works off the queues and starts what is due, round by round. The number bounds the rounds. -/
def settleRounds : Nat → Manager → Manager
  | 0, m => m
  | n + 1, m =>
    let m := m.pump
    if m.pending.isEmpty then m
    else settleRounds n (m.pending.foldl startPending { m with pending := [] })

/-- A bound for the rounds. A round that follows another one comes from an automatic activation
that failed at once, which leaves one more connection out of automatic activations. -/
def roundBound (m : Manager) : Nat :=
  m.system.connections.size + m.user.connections.size + 2

/-- Works off the queues, starts what is due, and computes the state of the whole. -/
def settle (m : Manager) : Manager :=
  (settleRounds m.roundBound m).updateState

end ScannerHub.Manager
