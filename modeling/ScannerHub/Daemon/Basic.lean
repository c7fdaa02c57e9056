import ScannerHub.Bus.Links
import ScannerHub.Bus.Objects
import ScannerHub.Logging
import ScannerHub.Manager.Policy

/-!
# The daemon

The daemon keeps the manager, the policy, the objects on the bus and the links together. Whatever
it hears becomes an operation of the manager; what the manager asks for becomes calls to others;
and each event that the manager publishes goes to the policy, to the links and to the objects.

* `Daemon.operate` — runs an operation of the manager and carries out its effects;
* `Daemon.handleEvent` — what follows from one published event;
* `Daemon.publish` — works off the published events.
-/

namespace ScannerHub

/-- A call of the daemon to another process. -/
inductive OutgoingCall where
  /-- Asks a remote device to connect, for an attempt to bring up its link. -/
  | connectProfile (attempt : Nat) (path : String) (profile : BluetoothProfile)
  | disconnect (path : String)
  | getSecrets (call : SecretsCall) (query : SecretsQuery)
deriving DecidableEq, Repr

/-- A call for secrets that waits for its answer, until a time in milliseconds. -/
structure SecretsFetch where
  call : SecretsCall
  deadline : Nat
deriving DecidableEq, Repr

/-- The daemon while it runs. -/
structure Daemon where
  manager : Manager
  policy : Policy
  logging : LogControl
  objects : BusObjects
  links : Links
  fetches : List SecretsFetch
  /-- How long a link may take to come up, in milliseconds. -/
  connectTimeout : Nat
  /-- The signals that were sent and nobody took yet. -/
  signals : List Signal
  /-- The calls that were made and nobody took yet. -/
  calls : List OutgoingCall
deriving DecidableEq

namespace Daemon

def start (manager : Manager) (logging : LogControl) (connectTimeout : Nat) : Daemon :=
  { manager, policy := .start, logging, objects := .start manager, links := .empty, fetches := []
    connectTimeout, signals := [], calls := [] }

/-- How long a call for secrets may take, in milliseconds. -/
def secretsLimit : Nat := 120000

-- ---------------------------------------------------------------------------
-- Operations of the manager
-- ---------------------------------------------------------------------------

/-- Carries out an effect. A change of the packet filter and the answer to someone who waits are
no business of the bus. -/
def perform (d : Daemon) : Effect → Daemon
  | .askSecrets call query =>
    { d with
      fetches := d.fetches ++ [{ call, deadline := d.manager.now + secretsLimit }]
      calls := d.calls ++ [.getSecrets call query] }
  | .cancelSecrets call => { d with fetches := d.fetches.filter fun f => f.call != call }
  | .changeFilter _ _ | .answerWaiter _ _ => d

/-- Takes over the manager after an operation and carries out the effects. -/
def operate (d : Daemon) (m : Manager) : Daemon :=
  m.effects.foldl perform { d with manager := { m with effects := [] } }

-- ---------------------------------------------------------------------------
-- Published events
-- ---------------------------------------------------------------------------

/-- The states in which a device has no use for a link. -/
def dropsLink : DeviceState → Bool
  | .disconnected | .failed | .unavailable | .unmanaged => true
  | _ => false

/-- Starts an attempt to bring up a link. -/
def connect (d : Daemon) (path : String) (profile : BluetoothProfile) : Daemon :=
  let (links, attempt) := d.links.connect d.manager.now path
  { d with links, calls := d.calls ++ [.connectProfile attempt path profile] }

/-- Gives up a link; nothing is asked of the remote device if there was no attempt. -/
def disconnect (d : Daemon) (path : String) : Daemon :=
  match d.links.stop path with
  | (links, true) => { d with links, calls := d.calls ++ [.disconnect path] }
  | (_, false) => d

def followLink (d : Daemon) : ManagerEvent → Daemon
  | .linkRequested device request =>
    match d.manager.device? device with
    | none => d
    | some device => d.connect device.udi request.profile
  | .deviceStateChanged device new _ _ =>
    match (d.manager.device? device).filter fun d => d.type = .bluetooth ∧ dropsLink new with
    | none => d
    | some device => d.disconnect device.udi
  | _ => d

/-- Follows an event with the objects on the bus. -/
def followObjects (d : Daemon) (event : ManagerEvent) : Daemon :=
  let (objects, signals) := d.objects.sync d.manager event
  { d with objects, signals := d.signals ++ signals }

/-- Handles one published event: first the policy, then the links, then the objects. -/
def handleEvent (d : Daemon) (event : ManagerEvent) : Daemon :=
  let (policy, manager) := d.policy.handle d.manager event
  ({ d with policy, manager }.followLink event).followObjects event

/-- Takes the events that wait and handles them in their order. -/
def handleWaiting (d : Daemon) : Daemon :=
  d.manager.events.foldl handleEvent { d with manager := { d.manager with events := [] } }

/-- Works off the published events. Those that the policy adds do not concern the policy, so
nothing follows from them. -/
def publish (d : Daemon) : Daemon := d.handleWaiting.handleWaiting

/-- Runs an operation of the manager and works off the events that it published. -/
def react (d : Daemon) (operation : Manager → Manager) : Daemon :=
  (d.operate (operation d.manager)).publish

-- ---------------------------------------------------------------------------
-- Messages
-- ---------------------------------------------------------------------------

/-- A paired remote device was found. One that is known already is left alone. -/
def deviceFound (d : Daemon) (found : RemoteDevice) : Daemon :=
  if (d.manager.deviceByUdi? found.path).isSome then d
  else match found.device? d.connectTimeout with
    | none => d
    | some device => d.react fun m => (m.addDevice device).1

/-- Gives up the remote device at a path, and its link. -/
def dismiss (d : Daemon) (path : String) : Daemon :=
  match d.manager.deviceByUdi? path with
  | none => d
  | some device => (d.disconnect path).operate (d.manager.removeDevice device.id)

/-- The remote device at a path is gone. -/
def deviceGone (d : Daemon) (path : String) : Daemon :=
  if (d.manager.deviceByUdi? path).isSome then (d.dismiss path).publish else d

/-- Tells the device at a path that its link came up or went down. -/
def hear (d : Daemon) (message : LinkMessage) : Daemon :=
  match d.manager.deviceByUdi? message.path with
  | none => d
  | some device => d.operate (d.manager.linkChanged device.id message.up)

/-- An attempt says that a link came up or went down. -/
def linkMessage (d : Daemon) (message : LinkMessage) : Daemon :=
  if (d.manager.deviceByUdi? message.path).isSome then (d.hear message).publish else d

/-- The call of an attempt was answered. -/
def connectAnswered (d : Daemon) (attempt : Nat) (success : Bool) : Daemon :=
  match d.links.answered attempt success with
  | (_, none) => d
  | (links, some message) => { d with links }.linkMessage message

/-- The device at a path is no longer connected. -/
def connectionLost (d : Daemon) (path : String) : Daemon :=
  match d.links.lost path with
  | (_, none) => d
  | (links, some message) => { d with links }.linkMessage message

/-- A call for secrets was answered; the daemon does not hear of an answer to a call that it gave
up. -/
def secretsAnswered (d : Daemon) (call : SecretsCall) (answer : Except Error Settings) : Daemon :=
  if d.fetches.any fun f => f.call == call then
    { d with fetches := d.fetches.filter fun f => f.call != call }.react fun m =>
      m.secretsReply call answer
  else d

-- ---------------------------------------------------------------------------
-- Time
-- ---------------------------------------------------------------------------

/-- The calls for secrets that have to be given up by now. -/
def expiredFetches (d : Daemon) : List SecretsCall :=
  (d.fetches.filter fun f => f.deadline ≤ d.manager.now).map SecretsFetch.call

/-- The earliest deadline of the manager, of a call to connect, or of a call for secrets. -/
def nextDeadline? (d : Daemon) : Option Nat :=
  (d.manager.nextDeadline?.toList ++ d.links.nextDeadline?.toList ++
    d.fetches.map SecretsFetch.deadline).min?

/-- Does what is due: the deadlines of the manager first, then the calls that took too long, which
end like calls that failed. -/
def processDeadlines (d : Daemon) : Daemon :=
  let d := d.react Manager.processTimeouts
  -- both lists are made up when their turn comes: what came before may have shortened them
  let d := (d.links.expired d.manager.now).foldl (fun d n => d.connectAnswered n false) d
  d.expiredFetches.foldl (fun d call =>
    d.secretsAnswered call (.error (.settingsService "secrets request timed out"))) d

/-- Lets time pass up to a moment, and does at each deadline on the way what is due. The number
bounds the deadlines. -/
def passTime (moment : Nat) : Nat → Daemon → Daemon
  | 0, d => { d with manager := { d.manager with now := moment } }
  | n + 1, d =>
    match d.nextDeadline?.filter (· ≤ moment) with
    | none => { d with manager := { d.manager with now := moment } }
    | some deadline =>
      -- a deadline in the past does not turn the clock back
      let now := max d.manager.now deadline
      passTime moment n { d with manager := { d.manager with now } }.processDeadlines

/-- A bound for the deadlines that may come up one after the other: an activation has at most four
of them, and each activation that starts on the way uses up a connection, which is left out of
automatic activations once it failed. -/
def deadlineBound (d : Daemon) : Nat :=
  let m := d.manager
  let activations := m.devices.length + m.system.connections.size + m.user.connections.size
  4 * activations + m.requests.length + d.links.attempts.length + d.fetches.length + 1

/-- Lets milliseconds pass. -/
def advance (d : Daemon) (milliseconds : Nat) : Daemon :=
  passTime (d.manager.now + milliseconds) d.deadlineBound d

-- ---------------------------------------------------------------------------
-- The end
-- ---------------------------------------------------------------------------

/-- Ends all activity. The objects on the bus follow what is still published; the policy and the
links do not. -/
def shutdown (d : Daemon) : Daemon :=
  let d := d.operate d.manager.shutdown
  d.manager.events.foldl followObjects { d with manager := { d.manager with events := [] } }

end Daemon

end ScannerHub
