import ScannerHub.Daemon.Command

/-!
# The daemon among its peers

The other processes on the bus, as far as the daemon deals with them: the two settings services
with their connections, the remote devices, and the calls that wait for an answer. A session puts
a daemon among them; each of its operations is one thing that happens on the bus, with all that the
daemon does about it.

* `Session.serviceUp`, `serviceDown`, `newConnection`, `updated`, `removed` — settings services;
* `Session.remoteAdded`, `remoteRemoved`, `connected`, `connectReply` — remote devices;
* `Session.discover` — what the daemon finds at its start;
* `Session.secretsReply`, `call`, `writeNetworking`, `advance`, `shutdown` — the rest.
-/

namespace ScannerHub

/-- A settings service as a process on the bus. -/
structure SettingsService where
  running : Bool
  connections : Dict WireSettings
deriving DecidableEq

/-- A daemon and its peers. -/
structure Session where
  daemon : Daemon
  system : SettingsService
  user : SettingsService
  /-- The connections whose signals the daemon hears; one that was announced twice is heard
  twice. -/
  followed : List (Scope × String)
  /-- Whether the daemon hears of remote devices. -/
  hasBluetooth : Bool
  /-- The users whom the bus does not tell. -/
  strangers : List Nat
  /-- The attempts whose call to connect was not answered, the oldest first. -/
  connectCalls : List Nat
  /-- The calls for secrets that were not answered, the oldest first. -/
  secretsCalls : List SecretsCall
deriving DecidableEq

namespace Session

/-- A session with no settings service. -/
def start (daemon : Daemon) (hasBluetooth : Bool) (strangers : List Nat) : Session :=
  let service : SettingsService := { running := false, connections := ∅ }
  { daemon, system := service, user := service, followed := [], hasBluetooth, strangers
    connectCalls := [], secretsCalls := [] }

/-- Takes what was sent over the bus since the last time. A call waits for its answer from then
on. -/
def take (s : Session) : Session × List Signal × List OutgoingCall :=
  let d := s.daemon
  let connectCalls := d.calls.filterMap fun
    | .connectProfile attempt _ _ => some attempt
    | _ => none
  let secretsCalls := d.calls.filterMap fun
    | .getSecrets call _ => some call
    | _ => none
  ({ s with
     daemon := { d with signals := [], calls := [] }
     connectCalls := s.connectCalls ++ connectCalls
     secretsCalls := s.secretsCalls ++ secretsCalls }, d.signals, d.calls)

/-- Runs an operation of the daemon. -/
def update (s : Session) (f : Daemon → Daemon) : Session := { s with daemon := f s.daemon }

-- ---------------------------------------------------------------------------
-- Settings services
-- ---------------------------------------------------------------------------

/-- The settings service of a scope. -/
def service (s : Session) : Scope → SettingsService
  | .system => s.system
  | .user => s.user

/-- The session with another settings service in a scope. -/
def setService (s : Session) (scope : Scope) (service : SettingsService) : Session :=
  match scope with
  | .system => { s with system := service }
  | .user => { s with user := service }

/-- The daemon reads a connection and follows it from then on. -/
def follow (s : Session) (scope : Scope) (path : String) (settings : WireSettings) : Session :=
  { s with followed := s.followed ++ [(scope, path)] }.update fun d =>
    d.react fun m => (m.connectionAdded scope path (settingsOfWire settings)).1

/-- The daemon sees a settings service go. -/
def unfollow (s : Session) (scope : Scope) : Session :=
  { s with followed := s.followed.filter fun f => f.1 != scope }.update fun d =>
    d.react fun m => m.setServiceRunning scope false

/-- A settings service appears with connections of its own, besides those that it has already. One
that runs is replaced by another process. -/
def serviceUp (s : Session) (scope : Scope) (connections : List (String × WireSettings)) :
    Session :=
  let service := s.service scope
  let s := if service.running then s.unfollow scope else s
  let connections := connections.foldl (fun d c => d.insert c.1 c.2) service.connections
  let s := s.setService scope { running := true, connections }
  -- connections are usable as soon as they are read, so the service has to count as running before
  let s := s.update fun d => d.react fun m => m.setServiceRunning scope true
  connections.entries.foldl (fun s c => s.follow scope c.1 c.2) s

/-- A settings service goes, and its connections with it. -/
def serviceDown (s : Session) (scope : Scope) : Session :=
  let s := if (s.service scope).running then s.unfollow scope else s
  s.setService scope { running := false, connections := ∅ }

/-- A settings service gains a connection. -/
def newConnection (s : Session) (scope : Scope) (path : String) (settings : WireSettings) :
    Session :=
  let service := s.service scope
  let connections := service.connections.insert path settings
  let s := s.setService scope { service with connections }
  if service.running then s.follow scope path settings else s

/-- How many times the daemon hears the signals of a connection. -/
def hearings (s : Session) (scope : Scope) (path : String) : Nat := s.followed.count (scope, path)

/-- A connection has new settings. -/
def updated (s : Session) (scope : Scope) (path : String) (settings : WireSettings) : Session :=
  let service := s.service scope
  let connections := service.connections.insert path settings
  let s := s.setService scope { service with connections }
  Nat.repeat (fun s => s.update fun d => d.react fun m =>
    m.connectionUpdated scope path (settingsOfWire settings)) (s.hearings scope path) s

/-- A connection is gone; the daemon no longer follows it. -/
def removed (s : Session) (scope : Scope) (path : String) : Session :=
  let service := s.service scope
  let s := s.setService scope { service with connections := service.connections.erase path }
  if s.hearings scope path = 0 then s
  else
    { s with followed := s.followed.filter fun f => f != (scope, path) }.update fun d =>
      d.react fun m => m.connectionRemoved scope path

-- ---------------------------------------------------------------------------
-- Remote devices
-- ---------------------------------------------------------------------------

/-- A remote device appears with properties. -/
def remoteAdded (s : Session) (path : String) (properties : WireProperties) : Session :=
  match RemoteDevice.ofProperties? path properties with
  | some found => if s.hasBluetooth then s.update fun d => d.deviceFound found else s
  | none => s

/-- A remote device goes. -/
def remoteRemoved (s : Session) (path : String) : Session :=
  if s.hasBluetooth then s.update fun d => d.deviceGone path else s

/-- A remote device is connected, or no longer. -/
def connected (s : Session) (path : String) (value : Bool) : Session :=
  if value then s else s.update fun d => d.connectionLost path

/-- Answers the oldest call to connect; tells whether there is one. -/
def connectReply (s : Session) (success : Bool) : Session × Bool :=
  match s.connectCalls with
  | [] => (s, false)
  | attempt :: rest =>
    ({ s with connectCalls := rest }.update fun d => d.connectAnswered attempt success, true)

-- ---------------------------------------------------------------------------
-- The start
-- ---------------------------------------------------------------------------

/-- The daemon finds the services and the remote devices that are there at its start: first it
hears which services run, then of the devices, and last it reads the connections. -/
def discover (s : Session) (services : List (Scope × List (String × WireSettings)))
    (remotes : List (String × WireProperties)) : Session :=
  let s := services.foldl (fun s e =>
    (s.setService e.1 { running := true, connections := Dict.ofList e.2 }).update fun d =>
      d.react fun m => m.setServiceRunning e.1 true) s
  let s := remotes.foldl (fun s r => s.remoteAdded r.1 r.2) s
  services.foldl (fun s e =>
    (Dict.ofList e.2).entries.foldl (fun s c => s.follow e.1 c.1 c.2) s) s

-- ---------------------------------------------------------------------------
-- Everything else
-- ---------------------------------------------------------------------------

/-- Answers the oldest call for secrets; tells whether there is one. -/
def secretsReply (s : Session) (answer : Except Error WireSettings) : Session × Bool :=
  match s.secretsCalls with
  | [] => (s, false)
  | call :: rest =>
    ({ s with secretsCalls := rest }.update fun d =>
      d.secretsAnswered call (answer.map settingsOfWire), true)

/-- What the bus tells about a user. -/
def caller (s : Session) (uid : Nat) : Caller := if uid ∈ s.strangers then none else some uid

/-- A user calls a method of the manager object. -/
def call (s : Session) (uid : Nat) (command : Command) : Session × Except BusError Reply :=
  let (daemon, r) := s.daemon.run (s.caller uid) command
  ({ s with daemon }, r)

/-- A user writes the property `NetworkingEnabled`. -/
def writeNetworking (s : Session) (uid : Nat) (value : Bool) : Session × Except BusError Unit :=
  let (daemon, r) := s.daemon.writeNetworking (s.caller uid) value
  ({ s with daemon }, r)

/-- Lets milliseconds pass. -/
def advance (s : Session) (milliseconds : Nat) : Session :=
  s.update fun d => d.advance milliseconds

/-- Ends the daemon. -/
def shutdown (s : Session) : Session := s.update Daemon.shutdown

end Session

end ScannerHub
