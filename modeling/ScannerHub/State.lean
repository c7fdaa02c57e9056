/-!
# States and reasons

The life of a device as a state machine, why it moved, and the two coarser states that are
derived from it: that of an active connection and that of the whole manager. The numbers are
part of the bus interface.

* `DeviceState.CanMove` — the edges of the state machine;
* `ActiveState.ofDevice` — the state of an active connection, seen from its device.
-/

namespace ScannerHub

-- ---------------------------------------------------------------------------
-- Devices
-- ---------------------------------------------------------------------------

/-- The life of a device. The activation pipeline runs from `prepare` to `activated`. -/
inductive DeviceState where
  | unknown
  | unmanaged
  | unavailable
  | disconnected
  | prepare
  | config
  | needAuth
  | ipConfig
  | activated
  | failed
deriving DecidableEq, Repr, Inhabited

namespace DeviceState

/-- All states, in the order of their numbers. -/
def all : List DeviceState :=
  [unknown, unmanaged, unavailable, disconnected, prepare, config, needAuth, ipConfig, activated,
   failed]

def number : DeviceState → Nat
  | unknown => 0
  | unmanaged => 1
  | unavailable => 2
  | disconnected => 3
  | prepare => 4
  | config => 5
  | needAuth => 6
  | ipConfig => 7
  | activated => 8
  | failed => 9

/-- The state with a number; a number that no state has means `unknown`. -/
def ofNumber (n : Nat) : DeviceState :=
  (all.find? fun s => s.number == n).getD unknown

def name : DeviceState → String
  | unknown => "unknown"
  | unmanaged => "unmanaged"
  | unavailable => "unavailable"
  | disconnected => "disconnected"
  | prepare => "prepare"
  | config => "config"
  | needAuth => "need-auth"
  | ipConfig => "ip-config"
  | activated => "activated"
  | failed => "failed"

/-- The states of the pipeline before its end. -/
def isActivating : DeviceState → Bool
  | prepare | config | needAuth | ipConfig => true
  | _ => false

/-- The states in which an activation holds the device. -/
def isActive (s : DeviceState) : Bool :=
  s.isActivating || s == activated

/-- Whether a device may move from one state to another. The pipeline goes forward one stage at a
time, with a way around authentication and one back to it; it may break off anywhere. -/
def canMove : DeviceState → DeviceState → Bool
  | unmanaged, unavailable => true
  | unavailable, disconnected | disconnected, unavailable => true
  | unavailable, unmanaged | disconnected, unmanaged => true
  | disconnected, prepare => true
  | prepare, config => true
  | config, needAuth | config, ipConfig => true
  | needAuth, ipConfig => true
  | ipConfig, needAuth | ipConfig, activated => true
  | failed, disconnected | failed, unmanaged => true
  | s, failed | s, disconnected | s, unavailable | s, unmanaged => s.isActive
  | _, _ => false

/-- The edges of the state machine. -/
def CanMove (s t : DeviceState) : Prop := s.canMove t = true

instance (s t : DeviceState) : Decidable (CanMove s t) :=
  inferInstanceAs (Decidable (_ = true))

/-- The states that a device may move to, in the order of their numbers. -/
def successors (s : DeviceState) : List DeviceState :=
  all.filter fun t => s.canMove t

end DeviceState

-- ---------------------------------------------------------------------------
-- Reasons
-- ---------------------------------------------------------------------------

/-- Why a device changed its state. -/
inductive StateReason where
  | none
  | unknown
  | nowManaged
  | nowUnmanaged
  | configFailed
  | noSecrets
  | carrierLost
  | firmwareMissing
  | removed
  | sleeping
  | connectionRemoved
  | userRequested
  | linkFailed
deriving DecidableEq, Repr, Inhabited

namespace StateReason

/-- All reasons, in the order of their numbers. -/
def all : List StateReason :=
  [none, unknown, nowManaged, nowUnmanaged, configFailed, noSecrets, carrierLost,
   firmwareMissing, removed, sleeping, connectionRemoved, userRequested, linkFailed]

/-- The number of a reason on the bus. -/
def number : StateReason → Nat
  | none => 0
  | unknown => 1
  | nowManaged => 2
  | nowUnmanaged => 3
  | configFailed => 4
  | noSecrets => 7
  | carrierLost => 25
  | firmwareMissing => 35
  | removed => 36
  | sleeping => 37
  | connectionRemoved => 38
  | userRequested => 39
  | linkFailed => 44

/-- The reason with a number; a number that no reason has means `unknown`. -/
def ofNumber (n : Nat) : StateReason :=
  (all.find? fun r => r.number == n).getD unknown

def name : StateReason → String
  | none => "none"
  | unknown => "unknown"
  | nowManaged => "now-managed"
  | nowUnmanaged => "now-unmanaged"
  | configFailed => "config-failed"
  | noSecrets => "no-secrets"
  | carrierLost => "carrier-lost"
  | firmwareMissing => "firmware-missing"
  | removed => "removed"
  | sleeping => "sleeping"
  | connectionRemoved => "connection-removed"
  | userRequested => "user-requested"
  | linkFailed => "link-failed"

end StateReason

/-- A move that is no edge of the state machine. -/
structure TransitionError where
  source : DeviceState
  target : DeviceState
deriving DecidableEq, Repr

/-- The text of a refused move. -/
def TransitionError.message (e : TransitionError) : String :=
  s!"invalid device state transition {e.source.name} -> {e.target.name}"

-- ---------------------------------------------------------------------------
-- Active connections and the manager
-- ---------------------------------------------------------------------------

/-- The state of an active connection. -/
inductive ActiveState where
  | unknown
  | activating
  | activated
deriving DecidableEq, Repr, Inhabited

namespace ActiveState

def number : ActiveState → Nat
  | unknown => 0
  | activating => 1
  | activated => 2

def name : ActiveState → String
  | unknown => "unknown"
  | activating => "activating"
  | activated => "activated"

/-- The state of an active connection whose device is in a given state. -/
def ofDevice : DeviceState → ActiveState
  | .prepare | .config | .needAuth | .ipConfig => activating
  | .activated => activated
  | _ => unknown

end ActiveState

/-- The state of the manager as a whole. -/
inductive ManagerState where
  | unknown
  | asleep
  | connecting
  | connected
  | disconnected
deriving DecidableEq, Repr, Inhabited

namespace ManagerState

/-- All states, in the order of their numbers. -/
def all : List ManagerState := [unknown, asleep, connecting, connected, disconnected]

def number : ManagerState → Nat
  | unknown => 0
  | asleep => 1
  | connecting => 2
  | connected => 3
  | disconnected => 4

def name : ManagerState → String
  | unknown => "unknown"
  | asleep => "asleep"
  | connecting => "connecting"
  | connected => "connected"
  | disconnected => "disconnected"

end ManagerState

end ScannerHub
