import ScannerHub.Device.Hardware
import ScannerHub.Error

/-!
# Devices

A device has an identity, hardware of some kind, a state, and subscribers that hear of every
change. An operation on a device gives an `Update`: the device afterwards, the events that its
subscribers hear, and the error if a move was refused.

* `Device.moveTo` — the only way to another state, along an edge of the state machine;
* `Device.setManaged`, `Device.setFirmwareMissing`, `Device.deactivate` — what moves a device
  outside the activation pipeline.
-/

namespace ScannerHub

/-- What a device tells its subscribers. -/
inductive DeviceEvent where
  | stateChanged (device : Nat) (new old : DeviceState) (reason : StateReason)
  | needSecrets (device : Nat) (need : SecretsNeed)
  | linkRequested (device : Nat) (request : LinkRequest)
deriving DecidableEq, Repr

def DeviceEvent.device : DeviceEvent → Nat
  | stateChanged device _ _ _ | needSecrets device _ | linkRequested device _ => device

/-- Who hears the events of a device. -/
inductive Listener where
  | manager
  | request (id : Nat)
  | observer (index : Nat)
deriving DecidableEq, Repr

/-- The place of a listener among the subscribers of a device. -/
structure Subscription where
  id : Nat
  listener : Listener
  /-- Whether the listener is gone; it then leaves the subscribers with the next event. -/
  closed : Bool
deriving DecidableEq, Repr

/-- A managed piece of hardware. -/
structure Device where
  /-- The handle under which the device is known. -/
  id : Nat
  identity : DeviceIdentity
  capabilities : FlagSet
  state : DeviceState
  managed : Bool
  firmwareMissing : Bool
  /-- Whether a user stopped the device, so that it stays down until a user starts it. -/
  autoconnectInhibited : Bool
  /-- Whether an automatic activation is due. -/
  activationScheduled : Bool
  hardware : Hardware
  subscribers : List Subscription
  nextSubscription : Nat
deriving DecidableEq, Repr

/-- What an operation makes of a device. -/
structure Update where
  device : Device
  events : List DeviceEvent
  error : Option Error
deriving DecidableEq, Repr

/-- Goes on with another operation, unless a move was refused. -/
def Update.andThen (u : Update) (next : Device → Update) : Update :=
  if u.error.isSome then u
  else
    let v := next u.device
    { v with events := u.events ++ v.events }

namespace Device

/-- A device around hardware that can be managed. -/
def ofHardware? (identity : DeviceIdentity) (hardware : Hardware) : Option Device :=
  if hardware.capabilities.contains .supported then
    some
      { id := 0, identity, capabilities := hardware.capabilities, state := .unmanaged
        managed := false, firmwareMissing := false, autoconnectInhibited := false
        activationScheduled := false, hardware, subscribers := [], nextSubscription := 0 }
  else none

/-- The path that names the device in the system. -/
def udi (d : Device) : String := d.identity.udi

def interface (d : Device) : String := d.identity.interface

/-- The kind of the device. -/
def type (d : Device) : DeviceType := d.hardware.type

/-- The rank of the device when a default is picked; a lower one wins. -/
def priority (d : Device) : Nat := d.type.number

/-- Whether the device could be used: its firmware is there, and the hardware is ready. -/
def isAvailable (d : Device) : Bool := !d.firmwareMissing && d.hardware.isAvailable

/-- Whether an activation is under way or due. -/
def isActivating (d : Device) : Bool := d.state.isActivating || d.activationScheduled

/-- Whether an automatic activation may start now. -/
def autoconnectAllowed (d : Device) : Bool :=
  d.managed && !d.autoconnectInhibited && d.state == .disconnected && d.isAvailable

/-- Whether a connection fits the device. -/
def check (d : Device) (c : Connection) : Except Incompatibility Unit :=
  d.hardware.check d.identity c

/-- The first of several connections that may be started automatically. -/
def bestAutoConnection? (d : Device) (cs : List Connection) : Option Connection :=
  cs.find? fun c => d.hardware.fitsAutomatically d.identity c

-- ---------------------------------------------------------------------------
-- Subscribers
-- ---------------------------------------------------------------------------

/-- Adds a subscriber; its place has the number that the device gives out next. -/
def subscribe (d : Device) (listener : Listener) : Device :=
  { d with
    subscribers := d.subscribers ++ [{ id := d.nextSubscription, listener, closed := false }]
    nextSubscription := d.nextSubscription + 1 }

def isSubscribed (d : Device) (subscription : Nat) : Bool :=
  d.subscribers.any fun s => s.id == subscription

/-- Drops a subscriber. -/
def unsubscribe (d : Device) (subscription : Nat) : Device :=
  { d with subscribers := d.subscribers.filter fun s => s.id != subscription }

/-- Notes that a listener is gone. -/
def closeListener (d : Device) (listener : Listener) : Device :=
  { d with
    subscribers := d.subscribers.map fun s =>
      if s.listener = listener then { s with closed := true } else s }

/-- The listeners that an event reaches. -/
def listeners (d : Device) : List Listener :=
  (d.subscribers.filter fun s => !s.closed).map Subscription.listener

/-- Sends an event: subscribers whose listener is gone are dropped. -/
def announce (d : Device) (event : DeviceEvent) : Update :=
  { device := { d with subscribers := d.subscribers.filter fun s => !s.closed }
    events := [event]
    error := none }

-- ---------------------------------------------------------------------------
-- The state machine
-- ---------------------------------------------------------------------------

/-- The update that changes nothing. -/
def unchanged (d : Device) : Update := { device := d, events := [], error := none }

/-- Moves to a state. The present state is accepted silently; a move that is no edge of the state
machine is refused. Leaving the active states drops what belongs to the activation. -/
def moveTo (d : Device) (new : DeviceState) (reason : StateReason) : Update :=
  if d.state = new then d.unchanged
  else if d.state.canMove new then
    -- moves inside an activation keep the link and the line
    let hardware :=
      if d.state.isActive && !new.isActive then d.hardware.deactivate else d.hardware
    { d with state := new, hardware }.announce (.stateChanged d.id new d.state reason)
  else
    { device := d, events := []
      error := some (.invalidTransition { source := d.state, target := new }) }

/-- Starts or stops managing the device. A device that is managed and available is disconnected
at once. -/
def setManaged (d : Device) (managed : Bool) (reason : StateReason) : Update :=
  if managed = d.managed then d.unchanged
  else if managed then
    ({ d with managed }.moveTo .unavailable reason).andThen fun d =>
      if d.isAvailable then d.moveTo .disconnected .none else d.unchanged
  else { d with managed, activationScheduled := false }.moveTo .unmanaged reason

/-- Notes whether the firmware of the device is missing. An idle device becomes unavailable
without it and can be used again once it is there. -/
def setFirmwareMissing (d : Device) (missing : Bool) : Update :=
  if missing = d.firmwareMissing then d.unchanged
  else
    let d := { d with firmwareMissing := missing }
    if missing then
      if d.state = .disconnected then d.moveTo .unavailable .firmwareMissing else d.unchanged
    else if d.state = .unavailable ∧ d.managed ∧ d.isAvailable then d.moveTo .disconnected .none
    else d.unchanged

/-- Fails the activation if it waits for secrets. -/
def failAuth (d : Device) : Update :=
  if d.state = .needAuth then d.moveTo .failed .noSecrets else d.unchanged

/-- Breaks off an activation. -/
def deactivate (d : Device) (reason : StateReason) : Update :=
  let d := { d with activationScheduled := false }
  if d.state.isActive || d.state == .failed then d.moveTo .disconnected reason else d.unchanged

end Device

end ScannerHub
