import ScannerHub.Bus.Wire
import ScannerHub.Manager.Operations

/-!
# Published properties

The properties of the objects on the bus, as the manager has them at one moment.
-/

namespace ScannerHub

/-- The value of a published property. -/
inductive PublishedValue where
  | number (value : Nat)
  | flag (value : Bool)
  | text (value : String)
  | texts (value : List String)
deriving DecidableEq, Repr

/-- A published property: its name and its value. -/
abbrev Property := String × PublishedValue

-- ---------------------------------------------------------------------------
-- The manager
-- ---------------------------------------------------------------------------

/-- The properties of the manager object. -/
structure ManagerStatus where
  state : Nat
  networkingEnabled : Bool
  activeConnections : List String
deriving DecidableEq, Repr

/-- The properties of the manager object at present. -/
def ManagerStatus.of (m : Manager) : ManagerStatus :=
  { state := m.state.number
    networkingEnabled := m.networkingEnabled
    activeConnections := m.requests.map fun r => activePath r.id }

namespace ManagerStatus

def stateProperty (s : ManagerStatus) : Property := ("State", .number s.state)

def networkingProperty (s : ManagerStatus) : Property :=
  ("NetworkingEnabled", .flag s.networkingEnabled)

def activeProperty (s : ManagerStatus) : Property :=
  ("ActiveConnections", .texts s.activeConnections)

def properties (s : ManagerStatus) : List Property :=
  [s.stateProperty, s.networkingProperty, s.activeProperty]

end ManagerStatus

-- ---------------------------------------------------------------------------
-- Devices
-- ---------------------------------------------------------------------------

/-- The properties of a device object. -/
structure DeviceStatus where
  udi : String
  interface : String
  driver : String
  capabilities : UInt32
  state : Nat
  type : Nat
  managed : Bool
  firmwareMissing : Bool
deriving DecidableEq, Repr

/-- The properties of a device at present. -/
def DeviceStatus.of (d : Device) : DeviceStatus :=
  { udi := d.udi
    interface := d.interface
    driver := d.identity.driver
    capabilities := d.capabilities.bits
    state := d.state.number
    type := d.type.number
    managed := d.managed
    firmwareMissing := d.firmwareMissing }

namespace DeviceStatus

def stateProperty (s : DeviceStatus) : Property := ("State", .number s.state)

def managedProperty (s : DeviceStatus) : Property := ("Managed", .flag s.managed)

def firmwareProperty (s : DeviceStatus) : Property := ("FirmwareMissing", .flag s.firmwareMissing)

def properties (s : DeviceStatus) : List Property :=
  [("Udi", .text s.udi), ("Interface", .text s.interface), ("Driver", .text s.driver),
   ("Capabilities", .number s.capabilities.toNat), s.stateProperty, ("DeviceType", .number s.type),
   s.managedProperty, s.firmwareProperty]

end DeviceStatus

-- ---------------------------------------------------------------------------
-- Active connections
-- ---------------------------------------------------------------------------

/-- The properties of an active connection. -/
structure ActiveStatus where
  serviceName : String
  connection : String
  specificObject : String
  devices : List String
  state : Nat
  isDefault : Bool
  isDefault6 : Bool
deriving DecidableEq, Repr

/-- The properties of a request at present. -/
def ActiveStatus.of (r : Request) : ActiveStatus :=
  { serviceName := r.serviceName
    connection := publishedPath r.path
    specificObject := publishedPath r.specificObject
    devices := [devicePath r.device]
    state := r.state.number
    isDefault := r.isDefault
    isDefault6 := r.isDefault6 }

namespace ActiveStatus

def stateProperty (s : ActiveStatus) : Property := ("State", .number s.state)

def defaultProperty (s : ActiveStatus) : Property := ("Default", .flag s.isDefault)

def default6Property (s : ActiveStatus) : Property := ("Default6", .flag s.isDefault6)

/-- All properties; no connection is a virtual private network. -/
def properties (s : ActiveStatus) : List Property :=
  [("ServiceName", .text s.serviceName), ("Connection", .text s.connection),
   ("SpecificObject", .text s.specificObject), ("Devices", .texts s.devices), s.stateProperty,
   s.defaultProperty, s.default6Property, ("Vpn", .flag false)]

end ActiveStatus

end ScannerHub
