import ScannerHub.Settings.Connection
import ScannerHub.State

/-!
# Hardware

What tells the kinds of device apart: which connections fit, what each stage of an activation
does, and what becomes of a link. A bluetooth scanner waits for a link and may need a PIN, a
serial scanner takes over the parameters of its line, and a raw HID scanner is ready at once.

A link has to come up before a deadline. The clock counts milliseconds without a bound, so every deadline
is a moment; a timeout so long that its end is beyond all moments that a clock can hold, at which the
daemon would stop, is left out of account.

* `Hardware.check` — whether a connection fits;
* `Hardware.configStage`, `linkChanged`, `secretsUpdated`, `deadlineExpired` — the steps that can
  end in anything else than plain success.
-/

namespace ScannerHub

-- ---------------------------------------------------------------------------
-- Flags
-- ---------------------------------------------------------------------------

/-- A set of flags, one for each bit of a word. -/
structure FlagSet where
  bits : UInt32
deriving DecidableEq, Repr

namespace FlagSet

/-- The flags of either set. -/
def union (a b : FlagSet) : FlagSet := ⟨a.bits ||| b.bits⟩

/-- Whether one set has all flags of another. -/
def contains (a b : FlagSet) : Bool := (a.bits &&& b.bits) == b.bits

/-- The set without flags. -/
def none : FlagSet := ⟨0⟩

/-- Capability: the device can be managed. -/
def supported : FlagSet := ⟨1⟩

/-- Bluetooth profile: dial-up networking. -/
def dun : FlagSet := ⟨1⟩

/-- Bluetooth profile: network access point. -/
def nap : FlagSet := ⟨2⟩

end FlagSet

/-- The profile that the remote device must offer. -/
def BluetoothProfile.required : BluetoothProfile → FlagSet
  | dun => .dun
  | panu => .nap

-- ---------------------------------------------------------------------------
-- Kinds of device
-- ---------------------------------------------------------------------------

/-- The kind of a device. -/
inductive DeviceType where
  | unknown
  | serial
  | usb
  | bluetooth
  | hidraw
deriving DecidableEq, Repr

namespace DeviceType

/-- All kinds, in the order of their numbers. -/
def all : List DeviceType := [unknown, serial, usb, bluetooth, hidraw]

/-- The number of a kind on the bus. -/
def number : DeviceType → Nat
  | unknown => 0
  | serial => 1
  | usb => 2
  | bluetooth => 3
  | hidraw => 4

/-- The name of a kind for people. -/
def name : DeviceType → String
  | unknown => "unknown"
  | serial => "serial"
  | usb => "USB"
  | bluetooth => "Bluetooth"
  | hidraw => "HID raw"

end DeviceType

/-- What a device is called and where it comes from. -/
structure DeviceIdentity where
  /-- The path that names the device in the system. -/
  udi : String
  interface : String
  driver : String
  index : Option Nat
deriving DecidableEq, Repr

-- ---------------------------------------------------------------------------
-- Hardware of each kind
-- ---------------------------------------------------------------------------

/-- The link of a bluetooth device. -/
inductive LinkState where
  | idle
  | connecting (deadline : Nat) (profile : BluetoothProfile)
  | up (profile : BluetoothProfile)
deriving DecidableEq, Repr

def LinkState.profile? : LinkState → Option BluetoothProfile
  | idle => none
  | connecting _ p | up p => some p

/-- A remote bluetooth device. -/
structure BluetoothRadio where
  /-- The address in canonical form. -/
  address : String
  name : String
  profiles : FlagSet
  /-- How long a link may take to come up, in milliseconds. -/
  connectTimeout : Nat
  link : LinkState
deriving DecidableEq, Repr

/-- A device with the written address and an idle link, if the address is one. -/
def BluetoothRadio.ofAddress? (address name : String) (profiles : FlagSet)
    (connectTimeout : Nat) : Option BluetoothRadio :=
  (Address.canonical? address).map fun address =>
    { address, name, profiles, connectTimeout, link := .idle }

/-- The kind of a device, with what only that kind has. -/
inductive Hardware where
  | bluetooth (radio : BluetoothRadio)
  /-- A raw HID device behind a device node. -/
  | hidraw (node : String)
  /-- A serial line, with the parameters in force since the last config stage. -/
  | serial (line : Option SerialSetting)
deriving DecidableEq, Repr

/-- Why a connection does not fit a device. -/
inductive Incompatibility where
  | otherType (expected : String)
  | invalidSettings (cause : SettingsError)
  | missingCapability
  | otherAddress
deriving DecidableEq, Repr

def Incompatibility.message : Incompatibility → String
  | otherType t => s!"connection is not of type '{t}'"
  | invalidSettings e => s!"invalid connection settings: {e.message}"
  | missingCapability => "device lacks the capability required by the connection"
  | otherAddress => "connection is bound to a different device address"

/-- The link that a bluetooth device asks for. -/
structure LinkRequest where
  address : String
  profile : BluetoothProfile
deriving DecidableEq, Repr

/-- The secrets that a device needs before it can go on. -/
structure SecretsNeed where
  setting : String
  hints : List String
  requestNew : Bool
deriving DecidableEq, Repr

/-- How a stage of an activation ends. -/
inductive StageOutcome where
  | success
  /-- The stage goes on without the device. -/
  | postpone
  | waitForLink (request : LinkRequest)
  | needSecrets (need : SecretsNeed)
  | failure (reason : StateReason)
deriving DecidableEq, Repr

namespace Hardware

/-- The kind of the device. -/
def type : Hardware → DeviceType
  | bluetooth _ => .bluetooth
  | hidraw _ => .hidraw
  | serial _ => .serial

/-- The type of the connections that fit, which is also the name of their setting. -/
def settingName : Hardware → String
  | bluetooth _ => bluetoothSettingName
  | hidraw _ => hidrawSettingName
  | serial _ => serialSettingName

/-- The capabilities of the hardware: every kind can be managed. -/
def capabilities (_ : Hardware) : FlagSet := .supported

/-- Whether the hardware can be used now: no kind has a switch of its own. -/
def isAvailable (_ : Hardware) : Bool := true

-- ---------------------------------------------------------------------------
-- Which connections fit
-- ---------------------------------------------------------------------------

/-- The view of a setting that must be there and be acceptable. -/
def requireSetting {α : Type} (name : String) :
    Option (Except SettingsError α) → Except Incompatibility α
  | none => .error (.invalidSettings (.missingSetting name))
  | some (.error e) => .error (.invalidSettings e)
  | some (.ok a) => .ok a

/-- Whether a connection of the right type fits. A bluetooth connection needs a profile that the
device offers, and its address; a serial one acceptable parameters; a raw HID one may name the
interface that it is bound to. -/
def checkSetting (identity : DeviceIdentity) (c : Connection) :
    Hardware → Except Incompatibility Unit
  | bluetooth radio =>
    match requireSetting bluetoothSettingName c.bluetooth? with
    | .error e => .error e
    | .ok setting =>
      if !radio.profiles.contains setting.profile.required then .error .missingCapability
      else if setting.address ≠ radio.address then .error .otherAddress
      else .ok ()
  | serial _ => (requireSetting serialSettingName c.serial?).map fun _ => ()
  | hidraw _ =>
    let bound := ((c.setting? hidrawSettingName).bind fun m => m.get? "interface-name").bind
      SettingValue.text?
    match bound with
    | some name => if name ≠ identity.interface then .error .otherAddress else .ok ()
    | none => .ok ()

/-- Whether a connection fits the device. -/
def check (identity : DeviceIdentity) (h : Hardware) (c : Connection) :
    Except Incompatibility Unit :=
  if c.kind ≠ h.settingName then .error (.otherType h.settingName)
  else h.checkSetting identity c

/-- Whether a connection may be started on the device without a user asking for it. -/
def fitsAutomatically (identity : DeviceIdentity) (h : Hardware) (c : Connection) : Bool :=
  c.autoconnect && (h.check identity c).isOk

-- ---------------------------------------------------------------------------
-- Stages of an activation
-- ---------------------------------------------------------------------------

/-- What follows once the link is up: a dial-up connection needs a PIN. -/
def afterLinkUp (c : Connection) : BluetoothProfile → StageOutcome
  | .panu => .success
  | .dun =>
    let pin := match c.bluetooth? with
      | some (.ok setting) => setting.pin
      | _ => none
    if pin.any fun p => !p.isEmpty then .success
    else .needSecrets { setting := bluetoothSettingName, hints := ["pin"], requestNew := false }

/-- The config stage, at a time in milliseconds. -/
def configStage (now : Nat) (c : Connection) : Hardware → Hardware × StageOutcome
  | bluetooth radio =>
    match c.bluetooth? with
    | some (.ok setting) =>
      let link := .connecting (now + radio.connectTimeout) setting.profile
      (bluetooth { radio with link },
        .waitForLink { address := radio.address, profile := setting.profile })
    | _ => (bluetooth radio, .failure .configFailed)
  | serial line =>
    match c.serial? with
    | some (.ok setting) => (serial (some setting), .success)
    | _ => (serial line, .failure .configFailed)
  | hidraw node => (hidraw node, .success)

/-- The link came up or went down. -/
def linkChanged (c : Connection) (up : Bool) : Hardware → Hardware × StageOutcome
  | bluetooth radio =>
    match radio.link, up with
    | .connecting _ profile, true =>
      (bluetooth { radio with link := .up profile }, afterLinkUp c profile)
    | .connecting _ _, false => (bluetooth { radio with link := .idle }, .failure .linkFailed)
    | .up _, false => (bluetooth { radio with link := .idle }, .failure .carrierLost)
    | _, _ => (bluetooth radio, .postpone)
  | h => (h, .postpone)

/-- Secrets for a setting were merged into the connection. Only bluetooth has secrets, and a PIN
that is still missing now will not come. -/
def secretsUpdated (c : Connection) (setting : String) : Hardware → StageOutcome
  | bluetooth radio =>
    if setting ≠ bluetoothSettingName then .failure .noSecrets
    else match radio.link.profile? with
      | none => .failure .linkFailed
      | some profile =>
        match afterLinkUp c profile with
        | .needSecrets _ => .failure .noSecrets
        | outcome => outcome
  | _ => .success

/-- When the hardware wants to be looked at again. -/
def deadline? : Hardware → Option Nat
  | bluetooth { link := .connecting deadline _, .. } => some deadline
  | _ => none

/-- Gives up on a link that did not come up in time; the reason tells that it did. -/
def deadlineExpired (now : Nat) : Hardware → Hardware × Option StateReason
  | bluetooth radio =>
    match radio.link with
    | .connecting deadline _ =>
      if deadline ≤ now then (bluetooth { radio with link := .idle }, some .linkFailed)
      else (bluetooth radio, none)
    | _ => (bluetooth radio, none)
  | h => (h, none)

/-- Drops what belongs to an activation. -/
def deactivate : Hardware → Hardware
  | bluetooth radio => bluetooth { radio with link := .idle }
  | serial _ => serial none
  | h => h

end Hardware

end ScannerHub
