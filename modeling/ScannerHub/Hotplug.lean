import ScannerHub.Device.Basic
import ScannerHub.Text.Numeral

/-!
# Hotplug

The kernel describes its devices with a name, a subsystem, a driver and a parent. A raw device of
a known subsystem becomes a device if it has a name, a driver and an index.

* `RawDevice.driver?` — the driver of the device or of one it hangs on;
* `RawDevice.identity?` — the identity of a device that can be used;
* `RawDevice.device?` — the device.
-/

namespace ScannerHub

/-- A device as the kernel describes it. -/
structure RawDevice where
  name : String
  subsystem : String
  syspath : String
  driver : Option String
  /-- The kind of device, where the subsystem tells kinds apart. -/
  devtype : Option String
  /-- The number of the hardware type; nothing else than zero can be used. -/
  typeNumber : Option Int
  index : Option Nat
  /-- Whether the kernel still waits for firmware. -/
  firmwareMissing : Bool
  parent : Option RawDevice
deriving Inhabited

/-- What the kernel reports about a device. -/
inductive HotplugAction where
  | added
  | changed
  | removed
deriving DecidableEq, Repr

namespace HotplugAction

/-- The kernel's word for an action. -/
def word : HotplugAction → String
  | added => "add"
  | changed => "change"
  | removed => "remove"

/-- The action with a word; all other actions are ignored. -/
def ofWord? (text : String) : Option HotplugAction :=
  [added, changed, removed].find? fun a => a.word == text

end HotplugAction

namespace RawDevice

/-- The driver of a device: its own, that of its parent, or that of the parent's parent if the
parent belongs to the bridge subsystem. -/
def driver? (bridge : String) (raw : RawDevice) : Option String :=
  match raw.driver, raw.parent with
  | some driver, _ => some driver
  | none, none => none
  | none, some parent =>
    match parent.driver with
    | some driver => some driver
    | none =>
      if parent.subsystem = bridge then parent.parent.bind RawDevice.driver else none

/-- The number at the end of a kernel name, if it has 32 bits. -/
def trailingNumber? (name : String) : Option Nat :=
  word32? (name.toList.reverse.takeWhile Char.isDigit).reverse

/-- The identity of a device that can be used. -/
def identity? (bridge : String) (raw : RawDevice) : Option DeviceIdentity :=
  if raw.typeNumber.any (· != 0) || raw.devtype == some "wwan" || raw.name.isEmpty then none
  else match raw.driver? bridge, raw.index.or (trailingNumber? raw.name) with
    | some driver, some index =>
      some { udi := raw.syspath, interface := raw.name, driver, index := some index }
    | _, _ => none

/-- The node of a device with a kernel name. A name that is an absolute path is the node. -/
def node (name : String) : String :=
  if name.toList.head? = some '/' then name else "/dev/" ++ name

/-- The hardware behind a raw device, if its subsystem is known. -/
def hardware? (raw : RawDevice) : Option Hardware :=
  if raw.subsystem = "hidraw" then some (.hidraw (node raw.name))
  else if raw.subsystem = "tty" then some (.serial none)
  else none

/-- The device that a raw device gives. -/
def device? (bridge : String) (raw : RawDevice) : Option Device := do
  let identity ← raw.identity? bridge
  let hardware ← raw.hardware?
  let device ← Device.ofHardware? identity hardware
  return (device.setFirmwareMissing raw.firmwareMissing).device

/-- The devices that a list of raw devices gives, in its order. -/
def query (bridge : String) (raws : List RawDevice) : List Device :=
  raws.filterMap fun raw => raw.device? bridge

end RawDevice

end ScannerHub
