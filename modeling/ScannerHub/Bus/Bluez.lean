import ScannerHub.Bus.Wire
import ScannerHub.Device.Basic
import ScannerHub.Text.UpperCase

/-!
# Bluetooth devices on the bus

Remote devices are objects on the bus. One that is paired and offers a usable profile becomes a
device of the manager; its object path names it, and its address is its interface.
-/

namespace ScannerHub

/-- The name of the bus interface of remote devices. -/
def remoteDeviceInterface : String := "org.bluez.Device1"

/-- The identifier of a profile on the bus. -/
def BluetoothProfile.uuid : BluetoothProfile → String
  | dun => "00001103-0000-1000-8000-00805f9b34fb"
  | panu => "00001116-0000-1000-8000-00805f9b34fb"

/-- A paired remote device that offers a usable profile. -/
structure RemoteDevice where
  path : String
  address : String
  name : String
  profiles : FlagSet
deriving DecidableEq, Repr

namespace RemoteDevice

/-- The profiles that a list of identifiers offers; the case of letters does not matter. -/
def profilesOf (uuids : List String) : FlagSet :=
  uuids.foldl (fun set uuid =>
    if sameIgnoringCase uuid BluetoothProfile.dun.uuid then set.union .dun
    else if sameIgnoringCase uuid BluetoothProfile.panu.uuid then set.union .nap
    else set) .none

/-- The device that the properties of an object describe. It is called by its alias, else by its
name, else by its address. -/
def ofProperties? (path : String) (properties : WireProperties) : Option RemoteDevice :=
  let property := fun key => (properties.get? key).bind WireValue.setting?
  if (property "Paired").bind SettingValue.flag? ≠ some true then none
  else match (property "Address").bind SettingValue.text? with
    | none => none
    | some address =>
      let called := (property "Alias").or (property "Name")
      let name := (called.bind SettingValue.text?).getD address
      let profiles := match property "UUIDs" with
        | some (.texts uuids) => profilesOf uuids
        | _ => .none
      if profiles = .none then none else some { path, address, name, profiles }

/-- The device of the manager, whose links may take so many milliseconds to come up. -/
def device? (d : RemoteDevice) (connectTimeout : Nat) : Option Device := do
  let radio ← BluetoothRadio.ofAddress? d.address d.name d.profiles connectTimeout
  Device.ofHardware?
    { udi := d.path, interface := radio.address, driver := "bluez", index := none }
    (.bluetooth radio)

end RemoteDevice

end ScannerHub
