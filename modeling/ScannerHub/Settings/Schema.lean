import ScannerHub.Address
import ScannerHub.Settings.Value
import ScannerHub.Uuid

/-!
# Known settings

What the settings `connection`, `bluetooth` and `serial` must hold, and their typed views. A
setting of any other name is a bag that nothing is asked of.

* `ConnectionSetting.ofMap`, `BluetoothSetting.ofMap`, `SerialSetting.ofMap` — the views; the
  first property that is wrong decides the error;
* `verifySetting` — whether a setting is acceptable under its name.
-/

namespace ScannerHub

-- ---------------------------------------------------------------------------
-- Errors
-- ---------------------------------------------------------------------------

/-- What is wrong with the value of a property. -/
inductive PropertyFault where
  | empty
  | notUuid (text : String)
  | notSixBytes
  | unknownType (text : String)
  | notPositive
  | outOfRange (value : UInt32) (low high : Nat)
  | unknownParity (text : String)
deriving DecidableEq, Repr

def PropertyFault.message : PropertyFault → String
  | empty => "must not be empty"
  | notUuid t => s!"'{t}' is not a UUID"
  | notSixBytes => "must be 6 bytes"
  | unknownType t => s!"unknown type '{t}'"
  | notPositive => "must be positive"
  | outOfRange n low high => s!"{n.toNat} out of range {low}-{high}"
  | unknownParity t => s!"unknown parity '{t}'"

/-- Why settings, or secrets for them, are not accepted. -/
inductive SettingsError where
  | missingSetting (setting : String)
  | missingProperty (setting property : String)
  | invalidProperty (setting property : String) (fault : PropertyFault)
  | noSecrets
  | invalidSecrets (setting : String)
deriving DecidableEq, Repr

def SettingsError.message : SettingsError → String
  | missingSetting s => s!"missing setting '{s}'"
  | missingProperty s p => s!"{s}.{p}: missing"
  | invalidProperty s p f => s!"{s}.{p}: {f.message}"
  | noSecrets => "no secrets were received"
  | invalidSecrets s => s!"no valid secrets for setting '{s}'"

-- ---------------------------------------------------------------------------
-- The setting `connection`
-- ---------------------------------------------------------------------------

def connectionSettingName : String := "connection"

def bluetoothSettingName : String := "bluetooth"

def serialSettingName : String := "serial"

/-- The name of the setting of raw HID connections. -/
def hidrawSettingName : String := "hidraw"

/-- The setting `connection`: what the connection is called and how it is used. -/
structure ConnectionSetting where
  id : String
  uuid : String
  /-- The name of the setting that describes the hardware side. -/
  kind : String
  autoconnect : Bool
  /-- When the connection was last activated, in seconds. -/
  timestamp : UInt64
  readOnly : Bool
deriving DecidableEq, Repr

/-- The view of a `connection` setting. A property that is optional and has a value of another
kind counts as absent. -/
def ConnectionSetting.ofMap (map : SettingMap) : Except SettingsError ConnectionSetting :=
  let setting := connectionSettingName
  match (map.get? "id").bind SettingValue.text? with
  | none => .error (.missingProperty setting "id")
  | some id =>
    -- a property that is there but wrong comes before one that is missing further on
    if id.isEmpty then .error (.invalidProperty setting "id" .empty)
    else match (map.get? "uuid").bind SettingValue.text? with
      | none => .error (.missingProperty setting "uuid")
      | some uuid =>
        if !Uuid.isWritten uuid then .error (.invalidProperty setting "uuid" (.notUuid uuid))
        else match (map.get? "type").bind SettingValue.text? with
          | none => .error (.missingProperty setting "type")
          | some kind =>
            if kind.isEmpty then .error (.invalidProperty setting "type" .empty)
            else .ok
              { id, uuid, kind
                autoconnect := ((map.get? "autoconnect").bind SettingValue.flag?).getD true
                timestamp := ((map.get? "timestamp").bind SettingValue.word64?).getD 0
                readOnly := ((map.get? "read-only").bind SettingValue.flag?).getD false }

-- ---------------------------------------------------------------------------
-- The setting `bluetooth`
-- ---------------------------------------------------------------------------

/-- What a bluetooth connection uses of the remote device. -/
inductive BluetoothProfile where
  /-- Dial-up networking. -/
  | dun
  /-- Personal area networking. -/
  | panu
deriving DecidableEq, Repr

namespace BluetoothProfile

/-- The name of a profile in settings. -/
def name : BluetoothProfile → String
  | dun => "dun"
  | panu => "panu"

def ofName? (text : String) : Option BluetoothProfile :=
  [dun, panu].find? fun p => p.name == text

end BluetoothProfile

/-- The setting `bluetooth`: which device, over which profile. -/
structure BluetoothSetting where
  /-- The address of the device in canonical form. -/
  address : String
  profile : BluetoothProfile
  pin : Option String
deriving DecidableEq, Repr

def BluetoothSetting.ofMap (map : SettingMap) : Except SettingsError BluetoothSetting :=
  let setting := bluetoothSettingName
  match (map.get? "bdaddr").bind SettingValue.bytes? with
  | none => .error (.missingProperty setting "bdaddr")
  | some bytes =>
    match Address.ofBytes? bytes with
    | none => .error (.invalidProperty setting "bdaddr" .notSixBytes)
    | some address =>
      match (map.get? "type").bind SettingValue.text? with
      | none => .error (.missingProperty setting "type")
      | some text =>
        match BluetoothProfile.ofName? text with
        | none => .error (.invalidProperty setting "type" (.unknownType text))
        | some profile =>
          .ok { address, profile, pin := (map.get? "pin").bind SettingValue.text? }

-- ---------------------------------------------------------------------------
-- The setting `serial`
-- ---------------------------------------------------------------------------

/-- The parity of a serial line. -/
inductive Parity where
  | none
  | even
  | odd
deriving DecidableEq, Repr

namespace Parity

def name : Parity → String
  | none => "none"
  | even => "even"
  | odd => "odd"

/-- The letter of a parity in settings; its case matters. -/
def letter : Parity → String
  | none => "n"
  | even => "E"
  | odd => "o"

def ofLetter? (text : String) : Option Parity :=
  [none, even, odd].find? fun p => p.letter == text

end Parity

/-- The setting `serial`: the parameters of the line. -/
structure SerialSetting where
  baud : UInt32
  bits : UInt32
  parity : Parity
  stopbits : UInt32
  sendDelay : UInt64
deriving DecidableEq, Repr

/-- The view of a `serial` setting. A property that is absent or of another kind has its
default. -/
def SerialSetting.ofMap (map : SettingMap) : Except SettingsError SerialSetting :=
  let setting := serialSettingName
  let baud := ((map.get? "baud").bind SettingValue.word32?).getD 57600
  let bits := ((map.get? "bits").bind SettingValue.word32?).getD 8
  let letter := ((map.get? "parity").bind SettingValue.text?).getD Parity.none.letter
  let stopbits := ((map.get? "stopbits").bind SettingValue.word32?).getD 1
  let sendDelay := ((map.get? "send-delay").bind SettingValue.word64?).getD 0
  if baud = 0 then .error (.invalidProperty setting "baud" .notPositive)
  else if bits < 5 ∨ 8 < bits then .error (.invalidProperty setting "bits" (.outOfRange bits 5 8))
  else match Parity.ofLetter? letter with
    | none => .error (.invalidProperty setting "parity" (.unknownParity letter))
    | some parity =>
      if stopbits < 1 ∨ 2 < stopbits then
        .error (.invalidProperty setting "stopbits" (.outOfRange stopbits 1 2))
      else .ok { baud, bits, parity, stopbits, sendDelay }

-- ---------------------------------------------------------------------------
-- Any setting
-- ---------------------------------------------------------------------------

/-- Whether a setting is acceptable under its name. -/
def verifySetting (name : String) (map : SettingMap) : Except SettingsError Unit :=
  if name = connectionSettingName then (ConnectionSetting.ofMap map).map fun _ => ()
  else if name = bluetoothSettingName then (BluetoothSetting.ofMap map).map fun _ => ()
  else if name = serialSettingName then (SerialSetting.ofMap map).map fun _ => ()
  else .ok ()

def secretProperties (name : String) : List String :=
  if name = bluetoothSettingName then ["pin"] else []

end ScannerHub
