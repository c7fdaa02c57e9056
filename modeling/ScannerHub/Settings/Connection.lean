import ScannerHub.Settings.Schema

/-!
# Connections

A connection is a collection of settings that belong together: the setting `connection` is there,
the setting that it names as its type is there too, and each setting is acceptable on its own. The
view of the setting `connection` is kept beside the settings.

* `Connection.verify` — what a collection of settings must fulfil;
* `Connection.ofSettings`, `replaceSettings`, `mergeSecrets` — the ways to new settings; all of
  them verify, and a failure leaves the connection that was there;
* `Connection.setTimestamp` — notes when the connection was last used.
-/

namespace ScannerHub

/-- Settings that were verified, with the view of their setting `connection`. -/
structure Connection where
  scope : Scope
  settings : Settings
  base : ConnectionSetting
deriving DecidableEq

namespace Connection

-- ---------------------------------------------------------------------------
-- Verification
-- ---------------------------------------------------------------------------

/-- The first error among settings, in the order of their names. -/
def verifyEach : List (String × SettingMap) → Except SettingsError Unit
  | [] => .ok ()
  | (name, map) :: rest =>
    match verifySetting name map with
    | .error e => .error e
    | .ok () => verifyEach rest

/-- The view of the setting `connection`, provided that the settings belong together and each of
them is acceptable. -/
def verify (settings : Settings) : Except SettingsError ConnectionSetting :=
  match settings.get? connectionSettingName with
  | none => .error (.missingSetting connectionSettingName)
  | some map =>
    match ConnectionSetting.ofMap map with
    | .error e => .error e
    | .ok base =>
      if !settings.contains base.kind then .error (.missingSetting base.kind)
      else match verifyEach settings.entries with
        | .error e => .error e
        | .ok () => .ok base

def ofSettings (scope : Scope) (settings : Settings) : Except SettingsError Connection :=
  (verify settings).map fun base => { scope, settings, base }

-- ---------------------------------------------------------------------------
-- Queries
-- ---------------------------------------------------------------------------

/-- The name of the connection for people. -/
def id (c : Connection) : String := c.base.id

def uuid (c : Connection) : String := c.base.uuid

/-- The name of the setting that describes the hardware side. -/
def kind (c : Connection) : String := c.base.kind

/-- Whether the connection may be started without a user asking for it. -/
def autoconnect (c : Connection) : Bool := c.base.autoconnect

/-- When the connection was last activated, in seconds. -/
def timestamp (c : Connection) : UInt64 := c.base.timestamp

def setting? (c : Connection) (name : String) : Option SettingMap := c.settings.get? name

/-- The view of the setting `bluetooth`, if there is one. -/
def bluetooth? (c : Connection) : Option (Except SettingsError BluetoothSetting) :=
  (c.setting? bluetoothSettingName).map BluetoothSetting.ofMap

/-- The view of the setting `serial`, if there is one. -/
def serial? (c : Connection) : Option (Except SettingsError SerialSetting) :=
  (c.setting? serialSettingName).map SerialSetting.ofMap

-- ---------------------------------------------------------------------------
-- Changes
-- ---------------------------------------------------------------------------

def replaceSettings (c : Connection) (settings : Settings) : Except SettingsError Connection :=
  ofSettings c.scope settings

/-- The properties of a map that are secrets of the setting. -/
def secretEntries (name : String) (map : SettingMap) : List (String × SettingValue) :=
  map.entries.filter fun e => (secretProperties name).contains e.1

/-- Settings with secrets for one of them. A map that forms an acceptable setting by itself takes
the place of the setting; of any other map only the secrets are taken over, and there must be
one. -/
def withSecrets? (settings : Settings) (name : String) (map : SettingMap) : Option Settings :=
  if (verifySetting name map).isOk && !map.isEmpty then some (settings.insert name map)
  else
    -- nothing else of the map is looked at
    let secrets := secretEntries name map
    if secrets.isEmpty then none
    else
      let held := (settings.get? name).getD ∅
      some (settings.insert name (secrets.foldl (fun m e => m.insert e.1 e.2) held))

def mergeSecrets (c : Connection) (name : String) (secrets : Settings) :
    Except SettingsError Connection :=
  if secrets.isEmpty then .error .noSecrets
  else match secrets.get? name with
    | none => .error (.invalidSecrets name)
    | some map =>
      match withSecrets? c.settings name map with
      | none => .error (.invalidSecrets name)
      | some settings => c.replaceSettings settings

/-- Notes when the connection was last activated. -/
def setTimestamp (c : Connection) (time : UInt64) : Connection :=
  { c with
    settings := match c.settings.get? connectionSettingName with
      | none => c.settings
      | some map =>
        c.settings.insert connectionSettingName (map.insert "timestamp" (.word64 time))
    base := { c.base with timestamp := time } }

end Connection

end ScannerHub
