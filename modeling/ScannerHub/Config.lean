import ScannerHub.Error
import ScannerHub.Storage.FileTree
import ScannerHub.Toml.Decode

/-!
# Configuration

The configuration file of the daemon: a TOML document with the sections `main` and `logging`,
every part of which may be left out.

* `Config.ofText?` — the configuration that a text writes;
* `Config.load` — the configuration in a file, or the defaults if there is no file.
-/

namespace ScannerHub

/-- What can be configured. -/
structure Config where
  /-- The kernel subsystems that are watched. -/
  subsystems : List String
  /-- The subsystem whose devices have their driver one level further up. -/
  bridgeSubsystem : String
  /-- How long an activation may take, in seconds. -/
  activationTimeout : Nat
  /-- How long a bluetooth link may take to come up, in seconds. -/
  connectTimeout : Nat
  stateFile : String
  /-- The users who may use privileged operations besides the superuser. -/
  allowedUids : List Nat
  logLevel : String
  logDomains : String
deriving DecidableEq, Repr

namespace Config

-- ---------------------------------------------------------------------------
-- Defaults
-- ---------------------------------------------------------------------------

/-- The configuration without a file. -/
def default : Config :=
  { subsystems := ["hidraw"]
    bridgeSubsystem := "ibmebus"
    activationTimeout := 30
    connectTimeout := 30
    stateFile := "/var/lib/barcode-manager/barcode-manager.state"
    allowedUids := []
    logLevel := "INFO"
    logDomains := "ALL" }

/-- The path of the configuration file, unless the command line names another one. -/
def defaultPath : String := "/etc/barcode-manager/barcode-manager.conf"

-- ---------------------------------------------------------------------------
-- Reading
-- ---------------------------------------------------------------------------

/-- The fields of the section `main`, in their order. -/
def mainFields : List String :=
  ["subsystems", "bridge_subsystem", "activation_timeout_secs", "bluetooth_connect_timeout_secs",
   "state_file", "allowed_uids"]

/-- The fields of the section `logging`, in their order. -/
def loggingFields : List String := ["level", "domains"]

/-- The fields that a section has in a document. -/
def section? (document : Toml.Entries) (name : String) (fields : List String) :
    Option Toml.Entries :=
  document.field? name [] fun v => v.fields? fields

open Toml in
def ofText? (text : String) : Option Config := do
  let document ← Toml.ofText? text
  let main ← section? document "main" mainFields
  let logging ← section? document "logging" loggingFields
  let subsystems ← main.field? "subsystems" default.subsystems (Value.asList? Value.asText?)
  let bridgeSubsystem ← main.field? "bridge_subsystem" default.bridgeSubsystem Value.asText?
  let activationTimeout ←
    main.field? "activation_timeout_secs" default.activationTimeout (Value.asNat? UInt64.size)
  let connectTimeout ←
    main.field? "bluetooth_connect_timeout_secs" default.connectTimeout (Value.asNat? UInt64.size)
  let stateFile ← main.field? "state_file" default.stateFile Value.asText?
  let allowedUids ←
    main.field? "allowed_uids" default.allowedUids (Value.asList? (Value.asNat? UInt32.size))
  let logLevel ← logging.field? "level" default.logLevel Value.asText?
  let logDomains ← logging.field? "domains" default.logDomains Value.asText?
  return { subsystems, bridgeSubsystem, activationTimeout, connectTimeout, stateFile, allowedUids
           logLevel, logDomains }

/-- The configuration in what is at the path of the file. A file that is missing means the
defaults, unless it must be there. A directory, or bytes that are no text, cannot be read. -/
def load (node : Option FileNode) (mustExist : Bool) : Except Error Config :=
  match node with
  | none => if mustExist then .error (.io "there is no such file") else .ok default
  | some .directory => .error (.io "the path is a directory")
  | some (.file content) =>
    match String.fromUTF8? (ByteArray.mk content.toArray) with
    | none => .error (.io "the file is no text")
    | some text =>
      match ofText? text with
      | none => .error (.configParseFailed "the file is no configuration")
      | some config => .ok config

end Config

end ScannerHub
