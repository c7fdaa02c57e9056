import ScannerHub.Data.Dict

/-!
# Setting values

A connection is described by settings, a setting by properties, and a property has one of a few
kinds of value. Numbers are 32 or 64 bits wide.
-/

namespace ScannerHub

/-- The value of one property. -/
inductive SettingValue where
  | flag (value : Bool)
  | word32 (value : UInt32)
  | word64 (value : UInt64)
  | text (value : String)
  | bytes (value : List UInt8)
  | texts (value : List String)
deriving DecidableEq, Repr

namespace SettingValue

def text? : SettingValue → Option String
  | text s => some s
  | _ => none

def flag? : SettingValue → Option Bool
  | flag b => some b
  | _ => none

/-- The value as a 32-bit number; a wider number counts if it fits. -/
def word32? : SettingValue → Option UInt32
  | word32 n => some n
  | word64 n => if n.toNat < UInt32.size then some n.toUInt32 else none
  | _ => none

/-- The value as a 64-bit number. -/
def word64? : SettingValue → Option UInt64
  | word32 n => some n.toUInt64
  | word64 n => some n
  | _ => none

def bytes? : SettingValue → Option (List UInt8)
  | bytes b => some b
  | _ => none

end SettingValue

/-- The properties of one setting. -/
abbrev SettingMap := Dict SettingValue

/-- The settings of a connection, by name. -/
abbrev Settings := Dict SettingMap

/-- The settings service that a connection comes from. -/
inductive Scope where
  | system
  | user
deriving DecidableEq, Repr, Inhabited

namespace Scope

def name : Scope → String
  | system => "system"
  | user => "user"

/-- The bus name of the settings service of a scope. -/
def serviceName : Scope → String
  | system => "org.freedesktop.BarcodeManagerSystemSettings"
  | user => "org.freedesktop.BarcodeManagerUserSettings"

/-- The scope whose settings service has a bus name. -/
def ofServiceName? (service : String) : Option Scope :=
  [system, user].find? fun s => s.serviceName == service

end Scope

end ScannerHub
