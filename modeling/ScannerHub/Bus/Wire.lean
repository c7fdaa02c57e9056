import ScannerHub.Settings.Value

/-!
# Values on the bus

Values travel on the bus with a type. Settings use a few of these types; a value of any other type
is dropped from a setting.
-/

namespace ScannerHub

/-- A value on the bus. -/
inductive WireValue where
  | flag (value : Bool)
  | word32 (value : UInt32)
  | word64 (value : UInt64)
  | text (value : String)
  | path (value : String)
  | bytes (value : List UInt8)
  | texts (value : List String)
  /-- A value with its type, as a value. -/
  | boxed (value : WireValue)
  /-- A value of a type that no setting uses. -/
  | other
deriving DecidableEq, Repr, Inhabited

/-- The properties of an object on the bus. -/
abbrev WireProperties := Dict WireValue

/-- The settings of a connection on the bus. -/
abbrev WireSettings := Dict WireProperties

/-- The setting value that a value on the bus stands for. -/
def WireValue.setting? : WireValue → Option SettingValue
  | flag b => some (.flag b)
  | word32 n => some (.word32 n)
  | word64 n => some (.word64 n)
  | text s | path s => some (.text s)
  | bytes b => some (.bytes b)
  | texts l => some (.texts l)
  | boxed v => v.setting?
  | other => none

/-- The settings that settings on the bus stand for. -/
def settingsOfWire (wire : WireSettings) : Settings :=
  wire.filterMapValues fun _ properties =>
    some (properties.filterMapValues fun _ v => v.setting?)

/-- Whether a text is an object path: names of letters, digits and underscores, each behind a
slash; a single slash is the root. -/
def isObjectPath (text : String) : Bool :=
  match text.toList with
  | ['/'] => true
  | '/' :: cs => cs.getLast? != some '/' && !cs.isEmpty && isNames true cs
  | _ => false
where
  /-- Whether a text is names between slashes; the flag tells that a name must start. -/
  isNames (start : Bool) : List Char → Bool
    | [] => !start
    | c :: cs =>
      if c = '/' then !start && isNames true cs
      else (c.isAlphanum || c == '_') && isNames false cs

/-- A text as an object path; a text that is none becomes the root. -/
def publishedPath (text : String) : String :=
  if isObjectPath text then text else "/"

end ScannerHub
