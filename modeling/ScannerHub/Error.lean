import ScannerHub.State

/-!
# Errors

The causes for which the manager refuses or fails a request, their texts, and their names on the
bus.
-/

namespace ScannerHub

/-- Why a request fails. -/
inductive Error where
  | unknownConnection (path : String)
  | unknownDevice (path : String)
  | unmanagedDevice (interface : String)
  | invalidService (service : String)
  | connectionInvalid (cause : String)
  | connectionNotActive (path : String)
  | permissionDenied (cause : String)
  | alreadyAsleepOrAwake (asleep : Bool)
  | alreadyEnabledOrDisabled (enabled : Bool)
  | invalidTransition (cause : TransitionError)
  | deviceNotAvailable (interface : String)
  | invalidLoggingLevel (level : String)
  | invalidLoggingDomain (domain : String)
  | bus (cause : String)
  | settingsService (cause : String)
  | configReadFailed (cause : String)
  | configWriteFailed (cause : String)
  | configParseFailed (cause : String)
  | io (cause : String)
  | commandFailed (command cause : String)
  | internal (cause : String)
deriving DecidableEq, Repr

namespace Error

def message : Error → String
  | unknownConnection p => s!"Unknown connection: {p}"
  | unknownDevice p => s!"Unknown device: {p}"
  | unmanagedDevice i => s!"Device is not managed: {i}"
  | invalidService s => s!"Invalid settings service: {s}"
  | connectionInvalid c => s!"Connection is invalid for this device: {c}"
  | connectionNotActive p => s!"Connection is not active: {p}"
  | permissionDenied c => s!"Permission denied: {c}"
  | alreadyAsleepOrAwake asleep => if asleep then "Already asleep" else "Already awake"
  | alreadyEnabledOrDisabled enabled => if enabled then "Already enabled" else "Already disabled"
  | invalidTransition c => c.message
  | deviceNotAvailable i => s!"Device {i} is not available"
  | invalidLoggingLevel l => s!"Unknown logging level: {l}"
  | invalidLoggingDomain d => s!"Unknown logging domain: {d}"
  | bus c => s!"D-Bus error: {c}"
  | settingsService c => s!"Settings service error: {c}"
  | configReadFailed c => s!"Failed to read configuration: {c}"
  | configWriteFailed c => s!"Failed to write configuration: {c}"
  | configParseFailed c => s!"Failed to parse configuration: {c}"
  | io c => s!"IO error: {c}"
  | commandFailed command c => s!"Command failed: {command} - {c}"
  | internal c => s!"Internal error: {c}"

def busName : Error → String
  | unknownConnection _ => "UnknownConnection"
  | unknownDevice _ => "UnknownDevice"
  | unmanagedDevice _ => "UnmanagedDevice"
  | invalidService _ => "InvalidService"
  | connectionInvalid _ => "ConnectionInvalid"
  | connectionNotActive _ => "ConnectionNotActive"
  | permissionDenied _ => "PermissionDenied"
  | alreadyAsleepOrAwake _ => "AlreadyAsleepOrAwake"
  | alreadyEnabledOrDisabled _ => "AlreadyEnabledOrDisabled"
  | invalidLoggingLevel _ | invalidLoggingDomain _ => "InvalidArgs"
  | _ => "Failed"

def fullBusName (e : Error) : String :=
  "org.freedesktop.BarcodeManager.Error." ++ e.busName

/-- Whether the caller lacks a permission. -/
def isAuthorization : Error → Bool
  | permissionDenied _ => true
  | _ => false

/-- Whether the request asks for what is the case already. -/
def isAlreadyInState : Error → Bool
  | alreadyAsleepOrAwake _ | alreadyEnabledOrDisabled _ => true
  | _ => false

end Error

end ScannerHub
