import ScannerHub.Error

/-!
# Permissions

Some operations are open to the superuser and to a configured list of users only.
-/

namespace ScannerHub

/-- What a caller may be allowed to do. -/
inductive Permission where
  | enableDisable
  | sleepWake
  | useConnection
  | setLogging
deriving DecidableEq, Repr

def Permission.name : Permission → String
  | enableDisable => "org.freedesktop.BarcodeManager.enable-disable"
  | sleepWake => "org.freedesktop.BarcodeManager.sleep-wake"
  | useConnection => "org.freedesktop.BarcodeManager.use-connection"
  | setLogging => "org.freedesktop.BarcodeManager.set-logging"

/-- Whether a user is the superuser or on the list. -/
def isAuthorized (allowed : List Nat) (uid : Nat) : Bool :=
  uid == 0 || allowed.contains uid

/-- Refuses a user who is not authorized. -/
def authorize (allowed : List Nat) (uid : Nat) (permission : Permission) : Except Error Unit :=
  if isAuthorized allowed uid then .ok ()
  else .error (.permissionDenied s!"uid {uid} may not use {permission.name}")

end ScannerHub
