import ScannerHub.Error
import ScannerHub.Text.Blank
import ScannerHub.Text.UpperCase

/-!
# Log filter

What is logged is set by a level and a list of domains. Together they give the directives of the
log filter. A domain stands for one or more targets, and errors are logged from all of them.

* `filterDirectives` — the directives of a level and a domain list;
* `LogControl.setLogging` — changes both while the daemon runs.
-/

namespace ScannerHub

/-- The levels, with the word that the filter uses for each. -/
def logLevels : List (String × String) :=
  [("ERR", "error"), ("WARN", "warn"), ("INFO", "info"), ("DEBUG", "debug")]

/-- The domains, with the targets that each covers. -/
def logDomains : List (String × List String) :=
  [("CORE", ["manager", "daemon", "policy", "activation", "storage"]),
   ("HW", ["hotplug"]),
   ("DEVICE", ["device"]),
   ("BT", ["device::bluetooth", "dbus::bluez"]),
   ("SUSPEND", ["dbus::service"]),
   ("SETTINGS", ["dbus::settings", "dbus::secrets", "models"]),
   ("SHARING", ["services::firewall"])]

/-- The filter's word for a level. Blanks around the level do not count. -/
def logLevelWord? (level : String) : Option String :=
  let word := String.ofList (trimBlank level.toList)
  (logLevels.find? fun l => sameIgnoringCase l.1 word).map Prod.snd

/-- The words of a domain list; commas and spaces set them apart. -/
def domainWords (domains : String) : List String :=
  (tokens (fun c => c == ',' || c == ' ') domains.toList).map String.ofList

/-- The targets of a list of domain words, each of them once, after the targets found before;
nothing means all targets. Words behind `ALL` are not looked at. -/
def domainTargets (found : List String) : List String → Except Error (Option (List String))
  | [] => .ok (some found)
  | word :: rest =>
    if sameIgnoringCase word "ALL" then .ok none
    else match logDomains.find? fun d => sameIgnoringCase d.1 word with
      | none => .error (.invalidLoggingDomain word)
      | some (_, targets) =>
        domainTargets (targets.foldl (fun ts t => if t ∈ ts then ts else ts ++ [t]) found) rest

/-- The directives of the log filter for a level and a domain list. -/
def filterDirectives (level domains : String) : Except Error String :=
  match logLevelWord? level with
  | none => .error (.invalidLoggingLevel level)
  | some word =>
    match domainTargets [] (domainWords domains) with
    | .error e => .error e
    | .ok none => .ok s!"warn,barcode_manager={word}"
    | .ok (some targets) =>
      .ok (",".intercalate
        ("warn" :: "barcode_manager=error" ::
          targets.map fun target => s!"barcode_manager::{target}={word}"))

/-- The level and the domain list in force, in upper case. -/
structure LogControl where
  level : String
  domains : String
deriving DecidableEq, Repr

namespace LogControl

/-- The control for a level and a domain list given at the start. -/
def start (level domains : String) : Except Error LogControl :=
  (filterDirectives level domains).map fun _ =>
    { level := upperCase level, domains := upperCase domains }

/-- Changes level and domains; an empty text keeps what is in force. -/
def setLogging (control : LogControl) (level domains : String) : Except Error LogControl :=
  let next : LogControl :=
    { level := if level.isEmpty then control.level else upperCase level
      domains := if domains.isEmpty then control.domains else upperCase domains }
  (filterDirectives next.level next.domains).map fun _ => next

end LogControl

end ScannerHub
