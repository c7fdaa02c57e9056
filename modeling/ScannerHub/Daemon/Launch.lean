import ScannerHub.CommandLine
import ScannerHub.Config
import ScannerHub.Daemon.Basic

/-!
# The start of the daemon

From the command line and the configuration file to the settings with which the daemon goes on the
bus, or to an early end.

* `Launch.ofArguments` — what a start with some arguments comes to.
-/

namespace ScannerHub

/-- The settings with which the daemon goes on the bus. -/
structure Launch where
  config : Config
  logging : LogControl
  /-- Where the process id is written. -/
  pidFile : Option String
deriving DecidableEq, Repr

/-- What a start comes to: the daemon runs, or the program ends with a status and a text on one of
the two output streams. -/
inductive Start where
  | run (launch : Launch)
  | exit (status : Nat) (output error : String)
deriving DecidableEq, Repr

namespace Launch

/-- The level and the domains to log: those of the command line come first, then the option to
debug, then the configuration. -/
def loggingOf (options : Options) (config : Config) : String × String :=
  let level := match options.logLevel with
    | some level => level
    | none => if options.debug then "DEBUG" else config.logLevel
  (level, options.logDomains.getD config.logDomains)

/-- The settings for options, with what is at the path of the configuration file. -/
def ofOptions (options : Options) (configNode : Option FileNode) : Start :=
  match Config.load configNode false with
  | .error e =>
    let path := options.config.getD Config.defaultPath
    .exit 1 "" ("Failed to load \"" ++ path ++ "\": " ++ e.message ++ "\n")
  | .ok config =>
    let config := { config with stateFile := options.stateFile.getD config.stateFile }
    let (level, domains) := loggingOf options config
    match LogControl.start level domains with
    | .error e => .exit 1 "" (e.message ++ "\n")
    | .ok logging => .run { config, logging, pidFile := options.pidFile }

/-- What a start of a program with arguments comes to; the files tell what is at a path. -/
def ofArguments (program : String) (arguments : List String)
    (nodeAt : String → Option FileNode) : Start :=
  match CommandLine.parse program arguments with
  | .exit status output error => .exit status output error
  | .run options => ofOptions options (nodeAt (options.config.getD Config.defaultPath))

/-- The daemon of a launch, with the stored flag and the time of day at the start. -/
def daemon (l : Launch) (store : StateStore) (epoch : Nat) : Daemon :=
  let timeout := l.config.activationTimeout * 1000
  .start (.start store l.config.allowedUids (some timeout) epoch) l.logging
    (l.config.connectTimeout * 1000)

end Launch

end ScannerHub
