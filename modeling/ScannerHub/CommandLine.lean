/-!
# Command line

The options of the daemon. Options with a value take it from behind an equals sign or from the
next argument.

* `CommandLine.parse` — what a list of arguments asks for.
-/

namespace ScannerHub

-- ---------------------------------------------------------------------------
-- Options
-- ---------------------------------------------------------------------------

/-- The options of a run. -/
structure Options where
  debug : Bool := false
  config : Option String := none
  stateFile : Option String := none
  pidFile : Option String := none
  logLevel : Option String := none
  logDomains : Option String := none
deriving DecidableEq, Repr

/-- What the arguments ask for: a run, or an exit with a status and a text on one of the two
output streams. -/
inductive CommandLine where
  | run (options : Options)
  | exit (status : Nat) (output error : String)
deriving DecidableEq, Repr

/-- An option that has a value. -/
inductive ValueOption where
  | config
  | stateFile
  | pidFile
  | logLevel
  | logDomains
deriving DecidableEq, Repr

namespace ValueOption

def name : ValueOption → String
  | config => "--config"
  | stateFile => "--state-file"
  | pidFile => "--pid-file"
  | logLevel => "--log-level"
  | logDomains => "--log-domains"

def ofName? (text : String) : Option ValueOption :=
  [config, stateFile, pidFile, logLevel, logDomains].find? fun o => o.name == text

/-- Sets an option; a later value replaces an earlier one. -/
def set (o : ValueOption) (options : Options) (value : String) : Options :=
  match o with
  | config => { options with config := some value }
  | stateFile => { options with stateFile := some value }
  | pidFile => { options with pidFile := some value }
  | logLevel => { options with logLevel := some value }
  | logDomains => { options with logDomains := some value }

end ValueOption

namespace CommandLine

-- ---------------------------------------------------------------------------
-- Texts
-- ---------------------------------------------------------------------------

def versionText : String :=
  "Barcode Manager 0.9.0\n" ++
  "Copyright (C) 2026 The Barcode Manager Authors\n" ++
  "License: MIT\n"

/-- The text that explains the options of a program with a name. -/
def helpText (program : String) : String :=
  "Usage: " ++ program ++ " [OPTIONS]\n" ++
  "\n" ++
  "Device and connection manager for barcode scanners.\n" ++
  "\n" ++
  "Options:\n" ++
  "  -h, --help              Show this help message and exit\n" ++
  "  -v, --version           Show version information and exit\n" ++
  "  -d, --debug             Enable debug logging\n" ++
  "  -n, --no-daemon         Stay in the foreground (always the case)\n" ++
  "  --config PATH           Configuration file (default " ++
  "/etc/barcode-manager/barcode-manager.conf)\n" ++
  "  --state-file PATH       State file overriding the configured one\n" ++
  "  --pid-file PATH         Write the process id to PATH\n" ++
  "  --log-level LEVEL       ERR, WARN, INFO or DEBUG\n" ++
  "  --log-domains LIST      Comma separated log domains, or ALL\n" ++
  "\n" ++
  "Environment variables:\n" ++
  "  RUST_LOG                Set log filter (overrides --log-level)\n"

-- ---------------------------------------------------------------------------
-- Arguments
-- ---------------------------------------------------------------------------

/-- Splits an argument with two hyphens in front at its first equals sign. -/
def splitArgument (argument : String) : String × Option String :=
  let cs := argument.toList
  let name := cs.takeWhile (· != '=')
  match cs.dropWhile (· != '=') with
  | _ :: value =>
    if "--".toList.isPrefixOf name then (String.ofList name, some (String.ofList value))
    else (argument, none)
  | [] => (argument, none)

/-- The options that arguments set, on top of those that are set already. -/
def parseFrom (program : String) (options : Options) : List String → CommandLine
  | [] => .run options
  | argument :: rest =>
    -- the first argument that asks for a text or is wrong decides
    let (name, inline) := splitArgument argument
    if name = "-h" ∨ name = "--help" then .exit 0 (helpText program) ""
    else if name = "-v" ∨ name = "--version" then .exit 0 versionText ""
    else if name = "-d" ∨ name = "--debug" then
      parseFrom program { options with debug := true } rest
    else if name = "-n" ∨ name = "--no-daemon" then parseFrom program options rest
    else match ValueOption.ofName? name with
      | some o =>
        match inline with
        | some value => parseFrom program (o.set options value) rest
        | none =>
          match rest with
          | value :: rest => parseFrom program (o.set options value) rest
          | [] => .exit 1 "" s!"Option '{name}' needs a value.\n"
      | none =>
        .exit 1 "" s!"Unknown option: {argument}\nTry '--help' for more information.\n"

/-- What a list of arguments asks for. -/
def parse (program : String) (arguments : List String) : CommandLine :=
  parseFrom program {} arguments

end CommandLine

end ScannerHub
