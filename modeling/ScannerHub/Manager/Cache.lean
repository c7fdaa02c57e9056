import ScannerHub.Settings.Connection

/-!
# Cached connections

The connections that one settings service publishes, by their paths. They can be used only while
the service runs.

* `ConnectionCache.candidates` — the order in which connections are considered for an automatic
  activation: the most recently used one first, and of equal ones the lesser path.
-/

namespace ScannerHub

/-- The connections of one settings service. -/
structure ConnectionCache where
  running : Bool
  connections : Dict Connection
deriving DecidableEq

namespace ConnectionCache

/-- The cache of a service that was not seen yet. -/
def empty : ConnectionCache := { running := false, connections := ∅ }

/-- The connection at a path. -/
def get? (cache : ConnectionCache) (path : String) : Option Connection :=
  cache.connections.get? path

/-- Whether an entry comes before another one: it was used later, or its path is less. -/
def precedes (a b : String × Connection) : Bool :=
  b.2.timestamp < a.2.timestamp || (a.2.timestamp == b.2.timestamp && a.1 ≤ b.1)

/-- Puts an entry before the first one that it precedes. -/
def place (e : String × Connection) :
    List (String × Connection) → List (String × Connection)
  | [] => [e]
  | x :: xs => if precedes e x then e :: x :: xs else x :: place e xs

/-- The connections in the order in which they are considered for an automatic activation. -/
def candidates (cache : ConnectionCache) : List (String × Connection) :=
  if cache.running then cache.connections.entries.foldr place [] else []

end ConnectionCache

end ScannerHub
