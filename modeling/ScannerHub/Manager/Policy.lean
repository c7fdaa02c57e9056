import ScannerHub.Manager.Operations

/-!
# The default connection

The policy marks one activated request as the default: the one on the device with the lowest
rank, and of those the oldest. It looks again whenever an event may have changed the choice.

* `Policy.best?` — the request that should be the default;
* `Policy.handle` — the reaction to one event;
* `Policy.follow` — the reaction to all events that wait, with those that it causes.
-/

namespace ScannerHub

/-- The request that is marked as the default. -/
structure Policy where
  current : Option Nat
deriving DecidableEq, Repr

namespace Policy

/-- The policy before any event. -/
def start : Policy := { current := none }

/-- The rank of a request, if its device is activated and has one. -/
def rank? (m : Manager) (r : Request) : Option (Nat × Nat) :=
  (m.device? r.device).bind fun d =>
    if d.state = .activated ∧ 0 < d.priority then some (d.priority, r.id) else none

/-- Whether one rank comes before another: the lower priority, then the older request. -/
def ranksBefore (a b : Nat × Nat) : Bool :=
  a.1 < b.1 || (a.1 == b.1 && a.2 < b.2)

/-- The request that should be the default. -/
def best? (m : Manager) : Option Nat :=
  let ranks := m.requests.filterMap (rank? m)
  let least := ranks.foldl (fun least r => match least with
    | none => some r
    | some l => if ranksBefore r l then some r else some l) none
  least.map Prod.snd

/-- Takes the mark from every other request before it gives it to the best one. -/
def update (m : Manager) : Policy × Manager :=
  let best := best? m
  let others := (m.requests.map Request.id).filter fun id => some id ≠ best
  let m := others.foldl (fun m id => m.setRequestDefault id false false) m
  let m := match best with
    | some id => m.setRequestDefault id true true
    | none => m
  ({ current := best }, m)

/-- Whether an event may change the choice. -/
def isConcerned : ManagerEvent → Bool
  | .deviceStateChanged _ _ _ _ | .deviceRemoved _ | .activeConnectionRemoved _
  | .stateChanged _ => true
  | _ => false

/-- Reacts to one event. -/
def handle (p : Policy) (m : Manager) (event : ManagerEvent) : Policy × Manager :=
  if isConcerned event then update m else (p, m)

/-- Reacts to events one after the other. -/
def handleAll (p : Policy) (m : Manager) (events : List ManagerEvent) : Policy × Manager :=
  events.foldl (fun s e => s.1.handle s.2 e) (p, m)

/-- Takes all events that wait and reacts to them. The events that this causes do not concern the
policy, so they are taken as they are. -/
def follow (p : Policy) (m : Manager) : Policy × Manager × List ManagerEvent :=
  let first := m.events
  let (p, m) := p.handleAll { m with events := [] } first
  (p, { m with events := [] }, first ++ m.events)

end Policy

end ScannerHub
