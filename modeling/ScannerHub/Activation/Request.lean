import ScannerHub.Device.Pipeline
import ScannerHub.Sharing

/-!
# Activation requests

A request is one attempt to bring a connection up on a device. It follows the events of the
device from a queue of its own, holds a copy of the connection into which secrets are merged,
asks for secrets at most once at a time, and ends with one outcome that all waiters get.

Whatever a request wants from the outside is an `Effect`; an operation gives the request
afterwards and the effects in their order.

A request with a timeout has a deadline from its start on. As for links, the end of every timeout is a
moment that the clock can hold.

* `Request.processEvents` — works off the queue of device events;
* `Request.takeSecrets` — accepts the answer to the call that is outstanding, and no other;
* `Request.checkTimeout`, `Request.detach` — the other ends of a request.
-/

namespace ScannerHub

/-- Why a request ended without an active connection. -/
inductive ActivationError where
  | activationFailed (reason : StateReason)
  | timeoutExpired
deriving DecidableEq, Repr

def ActivationError.message : ActivationError → String
  | activationFailed r => s!"activation failed (reason '{r.name}')"
  | timeoutExpired => "timed out waiting for activation"

/-- How a request ended, or what a waiter got that did not want to wait. -/
inductive Outcome where
  | reached (state : ActiveState)
  | failed (error : ActivationError)
deriving DecidableEq, Repr

/-- A call for secrets: the request that made it and its number there. -/
structure SecretsCall where
  request : Nat
  seq : Nat
deriving DecidableEq, Repr

/-- What a settings service is asked for. -/
structure SecretsQuery where
  scope : Scope
  path : String
  setting : String
  hints : List String
  requestNew : Bool
deriving DecidableEq, Repr

/-- What a request wants from the outside. -/
inductive Effect where
  | askSecrets (call : SecretsCall) (query : SecretsQuery)
  | cancelSecrets (call : SecretsCall)
  | changeFilter (action : FilterAction) (rule : ShareRule)
  | answerWaiter (waiter : Nat) (outcome : Outcome)
deriving DecidableEq, Repr

/-- A call for secrets that was not answered yet, and the setting they are for. -/
structure PendingSecrets where
  call : SecretsCall
  setting : String
deriving DecidableEq, Repr

/-- What a new request is made from. -/
structure RequestSpec where
  connection : Connection
  path : String
  specific : Option String
  userRequested : Bool
  assumed : Bool
  /-- How long the activation may take, in milliseconds. -/
  timeout : Option Nat
  /-- Whether waiters get the present state at once. -/
  nowait : Bool
deriving DecidableEq

/-- One attempt to bring a connection up on a device. -/
structure Request where
  id : Nat
  connection : Connection
  /-- The path of the connection at its settings service. -/
  path : String
  specific : Option String
  device : Nat
  userRequested : Bool
  assumed : Bool
  nowait : Bool
  /-- The place among the subscribers of the device, until the request lets go of it. -/
  subscription : Option Nat
  /-- The device events that were not looked at yet. -/
  queue : List DeviceEvent
  state : ActiveState
  isDefault : Bool
  isDefault6 : Bool
  rules : List ShareRule
  shared : Bool
  secrets : Option PendingSecrets
  nextSeq : Nat
  deadline : Option Nat
  outcome : Option Outcome
  waiters : List Nat
deriving DecidableEq

namespace Request

/-- A new request, and the device with the request among its subscribers. -/
def start (id : Nat) (spec : RequestSpec) (now : Nat) (device : Device) : Request × Device :=
  ({ id, connection := spec.connection, path := spec.path, specific := spec.specific
     device := device.id, userRequested := spec.userRequested, assumed := spec.assumed
     nowait := spec.nowait, subscription := some device.nextSubscription, queue := []
     state := .ofDevice device.state, isDefault := false, isDefault6 := false, rules := []
     shared := false, secrets := none, nextSeq := 0
     deadline := spec.timeout.map fun t => now + t, outcome := none, waiters := [] },
   device.subscribe (.request id))

/-- The bus name of the service that the connection comes from. -/
def serviceName (r : Request) : String := r.connection.scope.serviceName

/-- The path of the specific object, which is the root when there is none. -/
def specificObject (r : Request) : String := r.specific.getD "/"

def isFinished (r : Request) : Bool := r.outcome.isSome

/-- Ends the request. The first outcome stays, and it answers everyone who waits. -/
def finish (r : Request) (outcome : Outcome) : Request × List Effect :=
  if r.outcome.isSome then (r, [])
  else
    ({ r with deadline := none, outcome := some outcome, waiters := [] },
     r.waiters.map fun w => .answerWaiter w outcome)

/-- Adds a waiter. It gets the outcome if there is one, and the present state if the request does
not let anyone wait. -/
def wait (r : Request) (waiter : Nat) : Request × List Effect :=
  match r.outcome with
  | some outcome => (r, [.answerWaiter waiter outcome])
  | none =>
    if r.nowait then (r, [.answerWaiter waiter (.reached r.state)])
    else ({ r with waiters := r.waiters ++ [waiter] }, [])

-- ---------------------------------------------------------------------------
-- Secrets
-- ---------------------------------------------------------------------------

/-- Gives up the outstanding call for secrets. -/
def cancelSecrets (r : Request) : Request × List Effect :=
  match r.secrets with
  | none => (r, [])
  | some pending => ({ r with secrets := none }, [.cancelSecrets pending.call])

/-- Asks for secrets, in place of an earlier call. -/
def askSecrets (r : Request) (need : SecretsNeed) : Request × List Effect :=
  -- the number is used up even if the call is given up later, so a late answer fits no other call
  let (r, effects) := r.cancelSecrets
  let call : SecretsCall := { request := r.id, seq := r.nextSeq }
  let query : SecretsQuery :=
    { scope := r.connection.scope, path := r.path, setting := need.setting, hints := need.hints
      requestNew := need.requestNew }
  ({ r with nextSeq := r.nextSeq + 1, secrets := some { call, setting := need.setting } },
   effects ++ [.askSecrets call query])

/-- Takes the answer to a call. Nothing comes of an answer to any other call than the outstanding
one. An answer gives the setting whose secrets were merged, or nothing if there are none. -/
def takeSecrets (r : Request) (call : SecretsCall) (answer : Except Error Settings) :
    Option (Request × Option String) :=
  match r.secrets with
  | none => none
  | some pending =>
    if pending.call ≠ call then none
    else
      let r := { r with secrets := none }
      match answer with
      | .error _ => some (r, none)
      | .ok secrets =>
        match r.connection.mergeSecrets pending.setting secrets with
        | .error _ => some (r, none)
        | .ok connection => some ({ r with connection }, some pending.setting)

-- ---------------------------------------------------------------------------
-- Device events
-- ---------------------------------------------------------------------------

/-- Follows the device to a new state. -/
def followState (r : Request) (new : DeviceState) (reason : StateReason) :
    Request × List Effect :=
  let state := ActiveState.ofDevice new
  -- a connection that is no longer up is no default
  let r := if state = .unknown then { r with isDefault := false, isDefault6 := false } else r
  let (r, effects) := match new with
    | .activated => r.finish (.reached .activated)
    | .failed | .disconnected | .unavailable | .unmanaged =>
      r.finish (.failed (.activationFailed reason))
    | _ => (r, [])
  ({ r with state }, effects)

/-- Looks at one device event. -/
def handleEvent (r : Request) : DeviceEvent → Request × List Effect
  | .stateChanged _ new _ reason => r.followState new reason
  | .needSecrets _ need => r.askSecrets need
  | .linkRequested _ _ => (r, [])

/-- What working off device events did to a request. -/
structure Progress where
  request : Request
  effects : List Effect
  stateChanged : Bool
  finished : Bool

/-- Looks at one more device event. -/
def Progress.advance (p : Progress) (event : DeviceEvent) : Progress :=
  let (request, effects) := p.request.handleEvent event
  { request
    effects := p.effects ++ effects
    stateChanged := p.stateChanged || request.state != p.request.state
    finished := p.finished || (!p.request.isFinished && request.isFinished) }

/-- Works off the queue of device events. -/
def processEvents (r : Request) : Progress :=
  r.queue.foldl Progress.advance
    { request := { r with queue := [] }, effects := [], stateChanged := false
      finished := false }

-- ---------------------------------------------------------------------------
-- Sharing
-- ---------------------------------------------------------------------------

/-- Adds a share rule, behind the others. -/
def addRule (r : Request) (rule : ShareRule) : Request :=
  { r with rules := r.rules ++ [rule] }

/-- Inserts the share rules in their order, or deletes them in the opposite order and forgets
them. -/
def setShared (r : Request) (shared : Bool) : Request × List Effect :=
  if shared then
    ({ r with shared }, r.rules.map fun rule => .changeFilter .insert rule)
  else
    ({ r with shared, rules := [] }, r.rules.reverse.map fun rule => .changeFilter .delete rule)

-- ---------------------------------------------------------------------------
-- Timeout and end
-- ---------------------------------------------------------------------------

/-- Ends the request once its deadline has passed; the device is left alone. -/
def checkTimeout (r : Request) (now : Nat) : Request × List Effect × Bool :=
  match r.deadline with
  | none => (r, [], false)
  | some deadline =>
    if deadline ≤ now ∧ r.outcome = none then
      let (r, effects) := r.finish (.failed .timeoutExpired)
      (r, effects, true)
    else (r, [], false)

/-- The device without the request among its subscribers. -/
def leave (r : Request) (device : Device) : Device :=
  match r.subscription with
  | some s => device.unsubscribe s
  | none => device

/-- Ends a request that no longer follows its device: its call for secrets, its share rules and
everyone who waits. -/
def detach (r : Request) (reason : StateReason) : Request × List Effect :=
  let (r, cancelled) := { r with subscription := none }.cancelSecrets
  let (r, deleted) :=
    if r.shared || !r.rules.isEmpty then r.setShared false else (r, [])
  let (r, answered) := r.finish (.failed (.activationFailed reason))
  (r, cancelled ++ deleted ++ answered)

end Request

end ScannerHub
