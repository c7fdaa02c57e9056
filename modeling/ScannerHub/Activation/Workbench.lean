import ScannerHub.Activation.Request
import ScannerHub.Device.Pipeline

/-!
# One device with its requests

A workbench holds one device, the requests on it, and observers that note what the device tells
them. Nothing happens on it by itself: each request works off its queue when it is told to.

* `Workbench.updateDevice` — runs an operation on the device and delivers the events;
* `Workbench.updateRequest` — runs an operation on a request and notes its effects;
* `Workbench.replySecrets` — takes the answer to a call for secrets.
-/

namespace ScannerHub

/-- A device, its requests and its observers. -/
structure Workbench where
  device : Device
  /-- The requests in the order in which they were made; the place is the handle. -/
  requests : List Request
  observers : Nat
  waiters : Nat
  /-- The time since the start, in milliseconds. -/
  now : Nat
  /-- What observers heard and nobody took yet. -/
  heard : List (Nat × DeviceEvent)
  /-- The effects of requests that were not taken yet. -/
  effects : List Effect
deriving DecidableEq

namespace Workbench

/-- A workbench with nothing but a device. -/
def start (device : Device) : Workbench :=
  { device, requests := [], observers := 0, waiters := 0, now := 0, heard := [], effects := [] }

-- ---------------------------------------------------------------------------
-- Delivery
-- ---------------------------------------------------------------------------

/-- Hands device events to listeners: a request queues them, an observer notes them. -/
def deliver (w : Workbench) (listeners : List Listener) (events : List DeviceEvent) : Workbench :=
  { w with
    requests := w.requests.map fun r =>
      if Listener.request r.id ∈ listeners then { r with queue := r.queue ++ events } else r
    heard := w.heard ++ (List.range w.observers).flatMap fun n =>
      if Listener.observer n ∈ listeners then events.map fun e => (n, e) else [] }

/-- Runs an operation on the device and delivers the events. -/
def updateDevice (w : Workbench) (f : Device → Update) : Workbench × Except Error Unit :=
  let u := f w.device
  ({ w with device := u.device }.deliver w.device.listeners u.events,
   match u.error with
   | some e => .error e
   | none => .ok ())

def request? (w : Workbench) (id : Nat) : Option Request := w.requests[id]?

/-- Runs an operation on a request and notes its effects. -/
def updateRequest (w : Workbench) (id : Nat) (f : Request → Request × List Effect) : Workbench :=
  match w.request? id with
  | none => w
  | some r =>
    let (r, effects) := f r
    { w with requests := w.requests.set id r, effects := w.effects ++ effects }

/-- Adds an observer, which gets the next number. -/
def subscribe (w : Workbench) : Workbench × Nat :=
  ({ w with device := w.device.subscribe (.observer w.observers), observers := w.observers + 1 },
   w.observers)

/-- Takes an observer off the device; tells whether it was there. -/
def unsubscribe (w : Workbench) (observer : Nat) : Workbench × Bool :=
  match w.device.subscribers.find? fun s => s.listener == .observer observer with
  | none => (w, false)
  | some s => ({ w with device := w.device.unsubscribe s.id }, true)

/-- Makes a request on the device. -/
def startRequest (w : Workbench) (spec : RequestSpec) : Workbench × Nat :=
  let id := w.requests.length
  let (r, device) := Request.start id spec w.now w.device
  ({ w with device, requests := w.requests ++ [r] }, id)

/-- Lets a request work off its queue; tells whether its state changed and whether it ended. -/
def process (w : Workbench) (id : Nat) : Workbench × Bool × Bool :=
  match w.request? id with
  | none => (w, false, false)
  | some r =>
    let p := r.processEvents
    (w.updateRequest id fun _ => (p.request, p.effects), p.stateChanged, p.finished)

/-- Adds a waiter to a request; it gets the next number. -/
def wait (w : Workbench) (id : Nat) : Workbench × Nat :=
  ({ w with waiters := w.waiters + 1 }.updateRequest id fun r => r.wait w.waiters, w.waiters)

/-- Hands a request the answer to a call for secrets; tells whether it was waiting for it. Secrets
that were merged drive the device on, and without them the device fails. -/
def replySecrets (w : Workbench) (id : Nat) (call : SecretsCall)
    (answer : Except Error Settings) : Workbench × Bool :=
  match (w.request? id).bind fun r => r.takeSecrets call answer with
  | none => (w, false)
  | some (r, some setting) =>
    let w := w.updateRequest id fun _ => (r, [])
    ((w.updateDevice fun d => d.secretsUpdated w.now r.connection setting).1, true)
  | some (r, none) =>
    let w := w.updateRequest id fun _ => r.finish (.failed (.activationFailed .noSecrets))
    ((w.updateDevice fun d => d.moveTo .failed .noSecrets).1, true)

/-- Ends a request once its deadline has passed; tells whether it did. -/
def checkTimeout (w : Workbench) (id : Nat) : Workbench × Bool :=
  match w.request? id with
  | none => (w, false)
  | some r =>
    let (r, effects, expired) := r.checkTimeout w.now
    (w.updateRequest id fun _ => (r, effects), expired)

/-- Lets go of a request. It leaves the subscribers of the device only if the device is still
there. -/
def detach (w : Workbench) (id : Nat) (reason : StateReason) (hasDevice : Bool) : Workbench :=
  match w.request? id with
  | none => w
  | some r =>
    let w := if hasDevice then { w with device := r.leave w.device } else w
    w.updateRequest id fun r => r.detach reason

/-- Takes what was heard and the effects, so that they are not seen again. -/
def take (w : Workbench) : Workbench × List (Nat × DeviceEvent) × List Effect :=
  let grouped := (List.range w.observers).flatMap fun n => w.heard.filter fun h => h.1 == n
  ({ w with heard := [], effects := [] }, grouped, w.effects)

end Workbench

end ScannerHub
