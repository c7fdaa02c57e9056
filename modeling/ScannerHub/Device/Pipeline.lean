import ScannerHub.Device.Basic

/-!
# The activation pipeline

An activation takes a device through the stages prepare, config and ip-config. A stage that ends
well leads to the next one; a stage may also wait for a link, ask for secrets, or fail.

* `Device.activate` — starts an activation on a disconnected device;
* `Device.secretsUpdated`, `Device.linkChanged`, `Device.pollDeadline` — what drives it on.
-/

namespace ScannerHub.Device

/-- The state that follows a stage that ended well. -/
def nextStage? : DeviceState → Option DeviceState
  | .prepare => some .config
  | .config | .needAuth => some .ipConfig
  | .ipConfig => some .activated
  | _ => none

/-- Runs the stage of the state just entered. -/
def runStage (d : Device) (now : Nat) (c : Connection) : Option (Device × StageOutcome) :=
  match d.state with
  | .config =>
    let (hardware, outcome) := d.hardware.configStage now c
    some ({ d with hardware }, outcome)
  | .ipConfig => some (d, .success)
  | _ => none

/-- Follows the pipeline from the outcome of a stage to where it ends or waits. The number bounds
how many stages may still be entered. -/
def followStages (now : Nat) (c : Connection) : Nat → Device → StageOutcome → Update
  | stages + 1, d, .success =>
    match nextStage? d.state with
    | none => d.unchanged
    | some next =>
      -- a move that is refused ends the pipeline silently, where the device is
      let entered := d.moveTo next .none
      if entered.error.isSome then { entered with error := none }
      else entered.andThen fun d =>
        match d.runStage now c with
        | none => d.unchanged
        | some (d, outcome) => followStages now c stages d outcome
  | 0, d, .success => d.unchanged
  | _, d, .postpone => d.unchanged
  | _, d, .waitForLink request => d.announce (.linkRequested d.id request)
  | _, d, .needSecrets need =>
    let entered := d.moveTo .needAuth .none
    if entered.error.isSome then { entered with error := none }
    else entered.andThen fun d => d.announce (.needSecrets d.id need)
  | _, d, .failure reason => { d.moveTo .failed reason with error := none }

/-- Follows the pipeline to where it ends or waits. From any state at most three stages are left:
config, ip-config and the end. -/
def runStages (d : Device) (now : Nat) (c : Connection) (outcome : StageOutcome) : Update :=
  followStages now c 3 d outcome

/-- Starts an activation. The device must be disconnected, and the connection must fit. -/
def activate (d : Device) (now : Nat) (c : Connection) : Update :=
  let d := { d with activationScheduled := false }
  if d.state ≠ .disconnected then
    { device := d, events := [], error := some (.deviceNotAvailable d.interface) }
  else match d.check c with
    | .error e => { device := d, events := [], error := some (.connectionInvalid e.message) }
    | .ok () => (d.moveTo .prepare .none).andThen fun d => d.runStages now c .success

/-- Goes on with secrets for a setting that were merged into the connection. -/
def secretsUpdated (d : Device) (now : Nat) (c : Connection) (setting : String) : Update :=
  if d.state ≠ .needAuth then d.unchanged
  else d.runStages now c (d.hardware.secretsUpdated c setting)

/-- Goes on after a change of the link. -/
def linkChanged (d : Device) (now : Nat) (c : Connection) (up : Bool) : Update :=
  if !d.state.isActive then d.unchanged
  else
    let (hardware, outcome) := d.hardware.linkChanged c up
    { d with hardware }.runStages now c outcome

/-- When the device wants to be looked at again. -/
def deadline? (d : Device) : Option Nat := d.hardware.deadline?

/-- Fails the activation if the hardware gave up waiting. -/
def pollDeadline (d : Device) (now : Nat) : Update :=
  let (hardware, reason) := d.hardware.deadlineExpired now
  let d := { d with hardware }
  match reason with
  | some reason =>
    if d.state.isActive then { d.moveTo .failed reason with error := none } else d.unchanged
  | none => d.unchanged

end ScannerHub.Device
