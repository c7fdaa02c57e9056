import ScannerHub.Proofs.Device.Lifecycle

/-!
# Whoever listens

What a device does is up to its state, its hardware and what is asked of it. Who listens does not
matter: the device with other subscribers does the same and tells the same. So what is known of devices
without subscribers that are gone holds of all.

* `Device.heardBy` — the device with other subscribers.

## Results

* `followStages_heardBy` — the pipeline does not depend on who listens;
* `setManaged_heardBy`, `setFirmwareMissing_heardBy`, `deactivate_heardBy`, `activate_heardBy`,
  `linkChanged_heardBy`, `secretsUpdated_heardBy`, `pollDeadline_heardBy` — nor do the operations.
-/

namespace ScannerHub

/-- The device with other subscribers. -/
def Device.heardBy (d : Device) (subs : List Subscription) : Device := { d with subscribers := subs }

def Update.heardBy (u : Update) (subs : List Subscription) : Update :=
  { u with device := u.device.heardBy subs }

namespace Device

variable {subs : List Subscription}

/-- Nobody is gone who never was there. -/
theorem allListen_unheard (d : Device) : (d.heardBy []).AllListen :=
  fun _ hs => absurd hs List.not_mem_nil

-- ---------------------------------------------------------------------------
-- Moves and stages
-- ---------------------------------------------------------------------------

theorem announce_heardBy (hOpen : ∀ s ∈ subs, s.closed = false) (d : Device) (event : DeviceEvent) :
    (d.heardBy subs).announce event = (d.announce event).heardBy subs :=
  announce_eq (d := d.heardBy subs) hOpen event

theorem moveTo_heardBy (hOpen : ∀ s ∈ subs, s.closed = false) (d : Device) (new : DeviceState)
    (reason : StateReason) : (d.heardBy subs).moveTo new reason = (d.moveTo new reason).heardBy subs := by
  unfold moveTo
  change (if d.state = new then _ else if d.state.canMove new then _ else _) = _
  split
  · rfl
  · split
    · exact announce_heardBy hOpen (d.enter new) _
    · rfl

theorem andThen_heardBy (u : Update) {next : Device → Update}
    (hNext : ∀ d, next (d.heardBy subs) = (next d).heardBy subs) :
    (u.heardBy subs).andThen next = (u.andThen next).heardBy subs := by
  unfold Update.andThen
  change (if u.error.isSome then _ else _) = _
  split
  · rfl
  · show ({ next (u.device.heardBy subs) with
      events := u.events ++ (next (u.device.heardBy subs)).events } : Update) = _
    rw [hNext]
    rfl

theorem runStage_heardBy (d : Device) (now : Nat) (c : Connection) :
    (d.heardBy subs).runStage now c = (d.runStage now c).map fun s => (s.1.heardBy subs, s.2) := by
  unfold runStage
  rw [show (d.heardBy subs).state = d.state from rfl]
  cases d.state <;> rfl

/-- A stage that cannot be entered ends the pipeline, whoever listens. -/
theorem entered_heardBy (hOpen : ∀ s ∈ subs, s.closed = false) (d : Device) (new : DeviceState)
    (next : Device → Update) (hNext : ∀ d, next (d.heardBy subs) = (next d).heardBy subs) :
    (if ((d.heardBy subs).moveTo new .none).error.isSome then
      { (d.heardBy subs).moveTo new .none with error := none }
    else ((d.heardBy subs).moveTo new .none).andThen next) =
      (if (d.moveTo new .none).error.isSome then { d.moveTo new .none with error := none }
      else (d.moveTo new .none).andThen next : Update).heardBy subs := by
  rw [moveTo_heardBy hOpen, andThen_heardBy _ hNext]
  change (if (d.moveTo new .none).error.isSome then _ else _) = _
  split <;> rfl

theorem failed_heardBy (hOpen : ∀ s ∈ subs, s.closed = false) (d : Device) (reason : StateReason) :
    ({ (d.heardBy subs).moveTo .failed reason with error := none } : Update) =
      ({ d.moveTo .failed reason with error := none } : Update).heardBy subs := by
  rw [moveTo_heardBy hOpen]
  rfl

theorem needAuth_heardBy (hOpen : ∀ s ∈ subs, s.closed = false) (now : Nat) (c : Connection)
    (stages : Nat) (d : Device) (need : SecretsNeed) :
    followStages now c stages (d.heardBy subs) (.needSecrets need) =
      (followStages now c stages d (.needSecrets need)).heardBy subs := by
  cases stages <;>
  · unfold followStages
    exact entered_heardBy hOpen d .needAuth (fun d => d.announce (.needSecrets d.id need))
      fun d => announce_heardBy hOpen d _

theorem followStages_heardBy (hOpen : ∀ s ∈ subs, s.closed = false) (now : Nat) (c : Connection)
    (stages : Nat) (d : Device) (outcome : StageOutcome) :
    followStages now c stages (d.heardBy subs) outcome =
      (followStages now c stages d outcome).heardBy subs := by
  induction stages generalizing d outcome with
  | zero =>
    cases outcome with
    | success | postpone => rfl
    | waitForLink request => exact announce_heardBy hOpen d _
    | needSecrets need => exact needAuth_heardBy hOpen now c 0 d need
    | failure reason => exact failed_heardBy hOpen d reason
  | succ stages ih =>
    cases outcome with
    | postpone => rfl
    | waitForLink request => exact announce_heardBy hOpen d _
    | needSecrets need => exact needAuth_heardBy hOpen now c (stages + 1) d need
    | failure reason => exact failed_heardBy hOpen d reason
    | success =>
      unfold followStages
      rw [show (d.heardBy subs).state = d.state from rfl]
      cases nextStage? d.state with
      | none => rfl
      | some next =>
        refine entered_heardBy hOpen d next _ fun e => ?_
        rw [runStage_heardBy]
        cases e.runStage now c with
        | none => rfl
        | some s => exact ih s.1 s.2

-- ---------------------------------------------------------------------------
-- Operations
-- ---------------------------------------------------------------------------

theorem setManaged_heardBy (hOpen : ∀ s ∈ subs, s.closed = false) (d : Device) (managed : Bool)
    (reason : StateReason) :
    (d.heardBy subs).setManaged managed reason = (d.setManaged managed reason).heardBy subs := by
  unfold setManaged
  change (if managed = d.managed then _ else _) = _
  split
  · rfl
  · split
    · rw [show ({ d.heardBy subs with managed } : Device) = ({ d with managed } : Device).heardBy subs
        from rfl, moveTo_heardBy hOpen]
      refine andThen_heardBy _ fun e => ?_
      rw [show (e.heardBy subs).isAvailable = e.isAvailable from rfl]
      split
      · exact moveTo_heardBy hOpen e .disconnected .none
      · rfl
    · exact moveTo_heardBy hOpen { d with managed, activationScheduled := false } .unmanaged reason

theorem setFirmwareMissing_heardBy (hOpen : ∀ s ∈ subs, s.closed = false) (d : Device)
    (missing : Bool) :
    (d.heardBy subs).setFirmwareMissing missing = (d.setFirmwareMissing missing).heardBy subs := by
  unfold setFirmwareMissing
  change (if missing = d.firmwareMissing then _ else _) = _
  split
  · rfl
  · change (if missing then (if d.state = .disconnected then _ else _)
      else (if d.state = .unavailable ∧ d.managed ∧
        ({ d with firmwareMissing := missing } : Device).isAvailable then _ else _)) = _
    dsimp only
    split
    · split
      · exact moveTo_heardBy hOpen { d with firmwareMissing := missing } .unavailable .firmwareMissing
      · rfl
    · split
      · exact moveTo_heardBy hOpen { d with firmwareMissing := missing } .disconnected .none
      · rfl

theorem deactivate_heardBy (hOpen : ∀ s ∈ subs, s.closed = false) (d : Device) (reason : StateReason) :
    (d.heardBy subs).deactivate reason = (d.deactivate reason).heardBy subs := by
  unfold deactivate
  change (if d.state.isActive || d.state == .failed then _ else _) =
    (if d.state.isActive || d.state == .failed then _ else _ : Update).heardBy subs
  split
  · exact moveTo_heardBy hOpen { d with activationScheduled := false } .disconnected reason
  · rfl

theorem activate_heardBy (hOpen : ∀ s ∈ subs, s.closed = false) (d : Device) (now : Nat)
    (c : Connection) : (d.heardBy subs).activate now c = (d.activate now c).heardBy subs := by
  by_cases hState : d.state = .disconnected
  · cases hCheck : d.check c with
    | error e =>
      rw [activate_of_misfit now hState hCheck, activate_of_misfit (d := d.heardBy subs) now hState hCheck]
      rfl
    | ok _ =>
      rw [activate_of_fit now hState hCheck, activate_of_fit (d := d.heardBy subs) now hState hCheck]
      show ((({ d with activationScheduled := false } : Device).heardBy subs).moveTo .prepare .none).andThen
        _ = _
      rw [moveTo_heardBy hOpen]
      exact andThen_heardBy _ fun f => followStages_heardBy hOpen now c 3 f .success
  · rw [activate_of_busy now c hState, activate_of_busy (d := d.heardBy subs) now c hState]
    rfl

theorem linkChanged_heardBy (hOpen : ∀ s ∈ subs, s.closed = false) (d : Device) (now : Nat)
    (c : Connection) (up : Bool) :
    (d.heardBy subs).linkChanged now c up = (d.linkChanged now c up).heardBy subs := by
  unfold linkChanged
  rw [show (d.heardBy subs).state = d.state from rfl]
  split
  · rfl
  · exact followStages_heardBy hOpen now c 3 { d with hardware := (d.hardware.linkChanged c up).1 } _

theorem secretsUpdated_heardBy (hOpen : ∀ s ∈ subs, s.closed = false) (d : Device) (now : Nat)
    (c : Connection) (setting : String) :
    (d.heardBy subs).secretsUpdated now c setting = (d.secretsUpdated now c setting).heardBy subs := by
  unfold secretsUpdated
  rw [show (d.heardBy subs).state = d.state from rfl]
  split
  · rfl
  · exact followStages_heardBy hOpen now c 3 d _

theorem pollDeadline_heardBy (hOpen : ∀ s ∈ subs, s.closed = false) (d : Device) (now : Nat) :
    (d.heardBy subs).pollDeadline now = (d.pollDeadline now).heardBy subs := by
  unfold pollDeadline
  rw [show (d.heardBy subs).hardware = d.hardware from rfl]
  obtain ⟨hardware, reason⟩ := d.hardware.deadlineExpired now
  cases reason with
  | none => rfl
  | some reason =>
    change (if d.state.isActive then _ else _) = (if d.state.isActive then _ else _ : Update).heardBy subs
    split
    · exact failed_heardBy hOpen { d with hardware } reason
    · rfl

end Device

end ScannerHub
