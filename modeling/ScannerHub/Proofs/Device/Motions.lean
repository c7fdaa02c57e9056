import ScannerHub.Proofs.Device.Constancy

/-!
# Where operations lead

What a device is told decides where it may go. Orders to stop lead to states in which nothing is under
way. What drives an activation on leads through the pipeline or to a failure, which is then the last
thing that the device tells, and it does nothing at all unless an activation is under way. Neither
starts an activation, and neither makes a device that a user stopped free again.

* `DeviceEvent.halts`, `DeviceEvent.drives` — what such operations tell;
* `Device.Halts`, `Device.Drives` — the two groups of operations.

## Results

* `Halts.tells`, `Drives.tells` — what the operations of a group tell;
* `Drives.idle` — nothing is driven on that is not under way;
* `failed_last` — a failure is the last thing that is told;
* `Halts.inhibited`, `Drives.inhibited` — a device that a user stopped stays down.
-/

namespace ScannerHub

/-- The states in which no activation is under way, and none has just failed. -/
def DeviceState.isDown : DeviceState → Bool
  | unmanaged | unavailable | disconnected => true
  | _ => false

/-- The states into which an activation is driven once it has started. -/
def DeviceState.isDriven : DeviceState → Bool
  | config | needAuth | ipConfig | activated | failed => true
  | _ => false

namespace DeviceEvent

/-- Whether an event tells that a device has been stopped. -/
def halts : DeviceEvent → Bool
  | stateChanged _ new _ _ => new.isDown
  | _ => false

/-- Whether an event tells of an activation that goes on, or fails. Secrets are asked for in no other
setting than that of the link. -/
def drives : DeviceEvent → Bool
  | stateChanged _ new _ _ => new.isDriven
  | needSecrets _ need => need.setting == bluetoothSettingName
  | linkRequested _ _ => true

end DeviceEvent

namespace Device

variable {d : Device} {u : Update} {now : Nat} {c : Connection} {P : DeviceEvent → Bool}

/-- All that an operation tells is of one kind. -/
def Tells (P : DeviceEvent → Bool) (u : Update) : Prop := ∀ e ∈ u.events, P e = true

theorem Tells.unchanged (d : Device) : Tells P d.unchanged := nofun

theorem Tells.moveTo {new : DeviceState} {reason : StateReason}
    (h : P (.stateChanged d.id new d.state reason) = true) : Tells P (d.moveTo new reason) := by
  intro e he
  unfold Device.moveTo at he
  split at he
  · cases he
  · split at he
    · rw [List.mem_singleton.mp he]
      exact h
    · cases he

theorem Tells.andThen {next : Device → Update} (h : Tells P u) (h' : Tells P (next u.device)) :
    Tells P (u.andThen next) := by
  unfold Update.andThen
  split
  · exact h
  · exact fun e he => (List.mem_append.mp he).elim (h e) (h' e)

theorem Tells.announce {event : DeviceEvent} (h : P event = true) : Tells P (d.announce event) := by
  intro e he
  rw [List.mem_singleton.mp he]
  exact h

-- ---------------------------------------------------------------------------
-- Orders to stop
-- ---------------------------------------------------------------------------

/-- The operations that stop a device, or decide whether it can be used. -/
inductive Halts : (Device → Update) → Prop where
  | stop (reason : StateReason) : Halts fun d => d.deactivate reason
  | stopForUser : Halts fun d => { d with autoconnectInhibited := true }.deactivate .userRequested
  | manage (managed : Bool) (reason : StateReason) : Halts fun d => d.setManaged managed reason
  | firmware (missing : Bool) : Halts fun d => d.setFirmwareMissing missing

theorem setManaged_tells (d : Device) (managed : Bool) (reason : StateReason) :
    Tells DeviceEvent.halts (d.setManaged managed reason) := by
  unfold setManaged
  split
  · exact .unchanged d
  · split
    · refine Tells.andThen (.moveTo rfl) ?_
      split
      · exact .moveTo rfl
      · exact .unchanged _
    · exact .moveTo rfl

theorem deactivate_tells (d : Device) (reason : StateReason) :
    Tells DeviceEvent.halts (d.deactivate reason) := by
  unfold deactivate
  dsimp only
  split
  · exact .moveTo rfl
  · exact .unchanged _

theorem Halts.tells {f : Device → Update} (hf : Halts f) (d : Device) :
    Tells DeviceEvent.halts (f d) := by
  cases hf with
  | stop reason => exact deactivate_tells d reason
  | stopForUser => exact deactivate_tells _ _
  | manage managed reason => exact setManaged_tells d managed reason
  | firmware missing =>
    dsimp only
    unfold setFirmwareMissing
    split
    · exact .unchanged d
    · dsimp only
      split
      · split
        · exact .moveTo rfl
        · exact .unchanged _
      · split
        · exact .moveTo rfl
        · exact .unchanged _

theorem Halts.carries {f : Device → Update} (hf : Halts f) (hListen : d.AllListen)
    (hSound : d.Sound) : Carries d (f d) := by
  cases hf with
  | stop reason => exact deactivate_carries reason hListen hSound
  | stopForUser => exact Order.stopForUser.carries hListen hSound
  | manage managed reason => exact setManaged_carries managed reason hListen hSound
  | firmware missing => exact setFirmwareMissing_carries missing hListen hSound

theorem setManaged_inhibited (d : Device) (managed : Bool) (reason : StateReason) :
    (d.setManaged managed reason).device.autoconnectInhibited = d.autoconnectInhibited := by
  unfold setManaged
  split
  · rfl
  · split
    · refine ((moveTo_proceeds { d with managed } .unavailable reason).andThen ?_).flags.inhibited
      split
      · exact moveTo_proceeds _ .disconnected .none
      · exact .unchanged _
    · exact (moveTo_proceeds _ .unmanaged reason).flags.inhibited

theorem deactivate_inhibited (d : Device) (reason : StateReason) :
    (d.deactivate reason).device.autoconnectInhibited = d.autoconnectInhibited := by
  unfold deactivate
  dsimp only
  split
  · exact (moveTo_proceeds _ _ _).flags.inhibited
  · rfl

/-- A device that a user stopped stays down. -/
theorem Halts.inhibited {f : Device → Update} (hf : Halts f)
    (h : d.autoconnectInhibited = true) : (f d).device.autoconnectInhibited = true := by
  cases hf with
  | stop reason => exact (deactivate_inhibited d reason).trans h
  | stopForUser => exact deactivate_inhibited _ _
  | manage managed reason => exact (setManaged_inhibited d managed reason).trans h
  | firmware missing => exact (setFirmwareMissing_proceeds d missing).flags.inhibited.trans h

-- ---------------------------------------------------------------------------
-- What drives an activation on
-- ---------------------------------------------------------------------------

/-- The operations that drive an activation on, or fail it. -/
inductive Drives : (Device → Update) → Prop where
  | failAuth : Drives failAuth
  | fail (reason : StateReason) : Drives fun d => d.moveTo .failed reason
  | link (now : Nat) (c : Connection) (up : Bool) : Drives fun d => d.linkChanged now c up
  | poll (now : Nat) : Drives fun d => d.pollDeadline now
  | secrets (now : Nat) (c : Connection) (setting : String) :
    Drives fun d => d.secretsUpdated now c setting

/-- An outcome that asks for secrets asks for those of the link. -/
def AsksForLink (outcome : StageOutcome) : Prop :=
  ∀ need, outcome = .needSecrets need → need.setting = bluetoothSettingName

theorem lastStage_tells (stages : Nat) (d : Device) {outcome : StageOutcome}
    (hNe : outcome ≠ .success) (hAsks : AsksForLink outcome) :
    Tells DeviceEvent.drives (followStages now c stages d outcome) := by
  cases outcome with
  | success => exact absurd rfl hNe
  | postpone => cases stages <;> exact .unchanged d
  | waitForLink request => cases stages <;> exact .announce rfl
  | failure reason => cases stages <;> exact Tells.moveTo (P := DeviceEvent.drives) rfl
  | needSecrets need =>
    have hNeed : DeviceEvent.drives (.needSecrets d.id need) = true :=
      beq_iff_eq.mpr (hAsks need rfl)
    have hMoved : Tells DeviceEvent.drives (d.moveTo .needAuth .none) := .moveTo rfl
    have hId : (d.moveTo .needAuth .none).device.id = d.id := (moveTo_endures d _ _).id
    have hBoth : Tells DeviceEvent.drives
        (if (d.moveTo .needAuth .none).error.isSome then { d.moveTo .needAuth .none with error := none }
          else (d.moveTo .needAuth .none).andThen fun d => d.announce (.needSecrets d.id need)) := by
      split
      · exact hMoved
      · exact hMoved.andThen (.announce (hId ▸ hNeed))
    cases stages <;> exact hBoth

/-- No stage that runs on its own asks for secrets. -/
theorem runStage_asks {e : Device} {outcome : StageOutcome}
    (h : d.runStage now c = some (e, outcome)) : AsksForLink outcome := by
  unfold runStage at h
  split at h
  · cases h
    split
    · split <;> nofun
    · split <;> nofun
    · nofun
  · cases h
    nofun
  · cases h

theorem followStages_tells (now : Nat) (c : Connection) (stages : Nat) (d : Device)
    (outcome : StageOutcome) (hAsks : AsksForLink outcome) :
    Tells DeviceEvent.drives (followStages now c stages d outcome) := by
  induction stages generalizing d outcome with
  | zero =>
    by_cases hNe : outcome = .success
    · rw [hNe]
      exact .unchanged d
    · exact lastStage_tells 0 d hNe hAsks
  | succ stages ih =>
    by_cases hNe : outcome = .success
    · rw [hNe]
      unfold followStages
      split
      · exact .unchanged d
      · rename_i next hNext
        have hMoved : Tells DeviceEvent.drives (d.moveTo next .none) := by
          refine .moveTo ?_
          show next.isDriven = true
          revert hNext
          cases d.state <;> intro hNext <;> cases hNext <;> rfl
        dsimp only
        split
        · exact hMoved
        · refine hMoved.andThen ?_
          split
          · exact .unchanged _
          · rename_i hRun
            exact ih _ _ (runStage_asks hRun)
    · exact lastStage_tells (stages + 1) d hNe hAsks

theorem afterLinkUp_asks (c : Connection) (profile : BluetoothProfile) :
    AsksForLink (Hardware.afterLinkUp c profile) := by
  have hPin : ∀ known : Bool, AsksForLink (if known then .success else
      .needSecrets { setting := bluetoothSettingName, hints := ["pin"], requestNew := false }) := by
    intro known need hNeed
    cases known with
    | true => cases hNeed
    | false =>
      cases hNeed
      rfl
  cases profile with
  | panu => nofun
  | dun => exact hPin _

theorem linkChanged_asks (h : Hardware) (c : Connection) (up : Bool) :
    AsksForLink (h.linkChanged c up).2 := by
  unfold Hardware.linkChanged
  split
  · split
    · exact afterLinkUp_asks c _
    · nofun
    · nofun
    · nofun
  · nofun

/-- Secrets that are still missing are not asked for again. -/
theorem secretsUpdated_asks (h : Hardware) (c : Connection) (setting : String) :
    AsksForLink (h.secretsUpdated c setting) := by
  unfold Hardware.secretsUpdated
  split
  · split
    · nofun
    · split
      · nofun
      · split
        · nofun
        · exact afterLinkUp_asks c _
  · nofun

theorem Drives.tells {f : Device → Update} (hf : Drives f) (d : Device) :
    Tells DeviceEvent.drives (f d) := by
  cases hf with
  | failAuth =>
    unfold Device.failAuth
    split
    · exact .moveTo rfl
    · exact .unchanged d
  | fail reason => exact .moveTo rfl
  | link now c up =>
    dsimp only
    unfold linkChanged
    split
    · exact .unchanged d
    · exact followStages_tells now c 3 _ _ (linkChanged_asks _ c up)
  | poll now =>
    dsimp only
    unfold pollDeadline
    dsimp only
    split
    · split
      · exact Tells.moveTo (P := DeviceEvent.drives) rfl
      · exact .unchanged _
    · exact .unchanged _
  | secrets now c setting =>
    dsimp only
    unfold secretsUpdated
    split
    · exact .unchanged d
    · exact followStages_tells now c 3 _ _ (secretsUpdated_asks _ c setting)

/-- No edge leads to a failure from where no activation is under way. -/
theorem moveTo_failed_idle (reason : StateReason) (h : d.state.isActive = false) :
    (d.moveTo .failed reason).events = [] := by
  unfold moveTo
  split
  · rfl
  · rw [if_neg]
    intro hMove
    revert h hMove
    cases d.state <;> decide

/-- A device that is disconnected goes on with nothing that was not under way before. -/
theorem active_of_moveTo_disconnected {reason : StateReason}
    (h : (d.moveTo .disconnected reason).device.state.isActive = true) : d.state.isActive = true := by
  unfold moveTo at h
  split at h
  · exact h
  · split at h
    · cases h
    · exact h

/-- Nothing is driven on that is not under way. -/
theorem Drives.idle {f : Device → Update} (hf : Drives f) (h : d.state.isActive = false) :
    (f d).events = [] := by
  have hAuth : d.state ≠ .needAuth := by
    rintro hEq
    rw [hEq] at h
    cases h
  cases hf with
  | failAuth =>
    rw [failAuth_unchanged hAuth]
    rfl
  | fail reason => exact moveTo_failed_idle reason h
  | link now c up =>
    dsimp only
    unfold linkChanged
    rw [h]
    rfl
  | poll now =>
    dsimp only
    unfold pollDeadline
    dsimp only
    split
    · rw [h]
      rfl
    · rfl
  | secrets now c setting =>
    dsimp only
    unfold secretsUpdated
    rw [if_pos hAuth]
    rfl

theorem Drives.proceeds {f : Device → Update} (hf : Drives f) (d : Device) : Proceeds d (f d) := by
  cases hf with
  | failAuth => exact failAuth_proceeds d
  | fail reason => exact moveTo_proceeds d .failed reason
  | link now c up => exact linkChanged_proceeds d now c up
  | poll now => exact pollDeadline_proceeds d now
  | secrets now c setting => exact secretsUpdated_proceeds d now c setting

/-- A device that a user stopped stays down. -/
theorem Drives.inhibited {f : Device → Update} (hf : Drives f)
    (h : d.autoconnectInhibited = true) : (f d).device.autoconnectInhibited = true :=
  (hf.proceeds d).flags.inhibited.trans h

end Device

-- ---------------------------------------------------------------------------
-- Failures
-- ---------------------------------------------------------------------------

theorem mem_entered_iff {events : List DeviceEvent} {t : DeviceState} :
    t ∈ entered events ↔ ∃ e ∈ events, e.entered? = some t :=
  List.mem_filterMap

/-- Nothing is driven on from a failure. -/
theorem Trail.entered_of_failed {t : DeviceState} {events : List DeviceEvent}
    (h : Trail .failed events t) (hDrives : ∀ e ∈ events, e.drives = true) : entered events = [] := by
  induction events with
  | nil => rfl
  | cons e events ih =>
    have hRest : ∀ e ∈ events, e.drives = true := fun e he => hDrives e (List.mem_cons_of_mem _ he)
    cases e with
    | stateChanged id new old reason =>
      have hNew : new.isDriven = true := hDrives _ List.mem_cons_self
      have hMove : DeviceState.canMove .failed new = true := h.2.1
      have hNone : ¬ (new.isDriven = true ∧ DeviceState.canMove .failed new = true) := by
        cases new <;> decide
      exact absurd ⟨hNew, hMove⟩ hNone
    | needSecrets id need => exact ih h hRest
    | linkRequested id request => exact ih h hRest

/-- A failure is the last thing that is told of an activation that is driven on. -/
theorem Trail.failed_last {s t : DeviceState} {events : List DeviceEvent} (h : Trail s events t)
    (hDrives : ∀ e ∈ events, e.drives = true) :
    (entered events).Pairwise fun a b => a.isActive = true ∨ b ≠ .failed := by
  induction events generalizing s with
  | nil => exact List.Pairwise.nil
  | cons e events ih =>
    have hRest : ∀ e ∈ events, e.drives = true := fun e he => hDrives e (List.mem_cons_of_mem _ he)
    cases e with
    | needSecrets id need => exact ih h hRest
    | linkRequested id request => exact ih h hRest
    | stateChanged id new old reason =>
      refine List.pairwise_cons.mpr ⟨fun b hb => ?_, ih h.2.2 hRest⟩
      have hNew : new.isDriven = true := hDrives _ List.mem_cons_self
      by_cases hFailed : new = .failed
      · have hTrail : Trail .failed events t := hFailed ▸ h.2.2
        change b ∈ entered events at hb
        rw [hTrail.entered_of_failed hRest] at hb
        cases hb
      · refine Or.inl ?_
        revert hNew hFailed
        cases new <;> decide

end ScannerHub
