import ScannerHub.Proofs.Device.Trail

/-!
# What stays with a device

Whatever is asked of a device, it stays the device that it was: it keeps its handle, its identity and
its kind, and the manager goes on hearing of it. That needs no invariant, as it is what each operation
does by itself.

The operations fall into two groups. Some decide whether the device is managed, and all others leave
that alone.

* `Device.Heard` — the manager listens to a device;
* `Device.Endures` — one device at two times;
* `Device.Urges`, `Device.Governs` — the two groups of operations.

## Results

* `Urges.endures`, `Governs.endures`, `activate_endures` — a device stays the one that it was;
* `Urges.trail`, `Governs.trail` — it tells of every change of its state;
* `Urges.managed` — the first group leaves alone whether the device is managed;
* `setManaged_true_managed` — the second one decides it.
-/

namespace ScannerHub

-- ---------------------------------------------------------------------------
-- The kind of the hardware
-- ---------------------------------------------------------------------------

namespace Hardware

theorem type_configStage (h : Hardware) (now : Nat) (c : Connection) :
    (h.configStage now c).1.type = h.type := by
  cases h with
  | bluetooth radio =>
    unfold configStage
    dsimp only
    split <;> rfl
  | serial line =>
    unfold configStage
    dsimp only
    split <;> rfl
  | hidraw node => rfl

theorem type_linkChanged (h : Hardware) (c : Connection) (up : Bool) :
    (h.linkChanged c up).1.type = h.type := by
  cases h with
  | bluetooth radio =>
    -- whatever the link was and becomes, the radio stays
    unfold linkChanged
    dsimp only
    split <;> rfl
  | serial line => rfl
  | hidraw node => rfl

theorem type_deadlineExpired (h : Hardware) (now : Nat) :
    (h.deadlineExpired now).1.type = h.type := by
  cases h with
  | bluetooth radio =>
    unfold deadlineExpired
    dsimp only
    cases radio.link with
    | connecting deadline profile =>
      dsimp only
      split <;> rfl
    | idle => rfl
    | up profile => rfl
  | serial line => rfl
  | hidraw node => rfl

theorem type_deactivate (h : Hardware) : h.deactivate.type = h.type := by
  cases h <;> rfl

end Hardware

namespace Device

variable {d e : Device} {u : Update} {now : Nat} {c : Connection}

-- ---------------------------------------------------------------------------
-- One device at two times
-- ---------------------------------------------------------------------------

/-- The manager listens to a device, in the first place among the subscribers. -/
def Heard (d : Device) : Prop :=
  { id := 0, listener := .manager, closed := false } ∈ d.subscribers ∧ 0 < d.nextSubscription

theorem Heard.listens (h : d.Heard) : Listener.manager ∈ d.listeners :=
  List.mem_map.mpr ⟨_, List.mem_filter.mpr ⟨h.1, rfl⟩, rfl⟩

/-- One device at two times, whoever listens to it. -/
structure Remains (d e : Device) : Prop where
  id : e.id = d.id
  identity : e.identity = d.identity
  type : e.type = d.type

/-- One device at two times. Whoever else listens, the manager goes on hearing of it. -/
structure Endures (d e : Device) : Prop extends Remains d e where
  heard : d.Heard → e.Heard

theorem Remains.refl (d : Device) : Remains d d := ⟨rfl, rfl, rfl⟩

theorem Remains.trans {f : Device} (h : Remains d e) (h' : Remains e f) : Remains d f :=
  ⟨h'.id.trans h.id, h'.identity.trans h.identity, h'.type.trans h.type⟩

theorem Remains.udi (h : Remains d e) : e.udi = d.udi := by
  unfold Device.udi
  rw [h.identity]

theorem Remains.priority (h : Remains d e) : e.priority = d.priority := by
  unfold Device.priority
  rw [h.type]

theorem Remains.hasLink (h : Remains d e) : e.hasLink = d.hasLink := by
  unfold Device.hasLink
  rw [h.type]

theorem Endures.refl (d : Device) : Endures d d := ⟨Remains.refl d, fun h => h⟩

theorem Endures.trans {f : Device} (h : Endures d e) (h' : Endures e f) : Endures d f :=
  ⟨h.toRemains.trans h'.toRemains, fun hHeard => h'.heard (h.heard hHeard)⟩

/-- Nothing changes but flags and the state of the hardware. -/
theorem Endures.of_flags (hId : e.id = d.id) (hIdentity : e.identity = d.identity)
    (hType : e.type = d.type) (hSubscribers : e.subscribers = d.subscribers)
    (hNext : e.nextSubscription = d.nextSubscription) : Endures d e := by
  refine ⟨⟨hId, hIdentity, hType⟩, fun hHeard => ?_⟩
  unfold Heard
  rw [hSubscribers, hNext]
  exact hHeard

theorem Endures.andThen {next : Device → Update} (h : Endures d u.device)
    (h' : Endures u.device (next u.device).device) : Endures d (u.andThen next).device := by
  unfold Update.andThen
  split
  · exact h
  · exact h.trans h'

-- ---------------------------------------------------------------------------
-- Moves and stages
-- ---------------------------------------------------------------------------

theorem announce_endures (d : Device) (event : DeviceEvent) : Endures d (d.announce event).device :=
  ⟨⟨rfl, rfl, rfl⟩, fun h => ⟨List.mem_filter.mpr ⟨h.1, rfl⟩, h.2⟩⟩

theorem moveTo_endures (d : Device) (new : DeviceState) (reason : StateReason) :
    Endures d (d.moveTo new reason).device := by
  have hEnter : ∀ hardware : Hardware, hardware.type = d.hardware.type →
      Endures d { d with state := new, hardware } := fun _ hType => .of_flags rfl rfl hType rfl rfl
  unfold moveTo
  split
  · exact Endures.refl d
  · split
    · refine (hEnter _ ?_).trans (announce_endures _ _)
      split
      · exact d.hardware.type_deactivate
      · rfl
    · exact Endures.refl d

theorem runStage_endures {outcome : StageOutcome} (h : d.runStage now c = some (e, outcome)) :
    Endures d e := by
  unfold runStage at h
  split at h
  · cases h
    exact .of_flags rfl rfl (d.hardware.type_configStage now c) rfl rfl
  · cases h
    exact Endures.refl _
  · cases h

/-- A stage that does not end well is the last one. -/
theorem lastStage_endures (stages : Nat) (d : Device) {outcome : StageOutcome}
    (hNe : outcome ≠ .success) : Endures d (followStages now c stages d outcome).device := by
  cases outcome with
  | success => exact absurd rfl hNe
  | postpone => cases stages <;> exact Endures.refl d
  | waitForLink request => cases stages <;> exact announce_endures d _
  | needSecrets need =>
    cases stages <;>
    · unfold followStages
      dsimp only
      split
      · exact moveTo_endures d _ _
      · exact (moveTo_endures d _ _).andThen (announce_endures _ _)
  | failure reason => cases stages <;> exact moveTo_endures d _ _

/-- The pipeline keeps the device, wherever it ends. -/
theorem followStages_endures (now : Nat) (c : Connection) (stages : Nat) (d : Device)
    (outcome : StageOutcome) : Endures d (followStages now c stages d outcome).device := by
  induction stages generalizing d outcome with
  | zero =>
    by_cases hNe : outcome = .success
    · subst hNe
      exact Endures.refl d
    · exact lastStage_endures 0 d hNe
  | succ stages ih =>
    by_cases hNe : outcome = .success
    · subst hNe
      unfold followStages
      split
      · exact Endures.refl d
      · dsimp only
        split
        · exact moveTo_endures d _ _
        · refine (moveTo_endures d _ _).andThen ?_
          split
          · exact Endures.refl _
          · rename_i e outcome hRun
            exact (runStage_endures hRun).trans (ih e outcome)
    · exact lastStage_endures (stages + 1) d hNe

-- ---------------------------------------------------------------------------
-- What is asked of a device
-- ---------------------------------------------------------------------------

/-- The operations on a device that leave alone whether it is managed. -/
inductive Urges : (Device → Update) → Prop where
  | stop (reason : StateReason) : Urges fun d => d.deactivate reason
  | stopForUser : Urges fun d => { d with autoconnectInhibited := true }.deactivate .userRequested
  | failAuth : Urges failAuth
  | move (new : DeviceState) (reason : StateReason) : Urges fun d => d.moveTo new reason
  | link (now : Nat) (c : Connection) (up : Bool) : Urges fun d => d.linkChanged now c up
  | poll (now : Nat) : Urges fun d => d.pollDeadline now
  | secrets (now : Nat) (c : Connection) (setting : String) :
    Urges fun d => d.secretsUpdated now c setting
  | firmware (missing : Bool) : Urges fun d => d.setFirmwareMissing missing

/-- The operations that decide whether a device is managed. -/
inductive Governs : (Device → Update) → Prop where
  | manage (managed : Bool) (reason : StateReason) : Governs fun d => d.setManaged managed reason
  | rouse : Governs fun d => { d with autoconnectInhibited := false }.setManaged true .nowManaged

theorem deactivate_endures (d : Device) (reason : StateReason) :
    Endures d (d.deactivate reason).device := by
  have hFlag : Endures d { d with activationScheduled := false } := .of_flags rfl rfl rfl rfl rfl
  unfold deactivate
  dsimp only
  split
  · exact hFlag.trans (moveTo_endures { d with activationScheduled := false } _ _)
  · exact hFlag

theorem setManaged_endures (d : Device) (managed : Bool) (reason : StateReason) :
    Endures d (d.setManaged managed reason).device := by
  have hFlags : ∀ scheduled, Endures d { d with managed, activationScheduled := scheduled } :=
    fun _ => .of_flags rfl rfl rfl rfl rfl
  unfold setManaged
  split
  · exact Endures.refl d
  · split
    · refine Endures.andThen ((hFlags d.activationScheduled).trans (moveTo_endures _ _ _)) ?_
      split
      · exact moveTo_endures _ _ _
      · exact Endures.refl _
    · exact (hFlags false).trans (moveTo_endures _ _ _)

theorem Urges.endures {f : Device → Update} (hf : Urges f) (d : Device) : Endures d (f d).device := by
  cases hf with
  | stop reason => exact deactivate_endures d reason
  | stopForUser =>
    have hFlag : Endures d { d with autoconnectInhibited := true } := .of_flags rfl rfl rfl rfl rfl
    exact hFlag.trans (deactivate_endures _ _)
  | failAuth =>
    show Endures d d.failAuth.device
    unfold Device.failAuth
    split
    · exact moveTo_endures d _ _
    · exact Endures.refl d
  | move new reason => exact moveTo_endures d new reason
  | link now c up =>
    show Endures d (d.linkChanged now c up).device
    unfold Device.linkChanged
    split
    · exact Endures.refl d
    · have hLink : Endures d { d with hardware := (d.hardware.linkChanged c up).1 } :=
        .of_flags rfl rfl (d.hardware.type_linkChanged c up) rfl rfl
      exact hLink.trans (followStages_endures now c 3 _ _)
  | poll now =>
    have hLink : Endures d { d with hardware := (d.hardware.deadlineExpired now).1 } :=
      .of_flags rfl rfl (d.hardware.type_deadlineExpired now) rfl rfl
    show Endures d (d.pollDeadline now).device
    unfold Device.pollDeadline
    dsimp only
    split
    · split
      · exact hLink.trans (moveTo_endures _ _ _)
      · exact hLink
    · exact hLink
  | secrets now c setting =>
    show Endures d (d.secretsUpdated now c setting).device
    unfold Device.secretsUpdated
    split
    · exact Endures.refl d
    · exact followStages_endures now c 3 d _
  | firmware missing =>
    have hFlag : Endures d { d with firmwareMissing := missing } := .of_flags rfl rfl rfl rfl rfl
    show Endures d (d.setFirmwareMissing missing).device
    unfold Device.setFirmwareMissing
    split
    · exact Endures.refl d
    · dsimp only
      split
      · split
        · exact hFlag.trans (moveTo_endures _ _ _)
        · exact hFlag
      · split
        · exact hFlag.trans (moveTo_endures _ _ _)
        · exact hFlag

theorem Governs.endures {f : Device → Update} (hf : Governs f) (d : Device) :
    Endures d (f d).device := by
  cases hf with
  | manage managed reason => exact setManaged_endures d managed reason
  | rouse =>
    have hFlag : Endures d { d with autoconnectInhibited := false } := .of_flags rfl rfl rfl rfl rfl
    exact hFlag.trans (setManaged_endures _ _ _)

-- ---------------------------------------------------------------------------
-- The walks
-- ---------------------------------------------------------------------------

/-- Flags apart, the operations of the first group walk along the edges of the state machine. -/
theorem Urges.proceeds {f : Device → Update} (hf : Urges f) (d : Device) :
    ∃ e, Proceeds e (f d) ∧ e.state = d.state ∧ e.managed = d.managed := by
  have hStop : ∀ (d : Device) (reason : StateReason),
      Proceeds { d with activationScheduled := false } (d.deactivate reason) := by
    intro d reason
    unfold deactivate
    dsimp only
    split
    · exact moveTo_proceeds _ _ _
    · exact Proceeds.unchanged _
  cases hf with
  | stop reason => exact ⟨_, hStop d reason, rfl, rfl⟩
  | stopForUser => exact ⟨_, hStop { d with autoconnectInhibited := true } _, rfl, rfl⟩
  | failAuth => exact ⟨d, failAuth_proceeds d, rfl, rfl⟩
  | move new reason => exact ⟨d, moveTo_proceeds d new reason, rfl, rfl⟩
  | link now c up => exact ⟨d, linkChanged_proceeds d now c up, rfl, rfl⟩
  | poll now => exact ⟨d, pollDeadline_proceeds d now, rfl, rfl⟩
  | secrets now c setting => exact ⟨d, secretsUpdated_proceeds d now c setting, rfl, rfl⟩
  | firmware missing => exact ⟨_, setFirmwareMissing_proceeds d missing, rfl, rfl⟩

theorem Urges.trail {f : Device → Update} (hf : Urges f) (d : Device) :
    Trail d.state (f d).events (f d).device.state := by
  obtain ⟨e, hProceeds, hState, -⟩ := hf.proceeds d
  exact hState ▸ hProceeds.trail

theorem Urges.managed {f : Device → Update} (hf : Urges f) (d : Device) :
    (f d).device.managed = d.managed := by
  obtain ⟨e, hProceeds, -, hManaged⟩ := hf.proceeds d
  exact hProceeds.flags.managed.trans hManaged

theorem setManaged_proceeds (d : Device) (managed : Bool) (reason : StateReason) :
    ∃ e, Proceeds e (d.setManaged managed reason) ∧ e.state = d.state ∧ e.managed = managed := by
  unfold setManaged
  split
  · rename_i hSame
    exact ⟨d, Proceeds.unchanged d, rfl, hSame.symm⟩
  · split
    · refine ⟨{ d with managed }, (moveTo_proceeds _ _ _).andThen ?_, rfl, rfl⟩
      split
      · exact moveTo_proceeds _ _ _
      · exact Proceeds.unchanged _
    · exact ⟨{ d with managed, activationScheduled := false }, moveTo_proceeds _ _ _, rfl, rfl⟩

theorem Governs.trail {f : Device → Update} (hf : Governs f) (d : Device) :
    Trail d.state (f d).events (f d).device.state := by
  cases hf with
  | manage managed reason =>
    obtain ⟨e, hProceeds, hState, -⟩ := setManaged_proceeds d managed reason
    exact hState ▸ hProceeds.trail
  | rouse =>
    obtain ⟨e, hProceeds, hState, -⟩ :=
      setManaged_proceeds { d with autoconnectInhibited := false } true .nowManaged
    exact (show e.state = d.state from hState) ▸ hProceeds.trail

theorem setManaged_true_managed (d : Device) (reason : StateReason) :
    (d.setManaged true reason).device.managed = true := by
  obtain ⟨e, hProceeds, -, hManaged⟩ := setManaged_proceeds d true reason
  exact hProceeds.flags.managed.trans hManaged

-- ---------------------------------------------------------------------------
-- The start of an activation
-- ---------------------------------------------------------------------------

theorem activate_endures (d : Device) (now : Nat) (c : Connection) :
    Endures d (d.activate now c).device := by
  have hFlag : Endures d { d with activationScheduled := false } := .of_flags rfl rfl rfl rfl rfl
  unfold activate
  dsimp only
  split
  · exact hFlag
  · split
    · exact hFlag
    · exact hFlag.trans ((moveTo_endures _ _ _).andThen (followStages_endures now c 3 _ _))

theorem error_moveTo_forgotten (d : Device) (new : DeviceState) (reason : StateReason)
    {next : Device → Update} (hNext : ∀ d, (next d).error = none) :
    (if (d.moveTo new reason).error.isSome then { d.moveTo new reason with error := none }
      else (d.moveTo new reason).andThen next).error = none := by
  split
  · rfl
  · rename_i hNone
    unfold Update.andThen
    rw [if_neg hNone]
    exact hNext _

/-- Once an activation has started it is not refused any more. -/
theorem error_followStages (now : Nat) (c : Connection) (stages : Nat) (d : Device)
    (outcome : StageOutcome) : (followStages now c stages d outcome).error = none := by
  have hNeeds : ∀ (need : SecretsNeed) (d : Device), (d.announce (.needSecrets d.id need)).error = none :=
    fun _ _ => rfl
  induction stages generalizing d outcome with
  | zero =>
    cases outcome with
    | success => rfl
    | postpone => rfl
    | waitForLink request => rfl
    | needSecrets need => exact error_moveTo_forgotten d .needAuth .none (hNeeds need)
    | failure reason => rfl
  | succ stages ih =>
    cases outcome with
    | success =>
      unfold followStages
      split
      · rfl
      · refine error_moveTo_forgotten d _ .none fun d => ?_
        split
        · rfl
        · exact ih _ _
    | postpone => rfl
    | waitForLink request => rfl
    | needSecrets need => exact error_moveTo_forgotten d .needAuth .none (hNeeds need)
    | failure reason => rfl

/-- An activation is refused, and then nothing has happened, or it starts, and the device tells so. -/
theorem activate_cases (d : Device) (now : Nat) (c : Connection) :
    (∃ e, d.activate now c =
      { device := { d with activationScheduled := false }, events := [], error := some e }) ∨
    (d.activate now c).error = none ∧ .prepare ∈ entered (d.activate now c).events := by
  by_cases hState : d.state = .disconnected
  · cases hCheck : d.check c with
    | error e => exact Or.inl ⟨_, activate_of_misfit now hState hCheck⟩
    | ok _ =>
      have hMove : ({ d with activationScheduled := false } : Device).state.canMove .prepare = true := by
        show d.state.canMove .prepare = true
        rw [hState]
        rfl
      rw [activate_of_fit now hState hCheck, moveTo_of_canMove _ hMove]
      exact Or.inr ⟨error_followStages now c 3 _ _, List.mem_cons_self⟩
  · exact Or.inl ⟨_, activate_of_busy now c hState⟩

end Device

end ScannerHub
