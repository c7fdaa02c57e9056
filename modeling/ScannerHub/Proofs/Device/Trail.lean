import ScannerHub.Proofs.Device.Pipeline

/-!
# Trails

What a device tells is a walk along the edges of its state machine: each event names the state that
the one before it led to, and the last one leads to the state in which the device is found. So
whoever hears all events knows the state, however late he hears them.

Beside its state a device has flags. The pipeline leaves them alone, and the other operations change
them in ways that never make a device free for an automatic activation without a word.

* `Trail` — events that lead from one state to another;
* `Device.Proceeds` — a walk that leaves the flags alone;
* `Device.Walks` — a walk that tells of everything that makes the device free;
* `Device.Travels` — one that leaves a device without firmware where it cannot be used;
* `Device.Order`, `Device.Wakes` — the operations that are asked of a device.

## Results

* `followStages_proceeds` — the pipeline is a walk;
* `Order.travels`, `Wakes.travels`, `secretsUpdated_travels`, `activate_travels`,
  `setFirmwareMissing_proceeds` — so are all operations.
-/

namespace ScannerHub

/-- The states of a device that cannot be used. -/
def DeviceState.isGrounded (s : DeviceState) : Bool := s == unmanaged || s == unavailable

-- ---------------------------------------------------------------------------
-- Walks along the edges
-- ---------------------------------------------------------------------------

/-- Events that lead from one state to another along the edges of the state machine. -/
def Trail : DeviceState → List DeviceEvent → DeviceState → Prop
  | s, [], t => s = t
  | s, .stateChanged _ new old _ :: es, t => old = s ∧ s.CanMove new ∧ Trail new es t
  | s, .needSecrets _ _ :: es, t | s, .linkRequested _ _ :: es, t => Trail s es t

theorem Trail.append {s t u : DeviceState} {es fs : List DeviceEvent} (h : Trail s es t)
    (h' : Trail t fs u) : Trail s (es ++ fs) u := by
  induction es generalizing s with
  | nil =>
    obtain rfl : s = t := h
    exact h'
  | cons e es ih =>
    cases e with
    | stateChanged id new old reason => exact ⟨h.1, h.2.1, ih h.2.2⟩
    | needSecrets id need => exact ih h
    | linkRequested id request => exact ih h

/-- A walk that enters no state stays where it is, and another one ends in a state that it
enters. -/
theorem Trail.mem_or_eq {s t : DeviceState} {es : List DeviceEvent} (h : Trail s es t) :
    t ∈ entered es ∨ s = t := by
  induction es generalizing s with
  | nil => exact Or.inr h
  | cons e es ih =>
    cases e with
    | stateChanged id new old reason =>
      refine Or.inl ?_
      obtain hIn | rfl := ih h.2.2
      · exact List.mem_cons_of_mem _ hIn
      · exact List.mem_cons_self
    | needSecrets id need => exact ih h
    | linkRequested id request => exact ih h

namespace Device

-- ---------------------------------------------------------------------------
-- Walks that leave the flags alone
-- ---------------------------------------------------------------------------

/-- One device at two times, with the same flags. -/
structure SameFlags (d e : Device) : Prop where
  managed : e.managed = d.managed
  firmware : e.firmwareMissing = d.firmwareMissing
  inhibited : e.autoconnectInhibited = d.autoconnectInhibited
  scheduled : e.activationScheduled = d.activationScheduled

/-- An operation that leads along the edges of the state machine and leaves the flags alone. -/
structure Proceeds (d : Device) (u : Update) : Prop where
  trail : Trail d.state u.events u.device.state
  flags : SameFlags d u.device

variable {d e : Device} {u : Update} {now : Nat} {c : Connection}

theorem SameFlags.trans {f : Device} (h : SameFlags d e) (h' : SameFlags e f) : SameFlags d f :=
  ⟨h'.managed.trans h.managed, h'.firmware.trans h.firmware, h'.inhibited.trans h.inhibited,
   h'.scheduled.trans h.scheduled⟩

theorem Proceeds.unchanged (d : Device) : Proceeds d d.unchanged := ⟨rfl, rfl, rfl, rfl, rfl⟩

/-- The hardware does not matter to a walk. -/
theorem Proceeds.of_same (hState : e.state = d.state) (hFlags : SameFlags d e)
    (h : Proceeds e u) : Proceeds d u :=
  ⟨hState ▸ h.trail, hFlags.trans h.flags⟩

theorem Proceeds.of_hardware {h : Hardware} (hWalk : Proceeds { d with hardware := h } u) :
    Proceeds d u :=
  Proceeds.of_same (e := { d with hardware := h }) rfl ⟨rfl, rfl, rfl, rfl⟩ hWalk

theorem Proceeds.of_error (h : Proceeds d u) (error : Option Error) :
    Proceeds d { u with error } :=
  ⟨h.trail, h.flags⟩

theorem Proceeds.andThen {next : Device → Update} (h : Proceeds d u)
    (h' : Proceeds u.device (next u.device)) : Proceeds d (u.andThen next) := by
  unfold Update.andThen
  split
  · exact h
  · exact ⟨h.trail.append h'.trail, h.flags.trans h'.flags⟩

theorem moveTo_proceeds (d : Device) (new : DeviceState) (reason : StateReason) :
    Proceeds d (d.moveTo new reason) := by
  unfold moveTo
  split
  · exact Proceeds.unchanged d
  · split
    · rename_i hMove
      exact ⟨⟨rfl, hMove, rfl⟩, rfl, rfl, rfl, rfl⟩
    · exact ⟨rfl, rfl, rfl, rfl, rfl⟩

theorem announce_proceeds (d : Device) {event : DeviceEvent} (h : event.entered? = none) :
    Proceeds d (d.announce event) := by
  cases event with
  | stateChanged id new old reason => cases h
  | needSecrets id need => exact ⟨rfl, rfl, rfl, rfl, rfl⟩
  | linkRequested id request => exact ⟨rfl, rfl, rfl, rfl, rfl⟩

/-- The stage of a state touches nothing but the hardware. -/
theorem runStage_same {outcome : StageOutcome} (h : d.runStage now c = some (e, outcome)) :
    e.state = d.state ∧ SameFlags d e := by
  unfold runStage at h
  split at h
  · cases h
    exact ⟨rfl, rfl, rfl, rfl, rfl⟩
  · cases h
    exact ⟨rfl, rfl, rfl, rfl, rfl⟩
  · cases h

/-- The pipeline is a walk, wherever it ends. -/
theorem followStages_proceeds (now : Nat) (c : Connection) (stages : Nat) (d : Device)
    (outcome : StageOutcome) : Proceeds d (followStages now c stages d outcome) := by
  induction stages generalizing d outcome with
  | zero =>
    cases outcome with
    | success => exact Proceeds.unchanged d
    | postpone => exact Proceeds.unchanged d
    | waitForLink request => exact announce_proceeds d rfl
    | needSecrets need =>
      unfold followStages
      dsimp only
      split
      · exact (moveTo_proceeds d _ _).of_error none
      · exact (moveTo_proceeds d _ _).andThen (announce_proceeds _ rfl)
    | failure reason => exact (moveTo_proceeds d _ _).of_error none
  | succ stages ih =>
    cases outcome with
    | success =>
      unfold followStages
      split
      · exact Proceeds.unchanged d
      · dsimp only
        split
        · exact (moveTo_proceeds d _ _).of_error none
        · refine (moveTo_proceeds d _ _).andThen ?_
          split
          · exact Proceeds.unchanged _
          · rename_i e outcome hRun
            obtain ⟨hState, hFlags⟩ := runStage_same hRun
            exact (ih e outcome).of_same hState hFlags
    | postpone => exact Proceeds.unchanged d
    | waitForLink request => exact announce_proceeds d rfl
    | needSecrets need =>
      unfold followStages
      dsimp only
      split
      · exact (moveTo_proceeds d _ _).of_error none
      · exact (moveTo_proceeds d _ _).andThen (announce_proceeds _ rfl)
    | failure reason => exact (moveTo_proceeds d _ _).of_error none

-- ---------------------------------------------------------------------------
-- Walks that tell of everything that makes a device free
-- ---------------------------------------------------------------------------

/-- An operation that leads along the edges of the state machine. -/
structure Walks (d : Device) (u : Update) : Prop where
  trail : Trail d.state u.events u.device.state
  firmware : u.device.firmwareMissing = d.firmwareMissing
  /-- No automatic activation becomes due by an operation on the device alone. -/
  scheduled : u.device.activationScheduled = true → d.activationScheduled = true
  /-- A device that is free for an automatic activation was free before, or tells of it. -/
  allowed : u.device.autoconnectAllowed = true →
    d.autoconnectAllowed = true ∨ .disconnected ∈ entered u.events

/-- A walk of a device that, without its firmware, still cannot be used afterwards if it could not
be used before. -/
structure Travels (d : Device) (u : Update) : Prop extends Walks d u where
  rises : ∀ t ∈ entered u.events, t.isGrounded = false →
    d.state.isGrounded = false ∨ d.firmwareMissing = false

theorem Proceeds.walks (h : Proceeds d u) : Walks d u where
  trail := h.trail
  firmware := h.flags.firmware
  scheduled hDue := h.flags.scheduled.symm.trans hDue
  allowed hFree := by
    rw [autoconnectAllowed_iff] at hFree ⊢
    obtain ⟨hManaged, hInhibited, hState, hFirmware⟩ := hFree
    obtain hIn | hSame := h.trail.mem_or_eq
    · exact Or.inr (hState ▸ hIn)
    · exact Or.inl ⟨h.flags.managed ▸ hManaged, h.flags.inhibited ▸ hInhibited,
        hSame.trans hState, h.flags.firmware ▸ hFirmware⟩

theorem Proceeds.travels (h : Proceeds d u) (hUsable : ∀ t ∈ entered u.events,
    t.isGrounded = false → d.state.isGrounded = false ∨ d.firmwareMissing = false) :
    Travels d u :=
  ⟨h.walks, hUsable⟩

theorem Travels.unchanged (d : Device) : Travels d d.unchanged :=
  (Proceeds.unchanged d).travels nofun

/-- A walk that starts where the device can be used. -/
theorem Proceeds.travels_usable (h : Proceeds d u) (hUsable : d.state.isGrounded = false) :
    Travels d u :=
  h.travels fun _ _ _ => Or.inl hUsable

theorem usable_of_isActive {s : DeviceState} (h : s.isActive = true) : s.isGrounded = false := by
  revert h
  cases s <;> decide

/-- A move leads nowhere that the device could not be used, or starts where it could. -/
theorem moveTo_travels (d : Device) (new : DeviceState) (reason : StateReason)
    (hUsable : d.state.canMove new = true → new.isGrounded = false →
      d.state.isGrounded = false ∨ d.firmwareMissing = false) :
    Travels d (d.moveTo new reason) := by
  refine (moveTo_proceeds d new reason).travels fun t ht hNew => ?_
  unfold moveTo at ht
  split at ht
  · cases ht
  · split at ht
    · rename_i hMove
      obtain rfl := List.mem_singleton.mp ht
      exact hUsable hMove hNew
    · cases ht

/-- No edge leads from where a device cannot be used to a failure. -/
theorem moveTo_failed_travels (d : Device) (reason : StateReason) :
    Travels d (d.moveTo .failed reason) := by
  refine moveTo_travels d .failed reason fun hMove _ => Or.inl ?_
  revert hMove
  cases d.state <;> decide

/-- A flag that is cleared first. -/
theorem Travels.of_flags (hState : e.state = d.state)
    (hFirmware : e.firmwareMissing = d.firmwareMissing)
    (hScheduled : e.activationScheduled = true → d.activationScheduled = true)
    (hAllowed : e.autoconnectAllowed = true → d.autoconnectAllowed = true) (h : Travels e u) :
    Travels d u where
  trail := hState ▸ h.trail
  firmware := h.firmware.trans hFirmware
  scheduled hDue := hScheduled (h.scheduled hDue)
  allowed hFree := (h.allowed hFree).imp_left hAllowed
  rises := hState ▸ hFirmware ▸ h.rises

-- ---------------------------------------------------------------------------
-- What is asked of a device
-- ---------------------------------------------------------------------------

/-- The operations that the manager asks of a device, other than to start, to go on with secrets
or to recover from a failure. -/
inductive Order : (Device → Update) → Prop where
  | release (reason : StateReason) : Order fun d => d.setManaged false reason
  | stop (reason : StateReason) : Order fun d => d.deactivate reason
  | stopForUser : Order fun d => { d with autoconnectInhibited := true }.deactivate .userRequested
  | failAuth : Order failAuth
  | fail (reason : StateReason) : Order fun d => d.moveTo .failed reason
  | link (now : Nat) (c : Connection) (up : Bool) : Order fun d => d.linkChanged now c up
  | poll (now : Nat) : Order fun d => d.pollDeadline now

/-- The ways to make a device managed. -/
inductive Wakes : (Device → Update) → Prop where
  | manage : Wakes fun d => d.setManaged true .nowManaged
  | rouse : Wakes fun d => { d with autoconnectInhibited := false }.setManaged true .nowManaged

theorem Order.carries {f : Device → Update} (hf : Order f) (hListen : d.AllListen)
    (hSound : d.Sound) : Carries d (f d) := by
  cases hf with
  | release reason => exact setManaged_carries false reason hListen hSound
  | stop reason => exact deactivate_carries reason hListen hSound
  | stopForUser =>
    exact Carries.of_flags (e := { d with autoconnectInhibited := true })
      ⟨rfl, rfl, rfl, rfl, fun _ => rfl, rfl⟩ rfl ⟨hSound.stop, hSound.managed, hSound.hardware⟩
      (deactivate_carries .userRequested hListen ⟨hSound.stop, hSound.managed, hSound.hardware⟩)
  | failAuth => exact failAuth_carries hListen hSound
  | fail reason => exact moveTo_failed_carries reason hListen hSound
  | link now c up => exact linkChanged_carries now c up hListen hSound
  | poll now => exact pollDeadline_carries now hListen hSound

theorem Wakes.carries {f : Device → Update} (hf : Wakes f) (hListen : d.AllListen)
    (hSound : d.Sound) : Carries d (f d) := by
  cases hf with
  | manage => exact setManaged_carries true .nowManaged hListen hSound
  | rouse =>
    exact Carries.of_flags (e := { d with autoconnectInhibited := false })
      ⟨rfl, rfl, rfl, rfl, fun _ => rfl, rfl⟩ rfl ⟨hSound.stop, hSound.managed, hSound.hardware⟩
      (setManaged_carries true .nowManaged hListen
        ⟨hSound.stop, hSound.managed, hSound.hardware⟩)

/-- A device that is not managed any more is not free. -/
theorem release_travels (d : Device) (reason : StateReason) :
    Travels d (d.setManaged false reason) := by
  unfold setManaged
  split
  · exact Travels.unchanged d
  · rw [if_neg Bool.false_ne_true]
    have hMove := moveTo_travels { d with managed := false, activationScheduled := false }
      .unmanaged reason fun _ hNew => by cases hNew
    refine Travels.of_flags (e := { d with managed := false, activationScheduled := false })
      rfl rfl (fun hDue => by cases hDue) (fun hFree => ?_) hMove
    simp [autoconnectAllowed] at hFree

theorem deactivate_travels (d : Device) (reason : StateReason) :
    Travels d (d.deactivate reason) := by
  unfold deactivate
  dsimp only
  split
  · rename_i hActive
    have hMove := moveTo_travels { d with activationScheduled := false } .disconnected reason
      fun _ _ => Or.inl (by revert hActive; cases d.state <;> decide)
    exact Travels.of_flags (e := { d with activationScheduled := false }) rfl rfl
      (fun hDue => by cases hDue) (fun hFree => hFree) hMove
  · exact Travels.of_flags (e := { d with activationScheduled := false }) rfl rfl
      (fun hDue => by cases hDue) (fun hFree => hFree) (Travels.unchanged _)

theorem deactivate_managed (d : Device) (reason : StateReason) :
    (d.deactivate reason).device.managed = d.managed := by
  unfold deactivate
  dsimp only
  split
  · exact (moveTo_proceeds { d with activationScheduled := false } .disconnected reason).flags.managed
  · rfl

theorem failAuth_proceeds (d : Device) : Proceeds d d.failAuth := by
  unfold Device.failAuth
  split
  · exact moveTo_proceeds d .failed .noSecrets
  · exact Proceeds.unchanged d

theorem linkChanged_proceeds (d : Device) (now : Nat) (c : Connection) (up : Bool) :
    Proceeds d (d.linkChanged now c up) := by
  unfold linkChanged
  split
  · exact Proceeds.unchanged d
  · exact (followStages_proceeds now c 3 { d with hardware := (d.hardware.linkChanged c up).1 }
      (d.hardware.linkChanged c up).2).of_hardware

theorem linkChanged_travels (d : Device) (now : Nat) (c : Connection) (up : Bool) :
    Travels d (d.linkChanged now c up) := by
  cases hActive : d.state.isActive with
  | true => exact (linkChanged_proceeds d now c up).travels_usable (usable_of_isActive hActive)
  | false =>
    unfold linkChanged
    rw [hActive]
    exact Travels.unchanged d

theorem pollDeadline_proceeds (d : Device) (now : Nat) : Proceeds d (d.pollDeadline now) := by
  have hSilent : ∀ h : Hardware, Proceeds d ({ d with hardware := h } : Device).unchanged :=
    fun h => (Proceeds.unchanged { d with hardware := h }).of_hardware
  unfold pollDeadline
  dsimp only
  split
  · split
    · exact ((moveTo_proceeds { d with hardware := (d.hardware.deadlineExpired now).1 }
        .failed _).of_error none).of_hardware
    · exact hSilent _
  · exact hSilent _

theorem pollDeadline_travels (d : Device) (now : Nat) : Travels d (d.pollDeadline now) := by
  cases hActive : d.state.isActive with
  | true => exact (pollDeadline_proceeds d now).travels_usable (usable_of_isActive hActive)
  | false =>
    refine (pollDeadline_proceeds d now).travels fun t ht _ => ?_
    unfold pollDeadline at ht
    dsimp only at ht
    split at ht
    · rw [hActive] at ht
      cases ht
    · cases ht

theorem Order.travels {f : Device → Update} (hf : Order f) (d : Device) : Travels d (f d) := by
  cases hf with
  | release reason => exact release_travels d reason
  | stop reason => exact deactivate_travels d reason
  | stopForUser =>
    refine Travels.of_flags (e := { d with autoconnectInhibited := true }) rfl rfl
      (fun hDue => hDue) (fun hFree => ?_) (deactivate_travels _ _)
    simp [autoconnectAllowed] at hFree
  | failAuth =>
    show Travels d d.failAuth
    unfold Device.failAuth
    split
    · exact moveTo_failed_travels d .noSecrets
    · exact Travels.unchanged d
  | fail reason => exact moveTo_failed_travels d reason
  | link now c up => exact linkChanged_travels d now c up
  | poll now => exact pollDeadline_travels d now

theorem setManaged_false_managed (d : Device) (reason : StateReason) :
    (d.setManaged false reason).device.managed = false := by
  unfold setManaged
  split
  · rename_i hSame
    exact hSame.symm
  · rw [if_neg Bool.false_ne_true]
    exact (moveTo_proceeds _ .unmanaged reason).flags.managed

/-- No order makes a device managed. -/
theorem Order.managed {f : Device → Update} (hf : Order f) (d : Device)
    (hManaged : (f d).device.managed = true) : d.managed = true := by
  cases hf with
  | release reason =>
    rw [setManaged_false_managed] at hManaged
    cases hManaged
  | stop reason => exact (deactivate_managed d reason).symm.trans hManaged
  | stopForUser =>
    exact (deactivate_managed { d with autoconnectInhibited := true } .userRequested).symm.trans hManaged
  | failAuth => exact (failAuth_proceeds d).flags.managed.symm.trans hManaged
  | fail reason => exact (moveTo_proceeds d .failed reason).flags.managed.symm.trans hManaged
  | link now c up => exact (linkChanged_proceeds d now c up).flags.managed.symm.trans hManaged
  | poll now => exact (pollDeadline_proceeds d now).flags.managed.symm.trans hManaged

/-- One operation after another. -/
theorem Travels.andThen {next : Device → Update} (h : Travels d u)
    (h' : Travels u.device (next u.device)) : Travels d (u.andThen next) := by
  unfold Update.andThen
  split
  · exact h
  · refine ⟨⟨h.trail.append h'.trail, h'.firmware.trans h.firmware,
      fun hDue => h.scheduled (h'.scheduled hDue), fun hFree => ?_⟩, fun t ht hUsable => ?_⟩
    · show _ ∨ _ ∈ entered (u.events ++ _)
      rw [entered_append, List.mem_append]
      obtain hMid | hLate := h'.allowed hFree
      · exact (h.allowed hMid).imp_right Or.inl
      · exact Or.inr (Or.inr hLate)
    · change t ∈ entered (u.events ++ _) at ht
      rw [entered_append, List.mem_append] at ht
      obtain hEarly | hLate := ht
      · exact h.rises t hEarly hUsable
      · obtain hMid | hFirmware := h'.rises t hLate hUsable
        · obtain hIn | hSame := h.trail.mem_or_eq
          · exact h.rises _ hIn hMid
          · exact Or.inl (hSame ▸ hMid)
        · exact Or.inr (h.firmware ▸ hFirmware)

/-- A device that becomes managed tells of it. It can be used at once only with its firmware. -/
theorem manage_travels (hState : d.state = .unmanaged) (reason : StateReason) :
    Travels d (d.setManaged true reason) := by
  unfold setManaged
  split
  · exact Travels.unchanged d
  · rw [if_pos rfl]
    have hFirst := moveTo_travels { d with managed := true } .unavailable reason
      fun _ hUsable => by cases hUsable
    refine Travels.of_flags (e := { d with managed := true }) rfl rfl (fun hDue => hDue)
      (fun hFree => ?_) (hFirst.andThen ?_)
    · simp [autoconnectAllowed, hState] at hFree
    · split
      · rename_i hAvailable
        refine moveTo_travels _ .disconnected .none fun _ _ => Or.inr ?_
        simpa [isAvailable, Hardware.isAvailable] using hAvailable
      · exact Travels.unchanged _

theorem Wakes.travels {f : Device → Update} (hf : Wakes f) (hState : d.state = .unmanaged) :
    Travels d (f d) := by
  cases hf with
  | manage => exact manage_travels hState .nowManaged
  | rouse =>
    refine Travels.of_flags (e := { d with autoconnectInhibited := false }) rfl rfl
      (fun hDue => hDue) (fun hFree => ?_)
      (manage_travels (d := { d with autoconnectInhibited := false }) hState .nowManaged)
    simp [autoconnectAllowed, hState] at hFree

theorem secretsUpdated_proceeds (d : Device) (now : Nat) (c : Connection) (setting : String) :
    Proceeds d (d.secretsUpdated now c setting) := by
  unfold secretsUpdated
  split
  · exact Proceeds.unchanged d
  · exact followStages_proceeds now c 3 d _

theorem secretsUpdated_travels (d : Device) (now : Nat) (c : Connection) (setting : String) :
    Travels d (d.secretsUpdated now c setting) := by
  by_cases hState : d.state = .needAuth
  · exact (secretsUpdated_proceeds d now c setting).travels_usable (by rw [hState]; rfl)
  · unfold secretsUpdated
    rw [if_pos hState]
    exact Travels.unchanged d

/-- Whether the firmware is there is noted first, and then it is a walk. -/
theorem setFirmwareMissing_proceeds (d : Device) (missing : Bool) :
    Proceeds { d with firmwareMissing := missing } (d.setFirmwareMissing missing) := by
  unfold setFirmwareMissing
  split
  · rename_i hSame
    rw [hSame]
    exact Proceeds.unchanged d
  · dsimp only
    split
    · split
      · exact moveTo_proceeds _ _ _
      · exact Proceeds.unchanged _
    · split
      · exact moveTo_proceeds _ _ _
      · exact Proceeds.unchanged _

theorem activate_proceeds (d : Device) (now : Nat) (c : Connection) :
    Proceeds { d with activationScheduled := false } (d.activate now c) := by
  unfold activate
  dsimp only
  split
  · exact ⟨rfl, rfl, rfl, rfl, rfl⟩
  · split
    · exact ⟨rfl, rfl, rfl, rfl, rfl⟩
    · exact (moveTo_proceeds _ _ _).andThen (followStages_proceeds now c 3 _ _)

/-- An activation that starts leaves nothing due. -/
theorem activate_travels (hState : d.state = .disconnected) (now : Nat) (c : Connection) :
    Travels d (d.activate now c) ∧ (d.activate now c).device.activationScheduled = false := by
  have hSame := activate_proceeds d now c
  have hTravels := hSame.travels_usable (by show d.state.isGrounded = false; rw [hState]; rfl)
  exact ⟨Travels.of_flags (e := { d with activationScheduled := false }) rfl rfl
    (fun hDue => by cases hDue) (fun hFree => hFree) hTravels, hSame.flags.scheduled⟩

end Device

end ScannerHub
