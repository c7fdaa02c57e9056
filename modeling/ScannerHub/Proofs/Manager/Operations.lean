import ScannerHub.Manager.Operations
import ScannerHub.Proofs.Manager.Settle

/-!
# Devices and connections

What happens to devices and connections leads from a settled manager to a settled one. Most of it
stops devices and ends requests before the manager settles, so the owners of activations have to be
looked after on the way; the rest only changes what belongs to no site.

* `Manager.IdleHeld` — what is left of activations on idle devices goes with an event that waits;
* `Manager.takenIn`, `Manager.dismissed` — a device comes and goes.

## Results

* `Settled.addDevice`, `Settled.removeDevice`, `Settled.setFirmwareMissing`,
  `Settled.linkChanged` — devices;
* `Settled.connectionRemoved`, `Settled.setServiceRunning`, `Settled.connectionAdded`,
  `Settled.connectionUpdated` — connections.
-/

namespace ScannerHub.Manager

variable {A : Nat → String → Prop} {m m' : Manager} {id : Nat}

-- ---------------------------------------------------------------------------
-- Operations on devices
-- ---------------------------------------------------------------------------

/-- An operation on a device that brings no secrets preserves the invariant. -/
theorem Coherent.updateDevice (h : m.Coherent A) (id : Nat) {f : Device → Update}
    (hf : ∀ d : Device, d.AllListen → d.Sound → Device.Carries d (f d)) :
    (m.updateDevice id f).Coherent A := by
  cases hd : m.device? id with
  | none =>
    rw [updateDevice_absent hd]
    exact h
  | some d =>
    have hSound := h.toFits.sound hd
    have hCarries := hf d hSound.allListen hSound.device
    refine (h.toFits.carries hd hCarries).coherent (fun x _ => h.accounted x) fun e he => ?_
    cases he
    exact (h.held hd).hears hCarries.toMoves

theorem Fits.within_updateDevice (h : m.Fits A) (id : Nat) {f : Device → Update}
    (hf : ∀ d : Device, d.AllListen → d.Sound → Device.Carries d (f d)) :
    Within m (m.updateDevice id f) := by
  cases hd : m.device? id with
  | none =>
    rw [updateDevice_absent hd]
    exact Within.refl m
  | some d =>
    have hSound := h.sound hd
    exact (h.carries hd (hf d hSound.allListen hSound.device)).within

/-- What is left of an activation on an idle device goes with an event that waits. -/
def IdleHeld (m : Manager) : Prop :=
  ∀ id d, m.device? id = some d → d.state.isActive = false → (m.site id).Held d

theorem Coherent.idleHeld (h : m.Coherent A) : m.IdleHeld := fun _ _ hd _ => h.held hd

/-- The end of a request may leave an active device without an owner, but no idle one. -/
theorem IdleHeld.teardown (h : m.IdleHeld) (hFits : m.Fits A) (id : Nat) (reason : StateReason) :
    (m.teardown id reason).IdleHeld := by
  cases hr : m.request? id with
  | none =>
    rw [teardown_absent hr]
    exact h
  | some r =>
    have hActs := hFits.teardown hr reason
    intro x d hd hIdle
    by_cases hx : x = r.device
    · subst hx
      rw [hActs.here]
      have hSite : (m.site r.device).forget.device = some d := by
        rw [← hActs.here]
        exact hd
      obtain ⟨d₀, hd₀, rfl⟩ := Option.map_eq_some_iff.mp hSite
      exact (h r.device d₀ hd₀ hIdle).forget hIdle
    · rw [hActs.away x hx]
      exact h x d ((congrArg Site.device (hActs.away x hx)).symm.trans hd) hIdle

theorem Fits.teardown_fits (h : m.Fits A) (id : Nat) (reason : StateReason) :
    (m.teardown id reason).Fits A ∧ Within m (m.teardown id reason) := by
  cases hr : m.request? id with
  | none =>
    rw [teardown_absent hr]
    exact ⟨h, Within.refl m⟩
  | some r => exact ⟨(h.teardown hr reason).fits, (h.teardown hr reason).within⟩

theorem IdleHeld.acts {s : Site} (h : m.IdleHeld) (hActs : Acts A m m' id s) (hs : s.Accounted) :
    m'.IdleHeld := by
  intro x d hd hIdle
  by_cases hx : x = id
  · subst hx
    rw [hActs.here]
    refine hs d ?_
    rw [← hActs.here]
    exact hd
  · rw [hActs.away x hx]
    exact h x d ((congrArg Site.device (hActs.away x hx)).symm.trans hd) hIdle

/-- A device that may have lost its owner is stopped. -/
theorem Fits.stopped (h : m.Fits A) (hIdleHeld : m.IdleHeld) (id : Nat) {f : Device → Update}
    (hf : ∀ d : Device, d.AllListen → d.Sound → Device.Carries d (f d))
    (hIdle : ∀ d : Device, d.AllListen → d.Sound → (f d).device.state.isActive = false) :
    ∃ s, Acts A m (m.updateDevice id f) id s ∧ s.Accounted := by
  cases hd : m.device? id with
  | none =>
    rw [updateDevice_absent hd]
    refine ⟨m.site id, ⟨h, Within.refl m, rfl, fun _ _ => rfl⟩, fun d hd' => ?_⟩
    rw [show (m.site id).device = none from hd] at hd'
    cases hd'
  | some d =>
    have hSound := h.sound hd
    have hCarries := hf d hSound.allListen hSound.device
    refine ⟨_, h.carries hd hCarries, fun e he => ?_⟩
    cases he
    exact Site.held_hears (fun hOld => hIdleHeld id d hd hOld) hCarries.toMoves
      (hIdle d hSound.allListen hSound.device)

/-- The request on a device ends, and the device is stopped. -/
theorem Coherent.teardown_stop (h : m.Coherent A) {r : Request} (hr : m.request? id = some r)
    (reason : StateReason) {f : Device → Update}
    (hf : ∀ d : Device, d.AllListen → d.Sound → Device.Carries d (f d))
    (hIdle : ∀ d : Device, d.AllListen → d.Sound → (f d).device.state.isActive = false) :
    ((m.teardown id reason).updateDevice r.device f).Coherent A := by
  have hActs := h.toFits.teardown hr reason
  obtain ⟨s, hStopped, hs⟩ :=
    hActs.fits.stopped (h.idleHeld.teardown h.toFits id reason) r.device hf hIdle
  exact (hActs.trans hStopped).coherent (fun x _ => h.accounted x) hs

theorem Coherent.teardownOn_stop (h : m.Coherent A) (id : Nat) (reason : StateReason)
    {f : Device → Update} (hf : ∀ d : Device, d.AllListen → d.Sound → Device.Carries d (f d))
    (hIdle : ∀ d : Device, d.AllListen → d.Sound → (f d).device.state.isActive = false) :
    ((m.teardownOn id reason).updateDevice id f).Coherent A := by
  unfold Manager.teardownOn
  cases hOn : m.requestOn? id with
  | some r =>
    obtain ⟨hr, rfl⟩ := requestOn?_eq_some hOn
    exact h.teardown_stop (h.linked.request?_of_mem hr) reason hf hIdle
  | none => exact h.updateDevice id hf

-- ---------------------------------------------------------------------------
-- Devices that come and go
-- ---------------------------------------------------------------------------

/-- A device is taken in under a new number. -/
def takenIn (m : Manager) (device : Device) : Manager :=
  { m with nextDevice := m.nextDevice + 1, devices := m.devices ++ [device] }

theorem device?_takenIn (m : Manager) (device : Device) (x : Nat) :
    (m.takenIn device).device? x =
      (m.device? x).or (if device.id = x then some device else none) := by
  unfold device? takenIn
  rw [List.find?_append]
  congr 1
  by_cases hx : device.id = x
  · rw [if_pos hx, List.find?_cons_of_pos (by simp [hx])]
  · rw [if_neg hx, List.find?_cons_of_neg (by simp [hx])]
    rfl

theorem linked_takenIn (h : m.Linked) {device : Device} (hId : device.id = m.nextDevice)
    (hUdi : ∀ x ∈ m.devices, x.udi ≠ device.udi) : (m.takenIn device).Linked where
  devices := nodup_map_concat h.devices fun x hx =>
    hId ▸ Nat.ne_of_lt (h.deviceBound x hx)
  paths := nodup_map_concat h.paths hUdi
  requests := h.requests
  places := h.places
  deviceBound x hx := by
    rcases List.mem_append.mp hx with hx | hx
    · exact Nat.lt_succ_of_lt (h.deviceBound x hx)
    · obtain rfl := List.mem_singleton.mp hx
      exact hId ▸ Nat.lt_succ_self _
  requestBound := h.requestBound
  calls := h.calls
  callBound := h.callBound
  seqBound := h.seqBound

/-- A device that was just taken in: nobody has used it, and only the manager listens to it. -/
def newcomer (m : Manager) (d : Device) : Device := { d with id := m.nextDevice }.subscribe .manager

/-- A new device that nobody knows of has a site of its own. -/
theorem Fits.takenIn (h : m.Fits A) (hQueue : m.queue = []) {d : Device}
    (hUnused : Device.Unused d) (hUdi : ∀ x ∈ m.devices, x.udi ≠ d.udi) :
    (m.takenIn (m.newcomer d)).Fits A ∧ m.device? m.nextDevice = none ∧
      ∀ x, (m.takenIn (m.newcomer d)).site x =
        if x = m.nextDevice then { m.site x with device := some (m.newcomer d) } else m.site x := by
  have hAbsent := h.linked.device?_nextDevice
  obtain ⟨hRequest, -⟩ := (h.sites m.nextDevice).absent hAbsent
  have hSite : ∀ x, (m.takenIn (m.newcomer d)).site x =
      if x = m.nextDevice then { m.site x with device := some (m.newcomer d) } else m.site x := by
    intro x
    have hDevice := device?_takenIn m (m.newcomer d) x
    rw [show (m.newcomer d).id = m.nextDevice from rfl] at hDevice
    unfold Manager.site
    rw [hDevice]
    by_cases hx : x = m.nextDevice
    · rw [hx, hAbsent, if_pos rfl, if_pos rfl]
      rfl
    · rw [if_neg (Ne.symm hx), Option.or_none, if_neg hx]
      rfl
  have hNil : m.queueOf m.nextDevice = [] := queueOf_nil hQueue m.nextDevice
  have hListens : (m.newcomer d).subscribers = [managerListening] := by
    show d.subscribers ++ [{ id := d.nextSubscription, listener := .manager, closed := false }] = _
    rw [hUnused.subscribers, hUnused.nextSubscription]
    rfl
  have hIdle : (m.newcomer d).state = .unmanaged := hUnused.state
  have hSound : (m.newcomer d).Sound := by
    refine ⟨?_, ⟨fun _ => hUnused.state, fun _ => hUnused.managed⟩, ?_⟩
    · rw [hIdle]
      rfl
    · rw [hIdle]
      exact hUnused.hardware
  refine ⟨⟨linked_takenIn h.linked rfl hUdi, fun x => ?_⟩, hAbsent, hSite⟩
  rw [hSite]
  split
  · rename_i hx
    subst hx
    refine ⟨nofun, fun e he => ?_⟩
    cases he
    exact Site.sound_free hRequest hNil hSound hListens (Nat.succ_pos _) (by rw [hIdle]; rfl)
  · exact h.sites x

theorem Coherent.takenIn (h : m.Coherent A) (hQueue : m.queue = []) {d : Device}
    (hUnused : Device.Unused d) (hUdi : ∀ x ∈ m.devices, x.udi ≠ d.udi) :
    (m.takenIn (m.newcomer d)).Coherent A := by
  obtain ⟨hFits, hAbsent, hSite⟩ := h.toFits.takenIn hQueue hUnused hUdi
  refine ⟨hFits, fun x e he => ?_⟩
  rw [hSite] at he ⊢
  split at he
  · rename_i hx
    rw [if_pos hx]
    subst hx
    cases he
    obtain ⟨hRequest, hOrphan⟩ := (h.sites m.nextDevice).absent hAbsent
    have hIdle : (m.newcomer d).state = .unmanaged := hUnused.state
    refine Site.held_of_free (by rw [hIdle]; rfl) hRequest hOrphan fun hFailed => ?_
    rw [hIdle] at hFailed
    cases hFailed
  · rename_i hx
    rw [if_neg hx]
    exact h.accounted x e he

theorem Settled.addDevice (h : m.Settled A) {d : Device} (hNew : Device.IsNew d) :
    (m.addDevice d).1.Settled A := by
  unfold Manager.addDevice
  split
  · exact h
  · rename_i hKnown
    have hTaken := h.toCoherent.takenIn h.queue hNew.unused fun x hx hEq => hKnown
      (List.any_eq_true.mpr ⟨x, hx, by rw [hEq, beq_self_eq_true, Bool.true_or]⟩)
    have hPublished : Coherent A (Manager.publish _ (.deviceAdded m.nextDevice)) :=
      hTaken.same (same_publish _ fun _ => rfl)
    refine Coherent.settle ?_
    split
    · exact hPublished
    · exact hPublished.updateDevice _ fun d hListen hSound =>
        Device.setManaged_carries true .nowManaged hListen hSound

/-- The manager without a device. -/
def dismissed (m : Manager) (id : Nat) : Manager :=
  { m with
    devices := m.devices.eraseP fun d => d.id == id
    pending := m.pending.filter fun p => p != id }

theorem Linked.devices_dismissed (h : m.Linked) (id : Nat) :
    (m.dismissed id).devices = m.devices.filter fun d => d.id != id :=
  eraseP_eq_filter h.devices id

theorem Linked.device?_dismissed (h : m.Linked) (id x : Nat) :
    (m.dismissed id).device? x = if x = id then none else m.device? x := by
  by_cases hx : x = id
  · rw [if_pos hx]
    unfold device?
    rw [h.devices_dismissed, List.find?_eq_none]
    intro d hd
    rw [hx]
    simpa using (List.mem_filter.mp hd).2
  · rw [if_neg hx]
    exact find?_eraseP_of_ne m.devices hx

/-- A device that nobody uses may go. -/
theorem Fits.dismissed (h : m.Fits A) (id : Nat) (hRequest : m.requestOn? id = none)
    (hOrphan : m.orphan? id = none) :
    Acts A m (m.dismissed id) id { m.site id with device := none } := by
  have hKeeps : Keeps m (m.dismissed id) :=
    ⟨List.eraseP_sublist.map _, List.Sublist.refl _, rfl, rfl, rfl⟩
  refine h.acts_keeps hKeeps ?_ ?_ ⟨fun _ => ⟨hRequest, hOrphan⟩, fun d hd => by cases hd⟩
  · unfold Manager.site
    rw [h.linked.device?_dismissed, if_pos rfl]
    rfl
  · intro x hx
    unfold Manager.site
    rw [h.linked.device?_dismissed, if_neg hx]
    rfl

/-- An idle device of which nothing waits to be handled may go. -/
theorem Coherent.dismissed (h : m.Coherent A) (id : Nat)
    (hIdle : ∀ d, m.device? id = some d → d.state.isActive = false) (hQueue : m.queueOf id = []) :
    (m.dismissed id).Coherent A ∧ m.requestOn? id = none ∧ m.orphan? id = none := by
  have hFree : m.requestOn? id = none ∧ m.orphan? id = none := by
    cases hd : m.device? id with
    | none => exact (h.sites id).absent hd
    | some d => exact h.free hd (hIdle d hd) hQueue
  refine ⟨?_, hFree⟩
  exact (h.toFits.dismissed id hFree.1 hFree.2).coherent (fun x _ => h.accounted x)
    fun d hd => by cases hd

/-- The manager once a device is not managed any more. -/
def released (m : Manager) (id : Nat) : Manager :=
  (m.teardownOn id .removed).updateDevice id fun d => d.setManaged false .removed

/-- A device that is not managed any more stays so while the queues are worked off. -/
theorem Coherent.released (h : m.Coherent A) (id : Nat) :
    (m.released id).pump.Coherent A ∧ Within m (m.released id).pump ∧
      (m.released id).pump.queue = [] ∧
        ∀ d, (m.released id).pump.device? id = some d → d.state.isActive = false := by
  have hCarries : ∀ d : Device, d.AllListen → d.Sound →
      Device.Carries d (d.setManaged false .removed) :=
    fun d hListen hSound => Device.setManaged_carries false .removed hListen hSound
  have hState : ∀ d : Device, d.AllListen → d.Sound →
      (d.setManaged false .removed).device.state = .unmanaged :=
    fun d hListen hSound => Device.setManaged_false_state .removed hListen hSound
  have hTeardown := h.toFits.teardownOn id .removed
  have hStopped : (m.released id).Coherent A :=
    h.teardownOn_stop id .removed hCarries fun d hListen hSound => by
      rw [hState d hListen hSound]
      rfl
  obtain ⟨hPumped, hQuiet⟩ := hStopped.pump
  obtain ⟨hWithin, hStays⟩ := hStopped.pump_stays id
  have hReleased := hTeardown.fits.within_updateDevice id hCarries
  refine ⟨hPumped, (hTeardown.within.trans hReleased).trans hWithin, hQuiet.queue,
    fun d hd => ?_⟩
  cases hOld : (m.teardownOn id .removed).device? id with
  | none =>
    have hAbsent : (m.released id).device? id = none := by
      unfold Manager.released
      rw [updateDevice_absent hOld]
      exact hOld
    rw [hWithin.absent hAbsent] at hd
    cases hd
  | some e =>
    have hSound := hTeardown.fits.sound hOld
    have hUnmanaged := hState e hSound.allListen hSound.device
    have hActs := hTeardown.fits.carries hOld (f := fun d => d.setManaged false .removed)
      (hCarries e hSound.allListen hSound.device)
    have hThere : ((m.released id).site id).device = some (e.setManaged false .removed).device :=
      congrArg Site.device hActs.here
    obtain ⟨d', hd', hSame, -⟩ := hStays _ hThere (by rw [hUnmanaged]; rfl)
    change (m.released id).pump.device? id = some d' at hd'
    rw [hd] at hd'
    cases hd'
    rw [hSame, hUnmanaged]
    rfl

/-- Once a device is given up, nobody needs to know of its link any more. -/
theorem Settled.removeDevice_retold {B : Nat → String → Prop} (h : m.Settled A) (id : Nat)
    (hKnows : ∀ d ∈ m.devices, d.id ≠ id → A d.id d.udi → B d.id d.udi) :
    (m.removeDevice id).Settled B := by
  obtain ⟨hPumped, hWithin, hQueue, hIdle⟩ := h.toCoherent.released id
  have hRetold : ∀ m' : Manager, m'.Coherent A →
      (∀ d ∈ m'.devices, d ∈ (m.released id).pump.devices ∧ d.id ≠ id) → m'.Coherent B := by
    intro m' hCoherent hDevices
    refine hCoherent.weaken fun d hd => ?_
    obtain ⟨hMem, hNe⟩ := hDevices d hd
    obtain ⟨d₀, hd₀, hId, hUdi⟩ := hWithin.devices d hMem
    rw [← hId, ← hUdi]
    exact hKnows d₀ hd₀ fun hSame => hNe (hId.symm.trans hSame)
  have hNil : (m.released id).pump.queueOf id = [] := queueOf_nil hQueue id
  unfold Manager.removeDevice
  refine Coherent.settle ?_
  change Coherent B (if ((m.released id).pump.device? id).isSome then
    ((m.released id).pump.dismissed id).publish (.deviceRemoved id) else (m.released id).pump)
  split
  · have hGone := hRetold _ (hPumped.dismissed id hIdle hNil).1 fun d hd => by
      have hLeft := hPumped.linked.devices_dismissed id ▸ hd
      obtain ⟨hMem, hNe⟩ := List.mem_filter.mp hLeft
      exact ⟨hMem, bne_iff_ne.mp hNe⟩
    exact hGone.same (same_publish _ fun _ => rfl)
  · rename_i hAbsent
    refine hRetold _ hPumped fun d hd => ⟨hd, fun hId => hAbsent ?_⟩
    have hFound := hPumped.linked.device?_of_mem hd
    rw [hId] at hFound
    rw [hFound]
    rfl

theorem Settled.removeDevice (h : m.Settled A) (id : Nat) : (m.removeDevice id).Settled A :=
  h.removeDevice_retold id fun _ _ _ hKnows => hKnows

theorem Settled.removeDeviceByInterface (h : m.Settled A) (interface : String) :
    (m.removeDeviceByInterface interface).1.Settled A := by
  unfold Manager.removeDeviceByInterface
  split
  · exact h
  · exact h.removeDevice _

theorem Settled.setFirmwareMissing (h : m.Settled A) (interface : String) (missing : Bool) :
    (m.setFirmwareMissing interface missing).1.Settled A := by
  unfold Manager.setFirmwareMissing
  split
  · exact h
  · exact (h.toCoherent.updateDevice _ fun d hListen hSound =>
      Device.setFirmwareMissing_carries missing hListen hSound).settle

theorem Settled.linkChanged (h : m.Settled A) (device : Nat) (up : Bool) :
    (m.linkChanged device up).Settled A := by
  unfold Manager.linkChanged
  dsimp only
  split
  · exact h
  · exact (h.toCoherent.updateDevice device fun d hListen hSound =>
      Device.linkChanged_carries m.now _ up hListen hSound).settle

-- ---------------------------------------------------------------------------
-- Connections
-- ---------------------------------------------------------------------------

/-- Noting that an automatic activation is due preserves the invariant. -/
theorem Coherent.schedule (h : m.Coherent A) (id : Nat) : (m.schedule id).Coherent A := by
  unfold Manager.schedule
  split
  · exact h
  · cases hd : m.device? id with
    | none => exact h
    | some d =>
      dsimp only
      split
      · have hFlag := h.modifyDevice id (f := fun d => { d with activationScheduled := true })
          fun d => ⟨⟨rfl, rfl, rfl, rfl, fun _ => rfl, rfl⟩, rfl,
            fun h => ⟨h.stop, h.managed, h.hardware⟩⟩
        unfold Manager.modifyDevice at hFlag
        rw [hd] at hFlag
        exact hFlag.same ⟨rfl, rfl, rfl, rfl, rfl, rfl, rfl, fun _ => rfl⟩
      · exact h

theorem Coherent.scheduleAll (h : m.Coherent A) : m.scheduleAll.Coherent A :=
  foldl_rest (P := fun _ m' => Coherent A m') (fun d _ _ h => h.schedule d.id) m.devices m h

/-- A request that was looked up earlier ends and its device stops, whatever became of the request
since. -/
theorem Coherent.teardown_next (h : m.Coherent A) (hLater : m'.Coherent A) (hWithin : Within m m')
    {r : Request} (hr : r ∈ m.requests) (reason : StateReason) {f : Device → Update}
    (hf : ∀ d : Device, d.AllListen → d.Sound → Device.Carries d (f d))
    (hIdle : ∀ d : Device, d.AllListen → d.Sound → (f d).device.state.isActive = false) :
    ((m'.teardown r.id reason).updateDevice r.device f).Coherent A ∧
      Within m ((m'.teardown r.id reason).updateDevice r.device f) := by
  obtain ⟨hFits, hEnded⟩ := hLater.toFits.teardown_fits r.id reason
  refine ⟨?_, (hWithin.trans hEnded).trans (hFits.within_updateDevice r.device hf)⟩
  cases hFound : m'.request? r.id with
  | none =>
    rw [teardown_absent hFound]
    exact hLater.updateDevice r.device hf
  | some r' =>
    -- the request of this number that is there now is on the same device
    obtain ⟨hMem, hId⟩ := request?_eq_some hFound
    obtain ⟨r₀, hr₀, hId₀, hDevice⟩ := hWithin.requests r' hMem
    have hSame := h.linked.eq_of_id hr₀ hr (hId₀.trans hId)
    rw [← hSame, hDevice, hId₀, hId]
    exact hLater.teardown_stop hFound reason hf hIdle

/-- Requests end and their devices stop, one after the other. -/
theorem Coherent.teardown_all (h : m.Coherent A) (reason : StateReason) {f : Device → Update}
    (hf : ∀ d : Device, d.AllListen → d.Sound → Device.Carries d (f d))
    (hIdle : ∀ d : Device, d.AllListen → d.Sound → (f d).device.state.isActive = false)
    {rs : List Request} (hrs : ∀ r ∈ rs, r ∈ m.requests) :
    (rs.foldl (fun m r => (m.teardown r.id reason).updateDevice r.device f) m).Coherent A := by
  refine (foldl_rest (P := fun rest m' => Coherent A m' ∧ Within m m' ∧ ∀ r ∈ rest, r ∈ m.requests)
    ?_ rs m ⟨h, Within.refl m, hrs⟩).1
  rintro r rest m' ⟨hCoherent, hWithin, hRest⟩
  obtain ⟨hNext, hStill⟩ :=
    h.teardown_next hCoherent hWithin (hRest r List.mem_cons_self) reason hf hIdle
  exact ⟨hNext, hStill, fun q hq => hRest q (List.mem_cons_of_mem r hq)⟩

/-- The manager once a connection was dropped and whoever used it was stopped. -/
def dropped (m : Manager) (scope : Scope) (path : String) : Manager :=
  let cache := m.cache scope
  let m := m.setCache scope { cache with connections := cache.connections.erase path }
  (m.requests.filter fun r => r.connection.scope = scope ∧ r.path = path).foldl (fun m r =>
    (m.teardown r.id .connectionRemoved).updateDevice r.device fun d =>
      d.deactivate .connectionRemoved) m

theorem Coherent.dropped (h : m.Coherent A) (scope : Scope) (path : String) :
    (m.dropped scope path).Coherent A :=
  (h.same (same_setCache m scope _)).teardown_all .connectionRemoved
    (fun _ => Device.deactivate_carries .connectionRemoved)
    (fun _ hListen _ => Device.deactivate_idle .connectionRemoved hListen)
    fun _ hr => (List.mem_filter.mp hr).1

theorem connectionRemoved_cases (m : Manager) (scope : Scope) (path : String) :
    m.connectionRemoved scope path = m ∨
      m.connectionRemoved scope path = (m.dropped scope path).settle := by
  unfold Manager.connectionRemoved
  dsimp only
  split
  · exact Or.inl rfl
  · exact Or.inr rfl

/-- A connection that is dropped leaves a settled manager, unless nobody knows it. -/
theorem Coherent.connectionRemoved (h : m.Coherent A) (scope : Scope) (path : String) :
    m.connectionRemoved scope path = m ∨ (m.connectionRemoved scope path).Settled A := by
  obtain hSame | hEq := m.connectionRemoved_cases scope path
  · exact Or.inl hSame
  · rw [hEq]
    exact Or.inr (h.dropped scope path).settle

theorem Settled.connectionRemoved (h : m.Settled A) (scope : Scope) (path : String) :
    (m.connectionRemoved scope path).Settled A := by
  rcases h.toCoherent.connectionRemoved scope path with hSame | hSettled
  · rw [hSame]
    exact h
  · exact hSettled

theorem Coherent.connectionRemoved_coherent (h : m.Coherent A) (scope : Scope) (path : String) :
    (m.connectionRemoved scope path).Coherent A := by
  obtain hSame | hSettled := h.connectionRemoved scope path
  · rw [hSame]
    exact h
  · exact hSettled.toCoherent

theorem Settled.setServiceRunning (h : m.Settled A) (scope : Scope) (running : Bool) :
    (m.setServiceRunning scope running).Settled A := by
  unfold Manager.setServiceRunning
  dsimp only
  split
  · exact h
  · refine Coherent.settle (Coherent.scheduleAll ?_)
    have hCache := h.toCoherent.same (same_setCache m scope { m.cache scope with running })
    split
    · exact hCache
    · exact foldl_rest (P := fun _ m' => Coherent A m')
        (fun p _ _ h => h.connectionRemoved_coherent scope p) _ _ hCache

theorem Settled.connectionAdded (h : m.Settled A) (scope : Scope) (path : String)
    (settings : Settings) : (m.connectionAdded scope path settings).1.Settled A := by
  unfold Manager.connectionAdded
  split
  · exact h
  · exact (h.toCoherent.same (same_setCache m scope _)).scheduleAll.settle

theorem Settled.connectionUpdated (h : m.Settled A) (scope : Scope) (path : String)
    (settings : Settings) : (m.connectionUpdated scope path settings).Settled A := by
  unfold Manager.connectionUpdated
  dsimp only
  split
  · exact h.connectionAdded scope path settings
  · split
    · exact h.connectionRemoved scope path
    · refine Coherent.settle (Coherent.scheduleAll ?_)
      exact (h.toCoherent.same (same_setCache m scope _)).same
        ⟨rfl, rfl, rfl, rfl, rfl, rfl, rfl, fun _ => rfl⟩

end ScannerHub.Manager
