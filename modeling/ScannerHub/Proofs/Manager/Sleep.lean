import ScannerHub.Proofs.Manager.Calls

/-!
# Sleep

Two switches decide whether the devices sleep: the manager may be put to sleep, and networking may be
turned off. Whatever was asked of the manager, and in whatever order, its devices follow the switches.
Asleep, no device is managed, and nothing is left of any activation: no request, nothing that goes on
without one, no deadline, and no call for secrets that somebody would have to answer. Awake, every
device is managed.

That nothing is managed while the manager sleeps is a matter of each change. That everything is managed
while it is awake is not, as a device that is given up is released first. It is one of whole operations:
what follows of itself leaves alone whether a device is managed, and the few operations that decide it
are looked at one by one.

* `Manager.AllManaged` — every device is managed;
* `Manager.FollowsSwitches` — what the switches ask for.

## Results

* `Settled.operate_awake` — every operation keeps the devices managed while the manager is awake;
* `run_followsSwitches` — after every operation the devices follow the switches.
-/

namespace ScannerHub

open Exchange

namespace Manager

variable {A : Nat → String → Prop} {K : Deed → Prop} {m m' : Manager} {id : Nat}

-- ---------------------------------------------------------------------------
-- Managed devices
-- ---------------------------------------------------------------------------

/-- Every device is managed. -/
def AllManaged (m : Manager) : Prop := ∀ id d, m.device? id = some d → d.managed = true

/-- Every device is managed, unless the manager sleeps. -/
def Awake (m : Manager) : Prop := m.isAsleep = false → m.AllManaged

/-- What no operation decides by itself. -/
abbrev noDeed : Deed → Prop := fun _ => False

/-- Without a deed no device comes, and none becomes unmanaged. -/
theorem AllManaged.steps (h : m.AllManaged) (hSteps : Steps K m m') (hManages : ¬ K .manages)
    (hArrives : ¬ K .arrives) (hDeparts : ∀ x, ¬ K (.departs x)) : m'.AllManaged := by
  intro x d' hd'
  have hLasts := hSteps.lasts x
  rw [hd'] at hLasts
  generalize hOld : m.device? x = o at hLasts
  cases hLasts with
  | kept hRemains hManaged => exact (hManaged.resolve_right hManages).trans (h x _ hOld)
  | comes hK => exact absurd hK hArrives
  | goes hK => exact absurd hK (hDeparts x)

theorem AllManaged.settle (h : m.AllManaged) : m.settle.AllManaged :=
  h.steps (steps_settle (K := noDeed) m) not_false not_false fun _ => not_false

/-- All devices are told to be managed, one after the other. -/
theorem allManaged_foldl (m : Manager) {f : Device → Update} (hf : Device.Governs f)
    (hManaged : ∀ d, (f d).device.managed = true) :
    (m.devices.foldl (fun m d => m.updateDevice d.id f) m).AllManaged := by
  let P : List Device → Manager → Prop := fun rest m' =>
    ∀ x d, m'.device? x = some d → x ∈ rest.map Device.id ∨ d.managed = true
  have hStep : ∀ (e : Device) (rest : List Device) (m' : Manager), P (e :: rest) m' →
      P rest (m'.updateDevice e.id f) := by
    intro e rest m' hDone x d hd
    rw [device?_updateDevice m' e.id (fun d => (hf.endures d).id)] at hd
    obtain ⟨d₀, hOld, rfl⟩ := Option.map_eq_some_iff.mp hd
    split
    · exact Or.inr (hManaged d₀)
    · rename_i hNe
      refine (hDone x d₀ hOld).imp_left fun hIn => ?_
      rw [List.map_cons, List.mem_cons] at hIn
      exact hIn.resolve_left hNe
  have hStart : P m.devices m := by
    intro x d hd
    obtain ⟨hMem, rfl⟩ := device?_eq_some hd
    exact Or.inl (List.mem_map_of_mem hMem)
  exact fun x d hd => (foldl_rest (P := P) hStep m.devices m hStart x d hd).resolve_left
    List.not_mem_nil

-- ---------------------------------------------------------------------------
-- The operations that decide what is managed
-- ---------------------------------------------------------------------------

theorem Changes.isAsleep {s s' : Manager × Agenda} (h : Changes A s s') :
    s'.1.isAsleep = s.1.isAsleep := by
  induction h with
  | refl => rfl
  | tail _ hLast ih => exact hLast.isAsleep.trans ih

theorem isAsleep_switched (m : Manager) : m.switched.isAsleep = m.isAsleep := by
  have hEach : ∀ (ds : List Device) (m : Manager) (f : Device → Update),
      (ds.foldl (fun m d => m.updateDevice d.id f) m).isAsleep = m.isAsleep := fun ds m f =>
    foldl_rest (P := fun _ m' => m'.isAsleep = m.isAsleep)
      (fun d _ m' h => (decides_updateDevice m' d.id f).isAsleep.trans h) ds m rfl
  unfold Manager.switched
  split
  · have hEnded := foldl_rest (P := fun _ m' => m'.isAsleep = m.isAsleep)
      (fun r _ m' h => (decides_teardown m' r.id .sleeping).isAsleep.trans h) m.requests
      { m with invalid := [] } rfl
    exact (hEach _ _ _).trans hEnded
  · exact hEach _ _ _

/-- A manager that a switch left awake manages all devices. -/
theorem Coherent.awake_applySwitches (h : m.Coherent A) : m.applySwitches.Awake := by
  intro hAwake
  have hSettled : m.switched.settle.isAsleep = m.switched.isAsleep :=
    Changes.isAsleep (h.switched.settle_does .empty)
  have hSwitched : m.isAsleep = false :=
    m.isAsleep_switched.symm.trans (hSettled.symm.trans hAwake)
  have hRoused : m.switched.AllManaged := by
    unfold Manager.switched
    rw [hSwitched, if_neg Bool.false_ne_true]
    exact allManaged_foldl m .rouse fun d => Device.setManaged_true_managed _ _
  exact hRoused.settle

/-- A device that comes to a manager that is awake is managed at once. -/
theorem AllManaged.addDevice (h : m.AllManaged) (hAwake : m.isAsleep = false) (d : Device) :
    (m.addDevice d).1.AllManaged := by
  unfold Manager.addDevice
  split
  · exact h
  · have hManaged : ((m.admitted d).updateDevice m.nextDevice fun d =>
        d.setManaged true .nowManaged).AllManaged := by
      intro x e he
      rw [device?_updateDevice _ _ fun d => (Device.setManaged_endures d true .nowManaged).id] at he
      obtain ⟨e₀, hOld, rfl⟩ := Option.map_eq_some_iff.mp he
      split
      · exact Device.setManaged_true_managed e₀ .nowManaged
      · rename_i hNe
        rw [device?_admitted, if_neg (Ne.symm hNe), Option.or_none] at hOld
        exact h x e₀ hOld
    have hAsleep : (m.admitted d).isAsleep = false := hAwake
    have hAll : (if (m.admitted d).isAsleep then m.admitted d else
        (m.admitted d).updateDevice m.nextDevice fun d =>
          d.setManaged true .nowManaged).AllManaged := by
      rw [hAsleep, if_neg Bool.false_ne_true]
      exact hManaged
    exact hAll.settle

/-- A device that is given up is the only one that is released. -/
theorem AllManaged.removeDevice (h : m.AllManaged) (hCoherent : m.Coherent A) (id : Nat) :
    (m.removeDevice id).AllManaged := by
  have hEnded : (m.teardownOn id .removed).AllManaged :=
    h.steps (steps_teardownOn (K := noDeed) m id .removed) not_false not_false fun _ => not_false
  -- until it goes the device itself may be unmanaged
  have hOthers : ∀ x d, (m.released id).pump.device? x = some d → x = id ∨ d.managed = true := by
    intro x d hd
    have hLasts := (steps_pump (K := noDeed) (m.released id)).lasts x
    rw [hd] at hLasts
    generalize hOld : (m.released id).device? x = o at hLasts
    cases hLasts with
    | comes hK => exact hK.elim
    | goes hK => exact hK.elim
    | kept hRemains hManaged =>
      unfold Manager.released at hOld
      rw [device?_updateDevice _ _ fun d => (Device.setManaged_endures d false .removed).id] at hOld
      obtain ⟨d₀, hBefore, rfl⟩ := Option.map_eq_some_iff.mp hOld
      by_cases hx : x = id
      · exact Or.inl hx
      · rw [if_neg hx] at hManaged
        exact Or.inr ((hManaged.resolve_right not_false).trans (hEnded x d₀ hBefore))
  have hGone : (if ((m.released id).pump.device? id).isSome then
      ((m.released id).pump.dismissed id).publish (.deviceRemoved id)
      else (m.released id).pump).AllManaged := by
    split
    · intro x d hd
      have hLeft : (if x = id then none else (m.released id).pump.device? x) = some d :=
        ((hCoherent.released id).1.linked.device?_dismissed id x).symm.trans hd
      split at hLeft
      · cases hLeft
      · rename_i hNe
        exact (hOthers x d hLeft).resolve_left hNe
    · rename_i hNone
      intro x d hd
      refine (hOthers x d hd).resolve_left fun hx => hNone ?_
      rw [hx] at hd
      rw [hd]
      rfl
  exact hGone.settle

-- ---------------------------------------------------------------------------
-- Every operation
-- ---------------------------------------------------------------------------

/-- Only the two switches decide whether the devices sleep. -/
theorem Settled.isAsleep_operate (h : m.Settled A) (hDormant : m.Dormant) {operation : Operation}
    (hSleeping : ∀ uid sleeping, operation ≠ .setSleeping uid sleeping)
    (hEnabled : ∀ uid enabled, operation ≠ .setEnabled uid enabled) :
    (m.operate operation).isAsleep = m.isAsleep := by
  obtain ⟨m₁, hBegins, hChanges⟩ := h.operate_changes hDormant operation
  have hSame : (m.operate operation).isAsleep = m₁.isAsleep := Changes.isAsleep hChanges
  rw [hSame]
  cases hBegins with
  | same => rfl
  | firmware missing hd => exact (decides_updateDevice m _ _).isAsleep
  | sleeping uid hNe => exact absurd rfl (hSleeping uid _)
  | enabled uid hNe => exact absurd rfl (hEnabled uid _)

/-- Every operation keeps the devices managed while the manager is awake. -/
theorem Settled.operate_awake (h : m.Settled A) (hDormant : m.Dormant) (hAwake : m.Awake)
    (operation : Operation) : (m.operate operation).Awake := by
  by_cases hSwitch : (∃ uid sleeping, operation = .setSleeping uid sleeping) ∨
      ∃ uid enabled, operation = .setEnabled uid enabled
  · obtain ⟨uid, sleeping, rfl⟩ | ⟨uid, enabled, rfl⟩ := hSwitch
    · have hSwitched : ({ m with sleeping }.publish (.sleepingChanged sleeping)).Coherent A := by
        have hMoved : ({ m with sleeping } : Manager).Coherent A :=
          h.toCoherent.same ⟨rfl, rfl, rfl, rfl, rfl, rfl, rfl, fun _ => rfl⟩
        exact hMoved.same (same_publish _ fun _ => rfl)
      show (m.setSleeping uid sleeping).1.Awake
      unfold Manager.setSleeping
      split
      · exact hAwake
      · split
        · exact hAwake
        · exact hSwitched.awake_applySwitches
    · have hSwitched : ({ m with store := (m.store.set enabled).1, networkingEnabled := enabled }.publish
          (.networkingEnabledChanged enabled)).Coherent A := by
        have hMoved : ({ m with store := (m.store.set enabled).1
                                networkingEnabled := enabled } : Manager).Coherent A :=
          h.toCoherent.same ⟨rfl, rfl, rfl, rfl, rfl, rfl, rfl, fun _ => rfl⟩
        exact hMoved.same (same_publish _ fun _ => rfl)
      show (m.setEnabled uid enabled).1.Awake
      unfold Manager.setEnabled
      split
      · exact hAwake
      · split
        · exact hAwake
        · exact hSwitched.awake_applySwitches
  · -- the manager was awake already, so only devices that come or go make a difference
    intro hNow
    rw [not_or] at hSwitch
    rw [h.isAsleep_operate hDormant (fun uid s hEq => hSwitch.1 ⟨uid, s, hEq⟩)
      (fun uid e hEq => hSwitch.2 ⟨uid, e, hEq⟩)] at hNow
    have hAll := hAwake hNow
    cases operation with
    | addDevice hNew => exact hAll.addDevice hNow _
    | removeDevice id => exact hAll.removeDevice h.toCoherent id
    | removeDeviceByInterface interface =>
      show (m.removeDeviceByInterface interface).1.AllManaged
      unfold Manager.removeDeviceByInterface
      split
      · exact hAll
      · exact hAll.removeDevice h.toCoherent _
    | shutdown =>
      intro x d hd
      rw [show (m.operate .shutdown).device? x = m.shutdown.devices.find? _ from rfl,
        (state_shutdown m).2.1] at hd
      cases hd
    | setSleeping uid sleeping => exact absurd ⟨uid, sleeping, rfl⟩ hSwitch.1
    | setEnabled uid enabled => exact absurd ⟨uid, enabled, rfl⟩ hSwitch.2
    | _ => exact hAll.steps (h.operate_steps _) nofun nofun nofun

theorem run_awake (h : m.Rested A) (hAwake : m.Awake) (operations : List Operation) :
    (m.run operations).Awake := by
  induction operations generalizing m with
  | nil => exact hAwake
  | cons operation operations ih =>
    exact ih (h.operate operation) (h.toSettled.operate_awake h.dormant hAwake operation)

-- ---------------------------------------------------------------------------
-- The switches
-- ---------------------------------------------------------------------------

/-- What the two switches ask for, of a manager and of all that was said about calls for secrets. -/
structure FollowsSwitches (m : Manager) (log : List Exchange) : Prop where
  /-- Asleep, no device is managed. -/
  released : m.isAsleep = true → ∀ d ∈ m.devices, d.managed = false ∧ d.state = .unmanaged
  /-- Asleep, nothing is left of an activation, and nothing is waited for. -/
  idle : m.isAsleep = true → m.requests = [] ∧ m.orphans = [] ∧ m.nextDeadline? = none
  silent : m.isAsleep = true → outstanding log = []
  /-- Awake, every device is managed. -/
  managed : m.isAsleep = false → ∀ d ∈ m.devices, d.managed = true ∧ d.state ≠ .unmanaged

/-- Only hardware that waits for its link has a deadline. -/
theorem deadline?_eq_none {d : Device} (hStep : d.hardware.InStep d.state)
    (hState : d.state ≠ .config) : d.deadline? = none := by
  unfold Device.deadline?
  cases hKind : d.hardware with
  | hidraw node => rfl
  | serial line => rfl
  | bluetooth radio =>
    rw [hKind] at hStep
    change radio.link.InStep d.state at hStep
    cases hLink : radio.link with
    | connecting deadline profile =>
      rw [hLink] at hStep
      exact absurd hStep hState
    | idle =>
      obtain ⟨address, name, profiles, timeout, link⟩ := radio
      cases hLink
      rfl
    | up profile =>
      obtain ⟨address, name, profiles, timeout, link⟩ := radio
      cases hLink
      rfl

/-- A manager whose devices are all unmanaged has nothing left of any activation. -/
theorem Settled.nothing_left (h : m.Settled A) (hReleased : ∀ d ∈ m.devices, d.state = .unmanaged) :
    m.requests = [] ∧ m.orphans = [] ∧ m.nextDeadline? = none := by
  have hOwns := h.ownsDevices
  have hIdle : ∀ d ∈ m.devices, d.state.isActive = false := by
    intro d hd
    rw [hReleased d hd]
    rfl
  have hRequests : m.requests = [] := by
    refine List.eq_nil_iff_forall_not_mem.mpr fun r hr => ?_
    obtain ⟨d, hd, hId⟩ := hOwns.present r hr
    have hNone := (h.free hd (hIdle d hd)).1
    rw [hId, h.linked.requestOn?_of_mem hr] at hNone
    cases hNone
  have hOrphans : m.orphans = [] := by
    refine List.eq_nil_iff_forall_not_mem.mpr fun o ho => ?_
    obtain ⟨d, hd, -, hActive⟩ := hOwns.noted o ho
    rw [hIdle d hd] at hActive
    cases hActive
  have hDevices : m.devices.filterMap Device.deadline? = [] := by
    refine List.filterMap_eq_nil_iff.mpr fun d hd => ?_
    have hSound := (h.toFits.sound (h.linked.device?_of_mem hd)).device
    refine deadline?_eq_none hSound.hardware ?_
    rw [hReleased d hd]
    nofun
  refine ⟨hRequests, hOrphans, ?_⟩
  unfold nextDeadline?
  rw [hRequests, hDevices]
  rfl

/-- After every operation the devices follow the switches. -/
theorem run_followsSwitches (store : StateStore) (allowed : List Nat) (timeout : Option Nat)
    (epoch : Nat) (operations : List Operation) :
    ((start store allowed timeout epoch).run operations).FollowsSwitches
      ((start store allowed timeout epoch).exchanges operations) := by
  have hStart : (start store allowed timeout epoch).Rested fun _ _ => True :=
    start_rested store allowed timeout epoch
  have hRested := run_rested hStart operations
  have hAwake := run_awake hStart (fun _ _ d hd => by cases hd) operations
  have hNone : ∀ c ∈ outstanding [], (start store allowed timeout epoch).Awaits c := nofun
  have hCalls := run_awaits hStart.toSettled operations hNone
  rw [List.nil_append] at hCalls
  generalize (start store allowed timeout epoch).run operations = m at *
  have hState : ∀ d ∈ m.devices, d.managed = false ↔ d.state = .unmanaged := fun d hd =>
    (hRested.toFits.sound (hRested.linked.device?_of_mem hd)).device.managed
  have hReleased : m.isAsleep = true → ∀ d ∈ m.devices, d.managed = false ∧ d.state = .unmanaged := by
    intro hAsleep d hd
    have hManaged := hRested.dormant hAsleep d.id d (hRested.linked.device?_of_mem hd)
    exact ⟨hManaged, (hState d hd).mp hManaged⟩
  have hIdle : m.isAsleep = true → m.requests = [] ∧ m.orphans = [] ∧ m.nextDeadline? = none :=
    fun hAsleep => hRested.toSettled.nothing_left fun d hd => (hReleased hAsleep d hd).2
  refine ⟨hReleased, hIdle, fun hAsleep => ?_, fun hUp d hd => ?_⟩
  · refine List.eq_nil_iff_forall_not_mem.mpr fun c hc => ?_
    obtain ⟨r, hr, -⟩ := hCalls c hc
    obtain ⟨hMem, -⟩ := request?_eq_some hr
    rw [(hIdle hAsleep).1] at hMem
    cases hMem
  · have hManaged := hAwake hUp d.id d (hRested.linked.device?_of_mem hd)
    refine ⟨hManaged, fun hUnmanaged => ?_⟩
    rw [(hState d hd).mpr hUnmanaged] at hManaged
    cases hManaged

/-- A scanner that waits for its PIN is put to sleep twice over, and once is not enough to wake it. -/
example :
    let m := (start DialUp.store [] none 0).run (DialUp.connecting ++ [.linkChanged 0 true,
      .setSleeping 0 true, .setEnabled 0 false, .setSleeping 0 false])
    m.devices.map Device.state = [.unmanaged] ∧ m.requests = [] ∧
      outstanding (ofEffects m.effects) = [] := by
  decide +kernel

end Manager

end ScannerHub
