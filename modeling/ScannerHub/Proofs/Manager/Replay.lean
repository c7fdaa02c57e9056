import Mathlib.Data.List.Nodup
import ScannerHub.Hotplug
import ScannerHub.Proofs.Manager.Steps

/-!
# Replays

At the start, and whenever something may have been missed, all devices that the kernel has are handed to
the manager once more. Whichever it knows it turns away, so a replay can be repeated at will.

A device is turned away if its path or its interface is known, maybe of two different devices. So it
matters that a device stays known as long as it is there, whatever else comes in after it and whatever
is started on it. That needs no invariant: whatever a manager does by itself, it puts a device only in
the place of the one that it found under its number, and so it keeps the identities of all, even where a
number came twice.

* `Manager.identities` — the paths and the interfaces of the devices;
* `Manager.Knows` — the manager would turn a device away;
* `Manager.addDevices` — devices come in one after the other;
* `Manager.Distinct` — no two devices share a number, a path or an interface.

## Results

* `Step.identities` — what a step makes of the identities;
* `addDevices_knows` — all devices that were handed in are known afterwards, in any manager;
* `run_replay` — devices are distinct after every run, and a replay that is repeated does nothing,
  whatever the manager was like before.
-/

namespace ScannerHub

-- ---------------------------------------------------------------------------
-- The devices of the kernel
-- ---------------------------------------------------------------------------

/-- What is built from a raw device is new. -/
theorem RawDevice.isNew_of_device? {bridge : String} {raw : RawDevice} {d : Device}
    (h : raw.device? bridge = some d) : d.IsNew := by
  unfold RawDevice.device? at h
  cases hIdentity : raw.identity? bridge with
  | none =>
    rw [hIdentity] at h
    cases h
  | some identity =>
    cases hHardware : raw.hardware? with
    | none =>
      rw [hIdentity, hHardware] at h
      cases h
    | some hardware =>
      have hUnused : hardware.IsUnused := by
        unfold RawDevice.hardware? at hHardware
        split at hHardware
        · cases hHardware
          trivial
        · split at hHardware
          · cases hHardware
            rfl
          · cases hHardware
      cases hBuilt : Device.ofHardware? identity hardware with
      | none =>
        rw [hIdentity, hHardware] at h
        simp [hBuilt] at h
      | some built =>
        rw [hIdentity, hHardware] at h
        simp only [Option.bind_eq_bind, Option.bind_some, hBuilt, Option.pure_def,
          Option.some.injEq] at h
        rw [← h]
        exact .firmware _ (.ofHardware hBuilt hUnused)

theorem RawDevice.isNew_of_mem_query {bridge : String} {raws : List RawDevice} {d : Device}
    (h : d ∈ RawDevice.query bridge raws) : d.IsNew := by
  obtain ⟨raw, -, hRaw⟩ := List.mem_filterMap.mp h
  exact isNew_of_device? hRaw

namespace Manager

variable {A : Nat → String → Prop} {K : Deed → Prop} {m m' : Manager} {d e : Device}

-- ---------------------------------------------------------------------------
-- Identities
-- ---------------------------------------------------------------------------

/-- The paths and the interfaces of the devices, in the order in which they came. -/
def identities (m : Manager) : List DeviceIdentity := m.devices.map Device.identity

theorem identities_setDevice (hd : m.device? d.id = some d) (hRemains : d.Remains e) :
    (m.setDevice e).identities = m.identities :=
  map_setDevice hd hRemains.id Device.identity hRemains.identity

theorem identities_modifyDevice (m : Manager) (id : Nat) {f : Device → Device}
    (hf : ∀ d, Device.Remains d (f d)) : (m.modifyDevice id f).identities = m.identities := by
  unfold modifyDevice
  split
  · rfl
  · rename_i d hd
    obtain ⟨-, rfl⟩ := device?_eq_some hd
    exact identities_setDevice hd (hf d)

theorem identities_updateDevice (m : Manager) (id : Nat) {f : Device → Update}
    (hf : ∀ d, Device.Remains d (f d).device) : (m.updateDevice id f).identities = m.identities := by
  unfold identities
  rw [devices_updateDevice]
  exact identities_modifyDevice m id hf

theorem identities_admitted (m : Manager) (d : Device) :
    (m.admitted d).identities = m.identities ++ [d.identity] :=
  List.map_append

/-- A step keeps the identities of all devices, unless one comes or goes. -/
theorem Step.identities (h : Step K m m') :
    m'.identities = m.identities ∨ K .arrives ∨
      (∃ id, K (.departs id)) ∧ m'.identities.Sublist m.identities := by
  cases h with
  | arrive hK => exact Or.inr (Or.inl hK)
  | dismiss id hLinked hK => exact Or.inr (Or.inr ⟨⟨id, hK⟩, List.eraseP_sublist.map _⟩)
  | disband hK => exact Or.inr (Or.inr ⟨⟨0, hK 0⟩, List.nil_sublist _⟩)
  | aside hDevices => exact Or.inl (congrArg (List.map Device.identity) hDevices)
  | urge id hf => exact Or.inl (identities_updateDevice m id fun d => (hf.endures d).toRemains)
  | govern hK id hf => exact Or.inl (identities_updateDevice m id fun d => (hf.endures d).toRemains)
  | flag id due => exact Or.inl (identities_modifyDevice m id fun d => ⟨rfl, rfl, rfl⟩)
  | teardown id reason =>
    refine Or.inl ?_
    cases hr : m.request? id with
    | none => rw [teardown_absent hr]
    | some r =>
      rw [teardown_eq hr]
      exact identities_modifyDevice m r.device fun d => (r.leave_remains d).1
  | launch number spec hd =>
    refine Or.inl ?_
    rcases m.launch_cases number _ spec with
      ⟨e, effects, hRefused, hEq⟩ | ⟨r, u, listeners, hTaken, hEq⟩
    · rw [hEq]
      exact identities_setDevice hd hRefused.endures.toRemains
    · rw [hEq]
      exact identities_setDevice hd hTaken.endures.toRemains
  | mark hK request default default6 =>
    have hDevices := m.devices_setRequestDefault request default default6
    exact Or.inl (congrArg (List.map Device.identity) hDevices)
  | look => exact Or.inl rfl
  | tell => exact Or.inl rfl
  | revise => exact Or.inl rfl
  | answer => exact Or.inl rfl

/-- As long as no device comes or goes, the identities stay the same. -/
theorem Steps.identities_eq (h : Steps K m m') (hNone : ¬ K .arrives)
    (hStay : ∀ id, ¬ K (.departs id)) : m'.identities = m.identities := by
  induction h with
  | refl => rfl
  | tail _ hLast ih =>
    rcases hLast.identities with hSame | hArrives | ⟨⟨id, hDeparts⟩, -⟩
    · exact hSame.trans ih
    · exact absurd hArrives hNone
    · exact absurd hDeparts (hStay id)

/-- As long as no device comes, no identity comes. -/
theorem Steps.identities_sublist (h : Steps K m m') (hNone : ¬ K .arrives) :
    m'.identities.Sublist m.identities := by
  induction h with
  | refl => exact List.Sublist.refl _
  | tail _ hLast ih =>
    rcases hLast.identities with hSame | hArrives | ⟨-, hSublist⟩
    · rwa [hSame]
    · exact absurd hArrives hNone
    · exact hSublist.trans ih

-- ---------------------------------------------------------------------------
-- Devices that are known
-- ---------------------------------------------------------------------------

/-- The path or the interface of a device is that of one that is there. -/
def Knows (m : Manager) (d : Device) : Prop :=
  ∃ e ∈ m.devices, e.udi = d.udi ∨ e.interface = d.interface

theorem knows_iff (m : Manager) (d : Device) : m.Knows d ↔
    (m.devices.any fun e => e.udi == d.udi || e.interface == d.interface) = true := by
  unfold Knows
  rw [List.any_eq_true]
  simp only [Bool.or_eq_true, beq_iff_eq]

/-- The identities of the devices decide what a manager knows. -/
theorem knows_iff_identities (m : Manager) (d : Device) : m.Knows d ↔
    ∃ i ∈ m.identities, i.udi = d.udi ∨ i.interface = d.interface := by
  constructor
  · rintro ⟨e, he, hClash⟩
    exact ⟨e.identity, List.mem_map_of_mem he, hClash⟩
  · rintro ⟨i, hi, hClash⟩
    obtain ⟨e, he, rfl⟩ := List.mem_map.mp hi
    exact ⟨e, he, hClash⟩

/-- A device that is known is turned away, and nothing happens. -/
theorem addDevice_known (h : m.Knows d) : m.addDevice d = (m, none) :=
  if_pos ((m.knows_iff d).mp h)

theorem addDevice_unknown (h : ¬ m.Knows d) : m.addDevice d =
    ((if (m.admitted d).isAsleep then m.admitted d
      else (m.admitted d).updateDevice m.nextDevice fun d => d.setManaged true .nowManaged).settle,
      some m.nextDevice) :=
  if_neg ((m.knows_iff d).not.mp h)

/-- Once a device is in, no other comes, and none goes. -/
theorem steps_admitted (h : ¬ m.Knows d) (hManages : K .manages) :
    Steps K (m.admitted d) (m.addDevice d).1 := by
  rw [addDevice_unknown h]
  have hManaged : Steps K (m.admitted d) (if (m.admitted d).isAsleep then m.admitted d
      else (m.admitted d).updateDevice m.nextDevice fun d => d.setManaged true .nowManaged) := by
    split
    · exact .refl
    · exact .single (.govern hManages _ (.manage true .nowManaged))
  exact hManaged.trans (steps_settle _)

/-- A device that comes in brings its own identity, whatever is started on it or on others. -/
theorem identities_addDevice (hUnknown : ¬ m.Knows d) :
    (m.addDevice d).1.identities = m.identities ++ [d.identity] := by
  have hSteps := steps_admitted (K := (· = .manages)) hUnknown rfl
  exact (hSteps.identities_eq nofun nofun).trans (identities_admitted m d)

/-- A device that was handed in is known afterwards, and so is every device that was known before. -/
theorem addDevice_knows (hKnown : e = d ∨ m.Knows e) : (m.addDevice d).1.Knows e := by
  by_cases hIn : m.Knows d
  · rw [addDevice_known hIn]
    rcases hKnown with rfl | hKnown
    · exact hIn
    · exact hKnown
  · rw [knows_iff_identities, identities_addDevice hIn]
    rcases hKnown with rfl | hKnown
    · exact ⟨e.identity, List.mem_append_right _ List.mem_cons_self, Or.inl rfl⟩
    · obtain ⟨i, hi, hClash⟩ := (m.knows_iff_identities e).mp hKnown
      exact ⟨i, List.mem_append_left _ hi, hClash⟩

-- ---------------------------------------------------------------------------
-- Many devices
-- ---------------------------------------------------------------------------

/-- Devices come in one after the other. Each gets its number, unless it is turned away. -/
def addDevices (m : Manager) : List Device → Manager × List (Option Nat)
  | [] => (m, [])
  | d :: ds =>
    let (m, id) := m.addDevice d
    let (m, ids) := m.addDevices ds
    (m, id :: ids)

/-- All devices that were handed in are known afterwards, and all that were known before. -/
theorem addDevices_knows {ds : List Device} (hKnown : e ∈ ds ∨ m.Knows e) :
    (m.addDevices ds).1.Knows e := by
  induction ds generalizing m with
  | nil => exact hKnown.resolve_left List.not_mem_nil
  | cons d ds ih =>
    refine ih ?_
    rcases hKnown with hIn | hKnown
    · exact (List.mem_cons.mp hIn).symm.imp_right fun hHead => addDevice_knows (Or.inl hHead)
    · exact Or.inr (addDevice_knows (Or.inr hKnown))

/-- Devices that are all known are all turned away. -/
theorem addDevices_known {ds : List Device} (h : ∀ d ∈ ds, m.Knows d) :
    m.addDevices ds = (m, ds.map fun _ => none) := by
  induction ds with
  | nil => rfl
  | cons d ds ih =>
    unfold addDevices
    rw [addDevice_known (h d List.mem_cons_self)]
    dsimp only
    rw [ih fun e he => h e (List.mem_cons_of_mem d he)]
    rfl

/-- New devices come in as in a run. -/
theorem addDevices_run {ds : List Device} (hNew : ∀ d ∈ ds, d.IsNew) (m : Manager) :
    ∃ operations, (m.addDevices ds).1 = m.run operations := by
  induction ds generalizing m with
  | nil => exact ⟨[], rfl⟩
  | cons d ds ih =>
    obtain ⟨operations, hRun⟩ := ih (fun e he => hNew e (List.mem_cons_of_mem d he)) (m.addDevice d).1
    exact ⟨.addDevice (hNew d List.mem_cons_self) :: operations, hRun⟩

/-- A replay is part of a run. -/
theorem replay_run (m : Manager) (bridge : String) (raws : List RawDevice) :
    ∃ operations, (m.addDevices (RawDevice.query bridge raws)).1 = m.run operations :=
  addDevices_run (fun _ hd => RawDevice.isNew_of_mem_query hd) m

-- ---------------------------------------------------------------------------
-- Distinct devices
-- ---------------------------------------------------------------------------

/-- No two devices share a number, a path or an interface. -/
structure Distinct (m : Manager) : Prop where
  numbers : (m.devices.map Device.id).Nodup
  paths : (m.devices.map Device.udi).Nodup
  interfaces : (m.devices.map Device.interface).Nodup

theorem map_interface (m : Manager) :
    m.devices.map Device.interface = m.identities.map DeviceIdentity.interface :=
  List.map_map.symm

/-- Only one operation makes devices come. -/
theorem addDevice_of_may_arrive {operation : Operation} (h : operation.May .arrives) :
    ∃ (d : Device) (hNew : d.IsNew), operation = .addDevice hNew := by
  cases h with
  | comes hNew => exact ⟨_, hNew, rfl⟩

/-- A device whose interface is known is turned away, so no interface comes twice. -/
theorem interfaces_addDevice (h : (m.devices.map Device.interface).Nodup) (d : Device) :
    ((m.addDevice d).1.devices.map Device.interface).Nodup := by
  by_cases hKnown : m.Knows d
  · rw [addDevice_known hKnown]
    exact h
  · rw [map_interface, identities_addDevice hKnown]
    refine nodup_map_concat (m.map_interface ▸ h) fun i hi hSame => hKnown ?_
    exact (m.knows_iff_identities d).mpr ⟨i, hi, Or.inr hSame⟩

theorem Settled.interfaces_operate (hSettled : m.Settled A)
    (h : (m.devices.map Device.interface).Nodup) (operation : Operation) :
    ((m.operate operation).devices.map Device.interface).Nodup := by
  -- the manager's steps alone do not tell what comes in, so that operation is looked at by itself
  by_cases hArrives : operation.May .arrives
  · obtain ⟨d, hNew, rfl⟩ := addDevice_of_may_arrive hArrives
    exact interfaces_addDevice h d
  · have hSublist := (hSettled.operate_steps operation).identities_sublist hArrives
    rw [map_interface] at h ⊢
    exact h.sublist (hSublist.map _)

theorem Settled.interfaces_run (hSettled : m.Settled A)
    (h : (m.devices.map Device.interface).Nodup) (operations : List Operation) :
    ((m.run operations).devices.map Device.interface).Nodup := by
  induction operations generalizing m with
  | nil => exact h
  | cons operation operations ih =>
    exact ih (operate_settled hSettled operation) (hSettled.interfaces_operate h operation)

/-- After every run no two devices share a number, a path or an interface. Whatever devices the kernel
has, once they were all handed in, to hand them in once more changes nothing, and each is turned away,
in any manager at all. -/
theorem run_replay :
    (∀ (store : StateStore) (allowed : List Nat) (timeout : Option Nat) (epoch : Nat)
      (operations : List Operation),
      ((start store allowed timeout epoch).run operations).Distinct) ∧
    ∀ (m : Manager) (bridge : String) (raws : List RawDevice),
      let devices := RawDevice.query bridge raws
      (m.addDevices devices).1.addDevices devices =
        ((m.addDevices devices).1, devices.map fun _ => none) := by
  refine ⟨fun store allowed timeout epoch operations => ?_, fun m bridge raws => ?_⟩
  · have hStart := start_settled (A := fun _ _ => True) store allowed timeout epoch
    have hSettled := run_settled hStart operations
    exact
      { numbers := hSettled.linked.devices
        paths := hSettled.linked.paths
        interfaces := hStart.interfaces_run List.nodup_nil operations }
  · exact addDevices_known fun d hd => addDevices_knows (Or.inl hd)

/-- Of three raw devices, the second has the path of the first one, and the third its name. -/
example :
    let raw : RawDevice :=
      { name := "hidraw0", subsystem := "hidraw", syspath := "/a", driver := some "usbhid"
        devtype := none, typeNumber := none, index := none, firmwareMissing := false, parent := none }
    let devices := RawDevice.query "ibmebus"
      [raw, { raw with name := "hidraw1" }, { raw with syspath := "/b" }]
    let m := start DialUp.store [] none 0
    (m.addDevices devices).2 = [some 0, none, none] ∧
      ((m.addDevices devices).1.addDevices devices).2 = [none, none, none] := by
  decide +kernel

end Manager

end ScannerHub
