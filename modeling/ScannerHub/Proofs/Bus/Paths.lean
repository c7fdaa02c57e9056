import ScannerHub.Proofs.Bus.Mirror
import ScannerHub.Proofs.Text.Numeral

/-!
# Object paths that callers write

An object is exported at one path, which ends in its number. A caller who names a device or an active
connection writes a path as well, and its end is read as any numeral is: with zeros in front, or with a plus
sign. So each object answers to paths at which nothing is exported, and there are no others.

* `spelledPath`, `Padded` — the paths that end in a numeral of some number;
* `Manager.deviceAt?`, `Manager.requestAt?` — what a caller's path stands for;
* `Resolves` — what the paths of callers stand for, compared with what is exported.

## Results

* `numberOfPath?_eq_some_iff` — every path that is taken, for whatever is exported below some path;
* `numberOfPath?_exact_iff` — a path is taken in its exported form only, exactly if it is not padded;
* `run_resolves` — whenever no event waits, the padded paths of what is there are all the paths that are
  taken and have no object.
-/

namespace ScannerHub

variable {parent path : String} {n : Nat}

-- ---------------------------------------------------------------------------
-- Paths and numbers
-- ---------------------------------------------------------------------------

/-- A path below another one that ends in a numeral. -/
def spelledPath (parent : String) (plus : Bool) (zeros n : Nat) : String :=
  parent ++ "/" ++ String.ofList (spelling plus zeros n)

/-- A path that ends in a number, but not as a path is exported: with a plus sign, or with zeros in front. -/
def Padded (parent path : String) (n : Nat) : Prop :=
  ∃ plus zeros, (plus = true ∨ 0 < zeros) ∧ path = spelledPath parent plus zeros n

theorem objectPath_eq (parent : String) (n : Nat) : objectPath parent n = spelledPath parent false 0 n := by
  unfold objectPath spelledPath
  simp [toString, Nat.repr_eq_ofList_toDigits, spelling]

theorem toList_spelledPath (parent : String) (plus : Bool) (zeros n : Nat) :
    (spelledPath parent plus zeros n).toList = parent.toList ++ ['/'] ++ spelling plus zeros n := by
  have hSlash : "/".toList = ['/'] := rfl
  unfold spelledPath
  rw [String.toList_append, String.toList_append, hSlash, String.toList_ofList]

theorem numberOfPath?_eq_some_iff_spelled : numberOfPath? parent path = some n ↔
    n < UInt32.size ∧ ∃ plus zeros, path = spelledPath parent plus zeros n := by
  unfold numberOfPath?
  dsimp only
  rw [Option.ite_none_right_eq_some, word32?_eq_some_iff, List.isPrefixOf_iff_prefix,
    List.prefix_iff_eq_append, and_left_comm]
  refine and_congr_right fun _ => ?_
  constructor
  · rintro ⟨hBelow, plus, zeros, hNumeral⟩
    refine ⟨plus, zeros, String.toList_inj.mp ?_⟩
    rw [toList_spelledPath, ← hNumeral, hBelow]
  · rintro ⟨plus, zeros, rfl⟩
    rw [toList_spelledPath, List.drop_left]
    exact ⟨rfl, plus, zeros, rfl⟩

/-- A padded path is not one that is exported. -/
theorem Padded.ne_objectPath (h : Padded parent path n) (k : Nat) : path ≠ objectPath parent k := by
  obtain ⟨plus, zeros, hPadded, rfl⟩ := h
  intro hSame
  rw [objectPath_eq, ← String.toList_inj, toList_spelledPath, toList_spelledPath] at hSame
  obtain ⟨rfl, rfl, -⟩ := spelling_inj (List.append_cancel_left hSame)
  simp at hPadded

/-- The number of an object is read from its path and from its padded paths, and from no other. -/
theorem numberOfPath?_eq_some_iff : numberOfPath? parent path = some n ↔
    n < UInt32.size ∧ (path = objectPath parent n ∨ Padded parent path n) := by
  rw [numberOfPath?_eq_some_iff_spelled]
  refine and_congr_right fun _ => ?_
  constructor
  · rintro ⟨plus, zeros, rfl⟩
    by_cases hPadded : plus = true ∨ 0 < zeros
    · exact Or.inr ⟨plus, zeros, hPadded, rfl⟩
    · obtain ⟨rfl, rfl⟩ : plus = false ∧ zeros = 0 := by simpa using hPadded
      exact Or.inl (objectPath_eq parent n).symm
  · rintro (rfl | ⟨plus, zeros, -, rfl⟩)
    · exact ⟨false, 0, objectPath_eq parent n⟩
    · exact ⟨plus, zeros, rfl⟩

/-- A path is taken for a number in its exported form only, exactly if it is not padded. -/
theorem numberOfPath?_exact_iff (parent path : String) (n : UInt32) :
    (numberOfPath? parent path = some n.toNat ↔ path = objectPath parent n.toNat) ↔
      ¬ Padded parent path n.toNat := by
  have hSmall : n.toNat < UInt32.size := n.toNat_lt_size
  rw [numberOfPath?_eq_some_iff]
  constructor
  · intro hExact hPadded
    exact hPadded.ne_objectPath _ (hExact.mp ⟨hSmall, Or.inr hPadded⟩)
  · intro hNot
    exact ⟨fun h => h.2.resolve_right hNot, fun h => ⟨hSmall, Or.inl h⟩⟩

/-- Below two paths of which neither goes on from the other there is no path in common. -/
theorem Padded.ne_objectPath_of_apart {other : String} (h : Padded parent path n)
    (hApart : ¬ parent.toList ++ ['/'] <+: other.toList ++ ['/'] ∧
      ¬ other.toList ++ ['/'] <+: parent.toList ++ ['/']) (k : Nat) : path ≠ objectPath other k := by
  obtain ⟨plus, zeros, -, rfl⟩ := h
  intro hSame
  rw [objectPath_eq, ← String.toList_inj, toList_spelledPath, toList_spelledPath] at hSame
  rcases List.prefix_or_prefix_of_prefix (List.prefix_append ..) ⟨_, hSame.symm⟩ with hIn | hIn
  · exact hApart.1 hIn
  · exact hApart.2 hIn

theorem Padded.ne_of_short (h : Padded parent path n) {other : String}
    (hShort : ¬ parent.toList ++ ['/'] <+: other.toList) : path ≠ other := by
  obtain ⟨plus, zeros, -, rfl⟩ := h
  rintro rfl
  exact hShort ⟨_, (toList_spelledPath parent plus zeros n).symm⟩

-- ---------------------------------------------------------------------------
-- Callers
-- ---------------------------------------------------------------------------

namespace Manager

/-- The device that a caller's path stands for. -/
def deviceAt? (m : Manager) (path : String) : Option Nat :=
  (deviceOfPath? path).filter fun id => (m.device? id).isSome

/-- The request that a caller's path stands for. -/
def requestAt? (m : Manager) (path : String) : Option Request := (activeOfPath? path).bind m.request?

variable {m : Manager} {id uid : Nat} {r : Request} {path service connection : String}
  {specific : Option String}

theorem deviceAt?_eq_some_iff : m.deviceAt? path = some id ↔ (m.device? id).isSome = true ∧
    id < UInt32.size ∧ (path = devicePath id ∨ Padded devicesPath path id) := by
  unfold deviceAt? deviceOfPath? devicePath
  rw [Option.filter_eq_some_iff, numberOfPath?_eq_some_iff, and_comm]

theorem requestAt?_eq_some_iff : m.requestAt? path = some r ↔ m.request? r.id = some r ∧
    r.id < UInt32.size ∧ (path = activePath r.id ∨ Padded activeConnectionsPath path r.id) := by
  unfold requestAt? activeOfPath? activePath
  rw [Option.bind_eq_some_iff]
  constructor
  · rintro ⟨n, hNumber, hFound⟩
    obtain rfl := (request?_eq_some hFound).2
    exact ⟨hFound, numberOfPath?_eq_some_iff.mp hNumber⟩
  · rintro ⟨hFound, hNumber⟩
    exact ⟨r.id, numberOfPath?_eq_some_iff.mpr hNumber, hFound⟩

/-- A caller gets what is asked for at any path of a device. -/
theorem activateConnection_deviceAt? (h : m.deviceAt? path = some id) :
    m.activateConnection uid service connection path specific =
      m.activateConnection uid service connection (devicePath id) specific := by
  have hExported : m.deviceAt? (devicePath id) = some id := by
    obtain ⟨hThere, hSmall, -⟩ := deviceAt?_eq_some_iff.mp h
    exact deviceAt?_eq_some_iff.mpr ⟨hThere, hSmall, Or.inl rfl⟩
  unfold deviceAt? at h hExported
  unfold activateConnection
  rw [h, hExported]

/-- A caller who names no device is refused. -/
theorem activateConnection_nowhere (h : m.deviceAt? path = none) :
    ∃ e, m.activateConnection uid service connection path specific = (m, .error e) := by
  unfold deviceAt? at h
  unfold activateConnection
  rw [h]
  cases authorize m.allowed uid .useConnection with
  | error e => exact ⟨e, rfl⟩
  | ok u =>
    cases (Scope.ofServiceName? service).filter fun s => (m.cache s).running with
    | none => exact ⟨_, rfl⟩
    | some scope => exact ⟨_, rfl⟩

theorem deactivateConnection_requestAt? (h : m.requestAt? path = some r) :
    m.deactivateConnection uid path = m.deactivateConnection uid (activePath r.id) := by
  have hExported : m.requestAt? (activePath r.id) = some r := by
    obtain ⟨hThere, hSmall, -⟩ := requestAt?_eq_some_iff.mp h
    exact requestAt?_eq_some_iff.mpr ⟨hThere, hSmall, Or.inl rfl⟩
  unfold requestAt? at h hExported
  unfold deactivateConnection
  rw [h, hExported]

theorem deactivateConnection_nowhere (h : m.requestAt? path = none) :
    ∃ e, m.deactivateConnection uid path = (m, .error e) := by
  unfold requestAt? at h
  unfold deactivateConnection
  rw [h]
  cases authorize m.allowed uid .useConnection with
  | error e => exact ⟨e, rfl⟩
  | ok u => exact ⟨_, rfl⟩

end Manager

-- ---------------------------------------------------------------------------
-- What is exported
-- ---------------------------------------------------------------------------

/-- Nothing is exported at a path where neither the manager is, nor a device, nor an active connection. -/
theorem BusObjects.properties?_eq_none_iff (o : BusObjects) (path : String) :
    o.properties? path = none ↔ path ≠ managerPath ∧
      (∀ id, (o.devices.lookup id).isSome = true → path ≠ devicePath id) ∧
      ∀ id, (o.active.lookup id).isSome = true → path ≠ activePath id := by
  have hNone {α : Type} (objects : List (Nat × α)) (pathOf : Nat → String) :
      objects.find? (fun e => pathOf e.1 == path) = none ↔
        ∀ id, (objects.lookup id).isSome = true → path ≠ pathOf id := by
    rw [List.find?_eq_none]
    constructor
    · intro h id hThere hPath
      obtain ⟨e, he, hId⟩ := List.lookup_isSome_iff.mp hThere
      exact h e he (beq_iff_eq.mpr (beq_iff_eq.mp hId ▸ hPath.symm))
    · intro h e he hPath
      exact h e.1 (List.lookup_isSome_iff.mpr ⟨e, he, beq_self_eq_true e.1⟩) (beq_iff_eq.mp hPath).symm
  unfold properties?
  rw [← hNone o.devices devicePath, ← hNone o.active activePath]
  split
  case isTrue hManager => simp [hManager]
  case isFalse hOther =>
    cases o.devices.find? fun d => devicePath d.1 == path with
    | none => simp [hOther]
    | some d => simp

/-- What a caller's path stands for, and whether an object is exported there. -/
structure Resolves (o : BusObjects) (m : Manager) (path : String) : Prop where
  /-- A device is found where nothing is exported exactly if the path is a padded one of it. -/
  device : ∀ id, m.deviceAt? path = some id ∧ o.properties? path = none ↔
    (m.device? id).isSome = true ∧ id < UInt32.size ∧ Padded devicesPath path id
  /-- So is an active connection. -/
  request : ∀ r, m.requestAt? path = some r ∧ o.properties? path = none ↔
    m.request? r.id = some r ∧ r.id < UInt32.size ∧ Padded activeConnectionsPath path r.id
  /-- Whatever the path, the call is that at the path of the device, or it is refused. -/
  activates : ∀ uid service connection specific,
    (∀ id, m.deviceAt? path = some id → m.activateConnection uid service connection path specific =
      m.activateConnection uid service connection (devicePath id) specific) ∧
    (m.deviceAt? path = none →
      ∃ e, m.activateConnection uid service connection path specific = (m, .error e))
  deactivates : ∀ uid,
    (∀ r, m.requestAt? path = some r →
      m.deactivateConnection uid path = m.deactivateConnection uid (activePath r.id)) ∧
    (m.requestAt? path = none → ∃ e, m.deactivateConnection uid path = (m, .error e))

namespace Mirrors

variable {o : BusObjects} {m : Manager}

theorem lookup_device (h : Mirrors o m) (id : Nat) :
    (o.devices.lookup id).isSome = (m.device? id).isSome := by
  have hSame := congrArg Option.isSome (h.devices id)
  rwa [Option.isSome_map, Option.isSome_map] at hSame

theorem lookup_active (h : Mirrors o m) (id : Nat) :
    (o.active.lookup id).isSome = (m.request? id).isSome := by
  rw [h.active, Option.isSome_map]

/-- A path that stands for a device has no object exactly if it is padded. -/
theorem nothing_at_device (h : Mirrors o m) (id : Nat) (path : String) :
    m.deviceAt? path = some id ∧ o.properties? path = none ↔
      (m.device? id).isSome = true ∧ id < UInt32.size ∧ Padded devicesPath path id := by
  rw [Manager.deviceAt?_eq_some_iff, BusObjects.properties?_eq_none_iff]
  constructor
  · rintro ⟨⟨hThere, hSmall, hPath⟩, -, hDevices, -⟩
    refine ⟨hThere, hSmall, hPath.resolve_left (hDevices id ?_)⟩
    rwa [h.lookup_device]
  · rintro ⟨hThere, hSmall, hPadded⟩
    exact ⟨⟨hThere, hSmall, Or.inr hPadded⟩, hPadded.ne_of_short (by decide),
      fun k _ => hPadded.ne_objectPath k, fun k _ => hPadded.ne_objectPath_of_apart (by decide) k⟩

/-- A path that stands for an active connection has no object exactly if it is padded. -/
theorem nothing_at_request (h : Mirrors o m) (r : Request) (path : String) :
    m.requestAt? path = some r ∧ o.properties? path = none ↔
      m.request? r.id = some r ∧ r.id < UInt32.size ∧ Padded activeConnectionsPath path r.id := by
  rw [Manager.requestAt?_eq_some_iff, BusObjects.properties?_eq_none_iff]
  constructor
  · rintro ⟨⟨hThere, hSmall, hPath⟩, -, -, hActive⟩
    refine ⟨hThere, hSmall, hPath.resolve_left (hActive r.id ?_)⟩
    rw [h.lookup_active, hThere]
    rfl
  · rintro ⟨hThere, hSmall, hPadded⟩
    exact ⟨⟨hThere, hSmall, Or.inr hPadded⟩, hPadded.ne_of_short (by decide),
      fun k _ => hPadded.ne_objectPath_of_apart (by decide) k, fun k _ => hPadded.ne_objectPath k⟩

theorem resolves (h : Mirrors o m) (path : String) : Resolves o m path where
  device id := h.nothing_at_device id path
  request r := h.nothing_at_request r path
  activates _ _ _ _ := ⟨fun _ hAt => Manager.activateConnection_deviceAt? hAt,
    Manager.activateConnection_nowhere⟩
  deactivates _ := ⟨fun _ hAt => Manager.deactivateConnection_requestAt? hAt,
    Manager.deactivateConnection_nowhere⟩

end Mirrors

-- ---------------------------------------------------------------------------
-- Runs
-- ---------------------------------------------------------------------------

namespace Mirror

/-- A path is taken for a device or an active connection in its exported form only, exactly if it is not
padded. In every run, whenever no event waits, a path stands for something without an object exactly if it
is a padded path of a device or an active connection that is there; and then the call does all that it does
at the exported path. -/
theorem run_resolves (store : StateStore) (allowed : List Nat) (timeout : Option Nat) (epoch : Nat)
    (turns : List Turn) :
    let b := (start (Manager.start store allowed timeout epoch)).run turns
    (∀ path (n : UInt32),
      ((deviceOfPath? path = some n.toNat ↔ path = devicePath n.toNat) ↔
        ¬ Padded devicesPath path n.toNat) ∧
      ((activeOfPath? path = some n.toNat ↔ path = activePath n.toNat) ↔
        ¬ Padded activeConnectionsPath path n.toNat)) ∧
    (b.manager.events = [] → ∀ path, Resolves b.objects b.manager path) := by
  intro b
  refine ⟨fun path n => ⟨numberOfPath?_exact_iff devicesPath path n,
    numberOfPath?_exact_iff activeConnectionsPath path n⟩, fun hDone path => ?_⟩
  obtain ⟨o, hStart⟩ := start_trails store allowed timeout epoch [] rfl (List.suffix_refl _)
  obtain ⟨o', hTrails⟩ := hStart.run turns
  exact Mirrors.resolves (hTrails.mirrors hDone) path

/-- The scanner comes in and dials, and the bus follows. -/
def dialing : List Turn := Manager.DialUp.connecting.map Turn.operate ++ List.replicate 15 .follow

/-- The path of the scanner with a zero in front of its number. -/
def zeroPath : String := "/org/freedesktop/BarcodeManager/Devices/00"

theorem padded_zeroPath : Padded devicesPath zeroPath 0 := ⟨false, 1, Or.inr Nat.one_pos, by decide +kernel⟩

theorem dialing_followed :
    ((start (Manager.start Manager.DialUp.store [] none 0)).run dialing).manager.events = [] := by
  decide +kernel

/-- At the padded path of the scanner there is no object, but a call finds the scanner there. -/
theorem run_resolves_dialUp :
    let b := (start (Manager.start Manager.DialUp.store [] none 0)).run dialing
    b.manager.events = [] ∧ b.manager.deviceAt? zeroPath = some 0 ∧
      b.objects.properties? zeroPath = none ∧
      b.manager.activateConnection 0 Scope.system.serviceName "/c" zeroPath none =
        b.manager.activateConnection 0 Scope.system.serviceName "/c" (devicePath 0) none := by
  intro b
  have hResolves := (run_resolves Manager.DialUp.store [] none 0 dialing).2 dialing_followed zeroPath
  have hThere : (b.manager.device? 0).isSome = true := by decide +kernel
  obtain ⟨hAt, hNothing⟩ := (hResolves.device 0).mpr ⟨hThere, by decide, padded_zeroPath⟩
  exact ⟨dialing_followed, hAt, hNothing, (hResolves.activates 0 _ "/c" none).1 0 hAt⟩

/-- Paths are taken in other forms than the exported one, and a connection is activated at a path that has
no object. -/
theorem not_exact_padded :
    (¬ ∀ path (n : UInt32), deviceOfPath? path = some n.toNat ↔ path = devicePath n.toNat) ∧
      (¬ ∀ path (n : UInt32), activeOfPath? path = some n.toNat ↔ path = activePath n.toNat) ∧
      let b := (start (Manager.start Manager.DialUp.store [] none 0)).run dialing
      b.manager.events = [] ∧ b.objects.properties? zeroPath = none ∧
        (b.manager.activateConnection 0 Scope.system.serviceName "/c" zeroPath none).2 = .ok 1 := by
  refine ⟨fun h => ?_, fun h => ?_, dialing_followed, by decide +kernel, by decide +kernel⟩
  · exact absurd ((h "/org/freedesktop/BarcodeManager/Devices/007" 7).mp (by decide +kernel))
      (by decide +kernel)
  · exact absurd ((h "/org/freedesktop/BarcodeManager/ActiveConnection/007" 7).mp (by decide +kernel))
      (by decide +kernel)

end Mirror

end ScannerHub
