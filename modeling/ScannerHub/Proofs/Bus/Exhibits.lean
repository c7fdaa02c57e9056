import ScannerHub.Bus.Objects
import ScannerHub.Proofs.Manager.Hindsight

/-!
# What an event changes on the bus

Each event changes at most one object on the bus, and only two of them make the bus tell that a device
came or went.

* `Exhibit` — one object, next to what it stands for;
* `comings` — the signals that a device came or went at a path;
* `Told` — what was said of the coming and going of one device.

## Results

* `Exhibit.operate`, `Exhibit.change`, … — an object stays fit for what it stands for;
* `BusObjects.device_sync_…`, `BusObjects.active_sync_…` — what an event changes;
* `Told.added`, `Told.removed` — a device comes once, and then goes once.
-/

namespace ScannerHub

-- ---------------------------------------------------------------------------
-- One object
-- ---------------------------------------------------------------------------

section Exhibits

variable {α σ : Type} {current : σ → α → Prop} {known known' waits waits' : Prop} {shown : Option σ}
  {there there' : Option α}

/-- An object on the bus, next to what it stands for. It is shown only if it is known of, and it is
shown if it is known of and still there; what is shown is current, or something waits that tells of
it. -/
structure Exhibit (current : σ → α → Prop) (known waits : Prop) (shown : Option σ)
    (there : Option α) : Prop where
  justified : shown.isSome = true → known
  complete : known → there.isSome = true → shown.isSome = true
  fresh : ∀ s a, shown = some s → there = some a → current s a ∨ waits

/-- What it stands for goes on, ends, or begins. -/
theorem Exhibit.operate (h : Exhibit current known waits shown there)
    (hWaits : waits → waits') (hBack : known → there'.isSome = true → there.isSome = true)
    (hStill : ∀ a a', known → there = some a → there' = some a' →
      (∀ s, current s a → current s a') ∨ waits') :
    Exhibit current known waits' shown there' := by
  refine ⟨h.justified, fun hKnown hThere' => h.complete hKnown (hBack hKnown hThere'),
    fun s a' hShown hThere' => ?_⟩
  have hKnown := h.justified (by rw [hShown]; rfl)
  obtain ⟨a, hThere⟩ := Option.isSome_iff_exists.mp (hBack hKnown (by rw [hThere']; rfl))
  rcases h.fresh s a hShown hThere with hCurrent | hWaited
  · exact (hStill a a' hKnown hThere hThere').imp_left fun hSame => hSame s hCurrent
  · exact Or.inr (hWaits hWaited)

/-- An event that is about something else is followed. -/
theorem Exhibit.elsewhere (h : Exhibit current known waits shown there) (hKnown : known' ↔ known)
    (hWaits : waits → waits') : Exhibit current known' waits' shown there :=
  ⟨fun hShown => hKnown.mpr (h.justified hShown), fun hIs => h.complete (hKnown.mp hIs),
   fun s a hShown hThere => (h.fresh s a hShown hThere).imp_right hWaits⟩

/-- It is neither shown nor there. -/
theorem Exhibit.absent : Exhibit current known waits (none : Option σ) (none : Option α) :=
  ⟨nofun, fun _ => nofun, nofun⟩

/-- It is shown as it is, if it is there. -/
theorem Exhibit.come (f : α → σ) (hKnown : known) (hCurrent : ∀ a, current (f a) a) :
    Exhibit current known waits (there.map f) there := by
  refine ⟨fun _ => hKnown, fun _ hThere => by rwa [Option.isSome_map], fun s a hShown hThere => ?_⟩
  rw [hThere] at hShown
  cases hShown
  exact Or.inl (hCurrent a)

/-- It is taken away. -/
theorem Exhibit.leave (hKnown : ¬ known) : Exhibit current known waits (none : Option σ) there :=
  ⟨nofun, fun hIs => absurd hIs hKnown, nofun⟩

/-- It changes, if it is shown and there. -/
theorem Exhibit.change (h : Exhibit current known waits shown there) (f : α → σ)
    (hKnown : known' ↔ known) (hCurrent : ∀ a, there = some a → current (f a) a ∨ waits') :
    Exhibit current known' waits' (shown.bind fun s => (there.map f).or (some s)) there := by
  refine ⟨fun hShown => ?_, fun hIs hThere => ?_, fun s a hShown hThere => ?_⟩
  · obtain ⟨s, hNew⟩ := Option.isSome_iff_exists.mp hShown
    obtain ⟨old, hOld, -⟩ := Option.bind_eq_some_iff.mp hNew
    exact hKnown.mpr (h.justified (by rw [hOld]; rfl))
  · obtain ⟨s, hOld⟩ := Option.isSome_iff_exists.mp (h.complete (hKnown.mp hIs) hThere)
    obtain ⟨a, ha⟩ := Option.isSome_iff_exists.mp hThere
    rw [hOld, ha]
    rfl
  · obtain ⟨old, -, hNew⟩ := Option.bind_eq_some_iff.mp hShown
    rw [hThere] at hNew
    cases hNew
    exact hCurrent a hThere

/-- Once nothing waits, and what is known of is what is there, what is shown is current. -/
theorem Exhibit.settled (h : Exhibit current known waits shown there)
    (hKnown : known ↔ there.isSome = true) (hDone : ¬ waits) :
    shown = none ∧ there = none ∨ ∃ s a, shown = some s ∧ there = some a ∧ current s a := by
  cases hThere : there with
  | none =>
    refine Or.inl ⟨Option.not_isSome_iff_eq_none.mp fun hShown => ?_, rfl⟩
    have hIs := hKnown.mp (h.justified hShown)
    rw [hThere] at hIs
    cases hIs
  | some a =>
    have hIs : there.isSome = true := by rw [hThere]; rfl
    obtain ⟨s, hShown⟩ := Option.isSome_iff_exists.mp (h.complete (hKnown.mpr hIs) hIs)
    exact Or.inr ⟨s, a, hShown, rfl, (h.fresh s a hShown hThere).resolve_right hDone⟩

end Exhibits

-- ---------------------------------------------------------------------------
-- What an event changes
-- ---------------------------------------------------------------------------

namespace BusObjects

variable (o : BusObjects) (m : Manager) {e : ManagerEvent} {id : Nat}

theorem device_sync_elsewhere (hElse : e.deviceTold? ≠ some id) :
    (o.sync m e).1.devices.lookup id = o.devices.lookup id := by
  have hPut : ∀ i status, some i ≠ some id →
      (o.setDevice i status).devices.lookup id = o.devices.lookup id := fun i status hOther =>
    (lookup_put o.devices i id status).trans (if_neg fun hId => hOther (congrArg some hId.symm))
  cases e with
  | deviceAdded i =>
    unfold sync
    dsimp only
    split
    · rfl
    · exact hPut i _ hElse
  | deviceRemoved i =>
    unfold sync
    dsimp only
    split
    · rfl
    · exact (lookup_filter_ne o.devices i id).trans (if_neg fun hId => hElse (congrArg some hId.symm))
  | deviceStateChanged i new old reason =>
    unfold sync
    dsimp only
    split
    · exact hPut i _ hElse
    · rfl
  | _ => first | rfl | (unfold sync; dsimp only; split <;> rfl)

theorem device_sync_added (hShown : o.devices.lookup id = none) :
    (o.sync m (.deviceAdded id)).1.devices.lookup id = (m.device? id).map DeviceStatus.of := by
  unfold sync
  dsimp only
  split
  · rename_i hNone
    rw [hNone]
    exact hShown
  · rename_i d hd
    rw [hd]
    exact (lookup_put o.devices id id _).trans (if_pos rfl)

theorem device_sync_removed : (o.sync m (.deviceRemoved id)).1.devices.lookup id = none := by
  unfold sync
  dsimp only
  split
  · rename_i hNone
    exact Option.isNone_iff_eq_none.mp hNone
  · exact (lookup_filter_ne o.devices id id).trans (if_pos rfl)

/-- What is shown of a device after an event that says to have moved it. -/
def moved (new : DeviceState) (d : Device) : DeviceStatus :=
  { DeviceStatus.of d with state := new.number }

theorem device_sync_moved (new old : DeviceState) (reason : StateReason) :
    (o.sync m (.deviceStateChanged id new old reason)).1.devices.lookup id =
      (o.devices.lookup id).bind fun s => ((m.device? id).map (moved new)).or (some s) := by
  unfold sync
  dsimp only
  split
  · rename_i d s hd hShown
    rw [hd, hShown]
    exact (lookup_put o.devices id id _).trans (if_pos rfl)
  · rename_i hNot
    cases hShown : o.devices.lookup id with
    | none => rfl
    | some s =>
      cases hd : m.device? id with
      | none => rfl
      | some d => exact absurd hShown (hNot d s hd)

theorem active_sync_elsewhere (hElse : e.requestTold? ≠ some id) :
    (o.sync m e).1.active.lookup id = o.active.lookup id := by
  have hPut : ∀ i status, some i ≠ some id →
      (o.setActive i status).active.lookup id = o.active.lookup id := fun i status hOther =>
    (lookup_put o.active i id status).trans (if_neg fun hId => hOther (congrArg some hId.symm))
  cases e with
  | activeConnectionAdded i =>
    unfold sync
    dsimp only
    split
    · rfl
    · exact hPut i _ hElse
  | activeConnectionRemoved i =>
    exact (lookup_filter_ne o.active i id).trans (if_neg fun hId => hElse (congrArg some hId.symm))
  | activeConnectionChanged i =>
    unfold sync
    dsimp only
    split
    · exact hPut i _ hElse
    · rfl
  | _ => first | rfl | (unfold sync; dsimp only; split <;> rfl)

theorem active_sync_added (hShown : o.active.lookup id = none) :
    (o.sync m (.activeConnectionAdded id)).1.active.lookup id =
      (m.request? id).map ActiveStatus.of := by
  unfold sync
  dsimp only
  split
  · rename_i hNone
    rw [hNone]
    exact hShown
  · rename_i r hr
    rw [hr]
    exact (lookup_put o.active id id _).trans (if_pos rfl)

theorem active_sync_changed : (o.sync m (.activeConnectionChanged id)).1.active.lookup id =
    (o.active.lookup id).bind fun s => ((m.request? id).map ActiveStatus.of).or (some s) := by
  unfold sync
  dsimp only
  split
  · rename_i r s hr hShown
    rw [hr, hShown]
    exact (lookup_put o.active id id _).trans (if_pos rfl)
  · rename_i hNot
    cases hShown : o.active.lookup id with
    | none => rfl
    | some s =>
      cases hr : m.request? id with
      | none => rfl
      | some r => exact absurd hShown (hNot r s hr)

theorem state_sync_elsewhere (hElse : ∀ state, e ≠ .stateChanged state) :
    (o.sync m e).1.manager.state = o.manager.state := by
  cases e with
  | stateChanged state => exact absurd rfl (hElse state)
  | _ => first | rfl | (unfold sync; dsimp only; split <;> rfl)

theorem networking_sync_elsewhere (hElse : ∀ enabled, e ≠ .networkingEnabledChanged enabled) :
    (o.sync m e).1.manager.networkingEnabled = o.manager.networkingEnabled := by
  cases e with
  | networkingEnabledChanged enabled => exact absurd rfl (hElse enabled)
  | _ => first | rfl | (unfold sync; dsimp only; split <;> rfl)

theorem listed_sync_elsewhere (hElse : e ≠ .activeConnectionsChanged) :
    (o.sync m e).1.manager.activeConnections = o.manager.activeConnections := by
  cases e with
  | activeConnectionsChanged => exact absurd rfl hElse
  | _ => first | rfl | (unfold sync; dsimp only; split <;> rfl)

theorem listed_sync : (o.sync m .activeConnectionsChanged).1.manager.activeConnections =
    (ManagerStatus.of m).activeConnections := by
  unfold sync
  dsimp only
  split
  · assumption
  · rfl

/-- No object is there twice. -/
theorem distinct_sync (h : (o.devices.map Prod.fst).Nodup ∧ (o.active.map Prod.fst).Nodup)
    (e : ManagerEvent) : ((o.sync m e).1.devices.map Prod.fst).Nodup ∧
      ((o.sync m e).1.active.map Prod.fst).Nodup := by
  obtain ⟨hDevices, hActive⟩ := h
  cases e <;> unfold sync <;> dsimp only
  case deviceAdded i =>
    split
    · exact ⟨hDevices, hActive⟩
    · exact ⟨nodup_put _ i hDevices _, hActive⟩
  case deviceRemoved i =>
    split
    · exact ⟨hDevices, hActive⟩
    · exact ⟨nodup_filter_ne _ i hDevices, hActive⟩
  case deviceStateChanged i new old reason =>
    split
    · exact ⟨nodup_put _ i hDevices _, hActive⟩
    · exact ⟨hDevices, hActive⟩
  case activeConnectionAdded i =>
    split
    · exact ⟨hDevices, hActive⟩
    · exact ⟨hDevices, nodup_put _ i hActive _⟩
  case activeConnectionRemoved i => exact ⟨hDevices, nodup_filter_ne _ i hActive⟩
  case activeConnectionChanged i =>
    split
    · exact ⟨hDevices, nodup_put _ i hActive _⟩
    · exact ⟨hDevices, hActive⟩
  case activeConnectionsChanged =>
    split <;> exact ⟨hDevices, hActive⟩
  all_goals exact ⟨hDevices, hActive⟩

end BusObjects

-- ---------------------------------------------------------------------------
-- Comings and goings
-- ---------------------------------------------------------------------------

/-- The device at whose path a signal says that one came or went. -/
def Signal.comes? : Signal → Option String
  | .deviceAdded id | .deviceRemoved id => some (devicePath id)
  | _ => none

/-- The signals that a device came or went at a path. -/
def comings (path : String) (signals : List Signal) : List Signal :=
  signals.filter fun s => s.comes? == some path

theorem devicePath_injective : Function.Injective devicePath := by
  intro i j hPath
  have hNumber : i.repr = j.repr := by
    unfold devicePath objectPath at hPath
    simpa [toString, String.append_right_inj] using hPath
  rw [Nat.repr_eq_ofList_toDigits, Nat.repr_eq_ofList_toDigits, String.ofList_inj] at hNumber
  rw [← Nat.ofDigitChars_ten_toDigits (n := i), hNumber, Nat.ofDigitChars_ten_toDigits]

theorem comings_append (path : String) (signals signals' : List Signal) :
    comings path (signals ++ signals') = comings path signals ++ comings path signals' :=
  List.filter_append _ _

/-- Signals about the properties of an object are about no coming and no going. -/
theorem comings_properties (path : String) (object : ExportedObject) (properties : List Property) :
    comings path (properties.map (Signal.propertyChanged object)) = [] := by
  refine List.filter_eq_nil_iff.mpr fun s hs => ?_
  obtain ⟨property, -, rfl⟩ := List.mem_map.mp hs
  exact Bool.false_ne_true

/-- Nothing comes or goes at a path where no device can be. -/
theorem comings_nowhere {path : String} (hNone : ∀ id, devicePath id ≠ path) (signals : List Signal) :
    comings path signals = [] := by
  refine List.filter_eq_nil_iff.mpr fun s _ hComes => ?_
  have hPath := beq_iff_eq.mp hComes
  cases s with
  | deviceAdded id => exact hNone id (Option.some.inj hPath)
  | deviceRemoved id => exact hNone id (Option.some.inj hPath)
  | _ => cases hPath

theorem comings_one {s : Signal} {i : Nat} (hComes : s.comes? = some (devicePath i)) (id : Nat) :
    comings (devicePath id) [s] = if i = id then [s] else [] := by
  unfold comings
  rw [List.filter_singleton, hComes]
  by_cases hId : i = id
  · rw [if_pos hId, hId, beq_self_eq_true]
    rfl
  · have hPath : (some (devicePath i) == some (devicePath id)) = false :=
      beq_eq_false_iff_ne.mpr fun hSame => hId (devicePath_injective (Option.some.inj hSame))
    rw [if_neg hId, hPath]
    rfl

/-- What was said of the coming and going of a device, next to whether it is shown and whether it was
heard of. -/
structure Told (id : Nat) (seen shown : Prop) (said : List Signal) : Prop where
  unseen : ¬ seen → said = []
  shown : shown ↔ said = [.deviceAdded id]
  inTurn : said <+: [.deviceAdded id, .deviceRemoved id]

namespace BusObjects

variable (o : BusObjects) (m : Manager) {e : ManagerEvent} {id : Nat}

/-- Only an event that a device came or went makes the bus tell so. -/
theorem comings_sync_elsewhere (hElse : ∀ i, e ≠ .deviceAdded i ∧ e ≠ .deviceRemoved i)
    (path : String) : comings path (o.sync m e).2 = [] := by
  cases e with
  | deviceAdded i => exact absurd rfl (hElse i).1
  | deviceRemoved i => exact absurd rfl (hElse i).2
  | deviceStateChanged i new old reason =>
    unfold sync
    dsimp only
    split
    · rw [comings_append]
      exact congrArg (· ++ []) (comings_properties path _ _)
    · rfl
  | activeConnectionChanged i =>
    unfold sync
    dsimp only
    split
    · exact comings_properties path _ _
    · rfl
  | _ => first | rfl | (unfold sync; dsimp only; split <;> rfl)

theorem comings_sync_added (i id : Nat) :
    comings (devicePath id) (o.sync m (.deviceAdded i)).2 =
      if i = id ∧ (m.device? i).isSome = true then [.deviceAdded i] else [] := by
  unfold sync
  dsimp only
  cases m.device? i with
  | none => exact (if_neg fun hBoth => Bool.false_ne_true hBoth.2).symm
  | some d =>
    rw [comings_one rfl]
    simp only [Option.isSome_some, and_true]

theorem comings_sync_removed (i id : Nat) :
    comings (devicePath id) (o.sync m (.deviceRemoved i)).2 =
      if i = id ∧ (o.devices.lookup i).isSome = true then [.deviceRemoved i] else [] := by
  unfold sync
  dsimp only
  cases o.devices.lookup i with
  | none => exact (if_neg fun hBoth => Bool.false_ne_true hBoth.2).symm
  | some s =>
    show comings _ [Signal.deviceRemoved i] = _
    rw [comings_one rfl]
    simp only [Option.isSome_some, and_true]

end BusObjects

section Said

variable {o : BusObjects} {m : Manager} {seen : List Nat} {said : List Signal} {id i : Nat}

/-- What was said before an event, and what is said at the event. -/
theorem Told.added (h : Told id (id ∈ seen) ((o.devices.lookup id).isSome = true) said)
    (hNew : i ∉ seen) : Told id (id ∈ i :: seen)
      (((o.sync m (.deviceAdded i)).1.devices.lookup id).isSome = true)
      (said ++ comings (devicePath id) (o.sync m (.deviceAdded i)).2) := by
  rw [o.comings_sync_added m]
  by_cases hId : i = id
  · subst hId
    have hUnsaid := h.unseen hNew
    have hHidden : o.devices.lookup i = none := Option.not_isSome_iff_eq_none.mp fun hShown => by
      rw [hUnsaid] at h
      cases h.shown.mp hShown
    rw [o.device_sync_added m hHidden, hUnsaid, Option.isSome_map]
    refine ⟨fun hUnseen => absurd List.mem_cons_self hUnseen, ?_, ?_⟩
    · simp only [true_and, List.nil_append, ite_eq_left_iff, List.nil_eq, reduceCtorEq, imp_false,
        not_not]
    · split
      · exact ⟨[_], rfl⟩
      · exact List.nil_prefix
  · have hElse : (ManagerEvent.deviceAdded i).deviceTold? ≠ some id :=
      fun hSame => hId (Option.some.inj hSame)
    rw [if_neg fun hBoth => hId hBoth.1, List.append_nil, o.device_sync_elsewhere m hElse]
    exact ⟨fun hUnseen => h.unseen fun hSeen => hUnseen (List.mem_cons_of_mem i hSeen), h.shown,
      h.inTurn⟩

theorem Told.removed (h : Told id (id ∈ seen) ((o.devices.lookup id).isSome = true) said) :
    Told id (id ∈ seen) (((o.sync m (.deviceRemoved i)).1.devices.lookup id).isSome = true)
      (said ++ comings (devicePath id) (o.sync m (.deviceRemoved i)).2) := by
  rw [o.comings_sync_removed m]
  by_cases hId : i = id
  · subst hId
    rw [o.device_sync_removed m]
    split
    · rename_i hBoth
      have hSaid := h.shown.mp hBoth.2
      rw [hSaid]
      refine ⟨fun hUnseen => ?_, ⟨nofun, nofun⟩, List.prefix_refl _⟩
      have hUnsaid := h.unseen hUnseen
      rw [hSaid] at hUnsaid
      cases hUnsaid
    · rename_i hNot
      rw [List.append_nil]
      exact ⟨h.unseen, ⟨nofun, fun hSaid => absurd ⟨rfl, h.shown.mpr hSaid⟩ hNot⟩, h.inTurn⟩
  · have hElse : (ManagerEvent.deviceRemoved i).deviceTold? ≠ some id :=
      fun hSame => hId (Option.some.inj hSame)
    rw [if_neg fun hBoth => hId hBoth.1, List.append_nil, o.device_sync_elsewhere m hElse]
    exact h

end Said

end ScannerHub
