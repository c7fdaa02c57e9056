import ScannerHub.Proofs.Manager.Autoconnect
import ScannerHub.Proofs.Manager.Confinement
import ScannerHub.Proofs.Manager.Isolation

/-!
# Visits

A device that comes and goes at once leaves the manager as it found it. Meanwhile it may have started an
automatic activation, which is over in no time or waits for its link; the end of the device undoes it,
and nothing else was touched.

The state of the whole is computed anew when the device goes. That brings back the state from before,
unless it was out of date already: a manager that was shut down goes on showing its last state.

* `Manager.Restores` — a manager at two times, with the same devices, requests and switches.

## Results

* `Beside.restores` — what has changed nothing beside a device that was not there and is not there;
* `Settled.restores_visit` — a device comes and goes;
* `run_visit` — so it does after every run, and the state is the one that the switches and the devices
  ask for.
-/

namespace ScannerHub.Manager

variable {A : Nat → String → Prop} {m m' : Manager} {x : Nat} {d : Device}

-- ---------------------------------------------------------------------------
-- What is restored
-- ---------------------------------------------------------------------------

/-- One manager at two times. Only the numbers that were given out, the times at which connections were
used, the state of the whole and what the manager told may differ, and it told of no call for secrets. -/
structure Restores (m m' : Manager) : Prop where
  devices : m'.devices = m.devices
  requests : m'.requests = m.requests
  orphans : m'.orphans = m.orphans
  pending : m'.pending = m.pending
  queue : m'.queue = m.queue
  caches : ∀ scope, (m.cache scope).Restamped (m'.cache scope)
  invalid : m'.invalid = m.invalid
  sleeping : m'.sleeping = m.sleeping
  networkingEnabled : m'.networkingEnabled = m.networkingEnabled
  terms : m'.terms = m.terms
  store : m'.store = m.store
  epoch : m'.epoch = m.epoch
  exchanges : Exchange.ofEffects m'.effects = Exchange.ofEffects m.effects

theorem Restores.shown (h : m.Restores m') : m'.shown = m.shown := by
  unfold Manager.shown
  rw [h.sleeping, h.networkingEnabled, h.devices]

/-- Everything is beside a device that is not there. -/
theorem Fits.all_beside (h : m.Fits A) (hNone : m.device? x = none) :
    (m.devices.filter fun d => d.id != x) = m.devices ∧
      (m.requests.filter fun r => r.device != x) = m.requests ∧
        (m.orphans.filter fun o => o.1 != x) = m.orphans := by
  obtain ⟨hRequest, hOrphan⟩ := (h.sites x).absent hNone
  refine ⟨List.filter_eq_self.mpr fun d hd => ?_, List.filter_eq_self.mpr fun r hr => ?_,
    List.filter_eq_self.mpr fun o ho => ?_⟩
  · have hOther := List.find?_eq_none.mp hNone d hd
    simpa using hOther
  · have hOther := List.find?_eq_none.mp hRequest r hr
    simpa using hOther
  · have hOther := List.lookup_eq_none_iff.mp hOrphan o ho
    exact bne_iff_ne.mpr (Ne.symm (bne_iff_ne.mp hOther))

/-- Nothing has changed beside a device that was not there and is not there. -/
theorem Beside.restores (h : Beside x m m') (hBefore : m.Settled A) (hAfter : m'.Settled A)
    (hAbsent : m.device? x = none) (hGone : m'.device? x = none) : m.Restores m' := by
  obtain ⟨hDevices, hRequests, hOrphans⟩ := hBefore.toFits.all_beside hAbsent
  obtain ⟨hDevices', hRequests', hOrphans'⟩ := hAfter.toFits.all_beside hGone
  exact
    { devices := hDevices'.symm.trans (h.devices.trans hDevices)
      requests := hRequests'.symm.trans (h.requests.trans hRequests)
      orphans := hOrphans'.symm.trans (h.orphans.trans hOrphans)
      pending := hAfter.pending.trans hBefore.pending.symm
      queue := hAfter.queue.trans hBefore.queue.symm
      caches := h.caches
      invalid := h.invalid
      sleeping := h.sleeping
      networkingEnabled := h.networkingEnabled
      terms := h.terms
      store := h.store
      epoch := h.epoch
      exchanges := h.exchanges }

-- ---------------------------------------------------------------------------
-- A device that comes and goes
-- ---------------------------------------------------------------------------

/-- A device that was given up does not come back while the manager settles. -/
theorem Coherent.device?_removeDevice (h : m.Coherent A) (x : Nat) :
    (m.removeDevice x).device? x = none := by
  have hLast : ∀ m' : Manager, m'.device? x = none → m'.settle.device? x = none := by
    intro m' hNone
    have hLasts := (steps_settle (K := fun _ => False) m').lasts x
    rw [hNone] at hLasts
    generalize m'.settle.device? x = o at hLasts ⊢
    cases hLasts with
    | absent => rfl
    | comes hK => exact hK.elim
    | goes hK => exact hK.elim
  unfold Manager.removeDevice
  change (Manager.settle (if ((m.released x).pump.device? x).isSome then
    ((m.released x).pump.dismissed x).publish (.deviceRemoved x) else (m.released x).pump)).device? x = none
  refine hLast _ ?_
  split
  · exact ((h.released x).1.linked.device?_dismissed x x).trans (if_pos rfl)
  · rename_i hAbsent
    exact Option.not_isSome_iff_eq_none.mp hAbsent

/-- To give up a device that just came in restores the manager. -/
theorem Settled.restores_visit (h : m.Settled A) (hNew : d.IsNew) :
    m.Restores ((m.addDevice d).1.removeDevice m.nextDevice) := by
  have hComes := h.confines_addDevice hNew
  have hAdded := h.addDevice hNew
  have hGoes := hAdded.toCoherent.confines_removeDevice hComes.hosts
  exact (hComes.trans hGoes).beside.restores h (hAdded.removeDevice _) h.linked.device?_nextDevice
    (hAdded.toCoherent.device?_removeDevice _)

/-- The state of the whole is computed when a device goes. -/
theorem Rested.state_removeDevice (h : m.Rested A) (x : Nat) :
    (m.removeDevice x).state = (m.removeDevice x).shown := by
  have hComputed : (m.removeDevice x).state = (m.removeDevice x).aggregate := state_updateState _
  exact hComputed.trans (h.operate (.removeDevice x)).quiescent.aggregate_eq

/-- After every run, a new device that nobody knows comes in, and when it goes the manager is restored.
The state of the whole is then the one that the switches and the devices ask for. That is the state
from before, unless the manager was shut down and has not settled since. -/
theorem run_visit (store : StateStore) (allowed : List Nat) (timeout : Option Nat) (epoch : Nat)
    (operations : List Operation) {d : Device} (hNew : d.IsNew) :
    let m := (start store allowed timeout epoch).run operations
    ¬ m.Knows d →
      let m' := (m.addDevice d).1.removeDevice m.nextDevice
      (m.addDevice d).2 = some m.nextDevice ∧ m.Restores m' ∧ m'.state = m.shown ∧
        (m'.state = m.state ∨ (start store allowed timeout epoch).Stale operations) := by
  intro m hUnknown
  have hStart : (start store allowed timeout epoch).Rested fun _ _ => True :=
    start_rested store allowed timeout epoch
  have hRested : m.Rested fun _ _ => True := run_rested hStart operations
  have hRestores := hRested.toSettled.restores_visit hNew
  have hShown := ((hRested.operate (.addDevice hNew)).state_removeDevice m.nextDevice).trans
    hRestores.shown
  refine ⟨congrArg Prod.snd (addDevice_unknown hUnknown), hRestores, hShown, ?_⟩
  refine (run_state hStart.toSettled rfl operations).imp_left fun hState => ?_
  rw [hState, hRested.quiescent.aggregate_eq]
  exact hShown

/-- A second scanner comes while the first one dials. It starts to dial as well, and goes. -/
theorem visit_neighbour :
    let operations := DialUp.connecting ++ [.connectionAdded .system "/d" DialUp.eager]
    let m := (start DialUp.store [] none 0).run operations
    let m' := (m.addDevice DialUp.neighbour).1.removeDevice 1
    ¬ m.Knows DialUp.neighbour ∧
      (m.addDevice DialUp.neighbour).1.requests.map Request.path = ["/c", "/d"] ∧
        (m.addDevice DialUp.neighbour).2 = some 1 ∧ m.Restores m' ∧
          m'.state = .connecting ∧ m.state = .connecting := by
  intro operations m m'
  have hFacts : ¬ ((m.devices.any fun e => e.udi == DialUp.neighbour.udi ||
      e.interface == DialUp.neighbour.interface) = true) ∧ m.nextDevice = 1 ∧
        (m.addDevice DialUp.neighbour).1.requests.map Request.path = ["/c", "/d"] ∧
          m'.state = .connecting ∧ m.state = .connecting := by
    decide +kernel
  obtain ⟨hOthers, hNumber, hPaths, hState'⟩ := hFacts
  have hUnknown : ¬ m.Knows DialUp.neighbour := (m.knows_iff _).not.mpr hOthers
  obtain ⟨hAdded, hRestores, -, -⟩ :=
    run_visit DialUp.store [] none 0 operations DialUp.neighbour_isNew hUnknown
  rw [hNumber] at hAdded hRestores
  exact ⟨hUnknown, hPaths, hAdded, hRestores, hState'⟩

/-- A manager that was shut down while a scanner was dialing calls itself connecting, until the next
scanner has come and gone. -/
theorem not_restored_after_shutdown :
    let m := (start DialUp.store [] none 0).run (DialUp.connecting ++ [.shutdown])
    let m' := (m.addDevice DialUp.scanner).1.removeDevice m.nextDevice
    ¬ m.Knows DialUp.scanner ∧ (m.addDevice DialUp.scanner).2 = some m.nextDevice ∧
      m.state = .connecting ∧ m'.state = .disconnected := by
  intro m m'
  refine ⟨?_, by decide +kernel⟩
  rw [knows_iff]
  decide +kernel

end ScannerHub.Manager
