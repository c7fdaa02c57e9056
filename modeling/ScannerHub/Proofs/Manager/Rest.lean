import Mathlib.Data.List.Basic
import Mathlib.Data.List.Induction
import ScannerHub.Proofs.Manager.Course

/-!
# A manager at rest

Between two operations nothing is left to do. Beside what a settled manager is like, nothing is due
on any device, and while the manager sleeps no device is managed.

The state of the whole is then the one that the devices ask for, with one exception: to shut down
drops all devices and computes no state any more. The state that was there stays until an operation
settles again.

* `Manager.Rested` — a manager between two operations;
* `Manager.Quiescent`, `Manager.shown` — what others can see of that.

## Results

* `run_rested` — every manager of a run is at rest;
* `run_quiescent` — nothing is left to do, and the state of the whole is right.
-/

namespace ScannerHub

namespace Manager

variable {A : Nat → String → Prop} {m m' : Manager}

-- ---------------------------------------------------------------------------
-- A manager that sleeps
-- ---------------------------------------------------------------------------

theorem Change.isAsleep {s s' : Manager × Agenda} (h : Change A s s') :
    s'.1.isAsleep = s.1.isAsleep := by
  cases h with
  | quiet more hFits hLeaves hMisses => exact hLeaves.isAsleep
  | teardown hr reason => exact (decides_teardown _ _ reason).isAsleep
  | update hd => exact (decides_updateDevice _ _ _).isAsleep
  | recover hFailed reason => exact (decides_updateDevice _ _ _).isAsleep
  | launch => exact (decides_launch _ _ _ _).isAsleep
  | sum => exact (decides_updateState _).isAsleep
  | schedule => exact (decides_schedule _ _).isAsleep
  | unschedule id => exact (decides_modifyDevice _ _ _).isAsleep
  | number => rfl
  | tell => rfl
  | take => rfl
  | looked => rfl
  | arrive => rfl
  | dismiss => rfl
  | disband => rfl

/-- While the manager sleeps no change makes a device managed. -/
theorem Change.dormant {s s' : Manager × Agenda} (h : Change A s s') (hFits : s.1.Fits A)
    (hDormant : s.1.Dormant) : s'.1.Dormant := by
  intro hAsleep id d' hd
  have hWasAsleep : s.1.isAsleep = true := h.isAsleep ▸ hAsleep
  obtain ⟨d, hOld, hFares⟩ | hArrived := h.fares hFits hd
  · refine Bool.eq_false_iff.mpr fun hManaged => ?_
    have hWasManaged := hFares.managed hWasAsleep hManaged
    rw [hDormant hWasAsleep id d hOld] at hWasManaged
    cases hWasManaged
  · exact hArrived.managed

theorem Changes.dormant {s s' : Manager × Agenda} (h : Changes A s s') (hFits : s.1.Fits A)
    (hDormant : s.1.Dormant) : s'.1.Dormant :=
  changes_preserve (P := fun s => s.1.Dormant) (fun h => h.dormant) h hFits hDormant

/-- Every device is told to give up its activation, and is not managed any more. -/
theorem Fits.release_all (h : m.Fits A) (reason : StateReason) :
    ∀ id d, (m.devices.foldl (fun m d => m.updateDevice d.id fun d => d.setManaged false reason)
      m).device? id = some d → d.managed = false := by
  let P : List Device → Manager → Prop := fun rest m' => m'.Fits A ∧
    ∀ id d, m'.device? id = some d → id ∈ rest.map Device.id ∨ d.managed = false
  have hStep : ∀ (e : Device) (rest : List Device) (m' : Manager), P (e :: rest) m' →
      P rest (m'.updateDevice e.id fun d => d.setManaged false reason) := by
    rintro e rest m' ⟨hFits, hDone⟩
    have hDoes := Does.order hFits e.id (.release reason)
    refine ⟨hDoes.fits hFits, fun id d hd => ?_⟩
    obtain ⟨d₀, hOld, ⟨-, rfl, -⟩ | ⟨hNe, rfl, -⟩⟩ :=
      hFits.updated_cases (fun _ => Device.setManaged_carries false reason) hd
    · exact Or.inr (Device.setManaged_false_managed d₀ reason)
    · refine (hDone id d hOld).imp_left fun hIn => ?_
      rw [List.map_cons, List.mem_cons] at hIn
      exact hIn.resolve_left hNe
  have hStart : P m.devices m := by
    refine ⟨h, fun id d hd => ?_⟩
    obtain ⟨hMem, rfl⟩ := device?_eq_some hd
    exact Or.inl (List.mem_map_of_mem hMem)
  obtain ⟨-, hDone⟩ := foldl_rest (P := P) hStep m.devices m hStart
  exact fun id d hd => (hDone id d hd).resolve_left List.not_mem_nil

/-- A switch that puts the manager to sleep leaves no device managed. -/
theorem Coherent.dormant_applySwitches (h : m.Coherent A) : m.applySwitches.Dormant := by
  refine Changes.dormant (h.switched.settle_does .empty) h.switched.toFits fun hNow => ?_
  unfold Manager.switched at hNow ⊢
  cases hAsleep : m.isAsleep with
  | true =>
    rw [if_pos rfl]
    have hFits : ({ m with invalid := [] } : Manager).Fits A :=
      h.toFits.same ⟨rfl, rfl, rfl, rfl, rfl, rfl, rfl, fun _ => rfl⟩
    have hEnded := Does.foldl m.requests (fun m r _ => Does.teardown m r.id .sleeping) hFits
    exact (hEnded.fits hFits).release_all .sleeping
  | false =>
    rw [hAsleep, if_neg Bool.false_ne_true] at hNow
    have hAwake := foldl_rest (P := fun _ m' => m'.isAsleep = false)
      (fun d _ m' h' => (decides_updateDevice m' d.id fun d =>
        { d with autoconnectInhibited := false }.setManaged true .nowManaged).isAsleep.trans h')
      m.devices m hAsleep
    rw [hAwake] at hNow
    cases hNow

theorem Fits.dormant_firmware (h : m.Fits A) (hDormant : m.Dormant) (id : Nat) (missing : Bool) :
    (m.updateDevice id fun d => d.setFirmwareMissing missing).Dormant := by
  intro hAsleep x d hd
  rw [(decides_updateDevice m id _).isAsleep] at hAsleep
  obtain ⟨d₀, hOld, ⟨-, rfl, -⟩ | ⟨-, rfl, -⟩⟩ :=
    h.updated_cases (fun _ => Device.setFirmwareMissing_carries missing) hd
  · exact (Device.setFirmwareMissing_proceeds d₀ missing).flags.managed.trans
      (hDormant hAsleep x d₀ hOld)
  · exact hDormant hAsleep x d hOld

/-- The manager stays dormant, whatever is asked of it. -/
theorem Settled.operate_dormant (h : m.Settled A) (hDormant : m.Dormant) (operation : Operation) :
    (m.operate operation).Dormant := by
  obtain ⟨m₁, hBegins, hChanges⟩ := h.operate_changes hDormant operation
  have hCoherent := hBegins.coherent h.toCoherent
  cases hBegins with
  | same => exact hChanges.dormant h.toFits hDormant
  | firmware missing hd =>
    exact hChanges.dormant hCoherent.toFits (h.toFits.dormant_firmware hDormant _ missing)
  | @sleeping uid sleeping hNe =>
    show (m.setSleeping uid sleeping).1.Dormant
    unfold Manager.setSleeping
    split
    · exact hDormant
    · split
      · exact hDormant
      · exact hCoherent.dormant_applySwitches
  | @enabled uid enabled hNe =>
    show (m.setEnabled uid enabled).1.Dormant
    unfold Manager.setEnabled
    split
    · exact hDormant
    · split
      · exact hDormant
      · exact hCoherent.dormant_applySwitches

-- ---------------------------------------------------------------------------
-- What is due
-- ---------------------------------------------------------------------------

/-- A manager between two operations. -/
structure Rested (A : Nat → String → Prop) (m : Manager) : Prop extends Settled A m where
  dormant : m.Dormant
  undue : ∀ id d, m.device? id = some d → d.activationScheduled = false

/-- A device on which an automatic activation is due is one that the manager knows of. -/
def NotesDue (s : Manager × Agenda) : Prop :=
  ∀ id d, s.1.device? id = some d → d.activationScheduled = true → Awaited s id

theorem Change.notesDue {s s' : Manager × Agenda} (h : Change A s s') (hFits : s.1.Fits A)
    (hNotes : NotesDue s) : NotesDue s' := by
  intro id d' hd hDue
  obtain ⟨d, hOld, hFares⟩ | hArrived := h.fares hFits hd
  · obtain hNoted | ⟨hWasDue, hStays⟩ := hFares.scheduled hDue
    · exact hNoted
    · exact hStays (hNotes id d hOld hWasDue)
  · rw [hArrived.scheduled] at hDue
    cases hDue

/-- An operation begins with nothing that makes an automatic activation due. -/
theorem Begins.undue {operation : Operation} (h : m.Begins operation m') (hFits : m.Fits A)
    (hUndue : ∀ id d, m.device? id = some d → d.activationScheduled = false) :
    ∀ id d, m'.device? id = some d → d.activationScheduled = false := by
  intro id d hd
  obtain ⟨hOld, -⟩ | ⟨interface, missing, d₀, -, -, hOld, rfl, -⟩ := h.device_cases hFits hd
  · exact hUndue id d hOld
  · exact (Device.setFirmwareMissing_proceeds d₀ missing).flags.scheduled.trans (hUndue id d₀ hOld)

/-- Every operation leads from rest to rest. -/
theorem Rested.operate (h : m.Rested A) (operation : Operation) : (m.operate operation).Rested A := by
  have hSettled := operate_settled h.toSettled operation
  obtain ⟨m₁, hBegins, hChanges⟩ := h.toSettled.operate_changes h.dormant operation
  have hFits := (hBegins.coherent h.toCoherent).toFits
  have hStart : NotesDue (m₁, .empty) := by
    intro id d hd hDue
    rw [hBegins.undue h.toFits h.undue id d hd] at hDue
    cases hDue
  have hNotes := changes_preserve (P := NotesDue) (fun h => h.notesDue) hChanges hFits hStart
  refine ⟨hSettled, h.toSettled.operate_dormant h.dormant operation, fun id d hd => ?_⟩
  refine Bool.eq_false_iff.mpr fun hDue => ?_
  -- nothing is left that would be known of
  obtain hPending | hTaken := hNotes id d hd hDue
  · rw [show Manager.pending _ = [] from hSettled.pending] at hPending
    cases hPending
  · cases hTaken

theorem start_rested (store : StateStore) (allowed : List Nat) (timeout : Option Nat)
    (epoch : Nat) : (start store allowed timeout epoch).Rested A :=
  ⟨start_settled store allowed timeout epoch, fun _ _ _ hd => (by cases hd),
    fun _ _ hd => (by cases hd)⟩

/-- Every manager of a run is at rest. -/
theorem run_rested (h : m.Rested A) (operations : List Operation) : (m.run operations).Rested A := by
  induction operations generalizing m with
  | nil => exact h
  | cons operation operations ih => exact ih (h.operate operation)

/-- The oldest events may be taken, if nobody needs to know what they said of links. -/
theorem Rested.taken (h : m.Rested fun _ _ => True) {events : List ManagerEvent}
    (hLeft : events <:+ m.events) : Rested (fun _ _ => True) { m with events } := by
  obtain ⟨taken, hEvents⟩ := hLeft
  refine ⟨h.toSettled.retold fun d hd hLink hActive => ?_, h.dormant, h.undue⟩
  have hNews : m.news d.id =
      taken.filterMap (ManagerEvent.linkNews? d.id) ++ ({ m with events } : Manager).news d.id := by
    unfold news
    rw [← hEvents, List.filterMap_append]
  cases hLeft : ({ m with events } : Manager).news d.id with
  | nil => exact Or.inr ⟨rfl, trivial⟩
  | cons n ns =>
    left
    rw [hLeft] at hNews
    rcases h.link hd hLink hActive with hLast | ⟨hNone, -⟩
    · rwa [hNews, List.getLast?_append_of_ne_nil _ (List.cons_ne_nil n ns)] at hLast
    · rw [hNews] at hNone
      exact absurd (List.append_eq_nil_iff.mp hNone).2 (List.cons_ne_nil n ns)

theorem Rested.next (h : m.Rested fun _ _ => True) {e : ManagerEvent} {events : List ManagerEvent}
    (hEvents : m.events = e :: events) : Rested (fun _ _ => True) { m with events } :=
  h.taken (hEvents ▸ List.suffix_cons e events)

-- ---------------------------------------------------------------------------
-- The state of the whole
-- ---------------------------------------------------------------------------

/-- Nothing is left to do. -/
structure Quiescent (m : Manager) : Prop where
  queue : m.queue = []
  looked : ∀ r ∈ m.requests, r.queue = []
  pending : m.pending = []
  undue : ∀ d ∈ m.devices, d.activationScheduled = false

/-- The state of the whole that the switches and the devices ask for. -/
def shown (m : Manager) : ManagerState :=
  if m.sleeping = true ∨ m.networkingEnabled = false then .asleep
  else if ∃ d ∈ m.devices, d.state = .activated then .connected
  else if ∃ d ∈ m.devices, d.state.isActivating = true then .connecting
  else .disconnected

theorem Rested.quiescent (h : m.Rested A) : m.Quiescent :=
  ⟨h.queue, h.looked, h.pending, fun _ hd => h.undue _ _ (h.linked.device?_of_mem hd)⟩

/-- While nothing is due the state that is computed is the one asked for. -/
theorem Quiescent.aggregate_eq (h : m.Quiescent) : m.aggregate = m.shown := by
  have hAsleep : m.isAsleep = true ↔ m.sleeping = true ∨ m.networkingEnabled = false := by
    unfold Manager.isAsleep
    simp
  have hActivated : (m.devices.any fun d => d.state == .activated) = true ↔
      ∃ d ∈ m.devices, d.state = .activated := by
    simp
  have hActivating : m.devices.any Device.isActivating = true ↔
      ∃ d ∈ m.devices, d.state.isActivating = true := by
    rw [List.any_eq_true]
    refine exists_congr fun d => and_congr_right fun hd => ?_
    unfold Device.isActivating
    rw [h.undue d hd, Bool.or_false]
  unfold Manager.aggregate shown
  simp only [hAsleep, hActivated, hActivating]

/-- An operation computes the state of the whole, or changes nothing that it follows from. -/
def Computes (m m' : Manager) : Prop :=
  m'.state = m'.aggregate ∨
    m'.state = m.state ∧ m'.devices = m.devices ∧ m'.isAsleep = m.isAsleep

theorem Computes.refl (m : Manager) : Computes m m := Or.inr ⟨rfl, rfl, rfl⟩

theorem Computes.settle (m m' : Manager) : Computes m m'.settle := Or.inl (state_updateState _)

theorem computes_connectionAdded (m : Manager) (scope : Scope) (path : String)
    (settings : Settings) : Computes m (m.connectionAdded scope path settings).1 := by
  unfold Manager.connectionAdded
  split
  · exact Computes.refl m
  · exact Computes.settle m _

theorem computes_connectionRemoved (m : Manager) (scope : Scope) (path : String) :
    Computes m (m.connectionRemoved scope path) := by
  obtain hSame | hEq := m.connectionRemoved_cases scope path
  · rw [hSame]
    exact Computes.refl m
  · rw [hEq]
    exact Computes.settle m _

/-- To update a connection is to add it, to take it away or to store what it has become. -/
theorem computes_connectionUpdated (m : Manager) (scope : Scope) (path : String)
    (settings : Settings) : Computes m (m.connectionUpdated scope path settings) := by
  unfold Manager.connectionUpdated
  dsimp only
  split
  · exact m.computes_connectionAdded scope path settings
  · split
    · exact m.computes_connectionRemoved scope path
    · exact Computes.settle m _

theorem Coherent.computes_activateConnection (h : m.Coherent A) (uid : Nat)
    (service path device : String) (specific : Option String) :
    Computes m (m.activateConnection uid service path device specific).1 := by
  unfold Manager.activateConnection
  split
  · exact Computes.refl m
  · split
    · exact Computes.refl m
    · rename_i scope _
      split
      · exact Computes.refl m
      · rename_i id _
        dsimp only
        split
        · rename_i m₁ e hActivate
          -- an activation that is refused has touched nothing
          obtain ⟨e', hSame⟩ | ⟨⟨number, hStarted⟩, -⟩ := h.activate_spec id scope path
            (specific.filter fun p => !p.isEmpty && p != "/") true
          · rw [hActivate] at hSame
            cases hSame
            exact Computes.refl m
          · rw [hActivate] at hStarted
            cases hStarted
        · exact Computes.settle m _

/-- Which requests are the defaults is nothing that the state follows from. -/
theorem computes_setRequestDefault (m : Manager) (request : Nat) (default default6 : Bool) :
    Computes m (m.setRequestDefault request default default6) := by
  unfold Manager.setRequestDefault
  split
  · exact Computes.refl m
  · dsimp only
    split
    · exact Or.inr ⟨rfl, rfl, rfl⟩
    · exact Or.inr ⟨rfl, rfl, rfl⟩

/-- Every operation computes the state of the whole, if anything has changed, except to shut
down. -/
theorem Settled.computes (h : m.Settled A) {operation : Operation} (hNe : operation ≠ .shutdown) :
    Computes m (m.operate operation) := by
  -- whatever touches a device or a switch settles in the end; the others leave alone what the state
  -- of the whole depends on
  cases operation with
  | @addDevice device hNew =>
    show Computes m (m.addDevice device).1
    unfold Manager.addDevice
    split
    · exact Computes.refl m
    · exact Computes.settle m _
  | removeDevice id => exact Computes.settle m _
  | removeDeviceByInterface interface =>
    show Computes m (m.removeDeviceByInterface interface).1
    unfold Manager.removeDeviceByInterface
    split
    · exact Computes.refl m
    · exact Computes.settle m _
  | setFirmwareMissing interface missing =>
    show Computes m (m.setFirmwareMissing interface missing).1
    unfold Manager.setFirmwareMissing
    split
    · exact Computes.refl m
    · exact Computes.settle m _
  | setServiceRunning scope running =>
    show Computes m (m.setServiceRunning scope running)
    unfold Manager.setServiceRunning
    split
    · exact Computes.refl m
    · exact Computes.settle m _
  | connectionAdded scope path settings => exact m.computes_connectionAdded scope path settings
  | connectionUpdated scope path settings => exact m.computes_connectionUpdated scope path settings
  | connectionRemoved scope path => exact m.computes_connectionRemoved scope path
  | activateConnection uid service path device specific =>
    exact h.toCoherent.computes_activateConnection uid service path device specific
  | deactivateConnection uid active =>
    show Computes m (m.deactivateConnection uid active).1
    unfold Manager.deactivateConnection
    split
    · exact Computes.refl m
    · split
      · exact Computes.refl m
      · exact Computes.settle m _
  | wait request waiter =>
    show Computes m (m.wait request waiter).1
    unfold Manager.wait
    split
    · exact Computes.refl m
    · exact Or.inr ⟨rfl, rfl, rfl⟩
  | setRequestDefault request default default6 =>
    exact m.computes_setRequestDefault request default default6
  | secretsReply call answer =>
    show Computes m (m.secretsReply call answer)
    obtain hEq | hEq | ⟨r, r', effects, f, -, -, hEq⟩ := m.secretsReply_cases call answer
    · rw [hEq]
      exact Computes.refl m
    · rw [hEq]
      exact Computes.settle m m
    · rw [hEq]
      exact Computes.settle m _
  | linkChanged device up =>
    show Computes m (m.linkChanged device up)
    unfold Manager.linkChanged
    dsimp only
    split
    · exact Computes.refl m
    · exact Computes.settle m _
  | processTimeouts moment => exact Computes.settle m _
  | setSleeping uid sleeping =>
    show Computes m (m.setSleeping uid sleeping).1
    unfold Manager.setSleeping
    split
    · exact Computes.refl m
    · split
      · exact Computes.refl m
      · exact Computes.settle m _
  | setEnabled uid enabled =>
    show Computes m (m.setEnabled uid enabled).1
    unfold Manager.setEnabled
    split
    · exact Computes.refl m
    · split
      · exact Computes.refl m
      · exact Computes.settle m _
  | settle => exact Computes.settle m m
  | updateState => exact Or.inl (state_updateState m)
  | shutdown => exact absurd rfl hNe
  | setClock now => exact Or.inr ⟨rfl, rfl, rfl⟩

theorem state_teardown (m : Manager) (id : Nat) (reason : StateReason) :
    (m.teardown id reason).state = m.state := by
  cases hr : m.request? id with
  | none => rw [teardown_absent hr]
  | some r => rw [teardown_eq hr]

/-- To shut down computes no state. -/
theorem state_shutdown (m : Manager) :
    m.shutdown.state = m.state ∧ m.shutdown.devices = [] ∧ m.shutdown.isAsleep = m.isAsleep := by
  obtain ⟨hState, hDecides⟩ := foldl_rest (P := fun _ m' => m'.state = m.state ∧ Decides m m')
    (fun r _ m' h => ⟨(state_teardown m' r.id .unknown).trans h.1,
      h.2.trans (decides_teardown m' r.id .unknown)⟩) m.requests m ⟨rfl, Decides.refl m⟩
  rw [shutdown_eq]
  exact ⟨hState, rfl, hDecides.isAsleep⟩

/-- The manager was shut down, and since then nothing has changed that its state follows from. So
its state is still the one from before. -/
def Stale (m : Manager) (operations : List Operation) : Prop :=
  ∃ before after, operations = before ++ .shutdown :: after ∧ ∀ since, since <+: after →
    (m.run (before ++ .shutdown :: since)).devices = [] ∧
      (m.run (before ++ .shutdown :: since)).state = (m.run before).state ∧
      (m.run (before ++ .shutdown :: since)).isAsleep = (m.run before).isAsleep

theorem run_concat (m : Manager) (operations : List Operation) (operation : Operation) :
    m.run (operations ++ [operation]) = (m.run operations).operate operation := by
  unfold Manager.run
  rw [List.foldl_append]
  rfl

theorem stale_shutdown (m : Manager) (operations : List Operation) :
    m.Stale (operations ++ [.shutdown]) := by
  refine ⟨operations, [], rfl, fun since hSince => ?_⟩
  obtain ⟨hSame, hGone, hAsleep⟩ := state_shutdown (m.run operations)
  rw [List.prefix_nil.mp hSince, run_concat]
  exact ⟨hGone, hSame, hAsleep⟩

/-- An operation that changes nothing leaves the state as it was. -/
theorem Stale.concat {operations : List Operation} (h : m.Stale operations) {operation : Operation}
    (hState : (m.run (operations ++ [operation])).state = (m.run operations).state)
    (hDevices : (m.run (operations ++ [operation])).devices = (m.run operations).devices)
    (hAsleep : (m.run (operations ++ [operation])).isAsleep = (m.run operations).isAsleep) :
    m.Stale (operations ++ [operation]) := by
  obtain ⟨before, after, rfl, hSame⟩ := h
  refine ⟨before, after ++ [operation], by simp, fun since hSince => ?_⟩
  rcases List.prefix_concat_iff.mp hSince with rfl | hEarlier
  · obtain ⟨hGone, hOld, hSwitches⟩ := hSame after (List.prefix_refl after)
    rw [List.append_assoc] at hState hDevices hAsleep
    exact ⟨hDevices.trans hGone, hState.trans hOld, hAsleep.trans hSwitches⟩
  · exact hSame since hEarlier

/-- The state of the whole is the one that was computed last. -/
theorem run_state (h : m.Settled A) (hState : m.state = m.aggregate) (operations : List Operation) :
    (m.run operations).state = (m.run operations).aggregate ∨ m.Stale operations := by
  induction operations using List.reverseRecOn with
  | nil => exact Or.inl hState
  | append_singleton operations operation ih =>
    by_cases hNe : operation = .shutdown
    · subst hNe
      exact Or.inr (m.stale_shutdown operations)
    · have hComputes := (run_settled h operations).computes hNe
      rw [← run_concat] at hComputes
      obtain hNow | ⟨hSame, hDevices, hAsleep⟩ := hComputes
      · exact Or.inl hNow
      · refine ih.imp (fun hRight => ?_) fun hStale => hStale.concat hSame hDevices hAsleep
        rw [hSame, hRight]
        unfold Manager.aggregate
        rw [hDevices, hAsleep]

/-- After every operation nothing is left to do. The state of the whole is the one that the switches
and the devices ask for, and to settle once more changes nothing, unless the manager was shut down
and has not settled since. -/
theorem run_quiescent (store : StateStore) (allowed : List Nat) (timeout : Option Nat) (epoch : Nat)
    (operations : List Operation) :
    let m := (start store allowed timeout epoch).run operations
    m.Quiescent ∧ (m.state = m.shown ∧ m.settle = m ∨
      (start store allowed timeout epoch).Stale operations) := by
  intro m
  have hRested : m.Rested fun _ _ => True :=
    run_rested (start_rested store allowed timeout epoch) operations
  refine ⟨hRested.quiescent, ?_⟩
  have hSettled : (start store allowed timeout epoch).Settled fun _ _ => True :=
    start_settled store allowed timeout epoch
  refine (run_state hSettled rfl operations).imp_left fun hState => ?_
  exact ⟨hState.trans hRested.quiescent.aggregate_eq, hRested.toSettled.settle_eq hState⟩

/-- A manager that was shut down while a scanner was dialing still calls itself connecting, until
it settles. -/
theorem not_shown_after_shutdown :
    let m := (start DialUp.store [] none 0).run
      (DialUp.connecting ++ [.shutdown, .removeDeviceByInterface "bt0"])
    m.state = .connecting ∧ m.shown = .disconnected ∧ m.settle ≠ m := by
  decide +kernel

end Manager

end ScannerHub
