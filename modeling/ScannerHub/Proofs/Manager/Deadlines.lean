import ScannerHub.Proofs.Manager.Fates
import ScannerHub.Proofs.Manager.Sleep
import ScannerHub.Proofs.Manager.Terms

/-!
# Deadlines

Requests have deadlines, and so has hardware that waits for its link. A request that has come to its
outcome has none any more. Nothing that the manager does of itself lets a deadline pass: what starts
while it settles has time left, if it is given any.

* `Request.Concluded` — a deadline ends with the outcome;
* `Device.Ahead`, `Manager.Ahead` — every deadline is still to come.

## Results

* `run_concluded` — no request of any run has both an outcome and a deadline;
* `Ahead.settle` — when the manager settles, nothing becomes late.
-/

namespace ScannerHub

-- ---------------------------------------------------------------------------
-- Requests that have come to their outcome
-- ---------------------------------------------------------------------------

/-- A request that has come to its outcome has no deadline. -/
def Request.Concluded (r : Request) : Prop := r.outcome.isSome = true → r.deadline = none

theorem Request.Resolves.concluded {r r' : Request} {ending : Option Outcome} {effects : List Effect}
    (h : r.Resolves ending r' effects) (hConcluded : r.Concluded) : r'.Concluded := by
  intro hSome
  rcases h.same_or_ends with ⟨hOutcome, -, hDeadline, -⟩ | ⟨o, -, -, -, hDeadline, -⟩
  · rw [hOutcome] at hSome
    rw [hDeadline]
    exact hConcluded hSome
  · exact hDeadline

theorem Request.Concluded.of_eq {r r' : Request} (h : r.Concluded) (hOutcome : r'.outcome = r.outcome)
    (hDeadline : r'.deadline = r.deadline) : r'.Concluded := by
  intro hSome
  rw [hOutcome] at hSome
  rw [hDeadline]
  exact h hSome

theorem Request.Concluded.wait {r : Request} (h : r.Concluded) (waiter : Nat) :
    (r.wait waiter).1.Concluded := by
  unfold Request.wait
  split
  · exact h
  · split
    · exact h
    · exact h.of_eq rfl rfl

/-- What becomes of a site leaves no deadline behind an outcome. -/
theorem Site.Episode.concluded {K : Feat → Prop} {s s' : Site} {news : List ManagerEvent}
    {effects : List Effect} (h : s.Episode K s' news effects)
    (hConcluded : ∀ r, s.request = some r → r.Concluded) :
    ∀ r', s'.request = some r' → r'.Concluded := by
  intro r' hr'
  cases h with
  | flag => exact hConcluded r' hr'
  | hears =>
    obtain ⟨r, hr, rfl⟩ := Option.map_eq_some_iff.mp hr'
    exact (hConcluded r hr).of_eq rfl rfl
  | look hr =>
    cases hr'
    exact (Request.resolves_processEvents _).concluded (hConcluded _ hr)
  | revise hr hRevises =>
    cases hr'
    exact (hConcluded _ hr).of_eq hRevises.outcome hRevises.deadline
  | @refuse d r r₁ hK hd hr hQueues hState hRevises =>
    cases hr'
    have hRevised := (hConcluded r hr).of_eq hRevises.outcome hRevises.deadline
    exact ((r₁.resolves_finish _).concluded hRevised).of_eq rfl rfl
  | tell => exact hConcluded r' hr'
  | leave => cases hr'
  | part => cases hr'
  | expire hr =>
    cases hr'
    exact (Request.resolves_finish _ _).concluded (hConcluded _ hr)
  | adopt => exact hConcluded r' hr'
  | wait hr =>
    cases hr'
    exact (hConcluded _ hr).wait _

namespace Manager

variable {A : Nat → String → Prop} {K : Feat → Prop} {m m' : Manager} {id : Nat}

/-- No request has both an outcome and a deadline. -/
def AllConcluded (m : Manager) : Prop := ∀ x r, m.requestOn? x = some r → r.Concluded

theorem AllConcluded.next (h : m.AllConcluded) (hPassage : Passage A K m m') (hFits : m.Fits A) :
    m'.AllConcluded := by
  intro x r hr
  obtain ⟨news, -, hFate⟩ := hPassage.fate hFits x
  cases hFate with
  | stays hSite => exact h x r ((congrArg Site.request hSite).symm.trans hr)
  | turns hEpisode => exact hEpisode.concluded (h x) r hr
  | @starts d d' r₀ u hK hd hState hFree hLaunch hSite hUser hAuto hNamed hNews hAwaited =>
    -- a request that starts has no outcome yet
    have hStarted : some (r₀.hear u.events) = some r := (congrArg Site.request hSite).symm.trans hr
    cases hStarted
    intro hSome
    change r₀.outcome.isSome = true at hSome
    rw [hAwaited.2.1] at hSome
    cases hSome
  | comes hNew hUnused hSite => exact h x r ((congrArg Site.request hSite).symm.trans hr)
  | goes _ _ hRequest =>
    rw [hRequest] at hr
    cases hr

/-- No request of any run has both an outcome and a deadline. -/
theorem run_concluded (store : StateStore) (allowed : List Nat) (timeout : Option Nat) (epoch : Nat)
    (operations : List Operation) :
    ((start store allowed timeout epoch).run operations).AllConcluded := by
  induction operations using List.reverseRecOn with
  | nil => exact fun _ _ hr => (by cases hr)
  | append_singleton operations operation ih =>
    have hInformed : ((start store allowed timeout epoch).run operations).Informed fun _ _ => True :=
      run_informed (start_informed store allowed timeout epoch) operations
    rw [run_concat]
    exact (passages_preserve (P := AllConcluded) (fun hPassage hFits h => h.next hPassage hFits)
      (hInformed.passages operation) hInformed.toFits ih).2

end Manager

-- ---------------------------------------------------------------------------
-- Devices
-- ---------------------------------------------------------------------------

/-- A link is given some time to come up. -/
def Hardware.Patient : Hardware → Prop
  | bluetooth radio => 0 < radio.connectTimeout
  | _ => True

theorem Hardware.patient_deactivate {h : Hardware} (hPatient : h.Patient) : h.deactivate.Patient := by
  cases h <;> exact hPatient

theorem Hardware.deadline?_deactivate (h : Hardware) : h.deactivate.deadline? = none := by
  cases h <;> rfl

theorem Hardware.patient_configStage {h : Hardware} (hPatient : h.Patient) (now : Nat)
    (c : Connection) : (h.configStage now c).1.Patient := by
  cases h with
  | bluetooth radio =>
    unfold configStage
    dsimp only
    split <;> exact hPatient
  | hidraw node => trivial
  | serial line =>
    unfold configStage
    dsimp only
    split <;> trivial

/-- A link that is waited for from now on has time left. -/
theorem Hardware.deadline?_configStage {h : Hardware} (hPatient : h.Patient) {now t : Nat}
    (hAhead : ∀ t, h.deadline? = some t → now < t) {c : Connection}
    (ht : (h.configStage now c).1.deadline? = some t) : now < t := by
  cases h with
  | bluetooth radio =>
    unfold configStage at ht
    dsimp only at ht
    split at ht
    · have hPositive : 0 < radio.connectTimeout := hPatient
      cases ht
      omega
    · exact hAhead t ht
  | hidraw node => cases ht
  | serial line =>
    unfold configStage at ht
    dsimp only at ht
    split at ht <;> cases ht

namespace Device

/-- A link is given some time, and the time of a link that is waited for is not over. -/
structure Ahead (now : Nat) (d : Device) : Prop where
  patient : d.hardware.Patient
  deadline : ∀ t, d.deadline? = some t → now < t

variable {now : Nat} {d e : Device}

theorem Ahead.of_hardware (h : d.Ahead now) (hSame : e.hardware = d.hardware) : e.Ahead now := by
  refine ⟨hSame ▸ h.patient, fun t ht => h.deadline t ?_⟩
  unfold Device.deadline? at ht ⊢
  rwa [hSame] at ht

theorem Ahead.moveTo (h : d.Ahead now) (new : DeviceState) (reason : StateReason) :
    (d.moveTo new reason).device.Ahead now := by
  unfold Device.moveTo
  split
  · exact h
  · split
    · by_cases hLeaves : (d.state.isActive && !new.isActive) = true
      · refine ⟨?_, fun t ht => ?_⟩
        · show Hardware.Patient (if _ then d.hardware.deactivate else d.hardware)
          rw [if_pos hLeaves]
          exact Hardware.patient_deactivate h.patient
        · change Hardware.deadline? (if _ then d.hardware.deactivate else d.hardware) = some t at ht
          rw [if_pos hLeaves, Hardware.deadline?_deactivate] at ht
          cases ht
      · exact h.of_hardware (if_neg hLeaves)
    · exact h

theorem Ahead.failAuth (h : d.Ahead now) : d.failAuth.device.Ahead now := by
  unfold Device.failAuth
  split
  · exact h.moveTo .failed .noSecrets
  · exact h

theorem Ahead.deactivate (h : d.Ahead now) (reason : StateReason) :
    (d.deactivate reason).device.Ahead now := by
  have hFlag : Ahead now { d with activationScheduled := false } := h.of_hardware rfl
  unfold Device.deactivate
  dsimp only
  split
  · exact hFlag.moveTo .disconnected reason
  · exact hFlag

theorem Ahead.runStage (h : d.Ahead now) {c : Connection} {outcome : StageOutcome}
    (hStage : d.runStage now c = some (e, outcome)) : e.Ahead now := by
  unfold Device.runStage at hStage
  split at hStage
  · cases hStage
    exact ⟨Hardware.patient_configStage h.patient now c,
      fun t ht => Hardware.deadline?_configStage h.patient h.deadline ht⟩
  · cases hStage
    exact h
  · cases hStage

theorem Ahead.andThen {u : Update} {next : Device → Update} (h : u.device.Ahead now)
    (hNext : (next u.device).device.Ahead now) : (u.andThen next).device.Ahead now := by
  unfold Update.andThen
  split
  · exact h
  · exact hNext

theorem Ahead.followStages (h : d.Ahead now) (c : Connection) (stages : Nat) (outcome : StageOutcome) :
    (Device.followStages now c stages d outcome).device.Ahead now := by
  induction stages generalizing d outcome with
  | zero =>
    cases outcome with
    | success => exact h
    | postpone => exact h
    | waitForLink request => exact h.of_hardware rfl
    | failure reason => exact h.moveTo .failed reason
    | needSecrets need =>
      have hEntered := h.moveTo .needAuth .none
      unfold Device.followStages
      dsimp only
      split
      · exact hEntered
      · exact hEntered.andThen (hEntered.of_hardware rfl)
  | succ stages ih =>
    cases outcome with
    | postpone => exact h
    | waitForLink request => exact h.of_hardware rfl
    | failure reason => exact h.moveTo .failed reason
    | needSecrets need =>
      have hEntered := h.moveTo .needAuth .none
      unfold Device.followStages
      dsimp only
      split
      · exact hEntered
      · exact hEntered.andThen (hEntered.of_hardware rfl)
    | success =>
      unfold Device.followStages
      split
      · exact h
      · rename_i next _
        have hEntered := h.moveTo next .none
        dsimp only
        split
        · exact hEntered
        · refine hEntered.andThen ?_
          split
          · exact hEntered
          · rename_i hStage
            exact ih (hEntered.runStage hStage) _

theorem Ahead.activate (h : d.Ahead now) (c : Connection) : (d.activate now c).device.Ahead now := by
  have hFlag : Ahead now { d with activationScheduled := false } := h.of_hardware rfl
  unfold Device.activate
  dsimp only
  split
  · exact hFlag
  · split
    · exact hFlag
    · have hPrepared := hFlag.moveTo .prepare .none
      exact hPrepared.andThen (hPrepared.followStages c 3 .success)

end Device

-- ---------------------------------------------------------------------------
-- The manager
-- ---------------------------------------------------------------------------

namespace Manager

variable {m m' : Manager} {id : Nat}

/-- Every deadline is still to come, and what starts is given some time. -/
structure Ahead (m : Manager) : Prop where
  timeout : ∀ t, m.activationTimeout = some t → 0 < t
  devices : ∀ d ∈ m.devices, d.Ahead m.now
  requests : ∀ r ∈ m.requests, ∀ t, r.deadline = some t → m.now < t

theorem Ahead.next (h : m.Ahead) (hTerms : m'.terms = m.terms)
    (hDevices : ∀ d ∈ m'.devices, d.Ahead m.now)
    (hRequests : ∀ r ∈ m'.requests, ∀ t, r.deadline = some t → m.now < t) : m'.Ahead := by
  have hNow : m'.now = m.now := congrArg Terms.now hTerms
  have hTimeout : m'.activationTimeout = m.activationTimeout := congrArg Terms.activationTimeout hTerms
  exact ⟨hTimeout ▸ h.timeout, hNow ▸ hDevices, hNow ▸ hRequests⟩

/-- Nothing happens to devices and requests. -/
theorem Ahead.aside (h : m.Ahead) (hTerms : m'.terms = m.terms) (hDevices : m'.devices = m.devices)
    (hRequests : m'.requests = m.requests) : m'.Ahead :=
  h.next hTerms (hDevices ▸ h.devices) (hRequests ▸ h.requests)

theorem Ahead.updateState (h : m.Ahead) : m.updateState.Ahead :=
  h.aside (terms_updateState m) (same_updateState m).devices (same_updateState m).requests

theorem Ahead.setDevice (h : m.Ahead) {d : Device} (hd : d.Ahead m.now) : (m.setDevice d).Ahead := by
  refine h.next (terms_setDevice m d) (fun e he => ?_) h.requests
  rcases mem_replaceFirst he with rfl | hOld
  · exact hd
  · exact h.devices e hOld

theorem Ahead.deliver (h : m.Ahead) (listeners : List Listener) (events : List DeviceEvent) :
    (m.deliver listeners events).Ahead := by
  refine h.next (terms_deliver m listeners events) h.devices fun r hr => ?_
  obtain ⟨r₀, hr₀, rfl⟩ := List.mem_map.mp hr
  split <;> exact h.requests r₀ hr₀

theorem Ahead.updateDevice (h : m.Ahead) (id : Nat) {f : Device → Update}
    (hf : ∀ d : Device, d.Ahead m.now → (f d).device.Ahead m.now) : (m.updateDevice id f).Ahead := by
  unfold Manager.updateDevice
  split
  · exact h
  · rename_i d hd
    exact (h.setDevice (hf d (h.devices d (device?_eq_some hd).1))).deliver _ _

theorem Ahead.modifyDevice (h : m.Ahead) (id : Nat) {f : Device → Device}
    (hf : ∀ d, (f d).hardware = d.hardware) : (m.modifyDevice id f).Ahead := by
  unfold Manager.modifyDevice
  split
  · exact h
  · rename_i d hd
    exact h.setDevice ((h.devices d (device?_eq_some hd).1).of_hardware (hf d))

theorem Ahead.setRequest (h : m.Ahead) {r : Request} (hr : ∀ t, r.deadline = some t → m.now < t) :
    (m.setRequest r).Ahead := by
  refine h.next (terms_setRequest m r) h.devices fun q hq => ?_
  rcases mem_setRequest hq with rfl | hMem
  · exact hr
  · exact h.requests q hMem

theorem Ahead.teardown (h : m.Ahead) (id : Nat) (reason : StateReason) :
    (m.teardown id reason).Ahead := by
  cases hr : m.request? id with
  | none =>
    rw [teardown_absent hr]
    exact h
  | some r =>
    have hLeft := h.modifyDevice r.device (f := r.leave) fun d => by
      unfold Request.leave
      split <;> rfl
    have hNow : (m.modifyDevice r.device r.leave).now = m.now :=
      congrArg Terms.now (terms_modifyDevice m r.device r.leave)
    refine h.next (terms_teardown m id reason) (fun d hd => ?_) fun q hq => ?_
    · rw [teardown_eq hr] at hd
      exact hNow ▸ hLeft.devices d hd
    · rw [teardown_eq hr] at hq
      exact h.requests q (List.mem_filter.mp hq).1

theorem Ahead.teardownOn (h : m.Ahead) (id : Nat) (reason : StateReason) :
    (m.teardownOn id reason).Ahead := by
  unfold Manager.teardownOn
  split
  · exact h
  · exact h.teardown _ reason

-- ---------------------------------------------------------------------------
-- Working off the queues
-- ---------------------------------------------------------------------------

theorem Ahead.schedule (h : m.Ahead) (id : Nat) : (m.schedule id).Ahead := by
  obtain ⟨hEq, -⟩ | hEq := m.schedule_cases id
  · rw [hEq]
    exact h
  · rw [hEq]
    have hFlag := h.modifyDevice id (f := fun d => { d with activationScheduled := true }) fun _ => rfl
    exact hFlag.aside rfl rfl rfl

theorem Ahead.markInvalid (h : m.Ahead) (uuid : String) : (m.markInvalid uuid).Ahead :=
  h.aside (terms_markInvalid m uuid) (same_markInvalid m uuid).devices (same_markInvalid m uuid).requests

theorem Ahead.failOrphan (h : m.Ahead) (id : Nat) : (m.failOrphan id).Ahead := by
  have hDropped : (m.dropOrphan id).Ahead := h.aside rfl rfl rfl
  unfold Manager.failOrphan
  split
  · exact h
  · dsimp only
    split
    · exact hDropped
    · exact hDropped.markInvalid _

theorem Ahead.failRequest (h : m.Ahead) (id : Nat) (reason : StateReason) :
    (m.failRequest id reason).Ahead := by
  unfold Manager.failRequest
  split
  · exact h
  · dsimp only
    split
    · exact h.teardown _ reason
    · exact (h.markInvalid _).teardown _ reason

theorem Ahead.followState (h : m.Ahead) (id : Nat) (new : DeviceState) (reason : StateReason) :
    (m.followState id new reason).Ahead := by
  cases new with
  | activated =>
    exact h.aside (terms_updateTimestamp m id) (same_updateTimestamp m id).devices
      (same_updateTimestamp m id).requests
  | failed =>
    exact ((h.failOrphan id).failRequest id reason).updateDevice id fun d hd =>
      hd.moveTo .disconnected reason
  | disconnected => exact (h.teardownOn id reason).schedule id
  | unavailable => exact h.teardownOn id reason
  | unmanaged => exact h.teardownOn id reason
  | unknown => exact h
  | prepare => exact h
  | config => exact h
  | needAuth => exact h
  | ipConfig => exact h

theorem Ahead.handleEvent (h : m.Ahead) (e : DeviceEvent) : (m.handleEvent e).Ahead := by
  cases e with
  | linkRequested id request => exact h.aside rfl rfl rfl
  | needSecrets id need =>
    show (m.failUnansweredAuth id).Ahead
    unfold Manager.failUnansweredAuth
    split
    · exact h
    · exact h.updateDevice id fun d hd => hd.failAuth
  | stateChanged id new old reason =>
    have hAnnounced : (m.announced id new old reason).Ahead := by
      unfold announced
      dsimp only
      split <;> exact h.aside rfl rfl rfl
    show (Manager.updateState _).Ahead
    refine Ahead.updateState (Ahead.followState ?_ id new reason)
    split
    · exact hAnnounced.aside rfl rfl rfl
    · exact hAnnounced

theorem Ahead.processRequest (h : m.Ahead) (id : Nat) : (m.processRequest id).Ahead := by
  unfold Manager.processRequest
  split
  · exact h
  · rename_i r hr
    have hLooked : (m.setRequest r.processEvents.request).Ahead := by
      refine h.setRequest fun t ht => ?_
      rcases r.resolves_processEvents.same_or_ends with ⟨-, -, hSame, -⟩ | ⟨-, -, -, -, hNone, -⟩
      · exact h.requests r (request?_eq_some hr).1 t (hSame ▸ ht)
      · rw [hNone] at ht
        cases ht
    dsimp only
    split <;> exact hLooked.aside rfl rfl rfl

theorem Ahead.processRequests (h : m.Ahead) : m.processRequests.Ahead :=
  foldl_rest (P := fun _ m' => Ahead m') (fun r _ _ h' => h'.processRequest r.id) m.requests m h

theorem Ahead.pump (h : m.Ahead) : m.pump.Ahead := by
  refine pump_preserves (P := Ahead) (fun _ h' => h'.processRequests) (fun m' e rest h' _ => ?_) h
  have hRest : Ahead { m' with queue := rest } := h'.aside rfl rfl rfl
  exact hRest.handleEvent e

-- ---------------------------------------------------------------------------
-- Settling
-- ---------------------------------------------------------------------------

theorem Ahead.cleared (h : m.Ahead) (device : Nat) : (m.cleared device).Ahead := by
  have hEnded := h.teardownOn device .userRequested
  unfold Manager.cleared Manager.halted
  dsimp only
  generalize m.teardownOn device .userRequested = ended at hEnded ⊢
  have hNumbered : Ahead { ended with nextRequest := ended.nextRequest + 1 } := hEnded.aside rfl rfl rfl
  exact (hNumbered.updateDevice device fun d hd => hd.deactivate .userRequested).pump

/-- A request that starts has time left, and so has its device. -/
theorem Ahead.launch (h : m.Ahead) (number : Nat) {d : Device} (hd : d.Ahead m.now)
    {spec : RequestSpec} (hTimeout : spec.timeout = m.activationTimeout) :
    (m.launch number d spec).1.Ahead := by
  have hReady : (m.starting number d spec).2.Ahead m.now := by
    refine hd.of_hardware ?_
    unfold starting readied Request.start
    dsimp only
    split <;> rfl
  have hStarted := hReady.activate (m.starting number d spec).1.connection
  have hDeadline : ∀ t, (m.starting number d spec).1.deadline = some t → m.now < t := by
    intro t ht
    obtain ⟨t₀, ht₀, rfl⟩ := Option.map_eq_some_iff.mp ht
    have hPositive := h.timeout t₀ (hTimeout ▸ ht₀)
    omega
  show (m.register (m.starting number d spec).1 (m.starting number d spec).2.listeners
    ((m.starting number d spec).2.activate m.now (m.starting number d spec).1.connection)).1.Ahead
  unfold Manager.register
  split
  · have hLeft := hStarted.of_hardware
      (e := (m.starting number d spec).1.leave ((m.starting number d spec).2.activate m.now
        (m.starting number d spec).1.connection).device) (by
        unfold Request.leave
        split <;> rfl)
    exact (h.setDevice hLeft).aside rfl rfl rfl
  · have hJoined : Ahead { m.setDevice ((m.starting number d spec).2.activate m.now
        (m.starting number d spec).1.connection).device with
          requests := m.requests ++ [(m.starting number d spec).1] } := by
      refine h.next rfl (h.setDevice hStarted).devices fun r hr => ?_
      rcases List.mem_append.mp hr with hr | hr
      · exact h.requests r hr
      · rw [List.mem_singleton.mp hr]
        exact hDeadline
    exact (hJoined.deliver _ _).aside rfl rfl rfl

theorem Ahead.activate (h : m.Ahead) (device : Nat) (scope : Scope) (path : String)
    (specific : Option String) (userRequested : Bool) :
    (m.activate device scope path specific userRequested).1.Ahead := by
  rcases m.activate_cases device scope path specific userRequested with
    ⟨e, hFailed⟩ | ⟨connection, d, hFound, hd, hOk⟩
  · rw [hFailed]
    exact h
  · have hReady : Ahead { m.cleared device with
        pending := (m.cleared device).pending.filter fun p => p != device } :=
      (h.cleared device).aside rfl rfl rfl
    unfold Manager.activate
    rw [hFound, hd]
    dsimp only
    rw [hOk]
    dsimp only
    split
    · exact hReady
    · rename_i d' hd'
      exact hReady.launch _ (hReady.devices d' (device?_eq_some hd').1) rfl

theorem Ahead.startPending (h : m.Ahead) (id : Nat) : (m.startPending id).Ahead := by
  have hFlag := h.modifyDevice id (f := fun d => { d with activationScheduled := false }) fun _ => rfl
  unfold Manager.startPending Manager.autoActivate
  split
  · exact hFlag
  · split
    · exact hFlag
    · split
      · exact hFlag
      · split
        · exact hFlag
        · exact hFlag.activate _ _ _ _ _

/-- When the manager settles nothing becomes late. -/
theorem Ahead.settle (h : m.Ahead) : m.settle.Ahead := by
  have hRounds : ∀ (n : Nat) (m : Manager), m.Ahead → (Manager.settleRounds n m).Ahead := by
    intro n
    induction n with
    | zero => exact fun _ h => h
    | succ n ih =>
      intro m h
      unfold Manager.settleRounds
      dsimp only
      split
      · exact h.pump
      · have hTaken : Ahead { m.pump with pending := [] } := h.pump.aside rfl rfl rfl
        exact ih _ (foldl_rest (P := fun _ m' => Ahead m') (fun id _ _ h' => h'.startPending id)
          _ _ hTaken)
  exact (hRounds m.roundBound m h).updateState

/-- The next deadline of a manager that is ahead is still to come. -/
theorem Ahead.nextDeadline (h : m.Ahead) {t : Nat} (ht : m.nextDeadline? = some t) : m.now < t := by
  have hIn := List.min?_mem ht
  rcases List.mem_append.mp hIn with hIn | hIn
  · obtain ⟨r, hr, hDeadline⟩ := List.mem_filterMap.mp hIn
    exact h.requests r hr t hDeadline
  · obtain ⟨d, hd, hDeadline⟩ := List.mem_filterMap.mp hIn
    exact (h.devices d hd).deadline t hDeadline

end Manager

end ScannerHub
