import ScannerHub.Proofs.Manager.Failures
import ScannerHub.Proofs.Manager.Replacement
import ScannerHub.Proofs.Manager.Terms

/-!
# Aftermath

What becomes of a device whose activation failed does not depend on who owned the activation. The
owner goes, its connection is left out from now on unless a user started it, the device is
disconnected, and the next connection starts on it if there is one. All of it is told here by
equations, so that what happens after two failures can be compared.

* `Manager.Concurs` — two managers that take the same decisions;
* `Manager.autoStarted` — a device after an automatic activation that was due;
* `Manager.recovered` — a device after its activation failed;
* `Manager.Crashed` — what the handling of a failure leaves to do.

## Results

* `Coherent.started_startPending` — what an automatic activation makes of its device;
* `Coherent.drain_failed` — how a failure is handled;
* `Crashed.settle` — what is left of it once the manager has settled.
-/

namespace ScannerHub

namespace Manager

variable {m m' m'' : Manager} {A : Nat → String → Prop} {x : Nat}

-- ---------------------------------------------------------------------------
-- Decisions
-- ---------------------------------------------------------------------------

/-- Two managers that decide alike about automatic activations, at the same time, and give the next
request the same number. -/
structure Concurs (m m' : Manager) : Prop extends Decides m m' where
  terms : m'.terms = m.terms
  nextRequest : m'.nextRequest = m.nextRequest

theorem Concurs.trans (h : Concurs m m') (h' : Concurs m' m'') : Concurs m m'' :=
  ⟨h.toDecides.trans h'.toDecides, h'.terms.trans h.terms, h'.nextRequest.trans h.nextRequest⟩

theorem Concurs.updateDevice (m : Manager) (x : Nat) (f : Device → Update) :
    Concurs m (m.updateDevice x f) := by
  refine ⟨decides_updateDevice m x f, terms_updateDevice m x f, ?_⟩
  unfold Manager.updateDevice
  split <;> rfl

theorem Coherent.concurs_processRequests (h : m.Coherent A) : Concurs m m.processRequests :=
  ⟨decides_processRequests m, terms_processRequests m, h.within_processRequests.nextRequest⟩

/-- The manager once the failure of an activation is noted: its connection is left out from now on,
unless a user started it. -/
def blaming (m : Manager) (origin : Bool × String) : Manager :=
  if origin.1 then m else m.markInvalid origin.2

theorem mem_blaming (m : Manager) (origin : Bool × String) (uuid : String) :
    uuid ∈ (m.blaming origin).invalid ↔ uuid ∈ m.invalid ∨ origin = (false, uuid) := by
  obtain ⟨asked, named⟩ := origin
  unfold blaming
  cases asked with
  | true => simp
  | false =>
    refine (mem_markInvalid m named uuid).trans (or_congr_right ?_)
    rw [Prod.mk.injEq]
    exact ⟨fun h => ⟨rfl, h.symm⟩, fun h => h.2.symm⟩

theorem Concurs.blaming (h : Concurs m m') (origin : Bool × String) :
    Concurs (m.blaming origin) (m'.blaming origin) := by
  unfold Manager.blaming
  split
  · exact h
  · unfold markInvalid isInvalid
    rw [h.invalid]
    split
    · exact h
    · exact ⟨⟨h.sleeping, h.networkingEnabled, h.system, h.user, rfl⟩, h.terms, h.nextRequest⟩

-- ---------------------------------------------------------------------------
-- An automatic activation
-- ---------------------------------------------------------------------------

/-- A disconnected device once the best automatic activation has started on it, if one may. -/
def autoStarted (m : Manager) (d : Device) : Device :=
  if m.isAsleep || !d.autoconnectAllowed then d
  else match (m.autoChoice? d).bind fun choice => (m.cache choice.1).get? choice.2 with
    | none => d
    | some c => ((d.subscribe (.request m.nextRequest)).activate m.now c).device

theorem Concurs.autoStarted (h : Concurs m m') (d : Device) : m'.autoStarted d = m.autoStarted d := by
  have hCache : ∀ scope, m'.cache scope = m.cache scope := by
    intro scope
    cases scope
    · exact h.system
    · exact h.user
  have hChoice : ∀ d, m'.autoChoice? d = m.autoChoice? d := by
    intro d
    unfold autoChoice? autoCandidates isInvalid
    simp only [hCache, h.invalid]
  unfold Manager.autoStarted
  rw [h.isAsleep, h.nextRequest, show m'.now = m.now from congrArg Terms.now h.terms]
  simp only [hChoice, hCache]

theorem state_autoStarted (m : Manager) {d : Device} (hListen : d.AllListen)
    (hState : d.state = .disconnected) : (m.autoStarted d).state ≠ .needAuth := by
  have hIdle : d.state ≠ .needAuth := by
    rw [hState]
    nofun
  unfold autoStarted
  split
  · exact hIdle
  · rename_i hFree
    rw [Bool.or_eq_true, not_or, Bool.not_eq_true', Bool.not_eq_false] at hFree
    cases hChoice : m.autoChoice? d with
    | none => exact hIdle
    | some choice =>
      obtain ⟨c, -, hFound, -, -, hCheck⟩ := autoChoice?_some hChoice
      dsimp only [Option.bind_some]
      rw [hFound]
      have hListens : (d.subscribe (.request m.nextRequest)).AllListen := by
        intro s hs
        rcases List.mem_append.mp hs with hs | hs
        · exact hListen s hs
        · rw [List.mem_singleton.mp hs]
      have hStarts := Device.starts_of_managed (d := d.subscribe (.request m.nextRequest)) m.now c
        hListens ((Device.autoconnectAllowed_iff _).mp hFree.2).1 hState hCheck
      rcases hStarts.rests with hRests | hRests <;> simp [hRests]

/-- An activation of a disconnected device starts with the connection as it is cached. -/
theorem Coherent.started_activate (h : m.Coherent A) (hCalm : m.Calm) {d : Device}
    (hNone : m.requestOn? x = none) (hd : m.device? x = some d) (hState : d.state = .disconnected)
    (hManaged : d.managed = true) (hUndue : d.activationScheduled = false) {scope : Scope}
    {path : String} {c : Connection} (hFound : (m.cache scope).get? path = some c)
    (hCheck : d.check c = .ok ()) (specific : Option String) :
    (m.activate x scope path specific false).1.device? x =
        some ((d.subscribe (.request m.nextRequest)).activate m.now c).device ∧
      (m.activate x scope path specific false).1.invalid = m.invalid := by
  have hOk : checkActivation d c = .ok () := by
    unfold checkActivation
    simp [hManaged, hState, hCheck]
  have hSame : { d with activationScheduled := false } = d := by
    rw [← hUndue]
  have hThere : (m.cleared x).device? x = some d := by
    rw [hCalm.device?_cleared hNone hd hState x, if_pos rfl, hSame]
  have hNumber : (m.teardownOn x .userRequested).nextRequest = m.nextRequest := by
    unfold teardownOn
    rw [hNone]
  obtain ⟨hCleared, -, -, -⟩ := h.cleared hd (by rw [hState]; exact ⟨nofun, nofun⟩)
  have hFits : Fits A { m.cleared x with
      pending := (m.cleared x).pending.filter fun p => p != x } :=
    hCleared.toFits.same ⟨rfl, rfl, rfl, rfl, rfl, rfl, rfl, fun _ => rfl⟩
  rw [activate_eq hFound hd hOk hThere, hNumber]
  obtain ⟨hLaunch, hEq⟩ := hFits.launch_eq m.nextRequest hThere hState
    { connection := c, path, specific, userRequested := false, assumed := false
      timeout := (m.cleared x).activationTimeout, nowait := false } hCheck
  refine ⟨?_, (decides_launch _ _ _ _).invalid.trans (hCalm.invalid_cleared hNone hd hState)⟩
  rw [hEq]
  refine (device?_setDevice_of (m := { m.cleared x with
    pending := (m.cleared x).pending.filter fun p => p != x }) hThere
      (hLaunch.starts.frame.id.trans hLaunch.id) x).trans ?_
  rw [if_pos rfl]
  show some ((Device.subscribe { d with activationScheduled := false } _).activate (m.cleared x).now c).device = _
  rw [hSame, show (m.cleared x).now = m.now from congrArg Terms.now (terms_cleared m x)]

theorem Coherent.started_autoActivate (h : m.Coherent A) (hCalm : m.Calm) {d : Device}
    (hNone : m.requestOn? x = none) (hd : m.device? x = some d) (hState : d.state = .disconnected)
    (hUndue : d.activationScheduled = false) :
    (m.autoActivate x).device? x = some (m.autoStarted d) ∧
      (m.autoActivate x).invalid = m.invalid := by
  unfold Manager.autoActivate Manager.autoStarted
  rw [hd, hNone]
  simp only [Option.isSome_none, Bool.or_false]
  cases hAsleep : m.isAsleep with
  | true => exact ⟨hd, rfl⟩
  | false =>
    simp only [Bool.false_or, Bool.false_eq_true, if_false]
    cases hAllowed : d.autoconnectAllowed with
    | false => exact ⟨hd, rfl⟩
    | true =>
      simp only [Bool.not_true, Bool.false_eq_true, if_false]
      cases hChoice : m.autoChoice? d with
      | none => exact ⟨hd, rfl⟩
      | some choice =>
        obtain ⟨c, -, hFound, -, -, hCheck⟩ := autoChoice?_some hChoice
        dsimp only [Option.bind_some]
        rw [hFound]
        exact h.started_activate hCalm hNone hd hState
          ((Device.autoconnectAllowed_iff _).mp hAllowed).1 hUndue hFound hCheck none

/-- What an automatic activation that was due makes of its device. -/
theorem Coherent.started_startPending (h : m.Coherent A) (hCalm : m.Calm) {d : Device}
    (hNone : m.requestOn? x = none) (hd : m.device? x = some d) (hState : d.state = .disconnected) :
    (m.startPending x).device? x =
        some (m.autoStarted { d with activationScheduled := false }) ∧
      (m.startPending x).invalid = m.invalid := by
  have hFlag := h.modifyDevice x (f := fun d => { d with activationScheduled := false })
    fun d => ⟨⟨rfl, rfl, rfl, rfl, fun _ => rfl, rfl⟩, rfl, fun h => ⟨h.stop, h.managed, h.hardware⟩⟩
  have hFlagCalm := hCalm.rests (rests_modifyDevice m x fun d => { d with activationScheduled := false })
  have hEq : m.modifyDevice x (fun d => { d with activationScheduled := false }) =
      m.setDevice { d with activationScheduled := false } := by
    unfold Manager.modifyDevice
    rw [hd]
  unfold Manager.startPending
  rw [hEq] at hFlag hFlagCalm ⊢
  have hThere := device?_setDevice_of (e := { d with activationScheduled := false }) hd
    (device?_eq_some hd).2 x
  rw [if_pos rfl] at hThere
  exact hFlag.started_autoActivate hFlagCalm hNone hThere hState rfl

-- ---------------------------------------------------------------------------
-- A failure
-- ---------------------------------------------------------------------------

/-- The activation of a device has one owner, the request or what one left. -/
def BelongsTo (m : Manager) (x : Nat) (origin : Bool × String) : Prop :=
  (m.requestOn? x).map Request.origin = some origin ∧ m.orphan? x = none ∨
    m.requestOn? x = none ∧ (m.orphan? x).map Orphan.origin = some origin

/-- Whoever owned a failed activation, its connection is left out from now on, unless a user started
it. -/
theorem decides_freed (hOwner : m.BelongsTo x origin) (reason : StateReason) :
    Decides (m.blaming origin) ((m.failOrphan x).failRequest x reason) := by
  rcases hOwner with ⟨hRequest, hNone⟩ | ⟨hNone, hOrphan⟩
  · obtain ⟨r, hr, rfl⟩ := Option.map_eq_some_iff.mp hRequest
    have hKept : m.failOrphan x = m := by
      unfold failOrphan
      rw [hNone]
    rw [hKept]
    unfold failRequest
    rw [hr]
    exact decides_teardown _ _ _
  · obtain ⟨o, ho, rfl⟩ := Option.map_eq_some_iff.mp hOrphan
    have hDropped : m.failOrphan x = (m.dropOrphan x).blaming o.origin := by
      unfold failOrphan
      rw [ho]
      rfl
    have hFree : ((m.dropOrphan x).blaming o.origin).requestOn? x = none := by
      unfold blaming
      split
      · exact hNone
      · show ((m.dropOrphan x).markInvalid _).requests.find? _ = none
        rw [(same_markInvalid _ _).requests]
        exact hNone
    have hKept : ((m.dropOrphan x).blaming o.origin).failRequest x reason =
        (m.dropOrphan x).blaming o.origin := by
      unfold failRequest
      rw [hFree]
    rw [hDropped, hKept]
    have hConcurs : Concurs m (m.dropOrphan x) := ⟨⟨rfl, rfl, rfl, rfl, rfl⟩, rfl, rfl⟩
    exact (hConcurs.blaming _).toDecides

/-- Whether an automatic activation becomes due on a device that has just been disconnected. -/
def mayStart (m : Manager) (d : Device) : Bool := !m.isAsleep && d.autoconnectAllowed

theorem schedule_eq {d : Device} (hd : m.device? x = some d) (hPending : m.pending = []) :
    m.schedule x = if m.mayStart d then m.enlisted x else m := by
  unfold schedule mayStart enlisted modifyDevice
  rw [hd, hPending]
  dsimp only
  cases m.isAsleep with
  | true => rfl
  | false => cases d.autoconnectAllowed <;> rfl

theorem queue_updateDevice (h : m.Fits A) {d : Device} (hd : m.device? x = some d)
    (f : Device → Update) : (m.updateDevice x f).queue = m.queue ++ (f d).events := by
  unfold updateDevice
  rw [hd]
  exact if_pos (h.mem_listeners hd).1

/-- A failure is told, and the device is free to start again. -/
theorem Fits.handled_failed (h : m.Fits A) (hQueue : m.queue = [.stateChanged x .failed old reason])
    {d : Device} (hd : m.device? x = some d) (hFailed : d.state = .failed)
    (hOwner : m.BelongsTo x origin) :
    let p := { m with queue := [] }.handleEvent (.stateChanged x .failed old reason)
    p.device? x = some ((Site.leftAlone d).enter .disconnected) ∧ p.requestOn? x = none ∧
      p.queue = [.stateChanged x .disconnected .failed reason] ∧ p.pending = m.pending ∧
      Decides (m.blaming origin) p ∧ Since m p (.deviceStateChanged x .failed old reason) := by
  intro p
  let t := { m with queue := [] }.announced x .failed old reason
  have hUpdated : p = (t.activationFailed x reason).updateState := rfl
  have hListen := Site.allListen_leftAlone d
  have hMove : (Site.leftAlone d).moveTo .disconnected reason =
      { device := (Site.leftAlone d).enter .disconnected
        events := [.stateChanged d.id .disconnected .failed reason], error := none } := by
    rw [Device.moveTo_eq hListen reason (by show d.state.canMove .disconnected = true; rw [hFailed]; rfl),
      show (Site.leftAlone d).state = .failed from hFailed]
    rfl
  have hSite : p.site x = _ := ((h.acts_failed hQueue hd).same (same_updateState _)).here
  have hFree := h.freed_of_failed hQueue
  have hThere := (congrArg Site.device hFree.here).trans (congrArg (Option.map Site.leftAlone) hd)
  have hAnnounced : Concurs m t ∧ Since m t (.deviceStateChanged x .failed old reason) :=
    ⟨⟨⟨rfl, rfl, rfl, rfl, rfl⟩, rfl, rfl⟩,
     [.deviceStateChanged x .failed old reason, .activeConnectionsChanged],
     List.append_assoc _ _ _, List.mem_cons_self⟩
  have hRests : Rests t ((t.failOrphan x).failRequest x reason) :=
    (rests_failOrphan t x).trans (rests_failRequest _ x reason)
  have hBlamed : Decides (m.blaming origin) ((t.failOrphan x).failRequest x reason) :=
    (hAnnounced.1.blaming origin).toDecides.trans (decides_freed (m := t) hOwner reason)
  refine ⟨?_, congrArg Site.request hSite, ?_, ?_, ?_, ?_⟩
  · refine (congrArg Site.device hSite).trans ?_
    rw [hMove]
    rfl
  · rw [hUpdated, (rests_updateState _).queue]
    refine (queue_updateDevice hFree.fits hThere fun d => d.moveTo .disconnected reason).trans ?_
    rw [hRests.queue, hMove, (device?_eq_some hd).2]
    rfl
  · rw [hUpdated, (rests_updateState _).pending]
    exact (pending_updateDevice _ _ _).trans hRests.pending
  · exact (hBlamed.trans (decides_updateDevice _ _ _)).trans (decides_updateState _)
  · refine hAnnounced.2.later ?_
    exact ((((retains_failOrphan (H := nothing) t x).trans (retains_failRequest _ x reason)).trans
      (retains_updateDevice _ _ _)).trans (retains_updateState _)).events

/-- That a device without an owner is disconnected is told, and an automatic activation may become due
on it. -/
theorem handled_disconnected (old : DeviceState) (reason : StateReason) {d : Device} (hd : m.device? x = some d) (hNone : m.requestOn? x = none)
    (hPending : m.pending = []) :
    let p := { m with queue := [] }.handleEvent (.stateChanged x .disconnected old reason)
    p.device? x = some (if m.mayStart d then { d with activationScheduled := true } else d) ∧
      p.requestOn? x = none ∧ p.queue = [] ∧ p.pending = (if m.mayStart d then [x] else []) ∧
      Decides m p := by
  intro p
  let t := ({ m with queue := [] }.announced x .disconnected old reason).dropOrphan x
  have hKept : t.teardownOn x reason = t := by
    unfold teardownOn
    rw [show t.requestOn? x = none from hNone]
  have hEq : p = (if m.mayStart d then t.enlisted x else t).updateState := by
    show ((t.teardownOn x reason).schedule x).updateState = _
    rw [hKept, schedule_eq (m := t) hd hPending]
    rfl
  have hFlagged : t.enlisted x = { t.setDevice { d with activationScheduled := true } with
      pending := t.pending ++ [x] } := by
    unfold enlisted modifyDevice
    rw [show t.device? x = some d from hd]
  have hRequest : ∀ m : Manager, m.updateState.requestOn? x = m.requestOn? x := fun m =>
    congrArg Site.request ((same_updateState m).site x)
  have hAside : Decides m t := ⟨rfl, rfl, rfl, rfl, rfl⟩
  have hEnlisted : Decides m (t.enlisted x) := by
    rw [hFlagged]
    exact ⟨rfl, rfl, rfl, rfl, rfl⟩
  rw [hEq, device?_updateState, hRequest, (rests_updateState _).queue, (rests_updateState _).pending]
  cases m.mayStart d with
  | false => exact ⟨hd, hNone, rfl, hPending, hAside.trans (decides_updateState t)⟩
  | true =>
    refine ⟨?_, ?_, ?_, ?_, hEnlisted.trans (decides_updateState _)⟩ <;>
      simp only [if_true, hFlagged]
    · exact (device?_setDevice_of (m := t) (e := { d with activationScheduled := true }) hd
        (device?_eq_some hd).2 x).trans (if_pos rfl)
    · exact hNone
    · rfl
    · rw [show t.pending = [] from hPending]
      rfl

/-- What the handling of a failure leaves to do: an automatic activation, if one may start. -/
structure Crashed (A : Nat → String → Prop) (x : Nat) (origin : Bool × String) (d : Device)
    (m p : Manager) : Prop where
  coherent : p.Coherent A
  device : p.device? x = some (if m.mayStart d then { d with activationScheduled := true } else d)
  request : p.requestOn? x = none
  queue : p.queue = []
  pending : p.pending = if m.mayStart d then [x] else []
  concurs : Concurs (m.blaming origin) p

theorem concurs_blaming (m : Manager) (origin : Bool × String) :
    (m.blaming origin).terms = m.terms ∧ (m.blaming origin).nextRequest = m.nextRequest ∧
      (m.blaming origin).isAsleep = m.isAsleep := by
  unfold blaming markInvalid
  split
  · exact ⟨rfl, rfl, rfl⟩
  · split <;> exact ⟨rfl, rfl, rfl⟩

/-- A failure is handled, with what follows for the device. -/
theorem Coherent.drain_failed (h : m.Coherent A)
    (hQueue : m.queue = [.stateChanged x .failed old reason]) (hPending : m.pending = [])
    {d : Device} (hd : m.device? x = some d) (hFailed : d.state = .failed)
    (hOwner : m.BelongsTo x origin) :
    Crashed A x origin ((Site.leftAlone d).enter .disconnected) m (drain 2 m) ∧
      Since m (drain 2 m) (.deviceStateChanged x .failed old reason) := by
  let m₁ := { m with queue := [] }.handleEvent (.stateChanged x .failed old reason)
  obtain ⟨hDevice, hRequest, hQueue₁, hPending₁, hDecides, hTold⟩ :=
    h.toFits.handled_failed hQueue hd hFailed hOwner
  have h₁ : m₁.Coherent A := h.handleEvent_coherent hQueue
  let p := { m₁ with queue := [] }.handleEvent (.stateChanged x .disconnected .failed reason)
  have hDrain : drain 2 m = p := by
    unfold drain
    rw [hQueue]
    dsimp only
    unfold drain
    rw [show m₁.queue = _ from hQueue₁]
    rfl
  obtain ⟨hDevice', hRequest', hQueue', hPending', hDecides'⟩ :=
    handled_disconnected .failed reason hDevice hRequest (hPending₁.trans hPending)
  have hMayStart : ∀ e, m₁.mayStart e = m.mayStart e := by
    intro e
    unfold mayStart
    rw [hDecides.isAsleep, (concurs_blaming m origin).2.2]
  rw [hMayStart] at hDevice' hPending'
  have hTerms : p.terms = m.terms := (terms_handleEvent _ _).trans (terms_handleEvent _ _)
  have hNumber : p.nextRequest = m.nextRequest :=
    (h₁.handleEvent_stays hQueue₁ x).1.nextRequest.trans (h.handleEvent_stays hQueue x).1.nextRequest
  rw [hDrain]
  refine ⟨⟨h₁.handleEvent_coherent hQueue₁, hDevice', hRequest', hQueue', hPending',
    hDecides.trans hDecides', hTerms.trans (concurs_blaming m origin).1.symm,
    hNumber.trans (concurs_blaming m origin).2.1.symm⟩, ?_⟩
  exact hTold.later (retains_handleEvent (H := nothing) { m₁ with queue := [] } _).events

/-- A device that was disconnected after a failure, once the manager has settled. -/
def recovered (m : Manager) (d : Device) : Device :=
  if m.mayStart d then m.autoStarted { d with activationScheduled := false } else d

theorem Concurs.recovered (h : Concurs m m') (d : Device) : m'.recovered d = m.recovered d := by
  unfold Manager.recovered mayStart
  rw [h.isAsleep, h.autoStarted]

/-- A manager in which nothing is due after its queues were worked off has settled, apart from its
state. -/
theorem settle_undue (h : m.pump.pending = []) : m.settle = m.pump.updateState := by
  unfold Manager.settle Manager.roundBound Manager.settleRounds
  dsimp only
  rw [h]
  rfl

/-- A manager in which something is due on one device starts it, and then has settled. -/
theorem Coherent.settle_due (h : m.Coherent A) (hPending : m.pump.pending = [x]) :
    let q : Manager := { m.pump with pending := [] }
    q.Coherent A ∧ q.Calm ∧ (q.startPending x).Calm ∧
      m.settle = (q.startPending x).pump.updateState := by
  intro q
  obtain ⟨hPumped, hQuiet⟩ := h.pump
  have hReady : q.Coherent A := hPumped.same ⟨rfl, rfl, rfl, rfl, rfl, rfl, rfl, fun _ => rfl⟩
  have hCalm : q.Calm := by
    refine ⟨?_, rfl⟩
    rw [show q.queue = [] from hQuiet.queue]
    exact fun e he => absurd he List.not_mem_nil
  have hStarted := (hReady.startPending hCalm x).2
  refine ⟨hReady, hCalm, hStarted, ?_⟩
  unfold Manager.settle Manager.roundBound Manager.settleRounds
  dsimp only
  rw [hPending]
  show (Manager.settleRounds (_ + 1) (q.startPending x)).updateState = _
  unfold Manager.settleRounds
  dsimp only
  rw [hStarted.pump.pending]
  rfl

theorem device?_processRequests (m : Manager) (x : Nat) :
    m.processRequests.device? x = m.device? x := by
  unfold device?
  rw [devices_processRequests]

/-- Requests that look at what waits for them stay whose they are. -/
theorem Fits.origin_processRequest (h : m.Fits A) (x id : Nat) :
    ((m.processRequest id).requestOn? x).map Request.origin = (m.requestOn? x).map Request.origin ∧
      (m.processRequest id).orphan? x = m.orphan? x := by
  cases hFound : m.request? id with
  | none =>
    unfold Manager.processRequest
    rw [hFound]
    exact ⟨rfl, rfl⟩
  | some r =>
    obtain ⟨hr, rfl⟩ := request?_eq_some hFound
    have hActs := h.processRequest hr
    by_cases hx : x = r.device
    · subst hx
      refine ⟨?_, congrArg Site.orphan hActs.here⟩
      refine (congrArg (Option.map Request.origin) (congrArg Site.request hActs.here)).trans ?_
      rw [h.linked.requestOn?_of_mem hr]
      exact congrArg some (Prod.ext r.resolves_processEvents.goes.userRequested
        (congrArg Connection.uuid r.resolves_processEvents.connection))
    · have hAway := hActs.away x hx
      exact ⟨congrArg (Option.map Request.origin) (congrArg Site.request hAway),
        congrArg Site.orphan hAway⟩

theorem Coherent.origin_processRequests (h : m.Coherent A) (x : Nat) :
    (m.processRequests.requestOn? x).map Request.origin = (m.requestOn? x).map Request.origin ∧
      m.processRequests.orphan? x = m.orphan? x :=
  (foldl_rest (P := fun _ m' => m'.Coherent A ∧
      (m'.requestOn? x).map Request.origin = (m.requestOn? x).map Request.origin ∧
        m'.orphan? x = m.orphan? x)
    (fun r _ _ hm' =>
      have hOrigin := hm'.1.toFits.origin_processRequest x r.id
      ⟨hm'.1.processRequest r.id, hOrigin.1.trans hm'.2.1, hOrigin.2.trans hm'.2.2⟩)
    m.requests m ⟨h, rfl, rfl⟩).2

theorem requestOn?_processRequests (h : m.Coherent A) (hNone : m.requestOn? x = none) :
    m.processRequests.requestOn? x = none := by
  have hOrigin := (h.origin_processRequests x).1
  rwa [hNone, Option.map_none, Option.map_eq_none_iff] at hOrigin

/-- What is left of a failure once the manager has settled. -/
theorem Crashed.settle {p : Manager} (h : Crashed A x origin d m p) (hCoherent : m'.Coherent A)
    (hPump : m'.pump = p.processRequests) (hState : d.state = .disconnected) :
    m'.settle.device? x = some ((m.blaming origin).recovered d) ∧
      m'.settle.invalid = (m.blaming origin).invalid ∧ p.events <+: m'.settle.events := by
  have hPumped := hCoherent.pump
  have hDevice : m'.pump.device? x = p.device? x := by
    rw [hPump, device?_processRequests]
  have hNone : m'.pump.requestOn? x = none := by
    rw [hPump]
    exact requestOn?_processRequests h.coherent h.request
  have hPending : m'.pump.pending = p.pending := by
    rw [hPump]
    exact (rests_processRequests p).pending
  have hConcurs : Concurs (m.blaming origin) m'.pump := by
    rw [hPump]
    exact h.concurs.trans h.coherent.concurs_processRequests
  have hEvents : p.events <+: m'.settle.events := by
    have hMore : Retains (fun _ _ => True) m'.pump m'.settle := m'.admits_all.settle_pump
    refine List.IsPrefix.trans ?_ hMore.events
    rw [hPump]
    exact (retains_processRequests (H := nothing) p).events
  have hMayStart : (m.blaming origin).mayStart d = m.mayStart d := by
    unfold mayStart
    rw [(concurs_blaming m origin).2.2]
  rw [h.device] at hDevice
  rw [h.pending] at hPending
  unfold recovered
  rw [hMayStart]
  -- the device recovers either way; something else starts on it only if it may
  cases hStart : m.mayStart d with
  | false =>
    rw [hStart] at hDevice hPending
    rw [settle_undue hPending, device?_updateState, (decides_updateState _).invalid]
    rw [settle_undue hPending] at hEvents
    exact ⟨hDevice, hConcurs.invalid, hEvents⟩
  | true =>
    rw [hStart] at hDevice hPending
    obtain ⟨hReady, hCalm, hStarted, hSettle⟩ := hCoherent.settle_due hPending
    obtain ⟨hThere, hInvalid⟩ := hReady.started_startPending hCalm hNone hDevice hState
    refine ⟨?_, ?_, hEvents⟩
    · rw [hSettle, device?_updateState]
      unfold device?
      rw [hStarted.devices_pump]
      exact hThere.trans (congrArg some (hConcurs.autoStarted _))
    · rw [hSettle, (decides_updateState _).invalid, hStarted.invalid_pump]
      exact hInvalid.trans hConcurs.invalid

end Manager

end ScannerHub
