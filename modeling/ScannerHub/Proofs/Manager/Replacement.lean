import ScannerHub.Proofs.Manager.Continuity
import ScannerHub.Proofs.Manager.Elsewhere
import ScannerHub.Proofs.Manager.Hindsight
import ScannerHub.Proofs.Manager.Termination

/-!
# Starting a connection is all or nothing

Before an activation starts, the one that is on the device ends. Whatever can keep the new one from
starting is looked at before: the device of a settled manager is stopped in any state in which it may
be started, and then it takes every connection that it took before. So nobody loses a connection to
one that does not start.

The end of the old activation may make an automatic one due on the device, which is called off again.
So nothing follows from the start but what the device tells, and the manager comes to rest with the new
request on the device.

* `Manager.TakesOver` — what there is after a connection was started.

## Results

* `Calm.settle_eq` — what is left to do for a manager from whose events nothing follows;
* `Settled.activate_takesOver` — an activation that starts, and the manager after it has settled;
* `run_activateConnection` — whatever anyone asks for in a run.
-/

namespace ScannerHub

namespace Request

variable {r : Request}

/-- A request that ends gives up its call for secrets. -/
theorem cancels_detach {p : PendingSecrets} (hSecrets : r.secrets = some p) (reason : StateReason) :
    .cancelSecrets p.call ∈ (r.detach reason).2 := by
  unfold detach cancelSecrets
  dsimp only
  rw [hSecrets]
  simp

/-- A request that ends answers everyone who waits. -/
theorem answers_detach (h : r.Answered) {waiter : Nat} (hWaits : waiter ∈ r.waiters)
    (reason : StateReason) :
    .answerWaiter waiter (.failed (.activationFailed reason)) ∈ (r.detach reason).2 := by
  have hOpen : r.outcome.isSome = false := by
    refine Bool.eq_false_iff.mpr fun hSome => ?_
    rw [h hSome] at hWaits
    cases hWaits
  -- neither the call nor the share rules have to do with those who wait
  have hFinish : ∀ r' : Request, r'.outcome = r.outcome → r'.waiters = r.waiters →
      .answerWaiter waiter (.failed (.activationFailed reason)) ∈
        (r'.finish (.failed (.activationFailed reason))).2 := by
    intro r' hOutcome hWaiters
    unfold finish
    rw [hOutcome, hOpen, if_neg Bool.false_ne_true]
    exact List.mem_map.mpr ⟨waiter, hWaiters ▸ hWaits, rfl⟩
  unfold detach
  dsimp only
  rw [cancelSecrets_eq]
  refine List.mem_append_right _ (hFinish _ ?_ ?_) <;>
  · unfold setShared
    split <;> rfl

end Request

/-- An observer remembers every request that was announced. -/
theorem Observer.seen_of_added (o : Observer) {events : List ManagerEvent} {n : Nat}
    (hAdded : .activeConnectionAdded n ∈ events) : n ∈ (o.read events).seenRequests := by
  obtain ⟨before, after, rfl⟩ := List.append_of_mem hAdded
  rw [read_append]
  exact (((o.read before).hear (.activeConnectionAdded n)).seen_read after).2 List.mem_cons_self

namespace Manager

variable {A : Nat → String → Prop} {m m' : Manager} {id : Nat}

/-- What there is after a connection was started on a device. -/
structure TakesOver (m m' : Manager) (device n : Nat) : Prop where
  /-- The new request is there, and no other one is on the device. -/
  live : ∃ r ∈ m'.requests, r.id = n ∧ r.device = device
  alone : ∀ r ∈ m'.requests, r.device = device → r.id = n
  /-- The device waits for its link, or is connected. -/
  started : ∃ d ∈ m'.devices, d.id = device ∧ (d.state = .config ∨ d.state = .activated)
  /-- The request has been announced. -/
  announced : Since m m' (.activeConnectionAdded n)
  /-- A request that was on the device ended before that, gave up its call for secrets, and answered
  everyone who waited. -/
  removed : ∀ old ∈ m.requests, old.device = device →
    (∀ r ∈ m'.requests, r.id ≠ old.id) ∧
      (∃ news, m'.events = m.events ++ .activeConnectionRemoved old.id :: news ∧
        .activeConnectionAdded n ∈ news) ∧
      ∃ effects, m'.effects = m.effects ++ effects ∧
        (∀ p, old.secrets = some p → .cancelSecrets p.call ∈ effects) ∧
          ∀ waiter ∈ old.waiters,
            .answerWaiter waiter (.failed (.activationFailed .userRequested)) ∈ effects

/-- A manager from whose events nothing follows works them off, and nothing else is due. -/
theorem Calm.settle_eq (h : m.Calm) : m.settle = m.pump.updateState := by
  unfold Manager.settle Manager.roundBound Manager.settleRounds
  dsimp only
  rw [h.pump.pending]
  rfl

theorem Calm.retains_settle (h : m.Calm) : Retains nothing m m.settle := by
  rw [h.settle_eq]
  exact (retains_pump m).trans (retains_updateState _)

-- ---------------------------------------------------------------------------
-- The device is freed
-- ---------------------------------------------------------------------------

/-- Nothing is due once a device has been freed for an activation. -/
theorem Settled.pending_freed (h : m.Settled A) {device : Nat} {d : Device}
    (hd : m.device? device = some d) (hState : d.state ≠ .unmanaged ∧ d.state ≠ .unavailable) :
    ((m.cleared device).undue device).pending = [] := by
  refine List.eq_nil_iff_forall_not_mem.mpr fun x hx => ?_
  obtain ⟨hDue, hNe⟩ := List.mem_filter.mp hx
  -- on other devices nothing became due
  have hOld := (h.toCoherent.spares_cleared hd hState (bne_iff_ne.mp hNe)
    (queueOf_nil h.queue x)).pending hDue
  rw [h.pending] at hOld
  cases hOld

/-- A request that is on a device ends first, and tells everyone. -/
theorem Linked.removed_teardownOn (h : m.Linked) {old : Request} (hOld : old ∈ m.requests)
    (reason : StateReason) :
    (m.teardownOn old.device reason).events =
        m.events ++ [.activeConnectionRemoved old.id, .activeConnectionsChanged] ∧
      (m.teardownOn old.device reason).effects = m.effects ++ (old.detach reason).2 ∧
        ∀ r ∈ (m.teardownOn old.device reason).requests, r.id ≠ old.id := by
  unfold Manager.teardownOn
  rw [h.requestOn?_of_mem hOld]
  dsimp only
  rw [teardown_eq (h.request?_of_mem hOld)]
  exact ⟨rfl, rfl, fun r hr => bne_iff_ne.mp (List.mem_filter.mp hr).2⟩

-- ---------------------------------------------------------------------------
-- The activation starts
-- ---------------------------------------------------------------------------

/-- What a launch leaves behind. -/
structure Launched (m' : Manager) (id number : Nat) : Prop where
  device : ∃ d ∈ m'.devices, d.id = id ∧ (d.state = .config ∨ d.state = .activated)
  request : ∃ r ∈ m'.requests, r.id = number ∧ r.device = id

/-- An activation that fits its disconnected device starts, and is announced. -/
theorem Coherent.launch_launched (h : m.Coherent A) (hCalm : m.Calm) {device number : Nat} {d : Device}
    (hd : m.device? device = some d) (hState : d.state = .disconnected)
    (hQueue : m.queueOf device = []) (hFresh : m.Fresh number) (spec : RequestSpec)
    (hCheck : d.check spec.connection = .ok ()) :
    (m.launch number d spec).2 = .ok number ∧ (m.launch number d spec).1.Coherent A ∧
      (m.launch number d spec).1.Calm ∧ (m.launch number d spec).1.Launched device number := by
  obtain ⟨hOk, hCoherent, hPending, es, hEvents, hEs⟩ := h.launch hd hState hQueue spec hCheck hFresh
  have hNone := h.free hd (by rw [hState]; rfl) hQueue
  obtain ⟨hLaunch, hEq⟩ := h.toFits.launch_eq number hd hState spec hCheck
  obtain ⟨-, -, hSite⟩ := h.toFits.joined hd hNone.1 hQueue hLaunch hFresh
  have hHere := hSite device
  rw [if_pos rfl] at hHere
  refine ⟨hOk, hCoherent, ⟨?_, hPending.trans hCalm.pending⟩, ?_⟩
  · rw [hEvents]
    exact fun e he => (List.mem_append.mp he).elim (hCalm.queue e) (hEs e)
  · rw [hEq]
    obtain ⟨hd', hId'⟩ := device?_eq_some (congrArg Site.device hHere)
    obtain ⟨hr', hOn'⟩ := requestOn?_eq_some (congrArg Site.request hHere)
    exact ⟨⟨_, hd', hId', hLaunch.starts.rests⟩, ⟨_, hr', rfl, hOn'⟩⟩

/-- A calm manager that has just started a request comes to rest with the request and its device as
they are. -/
theorem Coherent.rests_started (h : m.Coherent A) (hCalm : m.Calm) {d : Device} {r : Request}
    (hd : d ∈ m.devices) (hr : r ∈ m.requests) (hDevice : r.device = d.id)
    (hState : d.state.isActive = true) :
    d ∈ m.settle.devices ∧ (∃ r' ∈ m.settle.requests, r'.id = r.id ∧ r'.device = d.id) ∧
      ∀ r' ∈ m.settle.requests, r'.device = d.id → r'.id = r.id := by
  have hSettled := h.settle
  have hRetains : Retains nothing m m.settle := hCalm.retains_settle
  have hThere : d ∈ m.settle.devices := by
    rw [hCalm.settle_eq, (same_updateState _).devices, hCalm.devices_pump]
    exact hd
  -- whoever is on the device was there before
  have hAlone : ∀ r' ∈ m.settle.requests, r'.device = d.id → r'.id = r.id := by
    intro r' hr' hOn
    cases hRetains.requests r' hr' with
    | kept hr₀ hGoes =>
      rw [hGoes.device] at hOn
      rw [hGoes.id, h.linked.eq_of_device hr₀ hr (hOn.trans hDevice.symm)]
    | new _ _ hHeld => exact hHeld.elim
  have hOrphan : m.settle.orphan? d.id = none := by
    refine Option.eq_none_iff_forall_ne_some.mpr fun o hSome => ?_
    have hOwned := (h.held (h.linked.device?_of_mem hd)).owned hState
    change (m.requestOn? d.id).isSome = true ↔ m.orphan? d.id = none at hOwned
    rw [hRetains.orphans d.id o hSome, ← hDevice, h.linked.requestOn?_of_mem hr] at hOwned
    cases hOwned.mp rfl
  have hOwner := hSettled.ownsDevices.owned d hThere
  rw [hState, hOrphan] at hOwner
  obtain ⟨r', hr'⟩ := Option.isSome_iff_exists.mp (by simpa using hOwner.symm)
  obtain ⟨hMem, hOn⟩ := requestOn?_eq_some hr'
  exact ⟨hThere, ⟨r', hMem, hAlone r' hMem hOn, hOn⟩, hAlone⟩

/-- An activation of a settled manager that starts, from the end of the request that was on the device
on. -/
theorem Settled.activate_launched (h : m.Settled A) {device n : Nat} {scope : Scope} {path : String}
    {specific : Option String} {userRequested : Bool}
    (hStarted : m.activate device scope path specific userRequested = (m', .ok n)) :
    n = (m.teardownOn device .userRequested).nextRequest ∧ m'.Coherent A ∧ m'.Calm ∧
      m'.Launched device n ∧ Retains (fun _ _ => True) (m.teardownOn device .userRequested) m' := by
  rcases m.activate_cases device scope path specific userRequested with
    ⟨e, hFailed⟩ | ⟨connection, d, hFound, hd, hOk⟩
  · rw [hFailed] at hStarted
    cases hStarted
  · obtain ⟨hState, hCheck⟩ := checkActivation_ok hOk
    obtain ⟨hCleared, hQuiet, hFresh, d', hd', hState', hCheck'⟩ := h.toCoherent.cleared hd hState
    obtain ⟨hFreed, hBound⟩ := retains_freed (H := fun _ _ => True) m device
    let m₀ : Manager := (m.cleared device).undue device
    have hReady : m₀.Coherent A := hCleared.same ⟨rfl, rfl, rfl, rfl, rfl, rfl, rfl, fun _ => rfl⟩
    have hUndue : Retains (fun _ _ => True) (m.cleared device) m₀ :=
      .of_eq rfl rfl rfl rfl rfl (List.prefix_refl _) (List.prefix_refl _)
    have hCalm : m₀.Calm := by
      refine ⟨fun e he => ?_, h.pending_freed hd hState⟩
      rw [show m₀.queue = [] from hQuiet.queue] at he
      cases he
    let spec : RequestSpec :=
      { connection, path, specific, userRequested, assumed := false
        timeout := (m.cleared device).activationTimeout, nowait := false }
    obtain ⟨hOk', hCoherent, hStill, hLaunched⟩ := hReady.launch_launched hCalm hd' hState'
      (queueOf_nil hQuiet.queue device) ⟨hFresh.requests, hFresh.calls, hFresh.bound⟩ spec
      ((hCheck' connection).trans hCheck)
    rw [activate_eq hFound hd hOk hd'] at hStarted
    obtain rfl : m' = (m₀.launch _ d' spec).1 := (congrArg Prod.fst hStarted).symm
    obtain rfl : n = _ := Except.ok.inj ((congrArg Prod.snd hStarted).symm.trans hOk')
    exact ⟨rfl, hCoherent, hStill, hLaunched,
      (hFreed.trans hUndue).launch (Nat.le_refl _) hBound trivial d'⟩

/-- An activation of a settled manager that starts takes over its device, whatever was there. -/
theorem Settled.activate_takesOver (h : m.Settled A) (hAnswered : ∀ r ∈ m.requests, r.Answered)
    {device n : Nat} {scope : Scope} {path : String} {specific : Option String}
    {userRequested : Bool}
    (hStarted : m.activate device scope path specific userRequested = (m', .ok n)) :
    n = m.nextRequest ∧ m.TakesOver m'.settle device n := by
  obtain ⟨hNumber, hCoherent, hCalm, hLaunched, hRetains⟩ := h.activate_launched hStarted
  obtain ⟨⟨d, hd, rfl, hRests⟩, ⟨r₁, hr₁, rfl, hDevice⟩⟩ := hLaunched
  have hActive : d.state.isActive = true := by
    rcases hRests with hConfig | hActivated
    · rw [hConfig]
      rfl
    · rw [hActivated]
      rfl
  obtain ⟨hThere, hLive, hAlone⟩ := hCoherent.rests_started hCalm hd hr₁ hDevice hActive
  have hTeardown := h.toFits.teardownOn d.id .userRequested
  have hEnded := retains_teardownOn (H := fun _ _ => True) m d.id .userRequested
  have hSettled := hRetains.trans (hCalm.retains_settle.mono fun _ _ => False.elim)
  -- a number that was given out after the old request ended is announced after that
  have hAnnounced : Since (m.teardownOn d.id .userRequested) m'.settle
      (.activeConnectionAdded r₁.id) := by
    obtain ⟨r, hr, hId, -⟩ := hLive
    cases hSettled.requests r hr with
    | new _ _ _ _ _ hAdded => exact hId ▸ hAdded
    | kept hr₀ hGoes =>
      have hOld := hTeardown.fits.linked.requestBound _ hr₀
      rw [← hGoes.id, hId, hNumber] at hOld
      exact absurd hOld (Nat.lt_irrefl _)
  refine ⟨hNumber.trans hTeardown.within.nextRequest, hLive, hAlone, ⟨d, hThere, rfl, hRests⟩,
    hAnnounced.earlier hEnded.events, fun old hOld hOn => ?_⟩
  obtain ⟨hRemoved, hTold, hGone⟩ := h.linked.removed_teardownOn hOld .userRequested
  rw [hOn] at hRemoved hTold hGone
  refine ⟨fun r hr hId => ?_, ?_, ?_⟩
  · cases hSettled.requests r hr with
    | kept hr₀ hGoes => exact hGone _ hr₀ (hGoes.id.symm.trans hId)
    | new hNew =>
      rw [hTeardown.within.nextRequest, hId] at hNew
      exact absurd (h.linked.requestBound old hOld) (Nat.not_lt.mpr hNew)
  · obtain ⟨news, hNews, hAdded⟩ := hAnnounced
    refine ⟨.activeConnectionsChanged :: news, ?_, List.mem_cons_of_mem _ hAdded⟩
    rw [hNews, hRemoved, List.append_assoc]
    rfl
  · obtain ⟨more, hMore⟩ := hSettled.effects
    refine ⟨(old.detach .userRequested).2 ++ more, ?_, fun p hp => ?_, fun waiter hWaits => ?_⟩
    · rw [← hMore, hTold, List.append_assoc]
    · exact List.mem_append_left _ (Request.cancels_detach hp _)
    · exact List.mem_append_left _ (Request.answers_detach (hAnswered old hOld) hWaits _)

-- ---------------------------------------------------------------------------
-- Runs
-- ---------------------------------------------------------------------------

/-- A number that was announced in a run is one that was given out. -/
theorem run_announced (store : StateStore) (allowed : List Nat) (timeout : Option Nat) (epoch : Nat)
    (operations : List Operation) {n : Nat}
    (hAdded : .activeConnectionAdded n ∈ ((start store allowed timeout epoch).run operations).events) :
    n < ((start store allowed timeout epoch).run operations).nextRequest := by
  have hRested := start_rested (A := fun _ _ => True) store allowed timeout epoch
  obtain ⟨τ, hTracks⟩ := tracks_of hRested.linked hRested.queue
  obtain ⟨_, news, hEvents, -, hTracks'⟩ := run_tracked hRested operations hTracks
  rw [show news = _ from hEvents.symm] at hTracks'
  exact (hTracks'.requests n (Observer.seen_of_added _ hAdded)).1

/-- What a user asks for is refused before anything is touched, or it starts. -/
theorem Settled.activateConnection_cases (h : m.Settled A) (uid : Nat)
    (service path device : String) (specific : Option String) :
    (∃ e, m.activateConnection uid service path device specific = (m, .error e)) ∨
      ∃ id scope specific' m' n, deviceOfPath? device = some id ∧
        m.activate id scope path specific' true = (m', .ok n) ∧
          m.activateConnection uid service path device specific = (m'.settle, .ok n) := by
  unfold Manager.activateConnection
  cases authorize m.allowed uid .useConnection with
  | error e => exact Or.inl ⟨e, rfl⟩
  | ok u =>
    cases (Scope.ofServiceName? service).filter fun s => (m.cache s).running with
    | none => exact Or.inl ⟨_, rfl⟩
    | some scope =>
      cases hDevice : (deviceOfPath? device).filter fun id => (m.device? id).isSome with
      | none => exact Or.inl ⟨_, rfl⟩
      | some id =>
        dsimp only
        generalize specific.filter (fun p => !p.isEmpty && p != "/") = specific'
        rcases h.toCoherent.activate_spec id scope path specific' true with
          ⟨e, hFailed⟩ | ⟨⟨n, hOk⟩, -⟩
        · rw [hFailed]
          exact Or.inl ⟨e, rfl⟩
        · have hStarted : m.activate id scope path specific' true =
              ((m.activate id scope path specific' true).1, .ok n) := Prod.ext rfl hOk
          refine Or.inr ⟨id, scope, specific', _, n, (Option.filter_eq_some_iff.mp hDevice).1,
            hStarted, ?_⟩
          rw [hStarted]

/-- Whoever asks for a connection on a device at any time gets it or an error. With an error nothing
at all has changed. Otherwise the request has a number that nobody ever heard of, it is the only one
on the device, which is on its way, and a request that was there before has ended. -/
theorem run_activateConnection (store : StateStore) (allowed : List Nat) (timeout : Option Nat)
    (epoch : Nat) (before after : List Operation) (uid : Nat) (service path device : String)
    (specific : Option String) :
    let earlier := (start store allowed timeout epoch).run before
    let m := earlier.run after
    match m.activateConnection uid service path device specific with
    | (m', .error _) => m' = m
    | (m', .ok n) => (∀ r ∈ earlier.requests, r.id ≠ n) ∧ .activeConnectionAdded n ∉ m.events ∧
        ∃ id, deviceOfPath? device = some id ∧ m.TakesOver m' id n := by
  intro earlier m
  have hEarlier : earlier.Settled fun _ _ => True :=
    run_settled (start_settled store allowed timeout epoch) before
  have h : m.Settled fun _ _ => True := run_settled hEarlier after
  have hRun : m = (start store allowed timeout epoch).run (before ++ after) :=
    List.foldl_append.symm
  have hAnswered : ∀ r ∈ m.requests, r.Answered := by
    rw [hRun]
    exact fun r hr => (run_requests store allowed timeout epoch _ r hr).2
  rcases h.activateConnection_cases uid service path device specific with
    ⟨e, hFailed⟩ | ⟨id, scope, specific', m', n, hDevice, hStarted, hEq⟩
  · rw [hFailed]
  · obtain ⟨rfl, hTakesOver⟩ := h.activate_takesOver hAnswered hStarted
    rw [hEq]
    refine ⟨fun r hr hId => ?_, fun hAdded => ?_, id, hDevice, hTakesOver⟩
    · have hGiven := Nat.lt_of_lt_of_le (hEarlier.linked.requestBound r hr)
        (run_continues hEarlier after).nextRequest
      exact absurd hId (Nat.ne_of_lt hGiven)
    · rw [hRun] at hAdded
      have hGiven := run_announced store allowed timeout epoch _ hAdded
      rw [← hRun] at hGiven
      exact absurd hGiven (Nat.lt_irrefl _)

-- a second activation on a device that is still connecting
example :
    let m := (start DialUp.store [] none 0).run DialUp.connecting
    let started := m.activateConnection 0 Scope.system.serviceName "/c" (devicePath 0) none
    m.requests.map Request.id = [0] ∧ started.2 = .ok 1 ∧
      started.1.requests.map Request.id = [1] ∧ started.1.events.drop m.events.length =
        [.activeConnectionRemoved 0, .activeConnectionsChanged,
         .deviceStateChanged 0 .disconnected .config .userRequested, .activeConnectionsChanged,
         .activeConnectionAdded 1, .activeConnectionsChanged, .activeConnectionChanged 1,
         .deviceStateChanged 0 .prepare .disconnected .none, .activeConnectionsChanged,
         .deviceStateChanged 0 .config .prepare .none,
         .linkRequested 0 { address := "00:11:22:33:44:55", profile := .dun }] := by
  decide +kernel

end Manager

end ScannerHub
