import ScannerHub.Proofs.Manager.Drain

/-!
# Settling

An activation that passes its checks always starts: the device was stopped before, and handling the
events of that does not touch a disconnected device. So an automatic activation brings only events
from which nothing follows, and the second round of settling is the last one.

* `Manager.Calm` — nothing is due, and nothing follows from what waits;
* `Manager.Settled` — coherent, with nothing left to do.

## Results

* `Coherent.activate` — an activation preserves the invariant;
* `Coherent.settle` — a coherent manager settles;
* `Settled.settle_eq` — a settled manager stays as it is.
-/

namespace ScannerHub.Manager

variable {A : Nat → String → Prop} {m m' : Manager} {id : Nat}

-- ---------------------------------------------------------------------------
-- What working off the queues leaves alone
-- ---------------------------------------------------------------------------

theorem devices_processRequests (m : Manager) : m.processRequests.devices = m.devices := by
  unfold Manager.processRequests
  refine foldl_rest (P := fun _ m' => m'.devices = m.devices) (fun r _ m' h => ?_) m.requests m rfl
  rw [← h]
  unfold Manager.processRequest
  split
  · rfl
  · dsimp only
    split <;> rfl

theorem Coherent.within_processRequest (h : m.Coherent A) (id : Nat) :
    Within m (m.processRequest id) := by
  cases hr : m.request? id with
  | none =>
    unfold Manager.processRequest
    rw [hr]
    exact Within.refl m
  | some r =>
    obtain ⟨hrMem, rfl⟩ := request?_eq_some hr
    exact (h.toFits.processRequest hrMem).within

theorem Coherent.within_processRequests (h : m.Coherent A) : Within m m.processRequests :=
  (foldl_rest (P := fun _ m' => m'.Coherent A ∧ Within m m')
    (fun r _ _ h => ⟨h.1.processRequest r.id, h.2.trans (h.1.within_processRequest r.id)⟩)
    m.requests m ⟨h, Within.refl m⟩).2

/-- One event, for a site that may be another one. -/
theorem Coherent.handleEvent_stays (h : m.Coherent A) {e : DeviceEvent} {rest : List DeviceEvent}
    (hQueue : m.queue = e :: rest) (id : Nat) :
    Within m ({ m with queue := rest }.handleEvent e) ∧
      (m.site id).Stays (({ m with queue := rest }.handleEvent e).site id) := by
  obtain ⟨s', hActs, -, hStays⟩ := h.handleEvent hQueue
  refine ⟨hActs.within, ?_⟩
  by_cases hId : id = e.device
  · subst hId
    rw [hActs.here]
    exact hStays
  · rw [hActs.away id hId]
    exact Site.Stays.refl _

/-- Working off the queues brings no request, and leaves a device that rests as it is. -/
theorem Coherent.pump_stays (h : m.Coherent A) (id : Nat) :
    Within m m.pump ∧ (m.site id).Stays (m.pump.site id) := by
  refine (pump_preserves (P := fun m' => m'.Coherent A ∧ Within m m' ∧
    (m.site id).Stays (m'.site id)) ?_ ?_ ⟨h, Within.refl m, Site.Stays.refl _⟩).2
  · rintro m' ⟨hCoherent, hWithin, hStays⟩
    refine ⟨hCoherent.processRequests.1, hWithin.trans hCoherent.within_processRequests,
      hStays.trans fun d hd _ => ⟨d, ?_, rfl, fun _ => rfl⟩⟩
    show m'.processRequests.device? id = some d
    unfold device?
    rw [devices_processRequests]
    exact hd
  · rintro m' e rest ⟨hCoherent, hWithin, hStays⟩ hQueue
    obtain ⟨hWithin', hStays'⟩ := hCoherent.handleEvent_stays hQueue id
    exact ⟨hCoherent.handleEvent_coherent hQueue, hWithin.trans hWithin', hStays.trans hStays'⟩

-- ---------------------------------------------------------------------------
-- Calm
-- ---------------------------------------------------------------------------

/-- No automatic activation is due, and nothing follows from the events that wait. -/
structure Calm (m : Manager) : Prop where
  queue : ∀ e ∈ m.queue, e.isCalm = true
  pending : m.pending = []

theorem Calm.rests (h : m.Calm) (hRests : Rests m m') : m'.Calm :=
  ⟨by rw [hRests.queue]; exact h.queue, by rw [hRests.pending]; exact h.pending⟩

theorem rests_handleEvent_calm (m : Manager) {e : DeviceEvent} (he : e.isCalm = true) :
    Rests m (m.handleEvent e) := by
  cases e with
  | needSecrets id need => cases he
  | linkRequested id request => exact ⟨rfl, rfl⟩
  | stateChanged id new old reason =>
    change new.isActive = true at he
    have hAnnounced := rests_announced m id new old reason
    have hFollow : Rests (m.announced id new old reason)
        ((m.announced id new old reason).followState id new reason) := by
      cases new <;> first | cases he; done | exact Rests.refl _ | exact rests_updateTimestamp _ _
    show Rests m (Manager.updateState _)
    refine Rests.trans ?_ (rests_updateState _)
    rw [he]
    exact hAnnounced.trans hFollow

theorem Calm.pump (h : m.Calm) : m.pump.Calm := by
  refine pump_preserves (P := Calm) (fun m' h' => h'.rests (rests_processRequests m')) ?_ h
  intro m' e rest h' hQueue
  have hIn : ∀ f ∈ e :: rest, f.isCalm = true := hQueue ▸ h'.queue
  have hRest : Calm { m' with queue := rest } :=
    ⟨fun f hf => hIn f (List.mem_cons_of_mem e hf), h'.pending⟩
  exact hRest.rests (rests_handleEvent_calm _ (hIn e List.mem_cons_self))

-- ---------------------------------------------------------------------------
-- The start of an activation
-- ---------------------------------------------------------------------------

/-- Nothing follows from the events of a device that starts. -/
theorem calm_of_starts {d : Device} {u : Update} (h : Device.Starts d u) :
    ∀ e ∈ u.events, e.isCalm = true := by
  intro e he
  have hAsks := h.asksNot
  unfold asks at hAsks
  rw [List.any_eq_false] at hAsks
  cases e with
  | linkRequested device request => rfl
  | needSecrets device need => exact absurd rfl (hAsks _ he)
  | stateChanged device new old reason =>
    exact h.active new (List.mem_filterMap.mpr ⟨_, he, rfl⟩)

/-- A device about to be started by a request, with its flags reset. -/
def readied (d : Device) (userRequested : Bool) : Device :=
  let d := { d with activationScheduled := false }
  if userRequested then { d with autoconnectInhibited := false } else d

theorem frame_readied (d : Device) (userRequested : Bool) :
    Device.Frame d (readied d userRequested) ∧ (readied d userRequested).state = d.state ∧
      (d.Sound → (readied d userRequested).Sound) := by
  cases userRequested <;>
    exact ⟨⟨rfl, rfl, rfl, rfl, fun _ => rfl, rfl⟩, rfl, fun h => ⟨h.stop, h.managed, h.hardware⟩⟩

/-- The manager with a new request on a device that has just been started. -/
def joined (m : Manager) (r : Request) (listeners : List Listener) (u : Update) : Manager :=
  { m.setDevice u.device with requests := m.requests ++ [r] }.deliver listeners u.events

/-- A disconnected device with nothing waiting to be handled has no owner left. -/
theorem Coherent.free (h : m.Coherent A) {d : Device} (hd : m.device? id = some d)
    (hIdle : d.state.isActive = false) (hQueue : m.queueOf id = []) :
    m.requestOn? id = none ∧ m.orphan? id = none := by
  have hLeft := (h.held hd).left hIdle
  have hNil : entered (m.site id).queue = [] := by
    show entered (m.queueOf id) = []
    rw [hQueue]
    rfl
  constructor
  · rw [← Option.not_isSome_iff_eq_none]
    exact fun hSome => hLeft (Or.inl hSome) hNil
  · rw [← Option.not_isSome_iff_eq_none]
    exact fun hSome => hLeft (Or.inr (Or.inl hSome)) hNil

section Joined

variable {d d' : Device} {r : Request} {u : Update}

/-- A request that is new has a number of its own. -/
structure Fresh (m : Manager) (id : Nat) : Prop where
  requests : ∀ r ∈ m.requests, r.id ≠ id
  calls : ∀ c ∈ issued m.effects, c.request ≠ id
  bound : id < m.nextRequest

theorem Fresh.within (h : m.Fresh id) (hWithin : Within m m') : m'.Fresh id where
  requests r hr := by
    obtain ⟨r₀, hr₀, hId, -⟩ := hWithin.requests r hr
    rw [← hId]
    exact h.requests r₀ hr₀
  calls c hc := by
    rcases hWithin.calls c hc with hc | ⟨r, hr, hId⟩
    · exact h.calls c hc
    · rw [← hId]
      exact h.requests r hr
  bound := by
    rw [hWithin.nextRequest]
    exact h.bound

theorem linked_joined (h : m.Linked) (hFresh : m.Fresh r.id) (hNone : m.requestOn? r.device = none)
    (hd : m.device? id = some d) (hFrame : u.device.id = id ∧ u.device.udi = d.udi)
    (listeners : List Listener) : (m.joined r listeners u).Linked := by
  have hKeeps : Keeps { m with requests := m.requests ++ [r] } (m.joined r listeners u) := by
    refine (keeps_setDevice (m := { m with requests := m.requests ++ [r] }) ?_ hFrame.1 hFrame.2).trans
      (keeps_deliver _ _ _)
    exact hd
  refine Linked.keeps (m := { m with requests := m.requests ++ [r] })
    ⟨h.devices, h.paths, ?_, ?_, h.deviceBound, ?_, h.calls, h.callBound, ?_⟩ hKeeps
  · exact nodup_map_concat h.requests hFresh.requests
  · refine nodup_map_concat h.places fun q hq hEq => ?_
    rw [← hEq, h.requestOn?_of_mem hq] at hNone
    cases hNone
  · intro q hq
    rcases List.mem_append.mp hq with hq | hq
    · exact h.requestBound q hq
    · rw [List.mem_singleton.mp hq]
      exact hFresh.bound
  · intro q hq c hc hOwn
    rcases List.mem_append.mp hq with hq | hq
    · exact h.seqBound q hq c hc hOwn
    · rw [List.mem_singleton.mp hq] at hOwn
      exact absurd hOwn (hFresh.calls c hc)

/-- Only the manager and the new request listen to the device. -/
def heardBy (r : Request) : List Listener := [.manager, .request r.id]

theorem requests_joined (hFresh : m.Fresh r.id) (u : Update) :
    (m.joined r (heardBy r) u).requests = m.requests ++ [r.hear u.events] := by
  show ((m.requests ++ [r]).map _) = _
  have hOthers : ∀ q ∈ m.requests, (if Listener.request q.id ∈ heardBy r then
      { q with queue := q.queue ++ u.events } else q) = q := by
    intro q hq
    have hNe := hFresh.requests q hq
    exact if_neg (by simp [heardBy, hNe])
  rw [List.map_append, List.map_cons, List.map_nil, List.map_congr_left hOthers, List.map_id',
    if_pos (by simp [heardBy])]
  rfl

theorem requestOn?_joined (hFresh : m.Fresh r.id) (hNone : m.requestOn? r.device = none)
    (u : Update) (x : Nat) : (m.joined r (heardBy r) u).requestOn? x =
      if x = r.device then some (r.hear u.events) else m.requestOn? x := by
  unfold requestOn? at hNone ⊢
  rw [requests_joined hFresh, List.find?_append]
  by_cases hx : x = r.device
  · rw [if_pos hx, hx, hNone, Option.none_or, List.find?_cons_of_pos (by simp [Request.hear])]
  · rw [if_neg hx, List.find?_cons_of_neg (by simp [Request.hear, Ne.symm hx])]
    exact Option.or_none

theorem queueOf_joined (r : Request) (hOwn : ∀ e ∈ u.events, e.device = id) (x : Nat) :
    (m.joined r (heardBy r) u).queueOf x =
      if x = id then m.queueOf x ++ u.events else m.queueOf x := by
  show (m.queue ++ u.events).filter _ = _
  exact filter_append_own hOwn x

/-- A new request makes the site of its device one with a new activation. -/
theorem site_joined (hd : m.device? id = some d) (hFresh : m.Fresh r.id) (hDevice : r.device = id)
    (hNone : m.requestOn? id = none) (hId : u.device.id = id)
    (hOwn : ∀ e ∈ u.events, e.device = id) (x : Nat) : (m.joined r (heardBy r) u).site x =
      if x = id then (m.site id).launched r u else m.site x := by
  subst hDevice
  have hFound : (m.joined r (heardBy r) u).device? x = _ := device?_setDevice_of hd hId x
  by_cases hx : x = r.device
  · subst hx
    rw [if_pos rfl] at hFound
    rw [if_pos rfl]
    unfold Manager.site Site.launched
    rw [hFound, requestOn?_joined hFresh hNone, if_pos rfl, queueOf_joined r hOwn, if_pos rfl]
    rfl
  · rw [if_neg hx] at hFound ⊢
    unfold Manager.site
    rw [hFound, requestOn?_joined hFresh hNone, if_neg hx, queueOf_joined r hOwn, if_neg hx]
    rfl

/-- A new request and the device that starts with it. -/
structure Launches (device : Nat) (d d' : Device) (r : Request) (u : Update) : Prop where
  joins : Site.Joins d d' r
  starts : Device.Starts d' u
  id : d'.id = device
  udi : d'.udi = d.udi
  listen : d'.AllListen
  device : r.device = device

/-- A new request on a device that starts makes the site of the device one with a new activation. -/
theorem Fits.joined (h : m.Fits A) (hd : m.device? id = some d) (hNone : m.requestOn? id = none)
    (hQueue : m.queueOf id = []) (hLaunch : Launches id d d' r u) (hFresh : m.Fresh r.id) :
    (m.joined r d'.listeners u).Fits A ∧ d'.listeners = heardBy r ∧
      ∀ x, (m.joined r d'.listeners u).site x =
        if x = id then (m.site id).launched r u else m.site x := by
  have hListeners : d'.listeners = heardBy r := by
    unfold Device.listeners
    rw [hLaunch.listen.filter_eq, hLaunch.joins.subscribers, (h.sound hd).subscribers]
    unfold Site.subscribers Request.listening
    rw [show (m.site id).request = none from hNone, hLaunch.joins.place]
    rfl
  have hId : u.device.id = id := hLaunch.starts.frame.id.trans hLaunch.id
  have hLinked := linked_joined h.linked hFresh (hLaunch.device ▸ hNone) hd
    ⟨hId, hLaunch.starts.frame.udi.trans hLaunch.udi⟩ (heardBy r)
  have hSite := site_joined hd hFresh hLaunch.device hNone hId
    fun e he => (hLaunch.starts.own e he).trans hLaunch.id
  rw [hListeners]
  refine ⟨⟨hLinked, fun x => ?_⟩, rfl, hSite⟩
  rw [hSite]
  split
  · refine ⟨nofun, fun e he => ?_⟩
    cases he
    exact (h.sound hd).launched hNone hQueue hLaunch.joins hLaunch.starts
  · exact h.sites x

/-- A new request on a device that starts owns the activation. -/
theorem Coherent.joined (h : m.Coherent A) (hd : m.device? id = some d)
    (hIdle : d.state.isActive = false) (hQueue : m.queueOf id = [])
    (hLaunch : Launches id d d' r u) (hFresh : m.Fresh r.id) :
    (m.joined r d'.listeners u).Coherent A := by
  obtain ⟨hNone, hOrphan⟩ := h.free hd hIdle hQueue
  obtain ⟨hFits, -, hSite⟩ := h.toFits.joined hd hNone hQueue hLaunch hFresh
  refine ⟨hFits, fun x e he => ?_⟩
  rw [hSite] at he ⊢
  split at he
  · rename_i hx
    rw [if_pos hx]
    cases he
    exact Site.held_launched hOrphan hLaunch.starts
  · rename_i hx
    rw [if_neg hx]
    exact h.accounted x e he

end Joined

/-- The new request that a launch registers, and its device as it listens to it. -/
def starting (m : Manager) (id : Nat) (d : Device) (spec : RequestSpec) : Request × Device :=
  Request.start id spec m.now (readied d spec.userRequested)

/-- A launch that the device accepts registers a new request. -/
theorem launch_of_accepted {number : Nat} {d : Device} {spec : RequestSpec}
    (hAccepted : ((m.starting number d spec).2.activate m.now
      (m.starting number d spec).1.connection).error = none) :
    let s := m.starting number d spec
    let u := s.2.activate m.now s.1.connection
    m.launch number d spec =
      (((m.joined s.1 s.2.listeners u).publish (.activeConnectionAdded number)).publish
        .activeConnectionsChanged, .ok number) := by
  intro s u
  show m.register s.1 s.2.listeners u = _
  unfold Manager.register
  rw [show u.error = none from hAccepted]
  rfl

/-- A launch on a disconnected device that the connection fits registers a new request. -/
theorem Fits.launch_eq (h : m.Fits A) (number : Nat) {device : Nat} {d : Device}
    (hd : m.device? device = some d) (hState : d.state = .disconnected) (spec : RequestSpec)
    (hCheck : d.check spec.connection = .ok ()) :
    let s := m.starting number d spec
    let u := s.2.activate m.now s.1.connection
    Launches device d s.2 s.1 u ∧ m.launch number d spec =
      (((m.joined s.1 s.2.listeners u).publish (.activeConnectionAdded number)).publish
        .activeConnectionsChanged, .ok number) := by
  have hSound := h.sound hd
  obtain ⟨hFrame, hSame, hReadied⟩ := frame_readied d spec.userRequested
  intro s u
  have hListen : s.2.AllListen := by
    intro x hx
    rcases List.mem_append.mp hx with hx | hx
    · exact hFrame.allListen hSound.allListen x hx
    · rw [List.mem_singleton.mp hx]
  have hSound' : s.2.Sound :=
    ⟨(hReadied hSound.device).stop, (hReadied hSound.device).managed, (hReadied hSound.device).hardware⟩
  have hStarts := Device.activate_starts m.now s.1.connection hListen hSound' (hSame.trans hState)
    ((hFrame.check _).trans hCheck)
  have hJoins : Site.Joins d s.2 s.1 :=
    { state := hSame
      subscribers := by
        show (readied d _).subscribers ++ _ = _
        rw [hFrame.subscribers]
        rfl
      place := congrArg some hFrame.nextSubscription
      next := congrArg (· + 1) hFrame.nextSubscription
      follows := congrArg ActiveState.ofDevice hSame
      queue := rfl
      secrets := rfl }
  have hId : (readied d spec.userRequested).id = device := hFrame.id.trans (device?_eq_some hd).2
  exact ⟨⟨hJoins, hStarts, hId, hFrame.udi, hListen, hId⟩, launch_of_accepted hStarts.accepted⟩

/-- An activation that fits its disconnected device starts. -/
theorem Coherent.launch (h : m.Coherent A) {device : Nat} {d : Device}
    (hd : m.device? device = some d) (hState : d.state = .disconnected)
    (hQueue : m.queueOf device = []) (spec : RequestSpec) (hCheck : d.check spec.connection = .ok ())
    (hFresh : m.Fresh id) :
    (m.launch id d spec).2 = .ok id ∧ (m.launch id d spec).1.Coherent A ∧
      (m.launch id d spec).1.pending = m.pending ∧
      ∃ es, (m.launch id d spec).1.queue = m.queue ++ es ∧ ∀ e ∈ es, e.isCalm = true := by
  have hIdle : d.state.isActive = false := by rw [hState]; rfl
  obtain ⟨hLaunch, hEq⟩ := h.toFits.launch_eq id hd hState spec hCheck
  have hJoined := h.joined hd hIdle hQueue hLaunch hFresh
  rw [hEq]
  refine ⟨rfl, (hJoined.same (same_publish _ fun _ => rfl)).same (same_publish _ fun _ => rfl), rfl,
    ((m.starting id d spec).2.activate m.now (m.starting id d spec).1.connection).events, ?_, ?_⟩
  · have hManager : Listener.manager ∈ (m.starting id d spec).2.listeners := by
      rw [(h.toFits.joined hd (h.free hd hIdle hQueue).1 hQueue hLaunch hFresh).2.1]
      exact List.mem_cons_self
    exact if_pos hManager
  · exact calm_of_starts hLaunch.starts

theorem checkActivation_ok {d : Device} {c : Connection} (h : checkActivation d c = .ok ()) :
    (d.state ≠ .unmanaged ∧ d.state ≠ .unavailable) ∧ d.check c = .ok () := by
  unfold checkActivation at h
  split at h
  · cases h
  · split at h
    · cases h
    · rename_i hState
      rw [not_or, not_or] at hState
      refine ⟨⟨hState.2.1, hState.1⟩, ?_⟩
      split at h
      · cases h
      · assumption

/-- A request may be given the next number. -/
theorem Fits.numbered (h : m.Fits A) : Fits A { m with nextRequest := m.nextRequest + 1 } where
  linked :=
    ⟨h.linked.devices, h.linked.paths, h.linked.requests, h.linked.places, h.linked.deviceBound,
     fun r hr => Nat.lt_succ_of_lt (h.linked.requestBound r hr), h.linked.calls,
     fun c hc => Nat.lt_succ_of_lt (h.linked.callBound c hc), h.linked.seqBound⟩
  sites := h.sites

theorem Linked.fresh (h : m.Linked) : Fresh { m with nextRequest := m.nextRequest + 1 } m.nextRequest where
  requests r hr := Nat.ne_of_lt (h.requestBound r hr)
  calls c hc := Nat.ne_of_lt (h.callBound c hc)
  bound := Nat.lt_succ_self _

/-- The manager once the request on a device has ended and the device was told to stop. A number is
given out in between. -/
def halted (m : Manager) (device : Nat) : Manager :=
  let m := m.teardownOn device .userRequested
  { m with nextRequest := m.nextRequest + 1 }.updateDevice device fun d => d.deactivate .userRequested

/-- The manager once a device is free for a new request. -/
def cleared (m : Manager) (device : Nat) : Manager := (m.halted device).pump

/-- A device that was told to stop is down, and all others are as they were. -/
theorem Coherent.halted (h : m.Coherent A) {device : Nat} {d : Device}
    (hd : m.device? device = some d) (hState : d.state ≠ .unmanaged ∧ d.state ≠ .unavailable) :
    (m.halted device).Coherent A ∧ (∀ x, x ≠ device → (m.halted device).site x = m.site x) ∧
      (m.halted device).Fresh (m.teardownOn device .userRequested).nextRequest ∧
      ∃ d', (m.halted device).device? device = some d' ∧ d'.state = .disconnected ∧
        ∀ c, d'.check c = d.check c := by
  have hTeardown := h.toFits.teardownOn device .userRequested
  have hFits := hTeardown.fits.numbered
  have hFresh := hTeardown.fits.linked.fresh
  have hDevice : ({ m.teardownOn device .userRequested with
      nextRequest := (m.teardownOn device .userRequested).nextRequest + 1 } : Manager).device? device =
        some (Site.leftAlone d) :=
    (congrArg Site.device hTeardown.here).trans (congrArg (Option.map Site.leftAlone) hd)
  have hSound := hFits.sound hDevice
  have hCarries := Device.deactivate_carries .userRequested hSound.allListen hSound.device
  have hDisconnected := Device.deactivate_state .userRequested hSound.allListen hSound.device hState
  have hStopped := hFits.carries hDevice (f := fun d => d.deactivate .userRequested) hCarries
  have hSite : ({ m.teardownOn device .userRequested with
      nextRequest := (m.teardownOn device .userRequested).nextRequest + 1 } : Manager).site device =
        (m.site device).forget := hTeardown.here
  rw [hSite] at hStopped
  have hAway : ∀ x, x ≠ device → (m.halted device).site x = m.site x := fun x hx =>
    (hStopped.away x hx).trans (hTeardown.away x hx)
  refine ⟨⟨hStopped.fits, fun x e he => ?_⟩, hAway, hFresh.within hStopped.within, _,
    congrArg Site.device hStopped.here, hDisconnected, hCarries.frame.check⟩
  by_cases hx : x = device
  · subst hx
    have hHere : (m.halted x).site x = _ := hStopped.here
    rw [hHere] at he ⊢
    cases he
    exact (h.held hd).forget_hears hCarries.toMoves (by rw [hDisconnected]; rfl)
  · rw [hAway x hx] at he ⊢
    exact h.accounted x e he

/-- Before an activation starts its device is stopped, and has no owner left. -/
theorem Coherent.cleared (h : m.Coherent A) {device : Nat} {d : Device}
    (hd : m.device? device = some d) (hState : d.state ≠ .unmanaged ∧ d.state ≠ .unavailable) :
    (m.cleared device).Coherent A ∧ (m.cleared device).Quiet ∧
      (m.cleared device).Fresh (m.teardownOn device .userRequested).nextRequest ∧
      ∃ d', (m.cleared device).device? device = some d' ∧ d'.state = .disconnected ∧
        ∀ c, d'.check c = d.check c := by
  obtain ⟨hCoherent, -, hFresh, d₁, hd₁, hState₁, hCheck₁⟩ := h.halted hd hState
  obtain ⟨hWithin, hStays⟩ := hCoherent.pump_stays device
  obtain ⟨d', hd', hState', hCheck'⟩ := hStays d₁ hd₁ (by rw [hState₁]; rfl)
  obtain ⟨hPumped, hQuiet⟩ := hCoherent.pump
  exact ⟨hPumped, hQuiet, hFresh.within hWithin, d', hd', hState'.trans hState₁,
    fun c => (hCheck' c).trans (hCheck₁ c)⟩

/-- An activation whose checks pass starts on a device that was cleared for it. -/
theorem activate_eq {device : Nat} {scope : Scope} {path : String} {connection : Connection}
    {d d' : Device} (hFound : (m.cache scope).get? path = some connection)
    (hd : m.device? device = some d) (hCheck : checkActivation d connection = .ok ())
    (hd' : (m.cleared device).device? device = some d') (specific : Option String)
    (userRequested : Bool) :
    m.activate device scope path specific userRequested =
      ({ m.cleared device with
        pending := (m.cleared device).pending.filter fun p => p != device } : Manager).launch
          (m.teardownOn device .userRequested).nextRequest d'
          { connection, path, specific, userRequested, assumed := false
            timeout := (m.cleared device).activationTimeout, nowait := false } := by
  unfold Manager.activate
  rw [hFound, hd]
  dsimp only
  rw [hCheck]
  dsimp only
  split
  · rename_i hNone
    rw [show (m.cleared device).device? device = none from hNone] at hd'
    cases hd'
  · rename_i e he
    rw [show (m.cleared device).device? device = some e from he] at hd'
    cases hd'
    rfl

/-- An activation changes nothing, or its checks pass. -/
theorem activate_cases (m : Manager) (device : Nat) (scope : Scope) (path : String)
    (specific : Option String) (userRequested : Bool) :
    (∃ e, m.activate device scope path specific userRequested = (m, .error e)) ∨
      ∃ connection d, (m.cache scope).get? path = some connection ∧ m.device? device = some d ∧
        checkActivation d connection = .ok () := by
  unfold Manager.activate
  cases (m.cache scope).get? path with
  | none => exact Or.inl ⟨_, rfl⟩
  | some connection =>
    cases m.device? device with
    | none => exact Or.inl ⟨_, rfl⟩
    | some d =>
      dsimp only
      cases hCheck : checkActivation d connection with
      | error e => exact Or.inl ⟨_, rfl⟩
      | ok u => exact Or.inr ⟨connection, d, rfl, rfl, hCheck⟩

/-- An activation fails before it touches anything, or it starts, and then nothing follows from the
events that wait. -/
theorem Coherent.activate_spec (h : m.Coherent A) (device : Nat) (scope : Scope) (path : String)
    (specific : Option String) (userRequested : Bool) :
    (∃ e, m.activate device scope path specific userRequested = (m, .error e)) ∨
      ((∃ id, (m.activate device scope path specific userRequested).2 = .ok id) ∧
        (m.activate device scope path specific userRequested).1.Coherent A ∧
        (∀ e ∈ (m.activate device scope path specific userRequested).1.queue, e.isCalm = true) ∧
        ∀ p ∈ (m.activate device scope path specific userRequested).1.pending,
          p ∈ (m.cleared device).pending) := by
  rcases m.activate_cases device scope path specific userRequested with
    hFailed | ⟨connection, d, hFound, hd, hOk⟩
  · exact Or.inl hFailed
  · obtain ⟨hState, hCheck⟩ := checkActivation_ok hOk
    obtain ⟨hCleared, hQuiet, hFresh, d', hd', hState', hCheck'⟩ := h.cleared hd hState
    have hReady : Coherent A { m.cleared device with
        pending := (m.cleared device).pending.filter fun p => p != device } :=
      hCleared.same ⟨rfl, rfl, rfl, rfl, rfl, rfl, rfl, fun _ => rfl⟩
    have hQueue : (m.cleared device).queueOf device = [] := queueOf_nil hQuiet.queue device
    obtain ⟨hId, hLaunched, hPending, es, hEvents, hEs⟩ := hReady.launch hd' hState' hQueue
      { connection, path, specific, userRequested, assumed := false
        timeout := (m.cleared device).activationTimeout, nowait := false }
      ((hCheck' connection).trans hCheck) ⟨hFresh.requests, hFresh.calls, hFresh.bound⟩
    rw [activate_eq hFound hd hOk hd']
    refine Or.inr ⟨⟨_, hId⟩, hLaunched, ?_, ?_⟩
    · rw [hEvents]
      show ∀ e ∈ (m.cleared device).queue ++ es, _
      rw [hQuiet.queue, List.nil_append]
      exact hEs
    · rw [hPending]
      exact fun p hp => (List.mem_filter.mp hp).1

/-- An activation preserves the invariant. -/
theorem Coherent.activate (h : m.Coherent A) (device : Nat) (scope : Scope) (path : String)
    (specific : Option String) (userRequested : Bool) :
    (m.activate device scope path specific userRequested).1.Coherent A := by
  rcases h.activate_spec device scope path specific userRequested with ⟨e, hEq⟩ | ⟨-, hStarted, -⟩
  · rw [hEq]
    exact h
  · exact hStarted

/-- To clear a disconnected device brings nothing to do. -/
theorem Calm.cleared (h : m.Calm) {device : Nat} (hNone : m.requestOn? device = none)
    (hDisconnected : ∀ d, m.device? device = some d → d.state = .disconnected) :
    (m.cleared device).Calm := by
  have hSame : m.teardownOn device .userRequested = m := by
    unfold Manager.teardownOn
    rw [hNone]
  unfold Manager.cleared Manager.halted
  rw [hSame]
  refine Calm.pump (h.rests ?_)
  unfold updateDevice
  dsimp only
  split
  · exact ⟨rfl, rfl⟩
  · rename_i d hd
    have hEvents : (d.deactivate .userRequested).events = [] := by
      unfold Device.deactivate
      dsimp only
      rw [hDisconnected d hd]
      rfl
    unfold deliver
    rw [hEvents]
    refine ⟨?_, rfl⟩
    show (if _ then m.queue ++ [] else m.queue) = m.queue
    rw [List.append_nil, ite_self]

/-- An automatic activation brings only events from which nothing follows. -/
theorem Coherent.activate_calm (h : m.Coherent A) (hCalm : m.Calm) {device : Nat}
    (hNone : m.requestOn? device = none)
    (hDisconnected : ∀ d, m.device? device = some d → d.state = .disconnected) (scope : Scope)
    (path : String) (specific : Option String) (userRequested : Bool) :
    (m.activate device scope path specific userRequested).1.Calm := by
  rcases h.activate_spec device scope path specific userRequested with
    ⟨e, hEq⟩ | ⟨-, -, hEvents, hPending⟩
  · rw [hEq]
    exact hCalm
  · refine ⟨hEvents, List.eq_nil_iff_forall_not_mem.mpr fun p hp => ?_⟩
    have hIn := hPending p hp
    rw [(hCalm.cleared hNone hDisconnected).pending] at hIn
    cases hIn

-- ---------------------------------------------------------------------------
-- Rounds
-- ---------------------------------------------------------------------------

theorem Coherent.modifyDevice (h : m.Coherent A) (id : Nat) {f : Device → Device}
    (hf : ∀ d, Device.Frame d (f d) ∧ (f d).state = d.state ∧ (d.Sound → (f d).Sound)) :
    (m.modifyDevice id f).Coherent A := by
  cases hd : m.device? id with
  | none =>
    unfold Manager.modifyDevice
    rw [hd]
    exact h
  | some d =>
    obtain ⟨hFrame, hState, hSound⟩ := hf d
    have hActs := h.toFits.modifyDevice hd hFrame hState (hSound (h.toFits.sound hd).device)
    refine hActs.coherent (fun x _ => h.accounted x) fun e he => ?_
    cases he
    have hHeld := h.held hd
    exact ⟨fun hActive => hHeld.owned (hState ▸ hActive), fun hNeed => hHeld.served (hState ▸ hNeed),
      fun hNeed => hHeld.unserved (hState ▸ hNeed), fun hIdle hOwner =>
        hHeld.left (hState ▸ hIdle) (hState ▸ hOwner)⟩

/-- An automatic activation that was due preserves the invariant, and brings nothing to do. -/
theorem Coherent.startPending (h : m.Coherent A) (hCalm : m.Calm) (id : Nat) :
    (m.startPending id).Coherent A ∧ (m.startPending id).Calm := by
  have hFlag := h.modifyDevice id (f := fun d => { d with activationScheduled := false })
    fun d => ⟨⟨rfl, rfl, rfl, rfl, fun _ => rfl, rfl⟩, rfl, fun h => ⟨h.stop, h.managed, h.hardware⟩⟩
  have hFlagCalm := hCalm.rests (rests_modifyDevice m id fun d => { d with activationScheduled := false })
  unfold Manager.startPending Manager.autoActivate
  generalize m.modifyDevice id (fun d => { d with activationScheduled := false }) = m' at hFlag hFlagCalm
  split
  · exact ⟨hFlag, hFlagCalm⟩
  · rename_i hFree
    cases hd : m'.device? id with
    | none => exact ⟨hFlag, hFlagCalm⟩
    | some d =>
      dsimp only
      split
      · exact ⟨hFlag, hFlagCalm⟩
      · rename_i hAllowed
        split
        · exact ⟨hFlag, hFlagCalm⟩
        · refine ⟨hFlag.activate _ _ _ _ _, hFlag.activate_calm hFlagCalm ?_ ?_ _ _ _ _⟩
          · rw [Bool.or_eq_true, not_or] at hFree
            exact Option.not_isSome_iff_eq_none.mp hFree.2
          · intro e he
            rw [hd] at he
            cases he
            rw [Bool.not_eq_true', Bool.not_eq_false, Device.autoconnectAllowed_iff] at hAllowed
            exact hAllowed.2.2.1

/-- The second round of settling is the last one: what the first one started brings nothing to
do. -/
theorem Coherent.settleRounds (h : m.Coherent A) (n : Nat) :
    (settleRounds (n + 2) m).Coherent A ∧ (settleRounds (n + 2) m).Quiet ∧
      (settleRounds (n + 2) m).pending = [] := by
  obtain ⟨hPumped, hQuiet⟩ := h.pump
  unfold Manager.settleRounds
  dsimp only
  split
  · rename_i hEmpty
    exact ⟨hPumped, hQuiet, List.isEmpty_iff.mp hEmpty⟩
  · have hStart : ({ m.pump with pending := [] } : Manager).Coherent A ∧
        ({ m.pump with pending := [] } : Manager).Calm := by
      refine ⟨hPumped.same ⟨rfl, rfl, rfl, rfl, rfl, rfl, rfl, fun _ => rfl⟩, ?_, rfl⟩
      show ∀ e ∈ m.pump.queue, _
      rw [hQuiet.queue]
      exact fun e he => absurd he List.not_mem_nil
    obtain ⟨hStarted, hCalm⟩ := foldl_rest (P := fun _ m' => Coherent A m' ∧ Calm m')
      (fun id _ _ h => h.1.startPending h.2 id) m.pump.pending _ hStart
    obtain ⟨hAgain, hQuietAgain⟩ := hStarted.pump
    have hPending := hCalm.pump.pending
    unfold Manager.settleRounds
    dsimp only
    rw [hPending]
    exact ⟨hAgain, hQuietAgain, hPending⟩

/-- A coherent manager with nothing left to do, whose state is that of the whole. -/
structure Settled (A : Nat → String → Prop) (m : Manager) : Prop extends Coherent A m, Quiet m where
  pending : m.pending = []
  /-- Once its devices are gone for good, a manager computes its state no more. -/
  state : m.state = m.aggregate ∨ m.devices = []

theorem state_updateState (m : Manager) : m.updateState.state = m.updateState.aggregate := by
  unfold Manager.updateState
  split
  · rename_i hSame
    exact hSame.symm
  · rfl

/-- A coherent manager settles. -/
theorem Coherent.settle (h : m.Coherent A) : m.settle.Settled A := by
  obtain ⟨hCoherent, hQuiet, hPending⟩ := h.settleRounds (m.system.connections.size + m.user.connections.size)
  have hSame := same_updateState (Manager.settleRounds m.roundBound m)
  have hRests := rests_updateState (Manager.settleRounds m.roundBound m)
  exact ⟨hCoherent.same hSame,
    ⟨hRests.queue.trans hQuiet.queue, fun r hr => hQuiet.looked r (hSame.requests ▸ hr)⟩,
    hRests.pending.trans hPending, Or.inl (state_updateState _)⟩

theorem updateDevice_unchanged {d : Device} (hd : m.device? d.id = some d) {f : Device → Update}
    (hf : f d = d.unchanged) : m.updateDevice d.id f = m := by
  unfold Manager.updateDevice
  rw [hd]
  dsimp only
  rw [hf]
  unfold Device.unchanged
  rw [deliver_nil]
  exact setDevice_self hd

/-- A request without events to look at stays as it is. -/
theorem processRequest_eq (hLooked : m.AllLooked) (id : Nat) :
    m.processRequest id = m := by
  unfold Manager.processRequest
  cases hr : m.request? id with
  | none => rfl
  | some r =>
    obtain ⟨hMem, rfl⟩ := request?_eq_some hr
    have hQueue := hLooked r hMem
    have hSame : r.processEvents =
        { request := r, effects := [], stateChanged := false, finished := false } := by
      unfold Request.processEvents
      rw [hQueue]
      show Request.Progress.mk _ _ _ _ = _
      rw [← hQueue]
    dsimp only
    rw [hSame]
    show (if false = true then _ else (m.setRequest r).perform []) = m
    rw [setRequest_self hr, if_neg Bool.false_ne_true]
    unfold perform
    rw [List.append_nil]

/-- A manager with nothing to do settles at once. -/
theorem settle_idle (hQuiet : m.Quiet) (hPending : m.pending = []) :
    m.settle = m.updateState := by
  have hRequests : m.processRequests = m := by
    unfold Manager.processRequests
    exact foldl_rest (P := fun _ m' => m' = m)
      (fun r _ m' hm' => by rw [hm']; exact processRequest_eq hQuiet.looked r.id) m.requests m rfl
  have hPump : m.pump = m := by
    unfold Manager.pump
    dsimp only
    rw [hRequests, hQuiet.queue]
    rfl
  have hRounds : Manager.settleRounds m.roundBound m = m := by
    unfold Manager.roundBound Manager.settleRounds
    dsimp only
    rw [hPump, hPending]
    rfl
  unfold Manager.settle
  rw [hRounds]

/-- A settled manager stays as it is. -/
theorem Settled.settle_eq (h : m.Settled A) (hState : m.state = m.aggregate) : m.settle = m := by
  rw [settle_idle h.toQuiet h.pending]
  unfold Manager.updateState
  rw [if_pos hState.symm]

theorem Settled.allNews (h : m.Settled A) (id : Nat) : (m.site id).allNews = m.news id := by
  show m.news id ++ linkNews (m.queueOf id) = m.news id
  rw [queueOf_nil h.queue]
  exact List.append_nil _

/-- Whoever reads the published events learns that an active device wants a link, or knows it. -/
theorem Settled.link (h : m.Settled A) {d : Device} (hd : d ∈ m.devices) (hLink : d.hasLink = true)
    (hActive : d.state.isActive = true) :
    (m.news d.id).getLast? = some true ∨ (m.news d.id = [] ∧ A d.id d.udi) := by
  have hSound := (h.toFits.sound (h.linked.device?_of_mem hd)).link hLink hActive
  rw [h.allNews] at hSound
  exact hSound

/-- The events of a settled manager may be read, as far as what matters is known afterwards. -/
theorem Settled.retold {B : Nat → String → Prop} (h : m.Settled A) {events : List ManagerEvent}
    (hLink : ∀ d ∈ m.devices, d.hasLink = true → d.state.isActive = true →
      (({ m with events } : Manager).news d.id).getLast? = some true ∨
        (({ m with events } : Manager).news d.id = [] ∧ B d.id d.udi)) :
    Settled B { m with events } := by
  refine ⟨h.toCoherent.retold fun d hd hWants hActive => ?_, ⟨h.queue, h.looked⟩, h.pending, h.state⟩
  have hNews : (({ m with events } : Manager).site d.id).allNews =
      ({ m with events } : Manager).news d.id := by
    show _ ++ linkNews (m.queueOf d.id) = _
    rw [queueOf_nil h.queue]
    exact List.append_nil _
  rw [hNews]
  exact hLink d hd hWants hActive

theorem Settled.weaken {B : Nat → String → Prop} (h : m.Settled A)
    (hKnows : ∀ d ∈ m.devices, A d.id d.udi → B d.id d.udi) : m.Settled B :=
  ⟨h.toCoherent.weaken hKnows, ⟨h.queue, h.looked⟩, h.pending, h.state⟩

end ScannerHub.Manager
