import ScannerHub.Proofs.Device.Listeners
import ScannerHub.Proofs.Manager.Aftermath
import ScannerHub.Proofs.Manager.Expiry

/-!
# Survival

When the time of a request is up its activation goes on without it, with a note of the connection and
of who started it. The device does not see the difference: what it does with news of its link depends
on its own state and on the connection, not on who listens. What follows in the manager is the same
too, because the note names whom the request would have named. Only a device that asks for secrets has
nobody to answer it, and fails.

The two courses start from managers that take the same decisions, and both begin with one step of the
device. There are three ways for it to go on: the pipeline ends and the manager has nothing to do; the
device asks for secrets; or it fails. What comes of each is told here by equations, once for either
owner of the activation.

* `Update.leftAlone` — an update of a device to which only the manager listens;
* `Manager.Updated` — a device took a step, and what it tells is still to be handled;
* `Manager.Survives` — news of the link come to the same with and without the request.

## Results

* `Device.linkChanged_leftAlone`, `Device.linkChanged_config` — what the device does;
* `Settled.calm_updated`, `Settled.asked_updated`, `Settled.failed_updated`,
  `Settled.unanswered_updated` — what comes of it;
* `Settled.survived` — what the end of a request leaves behind;
* `run_survives` — an activation goes on after its request just as before.
-/

namespace ScannerHub

-- ---------------------------------------------------------------------------
-- Whoever listens
-- ---------------------------------------------------------------------------

/-- An update of a device to which only the manager listens. -/
def Update.leftAlone (u : Update) : Update := { u with device := Site.leftAlone u.device }

namespace Device

/-- What a change of the link does to a device does not depend on who listens. -/
theorem linkChanged_leftAlone (d : Device) (now : Nat) (c : Connection) (up : Bool) :
    (Site.leftAlone d).linkChanged now c up = (d.linkChanged now c up).leftAlone :=
  linkChanged_heardBy (Site.allListen_leftAlone d) d now c up

/-- A device that waits for its link runs on with any news of it. -/
theorem linkChanged_runs {d : Device} (hSound : d.Sound) (hState : d.state = .config) (now : Nat)
    (c : Connection) (up : Bool) : ∃ hardware outcome,
      d.linkChanged now c up = ({ d with hardware } : Device).runStages now c outcome ∧
        (outcome = .success ∨ (∃ need, outcome = .needSecrets need) ∨
          ∃ reason, outcome = .failure reason) := by
  have hRuns : d.linkChanged now c up =
      ({ d with hardware := (d.hardware.linkChanged c up).1 } : Device).runStages now c
        (d.hardware.linkChanged c up).2 := by
    unfold linkChanged
    rw [hState]
    rfl
  refine ⟨_, _, hRuns, ?_⟩
  have hHardware := hSound.hardware
  rw [hState] at hHardware
  cases hKind : d.hardware with
  | hidraw node | serial line =>
    rw [hKind] at hHardware
    exact absurd rfl hHardware.1
  | bluetooth radio =>
    rw [hKind] at hHardware
    change radio.link.InStep .config at hHardware
    obtain ⟨address, name, profiles, connectTimeout, link⟩ := radio
    cases link with
    | idle => cases hHardware
    | up profile => rcases hHardware with h | h <;> cases h
    | connecting deadline profile =>
      cases up with
      | false => exact Or.inr (Or.inr ⟨.linkFailed, rfl⟩)
      | true => exact (afterLinkUp_cases c profile).imp (fun h => h) Or.inl

/-- A device that waits for its link goes on to its end, or asks for secrets, or fails. -/
theorem linkChanged_config {d : Device} (hListen : d.AllListen) (hSound : d.Sound)
    (hState : d.state = .config) (now : Nat) (c : Connection) (up : Bool) :
    let u := d.linkChanged now c up
    (u.device.state = .activated ∧ ∀ e ∈ u.events, e.isCalm = true) ∨
      (∃ need, u.device.state = .needAuth ∧
        u.events = [.stateChanged d.id .needAuth .config .none, .needSecrets d.id need]) ∨
      ∃ reason, u.device.state = .failed ∧ u.events = [.stateChanged d.id .failed .config reason] := by
  intro u
  obtain ⟨hardware, outcome, hRuns, hOutcome⟩ := linkChanged_runs hSound hState now c up
  let e : Device := { d with hardware }
  have hListen' : e.AllListen := hListen
  rw [show u = e.runStages now c outcome from hRuns]
  rcases hOutcome with rfl | ⟨need, rfl⟩ | ⟨reason, rfl⟩
  · refine Or.inl ?_
    unfold runStages
    rw [followStages_success now c 1 hListen' (Or.inl hState)]
    exact ⟨rfl, by simp [DeviceEvent.isCalm, DeviceState.isActive, DeviceState.isActivating]⟩
  · refine Or.inr (Or.inl ⟨need, ?_⟩)
    rw [runStages_needSecrets now c need hListen' (by rw [show e.state = .config from hState]; rfl),
      show e.state = .config from hState]
    exact ⟨rfl, rfl⟩
  · refine Or.inr (Or.inr ⟨reason, ?_⟩)
    rw [runStages_failure now c reason hListen' (by rw [show e.state = .config from hState]; rfl),
      show e.state = .config from hState]
    exact ⟨rfl, rfl⟩

end Device

namespace Manager

variable {m : Manager} {A : Nat → String → Prop} {x : Nat} {origin : Bool × String}

-- ---------------------------------------------------------------------------
-- What comes of one step of a device
-- ---------------------------------------------------------------------------

section Steps

variable {d : Device} {f : Device → Update}

/-- Nothing follows from steps of an activation that goes on. -/
theorem Settled.calm_updated (h : m.Settled A) (hd : m.device? x = some d)
    (hCarries : Device.Carries d (f d)) (hCalm : ∀ e ∈ (f d).events, e.isCalm = true) :
    (m.updateDevice x f).settle.device? x = some (f d).device ∧
      (m.updateDevice x f).settle.invalid = m.invalid := by
  have hUpdated : (m.updateDevice x f).Calm := by
    refine ⟨?_, (pending_updateDevice m x f).trans h.pending⟩
    rw [queue_updateDevice h.toFits hd f, h.queue]
    exact hCalm
  have hHere := (h.toFits.carries hd hCarries).here
  rw [hUpdated.settle_eq, device?_updateState, (decides_updateState _).invalid, hUpdated.invalid_pump]
  unfold device?
  rw [hUpdated.devices_pump]
  exact ⟨congrArg Site.device hHere, (decides_updateDevice m x f).invalid⟩

/-- A device took a step while nothing else waited, and what it tells is still to be handled. -/
structure Updated (A : Nat → String → Prop) (x : Nat) (u : Update) (m p : Manager) : Prop where
  coherent : p.Coherent A
  device : p.device? x = some u.device
  queue : p.queue = u.events
  pending : p.pending = []
  request : (p.requestOn? x).map Request.origin = (m.requestOn? x).map Request.origin
  orphan : p.orphan? x = m.orphan? x
  concurs : Concurs m p
  events : m.events <+: p.events

variable {u : Update} {p : Manager}

theorem Updated.owner (h : Updated A x u m p) (hOwner : m.BelongsTo x origin) : p.BelongsTo x origin := by
  have hRequest := h.request
  unfold BelongsTo at hOwner ⊢
  rw [h.request, h.orphan]
  rcases hOwner with hBoth | ⟨hNone, hSome⟩
  · exact Or.inl hBoth
  · rw [hNone, Option.map_none, Option.map_eq_none_iff] at hRequest
    exact Or.inr ⟨hRequest, hSome⟩

/-- The requests look at what they were told. -/
theorem Updated.looked (h : Updated A x u m p) : Updated A x u m p.processRequests := by
  have hRests := rests_processRequests p
  obtain ⟨hRequest, hOrphan⟩ := h.coherent.origin_processRequests x
  exact
    { coherent := h.coherent.processRequests.1
      device := (device?_processRequests p x).trans h.device
      queue := hRests.queue.trans h.queue
      pending := hRests.pending.trans h.pending
      request := hRequest.trans h.request
      orphan := hOrphan.trans h.orphan
      concurs := h.concurs.trans h.coherent.concurs_processRequests
      events := h.events.trans (retains_processRequests (H := nothing) p).events }

theorem Settled.updated (h : m.Settled A) (hd : m.device? x = some d)
    (hf : ∀ d : Device, d.AllListen → d.Sound → Device.Carries d (f d)) :
    Updated A x (f d) m (m.updateDevice x f) := by
  have hSound := h.toFits.sound hd
  have hHere := (h.toFits.carries hd (hf d hSound.allListen hSound.device)).here
  exact
    { coherent := h.toCoherent.updateDevice x hf
      device := congrArg Site.device hHere
      queue := by rw [queue_updateDevice h.toFits hd f, h.queue]; rfl
      pending := (pending_updateDevice m x f).trans h.pending
      request := by
        refine (congrArg (Option.map Request.origin) (congrArg Site.request hHere)).trans ?_
        show ((m.requestOn? x).map _).map _ = _
        rw [Option.map_map]
        rfl
      orphan := congrArg Site.orphan hHere
      concurs := .updateDevice m x f
      events := (retains_updateDevice (H := nothing) m x f).events }

/-- What a device tells is handled once the requests have looked at it. -/
theorem Settled.pump_updated (h : m.Settled A) (hd : m.device? x = some d)
    (hf : ∀ d : Device, d.AllListen → d.Sound → Device.Carries d (f d)) {events : List DeviceEvent}
    (hEvents : (f d).events = events) (hNews : events ≠ []) :
    (m.updateDevice x f).Coherent A ∧ ∃ p, Updated A x (f d) m p ∧ p.queue = events ∧
      (m.updateDevice x f).pump = (drain (totalWeight events) p).processRequests := by
  have hUpdated := h.updated hd hf
  have hQueue := hUpdated.looked.queue.trans hEvents
  refine ⟨hUpdated.coherent, _, hUpdated.looked, hQueue, ?_⟩
  unfold pump queueWeight
  dsimp only
  rw [hQueue, if_neg (by simpa using hNews)]

/-- What comes of a failure. -/
theorem Settled.failed_updated (h : m.Settled A) (hd : m.device? x = some d)
    (hf : ∀ d : Device, d.AllListen → d.Sound → Device.Carries d (f d))
    (hFailed : (f d).device.state = .failed)
    (hEvents : (f d).events = [.stateChanged x .failed old reason]) (hOwner : m.BelongsTo x origin) :
    (m.updateDevice x f).settle.device? x =
        some ((m.blaming origin).recovered ((Site.leftAlone (f d).device).enter .disconnected)) ∧
      (m.updateDevice x f).settle.invalid = (m.blaming origin).invalid := by
  obtain ⟨hCoherent, p, hLooked, hQueue, hPump⟩ := h.pump_updated hd hf hEvents (List.cons_ne_nil _ _)
  obtain ⟨hCrashed, -⟩ := hLooked.coherent.drain_failed hQueue hLooked.pending hLooked.device hFailed
    (hLooked.owner hOwner)
  obtain ⟨hDevice, hInvalid, -⟩ := hCrashed.settle hCoherent hPump rfl
  have hConcurs := hLooked.concurs.blaming origin
  exact ⟨hDevice.trans (congrArg some (hConcurs.recovered _)), hInvalid.trans hConcurs.invalid⟩

/-- That a device waits for secrets is told. -/
theorem Coherent.handled_needAuth (h : m.Coherent A) {rest : List DeviceEvent}
    (hQueue : m.queue = .stateChanged x .needAuth old reason :: rest) :
    let t := { m with queue := rest }.handleEvent (.stateChanged x .needAuth old reason)
    t.Coherent A ∧ t.site x = (m.site x).tell (.stateChanged x .needAuth old reason) ∧
      t.queue = rest ∧ t.pending = m.pending ∧ Concurs m t ∧ m.events <+: t.events := by
  intro t
  have hEq : t = ({ m with queue := rest }.announced x .needAuth old reason).updateState := rfl
  have hActs := (h.toFits.announced hQueue).same (same_updateState _)
  have hRests := (rests_announced { m with queue := rest } x .needAuth old reason).trans (rests_updateState _)
  have hAnnounced : Decides m ({ m with queue := rest }.announced x .needAuth old reason) :=
    ⟨rfl, rfl, rfl, rfl, rfl⟩
  exact ⟨h.handleEvent_coherent hQueue, hActs.here, hRests.queue, hRests.pending,
    ⟨hEq ▸ hAnnounced.trans (decides_updateState _), terms_handleEvent _ _, hActs.within.nextRequest⟩,
    (retains_handleEvent (H := nothing) { m with queue := rest } _).events⟩

/-- That a device waits for secrets is told, and the device fails if no request is to get them. -/
theorem Coherent.drain_asking (h : m.Coherent A)
    (hQueue : m.queue = [.stateChanged x .needAuth old reason, .needSecrets x need]) :
    ∃ t : Manager, drain 4 m = drain 2 (t.failUnansweredAuth x) ∧
      (t.failUnansweredAuth x).Coherent A ∧ t.Fits A ∧
      (t.device? x = m.device? x ∧ t.requestOn? x = m.requestOn? x ∧ t.orphan? x = m.orphan? x) ∧
      t.queue = [] ∧ t.pending = m.pending ∧ Concurs m t ∧ m.events <+: t.events := by
  obtain ⟨hTold, hSite, hQueue₁, hPending, hConcurs, hEvents⟩ := h.handled_needAuth hQueue
  generalize hEq : ({ m with queue := [.needSecrets x need] } : Manager).handleEvent
    (.stateChanged x .needAuth old reason) = t at hTold hSite hQueue₁ hPending hConcurs hEvents
  refine ⟨{ t with queue := [] }, ?_, hTold.handleEvent_coherent hQueue₁,
    (hTold.toFits.tell_needSecrets hQueue₁).fits,
    ⟨congrArg Site.device hSite, congrArg Site.request hSite, congrArg Site.orphan hSite⟩, rfl,
    hPending, hConcurs.trans ⟨⟨rfl, rfl, rfl, rfl, rfl⟩, rfl, rfl⟩, hEvents⟩
  unfold drain
  rw [hQueue]
  dsimp only
  rw [hEq]
  unfold drain
  rw [hQueue₁]
  rfl

/-- A device whose request is to get it secrets waits for them. -/
theorem Settled.asked_updated (h : m.Settled A) (hd : m.device? x = some d)
    (hf : ∀ d : Device, d.AllListen → d.Sound → Device.Carries d (f d))
    (hEvents : (f d).events = [.stateChanged x .needAuth old reason, .needSecrets x need])
    (hSome : (m.requestOn? x).isSome = true) :
    (m.updateDevice x f).settle.device? x = some (f d).device ∧
      (m.updateDevice x f).settle.invalid = m.invalid := by
  obtain ⟨-, p, hLooked, hQueue, hPump⟩ := h.pump_updated hd hf hEvents (List.cons_ne_nil _ _)
  obtain ⟨t, hDrain, -, -, ⟨hDevice, hRequest, -⟩, hEmpty, hPending, hConcurs, -⟩ :=
    hLooked.coherent.drain_asking hQueue
  have hHeard : (t.requestOn? x).isSome = true := by
    have hOrigins := congrArg Option.isSome hLooked.request
    rwa [Option.isSome_map, Option.isSome_map, hSome, ← hRequest] at hOrigins
  have hIdle : drain 2 (t.failUnansweredAuth x) = t := by
    unfold Manager.failUnansweredAuth
    rw [if_pos hHeard]
    unfold drain
    rw [hEmpty]
  have hPumped : (m.updateDevice x f).pump = t.processRequests :=
    hPump.trans (congrArg processRequests (hDrain.trans hIdle))
  have hNothing : (m.updateDevice x f).pump.pending = [] := by
    rw [hPumped, (rests_processRequests t).pending]
    exact hPending.trans hLooked.pending
  rw [settle_undue hNothing, device?_updateState, (decides_updateState _).invalid, hPumped,
    device?_processRequests, (decides_processRequests t).invalid]
  exact ⟨hDevice.trans hLooked.device, hConcurs.invalid.trans hLooked.concurs.invalid⟩

/-- A device that asks for secrets without a request to get them fails. -/
theorem Coherent.drain_unanswered (h : m.Coherent A)
    (hQueue : m.queue = [.stateChanged x .needAuth old reason, .needSecrets x need])
    (hPending : m.pending = []) (hd : m.device? x = some d) (hNone : m.requestOn? x = none) :
    ∃ t, drain 4 m = drain 2 t ∧ Updated A x d.failAuth m t := by
  obtain ⟨t, hDrain, hCoherent, hFits, ⟨hDevice, hRequest, hOrphan⟩, hEmpty, hPending₁, hConcurs, hEvents⟩ :=
    h.drain_asking hQueue
  have hThere := hDevice.trans hd
  have hFree := hRequest.trans hNone
  have hSound := hFits.sound hThere
  have hActs := hFits.carries hThere (Device.failAuth_carries hSound.allListen hSound.device)
  have hGone : (t.updateDevice x Device.failAuth).requestOn? x = none := by
    refine (congrArg Site.request hActs.here).trans ?_
    show (t.requestOn? x).map _ = none
    rw [hFree]
    rfl
  rw [failUnansweredAuth_eq hFree] at hDrain hCoherent
  exact ⟨t.updateDevice x Device.failAuth, hDrain,
    { coherent := hCoherent
      device := congrArg Site.device hActs.here
      queue := by rw [queue_updateDevice hFits hThere, hEmpty]; rfl
      pending := (pending_updateDevice _ _ _).trans (hPending₁.trans hPending)
      request := by rw [hGone, hNone]
      orphan := (congrArg Site.orphan hActs.here).trans hOrphan
      concurs := hConcurs.trans (.updateDevice _ _ _)
      events := hEvents.trans (retains_updateDevice (H := nothing) t x Device.failAuth).events }⟩

/-- A device that was disconnected after a failure never waits for secrets. -/
theorem state_recovered (m : Manager) {d : Device} (hListen : d.AllListen)
    (hState : d.state = .disconnected) : (m.recovered d).state ≠ .needAuth := by
  unfold recovered
  split
  · exact state_autoStarted (d := { d with activationScheduled := false }) m hListen hState
  · rw [hState]
    nofun

/-- Without a request to get it secrets, a device that asks for them fails, and its connection is left
out from now on, unless a user started it. -/
theorem Settled.unanswered_updated (h : m.Settled A) (hd : m.device? x = some d)
    (hf : ∀ d : Device, d.AllListen → d.Sound → Device.Carries d (f d))
    (hNeed : (f d).device.state = .needAuth)
    (hEvents : (f d).events = [.stateChanged x .needAuth old reason, .needSecrets x need])
    (hNone : m.requestOn? x = none) (hOwner : m.BelongsTo x origin) :
    Since m (m.updateDevice x f).settle (.deviceStateChanged x .failed .needAuth .noSecrets) ∧
      (m.updateDevice x f).settle.stateOf? x ≠ some .needAuth ∧
        (m.updateDevice x f).settle.invalid = (m.blaming origin).invalid := by
  obtain ⟨hCoherent, p, hLooked, hQueue, hPump⟩ := h.pump_updated hd hf hEvents (List.cons_ne_nil _ _)
  have hUnheard : p.requestOn? x = none := by
    have hOrigins := hLooked.request
    rwa [hNone, Option.map_none, Option.map_eq_none_iff] at hOrigins
  obtain ⟨t, hDrain, hFailed⟩ := hLooked.coherent.drain_unanswered hQueue hLooked.pending
    hLooked.device hUnheard
  have hListen := (hLooked.coherent.toFits.sound hLooked.device).allListen
  have hId : (f d).device.id = x := (device?_eq_some hLooked.device).2
  have hEq := Device.failAuth_eq hListen hNeed
  rw [hEq, hId] at hFailed
  obtain ⟨hCrashed, hTold⟩ := hFailed.coherent.drain_failed hFailed.queue hFailed.pending
    hFailed.device rfl (hFailed.owner (hLooked.owner hOwner))
  obtain ⟨hDevice, hInvalid, hEvents'⟩ := hCrashed.settle hCoherent
    (hPump.trans (congrArg processRequests hDrain)) rfl
  have hConcurs := (hLooked.concurs.trans hFailed.concurs).blaming origin
  refine ⟨(hTold.later hEvents').earlier (hLooked.events.trans hFailed.events), ?_,
    hInvalid.trans hConcurs.invalid⟩
  unfold stateOf?
  rw [hDevice]
  intro hState
  have hAlone : ((Site.leftAlone ((f d).device.enter .failed)).enter .disconnected).AllListen :=
    Site.allListen_leftAlone ((f d).device.enter .failed)
  exact state_recovered _ hAlone rfl (Option.some.inj hState)

end Steps

-- ---------------------------------------------------------------------------
-- A request whose time is up
-- ---------------------------------------------------------------------------

section Survived

variable {r : Request} {d : Device}

/-- If the time of one request is up and no other deadline has passed, the request leaves its device,
and nothing else happens. -/
theorem Settled.survived (h : m.Settled A) (hr : r ∈ m.requests)
    (hDue : ∀ q ∈ m.requests, (q.checkTimeout m.now).2.2 = true ↔ q = r)
    (hEarly : ∀ d ∈ m.devices, ¬ d.IsDue m.now) (hd : m.device? r.device = some d)
    (hNeed : d.state ≠ .needAuth) :
    m.processTimeouts.site r.device = ((m.site r.device).adopt (some r.toOrphan)).forget ∧
      Concurs m m.processTimeouts := by
  have hHere := h.site_left hr ((hDue r hr).mpr rfl) hd hNeed (hEarly d (device?_eq_some hd).1)
  have hAway : ∀ x, x ≠ r.device → (m.timedOut m.now).site x = m.site x := by
    intro x hx
    rw [h.site_other fun q hq => ?_]
    · exact Site.polled_early fun e he => hEarly e (device?_eq_some he).1
    · obtain ⟨hMem, rfl⟩ := requestOn?_eq_some hq
      exact Bool.eq_false_iff.mpr fun hIsDue => hx (congrArg Request.device ((hDue q hMem).mp hIsDue))
  have hQueues : ∀ x, (m.timedOut m.now).queueOf x = [] := by
    intro x
    refine Eq.trans ?_ (queueOf_nil h.queue x)
    by_cases hx : x = r.device
    · subst hx
      exact congrArg Site.queue hHere
    · exact congrArg Site.queue (hAway x hx)
  obtain ⟨hCoherent, hNumber⟩ := h.coherent_timedOut m.now
  have hQuiet : (m.timedOut m.now).Quiet := by
    refine ⟨List.eq_nil_iff_forall_not_mem.mpr fun e he => ?_, fun q hq => ?_⟩
    · have hIn : e ∈ (m.timedOut m.now).queueOf e.device :=
        List.mem_filter.mpr ⟨he, beq_self_eq_true _⟩
      rw [hQueues] at hIn
      cases hIn
    · have hOn := hCoherent.linked.requestOn?_of_mem hq
      by_cases hx : q.device = r.device
      · rw [hx, show (m.timedOut m.now).requestOn? r.device = none from congrArg Site.request hHere] at hOn
        cases hOn
      · rw [show (m.timedOut m.now).requestOn? q.device = m.requestOn? q.device from
          congrArg Site.request (hAway _ hx)] at hOn
        exact h.looked q (requestOn?_eq_some hOn).1
  obtain ⟨hDecides, hPending⟩ := m.decides_timedOut m.now
  have hEq : m.processTimeouts = (m.timedOut m.now).updateState :=
    settle_idle hQuiet (hPending.trans h.pending)
  have hSame := same_updateState (m.timedOut m.now)
  rw [hEq]
  refine ⟨(hSame.site r.device).trans hHere, hDecides.trans (decides_updateState _), ?_,
    hSame.nextRequest.trans hNumber⟩
  rw [← hEq]
  exact m.terms_processTimeoutsAt m.now

theorem linkChanged_owned {c : Connection} (hConnection : m.requestOn? x = some r ∧ r.connection = c ∨
      m.requestOn? x = none ∧ ∃ o, m.orphan? x = some o ∧ o.connection = c) (up : Bool) :
    m.linkChanged x up = (m.updateDevice x fun d => d.linkChanged m.now c up).settle := by
  unfold Manager.linkChanged
  rcases hConnection with ⟨hOn, rfl⟩ | ⟨hNone, o, ho, rfl⟩
  · rw [hOn]
  · rw [hNone]
    dsimp only
    rw [ho]
    rfl

/-- An activation that goes on without its request takes news of its link as it would have taken them
with it, except that nobody answers when its device asks for secrets. -/
structure Survives (r : Request) (up : Bool) (m s : Manager) : Prop where
  /-- The device becomes the same, but for who listens to it. -/
  device : (m.linkChanged r.device up).stateOf? r.device ≠ some .needAuth →
    ((s.linkChanged r.device up).device? r.device).map Site.leftAlone =
      ((m.linkChanged r.device up).device? r.device).map Site.leftAlone
  invalid : (m.linkChanged r.device up).stateOf? r.device ≠ some .needAuth →
    (s.linkChanged r.device up).invalid = (m.linkChanged r.device up).invalid
  /-- If it asks for secrets it fails, and its connection is left out from now on, unless a user
  started it. -/
  unanswered : (m.linkChanged r.device up).stateOf? r.device = some .needAuth →
    Since s (s.linkChanged r.device up) (.deviceStateChanged r.device .failed .needAuth .noSecrets) ∧
      (s.linkChanged r.device up).stateOf? r.device ≠ some .needAuth ∧
      ∀ uuid, uuid ∈ (s.linkChanged r.device up).invalid ↔
        uuid ∈ m.invalid ∨ r.userRequested = false ∧ r.connection.uuid = uuid

theorem Settled.survives (h : m.Settled A) (hr : r ∈ m.requests)
    (hDue : ∀ q ∈ m.requests, (q.checkTimeout m.now).2.2 = true ↔ q = r)
    (hEarly : ∀ d ∈ m.devices, ¬ d.IsDue m.now) (hState : m.stateOf? r.device = some .config)
    (up : Bool) :
    Survives r up m m.processTimeouts := by
  obtain ⟨d, hd, hConfig⟩ := Option.map_eq_some_iff.mp hState
  have hSettled : m.processTimeouts.Settled A := (h.coherent_timedOut m.now).1.settle
  obtain ⟨hSite, hConcurs⟩ := h.survived hr hDue hEarly hd (by rw [hConfig]; nofun)
  generalize m.processTimeouts = s at hSettled hSite hConcurs
  have hOn := h.linked.requestOn?_of_mem hr
  have hLeft : s.device? r.device = some (Site.leftAlone d) :=
    (congrArg Site.device hSite).trans (congrArg (Option.map Site.leftAlone) hd)
  have hGone : s.requestOn? r.device = none := congrArg Site.request hSite
  have hNoted : s.orphan? r.device = some r.toOrphan := congrArg Site.orphan hSite
  -- whoever owns the activation, its connection is the same, and so is who is to blame
  have hOwner : m.BelongsTo r.device r.origin := by
    refine Or.inl ⟨by rw [hOn]; rfl, ?_⟩
    exact ((h.toCoherent.held hd).owned (h.active_of_mem hr hd)).mp (Option.isSome_iff_exists.mpr ⟨r, hOn⟩)
  have hHeir : s.BelongsTo r.device r.origin := Or.inr ⟨hGone, by rw [hNoted]; rfl⟩
  let f := fun d : Device => d.linkChanged m.now r.connection up
  have hAsked : m.linkChanged r.device up = (m.updateDevice r.device f).settle :=
    linkChanged_owned (Or.inl ⟨hOn, rfl⟩) up
  have hAlone : s.linkChanged r.device up = (s.updateDevice r.device f).settle := by
    show _ = (s.updateDevice r.device fun d => d.linkChanged m.now r.connection up).settle
    rw [← show s.now = m.now from congrArg Terms.now hConcurs.terms]
    exact linkChanged_owned (r := r) (Or.inr ⟨hGone, r.toOrphan, hNoted, rfl⟩) up
  have hCarries : ∀ d : Device, d.AllListen → d.Sound → Device.Carries d (f d) :=
    fun _ => Device.linkChanged_carries m.now r.connection up
  have hSound := h.toFits.sound hd
  have hEq : f (Site.leftAlone d) = (f d).leftAlone :=
    Device.linkChanged_leftAlone d m.now r.connection up
  have hId := (device?_eq_some hd).2
  rcases Device.linkChanged_config hSound.allListen hSound.device hConfig m.now r.connection up with
    ⟨hUp, hCalm⟩ | ⟨need, hAsks, hEvents⟩ | ⟨reason, hFailed, hEvents⟩
  · -- the pipeline ends
    obtain ⟨hThere, hInvalid⟩ := h.calm_updated (f := f) hd (hCarries d hSound.allListen hSound.device) hCalm
    have hLeftSound := hSettled.toFits.sound hLeft
    obtain ⟨hThere', hInvalid'⟩ := hSettled.calm_updated (f := f) hLeft
      (hCarries _ hLeftSound.allListen hLeftSound.device) (by rw [hEq]; exact hCalm)
    rw [← hAsked] at hThere hInvalid
    rw [← hAlone, hEq] at hThere'
    rw [← hAlone] at hInvalid'
    refine ⟨fun _ => ?_, fun _ => ?_, fun hNeed => ?_⟩
    · rw [hThere, hThere']
      rfl
    · rw [hInvalid, hInvalid', hConcurs.invalid]
    · unfold stateOf? at hNeed
      rw [hThere, Option.map_some, show (f d).device.state = .activated from hUp] at hNeed
      cases hNeed
  · -- the device asks for secrets
    rw [hId] at hEvents
    obtain ⟨hThere, -⟩ := h.asked_updated hd hCarries hEvents (by rw [hOn]; rfl)
    obtain ⟨hTold, hDown, hInvalid⟩ := hSettled.unanswered_updated hLeft hCarries
      (by rw [hEq]; exact hAsks) (by rw [hEq]; exact hEvents) hGone hHeir
    rw [← hAsked] at hThere
    rw [← hAlone] at hTold hDown hInvalid
    have hNeed : (m.linkChanged r.device up).stateOf? r.device = some .needAuth := by
      unfold stateOf?
      rw [hThere, Option.map_some]
      exact congrArg some hAsks
    refine ⟨fun hOther => absurd hNeed hOther, fun hOther => absurd hNeed hOther,
      fun _ => ⟨hTold, hDown, fun uuid => ?_⟩⟩
    rw [hInvalid, mem_blaming, hConcurs.invalid]
    exact or_congr_right Prod.ext_iff
  · -- the link failed
    rw [hId] at hEvents
    obtain ⟨hThere, hInvalid⟩ := h.failed_updated hd hCarries hFailed hEvents hOwner
    obtain ⟨hThere', hInvalid'⟩ := hSettled.failed_updated hLeft hCarries
      (by rw [hEq]; exact hFailed) (by rw [hEq]; exact hEvents) hHeir
    have hSame := hConcurs.blaming r.origin
    rw [← hAsked] at hThere hInvalid
    rw [← hAlone, hEq, hSame.recovered] at hThere'
    rw [← hAlone] at hInvalid'
    refine ⟨fun _ => ?_, fun _ => ?_, fun hNeed => ?_⟩
    · rw [hThere, hThere']
      rfl
    · rw [hInvalid, hInvalid', hSame.invalid]
    · unfold stateOf? at hNeed
      rw [hThere, Option.map_some] at hNeed
      have hListen : ((Site.leftAlone (f d).device).enter .disconnected).AllListen :=
        Site.allListen_leftAlone (f d).device
      exact absurd (Option.some.inj hNeed) (state_recovered _ hListen rfl)

-- ---------------------------------------------------------------------------
-- Runs
-- ---------------------------------------------------------------------------

/-- After every run: if a request on a device that waits for its link has run out of time, and no
other deadline has passed, then what the link does next comes to the same as if the request were still
there, unless its device then asks for secrets. -/
theorem run_survives (store : StateStore) (allowed : List Nat) (timeout : Option Nat) (epoch : Nat)
    (operations : List Operation) :
    let m := (start store allowed timeout epoch).run operations
    ∀ r ∈ m.requests, (∀ q ∈ m.requests, q.IsDue m.now ↔ q = r) →
      (∀ d ∈ m.devices, ¬ d.IsDue m.now) → m.stateOf? r.device = some .config →
        ∀ up, Survives r up m m.processTimeouts := by
  intro m r hr hDue hEarly hState up
  have hRested : m.Rested fun _ _ => True :=
    run_rested (start_rested store allowed timeout epoch) operations
  have hSettled := hRested.toSettled
  have hConcluded : m.AllConcluded := run_concluded store allowed timeout epoch operations
  refine hSettled.survives hr (fun q hq => ?_) hEarly hState up
  exact (hConcluded _ _ (hSettled.linked.requestOn?_of_mem hq)).checkTimeout_iff.trans (hDue q hq)

/-- The time for the activation of a scanner is up before its link is. -/
def DialUp.late : Manager :=
  (start DialUp.store [] (some 1000) 0).run (DialUp.connecting ++ [.setClock 1000])

/-- If the link then fails, so does the activation, as it would have done before. If it comes up, the
device asks for a PIN, and there is nobody left to get it. -/
theorem run_survives_late :
    ∃ r ∈ DialUp.late.requests, (∀ q ∈ DialUp.late.requests, q.IsDue DialUp.late.now ↔ q = r) ∧
      (∀ d ∈ DialUp.late.devices, ¬ d.IsDue DialUp.late.now) ∧ DialUp.late.stateOf? r.device = some .config ∧
      (DialUp.late.linkChanged r.device false).stateOf? r.device = some .disconnected ∧
      (DialUp.late.linkChanged r.device true).stateOf? r.device = some .needAuth ∧
      ∀ up, Survives r up DialUp.late DialUp.late.processTimeouts :=
  have hRequest : ∃ r ∈ DialUp.late.requests, (∀ q ∈ DialUp.late.requests, q.IsDue DialUp.late.now ↔ q = r) ∧
      DialUp.late.stateOf? r.device = some .config ∧
      (DialUp.late.linkChanged r.device false).stateOf? r.device = some .disconnected ∧
      (DialUp.late.linkChanged r.device true).stateOf? r.device = some .needAuth := by decide +kernel
  have hEarly : ∀ d ∈ DialUp.late.devices, ¬ d.IsDue DialUp.late.now := by decide +kernel
  let ⟨r, hr, hDue, hState, hDown, hUp⟩ := hRequest
  ⟨r, hr, hDue, hEarly, hState, hDown, hUp, run_survives _ _ _ _ _ r hr hDue hEarly hState⟩

end Survived

end Manager

end ScannerHub
