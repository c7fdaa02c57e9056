import ScannerHub.Proofs.Manager.Driving
import ScannerHub.Proofs.Manager.Rest

/-!
# What becomes of a device

A passage is about one site, or about none. Seen from any fixed device it leaves the site of that device
alone, or it is about it, or an activation starts there, or the device comes or goes. What is told of the
device is told with that.

A request keeps its number and its connection for as long as it lives. So whoever learns of a number
finds the request with it once the operation is over: nothing that starts ends before that.

* `Manager.Fate` — what becomes of one device with a passage;
* `Manager.Informed` — a manager at rest, all of whose connections say which ones they are;
* `Manager.Throughout` — a run of operations that are all of one kind.

## Results

* `Site.Episode.kept` — a request stays the one that it is;
* `Passage.fate` — every passage is a fate of every device;
* `run_informed` — what holds of every manager of a run;
* `Informed.operate_announced` — what an operation announces is there once it is over.
-/

namespace ScannerHub

-- ---------------------------------------------------------------------------
-- What becomes of a request
-- ---------------------------------------------------------------------------

/-- One request at two times, with the connection that it uses. -/
structure Request.Keeps (r r' : Request) : Prop where
  goes : r.Goes r'
  named : r.Named → r'.Named ∧ r'.connection.uuid = r.connection.uuid

namespace Request

variable {r r' r'' : Request}

theorem Keeps.refl (r : Request) : r.Keeps r := ⟨.refl r, fun h => ⟨h, rfl⟩⟩

theorem Keeps.trans (h : r.Keeps r') (h' : r'.Keeps r'') : r.Keeps r'' where
  goes := h.goes.trans h'.goes
  named hNamed := by
    obtain ⟨hNamed', hUuid⟩ := h.named hNamed
    obtain ⟨hNamed'', hUuid'⟩ := h'.named hNamed'
    exact ⟨hNamed'', hUuid'.trans hUuid⟩

theorem Revises.keeps (h : r.Revises r') : r.Keeps r' := ⟨h.goes, h.named⟩

theorem keeps_hear (r : Request) {events : List DeviceEvent}
    (hEvents : ∀ id need, .needSecrets id need ∈ events → need.setting = bluetoothSettingName) :
    r.Keeps (r.hear events) :=
  ⟨r.goes_hear events, fun hNamed => ⟨hNamed.hear hEvents, rfl⟩⟩

theorem keeps_processEvents (r : Request) : r.Keeps r.processEvents.request :=
  ⟨r.resolves_processEvents.goes, fun hNamed =>
    ⟨hNamed.processEvents, congrArg Connection.uuid r.resolves_processEvents.connection⟩⟩

theorem keeps_finish (r : Request) (outcome : Outcome) : r.Keeps (r.finish outcome).1 := by
  have hResolves := r.resolves_finish outcome
  refine ⟨hResolves.goes, fun hNamed => ⟨⟨?_, ?_, ?_⟩, congrArg Connection.uuid hResolves.connection⟩⟩
  · rw [hResolves.connection]
    exact hNamed.connection
  · rw [secrets_finish]
    exact hNamed.secrets
  · rw [(r.finish_same outcome).queue]
    exact hNamed.queue

theorem keeps_wait (r : Request) (waiter : Nat) : r.Keeps (r.wait waiter).1 := by
  refine ⟨r.goes_wait waiter, fun hNamed => ?_⟩
  unfold wait
  split
  · exact ⟨hNamed, rfl⟩
  · split
    · exact ⟨hNamed, rfl⟩
    · exact ⟨⟨hNamed.connection, hNamed.secrets, hNamed.queue⟩, rfl⟩

end Request

namespace Site

variable {K : Feat → Prop} {s s' : Site} {news : List ManagerEvent} {effects : List Effect}

/-- A device asks for no secrets but those of the link. -/
theorem Heeds.asksForLink {f : Device → Update} (h : s.Heeds K f) (d : Device) :
    ∀ id need, .needSecrets id need ∈ (f d).events → need.setting = bluetoothSettingName := by
  intro id need hIn
  cases h with
  | halts _ hf => cases hf.tells d _ hIn
  | drives _ hf => exact beq_iff_eq.mp (hf.tells d _ hIn)
  | abandons => exact beq_iff_eq.mp (Device.Drives.failAuth.tells d _ hIn)
  | recovers _ reason =>
    have hHalts : Device.Tells DeviceEvent.halts (d.moveTo .disconnected reason) := .moveTo rfl
    cases hHalts _ hIn
  | rouses => cases Device.setManaged_tells _ _ _ _ hIn

/-- A request stays the one that it is for as long as it lives. -/
theorem Episode.kept (h : s.Episode K s' news effects) {r' : Request} (hr' : s'.request = some r') :
    ∃ r, s.request = some r ∧ r.Keeps r' := by
  cases h with
  | flag => exact ⟨r', hr', .refl r'⟩
  | hears hd hf =>
    obtain ⟨r, hr, rfl⟩ := Option.map_eq_some_iff.mp hr'
    exact ⟨r, hr, r.keeps_hear (hf.asksForLink _)⟩
  | look hr =>
    cases hr'
    exact ⟨_, hr, Request.keeps_processEvents _⟩
  | revise hr hRevises =>
    cases hr'
    exact ⟨_, hr, hRevises.keeps⟩
  | @refuse d r r₁ hK hd hr hQueues hState hRevises =>
    cases hr'
    have hAsks := Heeds.asksForLink (s := s) (.drives hK (.fail .noSecrets)) d
    exact ⟨r, hr, hRevises.keeps.trans ((r₁.keeps_finish _).trans (Request.keeps_hear _ hAsks))⟩
  | tell => exact ⟨r', hr', .refl r'⟩
  | leave => cases hr'
  | part => cases hr'
  | expire hr =>
    cases hr'
    exact ⟨_, hr, Request.keeps_finish _ _⟩
  | adopt => exact ⟨r', hr', .refl r'⟩
  | wait hr =>
    cases hr'
    exact ⟨_, hr, Request.keeps_wait _ _⟩

/-- A request that nothing has leave to end lives on. -/
theorem Episode.lasts (h : s.Episode K s' news effects) {r : Request} (hr : s.request = some r)
    (hLeaves : ¬ K (.leaves r.id)) (hParts : ∀ reason, ¬ K (.parts r.id reason)) :
    ∃ r', s'.request = some r' ∧ r'.id = r.id := by
  have hSame : ∀ r', s'.request = some r' → ∃ r', s'.request = some r' ∧ r'.id = r.id := by
    intro r' hr'
    obtain ⟨r₀, hr₀, hKeeps⟩ := h.kept hr'
    cases hr.symm.trans hr₀
    exact ⟨r', hr', hKeeps.goes.id⟩
  cases h with
  | hears => exact hSame _ (congrArg (Option.map _) hr)
  | refuse => exact hSame _ rfl
  | leave _ _ _ hLooked => exact absurd (hLooked r hr).2 hLeaves
  | part hr' hK =>
    cases hr.symm.trans hr'
    exact absurd hK (hParts _)
  | flag | tell | adopt => exact hSame r hr
  | look | revise | expire | wait => exact hSame _ rfl

/-- Nobody is answered but who waits for the request of the site, or begins to. -/
theorem Episode.answers (h : s.Episode K s' news effects) :
    ∀ a ∈ answered effects, (∃ r, s.request = some r ∧ a.1 ∈ r.waiters) ∨ ∃ number, K (.waits number a.1) := by
  have hParts : ∀ {reason : StateReason}, ∀ a ∈ answered (s.parting reason),
      ∃ r, s.request = some r ∧ a.1 ∈ r.waiters := by
    intro reason a ha
    unfold parting at ha
    cases hr : s.request with
    | none =>
      rw [hr] at ha
      cases ha
    | some r =>
      rw [hr] at ha
      dsimp only at ha
      rw [r.answered_detach] at ha
      split at ha
      · cases ha
      · obtain ⟨w, hw, rfl⟩ := List.mem_map.mp ha
        exact ⟨r, rfl, hw⟩
  intro a ha
  cases h with
  | flag | hears | tell | adopt => cases ha
  | @look r news hr => exact .inl ⟨r, hr, r.resolves_processEvents.answered_waited a ha⟩
  | revise hr hRevises hEffects =>
    rw [hEffects] at ha
    cases ha
  | @refuse d r r' hK hd hr hQueues hState hRevises =>
    exact .inl ⟨r, hr, hRevises.waiters ▸ (r'.resolves_finish _).answered_waited a ha⟩
  | leave => exact .inl (hParts a ha)
  | part => exact .inl (hParts a ha)
  | @expire r hr => exact .inl ⟨r, hr, (r.resolves_finish _).answered_waited a ha⟩
  | @wait r waiter hr hK =>
    refine .inr ⟨r.id, ?_⟩
    have hOwn : a.1 = waiter := by
      unfold Request.wait at ha
      split at ha
      · exact congrArg Prod.fst (List.mem_singleton.mp ha)
      · split at ha
        · exact congrArg Prod.fst (List.mem_singleton.mp ha)
        · cases ha
    exact hOwn ▸ hK

/-- What is told of a request is that it goes. -/
theorem mem_farewell {e : ManagerEvent} (h : e ∈ s.farewell) :
    (∃ r, s.request = some r ∧ e = .activeConnectionRemoved r.id) ∨ e = .activeConnectionsChanged := by
  unfold farewell at h
  cases hr : s.request with
  | none =>
    rw [hr] at h
    cases h
  | some r =>
    rw [hr] at h
    rcases List.mem_cons.mp h with rfl | hRest
    · exact .inl ⟨r, rfl, rfl⟩
    · exact .inr (List.mem_singleton.mp hRest)

end Site

/-- What is published of an event of a device is told of that device. -/
theorem DeviceEvent.mem_published_cases {e : DeviceEvent} {event : ManagerEvent}
    (h : event ∈ e.published) : event.isAside = true ∨
      ∃ new old reason, event = .deviceStateChanged e.device new old reason := by
  cases e with
  | stateChanged id new old reason =>
    rcases List.mem_cons.mp h with rfl | hRest
    · exact .inr ⟨new, old, reason, rfl⟩
    · split at hRest
      · rw [List.mem_singleton.mp hRest]
        exact .inl rfl
      · cases hRest
  | needSecrets id need => cases h
  | linkRequested id request =>
    rw [show DeviceEvent.published (.linkRequested id request) = [.linkRequested id request] from rfl] at h
    rw [List.mem_singleton.mp h]
    exact .inl rfl

namespace Manager

variable {A : Nat → String → Prop} {K : Feat → Prop} {m m' : Manager} {x : Nat}
variable {news : List ManagerEvent} {effects : List Effect} {operation : Operation}

/-- An episode tells of the device that it is about, and of its request if that goes. -/
theorem mem_news (h : (m.site x).Episode K (m'.site x) news effects) {e : ManagerEvent}
    (he : e ∈ news) : e.isAside = true ∨ (∃ new old reason, e = .deviceStateChanged x new old reason) ∨
      ∃ r, m.requestOn? x = some r ∧ (K (.leaves r.id) ∨ ∃ reason, K (.parts r.id reason)) ∧
        e = .activeConnectionRemoved r.id := by
  have hOwn : ∀ {e : DeviceEvent} {rest : List DeviceEvent}, m.queueOf x = e :: rest →
      e.device = x := by
    intro e rest hQueue
    have hIn : e ∈ m.queueOf x := hQueue ▸ List.mem_cons_self
    exact beq_iff_eq.mp (List.mem_filter.mp hIn).2
  have hTold : ∀ {e' : DeviceEvent} {rest : List DeviceEvent}, m.queueOf x = e' :: rest →
      e ∈ e'.published → e.isAside = true ∨ ∃ new old reason, e = .deviceStateChanged x new old reason := by
    intro e' rest hQueue hIn
    rw [← hOwn hQueue]
    exact DeviceEvent.mem_published_cases hIn
  generalize m'.site x = s' at h
  cases h with
  | look _ hNews => exact .inl (hNews e he)
  | tell _ hQueue => exact (hTold hQueue he).imp_right .inl
  | leave _ hQueue _ hLooked =>
    rcases List.mem_append.mp he with hIn | hIn
    · exact (hTold hQueue hIn).imp_right .inl
    · rcases Site.mem_farewell hIn with ⟨r, hr, rfl⟩ | rfl
      · exact .inr (.inr ⟨r, hr, .inl (hLooked r hr).2, rfl⟩)
      · exact .inl rfl
  | @part r reason hr hK =>
    rcases Site.mem_farewell he with ⟨q, hq, rfl⟩ | rfl
    · cases hr.symm.trans hq
      exact .inr (.inr ⟨r, hr, .inr ⟨reason, hK⟩, rfl⟩)
    · exact .inl rfl
  | _ => cases he

/-- Who is answered, and who goes, has to do with requests on other devices. -/
structure Aloof (K : Feat → Prop) (m : Manager) (x : Nat) (news : List ManagerEvent)
    (effects : List Effect) : Prop where
  answers : ∀ a ∈ answered effects, (∃ y q, y ≠ x ∧ m.requestOn? y = some q ∧ a.1 ∈ q.waiters) ∨
    ∃ number, K (.waits number a.1)
  leaves : ∀ number, .activeConnectionRemoved number ∈ news →
    ∃ y q, y ≠ x ∧ m.requestOn? y = some q ∧ q.id = number

theorem aloof_of_nil {effects : List Effect} (hEffects : effects = [])
    (hNews : ∀ number, .activeConnectionRemoved number ∉ news) : Aloof K m x news effects :=
  ⟨fun a ha => (by rw [hEffects] at ha; cases ha), fun number hIn => absurd hIn (hNews number)⟩

/-- What becomes of one device with a passage, what is told with that, and what is done. -/
inductive Fate (K : Feat → Prop) (m m' : Manager) (x : Nat) (news : List ManagerEvent) : Prop where
  /-- Nothing becomes of the device. -/
  | stays {effects : List Effect} (hSite : m'.site x = m.site x)
    (hSilent : ∀ new old reason, .deviceStateChanged x new old reason ∉ news)
    (hEffects : m'.effects = m.effects ++ effects) (hAloof : Aloof K m x news effects)
  | turns {effects : List Effect} (hEpisode : (m.site x).Episode K (m'.site x) news effects)
    (hMarks : ∀ old reason uuid, .deviceStateChanged x .failed old reason ∈ news →
      (m.site x).Blames uuid → uuid ∈ m'.invalid) (hEffects : m'.effects = m.effects ++ effects)
  /-- An activation starts. -/
  | starts {d d' : Device} {r : Request} {u : Update} (hK : K (.launches r.id))
    (hd : m.device? x = some d) (hState : d.state = .disconnected)
    (hFree : m.requestOn? x = none ∧ m.orphan? x = none ∧ m.queueOf x = [])
    (hLaunch : Launches x d d' r u) (hSite : m'.site x = (m.site x).launched r u)
    (hUser : r.userRequested = true → K (.starts x))
    (hAuto : r.userRequested = false →
      d.autoconnectInhibited = false ∧ r.connection.uuid ∉ m.invalid) (hNamed : r.Named)
    (hNews : news = [.activeConnectionAdded r.id, .activeConnectionsChanged])
    (hAwaited : r.nowait = false ∧ r.outcome = none ∧ r.queue = [] ∧ r.waiters = [])
    (hEffects : m'.effects = m.effects) (hFresh : m.Fresh r.id)
  /-- The device comes. -/
  | comes {d : Device} (hNew : x = m.nextDevice) (hUnused : d.Unused)
    (hSite : m'.site x = { m.site x with device := some (m.newcomer d) }) (hQueue : m.queueOf x = [])
    (hNews : news = [.deviceAdded x]) (hEffects : m'.effects = m.effects)
  /-- The device goes. -/
  | goes (hNone : m.requestOn? x = none) (hDevice : m'.device? x = none)
    (hRequest : m'.requestOn? x = none) (hOrphan : m'.orphan? x = none) (hQueue : m'.queueOf x = [])
    (hSilent : ∀ new old reason, .deviceStateChanged x new old reason ∉ news)
    (hEffects : m'.effects = m.effects) (hLeaves : ∀ number, .activeConnectionRemoved number ∉ news)

theorem named_start {spec : RequestSpec} (hNamed : spec.connection.Named) (id now : Nat) (d : Device) :
    (Request.start id spec now d).1.Named :=
  ⟨hNamed, nofun, nofun⟩

/-- What is told of a launch. -/
theorem Fits.launched_events (h : m.Fits A) {id number : Nat} {d : Device} (spec : RequestSpec)
    (hd : m.device? id = some d) (hState : d.state = .disconnected) (hNone : m.requestOn? id = none)
    (hQueue : m.queueOf id = []) (hCheck : d.check spec.connection = .ok ()) (hFresh : m.Fresh number) :
    ((m.undue id).launch number d spec).1.events =
      m.events ++ [.activeConnectionAdded number, .activeConnectionsChanged] := by
  obtain ⟨-, hEq, -⟩ := h.launched spec hd hState hNone hQueue hCheck hFresh
  rw [hEq]
  show _ ++ _ ++ _ = _
  rw [List.append_assoc]
  rfl

/-- Every passage is a fate of every device. -/
theorem Passage.fate (h : Passage A K m m') (hFits : m.Fits A) (x : Nat) :
    ∃ news, m'.events = m.events ++ news ∧ Fate K m m' x news := by
  -- what has to do with no request at all
  have hStays : ∀ {news : List ManagerEvent}, m'.site x = m.site x →
      (∀ new old reason, .deviceStateChanged x new old reason ∉ news) →
      (∀ number, .activeConnectionRemoved number ∉ news) → m'.effects = m.effects →
      Fate K m m' x news := fun hSite hSilent hNone hEffects =>
    .stays hSite hSilent (hEffects.trans (List.append_nil _).symm) (aloof_of_nil rfl hNone)
  cases h with
  | @turn _ id s news effects hTurns hEpisode hMarks =>
    refine ⟨news, hTurns.events, ?_⟩
    rw [← hTurns.here] at hEpisode
    by_cases hx : x = id
    · cases hx
      exact .turns hEpisode hMarks hTurns.effects
    · have hOther : id ≠ x := fun hEq => hx hEq.symm
      refine .stays ((hTurns.site x).trans (if_neg hx)) (fun new old reason hIn => ?_) hTurns.effects
        ⟨fun a ha => ?_, fun number hIn => ?_⟩
      · rcases mem_news hEpisode hIn with hAside | ⟨_, _, _, hEq⟩ | ⟨_, -, -, hEq⟩
        · cases hAside
        · exact hx (ManagerEvent.deviceStateChanged.inj hEq).1
        · cases hEq
      · exact (hEpisode.answers a ha).imp_left fun ⟨q, hq, hIn⟩ => ⟨id, q, hOther, hq, hIn⟩
      · rcases mem_news hEpisode hIn with hAside | ⟨_, _, _, hEq⟩ | ⟨q, hq, -, hEq⟩
        · cases hAside
        · cases hEq
        · cases hEq
          exact ⟨id, q, hOther, hq, rfl⟩
  | @quiet _ news hFits' hSites hEvents hNews hEffects =>
    exact ⟨news, hEvents, hStays (hSites x) (fun _ _ _ hIn => nomatch hNews _ hIn)
      (fun _ hIn => nomatch hNews _ hIn) hEffects⟩
  | @launch id number d spec hK hd hState hNone hOrphan hQueue hCheck hFresh hUser hAuto hNowait hNamed =>
    obtain ⟨hLaunch, hEq, -, hSite⟩ := hFits.launched spec hd hState hNone hQueue hCheck hFresh
    have hEffects : ((m.undue id).launch number d spec).1.effects = m.effects := by
      rw [hEq]
      rfl
    refine ⟨_, hFits.launched_events spec hd hState hNone hQueue hCheck hFresh, ?_⟩
    by_cases hx : x = id
    · subst hx
      exact .starts hK hd hState ⟨hNone, hOrphan, hQueue⟩ hLaunch ((hSite x).trans (if_pos rfl)) hUser
        hAuto (named_start hNamed _ _ _) rfl ⟨hNowait, rfl, rfl, rfl⟩ hEffects hFresh
    · exact hStays ((hSite x).trans (if_neg hx)) (by simp) (by simp) hEffects
  | @come d hQueue hUnused hUdi =>
    obtain ⟨-, -, hSite⟩ := hFits.takenIn hQueue hUnused hUdi
    have hSame : ∀ y, (m.admitted d).site y = (m.takenIn (m.newcomer d)).site y :=
      (same_publish (m.takenIn (m.newcomer d)) fun _ => rfl).site
    refine ⟨[.deviceAdded m.nextDevice], rfl, ?_⟩
    by_cases hx : x = m.nextDevice
    · subst hx
      exact .comes rfl hUnused ((hSame _).trans ((hSite _).trans (if_pos rfl))) (queueOf_nil hQueue _) rfl rfl
    · exact hStays ((hSame x).trans ((hSite x).trans (if_neg hx))) (by simp) (by simp) rfl
  | @go id hQueue hRequest hOrphan =>
    have hSite := (hFits.dismissed id hRequest hOrphan).site
    have hSame : ∀ y, ((m.dismissed id).publish (.deviceRemoved id)).site y = (m.dismissed id).site y :=
      (same_publish (m.dismissed id) fun _ => rfl).site
    refine ⟨[.deviceRemoved id], rfl, ?_⟩
    by_cases hx : x = id
    · subst hx
      have hHere := (hSame x).trans ((hSite x).trans (if_pos rfl))
      exact .goes hRequest (congrArg Site.device hHere) ((congrArg Site.request hHere).trans hRequest)
        ((congrArg Site.orphan hHere).trans hOrphan) ((congrArg Site.queue hHere).trans hQueue) (by simp) rfl
        (by simp)
    · exact hStays ((hSame x).trans ((hSite x).trans (if_neg hx))) (by simp) (by simp) rfl
  | close hQueue hRequests =>
    have hNone : m.requestOn? x = none := by
      show m.requests.find? _ = none
      rw [hRequests]
      rfl
    exact ⟨m.devices.map fun d => .deviceRemoved d.id, rfl,
      .goes hNone rfl hNone rfl (queueOf_nil hQueue x) (by simp) rfl (by simp)⟩
  | pardon => exact ⟨[], (List.append_nil _).symm, hStays rfl nofun nofun rfl⟩
  | forgive => exact ⟨[], (List.append_nil _).symm, hStays rfl nofun nofun rfl⟩

-- ---------------------------------------------------------------------------
-- Sequences of passages
-- ---------------------------------------------------------------------------

/-- What holds of a manager and of what was told, from one passage to the next. -/
theorem Passages.follow {P : Manager → List ManagerEvent → Prop}
    (hStep : ∀ {m m' : Manager} {told news : List ManagerEvent}, Passage A K m m' → m.Fits A →
      m'.events = m.events ++ news → P m told → P m' (told ++ news))
    (h : Passages A K m m') (hFits : m.Fits A) (told : List ManagerEvent) (hP : P m told) :
    ∃ news, m'.events = m.events ++ news ∧ P m' (told ++ news) := by
  induction h with
  | refl => exact ⟨[], (List.append_nil _).symm, by rwa [List.append_nil]⟩
  | tail hBefore hLast ih =>
    obtain ⟨before, hEvents, hP'⟩ := ih
    have hFits' := Passages.fits hBefore hFits
    obtain ⟨news, hEvents', -⟩ := hLast.fate hFits' 0
    refine ⟨before ++ news, ?_, ?_⟩
    · rw [hEvents', hEvents, List.append_assoc]
    · rw [← List.append_assoc]
      exact hStep hLast hFits' hEvents' hP'

theorem Passage.fate_of (h : Passage A K m m') (hFits : m.Fits A) (hEvents : m'.events = m.events ++ news)
    (x : Nat) : Fate K m m' x news := by
  obtain ⟨news', hEvents', hFate⟩ := h.fate hFits x
  rw [hEvents', List.append_cancel_left_eq] at hEvents
  exact hEvents ▸ hFate

/-- All requests that there are, seen from their devices. -/
theorem Linked.forall_requests (h : m.Linked) {P : Request → Prop} :
    (∀ r ∈ m.requests, P r) ↔ ∀ x r, m.requestOn? x = some r → P r :=
  ⟨fun hAll _ r hr => hAll r (requestOn?_eq_some hr).1,
    fun hAll r hr => hAll r.device r (h.requestOn?_of_mem hr)⟩

/-- Every request was there before a passage, or it starts with it: with a number that it has leave
for, and without a user only with a connection that did not fail before. -/
theorem Passage.requests (h : Passage A K m m') (hFits : m.Fits A) :
    ∀ r' ∈ m'.requests, (∃ r ∈ m.requests, r.Keeps r') ∨ K (.launches r'.id) ∧ r'.Named ∧
      (r'.userRequested = false → r'.connection.uuid ∉ m.invalid) ∧ m.Fresh r'.id := by
  rw [(h.fits hFits).linked.forall_requests]
  intro x r' hr'
  have hOld : ∀ r, m.requestOn? x = some r → r ∈ m.requests := fun r hr => (requestOn?_eq_some hr).1
  obtain ⟨news, -, hFate⟩ := h.fate hFits x
  cases hFate with
  | stays hSite => exact .inl ⟨r', hOld r' ((congrArg Site.request hSite).symm.trans hr'), .refl r'⟩
  | turns hEpisode =>
    obtain ⟨r, hr, hKeeps⟩ := hEpisode.kept hr'
    exact .inl ⟨r, hOld r hr, hKeeps⟩
  | @starts d d' r u hK hd hState hFree hLaunch hSite hUser hAuto hNew hNews hAwaited hEffects hFresh =>
    have hSome : (m'.site x).request = some r' := hr'
    rw [hSite] at hSome
    cases hSome
    refine .inr ⟨hK, hNew.hear fun id need hIn => ?_, fun hAlone => (hAuto hAlone).2, hFresh⟩
    have hAsks : asks u.events = true := List.any_eq_true.mpr ⟨_, hIn, rfl⟩
    rw [hLaunch.starts.asksNot] at hAsks
    cases hAsks
  | comes hNew hUnused hSite =>
    exact .inl ⟨r', hOld r' ((congrArg Site.request hSite).symm.trans hr'), .refl r'⟩
  | goes hNone hDevice hRequest =>
    rw [hRequest] at hr'
    cases hr'

/-- Requests use connections that say which ones they are. -/
theorem Passage.named (h : Passage A K m m') (hFits : m.Fits A) (hNamed : ∀ r ∈ m.requests, r.Named) :
    ∀ r ∈ m'.requests, r.Named := by
  intro r' hr'
  obtain ⟨r, hr, hKeeps⟩ | ⟨-, hNew, -⟩ := h.requests hFits r' hr'
  · exact (hKeeps.named (hNamed r hr)).1
  · exact hNew

theorem Passages.named (h : Passages A K m m') (hFits : m.Fits A) (hNamed : ∀ r ∈ m.requests, r.Named) :
    ∀ r ∈ m'.requests, r.Named :=
  (passages_preserve (P := fun m => ∀ r ∈ m.requests, r.Named)
    (fun hPassage hFits hNamed => hPassage.named hFits hNamed) h hFits hNamed).2

/-- What is announced with a passage starts with it. -/
theorem Passage.added (h : Passage A K m m') (hFits : m.Fits A) (hEvents : m'.events = m.events ++ news)
    {n : Nat} (hAdded : .activeConnectionAdded n ∈ news) :
    K (.launches n) ∧ ∃ x r, m'.requestOn? x = some r ∧ r.id = n := by
  cases h with
  | @turn _ id s news' effects hTurns hEpisode hMarks =>
    rw [hTurns.events, List.append_cancel_left_eq] at hEvents
    rw [← hTurns.here] at hEpisode
    rcases mem_news hEpisode (hEvents ▸ hAdded) with hAside | ⟨_, _, _, hEq⟩ | ⟨_, -, -, hEq⟩
    · cases hAside
    · cases hEq
    · cases hEq
  | @quiet _ news' hFits' hSites hEvents' hNews =>
    rw [hEvents', List.append_cancel_left_eq] at hEvents
    cases hNews _ (hEvents ▸ hAdded)
  | @launch id number d spec hK hd hState hNone hOrphan hQueue hCheck hFresh =>
    obtain ⟨-, -, -, hSite⟩ := hFits.launched spec hd hState hNone hQueue hCheck hFresh
    rw [hFits.launched_events spec hd hState hNone hQueue hCheck hFresh,
      List.append_cancel_left_eq] at hEvents
    subst hEvents
    rw [List.mem_pair] at hAdded
    rcases hAdded with hEq | hEq
    · cases hEq
      exact ⟨hK, id, _, congrArg Site.request ((hSite id).trans (if_pos rfl)), rfl⟩
    · cases hEq
  | come =>
    have hNews : _ = news := List.append_cancel_left hEvents
    rw [← hNews, List.mem_singleton] at hAdded
    cases hAdded
  | go =>
    have hNews : _ = news := List.append_cancel_left hEvents
    rw [← hNews, List.mem_singleton] at hAdded
    cases hAdded
  | close =>
    have hNews : _ = news := List.append_cancel_left hEvents
    rw [← hNews] at hAdded
    obtain ⟨d, -, hEq⟩ := List.mem_map.mp hAdded
    cases hEq
  | pardon =>
    rw [show news = [] from List.self_eq_append_right.mp hEvents] at hAdded
    cases hAdded
  | forgive =>
    rw [show news = [] from List.self_eq_append_right.mp hEvents] at hAdded
    cases hAdded

-- ---------------------------------------------------------------------------
-- Operations
-- ---------------------------------------------------------------------------

/-- What an operation publishes. -/
def report (m : Manager) (operation : Operation) : List ManagerEvent :=
  (m.operate operation).events.drop m.events.length

theorem report_eq (hEvents : (m.operate operation).events = m.events ++ news) :
    m.report operation = news := by
  unfold report
  rw [hEvents, List.drop_left]

/-- What was announced since a manager had its next number is there. -/
def Heralds (m₀ m : Manager) (told : List ManagerEvent) : Prop :=
  ∀ n, .activeConnectionAdded n ∈ told → m₀.nextRequest ≤ n ∧ ∃ x r, m.requestOn? x = some r ∧ r.id = n

/-- A request that started in an operation does not end in it. -/
theorem Heralds.next {m₀ : Manager} {told : List ManagerEvent} (h : Heralds m₀ m told)
    (hPassage : Passage A (m₀.Grants operation) m m') (hFits : m.Fits A)
    (hEvents : m'.events = m.events ++ news) : Heralds m₀ m' (told ++ news) := by
  intro n hAdded
  rcases List.mem_append.mp hAdded with hIn | hIn
  · obtain ⟨hNew, x, r, hr, rfl⟩ := h n hIn
    refine ⟨hNew, x, ?_⟩
    cases hPassage.fate_of hFits hEvents x with
    | stays hSite => exact ⟨r, (congrArg Site.request hSite).trans hr, rfl⟩
    | turns hEpisode =>
      exact hEpisode.lasts hr (fun hK => Nat.not_lt.mpr hNew hK.1) fun _ hK => Nat.not_lt.mpr hNew hK.1
    | starts hK hd hState hFree =>
      rw [hFree.1] at hr
      cases hr
    | comes hNew hUnused hSite => exact ⟨r, (congrArg Site.request hSite).trans hr, rfl⟩
    | goes hNone =>
      rw [hNone] at hr
      cases hr
  · exact hPassage.added hFits hEvents hIn

/-- A manager at rest, all of whose connections say which ones they are. -/
structure Informed (A : Nat → String → Prop) (m : Manager) : Prop extends Rested A m where
  stocked : m.Stocked
  stamped : m.Stamped
  named : ∀ r ∈ m.requests, r.Named

theorem Informed.passages (h : m.Informed A) (operation : Operation) :
    Passages A (m.Grants operation) m (m.operate operation) :=
  h.toSettled.operate_passages h.stamped h.stocked.marked operation

theorem Informed.operate (h : m.Informed A) (operation : Operation) : (m.operate operation).Informed A :=
  ⟨h.toRested.operate operation, h.stocked.operate h.toSettled operation,
    (h.passages operation).stamped h.stamped, (h.passages operation).named h.toFits h.named⟩

theorem start_informed (store : StateStore) (allowed : List Nat) (timeout : Option Nat) (epoch : Nat) :
    (start store allowed timeout epoch).Informed A :=
  ⟨start_rested store allowed timeout epoch, start_stocked store allowed timeout epoch,
    fun scope _ _ hFound => (by cases scope <;> cases hFound), fun _ hr => (by cases hr)⟩

/-- Every manager of a run is at rest, and all of its connections say which ones they are. -/
theorem run_informed (h : m.Informed A) (operations : List Operation) :
    (m.run operations).Informed A := by
  induction operations generalizing m with
  | nil => exact h
  | cons operation operations ih => exact ih (h.operate operation)

/-- What an operation announces is there once it is over, and has a number that is new. -/
theorem Informed.operate_announced (h : m.Informed A) {n : Nat}
    (hAdded : .activeConnectionAdded n ∈ m.report operation) :
    m.nextRequest ≤ n ∧ ∃ r ∈ (m.operate operation).requests, r.id = n := by
  obtain ⟨news, hEvents, hHeralds⟩ := Passages.follow (P := Heralds m)
    (fun hPassage hFits hEvents h => h.next hPassage hFits hEvents) (h.passages operation) h.toFits
    [] nofun
  rw [report_eq hEvents] at hAdded
  obtain ⟨hNew, x, r, hr, hId⟩ := hHeralds n hAdded
  exact ⟨hNew, r, (requestOn?_eq_some hr).1, hId⟩

-- ---------------------------------------------------------------------------
-- Runs during which something holds
-- ---------------------------------------------------------------------------

/-- Each operation of a run is one of a kind. -/
def Throughout (P : Manager → Operation → Prop) : Manager → List Operation → Prop
  | _, [] => True
  | m, operation :: operations => P m operation ∧ Throughout P (m.operate operation) operations

theorem throughout_append {P : Manager → Operation → Prop} {before after : List Operation} :
    Throughout P m (before ++ after) ↔ Throughout P m before ∧ Throughout P (m.run before) after := by
  induction before generalizing m with
  | nil => exact ⟨fun h => ⟨trivial, h⟩, And.right⟩
  | cons operation before ih =>
    constructor
    · rintro ⟨hFirst, hRest⟩
      obtain ⟨hBefore, hAfter⟩ := ih.mp hRest
      exact ⟨⟨hFirst, hBefore⟩, hAfter⟩
    · rintro ⟨⟨hFirst, hBefore⟩, hAfter⟩
      exact ⟨hFirst, ih.mpr ⟨hBefore, hAfter⟩⟩

/-- What operations of a kind preserve holds after a run of them. -/
theorem Throughout.run {P : Manager → Operation → Prop} {I : Manager → Prop}
    (hStep : ∀ {m : Manager} {operation : Operation}, I m → P m operation → I (m.operate operation))
    {operations : List Operation} (h : Throughout P m operations) (hStart : I m) :
    I (m.run operations) := by
  induction operations generalizing m with
  | nil => exact hStart
  | cons operation operations ih => exact ih h.2 (hStep hStart h.1)

end Manager

end ScannerHub
