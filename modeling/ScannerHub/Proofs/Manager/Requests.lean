import ScannerHub.Proofs.Activation.Constancy
import ScannerHub.Proofs.Manager.Rest

/-!
# Where requests come from

A request of the manager is one that it had before, or it is new: its number is above all that were
given out, its connection was to be had, and it was announced. What others see of a request changes
only together with an event that says so, and whenever requests come or go the list of active
connections is to be read again.

Nothing of this rests on an invariant: it is what the single steps do, and it goes on from step to
step. So it is said of two moments, with what was published between them.

* `Manager.Since` — an event that was published between two moments;
* `Manager.Continues` — the requests at two moments;
* `Manager.Sustains`, `Manager.Retains` — two moments between which no activation loses its request,
  and no connection comes or goes either;
* `Manager.Admits` — which connections there are to be had.

## Results

* `retains_pump`, `retains_activate` — to work off the queues, and to start an activation;
* `Admits.settle` — to settle.
-/

namespace ScannerHub

/-- Two caches that are equally to be used, with connections at the same paths. -/
structure ConnectionCache.SameStock (c c' : ConnectionCache) : Prop where
  running : c'.running = c.running
  held : ∀ path, (c'.get? path).map Connection.scope = (c.get? path).map Connection.scope

namespace ConnectionCache.SameStock

theorem refl (c : ConnectionCache) : c.SameStock c := ⟨rfl, fun _ => rfl⟩

theorem trans {c c' c'' : ConnectionCache} (h : c.SameStock c') (h' : c'.SameStock c'') :
    c.SameStock c'' :=
  ⟨h'.running.trans h.running, fun path => (h'.held path).trans (h.held path)⟩

/-- A connection takes the place of one of the same service. -/
theorem insert {cache : ConnectionCache} {path : String} {c c₀ : Connection}
    (hScope : c.scope = c₀.scope) (hFound : cache.get? path = some c₀) :
    cache.SameStock { cache with connections := cache.connections.insert path c } := by
  refine ⟨rfl, fun key => ?_⟩
  unfold get? at hFound ⊢
  rw [Dict.get?_insert]
  split
  · rename_i hKey
    rw [← hKey, hFound]
    exact congrArg some hScope
  · rfl

end ConnectionCache.SameStock

namespace Manager

variable {A : Nat → String → Prop} {H : Scope → String → Prop} {m m' m'' : Manager} {id : Nat}

-- ---------------------------------------------------------------------------
-- Two moments
-- ---------------------------------------------------------------------------

/-- An event that was published between two moments. -/
def Since (m m' : Manager) (e : ManagerEvent) : Prop :=
  ∃ news, m'.events = m.events ++ news ∧ e ∈ news

theorem Since.later {e : ManagerEvent} (h : Since m m' e) (hLater : m'.events <+: m''.events) :
    Since m m'' e := by
  obtain ⟨news, hEvents, he⟩ := h
  obtain ⟨more, hMore⟩ := hLater
  exact ⟨news ++ more, by rw [← hMore, hEvents, List.append_assoc], List.mem_append_left _ he⟩

theorem Since.earlier {e : ManagerEvent} (h : Since m' m'' e) (hEarlier : m.events <+: m'.events) :
    Since m m'' e := by
  obtain ⟨news, hEvents, he⟩ := h
  obtain ⟨more, hMore⟩ := hEarlier
  exact ⟨more ++ news, by rw [hEvents, ← hMore, List.append_assoc], List.mem_append_right _ he⟩

/-- Where a request comes from: it was there before, and what others see of it is the same or has been
told of, or it is new. The connections that a new one may have come from are a parameter. -/
inductive Descends (H : Scope → String → Prop) (m m' : Manager) (r' : Request) : Prop where
  | kept {r : Request} (hr : r ∈ m.requests) (hGoes : r.Goes r')
    (hShown : r.Plain → r'.shown = r.shown ∨ Since m m' (.activeConnectionChanged r.id))
  | new (hNumber : m.nextRequest ≤ r'.id) (hBound : r'.id < m'.nextRequest)
    (hHeld : H r'.connection.scope r'.path) (hPlain : r'.Plain) (hAnswered : r'.Answered)
    (hAdded : Since m m' (.activeConnectionAdded r'.id))

/-- The requests at two moments. -/
structure Continues (H : Scope → String → Prop) (m m' : Manager) : Prop where
  nextRequest : m.nextRequest ≤ m'.nextRequest
  events : m.events <+: m'.events
  effects : m.effects <+: m'.effects
  requests : ∀ r' ∈ m'.requests, Descends H m m' r'
  listed : m'.requests.map Request.id = m.requests.map Request.id ∨
    Since m m' .activeConnectionsChanged

theorem Continues.trans (h : Continues H m m') (h' : Continues H m' m'') : Continues H m m'' where
  nextRequest := Nat.le_trans h.nextRequest h'.nextRequest
  events := h.events.trans h'.events
  effects := h.effects.trans h'.effects
  requests r'' hr'' := by
    cases h'.requests r'' hr'' with
    | new hNumber hBound hHeld hPlain hAnswered hAdded =>
      exact .new (Nat.le_trans h.nextRequest hNumber) hBound hHeld hPlain hAnswered
        (hAdded.earlier h.events)
    | @kept r' hr' hGoes' hShown' =>
      cases h.requests r' hr' with
      | @kept r hr hGoes hShown =>
        refine .kept hr (hGoes.trans hGoes') fun hPlain => ?_
        rcases hShown' (hGoes.plain hPlain) with hSame' | hTold'
        · exact (hShown hPlain).imp (fun hSame => hSame'.trans hSame) fun hTold =>
            hTold.later h'.events
        · rw [hGoes.id] at hTold'
          exact Or.inr (hTold'.earlier h.events)
      | new hNumber hBound hHeld hPlain hAnswered hAdded =>
        rw [← hGoes'.id] at hNumber hBound hAdded
        rw [← hGoes'.path, ← hGoes'.scope] at hHeld
        exact .new hNumber (Nat.lt_of_lt_of_le hBound h'.nextRequest) hHeld (hGoes'.plain hPlain)
          (hGoes'.answered hAnswered) (hAdded.later h'.events)
  listed := by
    rcases h'.listed with hSame' | hTold'
    · exact h.listed.imp (fun hSame => hSame'.trans hSame) fun hTold => hTold.later h'.events
    · exact Or.inr (hTold'.earlier h.events)

theorem Continues.mono {H' : Scope → String → Prop} (h : Continues H m m')
    (hHeld : ∀ scope path, H scope path → H' scope path) : Continues H' m m' :=
  ⟨h.nextRequest, h.events, h.effects, fun r' hr' => by
    cases h.requests r' hr' with
    | kept hr hGoes hShown => exact .kept hr hGoes hShown
    | new hNumber hBound hHeld' hPlain hAnswered hAdded =>
      exact .new hNumber hBound (hHeld _ _ hHeld') hPlain hAnswered hAdded, h.listed⟩

/-- Two moments between which no activation loses its request. -/
structure Sustains (H : Scope → String → Prop) (m m' : Manager) : Prop extends Continues H m m' where
  orphans : ∀ id o, m'.orphan? id = some o → m.orphan? id = some o

/-- Two moments between which, besides, no connection comes or goes. -/
structure Retains (H : Scope → String → Prop) (m m' : Manager) : Prop extends Sustains H m m' where
  cache : ∀ scope, (m.cache scope).SameStock (m'.cache scope)

theorem Sustains.trans (h : Sustains H m m') (h' : Sustains H m' m'') : Sustains H m m'' :=
  ⟨h.toContinues.trans h'.toContinues, fun id o hOrphan => h.orphans id o (h'.orphans id o hOrphan)⟩

theorem Sustains.mono {H' : Scope → String → Prop} (h : Sustains H m m')
    (hHeld : ∀ scope path, H scope path → H' scope path) : Sustains H' m m' :=
  ⟨h.toContinues.mono hHeld, h.orphans⟩

theorem Retains.trans (h : Retains H m m') (h' : Retains H m' m'') : Retains H m m'' :=
  ⟨h.toSustains.trans h'.toSustains, fun scope => (h.cache scope).trans (h'.cache scope)⟩

theorem Retains.mono {H' : Scope → String → Prop} (h : Retains H m m')
    (hHeld : ∀ scope path, H scope path → H' scope path) : Retains H' m m' :=
  ⟨h.toSustains.mono hHeld, h.cache⟩

/-- A change of anything but requests, connections and orphans. -/
theorem Continues.of_requests_eq (hRequests : m'.requests = m.requests)
    (hNextRequest : m.nextRequest ≤ m'.nextRequest) (hEvents : m.events <+: m'.events)
    (hEffects : m.effects <+: m'.effects) : Continues H m m' :=
  ⟨hNextRequest, hEvents, hEffects, fun r' hr' =>
    .kept (hRequests ▸ hr') (Request.Goes.refl r') fun _ => Or.inl rfl, Or.inl (by rw [hRequests])⟩

theorem Continues.refl (m : Manager) : Continues H m m :=
  .of_requests_eq rfl (Nat.le_refl _) (List.prefix_refl _) (List.prefix_refl _)

/-- Connections and orphans stay as they are. -/
theorem Continues.retains (h : Continues H m m') (hSystem : m'.system = m.system)
    (hUser : m'.user = m.user) (hOrphans : m'.orphans = m.orphans) : Retains H m m' := by
  refine ⟨⟨h, fun id o hOrphan => ?_⟩, fun scope => ?_⟩
  · unfold orphan? at hOrphan ⊢
    rwa [hOrphans] at hOrphan
  · have hSame : m'.cache scope = m.cache scope := by
      cases scope
      · exact hSystem
      · exact hUser
    rw [hSame]
    exact .refl _

/-- A change of what is neither a request, a connection nor an orphan. -/
theorem Retains.of_eq (hRequests : m'.requests = m.requests)
    (hNextRequest : m'.nextRequest = m.nextRequest) (hSystem : m'.system = m.system)
    (hUser : m'.user = m.user) (hOrphans : m'.orphans = m.orphans)
    (hEvents : m.events <+: m'.events) (hEffects : m.effects <+: m'.effects) : Retains H m m' :=
  Continues.retains (.of_requests_eq hRequests (Nat.le_of_eq hNextRequest.symm) hEvents hEffects)
    hSystem hUser hOrphans

theorem Retains.refl (m : Manager) : Retains H m m :=
  .of_eq rfl rfl rfl rfl rfl (List.prefix_refl _) (List.prefix_refl _)

/-- What is done for each entry of a list. -/
theorem Retains.foldl {α : Type} {step : Manager → α → Manager} (xs : List α)
    (hStep : ∀ m x, Retains H m (step m x)) (m : Manager) : Retains H m (xs.foldl step m) :=
  foldl_rest (P := fun _ m' => Retains H m m') (fun x _ m' h => h.trans (hStep m' x)) xs m
    (Retains.refl m)

-- ---------------------------------------------------------------------------
-- Elementary changes
-- ---------------------------------------------------------------------------

theorem retains_publish (m : Manager) (e : ManagerEvent) : Retains H m (m.publish e) :=
  .of_eq rfl rfl rfl rfl rfl (List.prefix_append _ _) (List.prefix_refl _)

theorem retains_updateState (m : Manager) : Retains H m m.updateState := by
  unfold updateState
  split
  · exact Retains.refl m
  · exact .of_eq rfl rfl rfl rfl rfl (List.prefix_append _ _) (List.prefix_refl _)

/-- A change that others do not see, of devices, requests, or what waits. -/
theorem Continues.of_goes (hRequests : ∀ r' ∈ m'.requests, ∃ r ∈ m.requests, r.Goes r' ∧
      (r.Plain → r'.shown = r.shown ∨ Since m m' (.activeConnectionChanged r.id)))
    (hIds : m'.requests.map Request.id = m.requests.map Request.id)
    (hNextRequest : m'.nextRequest = m.nextRequest) (hEvents : m.events <+: m'.events)
    (hEffects : m.effects <+: m'.effects) : Continues H m m' :=
  ⟨Nat.le_of_eq hNextRequest.symm, hEvents, hEffects, fun r' hr' => by
    obtain ⟨r, hr, hGoes, hShown⟩ := hRequests r' hr'
    exact .kept hr hGoes hShown, Or.inl hIds⟩

theorem deliver_goes {listeners : List Listener} {events : List DeviceEvent} {r' : Request}
    (hr' : r' ∈ (m.deliver listeners events).requests) :
    ∃ r ∈ m.requests, r.Goes r' ∧ r'.shown = r.shown := by
  obtain ⟨r, hr, rfl⟩ := List.mem_map.mp hr'
  refine ⟨r, hr, ?_⟩
  split
  · exact ⟨r.goes_hear events, rfl⟩
  · exact ⟨Request.Goes.refl r, rfl⟩

theorem map_id_deliver (m : Manager) (listeners : List Listener) (events : List DeviceEvent) :
    (m.deliver listeners events).requests.map Request.id = m.requests.map Request.id := by
  show (m.requests.map _).map Request.id = _
  rw [List.map_map]
  refine List.map_congr_left fun r _ => ?_
  show Request.id (if _ then _ else _) = _
  split <;> rfl

theorem retains_updateDevice (m : Manager) (id : Nat) (f : Device → Update) :
    Retains H m (m.updateDevice id f) := by
  unfold Manager.updateDevice
  split
  · exact Retains.refl m
  · rename_i d _
    refine Continues.retains (.of_goes (fun r' hr' => ?_) (map_id_deliver _ _ _) rfl
      (List.prefix_refl _) (List.prefix_refl _)) rfl rfl rfl
    obtain ⟨r, hr, hGoes, hShown⟩ := deliver_goes hr'
    exact ⟨r, hr, hGoes, fun _ => Or.inl hShown⟩

theorem retains_modifyDevice (m : Manager) (id : Nat) (f : Device → Device) :
    Retains H m (m.modifyDevice id f) := by
  unfold Manager.modifyDevice
  split
  · exact Retains.refl m
  · exact .of_eq rfl rfl rfl rfl rfl (List.prefix_refl _) (List.prefix_refl _)

/-- A request that ends is gone, and the list is to be read again. -/
theorem retains_teardown (m : Manager) (id : Nat) (reason : StateReason) :
    Retains H m (m.teardown id reason) := by
  cases hr : m.request? id with
  | none =>
    rw [teardown_absent hr]
    exact Retains.refl m
  | some r =>
    rw [teardown_eq hr]
    exact Continues.retains ⟨Nat.le_refl _, List.prefix_append _ _, List.prefix_append _ _,
      fun r' hr' => .kept (List.mem_filter.mp hr').1 (Request.Goes.refl r') fun _ => Or.inl rfl,
      Or.inr ⟨_, rfl, by simp⟩⟩ rfl rfl rfl

theorem retains_teardownOn (m : Manager) (id : Nat) (reason : StateReason) :
    Retains H m (m.teardownOn id reason) := by
  unfold Manager.teardownOn
  split
  · exact Retains.refl m
  · exact retains_teardown m _ reason

/-- A request that goes on as another version of itself. -/
theorem retains_setRequest {r r' : Request} (hr : r ∈ m.requests) (hGoes : r.Goes r')
    (effects : List Effect) (news : List ManagerEvent)
    (hShown : r.Plain → r'.shown = r.shown ∨ .activeConnectionChanged r.id ∈ news) :
    Retains H m { (m.setRequest r').perform effects with events := m.events ++ news } := by
  have hIds := map_key_replaceFirst Request.id r' m.requests
  refine Continues.retains (.of_goes (fun q' hq' => ?_) hIds rfl (List.prefix_append _ _)
    (List.prefix_append _ _)) rfl rfl rfl
  rcases mem_setRequest hq' with rfl | hq
  · exact ⟨r, hr, hGoes, fun hPlain => (hShown hPlain).imp (fun h => h) fun h => ⟨news, rfl, h⟩⟩
  · exact ⟨q', hq, Request.Goes.refl q', fun _ => Or.inl rfl⟩

/-- Another version of a request that looks the same. -/
theorem retains_setRequest_shown {r r' : Request} (hr : r ∈ m.requests) (hGoes : r.Goes r')
    (hShown : r'.shown = r.shown) (effects : List Effect) :
    Retains H m ((m.setRequest r').perform effects) := by
  have h : Retains H m { (m.setRequest r').perform effects with events := m.events ++ [] } :=
    retains_setRequest hr hGoes effects [] fun _ => Or.inl hShown
  rw [List.append_nil] at h
  exact h

theorem retains_processRequest (m : Manager) (id : Nat) : Retains H m (m.processRequest id) := by
  cases hr : m.request? id with
  | none =>
    unfold Manager.processRequest
    rw [hr]
    exact Retains.refl m
  | some r =>
    obtain ⟨hMem, rfl⟩ := request?_eq_some hr
    obtain ⟨hGoes, hShown⟩ := r.processEvents_shown
    unfold Manager.processRequest
    rw [hr]
    dsimp only
    by_cases hChanged : r.processEvents.stateChanged = true
    · rw [if_pos hChanged]
      exact retains_setRequest hMem hGoes r.processEvents.effects [.activeConnectionChanged r.id]
        fun _ => Or.inr List.mem_cons_self
    · rw [if_neg hChanged]
      have h : Retains H m { (m.setRequest r.processEvents.request).perform r.processEvents.effects
          with events := m.events ++ [] } :=
        retains_setRequest hMem hGoes _ [] fun hPlain =>
          Or.inl ((hShown hPlain).resolve_right hChanged)
      rw [List.append_nil] at h
      exact h

theorem retains_processRequests (m : Manager) : Retains H m m.processRequests :=
  Retains.foldl m.requests (fun m r => retains_processRequest m r.id) m

theorem retains_dropOrphan (m : Manager) (id : Nat) : Retains H m (m.dropOrphan id) := by
  refine ⟨⟨.of_requests_eq rfl (Nat.le_refl _) (List.prefix_refl _) (List.prefix_refl _),
    fun x o hOrphan => ?_⟩, fun scope => .refl _⟩
  rw [orphan?_dropOrphan] at hOrphan
  split at hOrphan
  · cases hOrphan
  · exact hOrphan

theorem retains_markInvalid (m : Manager) (uuid : String) : Retains H m (m.markInvalid uuid) := by
  unfold Manager.markInvalid
  split
  · exact Retains.refl m
  · exact .of_eq rfl rfl rfl rfl rfl (List.prefix_refl _) (List.prefix_refl _)

theorem sustains_setCache (m : Manager) (scope : Scope) (cache : ConnectionCache) :
    Sustains H m (m.setCache scope cache) := by
  cases scope <;>
    exact ⟨.of_requests_eq rfl (Nat.le_refl _) (List.prefix_refl _) (List.prefix_refl _),
      fun _ _ hOrphan => hOrphan⟩

/-- A connection that is used is one that was there. -/
theorem retains_updateTimestamp (m : Manager) (id : Nat) : Retains H m (m.updateTimestamp id) := by
  unfold Manager.updateTimestamp
  split
  · exact Retains.refl m
  · rename_i r _
    dsimp only
    split
    · exact Retains.refl m
    · rename_i c hFound
      generalize r.connection.scope = origin at hFound ⊢
      refine ⟨sustains_setCache m _ _, fun scope => ?_⟩
      rw [cache_setCache]
      split
      · rename_i hOrigin
        rw [hOrigin]
        have hScope : (c.setTimestamp (.ofNat m.clockSeconds)).scope = c.scope := rfl
        exact .insert hScope hFound
      · exact .refl _

-- ---------------------------------------------------------------------------
-- Working off the queues
-- ---------------------------------------------------------------------------

theorem retains_schedule (m : Manager) (id : Nat) : Retains H m (m.schedule id) := by
  unfold Manager.schedule
  split
  · exact Retains.refl m
  · split
    · exact Retains.refl m
    · split
      · exact .of_eq rfl rfl rfl rfl rfl (List.prefix_refl _) (List.prefix_refl _)
      · exact Retains.refl m

theorem retains_scheduleAll (m : Manager) : Retains H m m.scheduleAll :=
  Retains.foldl m.devices (fun m d => retains_schedule m d.id) m

theorem retains_failOrphan (m : Manager) (id : Nat) : Retains H m (m.failOrphan id) := by
  unfold Manager.failOrphan
  split
  · exact Retains.refl m
  · dsimp only
    split
    · exact retains_dropOrphan m id
    · exact (retains_dropOrphan m id).trans (retains_markInvalid _ _)

theorem retains_failRequest (m : Manager) (id : Nat) (reason : StateReason) :
    Retains H m (m.failRequest id reason) := by
  unfold Manager.failRequest
  split
  · exact Retains.refl m
  · dsimp only
    split
    · exact retains_teardown m _ reason
    · exact (retains_markInvalid m _).trans (retains_teardown _ _ reason)

theorem retains_followState (m : Manager) (id : Nat) (new : DeviceState) (reason : StateReason) :
    Retains H m (m.followState id new reason) := by
  cases new with
  | activated => exact retains_updateTimestamp m id
  | failed =>
    exact ((retains_failOrphan m id).trans (retains_failRequest _ id reason)).trans
      (retains_updateDevice _ id _)
  | disconnected => exact (retains_teardownOn m id reason).trans (retains_schedule _ id)
  | unavailable => exact retains_teardownOn m id reason
  | unmanaged => exact retains_teardownOn m id reason
  | unknown => exact Retains.refl m
  | prepare => exact Retains.refl m
  | config => exact Retains.refl m
  | needAuth => exact Retains.refl m
  | ipConfig => exact Retains.refl m

theorem retains_failUnansweredAuth (m : Manager) (id : Nat) :
    Retains H m (m.failUnansweredAuth id) := by
  unfold Manager.failUnansweredAuth
  split
  · exact Retains.refl m
  · exact retains_updateDevice m id _

theorem retains_handleEvent (m : Manager) (e : DeviceEvent) : Retains H m (m.handleEvent e) := by
  cases e with
  | linkRequested id request => exact retains_publish m _
  | needSecrets id need => exact retains_failUnansweredAuth m id
  | stateChanged id new old reason =>
    have hAnnounced : Retains H m (m.announced id new old reason) := by
      unfold announced
      dsimp only
      split
      · exact (retains_publish m _).trans (retains_publish _ _)
      · exact retains_publish m _
    have hDropped : Retains H m (if !new.isActive && new != .failed then
        (m.announced id new old reason).dropOrphan id else m.announced id new old reason) := by
      split
      · exact hAnnounced.trans (retains_dropOrphan _ id)
      · exact hAnnounced
    exact (hDropped.trans (retains_followState _ id new reason)).trans (retains_updateState _)

/-- To work off all queues brings no request, and none of the connections goes. -/
theorem retains_pump (m : Manager) : Retains H m m.pump :=
  pump_preserves (P := fun m' => Retains H m m')
    (fun m' h => h.trans (retains_processRequests m'))
    (fun m' e rest h _ =>
      have hTaken : Retains H m' { m' with queue := rest } :=
        .of_eq rfl rfl rfl rfl rfl (List.prefix_refl _) (List.prefix_refl _)
      (h.trans hTaken).trans (retains_handleEvent _ e))
    (Retains.refl m)

-- ---------------------------------------------------------------------------
-- Activations
-- ---------------------------------------------------------------------------

/-- A request whose device starts is new; one that its device refuses is never there. -/
theorem Retains.register {m₀ : Manager} {r : Request} (h : Retains H m₀ m)
    (hNumber : m₀.nextRequest ≤ r.id) (hBound : r.id < m.nextRequest)
    (hHeld : H r.connection.scope r.path) (hPlain : r.Plain) (hAnswered : r.Answered)
    (listeners : List Listener) (u : Update) : Retains H m₀ (m.register r listeners u).1 := by
  unfold Manager.register
  split
  · have hRefused : Retains H m ((m.setDevice (r.leave u.device)).perform (r.detach .configFailed).2) :=
      .of_eq rfl rfl rfl rfl rfl (List.prefix_refl _) (List.prefix_append _ _)
    exact h.trans hRefused
  · let joined := m.joined r listeners u
    let m' := (joined.publish (.activeConnectionAdded r.id)).publish .activeConnectionsChanged
    have hEvents : m'.events =
        m.events ++ [.activeConnectionAdded r.id, .activeConnectionsChanged] :=
      List.append_assoc _ [_] [_]
    have hNews : m.events <+: m'.events := ⟨_, hEvents.symm⟩
    have hSince : ∀ e ∈ [ManagerEvent.activeConnectionAdded r.id, .activeConnectionsChanged],
        Since m₀ m' e := by
      intro e he
      have hNew : Since m m' e := ⟨_, hEvents, he⟩
      exact hNew.earlier h.events
    refine ⟨⟨⟨h.nextRequest, h.events.trans hNews, h.effects, fun q' hq' => ?_,
      Or.inr (hSince _ (by simp))⟩, h.orphans⟩, h.cache⟩
    obtain ⟨q, hq, hGoes, hShown⟩ := deliver_goes (m := { m.setDevice u.device with
      requests := m.requests ++ [r] }) hq'
    rcases List.mem_append.mp hq with hOld | hNew
    · have hTold := h.requests q hOld
      cases hTold with
      | kept hr hGoes' hShown' =>
        refine .kept hr (hGoes'.trans hGoes) fun hPlain => ?_
        exact (hShown' hPlain).imp hShown.trans fun hChanged => hChanged.later hNews
      | new hNumber' hBound' hHeld' hPlain' hAnswered' hAdded' =>
        refine .new ?_ ?_ ?_ (hGoes.plain hPlain') (hGoes.answered hAnswered') ?_
        · rwa [hGoes.id]
        · rwa [hGoes.id]
        · rwa [hGoes.path, hGoes.scope]
        · rw [hGoes.id]
          exact hAdded'.later hNews
    · rw [List.mem_singleton] at hNew
      subst hNew
      refine .new ?_ ?_ ?_ (hGoes.plain hPlain) (hGoes.answered hAnswered) ?_
      · rwa [hGoes.id]
      · rwa [hGoes.id]
      · rwa [hGoes.path, hGoes.scope]
      · rw [hGoes.id]
        exact hSince _ (by simp)

theorem Retains.launch {m₀ : Manager} {number : Nat} {spec : RequestSpec} (h : Retains H m₀ m)
    (hNumber : m₀.nextRequest ≤ number) (hBound : number < m.nextRequest)
    (hHeld : H spec.connection.scope spec.path) (d : Device) :
    Retains H m₀ (m.launch number d spec).1 :=
  h.register (r := (m.starting number d spec).1) hNumber hBound hHeld (fun _ => ⟨rfl, rfl⟩)
    (fun hSome => (by cases hSome)) _ _

/-- After the request that held the device has ended, a number is given out and the device is
cleared. -/
theorem retains_freed (m : Manager) (device : Nat) :
    Retains H (m.teardownOn device .userRequested) (m.cleared device) ∧
      (m.teardownOn device .userRequested).nextRequest < (m.cleared device).nextRequest := by
  unfold Manager.cleared Manager.halted
  dsimp only
  generalize m.teardownOn device .userRequested = ended
  have hNumbered : Retains H ended { ended with nextRequest := ended.nextRequest + 1 } :=
    Continues.retains (.of_requests_eq rfl (Nat.le_succ _) (List.prefix_refl _) (List.prefix_refl _))
      rfl rfl rfl
  have hStopped := (retains_updateDevice (H := H) { ended with nextRequest := ended.nextRequest + 1 }
    device fun d => d.deactivate .userRequested).trans (retains_pump _)
  exact ⟨hNumbered.trans hStopped, hStopped.nextRequest⟩

/-- An activation starts a connection that was to be had. -/
theorem retains_activate (m : Manager) {device : Nat} {scope : Scope} {path : String}
    (hHeld : ∀ c, (m.cache scope).get? path = some c → H c.scope path) (specific : Option String)
    (userRequested : Bool) : Retains H m (m.activate device scope path specific userRequested).1 := by
  rcases m.activate_cases device scope path specific userRequested with
    ⟨e, hFailed⟩ | ⟨connection, d, hFound, hd, hOk⟩
  · rw [hFailed]
    exact Retains.refl m
  · have hEnded := retains_teardownOn (H := H) m device .userRequested
    obtain ⟨hFreed, hNumber⟩ := retains_freed (H := H) m device
    have hReady : Retains H m { m.cleared device with
        pending := (m.cleared device).pending.filter fun p => p != device } :=
      (hEnded.trans hFreed).trans
        (.of_eq rfl rfl rfl rfl rfl (List.prefix_refl _) (List.prefix_refl _))
    cases hd' : (m.cleared device).device? device with
    | some d' =>
      rw [activate_eq hFound hd hOk hd']
      exact hReady.launch hEnded.nextRequest hNumber (hHeld connection hFound) d'
    | none =>
      unfold Manager.activate
      rw [hFound, hd]
      dsimp only
      rw [hOk]
      dsimp only
      split
      · exact hReady
      · rename_i e he
        rw [show (m.cleared device).device? device = some e from he] at hd'
        cases hd'

-- ---------------------------------------------------------------------------
-- Settling
-- ---------------------------------------------------------------------------

/-- The connections that are to be had are among those of a kind. -/
def Admits (H : Scope → String → Prop) (m : Manager) : Prop :=
  ∀ scope path c, (m.cache scope).running = true → (m.cache scope).get? path = some c →
    H c.scope path

theorem Admits.same (h : m.Admits H) (hCache : ∀ scope, (m.cache scope).SameStock (m'.cache scope)) :
    m'.Admits H := by
  intro scope path c hRunning hFound
  have hHeld := (hCache scope).held path
  rw [hFound, Option.map_some] at hHeld
  obtain ⟨c₀, hFound₀, hScope⟩ := Option.map_eq_some_iff.mp hHeld.symm
  rw [← hScope]
  exact h scope path c₀ ((hCache scope).running ▸ hRunning) hFound₀

theorem Admits.retains (h : m.Admits H) (hRetains : Retains H m m') : m'.Admits H :=
  h.same hRetains.cache

theorem Admits.autoActivate (h : m.Admits H) (id : Nat) : Retains H m (m.autoActivate id) := by
  unfold Manager.autoActivate
  split
  · exact Retains.refl m
  · split
    · exact Retains.refl m
    · split
      · exact Retains.refl m
      · split
        · exact Retains.refl m
        · rename_i scope path hChoice
          obtain ⟨c, hRunning, -⟩ := autoChoice?_some hChoice
          exact retains_activate m (fun c hFound => h scope path c hRunning hFound) none false

theorem Admits.startPending (h : m.Admits H) (id : Nat) : Retains H m (m.startPending id) := by
  have hFlag := retains_modifyDevice (H := H) m id fun d => { d with activationScheduled := false }
  exact hFlag.trans ((h.retains hFlag).autoActivate id)

theorem Admits.settleRounds (h : m.Admits H) (n : Nat) : Retains H m (settleRounds n m) := by
  induction n generalizing m with
  | zero => exact Retains.refl m
  | succ n ih =>
    have hPump := retains_pump (H := H) m
    unfold Manager.settleRounds
    dsimp only
    split
    · exact hPump
    · have hTaken : Retains H m { m.pump with pending := [] } :=
        hPump.trans (.of_eq rfl rfl rfl rfl rfl (List.prefix_refl _) (List.prefix_refl _))
      have hRound := foldl_rest (P := fun _ m' => Retains H m m')
        (fun id _ m' hm' => hm'.trans ((h.retains hm').startPending id)) m.pump.pending _ hTaken
      exact hRound.trans (ih (h.retains hRound))

/-- To settle brings requests for connections that are to be had, and none of these goes. -/
theorem Admits.settle (h : m.Admits H) : Retains H m m.settle :=
  (h.settleRounds m.roundBound).trans (retains_updateState _)

/-- Once the queues are worked off, what is due starts. -/
theorem Admits.settle_pump (h : m.Admits H) : Retains H m.pump m.settle := by
  refine Retains.trans ?_ (retains_updateState _)
  have hPumped := h.retains (retains_pump (H := H) m)
  unfold Manager.roundBound Manager.settleRounds
  dsimp only
  split
  · exact Retains.refl m.pump
  · have hTaken : Retains H m.pump { m.pump with pending := [] } :=
      .of_eq rfl rfl rfl rfl rfl (List.prefix_refl _) (List.prefix_refl _)
    have hRound := foldl_rest (P := fun _ m' => Retains H m.pump m')
      (fun id _ m' hm' => hm'.trans ((hPumped.retains hm').startPending id)) m.pump.pending _ hTaken
    exact hRound.trans ((hPumped.retains hRound).settleRounds _)

theorem Retains.settle (h : Retains H m m') (hAdmits : m.Admits H) : Retains H m m'.settle :=
  h.trans (hAdmits.retains h).settle

end Manager

end ScannerHub
