import ScannerHub.Proofs.Data.Dict
import ScannerHub.Proofs.Device.Motions
import ScannerHub.Proofs.Manager.Calls
import ScannerHub.Proofs.Manager.Replay
import ScannerHub.Proofs.Manager.Terms

/-!
# Confinement

While all that is under way belongs to one device, everything else keeps its value and its place,
whatever the manager does: the other devices and requests, the orphans of other devices, and what
is left out of automatic activations. Of cached connections only the time of their last use may change.

That holds as long as nothing under way fails and nothing asks for secrets. A device that starts or
stops tells of neither, so nothing that follows from it does.

* `DeviceEvent.isMild` — an event tells of a stop, or of an activation that goes on without help;
* `Manager.Beside` — two moments between which nothing has changed beside one device;
* `Manager.Hosts` — all that is under way belongs to one device, and is mild.

## Results

* `Coherent.confines_pump` — the queues are worked off;
* `Coherent.confines_settle` — the manager settles;
* `Settled.confines_addDevice`, `Coherent.confines_removeDevice` — a device comes, or goes.
-/

namespace ScannerHub

-- ---------------------------------------------------------------------------
-- Connections that were used
-- ---------------------------------------------------------------------------

/-- Only the last time counts. -/
theorem Connection.setTimestamp_setTimestamp (c : Connection) (time time' : UInt64) :
    (c.setTimestamp time).setTimestamp time' = c.setTimestamp time' := by
  unfold setTimestamp
  cases hMap : c.settings.get? connectionSettingName with
  | none =>
    dsimp only
    rw [hMap]
  | some map =>
    dsimp only
    rw [Dict.get?_insert, if_pos rfl]
    dsimp only
    rw [Dict.insert_insert, Dict.insert_insert]

namespace ConnectionCache

/-- The same connections, some of which were used meanwhile. -/
structure Restamped (cache cache' : ConnectionCache) : Prop where
  running : cache'.running = cache.running
  connections : ∀ path, cache'.get? path = cache.get? path ∨
    ∃ c time, cache.get? path = some c ∧ cache'.get? path = some (c.setTimestamp time)

theorem Restamped.refl (cache : ConnectionCache) : cache.Restamped cache :=
  ⟨rfl, fun _ => Or.inl rfl⟩

theorem Restamped.trans {cache cache' cache'' : ConnectionCache} (h : cache.Restamped cache')
    (h' : cache'.Restamped cache'') : cache.Restamped cache'' := by
  refine ⟨h'.running.trans h.running, fun path => ?_⟩
  rcases h.connections path, h'.connections path with
    ⟨hSame | ⟨c, time, hOld, hNew⟩, hSame' | ⟨c', time', hOld', hNew'⟩⟩
  · exact Or.inl (hSame'.trans hSame)
  · exact Or.inr ⟨c', time', hSame ▸ hOld', hNew'⟩
  · exact Or.inr ⟨c, time, hOld, hSame'.trans hNew⟩
  · rw [hNew] at hOld'
    cases hOld'
    exact Or.inr ⟨c, time', hOld, by rw [hNew', Connection.setTimestamp_setTimestamp]⟩

end ConnectionCache

-- ---------------------------------------------------------------------------
-- Mild events
-- ---------------------------------------------------------------------------

/-- Whether an event tells of a stop, or of an activation that goes on without help. -/
def DeviceEvent.isMild (e : DeviceEvent) : Bool := e.halts || e.isCalm

theorem DeviceEvent.isMild_of_halts {e : DeviceEvent} (h : e.halts = true) : e.isMild = true := by
  unfold isMild
  rw [h, Bool.true_or]

theorem DeviceEvent.isMild_of_isCalm {e : DeviceEvent} (h : e.isCalm = true) : e.isMild = true := by
  unfold isMild
  rw [h, Bool.or_true]

theorem Exchange.ofEffects_append (effects more : List Effect) :
    ofEffects (effects ++ more) = ofEffects effects ++ ofEffects more :=
  List.filterMap_append

namespace Request

theorem handleEvent_mild (r : Request) {e : DeviceEvent} (he : e.isMild = true) :
    (r.handleEvent e).1.secrets = r.secrets ∧ Exchange.ofEffects (r.handleEvent e).2 = [] := by
  cases e with
  | stateChanged device new old reason => exact (r.followState_calls new reason).2
  | needSecrets device need => cases he
  | linkRequested device request => exact ⟨rfl, rfl⟩

/-- A request that hears of mild events only makes no call, and keeps the one that it made. -/
theorem processEvents_mild (r : Request) (h : ∀ e ∈ r.queue, e.isMild = true) :
    r.processEvents.request.secrets = r.secrets ∧
      Exchange.ofEffects r.processEvents.effects = [] := by
  let P : List DeviceEvent → Progress → Prop := fun rest p =>
    (∀ e ∈ rest, e.isMild = true) ∧ p.request.secrets = r.secrets ∧
      Exchange.ofEffects p.effects = []
  have hStep : ∀ e rest p, P (e :: rest) p → P rest (p.advance e) := by
    rintro e rest p ⟨hMild, hSecrets, hEffects⟩
    obtain ⟨hKept, hSilent⟩ := p.request.handleEvent_mild (hMild e List.mem_cons_self)
    refine ⟨fun e he => hMild e (List.mem_cons_of_mem _ he), hKept.trans hSecrets, ?_⟩
    show Exchange.ofEffects (p.effects ++ (p.request.handleEvent e).2) = []
    rw [Exchange.ofEffects_append, hEffects, hSilent]
    rfl
  exact (foldl_rest (P := P) hStep r.queue _ ⟨h, rfl, rfl⟩).2

end Request

namespace Manager

variable {A : Nat → String → Prop} {m m' m'' : Manager} {x : Nat}

-- ---------------------------------------------------------------------------
-- Beside one device
-- ---------------------------------------------------------------------------

/-- Two moments between which nothing has changed beside one device, but that connections were used.
What may differ besides are the numbers given out, the state of the whole, what waits and what is told. -/
structure Beside (x : Nat) (m m' : Manager) : Prop where
  devices : (m'.devices.filter fun d => d.id != x) = m.devices.filter fun d => d.id != x
  requests : (m'.requests.filter fun r => r.device != x) = m.requests.filter fun r => r.device != x
  orphans : (m'.orphans.filter fun o => o.1 != x) = m.orphans.filter fun o => o.1 != x
  caches : ∀ scope, (m.cache scope).Restamped (m'.cache scope)
  invalid : m'.invalid = m.invalid
  sleeping : m'.sleeping = m.sleeping
  networkingEnabled : m'.networkingEnabled = m.networkingEnabled
  terms : m'.terms = m.terms
  store : m'.store = m.store
  epoch : m'.epoch = m.epoch
  exchanges : Exchange.ofEffects m'.effects = Exchange.ofEffects m.effects

theorem Beside.refl (x : Nat) (m : Manager) : Beside x m m :=
  ⟨rfl, rfl, rfl, fun _ => .refl _, rfl, rfl, rfl, rfl, rfl, rfl, rfl⟩

theorem Beside.trans (h : Beside x m m') (h' : Beside x m' m'') : Beside x m m'' where
  devices := h'.devices.trans h.devices
  requests := h'.requests.trans h.requests
  orphans := h'.orphans.trans h.orphans
  caches scope := (h.caches scope).trans (h'.caches scope)
  invalid := h'.invalid.trans h.invalid
  sleeping := h'.sleeping.trans h.sleeping
  networkingEnabled := h'.networkingEnabled.trans h.networkingEnabled
  terms := h'.terms.trans h.terms
  store := h'.store.trans h.store
  epoch := h'.epoch.trans h.epoch
  exchanges := h'.exchanges.trans h.exchanges

/-- All that is under way belongs to one device. Nothing of it fails, and nothing asks for secrets. -/
structure Hosts (x : Nat) (m : Manager) : Prop where
  queue : ∀ e ∈ m.queue, e.device = x ∧ e.isMild = true
  pending : ∀ y ∈ m.pending, y = x
  /-- The request on the device waits for no secrets, and has mild events to look at. -/
  guest : ∀ r ∈ m.requests, r.device = x → r.secrets = none ∧ ∀ e ∈ r.queue, e.isMild = true
  others : ∀ r ∈ m.requests, r.device ≠ x → r.queue = []

/-- Two moments between which everything has happened to one device, with only that under way. -/
structure Confines (x : Nat) (m m' : Manager) : Prop where
  beside : Beside x m m'
  hosts : Hosts x m'

theorem Hosts.confines (h : Hosts x m) : Confines x m m := ⟨.refl x m, h⟩

theorem Confines.trans (h : Confines x m m') (h' : Confines x m' m'') : Confines x m m'' :=
  ⟨h.beside.trans h'.beside, h'.hosts⟩

theorem Hosts.of_subset (h : Hosts x m) (hQueue : m'.queue ⊆ m.queue)
    (hPending : m'.pending ⊆ m.pending) (hRequests : m'.requests ⊆ m.requests) : Hosts x m' where
  queue e he := h.queue e (hQueue he)
  pending y hy := h.pending y (hPending hy)
  guest r hr := h.guest r (hRequests hr)
  others r hr := h.others r (hRequests hr)

theorem Hosts.note (h : Hosts x m) (hBeside : Beside x m m') (hRests : Rests m m')
    (hRequests : m'.requests = m.requests) : Confines x m m' :=
  ⟨hBeside, h.of_subset (fun _ he => hRests.queue ▸ he) (fun _ hy => hRests.pending ▸ hy)
    fun _ hr => hRequests ▸ hr⟩

theorem Hosts.publish (h : Hosts x m) (event : ManagerEvent) : Confines x m (m.publish event) :=
  h.note { Beside.refl x m with } ⟨rfl, rfl⟩ rfl

-- ---------------------------------------------------------------------------
-- Elementary changes
-- ---------------------------------------------------------------------------

/-- Changes that leave alone whatever is kept change nothing that is kept. -/
theorem filter_map_beside {α : Type} {f : α → α} {p : α → Bool} (xs : List α)
    (h : ∀ a ∈ xs, p (f a) = p a ∧ (p a = true → f a = a)) : (xs.map f).filter p = xs.filter p := by
  rw [List.filter_map, List.filter_congr (p := p ∘ f) (q := p) fun a ha => (h a ha).1]
  refine (List.map_congr_left fun a ha => ?_).trans (List.map_id' _)
  obtain ⟨hMem, hIn⟩ := List.mem_filter.mp ha
  exact (h a hMem).2 hIn

theorem filter_concat_beside {α : Type} {p : α → Bool} (xs : List α) {a : α} (h : p a = false) :
    (xs ++ [a]).filter p = xs.filter p := by
  rw [List.filter_append, List.filter_cons_of_neg (Bool.eq_false_iff.mp h), List.filter_nil,
    List.append_nil]

theorem filter_filter_beside {α : Type} (p : α → Bool) (xs : List α) :
    (xs.filter p).filter p = xs.filter p := by
  rw [List.filter_filter]
  simp only [Bool.and_self]

theorem devices_setDevice_beside (m : Manager) {e : Device} (hId : e.id = x) :
    ((m.setDevice e).devices.filter fun d => d.id != x) = m.devices.filter fun d => d.id != x := by
  subst hId
  exact filter_replaceFirst Device.id e m.devices

theorem devices_modifyDevice_beside (m : Manager) {f : Device → Device} (hf : ∀ d, (f d).id = d.id) :
    ((m.modifyDevice x f).devices.filter fun d => d.id != x) =
      m.devices.filter fun d => d.id != x := by
  unfold modifyDevice
  split
  · rfl
  · rename_i d hd
    exact m.devices_setDevice_beside ((hf d).trans (device?_eq_some hd).2)

theorem Hosts.modifyDevice (h : Hosts x m) {f : Device → Device} (hf : ∀ d, (f d).id = d.id) :
    Confines x m (m.modifyDevice x f) := by
  refine h.note ?_ (rests_modifyDevice m x f) ?_
  · have hDevices := m.devices_modifyDevice_beside (x := x) hf
    unfold Manager.modifyDevice at hDevices ⊢
    split
    · exact .refl x m
    · rename_i d hd
      rw [hd] at hDevices
      exact { Beside.refl x m with devices := hDevices }
  · unfold Manager.modifyDevice
    split <;> rfl

theorem Hosts.updateState (h : Hosts x m) : Confines x m m.updateState := by
  refine h.note ?_ (rests_updateState m) (same_updateState m).requests
  unfold Manager.updateState
  split
  · exact .refl x m
  · exact { Beside.refl x m with }

/-- What an operation on a device tells is heard by the request on it, and by the manager. -/
theorem Fits.heard_updateDevice (h : m.Fits A) {d : Device} (hd : m.device? x = some d)
    (f : Device → Update) :
    (m.updateDevice x f).requests =
        m.requests.map (fun r => if r.device = x then r.hear (f d).events else r) ∧
      (m.updateDevice x f).queue = m.queue ++ (f d).events := by
  obtain ⟨hManager, hRequest⟩ := h.mem_listeners hd
  have hEq : m.updateDevice x f = (m.setDevice (f d).device).deliver d.listeners (f d).events := by
    unfold Manager.updateDevice
    rw [hd]
  rw [hEq]
  refine ⟨List.map_congr_left fun r hr => ?_, if_pos hManager⟩
  simp only [hRequest r hr]
  rfl

/-- An operation on the device, which tells mild events. Nobody else hears of them. -/
theorem Fits.confines_updateDevice (h : m.Fits A) (hHosts : Hosts x m) {f : Device → Update}
    (hf : ∀ d : Device, d.AllListen → d.Sound → Device.Carries d (f d))
    (hMild : ∀ d, Device.Tells DeviceEvent.isMild (f d)) : Confines x m (m.updateDevice x f) := by
  cases hd : m.device? x with
  | none =>
    rw [updateDevice_absent hd]
    exact hHosts.confines
  | some d =>
    have hSound := h.sound hd
    have hMoves := hf d hSound.allListen hSound.device
    have hId : d.id = x := (device?_eq_some hd).2
    obtain ⟨hRequests, hQueue⟩ := h.heard_updateDevice hd f
    have hIn : ∀ r' ∈ (m.updateDevice x f).requests, ∃ r ∈ m.requests, r'.device = r.device ∧
        r' = if r.device = x then r.hear (f d).events else r := by
      intro r' hr'
      rw [hRequests] at hr'
      obtain ⟨r, hr, rfl⟩ := List.mem_map.mp hr'
      refine ⟨r, hr, ?_, rfl⟩
      split <;> rfl
    constructor
    · have hDevices := m.devices_setDevice_beside (hMoves.frame.id.trans hId)
      have hOthers : ((m.updateDevice x f).requests.filter fun r => r.device != x) =
          m.requests.filter fun r => r.device != x := by
        rw [hRequests]
        refine filter_map_beside m.requests fun r _ => ?_
        split
        · rename_i hDevice
          exact ⟨rfl, fun hNe => absurd hDevice (bne_iff_ne.mp hNe)⟩
        · exact ⟨rfl, fun _ => rfl⟩
      unfold Manager.updateDevice at hOthers ⊢
      rw [hd] at hOthers ⊢
      exact { Beside.refl x m with devices := hDevices, requests := hOthers }
    · refine ⟨fun e he => ?_, fun y hy => ?_, fun r' hr' hDevice => ?_, fun r' hr' hDevice => ?_⟩
      · rw [hQueue] at he
        rcases List.mem_append.mp he with he | he
        · exact hHosts.queue e he
        · exact ⟨(hMoves.own e he).trans hId, hMild d e he⟩
      · rw [pending_updateDevice] at hy
        exact hHosts.pending y hy
      · obtain ⟨r, hr, hSame, hHears⟩ := hIn r' hr'
        have hGuest : r.device = x := hSame.symm.trans hDevice
        obtain ⟨hSecrets, hLooks⟩ := hHosts.guest r hr hGuest
        rw [hHears, if_pos hGuest]
        refine ⟨hSecrets, fun e he => ?_⟩
        exact (List.mem_append.mp he).elim (hLooks e) (hMild d e)
      · obtain ⟨r, hr, hSame, hHears⟩ := hIn r' hr'
        have hOther : r.device ≠ x := fun hGuest => hDevice (hSame.trans hGuest)
        rw [hHears, if_neg hOther]
        exact hHosts.others r hr hOther

/-- The request on the device ends. It has no call to give up. -/
theorem Linked.confines_teardownOn (h : m.Linked) (hHosts : Hosts x m) (reason : StateReason) :
    Confines x m (m.teardownOn x reason) := by
  unfold Manager.teardownOn
  cases hOn : m.requestOn? x with
  | none => exact hHosts.confines
  | some r =>
    obtain ⟨hMem, hDevice⟩ := requestOn?_eq_some hOn
    have hLeave : ∀ d, (r.leave d).id = d.id := by
      intro d
      unfold Request.leave
      split <;> rfl
    have hRequests : ((m.requests.filter fun q => q.id != r.id).filter fun q => q.device != x) =
        m.requests.filter fun q => q.device != x := by
      rw [List.filter_filter]
      refine List.filter_congr fun q hq => ?_
      by_cases hSame : q.id = r.id
      · rw [h.eq_of_id hq hMem hSame]
        simp [hDevice]
      · simp [hSame]
    have hSilent : Exchange.ofEffects (r.detach reason).2 = [] := by
      rw [Request.detach_effects]
      unfold Request.cancelSecrets
      rw [(hHosts.guest r hMem hDevice).1]
      rfl
    dsimp only
    rw [teardown_eq (h.request?_of_mem hMem), hDevice]
    constructor
    · refine { Beside.refl x m with
        devices := m.devices_modifyDevice_beside hLeave, requests := hRequests, exchanges := ?_ }
      rw [Exchange.ofEffects_append, hSilent, List.append_nil]
    · exact hHosts.of_subset (List.Subset.refl _) (List.Subset.refl _) (List.filter_subset_self _)

theorem Hosts.dropOrphan (h : Hosts x m) : Confines x m (m.dropOrphan x) := by
  refine h.note { Beside.refl x m with orphans := ?_ } ⟨rfl, rfl⟩ rfl
  exact filter_filter_beside (fun o : Nat × Orphan => o.1 != x) m.orphans

/-- The same connections are cached, some of which were used. -/
theorem Beside.setCache (x : Nat) (m : Manager) {scope : Scope} {cache : ConnectionCache}
    (h : (m.cache scope).Restamped cache) : Beside x m (m.setCache scope cache) := by
  have hCaches : ∀ s, (m.cache s).Restamped ((m.setCache scope cache).cache s) := by
    intro s
    cases scope <;> cases s <;> first | exact h | exact .refl _
  cases scope <;> exact { Beside.refl x m with caches := hCaches }

/-- The activation on the device succeeded, and its connection is used now. -/
theorem Hosts.updateTimestamp (h : Hosts x m) : Confines x m (m.updateTimestamp x) := by
  refine h.note ?_ (rests_updateTimestamp m x) (same_updateTimestamp m x).requests
  unfold Manager.updateTimestamp
  split
  · exact .refl x m
  · rename_i r _
    dsimp only
    cases hFound : (m.cache r.connection.scope).get? r.path with
    | none => exact .refl x m
    | some c =>
      refine .setCache x m ⟨rfl, fun path => ?_⟩
      unfold ConnectionCache.get? at hFound ⊢
      dsimp only
      rw [Dict.get?_insert]
      split
      · rename_i hPath
        exact Or.inr ⟨c, _, hPath ▸ hFound, rfl⟩
      · exact Or.inl rfl

theorem Hosts.schedule (h : Hosts x m) : Confines x m (m.schedule x) := by
  obtain ⟨hEq, -⟩ | hEq := m.schedule_cases x
  · rw [hEq]
    exact h.confines
  · rw [hEq]
    have hFlag := h.modifyDevice (f := fun d => { d with activationScheduled := true }) fun _ => rfl
    unfold Manager.enlisted
    refine ⟨{ hFlag.beside with }, { hFlag.hosts with pending := fun y hy => ?_ }⟩
    rcases List.mem_append.mp hy with hy | hy
    · exact h.pending y hy
    · exact List.mem_singleton.mp hy

-- ---------------------------------------------------------------------------
-- Working off the queues
-- ---------------------------------------------------------------------------

/-- A request looks at its events. Only the one on the device has any. -/
theorem Linked.confines_processRequest (h : m.Linked) (hHosts : Hosts x m) (id : Nat) :
    Confines x m (m.processRequest id) := by
  unfold Manager.processRequest
  cases hr : m.request? id with
  | none => exact hHosts.confines
  | some r =>
    obtain ⟨hMem, -⟩ := request?_eq_some hr
    have hFollows := r.processEvents_follows
    have hAway : r.device ≠ x → r.processEvents.request = r := by
      intro hDevice
      have hNone := hHosts.others r hMem hDevice
      unfold Request.processEvents
      rw [hNone]
      exact congrArg (fun queue => { r with queue }) hNone.symm
    obtain ⟨hSecrets, hSilent⟩ := r.processEvents_mild fun e he => by
      by_cases hDevice : r.device = x
      · exact (hHosts.guest r hMem hDevice).2 e he
      · rw [hHosts.others r hMem hDevice] at he
        cases he
    have hLooked : Confines x m
        ((m.setRequest r.processEvents.request).perform r.processEvents.effects) := by
      constructor
      · refine { Beside.refl x m with requests := ?_, exchanges := ?_ }
        · show (m.setRequest r.processEvents.request).requests.filter _ = _
          rw [h.requests_setRequest]
          refine filter_map_beside m.requests fun q hq => ?_
          split
          · rename_i hSame
            obtain rfl := h.eq_of_id hq hMem (hSame.trans hFollows.id)
            exact ⟨by rw [hFollows.device], fun hNe => hAway (bne_iff_ne.mp hNe)⟩
          · exact ⟨rfl, fun _ => rfl⟩
        · show Exchange.ofEffects (m.effects ++ r.processEvents.effects) = _
          rw [Exchange.ofEffects_append, hSilent, List.append_nil]
      · refine ⟨hHosts.queue, hHosts.pending, fun q hq hDevice => ?_, fun q hq hDevice => ?_⟩
        · rcases mem_setRequest hq with rfl | hOld
          · rw [hSecrets, r.queue_processEvents]
            exact ⟨(hHosts.guest r hMem (hFollows.device.symm.trans hDevice)).1, nofun⟩
          · exact hHosts.guest q hOld hDevice
        · rcases mem_setRequest hq with rfl | hOld
          · exact r.queue_processEvents
          · exact hHosts.others q hOld hDevice
    dsimp only
    split
    · exact hLooked.trans (hLooked.hosts.publish _)
    · exact hLooked

theorem Coherent.confines_processRequests (h : m.Coherent A) (hHosts : Hosts x m) :
    Confines x m m.processRequests :=
  (foldl_rest (P := fun _ m' => m'.Coherent A ∧ Confines x m m')
    (fun r _ _ hm' => ⟨hm'.1.processRequest r.id,
      hm'.2.trans (hm'.1.linked.confines_processRequest hm'.2.hosts r.id)⟩)
    m.requests m ⟨h, hHosts.confines⟩).2

/-- What follows from an event of the device happens to the device. -/
theorem Coherent.confines_handleEvent (h : m.Coherent A) (hHosts : Hosts x m) {e : DeviceEvent}
    {rest : List DeviceEvent} (hQueue : m.queue = e :: rest) :
    Confines x m ({ m with queue := rest }.handleEvent e) := by
  obtain ⟨rfl, hMild⟩ := hHosts.queue e (hQueue ▸ List.mem_cons_self)
  have hTaken : Confines e.device m { m with queue := rest } :=
    ⟨{ Beside.refl e.device m with },
      hHosts.of_subset (fun f hf => hQueue ▸ List.mem_cons_of_mem e hf) (fun _ hy => hy) fun _ hr => hr⟩
  cases e with
  | needSecrets id need => cases hMild
  | linkRequested id request => exact hTaken.trans (hTaken.hosts.publish _)
  | stateChanged id new old reason =>
    have hAnnounced := h.toFits.announced hQueue
    have hDropped := (hAnnounced.fits.dropOrphan id).fits.linked
    have hTold : Confines id m ({ m with queue := rest }.announced id new old reason) := by
      have hFirst := hTaken.trans (hTaken.hosts.publish (.deviceStateChanged id new old reason))
      unfold Manager.announced
      dsimp only
      split
      · exact hFirst.trans (hFirst.hosts.publish _)
      · exact hFirst
    have hFreed := hTold.trans hTold.hosts.dropOrphan
    have hEnded := hFreed.trans (hDropped.confines_teardownOn hFreed.hosts reason)
    have hFollow : Confines id m
        ((if !new.isActive && new != DeviceState.failed then
            ({ m with queue := rest }.announced id new old reason).dropOrphan id
          else { m with queue := rest }.announced id new old reason).followState id new reason) := by
      cases new with
      | unknown => cases hMild
      | failed => cases hMild
      | prepare => exact hTold
      | config => exact hTold
      | needAuth => exact hTold
      | ipConfig => exact hTold
      | activated => exact hTold.trans hTold.hosts.updateTimestamp
      | unmanaged => exact hEnded
      | unavailable => exact hEnded
      | disconnected => exact hEnded.trans hEnded.hosts.schedule
    exact hFollow.trans hFollow.hosts.updateState

/-- The queues are worked off. -/
theorem Coherent.confines_pump (h : m.Coherent A) (hHosts : Hosts x m) : Confines x m m.pump := by
  refine (pump_preserves (P := fun m' => m'.Coherent A ∧ Confines x m m') ?_ ?_
    ⟨h, hHosts.confines⟩).2
  · rintro m' ⟨hCoherent, hConfines⟩
    exact ⟨hCoherent.processRequests.1,
      hConfines.trans (hCoherent.confines_processRequests hConfines.hosts)⟩
  · rintro m' e rest ⟨hCoherent, hConfines⟩ hQueue
    exact ⟨hCoherent.handleEvent_coherent hQueue,
      hConfines.trans (hCoherent.confines_handleEvent hConfines.hosts hQueue)⟩

-- ---------------------------------------------------------------------------
-- Activations
-- ---------------------------------------------------------------------------

/-- The device is cleared for an activation. -/
theorem Coherent.confines_cleared (h : m.Coherent A) (hHosts : Hosts x m) {d : Device}
    (hd : m.device? x = some d) (hState : d.state ≠ .unmanaged ∧ d.state ≠ .unavailable) :
    Confines x m (m.cleared x) := by
  obtain ⟨hCoherent, -⟩ := h.halted hd hState
  have hEnded := h.linked.confines_teardownOn hHosts .userRequested
  have hNumbered : Confines x m { m.teardownOn x .userRequested with
      nextRequest := (m.teardownOn x .userRequested).nextRequest + 1 } :=
    hEnded.trans (hEnded.hosts.note { Beside.refl x _ with } ⟨rfl, rfl⟩ rfl)
  have hStopped : Confines x m (m.halted x) :=
    hNumbered.trans ((h.toFits.teardownOn x .userRequested).fits.numbered.confines_updateDevice
      hNumbered.hosts (fun _ => Device.deactivate_carries .userRequested)
      fun d e he => DeviceEvent.isMild_of_halts (Device.deactivate_tells d .userRequested e he))
  exact hStopped.trans (hCoherent.confines_pump hStopped.hosts)

/-- A new request on the device, which starts. -/
theorem Fits.confines_joined (h : m.Fits A) (hHosts : Hosts x m) {d d' : Device} {r : Request}
    {u : Update} (hd : m.device? x = some d) (hNone : m.requestOn? x = none)
    (hQueue : m.queueOf x = []) (hLaunch : Launches x d d' r u) (hFresh : m.Fresh r.id) :
    Confines x m (m.joined r d'.listeners u) := by
  obtain ⟨-, hListeners, -⟩ := h.joined hd hNone hQueue hLaunch hFresh
  have hMild : ∀ e ∈ u.events, e.isMild = true := fun e he =>
    DeviceEvent.isMild_of_isCalm (calm_of_starts hLaunch.starts e he)
  have hRequests := requests_joined hFresh u
  have hIn : ∀ q ∈ (m.joined r (heardBy r) u).requests, q ∈ m.requests ∨ q = r.hear u.events := by
    intro q hq
    rw [hRequests] at hq
    exact (List.mem_append.mp hq).imp_right List.mem_singleton.mp
  rw [hListeners]
  constructor
  · refine { Beside.refl x m with
      devices := m.devices_setDevice_beside (hLaunch.starts.frame.id.trans hLaunch.id), requests := ?_ }
    rw [hRequests]
    exact filter_concat_beside m.requests (bne_eq_false_iff_eq.mpr hLaunch.device)
  · refine ⟨fun e he => ?_, hHosts.pending, fun q hq hDevice => ?_, fun q hq hDevice => ?_⟩
    · rcases List.mem_append.mp (show e ∈ m.queue ++ u.events from he) with he | he
      · exact hHosts.queue e he
      · exact ⟨(hLaunch.starts.own e he).trans hLaunch.id, hMild e he⟩
    · rcases hIn q hq with hOld | rfl
      · exact hHosts.guest q hOld hDevice
      · refine ⟨hLaunch.joins.secrets, fun e he => hMild e ?_⟩
        rwa [Request.hear, hLaunch.joins.queue] at he
    · rcases hIn q hq with hOld | rfl
      · exact hHosts.others q hOld hDevice
      · exact absurd hLaunch.device hDevice

/-- An activation starts on the device. -/
theorem Coherent.confines_activate (h : m.Coherent A) (hHosts : Hosts x m) (scope : Scope)
    (path : String) (specific : Option String) (userRequested : Bool) :
    Confines x m (m.activate x scope path specific userRequested).1 := by
  rcases m.activate_cases x scope path specific userRequested with
    ⟨e, hFailed⟩ | ⟨connection, d, hFound, hd, hOk⟩
  · rw [hFailed]
    exact hHosts.confines
  · obtain ⟨hState, hCheck⟩ := checkActivation_ok hOk
    obtain ⟨hCoherent, hQuiet, hFresh, d', hd', hState', hCheck'⟩ := h.cleared hd hState
    have hCleared := h.confines_cleared hHosts hd hState
    let m₁ : Manager := (m.cleared x).undue x
    have hReady : m₁.Coherent A := hCoherent.same ⟨rfl, rfl, rfl, rfl, rfl, rfl, rfl, fun _ => rfl⟩
    have hUndue : Confines x m m₁ := hCleared.trans
      ⟨{ Beside.refl x _ with }, hCleared.hosts.of_subset (fun _ he => he) (List.filter_subset_self _)
        fun _ hr => hr⟩
    have hIdle : d'.state.isActive = false := by rw [hState']; rfl
    have hNone := hReady.free hd' hIdle (queueOf_nil hQuiet.queue x)
    obtain ⟨hLaunch, hEq⟩ := hReady.toFits.launch_eq
      (m.teardownOn x .userRequested).nextRequest hd' hState'
      { connection, path, specific, userRequested, assumed := false
        timeout := (m.cleared x).activationTimeout, nowait := false }
      ((hCheck' connection).trans hCheck)
    rw [activate_eq hFound hd hOk hd']
    show Confines x m (m₁.launch _ d' _).1
    rw [hEq]
    have hJoined := hUndue.trans (hReady.toFits.confines_joined hUndue.hosts hd' hNone.1
      (queueOf_nil hQuiet.queue x) hLaunch ⟨hFresh.requests, hFresh.calls, hFresh.bound⟩)
    have hAdded := hJoined.trans (hJoined.hosts.publish
      (.activeConnectionAdded (m.teardownOn x .userRequested).nextRequest))
    exact hAdded.trans (hAdded.hosts.publish .activeConnectionsChanged)

-- ---------------------------------------------------------------------------
-- Settling
-- ---------------------------------------------------------------------------

/-- An automatic activation that was due on the device starts. -/
theorem Coherent.confines_startPending (h : m.Coherent A) (hHosts : Hosts x m) :
    Confines x m (m.startPending x) := by
  have hFlag := hHosts.modifyDevice (f := fun d => { d with activationScheduled := false }) fun _ => rfl
  have hCoherent := h.modifyDevice x (f := fun d => { d with activationScheduled := false })
    fun d => ⟨⟨rfl, rfl, rfl, rfl, fun _ => rfl, rfl⟩, rfl, fun h => ⟨h.stop, h.managed, h.hardware⟩⟩
  unfold Manager.startPending
  generalize m.modifyDevice x (fun d => { d with activationScheduled := false }) = m₁
    at hFlag hCoherent ⊢
  unfold Manager.autoActivate
  split
  · exact hFlag
  · split
    · exact hFlag
    · split
      · exact hFlag
      · split
        · exact hFlag
        · exact hFlag.trans (hCoherent.confines_activate hFlag.hosts _ _ _ _)

/-- Round by round, only the device has anything to do. -/
theorem Coherent.confines_settleRounds (h : m.Coherent A) (hHosts : Hosts x m) (n : Nat) :
    Confines x m (Manager.settleRounds n m) := by
  induction n generalizing m with
  | zero => exact hHosts.confines
  | succ n ih =>
    have hPump := h.confines_pump hHosts
    obtain ⟨hPumped, hQuiet⟩ := h.pump
    unfold Manager.settleRounds
    dsimp only
    split
    · exact hPump
    · let m₁ : Manager := { m.pump with pending := [] }
      have hTaken : Confines x m m₁ := hPump.trans
        ⟨{ Beside.refl x m.pump with },
          hPump.hosts.of_subset (fun _ he => he) (List.nil_subset _) fun _ hr => hr⟩
      have hCalm : m₁.Calm := by
        refine ⟨fun e he => ?_, rfl⟩
        rw [show m₁.queue = [] from hQuiet.queue] at he
        cases he
      have hCoherent : m₁.Coherent A :=
        hPumped.same ⟨rfl, rfl, rfl, rfl, rfl, rfl, rfl, fun _ => rfl⟩
      have hStep : ∀ id due m', m'.Coherent A ∧ m'.Calm ∧ Confines x m m' ∧ (∀ y ∈ id :: due, y = x) →
          (m'.startPending id).Coherent A ∧ (m'.startPending id).Calm ∧
            Confines x m (m'.startPending id) ∧ ∀ y ∈ due, y = x := by
        rintro id due m' ⟨hCoherent, hCalm, hConfines, hDue⟩
        obtain rfl := hDue id List.mem_cons_self
        obtain ⟨hNext, hNextCalm⟩ := hCoherent.startPending hCalm id
        exact ⟨hNext, hNextCalm, hConfines.trans (hCoherent.confines_startPending hConfines.hosts),
          fun y hy => hDue y (List.mem_cons_of_mem id hy)⟩
      obtain ⟨hStarted, -, hConfines, -⟩ := foldl_rest
        (P := fun due m' => m'.Coherent A ∧ m'.Calm ∧ Confines x m m' ∧ ∀ y ∈ due, y = x) hStep
        m.pump.pending m₁ ⟨hCoherent, hCalm, hTaken, hPump.hosts.pending⟩
      exact hConfines.trans (ih hStarted hConfines.hosts)

/-- The manager settles. -/
theorem Coherent.confines_settle (h : m.Coherent A) (hHosts : Hosts x m) : Confines x m m.settle := by
  have hRounds := h.confines_settleRounds hHosts m.roundBound
  exact hRounds.trans hRounds.hosts.updateState

-- ---------------------------------------------------------------------------
-- Devices that come and go
-- ---------------------------------------------------------------------------

/-- Nothing is under way in a settled manager, on a device that it does not have least of all. -/
theorem Settled.hosts (h : m.Settled A) (hNone : m.requestOn? x = none) : Hosts x m where
  queue e he := by
    rw [h.queue] at he
    cases he
  pending y hy := by
    rw [h.pending] at hy
    cases hy
  guest r hr hDevice := by
    rw [← hDevice, h.linked.requestOn?_of_mem hr] at hNone
    cases hNone
  others r hr _ := h.looked r hr

/-- A device comes in. -/
theorem Settled.confines_addDevice (h : m.Settled A) {d : Device} (hNew : d.IsNew) :
    Confines m.nextDevice m (m.addDevice d).1 := by
  have hHosts : Hosts m.nextDevice m :=
    h.hosts ((h.toFits.sites m.nextDevice).absent h.linked.device?_nextDevice).1
  by_cases hKnown : m.Knows d
  · rw [addDevice_known hKnown]
    exact hHosts.confines
  · have hUdi : ∀ e ∈ m.devices, e.udi ≠ d.udi := fun e he hEq => hKnown ⟨e, he, Or.inl hEq⟩
    have hAdmitted : (m.admitted d).Coherent A :=
      (h.toCoherent.takenIn h.queue hNew.unused hUdi).same (same_publish _ fun _ => rfl)
    have hCome : Confines m.nextDevice m (m.admitted d) := by
      refine hHosts.note { Beside.refl m.nextDevice m with devices := ?_ } ⟨rfl, rfl⟩ rfl
      exact filter_concat_beside m.devices (bne_self_eq_false m.nextDevice)
    have hManages : ∀ d : Device, d.AllListen → d.Sound →
        Device.Carries d (d.setManaged true .nowManaged) :=
      fun _ => Device.setManaged_carries true .nowManaged
    rw [addDevice_unknown hKnown]
    split
    · exact hCome.trans (hAdmitted.confines_settle hCome.hosts)
    · have hManaged := hCome.trans (hAdmitted.toFits.confines_updateDevice hCome.hosts hManages
        fun d e he => DeviceEvent.isMild_of_halts (d.setManaged_tells true .nowManaged e he))
      exact hManaged.trans ((hAdmitted.updateDevice _ hManages).confines_settle hManaged.hosts)

/-- A device goes, of which nothing fails and which waits for no secrets. -/
theorem Coherent.confines_removeDevice (h : m.Coherent A) (hHosts : Hosts x m) :
    Confines x m (m.removeDevice x) := by
  have hReleases : ∀ d : Device, d.AllListen → d.Sound →
      Device.Carries d (d.setManaged false .removed) :=
    fun _ => Device.setManaged_carries false .removed
  have hEnded := h.linked.confines_teardownOn hHosts .removed
  have hReleased : Confines x m (m.released x) :=
    hEnded.trans ((h.toFits.teardownOn x .removed).fits.confines_updateDevice hEnded.hosts hReleases
      fun d e he => DeviceEvent.isMild_of_halts (d.setManaged_tells false .removed e he))
  have hStopped : (m.released x).Coherent A :=
    h.teardownOn_stop x .removed hReleases fun d hListen hSound => by
      rw [Device.setManaged_false_state .removed hListen hSound]
      rfl
  have hPumped := hReleased.trans (hStopped.confines_pump hReleased.hosts)
  obtain ⟨hLast, -, hQueue, hIdle⟩ := h.released x
  unfold Manager.removeDevice
  change Confines x m (Manager.settle (if ((m.released x).pump.device? x).isSome then
    ((m.released x).pump.dismissed x).publish (.deviceRemoved x) else (m.released x).pump))
  split
  · have hGone := (hLast.dismissed x hIdle (queueOf_nil hQueue x)).1
    have hDismissed : Confines x m ((m.released x).pump.dismissed x) := by
      refine hPumped.trans ⟨{ Beside.refl x _ with devices := ?_ },
        hPumped.hosts.of_subset (fun _ he => he) (List.filter_subset_self _) fun _ hr => hr⟩
      rw [hLast.linked.devices_dismissed]
      exact filter_filter_beside (fun d : Device => d.id != x) (m.released x).pump.devices
    have hTold := hDismissed.trans (hDismissed.hosts.publish (.deviceRemoved x))
    exact hTold.trans ((hGone.same (same_publish _ fun _ => rfl)).confines_settle hTold.hosts)
  · exact hPumped.trans (hLast.confines_settle hPumped.hosts)

end Manager

end ScannerHub
