import ScannerHub.Proofs.Manager.Calls

/-!
# What the choice of the default depends on

Which request should be the default depends on the requests, on the states of their devices and on the
kinds of the devices. All of that may change in an operation, and marks may go. But nothing of it
changes without a word: there is an event about it that the policy looks at, or one that the manager
has yet to tell, and the manager tells all of them before an operation is over.

* `Manager.standing?` — the priority with which a device counts;
* `Manager.Unmoved` — one manager at two times, with nothing changed that the choice depends on;
* `Manager.Stirred` — an event is there that the policy looks at, or will be;
* `Manager.Attentive` — the manager hears of all its devices;
* `Manager.Fades` — no request gains a mark.

## Results

* `Step.attentive`, `Step.stirs`, `Step.fades` — one step;
* `Settled.operate_stirs`, `Settled.operate_fades` — every operation but the one that sets marks.
-/

namespace ScannerHub

-- ---------------------------------------------------------------------------
-- One request
-- ---------------------------------------------------------------------------

namespace Request

/-- The number of a request, its device and its marks. -/
def marking (r : Request) : Nat × Nat × Bool × Bool := (r.id, r.device, r.isDefault, r.isDefault6)

/-- A request with other marks. -/
def marked (r : Request) (default default6 : Bool) : Request :=
  { r with isDefault := default, isDefault6 := default6 }

/-- A request loses marks, at most. -/
structure Wanes (r r' : Request) : Prop where
  isDefault : r'.isDefault = true → r.isDefault = true
  isDefault6 : r'.isDefault6 = true → r.isDefault6 = true

theorem Wanes.refl (r : Request) : r.Wanes r := ⟨fun h => h, fun h => h⟩

theorem Wanes.trans {r r' r'' : Request} (h : r.Wanes r') (h' : r'.Wanes r'') : r.Wanes r'' :=
  ⟨fun hMark => h.isDefault (h'.isDefault hMark), fun hMark => h.isDefault6 (h'.isDefault6 hMark)⟩

theorem Wanes.of_shown {r r' : Request} (h : r'.shown = r.shown) : r.Wanes r' := by
  obtain ⟨-, hFlags⟩ := Prod.mk.inj h
  obtain ⟨hDefault, hDefault6⟩ := Prod.mk.inj hFlags
  exact ⟨fun hMark => hDefault ▸ hMark, fun hMark => hDefault6 ▸ hMark⟩

/-- Alike markings are of one number, one device and the same marks. -/
theorem marking_inj {r r' : Request} (h : r'.marking = r.marking) :
    r'.id = r.id ∧ r'.device = r.device ∧ r'.isDefault = r.isDefault ∧ r'.isDefault6 = r.isDefault6 := by
  simpa only [marking, Prod.mk.injEq] using h

theorem marking_of_shown {r r' : Request} (hId : r'.id = r.id) (hDevice : r'.device = r.device)
    (h : r'.shown = r.shown) : r'.marking = r.marking := by
  unfold marking
  rw [hId, hDevice, (Prod.mk.inj h).2]

/-- A request that follows its device never gains a mark. -/
theorem followState_wanes (r : Request) (new : DeviceState) (reason : StateReason) :
    r.Wanes (r.followState new reason).1 := by
  have hCleared : r.Wanes { r with isDefault := false, isDefault6 := false } :=
    ⟨nofun, nofun⟩
  have hFinished : ∀ (r : Request) (outcome : Outcome), r.Wanes (r.finish outcome).1 :=
    fun r outcome => .of_shown (r.shown_finish outcome)
  unfold followState
  cases new with
  | failed => exact hCleared.trans ⟨(hFinished _ _).isDefault, (hFinished _ _).isDefault6⟩
  | disconnected => exact hCleared.trans ⟨(hFinished _ _).isDefault, (hFinished _ _).isDefault6⟩
  | unavailable => exact hCleared.trans ⟨(hFinished _ _).isDefault, (hFinished _ _).isDefault6⟩
  | unmanaged => exact hCleared.trans ⟨(hFinished _ _).isDefault, (hFinished _ _).isDefault6⟩
  | unknown => exact ⟨hCleared.isDefault, hCleared.isDefault6⟩
  | activated => exact ⟨(hFinished r _).isDefault, (hFinished r _).isDefault6⟩
  | _ => exact ⟨fun h => h, fun h => h⟩

/-- Looking at an event takes marks, at most, and only if the device has entered a state. -/
theorem handleEvent_wanes (r : Request) (event : DeviceEvent) :
    r.Wanes (r.handleEvent event).1 ∧
      (event.entered? = none → (r.handleEvent event).1.shown = r.shown) := by
  cases event with
  | stateChanged id new old reason => exact ⟨r.followState_wanes new reason, nofun⟩
  | needSecrets id need =>
    have hShown : (r.askSecrets need).1.shown = r.shown := (r.goes_askSecrets need).2
    exact ⟨.of_shown hShown, fun _ => hShown⟩
  | linkRequested id request => exact ⟨.refl r, fun _ => rfl⟩

theorem processEvents_wanes (r : Request) :
    r.Wanes r.processEvents.request ∧
      (entered r.queue = [] → r.processEvents.request.shown = r.shown) := by
  have hFold : ∀ (events : List DeviceEvent) (p : Progress), r.Wanes p.request →
      r.Wanes (events.foldl Progress.advance p).request ∧
        (entered events = [] → (events.foldl Progress.advance p).request.shown = p.request.shown) := by
    intro events
    induction events with
    | nil => exact fun p h => ⟨h, fun _ => rfl⟩
    | cons event events ih =>
      intro p h
      obtain ⟨hWanes, hShown⟩ := p.request.handleEvent_wanes event
      obtain ⟨hRest, hSame⟩ := ih (p.advance event) (h.trans hWanes)
      refine ⟨hRest, fun hNone => ?_⟩
      obtain ⟨hFirst, hLater⟩ : event.entered? = none ∧ entered events = [] := by
        unfold entered at hNone ⊢
        rw [List.filterMap_eq_nil_iff] at hNone
        exact ⟨hNone event List.mem_cons_self,
          List.filterMap_eq_nil_iff.mpr fun e he => hNone e (List.mem_cons_of_mem _ he)⟩
      exact (hSame hLater).trans (hShown hFirst)
  exact hFold r.queue _ ⟨fun h => h, fun h => h⟩

end Request

-- ---------------------------------------------------------------------------
-- The manager at two times
-- ---------------------------------------------------------------------------

/-- The priority with which a device counts for the choice, if it does. -/
def Device.standing? (d : Device) : Option Nat :=
  if d.state = .activated ∧ 0 < d.priority then some d.priority else none

theorem Device.standing?_of_remains {d e : Device} (h : d.Remains e) (hState : e.state = d.state) :
    e.standing? = d.standing? := by
  unfold Device.standing?
  rw [hState, h.priority]

namespace Manager

variable {A : Nat → String → Prop} {K : Deed → Prop} {m m₀ m' m'' : Manager} {id : Nat}

/-- The priority with which a device of the manager counts for the choice, if it does. -/
def standing? (m : Manager) (id : Nat) : Option Nat := (m.device? id).bind Device.standing?

/-- One manager at two times, with nothing changed that the choice depends on, and nothing that a
request has yet to learn. -/
structure Unmoved (m₀ m : Manager) : Prop where
  requests : ∀ x, (m.request? x).map Request.marking = (m₀.request? x).map Request.marking
  unaware : ∀ x r, m.request? x = some r → entered r.queue = []
  standing : ∀ x, m.standing? x = m₀.standing? x

/-- An event is there that the policy looks at, or the manager will tell of one. -/
def Stirred (m : Manager) : Prop :=
  (∃ e ∈ m.events, Policy.isConcerned e = true) ∨ entered m.queue ≠ []

/-- The manager hears of all its devices, and no request is in its place among the subscribers. -/
structure Attentive (m : Manager) : Prop where
  devices : ∀ x d, m.device? x = some d → d.Heard
  requests : ∀ r ∈ m.requests, r.subscription ≠ some 0

/-- No request gains a mark. -/
def Fades (m m' : Manager) : Prop :=
  ∀ r' ∈ m'.requests, (r'.isDefault = true ∨ r'.isDefault6 = true) →
    ∃ r ∈ m.requests, r.id = r'.id ∧ r.Wanes r'

-- ---------------------------------------------------------------------------
-- Words that stay
-- ---------------------------------------------------------------------------

theorem events_modifyDevice (m : Manager) (id : Nat) (f : Device → Device) :
    (m.modifyDevice id f).events = m.events ∧ (m.modifyDevice id f).queue = m.queue := by
  unfold modifyDevice
  split <;> exact ⟨rfl, rfl⟩

theorem prefix_updateDevice (m : Manager) (id : Nat) (f : Device → Update) :
    (m.updateDevice id f).events = m.events ∧ m.queue <+: (m.updateDevice id f).queue := by
  unfold updateDevice deliver
  split
  · exact ⟨rfl, List.prefix_refl _⟩
  · refine ⟨rfl, ?_⟩
    dsimp only
    split
    · exact List.prefix_append _ _
    · exact List.prefix_refl _

/-- What was published stays, and what waits to be told waits behind what waited before, unless the
oldest event is told. -/
theorem Step.grows (h : Step K m m') : m.events <+: m'.events ∧
    (m.queue <+: m'.queue ∨ ∃ e rest, m.queue = e :: rest ∧ m' = m.told e rest) := by
  have hSame : ∀ {m m' : Manager}, m'.events = m.events → m.queue <+: m'.queue →
      m.events <+: m'.events ∧
        (m.queue <+: m'.queue ∨ ∃ e rest, m.queue = e :: rest ∧ m' = m.told e rest) :=
    fun hEvents hQueue => ⟨hEvents ▸ List.prefix_refl _, Or.inl hQueue⟩
  -- every step writes at the end; only telling takes something away, the oldest event of the queue
  cases h with
  | aside hDevices hRequests hQueue hEvents =>
    exact ⟨hEvents, Or.inl (hQueue ▸ List.prefix_refl _)⟩
  | urge id hf => exact hSame (prefix_updateDevice m id _).1 (prefix_updateDevice m id _).2
  | govern hK id hf => exact hSame (prefix_updateDevice m id _).1 (prefix_updateDevice m id _).2
  | flag id due =>
    exact hSame (events_modifyDevice m id _).1 ((events_modifyDevice m id _).2 ▸ List.prefix_refl _)
  | teardown id reason =>
    cases hr : m.request? id with
    | none =>
      rw [teardown_absent hr]
      exact hSame rfl (List.prefix_refl _)
    | some r =>
      rw [teardown_eq hr]
      exact ⟨List.prefix_append _ _, Or.inl (List.prefix_refl _)⟩
  | look => exact hSame rfl (List.prefix_refl _)
  | @tell e rest hQueue => exact ⟨List.prefix_append _ _, Or.inr ⟨e, rest, hQueue, rfl⟩⟩
  | revise => exact hSame rfl (List.prefix_refl _)
  | answer => exact hSame rfl (List.prefix_refl _)
  | mark hK request default default6 =>
    unfold setRequestDefault
    split
    · exact hSame rfl (List.prefix_refl _)
    · dsimp only
      split
      · exact ⟨List.prefix_append _ _, Or.inl (List.prefix_refl _)⟩
      · exact hSame rfl (List.prefix_refl _)
  | @launch number d spec hd =>
    rcases m.launch_cases number d spec with
      ⟨e, effects, -, hEq⟩ | ⟨r, u, listeners, -, hEq⟩
    · rw [hEq]
      exact hSame rfl (List.prefix_refl _)
    · rw [hEq]
      refine ⟨?_, Or.inl ?_⟩
      · show m.events <+: m.events ++ _ ++ _
        rw [List.append_assoc]
        exact List.prefix_append _ _
      · show m.queue <+: (if _ then m.queue ++ u.events else m.queue)
        split
        · exact List.prefix_append _ _
        · exact List.prefix_refl _
  | arrive => exact ⟨List.prefix_append _ _, Or.inl (List.prefix_refl _)⟩
  | dismiss => exact ⟨List.prefix_append _ _, Or.inl (List.prefix_refl _)⟩
  | disband => exact ⟨List.prefix_append _ _, Or.inl (List.prefix_refl _)⟩

theorem Steps.events (h : Steps K m m') : m.events <+: m'.events := by
  induction h with
  | refl => exact List.prefix_refl _
  | tail _ hLast ih => exact ih.trans hLast.grows.1

/-- What the policy will look at goes on to be there. -/
theorem Step.stirred (h : Step K m m') (hStirred : m.Stirred) : m'.Stirred := by
  obtain ⟨hEvents, hQueue⟩ := h.grows
  rcases hStirred with ⟨e, he, hConcerned⟩ | hWaits
  · exact Or.inl ⟨e, hEvents.subset he, hConcerned⟩
  rcases hQueue with ⟨more, hQueue⟩ | ⟨e, rest, hQueue, rfl⟩
  · refine Or.inr ?_
    rw [← hQueue, entered_append]
    exact List.append_ne_nil_of_left_ne_nil hWaits _
  · rw [hQueue] at hWaits
    cases e with
    | stateChanged id new old reason =>
      exact Or.inl ⟨_, List.mem_append_right _ List.mem_cons_self, rfl⟩
    | needSecrets id need => exact Or.inr hWaits
    | linkRequested id request => exact Or.inr hWaits

-- ---------------------------------------------------------------------------
-- Hearing of devices
-- ---------------------------------------------------------------------------

theorem mem_deliver {listeners : List Listener} {events : List DeviceEvent} {q : Request}
    (hq : q ∈ (m.deliver listeners events).requests) :
    ∃ q₀ ∈ m.requests, q.subscription = q₀.subscription ∧ q.marking = q₀.marking := by
  obtain ⟨q₀, hq₀, rfl⟩ := List.mem_map.mp hq
  refine ⟨q₀, hq₀, ?_⟩
  split <;> exact ⟨rfl, rfl⟩

theorem requests_updateDevice (m : Manager) (id : Nat) (f : Device → Update) :
    (∃ d, m.device? id = some d ∧ (m.updateDevice id f).requests =
      (m.deliver d.listeners (f d).events).requests) ∨ (m.updateDevice id f) = m := by
  unfold updateDevice
  split
  · exact Or.inr rfl
  · rename_i d hd
    exact Or.inl ⟨d, hd, rfl⟩

theorem Attentive.of_eq (h : m.Attentive) (hDevices : m'.devices = m.devices)
    (hRequests : m'.requests = m.requests) : m'.Attentive := by
  refine ⟨fun x d hd => ?_, fun r hr => ?_⟩
  · unfold device? at hd
    rw [hDevices] at hd
    exact h.devices x d hd
  · rw [hRequests] at hr
    exact h.requests r hr

theorem Attentive.updateDevice (h : m.Attentive) (id : Nat) {f : Device → Update}
    (hf : ∀ d : Device, d.Endures (f d).device) : (m.updateDevice id f).Attentive := by
  refine ⟨fun x d hd => ?_, fun r hr => ?_⟩
  · rw [m.device?_updateDevice id (fun d => (hf d).id)] at hd
    obtain ⟨d₀, hd₀, rfl⟩ := Option.map_eq_some_iff.mp hd
    split
    · exact (hf d₀).heard (h.devices x d₀ hd₀)
    · exact h.devices x d₀ hd₀
  · rcases m.requests_updateDevice id f with ⟨d, -, hRequests⟩ | hSame
    · rw [hRequests] at hr
      obtain ⟨r₀, hr₀, hPlace, -⟩ := mem_deliver hr
      rw [hPlace]
      exact h.requests r₀ hr₀
    · rw [hSame] at hr
      exact h.requests r hr

theorem Attentive.setRequest (h : m.Attentive) {r r' : Request} (hr : m.request? r.id = some r)
    (hPlace : r'.subscription = r.subscription) (effects : List Effect) :
    ((m.setRequest r').perform effects).Attentive := by
  refine ⟨h.devices, fun q hq => ?_⟩
  rcases mem_setRequest hq with rfl | hOld
  · rw [hPlace]
    exact h.requests r (request?_eq_some hr).1
  · exact h.requests q hOld

theorem Attentive.setDevice (h : m.Attentive) {d e : Device} (hd : m.device? d.id = some d)
    (hEndures : d.Endures e) : (m.setDevice e).Attentive := by
  refine ⟨fun x d' hd' => ?_, h.requests⟩
  rw [device?_setDevice_of hd hEndures.id] at hd'
  split at hd'
  · cases hd'
    exact hEndures.heard (h.devices _ d hd)
  · exact h.devices x d' hd'

theorem Attentive.teardown (h : m.Attentive) (id : Nat) (reason : StateReason) :
    (m.teardown id reason).Attentive := by
  cases hr : m.request? id with
  | none =>
    rw [teardown_absent hr]
    exact h
  | some r =>
    have hPlace := h.requests r (request?_eq_some hr).1
    rw [teardown_eq hr]
    refine ⟨fun x d hd => ?_, fun q hq => h.requests q (List.mem_filter.mp hq).1⟩
    change (m.modifyDevice r.device r.leave).device? x = some d at hd
    rw [m.device?_modifyDevice r.device (fun d => (r.leave_remains d).1.id)] at hd
    obtain ⟨d₀, hd₀, rfl⟩ := Option.map_eq_some_iff.mp hd
    split
    · exact r.leave_heard hPlace (h.devices x d₀ hd₀)
    · exact h.devices x d₀ hd₀

/-- A request that is new hears of its device under a number of its own. -/
theorem Attentive.joined (h : m.Attentive) {d : Device} (hd : m.device? d.id = some d) {r : Request}
    {u : Update} {listeners : List Listener} (hTaken : Taken d r u listeners) :
    (m.joined r listeners u).Attentive := by
  refine ⟨(h.setDevice hd hTaken.endures).devices, fun q hq => ?_⟩
  obtain ⟨q₀, hq₀, hPlace, -⟩ := mem_deliver
    (m := { m.setDevice u.device with requests := m.requests ++ [r] }) hq
  rw [hPlace]
  rcases List.mem_append.mp hq₀ with hOld | hNew
  · exact h.requests q₀ hOld
  · rw [List.mem_singleton.mp hNew]
    exact hTaken.numbered (h.devices _ d hd)

/-- The manager is the first to hear of a new device. -/
theorem Attentive.admitted (h : m.Attentive) {d : Device} (hUnused : Device.Unused d) :
    (m.admitted d).Attentive := by
  refine ⟨fun x e he => ?_, h.requests⟩
  rw [device?_admitted] at he
  rcases Option.or_eq_some_iff.mp he with hOld | ⟨-, hNew⟩
  · exact h.devices x e hOld
  · split at hNew
    · cases hNew
      refine ⟨List.mem_append_right _ (List.mem_singleton.mpr ?_), Nat.succ_pos _⟩
      rw [hUnused.nextSubscription]
    · cases hNew

/-- The manager goes on hearing of all its devices. -/
theorem Step.attentive (h : Step K m m') (hAttentive : m.Attentive) : m'.Attentive := by
  cases h with
  | aside hDevices hRequests => exact hAttentive.of_eq hDevices hRequests
  | urge id hf => exact hAttentive.updateDevice id hf.endures
  | govern hK id hf => exact hAttentive.updateDevice id hf.endures
  | flag id due =>
    have hFlag := hAttentive.updateDevice id (f := fun d =>
      { device := { d with activationScheduled := due }, events := [], error := none })
      fun d => .of_flags rfl rfl rfl rfl rfl
    refine ⟨fun x d hd => hFlag.devices x d ?_, fun r hr => ?_⟩
    · unfold device? at hd ⊢
      rw [devices_updateDevice]
      exact hd
    · unfold modifyDevice at hr
      split at hr <;> exact hAttentive.requests r hr
  | teardown id reason => exact hAttentive.teardown id reason
  | look hr => exact hAttentive.setRequest hr (Request.processEvents_follows _).subscription _
  | tell => exact hAttentive.of_eq rfl rfl
  | revise hr hSame => exact hAttentive.setRequest hr hSame.subscription _
  | answer hK hr hSecrets hSame => exact hAttentive.setRequest hr hSame.subscription _
  | mark hK request default default6 =>
    unfold setRequestDefault
    cases hr : m.request? request with
    | none => exact hAttentive
    | some r =>
      obtain ⟨-, rfl⟩ := request?_eq_some hr
      have hSet := hAttentive.setRequest hr
        (show (r.marked default default6).subscription = r.subscription from rfl) []
      dsimp only
      split
      · exact hSet.of_eq rfl rfl
      · exact hSet.of_eq rfl rfl
  | @launch number d spec hd =>
    rcases m.launch_cases number d spec with
      ⟨e, effects, hRefused, hEq⟩ | ⟨r, u, listeners, hTaken, hEq⟩
    · rw [hEq]
      exact (hAttentive.setDevice hd hRefused.endures).of_eq rfl rfl
    · rw [hEq]
      exact (hAttentive.joined hd hTaken).of_eq rfl rfl
  | arrive hK hUnused => exact hAttentive.admitted hUnused
  | dismiss id hLinked hK =>
    refine ⟨fun x d hd => ?_, hAttentive.requests⟩
    change (m.dismissed id).device? x = some d at hd
    rw [hLinked.device?_dismissed] at hd
    split at hd
    · cases hd
    · exact hAttentive.devices x d hd
  | disband => exact ⟨fun x d hd => (by cases hd), hAttentive.requests⟩

-- ---------------------------------------------------------------------------
-- Nothing happens without a word
-- ---------------------------------------------------------------------------

theorem standing?_congr (hDevices : m'.devices = m.devices) (x : Nat) :
    m'.standing? x = m.standing? x := by
  unfold standing? device?
  rw [hDevices]

theorem request?_congr (hRequests : m'.requests = m.requests) (x : Nat) :
    m'.request? x = m.request? x := by
  unfold request?
  rw [hRequests]

theorem Unmoved.of_eq (h : Unmoved m₀ m) (hDevices : m'.devices = m.devices)
    (hRequests : m'.requests = m.requests) : Unmoved m₀ m' := by
  refine ⟨fun x => ?_, fun x r hr => ?_, fun x => (standing?_congr hDevices x).trans (h.standing x)⟩
  · rw [request?_congr hRequests]
    exact h.requests x
  · rw [request?_congr hRequests] at hr
    exact h.unaware x r hr

/-- Devices are told to be as they are. -/
theorem Unmoved.of_standing (h : Unmoved m₀ m) (hRequests : m'.requests = m.requests)
    (hStanding : ∀ x, m'.standing? x = m.standing? x) : Unmoved m₀ m' := by
  have hSame : Unmoved m₀ { m with requests := m'.requests } := h.of_eq rfl hRequests
  exact ⟨hSame.requests, hSame.unaware, fun x => (hStanding x).trans (h.standing x)⟩

theorem Unmoved.setRequest (h : Unmoved m₀ m) {r r' : Request} (hr : m.request? r.id = some r)
    (hMarking : r'.marking = r.marking) (hQueue : entered r'.queue = []) (effects : List Effect) :
    Unmoved m₀ ((m.setRequest r').perform effects) := by
  have hId : r'.id = r.id := (Request.marking_inj hMarking).1
  have hFound : ∀ x, ((m.setRequest r').perform effects).request? x =
      if x = r.id then some r' else m.request? x := request?_setRequest hr hId
  refine ⟨fun x => ?_, fun x q hq => ?_, h.standing⟩
  · rw [hFound, ← h.requests x]
    split
    · rename_i hx
      rw [hx, hr, Option.map_some, Option.map_some, hMarking]
    · rfl
  · rw [hFound] at hq
    split at hq
    · cases hq
      exact hQueue
    · exact h.unaware x q hq

/-- Device events that enter no state reach the requests. -/
theorem Unmoved.deliver (h : Unmoved m₀ m) (listeners : List Listener) {events : List DeviceEvent}
    (hNone : entered events = []) : Unmoved m₀ (m.deliver listeners events) := by
  let hear : Request → Request := fun r =>
    if Listener.request r.id ∈ listeners then { r with queue := r.queue ++ events } else r
  have hHear : ∀ r, (hear r).marking = r.marking ∧ entered (hear r).queue = entered r.queue := by
    intro r
    dsimp only [hear]
    split
    · refine ⟨rfl, ?_⟩
      rw [entered_append, hNone, List.append_nil]
    · exact ⟨rfl, rfl⟩
  have hFound : ∀ x, (m.deliver listeners events).request? x = (m.request? x).map hear :=
    request?_map hear fun r => (Request.marking_inj (hHear r).1).1
  refine ⟨fun x => ?_, fun x q hq => ?_, h.standing⟩
  · rw [hFound, ← h.requests x, Option.map_map]
    congr 1
    funext r
    exact (hHear r).1
  · rw [hFound] at hq
    obtain ⟨q₀, hq₀, rfl⟩ := Option.map_eq_some_iff.mp hq
    exact (hHear q₀).2.trans (h.unaware x q₀ hq₀)

theorem standing?_setDevice {d e : Device} (hd : m.device? d.id = some d) (hRemains : d.Remains e)
    (hState : e.state = d.state) (x : Nat) : (m.setDevice e).standing? x = m.standing? x := by
  unfold standing?
  rw [device?_setDevice_of hd hRemains.id]
  split
  · rename_i hx
    rw [hx, hd]
    exact Device.standing?_of_remains hRemains hState
  · rfl

/-- A device that comes does not count. -/
theorem standing?_admitted {d : Device} (hUnused : Device.Unused d) (x : Nat) :
    (m.admitted d).standing? x = m.standing? x := by
  unfold standing?
  rw [device?_admitted]
  cases m.device? x with
  | some e => rfl
  | none =>
    rw [Option.none_or]
    split
    · have hIdle : (m.newcomer d).state = .unmanaged := hUnused.state
      show (m.newcomer d).standing? = none
      unfold Device.standing?
      rw [hIdle, if_neg (fun h => nomatch h.1)]
    · rfl

/-- What enters a state is told to a manager that listens. -/
theorem stirred_deliver (m : Manager) {listeners : List Listener} {events : List DeviceEvent}
    (hListens : Listener.manager ∈ listeners) (hTold : entered events ≠ []) :
    (m.deliver listeners events).Stirred := by
  right
  show entered (if _ then m.queue ++ events else m.queue) ≠ []
  rw [if_pos hListens, entered_append]
  exact List.append_ne_nil_of_right_ne_nil _ hTold

/-- A device that moves tells the manager so. -/
theorem stirs_updateDevice (hAttentive : m.Attentive) (hUnmoved : Unmoved m₀ m) (id : Nat)
    {f : Device → Update} (hTrail : ∀ d : Device, Trail d.state (f d).events (f d).device.state)
    (hEndures : ∀ d : Device, d.Endures (f d).device) :
    (m.updateDevice id f).Stirred ∨ Unmoved m₀ (m.updateDevice id f) := by
  cases hd : m.device? id with
  | none =>
    rw [updateDevice_absent hd]
    exact Or.inr hUnmoved
  | some d =>
    obtain ⟨-, rfl⟩ := device?_eq_some hd
    have hEq : m.updateDevice d.id f =
        (m.setDevice (f d).device).deliver d.listeners (f d).events := by
      unfold Manager.updateDevice
      rw [hd]
    rw [hEq]
    by_cases hNone : entered (f d).events = []
    · have hState : (f d).device.state = d.state := by
        rcases (hTrail d).mem_or_eq with hEntered | hSame
        · rw [hNone] at hEntered
          cases hEntered
        · exact hSame.symm
      have hSet : Unmoved m₀ (m.setDevice (f d).device) :=
        hUnmoved.of_standing rfl (standing?_setDevice hd (hEndures d).toRemains hState)
      exact Or.inr (hSet.deliver d.listeners hNone)
    · exact Or.inl (stirred_deliver _ (hAttentive.devices d.id d hd).listens hNone)

/-- Whatever changes of what the choice depends on, the manager hears of it, unless someone sets
marks. -/
theorem Step.stirs (h : Step K m m') (hMarks : ¬ K .marks) (hAttentive : m.Attentive)
    (hUnmoved : Unmoved m₀ m) : m'.Stirred ∨ Unmoved m₀ m' := by
  cases h with
  | aside hDevices hRequests => exact Or.inr (hUnmoved.of_eq hDevices hRequests)
  | urge id hf => exact stirs_updateDevice hAttentive hUnmoved id hf.trail hf.endures
  | govern hK id hf => exact stirs_updateDevice hAttentive hUnmoved id hf.trail hf.endures
  | flag id due =>
    right
    unfold modifyDevice
    cases hd : m.device? id with
    | none => exact hUnmoved
    | some d =>
      obtain ⟨-, rfl⟩ := device?_eq_some hd
      exact hUnmoved.of_standing rfl (standing?_setDevice hd ⟨rfl, rfl, rfl⟩ rfl)
  | teardown id reason =>
    cases hr : m.request? id with
    | none =>
      rw [teardown_absent hr]
      exact Or.inr hUnmoved
    | some r =>
      rw [teardown_eq hr]
      exact Or.inl (Or.inl ⟨_, List.mem_append_right _ List.mem_cons_self, rfl⟩)
  | @look r hr =>
    obtain ⟨-, hShown⟩ := r.processEvents_wanes
    have hFollows := r.processEvents_follows
    refine Or.inr (hUnmoved.setRequest hr (Request.marking_of_shown hFollows.id hFollows.device
      (hShown (hUnmoved.unaware _ _ hr))) ?_ _)
    rw [Request.queue_processEvents]
    rfl
  | @tell e rest hQueue =>
    cases e with
    | stateChanged id new old reason =>
      exact Or.inl (Or.inl ⟨_, List.mem_append_right _ List.mem_cons_self, rfl⟩)
    | needSecrets id need => exact Or.inr (hUnmoved.of_eq rfl rfl)
    | linkRequested id request => exact Or.inr (hUnmoved.of_eq rfl rfl)
  | revise hr hSame hShown =>
    refine Or.inr (hUnmoved.setRequest hr (Request.marking_of_shown hSame.id hSame.device hShown) ?_ _)
    rw [hSame.queue]
    exact hUnmoved.unaware _ _ hr
  | @answer r r' effects p hK hr hSecrets hSame hShown =>
    refine Or.inr (hUnmoved.setRequest hr (Request.marking_of_shown hSame.id hSame.device hShown) ?_ _)
    rw [hSame.queue]
    exact hUnmoved.unaware r.id r hr
  | mark hK => exact absurd hK hMarks
  | @launch number d spec hd =>
    rcases m.launch_cases number d spec with
      ⟨e, effects, hRefused, hEq⟩ | ⟨r, u, listeners, hTaken, hEq⟩
    · -- nothing is told of a launch that is refused, and the device is where it was
      rw [hEq]
      have hSet : Unmoved m₀ (m.setDevice e) :=
        hUnmoved.of_standing rfl (standing?_setDevice hd hRefused.endures.toRemains hRefused.state)
      exact Or.inr (hSet.of_eq rfl rfl)
    · rw [hEq]
      have hJoined : (m.joined r listeners u).Stirred :=
        stirred_deliver _ (hTaken.heard (hAttentive.devices _ d hd)) (List.ne_nil_of_mem hTaken.tells)
      exact Or.inl (hJoined.imp (fun ⟨e, he, hConcerned⟩ =>
        ⟨e, List.mem_append_left _ (List.mem_append_left _ he), hConcerned⟩) id)
  | arrive hK hUnused => exact Or.inr (hUnmoved.of_standing rfl (standing?_admitted hUnused))
  | dismiss => exact Or.inl (Or.inl ⟨_, List.mem_append_right _ List.mem_cons_self, rfl⟩)
  | disband hK =>
    cases hDevices : m.devices with
    | nil => exact Or.inr (hUnmoved.of_eq hDevices.symm rfl)
    | cons d ds =>
      refine Or.inl (Or.inl ⟨.deviceRemoved d.id, List.mem_append_right _ ?_, rfl⟩)
      rw [hDevices]
      exact List.mem_cons_self

/-- The same for a sequence of steps. -/
theorem Steps.stirs (h : Steps K m m') (hMarks : ¬ K .marks) (hAttentive : m.Attentive)
    (hUnmoved : Unmoved m m) : m'.Attentive ∧ (m'.Stirred ∨ Unmoved m m') := by
  induction h with
  | refl => exact ⟨hAttentive, Or.inr hUnmoved⟩
  | tail _ hLast ih =>
    obtain ⟨hHears, hEither⟩ := ih
    refine ⟨hLast.attentive hHears, ?_⟩
    rcases hEither with hStirred | hSame
    · exact Or.inl (hLast.stirred hStirred)
    · exact hLast.stirs hMarks hHears hSame

-- ---------------------------------------------------------------------------
-- Marks that go
-- ---------------------------------------------------------------------------

theorem Fades.refl (m : Manager) : Fades m m := fun r hr _ => ⟨r, hr, rfl, .refl r⟩

theorem Fades.trans (h : Fades m m') (h' : Fades m' m'') : Fades m m'' := by
  intro r'' hr'' hMarked
  obtain ⟨r', hr', hId', hWanes'⟩ := h' r'' hr'' hMarked
  obtain ⟨r, hr, hId, hWanes⟩ := h r' hr' (hMarked.imp hWanes'.isDefault hWanes'.isDefault6)
  exact ⟨r, hr, hId.trans hId', hWanes.trans hWanes'⟩

theorem Fades.of_subset (h : m'.requests ⊆ m.requests) : Fades m m' :=
  fun r hr _ => ⟨r, h hr, rfl, .refl r⟩

theorem fades_setRequest {r r' : Request} (hr : m.request? r.id = some r) (hId : r'.id = r.id)
    (hWanes : r.Wanes r') (effects : List Effect) : Fades m ((m.setRequest r').perform effects) := by
  intro q hq _
  rcases mem_setRequest hq with rfl | hOld
  · exact ⟨r, (request?_eq_some hr).1, hId.symm, hWanes⟩
  · exact ⟨q, hOld, rfl, .refl q⟩

theorem fades_deliver (m : Manager) (listeners : List Listener) (events : List DeviceEvent) :
    Fades m (m.deliver listeners events) := by
  intro q hq _
  obtain ⟨q₀, hq₀, -, hMarking⟩ := mem_deliver hq
  obtain ⟨hId, -, hDefault, hDefault6⟩ := Request.marking_inj hMarking
  exact ⟨q₀, hq₀, hId.symm, fun h => hDefault ▸ h, fun h => hDefault6 ▸ h⟩

theorem fades_updateDevice (m : Manager) (id : Nat) (f : Device → Update) :
    Fades m (m.updateDevice id f) := by
  unfold updateDevice
  split
  · exact .refl m
  · exact fades_deliver _ _ _

/-- A step that sets no marks gives none. -/
theorem Step.fades (h : Step K m m') (hMarks : ¬ K .marks) : Fades m m' := by
  cases h with
  | aside hDevices hRequests => exact .of_subset (hRequests ▸ List.Subset.refl _)
  | urge id hf => exact fades_updateDevice m id _
  | govern hK id hf => exact fades_updateDevice m id _
  | flag id due =>
    refine .of_subset ?_
    unfold modifyDevice
    split <;> exact List.Subset.refl _
  | teardown id reason =>
    cases hr : m.request? id with
    | none =>
      rw [teardown_absent hr]
      exact .refl m
    | some r =>
      rw [teardown_eq hr]
      exact .of_subset List.filter_sublist.subset
  | look hr =>
    exact fades_setRequest hr (Request.processEvents_follows _).id
      (Request.processEvents_wanes _).1 _
  | tell => exact .of_subset (List.Subset.refl _)
  | revise hr hSame hShown => exact fades_setRequest hr hSame.id (.of_shown hShown) _
  | answer hK hr hSecrets hSame hShown => exact fades_setRequest hr hSame.id (.of_shown hShown) _
  | mark hK => exact absurd hK hMarks
  | @launch number d spec hd =>
    rcases m.launch_cases number d spec with
      ⟨e, effects, -, hEq⟩ | ⟨r, u, listeners, hTaken, hEq⟩
    · rw [hEq]
      exact .of_subset (List.Subset.refl _)
    · rw [hEq]
      have hJoined : Fades m { m.setDevice u.device with requests := m.requests ++ [r] } := by
        intro q hq hMarked
        rcases List.mem_append.mp hq with hOld | hNew
        · exact ⟨q, hOld, rfl, .refl q⟩
        · rw [List.mem_singleton.mp hNew, hTaken.isDefault, hTaken.isDefault6] at hMarked
          rcases hMarked with hMarked | hMarked <;> cases hMarked
      exact hJoined.trans (fades_deliver _ _ _)
  | arrive => exact .of_subset (List.Subset.refl _)
  | dismiss => exact .of_subset (List.Subset.refl _)
  | disband => exact .of_subset (List.Subset.refl _)

theorem Steps.fades (h : Steps K m m') (hMarks : ¬ K .marks) : Fades m m' := by
  induction h with
  | refl => exact .refl _
  | tail _ hLast ih => exact ih.trans (hLast.fades hMarks)

-- ---------------------------------------------------------------------------
-- Operations
-- ---------------------------------------------------------------------------

/-- Between two operations the manager hears of all its devices. -/
theorem Settled.attentive (h : m.Settled A) : m.Attentive := by
  refine ⟨fun x d hd => ?_, fun r hr => ?_⟩
  · have hSound := h.toFits.sound hd
    refine ⟨?_, hSound.numbers⟩
    rw [hSound.subscribers]
    exact List.mem_cons_self
  · obtain ⟨d, hd⟩ := h.toFits.exists_device hr
    obtain ⟨k, hPlace, hPositive, -⟩ := (h.toFits.sound hd).place r (h.linked.requestOn?_of_mem hr)
    rw [hPlace]
    exact fun hZero => Nat.ne_of_gt hPositive (Option.some.inj hZero)

/-- Between two operations no request has anything left to learn. -/
theorem Settled.unmoved (h : m.Settled A) : Unmoved m m := by
  refine ⟨fun _ => rfl, fun x r hr => ?_, fun _ => rfl⟩
  rw [h.looked r (request?_eq_some hr).1]
  rfl

/-- An operation that does not set marks changes nothing that the choice depends on, unless there is an
event that the policy looks at. -/
theorem Settled.operate_stirs (h : m.Settled A) {operation : Operation}
    (hMarks : ¬ operation.May .marks) :
    (∃ e ∈ (m.operate operation).events, Policy.isConcerned e = true) ∨
      Unmoved m (m.operate operation) := by
  obtain ⟨-, hEither⟩ := (h.operate_steps operation).stirs hMarks h.attentive h.unmoved
  refine hEither.imp_left fun hStirred => hStirred.resolve_right fun hWaits => hWaits ?_
  rw [(operate_settled h operation).queue]
  rfl

theorem Settled.operate_fades (h : m.Settled A) {operation : Operation}
    (hMarks : ¬ operation.May .marks) : Fades m (m.operate operation) :=
  (h.operate_steps operation).fades hMarks

end Manager

end ScannerHub
