import ScannerHub.Proofs.Bus.Exhibits
import ScannerHub.Proofs.Manager.Continuity

/-!
# The bus mirrors the manager

The objects on the bus follow the published events. When an event is followed, the manager may have
gone on already: the device of the event may be gone, or in another state, and its request may be
another one. What the objects show is taken from the manager as it is then, and some of it from the
event.

To see that the objects catch up an observer is imagined who has read exactly the events that were
followed. An object is on the bus if he knows of it and it is still there; and it shows what there is,
unless an event about it still waits. Once no event waits he knows all that there is to know.

* `Mirror` — a manager, the objects on the bus, and the signals that were sent;
* `Mirrors` — objects that show what there is;
* `Mirror.Trails` — objects that are as far as an observer.

## Results

* `Trails.operate`, `Trails.follow` — the objects stay as far as an observer;
* `run_mirrors` — whenever no event waits, the objects show what there is.
-/

namespace ScannerHub

-- ---------------------------------------------------------------------------
-- Events that are followed
-- ---------------------------------------------------------------------------

/-- A manager, the objects on the bus, and the signals that were sent. An event waits in the manager
until it was followed. -/
structure Mirror where
  manager : Manager
  objects : BusObjects
  signals : List Signal

namespace Mirror

/-- The manager is asked for something, or its oldest event is followed. -/
inductive Turn where
  | operate (operation : Operation)
  | follow

/-- A manager without devices goes on the bus. -/
def start (m : Manager) : Mirror := { manager := m, objects := .start m, signals := [] }

def turn (b : Mirror) : Turn → Mirror
  | .operate operation => { b with manager := b.manager.operate operation }
  | .follow =>
    match b.manager.events with
    | [] => b
    | e :: events =>
      let m := { b.manager with events }
      let (objects, signals) := b.objects.sync m e
      { manager := m, objects, signals := b.signals ++ signals }

def run (b : Mirror) (turns : List Turn) : Mirror := turns.foldl turn b

end Mirror

/-- What is shown of a device is its state, and whether it is managed. -/
def DeviceStatus.Shows (s : DeviceStatus) (d : Device) : Prop :=
  s.state = d.state.number ∧ s.managed = d.managed

/-- The objects show what there is: there is one for each device, with its state and whether it is
managed, and one for each live request, with all that can be seen of it; and the manager object is
that of the manager. -/
structure Mirrors (o : BusObjects) (m : Manager) : Prop where
  devices : ∀ id, (o.devices.lookup id).map (fun s => (s.state, s.managed)) =
    (m.device? id).map fun d => (d.state.number, d.managed)
  active : ∀ id, o.active.lookup id = (m.request? id).map ActiveStatus.of
  manager : o.manager = .of m
  distinct : (o.devices.map Prod.fst).Nodup ∧ (o.active.map Prod.fst).Nodup

-- ---------------------------------------------------------------------------
-- Events that are taken
-- ---------------------------------------------------------------------------

namespace Manager

variable {m : Manager} {events : List ManagerEvent}

theorem Tracks.taken {τ : Nat → DeviceState} {o : Observer} {a : Agenda}
    (h : Tracks τ o (m, a)) : Tracks τ o ({ m with events }, a) :=
  ⟨⟨h.devices, h.requests, h.distinct, h.bound⟩, h.view, fun id =>
    (h.sites id).of_eq rfl rfl⟩

end Manager

-- ---------------------------------------------------------------------------
-- Objects that trail behind
-- ---------------------------------------------------------------------------

namespace Mirror

/-- The objects are as far as an observer who has read the events that were followed. -/
structure Trails (o : Observer) (b : Mirror) : Prop where
  rested : b.manager.Rested fun _ _ => True
  plain : ∀ r ∈ b.manager.requests, r.Plain
  hears : o.Hears b.manager.events
  tracks : ∃ τ, Manager.Tracks τ (o.read b.manager.events) (b.manager, .empty)
  remembers : o.Remembers
  devices : ∀ id, Exhibit DeviceStatus.Shows ((o.view.device? id).isSome = true)
    (∃ e ∈ b.manager.events, e.moves id) (b.objects.devices.lookup id) (b.manager.device? id)
  active : ∀ id, Exhibit (fun s r => s = ActiveStatus.of r) (id ∈ o.view.requests)
    (.activeConnectionChanged id ∈ b.manager.events) (b.objects.active.lookup id)
    (b.manager.request? id)
  state : b.objects.manager.state = b.manager.state.number ∨
    ∃ state, .stateChanged state ∈ b.manager.events
  networking : b.objects.manager.networkingEnabled = b.manager.networkingEnabled ∨
    ∃ enabled, .networkingEnabledChanged enabled ∈ b.manager.events
  listed : b.objects.manager.activeConnections = (ManagerStatus.of b.manager).activeConnections ∨
    .activeConnectionsChanged ∈ b.manager.events
  distinct : (b.objects.devices.map Prod.fst).Nodup ∧ (b.objects.active.map Prod.fst).Nodup
  told : ∀ id, Told id (id ∈ o.seenDevices) ((b.objects.devices.lookup id).isSome = true)
    (comings (devicePath id) b.signals)

variable {o : Observer} {b : Mirror}

/-- Who reads the events that wait knows all that there is to know. -/
theorem Trails.view (h : b.Trails o) : (o.read b.manager.events).view = .of b.manager := by
  obtain ⟨τ, hTracks⟩ := h.tracks
  exact hTracks.view_eq h.rested.linked h.rested.queue

/-- Once no event waits the objects show what there is. -/
theorem Trails.mirrors (h : b.Trails o) (hDone : b.manager.events = []) :
    Mirrors b.objects b.manager := by
  have hView := h.view
  rw [hDone] at hView
  change o.view = .of b.manager at hView
  refine ⟨fun id => ?_, fun id => ?_, ?_, h.distinct⟩
  · have hKnown : (o.view.device? id).isSome = true ↔ (b.manager.device? id).isSome = true := by
      rw [hView, View.device?_of, Option.isSome_map]
    have hDone' : ¬ ∃ e ∈ b.manager.events, e.moves id := by
      rw [hDone]
      rintro ⟨e, he, -⟩
      cases he
    rcases (h.devices id).settled hKnown hDone' with
      ⟨hShown, hThere⟩ | ⟨s, d, hShown, hThere, hState, hManaged⟩
    · rw [hShown, hThere]
      rfl
    · rw [hShown, hThere]
      exact congrArg some (Prod.ext hState hManaged)
  · have hKnown : id ∈ o.view.requests ↔ (b.manager.request? id).isSome = true := by
      rw [hView]
      exact View.mem_requests_of b.manager id
    have hDone' : ManagerEvent.activeConnectionChanged id ∉ b.manager.events := by
      rw [hDone]
      exact List.not_mem_nil
    rcases (h.active id).settled hKnown hDone' with ⟨hShown, hThere⟩ | ⟨s, r, hShown, hThere, rfl⟩
    · rw [hShown, hThere]
      rfl
    · rw [hShown, hThere]
      rfl
  · have hState := h.state
    have hNetworking := h.networking
    have hListed := h.listed
    rw [hDone] at hState hNetworking hListed
    have hNo : ∀ {e : ManagerEvent}, e ∉ ([] : List ManagerEvent) := List.not_mem_nil
    show ManagerStatus.mk b.objects.manager.state b.objects.manager.networkingEnabled
      b.objects.manager.activeConnections = .of b.manager
    rw [hState.resolve_right fun ⟨_, he⟩ => hNo he,
      hNetworking.resolve_right fun ⟨_, he⟩ => hNo he, hListed.resolve_right hNo]
    rfl

-- ---------------------------------------------------------------------------
-- Operations
-- ---------------------------------------------------------------------------

/-- A request that goes on looks the same, or an event waits that calls it another one. -/
theorem status_goes {r r' : Request} (hGoes : r.Goes r') (hShown : r'.shown = r.shown) :
    ActiveStatus.of r' = ActiveStatus.of r := by
  obtain ⟨hState, hFlags⟩ := Prod.mk.inj hShown
  obtain ⟨hDefault, hDefault6⟩ := Prod.mk.inj hFlags
  unfold ActiveStatus.of Request.serviceName Request.specificObject
  rw [hGoes.scope, hGoes.path, hGoes.specific, hGoes.device, hState, hDefault, hDefault6]

/-- Two devices in the same state are both managed, or both not. -/
theorem managed_of_state {m m' : Manager} (h : m.Rested fun _ _ => True)
    (h' : m'.Rested fun _ _ => True) {id : Nat} {d d' : Device} (hd : m.device? id = some d)
    (hd' : m'.device? id = some d') (hState : d'.state = d.state) : d'.managed = d.managed := by
  have hManaged := (h.toFits.sound hd).device.managed
  have hManaged' := (h'.toFits.sound hd').device.managed
  rw [hState, ← hManaged] at hManaged'
  exact Bool.eq_iff_iff.mpr (by simpa using not_congr hManaged')

theorem quiet_state (v : View) (e : ManagerEvent) :
    (v.hear e).state = v.state ∨ ∃ state, e = .stateChanged state := by
  cases e with
  | stateChanged state => exact Or.inr ⟨state, rfl⟩
  | _ => exact Or.inl rfl

theorem quiet_networking (v : View) (e : ManagerEvent) :
    (v.hear e).networkingEnabled = v.networkingEnabled ∨
      ∃ enabled, e = .networkingEnabledChanged enabled := by
  cases e with
  | networkingEnabledChanged enabled => exact Or.inr ⟨enabled, rfl⟩
  | _ => exact Or.inl rfl

section Operate

variable {m m' : Manager} {news : List ManagerEvent}

/-- The operation of a manager, as it is told to someone who has read what waited before. -/
structure Hearing (o : Observer) (m m' : Manager) (news : List ManagerEvent) : Prop where
  events : m'.events = m.events ++ news
  hears : (o.read m.events).Hears news
  before : (o.read m.events).view = .of m
  after : ((o.read m.events).read news).view = .of m'

/-- A device that was seen and is there now was there already, and in the same state unless an event
waits that moves it. -/
theorem Hearing.device (h : Hearing o m m' news) {id : Nat} {d' : Device}
    (hSeen : id ∈ o.seenDevices) (hd' : m'.device? id = some d') :
    ∃ d, m.device? id = some d ∧ (d'.state = d.state ∨ ∃ e ∈ m'.events, e.moves id) := by
  have hAfter : ((o.read m.events).read news).view.device? id = some d'.state := by
    rw [h.after, View.device?_of, hd']
    rfl
  obtain ⟨hThere, hState⟩ := h.hears.device ((o.seen_read m.events).1 hSeen) hAfter
  rw [h.before, View.device?_of, Option.isSome_map] at hThere
  rw [h.before, View.device?_of] at hState
  obtain ⟨d, hd⟩ := Option.isSome_iff_exists.mp hThere
  refine ⟨d, hd, hState.imp (fun hSame => ?_) fun ⟨e, he, hMoves⟩ => ⟨e, ?_, hMoves⟩⟩
  · rw [hd] at hSame
    exact (Option.some.inj hSame).symm
  · rw [h.events]
    exact List.mem_append_right _ he

/-- A request that was seen and is live now was live already. -/
theorem Hearing.request (h : Hearing o m m' news) {id : Nat} (hSeen : id ∈ o.seenRequests)
    (hLive : (m'.request? id).isSome = true) : (m.request? id).isSome = true := by
  rw [← View.mem_requests_of, ← h.after] at hLive
  rw [← View.mem_requests_of, ← h.before]
  exact h.hears.request ((o.seen_read m.events).2 hSeen) hLive

/-- What the observer knew is as it is now, unless something waits that tells of it. -/
theorem Hearing.latest (h : Hearing o m m' news) {α : Type} {f : View → α}
    {tells : ManagerEvent → Prop} (hQuiet : ∀ v e, f (View.hear v e) = f v ∨ tells e) :
    f (.of m) = f (.of m') ∨ ∃ e ∈ m'.events, tells e := by
  have hLatest := h.hears.latest hQuiet
  rw [h.before, h.after] at hLatest
  refine hLatest.imp_right fun ⟨e, he, hTells⟩ => ⟨e, ?_, hTells⟩
  rw [h.events]
  exact List.mem_append_right _ he

end Operate

/-- What happens to the object of a device when the manager is asked for something. -/
theorem Trails.operate_device (h : b.Trails o) {m' : Manager} {news : List ManagerEvent}
    (hHearing : Hearing o b.manager m' news) (hRested' : m'.Rested fun _ _ => True) (id : Nat) :
    Exhibit DeviceStatus.Shows ((o.view.device? id).isSome = true) (∃ e ∈ m'.events, e.moves id)
      (b.objects.devices.lookup id) (m'.device? id) := by
  -- what is known of was seen, so it was there before
  have hSeen := h.remembers.devices id
  refine (h.devices id).operate (fun ⟨e, he, hMoves⟩ => ⟨e, ?_, hMoves⟩)
    (fun hKnown hThere' => ?_) fun d d' hKnown hd hd' => ?_
  · rw [hHearing.events]
    exact List.mem_append_left _ he
  · obtain ⟨d', hd'⟩ := Option.isSome_iff_exists.mp hThere'
    obtain ⟨d, hd, -⟩ := hHearing.device (hSeen hKnown) hd'
    rw [hd]
    rfl
  · obtain ⟨d₀, hd₀, hState⟩ := hHearing.device (hSeen hKnown) hd'
    obtain rfl : d₀ = d := Option.some.inj (hd₀.symm.trans hd)
    refine hState.imp_left fun hSame s hCurrent => ⟨?_, ?_⟩
    · rw [hCurrent.1, hSame]
    · rw [hCurrent.2, managed_of_state h.rested hRested' hd hd' hSame]

/-- What happens to the object of a request when the manager is asked for something. -/
theorem Trails.operate_request (h : b.Trails o) {m' : Manager} {news : List ManagerEvent}
    (hHearing : Hearing o b.manager m' news)
    (hContinues : Manager.Continues (fun _ _ => True) b.manager m') (id : Nat) :
    Exhibit (fun s r => s = ActiveStatus.of r) (id ∈ o.view.requests)
      (.activeConnectionChanged id ∈ m'.events) (b.objects.active.lookup id) (m'.request? id) := by
  refine (h.active id).operate (fun hWaits => ?_)
    (fun hKnown => hHearing.request (h.remembers.requests id hKnown)) fun r r' hKnown hr hr' => ?_
  · rw [hHearing.events]
    exact List.mem_append_left _ hWaits
  · obtain ⟨hIn, hId⟩ := Manager.request?_eq_some hr
    obtain ⟨hIn', rfl⟩ := Manager.request?_eq_some hr'
    cases hContinues.requests r' hIn' with
    | new hNumber =>
      have hBound := h.rested.linked.requestBound r hIn
      rw [hId] at hBound
      exact absurd hBound (Nat.not_lt.mpr hNumber)
    | @kept r₀ hIn₀ hGoes hShown =>
      have hr₀ := h.rested.linked.request?_of_mem hIn₀
      rw [← hGoes.id] at hr₀
      obtain rfl : r₀ = r := Option.some.inj (hr₀.symm.trans hr)
      rcases hShown (h.plain r₀ hIn₀) with hSame | ⟨since, hSince, hTold⟩
      · left
        rintro s rfl
        exact (status_goes hGoes hSame).symm
      · rw [hSince, hGoes.id]
        exact Or.inr (List.mem_append_right _ hTold)

/-- What the manager publishes when it is asked for something is heard by the observer. -/
theorem Trails.hearing (h : b.Trails o) (operation : Operation) :
    ∃ τ news, Hearing o b.manager (b.manager.operate operation) news ∧
      Manager.Tracks τ ((o.read b.manager.events).read news)
        (b.manager.operate operation, .empty) := by
  have hRested' := h.rested.operate operation
  obtain ⟨τ, hTracks⟩ := h.tracks
  obtain ⟨τ', news, hEvents, hHears, hTracks'⟩ := h.rested.operate_tracked operation hTracks
  exact ⟨τ', news, ⟨hEvents, hHears, h.view, hTracks'.view_eq hRested'.linked hRested'.queue⟩,
    hTracks'⟩

/-- The manager is asked for something, and the objects stay as they are. -/
theorem Trails.operate (h : b.Trails o) (operation : Operation) :
    (b.turn (.operate operation)).Trails o := by
  have hRested' := h.rested.operate operation
  have hContinues := (h.rested.toSettled.operate_proceeds operation).toContinues
  obtain ⟨τ', news, hHearing, hTracks'⟩ := h.hearing operation
  have hEvents := hHearing.events
  have hHears := hHearing.hears
  have hOld : b.manager.events ⊆ (b.manager.operate operation).events :=
    hEvents ▸ List.subset_append_left _ _
  refine ⟨hRested', fun r' hr' => ?_, ?_, ⟨τ', ?_⟩, h.remembers, h.operate_device hHearing hRested',
    h.operate_request hHearing hContinues, ?_, ?_, ?_, h.distinct, h.told⟩
  · cases hContinues.requests r' hr' with
    | kept hr hGoes => exact hGoes.plain (h.plain _ hr)
    | new _ _ _ hPlain => exact hPlain
  · show o.Hears (b.manager.operate operation).events
    rw [hEvents]
    exact h.hears.append hHears
  · show Manager.Tracks τ' (o.read (b.manager.operate operation).events) _
    rw [hEvents, Observer.read_append]
    exact hTracks'
  · rcases h.state with hCurrent | ⟨state, he⟩
    · refine (hHearing.latest (f := View.state) quiet_state).imp
        (fun hSame => hCurrent.trans (congrArg ManagerState.number hSame)) ?_
      rintro ⟨_, he, state, rfl⟩
      exact ⟨state, he⟩
    · exact Or.inr ⟨state, hOld he⟩
  · rcases h.networking with hCurrent | ⟨enabled, he⟩
    · refine (hHearing.latest (f := View.networkingEnabled) quiet_networking).imp hCurrent.trans ?_
      rintro ⟨_, he, enabled, rfl⟩
      exact ⟨enabled, he⟩
    · exact Or.inr ⟨enabled, hOld he⟩
  · rcases h.listed with hCurrent | he
    · refine hContinues.listed.imp (fun hSame => hCurrent.trans ?_) fun ⟨since, hSince, he⟩ => ?_
      · have hPaths := congrArg (List.map activePath) hSame
        rw [List.map_map, List.map_map] at hPaths
        exact hPaths.symm
      · show _ ∈ (b.manager.operate operation).events
        rw [hSince]
        exact List.mem_append_right _ he
    · exact Or.inr (hOld he)

-- ---------------------------------------------------------------------------
-- Events
-- ---------------------------------------------------------------------------

section Follow

variable {e : ManagerEvent} {events : List ManagerEvent}

theorem turn_follow (hEvents : b.manager.events = e :: events) :
    b.turn .follow =
      { manager := { b.manager with events }
        objects := (b.objects.sync { b.manager with events } e).1
        signals := b.signals ++ (b.objects.sync { b.manager with events } e).2 } := by
  unfold turn
  dsimp only
  rw [hEvents]

/-- The oldest event fits what the observer knows, and so do the others once he has read it. -/
theorem Trails.next (h : b.Trails o) (hEvents : b.manager.events = e :: events) :
    o.Accepts e ∧ (o.hear e).Hears events ∧ ((o.hear e).read events).view = .of b.manager := by
  have hHears := h.hears
  have hView := h.view
  rw [hEvents] at hHears hView
  exact ⟨hHears.1, hHears.2, hView⟩

theorem moves_rest {id : Nat} (hElse : e.deviceTold? ≠ some id) (h : ∃ f ∈ e :: events, f.moves id) :
    ∃ f ∈ events, f.moves id := by
  obtain ⟨f, hf, hMoves⟩ := h
  refine ⟨f, (List.mem_cons.mp hf).resolve_left ?_, hMoves⟩
  rintro rfl
  obtain ⟨new, old, reason, rfl⟩ := hMoves
  exact hElse rfl

/-- What happens to the object of a device when an event is followed. -/
theorem Trails.follow_device (h : b.Trails o) (hEvents : b.manager.events = e :: events) (id : Nat) :
    Exhibit DeviceStatus.Shows (((o.hear e).view.device? id).isSome = true)
      (∃ f ∈ events, f.moves id)
      ((b.objects.sync { b.manager with events } e).1.devices.lookup id) (b.manager.device? id) := by
  have hDevice := h.devices id
  rw [hEvents] at hDevice
  obtain ⟨hAccepts, hRest, hView⟩ := h.next hEvents
  show Exhibit _ (((o.view.hear e).device? id).isSome = true) _ _ _
  by_cases hElse : e.deviceTold? = some id
  · cases e with
    | deviceAdded i =>
      obtain rfl := Option.some.inj hElse
      have hHidden : b.objects.devices.lookup i = none := Option.not_isSome_iff_eq_none.mp
        fun hShown => hAccepts (h.remembers.devices i (hDevice.justified hShown))
      rw [b.objects.device_sync_added _ hHidden]
      refine Exhibit.come DeviceStatus.of ?_ fun d => ⟨rfl, rfl⟩
      rw [View.device?_added, if_pos rfl, Option.isSome_or, Option.isSome_some, Bool.or_true]
    | deviceRemoved i =>
      obtain rfl := Option.some.inj hElse
      rw [b.objects.device_sync_removed]
      refine Exhibit.leave fun hKnown => ?_
      rw [View.device?_removed, if_pos rfl] at hKnown
      cases hKnown
    | deviceStateChanged i new old reason =>
      obtain rfl := Option.some.inj hElse
      have hKnown : o.view.device? i = some old := hAccepts.1
      have hMoved : (o.view.hear (.deviceStateChanged i new old reason)).device? i = some new := by
        rw [View.device?_moved, hKnown, Option.map_some, if_pos rfl]
      rw [b.objects.device_sync_moved, hMoved]
      refine hDevice.change (BusObjects.moved new) (by rw [hKnown]; exact Iff.rfl) fun d hd => ?_
      -- the state in which the event left the device is the one in which it still is, unless there
      -- is another such event
      have hAfter : ((o.hear (.deviceStateChanged i new old reason)).read events).view.device? i =
          some d.state := by
        rw [hView, View.device?_of, show b.manager.device? i = some d from hd]
        rfl
      have hSeen := (h.remembers.hear (.deviceStateChanged i new old reason)).devices i
        (by rw [show (o.hear _).view.device? i = some new from hMoved]; rfl)
      refine (hRest.device hSeen hAfter).2.imp_left fun hState => ⟨?_, rfl⟩
      rw [show (o.hear _).view.device? i = some new from hMoved] at hState
      exact congrArg DeviceState.number (Option.some.inj hState)
    | _ => cases hElse
  · rw [b.objects.device_sync_elsewhere _ hElse, View.device?_elsewhere _ _ hElse]
    exact hDevice.elsewhere Iff.rfl (moves_rest hElse)

/-- What happens to the object of a request when an event is followed. -/
theorem Trails.follow_request (h : b.Trails o) (hEvents : b.manager.events = e :: events)
    (id : Nat) :
    Exhibit (fun s r => s = ActiveStatus.of r) (id ∈ (o.hear e).view.requests)
      (.activeConnectionChanged id ∈ events)
      ((b.objects.sync { b.manager with events } e).1.active.lookup id) (b.manager.request? id) := by
  have hRequest := h.active id
  rw [hEvents] at hRequest
  obtain ⟨hAccepts, -⟩ := h.next hEvents
  by_cases hElse : e.requestTold? = some id
  · cases e with
    | activeConnectionAdded i =>
      obtain rfl := Option.some.inj hElse
      have hHidden : b.objects.active.lookup i = none := Option.not_isSome_iff_eq_none.mp
        fun hShown => hAccepts (h.remembers.requests i (hRequest.justified hShown))
      rw [b.objects.active_sync_added _ hHidden]
      exact Exhibit.come ActiveStatus.of (List.mem_append_right _ List.mem_cons_self) fun _ => rfl
    | activeConnectionRemoved i =>
      obtain rfl := Option.some.inj hElse
      have hGone : (b.objects.active.filter fun a => a.1 != i).lookup i = none :=
        (lookup_filter_ne b.objects.active i i).trans (if_pos rfl)
      show Exhibit _ _ _ ((b.objects.active.filter fun a => a.1 != i).lookup i) _
      rw [hGone]
      exact Exhibit.leave fun hKnown => bne_iff_ne.mp (List.mem_filter.mp hKnown).2 rfl
    | activeConnectionChanged i =>
      obtain rfl := Option.some.inj hElse
      rw [b.objects.active_sync_changed]
      exact hRequest.change ActiveStatus.of Iff.rfl fun _ _ => Or.inl rfl
    | _ => cases hElse
  · rw [b.objects.active_sync_elsewhere _ hElse]
    refine hRequest.elsewhere ?_ fun hWaits => (List.mem_cons.mp hWaits).resolve_left ?_
    · cases e with
      | activeConnectionAdded i =>
        exact List.mem_append.trans (or_iff_left fun hNew =>
          hElse (congrArg some (List.mem_singleton.mp hNew).symm))
      | activeConnectionRemoved i =>
        exact List.mem_filter.trans (and_iff_left (bne_iff_ne.mpr fun hId =>
          hElse (congrArg some hId.symm)))
      | _ => exact Iff.rfl
    · rintro rfl
      exact hElse rfl

/-- What is said of the coming and going of a device when an event is followed. -/
theorem Trails.follow_told (h : b.Trails o) (hEvents : b.manager.events = e :: events) (id : Nat) :
    Told id (id ∈ (o.hear e).seenDevices)
      (((b.objects.sync { b.manager with events } e).1.devices.lookup id).isSome = true)
      (comings (devicePath id)
        (b.signals ++ (b.objects.sync { b.manager with events } e).2)) := by
  have hTold := h.told id
  obtain ⟨hAccepts, -⟩ := h.next hEvents
  rw [comings_append]
  by_cases hElse : ∀ i, e ≠ .deviceAdded i ∧ e ≠ .deviceRemoved i
  · rw [b.objects.comings_sync_elsewhere _ hElse, List.append_nil]
    have hShown : ((b.objects.sync { b.manager with events } e).1.devices.lookup id).isSome =
        (b.objects.devices.lookup id).isSome := by
      by_cases hMoves : e.deviceTold? = some id
      · cases e with
        | deviceAdded i => exact absurd rfl (hElse i).1
        | deviceRemoved i => exact absurd rfl (hElse i).2
        | deviceStateChanged i new old reason =>
          obtain rfl := Option.some.inj hMoves
          rw [b.objects.device_sync_moved]
          cases b.objects.devices.lookup i with
          | none => rfl
          | some s => exact Option.isSome_or.trans (Bool.or_true _)
        | _ => cases hMoves
      · rw [b.objects.device_sync_elsewhere _ hMoves]
    rw [hShown]
    cases e with
    | deviceAdded i => exact absurd rfl (hElse i).1
    | _ => exact hTold
  · cases e with
    | deviceAdded i => exact hTold.added hAccepts
    | deviceRemoved i => exact hTold.removed
    | _ => exact absurd (fun i => ⟨nofun, nofun⟩) hElse

/-- What the manager object shows when an event is followed. -/
theorem Trails.follow_state (h : b.Trails o) (hEvents : b.manager.events = e :: events) :
    (b.objects.sync { b.manager with events } e).1.manager.state = b.manager.state.number ∨
      ∃ state, .stateChanged state ∈ events := by
  have hState := h.state
  rw [hEvents] at hState
  by_cases hElse : ∀ state, e ≠ .stateChanged state
  · rw [b.objects.state_sync_elsewhere _ hElse]
    exact hState.imp_right fun ⟨state, he⟩ =>
      ⟨state, (List.mem_cons.mp he).resolve_left (hElse state).symm⟩
  · obtain ⟨state, hEvent⟩ := not_forall_not.mp hElse
    obtain ⟨-, hRest, hView⟩ := h.next hEvents
    subst hEvent
    have hLatest := hRest.latest (f := View.state) quiet_state
    rw [hView] at hLatest
    refine hLatest.imp (fun hSame => congrArg ManagerState.number hSame) ?_
    rintro ⟨_, he, state, rfl⟩
    exact ⟨state, he⟩

theorem Trails.follow_networking (h : b.Trails o) (hEvents : b.manager.events = e :: events) :
    (b.objects.sync { b.manager with events } e).1.manager.networkingEnabled =
        b.manager.networkingEnabled ∨
      ∃ enabled, .networkingEnabledChanged enabled ∈ events := by
  have hNetworking := h.networking
  rw [hEvents] at hNetworking
  by_cases hElse : ∀ enabled, e ≠ .networkingEnabledChanged enabled
  · rw [b.objects.networking_sync_elsewhere _ hElse]
    exact hNetworking.imp_right fun ⟨enabled, he⟩ =>
      ⟨enabled, (List.mem_cons.mp he).resolve_left (hElse enabled).symm⟩
  · obtain ⟨enabled, hEvent⟩ := not_forall_not.mp hElse
    obtain ⟨-, hRest, hView⟩ := h.next hEvents
    subst hEvent
    have hLatest := hRest.latest (f := View.networkingEnabled) quiet_networking
    rw [hView] at hLatest
    refine hLatest.imp_right ?_
    rintro ⟨_, he, enabled, rfl⟩
    exact ⟨enabled, he⟩

theorem Trails.follow_listed (h : b.Trails o) (hEvents : b.manager.events = e :: events) :
    (b.objects.sync { b.manager with events } e).1.manager.activeConnections =
        (ManagerStatus.of b.manager).activeConnections ∨
      .activeConnectionsChanged ∈ events := by
  have hListed := h.listed
  rw [hEvents] at hListed
  by_cases hElse : e = .activeConnectionsChanged
  · subst hElse
    exact Or.inl (b.objects.listed_sync _)
  · rw [b.objects.listed_sync_elsewhere _ hElse]
    exact hListed.imp_right fun he => (List.mem_cons.mp he).resolve_left (Ne.symm hElse)

end Follow

/-- The oldest event is followed, and the observer reads it. -/
theorem Trails.follow (h : b.Trails o) : ∃ o', (b.turn .follow).Trails o' := by
  cases hEvents : b.manager.events with
  | nil =>
    refine ⟨o, ?_⟩
    have hSame : b.turn .follow = b := by
      unfold turn
      dsimp only
      rw [hEvents]
    rw [hSame]
    exact h
  | cons e events =>
    obtain ⟨-, hRest, -⟩ := h.next hEvents
    obtain ⟨τ, hTracks⟩ := h.tracks
    rw [hEvents] at hTracks
    rw [turn_follow hEvents]
    exact ⟨o.hear e,
      { rested := h.rested.next hEvents
        plain := h.plain
        hears := hRest
        tracks := ⟨τ, hTracks.taken⟩
        remembers := h.remembers.hear e
        devices := h.follow_device hEvents
        active := h.follow_request hEvents
        state := h.follow_state hEvents
        networking := h.follow_networking hEvents
        listed := h.follow_listed hEvents
        distinct := b.objects.distinct_sync _ h.distinct e
        told := h.follow_told hEvents }⟩

/-- Whatever comes next, the objects are as far as some observer. -/
theorem Trails.run (h : b.Trails o) (turns : List Turn) : ∃ o', (b.run turns).Trails o' := by
  induction turns generalizing b o with
  | nil => exact ⟨o, h⟩
  | cons turn turns ih =>
    cases turn with
    | operate operation => exact ih (h.operate operation)
    | follow =>
      obtain ⟨o', h'⟩ := h.follow
      exact ih h'

-- ---------------------------------------------------------------------------
-- Runs
-- ---------------------------------------------------------------------------

/-- A manager without devices goes on the bus. -/
theorem trails_start {m : Manager} {τ : Nat → DeviceState}
    (hRested : m.Rested fun _ _ => True) (hPlain : ∀ r ∈ m.requests, r.Plain)
    (hHears : o.Hears m.events) (hTracks : Manager.Tracks τ (o.read m.events) (m, .empty))
    (hRemembers : o.Remembers) (hEmpty : m.devices = []) : (start m).Trails o := by
  have hNobody : m.requests = [] := by
    refine List.eq_nil_iff_forall_not_mem.mpr fun r hr => ?_
    obtain ⟨d, hd, -⟩ := hRested.toSettled.ownsDevices.present r hr
    rw [hEmpty] at hd
    cases hd
  have hNoDevice : ∀ id, m.device? id = none := by
    intro id
    unfold Manager.device?
    rw [hEmpty]
    rfl
  have hNoRequest : ∀ id, m.request? id = none := by
    intro id
    unfold Manager.request?
    rw [hNobody]
    rfl
  exact
    { rested := hRested
      plain := hPlain
      hears := hHears
      tracks := ⟨τ, hTracks⟩
      remembers := hRemembers
      devices := fun id => (hNoDevice id).symm ▸ .absent
      active := fun id => (hNoRequest id).symm ▸ .absent
      state := Or.inl rfl
      networking := Or.inl rfl
      listed := Or.inl rfl
      distinct := ⟨List.nodup_nil, List.nodup_nil⟩
      told := fun id => ⟨fun _ => rfl, ⟨nofun, nofun⟩, List.nil_prefix⟩ }

/-- The events of a run are followed by someone who was there from the start; some of them may have
been taken before. -/
theorem start_trails (store : StateStore) (allowed : List Nat) (timeout : Option Nat) (epoch : Nat)
    (before : List Operation) {events : List ManagerEvent}
    (hEmpty : ((Manager.start store allowed timeout epoch).run before).devices = [])
    (hLeft : events <:+ ((Manager.start store allowed timeout epoch).run before).events) :
    ∃ o, (start { (Manager.start store allowed timeout epoch).run before with events }).Trails o := by
  have hStart : (Manager.start store allowed timeout epoch).Rested fun _ _ => True :=
    Manager.start_rested store allowed timeout epoch
  have hRested := Manager.run_rested hStart before
  have hPlain := Manager.run_requests store allowed timeout epoch before
  have hNone : (Manager.start store allowed timeout epoch).events = [] := rfl
  generalize Manager.start store allowed timeout epoch = m at *
  obtain ⟨τ, hTracks⟩ := Manager.tracks_of hStart.linked hStart.queue
  obtain ⟨τ', news, hNews, hHears, hTracks'⟩ := Manager.run_tracked hStart before hTracks
  change (m.run before).events = m.events ++ news at hNews
  rw [hNone, List.nil_append] at hNews
  have hTaken := hRested.taken hLeft
  rw [hNews] at hLeft
  obtain ⟨taken, rfl⟩ := hLeft
  rw [Observer.read_append] at hTracks'
  exact ⟨(Observer.of m).read taken, trails_start hTaken (fun r hr => (hPlain r hr).1) hHears.rest
    hTracks'.taken ((Observer.remembers_of m).read taken) hEmpty⟩

/-- **The bus mirrors the manager.** A manager that has no devices goes on the bus; then it is asked
for things, and its events are followed, in any order. Whenever no event waits the objects show what
there is. At each path a device is said to come once and then to go once, if at all, and it is there
exactly if it is said to have come and not to have gone. -/
theorem run_mirrors (store : StateStore) (allowed : List Nat) (timeout : Option Nat) (epoch : Nat)
    (before : List Operation) (events : List ManagerEvent) (turns : List Turn)
    (hEmpty : ((Manager.start store allowed timeout epoch).run before).devices = [])
    (hLeft : events <:+ ((Manager.start store allowed timeout epoch).run before).events) :
    let m := { (Manager.start store allowed timeout epoch).run before with events }
    let b := (start m).run turns
    (b.manager.events = [] → Mirrors b.objects b.manager) ∧
      (∀ path, ∃ id, comings path b.signals <+: [.deviceAdded id, .deviceRemoved id]) ∧
      ∀ id, (b.objects.devices.lookup id).isSome = true ↔
        comings (devicePath id) b.signals = [.deviceAdded id] := by
  intro m b
  obtain ⟨o, hStart⟩ := start_trails store allowed timeout epoch before hEmpty hLeft
  obtain ⟨o', hTrails⟩ := hStart.run turns
  refine ⟨hTrails.mirrors, fun path => ?_, fun id => (hTrails.told id).shown⟩
  by_cases hPath : ∃ id, devicePath id = path
  · obtain ⟨id, rfl⟩ := hPath
    exact ⟨id, (hTrails.told id).inTurn⟩
  · refine ⟨0, ?_⟩
    rw [comings_nowhere (not_exists.mp hPath)]
    exact List.nil_prefix

/-- The scanner comes in and dials, and the bus follows only then. -/
theorem run_mirrors_dialUp :
    let m := { Manager.start Manager.DialUp.store [] none 0 with events := [] }
    let b := (start m).run (Manager.DialUp.connecting.map Turn.operate ++ List.replicate 15 .follow)
    b.manager.events = [] ∧ Mirrors b.objects b.manager :=
  have hFollowed : ((start { Manager.start Manager.DialUp.store [] none 0 with events := [] }).run
      (Manager.DialUp.connecting.map Turn.operate ++ List.replicate 15 .follow)).manager.events =
        [] := by decide +kernel
  ⟨hFollowed, (run_mirrors Manager.DialUp.store [] none 0 [] [] _ rfl (List.suffix_refl _)).1
    hFollowed⟩

-- the bus has followed what was told before the scanner began to dial
example :
    let b := (start (Manager.start Manager.DialUp.store [] none 0)).run
      (Manager.DialUp.connecting.map Turn.operate ++ List.replicate 7 .follow)
    b.manager.devices.map Device.state = [.config] ∧
      b.objects.devices.map (fun e => (e.1, e.2.state)) = [(0, DeviceState.disconnected.number)] ∧
      b.objects.active = [] := by
  decide +kernel

end Mirror

end ScannerHub
