import Mathlib.Data.List.Basic
import ScannerHub.Proofs.Manager.Rest

/-!
# Observers

Whoever follows the published events of the manager knows its devices and their states, its
requests, the state of the whole and the two switches, without ever asking. An observer starts from
a look at the manager, changes his view with each event, and is never told of something that cannot
be: of a device that is not there, or of a move from a state in which the device is not.

The events of a device are published long after the device has moved, so in the middle of an
operation the view lags behind. What waits to be told of a device is the trail from the state in the
view to the state of the device.

* `View`, `View.of` — what an observer knows, and what there is to know;
* `Observer.Accepts` — an event that fits what the observer knows;
* `Observer.Hears` — events that all fit;
* `Site.Leads`, `Manager.Tracks` — how a view lags behind.

## Results

* `Change.tracked` — each change is published;
* `run_published` — the published events of any run fit, and lead from what there was to know to
  what there is.
-/

namespace ScannerHub

-- ---------------------------------------------------------------------------
-- Views
-- ---------------------------------------------------------------------------

/-- What an observer knows of the manager. -/
@[ext]
structure View where
  /-- The devices in the order in which they came, with their states. -/
  devices : List (Nat × DeviceState)
  requests : List Nat
  state : ManagerState
  networkingEnabled : Bool
  sleeping : Bool
deriving DecidableEq, Repr

/-- What there is to know of the manager. -/
def View.of (m : Manager) : View :=
  { devices := m.devices.map fun d => (d.id, d.state), requests := m.requests.map Request.id
    state := m.state, networkingEnabled := m.networkingEnabled, sleeping := m.sleeping }

/-- The view after an event. A new device is unmanaged. -/
def View.hear (v : View) : ManagerEvent → View
  | .stateChanged state => { v with state }
  | .deviceAdded id => { v with devices := v.devices ++ [(id, .unmanaged)] }
  | .deviceRemoved id => { v with devices := v.devices.filter fun e => e.1 != id }
  | .deviceStateChanged id new _ _ =>
    { v with devices := v.devices.map fun e => if e.1 = id then (id, new) else e }
  | .activeConnectionAdded id => { v with requests := v.requests ++ [id] }
  | .activeConnectionRemoved id => { v with requests := v.requests.filter fun r => r != id }
  | .networkingEnabledChanged networkingEnabled => { v with networkingEnabled }
  | .sleepingChanged sleeping => { v with sleeping }
  | .activeConnectionsChanged | .activeConnectionChanged _ | .linkRequested _ _ => v

/-- Someone who follows the events, and remembers all numbers that he heard of. -/
structure Observer where
  view : View
  seenDevices : List Nat
  seenRequests : List Nat
deriving DecidableEq, Repr

namespace Observer

/-- An observer who has just looked at the manager. -/
def of (m : Manager) : Observer :=
  { view := .of m, seenDevices := m.devices.map Device.id, seenRequests := m.requests.map Request.id }

def hear (o : Observer) (e : ManagerEvent) : Observer :=
  { view := o.view.hear e
    seenDevices := match e with
      | .deviceAdded id => id :: o.seenDevices
      | _ => o.seenDevices
    seenRequests := match e with
      | .activeConnectionAdded id => id :: o.seenRequests
      | _ => o.seenRequests }

/-- The observer after several events. -/
def read (o : Observer) (events : List ManagerEvent) : Observer := events.foldl hear o

/-- An event that fits what the observer knows: new numbers were never seen before, other ones are
there, a device moves along an edge of the state machine from the state in which it is, and whatever
is said to have changed was different before. -/
def Accepts (o : Observer) : ManagerEvent → Prop
  | .stateChanged state => state ≠ o.view.state
  | .deviceAdded id => id ∉ o.seenDevices
  | .deviceRemoved id | .linkRequested id _ => id ∈ o.view.devices.map Prod.fst
  | .deviceStateChanged id new old _ => o.view.devices.lookup id = some old ∧ old.CanMove new
  | .activeConnectionAdded id => id ∉ o.seenRequests
  | .activeConnectionRemoved id | .activeConnectionChanged id => id ∈ o.view.requests
  | .networkingEnabledChanged enabled => enabled ≠ o.view.networkingEnabled
  | .sleepingChanged sleeping => sleeping ≠ o.view.sleeping
  | .activeConnectionsChanged => True

instance (o : Observer) (e : ManagerEvent) : Decidable (o.Accepts e) :=
  match e with
  | .stateChanged state => inferInstanceAs (Decidable (state ≠ o.view.state))
  | .deviceAdded id => inferInstanceAs (Decidable (id ∉ o.seenDevices))
  | .deviceRemoved id | .linkRequested id _ =>
    inferInstanceAs (Decidable (id ∈ o.view.devices.map Prod.fst))
  | .deviceStateChanged id new old _ =>
    inferInstanceAs (Decidable (o.view.devices.lookup id = some old ∧ old.CanMove new))
  | .activeConnectionAdded id => inferInstanceAs (Decidable (id ∉ o.seenRequests))
  | .activeConnectionRemoved id | .activeConnectionChanged id =>
    inferInstanceAs (Decidable (id ∈ o.view.requests))
  | .networkingEnabledChanged enabled =>
    inferInstanceAs (Decidable (enabled ≠ o.view.networkingEnabled))
  | .sleepingChanged sleeping => inferInstanceAs (Decidable (sleeping ≠ o.view.sleeping))
  | .activeConnectionsChanged => .isTrue trivial

/-- Events that all fit, one after the other. -/
def Hears (o : Observer) : List ManagerEvent → Prop
  | [] => True
  | e :: es => o.Accepts e ∧ (o.hear e).Hears es

instance decidableHears (o : Observer) : (es : List ManagerEvent) → Decidable (o.Hears es)
  | [] => .isTrue trivial
  | e :: es =>
    have := decidableHears (o.hear e) es
    inferInstanceAs (Decidable (o.Accepts e ∧ (o.hear e).Hears es))

variable {o : Observer}

theorem read_append (o : Observer) (es fs : List ManagerEvent) :
    o.read (es ++ fs) = (o.read es).read fs :=
  List.foldl_append

theorem Hears.append {es fs : List ManagerEvent} (h : o.Hears es) (h' : (o.read es).Hears fs) :
    o.Hears (es ++ fs) := by
  induction es generalizing o with
  | nil => exact h'
  | cons e es ih => exact ⟨h.1, ih h.2 h'⟩

/-- Events that fit and change nothing that the observer knows. -/
theorem hears_same {es : List ManagerEvent} (hSame : ∀ e ∈ es, o.hear e = o)
    (hAccepts : ∀ e ∈ es, o.Accepts e) : o.Hears es ∧ o.read es = o := by
  induction es with
  | nil => exact ⟨trivial, rfl⟩
  | cons e es ih =>
    obtain ⟨hRest, hRead⟩ := ih (fun f hf => hSame f (List.mem_cons_of_mem e hf))
      fun f hf => hAccepts f (List.mem_cons_of_mem e hf)
    have hFirst := hSame e List.mem_cons_self
    refine ⟨⟨hAccepts e List.mem_cons_self, ?_⟩, ?_⟩
    · rw [hFirst]
      exact hRest
    · show (o.hear e).read es = o
      rw [hFirst]
      exact hRead

end Observer

/-- What waits to be told of a site leads from a state to that of its device. Of a device that is not
there nothing waits. -/
structure Site.Leads (s : Site) (t : DeviceState) : Prop where
  absent : s.device = none → s.queue = []
  trail : ∀ d, s.device = some d → Trail t s.queue d.state

namespace Site

variable {s : Site} {d : Device} {t : DeviceState}

/-- Nothing waits, and the state is that of the device. -/
theorem Leads.of_nil (hQueue : s.queue = []) (hState : ∀ d, s.device = some d → t = d.state) :
    s.Leads t := by
  refine ⟨fun _ => hQueue, fun d hd => ?_⟩
  rw [hQueue]
  exact hState d hd

/-- Only the device and what waits of it matter. -/
theorem Leads.of_eq {s' : Site} (h : s.Leads t) (hDevice : s'.device = s.device)
    (hQueue : s'.queue = s.queue) : s'.Leads t := by
  refine ⟨fun hNone => ?_, fun d hd => ?_⟩
  · rw [hQueue]
    exact h.absent (hDevice ▸ hNone)
  · rw [hQueue]
    exact h.trail d (hDevice ▸ hd)

theorem Leads.hears (h : s.Leads t) (hd : s.device = some d) {u : Update}
    (hTrail : Trail d.state u.events u.device.state) : (s.hears u).Leads t := by
  refine ⟨nofun, fun e he => ?_⟩
  cases he
  exact (h.trail d hd).append hTrail

theorem Leads.launched (h : s.Leads t) (hd : s.device = some d) {r : Request} {u : Update}
    (hTrail : Trail d.state u.events u.device.state) : (s.launched r u).Leads t := by
  refine ⟨nofun, fun e he => ?_⟩
  cases he
  exact (h.trail d hd).append hTrail

theorem Leads.forget (h : s.Leads t) : s.forget.Leads t := by
  refine ⟨fun hNone => h.absent (Option.map_eq_none_iff.mp hNone), fun e he => ?_⟩
  obtain ⟨d, hd, rfl⟩ := Option.map_eq_some_iff.mp he
  exact h.trail d hd

/-- An event that waits is one of a device that is there. -/
theorem Leads.present (h : s.Leads t) {e : DeviceEvent} {rest : List DeviceEvent}
    (hQueue : s.queue = e :: rest) : ∃ d, s.device = some d := by
  cases hd : s.device with
  | some d => exact ⟨d, rfl⟩
  | none =>
    have hNil := h.absent hd
    rw [hQueue] at hNil
    cases hNil

/-- Once an event was told, the others lead on from the state that it told of. -/
theorem Leads.tell (h : s.Leads t) {e : DeviceEvent} {rest : List DeviceEvent}
    (hQueue : s.queue = e :: rest) : (s.tell e).Leads (e.entered?.getD t) := by
  obtain ⟨d, hd⟩ := h.present hQueue
  refine ⟨fun hNone => ?_, fun d' hd' => ?_⟩
  · rw [show s.device = none from hNone] at hd
    cases hd
  · have hTrail := h.trail d' hd'
    show Trail _ s.queue.tail d'.state
    rw [hQueue] at hTrail ⊢
    cases e with
    | stateChanged id new old reason => exact hTrail.2.2
    | needSecrets id need => exact hTrail
    | linkRequested id request => exact hTrail

/-- A device that changed in nothing but its flags. -/
theorem Leads.marked (h : s.Leads t) (hd : s.device = some d) {e : Device}
    (hState : e.state = d.state) : Leads { s with device := some e } t := by
  refine ⟨nofun, fun e' he => ?_⟩
  cases he
  rw [hState]
  exact h.trail d hd

end Site

namespace Manager

variable {A : Nat → String → Prop} {m m' : Manager} {a a' : Agenda} {id : Nat} {o : Observer}
  {τ : Nat → DeviceState}

-- ---------------------------------------------------------------------------
-- What can be seen of a manager
-- ---------------------------------------------------------------------------

def deviceIds (m : Manager) : List Nat := m.devices.map Device.id

def requestIds (m : Manager) : List Nat := m.requests.map Request.id

/-- What there is to know of the manager, if its devices were in other states. -/
def face (τ : Nat → DeviceState) (m : Manager) : View :=
  { devices := m.deviceIds.map fun id => (id, τ id), requests := m.requestIds
    state := m.state, networkingEnabled := m.networkingEnabled, sleeping := m.sleeping }

theorem mem_deviceIds {d : Device} (hd : m.device? id = some d) : id ∈ m.deviceIds := by
  obtain ⟨hMem, rfl⟩ := device?_eq_some hd
  exact List.mem_map_of_mem hMem

theorem face_devices_fst (τ : Nat → DeviceState) (m : Manager) :
    (face τ m).devices.map Prod.fst = m.deviceIds := by
  unfold face
  rw [List.map_map]
  exact List.map_id m.deviceIds

/-- With the states of its devices this is all that there is to know of the manager. -/
theorem face_eq_of (hStates : ∀ d ∈ m.devices, τ d.id = d.state) : face τ m = .of m := by
  unfold face View.of deviceIds
  rw [List.map_map]
  congr 1
  exact List.map_congr_left fun d hd => congrArg (Prod.mk d.id) (hStates d hd)

/-- One manager at two times, with nothing changed that an observer is told of, apart from what its
devices tell. -/
structure Hides (m m' : Manager) : Prop where
  deviceIds : m'.deviceIds = m.deviceIds
  requestIds : m'.requestIds = m.requestIds
  state : m'.state = m.state
  networkingEnabled : m'.networkingEnabled = m.networkingEnabled
  sleeping : m'.sleeping = m.sleeping
  events : m'.events = m.events
  nextDevice : m'.nextDevice = m.nextDevice
  nextRequest : m'.nextRequest = m.nextRequest

theorem Hides.refl (m : Manager) : Hides m m := ⟨rfl, rfl, rfl, rfl, rfl, rfl, rfl, rfl⟩

theorem Hides.face_eq (h : Hides m m') (τ : Nat → DeviceState) : face τ m' = face τ m := by
  unfold face
  rw [h.deviceIds, h.requestIds, h.state, h.networkingEnabled, h.sleeping]

theorem hides_setDevice (m : Manager) (e : Device) : Hides m (m.setDevice e) :=
  ⟨map_key_replaceFirst Device.id e m.devices, rfl, rfl, rfl, rfl, rfl, rfl, rfl⟩

theorem hides_modifyDevice (m : Manager) (id : Nat) (f : Device → Device) :
    Hides m (m.modifyDevice id f) := by
  unfold modifyDevice
  split
  · exact Hides.refl m
  · exact hides_setDevice m _

theorem requestIds_deliver (m : Manager) (listeners : List Listener) (events : List DeviceEvent) :
    (m.deliver listeners events).requestIds = m.requestIds := by
  show (m.requests.map _).map Request.id = m.requests.map Request.id
  rw [List.map_map]
  refine List.map_congr_left fun r _ => ?_
  show Request.id (if _ then _ else _) = r.id
  split <;> rfl

theorem hides_updateDevice (m : Manager) (id : Nat) (f : Device → Update) :
    Hides m (m.updateDevice id f) := by
  unfold Manager.updateDevice
  split
  · exact Hides.refl m
  · rename_i d _
    have hSet := hides_setDevice m (f d).device
    exact ⟨hSet.deviceIds, requestIds_deliver _ _ _, rfl, rfl, rfl, rfl, rfl, rfl⟩

-- ---------------------------------------------------------------------------
-- A view that lags behind
-- ---------------------------------------------------------------------------

/-- No number of which an observer has heard is given out again. -/
structure Spent (o : Observer) (s : Manager × Agenda) : Prop where
  devices : ∀ id ∈ o.seenDevices, id < s.1.nextDevice
  requests : ∀ id ∈ o.seenRequests, id < s.1.nextRequest ∧ id ∉ s.2.numbers
  distinct : s.2.numbers.Nodup
  bound : ∀ id ∈ s.2.numbers, id < s.1.nextRequest

/-- An observer knows all but the states of the devices, and what waits to be told leads from the
states that he knows to those of the devices. -/
structure Tracks (τ : Nat → DeviceState) (o : Observer) (s : Manager × Agenda) : Prop
    extends Spent o s where
  view : o.view = face τ s.1
  sites : ∀ id, (s.1.site id).Leads (τ id)

/-- One manager at two times. The observer of the first one is told of all that led to the second
one. -/
def Tracked (o : Observer) (s s' : Manager × Agenda) : Prop :=
  ∃ τ news, s'.1.events = s.1.events ++ news ∧ o.Hears news ∧ Tracks τ (o.read news) s'

/-- Nobody has to be told of new numbers while none are given out. -/
theorem Spent.same {o' : Observer} (h : Spent o (m, a)) (hDevices : o'.seenDevices = o.seenDevices)
    (hRequests : o'.seenRequests = o.seenRequests) (hNextDevice : m'.nextDevice = m.nextDevice)
    (hNextRequest : m'.nextRequest = m.nextRequest) (hNumbers : a'.numbers = a.numbers) :
    Spent o' (m', a') := by
  obtain ⟨hSeen, hGiven, hDistinct, hBound⟩ := h
  refine ⟨fun id hId => ?_, fun id hId => ?_, ?_, fun id hId => ?_⟩
  · rw [hDevices] at hId
    exact Nat.lt_of_lt_of_eq (hSeen id hId) hNextDevice.symm
  · rw [hRequests] at hId
    show id < m'.nextRequest ∧ id ∉ a'.numbers
    rw [hNextRequest, hNumbers]
    exact hGiven id hId
  · show a'.numbers.Nodup
    rw [hNumbers]
    exact hDistinct
  · change id ∈ a'.numbers at hId
    rw [hNumbers] at hId
    exact Nat.lt_of_lt_of_eq (hBound id hId) hNextRequest.symm

/-- Once nothing waits to be told the observer knows the states of the devices too. -/
theorem Tracks.view_eq (h : Tracks τ o (m, a)) (hLinked : m.Linked) (hQueue : m.queue = []) :
    o.view = .of m := by
  rw [h.view]
  refine face_eq_of fun d hd => ?_
  have hTrail := (h.sites d.id).trail d (hLinked.device?_of_mem hd)
  rw [show Site.queue _ = [] from queueOf_nil hQueue d.id] at hTrail
  exact hTrail

/-- An observer who has just looked at the manager knows all of it. -/
theorem tracks_of (hLinked : m.Linked) (hQueue : m.queue = []) :
    ∃ τ, Tracks τ (.of m) (m, .empty) := by
  refine ⟨fun id => ((m.device? id).map Device.state).getD .unmanaged, ⟨?_, ?_, List.nodup_nil, nofun⟩,
    (face_eq_of fun d hd => ?_).symm, fun id => Site.Leads.of_nil (queueOf_nil hQueue id) fun d hd => ?_⟩
  · intro id hId
    obtain ⟨d, hd, rfl⟩ := List.mem_map.mp hId
    exact hLinked.deviceBound d hd
  · intro id hId
    obtain ⟨r, hr, rfl⟩ := List.mem_map.mp hId
    exact ⟨hLinked.requestBound r hr, List.not_mem_nil⟩
  · rw [hLinked.device?_of_mem hd]
    rfl
  · rw [show m.device? id = some d from hd]
    rfl

/-- Only a device that is there has something to tell. -/
theorem Tracks.present {s : Manager × Agenda} (h : Tracks τ o s) {t : DeviceState}
    (hWaits : t ∈ entered (s.1.queueOf id)) : ∃ d, s.1.device? id = some d := by
  cases hQueue : s.1.queueOf id with
  | nil =>
    rw [hQueue] at hWaits
    cases hWaits
  | cons e rest => exact (h.sites id).present hQueue

theorem Tracks.tracked (h : Tracks τ o (m, a)) : Tracked o (m, a) (m, a) :=
  ⟨τ, [], (List.append_nil _).symm, trivial, h⟩

/-- What is heard after something else was heard. -/
theorem Tracked.andThen {s s' s'' : Manager × Agenda} (h : Tracked o s s')
    (h' : ∀ τ o', Tracks τ o' s' → Tracked o' s' s'') : Tracked o s s'' := by
  obtain ⟨τ, news, hEvents, hHears, hTracks⟩ := h
  obtain ⟨τ', later, hEvents', hHears', hTracks'⟩ := h' τ _ hTracks
  refine ⟨τ', news ++ later, ?_, hHears.append hHears', ?_⟩
  · rw [hEvents', hEvents, List.append_assoc]
  · rw [Observer.read_append]
    exact hTracks'

-- ---------------------------------------------------------------------------
-- Changes of which an observer is not told
-- ---------------------------------------------------------------------------

/-- Nothing is published, and what there is to know stays the same. -/
theorem Tracks.hidden (h : Tracks τ o (m, a)) (hHides : Hides m m')
    (hNumbers : a'.numbers = a.numbers) (hSites : ∀ x, (m'.site x).Leads (τ x)) :
    Tracked o (m, a) (m', a') := by
  refine ⟨τ, [], ?_, trivial, ?_, h.view.trans (hHides.face_eq τ).symm, hSites⟩
  · rw [List.append_nil]
    exact hHides.events
  · exact h.toSpent.same rfl rfl hHides.nextDevice hHides.nextRequest hNumbers

/-- One site has changed, and what waits to be told says how. -/
theorem Tracks.leads {s : Site} (h : Tracks τ o (m, a)) (hActs : Acts A m m' id s)
    (hs : s.Leads (τ id)) (x : Nat) : (m'.site x).Leads (τ x) := by
  rw [hActs.site x]
  split
  · rename_i hx
    rw [hx]
    exact hs
  · exact h.sites x

/-- What a device tells waits, so the observer is not told at once. -/
theorem Tracks.updated (h : Tracks τ o (m, a)) {d : Device} {f : Device → Update}
    (hd : m.device? id = some d)
    (hActs : Acts A m (m.updateDevice id f) id ((m.site id).hears (f d)))
    (hTrail : Trail d.state (f d).events (f d).device.state) (hNumbers : a'.numbers = a.numbers) :
    Tracked o (m, a) (m.updateDevice id f, a') :=
  h.hidden (hides_updateDevice m id f) hNumbers (h.leads hActs ((h.sites id).hears hd hTrail))

theorem Tracks.recovered (h : Tracks τ o (m, a)) (hFits : m.Fits A) (id : Nat)
    (reason : StateReason) (hNumbers : a'.numbers = a.numbers) :
    Tracked o (m, a) (m.updateDevice id fun d => d.moveTo .disconnected reason, a') := by
  cases hd : m.device? id with
  | none =>
    rw [updateDevice_absent hd]
    exact h.hidden (Hides.refl m) hNumbers h.sites
  | some d =>
    have hSound := hFits.sound hd
    have hCarries := Device.moveTo_disconnected_carries reason hSound.allListen hSound.device
    exact h.updated (f := fun d => d.moveTo .disconnected reason) hd (hFits.carries hd hCarries)
      (Device.moveTo_proceeds d .disconnected reason).trail hNumbers

/-- Nobody is told of the flags of a device. -/
theorem Tracks.marked (h : Tracks τ o (m, a)) (hFits : m.Fits A) (id : Nat) (due : Bool) (x : Nat) :
    ((m.modifyDevice id fun d => { d with activationScheduled := due }).site x).Leads (τ x) := by
  cases hd : m.device? id with
  | none =>
    rw [modifyDevice_absent hd]
    exact h.sites x
  | some d => exact h.leads (hFits.marked hd due) ((h.sites id).marked hd rfl) x

theorem Tracks.scheduled (h : Tracks τ o (m, a)) (hFits : m.Fits A) (id : Nat)
    (hNumbers : a'.numbers = a.numbers) : Tracked o (m, a) (m.schedule id, a') := by
  obtain ⟨hEq, -⟩ | hEq := m.schedule_cases id
  · rw [hEq]
    exact h.hidden (Hides.refl m) hNumbers h.sites
  · rw [hEq]
    have hHides := hides_modifyDevice m id fun d => { d with activationScheduled := true }
    refine h.hidden ?_ hNumbers (h.marked hFits id true)
    exact ⟨hHides.deviceIds, hHides.requestIds, hHides.state, hHides.networkingEnabled,
      hHides.sleeping, hHides.events, hHides.nextDevice, hHides.nextRequest⟩

/-- A number that is given out was never seen before. -/
theorem Tracks.numbered (h : Tracks τ o (m, a)) : Tracked o (m, a)
    ({ m with nextRequest := m.nextRequest + 1 }, { a with numbers := m.nextRequest :: a.numbers }) := by
  refine ⟨τ, [], (List.append_nil _).symm, trivial, ⟨h.devices, fun id hId => ?_, ?_, fun id hId => ?_⟩,
    h.view, h.sites⟩
  · obtain ⟨hSpent, hNotGiven⟩ := h.requests id hId
    refine ⟨Nat.lt_succ_of_lt hSpent, ?_⟩
    rw [List.mem_cons, not_or]
    exact ⟨Nat.ne_of_lt hSpent, hNotGiven⟩
  · exact List.nodup_cons.mpr ⟨fun hIn => Nat.lt_irrefl _ (h.bound _ hIn), h.distinct⟩
  · obtain rfl | hOld := List.mem_cons.mp hId
    · exact Nat.lt_succ_self _
    · exact Nat.lt_succ_of_lt (h.bound id hOld)

-- ---------------------------------------------------------------------------
-- Requests
-- ---------------------------------------------------------------------------

/-- An observer is told of requests that look different now. -/
theorem Tracks.quiet (h : Tracks τ o (m, a)) (hLeaves : Leaves m m')
    (hNumbers : a'.numbers = a.numbers) : Tracked o (m, a) (m', a') := by
  obtain ⟨news, hEvents, hNews⟩ := hLeaves.events
  have hSame : ∀ e ∈ news, o.hear e = o := by
    intro e he
    obtain ⟨r, -, rfl⟩ := hNews e he
    rfl
  have hAccepts : ∀ e ∈ news, o.Accepts e := by
    intro e he
    obtain ⟨r, hr, rfl⟩ := hNews e he
    show r.id ∈ o.view.requests
    rw [h.view]
    exact List.mem_map_of_mem hr
  obtain ⟨hHears, hRead⟩ := Observer.hears_same hSame hAccepts
  refine ⟨τ, news, hEvents, hHears, ?_⟩
  rw [hRead]
  refine ⟨h.toSpent.same rfl rfl hLeaves.nextDevice hLeaves.nextRequest hNumbers, ?_, fun x => ?_⟩
  · rw [h.view]
    unfold face deviceIds requestIds
    rw [hLeaves.devices, hLeaves.requests, hLeaves.state, hLeaves.networkingEnabled, hLeaves.sleeping]
  · exact (h.sites x).of_eq (hLeaves.device? x) (queueOf_congr hLeaves.queue x)

theorem Tracks.ended (h : Tracks τ o (m, a)) (hFits : m.Fits A) {r : Request} (hr : r ∈ m.requests)
    (reason : StateReason) : Tracked o (m, a) (m.teardown r.id reason, a) := by
  have hFound := hFits.linked.request?_of_mem hr
  have hSites := h.leads (hFits.teardown hFound reason) (h.sites r.device).forget
  rw [teardown_eq hFound] at hSites ⊢
  refine ⟨τ, [.activeConnectionRemoved r.id, .activeConnectionsChanged], rfl, ⟨?_, trivial, trivial⟩,
    h.toSpent.same rfl rfl rfl rfl rfl, ?_, hSites⟩
  · show r.id ∈ o.view.requests
    rw [h.view]
    exact List.mem_map_of_mem hr
  · show o.view.hear (.activeConnectionRemoved r.id) = _
    rw [h.view]
    have hIds := (hides_modifyDevice m r.device r.leave).deviceIds
    exact View.ext (congrArg (List.map fun id => (id, τ id)) hIds.symm) List.filter_map rfl rfl rfl

theorem Tracks.started (h : Tracks τ o (m, a)) (hFits : m.Fits A) {number : Nat} {d : Device}
    (spec : RequestSpec) {rest : List Nat} (hNumbers : a.numbers = number :: rest)
    (hd : m.device? id = some d) (hState : d.state = .disconnected) (hNone : m.requestOn? id = none)
    (hQueue : m.queueOf id = []) (hCheck : d.check spec.connection = .ok ())
    (hFresh : m.Fresh number) :
    Tracked o (m, a) (((m.undue id).launch number d spec).1, { a with numbers := rest }) := by
  obtain ⟨hLaunch, hEq, -, hSite⟩ := hFits.launched spec hd hState hNone hQueue hCheck hFresh
  have hTrail := (Device.activate_travels (hLaunch.joins.state.trans hState) (m.undue id).now
    ((m.undue id).starting number d spec).1.connection).1.trail
  rw [hLaunch.joins.state] at hTrail
  have hFresh' : (m.undue id).Fresh number := ⟨hFresh.requests, hFresh.calls, hFresh.bound⟩
  have hRequests := requests_joined (r := ((m.undue id).starting number d spec).1) hFresh'
    (((m.undue id).starting number d spec).2.activate (m.undue id).now
      ((m.undue id).starting number d spec).1.connection)
  have hSites : ∀ x, ((((m.undue id).launch number d spec).1).site x).Leads (τ x) := by
    intro x
    rw [hSite x]
    split
    · rename_i hx
      rw [hx]
      exact (h.sites id).launched hd hTrail
    · exact h.sites x
  rw [hEq] at hSites ⊢
  have hDevices := hides_setDevice (m.undue id)
    (((m.undue id).starting number d spec).2.activate (m.undue id).now
      ((m.undue id).starting number d spec).1.connection).device
  -- the number goes over from those that may still come to those that the observer has seen
  obtain ⟨hNew, hDistinct⟩ : number ∉ rest ∧ rest.Nodup := List.nodup_cons.mp (hNumbers ▸ h.distinct)
  have hGiven : number ∈ a.numbers := hNumbers ▸ List.mem_cons_self
  refine ⟨τ, [.activeConnectionAdded number, .activeConnectionsChanged], ?_, ⟨?_, trivial, trivial⟩,
    ⟨h.devices, fun id hId => ?_, hDistinct, fun id hId => ?_⟩, ?_, hSites⟩
  · show (m.events ++ _) ++ _ = _
    rw [List.append_assoc]
    rfl
  · exact fun hSeen => (h.requests number hSeen).2 hGiven
  · obtain rfl | hOld := List.mem_cons.mp hId
    · exact ⟨hFresh.bound, hNew⟩
    · obtain ⟨hSpent, hNotGiven⟩ := h.requests id hOld
      refine ⟨hSpent, fun hIn => hNotGiven ?_⟩
      show id ∈ a.numbers
      rw [hNumbers]
      exact List.mem_cons_of_mem number hIn
  · refine h.bound id ?_
    show id ∈ a.numbers
    rw [hNumbers]
    exact List.mem_cons_of_mem number hId
  · show o.view.hear (.activeConnectionAdded number) = face τ (Manager.joined _ _ _ _)
    rw [h.view]
    refine View.ext (congrArg (List.map fun id => (id, τ id)) hDevices.deviceIds.symm) ?_ rfl rfl rfl
    show m.requests.map Request.id ++ [number] = List.map Request.id (Manager.requests _)
    rw [hRequests, List.map_append]
    rfl

-- ---------------------------------------------------------------------------
-- Devices
-- ---------------------------------------------------------------------------

/-- The view after a device has moved. -/
theorem hear_moved (τ : Nat → DeviceState) (m : Manager) (id : Nat) (new old : DeviceState)
    (reason : StateReason) : (face τ m).hear (.deviceStateChanged id new old reason) =
      face (Function.update τ id new) m := by
  refine View.ext ?_ rfl rfl rfl rfl
  show (m.deviceIds.map _).map _ = m.deviceIds.map _
  rw [List.map_map]
  refine List.map_congr_left fun x _ => ?_
  show (if x = id then (id, new) else (x, τ x)) = (x, Function.update τ id new x)
  by_cases hx : x = id
  · rw [if_pos hx, hx, Function.update_self]
  · rw [if_neg hx, Function.update_of_ne hx]

/-- The manager told of the oldest event, and the observer of that. -/
theorem Tracks.told (h : Tracks τ o (m, a)) (hFits : m.Fits A) {e : DeviceEvent}
    {rest : List DeviceEvent} (hQueue : m.queue = e :: rest) :
    Tracked o (m, a) (m.told e rest, a.hear e) := by
  have hHead : (m.site e.device).queue = e :: rest.filter fun f => f.device == e.device := by
    show m.queue.filter _ = _
    rw [hQueue, List.filter_cons_of_pos (by simp)]
  obtain ⟨d, hd⟩ := (h.sites e.device).present hHead
  have hThere : e.device ∈ m.deviceIds := mem_deviceIds hd
  have hSites : ∀ x, ((m.told e rest).site x).Leads
      (Function.update τ e.device (e.entered?.getD (τ e.device)) x) := by
    intro x
    rw [(hFits.told hQueue).site x]
    by_cases hx : x = e.device
    · rw [if_pos hx, hx, Function.update_self]
      exact (h.sites e.device).tell hHead
    · rw [if_neg hx, Function.update_of_ne hx]
      exact h.sites x
  have hNumbers : (a.hear e).numbers = a.numbers := by
    unfold Agenda.hear
    split <;> rfl
  have hSpent : ∀ o' : Observer, o'.seenDevices = o.seenDevices → o'.seenRequests = o.seenRequests →
      Spent o' (m.told e rest, a.hear e) :=
    fun o' hDevices hRequests => h.toSpent.same hDevices hRequests rfl rfl hNumbers
  cases e with
  | needSecrets id need =>
    rw [show DeviceEvent.entered? (.needSecrets id need) = none from rfl, Option.getD_none,
      Function.update_eq_self] at hSites
    exact ⟨τ, [], rfl, trivial, hSpent _ rfl rfl, h.view, hSites⟩
  | linkRequested id request =>
    rw [show DeviceEvent.entered? (.linkRequested id request) = none from rfl, Option.getD_none,
      Function.update_eq_self] at hSites
    refine ⟨τ, [.linkRequested id request], rfl, ⟨?_, trivial⟩, hSpent _ rfl rfl, h.view, hSites⟩
    show id ∈ o.view.devices.map Prod.fst
    rw [h.view, face_devices_fst]
    exact hThere
  | stateChanged id new old reason =>
    have hTrail := (h.sites id).trail d hd
    rw [show (m.site id).queue = _ from hHead] at hTrail
    obtain ⟨hOld, hMove, -⟩ := hTrail
    have hAccepts : o.Accepts (.deviceStateChanged id new old reason) := by
      show o.view.devices.lookup id = some old ∧ old.CanMove new
      rw [h.view, hOld]
      exact ⟨List.lookup_graph τ hThere, hMove⟩
    have hView : o.view.hear (.deviceStateChanged id new old reason) =
        face (Function.update τ id new) m := by
      rw [h.view]
      exact hear_moved τ m id new old reason
    -- that the list is to be read again changes no view
    have hAgain : ∀ e ∈ (if rereadsActive new then [ManagerEvent.activeConnectionsChanged] else []),
        e = .activeConnectionsChanged := by
      split <;> simp
    obtain ⟨hHears, hSame⟩ := Observer.hears_same (o := o.hear (.deviceStateChanged id new old reason))
      (fun e he => by rw [hAgain e he]; rfl) (fun e he => by rw [hAgain e he]; trivial)
    have hRead : o.read (DeviceEvent.published (.stateChanged id new old reason)) =
        o.hear (.deviceStateChanged id new old reason) := hSame
    refine ⟨Function.update τ id new, _, rfl, ⟨hAccepts, hHears⟩, ?_⟩
    rw [hRead]
    exact ⟨hSpent _ rfl rfl, hView, hSites⟩

/-- A new device is unmanaged, and its number was never seen before. -/
theorem Tracks.arrived (h : Tracks τ o (m, .empty)) (hFits : m.Fits A) {d : Device}
    (hQueue : m.queue = []) (hUnused : d.Unused) (hUdi : ∀ x ∈ m.devices, x.udi ≠ d.udi) :
    Tracked o (m, .empty) (m.admitted d, .empty) := by
  have hSame : ∀ x ∈ m.deviceIds,
      Function.update τ m.nextDevice DeviceState.unmanaged x = τ x := by
    intro x hx
    obtain ⟨e, he, rfl⟩ := List.mem_map.mp hx
    exact Function.update_of_ne (Nat.ne_of_lt (hFits.linked.deviceBound e he)) _ _
  refine ⟨Function.update τ m.nextDevice .unmanaged, [.deviceAdded m.nextDevice], rfl, ⟨?_, trivial⟩,
    ⟨fun id hId => ?_, h.requests, h.distinct, h.bound⟩, ?_, fun x => ?_⟩
  · exact fun hSeen => Nat.lt_irrefl _ (h.devices _ hSeen)
  · obtain rfl | hOld := List.mem_cons.mp hId
    · exact Nat.lt_succ_self _
    · exact Nat.lt_succ_of_lt (h.devices id hOld)
  · show o.view.hear (.deviceAdded m.nextDevice) = _
    rw [h.view]
    refine View.ext ?_ rfl rfl rfl rfl
    show m.deviceIds.map _ ++ [(m.nextDevice, DeviceState.unmanaged)] =
      ((m.devices ++ [m.newcomer d]).map Device.id).map _
    rw [List.map_append, List.map_append]
    refine congrArg₂ (· ++ ·) (List.map_congr_left fun x hx => ?_) ?_
    · rw [hSame x hx]
    · show _ = [(m.nextDevice, Function.update τ m.nextDevice DeviceState.unmanaged m.nextDevice)]
      rw [Function.update_self]
  · show ((m.admitted d).site x).Leads _
    have hAdmitted : Same (m.takenIn (m.newcomer d)) (m.admitted d) := same_publish _ fun _ => rfl
    rw [hAdmitted.site x, (hFits.takenIn hQueue hUnused hUdi).2.2 x]
    split
    · rename_i hx
      refine Site.Leads.of_nil (queueOf_nil hQueue x) fun e he => ?_
      cases he
      rw [hx, Function.update_self]
      exact hUnused.state.symm
    · rename_i hx
      rw [Function.update_of_ne hx]
      exact h.sites x

theorem Tracks.dismissed (h : Tracks τ o (m, a)) (hFits : m.Fits A) {d : Device}
    (hd : m.device? id = some d) (hQueue : m.queueOf id = []) (hRequest : m.requestOn? id = none)
    (hOrphan : m.orphan? id = none) :
    Tracked o (m, a) ((m.dismissed id).publish (.deviceRemoved id), a) := by
  refine ⟨τ, [.deviceRemoved id], rfl, ⟨?_, trivial⟩, h.toSpent.same rfl rfl rfl rfl rfl, ?_, ?_⟩
  · show id ∈ o.view.devices.map Prod.fst
    rw [h.view, face_devices_fst]
    exact mem_deviceIds hd
  · show o.view.hear (.deviceRemoved id) = _
    rw [h.view]
    refine View.ext ?_ rfl rfl rfl rfl
    show (m.deviceIds.map _).filter _ = ((m.dismissed id).devices.map Device.id).map _
    rw [hFits.linked.devices_dismissed, List.filter_map]
    exact congrArg (List.map _) List.filter_map
  · have hSame : Same (m.dismissed id) ((m.dismissed id).publish (.deviceRemoved id)) :=
      same_publish _ fun _ => rfl
    exact h.leads ((hFits.dismissed id hRequest hOrphan).same hSame)
      ⟨fun _ => hQueue, fun e he => by cases he⟩

/-- Devices that go one after the other, until none is left. -/
theorem hears_removed (ids : List Nat) (hIds : o.view.devices.map Prod.fst = ids)
    (hDistinct : ids.Nodup) : o.Hears (ids.map ManagerEvent.deviceRemoved) ∧
      o.read (ids.map ManagerEvent.deviceRemoved) = { o with view := { o.view with devices := [] } } := by
  induction ids generalizing o with
  | nil =>
    refine ⟨trivial, ?_⟩
    have hNil : o.view.devices = [] := List.map_eq_nil_iff.mp hIds
    show o = _
    rw [← hNil]
  | cons id ids ih =>
    obtain ⟨hNew, hRest⟩ := List.nodup_cons.mp hDistinct
    have hLeft : (o.hear (.deviceRemoved id)).view.devices.map Prod.fst = ids := by
      show (o.view.devices.filter ((fun x => x != id) ∘ Prod.fst)).map Prod.fst = ids
      rw [← List.filter_map, hIds, List.filter_cons_of_neg (by simp)]
      refine List.filter_eq_self.mpr fun x hx => ?_
      simpa using fun hEq : x = id => hNew (hEq ▸ hx)
    obtain ⟨hHears, hRead⟩ := ih hLeft hRest
    refine ⟨⟨?_, hHears⟩, hRead⟩
    show id ∈ o.view.devices.map Prod.fst
    rw [hIds]
    exact List.mem_cons_self

theorem Tracks.disbanded (h : Tracks τ o (m, a)) (hLinked : m.Linked) (hQueue : m.queue = []) :
    Tracked o (m, a) (m.disbanded, a) := by
  obtain ⟨hHears, hRead⟩ := hears_removed m.deviceIds
    (by rw [h.view]; exact face_devices_fst τ m) hLinked.devices
  have hNews : m.disbanded.events = m.events ++ m.deviceIds.map ManagerEvent.deviceRemoved := by
    unfold deviceIds
    rw [List.map_map]
    rfl
  refine ⟨τ, _, hNews, hHears, ?_⟩
  rw [hRead]
  refine ⟨h.toSpent.same rfl rfl rfl rfl rfl, ?_,
    fun x => ⟨fun _ => queueOf_nil hQueue x, fun e he => by cases he⟩⟩
  rw [h.view]
  rfl

-- ---------------------------------------------------------------------------
-- One change
-- ---------------------------------------------------------------------------

theorem Tracks.summed (h : Tracks τ o (m, a)) : Tracked o (m, a) (m.updateState, a) := by
  have hSites : ∀ x, (m.updateState.site x).Leads (τ x) := by
    intro x
    rw [(same_updateState m).site x]
    exact h.sites x
  unfold Manager.updateState at hSites ⊢
  split
  · exact h.tracked
  · rename_i hNe
    rw [if_neg hNe] at hSites
    refine ⟨τ, [.stateChanged m.aggregate], rfl, ⟨?_, trivial⟩, h.toSpent.same rfl rfl rfl rfl rfl, ?_,
      hSites⟩
    · show m.aggregate ≠ o.view.state
      rw [h.view]
      exact hNe
    · show o.view.hear (.stateChanged m.aggregate) = _
      rw [h.view]
      rfl

/-- The observer is told of each change, sooner or later. -/
theorem Change.tracked {s s' : Manager × Agenda} (h : Change A s s') (hFits : s.1.Fits A)
    (hTracks : Tracks τ o s) : Tracked o s s' := by
  cases h with
  | quiet more hFits' hLeaves => exact hTracks.quiet hLeaves rfl
  | teardown hr reason => exact hTracks.ended hFits hr reason
  | update hd hMoves hActs hTravels => exact hTracks.updated hd hActs hTravels.trail rfl
  | recover hFailed reason => exact hTracks.recovered hFits _ reason rfl
  | number => exact hTracks.numbered
  | launch hNumbers hd hState hNone hQueue hCheck hFresh =>
    exact hTracks.started hFits _ hNumbers hd hState hNone hQueue hCheck hFresh
  | tell hQueue => exact hTracks.told hFits hQueue
  | sum => exact hTracks.summed
  | schedule hDue => exact hTracks.scheduled hFits _ rfl
  | take => exact hTracks.hidden ⟨rfl, rfl, rfl, rfl, rfl, rfl, rfl, rfl⟩ rfl hTracks.sites
  | unschedule id =>
    exact hTracks.hidden (hides_modifyDevice _ id _) rfl (hTracks.marked hFits id false)
  | looked hTaken hDone => exact hTracks.hidden (Hides.refl _) rfl hTracks.sites
  | arrive hQueue hUnused hUdi => exact hTracks.arrived hFits hQueue hUnused hUdi
  | dismiss hd hQueue hRequest hOrphan => exact hTracks.dismissed hFits hd hQueue hRequest hOrphan
  | disband hQueue => exact hTracks.disbanded hFits.linked hQueue

theorem Changes.tracked {s s' : Manager × Agenda} (h : Changes A s s') (hFits : s.1.Fits A)
    (hTracks : Tracks τ o s) : Tracked o s s' :=
  changes_preserve (P := Tracked o s)
    (fun hChange hFits' hTracked => hTracked.andThen fun _ _ => hChange.tracked hFits')
    h hFits hTracks.tracked

-- ---------------------------------------------------------------------------
-- Runs
-- ---------------------------------------------------------------------------

/-- The observer is told how an operation begins. -/
theorem Begins.tracked {operation : Operation} (h : m.Begins operation m') (hFits : m.Fits A)
    (hTracks : Tracks τ o (m, a)) : Tracked o (m, a) (m', a) := by
  cases h with
  | same => exact hTracks.tracked
  | @firmware interface d missing hd =>
    have hFound := hFits.linked.device?_of_mem (List.mem_of_find?_eq_some hd)
    have hSound := hFits.sound hFound
    have hCarries := Device.setFirmwareMissing_carries missing hSound.allListen hSound.device
    exact hTracks.updated (f := fun d => d.setFirmwareMissing missing) hFound
      (hFits.carries hFound hCarries) (Device.setFirmwareMissing_proceeds d missing).trail rfl
  | @sleeping uid sleeping hNe =>
    refine ⟨τ, [.sleepingChanged sleeping], rfl, ⟨?_, trivial⟩,
      hTracks.toSpent.same rfl rfl rfl rfl rfl, ?_, fun x => (hTracks.sites x).of_eq rfl rfl⟩
    · show sleeping ≠ o.view.sleeping
      rw [hTracks.view]
      exact Ne.symm hNe
    · show o.view.hear (.sleepingChanged sleeping) = _
      rw [hTracks.view]
      rfl
  | @enabled uid enabled hNe =>
    refine ⟨τ, [.networkingEnabledChanged enabled], rfl, ⟨?_, trivial⟩,
      hTracks.toSpent.same rfl rfl rfl rfl rfl, ?_, fun x => (hTracks.sites x).of_eq rfl rfl⟩
    · show enabled ≠ o.view.networkingEnabled
      rw [hTracks.view]
      exact Ne.symm hNe
    · show o.view.hear (.networkingEnabledChanged enabled) = _
      rw [hTracks.view]
      rfl

/-- The observer is told of all that an operation does. -/
theorem Rested.operate_tracked (h : m.Rested A) (operation : Operation)
    (hTracks : Tracks τ o (m, .empty)) :
    Tracked o (m, .empty) (m.operate operation, .empty) := by
  obtain ⟨m₁, hBegins, hChanges⟩ := h.toSettled.operate_changes h.dormant operation
  have hFits := (hBegins.coherent h.toCoherent).toFits
  exact (hBegins.tracked h.toFits hTracks).andThen fun _ _ => Changes.tracked hChanges hFits

theorem run_tracked (h : m.Rested A) (operations : List Operation)
    (hTracks : Tracks τ o (m, .empty)) :
    Tracked o (m, .empty) (m.run operations, .empty) := by
  induction operations generalizing m τ o with
  | nil => exact hTracks.tracked
  | cons operation operations ih =>
    exact (h.operate_tracked operation hTracks).andThen fun _ _ => ih (h.operate operation)

/-- Whoever looks at the manager at any time and follows its events from then on is never told of
something that cannot be, and knows all that there is to know whenever an operation has returned. -/
theorem run_published (store : StateStore) (allowed : List Nat) (timeout : Option Nat) (epoch : Nat)
    (before after : List Operation) :
    let m := (start store allowed timeout epoch).run before
    ∃ news, (m.run after).events = m.events ++ news ∧ (Observer.of m).Hears news ∧
      ((Observer.of m).read news).view = .of (m.run after) := by
  intro m
  have hRested : m.Rested fun _ _ => True :=
    run_rested (start_rested store allowed timeout epoch) before
  obtain ⟨τ, hTracks⟩ := tracks_of hRested.linked hRested.queue
  obtain ⟨τ', news, hEvents, hHears, hTracks'⟩ := run_tracked hRested after hTracks
  have hRested' := run_rested hRested after
  exact ⟨news, hEvents, hHears, hTracks'.view_eq hRested'.linked hRested'.queue⟩

-- what is known of the scanner while it dials
example :
    let o := Observer.of (start DialUp.store [] none 0)
    let events := ((start DialUp.store [] none 0).run DialUp.connecting).events
    o.Hears events ∧ (o.read events).view =
      { devices := [(0, .config)], requests := [0], state := .connecting
        networkingEnabled := true, sleeping := false } := by
  decide +kernel

end Manager

end ScannerHub
