import Mathlib.Logic.Relation
import ScannerHub.Proofs.Device.Trail
import ScannerHub.Proofs.Manager.Users

/-!
# Changes

Every operation of the manager is a sequence of small changes: a request ends, a device is told
what to do, an event is handled, a note is taken. So what holds of the manager at all times is
proved once for each kind of change.

In the middle of an operation the manager has things in hand of which its state shows nothing: the
devices that it is about to look at, failures that it is about to clear up, the number of a request
to come. They are part of what changes.

* `Agenda` — what the manager has in hand;
* `Manager.Misses` — an automatic activation could start at once;
* `Manager.Change` — the kinds of change;
* `Manager.Does` — a part of an operation that leaves nothing in hand.

## Results

* `Change.fits`, `changes_preserve` — changes preserve the invariant, and whatever each of them
  preserves;
* `Does.handleEvent`, `Does.pump` — to work off the queues is a sequence of changes.
-/

namespace ScannerHub

/-- What the manager has in hand in the middle of an operation. -/
structure Agenda where
  /-- The devices to look at, whether an automatic activation is due on them. -/
  due : List Nat
  /-- The devices on which an automatic activation was due, and is about to start. -/
  taken : List Nat
  /-- The devices that told of a failure, and are about to recover. -/
  failed : List Nat
  /-- The numbers that were given to requests to come. -/
  numbers : List Nat

/-- Nothing in hand. -/
def Agenda.empty : Agenda := { due := [], taken := [], failed := [], numbers := [] }

/-- What an event that was told leaves to do. -/
def Agenda.hear (a : Agenda) : DeviceEvent → Agenda
  | .stateChanged id .disconnected _ _ => { a with due := id :: a.due }
  | .stateChanged id .failed _ _ => { a with failed := id :: a.failed }
  | _ => a

/-- What the manager publishes about a device event. -/
def DeviceEvent.published : DeviceEvent → List ManagerEvent
  | stateChanged id new old reason =>
    .deviceStateChanged id new old reason ::
      (if Manager.rereadsActive new then [.activeConnectionsChanged] else [])
  | needSecrets _ _ => []
  | linkRequested id request => [.linkRequested id request]

namespace Manager

variable {A : Nat → String → Prop} {m m' : Manager} {id : Nat}

-- ---------------------------------------------------------------------------
-- Automatic activations that could start
-- ---------------------------------------------------------------------------

/-- A connection could be started on a device without a user asking for it. -/
def Offers (m : Manager) (d : Device) : Prop :=
  ∃ scope path c, (m.cache scope).running = true ∧ (m.cache scope).get? path = some c ∧
    c.autoconnect = true ∧ m.isInvalid c.uuid = false ∧ d.check c = .ok ()

/-- An automatic activation could start on a device at once. -/
def Misses (m : Manager) (d : Device) : Prop :=
  m.isAsleep = false ∧ d.autoconnectAllowed = true ∧ m.Offers d

/-- One manager at two times, with nothing changed that decides about automatic activations. -/
structure Decides (m m' : Manager) : Prop where
  sleeping : m'.sleeping = m.sleeping
  networkingEnabled : m'.networkingEnabled = m.networkingEnabled
  system : m'.system = m.system
  user : m'.user = m.user
  invalid : m'.invalid = m.invalid

theorem Decides.refl (m : Manager) : Decides m m := ⟨rfl, rfl, rfl, rfl, rfl⟩

theorem Decides.trans {m'' : Manager} (h : Decides m m') (h' : Decides m' m'') : Decides m m'' :=
  ⟨h'.sleeping.trans h.sleeping, h'.networkingEnabled.trans h.networkingEnabled,
   h'.system.trans h.system, h'.user.trans h.user, h'.invalid.trans h.invalid⟩

theorem Decides.isAsleep (h : Decides m m') : m'.isAsleep = m.isAsleep := by
  unfold Manager.isAsleep
  rw [h.sleeping, h.networkingEnabled]

theorem Decides.offers (h : Decides m m') {d d' : Device} (hCheck : ∀ c, d'.check c = d.check c) :
    m'.Offers d' ↔ m.Offers d := by
  have hCache : ∀ scope, m'.cache scope = m.cache scope := by
    intro scope
    cases scope
    · exact h.system
    · exact h.user
  unfold Offers Manager.isInvalid
  simp only [hCache, h.invalid, hCheck]

/-- A device that is no freer than before misses no more. -/
theorem Decides.misses (h : Decides m m') {d d' : Device} (hCheck : ∀ c, d'.check c = d.check c)
    (hAllowed : d'.autoconnectAllowed = true → d.autoconnectAllowed = true)
    (hMisses : m'.Misses d') : m.Misses d := by
  obtain ⟨hAwake, hFree, hOffers⟩ := hMisses
  exact ⟨h.isAsleep ▸ hAwake, hAllowed hFree, (h.offers hCheck).mp hOffers⟩

theorem decides_updateDevice (m : Manager) (id : Nat) (f : Device → Update) :
    Decides m (m.updateDevice id f) := by
  unfold updateDevice
  split <;> exact ⟨rfl, rfl, rfl, rfl, rfl⟩

theorem decides_modifyDevice (m : Manager) (id : Nat) (f : Device → Device) :
    Decides m (m.modifyDevice id f) := by
  unfold modifyDevice
  split <;> exact ⟨rfl, rfl, rfl, rfl, rfl⟩

theorem decides_teardown (m : Manager) (id : Nat) (reason : StateReason) :
    Decides m (m.teardown id reason) := by
  cases hr : m.request? id with
  | none =>
    rw [teardown_absent hr]
    exact Decides.refl m
  | some r =>
    rw [teardown_eq hr]
    exact ⟨rfl, rfl, rfl, rfl, rfl⟩

theorem decides_updateState (m : Manager) : Decides m m.updateState := by
  unfold updateState
  split <;> exact ⟨rfl, rfl, rfl, rfl, rfl⟩

theorem decides_launch (m : Manager) (id : Nat) (d : Device) (spec : RequestSpec) :
    Decides m (m.launch id d spec).1 := by
  unfold launch register
  dsimp only
  split <;> exact ⟨rfl, rfl, rfl, rfl, rfl⟩

-- ---------------------------------------------------------------------------
-- The kinds of change
-- ---------------------------------------------------------------------------

/-- One manager at two times: nothing has changed about its devices and what waits, and those who
follow the published events learn nothing new. -/
structure Leaves (m m' : Manager) : Prop where
  devices : m'.devices = m.devices
  requests : m'.requests.map Request.id = m.requests.map Request.id
  queue : m'.queue = m.queue
  pending : m'.pending = m.pending
  nextDevice : m'.nextDevice = m.nextDevice
  nextRequest : m'.nextRequest = m.nextRequest
  sleeping : m'.sleeping = m.sleeping
  networkingEnabled : m'.networkingEnabled = m.networkingEnabled
  state : m'.state = m.state
  events : ∃ news, m'.events = m.events ++ news ∧
    ∀ e ∈ news, ∃ r ∈ m.requests, e = .activeConnectionChanged r.id

/-- The manager once it has told of its oldest event. -/
def told (m : Manager) (e : DeviceEvent) (rest : List DeviceEvent) : Manager :=
  { m with queue := rest, events := m.events ++ e.published }

/-- The manager once it has told that a new device is there. -/
def admitted (m : Manager) (d : Device) : Manager :=
  (m.takenIn (m.newcomer d)).publish (.deviceAdded m.nextDevice)

/-- The manager without devices, once it has told that they are gone. -/
def disbanded (m : Manager) : Manager :=
  { m with devices := [], events := m.events ++ m.devices.map fun d => .deviceRemoved d.id }

/-- The manager once it has noted that an automatic activation is due on a device. -/
def enlisted (m : Manager) (id : Nat) : Manager :=
  { m.modifyDevice id fun d => { d with activationScheduled := true } with
    pending := m.pending ++ [id] }

/-- The manager once no automatic activation is due on a device any more. -/
def undue (m : Manager) (id : Nat) : Manager :=
  { m with pending := m.pending.filter fun p => p != id }

/-- The kinds of change. -/
inductive Change (A : Nat → String → Prop) : Manager × Agenda → Manager × Agenda → Prop where
  /-- Nothing happens to a device, but some may be free for an automatic activation now. They are
  looked at next. -/
  | quiet {m m' : Manager} {a : Agenda} (more : List Nat) (hFits : m'.Fits A) (hLeaves : Leaves m m')
    (hMisses : ∀ d ∈ m.devices, m'.Misses d → m.Misses d ∨ d.id ∈ more) :
    Change A (m, a) (m', { a with due := more ++ a.due })
  | teardown {m : Manager} {a : Agenda} {r : Request} (hr : r ∈ m.requests) (reason : StateReason) :
    Change A (m, a) (m.teardown r.id reason, a)
  /-- A device is told what to do. -/
  | update {m : Manager} {a : Agenda} {id : Nat} {d : Device} {f : Device → Update}
    (hd : m.device? id = some d) (hMoves : Device.Moves d (f d))
    (hActs : Acts A m (m.updateDevice id f) id ((m.site id).hears (f d)))
    (hTravels : Device.Travels d (f d))
    (hManaged : m.isAsleep = true → (f d).device.managed = true → d.managed = true) :
    Change A (m, a) (m.updateDevice id f, a)
  /-- A device goes back to where it can be used again. -/
  | recover {m : Manager} {a : Agenda} {id : Nat} {rest : List Nat} (hFailed : a.failed = id :: rest)
    (reason : StateReason) :
    Change A (m, a)
      (m.updateDevice id fun d => d.moveTo .disconnected reason, { a with failed := rest })
  | number {m : Manager} {a : Agenda} :
    Change A (m, a)
      ({ m with nextRequest := m.nextRequest + 1 }, { a with numbers := m.nextRequest :: a.numbers })
  /-- A request starts on a disconnected device that its connection fits. -/
  | launch {m : Manager} {a : Agenda} {id number : Nat} {d : Device} {spec : RequestSpec}
    {rest : List Nat} (hNumbers : a.numbers = number :: rest) (hd : m.device? id = some d)
    (hState : d.state = .disconnected) (hNone : m.requestOn? id = none)
    (hQueue : m.queueOf id = []) (hCheck : d.check spec.connection = .ok ())
    (hFresh : m.Fresh number) :
    Change A (m, a)
      (((m.undue id).launch number d spec).1, { a with numbers := rest })
  /-- The oldest event is published. -/
  | tell {m : Manager} {a : Agenda} {e : DeviceEvent} {rest : List DeviceEvent}
    (hQueue : m.queue = e :: rest) : Change A (m, a) (m.told e rest, a.hear e)
  | sum {m : Manager} {a : Agenda} : Change A (m, a) (m.updateState, a)
  | schedule {m : Manager} {a : Agenda} {id : Nat} {rest : List Nat} (hDue : a.due = id :: rest) :
    Change A (m, a) (m.schedule id, { a with due := rest })
  | take {m : Manager} {a : Agenda} :
    Change A (m, a) ({ m with pending := [] }, { a with taken := m.pending ++ a.taken })
  | unschedule {m : Manager} {a : Agenda} (id : Nat) :
    Change A (m, a) (m.modifyDevice id fun d => { d with activationScheduled := false }, a)
  /-- A device on which an automatic activation was due has been seen to. -/
  | looked {m : Manager} {a : Agenda} {id : Nat} {rest : List Nat} (hTaken : a.taken = id :: rest)
    (hDone : ∀ d, m.device? id = some d → d.activationScheduled = false ∧ ¬ m.Misses d) :
    Change A (m, a) (m, { a with taken := rest })
  /-- A device comes while nothing is in hand. -/
  | arrive {m : Manager} {d : Device} (hQueue : m.queue = []) (hUnused : d.Unused)
    (hUdi : ∀ x ∈ m.devices, x.udi ≠ d.udi) :
    Change A (m, .empty) (m.admitted d, .empty)
  | dismiss {m : Manager} {a : Agenda} {id : Nat} {d : Device} (hd : m.device? id = some d)
    (hQueue : m.queueOf id = []) (hRequest : m.requestOn? id = none)
    (hOrphan : m.orphan? id = none) :
    Change A (m, a) ((m.dismissed id).publish (.deviceRemoved id), a)
  | disband {m : Manager} {a : Agenda} (hQueue : m.queue = []) (hRequests : m.requests = [])
    (hOrphans : m.orphans = []) : Change A (m, a) (m.disbanded, a)

/-- A sequence of changes. -/
abbrev Changes (A : Nat → String → Prop) : Manager × Agenda → Manager × Agenda → Prop :=
  Relation.ReflTransGen (Change A)

-- ---------------------------------------------------------------------------
-- What becomes of each site
-- ---------------------------------------------------------------------------

theorem Leaves.device? (h : Leaves m m') (x : Nat) : m'.device? x = m.device? x := by
  unfold Manager.device?
  rw [h.devices]

/-- Nothing was published at all. -/
theorem Leaves.silent (hDevices : m'.devices = m.devices)
    (hRequests : m'.requests.map Request.id = m.requests.map Request.id) (hQueue : m'.queue = m.queue)
    (hPending : m'.pending = m.pending) (hNextDevice : m'.nextDevice = m.nextDevice)
    (hNextRequest : m'.nextRequest = m.nextRequest) (hSleeping : m'.sleeping = m.sleeping)
    (hEnabled : m'.networkingEnabled = m.networkingEnabled) (hState : m'.state = m.state)
    (hEvents : m'.events = m.events) : Leaves m m' := by
  refine ⟨hDevices, hRequests, hQueue, hPending, hNextDevice, hNextRequest, hSleeping, hEnabled, hState,
    [], ?_, fun e he => absurd he List.not_mem_nil⟩
  rw [List.append_nil]
  exact hEvents

theorem queueOf_congr (h : m'.queue = m.queue) (x : Nat) : m'.queueOf x = m.queueOf x := by
  unfold Manager.queueOf
  rw [h]

theorem Leaves.isAsleep (h : Leaves m m') : m'.isAsleep = m.isAsleep := by
  unfold Manager.isAsleep
  rw [h.sleeping, h.networkingEnabled]

theorem Acts.site {s : Site} (h : Acts A m m' id s) (x : Nat) :
    m'.site x = if x = id then s else m.site x := by
  split
  · rename_i hx
    rw [hx]
    exact h.here
  · rename_i hx
    exact h.away x hx

/-- A device after a change of one site, with what waits to be told of it. -/
theorem device_cases {s : Site} {x : Nat} {d : Device}
    (hSite : m'.site x = if x = id then s else m.site x) (hd : m'.device? x = some d) :
    (x = id ∧ s.device = some d ∧ m'.queueOf x = s.queue) ∨
      (x ≠ id ∧ m.device? x = some d ∧ m'.queueOf x = m.queueOf x) := by
  by_cases hx : x = id
  · rw [if_pos hx] at hSite
    exact Or.inl ⟨hx, (congrArg Site.device hSite).symm.trans hd, congrArg Site.queue hSite⟩
  · rw [if_neg hx] at hSite
    exact Or.inr ⟨hx, (congrArg Site.device hSite).symm.trans hd, congrArg Site.queue hSite⟩

-- ---------------------------------------------------------------------------
-- Changes preserve the invariant
-- ---------------------------------------------------------------------------

theorem Fits.told (h : m.Fits A) {e : DeviceEvent} {rest : List DeviceEvent}
    (hQueue : m.queue = e :: rest) :
    Acts A m (m.told e rest) e.device ((m.site e.device).tell e) := by
  refine h.tell hQueue e.published fun x => ?_
  by_cases hx : x = e.device
  · rw [if_pos hx]
    cases e with
    | stateChanged id new old reason =>
      cases new <;> simp_all +decide [DeviceEvent.published, ManagerEvent.linkNews?, linkNews,
        DeviceEvent.linkNews?, DeviceEvent.device]
    | needSecrets id need => rfl
    | linkRequested id request =>
      simp_all [DeviceEvent.published, ManagerEvent.linkNews?, linkNews, DeviceEvent.linkNews?,
        DeviceEvent.device]
  · rw [if_neg hx]
    cases e with
    | stateChanged id new old reason =>
      have hNe : id ≠ x := Ne.symm hx
      simp only [DeviceEvent.published]
      split <;> simp [ManagerEvent.linkNews?, hNe]
    | needSecrets id need => rfl
    | linkRequested id request =>
      have hNe : id ≠ x := Ne.symm hx
      simp [DeviceEvent.published, ManagerEvent.linkNews?, hNe]

/-- A flag of a device is set or cleared. -/
theorem Fits.marked (h : m.Fits A) {d : Device} (hd : m.device? id = some d) (due : Bool) :
    Acts A m (m.modifyDevice id fun d => { d with activationScheduled := due }) id
      { m.site id with device := some { d with activationScheduled := due } } :=
  h.modifyDevice hd ⟨rfl, rfl, rfl, rfl, fun _ => rfl, rfl⟩ rfl
    ⟨(h.sound hd).device.stop, (h.sound hd).device.managed, (h.sound hd).device.hardware⟩

theorem modifyDevice_absent {f : Device → Device} (hd : m.device? id = none) :
    m.modifyDevice id f = m := by
  unfold modifyDevice
  rw [hd]

theorem Fits.marked_fits (h : m.Fits A) (id : Nat) (due : Bool) :
    (m.modifyDevice id fun d => { d with activationScheduled := due }).Fits A := by
  cases hd : m.device? id with
  | none =>
    rw [modifyDevice_absent hd]
    exact h
  | some d => exact (h.marked hd due).fits

/-- A device after a flag was set or cleared, maybe of another one. -/
theorem Fits.marked_cases (h : m.Fits A) {due : Bool} {x : Nat} {d : Device}
    (hd : (m.modifyDevice id fun d => { d with activationScheduled := due }).device? x = some d) :
    ∃ d₀, m.device? x = some d₀ ∧
      ((x = id ∧ d = { d₀ with activationScheduled := due }) ∨ (x ≠ id ∧ d = d₀)) := by
  cases hd₀ : m.device? id with
  | none =>
    rw [modifyDevice_absent hd₀] at hd
    refine ⟨d, hd, Or.inr ⟨fun hx => ?_, rfl⟩⟩
    rw [hx, hd₀] at hd
    cases hd
  | some d₀ =>
    obtain ⟨rfl, hHere, -⟩ | ⟨hx, hAway, -⟩ := device_cases ((h.marked hd₀ due).site x) hd
    · cases hHere
      exact ⟨d₀, hd₀, Or.inl ⟨rfl, rfl⟩⟩
    · exact ⟨d, hAway, Or.inr ⟨hx, rfl⟩⟩

/-- Either a device misses nothing that is not noted yet, or a note is taken. -/
theorem schedule_cases (m : Manager) (id : Nat) :
    (m.schedule id = m ∧ ∀ d, m.device? id = some d → m.Misses d → id ∈ m.pending) ∨
      m.schedule id = m.enlisted id := by
  unfold schedule enlisted modifyDevice
  by_cases hSkip : (m.isAsleep || m.pending.contains id) = true
  · rw [if_pos hSkip]
    refine Or.inl ⟨rfl, fun d _ hMisses => ?_⟩
    rw [hMisses.1, Bool.false_or, List.contains_iff_mem] at hSkip
    exact hSkip
  · rw [if_neg hSkip]
    cases hd : m.device? id with
    | none => exact Or.inl ⟨rfl, fun d hd' => by cases hd'⟩
    | some d =>
      by_cases hFree : d.autoconnectAllowed = true
      · dsimp only
        rw [if_pos hFree]
        exact Or.inr rfl
      · dsimp only
        rw [if_neg hFree]
        refine Or.inl ⟨rfl, fun e he hMisses => ?_⟩
        cases he
        exact absurd hMisses.2.1 hFree

theorem decides_schedule (m : Manager) (id : Nat) : Decides m (m.schedule id) := by
  obtain ⟨hEq, -⟩ | hEq := m.schedule_cases id
  · rw [hEq]
    exact Decides.refl m
  · rw [hEq]
    have hMarked := decides_modifyDevice m id fun d => { d with activationScheduled := true }
    exact ⟨hMarked.sleeping, hMarked.networkingEnabled, hMarked.system, hMarked.user, hMarked.invalid⟩

/-- A device after one was told what to do, maybe another one, with what waits to be told of it. -/
theorem Fits.updated_cases (h : m.Fits A) {f : Device → Update}
    (hf : ∀ d : Device, d.AllListen → d.Sound → Device.Carries d (f d)) {x : Nat} {d : Device}
    (hd : (m.updateDevice id f).device? x = some d) :
    ∃ d₀, m.device? x = some d₀ ∧
      ((x = id ∧ d = (f d₀).device ∧
          (m.updateDevice id f).queueOf x = m.queueOf x ++ (f d₀).events) ∨
        (x ≠ id ∧ d = d₀ ∧ (m.updateDevice id f).queueOf x = m.queueOf x)) := by
  cases hd₀ : m.device? id with
  | none =>
    rw [updateDevice_absent hd₀] at hd ⊢
    refine ⟨d, hd, Or.inr ⟨fun hx => ?_, rfl, rfl⟩⟩
    rw [hx, hd₀] at hd
    cases hd
  | some d₀ =>
    have hSound := h.sound hd₀
    have hActs := h.carries hd₀ (hf d₀ hSound.allListen hSound.device)
    obtain ⟨rfl, hHere, hQueue⟩ | ⟨hx, hAway, hQueue⟩ := device_cases (hActs.site x) hd
    · cases hHere
      exact ⟨d₀, hd₀, Or.inl ⟨rfl, rfl, hQueue⟩⟩
    · exact ⟨d, hAway, Or.inr ⟨hx, rfl, hQueue⟩⟩

theorem Fits.disbanded (h : m.Fits A) (hRequests : m.requests = [])
    (hOrphans : m.orphans = []) : m.disbanded.Fits A := by
  refine ⟨h.linked.keeps ⟨List.nil_sublist _, List.Sublist.refl _, rfl, rfl, rfl⟩, fun x => ?_⟩
  refine ⟨fun _ => ⟨?_, ?_⟩, fun d hd => by cases hd⟩
  · show m.requests.find? _ = none
    rw [hRequests]
    rfl
  · show m.orphans.lookup x = none
    rw [hOrphans]
    rfl

/-- The launch of a request, seen from the device on which it starts. -/
theorem Fits.launched (h : m.Fits A) {number : Nat} {d : Device} (spec : RequestSpec)
    (hd : m.device? id = some d) (hState : d.state = .disconnected) (hNone : m.requestOn? id = none)
    (hQueue : m.queueOf id = []) (hCheck : d.check spec.connection = .ok ())
    (hFresh : m.Fresh number) :
    let s := (m.undue id).starting number d spec
    let u := s.2.activate (m.undue id).now s.1.connection
    let m' := ((m.undue id).launch number d spec).1
    Launches id d s.2 s.1 u ∧
      m' = (((m.undue id).joined s.1 (heardBy s.1) u).publish (.activeConnectionAdded number)).publish
          .activeConnectionsChanged ∧
      m'.Fits A ∧ ∀ x, m'.site x = if x = id then (m.site id).launched s.1 u else m.site x := by
  intro s u m'
  have hReady : (m.undue id).Fits A :=
    h.same ⟨rfl, rfl, rfl, rfl, rfl, rfl, rfl, fun _ => rfl⟩
  have hFresh' : (m.undue id).Fresh number := ⟨hFresh.requests, hFresh.calls, hFresh.bound⟩
  obtain ⟨hLaunch, hEq⟩ := hReady.launch_eq number hd hState spec hCheck
  obtain ⟨hFits, hListeners, hSite⟩ := hReady.joined hd hNone hQueue hLaunch hFresh'
  have hLaunched : m' = _ := congrArg Prod.fst hEq
  rw [hListeners] at hLaunched hFits hSite
  have hSame : Same ((m.undue id).joined s.1 (heardBy s.1) u) m' := by
    rw [hLaunched]
    exact (same_publish _ fun _ => rfl).trans (same_publish _ fun _ => rfl)
  exact ⟨hLaunch, hLaunched, hFits.same hSame, fun x => (hSame.site x).trans (hSite x)⟩

theorem Change.fits {s s' : Manager × Agenda} (h : Change A s s') (hFits : s.1.Fits A) :
    s'.1.Fits A := by
  cases h with
  | quiet more hFits' => exact hFits'
  | teardown hr reason => exact (hFits.teardown (hFits.linked.request?_of_mem hr) reason).fits
  | update hd hMoves hActs => exact hActs.fits
  | @recover m a id rest hFailed reason =>
    cases hd : m.device? id with
    | none =>
      show Fits A (m.updateDevice id _)
      rw [updateDevice_absent hd]
      exact hFits
    | some d =>
      have hSound := hFits.sound hd
      exact (hFits.carries hd (f := fun d => d.moveTo .disconnected reason)
        (Device.moveTo_disconnected_carries reason hSound.allListen hSound.device)).fits
  | number => exact hFits.numbered
  | launch hNumbers hd hState hNone hQueue hCheck hFresh =>
    exact (hFits.launched _ hd hState hNone hQueue hCheck hFresh).2.2.1
  | tell hQueue => exact (hFits.told hQueue).fits
  | sum => exact hFits.same (same_updateState _)
  | @schedule m a id rest hDue =>
    show Fits A (m.schedule id)
    obtain ⟨hEq, -⟩ | hEq := m.schedule_cases id
    · rw [hEq]
      exact hFits
    · rw [hEq]
      exact (hFits.marked_fits id true).same ⟨rfl, rfl, rfl, rfl, rfl, rfl, rfl, fun _ => rfl⟩
  | take => exact hFits.same ⟨rfl, rfl, rfl, rfl, rfl, rfl, rfl, fun _ => rfl⟩
  | unschedule id => exact hFits.marked_fits id false
  | looked => exact hFits
  | arrive hQueue hUnused hUdi =>
    exact (hFits.takenIn hQueue hUnused hUdi).1.same (same_publish _ fun _ => rfl)
  | dismiss hd hQueue hRequest hOrphan =>
    exact (hFits.dismissed _ hRequest hOrphan).fits.same (same_publish _ fun _ => rfl)
  | disband hQueue hRequests hOrphans => exact hFits.disbanded hRequests hOrphans

theorem Changes.fits {s s' : Manager × Agenda} (h : Changes A s s') (hFits : s.1.Fits A) :
    s'.1.Fits A := by
  induction h with
  | refl => exact hFits
  | tail _ hLast ih => exact hLast.fits ih

/-- What every change preserves holds after each sequence of changes. -/
theorem changes_preserve {P : Manager × Agenda → Prop}
    (hStep : ∀ {s s' : Manager × Agenda}, Change A s s' → s.1.Fits A → P s → P s')
    {s s' : Manager × Agenda} (h : Changes A s s') (hFits : s.1.Fits A) (hP : P s) : P s' := by
  induction h with
  | refl => exact hP
  | tail hFirst hLast ih => exact hStep hLast (Changes.fits hFirst hFits) ih

-- ---------------------------------------------------------------------------
-- Parts of operations
-- ---------------------------------------------------------------------------

/-- A part of an operation: a sequence of changes that leaves nothing more in hand. -/
def Does (A : Nat → String → Prop) (m m' : Manager) : Prop := ∀ a, Changes A (m, a) (m', a)

theorem Does.refl (m : Manager) : Does A m m := fun _ => .refl

theorem Does.trans {m'' : Manager} (h : Does A m m') (h' : Does A m' m'') : Does A m m'' :=
  fun a => (h a).trans (h' a)

theorem Does.fits (h : Does A m m') (hFits : m.Fits A) : m'.Fits A := (h .empty).fits hFits

/-- A part of an operation that is done for each entry of a list. -/
theorem Does.foldl {α : Type} {step : Manager → α → Manager} (xs : List α)
    (hStep : ∀ (m : Manager) (x : α), m.Fits A → Does A m (step m x)) (h : m.Fits A) :
    Does A m (xs.foldl step m) := by
  induction xs generalizing m with
  | nil => exact Does.refl m
  | cons x xs ih =>
    have hFirst := hStep m x h
    exact hFirst.trans (ih (hFirst.fits h))

theorem Leaves.refl (m : Manager) : Leaves m m := .silent rfl rfl rfl rfl rfl rfl rfl rfl rfl rfl

/-- A change that makes no device freer than it was. -/
theorem Does.quiet (hFits : m'.Fits A) (hLeaves : Leaves m m')
    (hMisses : ∀ d, m'.Misses d → m.Misses d) : Does A m m' :=
  fun _ => .single (.quiet [] hFits hLeaves fun d _ h => Or.inl (hMisses d h))

theorem Does.decides (hFits : m'.Fits A) (hLeaves : Leaves m m') (hDecides : Decides m m') :
    Does A m m' :=
  Does.quiet hFits hLeaves fun _ => hDecides.misses (fun _ => rfl) (fun h => h)

theorem Does.sum (m : Manager) : Does A m m.updateState := fun _ => .single .sum

theorem Does.teardown (m : Manager) (id : Nat) (reason : StateReason) :
    Does A m (m.teardown id reason) := by
  cases hr : m.request? id with
  | none =>
    rw [teardown_absent hr]
    exact Does.refl m
  | some r =>
    obtain ⟨hMem, rfl⟩ := request?_eq_some hr
    exact fun _ => .single (.teardown hMem reason)

theorem Does.teardownOn (m : Manager) (id : Nat) (reason : StateReason) :
    Does A m (m.teardownOn id reason) := by
  unfold Manager.teardownOn
  split
  · exact Does.refl m
  · exact Does.teardown m _ reason

/-- An operation on a device that brings no secrets. -/
theorem Does.update (h : m.Fits A) (id : Nat) {f : Device → Update}
    (hf : ∀ d, m.device? id = some d → d.AllListen → d.Sound →
      Device.Carries d (f d) ∧ Device.Travels d (f d) ∧
        (m.isAsleep = true → (f d).device.managed = true → d.managed = true)) :
    Does A m (m.updateDevice id f) := by
  cases hd : m.device? id with
  | none =>
    rw [updateDevice_absent hd]
    exact Does.refl m
  | some d =>
    have hSound := h.sound hd
    obtain ⟨hCarries, hTravels, hManaged⟩ := hf d hd hSound.allListen hSound.device
    exact fun _ => .single (.update hd hCarries.toMoves (h.carries hd hCarries) hTravels hManaged)

theorem Does.order (h : m.Fits A) (id : Nat) {f : Device → Update} (hf : Device.Order f) :
    Does A m (m.updateDevice id f) :=
  Does.update h id fun d _ hListen hSound =>
    ⟨hf.carries hListen hSound, hf.travels d, fun _ => hf.managed d⟩

theorem Does.wake (h : m.Fits A) (hAwake : m.isAsleep = false) (id : Nat) {f : Device → Update}
    (hf : Device.Wakes f) (hState : ∀ d, m.device? id = some d → d.state = .unmanaged) :
    Does A m (m.updateDevice id f) := by
  refine Does.update h id fun d hd hListen hSound =>
    ⟨hf.carries hListen hSound, hf.travels (hState d hd), fun hAsleep => ?_⟩
  rw [hAwake] at hAsleep
  cases hAsleep

-- ---------------------------------------------------------------------------
-- Notes
-- ---------------------------------------------------------------------------

theorem Does.dropOrphan (h : m.Fits A) (id : Nat) : Does A m (m.dropOrphan id) :=
  Does.decides (h.dropOrphan id).fits
    (.silent rfl rfl rfl rfl rfl rfl rfl rfl rfl rfl) ⟨rfl, rfl, rfl, rfl, rfl⟩

/-- A connection that is left out of automatic activations makes no device freer. -/
theorem Does.markInvalid (h : m.Fits A) (uuid : String) : Does A m (m.markInvalid uuid) := by
  refine Does.quiet (h.same (same_markInvalid m uuid)) ?_ fun d hMisses => ?_
  · unfold Manager.markInvalid
    split <;>
      exact .silent rfl rfl rfl rfl rfl rfl rfl rfl rfl rfl
  · unfold Manager.markInvalid at hMisses
    split at hMisses
    · exact hMisses
    · obtain ⟨hAwake, hFree, scope, path, c, hRunning, hFound, hAuto, hValid, hFits⟩ := hMisses
      refine ⟨hAwake, hFree, scope, path, c, ?_, ?_, hAuto, ?_, hFits⟩
      · cases scope <;> exact hRunning
      · cases scope <;> exact hFound
      · unfold Manager.isInvalid at hValid ⊢
        simp only [List.contains_eq_mem, List.mem_append, decide_eq_false_iff_not, not_or] at hValid ⊢
        exact hValid.1

/-- What is noted of the last use of a connection says nothing about where it fits. -/
theorem check_setTimestamp (d : Device) (c : Connection) (time : UInt64) :
    d.check (c.setTimestamp time) = d.check c := by
  have hSetting : ∀ name, name ≠ connectionSettingName →
      (c.setTimestamp time).setting? name = c.setting? name := by
    intro name hName
    unfold Connection.setting? Connection.setTimestamp
    dsimp only
    split
    · rfl
    · rw [Dict.get?_insert, if_neg (Ne.symm hName)]
  unfold Device.check Hardware.check Hardware.checkSetting Connection.bluetooth? Connection.serial?
  rw [hSetting _ (by decide), hSetting _ (by decide), hSetting _ (by decide)]
  rfl

theorem cache_setCache (m : Manager) (scope : Scope) (cache : ConnectionCache) (scope' : Scope) :
    (m.setCache scope cache).cache scope' = if scope' = scope then cache else m.cache scope' := by
  cases scope <;> cases scope' <;> rfl

/-- A cache that holds nothing new offers nothing new. -/
theorem Misses.of_setCache {scope : Scope} {cache : ConnectionCache} {d : Device}
    (h : (m.setCache scope cache).Misses d)
    (hRunning : cache.running = true → (m.cache scope).running = true)
    (hHeld : ∀ path c, cache.get? path = some c → ∃ c₀, (m.cache scope).get? path = some c₀ ∧
      c₀.autoconnect = c.autoconnect ∧ c₀.uuid = c.uuid ∧ d.check c₀ = d.check c) : m.Misses d := by
  obtain ⟨hAwake, hFree, scope', path, c, hRuns, hFound, hAuto, hValid, hFits⟩ := h
  refine ⟨by cases scope <;> exact hAwake, hFree, ?_⟩
  have hInvalid : (m.setCache scope cache).invalid = m.invalid := by cases scope <;> rfl
  unfold Manager.isInvalid at hValid
  rw [hInvalid] at hValid
  rw [cache_setCache] at hRuns hFound
  by_cases hScope : scope' = scope
  · rw [if_pos hScope] at hRuns hFound
    obtain ⟨c₀, hOld, hAuto₀, hUuid, hCheck⟩ := hHeld path c hFound
    exact ⟨scope, path, c₀, hRunning hRuns, hOld, hAuto₀.trans hAuto, by rw [hUuid]; exact hValid,
      hCheck.trans hFits⟩
  · rw [if_neg hScope] at hRuns hFound
    exact ⟨scope', path, c, hRuns, hFound, hAuto, hValid, hFits⟩

theorem leaves_setCache (m : Manager) (scope : Scope) (cache : ConnectionCache) :
    Leaves m (m.setCache scope cache) := by
  cases scope <;>
    exact .silent rfl rfl rfl rfl rfl rfl rfl rfl rfl rfl

theorem Does.updateTimestamp (h : m.Fits A) (id : Nat) : Does A m (m.updateTimestamp id) := by
  have hFits := h.same (same_updateTimestamp m id)
  unfold Manager.updateTimestamp at hFits ⊢
  split at hFits
  · exact Does.refl m
  · rename_i r _
    dsimp only at hFits ⊢
    split at hFits
    · exact Does.refl m
    · rename_i c hFound
      refine Does.quiet hFits (leaves_setCache m _ _) fun d hMisses => ?_
      refine hMisses.of_setCache (fun h => h) fun path c' hFound' => ?_
      unfold ConnectionCache.get? at hFound'
      rw [Dict.get?_insert] at hFound'
      split at hFound'
      · rename_i hPath
        cases hFound'
        exact ⟨c, hPath ▸ hFound, rfl, rfl, (check_setTimestamp d c _).symm⟩
      · exact ⟨c', hFound', rfl, rfl, rfl⟩

-- ---------------------------------------------------------------------------
-- Requests
-- ---------------------------------------------------------------------------

theorem leaves_setRequest (m : Manager) (r : Request) (effects : List Effect) :
    Leaves m ((m.setRequest r).perform effects) :=
  .silent rfl (map_key_replaceFirst Request.id r m.requests) rfl rfl rfl rfl rfl rfl rfl rfl

/-- Those who follow the published events know of a request that is there. -/
theorem Leaves.publish (h : Leaves m m') {r : Request} (hr : r ∈ m.requests) :
    Leaves m (m'.publish (.activeConnectionChanged r.id)) := by
  obtain ⟨news, hEvents, hNews⟩ := h.events
  refine ⟨h.devices, h.requests, h.queue, h.pending, h.nextDevice, h.nextRequest, h.sleeping,
    h.networkingEnabled, h.state, news ++ [.activeConnectionChanged r.id], ?_, fun e he => ?_⟩
  · show m'.events ++ _ = _
    rw [hEvents, List.append_assoc]
  · rcases List.mem_append.mp he with he | he
    · exact hNews e he
    · exact ⟨r, hr, List.mem_singleton.mp he⟩

theorem Does.processRequest (h : m.Fits A) (id : Nat) : Does A m (m.processRequest id) := by
  cases hr : m.request? id with
  | none =>
    unfold Manager.processRequest
    rw [hr]
    exact Does.refl m
  | some r =>
    obtain ⟨hMem, rfl⟩ := request?_eq_some hr
    have hFits := (h.processRequest hMem).fits
    have hLeaves := leaves_setRequest m r.processEvents.request r.processEvents.effects
    unfold Manager.processRequest at hFits ⊢
    rw [hr] at hFits ⊢
    dsimp only at hFits ⊢
    by_cases hChanged : r.processEvents.stateChanged = true
    · rw [if_pos hChanged] at hFits ⊢
      exact Does.decides hFits (hLeaves.publish hMem) ⟨rfl, rfl, rfl, rfl, rfl⟩
    · rw [if_neg hChanged] at hFits ⊢
      exact Does.decides hFits hLeaves ⟨rfl, rfl, rfl, rfl, rfl⟩

theorem Does.processRequests (h : m.Fits A) : Does A m m.processRequests :=
  Does.foldl m.requests (fun _ r h => Does.processRequest h r.id) h

-- ---------------------------------------------------------------------------
-- Working off the queues
-- ---------------------------------------------------------------------------

theorem told_announced (m : Manager) (id : Nat) (new old : DeviceState) (reason : StateReason)
    (rest : List DeviceEvent) : { m with queue := rest }.announced id new old reason =
      m.told (.stateChanged id new old reason) rest := by
  unfold Manager.announced Manager.told DeviceEvent.published Manager.publish
  dsimp only
  split
  · rw [List.append_assoc]
    rfl
  · rfl

theorem Does.failOrphan (h : m.Fits A) (id : Nat) : Does A m (m.failOrphan id) := by
  unfold Manager.failOrphan
  split
  · exact Does.refl m
  · have hDropped : Does A m (m.dropOrphan id) := Does.dropOrphan h id
    dsimp only
    split
    · exact hDropped
    · exact hDropped.trans (Does.markInvalid (hDropped.fits h) _)

theorem Does.failRequest (h : m.Fits A) (id : Nat) (reason : StateReason) :
    Does A m (m.failRequest id reason) := by
  unfold Manager.failRequest
  split
  · exact Does.refl m
  · dsimp only
    split
    · exact Does.teardown m _ reason
    · exact (Does.markInvalid h _).trans (Does.teardown _ _ reason)

/-- What follows from a state that a device entered. Of a failure and of the end of an activation
something was left in hand. -/
theorem followState_changes (h : m.Fits A) (a : Agenda) (id : Nat) (new old : DeviceState)
    (reason : StateReason) :
    Changes A (m, a.hear (.stateChanged id new old reason)) (m.followState id new reason, a) := by
  cases new with
  | activated => exact Does.updateTimestamp h id a
  | failed =>
    have hFreed : Does A m ((m.failOrphan id).failRequest id reason) :=
      (Does.failOrphan h id).trans (Does.failRequest ((Does.failOrphan h id).fits h) id reason)
    exact (hFreed _).tail (.recover (a := { a with failed := id :: a.failed }) rfl reason)
  | disconnected =>
    exact (Does.teardownOn m id reason _).tail (.schedule (a := { a with due := id :: a.due }) rfl)
  | unavailable => exact Does.teardownOn m id reason a
  | unmanaged => exact Does.teardownOn m id reason a
  | unknown => exact .refl
  | prepare => exact .refl
  | config => exact .refl
  | needAuth => exact .refl
  | ipConfig => exact .refl

theorem Does.failUnansweredAuth (h : m.Fits A) (id : Nat) : Does A m (m.failUnansweredAuth id) := by
  unfold Manager.failUnansweredAuth
  split
  · exact Does.refl m
  · exact Does.order h id .failAuth

/-- To handle an event is a sequence of changes. -/
theorem Does.handleEvent (h : m.Fits A) {e : DeviceEvent} {rest : List DeviceEvent}
    (hQueue : m.queue = e :: rest) : Does A m ({ m with queue := rest }.handleEvent e) := by
  intro a
  have hTold : Change A (m, a) (m.told e rest, a.hear e) := .tell hQueue
  have hFits : (m.told e rest).Fits A := (h.told hQueue).fits
  refine (Relation.ReflTransGen.single hTold).trans ?_
  cases e with
  | linkRequested id request => exact .refl
  | needSecrets id need =>
    have hSame : m.told (.needSecrets id need) rest = { m with queue := rest } := by
      unfold Manager.told
      rw [show DeviceEvent.published (.needSecrets id need) = [] from rfl, List.append_nil]
    rw [hSame] at hFits ⊢
    exact Does.failUnansweredAuth hFits id a
  | stateChanged id new old reason =>
    have hBefore : Does A (m.told (.stateChanged id new old reason) rest)
        (if !new.isActive && new != DeviceState.failed then
          (m.told (.stateChanged id new old reason) rest).dropOrphan id
        else m.told (.stateChanged id new old reason) rest) := by
      split
      · exact Does.dropOrphan hFits id
      · exact Does.refl _
    have hFollow := followState_changes (hBefore.fits hFits) a id new old reason
    have hEq : { m with queue := rest }.handleEvent (.stateChanged id new old reason) =
        ((if !new.isActive && new != DeviceState.failed then
          (m.told (.stateChanged id new old reason) rest).dropOrphan id
        else m.told (.stateChanged id new old reason) rest).followState id new reason).updateState := by
      rw [← told_announced]
      rfl
    rw [hEq]
    exact ((hBefore _).trans hFollow).tail .sum

theorem Does.drain (n : Nat) (h : m.Fits A) : Does A m (drain n m) := by
  induction n generalizing m with
  | zero => exact Does.refl m
  | succ n ih =>
    unfold Manager.drain
    cases hQueue : m.queue with
    | nil => exact Does.refl m
    | cons e rest =>
      have hFirst : Does A m ({ m with queue := rest }.handleEvent e) := Does.handleEvent h hQueue
      exact hFirst.trans (ih (hFirst.fits h))

/-- To work off all queues is a sequence of changes. -/
theorem Does.pump (h : m.Fits A) : Does A m m.pump := by
  have hRequests : Does A m m.processRequests := Does.processRequests h
  unfold Manager.pump
  dsimp only
  split
  · exact hRequests
  · have hDrained := hRequests.trans (Does.drain m.processRequests.queueWeight (hRequests.fits h))
    exact hDrained.trans (Does.processRequests (hDrained.fits h))

-- ---------------------------------------------------------------------------
-- Automatic activations that become due
-- ---------------------------------------------------------------------------

/-- Devices that are looked at one after the other. -/
theorem schedule_changes (ds : List Device) (m : Manager) (a : Agenda) :
    Changes A (m, { a with due := ds.map Device.id ++ a.due })
      (ds.foldl (fun m d => m.schedule d.id) m, a) := by
  induction ds generalizing m with
  | nil => exact .refl
  | cons d ds ih =>
    refine .head (.schedule (a := { a with due := d.id :: (ds.map Device.id ++ a.due) }) rfl) ?_
    exact ih (m.schedule d.id)

/-- Whatever makes devices free, all of them are looked at afterwards. -/
theorem Does.scheduleAll (hFits : m'.Fits A) (hLeaves : Leaves m m') : Does A m m'.scheduleAll := by
  intro a
  refine .head (.quiet (m'.devices.map Device.id) hFits hLeaves fun d hd _ => Or.inr ?_)
    (schedule_changes m'.devices m' a)
  rw [hLeaves.devices]
  exact List.mem_map_of_mem hd

end Manager

end ScannerHub
