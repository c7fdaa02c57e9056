import ScannerHub.Manager.Basic
import ScannerHub.Proofs.Activation.Follow
import ScannerHub.Proofs.Device.Pipeline

/-!
# Sites

A site is all that the manager knows about one device: the device, the request on it, the
activation without a request, the events of the device that were not handled yet, and what the
published events say about its link. Whatever the manager does, it does to one site after another,
so its invariant is one of sites.

The invariant has two parts. The first one holds after each elementary change, and speaks of what
the parts of a site know of each other. The second one, that each activation has an owner, is
broken inside an operation and restored before it ends, if only by an event that still waits.

* `Site.Sound` — the first part;
* `Site.Held` — the second part;
* `Site.hears`, `Site.forget`, `Site.tell` — what happens to a site.

## Results

* `Sound.hears`, `Sound.forget`, `Sound.tell` — the first part is preserved;
* `Held.hears` — the second part is preserved by operations on the device;
* `Held.forget_hears` — a device that loses its request has to be stopped.
-/

namespace ScannerHub

-- ---------------------------------------------------------------------------
-- Places among the subscribers
-- ---------------------------------------------------------------------------

namespace Request

/-- The place of a request among the subscribers of its device. -/
def listening (r : Request) : List Subscription :=
  (r.subscription.map fun id => { id, listener := .request r.id, closed := false }).toList

end Request

/-- The place of the manager among the subscribers of every device. -/
def managerListening : Subscription := { id := 0, listener := .manager, closed := false }

-- ---------------------------------------------------------------------------
-- Sites
-- ---------------------------------------------------------------------------

/-- All that the manager knows about one device. -/
structure Site where
  device : Option Device
  request : Option Request
  orphan : Option Orphan
  /-- The events of the device that the manager did not handle yet. -/
  queue : List DeviceEvent
  /-- What published events that nobody took say about the link of the device. -/
  news : List Bool

namespace Site

/-- All news about the link, in the order in which others hear of it. -/
def allNews (s : Site) : List Bool := s.news ++ linkNews s.queue

/-- Exactly the manager and the request on a device hear of its events. -/
def subscribers (s : Site) : List Subscription :=
  managerListening :: (s.request.map Request.listening).getD []

/-- What the parts of a site know of each other, after each elementary change. The parameter tells
of which device and path someone outside knows that a link is wanted. -/
structure Sound (A : Nat → String → Prop) (s : Site) (d : Device) : Prop where
  device : d.Sound
  subscribers : d.subscribers = s.subscribers
  numbers : 0 < d.nextSubscription
  place : ∀ r, s.request = some r → ∃ k, r.subscription = some k ∧ 0 < k ∧ k < d.nextSubscription
  follows : ∀ r, s.request = some r → r.foreseen = .ofDevice d.state
  awaits : ∀ r, s.request = some r → r.awaitsSecrets = true →
    d.state = .needAuth ∨ d.state.isActive = false
  last : ∀ t, (entered s.queue).getLast? = some t → t = d.state
  trail : d.state.isActive = true → ∀ t ∈ entered s.queue, t.isActive = true
  link : d.hasLink = true → d.state.isActive = true →
    s.allNews.getLast? = some true ∨ (s.allNews = [] ∧ A d.id d.udi)

/-- The first part of the invariant: without a device there is nothing. -/
structure Fits (A : Nat → String → Prop) (s : Site) : Prop where
  absent : s.device = none → s.request = none ∧ s.orphan = none
  sound : ∀ d, s.device = some d → s.Sound A d

/-- Each activation has an owner, each wait for secrets someone who asked, and what is left of an
activation that ended goes with an event that waits. -/
structure Held (s : Site) (d : Device) : Prop where
  owned : d.state.isActive = true → (s.request.isSome = true ↔ s.orphan = none)
  served : d.state = .needAuth → ∀ r, s.request = some r → r.awaitsSecrets = true
  unserved : d.state = .needAuth → s.request = none → asks s.queue = true
  left : d.state.isActive = false →
    s.request.isSome = true ∨ s.orphan.isSome = true ∨ d.state = .failed → entered s.queue ≠ []

/-- The second part of the invariant. -/
def Accounted (s : Site) : Prop := ∀ d, s.device = some d → s.Held d

variable {A : Nat → String → Prop} {s : Site} {d : Device}

theorem Sound.allListen (h : s.Sound A d) : d.AllListen := by
  intro x hx
  rw [h.subscribers] at hx
  rcases List.mem_cons.mp hx with rfl | hx
  · rfl
  · cases hr : s.request with
    | none =>
      rw [hr] at hx
      cases hx
    | some r =>
      obtain ⟨k, hk, -, -⟩ := h.place r hr
      rw [hr] at hx
      simp only [Option.map_some, Option.getD_some, Request.listening, hk, Option.toList_some,
        List.mem_singleton] at hx
      rw [hx]

-- ---------------------------------------------------------------------------
-- An operation on the device
-- ---------------------------------------------------------------------------

/-- The site after an operation on its device. -/
def hears (s : Site) (u : Update) : Site :=
  { s with
    device := some u.device
    request := s.request.map fun r => r.hear u.events
    queue := s.queue ++ u.events }

theorem subscribers_hears (s : Site) (u : Update) : (s.hears u).subscribers = s.subscribers := by
  unfold subscribers hears
  cases s.request <;> rfl

/-- An operation on the device; one that brings secrets must have taken them from the request. -/
theorem Sound.hears {u : Update} (h : s.Sound A d) (hMoves : Device.Moves d u)
    (hNeed : d.state = .needAuth → u.device.state = .needAuth ∨ u.device.state.isActive = false ∨
      ∀ r, s.request = some r → r.awaitsSecrets = false) :
    (s.hears u).Sound A u.device where
  device := hMoves.sound
  subscribers := by
    rw [subscribers_hears, hMoves.frame.subscribers]
    exact h.subscribers
  numbers := by
    rw [hMoves.frame.nextSubscription]
    exact h.numbers
  place r hr := by
    obtain ⟨r₀, hr₀, rfl⟩ := Option.map_eq_some_iff.mp hr
    rw [hMoves.frame.nextSubscription]
    exact h.place r₀ hr₀
  follows r hr := by
    obtain ⟨r₀, hr₀, rfl⟩ := Option.map_eq_some_iff.mp hr
    rw [Request.foreseen_hear, h.follows r₀ hr₀, List.getLastD_map, hMoves.last]
  awaits r hr hAwaits := by
    obtain ⟨r₀, hr₀, rfl⟩ := Option.map_eq_some_iff.mp hr
    rw [Request.awaitsSecrets_hear, Bool.or_eq_true] at hAwaits
    rcases hAwaits with hAwaits | hAsks
    · rcases h.awaits r₀ hr₀ hAwaits with hOld | hOld
      · rcases hNeed hOld with hNew | hNew | hNot
        · exact Or.inl hNew
        · exact Or.inr hNew
        · rw [hNot r₀ hr₀] at hAwaits
          cases hAwaits
      · refine Or.inr (Bool.eq_false_iff.mpr fun hActive => ?_)
        rw [(hMoves.active hActive).1] at hOld
        cases hOld
    · exact hMoves.waits hAsks
  last t ht := by
    -- if the operation tells no state, the device is still where the queue says
    have hLast := hMoves.last
    change (entered (s.queue ++ u.events)).getLast? = some t at ht
    rw [entered_append, List.getLast?_append] at ht
    rw [List.getLastD_eq_getLast?] at hLast
    cases hEvents : (entered u.events).getLast? with
    | none =>
      rw [hEvents] at ht hLast
      rw [h.last t ht]
      exact hLast
    | some t' =>
      rw [hEvents] at ht hLast
      cases ht
      exact hLast
  trail hActive t ht := by
    obtain ⟨hOld, hEvents⟩ := hMoves.active hActive
    change t ∈ entered (s.queue ++ u.events) at ht
    rw [entered_append] at ht
    rcases List.mem_append.mp ht with ht | ht
    · exact h.trail hOld t ht
    · exact hEvents t ht
  link hLink hActive := by
    obtain ⟨hOld, hEvents⟩ := hMoves.active hActive
    have hNews : (s.hears u).allNews = s.allNews := by
      show s.news ++ linkNews (s.queue ++ u.events) = _
      rw [linkNews_append, linkNews_eq_nil hMoves.noLink hEvents, List.append_nil]
      rfl
    rw [hNews, hMoves.frame.id, hMoves.frame.udi]
    exact h.link (hMoves.frame.hasLink.symm.trans hLink) hOld

/-- An operation on the device leaves no activation without an owner. -/
theorem Held.hears {u : Update} (h : s.Held d) (hMoves : Device.Moves d u) :
    (s.hears u).Held u.device := by
  refine ⟨fun hActive => ?_, fun hNeed r hr => ?_, fun hNeed hr => ?_, fun hIdle hOwner => ?_⟩
  · show (s.request.map _).isSome = true ↔ _
    rw [Option.isSome_map]
    exact h.owned (hMoves.active hActive).1
  · obtain ⟨r₀, hr₀, rfl⟩ := Option.map_eq_some_iff.mp hr
    rw [Request.awaitsSecrets_hear, Bool.or_eq_true]
    rcases hMoves.asked hNeed with hOld | hAsks
    · exact Or.inl (h.served hOld r₀ hr₀)
    · exact Or.inr hAsks
  · have hr₀ : s.request = none := Option.map_eq_none_iff.mp hr
    show asks (s.queue ++ u.events) = true
    rw [asks_append, Bool.or_eq_true]
    rcases hMoves.asked hNeed with hOld | hAsks
    · exact Or.inl (h.unserved hOld hr₀)
    · exact Or.inr hAsks
  · show entered (s.queue ++ u.events) ≠ []
    rw [entered_append]
    intro hNil
    obtain ⟨hQueue, hEvents⟩ := List.append_eq_nil_iff.mp hNil
    have hSame : d.state = u.device.state := by
      have hLast := hMoves.last
      rw [hEvents] at hLast
      exact hLast
    rw [← hSame] at hIdle hOwner
    refine h.left hIdle ?_ hQueue
    rcases hOwner with hr | ho | hFailed
    · refine Or.inl ?_
      rw [← Option.isSome_map]
      exact hr
    · exact Or.inr (Or.inl ho)
    · exact Or.inr (Or.inr hFailed)

/-- A device that stopped and said so leaves nothing behind for long. -/
theorem held_of_entered (hIdle : d.state.isActive = false) (hEntered : entered s.queue ≠ []) :
    s.Held d where
  owned hActive := by
    rw [hIdle] at hActive
    cases hActive
  served hNeed := by
    rw [hNeed] at hIdle
    cases hIdle
  unserved hNeed := by
    rw [hNeed] at hIdle
    cases hIdle
  left _ _ := hEntered

/-- A device at rest that only the manager listens to, and of which nothing waits. -/
theorem sound_free (hRequest : s.request = none) (hQueue : s.queue = []) (hSound : d.Sound)
    (hListens : d.subscribers = [managerListening]) (hNumbers : 0 < d.nextSubscription)
    (hIdle : d.state.isActive = false) : Sound A { s with device := some d } d where
  device := hSound
  subscribers := by
    unfold Site.subscribers
    dsimp only
    rw [hListens, hRequest]
    rfl
  numbers := hNumbers
  place r hr := by
    rw [show s.request = some r from hr] at hRequest
    cases hRequest
  follows r hr := by
    rw [show s.request = some r from hr] at hRequest
    cases hRequest
  awaits r hr := by
    rw [show s.request = some r from hr] at hRequest
    cases hRequest
  last t ht := by
    change (entered s.queue).getLast? = some t at ht
    rw [hQueue] at ht
    cases ht
  trail hActive := by
    rw [hIdle] at hActive
    cases hActive
  link _ hActive := by
    rw [hIdle] at hActive
    cases hActive

/-- A device that stopped, with nothing left of its activation. -/
theorem held_of_free (hIdle : d.state.isActive = false) (hRequest : s.request = none)
    (hOrphan : s.orphan = none) (hFailed : d.state = .failed → entered s.queue ≠ []) :
    s.Held d where
  owned hActive := by
    rw [hIdle] at hActive
    cases hActive
  served hNeed := by
    rw [hNeed] at hIdle
    cases hIdle
  unserved hNeed := by
    rw [hNeed] at hIdle
    cases hIdle
  left _ hOwner := by
    rw [hRequest, hOrphan] at hOwner
    rcases hOwner with h | h | h
    · cases h
    · cases h
    · exact hFailed h

/-- A device that changed its state has said so. -/
theorem entered_ne_nil {u : Update} (hMoves : Device.Moves d u) (hNe : u.device.state ≠ d.state) :
    entered u.events ≠ [] := by
  intro hNil
  have hLast := hMoves.last
  rw [hNil] at hLast
  exact hNe hLast.symm

-- ---------------------------------------------------------------------------
-- The end of a request
-- ---------------------------------------------------------------------------

/-- The device with nobody but the manager to hear of its events. -/
def leftAlone (d : Device) : Device := { d with subscribers := [managerListening] }

theorem allListen_leftAlone (d : Device) : (leftAlone d).AllListen :=
  fun _ hs => List.mem_singleton.mp hs ▸ rfl

theorem sound_leftAlone (h : d.Sound) : (leftAlone d).Sound := ⟨h.stop, h.managed, h.hardware⟩

/-- The site without its request. -/
def forget (s : Site) : Site :=
  { s with device := s.device.map leftAlone, request := none }

/-- A request that leaves its device leaves it alone. -/
theorem Sound.leave_eq (h : s.Sound A d) {r : Request} (hr : s.request = some r) :
    r.leave d = leftAlone d := by
  obtain ⟨k, hk, hPos, -⟩ := h.place r hr
  have hSubscribers := h.subscribers
  unfold Site.subscribers at hSubscribers
  simp only [hr, Option.map_some, Option.getD_some, Request.listening, hk,
    Option.toList_some] at hSubscribers
  have hNe : (0 : Nat) ≠ k := by omega
  unfold Request.leave Device.unsubscribe leftAlone
  simp only [hk, hSubscribers]
  simp [managerListening, hNe]

theorem Sound.leftAlone_eq (h : s.Sound A d) (hr : s.request = none) : leftAlone d = d := by
  have hSubscribers := h.subscribers
  unfold Site.subscribers at hSubscribers
  rw [hr] at hSubscribers
  unfold leftAlone
  rw [show [managerListening] = d.subscribers from hSubscribers.symm]

theorem Sound.forget (h : s.Sound A d) : s.forget.Sound A (leftAlone d) where
  device := sound_leftAlone h.device
  subscribers := rfl
  numbers := h.numbers
  place _ hr := by cases hr
  follows _ hr := by cases hr
  awaits _ hr := by cases hr
  last := h.last
  trail := h.trail
  link := h.link

theorem Fits.forget (h : s.Fits A) : s.forget.Fits A where
  absent hd := ⟨rfl, (h.absent (Option.map_eq_none_iff.mp hd)).2⟩
  sound d hd := by
    obtain ⟨d₀, hd₀, rfl⟩ := Option.map_eq_some_iff.mp hd
    exact (h.sound d₀ hd₀).forget

/-- An idle device that loses its request leaves nothing behind for long. -/
theorem Held.forget (h : s.Held d) (hIdle : d.state.isActive = false) :
    s.forget.Held (leftAlone d) where
  owned hActive := by
    rw [show (leftAlone d).state = d.state from rfl, hIdle] at hActive
    cases hActive
  served _ _ hr := by cases hr
  unserved hNeed := by
    rw [show (leftAlone d).state = d.state from rfl] at hNeed
    rw [hNeed] at hIdle
    cases hIdle
  left _ hOwner := by
    rcases hOwner with hr | hRest
    · cases hr
    · exact h.left hIdle (Or.inr hRest)

/-- A device that is stopped leaves nothing behind for long, if it did not while it was idle. -/
theorem held_hears {u : Update} (h : d.state.isActive = false → s.Held d)
    (hMoves : Device.Moves d u) (hIdle : u.device.state.isActive = false) :
    (s.hears u).Held u.device := by
  cases hActive : d.state.isActive with
  | false => exact (h hActive).hears hMoves
  | true =>
    have hNe : u.device.state ≠ d.state := by
      intro hEq
      rw [hEq, hActive] at hIdle
      cases hIdle
    refine held_of_entered hIdle ?_
    show entered (s.queue ++ u.events) ≠ []
    rw [entered_append]
    exact List.append_ne_nil_of_right_ne_nil _ (entered_ne_nil hMoves hNe)

/-- A device that loses its request and is stopped leaves nothing behind for long. -/
theorem Held.forget_hears {u : Update} (h : s.Held d) (hMoves : Device.Moves (leftAlone d) u)
    (hIdle : u.device.state.isActive = false) : (s.forget.hears u).Held u.device :=
  held_hears (fun hOld => h.forget hOld) hMoves hIdle

-- ---------------------------------------------------------------------------
-- The activation without a request
-- ---------------------------------------------------------------------------

/-- The site with another activation without a request, or with none. -/
def adopt (s : Site) (orphan : Option Orphan) : Site := { s with orphan }

theorem Sound.adopt (h : s.Sound A d) (orphan : Option Orphan) : (s.adopt orphan).Sound A d :=
  ⟨h.device, h.subscribers, h.numbers, h.place, h.follows, h.awaits, h.last, h.trail, h.link⟩

/-- An activation whose request leaves it is noted, so that it keeps an owner. -/
theorem Held.orphaned {orphan : Option Orphan} (h : s.Held d)
    (hSome : d.state.isActive = true → orphan.isSome = true)
    (hSame : d.state.isActive = false → orphan = s.orphan) (hNeed : d.state ≠ .needAuth) :
    (s.adopt orphan).forget.Held (leftAlone d) := by
  cases hActive : d.state.isActive with
  | true =>
    refine ⟨fun _ => ⟨nofun, fun hNone => ?_⟩, fun h => absurd h hNeed, fun h => absurd h hNeed,
      fun hIdle => ?_⟩
    · have hOrphan := hSome hActive
      rw [show orphan = none from hNone] at hOrphan
      cases hOrphan
    · rw [show d.state.isActive = false from hIdle] at hActive
      cases hActive
  | false =>
    rw [hSame hActive]
    exact h.forget hActive

-- ---------------------------------------------------------------------------
-- An event that is handled
-- ---------------------------------------------------------------------------

/-- The site once its oldest event was published. -/
def tell (s : Site) (e : DeviceEvent) : Site :=
  { s with queue := s.queue.tail, news := s.news ++ linkNews [e] }

theorem allNews_tell {e : DeviceEvent} {rest : List DeviceEvent} (hQueue : s.queue = e :: rest) :
    (s.tell e).allNews = s.allNews := by
  unfold allNews tell
  rw [hQueue, List.append_assoc, ← linkNews_append]
  rfl

theorem Sound.tell {e : DeviceEvent} {rest : List DeviceEvent} (h : s.Sound A d)
    (hQueue : s.queue = e :: rest) : (s.tell e).Sound A d := by
  have hEntered : ∃ before, entered s.queue = before ++ entered (s.tell e).queue := by
    refine ⟨entered [e], ?_⟩
    rw [← entered_append, hQueue]
    show _ = entered ([e] ++ s.queue.tail)
    rw [hQueue]
    rfl
  obtain ⟨before, hBefore⟩ := hEntered
  refine ⟨h.device, h.subscribers, h.numbers, h.place, h.follows, h.awaits, ?_, ?_, ?_⟩
  · intro t ht
    refine h.last t ?_
    rw [hBefore, List.getLast?_append, ht]
    rfl
  · intro hActive t ht
    refine h.trail hActive t ?_
    rw [hBefore]
    exact List.mem_append_right _ ht
  · intro hLink hActive
    rw [allNews_tell hQueue]
    exact h.link hLink hActive

/-- An event that tells of no state changes nothing in who owns an activation, unless it is the
request for secrets that nobody serves. -/
theorem Held.tell {e : DeviceEvent} {rest : List DeviceEvent} (h : s.Held d)
    (hQueue : s.queue = e :: rest) (hEntered : d.state.isActive = true ∨ e.entered? = none)
    (hAsks : e.asks = false ∨ s.request.isSome = true ∨ d.state ≠ .needAuth) :
    (s.tell e).Held d where
  owned := h.owned
  served := h.served
  unserved hNeed hr := by
    have hOld := h.unserved hNeed hr
    rw [hQueue] at hOld
    show asks s.queue.tail = true
    rw [hQueue]
    rcases hAsks with hAsks | hSome | hNot
    · rw [asks_cons, hAsks, Bool.false_or] at hOld
      exact hOld
    · rw [show s.request = none from hr] at hSome
      cases hSome
    · exact absurd hNeed hNot
  left hIdle hOwner := by
    rcases hEntered with hActive | hNone
    · rw [hIdle] at hActive
      cases hActive
    · have hOld := h.left hIdle hOwner
      rw [hQueue] at hOld
      show entered s.queue.tail ≠ []
      rw [hQueue]
      unfold entered at hOld ⊢
      rw [List.filterMap_cons_none hNone] at hOld
      exact hOld

/-- The last state that a device entered is its present one, so a state that it left for good is
followed by others. -/
theorem Sound.entered_tail_ne_nil {e : DeviceEvent} {rest : List DeviceEvent} {t : DeviceState}
    (h : s.Sound A d) (hQueue : s.queue = e :: rest) (ht : e.entered? = some t)
    (hNe : t ≠ d.state) : entered (s.tell e).queue ≠ [] := by
  intro hNil
  refine hNe (h.last t ?_)
  change entered s.queue.tail = [] at hNil
  rw [hQueue] at hNil ⊢
  unfold entered at hNil ⊢
  rw [List.filterMap_cons_some ht, show List.filterMap _ rest = [] from hNil]
  rfl

-- ---------------------------------------------------------------------------
-- A change of the request
-- ---------------------------------------------------------------------------

/-- The site with another version of its request. -/
def withRequest (s : Site) (r : Request) : Site := { s with request := some r }

/-- A request may change all but its place and what it will come to. -/
theorem Sound.withRequest {r r' : Request} (h : s.Sound A d) (hr : s.request = some r)
    (hListening : r'.id = r.id ∧ r'.subscription = r.subscription)
    (hForeseen : r'.foreseen = r.foreseen)
    (hAwaits : r'.awaitsSecrets = true → r.awaitsSecrets = true) :
    (s.withRequest r').Sound A d where
  device := h.device
  subscribers := by
    rw [h.subscribers]
    unfold Site.subscribers Site.withRequest
    simp only [hr, Option.map_some, Option.getD_some, Request.listening, hListening]
  numbers := h.numbers
  place _ hr' := by
    cases hr'
    rw [hListening.2]
    exact h.place r hr
  follows _ hr' := by
    cases hr'
    exact hForeseen.trans (h.follows r hr)
  awaits _ hr' hNeed := by
    cases hr'
    exact h.awaits r hr (hAwaits hNeed)
  last := h.last
  trail := h.trail
  link := h.link

/-- A request that still waits for secrets, if it did, owns what it owned. -/
theorem Held.withRequest {r r' : Request} (h : s.Held d) (hr : s.request = some r)
    (hAwaits : d.state = .needAuth → r.awaitsSecrets = true → r'.awaitsSecrets = true) :
    (s.withRequest r').Held d where
  owned hActive := by
    have hOwned := h.owned hActive
    rw [hr] at hOwned
    exact hOwned
  served hNeed _ hr' := by
    cases hr'
    exact hAwaits hNeed (h.served hNeed r hr)
  unserved _ hr' := by cases hr'
  left hIdle hOwner := by
    refine h.left hIdle ?_
    rcases hOwner with _ | hRest
    · rw [hr]
      exact Or.inl rfl
    · exact Or.inr hRest

/-- Secrets that a request got take its device out of the state in which it waits for them. -/
theorem Held.answered {r r' : Request} {u : Update} (h : s.Held d) (hr : s.request = some r)
    (hMoves : Device.Moves d u) (hNeed : u.device.state ≠ .needAuth) :
    ((s.withRequest r').hears u).Held u.device where
  owned hActive := by
    have hOwned := h.owned (hMoves.active hActive).1
    rw [hr] at hOwned
    exact hOwned
  served h' := absurd h' hNeed
  unserved h' := absurd h' hNeed
  left hIdle hOwner := by
    refine (h.hears hMoves).left hIdle ?_
    rcases hOwner with _ | hRest
    · refine Or.inl ?_
      show (s.request.map _).isSome = true
      rw [hr]
      rfl
    · exact Or.inr hRest

-- ---------------------------------------------------------------------------
-- The start of an activation
-- ---------------------------------------------------------------------------

/-- The site with a new request that listens while its device starts. -/
def launched (s : Site) (r : Request) (u : Update) : Site :=
  { s with
    device := some u.device, request := some (r.hear u.events), queue := s.queue ++ u.events }

/-- A new request on a device that listens from now on. -/
structure Joins (d d' : Device) (r : Request) : Prop where
  state : d'.state = d.state
  subscribers : d'.subscribers = d.subscribers ++ r.listening
  place : r.subscription = some d.nextSubscription
  next : d'.nextSubscription = d.nextSubscription + 1
  follows : r.state = .ofDevice d.state
  queue : r.queue = []
  secrets : r.secrets = none

theorem Sound.launched {d' : Device} {r : Request} {u : Update} (h : s.Sound A d)
    (hRequest : s.request = none) (hQueue : s.queue = []) (hJoins : Joins d d' r)
    (hStarts : Device.Starts d' u) : (s.launched r u).Sound A u.device where
  device := hStarts.sound
  subscribers := by
    have hOld := h.subscribers
    unfold Site.subscribers at hOld
    rw [hRequest] at hOld
    rw [hStarts.frame.subscribers, hJoins.subscribers, hOld]
    rfl
  numbers := by
    rw [hStarts.frame.nextSubscription, hJoins.next]
    exact Nat.succ_pos _
  place _ hr := by
    cases hr
    refine ⟨d.nextSubscription, hJoins.place, h.numbers, ?_⟩
    rw [hStarts.frame.nextSubscription, hJoins.next]
    exact Nat.lt_succ_self _
  follows _ hr := by
    cases hr
    have hNow : r.foreseen = .ofDevice d'.state := by
      unfold Request.foreseen
      rw [hJoins.queue, hJoins.state]
      exact hJoins.follows
    rw [Request.foreseen_hear, hNow, List.getLastD_map, hStarts.last]
  awaits _ hr hAwaits := by
    cases hr
    rw [Request.awaitsSecrets_hear, hStarts.asksNot, Bool.or_false] at hAwaits
    unfold Request.awaitsSecrets at hAwaits
    rw [hJoins.queue, hJoins.secrets] at hAwaits
    cases hAwaits
  last t ht := by
    have hLast := hStarts.last
    change (entered (s.queue ++ u.events)).getLast? = some t at ht
    rw [hQueue, List.nil_append] at ht
    rw [List.getLastD_eq_getLast?, ht] at hLast
    exact hLast
  trail _ t ht := by
    change t ∈ entered (s.queue ++ u.events) at ht
    rw [hQueue, List.nil_append] at ht
    exact hStarts.active t ht
  link hLink _ := by
    left
    show (s.news ++ linkNews (s.queue ++ u.events)).getLast? = some true
    rw [hQueue, List.nil_append, List.getLast?_append,
      hStarts.link (hStarts.frame.hasLink.symm.trans hLink)]
    rfl

theorem held_launched {d' : Device} {r : Request} {u : Update} (hOrphan : s.orphan = none)
    (hStarts : Device.Starts d' u) : (s.launched r u).Held u.device where
  owned _ := ⟨fun _ => hOrphan, fun _ => rfl⟩
  served hNeed := by
    rcases hStarts.rests with h | h <;> rw [h] at hNeed <;> cases hNeed
  unserved hNeed := by
    rcases hStarts.rests with h | h <;> rw [h] at hNeed <;> cases hNeed
  left hIdle := by
    rcases hStarts.rests with h | h <;> rw [h] at hIdle <;> cases hIdle

end Site

end ScannerHub
