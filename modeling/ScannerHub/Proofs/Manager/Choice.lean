import Mathlib.Data.List.Sort
import ScannerHub.Proofs.Device.Readiness
import ScannerHub.Proofs.Manager.Autoconnect
import ScannerHub.Proofs.Manager.Continuity
import ScannerHub.Proofs.Manager.Termination

/-!
# The best connection

An automatic activation takes the best of all connections that could be started: one of the system
before one of the user, then the one that was used last, then the one with the lesser path. It is found
by sorting one cache after the other and taking the first that fits. Which connections there are decides
about it, and nothing else does.

The manager looks for one only while it settles. Whatever it holds then, the queue has been worked off, so
that an activation that fits starts, and no other request comes between.

* `Offer` — a connection that could be started, where it was found;
* `Manager.Best` — an offer that comes before all others;
* `Manager.looks` — the moments at which the manager looks for an automatic activation;
* `Manager.TakesUp` — an offer was taken up.

## Results

* `ConnectionCache.pairwise_candidates` — a cache lists its connections in their order;
* `Manager.autoChoice?_eq_some_iff` — the choice is the best offer;
* `Calm.takesUp` — what is chosen is started;
* `Manager.settleNoting_fst` — to note the moments of looking does not change the settling;
* `looks_best` — an automatic activation takes up the best offer.
-/

namespace ScannerHub

-- ---------------------------------------------------------------------------
-- The order of a cache
-- ---------------------------------------------------------------------------

/-- What is found first in a list in order comes before whatever else could have been found. -/
theorem find?_first {α : Type} {R : α → α → Prop} {p : α → Bool} {xs : List α} (h : xs.Pairwise R)
    {b : α} (hFound : xs.find? p = some b) : ∀ a ∈ xs, p a = true → a = b ∨ R b a := by
  obtain ⟨-, before, after, rfl, hNot⟩ := List.find?_eq_some_iff_append.mp hFound
  intro a ha hFits
  rcases List.mem_append.mp ha with ha | ha
  · have hSkipped := hNot a ha
    rw [hFits] at hSkipped
    cases hSkipped
  · rcases List.mem_cons.mp ha with rfl | ha
    · exact Or.inl rfl
    · exact Or.inr ((List.pairwise_cons.mp (List.pairwise_append.mp h).2.1).1 a ha)

namespace ConnectionCache

/-- The order of a cache, as a relation. -/
def Precedes (a b : String × Connection) : Prop := precedes a b = true

instance : DecidableRel Precedes := fun _ _ => inferInstanceAs (Decidable (_ = true))

theorem precedes_iff (a b : String × Connection) : Precedes a b ↔
    b.2.timestamp < a.2.timestamp ∨ a.2.timestamp = b.2.timestamp ∧ a.1 ≤ b.1 := by
  simp [Precedes, precedes]

instance : Std.Total Precedes where
  total a b := by
    rw [precedes_iff, precedes_iff]
    by_cases hSame : a.2.timestamp = b.2.timestamp
    · exact (String.le_total a.1 b.1).imp (fun hLe => Or.inr ⟨hSame, hLe⟩)
        fun hLe => Or.inr ⟨hSame.symm, hLe⟩
    · exact (UInt64.lt_or_lt_of_ne hSame).symm.imp Or.inl Or.inl

instance : IsTrans (String × Connection) Precedes where
  trans a b c := by
    rw [precedes_iff, precedes_iff, precedes_iff]
    rintro (hab | ⟨hab, hPath⟩) (hbc | ⟨hbc, hPath'⟩)
    · exact Or.inl (UInt64.lt_trans hbc hab)
    · exact Or.inl (hbc ▸ hab)
    · exact Or.inl (hab ▸ hbc)
    · exact Or.inr ⟨hab.trans hbc, String.le_trans hPath hPath'⟩

theorem place_eq (e : String × Connection) (xs : List (String × Connection)) :
    place e xs = xs.orderedInsert Precedes e := by
  induction xs with
  | nil => rfl
  | cons x xs ih =>
    rw [List.orderedInsert_cons, ← ih]
    rfl

/-- A cache lists its connections in their order. -/
theorem pairwise_candidates (cache : ConnectionCache) : cache.candidates.Pairwise Precedes := by
  have hSort : cache.connections.entries.foldr place [] =
      cache.connections.entries.insertionSort Precedes := by
    unfold List.insertionSort
    rw [show place = List.orderedInsert Precedes from funext fun e => funext (place_eq e)]
  unfold candidates
  split
  · rw [hSort]
    exact List.pairwise_insertionSort _ _
  · exact List.Pairwise.nil

end ConnectionCache

-- ---------------------------------------------------------------------------
-- Offers
-- ---------------------------------------------------------------------------

/-- A connection where it was found. -/
structure Offer where
  scope : Scope
  path : String
  connection : Connection

namespace Offer

/-- The order of preference: the system before the user, then the later use, then the lesser path. -/
def Before (a b : Offer) : Prop :=
  a.scope = .system ∧ b.scope = .user ∨
    a.scope = b.scope ∧ (b.connection.timestamp < a.connection.timestamp ∨
      a.connection.timestamp = b.connection.timestamp ∧ a.path < b.path)

theorem Before.asymm {a b : Offer} (h : a.Before b) : ¬ b.Before a := by
  rintro h'
  rcases h with ⟨ha, hb⟩ | ⟨hScope, h⟩ <;> rcases h' with ⟨ha', hb'⟩ | ⟨hScope', h'⟩
  · rw [ha] at hb'
    cases hb'
  · rw [ha, hb] at hScope'
    cases hScope'
  · rw [ha', hb'] at hScope
    cases hScope
  · rcases h with h | ⟨hSame, h⟩ <;> rcases h' with h' | ⟨hSame', h'⟩
    · exact UInt64.lt_asymm h h'
    · exact UInt64.lt_irrefl _ (hSame' ▸ h)
    · exact UInt64.lt_irrefl _ (hSame ▸ h')
    · exact String.lt_asymm h h'

end Offer

namespace Manager

variable {m m' : Manager} {d : Device} {o : Offer} {id : Nat}

/-- A connection may be started automatically on a device: its service runs, it wants to be, it was not
left out, and it fits. -/
structure Offered (m : Manager) (d : Device) (o : Offer) : Prop where
  running : (m.cache o.scope).running = true
  held : (m.cache o.scope).get? o.path = some o.connection
  autoconnect : o.connection.autoconnect = true
  valid : m.isInvalid o.connection.uuid = false
  fits : d.check o.connection = .ok ()

/-- An offer that comes before all others. -/
def Best (m : Manager) (d : Device) (o : Offer) : Prop :=
  m.Offered d o ∧ ∀ other, m.Offered d other → other = o ∨ o.Before other

theorem Best.unique {o' : Offer} (h : m.Best d o) (h' : m.Best d o') : o' = o := by
  rcases h.2 o' h'.1 with hSame | hBefore
  · exact hSame
  · exact (h'.2 o h.1).elim Eq.symm fun hAfter => absurd hAfter hBefore.asymm

theorem offers_iff_offered (m : Manager) (d : Device) : m.Offers d ↔ ∃ o, m.Offered d o :=
  ⟨fun ⟨scope, path, c, hRunning, hHeld, hAuto, hValid, hFits⟩ =>
    ⟨⟨scope, path, c⟩, hRunning, hHeld, hAuto, hValid, hFits⟩,
   fun ⟨o, h⟩ => ⟨o.scope, o.path, o.connection, h.running, h.held, h.autoconnect, h.valid, h.fits⟩⟩

/-- The offers of a service are its candidates that fit. -/
theorem offered_iff (m : Manager) (d : Device) (o : Offer) : m.Offered d o ↔
    (o.path, o.connection) ∈ m.autoCandidates o.scope ∧
      d.hardware.fitsAutomatically d.identity o.connection = true := by
  rw [mem_autoCandidates, fitsAutomatically_iff]
  exact ⟨fun h => ⟨⟨h.running, h.held, h.valid⟩, h.autoconnect, h.fits⟩,
    fun ⟨⟨hRunning, hHeld, hValid⟩, hAuto, hFits⟩ => ⟨hRunning, hHeld, hAuto, hValid, hFits⟩⟩

/-- The first connection of a service that fits. -/
def firstFit? (m : Manager) (d : Device) (scope : Scope) : Option (String × Connection) :=
  (m.autoCandidates scope).find? fun e => d.hardware.fitsAutomatically d.identity e.2

/-- What is found first in one cache is its best offer. -/
theorem firstFit?_some {scope : Scope} {path : String} {c : Connection}
    (h : m.firstFit? d scope = some (path, c)) :
    m.Offered d ⟨scope, path, c⟩ ∧ ∀ other, m.Offered d other → other.scope = scope →
      other = ⟨scope, path, c⟩ ∨ Offer.Before ⟨scope, path, c⟩ other := by
  have hChosen : d.hardware.fitsAutomatically d.identity c = true := by
    simpa using List.find?_some h
  have hOffered : m.Offered d ⟨scope, path, c⟩ :=
    (offered_iff m d _).mpr ⟨List.mem_of_find?_eq_some h, hChosen⟩
  refine ⟨hOffered, fun other hOther hScope => ?_⟩
  obtain ⟨otherScope, otherPath, other⟩ := other
  obtain rfl : otherScope = scope := hScope
  obtain ⟨hMem, hFits⟩ := (offered_iff m d _).mp hOther
  have hOrder := (m.cache otherScope).pairwise_candidates.filter fun e => !m.isInvalid e.2.uuid
  rcases find?_first hOrder h _ hMem hFits with hSame | hBefore
  · cases hSame
    exact Or.inl rfl
  · rcases (ConnectionCache.precedes_iff _ _).mp hBefore with hLater | ⟨hTime, hPath⟩
    · exact Or.inr (Or.inr ⟨rfl, Or.inl hLater⟩)
    · -- at one path there is one connection
      by_cases hSame : path = otherPath
      · obtain rfl := hSame
        obtain rfl := Option.some.inj (hOther.held.symm.trans hOffered.held)
        exact Or.inl rfl
      · have hLess : path < otherPath := by
          rw [← Decidable.not_not (p := path < otherPath), String.not_lt]
          exact fun hLe => hSame (String.le_antisymm hPath hLe)
        exact Or.inr (Or.inr ⟨rfl, Or.inr ⟨hTime, hLess⟩⟩)

theorem firstFit?_none {scope : Scope} (h : m.firstFit? d scope = none) (hOffered : m.Offered d o) :
    o.scope ≠ scope := by
  rintro rfl
  obtain ⟨hMem, hFits⟩ := (offered_iff m d o).mp hOffered
  exact List.find?_eq_none.mp h _ hMem hFits

/-- What is chosen is the best offer. -/
theorem autoChoice?_best {scope : Scope} {path : String} (h : m.autoChoice? d = some (scope, path)) :
    ∃ c, m.Best d ⟨scope, path, c⟩ := by
  have hChoice : m.autoChoice? d = match m.firstFit? d .system with
      | some e => some (.system, e.1)
      | none => (m.firstFit? d .user).map fun e => (.user, e.1) := by
    unfold autoChoice? firstFit?
    simp only [List.findSome?_cons, List.findSome?_nil]
    cases (m.autoCandidates .system).find? fun e => d.hardware.fitsAutomatically d.identity e.2 with
    | none => cases (m.autoCandidates .user).find? fun e =>
        d.hardware.fitsAutomatically d.identity e.2 <;> rfl
    | some e => rfl
  rw [hChoice] at h
  cases hSystem : m.firstFit? d .system with
  | some e =>
    rw [hSystem] at h
    cases h
    obtain ⟨hOffered, hFirst⟩ := firstFit?_some hSystem
    refine ⟨e.2, hOffered, fun other hOther => ?_⟩
    cases hScope : other.scope with
    | system => exact hFirst other hOther hScope
    | user => exact Or.inr (Or.inl ⟨rfl, hScope⟩)
  | none =>
    rw [hSystem] at h
    obtain ⟨e, hUser, hEq⟩ := Option.map_eq_some_iff.mp h
    cases hEq
    obtain ⟨hOffered, hFirst⟩ := firstFit?_some hUser
    refine ⟨e.2, hOffered, fun other hOther => ?_⟩
    have hScope : other.scope = .user := by
      have hNe := firstFit?_none hSystem hOther
      cases hOther' : other.scope with
      | system => exact absurd hOther' hNe
      | user => rfl
    exact hFirst other hOther hScope

/-- The choice is the best offer, and there is one if there is any offer. -/
theorem autoChoice?_eq_some_iff (m : Manager) (d : Device) (scope : Scope) (path : String) :
    m.autoChoice? d = some (scope, path) ↔ ∃ c, m.Best d ⟨scope, path, c⟩ := by
  refine ⟨autoChoice?_best, fun ⟨c, hBest⟩ => ?_⟩
  have hOffers : m.Offers d := (offers_iff_offered m d).mpr ⟨_, hBest.1⟩
  obtain ⟨⟨scope', path'⟩, hChoice⟩ := Option.isSome_iff_exists.mp ((offers_iff m d).mp hOffers)
  obtain ⟨c', hBest'⟩ := autoChoice?_best hChoice
  cases hBest.unique hBest'
  exact hChoice

/-- The choice depends on what is offered, and on nothing else. -/
theorem autoChoice?_congr {n : Manager} {e : Device} (h : ∀ o, n.Offered e o ↔ m.Offered d o) :
    n.autoChoice? e = m.autoChoice? d := by
  have hBest : ∀ o, n.Best e o ↔ m.Best d o := by
    intro o
    unfold Best
    rw [h o]
    simp only [h]
  refine Option.ext fun choice => ?_
  obtain ⟨scope, path⟩ := choice
  rw [autoChoice?_eq_some_iff, autoChoice?_eq_some_iff]
  simp only [hBest]

-- ---------------------------------------------------------------------------
-- What is chosen is started
-- ---------------------------------------------------------------------------

/-- An offer was taken up on a device: a request for it is there that no user asked for, and the device
waits for its link, or is connected. -/
structure TakesUp (m m' : Manager) (id : Nat) (o : Offer) (r : Request) : Prop where
  started : m.activate id o.scope o.path none false = (m', .ok r.id)
  request : m'.requestOn? id = some r
  path : r.path = o.path
  connection : r.connection = o.connection
  automatic : r.userRequested = false
  device : ∃ d, m'.device? id = some d ∧ (d.state = .config ∨ d.state = .activated)

/-- Without new requests a device without one stays without. -/
theorem Retains.requestOn?_none (h : Retains nothing m m') (hNone : m.requestOn? id = none) :
    m'.requestOn? id = none := by
  refine Option.eq_none_iff_forall_ne_some.mpr fun r' hr' => ?_
  obtain ⟨hMem, hOn⟩ := requestOn?_eq_some hr'
  cases h.requests r' hMem with
  | @kept r hr hGoes =>
    rw [hGoes.device] at hOn
    exact List.find?_eq_none.mp hNone r hr (beq_iff_eq.mpr hOn)
  | new _ _ hHeld => exact False.elim hHeld

/-- A launch on a disconnected device that the connection fits registers the only request there. -/
theorem launch_takesUp {d : Device} (number : Nat) (hd : m.device? id = some d)
    (hState : d.state = .disconnected) (hNone : m.requestOn? id = none) (spec : RequestSpec)
    (hCheck : d.check spec.connection = .ok ()) :
    (m.launch number d spec).2 = .ok number ∧
      (∃ r, (m.launch number d spec).1.requestOn? id = some r ∧ r.id = number ∧ r.path = spec.path ∧
        r.connection = spec.connection ∧ r.userRequested = spec.userRequested) ∧
      ∃ e, (m.launch number d spec).1.device? id = some e ∧
        (e.state = .config ∨ e.state = .activated) := by
  obtain ⟨hFrame, hSame, -⟩ := frame_readied d spec.userRequested
  let s := m.starting number d spec
  let u := s.2.activate m.now s.1.connection
  have hId : s.2.id = id := hFrame.id.trans (device?_eq_some hd).2
  obtain ⟨hAccepted, hRests⟩ := Device.activate_of_check (d := s.2) (c := s.1.connection) m.now
    (hSame.trans hState) ((hFrame.check _).trans hCheck)
  rw [launch_of_accepted hAccepted]
  refine ⟨rfl, ?_, u.device, ?_, ?_⟩
  · have hLast : ({ m with requests := m.requests ++ [s.1] } : Manager).requestOn? id = some s.1 := by
      unfold requestOn? at hNone ⊢
      rw [List.find?_append, hNone, Option.none_or]
      exact List.find?_cons_of_pos (p := fun r : Request => r.device == id) (beq_iff_eq.mpr hId)
    -- to hear of events changes nothing but the queue of a request
    let hear : Request → Request := fun r =>
      if Listener.request r.id ∈ s.2.listeners then { r with queue := r.queue ++ u.events } else r
    have hKept : ∀ r, (hear r).id = r.id ∧ (hear r).device = r.device ∧ (hear r).path = r.path ∧
        (hear r).connection = r.connection ∧ (hear r).userRequested = r.userRequested := by
      intro r
      dsimp only [hear]
      split <;> exact ⟨rfl, rfl, rfl, rfl, rfl⟩
    have hHeard := requestOn?_map { m with requests := m.requests ++ [s.1] } hear
      (fun r => (hKept r).2.1) id
    rw [hLast] at hHeard
    obtain ⟨hNumber, -, hPath, hConnection, hAutomatic⟩ := hKept s.1
    exact ⟨_, hHeard, hNumber, hPath, hConnection, hAutomatic⟩
  · have hThere := device?_setDevice_of (e := u.device) hd
      ((Device.activate_endures s.2 m.now s.1.connection).id.trans hId) id
    rw [if_pos rfl] at hThere
    exact hThere
  · rw [show u.device.state = s.2.hardware.destination from hRests]
    cases s.2.hardware with
    | bluetooth radio => exact Or.inl rfl
    | hidraw node | serial line => exact Or.inr rfl

/-- An offer is taken up on a device that is free, if nothing follows from the events that wait. -/
theorem Calm.takesUp (h : m.Calm) (hNone : m.requestOn? id = none) (hd : m.device? id = some d)
    (hAllowed : d.autoconnectAllowed = true) (hOffered : m.Offered d o) :
    ∃ r, m.TakesUp (m.activate id o.scope o.path none false).1 id o r := by
  obtain ⟨hManaged, -, hState, -⟩ := (Device.autoconnectAllowed_iff d).mp hAllowed
  have hOk : checkActivation d o.connection = .ok () := by
    unfold checkActivation
    simp [hManaged, hState, hOffered.fits]
  have hHere := h.device?_cleared hNone hd hState id
  rw [if_pos rfl] at hHere
  have hFreed : (m.cleared id).requestOn? id = none := by
    have hRetains := (retains_freed (H := nothing) m id).1
    have hSame : m.teardownOn id .userRequested = m := by
      unfold Manager.teardownOn
      rw [hNone]
    rw [hSame] at hRetains
    exact hRetains.requestOn?_none hNone
  obtain ⟨hNumber, ⟨r, hRequest, hId, hPath, hConnection, hAutomatic⟩, hDevice⟩ := launch_takesUp
    (m := { m.cleared id with pending := (m.cleared id).pending.filter fun p => p != id })
    (m.teardownOn id .userRequested).nextRequest hHere hState hFreed
    { connection := o.connection, path := o.path, specific := none, userRequested := false
      assumed := false, timeout := (m.cleared id).activationTimeout, nowait := false } hOffered.fits
  rw [← activate_eq hOffered.held hd hOk hHere none false] at hNumber hRequest hDevice
  exact ⟨r, Prod.ext rfl (hNumber.trans (congrArg Except.ok hId.symm)), hRequest, hPath, hConnection,
    hAutomatic, hDevice⟩

-- ---------------------------------------------------------------------------
-- The moments of looking
-- ---------------------------------------------------------------------------

/-- Sees to a device on which an automatic activation was due, and notes the moment of looking: the
manager then, and the device. -/
def lookNoting (s : Manager × List (Manager × Nat)) (id : Nat) : Manager × List (Manager × Nat) :=
  let m := s.1.modifyDevice id fun d => { d with activationScheduled := false }
  (m.autoActivate id, s.2 ++ [(m, id)])

/-- The rounds of settling, with the moments of looking. -/
def settleNoting : Nat → Manager × List (Manager × Nat) → Manager × List (Manager × Nat)
  | 0, s => s
  | n + 1, s =>
    let m := s.1.pump
    if m.pending.isEmpty then (m, s.2)
    else settleNoting n (m.pending.foldl lookNoting ({ m with pending := [] }, s.2))

theorem foldl_lookNoting_fst (ids : List Nat) (s : Manager × List (Manager × Nat)) :
    (ids.foldl lookNoting s).1 = ids.foldl startPending s.1 := by
  induction ids generalizing s with
  | nil => rfl
  | cons id ids ih => rw [List.foldl_cons, List.foldl_cons, ih]; rfl

/-- To note the moments does not change them. -/
theorem settleNoting_fst (n : Nat) (s : Manager × List (Manager × Nat)) :
    (settleNoting n s).1 = settleRounds n s.1 := by
  induction n generalizing s with
  | zero => rfl
  | succ n ih =>
    unfold settleNoting settleRounds
    dsimp only
    split
    · rfl
    · rw [ih, foldl_lookNoting_fst]

/-- The moments at which a manager looks for an automatic activation while it settles. -/
def looks (m : Manager) : List (Manager × Nat) := (settleNoting m.roundBound (m, [])).2

theorem Calm.autoActivate (h : m.Calm) (id : Nat) : (m.autoActivate id).Calm := by
  rw [← autoStart_fst]
  rcases h.autoStart id with hNot | ⟨-, hCalm, -⟩
  · rw [hNot]
    exact h
  · exact hCalm

/-- A manager is calm, and so it was at all moments that were noted. -/
def AllCalm (s : Manager × List (Manager × Nat)) : Prop := s.1.Calm ∧ ∀ l ∈ s.2, l.1.Calm

theorem AllCalm.lookNoting {s : Manager × List (Manager × Nat)} (h : AllCalm s) (id : Nat) :
    AllCalm (lookNoting s id) := by
  have hCalm : (s.1.modifyDevice id fun d => { d with activationScheduled := false }).Calm :=
    h.1.rests (rests_modifyDevice _ _ _)
  refine ⟨hCalm.autoActivate id, fun l hl => ?_⟩
  rcases List.mem_append.mp hl with hl | hl
  · exact h.2 l hl
  · rw [List.mem_singleton.mp hl]
    exact hCalm

theorem calm_settleNoting (n : Nat) {s : Manager × List (Manager × Nat)} (h : ∀ l ∈ s.2, l.1.Calm) :
    ∀ l ∈ (settleNoting n s).2, l.1.Calm := by
  induction n generalizing s with
  | zero => exact h
  | succ n ih =>
    unfold settleNoting
    dsimp only
    split
    · exact h
    · have hTaken : AllCalm ({ s.1.pump with pending := [] }, s.2) := ⟨s.1.calm_taken, h⟩
      exact ih (foldl_rest (P := fun _ s => AllCalm s) (fun id _ _ h => h.lookNoting id)
        s.1.pump.pending _ hTaken).2

/-- Nothing follows from the events that wait whenever a manager looks, whatever it is like. -/
theorem calm_of_mem_looks (hLook : (m', id) ∈ m.looks) : m'.Calm :=
  calm_settleNoting m.roundBound (s := (m, [])) (fun _ hl => absurd hl List.not_mem_nil) _ hLook

-- ---------------------------------------------------------------------------
-- Automatic activations
-- ---------------------------------------------------------------------------

/-- An automatic activation of a device that is free takes up what was chosen, and does nothing if there is
no choice. -/
theorem autoActivate_eq (hAwake : m.isAsleep = false) (hNone : m.requestOn? id = none)
    (hd : m.device? id = some d) (hAllowed : d.autoconnectAllowed = true) :
    m.autoActivate id = match m.autoChoice? d with
      | none => m
      | some (scope, path) => (m.activate id scope path none false).1 := by
  unfold Manager.autoActivate
  rw [hAwake, hNone, hd]
  dsimp only
  rw [hAllowed]
  rfl

/-- Take any moment at which a manager looks for an automatic activation while it settles, whatever the
manager is like, and a device that is free for one. What is started there is the best offer. It is started
if there is any offer, and otherwise nothing happens. The choice is the same wherever and in whatever order
the same offers came to be. -/
theorem looks_best (m : Manager) (hLook : (m', id) ∈ m.looks) (hd : m'.device? id = some d)
    (hAwake : m'.isAsleep = false) (hNone : m'.requestOn? id = none)
    (hAllowed : d.autoconnectAllowed = true) :
    (∀ r, (m'.autoActivate id).requestOn? id = some r →
      ∃ o, m'.Best d o ∧ m'.TakesUp (m'.autoActivate id) id o r) ∧
    ((m'.autoActivate id).requestOn? id = none ↔ ¬ ∃ o, m'.Offered d o) ∧
    ((¬ ∃ o, m'.Offered d o) → m'.autoActivate id = m') ∧
    ∀ (n : Manager) (e : Device), (∀ o, n.Offered e o ↔ m'.Offered d o) →
      n.autoChoice? e = m'.autoChoice? d := by
  have hCalm := calm_of_mem_looks hLook
  have hEq := autoActivate_eq hAwake hNone hd hAllowed
  cases hChoice : m'.autoChoice? d with
  | none =>
    rw [hChoice] at hEq
    have hNoOffer : ¬ ∃ o, m'.Offered d o :=
      fun hOffer => not_offers_of_autoChoice? hChoice ((offers_iff_offered m' d).mpr hOffer)
    refine ⟨fun r hr => ?_, ?_, fun _ => hEq, fun n e h => hChoice ▸ autoChoice?_congr h⟩
    · rw [hEq, hNone] at hr
      cases hr
    · rw [hEq]
      exact ⟨fun _ => hNoOffer, fun _ => hNone⟩
  | some choice =>
    obtain ⟨scope, path⟩ := choice
    obtain ⟨c, hBest⟩ := autoChoice?_best hChoice
    obtain ⟨r, hTakesUp⟩ := hCalm.takesUp hNone hd hAllowed hBest.1
    rw [hChoice] at hEq
    rw [show (m'.activate id scope path none false).1 = m'.autoActivate id from hEq.symm] at hTakesUp
    refine ⟨fun r' hr' => ?_, ?_, fun hNot => absurd ⟨_, hBest.1⟩ hNot,
      fun n e h => hChoice ▸ autoChoice?_congr h⟩
    · rw [hTakesUp.request] at hr'
      cases hr'
      exact ⟨_, hBest, hTakesUp⟩
    · rw [hTakesUp.request]
      exact ⟨nofun, fun hNot => absurd ⟨_, hBest.1⟩ hNot⟩

namespace DialUp

/-- A connection of a user and two of the system come for a scanner whose firmware is missing. -/
def contested : List Operation :=
  [.addDevice scanner_isNew, .setFirmwareMissing "bt0" true, .setServiceRunning .user true,
   .setServiceRunning .system true, .connectionAdded .user "/a" eager,
   .connectionAdded .system "/c" eager, .connectionAdded .system "/b" eager]

/-- The manager after that, when the firmware has come and the manager is about to settle. -/
def courted : Manager :=
  ((start store [] none 0).run contested).updateDevice 0 fun d => d.setFirmwareMissing false

/-- The first moment at which it looks for an automatic activation. -/
def look : Manager × Nat := courted.looks.head?.getD (courted, 0)

def looked : Device := (look.1.device? look.2).getD scanner

end DialUp

/-- When the firmware comes, the system comes before the user, and among connections that were never used
the path decides. -/
theorem best_courted :
    (start DialUp.store [] none 0).run (DialUp.contested ++ [.setFirmwareMissing "bt0" false]) =
      DialUp.courted.settle ∧
    (DialUp.look.1, DialUp.look.2) ∈ DialUp.courted.looks ∧
    DialUp.look.1.device? DialUp.look.2 = some DialUp.looked ∧
    DialUp.look.1.isAsleep = false ∧ DialUp.look.1.requestOn? DialUp.look.2 = none ∧
    DialUp.looked.autoconnectAllowed = true ∧
    ((DialUp.look.1.autoActivate DialUp.look.2).requestOn? DialUp.look.2).map Request.path = some "/b" ∧
    (∀ r, (DialUp.look.1.autoActivate DialUp.look.2).requestOn? DialUp.look.2 = some r →
      ∃ o, DialUp.look.1.Best DialUp.looked o ∧
        DialUp.look.1.TakesUp (DialUp.look.1.autoActivate DialUp.look.2) DialUp.look.2 o r) ∧
    ((DialUp.look.1.autoActivate DialUp.look.2).requestOn? DialUp.look.2 = none ↔
      ¬ ∃ o, DialUp.look.1.Offered DialUp.looked o) :=
  have hSettles : (start DialUp.store [] none 0).run
      (DialUp.contested ++ [.setFirmwareMissing "bt0" false]) = DialUp.courted.settle := by decide +kernel
  have hLook : (DialUp.look.1, DialUp.look.2) ∈ DialUp.courted.looks := by decide +kernel
  have hd : DialUp.look.1.device? DialUp.look.2 = some DialUp.looked := by decide +kernel
  have hAwake : DialUp.look.1.isAsleep = false := by decide +kernel
  have hNone : DialUp.look.1.requestOn? DialUp.look.2 = none := by decide +kernel
  have hAllowed : DialUp.looked.autoconnectAllowed = true := by decide +kernel
  have hBest := looks_best DialUp.courted hLook hd hAwake hNone hAllowed
  ⟨hSettles, hLook, hd, hAwake, hNone, hAllowed, by decide +kernel, hBest.1, hBest.2.1⟩

end Manager

end ScannerHub
