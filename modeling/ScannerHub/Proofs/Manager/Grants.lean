import ScannerHub.Proofs.Manager.Handling
import ScannerHub.Proofs.Manager.Sleep
import ScannerHub.Proofs.Manager.Stock

/-!
# What operations have leave for

Every operation of a settled manager is a sequence of passages, and most of them do little that is out
of the ordinary. Requests end with events of their devices only in the three operations that drive
activations on. What else ends is named by the operation, and ends with a reason of its own. And
whatever ends was there before: an activation that starts by itself stays until the operation is over.

Here are the operations that drive nothing on. They say what is to be done, and then the manager
settles; so what has to be shown is what each of them does before that.

* `Operation.drives`, `Operation.severs?` — how an operation may end activations;
* `Manager.Grants` — what an operation has leave for;
* `Manager.Expiring`, `Manager.Driving` — what is done in the first parts of an operation that drives
  activations on.

## Results

* `Passages.settle` — the end of an operation;
* `passages_each` — what is done to one site after the other;
* `Settled.passages_activateConnection`, `Settled.passages_setSleeping`, … — the operations.
-/

namespace ScannerHub

/-- The reason with which an operation ends requests, whatever their devices do. -/
def Operation.severs? : Operation → Option StateReason
  | .removeDevice _ | .removeDeviceByInterface _ => some .removed
  | .setServiceRunning _ _ | .connectionUpdated _ _ _ | .connectionRemoved _ _ =>
    some .connectionRemoved
  | .activateConnection _ _ _ _ _ | .deactivateConnection _ _ => some .userRequested
  | .setSleeping _ _ | .setEnabled _ _ => some .sleeping
  | .processTimeouts _ | .shutdown => some .unknown
  | _ => none

/-- Whether an operation drives activations on, or fails them. -/
def Operation.drives : Operation → Bool
  | .linkChanged _ _ | .secretsReply _ _ | .processTimeouts _ => true
  | _ => false

namespace Manager

-- ---------------------------------------------------------------------------
-- What operations have leave for
-- ---------------------------------------------------------------------------

/-- A user starts something on a device. -/
def Starts (m : Manager) (device : Nat) : Operation → Prop
  | .activateConnection uid service path target specific =>
    deviceOfPath? target = some device ∧
      ∃ number, (m.activateConnection uid service path target specific).2 = .ok number
  | _ => False

/-- A connection gets new settings, and they are acceptable. -/
def Pardons (m : Manager) (uuid : String) : Operation → Prop
  | .connectionUpdated scope path settings => ∃ held c, (m.cache scope).get? path = some held ∧
      held.replaceSettings settings = .ok c ∧ c.uuid = uuid
  | _ => False

/-- One of the switches is turned. -/
def Switches (m : Manager) : Operation → Prop
  | .setSleeping uid sleeping => (m.setSleeping uid sleeping).2 = .ok ()
  | .setEnabled uid enabled => (m.setEnabled uid enabled).2 = .ok ()
  | _ => False

/-- The time for a request is up. -/
def Expires (m : Manager) (number : Nat) : Operation → Prop
  | .processTimeouts moment =>
    ∃ r ∈ m.requests, r.id = number ∧ (r.checkTimeout moment).2.2 = true
  | _ => False

/-- What an operation has leave for. -/
def Grants (m : Manager) (operation : Operation) : Feat → Prop
  | .tells | .halts => True
  | .launches number => m.nextRequest ≤ number
  | .starts device => m.Starts device operation
  | .drives | .abandons => operation.drives = true
  | .rouses => m.isAsleep = true ∧ (m.operate operation).isAsleep = false
  | .parts number reason => number < m.nextRequest ∧ operation.severs? = some reason
  | .leaves number => number < m.nextRequest ∧ operation.drives = true
  | .expires number => m.Expires number operation
  | .waits request waiter => operation = .wait request waiter
  | .pardons uuid => m.Pardons uuid operation
  | .forgives => m.Switches operation

/-- What is done to requests whose time is up, before anything else is. -/
def Expiring (m : Manager) (operation : Operation) : Feat → Prop
  | .expires number => m.Expires number operation
  | .parts number reason => m.Expires number operation ∧ reason = .unknown
  | .abandons => operation.drives = true
  | _ => False

/-- What is done as activations are driven on, before others start. -/
def Driving (m : Manager) : Feat → Prop
  | .tells | .drives | .abandons => True
  | .leaves number => number < m.nextRequest
  | _ => False

variable {A : Nat → String → Prop} {K : Feat → Prop} {m m₀ m' m'' : Manager} {id : Nat}
variable {operation : Operation}

theorem Expires.bound {number : Nat} (h : m.Expires number operation) (hFits : m.Fits A) :
    number < m.nextRequest := by
  cases operation with
  | processTimeouts moment =>
    obtain ⟨r, hr, rfl, -⟩ := h
    exact hFits.linked.requestBound r hr
  | _ => exact h.elim

theorem Expiring.grants {feat : Feat} (h : m.Expiring operation feat) (hFits : m.Fits A) :
    m.Grants operation feat := by
  cases feat with
  | expires number => exact h
  | abandons => exact h
  | parts number reason =>
    obtain ⟨hExpires, rfl⟩ := h
    refine ⟨hExpires.bound hFits, ?_⟩
    cases operation with
    | processTimeouts moment => rfl
    | _ => exact hExpires.elim
  | _ => exact h.elim

theorem Driving.grants {feat : Feat} (h : m.Driving feat) (hDrives : operation.drives = true) :
    m.Grants operation feat := by
  cases feat with
  | tells => trivial
  | drives => exact hDrives
  | abandons => exact hDrives
  | leaves number => exact ⟨h, hDrives⟩
  | _ => exact h.elim

theorem Starting.grants {feat : Feat} (h : Feat.Starting m.nextRequest feat) :
    m.Grants operation feat := by
  cases feat with
  | tells => trivial
  | halts => trivial
  | launches number => exact h
  | _ => exact h.elim

-- ---------------------------------------------------------------------------
-- Parts of operations
-- ---------------------------------------------------------------------------

/-- To settle, for an operation that lets activations start. -/
theorem Passages.settle (h : Passages A (m₀.Grants operation) m m')
    (hOld : m₀.nextRequest ≤ m.nextRequest) (hStamped : m.Stamped) (hCoherent : m'.Coherent A)
    (hPermits : m'.Permits (m₀.Grants operation)) :
    Passages A (m₀.Grants operation) m m'.settle := by
  obtain ⟨hPump, hStart⟩ := hCoherent.passages_settle (h.stamped hStamped) hPermits trivial
  refine (h.trans hPump).trans (hStart.mono fun feat hFeat => Starting.grants ?_)
  cases feat with
  | launches number => exact Nat.le_trans hOld (Nat.le_trans h.nextRequest hFeat)
  | _ => exact hFeat

/-- Something is done to one site after the other. -/
theorem passages_each {α : Type} (step : Manager → α → Manager) (key : α → Nat) (xs : List α)
    (hDistinct : (xs.map key).Nodup) (h : m₀.Fits A)
    (hStep : ∀ (m : Manager) (x : α), x ∈ xs → m.Fits A → m.site (key x) = m₀.site (key x) →
      Passages A K m (step m x) ∧ Narrows m (step m x) ∧
        ∀ y, y ≠ key x → (step m x).site y = m.site y) :
    Passages A K m₀ (xs.foldl step m₀) ∧ Narrows m₀ (xs.foldl step m₀) := by
  have hFold : ∀ (rest : List α) (m : Manager), (∀ x ∈ rest, x ∈ xs) → (rest.map key).Nodup →
      (∀ x ∈ rest, m.site (key x) = m₀.site (key x)) → Passages A K m₀ m → Narrows m₀ m →
      Passages A K m₀ (rest.foldl step m) ∧ Narrows m₀ (rest.foldl step m) := by
    intro rest
    induction rest with
    | nil => exact fun m _ _ _ hPassages hNarrows => ⟨hPassages, hNarrows⟩
    | cons x rest ih =>
      intro m hIn hDistinct hSame hPassages hNarrows
      rw [List.map_cons, List.nodup_cons] at hDistinct
      obtain ⟨hNext, hLess, hAway⟩ := hStep m x (hIn x List.mem_cons_self) (hPassages.fits h)
        (hSame x List.mem_cons_self)
      refine ih (step m x) (fun y hy => hIn y (List.mem_cons_of_mem x hy)) hDistinct.2 (fun y hy => ?_)
        (hPassages.trans hNext) (hNarrows.trans hLess)
      rw [hAway (key y) fun hKey => hDistinct.1 (hKey ▸ List.mem_map_of_mem hy)]
      exact hSame y (List.mem_cons_of_mem x hy)
  exact hFold xs m₀ (fun _ hx => hx) hDistinct (fun _ _ => rfl) .refl (narrows_of_site fun _ => rfl)

/-- The request that a settled manager has on a device has seen all that was told. -/
theorem Settled.looked_on (h : m.Settled A) {r : Request} (hr : m.requestOn? id = some r) :
    r.queue = [] ∧ m.queueOf id = [] :=
  ⟨h.looked r (requestOn?_eq_some hr).1, queueOf_nil h.queue id⟩

theorem Settled.bound_on (h : m.Settled A) {r : Request} (hr : m.requestOn? id = some r) :
    r.id < m.nextRequest :=
  h.linked.requestBound r (requestOn?_eq_some hr).1

theorem teardown_on {r : Request} (hOn : m.requestOn? id = some r) (reason : StateReason) :
    m.teardown r.id reason = m.teardownOn id reason := by
  unfold teardownOn
  rw [hOn]

/-- The request on a device ends, and the device is stopped. -/
theorem Fits.passages_stop (h : m.Fits A) (id : Nat) {reason : StateReason}
    (hPart : ∀ r, m.requestOn? id = some r → K (.parts r.id reason) ∧ r.queue = [] ∧
      m.queueOf id = []) (hHalts : K .halts) {f : Device → Update} (hf : Device.Halts f) :
    Passages A K m ((m.teardownOn id reason).updateDevice id f) ∧
      Narrows m ((m.teardownOn id reason).updateDevice id f) ∧
        ∀ x, x ≠ id → ((m.teardownOn id reason).updateDevice id f).site x = m.site x := by
  have hTeardown := h.turns_teardownOn id reason
  have hParted : Passages A K m (m.teardownOn id reason) :=
    h.passages_part id reason hPart (.inl hHalts)
  have hGone : (m.teardownOn id reason).requestOn? id = none := congrArg Site.request hTeardown.here
  obtain ⟨hHalted, hLess, hAway⟩ := hTeardown.fits.passages_halt (K := K) id hHalts hf
  exact ⟨hParted.trans hHalted, (narrows_teardownOn h id reason).trans (hLess hGone),
    fun x hx => (hAway x hx).trans ((hTeardown.site x).trans (if_neg hx))⟩

theorem Settled.passages_stop (h : m.Settled A) {reason : StateReason}
    (hReason : operation.severs? = some reason) (id : Nat) {f : Device → Update}
    (hf : Device.Halts f) :
    Passages A (m.Grants operation) m ((m.teardownOn id reason).updateDevice id f) ∧
      Narrows m ((m.teardownOn id reason).updateDevice id f) := by
  obtain ⟨hPassages, hNarrows, -⟩ := h.toFits.passages_stop (K := m.Grants operation) id
    (fun r hr => ⟨⟨h.bound_on hr, hReason⟩, h.looked_on hr⟩) trivial hf
  exact ⟨hPassages, hNarrows⟩

-- ---------------------------------------------------------------------------
-- Devices
-- ---------------------------------------------------------------------------

theorem Settled.passages_addDevice (h : m.Settled A) (hStamped : m.Stamped) {d : Device}
    (hNew : d.IsNew) :
    Passages A (m.Grants (.addDevice hNew)) m (m.addDevice d).1 := by
  unfold Manager.addDevice
  by_cases hKnown : (m.devices.any fun x => x.udi == d.udi || x.interface == d.interface) = true
  · rw [if_pos hKnown]
  · rw [if_neg hKnown]
    have hUdi : ∀ x ∈ m.devices, x.udi ≠ d.udi := fun x hx hEq => hKnown
      (List.any_eq_true.mpr ⟨x, hx, by rw [hEq, beq_self_eq_true, Bool.true_or]⟩)
    have hCome : Passage A (m.Grants (.addDevice hNew)) m (m.admitted d) :=
      .come h.queue hNew.unused hUdi
    have hTaken : (m.admitted d).Coherent A :=
      (h.toCoherent.takenIn h.queue hNew.unused hUdi).same (same_publish _ fun _ => rfl)
    have hPermits : (m.admitted d).Permits (m.Grants (.addDevice hNew)) := permits_of_queue h.queue
    have hNone : (m.admitted d).requestOn? m.nextDevice = none :=
      ((h.sites m.nextDevice).absent (h.toFits.takenIn h.queue hNew.unused hUdi).2.1).1
    show Passages A _ m (Manager.settle (if (m.admitted d).isAsleep then m.admitted d
      else (m.admitted d).updateDevice m.nextDevice fun d => d.setManaged true .nowManaged))
    split
    · exact Passages.settle (.single hCome) (Nat.le_refl _) hStamped hTaken hPermits
    · obtain ⟨hManaged, hLess, -⟩ := hTaken.toFits.passages_halt (K := m.Grants (.addDevice hNew))
        m.nextDevice trivial (.manage true .nowManaged)
      exact Passages.settle (.head hCome hManaged) (Nat.le_refl _) hStamped
        (hTaken.updateDevice _ fun e => Device.setManaged_carries true .nowManaged)
        (hPermits.narrows (hLess hNone))

theorem Settled.passages_removeDevice (h : m.Settled A) (hStamped : m.Stamped) (id : Nat)
    (hReason : operation.severs? = some .removed) :
    Passages A (m.Grants operation) m (m.removeDevice id) := by
  obtain ⟨hPumped, -, hQueue, hIdle⟩ := h.toCoherent.released id
  have hNil : (m.released id).pump.queueOf id = [] := queueOf_nil hQueue id
  obtain ⟨hDismissed, hNone, hOrphan⟩ := hPumped.dismissed id hIdle hNil
  obtain ⟨hReleased, hNarrows⟩ := h.passages_stop hReason id (.manage false .removed)
  have hPermits : (m.released id).Permits (m.Grants operation) :=
    (permits_of_queue h.queue).narrows hNarrows
  have hStopped : (m.released id).Coherent A :=
    h.toCoherent.teardownOn_stop id .removed (fun _ => Device.setManaged_carries false .removed)
      fun d hListen hSound => by
        rw [Device.setManaged_false_state .removed hListen hSound]
        rfl
  have hAll := hReleased.trans (hStopped.passages_pump hPermits trivial)
  show Passages A _ m (Manager.settle (if ((m.released id).pump.device? id).isSome then
    ((m.released id).pump.dismissed id).publish (.deviceRemoved id) else (m.released id).pump))
  split
  · exact Passages.settle (hAll.tail (.go hNil hNone hOrphan)) (Nat.le_refl _) hStamped
      (hDismissed.same (same_publish _ fun _ => rfl)) (permits_of_queue hQueue)
  · exact Passages.settle hAll (Nat.le_refl _) hStamped hPumped (permits_of_queue hQueue)

/-- The firmware of an active device decides nothing for now. -/
theorem setFirmwareMissing_silent {d : Device} (hActive : d.state.isActive = true) (missing : Bool) :
    (d.setFirmwareMissing missing).events = [] := by
  unfold Device.setFirmwareMissing
  split
  · rfl
  · dsimp only
    split
    · rw [if_neg fun hState => ?_]
      · rfl
      · rw [hState] at hActive
        cases hActive
    · rw [if_neg fun hState => ?_]
      · rfl
      · rw [hState.1] at hActive
        cases hActive

theorem Settled.passages_setFirmwareMissing (h : m.Settled A) (hStamped : m.Stamped)
    (interface : String) (missing : Bool) :
    Passages A (m.Grants (.setFirmwareMissing interface missing)) m
      (m.setFirmwareMissing interface missing).1 := by
  unfold Manager.setFirmwareMissing
  cases hFound : m.deviceByInterface? interface with
  | none => exact .refl
  | some d =>
    have hMem : d ∈ m.devices := List.mem_of_find?_eq_some hFound
    have hd := h.linked.device?_of_mem hMem
    have hSound := h.toFits.sound hd
    obtain ⟨hTold, hLess, -⟩ := h.toFits.passages_halt (K := m.Grants (.setFirmwareMissing interface missing))
      d.id trivial (.firmware missing)
    refine Passages.settle hTold (Nat.le_refl _) hStamped (h.toCoherent.updateDevice _ fun d hListen hSound =>
      Device.setFirmwareMissing_carries missing hListen hSound) ?_
    cases hActive : d.state.isActive with
    | false => exact (permits_of_queue h.queue).narrows (hLess (h.free hMem hActive).1)
    | true =>
      refine permits_of_queue ?_
      unfold Manager.updateDevice
      rw [hd]
      dsimp only
      rw [setFirmwareMissing_silent hActive, deliver_nil]
      exact h.queue

-- ---------------------------------------------------------------------------
-- Connections
-- ---------------------------------------------------------------------------

/-- Other connections are to be had. -/
theorem Fits.passage_setCache (h : m.Fits A) {scope : Scope} {cache : ConnectionCache}
    (hNamed : m.Stamped → ∀ path c, cache.get? path = some c → c.Named) :
    Passage A K m (m.setCache scope cache) := by
  refine h.quiet (same_setCache m scope cache) [] ?_ (List.forall_mem_nil _) ?_ ?_ fun hStamped => ?_
  · cases scope <;> exact (List.append_nil _).symm
  · cases scope <;> rfl
  · cases scope <;> rfl
  · intro scope' path c hFound
    rw [cache_setCache] at hFound
    split at hFound
    · exact hNamed hStamped path c hFound
    · exact hStamped scope' path c hFound

/-- Whoever uses a connection that goes is stopped. -/
theorem Coherent.passages_dropped (h : m.Coherent A) (hQuiet : m.Quiet) (scope : Scope)
    (path : String)
    (hParts : ∀ r ∈ m.requests, r.connection.scope = scope → K (.parts r.id .connectionRemoved))
    (hHalts : K .halts) :
    Passages A K m (m.dropped scope path) ∧ (m.dropped scope path).Permits K := by
  let cache := m.cache scope
  let m₁ := m.setCache scope { cache with connections := cache.connections.erase path }
  have hSame : Same m m₁ := same_setCache m scope _
  have hFits : m₁.Fits A := h.toFits.same hSame
  have hSet : Passage A K m m₁ := h.toFits.passage_setCache fun hStamped path' c hFound => by
    unfold ConnectionCache.get? at hFound
    rw [Dict.get?_erase] at hFound
    split at hFound
    · cases hFound
    · exact hStamped scope path' c hFound
  let affected := m₁.requests.filter fun r => r.connection.scope = scope ∧ r.path = path
  have hDistinct : (affected.map Request.device).Nodup :=
    hFits.linked.places.sublist (List.filter_sublist.map _)
  obtain ⟨hAll, hNarrows⟩ := passages_each (K := K)
    (fun m r => (m.teardown r.id .connectionRemoved).updateDevice r.device fun d =>
      d.deactivate .connectionRemoved) Request.device affected hDistinct hFits
    fun m' r hr hFits' hSite => by
      obtain ⟨hMem, hFrom⟩ := List.mem_filter.mp hr
      have hOn : m'.requestOn? r.device = some r :=
        (congrArg Site.request hSite).trans (hFits.linked.requestOn?_of_mem hMem)
      have hOld : r ∈ m.requests := hSame.requests ▸ hMem
      have hQueue : m'.queueOf r.device = [] :=
        (congrArg Site.queue hSite).trans (queueOf_nil (hSame.queue.trans hQuiet.queue) r.device)
      rw [teardown_on hOn]
      refine hFits'.passages_stop r.device (fun q hq => ?_) hHalts (.stop .connectionRemoved)
      rw [hOn] at hq
      cases hq
      exact ⟨hParts r hOld (of_decide_eq_true hFrom).1, hQuiet.looked r hOld, hQueue⟩
  exact ⟨.head hSet hAll, (permits_of_queue (hSame.queue.trans hQuiet.queue)).narrows hNarrows⟩

theorem Coherent.passages_connectionRemoved (h : m.Coherent A) (hQuiet : m.Quiet)
    (hStamped : m.Stamped) (hOld : m₀.nextRequest ≤ m.nextRequest)
    (hReason : operation.severs? = some .connectionRemoved) {scope : Scope}
    (hParts : ∀ r ∈ m.requests, r.connection.scope = scope → r.id < m₀.nextRequest) (path : String) :
    Passages A (m₀.Grants operation) m (m.connectionRemoved scope path) := by
  obtain hSame | hEq := m.connectionRemoved_cases scope path
  · rw [hSame]
  · rw [hEq]
    obtain ⟨hDropped, hPermits⟩ := h.passages_dropped (K := m₀.Grants operation) hQuiet scope path
      (fun r hr hScope => ⟨hParts r hr hScope, hReason⟩) trivial
    exact Passages.settle hDropped hOld hStamped (h.dropped scope path) hPermits

/-- A service goes away, and its connections are dropped one after the other. Whatever starts meanwhile
uses none of them. -/
structure Winding (A : Nat → String → Prop) (operation : Operation) (scope : Scope)
    (m₀ m : Manager) : Prop where
  coherent : m.Coherent A
  quiet : m.Quiet
  stamped : m.Stamped
  marked : m.Marked
  stopped : (m.cache scope).running = false
  older : ∀ r ∈ m.requests, r.connection.scope = scope → r.id < m₀.nextRequest
  passages : Passages A (m₀.Grants operation) m₀ m

theorem Winding.step {scope : Scope} (h : Winding A operation scope m₀ m)
    (hReason : operation.severs? = some .connectionRemoved) (path : String) :
    Winding A operation scope m₀ (m.connectionRemoved scope path) := by
  have hRemoved := h.coherent.passages_connectionRemoved h.quiet h.stamped h.passages.nextRequest
    hReason h.older path
  obtain hSame | hEq := m.connectionRemoved_cases scope path
  · rw [hSame]
    exact h
  · have hSettled : (m.connectionRemoved scope path).Settled A := hEq ▸ (h.coherent.dropped scope path).settle
    have hElsewhere : (m.without scope path).Admits fun scope' _ => scope' ≠ scope := by
      intro scope' key c hRunning hThere hScope
      rw [h.marked.without scope path scope' key c hThere] at hScope
      rw [hScope, running_without, h.stopped] at hRunning
      cases hRunning
    have hDropped := retains_dropped (H := fun scope' _ => scope' ≠ scope) m scope path
    have hSettle := (hElsewhere.retains hDropped).settle
    have hCache := (hDropped.trans hSettle).cache
    have hContinues := ((sustains_dropped m scope path).trans hSettle.toSustains).toContinues
    rw [← hEq] at hCache hContinues
    refine ⟨hSettled.toCoherent, hSettled.toQuiet, hRemoved.stamped h.stamped,
      (h.marked.without scope path).same hCache, ?_, fun r hr hScope => ?_, h.passages.trans hRemoved⟩
    · exact (hCache scope).running.trans ((running_without m scope path scope).trans h.stopped)
    · cases hContinues.requests r hr with
      | kept hr₀ hGoes =>
        rw [hGoes.id]
        exact h.older _ hr₀ (hGoes.scope.symm.trans hScope)
      | new _ _ hHeld => exact absurd hScope hHeld

theorem Same.quiet (h : Same m m') (hQuiet : m.Quiet) : m'.Quiet :=
  ⟨h.queue.trans hQuiet.queue, fun r hr => hQuiet.looked r (h.requests ▸ hr)⟩

/-- All devices are looked at, whether something is due there, and the manager settles. -/
theorem Passages.scheduleAll (h : Passages A (m₀.Grants operation) m₀ m) (hStamped : m₀.Stamped)
    (hCoherent : m.Coherent A) (hQueue : m.queue = []) :
    Passages A (m₀.Grants operation) m₀ m.scheduleAll.settle := by
  refine Passages.settle (h.trans hCoherent.toFits.passages_scheduleAll) (Nat.le_refl _) hStamped
    hCoherent.scheduleAll (permits_of_queue ?_)
  exact foldl_rest (P := fun _ m' => Manager.queue m' = [])
    (fun d _ m' hm' => (queue_schedule m' d.id).trans hm') _ _ hQueue

theorem Settled.winding (h : m.Settled A) (hStamped : m.Stamped) (hMarked : m.Marked) (scope : Scope) :
    Winding A (.setServiceRunning scope false) scope m
      (m.setCache scope { m.cache scope with running := false }) := by
  have hSame := same_setCache m scope { m.cache scope with running := false }
  have hSet : Passage A (m.Grants (.setServiceRunning scope false)) m
      (m.setCache scope { m.cache scope with running := false }) :=
    h.toFits.passage_setCache fun hStamped path c hFound => hStamped scope path c hFound
  refine ⟨h.toCoherent.same hSame, hSame.quiet h.toQuiet, hSet.stamped hStamped,
    fun scope' path c hFound => ?_, ?_, fun r hr _ => ?_, .single hSet⟩
  · rw [cache_setCache] at hFound
    split at hFound
    · rename_i hScope
      rw [hScope]
      exact hMarked scope path c hFound
    · exact hMarked scope' path c hFound
  · rw [cache_setCache, if_pos rfl]
  · exact h.linked.requestBound r (hSame.requests ▸ hr)

theorem Settled.passages_setServiceRunning (h : m.Settled A) (hStamped : m.Stamped)
    (hMarked : m.Marked) (scope : Scope) (running : Bool) :
    Passages A (m.Grants (.setServiceRunning scope running)) m (m.setServiceRunning scope running) := by
  unfold Manager.setServiceRunning
  split
  · exact .refl
  · cases running with
    | true =>
      have hSame := same_setCache m scope { m.cache scope with running := true }
      have hSet : Passage A (m.Grants (.setServiceRunning scope true)) m
          (m.setCache scope { m.cache scope with running := true }) :=
        h.toFits.passage_setCache fun hStamped path c hFound => hStamped scope path c hFound
      exact Passages.scheduleAll (.single hSet) hStamped (h.toCoherent.same hSame)
        (hSame.queue.trans h.queue)
    | false =>
      have hLast := foldl_rest (P := fun _ m' => Winding A (.setServiceRunning scope false) scope m m')
        (fun path _ m' hm' => hm'.step rfl path)
        ((m.setCache scope { m.cache scope with running := false }).cache scope).connections.keys _
        (h.winding hStamped hMarked scope)
      exact Passages.scheduleAll hLast.passages hStamped hLast.coherent hLast.quiet.queue

theorem Settled.passages_connectionAdded (h : m.Settled A) (hStamped : m.Stamped) (scope : Scope)
    (path : String) (settings : Settings) :
    Passages A (m.Grants operation) m (m.connectionAdded scope path settings).1 := by
  unfold Manager.connectionAdded
  split
  · exact .refl
  · rename_i c hOk
    have hSame := same_setCache m scope
      { m.cache scope with connections := (m.cache scope).connections.insert path c }
    refine Passages.scheduleAll (.single (h.toFits.passage_setCache fun hStamped path' c' hFound => ?_))
      hStamped (h.toCoherent.same hSame) (hSame.queue.trans h.queue)
    unfold ConnectionCache.get? at hFound
    rw [Dict.get?_insert] at hFound
    split at hFound
    · cases hFound
      exact (Connection.ofSettings_eq_ok hOk).2
    · exact hStamped scope path' c' hFound

theorem Settled.passages_connectionUpdated (h : m.Settled A) (hStamped : m.Stamped) (scope : Scope)
    (path : String) (settings : Settings) :
    Passages A (m.Grants (.connectionUpdated scope path settings)) m
      (m.connectionUpdated scope path settings) := by
  unfold Manager.connectionUpdated
  dsimp only
  split
  · exact h.passages_connectionAdded hStamped scope path settings
  · rename_i held hHeld
    split
    · exact h.toCoherent.passages_connectionRemoved h.toQuiet hStamped (Nat.le_refl _) rfl
        (fun r hr _ => h.linked.requestBound r hr) path
    · rename_i c hOk
      have hSame := same_setCache m scope
        { m.cache scope with connections := (m.cache scope).connections.insert path c }
      have hSet : Passage A (m.Grants (.connectionUpdated scope path settings)) m
          (m.setCache scope
            { m.cache scope with connections := (m.cache scope).connections.insert path c }) := by
        refine h.toFits.passage_setCache fun hStamped path' c' hFound => ?_
        unfold ConnectionCache.get? at hFound
        rw [Dict.get?_insert] at hFound
        split at hFound
        · cases hFound
          exact (Connection.ofSettings_eq_ok hOk).2
        · exact hStamped scope path' c' hFound
      refine Passages.scheduleAll ((Relation.ReflTransGen.single hSet).tail
        (.pardon ⟨held, c, hHeld, hOk, rfl⟩)) hStamped ?_ (hSame.queue.trans h.queue)
      exact (h.toCoherent.same hSame).same ⟨rfl, rfl, rfl, rfl, rfl, rfl, rfl, fun _ => rfl⟩

-- ---------------------------------------------------------------------------
-- Users
-- ---------------------------------------------------------------------------

theorem Settled.passages_activateConnection (h : m.Settled A) (hStamped : m.Stamped) (uid : Nat)
    (service path device : String) (specific : Option String) :
    Passages A (m.Grants (.activateConnection uid service path device specific)) m
      (m.activateConnection uid service path device specific).1 := by
  have hStarts : ∀ id, deviceOfPath? device = some id →
      (∃ number, (m.activateConnection uid service path device specific).2 = .ok number) →
      m.Grants (.activateConnection uid service path device specific) (.starts id) :=
    fun id hDevice hOk => ⟨hDevice, hOk⟩
  unfold Manager.activateConnection at hStarts ⊢
  split
  · exact .refl
  · rename_i hAuthorized
    rw [hAuthorized] at hStarts
    dsimp only at hStarts
    split
    · exact .refl
    · rename_i scope hScope
      rw [hScope] at hStarts
      dsimp only at hStarts ⊢
      split
      · exact .refl
      · rename_i id hFiltered
        rw [hFiltered] at hStarts
        have hDevice : deviceOfPath? device = some id := (Option.filter_eq_some_iff.mp hFiltered).1
        have hGrants := hStarts id hDevice
        dsimp only at hGrants ⊢
        rcases h.toCoherent.activate_spec id scope path (specific.filter fun p => !p.isEmpty && p != "/")
          true with ⟨e, hEq⟩ | ⟨⟨number, hOk⟩, hCoherent, hCalm, -⟩
        · rw [hEq]
        · generalize hActivated : m.activate id scope path
            (specific.filter fun p => !p.isEmpty && p != "/") true = activated at *
          obtain ⟨m₁, result⟩ := activated
          dsimp only at hOk hCoherent hCalm
          subst hOk
          have hFrees : Frees (m.Grants (.activateConnection uid service path device specific)) m id :=
            ⟨permits_of_queue h.queue, trivial, trivial, fun r hr =>
              ⟨⟨h.bound_on hr, rfl⟩, h.looked_on hr⟩⟩
          have hActivates : Passages A _ m (m.activate id scope path
              (specific.filter fun p => !p.isEmpty && p != "/") true).1 :=
            h.toCoherent.passages_activate hStamped hFrees _ (Nat.le_refl _)
              (fun _ => hGrants ⟨number, rfl⟩) nofun
          rw [hActivated] at hActivates
          exact Passages.settle hActivates (Nat.le_refl _) hStamped hCoherent (permits_of_calm hCalm)

/-- The manager once it has ended a request and stopped its device for a user. -/
def deactivated (m : Manager) (r : Request) : Manager :=
  (m.teardown r.id .userRequested).updateDevice r.device fun d =>
    { d with autoconnectInhibited := true }.deactivate .userRequested

theorem Settled.passages_deactivated (h : m.Settled A) {r : Request} (hr : r ∈ m.requests) (uid : Nat)
    (active : String) :
    Passages A (m.Grants (.deactivateConnection uid active)) m (m.deactivated r) ∧
      (m.deactivated r).Coherent A ∧
        (m.deactivated r).Permits (m.Grants (.deactivateConnection uid active)) := by
  have hOn := h.linked.requestOn?_of_mem hr
  obtain ⟨hStopped, hNarrows⟩ := h.passages_stop
    (show Operation.severs? (.deactivateConnection uid active) = some .userRequested from rfl)
    r.device .stopForUser
  have hCoherent := h.toCoherent.teardown_stop (h.linked.request?_of_mem hr) .userRequested
    (fun _ hListen hSound => Device.Order.stopForUser.carries hListen hSound)
    fun d hListen hSound => Device.deactivate_idle (d := { d with autoconnectInhibited := true })
      .userRequested hListen
  unfold Manager.deactivated
  rw [teardown_on hOn] at hCoherent ⊢
  exact ⟨hStopped, hCoherent, (permits_of_queue h.queue).narrows hNarrows⟩

theorem Settled.passages_deactivateConnection (h : m.Settled A) (hStamped : m.Stamped) (uid : Nat)
    (active : String) :
    Passages A (m.Grants (.deactivateConnection uid active)) m
      (m.deactivateConnection uid active).1 := by
  unfold Manager.deactivateConnection
  split
  · exact .refl
  · split
    · exact .refl
    · rename_i r hFound
      obtain ⟨n, -, hr⟩ := Option.bind_eq_some_iff.mp hFound
      obtain ⟨hStopped, hCoherent, hPermits⟩ :=
        h.passages_deactivated (request?_eq_some hr).1 uid active
      exact Passages.settle hStopped (Nat.le_refl _) hStamped hCoherent hPermits

/-- Nothing changes about a request but what others see of it. -/
theorem Fits.passage_revise (h : m.Fits A) {r r' : Request} (hMem : r ∈ m.requests)
    (hSame : Request.Same r r') (hRevises : r.Revises r') :
    Passage A K m (m.setRequest r') := by
  have hActs := h.setRequest_same hMem hSame (show issued [] = [] from rfl)
  rw [perform_nil] at hActs
  exact (Turns.of_acts hActs (List.append_nil _).symm (List.append_nil _).symm ⟨rfl, rfl, rfl, rfl, rfl⟩
    rfl).silent (.revise (h.linked.requestOn?_of_mem hMem) hRevises rfl)

theorem Settled.passages_setRequestDefault (h : m.Settled A) (request : Nat)
    (default default6 : Bool) : Passages A K m (m.setRequestDefault request default default6) := by
  unfold Manager.setRequestDefault
  split
  · exact .refl
  · rename_i r hr
    obtain ⟨hMem, rfl⟩ := request?_eq_some hr
    have hRevises : r.Revises { r with isDefault := default, isDefault6 := default6 } :=
      ⟨⟨rfl, rfl, rfl, rfl, rfl, rfl,
        fun _ hDown => absurd (show r.state = .unknown from hDown) (h.up hMem), fun h => h⟩,
       rfl, rfl, rfl, rfl, rfl, fun h => ⟨⟨h.connection, h.secrets, h.queue⟩, rfl⟩⟩
    have hRevised : Passage A K m
        (m.setRequest { r with isDefault := default, isDefault6 := default6 }) :=
      h.toFits.passage_revise hMem ⟨rfl, rfl, rfl, rfl, rfl, rfl, rfl⟩ hRevises
    dsimp only
    split
    · refine (Relation.ReflTransGen.single hRevised).tail ((hRevised.fits h.toFits).quiet
        (same_publish _ fun _ => rfl) [.activeConnectionChanged r.id] rfl (fun e he => ?_) rfl
        rfl fun h => h)
      rw [List.mem_singleton.mp he]
      rfl
    · exact .single hRevised

theorem Fits.turns_wait (h : m.Fits A) {r : Request} (hr : r ∈ m.requests) (waiter : Nat) :
    Turns A m (m.wait r.id waiter).1 r.device ((m.site r.device).withRequest (r.wait waiter).1) []
      (r.wait waiter).2 := by
  have hActs := h.setRequest_same hr (r.wait_same waiter)
    (Request.issued_of_ofEffects (r.wait_effects waiter))
  unfold Manager.wait
  rw [h.linked.request?_of_mem hr]
  exact .of_acts hActs (List.append_nil _).symm rfl ⟨rfl, rfl, rfl, rfl, rfl⟩ rfl

theorem Settled.passages_wait (h : m.Settled A) (request waiter : Nat) :
    Passages A (m.Grants (.wait request waiter)) m (m.wait request waiter).1 := by
  cases hr : m.request? request with
  | none =>
    have hSame : (m.wait request waiter).1 = m := by
      unfold Manager.wait
      rw [hr]
    rw [hSame]
  | some r =>
    obtain ⟨hMem, rfl⟩ := request?_eq_some hr
    exact .single ((h.toFits.turns_wait hMem waiter).silent (.wait (h.linked.requestOn?_of_mem hMem) rfl))

-- ---------------------------------------------------------------------------
-- Switches
-- ---------------------------------------------------------------------------

/-- All requests end. -/
theorem Fits.passages_teardownAll (h : m.Fits A) (hQuiet : m.Quiet) {reason : StateReason}
    (hParts : ∀ r ∈ m.requests, K (.parts r.id reason)) (hHalts : K .halts) :
    Passages A K m (m.requests.foldl (fun m r => m.teardown r.id reason) m) ∧
      Narrows m (m.requests.foldl (fun m r => m.teardown r.id reason) m) := by
  refine passages_each _ Request.device m.requests h.linked.places h fun m' r hr hFits hSite => ?_
  have hOn : m'.requestOn? r.device = some r :=
    (congrArg Site.request hSite).trans (h.linked.requestOn?_of_mem hr)
  have hQueue : m'.queueOf r.device = [] :=
    (congrArg Site.queue hSite).trans (queueOf_nil hQuiet.queue r.device)
  rw [teardown_on hOn]
  refine ⟨hFits.passages_part r.device reason (fun q hq => ?_) (.inl hHalts),
    narrows_teardownOn hFits r.device reason,
    fun y hy => ((hFits.turns_teardownOn r.device reason).site y).trans (if_neg hy)⟩
  rw [hOn] at hq
  cases hq
  exact ⟨hParts r hr, hQuiet.looked r hr, hQueue⟩

/-- A device that is managed hears nothing new, and one that is not has no request. -/
theorem Fits.passages_rouse (h : m.Fits A) (id : Nat) (hK : K .rouses)
    (hFree : ∀ d, m.device? id = some d → d.state.isActive = false → m.requestOn? id = none) :
    let f : Device → Update := fun d =>
      { d with autoconnectInhibited := false }.setManaged true .nowManaged
    Passages A K m (m.updateDevice id f) ∧ Narrows m (m.updateDevice id f) ∧
      ∀ x, x ≠ id → (m.updateDevice id f).site x = m.site x := by
  intro f
  cases hd : m.device? id with
  | none =>
    rw [updateDevice_absent hd]
    exact ⟨.refl, narrows_of_site fun _ => rfl, fun _ _ => rfl⟩
  | some d =>
    have hSound := h.sound hd
    have hTurns := Turns.of_update
      (h.carries hd (f := f) (Device.Wakes.rouse.carries hSound.allListen hSound.device))
    refine ⟨.single (hTurns.silent (.hears hd (.rouses hK))), hTurns.narrows ?_,
      fun x hx => (hTurns.site x).trans (if_neg hx)⟩
    cases hManaged : d.managed with
    | true =>
      have hSilent : (f d).events = [] := by
        show (Device.setManaged { d with autoconnectInhibited := false } true .nowManaged).events = []
        unfold Device.setManaged
        rw [if_pos (show true = d.managed from hManaged.symm)]
        rfl
      have hQueue : ((m.site id).hears (f d)).queue = (m.site id).queue := by
        show _ ++ _ = _
        rw [hSilent, List.append_nil]
      refine ⟨fun r hr => ?_, fun hAsks => hQueue ▸ hAsks⟩
      obtain ⟨r₀, hr₀, rfl⟩ := Option.map_eq_some_iff.mp hr
      refine ⟨fun e he => hQueue ▸ he, r₀, hr₀, rfl, fun hLooked => ?_⟩
      show r₀.queue ++ (f d).events = []
      rw [hSilent, hLooked]
      rfl
    | false =>
      have hNone := hFree d hd (by rw [h.unmanaged hd hManaged]; rfl)
      refine Site.narrows_free ?_ fun hAsks => ?_
      · show (m.requestOn? id).map _ = none
        rw [hNone]
        rfl
      · change asks ((m.site id).queue ++ (f d).events) = true at hAsks
        have hSilent : asks (f d).events = false :=
          asks_of_halts (Device.setManaged_tells { d with autoconnectInhibited := false } true .nowManaged)
        rw [asks_append, hSilent, Bool.or_false] at hAsks
        exact hAsks

/-- The switches are followed. -/
theorem Coherent.passages_switched (h : m.Coherent A) (hQuiet : m.Quiet)
    (hFree : ∀ d ∈ m.devices, d.state.isActive = false → m.requestOn? d.id = none)
    (hForgives : K .forgives) (hHalts : K .halts) (hRouses : m.isAsleep = false → K .rouses)
    (hParts : ∀ r ∈ m.requests, K (.parts r.id .sleeping)) :
    Passages A K m m.switched ∧ m.switched.Permits K := by
  unfold Manager.switched
  split
  · have hForgiven : Passage A K m { m with invalid := [] } := .forgive hForgives
    have hFits := hForgiven.fits h.toFits
    obtain ⟨hEnded, hLess⟩ := hFits.passages_teardownAll (K := K)
      ⟨hQuiet.queue, hQuiet.looked⟩ hParts hHalts
    obtain ⟨hNone, -⟩ := teardown_each_nil { m with invalid := [] } .sleeping
    dsimp only at hEnded hLess hNone ⊢
    generalize m.requests.foldl (fun m r => m.teardown r.id .sleeping) { m with invalid := [] } = m₁
      at *
    have hFits₁ := hEnded.fits hFits
    obtain ⟨hReleased, hLess'⟩ := passages_each (K := K)
      (fun m d => m.updateDevice d.id fun d => d.setManaged false .sleeping) Device.id m₁.devices
      hFits₁.linked.devices hFits₁ fun m' d _ hFits' hSite => by
        have hGone : m'.requestOn? d.id = none := by
          refine (congrArg Site.request hSite).trans ?_
          show m₁.requests.find? _ = none
          rw [hNone]
          rfl
        obtain ⟨hHalted, hNarrows, hAway⟩ := hFits'.passages_halt (K := K) d.id hHalts
          (.manage false .sleeping)
        exact ⟨hHalted, hNarrows hGone, hAway⟩
    have hPermits : Permits K { m with invalid := [] } := permits_of_queue hQuiet.queue
    exact ⟨.head hForgiven (hEnded.trans hReleased), (hPermits.narrows hLess).narrows hLess'⟩
  · rename_i hAwake
    obtain ⟨hRoused, hLess⟩ := passages_each (K := K)
      (fun m d => m.updateDevice d.id fun d =>
        { d with autoconnectInhibited := false }.setManaged true .nowManaged) Device.id m.devices
      h.linked.devices h.toFits fun m' d hd hFits' hSite => by
        refine hFits'.passages_rouse d.id (hRouses (by simpa using hAwake)) fun e he hIdle => ?_
        have hThere : m.device? d.id = some e := (congrArg Site.device hSite).symm.trans he
        rw [h.linked.device?_of_mem hd] at hThere
        cases hThere
        exact (congrArg Site.request hSite).trans (hFree d hd hIdle)
    exact ⟨hRoused, (permits_of_queue hQuiet.queue).narrows hLess⟩

theorem Coherent.isAsleep_applySwitches (h : m.Coherent A) :
    m.applySwitches.isAsleep = m.isAsleep := by
  have hSettled : m.switched.settle.isAsleep = m.switched.isAsleep :=
    Changes.isAsleep (h.switched.settle_does .empty)
  exact hSettled.trans m.isAsleep_switched

/-- A switch is turned, and followed. -/
theorem Settled.passages_applySwitches (h : m.Settled A) (hStamped : m.Stamped) {m₁ : Manager}
    (hSame : Same m m₁) (hTurned : Passage A (m.Grants operation) m m₁)
    (hSwitches : m.Switches operation) (hReason : operation.severs? = some .sleeping)
    (hRouses : m₁.isAsleep = false → m.Grants operation .rouses) :
    Passages A (m.Grants operation) m m₁.applySwitches := by
  have hCoherent := h.toCoherent.same hSame
  have hFree : ∀ d ∈ m₁.devices, d.state.isActive = false → m₁.requestOn? d.id = none :=
    fun d hd hIdle => (congrArg Site.request (hSame.site d.id)).trans
      (h.free (hSame.devices ▸ hd) hIdle).1
  obtain ⟨hSwitched, hPermits⟩ := hCoherent.passages_switched (K := m.Grants operation)
    (hSame.quiet h.toQuiet) hFree hSwitches trivial hRouses fun r hr =>
      ⟨h.linked.requestBound r (hSame.requests ▸ hr), hReason⟩
  exact Passages.settle (.head hTurned hSwitched) (Nat.le_refl _) hStamped hCoherent.switched hPermits

theorem Settled.passages_setSleeping (h : m.Settled A) (hStamped : m.Stamped) (uid : Nat)
    (sleeping : Bool) :
    Passages A (m.Grants (.setSleeping uid sleeping)) m (m.setSleeping uid sleeping).1 := by
  have hSwitches : (m.setSleeping uid sleeping).2 = .ok () → m.Switches (.setSleeping uid sleeping) :=
    fun h => h
  have hRouses : m.isAsleep = true → (m.setSleeping uid sleeping).1.isAsleep = false →
      m.Grants (.setSleeping uid sleeping) .rouses := fun h h' => ⟨h, h'⟩
  unfold Manager.setSleeping at hSwitches hRouses ⊢
  split
  · exact .refl
  · rename_i hNe
    rw [if_neg hNe] at hSwitches hRouses
    split
    · exact .refl
    · rename_i hAuthorized
      rw [hAuthorized] at hSwitches hRouses
      have hFlag : Same m { m with sleeping } := ⟨rfl, rfl, rfl, rfl, rfl, rfl, rfl, fun _ => rfl⟩
      have hSame : Same m ({ m with sleeping }.publish (.sleepingChanged sleeping)) :=
        hFlag.trans (same_publish _ fun _ => rfl)
      refine h.passages_applySwitches hStamped hSame (h.toFits.quiet hSame [_] rfl (fun e he => ?_) rfl rfl
        fun h => h) (hSwitches rfl) rfl fun hAwake => hRouses (asleep_of_sleeping hNe hAwake) ?_
      · rw [List.mem_singleton.mp he]
        rfl
      · exact (h.toCoherent.same hSame).isAsleep_applySwitches.trans hAwake

theorem Settled.passages_setEnabled (h : m.Settled A) (hStamped : m.Stamped) (uid : Nat)
    (enabled : Bool) :
    Passages A (m.Grants (.setEnabled uid enabled)) m (m.setEnabled uid enabled).1 := by
  have hSwitches : (m.setEnabled uid enabled).2 = .ok () → m.Switches (.setEnabled uid enabled) :=
    fun h => h
  have hRouses : m.isAsleep = true → (m.setEnabled uid enabled).1.isAsleep = false →
      m.Grants (.setEnabled uid enabled) .rouses := fun h h' => ⟨h, h'⟩
  unfold Manager.setEnabled at hSwitches hRouses ⊢
  split
  · exact .refl
  · rename_i hNe
    rw [if_neg hNe] at hSwitches hRouses
    split
    · exact .refl
    · rename_i hAuthorized
      rw [hAuthorized] at hSwitches hRouses
      have hFlag : Same m { m with store := (m.store.set enabled).1, networkingEnabled := enabled } :=
        ⟨rfl, rfl, rfl, rfl, rfl, rfl, rfl, fun _ => rfl⟩
      have hSame : Same m ({ m with store := (m.store.set enabled).1
                                    networkingEnabled := enabled }.publish
          (.networkingEnabledChanged enabled)) :=
        hFlag.trans (same_publish _ fun _ => rfl)
      refine h.passages_applySwitches hStamped hSame (h.toFits.quiet hSame [_] rfl (fun e he => ?_) rfl rfl
        fun h => h) (hSwitches rfl) rfl fun hAwake => hRouses (asleep_of_enabled hNe hAwake) ?_
      · rw [List.mem_singleton.mp he]
        rfl
      · exact (h.toCoherent.same hSame).isAsleep_applySwitches.trans hAwake

theorem Settled.passages_shutdown (h : m.Settled A) : Passages A (m.Grants .shutdown) m m.shutdown := by
  obtain ⟨hEnded, -⟩ := h.toFits.passages_teardownAll (K := m.Grants .shutdown) h.toQuiet
    (fun r hr => ⟨h.linked.requestBound r hr, show _ = some StateReason.unknown from rfl⟩) trivial
  obtain ⟨hNone, hRests⟩ := teardown_each_nil m .unknown
  rw [shutdown_eq]
  exact hEnded.tail (.close (hRests.queue.trans h.queue) hNone)

end Manager

end ScannerHub
