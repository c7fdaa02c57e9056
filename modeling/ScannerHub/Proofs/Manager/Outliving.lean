import ScannerHub.Proofs.Manager.Elsewhere
import ScannerHub.Proofs.Manager.Stock

/-!
# Activations that outlive their connection

A connection that goes takes along the activations that were started from it: their requests end, and
their devices stop. It finds them by their requests. An activation whose request has timed out has none
any more, only a note of what was started, and the note does not tell from where. So it goes on, and
may still succeed, although its connection is gone.

To say where an activation was started from, a ledger is kept beside the manager. It remembers the
request of each activation until the activation is over, and changes nothing.

* `Ledger` — the manager, and the requests that started what is going on;
* `Operation.Drops` — the operations by which a connection goes;
* `Manager.Adrift` — an activation without a request about which nothing waits.

## Results

* `Adrift.spares_drop` — nothing happens to an activation without a request when a connection goes;
* `Ledger.Sound.run_number` — an activation keeps its number for as long as it goes on;
* `Ledger.run_outlives_iff` — what goes on after a connection is gone;
* `Ledger.not_stopped_expired` — an activation that goes on without its connection.
-/

namespace ScannerHub

/-- The operations by which a connection goes: it is removed, or changed to one that is none, or its
service goes. -/
def Operation.Drops (scope : Scope) (path : String) : Operation → Prop
  | .connectionRemoved scope' path' => scope' = scope ∧ path' = path
  | .connectionUpdated scope' path' settings =>
    scope' = scope ∧ path' = path ∧ ∃ e, Connection.ofSettings scope settings = .error e
  | .setServiceRunning scope' running => scope' = scope ∧ running = false
  | _ => False

namespace Manager

variable {A : Nat → String → Prop} {m m' : Manager} {x : Nat}

-- ---------------------------------------------------------------------------
-- An activation without a request
-- ---------------------------------------------------------------------------

/-- An activation without a request about which nothing waits. -/
structure Adrift (A : Nat → String → Prop) (x : Nat) (m : Manager) : Prop where
  coherent : m.Coherent A
  orphan : (m.orphan? x).isSome = true
  queue : m.queueOf x = []
  notDue : x ∉ m.pending

theorem Adrift.spared (h : m.Adrift A x) (hSpares : Spares x m m') (hCoherent : m'.Coherent A) :
    m'.Adrift A x :=
  ⟨hCoherent, hSpares.orphan ▸ h.orphan, hSpares.queue.trans h.queue,
   fun hDue => h.notDue (hSpares.pending hDue)⟩

/-- Its device is active, and has no request. -/
theorem Adrift.active (h : m.Adrift A x) :
    ∃ d, m.device? x = some d ∧ d.state.isActive = true ∧ m.requestOn? x = none := by
  cases hd : m.device? x with
  | none =>
    have hNone := ((h.coherent.sites x).absent hd).2
    have hSome := h.orphan
    rw [show m.orphan? x = none from hNone] at hSome
    cases hSome
  | some d =>
    have hActive : d.state.isActive = true := by
      rw [← Bool.not_eq_false]
      intro hIdle
      have hSome := h.orphan
      rw [(h.coherent.free hd hIdle h.queue).2] at hSome
      cases hSome
    refine ⟨d, rfl, hActive, Option.not_isSome_iff_eq_none.mp fun hOn => ?_⟩
    have hNone : m.orphan? x = none := ((h.coherent.held hd).owned hActive).mp hOn
    have hSome := h.orphan
    rw [hNone] at hSome
    cases hSome

/-- A connection goes. -/
theorem Adrift.spares_dropped (h : m.Adrift A x) (scope : Scope) (path : String) :
    Spares x m (m.dropped scope path) := by
  obtain ⟨-, -, -, hNone⟩ := h.active
  have hSame := same_setCache m scope { m.cache scope with
    connections := (m.cache scope).connections.erase path }
  have hWithout : (m.without scope path).Coherent A := h.coherent.same hSame
  have hOther : ∀ r ∈ (m.without scope path).requests, x ≠ r.device := by
    rintro r hr rfl
    rw [show (m.without scope path).requests = m.requests from requests_setCache m scope _] at hr
    rw [h.coherent.linked.requestOn?_of_mem hr] at hNone
    cases hNone
  have hTaken : Spares x m (m.without scope path) :=
    hSame.spares fun hDue => (rests_setCache m scope _).pending ▸ hDue
  refine hTaken.trans ?_
  refine (foldl_rest (P := fun rest m' => Coherent A m' ∧ Within (m.without scope path) m' ∧
    Spares x (m.without scope path) m' ∧ ∀ r ∈ rest, r ∈ (m.without scope path).requests) ?_ _ _
    ⟨hWithout, Within.refl _, Spares.refl x _, fun r hr => (List.mem_filter.mp hr).1⟩).2.2.1
  rintro r rest m' ⟨hCoherent, hWithin, hSpares, hRest⟩
  have hr := hRest r List.mem_cons_self
  obtain ⟨hNext, hStill⟩ := hWithout.teardown_next hCoherent hWithin hr .connectionRemoved
    (f := fun d => d.deactivate .connectionRemoved)
    (fun _ => Device.deactivate_carries .connectionRemoved)
    (fun _ hListen _ => Device.deactivate_idle .connectionRemoved hListen)
  have hEnded : Spares x m' (m'.teardown r.id .connectionRemoved) := by
    refine hCoherent.toFits.spares_teardown r.id (fun q hq hId => ?_) _
    obtain ⟨r₀, hr₀, hId₀, hDevice⟩ := hWithin.requests q hq
    rw [← hDevice]
    exact hOther r₀ hr₀
  have hStopped := (hCoherent.toFits.teardown_fits r.id .connectionRemoved).1.spares_updateDevice
    (hOther r hr) (f := fun d => d.deactivate .connectionRemoved)
    (fun _ => Device.deactivate_carries .connectionRemoved)
  exact ⟨hNext, hStill, (hSpares.trans hEnded).trans hStopped,
    fun q hq => hRest q (List.mem_cons_of_mem r hq)⟩

theorem Adrift.connectionRemoved (h : m.Adrift A x) (scope : Scope) (path : String) :
    Spares x m (m.connectionRemoved scope path) ∧ (m.connectionRemoved scope path).Adrift A x := by
  obtain hSame | hEq := m.connectionRemoved_cases scope path
  · rw [hSame]
    exact ⟨Spares.refl x m, h⟩
  · have hDropped := h.spares_dropped scope path
    have hCoherent := h.coherent.dropped scope path
    have hAdrift := h.spared hDropped hCoherent
    have hSpares := hDropped.trans (hCoherent.spares_settle hAdrift.queue hAdrift.notDue)
    rw [hEq]
    exact ⟨hSpares, h.spared hSpares hCoherent.settle.toCoherent⟩

/-- A service goes away. -/
theorem Adrift.setServiceRunning (h : m.Adrift A x) (scope : Scope) :
    Spares x m (m.setServiceRunning scope false) := by
  unfold Manager.setServiceRunning
  split
  · exact Spares.refl x m
  · let m₁ := m.setCache scope { m.cache scope with running := false }
    have hSame := same_setCache m scope { m.cache scope with running := false }
    have hSet : Spares x m m₁ :=
      hSame.spares fun hDue => (rests_setCache m scope _).pending ▸ hDue
    obtain ⟨hGone, hAdrift⟩ := foldl_rest (P := fun _ m' => Spares x m m' ∧ m'.Adrift A x)
      (fun path _ m' hm' =>
        have hStep := hm'.2.connectionRemoved scope path
        ⟨hm'.1.trans hStep.1, hStep.2⟩)
      (m₁.cache scope).connections.keys m₁ ⟨hSet, h.spared hSet (h.coherent.same hSame)⟩
    obtain ⟨d, hd, hActive, -⟩ := hAdrift.active
    have hBusy : d.autoconnectAllowed = false := by
      rw [Bool.eq_false_iff, Ne, Device.autoconnectAllowed_iff]
      rintro ⟨-, -, hState, -⟩
      rw [hState] at hActive
      cases hActive
    have hScheduled := spares_scheduleAll _ hd hBusy
    have hLast := hAdrift.spared hScheduled hAdrift.coherent.scheduleAll
    exact (hGone.trans hScheduled).trans (hLast.coherent.spares_settle hLast.queue hLast.notDue)

-- ---------------------------------------------------------------------------
-- The operations by which a connection goes
-- ---------------------------------------------------------------------------

/-- What a settled manager has noted of an activation is all that there is of it. -/
theorem Settled.adrift (h : m.Settled A) (hOrphan : (m.orphan? x).isSome = true) : m.Adrift A x :=
  ⟨h.toCoherent, hOrphan, queueOf_nil h.queue x, by rw [h.pending]; exact List.not_mem_nil⟩

variable {scope : Scope} {path : String}

/-- A connection that goes is removed, or goes with its service. -/
theorem Marked.drops (h : m.Marked) {operation : Operation} (hDrops : operation.Drops scope path) :
    m.operate operation = m.connectionRemoved scope path ∨
      m.operate operation = m.setServiceRunning scope false := by
  cases operation with
  | connectionRemoved scope' path' =>
    obtain ⟨rfl, rfl⟩ := hDrops
    exact Or.inl rfl
  | setServiceRunning scope' running =>
    obtain ⟨rfl, rfl⟩ := hDrops
    exact Or.inr rfl
  | connectionUpdated scope' path' settings =>
    obtain ⟨rfl, rfl, e, hInvalid⟩ := hDrops
    left
    show m.connectionUpdated scope' path' settings = m.connectionRemoved scope' path'
    unfold Manager.connectionUpdated
    dsimp only
    cases hFound : (m.cache scope').get? path' with
    | none =>
      rw [connectionRemoved_absent hFound]
      show (m.connectionAdded scope' path' settings).1 = m
      unfold Manager.connectionAdded
      rw [hInvalid]
    | some held =>
      have hRefused : held.replaceSettings settings = .error e := by
        unfold Connection.replaceSettings
        rw [h scope' path' held hFound, hInvalid]
      dsimp only
      rw [hRefused]
  | _ => exact hDrops.elim

/-- Unless time passes, an activation without a request was without one before. -/
theorem Settled.adrift_before (h : m.Settled A) {operation : Operation}
    (hTime : ∀ moment, operation ≠ .processTimeouts moment)
    (hOrphan : ((m.operate operation).orphan? x).isSome = true) : m.Adrift A x := by
  obtain ⟨o, hNoted⟩ := Option.isSome_iff_exists.mp hOrphan
  have hBefore := (h.operate_sustains hTime).orphans x o hNoted
  exact h.adrift (by rw [hBefore]; rfl)

/-- Nothing happens to an activation without a request when a connection goes. -/
theorem Adrift.spares_drop (h : m.Adrift A x) (hMarked : m.Marked) {operation : Operation}
    (hDrops : operation.Drops scope path) : Spares x m (m.operate operation) := by
  obtain hRemoved | hStopped := hMarked.drops hDrops
  · rw [hRemoved]
    exact (h.connectionRemoved scope path).1
  · rw [hStopped]
    exact h.setServiceRunning scope

theorem cache_connectionRemoved (m : Manager) (scope : Scope) (path : String) (scope' : Scope) :
    ((m.without scope path).cache scope').SameStock ((m.connectionRemoved scope path).cache scope') ∨
      (m.cache scope).get? path = none ∧ m.connectionRemoved scope path = m := by
  cases hFound : (m.cache scope).get? path with
  | none => exact Or.inr ⟨rfl, connectionRemoved_absent hFound⟩
  | some c =>
    left
    have hDropped := retains_dropped (H := fun _ _ => True) m scope path
    rw [connectionRemoved_eq (by rw [hFound]; rfl)]
    exact (hDropped.trans (m.dropped scope path).admits_all.settle).cache scope'

theorem running_connectionRemoved (m : Manager) (scope : Scope) (path : String) (scope' : Scope) :
    ((m.connectionRemoved scope path).cache scope').running = (m.cache scope').running := by
  obtain hSame | ⟨-, hAbsent⟩ := m.cache_connectionRemoved scope path scope'
  · exact hSame.running.trans (running_without m scope path scope')
  · rw [hAbsent]

theorem unheld_connectionRemoved (m : Manager) (scope : Scope) (path : String) :
    ¬ (m.connectionRemoved scope path).Held scope path := by
  rintro ⟨-, hThere⟩
  obtain hSame | ⟨hNone, hAbsent⟩ := m.cache_connectionRemoved scope path scope
  · rw [hSame.isSome, get?_without, if_pos ⟨rfl, rfl⟩] at hThere
    cases hThere
  · rw [hAbsent, hNone] at hThere
    cases hThere

theorem running_setServiceRunning (m : Manager) (scope : Scope) :
    ((m.setServiceRunning scope false).cache scope).running = false := by
  unfold Manager.setServiceRunning
  split
  · assumption
  · let m₁ := m.setCache scope { m.cache scope with running := false }
    have hSet : (m₁.cache scope).running = false := by
      rw [show m₁.cache scope = _ from cache_setCache m scope _ scope, if_pos rfl]
    have hGone := foldl_rest (P := fun _ m' => (m'.cache scope).running = false)
      (fun path _ m' hm' => (running_connectionRemoved m' scope path scope).trans hm')
      (m₁.cache scope).connections.keys m₁ hSet
    exact (((retains_scheduleAll _).trans (admits_all _).settle).cache scope).running.trans hGone

/-- A connection that went is not to be had. -/
theorem Marked.unheld_drop (h : m.Marked) {operation : Operation}
    (hDrops : operation.Drops scope path) : ¬ (m.operate operation).Held scope path := by
  obtain hRemoved | hStopped := h.drops hDrops
  · rw [hRemoved]
    exact unheld_connectionRemoved m scope path
  · rw [hStopped]
    rintro ⟨hRuns, -⟩
    rw [running_setServiceRunning] at hRuns
    cases hRuns

end Manager

namespace Manager.DialUp

/-- The settings of a connection that fits, with a PIN. -/
def unlocked : Settings :=
  Dict.ofList
    [("connection", Dict.ofList
       [("id", .text "dial"), ("uuid", .text "3f2504e0-4f89-11d3-9a0c-0305e82c3301"),
        ("type", .text "bluetooth"), ("autoconnect", .flag false)]),
     ("bluetooth", Dict.ofList
       [("bdaddr", .bytes [0x00, 0x11, 0x22, 0x33, 0x44, 0x55]), ("type", .text "dun"),
        ("pin", .text "0000")])]

/-- The scanner comes in, a user starts the connection, and the time for it runs out. -/
def overdue : List Operation :=
  [.addDevice scanner_isNew, .setServiceRunning .system true,
   .connectionAdded .system "/c" unlocked,
   .activateConnection 0 Scope.system.serviceName "/c" (devicePath 0) none, .processTimeouts 1000]

end Manager.DialUp

-- ---------------------------------------------------------------------------
-- The ledger
-- ---------------------------------------------------------------------------

/-- A manager, and for each device the request that started what is going on there. -/
structure Ledger where
  manager : Manager
  starter : Nat → Option Request

namespace Ledger

open Manager

variable {A : Nat → String → Prop} {l : Ledger}

/-- A manager that has just started. -/
def start (store : StateStore) (allowed : List Nat) (timeout : Option Nat) (epoch : Nat) : Ledger :=
  { manager := .start store allowed timeout epoch, starter := fun _ => none }

/-- A request that has gone is remembered for as long as the activation goes on without it. -/
def operate (l : Ledger) (operation : Operation) : Ledger :=
  let m := l.manager.operate operation
  { manager := m
    starter := fun id =>
      (m.requestOn? id).or (if (m.orphan? id).isSome then l.starter id else none) }

theorem starter_operate (l : Ledger) (operation : Operation) (id : Nat) :
    (l.operate operation).starter id = ((l.operate operation).manager.requestOn? id).or
      (if ((l.operate operation).manager.orphan? id).isSome then l.starter id else none) := rfl

def run (l : Ledger) (operations : List Operation) : Ledger := operations.foldl operate l

/-- The ledger changes nothing. -/
theorem manager_run (l : Ledger) (operations : List Operation) :
    (l.run operations).manager = l.manager.run operations := by
  induction operations generalizing l with
  | nil => rfl
  | cons operation operations ih => exact ih (l.operate operation)

/-- What the ledger remembers is what goes on. -/
structure Sound (A : Nat → String → Prop) (l : Ledger) : Prop where
  settled : l.manager.Settled A
  stocked : l.manager.Stocked
  live : ∀ id r, l.manager.requestOn? id = some r → l.starter id = some r
  known : ∀ id, (l.starter id).isSome =
    ((l.manager.requestOn? id).isSome || (l.manager.orphan? id).isSome)

theorem start_sound (store : StateStore) (allowed : List Nat) (timeout : Option Nat) (epoch : Nat) :
    (start store allowed timeout epoch).Sound A :=
  ⟨start_settled store allowed timeout epoch, start_stocked store allowed timeout epoch,
   fun _ _ hLive => absurd (requestOn?_eq_some hLive).1 List.not_mem_nil, fun _ => rfl⟩

theorem Sound.operate (h : l.Sound A) (operation : Operation) : (l.operate operation).Sound A := by
  refine ⟨operate_settled h.settled operation, h.stocked.operate h.settled operation,
    fun id r hr => ?_, fun id => ?_⟩
  · rw [starter_operate, hr, Option.some_or]
  · rw [starter_operate, Option.isSome_or]
    congr 1
    split
    · rename_i hOrphan
      rw [hOrphan, h.known]
      -- a new note is of an activation that had a request
      rcases (h.settled.operate_proceeds operation).orphans id hOrphan with hOld | hLive
      · rw [hOld, Bool.or_true]
      · rw [hLive, Bool.true_or]
    · rename_i hNone
      exact (Bool.eq_false_iff.mpr hNone).symm

theorem Sound.run (h : l.Sound A) (operations : List Operation) : (l.run operations).Sound A := by
  induction operations generalizing l with
  | nil => exact h
  | cons operation operations ih => exact ih (h.operate operation)

/-- A device is active exactly if the ledger remembers who started it. -/
theorem Sound.active (h : l.Sound A) :
    ∀ d ∈ l.manager.devices, d.state.isActive = (l.starter d.id).isSome := by
  intro d hd
  have hOwns := h.settled.ownsDevices
  have hNever := hOwns.never d hd
  rw [h.known, hOwns.owned d hd]
  cases hLive : (l.manager.requestOn? d.id).isSome <;>
    cases hNoted : (l.manager.orphan? d.id).isSome <;>
      first | rfl | exact absurd ⟨hLive, hNoted⟩ hNever

/-- Who has no request any more has lost it to time. -/
theorem Sound.adrift (h : l.Sound A) {id : Nat} {r : Request} (hStarter : l.starter id = some r)
    (hGone : l.manager.requestOn? id = none) : l.manager.Adrift A id := by
  have hKnown := h.known id
  rw [hStarter, hGone] at hKnown
  exact h.settled.adrift hKnown.symm

-- ---------------------------------------------------------------------------
-- Numbers
-- ---------------------------------------------------------------------------

theorem Sound.operate_number (h : l.Sound A) {operation : Operation} {id : Nat} {r' : Request}
    (hStarter : (l.operate operation).starter id = some r') (hOld : r'.id < l.manager.nextRequest) :
    ∃ r, l.starter id = some r ∧ r.Goes r' := by
  rw [starter_operate] at hStarter
  cases hLive : (l.operate operation).manager.requestOn? id with
  | none =>
    rw [hLive, Option.none_or] at hStarter
    split at hStarter
    · exact ⟨r', hStarter, .refl r'⟩
    · cases hStarter
  | some q =>
    rw [hLive, Option.some_or] at hStarter
    obtain rfl : q = r' := Option.some.inj hStarter
    obtain ⟨hq, hDevice⟩ := requestOn?_eq_some hLive
    cases (h.settled.operate_proceeds operation).requests q hq with
    | new hNumber => exact absurd hOld (Nat.not_lt.mpr hNumber)
    | @kept r hr hGoes =>
      have hOn := h.settled.linked.requestOn?_of_mem hr
      rw [← hGoes.device, hDevice] at hOn
      exact ⟨r, h.live id r hOn, hGoes⟩

/-- An activation keeps its number for as long as it goes on: what has an old number was started long
ago. -/
theorem Sound.run_number (h : l.Sound A) (operations : List Operation) {id : Nat} {r' : Request}
    (hStarter : (l.run operations).starter id = some r') (hOld : r'.id < l.manager.nextRequest) :
    ∃ r, l.starter id = some r ∧ r.Goes r' := by
  induction operations generalizing l with
  | nil => exact ⟨r', hStarter, .refl r'⟩
  | cons operation operations ih =>
    have hNumber := (h.settled.operate_proceeds operation).nextRequest
    obtain ⟨r₁, hStarter₁, hGoes₁⟩ :=
      ih (h.operate operation) hStarter (Nat.lt_of_lt_of_le hOld hNumber)
    obtain ⟨r, hStarter₀, hGoes⟩ := h.operate_number hStarter₁ (hGoes₁.id ▸ hOld)
    exact ⟨r, hStarter₀, hGoes.trans hGoes₁⟩

-- ---------------------------------------------------------------------------
-- What goes on
-- ---------------------------------------------------------------------------

variable {scope : Scope} {path : String}

/-- Of the activations that were started from a connection, those that go on once it has gone are those
that had lost their request before. -/
theorem Sound.drop_iff (h : l.Sound A) {operation : Operation} (hDrops : operation.Drops scope path)
    (id : Nat) {r : Request} (hFrom : r.From scope path) :
    (l.operate operation).starter id = some r ↔
      l.starter id = some r ∧ l.manager.requestOn? id = none := by
  have hUnheld := h.stocked.marked.unheld_drop hDrops
  have hStocked := (h.operate operation).stocked
  constructor
  · intro hStarter
    have hGone : (l.operate operation).manager.requestOn? id ≠ some r := by
      intro hLive
      have hHeld := hStocked.held r (requestOn?_eq_some hLive).1
      rw [hFrom.1, hFrom.2] at hHeld
      exact hUnheld hHeld
    have hNone : (l.operate operation).manager.requestOn? id = none :=
      Option.eq_none_iff_forall_ne_some.mpr fun q hLive => hGone (by
        rw [hLive, ← (h.operate operation).live id q hLive, hStarter])
    have hNoted := ((h.operate operation).adrift hStarter hNone).orphan
    rw [starter_operate, hNone, Option.none_or, if_pos hNoted] at hStarter
    have hTime : ∀ moment, operation ≠ .processTimeouts moment := by
      rintro moment rfl
      exact hDrops
    obtain ⟨-, -, -, hLost⟩ := (h.settled.adrift_before hTime hNoted).active
    exact ⟨hStarter, hLost⟩
  · rintro ⟨hStarter, hLost⟩
    have hAdrift := h.adrift hStarter hLost
    have hSpares := hAdrift.spares_drop h.stocked.marked hDrops
    obtain ⟨-, -, -, hNone⟩ :=
      (hAdrift.spared hSpares (operate_settled h.settled operation).toCoherent).active
    have hNoted : ((l.operate operation).manager.orphan? id).isSome = true :=
      hSpares.orphan.symm ▸ hAdrift.orphan
    rw [starter_operate, show (l.operate operation).manager.requestOn? id = none from hNone,
      Option.none_or, if_pos hNoted]
    exact hStarter

/-- Only the passing of time takes the request from an activation that goes on. -/
theorem Sound.lost (h : l.Sound A) {operation : Operation} {id : Nat}
    (hLive : (l.manager.requestOn? id).isSome = true)
    (hLost : (l.operate operation).manager.requestOn? id = none)
    (hGoesOn : ((l.operate operation).starter id).isSome = true) :
    ∃ moment, operation = .processTimeouts moment := by
  by_contra hNever
  have hTime : ∀ moment, operation ≠ .processTimeouts moment := fun moment hEq => hNever ⟨moment, hEq⟩
  rw [(h.operate operation).known, hLost, Option.isSome_none, Bool.false_or] at hGoesOn
  obtain ⟨-, -, -, hNone⟩ := (h.settled.adrift_before hTime hGoesOn).active
  rw [hNone] at hLive
  cases hLive

/-- **A connection that goes takes along the activations that have a request.** The ledger beside a
manager changes nothing, live requests have their connections, and a device is active exactly if the
ledger remembers a request that it was started with; only time takes the request from an activation
that goes on. When a connection goes, what was started from it and goes on is what had no request any
more; and so it is ever after, but for activations with new numbers. -/
theorem run_outlives_iff (store : StateStore) (allowed : List Nat) (timeout : Option Nat)
    (epoch : Nat) (before : List Operation) (operation : Operation) (after : List Operation)
    (scope : Scope) (path : String) :
    let l := (start store allowed timeout epoch).run before
    let l' := l.operate operation
    l.manager = (Manager.start store allowed timeout epoch).run before ∧
      (∀ r ∈ l.manager.requests, l.manager.Held r.connection.scope r.path) ∧
      (∀ d ∈ l.manager.devices, d.state.isActive = (l.starter d.id).isSome) ∧
      (∀ id r, l.manager.requestOn? id = some r → l.starter id = some r) ∧
      (∀ id, (l.manager.requestOn? id).isSome = true → l'.manager.requestOn? id = none →
        (l'.starter id).isSome = true → ∃ moment, operation = .processTimeouts moment) ∧
      (operation.Drops scope path →
        (∀ id r, r.From scope path →
          (l'.starter id = some r ↔ l.starter id = some r ∧ l.manager.requestOn? id = none)) ∧
        ∀ id r, (l'.run after).starter id = some r → r.From scope path →
          r.id < l'.manager.nextRequest →
          ∃ r₀, l.starter id = some r₀ ∧ l.manager.requestOn? id = none ∧ r₀.id = r.id ∧
            r₀.From scope path) := by
  intro l l'
  have h : l.Sound fun _ _ => True := (start_sound store allowed timeout epoch).run before
  refine ⟨manager_run _ before, h.stocked.held, h.active, h.live, fun id => h.lost, fun hDrops =>
    ⟨fun id r hFrom => h.drop_iff hDrops id hFrom, fun id r hStarter hFrom hOld => ?_⟩⟩
  obtain ⟨r₀, hStarter₀, hGoes⟩ := (h.operate operation).run_number after hStarter hOld
  have hFrom₀ : r₀.From scope path := ⟨hGoes.scope.symm.trans hFrom.1, hGoes.path.symm.trans hFrom.2⟩
  obtain ⟨hBefore, hLost⟩ := (h.drop_iff hDrops id hFrom₀).mp hStarter₀
  exact ⟨r₀, hBefore, hLost, hGoes.id.symm, hFrom₀⟩

/-- The connection goes after the time for its activation has run out. -/
theorem run_outlives_iff_overdue :
    let l := (start DialUp.store [] (some 1000) 0).run DialUp.overdue
    let operation : Operation := .connectionRemoved .system "/c"
    operation.Drops .system "/c" ∧ ∀ id r, r.From .system "/c" →
      ((l.operate operation).starter id = some r ↔
        l.starter id = some r ∧ l.manager.requestOn? id = none) :=
  ⟨⟨rfl, rfl⟩, ((run_outlives_iff DialUp.store [] (some 1000) 0 DialUp.overdue
    (.connectionRemoved .system "/c") [] .system "/c").2.2.2.2.2 ⟨rfl, rfl⟩).1⟩

-- the timeout ends the request only: the connection goes while the scanner still dials, and then
-- the link comes up
/-- A scanner is activated with a connection that was removed before. -/
theorem not_stopped_expired :
    let l := (start DialUp.store [] (some 1000) 0).run DialUp.overdue
    let l₁ := l.operate (.connectionRemoved .system "/c")
    let l₂ := l₁.operate (.linkChanged 0 true)
    ¬ l₁.manager.Held .system "/c" ∧
      l₁.manager.devices.map Device.state = [.config] ∧
      l₂.manager.devices.map Device.state = [.activated] ∧
      (l₂.starter 0).map (fun r => (r.connection.scope, r.path)) = some (.system, "/c") ∧
      l₂.manager.nextRequest = l.manager.nextRequest := by
  decide +kernel

end Ledger

end ScannerHub
