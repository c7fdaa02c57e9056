import ScannerHub.Proofs.Manager.Fares
import ScannerHub.Proofs.Manager.Runs

/-!
# The course of an operation

Every operation begins by noting what it was asked for, and then it is a sequence of changes that
leaves nothing in hand. Only the firmware of a device and the two switches are noted in a way that
no change does; all that follows is.

An automatic activation that was due is seen to for good: either the device is not free, or nothing
fits, or the activation starts, because the checks that it has to pass are those that chose it.

* `Manager.Begins` — how an operation begins;
* `Manager.Dormant` — no device is managed while the manager sleeps.

## Results

* `Coherent.settle_does` — to settle is a sequence of changes;
* `Settled.operate_changes` — so is every operation, after its beginning.
-/

namespace ScannerHub

-- ---------------------------------------------------------------------------
-- What a cache offers
-- ---------------------------------------------------------------------------

namespace ConnectionCache

theorem mem_place (e x : String × Connection) (xs : List (String × Connection)) :
    x ∈ place e xs ↔ x = e ∨ x ∈ xs := by
  induction xs with
  | nil => simp [place]
  | cons y ys ih =>
    unfold place
    split
    · simp
    · simp only [List.mem_cons, ih]
      exact or_left_comm

/-- All connections of a service that runs are considered. -/
theorem mem_candidates (cache : ConnectionCache) (path : String) (c : Connection) :
    (path, c) ∈ cache.candidates ↔ cache.running = true ∧ cache.get? path = some c := by
  have hFold : ∀ entries : List (String × Connection),
      (path, c) ∈ entries.foldr place [] ↔ (path, c) ∈ entries := by
    intro entries
    induction entries with
    | nil => simp
    | cons e es ih => simp only [List.foldr_cons, mem_place, List.mem_cons, ih]
  unfold candidates get?
  rw [Dict.get?_eq_some_iff]
  by_cases hRunning : cache.running = true
  · simp only [hRunning, if_true, hFold, true_and]
  · simp [hRunning]

end ConnectionCache

namespace Manager

variable {A : Nat → String → Prop} {m m' : Manager} {id : Nat}

theorem mem_autoCandidates (m : Manager) (scope : Scope) (path : String) (c : Connection) :
    (path, c) ∈ m.autoCandidates scope ↔ (m.cache scope).running = true ∧
      (m.cache scope).get? path = some c ∧ m.isInvalid c.uuid = false := by
  unfold autoCandidates
  rw [List.mem_filter, ConnectionCache.mem_candidates, Bool.not_eq_true', and_assoc]

theorem fitsAutomatically_iff (d : Device) (c : Connection) :
    d.hardware.fitsAutomatically d.identity c = true ↔ c.autoconnect = true ∧ d.check c = .ok () := by
  unfold Hardware.fitsAutomatically
  rw [Bool.and_eq_true]
  show _ ∧ (d.check c).isOk = true ↔ _
  cases d.check c with
  | error e => simp [Except.isOk, Except.toBool]
  | ok u => simp [Except.isOk, Except.toBool]

/-- The connection that is chosen is one that is offered. -/
theorem autoChoice?_some {d : Device} {scope : Scope} {path : String}
    (h : m.autoChoice? d = some (scope, path)) :
    ∃ c, (m.cache scope).running = true ∧ (m.cache scope).get? path = some c ∧
      c.autoconnect = true ∧ m.isInvalid c.uuid = false ∧ d.check c = .ok () := by
  unfold autoChoice? at h
  obtain ⟨scope', -, hChoice⟩ := List.exists_of_findSome?_eq_some h
  obtain ⟨⟨path', c⟩, hFound, hEq⟩ := Option.map_eq_some_iff.mp hChoice
  cases hEq
  have hMem := List.mem_of_find?_eq_some hFound
  have hChosen : d.hardware.fitsAutomatically d.identity c = true := by
    simpa using List.find?_some hFound
  obtain ⟨hAuto, hCheck⟩ := (fitsAutomatically_iff d c).mp hChosen
  obtain ⟨hRunning, hThere, hValid⟩ := (mem_autoCandidates m scope path' c).mp hMem
  exact ⟨c, hRunning, hThere, hAuto, hValid, hCheck⟩

/-- Nothing is chosen only if nothing is offered. -/
theorem not_offers_of_autoChoice? {d : Device} (h : m.autoChoice? d = none) : ¬ m.Offers d := by
  rintro ⟨scope, path, c, hRunning, hFound, hAuto, hValid, hCheck⟩
  unfold autoChoice? at h
  rw [List.findSome?_eq_none_iff] at h
  have hScope : scope ∈ [Scope.system, Scope.user] := by cases scope <;> decide
  have hNone := h scope hScope
  rw [Option.map_eq_none_iff, List.find?_eq_none] at hNone
  refine hNone (path, c) ((mem_autoCandidates m scope path c).mpr ⟨hRunning, hFound, hValid⟩) ?_
  exact (fitsAutomatically_iff d c).mpr ⟨hAuto, hCheck⟩

theorem offers_iff (m : Manager) (d : Device) : m.Offers d ↔ (m.autoChoice? d).isSome = true := by
  cases hChoice : m.autoChoice? d with
  | none => exact ⟨fun h => absurd h (not_offers_of_autoChoice? hChoice), nofun⟩
  | some choice =>
    obtain ⟨scope, path⟩ := choice
    exact ⟨fun _ => rfl, fun _ => ⟨scope, path, autoChoice?_some hChoice⟩⟩

instance (m : Manager) (d : Device) : Decidable (m.Offers d) := decidable_of_iff _ (offers_iff m d).symm

instance (m : Manager) (d : Device) : Decidable (m.Misses d) :=
  inferInstanceAs (Decidable (_ ∧ _ ∧ _))

-- ---------------------------------------------------------------------------
-- Activations
-- ---------------------------------------------------------------------------

/-- Before an activation starts its device is cleared, and its request gets a number. -/
theorem Fits.cleared_changes (h : m.Fits A) (device : Nat) (a : Agenda) :
    Changes A (m, a) (m.cleared device,
      { a with numbers := (m.teardownOn device .userRequested).nextRequest :: a.numbers }) := by
  have hEnded : Does A m (m.teardownOn device .userRequested) := Does.teardownOn m device _
  have hNumbered := (hEnded.fits h).numbered
  have hStopped := Does.order hNumbered device (.stop .userRequested)
  exact ((hEnded a).tail .number).trans ((hStopped.trans (Does.pump (hStopped.fits hNumbered))) _)

/-- An activation whose checks pass is a sequence of changes. In the end its device is not free. -/
theorem Coherent.activate_starts (h : m.Coherent A) {device : Nat} {scope : Scope} {path : String}
    {connection : Connection} {d : Device} (hFound : (m.cache scope).get? path = some connection)
    (hd : m.device? device = some d) (hOk : checkActivation d connection = .ok ())
    (specific : Option String) (userRequested : Bool) :
    Does A m (m.activate device scope path specific userRequested).1 ∧
      ∀ e, (m.activate device scope path specific userRequested).1.device? device = some e →
        e.activationScheduled = false ∧ e.autoconnectAllowed = false := by
  obtain ⟨hState, hCheck⟩ := checkActivation_ok hOk
  obtain ⟨hCleared, hQuiet, hFresh, d', hd', hState', hCheck'⟩ := h.cleared hd hState
  have hQueue : (m.cleared device).queueOf device = [] := queueOf_nil hQuiet.queue device
  have hIdle : d'.state.isActive = false := by
    rw [hState']
    rfl
  have hNone := (hCleared.free hd' hIdle hQueue).1
  rw [activate_eq hFound hd hOk hd']
  have hFits := (hCheck' connection).trans hCheck
  constructor
  · intro a
    exact (h.toFits.cleared_changes device a).tail
      (.launch (a := { a with numbers := _ :: a.numbers }) rfl hd' hState' hNone hQueue hFits hFresh)
  · intro e he
    let spec : RequestSpec :=
      { connection, path, specific, userRequested, assumed := false
        timeout := (m.cleared device).activationTimeout, nowait := false }
    obtain ⟨hLaunch, -, -, hSite⟩ := hCleared.toFits.launched spec hd' hState' hNone hQueue hFits hFresh
    have hHere := congrArg Site.device ((hSite device).trans (if_pos rfl))
    rw [show Site.device _ = some e from he] at hHere
    cases hHere
    refine ⟨(Device.activate_travels (hLaunch.joins.state.trans hState') _ _).2, ?_⟩
    unfold Device.autoconnectAllowed
    rcases hLaunch.starts.rests with hRests | hRests <;> rw [hRests] <;> simp

/-- An activation is a sequence of changes, or changes nothing. -/
theorem Coherent.activate_does (h : m.Coherent A) (device : Nat) (scope : Scope) (path : String)
    (specific : Option String) (userRequested : Bool) :
    Does A m (m.activate device scope path specific userRequested).1 := by
  obtain ⟨e, hEq⟩ | ⟨connection, d, hFound, hd, hOk⟩ :=
    m.activate_cases device scope path specific userRequested
  · rw [hEq]
    exact Does.refl m
  · exact (h.activate_starts hFound hd hOk specific userRequested).1

-- ---------------------------------------------------------------------------
-- Automatic activations that were due
-- ---------------------------------------------------------------------------

/-- While nothing but activations that go on is told of, a device with a request is active. -/
theorem Coherent.active_of_calm (h : m.Coherent A) (hCalm : m.Calm) {d : Device}
    (hd : m.device? id = some d) (hRequest : (m.requestOn? id).isSome = true) :
    d.state.isActive = true := by
  cases hActive : d.state.isActive with
  | true => rfl
  | false =>
    have hEntered := (h.held hd).left hActive (Or.inl hRequest)
    have ht := List.getLast?_eq_some_getLast hEntered
    generalize (entered (m.site id).queue).getLast hEntered = t at ht
    have hLast := (h.toFits.sound hd).last t ht
    obtain ⟨e, he, hEnters⟩ := List.mem_filterMap.mp (List.mem_of_getLast? ht)
    have hQueued : e.isCalm = true := hCalm.queue e (List.mem_filter.mp he).1
    cases e with
    | stateChanged device new old reason =>
      cases hEnters
      rw [← hLast] at hActive
      rw [show DeviceEvent.isCalm (.stateChanged device t old reason) = t.isActive from rfl,
        hActive] at hQueued
      cases hQueued
    | needSecrets device need => cases hEnters
    | linkRequested device request => cases hEnters

/-- What is due on a device is seen to: nothing is missed there afterwards. -/
theorem Coherent.autoActivate_does (h : m.Coherent A) (hCalm : m.Calm) {id : Nat}
    (hFlag : ∀ d, m.device? id = some d → d.activationScheduled = false) :
    Does A m (m.autoActivate id) ∧ ∀ d, (m.autoActivate id).device? id = some d →
      d.activationScheduled = false ∧ ¬ (m.autoActivate id).Misses d := by
  unfold Manager.autoActivate
  by_cases hSkip : (m.isAsleep || (m.requestOn? id).isSome) = true
  · rw [if_pos hSkip]
    refine ⟨Does.refl m, fun d hd => ⟨hFlag d hd, fun hMisses => ?_⟩⟩
    rw [hMisses.1, Bool.false_or] at hSkip
    have hActive := h.active_of_calm hCalm hd hSkip
    rw [((Device.autoconnectAllowed_iff d).mp hMisses.2.1).2.2.1] at hActive
    cases hActive
  · rw [if_neg hSkip]
    cases hd : m.device? id with
    | none => exact ⟨Does.refl m, fun d hd' => by rw [hd] at hd'; cases hd'⟩
    | some d =>
      dsimp only
      by_cases hFree : d.autoconnectAllowed = true
      · rw [if_neg (by simp [hFree])]
        cases hChoice : m.autoChoice? d with
        | none =>
          refine ⟨Does.refl m, fun e he => ⟨hFlag e he, fun hMisses => ?_⟩⟩
          rw [hd] at he
          cases he
          exact not_offers_of_autoChoice? hChoice hMisses.2.2
        | some choice =>
          obtain ⟨scope, path⟩ := choice
          obtain ⟨c, -, hFound, -, -, hCheck⟩ := autoChoice?_some hChoice
          have hOk : checkActivation d c = .ok () := by
            obtain ⟨hManaged, -, hState, -⟩ := (Device.autoconnectAllowed_iff d).mp hFree
            unfold checkActivation
            simp [hManaged, hState, hCheck]
          obtain ⟨hDoes, hDone⟩ := h.activate_starts hFound hd hOk none false
          refine ⟨hDoes, fun e he => ⟨(hDone e he).1, fun hMisses => ?_⟩⟩
          have hFreeNow := hMisses.2.1
          rw [(hDone e he).2] at hFreeNow
          cases hFreeNow
      · rw [if_pos (by simpa using hFree)]
        refine ⟨Does.refl m, fun e he => ⟨hFlag e he, fun hMisses => ?_⟩⟩
        rw [hd] at he
        cases he
        exact hFree hMisses.2.1

theorem Coherent.startPending_changes (h : m.Coherent A) (hCalm : m.Calm) (id : Nat) (a : Agenda) :
    Changes A (m, { a with taken := id :: a.taken }) (m.startPending id, a) := by
  have hMarked := h.modifyDevice id (f := fun d => { d with activationScheduled := false })
    fun d => ⟨⟨rfl, rfl, rfl, rfl, fun _ => rfl, rfl⟩, rfl, fun h => ⟨h.stop, h.managed, h.hardware⟩⟩
  have hRests := rests_modifyDevice m id fun d => { d with activationScheduled := false }
  have hFlag : ∀ d, (m.modifyDevice id fun d => { d with activationScheduled := false }).device? id =
      some d → d.activationScheduled = false := by
    intro d hd
    cases hOld : m.device? id with
    | none =>
      rw [modifyDevice_absent hOld, hOld] at hd
      cases hd
    | some d₀ =>
      have hHere := congrArg Site.device (h.toFits.marked hOld false).here
      rw [show Site.device _ = some d from hd] at hHere
      cases hHere
      rfl
  obtain ⟨hDoes, hDone⟩ := hMarked.autoActivate_does (hCalm.rests hRests) hFlag
  have hFirst : Changes A (m, { a with taken := id :: a.taken })
      (m.startPending id, { a with taken := id :: a.taken }) :=
    .head (.unschedule id) (hDoes _)
  exact hFirst.tail (.looked (a := { a with taken := id :: a.taken }) rfl hDone)

-- ---------------------------------------------------------------------------
-- Settling
-- ---------------------------------------------------------------------------

/-- What was due on several devices is seen to, one after the other. -/
theorem Coherent.startPending_all (h : m.Coherent A) (hCalm : m.Calm) (ids : List Nat) (a : Agenda) :
    Changes A (m, { a with taken := ids ++ a.taken }) (ids.foldl Manager.startPending m, a) ∧
      (ids.foldl Manager.startPending m).Coherent A ∧ (ids.foldl Manager.startPending m).Calm := by
  induction ids generalizing m with
  | nil => exact ⟨.refl, h, hCalm⟩
  | cons id ids ih =>
    obtain ⟨hStarted, hCalm'⟩ := h.startPending hCalm id
    obtain ⟨hRest, hLast⟩ := ih hStarted hCalm'
    have hFirst := h.startPending_changes hCalm id { a with taken := ids ++ a.taken }
    exact ⟨hFirst.trans hRest, hLast⟩

theorem Coherent.settleRounds_does (h : m.Coherent A) (n : Nat) :
    Does A m (Manager.settleRounds (n + 2) m) := by
  have hPump : Does A m m.pump := Does.pump h.toFits
  obtain ⟨hPumped, hQuiet⟩ := h.pump
  unfold Manager.settleRounds
  dsimp only
  split
  · exact hPump
  · have hStart : ({ m.pump with pending := [] } : Manager).Coherent A :=
      hPumped.same ⟨rfl, rfl, rfl, rfl, rfl, rfl, rfl, fun _ => rfl⟩
    have hCalm : ({ m.pump with pending := [] } : Manager).Calm := by
      refine ⟨fun e he => ?_, rfl⟩
      rw [show Manager.queue _ = [] from hQuiet.queue] at he
      cases he
    have hStarted := fun a => hStart.startPending_all hCalm m.pump.pending a
    obtain ⟨-, hCoherent, hCalm'⟩ := hStarted .empty
    have hTaken : Does A m (m.pump.pending.foldl Manager.startPending { m.pump with pending := [] }) :=
      fun a => ((hPump a).tail .take).trans (hStarted a).1
    have hLast := hTaken.trans (Does.pump hCoherent.toFits)
    unfold Manager.settleRounds
    dsimp only
    rw [hCalm'.pump.pending]
    exact hLast

/-- To settle is a sequence of changes. -/
theorem Coherent.settle_does (h : m.Coherent A) : Does A m m.settle :=
  (h.settleRounds_does _).trans (Does.sum _)

theorem Does.settle (h : Does A m m') (hCoherent : m'.Coherent A) : Does A m m'.settle :=
  h.trans hCoherent.settle_does

-- ---------------------------------------------------------------------------
-- Devices
-- ---------------------------------------------------------------------------

/-- A device comes in, and the manager has nothing else in hand. -/
theorem Settled.addDevice_changes (h : m.Settled A) {d : Device} (hNew : Device.IsNew d) :
    Changes A (m, .empty) ((m.addDevice d).1, .empty) := by
  unfold Manager.addDevice
  by_cases hKnown : (m.devices.any fun x => x.udi == d.udi || x.interface == d.interface) = true
  · rw [if_pos hKnown]
  · rw [if_neg hKnown]
    have hUdi : ∀ x ∈ m.devices, x.udi ≠ d.udi := fun x hx hEq => hKnown
      (List.any_eq_true.mpr ⟨x, hx, by rw [hEq, beq_self_eq_true, Bool.true_or]⟩)
    have hAdmitted : Change A (m, .empty) (m.admitted d, .empty) := .arrive h.queue hNew.unused hUdi
    have hTaken : (m.admitted d).Coherent A :=
      (h.toCoherent.takenIn h.queue hNew.unused hUdi).same (same_publish _ fun _ => rfl)
    have hThere : (m.admitted d).device? m.nextDevice = some (m.newcomer d) :=
      congrArg Site.device (((h.toFits.takenIn h.queue hNew.unused hUdi).2.2 m.nextDevice).trans
        (if_pos rfl))
    have hRest : Does A (m.admitted d) (Manager.settle (if (m.admitted d).isAsleep then m.admitted d
        else (m.admitted d).updateDevice m.nextDevice fun d => d.setManaged true .nowManaged)) := by
      split
      · exact hTaken.settle_does
      · rename_i hAwake
        refine Does.settle (Does.wake hTaken.toFits (by simpa using hAwake) _ .manage fun e he => ?_)
          (hTaken.updateDevice _ fun e => Device.setManaged_carries true .nowManaged)
        rw [hThere] at he
        cases he
        exact hNew.unused.state
    exact .head hAdmitted (hRest .empty)

theorem Settled.removeDevice_does (h : m.Settled A) (id : Nat) : Does A m (m.removeDevice id) := by
  have hEnded : Does A m (m.teardownOn id .removed) := Does.teardownOn m id _
  have hReleased := hEnded.trans (Does.order (hEnded.fits h.toFits) id (.release .removed))
  have hDone : Does A m (m.released id).pump :=
    hReleased.trans (Does.pump (hReleased.fits h.toFits))
  obtain ⟨hPumped, -, hQueue, hIdle⟩ := h.toCoherent.released id
  have hNil : (m.released id).pump.queueOf id = [] := queueOf_nil hQueue id
  obtain ⟨hGone, hRequest, hOrphan⟩ := hPumped.dismissed id hIdle hNil
  show Does A m (Manager.settle (if ((m.released id).pump.device? id).isSome then
    ((m.released id).pump.dismissed id).publish (.deviceRemoved id) else (m.released id).pump))
  cases hd : (m.released id).pump.device? id with
  | none => exact hDone.settle hPumped
  | some d =>
    have hDismissed : Does A m (((m.released id).pump.dismissed id).publish (.deviceRemoved id)) :=
      fun a => (hDone a).tail (.dismiss hd hNil hRequest hOrphan)
    exact hDismissed.settle (hGone.same (same_publish _ fun _ => rfl))

theorem Settled.linkChanged_does (h : m.Settled A) (device : Nat) (up : Bool) :
    Does A m (m.linkChanged device up) := by
  unfold Manager.linkChanged
  dsimp only
  split
  · exact Does.refl m
  · exact (Does.order h.toFits device (.link m.now _ up)).settle
      (h.toCoherent.updateDevice device fun _ => Device.linkChanged_carries m.now _ up)

-- ---------------------------------------------------------------------------
-- Connections
-- ---------------------------------------------------------------------------

/-- A cache that holds nothing new. -/
theorem Does.setCache (h : m.Fits A) (scope : Scope) (cache : ConnectionCache)
    (hRunning : cache.running = true → (m.cache scope).running = true)
    (hHeld : ∀ path c, cache.get? path = some c → (m.cache scope).get? path = some c) :
    Does A m (m.setCache scope cache) :=
  Does.quiet (h.same (same_setCache m scope cache)) (leaves_setCache m scope cache)
    fun _ hMisses => hMisses.of_setCache hRunning fun path c hFound =>
      ⟨c, hHeld path c hFound, rfl, rfl, rfl⟩

theorem Fits.dropped_does (h : m.Fits A) (scope : Scope) (path : String) :
    Does A m (m.dropped scope path) := by
  have hErased : Does A m (m.setCache scope
      { m.cache scope with connections := (m.cache scope).connections.erase path }) := by
    refine Does.setCache h scope _ (fun hRunning => hRunning) fun key c hFound => ?_
    unfold ConnectionCache.get? at hFound ⊢
    rw [Dict.get?_erase] at hFound
    split at hFound
    · cases hFound
    · exact hFound
  refine hErased.trans (Does.foldl _ (fun m' r h' => ?_) (hErased.fits h))
  have hEnded : Does A m' (m'.teardown r.id .connectionRemoved) := Does.teardown m' r.id _
  exact hEnded.trans (Does.order (hEnded.fits h') r.device (.stop .connectionRemoved))

theorem Coherent.connectionRemoved_does (h : m.Coherent A) (scope : Scope) (path : String) :
    Does A m (m.connectionRemoved scope path) := by
  obtain hSame | hEq := m.connectionRemoved_cases scope path
  · rw [hSame]
    exact Does.refl m
  · rw [hEq]
    exact (h.toFits.dropped_does scope path).settle (h.dropped scope path)

/-- Whatever makes devices free, the manager looks at all of them and settles. -/
theorem Coherent.scheduleAll_does (h : m'.Coherent A) (hLeaves : Leaves m m') :
    Does A m m'.scheduleAll.settle :=
  (Does.scheduleAll h.toFits hLeaves).settle h.scheduleAll

theorem Settled.setServiceRunning_does (h : m.Settled A) (scope : Scope) (running : Bool) :
    Does A m (m.setServiceRunning scope running) := by
  have hCache := h.toCoherent.same (same_setCache m scope { m.cache scope with running })
  unfold Manager.setServiceRunning
  dsimp only
  split
  · exact Does.refl m
  · cases running with
    | true =>
      exact hCache.scheduleAll_does (leaves_setCache m scope _)
    | false =>
      have hStopped : Does A m (m.setCache scope { m.cache scope with running := false }) :=
        Does.setCache h.toFits scope _ (fun hRunning => by cases hRunning) fun _ _ hFound => hFound
      -- the connections go one by one, and the manager settles after each of them
      obtain ⟨hDropped, hCoherent⟩ := foldl_rest
        (P := fun _ m' => Does A m m' ∧ Coherent A m')
        (fun p _ _ h' => ⟨h'.1.trans (h'.2.connectionRemoved_does scope p),
          h'.2.connectionRemoved_coherent scope p⟩)
        ((m.setCache scope { m.cache scope with running := false }).cache scope).connections.keys _
        ⟨hStopped, hCache⟩
      exact hDropped.trans (hCoherent.scheduleAll_does (Leaves.refl _))

theorem Settled.connectionAdded_does (h : m.Settled A) (scope : Scope) (path : String)
    (settings : Settings) : Does A m (m.connectionAdded scope path settings).1 := by
  unfold Manager.connectionAdded
  split
  · exact Does.refl m
  · rename_i c _
    have hCache := h.toCoherent.same (same_setCache m scope
      { m.cache scope with connections := (m.cache scope).connections.insert path c })
    exact hCache.scheduleAll_does (leaves_setCache m scope _)

theorem Settled.connectionUpdated_does (h : m.Settled A) (scope : Scope) (path : String)
    (settings : Settings) : Does A m (m.connectionUpdated scope path settings) := by
  unfold Manager.connectionUpdated
  dsimp only
  split
  · exact h.connectionAdded_does scope path settings
  · split
    · exact h.toCoherent.connectionRemoved_does scope path
    · rename_i c _
      have hCache := h.toCoherent.same (same_setCache m scope
        { m.cache scope with connections := (m.cache scope).connections.insert path c })
      have hLeaves := leaves_setCache m scope
        { m.cache scope with connections := (m.cache scope).connections.insert path c }
      generalize m.setCache scope
        { m.cache scope with connections := (m.cache scope).connections.insert path c } = m₁
        at hCache hLeaves
      have hPardoned : Coherent A { m₁ with invalid := m₁.invalid.filter fun u => u != c.uuid } :=
        hCache.same ⟨rfl, rfl, rfl, rfl, rfl, rfl, rfl, fun _ => rfl⟩
      exact hPardoned.scheduleAll_does ⟨hLeaves.devices, hLeaves.requests, hLeaves.queue,
        hLeaves.pending, hLeaves.nextDevice, hLeaves.nextRequest, hLeaves.sleeping,
        hLeaves.networkingEnabled, hLeaves.state, hLeaves.events⟩

-- ---------------------------------------------------------------------------
-- Users
-- ---------------------------------------------------------------------------

theorem Settled.activateConnection_does (h : m.Settled A) (uid : Nat) (service path device : String)
    (specific : Option String) :
    Does A m (m.activateConnection uid service path device specific).1 := by
  unfold Manager.activateConnection
  split
  · exact Does.refl m
  · split
    · exact Does.refl m
    · rename_i scope _
      split
      · exact Does.refl m
      · rename_i id _
        have hDoes := h.toCoherent.activate_does id scope path
          (specific.filter fun p => !p.isEmpty && p != "/") true
        have hStarted := h.toCoherent.activate id scope path
          (specific.filter fun p => !p.isEmpty && p != "/") true
        dsimp only
        split
        · rename_i hActivate
          rw [hActivate] at hDoes
          exact hDoes
        · rename_i hActivate
          rw [hActivate] at hDoes hStarted
          exact hDoes.settle hStarted

theorem Settled.deactivateConnection_does (h : m.Settled A) (uid : Nat) (active : String) :
    Does A m (m.deactivateConnection uid active).1 := by
  unfold Manager.deactivateConnection
  split
  · exact Does.refl m
  · split
    · exact Does.refl m
    · rename_i r hFound
      obtain ⟨id, -, hr⟩ := Option.bind_eq_some_iff.mp hFound
      obtain ⟨hMem, -⟩ := request?_eq_some hr
      have hEnded : Does A m (m.teardown r.id .userRequested) := Does.teardown m r.id _
      have hStopped := hEnded.trans (Does.order (hEnded.fits h.toFits) r.device .stopForUser)
      refine hStopped.settle (h.toCoherent.teardown_stop (h.linked.request?_of_mem hMem)
        .userRequested (fun _ => Device.Order.stopForUser.carries) fun d hListen _ =>
          Device.deactivate_idle .userRequested hListen)

/-- A request that changed in nothing that matters to its device. -/
theorem Does.setRequest_same (h : m.Fits A) {r r' : Request} (hr : r ∈ m.requests)
    (hSame : Request.Same r r') {effects : List Effect}
    (hEffects : Exchange.ofEffects effects = []) :
    Does A m ((m.setRequest r').perform effects) :=
  Does.decides (h.setRequest_same hr hSame (Request.issued_of_ofEffects hEffects)).fits
    (leaves_setRequest m r' effects) ⟨rfl, rfl, rfl, rfl, rfl⟩

theorem Settled.wait_does (h : m.Settled A) (request waiter : Nat) :
    Does A m (m.wait request waiter).1 := by
  unfold Manager.wait
  split
  · exact Does.refl m
  · rename_i r hr
    exact Does.setRequest_same h.toFits (request?_eq_some hr).1 (r.wait_same waiter)
      (r.wait_effects waiter)

theorem Settled.setRequestDefault_does (h : m.Settled A) (request : Nat) (default default6 : Bool) :
    Does A m (m.setRequestDefault request default default6) := by
  have hAll := (h.setRequestDefault request default default6).toFits
  unfold Manager.setRequestDefault at hAll ⊢
  cases hr : m.request? request with
  | none => exact Does.refl m
  | some r =>
    obtain ⟨hMem, rfl⟩ := request?_eq_some hr
    have hLeaves := leaves_setRequest m { r with isDefault := default, isDefault6 := default6 } []
    rw [perform_nil] at hLeaves
    rw [hr] at hAll
    dsimp only at hAll ⊢
    by_cases hChanged : (r.isDefault != default || r.isDefault6 != default6) = true
    · rw [if_pos hChanged] at hAll ⊢
      exact Does.decides hAll (hLeaves.publish hMem) ⟨rfl, rfl, rfl, rfl, rfl⟩
    · rw [if_neg hChanged] at hAll ⊢
      exact Does.decides hAll hLeaves ⟨rfl, rfl, rfl, rfl, rfl⟩

-- ---------------------------------------------------------------------------
-- Answers and time
-- ---------------------------------------------------------------------------

theorem Answers.travels {r r' : Request} {effects : List Effect} {f : Device → Update}
    (h : m.Answers r r' effects f) (d : Device) :
    Device.Travels d (f d) ∧ ((f d).device.managed = true → d.managed = true) := by
  obtain ⟨-, -, ⟨c, setting, rfl⟩ | rfl⟩ := h
  · exact ⟨Device.secretsUpdated_travels d m.now c setting, fun hManaged =>
      (Device.secretsUpdated_proceeds d m.now c setting).flags.managed.symm.trans hManaged⟩
  · exact ⟨Device.moveTo_failed_travels d .noSecrets, (Device.Order.fail .noSecrets).managed d⟩

theorem Settled.secretsReply_does (h : m.Settled A) (call : SecretsCall)
    (answer : Except Error Settings) : Does A m (m.secretsReply call answer) := by
  obtain hEq | hEq | ⟨r, r', effects, f, hr, hAnswers, hEq⟩ := m.secretsReply_cases call answer
  · rw [hEq]
    exact Does.refl m
  · rw [hEq]
    exact h.toCoherent.settle_does
  · rw [hEq]
    have hMem := (request?_eq_some hr).1
    obtain ⟨d, hd⟩ := h.toFits.exists_device hMem
    have hSound := h.toFits.sound hd
    have hMoves := (hAnswers.moves hSound.allListen hSound.device).1
    obtain ⟨hFits, hActs, -⟩ := h.toFits.answered h.looked hMem hAnswers.1 hAnswers.2.1 hd hMoves
    have hNoted : Does A m ((m.setRequest r').perform effects) :=
      Does.decides hFits (leaves_setRequest m r' effects) ⟨rfl, rfl, rfl, rfl, rfl⟩
    have hTold : Does A m (((m.setRequest r').perform effects).updateDevice r.device f) :=
      fun a => (hNoted a).tail (.update hd hMoves hActs (hAnswers.travels d).1
        fun _ => (hAnswers.travels d).2)
    exact hTold.settle (h.toCoherent.answered h.looked hMem hAnswers.1 hAnswers.2.1
      fun _ hListen hSound => hAnswers.moves hListen hSound)

theorem Does.noted (h : m.Fits A) (r : Request) : Does A m (m.noted r) := by
  unfold Manager.noted
  cases hd : m.device? r.device with
  | none => exact Does.refl m
  | some d =>
    rw [Option.any_some]
    split
    · exact Does.decides (h.addOrphan hd _).fits
        (.silent rfl rfl rfl rfl rfl rfl rfl rfl rfl rfl) ⟨rfl, rfl, rfl, rfl, rfl⟩
    · exact Does.refl m

theorem Does.expireRequest (h : m.Fits A) (id : Nat) : Does A m (m.expireRequest id) := by
  unfold Manager.expireRequest
  split
  · exact Does.refl m
  · rename_i r _
    have hNoted : Does A m (m.noted r) := Does.noted h r
    have hEnded := hNoted.trans (Does.teardown (m.noted r) id .unknown)
    exact hEnded.trans (Does.failUnansweredAuth (hEnded.fits h) r.device)

theorem Settled.processTimeoutsAt_does (h : m.Settled A) (moment : Nat) :
    Does A m (m.processTimeoutsAt moment) := by
  unfold Manager.processTimeoutsAt
  have hChecked : Does A m (m.requests.foldl (fun m r =>
      (m.setRequest (r.checkTimeout moment).1).perform (r.checkTimeout moment).2.1) m) :=
    (foldl_rest (P := fun rest m' => Checking A rest m' ∧ Does A m m')
      (fun r _ _ h' => ⟨h'.1.step moment, h'.2.trans (Does.setRequest_same h'.1.coherent.toFits
        (h'.1.present r List.mem_cons_self) (r.checkTimeout_same moment)
        (r.checkTimeout_effects moment))⟩)
      m.requests m ⟨h.toCoherent.checking, Does.refl m⟩).2
  have hCoherent := h.toCoherent.checkTimeouts moment
  have hExpired := hChecked.trans (Does.foldl
    ((m.requests.filter fun r => (r.checkTimeout moment).2.2).map Request.id)
    (fun _ id h' => Does.expireRequest h' id) hCoherent.toFits)
  have hCoherent' := foldl_rest (P := fun _ m' => Coherent A m')
    (fun id _ _ h' => h'.expireRequest id)
    ((m.requests.filter fun r => (r.checkTimeout moment).2.2).map Request.id) _ hCoherent
  refine (hExpired.trans (Does.foldl _ (fun _ d h' => Does.order h' d.id (.poll moment))
    hCoherent'.toFits)).settle ?_
  exact foldl_rest (P := fun _ m' => Coherent A m')
    (fun d _ _ h' => h'.updateDevice d.id fun d => Device.pollDeadline_carries moment) _ _ hCoherent'

theorem Settled.clock_does (h : m.Settled A) (now : Nat) : Does A m { m with now } :=
  Does.decides (h.clock now).toFits
    (.silent rfl rfl rfl rfl rfl rfl rfl rfl rfl rfl) ⟨rfl, rfl, rfl, rfl, rfl⟩

/-- That all devices are gone is told of one after the other. -/
theorem publish_removed (ds : List Device) (m : Manager) :
    ds.foldl (fun m d => m.publish (.deviceRemoved d.id)) m =
      { m with events := m.events ++ ds.map fun d => .deviceRemoved d.id } := by
  induction ds generalizing m with
  | nil =>
    show m = _
    rw [List.map_nil, List.append_nil]
  | cons d ds ih =>
    rw [List.foldl_cons, ih, List.map_cons, List.append_cons]
    rfl

/-- To shut down ends all requests, forgets the notes, and drops all devices at once. -/
theorem shutdown_eq (m : Manager) : m.shutdown = Manager.disbanded
    { m.requests.foldl (fun m r => m.teardown r.id .unknown) m with orphans := [] } := by
  unfold Manager.shutdown
  dsimp only
  rw [publish_removed]
  rfl

theorem Settled.shutdown_does (h : m.Settled A) : Does A m m.shutdown := by
  have hEnded : Does A m (m.requests.foldl (fun m r => m.teardown r.id .unknown) m) :=
    Does.foldl m.requests (fun m r _ => Does.teardown m r.id .unknown) h.toFits
  obtain ⟨hNone, hRests⟩ := teardown_each_nil m .unknown
  have hFits := hEnded.fits h.toFits
  rw [shutdown_eq]
  generalize m.requests.foldl (fun m r => m.teardown r.id .unknown) m = m₁ at *
  have hFreed : Fits A { m₁ with orphans := [] } :=
    ⟨hFits.linked.keeps (Keeps.of_eq rfl rfl ⟨rfl, rfl⟩ rfl), fun x =>
      ⟨fun hd => ⟨((hFits.sites x).absent hd).1, rfl⟩, fun d hd => (hFits.sound hd).adopt none⟩⟩
  have hForgotten : Does A m₁ { m₁ with orphans := [] } :=
    Does.decides hFreed
      (.silent rfl rfl rfl rfl rfl rfl rfl rfl rfl rfl) ⟨rfl, rfl, rfl, rfl, rfl⟩
  exact (hEnded.trans hForgotten).trans fun _ =>
    .single (.disband (hRests.queue.trans h.queue) hNone rfl)

-- ---------------------------------------------------------------------------
-- Sleep
-- ---------------------------------------------------------------------------

/-- No device is managed while the manager sleeps. -/
def Dormant (m : Manager) : Prop :=
  m.isAsleep = true → ∀ id d, m.device? id = some d → d.managed = false

/-- A device that is not managed is in the state that says so. -/
theorem Fits.unmanaged (h : m.Fits A) {d : Device} (hd : m.device? id = some d)
    (hManaged : d.managed = false) : d.state = .unmanaged :=
  (h.sound hd).device.managed.mp hManaged

/-- All devices are woken, one after the other. -/
theorem Fits.wake_all (h : m.Fits A) (hAwake : m.isAsleep = false)
    (hState : ∀ id d, m.device? id = some d → d.state = .unmanaged) {f : Device → Update}
    (hf : Device.Wakes f) :
    Does A m (m.devices.foldl (fun m d => m.updateDevice d.id f) m) := by
  let P : List Device → Manager → Prop := fun rest m' =>
    Does A m m' ∧ m'.isAsleep = false ∧ (rest.map Device.id).Nodup ∧
      ∀ d ∈ rest, ∀ e, m'.device? d.id = some e → e.state = .unmanaged
  have hStep : ∀ (d : Device) (rest : List Device) (m' : Manager), P (d :: rest) m' →
      P rest (m'.updateDevice d.id f) := by
    rintro d rest m' ⟨hDoes, hAwake', hDistinct, hStates⟩
    rw [List.map_cons, List.nodup_cons] at hDistinct
    have hFits := hDoes.fits h
    refine ⟨hDoes.trans (Does.wake hFits hAwake' d.id hf (hStates d List.mem_cons_self)),
      (decides_updateDevice m' d.id f).isAsleep.trans hAwake', hDistinct.2, fun x hx e he => ?_⟩
    have hNe : x.id ≠ d.id := fun hEq => hDistinct.1 (hEq ▸ List.mem_map_of_mem hx)
    refine hStates x (List.mem_cons_of_mem d hx) e ?_
    cases hd : m'.device? d.id with
    | none =>
      rw [updateDevice_absent hd] at he
      exact he
    | some d₀ =>
      have hSound := hFits.sound hd
      have hAway := (hFits.carries hd (hf.carries hSound.allListen hSound.device)).away x.id hNe
      exact (congrArg Site.device hAway).symm.trans he
  exact (foldl_rest (P := P) hStep m.devices m
    ⟨Does.refl m, hAwake, h.linked.devices, fun d _ e he => hState d.id e he⟩).1

/-- To follow a switch is a sequence of changes, if the manager was dormant or is asleep now. -/
theorem Coherent.switched_does (h : m.Coherent A)
    (hDormant : m.isAsleep = false → ∀ id d, m.device? id = some d → d.managed = false) :
    Does A m m.switched := by
  unfold Manager.switched
  cases hAsleep : m.isAsleep with
  | true =>
    rw [if_pos rfl]
    have hFits : ({ m with invalid := [] } : Manager).Fits A :=
      h.toFits.same ⟨rfl, rfl, rfl, rfl, rfl, rfl, rfl, fun _ => rfl⟩
    have hAmnesty : Does A m { m with invalid := [] } := by
      refine Does.quiet hFits
        (.silent rfl rfl rfl rfl rfl rfl rfl rfl rfl rfl)
        fun d hMisses => ?_
      have hAwake : m.isAsleep = false := hMisses.1
      rw [hAsleep] at hAwake
      cases hAwake
    have hEnded := hAmnesty.trans (Does.foldl m.requests
      (fun m r _ => Does.teardown m r.id .sleeping) hFits)
    exact hEnded.trans (Does.foldl _ (fun _ d h' => Does.order h' d.id (.release .sleeping))
      (hEnded.fits h.toFits))
  | false =>
    rw [if_neg Bool.false_ne_true]
    exact h.toFits.wake_all hAsleep
      (fun id d hd => h.toFits.unmanaged hd (hDormant hAsleep id d hd)) .rouse

-- ---------------------------------------------------------------------------
-- Every operation
-- ---------------------------------------------------------------------------

/-- How an operation begins. -/
inductive Begins (m : Manager) : Operation → Manager → Prop where
  | same (operation : Operation) : Begins m operation m
  | firmware {interface : String} {d : Device} (missing : Bool)
    (hd : m.deviceByInterface? interface = some d) :
    Begins m (.setFirmwareMissing interface missing)
      (m.updateDevice d.id fun d => d.setFirmwareMissing missing)
  | sleeping (uid : Nat) {sleeping : Bool} (hNe : m.sleeping ≠ sleeping) :
    Begins m (.setSleeping uid sleeping) ({ m with sleeping }.publish (.sleepingChanged sleeping))
  | enabled (uid : Nat) {enabled : Bool} (hNe : m.networkingEnabled ≠ enabled) :
    Begins m (.setEnabled uid enabled)
      ({ m with store := (m.store.set enabled).1, networkingEnabled := enabled }.publish
        (.networkingEnabledChanged enabled))

theorem Begins.coherent {operation : Operation} (h : m.Begins operation m') (hm : m.Coherent A) :
    m'.Coherent A := by
  cases h with
  | same => exact hm
  | firmware missing hd =>
    exact hm.updateDevice _ fun _ => Device.setFirmwareMissing_carries missing
  | sleeping uid hNe => exact hm.same ⟨rfl, rfl, rfl, rfl, rfl, rfl, rfl, fun _ => by simp [news,
      Manager.publish, ManagerEvent.linkNews?]⟩
  | enabled uid hNe => exact hm.same ⟨rfl, rfl, rfl, rfl, rfl, rfl, rfl, fun _ => by simp [news,
      Manager.publish, ManagerEvent.linkNews?]⟩

/-- A device once an operation has begun, with what waits to be told of it: nothing has happened to it,
unless it is the one whose firmware comes or goes. -/
theorem Begins.device_cases {operation : Operation} (h : m.Begins operation m') (hFits : m.Fits A)
    {id : Nat} {d' : Device} (hd : m'.device? id = some d') :
    (m.device? id = some d' ∧ m'.queueOf id = m.queueOf id) ∨
      ∃ interface missing d, operation = .setFirmwareMissing interface missing ∧
        m.deviceByInterface? interface = some d ∧ m.device? id = some d ∧
          d' = (d.setFirmwareMissing missing).device ∧
            m'.queueOf id = m.queueOf id ++ (d.setFirmwareMissing missing).events := by
  cases h with
  | same => exact Or.inl ⟨hd, rfl⟩
  | sleeping => exact Or.inl ⟨hd, rfl⟩
  | enabled => exact Or.inl ⟨hd, rfl⟩
  | @firmware interface d₀ missing hFound =>
    obtain ⟨d, hOld, ⟨rfl, rfl, hQueue⟩ | ⟨-, rfl, hQueue⟩⟩ :=
      hFits.updated_cases (fun _ => Device.setFirmwareMissing_carries missing) hd
    · rw [hFits.linked.device?_of_mem (List.mem_of_find?_eq_some hFound)] at hOld
      cases hOld
      exact Or.inr ⟨interface, missing, d₀, rfl, hFound,
        hFits.linked.device?_of_mem (List.mem_of_find?_eq_some hFound), rfl, hQueue⟩
    · exact Or.inl ⟨hOld, hQueue⟩

/-- A manager that is awake after a switch was turned was asleep before. -/
theorem asleep_of_sleeping {sleeping : Bool} (hNe : m.sleeping ≠ sleeping)
    (hAwake : ({ m with sleeping } : Manager).isAsleep = false) : m.isAsleep = true := by
  unfold Manager.isAsleep at hAwake ⊢
  dsimp only at hAwake
  revert hNe hAwake
  cases m.sleeping <;> cases sleeping <;> simp

theorem asleep_of_enabled {enabled : Bool} (hNe : m.networkingEnabled ≠ enabled)
    (hAwake : ({ m with networkingEnabled := enabled } : Manager).isAsleep = false) :
    m.isAsleep = true := by
  unfold Manager.isAsleep at hAwake ⊢
  dsimp only at hAwake
  revert hNe hAwake
  cases m.networkingEnabled <;> cases enabled <;> simp

/-- After its beginning every operation is a sequence of changes. -/
theorem Settled.operate_changes (h : m.Settled A) (hDormant : m.Dormant) (operation : Operation) :
    ∃ m₁, m.Begins operation m₁ ∧ Changes A (m₁, .empty) (m.operate operation, .empty) := by
  -- most operations begin with nothing that no change does
  have hSame : ∀ {m' : Manager}, Does A m m' →
      ∃ m₁, m.Begins operation m₁ ∧ Changes A (m₁, .empty) (m', .empty) :=
    fun hDoes => ⟨m, .same operation, hDoes .empty⟩
  have hSwitch : ∀ {m₁ : Manager}, m₁.Coherent A → m₁.devices = m.devices →
      (m₁.isAsleep = false → m.isAsleep = true) → Does A m₁ m₁.applySwitches := by
    intro m₁ hCoherent hDevices hWasAsleep
    refine (hCoherent.switched_does fun hAwake id d hd => ?_).settle hCoherent.switched
    unfold device? at hd
    rw [hDevices] at hd
    exact hDormant (hWasAsleep hAwake) id d hd
  cases operation with
  | addDevice hNew => exact ⟨m, .same _, h.addDevice_changes hNew⟩
  | removeDevice id => exact hSame (h.removeDevice_does id)
  | removeDeviceByInterface interface =>
    refine hSame ?_
    show Does A m (m.removeDeviceByInterface interface).1
    unfold Manager.removeDeviceByInterface
    split
    · exact Does.refl m
    · exact h.removeDevice_does _
  | setFirmwareMissing interface missing =>
    show ∃ m₁, _ ∧ Changes A (m₁, .empty) ((m.setFirmwareMissing interface missing).1, .empty)
    unfold Manager.setFirmwareMissing
    split
    · exact hSame (Does.refl m)
    · rename_i d hd
      have hBegins := Begins.firmware missing hd
      exact ⟨_, hBegins, (hBegins.coherent h.toCoherent).settle_does .empty⟩
  | setServiceRunning scope running => exact hSame (h.setServiceRunning_does scope running)
  | connectionAdded scope path settings =>
    exact hSame (h.connectionAdded_does scope path settings)
  | connectionUpdated scope path settings =>
    exact hSame (h.connectionUpdated_does scope path settings)
  | connectionRemoved scope path =>
    exact hSame (h.toCoherent.connectionRemoved_does scope path)
  | activateConnection uid service path device specific =>
    exact hSame (h.activateConnection_does uid service path device specific)
  | deactivateConnection uid active => exact hSame (h.deactivateConnection_does uid active)
  | wait request waiter => exact hSame (h.wait_does request waiter)
  | setRequestDefault request default default6 =>
    exact hSame (h.setRequestDefault_does request default default6)
  | secretsReply call answer => exact hSame (h.secretsReply_does call answer)
  | linkChanged device up => exact hSame (h.linkChanged_does device up)
  | processTimeouts moment => exact hSame (h.processTimeoutsAt_does moment)
  | setSleeping uid sleeping =>
    show ∃ m₁, _ ∧ Changes A (m₁, .empty) ((m.setSleeping uid sleeping).1, .empty)
    unfold Manager.setSleeping
    split
    · exact hSame (Does.refl m)
    · rename_i hNe
      split
      · exact hSame (Does.refl m)
      · have hBegins : m.Begins (.setSleeping uid sleeping) _ := .sleeping uid hNe
        exact ⟨_, hBegins, hSwitch (hBegins.coherent h.toCoherent) rfl (asleep_of_sleeping hNe) .empty⟩
  | setEnabled uid enabled =>
    show ∃ m₁, _ ∧ Changes A (m₁, .empty) ((m.setEnabled uid enabled).1, .empty)
    unfold Manager.setEnabled
    split
    · exact hSame (Does.refl m)
    · rename_i hNe
      split
      · exact hSame (Does.refl m)
      · have hBegins : m.Begins (.setEnabled uid enabled) _ := .enabled uid hNe
        exact ⟨_, hBegins, hSwitch (hBegins.coherent h.toCoherent) rfl (asleep_of_enabled hNe) .empty⟩
  | settle => exact hSame (h.toCoherent.settle_does)
  | updateState => exact hSame (Does.sum m)
  | shutdown => exact hSame (h.shutdown_does)
  | setClock now => exact hSame (h.clock_does now)

end Manager

end ScannerHub
