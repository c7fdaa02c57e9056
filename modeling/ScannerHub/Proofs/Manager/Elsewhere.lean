import ScannerHub.Proofs.Manager.Rest

/-!
# What happens elsewhere

Whatever the manager does about one device leaves the others alone. A device of which no event waits,
and on which no automatic activation is due, stays as it is while the manager settles, whatever
happens to the others meanwhile.

* `Manager.Spares` — two moments between which nothing has happened to a device.

## Results

* `Coherent.spares_pump` — the queues are worked off;
* `Coherent.spares_activate` — another device starts;
* `Coherent.spares_settle` — the manager settles.
-/

namespace ScannerHub.Manager

variable {A : Nat → String → Prop} {m m' m'' : Manager} {id x : Nat}

/-- Two moments between which nothing has happened to a device. -/
structure Spares (x : Nat) (m m' : Manager) : Prop where
  device : m'.device? x = m.device? x
  orphan : m'.orphan? x = m.orphan? x
  queue : m'.queueOf x = m.queueOf x
  pending : x ∈ m'.pending → x ∈ m.pending
  /-- A request with events left to look at may have looked at them. -/
  request : (∀ r, m.requestOn? x = some r → r.queue = []) → m'.requestOn? x = m.requestOn? x

theorem Spares.refl (x : Nat) (m : Manager) : Spares x m m :=
  ⟨rfl, rfl, rfl, fun h => h, fun _ => rfl⟩

theorem Spares.trans (h : Spares x m m') (h' : Spares x m' m'') : Spares x m m'' := by
  refine ⟨h'.device.trans h.device, h'.orphan.trans h.orphan, h'.queue.trans h.queue,
    fun hDue => h.pending (h'.pending hDue), fun hLooked => ?_⟩
  have hFirst := h.request hLooked
  exact (h'.request fun r hr => hLooked r (hFirst ▸ hr)).trans hFirst

theorem Spares.of_site (hSite : m'.site x = m.site x) (hPending : x ∈ m'.pending → x ∈ m.pending) :
    Spares x m m' :=
  ⟨congrArg Site.device hSite, congrArg Site.orphan hSite, congrArg Site.queue hSite, hPending,
   fun _ => congrArg Site.request hSite⟩

theorem Acts.spares {s : Site} (h : Acts A m m' id s) (hx : x ≠ id)
    (hPending : m'.pending = m.pending) : Spares x m m' :=
  .of_site (h.away x hx) fun hDue => hPending ▸ hDue

theorem Same.spares (h : Same m m') (hPending : x ∈ m'.pending → x ∈ m.pending) : Spares x m m' :=
  .of_site (h.site x) hPending

-- ---------------------------------------------------------------------------
-- Single steps
-- ---------------------------------------------------------------------------

theorem Fits.spares_updateDevice (h : m.Fits A) (hx : x ≠ id) {f : Device → Update}
    (hf : ∀ d : Device, d.AllListen → d.Sound → Device.Carries d (f d)) :
    Spares x m (m.updateDevice id f) := by
  cases hd : m.device? id with
  | none =>
    rw [updateDevice_absent hd]
    exact .refl x m
  | some d =>
    have hSound := h.sound hd
    exact (h.carries hd (hf d hSound.allListen hSound.device)).spares hx
      (pending_updateDevice m id f)

theorem spares_setDevice (m : Manager) {e : Device} (hx : x ≠ e.id) : Spares x m (m.setDevice e) := by
  refine ⟨?_, rfl, rfl, fun h => h, fun _ => rfl⟩
  rw [device?_setDevice, if_neg hx]

theorem spares_modifyDevice (m : Manager) (hx : x ≠ id) {f : Device → Device}
    (hf : ∀ d, (f d).id = d.id) : Spares x m (m.modifyDevice id f) := by
  unfold Manager.modifyDevice
  split
  · exact .refl x m
  · rename_i d hd
    refine spares_setDevice m ?_
    rw [hf, (device?_eq_some hd).2]
    exact hx

/-- A request ends on another device. -/
theorem Fits.spares_teardown (h : m.Fits A) (n : Nat) (hx : ∀ r ∈ m.requests, r.id = n → x ≠ r.device)
    (reason : StateReason) : Spares x m (m.teardown n reason) := by
  cases hr : m.request? n with
  | none =>
    rw [teardown_absent hr]
    exact .refl x m
  | some r =>
    obtain ⟨hMem, hId⟩ := request?_eq_some hr
    exact (h.teardown hr reason).spares (hx r hMem hId) (rests_teardown m n reason).pending

/-- An automatic activation becomes due on another device. -/
theorem spares_schedule (m : Manager) (hx : x ≠ id) : Spares x m (m.schedule id) := by
  obtain ⟨hEq, -⟩ | hEq := m.schedule_cases id
  · rw [hEq]
    exact .refl x m
  · rw [hEq]
    have hFlag := spares_modifyDevice m hx (f := fun d => { d with activationScheduled := true })
      fun _ => rfl
    refine ⟨hFlag.device, hFlag.orphan, hFlag.queue, fun hDue => ?_, hFlag.request⟩
    rcases List.mem_append.mp hDue with hOld | hNew
    · exact hOld
    · exact absurd (List.mem_singleton.mp hNew) hx

/-- No automatic activation becomes due on a device that is busy. -/
theorem spares_schedule_busy (m : Manager) {d : Device} (hd : m.device? x = some d)
    (hBusy : d.autoconnectAllowed = false) (id : Nat) : Spares x m (m.schedule id) := by
  by_cases hx : x = id
  · subst hx
    have hSame : m.schedule x = m := by
      unfold Manager.schedule
      rw [hd]
      dsimp only
      rw [hBusy]
      exact ite_self m
    rw [hSame]
    exact .refl x m
  · exact spares_schedule m hx

theorem spares_scheduleAll (m : Manager) {d : Device} (hd : m.device? x = some d)
    (hBusy : d.autoconnectAllowed = false) : Spares x m m.scheduleAll :=
  foldl_rest (P := fun _ m' => Spares x m m')
    (fun e _ _ h => h.trans (spares_schedule_busy _ (h.device.trans hd) hBusy e.id)) m.devices m
    (.refl x m)

-- ---------------------------------------------------------------------------
-- Working off the queues
-- ---------------------------------------------------------------------------

theorem due_schedule (m : Manager) (id : Nat) (hDue : x ∈ (m.schedule id).pending) :
    x ∈ m.pending ∨ x = id := by
  obtain ⟨hEq, -⟩ | hEq := m.schedule_cases id
  · rw [hEq] at hDue
    exact Or.inl hDue
  · rw [hEq] at hDue
    exact (List.mem_append.mp hDue).imp_right List.mem_singleton.mp

/-- What follows from an event may make an automatic activation due on its device. -/
theorem due_handleEvent (m : Manager) (e : DeviceEvent) (hDue : x ∈ (m.handleEvent e).pending) :
    x ∈ m.pending ∨ x = e.device := by
  cases e with
  | linkRequested id request => exact Or.inl hDue
  | needSecrets id need =>
    change x ∈ (m.failUnansweredAuth id).pending at hDue
    unfold Manager.failUnansweredAuth at hDue
    split at hDue
    · exact Or.inl hDue
    · rw [pending_updateDevice] at hDue
      exact Or.inl hDue
  | stateChanged id new old reason =>
    have hAnnounced := rests_announced m id new old reason
    have hFollow : ∀ m' : Manager, m'.pending = m.pending →
        x ∈ (m'.followState id new reason).pending → x ∈ m.pending ∨ x = id := by
      intro m' hPending hIn
      rw [← hPending]
      cases new with
      | activated => exact Or.inl ((rests_updateTimestamp m' id).pending ▸ hIn)
      | failed =>
        change x ∈ (Manager.updateDevice _ id _).pending at hIn
        rw [pending_updateDevice] at hIn
        exact Or.inl (((rests_failOrphan m' id).trans (rests_failRequest _ id reason)).pending ▸ hIn)
      | disconnected =>
        exact (due_schedule _ id hIn).imp_left fun hOld =>
          (rests_teardownOn m' id reason).pending ▸ hOld
      | unavailable => exact Or.inl ((rests_teardownOn m' id reason).pending ▸ hIn)
      | unmanaged => exact Or.inl ((rests_teardownOn m' id reason).pending ▸ hIn)
      | unknown => exact Or.inl hIn
      | prepare => exact Or.inl hIn
      | config => exact Or.inl hIn
      | needAuth => exact Or.inl hIn
      | ipConfig => exact Or.inl hIn
    change x ∈ (Manager.updateState _).pending at hDue
    rw [(rests_updateState _).pending] at hDue
    refine hFollow _ ?_ hDue
    split <;> exact hAnnounced.pending

theorem Coherent.spares_handleEvent (h : m.Coherent A) {e : DeviceEvent} {rest : List DeviceEvent}
    (hQueue : m.queue = e :: rest) (hx : x ≠ e.device) :
    Spares x m ({ m with queue := rest }.handleEvent e) := by
  obtain ⟨s, hActs, -⟩ := h.handleEvent hQueue
  exact .of_site (hActs.away x hx) fun hDue => (due_handleEvent _ e hDue).resolve_right hx

/-- A request looks at its events. One that has none to look at stays as it is. -/
theorem Coherent.spares_processRequest (h : m.Coherent A) (id : Nat) :
    Spares x m (m.processRequest id) := by
  cases hr : m.request? id with
  | none =>
    unfold Manager.processRequest
    rw [hr]
    exact .refl x m
  | some r =>
    obtain ⟨hMem, rfl⟩ := request?_eq_some hr
    have hActs := h.toFits.processRequest hMem
    have hPending := (rests_processRequest m r.id).pending
    by_cases hx : x = r.device
    · subst hx
      have hHere := hActs.here
      refine ⟨congrArg Site.device hHere, congrArg Site.orphan hHere, congrArg Site.queue hHere,
        fun hDue => hPending ▸ hDue, fun hLooked => ?_⟩
      have hOn := h.linked.requestOn?_of_mem hMem
      have hEmpty : r.queue = [] := hLooked r hOn
      have hSame : r.processEvents.request = r := by
        unfold Request.processEvents
        rw [hEmpty]
        exact congrArg (fun queue => { r with queue }) hEmpty.symm
      refine (congrArg Site.request hHere).trans ?_
      rw [hSame]
      exact hOn.symm
    · exact hActs.spares hx hPending

theorem Coherent.spares_processRequests (h : m.Coherent A) : Spares x m m.processRequests :=
  (foldl_rest (P := fun _ m' => m'.Coherent A ∧ Spares x m m')
    (fun r _ _ hm' => ⟨hm'.1.processRequest r.id, hm'.2.trans (hm'.1.spares_processRequest r.id)⟩)
    m.requests m ⟨h, .refl x m⟩).2

/-- All queues are worked off, and no event of the device waits. -/
theorem Coherent.spares_pump (h : m.Coherent A) (hQueue : m.queueOf x = []) : Spares x m m.pump := by
  refine (pump_preserves (P := fun m' => m'.Coherent A ∧ Spares x m m') ?_ ?_
    ⟨h, Spares.refl x m⟩).2
  · rintro m' ⟨hCoherent, hSpares⟩
    exact ⟨hCoherent.processRequests.1, hSpares.trans hCoherent.spares_processRequests⟩
  · rintro m' e rest ⟨hCoherent, hSpares⟩ hNext
    refine ⟨hCoherent.handleEvent_coherent hNext,
      hSpares.trans (hCoherent.spares_handleEvent hNext fun hx => ?_)⟩
    have hNone := hSpares.queue.trans hQueue
    unfold queueOf at hNone
    rw [hNext, List.filter_cons_of_pos (by simp [hx])] at hNone
    cases hNone

-- ---------------------------------------------------------------------------
-- Settling
-- ---------------------------------------------------------------------------

/-- Another device is cleared for an activation. -/
theorem Coherent.spares_cleared (h : m.Coherent A) {device : Nat} {d : Device}
    (hd : m.device? device = some d) (hState : d.state ≠ .unmanaged ∧ d.state ≠ .unavailable)
    (hx : x ≠ device) (hQueue : m.queueOf x = []) : Spares x m (m.cleared device) := by
  obtain ⟨hCoherent, hAway, -⟩ := h.halted hd hState
  have hPending : (m.halted device).pending = m.pending :=
    (pending_updateDevice _ device _).trans (rests_teardownOn m device .userRequested).pending
  have hHalted : Spares x m (m.halted device) :=
    .of_site (hAway x hx) fun hDue => hPending ▸ hDue
  exact hHalted.trans (hCoherent.spares_pump (hHalted.queue.trans hQueue))

/-- An activation starts on another device. -/
theorem Coherent.spares_activate (h : m.Coherent A) {device : Nat} (hx : x ≠ device)
    (hQueue : m.queueOf x = []) (scope : Scope) (path : String) (specific : Option String)
    (userRequested : Bool) : Spares x m (m.activate device scope path specific userRequested).1 := by
  rcases m.activate_cases device scope path specific userRequested with
    ⟨e, hFailed⟩ | ⟨connection, d, hFound, hd, hOk⟩
  · rw [hFailed]
    exact .refl x m
  · obtain ⟨hState, hCheck⟩ := checkActivation_ok hOk
    obtain ⟨hCoherent, hQuiet, hFresh, d', hd', hState', hCheck'⟩ := h.cleared hd hState
    have hCleared := h.spares_cleared hd hState hx hQueue
    let m₁ : Manager := (m.cleared device).undue device
    have hReady : m₁.Coherent A := hCoherent.same ⟨rfl, rfl, rfl, rfl, rfl, rfl, rfl, fun _ => rfl⟩
    have hUndue : Spares x (m.cleared device) m₁ :=
      ⟨rfl, rfl, rfl, fun hDue => (List.mem_filter.mp hDue).1, fun _ => rfl⟩
    have hIdle : d'.state.isActive = false := by rw [hState']; rfl
    have hNone := hReady.free hd' hIdle (queueOf_nil hQuiet.queue device)
    obtain ⟨hLaunch, hEq⟩ := hReady.toFits.launch_eq
      (m.teardownOn device .userRequested).nextRequest hd' hState'
      { connection, path, specific, userRequested, assumed := false
        timeout := (m.cleared device).activationTimeout, nowait := false }
      ((hCheck' connection).trans hCheck)
    obtain ⟨-, -, hSite⟩ := hReady.toFits.joined hd' hNone.1 (queueOf_nil hQuiet.queue device) hLaunch
      ⟨hFresh.requests, hFresh.calls, hFresh.bound⟩
    rw [activate_eq hFound hd hOk hd']
    refine (hCleared.trans hUndue).trans ?_
    show Spares x m₁ (m₁.launch _ d' _).1
    rw [hEq]
    have hJoined : Spares x m₁ (Manager.joined m₁ _ _ _) :=
      .of_site (by rw [hSite x, if_neg hx]) fun hDue => hDue
    exact (hJoined.trans ((same_publish _ fun _ => rfl).spares fun hDue => hDue)).trans
      ((same_publish _ fun _ => rfl).spares fun hDue => hDue)

theorem Coherent.spares_startPending (h : m.Coherent A) (hx : x ≠ id) (hQueue : m.queueOf x = []) :
    Spares x m (m.startPending id) := by
  have hFlag := spares_modifyDevice m hx (f := fun d => { d with activationScheduled := false })
    fun _ => rfl
  have hCoherent := h.modifyDevice id (f := fun d => { d with activationScheduled := false })
    fun d => ⟨⟨rfl, rfl, rfl, rfl, fun _ => rfl, rfl⟩, rfl, fun h => ⟨h.stop, h.managed, h.hardware⟩⟩
  have hNone := hFlag.queue.trans hQueue
  unfold Manager.startPending
  generalize m.modifyDevice id (fun d => { d with activationScheduled := false }) = m₁
    at hFlag hCoherent hNone ⊢
  refine hFlag.trans ?_
  unfold Manager.autoActivate
  split
  · exact .refl x m₁
  · split
    · exact .refl x m₁
    · split
      · exact .refl x m₁
      · split
        · exact .refl x m₁
        · exact hCoherent.spares_activate hx hNone _ _ _ _

/-- The manager settles. -/
theorem Coherent.spares_settle (h : m.Coherent A) (hQueue : m.queueOf x = [])
    (hNotDue : x ∉ m.pending) : Spares x m m.settle := by
  have hPump := h.spares_pump hQueue
  obtain ⟨hPumped, hQuiet⟩ := h.pump
  refine Spares.trans ?_ ((same_updateState _).spares fun hDue =>
    (rests_updateState _).pending ▸ hDue)
  unfold Manager.roundBound Manager.settleRounds
  dsimp only
  split
  · exact hPump
  · let m₁ : Manager := { m.pump with pending := [] }
    have hTaken : Spares x m m₁ :=
      ⟨hPump.device, hPump.orphan, hPump.queue, fun hDue => absurd hDue List.not_mem_nil,
        hPump.request⟩
    have hCalm : m₁.Calm := by
      refine ⟨fun e he => ?_, rfl⟩
      rw [show m₁.queue = [] from hQuiet.queue] at he
      cases he
    have hCoherent : m₁.Coherent A :=
      hPumped.same ⟨rfl, rfl, rfl, rfl, rfl, rfl, rfl, fun _ => rfl⟩
    have hStep : ∀ id due m', m'.Coherent A ∧ m'.Calm ∧ Spares x m m' ∧ x ∉ id :: due →
        (m'.startPending id).Coherent A ∧ (m'.startPending id).Calm ∧
          Spares x m (m'.startPending id) ∧ x ∉ due := by
      rintro id due m' ⟨hCoherent, hCalm, hSpares, hNot⟩
      obtain ⟨hNext, hNextCalm⟩ := hCoherent.startPending hCalm id
      have hOther : x ≠ id := fun hx => hNot (hx ▸ List.mem_cons_self)
      have hStarted := hCoherent.spares_startPending hOther (hSpares.queue.trans hQueue)
      exact ⟨hNext, hNextCalm, hSpares.trans hStarted, fun hIn => hNot (List.mem_cons_of_mem id hIn)⟩
    obtain ⟨hStarted, hCalmStarted, hSpares, -⟩ := foldl_rest
      (P := fun due m' => m'.Coherent A ∧ m'.Calm ∧ Spares x m m' ∧ x ∉ due) hStep
      m.pump.pending m₁ ⟨hCoherent, hCalm, hTaken, fun hDue => hNotDue (hPump.pending hDue)⟩
    have hAgain := hSpares.trans (hStarted.spares_pump (hSpares.queue.trans hQueue))
    unfold Manager.settleRounds
    dsimp only
    rw [hCalmStarted.pump.pending]
    exact hAgain

end ScannerHub.Manager
