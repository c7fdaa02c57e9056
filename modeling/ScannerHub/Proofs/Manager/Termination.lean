import ScannerHub.Proofs.Manager.Settle

/-!
# Every loop ends

Three loops work off what there is to do: one handles the device events that wait, one lets the
requests look at their events and handles those of the manager until there was none, and one starts
the automatic activations that are due until none is. The numbers that bound them elsewhere are
never reached, whatever the manager is like: no invariant is needed.

An event weighs more than what follows from it. An automatic activation starts on a device that is
disconnected and managed, with a connection that fits it, so it cannot fail at once: after it the
device is on its way, and from the events that tell of this nothing follows. So what one round starts
makes nothing due, and the next round is the last one.

* `Loops` — the run of a loop;
* `Manager.handleNext`, `pumpRound`, `settleRound` — the bodies of the three loops;
* `Manager.startDue` — an automatic activation that is due, noted down if it starts.

## Results

* `loops_handleNext`, `loops_pumpRound` — the first two loops end;
* `Calm.startDue` — what an automatic activation leaves behind;
* `settle_ends` — all three loops end, and settling starts a device at most once.
-/

namespace ScannerHub

-- ---------------------------------------------------------------------------
-- Loops
-- ---------------------------------------------------------------------------

/-- The run of a loop. Its body tells where a round leads, and whether another one follows. -/
inductive Loops {α : Type} (body : α → α × Bool) : α → α → Prop where
  | last {a b : α} (hBody : body a = (b, false)) : Loops body a b
  | again {a b c : α} (hBody : body a = (b, true)) (hRest : Loops body b c) : Loops body a c

theorem Loops.unique {α : Type} {body : α → α × Bool} {a b c : α} (h : Loops body a b)
    (h' : Loops body a c) : b = c := by
  induction h with
  | last hBody =>
    cases h' with
    | last hBody' =>
      rw [hBody] at hBody'
      cases hBody'
      rfl
    | again hBody' =>
      rw [hBody] at hBody'
      cases hBody'
  | again hBody _ ih =>
    cases h' with
    | last hBody' =>
      rw [hBody] at hBody'
      cases hBody'
    | again hBody' hRest =>
      rw [hBody] at hBody'
      cases hBody'
      exact ih hRest

/-- A loop that ends somewhere ends there and nowhere else. -/
theorem Loops.ends {α : Type} {body : α → α × Bool} {a b : α} (h : Loops body a b) (c : α) :
    Loops body a c ↔ c = b :=
  ⟨fun h' => h'.unique h, fun hEq => hEq ▸ h⟩

namespace Manager

variable {m m' : Manager} {id : Nat}

-- ---------------------------------------------------------------------------
-- The queue
-- ---------------------------------------------------------------------------

/-- Handles the next device event, if there is one. -/
def handleNext (m : Manager) : Manager × Bool :=
  match m.queue with
  | [] => (m, false)
  | event :: rest => ({ m with queue := rest }.handleEvent event, true)

theorem loops_drain (n : Nat) (h : m.queueWeight ≤ n) : Loops handleNext m (drain n m) := by
  induction n generalizing m with
  | zero =>
    have hQueue : m.queue = [] := drain_empty 0 h
    refine .last ?_
    unfold handleNext
    rw [hQueue]
    rfl
  | succ n ih =>
    cases hQueue : m.queue with
    | nil =>
      refine .last ?_
      unfold handleNext drain
      rw [hQueue]
    | cons e rest =>
      have hStep := queueWeight_handleEvent { m with queue := rest } e
      have hWeight : m.queueWeight =
          eventWeight e + ({ m with queue := rest } : Manager).queueWeight := by
        unfold queueWeight
        rw [hQueue]
        rfl
      have hDrain : drain (n + 1) m = drain n ({ m with queue := rest }.handleEvent e) := by
        conv => lhs; unfold drain
        rw [hQueue]
      rw [hDrain]
      refine .again ?_ (ih (by omega))
      unfold handleNext
      rw [hQueue]

/-- The events that wait are handled one after the other until none is left. -/
theorem loops_handleNext (m : Manager) : Loops handleNext m (drain m.queueWeight m) :=
  loops_drain m.queueWeight (Nat.le_refl _)

/-- Lets the requests look at their events and handles those of the manager. Another round follows
if there were any. -/
def pumpRound (m : Manager) : Manager × Bool :=
  let m := m.processRequests
  (drain m.queueWeight m, !m.queue.isEmpty)

/-- The second round finds no event. -/
theorem loops_pumpRound (m : Manager) : Loops pumpRound m m.pump := by
  have hLast : ∀ m : Manager, m.processRequests.queue = [] →
      pumpRound m = (m.processRequests, false) := by
    intro m hQueue
    unfold pumpRound queueWeight
    dsimp only
    rw [hQueue]
    rfl
  unfold pump
  dsimp only
  cases hQueue : m.processRequests.queue with
  | nil => exact .last (hLast m hQueue)
  | cons e rest =>
    have hAgain : pumpRound m =
        (drain m.processRequests.queueWeight m.processRequests, true) := by
      unfold pumpRound
      dsimp only
      rw [hQueue]
      rfl
    refine .again hAgain (.last (hLast _ ?_))
    rw [(rests_processRequests _).queue]
    exact drain_empty _ (Nat.le_refl _)

-- ---------------------------------------------------------------------------
-- A calm manager
-- ---------------------------------------------------------------------------

/-- The state of a device, if it is there. -/
def stateOf? (m : Manager) (id : Nat) : Option DeviceState := (m.device? id).map Device.state

theorem devices_handleEvent_calm (m : Manager) {e : DeviceEvent} (he : e.isCalm = true) :
    (m.handleEvent e).devices = m.devices := by
  cases e with
  | needSecrets id need => cases he
  | linkRequested id request => rfl
  | stateChanged id new old reason =>
    change new.isActive = true at he
    have hAnnounced : (m.announced id new old reason).devices = m.devices := by
      unfold announced
      dsimp only
      split <;> rfl
    have hFollow : ((m.announced id new old reason).followState id new reason).devices =
        m.devices := by
      cases new <;> first | cases he; done | exact hAnnounced |
        exact (same_updateTimestamp _ id).devices.trans hAnnounced
    show (Manager.updateState _).devices = _
    rw [he]
    exact (same_updateState _).devices.trans hFollow

/-- Nothing moves a device while nothing follows from the events that wait. -/
theorem Calm.devices_pump (h : m.Calm) : m.pump.devices = m.devices := by
  refine (pump_preserves (P := fun m' => m'.Calm ∧ m'.devices = m.devices) ?_ ?_ ⟨h, rfl⟩).2
  · rintro m' ⟨hCalm, hDevices⟩
    exact ⟨hCalm.rests (rests_processRequests m'), (devices_processRequests m').trans hDevices⟩
  · rintro m' e rest ⟨hCalm, hDevices⟩ hQueue
    have hIn : ∀ f ∈ e :: rest, f.isCalm = true := hQueue ▸ hCalm.queue
    have hRest : Calm { m' with queue := rest } :=
      ⟨fun f hf => hIn f (List.mem_cons_of_mem e hf), hCalm.pending⟩
    exact ⟨hRest.rests (rests_handleEvent_calm _ (hIn e List.mem_cons_self)),
      (devices_handleEvent_calm _ (hIn e List.mem_cons_self)).trans hDevices⟩

/-- A disconnected device that is cleared for an activation stays as it is. -/
theorem Calm.device?_cleared (h : m.Calm) {device : Nat} {d : Device}
    (hNone : m.requestOn? device = none) (hd : m.device? device = some d)
    (hState : d.state = .disconnected) (x : Nat) : (m.cleared device).device? x =
      if x = device then some { d with activationScheduled := false } else m.device? x := by
  have hSame : m.teardownOn device .userRequested = m := by
    unfold Manager.teardownOn
    rw [hNone]
  have hStop : d.deactivate .userRequested =
      ({ d with activationScheduled := false } : Device).unchanged := by
    unfold Device.deactivate
    dsimp only
    rw [hState]
    rfl
  have hStopped : ({ m with nextRequest := m.nextRequest + 1 } : Manager).updateDevice device
      (fun d => d.deactivate .userRequested) =
        ({ m with nextRequest := m.nextRequest + 1 } : Manager).setDevice
          { d with activationScheduled := false } := by
    unfold updateDevice
    rw [show ({ m with nextRequest := m.nextRequest + 1 } : Manager).device? device = some d from hd]
    dsimp only
    rw [hStop]
    exact deliver_nil _ _
  unfold Manager.cleared Manager.halted
  rw [hSame]
  dsimp only
  rw [hStopped]
  have hCalm : (({ m with nextRequest := m.nextRequest + 1 } : Manager).setDevice
      { d with activationScheduled := false }).Calm := h.rests ⟨rfl, rfl⟩
  unfold device?
  rw [hCalm.devices_pump]
  exact device?_setDevice_of (m := { m with nextRequest := m.nextRequest + 1 })
    (e := { d with activationScheduled := false }) hd (device?_eq_some hd).2 x

-- ---------------------------------------------------------------------------
-- An automatic activation
-- ---------------------------------------------------------------------------

/-- The device without the subscribers whose listener is gone. -/
def listened (d : Device) : Device :=
  { d with subscribers := d.subscribers.filter fun s => !s.closed }

/-- The first event of a start drops the subscribers whose listener is gone, so they may as well be
gone before. -/
theorem activate_listened {d : Device} (now : Nat) {c : Connection}
    (hState : d.state = .disconnected) (hCheck : d.check c = .ok ()) :
    (listened d).activate now c = d.activate now c := by
  have hMove : ({ listened d with activationScheduled := false } : Device).moveTo .prepare .none =
      ({ d with activationScheduled := false } : Device).moveTo .prepare .none := by
    unfold Device.moveTo Device.announce listened
    dsimp only
    rw [hState, List.filter_filter]
    simp only [Bool.and_self]
    rfl
  rw [Device.activate_of_fit now hState hCheck,
    Device.activate_of_fit (d := listened d) now hState hCheck, hMove]

/-- An activation that fits a disconnected, managed device starts, whatever else the manager holds,
and nothing follows from its events. -/
theorem Calm.launch (h : m.Calm) (number : Nat) {device : Nat} {d : Device}
    (hd : m.device? device = some d) (hState : d.state = .disconnected)
    (hManaged : d.managed = true) (spec : RequestSpec) (hCheck : d.check spec.connection = .ok ()) :
    (m.launch number d spec).2 = .ok number ∧ (m.launch number d spec).1.Calm ∧
      (m.launch number d spec).1.stateOf? device ≠ some .disconnected ∧
      ∀ x, x ≠ device → (m.launch number d spec).1.stateOf? x = m.stateOf? x := by
  obtain ⟨hFrame, hSame, -⟩ := frame_readied d spec.userRequested
  let s := m.starting number d spec
  let u := s.2.activate m.now s.1.connection
  have hReady : s.2.state = .disconnected := hSame.trans hState
  have hFits : s.2.check s.1.connection = .ok () := (hFrame.check _).trans hCheck
  have hListen : (listened s.2).AllListen := fun x hx => by
    simpa using (List.mem_filter.mp hx).2
  have hReadyManaged : (readied d spec.userRequested).managed = d.managed := by
    unfold readied
    dsimp only
    split <;> rfl
  have hStarts : Device.Starts (listened s.2) u := by
    have hListened := Device.starts_of_managed m.now s.1.connection hListen
      (hReadyManaged.trans hManaged) hReady hFits
    rw [activate_listened m.now hReady hFits] at hListened
    exact hListened
  have hId : u.device.id = device :=
    (hStarts.frame.id.trans hFrame.id).trans (device?_eq_some hd).2
  rw [launch_of_accepted hStarts.accepted]
  have hDevice : ∀ x, ((m.joined s.1 s.2.listeners u).publish
      (.activeConnectionAdded number)).device? x = if x = device then some u.device else m.device? x :=
    fun x => device?_setDevice_of hd hId x
  refine ⟨rfl, ⟨?_, h.pending⟩, ?_, ?_⟩
  · show ∀ e ∈ (if Listener.manager ∈ s.2.listeners then m.queue ++ u.events else m.queue), _
    split
    · intro e he
      rcases List.mem_append.mp he with he | he
      · exact h.queue e he
      · exact calm_of_starts hStarts e he
    · exact h.queue
  · show (Manager.device? _ device).map _ ≠ _
    erw [hDevice device]
    rw [if_pos rfl]
    rcases hStarts.rests with hConfig | hActivated
    · simp [hConfig]
    · simp [hActivated]
  · intro x hx
    show (Manager.device? _ x).map _ = _
    erw [hDevice x]
    rw [if_neg hx]
    rfl

/-- An activation of a disconnected, managed device without a request fails before it touches
anything, or it starts. -/
theorem Calm.activate (h : m.Calm) {device : Nat} {d : Device}
    (hNone : m.requestOn? device = none) (hd : m.device? device = some d)
    (hState : d.state = .disconnected) (hManaged : d.managed = true) (scope : Scope) (path : String)
    (specific : Option String) (userRequested : Bool) :
    (∃ e, m.activate device scope path specific userRequested = (m, .error e)) ∨
      (∃ number, (m.activate device scope path specific userRequested).2 = .ok number) ∧
        (m.activate device scope path specific userRequested).1.Calm ∧
        (m.activate device scope path specific userRequested).1.stateOf? device ≠
          some .disconnected ∧
        ∀ x, x ≠ device →
          (m.activate device scope path specific userRequested).1.stateOf? x = m.stateOf? x := by
  rcases m.activate_cases device scope path specific userRequested with
    hFailed | ⟨connection, d₀, hFound, hd₀, hOk⟩
  · exact Or.inl hFailed
  · rw [hd] at hd₀
    cases hd₀
    have hThere := h.device?_cleared hNone hd hState
    have hHere := hThere device
    rw [if_pos rfl] at hHere
    have hCleared := h.cleared hNone fun e he => by
      rw [hd] at he
      cases he
      exact hState
    have hCalm : Calm { m.cleared device with
        pending := (m.cleared device).pending.filter fun p => p != device } :=
      ⟨hCleared.queue, by rw [hCleared.pending]; rfl⟩
    obtain ⟨hNumber, hAfter, hMoved, hAway⟩ := hCalm.launch
      (m.teardownOn device .userRequested).nextRequest hHere hState hManaged
      { connection, path, specific, userRequested, assumed := false
        timeout := (m.cleared device).activationTimeout, nowait := false }
      (checkActivation_ok hOk).2
    rw [activate_eq hFound hd hOk hHere]
    refine Or.inr ⟨⟨_, hNumber⟩, hAfter, hMoved, fun x hx => (hAway x hx).trans ?_⟩
    refine congrArg (Option.map Device.state) ((hThere x).trans ?_)
    rw [if_neg hx]

/-- What the manager does when an automatic activation may start on a device, and the number of the
request if one starts. -/
def autoStart (m : Manager) (id : Nat) : Manager × Option Nat :=
  if m.isAsleep || (m.requestOn? id).isSome then (m, none)
  else match m.device? id with
    | none => (m, none)
    | some d =>
      if !d.autoconnectAllowed then (m, none)
      else match m.autoChoice? d with
        | none => (m, none)
        | some (scope, path) =>
          let started := m.activate id scope path none false
          (started.1, started.2.toOption)

theorem autoStart_fst (m : Manager) (id : Nat) : (m.autoStart id).1 = m.autoActivate id := by
  unfold autoStart autoActivate
  split
  · rfl
  · cases m.device? id with
    | none => rfl
    | some d =>
      dsimp only
      split
      · rfl
      · cases m.autoChoice? d <;> rfl

/-- No automatic activation starts, or one starts on a device that was disconnected, and is so no
more. Either way nothing follows. -/
theorem Calm.autoStart (h : m.Calm) (id : Nat) :
    m.autoStart id = (m, none) ∨
      m.stateOf? id = some .disconnected ∧ (m.autoStart id).1.Calm ∧
        (m.autoStart id).1.stateOf? id ≠ some .disconnected ∧
        ∀ x, x ≠ id → (m.autoStart id).1.stateOf? x = m.stateOf? x := by
  unfold Manager.autoStart
  split
  · exact Or.inl rfl
  · rename_i hFree
    rw [Bool.or_eq_true, not_or] at hFree
    have hNone := Option.not_isSome_iff_eq_none.mp hFree.2
    cases hd : m.device? id with
    | none => exact Or.inl rfl
    | some d =>
      dsimp only
      split
      · exact Or.inl rfl
      · rename_i hAllowed
        rw [Bool.not_eq_true', Bool.not_eq_false, Device.autoconnectAllowed_iff] at hAllowed
        obtain ⟨hManaged, -, hState, -⟩ := hAllowed
        split
        · exact Or.inl rfl
        · rename_i scope path _
          rcases h.activate hNone hd hState hManaged scope path none false with
            ⟨e, hFailed⟩ | ⟨-, hAfter, hMoved, hAway⟩
          · rw [hFailed]
            exact Or.inl rfl
          · refine Or.inr ⟨?_, hAfter, hMoved, hAway⟩
            unfold stateOf?
            rw [hd]
            exact congrArg some hState

/-- Looks whether an automatic activation starts on a device where one was due, and adds the device
to those on which one started if it does. -/
def startDue (s : Manager × List Nat) (id : Nat) : Manager × List Nat :=
  let (m, number) :=
    (s.1.modifyDevice id fun d => { d with activationScheduled := false }).autoStart id
  (m, if number.isSome then s.2 ++ [id] else s.2)

theorem startDue_fst (s : Manager × List Nat) (id : Nat) :
    (startDue s id).1 = s.1.startPending id := autoStart_fst _ id

theorem foldl_startDue_fst (due : List Nat) (s : Manager × List Nat) :
    (due.foldl startDue s).1 = due.foldl startPending s.1 := by
  induction due generalizing s with
  | nil => rfl
  | cons id due ih =>
    rw [List.foldl_cons, List.foldl_cons, ih, startDue_fst]

/-- Each device on which an activation started is there once, and has moved on. -/
structure Noted (s : Manager × List Nat) : Prop where
  calm : s.1.Calm
  once : s.2.Nodup
  moved : ∀ id ∈ s.2, s.1.stateOf? id ≠ some .disconnected

/-- A flag of a device is no part of its state. -/
theorem stateOf?_modifyDevice (m : Manager) (id : Nat) {f : Device → Device}
    (hf : ∀ d, (f d).id = d.id ∧ (f d).state = d.state) (x : Nat) :
    (m.modifyDevice id f).stateOf? x = m.stateOf? x := by
  unfold Manager.modifyDevice
  cases hd : m.device? id with
  | none => rfl
  | some d =>
    have hThere := device?_setDevice_of hd ((hf d).1.trans (device?_eq_some hd).2) x
    refine (congrArg (Option.map Device.state) hThere).trans ?_
    by_cases hx : x = id
    · rw [if_pos hx, hx]
      unfold stateOf?
      rw [hd]
      exact congrArg some (hf d).2
    · rw [if_neg hx]
      rfl

theorem Noted.startDue {s : Manager × List Nat} (h : Noted s) (id : Nat) : Noted (startDue s id) := by
  have hFlag := stateOf?_modifyDevice s.1 id (f := fun d => { d with activationScheduled := false })
    fun d => ⟨rfl, rfl⟩
  have hCalm := h.calm.rests
    (rests_modifyDevice s.1 id fun d => { d with activationScheduled := false })
  unfold Manager.startDue
  generalize s.1.modifyDevice id (fun d => { d with activationScheduled := false }) = m at hFlag hCalm
  rcases hCalm.autoStart id with hNot | ⟨hFree, hAfter, hMoved, hAway⟩
  · rw [hNot]
    exact ⟨hCalm, h.once, fun x hx => hFlag x ▸ h.moved x hx⟩
  · have hNew : id ∉ s.2 := fun hIn => h.moved id hIn ((hFlag id).symm.trans hFree)
    have hOld : ∀ x ∈ s.2, (m.autoStart id).1.stateOf? x ≠ some .disconnected := by
      intro x hx
      rw [hAway x fun hEq => hNew (hEq ▸ hx), hFlag]
      exact h.moved x hx
    refine ⟨hAfter, ?_, ?_⟩
    · dsimp only
      split
      · exact List.nodup_append.mpr ⟨h.once, List.pairwise_singleton _ _, fun x hx y hy hEq =>
          hNew (List.mem_singleton.mp hy ▸ hEq ▸ hx)⟩
      · exact h.once
    · dsimp only
      split
      · intro x hx
        rcases List.mem_append.mp hx with hx | hx
        · exact hOld x hx
        · rw [List.mem_singleton.mp hx]
          exact hMoved
      · exact hOld

-- ---------------------------------------------------------------------------
-- Settling
-- ---------------------------------------------------------------------------

/-- Works off the queues and starts what is due. Another round follows if anything was due. The
devices on which an activation started are noted. -/
def settleRound (s : Manager × List Nat) : (Manager × List Nat) × Bool :=
  let m := s.1.pump
  (m.pending.foldl startDue ({ m with pending := [] }, s.2), !m.pending.isEmpty)

/-- Nothing waits in the queue once it was worked off, whatever the manager is like. -/
theorem queue_pump (m : Manager) : m.pump.queue = [] := by
  unfold pump
  dsimp only
  split
  · rename_i hEmpty
    exact List.isEmpty_iff.mp hEmpty
  · rw [(rests_processRequests _).queue]
    exact drain_empty _ (Nat.le_refl _)

/-- A manager is calm when it takes up what is due. -/
theorem calm_taken (m : Manager) : Calm { m.pump with pending := [] } :=
  ⟨by rw [show ({ m.pump with pending := [] } : Manager).queue = [] from m.queue_pump]; nofun, rfl⟩

/-- Nothing is due after the first round, whatever the manager is like. -/
theorem noted_settleRound (m : Manager) : Noted (settleRound (m, [])).1 :=
  foldl_rest (P := fun _ s => Noted s) (fun id _ _ h => h.startDue id) m.pump.pending _
    ⟨m.calm_taken, List.nodup_nil, nofun⟩

/-- Every loop ends, whatever the manager is like: the one that handles the device events that
wait, the one that works off all queues, and the one that settles. Settling starts an automatic
activation on a device at most once. -/
theorem settle_ends (m : Manager) :
    (∀ m', Loops handleNext m m' ↔ m' = drain m.queueWeight m) ∧
      (∀ m', Loops pumpRound m m' ↔ m' = m.pump) ∧
        ∃ m' started, (∀ s, Loops settleRound (m, []) s ↔ s = (m', started)) ∧
          started.Nodup ∧ m.settle = m'.updateState := by
  refine ⟨m.loops_handleNext.ends, m.loops_pumpRound.ends, ?_⟩
  have hSame : ∀ m : Manager, m.pending = [] → { m with pending := [] } = m :=
    fun m h => by rw [← h]
  have hLast : ∀ s : Manager × List Nat, s.1.pump.pending = [] →
      settleRound s = ((s.1.pump, s.2), false) := by
    intro s hPending
    unfold settleRound
    dsimp only
    rw [hSame _ hPending, hPending]
    rfl
  cases hPending : m.pump.pending with
  | nil =>
    refine ⟨m.pump, [], (Loops.last (hLast (m, []) hPending)).ends, List.nodup_nil, ?_⟩
    unfold Manager.settle Manager.roundBound Manager.settleRounds
    dsimp only
    rw [hPending]
    rfl
  | cons id due =>
    -- what the first round starts makes nothing due
    have hNoted := m.noted_settleRound
    have hAgain : settleRound (m, []) = ((settleRound (m, [])).1, true) := by
      refine Prod.ext rfl ?_
      show (!m.pump.pending.isEmpty) = true
      rw [hPending]
      rfl
    have hFirst : (settleRound (m, [])).1.1 =
        m.pump.pending.foldl startPending { m.pump with pending := [] } :=
      foldl_startDue_fst _ _
    refine ⟨(settleRound (m, [])).1.1.pump, (settleRound (m, [])).1.2,
      (Loops.again hAgain (.last (hLast _ hNoted.calm.pump.pending))).ends, hNoted.once, ?_⟩
    unfold Manager.settle Manager.roundBound Manager.settleRounds
    dsimp only
    rw [← hFirst, if_neg (by rw [hPending]; exact Bool.false_ne_true)]
    unfold Manager.settleRounds
    dsimp only
    rw [hNoted.calm.pump.pending]
    rfl

end Manager

end ScannerHub
