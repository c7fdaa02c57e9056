import ScannerHub.Proofs.Manager.Runs

/-!
# Terms

Some of what the manager goes by it never changes itself: who may use it, how long an activation
may take, and what time it is. Only the clock changes the time.

* `Manager.terms` — the terms of a manager.

## Results

* `terms_settle` — the terms stay while the manager settles;
* `terms_operate`, `run_allowed` — they stay in every operation but those of the clock, and who may
  use the manager stays in every run.
-/

namespace ScannerHub

/-- What the manager goes by and never changes itself. -/
structure Terms where
  allowed : List Nat
  activationTimeout : Option Nat
  now : Nat

namespace Manager

variable {m : Manager}

/-- The terms of a manager. -/
def terms (m : Manager) : Terms :=
  { allowed := m.allowed, activationTimeout := m.activationTimeout, now := m.now }

theorem terms_foldl {α : Type} (step : Manager → α → Manager)
    (hStep : ∀ m a, (step m a).terms = m.terms) (xs : List α) (m : Manager) :
    (xs.foldl step m).terms = m.terms := by
  induction xs generalizing m with
  | nil => rfl
  | cons a xs ih => exact (ih _).trans (hStep m a)

-- ---------------------------------------------------------------------------
-- Elementary changes
-- ---------------------------------------------------------------------------

@[simp] theorem terms_publish (m : Manager) (event : ManagerEvent) :
    (m.publish event).terms = m.terms := rfl

@[simp] theorem terms_perform (m : Manager) (effects : List Effect) :
    (m.perform effects).terms = m.terms := rfl

@[simp] theorem terms_setDevice (m : Manager) (d : Device) : (m.setDevice d).terms = m.terms := rfl

@[simp] theorem terms_setRequest (m : Manager) (r : Request) :
    (m.setRequest r).terms = m.terms := rfl

@[simp] theorem terms_deliver (m : Manager) (listeners : List Listener)
    (events : List DeviceEvent) : (m.deliver listeners events).terms = m.terms := rfl

@[simp] theorem terms_dropOrphan (m : Manager) (id : Nat) : (m.dropOrphan id).terms = m.terms := rfl

@[simp] theorem terms_addOrphan (m : Manager) (id : Nat) (o : Orphan) :
    (m.addOrphan id o).terms = m.terms := rfl

@[simp] theorem terms_setCache (m : Manager) (scope : Scope) (cache : ConnectionCache) :
    (m.setCache scope cache).terms = m.terms := by
  cases scope <;> rfl

@[simp] theorem terms_updateState (m : Manager) : m.updateState.terms = m.terms := by
  unfold updateState
  split <;> rfl

@[simp] theorem terms_updateDevice (m : Manager) (id : Nat) (f : Device → Update) :
    (m.updateDevice id f).terms = m.terms := by
  unfold updateDevice
  split <;> rfl

@[simp] theorem terms_modifyDevice (m : Manager) (id : Nat) (f : Device → Device) :
    (m.modifyDevice id f).terms = m.terms := by
  unfold modifyDevice
  split <;> rfl

@[simp] theorem terms_markInvalid (m : Manager) (uuid : String) :
    (m.markInvalid uuid).terms = m.terms := by
  unfold markInvalid
  split <;> rfl

@[simp] theorem terms_teardown (m : Manager) (id : Nat) (reason : StateReason) :
    (m.teardown id reason).terms = m.terms := by
  unfold teardown
  split
  · rfl
  · simp only [terms_publish, terms_perform, terms_modifyDevice]
    rfl

@[simp] theorem terms_teardownOn (m : Manager) (id : Nat) (reason : StateReason) :
    (m.teardownOn id reason).terms = m.terms := by
  unfold teardownOn
  split <;> simp

-- ---------------------------------------------------------------------------
-- Settling
-- ---------------------------------------------------------------------------

@[simp] theorem terms_schedule (m : Manager) (id : Nat) : (m.schedule id).terms = m.terms := by
  unfold schedule
  split
  · rfl
  · split
    · rfl
    · split <;> rfl

@[simp] theorem terms_scheduleAll (m : Manager) : m.scheduleAll.terms = m.terms :=
  terms_foldl _ (fun m (d : Device) => terms_schedule m d.id) m.devices m

@[simp] theorem terms_failUnansweredAuth (m : Manager) (id : Nat) :
    (m.failUnansweredAuth id).terms = m.terms := by
  unfold failUnansweredAuth
  split <;> simp

@[simp] theorem terms_updateTimestamp (m : Manager) (id : Nat) :
    (m.updateTimestamp id).terms = m.terms := by
  unfold updateTimestamp
  split
  · rfl
  · dsimp only
    split <;> simp

@[simp] theorem terms_failOrphan (m : Manager) (id : Nat) : (m.failOrphan id).terms = m.terms := by
  unfold failOrphan
  split
  · rfl
  · dsimp only
    split <;> simp

@[simp] theorem terms_failRequest (m : Manager) (id : Nat) (reason : StateReason) :
    (m.failRequest id reason).terms = m.terms := by
  unfold failRequest
  split
  · rfl
  · dsimp only
    split <;> simp

@[simp] theorem terms_followState (m : Manager) (id : Nat) (new : DeviceState)
    (reason : StateReason) : (m.followState id new reason).terms = m.terms := by
  unfold followState activationFailed
  split <;> simp

@[simp] theorem terms_handleEvent (m : Manager) (e : DeviceEvent) :
    (m.handleEvent e).terms = m.terms := by
  cases e with
  | stateChanged id new old reason =>
    unfold handleEvent
    dsimp only
    split <;> split <;> simp
  | needSecrets id need => exact terms_failUnansweredAuth m id
  | linkRequested id request => rfl

@[simp] theorem terms_processRequest (m : Manager) (id : Nat) :
    (m.processRequest id).terms = m.terms := by
  unfold processRequest
  split
  · rfl
  · dsimp only
    split <;> simp

@[simp] theorem terms_processRequests (m : Manager) : m.processRequests.terms = m.terms :=
  terms_foldl _ (fun m (r : Request) => terms_processRequest m r.id) m.requests m

theorem terms_drain (n : Nat) (m : Manager) : (drain n m).terms = m.terms := by
  induction n generalizing m with
  | zero => rfl
  | succ n ih =>
    unfold drain
    split
    · rfl
    · exact (ih _).trans (terms_handleEvent _ _)

@[simp] theorem terms_pump (m : Manager) : m.pump.terms = m.terms := by
  unfold pump
  dsimp only
  split <;> simp [terms_drain]

@[simp] theorem terms_launch (m : Manager) (number : Nat) (d : Device) (spec : RequestSpec) :
    (m.launch number d spec).1.terms = m.terms := by
  unfold launch register
  dsimp only
  split
  · simp
  · simp only [terms_publish, terms_deliver]
    rfl

@[simp] theorem terms_cleared (m : Manager) (device : Nat) :
    (m.cleared device).terms = m.terms := by
  unfold cleared halted
  dsimp only
  rw [terms_pump, terms_updateDevice]
  exact terms_teardownOn m device .userRequested

@[simp] theorem terms_activate (m : Manager) (device : Nat) (scope : Scope) (path : String)
    (specific : Option String) (userRequested : Bool) :
    (m.activate device scope path specific userRequested).1.terms = m.terms := by
  rcases m.activate_cases device scope path specific userRequested with
    ⟨e, hFailed⟩ | ⟨connection, d, hFound, hd, hOk⟩
  · rw [hFailed]
  · unfold activate
    rw [hFound, hd]
    dsimp only
    rw [hOk]
    dsimp only
    split
    · exact terms_cleared m device
    · exact (terms_launch _ _ _ _).trans (terms_cleared m device)

@[simp] theorem terms_startPending (m : Manager) (id : Nat) :
    (m.startPending id).terms = m.terms := by
  unfold startPending autoActivate
  split
  · simp
  · split
    · simp
    · split
      · simp
      · split <;> simp

theorem terms_settleRounds (n : Nat) (m : Manager) : (settleRounds n m).terms = m.terms := by
  induction n generalizing m with
  | zero => rfl
  | succ n ih =>
    unfold settleRounds
    dsimp only
    split
    · simp
    · rw [ih, terms_foldl _ terms_startPending]
      exact terms_pump m

/-- The terms stay while the manager settles. -/
@[simp] theorem terms_settle (m : Manager) : m.settle.terms = m.terms := by
  unfold settle
  rw [terms_updateState, terms_settleRounds]

-- ---------------------------------------------------------------------------
-- Operations
-- ---------------------------------------------------------------------------

theorem terms_addDevice (m : Manager) (d : Device) : (m.addDevice d).1.terms = m.terms := by
  unfold addDevice
  split
  · rfl
  · dsimp only
    rw [terms_settle]
    split
    · rfl
    · exact terms_updateDevice _ _ _

theorem terms_removeDevice (m : Manager) (id : Nat) : (m.removeDevice id).terms = m.terms := by
  unfold removeDevice
  dsimp only
  rw [terms_settle]
  split
  · exact (terms_pump _).trans (by simp)
  · simp

theorem terms_connectionRemoved (m : Manager) (scope : Scope) (path : String) :
    (m.connectionRemoved scope path).terms = m.terms := by
  obtain hEq | hEq := m.connectionRemoved_cases scope path
  · rw [hEq]
  · rw [hEq, terms_settle]
    refine (terms_foldl _ (fun m r => ?_) _ _).trans (terms_setCache m scope _)
    simp

theorem terms_setServiceRunning (m : Manager) (scope : Scope) (running : Bool) :
    (m.setServiceRunning scope running).terms = m.terms := by
  unfold setServiceRunning
  split
  · rfl
  · dsimp only
    rw [terms_settle, terms_scheduleAll]
    split
    · simp
    · exact (terms_foldl _ (fun m p => terms_connectionRemoved m scope p) _ _).trans (by simp)

theorem terms_connectionAdded (m : Manager) (scope : Scope) (path : String) (settings : Settings) :
    (m.connectionAdded scope path settings).1.terms = m.terms := by
  unfold connectionAdded
  split <;> simp

theorem terms_connectionUpdated (m : Manager) (scope : Scope) (path : String)
    (settings : Settings) : (m.connectionUpdated scope path settings).terms = m.terms := by
  unfold connectionUpdated
  dsimp only
  split
  · exact terms_connectionAdded m scope path settings
  · split
    · exact terms_connectionRemoved m scope path
    · rw [terms_settle, terms_scheduleAll]
      exact terms_setCache m scope _

theorem terms_activateConnection (m : Manager) (uid : Nat) (service path device : String)
    (specific : Option String) :
    (m.activateConnection uid service path device specific).1.terms = m.terms := by
  unfold activateConnection
  split
  · rfl
  · split
    · rfl
    · rename_i scope _
      split
      · rfl
      · rename_i id _
        have hStarted := terms_activate m id scope path
          (specific.filter fun p => !p.isEmpty && p != "/") true
        dsimp only
        split
        · rename_i hActivate
          rwa [hActivate] at hStarted
        · rename_i hActivate
          rw [hActivate] at hStarted
          exact (terms_settle _).trans hStarted

theorem terms_deactivateConnection (m : Manager) (uid : Nat) (active : String) :
    (m.deactivateConnection uid active).1.terms = m.terms := by
  unfold deactivateConnection
  split
  · rfl
  · split <;> simp

theorem terms_secretsReply (m : Manager) (call : SecretsCall) (answer : Except Error Settings) :
    (m.secretsReply call answer).terms = m.terms := by
  obtain hEq | hEq | ⟨r, r', effects, f, -, -, hEq⟩ := m.secretsReply_cases call answer
  · rw [hEq]
  · rw [hEq, terms_settle]
  · rw [hEq]
    simp

theorem terms_linkChanged (m : Manager) (device : Nat) (up : Bool) :
    (m.linkChanged device up).terms = m.terms := by
  unfold linkChanged
  dsimp only
  split <;> simp

theorem terms_expireRequest (m : Manager) (id : Nat) : (m.expireRequest id).terms = m.terms := by
  unfold expireRequest
  split
  · rfl
  · dsimp only
    split <;> simp

theorem terms_processTimeoutsAt (m : Manager) (moment : Nat) :
    (m.processTimeoutsAt moment).terms = m.terms := by
  unfold processTimeoutsAt
  dsimp only
  rw [terms_settle]
  refine (terms_foldl _ (fun m (d : Device) => terms_updateDevice m d.id _) _ _).trans ?_
  refine (terms_foldl _ terms_expireRequest _ _).trans ?_
  exact terms_foldl _ (fun m r => by simp) m.requests m

theorem terms_applySwitches (m : Manager) : m.applySwitches.terms = m.terms := by
  unfold applySwitches
  dsimp only
  rw [terms_settle]
  split
  · refine (terms_foldl _ (fun m (d : Device) => terms_updateDevice m d.id _) _ _).trans ?_
    exact terms_foldl _ (fun m (r : Request) => terms_teardown m r.id _) _ _
  · exact terms_foldl _ (fun m (d : Device) => terms_updateDevice m d.id _) _ _

theorem terms_setSleeping (m : Manager) (uid : Nat) (sleeping : Bool) :
    (m.setSleeping uid sleeping).1.terms = m.terms := by
  unfold setSleeping
  split
  · rfl
  · split
    · rfl
    · exact terms_applySwitches _

theorem terms_setEnabled (m : Manager) (uid : Nat) (enabled : Bool) :
    (m.setEnabled uid enabled).1.terms = m.terms := by
  unfold setEnabled
  split
  · rfl
  · split
    · rfl
    · exact terms_applySwitches _

theorem terms_shutdown (m : Manager) : m.shutdown.terms = m.terms := by
  unfold shutdown
  dsimp only
  refine (terms_foldl _ (fun m (d : Device) => terms_publish m (.deviceRemoved d.id)) _ _).trans ?_
  exact terms_foldl _ (fun m (r : Request) => terms_teardown m r.id _) m.requests m

/-- The terms stay in every operation but those of the clock. -/
theorem terms_operate (m : Manager) {operation : Operation}
    (hNe : ∀ now, operation ≠ .setClock now) :
    (m.operate operation).terms = m.terms := by
  cases operation with
  | @addDevice d hNew => exact terms_addDevice m d
  | removeDevice id => exact terms_removeDevice m id
  | removeDeviceByInterface interface =>
    show (m.removeDeviceByInterface interface).1.terms = m.terms
    unfold removeDeviceByInterface
    split
    · rfl
    · exact terms_removeDevice m _
  | setFirmwareMissing interface missing =>
    show (m.setFirmwareMissing interface missing).1.terms = m.terms
    unfold setFirmwareMissing
    split <;> simp
  | setServiceRunning scope running => exact terms_setServiceRunning m scope running
  | connectionAdded scope path settings => exact terms_connectionAdded m scope path settings
  | connectionUpdated scope path settings => exact terms_connectionUpdated m scope path settings
  | connectionRemoved scope path => exact terms_connectionRemoved m scope path
  | activateConnection uid service path device specific =>
    exact terms_activateConnection m uid service path device specific
  | deactivateConnection uid active => exact terms_deactivateConnection m uid active
  | wait request waiter =>
    show (m.wait request waiter).1.terms = m.terms
    unfold wait
    split <;> rfl
  | setRequestDefault request default default6 =>
    show (m.setRequestDefault request default default6).terms = m.terms
    unfold setRequestDefault
    split
    · rfl
    · dsimp only
      split <;> rfl
  | secretsReply call answer => exact terms_secretsReply m call answer
  | linkChanged device up => exact terms_linkChanged m device up
  | processTimeouts moment => exact terms_processTimeoutsAt m moment
  | setSleeping uid sleeping => exact terms_setSleeping m uid sleeping
  | setEnabled uid enabled => exact terms_setEnabled m uid enabled
  | settle => exact terms_settle m
  | updateState => exact terms_updateState m
  | shutdown => exact terms_shutdown m
  | setClock now => exact absurd rfl (hNe now)

/-- Who may use the manager stays in every run. -/
theorem run_allowed (m : Manager) (operations : List Operation) :
    (m.run operations).allowed = m.allowed := by
  induction operations generalizing m with
  | nil => rfl
  | cons operation operations ih =>
    refine (ih (m.operate operation)).trans ?_
    by_cases hClock : ∃ now, operation = .setClock now
    · obtain ⟨now, rfl⟩ := hClock
      rfl
    · exact congrArg Terms.allowed (terms_operate m fun now hEq => hClock ⟨now, hEq⟩)

end Manager

end ScannerHub
