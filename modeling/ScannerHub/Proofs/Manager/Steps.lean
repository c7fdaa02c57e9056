import ScannerHub.Proofs.Device.Constancy
import ScannerHub.Proofs.Manager.Continuity

/-!
# Steps

A change tells what may happen in a manager that is in order. A step is smaller, and says what an
operation does to the very last field of a request: which function was applied, to what, and nothing
of an invariant. Whatever one step leaves alone a whole operation leaves alone, so a property of
requests or devices is proved once for each kind of step.

Most operations take the same kinds of steps. What only some of them do is a deed, and a step that is
one needs the leave to do it.

* `Deed`, `Operation.May` — what only some operations do;
* `Manager.Step`, `Manager.Steps` — the kinds of steps, and sequences of them.

## Results

* `steps_pump`, `steps_activate`, `steps_settle` — what follows of itself is done without any deed;
* `Settled.operate_steps` — every operation is a sequence of steps, with the deeds that it may do;
* `Steps.lasts` — what becomes of a device in a sequence of steps.
-/

namespace ScannerHub

/-- What only some operations do. -/
inductive Deed where
  /-- A device becomes managed, or is not managed any more. -/
  | manages
  | arrives
  | departs (id : Nat)
  /-- The default flags of a request are set. -/
  | marks
  /-- A call for secrets gets its answer. -/
  | answers (call : SecretsCall)

/-- Which operation may do what. -/
inductive Operation.May : Operation → Deed → Prop where
  | comes {d : Device} (hNew : d.IsNew) : May (.addDevice hNew) .arrives
  | managed {d : Device} (hNew : d.IsNew) : May (.addDevice hNew) .manages
  | released (id : Nat) : May (.removeDevice id) .manages
  | goes (id : Nat) : May (.removeDevice id) (.departs id)
  | unplugged (interface : String) : May (.removeDeviceByInterface interface) .manages
  | vanishes (interface : String) (id : Nat) :
    May (.removeDeviceByInterface interface) (.departs id)
  | sleeps (uid : Nat) (sleeping : Bool) : May (.setSleeping uid sleeping) .manages
  | enables (uid : Nat) (enabled : Bool) : May (.setEnabled uid enabled) .manages
  | ends (id : Nat) : May .shutdown (.departs id)
  | marks (request : Nat) (default default6 : Bool) :
    May (.setRequestDefault request default default6) .marks
  | answers (call : SecretsCall) (answer : Except Error Settings) :
    May (.secretsReply call answer) (.answers call)

namespace Manager

variable {A : Nat → String → Prop} {K : Deed → Prop} {m m' m'' : Manager} {id : Nat}

-- ---------------------------------------------------------------------------
-- The kinds of steps
-- ---------------------------------------------------------------------------

/-- The kinds of steps. -/
inductive Step (K : Deed → Prop) : Manager → Manager → Prop where
  /-- Nothing happens to devices and requests, and to what waits for them. -/
  | aside {m m' : Manager} (hDevices : m'.devices = m.devices) (hRequests : m'.requests = m.requests)
    (hQueue : m'.queue = m.queue) (hEvents : m.events <+: m'.events)
    (hEffects : m'.effects = m.effects) : Step K m m'
  | urge {m : Manager} (id : Nat) {f : Device → Update} (hf : Device.Urges f) :
    Step K m (m.updateDevice id f)
  | govern {m : Manager} (hK : K .manages) (id : Nat) {f : Device → Update} (hf : Device.Governs f) :
    Step K m (m.updateDevice id f)
  | flag {m : Manager} (id : Nat) (due : Bool) :
    Step K m (m.modifyDevice id fun d => { d with activationScheduled := due })
  | teardown {m : Manager} (id : Nat) (reason : StateReason) : Step K m (m.teardown id reason)
  /-- A request works off the events that wait for it. -/
  | look {m : Manager} {r : Request} (hr : m.request? r.id = some r) :
    Step K m ((m.setRequest r.processEvents.request).perform r.processEvents.effects)
  | tell {m : Manager} {e : DeviceEvent} {rest : List DeviceEvent} (hQueue : m.queue = e :: rest) :
    Step K m (m.told e rest)
  /-- Nothing changes about a request but who waits for it, and for how long. -/
  | revise {m : Manager} {r r' : Request} {effects : List Effect} (hr : m.request? r.id = some r)
    (hSame : Request.Same r r') (hShown : r'.shown = r.shown)
    (hEffects : Exchange.ofEffects effects = []) : Step K m ((m.setRequest r').perform effects)
  | answer {m : Manager} {r r' : Request} {effects : List Effect} {p : PendingSecrets}
    (hK : K (.answers p.call)) (hr : m.request? r.id = some r) (hSecrets : r.secrets = some p)
    (hSame : Request.Same { r with secrets := none } r') (hShown : r'.shown = r.shown)
    (hEffects : Exchange.ofEffects effects = []) : Step K m ((m.setRequest r').perform effects)
  | mark {m : Manager} (hK : K .marks) (request : Nat) (default default6 : Bool) :
    Step K m (m.setRequestDefault request default default6)
  | launch {m : Manager} (number : Nat) {d : Device} (spec : RequestSpec)
    (hd : m.device? d.id = some d) : Step K m (m.launch number d spec).1
  | arrive {m : Manager} (hK : K .arrives) {d : Device} (hUnused : d.Unused) : Step K m (m.admitted d)
  | dismiss {m : Manager} (id : Nat) (hLinked : m.Linked) (hK : K (.departs id)) :
    Step K m ((m.dismissed id).publish (.deviceRemoved id))
  | disband {m : Manager} (hK : ∀ id, K (.departs id)) : Step K m m.disbanded

/-- A sequence of steps. -/
abbrev Steps (K : Deed → Prop) : Manager → Manager → Prop := Relation.ReflTransGen (Step K)

theorem Steps.foldl {α : Type} {step : Manager → α → Manager} (xs : List α)
    (hStep : ∀ m x, Steps K m (step m x)) (m : Manager) : Steps K m (xs.foldl step m) :=
  foldl_rest (P := fun _ m' => Steps K m m') (fun x _ m' h => h.trans (hStep m' x)) xs m .refl

-- ---------------------------------------------------------------------------
-- Elementary changes
-- ---------------------------------------------------------------------------

theorem steps_publish (m : Manager) (e : ManagerEvent) : Steps K m (m.publish e) :=
  .single (.aside rfl rfl rfl (List.prefix_append _ _) rfl)

/-- What is noted beside devices and requests. -/
theorem steps_note (hDevices : m'.devices = m.devices) (hRequests : m'.requests = m.requests)
    (hQueue : m'.queue = m.queue) (hEvents : m'.events = m.events)
    (hEffects : m'.effects = m.effects) : Steps K m m' :=
  .single (.aside hDevices hRequests hQueue (hEvents ▸ List.prefix_refl _) hEffects)

theorem steps_updateState (m : Manager) : Steps K m m.updateState := by
  unfold updateState
  split
  · exact .refl
  · exact .single (.aside rfl rfl rfl (List.prefix_append _ _) rfl)

theorem steps_setCache (m : Manager) (scope : Scope) (cache : ConnectionCache) :
    Steps K m (m.setCache scope cache) := by
  cases scope <;> exact steps_note rfl rfl rfl rfl rfl

theorem steps_urge (m : Manager) (id : Nat) {f : Device → Update} (hf : Device.Urges f) :
    Steps K m (m.updateDevice id f) :=
  .single (.urge id hf)

theorem steps_teardown (m : Manager) (id : Nat) (reason : StateReason) :
    Steps K m (m.teardown id reason) :=
  .single (.teardown id reason)

theorem steps_teardownOn (m : Manager) (id : Nat) (reason : StateReason) :
    Steps K m (m.teardownOn id reason) := by
  unfold Manager.teardownOn
  split
  · exact .refl
  · exact steps_teardown m _ reason

theorem steps_processRequest (m : Manager) (id : Nat) : Steps K m (m.processRequest id) := by
  unfold Manager.processRequest
  cases hr : m.request? id with
  | none => exact .refl
  | some r =>
    obtain ⟨-, rfl⟩ := request?_eq_some hr
    have hLooked : Steps K m ((m.setRequest r.processEvents.request).perform r.processEvents.effects) :=
      .single (.look hr)
    dsimp only
    split
    · exact hLooked.trans (steps_publish _ _)
    · exact hLooked

theorem steps_processRequests (m : Manager) : Steps K m m.processRequests :=
  Steps.foldl m.requests (fun m r => steps_processRequest m r.id) m

theorem steps_dropOrphan (m : Manager) (id : Nat) : Steps K m (m.dropOrphan id) :=
  steps_note rfl rfl rfl rfl rfl

theorem steps_markInvalid (m : Manager) (uuid : String) : Steps K m (m.markInvalid uuid) := by
  unfold Manager.markInvalid
  split
  · exact .refl
  · exact steps_note rfl rfl rfl rfl rfl

theorem steps_updateTimestamp (m : Manager) (id : Nat) : Steps K m (m.updateTimestamp id) := by
  unfold Manager.updateTimestamp
  split
  · exact .refl
  · dsimp only
    split
    · exact .refl
    · exact steps_setCache m _ _

-- ---------------------------------------------------------------------------
-- Working off the queues
-- ---------------------------------------------------------------------------

theorem steps_schedule (m : Manager) (id : Nat) : Steps K m (m.schedule id) := by
  obtain ⟨hEq, -⟩ | hEq := m.schedule_cases id
  · rw [hEq]
  · rw [hEq]
    have hFlag : Steps K m (m.modifyDevice id fun d => { d with activationScheduled := true }) :=
      .single (.flag id true)
    exact hFlag.trans (steps_note rfl rfl rfl rfl rfl)

theorem steps_scheduleAll (m : Manager) : Steps K m m.scheduleAll :=
  Steps.foldl m.devices (fun m d => steps_schedule m d.id) m

theorem steps_failOrphan (m : Manager) (id : Nat) : Steps K m (m.failOrphan id) := by
  unfold Manager.failOrphan
  split
  · exact .refl
  · dsimp only
    split
    · exact steps_dropOrphan m id
    · exact (steps_dropOrphan m id).trans (steps_markInvalid _ _)

theorem steps_failRequest (m : Manager) (id : Nat) (reason : StateReason) :
    Steps K m (m.failRequest id reason) := by
  unfold Manager.failRequest
  split
  · exact .refl
  · dsimp only
    split
    · exact steps_teardown m _ reason
    · exact (steps_markInvalid m _).trans (steps_teardown _ _ reason)

theorem steps_followState (m : Manager) (id : Nat) (new : DeviceState) (reason : StateReason) :
    Steps K m (m.followState id new reason) := by
  cases new with
  | activated => exact steps_updateTimestamp m id
  | failed =>
    exact ((steps_failOrphan m id).trans (steps_failRequest _ id reason)).trans
      (steps_urge _ id (.move .disconnected reason))
  | disconnected => exact (steps_teardownOn m id reason).trans (steps_schedule _ id)
  | unavailable => exact steps_teardownOn m id reason
  | unmanaged => exact steps_teardownOn m id reason
  | unknown => exact .refl
  | prepare => exact .refl
  | config => exact .refl
  | needAuth => exact .refl
  | ipConfig => exact .refl

theorem steps_failUnansweredAuth (m : Manager) (id : Nat) : Steps K m (m.failUnansweredAuth id) := by
  unfold Manager.failUnansweredAuth
  split
  · exact .refl
  · exact steps_urge m id .failAuth

/-- To handle an event is to tell of it, and what follows. -/
theorem steps_handleEvent {e : DeviceEvent} {rest : List DeviceEvent} (hQueue : m.queue = e :: rest) :
    Steps K m ({ m with queue := rest }.handleEvent e) := by
  have hTold : Steps K m (m.told e rest) := .single (.tell hQueue)
  refine hTold.trans ?_
  cases e with
  | linkRequested id request => exact .refl
  | needSecrets id need =>
    have hSame : m.told (.needSecrets id need) rest = { m with queue := rest } := by
      unfold Manager.told
      rw [show DeviceEvent.published (.needSecrets id need) = [] from rfl, List.append_nil]
    rw [hSame]
    exact steps_failUnansweredAuth _ id
  | stateChanged id new old reason =>
    rw [← told_announced]
    generalize hAnnounced : Manager.announced { m with queue := rest } id new old reason = m₁
    have hDropped : Steps K m₁ (if !new.isActive && new != .failed then m₁.dropOrphan id else m₁) := by
      split
      · exact steps_dropOrphan m₁ id
      · exact .refl
    have hAll := (hDropped.trans (steps_followState _ id new reason)).trans (steps_updateState _)
    rw [← hAnnounced] at hAll ⊢
    exact hAll

/-- To work off all queues. -/
theorem steps_pump (m : Manager) : Steps K m m.pump :=
  pump_preserves (P := fun m' => Steps K m m') (fun m' h => h.trans (steps_processRequests m'))
    (fun _ _ _ h hQueue => h.trans (steps_handleEvent hQueue)) .refl

-- ---------------------------------------------------------------------------
-- Activations
-- ---------------------------------------------------------------------------

/-- Before an activation starts its device is cleared for it. -/
theorem steps_cleared (m : Manager) (device : Nat) : Steps K m (m.cleared device) := by
  unfold Manager.cleared Manager.halted
  dsimp only
  have hEnded : Steps K m (m.teardownOn device .userRequested) := steps_teardownOn m device _
  generalize m.teardownOn device .userRequested = ended at hEnded ⊢
  have hNumbered : Steps K ended { ended with nextRequest := ended.nextRequest + 1 } :=
    steps_note rfl rfl rfl rfl rfl
  exact ((hEnded.trans hNumbered).trans (steps_urge _ device (.stop .userRequested))).trans
    (steps_pump _)

theorem steps_launch (m : Manager) (number : Nat) {d : Device} (spec : RequestSpec)
    (hd : m.device? id = some d) : Steps K m (m.launch number d spec).1 := by
  obtain ⟨-, rfl⟩ := device?_eq_some hd
  exact .single (.launch number spec hd)

theorem steps_activate (m : Manager) (device : Nat) (scope : Scope) (path : String)
    (specific : Option String) (userRequested : Bool) :
    Steps K m (m.activate device scope path specific userRequested).1 := by
  rcases m.activate_cases device scope path specific userRequested with
    ⟨e, hFailed⟩ | ⟨connection, d, hFound, hd, hOk⟩
  · rw [hFailed]
  · have hReady : Steps K m { m.cleared device with
        pending := (m.cleared device).pending.filter fun p => p != device } :=
      (steps_cleared m device).trans (steps_note rfl rfl rfl rfl rfl)
    cases hd' : (m.cleared device).device? device with
    | some d' =>
      rw [activate_eq hFound hd hOk hd']
      exact hReady.trans (steps_launch _ _ _ hd')
    | none =>
      unfold Manager.activate
      rw [hFound, hd]
      dsimp only
      rw [hOk]
      dsimp only
      split
      · exact hReady
      · rename_i e he
        rw [show (m.cleared device).device? device = some e from he] at hd'
        cases hd'

theorem steps_autoActivate (m : Manager) (id : Nat) : Steps K m (m.autoActivate id) := by
  unfold Manager.autoActivate
  split
  · exact .refl
  · split
    · exact .refl
    · split
      · exact .refl
      · split
        · exact .refl
        · exact steps_activate m id _ _ none false

-- ---------------------------------------------------------------------------
-- Settling
-- ---------------------------------------------------------------------------

theorem steps_startPending (m : Manager) (id : Nat) : Steps K m (m.startPending id) :=
  (Relation.ReflTransGen.single (.flag id false)).trans (steps_autoActivate _ id)

theorem steps_settleRounds (n : Nat) (m : Manager) : Steps K m (settleRounds n m) := by
  induction n generalizing m with
  | zero => exact .refl
  | succ n ih =>
    unfold Manager.settleRounds
    dsimp only
    split
    · exact steps_pump m
    · have hTaken : Steps K m { m.pump with pending := [] } :=
        (steps_pump m).trans (steps_note rfl rfl rfl rfl rfl)
      exact (hTaken.trans (Steps.foldl _ steps_startPending _)).trans (ih _)

theorem steps_settle (m : Manager) : Steps K m m.settle :=
  (steps_settleRounds _ m).trans (steps_updateState _)

-- ---------------------------------------------------------------------------
-- Operations on devices
-- ---------------------------------------------------------------------------

theorem steps_addDevice (m : Manager) {d : Device} (hNew : d.IsNew) :
    Steps (Operation.addDevice hNew).May m (m.addDevice d).1 := by
  unfold Manager.addDevice
  split
  · exact .refl
  · have hTaken : Steps (Operation.addDevice hNew).May m (m.admitted d) :=
      .single (.arrive (.comes hNew) hNew.unused)
    have hManaged : Steps (Operation.addDevice hNew).May m (if (m.admitted d).isAsleep then m.admitted d
        else (m.admitted d).updateDevice m.nextDevice fun d => d.setManaged true .nowManaged) := by
      split
      · exact hTaken
      · exact hTaken.tail (.govern (.managed hNew) _ (.manage true .nowManaged))
    exact hManaged.trans (steps_settle _)

/-- A device that is given up is released, and once all that follows from that is done it goes. -/
theorem Coherent.steps_removeDevice (h : m.Coherent A) (id : Nat) (hManages : K .manages)
    (hDeparts : K (.departs id)) : Steps K m (m.removeDevice id) := by
  have hReleased : Steps K m (m.released id).pump :=
    ((steps_teardownOn m id .removed).tail (.govern hManages id (.manage false .removed))).trans
      (steps_pump _)
  have hGone : Steps K m (if ((m.released id).pump.device? id).isSome then
      ((m.released id).pump.dismissed id).publish (.deviceRemoved id) else (m.released id).pump) := by
    split
    · exact hReleased.tail (.dismiss id (h.released id).1.linked hDeparts)
    · exact hReleased
  exact hGone.trans (steps_settle _)

theorem steps_linkChanged (m : Manager) (device : Nat) (up : Bool) :
    Steps K m (m.linkChanged device up) := by
  unfold Manager.linkChanged
  dsimp only
  split
  · exact .refl
  · exact (steps_urge m device (.link m.now _ up)).trans (steps_settle _)

theorem steps_switched (m : Manager) (hManages : K .manages) : Steps K m m.switched := by
  unfold Manager.switched
  split
  · have hAmnesty : Steps K m { m with invalid := [] } := steps_note rfl rfl rfl rfl rfl
    exact (hAmnesty.trans (Steps.foldl m.requests (fun m r => steps_teardown m r.id _) _)).trans
      (Steps.foldl _ (fun m (d : Device) => .single (.govern hManages d.id (.manage false .sleeping))) _)
  · exact Steps.foldl m.devices (fun m (d : Device) => .single (.govern hManages d.id .rouse)) m

theorem steps_applySwitches (m : Manager) (hManages : K .manages) : Steps K m m.applySwitches :=
  (steps_switched m hManages).trans (steps_settle _)

theorem steps_shutdown (m : Manager) (hDeparts : ∀ id, K (.departs id)) :
    Steps K m m.shutdown := by
  have hEnded : Steps K m (m.requests.foldl (fun m r => m.teardown r.id .unknown) m) :=
    Steps.foldl m.requests (fun m r => steps_teardown m r.id _) m
  rw [shutdown_eq]
  generalize m.requests.foldl (fun m r => m.teardown r.id .unknown) m = ended at hEnded ⊢
  have hForgotten : Steps K ended { ended with orphans := [] } := steps_note rfl rfl rfl rfl rfl
  exact (hEnded.trans hForgotten).tail (.disband hDeparts)

-- ---------------------------------------------------------------------------
-- Operations on connections and requests
-- ---------------------------------------------------------------------------

theorem steps_dropped (m : Manager) (scope : Scope) (path : String) :
    Steps K m (m.dropped scope path) := by
  have hStop : ∀ (m : Manager) (r : Request), Steps K m
      ((m.teardown r.id .connectionRemoved).updateDevice r.device fun d =>
        d.deactivate .connectionRemoved) :=
    fun m r => (steps_teardown m r.id _).trans (steps_urge _ r.device (.stop .connectionRemoved))
  exact (steps_setCache m scope _).trans (Steps.foldl _ hStop _)

theorem steps_connectionRemoved (m : Manager) (scope : Scope) (path : String) :
    Steps K m (m.connectionRemoved scope path) := by
  obtain hSame | hDropped := m.connectionRemoved_cases scope path
  · rw [hSame]
  · rw [hDropped]
    exact (steps_dropped m scope path).trans (steps_settle _)

theorem steps_setServiceRunning (m : Manager) (scope : Scope) (running : Bool) :
    Steps K m (m.setServiceRunning scope running) := by
  unfold Manager.setServiceRunning
  split
  · exact .refl
  · refine Relation.ReflTransGen.trans ?_ ((steps_scheduleAll _).trans (steps_settle _))
    have hSet := steps_setCache (K := K) m scope { m.cache scope with running }
    dsimp only
    split
    · exact hSet
    · exact hSet.trans (Steps.foldl _ (fun m path => steps_connectionRemoved m scope path) _)

theorem steps_connectionAdded (m : Manager) (scope : Scope) (path : String) (settings : Settings) :
    Steps K m (m.connectionAdded scope path settings).1 := by
  unfold Manager.connectionAdded
  split
  · exact .refl
  · exact ((steps_setCache m scope _).trans (steps_scheduleAll _)).trans (steps_settle _)

theorem steps_connectionUpdated (m : Manager) (scope : Scope) (path : String)
    (settings : Settings) : Steps K m (m.connectionUpdated scope path settings) := by
  unfold Manager.connectionUpdated
  dsimp only
  split
  · exact steps_connectionAdded m scope path settings
  · split
    · exact steps_connectionRemoved m scope path
    · have hPardoned : ∀ (m : Manager) (invalid : List String), Steps K m { m with invalid } :=
        fun _ _ => steps_note rfl rfl rfl rfl rfl
      exact (((steps_setCache m scope _).trans (hPardoned _ _)).trans (steps_scheduleAll _)).trans
        (steps_settle _)

theorem steps_activateConnection (m : Manager) (uid : Nat) (service path device : String)
    (specific : Option String) :
    Steps K m (m.activateConnection uid service path device specific).1 := by
  unfold Manager.activateConnection
  split
  · exact .refl
  · split
    · exact .refl
    · rename_i scope _
      split
      · exact .refl
      · rename_i id _
        dsimp only
        generalize specific.filter (fun p => !p.isEmpty && p != "/") = specific
        have hStart := steps_activate (K := K) m id scope path specific true
        generalize m.activate id scope path specific true = started at hStart ⊢
        obtain ⟨m', e | n⟩ := started
        · exact hStart
        · exact hStart.trans (steps_settle _)

theorem steps_deactivateConnection (m : Manager) (uid : Nat) (active : String) :
    Steps K m (m.deactivateConnection uid active).1 := by
  unfold Manager.deactivateConnection
  split
  · exact .refl
  · split
    · exact .refl
    · exact ((steps_teardown m _ .userRequested).trans (steps_urge _ _ .stopForUser)).trans
        (steps_settle _)

theorem steps_wait (m : Manager) (request waiter : Nat) : Steps K m (m.wait request waiter).1 := by
  unfold Manager.wait
  split
  · exact .refl
  · rename_i r hr
    obtain ⟨-, rfl⟩ := request?_eq_some hr
    exact .single (.revise hr (r.wait_same waiter) (r.shown_wait waiter) (r.wait_effects waiter))

/-- An answer is taken by the request that waits for it, or by none. What follows needs no answer. -/
theorem secretsReply_first (m : Manager) (call : SecretsCall) (answer : Except Error Settings) :
    ∃ m₁, (m₁ = m ∨ Step (Operation.secretsReply call answer).May m m₁) ∧
      Steps K m₁ (m.secretsReply call answer) := by
  unfold Manager.secretsReply
  cases hr : m.request? call.request with
  | none => exact ⟨m, Or.inl rfl, .refl⟩
  | some r =>
    obtain ⟨-, hId⟩ := request?_eq_some hr
    rw [← hId] at hr
    dsimp only
    split
    · exact ⟨m, Or.inl rfl, .refl⟩
    · cases hTake : r.takeSecrets call answer with
      | none => exact ⟨m, Or.inl rfl, steps_settle m⟩
      | some taken =>
        obtain ⟨r', setting⟩ := taken
        obtain ⟨-, hShown⟩ := Request.goes_takeSecrets hTake
        obtain ⟨p, connection, hSecrets, rfl, rfl⟩ := Request.takeSecrets_some hTake
        cases setting with
        | some setting =>
          have hSet : Step (Operation.secretsReply p.call answer).May m
              ((m.setRequest { r with secrets := none, connection }).perform []) :=
            .answer (.answers _ _) hr hSecrets ⟨rfl, rfl, rfl, rfl, rfl, rfl, rfl⟩ hShown rfl
          rw [perform_nil] at hSet
          exact ⟨_, Or.inr hSet, (steps_urge _ _ (.secrets m.now connection setting)).trans
            (steps_settle _)⟩
        | none =>
          have hSame := Request.finish_same { r with secrets := none, connection }
            (.failed (.activationFailed .noSecrets))
          have hEffects := Request.finish_effects { r with secrets := none, connection }
            (.failed (.activationFailed .noSecrets))
          have hSet : Step (Operation.secretsReply p.call answer).May m _ :=
            .answer (.answers _ _) hr hSecrets ⟨hSame.id, hSame.device, hSame.subscription,
              hSame.queue, hSame.state, hSame.secrets, hSame.nextSeq⟩
              ((Request.shown_finish _ _).trans hShown) hEffects
          exact ⟨_, Or.inr hSet, (steps_urge _ _ (.move .failed .noSecrets)).trans (steps_settle _)⟩

theorem steps_secretsReply (m : Manager) (call : SecretsCall) (answer : Except Error Settings) :
    Steps (Operation.secretsReply call answer).May m (m.secretsReply call answer) := by
  obtain ⟨m₁, rfl | hFirst, hRest⟩ := m.secretsReply_first call answer
  · exact hRest
  · exact .head hFirst hRest

theorem steps_expireRequest (m : Manager) (id : Nat) : Steps K m (m.expireRequest id) := by
  have hNoted : ∀ r, Steps K m (m.noted r) := by
    intro r
    unfold Manager.noted
    split
    · exact steps_note rfl rfl rfl rfl rfl
    · exact .refl
  unfold Manager.expireRequest
  split
  · exact .refl
  · exact ((hNoted _).trans (steps_teardown _ id .unknown)).trans (steps_failUnansweredAuth _ _)

theorem Settled.processTimeoutsAt_steps (h : m.Settled A) (moment : Nat) :
    Steps K m (m.processTimeoutsAt moment) := by
  unfold Manager.processTimeoutsAt
  obtain ⟨-, hChecked⟩ := foldl_rest (P := fun rest m' => Checking A rest m' ∧ Steps K m m')
    (fun r _ m' hm' => ⟨hm'.1.step moment, hm'.2.tail (.revise
      (hm'.1.coherent.linked.request?_of_mem (hm'.1.present r List.mem_cons_self))
      (r.checkTimeout_same moment) (r.shown_checkTimeout moment) (r.checkTimeout_effects moment))⟩)
    m.requests m ⟨h.toCoherent.checking, .refl⟩
  have hExpired := hChecked.trans (Steps.foldl
    ((m.requests.filter fun r => (r.checkTimeout moment).2.2).map Request.id) steps_expireRequest _)
  exact (hExpired.trans (Steps.foldl _ (fun m (d : Device) => steps_urge m d.id (.poll moment)) _)).trans
    (steps_settle _)

-- ---------------------------------------------------------------------------
-- Every operation
-- ---------------------------------------------------------------------------

/-- Every operation is a sequence of steps, with the deeds that it may do. -/
theorem Settled.operate_steps (h : m.Settled A) (operation : Operation) :
    Steps operation.May m (m.operate operation) := by
  cases operation with
  | addDevice hNew => exact steps_addDevice m hNew
  | removeDevice id => exact h.toCoherent.steps_removeDevice id (.released id) (.goes id)
  | removeDeviceByInterface interface =>
    show Steps _ m (m.removeDeviceByInterface interface).1
    unfold Manager.removeDeviceByInterface
    split
    · exact .refl
    · exact h.toCoherent.steps_removeDevice _ (.unplugged interface) (.vanishes interface _)
  | setFirmwareMissing interface missing =>
    show Steps _ m (m.setFirmwareMissing interface missing).1
    unfold Manager.setFirmwareMissing
    split
    · exact .refl
    · exact (steps_urge m _ (.firmware missing)).trans (steps_settle _)
  | setServiceRunning scope running => exact steps_setServiceRunning m scope running
  | connectionAdded scope path settings => exact steps_connectionAdded m scope path settings
  | connectionUpdated scope path settings => exact steps_connectionUpdated m scope path settings
  | connectionRemoved scope path => exact steps_connectionRemoved m scope path
  | activateConnection uid service path device specific =>
    exact steps_activateConnection m uid service path device specific
  | deactivateConnection uid active => exact steps_deactivateConnection m uid active
  | wait request waiter => exact steps_wait m request waiter
  | setRequestDefault request default default6 =>
    exact .single (.mark (.marks request default default6) request default default6)
  | secretsReply call answer => exact steps_secretsReply m call answer
  | linkChanged device up => exact steps_linkChanged m device up
  | processTimeouts moment => exact h.processTimeoutsAt_steps moment
  | setSleeping uid sleeping =>
    show Steps _ m (m.setSleeping uid sleeping).1
    unfold Manager.setSleeping
    split
    · exact .refl
    · split
      · exact .refl
      · have hNoted : Step (Operation.setSleeping uid sleeping).May m
            ({ m with sleeping }.publish (.sleepingChanged sleeping)) :=
          .aside rfl rfl rfl (List.prefix_append _ _) rfl
        exact .head hNoted (steps_applySwitches _ (.sleeps uid sleeping))
  | setEnabled uid enabled =>
    show Steps _ m (m.setEnabled uid enabled).1
    unfold Manager.setEnabled
    split
    · exact .refl
    · split
      · exact .refl
      · have hNoted : Step (Operation.setEnabled uid enabled).May m
            ({ m with store := (m.store.set enabled).1, networkingEnabled := enabled }.publish
              (.networkingEnabledChanged enabled)) :=
          .aside rfl rfl rfl (List.prefix_append _ _) rfl
        exact .head hNoted (steps_applySwitches _ (.enables uid enabled))
  | settle => exact steps_settle m
  | updateState => exact steps_updateState m
  | shutdown => exact steps_shutdown m .ends
  | setClock now => exact steps_note rfl rfl rfl rfl rfl

end Manager

-- ---------------------------------------------------------------------------
-- Launches
-- ---------------------------------------------------------------------------

/-- A request that leaves a device takes nothing along but its place among the subscribers. -/
theorem Request.leave_remains (r : Request) (d : Device) :
    d.Remains (r.leave d) ∧ (r.leave d).state = d.state ∧ (r.leave d).managed = d.managed := by
  unfold Request.leave
  split <;> exact ⟨⟨rfl, rfl, rfl⟩, rfl, rfl⟩

theorem Request.leave_heard (r : Request) (hPlace : r.subscription ≠ some 0) {d : Device}
    (h : d.Heard) : (r.leave d).Heard := by
  unfold Request.leave
  split
  · rename_i k hk
    refine ⟨List.mem_filter.mpr ⟨h.1, ?_⟩, h.2⟩
    rw [bne_iff_ne]
    rintro rfl
    exact hPlace hk
  · exact h

namespace Manager

variable {A : Nat → String → Prop} {K : Deed → Prop} {m m' m'' : Manager} {id : Nat}

theorem starting_endures (m : Manager) (number : Nat) (d : Device) (spec : RequestSpec) :
    d.Endures (m.starting number d spec).2 ∧ (m.starting number d spec).2.state = d.state ∧
      (m.starting number d spec).2.managed = d.managed := by
  have hReadied : d.Endures (readied d spec.userRequested) ∧
      (readied d spec.userRequested).state = d.state ∧
      (readied d spec.userRequested).managed = d.managed := by
    unfold readied
    dsimp only
    split <;> exact ⟨.of_flags rfl rfl rfl rfl rfl, rfl, rfl⟩
  obtain ⟨hEndures, hState, hManaged⟩ := hReadied
  exact ⟨hEndures.trans ⟨⟨rfl, rfl, rfl⟩, fun h =>
    ⟨List.mem_append_left _ h.1, Nat.lt_succ_of_lt h.2⟩⟩, hState, hManaged⟩

/-- A device that refuses a request is as before, and nobody is asked for secrets. -/
structure Refused (d e : Device) (effects : List Effect) : Prop where
  endures : d.Endures e
  state : e.state = d.state
  managed : e.managed = d.managed
  silent : Exchange.ofEffects effects = []

/-- A device that takes a new request tells that it has started, and the request has no marks. -/
structure Taken (d : Device) (r : Request) (u : Update) (listeners : List Listener) : Prop where
  endures : d.Endures u.device
  managed : u.device.managed = d.managed
  heard : d.Heard → Listener.manager ∈ listeners
  numbered : d.Heard → r.subscription ≠ some 0
  tells : .prepare ∈ entered u.events
  isDefault : r.isDefault = false
  isDefault6 : r.isDefault6 = false

/-- A launch is refused, or a new request joins the others. -/
theorem launch_cases (m : Manager) (number : Nat) (d : Device) (spec : RequestSpec) :
    (∃ e effects, Refused d e effects ∧
      (m.launch number d spec).1 = (m.setDevice e).perform effects) ∨
    ∃ r u listeners, Taken d r u listeners ∧
      (m.launch number d spec).1 = ((m.joined r listeners u).publish
        (.activeConnectionAdded r.id)).publish .activeConnectionsChanged := by
  obtain ⟨hStarts, hState, hManaged⟩ := starting_endures m number d spec
  have hNumber : d.Heard → (m.starting number d spec).1.subscription ≠ some 0 := by
    intro hHeard hZero
    have hNext : (readied d spec.userRequested).nextSubscription = d.nextSubscription := by
      unfold readied
      dsimp only
      split <;> rfl
    have hPlace : some (readied d spec.userRequested).nextSubscription = some 0 := hZero
    rw [hNext, Option.some.injEq] at hPlace
    exact absurd hPlace (Nat.ne_of_gt hHeard.2)
  have hEq : m.launch number d spec = m.register (m.starting number d spec).1
      (m.starting number d spec).2.listeners ((m.starting number d spec).2.activate m.now
        (m.starting number d spec).1.connection) := rfl
  rw [hEq]
  have hPlain : (m.starting number d spec).1.isDefault = false ∧
      (m.starting number d spec).1.isDefault6 = false := ⟨rfl, rfl⟩
  have hRules : Exchange.ofEffects ((m.starting number d spec).1.detach .configFailed).2 = [] := by
    rw [Request.detach_effects]
    rfl
  -- what follows needs no more of the new request than was said of it so far
  generalize m.starting number d spec = s at *
  obtain ⟨r, e⟩ := s
  dsimp only at *
  have hActivate := Device.activate_endures e m.now r.connection
  have hFlags := (Device.activate_proceeds e m.now r.connection).flags.managed
  unfold Manager.register
  rcases Device.activate_cases e m.now r.connection with ⟨error, hRefused⟩ | ⟨hError, hTold⟩
  · rw [hRefused] at hActivate ⊢
    have hLasts := hStarts.trans hActivate
    obtain ⟨hRemains, hSame, hFlag⟩ := r.leave_remains { e with activationScheduled := false }
    have hEndures : d.Endures _ := ⟨hLasts.toRemains.trans hRemains, fun hHeard =>
      r.leave_heard (hNumber hHeard) (hLasts.heard hHeard)⟩
    exact Or.inl ⟨_, _, ⟨hEndures, hSame.trans hState, hFlag.trans hManaged, hRules⟩, rfl⟩
  · rw [hError]
    exact Or.inr ⟨r, _, _,
      { endures := hStarts.trans hActivate
        managed := hFlags.trans hManaged
        heard := fun hHeard => (hStarts.heard hHeard).listens
        numbered := hNumber
        tells := hTold
        isDefault := hPlain.1
        isDefault6 := hPlain.2 }, rfl⟩

-- ---------------------------------------------------------------------------
-- What becomes of devices
-- ---------------------------------------------------------------------------

/-- What may become of the device with a number. -/
inductive Lasts (K : Deed → Prop) (id : Nat) : Option Device → Option Device → Prop where
  | kept {d d' : Device} (hRemains : d.Remains d') (hManaged : d'.managed = d.managed ∨ K .manages) :
    Lasts K id (some d) (some d')
  | absent : Lasts K id none none
  | comes (hK : K .arrives) (d : Device) : Lasts K id none (some d)
  | goes (hK : K (.departs id)) (o o' : Option Device) : Lasts K id o o'

theorem Lasts.refl (o : Option Device) : Lasts K id o o := by
  cases o with
  | none => exact .absent
  | some d => exact .kept (Device.Remains.refl d) (Or.inl rfl)

theorem Lasts.trans {o o' o'' : Option Device} (h : Lasts K id o o') (h' : Lasts K id o' o'') :
    Lasts K id o o'' := by
  cases h with
  | goes hK => exact .goes hK _ _
  | absent => exact h'
  | comes hK d =>
    cases h' with
    | goes hK => exact .goes hK _ _
    | @kept d d' hRemains hManaged => exact .comes hK d'
  | kept hRemains hManaged =>
    cases h' with
    | goes hK => exact .goes hK _ _
    | kept hRemains' hManaged' =>
      refine .kept (hRemains.trans hRemains') ?_
      rcases hManaged with hSame | hK
      · exact hManaged'.imp_left fun hSame' => hSame'.trans hSame
      · exact Or.inr hK

theorem lasts_devices (hDevices : m'.devices = m.devices) (x : Nat) :
    Lasts K x (m.device? x) (m'.device? x) := by
  unfold device?
  rw [hDevices]
  exact Lasts.refl _

/-- A device takes the place of what it was. -/
theorem lasts_setDevice {d e : Device} (hd : m.device? d.id = some d) (hRemains : d.Remains e)
    (hManaged : e.managed = d.managed ∨ K .manages) (x : Nat) :
    Lasts K x (m.device? x) ((m.setDevice e).device? x) := by
  rw [device?_setDevice_of hd hRemains.id]
  split
  · rename_i hx
    rw [hx, hd]
    exact .kept hRemains hManaged
  · exact Lasts.refl _

theorem device?_admitted (m : Manager) (d : Device) (x : Nat) : (m.admitted d).device? x =
    (m.device? x).or (if m.nextDevice = x then some (m.newcomer d) else none) :=
  device?_takenIn m (m.newcomer d) x

/-- What one device is made into happens to no other. -/
theorem device?_modifyDevice (m : Manager) (id : Nat) {f : Device → Device}
    (hf : ∀ d, (f d).id = d.id) (x : Nat) :
    (m.modifyDevice id f).device? x = (m.device? x).map fun d => if x = id then f d else d := by
  unfold modifyDevice
  cases hd : m.device? id with
  | none =>
    dsimp only
    cases hx : m.device? x with
    | none => rfl
    | some d =>
      have hNe : x ≠ id := by
        rintro rfl
        rw [hx] at hd
        cases hd
      rw [Option.map_some, if_neg hNe]
  | some d =>
    obtain ⟨-, rfl⟩ := device?_eq_some hd
    dsimp only
    rw [device?_setDevice_of hd (hf d)]
    split
    · rename_i hx
      rw [hx, hd]
      rfl
    · cases m.device? x <;> rfl

theorem devices_updateDevice (m : Manager) (id : Nat) (f : Device → Update) :
    (m.updateDevice id f).devices = (m.modifyDevice id fun d => (f d).device).devices := by
  unfold updateDevice modifyDevice
  split <;> rfl

theorem device?_updateDevice (m : Manager) (id : Nat) {f : Device → Update}
    (hf : ∀ d, (f d).device.id = d.id) (x : Nat) :
    (m.updateDevice id f).device? x =
      (m.device? x).map fun d => if x = id then (f d).device else d := by
  rw [← m.device?_modifyDevice id hf x]
  unfold device?
  rw [devices_updateDevice]

theorem lasts_map {g : Device → Device}
    (hg : ∀ d, d.Remains (g d) ∧ ((g d).managed = d.managed ∨ K .manages)) (o : Option Device) :
    Lasts K id o (o.map g) := by
  cases o with
  | none => exact .absent
  | some d => exact .kept (hg d).1 (hg d).2

theorem lasts_modifyDevice (m : Manager) (id : Nat) {f : Device → Device}
    (hf : ∀ d, d.Remains (f d) ∧ ((f d).managed = d.managed ∨ K .manages)) (x : Nat) :
    Lasts K x (m.device? x) ((m.modifyDevice id f).device? x) := by
  rw [m.device?_modifyDevice id (fun d => (hf d).1.id)]
  refine lasts_map (fun d => ?_) _
  split
  · exact hf d
  · exact ⟨Device.Remains.refl d, Or.inl rfl⟩

theorem lasts_updateDevice (m : Manager) (id : Nat) {f : Device → Update}
    (hf : ∀ d, d.Remains (f d).device ∧ ((f d).device.managed = d.managed ∨ K .manages)) (x : Nat) :
    Lasts K x (m.device? x) ((m.updateDevice id f).device? x) :=
  (lasts_modifyDevice m id hf x).trans (lasts_devices (devices_updateDevice m id f) x)

theorem Step.lasts (h : Step K m m') (x : Nat) : Lasts K x (m.device? x) (m'.device? x) := by
  cases h with
  | aside hDevices => exact lasts_devices hDevices x
  | urge id hf =>
    exact lasts_updateDevice m id (fun d => ⟨(hf.endures d).toRemains, Or.inl (hf.managed d)⟩) x
  | govern hK id hf =>
    exact lasts_updateDevice m id (fun d => ⟨(hf.endures d).toRemains, Or.inr hK⟩) x
  | flag id due =>
    exact lasts_modifyDevice m id (f := fun d => { d with activationScheduled := due })
      (fun d => ⟨⟨rfl, rfl, rfl⟩, Or.inl rfl⟩) x
  | teardown id reason =>
    cases hr : m.request? id with
    | none =>
      rw [teardown_absent hr]
      exact Lasts.refl _
    | some r =>
      have hLeft := lasts_modifyDevice (K := K) m r.device (f := r.leave) (fun d =>
        ⟨(r.leave_remains d).1, Or.inl (r.leave_remains d).2.2⟩) x
      rw [teardown_eq hr]
      exact hLeft.trans (lasts_devices rfl x)
  | launch number spec hd =>
    rcases m.launch_cases number _ spec with
      ⟨e, effects, hRefused, hEq⟩ | ⟨r, u, listeners, hTaken, hEq⟩
    · rw [hEq]
      exact (lasts_setDevice hd hRefused.endures.toRemains (Or.inl hRefused.managed) x).trans
        (lasts_devices rfl x)
    · rw [hEq]
      exact (lasts_setDevice hd hTaken.endures.toRemains (Or.inl hTaken.managed) x).trans
        (lasts_devices rfl x)
  | @arrive hK d hUnused =>
    rw [device?_admitted]
    cases m.device? x with
    | some d => exact Lasts.refl _
    | none =>
      rw [Option.none_or]
      split
      · exact .comes hK _
      · exact .absent
  | dismiss id hLinked hK =>
    have hGone : ((m.dismissed id).publish (.deviceRemoved id)).device? x =
        if x = id then none else m.device? x := hLinked.device?_dismissed id x
    rw [hGone]
    split
    · rename_i hx
      exact .goes (hx ▸ hK) _ _
    · exact Lasts.refl _
  | disband hK => exact .goes (hK x) _ _
  | look => exact lasts_devices rfl x
  | tell => exact lasts_devices rfl x
  | revise => exact lasts_devices rfl x
  | answer => exact lasts_devices rfl x
  | mark hK request default default6 =>
    exact lasts_devices (m.devices_setRequestDefault request default default6) x

/-- What becomes of a device in a sequence of steps. -/
theorem Steps.lasts (h : Steps K m m') (x : Nat) : Lasts K x (m.device? x) (m'.device? x) := by
  induction h with
  | refl => exact Lasts.refl _
  | tail _ hLast ih => exact ih.trans (hLast.lasts x)

/-- A device that may not go stays what it is. -/
theorem Steps.remains (h : Steps K m m') {d : Device} (hd : m.device? id = some d)
    (hStays : ¬ K (.departs id)) : ∃ d', m'.device? id = some d' ∧ d.Remains d' := by
  have hLasts := h.lasts id
  rw [hd] at hLasts
  generalize m'.device? id = o at hLasts
  cases hLasts with
  | kept hRemains hManaged => exact ⟨_, rfl, hRemains⟩
  | goes hK => exact absurd hK hStays

end Manager

end ScannerHub
