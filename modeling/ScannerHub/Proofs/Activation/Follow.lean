import ScannerHub.Proofs.Activation.Secrets

/-!
# Requests that follow a device

A request looks at the events of its device one after the other. What it will come to once it has
looked at all of them is known before: its state is that of the last state entered, and it waits
for secrets if it did or if the device asked for some.

* `Request.foreseen`, `Request.awaitsSecrets` — what a request will come to;
* `Request.Follows` — what looking at events does.

## Results

* `handleEvent_follows`, `processEvents_follows` — one event, and the whole queue;
* `foreseen_processEvents`, `awaitsSecrets_processEvents` — a request comes to what was foreseen.
-/

namespace ScannerHub.Request

-- ---------------------------------------------------------------------------
-- What a request will come to
-- ---------------------------------------------------------------------------

/-- The request with more device events to look at. -/
def hear (r : Request) (events : List DeviceEvent) : Request :=
  { r with queue := r.queue ++ events }

/-- The state of the request once it has looked at all events. -/
def foreseen (r : Request) : ActiveState :=
  ((entered r.queue).map ActiveState.ofDevice).getLastD r.state

/-- Whether the request waits for secrets, or will ask for them. -/
def awaitsSecrets (r : Request) : Bool := r.secrets.isSome || asks r.queue

theorem foreseen_hear (r : Request) (events : List DeviceEvent) :
    (r.hear events).foreseen =
      ((entered events).map ActiveState.ofDevice).getLastD r.foreseen := by
  unfold foreseen hear
  rw [entered_append, List.map_append, getLastD_append]

theorem awaitsSecrets_hear (r : Request) (events : List DeviceEvent) :
    (r.hear events).awaitsSecrets = (r.awaitsSecrets || asks events) := by
  unfold awaitsSecrets hear
  rw [asks_append, Bool.or_assoc]

theorem hear_nil (r : Request) : r.hear [] = r := by
  unfold hear
  rw [List.append_nil]

-- ---------------------------------------------------------------------------
-- Looking at events
-- ---------------------------------------------------------------------------

/-- What looking at events does to a request, and the effects of it. -/
structure Follows (r : Request) (events : List DeviceEvent) (r' : Request)
    (effects : List Effect) : Prop where
  id : r'.id = r.id
  device : r'.device = r.device
  subscription : r'.subscription = r.subscription
  queue : r'.queue = r.queue
  state : r'.state = ((entered events).map ActiveState.ofDevice).getLastD r.state
  secrets : r'.secrets.isSome = (r.secrets.isSome || asks events)
  nextSeq : r.nextSeq ≤ r'.nextSeq
  distinct : (issued effects).Nodup
  fresh : ∀ c ∈ issued effects, c.request = r.id ∧ r.nextSeq ≤ c.seq ∧ c.seq < r'.nextSeq

theorem Follows.nil (r : Request) : Follows r [] r [] :=
  ⟨rfl, rfl, rfl, rfl, rfl, (Bool.or_false _).symm, Nat.le_refl _, List.nodup_nil, nofun⟩

theorem Follows.trans {r r' r'' : Request} {es fs : List DeviceEvent} {xs ys : List Effect}
    (h : Follows r es r' xs) (h' : Follows r' fs r'' ys) :
    Follows r (es ++ fs) r'' (xs ++ ys) where
  id := h'.id.trans h.id
  device := h'.device.trans h.device
  subscription := h'.subscription.trans h.subscription
  queue := h'.queue.trans h.queue
  state := by rw [h'.state, h.state, entered_append, List.map_append, getLastD_append]
  secrets := by rw [h'.secrets, h.secrets, asks_append, Bool.or_assoc]
  nextSeq := Nat.le_trans h.nextSeq h'.nextSeq
  distinct := by
    rw [issued_append, List.nodup_append]
    refine ⟨h.distinct, h'.distinct, fun c hc c' hc' hEq => ?_⟩
    obtain ⟨-, -, hBefore⟩ := h.fresh c hc
    obtain ⟨-, hAfter, -⟩ := h'.fresh c' hc'
    rw [hEq] at hBefore
    omega
  fresh c hc := by
    rw [issued_append] at hc
    rcases List.mem_append.mp hc with hc | hc
    · obtain ⟨hId, hLow, hHigh⟩ := h.fresh c hc
      exact ⟨hId, hLow, Nat.lt_of_lt_of_le hHigh h'.nextSeq⟩
    · obtain ⟨hId, hLow, hHigh⟩ := h'.fresh c hc
      exact ⟨hId.trans h.id, Nat.le_trans h.nextSeq hLow, hHigh⟩

/-- Effects without exchanges make no calls. -/
theorem issued_of_ofEffects {effects : List Effect} (h : Exchange.ofEffects effects = []) :
    issued effects = [] := by
  rw [issued_eq, h]
  rfl

theorem issued_cancelSecrets (r : Request) : issued r.cancelSecrets.2 = [] := by
  unfold cancelSecrets
  cases r.secrets <;> rfl

theorem issued_detach (r : Request) (reason : StateReason) : issued (r.detach reason).2 = [] := by
  rw [issued_eq, detach_effects, ← issued_eq, issued_cancelSecrets]

theorem followState_follows (r : Request) (id : Nat) (new old : DeviceState)
    (reason : StateReason) :
    Follows r [.stateChanged id new old reason] (r.followState new reason).1
      (r.followState new reason).2 := by
  have hQuiet : ∀ (r' : Request) (effects : List Effect), Same r r' →
      Exchange.ofEffects effects = [] →
      Follows r [.stateChanged id new old reason] { r' with state := .ofDevice new } effects := by
    intro r' effects h hEffects
    have hIssued := issued_of_ofEffects hEffects
    refine ⟨h.id, h.device, h.subscription, h.queue, rfl, ?_, Nat.le_of_eq h.nextSeq.symm, ?_, ?_⟩
    · rw [show ({ r' with state := .ofDevice new } : Request).secrets = r.secrets from h.secrets]
      exact (Bool.or_false _).symm
    · rw [hIssued]
      exact List.nodup_nil
    · rw [hIssued]
      exact nofun
  have hDefault : Same r { r with isDefault := false, isDefault6 := false } :=
    ⟨rfl, rfl, rfl, rfl, rfl, rfl, rfl⟩
  have hFinish : ∀ (r' : Request) (outcome : Outcome), Same r r' →
      Follows r [.stateChanged id new old reason]
        { (r'.finish outcome).1 with state := .ofDevice new } (r'.finish outcome).2 := by
    intro r' outcome h
    have h' := r'.finish_same outcome
    exact hQuiet _ _ ⟨h'.id.trans h.id, h'.device.trans h.device,
      h'.subscription.trans h.subscription, h'.queue.trans h.queue, h'.state.trans h.state,
      h'.secrets.trans h.secrets, h'.nextSeq.trans h.nextSeq⟩ (r'.finish_effects outcome)
  unfold followState
  cases new <;>
    first
      | exact hFinish _ _ hDefault
      | exact hFinish _ _ (Same.refl r)
      | exact hQuiet _ [] hDefault rfl
      | exact hQuiet _ [] (Same.refl r) rfl

theorem askSecrets_follows (r : Request) (id : Nat) (need : SecretsNeed) :
    Follows r [.needSecrets id need] (r.askSecrets need).1 (r.askSecrets need).2 := by
  have hIssued : issued (r.askSecrets need).2 = [{ request := r.id, seq := r.nextSeq }] := by
    unfold askSecrets
    dsimp only
    rw [issued_append, issued_cancelSecrets, cancelSecrets_eq]
    rfl
  have hRequest : (r.askSecrets need).1 = { r with
      secrets := some { call := { request := r.id, seq := r.nextSeq }, setting := need.setting }
      nextSeq := r.nextSeq + 1 } := by
    unfold askSecrets
    dsimp only
    rw [cancelSecrets_eq]
  rw [hRequest]
  refine ⟨rfl, rfl, rfl, rfl, rfl, (Bool.or_true _).symm, Nat.le_succ _, ?_, ?_⟩
  · rw [hIssued]
    exact List.nodup_cons.mpr ⟨List.not_mem_nil, List.nodup_nil⟩
  · intro c hc
    rw [hIssued] at hc
    rw [List.mem_singleton.mp hc]
    exact ⟨rfl, Nat.le_refl _, Nat.lt_succ_self _⟩

/-- What looking at one event does. -/
theorem handleEvent_follows (r : Request) (event : DeviceEvent) :
    Follows r [event] (r.handleEvent event).1 (r.handleEvent event).2 := by
  cases event with
  | stateChanged id new old reason => exact followState_follows r id new old reason
  | needSecrets id need => exact askSecrets_follows r id need
  | linkRequested id request =>
    exact ⟨rfl, rfl, rfl, rfl, rfl, (Bool.or_false _).symm, Nat.le_refl _, List.nodup_nil, nofun⟩

/-- What looking at events one after the other does. -/
theorem foldl_advance_follows {r : Request} (es fs : List DeviceEvent) {p : Progress}
    (h : Follows r es p.request p.effects) :
    Follows r (es ++ fs) (fs.foldl Progress.advance p).request
      (fs.foldl Progress.advance p).effects := by
  induction fs generalizing es p with
  | nil =>
    rw [List.append_nil]
    exact h
  | cons f fs ih =>
    have hStep : Follows r (es ++ [f]) (p.advance f).request (p.advance f).effects :=
      h.trans (handleEvent_follows p.request f)
    have hRest := ih _ hStep
    rw [List.append_assoc] at hRest
    exact hRest

/-- What working off the queue does. -/
theorem processEvents_follows (r : Request) :
    Follows { r with queue := [] } r.queue r.processEvents.request r.processEvents.effects :=
  foldl_advance_follows [] r.queue (Follows.nil _)

theorem queue_processEvents (r : Request) : r.processEvents.request.queue = [] :=
  r.processEvents_follows.queue

theorem foreseen_processEvents (r : Request) : r.processEvents.request.foreseen = r.foreseen := by
  unfold foreseen
  rw [r.queue_processEvents, r.processEvents_follows.state]
  rfl

theorem awaitsSecrets_processEvents (r : Request) :
    r.processEvents.request.awaitsSecrets = r.awaitsSecrets := by
  unfold awaitsSecrets
  rw [r.queue_processEvents, r.processEvents_follows.secrets]
  exact Bool.or_false _

end ScannerHub.Request
