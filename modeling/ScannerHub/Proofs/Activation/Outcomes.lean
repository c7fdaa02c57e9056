import ScannerHub.Proofs.Activation.Constancy

/-!
# How requests end

Whatever happens to a request, its first outcome is its last one, and everyone who waits at that time
gets it. So it is enough to know which outcome each event brings: a device that is up brings success,
one that is down a failure with the reason that it names.

Secrets are merged into the copy of the connection that a request holds. They never touch the setting
that says which connection it is.

* `answered` — who gets which outcome;
* `DeviceEvent.ending?` — the outcome that a device event brings;
* `Request.Resolves` — one request at two times, between which something brought an outcome, or not;
* `Connection.Named`, `Request.Named` — a connection that says which one it is.

## Results

* `Resolves.same_or_ends` — an outcome answers everybody, and only the first one does;
* `resolves_processEvents`, `resolves_finish`, `answered_detach` — what happens to a request;
* `Connection.named_ofSettings`, `Connection.Named.mergeSecrets` — the ways to new settings;
* `Named.processEvents`, `Named.takeSecrets` — a request goes on with the connection that it has.
-/

namespace ScannerHub

/-- The waiter that an effect answers, with the outcome that it gets. -/
def Effect.answer? : Effect → Option (Nat × Outcome)
  | answerWaiter waiter outcome => some (waiter, outcome)
  | _ => none

/-- Who is answered by effects, and with what. -/
def answered (effects : List Effect) : List (Nat × Outcome) := effects.filterMap Effect.answer?

@[simp]
theorem answered_append (es fs : List Effect) : answered (es ++ fs) = answered es ++ answered fs :=
  List.filterMap_append

theorem answered_answers (waiters : List Nat) (outcome : Outcome) :
    answered (waiters.map fun w => .answerWaiter w outcome) = waiters.map fun w => (w, outcome) := by
  unfold answered
  rw [List.filterMap_map]
  exact congrFun List.filterMap_eq_map waiters

/-- The states that end a request whose device enters them, other than success. -/
def DeviceState.isEnd : DeviceState → Bool
  | failed | disconnected | unavailable | unmanaged => true
  | _ => false

/-- The outcome that a device brings to its request with an event. -/
def DeviceEvent.ending? : DeviceEvent → Option Outcome
  | stateChanged _ new _ reason =>
    if new = .activated then some (.reached .activated)
    else if new.isEnd then some (.failed (.activationFailed reason)) else none
  | _ => none

theorem findSome?_cons_or {α β : Type} (f : α → Option β) (a : α) (as : List α) :
    (a :: as).findSome? f = (f a).or (as.findSome? f) := by
  rw [List.findSome?_cons]
  cases f a <;> rfl

namespace Request

-- ---------------------------------------------------------------------------
-- The first outcome
-- ---------------------------------------------------------------------------

/-- One request at two times, between which something brought an outcome, or nothing did. -/
structure Resolves (r : Request) (ending : Option Outcome) (r' : Request) (effects : List Effect) :
    Prop where
  goes : r.Goes r'
  connection : r'.connection = r.connection
  nowait : r'.nowait = r.nowait
  outcome : r'.outcome = r.outcome.or ending
  same : r'.outcome = r.outcome →
    r'.waiters = r.waiters ∧ r'.deadline = r.deadline ∧ answered effects = []
  ends : r.outcome = none → ∀ o, r'.outcome = some o →
    r'.waiters = [] ∧ r'.deadline = none ∧ answered effects = r.waiters.map fun w => (w, o)

variable {r r' r'' : Request} {ending ending' : Option Outcome} {effects effects' : List Effect}

theorem Resolves.trans (h : r.Resolves ending r' effects) (h' : r'.Resolves ending' r'' effects') :
    r.Resolves (ending.or ending') r'' (effects ++ effects') where
  goes := h.goes.trans h'.goes
  connection := h'.connection.trans h.connection
  nowait := h'.nowait.trans h.nowait
  outcome := by rw [h'.outcome, h.outcome, Option.or_assoc]
  same hSame := by
    have hFirst : r'.outcome = r.outcome := by
      rw [h'.outcome, h.outcome] at hSame
      rw [h.outcome]
      cases ho : r.outcome with
      | some o => rfl
      | none =>
        rw [ho] at hSame
        cases ending with
        | none => rfl
        | some o => cases hSame
    obtain ⟨hWaiters, hDeadline, hAnswered⟩ := h.same hFirst
    obtain ⟨hWaiters', hDeadline', hAnswered'⟩ := h'.same (hSame.trans hFirst.symm)
    refine ⟨hWaiters'.trans hWaiters, hDeadline'.trans hDeadline, ?_⟩
    rw [answered_append, hAnswered, hAnswered', List.append_nil]
  ends hNone o ho := by
    rw [answered_append]
    cases ho' : r'.outcome with
    | none =>
      obtain ⟨hWaiters, -, hAnswered⟩ := h.same (ho'.trans hNone.symm)
      obtain ⟨hWaiters', hDeadline', hAnswered'⟩ := h'.ends ho' o ho
      refine ⟨hWaiters', hDeadline', ?_⟩
      rw [hAnswered, hAnswered', hWaiters, List.nil_append]
    | some o' =>
      have hSame : r''.outcome = r'.outcome := by
        rw [h'.outcome, ho']
        rfl
      rw [hSame, ho', Option.some.injEq] at ho
      obtain ⟨hWaiters, hDeadline, hAnswered⟩ := h.ends hNone o' ho'
      obtain ⟨hWaiters', hDeadline', hAnswered'⟩ := h'.same hSame
      refine ⟨hWaiters'.trans hWaiters, hDeadline'.trans hDeadline, ?_⟩
      rw [hAnswered, hAnswered', List.append_nil, ho]

/-- Nothing happens to the outcome. -/
theorem Resolves.none_of (hGoes : r.Goes r') (hConnection : r'.connection = r.connection)
    (hNowait : r'.nowait = r.nowait) (hOutcome : r'.outcome = r.outcome)
    (hWaiters : r'.waiters = r.waiters) (hDeadline : r'.deadline = r.deadline)
    (hEffects : answered effects = []) : r.Resolves none r' effects where
  goes := hGoes
  connection := hConnection
  nowait := hNowait
  outcome := by rw [hOutcome, Option.or_none]
  same _ := ⟨hWaiters, hDeadline, hEffects⟩
  ends hNone o ho := by
    rw [hOutcome, hNone] at ho
    cases ho

theorem Resolves.refl (r : Request) : r.Resolves none r [] :=
  .none_of (.refl r) rfl rfl rfl rfl rfl rfl

/-- Either the outcome stays and nobody is answered, or it is the first one and everybody is. -/
theorem Resolves.same_or_ends (h : r.Resolves ending r' effects) :
    (r'.outcome = r.outcome ∧ r'.waiters = r.waiters ∧ r'.deadline = r.deadline ∧ answered effects = []) ∨
      ∃ o, r.outcome = none ∧ r'.outcome = some o ∧ r'.waiters = [] ∧ r'.deadline = none ∧
        answered effects = r.waiters.map fun w => (w, o) := by
  by_cases hSame : r'.outcome = r.outcome
  · exact .inl ⟨hSame, h.same hSame⟩
  · have hNone : r.outcome = none := by
      refine Option.eq_none_iff_forall_ne_some.mpr fun o ho => hSame ?_
      rw [h.outcome, ho]
      rfl
    obtain ⟨o, ho⟩ := Option.ne_none_iff_exists'.mp fun hStill => hSame (hStill.trans hNone.symm)
    exact .inr ⟨o, hNone, ho, h.ends hNone o ho⟩

/-- Nobody is answered but who waited. -/
theorem Resolves.answered_waited (h : r.Resolves ending r' effects) :
    ∀ a ∈ answered effects, a.1 ∈ r.waiters := by
  intro a ha
  rcases h.same_or_ends with ⟨-, -, -, hNobody⟩ | ⟨o, -, -, -, -, hAll⟩
  · rw [hNobody] at ha
    cases ha
  · rw [hAll] at ha
    obtain ⟨w, hw, rfl⟩ := List.mem_map.mp ha
    exact hw

/-- Nobody begins to wait. -/
theorem Resolves.waited (h : r.Resolves ending r' effects) : ∀ w ∈ r'.waiters, w ∈ r.waiters := by
  intro w hw
  rcases h.same_or_ends with ⟨-, hWaiters, -, -⟩ | ⟨o, -, -, hNobody, -, -⟩
  · exact hWaiters ▸ hw
  · rw [hNobody] at hw
    cases hw

theorem resolves_finish (r : Request) (outcome : Outcome) :
    r.Resolves (some outcome) (r.finish outcome).1 (r.finish outcome).2 := by
  have hGoes := r.goes_finish outcome
  unfold finish at hGoes ⊢
  split at hGoes
  · rename_i hSome
    rw [if_pos hSome]
    obtain ⟨o, ho⟩ := Option.isSome_iff_exists.mp hSome
    refine ⟨hGoes, rfl, rfl, ?_, fun _ => ⟨rfl, rfl, rfl⟩, fun hNone => ?_⟩
    · rw [ho]
      rfl
    · rw [ho] at hNone
      cases hNone
  · rename_i hNone
    rw [if_neg hNone]
    rw [Bool.not_eq_true, Option.isSome_eq_false_iff, Option.isNone_iff_eq_none] at hNone
    refine ⟨hGoes, rfl, rfl, ?_, fun hSame => ?_, fun _ o ho => ?_⟩
    · rw [hNone]
      rfl
    · rw [hNone] at hSame
      cases hSame
    · cases ho
      exact ⟨rfl, rfl, answered_answers _ _⟩

theorem answered_cancelSecrets (r : Request) : answered r.cancelSecrets.2 = [] := by
  unfold cancelSecrets
  cases r.secrets <;> rfl

theorem resolves_askSecrets (r : Request) (need : SecretsNeed) :
    r.Resolves none (r.askSecrets need).1 (r.askSecrets need).2 := by
  have hGoes := (r.goes_askSecrets need).1
  have hEffects : answered (r.askSecrets need).2 = [] := by
    unfold askSecrets
    dsimp only
    rw [answered_append, answered_cancelSecrets]
    rfl
  unfold askSecrets at hGoes hEffects ⊢
  dsimp only at hGoes hEffects ⊢
  rw [cancelSecrets_eq] at hGoes hEffects ⊢
  exact .none_of hGoes rfl rfl rfl rfl rfl hEffects

/-- What a request shows to others decides about nothing else. -/
theorem Resolves.shows (h : r.Resolves ending r' effects) {state : ActiveState}
    (hGoes : r.Goes { r' with state }) : r.Resolves ending { r' with state } effects :=
  ⟨hGoes, h.connection, h.nowait, h.outcome, h.same, h.ends⟩

theorem resolves_followState (r : Request) (id : Nat) (new old : DeviceState)
    (reason : StateReason) :
    r.Resolves (DeviceEvent.ending? (.stateChanged id new old reason)) (r.followState new reason).1
      (r.followState new reason).2 := by
  have hGoes := (r.followState_shown new reason).1
  have hClear : r.Resolves none { r with isDefault := false, isDefault6 := false } [] :=
    .none_of ⟨rfl, rfl, rfl, rfl, rfl, rfl, fun _ _ => ⟨rfl, rfl⟩, fun h => h⟩ rfl rfl rfl rfl rfl rfl
  unfold followState at hGoes ⊢
  cases new with
  | activated => exact (r.resolves_finish _).shows hGoes
  | failed => exact (hClear.trans (resolves_finish _ _)).shows hGoes
  | disconnected => exact (hClear.trans (resolves_finish _ _)).shows hGoes
  | unavailable => exact (hClear.trans (resolves_finish _ _)).shows hGoes
  | unmanaged => exact (hClear.trans (resolves_finish _ _)).shows hGoes
  | unknown => exact hClear.shows hGoes
  | prepare => exact (Resolves.refl r).shows hGoes
  | config => exact (Resolves.refl r).shows hGoes
  | needAuth => exact (Resolves.refl r).shows hGoes
  | ipConfig => exact (Resolves.refl r).shows hGoes

theorem resolves_handleEvent (r : Request) (event : DeviceEvent) :
    r.Resolves event.ending? (r.handleEvent event).1 (r.handleEvent event).2 := by
  cases event with
  | stateChanged id new old reason => exact r.resolves_followState id new old reason
  | needSecrets id need => exact r.resolves_askSecrets need
  | linkRequested id request => exact .refl r

/-- Of all events that a request works off, the first one that brings an outcome decides. -/
theorem resolves_processEvents (r : Request) :
    r.Resolves (r.queue.findSome? DeviceEvent.ending?) r.processEvents.request
      r.processEvents.effects := by
  have hFold : ∀ (events : List DeviceEvent) (p : Progress) (ending : Option Outcome),
      r.Resolves ending p.request p.effects →
      r.Resolves (ending.or (events.findSome? DeviceEvent.ending?))
        (events.foldl Progress.advance p).request (events.foldl Progress.advance p).effects := by
    intro events
    induction events with
    | nil =>
      intro p ending h
      rw [List.findSome?_nil, Option.or_none]
      exact h
    | cons event events ih =>
      intro p ending h
      have hNext := ih (p.advance event) _ (h.trans (p.request.resolves_handleEvent event))
      rw [Option.or_assoc, ← findSome?_cons_or] at hNext
      exact hNext
  exact hFold r.queue _ none
    (.none_of ⟨rfl, rfl, rfl, rfl, rfl, rfl, fun h => h, fun h => h⟩ rfl rfl rfl rfl rfl rfl)

/-- A request that leaves its device answers everyone who still waits. -/
theorem answered_detach (r : Request) (reason : StateReason) :
    answered (r.detach reason).2 =
      if r.outcome.isSome then []
      else r.waiters.map fun w => (w, .failed (.activationFailed reason)) := by
  have hRules : ∀ r : Request, answered
      (if r.shared || !r.rules.isEmpty then r.setShared false else (r, [])).2 = [] ∧
      (if r.shared || !r.rules.isEmpty then r.setShared false else (r, [])).1.outcome = r.outcome ∧
      (if r.shared || !r.rules.isEmpty then r.setShared false else (r, [])).1.waiters = r.waiters := by
    intro r
    split
    · refine ⟨?_, rfl, rfl⟩
      unfold setShared answered
      rw [if_neg Bool.false_ne_true, List.filterMap_map, List.filterMap_eq_nil_iff]
      intro rule _
      rfl
    · exact ⟨rfl, rfl, rfl⟩
  have hFinish : ∀ (r : Request) (outcome : Outcome), answered (r.finish outcome).2 =
      if r.outcome.isSome then [] else r.waiters.map fun w => (w, outcome) := by
    intro r outcome
    unfold finish
    split
    · rfl
    · exact answered_answers _ _
  unfold detach
  dsimp only
  rw [cancelSecrets_eq, answered_append, answered_append, (hRules _).1, hFinish, (hRules _).2.1,
    (hRules _).2.2]
  have hCancelled := answered_cancelSecrets { r with subscription := none }
  rw [hCancelled, List.nil_append, List.nil_append]

end Request

-- ---------------------------------------------------------------------------
-- Connections that say which one they are
-- ---------------------------------------------------------------------------

namespace Connection

variable {c c' : Connection}

/-- The settings of a connection say which one it is. -/
def Named (c : Connection) : Prop :=
  ∃ map, c.settings.get? connectionSettingName = some map ∧
    (map.get? "uuid").bind SettingValue.text? = some c.uuid

theorem uuid_ofMap {map : SettingMap} {base : ConnectionSetting}
    (h : ConnectionSetting.ofMap map = .ok base) :
    (map.get? "uuid").bind SettingValue.text? = some base.uuid := by
  unfold ConnectionSetting.ofMap at h
  dsimp only at h
  split at h
  · cases h
  · split at h
    · cases h
    · split at h
      · cases h
      · rename_i uuid hUuid
        split at h
        · cases h
        · split at h
          · cases h
          · split at h
            · cases h
            · cases h
              exact hUuid

/-- Settings that are acceptable say which connection they are of. -/
theorem ofSettings_eq_ok {scope : Scope} {settings : Settings}
    (h : Connection.ofSettings scope settings = .ok c) : c.settings = settings ∧ c.Named := by
  unfold Connection.ofSettings verify at h
  cases hFound : settings.get? connectionSettingName with
  | none =>
    rw [hFound] at h
    cases h
  | some map =>
    rw [hFound] at h
    dsimp only at h
    cases hBase : ConnectionSetting.ofMap map with
    | error e =>
      rw [hBase] at h
      cases h
    | ok base =>
      rw [hBase] at h
      dsimp only at h
      split at h
      · cases h
      · split at h
        · cases h
        · cases h
          exact ⟨rfl, map, hFound, uuid_ofMap hBase⟩

/-- Secrets for the link leave a connection the one that it is. -/
theorem Named.mergeSecrets {secrets : Settings} (h : c.Named)
    (hMerged : c.mergeSecrets bluetoothSettingName secrets = .ok c') :
    c'.Named ∧ c'.uuid = c.uuid := by
  unfold Connection.mergeSecrets at hMerged
  split at hMerged
  · cases hMerged
  · split at hMerged
    · cases hMerged
    · split at hMerged
      · cases hMerged
      · rename_i secretMap _ settings hSettings
        obtain ⟨hSame, hNamed⟩ := ofSettings_eq_ok hMerged
        refine ⟨hNamed, ?_⟩
        have hKept : settings.get? connectionSettingName =
            c.settings.get? connectionSettingName := by
          unfold withSecrets? at hSettings
          dsimp only at hSettings
          split at hSettings
          · cases hSettings
            rw [Dict.get?_insert, if_neg (by decide)]
          · split at hSettings
            · cases hSettings
            · cases hSettings
              rw [Dict.get?_insert, if_neg (by decide)]
        obtain ⟨map, hFound, hUuid⟩ := h
        obtain ⟨map', hFound', hUuid'⟩ := hNamed
        rw [hSame, hKept, hFound] at hFound'
        cases hFound'
        exact Option.some.inj (hUuid'.symm.trans hUuid)

theorem Named.setTimestamp (h : c.Named) (time : UInt64) : (c.setTimestamp time).Named := by
  obtain ⟨map, hFound, hUuid⟩ := h
  unfold Connection.setTimestamp
  rw [hFound]
  refine ⟨map.insert "timestamp" (.word64 time), ?_, ?_⟩
  · rw [Dict.get?_insert, if_pos rfl]
  · rw [Dict.get?_insert, if_neg (by decide)]
    exact hUuid

end Connection

namespace Request

variable {r r' : Request}

/-- The connection of a request says which one it is, and nothing is asked for that could change
this. -/
structure Named (r : Request) : Prop where
  connection : r.connection.Named
  secrets : ∀ p, r.secrets = some p → p.setting = bluetoothSettingName
  queue : ∀ id need, .needSecrets id need ∈ r.queue → need.setting = bluetoothSettingName

theorem secrets_finish (r : Request) (outcome : Outcome) :
    (r.finish outcome).1.secrets = r.secrets :=
  (r.finish_same outcome).secrets

theorem secrets_handleEvent (r : Request) (event : DeviceEvent) :
    (r.handleEvent event).1.secrets = r.secrets ∨
      ∃ id need call, event = .needSecrets id need ∧
        (r.handleEvent event).1.secrets = some { call, setting := need.setting } := by
  cases event with
  | stateChanged id new old reason =>
    left
    show (r.followState new reason).1.secrets = r.secrets
    unfold followState
    cases new <;> first | rfl | exact secrets_finish _ _
  | needSecrets id need =>
    right
    refine ⟨id, need, { request := r.id, seq := r.nextSeq }, rfl, ?_⟩
    show (r.askSecrets need).1.secrets = _
    unfold askSecrets
    dsimp only
    rw [cancelSecrets_eq]
  | linkRequested id request => exact Or.inl rfl

theorem Named.processEvents (h : r.Named) : r.processEvents.request.Named := by
  have hFold : ∀ (events : List DeviceEvent) (p : Progress),
      (∀ id need, .needSecrets id need ∈ events → need.setting = bluetoothSettingName) →
      (∀ q, p.request.secrets = some q → q.setting = bluetoothSettingName) →
      ∀ q, (events.foldl Progress.advance p).request.secrets = some q →
        q.setting = bluetoothSettingName := by
    intro events
    induction events with
    | nil => exact fun p _ hSecrets => hSecrets
    | cons event events ih =>
      intro p hEvents hSecrets
      refine ih (p.advance event) (fun id need hIn => hEvents id need (List.mem_cons_of_mem _ hIn))
        fun q hq => ?_
      change (p.request.handleEvent event).1.secrets = some q at hq
      rcases p.request.secrets_handleEvent event with hSame | ⟨id, need, call, rfl, hAsked⟩
      · exact hSecrets q (hSame ▸ hq)
      · rw [hAsked] at hq
        cases hq
        exact hEvents id need List.mem_cons_self
  refine ⟨r.resolves_processEvents.connection ▸ h.connection, hFold r.queue _ h.queue h.secrets,
    fun id need hIn => ?_⟩
  rw [r.queue_processEvents] at hIn
  cases hIn

theorem Named.hear (h : r.Named) {events : List DeviceEvent}
    (hEvents : ∀ id need, .needSecrets id need ∈ events → need.setting = bluetoothSettingName) :
    (r.hear events).Named :=
  ⟨h.connection, h.secrets, fun id need hIn =>
    (List.mem_append.mp hIn).elim (h.queue id need) (hEvents id need)⟩

/-- A request that gets secrets, or none, goes on with the connection that it has. -/
theorem Named.takeSecrets (h : r.Named) {call : SecretsCall} {answer : Except Error Settings}
    {setting : Option String} (hTaken : r.takeSecrets call answer = some (r', setting)) :
    r'.Named ∧ r'.connection.uuid = r.connection.uuid := by
  unfold Request.takeSecrets at hTaken
  split at hTaken
  · cases hTaken
  · rename_i p hSecrets
    split at hTaken
    · cases hTaken
    · split at hTaken
      · cases hTaken
        exact ⟨⟨h.connection, nofun, h.queue⟩, rfl⟩
      · dsimp only at hTaken
        split at hTaken
        · cases hTaken
          exact ⟨⟨h.connection, nofun, h.queue⟩, rfl⟩
        · rename_i hMerged
          cases hTaken
          rw [h.secrets p hSecrets] at hMerged
          obtain ⟨hNamed, hUuid⟩ := h.connection.mergeSecrets hMerged
          exact ⟨⟨hNamed, nofun, h.queue⟩, hUuid⟩

end Request

end ScannerHub
