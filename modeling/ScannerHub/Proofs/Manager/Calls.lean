import ScannerHub.Proofs.Manager.Steps

/-!
# Open calls

In a run of the manager many requests call for secrets, and calls are given up and answered, some of
them late or never. Whoever carries out the effects of the requests keeps a list of the calls that are
open. Nothing is ever left on that list by a request that has gone: each open call is the one that some
request still waits for.

* `Manager.exchanges` — all that is said about calls in a run;
* `Manager.Awaits` — a request waits for a call;
* `Manager.Attends` — two moments between which no open call is left behind.

## Results

* `Request.processEvents_knows` — a request that works off its events keeps track of its own call;
* `Step.attends` — no step leaves an open call behind;
* `run_awaits` — nor does a run.
-/

namespace ScannerHub

open Exchange

/-- What an operation says by itself about calls: that an answer came in, whoever waits for it. -/
def Operation.exchanges : Operation → List Exchange
  | .secretsReply call _ => [.answered call]
  | _ => []

-- ---------------------------------------------------------------------------
-- One request
-- ---------------------------------------------------------------------------

namespace Request

/-- Among open calls, those of a request are the one that it waits for. -/
def Knows (r : Request) (calls : List SecretsCall) : Prop :=
  ∀ c ∈ calls, c.request = r.id → r.secrets.map PendingSecrets.call = some c

/-- A request after some events, with what became of the open calls: it still knows its own, and those
of others are open only if they were. -/
structure Minds (r r' : Request) (calls calls' : List SecretsCall) : Prop where
  id : r'.id = r.id
  knows : r.Knows calls → r'.Knows calls'
  others : ∀ c ∈ calls', c.request ≠ r.id → c ∈ calls

theorem Minds.trans {r r' r'' : Request} {calls calls' calls'' : List SecretsCall}
    (h : r.Minds r' calls calls') (h' : r'.Minds r'' calls' calls'') : r.Minds r'' calls calls'' :=
  ⟨h'.id.trans h.id, fun hKnows => h'.knows (h.knows hKnows),
   fun c hc hNe => h.others c (h'.others c hc (h.id ▸ hNe)) hNe⟩

theorem Minds.of_same {r r' : Request} {effects : List Effect} (hId : r'.id = r.id)
    (hSecrets : r'.secrets = r.secrets) (hEffects : ofEffects effects = [])
    (calls : List SecretsCall) : r.Minds r' calls ((ofEffects effects).foldl follow calls) := by
  rw [hEffects]
  refine ⟨hId, fun hKnows c hc hOwn => ?_, fun c hc _ => hc⟩
  rw [hSecrets]
  exact hKnows c hc (hId ▸ hOwn)

/-- A request that follows its device to another state says nothing about calls. -/
theorem followState_calls (r : Request) (new : DeviceState) (reason : StateReason) :
    (r.followState new reason).1.id = r.id ∧ (r.followState new reason).1.secrets = r.secrets ∧
      ofEffects (r.followState new reason).2 = [] := by
  unfold followState
  cases new <;>
    first
      | exact ⟨(finish_same _ _).id, (finish_same _ _).secrets, finish_effects _ _⟩
      | exact ⟨rfl, rfl, rfl⟩

/-- Once the call of a request is given up, none of its calls is open. -/
theorem cancelSecrets_calls (r : Request) {calls : List SecretsCall} (h : r.Knows calls) :
    ∀ c ∈ (ofEffects r.cancelSecrets.2).foldl follow calls, c ∈ calls ∧ c.request ≠ r.id := by
  unfold cancelSecrets
  intro c hc
  cases hSecrets : r.secrets with
  | none =>
    rw [hSecrets] at hc
    refine ⟨hc, fun hOwn => ?_⟩
    have hOpen := h c hc hOwn
    rw [hSecrets] at hOpen
    cases hOpen
  | some p =>
    rw [hSecrets] at hc
    obtain ⟨hMem, hNe⟩ := List.mem_filter.mp (show c ∈ calls.filter fun c => c != p.call from hc)
    refine ⟨hMem, fun hOwn => ?_⟩
    have hOpen := h c hMem hOwn
    rw [hSecrets, Option.map_some, Option.some.injEq] at hOpen
    exact bne_iff_ne.mp hNe hOpen.symm

theorem askSecrets_minds (r : Request) (need : SecretsNeed) (calls : List SecretsCall) :
    r.Minds (r.askSecrets need).1 calls
      ((ofEffects (r.askSecrets need).2).foldl follow calls) := by
  let call : SecretsCall := { request := r.id, seq := r.nextSeq }
  have hRequest : (r.askSecrets need).1.id = r.id ∧
      (r.askSecrets need).1.secrets = some { call, setting := need.setting } := by
    unfold askSecrets
    dsimp only
    rw [cancelSecrets_eq]
    exact ⟨rfl, rfl⟩
  have hCalls : (ofEffects (r.askSecrets need).2).foldl follow calls =
      (ofEffects r.cancelSecrets.2).foldl follow calls ++ [call] := by
    show (ofEffects (r.cancelSecrets.2 ++ [.askSecrets
      { request := r.cancelSecrets.1.id, seq := r.cancelSecrets.1.nextSeq } _])).foldl follow calls = _
    unfold ofEffects
    rw [List.filterMap_append, List.foldl_append, cancelSecrets_eq]
    rfl
  rw [hCalls]
  refine ⟨hRequest.1, fun hKnows c hc hOwn => ?_, fun c hc hNe => ?_⟩
  · rw [hRequest.1] at hOwn
    rw [hRequest.2, Option.map_some, Option.some.injEq]
    rcases List.mem_append.mp hc with hOld | hNew
    · exact absurd hOwn (r.cancelSecrets_calls hKnows c hOld).2
    · exact (List.mem_singleton.mp hNew).symm
  · rcases List.mem_append.mp hc with hOld | hNew
    · have hFew : ∀ c ∈ (ofEffects r.cancelSecrets.2).foldl follow calls, c ∈ calls := by
        unfold cancelSecrets
        cases r.secrets with
        | none => exact fun _ h => h
        | some p => exact fun _ h => (List.mem_filter.mp h).1
      exact hFew c hOld
    · rw [List.mem_singleton.mp hNew] at hNe
      exact absurd rfl hNe

theorem handleEvent_minds (r : Request) (event : DeviceEvent) (calls : List SecretsCall) :
    r.Minds (r.handleEvent event).1 calls
      ((ofEffects (r.handleEvent event).2).foldl follow calls) := by
  cases event with
  | stateChanged id new old reason =>
    obtain ⟨hId, hSecrets, hEffects⟩ := r.followState_calls new reason
    exact .of_same hId hSecrets hEffects calls
  | needSecrets id need => exact r.askSecrets_minds need calls
  | linkRequested id request => exact .of_same rfl rfl rfl calls

/-- A request that works off its events keeps track of its own call. -/
theorem processEvents_knows (r : Request) (calls : List SecretsCall) :
    r.Minds r.processEvents.request calls
      ((ofEffects r.processEvents.effects).foldl follow calls) := by
  have hFold : ∀ (events : List DeviceEvent) (p : Progress),
      r.Minds p.request calls ((ofEffects p.effects).foldl follow calls) →
      r.Minds (events.foldl Progress.advance p).request calls
        ((ofEffects (events.foldl Progress.advance p).effects).foldl follow calls) := by
    intro events
    induction events with
    | nil => exact fun _ h => h
    | cons event events ih =>
      intro p h
      refine ih (p.advance event) ?_
      have hStep := h.trans (p.request.handleEvent_minds event _)
      rw [← List.foldl_append] at hStep
      unfold Progress.advance ofEffects at *
      rw [List.filterMap_append]
      exact hStep
  exact hFold r.queue _ ⟨rfl, fun h => h, fun _ h _ => h⟩

end Request

namespace Manager

variable {A : Nat → String → Prop} {K : Deed → Prop} {m m' m'' : Manager} {c : SecretsCall}

-- ---------------------------------------------------------------------------
-- Requests by their numbers
-- ---------------------------------------------------------------------------

/-- Other versions of requests are found in the same places. -/
theorem request?_map (f : Request → Request) (hf : ∀ r, (f r).id = r.id) (x : Nat) :
    ({ m with requests := m.requests.map f } : Manager).request? x = (m.request? x).map f := by
  unfold request?
  rw [List.find?_map]
  congr 2
  funext r
  rw [Function.comp_apply, hf]

theorem request?_setRequest {r r' : Request} (hr : m.request? r.id = some r) (hId : r'.id = r.id)
    (x : Nat) : (m.setRequest r').request? x = if x = r.id then some r' else m.request? x := by
  have hSet : (m.setRequest r').request? x =
      if x = r'.id then (m.request? x).map fun _ => r' else m.request? x :=
    find?_replaceFirst Request.id r' m.requests x
  rw [hSet, hId]
  split
  · rename_i hx
    rw [hx, hr, Option.map_some]
  · rfl

-- ---------------------------------------------------------------------------
-- Calls that someone waits for
-- ---------------------------------------------------------------------------

/-- A request waits for a call. -/
def Awaits (m : Manager) (c : SecretsCall) : Prop :=
  ∃ r, m.request? c.request = some r ∧ r.secrets.map PendingSecrets.call = some c

/-- Two moments, with calls that are open at the first of them: those that are open at the second one,
after the effects in between, are waited for. -/
def Attends (m m' : Manager) (calls : List SecretsCall) : Prop :=
  ∃ effects, m'.effects = m.effects ++ effects ∧
    ∀ c ∈ (ofEffects effects).foldl follow calls, m'.Awaits c

/-- What is waited for is waited for at another time, if nothing has changed about who waits. -/
theorem Awaits.of_lookup (h : m.Awaits c)
    (hSame : ∀ r, m.request? c.request = some r →
      ∃ r', m'.request? c.request = some r' ∧ r'.secrets = r.secrets) : m'.Awaits c := by
  obtain ⟨r, hr, hCall⟩ := h
  obtain ⟨r', hr', hSecrets⟩ := hSame r hr
  exact ⟨r', hr', hSecrets ▸ hCall⟩

theorem Awaits.of_requests_eq (h : m.Awaits c) (hRequests : m'.requests = m.requests) :
    m'.Awaits c := by
  unfold Awaits request? at *
  rw [hRequests]
  exact h

theorem Attends.silent {calls : List SecretsCall} (effects : List Effect)
    (hEffects : m'.effects = m.effects ++ effects) (hSilent : ofEffects effects = [])
    (h : ∀ c ∈ calls, m'.Awaits c) : Attends m m' calls :=
  ⟨effects, hEffects, by rw [hSilent]; exact h⟩

/-- Nothing happens to requests. -/
theorem Attends.aside {calls : List SecretsCall} (hRequests : m'.requests = m.requests)
    (hEffects : m'.effects = m.effects) (h : ∀ c ∈ calls, m.Awaits c) : Attends m m' calls :=
  .silent [] (hEffects.trans (List.append_nil _).symm) rfl fun c hc => (h c hc).of_requests_eq hRequests

theorem request?_deliver (m : Manager) (listeners : List Listener) (events : List DeviceEvent)
    (x : Nat) : ∀ r, m.request? x = some r →
      ∃ r', (m.deliver listeners events).request? x = some r' ∧ r'.secrets = r.secrets := by
  intro r hr
  have hFound : (m.deliver listeners events).request? x = (m.request? x).map fun r =>
      if Listener.request r.id ∈ listeners then { r with queue := r.queue ++ events } else r :=
    request?_map (m := m) _ (fun r => by split <;> rfl) x
  rw [hFound, hr]
  refine ⟨_, rfl, ?_⟩
  dsimp only
  split <;> rfl

theorem attends_updateDevice {calls : List SecretsCall} (h : ∀ c ∈ calls, m.Awaits c) (id : Nat)
    (f : Device → Update) : Attends m (m.updateDevice id f) calls := by
  unfold updateDevice
  split
  · exact .aside rfl rfl h
  · rename_i d _
    refine .silent [] (List.append_nil _).symm rfl fun c hc => ?_
    exact (h c hc).of_lookup ((m.setDevice (f d).device).request?_deliver _ _ _)

/-- Another version of a request that looks after its own call. -/
theorem attends_setRequest {calls : List SecretsCall} (h : ∀ c ∈ calls, m.Awaits c) {r r' : Request}
    (hr : m.request? r.id = some r) {effects : List Effect}
    (hMinds : r.Minds r' calls ((ofEffects effects).foldl follow calls)) :
    Attends m ((m.setRequest r').perform effects) calls := by
  have hKnows : r.Knows calls := by
    intro c hc hOwn
    obtain ⟨q, hq, hCall⟩ := h c hc
    rw [hOwn, hr] at hq
    cases hq
    exact hCall
  refine ⟨effects, rfl, fun c hc => ?_⟩
  have hFound : ((m.setRequest r').perform effects).request? c.request =
      if c.request = r.id then some r' else m.request? c.request :=
    request?_setRequest hr hMinds.id c.request
  unfold Awaits
  rw [hFound]
  by_cases hOwn : c.request = r.id
  · rw [if_pos hOwn]
    exact ⟨r', rfl, hMinds.knows hKnows c hc (hMinds.id ▸ hOwn)⟩
  · rw [if_neg hOwn]
    exact h c (hMinds.others c hc hOwn)

/-- A request that ends gives up its call. -/
theorem attends_teardown {calls : List SecretsCall} (h : ∀ c ∈ calls, m.Awaits c) (id : Nat)
    (reason : StateReason) : Attends m (m.teardown id reason) calls := by
  cases hr : m.request? id with
  | none =>
    rw [teardown_absent hr]
    exact .aside rfl rfl h
  | some r =>
    obtain ⟨-, rfl⟩ := request?_eq_some hr
    have hKnows : r.Knows calls := by
      intro c hc hOwn
      obtain ⟨q, hq, hCall⟩ := h c hc
      rw [hOwn, hr] at hq
      cases hq
      exact hCall
    rw [teardown_eq hr]
    refine ⟨(r.detach reason).2, rfl, fun c hc => ?_⟩
    rw [Request.detach_effects] at hc
    obtain ⟨hMem, hNe⟩ := r.cancelSecrets_calls hKnows c hc
    refine (h c hMem).of_lookup fun q hq => ⟨q, ?_, rfl⟩
    show (m.requests.filter fun q => q.id != r.id).find? (fun q => q.id == c.request) = some q
    rw [List.find?_filter, ← hq]
    unfold request?
    congr 1
    funext q
    by_cases hId : q.id = c.request <;> simp [hId, hNe]

-- ---------------------------------------------------------------------------
-- Steps
-- ---------------------------------------------------------------------------

/-- No step leaves an open call behind, unless it brings the answer to it. -/
theorem Step.attends (h : Step K m m') {calls : List SecretsCall}
    (hCalls : ∀ c ∈ calls, m.Awaits c ∧ ¬ K (.answers c)) : Attends m m' calls := by
  have hOpen : ∀ c ∈ calls, m.Awaits c := fun c hc => (hCalls c hc).1
  cases h with
  | aside hDevices hRequests hQueue hEvents hEffects => exact .aside hRequests hEffects hOpen
  | urge id hf => exact attends_updateDevice hOpen id _
  | govern hK id hf => exact attends_updateDevice hOpen id _
  | flag id due =>
    refine .aside ?_ ?_ hOpen <;>
    · unfold modifyDevice
      split <;> rfl
  | teardown id reason => exact attends_teardown hOpen id reason
  | look hr => exact attends_setRequest hOpen hr (Request.processEvents_knows _ calls)
  | tell => exact .aside rfl rfl hOpen
  | revise hr hSame hShown hEffects =>
    exact attends_setRequest hOpen hr (.of_same hSame.id hSame.secrets hEffects calls)
  | @answer r r' effects p hK hr hSecrets hSame hShown hEffects =>
    refine attends_setRequest hOpen hr ⟨hSame.id, fun hKnows c hc hOwn => ?_, fun c hc _ => ?_⟩
    · -- the call that is answered is the one that the request waits for, and so none of these
      rw [hEffects] at hc
      have hCall := hKnows c hc (hSame.id ▸ hOwn)
      rw [hSecrets, Option.map_some, Option.some.injEq] at hCall
      rw [hCall] at hK
      exact absurd hK (hCalls c hc).2
    · rwa [hEffects] at hc
  | mark hK request default default6 =>
    unfold setRequestDefault
    cases hr : m.request? request with
    | none => exact .aside rfl rfl hOpen
    | some r =>
      obtain ⟨-, rfl⟩ := request?_eq_some hr
      have hMinds : r.Minds { r with isDefault := default, isDefault6 := default6 } calls
          ((ofEffects []).foldl follow calls) := ⟨rfl, fun hKnows => hKnows, fun _ hc _ => hc⟩
      have hSet := attends_setRequest hOpen hr hMinds
      rw [perform_nil] at hSet
      dsimp only
      split
      · obtain ⟨effects, hEffects, hAwaits⟩ := hSet
        exact ⟨effects, hEffects, fun c hc => (hAwaits c hc).of_requests_eq rfl⟩
      · exact hSet
  | @launch number d spec hd =>
    rcases m.launch_cases number d spec with
      ⟨e, effects, hRefused, hEq⟩ | ⟨r, u, listeners, -, hEq⟩
    · rw [hEq]
      exact .silent effects rfl hRefused.silent fun c hc => (hOpen c hc).of_requests_eq rfl
    · rw [hEq]
      refine .silent [] (List.append_nil _).symm rfl fun c hc => ?_
      have hJoined : (m.joined r listeners u).Awaits c := by
        refine (hOpen c hc).of_lookup fun q hq => ?_
        refine request?_deliver { m.setDevice u.device with requests := m.requests ++ [r] } listeners
          u.events c.request q ?_
        show (m.requests ++ [r]).find? _ = _
        rw [List.find?_append]
        unfold request? at hq
        rw [hq]
        rfl
      exact hJoined.of_requests_eq rfl
  | arrive => exact .aside rfl rfl hOpen
  | dismiss => exact .aside rfl rfl hOpen
  | disband => exact .aside rfl rfl hOpen

theorem Attends.trans {calls : List SecretsCall} (h : Attends m m' calls)
    (h' : ∀ calls, (∀ c ∈ calls, m'.Awaits c) → Attends m' m'' calls) : Attends m m'' calls := by
  obtain ⟨effects, hEffects, hAwaits⟩ := h
  obtain ⟨more, hMore, hAwaits'⟩ := h' _ hAwaits
  refine ⟨effects ++ more, by rw [hMore, hEffects, List.append_assoc], ?_⟩
  unfold ofEffects at *
  rw [List.filterMap_append, List.foldl_append]
  exact hAwaits'

/-- Without answers, no sequence of steps leaves an open call behind. -/
theorem Steps.attends (h : Steps K m m') (hK : ∀ c, ¬ K (.answers c)) (calls : List SecretsCall)
    (hCalls : ∀ c ∈ calls, m.Awaits c) : Attends m m' calls := by
  induction h with
  | refl => exact .aside rfl rfl hCalls
  | tail _ hLast ih => exact ih.trans fun _ h => hLast.attends fun c hc => ⟨h c hc, hK c⟩

-- ---------------------------------------------------------------------------
-- Operations and runs
-- ---------------------------------------------------------------------------

/-- What the effects of an operation leave open is waited for. An answer closes its call before. -/
theorem Settled.operate_attends (h : m.Settled A) (operation : Operation) {calls : List SecretsCall}
    (hCalls : ∀ c ∈ calls, m.Awaits c) :
    Attends m (m.operate operation) (operation.exchanges.foldl follow calls) := by
  by_cases hAnswers : ∃ c, operation.May (.answers c)
  · obtain ⟨c, hMay⟩ := hAnswers
    cases hMay with
    | answers _ answer =>
      have hOthers : ∀ c' ∈ [Exchange.answered c].foldl follow calls, m.Awaits c' ∧
          ¬ (Operation.secretsReply c answer).May (.answers c') := by
        intro c' hc
        obtain ⟨hMem, hNe⟩ := List.mem_filter.mp (show c' ∈ calls.filter fun x => x != c from hc)
        refine ⟨hCalls c' hMem, fun hMay => ?_⟩
        cases hMay
        exact bne_iff_ne.mp hNe rfl
      obtain ⟨m₁, hFirst, hRest⟩ := m.secretsReply_first (K := fun _ => False) c answer
      have hTaken : Attends m m₁ ([Exchange.answered c].foldl follow calls) := by
        rcases hFirst with rfl | hFirst
        · exact .aside rfl rfl fun c' hc => (hOthers c' hc).1
        · exact hFirst.attends hOthers
      exact hTaken.trans fun calls' h => hRest.attends (fun _ hK => hK) calls' h
  · have hNone : operation.exchanges = [] := by
      cases operation <;> first | rfl | exact absurd ⟨_, .answers _ _⟩ hAnswers
    rw [hNone]
    exact (h.operate_steps operation).attends (fun c hMay => hAnswers ⟨c, hMay⟩) calls hCalls

/-- All that is said about calls in a run, by the effects and by the answers that come in. -/
def exchanges (m : Manager) : List Operation → List Exchange
  | [] => []
  | operation :: operations =>
    operation.exchanges ++ ofEffects ((m.operate operation).effects.drop m.effects.length) ++
      (m.operate operation).exchanges operations

/-- After every run each open call is one that a request waits for. -/
theorem run_awaits (h : m.Settled A) (operations : List Operation) {log : List Exchange}
    (hLog : ∀ c ∈ outstanding log, m.Awaits c) :
    ∀ c ∈ outstanding (log ++ m.exchanges operations), (m.run operations).Awaits c := by
  induction operations generalizing m log with
  | nil =>
    unfold exchanges
    rw [List.append_nil]
    exact hLog
  | cons operation operations ih =>
    unfold exchanges
    rw [← List.append_assoc]
    refine ih (operate_settled h operation) ?_
    obtain ⟨effects, hEffects, hAwaits⟩ := h.operate_attends operation hLog
    rw [hEffects, List.drop_left]
    unfold outstanding at hAwaits ⊢
    rw [List.foldl_append, List.foldl_append]
    exact hAwaits

end Manager

end ScannerHub
