import ScannerHub.Proofs.Device.Lifecycle
import ScannerHub.Activation.Request

/-!
# Calls for secrets

A request talks to whoever has the secrets: it asks, it gives up what it asked, and it gets
answers, of which any may come late or twice. A dialog is a request with all that was said so far.
The calls that were asked and neither given up nor answered are exactly the one that the request
waits for.

* `Exchange.outstanding` — the calls that are open after some exchanges;
* `Dialog.step` — what a request does and hears, one thing at a time;
* `Dialog.Sound` — the invariant.

## Results

* `step_sound` — one step preserves the invariant;
* `run_sound` — so does a whole dialog;
* `outstanding_detach` — the end of a request leaves no call open.
-/

namespace ScannerHub

-- ---------------------------------------------------------------------------
-- Calls
-- ---------------------------------------------------------------------------

/-- The call that an effect makes. -/
def Effect.asked? : Effect → Option SecretsCall
  | askSecrets call _ => some call
  | _ => none

/-- The calls for secrets among effects, in their order. -/
def issued (effects : List Effect) : List SecretsCall := effects.filterMap Effect.asked?

@[simp]
theorem issued_append (es fs : List Effect) : issued (es ++ fs) = issued es ++ issued fs :=
  List.filterMap_append

/-- One thing that is said about a call for secrets. -/
inductive Exchange where
  | asked (call : SecretsCall)
  | cancelled (call : SecretsCall)
  | answered (call : SecretsCall)
deriving DecidableEq, Repr

namespace Exchange

/-- What an effect says about a call for secrets. -/
def ofEffect? : Effect → Option Exchange
  | .askSecrets call _ => some (asked call)
  | .cancelSecrets call => some (cancelled call)
  | .changeFilter _ _ | .answerWaiter _ _ => none

/-- What effects say about calls for secrets, in their order. -/
def ofEffects (effects : List Effect) : List Exchange := effects.filterMap ofEffect?

/-- The call that is made, if it is one. -/
def asked? : Exchange → Option SecretsCall
  | asked call => some call
  | _ => none

/-- The open calls after one more exchange. -/
def follow (calls : List SecretsCall) : Exchange → List SecretsCall
  | asked call => calls ++ [call]
  | cancelled call | answered call => calls.filter fun c => c != call

/-- The calls that were asked and neither given up nor answered. -/
def outstanding (log : List Exchange) : List SecretsCall := log.foldl follow []

/-- All calls that were ever made. -/
def allAsked (log : List Exchange) : List SecretsCall := log.filterMap asked?

theorem outstanding_concat (log : List Exchange) (x : Exchange) :
    outstanding (log ++ [x]) = follow (outstanding log) x := by
  unfold outstanding
  rw [List.foldl_append]
  rfl

/-- No call is made while another one is open. -/
def OneByOne (log : List Exchange) : Prop :=
  ∀ before call after, log = before ++ asked call :: after → outstanding before = []

theorem OneByOne.concat {log : List Exchange} {x : Exchange} (h : OneByOne log)
    (hx : x.asked?.isSome = true → outstanding log = []) : OneByOne (log ++ [x]) := by
  intro before call after hEq
  rcases List.eq_nil_or_concat after with rfl | ⟨init, y, rfl⟩
  · obtain ⟨rfl, hLast⟩ := List.append_inj' hEq rfl
    cases hLast
    exact hx rfl
  · rw [List.concat_eq_append, ← List.cons_append, ← List.append_assoc] at hEq
    obtain ⟨hInit, -⟩ := List.append_inj' hEq rfl
    exact h before call init hInit

end Exchange

/-- The calls among effects are those that are made when the effects are carried out. -/
theorem issued_eq (effects : List Effect) :
    issued effects = Exchange.allAsked (Exchange.ofEffects effects) := by
  unfold issued Exchange.allAsked Exchange.ofEffects
  rw [List.filterMap_filterMap]
  congr 1
  funext e
  cases e <;> rfl

-- ---------------------------------------------------------------------------
-- What leaves calls alone
-- ---------------------------------------------------------------------------

namespace Request

/-- One request at two times, with nothing changed but what waiters and users see of it. -/
structure Same (r r' : Request) : Prop where
  id : r'.id = r.id
  device : r'.device = r.device
  subscription : r'.subscription = r.subscription
  queue : r'.queue = r.queue
  state : r'.state = r.state
  secrets : r'.secrets = r.secrets
  nextSeq : r'.nextSeq = r.nextSeq

theorem Same.refl (r : Request) : Same r r := ⟨rfl, rfl, rfl, rfl, rfl, rfl, rfl⟩

theorem finish_same (r : Request) (outcome : Outcome) : Same r (r.finish outcome).1 := by
  unfold finish
  split <;> exact ⟨rfl, rfl, rfl, rfl, rfl, rfl, rfl⟩

theorem finish_effects (r : Request) (outcome : Outcome) :
    Exchange.ofEffects (r.finish outcome).2 = [] := by
  unfold finish
  split
  · rfl
  · unfold Exchange.ofEffects
    rw [List.filterMap_map, List.filterMap_eq_nil_iff]
    intro w _
    rfl

theorem wait_same (r : Request) (waiter : Nat) : Same r (r.wait waiter).1 := by
  unfold wait
  split
  · exact Same.refl r
  · split <;> exact ⟨rfl, rfl, rfl, rfl, rfl, rfl, rfl⟩

theorem wait_effects (r : Request) (waiter : Nat) : Exchange.ofEffects (r.wait waiter).2 = [] := by
  unfold wait
  split
  · rfl
  · split <;> rfl

theorem cancelSecrets_eq (r : Request) : r.cancelSecrets.1 = { r with secrets := none } := by
  unfold cancelSecrets
  cases hSecrets : r.secrets with
  | none =>
    show r = _
    rw [← hSecrets]
  | some p => rfl

/-- The end of a request gives up its call, and says nothing else about calls. -/
theorem detach_effects (r : Request) (reason : StateReason) :
    Exchange.ofEffects (r.detach reason).2 = Exchange.ofEffects r.cancelSecrets.2 := by
  have hRules : ∀ r : Request, Exchange.ofEffects
      (if r.shared || !r.rules.isEmpty then r.setShared false else (r, [])).2 = [] := by
    intro r
    split
    · unfold setShared Exchange.ofEffects
      rw [if_neg Bool.false_ne_true, List.filterMap_map, List.filterMap_eq_nil_iff]
      intro rule _
      rfl
    · rfl
  have hCancel : ({ r with subscription := none } : Request).cancelSecrets.2 =
      r.cancelSecrets.2 := by
    unfold cancelSecrets
    cases r.secrets <;> rfl
  have hAppend : ∀ es fs : List Effect,
      Exchange.ofEffects (es ++ fs) = Exchange.ofEffects es ++ Exchange.ofEffects fs :=
    fun _ _ => List.filterMap_append
  unfold detach
  dsimp only
  rw [hAppend, hAppend, hRules, finish_effects, List.append_nil, List.append_nil, hCancel]

theorem checkTimeout_same (r : Request) (now : Nat) : Same r (r.checkTimeout now).1 := by
  unfold checkTimeout
  split
  · exact Same.refl r
  · split
    · exact finish_same r _
    · exact Same.refl r

theorem checkTimeout_effects (r : Request) (now : Nat) :
    Exchange.ofEffects (r.checkTimeout now).2.1 = [] := by
  unfold checkTimeout
  split
  · rfl
  · split
    · exact finish_effects r _
    · rfl

-- ---------------------------------------------------------------------------
-- Answers
-- ---------------------------------------------------------------------------

/-- An answer comes to nothing exactly if the request does not wait for it. -/
theorem takeSecrets_eq_none_iff (r : Request) (call : SecretsCall)
    (answer : Except Error Settings) :
    r.takeSecrets call answer = none ↔ ∀ p, r.secrets = some p → p.call ≠ call := by
  unfold takeSecrets
  cases hSecrets : r.secrets with
  | none => simp
  | some p =>
    dsimp only
    constructor
    · intro hNone q hq
      cases hq
      split at hNone
      · assumption
      · split at hNone
        · cases hNone
        · split at hNone <;> cases hNone
    · intro hNe
      rw [if_pos (hNe p rfl)]

/-- A request that takes an answer no longer waits, and may have merged the secrets. -/
theorem takeSecrets_some {r r' : Request} {call : SecretsCall} {answer : Except Error Settings}
    {setting : Option String} (h : r.takeSecrets call answer = some (r', setting)) :
    ∃ p connection, r.secrets = some p ∧ p.call = call ∧
      r' = { r with secrets := none, connection } := by
  unfold takeSecrets at h
  cases hSecrets : r.secrets with
  | none =>
    rw [hSecrets] at h
    cases h
  | some p =>
    simp only [hSecrets] at h
    split at h
    · cases h
    · rename_i hCall
      rw [Decidable.not_not] at hCall
      split at h
      · cases h
        exact ⟨p, r.connection, rfl, hCall, rfl⟩
      · split at h
        · cases h
          exact ⟨p, r.connection, rfl, hCall, rfl⟩
        · cases h
          exact ⟨p, _, rfl, hCall, rfl⟩

end Request

-- ---------------------------------------------------------------------------
-- Dialogs
-- ---------------------------------------------------------------------------

/-- A request with all that was said about its calls for secrets. -/
structure Dialog where
  request : Request
  log : List Exchange

/-- What may happen to a request while it follows its device. -/
inductive DialogInput where
  /-- The request looks at an event of its device. -/
  | event (event : DeviceEvent)
  /-- An answer comes in, to whatever call. -/
  | reply (call : SecretsCall) (answer : Except Error Settings)
  | cancel
  | wait (waiter : Nat)
  /-- The deadline of the request may have passed. -/
  | expire (now : Nat)

namespace Dialog

open Exchange

/-- The dialog once the request has changed and made its effects. -/
def goOn (d : Dialog) (p : Request × List Effect) : Dialog :=
  { request := p.1, log := d.log ++ ofEffects p.2 }

/-- One step of a dialog. An answer is noted whether or not the request waits for it. -/
def step (d : Dialog) : DialogInput → Dialog
  | .event event => d.goOn (d.request.handleEvent event)
  | .cancel => d.goOn d.request.cancelSecrets
  | .wait waiter => d.goOn (d.request.wait waiter)
  | .expire now =>
    let (request, effects, _) := d.request.checkTimeout now
    d.goOn (request, effects)
  | .reply call answer =>
    let heard : Dialog := { d with log := d.log ++ [.answered call] }
    match d.request.takeSecrets call answer with
    | none => heard
    | some (r, some _) => heard.goOn (r, [])
    | some (r, none) => heard.goOn (r.finish (.failed (.activationFailed .noSecrets)))

/-- A whole dialog. -/
def run (d : Dialog) (inputs : List DialogInput) : Dialog := inputs.foldl step d

/-- The call that a request waits for. -/
def pending (r : Request) : List SecretsCall := (r.secrets.map PendingSecrets.call).toList

/-- The open calls are those that the request waits for; each was made when no other was open, and
no two of them are the same. -/
structure Sound (d : Dialog) : Prop where
  calls : outstanding d.log = pending d.request
  oneByOne : OneByOne d.log
  own : ∀ c ∈ allAsked d.log, c.request = d.request.id ∧ c.seq < d.request.nextSeq
  distinct : (allAsked d.log).Nodup

theorem goOn_request (d : Dialog) (p : Request × List Effect) : (d.goOn p).request = p.1 := rfl

theorem start_sound (r : Request) (hSecrets : r.secrets = none) :
    Sound { request := r, log := [] } where
  calls := by
    unfold pending
    rw [hSecrets]
    rfl
  oneByOne before call after hEq := by
    cases before <;> cases hEq
  own := nofun
  distinct := List.nodup_nil

-- ---------------------------------------------------------------------------
-- What a request may say
-- ---------------------------------------------------------------------------

variable {d : Dialog}

/-- Nothing is said about calls. -/
theorem Sound.quiet (h : d.Sound) {p : Request × List Effect}
    (hRequest : p.1.secrets = d.request.secrets ∧ p.1.id = d.request.id ∧
      p.1.nextSeq = d.request.nextSeq)
    (hEffects : ofEffects p.2 = []) : (d.goOn p).Sound := by
  have hLog : (d.goOn p).log = d.log := by
    show d.log ++ ofEffects p.2 = d.log
    rw [hEffects, List.append_nil]
  obtain ⟨hSecrets, hId, hSeq⟩ := hRequest
  exact
    { calls := by
        rw [hLog, h.calls]
        unfold pending
        rw [goOn_request, hSecrets]
      oneByOne := hLog ▸ h.oneByOne
      own := by
        rw [hLog, goOn_request, hId, hSeq]
        exact h.own
      distinct := hLog ▸ h.distinct }

/-- Something is said about a call that was made before. -/
theorem Sound.concat (h : d.Sound) {r : Request} {x : Exchange} (hx : x.asked? = none)
    (hRequest : r.id = d.request.id ∧ r.nextSeq = d.request.nextSeq)
    (hCalls : follow (pending d.request) x = pending r) :
    Sound { request := r, log := d.log ++ [x] } where
  calls := by
    rw [outstanding_concat, h.calls]
    exact hCalls
  oneByOne := h.oneByOne.concat fun hAsked => by
    rw [hx] at hAsked
    cases hAsked
  own c hc := by
    unfold allAsked at hc
    rw [List.filterMap_append, List.filterMap_cons_none hx, List.filterMap_nil,
      List.append_nil] at hc
    rw [hRequest.1, hRequest.2]
    exact h.own c hc
  distinct := by
    unfold allAsked
    rw [List.filterMap_append, List.filterMap_cons_none hx, List.filterMap_nil, List.append_nil]
    exact h.distinct

/-- The open call is given up. -/
theorem Sound.cancelSecrets (h : d.Sound) : (d.goOn d.request.cancelSecrets).Sound := by
  unfold Request.cancelSecrets
  cases hSecrets : d.request.secrets with
  | none => exact h.quiet ⟨rfl, rfl, rfl⟩ rfl
  | some p =>
    refine h.concat (x := .cancelled p.call) rfl ⟨rfl, rfl⟩ ?_
    unfold pending follow
    rw [hSecrets]
    simp

/-- A new call is made while none is open. -/
theorem Sound.ask (h : d.Sound) (hSecrets : d.request.secrets = none) {r : Request} {call : SecretsCall}
    (hCall : call = { request := d.request.id, seq := d.request.nextSeq })
    (hRequest : r.id = d.request.id ∧ r.nextSeq = d.request.nextSeq + 1)
    (hPending : pending r = [call]) : Sound { request := r, log := d.log ++ [.asked call] } := by
  have hOpen : outstanding d.log = [] := by
    rw [h.calls]
    unfold pending
    rw [hSecrets]
    rfl
  have hAll : allAsked (d.log ++ [.asked call]) = allAsked d.log ++ [call] :=
    List.filterMap_append
  exact
    { calls := by
        rw [outstanding_concat, hOpen, hPending]
        rfl
      oneByOne := h.oneByOne.concat fun _ => hOpen
      own := fun c hc => by
        rw [hAll] at hc
        rw [hRequest.1, hRequest.2]
        rcases List.mem_append.mp hc with hc | hc
        · obtain ⟨hId, hSeq⟩ := h.own c hc
          exact ⟨hId, Nat.lt_succ_of_lt hSeq⟩
        · rw [List.mem_singleton.mp hc, hCall]
          exact ⟨rfl, Nat.lt_succ_self _⟩
      distinct := by
        rw [hAll, List.nodup_append]
        refine ⟨h.distinct, List.nodup_cons.mpr ⟨List.not_mem_nil, List.nodup_nil⟩, ?_⟩
        intro c hc c' hc' hEq
        rw [List.mem_singleton.mp hc', hCall] at hEq
        have hSeq := (h.own c hc).2
        rw [hEq] at hSeq
        exact Nat.lt_irrefl _ hSeq }

/-- The open call is given up and a new one is made. -/
theorem Sound.askSecrets (h : d.Sound) (need : SecretsNeed) :
    (d.goOn (d.request.askSecrets need)).Sound := by
  have hCancelled := h.cancelSecrets
  have hNone : d.request.cancelSecrets.1.secrets = none := by
    rw [Request.cancelSecrets_eq]
  have hAsked := hCancelled.ask hNone (r := (d.request.askSecrets need).1) rfl ⟨rfl, rfl⟩ rfl
  have hLog : (d.goOn (d.request.askSecrets need)).log =
      (d.goOn d.request.cancelSecrets).log ++ [.asked
        { request := d.request.cancelSecrets.1.id, seq := d.request.cancelSecrets.1.nextSeq }] := by
    show d.log ++ ofEffects (_ ++ [_]) = d.log ++ ofEffects _ ++ [_]
    unfold ofEffects
    rw [List.filterMap_append, List.append_assoc]
    rfl
  rw [show d.goOn (d.request.askSecrets need) =
    { request := (d.request.askSecrets need).1, log := (d.goOn (d.request.askSecrets need)).log }
    from rfl, hLog]
  exact hAsked

-- ---------------------------------------------------------------------------
-- Steps and whole dialogs
-- ---------------------------------------------------------------------------

theorem Sound.same (h : d.Sound) {p : Request × List Effect} (hSame : Request.Same d.request p.1)
    (hEffects : ofEffects p.2 = []) : (d.goOn p).Sound :=
  h.quiet ⟨hSame.secrets, hSame.id, hSame.nextSeq⟩ hEffects

/-- A request that follows its device to another state says nothing about calls. -/
theorem Sound.followState (h : d.Sound) (new : DeviceState) (reason : StateReason) :
    (d.goOn (d.request.followState new reason)).Sound := by
  have hFinish : ∀ (r : Request) (outcome : Outcome), r.secrets = d.request.secrets →
      r.id = d.request.id → r.nextSeq = d.request.nextSeq →
      (d.goOn ({ (r.finish outcome).1 with state := .ofDevice new }, (r.finish outcome).2)).Sound := by
    intro r outcome hSecrets hId hSeq
    have hSame := r.finish_same outcome
    exact h.quiet ⟨hSame.secrets.trans hSecrets, hSame.id.trans hId, hSame.nextSeq.trans hSeq⟩
      (r.finish_effects outcome)
  unfold Request.followState
  cases new <;> first | exact hFinish _ _ rfl rfl rfl | exact h.quiet ⟨rfl, rfl, rfl⟩ rfl

/-- An answer to the open call closes it, and any other one changes nothing. -/
theorem Sound.reply (h : d.Sound) (call : SecretsCall) (answer : Except Error Settings) :
    (d.step (.reply call answer)).Sound := by
  unfold step
  dsimp only
  cases hTake : d.request.takeSecrets call answer with
  | none =>
    refine h.concat (x := .answered call) rfl ⟨rfl, rfl⟩ ?_
    have hNe := (d.request.takeSecrets_eq_none_iff call answer).mp hTake
    unfold pending follow
    cases hSecrets : d.request.secrets with
    | none => rfl
    | some p => simp [hNe p hSecrets]
  | some taken =>
    obtain ⟨r, setting⟩ := taken
    obtain ⟨p, connection, hSecrets, hCall, rfl⟩ := Request.takeSecrets_some hTake
    have hTaken : Sound
        { request := { d.request with secrets := none, connection }
          log := d.log ++ [.answered call] } := by
      refine h.concat (x := .answered call) rfl ⟨rfl, rfl⟩ ?_
      unfold pending follow
      rw [hSecrets]
      simp [hCall]
    cases setting with
    | some setting => exact hTaken.quiet ⟨rfl, rfl, rfl⟩ rfl
    | none => exact hTaken.same (Request.finish_same _ _) (Request.finish_effects _ _)

theorem step_sound (h : d.Sound) (input : DialogInput) : (d.step input).Sound := by
  cases input with
  | event event =>
    cases event with
    | stateChanged device new old reason => exact h.followState new reason
    | needSecrets device need => exact h.askSecrets need
    | linkRequested device request => exact h.quiet ⟨rfl, rfl, rfl⟩ rfl
  | cancel => exact h.cancelSecrets
  | wait waiter => exact h.same (d.request.wait_same waiter) (d.request.wait_effects waiter)
  | expire now =>
    exact h.same (p := ((d.request.checkTimeout now).1, (d.request.checkTimeout now).2.1))
      (d.request.checkTimeout_same now) (d.request.checkTimeout_effects now)
  | reply call answer => exact h.reply call answer

/-- The end of a request says of its calls what giving up the open one says. -/
theorem log_detach (d : Dialog) (reason : StateReason) :
    (d.goOn (d.request.detach reason)).log = (d.goOn d.request.cancelSecrets).log := by
  show d.log ++ ofEffects (d.request.detach reason).2 = _
  rw [d.request.detach_effects]
  rfl

/-- The end of a request leaves no call open, and makes none. -/
theorem outstanding_detach (h : d.Sound) (reason : StateReason) :
    outstanding (d.goOn (d.request.detach reason)).log = [] ∧
      allAsked (d.goOn (d.request.detach reason)).log = allAsked d.log ∧
      OneByOne (d.goOn (d.request.detach reason)).log := by
  rw [log_detach]
  refine ⟨?_, ?_, h.cancelSecrets.oneByOne⟩
  · rw [h.cancelSecrets.calls]
    unfold pending
    rw [goOn_request, Request.cancelSecrets_eq]
    rfl
  · show (d.log ++ ofEffects d.request.cancelSecrets.2).filterMap Exchange.asked? = _
    rw [List.filterMap_append]
    unfold Request.cancelSecrets
    cases d.request.secrets <;> exact List.append_nil _

/-- A request that has ended waits for no call. -/
theorem pending_detach (r : Request) (reason : StateReason) : pending (r.detach reason).1 = [] := by
  have hNone : (r.detach reason).1.secrets = none := by
    unfold Request.detach
    dsimp only
    rw [(Request.finish_same _ _).secrets]
    unfold Request.setShared
    split <;> rw [Request.cancelSecrets_eq]
    rfl
  unfold pending
  rw [hNone]
  rfl

/-- A whole dialog preserves the invariant. -/
theorem run_sound (h : d.Sound) (inputs : List DialogInput) : (d.run inputs).Sound := by
  induction inputs generalizing d with
  | nil => exact h
  | cons input inputs ih => exact ih (step_sound h input)

end Dialog

end ScannerHub
