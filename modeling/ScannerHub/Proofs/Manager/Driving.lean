import ScannerHub.Proofs.Manager.Grants

/-!
# Operations that drive activations on

Three operations drive activations on: the link of a device changes, secrets arrive or do not, and
time runs out. All of them have three parts. In the first one the requests whose time is up end,
before anything is told. In the second one no activation starts, and once it is over nothing waits
any more. Only then others start.

With that all operations are sequences of passages.

* `Manager.Checked`, `Manager.Ended` — how far the requests whose time is up have got.

## Results

* `Settled.operate_driven` — the three parts of an operation that drives activations on;
* `Settled.operate_passages` — every operation is a sequence of passages that it has leave for.
-/

namespace ScannerHub.Manager

variable {A : Nat → String → Prop} {K : Feat → Prop} {m m₀ m₁ m' m'' : Manager} {id moment : Nat}
variable {operation : Operation}

-- ---------------------------------------------------------------------------
-- What is told, and what starts
-- ---------------------------------------------------------------------------

/-- Once activations were driven on, all is told of that, and only then others start. -/
theorem Coherent.passages_driven (h : m'.Coherent A) (hPassages : Passages A m₀.Driving m₁ m')
    (hStamped : m₁.Stamped) (hNumber : m'.nextRequest = m₀.nextRequest) :
    ∃ m₂, Passages A m₀.Driving m₁ m₂ ∧ m₂.queue = [] ∧
      Passages A (Feat.Starting m₀.nextRequest) m₂ m'.settle := by
  have hPermits : m'.Permits m₀.Driving := fun x => ⟨fun _ => trivial, fun r hr =>
    .inl (Nat.lt_of_lt_of_eq (h.linked.requestBound r (requestOn?_eq_some hr).1) hNumber)⟩
  obtain ⟨hPump, hStart⟩ := h.passages_settle (hPassages.stamped hStamped) hPermits trivial
  rw [hNumber] at hStart
  exact ⟨m'.pump, hPassages.trans hPump, h.pump.2.queue, hStart⟩

/-- An operation that drives nothing on leaves only what starts by itself. -/
theorem Settled.driven_none (h : m.Settled A) :
    ∃ m₂, Passages A m.Driving m m₂ ∧ m₂.queue = [] ∧
      Passages A (Feat.Starting m.nextRequest) m₂ m :=
  ⟨m, .refl, h.queue, .refl⟩

/-- The activation on a device is driven on. -/
theorem Fits.passages_drive (h : m.Fits A) (id : Nat) (hK : K .drives) {f : Device → Update}
    (hf : Device.Drives f)
    (hCarries : ∀ d : Device, d.AllListen → d.Sound → Device.Carries d (f d)) :
    Passages A K m (m.updateDevice id f) ∧ (m.updateDevice id f).nextRequest = m.nextRequest := by
  cases hd : m.device? id with
  | none =>
    rw [updateDevice_absent hd]
    exact ⟨.refl, rfl⟩
  | some d =>
    have hSound := h.sound hd
    have hTurns := Turns.of_update (h.carries hd (hCarries d hSound.allListen hSound.device))
    exact ⟨.single (hTurns.silent (.hears hd (.drives hK hf))), hTurns.nextRequest⟩

theorem Settled.driven_linkChanged (h : m.Settled A) (hStamped : m.Stamped) (device : Nat) (up : Bool) :
    ∃ m₂, Passages A m.Driving m m₂ ∧ m₂.queue = [] ∧
      Passages A (Feat.Starting m.nextRequest) m₂ (m.linkChanged device up) := by
  unfold Manager.linkChanged
  dsimp only
  split
  · exact h.driven_none
  · rename_i c _
    have hCarries : ∀ d : Device, d.AllListen → d.Sound → Device.Carries d (d.linkChanged m.now c up) :=
      fun _ hListen hSound => Device.linkChanged_carries m.now c up hListen hSound
    obtain ⟨hDriven, hNumber⟩ := h.toFits.passages_drive (K := m.Driving) device trivial
      (.link m.now c up) hCarries
    exact (h.toCoherent.updateDevice device hCarries).passages_driven hDriven hStamped hNumber

-- ---------------------------------------------------------------------------
-- Secrets
-- ---------------------------------------------------------------------------

theorem Request.revises_takeSecrets {r r' : Request} {call : SecretsCall}
    {answer : Except Error Settings} {setting : Option String}
    (h : r.takeSecrets call answer = some (r', setting)) : r.Revises r' := by
  obtain ⟨p, connection, -, -, hEq⟩ := Request.takeSecrets_some h
  refine ⟨(Request.goes_takeSecrets h).1, ?_, ?_, ?_, ?_, ?_, fun hNamed => hNamed.takeSecrets h⟩
  all_goals rw [hEq]

/-- Only a request whose device waits for secrets can get some. -/
theorem Settled.needAuth_of_takeSecrets (h : m.Settled A) {r r' : Request} (hr : r ∈ m.requests)
    {d : Device} (hd : m.device? r.device = some d) {call : SecretsCall}
    {answer : Except Error Settings} {setting : Option String}
    (hTaken : r.takeSecrets call answer = some (r', setting)) : d.state = .needAuth := by
  obtain ⟨hMem, hId⟩ := device?_eq_some hd
  obtain ⟨p, connection, hSecrets, -⟩ := Request.takeSecrets_some hTaken
  exact (h.asking hMem).mpr ⟨r, hr, hId.symm, by rw [hSecrets]; rfl⟩

/-- A request that takes an answer tells its device of it. -/
theorem Settled.passages_taken (h : m.Settled A) {r r' : Request} (hr : r ∈ m.requests)
    (hSame : Request.Same { r with secrets := none } r') (hRevises : r.Revises r') (hK : K .drives)
    (c : Connection) (setting : String) :
    let f : Device → Update := fun d => d.secretsUpdated m.now c setting
    Passages A K m ((m.setRequest r').updateDevice r.device f) ∧
      ((m.setRequest r').updateDevice r.device f).Coherent A ∧
        ((m.setRequest r').updateDevice r.device f).nextRequest = m.nextRequest := by
  intro f
  have hMoves : ∀ d : Device, d.AllListen → d.Sound →
      Device.Moves d (f d) ∧ (f d).device.state ≠ .needAuth := fun d hListen hSound =>
    have hBoth := Device.secretsUpdated_moves m.now c setting hListen hSound
    ⟨hBoth.1, hBoth.2.1⟩
  have hNone : Exchange.ofEffects [] = [] := rfl
  obtain ⟨d, hd⟩ := h.toFits.exists_device hr
  have hSound := h.toFits.sound hd
  have hCoherent := h.toCoherent.answered h.looked hr hSame hNone hMoves
  have hSet := (h.toFits.takes h.looked hr hSame hNone).2
  obtain ⟨-, hUpdated, -⟩ := h.toFits.answered h.looked hr hSame hNone hd
    (hMoves d hSound.allListen hSound.device).1
  rw [perform_nil] at hCoherent hSet hUpdated
  have hRevised : Passage A K m (m.setRequest r') :=
    (Turns.of_acts hSet (List.append_nil _).symm (List.append_nil _).symm
      ⟨rfl, rfl, rfl, rfl, rfl⟩ rfl).silent (.revise (h.linked.requestOn?_of_mem hr) hRevises rfl)
  have hTurns := Turns.of_update hUpdated
  exact ⟨.tail (.single hRevised) (hTurns.silent (.hears
    (show (m.setRequest r').device? r.device = some d from hd) (.drives hK (.secrets m.now c setting)))),
    hCoherent, hTurns.nextRequest⟩

/-- A request that gets no secrets fails its device. -/
theorem Settled.passages_refused (h : m.Settled A) {r r' : Request} (hr : r ∈ m.requests)
    (hSame : Request.Same { r with secrets := none } r') (hRevises : r.Revises r') (hK : K .drives)
    (hNeed : ∀ d, m.device? r.device = some d → d.state = .needAuth) :
    let finished := r'.finish (.failed (.activationFailed .noSecrets))
    let m' := ((m.setRequest finished.1).perform finished.2).updateDevice r.device fun d =>
      d.moveTo .failed .noSecrets
    Passages A K m m' ∧ m'.Coherent A ∧ m'.nextRequest = m.nextRequest := by
  intro finished m'
  have hOn := h.linked.requestOn?_of_mem hr
  have hFinish := Request.finish_same r' (.failed (.activationFailed .noSecrets))
  have hBoth : Request.Same { r with secrets := none } finished.1 :=
    ⟨hFinish.id.trans hSame.id, hFinish.device.trans hSame.device,
      hFinish.subscription.trans hSame.subscription, hFinish.queue.trans hSame.queue,
      hFinish.state.trans hSame.state, hFinish.secrets.trans hSame.secrets,
      hFinish.nextSeq.trans hSame.nextSeq⟩
  have hEffects := Request.finish_effects r' (.failed (.activationFailed .noSecrets))
  obtain ⟨d, hd⟩ := h.toFits.exists_device hr
  have hSound := h.toFits.sound hd
  obtain ⟨-, hUpdated, hActs⟩ := h.toFits.answered h.looked hr hBoth hEffects hd
    (f := fun d => d.moveTo .failed .noSecrets)
    (moveTo_failed_moves .noSecrets hSound.allListen hSound.device).1
  have hQuiet := Turns.of_update hUpdated
  have hDecides : Decides m m' := (show Decides m ((m.setRequest finished.1).perform finished.2) from
    ⟨rfl, rfl, rfl, rfl, rfl⟩).trans (decides_updateDevice _ _ _)
  have hTurns : Turns A m m' r.device _ [] finished.2 := .of_acts hActs hQuiet.events
    (hQuiet.effects.trans (List.append_nil _)) hDecides hQuiet.nextDevice
  exact ⟨.single (hTurns.silent (.refuse hK hd hOn (h.looked_on hOn) (hNeed d hd) hRevises)),
    h.toCoherent.answered h.looked hr hBoth hEffects fun _ hListen hSound =>
      moveTo_failed_moves .noSecrets hListen hSound, hTurns.nextRequest⟩

theorem Settled.driven_secretsReply (h : m.Settled A) (hStamped : m.Stamped) (call : SecretsCall)
    (answer : Except Error Settings) :
    ∃ m₂, Passages A m.Driving m m₂ ∧ m₂.queue = [] ∧
      Passages A (Feat.Starting m.nextRequest) m₂ (m.secretsReply call answer) := by
  unfold Manager.secretsReply
  cases hr : m.request? call.request with
  | none => exact h.driven_none
  | some r =>
    obtain ⟨hMem, -⟩ := request?_eq_some hr
    dsimp only
    cases hd : m.device? r.device with
    | none => exact h.driven_none
    | some d =>
      dsimp only
      cases hTaken : r.takeSecrets call answer with
      | none => exact h.toCoherent.passages_driven .refl hStamped rfl
      | some taken =>
        obtain ⟨r', setting⟩ := taken
        have hRevises := Request.revises_takeSecrets hTaken
        obtain ⟨p, connection, -, -, hEq⟩ := Request.takeSecrets_some hTaken
        have hSame : Request.Same { r with secrets := none } r' :=
          hEq ▸ ⟨rfl, rfl, rfl, rfl, rfl, rfl, rfl⟩
        have hDevice : r'.device = r.device := hRevises.goes.device
        cases setting with
        | some setting =>
          obtain ⟨hDriven, hCoherent, hNumber⟩ := h.passages_taken (K := m.Driving) hMem hSame hRevises
            trivial r'.connection setting
          dsimp only
          rw [hDevice]
          exact hCoherent.passages_driven hDriven hStamped hNumber
        | none =>
          obtain ⟨hDriven, hCoherent, hNumber⟩ := h.passages_refused (K := m.Driving) hMem hSame hRevises
            trivial fun _ hd => h.needAuth_of_takeSecrets hMem hd hTaken
          dsimp only
          rw [(Request.finish_same r' _).device, hDevice]
          exact hCoherent.passages_driven hDriven hStamped hNumber

-- ---------------------------------------------------------------------------
-- Time
-- ---------------------------------------------------------------------------

/-- The request is asked whether its time is up. -/
theorem Fits.passage_check (h : m.Fits A) {r : Request} (hr : r ∈ m.requests) (moment : Nat)
    (hExpires : (r.checkTimeout moment).2.2 = true → K (.expires r.id)) :
    let m' := (m.setRequest (r.checkTimeout moment).1).perform (r.checkTimeout moment).2.1
    Passage A K m m' ∧ m'.nextRequest = m.nextRequest := by
  intro m'
  have hActs := h.setRequest_same hr (r.checkTimeout_same moment)
    (Request.issued_of_ofEffects (r.checkTimeout_effects moment))
  have hTurns : Turns A m m' r.device ((m.site r.device).withRequest (r.checkTimeout moment).1) []
      (r.checkTimeout moment).2.1 :=
    .of_acts hActs (List.append_nil _).symm rfl ⟨rfl, rfl, rfl, rfl, rfl⟩ rfl
  have hOn := h.linked.requestOn?_of_mem hr
  refine ⟨hTurns.silent ?_, hTurns.nextRequest⟩
  have hUnchanged : (m.site r.device).Episode K ((m.site r.device).withRequest r) [] [] :=
    .revise hOn ⟨.refl r, rfl, rfl, rfl, rfl, rfl, fun hNamed => ⟨hNamed, rfl⟩⟩ rfl
  unfold Request.checkTimeout at hExpires ⊢
  split
  · exact hUnchanged
  · rename_i deadline hDeadline
    rw [hDeadline] at hExpires
    dsimp only at hExpires
    split
    · rename_i hDue
      rw [if_pos hDue] at hExpires
      exact .expire hOn (hExpires rfl) hDue.2
    · exact hUnchanged

/-- A request whose time is up has come to its outcome once it was asked. -/
theorem Request.checkTimeout_outcome {r : Request} (h : (r.checkTimeout moment).2.2 = true) :
    (r.checkTimeout moment).1.outcome.isSome = true := by
  unfold Request.checkTimeout at h ⊢
  split at h
  · cases h
  · split at h
    · rename_i hDue
      dsimp only
      rw [if_pos hDue]
      unfold Request.finish
      rw [if_neg (by rw [hDue.2]; exact nofun)]
      rfl
    · cases h

/-- The requests that are still to be asked whether their time is up, and those that were. -/
structure Checked (A : Nat → String → Prop) (moment : Nat) (m : Manager) (rest : List Request)
    (m' : Manager) : Prop extends Checking A rest m' where
  passages : Passages A (m.Expiring (.processTimeouts moment)) m m'
  nextRequest : m'.nextRequest = m.nextRequest
  queue : m'.queue = []
  looked : m'.AllLooked
  older : ∀ r ∈ rest, r ∈ m.requests
  overdue : ∀ r ∈ m'.requests, m.Expires r.id (.processTimeouts moment) →
    r.outcome.isSome = true ∨ r ∈ rest

theorem Checked.step {r : Request} {rest : List Request} (h : Checked A moment m (r :: rest) m')
    (hLinked : m.Linked) :
    Checked A moment m rest
      ((m'.setRequest (r.checkTimeout moment).1).perform (r.checkTimeout moment).2.1) := by
  have hr := h.present r List.mem_cons_self
  have hOld := h.older r List.mem_cons_self
  obtain ⟨hChecked, hNumber⟩ := h.coherent.toFits.passage_check (A := A)
    (K := m.Expiring (.processTimeouts moment)) hr moment fun hDue => ⟨r, hOld, rfl, hDue⟩
  have hSame := r.checkTimeout_same moment
  -- what is in the list afterwards is the request that was asked, or another one as it was
  have hCases : ∀ q ∈ ((m'.setRequest (r.checkTimeout moment).1).perform
      (r.checkTimeout moment).2.1).requests,
      q = (r.checkTimeout moment).1 ∨ (q ∈ m'.requests ∧ q.id ≠ r.id) := fun q hq =>
    (h.coherent.linked.of_mem_setRequest hq).imp_right fun hOther => ⟨hOther.1, hSame.id ▸ hOther.2⟩
  refine ⟨h.toChecking.step moment, h.passages.tail hChecked, hNumber.trans h.nextRequest, h.queue,
    fun q hq => ?_, fun q hq => h.older q (List.mem_cons_of_mem r hq), fun q hq hExpires => ?_⟩
  · rcases hCases q hq with rfl | ⟨hMem, -⟩
    · exact hSame.queue.trans (h.looked r hr)
    · exact h.looked q hMem
  · rcases hCases q hq with rfl | ⟨hMem, hNe⟩
    · obtain ⟨r₀, hr₀, hId, hDue⟩ := hExpires
      have hFound := hLinked.request?_of_mem hr₀
      rw [hId.trans hSame.id, hLinked.request?_of_mem hOld] at hFound
      cases hFound
      exact .inl (Request.checkTimeout_outcome hDue)
    · refine (h.overdue q hMem hExpires).imp_right fun hIn => ?_
      exact (List.mem_cons.mp hIn).resolve_left fun hEq => hNe (congrArg Request.id hEq)

theorem Settled.checked (h : m.Settled A) (moment : Nat) :
    Checked A moment m [] (m.requests.foldl (fun m r => (m.setRequest (r.checkTimeout moment).1).perform
      (r.checkTimeout moment).2.1) m) :=
  foldl_rest (P := Checked A moment m) (fun _ _ _ h' => h'.step h.linked) m.requests m
    ⟨h.toCoherent.checking, .refl, rfl, h.queue, h.looked, fun _ hr => hr, fun _ hr _ => .inr hr⟩

/-- A request that has come to its outcome leaves its activation, or takes it along if the device waits
for secrets. -/
theorem Coherent.passages_expireRequest (h : m.Coherent A) {r : Request} (hr : r ∈ m.requests)
    (hExpires : K (.expires r.id)) (hParts : K (.parts r.id .unknown)) (hAbandons : K .abandons)
    (hOutcome : r.outcome.isSome = true) (hQueues : r.queue = [] ∧ m.queueOf r.device = []) :
    Passages A K m (m.expireRequest r.id) ∧ (m.expireRequest r.id).nextRequest = m.nextRequest ∧
      (m.expireRequest r.id).requestOn? r.device = none ∧
        ∀ x, x ≠ r.device → (m.expireRequest r.id).site x = m.site x := by
  obtain ⟨d, hd⟩ := h.toFits.exists_device hr
  have hOn := h.linked.requestOn?_of_mem hr
  have hFound := h.linked.request?_of_mem hr
  obtain ⟨-, orphan, hSome, -, hActs⟩ := h.noted hFound hd
  have hOn' : (m.noted r).requestOn? r.device = some r := (congrArg Site.request hActs.here).trans hOn
  have hThere : (m.noted r).device? r.device = some d := (congrArg Site.device hActs.here).trans hd
  have hOrphan : (m.noted r).orphan? r.device = orphan := congrArg Site.orphan hActs.here
  have hNoted : Passages A K m (m.noted r) := by
    unfold Manager.noted at hActs ⊢
    split
    · exact .single ((Turns.of_acts (h.toFits.addOrphan hd _) (List.append_nil _).symm
        (List.append_nil _).symm ⟨rfl, rfl, rfl, rfl, rfl⟩ rfl).silent (.adopt hOn hExpires))
    · exact .refl
  have hTeardown := hActs.fits.turns_teardownOn r.device .unknown
  have hParted : Passages A K (m.noted r) ((m.noted r).teardownOn r.device .unknown) := by
    refine hActs.fits.passages_part r.device .unknown (fun q hq => ?_) (.inr fun q hq => ?_)
    · cases hOn'.symm.trans hq
      exact ⟨hParts, hQueues.1, (congrArg Site.queue hActs.here).trans hQueues.2⟩
    · cases hOn'.symm.trans hq
      refine ⟨hOutcome, fun e he hActive => ?_⟩
      cases hThere.symm.trans he
      rw [hOrphan, hSome hActive]
      rfl
  have hNone : ((m.noted r).teardownOn r.device .unknown).requestOn? r.device = none :=
    congrArg Site.request hTeardown.here
  have hGone : ((m.noted r).teardownOn r.device .unknown).device? r.device = some (Site.leftAlone d) :=
    (congrArg Site.device hTeardown.here).trans (congrArg (Option.map Site.leftAlone) hThere)
  have hSound := hTeardown.fits.sound hGone
  have hFailed := Turns.of_update (hTeardown.fits.carries hGone (f := Device.failAuth)
    (Device.failAuth_carries hSound.allListen hSound.device))
  have hEq : m.expireRequest r.id =
      ((m.noted r).teardownOn r.device .unknown).updateDevice r.device Device.failAuth := by
    rw [expireRequest_eq hFound, teardown_on hOn', failUnansweredAuth_eq hNone]
  obtain ⟨_, -, -, hExpired⟩ := h.expires hFound hd
  refine ⟨?_, hExpired.within.nextRequest, congrArg Site.request hExpired.here, hExpired.away⟩
  rw [hEq]
  exact (hNoted.trans hParted).tail (hFailed.silent (.hears hGone (.abandons hAbandons hNone)))

/-- The requests whose time is up, of which some are still there. -/
structure Ended (A : Nat → String → Prop) (moment : Nat) (m : Manager) (rest : List Nat)
    (m' : Manager) : Prop where
  coherent : m'.Coherent A
  passages : Passages A (m.Expiring (.processTimeouts moment)) m m'
  nextRequest : m'.nextRequest = m.nextRequest
  expires : ∀ number ∈ rest, m.Expires number (.processTimeouts moment)
  overdue : ∀ r ∈ m'.requests, m.Expires r.id (.processTimeouts moment) → r.id ∈ rest ∧
    r.outcome.isSome = true ∧ r.queue = [] ∧ m'.queueOf r.device = []

theorem Ended.step {number : Nat} {rest : List Nat} (h : Ended A moment m (number :: rest) m') :
    Ended A moment m rest (m'.expireRequest number) := by
  have hExpires := h.expires number List.mem_cons_self
  have hRest : ∀ n ∈ rest, m.Expires n (.processTimeouts moment) :=
    fun n hn => h.expires n (List.mem_cons_of_mem number hn)
  cases hr : m'.request? number with
  | none =>
    rw [expireRequest_absent hr]
    refine ⟨h.coherent, h.passages, h.nextRequest, hRest, fun r hMem hDue => ?_⟩
    obtain ⟨hIn, hReady⟩ := h.overdue r hMem hDue
    refine ⟨(List.mem_cons.mp hIn).resolve_left fun hId => ?_, hReady⟩
    rw [← hId, h.coherent.linked.request?_of_mem hMem] at hr
    cases hr
  | some r =>
    obtain ⟨hMem, rfl⟩ := request?_eq_some hr
    obtain ⟨-, hOutcome, hQueues⟩ := h.overdue r hMem hExpires
    obtain ⟨hEnds, hNumber, hNone, hAway⟩ := h.coherent.passages_expireRequest (A := A)
      (K := m.Expiring (.processTimeouts moment)) hMem hExpires ⟨hExpires, rfl⟩ rfl hOutcome hQueues
    refine ⟨h.coherent.expireRequest r.id, h.passages.trans hEnds, hNumber.trans h.nextRequest, hRest,
      fun q hq hDue => ?_⟩
    have hOn : (m'.expireRequest r.id).requestOn? q.device = some q :=
      (h.coherent.expireRequest r.id).linked.requestOn?_of_mem hq
    have hElsewhere : q.device ≠ r.device := fun hDevice => by
      rw [hDevice, hNone] at hOn
      cases hOn
    have hSite := hAway q.device hElsewhere
    have hOld : q ∈ m'.requests := (requestOn?_eq_some ((congrArg Site.request hSite).symm.trans hOn)).1
    obtain ⟨hIn, hHas, hLooked, hTold⟩ := h.overdue q hOld hDue
    refine ⟨(List.mem_cons.mp hIn).resolve_left fun hId => ?_, hHas, hLooked,
      (congrArg Site.queue hSite).trans hTold⟩
    have hSame := h.coherent.linked.request?_of_mem hOld
    rw [hId, h.coherent.linked.request?_of_mem hMem] at hSame
    cases hSame
    exact hElsewhere rfl

/-- Once they were asked, all requests whose time is up are still there. -/
theorem Settled.ending (h : m.Settled A) (moment : Nat) :
    Ended A moment m ((m.requests.filter fun r => (r.checkTimeout moment).2.2).map Request.id)
      (m.requests.foldl (fun m r => (m.setRequest (r.checkTimeout moment).1).perform
        (r.checkTimeout moment).2.1) m) := by
  have hChecked := h.checked moment
  refine ⟨hChecked.coherent, hChecked.passages, hChecked.nextRequest, fun number hNumber => ?_,
    fun r hr hDue => ⟨?_, (hChecked.overdue r hr hDue).resolve_right (List.not_mem_nil),
      hChecked.looked r hr, queueOf_nil hChecked.queue r.device⟩⟩
  · obtain ⟨r, hr, rfl⟩ := List.mem_map.mp hNumber
    obtain ⟨hMem, hExpired⟩ := List.mem_filter.mp hr
    exact ⟨r, hMem, rfl, hExpired⟩
  · obtain ⟨r₀, hr₀, hId, hExpired⟩ := hDue
    exact List.mem_map.mpr ⟨r₀, List.mem_filter.mpr ⟨hr₀, hExpired⟩, hId⟩

/-- All requests whose time is up end before anything is told. -/
theorem Settled.ended (h : m.Settled A) (moment : Nat) :
    Ended A moment m []
      (((m.requests.filter fun r => (r.checkTimeout moment).2.2).map Request.id).foldl
        Manager.expireRequest (m.requests.foldl (fun m r => (m.setRequest (r.checkTimeout moment).1).perform
          (r.checkTimeout moment).2.1) m)) :=
  foldl_rest (P := Ended A moment m) (fun _ _ _ h' => h'.step) _ _ (h.ending moment)

/-- All devices are asked whether they waited too long. -/
theorem Coherent.passages_poll (h : m'.Coherent A) (hNumber : m'.nextRequest = m.nextRequest)
    (moment : Nat) (ds : List Device) :
    let polled := ds.foldl (fun m d => m.updateDevice d.id fun d => d.pollDeadline moment) m'
    Passages A m.Driving m' polled ∧ polled.Coherent A ∧ polled.nextRequest = m.nextRequest :=
  foldl_rest (P := fun _ m'' => Passages A m.Driving m' m'' ∧ m''.Coherent A ∧
      m''.nextRequest = m.nextRequest)
    (fun d _ _ ⟨hPassages, hCoherent, hSame⟩ =>
      have hCarries : ∀ d : Device, d.AllListen → d.Sound → Device.Carries d (d.pollDeadline moment) :=
        fun _ => Device.pollDeadline_carries moment
      have hPolled := hCoherent.toFits.passages_drive (K := m.Driving) d.id trivial (.poll moment) hCarries
      ⟨hPassages.trans hPolled.1, hCoherent.updateDevice d.id hCarries, hPolled.2.trans hSame⟩)
    ds m' ⟨.refl, h, hNumber⟩

/-- An operation that drives activations on has three parts. Whose time is up ends in the first one,
and what starts, starts in the last one. -/
theorem Settled.operate_driven (h : m.Settled A) (hStamped : m.Stamped)
    (hDrives : operation.drives = true) :
    ∃ m₁ m₂, Passages A (m.Expiring operation) m m₁ ∧
      (∀ r ∈ m₁.requests, ¬ m.Expires r.id operation) ∧
      Passages A m.Driving m₁ m₂ ∧ m₂.queue = [] ∧
      Passages A (Feat.Starting m.nextRequest) m₂ (m.operate operation) := by
  cases operation with
  | linkChanged device up =>
    obtain ⟨m₂, hParts⟩ := h.driven_linkChanged hStamped device up
    exact ⟨m, m₂, .refl, fun _ _ hExpires => hExpires, hParts⟩
  | secretsReply call answer =>
    obtain ⟨m₂, hParts⟩ := h.driven_secretsReply hStamped call answer
    exact ⟨m, m₂, .refl, fun _ _ hExpires => hExpires, hParts⟩
  | processTimeouts moment =>
    have hEnded := h.ended moment
    have hPolled := hEnded.coherent.passages_poll hEnded.nextRequest moment
    obtain ⟨hDriven, hCoherent, hNumber⟩ := hPolled _
    obtain ⟨m₂, hParts⟩ := hCoherent.passages_driven hDriven (hEnded.passages.stamped hStamped) hNumber
    exact ⟨_, m₂, hEnded.passages, fun r hr hDue => List.not_mem_nil (hEnded.overdue r hr hDue).1, hParts⟩
  | _ => cases hDrives

/-- Every operation is a sequence of passages that it has leave for. -/
theorem Settled.operate_passages (h : m.Settled A) (hStamped : m.Stamped) (hMarked : m.Marked)
    (operation : Operation) : Passages A (m.Grants operation) m (m.operate operation) := by
  by_cases hDrives : operation.drives = true
  · obtain ⟨m₁, m₂, hExpiring, -, hDriving, -, hStarting⟩ := h.operate_driven hStamped hDrives
    exact (hExpiring.mono fun _ hFeat => hFeat.grants h.toFits).trans
      ((hDriving.mono fun _ hFeat => hFeat.grants hDrives).trans
        (hStarting.mono fun _ hFeat => Starting.grants hFeat))
  · cases operation with
    | addDevice hNew => exact h.passages_addDevice hStamped hNew
    | removeDevice id => exact h.passages_removeDevice hStamped id rfl
    | removeDeviceByInterface interface =>
      show Passages A _ m (m.removeDeviceByInterface interface).1
      unfold Manager.removeDeviceByInterface
      split
      · exact .refl
      · exact h.passages_removeDevice hStamped _ rfl
    | setFirmwareMissing interface missing => exact h.passages_setFirmwareMissing hStamped interface missing
    | setServiceRunning scope running => exact h.passages_setServiceRunning hStamped hMarked scope running
    | connectionAdded scope path settings => exact h.passages_connectionAdded hStamped scope path settings
    | connectionUpdated scope path settings =>
      exact h.passages_connectionUpdated hStamped scope path settings
    | connectionRemoved scope path =>
      exact h.toCoherent.passages_connectionRemoved h.toQuiet hStamped (Nat.le_refl _) rfl
        (fun r hr _ => h.linked.requestBound r hr) path
    | activateConnection uid service path device specific =>
      exact h.passages_activateConnection hStamped uid service path device specific
    | deactivateConnection uid active => exact h.passages_deactivateConnection hStamped uid active
    | wait request waiter => exact h.passages_wait request waiter
    | setRequestDefault request default default6 => exact h.passages_setRequestDefault request default default6
    | setSleeping uid sleeping => exact h.passages_setSleeping hStamped uid sleeping
    | setEnabled uid enabled => exact h.passages_setEnabled hStamped uid enabled
    | settle =>
      exact Passages.settle .refl (Nat.le_refl _) hStamped h.toCoherent (permits_of_queue h.queue)
    | updateState => exact .single h.toFits.passage_updateState
    | shutdown => exact h.passages_shutdown
    | setClock now =>
      exact .single (h.toFits.quiet ⟨rfl, rfl, rfl, rfl, rfl, rfl, rfl, fun _ => rfl⟩ []
        (List.append_nil _).symm (List.forall_mem_nil _) rfl rfl fun hStamped => hStamped)
    | _ => exact absurd rfl hDrives

end ScannerHub.Manager
