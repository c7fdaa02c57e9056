import ScannerHub.Manager.Policy
import ScannerHub.Proofs.Manager.Operations

/-!
# Users, answers and time

What users, the answers to calls for secrets and the clock ask of a settled manager leads to a
settled manager. A timeout is the one operation that takes the request away from an activation that
goes on: the activation is noted among those without a request first.

## Results

* `Settled.activateConnection`, `Settled.deactivateConnection`, `Settled.setSleeping`,
  `Settled.setEnabled`, `Settled.wait`, `Settled.setRequestDefault` — users;
* `Settled.secretsReply`, `Settled.processTimeoutsAt`, `Settled.shutdown` — answers and time;
* `Settled.policy_handle` — the policy, which only moves marks.
-/

namespace ScannerHub.Manager

variable {A : Nat → String → Prop} {m m' : Manager} {id : Nat}

-- ---------------------------------------------------------------------------
-- Activations
-- ---------------------------------------------------------------------------

theorem Settled.activateConnection (h : m.Settled A) (uid : Nat) (service path device : String)
    (specific : Option String) :
    (m.activateConnection uid service path device specific).1.Settled A := by
  unfold Manager.activateConnection
  split
  · exact h
  · split
    · exact h
    · rename_i scope _
      split
      · exact h
      · rename_i id _
        dsimp only
        split
        · rename_i e hActivate
          rcases h.toCoherent.activate_spec id scope path _ true with ⟨e', hEq⟩ | ⟨⟨r, hOk⟩, -⟩
          · rw [hActivate] at hEq
            cases hEq
            exact h
          · rw [hActivate] at hOk
            cases hOk
        · rename_i hActivate
          have hStarted := h.toCoherent.activate id scope path
            (specific.filter fun p => !p.isEmpty && p != "/") true
          rw [hActivate] at hStarted
          exact hStarted.settle

theorem Settled.deactivateConnection (h : m.Settled A) (uid : Nat) (active : String) :
    (m.deactivateConnection uid active).1.Settled A := by
  unfold Manager.deactivateConnection
  split
  · exact h
  · split
    · exact h
    · rename_i r hFound
      obtain ⟨id, -, hr⟩ := Option.bind_eq_some_iff.mp hFound
      obtain ⟨hMem, -⟩ := request?_eq_some hr
      refine Coherent.settle (h.toCoherent.teardown_stop (h.linked.request?_of_mem hMem)
        .userRequested (fun d hListen hSound => ?_) fun d hListen _ =>
          Device.deactivate_idle .userRequested hListen)
      exact Device.Carries.of_flags (e := { d with autoconnectInhibited := true })
        ⟨rfl, rfl, rfl, rfl, fun _ => rfl, rfl⟩ rfl ⟨hSound.stop, hSound.managed, hSound.hardware⟩
        (Device.deactivate_carries .userRequested hListen
          ⟨hSound.stop, hSound.managed, hSound.hardware⟩)

-- ---------------------------------------------------------------------------
-- What users see of a request
-- ---------------------------------------------------------------------------

/-- A request that changed in nothing that matters to its device. -/
theorem Coherent.setRequest_same (h : m.Coherent A) {r r' : Request} (hr : r ∈ m.requests)
    (hSame : Request.Same r r') {effects : List Effect}
    (hEffects : Exchange.ofEffects effects = []) :
    ((m.setRequest r').perform effects).Coherent A := by
  refine (h.toFits.setRequest_same hr hSame (Request.issued_of_ofEffects hEffects)).coherent
    (fun x _ => h.accounted x) fun d hd => ?_
  refine (h.held hd).withRequest (h.linked.requestOn?_of_mem hr) fun _ hAwaits => ?_
  unfold Request.awaitsSecrets at hAwaits ⊢
  rw [hSame.queue, hSame.secrets]
  exact hAwaits

theorem Settled.setRequest_same (h : m.Settled A) {r r' : Request} (hr : r ∈ m.requests)
    (hSame : Request.Same r r') {effects : List Effect}
    (hEffects : Exchange.ofEffects effects = []) :
    ((m.setRequest r').perform effects).Settled A := by
  refine ⟨h.toCoherent.setRequest_same hr hSame hEffects, ⟨h.queue, fun q hq => ?_⟩, h.pending,
    h.state⟩
  rcases mem_setRequest hq with rfl | hq
  · rw [hSame.queue]
    exact h.looked r hr
  · exact h.looked q hq

/-- An event that is no news about a link. -/
theorem Settled.publish (h : m.Settled A) {event : ManagerEvent}
    (hNews : ∀ id, event.linkNews? id = none) : (m.publish event).Settled A :=
  ⟨h.toCoherent.same (same_publish m hNews), ⟨h.queue, h.looked⟩, h.pending, h.state⟩

theorem Settled.wait (h : m.Settled A) (request waiter : Nat) :
    (m.wait request waiter).1.Settled A := by
  unfold Manager.wait
  split
  · exact h
  · rename_i r hr
    exact h.setRequest_same (request?_eq_some hr).1 (r.wait_same waiter) (r.wait_effects waiter)

theorem perform_nil (m : Manager) : m.perform [] = m := by
  unfold perform
  rw [List.append_nil]

theorem Settled.setRequestDefault (h : m.Settled A) (request : Nat) (default default6 : Bool) :
    (m.setRequestDefault request default default6).Settled A := by
  unfold Manager.setRequestDefault
  split
  · exact h
  · rename_i r hr
    have hMarked := h.setRequest_same (request?_eq_some hr).1
      (show Request.Same r { r with isDefault := default, isDefault6 := default6 } from
        ⟨rfl, rfl, rfl, rfl, rfl, rfl, rfl⟩) (show Exchange.ofEffects [] = [] from rfl)
    rw [perform_nil] at hMarked
    dsimp only
    split
    · exact hMarked.publish fun _ => rfl
    · exact hMarked

theorem devices_setRequestDefault (m : Manager) (id : Nat) (default default6 : Bool) :
    (m.setRequestDefault id default default6).devices = m.devices := by
  unfold Manager.setRequestDefault
  split
  · rfl
  · dsimp only
    split <;> rfl

/-- The policy moves marks from one request to another. -/
theorem Settled.policy_update (h : m.Settled A) : (Policy.update m).2.Settled A := by
  have hOthers := foldl_rest (P := fun _ m' => Settled A m')
    (fun id _ _ h => h.setRequestDefault id false false)
    ((m.requests.map Request.id).filter fun id => some id ≠ Policy.best? m) m h
  unfold Policy.update
  dsimp only
  split
  · exact hOthers.setRequestDefault _ true true
  · exact hOthers

theorem Settled.policy_handle (h : m.Settled A) (p : Policy) (event : ManagerEvent) :
    (p.handle m event).2.Settled A := by
  unfold Policy.handle
  split
  · exact h.policy_update
  · exact h

-- ---------------------------------------------------------------------------
-- Sleep
-- ---------------------------------------------------------------------------

/-- All devices are stopped, whether they still have an owner or not. -/
theorem Fits.stop_all (h : m.Fits A) (hIdleHeld : m.IdleHeld) {f : Device → Update}
    (hf : ∀ d : Device, d.AllListen → d.Sound → Device.Carries d (f d))
    (hIdle : ∀ d : Device, d.AllListen → d.Sound → (f d).device.state.isActive = false) :
    (m.devices.foldl (fun m d => m.updateDevice d.id f) m).Coherent A := by
  have hAbsent : ∀ x, x ∉ m.devices.map Device.id → (m.site x).Accounted := by
    intro x hx d hd
    obtain ⟨hMem, rfl⟩ := device?_eq_some hd
    exact absurd (List.mem_map_of_mem hMem) hx
  let P : List Device → Manager → Prop := fun rest m' =>
    Fits A m' ∧ m'.IdleHeld ∧ ∀ x, x ∉ rest.map Device.id → (m'.site x).Accounted
  have hStep : ∀ (d : Device) (rest : List Device) (m' : Manager), P (d :: rest) m' →
      P rest (m'.updateDevice d.id f) := by
    rintro d rest m' ⟨hFits, hIdleHeld, hAccounted⟩
    obtain ⟨s, hActs, hs⟩ := hFits.stopped hIdleHeld d.id hf hIdle
    refine ⟨hActs.fits, hIdleHeld.acts hActs hs, fun x hx => ?_⟩
    by_cases hEq : x = d.id
    · rw [hEq, hActs.here]
      exact hs
    · rw [hActs.away x hEq]
      refine hAccounted x fun hIn => ?_
      rw [List.map_cons, List.mem_cons] at hIn
      exact hIn.elim hEq hx
  obtain ⟨hFits, -, hAccounted⟩ := foldl_rest (P := P) hStep m.devices m ⟨h, hIdleHeld, hAbsent⟩
  exact ⟨hFits, fun x => hAccounted x List.not_mem_nil⟩

/-- All requests end. -/
theorem Fits.teardown_each (h : m.Fits A) (hIdleHeld : m.IdleHeld) (reason : StateReason)
    (rs : List Request) :
    (rs.foldl (fun m r => m.teardown r.id reason) m).Fits A ∧
      (rs.foldl (fun m r => m.teardown r.id reason) m).IdleHeld :=
  foldl_rest (P := fun _ m' => Fits A m' ∧ m'.IdleHeld)
    (fun r _ _ h => ⟨(h.1.teardown_fits r.id reason).1, h.2.teardown h.1 r.id reason⟩) rs m
    ⟨h, hIdleHeld⟩

/-- What is asked of the devices once a switch has been moved. -/
def switched (m : Manager) : Manager :=
  if m.isAsleep then
    let m := m.requests.foldl (fun m r => m.teardown r.id .sleeping) { m with invalid := [] }
    m.devices.foldl (fun m d => m.updateDevice d.id fun d => d.setManaged false .sleeping) m
  else
    m.devices.foldl (fun m d => m.updateDevice d.id fun d =>
      { d with autoconnectInhibited := false }.setManaged true .nowManaged) m

theorem Coherent.switched (h : m.Coherent A) : m.switched.Coherent A := by
  unfold Manager.switched
  dsimp only
  split
  · have hAll : ({ m with invalid := [] } : Manager).Coherent A :=
      h.same ⟨rfl, rfl, rfl, rfl, rfl, rfl, rfl, fun _ => rfl⟩
    obtain ⟨hFits, hIdleHeld⟩ := hAll.toFits.teardown_each hAll.idleHeld .sleeping m.requests
    refine hFits.stop_all hIdleHeld
      (fun d hListen hSound => Device.setManaged_carries false .sleeping hListen hSound)
      fun d hListen hSound => ?_
    rw [Device.setManaged_false_state .sleeping hListen hSound]
    rfl
  · refine foldl_rest (P := fun _ m' => Coherent A m') (fun d _ _ h => ?_) m.devices m h
    refine h.updateDevice d.id fun d hListen hSound => ?_
    exact Device.Carries.of_flags (e := { d with autoconnectInhibited := false })
      ⟨rfl, rfl, rfl, rfl, fun _ => rfl, rfl⟩ rfl ⟨hSound.stop, hSound.managed, hSound.hardware⟩
      (Device.setManaged_carries true .nowManaged hListen
        ⟨hSound.stop, hSound.managed, hSound.hardware⟩)

theorem Coherent.applySwitches (h : m.Coherent A) : m.applySwitches.Settled A := h.switched.settle

theorem Settled.setSleeping (h : m.Settled A) (uid : Nat) (sleeping : Bool) :
    (m.setSleeping uid sleeping).1.Settled A := by
  unfold Manager.setSleeping
  split
  · exact h
  · split
    · exact h
    · have hSwitched : ({ m with sleeping } : Manager).Coherent A :=
        h.toCoherent.same ⟨rfl, rfl, rfl, rfl, rfl, rfl, rfl, fun _ => rfl⟩
      exact (hSwitched.same (same_publish _ fun _ => rfl)).applySwitches

theorem Settled.setEnabled (h : m.Settled A) (uid : Nat) (enabled : Bool) :
    (m.setEnabled uid enabled).1.Settled A := by
  unfold Manager.setEnabled
  split
  · exact h
  · split
    · exact h
    · have hSwitched : ({ m with store := (m.store.set enabled).1
                                 networkingEnabled := enabled } : Manager).Coherent A :=
        h.toCoherent.same ⟨rfl, rfl, rfl, rfl, rfl, rfl, rfl, fun _ => rfl⟩
      exact (hSwitched.same (same_publish _ fun _ => rfl)).applySwitches

-- ---------------------------------------------------------------------------
-- Answers
-- ---------------------------------------------------------------------------

/-- A request that got its answer waits for secrets no more. -/
theorem Fits.takes (h : m.Fits A) (hLooked : m.AllLooked) {r r' : Request}
    (hr : r ∈ m.requests) (hSame : Request.Same { r with secrets := none } r')
    {effects : List Effect} (hEffects : Exchange.ofEffects effects = []) :
    r'.awaitsSecrets = false ∧ Acts A m ((m.setRequest r').perform effects) r.device
      ((m.site r.device).withRequest r') := by
  have hQuiet : r'.awaitsSecrets = false := by
    unfold Request.awaitsSecrets
    rw [hSame.secrets, hSame.queue, show ({ r with secrets := none } : Request).queue = [] from
      hLooked r hr]
    rfl
  have hIssued : issued effects = [] := Request.issued_of_ofEffects hEffects
  refine ⟨hQuiet, h.setRequest hr ⟨hSame.id, hSame.subscription⟩ hSame.device ?_ ?_
    (Nat.le_of_eq hSame.nextSeq.symm) ?_ ?_⟩
  · unfold Request.foreseen
    rw [hSame.queue, hSame.state]
  · intro hAwaits
    rw [hQuiet] at hAwaits
    cases hAwaits
  · rw [hIssued]
    exact List.nodup_nil
  · rw [hIssued]
    exact nofun

/-- A request that got its answer acts on its device. -/
theorem Fits.answered (h : m.Fits A) (hLooked : m.AllLooked) {r r' : Request}
    (hr : r ∈ m.requests) (hSame : Request.Same { r with secrets := none } r')
    {effects : List Effect} (hEffects : Exchange.ofEffects effects = []) {d : Device}
    (hd : m.device? r.device = some d) {f : Device → Update} (hMoves : Device.Moves d (f d)) :
    ((m.setRequest r').perform effects).Fits A ∧
      Acts A ((m.setRequest r').perform effects)
        (((m.setRequest r').perform effects).updateDevice r.device f) r.device
        ((((m.setRequest r').perform effects).site r.device).hears (f d)) ∧
      Acts A m (((m.setRequest r').perform effects).updateDevice r.device f) r.device
        (((m.site r.device).withRequest r').hears (f d)) := by
  obtain ⟨hQuiet, hSet⟩ := h.takes hLooked hr hSame hEffects
  have hThere : ((m.setRequest r').perform effects).device? r.device = some d := hd
  have hUpdated := hSet.fits.updateDevice hThere hMoves fun _ => Or.inr (Or.inr fun q hq => by
    have hq' : ((m.site r.device).withRequest r').request = some q := by
      rw [← hSet.here]
      exact hq
    cases hq'
    exact hQuiet)
  refine ⟨hSet.fits, hUpdated, ?_⟩
  rw [hSet.here] at hUpdated
  exact hSet.trans hUpdated

/-- A request that got its answer acts on its device, which does not wait for secrets any more. -/
theorem Coherent.answered (h : m.Coherent A) (hLooked : m.AllLooked) {r r' : Request}
    (hr : r ∈ m.requests) (hSame : Request.Same { r with secrets := none } r')
    {effects : List Effect} (hEffects : Exchange.ofEffects effects = []) {f : Device → Update}
    (hf : ∀ d : Device, d.AllListen → d.Sound →
      Device.Moves d (f d) ∧ (f d).device.state ≠ .needAuth) :
    (((m.setRequest r').perform effects).updateDevice r.device f).Coherent A := by
  obtain ⟨d, hd⟩ := h.toFits.exists_device hr
  have hSound := h.toFits.sound hd
  obtain ⟨hMoves, hNeed⟩ := hf d hSound.allListen hSound.device
  obtain ⟨-, -, hActs⟩ := h.toFits.answered hLooked hr hSame hEffects hd hMoves
  refine hActs.coherent (fun x _ => h.accounted x) fun e he => ?_
  cases he
  exact (h.held hd).answered (h.linked.requestOn?_of_mem hr) hMoves hNeed

/-- A failure ends the wait for secrets, like every other stage of an activation. -/
theorem moveTo_failed_moves {d : Device} (reason : StateReason) (hListen : d.AllListen)
    (hSound : d.Sound) :
    Device.Moves d (d.moveTo .failed reason) ∧
      (d.moveTo .failed reason).device.state ≠ .needAuth := by
  refine ⟨(Device.moveTo_failed_carries reason hListen hSound).toMoves, ?_⟩
  cases hMove : d.state.canMove .failed with
  | true =>
    rw [Device.moveTo_eq hListen reason hMove]
    exact nofun
  | false =>
    obtain ⟨error, hEq⟩ := Device.moveTo_refused reason hMove
    rw [hEq]
    intro hNeed
    rw [show d.state = .needAuth from hNeed] at hMove
    cases hMove

/-- The request that an answer leaves, with the effects of that and what the device is told. -/
def Answers (m : Manager) (r r' : Request) (effects : List Effect) (f : Device → Update) : Prop :=
  Request.Same { r with secrets := none } r' ∧ Exchange.ofEffects effects = [] ∧
    ((∃ c setting, f = fun d => d.secretsUpdated m.now c setting) ∨
      f = fun d => d.moveTo .failed .noSecrets)

theorem Answers.moves {r r' : Request} {effects : List Effect} {f : Device → Update}
    (h : m.Answers r r' effects f) {d : Device} (hListen : d.AllListen) (hSound : d.Sound) :
    Device.Moves d (f d) ∧ (f d).device.state ≠ .needAuth := by
  obtain ⟨-, -, ⟨c, setting, rfl⟩ | rfl⟩ := h
  · have hMoves := Device.secretsUpdated_moves m.now c setting hListen hSound
    exact ⟨hMoves.1, hMoves.2.1⟩
  · exact moveTo_failed_moves .noSecrets hListen hSound

/-- An answer that nobody waits for changes nothing before the manager settles; of another one a
request and its device hear. -/
theorem secretsReply_cases (m : Manager) (call : SecretsCall) (answer : Except Error Settings) :
    m.secretsReply call answer = m ∨ m.secretsReply call answer = m.settle ∨
      ∃ r r' effects f, m.request? call.request = some r ∧ m.Answers r r' effects f ∧
        m.secretsReply call answer =
          (((m.setRequest r').perform effects).updateDevice r.device f).settle := by
  unfold Manager.secretsReply
  cases hr : m.request? call.request with
  | none => exact Or.inl rfl
  | some r =>
    dsimp only
    split
    · exact Or.inl rfl
    · refine Or.inr ?_
      cases hTake : r.takeSecrets call answer with
      | none => exact Or.inl rfl
      | some taken =>
        obtain ⟨r', setting⟩ := taken
        obtain ⟨p, connection, -, -, rfl⟩ := Request.takeSecrets_some hTake
        cases setting with
        | some setting =>
          refine Or.inr ⟨r, { r with secrets := none, connection }, [], _, rfl,
            ⟨⟨rfl, rfl, rfl, rfl, rfl, rfl, rfl⟩, rfl, Or.inl ⟨connection, setting, rfl⟩⟩, ?_⟩
          rw [perform_nil]
        | none =>
          have hSame := Request.finish_same { r with secrets := none, connection }
            (.failed (.activationFailed .noSecrets))
          have hEffects := Request.finish_effects { r with secrets := none, connection }
            (.failed (.activationFailed .noSecrets))
          refine Or.inr ⟨r, _, _, _, rfl, ⟨⟨hSame.id, hSame.device, hSame.subscription, hSame.queue,
            hSame.state, hSame.secrets, hSame.nextSeq⟩, hEffects, Or.inr rfl⟩, ?_⟩
          dsimp only
          rw [hSame.device]

theorem Settled.secretsReply (h : m.Settled A) (call : SecretsCall)
    (answer : Except Error Settings) : (m.secretsReply call answer).Settled A := by
  obtain hEq | hEq | ⟨r, r', effects, f, hr, hAnswers, hEq⟩ := m.secretsReply_cases call answer
  · rw [hEq]
    exact h
  · rw [hEq]
    exact h.toCoherent.settle
  · rw [hEq]
    exact (h.toCoherent.answered h.looked (request?_eq_some hr).1 hAnswers.1 hAnswers.2.1
      fun _ hListen hSound => hAnswers.moves hListen hSound).settle

-- ---------------------------------------------------------------------------
-- Time
-- ---------------------------------------------------------------------------

/-- The clock goes on. -/
theorem Settled.clock (h : m.Settled A) (now : Nat) : Settled A { m with now } :=
  ⟨h.toCoherent.same ⟨rfl, rfl, rfl, rfl, rfl, rfl, rfl, fun _ => rfl⟩, ⟨h.queue, h.looked⟩,
   h.pending, h.state⟩

/-- The manager with a note of the activation of a request, if the activation goes on. -/
def noted (m : Manager) (r : Request) : Manager :=
  if (m.device? r.device).any fun d => d.state.isActive then
    m.addOrphan r.device { connection := r.connection, userRequested := r.userRequested }
  else m

theorem expireRequest_absent {id : Nat} (hr : m.request? id = none) : m.expireRequest id = m := by
  unfold Manager.expireRequest
  rw [hr]

theorem expireRequest_eq {id : Nat} {r : Request} (hr : m.request? id = some r) :
    m.expireRequest id = ((m.noted r).teardown id .unknown).failUnansweredAuth r.device := by
  unfold Manager.expireRequest
  rw [hr]
  rfl

theorem Coherent.noted (h : m.Coherent A) {r : Request} (hr : m.request? r.id = some r) {d : Device}
    (hd : m.device? r.device = some d) :
    (m.noted r).request? r.id = some r ∧
      ∃ orphan : Option Orphan, (d.state.isActive = true →
          orphan = some { connection := r.connection, userRequested := r.userRequested }) ∧
        (d.state.isActive = false → orphan = m.orphan? r.device) ∧
        Acts A m (m.noted r) r.device ((m.site r.device).adopt orphan) := by
  unfold Manager.noted
  rw [hd, Option.any_some]
  cases d.state.isActive with
  | true => exact ⟨hr, _, fun _ => rfl, nofun, h.toFits.addOrphan hd _⟩
  | false => exact ⟨hr, _, nofun, fun _ => rfl, h.toFits, Within.refl m, rfl, fun _ _ => rfl⟩

/-- A request whose deadline passes leaves its device alone and its activation with a note, unless
the device waits for secrets. -/
theorem Coherent.expires (h : m.Coherent A) {r : Request} (hr : m.request? r.id = some r) {d : Device}
    (hd : m.device? r.device = some d) :
    ∃ orphan : Option Orphan, (d.state.isActive = true →
        orphan = some { connection := r.connection, userRequested := r.userRequested }) ∧
      (d.state.isActive = false → orphan = m.orphan? r.device) ∧
      Acts A m (m.expireRequest r.id) r.device
        (((m.site r.device).adopt orphan).forget.hears (Site.leftAlone d).failAuth) := by
  obtain ⟨hr', orphan, hSome, hSame, hNoted⟩ := h.noted hr hd
  have hEnded := hNoted.fits.teardown hr' .unknown
  rw [hNoted.here] at hEnded
  have hFits := hNoted.trans hEnded
  have hNone : ((m.noted r).teardown r.id .unknown).requestOn? r.device = none :=
    congrArg Site.request hFits.here
  have hThere : ((m.noted r).teardown r.id .unknown).device? r.device = some (Site.leftAlone d) :=
    (congrArg Site.device hFits.here).trans (congrArg (Option.map Site.leftAlone) hd)
  have hSound := hFits.fits.sound hThere
  have hFailed := hFits.fits.carries hThere (f := Device.failAuth)
    (Device.failAuth_carries hSound.allListen hSound.device)
  rw [hFits.here] at hFailed
  rw [expireRequest_eq hr, failUnansweredAuth_eq hNone]
  exact ⟨orphan, hSome, hSame, hFits.trans hFailed⟩

/-- Each activation has an owner afterwards, too. -/
theorem Coherent.expireRequest (h : m.Coherent A) (id : Nat) : (m.expireRequest id).Coherent A := by
  cases hr : m.request? id with
  | none =>
    rw [expireRequest_absent hr]
    exact h
  | some r =>
    obtain ⟨hMem, rfl⟩ := request?_eq_some hr
    obtain ⟨d, hd⟩ := h.toFits.exists_device hMem
    have hSound := h.toFits.sound hd
    obtain ⟨orphan, hSome, hSame, hActs⟩ := h.expires hr hd
    refine hActs.coherent (fun x _ => h.accounted x) fun e he => ?_
    cases he
    have hLeft := Site.allListen_leftAlone d
    have hCarries := Device.failAuth_carries hLeft (Site.sound_leftAlone hSound.device)
    by_cases hNeed : d.state = .needAuth
    · rw [Device.failAuth_eq hLeft hNeed]
      refine Site.held_of_entered rfl ?_
      show entered (_ ++ _) ≠ []
      rw [entered_append]
      exact List.append_ne_nil_of_right_ne_nil _ nofun
    · exact ((h.held hd).orphaned (fun hActive => by rw [hSome hActive]; rfl) hSame hNeed).hears
        hCarries.toMoves

/-- The requests that are still to be asked whether their time is up. -/
structure Checking (A : Nat → String → Prop) (rest : List Request) (m : Manager) : Prop where
  coherent : m.Coherent A
  distinct : (rest.map Request.id).Nodup
  present : ∀ r ∈ rest, r ∈ m.requests

theorem Checking.step {r : Request} {rest : List Request} (h : Checking A (r :: rest) m)
    (moment : Nat) : Checking A rest
      ((m.setRequest (r.checkTimeout moment).1).perform (r.checkTimeout moment).2.1) := by
  have hDistinct := h.distinct
  rw [List.map_cons, List.nodup_cons] at hDistinct
  have hSame := r.checkTimeout_same moment
  refine ⟨h.coherent.setRequest_same (h.present r List.mem_cons_self) hSame
    (r.checkTimeout_effects moment), hDistinct.2, fun q hq => ?_⟩
  refine mem_setRequest_of_ne (h.present q (List.mem_cons_of_mem r hq)) fun hId => ?_
  rw [hSame.id] at hId
  exact hDistinct.1 (hId ▸ List.mem_map_of_mem hq)

theorem Coherent.checking (h : m.Coherent A) : Checking A m.requests m :=
  ⟨h, h.linked.requests, fun _ hr => hr⟩

theorem Coherent.checkTimeouts (h : m.Coherent A) (moment : Nat) :
    (m.requests.foldl (fun m r => (m.setRequest (r.checkTimeout moment).1).perform
      (r.checkTimeout moment).2.1) m).Coherent A :=
  (foldl_rest (P := Checking A) (fun _ _ _ h => h.step moment) m.requests m h.checking).coherent

theorem Settled.processTimeoutsAt (h : m.Settled A) (moment : Nat) :
    (m.processTimeoutsAt moment).Settled A := by
  unfold Manager.processTimeoutsAt
  refine Coherent.settle ?_
  have hChecked := h.toCoherent.checkTimeouts moment
  have hExpired := foldl_rest (P := fun _ m' => Coherent A m')
    (fun id _ _ h => h.expireRequest id)
    ((m.requests.filter fun r => (r.checkTimeout moment).2.2).map Request.id) _ hChecked
  exact foldl_rest (P := fun _ m' => Coherent A m')
    (fun d _ _ h => h.updateDevice d.id fun d => Device.pollDeadline_carries moment) _ _ hExpired

-- ---------------------------------------------------------------------------
-- The end
-- ---------------------------------------------------------------------------

/-- Once all requests have ended none is left. -/
theorem teardown_each_nil (m : Manager) (reason : StateReason) :
    (m.requests.foldl (fun m r => m.teardown r.id reason) m).requests = [] ∧
      Rests m (m.requests.foldl (fun m r => m.teardown r.id reason) m) := by
  let P : List Request → Manager → Prop := fun rest m' =>
    (∀ r ∈ m'.requests, r.id ∈ rest.map Request.id) ∧ Rests m m'
  have hStep : ∀ (r : Request) (rest : List Request) (m' : Manager), P (r :: rest) m' →
      P rest (m'.teardown r.id reason) := by
    rintro r rest m' ⟨hIn, hRests⟩
    refine ⟨fun q hq => ?_, hRests.trans (rests_teardown m' r.id reason)⟩
    have hOld : q ∈ m'.requests ∧ q.id ≠ r.id := by
      cases hr : m'.request? r.id with
      | none =>
        rw [teardown_absent hr] at hq
        refine ⟨hq, fun hId => ?_⟩
        unfold request? at hr
        rw [List.find?_eq_none] at hr
        exact hr q hq (by rw [hId, beq_self_eq_true])
      | some r' =>
        have hFiltered : q ∈ m'.requests.filter fun q => q.id != r.id := by
          rw [teardown_eq hr] at hq
          exact hq
        obtain ⟨hMem, hNe⟩ := List.mem_filter.mp hFiltered
        exact ⟨hMem, bne_iff_ne.mp hNe⟩
    have hHere := hIn q hOld.1
    rw [List.map_cons, List.mem_cons] at hHere
    exact hHere.resolve_left hOld.2
  obtain ⟨hNone, hRests⟩ := foldl_rest (P := P) hStep m.requests m
    ⟨fun r hr => List.mem_map_of_mem hr, Rests.refl m⟩
  refine ⟨List.eq_nil_iff_forall_not_mem.mpr fun r hr => ?_, hRests⟩
  exact List.not_mem_nil (hNone r hr)

/-- Nothing is left at the end. -/
theorem Settled.shutdown (h : m.Settled A) : m.shutdown.Settled A := by
  obtain ⟨hNone, hRests⟩ := teardown_each_nil m .unknown
  obtain ⟨hFits, -⟩ := h.toFits.teardown_each h.toCoherent.idleHeld .unknown m.requests
  let m₁ : Manager := { m.requests.foldl (fun m r => m.teardown r.id .unknown) m with orphans := [] }
  have hPublished : Same m₁ (m₁.devices.foldl (fun m d => m.publish (.deviceRemoved d.id)) m₁) ∧
      Rests m₁ (m₁.devices.foldl (fun m d => m.publish (.deviceRemoved d.id)) m₁) :=
    foldl_rest (P := fun _ m' => Same m₁ m' ∧ Rests m₁ m')
      (fun d _ _ h => ⟨h.1.trans (same_publish _ fun _ => rfl), h.2.trans ⟨rfl, rfl⟩⟩)
      m₁.devices m₁ ⟨Same.refl m₁, Rests.refl m₁⟩
  obtain ⟨hSame, hQuiet⟩ := hPublished
  have hLinked : m.shutdown.Linked := by
    refine (hFits.linked.keeps (show Keeps _ m₁ from Keeps.of_eq rfl rfl ⟨rfl, rfl⟩ rfl)).keeps ?_
    have hKeeps := hSame.keeps
    exact ⟨List.nil_sublist _, hKeeps.requests, hKeeps.nextDevice, hKeeps.nextRequest, hKeeps.issued⟩
  have hRequests : m.shutdown.requests = [] := hSame.requests.trans hNone
  refine ⟨⟨⟨hLinked, fun x => ⟨fun _ => ⟨?_, ?_⟩, fun d hd => by cases hd⟩⟩,
    fun x d hd => by cases hd⟩, ⟨?_, ?_⟩, ?_, Or.inr rfl⟩
  · show m.shutdown.requests.find? _ = none
    rw [hRequests]
    rfl
  · show m.shutdown.orphans.lookup x = none
    rw [show m.shutdown.orphans = [] from hSame.orphans]
    rfl
  · exact hQuiet.queue.trans (hRests.queue.trans h.queue)
  · intro r hr
    rw [hRequests] at hr
    cases hr
  · exact hQuiet.pending.trans (hRests.pending.trans h.pending)

end ScannerHub.Manager
