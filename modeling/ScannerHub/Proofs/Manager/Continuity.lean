import ScannerHub.Proofs.Manager.Requests

/-!
# What every operation does to requests

Every operation takes the requests on, or ends them, or brings new ones. Only four operations make
connections come or go, and only the passing of time takes the request from an activation that goes
on.

* `Operation.stocks` — the operations on connections;
* `Manager.Proceeds` — two moments between which time may have passed.

## Results

* `Settled.operate_retains`, `Settled.operate_keeps` — operations that leave the connections alone;
* `Settled.operate_sustains` — operations that let no time pass;
* `Settled.operate_proceeds`, `run_continues` — every operation, and every run.
-/

namespace ScannerHub

/-- Whether an operation may make connections come or go. -/
def Operation.stocks : Operation → Bool
  | .setServiceRunning _ _ | .connectionAdded _ _ _ | .connectionUpdated _ _ _
  | .connectionRemoved _ _ => true
  | _ => false

namespace Manager

variable {A : Nat → String → Prop} {H : Scope → String → Prop} {m m' m'' : Manager} {id : Nat}

-- ---------------------------------------------------------------------------
-- Operations that keep the connections
-- ---------------------------------------------------------------------------

theorem Admits.addDevice (h : m.Admits H) (d : Device) : Retains H m (m.addDevice d).1 := by
  unfold Manager.addDevice
  split
  · exact Retains.refl m
  · have hTaken : Retains H m (m.admitted d) :=
      .of_eq rfl rfl rfl rfl rfl (List.prefix_append _ _) (List.prefix_refl _)
    have hManaged : Retains H m (if (m.admitted d).isAsleep then m.admitted d else
        (m.admitted d).updateDevice m.nextDevice fun d => d.setManaged true .nowManaged) := by
      split
      · exact hTaken
      · exact hTaken.trans (retains_updateDevice _ _ _)
    exact hManaged.settle h

theorem Admits.removeDevice (h : m.Admits H) (id : Nat) : Retains H m (m.removeDevice id) := by
  have hPumped : Retains H m (m.released id).pump :=
    ((retains_teardownOn m id .removed).trans (retains_updateDevice _ _ _)).trans (retains_pump _)
  have hGone : Retains H m (if ((m.released id).pump.device? id).isSome then
      ((m.released id).pump.dismissed id).publish (.deviceRemoved id) else (m.released id).pump) := by
    split
    · exact hPumped.trans
        (.of_eq rfl rfl rfl rfl rfl (List.prefix_append _ _) (List.prefix_refl _))
    · exact hPumped
  exact hGone.settle h

theorem Admits.activateConnection (h : m.Admits H) (uid : Nat) (service path device : String)
    (specific : Option String) :
    Retains H m (m.activateConnection uid service path device specific).1 := by
  unfold Manager.activateConnection
  split
  · exact Retains.refl m
  · split
    · exact Retains.refl m
    · rename_i scope hScope
      obtain ⟨-, hRunning⟩ := Option.filter_eq_some_iff.mp hScope
      split
      · exact Retains.refl m
      · rename_i id _
        have hStarted : ∀ specific, Retains H m (m.activate id scope path specific true).1 :=
          fun specific => retains_activate m (fun c hFound => h scope path c hRunning hFound) specific
            true
        dsimp only
        generalize specific.filter (fun p => !p.isEmpty && p != "/") = specific
        have hStart := hStarted specific
        generalize m.activate id scope path specific true = started at hStart ⊢
        obtain ⟨m', e | n⟩ := started
        · exact hStart
        · exact hStart.settle h

theorem Admits.deactivateConnection (h : m.Admits H) (uid : Nat) (active : String) :
    Retains H m (m.deactivateConnection uid active).1 := by
  unfold Manager.deactivateConnection
  split
  · exact Retains.refl m
  · split
    · exact Retains.refl m
    · exact Retains.settle
        ((retains_teardown m _ .userRequested).trans (retains_updateDevice _ _ _)) h

theorem retains_wait (m : Manager) (request waiter : Nat) : Retains H m (m.wait request waiter).1 := by
  unfold Manager.wait
  split
  · exact Retains.refl m
  · rename_i r hr
    exact retains_setRequest_shown (request?_eq_some hr).1 (r.goes_wait waiter)
      (r.shown_wait waiter) _

/-- Every request of a settled manager is up. -/
theorem Settled.up (h : m.Settled A) {r : Request} (hr : r ∈ m.requests) : r.state ≠ .unknown := by
  have hOwns := h.ownsDevices
  obtain ⟨d, hd, hId⟩ := hOwns.present r hr
  have hOn : m.requestOn? d.id = some r := hId ▸ h.linked.requestOn?_of_mem hr
  have hActive : d.state.isActive = true := by
    cases hActive : d.state.isActive with
    | true => rfl
    | false =>
      rw [(h.free hd hActive).1] at hOn
      cases hOn
  rw [hOwns.follows r hr d hd hId]
  cases hState : d.state <;> rw [hState] at hActive <;> first | cases hActive; done | decide

theorem Settled.setRequestDefault_retains (h : m.Settled A) (request : Nat)
    (default default6 : Bool) : Retains H m (m.setRequestDefault request default default6) := by
  unfold Manager.setRequestDefault
  split
  · exact Retains.refl m
  · rename_i r hr
    obtain ⟨hMem, rfl⟩ := request?_eq_some hr
    have hGoes : r.Goes { r with isDefault := default, isDefault6 := default6 } :=
      ⟨rfl, rfl, rfl, rfl, rfl, rfl,
       fun _ hDown => absurd (show r.state = .unknown from hDown) (h.up hMem), fun h => h⟩
    dsimp only
    by_cases hChanged : (r.isDefault != default || r.isDefault6 != default6) = true
    · rw [if_pos hChanged]
      have hTold := retains_setRequest (H := H) hMem hGoes [] [.activeConnectionChanged r.id]
        fun _ => Or.inr List.mem_cons_self
      rw [perform_nil] at hTold
      exact hTold
    · rw [if_neg hChanged]
      have hSame : r.isDefault = default ∧ r.isDefault6 = default6 := by simpa using hChanged
      have hSilent := retains_setRequest_shown (H := H) hMem hGoes
        (Prod.ext rfl (Prod.ext hSame.1.symm hSame.2.symm)) []
      rw [perform_nil] at hSilent
      exact hSilent

theorem Admits.secretsReply (h : m.Admits H) (call : SecretsCall) (answer : Except Error Settings) :
    Retains H m (m.secretsReply call answer) := by
  unfold Manager.secretsReply
  split
  · exact Retains.refl m
  · rename_i r hr
    obtain ⟨hMem, -⟩ := request?_eq_some hr
    split
    · exact Retains.refl m
    · refine Retains.settle ?_ h
      split
      · exact Retains.refl m
      · rename_i r' setting hTake
        obtain ⟨hGoes, hShown⟩ := Request.goes_takeSecrets hTake
        have hSet := retains_setRequest_shown (H := H) hMem hGoes hShown []
        rw [perform_nil] at hSet
        exact hSet.trans (retains_updateDevice _ _ _)
      · rename_i r' hTake
        obtain ⟨hGoes, hShown⟩ := Request.goes_takeSecrets hTake
        exact (retains_setRequest_shown hMem (hGoes.trans (r'.goes_finish _))
          ((r'.shown_finish _).trans hShown) _).trans (retains_updateDevice _ _ _)

theorem Admits.linkChanged (h : m.Admits H) (device : Nat) (up : Bool) :
    Retains H m (m.linkChanged device up) := by
  unfold Manager.linkChanged
  dsimp only
  split
  · exact Retains.refl m
  · exact (retains_updateDevice m device _).settle h

theorem Admits.setFirmwareMissing (h : m.Admits H) (interface : String) (missing : Bool) :
    Retains H m (m.setFirmwareMissing interface missing).1 := by
  unfold Manager.setFirmwareMissing
  split
  · exact Retains.refl m
  · exact (retains_updateDevice m _ _).settle h

theorem retains_switched (m : Manager) : Retains H m m.switched := by
  unfold Manager.switched
  split
  · have hAmnesty : Retains H m { m with invalid := [] } :=
      .of_eq rfl rfl rfl rfl rfl (List.prefix_refl _) (List.prefix_refl _)
    exact (hAmnesty.trans (.foldl m.requests (fun m (r : Request) => retains_teardown m r.id _) _)).trans
      (.foldl _ (fun m (d : Device) => retains_updateDevice m d.id _) _)
  · exact .foldl m.devices (fun m (d : Device) => retains_updateDevice m d.id _) m

theorem Retains.applySwitches (h : Retains H m m') (hAdmits : m.Admits H) :
    Retains H m m'.applySwitches :=
  (h.trans (retains_switched m')).settle hAdmits

theorem retains_shutdown (m : Manager) : Retains H m m.shutdown := by
  have hEnded : Retains H m (m.requests.foldl (fun m r => m.teardown r.id .unknown) m) :=
    .foldl m.requests (fun m (r : Request) => retains_teardown m r.id _) m
  rw [shutdown_eq]
  generalize m.requests.foldl (fun m r => m.teardown r.id .unknown) m = ended at hEnded ⊢
  refine hEnded.trans ⟨⟨.of_requests_eq rfl (Nat.le_refl _) (List.prefix_append _ _)
    (List.prefix_refl _), fun id o hOrphan => ?_⟩, fun scope => .refl _⟩
  cases hOrphan

-- ---------------------------------------------------------------------------
-- Time
-- ---------------------------------------------------------------------------

/-- Two moments between which a request may have gone while its activation goes on. -/
structure Proceeds (H : Scope → String → Prop) (m m' : Manager) : Prop extends Continues H m m' where
  orphans : ∀ id, (m'.orphan? id).isSome = true →
    (m.orphan? id).isSome = true ∨ (m.requestOn? id).isSome = true

theorem Sustains.proceeds (h : Sustains H m m') : Proceeds H m m' :=
  ⟨h.toContinues, fun id hSome => by
    obtain ⟨o, hOrphan⟩ := Option.isSome_iff_exists.mp hSome
    rw [h.orphans id o hOrphan]
    exact Or.inl rfl⟩

theorem Proceeds.sustains (h : Proceeds H m m') (h' : Sustains H m' m'') : Proceeds H m m'' :=
  ⟨h.toContinues.trans h'.toContinues, fun id hSome => by
    obtain ⟨o, hOrphan⟩ := Option.isSome_iff_exists.mp hSome
    exact h.orphans id (by rw [h'.orphans id o hOrphan]; rfl)⟩

/-- No request is new. -/
abbrev nothing : Scope → String → Prop := fun _ _ => False

/-- Before the manager settles, time brings no request, and connections do not come or go. -/
def Elapses (m m' : Manager) : Prop :=
  Proceeds nothing m m' ∧ ∀ scope, (m.cache scope).SameStock (m'.cache scope)

theorem Elapses.retains (h : Elapses m m') (h' : Retains nothing m' m'') : Elapses m m'' :=
  ⟨h.1.sustains h'.toSustains, fun scope => (h.2 scope).trans (h'.cache scope)⟩

/-- Requests that are there were there. -/
theorem Continues.placed (h : Continues nothing m m') {r' : Request} (hr' : r' ∈ m'.requests) :
    (m.requestOn? r'.device).isSome = true := by
  cases h.requests r' hr' with
  | kept hr hGoes => exact List.find?_isSome.mpr ⟨_, hr, beq_iff_eq.mpr hGoes.device.symm⟩
  | new _ _ hHeld => exact hHeld.elim

theorem Elapses.noted (h : Elapses m m') {r : Request} (hr : r ∈ m'.requests) :
    Elapses m (m'.noted r) := by
  unfold Manager.noted
  split
  · refine ⟨⟨h.1.toContinues.trans (.of_requests_eq rfl (Nat.le_refl _) (List.prefix_refl _)
      (List.prefix_refl _)), fun x hSome => ?_⟩, h.2⟩
    rw [orphan?_addOrphan] at hSome
    split at hSome
    · rename_i hx
      rw [hx]
      exact Or.inr (h.1.placed hr)
    · exact h.1.orphans x hSome
  · exact h

theorem Elapses.expireRequest (h : Elapses m m') (id : Nat) : Elapses m (m'.expireRequest id) := by
  unfold Manager.expireRequest
  cases hr : m'.request? id with
  | none => exact h
  | some r =>
    obtain ⟨hMem, -⟩ := request?_eq_some hr
    exact ((h.noted hMem).retains (retains_teardown _ id .unknown)).retains
      (retains_failUnansweredAuth _ r.device)

theorem Elapses.settle (h : Elapses m m') (hAdmits : m.Admits H) :
    Proceeds H m m'.settle ∧ ∀ scope, (m.cache scope).SameStock (m'.settle.cache scope) := by
  have hSettled := (hAdmits.same h.2).settle
  have hProceeds : Proceeds H m m' := ⟨h.1.toContinues.mono fun _ _ => False.elim, h.1.orphans⟩
  exact ⟨hProceeds.sustains hSettled.toSustains, fun scope =>
    (h.2 scope).trans (hSettled.cache scope)⟩

/-- Time passes for the requests and the devices. -/
theorem Settled.elapse (h : m.Settled A) (hAdmits : m.Admits H) (moment : Nat) :
    Proceeds H m (m.processTimeoutsAt moment) ∧
      ∀ scope, (m.cache scope).SameStock ((m.processTimeoutsAt moment).cache scope) := by
  unfold Manager.processTimeoutsAt
  obtain ⟨-, hChecked⟩ := foldl_rest (P := fun rest m' => Checking A rest m' ∧ Retains nothing m m')
    (fun r _ m' hm' => ⟨hm'.1.step moment, hm'.2.trans (retains_setRequest_shown
      (hm'.1.present r List.mem_cons_self) (r.goes_checkTimeout moment)
      (r.shown_checkTimeout moment) _)⟩) m.requests m ⟨h.toCoherent.checking, Retains.refl m⟩
  have hStart : Elapses m _ := ⟨hChecked.toSustains.proceeds, hChecked.cache⟩
  have hExpired := foldl_rest (P := fun _ m' => Elapses m m')
    (fun id _ _ hm' => hm'.expireRequest id)
    ((m.requests.filter fun r => (r.checkTimeout moment).2.2).map Request.id) _ hStart
  exact (hExpired.retains (.foldl _ (fun m (d : Device) => retains_updateDevice m d.id _) _)).settle
    hAdmits

-- ---------------------------------------------------------------------------
-- Operations on connections
-- ---------------------------------------------------------------------------

/-- Whatever is to be had. -/
theorem admits_all (m : Manager) : m.Admits fun _ _ => True := fun _ _ _ _ _ => trivial

theorem Sustains.settle (h : Sustains (fun _ _ => True) m m') :
    Sustains (fun _ _ => True) m m'.settle :=
  h.trans m'.admits_all.settle.toSustains

theorem retains_stop (m : Manager) (r : Request) (reason : StateReason) : Retains H m
    ((m.teardown r.id reason).updateDevice r.device fun d => d.deactivate reason) :=
  (retains_teardown m r.id reason).trans (retains_updateDevice _ _ _)

theorem sustains_dropped (m : Manager) (scope : Scope) (path : String) :
    Sustains H m (m.dropped scope path) :=
  (sustains_setCache m scope _).trans
    (Retains.foldl _ (fun m r => retains_stop m r .connectionRemoved) _).toSustains

theorem sustains_connectionRemoved (m : Manager) (scope : Scope) (path : String) :
    Sustains (fun _ _ => True) m (m.connectionRemoved scope path) := by
  obtain hSame | hDropped := m.connectionRemoved_cases scope path
  · rw [hSame]
    exact (Retains.refl m).toSustains
  · rw [hDropped]
    exact (sustains_dropped m scope path).settle

theorem sustains_setServiceRunning (m : Manager) (scope : Scope) (running : Bool) :
    Sustains (fun _ _ => True) m (m.setServiceRunning scope running) := by
  unfold Manager.setServiceRunning
  split
  · exact (Retains.refl m).toSustains
  · refine Sustains.settle (Sustains.trans ?_ (retains_scheduleAll _).toSustains)
    have hSet := sustains_setCache (H := fun _ _ => True) m scope { m.cache scope with running }
    split
    · exact hSet
    · exact foldl_rest (P := fun _ m' => Sustains (fun _ _ => True) m m')
        (fun path _ m' hm' => hm'.trans (sustains_connectionRemoved m' scope path)) _ _ hSet

theorem sustains_connectionAdded (m : Manager) (scope : Scope) (path : String)
    (settings : Settings) :
    Sustains (fun _ _ => True) m (m.connectionAdded scope path settings).1 := by
  unfold Manager.connectionAdded
  split
  · exact (Retains.refl m).toSustains
  · exact ((sustains_setCache m scope _).trans (retains_scheduleAll _).toSustains).settle

theorem sustains_connectionUpdated (m : Manager) (scope : Scope) (path : String)
    (settings : Settings) :
    Sustains (fun _ _ => True) m (m.connectionUpdated scope path settings) := by
  unfold Manager.connectionUpdated
  dsimp only
  split
  · exact sustains_connectionAdded m scope path settings
  · split
    · exact sustains_connectionRemoved m scope path
    · rename_i c _
      have hSet := sustains_setCache (H := fun _ _ => True) m scope { m.cache scope with
        connections := (m.cache scope).connections.insert path c }
      have hAmnesty : ∀ m' invalid, Retains (fun _ _ => True) m' { m' with invalid } :=
        fun m' _ => .of_eq rfl rfl rfl rfl rfl (List.prefix_refl _) (List.prefix_refl _)
      exact ((hSet.trans (hAmnesty _ _).toSustains).trans (retains_scheduleAll _).toSustains).settle

-- ---------------------------------------------------------------------------
-- Every operation
-- ---------------------------------------------------------------------------

/-- An operation that leaves the connections alone, and lets no time pass: a request that is new is for
one that was to be had. -/
theorem Settled.operate_retains (h : m.Settled A) (hAdmits : m.Admits H) {operation : Operation}
    (hKeeps : operation.stocks = false) (hTime : ∀ moment, operation ≠ .processTimeouts moment) :
    Retains H m (m.operate operation) := by
  cases operation with
  | @addDevice device hNew => exact hAdmits.addDevice device
  | removeDevice id => exact hAdmits.removeDevice id
  | removeDeviceByInterface interface =>
    show Retains H m (m.removeDeviceByInterface interface).1
    unfold Manager.removeDeviceByInterface
    split
    · exact Retains.refl m
    · exact hAdmits.removeDevice _
  | setFirmwareMissing interface missing => exact hAdmits.setFirmwareMissing interface missing
  | setServiceRunning scope running => cases hKeeps
  | connectionAdded scope path settings => cases hKeeps
  | connectionUpdated scope path settings => cases hKeeps
  | connectionRemoved scope path => cases hKeeps
  | activateConnection uid service path device specific =>
    exact hAdmits.activateConnection uid service path device specific
  | deactivateConnection uid active => exact hAdmits.deactivateConnection uid active
  | wait request waiter => exact retains_wait m request waiter
  | setRequestDefault request default default6 =>
    exact h.setRequestDefault_retains request default default6
  | secretsReply call answer => exact hAdmits.secretsReply call answer
  | linkChanged device up => exact hAdmits.linkChanged device up
  | processTimeouts moment => exact absurd rfl (hTime moment)
  | setSleeping uid sleeping =>
    show Retains H m (m.setSleeping uid sleeping).1
    unfold Manager.setSleeping
    split
    · exact Retains.refl m
    · split
      · exact Retains.refl m
      · exact Retains.applySwitches
          (.of_eq rfl rfl rfl rfl rfl (List.prefix_append _ _) (List.prefix_refl _)) hAdmits
  | setEnabled uid enabled =>
    show Retains H m (m.setEnabled uid enabled).1
    unfold Manager.setEnabled
    split
    · exact Retains.refl m
    · split
      · exact Retains.refl m
      · exact Retains.applySwitches
          (.of_eq rfl rfl rfl rfl rfl (List.prefix_append _ _) (List.prefix_refl _)) hAdmits
  | settle => exact hAdmits.settle
  | updateState => exact retains_updateState m
  | shutdown => exact retains_shutdown m
  | setClock now =>
    exact .of_eq rfl rfl rfl rfl rfl (List.prefix_refl _) (List.prefix_refl _)

theorem Settled.operate_keeps (h : m.Settled A) (hAdmits : m.Admits H) {operation : Operation}
    (hKeeps : operation.stocks = false) : Proceeds H m (m.operate operation) ∧
      ∀ scope, (m.cache scope).SameStock ((m.operate operation).cache scope) := by
  by_cases hTime : ∀ moment, operation ≠ .processTimeouts moment
  · have hRetains := h.operate_retains hAdmits hKeeps hTime
    exact ⟨hRetains.toSustains.proceeds, hRetains.cache⟩
  · obtain ⟨moment, rfl⟩ := not_forall_not.mp hTime
    exact h.elapse hAdmits moment

/-- Only the passing of time takes the request from an activation that goes on. -/
theorem Settled.operate_sustains (h : m.Settled A) {operation : Operation}
    (hTime : ∀ moment, operation ≠ .processTimeouts moment) :
    Sustains (fun _ _ => True) m (m.operate operation) := by
  cases hStocks : operation.stocks with
  | false => exact (h.operate_retains m.admits_all hStocks hTime).toSustains
  | true =>
    cases operation with
    | setServiceRunning scope running => exact sustains_setServiceRunning m scope running
    | connectionAdded scope path settings => exact sustains_connectionAdded m scope path settings
    | connectionUpdated scope path settings => exact sustains_connectionUpdated m scope path settings
    | connectionRemoved scope path => exact sustains_connectionRemoved m scope path
    | _ => cases hStocks

/-- Whatever is asked of the manager, its requests go on or are new, and an activation without a
request is one that had one or was without one before. -/
theorem Settled.operate_proceeds (h : m.Settled A) (operation : Operation) :
    Proceeds (fun _ _ => True) m (m.operate operation) := by
  by_cases hTime : ∀ moment, operation ≠ .processTimeouts moment
  · exact (h.operate_sustains hTime).proceeds
  · obtain ⟨moment, rfl⟩ := not_forall_not.mp hTime
    exact (h.elapse m.admits_all moment).1

-- ---------------------------------------------------------------------------
-- Runs
-- ---------------------------------------------------------------------------

/-- The requests of a run go on, or are new. -/
theorem run_continues (h : m.Settled A) (operations : List Operation) :
    Continues (fun _ _ => True) m (m.run operations) := by
  induction operations generalizing m with
  | nil => exact Continues.refl m
  | cons operation operations ih =>
    exact (h.operate_proceeds operation).toContinues.trans (ih (operate_settled h operation))

/-- In a run from the start nobody waits for a request that has ended, and no connection that is down
is a default. -/
theorem run_requests (store : StateStore) (allowed : List Nat) (timeout : Option Nat) (epoch : Nat)
    (operations : List Operation) :
    ∀ r ∈ ((start store allowed timeout epoch).run operations).requests,
      r.Plain ∧ r.Answered := by
  intro r hr
  have hSettled := start_settled (A := fun _ _ => True) store allowed timeout epoch
  cases (run_continues hSettled operations).requests r hr with
  | kept hOld => cases hOld
  | new _ _ _ hPlain hAnswered => exact ⟨hPlain, hAnswered⟩

end Manager

end ScannerHub
