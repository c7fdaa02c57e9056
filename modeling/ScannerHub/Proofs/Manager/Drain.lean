import ScannerHub.Proofs.Manager.Coherence

/-!
# Working off the queues

The manager handles a device event by acting on the site of that device. Handling it restores what
the event promised: an activation that ended has no owner any more. Each event that follows from
another one weighs less, so the queue runs empty.

* `Manager.Rests` — a change that brings nothing new to do;
* `Site.Stays` — a device that rests stays as it is;
* `DeviceEvent.isCalm` — the events of an activation that starts.

## Results

* `handleEvent_acts` — one event;
* `drain_empty` — the queue runs empty;
* `Coherent.pump` — all queues run empty, and the manager stays coherent.
-/

namespace ScannerHub

/-- Whether an event tells of an activation that goes on without help. Nothing follows from it. -/
def DeviceEvent.isCalm : DeviceEvent → Bool
  | stateChanged _ new _ _ => new.isActive
  | needSecrets _ _ => false
  | linkRequested _ _ => true

/-- One site at two times: a device that rested still does, and the same connections fit. -/
def Site.Stays (s s' : Site) : Prop :=
  ∀ d, s.device = some d → d.state.isResting = true →
    ∃ d', s'.device = some d' ∧ d'.state = d.state ∧ ∀ c, d'.check c = d.check c

theorem Site.Stays.refl (s : Site) : s.Stays s := fun d hd _ => ⟨d, hd, rfl, fun _ => rfl⟩

theorem Site.Stays.trans {s s' s'' : Site} (h : s.Stays s') (h' : s'.Stays s'') :
    s.Stays s'' := by
  intro d hd hRests
  obtain ⟨d', hd', hState, hCheck⟩ := h d hd hRests
  obtain ⟨d'', hd'', hState', hCheck'⟩ := h' d' hd' (hState ▸ hRests)
  exact ⟨d'', hd'', hState'.trans hState, fun c => (hCheck' c).trans (hCheck c)⟩

theorem Site.stays_forget (s : Site) : s.Stays s.forget := by
  intro d hd _
  refine ⟨Site.leftAlone d, ?_, rfl, fun _ => rfl⟩
  unfold Site.forget
  rw [hd]
  rfl

namespace Manager

variable {A : Nat → String → Prop} {m m' : Manager} {id : Nat}

-- ---------------------------------------------------------------------------
-- Changes that bring nothing new to do
-- ---------------------------------------------------------------------------

/-- One manager at two times, with nothing new to do. -/
structure Rests (m m' : Manager) : Prop where
  queue : m'.queue = m.queue
  pending : m'.pending = m.pending

theorem Rests.refl (m : Manager) : Rests m m := ⟨rfl, rfl⟩

theorem Rests.trans {m'' : Manager} (h : Rests m m') (h' : Rests m' m'') : Rests m m'' :=
  ⟨h'.queue.trans h.queue, h'.pending.trans h.pending⟩

theorem rests_updateState (m : Manager) : Rests m m.updateState := by
  unfold updateState
  split <;> exact ⟨rfl, rfl⟩

theorem rests_setCache (m : Manager) (scope : Scope) (cache : ConnectionCache) :
    Rests m (m.setCache scope cache) := by
  cases scope <;> exact ⟨rfl, rfl⟩

theorem rests_updateTimestamp (m : Manager) (id : Nat) : Rests m (m.updateTimestamp id) := by
  unfold updateTimestamp
  split
  · exact Rests.refl m
  · dsimp only
    split
    · exact Rests.refl m
    · exact rests_setCache m _ _

theorem rests_markInvalid (m : Manager) (uuid : String) : Rests m (m.markInvalid uuid) := by
  unfold markInvalid
  split <;> exact ⟨rfl, rfl⟩

theorem rests_modifyDevice (m : Manager) (id : Nat) (f : Device → Device) :
    Rests m (m.modifyDevice id f) := by
  unfold modifyDevice
  split <;> exact ⟨rfl, rfl⟩

theorem rests_teardown (m : Manager) (id : Nat) (reason : StateReason) :
    Rests m (m.teardown id reason) := by
  cases hr : m.request? id with
  | none =>
    rw [teardown_absent hr]
    exact Rests.refl m
  | some r =>
    rw [teardown_eq hr]
    exact ⟨rfl, rfl⟩

theorem rests_teardownOn (m : Manager) (id : Nat) (reason : StateReason) :
    Rests m (m.teardownOn id reason) := by
  unfold teardownOn
  split
  · exact Rests.refl m
  · exact rests_teardown m _ _

theorem rests_processRequest (m : Manager) (id : Nat) : Rests m (m.processRequest id) := by
  unfold processRequest
  split
  · exact Rests.refl m
  · dsimp only
    split <;> exact ⟨rfl, rfl⟩

theorem rests_processRequests (m : Manager) : Rests m m.processRequests := by
  unfold processRequests
  exact foldl_rest (P := fun _ m' => Rests m m')
    (fun r _ m' h => h.trans (rests_processRequest m' r.id)) m.requests m (Rests.refl m)

theorem totalWeight_append (es fs : List DeviceEvent) :
    totalWeight (es ++ fs) = totalWeight es + totalWeight fs := by
  induction es with
  | nil => exact (Nat.zero_add _).symm
  | cons e es ih =>
    show eventWeight e + totalWeight (es ++ fs) = eventWeight e + totalWeight es + totalWeight fs
    omega

/-- What an operation on a device may bring to do. -/
theorem queueWeight_updateDevice (m : Manager) (id : Nat) (f : Device → Update) (n : Nat)
    (h : ∀ d, m.device? id = some d → totalWeight (f d).events ≤ n) :
    (m.updateDevice id f).queueWeight ≤ m.queueWeight + n := by
  unfold updateDevice
  split
  · exact Nat.le_add_right _ _
  · rename_i d hd
    have hEvents := h d hd
    unfold queueWeight deliver setDevice
    dsimp only
    split
    · rw [totalWeight_append]
      omega
    · exact Nat.le_add_right _ _

theorem queueWeight_rests (h : Rests m m') : m'.queueWeight = m.queueWeight := by
  unfold queueWeight
  rw [h.queue]

/-- A move tells of one event at most. -/
theorem weight_moveTo (d : Device) (new : DeviceState) (reason : StateReason) :
    totalWeight (d.moveTo new reason).events ≤
      eventWeight (.stateChanged d.id new d.state reason) := by
  unfold Device.moveTo Device.announce Device.unchanged
  split
  · exact Nat.zero_le _
  · split
    · exact Nat.le_refl _
    · exact Nat.zero_le _

-- ---------------------------------------------------------------------------
-- One event
-- ---------------------------------------------------------------------------

/-- An operation on a device that brings no secrets, if the device is there. -/
theorem Fits.carries (h : m.Fits A) {d : Device} (hd : m.device? id = some d)
    {f : Device → Update} (hCarries : Device.Carries d (f d)) :
    Acts A m (m.updateDevice id f) id ((m.site id).hears (f d)) :=
  h.updateDevice hd hCarries.toMoves fun hNeed => (hCarries.needAuth hNeed).imp_right Or.inl

theorem updateDevice_absent {f : Device → Update} (hd : m.device? id = none) :
    m.updateDevice id f = m := by
  unfold updateDevice
  rw [hd]

/-- What handling an event makes of a site: its activations have their owners again, and a
device that rests is left alone. -/
def Settles (A : Nat → String → Prop) (m m' : Manager) (id : Nat) (s : Site) : Prop :=
  ∃ s', Acts A m m' id s' ∧ s'.Accounted ∧ s.Stays s'

theorem Settles.same {m'' : Manager} {s : Site} (h : Settles A m m' id s) (hSame : Same m' m'') :
    Settles A m m'' id s := by
  obtain ⟨s', hActs, hRest⟩ := h
  exact ⟨s', hActs.same hSame, hRest⟩

/-- Noting that an automatic activation is due changes a flag of the device at most. -/
theorem Settles.schedule {s : Site} (h : Settles A m m' id s) : Settles A m (m'.schedule id) id s := by
  obtain ⟨s', hActs, hAccounted, hStays⟩ := h
  unfold Manager.schedule
  split
  · exact ⟨s', hActs, hAccounted, hStays⟩
  · cases hd : m'.device? id with
    | none => exact ⟨s', hActs, hAccounted, hStays⟩
    | some d =>
      dsimp only
      split
      · have hSite : s'.device = some d := by
          rw [← hActs.here]
          exact hd
        have hFlag := hActs.fits.modifyDevice hd (f := fun d => { d with activationScheduled := true })
          ⟨rfl, rfl, rfl, rfl, fun _ => rfl, rfl⟩ rfl
          ⟨(hActs.fits.sound hd).device.stop, (hActs.fits.sound hd).device.managed,
           (hActs.fits.sound hd).device.hardware⟩
        have hEq : m'.modifyDevice id (fun d => { d with activationScheduled := true }) =
            m'.setDevice { d with activationScheduled := true } := by
          unfold Manager.modifyDevice
          rw [hd]
        rw [hEq] at hFlag
        refine ⟨_, (hActs.trans hFlag).same ⟨rfl, rfl, rfl, rfl, rfl, rfl, rfl, fun _ => rfl⟩, ?_, ?_⟩
        · intro e he
          cases he
          rw [hActs.here]
          have hHeld := hAccounted d hSite
          exact ⟨hHeld.owned, hHeld.served, hHeld.unserved, hHeld.left⟩
        · intro e he hRests
          obtain ⟨e', he', hState, hCheck⟩ := hStays e he hRests
          rw [hSite] at he'
          cases he'
          exact ⟨_, rfl, hState, hCheck⟩
      · exact ⟨s', hActs, hAccounted, hStays⟩

/-- The manager once it has published that a device changed its state. -/
def announced (m : Manager) (id : Nat) (new old : DeviceState) (reason : StateReason) : Manager :=
  let m := m.publish (.deviceStateChanged id new old reason)
  if rereadsActive new then m.publish .activeConnectionsChanged else m

section StateChanged

variable {new old : DeviceState} {reason : StateReason} {rest : List DeviceEvent}

theorem Fits.announced (h : m.Fits A) (hQueue : m.queue = .stateChanged id new old reason :: rest) :
    Acts A m ({ m with queue := rest }.announced id new old reason) id
      ((m.site id).tell (.stateChanged id new old reason)) := by
  have hTell : Acts A m ({ m with queue := rest }.publish (.deviceStateChanged id new old reason))
      id ((m.site id).tell (.stateChanged id new old reason)) := by
    refine h.tell hQueue [.deviceStateChanged id new old reason] fun x => ?_
    by_cases hx : x = id
    · subst hx
      cases hActive : new.isActive <;>
        simp [ManagerEvent.linkNews?, linkNews, DeviceEvent.linkNews?, DeviceEvent.device, hActive]
    · simp [ManagerEvent.linkNews?, DeviceEvent.device, hx, Ne.symm hx]
  unfold Manager.announced
  dsimp only
  split
  · exact hTell.same (same_publish _ fun _ => rfl)
  · exact hTell

/-- The queue of the site whose event comes first. -/
theorem queueOf_cons {e : DeviceEvent} (hQueue : m.queue = e :: rest) :
    ∃ rest', (m.site e.device).queue = e :: rest' := by
  refine ⟨rest.filter fun f => f.device == e.device, ?_⟩
  show m.queueOf e.device = _
  unfold queueOf
  rw [hQueue, List.filter_cons_of_pos (by simp)]

/-- An active device has not stopped since it started, so a stop that is told of is not told of an
active device. -/
theorem Fits.idle_of_told (h : m.Fits A) (hQueue : m.queue = .stateChanged id new old reason :: rest)
    (hNew : new.isActive = false) {d : Device} (hd : m.device? id = some d) :
    d.state.isActive = false := by
  rw [Bool.eq_false_iff]
  intro hActive
  obtain ⟨rest', hRest⟩ := queueOf_cons hQueue
  have hTrail := (h.sound hd).trail hActive new
  rw [show (m.site id).queue = .stateChanged id new old reason :: rest' from hRest] at hTrail
  rw [hTrail List.mem_cons_self] at hNew
  cases hNew

/-- A stage of an activation that was entered: nothing follows. -/
theorem Coherent.settles_active (h : m.Coherent A)
    (hQueue : m.queue = .stateChanged id new old reason :: rest) (hNew : new.isActive = true) :
    Settles A m ({ m with queue := rest }.announced id new old reason) id (m.site id) := by
  refine ⟨_, h.toFits.announced hQueue, ?_, fun d hd _ => ⟨d, hd, rfl, fun _ => rfl⟩⟩
  intro d hd
  obtain ⟨rest', hRest⟩ := queueOf_cons hQueue
  cases hActive : d.state.isActive with
  | true => exact (h.held hd).tell hRest (Or.inl hActive) (Or.inl rfl)
  | false =>
    refine Site.held_of_entered hActive ((h.toFits.sound hd).entered_tail_ne_nil hRest rfl ?_)
    rintro rfl
    rw [hNew] at hActive
    cases hActive

/-- The end of an activation without a failure: its owner goes. -/
theorem Coherent.settles_idle (h : m.Coherent A)
    (hQueue : m.queue = .stateChanged id new old reason :: rest) (hNew : new.isActive = false)
    (hFailed : new ≠ .failed) {m' : Manager} {s' : Site}
    (hTeardown : Acts A (({ m with queue := rest }.announced id new old reason).dropOrphan id)
      m' id s')
    (hs' : s' = (((m.site id).tell (.stateChanged id new old reason)).adopt none).forget) :
    Settles A m m' id (m.site id) := by
  have hAnnounced := h.toFits.announced hQueue
  have hDropped := hAnnounced.fits.dropOrphan id
  rw [hAnnounced.here] at hDropped
  refine ⟨_, (hAnnounced.trans hDropped).trans hTeardown, ?_, ?_⟩
  · rw [hs']
    intro e he
    obtain ⟨d, hd, rfl⟩ := Option.map_eq_some_iff.mp he
    obtain ⟨rest', hRest⟩ := queueOf_cons hQueue
    have hIdle := h.toFits.idle_of_told hQueue hNew hd
    refine Site.held_of_free hIdle rfl rfl fun hState => ?_
    refine (h.toFits.sound hd).entered_tail_ne_nil hRest rfl fun hEq => hFailed ?_
    rw [hEq]
    exact hState
  · rw [hs']
    exact fun d hd hRests =>
      Site.stays_forget (((m.site id).tell (.stateChanged id new old reason)).adopt none) d hd hRests

theorem Fits.failOrphan (h : m.Fits A) (id : Nat) :
    Acts A m (m.failOrphan id) id ((m.site id).adopt none) := by
  unfold Manager.failOrphan
  cases ho : m.orphan? id with
  | none =>
    refine ⟨h, Within.refl m, ?_, fun _ _ => rfl⟩
    unfold Manager.site Site.adopt
    rw [ho]
  | some o =>
    dsimp only
    split
    · exact h.dropOrphan id
    · exact (h.dropOrphan id).same (same_markInvalid _ _)

theorem Fits.failRequest (h : m.Fits A) (id : Nat) (reason : StateReason) :
    Acts A m (m.failRequest id reason) id (m.site id).forget := by
  unfold Manager.failRequest
  have hNone := h.teardownOn id reason
  unfold Manager.teardownOn at hNone
  cases hOn : m.requestOn? id with
  | none =>
    rw [hOn] at hNone
    exact hNone
  | some r =>
    obtain ⟨hr, rfl⟩ := requestOn?_eq_some hOn
    dsimp only
    split
    · exact h.teardown (h.linked.request?_of_mem hr) reason
    · have hSame := same_markInvalid m r.connection.uuid
      have hFits := h.same hSame
      have hr' : r ∈ (m.markInvalid r.connection.uuid).requests := by
        rw [hSame.requests]
        exact hr
      have hActs := hFits.teardown (hFits.linked.request?_of_mem hr') reason
      rw [hSame.site] at hActs
      exact ⟨hActs.fits, hSame.keeps.within.trans hActs.within, hActs.here,
        fun x hx => (hActs.away x hx).trans (hSame.site x)⟩

/-- Its owner is gone once a failure was told. -/
theorem Fits.freed_of_failed (h : m.Fits A)
    (hQueue : m.queue = .stateChanged id .failed old reason :: rest) :
    Acts A m ((({ m with queue := rest }.announced id .failed old reason).failOrphan id).failRequest id
      reason) id (((m.site id).tell (.stateChanged id .failed old reason)).adopt none).forget := by
  have hAnnounced := h.announced hQueue
  have hOrphan := hAnnounced.fits.failOrphan id
  have hRequest := hOrphan.fits.failRequest id reason
  rw [hOrphan.here, hAnnounced.here] at hRequest
  exact (hAnnounced.trans hOrphan).trans hRequest

/-- A failure: its owner goes, and the device goes back to where it can be used again. -/
theorem Fits.acts_failed (h : m.Fits A)
    (hQueue : m.queue = .stateChanged id .failed old reason :: rest) {d : Device}
    (hd : m.device? id = some d) :
    Acts A m (({ m with queue := rest }.announced id .failed old reason).activationFailed id reason)
      id ((((m.site id).tell (.stateChanged id .failed old reason)).adopt none).forget.hears
        ((Site.leftAlone d).moveTo .disconnected reason)) := by
  have hFree := h.freed_of_failed hQueue
  have hThere : (_ : Manager).device? id = some (Site.leftAlone d) :=
    congrArg Site.device hFree.here |>.trans (congrArg (Option.map Site.leftAlone) hd)
  have hSound := hFree.fits.sound hThere
  have hMoved := hFree.fits.carries hThere (f := fun d => d.moveTo .disconnected reason)
    (Device.moveTo_disconnected_carries reason hSound.allListen hSound.device)
  rw [hFree.here] at hMoved
  exact hFree.trans hMoved

theorem Coherent.settles_failed (h : m.Coherent A)
    (hQueue : m.queue = .stateChanged id .failed old reason :: rest) :
    Settles A m (({ m with queue := rest }.announced id .failed old reason).activationFailed id
      reason) id (m.site id) := by
  have hStays := Site.stays_forget (((m.site id).tell (.stateChanged id .failed old reason)).adopt none)
  cases hd : m.device? id with
  | none =>
    have hFree := h.toFits.freed_of_failed hQueue
    have hAbsent : (_ : Manager).device? id = none :=
      congrArg Site.device hFree.here |>.trans (congrArg (Option.map Site.leftAlone) hd)
    unfold Manager.activationFailed
    rw [updateDevice_absent hAbsent]
    refine ⟨_, hFree, ?_, hStays⟩
    intro e he
    change (m.device? id).map _ = some e at he
    rw [hd] at he
    cases he
  | some d =>
    have hIdle := h.toFits.idle_of_told hQueue rfl hd
    have hListen := Site.allListen_leftAlone d
    refine ⟨_, h.toFits.acts_failed hQueue hd, ?_, ?_⟩
    · intro e he
      cases he
      cases hMove : d.state.canMove .disconnected with
      | true =>
        rw [Device.moveTo_eq hListen reason hMove]
        exact Site.held_of_free rfl rfl rfl fun hFailed => DeviceState.noConfusion hFailed
      | false =>
        obtain ⟨error, hEq⟩ := Device.moveTo_refused (d := Site.leftAlone d) reason hMove
        rw [hEq]
        refine Site.held_of_free hIdle rfl rfl fun hFailed => ?_
        rw [show d.state = .failed from hFailed] at hMove
        cases hMove
    · refine hStays.trans fun e he hRests => ?_
      change (m.device? id).map _ = some e at he
      rw [hd] at he
      cases he
      obtain ⟨error, hEq⟩ := Device.moveTo_refused (d := Site.leftAlone d) reason
        (DeviceState.isResting_cases hRests).1
      rw [hEq]
      exact ⟨_, rfl, rfl, fun _ => rfl⟩

end StateChanged

-- ---------------------------------------------------------------------------
-- Every event
-- ---------------------------------------------------------------------------

theorem Fits.tell_needSecrets (h : m.Fits A) {need : SecretsNeed} {rest : List DeviceEvent}
    (hQueue : m.queue = .needSecrets id need :: rest) :
    Acts A m { m with queue := rest } id ((m.site id).tell (.needSecrets id need)) := by
  have hActs := h.tell hQueue [] fun x => by
    show [] = if _ then [] else []
    split <;> rfl
  rw [List.append_nil] at hActs
  exact hActs

/-- Without a request to get it secrets, a device that waits for them fails. -/
theorem failUnansweredAuth_eq (hNone : m.requestOn? id = none) :
    m.failUnansweredAuth id = m.updateDevice id Device.failAuth := by
  unfold Manager.failUnansweredAuth
  rw [hNone]
  rfl

/-- A request for secrets that no request hears: the device fails. -/
theorem Coherent.settles_needSecrets (h : m.Coherent A) {need : SecretsNeed}
    {rest : List DeviceEvent} (hQueue : m.queue = .needSecrets id need :: rest) :
    Settles A m ({ m with queue := rest }.failUnansweredAuth id) id (m.site id) := by
  have hTell := h.toFits.tell_needSecrets hQueue
  obtain ⟨rest', hRest⟩ := queueOf_cons hQueue
  have hOld : (m.site id).Stays ((m.site id).tell (.needSecrets id need)) :=
    fun d hd _ => ⟨d, hd, rfl, fun _ => rfl⟩
  unfold Manager.failUnansweredAuth
  split
  · rename_i hSome
    refine ⟨_, hTell, fun d hd => ?_, hOld⟩
    exact (h.held hd).tell hRest (Or.inr rfl) (Or.inr (Or.inl hSome))
  · cases hd : m.device? id with
    | none =>
      have hAbsent : ({ m with queue := rest } : Manager).device? id = none := hd
      rw [updateDevice_absent hAbsent]
      refine ⟨_, hTell, fun d hd' => ?_, hOld⟩
      change m.device? id = some d at hd'
      rw [hd] at hd'
      cases hd'
    | some d =>
      have hSound := hTell.fits.sound hd
      have hCarries := Device.failAuth_carries hSound.allListen hSound.device
      have hMoved := hTell.fits.carries hd hCarries
      rw [hTell.here] at hMoved
      refine ⟨_, hTell.trans hMoved, fun e he => ?_, fun e he hRests => ?_⟩
      · cases he
        by_cases hNeed : d.state = .needAuth
        · rw [Device.failAuth_eq hSound.allListen hNeed]
          refine Site.held_of_entered rfl ?_
          show entered (_ ++ _) ≠ []
          rw [entered_append]
          exact List.append_ne_nil_of_right_ne_nil _ (List.cons_ne_nil _ _)
        · have hHeld := (h.held hd).tell hRest (Or.inr rfl) (Or.inr (Or.inr hNeed))
          exact hHeld.hears hCarries.toMoves
      · change m.device? id = some e at he
        rw [hd] at he
        cases he
        rw [Device.failAuth_unchanged (DeviceState.isResting_cases hRests).2]
        exact ⟨_, rfl, rfl, fun _ => rfl⟩

/-- Handling an event acts on the site of its device. -/
theorem Coherent.handleEvent (h : m.Coherent A) {e : DeviceEvent} {rest : List DeviceEvent}
    (hQueue : m.queue = e :: rest) :
    Settles A m ({ m with queue := rest }.handleEvent e) e.device (m.site e.device) := by
  cases e with
  | linkRequested id request =>
    obtain ⟨rest', hRest⟩ := queueOf_cons hQueue
    have hTell := h.toFits.tell hQueue [.linkRequested id request] fun x => by
      by_cases hx : x = id
      · simp [ManagerEvent.linkNews?, linkNews, DeviceEvent.linkNews?, DeviceEvent.device, hx]
      · simp [ManagerEvent.linkNews?, DeviceEvent.device, hx, Ne.symm hx]
    exact ⟨_, hTell, fun d hd => (h.held hd).tell hRest (Or.inr rfl) (Or.inl rfl),
      fun d hd _ => ⟨d, hd, rfl, fun _ => rfl⟩⟩
  | needSecrets id need => exact h.settles_needSecrets hQueue
  | stateChanged id new old reason =>
    have hFollow : Settles A m
        ((if !new.isActive && new != DeviceState.failed then
            ({ m with queue := rest }.announced id new old reason).dropOrphan id
          else { m with queue := rest }.announced id new old reason).followState id new reason)
        id (m.site id) := by
      have hAnnounced := h.toFits.announced hQueue
      have hDropped := hAnnounced.fits.dropOrphan id
      have hTeardown := hDropped.fits.teardownOn id reason
      rw [hDropped.here, hAnnounced.here] at hTeardown
      cases new with
      | prepare => exact h.settles_active hQueue rfl
      | config => exact h.settles_active hQueue rfl
      | needAuth => exact h.settles_active hQueue rfl
      | ipConfig => exact h.settles_active hQueue rfl
      | activated => exact (h.settles_active hQueue rfl).same (same_updateTimestamp _ _)
      | failed => exact h.settles_failed hQueue
      | disconnected => exact (h.settles_idle hQueue rfl (by decide) hTeardown rfl).schedule
      | unavailable => exact h.settles_idle hQueue rfl (by decide) hTeardown rfl
      | unmanaged => exact h.settles_idle hQueue rfl (by decide) hTeardown rfl
      | unknown =>
        refine ⟨_, hAnnounced.trans hDropped, fun d hd => ?_,
          fun d hd _ => ⟨d, ?_, rfl, fun _ => rfl⟩⟩
        · -- no device is ever in this state, so the event is not the last one
          obtain ⟨rest', hRest⟩ := queueOf_cons hQueue
          rw [hAnnounced.here] at hd ⊢
          have hSound := h.toFits.sound hd
          have hEntered := hSound.entered_tail_ne_nil hRest rfl fun hEq => by
            have hStop := hSound.device.stop
            rw [← hEq] at hStop
            cases hStop
          exact Site.held_of_entered (h.toFits.idle_of_told hQueue rfl hd) hEntered
        · rw [hAnnounced.here]
          exact hd
    exact hFollow.same (same_updateState _)

-- ---------------------------------------------------------------------------
-- The queue of the manager
-- ---------------------------------------------------------------------------

theorem rests_failOrphan (m : Manager) (id : Nat) : Rests m (m.failOrphan id) := by
  unfold Manager.failOrphan
  split
  · exact Rests.refl m
  · dsimp only
    split
    · exact ⟨rfl, rfl⟩
    · exact (show Rests m (m.dropOrphan id) from ⟨rfl, rfl⟩).trans (rests_markInvalid _ _)

theorem rests_failRequest (m : Manager) (id : Nat) (reason : StateReason) :
    Rests m (m.failRequest id reason) := by
  unfold Manager.failRequest
  split
  · exact Rests.refl m
  · dsimp only
    split
    · exact rests_teardown m _ _
    · exact (rests_markInvalid m _).trans (rests_teardown _ _ _)

theorem rests_announced (m : Manager) (id : Nat) (new old : DeviceState) (reason : StateReason) :
    Rests m (m.announced id new old reason) := by
  unfold announced
  dsimp only
  split <;> exact ⟨rfl, rfl⟩

theorem queue_schedule (m : Manager) (id : Nat) : (m.schedule id).queue = m.queue := by
  unfold Manager.schedule
  split
  · rfl
  · split
    · rfl
    · split <;> rfl

theorem weight_failAuth (d : Device) : totalWeight d.failAuth.events ≤ 2 := by
  unfold Device.failAuth
  split
  · exact weight_moveTo d _ _
  · exact Nat.zero_le _

/-- What follows from an event weighs less than the event. -/
theorem queueWeight_handleEvent (m : Manager) (e : DeviceEvent) :
    (m.handleEvent e).queueWeight + 1 ≤ m.queueWeight + eventWeight e := by
  cases e with
  | linkRequested id request => exact Nat.le_refl _
  | needSecrets id need =>
    show (m.failUnansweredAuth id).queueWeight + 1 ≤ m.queueWeight + 3
    unfold failUnansweredAuth
    split
    · omega
    · have h := queueWeight_updateDevice m id Device.failAuth 2 fun d _ => weight_failAuth d
      omega
  | stateChanged id new old reason =>
    -- only a failure leads to another event, and that one weighs less
    have hBefore : ∀ m' : Manager, Rests m m' →
        (m'.followState id new reason).queueWeight + 1 ≤
          m.queueWeight + eventWeight (.stateChanged id new old reason) := by
      intro m' hRests
      rw [← queueWeight_rests hRests]
      have hOne : ∀ m'' : Manager, m''.queue = m'.queue → m''.queueWeight + 1 ≤ m'.queueWeight + 1 := by
        intro m'' hQueue
        unfold queueWeight
        exact Nat.le_of_eq (by rw [hQueue])
      cases new with
      | failed =>
        show (m'.activationFailed id reason).queueWeight + 1 ≤ m'.queueWeight + 2
        unfold Manager.activationFailed
        have hFree := (rests_failOrphan m' id).trans (rests_failRequest _ id reason)
        have h := queueWeight_updateDevice ((m'.failOrphan id).failRequest id reason) id
          (fun d => d.moveTo .disconnected reason) 1 fun d _ => weight_moveTo d _ _
        rw [queueWeight_rests hFree] at h
        omega
      | activated => exact hOne _ (rests_updateTimestamp m' id).queue
      | disconnected =>
        exact hOne _ ((queue_schedule _ id).trans (rests_teardownOn m' id reason).queue)
      | unavailable => exact hOne _ (rests_teardownOn m' id reason).queue
      | unmanaged => exact hOne _ (rests_teardownOn m' id reason).queue
      | unknown => exact hOne _ rfl
      | prepare => exact hOne _ rfl
      | config => exact hOne _ rfl
      | needAuth => exact hOne _ rfl
      | ipConfig => exact hOne _ rfl
    show (Manager.updateState _).queueWeight + 1 ≤ _
    rw [queueWeight_rests (rests_updateState _)]
    refine hBefore _ ?_
    have hAnnounced := rests_announced m id new old reason
    unfold announced at hAnnounced
    split
    · exact ⟨hAnnounced.queue, hAnnounced.pending⟩
    · exact hAnnounced

/-- Something that every handled event preserves is preserved by all of them. -/
theorem drain_preserves {P : Manager → Prop}
    (hStep : ∀ (m : Manager) (e : DeviceEvent) (rest : List DeviceEvent), P m → m.queue = e :: rest →
      P ({ m with queue := rest }.handleEvent e)) (n : Nat) {m : Manager} (h : P m) :
    P (drain n m) := by
  induction n generalizing m with
  | zero => exact h
  | succ n ih =>
    unfold drain
    cases hQueue : m.queue with
    | nil => exact h
    | cons e rest => exact ih (hStep m e rest h hQueue)

/-- The queue runs empty. -/
theorem drain_empty (n : Nat) {m : Manager} (h : m.queueWeight ≤ n) : (drain n m).queue = [] := by
  induction n generalizing m with
  | zero =>
    unfold drain
    cases hQueue : m.queue with
    | nil => rfl
    | cons e rest =>
      unfold queueWeight at h
      rw [hQueue] at h
      unfold totalWeight at h
      have hPos : 0 < eventWeight e := by
        unfold eventWeight
        split <;> decide
      omega
  | succ n ih =>
    unfold drain
    cases hQueue : m.queue with
    | nil => exact hQueue
    | cons e rest =>
      refine ih ?_
      have hStep := queueWeight_handleEvent { m with queue := rest } e
      have hWeight : m.queueWeight = eventWeight e + ({ m with queue := rest } : Manager).queueWeight := by
        unfold queueWeight
        rw [hQueue]
        rfl
      omega

-- ---------------------------------------------------------------------------
-- The queues of the requests
-- ---------------------------------------------------------------------------

/-- A request that works off its queue acts on the site of its device. -/
theorem Fits.processRequest (h : m.Fits A) {r : Request} (hr : r ∈ m.requests) :
    Acts A m (m.processRequest r.id) r.device
      ((m.site r.device).withRequest r.processEvents.request) := by
  have hFollows := r.processEvents_follows
  have hActs : Acts A m ((m.setRequest r.processEvents.request).perform r.processEvents.effects)
      r.device ((m.site r.device).withRequest r.processEvents.request) := h.setRequest hr
    ⟨hFollows.id, hFollows.subscription⟩ hFollows.device r.foreseen_processEvents
    (fun hAwaits => r.awaitsSecrets_processEvents ▸ hAwaits) hFollows.nextSeq hFollows.distinct
    hFollows.fresh
  unfold Manager.processRequest
  rw [h.linked.request?_of_mem hr]
  dsimp only
  split
  · exact hActs.same (same_publish _ fun _ => rfl)
  · exact hActs

theorem Coherent.processRequest (h : m.Coherent A) (id : Nat) : (m.processRequest id).Coherent A := by
  cases hr : m.request? id with
  | none =>
    unfold Manager.processRequest
    rw [hr]
    exact h
  | some r =>
    obtain ⟨hrMem, rfl⟩ := request?_eq_some hr
    refine (h.toFits.processRequest hrMem).coherent (fun x _ => h.accounted x) fun d hd => ?_
    exact (h.held hd).withRequest (h.linked.requestOn?_of_mem hrMem) fun _ hAwaits =>
      r.awaitsSecrets_processEvents.trans hAwaits

/-- No request has events to look at. -/
def AllLooked (m : Manager) : Prop := ∀ r ∈ m.requests, r.queue = []

theorem Coherent.processRequests (h : m.Coherent A) :
    m.processRequests.Coherent A ∧ m.processRequests.AllLooked := by
  let P : List Request → Manager → Prop := fun rest m' =>
    m'.Coherent A ∧ ∀ r ∈ m'.requests, r.queue = [] ∨ r.id ∈ rest.map Request.id
  have hStep : ∀ (q : Request) (rest : List Request) (m' : Manager), P (q :: rest) m' →
      P rest (m'.processRequest q.id) := by
    rintro q rest m' ⟨hCoherent, hQueues⟩
    refine ⟨hCoherent.processRequest q.id, fun r hr => ?_⟩
    have hOther : ∀ r ∈ m'.requests, r.id ≠ q.id → r.queue = [] ∨ r.id ∈ rest.map Request.id := by
      intro r hr hNe
      refine (hQueues r hr).imp_right fun hIn => ?_
      rw [List.map_cons, List.mem_cons] at hIn
      exact hIn.resolve_left hNe
    cases hFound : m'.request? q.id with
    | none =>
      unfold Manager.processRequest at hr
      rw [hFound] at hr
      refine hOther r hr fun hId => ?_
      rw [← hId, hCoherent.linked.request?_of_mem hr] at hFound
      cases hFound
    | some r₀ =>
      obtain ⟨-, hId⟩ := request?_eq_some hFound
      have hIn : r ∈ (m'.setRequest r₀.processEvents.request).requests := by
        unfold Manager.processRequest at hr
        rw [hFound] at hr
        dsimp only at hr
        split at hr <;> exact hr
      rcases hCoherent.linked.of_mem_setRequest hIn with rfl | ⟨hOld, hNe⟩
      · exact Or.inl r₀.queue_processEvents
      · refine hOther r hOld fun hEq => hNe ?_
        rw [r₀.processEvents_follows.id]
        exact hEq.trans hId.symm
  obtain ⟨hCoherent, hQueues⟩ := foldl_rest (P := P) hStep m.requests m
    ⟨h, fun r hr => Or.inr (List.mem_map_of_mem hr)⟩
  exact ⟨hCoherent, fun r hr => (hQueues r hr).resolve_right List.not_mem_nil⟩

-- ---------------------------------------------------------------------------
-- All queues
-- ---------------------------------------------------------------------------

/-- Nothing waits to be handled. -/
structure Quiet (m : Manager) : Prop where
  queue : m.queue = []
  looked : m.AllLooked

theorem pump_preserves {P : Manager → Prop} (hRequests : ∀ m, P m → P m.processRequests)
    (hStep : ∀ (m : Manager) (e : DeviceEvent) (rest : List DeviceEvent), P m → m.queue = e :: rest →
      P ({ m with queue := rest }.handleEvent e)) {m : Manager} (h : P m) : P m.pump := by
  unfold pump
  dsimp only
  split
  · exact hRequests m h
  · exact hRequests _ (drain_preserves hStep _ (hRequests m h))

theorem Settles.coherent {s : Site} (h : Settles A m m' id s)
    (hm : ∀ x, x ≠ id → (m.site x).Accounted) : m'.Coherent A := by
  obtain ⟨s', hActs, hAccounted, -⟩ := h
  exact hActs.coherent hm hAccounted

theorem Coherent.handleEvent_coherent (h : m.Coherent A) {e : DeviceEvent} {rest : List DeviceEvent}
    (hQueue : m.queue = e :: rest) : ({ m with queue := rest }.handleEvent e).Coherent A :=
  (h.handleEvent hQueue).coherent fun x _ => h.accounted x

/-- All queues run empty, and the manager stays coherent. -/
theorem Coherent.pump (h : m.Coherent A) : m.pump.Coherent A ∧ m.pump.Quiet := by
  have hPump := pump_preserves (P := Coherent A) (fun _ h => h.processRequests.1)
    (fun _ _ _ h hQueue => h.handleEvent_coherent hQueue) h
  refine ⟨hPump, ?_⟩
  unfold Manager.pump
  dsimp only
  split
  · rename_i hEmpty
    exact ⟨List.isEmpty_iff.mp hEmpty, h.processRequests.2⟩
  · have hDrained := drain_preserves (P := Coherent A)
      (fun _ _ _ h hQueue => h.handleEvent_coherent hQueue) m.processRequests.queueWeight
      h.processRequests.1
    refine ⟨?_, hDrained.processRequests.2⟩
    rw [(rests_processRequests _).queue]
    exact drain_empty _ (Nat.le_refl _)

end Manager

end ScannerHub
