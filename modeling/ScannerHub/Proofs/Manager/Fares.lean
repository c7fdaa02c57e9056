import ScannerHub.Proofs.Manager.Changes

/-!
# How devices fare

What one change does to one device. Whatever holds of the devices of a manager at all times follows
from this, for any sequence of changes: a device is what it was before, or it has just come.

Three things about a device outlast a single change, because the manager comes back to them later.

* `Awaited` — an automatic activation is due on it;
* `Watched` — the manager will look whether one can start on it;
* `Stranded` — it has lost its firmware while it could be used, and may be used further.

What is published about the state of a device always waited before, so what is true of all that
waits is true of all that is published.

## Results

* `Change.fares` — each change lets every device fare well;
* `Changes.announced` — whatever is published about the state of a device had waited to be told;
* `Changes.published` — whatever waited about the state of a device is published in the end.
-/

namespace ScannerHub

namespace Manager

variable {A : Nat → String → Prop} {s s' : Manager × Agenda} {id : Nat} {d d' : Device}

-- ---------------------------------------------------------------------------
-- What outlasts a change
-- ---------------------------------------------------------------------------

/-- An automatic activation is due on a device, or about to start. -/
def Awaited (s : Manager × Agenda) (id : Nat) : Prop := id ∈ s.1.pending ∨ id ∈ s.2.taken

/-- The manager will look at a device, whether an automatic activation can start on it. -/
def Watched (s : Manager × Agenda) (id : Nat) : Prop :=
  Awaited s id ∨ id ∈ s.2.due ∨ .disconnected ∈ entered (s.1.queueOf id)

/-- A device without its firmware that can be used, or that something is still to be done about
from a time when it could. -/
def Stranded (s : Manager × Agenda) (id : Nat) (d : Device) : Prop :=
  d.firmwareMissing = true ∧ (d.state.isGrounded = false ∨
    (∃ t ∈ entered (s.1.queueOf id), t.isGrounded = false) ∨ id ∈ s.2.failed)

/-- What may become of a device. -/
structure Fares (s s' : Manager × Agenda) (id : Nat) (d d' : Device) : Prop where
  firmware : d'.firmwareMissing = d.firmwareMissing
  managed : s.1.isAsleep = true → d'.managed = true → d.managed = true
  scheduled : d'.activationScheduled = true →
    Awaited s' id ∨ (d.activationScheduled = true ∧ (Awaited s id → Awaited s' id))
  misses : s'.1.Misses d' → Watched s' id ∨ (s.1.Misses d ∧ (Watched s id → Watched s' id))
  stranded : Stranded s' id d' → Stranded s id d

/-- A device that has just come, while the manager had nothing else to do. -/
structure Arrived (s s' : Manager × Agenda) (id : Nat) (d : Device) : Prop where
  number : id = s.1.nextDevice
  state : d.state = .unmanaged
  managed : d.managed = false
  scheduled : d.activationScheduled = false
  queue : s'.1.queueOf id = []
  agenda : s'.2 = .empty

/-- One device at two times, with nothing changed but who listens to it. -/
structure Alike (d d' : Device) : Prop where
  state : d'.state = d.state
  flags : Device.SameFlags d d'
  check : ∀ c, d'.check c = d.check c

theorem Alike.refl (d : Device) : Alike d d := ⟨rfl, ⟨rfl, rfl, rfl, rfl⟩, fun _ => rfl⟩

theorem Alike.autoconnectAllowed (h : Alike d d') :
    d'.autoconnectAllowed = d.autoconnectAllowed := by
  unfold Device.autoconnectAllowed Device.isAvailable
  rw [h.state, h.flags.managed, h.flags.inhibited, h.flags.firmware]
  rfl

-- ---------------------------------------------------------------------------
-- A device to which nothing happens
-- ---------------------------------------------------------------------------

/-- Nothing happens to a device, and what is to be done about it stays to be done. -/
theorem Fares.still (hAlike : Alike d d') (hDecides : Decides s.1 s'.1)
    (hQueue : s'.1.queueOf id = s.1.queueOf id) (hAwaited : Awaited s id → Awaited s' id)
    (hDue : id ∈ s.2.due → Awaited s' id ∨ id ∈ s'.2.due)
    (hFailed : id ∈ s'.2.failed → id ∈ s.2.failed) : Fares s s' id d d' where
  firmware := hAlike.flags.firmware
  managed _ hManaged := hAlike.flags.managed.symm.trans hManaged
  scheduled hScheduled := Or.inr ⟨hAlike.flags.scheduled.symm.trans hScheduled, hAwaited⟩
  misses hMisses := by
    refine Or.inr ⟨hDecides.misses hAlike.check (fun h => hAlike.autoconnectAllowed ▸ h) hMisses, ?_⟩
    rintro (hNoted | hLate | hTold)
    · exact Or.inl (hAwaited hNoted)
    · exact (hDue hLate).imp_right Or.inl
    · exact Or.inr (Or.inr (hQueue ▸ hTold))
  stranded := by
    rintro ⟨hMissing, hUsed | hTold | hOpen⟩
    · exact ⟨hAlike.flags.firmware ▸ hMissing, Or.inl (hAlike.state ▸ hUsed)⟩
    · exact ⟨hAlike.flags.firmware ▸ hMissing, Or.inr (Or.inl (hQueue ▸ hTold))⟩
    · exact ⟨hAlike.flags.firmware ▸ hMissing, Or.inr (Or.inr (hFailed hOpen))⟩

/-- Something happens, but not to this device, and no automatic activation becomes due. -/
theorem Fares.aside {m m' : Manager} {a : Agenda} (hDecides : Decides m m')
    (hQueue : m'.queueOf id = m.queueOf id) (hPending : m'.pending = m.pending)
    (hAlike : Alike d d') : Fares (m, a) (m', a) id d d' := by
  refine Fares.still hAlike hDecides hQueue (fun hNoted => ?_) Or.inr fun h => h
  unfold Awaited at hNoted ⊢
  rw [hPending]
  exact hNoted

theorem pending_updateDevice (m : Manager) (id : Nat) (f : Device → Update) :
    (m.updateDevice id f).pending = m.pending := by
  unfold updateDevice
  split <;> rfl

-- ---------------------------------------------------------------------------
-- A device that is told what to do
-- ---------------------------------------------------------------------------

/-- A walk of a device, with the events that now wait to be told. -/
theorem Fares.walk {u : Update} (hWalks : Device.Walks d u)
    (hManaged : s.1.isAsleep = true → u.device.managed = true → d.managed = true)
    (hDecides : Decides s.1 s'.1) (hCheck : ∀ c, u.device.check c = d.check c)
    (hQueue : s'.1.queueOf id = s.1.queueOf id ++ u.events)
    (hAwaited : Awaited s id → Awaited s' id) (hDue : id ∈ s.2.due → id ∈ s'.2.due)
    (hStranded : Stranded s' id u.device → Stranded s id d) : Fares s s' id d u.device where
  firmware := hWalks.firmware
  managed := hManaged
  scheduled hScheduled := Or.inr ⟨hWalks.scheduled hScheduled, hAwaited⟩
  misses := by
    rintro ⟨hAwake, hFree, hOffers⟩
    have hTold : ∀ t, t ∈ entered (s.1.queueOf id) ∨ t ∈ entered u.events →
        t ∈ entered (s'.1.queueOf id) := by
      intro t ht
      rw [hQueue, entered_append, List.mem_append]
      exact ht
    rcases hWalks.allowed hFree with hWas | hTells
    · refine Or.inr ⟨⟨hDecides.isAsleep ▸ hAwake, hWas, (hDecides.offers hCheck).mp hOffers⟩, ?_⟩
      rintro (hNoted | hLate | hEarlier)
      · exact Or.inl (hAwaited hNoted)
      · exact Or.inr (Or.inl (hDue hLate))
      · exact Or.inr (Or.inr (hTold _ (Or.inl hEarlier)))
    · exact Or.inl (Or.inr (Or.inr (hTold _ (Or.inr hTells))))
  stranded := hStranded

/-- A device that cannot be used without its firmware is not used by a walk that says so. -/
theorem Stranded.travels {u : Update} (hTravels : Device.Travels d u)
    (hQueue : s'.1.queueOf id = s.1.queueOf id ++ u.events)
    (hFailed : id ∈ s'.2.failed → id ∈ s.2.failed) (h : Stranded s' id u.device) :
    Stranded s id d := by
  obtain ⟨hMissing, hCase⟩ := h
  have hMissing : d.firmwareMissing = true := hTravels.firmware ▸ hMissing
  have hRises : ∀ t ∈ entered u.events, t.isGrounded = false → d.state.isGrounded = false := by
    intro t ht hUsed
    refine (hTravels.rises t ht hUsed).resolve_right fun hThere => ?_
    rw [hMissing] at hThere
    cases hThere
  refine ⟨hMissing, ?_⟩
  rcases hCase with hUsed | ⟨t, ht, hUsed⟩ | hOpen
  · rcases hTravels.trail.mem_or_eq with hIn | hSame
    · exact Or.inl (hRises _ hIn hUsed)
    · exact Or.inl (hSame ▸ hUsed)
  · rw [hQueue, entered_append, List.mem_append] at ht
    rcases ht with hEarlier | hNow
    · exact Or.inr (Or.inl ⟨t, hEarlier, hUsed⟩)
    · exact Or.inl (hRises t hNow hUsed)
  · exact Or.inr (Or.inr (hFailed hOpen))

-- ---------------------------------------------------------------------------
-- A device of which the manager tells
-- ---------------------------------------------------------------------------

theorem taken_hear (a : Agenda) (e : DeviceEvent) : (a.hear e).taken = a.taken := by
  unfold Agenda.hear
  split <;> rfl

theorem mem_due_hear (a : Agenda) (e : DeviceEvent) (id : Nat) :
    id ∈ (a.hear e).due ↔ (e.device = id ∧ e.entered? = some .disconnected) ∨ id ∈ a.due := by
  cases e with
  | stateChanged device new old reason =>
    cases new <;> simp [Agenda.hear, DeviceEvent.entered?, DeviceEvent.device, eq_comm]
  | needSecrets device need => simp [Agenda.hear, DeviceEvent.entered?]
  | linkRequested device request => simp [Agenda.hear, DeviceEvent.entered?]

theorem mem_failed_hear (a : Agenda) (e : DeviceEvent) (id : Nat) :
    id ∈ (a.hear e).failed ↔ (e.device = id ∧ e.entered? = some .failed) ∨ id ∈ a.failed := by
  cases e with
  | stateChanged device new old reason =>
    cases new <;> simp [Agenda.hear, DeviceEvent.entered?, DeviceEvent.device, eq_comm]
  | needSecrets device need => simp [Agenda.hear, DeviceEvent.entered?]
  | linkRequested device request => simp [Agenda.hear, DeviceEvent.entered?]

/-- The states that wait to be told of, the oldest event first. -/
theorem mem_entered_cons {m : Manager} {e : DeviceEvent} {rest : List DeviceEvent}
    (hQueue : m.queue = e :: rest) (id : Nat) (t : DeviceState) :
    t ∈ entered (m.queueOf id) ↔
      (e.device = id ∧ e.entered? = some t) ∨ t ∈ entered ((m.told e rest).queueOf id) := by
  unfold queueOf entered
  rw [hQueue]
  simp only [List.mem_filterMap, List.mem_filter, List.mem_cons, beq_iff_eq]
  constructor
  · rintro ⟨e', ⟨rfl | hRest, hDevice⟩, hEnters⟩
    · exact Or.inl ⟨hDevice, hEnters⟩
    · exact Or.inr ⟨e', ⟨hRest, hDevice⟩, hEnters⟩
  · rintro (⟨hDevice, hEnters⟩ | ⟨e', ⟨hRest, hDevice⟩, hEnters⟩)
    · exact ⟨e, ⟨Or.inl rfl, hDevice⟩, hEnters⟩
    · exact ⟨e', ⟨Or.inr hRest, hDevice⟩, hEnters⟩

/-- What an event told of is noted where it matters. -/
theorem Fares.told {m : Manager} {a : Agenda} {e : DeviceEvent} {rest : List DeviceEvent}
    (hQueue : m.queue = e :: rest) (d : Device) :
    Fares (m, a) (m.told e rest, a.hear e) id d d := by
  have hDecides : Decides m (m.told e rest) := ⟨rfl, rfl, rfl, rfl, rfl⟩
  have hAwaited : Awaited (m, a) id → Awaited (m.told e rest, a.hear e) id := by
    unfold Awaited
    rw [taken_hear]
    exact fun h => h
  refine
    { firmware := rfl
      managed := fun _ h => h
      scheduled := fun h => Or.inr ⟨h, hAwaited⟩
      misses := fun h => Or.inr ⟨hDecides.misses (fun _ => rfl) (fun h => h) h, ?_⟩
      stranded := ?_ }
  · rintro (hNoted | hLate | hTold)
    · exact Or.inl (hAwaited hNoted)
    · exact Or.inr (Or.inl ((mem_due_hear a e id).mpr (Or.inr hLate)))
    · rcases (mem_entered_cons hQueue id .disconnected).mp hTold with hNow | hLater
      · exact Or.inr (Or.inl ((mem_due_hear a e id).mpr (Or.inl hNow)))
      · exact Or.inr (Or.inr hLater)
  · rintro ⟨hMissing, hUsed | ⟨t, ht, hUsed⟩ | hOpen⟩
    · exact ⟨hMissing, Or.inl hUsed⟩
    · exact ⟨hMissing, Or.inr (Or.inl ⟨t, (mem_entered_cons hQueue id t).mpr (Or.inr ht), hUsed⟩)⟩
    · rcases (mem_failed_hear a e id).mp hOpen with hNow | hEarlier
      · exact ⟨hMissing, Or.inr (Or.inl
          ⟨.failed, (mem_entered_cons hQueue id .failed).mpr (Or.inl hNow), rfl⟩)⟩
      · exact ⟨hMissing, Or.inr (Or.inr hEarlier)⟩

-- ---------------------------------------------------------------------------
-- One change
-- ---------------------------------------------------------------------------

theorem readied_firmware (d : Device) (userRequested : Bool) :
    (readied d userRequested).firmwareMissing = d.firmwareMissing := by
  cases userRequested <;> rfl

theorem device?_updateState (m : Manager) (x : Nat) : m.updateState.device? x = m.device? x := by
  unfold Manager.device?
  rw [(same_updateState m).devices]

section Changes

variable {m m' : Manager} {a : Agenda}

theorem Leaves.fares (h : Leaves m m') {more : List Nat}
    (hMisses : ∀ d ∈ m.devices, m'.Misses d → m.Misses d ∨ d.id ∈ more)
    (hd : m.device? id = some d) : Fares (m, a) (m', { a with due := more ++ a.due }) id d d := by
  have hAwaited : Awaited (m, a) id → Awaited (m', { a with due := more ++ a.due }) id := by
    unfold Awaited
    rw [h.pending]
    exact fun h => h
  obtain ⟨hMem, rfl⟩ := device?_eq_some hd
  refine
    { firmware := rfl
      managed := fun _ h => h
      scheduled := fun h => Or.inr ⟨h, hAwaited⟩
      misses := fun hNow => ?_
      stranded := ?_ }
  · rcases hMisses d hMem hNow with hWas | hNew
    · refine Or.inr ⟨hWas, ?_⟩
      rintro (hNoted | hLate | hTold)
      · exact Or.inl (hAwaited hNoted)
      · exact Or.inr (Or.inl (List.mem_append_right more hLate))
      · exact Or.inr (Or.inr (queueOf_congr h.queue d.id ▸ hTold))
    · exact Or.inl (Or.inr (Or.inl (List.mem_append_left a.due hNew)))
  · unfold Stranded
    rw [show m'.queueOf d.id = m.queueOf d.id from queueOf_congr h.queue d.id]
    exact fun h => h

theorem Fits.fares_teardown (h : m.Fits A) {r : Request} (hr : r ∈ m.requests)
    (reason : StateReason) (hd : (m.teardown r.id reason).device? id = some d') :
    ∃ d, m.device? id = some d ∧ Fares (m, a) (m.teardown r.id reason, a) id d d' := by
  have hRests := rests_teardown m r.id reason
  have hDecides := decides_teardown m r.id reason
  obtain ⟨rfl, hHere, -⟩ | ⟨-, hAway, -⟩ :=
    device_cases ((h.teardown (h.linked.request?_of_mem hr) reason).site id) hd
  · obtain ⟨d, hOld, rfl⟩ := Option.map_eq_some_iff.mp hHere
    exact ⟨d, hOld, Fares.aside hDecides (queueOf_congr hRests.queue _) hRests.pending
      ⟨rfl, ⟨rfl, rfl, rfl, rfl⟩, fun _ => rfl⟩⟩
  · exact ⟨d', hAway, Fares.aside hDecides (queueOf_congr hRests.queue id) hRests.pending (Alike.refl d')⟩

theorem Acts.fares {id' : Nat} {d₀ : Device} {f : Device → Update} (hd₀ : m.device? id' = some d₀)
    (hMoves : Device.Moves d₀ (f d₀))
    (hActs : Acts A m (m.updateDevice id' f) id' ((m.site id').hears (f d₀)))
    (hTravels : Device.Travels d₀ (f d₀))
    (hManaged : m.isAsleep = true → (f d₀).device.managed = true → d₀.managed = true)
    (hd : (m.updateDevice id' f).device? id = some d') :
    ∃ d, m.device? id = some d ∧ Fares (m, a) (m.updateDevice id' f, a) id d d' := by
  have hDecides := decides_updateDevice m id' f
  have hPending := pending_updateDevice m id' f
  obtain ⟨rfl, hHere, hQueue⟩ | ⟨-, hAway, hQueue⟩ := device_cases (hActs.site id) hd
  · cases hHere
    refine ⟨d₀, hd₀, Fares.walk hTravels.toWalks hManaged hDecides hMoves.frame.check hQueue
      (fun hNoted => ?_) (fun h => h) (Stranded.travels hTravels hQueue fun h => h)⟩
    unfold Awaited at hNoted ⊢
    rw [hPending]
    exact hNoted
  · exact ⟨d', hAway, Fares.aside hDecides hQueue hPending (Alike.refl d')⟩

/-- A device recovers from a failure that was noted. -/
theorem Fits.fares_recover (h : m.Fits A) {id' : Nat} {rest : List Nat}
    (hFailed : a.failed = id' :: rest) (reason : StateReason)
    (hd : (m.updateDevice id' fun d => d.moveTo .disconnected reason).device? id = some d') :
    ∃ d, m.device? id = some d ∧ Fares (m, a)
      (m.updateDevice id' fun d => d.moveTo .disconnected reason, { a with failed := rest }) id d d' := by
  have hDecides := decides_updateDevice m id' fun d => d.moveTo .disconnected reason
  have hAwaited : Awaited (m, a) id → Awaited
      (m.updateDevice id' fun d => d.moveTo .disconnected reason, { a with failed := rest }) id := by
    unfold Awaited
    rw [pending_updateDevice]
    exact fun h => h
  obtain ⟨d, hOld, ⟨rfl, rfl, hQueue⟩ | ⟨-, hSame, hQueue⟩⟩ :=
    h.updated_cases (fun _ => Device.moveTo_disconnected_carries reason) hd
  · have hMove := Device.moveTo_proceeds d .disconnected reason
    have hSound := h.sound hOld
    refine ⟨d, hOld, Fares.walk hMove.walks (fun _ hManaged => hMove.flags.managed.symm.trans hManaged)
      hDecides ?_ hQueue hAwaited (fun h => h) ?_⟩
    · exact (Device.moveTo_disconnected_carries reason hSound.allListen hSound.device).frame.check
    · rintro ⟨hMissing, -⟩
      refine ⟨hMove.flags.firmware ▸ hMissing, Or.inr (Or.inr ?_)⟩
      rw [hFailed]
      exact List.mem_cons_self
  · rw [hSame]
    refine ⟨d, hOld, Fares.still (Alike.refl d) hDecides hQueue hAwaited Or.inr fun hOpen => ?_⟩
    rw [hFailed]
    exact List.mem_cons_of_mem id' hOpen

/-- A request starts, and nothing is due on its device any more. -/
theorem Fits.fares_launch (h : m.Fits A) {id' number : Nat} {d₀ : Device} (spec : RequestSpec)
    (hd₀ : m.device? id' = some d₀) (hState : d₀.state = .disconnected)
    (hNone : m.requestOn? id' = none) (hQueue : m.queueOf id' = [])
    (hCheck : d₀.check spec.connection = .ok ()) (hFresh : m.Fresh number) (numbers : List Nat)
    (hd : ((m.undue id').launch number d₀ spec).1.device? id = some d') :
    ∃ d, m.device? id = some d ∧ Fares (m, a)
      (((m.undue id').launch number d₀ spec).1, { a with numbers }) id d d' := by
  obtain ⟨hLaunch, hEq, -, hSite⟩ := h.launched spec hd₀ hState hNone hQueue hCheck hFresh
  obtain ⟨rfl, hHere, -⟩ | ⟨hNe, hAway, hSame⟩ := device_cases (hSite id) hd
  · cases hHere
    obtain ⟨hTravels, hUndue⟩ := Device.activate_travels (hLaunch.joins.state.trans hState)
      (m.undue id).now ((m.undue id).starting number d₀ spec).1.connection
    have hFirmware := hTravels.firmware.trans (readied_firmware d₀ spec.userRequested)
    refine ⟨d₀, hd₀,
      { firmware := hFirmware
        managed := fun _ _ => ?_
        scheduled := fun hDue => ?_
        misses := fun hMisses => ?_
        stranded := fun hStranded => ⟨hFirmware ▸ hStranded.1, Or.inl (by rw [hState]; rfl)⟩ }⟩
    · rw [← Bool.not_eq_false, (h.sound hd₀).device.managed, hState]
      exact nofun
    · rw [hUndue] at hDue
      cases hDue
    · have hFree := hMisses.2.1
      unfold Device.autoconnectAllowed at hFree
      rcases hLaunch.starts.rests with hRests | hRests <;> simp [hRests] at hFree
  · refine ⟨d', hAway, Fares.still (Alike.refl d') ?_ hSame (fun hNoted => ?_) Or.inr fun h => h⟩
    · exact (show Decides m (m.undue id') from ⟨rfl, rfl, rfl, rfl, rfl⟩).trans
        (decides_launch (m.undue id') number d₀ spec)
    · rw [hEq]
      refine hNoted.imp_left fun hPending => List.mem_filter.mpr ⟨hPending, ?_⟩
      simpa using hNe

theorem fares_updateState (hd : m.updateState.device? id = some d') :
    m.device? id = some d' ∧ Fares (m, a) (m.updateState, a) id d' d' := by
  have hRests := rests_updateState m
  rw [device?_updateState] at hd
  exact ⟨hd, Fares.aside (decides_updateState m) (queueOf_congr hRests.queue id) hRests.pending
    (Alike.refl d')⟩

/-- A device that was to be looked at is noted, or there is nothing to note. -/
theorem Fits.fares_schedule (h : m.Fits A) {id' : Nat} {rest : List Nat} (hDue : a.due = id' :: rest)
    (hd : (m.schedule id').device? id = some d') :
    ∃ d, m.device? id = some d ∧ Fares (m, a) (m.schedule id', { a with due := rest }) id d d' := by
  obtain ⟨hEq, hNothing⟩ | hEq := m.schedule_cases id'
  · rw [hEq] at hd ⊢
    refine ⟨d', hd,
      { firmware := rfl
        managed := fun _ h => h
        scheduled := fun h => Or.inr ⟨h, fun h => h⟩
        misses := fun hMisses => ?_
        stranded := fun h => h }⟩
    by_cases hId : id = id'
    · subst hId
      exact Or.inl (Or.inl (Or.inl (hNothing d' hd hMisses)))
    · refine Or.inr ⟨hMisses, ?_⟩
      rintro (hNoted | hLate | hTold)
      · exact Or.inl hNoted
      · rw [show (m, a).2.due = id' :: rest from hDue] at hLate
        exact Or.inr (Or.inl ((List.mem_cons.mp hLate).resolve_left hId))
      · exact Or.inr (Or.inr hTold)
  · rw [hEq] at hd ⊢
    have hMarked := decides_modifyDevice m id' fun d => { d with activationScheduled := true }
    have hRests := rests_modifyDevice m id' fun d => { d with activationScheduled := true }
    have hDecides : Decides m (m.enlisted id') := hMarked.trans ⟨rfl, rfl, rfl, rfl, rfl⟩
    have hQueue : ∀ x, (m.enlisted id').queueOf x = m.queueOf x := queueOf_congr hRests.queue
    obtain ⟨d, hOld, ⟨rfl, rfl⟩ | ⟨hNe, rfl⟩⟩ := h.marked_cases hd
    · have hNoted : Awaited (m.enlisted id, { a with due := rest }) id :=
        Or.inl (List.mem_append_right m.pending List.mem_cons_self)
      refine ⟨d, hOld,
        { firmware := rfl
          managed := fun _ h => h
          scheduled := fun _ => Or.inl hNoted
          misses := fun _ => Or.inl (Or.inl hNoted)
          stranded := ?_ }⟩
      unfold Stranded
      rw [show Manager.queueOf _ id = m.queueOf id from hQueue id]
      exact fun h => h
    · refine ⟨d', hOld, Fares.still (Alike.refl d') hDecides (hQueue id) ?_ ?_ fun h => h⟩
      · exact fun hNoted => hNoted.imp_left (List.mem_append_left [id'])
      · rw [show (m, a).2.due = id' :: rest from hDue]
        exact fun hLate => Or.inr ((List.mem_cons.mp hLate).resolve_left hNe)

/-- The flag of a device that is looked at is taken back. -/
theorem Fits.fares_unschedule (h : m.Fits A) {id' : Nat}
    (hd : (m.modifyDevice id' fun d => { d with activationScheduled := false }).device? id = some d') :
    ∃ d, m.device? id = some d ∧
      Fares (m, a) (m.modifyDevice id' fun d => { d with activationScheduled := false }, a) id d d' := by
  have hDecides := decides_modifyDevice m id' fun d => { d with activationScheduled := false }
  have hRests := rests_modifyDevice m id' fun d => { d with activationScheduled := false }
  obtain ⟨d, hOld, ⟨-, rfl⟩ | ⟨-, rfl⟩⟩ := h.marked_cases hd
  · have hAside : Fares (m, a) (m.modifyDevice id' fun d => { d with activationScheduled := false }, a)
        id d d := Fares.aside hDecides (queueOf_congr hRests.queue id) hRests.pending (Alike.refl d)
    exact ⟨d, hOld,
      { firmware := rfl
        managed := fun _ h => h
        scheduled := fun hDue => by cases hDue
        misses := hAside.misses
        stranded := hAside.stranded }⟩
  · exact ⟨d', hOld, Fares.aside hDecides (queueOf_congr hRests.queue id) hRests.pending (Alike.refl d')⟩

/-- A device that has been seen to misses nothing. -/
theorem fares_looked {id' : Nat} {rest : List Nat} (hTaken : a.taken = id' :: rest)
    (hDone : ∀ d, m.device? id' = some d → d.activationScheduled = false ∧ ¬ m.Misses d)
    (hd : m.device? id = some d) : Fares (m, a) (m, { a with taken := rest }) id d d := by
  by_cases hId : id = id'
  · subst hId
    obtain ⟨hUnmarked, hNothing⟩ := hDone d hd
    refine
      { firmware := rfl
        managed := fun _ h => h
        scheduled := fun hDue => ?_
        misses := fun hMisses => absurd hMisses hNothing
        stranded := fun h => h }
    rw [hUnmarked] at hDue
    cases hDue
  · refine Fares.still (Alike.refl d) (Decides.refl m) rfl (fun hNoted => ?_) Or.inr fun h => h
    refine hNoted.imp_right fun hLater => ?_
    rw [show (m, a).2.taken = id' :: rest from hTaken] at hLater
    exact (List.mem_cons.mp hLater).resolve_left hId

/-- A device has just come, and nothing happens to the others. -/
theorem Fits.fares_arrive (h : m.Fits A) {e : Device} (hQueue : m.queue = []) (hUnused : e.Unused)
    (hUdi : ∀ x ∈ m.devices, x.udi ≠ e.udi) (hd : (m.admitted e).device? id = some d') :
    (∃ d, m.device? id = some d ∧ Fares (m, .empty) (m.admitted e, .empty) id d d') ∨
      Arrived (m, .empty) (m.admitted e, .empty) id d' := by
  have hQueueOf : (m.admitted e).queueOf id = m.queueOf id := rfl
  obtain ⟨hNumber, hHere, -⟩ | ⟨-, hAway, -⟩ :=
    device_cases ((h.takenIn hQueue hUnused hUdi).2.2 id) hd
  · cases hHere
    exact Or.inr ⟨hNumber, hUnused.state, hUnused.managed, hUnused.scheduled,
      hQueueOf.trans (queueOf_nil hQueue id), rfl⟩
  · exact Or.inl ⟨d', hAway, Fares.aside ⟨rfl, rfl, rfl, rfl, rfl⟩ hQueueOf rfl (Alike.refl d')⟩

theorem Fits.fares_dismiss (h : m.Fits A) {id' : Nat} (hRequest : m.requestOn? id' = none)
    (hOrphan : m.orphan? id' = none)
    (hd : ((m.dismissed id').publish (.deviceRemoved id')).device? id = some d') :
    ∃ d, m.device? id = some d ∧
      Fares (m, a) ((m.dismissed id').publish (.deviceRemoved id'), a) id d d' := by
  obtain ⟨-, hHere, -⟩ | ⟨hNe, hAway, -⟩ :=
    device_cases ((h.dismissed id' hRequest hOrphan).site id) hd
  · cases hHere
  · refine ⟨d', hAway, Fares.still (Alike.refl d') ⟨rfl, rfl, rfl, rfl, rfl⟩ rfl
      (fun hNoted => ?_) Or.inr fun h => h⟩
    refine hNoted.imp_left fun hPending => List.mem_filter.mpr ⟨hPending, ?_⟩
    simpa using hNe

end Changes

/-- Each change lets every device fare well, unless it has just come. -/
theorem Change.fares (h : Change A s s') (hFits : s.1.Fits A) (hd : s'.1.device? id = some d') :
    (∃ d, s.1.device? id = some d ∧ Fares s s' id d d') ∨ Arrived s s' id d' := by
  cases h with
  | quiet more hFits' hLeaves hMisses =>
    have hOld := (hLeaves.device? id).symm.trans hd
    exact Or.inl ⟨d', hOld, hLeaves.fares hMisses hOld⟩
  | teardown hr reason => exact Or.inl (hFits.fares_teardown hr reason hd)
  | update hd₀ hMoves hActs hTravels hManaged =>
    exact Or.inl (hActs.fares hd₀ hMoves hTravels hManaged hd)
  | recover hFailed reason => exact Or.inl (hFits.fares_recover hFailed reason hd)
  | number =>
    exact Or.inl ⟨d', hd, Fares.still (Alike.refl d') ⟨rfl, rfl, rfl, rfl, rfl⟩ rfl (fun h => h)
      Or.inr fun h => h⟩
  | launch hNumbers hd₀ hState hNone hQueue hCheck hFresh =>
    exact Or.inl (hFits.fares_launch _ hd₀ hState hNone hQueue hCheck hFresh _ hd)
  | tell hQueue => exact Or.inl ⟨d', hd, Fares.told hQueue d'⟩
  | sum => exact Or.inl ⟨d', fares_updateState hd⟩
  | schedule hDue => exact Or.inl (hFits.fares_schedule hDue hd)
  | take =>
    exact Or.inl ⟨d', hd, Fares.still (Alike.refl d') ⟨rfl, rfl, rfl, rfl, rfl⟩ rfl
      (fun hNoted => Or.inr (List.mem_append.mpr hNoted)) Or.inr fun h => h⟩
  | unschedule id' => exact Or.inl (hFits.fares_unschedule hd)
  | looked hTaken hDone => exact Or.inl ⟨d', hd, fares_looked hTaken hDone hd⟩
  | arrive hQueue hUnused hUdi => exact hFits.fares_arrive hQueue hUnused hUdi hd
  | dismiss hd₀ hQueue hRequest hOrphan =>
    exact Or.inl (hFits.fares_dismiss hRequest hOrphan hd)
  | disband => cases hd

-- ---------------------------------------------------------------------------
-- What is published about the states of devices
-- ---------------------------------------------------------------------------

/-- One manager at two times. Whatever was published in between about the state of a device had
waited to be told, and no number was taken back. -/
structure Announces (m m' : Manager) : Prop where
  nextDevice : m.nextDevice ≤ m'.nextDevice
  events : ∃ news, m'.events = m.events ++ news ∧ ∀ id new old reason,
    .deviceStateChanged id new old reason ∈ news → new ∈ entered (m.queueOf id)

section Announcements

variable {m m' : Manager} {new old : DeviceState} {reason : StateReason}

/-- What is published is about something else. -/
theorem Announces.of_others {news : List ManagerEvent} (hNextDevice : m.nextDevice ≤ m'.nextDevice)
    (hEvents : m'.events = m.events ++ news)
    (hOthers : ∀ id new old reason, .deviceStateChanged id new old reason ∉ news) : Announces m m' :=
  ⟨hNextDevice, news, hEvents, fun id new old reason hIn => absurd hIn (hOthers id new old reason)⟩

theorem Announces.silent (hNextDevice : m'.nextDevice = m.nextDevice)
    (hEvents : m'.events = m.events) : Announces m m' :=
  .of_others (Nat.le_of_eq hNextDevice.symm) (by rw [hEvents, List.append_nil])
    fun _ _ _ _ => List.not_mem_nil

theorem announces_updateDevice (m : Manager) (id : Nat) (f : Device → Update) :
    Announces m (m.updateDevice id f) := by
  unfold updateDevice
  split
  · exact .silent rfl rfl
  · exact .silent rfl rfl

theorem announces_modifyDevice (m : Manager) (id : Nat) (f : Device → Device) :
    Announces m (m.modifyDevice id f) := by
  unfold modifyDevice
  split
  · exact .silent rfl rfl
  · exact .silent rfl rfl

/-- The state that an event published is the one that the device entered. -/
theorem entered_of_published {e : DeviceEvent}
    (hIn : .deviceStateChanged id new old reason ∈ e.published) :
    e.device = id ∧ e.entered? = some new := by
  cases e with
  | stateChanged device new' old' reason' =>
    obtain hHead | hTail := List.mem_cons.mp hIn
    · cases hHead
      exact ⟨rfl, rfl⟩
    · split at hTail
      · simp at hTail
      · cases hTail
  | needSecrets device need => cases hIn
  | linkRequested device request => simp [DeviceEvent.published] at hIn

/-- No change publishes anything about the state of a device that had not waited to be told. -/
theorem Change.announces (h : Change A s s') (hFits : s.1.Fits A) : Announces s.1 s'.1 := by
  cases h with
  | quiet more hFits' hLeaves =>
    obtain ⟨news, hEvents, hNews⟩ := hLeaves.events
    refine .of_others (Nat.le_of_eq hLeaves.nextDevice.symm) hEvents fun id new old reason hIn => ?_
    obtain ⟨r, -, hEq⟩ := hNews _ hIn
    cases hEq
  | teardown hr reason =>
    dsimp only
    rw [teardown_eq (hFits.linked.request?_of_mem hr)]
    exact .of_others (Nat.le_refl _) rfl (by simp)
  | update => exact announces_updateDevice _ _ _
  | recover => exact announces_updateDevice _ _ _
  | number => exact .silent rfl rfl
  | launch hNumbers hd hState hNone hQueue hCheck hFresh =>
    obtain ⟨-, hEq, -⟩ := hFits.launched _ hd hState hNone hQueue hCheck hFresh
    dsimp only
    rw [hEq]
    exact .of_others (Nat.le_refl _) (List.append_assoc _ _ _) (by simp)
  | tell hQueue =>
    refine ⟨Nat.le_refl _, _, rfl, fun id new old reason hIn => ?_⟩
    exact (mem_entered_cons hQueue id new).mpr (Or.inl (entered_of_published hIn))
  | @sum m a =>
    show Announces m m.updateState
    unfold Manager.updateState
    split
    · exact .silent rfl rfl
    · exact .of_others (Nat.le_refl _) rfl (by simp)
  | @schedule m a id rest hDue =>
    show Announces m (m.schedule id)
    obtain ⟨hEq, -⟩ | hEq := m.schedule_cases id
    · rw [hEq]
      exact .silent rfl rfl
    · rw [hEq]
      have hMarked := announces_modifyDevice m id fun d => { d with activationScheduled := true }
      exact ⟨hMarked.nextDevice, hMarked.events⟩
  | take => exact .silent rfl rfl
  | unschedule id => exact announces_modifyDevice _ _ _
  | looked => exact .silent rfl rfl
  | arrive => exact .of_others (Nat.le_succ _) rfl (by simp)
  | dismiss => exact .of_others (Nat.le_refl _) rfl (by simp)
  | disband => exact .of_others (Nat.le_refl _) rfl (by simp)

theorem Changes.events (h : Changes A s s') (hFits : s.1.Fits A) :
    ∃ news, s'.1.events = s.1.events ++ news := by
  refine changes_preserve (P := fun t => ∃ news, t.1.events = s.1.events ++ news) ?_ h hFits
    ⟨[], (List.append_nil _).symm⟩
  rintro t t' hChange hFits' ⟨news, hEvents⟩
  obtain ⟨later, hLater, -⟩ := (hChange.announces hFits').events
  exact ⟨news ++ later, by rw [hLater, hEvents, List.append_assoc]⟩

/-- Whatever is published about the state of a device, there was a moment when it waited to be
told. -/
theorem Changes.announced (h : Changes A s s') (hFits : s.1.Fits A) {news : List ManagerEvent}
    (hEvents : s'.1.events = s.1.events ++ news)
    (hIn : .deviceStateChanged id new old reason ∈ news) :
    ∃ t, Changes A s t ∧ Changes A t s' ∧ new ∈ entered (t.1.queueOf id) := by
  induction h generalizing news with
  | refl =>
    rw [List.self_eq_append_right.mp hEvents] at hIn
    cases hIn
  | tail hFirst hLast ih =>
    obtain ⟨earlier, hEarlier⟩ := Changes.events hFirst hFits
    obtain ⟨later, hLater, hWaited⟩ := (hLast.announces (Changes.fits hFirst hFits)).events
    rw [hLater, hEarlier, List.append_assoc] at hEvents
    rw [← List.append_cancel_left hEvents] at hIn
    obtain hIn | hIn := List.mem_append.mp hIn
    · obtain ⟨t, hBefore, hAfter, hWaits⟩ := ih hEarlier hIn
      exact ⟨t, hBefore, hAfter.tail hLast, hWaits⟩
    · exact ⟨_, hFirst, .single hLast, hWaited id new old reason hIn⟩

/-- What waits to be told goes on waiting, unless it is told. -/
theorem Change.waits (h : Change A s s') (hFits : s.1.Fits A) :
    (∃ e rest, s.1.queue = e :: rest ∧ s'.1 = s.1.told e rest) ∨
      ∀ x, s.1.queueOf x <+: s'.1.queueOf x := by
  -- nothing becomes of the queue, or what happens to one device is added to it
  have hSame : ∀ {m m' : Manager}, m'.queue = m.queue → ∀ x, m.queueOf x <+: m'.queueOf x :=
    fun hQueue x => queueOf_congr hQueue x ▸ List.prefix_rfl
  have hHeard : ∀ {m m' : Manager} {id : Nat} {site : Site}, m.queueOf id <+: site.queue →
      (∀ x, m'.site x = if x = id then site else m.site x) → ∀ x, m.queueOf x <+: m'.queueOf x := by
    intro m m' id site hMore hSite x
    change _ <+: (m'.site x).queue
    rw [hSite x]
    split
    · rename_i hx
      rw [hx]
      exact hMore
    · exact List.prefix_rfl
  cases h with
  | quiet more hFits' hLeaves => exact Or.inr (hSame hLeaves.queue)
  | teardown => exact Or.inr (hSame (rests_teardown _ _ _).queue)
  | update hd hMoves hActs => exact Or.inr (hHeard (List.prefix_append _ _) hActs.site)
  | @recover m a id rest hFailed reason =>
    refine Or.inr ?_
    cases hd : m.device? id with
    | none => exact hSame (congrArg Manager.queue (updateDevice_absent hd))
    | some d =>
      have hSound := hFits.sound hd
      exact hHeard (List.prefix_append _ _) (hFits.carries hd (f := fun d => d.moveTo .disconnected
        reason) (Device.moveTo_disconnected_carries reason hSound.allListen hSound.device)).site
  | number => exact Or.inr fun _ => List.prefix_rfl
  | launch hNumbers hd hState hNone hQueue hCheck hFresh =>
    exact Or.inr (hHeard (List.prefix_append _ _)
      (hFits.launched _ hd hState hNone hQueue hCheck hFresh).2.2.2)
  | @tell m a e rest hQueue => exact Or.inl ⟨e, rest, hQueue, rfl⟩
  | sum => exact Or.inr (hSame (rests_updateState _).queue)
  | @schedule m a id rest hDue =>
    refine Or.inr ?_
    dsimp only
    obtain ⟨hEq, -⟩ | hEq := m.schedule_cases id
    · rw [hEq]
      exact fun _ => List.prefix_rfl
    · rw [hEq]
      exact hSame (rests_modifyDevice m id _).queue
  | take => exact Or.inr fun _ => List.prefix_rfl
  | unschedule id => exact Or.inr (hSame (rests_modifyDevice _ id _).queue)
  | looked => exact Or.inr fun _ => List.prefix_rfl
  | arrive => exact Or.inr fun _ => List.prefix_rfl
  | dismiss => exact Or.inr fun _ => List.prefix_rfl
  | disband => exact Or.inr fun _ => List.prefix_rfl

/-- The device that an event tells about enters the state that is published. -/
theorem published_of_entered {e : DeviceEvent} (hEnters : e.entered? = some new) :
    ∃ old reason, .deviceStateChanged e.device new old reason ∈ e.published := by
  cases e with
  | stateChanged device new' old reason =>
    cases hEnters
    exact ⟨old, reason, List.mem_cons_self⟩
  | needSecrets => cases hEnters
  | linkRequested => cases hEnters

/-- Once nothing waits, whatever waited about the state of a device was published. -/
theorem Changes.published (h : Changes A s s') (hFits : s.1.Fits A)
    (hWaits : new ∈ entered (s.1.queueOf id)) (hDone : s'.1.queue = []) :
    ∃ old reason, .deviceStateChanged id new old reason ∈ s'.1.events := by
  have hNever : (new ∈ entered (s'.1.queueOf id)) ∨
      ∃ old reason, .deviceStateChanged id new old reason ∈ s'.1.events := by
    refine changes_preserve (P := fun t => (new ∈ entered (t.1.queueOf id)) ∨
      ∃ old reason, .deviceStateChanged id new old reason ∈ t.1.events) ?_ h hFits (Or.inl hWaits)
    rintro t t' hChange hFits' (hWaits | ⟨old, reason, hTold⟩)
    · obtain ⟨e, rest, hQueue, hEq⟩ | hMore := hChange.waits hFits'
      · obtain ⟨hDevice, hEnters⟩ | hLater := (mem_entered_cons hQueue id new).mp hWaits
        · obtain ⟨old, reason, hIn⟩ := published_of_entered hEnters
          rw [hEq]
          exact Or.inr ⟨old, reason, List.mem_append_right _ (hDevice ▸ hIn)⟩
        · rw [hEq]
          exact Or.inl hLater
      · obtain ⟨more, hMore⟩ := hMore id
        rw [← hMore, entered_append]
        exact Or.inl (List.mem_append_left _ hWaits)
    · obtain ⟨later, hLater, -⟩ := (hChange.announces hFits').events
      rw [hLater]
      exact Or.inr ⟨old, reason, List.mem_append_left _ hTold⟩
  refine hNever.resolve_left fun hStill => ?_
  rw [queueOf_nil hDone] at hStill
  cases hStill

end Announcements

end Manager

end ScannerHub
