import ScannerHub.Proofs.Manager.Autoconnect
import ScannerHub.Proofs.Manager.Observer

/-!
# Missing firmware

A device whose firmware is missing cannot be used: it is unmanaged or unavailable. One that loses
its firmware while it is idle becomes unavailable at once, and no automatic activation starts on one
that has none.

A device that loses its firmware during an activation goes on, and that is where the rule ends. Once
the activation is over the device is disconnected like any other, and a user can start it again
without its firmware. This is the only way.

* `Strands` — a device that can be used without its firmware;
* `Manager.Lacks` — the firmware of a device is missing during an operation;
* `Manager.LostActive` — the firmware of a device was taken while it was active.

## Results

* `Rested.strands_cases` — no operation strands a device, except to take the firmware of an active
  one;
* `Rested.moves_cases` — no operation moves another one to where it could be used, not even for a
  moment;
* `run_holdsBack` — a device of a run can be used without its firmware exactly if it lost it while
  it was active.
-/

namespace ScannerHub

namespace Manager

variable {A : Nat → String → Prop} {m m' : Manager} {id : Nat}

-- ---------------------------------------------------------------------------
-- One operation
-- ---------------------------------------------------------------------------

/-- A device without its firmware is in a state in which it can be used. -/
def Strands (d : Device) : Prop := d.firmwareMissing = true ∧ d.state.isGrounded = false

/-- An operation takes the firmware of an active device. -/
def Takes (m : Manager) (operation : Operation) (id : Nat) : Prop :=
  ∃ interface d, operation = .setFirmwareMissing interface true ∧
    m.deviceByInterface? interface = some d ∧ d.id = id ∧ d.firmwareMissing = false ∧
      d.state.isActive = true

/-- Devices are stranded only where someone answers for it. -/
def StrandedOnly (O : Nat → Prop) (s : Manager × Agenda) : Prop :=
  ∀ id d, s.1.device? id = some d → Stranded s id d → O id

theorem Change.strandedOnly {O : Nat → Prop} {s s' : Manager × Agenda} (h : Change A s s')
    (hFits : s.1.Fits A) (hOnly : StrandedOnly O s) : StrandedOnly O s' := by
  intro id d' hd hStranded
  obtain ⟨d, hOld, hFares⟩ | hArrived := h.fares hFits hd
  · exact hOnly id d hOld (hFares.stranded hStranded)
  · exfalso
    obtain ⟨-, hUsed | ⟨t, ht, -⟩ | hFailed⟩ := hStranded
    · rw [hArrived.state] at hUsed
      cases hUsed
    · rw [hArrived.queue] at ht
      cases ht
    · rw [hArrived.agenda] at hFailed
      cases hFailed

/-- While no event waits nothing but the device itself counts. -/
theorem Settled.strands (h : m.Settled A) {d : Device} (hStranded : Stranded (m, .empty) id d) :
    Strands d := by
  obtain ⟨hMissing, hUsed | ⟨t, ht, -⟩ | hFailed⟩ := hStranded
  · exact ⟨hMissing, hUsed⟩
  · rw [show Manager.queueOf _ id = [] from queueOf_nil h.queue id] at ht
    cases ht
  · cases hFailed

/-- To note that the firmware is missing changes nothing but the note, unless the device is idle. -/
theorem setFirmwareMissing_cases (d : Device) :
    (d.firmwareMissing = true ∧ d.setFirmwareMissing true = d.unchanged) ∨
      (d.firmwareMissing = false ∧
        ((d.state ≠ .disconnected ∧
            d.setFirmwareMissing true = { d with firmwareMissing := true }.unchanged) ∨
          ((d.setFirmwareMissing true).device.state = .unavailable ∧
            entered (d.setFirmwareMissing true).events = [.unavailable]))) := by
  unfold Device.setFirmwareMissing
  cases hMissing : d.firmwareMissing with
  | true => exact Or.inl ⟨rfl, if_pos rfl⟩
  | false =>
    refine Or.inr ⟨rfl, ?_⟩
    rw [if_neg (show ¬ true = false from nofun)]
    dsimp only
    rw [if_pos rfl]
    by_cases hIdle : d.state = .disconnected
    · rw [if_pos hIdle]
      have hMove : d.state.canMove .unavailable = true := by rw [hIdle]; rfl
      unfold Device.moveTo
      dsimp only
      rw [if_neg (by rw [hIdle]; exact nofun), if_pos hMove]
      exact Or.inr ⟨rfl, rfl⟩
    · exact Or.inl ⟨hIdle, if_neg hIdle⟩

/-- That its firmware is missing strands a device only if it is active. -/
theorem Settled.stranded_firmware (h : m.Settled A) {d : Device} (hMem : d ∈ m.devices)
    {missing : Bool}
    (hQueue : m'.queueOf d.id = m.queueOf d.id ++ (d.setFirmwareMissing missing).events)
    (hStranded : Stranded (m', .empty) d.id (d.setFirmwareMissing missing).device) :
    Strands d ∨ (missing = true ∧ d.firmwareMissing = false ∧ d.state.isActive = true) := by
  rw [queueOf_nil h.queue, List.nil_append] at hQueue
  obtain ⟨hMissing, hCase⟩ := hStranded
  rw [(Device.setFirmwareMissing_proceeds d missing).flags.firmware] at hMissing
  subst hMissing
  have hUsed : (d.setFirmwareMissing true).device.state.isGrounded = false ∨
      ∃ t ∈ entered (d.setFirmwareMissing true).events, t.isGrounded = false := by
    rw [show Manager.queueOf _ d.id = _ from hQueue] at hCase
    exact hCase.imp_right fun hRest => hRest.resolve_right List.not_mem_nil
  obtain ⟨hWasMissing, hSame⟩ | ⟨hWasThere, ⟨hBusy, hSame⟩ | ⟨hState, hTold⟩⟩ :=
    setFirmwareMissing_cases d
  · rw [hSame] at hUsed
    exact Or.inl ⟨hWasMissing, hUsed.resolve_right fun ⟨_, ht, _⟩ => nomatch ht⟩
  · rw [hSame] at hUsed
    have hNow : d.state.isGrounded = false := hUsed.resolve_right fun ⟨_, ht, _⟩ => nomatch ht
    refine Or.inr ⟨rfl, hWasThere, ?_⟩
    have hSteady := h.steady hMem
    revert hNow hSteady hBusy
    cases d.state <;> decide
  · rw [hState, hTold] at hUsed
    obtain hUsed | ⟨t, ht, hUsed⟩ := hUsed
    · cases hUsed
    · rw [List.mem_singleton.mp ht] at hUsed
      cases hUsed

/-- An operation begins with no device stranded, except those that were, and the one whose firmware
it takes. -/
theorem Rested.begins_strandedOnly (h : m.Rested A) {operation : Operation}
    (hBegins : m.Begins operation m') :
    StrandedOnly (fun id => (∃ d, m.device? id = some d ∧ Strands d) ∨ m.Takes operation id)
      (m', .empty) := by
  intro x d hx hStranded
  obtain ⟨hOld, hQueue⟩ | ⟨interface, missing, d₀, rfl, hFound, hOld, rfl, hQueue⟩ :=
    hBegins.device_cases h.toFits hx
  · have hWas : Stranded (m, .empty) x d := by
      unfold Stranded at hStranded ⊢
      rw [show Manager.queueOf _ x = m.queueOf x from hQueue] at hStranded
      exact hStranded
    exact Or.inl ⟨d, hOld, h.toSettled.strands hWas⟩
  · obtain ⟨hMem, rfl⟩ := device?_eq_some hOld
    refine (h.toSettled.stranded_firmware hMem hQueue hStranded).imp (fun hWas => ⟨d₀, hOld, hWas⟩) ?_
    rintro ⟨rfl, hWasThere, hActive⟩
    exact ⟨interface, d₀, rfl, hFound, rfl, hWasThere, hActive⟩

/-- No operation strands a device, except to take the firmware of an active one. -/
theorem Rested.strands_cases (h : m.Rested A) {operation : Operation} {d' : Device}
    (hd : (m.operate operation).device? id = some d') (hStrands : Strands d') :
    (∃ d, m.device? id = some d ∧ Strands d) ∨ m.Takes operation id := by
  obtain ⟨m₁, hBegins, hChanges⟩ := h.toSettled.operate_changes h.dormant operation
  have hOnly := changes_preserve (P := StrandedOnly _) (fun h => h.strandedOnly) hChanges
    (hBegins.coherent h.toCoherent).toFits (h.begins_strandedOnly hBegins)
  exact hOnly id d' hd ⟨hStrands.1, Or.inl hStrands.2⟩

-- ---------------------------------------------------------------------------
-- In the middle of an operation
-- ---------------------------------------------------------------------------

/-- A number that was given out, and what the device with this number notes about its firmware, as
long as it is there. -/
def NotesFirmware (missing : Bool) (id : Nat) (m : Manager) : Prop :=
  id < m.nextDevice ∧ ∀ d, m.device? id = some d → d.firmwareMissing = missing

theorem Linked.notesFirmware (h : m.Linked) {d : Device} (hd : m.device? id = some d) :
    NotesFirmware d.firmwareMissing id m := by
  obtain ⟨hMem, rfl⟩ := device?_eq_some hd
  refine ⟨h.deviceBound d hMem, fun e he => ?_⟩
  rw [hd] at he
  cases he
  rfl

/-- Once an operation has begun the note stays as it is. -/
theorem Changes.notesFirmware {missing : Bool} {s s' : Manager × Agenda} (h : Changes A s s')
    (hFits : s.1.Fits A) (hNotes : NotesFirmware missing id s.1) :
    NotesFirmware missing id s'.1 := by
  refine changes_preserve (P := fun s => NotesFirmware missing id s.1) ?_ h hFits hNotes
  rintro s s' hChange hFits' ⟨hGiven, hNoted⟩
  refine ⟨Nat.lt_of_lt_of_le hGiven (hChange.announces hFits').nextDevice, fun d' hd => ?_⟩
  obtain ⟨d, hOld, hFares⟩ | hArrived := hChange.fares hFits' hd
  · exact hFares.firmware.trans (hNoted d hOld)
  · exact absurd hArrived.number (Nat.ne_of_lt hGiven)

/-- An operation gives a device its firmware. -/
def Gives (m : Manager) (operation : Operation) (id : Nat) : Prop :=
  ∃ interface d, operation = .setFirmwareMissing interface false ∧
    m.deviceByInterface? interface = some d ∧ d.id = id

/-- The firmware of a device is missing during an operation, from its beginning on or at its
end. -/
def Lacks (m : Manager) (operation : Operation) (id : Nat) : Prop :=
  (¬ m.Gives operation id ∧ ∃ d, m.device? id = some d ∧ d.firmwareMissing = true) ∨
    ∃ d, (m.operate operation).device? id = some d ∧ d.firmwareMissing = true

/-- What an operation publishes at its beginning is not about the state of a device. -/
theorem Begins.announces {operation : Operation} (h : m.Begins operation m') : Announces m m' := by
  cases h with
  | same => exact .silent rfl rfl
  | firmware => exact announces_updateDevice _ _ _
  | sleeping => exact .of_others (Nat.le_refl _) rfl (by simp)
  | enabled => exact .of_others (Nat.le_refl _) rfl (by simp)

theorem Begins.notesMissing {operation : Operation} (h : m.Begins operation m') (hFits : m.Fits A)
    (hGives : ¬ m.Gives operation id) (hNotes : NotesFirmware true id m) :
    NotesFirmware true id m' := by
  obtain ⟨hGiven, hNoted⟩ := hNotes
  refine ⟨Nat.lt_of_lt_of_le hGiven h.announces.nextDevice, fun d hd => ?_⟩
  obtain ⟨hOld, -⟩ | ⟨interface, missing, d₀, rfl, hFound, hOld, rfl, -⟩ := h.device_cases hFits hd
  · exact hNoted d hOld
  · cases missing with
    | true => exact (Device.setFirmwareMissing_proceeds d₀ true).flags.firmware
    | false => exact absurd ⟨interface, d₀, rfl, hFound, (device?_eq_some hOld).2⟩ hGives

/-- No operation moves a device whose firmware is missing to where it can be used, except one that
was there before, and the one whose firmware it takes. -/
theorem Rested.moves_cases (h : m.Rested A) {operation : Operation} {news : List ManagerEvent}
    {new old : DeviceState} {reason : StateReason}
    (hEvents : (m.operate operation).events = m.events ++ news)
    (hIn : .deviceStateChanged id new old reason ∈ news) (hLacks : m.Lacks operation id)
    (hUsable : new.isGrounded = false) :
    (∃ d, m.device? id = some d ∧ Strands d) ∨ m.Takes operation id := by
  obtain ⟨m₁, hBegins, hChanges⟩ := h.toSettled.operate_changes h.dormant operation
  have hFits := (hBegins.coherent h.toCoherent).toFits
  obtain ⟨first, hFirst, hWaited⟩ := hBegins.announces.events
  obtain ⟨later, hLater⟩ := Changes.events hChanges hFits
  rw [show (m.operate operation).events = _ from hLater, hFirst, List.append_assoc] at hEvents
  rw [← List.append_cancel_left hEvents] at hIn
  obtain hIn | hIn := List.mem_append.mp hIn
  · have hWaits := hWaited id new old reason hIn
    rw [queueOf_nil h.queue] at hWaits
    cases hWaits
  · -- the device at the moment when this waited to be told
    obtain ⟨s, hBefore, hAfter, hWaits⟩ := Changes.announced hChanges hFits hLater hIn
    have hFits' := Changes.fits hBefore hFits
    obtain ⟨τ, hTracks⟩ := tracks_of h.linked h.queue
    obtain ⟨τ', told, -, -, hTracks'⟩ := (hBegins.tracked h.toFits hTracks).andThen fun _ _ =>
      Changes.tracked hBefore hFits
    obtain ⟨d, hd⟩ := hTracks'.present hWaits
    have hOnly := changes_preserve (P := StrandedOnly _) (fun h => h.strandedOnly) hBefore hFits
      (h.begins_strandedOnly hBegins)
    refine hOnly id d hd ⟨?_, Or.inr (Or.inl ⟨new, hWaits, hUsable⟩)⟩
    obtain ⟨hGives, d₀, hd₀, hMissing⟩ | ⟨d', hd', hMissing⟩ := hLacks
    · have hNotes := h.linked.notesFirmware hd₀
      rw [hMissing] at hNotes
      have hStart := hBegins.notesMissing h.toFits hGives hNotes
      exact (Changes.notesFirmware hBefore hFits hStart).2 d hd
    · have hNotes := Changes.notesFirmware hAfter hFits' (hFits'.linked.notesFirmware hd)
      exact (hNotes.2 d' hd').symm.trans hMissing

-- ---------------------------------------------------------------------------
-- A run
-- ---------------------------------------------------------------------------

/-- The firmware of a device was taken while it was active, and the device can be used without it
since then. -/
def LostActive (m : Manager) (operations : List Operation) (id : Nat) : Prop :=
  ∃ before operation after, operations = before ++ operation :: after ∧
    (m.run before).Takes operation id ∧ ∀ since, since <+: after →
      ∃ d, (m.run (before ++ operation :: since)).device? id = some d ∧ Strands d

/-- A device of a run can be used without its firmware exactly if it lost it while it was active. -/
theorem run_strands_iff (h : m.Rested A) (hNone : m.devices = []) (operations : List Operation)
    (id : Nat) : (∃ d, (m.run operations).device? id = some d ∧ Strands d) ↔
      m.LostActive operations id := by
  constructor
  · induction operations using List.reverseRecOn with
    | nil =>
      rintro ⟨d, hd, -⟩
      have hMem : d ∈ m.devices := (device?_eq_some hd).1
      rw [hNone] at hMem
      cases hMem
    | append_singleton operations operation ih =>
      intro hNow
      obtain ⟨d', hd', hStrands⟩ := hNow
      have hRested := run_rested h operations
      have hOperate := hd'
      rw [run_concat] at hOperate
      obtain hBefore | hTakes := hRested.strands_cases hOperate hStrands
      · obtain ⟨before, taking, after, rfl, hTakes, hSince⟩ := ih hBefore
        refine ⟨before, taking, after ++ [operation], by simp, hTakes, fun since hPrefix => ?_⟩
        rcases List.prefix_concat_iff.mp hPrefix with rfl | hEarlier
        · rw [List.append_assoc] at hd'
          exact ⟨d', hd', hStrands⟩
        · exact hSince since hEarlier
      · refine ⟨operations, operation, [], rfl, hTakes, fun since hPrefix => ?_⟩
        rw [List.prefix_nil.mp hPrefix]
        exact ⟨d', hd', hStrands⟩
  · rintro ⟨before, operation, after, rfl, -, hSince⟩
    exact hSince after (List.prefix_refl after)

/-- How devices without their firmware are held back in a run, up to some moment. -/
structure HoldsBack (m : Manager) (operations : List Operation) : Prop where
  /-- A device without its firmware is unmanaged or unavailable, unless it lost it while it was
  active; such a device is neither. -/
  usable : ∀ d ∈ (m.run operations).devices,
    (d.firmwareMissing = true ∧ d.state ≠ .unmanaged ∧ d.state ≠ .unavailable) ↔
      m.LostActive operations d.id
  /-- No operation that comes next moves any other one to where it could be used. -/
  moves : ∀ operation news, ((m.run operations).operate operation).events =
    (m.run operations).events ++ news → ∀ id new old reason,
      .deviceStateChanged id new old reason ∈ news → (m.run operations).Lacks operation id →
        new = .unmanaged ∨ new = .unavailable ∨
          m.LostActive operations id ∨ (m.run operations).Takes operation id

/-- A device without its firmware cannot be used, and is never moved to where it could, unless it
lost it while it was active. -/
theorem run_holdsBack (store : StateStore) (allowed : List Nat) (timeout : Option Nat)
    (epoch : Nat) (operations : List Operation) :
    (start store allowed timeout epoch).HoldsBack operations := by
  have hStart : (start store allowed timeout epoch).Rested fun _ _ => True :=
    start_rested store allowed timeout epoch
  have hRested := run_rested hStart operations
  have hIff := run_strands_iff hStart rfl operations
  constructor
  · intro d hd
    have hFound := hRested.linked.device?_of_mem hd
    rw [← hIff d.id]
    constructor
    · rintro ⟨hMissing, hManaged, hAvailable⟩
      refine ⟨d, hFound, hMissing, ?_⟩
      unfold DeviceState.isGrounded
      simp [hManaged, hAvailable]
    · rintro ⟨e, he, hMissing, hUsed⟩
      rw [hFound] at he
      cases he
      unfold DeviceState.isGrounded at hUsed
      simpa [hMissing] using hUsed
  · intro operation news hEvents id new old reason hIn hLacks
    cases hUsable : new.isGrounded with
    | true =>
      unfold DeviceState.isGrounded at hUsable
      rw [Bool.or_eq_true, beq_iff_eq, beq_iff_eq] at hUsable
      exact hUsable.imp_right Or.inl
    | false =>
      have hCases := hRested.moves_cases hEvents hIn hLacks hUsable
      rw [hIff id] at hCases
      exact Or.inr (Or.inr hCases)

/-- The scanner that lost its firmware while it dialed is disconnected once its connection is gone,
and a user may start another one without it. -/
theorem not_held_forsaken :
    let m := (start DialUp.store [] none 0).run DialUp.forsaken
    let m' := m.run [.connectionAdded .system "/d" DialUp.eager,
      .activateConnection 0 Scope.system.serviceName "/d" (devicePath 0) none]
    m.devices.map (fun d => (d.state, d.firmwareMissing)) = [(.disconnected, true)] ∧
      m'.devices.map (fun d => (d.state, d.firmwareMissing)) = [(.config, true)] := by
  decide +kernel

end Manager

end ScannerHub
