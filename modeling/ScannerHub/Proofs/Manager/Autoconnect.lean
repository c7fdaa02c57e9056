import ScannerHub.Proofs.Manager.Rest

/-!
# Automatic activations

An idle device is started as soon as a connection is there that may be started without a user. What
an operation can do to make a device free, or to bring a connection, ends with a look at the devices
that it may concern, and what is found there starts before the operation returns.

There is one operation that forgets to look. Firmware that arrives lets a device go from unavailable
to disconnected, and that is told and looked at. But a device that lost its firmware during an
activation is disconnected afterwards, not unavailable, so when the firmware arrives it does not
move, and nobody looks.

* `Manager.NoneMissed` — no device waits although an automatic activation could start;
* `Manager.Overlooks` — an operation that frees a device without a word.

## Results

* `run_noneMissed_iff` — none is missed in a run in which no operation overlooks a device, and only
  then.
-/

namespace ScannerHub

namespace Manager

variable {A : Nat → String → Prop} {m m' : Manager}

-- ---------------------------------------------------------------------------
-- What an operation overlooks
-- ---------------------------------------------------------------------------

/-- No device waits although an automatic activation could start on it at once. -/
def NoneMissed (m : Manager) : Prop := ∀ d ∈ m.devices, ¬ m.Misses d

instance (m : Manager) : Decidable m.NoneMissed := inferInstanceAs (Decidable (∀ d ∈ _, _))

/-- The device with its firmware. -/
def supplied (d : Device) : Device := { d with firmwareMissing := false }

/-- The firmware of a device arrives that is disconnected without it, and now a connection could
be started there. -/
def Overlooks (m : Manager) (operation : Operation) : Prop :=
  ∃ interface d, operation = .setFirmwareMissing interface false ∧
    m.deviceByInterface? interface = some d ∧ d.firmwareMissing = true ∧
      m.Misses (supplied d)

/-- A device on which an automatic activation could start is one that the manager will look at. -/
def NotesMissed (s : Manager × Agenda) : Prop :=
  ∀ id d, s.1.device? id = some d → s.1.Misses d → Watched s id

theorem Change.notesMissed {s s' : Manager × Agenda} (h : Change A s s') (hFits : s.1.Fits A)
    (hNotes : NotesMissed s) : NotesMissed s' := by
  intro id d' hd hMisses
  obtain ⟨d, hOld, hFares⟩ | hArrived := h.fares hFits hd
  · obtain hWatched | ⟨hMissed, hStays⟩ := hFares.misses hMisses
    · exact hWatched
    · exact hStays (hNotes id d hOld hMissed)
  · have hManaged := ((Device.autoconnectAllowed_iff d').mp hMisses.2.1).1
    rw [hArrived.managed] at hManaged
    cases hManaged

/-- An operation that does not overlook a device begins with nothing missed that it will not look
at. -/
theorem Begins.notesMissed {operation : Operation} (h : m.Begins operation m') (hRested : m.Rested A)
    (hNone : m.NoneMissed) (hSees : ¬ m.Overlooks operation) : NotesMissed (m', .empty) := by
  intro id d hd hMisses
  have hAwakened : m.isAsleep = true → m.device? id = some d → Watched (m', .empty) id := by
    intro hAsleep hOld
    have hManaged := ((Device.autoconnectAllowed_iff d).mp hMisses.2.1).1
    rw [hRested.dormant hAsleep id d hOld] at hManaged
    cases hManaged
  cases h with
  | same => exact absurd hMisses (hNone d (device?_eq_some hd).1)
  | sleeping uid hNe => exact hAwakened (asleep_of_sleeping hNe hMisses.1) hd
  | enabled uid hNe => exact hAwakened (asleep_of_enabled hNe hMisses.1) hd
  | @firmware interface d₀ missing hFound =>
    have hDecides := decides_updateDevice m d₀.id fun d => d.setFirmwareMissing missing
    obtain ⟨d₁, hOld, ⟨rfl, rfl, hQueue⟩ | ⟨-, rfl, -⟩⟩ :=
      hRested.toFits.updated_cases (fun _ => Device.setFirmwareMissing_carries missing) hd
    · have hMem := List.mem_of_find?_eq_some hFound
      rw [hRested.linked.device?_of_mem hMem] at hOld
      cases hOld
      have hSound := hRested.toFits.sound (hRested.linked.device?_of_mem hMem)
      have hCarries := Device.setFirmwareMissing_carries missing hSound.allListen hSound.device
      obtain hFree | hTold := (Device.setFirmwareMissing_proceeds d₀ missing).walks.allowed hMisses.2.1
      · have hMissed : m.Misses { d₀ with firmwareMissing := missing } :=
          hDecides.misses hCarries.frame.check (fun _ => hFree) hMisses
        cases missing with
        | true => cases ((Device.autoconnectAllowed_iff _).mp hFree).2.2.2
        | false =>
          cases hFirmware : d₀.firmwareMissing with
          | true => exact absurd ⟨interface, d₀, rfl, hFound, hFirmware, hMissed⟩ hSees
          | false =>
            rw [show { d₀ with firmwareMissing := false } = d₀ by rw [← hFirmware]] at hMissed
            exact absurd hMissed (hNone d₀ hMem)
      · refine Or.inr (Or.inr ?_)
        rw [show Manager.queueOf _ d₀.id = _ from hQueue, entered_append, List.mem_append]
        exact Or.inr hTold
    · have hMissed := hDecides.misses (fun _ => rfl) (fun h => h) hMisses
      exact absurd hMissed (hNone d (device?_eq_some hOld).1)

/-- An operation that overlooks no device leaves none missed. -/
theorem Rested.operate_noneMissed (h : m.Rested A) (hNone : m.NoneMissed) {operation : Operation}
    (hSees : ¬ m.Overlooks operation) : (m.operate operation).NoneMissed := by
  have hSettled := operate_settled h.toSettled operation
  obtain ⟨m₁, hBegins, hChanges⟩ := h.toSettled.operate_changes h.dormant operation
  have hNotes := changes_preserve (P := NotesMissed) (fun h => h.notesMissed) hChanges
    (hBegins.coherent h.toCoherent).toFits (hBegins.notesMissed h hNone hSees)
  intro d hd hMisses
  -- whatever would still be looked at has been looked at
  obtain (hPending | hTaken) | hDue | hTold :=
    hNotes d.id d (hSettled.linked.device?_of_mem hd) hMisses
  · rw [show Manager.pending _ = [] from hSettled.pending] at hPending
    cases hPending
  · cases hTaken
  · cases hDue
  · rw [show Manager.queueOf _ d.id = [] from queueOf_nil hSettled.queue d.id] at hTold
    cases hTold

-- ---------------------------------------------------------------------------
-- What follows from overlooking
-- ---------------------------------------------------------------------------

theorem updateDevice_silent {d : Device} {f : Device → Update} (hd : m.device? d.id = some d)
    (hf : (f d).events = []) : m.updateDevice d.id f = m.setDevice (f d).device := by
  unfold Manager.updateDevice
  rw [hd]
  dsimp only
  rw [hf, deliver_nil]

/-- The state of the whole does not see the flags of a device. -/
theorem aggregate_setDevice {d e : Device} (hd : m.device? d.id = some d) (hId : e.id = d.id)
    (hState : e.state = d.state)
    (hScheduled : e.activationScheduled = d.activationScheduled) :
    (m.setDevice e).aggregate = m.aggregate := by
  have hAny : ∀ p : Device → Bool, p e = p d →
      (m.setDevice e).devices.any p = m.devices.any p := by
    intro p hp
    have hAll : ∀ ds : List Device, ds.any p = (ds.map p).any id := fun ds => by
      rw [List.any_map]
      rfl
    rw [hAll, hAll, map_setDevice hd hId p hp]
  unfold Manager.aggregate
  rw [hAny _ (by rw [hState]), hAny Device.isActivating (by unfold Device.isActivating; rw [hState, hScheduled])]
  rfl

/-- A device that is overlooked waits when the operation returns. -/
theorem Rested.missed_of_overlooks (h : m.Rested A) {operation : Operation}
    (hOverlooks : m.Overlooks operation) : ¬ (m.operate operation).NoneMissed := by
  obtain ⟨interface, d, rfl, hFound, hFirmware, hMisses⟩ := hOverlooks
  have hMem := List.mem_of_find?_eq_some hFound
  have hd := h.linked.device?_of_mem hMem
  have hIdle : d.state = .disconnected :=
    ((Device.autoconnectAllowed_iff (supplied d)).mp hMisses.2.1).2.2.1
  have hQuiet : d.setFirmwareMissing false = (supplied d).unchanged := by
    unfold Device.setFirmwareMissing
    rw [if_neg (by rw [hFirmware]; exact nofun)]
    dsimp only
    rw [if_neg Bool.false_ne_true, if_neg (by rw [hIdle]; exact fun h => nomatch h.1)]
    rfl
  have hNoted : m.updateDevice d.id (fun d => d.setFirmwareMissing false) =
      m.setDevice (supplied d) := by
    rw [updateDevice_silent hd (by rw [hQuiet]; rfl), hQuiet]
    rfl
  have hCoherent := (Begins.firmware false hFound).coherent h.toCoherent
  rw [hNoted] at hCoherent
  -- nothing was told, so there is nothing to settle
  have hState : (m.setDevice (supplied d)).state =
      (m.setDevice (supplied d)).aggregate := by
    rw [aggregate_setDevice hd (e := supplied d) rfl rfl rfl]
    refine h.state.resolve_right fun hNone => ?_
    rw [hNone] at hMem
    cases hMem
  have hSettled : (m.setDevice (supplied d)).Settled A :=
    ⟨hCoherent, ⟨h.queue, h.looked⟩, h.pending, Or.inl hState⟩
  have hEq : m.operate (.setFirmwareMissing interface false) =
      m.setDevice (supplied d) := by
    show (m.setFirmwareMissing interface false).1 = _
    unfold Manager.setFirmwareMissing
    rw [hFound]
    exact (congrArg Manager.settle hNoted).trans (hSettled.settle_eq hState)
  rw [hEq]
  intro hNone
  refine hNone (supplied d) ?_ ?_
  · have hThere := device?_setDevice_of hd (e := supplied d) rfl d.id
    rw [if_pos rfl] at hThere
    exact (device?_eq_some hThere).1
  · have hDecides : Decides (m.setDevice (supplied d)) m :=
      ⟨rfl, rfl, rfl, rfl, rfl⟩
    exact hDecides.misses (fun _ => rfl) (fun h => h) hMisses

/-- In a run none is missed exactly if no operation overlooks a device. -/
theorem run_noneMissed_iff (store : StateStore) (allowed : List Nat) (timeout : Option Nat)
    (epoch : Nat) (operations : List Operation) :
    let m := start store allowed timeout epoch
    (∀ before, before <+: operations → (m.run before).NoneMissed) ↔
      ∀ before operation, before ++ [operation] <+: operations →
        ¬ (m.run before).Overlooks operation := by
  intro m
  have hRested : ∀ operations, (m.run operations).Rested fun _ _ => True :=
    run_rested (start_rested store allowed timeout epoch)
  constructor
  · intro hNone before operation hPrefix hOverlooks
    have hMissed := (hRested before).missed_of_overlooks hOverlooks
    rw [← run_concat] at hMissed
    exact hMissed (hNone _ hPrefix)
  · intro hSees before
    induction before using List.reverseRecOn with
    | nil => exact fun _ d hd => by cases hd
    | append_singleton before operation ih =>
      intro hPrefix
      have hNone := ih ((List.prefix_append before [operation]).trans hPrefix)
      rw [run_concat]
      exact (hRested before).operate_noneMissed hNone (hSees before operation hPrefix)

-- ---------------------------------------------------------------------------
-- A scanner that is overlooked
-- ---------------------------------------------------------------------------

namespace DialUp

/-- The settings of another connection that fits, one that starts without a user. -/
def eager : Settings :=
  Dict.ofList
    [("connection", Dict.ofList
       [("id", .text "eager"), ("uuid", .text "6f8e2a44-1c1a-4b7e-9c55-2b1f0c8e7d01"),
        ("type", .text "bluetooth"), ("autoconnect", .flag true)]),
     ("bluetooth", Dict.ofList
       [("bdaddr", .bytes [0x00, 0x11, 0x22, 0x33, 0x44, 0x55]), ("type", .text "dun")])]

/-- The scanner loses its firmware while it dials, and then its connection. -/
def forsaken : List Operation :=
  connecting ++ [.setFirmwareMissing "bt0" true, .connectionRemoved .system "/c"]

end DialUp

/-- The firmware of the scanner arrives while another connection could be started there without a
user, and the scanner stays disconnected. -/
theorem not_noneMissed_forsaken :
    let m := (start DialUp.store [] none 0).run (DialUp.forsaken ++
      [.connectionAdded .system "/d" DialUp.eager, .setFirmwareMissing "bt0" false])
    m.devices.map Device.state = [.disconnected] ∧ ¬ m.NoneMissed := by
  decide +kernel

end Manager

end ScannerHub
