import Mathlib.Algebra.Group.Nat.Even
import ScannerHub.Proofs.Bus.Mirror
import ScannerHub.Proofs.Manager.Firmware

/-!
# Missing firmware on the bus

The object of a device shows whether its firmware is missing. The bus reads that off the device when
it follows an event that the device came or changed its state, and at no other time. But firmware
comes and goes in every state, and in most of them the device stays where it is. Then nothing is
published, and the object goes on showing what was true before.

How wrong the bus is can be told from how often that has happened since it last looked at the device:
every time turns what is shown from right to wrong, or from wrong to right.

* `Device.FlipsSilently` — the firmware of a device comes or goes, and the device stays in its state;
* `Lookout` — a mirror, and how often that has happened to each device since the bus looked at it.

## Results

* `Rested.firmware_cases` — firmware comes or goes only by an operation that says so, and in silence
  or with an event that the device changed its state;
* `Lookout.run_showsFirmware_iff` — whenever no event waits, what the bus shows is right exactly if
  that has happened an even number of times.
-/

namespace ScannerHub

-- ---------------------------------------------------------------------------
-- Firmware that comes or goes in silence
-- ---------------------------------------------------------------------------

/-- The firmware of a device comes or goes, and the device stays in its state. -/
def Device.FlipsSilently (d : Device) (missing : Bool) : Prop :=
  missing ≠ d.firmwareMissing ∧
    if missing then d.state ≠ .disconnected
    else ¬ (d.state = .unavailable ∧ d.managed = true ∧ d.hardware.isAvailable = true)

instance (d : Device) (missing : Bool) : Decidable (d.FlipsSilently missing) := by
  unfold Device.FlipsSilently
  infer_instance

/-- Firmware that comes or goes is told of, unless that happens in silence. -/
theorem Device.setFirmwareMissing_tells {d : Device} {missing : Bool}
    (hNe : missing ≠ d.firmwareMissing) (hHeard : ¬ d.FlipsSilently missing) :
    ∃ t, t ∈ entered (d.setFirmwareMissing missing).events := by
  have hMoves : ∀ {e : Device} {new : DeviceState} {reason : StateReason}, e.state ≠ new →
      e.state.canMove new = true → new ∈ entered (e.moveTo new reason).events := by
    intro e new reason hOther hMove
    unfold Device.moveTo
    rw [if_neg hOther, if_pos hMove]
    exact List.mem_cons_self
  have hGuard := not_and.mp hHeard hNe
  unfold Device.setFirmwareMissing
  rw [if_neg hNe]
  dsimp only
  cases missing with
  | true =>
    have hState : d.state = .disconnected := by simpa using hGuard
    rw [if_pos rfl, if_pos hState]
    exact ⟨.unavailable, hMoves (by simp [hState]) (by simp only [hState]; rfl)⟩
  | false =>
    have hFree : d.state = .unavailable ∧ d.managed = true ∧ d.hardware.isAvailable = true := by
      simpa using hGuard
    rw [if_neg Bool.false_ne_true, if_pos ⟨hFree.1, hFree.2.1, hFree.2.2⟩]
    exact ⟨.disconnected, hMoves (by simp [hFree.1]) (by simp only [hFree.1]; rfl)⟩

namespace Manager

variable {A : Nat → String → Prop} {m m' : Manager} {id : Nat}

/-- The device whose firmware comes or goes in silence by an operation. -/
def silenced? (m : Manager) : Operation → Option Nat
  | .setFirmwareMissing interface missing =>
    (m.deviceByInterface? interface).bind fun d => if d.FlipsSilently missing then some d.id else none
  | _ => none

section Operations

variable {interface : String} {missing : Bool} {d d' : Device}

theorem silenced?_other {operation : Operation}
    (hOther : ∀ interface missing, operation ≠ .setFirmwareMissing interface missing) :
    m.silenced? operation = none := by
  cases operation with
  | setFirmwareMissing interface missing => exact absurd rfl (hOther interface missing)
  | _ => rfl

theorem silenced?_found (hFound : m.deviceByInterface? interface = some d) :
    m.silenced? (.setFirmwareMissing interface missing) =
      if d.FlipsSilently missing then some d.id else none := by
  unfold silenced?
  dsimp only
  rw [hFound]
  rfl

theorem operate_setFirmwareMissing (hFound : m.deviceByInterface? interface = some d) :
    m.operate (.setFirmwareMissing interface missing) =
      (m.updateDevice d.id fun d => d.setFirmwareMissing missing).settle := by
  show (m.setFirmwareMissing interface missing).1 = _
  unfold Manager.setFirmwareMissing
  rw [hFound]

/-- Only one kind of operation says whether firmware is missing. -/
theorem Rested.firmware_kept (h : m.Rested A) {operation : Operation}
    (hOther : ∀ interface missing, operation ≠ .setFirmwareMissing interface missing)
    (hd : m.device? id = some d) (hd' : (m.operate operation).device? id = some d') :
    d'.firmwareMissing = d.firmwareMissing := by
  obtain ⟨m₁, hBegins, hChanges⟩ := h.toSettled.operate_changes h.dormant operation
  have hNotes : NotesFirmware d.firmwareMissing id m₁ := by
    obtain ⟨hGiven, hNoted⟩ := h.linked.notesFirmware hd
    refine ⟨Nat.lt_of_lt_of_le hGiven hBegins.announces.nextDevice, fun d₁ hd₁ => ?_⟩
    obtain ⟨hOld, -⟩ | ⟨interface, missing, d₀, rfl, -⟩ := hBegins.device_cases h.toFits hd₁
    · exact hNoted d₁ hOld
    · exact absurd rfl (hOther interface missing)
  exact (Changes.notesFirmware hChanges (hBegins.coherent h.toCoherent).toFits hNotes).2 d' hd'

/-- The device that is told about its firmware notes that, and the others note nothing. -/
theorem Rested.firmware_noted (h : m.Rested A) {d₀ : Device}
    (hFound : m.deviceByInterface? interface = some d₀) (hd : m.device? id = some d)
    (hd' : (m.operate (.setFirmwareMissing interface missing)).device? id = some d') :
    d'.firmwareMissing = if id = d₀.id then missing else d.firmwareMissing := by
  have hBegins := Begins.firmware missing hFound
  have hCoherent := hBegins.coherent h.toCoherent
  have hNotes : NotesFirmware (if id = d₀.id then missing else d.firmwareMissing) id
      (m.updateDevice d₀.id fun d => d.setFirmwareMissing missing) := by
    obtain ⟨hGiven, hNoted⟩ := h.linked.notesFirmware hd
    refine ⟨Nat.lt_of_lt_of_le hGiven hBegins.announces.nextDevice, fun d₁ hd₁ => ?_⟩
    obtain ⟨d₂, hOld, ⟨hHere, rfl, -⟩ | ⟨hAway, rfl, -⟩⟩ :=
      h.toFits.updated_cases (fun _ => Device.setFirmwareMissing_carries missing) hd₁
    · rw [if_pos hHere]
      exact (Device.setFirmwareMissing_proceeds d₂ missing).flags.firmware
    · rw [if_neg hAway]
      exact hNoted d₁ hOld
  rw [operate_setFirmwareMissing hFound] at hd'
  exact (Changes.notesFirmware (hCoherent.settle_does .empty) hCoherent.toFits hNotes).2 d' hd'

/-- A device whose firmware comes or goes with an event has published that it changed its state. -/
theorem Rested.firmware_told (h : m.Rested A) (hFound : m.deviceByInterface? interface = some d)
    (hNe : missing ≠ d.firmwareMissing) (hHeard : ¬ d.FlipsSilently missing) :
    ∃ e ∈ (m.operate (.setFirmwareMissing interface missing)).events, e.moves d.id := by
  have hd := h.linked.device?_of_mem (List.mem_of_find?_eq_some hFound)
  have hSound := h.toFits.sound hd
  have hCoherent := (Begins.firmware missing hFound).coherent h.toCoherent
  obtain ⟨t, ht⟩ := Device.setFirmwareMissing_tells hNe hHeard
  have hActs := h.toFits.carries hd (f := fun d => d.setFirmwareMissing missing)
    (Device.setFirmwareMissing_carries missing hSound.allListen hSound.device)
  have hQueue : (m.updateDevice d.id fun d => d.setFirmwareMissing missing).queueOf d.id =
      m.queueOf d.id ++ (d.setFirmwareMissing missing).events := congrArg Site.queue hActs.here
  have hWaits : t ∈ entered
      ((m.updateDevice d.id fun d => d.setFirmwareMissing missing).queueOf d.id) := by
    rw [hQueue, entered_append]
    exact List.mem_append_right _ ht
  obtain ⟨old, reason, hTold⟩ := Changes.published (hCoherent.settle_does .empty) hCoherent.toFits
    hWaits hCoherent.settle.queue
  rw [operate_setFirmwareMissing hFound]
  exact ⟨_, hTold, t, old, reason, rfl⟩

/-- Firmware comes or goes only by an operation that says so. It does so in silence, or an event waits
that the device changed its state. -/
theorem Rested.firmware_cases (h : m.Rested A) (operation : Operation)
    (hd : m.device? id = some d) (hd' : (m.operate operation).device? id = some d') :
    (m.silenced? operation = some id ∧ d'.firmwareMissing = !d.firmwareMissing) ∨
      (m.silenced? operation ≠ some id ∧ (d'.firmwareMissing = d.firmwareMissing ∨
        ∃ e ∈ (m.operate operation).events, e.moves id)) := by
  by_cases hOther : ∀ interface missing, operation ≠ .setFirmwareMissing interface missing
  · rw [silenced?_other hOther]
    exact Or.inr ⟨nofun, Or.inl (h.firmware_kept hOther hd hd')⟩
  · simp only [not_forall, not_not] at hOther
    obtain ⟨interface, missing, rfl⟩ := hOther
    cases hFound : m.deviceByInterface? interface with
    | none =>
      have hSame : m.operate (.setFirmwareMissing interface missing) = m := by
        show (m.setFirmwareMissing interface missing).1 = _
        unfold Manager.setFirmwareMissing
        rw [hFound]
      have hNone : m.silenced? (.setFirmwareMissing interface missing) = none := by
        unfold silenced?
        dsimp only
        rw [hFound]
        rfl
      rw [hSame, hd] at hd'
      cases hd'
      rw [hNone]
      exact Or.inr ⟨nofun, Or.inl rfl⟩
    | some d₀ =>
      have hNow := h.firmware_noted hFound hd hd'
      rw [silenced?_found hFound]
      by_cases hId : id = d₀.id
      · rw [if_pos hId] at hNow
        obtain rfl : d = d₀ := by
          rw [hId, h.linked.device?_of_mem (List.mem_of_find?_eq_some hFound)] at hd
          exact (Option.some.inj hd).symm
        by_cases hFlips : d.FlipsSilently missing
        · rw [if_pos hFlips, hId]
          exact Or.inl ⟨rfl, hNow.trans (Bool.eq_not.mpr hFlips.1)⟩
        · rw [if_neg hFlips]
          refine Or.inr ⟨nofun, ?_⟩
          by_cases hSame : missing = d.firmwareMissing
          · exact Or.inl (hNow.trans hSame)
          · rw [hId]
            exact Or.inr (h.firmware_told hFound hSame hFlips)
      · rw [if_neg hId] at hNow
        refine Or.inr ⟨fun hSilent => ?_, Or.inl hNow⟩
        split at hSilent
        · exact hId (Option.some.inj hSilent).symm
        · cases hSilent

end Operations

end Manager

-- ---------------------------------------------------------------------------
-- Looking at a device
-- ---------------------------------------------------------------------------

/-- An event about a device that the bus shows afterwards makes it show whether the firmware of the
device is missing. -/
theorem BusObjects.firmware_sync {o : BusObjects} {m : Manager} {e : ManagerEvent} {id : Nat}
    {s : DeviceStatus} {d : Device} (hAbout : e.deviceTold? = some id)
    (hShown : (o.sync m e).1.devices.lookup id = some s) (hd : m.device? id = some d) :
    s.firmwareMissing = d.firmwareMissing := by
  cases e with
  | deviceAdded i =>
    obtain rfl := Option.some.inj hAbout
    unfold sync at hShown
    dsimp only at hShown
    rw [hd] at hShown
    have hPut := (lookup_put o.devices i i (DeviceStatus.of d)).symm.trans hShown
    rw [if_pos rfl] at hPut
    cases hPut
    rfl
  | deviceRemoved i =>
    obtain rfl := Option.some.inj hAbout
    rw [device_sync_removed] at hShown
    cases hShown
  | deviceStateChanged i new old reason =>
    obtain rfl := Option.some.inj hAbout
    rw [device_sync_moved, hd] at hShown
    obtain ⟨before, -, hMoved⟩ := Option.bind_eq_some_iff.mp hShown
    cases hMoved
    rfl
  | _ => cases hAbout

/-- A mirror, and how often the firmware of each device came or went in silence since the bus last
followed an event about the device. -/
structure Lookout where
  mirror : Mirror
  silent : Nat → Nat

namespace Lookout

def start (m : Manager) : Lookout := { mirror := .start m, silent := fun _ => 0 }

/-- How often that has happened to a device once there was another turn. -/
def count (w : Lookout) (id : Nat) : Mirror.Turn → Nat
  | .operate operation =>
    if w.mirror.manager.silenced? operation = some id then w.silent id + 1 else w.silent id
  | .follow =>
    if w.mirror.manager.events.head?.bind ManagerEvent.deviceTold? = some id then 0
    else w.silent id

def turn (w : Lookout) (turn : Mirror.Turn) : Lookout :=
  { mirror := w.mirror.turn turn, silent := fun id => w.count id turn }

def run (w : Lookout) (turns : List Mirror.Turn) : Lookout := turns.foldl turn w

/-- To keep count changes nothing. -/
theorem mirror_run (w : Lookout) (turns : List Mirror.Turn) :
    (w.run turns).mirror = w.mirror.run turns := by
  induction turns generalizing w with
  | nil => rfl
  | cons turn turns ih => exact ih (w.turn turn)

theorem count_follow {w : Lookout} {e : ManagerEvent} {events : List ManagerEvent}
    (hEvents : w.mirror.manager.events = e :: events) (id : Nat) :
    w.count id .follow = if e.deviceTold? = some id then 0 else w.silent id := by
  unfold count
  dsimp only
  rw [hEvents]
  rfl

theorem count_done {w : Lookout} (hDone : w.mirror.manager.events = []) (id : Nat) :
    w.count id .follow = w.silent id := by
  unfold count
  dsimp only
  rw [hDone]
  exact if_neg nofun

/-- What the bus shows of the firmware of a device is right exactly if it came or went an even number
of times in silence, unless an event waits that the device changed its state. -/
structure Sound (w : Lookout) : Prop where
  trails : ∃ o, w.mirror.Trails o
  firmware : ∀ id s d, w.mirror.objects.devices.lookup id = some s →
    w.mirror.manager.device? id = some d →
      (s.firmwareMissing = d.firmwareMissing ↔ Even (w.silent id)) ∨
        ∃ e ∈ w.mirror.manager.events, e.moves id

variable {w : Lookout}

theorem Sound.operate (h : w.Sound) (operation : Operation) :
    (w.turn (.operate operation)).Sound := by
  obtain ⟨o, hTrails⟩ := h.trails
  refine ⟨⟨o, hTrails.operate operation⟩, fun id s d' hShown hd' => ?_⟩
  change w.mirror.objects.devices.lookup id = some s at hShown
  change (w.mirror.manager.operate operation).device? id = some d' at hd'
  show (_ ↔ Even (w.count id (.operate operation))) ∨
    ∃ e ∈ (w.mirror.manager.operate operation).events, e.moves id
  obtain ⟨-, news, hHearing, -⟩ := hTrails.hearing operation
  have hKnown := (hTrails.devices id).justified (by rw [hShown]; rfl)
  obtain ⟨d, hd, -⟩ := hHearing.device (hTrails.remembers.devices id hKnown) hd'
  have hCases := hTrails.rested.firmware_cases operation hd hd'
  unfold count
  dsimp only
  obtain hBefore | ⟨e, he, hMoves⟩ := h.firmware id s d hShown hd
  · obtain ⟨hSilent, hFlipped⟩ | ⟨hHeard, hSame | hTold⟩ := hCases
    · rw [if_pos hSilent, hFlipped, Nat.even_add_one, ← hBefore]
      exact Or.inl Bool.eq_not
    · rw [if_neg hHeard, hSame]
      exact Or.inl hBefore
    · exact Or.inr hTold
  · rw [hHearing.events]
    exact Or.inr ⟨e, List.mem_append_left _ he, hMoves⟩

theorem Sound.follow (h : w.Sound) : (w.turn .follow).Sound := by
  obtain ⟨o, hTrails⟩ := h.trails
  refine ⟨hTrails.follow, fun id s d hShown hd => ?_⟩
  change (w.mirror.turn .follow).objects.devices.lookup id = some s at hShown
  change (w.mirror.turn .follow).manager.device? id = some d at hd
  show (_ ↔ Even (w.count id .follow)) ∨ ∃ e ∈ (w.mirror.turn .follow).manager.events, e.moves id
  cases hEvents : w.mirror.manager.events with
  | nil =>
    have hSame : w.mirror.turn .follow = w.mirror := by
      unfold Mirror.turn
      dsimp only
      rw [hEvents]
    rw [hSame] at hShown hd ⊢
    rw [count_done hEvents]
    exact h.firmware id s d hShown hd
  | cons e events =>
    rw [Mirror.turn_follow hEvents] at hShown hd ⊢
    dsimp only at hShown hd ⊢
    rw [count_follow hEvents]
    by_cases hAbout : e.deviceTold? = some id
    · rw [if_pos hAbout]
      exact Or.inl (iff_of_true (BusObjects.firmware_sync hAbout hShown hd) Even.zero)
    · rw [if_neg hAbout]
      rw [BusObjects.device_sync_elsewhere _ _ hAbout] at hShown
      refine (h.firmware id s d hShown hd).imp_right fun hWaits => ?_
      rw [hEvents] at hWaits
      exact Mirror.moves_rest hAbout hWaits

theorem Sound.run (h : w.Sound) (turns : List Mirror.Turn) : (w.run turns).Sound := by
  induction turns generalizing w with
  | nil => exact h
  | cons turn turns ih =>
    cases turn with
    | operate operation => exact ih (h.operate operation)
    | follow => exact ih h.follow

/-- **The bus lags behind the firmware.** A manager that has no devices goes on the bus; then it is
asked for things, and its events are followed, in any order. Whenever no event waits there is one
object for each device, and what it shows of the firmware is right exactly if the firmware came or
went an even number of times in silence since the bus last followed an event about the device. -/
theorem run_showsFirmware_iff (store : StateStore) (allowed : List Nat) (timeout : Option Nat)
    (epoch : Nat) (before : List Operation) (events : List ManagerEvent) (turns : List Mirror.Turn)
    (hEmpty : ((Manager.start store allowed timeout epoch).run before).devices = [])
    (hLeft : events <:+ ((Manager.start store allowed timeout epoch).run before).events) :
    let m := { (Manager.start store allowed timeout epoch).run before with events }
    let w := (start m).run turns
    let b := (Mirror.start m).run turns
    b.manager.events = [] → ∀ id,
      (b.objects.devices.lookup id).isSome = (b.manager.device? id).isSome ∧
        ∀ s d, b.objects.devices.lookup id = some s → b.manager.device? id = some d →
          (s.firmwareMissing = d.firmwareMissing ↔ Even (w.silent id)) := by
  intro m w b hDone id
  have hStart : (start m).Sound :=
    ⟨Mirror.start_trails store allowed timeout epoch before hEmpty hLeft, fun _ _ _ => nofun⟩
  have hSound : w.Sound := hStart.run turns
  obtain ⟨⟨o, hTrails⟩, hFirmware⟩ := hSound
  have hMirror : w.mirror = b := mirror_run (start m) turns
  rw [hMirror] at hTrails hFirmware
  refine ⟨?_, fun s d hShown hd => (hFirmware id s d hShown hd).resolve_right ?_⟩
  · have hObjects := congrArg Option.isSome ((hTrails.mirrors hDone).devices id)
    rwa [Option.isSome_map, Option.isSome_map] at hObjects
  · rw [hDone]
    rintro ⟨e, he, -⟩
    cases he

/-- The scanner dials, loses its firmware meanwhile, and gets it back. -/
theorem run_showsFirmware_iff_restored :
    let m := { Manager.start Manager.DialUp.store [] none 0 with events := [] }
    let turns := Manager.DialUp.connecting.map Mirror.Turn.operate ++
      [.operate (.setFirmwareMissing "bt0" true), .operate (.setFirmwareMissing "bt0" false)] ++
        List.replicate 15 .follow
    let b := (Mirror.start m).run turns
    b.manager.events = [] ∧ ∀ s d, b.objects.devices.lookup 0 = some s →
      b.manager.device? 0 = some d →
        (s.firmwareMissing = d.firmwareMissing ↔ Even (((start m).run turns).silent 0)) :=
  have hFollowed : ((Mirror.start { Manager.start Manager.DialUp.store [] none 0 with
      events := [] }).run (Manager.DialUp.connecting.map Mirror.Turn.operate ++
        [.operate (.setFirmwareMissing "bt0" true), .operate (.setFirmwareMissing "bt0" false)] ++
          List.replicate 15 .follow)).manager.events = [] := by decide +kernel
  ⟨hFollowed, (run_showsFirmware_iff Manager.DialUp.store [] none 0 [] [] _ rfl
    (List.suffix_refl _) hFollowed 0).2⟩

/-- The scanner loses its firmware while it dials. No event waits, and the bus shows that the firmware
is there. -/
theorem not_showsFirmware_dialing :
    let m := { Manager.start Manager.DialUp.store [] none 0 with events := [] }
    let b := (Mirror.start m).run (Manager.DialUp.connecting.map Mirror.Turn.operate ++
      List.replicate 15 .follow ++ [.operate (.setFirmwareMissing "bt0" true)])
    b.manager.events = [] ∧
      b.manager.devices.map (fun d => (d.id, d.state, d.firmwareMissing)) = [(0, .config, true)] ∧
        b.objects.devices.map (fun e => (e.1, e.2.firmwareMissing)) = [(0, false)] := by
  decide +kernel

end Lookout

end ScannerHub
