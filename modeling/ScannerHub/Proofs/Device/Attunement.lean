import ScannerHub.Proofs.Device.Constancy
import ScannerHub.Proofs.Device.Listeners

/-!
# Devices in tune

A device has a state, and its hardware has one too: a link that is on its way or up, or a line with
parameters in force. The two are changed in different places, the link even before the device moves, and
a call may come at any time and with any connection. Still each of the two tells what the other one is
whenever a call is over.

* `LinkState.Attuned`, `Hardware.Attuned` — the hardware is what a state says of it;
* `Device.Attuned` — the invariant;
* `Device.Call` — what can be asked of a device;
* `Device.course` — what comes of calls one after the other.

## Results

* `Attuned.hardware` — the invariant puts the hardware in tune with the state;
* `Call.attuned`, `Attuned.course` — calls preserve it;
* `course_attuned` — a device is in tune whatever was asked of it.
-/

namespace ScannerHub

/-- A link is what a state says of it: on its way in the state `config`, up in the states `needAuth` and
`activated`, and idle in all others. -/
structure LinkState.Attuned (s : DeviceState) (link : LinkState) : Prop where
  connecting : (∃ deadline profile, link = .connecting deadline profile) ↔ s = .config
  up : (∃ profile, link = .up profile) ↔ s = .needAuth ∨ s = .activated
  idle : link = .idle ↔ s ≠ .config ∧ s ≠ .needAuth ∧ s ≠ .activated

/-- A link in step with the state tells the state. -/
theorem LinkState.InStep.attuned {s : DeviceState} {link : LinkState} (h : link.InStep s) :
    link.Attuned s := by
  cases link with
  | idle =>
    have hNone : s ≠ .config ∧ s ≠ .needAuth ∧ s ≠ .activated := by
      change s.isActive = false at h
      revert h
      cases s <;> decide
    exact ⟨by simp [hNone], by simp [hNone], by simp [hNone]⟩
  | connecting deadline profile =>
    obtain rfl : s = .config := h
    constructor <;> simp
  | up profile =>
    rcases h with rfl | rfl <;> constructor <;> simp

/-- The hardware is what a state says of it. A line has parameters in force in the state `activated`. -/
def Hardware.Attuned (s : DeviceState) : Hardware → Prop
  | bluetooth radio => radio.link.Attuned s
  | serial line => line.isSome = true ↔ s = .activated
  | hidraw _ => True

namespace Device

variable {d : Device}

-- ---------------------------------------------------------------------------
-- The line of a serial device
-- ---------------------------------------------------------------------------

/-- A serial line has parameters in force exactly while its device is activated. -/
def Lined (d : Device) : Prop :=
  ∀ line, d.hardware = .serial line → (line.isSome = true ↔ d.state = .activated)

/-- The devices of other kinds have no line. -/
theorem lined_of_type (h : d.type ≠ .serial) : d.Lined := by
  intro line hLine
  unfold Device.type at h
  rw [hLine] at h
  exact absurd rfl h

/-- A move out of an activation drops the parameters, and any other one finds none. -/
theorem moveTo_lined (h : d.Lined) {new : DeviceState} (reason : StateReason)
    (hIdle : new.isActive = false) : (d.moveTo new reason).device.Lined := by
  have hNew : new ≠ .activated := by
    rintro rfl
    cases hIdle
  unfold moveTo
  split
  · exact h
  · split
    · intro line hLine
      change (if d.state.isActive && !new.isActive then d.hardware.deactivate else d.hardware) = _ at hLine
      show line.isSome = true ↔ new = .activated
      split at hLine
      · cases hKind : d.hardware with
        | bluetooth radio | hidraw node =>
          rw [hKind] at hLine
          cases hLine
        | serial held =>
          rw [hKind] at hLine
          cases hLine
          exact ⟨nofun, fun hEq => absurd hEq hNew⟩
      · rename_i hRests
        have hOld : d.state ≠ .activated := fun hEq => hRests (by rw [hEq, hIdle]; rfl)
        exact ⟨fun hSome => absurd ((h line hLine).mp hSome) hOld, fun hEq => absurd hEq hNew⟩
    · exact h

theorem andThen_lined {u : Update} {next : Device → Update} (h : u.device.Lined)
    (hNext : u.device.Lined → (next u.device).device.Lined) : (u.andThen next).device.Lined := by
  unfold Update.andThen
  split
  · exact h
  · exact hNext h

theorem setManaged_lined (h : d.Lined) (managed : Bool) (reason : StateReason) :
    (d.setManaged managed reason).device.Lined := by
  unfold setManaged
  split
  · exact h
  · split
    · refine andThen_lined (moveTo_lined (d := { d with managed }) h reason rfl) fun hFirst => ?_
      split
      · exact moveTo_lined hFirst .none rfl
      · exact hFirst
    · exact moveTo_lined (d := { d with managed, activationScheduled := false }) h reason rfl

theorem setFirmwareMissing_lined (h : d.Lined) (missing : Bool) :
    (d.setFirmwareMissing missing).device.Lined := by
  unfold setFirmwareMissing
  split
  · exact h
  · dsimp only
    split <;> split
    · exact moveTo_lined (d := { d with firmwareMissing := missing }) h _ rfl
    · exact h
    · exact moveTo_lined (d := { d with firmwareMissing := missing }) h _ rfl
    · exact h

theorem deactivate_lined (h : d.Lined) (reason : StateReason) : (d.deactivate reason).device.Lined := by
  unfold deactivate
  dsimp only
  split
  · exact moveTo_lined (d := { d with activationScheduled := false }) h reason rfl
  · exact h

/-- A line is not a link. -/
theorem linkChanged_lined (h : d.Lined) (now : Nat) (c : Connection) (up : Bool) :
    (d.linkChanged now c up).device.Lined := by
  cases hKind : d.hardware with
  | bluetooth radio | hidraw node =>
    refine lined_of_type ?_
    rw [(Urges.link now c up).endures d |>.type, Device.type, hKind]
    nofun
  | serial line =>
    unfold linkChanged
    split
    · exact h
    · rw [hKind]
      show ({ d with hardware := .serial line } : Device).Lined
      rw [← hKind]
      exact h

/-- A line has no deadline. -/
theorem pollDeadline_lined (h : d.Lined) (now : Nat) : (d.pollDeadline now).device.Lined := by
  cases hKind : d.hardware with
  | bluetooth radio | hidraw node =>
    refine lined_of_type ?_
    rw [(Urges.poll now).endures d |>.type, Device.type, hKind]
    nofun
  | serial line =>
    unfold pollDeadline
    rw [hKind]
    show ({ d with hardware := .serial line } : Device).Lined
    rw [← hKind]
    exact h

/-- A device with a line never waits for secrets. -/
theorem secretsUpdated_lined (h : d.Lined) (hSound : d.Sound) (now : Nat) (c : Connection)
    (setting : String) : (d.secretsUpdated now c setting).device.Lined := by
  cases hKind : d.hardware with
  | bluetooth radio | hidraw node =>
    refine lined_of_type ?_
    rw [(Urges.secrets now c setting).endures d |>.type, Device.type, hKind]
    nofun
  | serial line =>
    have hInStep := hSound.hardware
    rw [hKind] at hInStep
    unfold secretsUpdated
    rw [if_pos hInStep.2]
    exact h

/-- An activation that is refused leaves all but a flag of the device as it is. -/
theorem activate_refused (d : Device) (now : Nat) (c : Connection) :
    (d.activate now c).device = { d with activationScheduled := false } ∨
      (d.state = .disconnected ∧ d.check c = .ok ()) := by
  by_cases hState : d.state = .disconnected
  · cases hCheck : d.check c with
    | ok _ => exact Or.inr ⟨hState, rfl⟩
    | error e => exact Or.inl (by rw [activate_of_misfit now hState hCheck])
  · exact Or.inl (by rw [activate_of_busy now c hState])

/-- An activation that runs to its end has taken over the parameters. -/
theorem activate_lined (h : d.Lined) (hListen : d.AllListen) (now : Nat) (c : Connection) :
    (d.activate now c).device.Lined := by
  cases hKind : d.hardware with
  | bluetooth radio | hidraw node =>
    refine lined_of_type ?_
    rw [(activate_endures d now c).type, Device.type, hKind]
    nofun
  | serial line =>
    obtain hRefused | ⟨hState, hCheck⟩ := activate_refused d now c
    · rw [hRefused]
      exact h
    · have hHardware : d.prepared.hardware = .serial line := (enter_hardware rfl).trans hKind
      unfold Device.check at hCheck
      rw [hKind] at hCheck
      obtain ⟨setting, hSetting⟩ := serial_of_check hCheck
      rw [activate_eq now c hListen hState (by unfold Device.check; rw [hKind]; exact hCheck)]
      show (configured d.prepared now c 2).device.Lined
      unfold configured Hardware.configStage
      rw [hHardware, hSetting]
      dsimp only
      rw [followStages_success (d := { d.prepared.enter .config with hardware := .serial (some setting) })
        now c 0 hListen (Or.inl rfl)]
      intro held hHeld
      cases hHeld
      exact ⟨fun _ => rfl, fun _ => rfl⟩

-- ---------------------------------------------------------------------------
-- Calls
-- ---------------------------------------------------------------------------

/-- What can be asked of a device. A connection may be another one each time. -/
inductive Call where
  | setManaged (managed : Bool) (reason : StateReason)
  | setFirmwareMissing (missing : Bool)
  | activate (now : Nat) (c : Connection)
  | linkChanged (now : Nat) (c : Connection) (up : Bool)
  | secretsUpdated (now : Nat) (c : Connection) (setting : String)
  | pollDeadline (now : Nat)
  | deactivate (reason : StateReason)
  | subscribe (listener : Listener)
  | unsubscribe (subscription : Nat)
  | closeListener (listener : Listener)

/-- What a call does. -/
def Call.update : Call → Device → Update
  | setManaged managed reason, d => d.setManaged managed reason
  | setFirmwareMissing missing, d => d.setFirmwareMissing missing
  | activate now c, d => d.activate now c
  | linkChanged now c up, d => d.linkChanged now c up
  | secretsUpdated now c setting, d => d.secretsUpdated now c setting
  | pollDeadline now, d => d.pollDeadline now
  | deactivate reason, d => d.deactivate reason
  | subscribe listener, d => (d.subscribe listener).unchanged
  | unsubscribe subscription, d => (d.unsubscribe subscription).unchanged
  | closeListener listener, d => (d.closeListener listener).unchanged

/-- The device after calls one after the other, and all that it told. A call that is refused is over,
and the next one comes all the same. -/
def course (d : Device) : List Call → Device × List DeviceEvent
  | [] => (d, [])
  | call :: calls =>
    let u := call.update d
    let rest := u.device.course calls
    (rest.1, u.events ++ rest.2)

/-- A device is in tune: it is sound, and so is its line. -/
structure Attuned (d : Device) : Prop where
  sound : d.Sound
  line : d.Lined

/-- What is known of a sound device puts its hardware in tune with its state. -/
theorem Attuned.hardware (h : d.Attuned) : d.hardware.Attuned d.state := by
  have hInStep := h.sound.hardware
  cases hKind : d.hardware with
  | hidraw node => trivial
  | serial line => exact h.line line hKind
  | bluetooth radio =>
    rw [hKind] at hInStep
    exact LinkState.InStep.attuned hInStep

-- ---------------------------------------------------------------------------
-- Calls preserve it
-- ---------------------------------------------------------------------------

theorem activate_sound (h : d.Sound) (hListen : d.AllListen) (now : Nat) (c : Connection) :
    (d.activate now c).device.Sound := by
  obtain hRefused | ⟨hState, hCheck⟩ := activate_refused d now c
  · rw [hRefused]
    exact ⟨h.stop, h.managed, h.hardware⟩
  · exact (activate_starts now c hListen h hState hCheck).sound

/-- A call keeps a device in tune to which nobody listens any more who is gone. -/
theorem Call.attuned_listened (h : d.Attuned) (hListen : d.AllListen) (call : Call) :
    (call.update d).device.Attuned := by
  have hSound := h.sound
  have hLine := h.line
  cases call with
  | setManaged managed reason =>
    exact ⟨(setManaged_carries managed reason hListen hSound).sound,
      setManaged_lined hLine managed reason⟩
  | setFirmwareMissing missing =>
    exact ⟨(setFirmwareMissing_carries missing hListen hSound).sound,
      setFirmwareMissing_lined hLine missing⟩
  | activate now c => exact ⟨activate_sound hSound hListen now c, activate_lined hLine hListen now c⟩
  | linkChanged now c up =>
    exact ⟨(linkChanged_carries now c up hListen hSound).sound, linkChanged_lined hLine now c up⟩
  | secretsUpdated now c setting =>
    exact ⟨(secretsUpdated_moves now c setting hListen hSound).1.sound,
      secretsUpdated_lined hLine hSound now c setting⟩
  | pollDeadline now =>
    exact ⟨(pollDeadline_carries now hListen hSound).sound, pollDeadline_lined hLine now⟩
  | deactivate reason =>
    exact ⟨(deactivate_carries reason hListen hSound).sound, deactivate_lined hLine reason⟩
  | subscribe listener | unsubscribe subscription | closeListener listener =>
    exact ⟨⟨hSound.stop, hSound.managed, hSound.hardware⟩, hLine⟩

/-- Who listens makes a difference only to who listens then. -/
theorem Call.update_heardBy (call : Call) (d : Device) :
    (call.update (d.heardBy [])).device.heardBy [] = (call.update d).device.heardBy [] := by
  have hOpen := allListen_unheard d
  have hSame : ∀ {f : Device → Update}, f (d.heardBy []) = (f d).heardBy [] →
      (f (d.heardBy [])).device.heardBy [] = (f d).device.heardBy [] := by
    intro f h
    rw [h]
    rfl
  cases call with
  | setManaged managed reason =>
    exact hSame (f := fun d => d.setManaged managed reason) (setManaged_heardBy hOpen d managed reason)
  | setFirmwareMissing missing =>
    exact hSame (f := fun d => d.setFirmwareMissing missing) (setFirmwareMissing_heardBy hOpen d missing)
  | activate now c => exact hSame (f := fun d => d.activate now c) (activate_heardBy hOpen d now c)
  | linkChanged now c up =>
    exact hSame (f := fun d => d.linkChanged now c up) (linkChanged_heardBy hOpen d now c up)
  | secretsUpdated now c setting =>
    exact hSame (f := fun d => d.secretsUpdated now c setting)
      (secretsUpdated_heardBy hOpen d now c setting)
  | pollDeadline now => exact hSame (f := fun d => d.pollDeadline now) (pollDeadline_heardBy hOpen d now)
  | deactivate reason =>
    exact hSame (f := fun d => d.deactivate reason) (deactivate_heardBy hOpen d reason)
  | subscribe listener | unsubscribe subscription | closeListener listener => rfl

theorem attuned_heardBy (subs : List Subscription) : (d.heardBy subs).Attuned ↔ d.Attuned :=
  ⟨fun h => ⟨⟨h.sound.stop, h.sound.managed, h.sound.hardware⟩, h.line⟩,
   fun h => ⟨⟨h.sound.stop, h.sound.managed, h.sound.hardware⟩, h.line⟩⟩

/-- A call keeps a device in tune, whoever listens. -/
theorem Call.attuned (h : d.Attuned) (call : Call) : (call.update d).device.Attuned := by
  rw [← attuned_heardBy [], ← call.update_heardBy d, attuned_heardBy]
  exact Call.attuned_listened ((attuned_heardBy []).mpr h) (allListen_unheard d) call

/-- What a device tells during a call leads from its state before to its state after. -/
theorem Call.trail (call : Call) (d : Device) :
    Trail d.state (call.update d).events (call.update d).device.state := by
  cases call with
  | setManaged managed reason => exact (Governs.manage managed reason).trail d
  | setFirmwareMissing missing => exact (Urges.firmware missing).trail d
  | activate now c => exact (activate_proceeds d now c).trail
  | linkChanged now c up => exact (Urges.link now c up).trail d
  | secretsUpdated now c setting => exact (Urges.secrets now c setting).trail d
  | pollDeadline now => exact (Urges.poll now).trail d
  | deactivate reason => exact (Urges.stop reason).trail d
  | subscribe listener | unsubscribe subscription | closeListener listener => rfl

/-- No call makes another kind of device of it. -/
theorem Call.type (call : Call) (d : Device) : (call.update d).device.type = d.type := by
  cases call with
  | setManaged managed reason => exact ((Governs.manage managed reason).endures d).type
  | setFirmwareMissing missing => exact ((Urges.firmware missing).endures d).type
  | activate now c => exact (activate_endures d now c).type
  | linkChanged now c up => exact ((Urges.link now c up).endures d).type
  | secretsUpdated now c setting => exact ((Urges.secrets now c setting).endures d).type
  | pollDeadline now => exact ((Urges.poll now).endures d).type
  | deactivate reason => exact ((Urges.stop reason).endures d).type
  | subscribe listener | unsubscribe subscription | closeListener listener => rfl

/-- Calls one after the other keep a device in tune and of its kind, and all that it told during them is
one way along the edges of its state machine. -/
theorem Attuned.course (h : d.Attuned) (calls : List Call) :
    (d.course calls).1.Attuned ∧ (d.course calls).1.type = d.type ∧
      Trail d.state (d.course calls).2 (d.course calls).1.state := by
  induction calls generalizing d with
  | nil => exact ⟨h, rfl, rfl⟩
  | cons call calls ih =>
    obtain ⟨hRest, hType, hTrail⟩ := ih (call.attuned h)
    exact ⟨hRest, hType.trans (call.type d), (call.trail d).append hTrail⟩

theorem attuned_ofHardware {identity : DeviceIdentity} {hardware : Hardware}
    (hBuilt : ofHardware? identity hardware = some d) (hUnused : hardware.IsUnused) :
    d.Attuned ∧ d.state = .unmanaged ∧ d.type = hardware.type := by
  have hNew := (IsNew.ofHardware hBuilt hUnused).unused
  have hSound : d.Sound := by
    refine ⟨by rw [hNew.state]; rfl, by rw [hNew.managed, hNew.state]; simp, ?_⟩
    rw [hNew.state]
    exact hNew.hardware
  have hSame : d.hardware = hardware := by
    unfold ofHardware? at hBuilt
    split at hBuilt
    · cases hBuilt
      rfl
    · cases hBuilt
  refine ⟨⟨hSound, fun line hLine => ?_⟩, hNew.state, congrArg Hardware.type hSame⟩
  rw [hSame] at hLine
  rw [hLine] at hUnused
  rw [show line = none from hUnused, hNew.state]
  exact ⟨nofun, nofun⟩

/-- Whatever was asked of a device since it was built, and with whatever connections: it is in none of
the states that end by themselves, it is of the kind that it was, its link or line is exactly what its
state says, and what it told is one way along the edges of its state machine, from where it began to where
it is. -/
theorem course_attuned {identity : DeviceIdentity} {hardware : Hardware}
    (hBuilt : ofHardware? identity hardware = some d) (hUnused : hardware.IsUnused)
    (calls : List Call) :
    let e := (d.course calls).1
    e.state ∉ [.prepare, .ipConfig, .unknown] ∧ e.type = hardware.type ∧
      e.hardware.Attuned e.state ∧ Trail .unmanaged (d.course calls).2 e.state := by
  intro e
  obtain ⟨hFirst, hState, hType⟩ := attuned_ofHardware hBuilt hUnused
  obtain ⟨hAttuned, hKind, hTrail⟩ := hFirst.course calls
  have hStop := hAttuned.sound.stop
  refine ⟨fun hIn => ?_, hKind.trans hType, hAttuned.hardware, hState ▸ hTrail⟩
  change e.state.isStop = true at hStop
  revert hIn hStop
  cases e.state <;> decide

namespace Dock

def identity : DeviceIdentity where
  udi := "/dev_D"
  interface := "bt0"
  driver := "bluez"
  index := none

/-- A scanner that offers dial-up networking. -/
def hardware : Hardware :=
  .bluetooth
    { address := "00:11:22:33:44:55", name := "", profiles := .dun, connectTimeout := 30000, link := .idle }

def scanner : Device where
  id := 0
  identity := identity
  capabilities := .supported
  state := .unmanaged
  managed := false
  firmwareMissing := false
  autoconnectInhibited := false
  activationScheduled := false
  hardware := hardware
  subscribers := []
  nextSubscription := 0

/-- A connection that fits, without a PIN. -/
def connection : Connection where
  scope := .system
  settings := Dict.ofList
    [("bluetooth", Dict.ofList
       [("bdaddr", .bytes [0x00, 0x11, 0x22, 0x33, 0x44, 0x55]), ("type", .text "dun")])]
  base :=
    { id := "dock", uuid := "3f2504e0-4f89-11d3-9a0c-0305e82c3301", kind := "bluetooth"
      autoconnect := true, timestamp := 0, readOnly := false }

/-- The scanner comes into use, and its link comes up in time. -/
def calls : List Call :=
  [.setManaged true .nowManaged, .activate 0 connection, .linkChanged 2000 connection true,
   .pollDeadline 40000]

end Dock

/-- A scanner waits for a PIN, its link is up, and its deadline does not matter any more. -/
theorem attuned_dock :
    ofHardware? Dock.identity Dock.hardware = some Dock.scanner ∧ Dock.hardware.IsUnused ∧
      let e := (Dock.scanner.course Dock.calls).1
      e.state = .needAuth ∧
      e.state ∉ [.prepare, .ipConfig, .unknown] ∧ e.type = Dock.hardware.type ∧
        e.hardware.Attuned e.state ∧ Trail .unmanaged (Dock.scanner.course Dock.calls).2 e.state :=
  have hBuilt : ofHardware? Dock.identity Dock.hardware = some Dock.scanner := rfl
  ⟨hBuilt, rfl, by decide +kernel, course_attuned hBuilt rfl Dock.calls⟩

end Device

end ScannerHub
