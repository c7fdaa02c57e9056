import ScannerHub.Proofs.Device.Constancy
import ScannerHub.Proofs.Settings.Verified

/-!
# Connections that are ready to be used

The settings of a connection are read three times: when it is verified, when it is matched with a device,
and when the device is configured. The readings agree. A verified connection has the setting that its type
names, and in it all that a device of this type asks for, so that it either does not belong to the device
or can be started on it.

What a device would do if a stage failed, or if a move were refused, is then beside the point. That is
told by the pipeline with these branches left open: it does the same whatever stands in them.

* `Device.Smooth` — a way through the pipeline on which no stage fails and no move is refused;
* `Device.Fallbacks` — what the pipeline does if a stage fails or a move is refused.

## Results

* `Connection.Verified.check_cases` — why a verified connection does not fit;
* `Device.activate_of_check` — where an activation that fits leads;
* `Device.activateWith_eq` — the branches for what goes wrong make no difference;
* `Device.ready_performAll` — edited connections are ready to be used.
-/

namespace ScannerHub

-- ---------------------------------------------------------------------------
-- Readings of the settings
-- ---------------------------------------------------------------------------

theorem eq_ok_of_map {ε α β : Type} {f : α → β} {x : Except ε α} {b : β} (h : x.map f = .ok b) :
    ∃ a, x = .ok a := by
  cases x with
  | error e => cases h
  | ok a => exact ⟨a, rfl⟩

namespace Connection

variable {c : Connection}

/-- A verified connection has an acceptable setting for its type, by whatever view that is judged. -/
theorem Verified.view (h : c.Verified) {α : Type} (view : SettingMap → Except SettingsError α)
    (hView : ∀ map, verifySetting c.kind map = (view map).map fun _ => ()) :
    ∃ setting, (c.setting? c.kind).map view = some (.ok setting) := by
  obtain ⟨map, hFound⟩ := h.kind
  obtain ⟨setting, hSetting⟩ := eq_ok_of_map ((hView map).symm.trans (h.setting hFound))
  exact ⟨setting, by rw [hFound, Option.map_some, hSetting]⟩

theorem Verified.bluetooth (h : c.Verified) (hKind : c.kind = bluetoothSettingName) :
    ∃ setting, c.bluetooth? = some (.ok setting) := by
  have hSetting := h.view BluetoothSetting.ofMap fun map => by rw [hKind]; rfl
  rwa [hKind] at hSetting

theorem Verified.serial (h : c.Verified) (hKind : c.kind = serialSettingName) :
    ∃ setting, c.serial? = some (.ok setting) := by
  have hSetting := h.view SerialSetting.ofMap fun map => by rw [hKind]; rfl
  rwa [hKind] at hSetting

/-- The settings of a verified connection are never the reason why it does not fit. -/
theorem Verified.check_cases (h : c.Verified) (identity : DeviceIdentity) (hardware : Hardware) :
    hardware.check identity c = .ok () ∨
      hardware.check identity c = .error (.otherType hardware.settingName) ∨
        hardware.check identity c = .error .missingCapability ∨
          hardware.check identity c = .error .otherAddress := by
  by_cases hKind : c.kind = hardware.settingName
  · rw [show hardware.check identity c = hardware.checkSetting identity c from
      if_neg (not_not_intro hKind)]
    cases hardware with
    | bluetooth radio =>
      obtain ⟨setting, hSetting⟩ := h.bluetooth hKind
      unfold Hardware.checkSetting
      rw [hSetting]
      dsimp only [Hardware.requireSetting]
      split
      · exact Or.inr (Or.inr (Or.inl rfl))
      · split
        · exact Or.inr (Or.inr (Or.inr rfl))
        · exact Or.inl rfl
    | serial line =>
      obtain ⟨setting, hSetting⟩ := h.serial hKind
      unfold Hardware.checkSetting
      rw [hSetting]
      exact Or.inl rfl
    | hidraw node =>
      unfold Hardware.checkSetting
      dsimp only
      split
      · split
        · exact Or.inr (Or.inr (Or.inr rfl))
        · exact Or.inl rfl
      · exact Or.inl rfl
  · exact Or.inr (Or.inl (if_pos hKind))

end Connection

-- ---------------------------------------------------------------------------
-- Ways without a failure
-- ---------------------------------------------------------------------------

namespace Device

variable {d : Device} {now : Nat} {c : Connection} {s : DeviceState} {stages : Nat}
  {outcome : StageOutcome}

/-- A way through the pipeline to a state, on which no stage fails and no move is refused. -/
inductive Smooth (now : Nat) (c : Connection) : DeviceState → Nat → Device → StageOutcome → Prop where
  | waits {s : DeviceState} {stages : Nat} {d : Device} {request : LinkRequest} (hState : d.state = s) :
    Smooth now c s stages d (.waitForLink request)
  | ends {s : DeviceState} {stages : Nat} {d : Device} (hNext : nextStage? d.state = some s)
    (hMove : d.state.canMove s = true)
    (hLast : (d.moveTo s .none).device.runStage now c = none) : Smooth now c s (stages + 1) d .success
  | enters {s next : DeviceState} {stages : Nat} {d e : Device} {outcome : StageOutcome}
    (hNext : nextStage? d.state = some next) (hMove : d.state.canMove next = true)
    (hRun : (d.moveTo next .none).device.runStage now c = some (e, outcome))
    (hRest : Smooth now c s stages e outcome) : Smooth now c s (stages + 1) d .success

/-- What the pipeline does if a stage fails, or if a move to a state is refused. -/
structure Fallbacks where
  failed : Device → StateReason → Update
  refused : Device → DeviceState → Update

/-- What it does in fact: the device fails if it can, and otherwise nothing happens. -/
def Fallbacks.own : Fallbacks where
  failed d reason := { d.moveTo .failed reason with error := none }
  refused d new := { d.moveTo new .none with error := none }

/-- The pipeline with other branches for what goes wrong. -/
def followStagesWith (f : Fallbacks) (now : Nat) (c : Connection) : Nat → Device → StageOutcome → Update
  | stages + 1, d, .success =>
    match nextStage? d.state with
    | none => d.unchanged
    | some next =>
      let entered := d.moveTo next .none
      if entered.error.isSome then f.refused d next
      else entered.andThen fun d =>
        match d.runStage now c with
        | none => d.unchanged
        | some (d, outcome) => followStagesWith f now c stages d outcome
  | 0, d, .success => d.unchanged
  | _, d, .postpone => d.unchanged
  | _, d, .waitForLink request => d.announce (.linkRequested d.id request)
  | _, d, .needSecrets need =>
    let entered := d.moveTo .needAuth .none
    if entered.error.isSome then f.refused d .needAuth
    else entered.andThen fun d => d.announce (.needSecrets d.id need)
  | _, d, .failure reason => f.failed d reason

/-- An activation with other branches for what goes wrong on its way. -/
def activateWith (f : Fallbacks) (d : Device) (now : Nat) (c : Connection) : Update :=
  let d := { d with activationScheduled := false }
  if d.state ≠ .disconnected then
    { device := d, events := [], error := some (.deviceNotAvailable d.interface) }
  else match d.check c with
    | .error e => { device := d, events := [], error := some (.connectionInvalid e.message) }
    | .ok () => (d.moveTo .prepare .none).andThen fun d => followStagesWith f now c 3 d .success

theorem followStagesWith_own (now : Nat) (c : Connection) (stages : Nat) (d : Device)
    (outcome : StageOutcome) :
    followStagesWith .own now c stages d outcome = followStages now c stages d outcome := by
  induction stages generalizing d outcome with
  | zero => cases outcome <;> rfl
  | succ stages ih =>
    cases outcome with
    | success =>
      unfold followStagesWith followStages
      simp only [ih]
      rfl
    | postpone | waitForLink | needSecrets | failure => rfl

theorem activateWith_own (d : Device) (now : Nat) (c : Connection) :
    activateWith .own d now c = d.activate now c := by
  unfold activateWith
  simp only [followStagesWith_own]
  rfl

/-- A stage that can be entered is entered, and the pipeline goes on with what it does. -/
theorem followStagesWith_enters (f : Fallbacks) {next : DeviceState} {e : Device}
    (hNext : nextStage? d.state = some next) (hMove : d.state.canMove next = true)
    (hRun : (d.moveTo next .none).device.runStage now c = some (e, outcome)) :
    followStagesWith f now c (stages + 1) d .success =
      { followStagesWith f now c stages e outcome with
        events := (d.moveTo next .none).events ++
          (followStagesWith f now c stages e outcome).events } := by
  rw [moveTo_of_canMove _ hMove] at hRun
  rw [followStagesWith]
  simp only [hNext]
  rw [moveTo_of_canMove _ hMove, if_neg (by simp [announce]), Update.andThen, if_neg (by simp [announce])]
  simp only [hRun]

/-- The last state of the pipeline has no stage of its own. -/
theorem followStagesWith_ends (f : Fallbacks) (hNext : nextStage? d.state = some s)
    (hMove : d.state.canMove s = true) (hLast : (d.moveTo s .none).device.runStage now c = none) :
    followStagesWith f now c (stages + 1) d .success = d.moveTo s .none := by
  rw [moveTo_of_canMove _ hMove] at hLast
  rw [followStagesWith]
  simp only [hNext]
  rw [moveTo_of_canMove _ hMove, if_neg (by simp [announce]), Update.andThen, if_neg (by simp [announce])]
  simp only [hLast]
  rfl

/-- On a smooth way it does not matter what the pipeline would do if something went wrong. -/
theorem Smooth.followStagesWith_eq (h : Smooth now c s stages d outcome) (f g : Fallbacks) :
    followStagesWith f now c stages d outcome = followStagesWith g now c stages d outcome := by
  induction h with
  | @waits stages => cases stages <;> rfl
  | ends hNext hMove hLast =>
    rw [followStagesWith_ends f hNext hMove hLast, followStagesWith_ends g hNext hMove hLast]
  | enters hNext hMove hRun _ ih =>
    rw [followStagesWith_enters f hNext hMove hRun, followStagesWith_enters g hNext hMove hRun, ih]

/-- A smooth way leads to its state. -/
theorem Smooth.state (h : Smooth now c s stages d outcome) :
    (followStages now c stages d outcome).device.state = s := by
  rw [← followStagesWith_own]
  induction h with
  | @waits stages d request hState => cases stages <;> exact hState
  | ends hNext hMove hLast =>
    rw [followStagesWith_ends .own hNext hMove hLast, moveTo_of_canMove _ hMove]
    rfl
  | enters hNext hMove hRun _ ih =>
    rw [followStagesWith_enters .own hNext hMove hRun]
    exact ih

end Device

-- ---------------------------------------------------------------------------
-- The start of an activation
-- ---------------------------------------------------------------------------

/-- Where an activation comes to rest if all goes well: only a bluetooth device waits for its link. -/
def Hardware.destination : Hardware → DeviceState
  | bluetooth _ => .config
  | hidraw _ | serial _ => .activated

/-- The config stage of hardware that fits ends well, or the device waits for its link. -/
theorem Hardware.configStage_of_check {h : Hardware} {identity : DeviceIdentity} {c : Connection}
    (now : Nat) (hCheck : h.check identity c = .ok ()) :
    (h.destination = .config ∧ ∃ request, (h.configStage now c).2 = .waitForLink request) ∨
      (h.destination = .activated ∧ (h.configStage now c).2 = .success) := by
  cases h with
  | bluetooth radio =>
    obtain ⟨setting, hSetting⟩ := Device.bluetooth_of_check hCheck
    unfold Hardware.configStage
    rw [hSetting]
    exact Or.inl ⟨rfl, _, rfl⟩
  | hidraw node => exact Or.inr ⟨rfl, rfl⟩
  | serial line =>
    obtain ⟨setting, hSetting⟩ := Device.serial_of_check hCheck
    unfold Hardware.configStage
    rw [hSetting]
    exact Or.inr ⟨rfl, rfl⟩

namespace Device

variable {d : Device} {now : Nat} {c : Connection}

/-- From the config stage a stage that ended well leads on to the end. -/
theorem smooth_config (hState : d.state = .config) : Smooth now c .activated 2 d .success := by
  have hMove : d.state.canMove .ipConfig = true := by rw [hState]; rfl
  refine .enters (by rw [hState]; rfl) hMove (by rw [moveTo_of_canMove _ hMove]; rfl) ?_
  exact .ends rfl rfl (by rw [moveTo_of_canMove _ rfl]; rfl)

/-- From the stage prepare of a device that fits there is a smooth way. -/
theorem smooth_prepare (hState : d.state = .prepare)
    (hCheck : d.check c = .ok ()) : Smooth now c d.hardware.destination 3 d .success := by
  have hMove : d.state.canMove .config = true := by rw [hState]; rfl
  have hRun : (d.moveTo .config .none).device.runStage now c =
      some ({ (d.moveTo .config .none).device with hardware := (d.hardware.configStage now c).1 },
        (d.hardware.configStage now c).2) := by
    rw [moveTo_of_canMove _ hMove]
    show some ({ ((d.enter .config).announce _).device with
      hardware := ((d.enter .config).hardware.configStage now c).1 },
        ((d.enter .config).hardware.configStage now c).2) = _
    rw [enter_hardware rfl]
  refine .enters (by rw [hState]; rfl) hMove hRun ?_
  have hConfig : (d.moveTo .config .none).device.state = .config := by
    rw [moveTo_of_canMove _ hMove]
    rfl
  rcases Hardware.configStage_of_check now hCheck with ⟨hTo, request, hWaits⟩ | ⟨hTo, hGoes⟩
  · rw [hWaits, hTo]
    exact .waits hConfig
  · rw [hGoes, hTo]
    exact smooth_config hConfig

/-- A disconnected device enters the first stage of an activation that fits. -/
theorem activateWith_of_check (f : Fallbacks) (hState : d.state = .disconnected)
    (hCheck : d.check c = .ok ()) :
    activateWith f d now c =
      (d.prepared.announce (.stateChanged d.id .prepare d.state .none)).andThen
        fun d => followStagesWith f now c 3 d .success := by
  have hMove : ({ d with activationScheduled := false } : Device).state.canMove .prepare = true := by
    show d.state.canMove .prepare = true
    rw [hState]
    rfl
  unfold activateWith
  dsimp only
  rw [if_neg (not_not_intro hState),
    show ({ d with activationScheduled := false } : Device).check c = .ok () from hCheck]
  dsimp only
  rw [moveTo_of_canMove _ hMove]
  rfl

/-- There is a smooth way from the first stage of an activation that fits. -/
theorem smooth_prepared (now : Nat) (event : DeviceEvent) (hCheck : d.check c = .ok ()) :
    Smooth now c d.hardware.destination 3 (d.prepared.announce event).device .success := by
  have hHardware : (d.prepared.announce event).device.hardware = d.hardware := enter_hardware rfl
  have hFits : (d.prepared.announce event).device.check c = .ok () := by
    unfold Device.check
    rw [hHardware]
    exact hCheck
  rw [← hHardware]
  exact smooth_prepare rfl hFits

/-- An activation that fits is accepted by every disconnected device, and it leads to where the device
comes to rest. -/
theorem activate_of_check (now : Nat) (hState : d.state = .disconnected) (hCheck : d.check c = .ok ()) :
    (d.activate now c).error = none ∧ (d.activate now c).device.state = d.hardware.destination := by
  have hEq : d.activate now c = (d.prepared.announce (.stateChanged d.id .prepare d.state .none)).andThen
      fun d => followStages now c 3 d .success := by
    rw [← activateWith_own, activateWith_of_check .own hState hCheck]
    simp only [followStagesWith_own]
  rw [hEq]
  exact ⟨error_followStages now c 3 _ .success, (smooth_prepared now _ hCheck).state⟩

/-- It does not matter what a device would do if something went wrong on the way of an activation: one that
does not fit is refused before, and one that fits has a smooth way. -/
theorem activateWith_eq (f : Fallbacks) (d : Device) (now : Nat) (c : Connection) :
    activateWith f d now c = d.activate now c := by
  rw [← activateWith_own]
  by_cases hState : d.state = .disconnected
  · cases hCheck : d.check c with
    | error e =>
      have hRefused : ({ d with activationScheduled := false } : Device).check c = .error e := hCheck
      unfold activateWith
      simp only [hRefused]
    | ok _ =>
      have hSmooth := smooth_prepared now (.stateChanged d.id .prepare d.state .none) hCheck
      rw [activateWith_of_check f hState hCheck, activateWith_of_check .own hState hCheck]
      simp only [Update.andThen, hSmooth.followStagesWith_eq f .own]
  · unfold activateWith
    dsimp only
    rw [if_pos hState, if_pos hState]

/-- The config stage of hardware that fits does not fail. -/
theorem configStage_ne_failure {h : Hardware} {identity : DeviceIdentity} (now : Nat)
    (hCheck : h.check identity c = .ok ()) (reason : StateReason) :
    (h.configStage now c).2 ≠ .failure reason := by
  rcases Hardware.configStage_of_check now hCheck with ⟨-, request, hWaits⟩ | ⟨-, hGoes⟩
  · rw [hWaits]
    nofun
  · rw [hGoes]
    nofun

-- ---------------------------------------------------------------------------
-- Edited connections
-- ---------------------------------------------------------------------------

/-- Take a connection that was verified once and then edited at will, with or without success, and a
device of any kind. If the connection does not fit, then because of its type, of what the device offers,
or of the address that it is bound to, but not because of its settings. If it fits, the config stage does
not fail, and if the device is disconnected then, an activation is accepted and leads to where the device
comes to rest: a bluetooth device waits for its link, any other is activated. In whatever state a device is
activated, no branch of the pipeline for failures and refused moves is taken: others in their place would
make no difference. -/
theorem ready_performAll {scope : Scope} {settings : Settings}
    (h : Connection.ofSettings scope settings = .ok c) (edits : List Connection.Edit) (d : Device)
    (now : Nat) :
    let c' := c.performAll edits
    (d.check c' = .ok () ∨ d.check c' = .error (.otherType d.hardware.settingName) ∨
      d.check c' = .error .missingCapability ∨ d.check c' = .error .otherAddress) ∧
    (d.check c' = .ok () →
      (∀ reason, (d.hardware.configStage now c').2 ≠ .failure reason) ∧
      (d.state = .disconnected →
        (d.activate now c').error = none ∧
        (d.activate now c').device.state = d.hardware.destination)) ∧
    ∀ f : Fallbacks, activateWith f d now c' = d.activate now c' := by
  intro c'
  have hVerified : c'.Verified := ((Connection.ofSettings_verified h).1.performAll edits).1
  exact ⟨hVerified.check_cases d.identity d.hardware,
    fun hCheck => ⟨configStage_ne_failure now hCheck, fun hState => activate_of_check now hState hCheck⟩,
    fun f => activateWith_eq f d now c'⟩

namespace Counter

/-- The settings of a serial scanner at a counter. -/
def settings : Settings :=
  Dict.ofList
    [("connection", Dict.ofList
       [("id", .text "counter"), ("uuid", .text "3f2504e0-4f89-11d3-9a0c-0305e82c3301"),
        ("type", .text "serial")]),
     ("serial", Dict.ofList [("baud", .word32 9600)])]

def connection : Connection where
  scope := .system
  settings := settings
  base :=
    { id := "counter", uuid := "3f2504e0-4f89-11d3-9a0c-0305e82c3301", kind := "serial"
      autoconnect := true, timestamp := 0, readOnly := false }

/-- A speed that no line has. -/
def standstill : Connection.Edit :=
  .merge "serial" (Dict.ofList [("serial", Dict.ofList [("baud", .word32 0)])])

def scanner : Device where
  id := 1
  identity := { udi := "/dev/ttyS0", interface := "ttyS0", driver := "serial", index := none }
  capabilities := .supported
  state := .disconnected
  managed := true
  firmwareMissing := false
  autoconnectInhibited := false
  activationScheduled := true
  hardware := .serial none
  subscribers := []
  nextSubscription := 0

end Counter

/-- A speed that is not accepted leaves the connection as it was, and so it can be started. -/
theorem ready_counter :
    Connection.ofSettings .system Counter.settings = .ok Counter.connection ∧
      let c' := Counter.connection.performAll [.stamp 8, Counter.standstill]
      Counter.scanner.check c' = .ok () ∧ Counter.scanner.state = .disconnected ∧
      (∀ reason, (Counter.scanner.hardware.configStage 0 c').2 ≠ .failure reason) ∧
      (Counter.scanner.activate 0 c').error = none ∧
      (Counter.scanner.activate 0 c').device.state = .activated ∧
      ∀ f : Fallbacks, activateWith f Counter.scanner 0 c' = Counter.scanner.activate 0 c' :=
  have hNew : Connection.ofSettings .system Counter.settings = .ok Counter.connection := rfl
  have hReady := ready_performAll hNew [.stamp 8, Counter.standstill] Counter.scanner 0
  have hFits := hReady.2.1 rfl
  ⟨hNew, rfl, rfl, hFits.1, (hFits.2 rfl).1, (hFits.2 rfl).2, hReady.2.2⟩

end Device

end ScannerHub
