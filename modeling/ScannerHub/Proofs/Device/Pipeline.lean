import ScannerHub.Proofs.Device.Lifecycle

/-!
# Ways through the pipeline

An activation that fits always starts: it runs to its end, or it waits for its link. From there a
change of the link, secrets, or a deadline leads on, and every way on ends in a state in which the
device may stay.

* `Device.Starts` — what the start of an activation does.

## Results

* `linkChanged_carries`, `pollDeadline_carries` — a sound device stays sound;
* `secretsUpdated_moves` — secrets take a device out of the state `needAuth`;
* `activate_starts` — an activation that fits starts, on a disconnected device.
-/

namespace ScannerHub.Device

-- ---------------------------------------------------------------------------
-- The ways through
-- ---------------------------------------------------------------------------

/-- From the states `config` and `needAuth` a stage that ended well leads to the end. -/
theorem followStages_success {d : Device} (now : Nat) (c : Connection) (n : Nat)
    (hListen : d.AllListen) (hState : d.state = .config ∨ d.state = .needAuth) :
    followStages now c (n + 2) d .success =
      { device := (d.enter .ipConfig).enter .activated
        events := [.stateChanged d.id .ipConfig d.state .none,
          .stateChanged d.id .activated .ipConfig .none]
        error := none } := by
  have hNext : nextStage? d.state = some .ipConfig := by
    rcases hState with h | h <;> rw [h] <;> rfl
  have hMove : d.state.canMove .ipConfig = true := by
    rcases hState with h | h <;> rw [h] <;> rfl
  have hLast : (d.enter .ipConfig).state.canMove .activated = true := rfl
  unfold followStages
  simp only [hNext]
  rw [moveTo_eq hListen _ hMove]
  simp only [Option.isSome_none, Bool.false_eq_true, if_false, Update.andThen, runStage,
    enter_state]
  unfold followStages
  simp only [nextStage?, enter_state]
  rw [moveTo_eq (hListen.enter _) _ hLast]
  rfl

/-- A device that waited for its link or for secrets is activated. -/
theorem moves_activated {d e : Device} (hFrame : Frame d e) (hActive : d.state.isActive = true)
    (hManaged : e.managed = true) (hHardware : e.hardware.InStep .activated) :
    Moves d
      { device := (e.enter .ipConfig).enter .activated
        events := [.stateChanged e.id .ipConfig e.state .none,
          .stateChanged e.id .activated .ipConfig .none]
        error := none } where
  frame := (hFrame.trans (Frame.enter e .ipConfig)).trans (Frame.enter _ .activated)
  sound := by
    refine ⟨rfl, ?_, ?_⟩
    · show e.managed = false ↔ _
      simp [hManaged]
    · show ((e.enter .ipConfig).enter .activated).hardware.InStep .activated
      rw [enter_hardware rfl, enter_hardware rfl]
      exact hHardware
  own := by
    intro x hx
    simp only [List.mem_cons, List.not_mem_nil, or_false] at hx
    rcases hx with rfl | rfl <;> exact hFrame.id
  last := rfl
  active _ := by
    refine ⟨hActive, fun s hs => ?_⟩
    simp only [entered, List.filterMap_cons, DeviceEvent.entered?, List.filterMap_nil,
      List.mem_cons, List.not_mem_nil, or_false] at hs
    rcases hs with rfl | rfl <;> rfl
  asked h := by cases h
  waits h := by cases h
  noLink := by simp [DeviceEvent.linkNews?, DeviceState.isActive, DeviceState.isActivating]

/-- A stage that failed takes an active device out of its activation. -/
theorem failure_carries {d e : Device} (reason : StateReason) (hListen : d.AllListen)
    (hFrame : Frame d e) (hManaged : e.managed = true) (hActive : e.state.isActive = true) :
    Carries d { e.moveTo .failed reason with error := none } := by
  have hMove : e.state.canMove .failed = true := by
    revert hActive
    cases e.state <;> decide
  have hFailed := moveTo_idle_carries reason hListen hFrame
    (fun h => by rw [hActive] at h; cases h) hMove rfl rfl (by simp [hManaged])
  exact hFailed.of_error none

/-- An active device is managed. -/
theorem Sound.managed_of_isActive {d : Device} (h : d.Sound) (hActive : d.state.isActive = true) :
    d.managed = true := by
  rw [← Bool.not_eq_false]
  intro hManaged
  rw [h.managed.mp hManaged] at hActive
  cases hActive

/-- A link that is up is all that a device needs, or a PIN is missing. -/
theorem afterLinkUp_cases (c : Connection) (profile : BluetoothProfile) :
    Hardware.afterLinkUp c profile = .success ∨
      ∃ need, Hardware.afterLinkUp c profile = .needSecrets need := by
  cases profile with
  | panu => exact Or.inl rfl
  | dun =>
    unfold Hardware.afterLinkUp
    dsimp only
    split <;> split <;> first | exact Or.inl rfl | exact Or.inr ⟨_, rfl⟩

/-- A stage that needs secrets asks for them once the device waits for them. -/
theorem runStages_needSecrets {e : Device} (now : Nat) (c : Connection) (need : SecretsNeed)
    (hListen : e.AllListen) (hMove : e.state.canMove .needAuth = true) :
    e.runStages now c (.needSecrets need) =
      { device := e.enter .needAuth
        events := [.stateChanged e.id .needAuth e.state .none, .needSecrets e.id need]
        error := none } := by
  unfold runStages
  simp only [followStages]
  rw [moveTo_eq hListen _ hMove]
  simp only [Option.isSome_none, Bool.false_eq_true, if_false, Update.andThen]
  rw [announce_eq (hListen.enter _)]
  rfl

theorem runStages_failure {e : Device} (now : Nat) (c : Connection) (reason : StateReason)
    (hListen : e.AllListen) (hMove : e.state.canMove .failed = true) :
    e.runStages now c (.failure reason) =
      { device := e.enter .failed, events := [.stateChanged e.id .failed e.state reason]
        error := none } := by
  unfold runStages
  simp only [followStages]
  rw [moveTo_eq hListen _ hMove]

/-- A bluetooth device whose link came up goes on to its end or asks for secrets. -/
theorem linkUp_carries {d e : Device} (now : Nat) (c : Connection) (profile : BluetoothProfile)
    (hListen : d.AllListen) (hFrame : Frame d e) (hState : d.state = .config)
    (hOld : e.state = d.state) (hManaged : e.managed = true)
    (hHardware : ∀ s, s = .needAuth ∨ s = .activated → e.hardware.InStep s) :
    Carries d (e.runStages now c (Hardware.afterLinkUp c profile)) := by
  have hListen' := hFrame.allListen hListen
  have hActive : d.state.isActive = true := by rw [hState]; rfl
  have hSuccess : Carries d (e.runStages now c .success) := by
    unfold runStages
    rw [followStages_success now c 1 hListen' (Or.inl (hOld.trans hState))]
    refine ⟨moves_activated hFrame hActive hManaged (hHardware _ (Or.inr rfl)), fun h => ?_⟩
    rw [hState] at h
    cases h
  have hSecrets : ∀ need, Carries d (e.runStages now c (.needSecrets need)) := by
    intro need
    rw [runStages_needSecrets now c need hListen' (by rw [hOld, hState]; rfl)]
    have hSound : (e.enter .needAuth).Sound := by
      refine ⟨rfl, ?_, ?_⟩
      · show e.managed = false ↔ _
        simp [hManaged]
      · show (e.enter .needAuth).hardware.InStep .needAuth
        rw [enter_hardware rfl]
        exact hHardware _ (Or.inl rfl)
    exact
      { frame := hFrame.trans (Frame.enter e .needAuth)
        sound := hSound
        own := fun x hx => by
          simp only [List.mem_cons, List.not_mem_nil, or_false] at hx
          rcases hx with rfl | rfl <;> exact hFrame.id
        last := rfl
        active := fun _ => by
          refine ⟨hActive, fun s hs => ?_⟩
          simp only [entered, List.filterMap_cons, DeviceEvent.entered?, List.filterMap_nil,
            List.mem_cons, List.not_mem_nil, or_false] at hs
          rw [hs]
          rfl
        asked := fun _ => Or.inr rfl
        waits := fun _ => Or.inl rfl
        noLink := by simp [DeviceEvent.linkNews?, DeviceState.isActive, DeviceState.isActivating]
        needAuth := fun _ => Or.inl rfl }
  rcases afterLinkUp_cases c profile with h | ⟨need, h⟩ <;> rw [h]
  · exact hSuccess
  · exact hSecrets need

/-- The link of a bluetooth device may change without any change of the device. -/
theorem Frame.link {d : Device} {radio : BluetoothRadio} (hKind : d.hardware = .bluetooth radio)
    (link : LinkState) : Frame d { d with hardware := .bluetooth { radio with link } } := by
  refine ⟨rfl, rfl, rfl, rfl, fun c => ?_, ?_⟩
  · unfold Device.check
    rw [hKind]
    rfl
  · unfold Device.hasLink Device.type
    rw [hKind]
    rfl

theorem linkChanged_carries {d : Device} (now : Nat) (c : Connection) (up : Bool)
    (hListen : d.AllListen) (hSound : d.Sound) : Carries d (d.linkChanged now c up) := by
  cases hActive : d.state.isActive with
  | false =>
    unfold linkChanged
    rw [hActive]
    exact Carries.unchanged hSound
  | true =>
    have hManaged := hSound.managed_of_isActive hActive
    have hHardware := hSound.hardware
    have hSame : ∀ h, d.hardware = h →
        Carries d (({ d with hardware := h } : Device).runStages now c .postpone) := by
      rintro h rfl
      exact Carries.unchanged hSound
    unfold linkChanged
    rw [hActive, Bool.not_true, if_neg Bool.false_ne_true]
    cases hKind : d.hardware with
    | hidraw node => exact hSame _ hKind
    | serial line => exact hSame _ hKind
    | bluetooth radio =>
      rw [hKind] at hHardware
      change radio.link.InStep d.state at hHardware
      have hFrame := Frame.link hKind
      obtain ⟨address, name, profiles, connectTimeout, link⟩ := radio
      cases link with
      | idle =>
        rw [show d.state.isActive = false from hHardware] at hActive
        cases hActive
      | connecting deadline profile =>
        cases up with
        | true =>
          exact linkUp_carries now c profile hListen (hFrame (.up profile)) hHardware rfl hManaged
            fun _ hs => hs
        | false => exact failure_carries _ hListen (hFrame .idle) hManaged hActive
      | up profile =>
        cases up with
        | true => exact hSame _ hKind
        | false => exact failure_carries _ hListen (hFrame .idle) hManaged hActive

theorem pollDeadline_carries {d : Device} (now : Nat) (hListen : d.AllListen) (hSound : d.Sound) :
    Carries d (d.pollDeadline now) := by
  have hSame : ∀ h, d.hardware = h →
      Carries d ({ d with hardware := h } : Device).unchanged := by
    rintro h rfl
    exact Carries.unchanged hSound
  have hHardware := hSound.hardware
  unfold pollDeadline
  cases hKind : d.hardware with
  | hidraw node => exact hSame _ hKind
  | serial line => exact hSame _ hKind
  | bluetooth radio =>
    rw [hKind] at hHardware
    change radio.link.InStep d.state at hHardware
    have hFrame := Frame.link hKind
    obtain ⟨address, name, profiles, connectTimeout, link⟩ := radio
    cases link with
    | idle => exact hSame _ hKind
    | up profile => exact hSame _ hKind
    | connecting deadline profile =>
      have hActive : d.state.isActive = true := by
        rw [show d.state = .config from hHardware]
        rfl
      unfold Hardware.deadlineExpired
      dsimp only
      by_cases hLate : deadline ≤ now
      · simp only [if_pos hLate, if_pos hActive]
        exact failure_carries _ hListen (hFrame .idle) (hSound.managed_of_isActive hActive) hActive
      · simp only [if_neg hLate]
        exact hSame _ hKind

-- ---------------------------------------------------------------------------
-- Secrets
-- ---------------------------------------------------------------------------

/-- A bluetooth device that got secrets has all that it needs, or it fails. -/
theorem secretsUpdated_cases (radio : BluetoothRadio) (c : Connection) (setting : String) :
    (Hardware.bluetooth radio).secretsUpdated c setting = .success ∨
      ∃ reason, (Hardware.bluetooth radio).secretsUpdated c setting = .failure reason := by
  unfold Hardware.secretsUpdated
  dsimp only
  split
  · exact Or.inr ⟨_, rfl⟩
  · split
    · exact Or.inr ⟨_, rfl⟩
    · rename_i profile _
      rcases afterLinkUp_cases c profile with h | ⟨need, h⟩ <;> rw [h]
      · exact Or.inl rfl
      · exact Or.inr ⟨_, rfl⟩

/-- Secrets take a device out of the state `needAuth`, and it asks for no others. -/
theorem secretsUpdated_moves {d : Device} (now : Nat) (c : Connection) (setting : String)
    (hListen : d.AllListen) (hSound : d.Sound) :
    Moves d (d.secretsUpdated now c setting) ∧
      (d.secretsUpdated now c setting).device.state ≠ .needAuth ∧
      asks (d.secretsUpdated now c setting).events = false := by
  unfold secretsUpdated
  split
  · rename_i hState
    exact ⟨(Carries.unchanged hSound).toMoves, hState, rfl⟩
  · rename_i hState
    rw [Decidable.not_not] at hState
    have hActive : d.state.isActive = true := by rw [hState]; rfl
    have hManaged := hSound.managed_of_isActive hActive
    have hHardware := hSound.hardware
    rw [hState] at hHardware
    cases hKind : d.hardware with
    | hidraw node =>
      rw [hKind] at hHardware
      exact absurd rfl hHardware.2
    | serial line =>
      rw [hKind] at hHardware
      exact absurd rfl hHardware.2
    | bluetooth radio =>
      rw [hKind] at hHardware
      change radio.link.InStep .needAuth at hHardware
      unfold runStages
      rcases secretsUpdated_cases radio c setting with h | ⟨reason, h⟩ <;> rw [h]
      · rw [followStages_success now c 1 hListen (Or.inr hState)]
        have hUp : d.hardware.InStep .activated := by
          rw [hKind]
          change radio.link.InStep .activated
          cases hLink : radio.link with
          | idle =>
            rw [hLink] at hHardware
            cases hHardware
          | connecting deadline profile =>
            rw [hLink] at hHardware
            cases hHardware
          | up profile => exact Or.inr rfl
        exact ⟨moves_activated (Frame.refl d) hActive hManaged hUp, nofun, rfl⟩
      · have hMove : d.state.canMove .failed = true := by rw [hState]; rfl
        have hFailed := failure_carries reason hListen (Frame.refl d) hManaged hActive
        simp only [followStages]
        rw [moveTo_eq hListen reason hMove] at hFailed ⊢
        exact ⟨hFailed.toMoves, nofun, rfl⟩

-- ---------------------------------------------------------------------------
-- The start of an activation
-- ---------------------------------------------------------------------------

/-- What the start of an activation does to a device. -/
structure Starts (d : Device) (u : Update) : Prop where
  accepted : u.error = none
  frame : Frame d u.device
  sound : u.device.Sound
  own : ∀ e ∈ u.events, e.device = d.id
  last : (entered u.events).getLastD d.state = u.device.state
  rests : u.device.state = .config ∨ u.device.state = .activated
  active : ∀ s ∈ entered u.events, s.isActive = true
  asksNot : asks u.events = false
  /-- The link is asked for once. -/
  link : d.hasLink = true → linkNews u.events = [true]

/-- What follows the config stage of an activation that has just begun. -/
def configured (d : Device) (now : Nat) (c : Connection) (n : Nat) : Update :=
  followStages now c n
    { d.enter .config with hardware := (d.hardware.configStage now c).1 }
    (d.hardware.configStage now c).2

/-- The first stage of an activation leads to the stage that depends on the hardware. -/
theorem followStages_prepare {d : Device} (now : Nat) (c : Connection) (n : Nat)
    (hListen : d.AllListen) (hState : d.state = .prepare) :
    followStages now c (n + 1) d .success =
      { configured d now c n with
        events := .stateChanged d.id .config .prepare .none :: (configured d now c n).events } := by
  have hMove : d.state.canMove .config = true := by rw [hState]; rfl
  have hHardware : (d.enter .config).hardware = d.hardware := enter_hardware rfl
  rw [followStages]
  simp only [hState, nextStage?]
  rw [moveTo_eq hListen _ hMove, hState]
  simp only [Option.isSome_none, Bool.false_eq_true, if_false, Update.andThen, runStage,
    enter_state, hHardware]
  rfl

/-- The device with its first stage entered. -/
def prepared (d : Device) : Device :=
  ({ d with activationScheduled := false } : Device).enter .prepare

/-- The first two events of every activation. -/
def startEvents (id : Nat) : List DeviceEvent :=
  [.stateChanged id .prepare .disconnected .none, .stateChanged id .config .prepare .none]

theorem activate_eq {d : Device} (now : Nat) (c : Connection) (hListen : d.AllListen)
    (hState : d.state = .disconnected) (hCheck : d.check c = .ok ()) :
    d.activate now c =
      { configured d.prepared now c 2 with
        events := startEvents d.id ++ (configured d.prepared now c 2).events } := by
  have hListen' : ({ d with activationScheduled := false } : Device).AllListen := hListen
  have hState' : ({ d with activationScheduled := false } : Device).state = .disconnected := hState
  have hId : ({ d with activationScheduled := false } : Device).id = d.id := rfl
  rw [activate_of_fit now hState hCheck]
  unfold prepared
  generalize ({ d with activationScheduled := false } : Device) = e at *
  have hMove : e.state.canMove .prepare = true := by rw [hState']; rfl
  rw [moveTo_eq hListen' _ hMove]
  unfold Update.andThen runStages
  dsimp only
  rw [if_neg (by simp), followStages_prepare now c 2 (hListen'.enter .prepare) rfl, hState', ← hId]
  rfl

/-- What is left of an activation, after the config stage, to start well. -/
structure Continues (d : Device) (u : Update) : Prop where
  accepted : u.error = none
  frame : Frame d u.device
  sound : u.device.Sound
  own : ∀ e ∈ u.events, e.device = d.id
  last : (entered u.events).getLastD .config = u.device.state
  rests : u.device.state = .config ∨ u.device.state = .activated
  active : ∀ s ∈ entered u.events, s.isActive = true
  asksNot : asks u.events = false
  link : d.hasLink = true → linkNews u.events = [true]

/-- A device that does not wait for a link goes on to its end. -/
theorem continues_activated {d e : Device} (now : Nat) (c : Connection) (hListen : d.AllListen)
    (hFrame : Frame d e) (hState : e.state = .config) (hManaged : e.managed = true)
    (hHardware : e.hardware.InStep .activated) (hLink : d.hasLink = false) :
    Continues d (followStages now c 2 e .success) := by
  have hMoves := moves_activated (Frame.refl e) (by rw [hState]; rfl) hManaged hHardware
  rw [followStages_success now c 0 (hFrame.allListen hListen) (Or.inl hState)]
  exact
    { accepted := rfl
      frame := hFrame.trans hMoves.frame
      sound := hMoves.sound
      own := fun x hx => (hMoves.own x hx).trans hFrame.id
      last := rfl
      rests := Or.inr rfl
      active := (hMoves.active rfl).2
      asksNot := rfl
      link := fun h => by rw [hLink] at h; cases h }

/-- A connection that fits a bluetooth device has an acceptable bluetooth setting. -/
theorem bluetooth_of_check {identity : DeviceIdentity} {radio : BluetoothRadio} {c : Connection}
    (hCheck : (Hardware.bluetooth radio).check identity c = .ok ()) :
    ∃ setting, c.bluetooth? = some (.ok setting) := by
  unfold Hardware.check at hCheck
  split at hCheck
  · cases hCheck
  · unfold Hardware.checkSetting Hardware.requireSetting at hCheck
    cases hSetting : c.bluetooth? with
    | none => simp [hSetting] at hCheck
    | some view =>
      cases view with
      | error e => simp [hSetting] at hCheck
      | ok setting => exact ⟨setting, rfl⟩

/-- A connection that fits a serial device has an acceptable serial setting. -/
theorem serial_of_check {identity : DeviceIdentity} {line : Option SerialSetting} {c : Connection}
    (hCheck : (Hardware.serial line).check identity c = .ok ()) :
    ∃ setting, c.serial? = some (.ok setting) := by
  unfold Hardware.check at hCheck
  split at hCheck
  · cases hCheck
  · unfold Hardware.checkSetting Hardware.requireSetting at hCheck
    cases hSetting : c.serial? with
    | none => simp [hSetting, Except.map] at hCheck
    | some view =>
      cases view with
      | error e => simp [hSetting, Except.map] at hCheck
      | ok setting => exact ⟨setting, rfl⟩

/-- A device in the config stage, with hardware that fits the same connections. -/
theorem Frame.configStage {d : Device} {h k : Hardware} (hKind : d.hardware = h)
    (hCheck : ∀ c, k.check d.identity c = h.check d.identity c) (hType : k.type = h.type) :
    Frame d { d.enter .config with hardware := k } := by
  refine ⟨rfl, rfl, rfl, rfl, fun c => ?_, ?_⟩
  · unfold Device.check
    rw [hKind]
    exact hCheck c
  · unfold Device.hasLink Device.type
    rw [hKind]
    show (k.type == _) = _
    rw [hType]

theorem configured_continues {d : Device} (now : Nat) (c : Connection) (hListen : d.AllListen)
    (hManaged : d.managed = true) (hCheck : d.check c = .ok ()) :
    Continues d (configured d now c 2) := by
  have hInStep : (DeviceState.activated ≠ .config) ∧ DeviceState.activated ≠ .needAuth := by decide
  unfold Device.check at hCheck
  unfold configured
  cases hKind : d.hardware with
  | hidraw node =>
    have hLink : d.hasLink = false := by
      unfold Device.hasLink Device.type
      rw [hKind]
      rfl
    exact continues_activated now c hListen
      (Frame.configStage (k := .hidraw node) hKind (fun _ => rfl) rfl) rfl hManaged hInStep hLink
  | serial line =>
    have hLink : d.hasLink = false := by
      unfold Device.hasLink Device.type
      rw [hKind]
      rfl
    rw [hKind] at hCheck
    obtain ⟨setting, hSetting⟩ := serial_of_check hCheck
    unfold Hardware.configStage
    rw [hSetting]
    exact continues_activated now c hListen
      (Frame.configStage (k := .serial (some setting)) hKind (fun _ => rfl) rfl) rfl hManaged
      hInStep hLink
  | bluetooth radio =>
    rw [hKind] at hCheck
    obtain ⟨setting, hSetting⟩ := bluetooth_of_check hCheck
    have hManaged' : (d.enter .config).managed = true := hManaged
    have hFrame := Frame.configStage (k := .bluetooth { radio with
      link := .connecting (now + radio.connectTimeout) setting.profile }) hKind (fun _ => rfl) rfl
    unfold Hardware.configStage
    rw [hSetting]
    simp only [followStages]
    rw [announce_eq (hFrame.allListen hListen)]
    exact
      { accepted := rfl
        frame := hFrame
        sound := ⟨rfl, by simp [hManaged'], rfl⟩
        own := fun x hx => by rw [List.mem_singleton.mp hx]; rfl
        last := rfl
        rests := Or.inl rfl
        active := nofun
        asksNot := rfl
        link := fun _ => rfl }

/-- An activation that fits starts on every managed device. -/
theorem starts_of_managed {d : Device} (now : Nat) (c : Connection) (hListen : d.AllListen)
    (hManaged : d.managed = true) (hState : d.state = .disconnected) (hCheck : d.check c = .ok ()) :
    Starts d (d.activate now c) := by
  have hFrame : Frame d d.prepared :=
    Frame.trans (e := { d with activationScheduled := false }) ⟨rfl, rfl, rfl, rfl, fun _ => rfl, rfl⟩
      (Frame.enter _ .prepare)
  have h := configured_continues (d := d.prepared) now c (hFrame.allListen hListen) hManaged
    ((hFrame.check c).trans hCheck)
  rw [activate_eq now c hListen hState hCheck]
  exact
    { accepted := h.accepted
      frame := hFrame.trans h.frame
      sound := h.sound
      own := by
        intro e he
        rcases List.mem_append.mp he with he | he
        · simp only [startEvents, List.mem_cons, List.not_mem_nil, or_false] at he
          rcases he with rfl | rfl <;> rfl
        · exact h.own e he
      last := by
        rw [← h.last, entered_append, getLastD_append]
        rfl
      rests := h.rests
      active := by
        intro s hs
        rw [entered_append] at hs
        rcases List.mem_append.mp hs with hs | hs
        · simp only [entered, startEvents, List.filterMap_cons, DeviceEvent.entered?,
            List.filterMap_nil, List.mem_cons, List.not_mem_nil, or_false] at hs
          rcases hs with rfl | rfl <;> rfl
        · exact h.active s hs
      asksNot := by
        rw [asks_append, h.asksNot]
        rfl
      link := by
        intro hLink
        rw [linkNews_append, h.link (hFrame.hasLink.trans hLink)]
        rfl }

/-- An activation that fits starts. -/
theorem activate_starts {d : Device} (now : Nat) (c : Connection) (hListen : d.AllListen)
    (hSound : d.Sound) (hState : d.state = .disconnected) (hCheck : d.check c = .ok ()) :
    Starts d (d.activate now c) := by
  refine starts_of_managed now c hListen ?_ hState hCheck
  rw [← Bool.not_eq_false]
  intro h
  have hUnmanaged := hSound.managed.mp h
  rw [hState] at hUnmanaged
  cases hUnmanaged

end ScannerHub.Device
