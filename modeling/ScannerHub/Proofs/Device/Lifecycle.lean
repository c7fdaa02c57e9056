import ScannerHub.Device.Pipeline

/-!
# The life of a device

What every operation on a device preserves. Between two operations a device is never inside a
stage that ends by itself, its hardware is in step with its state, and it is managed exactly when
it left the state `unmanaged`. What an operation tells the subscribers leads from the state before
to the state after.

* `Device.Sound` — the invariant;
* `Device.Frame` — what no operation changes;
* `Device.Moves` — what every operation does that starts no activation;
* `Device.Carries` — what those do that bring no secrets.

## Results

* `Carries.andThen` — operations one after the other;
* `moveTo_idle_carries` — a move to an idle state;
* `setManaged_carries`, `setFirmwareMissing_carries`, `deactivate_carries`, `failAuth_carries`,
  `moveTo_failed_carries`, `moveTo_disconnected_carries` — a sound device stays sound;
* `activate_of_busy`, `activate_of_misfit`, `activate_of_fit` — how an activation starts.
-/

namespace ScannerHub

-- ---------------------------------------------------------------------------
-- Trails of events
-- ---------------------------------------------------------------------------

namespace DeviceEvent

/-- The state that a device entered, if the event tells of one. -/
def entered? : DeviceEvent → Option DeviceState
  | stateChanged _ new _ _ => some new
  | _ => none

/-- Whether a device asks for secrets. -/
def asks : DeviceEvent → Bool
  | needSecrets _ _ => true
  | _ => false

/-- What an event says about the link of the device: that it is wanted, or that it is not wanted
any more. -/
def linkNews? : DeviceEvent → Option Bool
  | linkRequested _ _ => some true
  | stateChanged _ new _ _ => if new.isActive then none else some false
  | needSecrets _ _ => none

end DeviceEvent

/-- The states that events tell of, in their order. -/
def entered (events : List DeviceEvent) : List DeviceState := events.filterMap DeviceEvent.entered?

/-- Whether one of several events asks for secrets. -/
def asks (events : List DeviceEvent) : Bool := events.any DeviceEvent.asks

/-- What events say about the link of their device, in their order. -/
def linkNews (events : List DeviceEvent) : List Bool := events.filterMap DeviceEvent.linkNews?

@[simp]
theorem entered_append (es fs : List DeviceEvent) : entered (es ++ fs) = entered es ++ entered fs :=
  List.filterMap_append

@[simp]
theorem asks_append (es fs : List DeviceEvent) : asks (es ++ fs) = (asks es || asks fs) :=
  List.any_append

theorem asks_cons (e : DeviceEvent) (es : List DeviceEvent) : asks (e :: es) = (e.asks || asks es) :=
  rfl

@[simp]
theorem linkNews_append (es fs : List DeviceEvent) :
    linkNews (es ++ fs) = linkNews es ++ linkNews fs :=
  List.filterMap_append

/-- The last entry of a list that goes on, or the one before all of them. -/
theorem getLastD_append {α : Type} (xs ys : List α) (a : α) :
    (xs ++ ys).getLastD a = ys.getLastD (xs.getLastD a) := by
  cases hLast : ys.getLast? <;> simp [List.getLast?_append, hLast]

/-- Events of an activation that goes on, without a wish for a link, are no news about it. -/
theorem linkNews_eq_nil {es : List DeviceEvent} (hLink : some true ∉ es.map DeviceEvent.linkNews?)
    (hActive : ∀ s ∈ entered es, s.isActive = true) : linkNews es = [] := by
  unfold linkNews
  rw [List.filterMap_eq_nil_iff]
  intro e he
  cases e with
  | stateChanged id new old reason =>
    have h : new.isActive = true := hActive new (List.mem_filterMap.mpr ⟨_, he, rfl⟩)
    simp only [DeviceEvent.linkNews?, h, if_true]
  | needSecrets id need => rfl
  | linkRequested id request => exact absurd (List.mem_map.mpr ⟨_, he, rfl⟩) hLink

-- ---------------------------------------------------------------------------
-- The invariant
-- ---------------------------------------------------------------------------

namespace DeviceState

/-- The states in which a device may stay. The others of the pipeline end by themselves, and a
failure leads back to where the device can be used again. -/
def isSteady : DeviceState → Bool
  | unmanaged | unavailable | disconnected | config | needAuth | activated => true
  | unknown | prepare | ipConfig | failed => false

/-- The states in which an operation on a device may stop. -/
def isStop (s : DeviceState) : Bool := s.isSteady || s == failed

/-- The states that a device leaves only when it is told to. -/
def isResting (s : DeviceState) : Bool := s == disconnected || s == unmanaged

/-- Neither a failure nor a wait for secrets that is given up moves a device that rests. -/
theorem isResting_cases {s : DeviceState} (h : s.isResting = true) :
    s.canMove .disconnected = false ∧ s ≠ .needAuth := by
  revert h
  cases s <;> decide

/-- No state is a successor of itself. -/
theorem ne_of_canMove {s t : DeviceState} (h : s.canMove t = true) : s ≠ t := by
  rintro rfl
  revert h
  cases s <;> decide

end DeviceState

/-- The link is in step with the state: it is on its way exactly in the state `config`, and up
exactly in the two states that need it. -/
def LinkState.InStep (s : DeviceState) : LinkState → Prop
  | idle => s.isActive = false
  | connecting _ _ => s = .config
  | up _ => s = .needAuth ∨ s = .activated

/-- The hardware is in step with the state. Only bluetooth ever waits. -/
def Hardware.InStep (s : DeviceState) : Hardware → Prop
  | bluetooth radio => radio.link.InStep s
  | hidraw _ | serial _ => s ≠ .config ∧ s ≠ .needAuth

/-- Hardware that was never used. -/
def Hardware.IsUnused : Hardware → Prop
  | bluetooth radio => radio.link = .idle
  | serial line => line = none
  | hidraw _ => True

/-- Hardware of an idle device is in step with every idle state. -/
theorem Hardware.InStep.idle {h : Hardware} {s t : DeviceState} (hStep : h.InStep s)
    (hs : s.isActive = false) (ht : t.isActive = false) : h.InStep t := by
  have hNe : t ≠ .config ∧ t ≠ .needAuth := by
    constructor <;> (rintro rfl; cases ht)
  cases h with
  | bluetooth radio =>
    change radio.link.InStep s at hStep
    change radio.link.InStep t
    cases hLink : radio.link with
    | idle => exact ht
    | connecting deadline profile =>
      rw [hLink] at hStep
      cases hStep
      cases hs
    | up profile =>
      rw [hLink] at hStep
      rcases hStep with rfl | rfl <;> cases hs
  | hidraw node => exact hNe
  | serial line => exact hNe

/-- Hardware that dropped its activation is in step with every idle state. -/
theorem Hardware.inStep_deactivate (h : Hardware) {t : DeviceState} (ht : t.isActive = false) :
    h.deactivate.InStep t := by
  have hNe : t ≠ .config ∧ t ≠ .needAuth := by
    constructor <;> (rintro rfl; cases ht)
  cases h with
  | bluetooth radio => exact ht
  | hidraw node => exact hNe
  | serial line => exact hNe

namespace Device

/-- The invariant of a device between two operations. -/
structure Sound (d : Device) : Prop where
  stop : d.state.isStop = true
  managed : d.managed = false ↔ d.state = .unmanaged
  hardware : d.hardware.InStep d.state

/-- No subscriber of the device is gone. -/
def AllListen (d : Device) : Prop := ∀ s ∈ d.subscribers, s.closed = false

/-- Whether the device has a link. -/
def hasLink (d : Device) : Bool := d.type == .bluetooth

/-- When a device is free for an automatic activation. -/
theorem autoconnectAllowed_iff (d : Device) : d.autoconnectAllowed = true ↔
    d.managed = true ∧ d.autoconnectInhibited = false ∧ d.state = .disconnected ∧
      d.firmwareMissing = false := by
  unfold autoconnectAllowed isAvailable Hardware.isAvailable
  simp only [Bool.and_eq_true, Bool.not_eq_true', beq_iff_eq, and_true, and_assoc]

/-- One device at two times: what no operation changes. Which connections fit is a matter of what
never changes. -/
structure Frame (d e : Device) : Prop where
  id : e.id = d.id
  identity : e.identity = d.identity
  subscribers : e.subscribers = d.subscribers
  nextSubscription : e.nextSubscription = d.nextSubscription
  check : ∀ c, e.check c = d.check c
  hasLink : e.hasLink = d.hasLink

theorem Frame.refl (d : Device) : Frame d d := ⟨rfl, rfl, rfl, rfl, fun _ => rfl, rfl⟩

theorem Frame.trans {d e f : Device} (h : Frame d e) (h' : Frame e f) : Frame d f :=
  ⟨h'.id.trans h.id, h'.identity.trans h.identity, h'.subscribers.trans h.subscribers,
   h'.nextSubscription.trans h.nextSubscription, fun c => (h'.check c).trans (h.check c),
   h'.hasLink.trans h.hasLink⟩

theorem Frame.allListen {d e : Device} (h : Frame d e) (hd : d.AllListen) : e.AllListen := by
  unfold AllListen
  rw [h.subscribers]
  exact hd

theorem Frame.udi {d e : Device} (h : Frame d e) : e.udi = d.udi := by
  unfold Device.udi
  rw [h.identity]

/-- What an operation does to a device that starts no activation. -/
structure Moves (d : Device) (u : Update) : Prop where
  frame : Frame d u.device
  sound : u.device.Sound
  own : ∀ e ∈ u.events, e.device = d.id
  last : (entered u.events).getLastD d.state = u.device.state
  /-- A device that is active afterwards was active all the time. -/
  active : u.device.state.isActive = true →
    d.state.isActive = true ∧ ∀ s ∈ entered u.events, s.isActive = true
  /-- A device that waits for secrets has asked for them. -/
  asked : u.device.state = .needAuth → d.state = .needAuth ∨ asks u.events = true
  waits : asks u.events = true → u.device.state = .needAuth ∨ u.device.state.isActive = false
  noLink : some true ∉ u.events.map DeviceEvent.linkNews?

/-- What an operation does to a device that starts no activation and brings no secrets: without
secrets no device gets past the state `needAuth`. -/
structure Carries (d : Device) (u : Update) : Prop extends Moves d u where
  needAuth : d.state = .needAuth →
    u.device.state = .needAuth ∨ u.device.state.isActive = false

-- ---------------------------------------------------------------------------
-- One operation after another
-- ---------------------------------------------------------------------------

/-- An operation that tells nothing and leaves all but the flags of a device. -/
theorem Moves.silent {d e : Device} (hFrame : Frame d e) (hState : e.state = d.state)
    (hSound : e.Sound) {error : Option Error} : Moves d { device := e, events := [], error } where
  frame := hFrame
  sound := hSound
  own := by simp
  last := hState.symm
  active h := ⟨hState ▸ h, by simp [entered]⟩
  asked h := Or.inl (hState ▸ h)
  waits h := by cases h
  noLink := by simp

theorem Carries.silent {d e : Device} (hFrame : Frame d e) (hState : e.state = d.state)
    (hSound : e.Sound) {error : Option Error} :
    Carries d { device := e, events := [], error } :=
  ⟨Moves.silent hFrame hState hSound, fun h => Or.inl (hState.trans h)⟩

theorem Carries.unchanged {d : Device} (hSound : d.Sound) : Carries d d.unchanged :=
  Carries.silent (Frame.refl d) rfl hSound

/-- Whether the operation was refused does not matter to what it did. -/
theorem Carries.of_error {d : Device} {u : Update} (h : Carries d u) (error : Option Error) :
    Carries d { u with error } :=
  ⟨⟨h.frame, h.sound, h.own, h.last, h.active, h.asked, h.waits, h.noLink⟩, h.needAuth⟩

theorem Carries.trans {d : Device} {u v : Update} (h : Carries d u) (h' : Carries u.device v) :
    Carries d { v with events := u.events ++ v.events } where
  frame := h.frame.trans h'.frame
  sound := h'.sound
  own := by
    intro e he
    rcases List.mem_append.mp he with he | he
    · exact h.own e he
    · exact (h'.own e he).trans h.frame.id
  last := by
    rw [entered_append, getLastD_append, h.last]
    exact h'.last
  active hActive := by
    obtain ⟨hMid, hLate⟩ := h'.active hActive
    obtain ⟨hStart, hEarly⟩ := h.active hMid
    refine ⟨hStart, fun s hs => ?_⟩
    rw [entered_append] at hs
    rcases List.mem_append.mp hs with hs | hs
    · exact hEarly s hs
    · exact hLate s hs
  asked hNeed := by
    rw [asks_append]
    rcases h'.asked hNeed with hMid | hAsks
    · rcases h.asked hMid with hStart | hAsks
      · exact Or.inl hStart
      · exact Or.inr (by simp [hAsks])
    · exact Or.inr (by simp [hAsks])
  waits hAsks := by
    rw [asks_append, Bool.or_eq_true] at hAsks
    rcases hAsks with hAsks | hAsks
    · rcases h.waits hAsks with hMid | hMid
      · exact h'.needAuth hMid
      · refine Or.inr (Bool.eq_false_iff.mpr fun hActive => ?_)
        rw [(h'.active hActive).1] at hMid
        cases hMid
    · exact h'.waits hAsks
  noLink := by
    rw [List.map_append, List.mem_append]
    exact fun hMem => hMem.elim h.noLink h'.noLink
  needAuth hNeed := by
    rcases h.needAuth hNeed with hMid | hMid
    · exact h'.needAuth hMid
    · refine Or.inr (Bool.eq_false_iff.mpr fun hActive => ?_)
      rw [(h'.active hActive).1] at hMid
      cases hMid

/-- An operation on a device with other flags. -/
theorem Carries.of_flags {d e : Device} {u : Update} (hFrame : Frame d e) (hState : e.state = d.state)
    (hSound : e.Sound) (h : Carries e u) : Carries d u :=
  Carries.trans (u := { device := e, events := [], error := none })
    (Carries.silent hFrame hState hSound) h

theorem Carries.andThen {d : Device} {u : Update} {next : Device → Update} (h : Carries d u)
    (h' : Carries u.device (next u.device)) : Carries d (u.andThen next) := by
  unfold Update.andThen
  split
  · exact h
  · exact h.trans h'

-- ---------------------------------------------------------------------------
-- Moves
-- ---------------------------------------------------------------------------

theorem AllListen.filter_eq {d : Device} (h : d.AllListen) :
    (d.subscribers.filter fun s => !s.closed) = d.subscribers := by
  rw [List.filter_eq_self]
  intro s hs
  rw [h s hs]
  rfl

/-- An event reaches the subscribers and leaves the device as it is. -/
theorem announce_eq {d : Device} (h : d.AllListen) (event : DeviceEvent) :
    d.announce event = { device := d, events := [event], error := none } := by
  unfold announce
  rw [h.filter_eq]

/-- The device once it has entered another state. -/
def enter (d : Device) (new : DeviceState) : Device :=
  { d with
    state := new
    hardware := if d.state.isActive && !new.isActive then d.hardware.deactivate else d.hardware }

@[simp]
theorem enter_state (d : Device) (new : DeviceState) : (d.enter new).state = new := rfl

/-- Moves inside an activation keep the hardware as it is. -/
theorem enter_hardware {d : Device} {new : DeviceState} (h : new.isActive = true) :
    (d.enter new).hardware = d.hardware := by
  unfold enter
  simp only [h, Bool.not_true, Bool.and_false, Bool.false_eq_true, if_false]

theorem AllListen.enter {d : Device} (h : d.AllListen) (new : DeviceState) :
    (d.enter new).AllListen := h

/-- A move along an edge of the state machine, whoever listens. -/
theorem moveTo_of_canMove {d : Device} {new : DeviceState} (reason : StateReason)
    (hMove : d.state.canMove new = true) :
    d.moveTo new reason = (d.enter new).announce (.stateChanged d.id new d.state reason) := by
  unfold moveTo
  rw [if_neg (DeviceState.ne_of_canMove hMove), if_pos hMove]
  rfl

/-- A move along an edge of the state machine. -/
theorem moveTo_eq {d : Device} (h : d.AllListen) {new : DeviceState} (reason : StateReason)
    (hMove : d.state.canMove new = true) :
    d.moveTo new reason =
      { device := d.enter new, events := [.stateChanged d.id new d.state reason]
        error := none } :=
  (moveTo_of_canMove reason hMove).trans (announce_eq (h.enter new) _)

/-- A device that may not move stays as it is. -/
theorem moveTo_refused {d : Device} {new : DeviceState} (reason : StateReason)
    (hMove : d.state.canMove new = false) :
    ∃ error, d.moveTo new reason = { device := d, events := [], error } := by
  unfold moveTo
  split
  · exact ⟨none, rfl⟩
  · rw [if_neg (by simp only [hMove, Bool.false_eq_true, not_false_iff])]
    exact ⟨_, rfl⟩

/-- Hardware of another phase of an activation fits the same connections. -/
theorem check_deactivate (identity : DeviceIdentity) (h : Hardware) (c : Connection) :
    h.deactivate.check identity c = h.check identity c := by
  cases h <;> rfl

theorem Frame.enter (d : Device) (new : DeviceState) : Frame d (d.enter new) := by
  refine ⟨rfl, rfl, rfl, rfl, fun c => ?_, ?_⟩
  · unfold Device.check Device.enter
    dsimp only
    split
    · exact check_deactivate _ _ c
    · rfl
  · unfold Device.hasLink Device.type Device.enter
    dsimp only
    split
    · cases d.hardware <;> rfl
    · rfl

/-- A move to an idle state, with other flags of the device already set. -/
theorem moveTo_idle_carries {d e : Device} {new : DeviceState} (reason : StateReason)
    (hListen : d.AllListen) (hFrame : Frame d e)
    (hHardware : e.state.isActive = false → e.hardware.InStep e.state)
    (hMove : e.state.canMove new = true) (hIdle : new.isActive = false)
    (hStop : new.isStop = true) (hManaged : e.managed = false ↔ new = .unmanaged) :
    Carries d (e.moveTo new reason) := by
  rw [moveTo_eq (hFrame.allListen hListen) reason hMove]
  have hIn : (e.enter new).hardware.InStep new := by
    unfold Device.enter
    dsimp only
    split
    · exact e.hardware.inStep_deactivate hIdle
    · rename_i hActive
      have hOld : e.state.isActive = false := by simpa [hIdle] using hActive
      exact (hHardware hOld).idle hOld hIdle
  have hNeed : new ≠ .needAuth := by
    rintro rfl
    cases hIdle
  exact
    { frame := hFrame.trans (Frame.enter e new)
      sound := ⟨hStop, hManaged, hIn⟩
      own := fun x hx => by
        rw [List.mem_singleton.mp hx]
        exact hFrame.id
      last := rfl
      active := fun h => absurd h (by simp [hIdle])
      asked := fun h => absurd h hNeed
      waits := fun h => by cases h
      noLink := by simp [DeviceEvent.linkNews?, hIdle]
      needAuth := fun _ => Or.inr hIdle }

/-- A move of a sound device to an idle state, other than into and out of `unmanaged`. -/
theorem moveTo_carries {d e : Device} {new : DeviceState} (reason : StateReason)
    (hListen : d.AllListen) (hFrame : Frame d e) (hState : e.state = d.state) (hSound : e.Sound)
    (hIdle : new.isActive = false) (hStop : new.isStop = true) (hNew : new ≠ .unmanaged)
    (hOld : e.state.canMove new = true → e.state ≠ .unmanaged) :
    Carries d (e.moveTo new reason) := by
  cases hMove : e.state.canMove new with
  | false =>
    obtain ⟨error, hEq⟩ := moveTo_refused reason hMove
    rw [hEq]
    exact Carries.silent hFrame hState hSound
  | true =>
    refine moveTo_idle_carries reason hListen hFrame (fun _ => hSound.hardware) hMove hIdle hStop ?_
    exact ⟨fun h => absurd (hSound.managed.mp h) (hOld hMove), fun h => absurd h hNew⟩

theorem moveTo_disconnected_carries {d : Device} (reason : StateReason) (hListen : d.AllListen)
    (hSound : d.Sound) : Carries d (d.moveTo .disconnected reason) := by
  refine moveTo_carries reason hListen (Frame.refl d) rfl hSound rfl rfl (by decide) ?_
  intro hMove hState
  rw [hState] at hMove
  cases hMove

theorem moveTo_failed_carries {d : Device} (reason : StateReason) (hListen : d.AllListen)
    (hSound : d.Sound) : Carries d (d.moveTo .failed reason) := by
  refine moveTo_carries reason hListen (Frame.refl d) rfl hSound rfl rfl (by decide) ?_
  intro hMove hState
  rw [hState] at hMove
  cases hMove

-- ---------------------------------------------------------------------------
-- Operations outside the pipeline
-- ---------------------------------------------------------------------------

/-- Every stop of a device other than `unmanaged` leads there at once. -/
theorem canMove_unmanaged {s : DeviceState} (hStop : s.isStop = true) (hNe : s ≠ .unmanaged) :
    s.canMove .unmanaged = true := by
  revert hStop hNe
  cases s <;> decide

theorem setManaged_carries {d : Device} (managed : Bool) (reason : StateReason)
    (hListen : d.AllListen) (hSound : d.Sound) : Carries d (d.setManaged managed reason) := by
  unfold setManaged
  split
  · exact Carries.unchanged hSound
  · rename_i hNe
    split
    · rename_i hManaged
      have hOld : d.state = .unmanaged := hSound.managed.mp (by
        cases hd : d.managed with
        | false => rfl
        | true => exact absurd (hManaged.trans hd.symm) hNe)
      have hFirst : Carries d ({ d with managed }.moveTo .unavailable reason) := by
        refine moveTo_idle_carries reason hListen ⟨rfl, rfl, rfl, rfl, fun _ => rfl, rfl⟩
          (fun _ => hSound.hardware) ?_ rfl rfl ?_
        · show d.state.canMove .unavailable = true
          rw [hOld]
          rfl
        · simp [hManaged]
      refine hFirst.andThen ?_
      split
      · exact moveTo_disconnected_carries _ (hFirst.frame.allListen hListen) hFirst.sound
      · exact Carries.unchanged hFirst.sound
    · rename_i hManaged
      have hOld : d.state ≠ .unmanaged := fun h => by
        have hd := hSound.managed.mpr h
        rw [Bool.not_eq_true] at hManaged
        exact hNe (hManaged.trans hd.symm)
      refine moveTo_idle_carries reason hListen ⟨rfl, rfl, rfl, rfl, fun _ => rfl, rfl⟩
        (fun _ => hSound.hardware) (canMove_unmanaged hSound.stop hOld) rfl rfl ?_
      simpa using hManaged

theorem setFirmwareMissing_carries {d : Device} (missing : Bool) (hListen : d.AllListen)
    (hSound : d.Sound) : Carries d (d.setFirmwareMissing missing) := by
  have hSound' : Sound { d with firmwareMissing := missing } :=
    ⟨hSound.stop, hSound.managed, hSound.hardware⟩
  have hFrame : Frame d { d with firmwareMissing := missing } :=
    ⟨rfl, rfl, rfl, rfl, fun _ => rfl, rfl⟩
  unfold setFirmwareMissing
  split
  · exact Carries.unchanged hSound
  · dsimp only
    split
    · split
      · rename_i hOld
        refine moveTo_carries _ hListen hFrame rfl hSound' rfl rfl (by decide) fun _ => ?_
        rw [hOld]
        decide
      · exact Carries.silent hFrame rfl hSound'
    · split
      · rename_i hOld
        refine moveTo_carries _ hListen hFrame rfl hSound' rfl rfl (by decide) fun _ => ?_
        rw [hOld.1]
        decide
      · exact Carries.silent hFrame rfl hSound'

theorem deactivate_carries {d : Device} (reason : StateReason) (hListen : d.AllListen)
    (hSound : d.Sound) : Carries d (d.deactivate reason) := by
  have hSound' : Sound { d with activationScheduled := false } :=
    ⟨hSound.stop, hSound.managed, hSound.hardware⟩
  have hFrame : Frame d { d with activationScheduled := false } :=
    ⟨rfl, rfl, rfl, rfl, fun _ => rfl, rfl⟩
  unfold deactivate
  dsimp only
  split
  · refine moveTo_carries _ hListen hFrame rfl hSound' rfl rfl (by decide) fun _ hOld => ?_
    rename_i hActive
    rw [hOld] at hActive
    cases hActive
  · exact Carries.silent hFrame rfl hSound'

theorem failAuth_carries {d : Device} (hListen : d.AllListen) (hSound : d.Sound) :
    Carries d d.failAuth := by
  unfold failAuth
  split
  · exact moveTo_failed_carries _ hListen hSound
  · exact Carries.unchanged hSound

/-- A device that waited for secrets has failed. -/
theorem failAuth_eq {d : Device} (hListen : d.AllListen) (hState : d.state = .needAuth) :
    d.failAuth =
      { device := d.enter .failed, events := [.stateChanged d.id .failed .needAuth .noSecrets]
        error := none } := by
  have hMove : d.state.canMove .failed = true := by rw [hState]; rfl
  unfold failAuth
  rw [if_pos hState, moveTo_eq hListen _ hMove, hState]

theorem failAuth_unchanged {d : Device} (hState : d.state ≠ .needAuth) :
    d.failAuth = d.unchanged :=
  if_neg hState

theorem canMove_disconnected {s : DeviceState} (h : (s.isActive || s == .failed) = true) :
    s.canMove .disconnected = true := by
  revert h
  cases s <;> decide

/-- An activation that was broken off is over. -/
theorem deactivate_idle {d : Device} (reason : StateReason) (hListen : d.AllListen) :
    (d.deactivate reason).device.state.isActive = false := by
  unfold deactivate
  dsimp only
  split
  · rename_i hActive
    rw [moveTo_eq (d := { d with activationScheduled := false }) hListen reason
      (canMove_disconnected hActive)]
    rfl
  · rename_i hActive
    rw [Bool.not_eq_true, Bool.or_eq_false_iff] at hActive
    exact hActive.1

/-- A device that is not managed any more is not in use. -/
theorem setManaged_false_state {d : Device} (reason : StateReason) (hListen : d.AllListen)
    (hSound : d.Sound) : (d.setManaged false reason).device.state = .unmanaged := by
  unfold setManaged
  split
  · rename_i hManaged
    exact hSound.managed.mp hManaged.symm
  · rename_i hNe
    have hOld : d.state ≠ .unmanaged := fun h => hNe (hSound.managed.mpr h).symm
    rw [if_neg Bool.false_ne_true,
      moveTo_eq (d := { d with managed := false, activationScheduled := false }) hListen reason
        (canMove_unmanaged hSound.stop hOld)]
    rfl

/-- A managed device whose hardware is there is disconnected once its activation is broken off. -/
theorem deactivate_state {d : Device} (reason : StateReason) (hListen : d.AllListen)
    (hSound : d.Sound) (hOld : d.state ≠ .unmanaged ∧ d.state ≠ .unavailable) :
    (d.deactivate reason).device.state = .disconnected := by
  unfold deactivate
  dsimp only
  split
  · rename_i hActive
    rw [moveTo_eq (d := { d with activationScheduled := false }) hListen reason
      (canMove_disconnected hActive)]
    rfl
  · rename_i hActive
    have hStop := hSound.stop
    show d.state = .disconnected
    revert hActive hStop hOld
    cases d.state <;> decide

-- ---------------------------------------------------------------------------
-- The start of an activation
-- ---------------------------------------------------------------------------

/-- A device that is not free refuses an activation. -/
theorem activate_of_busy {d : Device} (now : Nat) (c : Connection) (hState : d.state ≠ .disconnected) :
    d.activate now c =
      { device := { d with activationScheduled := false }, events := []
        error := some (.deviceNotAvailable d.interface) } :=
  if_pos hState

/-- A device refuses an activation with a connection that does not fit. -/
theorem activate_of_misfit {d : Device} (now : Nat) {c : Connection} {e : Incompatibility}
    (hState : d.state = .disconnected) (hCheck : d.check c = .error e) :
    d.activate now c =
      { device := { d with activationScheduled := false }, events := []
        error := some (.connectionInvalid e.message) } := by
  unfold activate
  dsimp only
  rw [if_neg (not_not_intro hState),
    show ({ d with activationScheduled := false } : Device).check c = .error e from hCheck]

/-- A device that is free enters the pipeline with a connection that fits. -/
theorem activate_of_fit {d : Device} (now : Nat) {c : Connection} (hState : d.state = .disconnected)
    (hCheck : d.check c = .ok ()) :
    d.activate now c = (({ d with activationScheduled := false } : Device).moveTo .prepare .none).andThen
      fun d => d.runStages now c .success := by
  unfold activate
  dsimp only
  rw [if_neg (not_not_intro hState),
    show ({ d with activationScheduled := false } : Device).check c = .ok () from hCheck]

-- ---------------------------------------------------------------------------
-- New devices
-- ---------------------------------------------------------------------------

/-- A device as it was built: nobody has used it, and nobody listens to it yet. -/
inductive IsNew : Device → Prop where
  | ofHardware {identity : DeviceIdentity} {hardware : Hardware} {d : Device}
    (hBuilt : ofHardware? identity hardware = some d) (hUnused : hardware.IsUnused) : IsNew d
  | firmware {d : Device} (missing : Bool) (hNew : IsNew d) :
    IsNew (d.setFirmwareMissing missing).device

/-- What is known of a new device. -/
structure Unused (d : Device) : Prop where
  state : d.state = .unmanaged
  managed : d.managed = false
  scheduled : d.activationScheduled = false
  hardware : d.hardware.InStep .unmanaged
  subscribers : d.subscribers = []
  nextSubscription : d.nextSubscription = 0

theorem IsNew.unused {d : Device} (h : IsNew d) : Unused d := by
  induction h with
  | @ofHardware identity hardware d hBuilt hUnused =>
    unfold ofHardware? at hBuilt
    split at hBuilt
    · cases hBuilt
      refine ⟨rfl, rfl, rfl, ?_, rfl, rfl⟩
      cases hardware with
      | bluetooth radio =>
        show radio.link.InStep .unmanaged
        rw [show radio.link = .idle from hUnused]
        rfl
      | hidraw node => exact ⟨nofun, nofun⟩
      | serial line => exact ⟨nofun, nofun⟩
    · cases hBuilt
  | @firmware d missing hNew ih =>
    have hSame : (d.setFirmwareMissing missing).device = { d with firmwareMissing := missing } := by
      unfold setFirmwareMissing
      split
      · rename_i hEq
        rw [hEq]
        rfl
      · simp [ih.state, unchanged]
    rw [hSame]
    exact ⟨ih.state, ih.managed, ih.scheduled, ih.hardware, ih.subscribers, ih.nextSubscription⟩

end Device

end ScannerHub
