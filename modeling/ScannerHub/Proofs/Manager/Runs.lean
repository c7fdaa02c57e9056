import ScannerHub.Proofs.Manager.Users

/-!
# Runs of the manager

A run of the manager is any sequence of its operations, from a manager without devices. Whatever
happened before, a manager that has finished an operation is settled, and a settled manager
accounts for all of its activations.

Nobody takes the published events and the effects of a run, so they tell of all of it.

* `Operation` — what can be asked of the manager;
* `Manager.run` — a run.

## Results

* `run_settled` — the manager is settled after every operation;
* `run_ownsDevices` — each activation has exactly one owner;
* `run_noneStuck` — each activation has something that ends it;
* `calls_matched` — calls for secrets and answers fit together.
-/

namespace ScannerHub

/-- What can be asked of the manager. -/
inductive Operation where
  /-- A device that was just built comes in. -/
  | addDevice {device : Device} (hNew : Device.IsNew device)
  | removeDevice (id : Nat)
  | removeDeviceByInterface (interface : String)
  | setFirmwareMissing (interface : String) (missing : Bool)
  | setServiceRunning (scope : Scope) (running : Bool)
  | connectionAdded (scope : Scope) (path : String) (settings : Settings)
  | connectionUpdated (scope : Scope) (path : String) (settings : Settings)
  | connectionRemoved (scope : Scope) (path : String)
  | activateConnection (uid : Nat) (service path device : String) (specific : Option String)
  | deactivateConnection (uid : Nat) (active : String)
  | wait (request waiter : Nat)
  | setRequestDefault (request : Nat) (default default6 : Bool)
  | secretsReply (call : SecretsCall) (answer : Except Error Settings)
  | linkChanged (device : Nat) (up : Bool)
  | processTimeouts (moment : Nat)
  | setSleeping (uid : Nat) (sleeping : Bool)
  | setEnabled (uid : Nat) (enabled : Bool)
  | settle
  | updateState
  | shutdown
  /-- Time passes. -/
  | setClock (now : Nat)

namespace Manager

/-- Does what an operation asks for, and forgets what it answers. -/
def operate (m : Manager) : Operation → Manager
  | @Operation.addDevice device _ => (m.addDevice device).1
  | .removeDevice id => m.removeDevice id
  | .removeDeviceByInterface interface => (m.removeDeviceByInterface interface).1
  | .setFirmwareMissing interface missing => (m.setFirmwareMissing interface missing).1
  | .setServiceRunning scope running => m.setServiceRunning scope running
  | .connectionAdded scope path settings => (m.connectionAdded scope path settings).1
  | .connectionUpdated scope path settings => m.connectionUpdated scope path settings
  | .connectionRemoved scope path => m.connectionRemoved scope path
  | .activateConnection uid service path device specific =>
    (m.activateConnection uid service path device specific).1
  | .deactivateConnection uid active => (m.deactivateConnection uid active).1
  | .wait request waiter => (m.wait request waiter).1
  | .setRequestDefault request default default6 => m.setRequestDefault request default default6
  | .secretsReply call answer => m.secretsReply call answer
  | .linkChanged device up => m.linkChanged device up
  | .processTimeouts moment => m.processTimeoutsAt moment
  | .setSleeping uid sleeping => (m.setSleeping uid sleeping).1
  | .setEnabled uid enabled => (m.setEnabled uid enabled).1
  | .settle => m.settle
  | .updateState => m.updateState
  | .shutdown => m.shutdown
  | .setClock now => { m with now }

/-- A run. -/
def run (m : Manager) (operations : List Operation) : Manager := operations.foldl operate m

-- ---------------------------------------------------------------------------
-- Every manager of a run is settled
-- ---------------------------------------------------------------------------

variable {A : Nat → String → Prop} {m : Manager}

theorem start_settled (store : StateStore) (allowed : List Nat) (timeout : Option Nat)
    (epoch : Nat) : (start store allowed timeout epoch).Settled A where
  linked :=
    { devices := List.nodup_nil, paths := List.nodup_nil, requests := List.nodup_nil
      places := List.nodup_nil
      deviceBound := fun _ hd => absurd hd List.not_mem_nil
      requestBound := fun _ hr => absurd hr List.not_mem_nil
      calls := List.nodup_nil
      callBound := fun _ hc => absurd hc List.not_mem_nil
      seqBound := fun _ hr => absurd hr List.not_mem_nil }
  sites _ := ⟨fun _ => ⟨rfl, rfl⟩, fun _ hd => by cases hd⟩
  accounted _ _ hd := by cases hd
  queue := rfl
  looked _ hr := absurd hr List.not_mem_nil
  pending := rfl
  state := Or.inr rfl

theorem Settled.updateState (h : m.Settled A) : m.updateState.Settled A := by
  have hSame := same_updateState m
  have hRests := rests_updateState m
  exact ⟨h.toCoherent.same hSame,
    ⟨hRests.queue.trans h.queue, fun r hr => h.looked r (hSame.requests ▸ hr)⟩,
    hRests.pending.trans h.pending, Or.inl (state_updateState m)⟩

/-- Every operation leads from a settled manager to a settled one. -/
theorem operate_settled (h : m.Settled A) (operation : Operation) :
    (m.operate operation).Settled A := by
  cases operation with
  | addDevice hNew => exact h.addDevice hNew
  | removeDevice id => exact h.removeDevice id
  | removeDeviceByInterface interface => exact h.removeDeviceByInterface interface
  | setFirmwareMissing interface missing => exact h.setFirmwareMissing interface missing
  | setServiceRunning scope running => exact h.setServiceRunning scope running
  | connectionAdded scope path settings => exact h.connectionAdded scope path settings
  | connectionUpdated scope path settings => exact h.connectionUpdated scope path settings
  | connectionRemoved scope path => exact h.connectionRemoved scope path
  | activateConnection uid service path device specific =>
    exact h.activateConnection uid service path device specific
  | deactivateConnection uid active => exact h.deactivateConnection uid active
  | wait request waiter => exact h.wait request waiter
  | setRequestDefault request default default6 =>
    exact h.setRequestDefault request default default6
  | secretsReply call answer => exact h.secretsReply call answer
  | linkChanged device up => exact h.linkChanged device up
  | processTimeouts moment => exact h.processTimeoutsAt moment
  | setSleeping uid sleeping => exact h.setSleeping uid sleeping
  | setEnabled uid enabled => exact h.setEnabled uid enabled
  | settle => exact h.toCoherent.settle
  | updateState => exact h.updateState
  | shutdown => exact h.shutdown
  | setClock now => exact h.clock now

/-- Every manager of a run is settled. -/
theorem run_settled (h : m.Settled A) (operations : List Operation) :
    (m.run operations).Settled A := by
  induction operations generalizing m with
  | nil => exact h
  | cons operation operations ih => exact ih (operate_settled h operation)

-- ---------------------------------------------------------------------------
-- A scanner that dials up
-- ---------------------------------------------------------------------------

namespace DialUp

/-- A store that holds nothing but the flag. -/
def store : StateStore := { enabled := true, medium := .memory }

def identity : DeviceIdentity :=
  { udi := "/dev_A", interface := "bt0", driver := "bluez", index := none }

def radio : BluetoothRadio :=
  { address := "00:11:22:33:44:55", name := "", profiles := .dun, connectTimeout := 30000
    link := .idle }

/-- A bluetooth scanner that offers dial-up networking. -/
def scanner : Device :=
  { id := 0, identity, capabilities := .supported, state := .unmanaged, managed := false
    firmwareMissing := false, autoconnectInhibited := false, activationScheduled := false
    hardware := .bluetooth radio, subscribers := [], nextSubscription := 0 }

theorem scanner_isNew : Device.IsNew scanner :=
  .ofHardware (show Device.ofHardware? identity (.bluetooth radio) = some scanner from rfl) rfl

/-- The settings of a connection that fits, without a PIN. -/
def settings : Settings :=
  Dict.ofList
    [("connection", Dict.ofList
       [("id", .text "dial"), ("uuid", .text "3f2504e0-4f89-11d3-9a0c-0305e82c3301"),
        ("type", .text "bluetooth"), ("autoconnect", .flag false)]),
     ("bluetooth", Dict.ofList
       [("bdaddr", .bytes [0x00, 0x11, 0x22, 0x33, 0x44, 0x55]), ("type", .text "dun")])]

/-- The scanner comes in, and a user starts the connection. -/
def connecting : List Operation :=
  [.addDevice scanner_isNew, .setServiceRunning .system true,
   .connectionAdded .system "/c" settings,
   .activateConnection 0 Scope.system.serviceName "/c" (devicePath 0) none]

end DialUp

-- ---------------------------------------------------------------------------
-- The owners of activations
-- ---------------------------------------------------------------------------

/-- Whom the activations of a manager belong to, and who follows the devices. -/
structure OwnsDevices (m : Manager) : Prop where
  /-- Every request has a device, and no device has two. -/
  present : ∀ r ∈ m.requests, ∃ d ∈ m.devices, d.id = r.device
  alone : (m.requests.map Request.device).Nodup
  /-- A device is active exactly if its activation has one owner: a request, or none that is left
  but a note of it. -/
  owned : ∀ d ∈ m.devices,
    d.state.isActive = ((m.requestOn? d.id).isSome ^^ (m.orphan? d.id).isSome)
  never : ∀ d ∈ m.devices, ¬ ((m.requestOn? d.id).isSome = true ∧ (m.orphan? d.id).isSome = true)
  /-- What is noted is noted of active devices. -/
  noted : ∀ o ∈ m.orphans, ∃ d ∈ m.devices, d.id = o.1 ∧ d.state.isActive = true
  /-- Every request shows the state of its device. -/
  follows : ∀ r ∈ m.requests, ∀ d ∈ m.devices, d.id = r.device → r.state = .ofDevice d.state
  /-- The manager and the request on a device listen to it, and nobody else. -/
  subscribed : ∀ r ∈ m.requests, r.subscription.isSome = true
  subscribers : ∀ d ∈ m.devices, d.subscribers =
    managerListening :: (m.requests.filter fun r => r.device == d.id).flatMap Request.listening

/-- The entries with a key, in a list in which no key comes twice. -/
theorem filter_key {α : Type} (key : α → Nat) {xs : List α} (h : (xs.map key).Nodup) (k : Nat) :
    (xs.filter fun x => key x == k) = (xs.find? fun x => key x == k).toList := by
  induction xs with
  | nil => rfl
  | cons x xs ih =>
    rw [List.map_cons, List.nodup_cons] at h
    by_cases hx : key x = k
    · have hNone : (xs.filter fun x => key x == k) = [] := by
        rw [List.filter_eq_nil_iff]
        intro y hy hKey
        rw [beq_iff_eq] at hKey
        exact h.1 (hx ▸ hKey ▸ List.mem_map_of_mem hy)
      rw [List.filter_cons_of_pos (by simp [hx]), List.find?_cons_of_pos (by simp [hx]), hNone]
      rfl
    · rw [List.filter_cons_of_neg (by simp [hx]), List.find?_cons_of_neg (by simp [hx])]
      exact ih h.2

/-- A settled manager has nothing left of an activation on an idle device. -/
theorem Settled.free (h : m.Settled A) {d : Device} (hd : d ∈ m.devices)
    (hIdle : d.state.isActive = false) : m.requestOn? d.id = none ∧ m.orphan? d.id = none := by
  refine h.toCoherent.free (h.linked.device?_of_mem hd) hIdle ?_
  unfold queueOf
  rw [h.queue]
  rfl

/-- A settled manager has either a request or a note of an activation that goes on. -/
theorem Settled.owned_iff (h : m.Settled A) {d : Device} (hd : d ∈ m.devices)
    (hActive : d.state.isActive = true) :
    (m.requestOn? d.id).isSome = true ↔ m.orphan? d.id = none :=
  (h.toCoherent.held (h.linked.device?_of_mem hd)).owned hActive

theorem Settled.foreseen_eq (h : m.Settled A) {r : Request} (hr : r ∈ m.requests) :
    r.foreseen = r.state := by
  unfold Request.foreseen
  rw [h.looked r hr]
  rfl

theorem Settled.ownsDevices (h : m.Settled A) : m.OwnsDevices where
  present r hr := by
    obtain ⟨d, hd⟩ := h.toFits.exists_device hr
    exact ⟨d, device?_eq_some hd⟩
  alone := h.linked.places
  owned d hd := by
    cases hActive : d.state.isActive with
    | true =>
      have hOwned := h.owned_iff hd hActive
      cases hOrphan : m.orphan? d.id with
      | none =>
        rw [hOwned.mpr hOrphan]
        rfl
      | some o =>
        have hNot : ¬ (m.requestOn? d.id).isSome = true := by
          rw [hOwned, hOrphan]
          exact nofun
        rw [Bool.eq_false_iff.mpr hNot]
        rfl
    | false =>
      obtain ⟨hRequest, hOrphan⟩ := h.free hd hActive
      rw [hRequest, hOrphan]
      rfl
  never d hd := by
    rintro ⟨hRequest, hOrphan⟩
    cases hActive : d.state.isActive with
    | true =>
      rw [(h.owned_iff hd hActive).mp hRequest] at hOrphan
      cases hOrphan
    | false =>
      rw [(h.free hd hActive).1] at hRequest
      cases hRequest
  noted o ho := by
    -- maybe it is not this entry that is found under its number, but one is, and that is enough
    have hSome : m.orphan? o.1 ≠ none := by
      unfold orphan?
      rw [Ne, List.lookup_eq_none_iff]
      exact fun hNone => absurd (hNone o ho) (by simp)
    cases hd : m.device? o.1 with
    | none => exact absurd ((h.sites o.1).absent hd).2 hSome
    | some d =>
      obtain ⟨hMem, hId⟩ := device?_eq_some hd
      refine ⟨d, hMem, hId, ?_⟩
      rw [← Bool.not_eq_false]
      exact fun hIdle => hSome (hId ▸ (h.free hMem hIdle).2)
  follows r hr d hd hId := by
    have hFollows := (h.toFits.sound (h.linked.device?_of_mem hd)).follows r
    rw [hId] at hFollows
    rw [← h.foreseen_eq hr]
    exact hFollows (h.linked.requestOn?_of_mem hr)
  subscribed r hr := by
    obtain ⟨d, hd⟩ := h.toFits.exists_device hr
    obtain ⟨k, hk, -⟩ := (h.toFits.sound hd).place r (h.linked.requestOn?_of_mem hr)
    rw [hk]
    rfl
  subscribers d hd := by
    have hSubscribers := (h.toFits.sound (h.linked.device?_of_mem hd)).subscribers
    rw [hSubscribers, filter_key Request.device h.linked.places]
    unfold Site.subscribers
    change managerListening :: ((m.requestOn? d.id).map Request.listening).getD [] =
      managerListening :: (m.requestOn? d.id).toList.flatMap Request.listening
    cases m.requestOn? d.id with
    | none => rfl
    | some r =>
      rw [Option.toList_some, List.flatMap_cons, List.flatMap_nil, List.append_nil]
      rfl

/-- After every operation each activation has exactly one owner, and each request has its device. -/
theorem run_ownsDevices (store : StateStore) (allowed : List Nat) (timeout : Option Nat)
    (epoch : Nat) (operations : List Operation) :
    ((start store allowed timeout epoch).run operations).OwnsDevices :=
  (run_settled (A := fun _ _ => True) (start_settled store allowed timeout epoch)
    operations).ownsDevices

/-- A request whose time is up leaves its device connecting. -/
example :
    let m := (start DialUp.store [] (some 1000) 0).run (DialUp.connecting ++ [.processTimeouts 1000])
    m.devices.map Device.state = [.config] ∧ m.requests = [] ∧ m.orphans.map Prod.fst = [0] := by
  decide +kernel

-- ---------------------------------------------------------------------------
-- What ends an activation
-- ---------------------------------------------------------------------------

/-- No device is in a state that nothing would end. -/
structure NoneStuck (m : Manager) : Prop where
  steady : ∀ d ∈ m.devices, d.state.isSteady = true
  /-- A device that configures itself waits for its link, and not forever. -/
  linking : ∀ d ∈ m.devices, d.state = .config → ∃ radio deadline profile,
    d.hardware = .bluetooth radio ∧ radio.link = .connecting deadline profile ∧
      d.deadline? = some deadline
  /-- A device waits for secrets exactly if someone asked for them. -/
  asking : ∀ d ∈ m.devices,
    d.state = .needAuth ↔ ∃ r ∈ m.requests, r.device = d.id ∧ r.secrets.isSome = true

theorem Settled.steady (h : m.Settled A) {d : Device} (hd : d ∈ m.devices) :
    d.state.isSteady = true := by
  have hFound := h.linked.device?_of_mem hd
  have hStop := (h.toFits.sound hFound).device.stop
  unfold DeviceState.isStop at hStop
  rw [Bool.or_eq_true, beq_iff_eq] at hStop
  refine hStop.resolve_right fun hFailed => ?_
  -- a device that failed has said so, and nobody has handled it yet
  have hLeft := (h.toCoherent.held hFound).left (by rw [hFailed]; rfl) (Or.inr (Or.inr hFailed))
  refine hLeft ?_
  change entered (m.queueOf d.id) = []
  unfold queueOf
  rw [h.queue]
  rfl

theorem Settled.linking (h : m.Settled A) {d : Device} (hd : d ∈ m.devices)
    (hState : d.state = .config) : ∃ radio deadline profile,
      d.hardware = .bluetooth radio ∧ radio.link = .connecting deadline profile ∧
        d.deadline? = some deadline := by
  have hHardware := (h.toFits.sound (h.linked.device?_of_mem hd)).device.hardware
  rw [hState] at hHardware
  cases hKind : d.hardware with
  | hidraw node =>
    rw [hKind] at hHardware
    exact absurd rfl hHardware.1
  | serial line =>
    rw [hKind] at hHardware
    exact absurd rfl hHardware.1
  | bluetooth radio =>
    rw [hKind] at hHardware
    change radio.link.InStep .config at hHardware
    cases hLink : radio.link with
    | idle =>
      rw [hLink] at hHardware
      cases hHardware
    | up profile =>
      rw [hLink] at hHardware
      rcases hHardware with hUp | hUp <;> cases hUp
    | connecting deadline profile =>
      refine ⟨radio, deadline, profile, rfl, hLink, ?_⟩
      obtain ⟨address, name, profiles, connectTimeout, link⟩ := radio
      cases hLink
      unfold Device.deadline?
      rw [hKind]
      rfl

theorem Settled.awaitsSecrets_eq (h : m.Settled A) {r : Request} (hr : r ∈ m.requests) :
    r.awaitsSecrets = r.secrets.isSome := by
  unfold Request.awaitsSecrets
  rw [h.looked r hr]
  exact Bool.or_false _

theorem Settled.asking (h : m.Settled A) {d : Device} (hd : d ∈ m.devices) :
    d.state = .needAuth ↔ ∃ r ∈ m.requests, r.device = d.id ∧ r.secrets.isSome = true := by
  have hFound := h.linked.device?_of_mem hd
  have hHeld := h.toCoherent.held hFound
  constructor
  · intro hNeed
    cases hOn : m.requestOn? d.id with
    | some r =>
      obtain ⟨hr, hDevice⟩ := requestOn?_eq_some hOn
      refine ⟨r, hr, hDevice, ?_⟩
      rw [← h.awaitsSecrets_eq hr]
      exact hHeld.served hNeed r hOn
    | none =>
      have hAsks := hHeld.unserved hNeed hOn
      change asks (m.queueOf d.id) = true at hAsks
      unfold queueOf at hAsks
      rw [h.queue] at hAsks
      cases hAsks
  · rintro ⟨r, hr, hDevice, hSecrets⟩
    have hOn : m.requestOn? d.id = some r := hDevice ▸ h.linked.requestOn?_of_mem hr
    rcases (h.toFits.sound hFound).awaits r hOn (h.awaitsSecrets_eq hr ▸ hSecrets) with
      hNeed | hIdle
    · exact hNeed
    · rw [(h.free hd hIdle).1] at hOn
      cases hOn

/-- After every operation each activation that has not come to its end waits for something that
will come, or for someone who was asked. -/
theorem run_noneStuck (store : StateStore) (allowed : List Nat) (timeout : Option Nat)
    (epoch : Nat) (operations : List Operation) :
    ((start store allowed timeout epoch).run operations).NoneStuck :=
  have hSettled := run_settled (A := fun _ _ => True) (start_settled store allowed timeout epoch)
    operations
  ⟨fun _ hd => hSettled.steady hd, fun _ hd => hSettled.linking hd, fun _ hd => hSettled.asking hd⟩

-- ---------------------------------------------------------------------------
-- Calls for secrets
-- ---------------------------------------------------------------------------

/-- An answer that no request waits for changes nothing. -/
theorem Settled.secretsReply_eq (h : m.Settled A) {call : SecretsCall}
    (hStale : ∀ r ∈ m.requests, r.secrets.map PendingSecrets.call ≠ some call)
    (answer : Except Error Settings) : m.secretsReply call answer = m := by
  unfold Manager.secretsReply
  cases hr : m.request? call.request with
  | none => rfl
  | some r =>
    obtain ⟨hMem, -⟩ := request?_eq_some hr
    obtain ⟨d, hd⟩ := h.toFits.exists_device hMem
    have hState : m.state = m.aggregate := h.state.resolve_right fun hNone => by
      obtain ⟨hdMem, -⟩ := device?_eq_some hd
      rw [hNone] at hdMem
      cases hdMem
    have hNone : r.takeSecrets call answer = none := by
      rw [r.takeSecrets_eq_none_iff]
      intro p hp hCall
      refine hStale r hMem ?_
      rw [hp, Option.map_some, hCall]
    dsimp only
    rw [hd, hNone]
    exact h.settle_eq hState

/-- How the calls of a request fit together with what became of them, up to some moment. -/
structure Matched (d : Dialog) : Prop where
  /-- The request waits for exactly the calls that were made and neither given up nor answered. -/
  calls : Exchange.outstanding d.log = Dialog.pending d.request
  /-- An earlier call is given up before the next one is made. -/
  oneByOne : Exchange.OneByOne d.log
  distinct : (Exchange.allAsked d.log).Nodup
  own : ∀ c ∈ Exchange.allAsked d.log, c.request = d.request.id

/-- A request from its start on. -/
def dialog (id : Nat) (spec : RequestSpec) (now : Nat) (device : Device)
    (inputs : List DialogInput) : Dialog :=
  Dialog.run { request := (Request.start id spec now device).1, log := [] } inputs

/-- Calls for secrets and answers fit together. Whatever a request hears, it waits for exactly the
call that is open, at its end none is open, and no two calls of a run are the same. An answer to a
call that no request waits for changes nothing at all. -/
theorem calls_matched :
    (∀ (id : Nat) (spec : RequestSpec) (now : Nat) (device : Device) (inputs : List DialogInput)
        (reason : StateReason),
      let d := dialog id spec now device inputs
      let ended := d.goOn (d.request.detach reason)
      Matched d ∧ Exchange.outstanding ended.log = [] ∧ Dialog.pending ended.request = [] ∧
        Exchange.allAsked ended.log = Exchange.allAsked d.log ∧ Exchange.OneByOne ended.log) ∧
    ∀ (store : StateStore) (allowed : List Nat) (timeout : Option Nat) (epoch : Nat)
        (operations : List Operation),
      let m := (start store allowed timeout epoch).run operations
      (issued m.effects).Nodup ∧
        ∀ call answer, (∀ r ∈ m.requests, r.secrets.map PendingSecrets.call ≠ some call) →
          m.secretsReply call answer = m := by
  constructor
  · intro id spec now device inputs reason
    have hDialog : (dialog id spec now device inputs).Sound :=
      Dialog.run_sound (Dialog.start_sound _ rfl) inputs
    obtain ⟨hNone, hAsked, hOneByOne⟩ := Dialog.outstanding_detach hDialog reason
    refine ⟨?_, hNone, Dialog.pending_detach _ reason, hAsked, hOneByOne⟩
    exact ⟨hDialog.calls, hDialog.oneByOne, hDialog.distinct, fun c hc => (hDialog.own c hc).1⟩
  · intro store allowed timeout epoch operations
    have hSettled := run_settled (A := fun _ _ => True)
      (start_settled store allowed timeout epoch) operations
    exact ⟨hSettled.linked.calls, fun call answer hStale => hSettled.secretsReply_eq hStale answer⟩

/-- The dial-up scanner waits for the answer to its first call, and an answer to the second one,
which was not made yet, changes nothing. -/
theorem calls_matched_dialUp :
    let m := (start DialUp.store [] none 0).run (DialUp.connecting ++ [.linkChanged 0 true])
    let call : SecretsCall := { request := 0, seq := 1 }
    m.requests.map (fun r => r.secrets.map PendingSecrets.call) = [some { call with seq := 0 }] ∧
      (∀ r ∈ m.requests, r.secrets.map PendingSecrets.call ≠ some call) ∧
      m.secretsReply call (.error (.settingsService "gone")) = m :=
  have hStale : ∀ r ∈ ((start DialUp.store [] none 0).run
      (DialUp.connecting ++ [.linkChanged 0 true])).requests,
      r.secrets.map PendingSecrets.call ≠ some { request := 0, seq := 1 } := by decide +kernel
  ⟨by decide +kernel, hStale, (calls_matched.2 DialUp.store [] none 0 _).2 _ _ hStale⟩

end Manager

end ScannerHub
