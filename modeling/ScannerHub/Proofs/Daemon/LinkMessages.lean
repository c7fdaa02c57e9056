import ScannerHub.Proofs.Daemon.Loop

/-!
# Link messages and the activations they act on

A link message should act on no activation but the one whose attempt sent it. The daemon does not
see to that: a message of an attempt that was given up waits in the queue like any other, and the
device at its path takes it for its own. Answers to calls for secrets are told apart by the number
of the call; link messages have none.

What the daemon does guarantee depends on the order of the turns. A message that has any effect acts
on its own activation exactly if its attempt is still the one for its path, and no link request of
the device waits to be handled. Without the second part the activation has already changed, but the
attempt of the earlier one is not given up yet.

* `Loop.ActsOn` — the oldest message has an effect;
* `Loop.IsOwn` — it comes from the attempt for the activation it acts on;
* `Loop.IsCurrent` — what has to hold for that.

## Results

* `run_isOwn_iff` — in every run, a message that has an effect is the own one exactly if it is
  current;
* `not_isOwn_again` — a run in which it is not.
-/

namespace ScannerHub

namespace Device

/-- A device that is at rest, or has no link, does not care. -/
theorem linkChanged_unchanged {d : Device} (hNot : d.state.isActive = false ∨ d.hasLink = false)
    (now : Nat) (c : Connection) (up : Bool) : d.linkChanged now c up = d.unchanged := by
  unfold linkChanged
  cases hActive : d.state.isActive with
  | false => rfl
  | true =>
    have hLink := hNot.resolve_left fun hIdle => by rw [hActive] at hIdle; cases hIdle
    unfold hasLink type at hLink
    obtain ⟨id, identity, capabilities, state, managed, firmwareMissing, autoconnectInhibited,
      activationScheduled, hardware, subscribers, nextSubscription⟩ := d
    cases hardware with
    | bluetooth radio => cases hLink
    | hidraw node => rfl
    | serial line => rfl

end Device

namespace Manager

variable {A : Nat → String → Prop} {m : Manager}

/-- A link matters only to an active device that has one. -/
theorem Settled.linkChanged_eq (h : m.Settled A) {d : Device} (hd : d ∈ m.devices)
    (hNot : d.state.isActive = false ∨ d.hasLink = false) (up : Bool) :
    m.linkChanged d.id up = m := by
  have hState : m.state = m.aggregate := h.state.resolve_right fun hNone => by
    rw [hNone] at hd
    cases hd
  unfold Manager.linkChanged
  dsimp only
  split
  · rfl
  · rename_i c hConnection
    rw [Manager.updateDevice_unchanged (h.linked.device?_of_mem hd)
      (Device.linkChanged_unchanged hNot m.now c up)]
    exact h.settle_eq hState

end Manager

namespace Loop

/-- The turn of the oldest message has an effect on the devices, such as a change of the state of
the one at its path. -/
structure ActsOn (l : Loop) (message : LinkMessage) (d : Device) : Prop where
  oldest : l.messages.head? = some message
  device : l.daemon.manager.deviceByUdi? message.path = some d
  effect : (l.turn .message).daemon.manager.devices ≠ l.daemon.manager.devices

/-- The attempt that sent a message follows the activation that runs on a device now, the one that
started last. -/
def IsOwn (l : Loop) (message : LinkMessage) (d : Device) : Prop :=
  l.origins[message.attempt]? = some (d.id, l.requests d.id)

/-- The attempt that sent a message is the one for its path, and no link request of a device
waits. -/
def IsCurrent (l : Loop) (message : LinkMessage) (d : Device) : Prop :=
  (l.daemon.links.attempt? message.path).map LinkAttempt.number = some message.attempt ∧
    d.id ∉ l.waiting

-- ---------------------------------------------------------------------------
-- A scanner that dials up
-- ---------------------------------------------------------------------------

namespace DialUp

open Manager.DialUp

def idle : Loop :=
  start (.start (.start store [] none 0) { level := "ERR", domains := "NONE" } 30000)

/-- The scanner dials up, and the call of its attempt is answered. -/
def dialing : List Turn :=
  connecting.map .operation ++ List.replicate 15 .event ++ [.answered 0 true]

/-- The same connection is started again. -/
def again : Turn :=
  .operation (.activateConnection 0 Scope.system.serviceName "/c" (devicePath 0) none)

def answer : LinkMessage := { attempt := 0, path := "/dev_A", up := true }

/-- The scanner while a request brings up its link. -/
def scannerFor (request : Nat) : Device :=
  { scanner with
    state := .config
    managed := true
    hardware := .bluetooth { radio with link := .connecting 30000 .dun }
    subscribers :=
      [{ id := 0, listener := .manager, closed := false },
       { id := request + 1, listener := .request request, closed := false }]
    nextSubscription := request + 2 }

end DialUp

-- ---------------------------------------------------------------------------
-- Messages that have an effect
-- ---------------------------------------------------------------------------

variable {l : Loop} {message : LinkMessage} {d : Device}

theorem ActsOn.linkChanged_ne (h : l.ActsOn message d) :
    l.daemon.manager.linkChanged d.id message.up ≠ l.daemon.manager := by
  obtain ⟨rest, hMessages⟩ := List.head?_eq_some_iff.mp h.oldest
  intro hSame
  refine h.effect ?_
  unfold turn
  rw [hMessages]
  exact (l.daemon.devices_hear h.device).trans (congrArg Manager.devices hSame)

theorem Sound.wanted (h : l.Sound) (hActs : l.ActsOn message d) :
    d ∈ l.daemon.manager.devices ∧ d.udi = message.path ∧ d.state.isActive = true ∧
      d.hasLink = true := by
  obtain ⟨hMem, hUdi⟩ := Manager.deviceByUdi?_eq_some hActs.device
  have hNot := fun hNot => hActs.linkChanged_ne (h.settled.linkChanged_eq hMem hNot message.up)
  refine ⟨hMem, hUdi, ?_, ?_⟩
  · rw [← Bool.not_eq_false]
    exact fun hIdle => hNot (Or.inl hIdle)
  · rw [← Bool.not_eq_false]
    exact fun hNone => hNot (Or.inr hNone)

/-- A message acts where a link is wanted, so either the loop has the attempt for it, or somebody
asks for it. -/
theorem Sound.knows_of_acts (h : l.Sound) (hActs : l.ActsOn message d) (hNone : d.id ∉ l.waiting) :
    l.knows d.id message.path := by
  obtain ⟨hMem, hUdi, hActive, hLink⟩ := h.wanted hActs
  rcases h.settled.link hMem hLink hActive with hAsked | ⟨-, hKnows⟩
  · refine absurd ?_ hNone
    obtain ⟨event, hEvent, hNews⟩ := List.mem_filterMap.mp (List.mem_of_getLast? hAsked)
    exact List.mem_filterMap.mpr ⟨event, hEvent, ManagerEvent.asksLink?_of_news hNews⟩
  · exact hUdi ▸ hKnows

theorem Sound.isOwn_iff (h : l.Sound) (hActs : l.ActsOn message d) :
    l.IsOwn message d ↔ l.IsCurrent message d := by
  constructor
  · intro hOwn
    -- no attempt follows a request that was not handled yet
    have hBound := h.bound _ (List.mem_of_getElem? hOwn)
    have hNone : d.id ∉ l.waiting := by
      intro hWaits
      have hPositive := List.count_pos_iff.mpr hWaits
      change l.handled.count d.id + l.waiting.count d.id ≤ l.handled.count d.id at hBound
      omega
    obtain ⟨a, hAttempt, hOrigin⟩ := h.knows_of_acts hActs hNone
    refine ⟨?_, hNone⟩
    -- two attempts that follow the same request are one
    have hRequests : l.requests d.id = l.handled.count d.id := by
      unfold requests
      rw [List.count_eq_zero_of_not_mem hNone, Nat.add_zero]
    unfold IsOwn at hOwn
    rw [hRequests, ← hOrigin] at hOwn
    have hLt : message.attempt < l.origins.length := by
      rw [hOrigin] at hOwn
      exact (List.getElem?_eq_some_iff.mp hOwn).1
    rw [hAttempt, Option.map_some, (List.getElem?_inj hLt h.distinct).mp hOwn]
  · rintro ⟨hHeld, hNone⟩
    obtain ⟨a, hAttempt, hOrigin⟩ := h.knows_of_acts hActs hNone
    rw [hAttempt, Option.map_some, Option.some_inj] at hHeld
    unfold IsOwn requests
    rw [List.count_eq_zero_of_not_mem hNone, Nat.add_zero, ← hHeld]
    exact hOrigin

/-- Whatever happens in whatever order: a link message that has an effect acts on the activation
whose attempt sent it exactly if this attempt is the one for its path, and no link request of the
device waits. -/
theorem run_isOwn_iff (store : StateStore) (allowed : List Nat) (timeout : Option Nat)
    (epoch : Nat) (logging : LogControl) (connectTimeout : Nat) (turns : List Turn)
    (message : LinkMessage) (d : Device) :
    let l := (start (.start (.start store allowed timeout epoch) logging connectTimeout)).run turns
    l.ActsOn message d → (l.IsOwn message d ↔ l.IsCurrent message d) :=
  fun hActs => (run_sound (start_sound store allowed timeout epoch logging connectTimeout)
    turns).isOwn_iff hActs

/-- The message that the scanner waits for. -/
theorem run_isOwn_iff_dialUp :
    let l := DialUp.idle.run DialUp.dialing
    let d := DialUp.scannerFor 0
    l.ActsOn DialUp.answer d ∧ l.IsCurrent DialUp.answer d ∧
      (l.IsOwn DialUp.answer d ↔ l.IsCurrent DialUp.answer d) :=
  have hActs : (DialUp.idle.run DialUp.dialing).ActsOn DialUp.answer (DialUp.scannerFor 0) :=
    ⟨by decide +kernel, by decide +kernel, by decide +kernel⟩
  ⟨hActs, ⟨by decide +kernel, by decide +kernel⟩, run_isOwn_iff _ _ _ _ _ _ _ _ _ hActs⟩

/-- A message that comes too late: the connection was started again in the meantime, and the new
activation goes on although its own attempt has not even begun. -/
theorem not_isOwn_again :
    let l := DialUp.idle.run (DialUp.dialing ++ [DialUp.again])
    let d := DialUp.scannerFor 1
    l.ActsOn DialUp.answer d ∧ ¬ l.IsOwn DialUp.answer d ∧ d.state = .config ∧
      (l.turn .message).daemon.manager.devices.map Device.state = [.needAuth] :=
  ⟨⟨by decide +kernel, by decide +kernel, by decide +kernel⟩,
   by unfold IsOwn; decide +kernel, rfl, by decide +kernel⟩

end Loop

end ScannerHub
