import ScannerHub.Daemon.Basic
import ScannerHub.Proofs.Manager.Rest

/-!
# The loop of the daemon

The daemon serves one thing at a time: an operation of the manager, a published event, something
that an attempt to bring up a link has heard, or a link message. Attempts put their messages into a
queue, and between a message and its turn anything may happen. A message names a path and no
attempt, so the loop cannot tell whose message it takes.

Beside the daemon, the loop of this file keeps a record that the daemon does not have: which link
requests were handled, and which of them each attempt follows. An activation of a bluetooth device
asks for its link once, when it starts (`Device.Starts.link`), and nothing else does
(`Device.Moves.noLink`), so the link requests of a device stand for its activations.

* `Loop.turn` — one turn;
* `Loop.requests` — how many activations have started on a device;
* `Loop.knows` — the loop has an attempt for the link request that was handled last;
* `Loop.Sound` — the invariant.

## Results

* `turn_sound` — a turn preserves the invariant;
* `run_sound` — so does a run;
* `answered_message` — what the daemon does without a queue is a run.
-/

namespace ScannerHub

/-- The device whose link a published event asks for. -/
def ManagerEvent.asksLink? : ManagerEvent → Option Nat
  | linkRequested device _ => some device
  | _ => none

/-- The daemon between two turns. -/
structure Loop where
  daemon : Daemon
  /-- The link messages that were not taken yet, the oldest first. -/
  messages : List LinkMessage
  /-- The devices of the link requests that were handled, in their order. -/
  handled : List Nat
  /-- For each attempt, its device and which of the link requests of the device it follows. -/
  origins : List (Nat × Nat)

/-- What a turn serves. -/
inductive Turn where
  /-- A user, a settings service, the hardware, an answer with secrets, or the clock. -/
  | operation (operation : Operation)
  /-- The oldest event that the manager published. -/
  | event
  /-- The remote device at a path is gone. -/
  | deviceGone (path : String)
  /-- The call of an attempt was answered, or it took too long. -/
  | answered (attempt : Nat) (success : Bool)
  /-- The device at a path is no longer connected. -/
  | lost (path : String)
  /-- The oldest link message. -/
  | message

namespace Loop

/-- The loop of a daemon at its start. -/
def start (d : Daemon) : Loop := { daemon := d, messages := [], handled := [], origins := [] }

/-- What an attempt hears; it may send a message. -/
def heard (l : Loop) : Links × Option LinkMessage → Loop
  | (_, none) => l
  | (links, some message) =>
    { l with daemon := { l.daemon with links }, messages := l.messages ++ [message] }

/-- Notes a link request that is handled, and the attempt that follows if its device is there. -/
def note (l : Loop) (event : ManagerEvent) : Loop :=
  match event.asksLink? with
  | none => l
  | some id =>
    let handled := l.handled ++ [id]
    if (l.daemon.manager.device? id).isSome then
      { l with handled, origins := l.origins ++ [(id, handled.count id)] }
    else { l with handled }

/-- The daemon without the published events but some. -/
def publishing (d : Daemon) (events : List ManagerEvent) : Daemon :=
  { d with manager := { d.manager with events } }

/-- One turn. -/
def turn (l : Loop) : Turn → Loop
  | .operation operation => { l with daemon := l.daemon.operate (l.daemon.manager.operate operation) }
  | .event =>
    match l.daemon.manager.events with
    | [] => l
    | event :: rest =>
      { l.note event with daemon := (publishing l.daemon rest).handleEvent event }
  | .deviceGone path => { l with daemon := l.daemon.dismiss path }
  | .answered attempt success => l.heard (l.daemon.links.answered attempt success)
  | .lost path => l.heard (l.daemon.links.lost path)
  | .message =>
    match l.messages with
    | [] => l
    | message :: rest => { l with daemon := l.daemon.hear message, messages := rest }

/-- A run. -/
def run (l : Loop) (turns : List Turn) : Loop := turns.foldl turn l

/-- The link requests that were published and not handled. -/
def waiting (l : Loop) : List Nat := l.daemon.manager.events.filterMap ManagerEvent.asksLink?

/-- How many activations of a bluetooth device have started. -/
def requests (l : Loop) (id : Nat) : Nat := l.handled.count id + l.waiting.count id

/-- The attempt for a path follows the link request of a device that was handled last. -/
def knows (l : Loop) (id : Nat) (udi : String) : Prop :=
  ∃ a, l.daemon.links.attempt? udi = some a ∧ l.origins[a.number]? = some (id, l.handled.count id)

/-- The invariant. -/
structure Sound (l : Loop) : Prop where
  settled : l.daemon.manager.Settled l.knows
  next : l.origins.length = l.daemon.links.next
  bound : ∀ o ∈ l.origins, o.2 ≤ l.handled.count o.1
  distinct : l.origins.Nodup

end Loop

/-- The only good news about a link is that someone asks for it. -/
theorem ManagerEvent.asksLink?_of_news {event : ManagerEvent} {id : Nat}
    (h : event.linkNews? id = some true) : event.asksLink? = some id := by
  cases event with
  | linkRequested device request =>
    change (if device = id then some true else none) = some true at h
    split at h
    · rename_i hId
      exact congrArg some hId
    · cases h
  | deviceStateChanged device new old reason =>
    change (if device = id ∧ new.isActive = false then some false else none) = some true at h
    split at h <;> cases h
  | _ => cases h

theorem ManagerEvent.linkNews?_asks {event : ManagerEvent} {x : Nat}
    (h : event.asksLink? = some x) (id : Nat) :
    event.linkNews? id = if x = id then some true else none := by
  cases event with
  | linkRequested device request =>
    cases h
    rfl
  | _ => cases h

-- ---------------------------------------------------------------------------
-- Attempts
-- ---------------------------------------------------------------------------

namespace Links

theorem attempt?_stop (l : Links) (path p : String) :
    (l.stop path).1.attempt? p = if p = path then none else l.attempt? p := by
  unfold attempt? stop
  dsimp only
  rw [List.find?_filter]
  by_cases hp : p = path
  · rw [if_pos hp, List.find?_eq_none]
    intro a _
    simp [hp]
  · rw [if_neg hp]
    congr 1
    funext a
    by_cases ha : a.path = p <;> simp [ha, hp]

theorem attempt?_connect (l : Links) (now : Nat) (path p : String) :
    (l.connect now path).1.attempt? p =
      if p = path then some { number := l.next, path, phase := .connecting (now + callLimit) }
      else l.attempt? p := by
  have hStop := l.attempt?_stop path p
  unfold attempt? at hStop ⊢
  unfold connect
  dsimp only
  rw [List.find?_append, hStop]
  by_cases hp : p = path
  · rw [if_pos hp, if_pos hp, List.find?_cons_of_pos (by simp [hp])]
    rfl
  · rw [if_neg hp, if_neg hp, List.find?_cons_of_neg (by simp [Ne.symm hp])]
    exact Option.or_none

/-- An attempt that gets on keeps its number. -/
theorem number_setPhase (l : Links) (number : Nat) (phase : LinkPhase) (p : String) :
    ((l.setPhase number phase).attempt? p).map LinkAttempt.number =
      (l.attempt? p).map LinkAttempt.number := by
  unfold attempt? setPhase
  dsimp only
  rw [List.find?_map, Option.map_map]
  have hKey : ((fun a : LinkAttempt => a.path == p) ∘ fun a =>
      if a.number = number then { a with phase } else a) = fun a => a.path == p := by
    funext a
    show ((if _ then _ else _ : LinkAttempt).path == p) = _
    split <;> rfl
  rw [hKey]
  congr 1
  funext a
  show (if _ then _ else _ : LinkAttempt).number = _
  split <;> rfl

/-- What an attempt hears changes how far it has come, at most. -/
theorem answered_cases (l : Links) (number : Nat) (success : Bool) {l' : Links}
    {message : LinkMessage} (h : l.answered number success = (l', some message)) :
    ∃ phase, l' = l.setPhase number phase := by
  unfold answered at h
  split at h
  · cases h
    exact ⟨_, rfl⟩
  · cases h

theorem lost_cases (l : Links) (path : String) {l' : Links} {message : LinkMessage}
    (h : l.lost path = (l', some message)) :
    ∃ number phase, l' = l.setPhase number phase := by
  unfold lost at h
  split at h
  · cases h
    exact ⟨_, _, rfl⟩
  · cases h

end Links

-- ---------------------------------------------------------------------------
-- The policy
-- ---------------------------------------------------------------------------

namespace Policy

/-- The policy has no business with devices. -/
theorem devices_handle (p : Policy) (m : Manager) (event : ManagerEvent) :
    (p.handle m event).2.devices = m.devices := by
  unfold handle update
  split
  · have hOthers := foldl_rest (P := fun _ m' => Manager.devices m' = m.devices)
      (fun id _ m' h => (m'.devices_setRequestDefault id false false).trans h)
      ((m.requests.map Request.id).filter fun id => some id ≠ best? m) m rfl
    dsimp only
    split
    · exact (Manager.devices_setRequestDefault _ _ _ _).trans hOthers
    · exact hOthers
  · rfl

theorem device?_handle (p : Policy) (m : Manager) (event : ManagerEvent) (id : Nat) :
    (p.handle m event).2.device? id = m.device? id := by
  unfold Manager.device?
  rw [devices_handle]

end Policy

-- ---------------------------------------------------------------------------
-- What the daemon does to the manager and to the links
-- ---------------------------------------------------------------------------

namespace Daemon

theorem operate_eq (d : Daemon) (m : Manager) :
    (d.operate m).manager = { m with effects := [] } ∧ (d.operate m).links = d.links := by
  unfold operate
  refine foldl_rest
    (P := fun _ d' => Daemon.manager d' = { m with effects := [] } ∧ Daemon.links d' = d.links)
    (fun e _ d' h => ?_) m.effects _ ⟨rfl, rfl⟩
  cases e <;> exact h

theorem devices_hear (d : Daemon) {message : LinkMessage} {device : Device}
    (hDevice : d.manager.deviceByUdi? message.path = some device) :
    (d.hear message).manager.devices = (d.manager.linkChanged device.id message.up).devices := by
  unfold hear
  rw [hDevice]
  dsimp only
  rw [(d.operate_eq _).1]

theorem disconnect_manager (d : Daemon) (path : String) : (d.disconnect path).manager = d.manager := by
  unfold disconnect
  split <;> rfl

theorem disconnect_links (d : Daemon) (path : String) :
    (d.disconnect path).links.next = d.links.next ∧
      ∀ p, p ≠ path → (d.disconnect path).links.attempt? p = d.links.attempt? p := by
  unfold disconnect
  split
  · rename_i links hStop
    have hLinks : links = (d.links.stop path).1 := (congrArg Prod.fst hStop).symm
    refine ⟨?_, fun p hp => ?_⟩
    · rw [hLinks]
      rfl
    · show links.attempt? p = _
      rw [hLinks, Links.attempt?_stop, if_neg hp]
  · exact ⟨rfl, fun _ _ => rfl⟩

theorem followLink_manager (d : Daemon) (event : ManagerEvent) :
    (d.followLink event).manager = d.manager := by
  unfold followLink
  split
  · split
    · rfl
    · rfl
  · split
    · rfl
    · exact disconnect_manager d _
  · rfl

/-- A link request of a device that is there starts an attempt. -/
theorem followLink_asks {d : Daemon} {event : ManagerEvent} {id : Nat}
    (hAsks : event.asksLink? = some id) {device : Device} (hd : d.manager.device? id = some device) :
    (d.followLink event).links = (d.links.connect d.manager.now device.udi).1 := by
  cases event with
  | linkRequested id' request =>
    cases hAsks
    unfold followLink
    dsimp only
    rw [hd]
    rfl
  | _ => cases hAsks

theorem followLink_asks_absent {d : Daemon} {event : ManagerEvent} {id : Nat}
    (hAsks : event.asksLink? = some id) (hd : d.manager.device? id = none) :
    d.followLink event = d := by
  cases event with
  | linkRequested id' request =>
    cases hAsks
    unfold followLink
    dsimp only
    rw [hd]
  | _ => cases hAsks

/-- No other event starts an attempt, and an attempt is given up only for a device that has left
its activation. -/
theorem followLink_stops {d : Daemon} {event : ManagerEvent} (hAsks : event.asksLink? = none) :
    (d.followLink event).links.next = d.links.next ∧
      ∀ p, (∀ id device, event.linkNews? id = some false → d.manager.device? id = some device →
        p ≠ device.udi) → (d.followLink event).links.attempt? p = d.links.attempt? p := by
  cases event with
  | linkRequested id request => cases hAsks
  | deviceStateChanged id new old reason =>
    unfold followLink
    dsimp only
    split
    · exact ⟨rfl, fun _ _ => rfl⟩
    · rename_i device hFound
      obtain ⟨hd, hDrops⟩ := Option.filter_eq_some_iff.mp hFound
      obtain ⟨hNext, hAttempt⟩ := disconnect_links d device.udi
      refine ⟨hNext, fun p hp => hAttempt p (hp id device ?_ hd)⟩
      have hNew : new.isActive = false := by
        rw [decide_eq_true_eq] at hDrops
        have hState := hDrops.2
        revert hState
        cases new <;> decide
      exact if_pos ⟨rfl, hNew⟩
  | _ => exact ⟨rfl, fun _ _ => rfl⟩

theorem handleEvent_manager (d : Daemon) (event : ManagerEvent) :
    (d.handleEvent event).manager = (d.policy.handle d.manager event).2 :=
  followLink_manager _ event

/-- The policy comes before the links, and leaves the devices to them as they are. -/
theorem handleEvent_links (d : Daemon) (event : ManagerEvent) :
    ∃ d' : Daemon, (∀ id, d'.manager.device? id = d.manager.device? id) ∧ d'.links = d.links ∧
      (d.handleEvent event).links = (d'.followLink event).links :=
  ⟨{ d with policy := (d.policy.handle d.manager event).1
            manager := (d.policy.handle d.manager event).2 },
   d.policy.device?_handle d.manager event, rfl, rfl⟩

end Daemon

-- ---------------------------------------------------------------------------
-- One turn
-- ---------------------------------------------------------------------------

namespace Loop

variable {l : Loop}

/-- Effects that are carried out are forgotten. -/
theorem settled_operate {A : Nat → String → Prop} (d : Daemon) {m : Manager} (h : m.Settled A) :
    (d.operate m).manager.Settled A := by
  rw [(d.operate_eq m).1]
  have hLinked : ({ m with effects := [] } : Manager).Linked :=
    ⟨h.linked.devices, h.linked.paths, h.linked.requests, h.linked.places, h.linked.deviceBound,
     h.linked.requestBound, List.nodup_nil, fun _ hc => absurd hc List.not_mem_nil,
     fun _ _ _ hc => absurd hc List.not_mem_nil⟩
  exact ⟨⟨⟨hLinked, h.sites⟩, h.accounted⟩, ⟨h.queue, h.looked⟩, h.pending, h.state⟩

theorem rested_operate {A : Nat → String → Prop} (d : Daemon) {m : Manager} (h : m.Rested A) :
    (d.operate m).manager.Rested A := by
  have hSettled := settled_operate d h.toSettled
  rw [(d.operate_eq m).1] at hSettled ⊢
  exact ⟨hSettled, h.dormant, h.undue⟩

/-- A turn after which the links and the record are the same. -/
theorem Sound.operate (h : l.Sound) {m : Manager} (hm : m.Settled l.knows)
    (messages : List LinkMessage) :
    Sound { l with daemon := l.daemon.operate m, messages } := by
  have hLinks := (l.daemon.operate_eq m).2
  have hKnows : Loop.knows { l with daemon := l.daemon.operate m, messages } = l.knows := by
    funext id udi
    unfold knows
    dsimp only
    rw [hLinks]
  refine ⟨?_, ?_, h.bound, h.distinct⟩
  · rw [hKnows]
    exact settled_operate l.daemon hm
  · show l.origins.length = (l.daemon.operate m).links.next
    rw [hLinks]
    exact h.next

/-- What an attempt hears leaves it the attempt for its path. -/
theorem Sound.heard (h : l.Sound) (number : Nat) (phase : LinkPhase) (messages : List LinkMessage) :
    Sound { l with daemon := { l.daemon with links := l.daemon.links.setPhase number phase }
                   messages } := by
  refine ⟨?_, h.next, h.bound, h.distinct⟩
  refine h.settled.weaken fun d _ hKnows => ?_
  obtain ⟨a, hAttempt, hOrigin⟩ := hKnows
  have hNumber := l.daemon.links.number_setPhase number phase d.udi
  rw [hAttempt, Option.map_some] at hNumber
  obtain ⟨a', hAttempt', hSame⟩ := Option.map_eq_some_iff.mp hNumber
  exact ⟨a', hAttempt', hSame ▸ hOrigin⟩

/-- A published event is taken. The device whose link it asks for must be known afterwards, and of
no other device may be forgotten that its link is wanted, unless the event is about its end. -/
theorem Sound.take (h : l.Sound) {event : ManagerEvent} {rest : List ManagerEvent}
    {B : Nat → String → Prop} (hEvents : l.daemon.manager.events = event :: rest)
    (hAsks : ∀ d ∈ l.daemon.manager.devices, event.asksLink? = some d.id → B d.id d.udi)
    (hKeeps : ∀ d ∈ l.daemon.manager.devices, event.linkNews? d.id = none →
      l.knows d.id d.udi → B d.id d.udi) :
    ((publishing l.daemon rest).handleEvent event).manager.Settled B := by
  rw [Daemon.handleEvent_manager]
  refine Manager.Settled.policy_handle (h.settled.retold fun d hd hLink hActive => ?_) _ _
  have hTold := h.settled.link hd hLink hActive
  unfold Manager.news at hTold ⊢
  rw [hEvents] at hTold
  dsimp only
  cases hNews : event.linkNews? d.id with
  | none =>
    rw [List.filterMap_cons_none hNews] at hTold
    exact hTold.imp_right fun hKnown => ⟨hKnown.1, hKeeps d hd hNews hKnown.2⟩
  | some asked =>
    rw [List.filterMap_cons_some hNews, List.getLast?_cons, Option.some_inj] at hTold
    have hLast := hTold.resolve_right fun hKnown => List.cons_ne_nil _ _ hKnown.1
    cases hRest : rest.filterMap (ManagerEvent.linkNews? d.id) with
    | nil =>
      rw [hRest] at hLast
      refine Or.inr ⟨rfl, hAsks d hd (event.asksLink?_of_news ?_)⟩
      rw [hNews]
      exact congrArg some hLast
    | cons b news =>
      rw [hRest] at hLast
      refine Or.inl ?_
      rw [List.getLast?_cons]
      rw [List.getLast?_cons] at hLast
      exact congrArg some hLast

/-- What is known of a link stays known while its attempt is there and its device does not ask
again. -/
theorem knows_of {l' : Loop} {id : Nat} {udi : String} (h : l.knows id udi)
    (hAttempt : l'.daemon.links.attempt? udi = l.daemon.links.attempt? udi)
    (hOrigins : ∀ (n : Nat) (o : Nat × Nat), l.origins[n]? = some o → l'.origins[n]? = some o)
    (hCount : l'.handled.count id = l.handled.count id) : l'.knows id udi := by
  obtain ⟨a, ha, hOrigin⟩ := h
  refine ⟨a, hAttempt.trans ha, ?_⟩
  rw [hCount]
  exact hOrigins _ _ hOrigin

theorem count_handled {id x : Nat} (hNe : id ≠ x) : (l.handled ++ [x]).count id = l.handled.count id := by
  rw [List.count_append, List.count_cons_of_ne (Ne.symm hNe), List.count_nil, Nat.add_zero]

theorem le_count_handled (x id : Nat) : l.handled.count id ≤ (l.handled ++ [x]).count id :=
  (List.sublist_append_left l.handled [x]).count_le id

/-- An event that asks for no link gives up the attempt of a device that has left its activation,
at most. -/
theorem Sound.event_other (h : l.Sound) {event : ManagerEvent} {rest : List ManagerEvent}
    (hEvents : l.daemon.manager.events = event :: rest) (hAsks : event.asksLink? = none) :
    Sound { l with daemon := (publishing l.daemon rest).handleEvent event } := by
  obtain ⟨d', hDevices, hSame, hLinks⟩ := (publishing l.daemon rest).handleEvent_links event
  obtain ⟨hNext, hAttempt⟩ := Daemon.followLink_stops (d := d') hAsks
  rw [← hLinks, hSame] at hNext hAttempt
  refine ⟨h.take hEvents ?_ ?_, h.next.trans hNext.symm, h.bound, h.distinct⟩
  · intro d _ hSome
    rw [hAsks] at hSome
    cases hSome
  · intro d hd hNews hKnows
    refine knows_of hKnows (hAttempt d.udi ?_) (fun _ _ ho => ho) rfl
    intro id device hEnded hDevice hUdi
    rw [hDevices] at hDevice
    obtain ⟨hMem, rfl⟩ := Manager.device?_eq_some (m := l.daemon.manager) hDevice
    rw [h.settled.linked.eq_of_udi hd hMem hUdi, hEnded] at hNews
    cases hNews

/-- A link request of a device that is gone. -/
theorem Sound.event_absent (h : l.Sound) {event : ManagerEvent} {rest : List ManagerEvent} {id : Nat}
    (hEvents : l.daemon.manager.events = event :: rest) (hAsks : event.asksLink? = some id)
    (hNone : l.daemon.manager.device? id = none) :
    Sound { l with daemon := (publishing l.daemon rest).handleEvent event
                   handled := l.handled ++ [id] } := by
  obtain ⟨d', hDevices, hSame, hLinks⟩ := (publishing l.daemon rest).handleEvent_links event
  rw [Daemon.followLink_asks_absent hAsks ((hDevices id).trans hNone), hSame] at hLinks
  have hNe : ∀ d ∈ l.daemon.manager.devices, d.id ≠ id := by
    rintro d hd rfl
    rw [h.settled.linked.device?_of_mem hd] at hNone
    cases hNone
  refine ⟨h.take hEvents ?_ ?_, h.next.trans (congrArg Links.next hLinks).symm, ?_, h.distinct⟩
  · intro d hd hSome
    rw [hAsks, Option.some_inj] at hSome
    exact absurd hSome.symm (hNe d hd)
  · intro d hd _ hKnows
    exact knows_of hKnows (congrArg (Links.attempt? · d.udi) hLinks) (fun _ _ ho => ho)
      (count_handled (hNe d hd))
  · exact fun o ho => Nat.le_trans (h.bound o ho) (le_count_handled id o.1)

/-- What is recorded of a new attempt fits what is recorded of the earlier ones, as no earlier
attempt follows a request that is handled only now. -/
theorem Sound.recorded (h : l.Sound) (id : Nat) :
    (∀ o ∈ l.origins ++ [(id, (l.handled ++ [id]).count id)],
        o.2 ≤ (l.handled ++ [id]).count o.1) ∧
      (l.origins ++ [(id, (l.handled ++ [id]).count id)]).Nodup := by
  constructor
  · intro o ho
    rcases List.mem_append.mp ho with ho | ho
    · exact Nat.le_trans (h.bound o ho) (le_count_handled id o.1)
    · obtain rfl := List.mem_singleton.mp ho
      exact Nat.le_refl _
  · have hNew : ∀ o ∈ l.origins, o ≠ (id, (l.handled ++ [id]).count id) := by
      rintro o ho rfl
      have hBound := h.bound _ ho
      rw [List.count_append, List.count_singleton_self] at hBound
      exact Nat.not_succ_le_self _ hBound
    have hOld : (l.origins.map fun o => o).Nodup := by
      rw [List.map_id']
      exact h.distinct
    have hAll := nodup_map_concat hOld hNew
    rw [List.map_id'] at hAll
    exact hAll

/-- A link request of a device that is there starts an attempt. -/
theorem Sound.event_asks (h : l.Sound) {event : ManagerEvent} {rest : List ManagerEvent} {id : Nat}
    (hEvents : l.daemon.manager.events = event :: rest) (hAsks : event.asksLink? = some id)
    {device : Device} (hDevice : l.daemon.manager.device? id = some device) :
    Sound { l with daemon := (publishing l.daemon rest).handleEvent event
                   handled := l.handled ++ [id]
                   origins := l.origins ++ [(id, (l.handled ++ [id]).count id)] } := by
  obtain ⟨d', hDevices, hSame, hLinks⟩ := (publishing l.daemon rest).handleEvent_links event
  rw [Daemon.followLink_asks hAsks ((hDevices id).trans hDevice), hSame] at hLinks
  have hAttempt := fun p => (congrArg (Links.attempt? · p) hLinks).trans
    (l.daemon.links.attempt?_connect d'.manager.now device.udi p)
  obtain ⟨hMem, rfl⟩ := Manager.device?_eq_some hDevice
  obtain ⟨hBound, hDistinct⟩ := h.recorded device.id
  refine ⟨h.take hEvents ?_ ?_, ?_, hBound, hDistinct⟩
  · -- the device that asks is known by the new attempt
    intro d hd hSome
    rw [hAsks, Option.some_inj] at hSome
    have hFound := h.settled.linked.device?_of_mem hd
    rw [← hSome, hDevice] at hFound
    cases hFound
    refine ⟨_, (hAttempt device.udi).trans (if_pos rfl), ?_⟩
    show (l.origins ++ [_])[l.daemon.links.next]? = _
    rw [← h.next, List.getElem?_concat_length]
  · intro d hd hNews hKnows
    have hNe : d.id ≠ device.id := by
      intro hId
      rw [ManagerEvent.linkNews?_asks hAsks, if_pos hId.symm] at hNews
      cases hNews
    have hUdi : d.udi ≠ device.udi := fun hUdi =>
      hNe (congrArg Device.id (h.settled.linked.eq_of_udi hd hMem hUdi))
    refine knows_of hKnows ((hAttempt d.udi).trans (if_neg hUdi)) (fun n o ho => ?_)
      (count_handled hNe)
    show (l.origins ++ [_])[n]? = _
    rw [List.getElem?_append_left (List.getElem?_eq_some_iff.mp ho).1]
    exact ho
  · show (l.origins ++ [_]).length = ((publishing l.daemon rest).handleEvent event).links.next
    rw [hLinks, List.length_append, h.next]
    rfl

theorem Sound.event (h : l.Sound) {event : ManagerEvent} {rest : List ManagerEvent}
    (hEvents : l.daemon.manager.events = event :: rest) :
    Sound { l.note event with daemon := (publishing l.daemon rest).handleEvent event } := by
  unfold note
  cases hAsks : event.asksLink? with
  | none => exact h.event_other hEvents hAsks
  | some id =>
    dsimp only
    cases hDevice : l.daemon.manager.device? id with
    | none => exact h.event_absent hEvents hAsks hDevice
    | some device => exact h.event_asks hEvents hAsks hDevice

/-- A remote device that is gone takes its device and its attempt along. -/
theorem Sound.dismiss (h : l.Sound) (path : String) :
    Sound { l with daemon := l.daemon.dismiss path } := by
  unfold Daemon.dismiss
  split
  · exact h
  · rename_i device hDevice
    obtain ⟨hMem, rfl⟩ := Manager.deviceByUdi?_eq_some hDevice
    obtain ⟨hNext, hAttempt⟩ := l.daemon.disconnect_links device.udi
    have hLinks := ((l.daemon.disconnect device.udi).operate_eq
      (l.daemon.manager.removeDevice device.id)).2
    refine ⟨settled_operate _ (h.settled.removeDevice_retold device.id ?_), ?_, h.bound, h.distinct⟩
    · intro d hd hNe hKnows
      refine knows_of hKnows ?_ (fun _ _ ho => ho) rfl
      show (Daemon.links _).attempt? d.udi = _
      rw [hLinks]
      exact hAttempt d.udi fun hUdi =>
        hNe (congrArg Device.id (h.settled.linked.eq_of_udi hd hMem hUdi))
    · show _ = (Daemon.links _).next
      rw [hLinks, hNext]
      exact h.next

theorem Sound.hear (h : l.Sound) (message : LinkMessage) (messages : List LinkMessage) :
    Sound { l with daemon := l.daemon.hear message, messages } := by
  unfold Daemon.hear
  split
  · exact ⟨h.settled, h.next, h.bound, h.distinct⟩
  · exact h.operate (h.settled.linkChanged _ _) messages

/-- What is heard is of no consequence, or an attempt gets on and sends a message. -/
theorem heard_cases (l : Loop) {said : Links × Option LinkMessage}
    (h : ∀ links message, said = (links, some message) →
      ∃ number phase, links = l.daemon.links.setPhase number phase) :
    l.heard said = l ∨ ∃ number phase messages, l.heard said = { l with
      daemon := { l.daemon with links := l.daemon.links.setPhase number phase }, messages } := by
  obtain ⟨links, _ | message⟩ := said
  · exact Or.inl rfl
  · obtain ⟨number, phase, rfl⟩ := h links message rfl
    exact Or.inr ⟨number, phase, _, rfl⟩

theorem answered_cases (l : Loop) (attempt : Nat) (success : Bool) :
    l.turn (.answered attempt success) = l ∨ ∃ number phase messages,
      l.turn (.answered attempt success) = { l with
        daemon := { l.daemon with links := l.daemon.links.setPhase number phase }, messages } :=
  l.heard_cases fun _ _ hHeard => ⟨attempt, l.daemon.links.answered_cases attempt success hHeard⟩

theorem lost_cases (l : Loop) (path : String) :
    l.turn (.lost path) = l ∨ ∃ number phase messages, l.turn (.lost path) = { l with
      daemon := { l.daemon with links := l.daemon.links.setPhase number phase }, messages } :=
  l.heard_cases fun _ _ hHeard => l.daemon.links.lost_cases path hHeard

/-- A turn preserves the invariant. -/
theorem turn_sound (h : l.Sound) (turn : Turn) : (l.turn turn).Sound := by
  cases turn with
  | operation operation =>
    exact h.operate (Manager.operate_settled h.settled operation) l.messages
  | event =>
    dsimp only [Loop.turn]
    split
    · exact h
    · rename_i event rest hEvents
      exact h.event hEvents
  | deviceGone path => exact h.dismiss path
  | answered attempt success =>
    rcases l.answered_cases attempt success with hSame | ⟨number, phase, messages, hTurn⟩
    · rw [hSame]
      exact h
    · rw [hTurn]
      exact h.heard number phase messages
  | lost path =>
    rcases l.lost_cases path with hSame | ⟨number, phase, messages, hTurn⟩
    · rw [hSame]
      exact h
    · rw [hTurn]
      exact h.heard number phase messages
  | message =>
    dsimp only [Loop.turn]
    split
    · exact h
    · rename_i message rest hMessages
      exact h.hear message rest

/-- So does a run. -/
theorem run_sound (h : l.Sound) (turns : List Turn) : (l.run turns).Sound := by
  induction turns generalizing l with
  | nil => exact h
  | cons turn turns ih => exact ih (turn_sound h turn)

theorem start_sound (store : StateStore) (allowed : List Nat) (timeout : Option Nat) (epoch : Nat)
    (logging : LogControl) (connectTimeout : Nat) :
    (start (.start (.start store allowed timeout epoch) logging connectTimeout)).Sound where
  settled := Manager.start_settled store allowed timeout epoch
  next := rfl
  bound _ ho := absurd ho List.not_mem_nil
  distinct := List.nodup_nil

/-- Served at once, what an attempt hears is what the daemon makes of the answer to its call. -/
theorem answered_message {d : Daemon} {attempt : Nat} {success : Bool} {links : Links}
    {message : LinkMessage} (hHeard : d.links.answered attempt success = (links, some message))
    (hKnown : (d.manager.deviceByUdi? message.path).isSome = true) :
    d.connectAnswered attempt success =
      ((start d).run [.answered attempt success, .message]).daemon.publish := by
  have hTurn : ((start d).turn (.answered attempt success)) =
      { start d with daemon := { d with links }, messages := [message] } := by
    show (start d).heard (d.links.answered attempt success) = _
    rw [hHeard]
    rfl
  unfold Daemon.connectAnswered Daemon.linkMessage
  rw [hHeard]
  dsimp only
  rw [if_pos hKnown]
  show _ = (((start d).turn (.answered attempt success)).turn .message).daemon.publish
  rw [hTurn]
  rfl

end Loop

end ScannerHub
