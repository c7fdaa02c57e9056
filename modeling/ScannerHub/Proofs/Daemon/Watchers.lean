import ScannerHub.Proofs.Daemon.LinkMessages
import ScannerHub.Proofs.Manager.Default
import ScannerHub.Proofs.Manager.LinkNews

/-!
# Links neither leak nor go missing

The daemon starts an attempt to bring up a link when it comes to a request for it, and gives the
attempt up when it comes to the end of the activation. Both may be long after they happened: the
device may have started again, failed, gone, or come back under the same path with a new number.

That a device which is active has its attempt follows from what is said of active devices
(`Manager.Settled.link`). For the converse two things are needed: every attempt belongs to a device
that is there, and of a device that rests the last word is that its link is given up, or nobody has
an attempt for it (`Manager.Speaks`).

* `Loop.Serves` — the attempt for a path was made for a device;
* `Manager.Reports` — what a manager says of links between two operations;
* `Loop.Watched` — the invariant.

## Results

* `turn_watched` — a turn preserves the invariant, unless devices are taken away behind the back of
  the daemon;
* `run_watched_iff` — whenever no event waits there is an attempt for exactly the bluetooth devices
  that are active.
-/

namespace ScannerHub

/-- Whether an operation takes away devices. The daemon gives up the link of a device that goes, so
it does not leave this to the manager alone, except for devices without a link and at its end. -/
def Operation.removes : Operation → Bool
  | removeDevice _ | removeDeviceByInterface _ | shutdown => true
  | _ => false

theorem Operation.not_may_departs {operation : Operation} (h : operation.removes = false) (id : Nat) :
    ¬ operation.May (.departs id) := by
  intro hMay
  cases hMay <;> cases h

/-- An event that tells of an inactive device is one at which a link is given up, if the device has
a link at all. -/
theorem ManagerEvent.ends_of_news {event : ManagerEvent} {id : Nat}
    (h : event.linkNews? id = some false) : ∃ new old reason,
      event = .deviceStateChanged id new old reason ∧
        (new = .unknown ∨ Daemon.dropsLink new = true) := by
  cases event with
  | deviceStateChanged device new old reason =>
    change (if device = id ∧ new.isActive = false then some false else none) = some false at h
    split at h
    · rename_i hIdle
      obtain ⟨rfl, hIdle⟩ := hIdle
      refine ⟨new, old, reason, rfl, ?_⟩
      revert hIdle
      cases new <;> decide
    · cases h
  | linkRequested device request =>
    change (if device = id then some true else none) = some false at h
    split at h <;> cases h
  | _ => cases h

/-- No device is said to be in a state that cannot be told. -/
theorem Observer.Hears.named {o : Observer} {events : List ManagerEvent} (h : o.Hears events)
    (id : Nat) (old : DeviceState) (reason : StateReason) :
    .deviceStateChanged id .unknown old reason ∉ events := by
  induction events generalizing o with
  | nil => exact List.not_mem_nil
  | cons e events ih =>
    intro hMem
    rcases List.mem_cons.mp hMem with rfl | hMem
    · have hMove : old.CanMove .unknown := h.1.2
      revert hMove
      cases old <;> decide
    · exact ih h.2 hMem

-- ---------------------------------------------------------------------------
-- What the manager says
-- ---------------------------------------------------------------------------

namespace Manager

/-- A manager between two operations, and what it says of links. -/
structure Reports (B : Nat → String → Prop) (m : Manager) : Prop where
  rested : m.Rested fun _ _ => True
  speaks : m.Speaks B
  named : ∀ id old reason, .deviceStateChanged id .unknown old reason ∉ m.events

variable {B B' : Nat → String → Prop} {m : Manager}

theorem Reports.operate (h : m.Reports B) (operation : Operation) :
    (m.operate operation).Reports B := by
  obtain ⟨τ, hTracks⟩ := tracks_of h.rested.linked h.rested.queue
  obtain ⟨-, news, hEvents, hHears, -⟩ := h.rested.operate_tracked operation hTracks
  refine ⟨h.rested.operate operation,
    h.rested.toSettled.operate_speaks h.rested.dormant operation h.speaks, fun id old reason => ?_⟩
  have hAll : (m.operate operation).events = m.events ++ news := hEvents
  rw [hAll, List.mem_append, not_or]
  exact ⟨h.named id old reason, hHears.named id old reason⟩

theorem Reports.run (h : m.Reports B) (operations : List Operation) : (m.run operations).Reports B := by
  induction operations generalizing m with
  | nil => exact h
  | cons operation operations ih => exact ih (h.operate operation)

/-- Fewer attempts are known of. -/
theorem Reports.weaken (h : m.Reports B) (hFewer : ∀ id udi, B id udi → B' id udi) :
    m.Reports B' := by
  refine ⟨h.rested, ⟨fun id d hd => ?_, fun id hId => ?_⟩, h.named⟩
  · have hSite := h.speaks.sites id d hd
    exact ⟨hSite.silent, fun hLink hIdle => (hSite.ends hLink hIdle).imp_right fun hNone =>
      ⟨hNone.1, hFewer _ _ hNone.2⟩⟩
  · obtain ⟨hNews, hNone⟩ := h.speaks.unborn id hId
    exact ⟨hNews, fun udi => hFewer id udi (hNone udi)⟩

/-- The oldest event is taken. Of no device an attempt may turn up that the event does not ask for, and
a device that is said to be inactive must have lost its attempt. -/
theorem Reports.taken (h : m.Reports B) {event : ManagerEvent} {rest : List ManagerEvent}
    (hEvents : m.events = event :: rest)
    (hEnds : ∀ d ∈ m.devices, d.hasLink = true → event.linkNews? d.id = some false → B' d.id d.udi)
    (hKeeps : ∀ id udi, event.linkNews? id = none → B id udi → B' id udi) :
    Reports B' { m with events := rest } := by
  have hNews : ∀ id, (m.site id).allNews =
      (event.linkNews? id).toList ++ (({ m with events := rest } : Manager).site id).allNews := by
    intro id
    show m.events.filterMap _ ++ _ = _ ++ (rest.filterMap _ ++ _)
    rw [hEvents, ← List.append_assoc]
    congr 1
    cases hNews : event.linkNews? id with
    | none => rw [List.filterMap_cons_none hNews, Option.toList_none, List.nil_append]
    | some b => rw [List.filterMap_cons_some hNews, Option.toList_some, List.singleton_append]
  refine ⟨h.rested.next hEvents, ⟨fun id d hd => ?_, fun id hId => ?_⟩, fun id old reason hMem => ?_⟩
  · obtain ⟨hMem, rfl⟩ := device?_eq_some (m := m) hd
    have hSite := h.speaks.sites d.id d hd
    refine ⟨fun hLink hAsks => hSite.silent hLink ?_, fun hLink hIdle => ?_⟩
    · rw [hNews]
      exact List.mem_append_right _ hAsks
    · have hOld := hSite.ends hLink hIdle
      rw [hNews] at hOld
      cases hFirst : event.linkNews? d.id with
      | none =>
        rw [hFirst, Option.toList_none, List.nil_append] at hOld
        exact hOld.imp_right fun hNone => ⟨hNone.1, hKeeps _ _ hFirst hNone.2⟩
      | some b =>
        rw [hFirst, Option.toList_some, List.singleton_append, List.getLast?_cons] at hOld
        have hLast := hOld.resolve_right fun hNone => List.cons_ne_nil _ _ hNone.1
        cases hRest : (({ m with events := rest } : Manager).site d.id).allNews with
        | nil =>
          rw [hRest] at hLast
          refine Or.inr ⟨rfl, hEnds d hMem hLink ?_⟩
          rw [hFirst]
          exact hLast
        | cons b' news =>
          rw [hRest] at hLast
          refine Or.inl ?_
          rw [List.getLast?_cons]
          rw [List.getLast?_cons] at hLast
          exact hLast
  · obtain ⟨hNone, hNobody⟩ := h.speaks.unborn id hId
    rw [hNews, List.append_eq_nil_iff, Option.toList_eq_nil_iff] at hNone
    exact ⟨hNone.2, fun udi => hKeeps id udi hNone.1 (hNobody udi)⟩
  · exact h.named id old reason (hEvents ▸ List.mem_cons_of_mem event hMem)

end Manager

-- ---------------------------------------------------------------------------
-- Attempts that are given up
-- ---------------------------------------------------------------------------

namespace Daemon

theorem attempt?_disconnect (d : Daemon) (path p : String) :
    (d.disconnect path).links.attempt? p = if p = path then none else d.links.attempt? p := by
  unfold disconnect
  split
  · rename_i links hStop
    have hLinks : links = (d.links.stop path).1 := (congrArg Prod.fst hStop).symm
    show links.attempt? p = _
    rw [hLinks]
    exact d.links.attempt?_stop path p
  · rename_i hStop
    split
    · rename_i hp
      have hNone : (d.links.attempt? path).isSome = false := congrArg Prod.snd hStop
      rw [hp]
      exact Option.not_isSome_iff_eq_none.mp (by rw [hNone]; exact Bool.false_ne_true)
    · rfl

/-- The link of a device that is said to be inactive is given up. -/
theorem followLink_drops {d : Daemon} {device : Device} {new old : DeviceState} {reason : StateReason}
    (hd : d.manager.device? device.id = some device) (hLink : device.hasLink = true)
    (hDrops : dropsLink new = true) :
    (d.followLink (.deviceStateChanged device.id new old reason)).links.attempt? device.udi = none := by
  have hType : device.type = .bluetooth := beq_iff_eq.mp hLink
  unfold followLink
  dsimp only
  rw [hd, Option.filter_some, if_pos (decide_eq_true ⟨hType, hDrops⟩)]
  exact (d.attempt?_disconnect device.udi device.udi).trans (if_pos rfl)

/-- An event that asks for no link starts no attempt. -/
theorem followLink_fewer {d : Daemon} {event : ManagerEvent} (hAsks : event.asksLink? = none)
    {p : String} {a : LinkAttempt} (h : (d.followLink event).links.attempt? p = some a) :
    d.links.attempt? p = some a := by
  cases event with
  | linkRequested id request => cases hAsks
  | deviceStateChanged id new old reason =>
    unfold followLink at h
    dsimp only at h
    split at h
    · exact h
    · rw [attempt?_disconnect] at h
      split at h
      · cases h
      · exact h
  | _ => exact h

end Daemon

-- ---------------------------------------------------------------------------
-- The invariant
-- ---------------------------------------------------------------------------

namespace Loop

/-- The attempt for a path was made for a device. -/
def Serves (l : Loop) (id : Nat) (udi : String) : Prop :=
  ∃ a, l.daemon.links.attempt? udi = some a ∧ ∃ n, l.origins[a.number]? = some (id, n)

/-- The invariant: what the manager says of links is right of the attempts that there are, and every
attempt is for a device that is there. -/
structure Watched (l : Loop) : Prop where
  sound : l.Sound
  reports : l.daemon.manager.Reports fun id udi => ¬ l.Serves id udi
  placed : ∀ path, (l.daemon.links.attempt? path).isSome = true →
    ∃ d ∈ l.daemon.manager.devices, d.udi = path ∧ d.hasLink = true ∧ l.Serves d.id path

variable {l l' : Loop}

/-- An attempt that gets on serves the same device. -/
theorem Serves.of_number {id : Nat} {udi : String} (h : l.Serves id udi)
    (hNumber : (l'.daemon.links.attempt? udi).map LinkAttempt.number =
      (l.daemon.links.attempt? udi).map LinkAttempt.number) (hOrigins : l'.origins = l.origins) :
    l'.Serves id udi := by
  obtain ⟨a, ha, n, hOrigin⟩ := h
  rw [ha, Option.map_some] at hNumber
  obtain ⟨a', ha', hSame⟩ := Option.map_eq_some_iff.mp hNumber
  exact ⟨a', ha', n, by rw [hOrigins, hSame]; exact hOrigin⟩

theorem Serves.of_fewer {id : Nat} {udi : String} (h : l'.Serves id udi)
    (hFewer : ∀ a, l'.daemon.links.attempt? udi = some a → l.daemon.links.attempt? udi = some a)
    (hOrigins : l'.origins = l.origins) : l.Serves id udi := by
  obtain ⟨a, ha, n, hOrigin⟩ := h
  exact ⟨a, hFewer a ha, n, hOrigins ▸ hOrigin⟩

/-- Effects that are carried out are forgotten. -/
theorem reports_operate {B : Nat → String → Prop} (d : Daemon) {m : Manager} (h : m.Reports B) :
    (d.operate m).manager.Reports B := by
  have hRested := rested_operate d h.rested
  rw [(d.operate_eq m).1] at hRested ⊢
  exact ⟨hRested, h.speaks.of_eq (fun _ => rfl) (fun _ => rfl) rfl, h.named⟩

/-- A turn in which the manager works and the attempts are left alone. -/
theorem Watched.operate (h : l.Watched) {operation : Operation} (hStay : operation.removes = false)
    (messages : List LinkMessage) : Watched { l with
      daemon := l.daemon.operate (l.daemon.manager.operate operation), messages } := by
  obtain ⟨hManager, hLinks⟩ := l.daemon.operate_eq (l.daemon.manager.operate operation)
  have hServes : Loop.Serves { l with
      daemon := l.daemon.operate (l.daemon.manager.operate operation), messages } = l.Serves := by
    funext id udi
    unfold Serves
    rw [hLinks]
  refine ⟨h.sound.operate (Manager.operate_settled h.sound.settled operation) messages, ?_,
    fun path hSome => ?_⟩
  · rw [hServes]
    exact reports_operate l.daemon (h.reports.operate operation)
  · dsimp only at hSome
    rw [hLinks] at hSome
    obtain ⟨d, hd, rfl, hLink, hServed⟩ := h.placed path hSome
    obtain ⟨d', hd', hRemains⟩ := (h.sound.settled.operate_steps operation).remains
      (h.sound.settled.linked.device?_of_mem hd) (Operation.not_may_departs hStay d.id)
    rw [hServes]
    refine ⟨d', ?_, hRemains.udi, hRemains.hasLink.trans hLink, hRemains.id ▸ hServed⟩
    show d' ∈ (Daemon.operate _ _).manager.devices
    rw [hManager]
    exact (Manager.device?_eq_some hd').1

-- ---------------------------------------------------------------------------
-- Published events
-- ---------------------------------------------------------------------------

/-- What the manager says after an event was handled. -/
theorem Watched.handled (h : l.Watched) {event : ManagerEvent} {rest : List ManagerEvent}
    {B : Nat → String → Prop} (hEvents : l.daemon.manager.events = event :: rest)
    (hEnds : ∀ d ∈ l.daemon.manager.devices, d.hasLink = true →
      event.linkNews? d.id = some false → B d.id d.udi)
    (hKeeps : ∀ id udi, event.linkNews? id = none → ¬ l.Serves id udi → B id udi) :
    ((publishing l.daemon rest).handleEvent event).manager.Reports B := by
  rw [Daemon.handleEvent_manager, Policy.handle_run]
  exact (h.reports.taken hEvents hEnds hKeeps).run _

/-- The devices are those that there were. -/
theorem devices_handleEvent (d : Daemon) (event : ManagerEvent) :
    (d.handleEvent event).manager.devices = d.manager.devices := by
  rw [Daemon.handleEvent_manager]
  exact Policy.devices_handle _ _ _

theorem Watched.event_other (h : l.Watched) {event : ManagerEvent} {rest : List ManagerEvent}
    (hEvents : l.daemon.manager.events = event :: rest) (hAsks : event.asksLink? = none) :
    Watched { l with daemon := (publishing l.daemon rest).handleEvent event } := by
  obtain ⟨d', hDevices, hSame, hLinks⟩ := (publishing l.daemon rest).handleEvent_links event
  have hFewer : ∀ p a, ((publishing l.daemon rest).handleEvent event).links.attempt? p = some a →
      l.daemon.links.attempt? p = some a := by
    intro p a ha
    rw [hLinks] at ha
    have hOld := Daemon.followLink_fewer hAsks ha
    rw [hSame] at hOld
    exact hOld
  refine ⟨h.sound.event_other hEvents hAsks, h.handled hEvents ?_ ?_, fun path hSome => ?_⟩
  · rintro d hd hLink hNews ⟨a, ha, -⟩
    obtain ⟨new, old, reason, rfl, hEnds⟩ := ManagerEvent.ends_of_news hNews
    have hDrops : Daemon.dropsLink new = true := by
      refine hEnds.resolve_left ?_
      rintro rfl
      exact h.reports.named d.id old reason (hEvents ▸ List.mem_cons_self)
    have hFound : d'.manager.device? d.id = some d :=
      (hDevices d.id).trans (h.sound.settled.linked.device?_of_mem hd)
    dsimp only at ha
    rw [hLinks, Daemon.followLink_drops hFound hLink hDrops] at ha
    cases ha
  · exact fun id udi _ hNot hServes => hNot (hServes.of_fewer (hFewer udi) rfl)
  · obtain ⟨a, ha⟩ := Option.isSome_iff_exists.mp hSome
    obtain ⟨d, hd, rfl, hLink, a', ha', n, hOrigin⟩ :=
      h.placed path (Option.isSome_iff_exists.mpr ⟨a, hFewer path a ha⟩)
    rw [hFewer d.udi a ha] at ha'
    cases ha'
    exact ⟨d, (devices_handleEvent _ event).symm ▸ hd, rfl, hLink, a, ha, n, hOrigin⟩

/-- A request for the link of a device that is gone. -/
theorem Watched.event_absent (h : l.Watched) {event : ManagerEvent} {rest : List ManagerEvent}
    {id : Nat} (hEvents : l.daemon.manager.events = event :: rest)
    (hAsks : event.asksLink? = some id) (hNone : l.daemon.manager.device? id = none) :
    Watched { l with daemon := (publishing l.daemon rest).handleEvent event
                     handled := l.handled ++ [id] } := by
  obtain ⟨d', hDevices, hSame, hLinks⟩ := (publishing l.daemon rest).handleEvent_links event
  rw [Daemon.followLink_asks_absent hAsks ((hDevices id).trans hNone), hSame] at hLinks
  have hServes : Loop.Serves { l with daemon := (publishing l.daemon rest).handleEvent event
                                      handled := l.handled ++ [id] } = l.Serves := by
    funext id udi
    unfold Serves
    rw [hLinks]
    rfl
  refine ⟨h.sound.event_absent hEvents hAsks hNone, h.handled hEvents ?_ ?_, fun path hSome => ?_⟩
  · intro d hd _ hNews
    rw [ManagerEvent.linkNews?_asks hAsks] at hNews
    split at hNews <;> cases hNews
  · intro id udi _ hNot
    rw [hServes]
    exact hNot
  · dsimp only at hSome
    rw [hLinks] at hSome
    obtain ⟨d, hd, hUdi, hLink, hServed⟩ := h.placed path hSome
    rw [hServes]
    exact ⟨d, (devices_handleEvent _ event).symm ▸ hd, hUdi, hLink, hServed⟩

/-- A request for the link of a device that is there. -/
theorem Watched.event_asks (h : l.Watched) {event : ManagerEvent} {rest : List ManagerEvent}
    {id : Nat} (hEvents : l.daemon.manager.events = event :: rest)
    (hAsks : event.asksLink? = some id) {device : Device}
    (hDevice : l.daemon.manager.device? id = some device) :
    Watched { l with daemon := (publishing l.daemon rest).handleEvent event
                     handled := l.handled ++ [id]
                     origins := l.origins ++ [(id, (l.handled ++ [id]).count id)] } := by
  obtain ⟨d', hDevices, hSame, hLinks⟩ := (publishing l.daemon rest).handleEvent_links event
  rw [Daemon.followLink_asks hAsks ((hDevices id).trans hDevice), hSame] at hLinks
  have hAttempt := fun p => (congrArg (Links.attempt? · p) hLinks).trans
    (l.daemon.links.attempt?_connect d'.manager.now device.udi p)
  obtain ⟨hMem, rfl⟩ := Manager.device?_eq_some hDevice
  -- the new attempt is for the device that asks, and the others are for whom they were
  have hNew : (l.origins ++ [(device.id, (l.handled ++ [device.id]).count device.id)])[
      l.daemon.links.next]? = some (device.id, (l.handled ++ [device.id]).count device.id) := by
    rw [← h.sound.next, List.getElem?_concat_length]
  have hOthers : ∀ p a, l.daemon.links.attempt? p = some a →
      (l.origins ++ [(device.id, (l.handled ++ [device.id]).count device.id)])[a.number]? =
        l.origins[a.number]? := by
    intro p a ha
    obtain ⟨_, -, -, -, a', ha', n, hOrigin⟩ := h.placed p (by rw [ha]; rfl)
    rw [ha] at ha'
    cases ha'
    exact List.getElem?_append_left (List.getElem?_eq_some_iff.mp hOrigin).1
  have hAsked : event.linkNews? device.id = some true :=
    (ManagerEvent.linkNews?_asks hAsks device.id).trans (if_pos rfl)
  refine ⟨h.sound.event_asks hEvents hAsks hDevice, h.handled hEvents ?_ ?_, fun path hSome => ?_⟩
  · intro d hd _ hNews
    rw [ManagerEvent.linkNews?_asks hAsks] at hNews
    split at hNews <;> cases hNews
  · rintro id udi hNews hNot ⟨a, ha, n, hOrigin⟩
    have hHave := (hAttempt udi).symm.trans ha
    split at hHave
    · cases hHave
      rw [show Loop.origins _ = l.origins ++ _ from rfl, hNew] at hOrigin
      cases hOrigin
      rw [hAsked] at hNews
      cases hNews
    · rename_i hUdi
      rw [show Loop.origins _ = l.origins ++ _ from rfl, hOthers udi a hHave] at hOrigin
      exact hNot ⟨a, hHave, n, hOrigin⟩
  · by_cases hUdi : path = device.udi
    · refine ⟨device, (devices_handleEvent _ event).symm ▸ hMem, hUdi.symm, ?_,
        _, (hAttempt path).trans (if_pos hUdi), _, hNew⟩
      -- no link is asked for a device that has none
      rw [← Bool.not_eq_false]
      intro hNone
      refine (h.reports.speaks.sites device.id device hDevice).silent hNone ?_
      rw [h.sound.settled.allNews]
      exact List.mem_filterMap.mpr ⟨event, hEvents ▸ List.mem_cons_self, hAsked⟩
    · have hHave := (hAttempt path).trans (if_neg hUdi)
      dsimp only at hSome hHave
      rw [hHave] at hSome
      obtain ⟨d, hd, rfl, hLink, a, ha, n, hOrigin⟩ := h.placed path hSome
      exact ⟨d, (devices_handleEvent _ event).symm ▸ hd, rfl, hLink, a, hHave.trans ha, n,
        (hOthers d.udi a ha).trans hOrigin⟩

theorem Watched.event (h : l.Watched) {event : ManagerEvent} {rest : List ManagerEvent}
    (hEvents : l.daemon.manager.events = event :: rest) :
    Watched { l.note event with daemon := (publishing l.daemon rest).handleEvent event } := by
  unfold note
  cases hAsks : event.asksLink? with
  | none => exact h.event_other hEvents hAsks
  | some id =>
    dsimp only
    cases hDevice : l.daemon.manager.device? id with
    | none => exact h.event_absent hEvents hAsks hDevice
    | some device => exact h.event_asks hEvents hAsks hDevice

-- ---------------------------------------------------------------------------
-- Every turn
-- ---------------------------------------------------------------------------

/-- A remote device that is gone takes its device and its attempt along, and no other. -/
theorem Watched.dismiss (h : l.Watched) (path : String) :
    Watched { l with daemon := l.daemon.dismiss path } := by
  have hSound := h.sound.dismiss path
  unfold Daemon.dismiss at hSound ⊢
  cases hDevice : l.daemon.manager.deviceByUdi? path with
  | none => exact h
  | some device =>
    rw [hDevice] at hSound
    dsimp only at hSound ⊢
    obtain ⟨hMem, rfl⟩ := Manager.deviceByUdi?_eq_some hDevice
    obtain ⟨hManager, hLinks⟩ := (l.daemon.disconnect device.udi).operate_eq
      (l.daemon.manager.removeDevice device.id)
    have hAttempt : ∀ p, (Daemon.operate (l.daemon.disconnect device.udi)
        (l.daemon.manager.removeDevice device.id)).links.attempt? p =
          if p = device.udi then none else l.daemon.links.attempt? p := by
      intro p
      rw [hLinks]
      exact l.daemon.attempt?_disconnect device.udi p
    refine ⟨hSound, ?_, fun p hSome => ?_⟩
    · refine Manager.Reports.weaken (reports_operate _ (h.reports.operate (.removeDevice device.id)))
        fun id udi hNot hServes => hNot (hServes.of_fewer (fun a ha => ?_) rfl)
      dsimp only at ha
      rw [hAttempt] at ha
      split at ha
      · cases ha
      · exact ha
    · dsimp only at hSome
      rw [hAttempt] at hSome
      split at hSome
      · cases hSome
      rename_i hOther
      -- the device of another attempt has another path, so it stays
      obtain ⟨d, hd, rfl, hLink, a, ha, n, hOrigin⟩ := h.placed p hSome
      have hStays : ¬ (Operation.removeDevice device.id).May (.departs d.id) := by
        intro hMay
        generalize hId : d.id = id at hMay
        cases hMay
        have hFound := h.sound.settled.linked.device?_of_mem hd
        rw [hId, h.sound.settled.linked.device?_of_mem hMem] at hFound
        cases hFound
        exact hOther rfl
      obtain ⟨d', hd', hRemains⟩ := (h.sound.settled.operate_steps (.removeDevice device.id)).remains
        (h.sound.settled.linked.device?_of_mem hd) hStays
      refine ⟨d', ?_, hRemains.udi, hRemains.hasLink.trans hLink, a,
        (hAttempt d.udi).trans ((if_neg hOther).trans ha), n, hRemains.id ▸ hOrigin⟩
      show d' ∈ (Daemon.operate _ _).manager.devices
      rw [hManager]
      exact (Manager.device?_eq_some hd').1

/-- What an attempt hears leaves it the attempt for its path. -/
theorem Watched.heard (h : l.Watched) (number : Nat) (phase : LinkPhase)
    (messages : List LinkMessage) : Watched { l with
      daemon := { l.daemon with links := l.daemon.links.setPhase number phase }, messages } := by
  have hNumber := l.daemon.links.number_setPhase number phase
  refine ⟨h.sound.heard number phase messages, ?_, fun path hSome => ?_⟩
  · exact h.reports.weaken fun id udi hNot hServes =>
      hNot (hServes.of_number (hNumber udi).symm rfl)
  · rw [← Option.isSome_map (f := LinkAttempt.number), hNumber, Option.isSome_map] at hSome
    obtain ⟨d, hd, hUdi, hLink, hServed⟩ := h.placed path hSome
    exact ⟨d, hd, hUdi, hLink, hServed.of_number (hNumber path) rfl⟩

end Loop

/-- Whether a turn takes away devices behind the back of the daemon. -/
def Turn.removes : Turn → Bool
  | .operation asked => asked.removes
  | _ => false

namespace Loop

variable {l : Loop}

/-- A turn preserves the invariant. -/
theorem turn_watched (h : l.Watched) {turn : Turn} (hStay : turn.removes = false) :
    (l.turn turn).Watched := by
  cases turn with
  | operation operation => exact h.operate hStay l.messages
  | event =>
    dsimp only [Loop.turn]
    split
    · exact h
    · rename_i event rest hEvents
      exact h.event hEvents
  | deviceGone path => exact h.dismiss path
  | answered attempt success =>
    rcases l.answered_cases attempt success with hSame | ⟨number, phase, messages, hTurn⟩
    · rw [hSame]
      exact h
    · rw [hTurn]
      exact h.heard number phase messages
  | lost path =>
    rcases l.lost_cases path with hSame | ⟨number, phase, messages, hTurn⟩
    · rw [hSame]
      exact h
    · rw [hTurn]
      exact h.heard number phase messages
  | message =>
    dsimp only [Loop.turn]
    split
    · exact h
    · rename_i message rest hMessages
      unfold Daemon.hear
      split
      · exact ⟨⟨h.sound.settled, h.sound.next, h.sound.bound, h.sound.distinct⟩, h.reports, h.placed⟩
      · rename_i device _
        exact h.operate (show (Operation.linkChanged device.id message.up).removes = false from rfl) rest

/-- So does a run. -/
theorem run_watched (h : l.Watched) {turns : List Turn} (hStay : ∀ turn ∈ turns, turn.removes = false) :
    (l.run turns).Watched := by
  induction turns generalizing l with
  | nil => exact h
  | cons turn turns ih =>
    exact ih (turn_watched h (hStay turn List.mem_cons_self))
      fun t ht => hStay t (List.mem_cons_of_mem turn ht)

theorem start_watched (store : StateStore) (allowed : List Nat) (timeout : Option Nat) (epoch : Nat)
    (logging : LogControl) (connectTimeout : Nat) :
    (start (.start (.start store allowed timeout epoch) logging connectTimeout)).Watched where
  sound := start_sound store allowed timeout epoch logging connectTimeout
  reports :=
    { rested := Manager.start_rested store allowed timeout epoch
      speaks := ⟨fun _ _ hd => (by cases hd), fun _ _ => ⟨rfl, by rintro udi ⟨a, ha, -⟩; cases ha⟩⟩
      named := fun _ _ _ => List.not_mem_nil }
  placed _ hSome := by cases hSome

/-- With no word left that waits, the attempts are for the devices that are active. -/
theorem Watched.attempt_iff (h : l.Watched) (hDone : l.daemon.manager.events = []) (path : String) :
    (l.daemon.links.attempt? path).isSome = true ↔ ∃ d ∈ l.daemon.manager.devices, d.udi = path ∧
      d.type = .bluetooth ∧ (d.state = .config ∨ d.state = .needAuth ∨ d.state = .activated) := by
  have hNews : ∀ id, l.daemon.manager.news id = [] := by
    intro id
    unfold Manager.news
    rw [hDone]
    rfl
  constructor
  · intro hSome
    obtain ⟨d, hd, hUdi, hLink, hServed⟩ := h.placed path hSome
    refine ⟨d, hd, hUdi, beq_iff_eq.mp hLink, ?_⟩
    have hActive : d.state.isActive = true := by
      rw [← Bool.not_eq_false]
      intro hIdle
      have hEnds := (h.reports.speaks.sites d.id d (h.sound.settled.linked.device?_of_mem hd)).ends
        hLink hIdle
      rw [h.sound.settled.allNews, hNews] at hEnds
      rcases hEnds with hLast | ⟨-, hNobody⟩
      · cases hLast
      · exact hNobody (hUdi ▸ hServed)
    have hSteady := h.sound.settled.steady hd
    revert hActive hSteady
    cases d.state <;> decide
  · rintro ⟨d, hd, rfl, hType, hState⟩
    have hActive : d.state.isActive = true := by
      rcases hState with hState | hState | hState <;> rw [hState] <;> rfl
    rcases h.sound.settled.link hd (beq_iff_eq.mpr hType) hActive with hAsked | ⟨-, a, ha, -⟩
    · rw [hNews] at hAsked
      cases hAsked
    · rw [ha]
      rfl

/-- Whatever happens in whatever order, as long as no device is taken away behind the back of the
daemon: whenever no event waits there is an attempt for a path exactly if it is the one of a bluetooth
device that configures itself, waits for secrets, or is activated. -/
theorem run_watched_iff (store : StateStore) (allowed : List Nat) (timeout : Option Nat)
    (epoch : Nat) (logging : LogControl) (connectTimeout : Nat) (turns : List Turn)
    (hStay : ∀ turn ∈ turns, turn.removes = false) :
    let l := (start (.start (.start store allowed timeout epoch) logging connectTimeout)).run turns
    l.daemon.manager.events = [] → ∀ path, (l.daemon.links.attempt? path).isSome = true ↔
      ∃ d ∈ l.daemon.manager.devices, d.udi = path ∧ d.type = .bluetooth ∧
        (d.state = .config ∨ d.state = .needAuth ∨ d.state = .activated) :=
  fun hDone path => (run_watched (start_watched store allowed timeout epoch logging connectTimeout)
    hStay).attempt_iff hDone path

/-- The scanner that dials up has its attempt, and no other path has one. -/
theorem run_watched_iff_dialUp :
    let l := DialUp.idle.run DialUp.dialing
    l.daemon.manager.events = [] ∧ (l.daemon.links.attempt? "/dev_A").isSome = true ∧
      ∀ path, (l.daemon.links.attempt? path).isSome = true ↔
        ∃ d ∈ l.daemon.manager.devices, d.udi = path ∧ d.type = .bluetooth ∧
          (d.state = .config ∨ d.state = .needAuth ∨ d.state = .activated) :=
  have hDone : (DialUp.idle.run DialUp.dialing).daemon.manager.events = [] := by decide +kernel
  ⟨hDone, by decide +kernel, run_watched_iff _ _ _ _ _ _ _ (by decide +kernel) hDone⟩

end Loop

end ScannerHub
