import ScannerHub.Daemon.Command
import ScannerHub.Proofs.Bus.Exhibits
import ScannerHub.Proofs.Daemon.Loop
import ScannerHub.Proofs.Manager.Default

/-!
# Writers of a property

The manager object shows whether networking is enabled. What it shows is set by two: by the daemon,
when it comes to the event that tells of a change, and by a client whose write of the property was
accepted. The client stores the value that it wrote when it comes to it, and that may be late: the
switch may have been turned back in the meantime, and the daemon may have said so already.

So what is shown need not be what is. It is as long as nobody stores a value that was taken back
before, with no event left that would put it right.

* `Writers` — the daemon, and the clients who have not stored their value yet;
* `Writers.InTime` — a turn in which no such value is stored;
* `Writers.InStep` — with the events that wait, what is shown leads to what is.

## Results

* `inStep_store_iff` — a stored value does no harm exactly if it is stored in time;
* `run_shows` — in a run in which all values are stored in time, what is shown is what is whenever
  nothing waits;
* `not_shows_late` — a value that is stored late stays.
-/

namespace ScannerHub

-- ---------------------------------------------------------------------------
-- The switch in the events
-- ---------------------------------------------------------------------------

/-- Whether networking is enabled, as far as an event tells. -/
def ManagerEvent.networking (enabled : Bool) : ManagerEvent → Bool
  | networkingEnabledChanged enabled => enabled
  | _ => enabled

/-- Whether networking is enabled after several events. -/
def networkingAfter (enabled : Bool) (events : List ManagerEvent) : Bool :=
  events.foldl ManagerEvent.networking enabled

theorem networkingAfter_append (enabled : Bool) (events more : List ManagerEvent) :
    networkingAfter enabled (events ++ more) = networkingAfter (networkingAfter enabled events) more :=
  List.foldl_append

/-- What was before does not matter, unless no event tells of the switch. -/
theorem networkingAfter_cases (events : List ManagerEvent) :
    (∃ last, .networkingEnabledChanged last ∈ events ∧ ∀ enabled, networkingAfter enabled events = last) ∨
      ((∀ last, .networkingEnabledChanged last ∉ events) ∧
        ∀ enabled, networkingAfter enabled events = enabled) := by
  induction events using List.reverseRecOn with
  | nil => exact Or.inr ⟨fun _ => List.not_mem_nil, fun _ => rfl⟩
  | append_singleton events e ih =>
    have hLast : ∀ enabled, networkingAfter enabled (events ++ [e]) =
        ManagerEvent.networking (networkingAfter enabled events) e :=
      fun enabled => networkingAfter_append enabled events [e]
    by_cases hTells : ∃ last, e = .networkingEnabledChanged last
    · obtain ⟨last, rfl⟩ := hTells
      exact Or.inl ⟨last, List.mem_append_right _ List.mem_cons_self, hLast⟩
    · have hQuiet : ∀ enabled, ManagerEvent.networking enabled e = enabled := by
        intro enabled
        cases e with
        | networkingEnabledChanged last => exact absurd ⟨last, rfl⟩ hTells
        | _ => rfl
      refine ih.imp (fun ⟨last, hMem, hAll⟩ => ?_) fun ⟨hNone, hAll⟩ => ?_
      · exact ⟨last, List.mem_append_left _ hMem, fun enabled =>
          (hLast enabled).trans ((hQuiet _).trans (hAll enabled))⟩
      · refine ⟨fun last hMem => ?_, fun enabled =>
          (hLast enabled).trans ((hQuiet _).trans (hAll enabled))⟩
        rcases List.mem_append.mp hMem with hOld | hNew
        · exact hNone last hOld
        · exact hTells ⟨last, (List.mem_singleton.mp hNew).symm⟩

theorem Observer.networking_read (o : Observer) (events : List ManagerEvent) :
    (o.read events).view.networkingEnabled = networkingAfter o.view.networkingEnabled events := by
  induction events generalizing o with
  | nil => rfl
  | cons e events ih =>
    refine (ih (o.hear e)).trans ?_
    show networkingAfter _ events = networkingAfter (ManagerEvent.networking _ e) events
    congr 1
    cases e <;> rfl

theorem BusObjects.networking_sync (o : BusObjects) (m : Manager) (e : ManagerEvent) :
    (o.sync m e).1.manager.networkingEnabled =
      ManagerEvent.networking o.manager.networkingEnabled e := by
  by_cases hElse : ∀ enabled, e ≠ .networkingEnabledChanged enabled
  · rw [o.networking_sync_elsewhere m hElse]
    cases e with
    | networkingEnabledChanged enabled => exact absurd rfl (hElse enabled)
    | _ => rfl
  · obtain ⟨enabled, hEvent⟩ := not_forall_not.mp hElse
    rw [hEvent]
    rfl

-- ---------------------------------------------------------------------------
-- What is shown
-- ---------------------------------------------------------------------------

namespace Daemon

theorem operate_objects (d : Daemon) (m : Manager) : (d.operate m).objects = d.objects := by
  unfold operate
  refine foldl_rest (P := fun _ d' => Daemon.objects d' = d.objects) (fun e _ d' h => ?_) m.effects _ rfl
  cases e <;> exact h

theorem followLink_objects (d : Daemon) (event : ManagerEvent) :
    (d.followLink event).objects = d.objects := by
  unfold followLink
  split
  · split <;> rfl
  · split
    · rfl
    · unfold disconnect
      split <;> rfl
  · rfl

/-- What is shown follows from the event alone, whatever the policy and the links make of it. -/
theorem handleEvent_networking (d : Daemon) (event : ManagerEvent) :
    (d.handleEvent event).objects.manager.networkingEnabled =
      ManagerEvent.networking d.objects.manager.networkingEnabled event := by
  show ((Daemon.followLink _ event).objects.sync _ event).1.manager.networkingEnabled = _
  rw [BusObjects.networking_sync, followLink_objects]

end Daemon

-- ---------------------------------------------------------------------------
-- Writers
-- ---------------------------------------------------------------------------

/-- The daemon, and the values of the clients whose write was accepted and who have not stored them
yet. -/
structure Writers where
  daemon : Daemon
  accepted : List Bool

namespace Writers

/-- Whatever may happen, in any order. -/
inductive Turn where
  /-- The daemon is asked for something, be it to turn the switch. -/
  | operation (operation : Operation)
  /-- The daemon turns the switch for a client who writes the property. -/
  | write (uid : Nat) (value : Bool)
  /-- The oldest event that the manager published is handled. -/
  | event
  /-- One of the clients stores its value. -/
  | store (k : Nat)

def turn (w : Writers) : Turn → Writers
  | .operation operation =>
    { w with daemon := w.daemon.operate (w.daemon.manager.operate operation) }
  | .write uid value =>
    let (m, r) := w.daemon.manager.setEnabled uid value
    { daemon := w.daemon.operate m
      accepted := match r with
        | .ok () => w.accepted ++ [value]
        | .error _ => w.accepted }
  | .event =>
    match w.daemon.manager.events with
    | [] => w
    | e :: rest => { w with daemon := (Loop.publishing w.daemon rest).handleEvent e }
  | .store k =>
    match w.accepted[k]? with
    | none => w
    | some value => { daemon := w.daemon.finishWrite value, accepted := w.accepted.eraseIdx k }

def run (w : Writers) (turns : List Turn) : Writers := turns.foldl turn w

/-- No value is stored that was taken back, unless an event waits that will put it right. -/
def InTime (w : Writers) : Turn → Prop
  | .store k => ∀ value, w.accepted[k]? = some value →
    value = w.daemon.manager.networkingEnabled ∨
      ∃ last, .networkingEnabledChanged last ∈ w.daemon.manager.events
  | _ => True

/-- A run in which all values are stored in time. -/
def AllInTime : Writers → List Turn → Prop
  | _, [] => True
  | w, t :: turns => w.InTime t ∧ (w.turn t).AllInTime turns

/-- The events that wait lead from what is shown to what is. -/
def InStep (w : Writers) : Prop :=
  networkingAfter w.daemon.objects.manager.networkingEnabled w.daemon.manager.events =
    w.daemon.manager.networkingEnabled

variable {w : Writers}

-- ---------------------------------------------------------------------------
-- One turn
-- ---------------------------------------------------------------------------

/-- The manager publishes all that it does to the switch. -/
theorem networking_run {m : Manager} (h : m.Rested fun _ _ => True) (operations : List Operation)
    {shown : Bool} (hStep : networkingAfter shown m.events = m.networkingEnabled) :
    networkingAfter shown (m.run operations).events = (m.run operations).networkingEnabled := by
  obtain ⟨τ, hTracks⟩ := Manager.tracks_of h.linked h.queue
  obtain ⟨τ', news, hEvents, -, hTracks'⟩ := Manager.run_tracked h operations hTracks
  have hRested := Manager.run_rested h operations
  have hView := congrArg View.networkingEnabled (hTracks'.view_eq hRested.linked hRested.queue)
  rw [Observer.networking_read] at hView
  rw [show (m.run operations).events = m.events ++ news from hEvents, networkingAfter_append, hStep]
  exact hView

theorem inStep_operate (hRested : w.daemon.manager.Rested fun _ _ => True) (h : w.InStep)
    (operation : Operation) (accepted : List Bool) : InStep
      { daemon := w.daemon.operate (w.daemon.manager.operate operation), accepted } := by
  have hRun := networking_run hRested [operation] h
  unfold InStep
  dsimp only
  rw [Daemon.operate_objects, (w.daemon.operate_eq _).1]
  exact hRun

theorem inStep_event (hRested : w.daemon.manager.Rested fun _ _ => True) (h : w.InStep)
    {e : ManagerEvent} {rest : List ManagerEvent} (hEvents : w.daemon.manager.events = e :: rest) :
    InStep { w with daemon := (Loop.publishing w.daemon rest).handleEvent e } := by
  unfold InStep at h ⊢
  rw [hEvents] at h
  dsimp only
  rw [Daemon.handleEvent_networking, Daemon.handleEvent_manager, Policy.handle_run]
  exact networking_run (hRested.next hEvents) _ h

/-- A value does no harm exactly if it is stored in time. -/
theorem inStep_store_iff (h : w.InStep) (k : Nat) : (w.turn (.store k)).InStep ↔ w.InTime (.store k) := by
  cases hValue : w.accepted[k]? with
  | none =>
    unfold turn InTime
    dsimp only
    rw [hValue]
    exact ⟨fun _ => nofun, fun _ => h⟩
  | some value =>
    have hTurn : (w.turn (.store k)).InStep ↔
        networkingAfter value w.daemon.manager.events = w.daemon.manager.networkingEnabled := by
      unfold turn
      dsimp only
      rw [hValue]
      rfl
    have hInTime : w.InTime (.store k) ↔ value = w.daemon.manager.networkingEnabled ∨
        ∃ last, .networkingEnabledChanged last ∈ w.daemon.manager.events := by
      unfold InTime
      dsimp only
      rw [hValue]
      exact ⟨fun hAll => hAll value rfl, fun hThis v hv => Option.some.inj hv ▸ hThis⟩
    rw [hTurn, hInTime]
    unfold InStep at h
    rcases networkingAfter_cases w.daemon.manager.events with ⟨last, hMem, hAll⟩ | ⟨hNone, hAll⟩
    · rw [hAll] at h ⊢
      exact ⟨fun _ => Or.inr ⟨last, hMem⟩, fun _ => h⟩
    · rw [hAll]
      exact ⟨Or.inl, fun hTold => hTold.resolve_right fun ⟨last, hMem⟩ => hNone last hMem⟩

-- ---------------------------------------------------------------------------
-- Runs
-- ---------------------------------------------------------------------------

theorem rested_turn (h : w.daemon.manager.Rested fun _ _ => True) (t : Turn) :
    (w.turn t).daemon.manager.Rested fun _ _ => True := by
  cases t with
  | operation operation => exact Loop.rested_operate _ (h.operate operation)
  | write uid value => exact Loop.rested_operate _ (h.operate (.setEnabled uid value))
  | event =>
    unfold turn
    dsimp only
    split
    · exact h
    · rename_i e rest hEvents
      dsimp only
      rw [Daemon.handleEvent_manager, Policy.handle_run]
      exact Manager.run_rested (h.next hEvents) _
  | store k =>
    unfold turn
    dsimp only
    split <;> exact h

/-- A turn keeps in step, if no value is stored late. -/
theorem inStep_turn (hRested : w.daemon.manager.Rested fun _ _ => True) (h : w.InStep) {t : Turn}
    (hTime : w.InTime t) : (w.turn t).InStep := by
  cases t with
  | operation operation => exact inStep_operate hRested h operation w.accepted
  | write uid value => exact inStep_operate hRested h (.setEnabled uid value) _
  | event =>
    unfold turn
    dsimp only
    split
    · exact h
    · rename_i e rest hEvents
      exact inStep_event hRested h hEvents
  | store k => exact (inStep_store_iff h k).mpr hTime

theorem inStep_run (hRested : w.daemon.manager.Rested fun _ _ => True) (h : w.InStep)
    {turns : List Turn} (hTime : w.AllInTime turns) : (w.run turns).InStep := by
  induction turns generalizing w with
  | nil => exact h
  | cons t turns ih => exact ih (rested_turn hRested t) (inStep_turn hRested h hTime.1) hTime.2

/-- As long as all values are stored in time, what is shown is what is whenever nothing waits. -/
theorem run_shows (store : StateStore) (allowed : List Nat) (timeout : Option Nat) (epoch : Nat)
    (logging : LogControl) (connectTimeout : Nat) (turns : List Turn) :
    let w : Writers :=
      { daemon := .start (.start store allowed timeout epoch) logging connectTimeout, accepted := [] }
    w.AllInTime turns → (w.run turns).daemon.manager.events = [] →
      (w.run turns).daemon.objects.manager.networkingEnabled =
        (w.run turns).daemon.manager.networkingEnabled := by
  intro w hTime hDone
  have hStep := inStep_run (w := w) (Manager.start_rested store allowed timeout epoch) rfl hTime
  unfold InStep at hStep
  rw [hDone] at hStep
  exact hStep

/-- Two clients and no device: one turns the switch off by a write, the other one turns it on again
before the first one stores its value. All events are handled, and the object shows the value that
was taken back. -/
theorem not_shows_late :
    let w : Writers :=
      { daemon := .start (.start Manager.DialUp.store [] none 0) { level := "ERR", domains := "NONE" } 30000
        accepted := [] }
    let w := w.run ([.write 0 false] ++ List.replicate 3 .event ++
      [.operation (.setEnabled 0 true)] ++ List.replicate 3 .event ++ [.store 0])
    w.daemon.manager.events = [] ∧ w.accepted = [] ∧ w.daemon.manager.networkingEnabled = true ∧
      w.daemon.objects.manager.networkingEnabled = false := by
  decide +kernel

end Writers

end ScannerHub
