import ScannerHub.Proofs.Activation.Outcomes
import ScannerHub.Proofs.Device.Motions
import ScannerHub.Proofs.Manager.Course
import ScannerHub.Proofs.Manager.Termination

/-!
# Passages

A step says what was done to the manager, and a change what becomes of its invariant. A passage says
what becomes of one site, together with all that is told of it and with all effects. An event that ends
a request and the end of the request are one passage, and so are the refusal of secrets and the failure
of the device, because nobody sees the one without the other.

Most passages may happen at any time. What may not is a feat, and a passage that is one needs the leave
to do it. Which feats a part of an operation has leave for tells what it can lead to.

* `Feat` — what only some parts of operations do;
* `Site.Heeds`, `Site.Episode` — what becomes of one site;
* `Manager.Passage`, `Manager.Passages` — what becomes of the manager, and sequences of it.

## Results

* `Passage.fits` — a passage leads from a sound manager to a sound one;
* `passages_preserve` — what every passage preserves holds after each sequence of them;
* `Passages.nextRequest`, `Passages.stamped` — numbers grow, and connections stay named.
-/

namespace ScannerHub

/-- What only some parts of operations do. -/
inductive Feat where
  /-- Device events are published. -/
  | tells
  /-- A request with a number starts. -/
  | launches (number : Nat)
  /-- A user starts something on a device. -/
  | starts (device : Nat)
  /-- A device is stopped, or becomes managed. -/
  | halts
  | drives
  /-- A device that waits for secrets fails because nobody is left to get them. -/
  | abandons
  /-- A device that a user stopped becomes free again. -/
  | rouses
  /-- A request is taken from its device, whatever the device does. -/
  | parts (number : Nat) (reason : StateReason)
  /-- A request ends with an event of its device. -/
  | leaves (number : Nat)
  | expires (number : Nat)
  | waits (request waiter : Nat)
  /-- A connection gets another chance. -/
  | pardons (uuid : String)
  /-- All connections get another chance. -/
  | forgives

/-- Whether an event tells neither of the state of a device nor of a request that comes or goes. -/
def ManagerEvent.isAside : ManagerEvent → Bool
  | deviceStateChanged _ _ _ _ | activeConnectionAdded _ | activeConnectionRemoved _ => false
  | _ => true

/-- The reason with which a request goes when its device tells of an event. -/
def DeviceEvent.parts? : DeviceEvent → Option StateReason
  | stateChanged _ new _ reason => if new.isEnd then some reason else none
  | _ => none

/-- One request at two times, with nothing changed that decides how it ends. -/
structure Request.Revises (r r' : Request) : Prop where
  goes : r.Goes r'
  queue : r'.queue = r.queue
  outcome : r'.outcome = r.outcome
  waiters : r'.waiters = r.waiters
  deadline : r'.deadline = r.deadline
  nowait : r'.nowait = r.nowait
  named : r.Named → r'.Named ∧ r'.connection.uuid = r.connection.uuid

-- ---------------------------------------------------------------------------
-- What becomes of one site
-- ---------------------------------------------------------------------------

namespace Site

variable {K K' : Feat → Prop} {s : Site}

/-- What is said when the request of a site goes. -/
def farewell (s : Site) : List ManagerEvent :=
  match s.request with
  | none => []
  | some r => [.activeConnectionRemoved r.id, .activeConnectionsChanged]

/-- What the request of a site does when it goes. -/
def parting (s : Site) (reason : StateReason) : List Effect :=
  match s.request with
  | none => []
  | some r => (r.detach reason).2

/-- An activation that nobody asked for uses a connection. -/
def Blames (s : Site) (uuid : String) : Prop :=
  (∃ r, s.request = some r ∧ r.userRequested = false ∧ r.connection.uuid = uuid) ∨
    ∃ o, s.orphan = some o ∧ o.userRequested = false ∧ o.connection.uuid = uuid

/-- What the device of a site may be told. -/
inductive Heeds (K : Feat → Prop) (s : Site) : (Device → Update) → Prop where
  | halts (hK : K .halts) {f : Device → Update} (hf : Device.Halts f) : Heeds K s f
  | drives (hK : K .drives) {f : Device → Update} (hf : Device.Drives f) : Heeds K s f
  | abandons (hK : K .abandons) (hNone : s.request = none) : Heeds K s Device.failAuth
  | recovers (hNone : s.request = none) (reason : StateReason) :
    Heeds K s fun d => d.moveTo .disconnected reason
  | rouses (hK : K .rouses) :
    Heeds K s fun d => { d with autoconnectInhibited := false }.setManaged true .nowManaged

/-- What may become of a site, with what is told and done. -/
inductive Episode (K : Feat → Prop) (s : Site) : Site → List ManagerEvent → List Effect → Prop where
  | flag {d : Device} (hd : s.device = some d) (due : Bool) :
    Episode K s { s with device := some { d with activationScheduled := due } } [] []
  | hears {d : Device} {f : Device → Update} (hd : s.device = some d) (hf : s.Heeds K f) :
    Episode K s (s.hears (f d)) [] []
  /-- The request works off the events that wait for it. -/
  | look {r : Request} {news : List ManagerEvent} (hr : s.request = some r)
    (hNews : ∀ e ∈ news, e.isAside = true) :
    Episode K s (s.withRequest r.processEvents.request) news r.processEvents.effects
  | revise {r r' : Request} {effects : List Effect} (hr : s.request = some r) (hRevises : r.Revises r')
    (hEffects : answered effects = []) : Episode K s (s.withRequest r') [] effects
  /-- The request gets no secrets, and its device fails. -/
  | refuse {d : Device} {r r' : Request} (hK : K .drives) (hd : s.device = some d)
    (hr : s.request = some r) (hQueues : r.queue = [] ∧ s.queue = []) (hState : d.state = .needAuth)
    (hRevises : r.Revises r') :
    Episode K s ((s.withRequest (r'.finish (.failed (.activationFailed .noSecrets))).1).hears
      (d.moveTo .failed .noSecrets)) [] (r'.finish (.failed (.activationFailed .noSecrets))).2
  /-- An event is told that does not end the request. -/
  | tell {e : DeviceEvent} {rest : List DeviceEvent} {orphan : Option Orphan} (hK : K .tells)
    (hQueue : s.queue = e :: rest) (hParts : e.parts? = none)
    (hOrphan : orphan = s.orphan ∨ orphan = none ∧ ∃ t, e.entered? = some t ∧ t.isActive = false) :
    Episode K s ((s.tell e).adopt orphan) e.published []
  /-- An event is told that ends the request, if there is one. -/
  | leave {e : DeviceEvent} {rest : List DeviceEvent} {reason : StateReason} (hK : K .tells)
    (hQueue : s.queue = e :: rest) (hParts : e.parts? = some reason)
    (hLooked : ∀ r, s.request = some r → r.queue = [] ∧ K (.leaves r.id)) :
    Episode K s ((s.tell e).adopt none).forget (e.published ++ s.farewell) (s.parting reason)
  /-- The request is taken from its device while nothing waits to be told. The activation goes on
  only if the request has come to its outcome, and with a note. -/
  | part {r : Request} {reason : StateReason} (hr : s.request = some r) (hK : K (.parts r.id reason))
    (hQueues : r.queue = [] ∧ s.queue = [])
    (hOwned : K .halts ∨ r.outcome.isSome = true ∧
      ∀ d, s.device = some d → d.state.isActive = true → s.orphan.isSome = true) :
    Episode K s s.forget s.farewell (s.parting reason)
  | expire {r : Request} (hr : s.request = some r) (hK : K (.expires r.id)) (hNone : r.outcome = none) :
    Episode K s (s.withRequest (r.finish (.failed .timeoutExpired)).1) []
      (r.finish (.failed .timeoutExpired)).2
  /-- The activation of a request whose time is up is noted. -/
  | adopt {r : Request} (hr : s.request = some r) (hK : K (.expires r.id)) :
    Episode K s (s.adopt (some { connection := r.connection, userRequested := r.userRequested })) [] []
  | wait {r : Request} {waiter : Nat} (hr : s.request = some r) (hK : K (.waits r.id waiter)) :
    Episode K s (s.withRequest (r.wait waiter).1) [] (r.wait waiter).2

theorem Heeds.mono {f : Device → Update} (h : s.Heeds K f) (hK : ∀ feat, K feat → K' feat) :
    s.Heeds K' f := by
  cases h with
  | halts hLeave hf => exact .halts (hK _ hLeave) hf
  | drives hLeave hf => exact .drives (hK _ hLeave) hf
  | abandons hLeave hNone => exact .abandons (hK _ hLeave) hNone
  | recovers hNone reason => exact .recovers hNone reason
  | rouses hLeave => exact .rouses (hK _ hLeave)

theorem Episode.mono {s' : Site} {news : List ManagerEvent} {effects : List Effect}
    (h : s.Episode K s' news effects) (hK : ∀ feat, K feat → K' feat) :
    s.Episode K' s' news effects := by
  cases h with
  | flag hd due => exact .flag hd due
  | hears hd hf => exact .hears hd (hf.mono hK)
  | look hr hNews => exact .look hr hNews
  | revise hr hRevises hEffects => exact .revise hr hRevises hEffects
  | refuse hLeave hd hr hQueues hState hRevises =>
    exact .refuse (hK _ hLeave) hd hr hQueues hState hRevises
  | tell hLeave hQueue hParts hOrphan => exact .tell (hK _ hLeave) hQueue hParts hOrphan
  | leave hLeave hQueue hParts hLooked =>
    exact .leave (hK _ hLeave) hQueue hParts fun r hr => ⟨(hLooked r hr).1, hK _ (hLooked r hr).2⟩
  | part hr hLeave hQueues hOwned => exact .part hr (hK _ hLeave) hQueues (hOwned.imp_left (hK _))
  | expire hr hLeave hNone => exact .expire hr (hK _ hLeave) hNone
  | adopt hr hLeave => exact .adopt hr (hK _ hLeave)
  | wait hr hLeave => exact .wait hr (hK _ hLeave)

end Site

namespace Manager

variable {A : Nat → String → Prop} {K K' : Feat → Prop} {m m' m'' : Manager} {id : Nat}

-- ---------------------------------------------------------------------------
-- What becomes of the manager
-- ---------------------------------------------------------------------------

/-- All connections that the manager knows of say which ones they are. -/
def Stamped (m : Manager) : Prop :=
  ∀ scope path c, (m.cache scope).get? path = some c → c.Named

/-- One site becomes another one, and nothing else happens but what is told and done. -/
structure Turns (A : Nat → String → Prop) (m m' : Manager) (id : Nat) (s : Site)
    (news : List ManagerEvent) (effects : List Effect) : Prop where
  fits : m'.Fits A
  site : ∀ x, m'.site x = if x = id then s else m.site x
  events : m'.events = m.events ++ news
  effects : m'.effects = m.effects ++ effects
  invalid : m.invalid ⊆ m'.invalid
  nextDevice : m'.nextDevice = m.nextDevice
  nextRequest : m'.nextRequest = m.nextRequest
  stamped : m.Stamped → m'.Stamped

/-- What may become of the manager. -/
inductive Passage (A : Nat → String → Prop) (K : Feat → Prop) : Manager → Manager → Prop where
  /-- Something becomes of one site. A failure that is told of has left its mark. -/
  | turn {m m' : Manager} {id : Nat} {s : Site} {news : List ManagerEvent} {effects : List Effect}
    (hTurns : Turns A m m' id s news effects) (hEpisode : (m.site id).Episode K s news effects)
    (hMarks : ∀ old reason uuid, .deviceStateChanged id .failed old reason ∈ news →
      (m.site id).Blames uuid → uuid ∈ m'.invalid) : Passage A K m m'
  /-- Nothing becomes of any site. -/
  | quiet {m m' : Manager} {news : List ManagerEvent} (hFits : m'.Fits A)
    (hSites : ∀ x, m'.site x = m.site x) (hEvents : m'.events = m.events ++ news)
    (hNews : ∀ e ∈ news, e.isAside = true) (hEffects : m'.effects = m.effects)
    (hInvalid : m'.invalid = m.invalid) (hNextDevice : m'.nextDevice = m.nextDevice)
    (hNextRequest : m.nextRequest ≤ m'.nextRequest) (hStamped : m.Stamped → m'.Stamped) :
    Passage A K m m'
  /-- A request starts on a device that is free. Without a user it starts only if none stopped the
  device, and with no connection that failed before. -/
  | launch {m : Manager} {id number : Nat} {d : Device} {spec : RequestSpec}
    (hK : K (.launches number)) (hd : m.device? id = some d) (hState : d.state = .disconnected)
    (hNone : m.requestOn? id = none) (hOrphan : m.orphan? id = none) (hQueue : m.queueOf id = [])
    (hCheck : d.check spec.connection = .ok ()) (hFresh : m.Fresh number)
    (hUser : spec.userRequested = true → K (.starts id))
    (hAuto : spec.userRequested = false →
      d.autoconnectInhibited = false ∧ spec.connection.uuid ∉ m.invalid)
    (hNowait : spec.nowait = false) (hNamed : spec.connection.Named) :
    Passage A K m ((m.undue id).launch number d spec).1
  | come {m : Manager} {d : Device} (hQueue : m.queue = []) (hUnused : d.Unused)
    (hUdi : ∀ x ∈ m.devices, x.udi ≠ d.udi) : Passage A K m (m.admitted d)
  | go {m : Manager} {id : Nat} (hQueue : m.queueOf id = []) (hRequest : m.requestOn? id = none)
    (hOrphan : m.orphan? id = none) : Passage A K m ((m.dismissed id).publish (.deviceRemoved id))
  | close {m : Manager} (hQueue : m.queue = []) (hRequests : m.requests = []) :
    Passage A K m { m with orphans := [] }.disbanded
  | pardon {m : Manager} {uuid : String} (hK : K (.pardons uuid)) :
    Passage A K m { m with invalid := m.invalid.filter fun u => u != uuid }
  | forgive {m : Manager} (hK : K .forgives) : Passage A K m { m with invalid := [] }

/-- A sequence of passages. -/
abbrev Passages (A : Nat → String → Prop) (K : Feat → Prop) : Manager → Manager → Prop :=
  Relation.ReflTransGen (Passage A K)

theorem Passage.mono (h : Passage A K m m') (hK : ∀ feat, K feat → K' feat) : Passage A K' m m' := by
  cases h with
  | turn hTurns hEpisode hMarks => exact .turn hTurns (hEpisode.mono hK) hMarks
  | quiet hFits hSites hEvents hNews hEffects hInvalid hNextDevice hNextRequest hStamped =>
    exact .quiet hFits hSites hEvents hNews hEffects hInvalid hNextDevice hNextRequest hStamped
  | launch hLeave hd hState hNone hOrphan hQueue hCheck hFresh hUser hAuto hNowait hNamed =>
    exact .launch (hK _ hLeave) hd hState hNone hOrphan hQueue hCheck hFresh
      (fun h => hK _ (hUser h)) hAuto hNowait hNamed
  | come hQueue hUnused hUdi => exact .come hQueue hUnused hUdi
  | go hQueue hRequest hOrphan => exact .go hQueue hRequest hOrphan
  | close hQueue hRequests => exact .close hQueue hRequests
  | pardon hLeave => exact .pardon (hK _ hLeave)
  | forgive hLeave => exact .forgive (hK _ hLeave)

theorem Passages.mono (h : Passages A K m m') (hK : ∀ feat, K feat → K' feat) : Passages A K' m m' := by
  induction h with
  | refl => exact .refl
  | tail _ hLast ih => exact ih.tail (hLast.mono hK)

-- ---------------------------------------------------------------------------
-- What every passage preserves
-- ---------------------------------------------------------------------------

theorem stamped_of_eq (hSystem : m'.system = m.system) (hUser : m'.user = m.user) (h : m.Stamped) :
    m'.Stamped := by
  intro scope path c hFound
  refine h scope path c ?_
  cases scope with
  | system =>
    change m'.system.get? path = some c at hFound
    rw [hSystem] at hFound
    exact hFound
  | user =>
    change m'.user.get? path = some c at hFound
    rw [hUser] at hFound
    exact hFound

theorem Fits.closed (h : m.Fits A) (hRequests : m.requests = []) :
    ({ m with orphans := [] }.disbanded).Fits A := by
  have hForgotten : Fits A { m with orphans := [] } :=
    ⟨h.linked.keeps (Keeps.of_eq rfl rfl ⟨rfl, rfl⟩ rfl), fun x =>
      ⟨fun hd => ⟨((h.sites x).absent hd).1, rfl⟩, fun d hd => (h.sound hd).adopt none⟩⟩
  exact hForgotten.disbanded hRequests rfl

theorem Passage.fits (h : Passage A K m m') (hFits : m.Fits A) : m'.Fits A := by
  cases h with
  | turn hTurns => exact hTurns.fits
  | quiet hFits' => exact hFits'
  | launch hK hd hState hNone hOrphan hQueue hCheck hFresh =>
    exact (hFits.launched _ hd hState hNone hQueue hCheck hFresh).2.2.1
  | come hQueue hUnused hUdi =>
    exact (hFits.takenIn hQueue hUnused hUdi).1.same (same_publish _ fun _ => rfl)
  | go hQueue hRequest hOrphan =>
    exact (hFits.dismissed _ hRequest hOrphan).fits.same (same_publish _ fun _ => rfl)
  | close hQueue hRequests => exact hFits.closed hRequests
  | pardon => exact hFits.same ⟨rfl, rfl, rfl, rfl, rfl, rfl, rfl, fun _ => rfl⟩
  | forgive => exact hFits.same ⟨rfl, rfl, rfl, rfl, rfl, rfl, rfl, fun _ => rfl⟩

/-- What holds after every passage if it held before holds after each sequence of them. -/
theorem passages_preserve {P : Manager → Prop}
    (hStep : ∀ {m m' : Manager}, Passage A K m m' → m.Fits A → P m → P m')
    (h : Passages A K m m') (hFits : m.Fits A) (hP : P m) : m'.Fits A ∧ P m' := by
  induction h with
  | refl => exact ⟨hFits, hP⟩
  | tail _ hLast ih => exact ⟨hLast.fits ih.1, hStep hLast ih.1 ih.2⟩

theorem Passages.fits (h : Passages A K m m') (hFits : m.Fits A) : m'.Fits A :=
  (passages_preserve (P := fun _ => True) (fun _ _ _ => trivial) h hFits trivial).1

theorem numbers_launch (m : Manager) (number : Nat) (d : Device) (spec : RequestSpec) :
    (m.launch number d spec).1.nextRequest = m.nextRequest ∧
      (m.launch number d spec).1.nextDevice = m.nextDevice := by
  unfold launch register
  dsimp only
  split <;> exact ⟨rfl, rfl⟩

theorem Passage.nextRequest (h : Passage A K m m') : m.nextRequest ≤ m'.nextRequest := by
  cases h with
  | turn hTurns => exact Nat.le_of_eq hTurns.nextRequest.symm
  | quiet _ _ _ _ _ _ _ hNextRequest => exact hNextRequest
  | @launch id number d spec => exact Nat.le_of_eq (numbers_launch (m.undue id) number d spec).1.symm
  | _ => exact Nat.le_refl _

theorem Passage.nextDevice (h : Passage A K m m') : m.nextDevice ≤ m'.nextDevice := by
  cases h with
  | turn hTurns => exact Nat.le_of_eq hTurns.nextDevice.symm
  | quiet _ _ _ _ _ _ hNextDevice => exact Nat.le_of_eq hNextDevice.symm
  | @launch id number d spec => exact Nat.le_of_eq (numbers_launch (m.undue id) number d spec).2.symm
  | come => exact Nat.le_succ _
  | _ => exact Nat.le_refl _

theorem Passages.nextRequest (h : Passages A K m m') : m.nextRequest ≤ m'.nextRequest := by
  induction h with
  | refl => exact Nat.le_refl _
  | tail _ hLast ih => exact Nat.le_trans ih hLast.nextRequest

theorem Passage.stamped (h : Passage A K m m') (hStamped : m.Stamped) : m'.Stamped := by
  cases h with
  | turn hTurns => exact hTurns.stamped hStamped
  | quiet _ _ _ _ _ _ _ _ hKeeps => exact hKeeps hStamped
  | @launch id number d spec =>
    have hDecides := decides_launch (m.undue id) number d spec
    exact stamped_of_eq hDecides.system hDecides.user hStamped
  | _ => exact stamped_of_eq rfl rfl hStamped

theorem Passages.stamped (h : Passages A K m m') (hStamped : m.Stamped) : m'.Stamped := by
  induction h with
  | refl => exact hStamped
  | tail _ hLast ih => exact hLast.stamped ih

/-- A part of an operation that is done for each entry of a list. -/
theorem Passages.foldl {α : Type} {step : Manager → α → Manager} (xs : List α)
    (hStep : ∀ (m : Manager) (x : α), m.Fits A → Passages A K m (step m x)) (h : m.Fits A) :
    Passages A K m (xs.foldl step m) := by
  induction xs generalizing m with
  | nil => exact .refl
  | cons x xs ih =>
    have hFirst := hStep m x h
    exact hFirst.trans (ih (hFirst.fits h))

end Manager

end ScannerHub
