import Mathlib.Data.List.Nodup
import Mathlib.Data.List.TakeWhile
import ScannerHub.Proofs.Manager.Fates

/-!
# Answers

Everyone who waits for a request gets its outcome, and the outcome is what was told of the device while
the request was there: the first event that ends activations decides. Only a request that goes without
such an event leaves its device with the outcome that it is given.

In between the request may have looked at events that were not told yet, or the other way round. Both of
them work off the same events in the same order, so what decides is the same seen from either side.

* `received` — what somebody who waits got;
* `lifetime` — what was published while a request was there;
* `Request.Answers`, `Request.Abides` — a request and those who wait for it;
* `Site.Attends`, `Manager.Tends` — a request whose outcome is what was told;
* `Manager.Closed` — a request that has gone, and answered everyone.

## Results

* `Episode.attends` — what becomes of a request and of those who wait for it;
* `Tends.next`, `Closed.next` — what every passage preserves.
-/

namespace ScannerHub

-- ---------------------------------------------------------------------------
-- Who gets what
-- ---------------------------------------------------------------------------

/-- What a waiter got. -/
def received (waiter : Nat) (effects : List Effect) : List Outcome :=
  ((answered effects).filter fun a => a.1 == waiter).map Prod.snd

@[simp]
theorem received_append (w : Nat) (es fs : List Effect) :
    received w (es ++ fs) = received w es ++ received w fs := by
  unfold received
  rw [answered_append, List.filter_append, List.map_append]

theorem received_nil {w : Nat} {es : List Effect} (h : ∀ a ∈ answered es, a.1 ≠ w) :
    received w es = [] := by
  unfold received
  rw [List.filter_eq_nil_iff.mpr fun a ha => by rw [beq_iff_eq]; exact h a ha]
  rfl

/-- Of several waiters that are answered each one gets one answer. -/
theorem received_one {w : Nat} {waiters : List Nat} {o : Outcome} {es : List Effect}
    (h : answered es = waiters.map fun w => (w, o)) (hDistinct : waiters.Nodup) (hw : w ∈ waiters) :
    received w es = [o] := by
  have hAnswered : (answered es).filter (fun a => a.1 == w) =
      (waiters.filter fun v => v == w).map fun v => (v, o) := by
    rw [h, List.filter_map]
    rfl
  unfold received
  rw [hAnswered, List.filter_beq, List.count_eq_one_of_mem hDistinct hw]
  rfl

-- ---------------------------------------------------------------------------
-- What was told of an activation
-- ---------------------------------------------------------------------------

/-- The outcome that a device brings to its request, seen in what is told of it. -/
def ManagerEvent.ending? (device : Nat) : ManagerEvent → Option Outcome
  | deviceStateChanged id new old reason =>
    if id = device then (DeviceEvent.stateChanged id new old reason).ending? else none
  | _ => none

/-- What decides in an event of a device decides in what is told of it. -/
theorem ending_published (e : DeviceEvent) :
    e.published.findSome? (ManagerEvent.ending? e.device) = e.ending? := by
  cases e with
  | stateChanged id new old reason =>
    have hFirst : ManagerEvent.ending? id (.deviceStateChanged id new old reason) =
        (DeviceEvent.stateChanged id new old reason).ending? := if_pos rfl
    have hRest : (if Manager.rereadsActive new then [ManagerEvent.activeConnectionsChanged] else []).findSome?
        (ManagerEvent.ending? id) = none := by
      split <;> rfl
    refine (findSome?_cons_or _ _ _).trans ?_
    rw [show DeviceEvent.device (.stateChanged id new old reason) = id from rfl, hFirst, hRest, Option.or_none]
  | needSecrets id need => rfl
  | linkRequested id request => rfl

/-- Nothing that is told of another device decides. -/
theorem ManagerEvent.ending_none {x : Nat} {news : List ManagerEvent}
    (h : ∀ new old reason, .deviceStateChanged x new old reason ∉ news) :
    ∀ e ∈ news, e.ending? x = none := by
  intro e he
  cases e with
  | deviceStateChanged id new old reason =>
    by_cases hId : id = x
    · exact absurd (hId ▸ he) (h new old reason)
    · exact if_neg hId
  | _ => rfl

/-- An activation ends well when its device is told to be up. -/
theorem ManagerEvent.ending_activated {x : Nat} {e : ManagerEvent} :
    e.ending? x = some (.reached .activated) ↔
      ∃ old reason, e = .deviceStateChanged x .activated old reason := by
  constructor
  · intro h
    cases e with
    | deviceStateChanged id new old reason =>
      unfold ManagerEvent.ending? DeviceEvent.ending? at h
      dsimp only at h
      split at h
      · rename_i hId
        split at h
        · rename_i hNew
          exact ⟨old, reason, by rw [hId, hNew]⟩
        · split at h <;> cases h
      · cases h
    | _ => cases h
  · rintro ⟨old, reason, rfl⟩
    exact if_pos rfl

/-- What a device tells brings no timeout. -/
theorem ManagerEvent.ending_ne_timeout {x : Nat} (e : ManagerEvent) :
    e.ending? x ≠ some (.failed .timeoutExpired) := by
  intro h
  cases e with
  | deviceStateChanged id new old reason =>
    unfold ManagerEvent.ending? DeviceEvent.ending? at h
    dsimp only at h
    split at h
    · split at h
      · cases h
      · split at h <;> cases h
    · cases h
  | _ => cases h

namespace Manager

/-- What was published from a request on, and before it went. -/
def lifetime (number : Nat) (events : List ManagerEvent) : List ManagerEvent :=
  (events.dropWhile fun e => e != .activeConnectionAdded number).takeWhile fun e =>
    e != .activeConnectionRemoved number

variable {n : Nat} {events news : List ManagerEvent}

/-- The request was announced, and has not gone. -/
def Opened (n : Nat) (events : List ManagerEvent) : Prop :=
  .activeConnectionAdded n ∈ events ∧ .activeConnectionRemoved n ∉ events

/-- The request was announced, and has gone. -/
def Sealed (n : Nat) (events : List ManagerEvent) : Prop :=
  .activeConnectionRemoved n ∈ events.dropWhile fun e => e != .activeConnectionAdded n

theorem dropWhile_of_added (h : .activeConnectionAdded n ∈ events) (news : List ManagerEvent) :
    (events ++ news).dropWhile (fun e => e != .activeConnectionAdded n) =
      (events.dropWhile fun e => e != .activeConnectionAdded n) ++ news := by
  rw [List.dropWhile_append, if_neg]
  rw [List.isEmpty_iff, List.dropWhile_eq_nil_iff]
  intro hNone
  have hSelf := hNone _ h
  rw [bne_self_eq_false] at hSelf
  cases hSelf

theorem Opened.lifetime_eq (h : Opened n events) :
    lifetime n events = events.dropWhile fun e => e != .activeConnectionAdded n := by
  refine List.takeWhile_eq_self_iff.mpr fun e he => bne_iff_ne.mpr ?_
  rintro rfl
  exact h.2 ((List.dropWhile_sublist _).subset he)

/-- What is published while a request is there belongs to its time. -/
theorem Opened.lifetime_append (h : Opened n events) (news : List ManagerEvent) :
    lifetime n (events ++ news) =
      lifetime n events ++ news.takeWhile fun e => e != .activeConnectionRemoved n := by
  have hAll := h.lifetime_eq
  unfold lifetime at hAll ⊢
  rw [dropWhile_of_added h.1, List.takeWhile_append, hAll, if_pos rfl]

theorem Opened.append (h : Opened n events) (hNews : .activeConnectionRemoved n ∉ news) :
    Opened n (events ++ news) :=
  ⟨List.mem_append_left _ h.1, fun hIn => (List.mem_append.mp hIn).elim h.2 hNews⟩

theorem Opened.lifetime_open (h : Opened n events) (hNews : .activeConnectionRemoved n ∉ news) :
    lifetime n (events ++ news) = lifetime n events ++ news := by
  rw [h.lifetime_append, List.takeWhile_eq_self_iff.mpr fun e he => bne_iff_ne.mpr ?_]
  rintro rfl
  exact hNews he

/-- A request goes. -/
theorem Opened.close (h : Opened n events) {told rest : List ManagerEvent}
    (hNews : news = told ++ .activeConnectionRemoved n :: rest)
    (hTold : .activeConnectionRemoved n ∉ told) :
    Sealed n (events ++ news) ∧ lifetime n (events ++ news) = lifetime n events ++ told := by
  subst hNews
  constructor
  · unfold Sealed
    rw [dropWhile_of_added h.1]
    exact List.mem_append_right _ (List.mem_append_right _ List.mem_cons_self)
  · rw [h.lifetime_append, List.takeWhile_append, List.takeWhile_eq_self_iff.mpr fun e he => bne_iff_ne.mpr ?_,
      if_pos rfl, List.takeWhile_cons_of_neg (by simp), List.append_nil]
    rintro rfl
    exact hTold he

/-- What is published after a request has gone does not belong to its time. -/
theorem Sealed.append (h : Sealed n events) (news : List ManagerEvent) :
    Sealed n (events ++ news) ∧ lifetime n (events ++ news) = lifetime n events := by
  have hAdded : .activeConnectionAdded n ∈ events := by
    by_contra hNever
    have hNone : events.dropWhile (fun e => e != .activeConnectionAdded n) = [] := by
      refine List.dropWhile_eq_nil_iff.mpr fun e he => bne_iff_ne.mpr ?_
      rintro rfl
      exact hNever he
    unfold Sealed at h
    rw [hNone] at h
    cases h
  constructor
  · unfold Sealed
    rw [dropWhile_of_added hAdded]
    exact List.mem_append_left _ h
  · unfold lifetime
    rw [dropWhile_of_added hAdded, List.takeWhile_append, if_neg]
    intro hAll
    have hSelf := List.takeWhile_eq_self_iff.mp
      ((List.takeWhile_prefix _).eq_of_length hAll) _ h
    rw [bne_self_eq_false] at hSelf
    cases hSelf

end Manager

-- ---------------------------------------------------------------------------
-- A request and those who wait for it
-- ---------------------------------------------------------------------------

/-- One request at two times: its first outcome is its last one, and the time that it has for that does
not change. -/
structure Request.Abides (r r' : Request) : Prop where
  outcome : ∀ o, r.outcome = some o → r'.outcome = some o
  deadline : r'.outcome = none → r'.deadline = r.deadline

/-- Everyone who was let to wait still does, or got the outcome. -/
structure Request.Answers (r : Request) (ws : List Nat) (effects : List Effect) : Prop where
  patient : r.nowait = false
  waiting : r.waiters = if r.outcome.isSome then [] else ws
  got : ∀ w ∈ ws, received w effects = r.outcome.toList
  deadline : r.outcome.isSome = true → r.deadline = none

namespace Request

variable {r r' r'' : Request} {ending : Option Outcome} {effects more : List Effect} {ws : List Nat}

theorem Abides.refl (r : Request) : r.Abides r := ⟨fun _ h => h, fun _ => rfl⟩

theorem Abides.trans (h : r.Abides r') (h' : r'.Abides r'') : r.Abides r'' where
  outcome o ho := h'.outcome o (h.outcome o ho)
  deadline hNone := by
    have hBefore : r'.outcome = none :=
      Option.eq_none_iff_forall_ne_some.mpr fun o ho => nomatch hNone.symm.trans (h'.outcome o ho)
    exact (h'.deadline hNone).trans (h.deadline hBefore)

theorem Abides.of_eq (hOutcome : r'.outcome = r.outcome) (hDeadline : r'.deadline = r.deadline) :
    r.Abides r' :=
  ⟨fun _ ho => hOutcome.trans ho, fun _ => hDeadline⟩

theorem Resolves.abides (h : r.Resolves ending r' effects) : r.Abides r' where
  outcome o ho := by
    rw [h.outcome, ho]
    rfl
  deadline hNone := by
    refine (h.same ?_).2.1
    rw [h.outcome, Option.or_eq_none_iff] at hNone
    rw [h.outcome, hNone.1, hNone.2]
    rfl

/-- Nothing happens to the outcome, and nobody is answered who waits for the request. -/
theorem Answers.keeps (h : r.Answers ws effects) (hNowait : r'.nowait = r.nowait)
    (hOutcome : r'.outcome = r.outcome) (hWaiters : r'.waiters = r.waiters)
    (hDeadline : r'.deadline = r.deadline) (hOthers : ∀ w ∈ ws, received w more = []) :
    r'.Answers ws (effects ++ more) where
  patient := hNowait.trans h.patient
  waiting := by rw [hOutcome, hWaiters, h.waiting]
  got w hw := by rw [received_append, hOthers w hw, List.append_nil, hOutcome, h.got w hw]
  deadline hSome := hDeadline.trans (h.deadline (hOutcome ▸ hSome))

theorem received_of_answered (h : answered more = []) (w : Nat) : received w more = [] :=
  received_nil fun a ha => by rw [h] at ha; cases ha

/-- An outcome answers everyone who waits, and only once. -/
theorem Resolves.answers (h : r.Resolves ending r' more) (hAnswers : r.Answers ws effects)
    (hDistinct : ws.Nodup) : r'.Answers ws (effects ++ more) := by
  rcases h.same_or_ends with ⟨hSame, hWaiters, hDeadline, hNobody⟩ |
    ⟨o, hNone, ho, hWaiters, hDeadline, hAnswered⟩
  · exact hAnswers.keeps h.nowait hSame hWaiters hDeadline fun w _ => received_of_answered hNobody w
  · have hAll : r.waiters = ws := by
      rw [hAnswers.waiting, hNone]
      rfl
    refine ⟨h.nowait.trans hAnswers.patient, ?_, fun w hw => ?_, fun _ => hDeadline⟩
    · rw [hWaiters, ho]
      rfl
    · rw [received_append, hAnswers.got w hw, hNone,
        received_one (hAnswered.trans (by rw [hAll])) hDistinct hw, ho]
      rfl

/-- A request that leaves its device leaves nobody waiting. -/
theorem Answers.detach (h : r.Answers ws effects) (hDistinct : ws.Nodup) (reason : StateReason) :
    ∀ w ∈ ws, received w (effects ++ (r.detach reason).2) =
      [r.outcome.getD (.failed (.activationFailed reason))] := by
  intro w hw
  have hAnswered := r.answered_detach reason
  have hWaiters := h.waiting
  rw [received_append, h.got w hw]
  cases ho : r.outcome with
  | some o =>
    rw [ho] at hAnswered
    rw [received_of_answered hAnswered]
    rfl
  | none =>
    rw [ho] at hAnswered hWaiters
    change r.waiters = ws at hWaiters
    change answered (r.detach reason).2 = r.waiters.map _ at hAnswered
    rw [hWaiters] at hAnswered
    rw [received_one hAnswered hDistinct hw]
    rfl

end Request

/-- What is published of an event decides nothing, or what the event does. -/
theorem DeviceEvent.ending_of_published {e : DeviceEvent} {event : ManagerEvent} {x : Nat}
    (h : event ∈ e.published) : event.ending? x = none ∨ event.ending? x = e.ending? := by
  cases event with
  | deviceStateChanged id new old reason =>
    by_cases hId : id = x
    · rw [Manager.mem_published h]
      exact .inr (if_pos hId)
    · exact .inl (if_neg hId)
  | _ => exact .inl rfl

theorem DeviceEvent.ending_of_parts {e : DeviceEvent} {reason : StateReason}
    (h : e.parts? = some reason) : e.ending? = some (.failed (.activationFailed reason)) := by
  cases e with
  | stateChanged id new old reason' =>
    change (if new.isEnd then some reason' else none) = some reason at h
    change (if new = .activated then _ else if new.isEnd then _ else none) = _
    split at h
    · rename_i hEnd
      rw [if_neg (by rintro rfl; cases hEnd), if_pos hEnd, Option.some.inj h]
    · cases h
  | needSecrets id need => cases h
  | linkRequested id request => cases h

theorem DeviceEvent.ending_of_stays {e : DeviceEvent} (h : e.parts? = none) :
    e.ending? = none ∨ e.ending? = some (.reached .activated) := by
  cases e with
  | stateChanged id new old reason =>
    change (if new.isEnd then some reason else none) = none at h
    change (if new = .activated then _ else if new.isEnd then _ else none) = _ ∨
      (if new = .activated then _ else if new.isEnd then _ else none) = _
    split at h
    · cases h
    · rename_i hGoesOn
      split
      · exact .inr rfl
      · exact .inl rfl
  | needSecrets id need => exact .inl rfl
  | linkRequested id request => exact .inl rfl

theorem DeviceEvent.removed_not_published {e : DeviceEvent} {number : Nat} :
    .activeConnectionRemoved number ∉ e.published := by
  intro h
  rcases DeviceEvent.mem_published_cases h with hAside | ⟨_, _, _, hEq⟩
  · cases hAside
  · cases hEq

namespace Site

variable {K : Feat → Prop} {s s' : Site} {news life : List ManagerEvent} {effects more : List Effect}
variable {x : Nat} {ws : List Nat} {r : Request}

/-- The site has a request whose outcome is what was told of its device, but for what only one of the
two knows by now. -/
structure Attends (s : Site) (x : Nat) (ws : List Nat) (life : List ManagerEvent)
    (effects : List Effect) (r : Request) : Prop where
  here : s.request = some r
  answers : r.Answers ws effects
  told : r.outcome.or (r.queue.findSome? DeviceEvent.ending?) =
    (life.findSome? (ManagerEvent.ending? x)).or (s.queue.findSome? DeviceEvent.ending?)
  /-- Nothing that was told ends the request. -/
  upright : ∀ e ∈ life, e.ending? x = none ∨ e.ending? x = some (.reached .activated)

/-- The outcome of a request that has gone: what decided among what was told, or what it was given. -/
structure Verdict (x : Nat) (life : List ManagerEvent) (given : Outcome → Prop) (o : Outcome) : Prop where
  decided : life.findSome? (ManagerEvent.ending? x) = some o ∨
    life.findSome? (ManagerEvent.ending? x) = none ∧ given o
  activated : o = .reached .activated ↔ ∃ e ∈ life, e.ending? x = some (.reached .activated)

/-- A timeout is given, not told. -/
theorem Verdict.not_timeout {given : Outcome → Prop} {o : Outcome} (h : Verdict x life given o)
    (hGiven : ¬ given (.failed .timeoutExpired)) : o ≠ .failed .timeoutExpired := by
  rintro rfl
  rcases h.decided with hSome | ⟨-, hGave⟩
  · obtain ⟨e, -, hEnding⟩ := List.exists_of_findSome?_eq_some hSome
    exact e.ending_ne_timeout hEnding
  · exact hGiven hGave

/-- A request has gone from a site, and everyone got its outcome. -/
structure Departs (s : Site) (x n : Nat) (ws : List Nat) (life : List ManagerEvent)
    (effects : List Effect) (news : List ManagerEvent) (given : Outcome → Prop) (o : Outcome) : Prop where
  request : s.request = none
  news : ∃ told rest, news = told ++ .activeConnectionRemoved n :: rest ∧
    .activeConnectionRemoved n ∉ told ∧ Verdict x (life ++ told) given o
  got : ∀ w ∈ ws, received w effects = [o]

/-- Success decides if nothing but success could. -/
theorem first_of_upright
    (hUpright : ∀ e ∈ life, e.ending? x = none ∨ e.ending? x = some (.reached .activated))
    (h : ∃ e ∈ life, e.ending? x = some (.reached .activated)) :
    life.findSome? (ManagerEvent.ending? x) = some (.reached .activated) := by
  obtain ⟨e, he, hEnding⟩ := h
  have hSome : (life.findSome? (ManagerEvent.ending? x)).isSome = true :=
    List.findSome?_isSome_iff.mpr ⟨e, he, by rw [hEnding]; rfl⟩
  obtain ⟨o, ho⟩ := Option.isSome_iff_exists.mp hSome
  obtain ⟨e', he', hEnding'⟩ := List.exists_of_findSome?_eq_some ho
  rcases hUpright e' he' with hNone | hUp
  · exact nomatch hNone.symm.trans hEnding'
  · rw [ho, ← hEnding', hUp]

theorem Attends.outcome_eq (h : s.Attends x ws life effects r) (hQueues : r.queue = [] ∧ s.queue = []) :
    r.outcome = life.findSome? (ManagerEvent.ending? x) := by
  have hTold := h.told
  rw [hQueues.1, hQueues.2, List.findSome?_nil, Option.or_none, Option.or_none] at hTold
  exact hTold

/-- The request changes in nothing that decides, and its site tells nothing. -/
theorem Attends.keeps (h : s.Attends x ws life effects r) {r' : Request} (hHere : s'.request = some r')
    (hQueue : r'.queue = r.queue) (hWaits : s'.queue = s.queue)
    (hAnswers : r'.Answers ws (effects ++ more)) (hOutcome : r'.outcome = r.outcome)
    (hNews : ∀ e ∈ news, e.ending? x = none) : s'.Attends x ws (life ++ news) (effects ++ more) r' where
  here := hHere
  answers := hAnswers
  told := by
    rw [List.findSome?_append, List.findSome?_eq_none_iff.mpr hNews, Option.or_none, hOutcome, hQueue, hWaits]
    exact h.told
  upright e he := (List.mem_append.mp he).elim (h.upright e) fun hIn => .inl (hNews e hIn)

/-- The device tells its events to the request and to the manager alike. -/
theorem Attends.hears (h : s.Attends x ws life effects r) (u : Update) :
    (s.hears u).Attends x ws life effects (r.hear u.events) where
  here := congrArg (Option.map _) h.here
  answers := ⟨h.answers.patient, h.answers.waiting, h.answers.got, h.answers.deadline⟩
  told := by
    show r.outcome.or ((r.queue ++ u.events).findSome? _) =
      Option.or _ ((s.queue ++ u.events).findSome? _)
    rw [List.findSome?_append, List.findSome?_append, ← Option.or_assoc, h.told, Option.or_assoc]
  upright := h.upright

theorem farewell_some (h : s.request = some r) :
    s.farewell = [.activeConnectionRemoved r.id, .activeConnectionsChanged] := by
  unfold farewell
  rw [h]

theorem parting_some (h : s.request = some r) (reason : StateReason) :
    s.parting reason = (r.detach reason).2 := by
  unfold parting
  rw [h]

/-- A request goes that has come to its outcome, or is given one. -/
theorem Attends.parts (h : s.Attends x ws life effects r) (hDistinct : ws.Nodup) (reason : StateReason)
    (told : List ManagerEvent) (given : Outcome → Prop)
    (hOutcome : r.outcome = (life ++ told).findSome? (ManagerEvent.ending? x))
    (hGiven : r.outcome = none → given (.failed (.activationFailed reason)))
    (hTold : ∀ e ∈ told, e.ending? x ≠ some (.reached .activated)) :
    ∃ o, (∀ w ∈ ws, received w (effects ++ s.parting reason) = [o]) ∧ Verdict x (life ++ told) given o := by
  rw [parting_some h.here]
  refine ⟨_, h.answers.detach hDistinct reason, ?_, fun hUp => ?_, fun ⟨e, he, hUp⟩ => ?_⟩
  · cases ho : r.outcome with
    | some o => exact .inl (hOutcome.symm.trans ho)
    | none => exact .inr ⟨hOutcome.symm.trans ho, hGiven ho⟩
  · cases ho : r.outcome with
    | some o =>
      rw [ho] at hUp hOutcome
      cases hUp
      exact List.exists_of_findSome?_eq_some hOutcome.symm
    | none =>
      rw [ho] at hUp
      cases hUp
  · have hEarly : e ∈ life := (List.mem_append.mp he).resolve_right fun hIn => hTold e hIn hUp
    rw [hOutcome, List.findSome?_append, first_of_upright h.upright ⟨e, hEarly, hUp⟩]
    rfl

theorem ending_of_aside {e : ManagerEvent} (h : e.isAside = true) : e.ending? x = none := by
  cases e <;> first | rfl | cases h

/-- The request works off what it was told. -/
theorem Attends.looks (h : s.Attends x ws life effects r) (hDistinct : ws.Nodup)
    (hNews : ∀ e ∈ news, e.isAside = true) :
    (s.withRequest r.processEvents.request).Attends x ws (life ++ news)
      (effects ++ r.processEvents.effects) r.processEvents.request := by
  have hResolves := r.resolves_processEvents
  have hAside : ∀ e ∈ news, e.ending? x = none := fun e he => ending_of_aside (hNews e he)
  refine ⟨rfl, hResolves.answers h.answers hDistinct, ?_, ?_⟩
  · rw [hResolves.outcome, r.queue_processEvents, List.findSome?_nil, Option.or_none,
      List.findSome?_append, List.findSome?_eq_none_iff.mpr hAside, Option.or_none]
    exact h.told
  · exact fun e he => (List.mem_append.mp he).elim (h.upright e) fun hIn => .inl (hAside e hIn)

/-- A request that gets no secrets fails, and the failure of its device that follows from it brings
the same outcome. -/
theorem Attends.refused {d : Device} {q : Request} (h : s.Attends x ws life effects r)
    (hDistinct : ws.Nodup) (hListen : d.AllListen) (hQueues : r.queue = [] ∧ s.queue = [])
    (hState : d.state = .needAuth) (hRevises : r.Revises q) :
    let failure : Outcome := .failed (.activationFailed .noSecrets)
    let failed := (q.finish failure).1.hear (d.moveTo .failed .noSecrets).events
    ((s.withRequest (q.finish failure).1).hears (d.moveTo .failed .noSecrets)).Attends x ws
      (life ++ []) (effects ++ (q.finish failure).2) failed ∧ r.Abides failed := by
  intro failure failed
  have hMove : d.moveTo .failed .noSecrets =
      { device := d.enter .failed, events := [.stateChanged d.id .failed d.state .noSecrets]
        error := none } :=
    Device.moveTo_eq hListen .noSecrets (by rw [hState]; rfl)
  have hFinish := q.resolves_finish failure
  have hRevised : q.Answers ws (effects ++ []) := h.answers.keeps hRevises.nowait hRevises.outcome
    hRevises.waiters hRevises.deadline fun _ _ => rfl
  rw [List.append_nil] at hRevised
  have hAnswers := hFinish.answers hRevised hDistinct
  refine ⟨⟨rfl, ⟨hAnswers.patient, hAnswers.waiting, hAnswers.got, hAnswers.deadline⟩, ?_, ?_⟩,
    (Request.Abides.of_eq hRevises.outcome hRevises.deadline).trans
      (hFinish.abides.trans (.of_eq rfl rfl))⟩
  · show Option.or (q.finish _).1.outcome (((q.finish _).1.queue ++ _).findSome? _) =
      Option.or _ ((s.queue ++ _).findSome? _)
    rw [hFinish.outcome, (q.finish_same _).queue, hRevises.queue, hRevises.outcome, hQueues.1, hQueues.2,
      hMove, List.append_nil, List.nil_append, h.outcome_eq hQueues, Option.or_assoc]
    rfl
  · rw [List.append_nil]
    exact h.upright

/-- An event is told that does not end the request. -/
theorem Attends.tells {e : DeviceEvent} {rest : List DeviceEvent} {orphan : Option Orphan}
    (h : s.Attends e.device ws life effects r) (hQueue : s.queue = e :: rest)
    (hParts : e.parts? = none) :
    ((s.tell e).adopt orphan).Attends e.device ws (life ++ e.published) (effects ++ []) r := by
  refine ⟨h.here, by rw [List.append_nil]; exact h.answers, ?_, fun event he => ?_⟩
  · have hTold := h.told
    rw [hQueue, findSome?_cons_or, ← ending_published, ← Option.or_assoc, ← List.findSome?_append] at hTold
    rw [hTold]
    show _ = Option.or _ (s.queue.tail.findSome? _)
    rw [hQueue]
    rfl
  · rcases List.mem_append.mp he with hIn | hIn
    · exact h.upright event hIn
    · rcases DeviceEvent.ending_of_published (x := e.device) hIn with hNone | hEq
      · exact .inl hNone
      · exact (DeviceEvent.ending_of_stays hParts).imp hEq.trans hEq.trans

/-- An event is told that ends the request, which has come to its outcome by then. -/
theorem Attends.leaves {e : DeviceEvent} {rest : List DeviceEvent} {reason : StateReason}
    (h : s.Attends e.device ws life effects r) (hDistinct : ws.Nodup) (hQueue : s.queue = e :: rest)
    (hParts : e.parts? = some reason) (hLooked : r.queue = []) (given : Outcome → Prop) :
    ∃ o, (∀ w ∈ ws, received w (effects ++ s.parting reason) = [o]) ∧
      Verdict e.device (life ++ e.published) given o := by
  have hEnds := DeviceEvent.ending_of_parts hParts
  have hTold := h.told
  rw [hLooked, hQueue, findSome?_cons_or, List.findSome?_nil, Option.or_none, hEnds, Option.some_or,
    ← hEnds, ← ending_published, ← List.findSome?_append] at hTold
  have hSome : r.outcome ≠ none := by
    intro hNone
    rw [hTold, List.findSome?_append, Option.or_eq_none_iff, ending_published, hEnds] at hNone
    cases hNone.2
  refine h.parts hDistinct reason e.published given hTold (fun hNone => absurd hNone hSome)
    fun event hIn => ?_
  rcases DeviceEvent.ending_of_published (x := e.device) hIn with hNone | hEq
  · rw [hNone]
    exact nofun
  · rw [hEq, hEnds]
    exact nofun

/-- What becomes of a request and of those who wait for it. Either it is still there and knows what was
told, or it went and everyone got its outcome. -/
theorem Episode.attends (h : s.Episode K s' news more) (hAttends : s.Attends x ws life effects r)
    (hOwn : ∀ e ∈ s.queue, e.device = x) (hListen : ∀ d, s.device = some d → d.AllListen)
    (hDistinct : ws.Nodup) (hExpires : ¬ K (.expires r.id)) (hWaits : ∀ w, ¬ K (.waits r.id w)) :
    let given : Outcome → Prop := fun o => ∃ reason, K (.parts r.id reason) ∧
      o = .failed (.activationFailed reason)
    (∃ r', s'.Attends x ws (life ++ news) (effects ++ more) r' ∧ r.Abides r' ∧
      ∀ number, .activeConnectionRemoved number ∉ news) ∨
    (K (.leaves r.id) ∨ ∃ reason, K (.parts r.id reason)) ∧
      ∃ o, s'.Departs x r.id ws life (effects ++ more) news given o := by
  intro given
  have hSame : r.Answers ws (effects ++ []) := by
    rw [List.append_nil]
    exact hAttends.answers
  have hSilent : ∀ e ∈ ([] : List ManagerEvent), e.ending? x = none := fun _ h => absurd h List.not_mem_nil
  have hNone : ∀ number, ManagerEvent.activeConnectionRemoved number ∉ [] := fun _ => List.not_mem_nil
  -- a request goes with the event that ends its activation, or when it is taken off its device
  cases h with
  | flag => exact .inl ⟨r, hAttends.keeps hAttends.here rfl rfl hSame rfl hSilent, .refl r, hNone⟩
  | @hears d f hd hf =>
    have hHears := hAttends.hears (f d)
    exact .inl ⟨_, hHears.keeps hHears.here rfl rfl (hHears.answers.keeps rfl rfl rfl rfl fun _ _ => rfl)
      rfl hSilent, .of_eq rfl rfl, hNone⟩
  | @look q news hq hNews =>
    cases hAttends.here.symm.trans hq
    exact .inl ⟨_, hAttends.looks hDistinct hNews, r.resolves_processEvents.abides,
      fun number hIn => nomatch hNews _ hIn⟩
  | @revise q q' _ hq hRevises hEffects =>
    cases hAttends.here.symm.trans hq
    exact .inl ⟨q', hAttends.keeps rfl hRevises.queue rfl (hAttends.answers.keeps hRevises.nowait
      hRevises.outcome hRevises.waiters hRevises.deadline fun w _ => Request.received_of_answered hEffects w)
      hRevises.outcome hSilent, .of_eq hRevises.outcome hRevises.deadline, hNone⟩
  | @refuse d q q' hK hd hq hQueues hState hRevises =>
    cases hAttends.here.symm.trans hq
    obtain ⟨hFailed, hAbides⟩ := hAttends.refused hDistinct (hListen d hd) hQueues hState hRevises
    exact .inl ⟨_, hFailed, hAbides, hNone⟩
  | @tell e rest orphan hK hQueue hParts hOrphan =>
    obtain rfl : e.device = x := hOwn e (hQueue ▸ List.mem_cons_self)
    exact .inl ⟨r, hAttends.tells hQueue hParts, .refl r, fun _ => DeviceEvent.removed_not_published⟩
  | @leave e rest reason hK hQueue hParts hLooked =>
    obtain rfl : e.device = x := hOwn e (hQueue ▸ List.mem_cons_self)
    obtain ⟨hEmpty, hLeaves⟩ := hLooked r hAttends.here
    obtain ⟨o, hGot, hVerdict⟩ := hAttends.leaves hDistinct hQueue hParts hEmpty given
    exact .inr ⟨.inl hLeaves, o, rfl, ⟨e.published, [.activeConnectionsChanged],
      by rw [farewell_some hAttends.here], DeviceEvent.removed_not_published, hVerdict⟩, hGot⟩
  | @part q reason hq hK hQueues hOwned =>
    cases hAttends.here.symm.trans hq
    obtain ⟨o, hGot, hVerdict⟩ := hAttends.parts hDistinct reason [] given
      (by rw [List.append_nil]; exact hAttends.outcome_eq hQueues) (fun _ => ⟨reason, hK, rfl⟩)
      fun _ h => absurd h List.not_mem_nil
    exact .inr ⟨.inr ⟨reason, hK⟩, o, rfl, ⟨[], [.activeConnectionsChanged],
      by rw [farewell_some hAttends.here]; rfl, List.not_mem_nil, hVerdict⟩, hGot⟩
  | expire hq hK =>
    cases hAttends.here.symm.trans hq
    exact absurd hK hExpires
  | adopt hq hK =>
    cases hAttends.here.symm.trans hq
    exact absurd hK hExpires
  | wait hq hK =>
    cases hAttends.here.symm.trans hq
    exact absurd hK (hWaits _)

/-- Who waits for a request waited for it before, or begins to. -/
theorem Episode.waiting (h : s.Episode K s' news more) {r' : Request} (hr' : s'.request = some r') :
    ∃ r, s.request = some r ∧ r.id = r'.id ∧ ∀ w ∈ r'.waiters, w ∈ r.waiters ∨ K (.waits r.id w) := by
  obtain ⟨r, hr, hKeeps⟩ := h.kept hr'
  refine ⟨r, hr, hKeeps.goes.id.symm, fun w hw => ?_⟩
  cases h with
  | flag | tell | adopt =>
    cases hr.symm.trans hr'
    exact .inl hw
  | hears =>
    obtain ⟨q, hq, rfl⟩ := Option.map_eq_some_iff.mp hr'
    cases hr.symm.trans hq
    exact .inl hw
  | look hq =>
    cases hr'
    cases hr.symm.trans hq
    exact .inl (r.resolves_processEvents.waited w hw)
  | revise hq hRevises =>
    cases hr'
    cases hr.symm.trans hq
    exact .inl (hRevises.waiters ▸ hw)
  | @refuse d q q' hK hd hq hQueues hState hRevises =>
    cases hr'
    cases hr.symm.trans hq
    exact .inl (hRevises.waiters ▸ (q'.resolves_finish _).waited w hw)
  | leave => cases hr'
  | part => cases hr'
  | expire hq =>
    cases hr'
    cases hr.symm.trans hq
    exact .inl ((r.resolves_finish _).waited w hw)
  | @wait q waiter hq hK =>
    cases hr'
    cases hr.symm.trans hq
    unfold Request.wait at hw
    split at hw
    · exact .inl hw
    · split at hw
      · exact .inl hw
      · refine (List.mem_append.mp hw).imp_right fun hIn => ?_
        rw [List.mem_singleton.mp hIn]
        exact hK

end Site

namespace Manager

variable {A : Nat → String → Prop} {K : Feat → Prop} {m m' : Manager} {x n : Nat} {ws : List Nat}
variable {r : Request} {given given' : Outcome → Prop} {o : Outcome} {news : List ManagerEvent}

-- ---------------------------------------------------------------------------
-- Those who wait for other requests
-- ---------------------------------------------------------------------------

/-- Nobody waits for two requests. -/
def Apart (n : Nat) (ws : List Nat) (m : Manager) : Prop :=
  ∀ q ∈ m.requests, q.id ≠ n → ∀ w ∈ ws, w ∉ q.waiters

theorem Passage.waiting (h : Passage A K m m') (hFits : m.Fits A) :
    ∀ r' ∈ m'.requests, (∃ r ∈ m.requests, r.id = r'.id ∧
      ∀ w ∈ r'.waiters, w ∈ r.waiters ∨ K (.waits r.id w)) ∨ r'.waiters = [] := by
  rw [(h.fits hFits).linked.forall_requests]
  intro x r' hr'
  have hSame : m'.requestOn? x = m.requestOn? x → ∃ r ∈ m.requests, r.id = r'.id ∧
      ∀ w ∈ r'.waiters, w ∈ r.waiters ∨ K (.waits r.id w) := fun hEq =>
    ⟨r', (requestOn?_eq_some (hEq.symm.trans hr')).1, rfl, fun _ => .inl⟩
  obtain ⟨news, -, hFate⟩ := h.fate hFits x
  cases hFate with
  | stays hSite => exact .inl (hSame (congrArg Site.request hSite))
  | turns hEpisode =>
    obtain ⟨r, hr, hWaits⟩ := hEpisode.waiting hr'
    exact .inl ⟨r, (requestOn?_eq_some hr).1, hWaits⟩
  | @starts d d' r u hK hd hState hFree hLaunch hSite hUser hAuto hNew hNews hAwaited =>
    cases (congrArg Site.request hSite).symm.trans hr'
    exact .inr hAwaited.2.2.2
  | comes hNew hUnused hSite => exact .inl (hSame (congrArg Site.request hSite))
  | goes hNone hDevice hRequest => exact nomatch hRequest.symm.trans hr'

/-- Nobody is answered but who waits for a request, or begins to. -/
theorem Passage.answers (h : Passage A K m m') (hFits : m.Fits A) :
    ∃ more, m'.effects = m.effects ++ more ∧
      ∀ a ∈ answered more, (∃ q ∈ m.requests, a.1 ∈ q.waiters) ∨ ∃ number, K (.waits number a.1) := by
  obtain ⟨news, -, hFate⟩ := h.fate hFits 0
  have hNobody : m'.effects = m.effects → ∃ more, m'.effects = m.effects ++ more ∧
      ∀ a ∈ answered more, (∃ q ∈ m.requests, a.1 ∈ q.waiters) ∨ ∃ number, K (.waits number a.1) :=
    fun hSame => ⟨[], hSame.trans (List.append_nil _).symm, fun _ h => absurd h List.not_mem_nil⟩
  cases hFate with
  | stays hSite hSilent hEffects hAloof =>
    refine ⟨_, hEffects, fun a ha => (hAloof.answers a ha).imp_left ?_⟩
    rintro ⟨y, q, -, hq, hIn⟩
    exact ⟨q, (requestOn?_eq_some hq).1, hIn⟩
  | turns hEpisode hMarks hEffects =>
    refine ⟨_, hEffects, fun a ha => (hEpisode.answers a ha).imp_left ?_⟩
    rintro ⟨q, hq, hIn⟩
    exact ⟨q, (requestOn?_eq_some hq).1, hIn⟩
  | starts _ _ _ _ _ _ _ _ _ _ _ hEffects => exact hNobody hEffects
  | comes _ _ _ _ _ hEffects => exact hNobody hEffects
  | goes _ _ _ _ _ _ hEffects => exact hNobody hEffects

theorem Apart.next (h : Apart n ws m) (hPassage : Passage A K m m') (hFits : m.Fits A)
    (hWaits : ∀ number w, K (.waits number w) → number ≠ n → w ∉ ws) : Apart n ws m' := by
  intro r' hr' hOther w hw hIn
  rcases hPassage.waiting hFits r' hr' with ⟨r, hr, hId, hBefore⟩ | hNobody
  · rcases hBefore w hIn with hWaited | hK
    · exact h r hr (hId ▸ hOther) w hw hWaited
    · exact hWaits r.id w hK (hId ▸ hOther) hw
  · rw [hNobody] at hIn
    cases hIn

-- ---------------------------------------------------------------------------
-- A request that is there, and one that has gone
-- ---------------------------------------------------------------------------

/-- A request is there and was announced, and what is known of its site holds. -/
structure Serves (m : Manager) (x n : Nat) (ws : List Nat)
    (S : Site → List ManagerEvent → List Effect → Request → Prop) (r : Request) : Prop where
  here : m.requestOn? x = some r
  id : r.id = n
  site : S (m.site x) (lifetime n m.events) m.effects r
  opened : Opened n m.events
  apart : Apart n ws m

/-- A request has gone, and everyone who waited for it got its outcome. -/
structure Closed (m : Manager) (x n : Nat) (ws : List Nat) (given : Outcome → Prop) (o : Outcome) :
    Prop where
  absent : ∀ r ∈ m.requests, r.id ≠ n
  gone : Sealed n m.events
  got : ∀ w ∈ ws, received w m.effects = [o]
  apart : Apart n ws m
  verdict : Site.Verdict x (lifetime n m.events) given o

theorem Closed.mono (h : m.Closed x n ws given o) (hGiven : ∀ o, given o → given' o) :
    m.Closed x n ws given' o :=
  ⟨h.absent, h.gone, h.got, h.apart, h.verdict.decided.imp_right (And.imp_right (hGiven o)),
    h.verdict.activated⟩

/-- A request that has gone stays away, and nobody who waited for it gets anything more. -/
theorem Closed.next (h : m.Closed x n ws given o) (hPassage : Passage A K m m') (hFits : m.Fits A)
    (hLaunches : ¬ K (.launches n)) (hWaits : ∀ number w, K (.waits number w) → w ∉ ws) :
    m'.Closed x n ws given o := by
  obtain ⟨news, hEvents, -⟩ := hPassage.fate hFits x
  obtain ⟨more, hEffects, hAnswers⟩ := hPassage.answers hFits
  obtain ⟨hGone, hLife⟩ := h.gone.append news
  refine ⟨fun r' hr' hId => ?_, hEvents ▸ hGone, fun w hw => ?_,
    h.apart.next hPassage hFits fun number w hK _ => hWaits number w hK, ?_⟩
  · obtain ⟨r, hr, hKeeps⟩ | ⟨hK, -⟩ := hPassage.requests hFits r' hr'
    · exact h.absent r hr (hKeeps.goes.id.symm.trans hId)
    · exact hLaunches (hId ▸ hK)
  · rw [hEffects, received_append, h.got w hw, received_nil fun a ha hEq => ?_]
    · rfl
    · rcases hAnswers a ha with ⟨q, hq, hIn⟩ | ⟨number, hK⟩
      · exact h.apart q hq (h.absent q hq) w hw (hEq ▸ hIn)
      · exact hWaits number w (hEq ▸ hK) hw
  · rw [hEvents, hLife]
    exact h.verdict

/-- What becomes of a request with a passage follows from what becomes of its site. -/
theorem Serves.next {S : Site → List ManagerEvent → List Effect → Request → Prop} {Q : Outcome → Prop}
    (h : m.Serves x n ws S r) (hPassage : Passage A K m m') (hFits : m.Fits A)
    (hWaits : ∀ number w, K (.waits number w) → w ∉ ws)
    (hQuiet : ∀ {s s' : Site} {life news : List ManagerEvent} {effects more : List Effect},
      S s life effects r → s'.request = s.request → s'.queue = s.queue →
      (∀ e ∈ news, e.ending? x = none) → (∀ w ∈ ws, received w more = []) →
      S s' (life ++ news) (effects ++ more) r)
    (hEpisode : ∀ {s' : Site} {life news : List ManagerEvent} {effects more : List Effect},
      (m.site x).Episode K s' news more → S (m.site x) life effects r →
      (∃ r', s'.request = some r' ∧ S s' (life ++ news) (effects ++ more) r' ∧ r.Abides r' ∧
        ∀ number, .activeConnectionRemoved number ∉ news) ∨
      (K (.leaves n) ∨ ∃ reason, K (.parts n reason)) ∧
        ∃ o, Q o ∧ s'.Departs x n ws life (effects ++ more) news given o) :
    (∃ r', m'.Serves x n ws S r' ∧ r.Abides r') ∨
      (K (.leaves n) ∨ ∃ reason, K (.parts n reason)) ∧ ∃ o, Q o ∧ m'.Closed x n ws given o := by
  obtain ⟨news, hEvents, hFate⟩ := hPassage.fate hFits x
  have hApart := h.apart.next hPassage hFits fun number w hK _ => hWaits number w hK
  obtain ⟨hMem, hDevice⟩ := requestOn?_eq_some h.here
  have hStays : ∀ {more : List Effect}, (m'.site x).request = (m.site x).request →
      (m'.site x).queue = (m.site x).queue → (∀ e ∈ news, e.ending? x = none) →
      .activeConnectionRemoved n ∉ news → m'.effects = m.effects ++ more →
      (∀ w ∈ ws, received w more = []) → ∃ r', m'.Serves x n ws S r' ∧ r.Abides r' := by
    intro more hRequest hQueue hNews hNone hEffects hOthers
    refine ⟨r, ⟨hRequest.trans h.here, h.id, ?_, hEvents ▸ h.opened.append hNone, hApart⟩, .refl r⟩
    rw [hEvents, h.opened.lifetime_open hNone, hEffects]
    exact hQuiet h.site hRequest hQueue hNews hOthers
  cases hFate with
  | stays hSite hSilent hEffects hAloof =>
    -- a request on another device has another number
    have hOther : ∀ {y : Nat} {q : Request}, y ≠ x → m.requestOn? y = some q → q.id ≠ n := by
      intro y q hy hq hId
      obtain ⟨hIn, hAt⟩ := requestOn?_eq_some hq
      have hEq := hFits.linked.eq_of_id hIn hMem (hId.trans h.id.symm)
      exact hy (by rw [← hAt, hEq, hDevice])
    refine .inl (hStays (congrArg Site.request hSite) (congrArg Site.queue hSite)
      (ManagerEvent.ending_none hSilent) (fun hIn => ?_) hEffects fun w hw => received_nil fun a ha hEq => ?_)
    · obtain ⟨y, q, hy, hq, hId⟩ := hAloof.leaves n hIn
      exact hOther hy hq hId
    · rcases hAloof.answers a ha with ⟨y, q, hy, hq, hIn⟩ | ⟨number, hK⟩
      · exact h.apart q (requestOn?_eq_some hq).1 (hOther hy hq) w hw (hEq ▸ hIn)
      · exact hWaits number w (hEq ▸ hK) hw
  | turns hTurns hMarks hEffects =>
    rcases hEpisode hTurns h.site with ⟨r', hr', hSite, hAbides, hNone⟩ | ⟨hK, o, hQ, hDeparts⟩
    · refine .inl ⟨r', ⟨hr', ?_, ?_, hEvents ▸ h.opened.append (hNone n), hApart⟩, hAbides⟩
      · obtain ⟨q, hq, hKeeps⟩ := hTurns.kept hr'
        cases h.here.symm.trans hq
        exact hKeeps.goes.id.trans h.id
      · rw [hEvents, h.opened.lifetime_open (hNone n), hEffects]
        exact hSite
    · obtain ⟨told, rest, hNews, hTold, hVerdict⟩ := hDeparts.news
      obtain ⟨hGone, hLife⟩ := h.opened.close hNews hTold
      refine .inr ⟨hK, o, hQ, fun r' hr' hId => ?_, hEvents ▸ hGone, hEffects ▸ hDeparts.got, hApart, ?_⟩
      · obtain ⟨q, hq, hKeeps⟩ | ⟨-, -, -, hFresh⟩ := hPassage.requests hFits r' hr'
        · cases hFits.linked.eq_of_id hq hMem (hKeeps.goes.id.symm.trans (hId.trans h.id.symm))
          have hOn := (hPassage.fits hFits).linked.requestOn?_of_mem hr'
          rw [hKeeps.goes.device, hDevice] at hOn
          exact nomatch hDeparts.request.symm.trans hOn
        · exact hFresh.requests r hMem (h.id.trans hId.symm)
      · rw [hEvents, hLife]
        exact hVerdict
  | starts hK hd hState hFree => exact nomatch hFree.1.symm.trans h.here
  | comes hNew hUnused hSite hQueue hNews hEffects =>
    have hAside : ∀ e ∈ news, e = .deviceAdded x := fun e he => by
      rw [hNews] at he
      exact List.mem_singleton.mp he
    exact .inl (hStays ((congrArg Site.request hSite).trans rfl) ((congrArg Site.queue hSite).trans rfl)
      (fun e he => hAside e he ▸ rfl) (fun hIn => nomatch hAside _ hIn)
      (hEffects.trans (List.append_nil _).symm) fun _ _ => rfl)
  | goes hNone => exact nomatch hNone.symm.trans h.here

/-- A request is there, and its outcome is what was told of its device. -/
def Tends (m : Manager) (x n : Nat) (ws : List Nat) (r : Request) : Prop :=
  m.Serves x n ws (fun s life effects r => s.Attends x ws life effects r) r

theorem Tends.next (h : m.Tends x n ws r) (hPassage : Passage A K m m') (hFits : m.Fits A)
    (hDistinct : ws.Nodup) (hExpires : ¬ K (.expires n))
    (hWaits : ∀ number w, K (.waits number w) → number ≠ n ∧ w ∉ ws) :
    (∃ r', m'.Tends x n ws r' ∧ r.Abides r') ∨
      (K (.leaves n) ∨ ∃ reason, K (.parts n reason)) ∧ ∃ o, m'.Closed x n ws (fun o =>
        ∃ reason, K (.parts n reason) ∧ o = .failed (.activationFailed reason)) o := by
  have hId := h.id
  refine (Serves.next (Q := fun _ => True) h hPassage hFits (fun number w hK => (hWaits number w hK).2)
    (fun hSite hRequest hQueue hNews hOthers => hSite.keeps (hRequest.trans hSite.here) rfl hQueue
      (hSite.answers.keeps rfl rfl rfl rfl hOthers) rfl hNews) fun hEpisode hSite => ?_).imp_right
        fun ⟨hK, o, _, hClosed⟩ => ⟨hK, o, hClosed⟩
  have hOwn : ∀ e ∈ m.queueOf x, e.device = x := fun e he => beq_iff_eq.mp (List.mem_filter.mp he).2
  have hCases := hEpisode.attends hSite hOwn (fun d hd => (hFits.sound hd).allListen) hDistinct
    (hId.symm ▸ hExpires) fun w hK => (hWaits r.id w hK).1 hId
  rw [hId] at hCases
  exact hCases.imp (fun ⟨r', hSite', hAbides, hNone⟩ => ⟨r', hSite'.here, hSite', hAbides, hNone⟩)
    fun ⟨hK, o, hDeparts⟩ => ⟨hK, o, trivial, hDeparts⟩

-- ---------------------------------------------------------------------------
-- Requests whose time is up, and requests that start
-- ---------------------------------------------------------------------------

end Manager

/-- The time for the request on a site is up, and nothing was told that would have ended it. -/
structure Site.Lapses (s : Site) (x : Nat) (ws : List Nat) (life : List ManagerEvent)
    (effects : List Effect) (r : Request) : Prop where
  here : s.request = some r
  answers : r.Answers ws effects
  outcome : r.outcome = none ∨ r.outcome = some (.failed .timeoutExpired)
  queues : r.queue = [] ∧ s.queue = []
  silent : ∀ e ∈ life, e.ending? x = none

section

variable {K : Feat → Prop} {s s' : Site} {news life : List ManagerEvent} {effects more : List Effect}
variable {x : Nat} {ws : List Nat} {r r' : Request}

/-- The time for the request is up still, if it gets no other outcome and nobody tells of its device. -/
theorem Site.Lapses.keeps (h : s.Lapses x ws life effects r) (hHere : s'.request = some r')
    (hAnswers : r'.Answers ws (effects ++ more))
    (hOutcome : r'.outcome = none ∨ r'.outcome = some (.failed .timeoutExpired))
    (hQueue : r'.queue = r.queue) (hWaiting : s'.queue = s.queue)
    (hNews : ∀ e ∈ news, e.isAside = true) : s'.Lapses x ws (life ++ news) (effects ++ more) r' where
  here := hHere
  answers := hAnswers
  outcome := hOutcome
  queues := ⟨hQueue.trans h.queues.1, hWaiting.trans h.queues.2⟩
  silent e he := (List.mem_append.mp he).elim (h.silent e) fun hIn => Site.ending_of_aside (hNews e hIn)

/-- A request whose time is up leaves its device with the outcome that says so. -/
theorem Site.Lapses.departs (h : s.Lapses x ws life effects r) (hDistinct : ws.Nodup)
    (reason : StateReason) (hExpired : r.outcome = some (.failed .timeoutExpired)) :
    s.forget.Departs x r.id ws life (effects ++ s.parting reason) s.farewell
      (fun o => o = .failed .timeoutExpired) (.failed .timeoutExpired) := by
  have hGot := h.answers.detach hDistinct reason
  rw [hExpired] at hGot
  refine ⟨rfl, ⟨[], [.activeConnectionsChanged], by rw [farewell_some h.here]; rfl, List.not_mem_nil,
    .inr ⟨List.findSome?_eq_none_iff.mpr fun e he => ?_, rfl⟩, nofun, ?_⟩, ?_⟩
  · rw [List.append_nil] at he
    exact h.silent e he
  · rintro ⟨e, he, hUp⟩
    rw [List.append_nil] at he
    exact nomatch (h.silent e he).symm.trans hUp
  · rw [parting_some h.here]
    exact hGot

/-- A request whose time is up stays until it goes with the outcome that says so. -/
theorem Site.Episode.lapses (h : s.Episode K s' news more) (hLapses : s.Lapses x ws life effects r)
    (hDistinct : ws.Nodup) (hTells : ¬ K .tells) (hDrives : ¬ K .drives) (hHalts : ¬ K .halts)
    (hRouses : ¬ K .rouses) (hWaits : ∀ number w, ¬ K (.waits number w)) :
    (∃ r', s'.request = some r' ∧ s'.Lapses x ws (life ++ news) (effects ++ more) r' ∧ r.Abides r' ∧
      ∀ number, .activeConnectionRemoved number ∉ news) ∨
    (K (.leaves r.id) ∨ ∃ reason, K (.parts r.id reason)) ∧ ∃ o, o = .failed .timeoutExpired ∧
      s'.Departs x r.id ws life (effects ++ more) news (fun o => o = .failed .timeoutExpired) o := by
  have hStays : ∀ {r' : Request}, s'.Lapses x ws (life ++ news) (effects ++ more) r' → r.Abides r' →
      (∀ e ∈ news, e.isAside = true) →
      ∃ r', s'.request = some r' ∧ s'.Lapses x ws (life ++ news) (effects ++ more) r' ∧ r.Abides r' ∧
        ∀ number, .activeConnectionRemoved number ∉ news :=
    fun hStill hAbides hNews => ⟨_, hStill.here, hStill, hAbides, fun _ hIn => nomatch hNews _ hIn⟩
  have hSame : r.Answers ws (effects ++ []) := by
    rw [List.append_nil]
    exact hLapses.answers
  have hAside : ∀ e ∈ ([] : List ManagerEvent), e.isAside = true := fun _ h => absurd h List.not_mem_nil
  cases h with
  | flag =>
    exact .inl (hStays (hLapses.keeps hLapses.here hSame hLapses.outcome rfl rfl hAside) (.refl r) hAside)
  | hears hd hf =>
    have hBusy : s.request ≠ none := fun hNone => nomatch hNone.symm.trans hLapses.here
    cases hf with
    | halts hK => exact absurd hK hHalts
    | drives hK => exact absurd hK hDrives
    | abandons hK hNone => exact absurd hNone hBusy
    | recovers hNone => exact absurd hNone hBusy
    | rouses hK => exact absurd hK hRouses
  | look hq hNews =>
    cases hLapses.here.symm.trans hq
    have hResolves := r.resolves_processEvents
    have hOutcome := hResolves.outcome
    rw [hLapses.queues.1, List.findSome?_nil, Option.or_none] at hOutcome
    refine .inl (hStays (hLapses.keeps rfl ?_ ?_ ?_ rfl hNews) hResolves.abides hNews)
    · exact hResolves.answers hLapses.answers hDistinct
    · exact hOutcome ▸ hLapses.outcome
    · exact r.queue_processEvents.trans hLapses.queues.1.symm
  | revise hq hRevises hEffects =>
    cases hLapses.here.symm.trans hq
    have hAnswers := hLapses.answers.keeps hRevises.nowait hRevises.outcome hRevises.waiters
      hRevises.deadline fun w _ => Request.received_of_answered hEffects w
    exact .inl (hStays (hLapses.keeps rfl hAnswers (hRevises.outcome ▸ hLapses.outcome) hRevises.queue
      rfl hAside) (.of_eq hRevises.outcome hRevises.deadline) hAside)
  | refuse hK => exact absurd hK hDrives
  | tell hK => exact absurd hK hTells
  | leave hK => exact absurd hK hTells
  | @part q reason hq hK hQueues hOwned =>
    cases hLapses.here.symm.trans hq
    -- without a halt, a request is taken off only after it got an outcome, and that is the timeout
    have hExpired : r.outcome = some (.failed .timeoutExpired) :=
      hLapses.outcome.resolve_left fun hNone => by
        have hSome := (hOwned.resolve_left hHalts).1
        rw [hNone] at hSome
        cases hSome
    exact .inr ⟨.inr ⟨reason, hK⟩, _, rfl, hLapses.departs hDistinct reason hExpired⟩
  | expire hq hK hNone =>
    cases hLapses.here.symm.trans hq
    have hResolves := r.resolves_finish (.failed .timeoutExpired)
    refine .inl (hStays (hLapses.keeps rfl ?_ ?_ ?_ rfl hAside) hResolves.abides hAside)
    · exact hResolves.answers hLapses.answers hDistinct
    · exact .inr (by rw [hResolves.outcome, hNone]; rfl)
    · exact (r.finish_same _).queue
  | adopt =>
    exact .inl (hStays (hLapses.keeps hLapses.here hSame hLapses.outcome rfl rfl hAside) (.refl r) hAside)
  | wait hq hK => exact absurd hK (hWaits _ _)

end

namespace Manager

variable {A : Nat → String → Prop} {K : Feat → Prop} {m m' : Manager} {x n : Nat} {ws : List Nat}
variable {r : Request} {o : Outcome} {news : List ManagerEvent} {operation : Operation}

/-- The time for a request is up, and it is still there. -/
def Lapses (m : Manager) (x n : Nat) (ws : List Nat) (r : Request) : Prop :=
  m.Serves x n ws (fun s life effects r => s.Lapses x ws life effects r) r

/-- The first part of an operation drives nothing on, so a request whose time is up gets the outcome that
says so. -/
theorem Lapses.next (h : m.Lapses x n ws r) {m₀ : Manager}
    (hPassage : Passage A (m₀.Expiring operation) m m') (hFits : m.Fits A) (hDistinct : ws.Nodup) :
    (∃ r', m'.Lapses x n ws r' ∧ r.Abides r') ∨
      ∃ o, o = .failed .timeoutExpired ∧ m'.Closed x n ws (fun o => o = .failed .timeoutExpired) o := by
  have hId := h.id
  refine Or.imp_right And.right (Serves.next (K := m₀.Expiring operation)
    (Q := fun o => o = .failed .timeoutExpired) h hPassage hFits (fun _ _ hK => hK.elim)
    (fun hSite hRequest hQueue hNews hOthers => ⟨hRequest.trans hSite.here,
      hSite.answers.keeps rfl rfl rfl rfl hOthers, hSite.outcome,
      ⟨hSite.queues.1, hQueue.trans hSite.queues.2⟩,
      fun e he => (List.mem_append.mp he).elim (hSite.silent e) (hNews e)⟩) fun hEpisode hSite => ?_)
  have hCases := hEpisode.lapses hSite hDistinct id id id id fun _ _ => id
  rw [hId] at hCases
  exact hCases

/-- A request that was never there. -/
structure Unborn (m : Manager) (n : Nat) : Prop where
  absent : ∀ r ∈ m.requests, r.id ≠ n
  unknown : .activeConnectionAdded n ∉ m.events ∧ .activeConnectionRemoved n ∉ m.events

theorem lifetime_born {events : List ManagerEvent} (h : .activeConnectionAdded n ∉ events) :
    lifetime n (events ++ [.activeConnectionAdded n, .activeConnectionsChanged]) =
      [.activeConnectionAdded n, .activeConnectionsChanged] := by
  have hNone : events.dropWhile (fun e => e != .activeConnectionAdded n) = [] :=
    List.dropWhile_eq_nil_iff.mpr fun e he => bne_iff_ne.mpr fun hEq => h (hEq ▸ he)
  unfold lifetime
  rw [List.dropWhile_append, hNone]
  simp

/-- A request that was just started has nobody who waits for it. -/
theorem Site.attends_launched (s : Site) {u : Update}
    (hAwaited : r.nowait = false ∧ r.outcome = none ∧ r.queue = [] ∧ r.waiters = [])
    (hQueue : s.queue = []) (effects : List Effect) :
    (s.launched r u).Attends x [] [.activeConnectionAdded n, .activeConnectionsChanged] effects
      (r.hear u.events) := by
  obtain ⟨hPatient, hOpen, hEmpty, hNobody⟩ := hAwaited
  refine ⟨rfl, ⟨hPatient, ?_, nofun, fun hSome => ?_⟩, ?_, fun e he => ?_⟩
  · show r.waiters = if r.outcome.isSome then [] else []
    rw [hNobody, ite_self]
  · change r.outcome.isSome = true at hSome
    rw [hOpen] at hSome
    cases hSome
  · show r.outcome.or ((r.queue ++ u.events).findSome? _) =
      Option.or _ ((s.queue ++ u.events).findSome? _)
    rw [hOpen, hEmpty, hQueue]
    rfl
  · rcases List.mem_pair.mp he with rfl | rfl <;> exact .inl rfl

theorem Fate.born (h : Fate K m m' x news) (hUnborn : m.Unborn n) (hEvents : m'.events = m.events ++ news)
    (hOn : m'.requestOn? x = some r) (hId : r.id = n) : m'.Tends x n [] r := by
  have hNobody : ∀ r, m.requestOn? x = some r → r.id ≠ n :=
    fun r hr => hUnborn.absent r (requestOn?_eq_some hr).1
  cases h with
  | stays hSite => exact absurd hId (hNobody r ((congrArg Site.request hSite).symm.trans hOn))
  | turns hEpisode =>
    obtain ⟨q, hq, hKeeps⟩ := hEpisode.kept hOn
    exact absurd (hKeeps.goes.id.symm.trans hId) (hNobody q hq)
  | @starts d d' q u hK hd hState hFree hLaunch hSite hUser hAuto hNew hNews hAwaited =>
    have hStarted : q.hear u.events = r := Option.some.inj ((congrArg Site.request hSite).symm.trans hOn)
    subst hStarted
    have hNumber : q.id = n := (q.goes_hear u.events).id.symm.trans hId
    rw [hNumber] at hNews
    refine ⟨hOn, hId, ?_, ⟨?_, fun hIn => ?_⟩, fun _ _ _ _ hw => absurd hw List.not_mem_nil⟩
    · rw [hEvents, hNews, lifetime_born hUnborn.unknown.1, hSite]
      exact Site.attends_launched _ hAwaited hFree.2.2 _
    · rw [hEvents, hNews]
      exact List.mem_append_right _ List.mem_cons_self
    · rw [hEvents, hNews, List.mem_append, List.mem_pair] at hIn
      rcases hIn with hOld | hEq | hEq
      · exact hUnborn.unknown.2 hOld
      · cases hEq
      · cases hEq
  | comes hNew hUnused hSite => exact absurd hId (hNobody r ((congrArg Site.request hSite).symm.trans hOn))
  | goes hNone hDevice hRequest => exact nomatch hRequest.symm.trans hOn

/-- Only what is there is told to go. -/
theorem Passage.removed (h : Passage A K m m') (hFits : m.Fits A) (hEvents : m'.events = m.events ++ news)
    (hRemoved : .activeConnectionRemoved n ∈ news) : ∃ r ∈ m.requests, r.id = n := by
  cases h.fate_of hFits hEvents 0 with
  | stays hSite hSilent hEffects hAloof =>
    obtain ⟨y, q, -, hq, hId⟩ := hAloof.leaves n hRemoved
    exact ⟨q, (requestOn?_eq_some hq).1, hId⟩
  | turns hEpisode =>
    rcases mem_news hEpisode hRemoved with hAside | ⟨_, _, _, hEq⟩ | ⟨q, hq, -, hEq⟩
    · cases hAside
    · cases hEq
    · cases hEq
      exact ⟨q, (requestOn?_eq_some hq).1, rfl⟩
  | starts _ _ _ _ _ _ _ _ _ hNews =>
    rw [hNews, List.mem_pair] at hRemoved
    rcases hRemoved with hEq | hEq <;> cases hEq
  | comes _ _ _ _ hNews =>
    rw [hNews, List.mem_singleton] at hRemoved
    cases hRemoved
  | goes _ _ _ _ _ _ _ hLeaves => exact absurd hRemoved (hLeaves n)

/-- A request that starts has nobody who waits for it. -/
theorem Unborn.next (h : m.Unborn n) (hPassage : Passage A K m m') (hFits : m.Fits A) :
    m'.Unborn n ∨ ∃ x r, m'.Tends x n [] r := by
  by_cases hBorn : ∃ r ∈ m'.requests, r.id = n
  · obtain ⟨r, hr, hId⟩ := hBorn
    obtain ⟨news, hEvents, hFate⟩ := hPassage.fate hFits r.device
    exact .inr ⟨r.device, r,
      hFate.born h hEvents ((hPassage.fits hFits).linked.requestOn?_of_mem hr) hId⟩
  · obtain ⟨news, hEvents, -⟩ := hPassage.fate hFits 0
    refine .inl ⟨fun r hr hId => hBorn ⟨r, hr, hId⟩, fun hIn => ?_, fun hIn => ?_⟩
    · rw [hEvents, List.mem_append] at hIn
      obtain ⟨-, y, q, hq, hId⟩ := hPassage.added hFits hEvents (hIn.resolve_left h.unknown.1)
      exact hBorn ⟨q, (requestOn?_eq_some hq).1, hId⟩
    · rw [hEvents, List.mem_append] at hIn
      obtain ⟨r, hr, hId⟩ := hPassage.removed hFits hEvents (hIn.resolve_left h.unknown.2)
      exact h.absent r hr hId

end Manager

end ScannerHub
