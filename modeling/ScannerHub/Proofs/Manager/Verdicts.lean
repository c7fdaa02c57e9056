import ScannerHub.Proofs.Manager.Answers

/-!
# How requests end

Everyone who waits for a request gets its outcome once, and the same one as all others. What it is can be
read off what was published while the request was there: the first event of its device that ends
activations decides. A request that goes without one goes because an operation takes it away, and gets
what the operation gives: the timeout if its time was up, or else a failure with the reason that the
operation has for it.

A receiver belongs to one request. To say whose it is, a register of those who wait is kept beside the
manager. It changes nothing.

* `Operation.parting?`, `Manager.Given` — what an operation gives to a request that it takes away;
* `Register` — the manager, and for each request those who were let to wait.

## Results

* `Informed.tends` — what an operation makes of a request and of those who wait for it;
* `Register.Sound.operate` — the register is right;
* `Register.run_answered` — everyone who waits is answered once, and truthfully.
-/

namespace ScannerHub

/-- What an operation gives to the requests that it takes away, if it is one that takes any. -/
def Operation.parting? : Operation → Option Outcome
  | .processTimeouts _ => some (.failed .timeoutExpired)
  | operation => operation.severs?.map fun reason => .failed (.activationFailed reason)

/-- All operations but the passing of time give the reason for which they end activations. -/
theorem Operation.parting_of_still {operation : Operation} (hDrives : operation.drives = false) :
    operation.parting? = operation.severs?.map fun reason => .failed (.activationFailed reason) := by
  cases operation <;> first | rfl | cases hDrives

/-- The receiver that an operation gives to somebody who wants to wait. -/
def Operation.receiver? : Operation → Option Nat
  | .wait _ waiter => some waiter
  | _ => none

namespace Manager

variable {A : Nat → String → Prop} {K : Feat → Prop} {m m' : Manager} {x n : Nat} {ws : List Nat}
variable {r : Request} {given : Outcome → Prop} {o : Outcome} {operation : Operation}

/-- What a request gets that goes with an operation although nothing was told that would end it. -/
def Given (m : Manager) (n : Nat) (operation : Operation) (o : Outcome) : Prop :=
  operation.parting? = some o ∧ (operation.drives = true → m.Expires n operation)

-- ---------------------------------------------------------------------------
-- Parts of operations
-- ---------------------------------------------------------------------------

/-- What becomes of a request with a part of an operation that leaves alone how long it may take. -/
theorem Passages.tends (h : Passages A K m m') (hFits : m.Fits A) (hDistinct : ws.Nodup)
    (hExpires : ¬ K (.expires n)) (hLaunches : ¬ K (.launches n))
    (hWaits : ∀ number w, K (.waits number w) → number ≠ n ∧ w ∉ ws)
    (hGiven : ∀ reason, K (.parts n reason) → given (.failed (.activationFailed reason)))
    (hStart : (∃ r', m.Tends x n ws r' ∧ r.Abides r') ∨ ∃ o, m.Closed x n ws given o) :
    (∃ r', m'.Tends x n ws r' ∧ r.Abides r') ∨ ∃ o, m'.Closed x n ws given o := by
  -- from passage to passage: a request that tends goes on or closes, and one that closed stays closed
  refine (passages_preserve (P := fun m => (∃ r', m.Tends x n ws r' ∧ r.Abides r') ∨
    ∃ o, m.Closed x n ws given o) (fun hPassage hFits h => ?_) h hFits hStart).2
  rcases h with ⟨r', hTends, hAbides⟩ | ⟨o, hClosed⟩
  · rcases hTends.next hPassage hFits hDistinct hExpires hWaits with ⟨r'', hStill, hNext⟩ | ⟨-, o, hClosed⟩
    · exact .inl ⟨r'', hStill, hAbides.trans hNext⟩
    · refine .inr ⟨o, hClosed.mono ?_⟩
      rintro _ ⟨reason, hK, rfl⟩
      exact hGiven reason hK
  · exact .inr ⟨o, hClosed.next hPassage hFits hLaunches fun number w hK => (hWaits number w hK).2⟩

theorem Passages.closed (h : Passages A K m m') (hFits : m.Fits A) (hLaunches : ¬ K (.launches n))
    (hWaits : ∀ number w, K (.waits number w) → w ∉ ws) (hClosed : m.Closed x n ws given o) :
    m'.Closed x n ws given o :=
  (passages_preserve (P := fun m => m.Closed x n ws given o)
    (fun hPassage hFits h => h.next hPassage hFits hLaunches hWaits) h hFits hClosed).2

/-- A request that starts is there once the operation is over, and has nobody who waits for it. -/
theorem Passages.unborn (h : Passages A K m m') (hFits : m.Fits A) (hExpires : ¬ K (.expires n))
    (hLeaves : ¬ K (.leaves n)) (hParts : ∀ reason, ¬ K (.parts n reason))
    (hWaits : ∀ number w, K (.waits number w) → number ≠ n) (hUnborn : m.Unborn n) :
    m'.Unborn n ∨ ∃ x r, m'.Tends x n [] r := by
  refine (passages_preserve (P := fun m => m.Unborn n ∨ ∃ x r, m.Tends x n [] r)
    (fun hPassage hFits h => ?_) h hFits (.inl hUnborn)).2
  rcases h with hUnborn | ⟨x, r, hTends⟩
  · exact hUnborn.next hPassage hFits
  · rcases hTends.next hPassage hFits List.nodup_nil hExpires fun number w hK =>
      ⟨hWaits number w hK, List.not_mem_nil⟩ with ⟨r', hStill, -⟩ | ⟨hK, -⟩
    · exact .inr ⟨x, r', hStill⟩
    · exact (hK.elim hLeaves fun ⟨reason, hK⟩ => hParts reason hK).elim

/-- Nobody is answered but who waits, or begins to. -/
theorem Passages.knows {S : Nat → Prop} (h : Passages A K m m') (hFits : m.Fits A)
    (hWaits : ∀ number w, K (.waits number w) → S w) (hWaiting : ∀ q ∈ m.requests, ∀ w ∈ q.waiters, S w)
    (hAnswered : ∀ a ∈ answered m.effects, S a.1) : ∀ a ∈ answered m'.effects, S a.1 := by
  refine (passages_preserve (P := fun m => (∀ q ∈ m.requests, ∀ w ∈ q.waiters, S w) ∧
    ∀ a ∈ answered m.effects, S a.1) (fun hPassage hFits h => ⟨fun q' hq' w hw => ?_, ?_⟩) h hFits
    ⟨hWaiting, hAnswered⟩).2.2
  · rcases hPassage.waiting hFits q' hq' with ⟨q, hq, -, hBefore⟩ | hNobody
    · exact (hBefore w hw).elim (h.1 q hq w) (hWaits q.id w)
    · rw [hNobody] at hw
      cases hw
  · obtain ⟨more, hEffects, hAnswers⟩ := hPassage.answers hFits
    rw [hEffects, answered_append]
    intro a ha
    refine (List.mem_append.mp ha).elim (h.2 a) fun hIn => ?_
    exact (hAnswers a hIn).elim (fun ⟨q, hq, hw⟩ => h.1 q hq a.1 hw) fun ⟨number, hK⟩ => hWaits number a.1 hK

-- ---------------------------------------------------------------------------
-- Operations
-- ---------------------------------------------------------------------------

/-- Of a settled manager all that was told is known. -/
theorem Settled.outcome_tends (h : m.Settled A) (hTends : m.Tends x n ws r) :
    r.outcome = (lifetime n m.events).findSome? (ManagerEvent.ending? x) :=
  hTends.site.outcome_eq (h.looked_on hTends.here)

/-- The time for a request is up, and nothing was told that would end it. -/
theorem Settled.lapses (h : m.Settled A) (hTends : m.Tends x n ws r) (hExpires : m.Expires n operation) :
    m.Lapses x n ws r ∧ ∃ moment deadline, operation = .processTimeouts moment ∧
      r.deadline = some deadline ∧ deadline ≤ moment := by
  cases operation with
  | processTimeouts moment =>
    obtain ⟨q, hq, hId, hDue⟩ := hExpires
    cases h.linked.eq_of_id hq (requestOn?_eq_some hTends.here).1 (hId.trans hTends.id.symm)
    unfold Request.checkTimeout at hDue
    split at hDue
    · cases hDue
    · rename_i deadline hDeadline
      split at hDue
      · rename_i hOpen
        have hNone := (h.outcome_tends hTends).symm.trans hOpen.2
        exact ⟨⟨hTends.here, hTends.id, ⟨hTends.here, hTends.site.answers, .inl hOpen.2,
          h.looked_on hTends.here, List.findSome?_eq_none_iff.mp hNone⟩, hTends.opened, hTends.apart⟩,
          moment, deadline, rfl, hDeadline, hOpen.1⟩
      · cases hDue
  | _ => exact hExpires.elim

/-- A request whose time is up goes before anything else happens, and everyone gets the timeout. -/
theorem Informed.tends_expired (h : m.Informed A) (hTends : m.Tends x n ws r) (hDistinct : ws.Nodup)
    (hExpires : m.Expires n operation) :
    (m.operate operation).Closed x n ws (m.Given n operation) (.failed .timeoutExpired) := by
  have hOld : ¬ m.nextRequest ≤ n := Nat.not_le.mpr (hExpires.bound h.toFits)
  have hTime : operation.drives = true ∧ operation.parting? = some (.failed .timeoutExpired) := by
    cases operation with
    | processTimeouts moment => exact ⟨rfl, rfl⟩
    | _ => exact hExpires.elim
  obtain ⟨m₁, m₂, hExpiring, hNone, hDriving, -, hStarting⟩ :=
    h.toSettled.operate_driven h.stamped hTime.1
  have hFits₁ := Passages.fits hExpiring h.toFits
  -- requests expire in the first part of the operation, and after that part none is left that is due
  have hEnded := (passages_preserve (P := fun m' => (∃ r', m'.Lapses x n ws r') ∨
      ∃ o, o = .failed .timeoutExpired ∧ m'.Closed x n ws (fun o => o = .failed .timeoutExpired) o)
    (fun {m₁ m₂} hPassage hFits hBefore => by
      rcases hBefore with ⟨r', hLapses⟩ | ⟨o, ho, hClosed⟩
      · exact (hLapses.next hPassage hFits hDistinct).imp_left fun ⟨r'', hStill, _⟩ => ⟨r'', hStill⟩
      · exact .inr ⟨o, ho, hClosed.next hPassage hFits id fun _ _ hK => hK.elim⟩)
    hExpiring h.toFits (.inl ⟨r, (h.toSettled.lapses hTends hExpires).1⟩)).2
  obtain ⟨o, rfl, hClosed⟩ := hEnded.resolve_left fun ⟨r', hLapses⟩ =>
    hNone r' (requestOn?_eq_some hLapses.here).1 (hLapses.id.symm ▸ hExpires)
  -- in the other two parts it stays closed, since no request comes back
  have hLast := Passages.closed hStarting (Passages.fits hDriving hFits₁) hOld (fun _ _ hK => hK.elim)
    (Passages.closed hDriving hFits₁ id (fun _ _ hK => hK.elim) hClosed)
  refine hLast.mono ?_
  rintro _ rfl
  exact ⟨hTime.2, fun _ => hExpires⟩

/-- A request whose time is not up goes only with an event that is told, if the operation is one that
drives activations on. -/
theorem Informed.tends_driven (h : m.Informed A) (hTends : m.Tends x n ws r) (hDistinct : ws.Nodup)
    (hDrives : operation.drives = true) (hExpires : ¬ m.Expires n operation) :
    (∃ r', (m.operate operation).Tends x n ws r' ∧ r.Abides r') ∨
      ∃ o, (m.operate operation).Closed x n ws (fun _ => False) o := by
  have hOld : ¬ m.nextRequest ≤ n := by
    rw [← hTends.id, Nat.not_le]
    exact h.linked.requestBound r (requestOn?_eq_some hTends.here).1
  obtain ⟨m₁, m₂, hExpiring, -, hDriving, -, hStarting⟩ := h.toSettled.operate_driven h.stamped hDrives
  have hFits₁ := Passages.fits hExpiring h.toFits
  have hFirst : (∃ r', m₁.Tends x n ws r' ∧ r.Abides r') ∨ ∃ o, m₁.Closed x n ws (fun _ => False) o :=
    Passages.tends hExpiring h.toFits hDistinct hExpires id (fun _ _ hK => hK.elim)
      (fun _ hK => hExpires hK.1) (.inl ⟨r, hTends, .refl r⟩)
  have hNext := Passages.tends hDriving hFits₁ hDistinct id id (fun _ _ hK => hK.elim)
    (fun _ hK => hK) hFirst
  exact Passages.tends hStarting (Passages.fits hDriving hFits₁) hDistinct id hOld
    (fun _ _ hK => hK.elim) (fun _ hK => hK) hNext

/-- What an operation makes of a request and of those who wait for it. Either the request is still there,
or it has gone and everyone got its outcome. It is the timeout if the time for the request was up. -/
theorem Informed.tends (h : m.Informed A) (hTends : m.Tends x n ws r) (hDistinct : ws.Nodup)
    (hWaits : ∀ number w, operation = .wait number w → number ≠ n ∧ w ∉ ws) :
    (¬ m.Expires n operation ∧ ∃ r', (m.operate operation).Tends x n ws r' ∧ r.Abides r') ∨
      ∃ o, (m.operate operation).Closed x n ws (m.Given n operation) o ∧
        (o = .failed .timeoutExpired ↔ m.Expires n operation) := by
  by_cases hExpires : m.Expires n operation
  · exact .inr ⟨_, h.tends_expired hTends hDistinct hExpires, iff_of_true rfl hExpires⟩
  · by_cases hDrives : operation.drives = true
    · exact (h.tends_driven hTends hDistinct hDrives hExpires).imp (fun hStill => ⟨hExpires, hStill⟩)
        fun ⟨o, hClosed⟩ => ⟨o, hClosed.mono fun _ hNever => hNever.elim,
          iff_of_false (hClosed.verdict.not_timeout id) hExpires⟩
    · -- an operation that drives nothing on takes requests away only for its own reason
      have hOld : ¬ m.nextRequest ≤ n := by
        rw [← hTends.id, Nat.not_le]
        exact h.linked.requestBound r (requestOn?_eq_some hTends.here).1
      have hParting := Operation.parting_of_still (Bool.not_eq_true _ ▸ hDrives)
      have hGiven : ∀ reason, m.Grants operation (.parts n reason) →
          m.Given n operation (.failed (.activationFailed reason)) := fun reason hK =>
        ⟨by rw [hParting, hK.2]; rfl, fun hDrive => absurd hDrive hDrives⟩
      refine (Passages.tends (h.passages operation) h.toFits hDistinct hExpires hOld hWaits hGiven
        (.inl ⟨r, hTends, .refl r⟩)).imp (fun hStill => ⟨hExpires, hStill⟩) fun ⟨o, hClosed⟩ => ⟨o, hClosed,
          iff_of_false (hClosed.verdict.not_timeout fun hGave => ?_) hExpires⟩
      obtain ⟨reason, -, hReason⟩ := Option.map_eq_some_iff.mp (hParting.symm.trans hGave.1)
      cases hReason

/-- What is published with an operation while a request is there belongs to its time. -/
theorem Informed.lifetime_operate (h : m.Informed A) (hOpened : Opened n m.events) (operation : Operation) :
    ∃ told, lifetime n (m.operate operation).events = lifetime n m.events ++ told := by
  obtain ⟨news, hEvents, -⟩ := Passages.follow (P := fun _ _ => True) (fun _ _ _ _ => trivial)
    (h.passages operation) h.toFits [] trivial
  exact ⟨_, hEvents ▸ hOpened.lifetime_append news⟩

-- ---------------------------------------------------------------------------
-- Receivers
-- ---------------------------------------------------------------------------

/-- Who begins to wait for a request with an operation. -/
def joins (m : Manager) (n : Nat) : Operation → List Nat
  | .wait number waiter => if number = n ∧ (m.request? n).isSome then [waiter] else []
  | _ => []

end Manager

namespace Request

variable {r : Request} {ws : List Nat} {effects : List Effect} {w : Nat}

theorem checkTimeout_due {deadline moment : Nat} (hDeadline : r.deadline = some deadline)
    (hDue : deadline ≤ moment) (hOpen : r.outcome = none) : (r.checkTimeout moment).2.2 = true := by
  unfold checkTimeout
  rw [hDeadline]
  dsimp only
  rw [if_pos ⟨hDue, hOpen⟩]

theorem wait_ended {o : Outcome} (ho : r.outcome = some o) : r.wait w = (r, [.answerWaiter w o]) := by
  unfold wait
  split
  · rename_i o' ho'
    rw [ho] at ho'
    cases ho'
    rfl
  · rename_i hNone
    rw [ho] at hNone
    cases hNone

theorem wait_open (hNone : r.outcome = none) (hPatient : r.nowait = false) :
    r.wait w = ({ r with waiters := r.waiters ++ [w] }, []) := by
  unfold wait
  split
  · rename_i o ho
    rw [hNone] at ho
    cases ho
  · rw [if_neg (by rw [hPatient]; exact Bool.false_ne_true)]

/-- Somebody who waits begins with nothing, or with the outcome if there is one. -/
theorem Answers.wait (h : r.Answers ws effects) (hNew : w ∉ ws) (hNothing : received w effects = []) :
    (r.wait w).1.Answers (ws ++ [w]) (effects ++ (r.wait w).2) ∧ r.Abides (r.wait w).1 ∧
      (r.wait w).1.outcome = r.outcome ∧ (r.wait w).1.queue = r.queue := by
  -- without an outcome it joins those who wait, and with one it is answered on the spot
  rcases Option.eq_none_or_eq_some r.outcome with hNone | ⟨o, ho⟩
  · rw [wait_open hNone h.patient]
    have hWaiting : r.waiters = ws := by
      rw [h.waiting, hNone]
      rfl
    refine ⟨⟨h.patient, ?_, fun v hv => ?_, h.deadline⟩, .of_eq rfl rfl, rfl, rfl⟩
    · show r.waiters ++ [w] = if r.outcome.isSome then [] else ws ++ [w]
      rw [hWaiting, hNone]
      rfl
    · show received v (effects ++ []) = r.outcome.toList
      rw [List.append_nil]
      rcases List.mem_append.mp hv with hIn | hIn
      · exact h.got v hIn
      · rw [List.mem_singleton.mp hIn, hNothing, hNone]
        rfl
  · rw [wait_ended ho]
    have hOthers : ∀ v ∈ ws, received v [.answerWaiter w o] = [] := by
      intro v hv
      refine received_nil fun a ha hEq => hNew ?_
      rw [List.mem_singleton.mp ha] at hEq
      exact (show w = v from hEq) ▸ hv
    have hSelf : received w [.answerWaiter w o] = [o] := by simp [received, answered, Effect.answer?]
    refine ⟨⟨h.patient, ?_, fun v hv => ?_, h.deadline⟩, .refl r, rfl, rfl⟩
    · rw [h.waiting, ho]
      rfl
    · have hGot := h.got
      rw [ho] at hGot
      rw [received_append, ho]
      rcases List.mem_append.mp hv with hIn | hIn
      · rw [hGot v hIn, hOthers v hIn]
        rfl
      · rw [List.mem_singleton.mp hIn, hNothing, hSelf]
        rfl

end Request

namespace Manager

variable {A : Nat → String → Prop} {K : Feat → Prop} {m m' : Manager} {x n : Nat} {ws : List Nat}
variable {r : Request} {given : Outcome → Prop} {o : Outcome} {operation : Operation}

/-- Somebody begins to wait for a request that is there. -/
theorem Informed.tends_wait (h : m.Informed A) (hTends : m.Tends x n ws r) {w : Nat} (hNew : w ∉ ws)
    (hNothing : received w m.effects = []) (hOthers : ∀ q ∈ m.requests, q.id ≠ n → w ∉ q.waiters) :
    ∃ r', (m.operate (.wait n w)).Tends x n (ws ++ [w]) r' ∧ r.Abides r' := by
  obtain ⟨hMem, hDevice⟩ := requestOn?_eq_some hTends.here
  have hTurns := h.toFits.turns_wait hMem w
  rw [hDevice, hTends.id] at hTurns
  have hHere : (m.operate (.wait n w)).site x = (m.site x).withRequest (r.wait w).1 := hTurns.here
  have hEvents : (m.operate (.wait n w)).events = m.events := hTurns.events.trans (List.append_nil _)
  have hEffects : (m.operate (.wait n w)).effects = m.effects ++ (r.wait w).2 := hTurns.effects
  obtain ⟨hAnswers, hAbides, hOutcome, hQueue⟩ := hTends.site.answers.wait hNew hNothing
  have hPassage : Passage A (m.Grants (.wait n w)) m (m.operate (.wait n w)) :=
    hTurns.silent (.wait hTends.here (by rw [hTends.id]; rfl))
  refine ⟨(r.wait w).1, ⟨congrArg Site.request hHere, (r.goes_wait w).id.trans hTends.id, ?_,
    hEvents ▸ hTends.opened, fun q' hq' hOther v hv hIn => ?_⟩, hAbides⟩
  · rw [hEvents, hEffects, hHere]
    refine ⟨rfl, hAnswers, ?_, hTends.site.upright⟩
    rw [hOutcome, hQueue]
    exact hTends.site.told
  · -- nobody who waits for this request waits for another one, and the newcomer is new
    rcases hPassage.waiting h.toFits q' hq' with ⟨q, hq, hId, hBefore⟩ | hNobody
    · rcases hBefore v hIn with hWaited | hK
      · rcases List.mem_append.mp hv with hOld | hLast
        · exact hTends.apart q hq (hId ▸ hOther) v hOld hWaited
        · exact hOthers q hq (hId ▸ hOther) (List.mem_singleton.mp hLast ▸ hWaited)
      · exact hOther (hId ▸ (Operation.wait.inj hK).1.symm)
    · rw [hNobody] at hIn
      cases hIn

/-- The time that a request has runs out. -/
def TimesOut (m : Manager) (n : Nat) (operations : List Operation) : Prop :=
  ∃ earlier moment later, operations = earlier ++ .processTimeouts moment :: later ∧
    ∃ r ∈ (m.run earlier).requests, r.id = n ∧
      (∀ old reason, .deviceStateChanged r.device .activated old reason ∉
        lifetime n (m.run earlier).events) ∧
      ∃ deadline, r.deadline = some deadline ∧ deadline ≤ moment

theorem request?_absent (h : ∀ q ∈ m.requests, q.id ≠ n) : m.request? n = none :=
  Option.eq_none_iff_forall_ne_some.mpr fun q hq => h q (request?_eq_some hq).1 (request?_eq_some hq).2

theorem operate_wait_absent (hNone : m.request? n = none) (w : Nat) : m.operate (.wait n w) = m := by
  show (m.wait n w).1 = m
  unfold Manager.wait
  rw [hNone]

end Manager

/-- A manager, and for each request those who were let to wait for it. -/
structure Register where
  manager : Manager
  receivers : Nat → List Nat

namespace Register

open Manager

variable {A : Nat → String → Prop} {g : Register} {operation : Operation}

/-- A manager that has just started. -/
def start (store : StateStore) (allowed : List Nat) (timeout : Option Nat) (epoch : Nat) : Register :=
  { manager := .start store allowed timeout epoch, receivers := fun _ => [] }

def operate (g : Register) (operation : Operation) : Register :=
  { manager := g.manager.operate operation
    receivers := fun n => g.receivers n ++ g.manager.joins n operation }

def run (g : Register) (operations : List Operation) : Register := operations.foldl operate g

/-- The register changes nothing. -/
theorem manager_run (g : Register) (operations : List Operation) :
    (g.run operations).manager = g.manager.run operations := by
  induction operations generalizing g with
  | nil => rfl
  | cons operation operations ih => exact ih (g.operate operation)

/-- What the register knows: whoever waits for a request that is there will get its outcome, and whoever
waited for one that has gone got it. -/
structure Sound (A : Nat → String → Prop) (g : Register) : Prop where
  informed : g.manager.Informed A
  distinct : ∀ n, (g.receivers n).Nodup
  apart : ∀ n k w, w ∈ g.receivers n → w ∈ g.receivers k → n = k
  known : ∀ a ∈ answered g.manager.effects, ∃ n, a.1 ∈ g.receivers n
  tends : ∀ x r, g.manager.requestOn? x = some r → g.manager.Tends x r.id (g.receivers r.id) r
  unborn : ∀ n, g.manager.nextRequest ≤ n → g.manager.Unborn n
  closed : ∀ n, (∀ r ∈ g.manager.requests, r.id ≠ n) → g.receivers n ≠ [] →
    ∃ x o, g.manager.Closed x n (g.receivers n) (fun _ => True) o

theorem start_sound (store : StateStore) (allowed : List Nat) (timeout : Option Nat) (epoch : Nat) :
    (start store allowed timeout epoch).Sound A where
  informed := start_informed store allowed timeout epoch
  distinct _ := List.nodup_nil
  apart _ _ _ hw := absurd hw List.not_mem_nil
  known _ ha := absurd ha List.not_mem_nil
  tends _ _ hr := absurd (requestOn?_eq_some hr).1 List.not_mem_nil
  unborn _ _ := ⟨fun _ hr => absurd hr List.not_mem_nil, List.not_mem_nil, List.not_mem_nil⟩
  closed _ _ hSome := absurd rfl hSome

theorem joins_of_ne {m : Manager} {n : Nat} (h : ∀ w, operation ≠ .wait n w) : m.joins n operation = [] := by
  cases operation with
  | wait number waiter => exact if_neg fun ⟨hEq, _⟩ => h waiter (hEq ▸ rfl)
  | _ => rfl

theorem joins_absent {m : Manager} {n : Nat} (h : m.request? n = none) : m.joins n operation = [] := by
  cases operation with
  | wait number waiter =>
    refine if_neg fun ⟨_, hThere⟩ => ?_
    rw [h] at hThere
    cases hThere
  | _ => rfl

/-- Only who asks for it begins to wait. -/
theorem mem_joins {m : Manager} {n w : Nat} (hIn : w ∈ m.joins n operation) : operation = .wait n w := by
  cases operation with
  | wait number waiter =>
    change w ∈ (if number = n ∧ _ then [waiter] else []) at hIn
    split at hIn
    · rename_i hThere
      rw [List.mem_singleton.mp hIn, hThere.1]
    · cases hIn
  | _ => cases hIn

theorem nodup_joins {m : Manager} {n : Nat} : (m.joins n operation).Nodup := by
  cases operation with
  | wait number waiter =>
    show (if number = n ∧ _ then [waiter] else []).Nodup
    split
    · exact List.nodup_singleton _
    · exact List.nodup_nil
  | _ => exact List.nodup_nil

/-- Nobody waits for a request that was never there. -/
theorem Sound.nobody (h : g.Sound A) {n : Nat} (hUnborn : g.manager.Unborn n) : g.receivers n = [] := by
  by_contra hSome
  obtain ⟨x, o, hClosed⟩ := h.closed n hUnborn.absent hSome
  exact hUnborn.unknown.2 ((List.dropWhile_sublist _).subset hClosed.gone)

theorem Sound.answered_known (h : g.Sound A) {w : Nat} (hNew : ∀ n, w ∉ g.receivers n) :
    received w g.manager.effects = [] :=
  received_nil fun a ha hEq => by
    obtain ⟨n, hIn⟩ := h.known a ha
    exact hNew n (hEq ▸ hIn)

/-- Whoever waits is known. -/
theorem Sound.waiting_known (h : g.Sound A) {q : Request} (hq : q ∈ g.manager.requests) {w : Nat}
    (hw : w ∈ q.waiters) : w ∈ g.receivers q.id := by
  have hWaiting := (h.tends q.device q (h.informed.linked.requestOn?_of_mem hq)).site.answers.waiting
  rw [hWaiting] at hw
  split at hw
  · cases hw
  · exact hw

variable {x n : Nat} {r : Request}

/-- What an operation makes of a request and of all who wait for it afterwards. -/
theorem Sound.tends_operate (h : g.Sound A) (hr : g.manager.requestOn? x = some r)
    (hFresh : ∀ number w, operation = .wait number w → ∀ n, w ∉ g.receivers n) :
    (¬ g.manager.Expires r.id operation ∧
      ∃ r', (g.operate operation).manager.Tends x r.id ((g.operate operation).receivers r.id) r' ∧
        r.Abides r') ∨
    ∃ o, (g.operate operation).manager.Closed x r.id ((g.operate operation).receivers r.id)
      (g.manager.Given r.id operation) o ∧
        (o = .failed .timeoutExpired ↔ g.manager.Expires r.id operation) := by
  have hTends := h.tends x r hr
  have hMem := (requestOn?_eq_some hr).1
  -- only who begins to wait for this very request changes who waits for it
  by_cases hJoins : ∃ w, operation = .wait r.id w
  · obtain ⟨w, rfl⟩ := hJoins
    have hNew := hFresh r.id w rfl
    obtain ⟨r', hStill, hAbides⟩ := h.informed.tends_wait hTends (hNew r.id) (h.answered_known hNew)
      fun q hq _ hIn => hNew q.id (h.waiting_known hq hIn)
    refine .inl ⟨id, r', ?_, hAbides⟩
    show Manager.Tends _ x r.id (g.receivers r.id ++ if r.id = r.id ∧ _ then [w] else []) r'
    rw [h.informed.linked.request?_of_mem hMem, if_pos ⟨rfl, rfl⟩]
    exact hStill
  · have hNobody : (g.operate operation).receivers r.id = g.receivers r.id := by
      show g.receivers r.id ++ g.manager.joins r.id operation = _
      rw [joins_of_ne fun w hEq => hJoins ⟨w, hEq⟩, List.append_nil]
    rw [hNobody]
    refine h.informed.tends hTends (h.distinct r.id) fun number w hEq => ⟨?_, hFresh number w hEq r.id⟩
    rintro rfl
    exact hJoins ⟨w, hEq⟩

/-- A request that was never there stays so, or starts with an operation. -/
theorem Sound.unborn_operate (h : g.Sound A) (hUnborn : g.manager.Unborn n)
    (hNew : g.manager.nextRequest ≤ n) :
    (g.operate operation).manager.Unborn n ∨ ∃ x r, (g.operate operation).manager.Tends x n [] r := by
  by_cases hJoins : ∃ w, operation = .wait n w
  · obtain ⟨w, rfl⟩ := hJoins
    left
    show (g.manager.operate (.wait n w)).Unborn n
    rw [operate_wait_absent (request?_absent hUnborn.absent)]
    exact hUnborn
  · have hOld : ¬ n < g.manager.nextRequest := Nat.not_lt.mpr hNew
    refine Passages.unborn (h.informed.passages operation) h.informed.toFits
      (fun hK => hOld (Expires.bound hK h.informed.toFits)) (fun hK => hOld hK.1) (fun _ hK => hOld hK.1)
      (fun number w hK => ?_) hUnborn
    rintro rfl
    exact hJoins ⟨w, hK⟩

/-- A request that is there after an operation was there before, or it starts with the operation. -/
theorem Sound.tends_after (h : g.Sound A)
    (hFresh : ∀ number w, operation = .wait number w → ∀ n, w ∉ g.receivers n)
    (hr : (g.operate operation).manager.requestOn? x = some r) :
    (g.operate operation).manager.Tends x r.id ((g.operate operation).receivers r.id) r := by
  have hInformed := h.informed.operate operation
  obtain ⟨hMem, rfl⟩ := requestOn?_eq_some hr
  -- whatever is known of a request with the number is known of this one
  have hOne : ∀ {y : Nat} {ws : List Nat} {r' : Request},
      (g.operate operation).manager.Tends y r.id ws r' →
        (g.operate operation).manager.Tends r.device r.id ws r := by
    intro y ws r' hTends
    obtain ⟨hMem', rfl⟩ := requestOn?_eq_some hTends.here
    cases hInformed.linked.eq_of_id hMem' hMem hTends.id
    exact hTends
  cases (h.informed.toSettled.operate_proceeds operation).requests r hMem with
  | @kept q hq hGoes =>
    have hOn := h.informed.linked.requestOn?_of_mem hq
    have hCases := h.tends_operate hOn hFresh
    rw [← hGoes.id] at hCases
    rcases hCases with ⟨-, r', hTends, -⟩ | ⟨o, hClosed, -⟩
    · exact hOne hTends
    · exact absurd rfl (hClosed.absent r hMem)
  | new hNumber =>
    have hUnborn := h.unborn r.id hNumber
    have hNobody : (g.operate operation).receivers r.id = [] := by
      show g.receivers r.id ++ g.manager.joins r.id operation = []
      rw [joins_absent (request?_absent hUnborn.absent), h.nobody hUnborn]
      rfl
    rw [hNobody]
    rcases h.unborn_operate hUnborn hNumber with hStill | ⟨y, r', hTends⟩
    · exact absurd rfl (hStill.absent r hMem)
    · exact hOne hTends

/-- Who waited for a request that has gone, and what they got, does not change. -/
theorem Sound.closed_operate (h : g.Sound A) {given : Outcome → Prop} {o : Outcome}
    (hFresh : ∀ number w, operation = .wait number w → ∀ n, w ∉ g.receivers n)
    (hOld : n < g.manager.nextRequest)
    (hClosed : g.manager.Closed x n (g.receivers n) given o) :
    (g.operate operation).receivers n = g.receivers n ∧
      (g.operate operation).manager.Closed x n (g.receivers n) given o := by
  constructor
  · show g.receivers n ++ g.manager.joins n operation = g.receivers n
    rw [joins_absent (request?_absent hClosed.absent), List.append_nil]
  · exact Passages.closed (h.informed.passages operation) h.informed.toFits (Nat.not_le.mpr hOld)
      (fun number w hK => hFresh number w hK n) hClosed

/-- Nobody is answered who is not known. -/
theorem Sound.known_operate (h : g.Sound A) :
    ∀ a ∈ answered (g.operate operation).manager.effects, ∃ n, a.1 ∈ (g.operate operation).receivers n := by
  have hBefore : ∀ {n w}, w ∈ g.receivers n → ∃ n, w ∈ (g.operate operation).receivers n :=
    fun {n w} hIn => ⟨n, List.mem_append_left _ hIn⟩
  have hAnswered : ∀ a ∈ answered g.manager.effects, ∃ n, a.1 ∈ (g.operate operation).receivers n :=
    fun a ha => (h.known a ha).elim fun _ => hBefore
  by_cases hJoins : ∀ number w, operation = .wait number w → ∃ n, w ∈ (g.operate operation).receivers n
  · exact Passages.knows (h.informed.passages operation) h.informed.toFits hJoins
      (fun q hq w hw => hBefore (h.waiting_known hq hw)) hAnswered
  · -- nobody is let to wait for a request that is not there
    push Not at hJoins
    obtain ⟨number, w, rfl, hNever⟩ := hJoins
    have hAbsent : g.manager.request? number = none := by
      refine Option.eq_none_iff_forall_ne_some.mpr fun r hr => hNever number ?_
      refine List.mem_append_right _ ?_
      show w ∈ if number = number ∧ _ then [w] else []
      rw [hr, if_pos ⟨rfl, rfl⟩]
      exact List.mem_singleton.mpr rfl
    show ∀ a ∈ answered (g.manager.operate (.wait number w)).effects, _
    rw [operate_wait_absent hAbsent]
    exact hAnswered

/-- Every receiver of a request is another one. -/
theorem Sound.distinct_operate (h : g.Sound A)
    (hFresh : ∀ number w, operation = .wait number w → ∀ n, w ∉ g.receivers n) (n : Nat) :
    ((g.operate operation).receivers n).Nodup := by
  refine List.nodup_append.mpr ⟨h.distinct n, nodup_joins, fun v hv w hw hEq => ?_⟩
  exact hFresh n w (mem_joins hw) n (hEq ▸ hv)

/-- Nobody waits for two requests. -/
theorem Sound.apart_operate (h : g.Sound A)
    (hFresh : ∀ number w, operation = .wait number w → ∀ n, w ∉ g.receivers n) (n k w : Nat)
    (hn : w ∈ (g.operate operation).receivers n) (hk : w ∈ (g.operate operation).receivers k) : n = k := by
  rcases List.mem_append.mp hn with hOldN | hNewN
  · rcases List.mem_append.mp hk with hOldK | hNewK
    · exact h.apart n k w hOldN hOldK
    · exact absurd hOldN (hFresh k w (mem_joins hNewK) n)
  · rcases List.mem_append.mp hk with hOldK | hNewK
    · exact absurd hOldK (hFresh n w (mem_joins hNewN) k)
    · exact (Operation.wait.inj ((mem_joins hNewN).symm.trans (mem_joins hNewK))).1

/-- A number that was not given out is that of no request. -/
theorem Sound.unborn_after (h : g.Sound A) (hNew : (g.operate operation).manager.nextRequest ≤ n) :
    (g.operate operation).manager.Unborn n := by
  have hInformed := h.informed.operate operation
  have hBefore := Nat.le_trans (Passages.nextRequest (h.informed.passages operation)) hNew
  rcases h.unborn_operate (h.unborn n hBefore) hBefore with hStill | ⟨x, r, hTends⟩
  · exact hStill
  · have hBound := hInformed.linked.requestBound r (requestOn?_eq_some hTends.here).1
    exact absurd (hTends.id ▸ hBound) (Nat.not_lt.mpr hNew)

/-- Whoever waited for a request that has gone got its outcome, whether it went just now or before. -/
theorem Sound.closed_after (h : g.Sound A)
    (hFresh : ∀ number w, operation = .wait number w → ∀ n, w ∉ g.receivers n)
    (hAbsent : ∀ r ∈ (g.operate operation).manager.requests, r.id ≠ n)
    (hSome : (g.operate operation).receivers n ≠ []) :
    ∃ x o, (g.operate operation).manager.Closed x n ((g.operate operation).receivers n)
      (fun _ => True) o := by
  by_cases hThere : ∃ r ∈ g.manager.requests, r.id = n
  · obtain ⟨r, hr, rfl⟩ := hThere
    rcases h.tends_operate (h.informed.linked.requestOn?_of_mem hr) hFresh with
      ⟨-, r', hTends, -⟩ | ⟨o, hClosed, -⟩
    · exact absurd hTends.id (hAbsent r' (requestOn?_eq_some hTends.here).1)
    · exact ⟨r.device, o, hClosed.mono fun _ _ => trivial⟩
  · have hGone : ∀ r ∈ g.manager.requests, r.id ≠ n := fun r hr hId => hThere ⟨r, hr, hId⟩
    have hSame : (g.operate operation).receivers n = g.receivers n := by
      show g.receivers n ++ g.manager.joins n operation = g.receivers n
      rw [joins_absent (request?_absent hGone), List.append_nil]
    rw [hSame] at hSome ⊢
    -- somebody waited for it, so its number was given out
    have hOld : n < g.manager.nextRequest := by
      rw [← Nat.not_le]
      exact fun hNew => hSome (h.nobody (h.unborn n hNew))
    obtain ⟨x, o, hClosed⟩ := h.closed n hGone hSome
    exact ⟨x, o, (h.closed_operate hFresh hOld hClosed).2⟩

theorem Sound.operate (h : g.Sound A)
    (hFresh : ∀ number w, operation = .wait number w → ∀ n, w ∉ g.receivers n) :
    (g.operate operation).Sound A where
  informed := h.informed.operate operation
  distinct := h.distinct_operate hFresh
  apart := h.apart_operate hFresh
  known := h.known_operate
  tends _ _ hr := h.tends_after hFresh hr
  unborn _ hNew := h.unborn_after hNew
  closed _ hAbsent hSome := h.closed_after hFresh hAbsent hSome

-- ---------------------------------------------------------------------------
-- Runs
-- ---------------------------------------------------------------------------

/-- The receivers that operations give are new, and no two are one. -/
structure Distinct (g : Register) (operations : List Operation) : Prop where
  nodup : (operations.filterMap Operation.receiver?).Nodup
  fresh : ∀ w ∈ operations.filterMap Operation.receiver?, ∀ n, w ∉ g.receivers n

theorem Distinct.head {operations : List Operation} (h : g.Distinct (operation :: operations)) :
    ∀ number w, operation = .wait number w → ∀ n, w ∉ g.receivers n := by
  rintro number w rfl n
  exact h.fresh w List.mem_cons_self n

theorem Distinct.tail {operations : List Operation} (h : g.Distinct (operation :: operations)) :
    (g.operate operation).Distinct operations := by
  have hSublist : (operations.filterMap Operation.receiver?).Sublist
      ((operation :: operations).filterMap Operation.receiver?) :=
    (List.sublist_cons_self _ _).filterMap _
  refine ⟨hSublist.nodup h.nodup, fun w hw n hIn => ?_⟩
  rcases List.mem_append.mp hIn with hOld | hNew
  · exact h.fresh w (hSublist.subset hw) n hOld
  · -- the receiver of this operation is not given out again
    obtain rfl := mem_joins hNew
    exact (List.nodup_cons.mp h.nodup).1 hw

theorem Sound.run (h : g.Sound A) {operations : List Operation} (hDistinct : g.Distinct operations) :
    (g.run operations).Sound A := by
  induction operations generalizing g with
  | nil => exact h
  | cons operation operations ih => exact ih (h.operate hDistinct.head) hDistinct.tail

theorem Sound.run_closed (h : g.Sound A) {operations : List Operation} (hDistinct : g.Distinct operations)
    {given : Outcome → Prop} {o : Outcome} (hOld : n < g.manager.nextRequest)
    (hClosed : g.manager.Closed x n (g.receivers n) given o) :
    (g.run operations).receivers n = g.receivers n ∧
      (g.run operations).manager.Closed x n (g.receivers n) given o := by
  induction operations generalizing g with
  | nil => exact ⟨rfl, hClosed⟩
  | cons operation operations ih =>
    obtain ⟨hSame, hNext⟩ := h.closed_operate hDistinct.head hOld hClosed
    have hLater := Nat.lt_of_lt_of_le hOld (Passages.nextRequest (h.informed.passages operation))
    have hRest := ih (h.operate hDistinct.head) hDistinct.tail hLater (hSame ▸ hNext)
    rw [hSame] at hRest
    exact hRest

/-- For as long as a request is there its first outcome is its last one. -/
theorem Sound.run_abides (h : g.Sound A) {operations : List Operation} (hDistinct : g.Distinct operations)
    (hr : g.manager.requestOn? x = some r) :
    ∀ r' ∈ (g.run operations).manager.requests, r'.id = r.id → r.Abides r' := by
  induction operations generalizing g r with
  | nil =>
    intro r' hr' hId
    cases h.informed.linked.eq_of_id hr' (requestOn?_eq_some hr).1 hId
    exact .refl r
  | cons operation operations ih =>
    intro r' hr' hId
    have hNext := h.operate hDistinct.head
    rcases h.tends_operate hr hDistinct.head with ⟨-, q, hTends, hAbides⟩ | ⟨o, hClosed, -⟩
    · exact hAbides.trans (ih hNext hDistinct.tail hTends.here r' hr' (hId.trans hTends.id.symm))
    · have hOld := Nat.lt_of_lt_of_le (h.informed.linked.requestBound r (requestOn?_eq_some hr).1)
        (Passages.nextRequest (h.informed.passages operation))
      exact absurd hId ((hNext.run_closed hDistinct.tail hOld hClosed).2.absent r' hr')

/-- Nobody gets more than one outcome. -/
theorem Sound.once (h : g.Sound A) {w : Nat} (hw : w ∈ g.receivers n) :
    (received w g.manager.effects).length ≤ 1 := by
  by_cases hThere : ∃ r ∈ g.manager.requests, r.id = n
  · obtain ⟨r, hr, rfl⟩ := hThere
    rw [(h.tends r.device r (h.informed.linked.requestOn?_of_mem hr)).site.answers.got w hw]
    cases r.outcome <;> simp
  · obtain ⟨x, o, hClosed⟩ := h.closed n (fun r hr hId => hThere ⟨r, hr, hId⟩) (List.ne_nil_of_mem hw)
    rw [hClosed.got w hw]
    exact Nat.le_refl _

/-- The operation with which a request goes answers everyone who still waits for it, and nobody who
waited for it is answered ever after. -/
theorem Sound.removed (h : g.Sound A) {after : List Operation} (hDistinct : g.Distinct (operation :: after))
    (hr : g.manager.requestOn? x = some r)
    (hGone : ∀ q ∈ (g.operate operation).manager.requests, q.id ≠ r.id) :
    let life := lifetime r.id (g.operate operation).manager.events
    ∃ o, (∀ w ∈ ((g.operate operation).run after).receivers r.id,
        received w (g.operate operation).manager.effects = [o] ∧
          received w ((g.operate operation).run after).manager.effects = [o]) ∧
      (∀ o', r.outcome = some o' → o = o') ∧
      some o = (life.findSome? (ManagerEvent.ending? x)).or operation.parting? ∧
      (o = .reached .activated ↔ ∃ old reason, .deviceStateChanged x .activated old reason ∈ life) ∧
      (o = .failed .timeoutExpired ↔ g.manager.Expires r.id operation) := by
  intro life
  have hTends := h.tends x r hr
  -- the request does not tend any more, so it closed with the operation
  obtain ⟨o, hClosed, hTime⟩ := (h.tends_operate hr hDistinct.head).resolve_left
    fun ⟨_, q, hStill, _⟩ => hGone q (requestOn?_eq_some hStill.here).1 hStill.id
  have hOld := Nat.lt_of_lt_of_le (h.informed.linked.requestBound r (requestOn?_eq_some hr).1)
    (Passages.nextRequest (h.informed.passages operation))
  -- what is closed stays closed in whatever comes after
  obtain ⟨hSame, hLater⟩ := (h.operate hDistinct.head).run_closed hDistinct.tail hOld hClosed
  refine ⟨o, fun w hw => ?_, fun o' ho' => ?_, ?_, ?_, hTime⟩
  · rw [hSame] at hw
    exact ⟨hClosed.got w hw, hLater.got w hw⟩
  · -- an outcome that was there before is that of the first event that ends activations
    obtain ⟨told, hLife⟩ := h.informed.lifetime_operate hTends.opened operation
    have hFirst : life.findSome? (ManagerEvent.ending? x) = some o' := by
      show (lifetime r.id (g.manager.operate operation).events).findSome? _ = _
      rw [hLife, List.findSome?_append, ← h.informed.toSettled.outcome_tends hTends, ho']
      rfl
    rcases hClosed.verdict.decided with hSome | ⟨hNone, -⟩
    · exact Option.some.inj (hSome.symm.trans hFirst)
    · exact nomatch hNone.symm.trans hFirst
  · -- either an event decided, or there was none and the operation gave what it gives
    rcases hClosed.verdict.decided with hSome | ⟨hNone, hGiven⟩
    · exact (congrArg (Option.or · _) hSome).symm
    · exact hGiven.1.symm.trans (congrArg (Option.or · _) hNone).symm
  · rw [hClosed.verdict.activated]
    constructor
    · rintro ⟨e, he, hEnding⟩
      obtain ⟨old, reason, rfl⟩ := ManagerEvent.ending_activated.mp hEnding
      exact ⟨old, reason, he⟩
    · rintro ⟨old, reason, he⟩
      exact ⟨_, he, ManagerEvent.ending_activated.mpr ⟨old, reason, rfl⟩⟩

theorem run_append (g : Register) (before after : List Operation) :
    g.run (before ++ after) = (g.run before).run after :=
  List.foldl_append

theorem Distinct.append {before after : List Operation} (h : g.Distinct (before ++ after)) :
    g.Distinct before ∧ (g.run before).Distinct after := by
  induction before generalizing g with
  | nil => exact ⟨⟨List.nodup_nil, nofun⟩, h⟩
  | cons operation before ih =>
    obtain ⟨hBefore, hAfter⟩ := ih h.tail
    have hSublist : ((operation :: before).filterMap Operation.receiver?).Sublist
        ((operation :: before ++ after).filterMap Operation.receiver?) :=
      (List.sublist_append_left _ _).filterMap _
    exact ⟨⟨hSublist.nodup h.nodup, fun w hw => h.fresh w (hSublist.subset hw)⟩, hAfter⟩

/-- A request times out exactly if its time runs out while it is there and its device is not up. -/
theorem Sound.timesOut_iff (h : g.Sound A) {before : List Operation}
    (hDistinct : g.Distinct (before ++ [operation])) (hr : (g.run before).manager.requestOn? x = some r) :
    g.manager.TimesOut r.id (before ++ [operation]) ↔ (g.run before).manager.Expires r.id operation := by
  obtain ⟨hBefore, hLast⟩ := hDistinct.append
  have hSound := h.run hBefore
  obtain ⟨hMem, hDevice⟩ := requestOn?_eq_some hr
  constructor
  · rintro ⟨earlier, moment, later, hSplit, q, hq, hId, -, deadline, hDeadline, hDue⟩
    rw [← manager_run] at hq
    rw [hSplit] at hDistinct
    obtain ⟨hEarlier, hRest⟩ := hDistinct.append
    have hThen := h.run hEarlier
    have hOn := hThen.informed.linked.requestOn?_of_mem hq
    have hExpires : (g.run earlier).manager.Expires q.id (.processTimeouts moment) := by
      refine ⟨q, hq, rfl, Request.checkTimeout_due hDeadline hDue ?_⟩
      rw [← Option.not_isSome_iff_eq_none]
      intro hSome
      rw [(hThen.tends q.device q hOn).site.answers.deadline hSome] at hDeadline
      cases hDeadline
    -- the time ran out with the last operation, or before it
    rcases List.eq_nil_or_concat later with rfl | ⟨between, last, rfl⟩
    · obtain ⟨rfl, hSame⟩ := List.append_inj' hSplit rfl
      cases hSame
      exact hId ▸ hExpires
    · -- before it: then the request had gone when the last operation came
      rw [List.concat_eq_append] at hSplit hRest
      have hEnds : before ++ [operation] = (earlier ++ .processTimeouts moment :: between) ++ [last] :=
        hSplit.trans (List.append_assoc _ (_ :: between) _).symm
      obtain ⟨rfl, -⟩ := List.append_inj' hEnds rfl
      have hRest' : (g.run earlier).Distinct ((.processTimeouts moment :: between) ++ [last]) := hRest
      obtain ⟨hBetween, -⟩ := hRest'.append
      obtain ⟨o, hClosed, -⟩ := (hThen.tends_operate hOn hBetween.head).resolve_left
        fun hStill => hStill.1 hExpires
      have hOld := Nat.lt_of_lt_of_le (hThen.informed.linked.requestBound q hq)
        (Passages.nextRequest (hThen.informed.passages (.processTimeouts moment)))
      have hLater := (hThen.operate hBetween.head).run_closed hBetween.tail hOld hClosed
      rw [run_append] at hMem
      exact absurd hId.symm (hLater.2.absent r hMem)
  · intro hExpires
    have hTends := hSound.tends x r hr
    obtain ⟨hLapses, moment, deadline, rfl, hDeadline, hDue⟩ :=
      hSound.informed.toSettled.lapses hTends hExpires
    refine ⟨before, moment, [], rfl, r, manager_run g before ▸ hMem, rfl, fun old reason hIn => ?_,
      deadline, hDeadline, hDue⟩
    rw [← manager_run, hDevice] at hIn
    exact nomatch (hLapses.site.silent _ hIn).symm.trans
      (ManagerEvent.ending_activated.mpr ⟨old, reason, rfl⟩)

/-- **Everyone who waits is answered once, and truthfully.** At no time has anybody got more than one
outcome. While a request is there its outcome is none, or success if its device was told to be up since it
started. Everyone who was let to wait has got just that. Once there is an outcome it stays, and the
deadline has gone.

When an operation ends with the request gone, everyone who ever waited for it has one outcome, the same
for all, and gets no other. It is success exactly if the device was told to be up while the request was
there, the timeout exactly if the time ran out before that, and otherwise a failure with the reason of the
event that ended the request, or of the operation that took it away. -/
theorem run_answered (store : StateStore) (allowed : List Nat) (timeout : Option Nat) (epoch : Nat)
    (before : List Operation) (operation : Operation) (after : List Operation) (n : Nat)
    (hDistinct : ((before ++ operation :: after).filterMap Operation.receiver?).Nodup) :
    let m := Manager.start store allowed timeout epoch
    let g := (start store allowed timeout epoch).run before
    let g₁ := g.operate operation
    let g₂ := g₁.run after
    g.manager = m.run before ∧
      (∀ w ∈ g₂.receivers n, (received w g₂.manager.effects).length ≤ 1) ∧
      ∀ r ∈ g.manager.requests, r.id = n →
        (r.outcome = (lifetime n g.manager.events).findSome? (ManagerEvent.ending? r.device) ∧
          (r.outcome = none ∨ r.outcome = some (.reached .activated)) ∧
          (r.outcome.isSome = true → r.deadline = none) ∧
          ∀ w ∈ g.receivers n, received w g.manager.effects = r.outcome.toList) ∧
        (∀ r₂ ∈ g₂.manager.requests, r₂.id = n → r.Abides r₂) ∧
        ((∀ r₁ ∈ g₁.manager.requests, r₁.id ≠ n) →
          let life := lifetime n g₁.manager.events
          ∃ o, (∀ w ∈ g₂.receivers n,
              received w g₁.manager.effects = [o] ∧ received w g₂.manager.effects = [o]) ∧
            (∀ o', r.outcome = some o' → o = o') ∧
            some o = (life.findSome? (ManagerEvent.ending? r.device)).or operation.parting? ∧
            (o = .reached .activated ↔
              ∃ old reason, .deviceStateChanged r.device .activated old reason ∈ life) ∧
            (o = .failed .timeoutExpired ↔ m.TimesOut n (before ++ [operation]))) := by
  intro m g g₁ g₂
  have hStart : (start store allowed timeout epoch).Sound fun _ _ => True :=
    start_sound store allowed timeout epoch
  have hAll : (start store allowed timeout epoch).Distinct (before ++ operation :: after) :=
    ⟨hDistinct, fun _ _ _ => List.not_mem_nil⟩
  obtain ⟨hBefore, hRest⟩ := hAll.append
  have hSound : g.Sound fun _ _ => True := hStart.run hBefore
  have hSound₂ : g₂.Sound fun _ _ => True := (hSound.operate hRest.head).run hRest.tail
  refine ⟨manager_run _ before, fun w hw => hSound₂.once hw, fun r hr hId => ?_⟩
  subst hId
  have hOn := hSound.informed.linked.requestOn?_of_mem hr
  have hTends := hSound.tends r.device r hOn
  have hOutcome := hSound.informed.toSettled.outcome_tends hTends
  refine ⟨⟨hOutcome, ?_, hTends.site.answers.deadline, hTends.site.answers.got⟩,
    hSound.run_abides hRest hOn, fun hGone => ?_⟩
  · -- a request that failed would not be there any more
    cases ho : r.outcome with
    | none => exact .inl rfl
    | some o =>
      obtain ⟨e, he, hEnding⟩ := List.exists_of_findSome?_eq_some (hOutcome.symm.trans ho)
      rcases hTends.site.upright e he with hNone | hUp
      · exact nomatch hNone.symm.trans hEnding
      · exact .inr (hEnding.symm.trans hUp)
  · obtain ⟨o, hGot, hFirst, hVerdict, hUp, hTime⟩ := hSound.removed hRest hOn hGone
    have hLast : (start store allowed timeout epoch).Distinct (before ++ [operation]) := by
      rw [List.append_cons] at hAll
      exact hAll.append.1
    exact ⟨o, hGot, hFirst, hVerdict, hUp, hTime.trans (hStart.timesOut_iff hLast hOn).symm⟩

/-- Two wait for the scanner to dial, and the time for that runs out. -/
theorem run_answered_expired :
    let start := Register.start DialUp.store [] (some 1000) 0
    let before := DialUp.connecting ++ [.wait 0 1, .wait 0 2]
    let late : Operation := .processTimeouts 1000
    let g := start.run before
    let g' := g.operate late
    g'.receivers 0 = [1, 2] ∧ received 1 g.manager.effects = [] ∧
      received 1 g'.manager.effects = [.failed .timeoutExpired] ∧
      received 2 g'.manager.effects = [.failed .timeoutExpired] ∧
      start.manager.TimesOut 0 (before ++ [late]) := by
  intro start before late g g'
  have hDistinct : ((before ++ [late]).filterMap Operation.receiver?).Nodup := by decide
  have hThere : (g.manager.request? 0).map (fun r => (r.device, r.outcome)) = some (0, none) := by
    decide +kernel
  have hWaiting : g.receivers 0 = [1, 2] := by decide +kernel
  have hLast : g'.receivers 0 = [1, 2] := by decide +kernel
  have hAfter : (g'.run []).receivers 0 = [1, 2] := by decide +kernel
  have hGone : g'.manager.requests = [] := by decide +kernel
  have hSilent : (lifetime 0 g'.manager.events).findSome? (ManagerEvent.ending? 0) = none := by
    decide +kernel
  obtain ⟨r, hr, hFound⟩ := Option.map_eq_some_iff.mp hThere
  obtain ⟨hMem, hId⟩ := request?_eq_some hr
  obtain ⟨hDevice, hOpen⟩ := Prod.mk.inj hFound
  obtain ⟨-, -, hAll⟩ :=
    run_answered DialUp.store [] (some 1000) 0 before late [] 0 hDistinct
  obtain ⟨⟨-, -, -, hGot⟩, -, hEnd⟩ := hAll r hMem hId
  have hAbsent : ∀ q ∈ g'.manager.requests, q.id ≠ 0 := by
    rw [hGone]
    exact fun _ h => absurd h List.not_mem_nil
  obtain ⟨o, hAnswered, -, hVerdict, -, hTime⟩ := hEnd hAbsent
  obtain rfl : o = .failed .timeoutExpired := by
    rw [hDevice, hSilent] at hVerdict
    exact Option.some.inj hVerdict
  have hNothing : received 1 g.manager.effects = r.outcome.toList :=
    hGot 1 (by rw [hWaiting]; exact List.mem_cons_self)
  have hFirst := (hAnswered 1 (by rw [hAfter]; exact List.mem_cons_self)).1
  have hSecond := (hAnswered 2 (by rw [hAfter]; exact List.mem_cons_of_mem _ List.mem_cons_self)).1
  rw [hOpen] at hNothing
  exact ⟨hLast, hNothing, hFirst, hSecond, hTime.mp rfl⟩

end Register

end ScannerHub
