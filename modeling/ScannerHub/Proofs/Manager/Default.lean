import ScannerHub.Proofs.Manager.Standing

/-!
# The default request

The best request is the one on the activated device with the least priority above zero, and of those
the one with the least number. The policy marks it as the default, and looks again whenever it comes
to an event that may have changed the choice. It sees the manager as it is then, which may be long
after the event, and in between the manager goes on.

So while events wait the marks may be out of date. But they are out of date only if the policy will
look again, and there is never more than one of them.

* `Policy.IsBest` — what the best request is;
* `Policy.reaction` — the marks that the policy sets and takes when it comes to an event;
* `OneDefault` — at most one request is marked;
* `Policy.Chosen` — the marks are up to date;
* `Steward` — a manager and its policy.

## Results

* `best?_eq_some_iff` — the policy finds the best request;
* `chosen_update` — it marks that one and no other;
* `run_default` — at any time at most one request is marked, and whenever no event waits it is the best
  one.
-/

namespace ScannerHub

namespace Policy

variable {m m' : Manager} {id : Nat}

-- ---------------------------------------------------------------------------
-- The best request
-- ---------------------------------------------------------------------------

/-- The request with the least priority and number among those whose device counts. -/
def IsBest (m : Manager) (r : Request) : Prop :=
  ∃ p, m.standing? r.device = some p ∧ ∀ q ∈ m.requests, ∀ p', m.standing? q.device = some p' →
    p < p' ∨ (p = p' ∧ r.id ≤ q.id)

theorem rank?_eq (m : Manager) (r : Request) :
    rank? m r = (m.standing? r.device).map fun p => (p, r.id) := by
  unfold rank? Manager.standing? Device.standing?
  cases m.device? r.device with
  | none => rfl
  | some d =>
    rw [Option.bind_some, Option.bind_some]
    split <;> rfl

/-- The lesser one of two ranks. -/
def lesser (least : Option (Nat × Nat)) (r : Nat × Nat) : Option (Nat × Nat) :=
  match least with
  | none => some r
  | some l => if ranksBefore r l then some r else some l

theorem best?_eq (m : Manager) :
    best? m = ((m.requests.filterMap (rank? m)).foldl lesser none).map Prod.snd := rfl

/-- The order of ranks, spelled out. -/
theorem not_ranksBefore {a b : Nat × Nat} :
    ranksBefore a b = false ↔ b.1 < a.1 ∨ (b.1 = a.1 ∧ b.2 ≤ a.2) := by
  unfold ranksBefore
  simp only [Bool.or_eq_false_iff, Bool.and_eq_false_imp, decide_eq_false_iff_not, beq_iff_eq]
  omega

theorem lesser_cases (least : Option (Nat × Nat)) (r : Nat × Nat) :
    ∃ l, lesser least r = some l ∧ (l = r ∨ least = some l) ∧ ranksBefore r l = false ∧
      ∀ l', least = some l' → ranksBefore l' l = false := by
  cases least with
  | none => exact ⟨r, rfl, Or.inl rfl, not_ranksBefore.mpr (Or.inr ⟨rfl, Nat.le_refl _⟩), nofun⟩
  | some l =>
    unfold lesser
    cases hBefore : ranksBefore r l with
    | true =>
      refine ⟨r, if_pos hBefore, Or.inl rfl, not_ranksBefore.mpr (Or.inr ⟨rfl, Nat.le_refl _⟩), ?_⟩
      rintro l' ⟨⟩
      rw [not_ranksBefore]
      rw [← Bool.not_eq_false, not_ranksBefore] at hBefore
      omega
    | false =>
      refine ⟨l, if_neg (by rw [hBefore]; exact Bool.false_ne_true), Or.inr rfl, hBefore, ?_⟩
      rintro l' ⟨⟩
      exact not_ranksBefore.mpr (Or.inr ⟨rfl, Nat.le_refl _⟩)

/-- One rank after the other: what is left is one of them, and none comes before it. -/
theorem foldl_lesser (ranks : List (Nat × Nat)) (least : Option (Nat × Nat)) :
    (ranks.foldl lesser least = none → least = none ∧ ranks = []) ∧
      ∀ l, ranks.foldl lesser least = some l → (least = some l ∨ l ∈ ranks) ∧
        ∀ r, (least = some r ∨ r ∈ ranks) → ranksBefore r l = false := by
  induction ranks generalizing least with
  | nil =>
    refine ⟨fun hNone => ⟨hNone, rfl⟩, fun l hl => ⟨Or.inl hl, ?_⟩⟩
    rintro r (hr | hr)
    · rw [show least = some l from hl] at hr
      cases hr
      exact not_ranksBefore.mpr (Or.inr ⟨rfl, Nat.le_refl _⟩)
    · cases hr
  | cons r ranks ih =>
    obtain ⟨l₀, hLesser, hFrom, hFirst, hOld⟩ := lesser_cases least r
    obtain ⟨hNone, hSome⟩ := ih (lesser least r)
    refine ⟨fun h => ?_, fun l hl => ?_⟩
    · rw [hLesser] at hNone
      cases (hNone (hLesser ▸ h)).1
    · obtain ⟨hIn, hAll⟩ := hSome l hl
      rw [hLesser] at hIn hAll
      have hBest := hAll l₀ (Or.inl rfl)
      refine ⟨?_, ?_⟩
      · rcases hIn with hIn | hIn
        · cases hIn
          rcases hFrom with rfl | hFrom
          · exact Or.inr List.mem_cons_self
          · exact Or.inl hFrom
        · exact Or.inr (List.mem_cons_of_mem _ hIn)
      · -- what came before the first choice does not come before a later one
        have hTrans : ∀ x, ranksBefore x l₀ = false → ranksBefore x l = false := by
          intro x hx
          rw [not_ranksBefore] at hx hBest ⊢
          omega
        rintro x (hx | hx)
        · exact hTrans x (hOld x hx)
        · rcases List.mem_cons.mp hx with rfl | hx
          · exact hTrans _ hFirst
          · exact hAll x (Or.inr hx)

/-- The policy finds the best request. -/
theorem best?_eq_some_iff (m : Manager) (id : Nat) :
    best? m = some id ↔ ∃ r ∈ m.requests, r.id = id ∧ IsBest m r := by
  have hRanks : ∀ x, x ∈ m.requests.filterMap (rank? m) ↔
      ∃ r ∈ m.requests, ∃ p, m.standing? r.device = some p ∧ x = (p, r.id) := by
    intro x
    rw [List.mem_filterMap]
    refine exists_congr fun r => and_congr_right fun _ => ?_
    rw [rank?_eq, Option.map_eq_some_iff]
    exact exists_congr fun p => and_congr_right fun _ => eq_comm
  obtain ⟨hNone, hSome⟩ := foldl_lesser (m.requests.filterMap (rank? m)) none
  rw [best?_eq]
  constructor
  · intro hBest
    obtain ⟨l, hl, rfl⟩ := Option.map_eq_some_iff.mp hBest
    obtain ⟨hIn, hLeast⟩ := hSome l hl
    obtain ⟨r, hr, p, hp, rfl⟩ := (hRanks l).mp (hIn.resolve_left nofun)
    refine ⟨r, hr, rfl, p, hp, fun q hq p' hp' => ?_⟩
    exact not_ranksBefore.mp (hLeast (p', q.id) (Or.inr ((hRanks _).mpr ⟨q, hq, p', hp', rfl⟩)))
  · rintro ⟨r, hr, rfl, p, hp, hLeast⟩
    cases hBest : (m.requests.filterMap (rank? m)).foldl lesser none with
    | none =>
      have hIn := (hRanks (p, r.id)).mpr ⟨r, hr, p, hp, rfl⟩
      rw [(hNone hBest).2] at hIn
      cases hIn
    | some l =>
      obtain ⟨hIn, hAll⟩ := hSome l hBest
      obtain ⟨q, hq, p', hp', rfl⟩ := (hRanks l).mp (hIn.resolve_left nofun)
      have hBefore := hLeast q hq p' hp'
      have hAfter := not_ranksBefore.mp (hAll (p, r.id) (Or.inr ((hRanks _).mpr ⟨r, hr, p, hp, rfl⟩)))
      show some q.id = some r.id
      congr 1
      dsimp only at hAfter
      omega

/-- The choice is the same if nothing has changed that it depends on. -/
theorem IsBest.of_unmoved {r r' : Request} (h : IsBest m r) (hMarking : r'.marking = r.marking)
    (hStanding : ∀ x, m'.standing? x = m.standing? x)
    (hRequests : ∀ q' ∈ m'.requests, ∃ q ∈ m.requests, q'.marking = q.marking) : IsBest m' r' := by
  obtain ⟨p, hp, hLeast⟩ := h
  obtain ⟨hId, hDevice, -⟩ := Request.marking_inj hMarking
  refine ⟨p, ?_, fun q' hq' p' hp' => ?_⟩
  · rw [hStanding, hDevice]
    exact hp
  · obtain ⟨q, hq, hSame⟩ := hRequests q' hq'
    obtain ⟨hId', hDevice', -⟩ := Request.marking_inj hSame
    rw [hStanding, hDevice'] at hp'
    rw [hId, hId']
    exact hLeast q hq p' hp'

-- ---------------------------------------------------------------------------
-- Marks
-- ---------------------------------------------------------------------------

/-- The marks that are taken and set, in their order. -/
def marks (m : Manager) : List Operation :=
  ((m.requests.map Request.id).filter fun id => some id ≠ best? m).map
      (fun id => .setRequestDefault id false false) ++
    ((best? m).map fun id => .setRequestDefault id true true).toList

/-- What the policy asks of the manager when it comes to an event. -/
def reaction (m : Manager) (event : ManagerEvent) : List Operation :=
  if isConcerned event then marks m else []

theorem update_run (m : Manager) : (update m).2 = m.run (marks m) := by
  unfold update marks Manager.run
  dsimp only
  rw [List.foldl_append, List.foldl_map]
  cases best? m <;> rfl

/-- To look at an event is to set and take marks. -/
theorem handle_run (p : Policy) (m : Manager) (event : ManagerEvent) :
    (p.handle m event).2 = m.run (reaction m event) := by
  unfold handle reaction
  split
  · exact update_run m
  · rfl

end Policy

/-- At most one request is marked, in either way. -/
structure OneDefault (m : Manager) : Prop where
  isDefault : ∀ r ∈ m.requests, ∀ q ∈ m.requests, r.isDefault = true → q.isDefault = true → r = q
  isDefault6 : ∀ r ∈ m.requests, ∀ q ∈ m.requests, r.isDefault6 = true → q.isDefault6 = true → r = q

/-- The marks are up to date, and the policy knows whom it has marked. -/
structure Policy.Chosen (p : Policy) (m : Manager) : Prop where
  current : p.current = best? m
  isDefault : ∀ r ∈ m.requests, r.isDefault = true ↔ best? m = some r.id
  isDefault6 : ∀ r ∈ m.requests, r.isDefault6 = true ↔ best? m = some r.id

-- ---------------------------------------------------------------------------
-- Setting marks
-- ---------------------------------------------------------------------------

namespace Manager

variable {A : Nat → String → Prop} {m m' m₀ : Manager} {id : Nat}

/-- To set marks is to change one request. -/
theorem requests_setRequestDefault (hDistinct : (m.requests.map Request.id).Nodup) (id : Nat)
    (default default6 : Bool) : (m.setRequestDefault id default default6).requests =
      m.requests.map fun r => if r.id = id then r.marked default default6 else r := by
  unfold setRequestDefault
  cases hr : m.request? id with
  | none =>
    refine ((List.map_congr_left fun r hr' => ?_).trans (List.map_id' m.requests)).symm
    refine if_neg fun hId => ?_
    unfold request? at hr
    exact absurd (beq_iff_eq.mpr hId) (List.find?_eq_none.mp hr r hr')
  | some r =>
    obtain ⟨-, rfl⟩ := request?_eq_some hr
    have hSet : (m.setRequest (r.marked default default6)).requests =
        m.requests.map fun q => if q.id = r.id then q.marked default default6 else q := by
      refine (replaceFirst_eq_map hDistinct).trans (List.map_congr_left fun q hq => ?_)
      show (if q.id = r.id then r.marked default default6 else q) = _
      by_cases hId : q.id = r.id
      · have hFound := find?_key Request.id hDistinct hq
        rw [hId, show m.requests.find? _ = some r from hr] at hFound
        cases hFound
        rfl
      · rw [if_neg hId, if_neg hId]
    dsimp only
    split <;> exact hSet

theorem fades_setRequestDefault (m : Manager) (id : Nat) :
    Fades m (m.setRequestDefault id false false) := by
  unfold setRequestDefault
  cases hr : m.request? id with
  | none => exact .refl m
  | some r =>
    obtain ⟨-, rfl⟩ := request?_eq_some hr
    have hId : (r.marked false false).id = r.id := rfl
    have hSet := fades_setRequest hr hId ⟨nofun, nofun⟩ []
    dsimp only
    split <;> exact hSet

/-- Marks that are taken one after the other. -/
theorem unmark_run (hDistinct : (m.requests.map Request.id).Nodup) (ids : List Nat) :
    (m.run (ids.map fun id => .setRequestDefault id false false)).devices = m.devices ∧
      (m.run (ids.map fun id => .setRequestDefault id false false)).requests =
        m.requests.map fun r =>
          if r.id ∈ ids then r.marked false false else r := by
  induction ids generalizing m with
  | nil => exact ⟨rfl, (List.map_id' m.requests).symm⟩
  | cons id ids ih =>
    have hFirst := requests_setRequestDefault hDistinct id false false
    have hSame : (m.setRequestDefault id false false).requests.map Request.id =
        m.requests.map Request.id := by
      rw [hFirst, List.map_map]
      refine List.map_congr_left fun r _ => ?_
      show (if r.id = id then _ else r : Request).id = r.id
      split <;> rfl
    obtain ⟨hDevices, hRest⟩ := ih (m := m.setRequestDefault id false false) (hSame ▸ hDistinct)
    refine ⟨hDevices.trans (m.devices_setRequestDefault id false false), hRest.trans ?_⟩
    rw [hFirst, List.map_map]
    refine List.map_congr_left fun r _ => ?_
    by_cases hId : r.id = id
    · simp only [Function.comp, List.mem_cons, hId, true_or, if_true]
      split <;> rfl
    · simp only [Function.comp, if_neg hId, List.mem_cons, or_iff_right hId]

theorem fades_unmark_run (m : Manager) (ids : List Nat) :
    Fades m (m.run (ids.map fun id => .setRequestDefault id false false)) := by
  induction ids generalizing m with
  | nil => exact .refl m
  | cons id ids ih => exact (m.fades_setRequestDefault id).trans (ih _)

end Manager

-- ---------------------------------------------------------------------------
-- The marks of the policy
-- ---------------------------------------------------------------------------

variable {m m' : Manager}

/-- When marks go, there are not more of them. -/
theorem OneDefault.fades (h : OneDefault m) (hFades : m.Fades m') (hLinked : m'.Linked) :
    OneDefault m' := by
  have hOne : ∀ mark : Request → Bool,
      (∀ r, mark r = true → r.isDefault = true ∨ r.isDefault6 = true) →
      (∀ r r' : Request, r.Wanes r' → mark r' = true → mark r = true) →
      (∀ r ∈ m.requests, ∀ q ∈ m.requests, mark r = true → mark q = true → r = q) →
        ∀ r ∈ m'.requests, ∀ q ∈ m'.requests, mark r = true → mark q = true → r = q := by
    intro mark hMark hWanes hOld r hr q hq hrMark hqMark
    obtain ⟨r₀, hr₀, hId, hrWanes⟩ := hFades r hr (hMark r hrMark)
    obtain ⟨q₀, hq₀, hId', hqWanes⟩ := hFades q hq (hMark q hqMark)
    have hSame := hOld r₀ hr₀ q₀ hq₀ (hWanes r₀ r hrWanes hrMark) (hWanes q₀ q hqWanes hqMark)
    exact hLinked.eq_of_id hr hq (by rw [← hId, ← hId', hSame])
  exact ⟨hOne Request.isDefault (fun _ => Or.inl) (fun _ _ hWanes => hWanes.isDefault) h.isDefault,
    hOne Request.isDefault6 (fun _ => Or.inr) (fun _ _ hWanes => hWanes.isDefault6) h.isDefault6⟩

namespace Policy

variable {p : Policy}

theorem Chosen.one (h : p.Chosen m) (hLinked : m.Linked) : OneDefault m := by
  have hOne : ∀ r ∈ m.requests, ∀ q ∈ m.requests, best? m = some r.id → best? m = some q.id → r = q := by
    intro r hr q hq hrBest hqBest
    exact hLinked.eq_of_id hr hq (Option.some.inj (hrBest.symm.trans hqBest))
  refine ⟨fun r hr q hq hrMark hqMark => ?_, fun r hr q hq hrMark hqMark => ?_⟩
  · exact hOne r hr q hq ((h.isDefault r hr).mp hrMark) ((h.isDefault q hq).mp hqMark)
  · exact hOne r hr q hq ((h.isDefault6 r hr).mp hrMark) ((h.isDefault6 q hq).mp hqMark)

/-- The choice reads devices, and of requests only numbers and devices. -/
theorem best?_congr {f : Request → Request} (hDevices : m'.devices = m.devices)
    (hRequests : m'.requests = m.requests.map f)
    (hf : ∀ r : Request, (f r).id = r.id ∧ (f r).device = r.device) : best? m' = best? m := by
  have hRank : ∀ r, rank? m' (f r) = rank? m r := by
    intro r
    rw [rank?_eq, rank?_eq, Manager.standing?_congr hDevices, (hf r).1, (hf r).2]
  rw [best?_eq, best?_eq, hRequests, List.filterMap_map]
  congr 3
  funext r
  exact hRank r

/-- First the marks of all other requests go. -/
theorem requests_others (hDistinct : (m.requests.map Request.id).Nodup) (best : Option Nat) :
    (m.run (((m.requests.map Request.id).filter fun id => some id ≠ best).map
      fun id => .setRequestDefault id false false)).requests =
        m.requests.map fun r => if best = some r.id then r else r.marked false false := by
  rw [(Manager.unmark_run hDistinct _).2]
  refine List.map_congr_left fun r hr => ?_
  have hOther : r.id ∈ ((m.requests.map Request.id).filter fun id => some id ≠ best) ↔
      ¬ best = some r.id := by
    rw [List.mem_filter, decide_eq_true_iff]
    exact ⟨fun h hBest => h.2 hBest.symm,
      fun h => ⟨List.mem_map_of_mem hr, fun hBest => h hBest.symm⟩⟩
  simp only [hOther, ite_not]

/-- The policy goes over all requests. -/
theorem requests_update (hDistinct : (m.requests.map Request.id).Nodup) :
    (update m).2.devices = m.devices ∧ (update m).2.requests =
      m.requests.map fun r => r.marked (best? m = some r.id) (best? m = some r.id) := by
  rw [update_run]
  unfold marks
  have hOthers := requests_others hDistinct (best? m)
  have hDevices := (Manager.unmark_run hDistinct
    ((m.requests.map Request.id).filter fun id => some id ≠ best? m)).1
  cases hBest : best? m with
  | none =>
    rw [hBest] at hDevices hOthers
    show (Manager.run m (_ ++ [])).devices = _ ∧ (Manager.run m (_ ++ [])).requests = _
    rw [List.append_nil]
    refine ⟨hDevices, hOthers.trans (List.map_congr_left fun r _ => ?_)⟩
    simp only [reduceCtorEq, if_false, decide_false]
  | some id =>
    rw [hBest] at hDevices hOthers
    show (Manager.run m (_ ++ [_])).devices = _ ∧ (Manager.run m (_ ++ [_])).requests = _
    rw [Manager.run_concat]
    refine ⟨(Manager.devices_setRequestDefault _ _ _ _).trans hDevices, ?_⟩
    refine (Manager.requests_setRequestDefault ?_ id true true).trans ?_
    · rw [hOthers, List.map_map]
      refine (List.map_congr_left fun r _ => ?_) ▸ hDistinct
      show r.id = (if _ then r else r.marked false false : Request).id
      split <;> rfl
    · rw [hOthers, List.map_map]
      refine List.map_congr_left fun r _ => ?_
      by_cases hId : id = r.id
      · simp only [Function.comp, hId, if_true, decide_true]
      · have hSome : ¬ some id = some r.id := fun h => hId (Option.some.inj h)
        simp only [Function.comp, if_neg hSome, decide_eq_false hSome]
        exact if_neg fun h => hId h.symm

/-- The policy marks the best request and no other, and remembers it. -/
theorem chosen_update (hDistinct : (m.requests.map Request.id).Nodup) :
    (update m).1.Chosen (update m).2 := by
  obtain ⟨hDevices, hRequests⟩ := requests_update hDistinct
  have hBest : best? (update m).2 = best? m :=
    best?_congr hDevices hRequests fun r => ⟨rfl, rfl⟩
  refine ⟨hBest.symm, fun r hr => ?_, fun r hr => ?_⟩
  · rw [hRequests] at hr
    obtain ⟨r₀, -, rfl⟩ := List.mem_map.mp hr
    rw [hBest]
    exact decide_eq_true_iff
  · rw [hRequests] at hr
    obtain ⟨r₀, -, rfl⟩ := List.mem_map.mp hr
    rw [hBest]
    exact decide_eq_true_iff

/-- Marks are taken before the new one is set, so there is never a second one. -/
theorem one_reaction (h : OneDefault m) (hRested : m.Rested fun _ _ => True) (event : ManagerEvent)
    {first : List Operation} (hFirst : first <+: reaction m event) : OneDefault (m.run first) := by
  have hFades : ∀ {first : List Operation} {ids : List Nat},
      first <+: ids.map (fun id => .setRequestDefault id false false) → OneDefault (m.run first) := by
    intro first ids hFirst
    obtain ⟨rest, hEq⟩ := hFirst
    obtain ⟨ids₁, ids₂, -, rfl, -⟩ := List.append_eq_map_iff.mp hEq
    exact h.fades (m.fades_unmark_run ids₁) (Manager.run_rested hRested _).linked
  unfold reaction at hFirst
  split at hFirst
  · have hAll : OneDefault (m.run (marks m)) := by
      rw [← update_run]
      refine (chosen_update hRested.linked.requests).one ?_
      rw [update_run]
      exact (Manager.run_rested hRested _).linked
    unfold marks at hFirst hAll
    cases hBest : best? m with
    | none =>
      rw [hBest] at hFirst
      exact hFades ((List.append_nil _) ▸ hFirst)
    | some id =>
      rw [hBest] at hFirst hAll
      rcases List.prefix_concat_iff.mp hFirst with rfl | hFewer
      · exact hAll
      · exact hFades hFewer
  · rw [List.prefix_nil.mp hFirst]
    exact h

/-- Marks that are up to date stay so as long as nothing changes that the choice depends on. -/
theorem Chosen.of_unmoved (h : p.Chosen m) (hUnmoved : Manager.Unmoved m m') (hLinked : m.Linked)
    (hLinked' : m'.Linked) : p.Chosen m' := by
  have hOld : ∀ r' ∈ m'.requests, ∃ r ∈ m.requests, r'.marking = r.marking := by
    intro r' hr'
    have hSame := hUnmoved.requests r'.id
    rw [hLinked'.request?_of_mem hr', Option.map_some, eq_comm] at hSame
    obtain ⟨r, hr, hMarking⟩ := Option.map_eq_some_iff.mp hSame
    exact ⟨r, (Manager.request?_eq_some hr).1, hMarking.symm⟩
  have hNew : ∀ r ∈ m.requests, ∃ r' ∈ m'.requests, r.marking = r'.marking := by
    intro r hr
    have hSame := hUnmoved.requests r.id
    rw [hLinked.request?_of_mem hr, Option.map_some] at hSame
    obtain ⟨r', hr', hMarking⟩ := Option.map_eq_some_iff.mp hSame
    exact ⟨r', (Manager.request?_eq_some hr').1, hMarking.symm⟩
  have hBest : best? m' = best? m := by
    refine Option.ext fun id => ?_
    rw [best?_eq_some_iff, best?_eq_some_iff]
    constructor
    · rintro ⟨r', hr', rfl, hIs⟩
      obtain ⟨r, hr, hMarking⟩ := hOld r' hr'
      exact ⟨r, hr, (Request.marking_inj hMarking).1.symm,
        hIs.of_unmoved hMarking.symm (fun x => (hUnmoved.standing x).symm) hNew⟩
    · rintro ⟨r, hr, rfl, hIs⟩
      obtain ⟨r', hr', hMarking⟩ := hNew r hr
      exact ⟨r', hr', (Request.marking_inj hMarking).1.symm,
        hIs.of_unmoved hMarking.symm hUnmoved.standing hOld⟩
  refine ⟨h.current.trans hBest.symm, fun r' hr' => ?_, fun r' hr' => ?_⟩
  · obtain ⟨r, hr, hMarking⟩ := hOld r' hr'
    obtain ⟨hId, -, hDefault, -⟩ := Request.marking_inj hMarking
    rw [hBest, hId, hDefault]
    exact h.isDefault r hr
  · obtain ⟨r, hr, hMarking⟩ := hOld r' hr'
    obtain ⟨hId, -, -, hDefault6⟩ := Request.marking_inj hMarking
    rw [hBest, hId, hDefault6]
    exact h.isDefault6 r hr

end Policy

-- ---------------------------------------------------------------------------
-- A manager and its policy
-- ---------------------------------------------------------------------------

/-- A manager and its policy. An event waits in the manager until the policy comes to it. -/
structure Steward where
  manager : Manager
  policy : Policy

namespace Steward

/-- The manager is asked for something, but nobody except the policy sets marks; or the policy comes to
the oldest event. -/
inductive Turn where
  | operate (operation : Operation)
      (hOther : ∀ request default default6, operation ≠ .setRequestDefault request default default6)
  | follow

def turn (s : Steward) : Turn → Steward
  | .operate operation _ => { s with manager := s.manager.operate operation }
  | .follow =>
    match s.manager.events with
    | [] => s
    | e :: events =>
      let (policy, manager) := s.policy.handle { s.manager with events } e
      { manager, policy }

def run (s : Steward) (turns : List Turn) : Steward := turns.foldl turn s

/-- The marks are up to date, or the policy will look again. -/
structure Sound (s : Steward) : Prop where
  rested : s.manager.Rested fun _ _ => True
  one : OneDefault s.manager
  due : (∃ e ∈ s.manager.events, Policy.isConcerned e = true) ∨ s.policy.Chosen s.manager

variable {s : Steward}

theorem Sound.operate (h : s.Sound) (operation : Operation)
    (hOther : ∀ request default default6, operation ≠ .setRequestDefault request default default6) :
    (s.turn (.operate operation hOther)).Sound := by
  have hMarks : ¬ operation.May .marks := by
    intro hMay
    cases hMay
    exact hOther _ _ _ rfl
  have hRested := h.rested.operate operation
  refine ⟨hRested, h.one.fades (h.rested.toSettled.operate_fades hMarks) hRested.linked, ?_⟩
  rcases h.rested.toSettled.operate_stirs hMarks with hStirred | hUnmoved
  · exact Or.inl hStirred
  · refine h.due.imp ?_ fun hChosen => hChosen.of_unmoved hUnmoved h.rested.linked hRested.linked
    rintro ⟨e, he, hConcerned⟩
    exact ⟨e, (h.rested.toSettled.operate_steps operation).events.subset he, hConcerned⟩

theorem turn_follow {e : ManagerEvent} {events : List ManagerEvent}
    (hEvents : s.manager.events = e :: events) : s.turn .follow =
      { manager := (s.policy.handle { s.manager with events } e).2
        policy := (s.policy.handle { s.manager with events } e).1 } := by
  unfold turn
  rw [hEvents]

/-- The policy comes to the oldest event with all marks in place. -/
theorem Sound.taken (h : s.Sound) {e : ManagerEvent} {events : List ManagerEvent}
    (hEvents : s.manager.events = e :: events) :
    Manager.Rested (fun _ _ => True) { s.manager with events } ∧
      OneDefault { s.manager with events } :=
  ⟨h.rested.next hEvents, h.one.isDefault, h.one.isDefault6⟩

theorem Sound.follow (h : s.Sound) : (s.turn .follow).Sound := by
  cases hEvents : s.manager.events with
  | nil =>
    unfold turn
    rw [hEvents]
    exact h
  | cons e events =>
    obtain ⟨hTaken, hOne⟩ := h.taken hEvents
    rw [turn_follow hEvents]
    refine ⟨?_, ?_, ?_⟩
    · show Manager.Rested _ (s.policy.handle _ e).2
      rw [Policy.handle_run]
      exact Manager.run_rested hTaken _
    · show OneDefault (s.policy.handle _ e).2
      rw [Policy.handle_run]
      exact Policy.one_reaction hOne hTaken e (List.prefix_refl _)
    · unfold Policy.handle
      split
      · exact Or.inr (Policy.chosen_update hTaken.linked.requests)
      · rename_i hNot
        rcases h.due with ⟨e', he', hConcerned⟩ | hChosen
        · rw [hEvents] at he'
          rcases List.mem_cons.mp he' with rfl | hLater
          · exact absurd hConcerned hNot
          · exact Or.inl ⟨e', hLater, hConcerned⟩
        · exact Or.inr ⟨hChosen.current, hChosen.isDefault, hChosen.isDefault6⟩

theorem Sound.run (h : s.Sound) (turns : List Turn) : (s.run turns).Sound := by
  induction turns generalizing s with
  | nil => exact h
  | cons t turns ih =>
    refine ih ?_
    cases t with
    | operate operation hOther => exact h.operate operation hOther
    | follow => exact h.follow

theorem start_sound (store : StateStore) (allowed : List Nat) (timeout : Option Nat) (epoch : Nat) :
    Sound { manager := .start store allowed timeout epoch, policy := .start } :=
  { rested := Manager.start_rested store allowed timeout epoch
    one := ⟨fun _ hr => (by cases hr), fun _ hr => (by cases hr)⟩
    due := Or.inr ⟨rfl, fun _ hr => (by cases hr), fun _ hr => (by cases hr)⟩ }

/-- At any time at most one request is marked, also while the policy takes and sets marks. Whenever no
event waits a request is marked if and only if it is the best one, and the policy knows it. -/
theorem run_default (store : StateStore) (allowed : List Nat) (timeout : Option Nat) (epoch : Nat)
    (turns : List Turn) :
    let s := Steward.run { manager := .start store allowed timeout epoch, policy := .start } turns
    OneDefault s.manager ∧
      (∀ e events, s.manager.events = e :: events →
        ∀ first, first <+: Policy.reaction { s.manager with events } e →
          OneDefault (Manager.run { s.manager with events } first)) ∧
      (s.manager.events = [] →
        (∀ r ∈ s.manager.requests, (r.isDefault = true ↔ Policy.IsBest s.manager r) ∧
          (r.isDefault6 = true ↔ Policy.IsBest s.manager r)) ∧
        ∀ id, s.policy.current = some id ↔
          ∃ r ∈ s.manager.requests, r.id = id ∧ Policy.IsBest s.manager r) := by
  intro s
  have hSound : s.Sound := (start_sound store allowed timeout epoch).run turns
  refine ⟨hSound.one, fun e events hEvents first hFirst => ?_, fun hDone => ?_⟩
  · obtain ⟨hTaken, hOne⟩ := hSound.taken hEvents
    exact Policy.one_reaction hOne hTaken e hFirst
  have hChosen : s.policy.Chosen s.manager := by
    refine hSound.due.resolve_left ?_
    rintro ⟨e, he, -⟩
    rw [hDone] at he
    cases he
  have hBest : ∀ r ∈ s.manager.requests,
      Policy.best? s.manager = some r.id ↔ Policy.IsBest s.manager r := by
    intro r hr
    rw [Policy.best?_eq_some_iff]
    refine ⟨fun ⟨q, hq, hId, hIs⟩ => ?_, fun hIs => ⟨r, hr, rfl, hIs⟩⟩
    rw [← hSound.rested.linked.eq_of_id hq hr hId]
    exact hIs
  refine ⟨fun r hr => ⟨(hChosen.isDefault r hr).trans (hBest r hr),
    (hChosen.isDefault6 r hr).trans (hBest r hr)⟩, fun id => ?_⟩
  rw [hChosen.current]
  exact Policy.best?_eq_some_iff s.manager id

end Steward

end ScannerHub
