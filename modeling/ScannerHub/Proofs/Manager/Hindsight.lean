import ScannerHub.Proofs.Manager.Observer

/-!
# What an observer knew before

An observer is never told of something that cannot be. So what he knows after some events tells what
he knew before them: a device that he had seen, and that is there afterwards, was there all the time,
and its state is the same unless an event has moved it.

* `View.device?` — the state in which a device is known to be;
* `Observer.Remembers` — an observer has seen what he knows of.

## Results

* `Hears.before` — what is true after some events was true before, or one of them made it so;
* `Hears.device`, `Hears.request`, `Hears.latest` — devices, requests, and everything else.
-/

namespace ScannerHub

-- ---------------------------------------------------------------------------
-- Tables with numbers
-- ---------------------------------------------------------------------------

section Tables

variable {α : Type} (xs : List (Nat × α)) (k id : Nat)

theorem lookup_filter_ne :
    (xs.filter fun e => e.1 != k).lookup id = if id = k then none else xs.lookup id := by
  induction xs with
  | nil => simp
  | cons x xs ih =>
    by_cases hx : x.1 = k
    · rw [List.filter_cons_of_neg (by simp [hx]), ih]
      split
      · rfl
      · rename_i hId
        rw [show x = (x.1, x.2) from rfl, List.lookup_cons, hx,
          show (id == k) = false from beq_eq_false_iff_ne.mpr hId]
    · rw [List.filter_cons_of_pos (by simp [hx]), show x = (x.1, x.2) from rfl, List.lookup_cons,
        List.lookup_cons, ih]
      by_cases hId : id = x.1
      · have hOther : ¬ id = k := fun hk => hx (hId ▸ hk)
        rw [show (id == x.1) = true from beq_iff_eq.mpr hId, if_neg hOther, if_neg hOther]
      · rw [show (id == x.1) = false from beq_eq_false_iff_ne.mpr hId]

theorem lookup_single (a : α) : [(k, a)].lookup id = if id = k then some a else none := by
  rw [List.lookup_cons]
  by_cases hId : id = k
  · rw [if_pos hId, show (id == k) = true from beq_iff_eq.mpr hId]
  · rw [if_neg hId, show (id == k) = false from beq_eq_false_iff_ne.mpr hId]
    rfl

/-- An entry takes its place, or comes behind the others. -/
theorem lookup_put (a : α) : ((xs.filter fun e => e.1 != k) ++ [(k, a)]).lookup id =
    if id = k then some a else xs.lookup id := by
  rw [List.lookup_append, lookup_filter_ne, lookup_single]
  split
  · rfl
  · exact Option.or_none

theorem nodup_filter_ne (h : (xs.map Prod.fst).Nodup) :
    ((xs.filter fun e => e.1 != k).map Prod.fst).Nodup :=
  h.sublist (List.filter_sublist.map Prod.fst)

theorem nodup_put (h : (xs.map Prod.fst).Nodup) (a : α) :
    (((xs.filter fun e => e.1 != k) ++ [(k, a)]).map Prod.fst).Nodup := by
  rw [List.map_append, List.nodup_append]
  refine ⟨nodup_filter_ne xs k h, List.pairwise_singleton _ k, fun key hKey key' hKey' => ?_⟩
  obtain ⟨e, he, rfl⟩ := List.mem_map.mp hKey
  rw [List.mem_singleton.mp hKey']
  exact bne_iff_ne.mp (List.mem_filter.mp he).2

end Tables

-- ---------------------------------------------------------------------------
-- What an observer knew before
-- ---------------------------------------------------------------------------

/-- The state in which a device is known to be. -/
def View.device? (v : View) (id : Nat) : Option DeviceState := v.devices.lookup id

theorem View.device?_of (m : Manager) (id : Nat) :
    (View.of m).device? id = (m.device? id).map Device.state := by
  unfold View.device? View.of Manager.device?
  dsimp only
  induction m.devices with
  | nil => rfl
  | cons d ds ih =>
    rw [List.map_cons, List.lookup_cons, List.find?_cons]
    by_cases hId : d.id = id
    · rw [show (id == d.id) = true from beq_iff_eq.mpr hId.symm,
        show (d.id == id) = true from beq_iff_eq.mpr hId]
      rfl
    · rw [show (id == d.id) = false from beq_eq_false_iff_ne.mpr (Ne.symm hId),
        show (d.id == id) = false from beq_eq_false_iff_ne.mpr hId]
      exact ih

theorem View.mem_requests_of (m : Manager) (id : Nat) :
    id ∈ (View.of m).requests ↔ (m.request? id).isSome = true := by
  unfold View.of Manager.request?
  rw [List.mem_map, List.find?_isSome]
  simp only [beq_iff_eq]

/-- The device that an event makes known, or takes away, or moves. -/
def ManagerEvent.deviceTold? : ManagerEvent → Option Nat
  | .deviceAdded id | .deviceRemoved id | .deviceStateChanged id _ _ _ => some id
  | _ => none

/-- The request that an event makes known, or takes away, or calls another one than before. -/
def ManagerEvent.requestTold? : ManagerEvent → Option Nat
  | .activeConnectionAdded id | .activeConnectionRemoved id | .activeConnectionChanged id => some id
  | _ => none

/-- Whether an event moves a device. -/
def ManagerEvent.moves (id : Nat) (e : ManagerEvent) : Prop :=
  ∃ new old reason, e = .deviceStateChanged id new old reason

namespace View

variable (v : View) (id : Nat)

theorem device?_added (i : Nat) : (v.hear (.deviceAdded i)).device? id =
    (v.device? id).or (if id = i then some .unmanaged else none) := by
  show (v.devices ++ [(i, DeviceState.unmanaged)]).lookup id = _
  rw [List.lookup_append, lookup_single]
  rfl

theorem device?_removed (i : Nat) : (v.hear (.deviceRemoved i)).device? id =
    if id = i then none else v.device? id :=
  lookup_filter_ne v.devices i id

theorem device?_moved (i : Nat) (new old : DeviceState) (reason : StateReason) :
    (v.hear (.deviceStateChanged i new old reason)).device? id =
      (v.device? id).map fun state => if id = i then new else state := by
  show (v.devices.map fun e => if e.1 = i then (i, new) else e).lookup id = _
  unfold device?
  induction v.devices with
  | nil => rfl
  | cons e es ih =>
    obtain ⟨key, state⟩ := e
    rw [List.map_cons, List.lookup_cons, show (if key = i then (i, new) else (key, state)) =
      (key, if key = i then new else state) by split <;> simp_all, List.lookup_cons]
    by_cases hKey : id = key
    · rw [show (id == key) = true from beq_iff_eq.mpr hKey, ← hKey]
      rfl
    · rw [show (id == key) = false from beq_eq_false_iff_ne.mpr hKey]
      exact ih

theorem device?_elsewhere {e : ManagerEvent} (hElse : e.deviceTold? ≠ some id) :
    (v.hear e).device? id = v.device? id := by
  cases e with
  | deviceAdded i =>
    rw [device?_added, if_neg fun hId => hElse (congrArg some hId.symm), Option.or_none]
  | deviceRemoved i => rw [device?_removed, if_neg fun hId => hElse (congrArg some hId.symm)]
  | deviceStateChanged i new old reason =>
    rw [device?_moved]
    simp only [if_neg fun hId : id = i => hElse (congrArg some hId.symm)]
    exact Option.map_id'
  | _ => rfl

end View

namespace Observer

variable {o : Observer} {id : Nat}

/-- What is true after some events was true before them, or one of them made it so. -/
theorem Hears.before {P : Observer → Prop} {W : ManagerEvent → Prop}
    (hStep : ∀ (o : Observer) e, o.Accepts e → P (o.hear e) → P o ∨ W e) {es : List ManagerEvent}
    (h : o.Hears es) (hAfter : P (o.read es)) : P o ∨ ∃ e ∈ es, W e := by
  induction es generalizing o with
  | nil => exact Or.inl hAfter
  | cons e es ih =>
    rcases ih h.2 hAfter with hNext | ⟨f, hf, hW⟩
    · exact (hStep o e h.1 hNext).imp_right fun hW => ⟨e, List.mem_cons_self, hW⟩
    · exact Or.inr ⟨f, List.mem_cons_of_mem e hf, hW⟩

theorem Hears.rest {es fs : List ManagerEvent} (h : o.Hears (es ++ fs)) : (o.read es).Hears fs := by
  induction es generalizing o with
  | nil => exact h
  | cons e es ih => exact ih h.2

/-- What has not changed without an event is as it was. -/
theorem Hears.latest {α : Type} {f : View → α} {tells : ManagerEvent → Prop}
    {es : List ManagerEvent} (h : o.Hears es)
    (hQuiet : ∀ v e, f (View.hear v e) = f v ∨ tells e) :
    f o.view = f (o.read es).view ∨ ∃ e ∈ es, tells e :=
  h.before (P := fun o' => f o'.view = f (o.read es).view) (fun o' e _ hNext =>
    (hQuiet o'.view e).imp_left fun hSame => hSame.symm.trans hNext) rfl

/-- An observer has seen what he knows of. -/
structure Remembers (o : Observer) : Prop where
  devices : ∀ id, (o.view.device? id).isSome = true → id ∈ o.seenDevices
  requests : ∀ id ∈ o.view.requests, id ∈ o.seenRequests

theorem remembers_of (m : Manager) : (of m).Remembers := by
  refine ⟨fun id hKnown => ?_, fun _ hIn => hIn⟩
  change ((View.of m).device? id).isSome = true at hKnown
  rw [View.device?_of, Option.isSome_map] at hKnown
  obtain ⟨d, hd⟩ := Option.isSome_iff_exists.mp hKnown
  exact Manager.mem_deviceIds hd

theorem Remembers.hear (h : o.Remembers) (e : ManagerEvent) : (o.hear e).Remembers := by
  have hDevices : ∀ id, ((o.view.hear e).device? id).isSome = true →
      id ∈ o.seenDevices ∨ e = .deviceAdded id := by
    intro id hKnown
    by_cases hElse : e.deviceTold? = some id
    · cases e with
      | deviceAdded i => exact Or.inr (congrArg ManagerEvent.deviceAdded (Option.some.inj hElse))
      | deviceRemoved i =>
        rw [View.device?_removed, if_pos (Option.some.inj hElse).symm] at hKnown
        cases hKnown
      | deviceStateChanged i new old reason =>
        rw [View.device?_moved, Option.isSome_map] at hKnown
        exact Or.inl (h.devices id hKnown)
      | _ => cases hElse
    · rw [View.device?_elsewhere _ _ hElse] at hKnown
      exact Or.inl (h.devices id hKnown)
  refine ⟨fun id hKnown => ?_, fun id hIn => ?_⟩
  · rcases hDevices id hKnown with hSeen | rfl
    · cases e with
      | deviceAdded i => exact List.mem_cons_of_mem i hSeen
      | _ => exact hSeen
    · exact List.mem_cons_self
  · cases e with
    | activeConnectionAdded i =>
      rcases List.mem_append.mp hIn with hOld | hNew
      · exact List.mem_cons_of_mem i (h.requests id hOld)
      · exact List.mem_cons.mpr (Or.inl (List.mem_singleton.mp hNew))
    | activeConnectionRemoved i => exact h.requests id (List.mem_filter.mp hIn).1
    | _ => exact h.requests id hIn

theorem Remembers.read (h : o.Remembers) (es : List ManagerEvent) : (o.read es).Remembers := by
  induction es generalizing o with
  | nil => exact h
  | cons e es ih => exact ih (h.hear e)

theorem seenDevices_hear (o : Observer) (e : ManagerEvent) :
    o.seenDevices ⊆ (o.hear e).seenDevices := by
  cases e with
  | deviceAdded i => exact List.subset_cons_self i _
  | _ => exact List.Subset.refl _

theorem seenRequests_hear (o : Observer) (e : ManagerEvent) :
    o.seenRequests ⊆ (o.hear e).seenRequests := by
  cases e with
  | activeConnectionAdded i => exact List.subset_cons_self i _
  | _ => exact List.Subset.refl _

theorem seen_read (o : Observer) (es : List ManagerEvent) :
    o.seenDevices ⊆ (o.read es).seenDevices ∧ o.seenRequests ⊆ (o.read es).seenRequests := by
  induction es generalizing o with
  | nil => exact ⟨List.Subset.refl _, List.Subset.refl _⟩
  | cons e es ih =>
    obtain ⟨hDevices, hRequests⟩ := ih (o.hear e)
    exact ⟨fun _ hId => hDevices (o.seenDevices_hear e hId),
      fun _ hId => hRequests (o.seenRequests_hear e hId)⟩

/-- A device that was seen before is in its state since then, or an event has moved it. -/
theorem Hears.device {es : List ManagerEvent} {state : DeviceState} (h : o.Hears es)
    (hSeen : id ∈ o.seenDevices) (hAfter : (o.read es).view.device? id = some state) :
    (o.view.device? id).isSome = true ∧ (o.view.device? id = some state ∨ ∃ e ∈ es, e.moves id) := by
  -- one step back, for a device that was seen
  have hStep : ∀ (o : Observer) e, o.Accepts e → id ∈ o.seenDevices → ∀ state,
      (o.hear e).view.device? id = some state →
        (o.view.device? id).isSome = true ∧ (o.view.device? id = some state ∨ e.moves id) := by
    intro o e hAccepts hSeen state hNext
    change (o.view.hear e).device? id = some state at hNext
    by_cases hElse : e.deviceTold? = some id
    · cases e with
      | deviceAdded i =>
        obtain rfl := Option.some.inj hElse
        exact absurd hSeen hAccepts
      | deviceRemoved i =>
        rw [View.device?_removed, if_pos (Option.some.inj hElse).symm] at hNext
        cases hNext
      | deviceStateChanged i new old reason =>
        obtain rfl := Option.some.inj hElse
        rw [View.device?_moved] at hNext
        obtain ⟨before, hBefore, -⟩ := Option.map_eq_some_iff.mp hNext
        exact ⟨by rw [hBefore]; rfl, Or.inr ⟨new, old, reason, rfl⟩⟩
      | _ => cases hElse
    · rw [View.device?_elsewhere _ _ hElse] at hNext
      exact ⟨by rw [hNext]; rfl, Or.inl hNext⟩
  have hKnown := h.before (P := fun o => id ∈ o.seenDevices → (o.view.device? id).isSome = true)
    (W := fun _ => False) (fun o e hAccepts hNext => Or.inl fun hSeen => by
      obtain ⟨state, hState⟩ := Option.isSome_iff_exists.mp (hNext (o.seenDevices_hear e hSeen))
      exact (hStep o e hAccepts hSeen state hState).1) fun _ => by rw [hAfter]; rfl
  have hState := h.before (P := fun o => id ∈ o.seenDevices → o.view.device? id = some state)
    (W := ManagerEvent.moves id) (fun o e hAccepts hNext => by
      by_cases hMoves : e.moves id
      · exact Or.inr hMoves
      · exact Or.inl fun hSeen => ((hStep o e hAccepts hSeen state
          (hNext (o.seenDevices_hear e hSeen))).2).resolve_right hMoves) fun _ => hAfter
  refine ⟨?_, hState.imp_left fun hBefore => hBefore hSeen⟩
  rcases hKnown with hBefore | ⟨-, -, hFalse⟩
  · exact hBefore hSeen
  · exact hFalse.elim

/-- A request that was seen before is one that goes on. -/
theorem Hears.request {es : List ManagerEvent} (h : o.Hears es) (hSeen : id ∈ o.seenRequests)
    (hAfter : id ∈ (o.read es).view.requests) : id ∈ o.view.requests := by
  have hBefore := h.before (P := fun o => id ∈ o.seenRequests → id ∈ o.view.requests)
    (W := fun _ => False) (fun o e hAccepts hNext => Or.inl fun hSeen => ?_) fun _ => hAfter
  · rcases hBefore with hBefore | ⟨-, -, hFalse⟩
    · exact hBefore hSeen
    · exact hFalse.elim
  · have hIn := hNext (o.seenRequests_hear e hSeen)
    cases e with
    | activeConnectionAdded i =>
      refine (List.mem_append.mp hIn).resolve_right fun hNew => hAccepts ?_
      rw [← List.mem_singleton.mp hNew]
      exact hSeen
    | activeConnectionRemoved i => exact (List.mem_filter.mp hIn).1
    | _ => exact hIn

end Observer

end ScannerHub
