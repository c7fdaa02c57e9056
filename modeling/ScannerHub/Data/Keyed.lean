/-!
# Entries with keys

Entries of a list that are known by a key. Where a key comes twice, the first entry with it is the one
that is found, so it is also the one that is replaced, or that goes.

* `replaceFirst` — puts an entry in the place of the first one with its key;
* `find?_replaceFirst`, `map_replaceFirst`, `mem_replaceFirst` — what is there afterwards;
* `replaceFirst_eq_map`, `eraseP_eq_filter` — where no key comes twice, the first entry is the only one.
-/

namespace ScannerHub

variable {α β : Type}

/-- Puts an entry in the place of the first one with its key. -/
def replaceFirst (key : α → Nat) (x : α) : List α → List α
  | [] => []
  | y :: ys => if key y = key x then x :: ys else y :: replaceFirst key x ys

theorem mem_replaceFirst {key : α → Nat} {x z : α} {ys : List α} (h : z ∈ replaceFirst key x ys) :
    z = x ∨ z ∈ ys := by
  induction ys with
  | nil => exact Or.inr h
  | cons y ys ih =>
    unfold replaceFirst at h
    split at h
    · exact (List.mem_cons.mp h).imp_right (List.mem_cons_of_mem y)
    · rcases List.mem_cons.mp h with rfl | h
      · exact Or.inr List.mem_cons_self
      · exact (ih h).imp_right (List.mem_cons_of_mem y)

/-- An entry with another key stays. -/
theorem mem_replaceFirst_of_ne {key : α → Nat} {x z : α} {ys : List α} (hz : z ∈ ys)
    (hKey : key z ≠ key x) : z ∈ replaceFirst key x ys := by
  induction ys with
  | nil => exact hz
  | cons y ys ih =>
    unfold replaceFirst
    rcases List.mem_cons.mp hz with rfl | hz
    · rw [if_neg hKey]
      exact List.mem_cons_self
    · split
      · exact List.mem_cons_of_mem _ hz
      · exact List.mem_cons_of_mem _ (ih hz)

/-- An entry is found in the place of the one that was found under its key, and no other is touched. -/
theorem find?_replaceFirst (key : α → Nat) (x : α) (ys : List α) (k : Nat) :
    ((replaceFirst key x ys).find? fun y => key y == k) =
      if k = key x then (ys.find? fun y => key y == k).map fun _ => x
      else ys.find? fun y => key y == k := by
  induction ys with
  | nil => simp [replaceFirst]
  | cons y ys ih =>
    unfold replaceFirst
    by_cases hy : key y = key x
    · rw [if_pos hy]
      by_cases hk : k = key x
      · simp [hk, hy]
      · simp [hk, hy, Ne.symm hk]
    · rw [if_neg hy, List.find?_cons, List.find?_cons, ih]
      by_cases hk : key y = k
      · subst hk
        simp [hy]
      · rw [beq_false_of_ne hk]

/-- What the replaced entry has in common with its successor, the list keeps. -/
theorem map_replaceFirst {key : α → Nat} {x : α} {ys : List α} (f : α → β)
    (h : ∀ y, (ys.find? fun y => key y == key x) = some y → f x = f y) :
    (replaceFirst key x ys).map f = ys.map f := by
  induction ys with
  | nil => rfl
  | cons y ys ih =>
    unfold replaceFirst
    by_cases hy : key y = key x
    · have hSame : f x = f y := h y (List.find?_cons_of_pos (beq_iff_eq.mpr hy))
      rw [if_pos hy, List.map_cons, List.map_cons, hSame]
    · have hRest : ∀ z, (ys.find? fun y => key y == key x) = some z → f x = f z := by
        intro z hz
        refine h z ?_
        rw [List.find?_cons, beq_false_of_ne hy]
        exact hz
      rw [if_neg hy, List.map_cons, List.map_cons, ih hRest]

theorem map_key_replaceFirst (key : α → Nat) (x : α) (ys : List α) :
    (replaceFirst key x ys).map key = ys.map key := by
  refine map_replaceFirst key fun y hy => ?_
  have hKey := List.find?_some hy
  exact (beq_iff_eq.mp hKey).symm

/-- Beside the entries with the key nothing changes. -/
theorem filter_replaceFirst (key : α → Nat) (x : α) (ys : List α) :
    ((replaceFirst key x ys).filter fun y => key y != key x) = ys.filter fun y => key y != key x := by
  induction ys with
  | nil => rfl
  | cons y ys ih =>
    unfold replaceFirst
    by_cases hy : key y = key x
    · simp [hy]
    · rw [if_neg hy, List.filter_cons, List.filter_cons, ih]

/-- Where no key comes twice, all entries with the key are replaced. -/
theorem replaceFirst_eq_map {key : α → Nat} {x : α} {ys : List α} (h : (ys.map key).Nodup) :
    replaceFirst key x ys = ys.map fun y => if key y = key x then x else y := by
  induction ys with
  | nil => rfl
  | cons y ys ih =>
    obtain ⟨hHead, hRest⟩ := List.nodup_cons.mp h
    unfold replaceFirst
    rw [List.map_cons]
    by_cases hy : key y = key x
    · have hSame : (ys.map fun z => if key z = key x then x else z) = ys :=
        (List.map_congr_left fun z hz => if_neg fun hz' =>
          hHead (List.mem_map.mpr ⟨z, hz, hz'.trans hy.symm⟩)).trans (List.map_id' ys)
      rw [if_pos hy, if_pos hy, hSame]
    · rw [if_neg hy, if_neg hy, ih hRest]

/-- The first entry with a key takes no entry with another key along. -/
theorem find?_eraseP_of_ne {key : α → Nat} (ys : List α) {k l : Nat} (h : l ≠ k) :
    ((ys.eraseP fun y => key y == k).find? fun y => key y == l) = ys.find? fun y => key y == l := by
  induction ys with
  | nil => rfl
  | cons y ys ih =>
    rw [List.eraseP_cons]
    by_cases hy : key y = k
    · simp [hy, Ne.symm h]
    · rw [beq_false_of_ne hy, cond_false, List.find?_cons, List.find?_cons, ih]

/-- Where no key comes twice, all entries with a key go. -/
theorem eraseP_eq_filter {key : α → Nat} {ys : List α} (h : (ys.map key).Nodup) (k : Nat) :
    (ys.eraseP fun y => key y == k) = ys.filter fun y => key y != k := by
  induction ys with
  | nil => rfl
  | cons y ys ih =>
    obtain ⟨hHead, hRest⟩ := List.nodup_cons.mp h
    rw [List.eraseP_cons, List.filter_cons]
    by_cases hy : key y = k
    · have hKept : (ys.filter fun z => key z != k) = ys :=
        List.filter_eq_self.mpr fun z hz => bne_iff_ne.mpr fun hz' =>
          hHead (List.mem_map.mpr ⟨z, hz, hz'.trans hy.symm⟩)
      simp [hy, hKept]
    · rw [beq_false_of_ne hy, ih hRest, if_pos (bne_iff_ne.mpr hy)]
      rfl

end ScannerHub
