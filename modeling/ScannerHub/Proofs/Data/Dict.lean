import Mathlib.Data.List.Sort
import ScannerHub.Data.Dict

/-!
# What a dictionary holds

The entries of a dictionary and its values by key tell the same, because no key comes twice and the
keys ascend.

## Results

* `find?_key` — the entry with a key, in any list in which no key comes twice;
* `Dict.get?_eq_some_iff` — a value under a key is an entry of both;
* `Dict.ext_get?` — a dictionary is known by its values;
* `Dict.get?_foldl_insert` — the values after several entries were put in.
-/

namespace ScannerHub

/-- The entry with a key, in a list in which no key comes twice. -/
theorem find?_key {α β : Type} [BEq β] [LawfulBEq β] (key : α → β) {xs : List α}
    (h : (xs.map key).Nodup) {a : α} (ha : a ∈ xs) :
    (xs.find? fun x => key x == key a) = some a := by
  induction xs with
  | nil => cases ha
  | cons x xs ih =>
    rw [List.map_cons, List.nodup_cons] at h
    rw [List.find?_cons]
    rcases List.mem_cons.mp ha with rfl | ha
    · rw [beq_self_eq_true]
    · have hNe : key x ≠ key a := fun hEq => h.1 (hEq ▸ List.mem_map_of_mem ha)
      rw [beq_false_of_ne hNe]
      exact ih h.2 ha

namespace Dict

variable {α : Type}

/-- No key comes twice. -/
theorem nodup_keys (d : Dict α) : (d.entries.map Prod.fst).Nodup := by
  refine List.pairwise_map.mpr (d.ascending.imp fun {a b} hLt hEq => ?_)
  rw [hEq] at hLt
  exact String.lt_irrefl b.1 hLt

/-- A key has a value exactly if there is an entry of both. -/
theorem get?_eq_some_iff (d : Dict α) (key : String) (value : α) :
    d.get? key = some value ↔ (key, value) ∈ d.entries := by
  constructor
  · intro h
    obtain ⟨e, he, rfl⟩ := Option.map_eq_some_iff.mp h
    have hKey : e.1 = key := by simpa using List.find?_some he
    have hMem := List.mem_of_find?_eq_some he
    rw [← hKey]
    exact hMem
  · intro h
    unfold Dict.get?
    have hFound := find?_key Prod.fst d.nodup_keys h
    rw [hFound]
    rfl

/-- Two dictionaries with the same values are the same, because there is one order for their
entries. -/
theorem ext_get? {d d' : Dict α} (h : ∀ key, d.get? key = d'.get? key) : d = d' := by
  have hAntisymm : Std.Antisymm fun a b : String × α => a.1 < b.1 :=
    ⟨fun a _ hLt hGt => absurd (String.lt_trans hLt hGt) (String.lt_irrefl a.1)⟩
  have hIrrefl : Std.Irrefl fun a b : String × α => a.1 < b.1 := ⟨fun a => String.lt_irrefl a.1⟩
  refine Dict.ext (d.ascending.eq_of_mem_iff d'.ascending fun e => ?_)
  rw [← get?_eq_some_iff, ← get?_eq_some_iff, h]

theorem isEmpty_iff (d : Dict α) : d.isEmpty = true ↔ d = ∅ := by
  unfold isEmpty
  rw [List.isEmpty_iff]
  exact ⟨fun h => Dict.ext h, fun h => h ▸ rfl⟩

/-- Of two values for one key the later one counts. -/
theorem insert_insert (d : Dict α) (key : String) (v w : α) :
    (d.insert key v).insert key w = d.insert key w := by
  refine ext_get? fun k => ?_
  rw [get?_insert, get?_insert, get?_insert]
  split <;> rfl

/-- Entries that are put in one after the other come before what was there. -/
theorem get?_foldl_insert {entries : List (String × α)} (h : (entries.map Prod.fst).Nodup)
    (d : Dict α) (key : String) :
    (entries.foldl (fun d e => d.insert e.1 e.2) d).get? key =
      ((entries.find? fun e => e.1 == key).map Prod.snd).or (d.get? key) := by
  induction entries generalizing d with
  | nil => rfl
  | cons e entries ih =>
    rw [List.map_cons, List.nodup_cons] at h
    rw [List.foldl_cons, ih h.2, get?_insert, List.find?_cons]
    by_cases hKey : e.1 = key
    · have hNone : (entries.find? fun e => e.1 == key) = none := by
        rw [List.find?_eq_none]
        intro e' he' hEq
        rw [beq_iff_eq] at hEq
        exact h.1 (hKey ▸ hEq ▸ List.mem_map_of_mem he')
      rw [hNone, if_pos hKey, beq_iff_eq.mpr hKey]
      rfl
    · rw [if_neg hKey, beq_false_of_ne hKey]

end Dict

end ScannerHub
