/-!
# Ordered dictionaries

A `Dict` maps texts to values and lists its entries in the order of their keys, which is the
order of code points. The order and the absence of repeated keys are part of the type, so two
dictionaries with the same entries are equal.

* `get?`, `insert`, `erase` — the view and the two updates;
* `ofList` — later entries win;
* `get?_insert`, `get?_erase` — what the updates do to the view.
-/

namespace ScannerHub

-- ---------------------------------------------------------------------------
-- Entries in order
-- ---------------------------------------------------------------------------

/-- Entries in strictly ascending order of their keys. -/
def KeysAscend {α : Type} (entries : List (String × α)) : Prop :=
  entries.Pairwise fun a b => a.1 < b.1

/-- Puts an entry at its place, over an entry with the same key. -/
def insertEntry {α : Type} (key : String) (value : α) :
    List (String × α) → List (String × α)
  | [] => [(key, value)]
  | e :: rest =>
    if key < e.1 then (key, value) :: e :: rest
    else if key = e.1 then (key, value) :: rest
    else e :: insertEntry key value rest

theorem mem_insertEntry {α : Type} {key : String} {value : α} {a : String × α}
    {entries : List (String × α)} (h : a ∈ insertEntry key value entries) :
    a = (key, value) ∨ a ∈ entries := by
  induction entries with
  | nil => simpa [insertEntry] using h
  | cons e rest ih =>
    unfold insertEntry at h
    split at h
    · simpa using h
    · split at h
      · rcases List.mem_cons.mp h with h | h
        · exact Or.inl h
        · exact Or.inr (List.mem_cons_of_mem _ h)
      · rcases List.mem_cons.mp h with h | h
        · exact Or.inr (h ▸ List.mem_cons_self)
        · rcases ih h with h | h
          · exact Or.inl h
          · exact Or.inr (List.mem_cons_of_mem _ h)

theorem keysAscend_insertEntry {α : Type} (key : String) (value : α)
    {entries : List (String × α)} (h : KeysAscend entries) :
    KeysAscend (insertEntry key value entries) := by
  induction entries with
  | nil => simp [insertEntry, KeysAscend]
  | cons e rest ih =>
    obtain ⟨hHead, hRest⟩ := List.pairwise_cons.mp h
    unfold insertEntry
    split
    · rename_i hLt
      refine List.pairwise_cons.mpr ⟨fun b hb => ?_, h⟩
      rcases List.mem_cons.mp hb with rfl | hb
      · exact hLt
      · exact String.lt_trans hLt (hHead b hb)
    · split
      · rename_i hEq
        exact List.pairwise_cons.mpr ⟨fun b hb => hEq ▸ hHead b hb, hRest⟩
      · rename_i hLt hEq
        refine List.pairwise_cons.mpr ⟨fun b hb => ?_, ih hRest⟩
        rcases mem_insertEntry hb with rfl | hb
        · refine Decidable.byContradiction fun hGt => hEq ?_
          exact String.le_antisymm (String.not_lt.mp hGt) (String.not_lt.mp hLt)
        · exact hHead b hb

-- ---------------------------------------------------------------------------
-- Dictionaries
-- ---------------------------------------------------------------------------

/-- A finite map from texts to values, in the order of its keys. -/
structure Dict (α : Type) where
  /-- The entries, in the order of their keys. -/
  entries : List (String × α)
  /-- No key comes twice, and the keys ascend. -/
  ascending : KeysAscend entries
deriving DecidableEq

namespace Dict

variable {α β : Type}

/-- The dictionary without entries. -/
def empty : Dict α := ⟨[], List.Pairwise.nil⟩

instance : EmptyCollection (Dict α) := ⟨empty⟩

instance : Inhabited (Dict α) := ⟨empty⟩

/-- The value under a key. -/
def get? (d : Dict α) (key : String) : Option α :=
  (d.entries.find? fun e => e.1 == key).map Prod.snd

/-- Whether a key has a value. -/
def contains (d : Dict α) (key : String) : Bool :=
  (d.get? key).isSome

/-- Sets the value of a key. -/
def insert (d : Dict α) (key : String) (value : α) : Dict α :=
  ⟨insertEntry key value d.entries, keysAscend_insertEntry key value d.ascending⟩

/-- Drops a key. -/
def erase (d : Dict α) (key : String) : Dict α :=
  ⟨d.entries.filter fun e => e.1 != key, d.ascending.sublist List.filter_sublist⟩

def keys (d : Dict α) : List String :=
  d.entries.map Prod.fst

/-- The number of entries. -/
def size (d : Dict α) : Nat :=
  d.entries.length

def isEmpty (d : Dict α) : Bool :=
  d.entries.isEmpty

/-- The dictionary of a list of entries; of two entries with one key the later one counts. -/
def ofList (entries : List (String × α)) : Dict α :=
  entries.foldl (fun d e => d.insert e.1 e.2) ∅

/-- The entries whose value has an image, with that image. -/
def filterMapValues (f : String → α → Option β) (d : Dict α) : Dict β :=
  ofList (d.entries.filterMap fun e => (f e.1 e.2).map fun b => (e.1, b))

-- ---------------------------------------------------------------------------
-- What the updates do to the view
-- ---------------------------------------------------------------------------

@[ext]
theorem ext {d d' : Dict α} (h : d.entries = d'.entries) : d = d' := by
  cases d; cases d'; cases h; rfl

@[simp]
theorem get?_empty (key : String) : (∅ : Dict α).get? key = none := rfl

theorem find?_insertEntry (key k : String) (value : α) (entries : List (String × α)) :
    ((insertEntry key value entries).find? fun e => e.1 == k).map Prod.snd =
      if key = k then some value else (entries.find? fun e => e.1 == k).map Prod.snd := by
  induction entries with
  | nil => by_cases h : key = k <;> simp [insertEntry, h]
  | cons e rest ih =>
    unfold insertEntry
    split
    · by_cases h : key = k <;> simp [List.find?_cons, h]
    · split
      · rename_i hEq
        subst hEq
        by_cases h : e.1 = k <;> simp [h]
      · rename_i hLt hEq
        by_cases h : e.1 = k
        · subst h
          simp [hEq]
        · have hb : (e.1 == k) = false := by simp [h]
          rw [List.find?_cons, List.find?_cons, hb]
          exact ih

/-- A key that was set has its value; no other key is touched. -/
theorem get?_insert (d : Dict α) (key k : String) (value : α) :
    (d.insert key value).get? k = if key = k then some value else d.get? k :=
  find?_insertEntry key k value d.entries

/-- A key that was dropped has no value; no other key is touched. -/
theorem get?_erase (d : Dict α) (key k : String) :
    (d.erase key).get? k = if key = k then none else d.get? k := by
  unfold get? erase
  by_cases h : key = k
  · subst h
    simp
  · simp only [h, if_false]
    congr 1
    rw [List.find?_filter]
    congr 1
    funext e
    by_cases hk : e.1 = k
    · subst hk
      simp [Ne.symm h]
    · simp [hk]

end Dict

end ScannerHub
