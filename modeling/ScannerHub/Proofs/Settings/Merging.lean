import ScannerHub.Proofs.Settings.Verified

/-!
# Merging secrets

Secrets for a setting come as a collection of settings, of which only the one with the right name is
looked at. A map that is acceptable as a setting by itself takes the place of the setting. Of any other
map only the secrets are taken over, and all else that it holds is ignored.

What the settings are afterwards is said here value by value, so that nothing in it depends on the order
in which the secrets were put in.

* `Suffices`, `HoldsSecret` — the maps of which something is taken;
* `Merges` — the settings after a map was taken;
* `TakesSecrets` — when a connection takes secrets, and what it makes of them.

## Results

* `withSecrets?_eq_some_iff` — which maps are taken, and what they make of the settings;
* `Verified.merges_bluetooth` — a bluetooth setting stays acceptable with another PIN;
* `run_mergeSecrets` — whatever was done to a connection, it takes secrets as it should.
-/

namespace ScannerHub

namespace Connection

variable {c c' : Connection} {held merged : Settings} {name : String} {map : SettingMap}

-- ---------------------------------------------------------------------------
-- What becomes of the settings
-- ---------------------------------------------------------------------------

/-- A map is acceptable as a setting by itself, and there is something in it. -/
def Suffices (name : String) (map : SettingMap) : Prop :=
  map ≠ ∅ ∧ verifySetting name map = .ok ()

/-- A map holds a secret of a setting. -/
def HoldsSecret (name : String) (map : SettingMap) : Prop :=
  ∃ key ∈ secretProperties name, (map.get? key).isSome = true

/-- The value of a property in settings. -/
def property? (settings : Settings) (name key : String) : Option SettingValue :=
  (settings.get? name).bind fun map => map.get? key

/-- One setting was taken from a map, as a whole if that suffices, and else with its secrets. A setting
that was not there counts as one without properties. -/
structure Merges (held : Settings) (name : String) (map : SettingMap) (merged : Settings) : Prop where
  others : ∀ other, other ≠ name → merged.get? other = held.get? other
  whole : Suffices name map → merged.get? name = some map
  secrets : ¬ Suffices name map → ∃ setting, merged.get? name = some setting ∧
    ∀ key, setting.get? key = if key ∈ secretProperties name
      then (map.get? key).or (property? held name key) else property? held name key

/-- A map makes of settings one thing only. -/
theorem Merges.unique {merged' : Settings} (h : Merges held name map merged)
    (h' : Merges held name map merged') : merged = merged' := by
  refine Dict.ext_get? fun other => ?_
  by_cases hOther : other = name
  · subst hOther
    by_cases hWhole : Suffices other map
    · rw [h.whole hWhole, h'.whole hWhole]
    · obtain ⟨setting, hFound, hValues⟩ := h.secrets hWhole
      obtain ⟨setting', hFound', hValues'⟩ := h'.secrets hWhole
      have hSame : setting = setting' :=
        Dict.ext_get? fun key => (hValues key).trans (hValues' key).symm
      rw [hFound, hFound', hSame]
  · rw [h.others other hOther, h'.others other hOther]

theorem suffices_iff (name : String) (map : SettingMap) : Suffices name map ↔
    ((verifySetting name map).isOk && !map.isEmpty) = true := by
  have hOk : (verifySetting name map).isOk = true ↔ verifySetting name map = .ok () := by
    cases verifySetting name map with
    | error e => exact ⟨nofun, nofun⟩
    | ok u => exact ⟨fun _ => rfl, fun _ => rfl⟩
  rw [Bool.and_eq_true, hOk, Bool.not_eq_true', ← Bool.not_eq_true, Dict.isEmpty_iff]
  exact And.comm

-- ---------------------------------------------------------------------------
-- The secrets of a map
-- ---------------------------------------------------------------------------

theorem find?_secretEntries (name : String) (map : SettingMap) (key : String) :
    ((secretEntries name map).find? fun e => e.1 == key).map Prod.snd =
      if key ∈ secretProperties name then map.get? key else none := by
  unfold secretEntries Dict.get?
  rw [List.find?_filter]
  by_cases hKey : key ∈ secretProperties name
  · rw [if_pos hKey]
    congr 2
    funext e
    by_cases hEq : e.1 = key <;> simp [hEq, hKey]
  · have hNone : (map.entries.find? fun e =>
        (secretProperties name).contains e.1 && e.1 == key) = none := by
      rw [List.find?_eq_none]
      intro e _ hBoth
      rw [Bool.and_eq_true, List.contains_iff_mem, beq_iff_eq] at hBoth
      exact hKey (hBoth.2 ▸ hBoth.1)
    rw [if_neg hKey]
    simpa using hNone

/-- There are secrets in a map exactly if a property that is one has a value. -/
theorem holdsSecret_iff (name : String) (map : SettingMap) :
    HoldsSecret name map ↔ (secretEntries name map).isEmpty = false := by
  rw [← Bool.not_eq_true, List.isEmpty_iff]
  constructor
  · rintro ⟨key, hKey, hSome⟩ hNone
    have hFound := find?_secretEntries name map key
    rw [hNone, if_pos hKey] at hFound
    rw [← hFound] at hSome
    cases hSome
  · intro hNe
    obtain ⟨e, he⟩ := List.exists_mem_of_ne_nil _ hNe
    obtain ⟨hEntry, hKey⟩ := List.mem_filter.mp he
    refine ⟨e.1, List.contains_iff_mem.mp hKey, ?_⟩
    rw [(map.get?_eq_some_iff e.1 e.2).mpr hEntry]
    rfl

/-- A map makes of the settings what it should, if anything of it is taken. -/
theorem merges_of_withSecrets? (h : withSecrets? held name map = some merged) :
    (Suffices name map ∨ HoldsSecret name map) ∧ Merges held name map merged := by
  unfold withSecrets? at h
  split at h
  · rename_i hWhole
    rw [← suffices_iff] at hWhole
    cases h
    refine ⟨Or.inl hWhole, fun other hOther => ?_, fun _ => ?_, fun hNot => absurd hWhole hNot⟩
    · rw [Dict.get?_insert, if_neg (Ne.symm hOther)]
    · rw [Dict.get?_insert, if_pos rfl]
  · rename_i hNot
    rw [← suffices_iff] at hNot
    dsimp only at h
    split at h
    · cases h
    · rename_i hSecrets
      cases h
      refine ⟨Or.inr ((holdsSecret_iff name map).mpr (Bool.eq_false_iff.mpr hSecrets)),
        fun other hOther => ?_, fun hWhole => absurd hWhole hNot,
        fun _ => ⟨_, by rw [Dict.get?_insert, if_pos rfl], fun key => ?_⟩⟩
      · rw [Dict.get?_insert, if_neg (Ne.symm hOther)]
      · have hNodup : ((secretEntries name map).map Prod.fst).Nodup :=
          map.nodup_keys.sublist (List.filter_sublist.map _)
        have hHeld : (((held.get? name).getD ∅).get? key) = property? held name key := by
          unfold property?
          cases held.get? name <;> rfl
        rw [Dict.get?_foldl_insert hNodup, find?_secretEntries, hHeld]
        split
        · rfl
        · exact Option.none_or

/-- Something is taken of a map that suffices, and of one that holds a secret. -/
theorem withSecrets?_isSome (held : Settings) (h : Suffices name map ∨ HoldsSecret name map) :
    ∃ merged, withSecrets? held name map = some merged := by
  rw [suffices_iff, holdsSecret_iff] at h
  unfold withSecrets?
  split
  · exact ⟨_, rfl⟩
  · rename_i hNot
    dsimp only
    rw [h.resolve_left hNot]
    exact ⟨_, rfl⟩

/-- Nothing is taken of a map that neither suffices nor holds a secret, and of any other map what it
should be. -/
theorem withSecrets?_eq_some_iff : withSecrets? held name map = some merged ↔
    (Suffices name map ∨ HoldsSecret name map) ∧ Merges held name map merged := by
  refine ⟨merges_of_withSecrets?, fun ⟨hTaken, hMerges⟩ => ?_⟩
  obtain ⟨merged', hTo⟩ := withSecrets?_isSome held hTaken
  rw [hTo, hMerges.unique (merges_of_withSecrets? hTo).2]

-- ---------------------------------------------------------------------------
-- Secrets for a connection
-- ---------------------------------------------------------------------------

/-- Secrets that are merged come from the map for the setting, and the settings are verified with
them. -/
theorem mergeSecrets_eq_ok_iff {secrets : Settings} : c.mergeSecrets name secrets = .ok c' ↔
    ∃ map, secrets.get? name = some map ∧ (Suffices name map ∨ HoldsSecret name map) ∧
      Merges c.settings name map c'.settings ∧ verify c'.settings = .ok c'.base ∧
      c'.scope = c.scope := by
  have hNew : ∀ settings, c.replaceSettings settings = .ok c' ↔
      c'.settings = settings ∧ verify c'.settings = .ok c'.base ∧ c'.scope = c.scope := by
    intro settings
    unfold replaceSettings ofSettings
    constructor
    · intro h
      cases hVerify : verify settings with
      | error e =>
        rw [hVerify] at h
        cases h
      | ok base =>
        rw [hVerify] at h
        cases h
        exact ⟨rfl, hVerify, rfl⟩
    · rintro ⟨rfl, hVerify, hScope⟩
      rw [hVerify, ← hScope]
      rfl
  unfold mergeSecrets
  split
  · rename_i hEmpty
    rw [Dict.isEmpty_iff] at hEmpty
    subst hEmpty
    exact ⟨nofun, fun ⟨_, hFound, _⟩ => nomatch hFound⟩
  · cases secrets.get? name with
    | none => exact ⟨nofun, fun ⟨_, hFound, _⟩ => nomatch hFound⟩
    | some map =>
      simp only [Option.some.injEq, exists_eq_left']
      rw [← and_assoc, ← withSecrets?_eq_some_iff]
      cases withSecrets? c.settings name map with
      | none => exact ⟨nofun, fun ⟨hTo, _⟩ => nomatch hTo⟩
      | some merged =>
        rw [Option.some.injEq, eq_comm (a := merged)]
        exact hNew merged

/-- Whether secrets are merged is decided by the settings that come of it. -/
theorem mergeSecrets_succeeds_iff {secrets : Settings} :
    (∃ c', c.mergeSecrets name secrets = .ok c') ↔ ∃ map, secrets.get? name = some map ∧
      (Suffices name map ∨ HoldsSecret name map) ∧
      ∃ merged, Merges c.settings name map merged ∧ ∃ base, verify merged = .ok base := by
  simp only [mergeSecrets_eq_ok_iff]
  constructor
  · rintro ⟨c', map, hFound, hTaken, hMerges, hVerify, -⟩
    exact ⟨map, hFound, hTaken, c'.settings, hMerges, c'.base, hVerify⟩
  · rintro ⟨map, hFound, hTaken, merged, hMerges, base, hVerify⟩
    exact ⟨{ scope := c.scope, settings := merged, base }, map, hFound, hTaken, hMerges, hVerify, rfl⟩

/-- The view of the setting `connection` stays as it is while secrets go elsewhere. -/
theorem Verified.base_merged (h : c.Verified) (hNe : name ≠ connectionSettingName)
    (hMerges : Merges c.settings name map merged) {base : ConnectionSetting}
    (hVerify : verify merged = .ok base) : base = c.base := by
  obtain ⟨⟨_, hFound, hView⟩, -, -⟩ := verify_eq_ok_iff.mp h
  obtain ⟨⟨_, hFound', hView'⟩, -, -⟩ := verify_eq_ok_iff.mp hVerify
  rw [hMerges.others _ (Ne.symm hNe), hFound] at hFound'
  cases hFound'
  rw [hView] at hView'
  exact (Except.ok.inj hView').symm

-- ---------------------------------------------------------------------------
-- The PIN of a bluetooth connection
-- ---------------------------------------------------------------------------

/-- Whether a bluetooth setting is acceptable depends on its address and its profile only. -/
theorem verify_bluetooth_congr {map map' : SettingMap} (hAddress : map'.get? "bdaddr" = map.get? "bdaddr")
    (hType : map'.get? "type" = map.get? "type") :
    verifySetting bluetoothSettingName map' = verifySetting bluetoothSettingName map := by
  have hOther : bluetoothSettingName ≠ connectionSettingName := by decide
  unfold verifySetting
  rw [if_neg hOther, if_pos rfl, if_neg hOther, if_pos rfl]
  unfold BluetoothSetting.ofMap
  rw [hAddress, hType]
  cases (map.get? "bdaddr").bind SettingValue.bytes? with
  | none => rfl
  | some bytes =>
    dsimp only
    cases Address.ofBytes? bytes with
    | none => rfl
    | some address =>
      dsimp only
      cases (map.get? "type").bind SettingValue.text? with
      | none => rfl
      | some text =>
        dsimp only
        cases BluetoothProfile.ofName? text <;> rfl

/-- A connection with a bluetooth setting stays verified, whatever is taken into that setting. -/
theorem Verified.merges_bluetooth (h : c.Verified)
    (hThere : (c.setting? bluetoothSettingName).isSome = true)
    (hMerges : Merges c.settings bluetoothSettingName map merged) : verify merged = .ok c.base := by
  obtain ⟨⟨view, hFound, hView⟩, hKind, hEach⟩ := verify_eq_ok_iff.mp h
  obtain ⟨old, hOld⟩ := Option.isSome_iff_exists.mp hThere
  have hMerged : ∃ setting, merged.get? bluetoothSettingName = some setting ∧
      verifySetting bluetoothSettingName setting = .ok () := by
    by_cases hWhole : Suffices bluetoothSettingName map
    · exact ⟨map, hMerges.whole hWhole, hWhole.2⟩
    · obtain ⟨setting, hSetting, hValues⟩ := hMerges.secrets hWhole
      -- neither of the properties that can be wrong is a secret
      have hKept : ∀ key ∉ secretProperties bluetoothSettingName, setting.get? key = old.get? key := by
        intro key hKey
        rw [hValues, if_neg hKey]
        exact congrArg (Option.bind · _) hOld
      have hSame := verify_bluetooth_congr (hKept "bdaddr" (by decide)) (hKept "type" (by decide))
      exact ⟨setting, hSetting, hSame.trans (hEach _ old hOld)⟩
  obtain ⟨setting, hSetting, hAcceptable⟩ := hMerged
  refine verify_eq_ok_iff.mpr ⟨⟨view, ?_, hView⟩, ?_, fun other map' hOther => ?_⟩
  · rw [hMerges.others _ (by decide), hFound]
  · by_cases hSame : c.base.kind = bluetoothSettingName
    · rw [hSame, hSetting]
      rfl
    · rw [hMerges.others _ hSame]
      exact hKind
  · by_cases hSame : other = bluetoothSettingName
    · subst hSame
      rw [hSetting] at hOther
      cases hOther
      exact hAcceptable
    · rw [hMerges.others _ hSame] at hOther
      exact hEach other map' hOther

/-- A bluetooth setting that is there takes every acceptable map and every PIN. -/
theorem Verified.mergeSecrets_bluetooth_iff (h : c.Verified)
    (hThere : (c.setting? bluetoothSettingName).isSome = true) {secrets : Settings} :
    (∃ c', c.mergeSecrets bluetoothSettingName secrets = .ok c') ↔
      ∃ map, secrets.get? bluetoothSettingName = some map ∧
        (Suffices bluetoothSettingName map ∨ (map.get? "pin").isSome = true) := by
  have hPin : ∀ map, HoldsSecret bluetoothSettingName map ↔ (map.get? "pin").isSome = true := by
    intro map
    unfold HoldsSecret
    simp [secretProperties]
  rw [mergeSecrets_succeeds_iff]
  refine exists_congr fun map => and_congr_right fun _ => ?_
  rw [hPin]
  refine ⟨And.left, fun hTaken => ⟨hTaken, ?_⟩⟩
  obtain ⟨merged, hTo⟩ := withSecrets?_isSome c.settings (hTaken.imp_right (hPin map).mpr)
  have hMerges := (merges_of_withSecrets? hTo).2
  exact ⟨merged, hMerges, c.base, h.merges_bluetooth hThere hMerges⟩

-- ---------------------------------------------------------------------------
-- Every connection
-- ---------------------------------------------------------------------------

/-- When a connection takes secrets for a setting, and what it makes of them. -/
structure TakesSecrets (c : Connection) (name : String) (secrets : Settings) : Prop where
  /-- There is a map for the setting, something is taken of it, and what comes of that is verified. -/
  succeeds : (∃ c', c.mergeSecrets name secrets = .ok c') ↔ ∃ map, secrets.get? name = some map ∧
    (Suffices name map ∨ HoldsSecret name map) ∧
    ∃ merged, Merges c.settings name map merged ∧ ∃ base, verify merged = .ok base
  /-- One setting changes, and the view of the setting `connection` only if it is that one. -/
  changes : ∀ c', c.mergeSecrets name secrets = .ok c' →
    (∃ map, secrets.get? name = some map ∧ Merges c.settings name map c'.settings) ∧
      c'.scope = c.scope ∧ (name ≠ connectionSettingName → c'.base = c.base)
  /-- A bluetooth setting that is there takes every acceptable map and every PIN. -/
  bluetooth : name = bluetoothSettingName → (c.setting? bluetoothSettingName).isSome = true →
    ((∃ c', c.mergeSecrets name secrets = .ok c') ↔ ∃ map, secrets.get? name = some map ∧
      (Suffices name map ∨ (map.get? "pin").isSome = true))

theorem Verified.takesSecrets (h : c.Verified) (name : String) (secrets : Settings) :
    c.TakesSecrets name secrets where
  succeeds := mergeSecrets_succeeds_iff
  changes c' hMerged := by
    obtain ⟨map, hFound, -, hMerges, hVerify, hScope⟩ := mergeSecrets_eq_ok_iff.mp hMerged
    exact ⟨⟨map, hFound, hMerges⟩, hScope, fun hNe => h.base_merged hNe hMerges hVerify⟩
  bluetooth hName hThere := by
    subst hName
    exact h.mergeSecrets_bluetooth_iff hThere

/-- Whatever was done to a connection, it takes secrets exactly if they come with a map for the setting
that is acceptable by itself or holds a secret of it, and if what comes of that is verified. Then one
setting is that map, or has the secrets of that map over what it was, and everything else is as before. -/
theorem run_mergeSecrets {scope : Scope} {settings : Settings} (h : ofSettings scope settings = .ok c)
    (edits : List Edit) (name : String) (secrets : Settings) :
    (c.performAll edits).TakesSecrets name secrets :=
  ((ofSettings_verified h).1.performAll edits).1.takesSecrets name secrets

namespace Wand

/-- The view of the setting `connection` of a wand that dials up. -/
def view : ConnectionSetting :=
  { id := "wand", uuid := "3f2504e0-4f89-11d3-9a0c-0305e82c3301", kind := "bluetooth"
    autoconnect := true, timestamp := 0, readOnly := false }

def written : Settings :=
  Dict.ofList
    [("connection", Dict.ofList
       [("id", .text view.id), ("uuid", .text view.uuid), ("type", .text view.kind)]),
     ("bluetooth", Dict.ofList
       [("bdaddr", .bytes [0x00, 0x11, 0x22, 0x33, 0x44, 0x55]), ("type", .text "dun")])]

def connection : Connection := { scope := .system, settings := written, base := view }

/-- A PIN, with a profile that there is not. -/
def answer : Settings :=
  Dict.ofList [("bluetooth", Dict.ofList [("pin", .text "0000"), ("type", .text "fax")])]

end Wand

/-- Of an answer that is not acceptable by itself the PIN is taken, and the profile stays. -/
theorem mergeSecrets_wand :
    ofSettings .system Wand.written = .ok Wand.connection ∧
      ((Wand.connection.performAll [.stamp 5]).mergeSecrets "bluetooth" Wand.answer).map
        (fun c => (c.timestamp, c.bluetooth?)) =
          .ok (5, some (.ok { address := "00:11:22:33:44:55", profile := .dun, pin := some "0000" })) ∧
      (Wand.connection.performAll [.stamp 5]).TakesSecrets "bluetooth" Wand.answer :=
  have hNew : ofSettings .system Wand.written = .ok Wand.connection := rfl
  ⟨hNew, by decide +kernel, run_mergeSecrets hNew [.stamp 5] "bluetooth" Wand.answer⟩

end Connection

end ScannerHub
