import ScannerHub.Proofs.Data.Dict
import ScannerHub.Settings.Connection

/-!
# Connections stay verified

The view of the setting `connection` is kept beside the settings, so the two could drift apart. They
do not: whatever changes the settings verifies them again and takes the new view over, except for the
time of the last use, which is written into both.

Connections are changed in place. A change that fails on its way keeps what it has stored until then,
so that nothing is stored before the last check is a matter of the order of the steps.

* `Connection.Verified` — the settings are acceptable, and the view is theirs;
* `Connection.InPlace` — changes in place, which keep what they stored when they fail;
* `Connection.Edit` — the changes of a connection.

## Results

* `verify_eq_ok_iff` — what it takes to be verified;
* `perform_eq` — an edit in place ends as the edit of the whole does, or stores nothing;
* `run_verified` — connections stay verified, and edits are all or nothing.
-/

namespace ScannerHub

namespace Connection

variable {c c' : Connection} {settings : Settings} {base : ConnectionSetting}

-- ---------------------------------------------------------------------------
-- What it takes to be verified
-- ---------------------------------------------------------------------------

/-- Settings are acceptable exactly if each of them is. -/
theorem verifyEach_eq_ok_iff (entries : List (String × SettingMap)) :
    verifyEach entries = .ok () ↔ ∀ e ∈ entries, verifySetting e.1 e.2 = .ok () := by
  induction entries with
  | nil => simp [verifyEach]
  | cons e entries ih =>
    rw [List.forall_mem_cons, ← ih, verifyEach]
    cases verifySetting e.1 e.2 <;> simp

/-- The view of verified settings is that of their setting `connection`, the setting that it names is
there, and each setting is acceptable under its name. -/
theorem verify_eq_ok_iff : verify settings = .ok base ↔
    (∃ map, settings.get? connectionSettingName = some map ∧ ConnectionSetting.ofMap map = .ok base) ∧
      (settings.get? base.kind).isSome = true ∧
        ∀ name map, settings.get? name = some map → verifySetting name map = .ok () := by
  have hEach : (∀ name map, settings.get? name = some map → verifySetting name map = .ok ()) ↔
      verifyEach settings.entries = .ok () := by
    simp only [verifyEach_eq_ok_iff, Dict.get?_eq_some_iff, Prod.forall]
  rw [hEach]
  unfold verify Dict.contains
  cases settings.get? connectionSettingName with
  | none => simp
  | some map =>
    cases hView : ConnectionSetting.ofMap map with
    | error e => simp [hView]
    | ok view =>
      simp only [Option.some.injEq, exists_eq_left', hView, Except.ok.injEq]
      constructor
      · intro h
        split at h
        · cases h
        · rename_i hKind
          split at h
          · cases h
          · rename_i hAll
            cases h
            exact ⟨rfl, by simpa only [Bool.not_eq_true', Bool.not_eq_false] using hKind, hAll⟩
      · rintro ⟨rfl, hKind, hAll⟩
        rw [hKind, hAll]
        rfl

/-- The settings of a connection are acceptable, and the view that is kept beside them is theirs. -/
def Verified (c : Connection) : Prop := verify c.settings = .ok c.base

theorem Verified.setting (h : c.Verified) {name : String} {map : SettingMap}
    (hFound : c.setting? name = some map) : verifySetting name map = .ok () :=
  (verify_eq_ok_iff.mp h).2.2 name map hFound

/-- The setting that a verified connection names as its type is there. -/
theorem Verified.kind (h : c.Verified) : ∃ map, c.setting? c.kind = some map :=
  Option.isSome_iff_exists.mp (verify_eq_ok_iff.mp h).2.1

-- ---------------------------------------------------------------------------
-- New settings
-- ---------------------------------------------------------------------------

theorem ofSettings_verified {scope : Scope} (h : ofSettings scope settings = .ok c) :
    c.Verified ∧ c.scope = scope := by
  unfold ofSettings at h
  cases hVerify : verify settings with
  | error e =>
    rw [hVerify] at h
    cases h
  | ok base =>
    rw [hVerify] at h
    cases h
    exact ⟨hVerify, rfl⟩

/-- Secrets are merged by way of new settings. -/
theorem mergeSecrets_eq_ok {name : String} {secrets : Settings}
    (h : c.mergeSecrets name secrets = .ok c') : ∃ merged, ofSettings c.scope merged = .ok c' := by
  unfold mergeSecrets at h
  split at h
  · cases h
  · split at h
    · cases h
    · split at h
      · cases h
      · exact ⟨_, h⟩

-- ---------------------------------------------------------------------------
-- The time of the last use
-- ---------------------------------------------------------------------------

/-- A time that is written into the setting `connection` is the one that its view tells. -/
theorem ofMap_insert_timestamp {map : SettingMap} (h : ConnectionSetting.ofMap map = .ok base)
    (time : UInt64) : ConnectionSetting.ofMap (map.insert "timestamp" (.word64 time)) =
      .ok { base with timestamp := time } := by
  have hOther : ∀ key, "timestamp" ≠ key →
      (map.insert "timestamp" (.word64 time)).get? key = map.get? key := fun key hNe => by
    rw [Dict.get?_insert, if_neg hNe]
  have hTime : (map.insert "timestamp" (.word64 time)).get? "timestamp" = some (.word64 time) := by
    rw [Dict.get?_insert, if_pos rfl]
  unfold ConnectionSetting.ofMap at h ⊢
  rw [hOther "id" (by decide), hOther "uuid" (by decide), hOther "type" (by decide),
    hOther "autoconnect" (by decide), hOther "read-only" (by decide), hTime]
  dsimp only at h ⊢
  -- the properties that can be wrong are those that they were
  split at h
  · cases h
  · split at h
    · cases h
    · rename_i hId
      rw [if_neg hId]
      split at h
      · cases h
      · split at h
        · cases h
        · rename_i hUuid
          rw [if_neg hUuid]
          split at h
          · cases h
          · split at h
            · cases h
            · rename_i hKind
              rw [if_neg hKind]
              cases h
              rfl

theorem Verified.setTimestamp (h : c.Verified) (time : UInt64) : (c.setTimestamp time).Verified := by
  obtain ⟨⟨map, hFound, hView⟩, hKind, hEach⟩ := verify_eq_ok_iff.mp h
  have hView' := ofMap_insert_timestamp hView time
  unfold Verified Connection.setTimestamp
  rw [hFound]
  refine verify_eq_ok_iff.mpr ⟨⟨_, by rw [Dict.get?_insert, if_pos rfl], hView'⟩, ?_, ?_⟩
  · show (Dict.get? _ c.base.kind).isSome = true
    rw [Dict.get?_insert]
    split
    · rfl
    · exact hKind
  · intro name other hOther
    rw [Dict.get?_insert] at hOther
    split at hOther
    · rename_i hName
      cases hOther
      unfold verifySetting
      rw [if_pos hName.symm, hView']
      rfl
    · exact hEach name other hOther

-- ---------------------------------------------------------------------------
-- Edits
-- ---------------------------------------------------------------------------

/-- A change of a connection. -/
inductive Edit where
  | replace (settings : Settings)
  | merge (setting : String) (secrets : Settings)
  | stamp (time : UInt64)

/-- What an edit makes of a connection, unless it fails. -/
def edited? (c : Connection) : Edit → Except SettingsError Connection
  | .replace settings => c.replaceSettings settings
  | .merge setting secrets => c.mergeSecrets setting secrets
  | .stamp time => .ok (c.setTimestamp time)

/-- An edit that succeeds leaves a verified connection, and one of the same scope. -/
theorem Verified.edited (h : c.Verified) {edit : Edit} (hEdited : c.edited? edit = .ok c') :
    c'.Verified ∧ c'.scope = c.scope := by
  cases edit with
  | replace settings => exact ofSettings_verified hEdited
  | merge setting secrets =>
    obtain ⟨merged, hMerged⟩ := mergeSecrets_eq_ok hEdited
    exact ofSettings_verified hMerged
  | stamp time =>
    cases hEdited
    exact ⟨h.setTimestamp time, rfl⟩

/-- Changes of a connection in place. What was stored before a failure stays stored. -/
abbrev InPlace : Type → Type := ExceptT SettingsError (StateM Connection)

/-- Verifies settings, and takes over the view and the settings one after the other. -/
def replaceInPlace (settings : Settings) : InPlace Unit := do
  let base ← liftExcept (verify settings)
  modify fun c => { c with base }
  modify fun c => { c with settings }

/-- Merges secrets into a copy of the settings, which then takes their place. -/
def mergeInPlace (setting : String) (secrets : Settings) : InPlace Unit := do
  if secrets.isEmpty then throw .noSecrets
  match secrets.get? setting with
  | none => throw (.invalidSecrets setting)
  | some map =>
    match withSecrets? (← get).settings setting map with
    | none => throw (.invalidSecrets setting)
    | some merged => replaceInPlace merged

/-- Writes the time of the last use into the setting `connection`, and then into its view. -/
def stampInPlace (time : UInt64) : InPlace Unit := do
  modify fun c => { c with settings := (c.setTimestamp time).settings }
  modify fun c => { c with base := { c.base with timestamp := time } }

/-- The edits in place. -/
def Edit.inPlace : Edit → InPlace Unit
  | replace settings => replaceInPlace settings
  | merge setting secrets => mergeInPlace setting secrets
  | stamp time => stampInPlace time

/-- Performs an edit in place: how it ended, and the connection that is there afterwards. -/
def perform (c : Connection) (edit : Edit) : Except SettingsError Unit × Connection :=
  edit.inPlace.run.run c

/-- The connection after several edits in place, of which any may have failed. -/
def performAll (c : Connection) (edits : List Edit) : Connection :=
  edits.foldl (fun c edit => (c.perform edit).2) c

/-- Settings are stored only after they were verified. -/
theorem replaceInPlace_eq (c : Connection) (settings : Settings) :
    (replaceInPlace settings).run.run c = match c.replaceSettings settings with
      | .ok c' => (.ok (), c')
      | .error e => (.error e, c) := by
  unfold replaceInPlace replaceSettings ofSettings
  cases verify settings <;> rfl

/-- Secrets are merged beside the connection, so that only the verified settings are stored. -/
theorem mergeInPlace_eq (c : Connection) (setting : String) (secrets : Settings) :
    (mergeInPlace setting secrets).run.run c = match c.mergeSecrets setting secrets with
      | .ok c' => (.ok (), c')
      | .error e => (.error e, c) := by
  unfold mergeInPlace mergeSecrets
  cases secrets.isEmpty with
  | true => rfl
  | false =>
    cases secrets.get? setting with
    | none => rfl
    | some map =>
      show ((match withSecrets? c.settings setting map with
        | none => throw (.invalidSecrets setting)
        | some merged => replaceInPlace merged : InPlace Unit)).run.run c =
        match (match withSecrets? c.settings setting map with
          | none => Except.error (SettingsError.invalidSecrets setting)
          | some merged => c.replaceSettings merged) with
        | .ok c' => (.ok (), c')
        | .error e => (.error e, c)
      cases withSecrets? c.settings setting map with
      | none => rfl
      | some merged => exact replaceInPlace_eq c merged

/-- An edit in place ends as the edit of the whole does, and stores nothing if that fails. -/
theorem perform_eq (c : Connection) (edit : Edit) :
    c.perform edit = match c.edited? edit with
      | .ok c' => (.ok (), c')
      | .error e => (.error e, c) := by
  cases edit with
  | replace settings => exact replaceInPlace_eq c settings
  | merge setting secrets => exact mergeInPlace_eq c setting secrets
  | stamp time => rfl

-- ---------------------------------------------------------------------------
-- Connections stay verified
-- ---------------------------------------------------------------------------

/-- An edit keeps a connection verified, whether it fails or not. -/
theorem Verified.perform (h : c.Verified) (edit : Edit) :
    (c.perform edit).2.Verified ∧ (c.perform edit).2.scope = c.scope := by
  rw [perform_eq]
  cases hEdited : c.edited? edit with
  | ok c' => exact h.edited hEdited
  | error e => exact ⟨h, rfl⟩

/-- An edit that fails leaves the connection that was there. -/
theorem perform_of_error {edit : Edit} {e : SettingsError} (h : (c.perform edit).1 = .error e) :
    (c.perform edit).2 = c := by
  rw [perform_eq] at h ⊢
  cases hEdited : c.edited? edit with
  | ok c' =>
    rw [hEdited] at h
    cases h
  | error e => rfl

theorem Verified.performAll (h : c.Verified) (edits : List Edit) :
    (c.performAll edits).Verified ∧ (c.performAll edits).scope = c.scope := by
  induction edits generalizing c with
  | nil => exact ⟨h, rfl⟩
  | cons edit edits ih =>
    obtain ⟨hOne, hScope⟩ := h.perform edit
    obtain ⟨hAll, hScopes⟩ := ih hOne
    exact ⟨hAll, hScopes.trans hScope⟩

/-- After any edits the settings of a connection are acceptable, the view that is kept beside them
is the one that they have, also as the setting `connection` alone has it, and the scope is the one
that the connection began with. An edit that fails now leaves all of the connection as it is. -/
theorem run_verified {scope : Scope} (h : ofSettings scope settings = .ok c) (edits : List Edit) :
    let c' := c.performAll edits
    verify c'.settings = .ok c'.base ∧
      (∃ map, c'.setting? connectionSettingName = some map ∧
        ConnectionSetting.ofMap map = .ok c'.base) ∧
      c'.scope = scope ∧
      ∀ edit e, (c'.perform edit).1 = .error e → (c'.perform edit).2 = c' := by
  intro c'
  obtain ⟨hNew, hScope⟩ := ofSettings_verified h
  obtain ⟨hVerified, hSame⟩ := hNew.performAll edits
  exact ⟨hVerified, (verify_eq_ok_iff.mp hVerified).1, hSame.trans hScope,
    fun _ _ hError => perform_of_error hError⟩

namespace Badges

/-- The view of the setting `connection` of a reader for badges. -/
def view : ConnectionSetting :=
  { id := "badges", uuid := "3f2504e0-4f89-11d3-9a0c-0305e82c3301", kind := "hidraw"
    autoconnect := true, timestamp := 7, readOnly := false }

def written : Settings :=
  Dict.ofList
    [("connection", Dict.ofList
       [("id", .text view.id), ("uuid", .text view.uuid), ("type", .text view.kind),
        ("timestamp", .word64 view.timestamp)]),
     ("hidraw", Dict.ofList [])]

def connection : Connection := { scope := .user, settings := written, base := view }

/-- A PIN for a setting that the connection does not have. -/
def pin : Edit :=
  .merge "bluetooth" (Dict.ofList [("bluetooth", Dict.ofList [("pin", .text "1234")])])

end Badges

/-- The connection was used, and the PIN that it then gets does not make up a setting. -/
theorem verified_badges :
    ofSettings .user Badges.written = .ok Badges.connection ∧
      let c' := Badges.connection.performAll [.stamp 8, Badges.pin]
      c'.timestamp = 8 ∧
      (c'.perform Badges.pin).1 = .error (.missingProperty "bluetooth" "bdaddr") ∧
      verify c'.settings = .ok c'.base ∧
        (∃ map, c'.setting? connectionSettingName = some map ∧
          ConnectionSetting.ofMap map = .ok c'.base) ∧
        c'.scope = .user ∧
        ∀ edit e, (c'.perform edit).1 = .error e → (c'.perform edit).2 = c' :=
  have hNew : ofSettings .user Badges.written = .ok Badges.connection := rfl
  ⟨hNew, by decide +kernel, rfl, run_verified hNew [.stamp 8, Badges.pin]⟩

end Connection

end ScannerHub
