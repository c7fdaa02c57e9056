import ScannerHub.Device.Hardware
import ScannerHub.Proofs.Text.Numeral
import ScannerHub.Proofs.Text.Pieces

/-!
# Written addresses

An address comes as text or as six bytes. What a text has to look like is said here by a grammar, which
also says which bytes it writes; everything that reads addresses is compared with it.

* `Groups`, `Writes` — the texts that are addresses, and the six bytes that each writes;
* `Agrees` — all that reads a text as an address reads the same six bytes, or none.

## Results

* `canonical?_eq_some_iff`, `bytes?_eq_some_iff` — what is made of the texts that are addresses;
* `ofBytes?_writes` — the written form of six bytes writes them;
* `check_bluetooth` — a connection meets a device exactly if the device was created from its bytes;
* `texts_agree` — texts and bytes agree.
-/

namespace ScannerHub.Address

variable {cs : List Char} {bs : List UInt8} {text other : String} {bytes : List UInt8}

-- ---------------------------------------------------------------------------
-- Grammar
-- ---------------------------------------------------------------------------

/-- Groups of two hexadecimal digits, of either case, with a colon or a hyphen between any two of them, and
the bytes that they write. -/
inductive Groups : List Char → List UInt8 → Prop
  | last {a b : Char} {x y : Nat} (hHigh : hexDigit? a = some x) (hLow : hexDigit? b = some y) :
      Groups [a, b] [UInt8.ofNat (16 * x + y)]
  | more {a b s : Char} {x y : Nat} {cs : List Char} {bs : List UInt8} (hHigh : hexDigit? a = some x)
      (hLow : hexDigit? b = some y) (hBetween : s = ':' ∨ s = '-') (hRest : Groups cs bs) :
      Groups (a :: b :: s :: cs) (UInt8.ofNat (16 * x + y) :: bs)

/-- A text is the address of six bytes: six groups, and nothing but blanks around them. -/
def Writes (text : String) (bytes : List UInt8) : Prop :=
  ∃ before groups after, text.toList = before ++ groups ++ after ∧
    (∀ c ∈ before, isBlank c = true) ∧ (∀ c ∈ after, isBlank c = true) ∧
    Groups groups bytes ∧ bytes.length = 6

theorem Groups.ne_nil (h : Groups cs bs) : bs ≠ [] := by
  cases h <;> exact List.cons_ne_nil _ _

theorem Groups.isBlank_eq_false (h : Groups cs bs) : ∀ c ∈ cs, isBlank c = false := by
  have hDigit {c : Char} {x : Nat} (hc : hexDigit? c = some x) : isBlank c = false :=
    forall_hexDigit? (P := fun c _ => isBlank c = false) (by decide +kernel) hc
  have hSeparator {s : Char} (hs : s = ':' ∨ s = '-') : isBlank s = false := by
    rcases hs with rfl | rfl <;> decide
  induction h with
  | last hHigh hLow => simp [hDigit hHigh, hDigit hLow]
  | more hHigh hLow hBetween _ ih =>
    simpa [hDigit hHigh, hDigit hLow, hSeparator hBetween] using ih

/-- The groups of an address are what is left when its blanks are trimmed. -/
theorem writes_iff : Writes text bytes ↔ Groups (trimBlank text.toList) bytes ∧ bytes.length = 6 := by
  constructor
  · rintro ⟨before, groups, after, hText, hBefore, hAfter, hGroups, hSix⟩
    rw [hText, trimBlank_eq hBefore hAfter hGroups.isBlank_eq_false]
    exact ⟨hGroups, hSix⟩
  · rintro ⟨hGroups, hSix⟩
    obtain ⟨before, after, hText, hBefore, hAfter⟩ := exists_trimBlank text.toList
    exact ⟨before, _, after, hText, hBefore, hAfter, hGroups, hSix⟩

/-- The check for groups follows the grammar. -/
theorem isGroups_iff (n : Nat) (cs : List Char) :
    isGroups n cs = true ↔ ∃ bs, Groups cs bs ∧ bs.length = n + 1 := by
  constructor
  · intro h
    fun_induction isGroups n cs with
    | case1 a b =>
      rw [Bool.and_eq_true, Option.isSome_iff_exists, Option.isSome_iff_exists] at h
      obtain ⟨⟨x, hHigh⟩, y, hLow⟩ := h
      exact ⟨_, .last hHigh hLow, rfl⟩
    | case2 n a b s rest ih =>
      simp only [Bool.and_eq_true, Bool.or_eq_true, beq_iff_eq, Option.isSome_iff_exists] at h
      obtain ⟨⟨⟨⟨x, hHigh⟩, y, hLow⟩, hBetween⟩, hRest⟩ := h
      obtain ⟨bs, hGroups, hLength⟩ := ih hRest
      exact ⟨_, .more hHigh hLow hBetween hGroups, congrArg (· + 1) hLength⟩
    | case3 => cases h
  · rintro ⟨bs, hGroups, hLength⟩
    induction hGroups generalizing n with
    | last hHigh hLow =>
      obtain rfl : n = 0 := by simpa using hLength.symm
      simp [isGroups, hHigh, hLow]
    | more hHigh hLow hBetween hRest ih =>
      cases n with
      | zero => exact absurd (List.length_eq_zero_iff.mp (Nat.succ.inj hLength)) hRest.ne_nil
      | succ n => simpa [isGroups, hHigh, hLow, hBetween] using ih n (Nat.succ.inj hLength)

-- ---------------------------------------------------------------------------
-- Groups and bytes
-- ---------------------------------------------------------------------------

theorem byteDigits_ofNat {x y : Nat} (hx : x < 16) (hy : y < 16) :
    byteDigits (UInt8.ofNat (16 * x + y)) = [hexDigit x, hexDigit y] := by
  have hByte : (UInt8.ofNat (16 * x + y)).toNat = 16 * x + y := by
    rw [UInt8.toNat_ofNat']
    omega
  unfold byteDigits
  rw [hByte, show (16 * x + y) / 16 = x by omega, show (16 * x + y) % 16 = y by omega]

theorem byteOfDigits?_byteDigits (b : UInt8) : byteOfDigits? (byteDigits b) = some b := by
  have hByte := b.toNat_lt
  simp only [byteDigits, byteOfDigits?, hexDigit?_hexDigit (show b.toNat / 16 < 16 by omega),
    hexDigit?_hexDigit (show b.toNat % 16 < 16 by omega), Option.bind_some, Option.map_some,
    Nat.div_add_mod, UInt8.ofNat_toNat]

theorem groupsOfBytes_cons (b : UInt8) (h : bs ≠ []) :
    groupsOfBytes (b :: bs) = byteDigits b ++ ':' :: groupsOfBytes bs := by
  cases bs with
  | nil => exact absurd rfl h
  | cons c bs => rfl

theorem groupsOfBytes_eq (bs : List UInt8) :
    groupsOfBytes bs = [':'].intercalate (bs.map byteDigits) := by
  induction bs with
  | nil => rfl
  | cons b bs ih =>
    cases bs with
    | nil => exact (List.intercalate_singleton).symm
    | cons c bs =>
      rw [groupsOfBytes_cons b (List.cons_ne_nil c bs), ih]
      simp only [List.map_cons, List.intercalate_cons_cons, List.append_assoc, List.singleton_append]

/-- The canonical form of groups is the written form of their bytes. -/
theorem Groups.map_canonicalChar (h : Groups cs bs) : cs.map canonicalChar = groupsOfBytes bs := by
  have hDigit {c : Char} {x : Nat} (hc : hexDigit? c = some x) : canonicalChar c = hexDigit x :=
    forall_hexDigit? (P := fun c x => canonicalChar c = hexDigit x) (by decide +kernel) hc
  have hSeparator {s : Char} (hs : s = ':' ∨ s = '-') : canonicalChar s = ':' := by
    rcases hs with rfl | rfl <;> decide
  induction h with
  | last hHigh hLow =>
    rw [groupsOfBytes, byteDigits_ofNat (hexDigit?_lt hHigh) (hexDigit?_lt hLow), List.map_cons,
      List.map_singleton, hDigit hHigh, hDigit hLow]
  | more hHigh hLow hBetween hRest ih =>
    rw [groupsOfBytes_cons _ hRest.ne_nil, byteDigits_ofNat (hexDigit?_lt hHigh) (hexDigit?_lt hLow),
      List.map_cons, List.map_cons, List.map_cons, hDigit hHigh, hDigit hLow, hSeparator hBetween, ih]
    rfl

/-- The written form of bytes are groups that write them. -/
theorem groups_groupsOfBytes (h : bs ≠ []) : Groups (groupsOfBytes bs) bs := by
  have hDigits (b : UInt8) : hexDigit? (hexDigit (b.toNat / 16)) = some (b.toNat / 16) ∧
      hexDigit? (hexDigit (b.toNat % 16)) = some (b.toNat % 16) := by
    have hByte := b.toNat_lt
    exact ⟨hexDigit?_hexDigit (by omega), hexDigit?_hexDigit (by omega)⟩
  have hByte (b : UInt8) : UInt8.ofNat (16 * (b.toNat / 16) + b.toNat % 16) = b := by
    rw [Nat.div_add_mod, UInt8.ofNat_toNat]
  induction bs with
  | nil => exact absurd rfl h
  | cons b bs ih =>
    by_cases hLast : bs = []
    · have hGroup := Groups.last (hDigits b).1 (hDigits b).2
      rw [hByte] at hGroup
      rwa [hLast]
    · have hGroup := Groups.more (hDigits b).1 (hDigits b).2 (Or.inl rfl) (ih hLast)
      rw [hByte] at hGroup
      rwa [groupsOfBytes_cons b hLast]

/-- The written form of bytes is read as these bytes. -/
theorem mapM_pieces (h : bs ≠ []) :
    (pieces (· == ':') (groupsOfBytes bs)).mapM byteOfDigits? = some bs := by
  have hFree : ∀ p ∈ bs.map byteDigits, ∀ c ∈ p, (c == ':') = false := by
    have hDigit : ∀ n : Fin 16, (hexDigit n == ':') = false := by decide
    intro p hp c hc
    obtain ⟨b, -, rfl⟩ := List.mem_map.mp hp
    have hByte := b.toNat_lt
    obtain rfl | rfl : c = hexDigit (b.toNat / 16) ∨ c = hexDigit (b.toNat % 16) := by
      simpa [byteDigits] using hc
    · exact hDigit ⟨b.toNat / 16, by omega⟩
    · exact hDigit ⟨b.toNat % 16, by omega⟩
  rw [groupsOfBytes_eq, pieces_intercalate rfl (by simpa using h) hFree]
  clear h hFree
  induction bs with
  | nil => rfl
  | cons b bs ih =>
    rw [List.map_cons, List.mapM_cons, byteOfDigits?_byteDigits, ih]
    rfl

-- ---------------------------------------------------------------------------
-- What is made of an address
-- ---------------------------------------------------------------------------

theorem ofBytes?_eq_some_iff {written : String} : ofBytes? bytes = some written ↔
    bytes.length = 6 ∧ String.ofList (groupsOfBytes bytes) = written := by
  unfold ofBytes?
  split
  case isTrue hSix => simp [hSix]
  case isFalse hOther => simp [hOther]

theorem ofBytes?_of_six (hSix : bytes.length = 6) :
    ofBytes? bytes = some (String.ofList (groupsOfBytes bytes)) :=
  ofBytes?_eq_some_iff.mpr ⟨hSix, rfl⟩

/-- Six bytes are read from their groups. -/
theorem bytes_of_groups (hSix : bytes.length = 6) :
    (pieces (· == ':') (groupsOfBytes bytes)).mapM byteOfDigits? = some bytes :=
  mapM_pieces (List.ne_nil_of_length_eq_add_one hSix)

/-- The canonical form of an address is the written form of its bytes. -/
theorem canonical?_eq_some_iff {written : String} : canonical? text = some written ↔
    ∃ bytes, Writes text bytes ∧ ofBytes? bytes = some written := by
  have hEq : canonical? text = if isGroups 5 (trimBlank text.toList) = true
      then some (String.ofList ((trimBlank text.toList).map canonicalChar)) else none := rfl
  rw [hEq]
  constructor
  · intro h
    obtain ⟨hCheck, hWritten⟩ := Option.ite_none_right_eq_some.mp h
    obtain ⟨bytes, hGroups, hSix⟩ := (isGroups_iff 5 _).mp hCheck
    rw [hGroups.map_canonicalChar] at hWritten
    exact ⟨bytes, writes_iff.mpr ⟨hGroups, hSix⟩, ofBytes?_eq_some_iff.mpr ⟨hSix, Option.some.inj hWritten⟩⟩
  · rintro ⟨bytes, hWrites, hWritten⟩
    obtain ⟨hGroups, hSix⟩ := writes_iff.mp hWrites
    rw [if_pos ((isGroups_iff 5 _).mpr ⟨bytes, hGroups, hSix⟩), hGroups.map_canonicalChar,
      (ofBytes?_eq_some_iff.mp hWritten).2]

/-- An address is read as the bytes that it writes. -/
theorem bytes?_eq_some_iff : bytes? text = some bytes ↔ Writes text bytes := by
  unfold bytes?
  rw [Option.bind_eq_some_iff]
  constructor
  · rintro ⟨written, hCanonical, hRead⟩
    obtain ⟨bs, hWrites, hWritten⟩ := canonical?_eq_some_iff.mp hCanonical
    obtain ⟨hSix, rfl⟩ := ofBytes?_eq_some_iff.mp hWritten
    rw [String.toList_ofList, bytes_of_groups hSix] at hRead
    rwa [← Option.some.inj hRead]
  · intro hWrites
    have hSix := (writes_iff.mp hWrites).2
    refine ⟨_, canonical?_eq_some_iff.mpr ⟨bytes, hWrites, ofBytes?_of_six hSix⟩, ?_⟩
    rw [String.toList_ofList, bytes_of_groups hSix]

theorem Writes.unique {bytes' : List UInt8} (h : Writes text bytes) (h' : Writes text bytes') :
    bytes = bytes' :=
  Option.some.inj ((bytes?_eq_some_iff.mpr h).symm.trans (bytes?_eq_some_iff.mpr h'))

/-- The written form of six bytes writes them. -/
theorem ofBytes?_writes {written : String} (h : ofBytes? bytes = some written) : Writes written bytes := by
  obtain ⟨hSix, rfl⟩ := ofBytes?_eq_some_iff.mp h
  refine ⟨[], groupsOfBytes bytes, [], ?_, nofun, nofun,
    groups_groupsOfBytes (List.ne_nil_of_length_eq_add_one hSix), hSix⟩
  rw [String.toList_ofList, List.nil_append, List.append_nil]

/-- The canonical form of an address is that of its bytes. -/
theorem Writes.canonical?_eq (h : Writes text bytes) : canonical? text = ofBytes? bytes := by
  have hWritten := ofBytes?_of_six (writes_iff.mp h).2
  rw [hWritten]
  exact canonical?_eq_some_iff.mpr ⟨bytes, h, hWritten⟩

/-- Two texts name the same device if they are addresses of the same bytes. -/
theorem sameDevice_iff : sameDevice text other = true ↔
    ∃ bytes, bytes? text = some bytes ∧ bytes? other = some bytes := by
  have hSame : sameDevice text other = true ↔
      ∃ written, canonical? text = some written ∧ canonical? other = some written := by
    unfold sameDevice
    cases canonical? text with
    | none => simp
    | some t =>
      cases canonical? other with
      | none => simp
      | some o => exact ⟨fun h => ⟨o, congrArg some (beq_iff_eq.mp h), rfl⟩, fun ⟨w, ht, ho⟩ =>
          beq_iff_eq.mpr (Option.some.inj (ht.trans ho.symm))⟩
  rw [hSame]
  constructor
  · rintro ⟨written, hText, hOther⟩
    obtain ⟨bytes, hWrites, hWritten⟩ := canonical?_eq_some_iff.mp hText
    obtain ⟨bytes', hWrites', hWritten'⟩ := canonical?_eq_some_iff.mp hOther
    obtain rfl := (ofBytes?_writes hWritten).unique (ofBytes?_writes hWritten')
    exact ⟨bytes, bytes?_eq_some_iff.mpr hWrites, bytes?_eq_some_iff.mpr hWrites'⟩
  · rintro ⟨bytes, hText, hOther⟩
    have hWrites := bytes?_eq_some_iff.mp hText
    have hWritten := ofBytes?_of_six (writes_iff.mp hWrites).2
    exact ⟨_, canonical?_eq_some_iff.mpr ⟨bytes, hWrites, hWritten⟩,
      canonical?_eq_some_iff.mpr ⟨bytes, bytes?_eq_some_iff.mp hOther, hWritten⟩⟩

-- ---------------------------------------------------------------------------
-- Devices and connections
-- ---------------------------------------------------------------------------

/-- The bytes of the device that a bluetooth connection is bound to. -/
def boundTo? (c : Connection) : Option (List UInt8) :=
  ((c.setting? bluetoothSettingName).bind fun map => map.get? "bdaddr").bind SettingValue.bytes?

/-- A bluetooth connection is bound to six bytes, and its view has their written form. -/
theorem exists_boundTo? {c : Connection} {setting : BluetoothSetting}
    (h : c.bluetooth? = some (.ok setting)) :
    ∃ bytes, boundTo? c = some bytes ∧ ofBytes? bytes = some setting.address := by
  obtain ⟨map, hMap, hView⟩ := Option.map_eq_some_iff.mp h
  unfold boundTo?
  rw [hMap, Option.bind_some]
  unfold BluetoothSetting.ofMap at hView
  dsimp only at hView
  split at hView
  · cases hView
  rename_i bytes hBytes
  split at hView
  · cases hView
  rename_i address hAddress
  split at hView
  · cases hView
  split at hView
  · cases hView
  cases hView
  exact ⟨bytes, hBytes, hAddress⟩

/-- A device is created from an address, with its canonical form. -/
theorem ofAddress?_eq_some_iff {name : String} {profiles : FlagSet} {connectTimeout : Nat}
    {radio : BluetoothRadio} :
    BluetoothRadio.ofAddress? text name profiles connectTimeout = some radio ↔
      ∃ bytes written, bytes? text = some bytes ∧ ofBytes? bytes = some written ∧
        radio = { address := written, name, profiles, connectTimeout, link := .idle } := by
  unfold BluetoothRadio.ofAddress?
  rw [Option.map_eq_some_iff]
  constructor
  · rintro ⟨written, hCanonical, rfl⟩
    obtain ⟨bytes, hWrites, hWritten⟩ := canonical?_eq_some_iff.mp hCanonical
    exact ⟨bytes, written, bytes?_eq_some_iff.mpr hWrites, hWritten, rfl⟩
  · rintro ⟨bytes, written, hRead, hWritten, rfl⟩
    exact ⟨written, canonical?_eq_some_iff.mpr ⟨bytes, bytes?_eq_some_iff.mp hRead, hWritten⟩, rfl⟩

/-- The address of a connection is that of a device exactly if the device was created from a text that
writes the bytes of the connection. -/
theorem address_eq_iff {name : String} {profiles : FlagSet} {connectTimeout : Nat} {radio : BluetoothRadio}
    {c : Connection} {setting : BluetoothSetting}
    (hRadio : BluetoothRadio.ofAddress? text name profiles connectTimeout = some radio)
    (hSetting : c.bluetooth? = some (.ok setting)) (hBound : boundTo? c = some bytes) :
    setting.address = radio.address ↔ bytes? text = some bytes := by
  obtain ⟨bs, written, hRead, hWritten, rfl⟩ := ofAddress?_eq_some_iff.mp hRadio
  obtain ⟨bytes', hBound', hAddress⟩ := exists_boundTo? hSetting
  obtain rfl := Option.some.inj (hBound.symm.trans hBound')
  constructor
  · intro hSame
    rw [hSame] at hAddress
    rwa [(ofBytes?_writes hAddress).unique (ofBytes?_writes hWritten)]
  · intro hBytes
    obtain rfl := Option.some.inj (hBytes.symm.trans hRead)
    exact Option.some.inj (hAddress.symm.trans hWritten)

/-- Whether a bluetooth connection fits a device depends on the profile, and then on the bytes that the
device was created from. -/
theorem check_bluetooth {name : String} {profiles : FlagSet} {connectTimeout : Nat}
    {radio : BluetoothRadio} {c : Connection} {setting : BluetoothSetting} (identity : DeviceIdentity)
    (hRadio : BluetoothRadio.ofAddress? text name profiles connectTimeout = some radio)
    (hKind : c.kind = bluetoothSettingName) (hSetting : c.bluetooth? = some (.ok setting))
    (hBound : boundTo? c = some bytes) :
    Hardware.check identity (.bluetooth radio) c =
      if !profiles.contains setting.profile.required then .error .missingCapability
      else if bytes? text = some bytes then .ok () else .error .otherAddress := by
  have hProfiles : radio.profiles = profiles := by
    obtain ⟨_, _, -, -, rfl⟩ := ofAddress?_eq_some_iff.mp hRadio
    rfl
  have hCheck : Hardware.check identity (.bluetooth radio) c =
      if (!radio.profiles.contains setting.profile.required) = true then .error .missingCapability
      else if setting.address ≠ radio.address then .error .otherAddress else .ok () := by
    have hFits : ¬ c.kind ≠ (Hardware.bluetooth radio).settingName := not_not_intro hKind
    unfold Hardware.check Hardware.checkSetting
    rw [if_neg hFits, hSetting]
    rfl
  rw [hCheck, hProfiles]
  by_cases hMeets : bytes? text = some bytes
  · rw [if_neg (not_not_intro ((address_eq_iff hRadio hSetting hBound).mpr hMeets)), if_pos hMeets]
  · rw [if_pos (mt (address_eq_iff hRadio hSetting hBound).mp hMeets), if_neg hMeets]

-- ---------------------------------------------------------------------------
-- Every text
-- ---------------------------------------------------------------------------

/-- All that reads a text as an address reads the bytes that it writes, and nothing if it writes none. -/
structure Agrees (text : String) : Prop where
  canonical : (canonical? text).isSome = true ↔ ∃ bytes, Writes text bytes
  reads : ∀ bytes, bytes? text = some bytes ↔ Writes text bytes
  written : ∀ bytes, bytes? text = some bytes → canonical? text = ofBytes? bytes
  /-- The canonical form is its own. -/
  fixed : ∀ written, canonical? text = some written → canonical? written = some written
  same : ∀ other, sameDevice text other = true ↔
    ∃ bytes, bytes? text = some bytes ∧ bytes? other = some bytes
  /-- A device can be created from an address only. -/
  creates : ∀ name profiles connectTimeout,
    (BluetoothRadio.ofAddress? text name profiles connectTimeout).isSome = true ↔
      ∃ bytes, bytes? text = some bytes
  /-- The device is the one that a connection is bound to exactly if the text is read as the bytes of the
  connection. -/
  meets : ∀ name profiles connectTimeout radio,
    BluetoothRadio.ofAddress? text name profiles connectTimeout = some radio →
    ∀ (c : Connection) setting bytes, c.kind = bluetoothSettingName →
      c.bluetooth? = some (.ok setting) → boundTo? c = some bytes →
      (setting.address = radio.address ↔ bytes? text = some bytes) ∧
      ∀ identity, Hardware.check identity (.bluetooth radio) c =
        if !profiles.contains setting.profile.required then .error .missingCapability
        else if bytes? text = some bytes then .ok () else .error .otherAddress

/-- **Texts and bytes agree.** Of every text the same six bytes are read wherever it is read, or none; and
six bytes are read from the text that is written for them. -/
theorem texts_agree : (∀ text, Agrees text) ∧
    ∀ bytes, bytes.length = 6 → (ofBytes? bytes).bind bytes? = some bytes := by
  refine ⟨fun text => ?_, fun bytes hSix => ?_⟩
  · have hCanonical : (canonical? text).isSome = true ↔ ∃ bytes, Writes text bytes := by
      rw [Option.isSome_iff_exists]
      constructor
      · rintro ⟨written, h⟩
        obtain ⟨bytes, hWrites, -⟩ := canonical?_eq_some_iff.mp h
        exact ⟨bytes, hWrites⟩
      · rintro ⟨bytes, hWrites⟩
        exact ⟨_, hWrites.canonical?_eq.trans (ofBytes?_of_six (writes_iff.mp hWrites).2)⟩
    exact
      { canonical := hCanonical
        reads := fun bytes => bytes?_eq_some_iff
        written := fun bytes h => (bytes?_eq_some_iff.mp h).canonical?_eq
        fixed := fun written h => by
          obtain ⟨bytes, -, hWritten⟩ := canonical?_eq_some_iff.mp h
          rw [(ofBytes?_writes hWritten).canonical?_eq, hWritten]
        same := fun other => sameDevice_iff
        creates := fun name profiles connectTimeout => by
          unfold BluetoothRadio.ofAddress?
          rw [Option.isSome_map, hCanonical]
          exact exists_congr fun bytes => bytes?_eq_some_iff.symm
        meets := fun name profiles connectTimeout radio hRadio c setting bytes hKind hSetting hBound =>
          ⟨address_eq_iff hRadio hSetting hBound,
            fun identity => check_bluetooth identity hRadio hKind hSetting hBound⟩ }
  · have hWritten := ofBytes?_of_six hSix
    rw [hWritten, Option.bind_some]
    exact bytes?_eq_some_iff.mpr (ofBytes?_writes hWritten)

namespace Wristband

/-- An address in mixed writing, with blanks around it that are not ASCII. -/
def written : String := "\u3000aa-BB:cc-0d:Ee-fF\u00a0\n"

def octets : List UInt8 := [0xAA, 0xBB, 0xCC, 0x0D, 0xEE, 0xFF]

def setting : BluetoothSetting := { address := "AA:BB:CC:0D:EE:FF", profile := .dun, pin := none }

/-- A connection that dials the wristband. -/
def connection : Connection :=
  { scope := .system
    settings := Dict.ofList
      [("connection", Dict.ofList
         [("id", .text "wristband"), ("uuid", .text "3f2504e0-4f89-11d3-9a0c-0305e82c3301"),
          ("type", .text "bluetooth")]),
       ("bluetooth", Dict.ofList [("bdaddr", .bytes octets), ("type", .text "dun")])]
    base := { id := "wristband", uuid := "3f2504e0-4f89-11d3-9a0c-0305e82c3301", kind := "bluetooth"
              autoconnect := true, timestamp := 0, readOnly := false } }

def radio : BluetoothRadio :=
  { address := "AA:BB:CC:0D:EE:FF", name := "Wristband", profiles := .dun, connectTimeout := 30000
    link := .idle }

def identity : DeviceIdentity :=
  { udi := "/org/bluez/hci0/dev_AA_BB_CC_0D_EE_FF", interface := "bt0", driver := "bluez", index := none }

end Wristband

/-- A wristband is created from its written address, and the connection with its bytes fits it. -/
theorem texts_agree_wristband :
    Connection.ofSettings .system Wristband.connection.settings = .ok Wristband.connection ∧
      BluetoothRadio.ofAddress? Wristband.written "Wristband" .dun 30000 = some Wristband.radio ∧
      Wristband.connection.bluetooth? = some (.ok Wristband.setting) ∧
      bytes? Wristband.written = some Wristband.octets ∧
      Hardware.check Wristband.identity (.bluetooth Wristband.radio) Wristband.connection = .ok () ∧
      (ofBytes? Wristband.octets).bind bytes? = some Wristband.octets := by
  have hRadio : BluetoothRadio.ofAddress? Wristband.written "Wristband" .dun 30000 = some Wristband.radio := by
    decide +kernel
  have hSetting : Wristband.connection.bluetooth? = some (.ok Wristband.setting) := rfl
  have hRead : bytes? Wristband.written = some Wristband.octets := by decide +kernel
  have hMeets := ((texts_agree.1 Wristband.written).meets _ _ _ _ hRadio Wristband.connection _
    Wristband.octets rfl hSetting rfl).2 Wristband.identity
  rw [if_pos hRead] at hMeets
  exact ⟨rfl, hRadio, hSetting, hRead, hMeets, texts_agree.2 Wristband.octets rfl⟩

-- what only looks like a digit or like a colon is none
example : bytes? "\uff100:11:22:33:44:55" = none ∧ bytes? "00\uff1a11:22:33:44:55" = none := by decide +kernel

end ScannerHub.Address
