import Mathlib.Data.List.Nodup
import ScannerHub.Logging
import ScannerHub.Proofs.Text.Pieces

/-!
# A domain list as a set

The words of a domain list are looked at from left to right, up to the first that decides: `ALL`, or a word
that names no domain. Without such a word the list is a set. The order of its words, repeated words, the
case of letters and the separators make no difference to the set of directives, and each directive is
listed once.

With such words it depends on which of the two kinds comes first. An `ALL` in front hides the unknown
words behind it (`Hides`), and a list that hides them is taken as `ALL`, where the same words in another
order are refused.

* `HasWord`, `SameWords` — the words of a domain list, and lists with the same words;
* `Hides` — an `ALL` stands before the first unknown word;
* `directives`, `SameDirectives` — the directives of a filter, and outcomes with the same set of them.

## Results

* `sameWords_iff` — lists with the same words, by what the text is cut into;
* `domainTargets_eq` — the first word that decides, and what the words give by it;
* `directives_filterText` — the directives of a list of targets are just those put together;
* `filterDirectives_eq_all`, `filterDirectives_eq_error`, `filterDirectives_eq_targets` — the outcomes;
* `filterDirectives_set` — the same words give the same directives exactly if they hide alike, and an
  unknown word is refused exactly if it is not hidden.
-/

namespace ScannerHub.DomainList

-- ---------------------------------------------------------------------------
-- Words
-- ---------------------------------------------------------------------------

/-- The word stands for all domains. -/
def isAll (word : String) : Bool := sameIgnoringCase word "ALL"

/-- The targets of the domain that the word names. -/
def targets? (word : String) : Option (List String) :=
  (logDomains.find? fun d => sameIgnoringCase d.1 word).map Prod.snd

/-- The word is `ALL` or names a domain. -/
def isKnown (word : String) : Bool := isAll word || (targets? word).isSome

/-- The word decides what becomes of the whole list, whatever follows it. -/
def decides (word : String) : Bool := isAll word || (targets? word).isNone

/-- A word of a domain list: it stands between commas, spaces and the ends of the text. -/
def HasWord (domains word : String) : Prop :=
  IsWord (fun c => c == ',' || c == ' ') domains.toList word.toList

/-- Two domain lists with the same words up to order, repetition, the case of ASCII letters and the
separators between them. -/
def SameWords (a b : String) : Prop :=
  ∀ word, (∃ w, HasWord a w ∧ sameIgnoringCase w word = true) ↔
    ∃ w, HasWord b w ∧ sameIgnoringCase w word = true

def HasAll (domains : String) : Prop := ∃ w, HasWord domains w ∧ isAll w = true

def HasUnknown (domains : String) : Prop := ∃ w, HasWord domains w ∧ isKnown w = false

/-- An `ALL` stands before the first word that is neither `ALL` nor names a domain. -/
def Hides (domains : String) : Prop :=
  ∃ before all after, domainWords domains = before ++ all :: after ∧ isAll all = true ∧
    (∀ w ∈ before, isKnown w = true) ∧ ∃ w ∈ after, isKnown w = false

theorem mem_domainWords_iff {domains word : String} : word ∈ domainWords domains ↔ HasWord domains word := by
  unfold domainWords HasWord
  rw [List.mem_map, ← mem_tokens_iff]
  constructor
  · rintro ⟨cs, hcs, rfl⟩
    rwa [String.toList_ofList]
  · exact fun h => ⟨word.toList, h, String.ofList_toList⟩

-- What a word is does not depend on the case of its letters, nor then what a list has.

theorem sameIgnoringCase_iff {a b : String} :
    sameIgnoringCase a b = true ↔ a.toList.map Char.toLower = b.toList.map Char.toLower :=
  beq_iff_eq

theorem sameIgnoringCase_trans {a b c : String} (h : sameIgnoringCase a b = true)
    (h' : sameIgnoringCase b c = true) : sameIgnoringCase a c = true :=
  sameIgnoringCase_iff.mpr ((sameIgnoringCase_iff.mp h).trans (sameIgnoringCase_iff.mp h'))

theorem isAll_congr {a b : String} (h : sameIgnoringCase a b = true) : isAll a = isAll b := by
  unfold isAll sameIgnoringCase
  rw [sameIgnoringCase_iff.mp h]

theorem targets?_congr {a b : String} (h : sameIgnoringCase a b = true) : targets? a = targets? b := by
  unfold targets? sameIgnoringCase
  rw [sameIgnoringCase_iff.mp h]

theorem isKnown_congr {a b : String} (h : sameIgnoringCase a b = true) : isKnown a = isKnown b := by
  unfold isKnown
  rw [isAll_congr h, targets?_congr h]

namespace SameWords

variable {a b : String} {P : String → Prop}

theorem symm (h : SameWords a b) : SameWords b a := fun word => (h word).symm

/-- A word of the one list stands in the other, with letters of either case. -/
theorem exists_word (h : SameWords a b) {w : String} (hw : HasWord a w) :
    ∃ v, HasWord b v ∧ sameIgnoringCase v w = true :=
  (h w).mp ⟨w, hw, sameIgnoringCase_iff.mpr rfl⟩

/-- What is said of words whatever the case of their letters, is said of a word of both lists or of none. -/
theorem exists_iff (h : SameWords a b) (hCase : ∀ v w, sameIgnoringCase v w = true → (P v ↔ P w)) :
    (∃ w, HasWord a w ∧ P w) ↔ ∃ w, HasWord b w ∧ P w := by
  constructor
  · rintro ⟨w, hw, hP⟩
    obtain ⟨v, hv, hSame⟩ := h.exists_word hw
    exact ⟨v, hv, (hCase v w hSame).mpr hP⟩
  · rintro ⟨w, hw, hP⟩
    obtain ⟨v, hv, hSame⟩ := h.symm.exists_word hw
    exact ⟨v, hv, (hCase v w hSame).mpr hP⟩

theorem hasAll_iff (h : SameWords a b) : HasAll a ↔ HasAll b :=
  h.exists_iff fun _ _ hSame => by rw [isAll_congr hSame]

theorem hasUnknown_iff (h : SameWords a b) : HasUnknown a ↔ HasUnknown b :=
  h.exists_iff fun _ _ hSame => by rw [isKnown_congr hSame]

end SameWords

/-- Two lists have the same words if the words of each stand in the other. -/
theorem sameWords_iff {a b : String} : SameWords a b ↔
    (∀ w ∈ domainWords a, ∃ v ∈ domainWords b, sameIgnoringCase v w = true) ∧
      ∀ w ∈ domainWords b, ∃ v ∈ domainWords a, sameIgnoringCase v w = true := by
  simp only [mem_domainWords_iff]
  constructor
  · exact fun h => ⟨fun _ => h.exists_word, fun _ => h.symm.exists_word⟩
  · rintro ⟨hLeft, hRight⟩ word
    constructor
    · rintro ⟨w, hw, hSame⟩
      obtain ⟨v, hv, hSame'⟩ := hLeft w hw
      exact ⟨v, hv, sameIgnoringCase_trans hSame' hSame⟩
    · rintro ⟨w, hw, hSame⟩
      obtain ⟨v, hv, hSame'⟩ := hRight w hw
      exact ⟨v, hv, sameIgnoringCase_trans hSame' hSame⟩

instance (a b : String) : Decidable (SameWords a b) := decidable_of_iff' _ sameWords_iff

theorem hasAll_iff {domains : String} : HasAll domains ↔ ∃ w ∈ domainWords domains, isAll w = true := by
  simp only [HasAll, mem_domainWords_iff]

theorem hasUnknown_iff {domains : String} :
    HasUnknown domains ↔ ∃ w ∈ domainWords domains, isKnown w = false := by
  simp only [HasUnknown, mem_domainWords_iff]

instance (domains : String) : Decidable (HasUnknown domains) := decidable_of_iff' _ hasUnknown_iff

-- ---------------------------------------------------------------------------
-- Targets
-- ---------------------------------------------------------------------------

/-- Puts a target behind those found, unless it is among them. -/
def note (found : List String) (target : String) : List String :=
  if target ∈ found then found else found ++ [target]

/-- The targets of all words, each of them once. -/
def gather (words : List String) (found : List String) : List String :=
  (words.flatMap fun w => (targets? w).getD []).foldl note found

theorem mem_note {found : List String} {target t : String} : t ∈ note found target ↔ t ∈ found ∨ t = target := by
  unfold note
  split <;> simp_all

theorem nodup_note {found : List String} (target : String) (h : found.Nodup) : (note found target).Nodup := by
  unfold note
  split
  · exact h
  · next hNew => exact List.concat_eq_append ▸ h.concat hNew

theorem mem_foldl_note {targets found : List String} {t : String} :
    t ∈ targets.foldl note found ↔ t ∈ found ∨ t ∈ targets := by
  induction targets generalizing found with
  | nil => simp
  | cons target targets ih => rw [List.foldl_cons, ih, mem_note, List.mem_cons, or_assoc]

theorem nodup_foldl_note {found : List String} (targets : List String) (h : found.Nodup) :
    (targets.foldl note found).Nodup := by
  induction targets generalizing found with
  | nil => exact h
  | cons target targets ih => exact ih (nodup_note target h)

theorem mem_gather_nil {words : List String} {t : String} :
    t ∈ gather words [] ↔ ∃ w ∈ words, t ∈ (targets? w).getD [] := by
  unfold gather
  rw [mem_foldl_note, List.mem_flatMap]
  simp

/-- What a word does to the targets found before it. -/
theorem domainTargets_cons (found : List String) (word : String) (rest : List String) :
    domainTargets found (word :: rest) =
      if isAll word then .ok none
      else match targets? word with
        | none => .error (.invalidLoggingDomain word)
        | some targets => domainTargets (targets.foldl note found) rest := by
  rw [domainTargets]
  unfold isAll targets?
  cases logDomains.find? fun d => sameIgnoringCase d.1 word <;> rfl

/-- The first word that decides, and what the words give by it: all targets, or none because the word is
not known. Without such a word they give the targets of the domains that they name. -/
theorem domainTargets_eq (words found : List String) :
    domainTargets found words =
      match words.find? decides with
      | some word => if isAll word then .ok none else .error (.invalidLoggingDomain word)
      | none => .ok (some (gather words found)) := by
  induction words generalizing found with
  | nil => rfl
  | cons word rest ih =>
    rw [domainTargets_cons]
    by_cases hAll : isAll word = true
    · rw [if_pos hAll, List.find?_cons_of_pos (by simp [decides, hAll])]
      exact (if_pos hAll).symm
    rw [if_neg hAll]
    cases hTargets : targets? word with
    | none =>
      rw [List.find?_cons_of_pos (by simp [decides, hTargets])]
      exact (if_neg hAll).symm
    | some targets =>
      have hGather : gather (word :: rest) found = gather rest (targets.foldl note found) := by
        unfold gather
        rw [List.flatMap_cons, List.foldl_append, hTargets, Option.getD_some]
      rw [List.find?_cons_of_neg (by simp [decides, hAll, hTargets]), hGather]
      exact ih _

-- ---------------------------------------------------------------------------
-- Directives
-- ---------------------------------------------------------------------------

/-- The directives of a filter; commas set them apart. -/
def directives (filter : String) : List String := (pieces (· == ',') filter.toList).map String.ofList

/-- Two outcomes that are filters with the same set of directives, each of them listed once, or that are
both refusals. -/
inductive SameDirectives : Except Error String → Except Error String → Prop where
  | filters {f g : String} (left : (directives f).Nodup) (right : (directives g).Nodup)
      (same : ∀ d, d ∈ directives f ↔ d ∈ directives g) : SameDirectives (.ok f) (.ok g)
  | refusals (d e : Error) : SameDirectives (.error d) (.error e)

/-- The filter that lets all targets through at a level. -/
def allText (word : String) : String := s!"warn,barcode_manager={word}"

/-- The directive that sets the level of a target. -/
def directive (word target : String) : String := s!"barcode_manager::{target}={word}"

theorem directive_eq (word target : String) :
    directive word target = "barcode_manager::" ++ target ++ "=" ++ word := rfl

/-- The filter that lets the targets through at a level, and errors from all others. -/
def filterText (word : String) (targets : List String) : String :=
  ",".intercalate ("warn" :: "barcode_manager=error" :: targets.map (directive word))

/-- The targets and the words for levels are free of commas. -/
def Plain (text : String) : Prop := ∀ c ∈ text.toList, (c == ',') = false

-- by the characters of the text: there is also an instance that goes through all characters
instance : DecidablePred Plain := fun text => List.decidableBAll (fun c => (c == ',') = false) text.toList

theorem plain_of_logLevelWord? {level word : String} (h : logLevelWord? level = some word) : Plain word := by
  unfold logLevelWord? at h
  obtain ⟨l, hl, rfl⟩ := Option.map_eq_some_iff.mp h
  have hAll : ∀ l ∈ logLevels, Plain l.2 := by decide
  exact hAll l (List.mem_of_find?_eq_some hl)

theorem plain_of_mem_gather {words : List String} {t : String} (h : t ∈ gather words []) : Plain t := by
  obtain ⟨w, -, ht⟩ := mem_gather_nil.mp h
  have hAll : ∀ d ∈ logDomains, ∀ t ∈ d.2, Plain t := by decide
  cases hFind : logDomains.find? fun d => sameIgnoringCase d.1 w with
  | none => simp [targets?, hFind] at ht
  | some d => exact hAll d (List.mem_of_find?_eq_some hFind) t (by simpa [targets?, hFind] using ht)

theorem Plain.append {a b : String} (ha : Plain a) (hb : Plain b) : Plain (a ++ b) := fun c hc => by
  rw [String.toList_append] at hc
  exact (List.mem_append.mp hc).elim (ha c) (hb c)

theorem Plain.directive {word target : String} (hWord : Plain word) (hTarget : Plain target) :
    Plain (directive word target) :=
  (((show Plain "barcode_manager::" by decide).append hTarget).append
    (show Plain "=" by decide)).append hWord

/-- Directives that were put together are found again. -/
theorem directives_intercalate {ds : List String} (hSome : ds ≠ []) (hPlain : ∀ d ∈ ds, Plain d) :
    directives (",".intercalate ds) = ds := by
  unfold directives
  rw [String.toList_intercalate]
  have hCut : pieces (· == ',') ([','].intercalate (ds.map String.toList)) = ds.map String.toList :=
    pieces_intercalate rfl (by simpa using hSome) (by simpa [Plain] using hPlain)
  refine (congrArg (List.map String.ofList) hCut).trans ?_
  rw [List.map_map]
  exact (List.map_congr_left fun d _ => String.ofList_toList).trans (List.map_id ds)

theorem directives_allText {word : String} (hWord : Plain word) :
    directives (allText word) = ["warn", "barcode_manager=" ++ word] := by
  have hText : allText word = ",".intercalate ["warn", "barcode_manager=" ++ word] := by
    rw [String.intercalate_cons_cons, String.intercalate_singleton, ← String.append_assoc]
    rfl
  have hPlain : Plain ("barcode_manager=" ++ word) := Plain.append (by decide) hWord
  rw [hText]
  exact directives_intercalate (List.cons_ne_nil _ _)
    (List.forall_mem_cons.mpr ⟨by decide, List.forall_mem_singleton.mpr hPlain⟩)

theorem directives_filterText {word : String} {targets : List String} (hWord : Plain word)
    (hTargets : ∀ t ∈ targets, Plain t) :
    directives (filterText word targets) =
      "warn" :: "barcode_manager=error" :: targets.map (directive word) := by
  refine directives_intercalate (List.cons_ne_nil _ _)
    (List.forall_mem_cons.mpr ⟨by decide, List.forall_mem_cons.mpr ⟨by decide, ?_⟩⟩)
  exact List.forall_mem_map.mpr fun t ht => hWord.directive (hTargets t ht)

theorem nodup_directives_allText {word : String} (hWord : Plain word) : (directives (allText word)).Nodup := by
  have hWarn : "warn" ≠ "barcode_manager=" ++ word := fun h => by
    simpa using congrArg String.toList h
  rw [directives_allText hWord]
  simpa using hWarn

theorem directive_injective (word : String) : Function.Injective (directive word) := fun a b h => by
  simpa [directive_eq] using h

theorem nodup_directives_filterText {word : String} {targets : List String} (hWord : Plain word)
    (hTargets : ∀ t ∈ targets, Plain t) (hNodup : targets.Nodup) :
    (directives (filterText word targets)).Nodup := by
  have hWarn (t : String) : directive word t ≠ "warn" := fun h => by
    simpa [directive_eq] using congrArg String.toList h
  have hError (t : String) : directive word t ≠ "barcode_manager=error" := fun h => by
    simpa [directive_eq] using congrArg String.toList h
  rw [directives_filterText hWord hTargets, List.nodup_cons, List.nodup_cons]
  refine ⟨?_, ?_, hNodup.map (directive_injective word)⟩
  · simpa using fun t _ => hWarn t
  · simpa using fun t _ => hError t

-- ---------------------------------------------------------------------------
-- Outcomes
-- ---------------------------------------------------------------------------

variable {level word domains : String}

theorem decides_iff {w : String} : decides w = true ↔ isAll w = true ∨ isKnown w = false := by
  unfold decides isKnown
  cases isAll w <;> cases targets? w <;> simp

/-- The first word that decides is an `ALL` exactly if there is one with only known words before it. -/
theorem isAll_first_iff {words : List String} :
    (∃ all, words.find? decides = some all ∧ isAll all = true) ↔
      ∃ before all after, words = before ++ all :: after ∧ isAll all = true ∧
        ∀ w ∈ before, isKnown w = true := by
  constructor
  · rintro ⟨all, hFirst, hAll⟩
    obtain ⟨-, before, after, hWords, hBefore⟩ := List.find?_eq_some_iff_append.mp hFirst
    refine ⟨before, all, after, hWords, hAll, fun w hw => ?_⟩
    by_contra hUnknown
    have hDecides : decides w = true := decides_iff.mpr (.inr (Bool.eq_false_iff.mpr hUnknown))
    simpa [hDecides] using hBefore w hw
  · rintro ⟨before, all, after, rfl, hAll, hKnown⟩
    rw [List.find?_append]
    cases hFirst : before.find? decides with
    | none => exact ⟨all, List.find?_cons_of_pos (decides_iff.mpr (.inl hAll)), hAll⟩
    | some w =>
      have hw := decides_iff.mp (List.find?_some hFirst)
      rw [hKnown w (List.mem_of_find?_eq_some hFirst)] at hw
      exact ⟨w, rfl, hw.resolve_right nofun⟩

theorem Hides.hasUnknown (h : Hides domains) : HasUnknown domains := by
  obtain ⟨before, all, after, hWords, -, -, w, hw, hUnknown⟩ := h
  refine hasUnknown_iff.mpr ⟨w, ?_, hUnknown⟩
  rw [hWords]
  exact List.mem_append_right _ (List.mem_cons_of_mem all hw)

/-- The first word that decides is an `ALL` if one hides the unknown words or there are none. -/
theorem isAll_first_domainWords_iff :
    (∃ all, (domainWords domains).find? decides = some all ∧ isAll all = true) ↔
      Hides domains ∨ HasAll domains ∧ ¬ HasUnknown domains := by
  rw [isAll_first_iff, hasAll_iff, hasUnknown_iff]
  constructor
  · rintro ⟨before, all, after, hWords, hAll, hKnown⟩
    by_cases hHidden : ∃ w ∈ after, isKnown w = false
    · exact .inl ⟨before, all, after, hWords, hAll, hKnown, hHidden⟩
    · refine .inr ⟨⟨all, hWords ▸ List.mem_append_cons_self, hAll⟩, ?_⟩
      rw [hWords]
      rintro ⟨w, hw, hUnknown⟩
      rcases List.mem_append.mp hw with hw | hw
      · exact absurd (hKnown w hw) (by simp [hUnknown])
      rcases List.mem_cons.mp hw with rfl | hw
      · simp [isKnown, hAll] at hUnknown
      · exact hHidden ⟨w, hw, hUnknown⟩
  · rintro (⟨before, all, after, hWords, hAll, hKnown, -⟩ | ⟨⟨all, hMem, hAll⟩, hUnknown⟩)
    · exact ⟨before, all, after, hWords, hAll, hKnown⟩
    · obtain ⟨before, after, hWords⟩ := List.append_of_mem hMem
      refine ⟨before, all, after, hWords, hAll, fun w hw => ?_⟩
      by_contra hw'
      exact hUnknown ⟨w, hWords ▸ List.mem_append_left _ hw, Bool.eq_false_iff.mpr hw'⟩

theorem hides_iff : Hides domains ↔
    HasUnknown domains ∧ ((domainWords domains).find? decides).any isAll = true := by
  rw [Option.any_eq_true, isAll_first_domainWords_iff]
  exact ⟨fun h => ⟨h.hasUnknown, .inl h⟩, fun h => h.2.resolve_right fun hNone => hNone.2 h.1⟩

instance (domains : String) : Decidable (Hides domains) := decidable_of_iff' _ hides_iff

theorem filterDirectives_eq (hLevel : logLevelWord? level = some word) :
    filterDirectives level domains =
      match (domainWords domains).find? decides with
      | some w => if isAll w then .ok (allText word) else .error (.invalidLoggingDomain w)
      | none => .ok (filterText word (gather (domainWords domains) [])) := by
  unfold filterDirectives
  rw [hLevel, domainTargets_eq]
  cases (domainWords domains).find? decides with
  | none => rfl
  | some w =>
    dsimp only
    cases isAll w <;> rfl

/-- A list with an `ALL` stands for all targets if it hides its unknown words or has none. -/
theorem filterDirectives_eq_all (hLevel : logLevelWord? level = some word)
    (h : Hides domains ∨ HasAll domains ∧ ¬ HasUnknown domains) :
    filterDirectives level domains = .ok (allText word) := by
  obtain ⟨all, hFirst, hAll⟩ := isAll_first_domainWords_iff.mpr h
  rw [filterDirectives_eq hLevel, hFirst]
  exact if_pos hAll

/-- A list with an unknown word that is not hidden is refused for an unknown word. -/
theorem filterDirectives_eq_error (hLevel : logLevelWord? level = some word)
    (hUnknown : HasUnknown domains) (hShown : ¬ Hides domains) :
    ∃ w, HasWord domains w ∧ isKnown w = false ∧
      filterDirectives level domains = .error (.invalidLoggingDomain w) := by
  have hNot := (not_congr isAll_first_domainWords_iff).mpr fun h => h.elim hShown fun h => h.2 hUnknown
  rw [filterDirectives_eq hLevel]
  cases hFirst : (domainWords domains).find? decides with
  | none =>
    obtain ⟨w, hw, hw'⟩ := hasUnknown_iff.mp hUnknown
    exact absurd (decides_iff.mpr (.inr hw')) (List.find?_eq_none.mp hFirst w hw)
  | some w =>
    have hAll : ¬ isAll w = true := fun hAll => hNot ⟨w, hFirst, hAll⟩
    exact ⟨w, mem_domainWords_iff.mp (List.mem_of_find?_eq_some hFirst),
      (decides_iff.mp (List.find?_some hFirst)).resolve_left hAll, if_neg hAll⟩

/-- A list of domains only stands for their targets. -/
theorem filterDirectives_eq_targets (hLevel : logLevelWord? level = some word)
    (hAll : ¬ HasAll domains) (hUnknown : ¬ HasUnknown domains) :
    filterDirectives level domains = .ok (filterText word (gather (domainWords domains) [])) := by
  have hFirst : (domainWords domains).find? decides = none := by
    refine List.find?_eq_none.mpr fun w hw hDecides => ?_
    rcases decides_iff.mp hDecides with h | h
    · exact hAll (hasAll_iff.mpr ⟨w, hw, h⟩)
    · exact hUnknown (hasUnknown_iff.mpr ⟨w, hw, h⟩)
  rw [filterDirectives_eq hLevel, hFirst]

/-- An unknown level is refused whatever the domains. -/
theorem filterDirectives_eq_error_of_level (hLevel : logLevelWord? level = none) :
    filterDirectives level domains = .error (.invalidLoggingLevel level) := by
  unfold filterDirectives
  rw [hLevel]

-- ---------------------------------------------------------------------------
-- Sets
-- ---------------------------------------------------------------------------

/-- The same words gather the same targets. -/
theorem SameWords.mem_gather_iff {a b t : String} (h : SameWords a b) :
    t ∈ gather (domainWords a) [] ↔ t ∈ gather (domainWords b) [] := by
  simp only [mem_gather_nil, mem_domainWords_iff]
  exact h.exists_iff fun _ _ hSame => by rw [targets?_congr hSame]

theorem sameDirectives_allText (hLevel : logLevelWord? level = some word) :
    SameDirectives (.ok (allText word)) (.ok (allText word)) :=
  have hNodup := nodup_directives_allText (plain_of_logLevelWord? hLevel)
  .filters hNodup hNodup fun _ => Iff.rfl

/-- Lists of domains with the same words give the same directives, and each of them once. -/
theorem SameWords.sameDirectives_filterText {a b : String} (h : SameWords a b)
    (hLevel : logLevelWord? level = some word) :
    SameDirectives (.ok (filterText word (gather (domainWords a) [])))
      (.ok (filterText word (gather (domainWords b) []))) := by
  have hWord := plain_of_logLevelWord? hLevel
  have hPlain (domains : String) : ∀ t ∈ gather (domainWords domains) [], Plain t :=
    fun _ => plain_of_mem_gather
  have hNodup (domains : String) : (gather (domainWords domains) []).Nodup :=
    nodup_foldl_note _ List.nodup_nil
  refine .filters (nodup_directives_filterText hWord (hPlain a) (hNodup a))
    (nodup_directives_filterText hWord (hPlain b) (hNodup b)) fun d => ?_
  rw [directives_filterText hWord (hPlain a), directives_filterText hWord (hPlain b)]
  simp only [List.mem_cons, List.mem_map, h.mem_gather_iff]

/-- Lists with the same words have the same outcome exactly if they hide their unknown words alike. -/
theorem SameWords.sameDirectives_iff {a b : String} (h : SameWords a b)
    (hLevel : logLevelWord? level = some word) :
    SameDirectives (filterDirectives level a) (filterDirectives level b) ↔ (Hides a ↔ Hides b) := by
  by_cases hUnknown : HasUnknown a
  · -- an unknown word: what counts is whether it is hidden
    have hUnknown' := h.hasUnknown_iff.mp hUnknown
    by_cases hA : Hides a <;> by_cases hB : Hides b
    · rw [filterDirectives_eq_all hLevel (.inl hA), filterDirectives_eq_all hLevel (.inl hB)]
      exact iff_of_true (sameDirectives_allText hLevel) (iff_of_true hA hB)
    · obtain ⟨w, -, -, hError⟩ := filterDirectives_eq_error hLevel hUnknown' hB
      rw [filterDirectives_eq_all hLevel (.inl hA), hError]
      exact iff_of_false nofun fun hIff => hB (hIff.mp hA)
    · obtain ⟨w, -, -, hError⟩ := filterDirectives_eq_error hLevel hUnknown hA
      rw [filterDirectives_eq_all hLevel (.inl hB), hError]
      exact iff_of_false nofun fun hIff => hA (hIff.mpr hB)
    · obtain ⟨v, -, -, hErrorA⟩ := filterDirectives_eq_error hLevel hUnknown hA
      obtain ⟨w, -, -, hErrorB⟩ := filterDirectives_eq_error hLevel hUnknown' hB
      rw [hErrorA, hErrorB]
      exact iff_of_true (.refusals _ _) (iff_of_false hA hB)
  · -- only known words: what counts is whether one of them is `ALL`
    have hUnknown' := (not_congr h.hasUnknown_iff).mp hUnknown
    refine iff_of_true ?_
      (iff_of_false (mt Hides.hasUnknown hUnknown) (mt Hides.hasUnknown hUnknown'))
    by_cases hAll : HasAll a
    · rw [filterDirectives_eq_all hLevel (.inr ⟨hAll, hUnknown⟩),
        filterDirectives_eq_all hLevel (.inr ⟨h.hasAll_iff.mp hAll, hUnknown'⟩)]
      exact sameDirectives_allText hLevel
    · rw [filterDirectives_eq_targets hLevel hAll hUnknown,
        filterDirectives_eq_targets hLevel ((not_congr h.hasAll_iff).mp hAll) hUnknown']
      exact h.sameDirectives_filterText hLevel

/-- A list with an unknown word is refused exactly if the word is not hidden. -/
theorem refused_iff (hLevel : logLevelWord? level = some word) (hUnknown : HasUnknown domains) :
    (∃ e, filterDirectives level domains = .error e) ↔ ¬ Hides domains := by
  constructor
  · rintro ⟨e, hError⟩ hHides
    rw [filterDirectives_eq_all hLevel (.inl hHides)] at hError
    cases hError
  · intro hShown
    obtain ⟨w, -, -, hError⟩ := filterDirectives_eq_error hLevel hUnknown hShown
    exact ⟨_, hError⟩

/-- Whatever the level, two domain lists with the same words have the same outcome, the same set of
directives with each of them once or a refusal, exactly if both hide their unknown words or neither does;
and a list with an unknown word is refused exactly if it does not hide it. An unknown level is refused with
every list. -/
theorem filterDirectives_set (level : String) :
    (∀ a b, SameWords a b →
      (SameDirectives (filterDirectives level a) (filterDirectives level b) ↔
        ((logLevelWord? level).isSome = true → (Hides a ↔ Hides b)))) ∧
    ∀ domains, HasUnknown domains →
      ((∃ e, filterDirectives level domains = .error e) ↔
        ((logLevelWord? level).isSome = true → ¬ Hides domains)) := by
  cases hLevel : logLevelWord? level with
  | none =>
    simp only [filterDirectives_eq_error_of_level hLevel]
    exact ⟨fun _ _ _ => iff_of_true (.refusals _ _) nofun, fun _ _ => iff_of_true ⟨_, rfl⟩ nofun⟩
  | some word =>
    simp only [Option.isSome_some, forall_const]
    exact ⟨fun a b h => h.sameDirectives_iff hLevel, fun domains hUnknown => refused_iff hLevel hUnknown⟩

theorem filterDirectives_set_info :
    SameWords "bt,CORE" "Core BT,,bt" ∧
      SameDirectives (filterDirectives "info" "bt,CORE") (filterDirectives "info" "Core BT,,bt") ∧
      HasUnknown "WIFI,ALL" ∧ (∃ e, filterDirectives "info" "WIFI,ALL" = .error e) ∧
      ¬ ∃ e, filterDirectives "info" "ALL,WIFI" = .error e := by
  obtain ⟨hSet, hRefused⟩ := filterDirectives_set "info"
  have hWords : SameWords "bt,CORE" "Core BT,,bt" := by decide +kernel
  have hShown : HasUnknown "WIFI,ALL" ∧ ¬ Hides "WIFI,ALL" := by decide +kernel
  have hHidden : HasUnknown "ALL,WIFI" ∧ Hides "ALL,WIFI" := by decide +kernel
  have hLevel : (logLevelWord? "info").isSome = true := by decide +kernel
  exact ⟨hWords, (hSet _ _ hWords).mpr fun _ => by decide +kernel, hShown.1,
    (hRefused _ hShown.1).mpr fun _ => hShown.2, fun h => (hRefused _ hHidden.1).mp h hLevel hHidden.2⟩

/-- A list is not a set of words where an `ALL` hides an unknown word. -/
theorem not_set_all_wifi :
    SameWords "ALL,WIFI" "WIFI,ALL" ∧
      ¬ SameDirectives (filterDirectives "INFO" "ALL,WIFI") (filterDirectives "INFO" "WIFI,ALL") ∧
      HasUnknown "ALL,WIFI" ∧ filterDirectives "INFO" "ALL,WIFI" = .ok "warn,barcode_manager=info" := by
  have hTaken : filterDirectives "INFO" "ALL,WIFI" = .ok "warn,barcode_manager=info" := by decide +kernel
  have hRefused : filterDirectives "INFO" "WIFI,ALL" = .error (.invalidLoggingDomain "WIFI") := by
    decide +kernel
  refine ⟨by decide +kernel, ?_, by decide +kernel, hTaken⟩
  rw [hTaken, hRefused]
  exact nofun

end ScannerHub.DomainList
