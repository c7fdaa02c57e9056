import Mathlib.Data.List.TakeWhile
import ScannerHub.Text.Blank

/-!
# Pieces of a text

A text that was put together with separators between its pieces is cut into just these pieces, and blanks
that were put around a text are just what is trimmed from it. The words of a text are what stands in it
between separators.

* `IsWord` — a word of a text.

## Results

* `pieces_append_cons` — a text is cut at each separator;
* `pieces_intercalate` — cutting undoes putting together;
* `mem_tokens_iff` — the pieces that are not empty are the words;
* `trimBlank_eq`, `exists_trimBlank` — trimming undoes putting blanks around, and nothing else.
-/

namespace ScannerHub

variable {isSeparator : Char → Bool} {c : Char} {p rest core cs : List Char}

-- ---------------------------------------------------------------------------
-- Cutting
-- ---------------------------------------------------------------------------

theorem pieces_ne_nil (isSeparator : Char → Bool) (cs : List Char) : pieces isSeparator cs ≠ [] := by
  unfold pieces
  split
  · exact List.cons_ne_nil _ _
  · split
    · exact List.cons_ne_nil _ _
    · split <;> exact List.cons_ne_nil _ _

/-- A text without separators is one piece. -/
theorem pieces_eq_singleton (hFree : ∀ c ∈ p, isSeparator c = false) : pieces isSeparator p = [p] := by
  induction p with
  | nil => rfl
  | cons c p ih =>
    rw [pieces, if_neg (by simp [hFree c]), ih fun d hd => hFree d (List.mem_cons_of_mem c hd)]

/-- A text is cut at each separator. -/
theorem pieces_append_cons (hSeparator : isSeparator c = true) (p rest : List Char) :
    pieces isSeparator (p ++ c :: rest) = pieces isSeparator p ++ pieces isSeparator rest := by
  induction p with
  | nil => exact (pieces.eq_2 isSeparator c rest).trans (if_pos hSeparator)
  | cons d p ih =>
    rw [List.cons_append, pieces, ih]
    conv => rhs; rw [pieces]
    split
    · rfl
    · obtain ⟨q, qs, hPieces⟩ := List.exists_cons_of_ne_nil (pieces_ne_nil isSeparator p)
      rw [hPieces]
      rfl

/-- Pieces that were put together with separators between them are found again. -/
theorem pieces_intercalate (hSeparator : isSeparator c = true) {ps : List (List Char)} (hSome : ps ≠ [])
    (hFree : ∀ p ∈ ps, ∀ c ∈ p, isSeparator c = false) :
    pieces isSeparator ([c].intercalate ps) = ps := by
  induction ps with
  | nil => exact absurd rfl hSome
  | cons p ps ih =>
    have hFirst := hFree p List.mem_cons_self
    cases ps with
    | nil => rw [List.intercalate_singleton, pieces_eq_singleton hFirst]
    | cons q qs =>
      have hRest := ih (List.cons_ne_nil q qs) fun r hr => hFree r (List.mem_cons_of_mem p hr)
      rw [List.intercalate_cons_cons, List.append_assoc, List.singleton_append,
        pieces_append_cons hSeparator, pieces_eq_singleton hFirst, hRest]
      rfl

-- ---------------------------------------------------------------------------
-- Words
-- ---------------------------------------------------------------------------

/-- A piece of a text: it has no separators, and there is one on either side or the text ends there. -/
def IsPiece (isSeparator : Char → Bool) (cs p : List Char) : Prop :=
  (∀ c ∈ p, isSeparator c = false) ∧ ∃ before after, cs = before ++ p ++ after ∧
    (∀ c, before.getLast? = some c → isSeparator c = true) ∧
    ∀ c, after.head? = some c → isSeparator c = true

/-- A word of a text is a piece that is not empty. -/
def IsWord (isSeparator : Char → Bool) (cs p : List Char) : Prop := p ≠ [] ∧ IsPiece isSeparator cs p

theorem isPiece_of_mem_pieces (h : p ∈ pieces isSeparator cs) : IsPiece isSeparator cs p := by
  refine ⟨fun c hc => not_isSeparator_of_mem_pieces h hc, ?_⟩
  induction hLength : cs.length using Nat.strong_induction_on generalizing cs with
  | _ n ih =>
    subst hLength
    by_cases hFree : ∀ c ∈ cs, isSeparator c = false
    · rw [pieces_eq_singleton hFree] at h
      exact ⟨[], [], by simpa using (List.mem_singleton.mp h).symm, nofun, nofun⟩
    obtain ⟨c, hc, hSeparator⟩ : ∃ c ∈ cs, isSeparator c = true := by simpa using hFree
    obtain ⟨first, second, rfl⟩ := List.append_of_mem hc
    rw [pieces_append_cons hSeparator, List.mem_append] at h
    -- a piece of either side stands in the whole as it stands there
    rcases h with hFirst | hSecond
    · obtain ⟨before, after, rfl, hBefore, hAfter⟩ := ih _ (by simp) hFirst rfl
      refine ⟨before, after ++ c :: second, by simp, hBefore, fun d hd => ?_⟩
      cases after with
      | nil => exact Option.some.inj hd ▸ hSeparator
      | cons e after => exact hAfter d hd
    · obtain ⟨before, after, rfl, hBefore, hAfter⟩ := ih _ (by simp; omega) hSecond rfl
      refine ⟨first ++ c :: before, after, by simp, fun d hd => ?_, hAfter⟩
      rw [List.getLast?_append, List.getLast?_cons, Option.some_or] at hd
      cases hLast : before.getLast? with
      | none =>
        rw [hLast] at hd
        exact Option.some.inj hd ▸ hSeparator
      | some e =>
        rw [hLast] at hd
        exact hBefore d (hLast.trans hd)

theorem mem_pieces_of_isPiece (h : IsPiece isSeparator cs p) : p ∈ pieces isSeparator cs := by
  obtain ⟨hFree, before, after, rfl, hBefore, hAfter⟩ := h
  have hFirst : p ∈ pieces isSeparator (p ++ after) := by
    cases after with
    | nil => rw [List.append_nil, pieces_eq_singleton hFree]; exact List.mem_singleton_self p
    | cons c after =>
      rw [pieces_append_cons (hAfter c rfl), pieces_eq_singleton hFree]
      exact List.mem_append_left _ (List.mem_singleton_self p)
  rw [List.append_assoc]
  cases hLast : before.getLast? with
  | none =>
    rw [List.getLast?_eq_none_iff.mp hLast]
    exact hFirst
  | some c =>
    obtain ⟨earlier, rfl⟩ := List.getLast?_eq_some_iff.mp hLast
    rw [List.append_assoc, List.singleton_append, pieces_append_cons (hBefore c hLast)]
    exact List.mem_append_right _ hFirst

/-- The pieces that are not empty are the words. -/
theorem mem_tokens_iff : p ∈ tokens isSeparator cs ↔ IsWord isSeparator cs p := by
  unfold tokens IsWord
  rw [List.mem_filter, and_comm, Bool.not_eq_true', List.isEmpty_eq_false_iff]
  exact and_congr_right fun _ => ⟨isPiece_of_mem_pieces, mem_pieces_of_isPiece⟩

-- ---------------------------------------------------------------------------
-- Trimming
-- ---------------------------------------------------------------------------

/-- A text without blanks begins where it begins. -/
theorem dropWhile_isBlank_append {before : List Char} (hBefore : ∀ c ∈ before, isBlank c = true)
    (hCore : ∀ c ∈ core, isBlank c = false) : (before ++ core).dropWhile isBlank = core := by
  rw [List.dropWhile_append_of_pos hBefore]
  cases core with
  | nil => rfl
  | cons c core => rw [List.dropWhile_cons_of_neg (by simp [hCore c])]

/-- Blanks around a text that has none are trimmed from it. -/
theorem trimBlank_eq {before after : List Char} (hBefore : ∀ c ∈ before, isBlank c = true)
    (hAfter : ∀ c ∈ after, isBlank c = true) (hCore : ∀ c ∈ core, isBlank c = false) :
    trimBlank (before ++ core ++ after) = core := by
  cases core with
  | nil =>
    have hBlank : ∀ c ∈ before ++ [] ++ after, isBlank c = true := by
      simpa [or_imp, forall_and] using ⟨hBefore, hAfter⟩
    unfold trimBlank
    rw [List.dropWhile_eq_nil_iff.mpr hBlank]
    rfl
  | cons c core =>
    unfold trimBlank
    rw [List.append_assoc, List.dropWhile_append_of_pos hBefore, List.cons_append,
      List.dropWhile_cons_of_neg (by simp [hCore c]), ← List.cons_append, List.reverse_append,
      dropWhile_isBlank_append (by simpa using hAfter) fun d hd => hCore d (List.mem_reverse.mp hd),
      List.reverse_reverse]

/-- What is trimmed from a text are blanks around it. -/
theorem exists_trimBlank (cs : List Char) : ∃ before after,
    cs = before ++ trimBlank cs ++ after ∧ (∀ c ∈ before, isBlank c = true) ∧
      ∀ c ∈ after, isBlank c = true := by
  have hLeft := List.takeWhile_append_dropWhile (p := isBlank) (l := cs)
  have hRight := List.takeWhile_append_dropWhile (p := isBlank) (l := (cs.dropWhile isBlank).reverse)
  refine ⟨cs.takeWhile isBlank, ((cs.dropWhile isBlank).reverse.takeWhile isBlank).reverse, ?_,
    fun c hc => List.mem_takeWhile_imp hc, fun c hc => List.mem_takeWhile_imp (List.mem_reverse.mp hc)⟩
  unfold trimBlank
  rw [List.append_assoc, ← List.reverse_append, hRight, List.reverse_reverse, hLeft]

end ScannerHub
