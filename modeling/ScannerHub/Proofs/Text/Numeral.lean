import ScannerHub.Text.Numeral

/-!
# Numerals

A number is written in decimal digits without zeros in front. It is read as well with zeros in front, and
with a plus sign in front of those, but in no other way.

* `spelling` — the numeral of a number, behind a plus sign or not, and behind zeros.

## Results

* `forall_hexDigit?` — what all hexadecimal digits have in common is seen by looking at each;
* `decimal?_eq_some_iff` — the digits that are read as a number;
* `word32?_eq_some_iff` — the spellings of a number are all that is read as that number;
* `spelling_inj` — a text spells a number in one way only.
-/

namespace ScannerHub

variable {c : Char} {cs : List Char} {n v x : Nat}

/-- What holds of every ASCII character is seen by looking at each. -/
theorem forall_ascii {P : Char → Prop} (hAll : ∀ n : Fin 128, P (Char.ofNat n)) (h : c.toNat < 128) :
    P c := by
  have hc := hAll ⟨c.toNat, h⟩
  rwa [Char.ofNat_toNat] at hc

/-- A character up to an ASCII character is one. -/
theorem ascii_of_le (last : Char) (hLast : last.toNat < 128) (h : c ≤ last) : c.toNat < 128 :=
  Nat.lt_of_le_of_lt (UInt32.le_iff_toNat_le.mp h) hLast

-- ---------------------------------------------------------------------------
-- Hexadecimal digits
-- ---------------------------------------------------------------------------

theorem ascii_of_hexDigit? (h : hexDigit? c = some x) : c.toNat < 128 := by
  unfold hexDigit? at h
  split at h
  case isTrue hc => exact ascii_of_le '9' (by decide) hc.2
  split at h
  case isTrue hc => exact ascii_of_le 'f' (by decide) hc.2
  split at h
  case isTrue hc => exact ascii_of_le 'F' (by decide) hc.2
  case isFalse => cases h

/-- What all hexadecimal digits have in common is seen by looking at each. -/
theorem forall_hexDigit? {P : Char → Nat → Prop}
    (hAll : ∀ n : Fin 128, ∀ x ∈ hexDigit? (Char.ofNat n), P (Char.ofNat n) x)
    (h : hexDigit? c = some x) : P c x :=
  forall_ascii (P := fun c => ∀ x ∈ hexDigit? c, P c x) hAll (ascii_of_hexDigit? h) x h

theorem hexDigit?_lt (h : hexDigit? c = some x) : x < 16 :=
  forall_hexDigit? (P := fun _ x => x < 16) (by decide +kernel) h

-- ---------------------------------------------------------------------------
-- Decimal digits
-- ---------------------------------------------------------------------------

/-- A decimal digit is what is written for its value. -/
theorem digitChar_of_isDigit (h : c.isDigit = true) :
    c.toNat - '0'.toNat < 10 ∧ Nat.digitChar (c.toNat - '0'.toNat) = c := by
  have hAscii : c.toNat < 128 := by
    simp only [Char.isDigit, Bool.and_eq_true, decide_eq_true_eq] at h
    exact ascii_of_le '9' (by decide) h.2
  exact forall_ascii (P := fun c => c.isDigit = true →
    c.toNat - '0'.toNat < 10 ∧ Nat.digitChar (c.toNat - '0'.toNat) = c) (by decide +kernel) hAscii h

theorem decimalDigit?_eq_some_iff :
    decimalDigit? c = some x ↔ c.isDigit = true ∧ c.toNat - '0'.toNat = x := by
  unfold decimalDigit? Char.isDigit
  rw [Bool.and_eq_true, decide_eq_true_eq, decide_eq_true_eq]
  split
  case isTrue hc => exact ⟨fun h => ⟨hc, Option.some.inj h⟩, fun h => congrArg some h.2⟩
  case isFalse hc => exact ⟨nofun, fun h => absurd h.1 hc⟩

/-- Digits are read as the number that they stand for. -/
theorem decimalFrom?_eq_some_iff : decimalFrom? v cs = some n ↔
    (∀ c ∈ cs, c.isDigit = true) ∧ Nat.ofDigitChars 10 cs v = n := by
  induction cs generalizing v with
  | nil => simp [decimalFrom?]
  | cons c cs ih =>
    rw [decimalFrom?, Option.bind_eq_some_iff, Nat.ofDigitChars_cons, List.forall_mem_cons, Nat.mul_comm]
    constructor
    · rintro ⟨x, hx, hRest⟩
      obtain ⟨hDigit, rfl⟩ := decimalDigit?_eq_some_iff.mp hx
      obtain ⟨hDigits, hValue⟩ := ih.mp hRest
      exact ⟨⟨hDigit, hDigits⟩, hValue⟩
    · rintro ⟨⟨hDigit, hDigits⟩, hValue⟩
      exact ⟨_, decimalDigit?_eq_some_iff.mpr ⟨hDigit, rfl⟩, ih.mpr ⟨hDigits, hValue⟩⟩

/-- Digits behind a numeral that does not begin with a zero make another such numeral. -/
theorem toDigits_append (hv : 0 < v) (hDigits : ∀ c ∈ cs, c.isDigit = true) :
    Nat.toDigits 10 v ++ cs = Nat.toDigits 10 (Nat.ofDigitChars 10 cs v) := by
  induction cs generalizing v with
  | nil => exact List.append_nil _
  | cons c cs ih =>
    obtain ⟨hDigit, hDigits⟩ := List.forall_mem_cons.mp hDigits
    obtain ⟨hLt, hChar⟩ := digitChar_of_isDigit hDigit
    have hNext := Nat.toDigits_append_toDigits (b := 10) (by decide) hv hLt
    rw [Nat.toDigits_of_lt_base hLt, hChar] at hNext
    rw [Nat.ofDigitChars_cons, ← ih (by omega) hDigits, ← hNext, List.append_assoc, List.singleton_append]

/-- Digits are the numeral of their number behind zeros. -/
theorem exists_zeros (hSome : cs ≠ []) (hDigits : ∀ c ∈ cs, c.isDigit = true) :
    ∃ zeros, cs = List.replicate zeros '0' ++ Nat.toDigits 10 (Nat.ofDigitChars 10 cs 0) := by
  induction cs with
  | nil => exact absurd rfl hSome
  | cons c cs ih =>
    obtain ⟨hDigit, hDigits⟩ := List.forall_mem_cons.mp hDigits
    obtain ⟨hLt, hChar⟩ := digitChar_of_isDigit hDigit
    rw [Nat.ofDigitChars_cons, Nat.mul_zero, Nat.zero_add]
    by_cases hZero : c.toNat - '0'.toNat = 0
    · rw [hZero] at hChar ⊢
      by_cases hNil : cs = []
      · exact ⟨0, by rw [hNil, ← hChar]; rfl⟩
      · obtain ⟨zeros, hRest⟩ := ih hNil hDigits
        exact ⟨zeros + 1, by rw [List.replicate_succ, List.cons_append, ← hRest, ← hChar]; rfl⟩
    · have hAll := toDigits_append (Nat.pos_of_ne_zero hZero) hDigits
      rw [Nat.toDigits_of_lt_base hLt, hChar] at hAll
      exact ⟨0, hAll⟩

theorem isDigit_of_mem_zeros {zeros : Nat} (h : c ∈ List.replicate zeros '0' ++ Nat.toDigits 10 n) :
    c.isDigit = true := by
  rcases List.mem_append.mp h with hZero | hDigit
  · rw [List.eq_of_mem_replicate hZero]
    rfl
  · exact Nat.isDigit_of_mem_toDigits (by decide) (by decide) hDigit

theorem ofDigitChars_zeros (zeros n : Nat) :
    Nat.ofDigitChars 10 (List.replicate zeros '0' ++ Nat.toDigits 10 n) 0 = n := by
  rw [Nat.ofDigitChars_append, Nat.ofDigitChars_replicate_zero, Nat.mul_zero, Nat.ofDigitChars_ten_toDigits]

/-- What is read as a number is its numeral behind zeros. -/
theorem decimal?_eq_some_iff : decimal? cs = some n ↔
    ∃ zeros, cs = List.replicate zeros '0' ++ Nat.toDigits 10 n := by
  have hSomething (hSome : cs ≠ []) : decimal? cs = decimalFrom? 0 cs := by
    cases cs with
    | nil => exact absurd rfl hSome
    | cons c cs => rfl
  constructor
  · intro h
    have hSome : cs ≠ [] := by
      rintro rfl
      cases h
    rw [hSomething hSome] at h
    obtain ⟨hDigits, rfl⟩ := decimalFrom?_eq_some_iff.mp h
    exact exists_zeros hSome hDigits
  · rintro ⟨zeros, rfl⟩
    have hSome : List.replicate zeros '0' ++ Nat.toDigits 10 n ≠ [] :=
      List.append_ne_nil_of_right_ne_nil _ (Nat.toDigits_ne_nil)
    rw [hSomething hSome]
    exact decimalFrom?_eq_some_iff.mpr ⟨fun c hc => isDigit_of_mem_zeros hc, ofDigitChars_zeros zeros n⟩

-- ---------------------------------------------------------------------------
-- Numerals of 32-bit numbers
-- ---------------------------------------------------------------------------

/-- The numeral of a number, behind a plus sign or not, and behind zeros. -/
def spelling (plus : Bool) (zeros n : Nat) : List Char :=
  (if plus then ['+'] else []) ++ (List.replicate zeros '0' ++ Nat.toDigits 10 n)

/-- A numeral without a plus sign does not begin with one. -/
theorem decimal?_plus (cs : List Char) : decimal? ('+' :: cs) = none := rfl

theorem word32?_eq_some_iff : word32? cs = some n ↔
    n < UInt32.size ∧ ∃ plus zeros, cs = spelling plus zeros n := by
  unfold word32?
  dsimp only
  rw [Option.filter_eq_some_iff, decide_eq_true_eq, and_comm]
  refine and_congr_right fun _ => ?_
  split
  case h_1 rest =>
    rw [decimal?_eq_some_iff]
    constructor
    · rintro ⟨zeros, rfl⟩
      exact ⟨true, zeros, rfl⟩
    · rintro ⟨plus, zeros, hSpelled⟩
      cases plus with
      | true => exact ⟨zeros, (List.cons.inj hSpelled).2⟩
      | false => cases (decimal?_plus rest).symm.trans (decimal?_eq_some_iff.mpr ⟨zeros, hSpelled⟩)
  case h_2 hNoPlus =>
    rw [decimal?_eq_some_iff]
    constructor
    · rintro ⟨zeros, hDigits⟩
      exact ⟨false, zeros, hDigits⟩
    · rintro ⟨plus, zeros, hSpelled⟩
      cases plus with
      | true => exact absurd hSpelled (hNoPlus _)
      | false => exact ⟨zeros, hSpelled⟩

/-- A text spells a number in one way only. -/
theorem spelling_inj {plus plus' : Bool} {zeros zeros' n' : Nat}
    (h : spelling plus zeros n = spelling plus' zeros' n') : plus = plus' ∧ zeros = zeros' ∧ n = n' := by
  have hDigits {zeros zeros' n n' : Nat}
      (h : List.replicate zeros '0' ++ Nat.toDigits 10 n = List.replicate zeros' '0' ++ Nat.toDigits 10 n') :
      zeros = zeros' ∧ n = n' := by
    obtain rfl : n = n' := by rw [← ofDigitChars_zeros zeros n, h, ofDigitChars_zeros]
    have hLength := congrArg List.length (List.append_cancel_right h)
    rw [List.length_replicate, List.length_replicate] at hLength
    exact ⟨hLength, rfl⟩
  have hNoPlus {zeros n : Nat} {rest : List Char}
      (h : '+' :: rest = List.replicate zeros '0' ++ Nat.toDigits 10 n) : False := by
    cases (decimal?_plus rest).symm.trans (decimal?_eq_some_iff.mpr ⟨zeros, h⟩)
  cases plus <;> cases plus'
  · exact ⟨rfl, hDigits h⟩
  · exact (hNoPlus h.symm).elim
  · exact (hNoPlus h).elim
  · exact ⟨rfl, hDigits (List.cons.inj h).2⟩

end ScannerHub
