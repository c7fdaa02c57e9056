/-!
# Numerals

Decimal numerals for 32-bit numbers, as they stand in object paths and interface names, and the
hexadecimal digits of hardware addresses.
-/

namespace ScannerHub

def decimalDigit? (c : Char) : Option Nat :=
  if '0' ≤ c ∧ c ≤ '9' then some (c.toNat - '0'.toNat) else none

/-- The value of a text of decimal digits, read on from a value already read. -/
def decimalFrom? (value : Nat) : List Char → Option Nat
  | [] => some value
  | c :: cs => (decimalDigit? c).bind fun d => decimalFrom? (value * 10 + d) cs

/-- The value of a numeral: at least one decimal digit, leading zeros allowed. -/
def decimal? : List Char → Option Nat
  | [] => none
  | cs => decimalFrom? 0 cs

/-- The value of a decimal numeral below 2^32, which may carry a plus sign. -/
def word32? (cs : List Char) : Option Nat :=
  let digits := match cs with
    | '+' :: rest => rest
    | _ => cs
  (decimal? digits).filter fun n => n < UInt32.size

/-- The value of a hexadecimal digit of either case. -/
def hexDigit? (c : Char) : Option Nat :=
  if '0' ≤ c ∧ c ≤ '9' then some (c.toNat - '0'.toNat)
  else if 'a' ≤ c ∧ c ≤ 'f' then some (c.toNat - 'a'.toNat + 10)
  else if 'A' ≤ c ∧ c ≤ 'F' then some (c.toNat - 'A'.toNat + 10)
  else none

/-- The upper-case hexadecimal digit of a value below 16. -/
def hexDigit (n : Nat) : Char :=
  if n < 10 then Char.ofNat ('0'.toNat + n) else Char.ofNat ('A'.toNat + (n - 10))

theorem hexDigit?_hexDigit {n : Nat} (h : n < 16) : hexDigit? (hexDigit n) = some n := by
  have hAll : ∀ m : Fin 16, hexDigit? (hexDigit m) = some m.val := by decide
  exact hAll ⟨n, h⟩

end ScannerHub
