/-!
# Blank characters and words

The blanks are the characters with the Unicode property `White_Space`. `trimBlank` takes them off
both ends of a text, `words` cuts a text at them.
-/

namespace ScannerHub

/-- Whether a character has the Unicode property `White_Space`. -/
def isBlank (c : Char) : Bool :=
  let n := c.toNat
  (9 ≤ n && n ≤ 13) || n == 0x20 || n == 0x85 || n == 0xA0 || n == 0x1680 ||
    (0x2000 ≤ n && n ≤ 0x200A) || n == 0x2028 || n == 0x2029 || n == 0x202F || n == 0x205F ||
    n == 0x3000

/-- The text between the first and the last character that is no blank. -/
def trimBlank (cs : List Char) : List Char :=
  ((cs.dropWhile isBlank).reverse.dropWhile isBlank).reverse

/-- Cuts a text at every separator; there is one piece more than there are separators. -/
def pieces (isSeparator : Char → Bool) : List Char → List (List Char)
  | [] => [[]]
  | c :: cs =>
    if isSeparator c then [] :: pieces isSeparator cs
    else match pieces isSeparator cs with
      | [] => [[c]]
      | p :: ps => (c :: p) :: ps

/-- The pieces that are not empty. -/
def tokens (isSeparator : Char → Bool) (cs : List Char) : List (List Char) :=
  (pieces isSeparator cs).filter fun p => !p.isEmpty

/-- The words of a text: what stands between blanks. -/
def words (text : String) : List String :=
  (tokens isBlank text.toList).map String.ofList

/-- Every piece of a text is free of separators. -/
theorem not_isSeparator_of_mem_pieces {isSeparator : Char → Bool} {cs p : List Char} {c : Char}
    (hp : p ∈ pieces isSeparator cs) (hc : c ∈ p) : isSeparator c = false := by
  induction cs generalizing p with
  | nil => simp_all [pieces]
  | cons d cs ih =>
    unfold pieces at hp
    split at hp
    · rcases List.mem_cons.mp hp with rfl | hp
      · simp at hc
      · exact ih hp hc
    · rename_i hd
      split at hp
      · obtain rfl : p = [d] := by simpa using hp
        obtain rfl : c = d := by simpa using hc
        simpa using hd
      · rename_i q qs hq
        rcases List.mem_cons.mp hp with rfl | hp
        · rcases List.mem_cons.mp hc with rfl | hc
          · simpa using hd
          · exact ih (hq ▸ List.mem_cons_self) hc
        · exact ih (hq ▸ List.mem_cons_of_mem _ hp) hc

end ScannerHub
