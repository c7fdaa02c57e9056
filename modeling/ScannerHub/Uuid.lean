import ScannerHub.Text.Numeral
import ScannerHub.Text.UpperCase

/-!
# Written UUIDs

A UUID is written as 32 hexadecimal digits, or with hyphens after the 8th, 12th, 16th and 20th
digit. The form with hyphens may stand in braces or after `urn:uuid:`, where the case of the letters
does not matter.
-/

namespace ScannerHub.Uuid

/-- Whether a text is this many hexadecimal digits. -/
def isDigits (n : Nat) (cs : List Char) : Bool :=
  cs.length == n && cs.all fun c => (hexDigit? c).isSome

/-- Whether a text is groups of digits of these lengths with hyphens between them. -/
def isHyphenated : List Nat → List Char → Bool
  | [], cs => cs.isEmpty
  | [n], cs => isDigits n cs
  | n :: ns, cs =>
    isDigits n (cs.take n) && match cs.drop n with
      | '-' :: rest => isHyphenated ns rest
      | _ => false

/-- The part of a text that braces or the URN notation wrap; a text without them is its own
content. -/
def unwrap (cs : List Char) : List Char :=
  let urn := "urn:uuid:"
  if sameIgnoringCase (String.ofList (cs.take urn.length)) urn then cs.drop urn.length
  else if cs.head? = some '{' ∧ cs.getLast? = some '}' ∧ 2 ≤ cs.length then cs.tail.dropLast
  else cs

def isWritten (text : String) : Bool :=
  let cs := text.toList
  isDigits 32 cs || isHyphenated [8, 4, 4, 4, 12] (unwrap cs)

end ScannerHub.Uuid
