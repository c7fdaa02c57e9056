import ScannerHub.Text.Blank
import ScannerHub.Text.Numeral

/-!
# Hardware addresses

A bluetooth address is six bytes. As text it is six groups of two hexadecimal digits; in a text
that comes from outside the groups may be set apart by colons or hyphens, the digits may have
either case, and blanks may stand around them.

* `Address.canonical?` — the one written form of such a text: upper case, with colons;
* `Address.ofBytes?` — the written form of six bytes;
* `Address.bytes?` — the six bytes that a text names;
* `Address.sameDevice` — whether two texts name the same device.
-/

namespace ScannerHub.Address

/-- Whether a text is one group of two hexadecimal digits or several groups set apart by colons
or hyphens; the number says how many more groups follow the first. -/
def isGroups : Nat → List Char → Bool
  | 0, [a, b] => (hexDigit? a).isSome && (hexDigit? b).isSome
  | n + 1, a :: b :: s :: rest =>
    (hexDigit? a).isSome && (hexDigit? b).isSome && (s == ':' || s == '-') && isGroups n rest
  | _, _ => false

/-- The canonical form of a character of an address: hyphens become colons, digits upper case. -/
def canonicalChar (c : Char) : Char :=
  if c = '-' then ':' else c.toUpper

/-- The canonical form of a written address, with blanks around it left out. -/
def canonical? (text : String) : Option String :=
  let cs := trimBlank text.toList
  if isGroups 5 cs then some (String.ofList (cs.map canonicalChar)) else none

/-- Two hexadecimal digits for a byte. -/
def byteDigits (b : UInt8) : List Char :=
  [hexDigit (b.toNat / 16), hexDigit (b.toNat % 16)]

/-- Bytes as groups of two digits with colons between them. -/
def groupsOfBytes : List UInt8 → List Char
  | [] => []
  | [b] => byteDigits b
  | b :: bs => byteDigits b ++ ':' :: groupsOfBytes bs

/-- The canonical form of an address of six bytes. -/
def ofBytes? (bytes : List UInt8) : Option String :=
  if bytes.length = 6 then some (String.ofList (groupsOfBytes bytes)) else none

/-- The byte that two hexadecimal digits write. -/
def byteOfDigits? : List Char → Option UInt8
  | [a, b] => (hexDigit? a).bind fun x => (hexDigit? b).map fun y => UInt8.ofNat (16 * x + y)
  | _ => none

/-- The six bytes that a written address names. -/
def bytes? (text : String) : Option (List UInt8) :=
  (canonical? text).bind fun t => (pieces (· == ':') t.toList).mapM byteOfDigits?

/-- Whether both texts are addresses, and of the same device. -/
def sameDevice (a b : String) : Bool :=
  match canonical? a, canonical? b with
  | some x, some y => x == y
  | _, _ => false

end ScannerHub.Address
