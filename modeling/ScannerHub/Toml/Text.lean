import ScannerHub.Text.Numeral

/-!
# TOML texts

A text stands between single or double quotes, one of each or three of each. Between double
quotes a backslash starts an escape. Three quotes allow line ends, and a line end right behind
them does not count.
-/

namespace ScannerHub.Toml

/-- Whether a character may stand in a text or a comment: control characters may not, except for
the tab. -/
def isPlain (c : Char) : Bool :=
  c == '\t' || (0x20 ≤ c.toNat && c.toNat != 0x7F)

-- ---------------------------------------------------------------------------
-- Escapes
-- ---------------------------------------------------------------------------

/-- The character that an escape of one letter stands for. -/
def escapedChar? : Char → Option Char
  | 'b' => some (Char.ofNat 8)
  | 't' => some '\t'
  | 'n' => some '\n'
  | 'f' => some (Char.ofNat 12)
  | 'r' => some '\r'
  | '"' => some '"'
  | '\\' => some '\\'
  | _ => none

/-- The character whose number so many hexadecimal digits write, and what follows. Surrogates are
no characters. -/
def escapedNumber? (count : Nat) (cs : List Char) : Option (Char × List Char) :=
  let ds := cs.take count
  if ds.length = count ∧ ds.all (fun c => (hexDigit? c).isSome) then
    let n := ds.foldl (fun n d => n * 16 + (hexDigit? d).getD 0) 0
    if n < 0xD800 ∨ (0xDFFF < n ∧ n < 0x110000) then some (Char.ofNat n, cs.drop count) else none
  else none

/-- The character that an escape stands for, read behind the backslash. -/
def escape? : List Char → Option (Char × List Char)
  | 'u' :: cs => escapedNumber? 4 cs
  | 'U' :: cs => escapedNumber? 8 cs
  | c :: cs => (escapedChar? c).map fun e => (e, cs)
  | [] => none

-- ---------------------------------------------------------------------------
-- Line ends
-- ---------------------------------------------------------------------------

/-- What follows a line end. -/
def afterLineEnd? : List Char → Option (List Char)
  | '\n' :: cs => some cs
  | '\r' :: '\n' :: cs => some cs
  | _ => none

/-- Leaves out spaces and tabs. -/
def skipBlanks (cs : List Char) : List Char :=
  cs.dropWhile fun c => c == ' ' || c == '\t'

/-- Leaves out spaces, tabs and line ends. -/
def skipLines : List Char → List Char
  | ' ' :: cs | '\t' :: cs | '\n' :: cs | '\r' :: '\n' :: cs => skipLines cs
  | cs => cs

-- ---------------------------------------------------------------------------
-- Texts in quotes
-- ---------------------------------------------------------------------------

/-- The rest of a text between single quotes, up to the quote that closes it. -/
def literalRest? : List Char → Option (List Char × List Char)
  | [] => none
  | c :: cs =>
    if c = '\'' then some ([], cs)
    else if isPlain c then (literalRest? cs).map fun (t, rest) => (c :: t, rest)
    else none

/-- The rest of a text between double quotes. The number bounds the characters that are left. -/
def basicRest? : Nat → List Char → Option (List Char × List Char)
  | 0, _ | _, [] => none
  | n + 1, c :: cs =>
    if c = '"' then some ([], cs)
    else if c = '\\' then
      match escape? cs with
      | none => none
      | some (e, cs) => (basicRest? n cs).map fun (t, rest) => (e :: t, rest)
    else if isPlain c then (basicRest? n cs).map fun (t, rest) => (c :: t, rest)
    else none

/-- The end of a text between three quotes: three to five quotes of which the last three close
it. -/
def closeThree? (quote : Char) (cs : List Char) : Option (List Char × List Char) :=
  let count := (cs.takeWhile (· == quote)).length
  if 3 ≤ count ∧ count ≤ 5 then some (List.replicate (count - 3) quote, cs.drop count) else none

/-- The rest of a text between three quotes. The number bounds the characters that are left. -/
def longRest? (quote : Char) : Nat → List Char → Option (List Char × List Char)
  | 0, _ | _, [] => none
  | n + 1, c :: cs =>
    if c = quote ∧ 3 ≤ ((c :: cs).takeWhile (· == quote)).length then closeThree? quote (c :: cs)
    else if c = '\\' ∧ quote = '"' then
      -- a backslash at the end of a line takes the blanks that follow with it
      match afterLineEnd? (skipBlanks cs) with
      | some cs => longRest? quote n (skipLines cs)
      | none =>
        match escape? cs with
        | none => none
        | some (e, cs) => (longRest? quote n cs).map fun (t, rest) => (e :: t, rest)
    else match afterLineEnd? (c :: cs) with
      | some cs => (longRest? quote n cs).map fun (t, rest) => ('\n' :: t, rest)
      | none =>
        if isPlain c then (longRest? quote n cs).map fun (t, rest) => (c :: t, rest) else none

/-- A text between one quote on either side, as a key may be. -/
def readShortText? (cs : List Char) : Option (List Char × List Char) :=
  match cs with
  | '"' :: cs => basicRest? cs.length cs
  | '\'' :: cs => literalRest? cs
  | _ => none

/-- A text between quotes, read from the first quote on. -/
def readText? (cs : List Char) : Option (List Char × List Char) :=
  let long := fun quote (cs : List Char) =>
    -- a line end right behind the opening quotes does not count
    let body := (afterLineEnd? cs).getD cs
    longRest? quote body.length body
  match cs with
  | '"' :: '"' :: '"' :: cs => long '"' cs
  | '\'' :: '\'' :: '\'' :: cs => long '\'' cs
  | cs => readShortText? cs

end ScannerHub.Toml
