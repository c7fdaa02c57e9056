import ScannerHub.Text.Numeral
import ScannerHub.Toml.Value

/-!
# TOML scalars

Numbers, booleans and times. Each is a run of letters, digits and the marks `+ - _ . :`; the run
as a whole decides what it is. Texts have a module of their own.
-/

namespace ScannerHub.Toml

/-- Whether a character can be part of a number, a boolean or a time. -/
def isScalarChar (c : Char) : Bool :=
  c.isAlphanum || c == '+' || c == '-' || c == '_' || c == '.' || c == ':'

-- ---------------------------------------------------------------------------
-- Integers
-- ---------------------------------------------------------------------------

/-- The digits of a number whose digits may be set apart by single underscores. -/
def digitsOf? (isDigit : Char → Bool) : List Char → Option (List Char)
  | [] => none
  | [c] => if isDigit c then some [c] else none
  | c :: '_' :: cs => if isDigit c then (digitsOf? isDigit cs).map (c :: ·) else none
  | c :: cs => if isDigit c then (digitsOf? isDigit cs).map (c :: ·) else none

/-- A number without a needless zero in front. -/
def wholeDigits? (cs : List Char) : Option (List Char) :=
  match digitsOf? Char.isDigit cs with
  | some ('0' :: _ :: _) => none
  | ds => ds

def valueOfDigits (base : Nat) (ds : List Char) : Nat :=
  ds.foldl (fun n d => n * base + (hexDigit? d).getD 0) 0

/-- Splits off a sign; the flag tells whether it is a minus. -/
def splitSign : List Char → Bool × List Char
  | '-' :: cs => (true, cs)
  | '+' :: cs => (false, cs)
  | cs => (false, cs)

/-- The least natural number that has no place in 64 bits with a sign. -/
def integerBound : Nat := 0x8000000000000000

/-- An integer to a base other than ten, which has no sign. -/
def basedInteger? (base : Nat) (isDigit : Char → Bool) (cs : List Char) : Option Value :=
  match digitsOf? isDigit cs with
  | none => none
  | some ds =>
    let n := valueOfDigits base ds
    if n < integerBound then some (.integer n) else none

def integer? : List Char → Option Value
  | '0' :: 'x' :: cs => basedInteger? 16 (fun c => (hexDigit? c).isSome) cs
  | '0' :: 'o' :: cs => basedInteger? 8 (fun c => '0' ≤ c && c ≤ '7') cs
  | '0' :: 'b' :: cs => basedInteger? 2 (fun c => c == '0' || c == '1') cs
  | cs =>
    let (negative, cs) := splitSign cs
    match wholeDigits? cs with
    | none => none
    | some ds =>
      let n := valueOfDigits 10 ds
      if negative then if n ≤ integerBound then some (.integer (-n)) else none
      else if n < integerBound then some (.integer n) else none

-- ---------------------------------------------------------------------------
-- Numbers with a fraction or an exponent
-- ---------------------------------------------------------------------------

/-- Whether `digits · 10^exponent` is so large that it rounds to infinity as a double. -/
def roundsToInfinity (digits : Nat) (exponent : Int) : Bool :=
  -- half a unit above the largest double; a tie would go to the even neighbour, which is infinity
  let bound := Nat.pow 2 1024 - Nat.pow 2 970
  if digits = 0 then false
  else if exponent ≥ 400 then true
  else if exponent ≥ 0 then bound ≤ digits * Nat.pow 10 exponent.toNat
  else if digits < bound then false
  else
    -- a number with fewer digits than places is below one: no power as large as it is needed
    let shift := (-exponent).toNat
    if (Nat.toDigits 10 digits).length < shift then false else bound * Nat.pow 10 shift ≤ digits

/-- The exponent of a number, if what follows is one. -/
def exponent? : List Char → Option Int
  | 'e' :: cs | 'E' :: cs =>
    let (negative, cs) := splitSign cs
    (digitsOf? Char.isDigit cs).map fun ds =>
      let n : Int := valueOfDigits 10 ds
      if negative then -n else n
  | _ => none

/-- Whether a run is a number with a fraction or an exponent. Such a number must be finite, unless
it is negative. -/
def isFloat (cs : List Char) : Bool :=
  let (negative, cs) := splitSign cs
  if cs == "inf".toList || cs == "nan".toList then true
  else
    let isMark := fun c => c == '.' || c == 'e' || c == 'E'
    let whole := cs.takeWhile fun c => !isMark c
    let rest := cs.dropWhile fun c => !isMark c
    match wholeDigits? whole with
    | none => false
    | some ds =>
      let parts := match rest with
        | '.' :: rest =>
          let fraction := rest.takeWhile fun c => !isMark c
          let rest := rest.dropWhile fun c => !isMark c
          (digitsOf? Char.isDigit fraction).bind fun fs =>
            if rest.isEmpty then some (fs, 0) else (exponent? rest).map fun e => (fs, e)
        | rest => (exponent? rest).map fun e => ([], e)
      match parts with
      | none => false
      | some (fs, e) =>
        negative || !roundsToInfinity (valueOfDigits 10 (ds ++ fs)) (e - fs.length)

-- ---------------------------------------------------------------------------
-- Dates and times
-- ---------------------------------------------------------------------------

/-- The value of exactly so many digits, and what follows them. -/
def fixedDigits? (count : Nat) (cs : List Char) : Option (Nat × List Char) :=
  let ds := cs.take count
  if ds.length = count ∧ ds.all Char.isDigit then some (valueOfDigits 10 ds, cs.drop count)
  else none

/-- A mark that must follow. -/
def expect? (mark : Char) : List Char → Option (List Char)
  | c :: cs => if c = mark then some cs else none
  | [] => none

def daysOfMonth (year month : Nat) : Nat :=
  if month = 2 then
    if year % 4 = 0 ∧ (year % 100 ≠ 0 ∨ year % 400 = 0) then 29 else 28
  else if month = 4 ∨ month = 6 ∨ month = 9 ∨ month = 11 then 30
  else 31

/-- What follows a date. -/
def afterDate? (cs : List Char) : Option (List Char) := do
  let (year, cs) ← fixedDigits? 4 cs
  let cs ← expect? '-' cs
  let (month, cs) ← fixedDigits? 2 cs
  let cs ← expect? '-' cs
  let (day, cs) ← fixedDigits? 2 cs
  if 1 ≤ month ∧ month ≤ 12 ∧ 1 ≤ day ∧ day ≤ daysOfMonth year month then some cs else none

/-- What follows a time of day. -/
def afterTime? (cs : List Char) : Option (List Char) := do
  let (hour, cs) ← fixedDigits? 2 cs
  let cs ← expect? ':' cs
  let (minute, cs) ← fixedDigits? 2 cs
  let cs ← expect? ':' cs
  let (second, cs) ← fixedDigits? 2 cs
  if hour ≤ 23 ∧ minute ≤ 59 ∧ second ≤ 60 then
    match cs with
    | '.' :: rest =>
      if (rest.takeWhile Char.isDigit).isEmpty then none else some (rest.dropWhile Char.isDigit)
    | _ => some cs
  else none

/-- Whether a run is nothing or an offset from universal time. -/
def isOffset : List Char → Bool
  | [] | ['Z'] | ['z'] => true
  | c :: cs =>
    (c == '+' || c == '-') && match fixedDigits? 2 cs with
      | some (hour, ':' :: cs) => match fixedDigits? 2 cs with
        | some (minute, []) => hour ≤ 23 && minute ≤ 59
        | _ => false
      | _ => false

/-- Whether a run is a date, a time of day, or both. -/
def isMoment (cs : List Char) : Bool :=
  match afterDate? cs with
  | some [] => true
  | some (c :: rest) => (c == 'T' || c == 't') && (afterTime? rest).any isOffset
  | none => (afterTime? cs).any List.isEmpty

-- ---------------------------------------------------------------------------
-- Any scalar
-- ---------------------------------------------------------------------------

/-- The value that a run of scalar characters writes. -/
def scalar? (cs : List Char) : Option Value :=
  if cs == "true".toList then some (.flag true)
  else if cs == "false".toList then some (.flag false)
  else if isMoment cs then some .moment
  else if isFloat cs then some .float
  else integer? cs

/-- The scalar in front of a text, and what follows it. A date may be set apart from its time by
one space. -/
def readScalar? (cs : List Char) : Option (Value × List Char) :=
  let run := cs.takeWhile isScalarChar
  let rest := cs.dropWhile isScalarChar
  match rest with
  | ' ' :: c :: more =>
    -- behind a whole date, a digit can only start the time of day
    if c.isDigit ∧ afterDate? run = some [] then
      let time := (c :: more).takeWhile isScalarChar
      if (afterTime? time).any isOffset then
        some (.moment, (c :: more).dropWhile isScalarChar)
      else none
    else (scalar? run).map fun v => (v, rest)
  | _ => (scalar? run).map fun v => (v, rest)

end ScannerHub.Toml
