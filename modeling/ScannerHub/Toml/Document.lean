import ScannerHub.Toml.Scalar
import ScannerHub.Toml.Text

/-!
# TOML documents

A document is a list of lines: pairs of a key and a value, and headers that say to which table
the pairs below them belong.

* `linesOfText?` — the lines of a text;
* `ofText?` — the table that a text writes, or nothing if it is no document.
-/

namespace ScannerHub.Toml

-- ---------------------------------------------------------------------------
-- Blanks, comments and keys
-- ---------------------------------------------------------------------------

/-- How deep arrays and inline tables may stand in each other, and how many parts a key may
have. -/
def depthLimit : Nat := 79

/-- What follows a comment, or what is there if no comment starts. -/
def skipComment : List Char → List Char
  | '#' :: cs => cs.dropWhile isPlain
  | cs => cs

/-- Leaves out blanks, line ends and comments. The number bounds the characters that are left. -/
def skipTrivia : Nat → List Char → List Char
  | 0, cs => cs
  | n + 1, cs =>
    let rest := skipComment (skipLines cs)
    if rest.length < cs.length then skipTrivia n rest else cs

/-- Whether a character may stand in a key without quotes. -/
def isKeyChar (c : Char) : Bool := c.isAlphanum || c == '_' || c == '-'

def readKeyPart? (cs : List Char) : Option (String × List Char) :=
  match readShortText? cs with
  | some (t, rest) => some (String.ofList t, rest)
  | none =>
    let part := cs.takeWhile isKeyChar
    if part.isEmpty then none else some (String.ofList part, cs.dropWhile isKeyChar)

/-- The parts of a key with points between them. The number bounds the parts. -/
def readKey? : Nat → List Char → Option (List String × List Char)
  | 0, _ => none
  | n + 1, cs =>
    match readKeyPart? (skipBlanks cs) with
    | none => none
    | some (part, rest) =>
      match skipBlanks rest with
      | '.' :: rest => (readKey? n rest).map fun (parts, rest) => (part :: parts, rest)
      | rest => some ([part], rest)

-- ---------------------------------------------------------------------------
-- Values
-- ---------------------------------------------------------------------------

mutual

/-- A value. The first number bounds the steps that are left, the second one the depth. -/
def readValue? : Nat → Nat → List Char → Option (Value × List Char)
  | 0, _, _ => none
  | n + 1, depth, cs =>
    match cs with
    | '"' :: _ | '\'' :: _ => (readText? cs).map fun (t, rest) => (.text (String.ofList t), rest)
    | '[' :: cs =>
      match depth with
      | 0 => none
      | depth + 1 => (readItems? n depth cs).map fun (items, rest) => (.array items, rest)
    | '{' :: cs =>
      match depth with
      | 0 => none
      | depth + 1 =>
        match skipBlanks cs with
        | '}' :: rest => some (.table .inline [], rest)
        | cs => (readPairs? n depth [] cs).map fun (es, rest) => (.table .inline es, rest)
    | _ => readScalar? cs

/-- The items of an array, up to the bracket that closes it. -/
def readItems? : Nat → Nat → List Char → Option (List Value × List Char)
  | 0, _, _ => none
  | n + 1, depth, cs =>
    match skipTrivia cs.length cs with
    | ']' :: rest => some ([], rest)
    | cs =>
      match readValue? n depth cs with
      | none => none
      | some (v, rest) =>
        match skipTrivia rest.length rest with
        | ',' :: rest => (readItems? n depth rest).map fun (vs, rest) => (v :: vs, rest)
        | ']' :: rest => some ([v], rest)
        | _ => none

/-- The pairs of an inline table, behind those that are there already, up to the brace that closes
it. -/
def readPairs? : Nat → Nat → Entries → List Char → Option (Entries × List Char)
  | 0, _, _, _ => none
  | n + 1, depth, es, cs =>
    match readKey? depthLimit cs with
    | some (keys, '=' :: rest) =>
      match readValue? n depth (skipBlanks rest) with
      | none => none
      | some (v, rest) =>
        match es.addPair? keys v with
        | none => none
        | some es =>
          match skipBlanks rest with
          | ',' :: rest => readPairs? n depth es rest
          | '}' :: rest => some (es, rest)
          | _ => none
    | _ => none

end

-- ---------------------------------------------------------------------------
-- Lines
-- ---------------------------------------------------------------------------

/-- A line of a document. -/
inductive Line where
  | empty
  | pair (keys : List String) (value : Value)
  | header (keys : List String)
  /-- A header in double brackets. -/
  | arrayHeader (keys : List String)

/-- What follows the end of a line, where a comment may stand. -/
def afterLine? (cs : List Char) : Option (List Char) :=
  match skipComment (skipBlanks cs) with
  | [] => some []
  | cs => afterLineEnd? cs

/-- The line in front of a text, and what follows it. -/
def readLine? (cs : List Char) : Option (Line × List Char) :=
  match skipBlanks cs with
  | '[' :: '[' :: cs =>
    match readKey? depthLimit cs with
    | some (keys, ']' :: ']' :: rest) => (afterLine? rest).map fun rest => (.arrayHeader keys, rest)
    | _ => none
  | '[' :: cs =>
    match readKey? depthLimit cs with
    | some (keys, ']' :: rest) => (afterLine? rest).map fun rest => (.header keys, rest)
    | _ => none
  | cs =>
    match afterLine? cs with
    | some rest => some (.empty, rest)
    | none =>
      match readKey? depthLimit cs with
      | some (keys, '=' :: rest) =>
        match readValue? (2 * rest.length + 2) depthLimit (skipBlanks rest) with
        | none => none
        | some (v, rest) => (afterLine? rest).map fun rest => (.pair keys v, rest)
      | _ => none

/-- The lines of a text. The number bounds the characters that are left. -/
def readLines? : Nat → List Char → Option (List Line)
  | _, [] => some []
  | 0, _ => none
  | n + 1, cs =>
    match readLine? cs with
    | none => none
    | some (line, rest) => (readLines? n rest).map (line :: ·)

-- ---------------------------------------------------------------------------
-- Documents
-- ---------------------------------------------------------------------------

/-- A document while its lines are taken in: its tables, and the path of the table that takes the
next pair. -/
structure Draft where
  root : Entries
  path : List String

namespace Draft

/-- The document before its first line. -/
def start : Draft := { root := [], path := [] }

/-- Opens a table by its header. The table must be new or implied by other headers. -/
def openTable? (d : Draft) (path : List String) : Option Draft :=
  match path.getLast? with
  | none => none
  | some key =>
    let root := Entries.change? false (fun _ es =>
      match es.get? key with
      | none => some (es.set key (.table .header []))
      | some (.table .implied sub) => some (es.set key (.table .header sub))
      | some _ => none) path.dropLast .header d.root
    root.map fun root => { root, path }

/-- Opens one more table of an array of tables. -/
def openItem? (d : Draft) (path : List String) : Option Draft :=
  match path.getLast? with
  | none => none
  | some key =>
    let root := Entries.change? false (fun _ es =>
      match es.get? key with
      | none => some (es.set key (.tables [.table .header []]))
      | some (.tables items) => some (es.set key (.tables (items ++ [.table .header []])))
      | some _ => none) path.dropLast .header d.root
    root.map fun root => { root, path }

/-- Adds a pair to the open table. -/
def addPair? (d : Draft) (keys : List String) (value : Value) : Option Draft :=
  let root := Entries.change? false (fun _ es => es.addPair? keys value) d.path .header d.root
  root.map fun root => { d with root }

def addLine? (d : Draft) : Line → Option Draft
  | .empty => some d
  | .pair keys value => d.addPair? keys value
  | .header keys => d.openTable? keys
  | .arrayHeader keys => d.openItem? keys

end Draft

/-- The lines of a text; a byte order mark in front of them does not count. -/
def linesOfText? (text : String) : Option (List Line) :=
  let cs := match text.toList with
    | c :: cs => if c.toNat = 0xFEFF then cs else c :: cs
    | [] => []
  readLines? cs.length cs

/-- The table that a text writes. -/
def ofText? (text : String) : Option Entries :=
  (linesOfText? text).bind fun lines => (lines.foldlM Draft.addLine? Draft.start).map Draft.root

end ScannerHub.Toml
