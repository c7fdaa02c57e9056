/-!
# TOML values and tables

The values of a TOML document. A table remembers how it came about, because that decides whether
it may still grow: a table with a header of its own is complete where its section ends, a table
that a dotted key made grows by dotted keys only, and an inline table never grows.

* `Entries.change?` — changes the table at a path, and makes the tables on the way;
* `Entries.addPair?` — adds a key, which must be new.
-/

namespace ScannerHub.Toml

/-- How a table came about. -/
inductive TableKind where
  /-- By a header. -/
  | header
  /-- As a part of the header of another table. -/
  | implied
  /-- As a part of a dotted key. -/
  | dotted
  /-- As a value in braces. -/
  | inline
deriving DecidableEq, Repr

/-- A value. Of numbers with a fraction and of times only the kind is kept. -/
inductive Value where
  | text (value : String)
  | integer (value : Int)
  | float
  | flag (value : Bool)
  | moment
  | array (items : List Value)
  | table (kind : TableKind) (entries : List (String × Value))
  /-- Tables with one header in double brackets each. -/
  | tables (items : List Value)
deriving Repr

/-- The entries of a table. -/
abbrev Entries := List (String × Value)

namespace Entries

def get? (es : Entries) (key : String) : Option Value := es.lookup key

/-- Gives a key a value, in its place if it has one already. -/
def set (es : Entries) (key : String) (value : Value) : Entries :=
  if (es.get? key).isSome then es.map fun e => if e.1 == key then (key, value) else e
  else es ++ [(key, value)]

def drop (es : Entries) (key : String) : Entries := es.filter fun e => e.1 != key

/-- Changes the table at a path below a table. Tables that are missing on the way are made, by a
dotted key or by a header. A dotted key does not lead through a table that has a header of its
own; nothing leads through an inline table. An array of tables stands for its last table. -/
def change? (dotted : Bool) (f : TableKind → Entries → Option Entries) :
    List String → TableKind → Entries → Option Entries
  | [], kind, es => f kind es
  | key :: path, _, es =>
    match es.get? key with
    | none =>
      let kind := if dotted then .dotted else .implied
      (change? dotted f path kind []).map fun sub => es.set key (.table kind sub)
    | some (.table kind sub) =>
      if kind = .inline ∨ (dotted ∧ kind = .header) then none
      else (change? dotted f path kind sub).map fun sub => es.set key (.table kind sub)
    | some (.tables items) =>
      match items.getLast? with
      | some (.table kind sub) =>
        (change? dotted f path kind sub).map fun sub =>
          es.set key (.tables (items.dropLast ++ [.table kind sub]))
      | _ => none
    | some _ => none

/-- Adds the value of a dotted key. The key must be new, and all its parts but the last one must
lead to a table that dotted keys made. -/
def addPair? (es : Entries) (keys : List String) (value : Value) : Option Entries :=
  match keys.getLast? with
  | none => none
  | some key =>
    let path := keys.dropLast
    change? true (fun kind es =>
      -- the table at the end of a longer path must be open for dotted keys, too
      if (!path.isEmpty && kind != .dotted) || (es.get? key).isSome then none
      else some (es ++ [(key, value)])) path .header es

end Entries

end ScannerHub.Toml
