import ScannerHub.Toml.Document

/-!
# Records in TOML

How the fields of a record are found in a value, and what a field accepts. A record is written as
a table, or as an array that lists its fields in their order; a field that is not there has its
default, and whatever the record does not know is left alone.
-/

namespace ScannerHub.Toml

/-- The fields that a value offers to a record with these field names. A time counts as a table
without any of them. -/
def Value.fields? (names : List String) : Value → Option Entries
  | .table _ entries => some entries
  | .array items | .tables items => some (names.zip items)
  | .moment => some []
  | _ => none

def Entries.field? {α : Type} (es : Entries) (name : String) (default : α)
    (read : Value → Option α) : Option α :=
  match es.get? name with
  | none => some default
  | some v => read v

def Value.asText? : Value → Option String
  | .text s => some s
  | _ => none

def Value.asFlag? : Value → Option Bool
  | .flag b => some b
  | _ => none

/-- A number from zero up to, but without, a bound. -/
def Value.asNat? (bound : Nat) : Value → Option Nat
  | .integer n => if 0 ≤ n ∧ n < bound then some n.toNat else none
  | _ => none

def Value.asList? {α : Type} (read : Value → Option α) : Value → Option (List α)
  | .array items | .tables items => items.mapM read
  | _ => none

end ScannerHub.Toml
