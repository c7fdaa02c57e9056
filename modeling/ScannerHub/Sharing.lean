import ScannerHub.Text.Blank

/-!
# Share rules

While a connection is shared, rules of its own stand in the packet filter. A change of the filter
inserts or deletes one rule; the filter program takes it as a list of arguments.
-/

namespace ScannerHub

/-- A rule of the packet filter. -/
structure ShareRule where
  table : String
  rule : String
deriving DecidableEq, Repr

/-- What happens to a rule. -/
inductive FilterAction where
  | insert
  | delete
deriving DecidableEq, Repr

/-- The argument that names an action. -/
def FilterAction.flag : FilterAction → String
  | insert => "--insert"
  | delete => "--delete"

/-- The arguments of the filter program for one change. -/
def ShareRule.arguments (action : FilterAction) (r : ShareRule) : List String :=
  ["--table", r.table, action.flag] ++ words r.rule

/-- Whether a program can be started with an argument: it is not too long, and no character in it is
the one with the number zero, which ends an argument. -/
def isArgument (text : String) : Bool :=
  text.utf8ByteSize < 128 * 1024 && text.toList.all fun c => c.toNat != 0

/-- The runs of the filter program for a list of changes: one for each change with which it can be
started, and in their order. A change that fails is only noted in the log, so the later ones take
place as well. -/
def filterRuns (changes : List (FilterAction × ShareRule)) : List (List String) :=
  (changes.map fun c => c.2.arguments c.1).filter fun arguments => arguments.all isArgument

end ScannerHub
