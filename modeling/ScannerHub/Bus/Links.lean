import ScannerHub.Bus.Bluez

/-!
# Attempts to bring up a link

When a bluetooth device asks for its link, an attempt is made: a call asks the remote device to
connect, and once it has, the link is watched until it is lost. There is at most one attempt for a
path, the most recent one; an earlier one is given up. Each attempt has a number of its own.

* `Links.connect`, `Links.stop` — start and give up an attempt;
* `Links.answered`, `Links.lost`, `Links.expired` — what an attempt hears, and the message that it
  sends.
-/

namespace ScannerHub

/-- How far an attempt has come. -/
inductive LinkPhase where
  /-- The call is not answered; it is given up at a time in milliseconds. -/
  | connecting (deadline : Nat)
  /-- The link is up. -/
  | watching
  /-- The link could not be brought up, or it was lost. -/
  | ended
deriving DecidableEq, Repr

/-- An attempt to bring up the link of the device at a path. -/
structure LinkAttempt where
  number : Nat
  path : String
  phase : LinkPhase
deriving DecidableEq, Repr

/-- When the call of an attempt is given up. -/
def LinkAttempt.deadline? (a : LinkAttempt) : Option Nat :=
  match a.phase with
  | .connecting deadline => some deadline
  | _ => none

/-- The link of the device at a path came up or went down, as an attempt says. -/
structure LinkMessage where
  attempt : Nat
  path : String
  up : Bool
deriving DecidableEq, Repr

/-- The attempts that were not given up. -/
structure Links where
  attempts : List LinkAttempt
  next : Nat
deriving DecidableEq, Repr

namespace Links

def empty : Links := { attempts := [], next := 0 }

/-- How long a call to connect may take, in milliseconds. -/
def callLimit : Nat := 20000

def attempt? (l : Links) (path : String) : Option LinkAttempt :=
  l.attempts.find? fun a => a.path == path

/-- Gives up the attempt for a path; tells whether there is one. -/
def stop (l : Links) (path : String) : Links × Bool :=
  ({ l with attempts := l.attempts.filter fun a => a.path != path }, (l.attempt? path).isSome)

/-- Starts an attempt for a path in place of an earlier one; tells its number. -/
def connect (l : Links) (now : Nat) (path : String) : Links × Nat :=
  let a : LinkAttempt := { number := l.next, path, phase := .connecting (now + callLimit) }
  ({ attempts := (l.stop path).1.attempts ++ [a], next := l.next + 1 }, l.next)

/-- Puts an attempt in another phase. -/
def setPhase (l : Links) (number : Nat) (phase : LinkPhase) : Links :=
  { l with attempts := l.attempts.map fun a => if a.number = number then { a with phase } else a }

/-- The call of an attempt was answered. An attempt that was given up, or that has given up
waiting, does not hear of it. -/
def answered (l : Links) (number : Nat) (success : Bool) : Links × Option LinkMessage :=
  match l.attempts.find? fun a => a.number == number with
  | some { path, phase := .connecting _, .. } =>
    (l.setPhase number (if success then .watching else .ended),
     some { attempt := number, path, up := success })
  | _ => (l, none)

/-- The device at a path is no longer connected. -/
def lost (l : Links) (path : String) : Links × Option LinkMessage :=
  match l.attempt? path with
  | some { number, phase := .watching, .. } =>
    (l.setPhase number .ended, some { attempt := number, path, up := false })
  | _ => (l, none)

/-- The attempts whose call has to be given up by now. -/
def expired (l : Links) (now : Nat) : List Nat :=
  (l.attempts.filter fun a => (LinkAttempt.deadline? a).any (· ≤ now)).map LinkAttempt.number

/-- The earliest time at which a call is given up. -/
def nextDeadline? (l : Links) : Option Nat := (l.attempts.filterMap LinkAttempt.deadline?).min?

end Links

end ScannerHub
