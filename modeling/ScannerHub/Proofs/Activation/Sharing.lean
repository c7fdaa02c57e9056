import Mathlib.Data.List.Count
import Mathlib.Data.List.Induction
import ScannerHub.Proofs.Activation.Outcomes

/-!
# Share rules and the packet filter

A request keeps a list of rules, but nothing about which of them stand in the packet filter. To start
sharing inserts the whole list, also what stands there already. To stop sharing, or to let go of the
request, deletes the whole list, also what was never inserted, and forgets it.

So every rule is deleted exactly once for each time it was added, while how often it is inserted is up to
whoever calls: once for each start of sharing that still finds it. The filter is left as it was found
just if these two agree.

* `filterChanges` — what effects change in the packet filter;
* `Covered`, `Balanced` — changes that take away nothing that they did not bring, or leave nothing either;
* `ShareCall`, `Request.filterLog` — calls about share rules, and all that changes until the request is
  let go of;
* `sharings`, `insertions`, `additions` — how often calls insert a rule, and how often they add it.

## Results

* `count_delete_shareChanges`, `count_insert_shareChanges` — how often a rule is deleted and inserted;
* `covered_shareChanges_iff` — it is enough to look where sharing stops;
* `tally_filterLog` — whatever the calls, what they come to when the request is let go of.
-/

namespace ScannerHub

-- ---------------------------------------------------------------------------
-- Changes of the packet filter
-- ---------------------------------------------------------------------------

/-- A change of the packet filter. -/
abbrev FilterChange := FilterAction × ShareRule

/-- The change of the packet filter that an effect is. -/
def Effect.change? : Effect → Option FilterChange
  | changeFilter action rule => some (action, rule)
  | _ => none

/-- What effects change in the packet filter, in their order. -/
def filterChanges (effects : List Effect) : List FilterChange := effects.filterMap Effect.change?

@[simp]
theorem filterChanges_nil : filterChanges [] = [] := rfl

@[simp]
theorem filterChanges_append (es fs : List Effect) :
    filterChanges (es ++ fs) = filterChanges es ++ filterChanges fs :=
  List.filterMap_append

/-- One action on each of some rules, in their order. -/
def FilterAction.onEach (action : FilterAction) (rules : List ShareRule) : List FilterChange :=
  rules.map fun rule => (action, rule)

theorem filterChanges_map (action : FilterAction) (rules : List ShareRule) :
    filterChanges (rules.map fun rule => .changeFilter action rule) = action.onEach rules := by
  unfold filterChanges
  rw [List.filterMap_map]
  exact congrFun List.filterMap_eq_map rules

/-- An action on each of some rules counts a rule as often as it is there, and for no other action. -/
theorem count_onEach (action other : FilterAction) (rules : List ShareRule) (rule : ShareRule) :
    (action.onEach rules).count (other, rule) = if other = action then rules.count rule else 0 := by
  unfold FilterAction.onEach
  split
  case isTrue hSame =>
    subst hSame
    exact List.count_map_of_injective rules _ (fun _ _ h => (Prod.mk.inj h).2) rule
  case isFalse hOther =>
    refine List.count_eq_zero.mpr fun hMem => ?_
    obtain ⟨_, -, hEq⟩ := List.mem_map.mp hMem
    exact hOther (congrArg Prod.fst hEq).symm

/-- No rule was deleted more often than it was inserted, at no time. -/
def Covered (changes : List FilterChange) : Prop :=
  ∀ before, before <+: changes → ∀ rule,
    before.count (.delete, rule) ≤ before.count (.insert, rule)

/-- Every rule was deleted as often as it was inserted, and never before. -/
structure Balanced (changes : List FilterChange) : Prop where
  even : ∀ rule, changes.count (.delete, rule) = changes.count (.insert, rule)
  covered : Covered changes

/-- A beginning of one list and another one ends in the first, or takes it and goes on in the other. -/
theorem prefix_append_cases {α : Type} {before first second : List α}
    (h : before <+: first ++ second) :
    before <+: first ∨ ∃ more, more <+: second ∧ before = first ++ more := by
  obtain ⟨rest, hRest⟩ := h
  rcases List.append_eq_append_iff.mp hRest with ⟨more, hFirst, -⟩ | ⟨more, hBefore, hSecond⟩
  · exact .inl ⟨more, hFirst.symm⟩
  · exact .inr ⟨more, ⟨rest, hSecond.symm⟩, hBefore⟩

/-- Insertions do no harm. -/
theorem Covered.append_inserts {changes : List FilterChange} (h : Covered changes)
    (rules : List ShareRule) : Covered (changes ++ FilterAction.insert.onEach rules) := by
  intro before hBefore rule
  rcases prefix_append_cases hBefore with hEarly | ⟨more, hMore, rfl⟩
  · exact h before hEarly rule
  · have hBase := h changes (List.prefix_refl changes) rule
    have hNone := hMore.count_le (FilterAction.delete, rule)
    rw [count_onEach, if_neg nofun] at hNone
    rw [List.count_append, List.count_append]
    omega

/-- Deletions do no harm if there are not too many in the end. -/
theorem Covered.append_deletes {changes : List FilterChange} {rules : List ShareRule}
    (h : Covered changes)
    (hEnd : ∀ rule, (changes ++ FilterAction.delete.onEach rules).count (.delete, rule) ≤
      (changes ++ FilterAction.delete.onEach rules).count (.insert, rule)) :
    Covered (changes ++ FilterAction.delete.onEach rules) := by
  intro before hBefore rule
  rcases prefix_append_cases hBefore with hEarly | ⟨more, hMore, rfl⟩
  · exact h before hEarly rule
  · have hSome := hMore.count_le (FilterAction.delete, rule)
    have hAll := hEnd rule
    rw [List.count_append, List.count_append, count_onEach .delete .insert, if_neg nofun] at hAll
    rw [List.count_append, List.count_append]
    omega

-- ---------------------------------------------------------------------------
-- Calls about share rules
-- ---------------------------------------------------------------------------

/-- What may be asked of a request about its share rules. -/
inductive ShareCall where
  | addRule (rule : ShareRule)
  | setShared (shared : Bool)
deriving DecidableEq, Repr

namespace ShareCall

/-- How often calls start sharing before they stop it. -/
def sharings : List ShareCall → Nat
  | [] => 0
  | addRule _ :: calls => sharings calls
  | setShared true :: calls => sharings calls + 1
  | setShared false :: _ => 0

/-- How often calls insert a rule that they add: once for each start of sharing that comes after it was
added and before sharing stops. -/
def insertions (rule : ShareRule) : List ShareCall → Nat
  | [] => 0
  | addRule added :: calls => (if added = rule then sharings calls else 0) + insertions rule calls
  | setShared _ :: calls => insertions rule calls

/-- How often calls add a rule. -/
def additions (rule : ShareRule) (calls : List ShareCall) : Nat := calls.count (addRule rule)

/-- Sharing starts exactly once after each rule that is added, before it stops. -/
def EachOnce : List ShareCall → Prop
  | [] => True
  | addRule _ :: calls => sharings calls = 1 ∧ EachOnce calls
  | setShared _ :: calls => EachOnce calls

end ShareCall

open ShareCall

namespace Request

/-- What one call about share rules does. -/
def share (r : Request) : ShareCall → Request × List Effect
  | .addRule rule => (r.addRule rule, [])
  | .setShared shared => r.setShared shared

/-- What calls about share rules do, one after the other. -/
def shareAll (r : Request) : List ShareCall → Request × List Effect
  | [] => (r, [])
  | call :: calls =>
    let (r, effects) := r.share call
    let (r, later) := r.shareAll calls
    (r, effects ++ later)

/-- What calls about share rules change in the packet filter. -/
def shareChanges (r : Request) (calls : List ShareCall) : List FilterChange :=
  filterChanges (r.shareAll calls).2

/-- What changes in the packet filter during calls about share rules, until the request is let go of. -/
def filterLog (r : Request) (calls : List ShareCall) (reason : StateReason) : List FilterChange :=
  r.shareChanges calls ++ filterChanges ((r.shareAll calls).1.detach reason).2

variable {r : Request} {calls : List ShareCall}

theorem shareChanges_cons (r : Request) (call : ShareCall) (calls : List ShareCall) :
    r.shareChanges (call :: calls) =
      filterChanges (r.share call).2 ++ (r.share call).1.shareChanges calls :=
  filterChanges_append ..

theorem shareChanges_append (r : Request) (calls later : List ShareCall) :
    r.shareChanges (calls ++ later) =
      r.shareChanges calls ++ (r.shareAll calls).1.shareChanges later := by
  induction calls generalizing r with
  | nil => rfl
  | cons call calls ih =>
    rw [List.cons_append, shareChanges_cons, shareChanges_cons, ih, List.append_assoc]
    rfl

theorem prefix_shareChanges {later : List ShareCall} (r : Request) (hPrefix : calls <+: later) :
    r.shareChanges calls <+: r.shareChanges later := by
  obtain ⟨rest, rfl⟩ := hPrefix
  exact ⟨_, (shareChanges_append r calls rest).symm⟩

theorem filterChanges_start (r : Request) :
    filterChanges (r.setShared true).2 = FilterAction.insert.onEach r.rules :=
  filterChanges_map .insert r.rules

theorem filterChanges_stop (r : Request) :
    filterChanges (r.setShared false).2 = FilterAction.delete.onEach r.rules.reverse :=
  filterChanges_map .delete r.rules.reverse

theorem rules_start (r : Request) : (r.setShared true).1.rules = r.rules := rfl

theorem rules_stop (r : Request) : (r.setShared false).1.rules = [] := rfl

/-- To let go of a request changes in the packet filter what it changes to stop sharing. -/
theorem filterChanges_detach (r : Request) (reason : StateReason) :
    filterChanges (r.detach reason).2 = filterChanges (r.setShared false).2 := by
  have hCancelled (r : Request) : filterChanges r.cancelSecrets.2 = [] ∧
      r.cancelSecrets.1.rules = r.rules := by
    unfold cancelSecrets
    cases r.secrets with
    | none => exact ⟨rfl, rfl⟩
    | some pending => exact ⟨rfl, rfl⟩
  have hAnswered (r : Request) (outcome : Outcome) : filterChanges (r.finish outcome).2 = [] := by
    unfold finish
    split
    · rfl
    · refine List.filterMap_eq_nil_iff.mpr fun effect hEffect => ?_
      obtain ⟨waiter, -, rfl⟩ := List.mem_map.mp hEffect
      rfl
  -- a request without rules has nothing to delete, so it makes no difference if it is asked to
  have hDeleted (r : Request) :
      filterChanges (if r.shared || !r.rules.isEmpty then r.setShared false else (r, [])).2 =
        filterChanges (r.setShared false).2 := by
    split
    case isTrue => rfl
    case isFalse hNone =>
      obtain ⟨-, hEmpty⟩ : r.shared = false ∧ r.rules = [] := by simpa using hNone
      rw [filterChanges_stop, hEmpty]
      rfl
  unfold detach
  dsimp only
  rw [filterChanges_append, filterChanges_append, hAnswered, hDeleted, (hCancelled _).1,
    filterChanges_stop, filterChanges_stop, (hCancelled _).2, List.nil_append, List.append_nil]

theorem filterLog_eq (r : Request) (calls : List ShareCall) (reason : StateReason) :
    r.filterLog calls reason = r.shareChanges (calls ++ [.setShared false]) := by
  rw [shareChanges_append, shareChanges_cons]
  unfold filterLog
  rw [filterChanges_detach]
  exact congrArg _ (List.append_nil _).symm

-- ---------------------------------------------------------------------------
-- How often
-- ---------------------------------------------------------------------------

/-- When sharing stops, every rule that was there or came has been deleted once. -/
theorem count_delete_shareChanges (r : Request) (calls : List ShareCall) (rule : ShareRule) :
    (r.shareChanges (calls ++ [.setShared false])).count (.delete, rule) =
      r.rules.count rule + additions rule calls := by
  induction calls generalizing r with
  | nil =>
    rw [List.nil_append, shareChanges_cons]
    simp [share, shareChanges, shareAll, filterChanges_stop, count_onEach, additions]
  | cons call calls ih =>
    rw [List.cons_append, shareChanges_cons, List.count_append, ih]
    cases call with
    | addRule added =>
      simp only [share, addRule, filterChanges_nil, List.count_nil, additions, List.count_append,
        List.count_cons, List.count_nil, beq_iff_eq, ShareCall.addRule.injEq]
      omega
    | setShared shared =>
      cases shared with
      | true =>
        simp only [share, filterChanges_start, rules_start, count_onEach, additions, List.count_cons,
          beq_iff_eq, reduceCtorEq, if_false]
        omega
      | false =>
        simp only [share, filterChanges_stop, rules_stop, count_onEach, additions, List.count_cons,
          List.count_reverse, List.count_nil, beq_iff_eq, reduceCtorEq, if_false, if_true]
        omega

/-- A rule that is there is inserted whenever sharing starts before it stops, and so is one that comes. -/
theorem count_insert_shareChanges (r : Request) (calls : List ShareCall) (rule : ShareRule) :
    (r.shareChanges calls).count (.insert, rule) =
      r.rules.count rule * sharings calls + insertions rule calls := by
  induction calls generalizing r with
  | nil => simp [shareChanges, shareAll, sharings, insertions]
  | cons call calls ih =>
    rw [shareChanges_cons, List.count_append, ih]
    cases call with
    | addRule added =>
      have hCount : (r.addRule added).rules.count rule =
          r.rules.count rule + if added = rule then 1 else 0 := by
        simp only [addRule, List.count_append, List.count_cons, List.count_nil, beq_iff_eq,
          Nat.zero_add]
      simp only [share, filterChanges_nil, List.count_nil, hCount, sharings, insertions, Nat.add_mul]
      split
      · rw [Nat.one_mul]
        omega
      · rw [Nat.zero_mul]
        omega
    | setShared shared =>
      cases shared with
      | true =>
        simp only [share, filterChanges_start, rules_start, count_onEach, sharings, insertions,
          if_true, Nat.mul_succ]
        omega
      | false =>
        simp only [share, filterChanges_stop, rules_stop, count_onEach, sharings, insertions,
          reduceCtorEq, if_false, List.count_nil, Nat.zero_mul, Nat.mul_zero]
        omega

/-- Deletions stay covered if they are where sharing stops. -/
theorem covered_shareChanges_iff (r : Request) (calls : List ShareCall) :
    Covered (r.shareChanges calls) ↔ ∀ before, before ++ [.setShared false] <+: calls → ∀ rule,
      (r.shareChanges (before ++ [.setShared false])).count (.delete, rule) ≤
        (r.shareChanges (before ++ [.setShared false])).count (.insert, rule) := by
  constructor
  · intro h before hBefore
    exact h _ (prefix_shareChanges r hBefore)
  · induction calls using List.reverseRecOn with
    | nil =>
      intro _ before hBefore rule
      obtain rfl := List.prefix_nil.mp hBefore
      exact Nat.le_refl 0
    | append_singleton calls call ih =>
      intro h
      have hEarlier := ih fun before hBefore => h before (hBefore.trans (List.prefix_append ..))
      have hLast : r.shareChanges (calls ++ [call]) =
          r.shareChanges calls ++ filterChanges ((r.shareAll calls).1.share call).2 := by
        rw [shareChanges_append, shareChanges_cons]
        exact congrArg _ (List.append_nil _)
      cases call with
      | addRule added =>
        rw [hLast]
        exact (List.append_nil (r.shareChanges calls)).symm ▸ hEarlier
      | setShared shared =>
        cases shared with
        | true =>
          rw [hLast]
          exact filterChanges_start _ ▸ hEarlier.append_inserts _
        | false =>
          have hEnd := h calls (List.prefix_refl _)
          rw [hLast, share, filterChanges_stop] at hEnd ⊢
          exact hEarlier.append_deletes hEnd

end Request

-- ---------------------------------------------------------------------------
-- The whole life of a request
-- ---------------------------------------------------------------------------

namespace ShareCall

variable {calls later : List ShareCall} {rule : ShareRule}

theorem sharings_append_stop (calls later : List ShareCall) :
    sharings (calls ++ setShared false :: later) = sharings calls := by
  induction calls with
  | nil => rfl
  | cons call calls ih =>
    cases call with
    | addRule added => exact ih
    | setShared shared =>
      cases shared with
      | true => exact congrArg (· + 1) ih
      | false => rfl

theorem insertions_append_stop (rule : ShareRule) (calls later : List ShareCall) :
    insertions rule (calls ++ setShared false :: later) =
      insertions rule calls + insertions rule later := by
  induction calls with
  | nil => exact (Nat.zero_add _).symm
  | cons call calls ih =>
    cases call with
    | addRule added =>
      rw [List.cons_append, insertions, insertions, sharings_append_stop, ih, Nat.add_assoc]
    | setShared shared => exact ih

theorem EachOnce.of_append_stop (h : EachOnce (calls ++ setShared false :: later)) :
    EachOnce calls := by
  induction calls with
  | nil => trivial
  | cons call calls ih =>
    cases call with
    | addRule added => exact ⟨(sharings_append_stop calls later).symm.trans h.1, ih h.2⟩
    | setShared shared => exact ih h

theorem EachOnce.insertions_eq (h : EachOnce calls) (rule : ShareRule) :
    insertions rule calls = additions rule calls := by
  induction calls with
  | nil => rfl
  | cons call calls ih =>
    unfold additions at ih ⊢
    cases call with
    | addRule added =>
      rw [insertions, ih h.2, h.1, List.count_cons, Nat.add_comm]
      simp only [beq_iff_eq, addRule.injEq]
    | setShared shared =>
      have hOther : setShared shared ≠ addRule rule := nofun
      rw [insertions, ih h, List.count_cons_of_ne hOther]

end ShareCall

/-- What calls about share rules come to in the packet filter, when nothing was there before and the
request is let go of in the end. -/
structure Tally (calls : List ShareCall) (changes : List FilterChange) : Prop where
  deleted : ∀ rule, changes.count (.delete, rule) = additions rule calls
  inserted : ∀ rule, changes.count (.insert, rule) = insertions rule calls
  balanced_iff : Balanced changes ↔ (∀ rule, insertions rule calls = additions rule calls) ∧
    ∀ before, before ++ [.setShared false] <+: calls →
      ∀ rule, additions rule before ≤ insertions rule before
  balanced : EachOnce calls → Balanced changes

/-- A request that was not given any rules yet deletes each rule as often as it is added, whatever the
calls. The packet filter is left as it was found if each rule meets one start of sharing. -/
theorem tally_filterLog {r : Request} (hNew : r.rules = []) (calls : List ShareCall)
    (reason : StateReason) : Tally calls (r.filterLog calls reason) := by
  have hDeleted (calls : List ShareCall) (rule : ShareRule) :
      (r.shareChanges (calls ++ [.setShared false])).count (.delete, rule) = additions rule calls := by
    rw [Request.count_delete_shareChanges, hNew, List.count_nil, Nat.zero_add]
  have hInserted (calls : List ShareCall) (rule : ShareRule) :
      (r.shareChanges (calls ++ [.setShared false])).count (.insert, rule) = insertions rule calls := by
    rw [Request.count_insert_shareChanges, hNew, List.count_nil, Nat.zero_mul, Nat.zero_add,
      insertions_append_stop]
    rfl
  have hBalanced : Balanced (r.shareChanges (calls ++ [.setShared false])) ↔
      (∀ rule, insertions rule calls = additions rule calls) ∧
        ∀ before, before ++ [.setShared false] <+: calls →
          ∀ rule, additions rule before ≤ insertions rule before := by
    constructor
    · rintro ⟨hEven, hCovered⟩
      refine ⟨fun rule => ?_, fun before hBefore rule => ?_⟩
      · rw [← hInserted, ← hEven, hDeleted]
      · have hStop := (Request.covered_shareChanges_iff r _).mp hCovered before
          (hBefore.trans (List.prefix_append ..)) rule
        rwa [hDeleted, hInserted] at hStop
    · rintro ⟨hEven, hStops⟩
      refine ⟨fun rule => ?_, (Request.covered_shareChanges_iff r _).mpr fun before hBefore rule => ?_⟩
      · rw [hDeleted, hInserted, hEven]
      · rw [hDeleted, hInserted]
        -- sharing stops within the calls, or at their end
        rcases List.prefix_concat_iff.mp hBefore with hEnd | hEarly
        · obtain ⟨rfl, -⟩ := List.append_inj' hEnd rfl
          exact Nat.le_of_eq (hEven rule).symm
        · exact hStops before hEarly rule
  rw [Request.filterLog_eq]
  exact
    { deleted := hDeleted calls
      inserted := hInserted calls
      balanced_iff := hBalanced
      balanced := fun hOnce => hBalanced.mpr ⟨hOnce.insertions_eq, fun before hBefore rule => by
        obtain ⟨later, rfl⟩ := hBefore
        rw [List.append_assoc] at hOnce
        exact Nat.le_of_eq (hOnce.of_append_stop.insertions_eq rule).symm⟩ }

namespace Tether

/-- The settings of a scanner behind a device node. -/
def settings : Settings :=
  Dict.ofList
    [("connection", Dict.ofList
       [("id", .text "tether"), ("uuid", .text "3f2504e0-4f89-11d3-9a0c-0305e82c3301"),
        ("type", .text "hidraw")]),
     ("hidraw", ∅)]

def connection : Connection :=
  { scope := .system, settings
    base := { id := "tether", uuid := "3f2504e0-4f89-11d3-9a0c-0305e82c3301", kind := "hidraw"
              autoconnect := true, timestamp := 0, readOnly := false } }

def identity : DeviceIdentity :=
  { udi := "/sys/devices/usb1/1-1/hidraw0", interface := "hidraw0", driver := "usbhid"
    index := some 0 }

/-- A request that was just made. -/
def request : Option Request :=
  (Device.ofHardware? identity (.hidraw "/dev/hidraw0")).map fun device =>
    (Request.start 0
      { connection, path := "/c", specific := none, userRequested := true, assumed := false
        timeout := none, nowait := false } 0 device).1

def rule : ShareRule := { table := "nat", rule := "POSTROUTING -j MASQUERADE" }

end Tether

/-- A rule that never stood in the packet filter is deleted from it, and one that was inserted twice is
deleted once. -/
theorem not_balanced_tether :
    Connection.ofSettings .system Tether.settings = .ok Tether.connection ∧
      ∃ r, Tether.request = some r ∧
        r.filterLog [.addRule Tether.rule] .userRequested = [(.delete, Tether.rule)] ∧
        ¬ Balanced (r.filterLog [.addRule Tether.rule] .userRequested) ∧
        ¬ Balanced (r.filterLog
          [.addRule Tether.rule, .setShared true, .setShared true] .userRequested) := by
  refine ⟨rfl, _, rfl, by decide, fun h => ?_, fun h => ?_⟩
  · exact absurd (h.even Tether.rule) (by decide)
  · exact absurd (h.even Tether.rule) (by decide)

/-- Sharing that starts once for each of two rules, and stops in between, leaves nothing behind. -/
theorem tally_tether : ∃ r, Tether.request = some r ∧ r.rules = [] ∧
    Balanced (r.filterLog
      [.addRule Tether.rule, .setShared true, .setShared false, .addRule Tether.rule,
        .setShared true] .userRequested) :=
  ⟨_, rfl, rfl, (tally_filterLog rfl _ _).balanced ⟨rfl, rfl, trivial⟩⟩

end ScannerHub
