import ScannerHub.Proofs.Manager.Failures
import ScannerHub.Proofs.Manager.Autoconnect
import ScannerHub.Proofs.Manager.Outliving

/-!
# Activations that failed

An activation that started without a user and failed is not started again, or it would fail again and
again. What it used is marked before anyone looks for something else to start, and the mark stays until
the manager goes to sleep or the connection changes. When the time for the request is up the activation
goes on without it, and fails later with nothing but a note to tell whose it was. The ledger shows
that the note is right.

* `Ledger.Traced` — a ledger whose notes tell who started what goes on;
* `Manager.Excuses` — what gives a connection that failed another chance;
* `Manager.Avoids` — an operation that starts nothing by itself with a connection.

## Results

* `Traced.failed` — whatever fails was started by someone the ledger knows;
* `Ledger.run_notRetried` — what failed without a user does not start again by itself.
-/

namespace ScannerHub

namespace Manager

variable {A : Nat → String → Prop} {m : Manager} {operation : Operation} {uuid : String} {n : Nat}

/-- What gives a connection that failed another chance. -/
inductive Excuses (m : Manager) (uuid : String) (operation : Operation) : Prop where
  | sleeps (hAsleep : (m.operate operation).isAsleep = true)
  | changes (hPardons : m.Pardons uuid operation)

/-- Whatever starts with an operation was asked for by a user, or uses another connection. -/
def Avoids (m : Manager) (uuid : String) (operation : Operation) : Prop :=
  ∀ n, .activeConnectionAdded n ∈ m.report operation → ∃ r ∈ (m.operate operation).requests,
    r.id = n ∧ (r.userRequested = false → r.connection.uuid ≠ uuid)

/-- A switch that is turned while the manager is awake puts it to sleep. -/
theorem Settled.asleep_of_switches (h : m.Settled A) (hAwake : m.isAsleep = false)
    (hSwitches : m.Switches operation) : (m.operate operation).isAsleep = true := by
  rw [← Bool.not_eq_false]
  intro hStill
  refine absurd hAwake (Bool.not_eq_false _ ▸ ?_)
  cases operation with
  | setSleeping uid sleeping =>
    change (m.setSleeping uid sleeping).2 = .ok () at hSwitches
    change (m.setSleeping uid sleeping).1.isAsleep = false at hStill
    unfold Manager.setSleeping at hSwitches hStill
    split at hSwitches
    · cases hSwitches
    · rename_i hNe
      rw [if_neg hNe] at hStill
      split at hSwitches
      · cases hSwitches
      · rename_i hAuthorized
        rw [hAuthorized] at hStill
        have hFlag : Same m { m with sleeping } := ⟨rfl, rfl, rfl, rfl, rfl, rfl, rfl, fun _ => rfl⟩
        have hSame : Same m ({ m with sleeping }.publish (.sleepingChanged sleeping)) :=
          hFlag.trans (same_publish _ fun _ => rfl)
        exact asleep_of_sleeping hNe ((h.toCoherent.same hSame).isAsleep_applySwitches.symm.trans hStill)
  | setEnabled uid enabled =>
    change (m.setEnabled uid enabled).2 = .ok () at hSwitches
    change (m.setEnabled uid enabled).1.isAsleep = false at hStill
    unfold Manager.setEnabled at hSwitches hStill
    split at hSwitches
    · cases hSwitches
    · rename_i hNe
      rw [if_neg hNe] at hStill
      split at hSwitches
      · cases hSwitches
      · rename_i hAuthorized
        rw [hAuthorized] at hStill
        have hFlag : Same m { m with store := (m.store.set enabled).1, networkingEnabled := enabled } :=
          ⟨rfl, rfl, rfl, rfl, rfl, rfl, rfl, fun _ => rfl⟩
        have hSame : Same m ({ m with store := (m.store.set enabled).1
                                      networkingEnabled := enabled }.publish
            (.networkingEnabledChanged enabled)) :=
          hFlag.trans (same_publish _ fun _ => rfl)
        exact asleep_of_enabled hNe ((h.toCoherent.same hSame).isAsleep_applySwitches.symm.trans hStill)
  | _ => exact hSwitches.elim

/-- Whatever drives activations on leaves the manager awake. -/
theorem Informed.awake_of_drives (h : m.Informed A) (hAwake : m.isAsleep = false)
    (hDrives : operation.drives = true) : (m.operate operation).isAsleep = false := by
  have hSame : (m.operate operation).isAsleep = m.isAsleep :=
    h.toSettled.isAsleep_operate h.dormant (fun uid sleeping hEq => by subst hEq; cases hDrives)
      fun uid enabled hEq => by subst hEq; cases hDrives
  exact hSame.trans hAwake

/-- A connection that failed is passed over for as long as it gets no other chance. -/
theorem Barred.operate (h : Barred uuid n m) (hInformed : m.Informed A) (hAwake : m.isAsleep = false)
    (hKept : ¬ m.Excuses uuid operation) : Barred uuid n (m.operate operation) :=
  h.passages (hInformed.passages operation) hInformed.toFits (fun hK => hKept (.changes hK))
    fun hK => hKept (.sleeps (hInformed.toSettled.asleep_of_switches hAwake hK))

/-- What starts with an operation does not use a connection that is passed over once it is over. -/
theorem Barred.avoids (h : Barred uuid n (m.operate operation)) (hInformed : m.Informed A)
    (hOld : n ≤ m.nextRequest) : m.Avoids uuid operation := by
  intro number hAdded
  obtain ⟨hNew, r, hr, rfl⟩ := hInformed.operate_announced hAdded
  exact ⟨r, hr, rfl, h.spared r hr (Nat.le_trans hOld hNew)⟩

/-- The scanner comes in, a connection starts by itself, and the time for it runs out. -/
def DialUp.unattended : List Operation :=
  [.addDevice scanner_isNew, .setServiceRunning .system true,
   .connectionAdded .system "/d" DialUp.eager, .processTimeouts 1000]

end Manager

namespace Ledger

open Manager

variable {A : Nat → String → Prop} {l : Ledger} {operation : Operation} {x : Nat}

/-- A ledger whose notes tell who started what goes on. -/
structure Traced (A : Nat → String → Prop) (l : Ledger) : Prop extends Sound A l where
  informed : l.manager.Informed A
  noted : ∀ x o, l.manager.orphan? x = some o → some o.origin = (l.starter x).map Request.origin

theorem start_traced (store : StateStore) (allowed : List Nat) (timeout : Option Nat) (epoch : Nat) :
    (start store allowed timeout epoch).Traced A :=
  ⟨start_sound store allowed timeout epoch, start_informed store allowed timeout epoch, nofun⟩

/-- What goes on at a device is what the ledger remembers. -/
theorem Traced.descends (h : l.Traced A) (x n : Nat) :
    (l.manager.site x).Descends n ((l.starter x).map Request.origin) :=
  ⟨fun r hr _ => by rw [h.live x r hr]; rfl, h.noted x⟩

theorem Traced.operate (h : l.Traced A) (operation : Operation) : (l.operate operation).Traced A := by
  have hSound := h.toSound.operate operation
  refine ⟨hSound, h.informed.operate operation, fun x o ho => ?_⟩
  have hDescends := Passages.descends (h.informed.passages operation) h.informed.toFits h.informed.named
    (fun _ hK => Expires.bound hK h.informed.toFits) (fun _ hK => hK) (h.descends x l.manager.nextRequest)
  have hOrigin := hDescends.orphan o ho
  -- whoever is noted has no request, so the ledger remembers what it did before
  have hSome : ((l.operate operation).manager.orphan? x).isSome = true := by rw [ho]; rfl
  obtain ⟨-, -, -, hNone⟩ := (hSound.settled.adrift hSome).active
  rw [starter_operate, hNone, if_pos hSome, Option.none_or]
  exact hOrigin

theorem Traced.run (h : l.Traced A) (operations : List Operation) : (l.run operations).Traced A := by
  induction operations generalizing l with
  | nil => exact h
  | cons operation operations ih => exact ih (h.operate operation)

/-- Whatever the ledger remembers goes on. -/
theorem Sound.goesOn (h : l.Sound A) (hStarter : (l.starter x).isSome = true) :
    ∃ d, l.manager.device? x = some d ∧ d.state.isActive = true := by
  have hThere : ∃ d, l.manager.device? x = some d := by
    rw [h.known] at hStarter
    cases hOn : l.manager.requestOn? x with
    | some r =>
      obtain ⟨hr, rfl⟩ := requestOn?_eq_some hOn
      exact h.settled.toFits.exists_device hr
    | none =>
      rw [hOn, Option.isSome_none, Bool.false_or] at hStarter
      obtain ⟨d, hd, -⟩ := (h.settled.adrift hStarter).active
      exact ⟨d, hd⟩
  obtain ⟨d, hd⟩ := hThere
  obtain ⟨hMem, rfl⟩ := device?_eq_some hd
  exact ⟨d, hd, (h.active d hMem).trans hStarter⟩

/-- Whatever fails was started by someone the ledger knows, whether the request is still there or
nothing but a note. If no user did, then its connection is passed over from now on. -/
theorem Traced.failed (h : l.Traced A) {old : DeviceState} {reason : StateReason}
    (hFailed : .deviceStateChanged x .failed old reason ∈ l.manager.report operation) :
    ∃ r, l.starter x = some r ∧
      (l.manager.requestOn? x = some r ∨ l.manager.requestOn? x = none ∧
        (l.manager.orphan? x).map Orphan.origin = some r.origin) ∧
      (l.manager.operate operation).isAsleep = false ∧ (r.userRequested = false →
        Barred r.connection.uuid l.manager.nextRequest (l.manager.operate operation)) := by
  obtain ⟨hDrives, asked, uuid, hOrigin, hBarred⟩ :=
    h.informed.operate_failed (h.descends x l.manager.nextRequest) hFailed
  obtain ⟨r, hStarter, hSame⟩ := Option.map_eq_some_iff.mp hOrigin
  cases hSame
  have hKnown := h.known x
  rw [hStarter, Option.isSome_some] at hKnown
  refine ⟨r, hStarter, ?_, h.informed.awake_of_drives ?_ hDrives, hBarred⟩
  · cases hOn : l.manager.requestOn? x with
    | some q =>
      have hLive := h.live x q hOn
      rw [hStarter] at hLive
      exact .inl hLive.symm
    | none =>
      rw [hOn, Option.isSome_none, Bool.false_or] at hKnown
      obtain ⟨o, ho⟩ := Option.isSome_iff_exists.mp hKnown.symm
      refine .inr ⟨rfl, ?_⟩
      rw [ho]
      exact (h.noted x o ho).trans (by rw [hStarter]; rfl)
  · obtain ⟨d, hd, hActive⟩ := h.toSound.goesOn (x := x) (by rw [hStarter]; rfl)
    rw [← Bool.not_eq_true]
    intro hAsleep
    have hIdle := h.settled.toFits.unmanaged hd (h.informed.dormant hAsleep x d hd)
    rw [hIdle] at hActive
    cases hActive

/-- **What failed without a user does not start again by itself.** Whenever a device fails, the ledger
knows the request that its activation was started with; the request is still there, or time took it and
left a note. If no user asked for it then nothing starts by itself with the same connection, neither
with the operation in which the device fails nor with any later one, unless the manager goes to sleep
or the connection changes before. -/
theorem run_notRetried (store : StateStore) (allowed : List Nat) (timeout : Option Nat) (epoch : Nat)
    (before : List Operation) (operation : Operation) (x : Nat) (old : DeviceState)
    (reason : StateReason) :
    let l := (start store allowed timeout epoch).run before
    let m := l.manager
    .deviceStateChanged x .failed old reason ∈ m.report operation →
    ∃ r, l.starter x = some r ∧
      (m.requestOn? x = some r ∨
        m.requestOn? x = none ∧ (m.orphan? x).map Orphan.origin = some r.origin) ∧
      (r.userRequested = false → m.Avoids r.connection.uuid operation ∧
        ∀ after last, Throughout (fun m operation => ¬ m.Excuses r.connection.uuid operation)
            (m.operate operation) (after ++ [last]) →
          ((m.operate operation).run after).Avoids r.connection.uuid last) := by
  intro l m hFailed
  have h : l.Traced fun _ _ => True := (start_traced store allowed timeout epoch).run before
  obtain ⟨r, hStarter, hOwner, hAwake, hBarred⟩ := h.failed hFailed
  refine ⟨r, hStarter, hOwner, fun hAlone => ⟨(hBarred hAlone).avoids h.informed (Nat.le_refl _),
    fun after last hKept => ?_⟩⟩
  obtain ⟨hAfter, hLast, -⟩ := throughout_append.mp hKept
  obtain ⟨hInformed, hStill, hLasts, hOld⟩ := hAfter.run
    (I := fun m' => m'.Informed (fun _ _ => True) ∧ m'.isAsleep = false ∧
      Barred r.connection.uuid m.nextRequest m' ∧ m.nextRequest ≤ m'.nextRequest)
    (fun h hKept => ⟨h.1.operate _, Bool.not_eq_true _ ▸ fun hAsleep => hKept (.sleeps hAsleep),
      h.2.2.1.operate h.1 h.2.1 hKept, Nat.le_trans h.2.2.2 (Passages.nextRequest (h.1.passages _))⟩)
    ⟨h.informed.operate operation, hAwake, hBarred hAlone, Passages.nextRequest (h.informed.passages operation)⟩
  exact (hLasts.operate hInformed hStill hLast).avoids hInformed hOld

/-- The link fails after time took the request, and then the same connection comes once more. -/
theorem run_notRetried_unattended :
    let l := (start DialUp.store [] (some 1000) 0).run DialUp.unattended
    let operation : Operation := .linkChanged 0 false
    let last : Operation := .connectionAdded .system "/e" DialUp.eager
    .deviceStateChanged 0 .failed .config .linkFailed ∈ l.manager.report operation ∧
      l.manager.requestOn? 0 = none ∧ ∃ r, l.starter 0 = some r ∧ r.userRequested = false ∧
        ¬ (l.manager.operate operation).Excuses r.connection.uuid last ∧
        (l.manager.operate operation).Avoids r.connection.uuid last := by
  intro l operation last
  have hFailed : .deviceStateChanged 0 .failed .config .linkFailed ∈ l.manager.report operation := by
    decide +kernel
  have hGone : l.manager.requestOn? 0 = none :=
    Option.isNone_iff_eq_none.mp (by decide +kernel)
  have hOrigin : (l.starter 0).map Request.origin =
      some (false, "6f8e2a44-1c1a-4b7e-9c55-2b1f0c8e7d01") := by decide +kernel
  have hAwake : ((l.manager.operate operation).operate last).isAsleep = false := by decide +kernel
  obtain ⟨r, hStarter, -, hSpared⟩ := run_notRetried DialUp.store [] (some 1000) 0 DialUp.unattended
    operation 0 .config .linkFailed hFailed
  change l.starter 0 = some r at hStarter
  have hAlone : r.userRequested = false := by
    rw [hStarter] at hOrigin
    exact congrArg Prod.fst (Option.some.inj hOrigin)
  have hKept : ¬ (l.manager.operate operation).Excuses r.connection.uuid last := by
    rintro (hAsleep | hPardons)
    · rw [hAwake] at hAsleep
      cases hAsleep
    · exact hPardons
  have hRun : Throughout (fun m operation => ¬ m.Excuses r.connection.uuid operation)
      (l.manager.operate operation) ([] ++ [last]) := ⟨hKept, trivial⟩
  have hAvoids : ((l.manager.operate operation).run []).Avoids r.connection.uuid last :=
    (hSpared hAlone).2 [] last hRun
  rw [show (l.manager.operate operation).run [] = l.manager.operate operation from List.foldl_nil] at hAvoids
  exact ⟨hFailed, hGone, r, hStarter, hAlone, hKept, hAvoids⟩

end Ledger

end ScannerHub
