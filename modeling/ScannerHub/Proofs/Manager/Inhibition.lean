import ScannerHub.Proofs.Manager.Fates
import ScannerHub.Proofs.Manager.Autoconnect

/-!
# Devices that a user stopped

Almost everything that happens makes the manager look again whether something could start by itself:
settings that change, services that come back, firmware, and what other devices do. A device that a
user stopped is passed over each time. It is noted at the device itself, before anything that follows
from its stop is handled, and only a user who starts something there or the end of a sleep clears the
note.

* `Manager.Releases` — what makes a device free again;
* `Manager.Down` — a device that was stopped, and has no request.

## Results

* `Down.fate` — a device that is down stays down, whatever becomes of it;
* `run_staysDown` — nothing starts on a device that a user stopped.
-/

namespace ScannerHub

namespace Site

variable {K : Feat → Prop} {s s' : Site} {news : List ManagerEvent} {effects : List Effect}

/-- A device that was stopped and has no request is not told anything that would make it free. -/
theorem Heeds.inhibited {f : Device → Update} (h : s.Heeds K f) (hRouses : ¬ K .rouses) {d : Device}
    (hInhibited : d.autoconnectInhibited = true) : (f d).device.autoconnectInhibited = true := by
  cases h with
  | halts _ hf => exact hf.inhibited hInhibited
  | drives _ hf => exact hf.inhibited hInhibited
  | abandons => exact Device.Drives.failAuth.inhibited hInhibited
  | recovers _ reason => exact (Device.moveTo_proceeds d .disconnected reason).flags.inhibited.trans hInhibited
  | rouses hK => exact absurd hK hRouses

theorem Episode.inhibited (h : s.Episode K s' news effects) (hRouses : ¬ K .rouses)
    (hNone : s.request = none) (hInhibited : ∀ d, s.device = some d → d.autoconnectInhibited = true) :
    ∀ d, s'.device = some d → d.autoconnectInhibited = true := by
  intro d' hd'
  cases h with
  | @flag d hd due =>
    cases hd'
    exact show d.autoconnectInhibited = true from hInhibited d hd
  | hears hd hf =>
    cases hd'
    exact hf.inhibited hRouses (hInhibited _ hd)
  | tell => exact hInhibited d' hd'
  | leave =>
    obtain ⟨d, hd, rfl⟩ := Option.map_eq_some_iff.mp hd'
    exact hInhibited d hd
  | look hr | revise hr | refuse _ _ hr | part hr | expire hr | adopt hr | wait hr =>
    rw [hNone] at hr
    cases hr

end Site

namespace Manager

variable {A : Nat → String → Prop} {K : Feat → Prop} {m m' : Manager} {x : Nat}
variable {news : List ManagerEvent} {operation : Operation}

/-- What makes a device that a user stopped free again. -/
inductive Releases (m : Manager) (x : Nat) (operation : Operation) : Prop where
  /-- A user starts something there. -/
  | starts (hStarts : m.Starts x operation)
  /-- The manager wakes up. -/
  | wakes (hAsleep : m.isAsleep = true) (hAwake : (m.operate operation).isAsleep = false)
  /-- The device goes. -/
  | goes (hGone : (m.operate operation).device? x = none)

/-- A device that was there once is gone, or it was stopped, and nothing is started there. -/
structure Down (x : Nat) (m : Manager) : Prop where
  known : x < m.nextDevice
  inhibited : ∀ d, m.device? x = some d → d.autoconnectInhibited = true
  request : m.requestOn? x = none

/-- A device that is down stays down, whatever becomes of it. -/
theorem Down.fate (h : m.Down x) (hFate : Fate K m m' x news) (hStarts : ¬ K (.starts x))
    (hRouses : ¬ K .rouses) (hDevices : m.nextDevice ≤ m'.nextDevice) : m'.Down x := by
  have hKnown := Nat.lt_of_lt_of_le h.known hDevices
  cases hFate with
  | stays hSite =>
    exact ⟨hKnown, fun d hd => h.inhibited d ((congrArg Site.device hSite).symm.trans hd),
      (congrArg Site.request hSite).trans h.request⟩
  | turns hEpisode =>
    refine ⟨hKnown, hEpisode.inhibited hRouses h.request h.inhibited, ?_⟩
    refine Option.eq_none_iff_forall_ne_some.mpr fun r' hr' => ?_
    obtain ⟨r, hr, -⟩ := hEpisode.kept hr'
    exact nomatch h.request.symm.trans hr
  | @starts d d' r u hK hd hState hFree hLaunch hSite hUser hAuto =>
    cases hAsked : r.userRequested with
    | true => exact absurd (hUser hAsked) hStarts
    | false =>
      have hFreed := (hAuto hAsked).1
      rw [h.inhibited d hd] at hFreed
      cases hFreed
  | comes hNew => exact absurd hNew (Nat.ne_of_lt h.known)
  | goes hNone hDevice hRequest =>
    exact ⟨hKnown, fun d hd => (nomatch hDevice.symm.trans hd), hRequest⟩

theorem Down.passages (h : m.Down x) (hPassages : Passages A K m m') (hFits : m.Fits A)
    (hStarts : ¬ K (.starts x)) (hRouses : ¬ K .rouses) : m'.Down x := by
  refine (passages_preserve (P := fun m => m.Down x) (fun hPassage hFits h => ?_) hPassages hFits h).2
  obtain ⟨news, -, hFate⟩ := hPassage.fate hFits x
  exact h.fate hFate hStarts hRouses hPassage.nextDevice

/-- Every operation that does not make a device free leaves it down. -/
theorem Down.operate (h : m.Down x) (hInformed : m.Informed A) (hKept : ¬ m.Releases x operation) :
    (m.operate operation).Down x :=
  h.passages (hInformed.passages operation) hInformed.toFits (fun hK => hKept (.starts hK))
    fun hK => hKept (.wakes hK.1 hK.2)

/-- A device that a user stopped is down before anything that follows from its stop is handled. -/
theorem Settled.down_deactivated (h : m.Settled A) {r : Request} (hr : r ∈ m.requests) :
    (m.deactivated r).Down r.device := by
  obtain ⟨d, hd⟩ := h.toFits.exists_device hr
  obtain ⟨hMem, hId⟩ := device?_eq_some hd
  have hOn := h.linked.requestOn?_of_mem hr
  have hTeardown := h.toFits.turns_teardownOn r.device .userRequested
  have hThere : (m.teardownOn r.device .userRequested).device? r.device = some (Site.leftAlone d) :=
    (congrArg Site.device hTeardown.here).trans (congrArg (Option.map Site.leftAlone) hd)
  have hNone : (m.teardownOn r.device .userRequested).requestOn? r.device = none :=
    congrArg Site.request hTeardown.here
  have hSound := hTeardown.fits.sound hThere
  have hStopped := Turns.of_update (hTeardown.fits.carries hThere
    (f := fun d => { d with autoconnectInhibited := true }.deactivate .userRequested)
    (Device.Order.stopForUser.carries hSound.allListen hSound.device))
  unfold Manager.deactivated
  rw [teardown_on hOn]
  refine ⟨?_, fun e he => ?_, ?_⟩
  · rw [hStopped.nextDevice, hTeardown.nextDevice, ← hId]
    exact h.linked.deviceBound d hMem
  · cases (congrArg Site.device hStopped.here).symm.trans he
    exact Device.deactivate_inhibited _ _
  · refine (congrArg Site.request hStopped.here).trans ?_
    show ((m.teardownOn r.device .userRequested).requestOn? r.device).map _ = none
    rw [hNone]
    rfl

/-- A device that a user stopped is down. -/
theorem Informed.down_deactivateConnection (h : m.Informed A) {uid : Nat} {active : String} {r : Request}
    (hActive : (activeOfPath? active).bind m.request? = some r)
    (hOk : (m.deactivateConnection uid active).2 = .ok ()) :
    (m.operate (.deactivateConnection uid active)).Down r.device := by
  obtain ⟨n, -, hr⟩ := Option.bind_eq_some_iff.mp hActive
  have hMem := (request?_eq_some hr).1
  obtain ⟨hStopped, hCoherent, hPermits⟩ := h.toSettled.passages_deactivated hMem uid active
  have hSettles : Passages A (m.Grants (.deactivateConnection uid active)) (m.deactivated r)
      (m.deactivated r).settle :=
    Passages.settle .refl (hStopped.nextRequest) (hStopped.stamped h.stamped) hCoherent hPermits
  have hEq : m.operate (.deactivateConnection uid active) = (m.deactivated r).settle := by
    show (m.deactivateConnection uid active).1 = _
    unfold Manager.deactivateConnection at hOk ⊢
    split at hOk
    · cases hOk
    · rw [hActive] at hOk ⊢
      rfl
  have hSame : (m.operate (.deactivateConnection uid active)).isAsleep = m.isAsleep :=
    h.toSettled.isAsleep_operate h.dormant nofun nofun
  have hAsleep : ¬ m.Grants (.deactivateConnection uid active) .rouses := by
    rintro ⟨hAsleep, hAwake⟩
    rw [hSame, hAsleep] at hAwake
    cases hAwake
  rw [hEq]
  exact (h.toSettled.down_deactivated hMem).passages hSettles hCoherent.toFits (fun hK => hK) hAsleep

/-- Once a user has stopped a device nothing starts there: for as long as no user starts something
there, the manager does not wake up, and the device does not go, it stays stopped, it has no request,
and every request that is announced is one on another device. -/
theorem run_staysDown (store : StateStore) (allowed : List Nat) (timeout : Option Nat) (epoch : Nat)
    (before : List Operation) (uid : Nat) (active : String) (r : Request) (after : List Operation)
    (operation : Operation) :
    let m := (start store allowed timeout epoch).run before
    let m₁ := m.operate (.deactivateConnection uid active)
    let m₂ := m₁.run after
    (activeOfPath? active).bind m.request? = some r →
    (m.deactivateConnection uid active).2 = .ok () →
    Throughout (fun m operation => ¬ m.Releases r.device operation) m₁ (after ++ [operation]) →
    (∃ d, (m₂.operate operation).device? r.device = some d ∧ d.autoconnectInhibited = true) ∧
      (m₂.operate operation).requestOn? r.device = none ∧
      ∀ n, .activeConnectionAdded n ∈ m₂.report operation →
        ∃ r' ∈ (m₂.operate operation).requests, r'.id = n ∧ r'.device ≠ r.device := by
  intro m m₁ m₂ hActive hOk hKept
  have hInformed : m.Informed fun _ _ => True :=
    run_informed (start_informed store allowed timeout epoch) before
  have hInformed₁ := hInformed.operate (.deactivateConnection uid active)
  have hInformed₂ : m₂.Informed fun _ _ => True := run_informed hInformed₁ after
  obtain ⟨hAfter, hLast, -⟩ := throughout_append.mp hKept
  obtain ⟨-, hBefore⟩ := hAfter.run (I := fun m => m.Informed (fun _ _ => True) ∧ m.Down r.device)
    (fun h hFree => ⟨h.1.operate _, h.2.operate h.1 hFree⟩)
    ⟨hInformed₁, hInformed.down_deactivateConnection hActive hOk⟩
  have hDown := hBefore.operate hInformed₂ hLast
  refine ⟨?_, hDown.request, fun n hAdded => ?_⟩
  · cases hd : (m₂.operate operation).device? r.device with
    | none => exact absurd (.goes hd) hLast
    | some d => exact ⟨d, rfl, hDown.inhibited d hd⟩
  · obtain ⟨-, r', hr', hId⟩ := hInformed₂.operate_announced hAdded
    refine ⟨r', hr', hId, fun hDevice => ?_⟩
    have hOn := (hInformed₂.operate operation).linked.requestOn?_of_mem hr'
    rw [hDevice, hDown.request] at hOn
    cases hOn

/-- The scanner is stopped while it dials, and then a connection comes that would start by itself. -/
theorem run_staysDown_dialUp :
    let m := (start DialUp.store [] none 0).run DialUp.connecting
    let m₁ := m.operate (.deactivateConnection 0 (activePath 0))
    let operation : Operation := .connectionAdded .system "/d" DialUp.eager
    (∃ r, (activeOfPath? (activePath 0)).bind m.request? = some r ∧ r.device = 0) ∧
      (m.deactivateConnection 0 (activePath 0)).2 = .ok () ∧ ¬ m₁.Releases 0 operation ∧
      (m₁.operate operation).requestOn? 0 = none := by
  intro m m₁ operation
  have hPath : activeOfPath? (activePath 0) = some 0 := by decide +kernel
  have hOk : (m.deactivateConnection 0 (activePath 0)).2 = .ok () := by decide +kernel
  obtain ⟨r, hr, hDevice⟩ : ∃ r, m.request? 0 = some r ∧ r.device = 0 :=
    Option.map_eq_some_iff.mp (show (m.request? 0).map Request.device = some 0 by decide +kernel)
  have hActive : (activeOfPath? (activePath 0)).bind m.request? = some r := by
    rw [hPath]
    exact hr
  have hFree : ¬ m₁.Releases 0 operation := by
    intro hReleases
    cases hReleases with
    | starts hStarts => exact hStarts
    | wakes hAsleep => exact absurd hAsleep (by decide +kernel)
    | goes hGone => exact absurd hGone (by decide +kernel)
  have hKept : Throughout (fun m operation => ¬ m.Releases r.device operation) m₁
      ([] ++ [operation]) := by
    rw [hDevice]
    exact ⟨hFree, trivial⟩
  have hDown := run_staysDown DialUp.store [] none 0 DialUp.connecting 0 (activePath 0) r [] operation
    hActive hOk hKept
  have hNone := hDown.2.1
  rw [hDevice] at hNone
  exact ⟨⟨r, hActive, hDevice⟩, hOk, hFree, hNone⟩

end Manager

end ScannerHub
