import ScannerHub.Proofs.Manager.Elsewhere

/-!
# Isolation

Most operations are about one device. All of them settle the manager as a whole, which works off
the events of every device and may start an activation on any. But before the operation nothing
waited and nothing was due, so whatever happens starts at the one device, and the others, with the
requests on them and the notes of their activations, stay as they are.

* `Operation.Aims` — which operations are about one device, and about which;
* `Spares` — nothing has happened to a device.

## Results

* `Settled.spares_operate` — an operation about one device spares all others;
* `run_isolated` — so it does after every run.
-/

namespace ScannerHub

/-- The operations that are about one device, with its handle. There is none if what an operation
names is not there. -/
inductive Operation.Aims (m : Manager) : Operation → Option Nat → Prop where
  | addDevice {d : Device} (hNew : d.IsNew) : Aims m (.addDevice hNew) (some m.nextDevice)
  | removeDevice (id : Nat) : Aims m (.removeDevice id) (some id)
  | removeDeviceByInterface (interface : String) :
    Aims m (.removeDeviceByInterface interface) ((m.deviceByInterface? interface).map Device.id)
  | setFirmwareMissing (interface : String) (missing : Bool) :
    Aims m (.setFirmwareMissing interface missing) ((m.deviceByInterface? interface).map Device.id)
  | activateConnection (uid : Nat) (service path device : String) (specific : Option String) :
    Aims m (.activateConnection uid service path device specific) (deviceOfPath? device)
  | deactivateConnection (uid : Nat) (active : String) :
    Aims m (.deactivateConnection uid active)
      (((activeOfPath? active).bind m.request?).map Request.device)
  | secretsReply (call : SecretsCall) (answer : Except Error Settings) :
    Aims m (.secretsReply call answer) ((m.request? call.request).map Request.device)
  | linkChanged (device : Nat) (up : Bool) : Aims m (.linkChanged device up) (some device)

namespace Manager

variable {A : Nat → String → Prop} {m m' : Manager} {x : Nat}

-- ---------------------------------------------------------------------------
-- One operation
-- ---------------------------------------------------------------------------

/-- Nothing is left to do for a device of a settled manager, so it is spared when the manager
settles once more. -/
theorem Settled.spares_settled (h : m.Settled A) (hSpares : Spares x m m') (h' : m'.Coherent A) :
    Spares x m m'.settle := by
  have hQueue : m'.queueOf x = [] := hSpares.queue.trans (queueOf_nil h.queue x)
  have hNotDue : x ∉ m'.pending := by
    intro hDue
    have hOld := hSpares.pending hDue
    simp [h.pending] at hOld
  exact hSpares.trans (h'.spares_settle hQueue hNotDue)

/-- Another device is told something. -/
theorem Settled.spares_updated (h : m.Settled A) {id : Nat} (hx : x ≠ id) {f : Device → Update}
    (hf : ∀ d : Device, d.AllListen → d.Sound → Device.Carries d (f d)) :
    Spares x m (m.updateDevice id f).settle :=
  h.spares_settled (h.toFits.spares_updateDevice hx hf) (h.toCoherent.updateDevice id hf)

theorem Settled.spares_addDevice (h : m.Settled A) {d : Device} (hNew : d.IsNew)
    (hx : x ≠ m.nextDevice) : Spares x m (m.addDevice d).1 := by
  unfold Manager.addDevice
  split
  · exact .refl x m
  · rename_i hKnown
    have hUdi : ∀ e ∈ m.devices, e.udi ≠ d.udi := by
      intro e he hEq
      exact hKnown (List.any_eq_true.mpr ⟨e, he, by simp [hEq]⟩)
    obtain ⟨-, -, hSite⟩ := h.toFits.takenIn h.queue hNew.unused hUdi
    have hTaken := h.toCoherent.takenIn h.queue hNew.unused hUdi
    have hComes : Spares x m (m.takenIn (m.newcomer d)) :=
      .of_site (by rw [hSite x, if_neg hx]) fun hDue => hDue
    have hSame : Same (m.takenIn (m.newcomer d))
        ((m.takenIn (m.newcomer d)).publish (.deviceAdded m.nextDevice)) :=
      same_publish _ fun _ => rfl
    have hPublished := hTaken.same hSame
    have hSpares := hComes.trans (hSame.spares (x := x) fun hDue => hDue)
    have hManages : ∀ d : Device, d.AllListen → d.Sound →
        Device.Carries d (d.setManaged true .nowManaged) :=
      fun _ => Device.setManaged_carries true .nowManaged
    change Spares x m (Manager.settle (if _ then
      (m.takenIn (m.newcomer d)).publish (.deviceAdded m.nextDevice) else _))
    split
    · exact h.spares_settled hSpares hPublished
    · exact h.spares_settled (hSpares.trans (hPublished.toFits.spares_updateDevice hx hManages))
        (hPublished.updateDevice _ hManages)

theorem Settled.spares_removeDevice (h : m.Settled A) {id : Nat} (hx : x ≠ id) :
    Spares x m (m.removeDevice id) := by
  have hReleases : ∀ d : Device, d.AllListen → d.Sound →
      Device.Carries d (d.setManaged false .removed) :=
    fun _ => Device.setManaged_carries false .removed
  have hEnded := h.toFits.teardownOn id .removed
  have hLeft : Spares x m (m.teardownOn id .removed) :=
    hEnded.spares hx (rests_teardownOn m id .removed).pending
  have hReleased : Spares x m (m.released id) :=
    hLeft.trans (hEnded.fits.spares_updateDevice hx hReleases)
  have hCoherent : (m.released id).Coherent A :=
    h.toCoherent.teardownOn_stop id .removed hReleases fun d hListen hSound => by
      rw [Device.setManaged_false_state .removed hListen hSound]
      rfl
  have hPumped := hReleased.trans
    (hCoherent.spares_pump (hReleased.queue.trans (queueOf_nil h.queue x)))
  obtain ⟨hLast, -, hQueue, hIdle⟩ := h.toCoherent.released id
  unfold Manager.removeDevice
  change Spares x m (Manager.settle (if ((m.released id).pump.device? id).isSome then
    ((m.released id).pump.dismissed id).publish (.deviceRemoved id) else (m.released id).pump))
  split
  · obtain ⟨hGone, hRequest, hOrphan⟩ := hLast.dismissed id hIdle (queueOf_nil hQueue id)
    have hDismissed : Spares x (m.released id).pump ((m.released id).pump.dismissed id) :=
      .of_site ((hLast.toFits.dismissed id hRequest hOrphan).away x hx)
        fun hDue => (List.mem_filter.mp hDue).1
    have hSame : Same ((m.released id).pump.dismissed id)
        (((m.released id).pump.dismissed id).publish (.deviceRemoved id)) :=
      same_publish _ fun _ => rfl
    exact h.spares_settled ((hPumped.trans hDismissed).trans (hSame.spares fun hDue => hDue))
      (hGone.same hSame)
  · exact h.spares_settled hPumped hLast

theorem Settled.spares_activateConnection (h : m.Settled A) (uid : Nat)
    (service path device : String) (specific : Option String)
    (hx : deviceOfPath? device ≠ some x) :
    Spares x m (m.activateConnection uid service path device specific).1 := by
  unfold Manager.activateConnection
  split
  · exact .refl x m
  · split
    · exact .refl x m
    · rename_i scope _
      split
      · exact .refl x m
      · rename_i id hFound
        have hNe : x ≠ id := by
          rintro rfl
          exact hx (Option.filter_eq_some_iff.mp hFound).1
        have hStarted := h.toCoherent.spares_activate hNe (queueOf_nil h.queue x) scope path
          (specific.filter fun p => !p.isEmpty && p != "/") true
        have hCoherent := h.toCoherent.activate id scope path
          (specific.filter fun p => !p.isEmpty && p != "/") true
        dsimp only
        split
        · rename_i hActivate
          rw [hActivate] at hStarted
          exact hStarted
        · rename_i hActivate
          rw [hActivate] at hStarted hCoherent
          exact h.spares_settled hStarted hCoherent

theorem Settled.spares_deactivateConnection (h : m.Settled A) (uid : Nat) (active : String)
    (hx : ((activeOfPath? active).bind m.request?).map Request.device ≠ some x) :
    Spares x m (m.deactivateConnection uid active).1 := by
  unfold Manager.deactivateConnection
  split
  · exact .refl x m
  · split
    · exact .refl x m
    · rename_i r hFound
      obtain ⟨id, -, hr⟩ := Option.bind_eq_some_iff.mp hFound
      obtain ⟨hMem, -⟩ := request?_eq_some hr
      have hNe : x ≠ r.device := by
        rintro rfl
        exact hx (by rw [hFound]; rfl)
      have hStops : ∀ d : Device, d.AllListen → d.Sound → Device.Carries d
          ({ d with autoconnectInhibited := true }.deactivate .userRequested) :=
        fun _ => Device.Order.stopForUser.carries
      have hEnded : Spares x m (m.teardown r.id .userRequested) := by
        refine h.toFits.spares_teardown r.id (fun q hq hId => ?_) .userRequested
        rwa [h.linked.eq_of_id hq hMem hId]
      have hStopped := hEnded.trans ((h.toFits.teardown_fits r.id
        .userRequested).1.spares_updateDevice hNe hStops)
      exact h.spares_settled hStopped (h.toCoherent.teardown_stop (h.linked.request?_of_mem hMem)
        .userRequested hStops fun d hListen _ => Device.deactivate_idle .userRequested hListen)

theorem Settled.spares_secretsReply (h : m.Settled A) (call : SecretsCall)
    (answer : Except Error Settings) (hx : (m.request? call.request).map Request.device ≠ some x) :
    Spares x m (m.secretsReply call answer) := by
  obtain hEq | hEq | ⟨r, r', effects, f, hr, hAnswers, hEq⟩ := m.secretsReply_cases call answer
  · rw [hEq]
    exact .refl x m
  · rw [hEq]
    exact h.spares_settled (.refl x m) h.toCoherent
  · rw [hEq]
    have hMem := (request?_eq_some hr).1
    have hNe : x ≠ r.device := by
      rintro rfl
      exact hx (by rw [hr]; rfl)
    obtain ⟨d, hd⟩ := h.toFits.exists_device hMem
    have hSound := h.toFits.sound hd
    obtain ⟨-, -, hActs⟩ := h.toFits.answered h.looked hMem hAnswers.1 hAnswers.2.1 hd
      (hAnswers.moves hSound.allListen hSound.device).1
    refine h.spares_settled (hActs.spares hNe (pending_updateDevice _ _ _)) ?_
    exact h.toCoherent.answered h.looked hMem hAnswers.1 hAnswers.2.1
      fun _ hListen hSound => hAnswers.moves hListen hSound

/-- An operation about one device spares all others. -/
theorem Settled.spares_operate (h : m.Settled A) {operation : Operation} {target : Option Nat}
    (hAims : operation.Aims m target) (hx : target ≠ some x) :
    Spares x m (m.operate operation) := by
  have hOther : ∀ id, target = some id → x ≠ id := by
    rintro id hTarget rfl
    exact hx hTarget
  cases hAims with
  | addDevice hNew => exact h.spares_addDevice hNew (hOther _ rfl)
  | removeDevice id => exact h.spares_removeDevice (hOther id rfl)
  | removeDeviceByInterface interface =>
    show Spares x m (m.removeDeviceByInterface interface).1
    unfold Manager.removeDeviceByInterface
    cases hd : m.deviceByInterface? interface with
    | none => exact .refl x m
    | some d => exact h.spares_removeDevice (hOther d.id (by rw [hd]; rfl))
  | setFirmwareMissing interface missing =>
    show Spares x m (m.setFirmwareMissing interface missing).1
    unfold Manager.setFirmwareMissing
    cases hd : m.deviceByInterface? interface with
    | none => exact .refl x m
    | some d =>
      exact h.spares_updated (hOther d.id (by rw [hd]; rfl)) fun _ =>
        Device.setFirmwareMissing_carries missing
  | activateConnection uid service path device specific =>
    exact h.spares_activateConnection uid service path device specific hx
  | deactivateConnection uid active => exact h.spares_deactivateConnection uid active hx
  | secretsReply call answer => exact h.spares_secretsReply call answer hx
  | linkChanged device up =>
    show Spares x m (m.linkChanged device up)
    unfold Manager.linkChanged
    dsimp only
    split
    · exact .refl x m
    · exact h.spares_updated (hOther device rfl) fun _ => Device.linkChanged_carries m.now _ up

-- ---------------------------------------------------------------------------
-- Runs
-- ---------------------------------------------------------------------------

/-- After every run, an operation about one device leaves each other one as it is, with the request
on it and what is noted of its activation. -/
theorem run_isolated (store : StateStore) (allowed : List Nat) (timeout : Option Nat) (epoch : Nat)
    (operations : List Operation) {operation : Operation} {target : Option Nat} :
    let m := (start store allowed timeout epoch).run operations
    operation.Aims m target → ∀ x, target ≠ some x →
      let m' := m.operate operation
      m'.device? x = m.device? x ∧ m'.requestOn? x = m.requestOn? x ∧
        m'.orphan? x = m.orphan? x := by
  intro m hAims x hx
  have hSettled : m.Settled fun _ _ => True :=
    run_settled (start_settled store allowed timeout epoch) operations
  have hSpares := hSettled.spares_operate hAims hx
  have hLooked : ∀ r, m.requestOn? x = some r → r.queue = [] := by
    intro r hr
    exact hSettled.looked r (requestOn?_eq_some hr).1
  exact ⟨hSpares.device, hSpares.request hLooked, hSpares.orphan⟩

namespace DialUp

/-- A second scanner, next to the first one. -/
def neighbour : Device :=
  { scanner with identity := { identity with udi := "/dev_B", interface := "bt1" } }

theorem neighbour_isNew : Device.IsNew neighbour :=
  .ofHardware (show Device.ofHardware? { identity with udi := "/dev_B", interface := "bt1" }
    (.bluetooth radio) = some neighbour from rfl) rfl

end DialUp

/-- A scanner goes while another one dials up. -/
theorem isolated_dialUp :
    let m := (start DialUp.store [] none 0).run
      (DialUp.connecting ++ [.addDevice DialUp.neighbour_isNew])
    let m' := m.operate (.removeDevice 1)
    (Operation.removeDevice 1).Aims m (some 1) ∧ some 1 ≠ some 0 ∧
      (m.device? 1).isSome = true ∧ (m'.device? 1).isSome = false ∧
      (m.requestOn? 0).isSome = true ∧
      m'.device? 0 = m.device? 0 ∧ m'.requestOn? 0 = m.requestOn? 0 ∧ m'.orphan? 0 = m.orphan? 0 :=
  ⟨.removeDevice 1, by decide, by decide +kernel, by decide +kernel, by decide +kernel,
   run_isolated DialUp.store [] none 0 _ (.removeDevice 1) 0 (by decide)⟩

end Manager

end ScannerHub
