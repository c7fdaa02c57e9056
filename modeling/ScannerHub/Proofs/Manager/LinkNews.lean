import ScannerHub.Proofs.Device.Constancy
import ScannerHub.Proofs.Manager.Observer

/-!
# The last word about a link

A site knows of an active device with a link that the last thing said about the link is that someone
asks for it, or that someone outside has heard so. What is said of a device that rests is the
opposite: the last word is that its link is given up, or nothing waits to be said and nobody outside
has an attempt for it. And nothing is ever asked for a device that has no link.

Both halves together tell, from what was said last, whether a device is active.

* `Site.Speaks` — what is said about the link of a device that rests, or has none;
* `Manager.Speaks` — the same for all devices, and for those to come.

## Results

* `Speaks.hears`, `Speaks.launched` — the changes of one site;
* `Change.speaks`, `Settled.operate_speaks` — all changes and operations.
-/

namespace ScannerHub

-- ---------------------------------------------------------------------------
-- What a device says
-- ---------------------------------------------------------------------------

/-- Without a request for a link nothing but bad news can be told. -/
theorem true_not_mem_linkNews {es : List DeviceEvent}
    (hLink : some true ∉ es.map DeviceEvent.linkNews?) : true ∉ linkNews es := by
  intro hAsks
  obtain ⟨e, he, hNews⟩ := List.mem_filterMap.mp hAsks
  exact hLink (hNews ▸ List.mem_map_of_mem he)

/-- Where nobody asks for a link, the last word is that it is given up. -/
theorem getLast?_linkNews {es : List DeviceEvent} (hLink : some true ∉ es.map DeviceEvent.linkNews?)
    {t : DeviceState} (ht : t ∈ entered es) (hIdle : t.isActive = false) :
    (linkNews es).getLast? = some false := by
  obtain ⟨e, he, hEntered⟩ := List.mem_filterMap.mp ht
  have hNews : false ∈ linkNews es := by
    refine List.mem_filterMap.mpr ⟨e, he, ?_⟩
    cases e with
    | stateChanged id new old reason =>
      cases hEntered
      show (if t.isActive = true then none else some false) = some false
      rw [hIdle]
      rfl
    | _ => cases hEntered
  cases hLast : (linkNews es).getLast? with
  | none =>
    rw [List.getLast?_eq_none_iff.mp hLast] at hNews
    cases hNews
  | some b =>
    cases b with
    | false => rfl
    | true => exact absurd (List.mem_of_getLast? hLast) (true_not_mem_linkNews hLink)

namespace Device

variable {d : Device}

/-- A device without a link goes through its activation without asking for one. -/
theorem activate_linkNews (now : Nat) (c : Connection) (hListen : d.AllListen)
    (hState : d.state = .disconnected) (hCheck : d.check c = .ok ()) (hLink : d.hasLink = false) :
    linkNews (d.activate now c).events = [] := by
  have hConfigured : linkNews (configured d.prepared now c 2).events = [] := by
    have hSuccess : ∀ hardware : Hardware, linkNews (followStages now c 2
        { d.prepared.enter .config with hardware } .success).events = [] := by
      intro hardware
      rw [followStages_success (d := { d.prepared.enter .config with hardware }) now c 0 hListen
        (Or.inl rfl)]
      rfl
    have hHardware : d.prepared.hardware = d.hardware := enter_hardware rfl
    unfold configured
    rw [hHardware]
    unfold Device.check at hCheck
    unfold Device.hasLink Device.type at hLink
    cases hKind : d.hardware with
    | bluetooth radio =>
      rw [hKind] at hLink
      cases hLink
    | hidraw node => exact hSuccess _
    | serial line =>
      rw [hKind] at hCheck
      obtain ⟨setting, hSetting⟩ := serial_of_check hCheck
      unfold Hardware.configStage
      rw [hSetting]
      exact hSuccess _
  rw [activate_eq now c hListen hState hCheck, linkNews_append, hConfigured]
  rfl

end Device

-- ---------------------------------------------------------------------------
-- Sites
-- ---------------------------------------------------------------------------

namespace Site

/-- What is said about the link of a device that rests, or has none. The parameter tells of which
device and path nobody outside has an attempt to bring up a link. -/
structure Speaks (B : Nat → String → Prop) (s : Site) (d : Device) : Prop where
  silent : d.hasLink = false → true ∉ s.allNews
  ends : d.hasLink = true → d.state.isActive = false →
    s.allNews.getLast? = some false ∨ (s.allNews = [] ∧ B d.id d.udi)

variable {B : Nat → String → Prop} {s s' : Site} {d d' : Device}

/-- Nothing new is said, and the state is the same. -/
theorem Speaks.of_eq (h : s.Speaks B d) (hFrame : d.Remains d') (hState : d'.state = d.state)
    (hNews : s'.allNews = s.allNews) : s'.Speaks B d' := by
  refine ⟨fun hLink => ?_, fun hLink hIdle => ?_⟩
  · rw [hNews]
    exact h.silent (hFrame.hasLink.symm.trans hLink)
  · rw [hNews, hFrame.id, hFrame.udi]
    exact h.ends (hFrame.hasLink.symm.trans hLink) (hState ▸ hIdle)

/-- A device that stops says so, and one that rests asks for nothing. -/
theorem Speaks.hears {u : Update} (h : s.Speaks B d) (hMoves : Device.Moves d u) :
    (s.hears u).Speaks B u.device := by
  have hNews : (s.hears u).allNews = s.allNews ++ linkNews u.events := by
    show s.news ++ linkNews (s.queue ++ u.events) = _
    rw [linkNews_append, ← List.append_assoc]
    rfl
  refine ⟨fun hLink hAsks => ?_, fun hLink hIdle => ?_⟩
  · rw [hNews, List.mem_append] at hAsks
    rcases hAsks with hOld | hNew
    · exact h.silent (hMoves.frame.hasLink.symm.trans hLink) hOld
    · exact true_not_mem_linkNews hMoves.noLink hNew
  · have hLast := hMoves.last
    rw [List.getLastD_eq_getLast?] at hLast
    rw [hNews]
    cases hEntered : (entered u.events).getLast? with
    | some t =>
      rw [hEntered] at hLast
      rw [← show t = u.device.state from hLast] at hIdle
      have hNew := getLast?_linkNews hMoves.noLink (List.mem_of_getLast? hEntered) hIdle
      rw [List.getLast?_append, hNew]
      exact Or.inl rfl
    | none =>
      rw [hEntered] at hLast
      have hNothing : linkNews u.events = [] := linkNews_eq_nil hMoves.noLink fun t ht => by
        rw [List.getLast?_eq_none_iff.mp hEntered] at ht
        cases ht
      rw [hNothing, List.append_nil, hMoves.frame.id, hMoves.frame.udi]
      refine h.ends (hMoves.frame.hasLink.symm.trans hLink) ?_
      rw [show d.state = u.device.state from hLast]
      exact hIdle

/-- An activation that has started is no time to rest. -/
theorem Speaks.launched {r : Request} {u : Update} (h : s.Speaks B d)
    (hLink : d'.hasLink = d.hasLink) (hStarts : Device.Starts d' u)
    (hSilent : d'.hasLink = false → linkNews u.events = []) :
    (s.launched r u).Speaks B u.device := by
  refine ⟨fun hNone hAsks => ?_, fun _ hIdle => ?_⟩
  · have hNone' : d'.hasLink = false := hStarts.frame.hasLink.symm.trans hNone
    change true ∈ s.news ++ linkNews (s.queue ++ u.events) at hAsks
    rw [linkNews_append, hSilent hNone', List.append_nil] at hAsks
    exact h.silent (hLink.symm.trans hNone') hAsks
  · rcases hStarts.rests with hState | hState <;> rw [hState] at hIdle <;> cases hIdle

end Site

-- ---------------------------------------------------------------------------
-- The manager
-- ---------------------------------------------------------------------------

namespace Manager

/-- What is said about links, of the devices that are there and of those to come. -/
structure Speaks (B : Nat → String → Prop) (m : Manager) : Prop where
  sites : ∀ id d, m.device? id = some d → (m.site id).Speaks B d
  unborn : ∀ id, m.nextDevice ≤ id → (m.site id).allNews = [] ∧ ∀ udi, B id udi

variable {A B : Nat → String → Prop} {m m' : Manager} {id : Nat}

theorem allNews_of_eq (hEvents : ∀ x, m'.news x = m.news x) (hQueue : m'.queue = m.queue) (x : Nat) :
    (m'.site x).allNews = (m.site x).allNews := by
  show m'.news x ++ linkNews (m'.queueOf x) = _
  rw [hEvents, queueOf_congr hQueue]
  rfl

/-- Nothing happens to devices and to what is said of their links. -/
theorem Speaks.of_eq (h : m.Speaks B) (hDevices : ∀ x, m'.device? x = m.device? x)
    (hNews : ∀ x, (m'.site x).allNews = (m.site x).allNews) (hNext : m'.nextDevice = m.nextDevice) :
    m'.Speaks B := by
  refine ⟨fun x d hd => ?_, fun x hx => ?_⟩
  · rw [hDevices] at hd
    exact (h.sites x d hd).of_eq (Device.Remains.refl d) rfl (hNews x)
  · rw [hNext] at hx
    rw [hNews]
    exact h.unborn x hx

theorem Speaks.same (h : m.Speaks B) (hSame : Same m m') : m'.Speaks B :=
  h.of_eq (fun x => congrArg Site.device (hSame.site x))
    (fun x => congrArg Site.allNews (hSame.site x)) hSame.nextDevice

/-- Something happens to one site. -/
theorem Speaks.sited (h : m.Speaks B) (hLinked : m.Linked) {s : Site} {d : Device}
    (hd : m.device? id = some d) (hSite : ∀ x, m'.site x = if x = id then s else m.site x)
    (hs : ∀ d', s.device = some d' → s.Speaks B d') (hNext : m.nextDevice ≤ m'.nextDevice) :
    m'.Speaks B := by
  refine ⟨fun x d' hd' => ?_, fun x hx => ?_⟩
  · have hx := hSite x
    split at hx
    · rw [hx]
      exact hs d' ((congrArg Site.device hx).symm.trans hd')
    · rw [hx]
      exact h.sites x d' ((congrArg Site.device hx).symm.trans hd')
  · obtain ⟨hMem, rfl⟩ := device?_eq_some hd
    have hNe : x ≠ d.id := Ne.symm (Nat.ne_of_lt
      (Nat.lt_of_lt_of_le (hLinked.deviceBound d hMem) (Nat.le_trans hNext hx)))
    rw [hSite x, if_neg hNe]
    exact h.unborn x (Nat.le_trans hNext hx)

theorem nextDevice_updateDevice (m : Manager) (id : Nat) (f : Device → Update) :
    (m.updateDevice id f).nextDevice = m.nextDevice :=
  (hides_updateDevice m id f).nextDevice

theorem Speaks.updated (h : m.Speaks B) (hLinked : m.Linked) {d : Device} {f : Device → Update}
    (hd : m.device? id = some d) (hMoves : Device.Moves d (f d))
    (hActs : Acts A m (m.updateDevice id f) id ((m.site id).hears (f d))) :
    (m.updateDevice id f).Speaks B := by
  refine h.sited hLinked hd hActs.site (fun d' hd' => ?_)
    (Nat.le_of_eq (m.nextDevice_updateDevice id f).symm)
  cases hd'
  exact (h.sites id d hd).hears hMoves

theorem Speaks.marked (h : m.Speaks B) (hFits : m.Fits A) (id : Nat) (due : Bool) :
    (m.modifyDevice id fun d => { d with activationScheduled := due }).Speaks B := by
  cases hd : m.device? id with
  | none =>
    rw [modifyDevice_absent hd]
    exact h
  | some d =>
    refine h.sited hFits.linked hd (hFits.marked hd due).site (fun d' hd' => ?_)
      (Nat.le_of_eq (hides_modifyDevice m id _).nextDevice.symm)
    cases hd'
    exact (h.sites id d hd).of_eq ⟨rfl, rfl, rfl⟩ rfl rfl

-- ---------------------------------------------------------------------------
-- Every change
-- ---------------------------------------------------------------------------

theorem Speaks.quiet (h : m.Speaks B) (hLeaves : Leaves m m') : m'.Speaks B := by
  obtain ⟨since, hEvents, hOthers⟩ := hLeaves.events
  refine h.of_eq hLeaves.device? (allNews_of_eq (fun x => ?_) hLeaves.queue) hLeaves.nextDevice
  have hNothing : since.filterMap (ManagerEvent.linkNews? x) = [] :=
    List.filterMap_eq_nil_iff.mpr fun e he => by
      obtain ⟨r, -, rfl⟩ := hOthers e he
      rfl
  unfold news
  rw [hEvents, List.filterMap_append, hNothing, List.append_nil]

theorem Speaks.torn (h : m.Speaks B) (hFits : m.Fits A) {r : Request} (hr : r ∈ m.requests)
    (reason : StateReason) : (m.teardown r.id reason).Speaks B := by
  have hFound := hFits.linked.request?_of_mem hr
  obtain ⟨d, hd⟩ := hFits.exists_device hr
  have hNext : (m.teardown r.id reason).nextDevice = m.nextDevice := by
    rw [teardown_eq hFound]
  refine h.sited hFits.linked hd (hFits.teardown hFound reason).site (fun d' hd' => ?_)
    (Nat.le_of_eq hNext.symm)
  obtain ⟨d₀, hd₀, rfl⟩ := Option.map_eq_some_iff.mp hd'
  exact (h.sites r.device d₀ hd₀).of_eq ⟨rfl, rfl, rfl⟩ rfl rfl

theorem Speaks.started (h : m.Speaks B) (hFits : m.Fits A) {number : Nat} {d : Device}
    (spec : RequestSpec) (hd : m.device? id = some d) (hState : d.state = .disconnected)
    (hNone : m.requestOn? id = none) (hQueue : m.queueOf id = [])
    (hCheck : d.check spec.connection = .ok ()) (hFresh : m.Fresh number) :
    ((m.undue id).launch number d spec).1.Speaks B := by
  obtain ⟨hLaunch, hEq, -, hSite⟩ := hFits.launched spec hd hState hNone hQueue hCheck hFresh
  obtain ⟨hFrame, hSame, -⟩ := frame_readied d spec.userRequested
  have hNext : ((m.undue id).launch number d spec).1.nextDevice = m.nextDevice := by
    rw [hEq]
    rfl
  refine h.sited hFits.linked hd hSite (fun d' hd' => ?_) (Nat.le_of_eq hNext.symm)
  cases hd'
  have hLink : ((m.undue id).starting number d spec).2.hasLink = d.hasLink := hFrame.hasLink
  refine (h.sites id d hd).launched hLink hLaunch.starts fun hNone => ?_
  exact Device.activate_linkNews _ _ hLaunch.listen (hSame.trans hState)
    ((hFrame.check _).trans hCheck) hNone

theorem Speaks.told (h : m.Speaks B) (hFits : m.Fits A) {e : DeviceEvent} {rest : List DeviceEvent}
    (hQueue : m.queue = e :: rest) : (m.told e rest).Speaks B := by
  refine h.of_eq (fun _ => rfl) (fun x => ?_) rfl
  rw [(hFits.told hQueue).site x]
  split
  · rename_i hx
    have hOwn : m.queueOf e.device = e :: rest.filter fun e' => e'.device == e.device := by
      unfold queueOf
      rw [hQueue, List.filter_cons_of_pos (by simp)]
    rw [hx]
    exact Site.allNews_tell hOwn
  · rfl

/-- A device that comes has never said anything, and nobody outside knows of it. -/
theorem Speaks.admitted (h : m.Speaks B) (hFits : m.Fits A) {d : Device} (hQueue : m.queue = [])
    (hUnused : d.Unused) (hUdi : ∀ x ∈ m.devices, x.udi ≠ d.udi) : (m.admitted d).Speaks B := by
  have hSame : Same (m.takenIn (m.newcomer d)) (m.admitted d) := same_publish _ fun _ => rfl
  obtain ⟨-, -, hSite⟩ := hFits.takenIn hQueue hUnused hUdi
  have hSite' := fun x => (hSame.site x).trans (hSite x)
  refine ⟨fun x d' hd' => ?_, fun x hx => ?_⟩
  · have hx := hSite' x
    split at hx
    · rename_i hNew
      obtain ⟨hNews, hKnown⟩ := h.unborn x (Nat.le_of_eq hNew.symm)
      have hDevice : d' = m.newcomer d :=
        Option.some.inj (hd'.symm.trans (congrArg Site.device hx))
      rw [hx, hDevice]
      refine ⟨fun _ hAsks => ?_, fun _ _ => Or.inr ⟨hNews, ?_⟩⟩
      · change true ∈ (m.site x).allNews at hAsks
        rw [hNews] at hAsks
        cases hAsks
      · rw [show (m.newcomer d).id = x from hNew.symm]
        exact hKnown _
    · rw [hx]
      exact h.sites x d' ((congrArg Site.device hx).symm.trans hd')
  · have hNe : x ≠ m.nextDevice := Ne.symm (Nat.ne_of_lt hx)
    rw [hSite' x, if_neg hNe]
    exact h.unborn x (Nat.le_of_lt hx)

theorem Speaks.dismissed (h : m.Speaks B) (hFits : m.Fits A) {d : Device}
    (hd : m.device? id = some d) (hRequest : m.requestOn? id = none) (hOrphan : m.orphan? id = none) :
    ((m.dismissed id).publish (.deviceRemoved id)).Speaks B := by
  have hGone : (m.dismissed id).Speaks B :=
    h.sited hFits.linked hd (hFits.dismissed id hRequest hOrphan).site
      (fun d' hd' => by cases hd') (Nat.le_refl m.nextDevice)
  exact hGone.same (same_publish _ fun _ => rfl)

theorem Speaks.disbanded (h : m.Speaks B) : m.disbanded.Speaks B := by
  refine ⟨fun x d hd => (by cases hd), fun x hx => ?_⟩
  have hNews : ∀ y, m.disbanded.news y = m.news y := by
    intro y
    have hNothing : (m.devices.map fun d => ManagerEvent.deviceRemoved d.id).filterMap
        (ManagerEvent.linkNews? y) = [] :=
      List.filterMap_eq_nil_iff.mpr fun e he => by
        obtain ⟨d, -, rfl⟩ := List.mem_map.mp he
        rfl
    show (m.events ++ _).filterMap _ = _
    rw [List.filterMap_append, hNothing, List.append_nil]
    rfl
  rw [allNews_of_eq hNews rfl x]
  exact h.unborn x hx

/-- Every change keeps what is said of links. -/
theorem Change.speaks {s s' : Manager × Agenda} (h : Change A s s') (hFits : s.1.Fits A)
    (hSpeaks : s.1.Speaks B) : s'.1.Speaks B := by
  cases h with
  | quiet more hFits' hLeaves => exact hSpeaks.quiet hLeaves
  | teardown hr reason => exact hSpeaks.torn hFits hr reason
  | update hd hMoves hActs => exact hSpeaks.updated hFits.linked hd hMoves hActs
  | @recover m a id rest hFailed reason =>
    cases hd : m.device? id with
    | none =>
      show (m.updateDevice id _).Speaks B
      rw [updateDevice_absent hd]
      exact hSpeaks
    | some d =>
      have hSound := hFits.sound hd
      have hCarries := Device.moveTo_disconnected_carries reason hSound.allListen hSound.device
      exact hSpeaks.updated hFits.linked hd hCarries.toMoves
        (hFits.carries (f := fun d => d.moveTo .disconnected reason) hd hCarries)
  | number => exact hSpeaks.of_eq (fun _ => rfl) (fun _ => rfl) rfl
  | launch hNumbers hd hState hNone hQueue hCheck hFresh =>
    exact hSpeaks.started hFits _ hd hState hNone hQueue hCheck hFresh
  | tell hQueue => exact hSpeaks.told hFits hQueue
  | sum => exact hSpeaks.same (same_updateState _)
  | @schedule m a id rest hDue =>
    show (m.schedule id).Speaks B
    obtain ⟨hEq, -⟩ | hEq := m.schedule_cases id
    · rw [hEq]
      exact hSpeaks
    · rw [hEq]
      exact (hSpeaks.marked hFits id true).of_eq (fun _ => rfl) (fun _ => rfl) rfl
  | take => exact hSpeaks.of_eq (fun _ => rfl) (fun _ => rfl) rfl
  | unschedule id => exact hSpeaks.marked hFits id false
  | looked => exact hSpeaks
  | arrive hQueue hUnused hUdi => exact hSpeaks.admitted hFits hQueue hUnused hUdi
  | dismiss hd hQueue hRequest hOrphan => exact hSpeaks.dismissed hFits hd hRequest hOrphan
  | disband => exact hSpeaks.disbanded

theorem Changes.speaks {s s' : Manager × Agenda} (h : Changes A s s') (hFits : s.1.Fits A)
    (hSpeaks : s.1.Speaks B) : s'.1.Speaks B :=
  changes_preserve (P := fun s => s.1.Speaks B) (fun h => h.speaks) h hFits hSpeaks

theorem Begins.speaks {operation : Operation} (h : m.Begins operation m') (hFits : m.Fits A)
    (hSpeaks : m.Speaks B) : m'.Speaks B := by
  cases h with
  | same => exact hSpeaks
  | sleeping uid hNe =>
    exact hSpeaks.same ⟨rfl, rfl, rfl, rfl, rfl, rfl, rfl, fun _ => by simp [news,
      Manager.publish, ManagerEvent.linkNews?]⟩
  | enabled uid hNe =>
    exact hSpeaks.same ⟨rfl, rfl, rfl, rfl, rfl, rfl, rfl, fun _ => by simp [news,
      Manager.publish, ManagerEvent.linkNews?]⟩
  | firmware missing hd =>
    have hFound := hFits.linked.device?_of_mem (List.mem_of_find?_eq_some hd)
    have hSound := hFits.sound hFound
    have hCarries := Device.setFirmwareMissing_carries missing hSound.allListen hSound.device
    exact hSpeaks.updated hFits.linked hFound hCarries.toMoves
      (hFits.carries (f := fun d => d.setFirmwareMissing missing) hFound hCarries)

/-- Every operation keeps what is said of links. -/
theorem Settled.operate_speaks (h : m.Settled A) (hDormant : m.Dormant) (operation : Operation)
    (hSpeaks : m.Speaks B) : (m.operate operation).Speaks B := by
  obtain ⟨m₁, hBegins, hChanges⟩ := h.operate_changes hDormant operation
  exact hChanges.speaks (hBegins.coherent h.toCoherent).toFits (hBegins.speaks h.toFits hSpeaks)

end Manager

end ScannerHub
