import ScannerHub.Manager.Settle
import ScannerHub.Proofs.Data.Dict
import ScannerHub.Proofs.Manager.Site

/-!
# Coherence

The manager as a family of sites. Each elementary change acts on one site and leaves all others as
they are, so it is described by what that site becomes, and the invariant of the manager is that of
its sites, together with what the numbers of devices, requests and calls say.

* `Manager.site` — the site of a device;
* `Manager.Fits`, `Manager.Coherent` — the invariant, without and with the owners of activations;
* `Manager.Acts` — a change of one site.

## Results

* `Fits.updateDevice`, `Fits.modifyDevice`, `Fits.teardown`, `Fits.adopt`, `Fits.setRequest`,
  `Fits.tell` — each elementary change acts on one site.
-/

namespace ScannerHub

/-- What a published event says about the link of a device. -/
def ManagerEvent.linkNews? (id : Nat) : ManagerEvent → Option Bool
  | linkRequested device _ => if device = id then some true else none
  | deviceStateChanged device new _ _ =>
    if device = id ∧ new.isActive = false then some false else none
  | _ => none

/-- A list in which no key comes twice may grow by an entry with a new key. -/
theorem nodup_map_concat {α β : Type} {key : α → β} {xs : List α} {a : α}
    (h : (xs.map key).Nodup) (hNew : ∀ x ∈ xs, key x ≠ key a) : ((xs ++ [a]).map key).Nodup := by
  rw [List.map_append, List.nodup_append]
  refine ⟨h, List.nodup_cons.mpr ⟨List.not_mem_nil, List.nodup_nil⟩, ?_⟩
  intro k hk k' hk' hEq
  obtain ⟨x, hx, rfl⟩ := List.mem_map.mp hk
  rw [List.map_cons, List.map_nil, List.mem_singleton] at hk'
  exact hNew x hx (hEq.trans hk')

/-- What is done to the entries of a list one after the other, with a claim about those that are
left. -/
theorem foldl_rest {α β : Type} {step : β → α → β} {P : List α → β → Prop}
    (hStep : ∀ x xs b, P (x :: xs) b → P xs (step b x)) (xs : List α) (b : β) (h : P xs b) :
    P [] (xs.foldl step b) := by
  induction xs generalizing b with
  | nil => exact h
  | cons x xs ih => exact ih _ (hStep x xs b h)

namespace Manager

-- ---------------------------------------------------------------------------
-- Sites and numbers
-- ---------------------------------------------------------------------------

/-- What published events that nobody took say about the link of a device. -/
def news (m : Manager) (id : Nat) : List Bool := m.events.filterMap (ManagerEvent.linkNews? id)

/-- The events of a device that were not handled yet. -/
def queueOf (m : Manager) (id : Nat) : List DeviceEvent := m.queue.filter fun e => e.device == id

/-- The site of a device. -/
def site (m : Manager) (id : Nat) : Site :=
  { device := m.device? id, request := m.requestOn? id, orphan := m.orphan? id
    queue := m.queueOf id, news := m.news id }

/-- No number is given out twice, no path names two devices, and no device has two requests. -/
structure Linked (m : Manager) : Prop where
  devices : (m.devices.map Device.id).Nodup
  paths : (m.devices.map Device.udi).Nodup
  requests : (m.requests.map Request.id).Nodup
  places : (m.requests.map Request.device).Nodup
  deviceBound : ∀ d ∈ m.devices, d.id < m.nextDevice
  requestBound : ∀ r ∈ m.requests, r.id < m.nextRequest
  calls : (issued m.effects).Nodup
  callBound : ∀ c ∈ issued m.effects, c.request < m.nextRequest
  seqBound : ∀ r ∈ m.requests, ∀ c ∈ issued m.effects, c.request = r.id → c.seq < r.nextSeq

/-- The invariant of every elementary change. -/
structure Fits (A : Nat → String → Prop) (m : Manager) : Prop where
  linked : m.Linked
  sites : ∀ id, (m.site id).Fits A

/-- The invariant, with the owners of activations. -/
structure Coherent (A : Nat → String → Prop) (m : Manager) : Prop extends Fits A m where
  accounted : ∀ id, (m.site id).Accounted

variable {A : Nat → String → Prop} {m m' : Manager} {id : Nat}

theorem queueOf_nil (h : m.queue = []) (id : Nat) : m.queueOf id = [] := by
  unfold queueOf
  rw [h]
  rfl

theorem device?_eq_some {d : Device} (h : m.device? id = some d) : d ∈ m.devices ∧ d.id = id :=
  ⟨List.mem_of_find?_eq_some h, by simpa using List.find?_some h⟩

theorem deviceByUdi?_eq_some {d : Device} {udi : String} (h : m.deviceByUdi? udi = some d) :
    d ∈ m.devices ∧ d.udi = udi :=
  ⟨List.mem_of_find?_eq_some h, by simpa using List.find?_some h⟩

theorem request?_eq_some {r : Request} (h : m.request? id = some r) :
    r ∈ m.requests ∧ r.id = id :=
  ⟨List.mem_of_find?_eq_some h, by simpa using List.find?_some h⟩

theorem requestOn?_eq_some {r : Request} (h : m.requestOn? id = some r) :
    r ∈ m.requests ∧ r.device = id :=
  ⟨List.mem_of_find?_eq_some h, by simpa using List.find?_some h⟩

theorem Linked.device?_of_mem (h : m.Linked) {d : Device} (hd : d ∈ m.devices) :
    m.device? d.id = some d :=
  find?_key Device.id h.devices hd

/-- No device has the number that comes next. -/
theorem Linked.device?_nextDevice (h : m.Linked) : m.device? m.nextDevice = none := by
  cases hd : m.device? m.nextDevice with
  | none => rfl
  | some d =>
    obtain ⟨hMem, hId⟩ := device?_eq_some hd
    exact absurd hId (Nat.ne_of_lt (h.deviceBound d hMem))

theorem Linked.request?_of_mem (h : m.Linked) {r : Request} (hr : r ∈ m.requests) :
    m.request? r.id = some r :=
  find?_key Request.id h.requests hr

theorem Linked.requestOn?_of_mem (h : m.Linked) {r : Request} (hr : r ∈ m.requests) :
    m.requestOn? r.device = some r :=
  find?_key Request.device h.places hr

/-- Two devices with one path are the same. -/
theorem Linked.eq_of_udi (h : m.Linked) {d d' : Device} (hd : d ∈ m.devices)
    (hd' : d' ∈ m.devices) (hUdi : d.udi = d'.udi) : d = d' := by
  have hFound : m.deviceByUdi? d.udi = some d := find?_key Device.udi h.paths hd
  have hFound' : m.deviceByUdi? d'.udi = some d' := find?_key Device.udi h.paths hd'
  rw [hUdi, hFound'] at hFound
  exact (Option.some.inj hFound).symm

/-- Two requests with one number are the same. -/
theorem Linked.eq_of_id (h : m.Linked) {r r' : Request} (hr : r ∈ m.requests)
    (hr' : r' ∈ m.requests) (hId : r.id = r'.id) : r = r' := by
  have hFound := h.request?_of_mem hr
  rw [hId, h.request?_of_mem hr'] at hFound
  exact (Option.some.inj hFound).symm

/-- Two requests on one device are the same. -/
theorem Linked.eq_of_device (h : m.Linked) {r r' : Request} (hr : r ∈ m.requests)
    (hr' : r' ∈ m.requests) (hDevice : r.device = r'.device) : r = r' := by
  have hFound := h.requestOn?_of_mem hr
  rw [hDevice, h.requestOn?_of_mem hr'] at hFound
  exact (Option.some.inj hFound).symm

theorem Fits.sound (h : m.Fits A) {d : Device} (hd : m.device? id = some d) :
    (m.site id).Sound A d :=
  (h.sites id).sound d hd

theorem Coherent.held (h : m.Coherent A) {d : Device} (hd : m.device? id = some d) :
    (m.site id).Held d :=
  h.accounted id d hd

-- ---------------------------------------------------------------------------
-- Changes of one site
-- ---------------------------------------------------------------------------

/-- One manager at two times: no device and no request has come, and no call was made. -/
structure Keeps (m m' : Manager) : Prop where
  devices : (m'.devices.map fun d => (d.id, d.udi)).Sublist (m.devices.map fun d => (d.id, d.udi))
  requests : (m'.requests.map fun r => (r.id, r.device, r.nextSeq)).Sublist
    (m.requests.map fun r => (r.id, r.device, r.nextSeq))
  nextDevice : m'.nextDevice = m.nextDevice
  nextRequest : m'.nextRequest = m.nextRequest
  issued : issued m'.effects = issued m.effects

theorem Keeps.of_eq (hDevices : (m'.devices.map fun d => (d.id, d.udi)) =
      m.devices.map fun d => (d.id, d.udi))
    (hRequests : (m'.requests.map fun r => (r.id, r.device, r.nextSeq)) =
      m.requests.map fun r => (r.id, r.device, r.nextSeq))
    (hNext : m'.nextDevice = m.nextDevice ∧ m'.nextRequest = m.nextRequest)
    (hIssued : ScannerHub.issued m'.effects = ScannerHub.issued m.effects) : Keeps m m' :=
  ⟨hDevices ▸ List.Sublist.refl _, hRequests ▸ List.Sublist.refl _, hNext.1, hNext.2, hIssued⟩

theorem Keeps.trans {m'' : Manager} (h : Keeps m m') (h' : Keeps m' m'') : Keeps m m'' :=
  ⟨h'.devices.trans h.devices, h'.requests.trans h.requests, h'.nextDevice.trans h.nextDevice,
   h'.nextRequest.trans h.nextRequest, h'.issued.trans h.issued⟩

theorem Keeps.mem (h : Keeps m m') {r' : Request} (hr' : r' ∈ m'.requests) :
    ∃ r ∈ m.requests, r.id = r'.id ∧ r.device = r'.device ∧ r.nextSeq = r'.nextSeq := by
  have hMem := h.requests.subset (List.mem_map_of_mem hr')
  obtain ⟨r, hr, hEq⟩ := List.mem_map.mp hMem
  obtain ⟨hId, hRest⟩ := Prod.mk.inj hEq
  obtain ⟨hDevice, hSeq⟩ := Prod.mk.inj hRest
  exact ⟨r, hr, hId, hDevice, hSeq⟩

theorem Linked.keeps (h : m.Linked) (hKeeps : Keeps m m') : m'.Linked where
  devices := by
    have hSub := hKeeps.devices.map Prod.fst
    rw [List.map_map, List.map_map] at hSub
    exact h.devices.sublist hSub
  paths := by
    have hSub := hKeeps.devices.map Prod.snd
    rw [List.map_map, List.map_map] at hSub
    exact h.paths.sublist hSub
  requests := by
    have hSub := hKeeps.requests.map Prod.fst
    rw [List.map_map, List.map_map] at hSub
    exact h.requests.sublist hSub
  places := by
    have hSub := hKeeps.requests.map fun k => k.2.1
    rw [List.map_map, List.map_map] at hSub
    exact h.places.sublist hSub
  deviceBound d hd := by
    obtain ⟨d₀, hd₀, hEq⟩ := List.mem_map.mp (hKeeps.devices.subset (List.mem_map_of_mem hd))
    rw [hKeeps.nextDevice, ← (Prod.mk.inj hEq).1]
    exact h.deviceBound d₀ hd₀
  requestBound r hr := by
    obtain ⟨r₀, hr₀, hId, -, -⟩ := hKeeps.mem hr
    rw [hKeeps.nextRequest, ← hId]
    exact h.requestBound r₀ hr₀
  calls := by
    rw [hKeeps.issued]
    exact h.calls
  callBound := by
    rw [hKeeps.issued, hKeeps.nextRequest]
    exact h.callBound
  seqBound r hr := by
    obtain ⟨r₀, hr₀, hId, -, hSeq⟩ := hKeeps.mem hr
    rw [hKeeps.issued, ← hId, ← hSeq]
    exact h.seqBound r₀ hr₀

/-- One manager at two times: no device and no request has come, and no call was made but by a
request that was there. -/
structure Within (m m' : Manager) : Prop where
  devices : ∀ d' ∈ m'.devices, ∃ d ∈ m.devices, d.id = d'.id ∧ d.udi = d'.udi
  requests : ∀ r' ∈ m'.requests, ∃ r ∈ m.requests, r.id = r'.id ∧ r.device = r'.device
  calls : ∀ c ∈ ScannerHub.issued m'.effects,
    c ∈ ScannerHub.issued m.effects ∨ ∃ r ∈ m.requests, r.id = c.request
  nextRequest : m'.nextRequest = m.nextRequest

theorem Within.refl (m : Manager) : Within m m :=
  ⟨fun d hd => ⟨d, hd, rfl, rfl⟩, fun r hr => ⟨r, hr, rfl, rfl⟩, fun _ hc => Or.inl hc, rfl⟩

theorem Within.trans {m'' : Manager} (h : Within m m') (h' : Within m' m'') : Within m m'' where
  devices d hd := by
    obtain ⟨d', hd', hId', hUdi'⟩ := h'.devices d hd
    obtain ⟨d'', hd'', hId, hUdi⟩ := h.devices d' hd'
    exact ⟨d'', hd'', hId.trans hId', hUdi.trans hUdi'⟩
  requests r hr := by
    obtain ⟨r', hr', hId', hDevice'⟩ := h'.requests r hr
    obtain ⟨r'', hr'', hId, hDevice⟩ := h.requests r' hr'
    exact ⟨r'', hr'', hId.trans hId', hDevice.trans hDevice'⟩
  calls c hc := by
    rcases h'.calls c hc with hc | ⟨r', hr', hId'⟩
    · exact h.calls c hc
    · obtain ⟨r, hr, hId, -⟩ := h.requests r' hr'
      exact Or.inr ⟨r, hr, hId.trans hId'⟩
  nextRequest := h'.nextRequest.trans h.nextRequest

/-- A device that was not there has not come. -/
theorem Within.absent (h : Within m m') (hd : m.device? id = none) : m'.device? id = none := by
  unfold device? at hd ⊢
  rw [List.find?_eq_none] at hd ⊢
  intro d' hd' hId
  obtain ⟨d, hMem, hEq, -⟩ := h.devices d' hd'
  refine hd d hMem ?_
  rw [hEq]
  exact hId

theorem Keeps.within (h : Keeps m m') : Within m m' where
  devices d hd := by
    obtain ⟨d₀, hd₀, hEq⟩ := List.mem_map.mp (h.devices.subset (List.mem_map_of_mem hd))
    exact ⟨d₀, hd₀, Prod.mk.inj hEq⟩
  requests r hr := by
    obtain ⟨r₀, hr₀, hId, hDevice, -⟩ := h.mem hr
    exact ⟨r₀, hr₀, hId, hDevice⟩
  calls c hc := Or.inl (h.issued ▸ hc)
  nextRequest := h.nextRequest

/-- A change that makes one site another one and leaves all others as they are. -/
structure Acts (A : Nat → String → Prop) (m m' : Manager) (id : Nat) (s : Site) : Prop where
  fits : m'.Fits A
  within : Within m m'
  here : m'.site id = s
  away : ∀ x, x ≠ id → m'.site x = m.site x

/-- A change of one site preserves the invariant if the new site has it. -/
theorem Fits.acts {s : Site} (h : m.Fits A) (hLinked : m'.Linked) (hWithin : Within m m')
    (hHere : m'.site id = s) (hAway : ∀ x, x ≠ id → m'.site x = m.site x) (hs : s.Fits A) :
    Acts A m m' id s := by
  refine ⟨⟨hLinked, fun x => ?_⟩, hWithin, hHere, hAway⟩
  by_cases hx : x = id
  · rw [hx, hHere]
    exact hs
  · rw [hAway x hx]
    exact h.sites x

theorem Acts.trans {m'' : Manager} {s s' : Site} (h : Acts A m m' id s)
    (h' : Acts A m' m'' id s') : Acts A m m'' id s' :=
  ⟨h'.fits, h.within.trans h'.within, h'.here, fun x hx => (h'.away x hx).trans (h.away x hx)⟩

/-- A change that keeps numbers acts on one site. -/
theorem Fits.acts_keeps {s : Site} (h : m.Fits A) (hKeeps : Keeps m m') (hHere : m'.site id = s)
    (hAway : ∀ x, x ≠ id → m'.site x = m.site x) (hs : s.Fits A) : Acts A m m' id s :=
  h.acts (h.linked.keeps hKeeps) hKeeps.within hHere hAway hs

theorem Acts.coherent {s : Site} (h : Acts A m m' id s) (hm : ∀ x, x ≠ id → (m.site x).Accounted)
    (hs : s.Accounted) : m'.Coherent A := by
  refine ⟨h.fits, fun x => ?_⟩
  by_cases hx : x = id
  · rw [hx, h.here]
    exact hs
  · rw [h.away x hx]
    exact hm x hx

-- ---------------------------------------------------------------------------
-- Changes of no site
-- ---------------------------------------------------------------------------

/-- One manager at two times, with nothing changed that belongs to a site. -/
structure Same (m m' : Manager) : Prop where
  devices : m'.devices = m.devices
  requests : m'.requests = m.requests
  orphans : m'.orphans = m.orphans
  queue : m'.queue = m.queue
  nextDevice : m'.nextDevice = m.nextDevice
  nextRequest : m'.nextRequest = m.nextRequest
  issued : issued m'.effects = issued m.effects
  news : ∀ id, m'.news id = m.news id

theorem Same.refl (m : Manager) : Same m m := ⟨rfl, rfl, rfl, rfl, rfl, rfl, rfl, fun _ => rfl⟩

theorem Same.trans {m'' : Manager} (h : Same m m') (h' : Same m' m'') : Same m m'' :=
  ⟨h'.devices.trans h.devices, h'.requests.trans h.requests, h'.orphans.trans h.orphans,
   h'.queue.trans h.queue, h'.nextDevice.trans h.nextDevice, h'.nextRequest.trans h.nextRequest,
   h'.issued.trans h.issued, fun id => (h'.news id).trans (h.news id)⟩

theorem Same.site (h : Same m m') (id : Nat) : m'.site id = m.site id := by
  unfold Manager.site device? requestOn? orphan? queueOf
  rw [h.devices, h.requests, h.orphans, h.queue, h.news]

theorem Same.keeps (h : Same m m') : Keeps m m' :=
  Keeps.of_eq (by rw [h.devices]) (by rw [h.requests]) ⟨h.nextDevice, h.nextRequest⟩ h.issued

theorem Fits.same (h : m.Fits A) (hSame : Same m m') : m'.Fits A :=
  ⟨h.linked.keeps hSame.keeps, fun id => by
    rw [hSame.site]
    exact h.sites id⟩

theorem Coherent.same (h : m.Coherent A) (hSame : Same m m') : m'.Coherent A :=
  ⟨h.toFits.same hSame, fun id => by
    rw [hSame.site]
    exact h.accounted id⟩

theorem Acts.same {m'' : Manager} {s : Site} (h : Acts A m m' id s) (hSame : Same m' m'') :
    Acts A m m'' id s :=
  ⟨h.fits.same hSame, h.within.trans hSame.keeps.within, (hSame.site id).trans h.here,
   fun x hx => (hSame.site x).trans (h.away x hx)⟩

/-- An event that is no news about a link. -/
theorem same_publish (m : Manager) {event : ManagerEvent}
    (hNews : ∀ id, event.linkNews? id = none) : Same m (m.publish event) := by
  refine ⟨rfl, rfl, rfl, rfl, rfl, rfl, rfl, fun id => ?_⟩
  show (m.events ++ [event]).filterMap _ = _
  rw [List.filterMap_append, List.filterMap_cons_none (hNews id), List.filterMap_nil,
    List.append_nil]
  rfl

theorem same_setCache (m : Manager) (scope : Scope) (cache : ConnectionCache) :
    Same m (m.setCache scope cache) := by
  cases scope <;> exact ⟨rfl, rfl, rfl, rfl, rfl, rfl, rfl, fun _ => rfl⟩

theorem same_updateState (m : Manager) : Same m m.updateState := by
  unfold updateState
  split
  · exact Same.refl m
  · exact (show Same m { m with state := m.aggregate } from
      ⟨rfl, rfl, rfl, rfl, rfl, rfl, rfl, fun _ => rfl⟩).trans (same_publish _ fun _ => rfl)

theorem same_updateTimestamp (m : Manager) (id : Nat) : Same m (m.updateTimestamp id) := by
  unfold updateTimestamp
  split
  · exact Same.refl m
  · dsimp only
    split
    · exact Same.refl m
    · exact same_setCache m _ _

theorem same_markInvalid (m : Manager) (uuid : String) : Same m (m.markInvalid uuid) := by
  unfold markInvalid
  split
  · exact Same.refl m
  · exact ⟨rfl, rfl, rfl, rfl, rfl, rfl, rfl, fun _ => rfl⟩

-- ---------------------------------------------------------------------------
-- Operations on a device
-- ---------------------------------------------------------------------------

theorem device?_setDevice (m : Manager) (e : Device) (x : Nat) :
    (m.setDevice e).device? x =
      if x = e.id then (m.device? x).map fun _ => e else m.device? x :=
  find?_replaceFirst Device.id e m.devices x

/-- A device takes the place of the one with its number. -/
theorem device?_setDevice_of {d e : Device} (hd : m.device? id = some d) (hId : e.id = id)
    (x : Nat) : (m.setDevice e).device? x = if x = id then some e else m.device? x := by
  rw [device?_setDevice, hId]
  by_cases hx : x = id
  · rw [if_pos hx, if_pos hx, hx, hd]
    rfl
  · rw [if_neg hx, if_neg hx]

/-- Events of one device wait for that device only. -/
theorem filter_append_own {es fs : List DeviceEvent} (hOwn : ∀ e ∈ fs, e.device = id) (x : Nat) :
    ((es ++ fs).filter fun e => e.device == x) =
      if x = id then (es.filter fun e => e.device == x) ++ fs
      else es.filter fun e => e.device == x := by
  rw [List.filter_append]
  by_cases hx : x = id
  · have hAll : (fs.filter fun e => e.device == x) = fs :=
      List.filter_eq_self.mpr fun e he => by simp [hOwn e he, hx]
    rw [if_pos hx, hAll]
  · have hNone : (fs.filter fun e => e.device == x) = [] :=
      List.filter_eq_nil_iff.mpr fun e he => by simp [hOwn e he, Ne.symm hx]
    rw [if_neg hx, hNone, List.append_nil]

/-- What a device has in common with the one in whose place it comes, all devices keep. -/
theorem map_setDevice {α : Type} {d e : Device} (hd : m.device? id = some d) (hId : e.id = id)
    (f : Device → α) (hSame : f e = f d) : (m.setDevice e).devices.map f = m.devices.map f := by
  refine map_replaceFirst f fun d' hd' => ?_
  have hFound : m.device? id = some d' := hId ▸ hd'
  rw [hd] at hFound
  rw [← Option.some.inj hFound, hSame]

theorem setDevice_self {d : Device} (hd : m.device? d.id = some d) : m.setDevice d = m := by
  have hMap := map_setDevice hd rfl id rfl
  rw [List.map_id, List.map_id] at hMap
  exact congrArg (fun devices => { m with devices }) hMap

/-- A device may take the place of one with its number and its path. -/
theorem keeps_setDevice {d e : Device} (hd : m.device? id = some d) (hId : e.id = id)
    (hUdi : e.udi = d.udi) : Keeps m (m.setDevice e) := by
  refine Keeps.of_eq (map_setDevice hd hId _ ?_) rfl ⟨rfl, rfl⟩ rfl
  rw [hUdi, hId, (device?_eq_some hd).2]

/-- Requests of one manager at another time, by what happened to each of them. -/
theorem requestOn?_map (m : Manager) (f : Request → Request) (hf : ∀ r, (f r).device = r.device)
    (x : Nat) : (m.requests.map f).find? (fun r => r.device == x) = (m.requestOn? x).map f := by
  rw [List.find?_map]
  have hKey : ((fun r : Request => r.device == x) ∘ f) = fun r => r.device == x := by
    funext r
    show ((f r).device == x) = _
    rw [hf]
  rw [hKey]
  rfl

/-- Without events there is nothing to hand on. -/
theorem deliver_nil (m : Manager) (listeners : List Listener) : m.deliver listeners [] = m := by
  have hRequests : m.requests.map (fun r =>
      if Listener.request r.id ∈ listeners then { r with queue := r.queue ++ [] } else r) =
      m.requests := by
    refine (List.map_congr_left fun r _ => ?_).trans (List.map_id' m.requests)
    rw [List.append_nil]
    exact ite_self r
  unfold deliver
  rw [hRequests, List.append_nil, ite_self]

theorem keeps_deliver (m : Manager) (listeners : List Listener) (events : List DeviceEvent) :
    Keeps m (m.deliver listeners events) := by
  refine Keeps.of_eq rfl ?_ ⟨rfl, rfl⟩ rfl
  unfold deliver
  dsimp only
  rw [List.map_map]
  refine List.map_congr_left fun r _ => ?_
  show (fun r : Request => (r.id, r.device, r.nextSeq)) (if _ then _ else _) = _
  split <;> rfl

/-- Who hears of a device: the manager and the request on it. -/
theorem Fits.mem_listeners (h : m.Fits A) {d : Device} (hd : m.device? id = some d) :
    Listener.manager ∈ d.listeners ∧
      ∀ r ∈ m.requests, Listener.request r.id ∈ d.listeners ↔ r.device = id := by
  have hSound := h.sound hd
  have hAll : d.listeners = d.subscribers.map Subscription.listener := by
    unfold Device.listeners
    rw [hSound.allListen.filter_eq]
  rw [hAll, hSound.subscribers]
  refine ⟨List.mem_cons_self, fun r hr => ?_⟩
  unfold Site.subscribers
  rw [List.map_cons, List.mem_cons]
  show (_ ∨ _ ∈ List.map _ (Option.getD (Option.map _ (m.requestOn? id)) [])) ↔ _
  cases hOn : m.requestOn? id with
  | none =>
    constructor
    · rintro (hManager | hNil)
      · cases hManager
      · cases hNil
    · rintro rfl
      rw [h.linked.requestOn?_of_mem hr] at hOn
      cases hOn
  | some r₀ =>
    obtain ⟨hr₀, hDevice⟩ := requestOn?_eq_some hOn
    obtain ⟨k, hk, -, -⟩ := hSound.place r₀ hOn
    simp only [Option.map_some, Option.getD_some, Request.listening, hk, Option.toList_some,
      List.map_cons, List.map_nil, List.mem_singleton, Listener.request.injEq]
    constructor
    · rintro (hManager | hId)
      · cases hManager
      · rw [h.linked.eq_of_id hr hr₀ hId]
        exact hDevice
    · intro hr'
      exact Or.inr (congrArg Request.id (h.linked.eq_of_device hr hr₀ (hr'.trans hDevice.symm)))

/-- The requests after an operation on a device: the one on it has more events to look at. -/
theorem Fits.requestOn?_deliver (h : m.Fits A) {d : Device} (hd : m.device? id = some d)
    (events : List DeviceEvent) (e : Device) (x : Nat) :
    ((m.setDevice e).deliver d.listeners events).requestOn? x =
      if x = id then (m.requestOn? x).map fun r => r.hear events else m.requestOn? x := by
  have hMap : ((m.setDevice e).deliver d.listeners events).requestOn? x =
      (m.requestOn? x).map fun r =>
        if Listener.request r.id ∈ d.listeners then r.hear events else r := by
    refine requestOn?_map m _ (fun r => ?_) x
    split <;> rfl
  rw [hMap]
  cases hOn : m.requestOn? x with
  | none => simp
  | some r =>
    obtain ⟨hr, hDevice⟩ := requestOn?_eq_some hOn
    have hMem := (h.mem_listeners hd).2 r hr
    rw [hDevice] at hMem
    by_cases hx : x = id
    · rw [if_pos hx, Option.map_some, Option.map_some, if_pos (hMem.mpr hx)]
    · rw [if_neg hx, Option.map_some, if_neg fun hIn => hx (hMem.mp hIn)]

/-- An operation on a device acts on its site. -/
theorem Fits.updateDevice (h : m.Fits A) {d : Device} (hd : m.device? id = some d)
    {f : Device → Update} (hMoves : Device.Moves d (f d))
    (hNeed : d.state = .needAuth → (f d).device.state = .needAuth ∨
      (f d).device.state.isActive = false ∨
      ∀ r, m.requestOn? id = some r → r.awaitsSecrets = false) :
    Acts A m (m.updateDevice id f) id ((m.site id).hears (f d)) := by
  obtain ⟨hdMem, hdId⟩ := device?_eq_some hd
  have hId : (f d).device.id = id := hMoves.frame.id.trans hdId
  have hEq : m.updateDevice id f = (m.setDevice (f d).device).deliver d.listeners (f d).events := by
    unfold Manager.updateDevice
    rw [hd]
  have hQueue : ∀ x, (m.updateDevice id f).queueOf x =
      if x = id then m.queueOf x ++ (f d).events else m.queueOf x := by
    intro x
    rw [hEq]
    unfold queueOf deliver
    dsimp only
    rw [if_pos (h.mem_listeners hd).1]
    exact filter_append_own (fun e he => (hMoves.own e he).trans hdId) x
  have hDevice : ∀ x, (m.updateDevice id f).device? x =
      if x = id then some (f d).device else m.device? x := by
    intro x
    rw [hEq]
    exact device?_setDevice_of hd hId x
  have hRequest : ∀ x, (m.updateDevice id f).requestOn? x =
      if x = id then (m.requestOn? x).map fun r => r.hear (f d).events else m.requestOn? x := by
    intro x
    rw [hEq]
    exact h.requestOn?_deliver hd _ _ x
  refine h.acts_keeps ?_ ?_ ?_ ⟨?_, ?_⟩
  · rw [hEq]
    exact (keeps_setDevice hd hId hMoves.frame.udi).trans (keeps_deliver _ _ _)
  · unfold Manager.site
    rw [hDevice, if_pos rfl, hRequest, if_pos rfl, hQueue, if_pos rfl, hEq]
    rfl
  · intro x hx
    unfold Manager.site
    rw [hDevice, if_neg hx, hRequest, if_neg hx, hQueue, if_neg hx, hEq]
    rfl
  · exact nofun
  · intro d' hd'
    cases hd'
    exact (h.sound hd).hears hMoves hNeed

/-- A device takes on other flags, without a word. -/
theorem Fits.modifyDevice (h : m.Fits A) {d : Device} (hd : m.device? id = some d)
    {f : Device → Device} (hFrame : Device.Frame d (f d)) (hState : (f d).state = d.state)
    (hSound : (f d).Sound) :
    Acts A m (m.modifyDevice id f) id { m.site id with device := some (f d) } := by
  obtain ⟨-, hdId⟩ := device?_eq_some hd
  have hEq : m.modifyDevice id f = m.setDevice (f d) := by
    unfold Manager.modifyDevice
    rw [hd]
  have hDevice := device?_setDevice_of hd (hFrame.id.trans hdId)
  have hSite : { m.site id with device := some (f d) } =
      (m.site id).hears { device := f d, events := [], error := none } := by
    unfold Site.hears
    rw [List.append_nil]
    rw [show (fun r : Request => r.hear []) = fun r => r from funext Request.hear_nil,
      Option.map_id']
  rw [hEq]
  refine h.acts_keeps (keeps_setDevice hd (hFrame.id.trans hdId) hFrame.udi) ?_ ?_ ⟨?_, ?_⟩
  · unfold Manager.site
    rw [hDevice, if_pos rfl]
    rfl
  · intro x hx
    unfold Manager.site
    rw [hDevice, if_neg hx]
    rfl
  · exact nofun
  · intro d' hd'
    cases hd'
    rw [hSite]
    have hCarries : Device.Carries d { device := f d, events := [], error := none } :=
      Device.Carries.silent hFrame hState hSound
    exact (h.sound hd).hears hCarries.toMoves fun hNeed => (hCarries.needAuth hNeed).imp_right Or.inl

-- ---------------------------------------------------------------------------
-- Requests
-- ---------------------------------------------------------------------------

/-- Without one request, its device has none, and all other devices have theirs. -/
theorem Linked.requestOn?_without (h : m.Linked) {r : Request} (hr : r ∈ m.requests) (x : Nat) :
    ((m.requests.filter fun q => q.id != r.id).find? fun q => q.device == x) =
      if x = r.device then none else m.requestOn? x := by
  have hIn : ∀ q, q ∈ (m.requests.filter fun q => q.id != r.id) ↔ q ∈ m.requests ∧ q.id ≠ r.id := by
    intro q
    rw [List.mem_filter, bne_iff_ne]
  by_cases hx : x = r.device
  · rw [if_pos hx, List.find?_eq_none]
    intro q hq hOn
    obtain ⟨hMem, hNe⟩ := (hIn q).mp hq
    rw [beq_iff_eq, hx] at hOn
    exact hNe (congrArg Request.id (h.eq_of_device hMem hr hOn))
  · rw [if_neg hx]
    cases hOn : m.requestOn? x with
    | none =>
      unfold requestOn? at hOn
      rw [List.find?_eq_none] at hOn ⊢
      exact fun q hq => hOn q ((hIn q).mp hq).1
    | some q =>
      obtain ⟨hMem, rfl⟩ := requestOn?_eq_some hOn
      have hNe : q.id ≠ r.id := fun hId => hx (congrArg Request.device (h.eq_of_id hMem hr hId))
      refine find?_key Request.device ?_ ((hIn q).mpr ⟨hMem, hNe⟩)
      exact h.places.sublist (List.filter_sublist.map _)

/-- A request has a device. -/
theorem Fits.exists_device (h : m.Fits A) {r : Request} (hr : r ∈ m.requests) :
    ∃ d, m.device? r.device = some d := by
  cases hd : m.device? r.device with
  | some d => exact ⟨d, rfl⟩
  | none =>
    have hNone := ((h.sites r.device).absent hd).1
    change m.requestOn? r.device = none at hNone
    rw [h.linked.requestOn?_of_mem hr] at hNone
    cases hNone

theorem teardown_absent (hr : m.request? id = none) (reason : StateReason) :
    m.teardown id reason = m := by
  unfold Manager.teardown
  rw [hr]

/-- A request that ends leaves its device, and then others are told. -/
theorem teardown_eq {r : Request} (hr : m.request? id = some r) (reason : StateReason) :
    m.teardown id reason = { m with
      devices := (m.modifyDevice r.device r.leave).devices
      requests := m.requests.filter fun q => q.id != id
      effects := m.effects ++ (r.detach reason).2
      events := m.events ++ [.activeConnectionRemoved id, .activeConnectionsChanged] } := by
  unfold Manager.teardown
  rw [hr]
  dsimp only
  unfold Manager.modifyDevice
  rw [show Manager.device? { m with requests := m.requests.filter fun q => q.id != id } r.device =
    m.device? r.device from rfl]
  cases m.device? r.device with
  | none => simp [Manager.publish, Manager.perform]
  | some d => simp [Manager.publish, Manager.perform, Manager.setDevice]

/-- The end of a request acts on the site of its device. -/
theorem Fits.teardown (h : m.Fits A) {r : Request} (hr : m.request? id = some r)
    (reason : StateReason) : Acts A m (m.teardown id reason) r.device (m.site r.device).forget := by
  obtain ⟨hrMem, rfl⟩ := request?_eq_some hr
  obtain ⟨d, hd⟩ := h.exists_device hrMem
  have hLeave : m.modifyDevice r.device r.leave = m.setDevice (Site.leftAlone d) := by
    unfold Manager.modifyDevice
    rw [hd]
    exact congrArg m.setDevice ((h.sound hd).leave_eq (h.linked.requestOn?_of_mem hrMem))
  have hId : (Site.leftAlone d).id = r.device := (device?_eq_some hd).2
  let m₁ : Manager := { m with requests := m.requests.filter fun q => q.id != r.id }
  let m₂ := m₁.setDevice (Site.leftAlone d)
  have hDevice : ∀ x, m₂.device? x = if x = r.device then some (Site.leftAlone d) else m.device? x :=
    device?_setDevice_of (m := m₁) hd hId
  have hRequest : ∀ x, m₂.requestOn? x = if x = r.device then none else m.requestOn? x :=
    h.linked.requestOn?_without hrMem
  have hActs : Acts A m m₂ r.device (m.site r.device).forget := by
    refine h.acts_keeps ?_ ?_ ?_ (h.sites r.device).forget
    · have hFiltered : Keeps m m₁ :=
        ⟨List.Sublist.refl _, List.filter_sublist.map _, rfl, rfl, rfl⟩
      exact hFiltered.trans (keeps_setDevice (m := m₁) hd hId rfl)
    · unfold Manager.site Site.forget
      rw [hDevice, if_pos rfl, hRequest, if_pos rfl, hd]
      rfl
    · intro x hx
      unfold Manager.site
      rw [hDevice, if_neg hx, hRequest, if_neg hx]
      rfl
  rw [teardown_eq hr, hLeave]
  refine hActs.same ⟨rfl, rfl, rfl, rfl, rfl, rfl, ?_, fun x => ?_⟩
  · show issued (m.effects ++ (r.detach reason).2) = issued m.effects
    rw [issued_append, r.issued_detach reason, List.append_nil]
  · show (m.events ++ _).filterMap _ = m.news x
    rw [List.filterMap_append]
    exact List.append_nil _

/-- The end of the request on a device acts on its site, if there is one. -/
theorem Fits.teardownOn (h : m.Fits A) (id : Nat) (reason : StateReason) :
    Acts A m (m.teardownOn id reason) id (m.site id).forget := by
  unfold Manager.teardownOn
  cases hOn : m.requestOn? id with
  | some r =>
    obtain ⟨hr, rfl⟩ := requestOn?_eq_some hOn
    exact h.teardown (h.linked.request?_of_mem hr) reason
  | none =>
    refine ⟨h, Within.refl m, ?_, fun x _ => rfl⟩
    unfold Site.forget
    have hDevice : m.device? id = (m.device? id).map Site.leftAlone := by
      cases hd : m.device? id with
      | none => rfl
      | some d =>
        rw [Option.map_some, (h.sound hd).leftAlone_eq hOn]
    show Site.mk _ _ _ _ _ = Site.mk _ _ _ _ _
    rw [hOn]
    exact congrArg (fun d => Site.mk d none (m.orphan? id) (m.queueOf id) (m.news id)) hDevice

-- ---------------------------------------------------------------------------
-- Activations without a request
-- ---------------------------------------------------------------------------

theorem orphan?_dropOrphan (m : Manager) (id x : Nat) :
    (m.dropOrphan id).orphan? x = if x = id then none else m.orphan? x := by
  unfold orphan? dropOrphan
  dsimp only
  induction m.orphans with
  | nil => simp
  | cons o os ih =>
    obtain ⟨k, o⟩ := o
    by_cases hk : k = id
    · rw [List.filter_cons_of_neg (by simp [hk]), ih]
      by_cases hx : x = id
      · rw [if_pos hx, if_pos hx]
      · rw [if_neg hx, if_neg hx, List.lookup_cons, beq_false_of_ne (by rwa [hk])]
    · rw [List.filter_cons_of_pos (by simp [hk]), List.lookup_cons, List.lookup_cons, ih]
      by_cases hx : x = id
      · rw [if_pos hx, if_pos hx, hx, beq_false_of_ne (Ne.symm hk)]
      · rw [if_neg hx, if_neg hx]

theorem orphan?_addOrphan (m : Manager) (id : Nat) (o : Orphan) (x : Nat) :
    (m.addOrphan id o).orphan? x = if x = id then some o else m.orphan? x := by
  have hEq : (m.addOrphan id o).orphan? x =
      ((m.dropOrphan id).orphan? x).or (List.lookup x [(id, o)]) := by
    unfold addOrphan orphan?
    exact List.lookup_append
  rw [hEq, orphan?_dropOrphan]
  by_cases hx : x = id
  · rw [if_pos hx, if_pos hx, hx]
    rw [List.lookup_cons, beq_self_eq_true]
    rfl
  · rw [if_neg hx, if_neg hx, List.lookup_cons, beq_false_of_ne hx]
    exact Option.or_none

/-- A change of the activation without a request on a device that is there, or is rid of it. -/
theorem Fits.adopt (h : m.Fits A) {orphan : Option Orphan}
    (hDevice : m.device? id = none → orphan = none)
    {orphans : List (Nat × Orphan)}
    (hHere : ({ m with orphans } : Manager).orphan? id = orphan)
    (hAway : ∀ x, x ≠ id → ({ m with orphans } : Manager).orphan? x = m.orphan? x) :
    Acts A m { m with orphans } id ((m.site id).adopt orphan) := by
  refine h.acts_keeps (Keeps.of_eq rfl rfl ⟨rfl, rfl⟩ rfl) ?_ ?_ ⟨?_, ?_⟩
  · unfold Manager.site
    rw [hHere]
    rfl
  · intro x hx
    unfold Manager.site
    rw [hAway x hx]
    rfl
  · exact fun hd => ⟨((h.sites id).absent hd).1, hDevice hd⟩
  · exact fun d hd => (h.sound hd).adopt orphan

theorem Fits.dropOrphan (h : m.Fits A) (id : Nat) :
    Acts A m (m.dropOrphan id) id ((m.site id).adopt none) := by
  refine h.adopt (fun _ => rfl) ?_ fun x hx => ?_
  · exact (orphan?_dropOrphan m id id).trans (if_pos rfl)
  · exact (orphan?_dropOrphan m id x).trans (if_neg hx)

theorem Fits.addOrphan (h : m.Fits A) {d : Device} (hd : m.device? id = some d) (o : Orphan) :
    Acts A m (m.addOrphan id o) id ((m.site id).adopt (some o)) := by
  refine h.adopt (fun hNone => ?_) ?_ fun x hx => ?_
  · rw [hd] at hNone
    cases hNone
  · exact (orphan?_addOrphan m id o id).trans (if_pos rfl)
  · exact (orphan?_addOrphan m id o x).trans (if_neg hx)

-- ---------------------------------------------------------------------------
-- Other versions of a request
-- ---------------------------------------------------------------------------

theorem mem_setRequest {r q : Request} (hq : q ∈ (m.setRequest r).requests) :
    q = r ∨ q ∈ m.requests :=
  mem_replaceFirst hq

theorem mem_setRequest_of_ne {r q : Request} (hq : q ∈ m.requests) (hNe : q.id ≠ r.id) :
    q ∈ (m.setRequest r).requests :=
  mem_replaceFirst_of_ne hq hNe

/-- The requests with another version of one of them. -/
theorem Linked.requests_setRequest (h : m.Linked) (r : Request) :
    (m.setRequest r).requests = m.requests.map fun q => if q.id = r.id then r else q :=
  replaceFirst_eq_map h.requests

theorem Linked.of_mem_setRequest (h : m.Linked) {r q : Request} (hq : q ∈ (m.setRequest r).requests) :
    q = r ∨ (q ∈ m.requests ∧ q.id ≠ r.id) := by
  rw [h.requests_setRequest] at hq
  obtain ⟨q₀, hq₀, rfl⟩ := List.mem_map.mp hq
  by_cases hId : q₀.id = r.id
  · exact Or.inl (if_pos hId)
  · rw [if_neg hId]
    exact Or.inr ⟨hq₀, hId⟩

/-- What a request has in common with the one in whose place it comes, all requests keep. -/
theorem map_setRequest {α : Type} {r r' : Request} (hr : m.request? r.id = some r)
    (hId : r'.id = r.id) (f : Request → α) (hSame : f r' = f r) :
    (m.setRequest r').requests.map f = m.requests.map f := by
  refine map_replaceFirst f fun q hq => ?_
  have hFound : m.request? r.id = some q := hId ▸ hq
  rw [hr] at hFound
  rw [← Option.some.inj hFound, hSame]

theorem setRequest_self {r : Request} (hr : m.request? r.id = some r) : m.setRequest r = m := by
  have hMap := map_setRequest hr rfl id rfl
  rw [List.map_id, List.map_id] at hMap
  exact congrArg (fun requests => { m with requests }) hMap

/-- A request that made calls, each with a number of its own. -/
theorem Linked.setRequest (h : m.Linked) {r r' : Request} (hr : r ∈ m.requests)
    (hId : r'.id = r.id) (hDevice : r'.device = r.device) (hSeq : r.nextSeq ≤ r'.nextSeq)
    {effects : List Effect} (hDistinct : (issued effects).Nodup)
    (hFresh : ∀ c ∈ issued effects, c.request = r.id ∧ r.nextSeq ≤ c.seq ∧ c.seq < r'.nextSeq) :
    ((m.setRequest r').perform effects).Linked := by
  have hFound := h.request?_of_mem hr
  have hIssued : issued ((m.setRequest r').perform effects).effects =
      issued m.effects ++ issued effects := issued_append m.effects effects
  exact
    { devices := h.devices
      paths := h.paths
      requests := (map_setRequest hFound hId Request.id hId).symm ▸ h.requests
      places := (map_setRequest hFound hId Request.device hDevice).symm ▸ h.places
      deviceBound := h.deviceBound
      requestBound := fun q hq => by
        rcases h.of_mem_setRequest hq with rfl | ⟨hq, -⟩
        · rw [hId]
          exact h.requestBound r hr
        · exact h.requestBound q hq
      calls := by
        rw [hIssued, List.nodup_append]
        refine ⟨h.calls, hDistinct, fun c hc c' hc' hEq => ?_⟩
        obtain ⟨hOwn, hLow, -⟩ := hFresh c' hc'
        have hOld := h.seqBound r hr c hc (hEq ▸ hOwn)
        rw [hEq] at hOld
        omega
      callBound := fun c hc => by
        rw [hIssued] at hc
        rcases List.mem_append.mp hc with hc | hc
        · exact h.callBound c hc
        · rw [(hFresh c hc).1]
          exact h.requestBound r hr
      seqBound := fun q hq c hc hOwn => by
        rw [hIssued] at hc
        rcases h.of_mem_setRequest hq with rfl | ⟨hq, hNe⟩
        · rcases List.mem_append.mp hc with hc | hc
          · exact Nat.lt_of_lt_of_le (h.seqBound r hr c hc (hOwn.trans hId)) hSeq
          · exact (hFresh c hc).2.2
        · rcases List.mem_append.mp hc with hc | hc
          · exact h.seqBound q hq c hc hOwn
          · refine absurd ?_ hNe
            rw [← hOwn, (hFresh c hc).1, hId] }

/-- Another version of a request acts on the site of its device. -/
theorem Fits.setRequest (h : m.Fits A) {r r' : Request} (hr : r ∈ m.requests)
    (hListening : r'.id = r.id ∧ r'.subscription = r.subscription)
    (hDevice : r'.device = r.device) (hForeseen : r'.foreseen = r.foreseen)
    (hAwaits : r'.awaitsSecrets = true → r.awaitsSecrets = true) (hSeq : r.nextSeq ≤ r'.nextSeq)
    {effects : List Effect} (hDistinct : (issued effects).Nodup)
    (hFresh : ∀ c ∈ issued effects, c.request = r.id ∧ r.nextSeq ≤ c.seq ∧ c.seq < r'.nextSeq) :
    Acts A m ((m.setRequest r').perform effects) r.device
      ((m.site r.device).withRequest r') := by
  have hLinked := h.linked.setRequest hr hListening.1 hDevice hSeq hDistinct hFresh
  have hOld : m.requestOn? r.device = some r := h.linked.requestOn?_of_mem hr
  have hNew : r' ∈ (m.setRequest r').requests := by
    rw [h.linked.requests_setRequest]
    exact List.mem_map.mpr ⟨r, hr, if_pos hListening.1.symm⟩
  have hRequest : ∀ x, ((m.setRequest r').perform effects).requestOn? x =
      if x = r.device then some r' else m.requestOn? x := by
    intro x
    by_cases hx : x = r.device
    · rw [if_pos hx, hx, ← hDevice]
      exact hLinked.requestOn?_of_mem hNew
    · rw [if_neg hx]
      cases hOn : m.requestOn? x with
      | some q =>
        -- the request of another device has another number, so it was not the one replaced
        obtain ⟨hq, rfl⟩ := requestOn?_eq_some hOn
        have hNe : q.id ≠ r'.id := fun hId =>
          hx (congrArg Request.device (h.linked.eq_of_id hq hr (hId.trans hListening.1)))
        exact hLinked.requestOn?_of_mem (mem_setRequest_of_ne hq hNe)
      | none =>
        unfold requestOn? at hOn ⊢
        rw [List.find?_eq_none] at hOn ⊢
        intro q hq
        rcases mem_setRequest hq with rfl | hq
        · rw [hDevice, beq_iff_eq]
          exact Ne.symm hx
        · exact hOn q hq
  have hWithin : Within m ((m.setRequest r').perform effects) := by
    refine ⟨fun d hd => ⟨d, hd, rfl, rfl⟩, fun q hq => ?_, fun c hc => ?_, rfl⟩
    · rcases mem_setRequest hq with rfl | hq
      · exact ⟨r, hr, hListening.1.symm, hDevice.symm⟩
      · exact ⟨q, hq, rfl, rfl⟩
    · rw [show ((m.setRequest r').perform effects).effects = m.effects ++ effects from rfl,
        issued_append] at hc
      refine (List.mem_append.mp hc).imp_right fun hc => ⟨r, hr, (hFresh c hc).1.symm⟩
  refine h.acts hLinked hWithin ?_ ?_ ⟨?_, ?_⟩
  · unfold Manager.site
    rw [hRequest, if_pos rfl]
    rfl
  · intro x hx
    unfold Manager.site
    rw [hRequest, if_neg hx]
    rfl
  · intro hNone
    obtain ⟨d, hd⟩ := h.exists_device hr
    change m.device? r.device = none at hNone
    rw [hd] at hNone
    cases hNone
  · exact fun d hd => (h.sound hd).withRequest hOld hListening hForeseen hAwaits

/-- Another version of a request that differs in nothing that matters here. -/
theorem Fits.setRequest_same (h : m.Fits A) {r r' : Request} (hr : r ∈ m.requests)
    (hSame : Request.Same r r') {effects : List Effect} (hEffects : issued effects = []) :
    Acts A m ((m.setRequest r').perform effects) r.device
      ((m.site r.device).withRequest r') := by
  refine h.setRequest hr ⟨hSame.id, hSame.subscription⟩ hSame.device ?_ ?_
    (Nat.le_of_eq hSame.nextSeq.symm) ?_ ?_
  · unfold Request.foreseen
    rw [hSame.queue, hSame.state]
  · unfold Request.awaitsSecrets
    rw [hSame.queue, hSame.secrets]
    exact id
  · rw [hEffects]
    exact List.nodup_nil
  · rw [hEffects]
    exact nofun

-- ---------------------------------------------------------------------------
-- Events that are handled
-- ---------------------------------------------------------------------------

/-- The oldest device event leaves the queue, and others hear what it says about the link. -/
theorem Fits.tell (h : m.Fits A) {e : DeviceEvent} {rest : List DeviceEvent}
    (hQueue : m.queue = e :: rest) (published : List ManagerEvent)
    (hNews : ∀ x, published.filterMap (ManagerEvent.linkNews? x) =
      if x = e.device then linkNews [e] else []) :
    Acts A m { m with queue := rest, events := m.events ++ published } e.device
      ((m.site e.device).tell e) := by
  have hQueueOf : ∀ x, m.queueOf x =
      if x = e.device then e :: rest.filter (fun e => e.device == x)
      else rest.filter fun e => e.device == x := by
    intro x
    unfold queueOf
    rw [hQueue]
    by_cases hx : x = e.device
    · rw [if_pos hx, List.filter_cons_of_pos (by simp [hx])]
    · rw [if_neg hx, List.filter_cons_of_neg (by simp [Ne.symm hx])]
  have hNewsOf : ∀ x,
      ({ m with queue := rest, events := m.events ++ published } : Manager).news x =
        m.news x ++ if x = e.device then linkNews [e] else [] := by
    intro x
    rw [← hNews x]
    exact List.filterMap_append
  have hHead : m.queueOf e.device = e :: rest.filter fun f => f.device == e.device := by
    rw [hQueueOf, if_pos rfl]
  refine h.acts_keeps (Keeps.of_eq rfl rfl ⟨rfl, rfl⟩ rfl) ?_ ?_
    ⟨(h.sites e.device).absent, ?_⟩
  · unfold Manager.site Site.tell
    dsimp only
    rw [hNewsOf, if_pos rfl, hHead]
    rfl
  · intro x hx
    unfold Manager.site
    rw [hNewsOf, if_neg hx, List.append_nil, hQueueOf, if_neg hx]
    rfl
  · exact fun d hd => (h.sound hd).tell hHead

-- ---------------------------------------------------------------------------
-- Events that are taken
-- ---------------------------------------------------------------------------

/-- Someone outside takes published events, and has to know what they said about links. -/
theorem Fits.retold {B : Nat → String → Prop} (h : m.Fits A) {events : List ManagerEvent}
    (hLink : ∀ d ∈ m.devices, d.hasLink = true → d.state.isActive = true →
      (({ m with events } : Manager).site d.id).allNews.getLast? = some true ∨
        ((({ m with events } : Manager).site d.id).allNews = [] ∧ B d.id d.udi)) :
    Fits B { m with events } where
  linked := h.linked.keeps (Keeps.of_eq rfl rfl ⟨rfl, rfl⟩ rfl)
  sites id := by
    refine ⟨(h.sites id).absent, fun d hd => ?_⟩
    have hSound := (h.sites id).sound d hd
    obtain ⟨hMem, rfl⟩ := device?_eq_some (show m.device? id = some d from hd)
    exact ⟨hSound.device, hSound.subscribers, hSound.numbers, hSound.place, hSound.follows,
      hSound.awaits, hSound.last, hSound.trail, hLink d hMem⟩

theorem Coherent.retold {B : Nat → String → Prop} (h : m.Coherent A) {events : List ManagerEvent}
    (hLink : ∀ d ∈ m.devices, d.hasLink = true → d.state.isActive = true →
      (({ m with events } : Manager).site d.id).allNews.getLast? = some true ∨
        ((({ m with events } : Manager).site d.id).allNews = [] ∧ B d.id d.udi)) :
    Coherent B { m with events } := by
  refine ⟨h.toFits.retold hLink, fun id d hd => ?_⟩
  have hHeld := h.accounted id d hd
  exact ⟨hHeld.owned, hHeld.served, hHeld.unserved, hHeld.left⟩

/-- What is known outside may change if what matters stays known. -/
theorem Coherent.weaken {B : Nat → String → Prop} (h : m.Coherent A)
    (hKnows : ∀ d ∈ m.devices, A d.id d.udi → B d.id d.udi) : m.Coherent B :=
  h.retold fun d hd hLink hActive =>
    ((h.toFits.sound (h.linked.device?_of_mem hd)).link hLink hActive).imp_right
      fun hNone => ⟨hNone.1, hKnows d hd hNone.2⟩

end Manager

end ScannerHub
