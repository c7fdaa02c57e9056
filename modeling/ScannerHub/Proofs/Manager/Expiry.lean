import ScannerHub.Proofs.Manager.Deadlines
import ScannerHub.Proofs.Manager.Elsewhere

/-!
# Expiry

When deadlines pass, three things happen before the manager settles: every request is asked whether
its time is up, those whose time is up leave their devices, and every device is asked whether it has
waited too long for its link. Each of the three goes from site to site, and what it makes of one site
has to do with no other. So what becomes of a device can be read off its own deadline and that of the
request on it.

* `Request.IsDue`, `Device.IsDue` — a deadline has passed;
* `Manager.timedOut` — the manager before it settles;
* `Manager.Expiry` — what is left after all deadlines of the moment have passed.

## Results

* `Settled.site_due`, `Settled.site_other` — what becomes of one site;
* `Settled.timedOut_eq` — nothing happens before a deadline passes;
* `run_expiry` — deadlines pass when they are due, and then nothing is late any more.
-/

namespace ScannerHub

-- ---------------------------------------------------------------------------
-- Requests
-- ---------------------------------------------------------------------------

namespace Request

variable {r : Request} {moment : Nat}

/-- What is noted of an activation that goes on without its request. -/
def toOrphan (r : Request) : Orphan :=
  { connection := r.connection, userRequested := r.userRequested }

/-- The deadline of a request is not after a moment. -/
def IsDue (moment : Nat) (r : Request) : Prop := ∃ t, r.deadline = some t ∧ t ≤ moment

instance (moment : Nat) (r : Request) : Decidable (r.IsDue moment) :=
  inferInstanceAs (Decidable (∃ t ∈ r.deadline, t ≤ moment))

theorem Concluded.checkTimeout_iff (h : r.Concluded) :
    (r.checkTimeout moment).2.2 = true ↔ r.IsDue moment := by
  unfold checkTimeout
  cases hDeadline : r.deadline with
  | none =>
    refine ⟨nofun, fun ⟨t, ht, _⟩ => ?_⟩
    rw [hDeadline] at ht
    cases ht
  | some deadline =>
    -- a request that has its outcome has no deadline any more
    have hOpen : r.outcome = none := by
      rw [← Option.not_isSome_iff_eq_none]
      intro hSome
      rw [h hSome] at hDeadline
      cases hDeadline
    dsimp only
    by_cases hDue : deadline ≤ moment
    · rw [if_pos ⟨hDue, hOpen⟩]
      exact ⟨fun _ => ⟨deadline, hDeadline, hDue⟩, fun _ => rfl⟩
    · rw [if_neg fun hBoth => hDue hBoth.1]
      refine ⟨nofun, fun ⟨t, ht, hLate⟩ => ?_⟩
      rw [hDeadline] at ht
      cases ht
      exact absurd hLate hDue

/-- A request whose time is not up stays as it is. -/
theorem checkTimeout_open (h : (r.checkTimeout moment).2.2 = false) :
    r.checkTimeout moment = (r, [], false) := by
  unfold checkTimeout at h ⊢
  split
  · rfl
  · rename_i deadline hDeadline
    rw [hDeadline] at h
    dsimp only at h
    split
    · rename_i hDue
      rw [if_pos hDue] at h
      cases h
    · rfl

theorem toOrphan_checkTimeout (r : Request) (moment : Nat) :
    (r.checkTimeout moment).1.toOrphan = r.toOrphan := by
  unfold checkTimeout
  split
  · rfl
  · split
    · show (r.finish (.failed .timeoutExpired)).1.toOrphan = r.toOrphan
      unfold finish
      split <;> rfl
    · rfl

/-- Everyone who waits for a request hears that its time is up. -/
theorem checkTimeout_answers (h : (r.checkTimeout moment).2.2 = true) {w : Nat} (hw : w ∈ r.waiters) :
    .answerWaiter w (.failed .timeoutExpired) ∈ (r.checkTimeout moment).2.1 := by
  unfold checkTimeout at h ⊢
  split
  · rename_i hDeadline
    rw [hDeadline] at h
    cases h
  · rename_i deadline hDeadline
    rw [hDeadline] at h
    dsimp only at h
    split
    · rename_i hDue
      unfold finish
      rw [hDue.2]
      exact List.mem_map_of_mem hw
    · rename_i hEarly
      rw [if_neg hEarly] at h
      cases h

end Request

-- ---------------------------------------------------------------------------
-- Devices
-- ---------------------------------------------------------------------------

namespace Device

variable {d : Device} {moment : Nat}

/-- The deadline of a device is not after a moment. -/
def IsDue (moment : Nat) (d : Device) : Prop := ∃ t, d.deadline? = some t ∧ t ≤ moment

instance (moment : Nat) (d : Device) : Decidable (d.IsDue moment) :=
  inferInstanceAs (Decidable (∃ t ∈ d.deadline?, t ≤ moment))

/-- A device that waits for a link waits in the state for that. -/
theorem IsDue.config (h : d.IsDue moment) (hSound : d.Sound) : d.state = .config := by
  obtain ⟨t, ht, -⟩ := h
  by_contra hState
  rw [Manager.deadline?_eq_none hSound.hardware hState] at ht
  cases ht

theorem not_isDue_of_state (hSound : d.Sound) (hState : d.state ≠ .config) : ¬ d.IsDue moment :=
  fun h => hState (h.config hSound)

/-- What has not waited too long stays as it is. -/
theorem pollDeadline_early (h : ¬ d.IsDue moment) : d.pollDeadline moment = d.unchanged := by
  have hKeep : ∀ h, d.hardware = h → ({ d with hardware := h } : Device).unchanged = d.unchanged := by
    rintro h rfl
    rfl
  unfold pollDeadline
  -- only a link that is still to come up has a deadline, so only there is anything looked at
  cases hKind : d.hardware with
  | hidraw node => exact hKeep _ hKind
  | serial line => exact hKeep _ hKind
  | bluetooth radio =>
    obtain ⟨address, name, profiles, connectTimeout, link⟩ := radio
    cases link with
    | idle => exact hKeep _ hKind
    | up profile => exact hKeep _ hKind
    | connecting deadline profile =>
      have hEarly : ¬ deadline ≤ moment := by
        intro hLate
        refine h ⟨deadline, ?_, hLate⟩
        unfold Device.deadline?
        rw [hKind]
        rfl
      unfold Hardware.deadlineExpired
      dsimp only
      simp only [if_neg hEarly]
      exact hKeep _ hKind

/-- What has waited too long has failed. -/
theorem pollDeadline_late (h : d.IsDue moment) (hSound : d.Sound) :
    (d.pollDeadline moment).device.state = .failed := by
  have hState := h.config hSound
  obtain ⟨t, ht, hLate⟩ := h
  unfold Device.deadline? at ht
  unfold pollDeadline
  cases hKind : d.hardware with
  | hidraw node =>
    rw [hKind] at ht
    cases ht
  | serial line =>
    rw [hKind] at ht
    cases ht
  | bluetooth radio =>
    rw [hKind] at ht
    obtain ⟨address, name, profiles, connectTimeout, link⟩ := radio
    cases link with
    | idle => cases ht
    | up profile => cases ht
    | connecting deadline profile =>
      cases ht
      unfold Hardware.deadlineExpired
      dsimp only
      simp only [if_pos hLate]
      unfold moveTo
      simp only [hState]
      rfl

/-- A device that was asked whether it has waited too long waits for nothing that is over. -/
theorem ahead_pollDeadline (h : d.hardware.Patient) : (d.pollDeadline moment).device.Ahead moment := by
  -- the hardware forgets a deadline that has passed, and to move to another state sets none
  have hHardware : Ahead moment { d with hardware := (d.hardware.deadlineExpired moment).1 } := by
    cases hKind : d.hardware with
    | hidraw node => exact ⟨trivial, nofun⟩
    | serial line => exact ⟨trivial, nofun⟩
    | bluetooth radio =>
      rw [hKind] at h
      obtain ⟨address, name, profiles, connectTimeout, link⟩ := radio
      cases link with
      | idle => exact ⟨h, nofun⟩
      | up profile => exact ⟨h, nofun⟩
      | connecting deadline profile =>
        unfold Hardware.deadlineExpired
        dsimp only
        by_cases hLate : deadline ≤ moment
        · rw [if_pos hLate]
          exact ⟨h, nofun⟩
        · rw [if_neg hLate]
          refine ⟨h, fun t ht => ?_⟩
          cases ht
          omega
  unfold pollDeadline
  dsimp only
  split
  · split
    · exact hHardware.moveTo .failed _
    · exact hHardware
  · exact hHardware

theorem patient_moveTo (h : d.hardware.Patient) (new : DeviceState) (reason : StateReason) :
    (d.moveTo new reason).device.hardware.Patient := by
  unfold moveTo
  split
  · exact h
  · split
    · show Hardware.Patient (if _ then d.hardware.deactivate else d.hardware)
      split
      · exact Hardware.patient_deactivate h
      · exact h
    · exact h

theorem patient_failAuth (h : d.hardware.Patient) : d.failAuth.device.hardware.Patient := by
  unfold failAuth
  split
  · exact patient_moveTo h _ _
  · exact h

end Device

-- ---------------------------------------------------------------------------
-- Sites
-- ---------------------------------------------------------------------------

namespace Site

variable {s : Site} {d : Device}

/-- The site once its request was asked whether its time is up. -/
def asked (moment : Nat) (s : Site) : Site :=
  { s with request := s.request.map fun r => (r.checkTimeout moment).1 }

/-- The site once its request has left it because its time is up. -/
def lapsed (s : Site) : Site :=
  match s.request, s.device with
  | some r, some d =>
    let orphan := if d.state.isActive then some r.toOrphan else s.orphan
    (s.adopt orphan).forget.hears (leftAlone d).failAuth
  | _, _ => s

/-- The site once its device was asked whether it has waited too long. -/
def polled (moment : Nat) (s : Site) : Site :=
  match s.device with
  | some d => s.hears (d.pollDeadline moment)
  | none => s

theorem hears_unchanged (hd : s.device = some d) : s.hears d.unchanged = s := by
  obtain ⟨device, request, orphan, queue, news⟩ := s
  cases hd
  have hRequest : request.map (fun r => r.hear []) = request := by
    refine (congrArg (fun f => request.map f) ?_).trans Option.map_id'
    funext r
    unfold Request.hear
    rw [List.append_nil]
  show Site.mk _ (request.map fun r => r.hear []) orphan (queue ++ []) news = _
  rw [hRequest, List.append_nil]
  rfl

/-- A device that has not waited too long is left as it is. -/
theorem polled_early {moment : Nat} (h : ∀ d, s.device = some d → ¬ d.IsDue moment) :
    s.polled moment = s := by
  unfold polled
  split
  · rename_i d hd
    rw [Device.pollDeadline_early (h d hd)]
    exact hears_unchanged hd
  · rfl

end Site

/-- What may be done while the queues are worked off. -/
def Feat.Handling : Feat → Prop
  | .tells | .abandons | .leaves _ => True
  | _ => False

namespace Manager

variable {A : Nat → String → Prop} {m m' : Manager} {moment x : Nat}

-- ---------------------------------------------------------------------------
-- From site to site
-- ---------------------------------------------------------------------------

/-- What is done to one site after another makes of each of them what it makes of it alone. -/
theorem site_foldl {α : Type} {f : Manager → α → Manager} {k : α → Nat} {F : Site → Site}
    {P : List α → Manager → Prop} (m : Manager)
    (hStep : ∀ a rest m', P (a :: rest) m' → m'.site (k a) = m.site (k a) →
      P rest (f m' a) ∧ ∀ x, (f m' a).site x = if x = k a then F (m.site x) else m'.site x)
    {xs : List α} (hKeys : (xs.map k).Nodup) (hP : P xs m) :
    P [] (xs.foldl f m) ∧
      ∀ x, (xs.foldl f m).site x = if x ∈ xs.map k then F (m.site x) else m.site x := by
  -- the sites of what is still to be done have not been touched, and so are as in the beginning
  have hFold : ∀ (xs : List α) (m' : Manager), (xs.map k).Nodup → P xs m' →
      (∀ x ∈ xs.map k, m'.site x = m.site x) → P [] (xs.foldl f m') ∧
        ∀ x, (xs.foldl f m').site x = if x ∈ xs.map k then F (m.site x) else m'.site x := by
    intro xs
    induction xs with
    | nil => exact fun m' _ hP _ => ⟨hP, fun x => rfl⟩
    | cons a xs ih =>
      intro m' hKeys hP hSame
      rw [List.map_cons, List.nodup_cons] at hKeys
      obtain ⟨hNext, hSite⟩ := hStep a xs m' hP (hSame (k a) List.mem_cons_self)
      obtain ⟨hLast, hRest⟩ := ih (f m' a) hKeys.2 hNext fun x hx => by
        have hNe : x ≠ k a := fun hEq => hKeys.1 (hEq ▸ hx)
        rw [hSite x, if_neg hNe]
        exact hSame x (List.mem_cons_of_mem _ hx)
      refine ⟨hLast, fun x => ?_⟩
      rw [List.foldl_cons, hRest x, List.map_cons]
      by_cases hx : x ∈ xs.map k
      · rw [if_pos hx, if_pos (List.mem_cons_of_mem _ hx)]
      · rw [if_neg hx, hSite x]
        by_cases hEq : x = k a
        · rw [if_pos hEq, if_pos (hEq ▸ List.mem_cons_self)]
        · rw [if_neg hEq, if_neg fun hIn => (List.mem_cons.mp hIn).elim hEq hx]
  exact hFold xs m hKeys hP fun _ _ => rfl

/-- The manager once every request was asked whether its time is up. -/
def asked (moment : Nat) (m : Manager) : Manager :=
  m.requests.foldl (fun m r => (m.setRequest (r.checkTimeout moment).1).perform
    (r.checkTimeout moment).2.1) m

/-- The requests whose time is up. -/
def overdue (moment : Nat) (m : Manager) : List Request :=
  m.requests.filter fun r => (r.checkTimeout moment).2.2

/-- The manager once the requests whose time is up have left it. -/
def lapsed (moment : Nat) (m : Manager) : Manager :=
  ((m.overdue moment).map Request.id).foldl expireRequest (m.asked moment)

/-- The manager when deadlines have passed, before it settles. -/
def timedOut (moment : Nat) (m : Manager) : Manager :=
  (m.lapsed moment).devices.foldl
    (fun m d => m.updateDevice d.id fun d => d.pollDeadline moment) (m.lapsed moment)

theorem processTimeoutsAt_eq (m : Manager) (moment : Nat) :
    m.processTimeoutsAt moment = (m.timedOut moment).settle := rfl

theorem Settled.site_asked (h : m.Settled A) (moment x : Nat) :
    (m.asked moment).site x = (m.site x).asked moment := by
  -- no two requests are on one device, so each is asked on a site that nobody has been at
  obtain ⟨-, hSites⟩ := site_foldl (P := Checked A moment m) (k := Request.device)
    (F := Site.asked moment) (f := fun m r => (m.setRequest (r.checkTimeout moment).1).perform
      (r.checkTimeout moment).2.1) m (fun r rest m' hChecked hSite => by
    have hr := hChecked.present r List.mem_cons_self
    have hActs := hChecked.coherent.toFits.setRequest_same hr (r.checkTimeout_same moment)
      (Request.issued_of_ofEffects (r.checkTimeout_effects moment))
    refine ⟨hChecked.step h.linked, fun x => (hActs.site x).trans ?_⟩
    by_cases hx : x = r.device
    · subst hx
      have hOn := hChecked.coherent.linked.requestOn?_of_mem hr
      rw [if_pos rfl, if_pos rfl, ← hSite]
      unfold Site.asked
      rw [show (m'.site r.device).request = some r from hOn]
      rfl
    · rw [if_neg hx, if_neg hx])
    h.linked.places ⟨h.toCoherent.checking, .refl, rfl, h.queue, h.looked, fun _ hr => hr,
      fun _ hr _ => .inr hr⟩
  refine (hSites x).trans ?_
  by_cases hx : x ∈ m.requests.map Request.device
  · rw [if_pos hx]
  · -- a site without a request has nobody to ask
    have hNone : (m.site x).request = none := by
      cases hOn : m.requestOn? x with
      | none => exact hOn
      | some r =>
        obtain ⟨hr, rfl⟩ := requestOn?_eq_some hOn
        exact absurd (List.mem_map_of_mem hr) hx
    rw [if_neg hx]
    unfold Site.asked
    rw [hNone]
    exact (congrArg (fun request => { m.site x with request }) hNone)

/-- The requests whose time is up leave their sites, and no other site has to do with that. -/
theorem Settled.site_lapsed (h : m.Settled A) (moment x : Nat) :
    (m.lapsed moment).site x =
      if x ∈ (m.overdue moment).map Request.device then ((m.site x).asked moment).lapsed
      else (m.site x).asked moment := by
  obtain ⟨-, hSites⟩ := site_foldl (P := fun rest m' => Ended A moment m (rest.map Request.id) m' ∧
      ∀ r ∈ rest, r ∈ m.requests) (k := Request.device) (F := Site.lapsed)
    (f := fun m (r : Request) => m.expireRequest r.id) (m.asked moment)
    (fun r rest m' ⟨hEnded, hMem⟩ hSite => by
      have hr := hMem r List.mem_cons_self
      have hId : (r.checkTimeout moment).1.id = r.id := (r.checkTimeout_same moment).id
      -- it is looked up by its number, and found as it was left when it was asked
      have hOn : m'.requestOn? r.device = some (r.checkTimeout moment).1 := by
        refine (congrArg Site.request (hSite.trans (h.site_asked moment r.device))).trans ?_
        exact congrArg (Option.map fun r => (r.checkTimeout moment).1) (h.linked.requestOn?_of_mem hr)
      obtain ⟨hMem', hDevice⟩ := requestOn?_eq_some hOn
      obtain ⟨d, hd⟩ := hEnded.coherent.toFits.exists_device hMem'
      have hFound := hEnded.coherent.linked.request?_of_mem hMem'
      obtain ⟨orphan, hSome, hSame, hActs⟩ := hEnded.coherent.expires hFound hd
      rw [hDevice] at hd hSame hActs
      rw [hId] at hActs
      refine ⟨⟨hEnded.step, fun q hq => hMem q (List.mem_cons_of_mem r hq)⟩, fun x => ?_⟩
      refine (hActs.site x).trans ?_
      by_cases hx : x = r.device
      · subst hx
        have hOrphan : orphan = if d.state.isActive then some (r.checkTimeout moment).1.toOrphan
            else m'.orphan? r.device := by
          cases hActive : d.state.isActive with
          | true => exact hSome hActive
          | false => exact hSame hActive
        rw [if_pos rfl, if_pos rfl, ← hSite, hOrphan]
        unfold Site.lapsed
        rw [show (m'.site r.device).request = some (r.checkTimeout moment).1 from hOn,
          show (m'.site r.device).device = some d from hd]
        rfl
      · rw [if_neg hx, if_neg hx])
    (h.linked.places.sublist (List.filter_sublist.map _))
    ⟨h.ending moment, fun r hr => (List.mem_filter.mp hr).1⟩
  unfold Manager.lapsed
  rw [List.foldl_map]
  refine (hSites x).trans ?_
  rw [h.site_asked]
  rfl

/-- Every site has its device asked whether it has waited too long. -/
theorem Settled.site_timedOut (h : m.Settled A) (moment x : Nat) :
    (m.timedOut moment).site x = ((m.lapsed moment).site x).polled moment := by
  have hEnded : Ended A moment m [] (m.lapsed moment) := h.ended moment
  have hCoherent := hEnded.coherent
  obtain ⟨-, hSites⟩ := site_foldl (P := fun _ m' => m'.Coherent A) (k := Device.id)
    (F := Site.polled moment)
    (f := fun m (d : Device) => m.updateDevice d.id fun d => d.pollDeadline moment)
    (m.lapsed moment) (fun d rest m' hm' hSite => by
      have hCarries : ∀ d : Device, d.AllListen → d.Sound → Device.Carries d (d.pollDeadline moment) :=
        fun _ => Device.pollDeadline_carries moment
      refine ⟨hm'.updateDevice d.id hCarries, fun x => ?_⟩
      cases he : m'.device? d.id with
      | none =>
        -- no device goes meanwhile, but for what becomes of the site that makes no difference
        rw [updateDevice_absent he]
        by_cases hx : x = d.id
        · subst hx
          rw [if_pos rfl, ← hSite]
          unfold Site.polled
          rw [show (m'.site d.id).device = none from he]
        · rw [if_neg hx]
      | some e =>
        have hSound := hm'.toFits.sound he
        have hActs := hm'.toFits.carries he (f := fun d => d.pollDeadline moment)
          (hCarries e hSound.allListen hSound.device)
        refine (hActs.site x).trans ?_
        by_cases hx : x = d.id
        · subst hx
          rw [if_pos rfl, if_pos rfl, ← hSite]
          unfold Site.polled
          rw [show (m'.site d.id).device = some e from he]
        · rw [if_neg hx, if_neg hx]) hCoherent.linked.devices hCoherent
  refine (hSites x).trans ?_
  by_cases hx : x ∈ (m.lapsed moment).devices.map Device.id
  · rw [if_pos hx]
  · have hNone : ((m.lapsed moment).site x).device = none := by
      cases hd : (m.lapsed moment).device? x with
      | none => exact hd
      | some d =>
        obtain ⟨hMem, rfl⟩ := device?_eq_some hd
        exact absurd (List.mem_map_of_mem hMem) hx
    rw [if_neg hx]
    unfold Site.polled
    rw [hNone]

-- ---------------------------------------------------------------------------
-- One site
-- ---------------------------------------------------------------------------

/-- A request of a settled manager is on an active device. -/
theorem Settled.active_of_mem (h : m.Settled A) {r : Request} (hr : r ∈ m.requests) {d : Device}
    (hd : m.device? r.device = some d) : d.state.isActive = true := by
  by_contra hIdle
  rw [Bool.not_eq_true] at hIdle
  refine (h.toCoherent.held hd).left hIdle (.inl ?_) ?_
  · exact Option.isSome_iff_exists.mpr ⟨r, h.linked.requestOn?_of_mem hr⟩
  · show entered (m.queueOf r.device) = []
    rw [queueOf_nil h.queue]
    rfl

/-- A site without a request whose time is up only has its device asked. -/
theorem Settled.site_other (h : m.Settled A)
    (hOpen : ∀ r, m.requestOn? x = some r → (r.checkTimeout moment).2.2 = false) :
    (m.timedOut moment).site x = (m.site x).polled moment := by
  have hAsked : (m.site x).asked moment = m.site x := by
    unfold Site.asked
    cases hOn : m.requestOn? x with
    | none =>
      rw [show (m.site x).request = none from hOn]
      exact congrArg (fun request => { m.site x with request }) hOn.symm
    | some r =>
      rw [show (m.site x).request = some r from hOn, Option.map_some,
        Request.checkTimeout_open (hOpen r hOn)]
      exact congrArg (fun request => { m.site x with request }) hOn.symm
  -- the requests that leave are those whose time is up
  have hNot : x ∉ (m.overdue moment).map Request.device := by
    intro hIn
    obtain ⟨r, hr, rfl⟩ := List.mem_map.mp hIn
    obtain ⟨hMem, hDue⟩ := List.mem_filter.mp hr
    rw [hOpen r (h.linked.requestOn?_of_mem hMem)] at hDue
    cases hDue
  rw [h.site_timedOut, h.site_lapsed, if_neg hNot, hAsked]

/-- A request whose time is up leaves its device alone and its activation with a note. The device
fails if it waits for secrets, and if it has waited too long for its link. -/
theorem Settled.site_due (h : m.Settled A) {r : Request} (hr : r ∈ m.requests)
    (hDue : (r.checkTimeout moment).2.2 = true) {d : Device} (hd : m.device? r.device = some d) :
    (m.timedOut moment).site r.device =
      (((m.site r.device).adopt (some r.toOrphan)).forget.hears
        (Site.leftAlone d).failAuth).polled moment := by
  have hOn := h.linked.requestOn?_of_mem hr
  have hIn : r.device ∈ (m.overdue moment).map Request.device :=
    List.mem_map_of_mem (List.mem_filter.mpr ⟨hr, hDue⟩)
  rw [h.site_timedOut, h.site_lapsed, if_pos hIn]
  refine congrArg (Site.polled moment) ?_
  unfold Site.lapsed Site.asked
  rw [show (m.site r.device).request = some r from hOn, Option.map_some,
    show (m.site r.device).device = some d from hd]
  dsimp only
  rw [if_pos (h.active_of_mem hr hd), Request.toOrphan_checkTimeout]
  rfl

/-- If neither is the case, its activation goes on. -/
theorem Settled.site_left (h : m.Settled A) {r : Request} (hr : r ∈ m.requests)
    (hDue : (r.checkTimeout moment).2.2 = true) {d : Device} (hd : m.device? r.device = some d)
    (hNeed : d.state ≠ .needAuth) (hEarly : ¬ d.IsDue moment) :
    (m.timedOut moment).site r.device =
      ((m.site r.device).adopt (some r.toOrphan)).forget := by
  have hThere : ((m.site r.device).adopt (some r.toOrphan)).forget.device = some (Site.leftAlone d) :=
    congrArg (Option.map Site.leftAlone) hd
  rw [h.site_due hr hDue hd, Device.failAuth_unchanged (d := Site.leftAlone d) hNeed,
    Site.hears_unchanged hThere]
  refine Site.polled_early fun e he => ?_
  cases hThere.symm.trans he
  exact hEarly

/-- Nothing happens before a deadline passes. -/
theorem Settled.timedOut_eq (h : m.Settled A)
    (hRequests : ∀ r ∈ m.requests, (r.checkTimeout moment).2.2 = false)
    (hDevices : ∀ d ∈ m.devices, ¬ d.IsDue moment) : m.timedOut moment = m := by
  have hAsked : m.asked moment = m := by
    refine (foldl_rest (P := fun rest m' => m' = m ∧ ∀ r ∈ rest, r ∈ m.requests) ?_ m.requests m
      ⟨rfl, fun _ hr => hr⟩).1
    rintro r rest _ ⟨rfl, hMem⟩
    have hr := hMem r List.mem_cons_self
    refine ⟨?_, fun q hq => hMem q (List.mem_cons_of_mem r hq)⟩
    rw [Request.checkTimeout_open (hRequests r hr)]
    exact (perform_nil _).trans (setRequest_self (h.linked.request?_of_mem hr))
  have hNone : m.overdue moment = [] :=
    List.filter_eq_nil_iff.mpr fun r hr => by rw [hRequests r hr]; exact Bool.false_ne_true
  have hLapsed : m.lapsed moment = m := by
    unfold Manager.lapsed
    rw [hNone, hAsked]
    rfl
  unfold Manager.timedOut
  rw [hLapsed]
  refine (foldl_rest (P := fun rest m' => m' = m ∧ ∀ d ∈ rest, d ∈ m.devices) ?_ m.devices m
    ⟨rfl, fun _ hd => hd⟩).1
  rintro d rest _ ⟨rfl, hMem⟩
  have hd := hMem d List.mem_cons_self
  exact ⟨updateDevice_unchanged (h.linked.device?_of_mem hd) (Device.pollDeadline_early (hDevices d hd)),
    fun e he => hMem e (List.mem_cons_of_mem d he)⟩

-- ---------------------------------------------------------------------------
-- Before the manager settles
-- ---------------------------------------------------------------------------

theorem Settled.coherent_timedOut (h : m.Settled A) (moment : Nat) :
    (m.timedOut moment).Coherent A ∧ (m.timedOut moment).nextRequest = m.nextRequest := by
  have hEnded : Ended A moment m [] (m.lapsed moment) := h.ended moment
  obtain ⟨-, hPolled⟩ := hEnded.coherent.passages_poll hEnded.nextRequest moment
    (m.lapsed moment).devices
  exact hPolled

/-- What decides about automatic activations stays, and none becomes due. -/
theorem decides_timedOut (m : Manager) (moment : Nat) :
    Decides m (m.timedOut moment) ∧ (m.timedOut moment).pending = m.pending := by
  have hExpire : ∀ (m : Manager) (id : Nat),
      Decides m (m.expireRequest id) ∧ (m.expireRequest id).pending = m.pending := by
    intro m id
    cases hr : m.request? id with
    | none =>
      rw [expireRequest_absent hr]
      exact ⟨.refl m, rfl⟩
    | some r =>
      have hNoted : Decides m (m.noted r) ∧ (m.noted r).pending = m.pending := by
        unfold Manager.noted
        split
        · exact ⟨⟨rfl, rfl, rfl, rfl, rfl⟩, rfl⟩
        · exact ⟨.refl m, rfl⟩
      have hEnded : Decides m ((m.noted r).teardown id .unknown) ∧
          ((m.noted r).teardown id .unknown).pending = m.pending :=
        ⟨hNoted.1.trans (decides_teardown _ _ _), (rests_teardown _ _ _).pending.trans hNoted.2⟩
      rw [expireRequest_eq hr]
      unfold Manager.failUnansweredAuth
      split
      · exact hEnded
      · exact ⟨hEnded.1.trans (decides_updateDevice _ _ _),
          (pending_updateDevice _ _ _).trans hEnded.2⟩
  -- each of the three parts is a fold, and none of its steps matters
  have hAsked : Decides m (m.asked moment) ∧ (m.asked moment).pending = m.pending := by
    unfold Manager.asked
    refine foldl_rest (P := fun _ m' => Decides m m' ∧ m'.pending = m.pending) ?_ _ m ⟨.refl m, rfl⟩
    intro r _ m' h
    exact ⟨h.1.trans ⟨rfl, rfl, rfl, rfl, rfl⟩, h.2⟩
  have hLapsed : Decides m (m.lapsed moment) ∧ (m.lapsed moment).pending = m.pending :=
    foldl_rest (P := fun _ m' => Decides m m' ∧ m'.pending = m.pending)
      (fun id _ m' h => ⟨h.1.trans (hExpire m' id).1, (hExpire m' id).2.trans h.2⟩) _ _ hAsked
  exact foldl_rest (P := fun _ m' => Decides m m' ∧ m'.pending = m.pending)
    (fun d _ m' h => ⟨h.1.trans (decides_updateDevice m' d.id _),
      (pending_updateDevice m' d.id _).trans h.2⟩) _ _ hLapsed

theorem terms_timedOut (m : Manager) (moment : Nat) : (m.timedOut moment).terms = m.terms :=
  (terms_settle _).symm.trans (m.terms_processTimeoutsAt moment)

/-- What is left of the requests is not late. -/
theorem Settled.requests_timedOut (h : m.Settled A) {r' : Request}
    (hr' : r' ∈ (m.timedOut moment).requests) :
    ∃ r ∈ m.requests, r'.id = r.id ∧ r'.deadline = r.deadline ∧ (r.checkTimeout moment).2.2 = false := by
  have hOn := (h.coherent_timedOut moment).1.linked.requestOn?_of_mem hr'
  -- what is left on a site is what was there before, unless the time for that was up
  generalize r'.device = x at hOn
  cases hr : m.requestOn? x with
  | none =>
    have hSite : (m.timedOut moment).site x = _ := h.site_other fun q hq => by
      rw [hr] at hq
      cases hq
    have hGone : ((m.site x).polled moment).request = some r' :=
      (congrArg Site.request hSite).symm.trans hOn
    unfold Site.polled at hGone
    split at hGone
    · obtain ⟨q, hq, -⟩ := Option.map_eq_some_iff.mp hGone
      rw [show (m.site x).request = none from hr] at hq
      cases hq
    · rw [show (m.site x).request = none from hr] at hGone
      cases hGone
  | some r =>
    obtain ⟨hMem, rfl⟩ := requestOn?_eq_some hr
    obtain ⟨d, hd⟩ := h.toFits.exists_device hMem
    cases hDue : (r.checkTimeout moment).2.2 with
    | true =>
      have hGone := (congrArg Site.request (h.site_due hMem hDue hd)).symm.trans hOn
      cases hGone
    | false =>
      have hSite : (m.timedOut moment).site r.device = _ := h.site_other fun q hq => by
        rw [hr] at hq
        cases hq
        exact hDue
      have hKept : ((m.site r.device).polled moment).request = some r' :=
        (congrArg Site.request hSite).symm.trans hOn
      unfold Site.polled at hKept
      rw [show (m.site r.device).device = some d from hd] at hKept
      obtain ⟨q, hq, rfl⟩ := Option.map_eq_some_iff.mp hKept
      rw [show (m.site r.device).request = some r from hr] at hq
      cases hq
      exact ⟨r, hMem, rfl, rfl, hDue⟩

/-- Once deadlines have passed nothing is late any more. -/
theorem Settled.ahead_timedOut (h : m.Settled A) (hConcluded : m.AllConcluded)
    (hTimeout : ∀ t, m.activationTimeout = some t → 0 < t)
    (hPatient : ∀ d ∈ m.devices, d.hardware.Patient) : (m.timedOut m.now).Ahead := by
  have hTerms := m.terms_timedOut m.now
  have hNow : (m.timedOut m.now).now = m.now := congrArg Terms.now hTerms
  refine ⟨?_, fun d hd => ?_, fun r' hr' t ht => ?_⟩
  · rw [show (m.timedOut m.now).activationTimeout = m.activationTimeout from
      congrArg Terms.activationTimeout hTerms]
    exact hTimeout
  · -- every device was asked last, and links take time
    have hThere := (h.coherent_timedOut m.now).1.linked.device?_of_mem hd
    have hSite := congrArg Site.device (h.site_timedOut m.now d.id)
    rw [hNow]
    unfold Site.polled at hSite
    split at hSite
    · rename_i e he
      have hEq : some d = some (e.pollDeadline m.now).device := hThere.symm.trans hSite
      cases hEq
      refine Device.ahead_pollDeadline ?_
      generalize hx : (e.pollDeadline m.now).device.id = x at he
      have hOld : ∀ e, m.device? x = some e → e.hardware.Patient := fun e he =>
        hPatient e (device?_eq_some he).1
      rw [h.site_lapsed] at he
      split at he
      · unfold Site.lapsed at he
        split at he
        · rename_i r₀ d₀ hr₀ hd₀
          cases he
          exact Device.patient_failAuth (d := Site.leftAlone d₀) (hOld d₀ hd₀)
        · exact hOld e he
      · exact hOld e he
    · rename_i hNone
      rw [hNone] at hSite
      have hGone : some d = none := hThere.symm.trans hSite
      cases hGone
  · -- a request that is late was due, and has gone
    obtain ⟨r, hr, -, hDeadline, hOpen⟩ := h.requests_timedOut hr'
    rw [hNow]
    by_contra hLate
    have hDue := (hConcluded _ _ (h.linked.requestOn?_of_mem hr)).checkTimeout_iff.mpr
      ⟨t, hDeadline ▸ ht, Nat.le_of_not_lt hLate⟩
    rw [hOpen] at hDue
    cases hDue

/-- Everyone who waits for a request whose time is up hears so. -/
theorem answers_timedOut (m : Manager) (moment : Nat) :
    ∃ done, (m.timedOut moment).effects = m.effects ++ done ∧
      ∀ r ∈ m.requests, (r.checkTimeout moment).2.2 = true → ∀ w ∈ r.waiters,
        .answerWaiter w (.failed .timeoutExpired) ∈ done := by
  have hAsked : ∀ (rs : List Request) (m : Manager), (rs.foldl (fun m r =>
      (m.setRequest (r.checkTimeout moment).1).perform (r.checkTimeout moment).2.1) m).effects =
        m.effects ++ rs.flatMap fun r => (r.checkTimeout moment).2.1 := by
    intro rs
    induction rs with
    | nil => exact fun m => (List.append_nil _).symm
    | cons r rs ih =>
      intro m
      rw [List.foldl_cons, ih, List.flatMap_cons, ← List.append_assoc]
      rfl
  -- the answers go out when the requests are asked, and nothing is taken back later
  have hStart : Elapses (m.asked moment) (m.asked moment) :=
    ⟨(Retains.refl _).toSustains.proceeds, fun _ => .refl _⟩
  have hLapsed : Elapses (m.asked moment) (m.lapsed moment) :=
    foldl_rest (P := fun _ m' => Elapses (m.asked moment) m') (fun id _ _ hm' => hm'.expireRequest id)
      _ _ hStart
  have hPolled : Elapses (m.asked moment) (m.timedOut moment) :=
    hLapsed.retains (.foldl _ (fun m (d : Device) => retains_updateDevice m d.id _) _)
  obtain ⟨more, hMore⟩ := hPolled.1.effects
  refine ⟨(m.requests.flatMap fun r => (r.checkTimeout moment).2.1) ++ more, ?_, ?_⟩
  · rw [← hMore, ← List.append_assoc]
    exact congrArg (· ++ more) (hAsked m.requests m)
  · intro r hr hDue w hw
    exact List.mem_append_left _ (List.mem_flatMap.mpr ⟨r, hr, Request.checkTimeout_answers hDue hw⟩)

-- ---------------------------------------------------------------------------
-- A device that is down
-- ---------------------------------------------------------------------------

/-- A device that is down stays down while the queues are worked off. -/
theorem idle_next (h : Passage A Feat.Handling m m') (hFits : m.Fits A)
    (hIdle : ∀ d, m.device? x = some d → d.state.isActive = false) :
    ∀ d, m'.device? x = some d → d.state.isActive = false := by
  intro d' hd'
  obtain ⟨news, -, hFate⟩ := h.fate hFits x
  cases hFate with
  | stays hSite => exact hIdle d' ((congrArg Site.device hSite).symm.trans hd')
  | turns hEpisode =>
    have hThere : (m'.site x).device = some d' := hd'
    generalize m'.site x = s' at hEpisode hThere
    -- a request that goes takes only its subscription off the device
    have hForgotten : ∀ s : Site, s.device = (m.site x).device → s.forget.device = some d' →
        d'.state.isActive = false := by
      intro s hSame hGone
      obtain ⟨d, hd, rfl⟩ := Option.map_eq_some_iff.mp hGone
      exact hIdle d (hSame.symm.trans hd)
    cases hEpisode with
    | @flag d hd due =>
      cases hThere
      exact hIdle d hd
    | @hears d f hd hf =>
      cases hThere
      have hDown := hIdle d hd
      cases hf with
      | halts hK => exact hK.elim
      | drives hK => exact hK.elim
      | abandons =>
        rw [Device.failAuth_unchanged fun hNeed => by rw [hNeed] at hDown; cases hDown]
        exact hDown
      | recovers _ reason =>
        refine Bool.eq_false_iff.mpr fun hUp => ?_
        rw [Device.active_of_moveTo_disconnected hUp] at hDown
        cases hDown
      | rouses hK => exact hK.elim
    | look => exact hIdle d' hThere
    | revise => exact hIdle d' hThere
    | refuse hK => exact hK.elim
    | tell => exact hIdle d' hThere
    | leave => exact hForgotten _ rfl hThere
    | part => exact hForgotten _ rfl hThere
    | expire => exact hIdle d' hThere
    | adopt => exact hIdle d' hThere
    | wait => exact hIdle d' hThere
  | starts hK => exact hK.elim
  | comes hNew hUnused hSite =>
    have hCame := (congrArg Site.device hSite).symm.trans hd'
    cases hCame
    show DeviceState.isActive _ = false
    rw [show (m.newcomer _).state = _ from hUnused.state]
    rfl
  | goes _ hGone =>
    rw [hGone] at hd'
    cases hd'

/-- Nothing is left of an activation whose device is down once the queues are worked off. -/
theorem Coherent.freed (h : m.Coherent A) (hIdle : ∀ d, m.device? x = some d → d.state.isActive = false) :
    m.pump.requestOn? x = none ∧ m.pump.orphan? x = none := by
  have hPassages := h.passages_pump (K := Feat.Handling)
    (fun _ => ⟨fun _ => trivial, fun _ _ => .inl trivial⟩) trivial
  have hDown := (passages_preserve (P := fun m' => ∀ d, m'.device? x = some d → d.state.isActive = false)
    (fun hPassage hFits hm' => idle_next hPassage hFits hm') hPassages h.toFits hIdle).2
  obtain ⟨hPumped, hQuiet⟩ := h.pump
  cases hd : m.pump.device? x with
  | none => exact (hPumped.toFits.sites x).absent hd
  | some d => exact hPumped.free hd (hDown d hd) (queueOf_nil hQuiet.queue x)

/-- What owns the activation of a device that was down before the manager settled has started
since. -/
theorem Coherent.replaced (h : m.Coherent A) (hIdle : ∀ d, m.device? x = some d → d.state.isActive = false) :
    m.settle.orphan? x = none ∧ ∀ q, m.settle.requestOn? x = some q → m.nextRequest ≤ q.id := by
  obtain ⟨hRequest, hOrphan⟩ := h.freed hIdle
  have hPump : Retains nothing m m.pump := retains_pump m
  have hSettle : Retains (fun _ _ => True) m.pump m.settle := m.admits_all.settle_pump
  refine ⟨?_, fun q hq => ?_⟩
  · cases ho : m.settle.orphan? x with
    | none => rfl
    | some o =>
      rw [hSettle.orphans x o ho] at hOrphan
      cases hOrphan
  · obtain ⟨hMem, rfl⟩ := requestOn?_eq_some hq
    cases hSettle.requests q hMem with
    | @kept r hr hGoes =>
      have hOn := (h.pump.1).linked.requestOn?_of_mem hr
      rw [← hGoes.device, hRequest] at hOn
      cases hOn
    | new hNumber => exact Nat.le_trans hPump.nextRequest hNumber

-- ---------------------------------------------------------------------------
-- Once the manager has settled
-- ---------------------------------------------------------------------------

/-- What is left after all deadlines of the moment have passed. -/
structure Expiry (m m' : Manager) : Prop where
  next : ∀ t, m'.nextDeadline? = some t → m'.now < t
  now : m'.now = m.now
  /-- A request whose time is up is gone, and everyone who waits for it hears why. -/
  gone : ∀ r ∈ m.requests, r.IsDue m.now → ∀ q ∈ m'.requests, q.id ≠ r.id
  answered : ∃ done, m'.effects = m.effects ++ done ∧ ∀ r ∈ m.requests, r.IsDue m.now →
    ∀ w ∈ r.waiters, .answerWaiter w (.failed .timeoutExpired) ∈ done
  /-- Any other request stays as it is, unless its device has waited too long. -/
  spared : ∀ r ∈ m.requests, ¬ r.IsDue m.now →
    (∀ d, m.device? r.device = some d → ¬ d.IsDue m.now) → r ∈ m'.requests
  /-- The device of a request whose time is up goes on with nobody else to listen. -/
  left : ∀ r ∈ m.requests, r.IsDue m.now → ∀ d, m.device? r.device = some d →
    d.state ≠ .needAuth → ¬ d.IsDue m.now → m'.device? r.device = some (Site.leftAlone d)
  /-- If it waits for secrets, or has waited too long, nothing of its activation is left. -/
  broken : ∀ r ∈ m.requests, r.IsDue m.now → ∀ d, m.device? r.device = some d →
    d.state = .needAuth ∨ d.IsDue m.now → m'.orphan? r.device = none ∧
      (∀ q, m'.requestOn? r.device = some q → m.nextRequest ≤ q.id) ∧
      ∀ e, m'.device? r.device = some e → e.state.isActive = true →
        ∃ q, m'.requestOn? r.device = some q ∧ m.nextRequest ≤ q.id

/-- A device that waits for secrets, or has waited too long for its link, is down once the request on
it has gone. -/
theorem Settled.down_timedOut (h : m.Settled A) {r : Request} (hr : r ∈ m.requests)
    (hDue : (r.checkTimeout moment).2.2 = true) {d : Device} (hd : m.device? r.device = some d)
    (hBroken : d.state = .needAuth ∨ d.IsDue moment) :
    ∀ e, (m.timedOut moment).device? r.device = some e → e.state.isActive = false := by
  intro e he
  have hSite := (congrArg Site.device (h.site_due hr hDue hd)).symm.trans he
  have hSound := (h.toFits.sound hd).device
  have hLeft := Site.allListen_leftAlone d
  have hLeftSound := Site.sound_leftAlone hSound
  have hPolled : some ((Site.leftAlone d).failAuth.device.pollDeadline moment).device = some e := hSite
  cases hPolled
  have hFailed : ((Site.leftAlone d).failAuth.device.pollDeadline moment).device.state = .failed := by
    rcases hBroken with hNeed | hLate
    · -- it fails at once for want of secrets, and then waits for no link any more
      have hMoves := Device.failAuth_carries hLeft hLeftSound
      have hState : (Site.leftAlone d).failAuth.device.state = .failed := by
        rw [Device.failAuth_eq hLeft hNeed]
        rfl
      rw [Device.pollDeadline_early (Device.not_isDue_of_state hMoves.sound (by rw [hState]; nofun))]
      exact hState
    · -- it waits for its link, so for no secrets, and fails when it is asked
      have hState := hLate.config hSound
      rw [Device.failAuth_unchanged (d := Site.leftAlone d) (by
        show d.state ≠ .needAuth
        rw [hState]
        nofun)]
      exact Device.pollDeadline_late (d := Site.leftAlone d) hLate hLeftSound
  rw [hFailed]
  rfl

/-- A request whose time is up is gone for good. -/
theorem Settled.gone_processTimeoutsAt (h : m.Settled A) {r : Request} (hr : r ∈ m.requests)
    (hDue : (r.checkTimeout moment).2.2 = true) :
    ∀ q ∈ (m.processTimeoutsAt moment).requests, q.id ≠ r.id := by
  intro q hq hId
  have hRetains : Retains (fun _ _ => True) (m.timedOut moment) (m.processTimeoutsAt moment) :=
    (m.timedOut moment).admits_all.settle
  -- a request with its number is either one that was left, or newer than any that was there
  cases hRetains.requests q hq with
  | @kept q₀ hq₀ hGoes =>
    obtain ⟨q₁, hq₁, hId₁, -, hOpen⟩ := h.requests_timedOut hq₀
    rw [h.linked.eq_of_id hq₁ hr (hId₁.symm.trans (hGoes.id.symm.trans hId)), hDue] at hOpen
    cases hOpen
  | new hNew =>
    rw [(h.coherent_timedOut moment).2, hId] at hNew
    exact absurd (h.linked.requestBound r hr) (Nat.not_lt.mpr hNew)

/-- What was not told anything is spared when the manager settles. -/
theorem Settled.spares_timedOut (h : m.Settled A)
    (hQueue : (m.timedOut moment).queueOf x = m.queueOf x) :
    Spares x (m.timedOut moment) (m.processTimeoutsAt moment) := by
  refine (h.coherent_timedOut moment).1.spares_settle (hQueue.trans (queueOf_nil h.queue x)) ?_
  rw [(m.decides_timedOut moment).2, h.pending]
  exact List.not_mem_nil

theorem Settled.spared_processTimeoutsAt (h : m.Settled A) {r : Request} (hr : r ∈ m.requests)
    (hOpen : (r.checkTimeout moment).2.2 = false)
    (hEarly : ∀ d, m.device? r.device = some d → ¬ d.IsDue moment) :
    r ∈ (m.processTimeoutsAt moment).requests := by
  have hOn := h.linked.requestOn?_of_mem hr
  have hSite : (m.timedOut moment).site r.device = m.site r.device := by
    rw [h.site_other fun q hq => ?_]
    · exact Site.polled_early hEarly
    · cases hOn.symm.trans hq
      exact hOpen
  have hThere : (m.timedOut moment).requestOn? r.device = some r := (congrArg Site.request hSite).trans hOn
  have hStill := (h.spares_timedOut (congrArg Site.queue hSite)).request fun q hq => by
    cases hThere.symm.trans hq
    exact h.looked r hr
  exact (requestOn?_eq_some (hStill.trans hThere)).1

theorem Settled.left_processTimeoutsAt (h : m.Settled A) {r : Request} (hr : r ∈ m.requests)
    (hDue : (r.checkTimeout moment).2.2 = true) {d : Device} (hd : m.device? r.device = some d)
    (hNeed : d.state ≠ .needAuth) (hEarly : ¬ d.IsDue moment) :
    (m.processTimeoutsAt moment).device? r.device = some (Site.leftAlone d) := by
  have hSite := h.site_left hr hDue hd hNeed hEarly
  refine (h.spares_timedOut (congrArg Site.queue hSite)).device.trans ?_
  exact (congrArg Site.device hSite).trans (congrArg (Option.map Site.leftAlone) hd)

theorem Settled.broken_processTimeoutsAt (h : m.Settled A) {r : Request} (hr : r ∈ m.requests)
    (hDue : (r.checkTimeout moment).2.2 = true) {d : Device} (hd : m.device? r.device = some d)
    (hBroken : d.state = .needAuth ∨ d.IsDue moment) :
    (m.processTimeoutsAt moment).orphan? r.device = none ∧
      (∀ q, (m.processTimeoutsAt moment).requestOn? r.device = some q → m.nextRequest ≤ q.id) ∧
      ∀ e, (m.processTimeoutsAt moment).device? r.device = some e → e.state.isActive = true →
        ∃ q, (m.processTimeoutsAt moment).requestOn? r.device = some q ∧ m.nextRequest ≤ q.id := by
  obtain ⟨hCoherent, hNumber⟩ := h.coherent_timedOut moment
  obtain ⟨hOrphan, hNew⟩ := hCoherent.replaced (h.down_timedOut hr hDue hd hBroken)
  rw [hNumber] at hNew
  refine ⟨hOrphan, hNew, fun e he hActive => ?_⟩
  have hOwned := ((hCoherent.settle.toCoherent.held he).owned hActive).mpr hOrphan
  obtain ⟨q, hq⟩ := Option.isSome_iff_exists.mp hOwned
  exact ⟨q, hq, hNew q hq⟩

theorem answered_processTimeoutsAt (m : Manager) (moment : Nat) :
    ∃ done, (m.processTimeoutsAt moment).effects = m.effects ++ done ∧
      ∀ r ∈ m.requests, (r.checkTimeout moment).2.2 = true → ∀ w ∈ r.waiters,
        .answerWaiter w (.failed .timeoutExpired) ∈ done := by
  have hRetains : Retains (fun _ _ => True) (m.timedOut moment) (m.processTimeoutsAt moment) :=
    (m.timedOut moment).admits_all.settle
  obtain ⟨done, hEffects, hAnswers⟩ := m.answers_timedOut moment
  obtain ⟨more, hMore⟩ := hRetains.effects
  refine ⟨done ++ more, ?_, fun r hr hDue w hw => List.mem_append_left _ (hAnswers r hr hDue w hw)⟩
  rw [← hMore, hEffects, List.append_assoc]

theorem Settled.expiry (h : m.Settled A) (hConcluded : m.AllConcluded)
    (hTimeout : m.activationTimeout ≠ some 0) (hPatient : ∀ d ∈ m.devices, d.hardware.Patient) :
    Expiry m m.processTimeouts := by
  have hPositive : ∀ t, m.activationTimeout = some t → 0 < t := by
    intro t ht
    refine Nat.pos_of_ne_zero ?_
    rintro rfl
    exact hTimeout ht
  have hExpired : ∀ r ∈ m.requests, (r.checkTimeout m.now).2.2 = true ↔ r.IsDue m.now := by
    intro r hr
    exact (hConcluded _ _ (h.linked.requestOn?_of_mem hr)).checkTimeout_iff
  obtain ⟨done, hEffects, hAnswers⟩ := answered_processTimeoutsAt m m.now
  exact
    { next := fun t ht => (h.ahead_timedOut hConcluded hPositive hPatient).settle.nextDeadline ht
      now := congrArg Terms.now (m.terms_processTimeoutsAt m.now)
      gone := fun r hr hDue => h.gone_processTimeoutsAt hr ((hExpired r hr).mpr hDue)
      answered := ⟨done, hEffects, fun r hr hDue => hAnswers r hr ((hExpired r hr).mpr hDue)⟩
      spared := fun r hr hOpen =>
        h.spared_processTimeoutsAt hr (Bool.eq_false_iff.mpr fun hDue => hOpen ((hExpired r hr).mp hDue))
      left := fun r hr hDue _ => h.left_processTimeoutsAt hr ((hExpired r hr).mpr hDue)
      broken := fun r hr hDue _ => h.broken_processTimeoutsAt hr ((hExpired r hr).mpr hDue) }

-- ---------------------------------------------------------------------------
-- Runs
-- ---------------------------------------------------------------------------

/-- No deadline is before the next one. -/
theorem lt_deadline (hNext : ∀ t, m.nextDeadline? = some t → moment < t) {t : Nat}
    (ht : t ∈ m.requests.filterMap Request.deadline ++ m.devices.filterMap Device.deadline?) :
    moment < t := by
  obtain ⟨first, hFirst⟩ := Option.isSome_iff_exists.mp (List.isSome_min?_of_mem ht)
  exact Nat.lt_of_lt_of_le (hNext first hFirst) ((List.min?_eq_some_iff.mp hFirst).2 t ht)

/-- After every run, if what starts is given some time: before the next deadline nothing happens,
except that after a shutdown the state of the whole may still have to be computed. Once deadlines
have passed, those of the moment are over, and the next one is still to come. -/
theorem run_expiry (store : StateStore) (allowed : List Nat) (timeout : Option Nat) (epoch : Nat)
    (operations : List Operation) :
    let m := (start store allowed timeout epoch).run operations
    m.activationTimeout ≠ some 0 → (∀ d ∈ m.devices, d.hardware.Patient) →
      (∀ moment, (∀ t, m.nextDeadline? = some t → moment < t) →
        m.processTimeoutsAt moment = m.updateState ∧
          (m.updateState = m ∨ (start store allowed timeout epoch).Stale operations)) ∧
      Expiry m m.processTimeouts := by
  intro m hTimeout hPatient
  have hRested : m.Rested fun _ _ => True :=
    run_rested (start_rested store allowed timeout epoch) operations
  have hSettled := hRested.toSettled
  have hConcluded : m.AllConcluded := run_concluded store allowed timeout epoch operations
  have hSettle : m.settle = m.updateState :=
    settle_idle hSettled.toQuiet hSettled.pending
  refine ⟨fun moment hNext => ⟨?_, ?_⟩, hSettled.expiry hConcluded hTimeout hPatient⟩
  · -- before the next deadline nobody is due, so there is nothing to settle but the state of the whole
    rw [processTimeoutsAt_eq, hSettled.timedOut_eq (fun r hr => ?_) (fun d hd hDue => ?_), hSettle]
    · refine Bool.eq_false_iff.mpr fun hExpired => ?_
      obtain ⟨t, ht, hLate⟩ :=
        (hConcluded _ _ (hSettled.linked.requestOn?_of_mem hr)).checkTimeout_iff.mp hExpired
      have hAhead := lt_deadline hNext
        (List.mem_append_left _ (List.mem_filterMap.mpr ⟨r, hr, ht⟩))
      omega
    · obtain ⟨t, ht, hLate⟩ := hDue
      have hAhead := lt_deadline hNext
        (List.mem_append_right _ (List.mem_filterMap.mpr ⟨d, hd, ht⟩))
      omega
  · refine (run_quiescent store allowed timeout epoch operations).2.imp_left fun hShown => ?_
    exact hSettle.symm.trans hShown.2

instance : DecidablePred Hardware.Patient
  | .bluetooth radio => inferInstanceAs (Decidable (0 < radio.connectTimeout))
  | .hidraw _ => inferInstanceAs (Decidable True)
  | .serial _ => inferInstanceAs (Decidable True)

/-- The time for the activation of a scanner is up before its link is. -/
theorem run_expiry_dialUp :
    let m := (start DialUp.store [] (some 1000) 0).run (DialUp.connecting ++ [.setClock 1000])
    m.activationTimeout ≠ some 0 ∧ (∀ d ∈ m.devices, d.hardware.Patient) ∧
      m.requests.map Request.deadline = [some 1000] ∧ m.nextDeadline? = some 1000 ∧
      m.processTimeouts.requests = [] ∧ m.processTimeouts.nextDeadline? = some 30000 ∧
      Expiry m m.processTimeouts :=
  have hTimeout : ((start DialUp.store [] (some 1000) 0).run
      (DialUp.connecting ++ [.setClock 1000])).activationTimeout ≠ some 0 := by decide +kernel
  have hPatient : ∀ d ∈ ((start DialUp.store [] (some 1000) 0).run
      (DialUp.connecting ++ [.setClock 1000])).devices, d.hardware.Patient := by decide +kernel
  ⟨hTimeout, hPatient, by decide +kernel, by decide +kernel, by decide +kernel, by decide +kernel,
   (run_expiry _ _ _ _ _ hTimeout hPatient).2⟩

/-- A manager that was shut down while a scanner was dialing has no deadline, and calls itself
connecting. Not until time passes does it see that it is disconnected, and say so. -/
theorem not_unchanged_after_shutdown :
    ¬ ∀ (store : StateStore) (allowed : List Nat) (timeout : Option Nat) (epoch : Nat)
      (operations : List Operation) (moment : Nat),
      let m := (start store allowed timeout epoch).run operations
      m.activationTimeout ≠ some 0 → (∀ d ∈ m.devices, d.hardware.Patient) →
        (∀ t, m.nextDeadline? = some t → moment < t) →
          m.processTimeoutsAt moment = m ∧ (m.processTimeoutsAt moment).events = m.events := by
  intro h
  have hNone : ((start DialUp.store [] none 0).run
      (DialUp.connecting ++ [.shutdown])).nextDeadline? = none := by decide +kernel
  have hSame := (h DialUp.store [] none 0 (DialUp.connecting ++ [.shutdown]) 0 (by decide +kernel)
    (by decide +kernel) fun t ht => by
      rw [hNone] at ht
      cases ht).1
  exact absurd (congrArg Manager.state hSame) (by decide +kernel)

end Manager

end ScannerHub
