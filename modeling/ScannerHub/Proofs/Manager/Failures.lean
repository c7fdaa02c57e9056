import ScannerHub.Proofs.Manager.Fates

/-!
# Failures

A device fails only while its activation is driven on, and only if it is active. Then the activation
has an owner: a request, or the note that is left of one. What was told before is that the activation
went on, so the owner is still there when the failure is told, and it is the one from before the
operation. That is why a failure always leaves its mark, whoever it is told of.

* `Request.origin`, `Orphan.origin` — who started an activation;
* `Site.Owns`, `Site.Descends` — whom a failure that waits to be told is one of;
* `Feat.Early` — what is done before anything starts;
* `Manager.Barred` — a connection that nothing starts with by itself.

## Results

* `Episode.owns`, `Episode.descends` — what becomes of a device before a failure is told;
* `Passages.hale` — nothing fails that is not driven on;
* `Informed.operate_failed` — what a failure leaves behind.
-/

namespace ScannerHub

/-- Who started an activation: whether a user did, and with which connection. -/
def Request.origin (r : Request) : Bool × String := (r.userRequested, r.connection.uuid)

def Orphan.origin (o : Orphan) : Bool × String := (o.userRequested, o.connection.uuid)

theorem Request.Keeps.origin {r r' : Request} (h : r.Keeps r') (hNamed : r.Named) :
    r'.origin = r.origin :=
  Prod.ext h.goes.userRequested (h.named hNamed).2

/-- What is done before anything starts. -/
def Feat.Early (n : Nat) : Feat → Prop
  | .tells | .drives | .abandons | .leaves _ | .parts _ _ => True
  | .expires number => number < n
  | _ => False

/-- No order to stop fails a device. -/
theorem not_failed_of_halts {events : List DeviceEvent} (h : ∀ e ∈ events, e.halts = true) :
    .failed ∉ entered events := by
  intro hIn
  obtain ⟨e, he, hEntered⟩ := mem_entered_iff.mp hIn
  have hHalts := h e he
  cases e with
  | stateChanged id new old reason =>
    cases hEntered
    cases hHalts
  | needSecrets id need => cases hEntered
  | linkRequested id request => cases hEntered

/-- A device that lets its request go is down. -/
theorem DeviceEvent.entered_of_parts {e : DeviceEvent} {reason : StateReason}
    (h : e.parts? = some reason) : ∃ t, e.entered? = some t ∧ t.isActive = false := by
  cases e with
  | stateChanged id new old reason' =>
    refine ⟨new, rfl, ?_⟩
    change (if new.isEnd then some reason' else none) = some reason at h
    split at h
    · rename_i hEnd
      clear h
      revert hEnd
      cases new <;> decide
    · cases h
  | needSecrets id need => cases h
  | linkRequested id request => cases h

namespace Site

variable {A : Nat → String → Prop} {K : Feat → Prop} {s s' : Site} {d : Device} {n : Nat}
variable {news : List ManagerEvent} {effects : List Effect} {origin : Option (Bool × String)}

-- ---------------------------------------------------------------------------
-- Owners
-- ---------------------------------------------------------------------------

/-- The activation on a device has an owner. -/
def Owned (s : Site) : Prop := s.request.isSome = true ∨ s.orphan.isSome = true

/-- An activation that goes on has an owner, and so has one that failed, for as long as that waits to
be told. -/
structure Owns (s : Site) : Prop where
  active : ∀ d, s.device = some d → d.state.isActive = true → s.Owned
  failed : .failed ∈ entered s.queue → s.Owned
  last : (entered s.queue).Pairwise fun a b => a.isActive = true ∨ b ≠ .failed

theorem Owns.hears (h : s.Owns) (hd : s.device = some d)
    (hTrail : d.state.isActive = true → ∀ t ∈ entered s.queue, t.isActive = true) {u : Update}
    (hFailed : .failed ∈ entered u.events → d.state.isActive = true)
    (hActive : u.device.state.isActive = true → d.state.isActive = true)
    (hLast : (entered u.events).Pairwise fun a b => a.isActive = true ∨ b ≠ .failed) :
    (s.hears u).Owns := by
  have hOwned : s.Owned → (s.hears u).Owned := Or.imp_left fun hSome => by
    show (s.request.map _).isSome = true
    rw [Option.isSome_map]
    exact hSome
  have hQueue : entered (s.hears u).queue = entered s.queue ++ entered u.events := entered_append _ _
  refine ⟨fun e he hGoesOn => ?_, fun hIn => hOwned ?_, ?_⟩
  · cases he
    exact hOwned (h.active d hd (hActive hGoesOn))
  · rw [hQueue] at hIn
    exact (List.mem_append.mp hIn).elim h.failed fun hNew => h.active d hd (hFailed hNew)
  · rw [hQueue, List.pairwise_append]
    refine ⟨h.last, hLast, fun a ha b hb => ?_⟩
    by_cases hEq : b = .failed
    · exact .inl (hTrail (hFailed (hEq ▸ hb)) a ha)
    · exact .inr hEq

/-- An activation that is driven on has an owner. -/
theorem Owns.drives (h : s.Owns) (hd : s.device = some d)
    (hTrail : d.state.isActive = true → ∀ t ∈ entered s.queue, t.isActive = true) {f : Device → Update}
    (hf : Device.Drives f) : (s.hears (f d)).Owns := by
  have hProceeds := hf.proceeds d
  refine h.hears hd hTrail (fun hFailed => ?_) (fun hGoesOn => ?_)
    (hProceeds.trail.failed_last (hf.tells d))
  · by_contra hIdle
    rw [hf.idle (Bool.not_eq_true _ ▸ hIdle)] at hFailed
    cases hFailed
  · by_contra hIdle
    have hSilent := hProceeds.trail
    rw [hf.idle (Bool.not_eq_true _ ▸ hIdle)] at hSilent
    exact hIdle ((show d.state = (f d).device.state from hSilent) ▸ hGoesOn)

/-- A failure has been told: whoever owned the activation may go. -/
theorem Owns.told (h : s.Owns) (hSound : ∀ d, s.device = some d → d.state.isActive = true →
    ∀ t ∈ entered s.queue, t.isActive = true) {e : DeviceEvent} {rest : List DeviceEvent}
    (hQueue : s.queue = e :: rest) {t : DeviceState} (ht : e.entered? = some t)
    (hDown : t.isActive = false) (hRest : s'.queue = rest)
    (hDevice : ∀ d', s'.device = some d' → ∃ d, s.device = some d ∧ d.state = d'.state) : s'.Owns := by
  have hEntered : entered s.queue = t :: entered rest := by
    rw [hQueue]
    exact List.filterMap_cons_some ht
  have hLast := h.last
  rw [hEntered, List.pairwise_cons] at hLast
  refine ⟨fun d' hd' hGoesOn => ?_, fun hIn => ?_, hRest ▸ hLast.2⟩
  · obtain ⟨d, hd, hState⟩ := hDevice d' hd'
    have hUp := hSound d hd (hState ▸ hGoesOn) t (hEntered ▸ List.mem_cons_self)
    rw [hDown] at hUp
    cases hUp
  · rw [hRest] at hIn
    rcases hLast.1 _ hIn with hUp | hNe
    · rw [hDown] at hUp
      cases hUp
    · exact absurd rfl hNe

/-- Nothing waits, and nothing goes on. -/
theorem Owns.idle (hQueue : s.queue = []) (hIdle : ∀ d, s.device = some d → d.state.isActive = false) :
    s.Owns := by
  refine ⟨fun d hd hActive => ?_, fun hIn => ?_, ?_⟩
  · rw [hIdle d hd] at hActive
    cases hActive
  · rw [hQueue] at hIn
    cases hIn
  · rw [hQueue]
    exact .nil

/-- What waits for a request or its device is the same as before, and there is an owner. -/
theorem Owns.of_owned (h : s.Owns) (hOwned : s'.Owned) (hQueue : s'.queue = s.queue) : s'.Owns :=
  ⟨fun _ _ _ => hOwned, fun _ => hOwned, hQueue ▸ h.last⟩

/-- A device that recovers goes on with nothing, and does not fail again. -/
theorem Owns.recovers (h : s.Owns) (hd : s.device = some d)
    (hTrail : d.state.isActive = true → ∀ t ∈ entered s.queue, t.isActive = true) (reason : StateReason) :
    (s.hears (d.moveTo .disconnected reason)).Owns := by
  have hTells : Device.Tells DeviceEvent.halts (d.moveTo .disconnected reason) := .moveTo rfl
  have hNone := not_failed_of_halts hTells
  exact h.hears hd hTrail (fun hFailed => absurd hFailed hNone) Device.active_of_moveTo_disconnected
    (List.pairwise_of_forall_mem_list fun _ _ b hb => .inr fun hEq => hNone (hEq ▸ hb))

/-- An event is told, and whoever owned the activation still does. -/
theorem Owns.tells (h : s.Owns) {e : DeviceEvent} {rest : List DeviceEvent} (hQueue : s.queue = e :: rest) :
    ((s.tell e).adopt s.orphan).Owns := by
  have hEntered : entered s.queue = entered [e] ++ entered rest := by
    rw [hQueue, ← entered_append]
    rfl
  have hRest : entered ((s.tell e).adopt s.orphan).queue = entered rest := by
    show entered s.queue.tail = _
    rw [hQueue]
    rfl
  refine ⟨h.active, fun hIn => h.failed ?_, ?_⟩
  · rw [hEntered]
    exact List.mem_append_right _ (hRest ▸ hIn)
  · have hLast := h.last
    rw [hEntered, List.pairwise_append] at hLast
    exact hRest ▸ hLast.2.1

/-- What becomes of a device before anything starts leaves each activation that goes on with an owner,
and each one that failed. -/
theorem Episode.owns (h : s.Episode (Feat.Early n) s' news effects) (hFits : s.Fits A) (hOwns : s.Owns) :
    s'.Owns := by
  have hTrail : ∀ d, s.device = some d → d.state.isActive = true →
      ∀ t ∈ entered s.queue, t.isActive = true := fun d hd => (hFits.sound d hd).trail
  cases h with
  | @flag d hd due =>
    exact ⟨fun e he hGoesOn => by cases he; exact hOwns.active d hd hGoesOn, hOwns.failed, hOwns.last⟩
  | @hears d f hd hf =>
    cases hf with
    | halts hK => exact hK.elim
    | drives _ hf => exact hOwns.drives hd (hTrail d hd) hf
    | abandons => exact hOwns.drives hd (hTrail d hd) .failAuth
    | rouses hK => exact hK.elim
    | recovers _ reason => exact hOwns.recovers hd (hTrail d hd) reason
  | look hr => exact hOwns.of_owned (.inl rfl) rfl
  | revise hr => exact hOwns.of_owned (.inl rfl) rfl
  | @refuse d r r' hK hd hr hQueues hState hRevises =>
    have hKept : (s.withRequest (r'.finish (.failed (.activationFailed .noSecrets))).1).Owns :=
      hOwns.of_owned (.inl rfl) rfl
    exact hKept.drives hd (hTrail d hd) (.fail .noSecrets)
  | @tell e rest orphan hK hQueue hParts hOrphan =>
    rcases hOrphan with rfl | ⟨rfl, t, ht, hDown⟩
    · exact hOwns.tells hQueue
    · refine hOwns.told hTrail hQueue ht hDown ?_ fun d' hd' => ⟨d', hd', rfl⟩
      show s.queue.tail = rest
      rw [hQueue]
      rfl
  | @leave e rest reason hK hQueue hParts =>
    obtain ⟨t, ht, hDown⟩ := DeviceEvent.entered_of_parts hParts
    refine hOwns.told hTrail hQueue ht hDown ?_ fun d' hd' => ?_
    · show s.queue.tail = rest
      rw [hQueue]
      rfl
    · obtain ⟨d, hd, rfl⟩ := Option.map_eq_some_iff.mp hd'
      exact ⟨d, hd, rfl⟩
  | @part r reason hr hK hQueues hOwned =>
    -- nothing waits to be told any more, so the note on the activation is all that counts
    have hNil : entered s.forget.queue = [] := by
      show entered s.queue = []
      rw [hQueues.2]
      rfl
    refine ⟨fun d' hd' hGoesOn => ?_, fun hIn => ?_, ?_⟩
    · obtain ⟨d, hd, rfl⟩ := Option.map_eq_some_iff.mp hd'
      exact .inr ((hOwned.resolve_left id).2 d hd hGoesOn)
    · rw [hNil] at hIn
      cases hIn
    · rw [hNil]
      exact .nil
  | expire hr => exact hOwns.of_owned (.inl rfl) rfl
  | adopt hr => exact hOwns.of_owned (.inr rfl) rfl
  | wait hr => exact hOwns.of_owned (.inl rfl) rfl

-- ---------------------------------------------------------------------------
-- Origins
-- ---------------------------------------------------------------------------

/-- What goes on at a device is what went on there before, or it has a number that is new. -/
structure Descends (n : Nat) (origin : Option (Bool × String)) (s : Site) : Prop where
  request : ∀ r, s.request = some r → r.id < n → some r.origin = origin
  orphan : ∀ o, s.orphan = some o → some o.origin = origin

theorem Descends.same (h : s.Descends n origin) (hRequest : s'.request = s.request)
    (hOrphan : s'.orphan = s.orphan) : s'.Descends n origin :=
  ⟨fun r hr => h.request r (hRequest ▸ hr), fun o ho => h.orphan o (hOrphan ▸ ho)⟩

theorem Episode.descends (h : s.Episode K s' news effects) (hDescends : s.Descends n origin)
    (hNamed : ∀ r, s.request = some r → r.Named) (hExpires : ∀ number, K (.expires number) → number < n) :
    s'.Descends n origin := by
  refine ⟨fun r' hr' hOld => ?_, ?_⟩
  · obtain ⟨r, hr, hKeeps⟩ := h.kept hr'
    rw [hKeeps.origin (hNamed r hr)]
    exact hDescends.request r hr (hKeeps.goes.id ▸ hOld)
  · cases h with
    | @tell e rest orphan hK hQueue hParts hOrphan =>
      rcases hOrphan with rfl | ⟨rfl, -⟩
      · exact hDescends.orphan
      · exact nofun
    | leave => exact nofun
    | @adopt r hr hK =>
      intro o ho
      cases ho
      exact hDescends.request r hr (hExpires r.id hK)
    | flag | hears | look | revise | refuse | part | expire | wait => exact hDescends.orphan

/-- An activation that has an owner from before is one that is blamed, unless a user started it. -/
theorem Descends.blames (h : s.Descends n origin) (hOld : ∀ r, s.request = some r → r.id < n)
    (hOwned : s.Owned) : ∃ asked uuid, origin = some (asked, uuid) ∧ (asked = false → s.Blames uuid) := by
  rcases hOwned with hSome | hSome
  · obtain ⟨r, hr⟩ := Option.isSome_iff_exists.mp hSome
    exact ⟨_, _, (h.request r hr (hOld r hr)).symm, fun hAlone => .inl ⟨r, hr, hAlone, rfl⟩⟩
  · obtain ⟨o, ho⟩ := Option.isSome_iff_exists.mp hSome
    exact ⟨_, _, (h.orphan o ho).symm, fun hAlone => .inr ⟨o, ho, hAlone, rfl⟩⟩

-- ---------------------------------------------------------------------------
-- Devices that do not fail
-- ---------------------------------------------------------------------------

/-- A failure that is told of is one that waited. -/
theorem Episode.failed_of_news (h : s.Episode K s' news effects) {x : Nat} {old : DeviceState}
    {reason : StateReason} (hIn : .deviceStateChanged x .failed old reason ∈ news) :
    .failed ∈ entered s.queue := by
  have hTold : ∀ {e : DeviceEvent} {rest : List DeviceEvent}, s.queue = e :: rest →
      .deviceStateChanged x .failed old reason ∈ e.published → .failed ∈ entered s.queue := by
    intro e rest hQueue hPublished
    rw [hQueue, Manager.mem_published hPublished]
    exact List.mem_cons_self
  cases h with
  | look _ hNews => cases hNews _ hIn
  | tell _ hQueue => exact hTold hQueue hIn
  | leave _ hQueue =>
    exact (List.mem_append.mp hIn).elim (hTold hQueue) fun hGone => absurd hGone (Manager.not_mem_farewell s)
  | part => exact absurd hIn (Manager.not_mem_farewell s)
  | _ => cases hIn

/-- No device fails that is not driven on. -/
theorem Episode.hale (h : s.Episode K s' news effects) (hDrives : ¬ K .drives) (hAbandons : ¬ K .abandons)
    (hNone : .failed ∉ entered s.queue) : .failed ∉ entered s'.queue := by
  have hHalts : ∀ {d : Device} {f : Device → Update}, s.Heeds K f →
      Device.Tells DeviceEvent.halts (f d) := by
    intro d f hf
    cases hf with
    | halts _ hf => exact hf.tells d
    | drives hK => exact absurd hK hDrives
    | abandons hK => exact absurd hK hAbandons
    | recovers _ reason => exact .moveTo rfl
    | rouses => exact Device.setManaged_tells _ _ _
  have hTail : .failed ∉ entered s.queue.tail := fun hIn =>
    hNone (((List.tail_sublist s.queue).filterMap DeviceEvent.entered?).subset hIn)
  cases h with
  | hears hd hf =>
    intro hIn
    change _ ∈ entered (s.queue ++ _) at hIn
    rw [entered_append] at hIn
    exact (List.mem_append.mp hIn).elim hNone (not_failed_of_halts (hHalts hf))
  | refuse hK => exact absurd hK hDrives
  | tell => exact hTail
  | leave => exact hTail
  | flag | look | revise | part | expire | adopt | wait => exact hNone

end Site

namespace Manager

variable {A : Nat → String → Prop} {K : Feat → Prop} {m m' : Manager} {x n : Nat}
variable {told news : List ManagerEvent} {operation : Operation} {origin : Option (Bool × String)}

-- ---------------------------------------------------------------------------
-- What fails, and what does not
-- ---------------------------------------------------------------------------

/-- What is blamed stays so, unless it gets another chance. -/
theorem Passage.blamed (h : Passage A K m m') {uuid : String} (hPardons : ¬ K (.pardons uuid))
    (hForgives : ¬ K .forgives) (hIn : uuid ∈ m.invalid) : uuid ∈ m'.invalid := by
  cases h with
  | turn hTurns => exact hTurns.invalid hIn
  | quiet _ _ _ _ _ hInvalid => exact hInvalid ▸ hIn
  | @launch id number d spec => exact (decides_launch (m.undue id) number d spec).invalid ▸ hIn
  | come => exact hIn
  | go => exact hIn
  | close => exact hIn
  | @pardon uuid' hK =>
    refine List.mem_filter.mpr ⟨hIn, bne_iff_ne.mpr ?_⟩
    rintro rfl
    exact hPardons hK
  | forgive hK => exact absurd hK hForgives

/-- Nothing was told of a failure of a device, and no such event waits. -/
structure Hale (x : Nat) (m : Manager) (told : List ManagerEvent) : Prop where
  queue : .failed ∉ entered (m.queueOf x)
  told : ∀ old reason, .deviceStateChanged x .failed old reason ∉ told

theorem Hale.fate (h : Hale x m told) (hFate : Fate K m m' x news) (hDrives : ¬ K .drives)
    (hAbandons : ¬ K .abandons) : Hale x m' (told ++ news) := by
  have hTold : (∀ old reason, .deviceStateChanged x .failed old reason ∉ news) →
      ∀ old reason, .deviceStateChanged x .failed old reason ∉ told ++ news :=
    fun hNews old reason hIn => (List.mem_append.mp hIn).elim (h.told old reason) (hNews old reason)
  cases hFate with
  | stays hSite hSilent =>
    have hQueue : m'.queueOf x = m.queueOf x := congrArg Site.queue hSite
    exact ⟨hQueue ▸ h.queue, hTold fun _ _ => hSilent _ _ _⟩
  | turns hEpisode =>
    exact ⟨hEpisode.hale hDrives hAbandons h.queue,
      hTold fun _ _ hIn => h.queue (hEpisode.failed_of_news hIn)⟩
  | @starts d d' r u hK hd hState hFree hLaunch hSite hUser hAuto hNamed hNews =>
    refine ⟨fun hIn => ?_, hTold fun _ _ hIn => ?_⟩
    · have hQueue : m'.queueOf x = u.events := by
        refine (congrArg Site.queue hSite).trans ?_
        show m.queueOf x ++ u.events = u.events
        rw [hFree.2.2, List.nil_append]
      rw [hQueue] at hIn
      cases hLaunch.starts.active _ hIn
    · rw [hNews] at hIn
      simp at hIn
  | comes hNew hUnused hSite hQueue hNews =>
    have hSame : m'.queueOf x = m.queueOf x := congrArg Site.queue hSite
    refine ⟨hSame ▸ h.queue, hTold fun _ _ hIn => ?_⟩
    rw [hNews, List.mem_singleton] at hIn
    cases hIn
  | goes hNone hDevice hRequest hOrphan hQueue hSilent =>
    refine ⟨fun hIn => ?_, hTold fun _ _ => hSilent _ _ _⟩
    rw [hQueue] at hIn
    cases hIn

/-- Nothing fails that is not driven on. -/
theorem Passages.hale (h : Passages A K m m') (hFits : m.Fits A) (hDrives : ¬ K .drives)
    (hAbandons : ¬ K .abandons) (hQueue : m.queue = []) :
    ∃ news, m'.events = m.events ++ news ∧
      ∀ old reason, .deviceStateChanged x .failed old reason ∉ news := by
  have hStart : Hale x m [] := ⟨by rw [queueOf_nil hQueue]; exact List.not_mem_nil, nofun⟩
  obtain ⟨news, hEvents, hHale⟩ := Passages.follow (P := Hale x)
    (fun hPassage hFits hEvents h => h.fate (hPassage.fate_of hFits hEvents x) hDrives hAbandons) h hFits
    [] hStart
  exact ⟨news, hEvents, hHale.told⟩

/-- What goes on at a device is what went on there before, whatever becomes of it. -/
theorem Fate.descends (h : Fate K m m' x news) (hDescends : (m.site x).Descends n origin)
    (hNamed : ∀ r ∈ m.requests, r.Named) (hExpires : ∀ number, K (.expires number) → number < n)
    (hLaunches : ∀ number, K (.launches number) → n ≤ number) : (m'.site x).Descends n origin := by
  cases h with
  | stays hSite => exact hSite ▸ hDescends
  | turns hEpisode =>
    exact hEpisode.descends hDescends (fun r hr => hNamed r (requestOn?_eq_some hr).1) hExpires
  | @starts d d' r u hK hd hState hFree hLaunch hSite =>
    refine ⟨fun r' hr' hOld => ?_, fun o ho => ?_⟩
    · cases (congrArg Site.request hSite).symm.trans hr'
      exact absurd (hLaunches r.id hK) (Nat.not_le.mpr ((r.goes_hear u.events).id ▸ hOld))
    · have hNone : (m'.site x).orphan = none := (congrArg Site.orphan hSite).trans hFree.2.1
      exact nomatch hNone.symm.trans ho
  | comes hNew hUnused hSite =>
    exact hDescends.same ((congrArg Site.request hSite).trans rfl) ((congrArg Site.orphan hSite).trans rfl)
  | goes hNone hDevice hRequest hOrphan =>
    exact ⟨fun r hr => (nomatch hRequest.symm.trans hr), fun o ho => (nomatch hOrphan.symm.trans ho)⟩

theorem Passages.descends (h : Passages A K m m') (hFits : m.Fits A) (hNamed : ∀ r ∈ m.requests, r.Named)
    (hExpires : ∀ number, K (.expires number) → number < n)
    (hLaunches : ∀ number, K (.launches number) → n ≤ number)
    (hDescends : (m.site x).Descends n origin) : (m'.site x).Descends n origin := by
  refine (passages_preserve (P := fun m => (∀ r ∈ m.requests, r.Named) ∧ (m.site x).Descends n origin)
    (fun hPassage hFits h => ?_) h hFits ⟨hNamed, hDescends⟩).2.2
  obtain ⟨news, -, hFate⟩ := hPassage.fate hFits x
  exact ⟨hPassage.named hFits h.1, hFate.descends h.2 h.1 hExpires hLaunches⟩

/-- Before anything starts: of whom failures are told, and what they leave behind. -/
structure Blaming (x n : Nat) (origin : Option (Bool × String)) (m : Manager)
    (told : List ManagerEvent) : Prop where
  owns : (m.site x).Owns
  descends : (m.site x).Descends n origin
  named : ∀ r ∈ m.requests, r.Named
  older : ∀ r ∈ m.requests, r.id < n
  marks : ∀ old reason, .deviceStateChanged x .failed old reason ∈ told →
    ∃ asked uuid, origin = some (asked, uuid) ∧ (asked = false → uuid ∈ m.invalid)

theorem Blaming.next (h : Blaming x n origin m told) (hPassage : Passage A (Feat.Early n) m m')
    (hFits : m.Fits A) (hEvents : m'.events = m.events ++ news) :
    Blaming x n origin m' (told ++ news) := by
  have hFate := hPassage.fate_of hFits hEvents x
  have hDescends : (m'.site x).Descends n origin :=
    hFate.descends h.descends h.named (fun _ hK => hK) fun _ hK => hK.elim
  have hOlder : ∀ r ∈ m'.requests, r.id < n := by
    intro r' hr'
    obtain ⟨r, hr, hKeeps⟩ | ⟨hK, -⟩ := hPassage.requests hFits r' hr'
    · exact hKeeps.goes.id ▸ h.older r hr
    · exact hK.elim
  -- what was marked stays so, and what is told now is marked with it
  have hMarks : (∀ old reason, .deviceStateChanged x .failed old reason ∈ news →
      ∃ asked uuid, origin = some (asked, uuid) ∧ (asked = false → uuid ∈ m'.invalid)) →
      ∀ old reason, .deviceStateChanged x .failed old reason ∈ told ++ news →
        ∃ asked uuid, origin = some (asked, uuid) ∧ (asked = false → uuid ∈ m'.invalid) := by
    intro hNow old reason hIn
    rcases List.mem_append.mp hIn with hTold | hNews
    · obtain ⟨asked, uuid, hOrigin, hMarked⟩ := h.marks old reason hTold
      exact ⟨asked, uuid, hOrigin, fun hAlone => hPassage.blamed id id (hMarked hAlone)⟩
    · exact hNow old reason hNews
  have hSilent : (∀ old reason, .deviceStateChanged x .failed old reason ∉ news) →
      ∀ old reason, .deviceStateChanged x .failed old reason ∈ told ++ news →
        ∃ asked uuid, origin = some (asked, uuid) ∧ (asked = false → uuid ∈ m'.invalid) :=
    fun hNone => hMarks fun old reason hIn => absurd hIn (hNone old reason)
  suffices h' : (m'.site x).Owns ∧ ∀ old reason, .deviceStateChanged x .failed old reason ∈ told ++ news →
      ∃ asked uuid, origin = some (asked, uuid) ∧ (asked = false → uuid ∈ m'.invalid) from
    ⟨h'.1, hDescends, hPassage.named hFits h.named, hOlder, h'.2⟩
  cases hFate with
  | stays hSite hNone => exact ⟨hSite ▸ h.owns, hSilent fun _ _ => hNone _ _ _⟩
  | turns hEpisode hBlames =>
    refine ⟨hEpisode.owns (hFits.sites x) h.owns, hMarks fun old reason hIn => ?_⟩
    obtain ⟨asked, uuid, hOrigin, hBlamed⟩ := h.descends.blames
      (fun r hr => h.older r (requestOn?_eq_some hr).1) (h.owns.failed (hEpisode.failed_of_news hIn))
    exact ⟨asked, uuid, hOrigin, fun hAlone => hBlames old reason uuid hIn (hBlamed hAlone)⟩
  | starts hK => exact hK.elim
  | @comes d hNew hUnused hSite hQueue hNews =>
    refine ⟨.idle ((congrArg Site.queue hSite).trans hQueue) fun e he => ?_, hSilent fun _ _ hIn => ?_⟩
    · cases (congrArg Site.device hSite).symm.trans he
      show d.state.isActive = false
      rw [hUnused.state]
      rfl
    · rw [hNews, List.mem_singleton] at hIn
      cases hIn
  | goes hNone hDevice hRequest hOrphan hQueue hUntold =>
    exact ⟨.idle hQueue fun e he => (nomatch hDevice.symm.trans he), hSilent fun _ _ => hUntold _ _ _⟩

/-- Nothing starts by itself with a connection that failed, among all that has a number that is new. -/
structure Barred (uuid : String) (n : Nat) (m : Manager) : Prop where
  invalid : uuid ∈ m.invalid
  named : ∀ r ∈ m.requests, r.Named
  spared : ∀ r ∈ m.requests, n ≤ r.id → r.userRequested = false → r.connection.uuid ≠ uuid

theorem Barred.next {uuid : String} (h : Barred uuid n m) (hPassage : Passage A K m m') (hFits : m.Fits A)
    (hPardons : ¬ K (.pardons uuid)) (hForgives : ¬ K .forgives) : Barred uuid n m' := by
  refine ⟨hPassage.blamed hPardons hForgives h.invalid, hPassage.named hFits h.named,
    fun r' hr' hNew hAlone => ?_⟩
  obtain ⟨r, hr, hKeeps⟩ | ⟨-, -, hFree, -⟩ := hPassage.requests hFits r' hr'
  · rw [(hKeeps.named (h.named r hr)).2]
    exact h.spared r hr (hKeeps.goes.id ▸ hNew) (hKeeps.goes.userRequested ▸ hAlone)
  · exact fun hEq => hFree hAlone (hEq ▸ h.invalid)

theorem Barred.passages {uuid : String} (h : Barred uuid n m) (hPassages : Passages A K m m')
    (hFits : m.Fits A) (hPardons : ¬ K (.pardons uuid)) (hForgives : ¬ K .forgives) : Barred uuid n m' :=
  (passages_preserve (P := Barred uuid n)
    (fun hPassage hFits h => h.next hPassage hFits hPardons hForgives) hPassages hFits h).2

/-- Nothing waits at a settled manager, and each activation has an owner. -/
theorem Settled.owns (h : m.Settled A) (x : Nat) : (m.site x).Owns := by
  have hNil : (m.site x).queue = [] := queueOf_nil h.queue x
  refine ⟨fun d hd hActive => ?_, fun hIn => ?_, ?_⟩
  · obtain ⟨hMem, rfl⟩ := device?_eq_some hd
    rw [h.ownsDevices.owned d hMem] at hActive
    change (m.requestOn? d.id).isSome = true ∨ (m.orphan? d.id).isSome = true
    cases hOn : (m.requestOn? d.id).isSome with
    | true => exact .inl rfl
    | false =>
      rw [hOn, Bool.false_xor] at hActive
      exact .inr hActive
  · rw [hNil] at hIn
    cases hIn
  · rw [hNil]
    exact .nil

/-- What a failure leaves behind. It comes in an operation that drives activations on, and the activation
that failed is the one from before. If no user started it, then its connection is marked once the
operation is over, and nothing has started with it by itself. -/
theorem Informed.operate_failed (h : m.Informed A) (hDescends : (m.site x).Descends m.nextRequest origin)
    {old : DeviceState} {reason : StateReason}
    (hFailed : .deviceStateChanged x .failed old reason ∈ m.report operation) :
    operation.drives = true ∧ ∃ asked uuid, origin = some (asked, uuid) ∧
      (asked = false → Barred uuid m.nextRequest (m.operate operation)) := by
  by_cases hDrives : operation.drives = true
  · refine ⟨hDrives, ?_⟩
    obtain ⟨m₁, m₂, hExpiring, -, hDriving, hQueue, hStarting⟩ := h.toSettled.operate_driven h.stamped hDrives
    have hEarly : Passages A (Feat.Early m.nextRequest) m m₂ := by
      refine (hExpiring.mono fun feat hFeat => ?_).trans (hDriving.mono fun feat hFeat => ?_)
      · cases feat with
        | expires number => exact Expires.bound hFeat h.toFits
        | parts | abandons => trivial
        | _ => exact hFeat.elim
      · cases feat with
        | tells | drives | abandons | leaves => trivial
        | _ => exact hFeat.elim
    obtain ⟨before, hBefore, hBlaming⟩ := Passages.follow (P := Blaming x m.nextRequest origin)
      (fun hPassage hFits hEvents h => h.next hPassage hFits hEvents) hEarly h.toFits []
      ⟨h.toSettled.owns x, hDescends, h.named, h.linked.requestBound, nofun⟩
    have hFits₂ := Passages.fits hEarly h.toFits
    obtain ⟨after, hAfter, hHale⟩ := Passages.hale (x := x) hStarting hFits₂ id id hQueue
    have hReport : m.report operation = before ++ after :=
      report_eq (by rw [hAfter, hBefore, List.append_assoc])
    rw [hReport, List.mem_append] at hFailed
    obtain ⟨asked, uuid, hOrigin, hMarked⟩ :=
      hBlaming.marks old reason (hFailed.resolve_right (hHale old reason))
    refine ⟨asked, uuid, hOrigin, fun hAlone => ?_⟩
    have hBarred : Barred uuid m.nextRequest m₂ := ⟨hMarked hAlone, hBlaming.named,
      fun r hr hNew => absurd (hBlaming.older r hr) (Nat.not_lt.mpr hNew)⟩
    exact hBarred.passages hStarting hFits₂ id id
  · obtain ⟨news, hEvents, hHale⟩ := Passages.hale (x := x) (h.passages operation) h.toFits
      (show ¬ operation.drives = true from hDrives) (show ¬ operation.drives = true from hDrives) h.queue
    rw [report_eq hEvents] at hFailed
    exact absurd hFailed (hHale old reason)

end Manager

end ScannerHub
