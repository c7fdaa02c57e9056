import ScannerHub.Proofs.Manager.Passages
import ScannerHub.Proofs.Manager.Standing

/-!
# What follows by itself

Once an operation has done what it was asked for, the manager settles: it works off the queues, and
starts whatever is due. That is done in passages, and there are two parts of it. In the first one
requests may end with the events of their devices. In the second one nothing ends: activations start,
and what is told of them calls for nothing more.

What has to be permitted for the first part can be read off the events that wait. Handling one never
makes others wait that would call for more.

* `Manager.Permits` — all that the events that wait lead to may be done;
* `Manager.Narrows` — one manager at two times, with nothing more to be told or looked at;
* `Feat.Starting` — what is done in the second part.

## Results

* `Fits.passages_handleEvent`, `Coherent.passages_pump` — the queues are worked off;
* `Coherent.passages_activate` — an activation;
* `Coherent.passages_settle` — the manager settles, in two parts.
-/

namespace ScannerHub

namespace Manager

variable {A : Nat → String → Prop} {K K' : Feat → Prop} {m m' m'' : Manager} {id : Nat}
variable {s s' : Site} {news news' : List ManagerEvent} {effects effects' : List Effect}

-- ---------------------------------------------------------------------------
-- What becomes of one site
-- ---------------------------------------------------------------------------

theorem Turns.of_acts (hActs : Acts A m m' id s) (hEvents : m'.events = m.events ++ news)
    (hEffects : m'.effects = m.effects ++ effects) (hDecides : Decides m m')
    (hNextDevice : m'.nextDevice = m.nextDevice) : Turns A m m' id s news effects where
  fits := hActs.fits
  site := hActs.site
  events := hEvents
  effects := hEffects
  invalid := by rw [hDecides.invalid]; exact List.Subset.refl _
  nextDevice := hNextDevice
  nextRequest := hActs.within.nextRequest
  stamped := stamped_of_eq hDecides.system hDecides.user

theorem Turns.here (h : Turns A m m' id s news effects) : m'.site id = s :=
  (h.site id).trans (if_pos rfl)

theorem Turns.trans (h : Turns A m m' id s news effects) (h' : Turns A m' m'' id s' news' effects') :
    Turns A m m'' id s' (news ++ news') (effects ++ effects') where
  fits := h'.fits
  site x := by
    rw [h'.site x, h.site x]
    split <;> rfl
  events := by rw [h'.events, h.events, List.append_assoc]
  effects := by rw [h'.effects, h.effects, List.append_assoc]
  invalid := List.Subset.trans h.invalid h'.invalid
  nextDevice := h'.nextDevice.trans h.nextDevice
  nextRequest := h'.nextRequest.trans h.nextRequest
  stamped hStamped := h'.stamped (h.stamped hStamped)

/-- Something becomes of one site, and nothing is told. -/
theorem Turns.silent (h : Turns A m m' id s [] effects) (hEpisode : (m.site id).Episode K s [] effects) :
    Passage A K m m' :=
  .turn h hEpisode fun _ _ _ hIn => absurd hIn List.not_mem_nil

/-- What is published about a device event tells of no other one. -/
theorem mem_published {e : DeviceEvent} {x : Nat} {new old : DeviceState} {reason : StateReason}
    (h : .deviceStateChanged x new old reason ∈ e.published) : e = .stateChanged x new old reason := by
  cases e with
  | stateChanged y new' old' reason' =>
    rcases List.mem_cons.mp h with hEq | hRest
    · cases hEq
      rfl
    · split at hRest
      · rw [List.mem_singleton] at hRest
        cases hRest
      · cases hRest
  | needSecrets y need => cases h
  | linkRequested y request =>
    rw [show DeviceEvent.published (.linkRequested y request) = [.linkRequested y request] from rfl,
      List.mem_singleton] at h
    cases h

theorem not_mem_farewell (s : Site) {x : Nat} {new old : DeviceState} {reason : StateReason} :
    .deviceStateChanged x new old reason ∉ s.farewell := by
  unfold Site.farewell
  split <;> simp

theorem effects_updateDevice (m : Manager) (id : Nat) (f : Device → Update) :
    (m.updateDevice id f).effects = m.effects ∧ (m.updateDevice id f).nextDevice = m.nextDevice := by
  unfold updateDevice deliver
  split <;> exact ⟨rfl, rfl⟩

theorem Turns.of_update {f : Device → Update} (hActs : Acts A m (m.updateDevice id f) id s) :
    Turns A m (m.updateDevice id f) id s [] [] :=
  .of_acts hActs (by rw [(prefix_updateDevice m id f).1, List.append_nil])
    (by rw [(effects_updateDevice m id f).1, List.append_nil]) (decides_updateDevice m id f)
    (effects_updateDevice m id f).2

theorem Fits.turns_teardownOn (h : m.Fits A) (id : Nat) (reason : StateReason) :
    Turns A m (m.teardownOn id reason) id (m.site id).forget (m.site id).farewell
      ((m.site id).parting reason) := by
  have hActs := h.teardownOn id reason
  unfold Manager.teardownOn at hActs ⊢
  unfold Site.farewell Site.parting
  rw [show (m.site id).request = m.requestOn? id from rfl]
  cases hOn : m.requestOn? id with
  | none =>
    rw [hOn] at hActs
    exact .of_acts hActs (List.append_nil _).symm (List.append_nil _).symm (.refl m) rfl
  | some r =>
    rw [hOn] at hActs
    have hr := h.linked.request?_of_mem (requestOn?_eq_some hOn).1
    dsimp only at hActs ⊢
    refine .of_acts hActs ?_ ?_ (decides_teardown m r.id reason) ?_ <;> rw [teardown_eq hr]

theorem turns_note (h : m.Fits A) (hSame : Same m m') (hEvents : m'.events = m.events)
    (hEffects : m'.effects = m.effects) (hInvalid : m.invalid ⊆ m'.invalid)
    (hStamped : m.Stamped → m'.Stamped) (id : Nat) : Turns A m m' id (m.site id) [] [] where
  fits := h.same hSame
  site x := by
    rw [hSame.site]
    split
    · rename_i hx
      rw [hx]
    · rfl
  events := by rw [hEvents, List.append_nil]
  effects := by rw [hEffects, List.append_nil]
  invalid := hInvalid
  nextDevice := hSame.nextDevice
  nextRequest := hSame.nextRequest
  stamped := hStamped

/-- Nothing becomes of any site. -/
theorem Fits.quiet (h : m.Fits A) (hSame : Same m m') (news : List ManagerEvent)
    (hEvents : m'.events = m.events ++ news)
    (hNews : ∀ e ∈ news, e.isAside = true) (hEffects : m'.effects = m.effects)
    (hInvalid : m'.invalid = m.invalid) (hStamped : m.Stamped → m'.Stamped) : Passage A K m m' :=
  .quiet (h.same hSame) hSame.site hEvents hNews hEffects hInvalid hSame.nextDevice
    (Nat.le_of_eq hSame.nextRequest.symm) hStamped

theorem Fits.passage_updateState (h : m.Fits A) : Passage A K m m.updateState := by
  have hSame := same_updateState m
  have hDecides := decides_updateState m
  have hStamped := stamped_of_eq hDecides.system hDecides.user
  have hEvents : ∃ news, m.updateState.events = m.events ++ news ∧ ∀ e ∈ news, e.isAside = true := by
    unfold updateState
    split
    · exact ⟨[], (List.append_nil _).symm, List.forall_mem_nil _⟩
    · refine ⟨_, rfl, fun e he => ?_⟩
      rw [List.mem_singleton.mp he]
      rfl
  have hEffects : m.updateState.effects = m.effects := by
    unfold updateState
    split <;> rfl
  obtain ⟨news, hAppended, hAside⟩ := hEvents
  exact h.quiet hSame news hAppended hAside hEffects hDecides.invalid hStamped

theorem Fits.passage_updateTimestamp (h : m.Fits A) (id : Nat) :
    Passage A K m (m.updateTimestamp id) := by
  have hSame := same_updateTimestamp m id
  have hStamped : m.Stamped → (m.updateTimestamp id).Stamped := by
    intro hStamped
    unfold updateTimestamp
    split
    · exact hStamped
    · rename_i r _
      dsimp only
      split
      · exact hStamped
      · rename_i c hFound
        intro scope path c' hFound'
        rw [cache_setCache] at hFound'
        split at hFound'
        · unfold ConnectionCache.get? at hFound'
          rw [Dict.get?_insert] at hFound'
          split at hFound'
          · cases hFound'
            exact (hStamped _ _ c hFound).setTimestamp _
          · exact hStamped _ _ c' hFound'
        · exact hStamped _ _ c' hFound'
  refine h.quiet hSame [] ?_ (List.forall_mem_nil _) ?_ ?_ hStamped
  all_goals
    unfold updateTimestamp setCache
    split
    · simp
    · dsimp only
      split
      · simp
      · split <;> simp

theorem Fits.passage_flag (h : m.Fits A) {d : Device} (hd : m.device? id = some d) (due : Bool) :
    Passage A K m (m.modifyDevice id fun d => { d with activationScheduled := due }) := by
  have hActs := h.marked hd due
  refine (Turns.of_acts hActs ?_ ?_ (decides_modifyDevice m id _) ?_).silent (.flag hd due)
  · rw [(events_modifyDevice m id _).1, List.append_nil]
  · unfold Manager.modifyDevice
    split <;> exact (List.append_nil _).symm
  · unfold Manager.modifyDevice
    split <;> rfl

theorem Fits.passages_schedule (h : m.Fits A) (id : Nat) : Passages A K m (m.schedule id) := by
  obtain ⟨hSame, -⟩ | hEnlisted := m.schedule_cases id
  · rw [hSame]
  · rw [hEnlisted]
    unfold enlisted
    cases hd : m.device? id with
    | none =>
      rw [modifyDevice_absent hd]
      exact .single (h.quiet ⟨rfl, rfl, rfl, rfl, rfl, rfl, rfl, fun _ => rfl⟩ [] (List.append_nil _).symm
        (List.forall_mem_nil _) rfl rfl fun hStamped => hStamped)
    | some d =>
      have hFlag : Passage A K m _ := h.passage_flag hd true
      refine (Relation.ReflTransGen.single hFlag).tail ?_
      exact (hFlag.fits h).quiet ⟨rfl, rfl, rfl, rfl, rfl, rfl, rfl, fun _ => rfl⟩
        [] (List.append_nil _).symm (List.forall_mem_nil _) rfl rfl fun hStamped => hStamped

theorem Fits.passages_scheduleAll (h : m.Fits A) : Passages A K m m.scheduleAll :=
  Passages.foldl m.devices (fun _ d h => h.passages_schedule d.id) h

/-- A request works off the events that wait for it. -/
theorem Fits.passages_processRequest (h : m.Fits A) (id : Nat) :
    Passages A K m (m.processRequest id) := by
  cases hr : m.request? id with
  | none =>
    unfold Manager.processRequest
    rw [hr]
  | some r =>
    obtain ⟨hrMem, rfl⟩ := request?_eq_some hr
    have hActs := h.processRequest hrMem
    have hOn : (m.site r.device).request = some r := h.linked.requestOn?_of_mem hrMem
    unfold Manager.processRequest at hActs ⊢
    rw [hr] at hActs ⊢
    dsimp only at hActs ⊢
    refine .single ?_
    split at hActs
    · rename_i hShown
      rw [if_pos hShown]
      refine .turn (.of_acts hActs (show _ = m.events ++ [.activeConnectionChanged r.id] from rfl) rfl
        ⟨rfl, rfl, rfl, rfl, rfl⟩ rfl) (.look hOn fun e he => ?_) fun old reason uuid hIn => ?_
      · rw [List.mem_singleton.mp he]
        rfl
      · rw [List.mem_singleton] at hIn
        cases hIn
    · rename_i hNotShown
      rw [if_neg hNotShown]
      exact (Turns.of_acts hActs (List.append_nil _).symm rfl ⟨rfl, rfl, rfl, rfl, rfl⟩ rfl).silent
        (.look hOn (List.forall_mem_nil _))

-- ---------------------------------------------------------------------------
-- What the events that wait call for
-- ---------------------------------------------------------------------------

end Manager

/-- What is done as activations start by themselves: nothing ends. -/
def Feat.Starting (n : Nat) : Feat → Prop
  | .tells | .halts => True
  | .launches number => n ≤ number
  | _ => False

/-- All that the events of a device lead to may be done. -/
structure Site.Permits (K : Feat → Prop) (s : Site) : Prop where
  abandons : asks s.queue = true → K .abandons
  leaves : ∀ r, s.request = some r → K (.leaves r.id) ∨ ∀ e ∈ s.queue, e.parts? = none

/-- One site at two times, with nothing more to be told or looked at. -/
structure Site.Narrows (s s' : Site) : Prop where
  request : ∀ r', s'.request = some r' → (∀ e ∈ s'.queue, e ∈ s.queue) ∧
    ∃ r, s.request = some r ∧ r'.id = r.id ∧ (r.queue = [] → r'.queue = [])
  asks : asks s'.queue = true → asks s.queue = true

theorem Site.Narrows.refl (s : Site) : s.Narrows s :=
  ⟨fun r hr => ⟨fun _ he => he, r, hr, rfl, fun h => h⟩, fun h => h⟩

theorem Site.Narrows.trans {s s' s'' : Site} (h : s.Narrows s') (h' : s'.Narrows s'') :
    s.Narrows s'' where
  request r'' hr'' := by
    obtain ⟨hQueue', r', hr', hId', hLooked'⟩ := h'.request r'' hr''
    obtain ⟨hQueue, r, hr, hId, hLooked⟩ := h.request r' hr'
    exact ⟨fun e he => hQueue e (hQueue' e he), r, hr, hId'.trans hId, fun h => hLooked' (hLooked h)⟩
  asks hAsks := h.asks (h'.asks hAsks)

theorem Site.Permits.narrows {K : Feat → Prop} {s s' : Site} (h : s.Permits K)
    (hNarrows : s.Narrows s') : s'.Permits K where
  abandons hAsks := h.abandons (hNarrows.asks hAsks)
  leaves r' hr' := by
    obtain ⟨hQueue, r, hr, hId, -⟩ := hNarrows.request r' hr'
    rw [hId]
    exact (h.leaves r hr).imp_right fun hNone e he => hNone e (hQueue e he)

/-- A site without a request, whose device has nothing more to ask for. -/
theorem Site.narrows_free {s s' : Site} (hRequest : s'.request = none)
    (hAsks : asks s'.queue = true → asks s.queue = true) : s.Narrows s' where
  request r hr := by
    rw [hRequest] at hr
    cases hr
  asks := hAsks

namespace Manager

variable {A : Nat → String → Prop} {K K' : Feat → Prop} {m m' m'' : Manager} {id : Nat}
variable {s s' : Site} {news news' : List ManagerEvent} {effects effects' : List Effect}

/-- All that the events that wait lead to may be done. -/
def Permits (K : Feat → Prop) (m : Manager) : Prop := ∀ x, (m.site x).Permits K

/-- One manager at two times, with nothing more to be told or looked at. -/
def Narrows (m m' : Manager) : Prop := ∀ x, (m.site x).Narrows (m'.site x)

theorem Narrows.trans (h : Narrows m m') (h' : Narrows m' m'') : Narrows m m'' :=
  fun x => (h x).trans (h' x)

theorem Permits.narrows (h : m.Permits K) (hNarrows : Narrows m m') : m'.Permits K :=
  fun x => (h x).narrows (hNarrows x)

theorem narrows_of_site (hSites : ∀ x, m'.site x = m.site x) : Narrows m m' :=
  fun x => hSites x ▸ .refl _

theorem Turns.narrows (h : Turns A m m' id s news effects) (hSite : (m.site id).Narrows s) :
    Narrows m m' := by
  intro x
  rw [h.site x]
  split
  · rename_i hx
    rw [hx]
    exact hSite
  · exact .refl _

/-- No request has anything to look at. -/
theorem AllLooked.narrows (h : m.AllLooked) (hFits : m'.Fits A) (hNarrows : Narrows m m') :
    m'.AllLooked := by
  intro r' hr'
  obtain ⟨-, r, hr, -, hLooked⟩ := (hNarrows r'.device).request r' (hFits.linked.requestOn?_of_mem hr')
  exact hLooked (h r (requestOn?_eq_some hr).1)

/-- Nothing has to be permitted while nothing waits. -/
theorem permits_of_queue (h : m.queue = []) : m.Permits K := by
  intro x
  have hQueue : (m.site x).queue = [] := queueOf_nil h x
  refine ⟨fun hAsks => ?_, fun r _ => Or.inr ?_⟩
  · rw [hQueue] at hAsks
    cases hAsks
  · rw [hQueue]
    exact List.forall_mem_nil _

/-- Nothing has to be permitted while only activations that go on are told of. -/
theorem permits_of_calm (h : ∀ e ∈ m.queue, e.isCalm = true) : m.Permits K := by
  have hOwn : ∀ x, ∀ e ∈ (m.site x).queue, e.isCalm = true := fun x e he => h e (List.mem_filter.mp he).1
  intro x
  refine ⟨fun hAsks => ?_, fun r _ => Or.inr fun e he => ?_⟩
  · obtain ⟨e, he, hAsk⟩ := List.any_eq_true.mp hAsks
    have hCalm := hOwn x e he
    cases e with
    | stateChanged y new old reason => cases hAsk
    | needSecrets y need => cases hCalm
    | linkRequested y request => cases hAsk
  · have hCalm := hOwn x e he
    cases e with
    | stateChanged y new old reason =>
      change new.isActive = true at hCalm
      show (if new.isEnd then some reason else none) = none
      rw [if_neg]
      revert hCalm
      cases new <;> decide
    | needSecrets y need => rfl
    | linkRequested y request => rfl

-- ---------------------------------------------------------------------------
-- One event
-- ---------------------------------------------------------------------------

theorem Fits.turns_told (h : m.Fits A) {e : DeviceEvent} {rest : List DeviceEvent}
    (hQueue : m.queue = e :: rest) :
    Turns A m (m.told e rest) e.device ((m.site e.device).tell e) e.published [] :=
  .of_acts (h.told hQueue) rfl (List.append_nil _).symm ⟨rfl, rfl, rfl, rfl, rfl⟩ rfl

theorem Fits.turns_dropOrphan (h : m.Fits A) (id : Nat) :
    Turns A m (m.dropOrphan id) id ((m.site id).adopt none) [] [] :=
  .of_acts (h.dropOrphan id) (List.append_nil _).symm (List.append_nil _).symm
    ⟨rfl, rfl, rfl, rfl, rfl⟩ rfl

theorem mem_markInvalid (m : Manager) (uuid u : String) :
    u ∈ (m.markInvalid uuid).invalid ↔ u ∈ m.invalid ∨ u = uuid := by
  unfold markInvalid
  split
  · rename_i hKnown
    refine ⟨Or.inl, fun h => h.elim (fun h => h) fun hEq => ?_⟩
    rw [hEq]
    exact List.contains_iff_mem.mp hKnown
  · simp

theorem turns_markInvalid (h : m.Fits A) (uuid : String) (id : Nat) :
    Turns A m (m.markInvalid uuid) id (m.site id) [] [] := by
  refine turns_note h (same_markInvalid m uuid) ?_ ?_ (fun u hu => (mem_markInvalid m uuid u).mpr (.inl hu))
    (stamped_of_eq ?_ ?_) id <;> unfold markInvalid <;> split <;> rfl

/-- A failed activation without a request leaves its mark. -/
theorem Fits.turns_failOrphan (h : m.Fits A) (id : Nat) :
    Turns A m (m.failOrphan id) id ((m.site id).adopt none) [] [] ∧
      ∀ o, m.orphan? id = some o → o.userRequested = false →
        o.connection.uuid ∈ (m.failOrphan id).invalid := by
  unfold Manager.failOrphan
  cases ho : m.orphan? id with
  | none =>
    refine ⟨?_, nofun⟩
    have hSame : (m.site id).adopt none = m.site id := by
      unfold Manager.site Site.adopt
      rw [ho]
    rw [hSame]
    exact turns_note h (.refl m) rfl rfl (List.Subset.refl _) (fun h => h) id
  | some o =>
    have hDropped := h.turns_dropOrphan id
    dsimp only
    split
    · rename_i hUser
      refine ⟨hDropped, fun o' ho' hAuto => ?_⟩
      cases ho'
      rw [hUser] at hAuto
      cases hAuto
    · have hMarked := turns_markInvalid hDropped.fits o.connection.uuid id
      rw [hDropped.here] at hMarked
      refine ⟨hDropped.trans hMarked, fun o' ho' _ => ?_⟩
      cases ho'
      exact (mem_markInvalid _ _ _).mpr (Or.inr rfl)

/-- A failed activation leaves its mark as it loses its request. -/
theorem Fits.turns_failRequest (h : m.Fits A) (id : Nat) (reason : StateReason) :
    Turns A m (m.failRequest id reason) id (m.site id).forget (m.site id).farewell
        ((m.site id).parting reason) ∧
      ∀ r, m.requestOn? id = some r → r.userRequested = false →
        r.connection.uuid ∈ (m.failRequest id reason).invalid := by
  have hTeardown := h.turns_teardownOn id reason
  unfold Manager.failRequest
  unfold Manager.teardownOn at hTeardown
  cases hOn : m.requestOn? id with
  | none =>
    rw [hOn] at hTeardown
    exact ⟨hTeardown, fun r hr => nomatch hr⟩
  | some r =>
    rw [hOn] at hTeardown
    dsimp only at hTeardown ⊢
    split
    · rename_i hUser
      refine ⟨hTeardown, fun r' hr' hAuto => ?_⟩
      cases hr'
      rw [hUser] at hAuto
      cases hAuto
    · have hMarked := turns_markInvalid h r.connection.uuid id
      have hOn' : (m.markInvalid r.connection.uuid).requestOn? id = some r :=
        (congrArg Site.request hMarked.here).trans hOn
      have hGone := hMarked.fits.turns_teardownOn id reason
      unfold Manager.teardownOn at hGone
      rw [hOn', hMarked.here] at hGone
      refine ⟨hMarked.trans hGone, fun r' hr' _ => ?_⟩
      cases hr'
      exact hGone.invalid ((mem_markInvalid _ _ _).mpr (Or.inr rfl))

section Told

variable {new old : DeviceState} {reason : StateReason} {e : DeviceEvent} {rest : List DeviceEvent}

/-- What was told leaves less to be told. -/
theorem narrows_tell (hQueue : m.queue = e :: rest)
    (hs : s.queue = ((m.site e.device).tell e).queue)
    (hRequest : s.request = (m.site e.device).request ∨ s.request = none) :
    (m.site e.device).Narrows s := by
  obtain ⟨rest', hRest⟩ := queueOf_cons hQueue
  have hTail : s.queue = rest' := by
    rw [hs]
    show (m.site e.device).queue.tail = rest'
    rw [hRest]
    rfl
  constructor
  · intro r hr
    refine ⟨fun f hf => ?_, r, ?_, rfl, fun h => h⟩
    · rw [hRest]
      exact List.mem_cons_of_mem _ (hTail ▸ hf)
    · rcases hRequest with hSame | hNone
      · exact hSame ▸ hr
      · rw [hNone] at hr
        cases hr
  · intro hAsks
    rw [hTail] at hAsks
    rw [hRest, asks_cons, hAsks, Bool.or_true]

/-- An event is told that does not end a request. -/
theorem Fits.passage_tell {orphan : Option Orphan} (hTells : K .tells)
    (hQueue : m.queue = e :: rest) (hParts : e.parts? = none)
    (hOrphan : orphan = m.orphan? e.device ∨
      orphan = none ∧ ∃ t, e.entered? = some t ∧ t.isActive = false)
    (hTurns : Turns A m m' e.device (((m.site e.device).tell e).adopt orphan) e.published []) :
    Passage A K m m' ∧ Narrows m m' := by
  obtain ⟨rest', hRest⟩ := queueOf_cons hQueue
  refine ⟨.turn hTurns (.tell hTells hRest hParts hOrphan) fun old reason uuid hIn => ?_,
    hTurns.narrows (narrows_tell hQueue rfl (.inl rfl))⟩
  rw [mem_published hIn] at hParts
  cases hParts

/-- An event is told that ends the request, if there is one. -/
theorem Fits.passage_leave (hPermits : m.Permits K) (hLooked : m.AllLooked) (hTells : K .tells)
    (hQueue : m.queue = e :: rest) (hParts : e.parts? = some reason)
    (hFree : Turns A (m.told e rest) m' e.device (((m.site e.device).tell e).adopt none).forget
      (m.site e.device).farewell ((m.site e.device).parting reason))
    (hMarks : (∃ old reason, e = .stateChanged e.device .failed old reason) →
      ∀ uuid, (m.site e.device).Blames uuid → uuid ∈ m'.invalid)
    (h : m.Fits A) : Passage A K m m' ∧ Narrows m m' := by
  obtain ⟨rest', hRest⟩ := queueOf_cons hQueue
  have hTurns := (h.turns_told hQueue).trans hFree
  rw [List.nil_append] at hTurns
  refine ⟨.turn hTurns (.leave hTells hRest hParts fun r hr => ⟨?_, ?_⟩) fun old reason uuid hIn hBlames =>
    ?_, hTurns.narrows (narrows_tell hQueue rfl (.inr rfl))⟩
  · exact hLooked r (requestOn?_eq_some hr).1
  · refine ((hPermits e.device).leaves r hr).resolve_right fun hNone => ?_
    have hOldest := hNone e (by rw [hRest]; exact List.mem_cons_self)
    rw [hParts] at hOldest
    cases hOldest
  · rcases List.mem_append.mp hIn with hIn | hIn
    · exact hMarks ⟨_, _, mem_published hIn⟩ uuid hBlames
    · exact absurd hIn (not_mem_farewell _)

theorem asks_moveTo (d : Device) (new : DeviceState) (reason : StateReason) :
    asks (d.moveTo new reason).events = false := by
  unfold Device.moveTo
  split
  · rfl
  · split <;> rfl

/-- A request for secrets that nobody hears. -/
theorem Fits.passages_failUnansweredAuth (h : m.Fits A) (id : Nat) (hK : K .abandons) :
    Passages A K m (m.failUnansweredAuth id) ∧ Narrows m (m.failUnansweredAuth id) := by
  unfold Manager.failUnansweredAuth
  split
  · exact ⟨.refl, narrows_of_site fun _ => rfl⟩
  · rename_i hNone
    rw [Bool.not_eq_true, Option.isSome_eq_false_iff, Option.isNone_iff_eq_none] at hNone
    cases hd : m.device? id with
    | none =>
      rw [updateDevice_absent hd]
      exact ⟨.refl, narrows_of_site fun _ => rfl⟩
    | some d =>
      have hSound := h.sound hd
      have hTurns := Turns.of_update
        (h.carries hd (Device.failAuth_carries hSound.allListen hSound.device))
      refine ⟨.single (hTurns.silent (.hears hd (.abandons hK hNone))), hTurns.narrows ?_⟩
      refine Site.narrows_free ?_ fun hAsks => ?_
      · show (m.requestOn? id).map _ = none
        rw [hNone]
        rfl
      · change asks ((m.site id).queue ++ d.failAuth.events) = true at hAsks
        rw [asks_append] at hAsks
        have hSilent : asks d.failAuth.events = false := by
          unfold Device.failAuth
          split
          · exact asks_moveTo _ _ _
          · rfl
        rw [hSilent, Bool.or_false] at hAsks
        exact hAsks

/-- A device that failed goes back to where it can be used again. -/
theorem Fits.passages_recover (h : m.Fits A) (hNone : m.requestOn? id = none) (reason : StateReason) :
    Passages A K m (m.updateDevice id fun d => d.moveTo .disconnected reason) ∧
      Narrows m (m.updateDevice id fun d => d.moveTo .disconnected reason) := by
  cases hd : m.device? id with
  | none =>
    rw [updateDevice_absent hd]
    exact ⟨.refl, narrows_of_site fun _ => rfl⟩
  | some d =>
    have hSound := h.sound hd
    have hTurns := Turns.of_update (h.carries hd (f := fun d => d.moveTo .disconnected reason)
      (Device.moveTo_disconnected_carries reason hSound.allListen hSound.device))
    refine ⟨.single (hTurns.silent (.hears hd (.recovers hNone reason))), hTurns.narrows ?_⟩
    refine Site.narrows_free ?_ fun hAsks => ?_
    · show (m.requestOn? id).map _ = none
      rw [hNone]
      rfl
    · change asks ((m.site id).queue ++ (d.moveTo .disconnected reason).events) = true at hAsks
      rw [asks_append, asks_moveTo, Bool.or_false] at hAsks
      exact hAsks

theorem Fits.narrows_schedule (h : m.Fits A) (id : Nat) : Narrows m (m.schedule id) := by
  obtain ⟨hSame, -⟩ | hEnlisted := m.schedule_cases id
  · rw [hSame]
    exact narrows_of_site fun _ => rfl
  · rw [hEnlisted]
    unfold enlisted
    cases hd : m.device? id with
    | none =>
      rw [modifyDevice_absent hd]
      exact narrows_of_site fun _ => rfl
    | some d =>
      intro x
      have hSite := (h.marked hd true).site x
      show (m.site x).Narrows
        ((m.modifyDevice id fun d => { d with activationScheduled := true }).site x)
      rw [hSite]
      split
      · rename_i hx
        rw [hx]
        exact ⟨fun r hr => ⟨fun _ he => he, r, hr, rfl, fun h => h⟩, fun h => h⟩
      · exact .refl _

/-- What follows from a state that a device entered, once it was told. -/
theorem Fits.passages_stateChanged (h : m.Fits A) (hPermits : m.Permits K) (hLooked : m.AllLooked)
    (hTells : K .tells) (hQueue : m.queue = .stateChanged id new old reason :: rest) :
    let told := m.told (.stateChanged id new old reason) rest
    let m' := (if !new.isActive && new != DeviceState.failed then told.dropOrphan id
      else told).followState id new reason
    Passages A K m m' ∧ Narrows m m' := by
  intro told
  have hTold : Turns A m told id ((m.site id).tell (.stateChanged id new old reason))
      (DeviceEvent.published (.stateChanged id new old reason)) [] := h.turns_told hQueue
  have hDropped := hTold.fits.turns_dropOrphan id
  rw [hTold.here] at hDropped
  have hTeardown := hDropped.fits.turns_teardownOn id reason
  rw [hDropped.here] at hTeardown
  -- an event that ends the request, and is no failure
  have hEnds (hEnd : new.isEnd = true) (hFailed : new ≠ .failed) :
      Passage A K m ((told.dropOrphan id).teardownOn id reason) ∧
        Narrows m ((told.dropOrphan id).teardownOn id reason) := by
    refine Fits.passage_leave hPermits hLooked hTells hQueue (if_pos hEnd) (hDropped.trans hTeardown)
      (fun ⟨old', reason', hEq⟩ => ?_) h
    cases hEq
    exact absurd rfl hFailed
  have hActive (hParts : DeviceEvent.parts? (.stateChanged id new old reason) = none) :
      Passage A K m told ∧ Narrows m told :=
    Fits.passage_tell hTells hQueue hParts (.inl rfl) hTold
  cases new with
  | prepare => exact (hActive rfl).imp_left .single
  | config => exact (hActive rfl).imp_left .single
  | needAuth => exact (hActive rfl).imp_left .single
  | ipConfig => exact (hActive rfl).imp_left .single
  | activated =>
    obtain ⟨hPassage, hNarrows⟩ := hActive rfl
    exact ⟨(Relation.ReflTransGen.single hPassage).tail (hTold.fits.passage_updateTimestamp id),
      hNarrows.trans (narrows_of_site (same_updateTimestamp told id).site)⟩
  | unknown =>
    have hBoth := hTold.trans hDropped
    rw [List.append_nil] at hBoth
    exact (Fits.passage_tell hTells hQueue rfl (.inr ⟨rfl, _, rfl, rfl⟩) hBoth).imp_left .single
  | unavailable => exact (hEnds rfl (by decide)).imp_left .single
  | unmanaged => exact (hEnds rfl (by decide)).imp_left .single
  | disconnected =>
    obtain ⟨hPassage, hNarrows⟩ := hEnds rfl (by decide)
    exact ⟨(Relation.ReflTransGen.single hPassage).trans (hTeardown.fits.passages_schedule id),
      hNarrows.trans (hTeardown.fits.narrows_schedule id)⟩
  | failed =>
    obtain ⟨hOrphan, hOrphanMark⟩ := hTold.fits.turns_failOrphan id
    obtain ⟨hRequest, hRequestMark⟩ := hOrphan.fits.turns_failRequest id reason
    have hGone : (((told.failOrphan id).failRequest id reason)).requestOn? id = none := by
      exact congrArg Site.request hRequest.here
    have hKept : (told.failOrphan id).requestOn? id = m.requestOn? id :=
      (congrArg Site.request hOrphan.here).trans (congrArg Site.request hTold.here)
    rw [hOrphan.here, hTold.here] at hRequest
    rw [hTold.here] at hOrphan
    obtain ⟨hPassage, hNarrows⟩ := Fits.passage_leave hPermits hLooked hTells hQueue rfl
      (hOrphan.trans hRequest) (fun _ uuid hBlames => by
        rcases hBlames with ⟨r, hr, hAuto, rfl⟩ | ⟨o, ho, hAuto, rfl⟩
        · exact hRequestMark r (hKept.trans hr) hAuto
        · exact hRequest.invalid
            (hOrphanMark o ((congrArg Site.orphan hTold.here).trans ho) hAuto)) h
    obtain ⟨hRecovers, hLess⟩ := hRequest.fits.passages_recover (K := K) hGone reason
    exact ⟨(Relation.ReflTransGen.single hPassage).trans hRecovers, hNarrows.trans hLess⟩

end Told

/-- To handle an event is a sequence of passages. -/
theorem Fits.passages_handleEvent (h : m.Fits A) (hPermits : m.Permits K) (hLooked : m.AllLooked)
    (hTells : K .tells) {e : DeviceEvent} {rest : List DeviceEvent} (hQueue : m.queue = e :: rest) :
    Passages A K m ({ m with queue := rest }.handleEvent e) ∧
      Narrows m ({ m with queue := rest }.handleEvent e) := by
  have hTold := h.turns_told hQueue
  cases e with
  | linkRequested id request =>
    exact (Fits.passage_tell hTells hQueue rfl (.inl rfl) hTold).imp_left .single
  | needSecrets id need =>
    have hSame : m.told (.needSecrets id need) rest = { m with queue := rest } := by
      unfold Manager.told
      rw [show DeviceEvent.published (.needSecrets id need) = [] from rfl, List.append_nil]
    obtain ⟨hPassage, hNarrows⟩ := Fits.passage_tell hTells hQueue rfl (.inl rfl) hTold
    have hAsks : asks (m.site id).queue = true := by
      obtain ⟨rest', hRest⟩ := queueOf_cons hQueue
      rw [show (m.site id).queue = _ from hRest]
      rfl
    obtain ⟨hFails, hLess⟩ := hTold.fits.passages_failUnansweredAuth id ((hPermits id).abandons hAsks)
    rw [hSame] at hPassage hNarrows hFails hLess
    exact ⟨.head hPassage hFails, hNarrows.trans hLess⟩
  | stateChanged id new old reason =>
    obtain ⟨hPassages, hNarrows⟩ := h.passages_stateChanged hPermits hLooked hTells hQueue
    have hEq : { m with queue := rest }.handleEvent (.stateChanged id new old reason) =
        ((if !new.isActive && new != DeviceState.failed then
          (m.told (.stateChanged id new old reason) rest).dropOrphan id
        else m.told (.stateChanged id new old reason) rest).followState id new reason).updateState := by
      rw [← told_announced]
      rfl
    rw [hEq]
    exact ⟨hPassages.tail (hPassages.fits h).passage_updateState,
      hNarrows.trans (narrows_of_site (same_updateState _).site)⟩

-- ---------------------------------------------------------------------------
-- All queues
-- ---------------------------------------------------------------------------

theorem Fits.passages_processRequests (h : m.Fits A) : Passages A K m m.processRequests :=
  Passages.foldl m.requests (fun _ r h => h.passages_processRequest r.id) h

theorem Fits.narrows_processRequest (h : m.Fits A) (id : Nat) : Narrows m (m.processRequest id) := by
  cases hr : m.request? id with
  | none =>
    unfold Manager.processRequest
    rw [hr]
    exact narrows_of_site fun _ => rfl
  | some r =>
    obtain ⟨hrMem, rfl⟩ := request?_eq_some hr
    intro x
    rw [(h.processRequest hrMem).site x]
    split
    · rename_i hx
      rw [hx]
      refine ⟨fun r' hr' => ?_, fun h => h⟩
      cases hr'
      exact ⟨fun _ he => he, r, h.linked.requestOn?_of_mem hrMem, r.processEvents_follows.id,
        fun _ => r.queue_processEvents⟩
    · exact .refl _

theorem Coherent.narrows_processRequests (h : m.Coherent A) : Narrows m m.processRequests := by
  have hFold : ∀ (rs : List Request) (m' : Manager), m'.Coherent A → Narrows m m' →
      Narrows m (rs.foldl (fun m r => m.processRequest r.id) m') := by
    intro rs
    induction rs with
    | nil => exact fun m' _ hNarrows => hNarrows
    | cons r rs ih =>
      intro m' hCoherent hNarrows
      exact ih _ (hCoherent.processRequest r.id)
        (hNarrows.trans (hCoherent.toFits.narrows_processRequest r.id))
  exact hFold m.requests m h (narrows_of_site fun _ => rfl)

/-- To work off the queues is a sequence of passages. -/
theorem Coherent.passages_pump (h : m.Coherent A) (hPermits : m.Permits K) (hTells : K .tells) :
    Passages A K m m.pump := by
  obtain ⟨hCoherent, hLooked⟩ := h.processRequests
  have hFirst : Passages A K m m.processRequests := h.toFits.passages_processRequests
  unfold Manager.pump
  dsimp only
  split
  · exact hFirst
  · have hDrained : (drain m.processRequests.queueWeight m.processRequests).Coherent A ∧
        (drain m.processRequests.queueWeight m.processRequests).Permits K ∧
          (drain m.processRequests.queueWeight m.processRequests).AllLooked ∧
            Passages A K m (drain m.processRequests.queueWeight m.processRequests) := by
      refine drain_preserves (P := fun m' => m'.Coherent A ∧ m'.Permits K ∧ m'.AllLooked ∧
        Passages A K m m') ?_ _ ⟨hCoherent, hPermits.narrows h.narrows_processRequests, hLooked, hFirst⟩
      rintro m' e rest ⟨hCoherent', hPermits', hLooked', hBefore⟩ hQueue
      obtain ⟨hHandled, hNarrows⟩ :=
        hCoherent'.toFits.passages_handleEvent hPermits' hLooked' hTells hQueue
      have hNext := hCoherent'.handleEvent_coherent hQueue
      exact ⟨hNext, hPermits'.narrows hNarrows, hLooked'.narrows hNext.toFits hNarrows,
        hBefore.trans hHandled⟩
    exact hDrained.2.2.2.trans hDrained.1.toFits.passages_processRequests

-- ---------------------------------------------------------------------------
-- Activations
-- ---------------------------------------------------------------------------

/-- A request that has looked at everything is taken from its device while nothing waits there. -/
theorem Fits.passages_part (h : m.Fits A) (id : Nat) (reason : StateReason)
    (hPart : ∀ r, m.requestOn? id = some r → K (.parts r.id reason) ∧ r.queue = [] ∧
      m.queueOf id = [])
    (hOwned : K .halts ∨ ∀ r, m.requestOn? id = some r → r.outcome.isSome = true ∧
      ∀ d, m.device? id = some d → d.state.isActive = true → (m.orphan? id).isSome = true) :
    Passages A K m (m.teardownOn id reason) := by
  cases hOn : m.requestOn? id with
  | none =>
    unfold Manager.teardownOn
    rw [hOn]
  | some r =>
    obtain ⟨hK, hQueues⟩ := hPart r hOn
    exact .single (.turn (h.turns_teardownOn id reason)
      (.part hOn hK hQueues (hOwned.imp_right fun hLeft => hLeft r hOn))
      fun _ _ _ hIn => absurd hIn (not_mem_farewell _))

theorem asks_of_halts {events : List DeviceEvent} (h : ∀ e ∈ events, e.halts = true) :
    asks events = false := by
  unfold asks
  rw [List.any_eq_false]
  intro e he hAsks
  have hHalts := h e he
  cases e with
  | stateChanged id new old reason => cases hAsks
  | needSecrets id need => cases hHalts
  | linkRequested id request => cases hAsks

/-- A device without a request is stopped. -/
theorem Fits.passages_halt (h : m.Fits A) (id : Nat) (hK : K .halts) {f : Device → Update}
    (hf : Device.Halts f) : Passages A K m (m.updateDevice id f) ∧
      (m.requestOn? id = none → Narrows m (m.updateDevice id f)) ∧
        ∀ x, x ≠ id → (m.updateDevice id f).site x = m.site x := by
  cases hd : m.device? id with
  | none =>
    rw [updateDevice_absent hd]
    exact ⟨.refl, fun _ => narrows_of_site fun _ => rfl, fun _ _ => rfl⟩
  | some d =>
    have hSound := h.sound hd
    have hTurns := Turns.of_update (h.carries hd (hf.carries hSound.allListen hSound.device))
    refine ⟨.single (hTurns.silent (.hears hd (.halts hK hf))), fun hNone => hTurns.narrows ?_,
      fun x hx => (hTurns.site x).trans (if_neg hx)⟩
    refine Site.narrows_free ?_ fun hAsks => ?_
    · show (m.requestOn? id).map _ = none
      rw [hNone]
      rfl
    · change asks ((m.site id).queue ++ (f d).events) = true at hAsks
      rw [asks_append, asks_of_halts (hf.tells d), Bool.or_false] at hAsks
      exact hAsks

theorem narrows_teardownOn (h : m.Fits A) (id : Nat) (reason : StateReason) :
    Narrows m (m.teardownOn id reason) :=
  (h.turns_teardownOn id reason).narrows (Site.narrows_free rfl fun h => h)

/-- What is needed to make a device free. -/
structure Frees (K : Feat → Prop) (m : Manager) (device : Nat) : Prop where
  permits : m.Permits K
  tells : K .tells
  halts : K .halts
  parts : ∀ r, m.requestOn? device = some r → K (.parts r.id .userRequested) ∧ r.queue = [] ∧
    m.queueOf device = []

theorem Coherent.passages_cleared (h : m.Coherent A) {device : Nat} (hFrees : Frees K m device)
    {d : Device} (hd : m.device? device = some d)
    (hState : d.state ≠ .unmanaged ∧ d.state ≠ .unavailable) :
    Passages A K m (m.cleared device) := by
  have hTeardown := h.toFits.turns_teardownOn device .userRequested
  have hParted : Passages A K m (m.teardownOn device .userRequested) :=
    h.toFits.passages_part device .userRequested hFrees.parts (.inl hFrees.halts)
  have hFits := hTeardown.fits.numbered
  have hNumbered : Passage A K (m.teardownOn device .userRequested)
      { m.teardownOn device .userRequested with
        nextRequest := (m.teardownOn device .userRequested).nextRequest + 1 } :=
    .quiet hFits (fun _ => rfl) (List.append_nil _).symm (List.forall_mem_nil _) rfl rfl rfl (Nat.le_succ _) fun h => h
  have hGone : (m.teardownOn device .userRequested).requestOn? device = none :=
    congrArg Site.request hTeardown.here
  obtain ⟨hHalted, hLess, -⟩ := hFits.passages_halt (K := K) device hFrees.halts (.stop .userRequested)
  have hNarrows : Narrows m (m.halted device) :=
    (narrows_teardownOn h.toFits device .userRequested).trans (hLess hGone)
  exact (hParted.tail hNumbered).trans (hHalted.trans
    ((h.halted hd hState).1.passages_pump (hFrees.permits.narrows hNarrows) hFrees.tells))

/-- An activation, if it starts at all. Without a user it needs a device that none stopped, and a
connection that did not fail before. -/
theorem Coherent.passages_activate (h : m.Coherent A) (hStamped : m.Stamped) {device : Nat}
    (hFrees : Frees K m device) {scope : Scope} {path : String} (specific : Option String)
    {userRequested : Bool} (hLaunches : K (.launches m.nextRequest))
    (hUser : userRequested = true → K (.starts device))
    (hAuto : userRequested = false → ∀ c d', (m.cache scope).get? path = some c →
      (m.cleared device).device? device = some d' →
        d'.autoconnectInhibited = false ∧ c.uuid ∉ (m.cleared device).invalid) :
    Passages A K m (m.activate device scope path specific userRequested).1 := by
  obtain ⟨e, hEq⟩ | ⟨c, d, hFound, hd, hOk⟩ :=
    m.activate_cases device scope path specific userRequested
  · rw [hEq]
  · obtain ⟨hState, hCheck⟩ := checkActivation_ok hOk
    obtain ⟨hCleared, hQuiet, hFresh, d', hd', hState', hCheck'⟩ := h.cleared hd hState
    have hQueue : (m.cleared device).queueOf device = [] := queueOf_nil hQuiet.queue device
    obtain ⟨hNone, hOrphan⟩ := hCleared.free hd' (by rw [hState']; rfl) hQueue
    have hNumber : (m.teardownOn device .userRequested).nextRequest = m.nextRequest :=
      (h.toFits.turns_teardownOn device .userRequested).nextRequest
    rw [activate_eq hFound hd hOk hd']
    refine (h.passages_cleared hFrees hd hState).tail ?_
    exact .launch (hNumber ▸ hLaunches) hd' hState' hNone hOrphan hQueue ((hCheck' c).trans hCheck)
      hFresh hUser (fun hNoUser => hAuto hNoUser c d' hFound hd') rfl (hStamped scope path c hFound)

-- ---------------------------------------------------------------------------
-- Automatic activations
-- ---------------------------------------------------------------------------

theorem decides_processRequests (m : Manager) : Decides m m.processRequests := by
  refine foldl_rest (P := fun _ m' => Decides m m') (fun r _ m' h => h.trans ?_) m.requests m (.refl m)
  unfold processRequest
  split
  · exact .refl m'
  · dsimp only
    split <;> exact ⟨rfl, rfl, rfl, rfl, rfl⟩

theorem invalid_handleEvent_calm (m : Manager) {e : DeviceEvent} (he : e.isCalm = true) :
    (m.handleEvent e).invalid = m.invalid := by
  cases e with
  | needSecrets id need => cases he
  | linkRequested id request => rfl
  | stateChanged id new old reason =>
    change new.isActive = true at he
    have hTimestamp : ∀ m : Manager, (m.updateTimestamp id).invalid = m.invalid := by
      intro m
      unfold updateTimestamp
      split
      · rfl
      · dsimp only
        split
        · rfl
        · unfold setCache
          split <;> rfl
    have hAnnounced : (m.announced id new old reason).invalid = m.invalid := by
      unfold announced
      dsimp only
      split <;> rfl
    have hFollow : ((m.announced id new old reason).followState id new reason).invalid =
        m.invalid := by
      cases new <;> first | cases he; done | exact hAnnounced | exact (hTimestamp _).trans hAnnounced
    show (Manager.updateState _).invalid = _
    rw [he]
    exact (decides_updateState _).invalid.trans hFollow

/-- Nothing fails while nothing follows from the events that wait. -/
theorem Calm.invalid_pump (h : m.Calm) : m.pump.invalid = m.invalid := by
  refine (pump_preserves (P := fun m' => m'.Calm ∧ m'.invalid = m.invalid) ?_ ?_ ⟨h, rfl⟩).2
  · rintro m' ⟨hCalm, hInvalid⟩
    exact ⟨hCalm.rests (rests_processRequests m'), (decides_processRequests m').invalid.trans hInvalid⟩
  · rintro m' e rest ⟨hCalm, hInvalid⟩ hQueue
    have hIn : ∀ f ∈ e :: rest, f.isCalm = true := hQueue ▸ hCalm.queue
    have hRest : Calm { m' with queue := rest } :=
      ⟨fun f hf => hIn f (List.mem_cons_of_mem e hf), hCalm.pending⟩
    exact ⟨hRest.rests (rests_handleEvent_calm _ (hIn e List.mem_cons_self)),
      (invalid_handleEvent_calm _ (hIn e List.mem_cons_self)).trans hInvalid⟩

theorem Calm.invalid_cleared (h : m.Calm) {device : Nat} {d : Device}
    (hNone : m.requestOn? device = none) (hd : m.device? device = some d)
    (hState : d.state = .disconnected) : (m.cleared device).invalid = m.invalid := by
  have hHalted : (m.halted device).Calm ∧ (m.halted device).invalid = m.invalid := by
    have hStop : (d.deactivate .userRequested).events = [] := by
      unfold Device.deactivate
      dsimp only
      rw [hState]
      rfl
    unfold Manager.halted Manager.teardownOn Manager.updateDevice
    rw [hNone]
    dsimp only
    rw [show ({ m with nextRequest := m.nextRequest + 1 } : Manager).device? device = some d from hd]
    dsimp only
    rw [hStop, deliver_nil]
    exact ⟨h.rests ⟨rfl, rfl⟩, rfl⟩
  exact hHalted.1.invalid_pump.trans hHalted.2

/-- What is due on a device starts, if nothing prevents it. -/
theorem Coherent.passages_startPending (h : m.Coherent A) (hCalm : m.Calm) (hStamped : m.Stamped)
    {n : Nat} (hn : n ≤ m.nextRequest) (id : Nat) :
    Passages A (Feat.Starting n) m (m.startPending id) := by
  have hMarked := h.modifyDevice id (f := fun d => { d with activationScheduled := false })
    fun d => ⟨⟨rfl, rfl, rfl, rfl, fun _ => rfl, rfl⟩, rfl, fun h => ⟨h.stop, h.managed, h.hardware⟩⟩
  have hRests := rests_modifyDevice m id fun d => { d with activationScheduled := false }
  have hFlag : Passages A (Feat.Starting n) m
      (m.modifyDevice id fun d => { d with activationScheduled := false }) := by
    cases hd : m.device? id with
    | none => rw [modifyDevice_absent hd]
    | some d => exact .single (h.toFits.passage_flag hd false)
  have hStamped' := hFlag.stamped hStamped
  have hn' := Nat.le_trans hn hFlag.nextRequest
  have hCalm' := hCalm.rests hRests
  refine hFlag.trans ?_
  unfold Manager.startPending Manager.autoActivate
  generalize m.modifyDevice id (fun d => { d with activationScheduled := false }) = m' at *
  by_cases hSkip : (m'.isAsleep || (m'.requestOn? id).isSome) = true
  · rw [if_pos hSkip]
  · rw [if_neg hSkip]
    have hNone : m'.requestOn? id = none := by
      cases hOn : m'.requestOn? id with
      | none => rfl
      | some r =>
        rw [hOn] at hSkip
        simp at hSkip
    cases hd : m'.device? id with
    | none => exact .refl
    | some d =>
      dsimp only
      by_cases hFree : d.autoconnectAllowed = true
      · rw [if_neg (by simp [hFree])]
        cases hChoice : m'.autoChoice? d with
        | none => exact .refl
        | some choice =>
          obtain ⟨scope, path⟩ := choice
          obtain ⟨c, -, hFound, -, hValid, -⟩ := autoChoice?_some hChoice
          obtain ⟨-, hInhibited, hState, -⟩ := (Device.autoconnectAllowed_iff d).mp hFree
          have hFrees : Frees (Feat.Starting n) m' id :=
            ⟨permits_of_calm hCalm'.queue, trivial, trivial, fun r hr => by rw [hNone] at hr; cases hr⟩
          -- to clear a device that is free changes nothing
          refine hMarked.passages_activate hStamped' hFrees none hn' nofun fun _ c' d' hFound' hd' => ?_
          rw [hFound] at hFound'
          cases hFound'
          rw [hCalm'.device?_cleared hNone hd hState, if_pos rfl] at hd'
          cases hd'
          refine ⟨hInhibited, fun hIn => ?_⟩
          rw [hCalm'.invalid_cleared hNone hd hState] at hIn
          unfold isInvalid at hValid
          rw [List.contains_iff_mem.mpr hIn] at hValid
          cases hValid
      · rw [if_pos (by simpa using hFree)]

theorem Coherent.passages_startAll (h : m.Coherent A) (hCalm : m.Calm) (hStamped : m.Stamped)
    {n : Nat} (hn : n ≤ m.nextRequest) (ids : List Nat) :
    Passages A (Feat.Starting n) m (ids.foldl Manager.startPending m) := by
  induction ids generalizing m with
  | nil => exact .refl
  | cons id ids ih =>
    obtain ⟨hStarted, hCalm'⟩ := h.startPending hCalm id
    have hFirst := h.passages_startPending hCalm hStamped hn id
    exact hFirst.trans (ih hStarted hCalm' (hFirst.stamped hStamped)
      (Nat.le_trans hn hFirst.nextRequest))

-- ---------------------------------------------------------------------------
-- Settling
-- ---------------------------------------------------------------------------

/-- To settle is to work off the queues, and then to start what is due. -/
theorem Coherent.passages_settle (h : m.Coherent A) (hStamped : m.Stamped) (hPermits : m.Permits K)
    (hTells : K .tells) :
    Passages A K m m.pump ∧ Passages A (Feat.Starting m.nextRequest) m.pump m.settle := by
  have hPump : Passages A K m m.pump := h.passages_pump hPermits hTells
  obtain ⟨hPumped, hQuiet⟩ := h.pump
  refine ⟨hPump, ?_⟩
  have hRounds : Passages A (Feat.Starting m.nextRequest) m.pump (Manager.settleRounds m.roundBound m) := by
    unfold Manager.roundBound Manager.settleRounds
    dsimp only
    split
    · exact .refl
    · have hTaken : Passage A (Feat.Starting m.nextRequest) m.pump { m.pump with pending := [] } :=
        hPumped.toFits.quiet ⟨rfl, rfl, rfl, rfl, rfl, rfl, rfl, fun _ => rfl⟩ [] (List.append_nil _).symm
          (List.forall_mem_nil _) rfl rfl fun h => h
      have hStart : ({ m.pump with pending := [] } : Manager).Coherent A :=
        hPumped.same ⟨rfl, rfl, rfl, rfl, rfl, rfl, rfl, fun _ => rfl⟩
      have hCalm : ({ m.pump with pending := [] } : Manager).Calm := by
        refine ⟨fun e he => ?_, rfl⟩
        rw [show Manager.queue _ = [] from hQuiet.queue] at he
        cases he
      have hStarted := hStart.passages_startAll hCalm (hPump.stamped hStamped) hPump.nextRequest
        m.pump.pending
      obtain ⟨-, hCoherent, hCalm'⟩ := hStart.startPending_all hCalm m.pump.pending .empty
      have hLast := hCoherent.passages_pump (K := Feat.Starting m.nextRequest)
        (permits_of_calm hCalm'.queue) trivial
      unfold Manager.settleRounds
      dsimp only
      rw [hCalm'.pump.pending]
      exact (Relation.ReflTransGen.head hTaken hStarted).trans hLast
  unfold Manager.settle
  exact hRounds.tail (hRounds.fits hPumped.toFits).passage_updateState

end Manager

end ScannerHub
