import ScannerHub.Proofs.Manager.Continuity

/-!
# Live requests have their connections

A request is live only while its connection is to be had: its settings service runs, and the
connection is among those of the service. Three operations take connections away, and each of them ends
the requests that used these. In between automatic activations may start, but only of connections that
are still there.

While a settings service goes away its connections are dropped one after the other. Until the last one
is dropped there may be requests left for those that are still to go.

* `Manager.Held` — a connection that is to be had;
* `Manager.Stocked` — what connections and live requests have to do with each other.

## Results

* `unused_dropped` — once a connection was dropped nobody uses it;
* `run_stocked` — after every operation all live requests have their connections.
-/

namespace ScannerHub

/-- Whether a request was started from a connection. -/
def Request.From (r : Request) (scope : Scope) (path : String) : Prop :=
  r.connection.scope = scope ∧ r.path = path

/-- Where there was a connection there still is one. -/
theorem ConnectionCache.SameStock.isSome {cache cache' : ConnectionCache}
    (h : cache.SameStock cache') (path : String) :
    (cache'.get? path).isSome = (cache.get? path).isSome := by
  have hHeld := congrArg Option.isSome (h.held path)
  rwa [Option.isSome_map, Option.isSome_map] at hHeld

namespace Manager

variable {A : Nat → String → Prop} {H : Scope → String → Prop} {m m' : Manager} {scope : Scope}
  {path : String}

/-- A connection that is to be had: its service runs, and it is one of those of the service. -/
def Held (m : Manager) (scope : Scope) (path : String) : Prop :=
  (m.cache scope).running = true ∧ ((m.cache scope).get? path).isSome = true

instance (m : Manager) (scope : Scope) (path : String) : Decidable (m.Held scope path) :=
  inferInstanceAs (Decidable (_ ∧ _))

/-- Every connection knows which service it is from. -/
def Marked (m : Manager) : Prop :=
  ∀ scope path c, (m.cache scope).get? path = some c → c.scope = scope

/-- All live requests have their connections. -/
structure Stocked (m : Manager) : Prop where
  marked : m.Marked
  held : ∀ r ∈ m.requests, m.Held r.connection.scope r.path

-- ---------------------------------------------------------------------------
-- Connections that stay
-- ---------------------------------------------------------------------------

theorem Marked.same (h : m.Marked) (hCache : ∀ scope, (m.cache scope).SameStock (m'.cache scope)) :
    m'.Marked := by
  intro scope path c hFound
  have hHeld := (hCache scope).held path
  rw [hFound, Option.map_some] at hHeld
  obtain ⟨c₀, hFound₀, hScope⟩ := Option.map_eq_some_iff.mp hHeld.symm
  rw [← hScope]
  exact h scope path c₀ hFound₀

theorem Held.same (h : m.Held scope path)
    (hCache : ∀ scope, (m.cache scope).SameStock (m'.cache scope)) : m'.Held scope path :=
  ⟨(hCache scope).running.trans h.1, ((hCache scope).isSome path).trans h.2⟩

/-- What is to be had is held. -/
theorem Marked.admits (h : m.Marked) : m.Admits m.Held := by
  intro scope path c hRunning hFound
  rw [h scope path c hFound]
  exact ⟨hRunning, by rw [hFound]; rfl⟩

/-- A request that goes on, or is new, is one of a kind if the old ones are, and the new ones are
started only with such connections. -/
theorem Continues.held {P : Scope → String → Prop} (h : Continues P m m')
    (hOld : ∀ r ∈ m.requests, P r.connection.scope r.path) :
    ∀ r' ∈ m'.requests, P r'.connection.scope r'.path := by
  intro r' hr'
  cases h.requests r' hr' with
  | kept hr hGoes =>
    rw [hGoes.scope, hGoes.path]
    exact hOld _ hr
  | new _ _ hHeld => exact hHeld

theorem Stocked.same (h : m.Stocked) (hContinues : Continues m.Held m m')
    (hCache : ∀ scope, (m.cache scope).SameStock (m'.cache scope)) : m'.Stocked :=
  ⟨h.marked.same hCache, fun r hr => (hContinues.held h.held r hr).same hCache⟩

theorem Stocked.settle (h : m.Stocked) : m.settle.Stocked :=
  have hSettle := h.marked.admits.settle
  h.same hSettle.toContinues hSettle.cache

theorem Stocked.scheduleAll (h : m.Stocked) : m.scheduleAll.Stocked :=
  have hScheduled := retains_scheduleAll m
  h.same hScheduled.toContinues hScheduled.cache

-- ---------------------------------------------------------------------------
-- Connections that come
-- ---------------------------------------------------------------------------

theorem requests_setCache (m : Manager) (scope : Scope) (cache : ConnectionCache) :
    (m.setCache scope cache).requests = m.requests := by
  cases scope <;> rfl

theorem scope_ofSettings {settings : Settings} {c : Connection}
    (h : Connection.ofSettings scope settings = .ok c) : c.scope = scope := by
  unfold Connection.ofSettings at h
  cases hVerify : Connection.verify settings with
  | error e =>
    rw [hVerify] at h
    cases h
  | ok base =>
    rw [hVerify] at h
    cases h
    rfl

/-- Connections of which none goes. -/
theorem Stocked.setCache (h : m.Stocked) {cache : ConnectionCache}
    (hRunning : (m.cache scope).running = true → cache.running = true)
    (hStays : ∀ path, ((m.cache scope).get? path).isSome = true → (cache.get? path).isSome = true)
    (hMarked : ∀ path c, cache.get? path = some c → c.scope = scope) :
    (m.setCache scope cache).Stocked := by
  refine ⟨fun scope' path c hFound => ?_, fun r hr => ?_⟩
  · rw [cache_setCache] at hFound
    split at hFound
    · rename_i hScope
      rw [hScope]
      exact hMarked path c hFound
    · exact h.marked scope' path c hFound
  · rw [requests_setCache] at hr
    obtain ⟨hRuns, hThere⟩ := h.held r hr
    unfold Held
    rw [cache_setCache]
    split
    · rename_i hScope
      rw [hScope] at hRuns hThere
      exact ⟨hRunning hRuns, hStays r.path hThere⟩
    · exact ⟨hRuns, hThere⟩

/-- A connection is taken in. -/
theorem Stocked.insert (h : m.Stocked) {c : Connection} (hScope : c.scope = scope) (path : String) :
    (m.setCache scope { m.cache scope with
      connections := (m.cache scope).connections.insert path c }).Stocked := by
  refine h.setCache (fun hRunning => hRunning) (fun key hThere => ?_) fun key c' hFound => ?_
  · show (Dict.get? _ key).isSome = true
    rw [Dict.get?_insert]
    split
    · rfl
    · exact hThere
  · change Dict.get? _ key = some c' at hFound
    rw [Dict.get?_insert] at hFound
    split at hFound
    · cases hFound
      exact hScope
    · exact h.marked scope key c' hFound

/-- Which connections are left out of automatic activations does not matter. -/
theorem Stocked.forgiven (h : m.Stocked) (invalid : List String) : Stocked { m with invalid } :=
  ⟨h.marked, h.held⟩

theorem Stocked.connectionAdded (h : m.Stocked) (scope : Scope) (path : String)
    (settings : Settings) : (m.connectionAdded scope path settings).1.Stocked := by
  unfold Manager.connectionAdded
  split
  · exact h
  · rename_i c hSettings
    exact (h.insert (scope_ofSettings hSettings) path).scheduleAll.settle

-- ---------------------------------------------------------------------------
-- A connection that goes
-- ---------------------------------------------------------------------------

/-- The manager without a connection. -/
def without (m : Manager) (scope : Scope) (path : String) : Manager :=
  m.setCache scope { m.cache scope with connections := (m.cache scope).connections.erase path }

theorem get?_without (m : Manager) (scope : Scope) (path : String) (scope' : Scope) (key : String) :
    ((m.without scope path).cache scope').get? key =
      if scope' = scope ∧ key = path then none else (m.cache scope').get? key := by
  unfold without
  rw [cache_setCache]
  by_cases hScope : scope' = scope
  · rw [if_pos hScope, hScope]
    show Dict.get? _ key = _
    rw [Dict.get?_erase]
    simp only [true_and, eq_comm]
    rfl
  · rw [if_neg hScope, if_neg fun hBoth => hScope hBoth.1]

theorem running_without (m : Manager) (scope : Scope) (path : String) (scope' : Scope) :
    ((m.without scope path).cache scope').running = (m.cache scope').running := by
  unfold without
  rw [cache_setCache]
  split
  · rename_i hScope
    rw [hScope]
  · rfl

/-- A request that has been stopped is gone. -/
theorem gone_stop (m : Manager) (r : Request) (reason : StateReason) :
    ∀ q ∈ ((m.teardown r.id reason).updateDevice r.device fun d => d.deactivate reason).requests,
      q.id ≠ r.id := by
  have hGone : ∀ q ∈ (m.teardown r.id reason).requests, q.id ≠ r.id := by
    intro q hq
    cases hr : m.request? r.id with
    | none =>
      rw [teardown_absent hr] at hq
      exact fun hId => List.find?_eq_none.mp hr q hq (beq_iff_eq.mpr hId)
    | some r' =>
      rw [teardown_eq hr] at hq
      exact bne_iff_ne.mp (List.mem_filter.mp hq).2
  intro q hq
  cases (retains_updateDevice (H := nothing) _ r.device _).requests q hq with
  | kept hq₀ hGoes =>
    rw [hGoes.id]
    exact hGone _ hq₀
  | new _ _ hHeld => exact hHeld.elim

theorem retains_dropped (m : Manager) (scope : Scope) (path : String) :
    Retains H (m.without scope path) (m.dropped scope path) :=
  Retains.foldl _ (fun m r => retains_stop m r .connectionRemoved) _

/-- Once a connection was dropped nobody uses it, and whoever is left was there before. -/
theorem unused_dropped (m : Manager) (scope : Scope) (path : String) :
    ∀ r' ∈ (m.dropped scope path).requests, ¬ r'.From scope path := by
  have hStep : ∀ (r : Request) (rest : List Request) (m' : Manager),
      (∀ q ∈ m'.requests, q.From scope path → ∃ q₀ ∈ r :: rest, q₀.id = q.id) →
      ∀ q ∈ ((m'.teardown r.id .connectionRemoved).updateDevice r.device fun d =>
        d.deactivate .connectionRemoved).requests, q.From scope path → ∃ q₀ ∈ rest, q₀.id = q.id := by
    intro r rest m' hLeft q hq hFrom
    have hGone := gone_stop m' r .connectionRemoved q hq
    cases (retains_stop (H := nothing) m' r .connectionRemoved).requests q hq with
    | new _ _ hHeld => exact hHeld.elim
    | @kept q₁ hq₁ hGoes =>
      have hFrom₁ : q₁.From scope path :=
        ⟨hGoes.scope.symm.trans hFrom.1, hGoes.path.symm.trans hFrom.2⟩
      obtain ⟨q₀, hq₀, hId⟩ := hLeft q₁ hq₁ hFrom₁
      rw [← hGoes.id] at hId
      rcases List.mem_cons.mp hq₀ with rfl | hq₀
      · exact absurd hId.symm hGone
      · exact ⟨q₀, hq₀, hId⟩
  have hAll := foldl_rest (P := fun rest m' => ∀ q ∈ m'.requests, q.From scope path →
      ∃ q₀ ∈ rest, q₀.id = q.id) hStep
    ((m.without scope path).requests.filter fun r => r.connection.scope = scope ∧ r.path = path)
    (m.without scope path)
    fun q hq hFrom => ⟨q, List.mem_filter.mpr ⟨hq, decide_eq_true hFrom⟩, rfl⟩
  intro r hr hFrom
  obtain ⟨q₀, hq₀, -⟩ := hAll r hr hFrom
  cases hq₀

theorem connectionRemoved_absent (hFound : (m.cache scope).get? path = none) :
    m.connectionRemoved scope path = m := by
  unfold Manager.connectionRemoved
  dsimp only
  rw [hFound]
  rfl

theorem connectionRemoved_eq (hFound : ((m.cache scope).get? path).isSome = true) :
    m.connectionRemoved scope path = (m.dropped scope path).settle := by
  obtain ⟨c, hc⟩ := Option.isSome_iff_exists.mp hFound
  unfold Manager.connectionRemoved
  dsimp only
  rw [hc]
  rfl

theorem Marked.without (h : m.Marked) (scope : Scope) (path : String) :
    (m.without scope path).Marked := by
  intro scope' key c hFound
  rw [get?_without] at hFound
  split at hFound
  · cases hFound
  · exact h scope' key c hFound

/-- The other connections are still to be had. -/
theorem Held.without {scope' : Scope} {key : String} (h : m.Held scope' key)
    (hOther : ¬ (scope' = scope ∧ key = path)) : (m.without scope path).Held scope' key := by
  refine ⟨(running_without m scope path scope').trans h.1, ?_⟩
  rw [get?_without, if_neg hOther]
  exact h.2

/-- A request that is left was there before, and did not use the connection. -/
theorem dropped_requests {P : Scope → String → Prop}
    (h : ∀ r ∈ m.requests, ¬ r.From scope path → P r.connection.scope r.path) :
    ∀ r' ∈ (m.dropped scope path).requests, P r'.connection.scope r'.path := by
  intro r' hr'
  have hUnused := unused_dropped m scope path r' hr'
  cases (retains_dropped (H := nothing) m scope path).requests r' hr' with
  | new _ _ hHeld => exact hHeld.elim
  | kept hr hGoes =>
    unfold Request.From at hUnused
    rw [hGoes.scope, hGoes.path] at hUnused ⊢
    rw [show (m.without scope path).requests = m.requests from requests_setCache m _ _] at hr
    exact h _ hr hUnused

theorem Stocked.dropped (h : m.Stocked) (scope : Scope) (path : String) :
    (m.dropped scope path).Stocked := by
  have hCache := (retains_dropped (H := nothing) m scope path).cache
  refine ⟨(h.marked.without scope path).same hCache, dropped_requests fun r hr hOther => ?_⟩
  exact ((h.held r hr).without hOther).same hCache

theorem Stocked.connectionRemoved (h : m.Stocked) (scope : Scope) (path : String) :
    (m.connectionRemoved scope path).Stocked := by
  obtain hSame | hDropped := m.connectionRemoved_cases scope path
  · rw [hSame]
    exact h
  · rw [hDropped]
    exact (h.dropped scope path).settle

theorem Stocked.connectionUpdated (h : m.Stocked) (scope : Scope) (path : String)
    (settings : Settings) : (m.connectionUpdated scope path settings).Stocked := by
  unfold Manager.connectionUpdated
  dsimp only
  split
  · exact h.connectionAdded scope path settings
  · rename_i held hHeld
    split
    · exact h.connectionRemoved scope path
    · rename_i c hSettings
      have hScope := (scope_ofSettings hSettings).trans (h.marked scope path held hHeld)
      exact ((h.insert hScope path).forgiven _).scheduleAll.settle

-- ---------------------------------------------------------------------------
-- A service that goes
-- ---------------------------------------------------------------------------

/-- A service has gone away, and some of its connections are still to be dropped. -/
structure Leaving (scope : Scope) (rest : List String) (m : Manager) : Prop where
  marked : m.Marked
  stopped : (m.cache scope).running = false
  elsewhere : ∀ r ∈ m.requests, r.connection.scope ≠ scope → m.Held r.connection.scope r.path
  here : ∀ r ∈ m.requests, r.connection.scope = scope →
    r.path ∈ rest ∧ ((m.cache scope).get? r.path).isSome = true

/-- Once all its connections were dropped nobody uses any of them. -/
theorem Leaving.stocked (h : m.Leaving scope []) : m.Stocked :=
  ⟨h.marked, fun r hr => h.elsewhere r hr fun hScope => absurd (h.here r hr hScope).1 List.not_mem_nil⟩

/-- The next connection is dropped. Automatic activations that start meanwhile are none of the
service. -/
theorem Leaving.step {rest : List String} (h : m.Leaving scope (path :: rest)) :
    (m.connectionRemoved scope path).Leaving scope rest := by
  cases hFound : (m.cache scope).get? path with
  | none =>
    rw [connectionRemoved_absent hFound]
    refine ⟨h.marked, h.stopped, h.elsewhere, fun r hr hScope => ?_⟩
    obtain ⟨hIn, hThere⟩ := h.here r hr hScope
    refine ⟨(List.mem_cons.mp hIn).resolve_left fun hPath => ?_, hThere⟩
    rw [hPath, hFound] at hThere
    cases hThere
  | some c =>
    let P : Scope → String → Prop := fun scope' key =>
      (scope' ≠ scope → (m.without scope path).Held scope' key) ∧
        (scope' = scope → key ∈ rest ∧ (((m.without scope path).cache scope).get? key).isSome = true)
    have hDropped := retains_dropped (H := P) m scope path
    have hMarked := h.marked.without scope path
    have hStopped : ((m.without scope path).cache scope).running = false :=
      (running_without m scope path scope).trans h.stopped
    have hAdmits : (m.without scope path).Admits P := by
      intro scope' key c hRunning hThere
      rw [hMarked scope' key c hThere]
      refine ⟨fun _ => ⟨hRunning, by rw [hThere]; rfl⟩, fun hScope => ?_⟩
      rw [hScope, hStopped] at hRunning
      cases hRunning
    have hSettle := (hAdmits.retains hDropped).settle
    have hCache := (hDropped.trans hSettle).cache
    have hLeft : ∀ r ∈ m.requests, ¬ r.From scope path → P r.connection.scope r.path := by
      intro r hr hOther
      refine ⟨fun hScope => (h.elsewhere r hr hScope).without fun hBoth => hScope hBoth.1,
        fun hScope => ?_⟩
      obtain ⟨hIn, hThere⟩ := h.here r hr hScope
      have hNe : r.path ≠ path := fun hPath => hOther ⟨hScope, hPath⟩
      refine ⟨(List.mem_cons.mp hIn).resolve_left hNe, ?_⟩
      rw [get?_without, if_neg fun hBoth => hNe hBoth.2]
      exact hThere
    have hRequests := hSettle.toContinues.held (dropped_requests hLeft)
    rw [connectionRemoved_eq (by rw [hFound]; rfl)]
    refine ⟨hMarked.same hCache, (hCache scope).running.trans hStopped, fun r hr hScope => ?_,
      fun r hr hScope => ?_⟩
    · exact ((hRequests r hr).1 hScope).same hCache
    · obtain ⟨hIn, hThere⟩ := (hRequests r hr).2 hScope
      exact ⟨hIn, ((hCache scope).isSome r.path).trans hThere⟩

/-- A service goes away, and all its connections are still there. -/
theorem Stocked.leaving (h : m.Stocked) (scope : Scope) :
    let m' := m.setCache scope { m.cache scope with running := false }
    m'.Leaving scope (m'.cache scope).connections.keys := by
  intro m'
  have hCache : ∀ scope', m'.cache scope' = if scope' = scope then
      { m.cache scope with running := false } else m.cache scope' := cache_setCache m scope _
  have hHere := hCache scope
  rw [if_pos rfl] at hHere
  rw [hHere]
  have hRequests : m'.requests = m.requests := requests_setCache m scope _
  refine ⟨fun scope' path c hFound => ?_, by rw [hHere], fun r hr hScope => ?_, fun r hr hScope => ?_⟩
  · rw [hCache] at hFound
    split at hFound
    · rename_i hScope
      rw [hScope]
      exact h.marked scope path c hFound
    · exact h.marked scope' path c hFound
  · unfold Held
    rw [hCache, if_neg hScope]
    exact h.held r (hRequests ▸ hr)
  · rw [hHere]
    have hThere := (h.held r (hRequests ▸ hr)).2
    rw [hScope] at hThere
    obtain ⟨c, hc⟩ := Option.isSome_iff_exists.mp hThere
    refine ⟨?_, hThere⟩
    exact List.mem_map.mpr ⟨_, (Dict.get?_eq_some_iff _ _ _).mp hc, rfl⟩

theorem Stocked.setServiceRunning (h : m.Stocked) (scope : Scope) (running : Bool) :
    (m.setServiceRunning scope running).Stocked := by
  unfold Manager.setServiceRunning
  split
  · exact h
  · refine Stocked.settle (Stocked.scheduleAll ?_)
    cases running with
    | true => exact h.setCache (fun _ => rfl) (fun _ hThere => hThere) (h.marked scope)
    | false =>
      exact (foldl_rest (P := fun rest m' => Leaving scope rest m')
        (fun path rest m' hm' => hm'.step) _ _ (h.leaving scope)).stocked

-- ---------------------------------------------------------------------------
-- Runs
-- ---------------------------------------------------------------------------

/-- Every operation leaves live requests with their connections. -/
theorem Stocked.operate (h : m.Stocked) (hSettled : m.Settled A) (operation : Operation) :
    (m.operate operation).Stocked := by
  cases hStocks : operation.stocks with
  | false =>
    obtain ⟨hProceeds, hCache⟩ := hSettled.operate_keeps h.marked.admits hStocks
    exact h.same hProceeds.toContinues hCache
  | true =>
    cases operation with
    | setServiceRunning scope running => exact h.setServiceRunning scope running
    | connectionAdded scope path settings => exact h.connectionAdded scope path settings
    | connectionUpdated scope path settings => exact h.connectionUpdated scope path settings
    | connectionRemoved scope path => exact h.connectionRemoved scope path
    | _ => cases hStocks

/-- In every run all live requests have their connections. -/
theorem run_stocked (h : m.Stocked) (hSettled : m.Settled A) (operations : List Operation) :
    (m.run operations).Stocked := by
  induction operations generalizing m with
  | nil => exact h
  | cons operation operations ih =>
    exact ih (h.operate hSettled operation) (operate_settled hSettled operation)

theorem start_stocked (store : StateStore) (allowed : List Nat) (timeout : Option Nat)
    (epoch : Nat) : (start store allowed timeout epoch).Stocked :=
  ⟨fun scope _ _ hFound => (by cases scope <;> cases hFound), fun _ hr => (by cases hr)⟩

end Manager

end ScannerHub
