import ScannerHub.Proofs.Activation.Follow

/-!
# What stays with a request

A request keeps its number, its device, and the place of its connection for as long as it lives.
Secrets are merged into the copy of the connection that it holds, but the copy stays one of the same
settings service.

What others see of it may change: its state, and whether it is the default one. It tells of that
itself, as long as no flag is set on a connection that is down.

* `Request.Plain`, `Request.Answered` — what is true of every request;
* `Request.Goes` — one request at two times;
* `Request.shown` — what others see of it.

## Results

* `goes_finish`, `goes_wait`, `goes_takeSecrets`, … — whatever happens to a request, it goes on as
  itself;
* `processEvents_shown` — a request that works off its events tells of what others see.
-/

namespace ScannerHub.Request

-- ---------------------------------------------------------------------------
-- One request at two times
-- ---------------------------------------------------------------------------

/-- No connection that is down is a default. -/
def Plain (r : Request) : Prop := r.state = .unknown → r.isDefault = false ∧ r.isDefault6 = false

/-- Nobody waits for the outcome of a request that has one. -/
def Answered (r : Request) : Prop := r.outcome.isSome = true → r.waiters = []

/-- What others see of a request besides its place. -/
def shown (r : Request) : ActiveState × Bool × Bool := (r.state, r.isDefault, r.isDefault6)

/-- One request at two times. -/
structure Goes (r r' : Request) : Prop where
  id : r'.id = r.id
  device : r'.device = r.device
  path : r'.path = r.path
  scope : r'.connection.scope = r.connection.scope
  specific : r'.specific = r.specific
  userRequested : r'.userRequested = r.userRequested
  plain : r.Plain → r'.Plain
  answered : r.Answered → r'.Answered

theorem Goes.refl (r : Request) : r.Goes r := ⟨rfl, rfl, rfl, rfl, rfl, rfl, fun h => h, fun h => h⟩

theorem Goes.trans {r r' r'' : Request} (h : r.Goes r') (h' : r'.Goes r'') : r.Goes r'' :=
  ⟨h'.id.trans h.id, h'.device.trans h.device, h'.path.trans h.path, h'.scope.trans h.scope,
   h'.specific.trans h.specific, h'.userRequested.trans h.userRequested,
   fun hPlain => h'.plain (h.plain hPlain), fun hAnswered => h'.answered (h.answered hAnswered)⟩

-- ---------------------------------------------------------------------------
-- What happens to a request
-- ---------------------------------------------------------------------------

theorem goes_hear (r : Request) (events : List DeviceEvent) : r.Goes (r.hear events) :=
  ⟨rfl, rfl, rfl, rfl, rfl, rfl, fun h => h, fun h => h⟩

theorem goes_finish (r : Request) (outcome : Outcome) : r.Goes (r.finish outcome).1 := by
  unfold finish
  split
  · exact Goes.refl r
  · exact ⟨rfl, rfl, rfl, rfl, rfl, rfl, fun h => h, fun _ _ => rfl⟩

theorem shown_finish (r : Request) (outcome : Outcome) : (r.finish outcome).1.shown = r.shown := by
  unfold finish
  split <;> rfl

/-- Whoever waits for a request that has no outcome yet may wait. -/
theorem goes_wait (r : Request) (waiter : Nat) : r.Goes (r.wait waiter).1 := by
  unfold wait
  cases hOutcome : r.outcome with
  | some outcome => exact Goes.refl r
  | none =>
    dsimp only
    split
    · exact Goes.refl r
    · exact ⟨rfl, rfl, rfl, rfl, rfl, rfl, fun h => h, fun _ hSome => by cases hSome⟩

theorem shown_wait (r : Request) (waiter : Nat) : (r.wait waiter).1.shown = r.shown := by
  unfold wait
  split
  · rfl
  · split <;> rfl

theorem goes_checkTimeout (r : Request) (now : Nat) : r.Goes (r.checkTimeout now).1 := by
  unfold checkTimeout
  split
  · exact Goes.refl r
  · split
    · exact goes_finish r _
    · exact Goes.refl r

theorem shown_checkTimeout (r : Request) (now : Nat) : (r.checkTimeout now).1.shown = r.shown := by
  unfold checkTimeout
  split
  · rfl
  · split
    · exact shown_finish r _
    · rfl

/-- The copy with secrets is one of the same settings service. -/
theorem scope_mergeSecrets {c c' : Connection} {name : String} {secrets : Settings}
    (h : c.mergeSecrets name secrets = .ok c') : c'.scope = c.scope := by
  unfold Connection.mergeSecrets at h
  split at h
  · cases h
  · split at h
    · cases h
    · split at h
      · cases h
      · unfold Connection.replaceSettings Connection.ofSettings at h
        cases hVerify : Connection.verify _ with
        | error e =>
          rw [hVerify] at h
          cases h
        | ok base =>
          rw [hVerify] at h
          cases h
          rfl

theorem goes_takeSecrets {r r' : Request} {call : SecretsCall} {answer : Except Error Settings}
    {setting : Option String} (h : r.takeSecrets call answer = some (r', setting)) :
    r.Goes r' ∧ r'.shown = r.shown := by
  unfold takeSecrets at h
  split at h
  · cases h
  · split at h
    · cases h
    · split at h
      · cases h
        exact ⟨⟨rfl, rfl, rfl, rfl, rfl, rfl, fun h => h, fun h => h⟩, rfl⟩
      · dsimp only at h
        split at h
        · cases h
          exact ⟨⟨rfl, rfl, rfl, rfl, rfl, rfl, fun h => h, fun h => h⟩, rfl⟩
        · rename_i hMerged
          cases h
          exact ⟨⟨rfl, rfl, rfl, scope_mergeSecrets hMerged, rfl, rfl, fun h => h, fun h => h⟩, rfl⟩

-- ---------------------------------------------------------------------------
-- Device events
-- ---------------------------------------------------------------------------

/-- A request that follows its device to a state takes the flags back once the connection is down,
and changes nothing that others see without a change of its own state. -/
theorem followState_shown (r : Request) (new : DeviceState) (reason : StateReason) :
    r.Goes (r.followState new reason).1 ∧
      (r.Plain → (r.followState new reason).1.shown = r.shown ∨
        (r.followState new reason).1.state ≠ r.state) := by
  have hUp : ∀ r' : Request, r.Goes r' → r'.shown = r.shown → ActiveState.ofDevice new ≠ .unknown →
      r.Goes { r' with state := .ofDevice new } ∧
        (r.Plain → ({ r' with state := .ofDevice new } : Request).shown = r.shown ∨
          ({ r' with state := .ofDevice new } : Request).state ≠ r.state) := by
    intro r' hGoes hShown hNew
    refine ⟨⟨hGoes.id, hGoes.device, hGoes.path, hGoes.scope, hGoes.specific, hGoes.userRequested,
      fun _ hDown => absurd hDown hNew, hGoes.answered⟩, fun _ => ?_⟩
    by_cases hState : ActiveState.ofDevice new = r.state
    · left
      obtain ⟨-, hFlags⟩ := Prod.mk.inj hShown
      exact Prod.ext hState hFlags
    · exact Or.inr hState
  have hDown : ∀ r' : Request, ({ r with isDefault := false, isDefault6 := false } : Request).Goes r' →
      r'.shown = (r.state, false, false) → ActiveState.ofDevice new = .unknown →
      r.Goes { r' with state := .ofDevice new } ∧
        (r.Plain → ({ r' with state := .ofDevice new } : Request).shown = r.shown ∨
          ({ r' with state := .ofDevice new } : Request).state ≠ r.state) := by
    intro r' hGoes hShown hNew
    obtain ⟨-, hFlags⟩ := Prod.mk.inj hShown
    obtain ⟨hDefault, hDefault6⟩ := Prod.mk.inj hFlags
    refine ⟨⟨hGoes.id, hGoes.device, hGoes.path, hGoes.scope, hGoes.specific, hGoes.userRequested,
      fun _ _ => ⟨hDefault, hDefault6⟩, hGoes.answered⟩, fun hPlain => ?_⟩
    by_cases hState : ActiveState.ofDevice new = r.state
    · left
      obtain ⟨hOld, hOld6⟩ := hPlain (hState ▸ hNew)
      exact Prod.ext hState (Prod.ext (hDefault.trans hOld.symm) (hDefault6.trans hOld6.symm))
    · exact Or.inr hState
  unfold followState
  cases new <;>
    first
      | exact hDown _ (goes_finish _ _) (shown_finish _ _) rfl
      | exact hDown _ (Goes.refl _) rfl rfl
      | exact hUp _ (goes_finish _ _) (shown_finish _ _) (by decide)
      | exact hUp _ (Goes.refl _) rfl (by decide)

theorem goes_askSecrets (r : Request) (need : SecretsNeed) :
    r.Goes (r.askSecrets need).1 ∧ (r.askSecrets need).1.shown = r.shown := by
  unfold askSecrets
  dsimp only
  rw [cancelSecrets_eq]
  exact ⟨⟨rfl, rfl, rfl, rfl, rfl, rfl, fun h => h, fun h => h⟩, rfl⟩

theorem handleEvent_shown (r : Request) (event : DeviceEvent) :
    r.Goes (r.handleEvent event).1 ∧
      (r.Plain → (r.handleEvent event).1.shown = r.shown ∨
        (r.handleEvent event).1.state ≠ r.state) := by
  cases event with
  | stateChanged id new old reason => exact r.followState_shown new reason
  | needSecrets id need =>
    obtain ⟨hGoes, hShown⟩ := r.goes_askSecrets need
    exact ⟨hGoes, fun _ => Or.inl hShown⟩
  | linkRequested id request => exact ⟨Goes.refl r, fun _ => Or.inl rfl⟩

/-- A request that works off its events goes on as itself, and tells of what others see. -/
theorem processEvents_shown (r : Request) :
    r.Goes r.processEvents.request ∧
      (r.Plain → r.processEvents.request.shown = r.shown ∨ r.processEvents.stateChanged = true) := by
  -- a change once noted stays noted, and until then nothing has changed
  have hFold : ∀ (events : List DeviceEvent) (p : Progress), r.Goes p.request →
      (r.Plain → p.request.shown = r.shown ∨ p.stateChanged = true) →
      r.Goes (events.foldl Progress.advance p).request ∧
        (r.Plain → (events.foldl Progress.advance p).request.shown = r.shown ∨
          (events.foldl Progress.advance p).stateChanged = true) := by
    intro events
    induction events with
    | nil => exact fun p hGoes hShown => ⟨hGoes, hShown⟩
    | cons event events ih =>
      intro p hGoes hShown
      obtain ⟨hStep, hTells⟩ := p.request.handleEvent_shown event
      refine ih (p.advance event) (hGoes.trans hStep) fun hPlain => ?_
      unfold Progress.advance
      dsimp only
      rcases hShown hPlain with hSame | hNoted
      · rcases hTells (hGoes.plain hPlain) with hStill | hChanged
        · exact Or.inl (hStill.trans hSame)
        · right
          rw [Bool.or_eq_true]
          exact Or.inr (bne_iff_ne.mpr hChanged)
      · right
        rw [hNoted]
        rfl
  exact hFold r.queue _ ⟨rfl, rfl, rfl, rfl, rfl, rfl, fun h => h, fun h => h⟩ fun _ => Or.inl rfl

end ScannerHub.Request
