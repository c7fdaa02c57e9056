import ScannerHub.Daemon.Command
import ScannerHub.Proofs.Manager.Terms

/-!
# Strangers

A stranger is a user who is neither the superuser nor on the list. Whatever a stranger asks for,
nothing changes and nobody hears of it, so a run is the same without the strangers' calls. What a
stranger hears is another matter. The two calls that move a switch compare it before they look at
who calls, and answer that there is nothing to do: whoever asks for what is in force learns that it
is.

* `Error.denied` — the answer that says nothing;
* `Operation.isForeign` — the operations of strangers;
* `Daemon.Serves` — a daemon between two messages.

## Results

* `operate_foreign`, `run_purged` — strangers change nothing;
* `Serves.run_foreign` — what a stranger hears;
* `foreign_denied_iff` — when two daemons give the same refusal;
* `not_denied_awake` — they do not always.
-/

namespace ScannerHub

/-- The answer to a user who lacks a permission. -/
def Error.denied (uid : Nat) (permission : Permission) : Error :=
  .permissionDenied s!"uid {uid} may not use {permission.name}"

theorem authorize_foreign {allowed : List Nat} {uid : Nat} (h : isAuthorized allowed uid = false)
    (permission : Permission) :
    authorize allowed uid permission = .error (.denied uid permission) := by
  unfold authorize
  simp [h, Error.denied]

-- ---------------------------------------------------------------------------
-- The manager
-- ---------------------------------------------------------------------------

/-- The user who asks for an operation. -/
def Operation.caller? : Operation → Option Nat
  | .activateConnection uid _ _ _ _ => some uid
  | .deactivateConnection uid _ => some uid
  | .setSleeping uid _ => some uid
  | .setEnabled uid _ => some uid
  | _ => none

/-- Whether a stranger asks for an operation. -/
def Operation.isForeign (allowed : List Nat) (operation : Operation) : Bool :=
  operation.caller?.any fun uid => !isAuthorized allowed uid

namespace Manager

variable {m : Manager} {uid : Nat}

theorem activateConnection_foreign (h : isAuthorized m.allowed uid = false)
    (service path device : String) (specific : Option String) :
    m.activateConnection uid service path device specific =
      (m, .error (.denied uid .useConnection)) := by
  unfold activateConnection
  rw [authorize_foreign h]

theorem deactivateConnection_foreign (h : isAuthorized m.allowed uid = false) (active : String) :
    m.deactivateConnection uid active = (m, .error (.denied uid .useConnection)) := by
  unfold deactivateConnection
  rw [authorize_foreign h]

theorem setSleeping_foreign (h : isAuthorized m.allowed uid = false) (sleeping : Bool) :
    m.setSleeping uid sleeping =
      (m, .error (if m.sleeping = sleeping then .alreadyAsleepOrAwake sleeping
        else .denied uid .sleepWake)) := by
  unfold setSleeping
  split
  · rfl
  · rw [authorize_foreign h]

theorem setEnabled_foreign (h : isAuthorized m.allowed uid = false) (enabled : Bool) :
    m.setEnabled uid enabled =
      (m, .error (if m.networkingEnabled = enabled then .alreadyEnabledOrDisabled enabled
        else .denied uid .enableDisable)) := by
  unfold setEnabled
  split
  · rfl
  · rw [authorize_foreign h]

/-- What a stranger asks for changes nothing. -/
theorem operate_foreign {operation : Operation} (h : operation.isForeign m.allowed = true) :
    m.operate operation = m := by
  obtain ⟨uid, hCaller, hUid⟩ := (Option.any_eq_true _ _).mp h
  have hForeign : isAuthorized m.allowed uid = false := by simpa using hUid
  cases operation with
  | activateConnection _ service path device specific =>
    cases hCaller
    exact congrArg Prod.fst (activateConnection_foreign hForeign service path device specific)
  | deactivateConnection _ active =>
    cases hCaller
    exact congrArg Prod.fst (deactivateConnection_foreign hForeign active)
  | setSleeping _ sleeping =>
    cases hCaller
    exact congrArg Prod.fst (setSleeping_foreign hForeign sleeping)
  | setEnabled _ enabled =>
    cases hCaller
    exact congrArg Prod.fst (setEnabled_foreign hForeign enabled)
  | _ => cases hCaller

/-- A run is the same without what strangers ask for. -/
theorem run_purged (m : Manager) (operations : List Operation) :
    m.run operations = m.run (operations.filter fun o => !o.isForeign m.allowed) := by
  induction operations generalizing m with
  | nil => rfl
  | cons operation operations ih =>
    show (m.operate operation).run operations = _
    rw [ih, show (m.operate operation).allowed = m.allowed from run_allowed m [operation]]
    cases hForeign : operation.isForeign m.allowed with
    | true =>
      rw [operate_foreign hForeign, List.filter_cons_of_neg (by simp [hForeign])]
    | false =>
      rw [List.filter_cons_of_pos (by simp [hForeign])]
      rfl

end Manager

-- ---------------------------------------------------------------------------
-- The daemon
-- ---------------------------------------------------------------------------

namespace Command

/-- The permission that a command needs. -/
def permission? : Command → Option Permission
  | .getDevices => none
  | .enable _ => some .enableDisable
  | .sleep _ => some .sleepWake
  | .setLogging _ _ => some .setLogging
  | .activateConnection _ _ _ _ => some .useConnection
  | .deactivateConnection _ => some .useConnection

/-- The answer to a command that asks a switch for what is in force. -/
def inForce? (m : Manager) : Command → Option Error
  | .enable value =>
    if m.networkingEnabled = value then some (.alreadyEnabledOrDisabled value) else none
  | .sleep value => if m.sleeping = value then some (.alreadyAsleepOrAwake value) else none
  | _ => none

/-- No answer about a switch looks like a refusal. -/
theorem inForce?_ne_denied {c : Command} {m : Manager} {e : Error} (h : c.inForce? m = some e)
    (cause : String) : BusError.ofError e ≠ .ofError (.permissionDenied cause) := by
  have hSwitch : e.busName = "AlreadyEnabledOrDisabled" ∨ e.busName = "AlreadyAsleepOrAwake" := by
    cases c with
    | enable value =>
      simp only [inForce?] at h
      split at h
      · cases h
        exact Or.inl rfl
      · cases h
    | sleep value =>
      simp only [inForce?] at h
      split at h
      · cases h
        exact Or.inr rfl
      · cases h
    | _ => cases h
  intro hEq
  have hFull : "org.freedesktop.BarcodeManager.Error." ++ e.busName =
      "org.freedesktop.BarcodeManager.Error." ++ "PermissionDenied" := congrArg BusError.name hEq
  rcases hSwitch with hName | hName <;> rw [hName] at hFull <;> exact absurd hFull (by decide)

end Command

namespace Daemon

variable {d d₁ d₂ : Daemon} {allowed : List Nat} {uid : Nat} {c : Command} {permission : Permission}

/-- The manager has come from a run, and what it published and asked for has been taken. -/
def Serves (allowed : List Nat) (d : Daemon) : Prop :=
  ∃ store timeout epoch operations, d.manager =
    { (Manager.start store allowed timeout epoch).run operations with events := [], effects := [] }

theorem Serves.allowed_eq (h : d.Serves allowed) : d.manager.allowed = allowed := by
  obtain ⟨store, timeout, epoch, operations, hManager⟩ := h
  rw [hManager]
  exact Manager.run_allowed _ operations

/-- With nothing to carry out and nothing to follow, the daemon stays as it is. -/
theorem Serves.publish_operate (h : d.Serves allowed) : (d.operate d.manager).publish = d := by
  obtain ⟨store, timeout, epoch, operations, hManager⟩ := h
  have hEvents : d.manager.events = [] := by rw [hManager]
  have hEffects : d.manager.effects = [] := by rw [hManager]
  have hTaken : ({ d.manager with events := [] } : Manager) = d.manager := by rw [← hEvents]
  have hOperate : d.operate d.manager = d := by
    unfold operate
    rw [hEffects, List.foldl_nil, show ({ d.manager with effects := [] } : Manager) = d.manager by
      rw [← hEffects]]
  have hWaiting : d.handleWaiting = d := by
    unfold handleWaiting
    rw [hEvents, List.foldl_nil, hTaken]
  unfold publish
  rw [hOperate, hWaiting, hWaiting]

theorem Serves.attempt_error (h : d.Serves allowed) {α : Type} (reply : α → Reply) (e : Error) :
    d.attempt reply (d.manager, .error e) = (d, .error (.ofError e)) := by
  unfold attempt
  rw [h.publish_operate]

/-- What a stranger hears: that what it asks of a switch is in force, or else that it may not. -/
theorem Serves.run_foreign (h : d.Serves allowed) (hUid : isAuthorized allowed uid = false)
    (hNeeds : c.permission? = some permission) :
    d.run (some uid) c =
      (d, .error (.ofError ((c.inForce? d.manager).getD (.denied uid permission)))) := by
  have hForeign : isAuthorized d.manager.allowed uid = false := h.allowed_eq ▸ hUid
  cases c with
  | getDevices => cases hNeeds
  | enable value =>
    cases hNeeds
    show d.attempt _ (d.manager.setEnabled uid value) = _
    rw [Manager.setEnabled_foreign hForeign, h.attempt_error]
    by_cases hForce : d.manager.networkingEnabled = value <;> simp [Command.inForce?, hForce]
  | sleep value =>
    cases hNeeds
    show d.attempt _ (d.manager.setSleeping uid value) = _
    rw [Manager.setSleeping_foreign hForeign, h.attempt_error]
    by_cases hForce : d.manager.sleeping = value <;> simp [Command.inForce?, hForce]
  | setLogging level domains =>
    cases hNeeds
    show d.runFor uid (.setLogging level domains) = _
    unfold runFor
    rw [authorize_foreign hForeign]
    rfl
  | activateConnection service path device specific =>
    cases hNeeds
    show d.attempt _ (d.manager.activateConnection uid service path device (some specific)) = _
    rw [Manager.activateConnection_foreign hForeign, h.attempt_error]
    rfl
  | deactivateConnection path =>
    cases hNeeds
    show d.attempt _ (d.manager.deactivateConnection uid path) = _
    rw [Manager.deactivateConnection_foreign hForeign, h.attempt_error]
    rfl

/-- Two daemons with the same list of users, and a privileged command of a stranger. Neither
changes, the log filter and the stored flag included, and nobody hears anything from them. Both give
the same refusal, exactly if neither is asked to set a switch as it is. If their switches are set
alike, both give the same answer in any case. -/
theorem foreign_denied_iff (h₁ : d₁.Serves allowed) (h₂ : d₂.Serves allowed)
    (hUid : isAuthorized allowed uid = false) (hNeeds : c.permission? = some permission) :
    ((d₁.run (some uid) c).1 = d₁ ∧ (d₂.run (some uid) c).1 = d₂) ∧
      ((∃ cause, (d₁.run (some uid) c).2 = .error (.ofError (.permissionDenied cause)) ∧
          (d₂.run (some uid) c).2 = .error (.ofError (.permissionDenied cause))) ↔
        c.inForce? d₁.manager = none ∧ c.inForce? d₂.manager = none) ∧
      (d₁.manager.sleeping = d₂.manager.sleeping →
        d₁.manager.networkingEnabled = d₂.manager.networkingEnabled →
          (d₁.run (some uid) c).2 = (d₂.run (some uid) c).2) := by
  have hRefused : ∀ d : Daemon, d.Serves allowed → ∀ cause,
      (d.run (some uid) c).2 = .error (.ofError (.permissionDenied cause)) →
        c.inForce? d.manager = none := by
    intro d h cause hAnswer
    rw [h.run_foreign hUid hNeeds] at hAnswer
    cases hForce : c.inForce? d.manager with
    | none => rfl
    | some e =>
      rw [hForce] at hAnswer
      exact absurd (Except.error.inj hAnswer) (Command.inForce?_ne_denied hForce cause)
  have hDenies : ∀ d : Daemon, d.Serves allowed → c.inForce? d.manager = none →
      (d.run (some uid) c).2 = .error (.ofError (.denied uid permission)) := by
    intro d h hForce
    rw [h.run_foreign hUid hNeeds, hForce]
    rfl
  refine ⟨⟨?_, ?_⟩, ⟨?_, ?_⟩, fun hSleeping hEnabled => ?_⟩
  · rw [h₁.run_foreign hUid hNeeds]
  · rw [h₂.run_foreign hUid hNeeds]
  · rintro ⟨cause, hFirst, hSecond⟩
    exact ⟨hRefused d₁ h₁ cause hFirst, hRefused d₂ h₂ cause hSecond⟩
  · rintro ⟨hFirst, hSecond⟩
    exact ⟨_, hDenies d₁ h₁ hFirst, hDenies d₂ h₂ hSecond⟩
  · have hSame : c.inForce? d₁.manager = c.inForce? d₂.manager := by
      cases c <;> simp [Command.inForce?, hSleeping, hEnabled]
    rw [h₁.run_foreign hUid hNeeds, h₂.run_foreign hUid hNeeds, hSame]

namespace Strangers

/-- A daemon that has just started, with one user on the list. -/
def awake : Daemon :=
  .start (.start { enabled := true, medium := .memory } [1000] none 0)
    { level := "INFO", domains := "ALL" } 30000

/-- The daemon, put to sleep since. -/
def asleep : Daemon :=
  { awake with
    manager := { awake.manager.run [.setSleeping 0 true] with events := [], effects := [] } }

theorem awake_serves : awake.Serves [1000] :=
  ⟨{ enabled := true, medium := .memory }, none, 0, [], rfl⟩

theorem asleep_serves : asleep.Serves [1000] :=
  ⟨{ enabled := true, medium := .memory }, none, 0, [.setSleeping 0 true], rfl⟩

end Strangers

/-- A stranger who wants networking off is refused, whether the daemon sleeps or not. -/
theorem foreign_denied_disable :
    isAuthorized [1000] 4242 = false ∧
      (Command.enable false).permission? = some .enableDisable ∧
      Strangers.awake.manager.sleeping ≠ Strangers.asleep.manager.sleeping ∧
      ∃ cause, (Strangers.awake.run (some 4242) (.enable false)).2 =
          .error (.ofError (.permissionDenied cause)) ∧
        (Strangers.asleep.run (some 4242) (.enable false)).2 =
          .error (.ofError (.permissionDenied cause)) :=
  ⟨by decide, rfl, by decide +kernel,
   (foreign_denied_iff Strangers.awake_serves Strangers.asleep_serves
     (show isAuthorized [1000] 4242 = false by decide)
     (show (Command.enable false).permission? = some .enableDisable from rfl)).2.1.mpr
       ⟨by decide +kernel, by decide +kernel⟩⟩

/-- A stranger who wants the daemon awake learns whether it is. -/
theorem not_denied_awake :
    ¬ ∀ (d₁ d₂ : Daemon) (allowed : List Nat) (uid : Nat) (c : Command),
      d₁.Serves allowed → d₂.Serves allowed → isAuthorized allowed uid = false →
      c.permission? ≠ none →
        ∃ cause, (d₁.run (some uid) c).2 = .error (.ofError (.permissionDenied cause)) ∧
          (d₂.run (some uid) c).2 = .error (.ofError (.permissionDenied cause)) := by
  intro h
  obtain ⟨cause, hAwake, -⟩ := h Strangers.awake Strangers.asleep [1000] 4242 (.sleep false)
    Strangers.awake_serves Strangers.asleep_serves (by decide) (by decide)
  have hForce : (Command.sleep false).inForce? Strangers.awake.manager =
      some (.alreadyAsleepOrAwake false) := by decide +kernel
  rw [Strangers.awake_serves.run_foreign (by decide) rfl, hForce] at hAwake
  exact Command.inForce?_ne_denied hForce cause (Except.error.inj hAwake)

end Daemon

end ScannerHub
