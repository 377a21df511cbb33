import Qmedia.Analysis.SubscribedRegistry

/-!
# Sessions over the life of a controller

Abstractly a controller counts the sessions it installs and closes once, the session that
is in place at the first `disconnect` (`SessionLedger`): `closed` is never cleared, so no
later `disconnect`, the destructor's included, reaches a session. The faithful controller
follows this ledger in every run (`tracks_run`). So a `disconnect` reaches the session in
place exactly in the runs without a `connect` after a `disconnect`, and every session that
was ever installed is disconnected exactly if moreover there is at most one
(`disconnects_iff`).
-/

set_option autoImplicit false

namespace Qmedia.Analysis

open Qmedia.Library Qmedia.Model Qmedia.Model.QController

/-! ## The ledger -/

section Ledger

variable {Namespace : Type}

/-- The number of sessions installed, and how many they were at the first `disconnect`. -/
structure SessionLedger where
  installed : ℕ
  closedAt : Option ℕ
deriving DecidableEq, Repr

/-- `connect` installs the next session, the first `disconnect` closes the ledger. -/
def SessionLedger.step (l : SessionLedger) : ControllerOp Namespace → SessionLedger
  | .connect _ => { l with installed := l.installed + 1 }
  | .disconnect => { l with closedAt := l.closedAt.or (some l.installed) }
  | _ => l

/-- The session in place. -/
def SessionLedger.live (l : SessionLedger) : Option Session :=
  if l.installed = 0 then none else some (l.installed - 1)

/-- The ledger of a run. -/
def ledger (ops : List (ControllerOp Namespace)) : SessionLedger :=
  ops.foldl SessionLedger.step ⟨0, none⟩

/-- No `connect` of the run comes after a `disconnect`. -/
def NoConnectAfterDisconnect (ops : List (ControllerOp Namespace)) : Prop :=
  ∀ pre config post, ops = pre ++ .connect config :: post → .disconnect ∉ pre

/-- The calls that install a session. -/
def isConnect : ControllerOp Namespace → Bool
  | .connect _ => true
  | _ => false

/-- A ledger goes on from where it was. -/
theorem ledger_append (ops ops' : List (ControllerOp Namespace)) :
    ledger (ops ++ ops') = ops'.foldl SessionLedger.step (ledger ops) := List.foldl_append

/-- As many sessions are installed as `connect` was called. -/
theorem installed_eq_countP (ops : List (ControllerOp Namespace)) :
    (ledger ops).installed = ops.countP isConnect := by
  induction ops using List.reverseRecOn with
  | nil => rfl
  | append_singleton ops op ih =>
      rw [ledger_append, List.foldl_cons, List.foldl_nil, List.countP_append, ← ih]
      cases op with
      | _ => rfl

/-- `disconnect` closes the ledger where it stands, unless it is closed. -/
theorem ledger_disconnect (ops : List (ControllerOp Namespace)) :
    (ledger (ops ++ [.disconnect])).installed = (ledger ops).installed ∧
      (ledger (ops ++ [.disconnect])).closedAt =
        (ledger ops).closedAt.or (some (ledger ops).installed) := by
  rw [ledger_append]
  exact ⟨rfl, rfl⟩

/-- The ledger only grows. -/
theorem SessionLedger.foldl_step (l : SessionLedger) (ops : List (ControllerOp Namespace)) :
    l.installed ≤ (ops.foldl SessionLedger.step l).installed ∧
      ∀ k, l.closedAt = some k → (ops.foldl SessionLedger.step l).closedAt = some k := by
  induction ops generalizing l with
  | nil => exact ⟨le_rfl, fun _ h => h⟩
  | cons op ops ih =>
      obtain ⟨hinstalled, hclosed⟩ := ih (l.step op)
      have hstep : l.installed ≤ (l.step op).installed ∧
          ∀ k, l.closedAt = some k → (l.step op).closedAt = some k := by
        cases op with
        | connect config => exact ⟨Nat.le_succ _, fun _ h => h⟩
        | disconnect => exact ⟨le_rfl, fun k h => by simp [SessionLedger.step, h]⟩
        | _ => exact ⟨le_rfl, fun _ h => h⟩
      exact ⟨hstep.1.trans hinstalled, fun k h => hclosed k (hstep.2 k h)⟩

/-- The ledger is open exactly if `disconnect` was never called. -/
theorem closedAt_eq_none_iff (ops : List (ControllerOp Namespace)) :
    (ledger ops).closedAt = none ↔ .disconnect ∉ ops := by
  induction ops using List.reverseRecOn with
  | nil => simp [ledger]
  | append_singleton ops op ih =>
      rw [ledger_append, List.foldl_cons, List.foldl_nil]
      cases op with
      | disconnect => simp [SessionLedger.step]
      | _ => simpa [SessionLedger.step] using ih

/-- It was closed no later than now. -/
theorem closedAt_le {ops : List (ControllerOp Namespace)} {k : ℕ}
    (h : (ledger ops).closedAt = some k) : k ≤ (ledger ops).installed := by
  induction ops using List.reverseRecOn with
  | nil => cases h
  | append_singleton ops op ih =>
      rw [ledger_append, List.foldl_cons, List.foldl_nil] at h ⊢
      cases op with
      | connect config => exact (ih h).trans (Nat.le_succ _)
      | disconnect =>
          cases hclosed : (ledger ops).closedAt with
          | none =>
              simp only [SessionLedger.step, hclosed, Option.none_or, Option.some.injEq] at h
              exact h.symm.le
          | some k' =>
              simp only [SessionLedger.step, hclosed, Option.some_or, Option.some.injEq] at h
              exact ih (hclosed.trans (congrArg some h))
      | _ => exact ih h

/-- The condition holds of every part that a run begins with. -/
theorem NoConnectAfterDisconnect.of_append {ops ops' : List (ControllerOp Namespace)}
    (h : NoConnectAfterDisconnect (ops ++ ops')) : NoConnectAfterDisconnect ops := by
  intro pre config post heq
  refine h pre config (post ++ ops') ?_
  rw [heq, List.append_assoc, List.cons_append]

/-- The session that was closed is the last one exactly if none was installed after it. -/
theorem noConnectAfterDisconnect_iff (ops : List (ControllerOp Namespace)) :
    NoConnectAfterDisconnect ops ↔
      ∀ k, (ledger ops).closedAt = some k → k = (ledger ops).installed := by
  constructor
  · induction ops using List.reverseRecOn with
    | nil => exact fun _ k h => by cases h
    | append_singleton ops op ih =>
        intro h k hk
        have hrest := ih h.of_append
        rw [ledger_append, List.foldl_cons, List.foldl_nil] at hk ⊢
        cases op with
        | connect config =>
            have hnone := (closedAt_eq_none_iff ops).mpr (h ops config [] rfl)
            simp [SessionLedger.step, hnone] at hk
        | disconnect =>
            cases hclosed : (ledger ops).closedAt with
            | none =>
                simp only [SessionLedger.step, hclosed, Option.none_or, Option.some.injEq] at hk
                exact hk.symm
            | some k' =>
                simp only [SessionLedger.step, hclosed, Option.some_or, Option.some.injEq] at hk
                exact hrest k (hclosed.trans (congrArg some hk))
        | _ => exact hrest k hk
  · intro h pre config post hops hmem
    obtain ⟨k, hk⟩ := Option.ne_none_iff_exists'.mp
      (fun hnone => (closedAt_eq_none_iff pre).mp hnone hmem)
    have hle := closedAt_le hk
    obtain ⟨hinstalled, hclosed⟩ := (ledger (pre ++ [.connect config])).foldl_step post
    rw [← ledger_append, List.append_assoc, List.singleton_append, ← hops] at hinstalled hclosed
    have heq := h k (hclosed k (by rw [ledger_append]; exact hk))
    have hone : (ledger (pre ++ [ControllerOp.connect config])).installed =
        (ledger pre).installed + 1 := by
      rw [ledger_append]
      rfl
    omega

end Ledger

/-! ## What leaves the sessions alone -/

/-- The calls that open and close sessions. -/
def isSessionCall {Namespace : Type} : Event Namespace → Bool
  | .connect .. => true
  | .disconnect .. => true
  | _ => false

variable {Suite Ctx Namespace : Type} [DecidableEq Namespace]

omit [DecidableEq Namespace] in
/-- Neither the sessions nor `closed` have changed, and no session was opened or closed. -/
structure KeepsSessions (c c' : QController Suite Ctx Namespace) : Prop where
  clientSession_eq : c'.clientSession = c.clientSession
  sessions_eq : c'.sessions = c.sessions
  closed_eq : c'.closed = c.closed
  log_eq : ∃ es, c'.log = es ++ c.log ∧ ∀ e ∈ es, isSessionCall e = false

omit [DecidableEq Namespace] in
/-- Nothing has happened. -/
theorem KeepsSessions.refl (c : QController Suite Ctx Namespace) : KeepsSessions c c :=
  ⟨rfl, rfl, rfl, [], rfl, by simp⟩

omit [DecidableEq Namespace] in
/-- Two steps that keep the sessions. -/
theorem KeepsSessions.trans {c c' c'' : QController Suite Ctx Namespace}
    (h : KeepsSessions c c') (h' : KeepsSessions c' c'') : KeepsSessions c c'' where
  clientSession_eq := h'.clientSession_eq.trans h.clientSession_eq
  sessions_eq := h'.sessions_eq.trans h.sessions_eq
  closed_eq := h'.closed_eq.trans h.closed_eq
  log_eq := by
    obtain ⟨es, hlog, hes⟩ := h.log_eq
    obtain ⟨es', hlog', hes'⟩ := h'.log_eq
    refine ⟨es' ++ es, by rw [hlog', hlog, List.append_assoc], ?_⟩
    intro e he
    rcases List.mem_append.mp he with he | he
    · exact hes' e he
    · exact hes e he

omit [DecidableEq Namespace] in
/-- The session calls in the log are the same. -/
theorem KeepsSessions.mem_log_iff {c c' : QController Suite Ctx Namespace}
    (h : KeepsSessions c c') {e : Event Namespace} (he : isSessionCall e = true) :
    e ∈ c'.log ↔ e ∈ c.log := by
  obtain ⟨es, hlog, hes⟩ := h.log_eq
  rw [hlog, List.mem_append]
  refine or_iff_right ?_
  intro hmem
  rw [hes e hmem] at he
  cases he

omit [DecidableEq Namespace] in
/-- The subscriptions half keeps the sessions. -/
theorem SubscriptionSide.keepsSessions {c c' : QController Suite Ctx Namespace}
    (h : SubscriptionSide c c') : KeepsSessions c c' := by
  obtain ⟨m₁, m₂, es, rfl, hes⟩ := h
  refine ⟨rfl, rfl, rfl, es, rfl, ?_⟩
  intro e he
  have hside := hes e he
  cases e with
  | connect _ _ _ => cases hside
  | disconnect _ => cases hside
  | _ => rfl

section Steps

variable (env : Environment Namespace) (L : Libs Suite Ctx Namespace)

/-- So does a profile to publish. -/
theorem processProfile_keepsSessions (c : QController Suite Ctx Namespace)
    (stream : MediaStream Namespace) (profile : Profile Namespace) :
    KeepsSessions c (c.processProfile env L stream profile).2 := by
  have hcalm {es : List (Event Namespace)} (hes : ∀ e ∈ es, asksPublication e) :
      ∀ e ∈ es, isSessionCall e = false := by
    intro e he
    have hasks := hes e he
    cases e with
    | connect _ _ _ => cases hasks
    | disconnect _ => cases hasks
    | _ => rfl
  rcases processProfile_cases env L c stream profile with
    ⟨m, es, hes, heq, -⟩ | ⟨m, es, session, q, time, request, accepted, hes, -, -, -, -, heq⟩
  · rw [heq]
    exact ⟨rfl, rfl, rfl, es, rfl, hcalm hes⟩
  · rw [heq]
    exact ⟨rfl, rfl, rfl, .publishIntent session request accepted :: es, rfl,
      List.forall_mem_cons.mpr ⟨rfl, hcalm hes⟩⟩

/-- So does an object. -/
theorem publishNamedObject_keepsSessions (c : QController Suite Ctx Namespace) (ns : Namespace)
    (data : Bytes) (groupFlag : Bool) (startTime : ℕ) :
    KeepsSessions c (c.publishNamedObject L ns data groupFlag startTime).2 := by
  obtain ⟨m, es, hes, heq⟩ := publishNamedObject_frame L c ns data groupFlag startTime
  rw [heq]
  refine ⟨rfl, rfl, rfl, es, rfl, ?_⟩
  intro e he
  obtain ⟨session, object, rfl⟩ := hes e he
  rfl

/-- Every call other than `connect` and `disconnect`. -/
theorem controllerStep_keepsSessions (c : QController Suite Ctx Namespace)
    {op : ControllerOp Namespace} (hconnect : ∀ config, op ≠ .connect config)
    (hdisconnect : op ≠ .disconnect) : KeepsSessions c (controllerStep env L c op).2 := by
  cases op with
  | connect config => exact absurd rfl (hconnect config)
  | disconnect => exact absurd rfl hdisconnect
  | updateManifest m =>
      have hsubs := (processSubscriptions_side env L c m.subscriptions).keepsSessions
      exact processPublications_invariant env L (KeepsSessions c) m.publications
        (fun c' s p _ _ h => h.trans (processProfile_keepsSessions env L c' s p)) _ hsubs
  | publishNamedObject ns data groupFlag startTime =>
      exact publishNamedObject_keepsSessions L c ns data groupFlag startTime
  | stopSubscription ns => exact (stopSubscription_side c ns).keepsSessions
  | setPublicationState ns state =>
      show KeepsSessions c (c.setPublicationState ns state)
      rcases setPublicationState_cases c ns state with ⟨-, heq⟩ | ⟨publication, -, heq⟩
      · rw [heq]
        exact KeepsSessions.refl c
      · rw [heq]
        exact ⟨rfl, rfl, rfl, [], rfl, by simp⟩
  | setSubscriptionState ns transportMode =>
      exact (setSubscriptionState_side c ns transportMode).keepsSessions
  | setSubscriptionSingleOrdered newValue => exact ⟨rfl, rfl, rfl, [], rfl, by simp⟩
  | setPublicationSingleOrdered newValue => exact ⟨rfl, rfl, rfl, [], rfl, by simp⟩
  | _ => exact KeepsSessions.refl c

end Steps

/-! ## The controller follows the ledger -/

omit [DecidableEq Namespace] in
/-- The sessions of the controller are those of the ledger, each is known from its connect,
and the one that has been disconnected is the last one installed when the ledger closed. -/
structure Tracks (c : QController Suite Ctx Namespace) (l : SessionLedger) : Prop where
  sessions_eq : c.sessions = l.installed
  clientSession_eq : c.clientSession = l.live
  closed_eq : c.closed = l.closedAt.isSome
  connect_lt : ∀ session config success, Event.connect session config success ∈ c.log →
    session < l.installed
  exists_connect : ∀ session, session < l.installed →
    ∃ config success, Event.connect session config success ∈ c.log
  disconnect_iff : ∀ session, Event.disconnect session ∈ c.log ↔ l.closedAt = some (session + 1)

omit [DecidableEq Namespace] in
/-- The live session is the one installed last. -/
theorem SessionLedger.mem_live_iff (l : SessionLedger) (session : Session) :
    l.live = some session ↔ l.installed = session + 1 := by
  unfold SessionLedger.live
  split
  · exact iff_of_false nofun (by omega)
  · constructor
    · intro h
      have hlast : l.installed - 1 = session := Option.some.inj h
      omega
    · intro h
      have hlast : l.installed - 1 = session := by omega
      exact congrArg some hlast

omit [DecidableEq Namespace] in
/-- A call that keeps the sessions keeps the ledger. -/
theorem Tracks.keeps {c c' : QController Suite Ctx Namespace} {l : SessionLedger} (h : Tracks c l)
    (hkeeps : KeepsSessions c c') : Tracks c' l where
  sessions_eq := hkeeps.sessions_eq.trans h.sessions_eq
  clientSession_eq := hkeeps.clientSession_eq.trans h.clientSession_eq
  closed_eq := hkeeps.closed_eq.trans h.closed_eq
  connect_lt session config success hmem :=
    h.connect_lt session config success ((hkeeps.mem_log_iff rfl).mp hmem)
  exists_connect session hlt := by
    obtain ⟨config, success, hmem⟩ := h.exists_connect session hlt
    exact ⟨config, success, (hkeeps.mem_log_iff rfl).mpr hmem⟩
  disconnect_iff session := (hkeeps.mem_log_iff rfl).trans (h.disconnect_iff session)

section Tracking

variable (env : Environment Namespace) (L : Libs Suite Ctx Namespace)

omit [DecidableEq Namespace] in
/-- `connect` installs the session that the ledger counts. -/
theorem Tracks.connect {c : QController Suite Ctx Namespace} {l : SessionLedger} (h : Tracks c l)
    (config : RelayConfig) :
    Tracks (c.connect env config).2
      (l.step (.connect config : ControllerOp Namespace)) := by
  obtain ⟨success, heq⟩ := connect_eq env c config
  rw [heq]
  have hsessions := h.sessions_eq
  refine ⟨congrArg Nat.succ hsessions, ?_, h.closed_eq, fun session config' success' hmem => ?_,
    fun session hlt => ?_, fun session => ?_⟩
  · exact ((SessionLedger.mem_live_iff _ _).mpr (congrArg Nat.succ hsessions.symm)).symm
  · rcases List.mem_cons.mp hmem with hnew | hold
    · cases hnew
      exact Nat.lt_succ_of_le hsessions.le
    · exact Nat.lt_succ_of_lt (h.connect_lt _ _ _ hold)
  · by_cases hnew : session = c.sessions
    · subst hnew
      exact ⟨config, success, List.mem_cons_self ..⟩
    · have hold : session < l.installed := by
        have : session < l.installed + 1 := hlt
        omega
      obtain ⟨config', success', hmem⟩ := h.exists_connect session hold
      exact ⟨config', success', List.mem_cons_of_mem _ hmem⟩
  · show _ ∈ _ :: c.log ↔ _
    rw [List.mem_cons, h.disconnect_iff session]
    exact or_iff_right (fun hnew => by cases hnew)

omit [DecidableEq Namespace] in
/-- `disconnect` closes the controller with the ledger. -/
theorem Tracks.disconnect {c : QController Suite Ctx Namespace} {l : SessionLedger}
    (h : Tracks c l) :
    Tracks c.disconnect.2 (l.step (.disconnect : ControllerOp Namespace)) := by
  rcases disconnect_cases c with ⟨hclosed, heq⟩ | ⟨hopen, heq⟩
  · -- a closed controller stays as it is, and so does the ledger
    have hsome : l.closedAt.isSome := h.closed_eq.symm.trans hclosed
    obtain ⟨k, hk⟩ := Option.isSome_iff_exists.mp hsome
    have hsame : l.step (.disconnect : ControllerOp Namespace) = l := by
      unfold SessionLedger.step
      simp only [hk, Option.some_or]
      rw [← hk]
    rw [heq, hsame]
    exact h
  · have hnone : l.closedAt = none :=
      Option.not_isSome_iff_eq_none.mp (by rw [← h.closed_eq, hopen]; exact Bool.false_ne_true)
    have hstep : (l.step (.disconnect : ControllerOp Namespace)).closedAt = some l.installed := by
      unfold SessionLedger.step
      simp only [hnone, Option.none_or]
    have hother {e : Event Namespace} (he : ∀ session, e ≠ .disconnect session) :
        e ∈ c.clientSession.toList.map Event.disconnect ++ c.log ↔ e ∈ c.log := by
      rw [List.mem_append]
      refine or_iff_right ?_
      intro hmem
      obtain ⟨session, -, rfl⟩ := List.mem_map.mp hmem
      exact he session rfl
    rw [heq]
    refine ⟨h.sessions_eq, h.clientSession_eq, by rw [hstep]; rfl,
      fun session config success hmem => ?_, fun session hlt => ?_, fun session => ?_⟩
    · exact h.connect_lt session config success ((hother fun _ heq => by cases heq).mp hmem)
    · obtain ⟨config, success, hmem⟩ := h.exists_connect session hlt
      exact ⟨config, success, (hother fun _ heq => by cases heq).mpr hmem⟩
    · rw [hstep, Option.some.injEq, ← SessionLedger.mem_live_iff, ← h.clientSession_eq]
      show _ ∈ c.clientSession.toList.map Event.disconnect ++ c.log ↔ _
      rw [List.mem_append, h.disconnect_iff, hnone, or_iff_left (fun hold => by cases hold),
        List.mem_map]
      constructor
      · rintro ⟨session', hmem, heq'⟩
        cases heq'
        exact Option.mem_toList.mp hmem
      · exact fun hlive => ⟨session, Option.mem_toList.mpr hlive, rfl⟩

/-- **Step.** A call on the controller is a step of the ledger. -/
theorem Tracks.controllerStep {c : QController Suite Ctx Namespace} {l : SessionLedger}
    (h : Tracks c l) (op : ControllerOp Namespace) :
    Tracks (controllerStep env L c op).2 (l.step op) := by
  have hother (hconnect : ∀ config, op ≠ .connect config) (hdisconnect : op ≠ .disconnect) :
      Tracks (Model.controllerStep env L c op).2 l :=
    h.keeps (controllerStep_keepsSessions env L c hconnect hdisconnect)
  cases op with
  | connect config => exact h.connect env config
  | disconnect => exact h.disconnect
  | _ => exact hother nofun nofun

/-- **Run.** A new controller follows the ledger of its calls. -/
theorem tracks_run {qSubscriberDelegate qPublisherDelegate : Option Ref} {logger debugging : Bool}
    {cipherSuite : Option Suite} {c₀ : QController Suite Ctx Namespace}
    (hc₀ : QController.create qSubscriberDelegate qPublisherDelegate logger debugging cipherSuite =
      .ok c₀) (ops : List (ControllerOp Namespace)) :
    Tracks (finalState (Model.controllerStep env L) c₀ ops) (ledger ops) := by
  induction ops using List.reverseRecOn with
  | nil =>
      obtain rfl := create_ok hc₀
      exact ⟨rfl, rfl, rfl, nofun, nofun, fun _ => ⟨nofun, nofun⟩⟩
  | append_singleton ops op ih =>
      rw [finalState_append, ledger_append]
      exact ih.controllerStep env L op

end Tracking

/-! ## Disconnecting -/

section Disconnecting

variable (env : Environment Namespace) (L : Libs Suite Ctx Namespace)

omit [DecidableEq Namespace] in
/-- A client is not connected once `disconnect` has been called on it. -/
def DisconnectEnds : Prop :=
  ∀ log session, Event.disconnect session ∈ log → env.connected log session = false

omit [DecidableEq Namespace] in
/-- The session in place, if there is one, has been disconnected and is not connected. -/
def EndsCurrent (c : QController Suite Ctx Namespace) : Prop :=
  ∀ session, c.clientSession = some session →
    Event.disconnect session ∈ c.log ∧ c.connected env = false

omit [DecidableEq Namespace] in
/-- Every session that was ever installed has been disconnected. -/
def EndsEvery (c : QController Suite Ctx Namespace) : Prop :=
  ∀ session config success, Event.connect session config success ∈ c.log →
    Event.disconnect session ∈ c.log

/-- A property holds after every `disconnect` of a run, the last one being the
destructor's. -/
def AfterDisconnects (P : QController Suite Ctx Namespace → Prop)
    (c₀ : QController Suite Ctx Namespace) (ops : List (ControllerOp Namespace)) : Prop :=
  ∀ pre, pre ++ [.disconnect] <+: ops ++ [.disconnect] →
    P (finalState (controllerStep env L) c₀ (pre ++ [.disconnect]))

omit [DecidableEq Namespace] in
/-- After a `disconnect` the session in place is disconnected exactly if the run has not
connected after an earlier one. -/
theorem endsCurrent_iff (hends : DisconnectEnds env) {c : QController Suite Ctx Namespace}
    {ops : List (ControllerOp Namespace)} (h : Tracks c (ledger (ops ++ [.disconnect]))) :
    EndsCurrent env c ↔ NoConnectAfterDisconnect ops := by
  obtain ⟨hinstalled, hclosedAt⟩ := ledger_disconnect ops
  have hcurrent : EndsCurrent env c ↔ ∀ session, (ledger ops).installed = session + 1 →
      (ledger ops).closedAt.or (some (ledger ops).installed) = some (session + 1) := by
    unfold EndsCurrent
    refine forall_congr' ?_
    intro session
    rw [h.clientSession_eq, SessionLedger.mem_live_iff, hinstalled, h.disconnect_iff, hclosedAt]
    refine imp_congr_right (fun hlive => and_iff_left_of_imp (fun hdisconnected => ?_))
    unfold connected
    rw [h.clientSession_eq, (SessionLedger.mem_live_iff _ _).mpr (hinstalled.trans hlive)]
    exact hends _ _ ((h.disconnect_iff session).mpr (hclosedAt.trans hdisconnected))
  rw [hcurrent, noConnectAfterDisconnect_iff]
  constructor
  · intro hall k hk
    have hle := closedAt_le hk
    cases hcount : (ledger ops).installed with
    | zero => omega
    | succ n =>
        have hlast := hall n hcount
        rw [hk, Option.some_or, Option.some.injEq] at hlast
        exact hlast
  · intro hall session hsession
    cases hclosed : (ledger ops).closedAt with
    | none => rw [Option.none_or, hsession]
    | some k => rw [Option.some_or, hall k hclosed, hsession]

omit [DecidableEq Namespace] in
/-- After a `disconnect` every session is disconnected exactly if moreover the run has
connected at most once. -/
theorem endsEvery_iff {c : QController Suite Ctx Namespace} {ops : List (ControllerOp Namespace)}
    (h : Tracks c (ledger (ops ++ [.disconnect]))) :
    EndsEvery c ↔ NoConnectAfterDisconnect ops ∧ ops.countP isConnect ≤ 1 := by
  obtain ⟨hinstalled, hclosedAt⟩ := ledger_disconnect ops
  have hevery : EndsEvery c ↔ ∀ session, session < (ledger ops).installed →
      (ledger ops).closedAt.or (some (ledger ops).installed) = some (session + 1) := by
    rw [← hclosedAt, ← hinstalled]
    constructor
    · intro hall session hlt
      obtain ⟨config, success, hmem⟩ := h.exists_connect session hlt
      exact (h.disconnect_iff session).mp (hall session config success hmem)
    · intro hall session config success hmem
      exact (h.disconnect_iff session).mpr (hall session (h.connect_lt _ _ _ hmem))
  rw [hevery, noConnectAfterDisconnect_iff, ← installed_eq_countP]
  constructor
  · intro hall
    have hone : (ledger ops).installed ≤ 1 := by
      by_contra hmore
      have hfirst := hall 0 (by omega)
      have hsecond := hall 1 (by omega)
      rw [hfirst] at hsecond
      exact absurd (Option.some.inj hsecond) (by decide)
    refine ⟨fun k hk => ?_, hone⟩
    have hle := closedAt_le hk
    by_cases hzero : (ledger ops).installed = 0
    · omega
    · have hlast := hall 0 (by omega)
      rw [hk, Option.some_or, Option.some.injEq] at hlast
      omega
  · rintro ⟨hall, hone⟩ session hlt
    cases hclosed : (ledger ops).closedAt with
    | none =>
        rw [Option.none_or, Option.some.injEq]
        omega
    | some k =>
        have hk := hall k hclosed
        rw [Option.some_or, Option.some.injEq]
        omega

/-- What the last `disconnect` shows about the whole run holds of every earlier one. -/
theorem afterDisconnects_iff {P : QController Suite Ctx Namespace → Prop}
    {Q : List (ControllerOp Namespace) → Prop} {c₀ : QController Suite Ctx Namespace}
    (hP : ∀ ops, P (finalState (controllerStep env L) c₀ (ops ++ [.disconnect])) ↔ Q ops)
    (hQ : ∀ ops ops', Q (ops ++ ops') → Q ops) (ops : List (ControllerOp Namespace)) :
    AfterDisconnects env L P c₀ ops ↔ Q ops := by
  constructor
  · intro h
    exact (hP ops).mp (h ops (List.prefix_refl _))
  · rintro h pre ⟨post, hpre⟩
    rw [hP]
    rcases List.eq_nil_or_concat post with rfl | ⟨post, op, rfl⟩
    · rw [List.append_nil] at hpre
      rw [(List.append_inj' hpre rfl).1]
      exact h
    · have hops : ops = pre ++ (.disconnect :: post) := by
        rw [List.concat_eq_append, ← List.append_assoc] at hpre
        have hleft := (List.append_inj' hpre rfl).1
        rw [← hleft, List.append_assoc, List.singleton_append]
      rw [hops] at h
      exact hQ pre _ h

/-- **Disconnecting.** For clients that are not connected once disconnected, and every run
of a new controller: each `disconnect`, the destructor's included, leaves the session in
place disconnected exactly if the run has no `connect` after a `disconnect`; and it leaves
every session disconnected that was ever installed exactly if moreover the run connects at
most once.
SOURCE: src/QController.cpp:52-109 -/
theorem disconnects_iff (hends : DisconnectEnds env)
    {qSubscriberDelegate qPublisherDelegate : Option Ref} {logger debugging : Bool}
    {cipherSuite : Option Suite} {c₀ : QController Suite Ctx Namespace}
    (hc₀ : QController.create qSubscriberDelegate qPublisherDelegate logger debugging cipherSuite =
      .ok c₀) (ops : List (ControllerOp Namespace)) :
    (AfterDisconnects env L (EndsCurrent env) c₀ ops ↔ NoConnectAfterDisconnect ops) ∧
    (AfterDisconnects env L EndsEvery c₀ ops ↔
      NoConnectAfterDisconnect ops ∧ ops.countP isConnect ≤ 1) := by
  constructor
  · apply afterDisconnects_iff env L
    · intro ops
      exact endsCurrent_iff env hends (tracks_run env L hc₀ _)
    · intro ops ops' h
      exact h.of_append
  · refine afterDisconnects_iff env L
      (Q := fun ops => NoConnectAfterDisconnect ops ∧ ops.countP isConnect ≤ 1) ?_ ?_ ops
    · intro ops
      exact endsEvery_iff (tracks_run env L hc₀ _)
    · rintro ops ops' ⟨hafter, hone⟩
      rw [List.countP_append] at hone
      exact ⟨hafter.of_append, (Nat.le_add_right _ _).trans hone⟩

end Disconnecting

/-! ## A controller that connects again -/

/-- An application that takes everything, with clients that are connected until they are
disconnected. -/
def endsOnDisconnect : Environment Prefix :=
  { takesAll true with connected := fun log session => Event.disconnect session ∉ log }

/-- Its sessions are not connected after a disconnect. -/
theorem endsOnDisconnect_disconnectEnds : DisconnectEnds endsOnDisconnect :=
  fun _ _ h => decide_eq_false (not_not_intro h)

/-- Connecting once and disconnecting twice. -/
theorem disconnects_iff_once :
    (AfterDisconnects endsOnDisconnect referenceLibs (EndsCurrent endsOnDisconnect)
        (newController none) [.connect localRelay, .disconnect] ↔
      NoConnectAfterDisconnect
        ([.connect localRelay, .disconnect] : List (ControllerOp Prefix))) ∧
    (AfterDisconnects endsOnDisconnect referenceLibs EndsEvery
        (newController none) [.connect localRelay, .disconnect] ↔
      NoConnectAfterDisconnect
          ([.connect localRelay, .disconnect] : List (ControllerOp Prefix)) ∧
        ([.connect localRelay, .disconnect] : List (ControllerOp Prefix)).countP isConnect ≤ 1) :=
  disconnects_iff endsOnDisconnect referenceLibs endsOnDisconnect_disconnectEnds
    (create_newController none) [.connect localRelay, .disconnect]

/-- The session of a second `connect` stays connected through the second `disconnect` and
the destructor; and a session that a second `connect` replaces is never disconnected. -/
theorem reconnected_stays_connected :
    ¬ AfterDisconnects endsOnDisconnect referenceLibs (EndsCurrent endsOnDisconnect)
        (newController none)
        [.connect localRelay, .disconnect, .connect localRelay, .disconnect] ∧
      (finalState (controllerStep endsOnDisconnect referenceLibs) (newController none)
        [.connect localRelay, .disconnect, .connect localRelay, .disconnect]).connected
          endsOnDisconnect = true ∧
      ¬ AfterDisconnects endsOnDisconnect referenceLibs EndsEvery (newController none)
        [.connect localRelay, .connect localRelay, .disconnect] := by
  have hconnected : (finalState (controllerStep endsOnDisconnect referenceLibs) (newController none)
      [.connect localRelay, .disconnect, .connect localRelay, .disconnect]).connected
        endsOnDisconnect = true := by
    decide +kernel
  refine ⟨?_, hconnected, ?_⟩
  · intro h
    have hends := h [.connect localRelay, .disconnect, .connect localRelay] ⟨[.disconnect], rfl⟩
      1 (by decide +kernel)
    rw [List.cons_append, List.cons_append, List.cons_append, List.nil_append, hconnected] at hends
    exact absurd hends.2 (by decide)
  · intro h
    have hfirst := h [.connect localRelay, .connect localRelay] ⟨[.disconnect], rfl⟩ 0 localRelay
      true (by decide +kernel)
    revert hfirst
    decide +kernel

end Qmedia.Analysis
