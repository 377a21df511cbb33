import Qmedia.Model.Controller

/-!
# What each call does

One lemma for each public call but `updateManifest`: what it does to the state of the
controller, and which calls it makes to the outside. What a call keeps follows from its
lemma, and what every call keeps holds of every reachable state (`reachable_invariant`).
-/

set_option autoImplicit false

namespace Qmedia.Analysis

open Qmedia.Library Qmedia.Model Qmedia.Model.QController

variable {Suite Ctx Namespace : Type} [DecidableEq Namespace]

/-! ## Construction -/

omit [DecidableEq Namespace] in
/-- A new controller holds nothing and has called nothing. -/
theorem create_ok {qSubscriberDelegate qPublisherDelegate : Option Ref} {logger debugging : Bool}
    {cipherSuite : Option Suite} {c₀ : QController Suite Ctx Namespace}
    (hc₀ : QController.create qSubscriberDelegate qPublisherDelegate logger debugging cipherSuite =
      .ok c₀) :
    c₀ = {
      logger := logger
      qSubscriberDelegate := qSubscriberDelegate
      qPublisherDelegate := qPublisherDelegate
      qSubscriptionsMap := ∅
      qPublicationsMap := ∅
      quicrSubscriptionsMap := ∅
      quicrPublicationsMap := ∅
      clientSession := none
      stop := false
      closed := false
      isSingleorderedSubscription := true
      isSingleorderedPublication := false
      cipherSuite := cipherSuite
      sessions := 0
      log := [] } := by
  unfold QController.create at hc₀
  split at hc₀
  · cases hc₀
  · cases hc₀
    rfl

/-- **Invariant rule.** What every new controller satisfies and every call keeps, every
reachable controller satisfies. -/
theorem reachable_invariant {env : Environment Namespace} {L : Libs Suite Ctx Namespace}
    (I : QController Suite Ctx Namespace → Prop)
    (hcreate : ∀ (qSubscriberDelegate qPublisherDelegate : Option Ref) (logger debugging : Bool)
      (cipherSuite : Option Suite) (c₀ : QController Suite Ctx Namespace),
      QController.create qSubscriberDelegate qPublisherDelegate logger debugging cipherSuite =
        .ok c₀ → I c₀)
    (hstep : ∀ c op, I c → I (controllerStep env L c op).2)
    {c : QController Suite Ctx Namespace} (h : Reachable env L c) : I c := by
  obtain ⟨qSubscriberDelegate, qPublisherDelegate, logger, debugging, cipherSuite, c₀, ops, hc₀,
    rfl⟩ := h
  exact finalState_invariant (controllerStep env L) I ops (fun c op _ hc => hstep c op hc) c₀
    (hcreate _ _ _ _ _ _ hc₀)

/-! ## Sessions -/

section Sessions

variable (env : Environment Namespace)

omit [DecidableEq Namespace] in
/-- `connect` installs a new client and connects it. -/
theorem connect_eq (c : QController Suite Ctx Namespace) (config : RelayConfig) :
    ∃ success, (c.connect env config).2 =
      { c with
        clientSession := some c.sessions
        sessions := c.sessions + 1
        log := .connect c.sessions config success :: c.log } := by
  unfold connect
  simp only
  split
  · exact ⟨_, rfl⟩
  · exact ⟨_, rfl⟩

omit [DecidableEq Namespace] in
/-- The first `disconnect` closes the controller and the session in place; no later one
does anything. -/
theorem disconnect_cases (c : QController Suite Ctx Namespace) :
    (c.closed = true ∧ c.disconnect = (-1, c)) ∨
    (c.closed = false ∧ c.disconnect = (0,
      { c with
        stop := true
        closed := true
        log := c.clientSession.toList.map Event.disconnect ++ c.log })) := by
  unfold disconnect
  cases hclosed : c.closed with
  | true => exact Or.inl ⟨rfl, rfl⟩
  | false =>
      refine Or.inr ⟨rfl, ?_⟩
      rw [if_neg Bool.false_ne_true]
      cases c.clientSession with
      | none => rfl
      | some session => rfl

end Sessions

/-! ## Subscriptions -/

omit [DecidableEq Namespace] in
/-- A subscribe request is recorded if there is a session. -/
theorem subscribe_eq (c : QController Suite Ctx Namespace)
    (delegate : SubscriptionDelegate Suite Ctx Namespace) (transportMode : TransportMode) :
    c.subscribe delegate transportMode =
      { c with
        log := (delegate.subscribe c.clientSession transportMode).toList.map
          (fun r => .subscribe r.1 r.2) ++ c.log } := by
  unfold QController.subscribe
  cases delegate.subscribe c.clientSession transportMode with
  | none => rfl
  | some r => rfl

/-- `stopSubscription` on an unknown namespace, and on a known one. -/
theorem stopSubscription_cases (c : QController Suite Ctx Namespace) (ns : Namespace) :
    (c.quicrSubscriptionsMap.lookup ns = none ∧ c.stopSubscription ns = c) ∨
    ∃ delegate, c.quicrSubscriptionsMap.lookup ns = some delegate ∧ c.stopSubscription ns =
      { c with
        quicrSubscriptionsMap := c.quicrSubscriptionsMap.erase ns
        log := (delegate.unsubscribe c.clientSession).toList.map
          (fun r => .unsubscribe r.1 r.2) ++ c.log } := by
  unfold stopSubscription
  cases hl : c.quicrSubscriptionsMap.lookup ns with
  | none => exact Or.inl ⟨rfl, rfl⟩
  | some delegate =>
      refine Or.inr ⟨delegate, rfl, ?_⟩
      simp only
      cases delegate.unsubscribe c.clientSession with
      | none => rfl
      | some r => rfl

/-- `setSubscriptionState` on an unknown namespace, and on a known one. -/
theorem setSubscriptionState_cases (c : QController Suite Ctx Namespace) (ns : Namespace)
    (transportMode : TransportMode) :
    (c.quicrSubscriptionsMap.lookup ns = none ∧ c.setSubscriptionState ns transportMode = c) ∨
    ∃ delegate, c.quicrSubscriptionsMap.lookup ns = some delegate ∧
      c.setSubscriptionState ns transportMode = c.subscribe delegate transportMode := by
  unfold setSubscriptionState
  cases hl : c.quicrSubscriptionsMap.lookup ns with
  | none => exact Or.inl ⟨rfl, rfl⟩
  | some delegate => exact Or.inr ⟨delegate, rfl, rfl⟩

/-! ## Publications -/

/-- `setPublicationState` on an unknown namespace, and on a known one. -/
theorem setPublicationState_cases (c : QController Suite Ctx Namespace) (ns : Namespace)
    (state : PublicationState) :
    (c.quicrPublicationsMap.lookup ns = none ∧ c.setPublicationState ns state = c) ∨
    ∃ publication, c.quicrPublicationsMap.lookup ns = some publication ∧
      c.setPublicationState ns state =
        { c with
          quicrPublicationsMap :=
            c.quicrPublicationsMap.insert ns { publication with state := state } } := by
  unfold setPublicationState
  cases hl : c.quicrPublicationsMap.lookup ns with
  | none => exact Or.inl ⟨rfl, rfl⟩
  | some publication => exact Or.inr ⟨publication, rfl, rfl⟩

section Publishing

variable (L : Libs Suite Ctx Namespace)

/-- A call for a namespace that is unknown or paused does nothing. -/
theorem publishNamedObject_skipped (c : QController Suite Ctx Namespace) (ns : Namespace)
    (data : Bytes) (groupFlag : Bool) (startTime : ℕ)
    (h : ∀ publication, c.quicrPublicationsMap.lookup ns = some publication →
      publication.state = .paused) :
    c.publishNamedObject L ns data groupFlag startTime = (.ok ⟨none, none⟩, c) := by
  unfold QController.publishNamedObject
  cases hl : c.quicrPublicationsMap.lookup ns with
  | none => rfl
  | some publication =>
      simp only
      rw [if_pos (h publication hl)]

/-- A call for an active namespace is a call on its delegate, and nothing but objects goes
to the session. -/
theorem publishNamedObject_active (c : QController Suite Ctx Namespace) {ns : Namespace}
    (data : Bytes) (groupFlag : Bool) (startTime : ℕ)
    {publication : PublicationDetails Suite Ctx Namespace}
    (hl : c.quicrPublicationsMap.lookup ns = some publication)
    (ha : publication.state ≠ .paused) :
    (c.publishNamedObject L ns data groupFlag startTime).1 =
        (publication.delegate.publishNamedObject L c.clientSession.isSome data groupFlag
          (startTrace startTime)).1 ∧
      ∃ es, (∀ e ∈ es, ∃ session object, e = .publishNamedObject session object) ∧
        (c.publishNamedObject L ns data groupFlag startTime).2 =
        { c with
          quicrPublicationsMap := c.quicrPublicationsMap.insert ns
            { publication with
              delegate := (publication.delegate.publishNamedObject L c.clientSession.isSome data
                groupFlag (startTrace startTime)).2 }
          log := es ++ c.log } := by
  unfold QController.publishNamedObject
  simp only [hl]
  rw [if_neg ha]
  split
  · exact ⟨rfl, [_], by simp, rfl⟩
  · exact ⟨rfl, [], by simp, rfl⟩

/-- **Publishing.** A call does nothing, or it is a call on the delegate of an active
publication. -/
theorem publishNamedObject_cases (c : QController Suite Ctx Namespace) (ns : Namespace)
    (data : Bytes) (groupFlag : Bool) (startTime : ℕ) :
    c.publishNamedObject L ns data groupFlag startTime = (.ok ⟨none, none⟩, c) ∨
    ∃ publication es, (∀ e ∈ es, ∃ session object, e = .publishNamedObject session object) ∧
      c.quicrPublicationsMap.lookup ns = some publication ∧
      (c.publishNamedObject L ns data groupFlag startTime).1 =
        (publication.delegate.publishNamedObject L c.clientSession.isSome data groupFlag
          (startTrace startTime)).1 ∧
      (c.publishNamedObject L ns data groupFlag startTime).2 =
        { c with
          quicrPublicationsMap := c.quicrPublicationsMap.insert ns
            { publication with
              delegate := (publication.delegate.publishNamedObject L c.clientSession.isSome data
                groupFlag (startTrace startTime)).2 }
          log := es ++ c.log } := by
  by_cases hskip : ∀ publication, c.quicrPublicationsMap.lookup ns = some publication →
      publication.state = .paused
  · exact Or.inl (publishNamedObject_skipped L c ns data groupFlag startTime hskip)
  · simp only [not_forall] at hskip
    obtain ⟨publication, hl, ha⟩ := hskip
    obtain ⟨heffect, es, hes, hnext⟩ :=
      publishNamedObject_active L c data groupFlag startTime hl ha
    exact Or.inr ⟨publication, es, hes, hl, heffect, hnext⟩

/-- Only the registry of publications changes. -/
theorem publishNamedObject_frame (c : QController Suite Ctx Namespace) (ns : Namespace)
    (data : Bytes) (groupFlag : Bool) (startTime : ℕ) :
    ∃ m es, (∀ e ∈ es, ∃ session object, e = .publishNamedObject session object) ∧
      (c.publishNamedObject L ns data groupFlag startTime).2 =
        { c with quicrPublicationsMap := m, log := es ++ c.log } := by
  rcases publishNamedObject_cases L c ns data groupFlag startTime with
    hskip | ⟨publication, es, hes, -, -, hnext⟩
  · exact ⟨c.quicrPublicationsMap, [], by simp, by rw [hskip]; rfl⟩
  · exact ⟨_, es, hes, hnext⟩

end Publishing

end Qmedia.Analysis
