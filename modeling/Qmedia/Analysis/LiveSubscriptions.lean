import Qmedia.Analysis.SessionHistory
import Qmedia.Analysis.StartStopAgreement

/-!
# Subscriptions on the session in use

A registered namespace is requested on the session that was there when it was started, if
there was one: a manifest that is applied before `connect` registers its subscriptions
without requesting them, and a further `connect` requests none of them again. So whatever
is registered is subscribed on the session in use, in every state of a run, exactly if
each `connect` of the run is made while nothing is registered (`subscribedLive_iff`).
-/

set_option autoImplicit false

namespace Qmedia.Analysis

open Qmedia.Library Qmedia.Model Qmedia.Model.QController

variable {Suite Ctx Namespace : Type} [DecidableEq Namespace]
variable (env : Environment Namespace) (L : Libs Suite Ctx Namespace)

/-- Whatever is registered has been subscribed on the session in use, and not unsubscribed
there since. -/
def SubscribedLive (c : QController Suite Ctx Namespace) : Prop :=
  ∀ session, c.clientSession = some session →
    ∀ ns ∈ c.quicrSubscriptionsMap, subscribedOn session ns c.log = true

/-- Every `connect` of a run is made while nothing is registered. -/
def ConnectsUnregistered (c₀ : QController Suite Ctx Namespace)
    (ops : List (ControllerOp Namespace)) : Prop :=
  ∀ pre config post, ops = pre ++ .connect config :: post →
    ∀ ns, ns ∉ (finalState (controllerStep env L) c₀ pre).quicrSubscriptionsMap

/-- A call other than `connect` keeps the subscriptions of the session in use. -/
theorem SubscribedLive.controllerStep {c : QController Suite Ctx Namespace}
    (h : SubscribedLive c) (hkeyed : Keyed c) {op : ControllerOp Namespace}
    (hop : ∀ config, op ≠ .connect config) : SubscribedLive (controllerStep env L c op).2 := by
  have hsession : (Model.controllerStep env L c op).2.clientSession = c.clientSession := by
    by_cases hdisconnect : op = .disconnect
    · subst hdisconnect
      exact (disconnect_quiet c).clientSession_eq
    · exact (controllerStep_keepsSessions env L c hop hdisconnect).clientSession_eq
  intro session hlive
  have hsettled : SettledOn session c := by
    have hlive' := hsession.symm.trans hlive
    exact ⟨hlive', hkeyed, h session hlive'⟩
  exact (hsettled.controllerStep env L hop).held

/-- A `connect` requests nothing, so it must find nothing registered. -/
theorem subscribedLive_connect_iff {c : QController Suite Ctx Namespace} (htidy : Tidy c)
    (config : RelayConfig) :
    SubscribedLive (c.connect env config).2 ↔ ∀ ns, ns ∉ c.quicrSubscriptionsMap := by
  obtain ⟨success, heq⟩ := connect_eq env c config
  rw [heq]
  constructor
  · intro h ns hns
    have hsubscribed := h c.sessions rfl ns hns
    have hnone : subscribedOn c.sessions ns (.connect c.sessions config success :: c.log) = false :=
      htidy.fresh c.sessions ns le_rfl
    rw [hnone] at hsubscribed
    cases hsubscribed
  · exact fun h session _ ns hns => absurd hns (h ns)

/-- **Subscribed on the session in use.** In every run of a new controller, whatever is
registered is subscribed on the session in use in every state that is reached, exactly if
each `connect` is made while nothing is registered.
SOURCE: src/QController.cpp:57-76, src/QController.cpp:303-352 -/
theorem subscribedLive_iff {qSubscriberDelegate qPublisherDelegate : Option Ref}
    {logger debugging : Bool} {cipherSuite : Option Suite} {c₀ : QController Suite Ctx Namespace}
    (hc₀ : QController.create qSubscriberDelegate qPublisherDelegate logger debugging cipherSuite =
      .ok c₀) (ops : List (ControllerOp Namespace)) :
    (∀ pre, pre <+: ops → SubscribedLive (finalState (controllerStep env L) c₀ pre)) ↔
      ConnectsUnregistered env L c₀ ops := by
  have htidy (pre : List (ControllerOp Namespace)) :
      Tidy (finalState (controllerStep env L) c₀ pre) :=
    reachable_tidy env L ⟨_, _, _, _, _, c₀, pre, hc₀, rfl⟩
  constructor
  · rintro h pre config post rfl
    have hlive := h (pre ++ [.connect config]) ⟨post, by simp⟩
    rw [finalState_append] at hlive
    exact (subscribedLive_connect_iff env (htidy pre) config).mp hlive
  · intro h pre
    induction pre using List.reverseRecOn with
    | nil =>
        intro _ session hlive
        obtain rfl := create_ok hc₀
        cases hlive
    | append_singleton pre op ih =>
        rintro ⟨post, hops⟩
        rw [List.append_assoc, List.singleton_append] at hops
        rw [finalState_append]
        have hbefore := ih ⟨op :: post, hops⟩
        by_cases hop : ∃ config, op = .connect config
        · obtain ⟨config, rfl⟩ := hop
          exact (subscribedLive_connect_iff env (htidy pre) config).mpr
            (h pre config post hops.symm)
        · exact hbefore.controllerStep env L (htidy pre).keyed fun config hconnect =>
            hop ⟨config, hconnect⟩

/-- Connecting before the first manifest. -/
theorem subscribedLive_iff_connectFirst :
    (∀ pre, pre <+: [ControllerOp.connect localRelay, .updateManifest (subscribeCamera "A")] →
        SubscribedLive (finalState (controllerStep (takesAll true) referenceLibs)
          (newController none) pre)) ↔
      ConnectsUnregistered (takesAll true) referenceLibs (newController none)
        [.connect localRelay, .updateManifest (subscribeCamera "A")] :=
  subscribedLive_iff (takesAll true) referenceLibs (create_newController none)
    [.connect localRelay, .updateManifest (subscribeCamera "A")]

/-- A manifest before the first `connect`, and a second `connect` after one: the camera is
registered and nothing has been requested on the session in use. -/
theorem registered_not_requested :
    ¬ SubscribedLive (finalState (controllerStep (takesAll true) referenceLibs)
        (newController none : QController CipherSuite KeyRing Prefix)
        [.updateManifest (subscribeCamera "A"), .connect localRelay]) ∧
      ¬ SubscribedLive reconnectedController := by
  constructor
  · intro h
    have hcamera := h 0 (by decide +kernel) mediaNamespace (by decide +kernel)
    revert hcamera
    decide +kernel
  · intro h
    have hcamera := h 1 (by decide +kernel) mediaNamespace (by decide +kernel)
    revert hcamera
    decide +kernel

end Qmedia.Analysis
