import Qmedia.Analysis.SubscribedRegistry
import Qmedia.Analysis.UninterruptedCalls

/-!
# Subscriptions of a controller called from one thread

A call that nothing interrupts is a run of one client of the registry. So a controller
called from one thread has in the map whatever is subscribed on its live session
(`reachable_tidy`); and as long as its first session is its only one, it has subscribed
there whatever is in the map (`settledOn_first_session`).
-/

set_option autoImplicit false

namespace Qmedia.Analysis

open Qmedia.Library Qmedia.Model Qmedia.Model.QController

variable {Suite Ctx Namespace : Type} [DecidableEq Namespace]

/-! ## Nothing is subscribed that is not in the map -/

/-- A controller between two calls: every session it has had is below its counter, and
what is subscribed on the live session is registered. -/
structure Tidy (c : QController Suite Ctx Namespace) : Prop where
  keyed : Keyed c
  live_lt : ∀ session, c.clientSession = some session → session < c.sessions
  fresh : ∀ session ns, c.sessions ≤ session → subscribedOn session ns c.log = false
  active_registered : ∀ session, c.clientSession = some session →
    (view session c).active ⊆ (view session c).registered

/-- An effect that keeps the subscribed namespaces of the live session registered. -/
theorem Tidy.effect {c c' : QController Suite Ctx Namespace} (h : Tidy c) (heffect : Effect c c')
    (hactive : ∀ session, c.clientSession = some session →
      (view session c').active ⊆ (view session c').registered) : Tidy c' where
  keyed := heffect.keyed h.keyed
  live_lt session hlive := by
    rw [heffect.clientSession_eq] at hlive
    rw [heffect.sessions_eq]
    exact h.live_lt session hlive
  fresh session ns hle := by
    rw [heffect.sessions_eq] at hle
    rw [heffect.subscribedOn_eq (fun hlive => (h.live_lt session hlive).not_ge hle) ns]
    exact h.fresh session ns hle
  active_registered session hlive := by
    rw [heffect.clientSession_eq] at hlive
    exact hactive session hlive

/-- A step without requests keeps a controller tidy. -/
theorem Tidy.quiet {c c' : QController Suite Ctx Namespace} (h : Tidy c) (hquiet : Quiet c c') :
    Tidy c' := by
  refine h.effect (.quiet hquiet) ?_
  intro session hlive
  rw [hquiet.view_eq]
  exact h.active_registered session hlive

section Sequential

variable (env : Environment Namespace) (L : Libs Suite Ctx Namespace)

/-- A task's step on a tidy controller, if what the task remembers is true. -/
theorem Tidy.taskStep {c : QController Suite Ctx Namespace} (h : Tidy c)
    {t : Task Suite Ctx Namespace} (ht : ∀ session, c.clientSession = some session →
      Registry.Remembers (view session c) (phase t)) : Tidy (taskStep env L c t).2.1 :=
  h.effect (taskStep_effect env L c t) fun session hlive =>
    (taskStep_refines env L h.keyed hlive t).active_registered (ht session hlive)
      (h.active_registered session hlive)

/-- A manifest keeps a controller tidy. -/
theorem Tidy.updateManifest {c : QController Suite Ctx Namespace} (h : Tidy c)
    (m : Manifest Namespace) : Tidy (c.updateManifest env L m) := by
  refine ((updateManifest_alone env L c m).invariant
    (fun x => Tidy x.1 ∧ ∀ session, x.1.clientSession = some session →
      Registry.Remembers (view session x.1) (phase x.2)) ?_ ⟨h, fun _ _ => trivial⟩).1
  rintro ⟨c, t⟩ ⟨hc, ht⟩
  refine ⟨hc.taskStep env L ht, ?_⟩
  intro session hlive
  have heq : (Model.taskStep env L c t).2.1.clientSession = c.clientSession :=
    (taskStep_effect env L c t).clientSession_eq
  exact (taskStep_refines env L hc.keyed (heq.symm.trans hlive) t).remembers

/-- A new session starts without requests. -/
theorem Tidy.connect {c : QController Suite Ctx Namespace} (h : Tidy c) (config : RelayConfig) :
    Tidy (c.connect env config).2 := by
  obtain ⟨success, heq⟩ := connect_eq env c config
  have hfresh (session : Session) (ns : Namespace) (hle : c.sessions ≤ session) :
      subscribedOn session ns (c.connect env config).2.log = false := by
    rw [heq]
    exact h.fresh session ns hle
  refine ⟨?_, ?_, ?_, ?_⟩
  · unfold Keyed
    rw [heq]
    exact h.keyed
  · intro session hlive
    rw [heq] at hlive ⊢
    cases hlive
    exact Nat.lt_succ_self _
  · intro session ns hle
    rw [heq] at hle
    exact hfresh session ns (Nat.le_of_succ_le hle)
  · intro session hlive ns hns
    rw [heq] at hlive
    cases hlive
    have hnone : subscribedOn c.sessions ns (c.connect env config).2.log = true := hns
    rw [hfresh _ ns le_rfl] at hnone
    cases hnone

/-- Pausing and resuming keep a controller tidy. -/
theorem Tidy.setSubscriptionState {c : QController Suite Ctx Namespace} (h : Tidy c)
    (ns : Namespace) (transportMode : TransportMode) :
    Tidy (c.setSubscriptionState ns transportMode) := by
  rcases setSubscriptionState_cases c ns transportMode with ⟨-, heq⟩ | ⟨subDelegate, hl, heq⟩
  · rw [heq]
    exact h
  · rw [heq]
    refine h.effect (.subscribe subDelegate transportMode) ?_
    intro session hlive
    rw [view_subscribe hlive]
    refine Set.insert_subset ?_ (h.active_registered session hlive)
    rw [h.keyed ns subDelegate hl]
    exact mem_of_lookup hl

/-- One call keeps a controller tidy. -/
theorem Tidy.controllerStep {c : QController Suite Ctx Namespace} (h : Tidy c)
    (op : ControllerOp Namespace) : Tidy (controllerStep env L c op).2 := by
  cases op with
  | connect config => exact h.connect env config
  | disconnect => exact h.quiet (disconnect_quiet c)
  | updateManifest m => exact h.updateManifest env L m
  | publishNamedObject ns data groupFlag startTime =>
      exact h.quiet (publishNamedObject_quiet L c ns data groupFlag startTime)
  | stopSubscription ns => exact h.taskStep env L (t := .stopping ns) fun _ _ => trivial
  | setPublicationState ns state => exact h.quiet (setPublicationState_quiet c ns state)
  | setSubscriptionState ns transportMode => exact h.setSubscriptionState ns transportMode
  | setSubscriptionSingleOrdered newValue => exact h.quiet ⟨rfl, rfl, rfl, fun _ _ => rfl⟩
  | setPublicationSingleOrdered newValue => exact h.quiet ⟨rfl, rfl, rfl, fun _ _ => rfl⟩
  | _ => exact h

/-- **No lost subscription.** Of a controller that is called from one thread, every
namespace subscribed on the live session is in the map, where `stopSubscription` finds
it. -/
theorem reachable_tidy {c : QController Suite Ctx Namespace} (h : Reachable env L c) :
    Tidy c := by
  refine reachable_invariant Tidy (fun _ _ _ _ _ c₀ hc₀ => ?_)
    (fun c op h => h.controllerStep env L op) h
  obtain rfl := create_ok hc₀
  exact ⟨nofun, nofun, fun _ _ _ => rfl, nofun⟩

/-! ## Everything in the map is subscribed -/

/-- The controller has subscribed on the session whatever is in its map. -/
structure SettledOn (session : Session) (c : QController Suite Ctx Namespace) : Prop where
  live : c.clientSession = some session
  keyed : Keyed c
  held : ∀ ns ∈ c.quicrSubscriptionsMap, subscribedOn session ns c.log

/-- A step without requests keeps a controller settled. -/
theorem SettledOn.quiet {session : Session} {c c' : QController Suite Ctx Namespace}
    (h : SettledOn session c) (hquiet : Quiet c c') : SettledOn session c' where
  live := hquiet.clientSession_eq.trans h.live
  keyed := Effect.keyed (.quiet hquiet) h.keyed
  held ns hns := by
    rw [hquiet.map_eq] at hns
    rw [hquiet.subscribedOn_eq]
    exact h.held ns hns

/-- A task that runs to its end without interruption subscribes what it has registered. -/
theorem SettledOn.alone {session : Session} {c c' : QController Suite Ctx Namespace}
    {t t' : Task Suite Ctx Namespace} (h : SettledOn session c)
    (halone : Alone (taskStep env L) (c, t) (c', t')) (ht' : phase t' = .idle) :
    SettledOn session c' := by
  have hrun := halone.invariant
    (fun x => x.1.clientSession = some session ∧ Keyed x.1 ∧
      ∀ ns ∈ (view session x.1).registered,
        ns ∈ (view session x.1).active ∨ phase x.2 = .holds ns) ?_
    ⟨h.live, h.keyed, fun ns hns => Or.inl (h.held ns hns)⟩
  · obtain ⟨hlive, hkeyed, hheld⟩ := hrun
    refine ⟨hlive, hkeyed, ?_⟩
    intro ns hns
    rcases hheld ns hns with hactive | hholds
    · exact hactive
    · rw [ht'] at hholds
      cases hholds
  · rintro ⟨c, t⟩ ⟨hlive, hkeyed, hheld⟩
    have heffect := taskStep_effect env L c t
    refine ⟨heffect.clientSession_eq.trans hlive, heffect.keyed hkeyed, ?_⟩
    intro ns hns
    rcases (taskStep_refines env L hkeyed hlive t).accounted hns with hown | ⟨hold, hown, hkeep⟩
    · exact Or.inr hown
    · rcases hheld ns hold with hactive | hholds
      · exact Or.inl (hkeep hactive)
      · exact Or.inl (hown hholds)

/-- Pausing and resuming keep a controller settled. -/
theorem SettledOn.setSubscriptionState {session : Session} {c : QController Suite Ctx Namespace}
    (h : SettledOn session c) (ns : Namespace) (transportMode : TransportMode) :
    SettledOn session (c.setSubscriptionState ns transportMode) := by
  rcases setSubscriptionState_cases c ns transportMode with ⟨-, heq⟩ | ⟨subDelegate, -, heq⟩
  · rw [heq]
    exact h
  · rw [heq]
    have heffect : Effect c (c.subscribe subDelegate transportMode) := .subscribe ..
    have hview := view_subscribe h.live subDelegate transportMode
    refine ⟨heffect.clientSession_eq.trans h.live, heffect.keyed h.keyed, ?_⟩
    intro ns' hns'
    have hregistered : ns' ∈ (view session c).registered := by
      have hmem : ns' ∈ (view session (c.subscribe subDelegate transportMode)).registered := hns'
      rw [hview] at hmem
      exact hmem
    have hactive : ns' ∈ (view session (c.subscribe subDelegate transportMode)).active := by
      rw [hview]
      exact Set.mem_insert_of_mem _ (h.held ns' hregistered)
    exact hactive

/-- One call on the session. -/
theorem SettledOn.controllerStep {session : Session} {c : QController Suite Ctx Namespace}
    (h : SettledOn session c) {op : ControllerOp Namespace}
    (hop : ∀ config, op ≠ .connect config) :
    SettledOn session (controllerStep env L c op).2 := by
  cases op with
  | connect config => exact absurd rfl (hop config)
  | disconnect => exact h.quiet (disconnect_quiet c)
  | updateManifest m => exact h.alone env L (updateManifest_alone env L c m) rfl
  | publishNamedObject ns data groupFlag startTime =>
      exact h.quiet (publishNamedObject_quiet L c ns data groupFlag startTime)
  | stopSubscription ns =>
      have halone : Alone (taskStep env L) (c, .stopping ns) (c.stopSubscription ns, .done) :=
        Alone.head (Alone.refl _)
      exact h.alone env L halone rfl
  | setPublicationState ns state => exact h.quiet (setPublicationState_quiet c ns state)
  | setSubscriptionState ns transportMode => exact h.setSubscriptionState ns transportMode
  | setSubscriptionSingleOrdered newValue => exact h.quiet ⟨rfl, rfl, rfl, fun _ _ => rfl⟩
  | setPublicationSingleOrdered newValue => exact h.quiet ⟨rfl, rfl, rfl, fun _ _ => rfl⟩
  | _ => exact h

/-- **One session.** A controller that connects once, before anything else, has subscribed
on its session whatever is in its map, in every run from one thread. -/
theorem settledOn_first_session (qSubscriberDelegate qPublisherDelegate : Option Ref)
    (logger debugging : Bool) (cipherSuite : Option Suite)
    (c₀ : QController Suite Ctx Namespace)
    (hc₀ : QController.create qSubscriberDelegate qPublisherDelegate logger debugging cipherSuite =
      .ok c₀) (config : RelayConfig) (ops : List (ControllerOp Namespace))
    (hops : ∀ op ∈ ops, ∀ config, op ≠ .connect config) :
    SettledOn 0 (finalState (Model.controllerStep env L) c₀ (.connect config :: ops)) := by
  rw [finalState_cons]
  refine finalState_invariant (Model.controllerStep env L) (SettledOn 0) ops
    (fun c op hop h => h.controllerStep env L (hops op hop)) _ ?_
  obtain ⟨success, heq⟩ := connect_eq env c₀ config
  show SettledOn 0 (c₀.connect env config).2
  rw [heq]
  obtain rfl := create_ok hc₀
  exact ⟨rfl, nofun, nofun⟩

end Sequential

end Qmedia.Analysis
