import Qmedia.Analysis.AllocatedDelegates
import Qmedia.Analysis.SubscribedRegistry

/-!
# The bookkeeping of subscriptions

Two maps are kept of subscriptions: the application's delegates by source id, and the
controller's delegates by namespace. Every entry of the second is keyed by its namespace
and forwards to the object that the first holds for its source (`Bookkept`), in every
state the public calls reach. So every registered namespace is listed under exactly one
switching set (`reachable_bookkept`).
-/

set_option autoImplicit false

namespace Qmedia.Analysis

open Qmedia.Library Qmedia.Model Qmedia.Model.QController

variable {Suite Ctx Namespace : Type} [DecidableEq Namespace]

/-- Every registered delegate is keyed by its namespace, and the application's delegate it
forwards to is the one stored for its source. -/
def Bookkept (c : QController Suite Ctx Namespace) : Prop :=
  ∀ ns delegate, c.quicrSubscriptionsMap.lookup ns = some delegate →
    delegate.quicrNamespace = ns ∧
      c.qSubscriptionsMap.lookup delegate.sourceId = some (some delegate.qDelegate)

/-- What the registered delegates rely on stays, if none is added. -/
theorem Bookkept.mono {c c' : QController Suite Ctx Namespace} (h : Bookkept c)
    (hregistered : ∀ ns delegate, c'.quicrSubscriptionsMap.lookup ns = some delegate →
      c.quicrSubscriptionsMap.lookup ns = some delegate)
    (hstored : ∀ sourceId qDelegate, c.qSubscriptionsMap.lookup sourceId = some (some qDelegate) →
      c'.qSubscriptionsMap.lookup sourceId = some (some qDelegate)) : Bookkept c' := by
  intro ns delegate hl
  obtain ⟨hns, hdelegate⟩ := h ns delegate (hregistered ns delegate hl)
  exact ⟨hns, hstored _ _ hdelegate⟩

/-- The bookkeeping is about two maps. -/
theorem Bookkept.of_eq {c c' : QController Suite Ctx Namespace} (h : Bookkept c)
    (hregistered : c'.quicrSubscriptionsMap = c.quicrSubscriptionsMap)
    (hstored : c'.qSubscriptionsMap = c.qSubscriptionsMap) : Bookkept c' := by
  refine h.mono ?_ ?_
  · intro ns delegate hl
    rw [hregistered] at hl
    exact hl
  · intro sourceId qDelegate hl
    rw [hstored]
    exact hl

/-- Calls of the application leave it alone. -/
theorem Bookkept.withCalls {c : QController Suite Ctx Namespace} (h : Bookkept c)
    (es : List (Event Namespace)) : Bookkept (withCalls c es) := h

section Steps

variable (env : Environment Namespace) (L : Libs Suite Ctx Namespace)

/-- Starting a subscription for a source with the delegate that is stored for it. -/
theorem Bookkept.startSubscription {c : QController Suite Ctx Namespace} (h : Bookkept c)
    {qDelegate : Ref} {sourceId : SourceId}
    (hstored : c.qSubscriptionsMap.lookup sourceId = some (some qDelegate)) (ns : Namespace)
    (intent : SubscribeIntent) (originUrl : String) (transportMode : TransportMode)
    (authToken : String) (e2eToken : Bytes) :
    Bookkept (c.startSubscription env L qDelegate sourceId ns intent originUrl transportMode
      authToken e2eToken).2 := by
  unfold QController.startSubscription findQuicrSubscriptionDelegate
    createQuicrSubscriptionDelegate
  cases hl : c.quicrSubscriptionsMap.lookup ns with
  | some delegate =>
      exact h.of_eq (subscribe_map c delegate transportMode)
        (subscribe_keepsAllocations c delegate transportMode).qSubscriptionsMap_eq
  | none =>
      have hcreated : Bookkept { c with
          quicrSubscriptionsMap := c.quicrSubscriptionsMap.insert ns
            (SubscriptionDelegate.create L.toSFrame sourceId ns intent originUrl authToken e2eToken
              qDelegate c.cipherSuite (env.uninitialised c.log)) } := by
        intro ns' delegate hl'
        by_cases hns : ns' = ns
        · subst hns
          simp only [AList.lookup_insert] at hl'
          cases hl'
          exact ⟨rfl, hstored⟩
        · simp only [AList.lookup_insert_ne hns] at hl'
          exact h ns' delegate hl'
      exact hcreated.of_eq (subscribe_map _ _ transportMode)
        (subscribe_keepsAllocations _ _ transportMode).qSubscriptionsMap_eq

/-- The profiles of a stream whose delegate is stored keep it. -/
theorem Bookkept.startSubscriptions {c : QController Suite Ctx Namespace} (h : Bookkept c)
    {qDelegate : Ref} {sourceId : SourceId}
    (hstored : c.qSubscriptionsMap.lookup sourceId = some (some qDelegate))
    (transportMode : TransportMode) (profiles : List (Profile Namespace)) :
    Bookkept (c.startSubscriptions env L qDelegate sourceId transportMode profiles) := by
  induction profiles generalizing c with
  | nil => exact h
  | cons profile profiles ih =>
      have hone := h.startSubscription env L hstored profile.quicrNamespace .syncUp ""
        transportMode "" []
      have hkeeps := startSubscription_keepsAllocations env L c qDelegate sourceId
        profile.quicrNamespace .syncUp "" transportMode "" []
      unfold QController.startSubscriptions
      simp only
      split
      · exact hone
      · apply ih hone
        rw [hkeeps.qSubscriptionsMap_eq]
        exact hstored

/-- Finding or allocating a delegate keeps the ones that are stored. -/
theorem Bookkept.getSubscriptionDelegate {c : QController Suite Ctx Namespace} (h : Bookkept c)
    (sourceId : SourceId) (profileSet : ProfileSet Namespace) :
    Bookkept (c.getSubscriptionDelegate env sourceId profileSet).2 := by
  refine h.mono ?_ ?_
  · intro ns delegate hl
    obtain ⟨m, es, -, heq⟩ := getSubscriptionDelegate_consulted env c sourceId profileSet
    rw [heq] at hl
    exact hl
  · intro sourceId' qDelegate hl
    exact (getSubscriptionDelegate_findOrAllocate env c sourceId profileSet).table_of_some hl

/-- **One stream.** Its profiles are started with the delegate that is then stored for its
source. -/
theorem Bookkept.processSubscription {c : QController Suite Ctx Namespace} (h : Bookkept c)
    (stream : MediaStream Namespace) : Bookkept (c.processSubscription env L stream).2 := by
  have hfind := getSubscriptionDelegate_findOrAllocate env c stream.sourceId stream.profileSet
  have hgiven := h.getSubscriptionDelegate env stream.sourceId stream.profileSet
  obtain ⟨es, -, hcases⟩ := processSubscription_given env L c stream
  rcases hcases with ⟨-, heq⟩ | ⟨-, delegate, transportMode, hdelegate, heq⟩
  · rw [heq]
    exact hgiven.withCalls es
  · rw [heq]
    rw [hdelegate] at hfind
    exact (hgiven.withCalls es).startSubscriptions env L hfind.table_self transportMode _

/-- The publications half leaves both maps alone. -/
theorem Bookkept.updateManifest {c : QController Suite Ctx Namespace} (h : Bookkept c)
    (m : Manifest Namespace) : Bookkept (c.updateManifest env L m) := by
  refine processPublications_invariant env L Bookkept m.publications (fun c' s p _ _ h' => ?_) _ ?_
  · rcases processProfile_cases env L c' s p with
      ⟨_, _, -, heq, -⟩ | ⟨_, _, _, _, _, _, _, -, -, -, -, -, heq⟩
    · rw [heq]
      exact h'
    · rw [heq]
      exact h'
  · exact finalState_invariant (QController.processSubscription env L) Bookkept m.subscriptions
      (fun _ stream _ hc => hc.processSubscription env L stream) c h

/-- Stopping a subscription keeps it. -/
theorem Bookkept.stopSubscription {c : QController Suite Ctx Namespace} (h : Bookkept c)
    (ns : Namespace) : Bookkept (c.stopSubscription ns) := by
  have hkeeps := stopSubscription_keepsAllocations c ns
  refine h.mono (fun _ _ hl => lookup_of_stopSubscription hl) ?_
  intro sourceId qDelegate hl
  rw [hkeeps.qSubscriptionsMap_eq]
  exact hl

/-- **Step.** Every call keeps the books. -/
theorem Bookkept.controllerStep {c : QController Suite Ctx Namespace} (h : Bookkept c)
    (op : ControllerOp Namespace) : Bookkept (controllerStep env L c op).2 := by
  have hquiet {op : ControllerOp Namespace} (hop : ∀ m, op ≠ .updateManifest m)
      (hmap : (Model.controllerStep env L c op).2.quicrSubscriptionsMap =
        c.quicrSubscriptionsMap) : Bookkept (Model.controllerStep env L c op).2 :=
    h.of_eq hmap (controllerStep_keepsAllocations env L c hop).qSubscriptionsMap_eq
  cases op with
  | updateManifest m => exact h.updateManifest env L m
  | stopSubscription ns => exact h.stopSubscription ns
  | disconnect => exact hquiet nofun (disconnect_quiet c).map_eq
  | publishNamedObject ns data groupFlag startTime =>
      exact hquiet nofun (publishNamedObject_quiet L c ns data groupFlag startTime).map_eq
  | setPublicationState ns state => exact hquiet nofun (setPublicationState_quiet c ns state).map_eq
  | setSubscriptionState ns transportMode =>
      refine hquiet nofun ?_
      show (c.setSubscriptionState ns transportMode).quicrSubscriptionsMap = _
      rcases setSubscriptionState_cases c ns transportMode with ⟨-, heq⟩ | ⟨delegate, -, heq⟩
      · rw [heq]
      · rw [heq, subscribe_map]
  | connect config =>
      obtain ⟨success, heq⟩ := connect_eq env c config
      refine hquiet nofun ?_
      show (c.connect env config).2.quicrSubscriptionsMap = _
      rw [heq]
  | _ => exact h

end Steps

/-! ## Switching sets -/

/-- A namespace is listed under at most one source. -/
theorem disjoint_getSubscriptions (c : QController Suite Ctx Namespace) {s t : SourceId}
    (hst : s ≠ t) : (c.getSubscriptions s).Disjoint (c.getSubscriptions t) := by
  intro ns hs ht
  rw [mem_getSubscriptions] at hs ht
  rw [hs] at ht
  exact hst (Option.some.inj ht)

omit [DecidableEq Namespace] in
/-- No namespace is listed twice. -/
theorem nodup_getSubscriptions (c : QController Suite Ctx Namespace) (s : SourceId) :
    (c.getSubscriptions s).Nodup := by
  have hkeys : c.quicrSubscriptionsMap.keys.Nodup := c.quicrSubscriptionsMap.keys_nodup
  exact hkeys.sublist (List.filter_sublist.map Sigma.fst)

/-- If the books are kept, the lists of the switching sets are a partition of the
registered namespaces. -/
theorem Bookkept.getSubscriptions_perm {c : QController Suite Ctx Namespace} (h : Bookkept c) :
    (c.getSwitchingSets.flatMap c.getSubscriptions).Perm c.quicrSubscriptionsMap.keys := by
  have hsets : c.getSwitchingSets.Nodup := c.qSubscriptionsMap.keys_nodup
  refine (List.perm_ext_iff_of_nodup ?_ c.quicrSubscriptionsMap.keys_nodup).mpr fun ns => ?_
  · refine List.nodup_flatMap.mpr ⟨fun s _ => nodup_getSubscriptions c s, ?_⟩
    exact hsets.imp fun hst => disjoint_getSubscriptions c hst
  · rw [List.mem_flatMap]
    constructor
    · rintro ⟨s, -, hns⟩
      obtain ⟨delegate, hl, -⟩ := Option.map_eq_some_iff.mp ((mem_getSubscriptions c s ns).mp hns)
      exact mem_of_lookup hl
    · intro hns
      obtain ⟨delegate, hl⟩ := Option.isSome_iff_exists.mp (AList.lookup_isSome.mpr hns)
      have hstored := (h ns delegate hl).2
      refine ⟨delegate.sourceId, AList.lookup_isSome.mp (by rw [hstored]; rfl), ?_⟩
      rw [mem_getSubscriptions]
      unfold owner
      rw [hl]
      rfl

/-- **Bookkeeping.** In every state that the public calls reach, whatever the application
answers: every registered delegate is keyed by its namespace and forwards to the object
that is stored for its source; and the namespaces listed for the switching sets are
pairwise disjoint and together the registered namespaces, each once.
SOURCE: src/QController.cpp:183-212, src/QController.cpp:264-280,
src/QController.cpp:391-436, src/QController.cpp:504-524 -/
theorem reachable_bookkept (env : Environment Namespace) (L : Libs Suite Ctx Namespace)
    {c : QController Suite Ctx Namespace} (hreach : Reachable env L c) :
    (∀ ns delegate, c.quicrSubscriptionsMap.lookup ns = some delegate →
      delegate.quicrNamespace = ns ∧ delegate.sourceId ∈ c.qSubscriptionsMap ∧
        c.qSubscriptionsMap.lookup delegate.sourceId = some (some delegate.qDelegate)) ∧
      c.getSwitchingSets.Pairwise
        (fun s t => (c.getSubscriptions s).Disjoint (c.getSubscriptions t)) ∧
      (c.getSwitchingSets.flatMap c.getSubscriptions).Perm c.quicrSubscriptionsMap.keys ∧
      c.quicrSubscriptionsMap.keys.Nodup := by
  have hbooks : Bookkept c := by
    refine reachable_invariant Bookkept (fun _ _ _ _ _ c₀ hc₀ => ?_)
      (fun c op h => h.controllerStep env L op) hreach
    obtain rfl := create_ok hc₀
    exact nofun
  have hsets : c.getSwitchingSets.Nodup := c.qSubscriptionsMap.keys_nodup
  refine ⟨fun ns delegate hl => ?_, hsets.imp fun hst => disjoint_getSubscriptions c hst,
    hbooks.getSubscriptions_perm, c.quicrSubscriptionsMap.keys_nodup⟩
  obtain ⟨hns, hstored⟩ := hbooks ns delegate hl
  exact ⟨hns, AList.lookup_isSome.mp (by rw [hstored]; rfl), hstored⟩

/-- A controller that has subscribed to a camera. -/
theorem reachable_bookkept_camera :
    (∀ ns delegate, (subscribedToA (takesAll true)).quicrSubscriptionsMap.lookup ns =
        some delegate →
      delegate.quicrNamespace = ns ∧
        delegate.sourceId ∈ (subscribedToA (takesAll true)).qSubscriptionsMap ∧
        (subscribedToA (takesAll true)).qSubscriptionsMap.lookup delegate.sourceId =
          some (some delegate.qDelegate)) ∧
      (subscribedToA (takesAll true)).getSwitchingSets.Pairwise
        (fun s t => ((subscribedToA (takesAll true)).getSubscriptions s).Disjoint
          ((subscribedToA (takesAll true)).getSubscriptions t)) ∧
      ((subscribedToA (takesAll true)).getSwitchingSets.flatMap
          (subscribedToA (takesAll true)).getSubscriptions).Perm
        (subscribedToA (takesAll true)).quicrSubscriptionsMap.keys ∧
      (subscribedToA (takesAll true)).quicrSubscriptionsMap.keys.Nodup :=
  reachable_bookkept (takesAll true) referenceLibs
    ⟨some 1, some 1, false, false, none, newController none, _, create_newController none, rfl⟩

end Qmedia.Analysis
