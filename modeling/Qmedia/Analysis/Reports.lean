import Qmedia.Analysis.Announcements
import Qmedia.Analysis.SubscriberRefinement
import Qmedia.Analysis.SubscriptionOwners

/-!
# What the controller reports

`getSubscriptions` and `getPublications` read maps that manifests fill and other calls change.
Over a whole run they report its history: a namespace is a subscription of a source exactly if
a manifest has registered it for that source and it has not been stopped since
(`reported_subscription_iff`), and the state of a publication is the last one that was set for
it since the manifest that registered it (`reported_publication_iff`). Calls on other
namespaces, objects that arrive, later manifests and new sessions make no difference.
-/

set_option autoImplicit false

namespace Qmedia.Analysis

open Qmedia.Library Qmedia.Model Qmedia.Model.QController

variable {Suite Ctx Namespace : Type} [DecidableEq Namespace]
variable (env : Environment Namespace) (L : Libs Suite Ctx Namespace)

/-! ## Subscriptions -/

omit [DecidableEq Namespace] in
/-- One of the streams is of the source and lists `n`. -/
def Lists (streams : List (MediaStream Namespace)) (sourceId : SourceId) (n : Namespace) : Prop :=
  ∃ stream ∈ streams, stream.sourceId = sourceId ∧
    ∃ profile ∈ stream.profileSet.profiles, profile.quicrNamespace = n

/-- Receiving changes no source. -/
theorem sourceId_finalState (d : SubscriptionDelegate Suite Ctx Namespace)
    (objects : List Received) :
    (finalState (receiveStep L) d objects).sourceId = d.sourceId :=
  finalState_invariant (receiveStep L) (fun d' => d'.sourceId = d.sourceId) objects
    (fun d' x _ h => (receiveStep_identity L d' x).2.trans h) d rfl

/-- **Subscriptions.** In every run of calls and arrivals from a state in which `n` is not
registered, `getSubscriptions` lists `n` for a source in the end exactly if a manifest of the run
registered it for that source, when it was not registered, in a stream of that source that lists
it, and no later call has stopped it.
SOURCE: src/QController.cpp:183-212, src/QController.cpp:303-352, src/QController.cpp:514-524 -/
theorem reported_subscription_iff (c : QController Suite Ctx Namespace) (n : Namespace)
    (hfree : c.quicrSubscriptionsMap.lookup n = none) (ops : List (SessionOp Namespace))
    (sourceId : SourceId) :
    n ∈ (finalState (sessionStep env L) c ops).getSubscriptions sourceId ↔
      ∃ pre m post, ops = pre ++ .call (.updateManifest m) :: post ∧
        Lists m.subscriptions sourceId n ∧
        (finalState (sessionStep env L) c pre).quicrSubscriptionsMap.lookup n = none ∧
        n ∈ (finalState (sessionStep env L) c
          (pre ++ [.call (.updateManifest m)])).getSubscriptions sourceId ∧
        .call (.stopSubscription n) ∉ post := by
  rw [mem_getSubscriptions]
  constructor
  · intro h
    obtain ⟨d', hd', rfl⟩ := Option.map_eq_some_iff.mp h
    obtain ⟨pre, op, post, d, rfl, hpre, hopen, hasks, hpost, rfl⟩ :=
      (sessionStep_keepsSlot env L c.cipherSuite n).run_last ops c rfl hfree d' hd'
    obtain ⟨m, stream, profile, qDelegate, uninitialised, rfl, hstream, hprofile, hn, hcreate⟩ :=
      hasks
    have hsource : (finalState (receiveStep L) d (feeds (subscriberRole n) post)).sourceId =
        stream.sourceId := by
      rw [sourceId_finalState, hcreate]
      rfl
    refine ⟨pre, m, post, rfl, ⟨stream, hstream, hsource.symm, profile, hprofile, hn⟩, hpre, ?_,
      fun hstop => hpost _ hstop (subscriberRole_stop n)⟩
    rw [mem_getSubscriptions]
    unfold owner
    have hd : (finalState (sessionStep env L) c
      (pre ++ [.call (.updateManifest m)])).quicrSubscriptionsMap.lookup n = some d := hopen
    rw [hd, sourceId_finalState]
    rfl
  · rintro ⟨pre, m, post, rfl, -, -, hregistered, hstop⟩
    rw [mem_getSubscriptions] at hregistered
    obtain ⟨d, hd, rfl⟩ := Option.map_eq_some_iff.mp hregistered
    unfold owner
    rw [lookup_of_not_stopped env L c pre (.call (.updateManifest m)) hstop hd]
    exact congrArg some (sourceId_finalState L d _)

/-- A namespace that is stopped, and taken over by another source. -/
def takenOver : List (SessionOp Prefix) :=
  [.call (.connect localRelay), .call (.updateManifest (subscribeCamera "A")),
    .call (.stopSubscription mediaNamespace), .call (.updateManifest (subscribeCamera "B")),
    .arrive mediaNamespace genuineObject, .call (.updateManifest (subscribeCamera "A"))]

/-- The namespace that `"A"` gave up is reported for `"B"`. -/
theorem reported_subscription_iff_takenOver :
    mediaNamespace ∈ (finalState (sessionStep (takesAll true) referenceLibs)
      (newController none) takenOver).getSubscriptions "B" := by
  refine (reported_subscription_iff (takesAll true) referenceLibs (newController none)
    mediaNamespace rfl takenOver "B").mpr ⟨[.call (.connect localRelay),
      .call (.updateManifest (subscribeCamera "A")), .call (.stopSubscription mediaNamespace)],
      subscribeCamera "B", [.arrive mediaNamespace genuineObject,
      .call (.updateManifest (subscribeCamera "A"))], rfl, ?_, ?_, ?_, ?_⟩
  · exact ⟨camera "B", by decide +kernel, rfl, cameraProfile, by decide +kernel, rfl⟩
  · decide +kernel
  · decide +kernel
  · simp

/-! ## Publications -/

/-- What a call is to the publication of `n`. -/
def publicationRole (n : Namespace) (op : ControllerOp Namespace) :
    SlotRole (ControllerOp Namespace) :=
  match op with
  | .publishNamedObject ns _ _ _ => if ns = n then .feed op else .other
  | .setPublicationState ns _ => if ns = n then .feed op else .other
  | _ => .other

/-- No call removes a publication. -/
theorem publicationRole_ne_clear (n : Namespace) (op : ControllerOp Namespace) :
    publicationRole n op ≠ .clear := by
  unfold publicationRole
  split
  · split
    · exact nofun
    · exact nofun
  · split
    · exact nofun
    · exact nofun
  · exact nofun

/-- A call that is fed to the publication is the call itself, and not a manifest. -/
theorem eq_of_publicationRole {n : Namespace} {op fed : ControllerOp Namespace}
    (h : publicationRole n op = .feed fed) : fed = op ∧ ∀ m, op ≠ .updateManifest m := by
  unfold publicationRole at h
  split at h
  · split at h
    · cases h
      exact ⟨rfl, nofun⟩
    · cases h
  · split at h
    · cases h
      exact ⟨rfl, nofun⟩
    · cases h
  · cases h

/-- A call that is nothing to the publication of `n`. -/
theorem publisherStep_other {n : Namespace} {op : ControllerOp Namespace}
    (h : publicationRole n op = .other) (d : PublicationDetails Suite Ctx Namespace) :
    publisherStep L n d op = (none, d) := by
  unfold publicationRole at h
  cases op with
  | publishNamedObject ns data groupFlag startTime =>
      by_cases hns : ns = n
      · simp only [hns, if_true] at h
        cases h
      · exact if_neg fun hn => hns hn.1
  | setPublicationState ns state =>
      by_cases hns : ns = n
      · simp only [hns, if_true] at h
        cases h
      · exact congrArg (Prod.mk none) (if_neg hns)
  | _ => rfl

/-- A manifest asks for the publication `d` of `n`. -/
def AsksToRegister (n : Namespace) (op : ControllerOp Namespace)
    (d : PublicationDetails Suite Ctx Namespace) : Prop :=
  ∃ m, op = .updateManifest m ∧ d.state = .active ∧
    ∃ stream ∈ m.publications, ∃ profile ∈ stream.profileSet.profiles, profile.quicrNamespace = n

/-- If `n` has a publication, there is a session. -/
def PublishesOnSession (n : Namespace) (c : QController Suite Ctx Namespace) : Prop :=
  ∀ d, c.quicrPublicationsMap.lookup n = some d → c.clientSession.isSome

/-- A call that finds `n` unregistered sends nothing for it, and registers it only as a manifest
asks, on a session. -/
theorem controllerStep_asksToRegister {n : Namespace} {c : QController Suite Ctx Namespace}
    (hfree : c.quicrPublicationsMap.lookup n = none) (op : ControllerOp Namespace)
    (d : PublicationDetails Suite Ctx Namespace)
    (hd : (controllerStep env L c op).2.quicrPublicationsMap.lookup n = some d) :
    AsksToRegister n op d ∧ (controllerStep env L c op).2.clientSession.isSome := by
  rcases controllerStep_registers env L hfree op with hnone | ⟨m, rfl⟩
  · rw [hnone] at hd
    cases hd
  · change (c.updateManifest env L m).quicrPublicationsMap.lookup n = some d at hd
    rcases updateManifest_registers env L hfree m with
      hnone | ⟨stream, profile, qDelegate, time, hstream, hprofile, hn, hpublishes⟩
    · rw [hnone] at hd
      cases hd
    · obtain rfl := Option.some.inj (hpublishes.1.symm.trans hd)
      exact ⟨⟨m, rfl, rfl, stream, hstream, profile, hprofile, hn⟩, hpublishes.2⟩

/-- **Refinement.** To a controller the publication of `n` is a slot that is never cleared. -/
theorem controllerStep_keepsSlot (n : Namespace) :
    KeepsSlot (sentStep env L n) (PublishesOnSession n) (fun c => c.quicrPublicationsMap.lookup n)
      (publicationRole n) (publisherStep L n) (AsksToRegister n) where
  inv c op hc d hd := by
    cases hl : c.quicrPublicationsMap.lookup n with
    | none => exact (controllerStep_asksToRegister env L hl op d hd).2
    | some d₀ => exact (controllerStep_publisher env L n c d₀ op ⟨hl, hc d₀ hl⟩).2.2
  feed_empty c op fed _ hrole hfree := by
    refine ⟨sentStep_unregistered env L hfree op, ?_⟩
    rcases controllerStep_registers env L hfree op with hnone | ⟨m, hm⟩
    · exact hnone
    · exact absurd hm ((eq_of_publicationRole hrole).2 m)
  feed_full c op fed d hc hrole hfull := by
    obtain ⟨rfl, -⟩ := eq_of_publicationRole hrole
    obtain ⟨hsent, hpublishes⟩ := controllerStep_publisher env L n c d fed ⟨hfull, hc d hfull⟩
    exact ⟨hsent, hpublishes.1⟩
  clear c op _ hrole := absurd hrole (publicationRole_ne_clear n op)
  other_empty c op _ _ hfree :=
    ⟨sentStep_unregistered env L hfree op,
      fun d hd => (controllerStep_asksToRegister env L hfree op d hd).1⟩
  other_full c op d hc hrole hfull := by
    obtain ⟨hsent, hpublishes⟩ := controllerStep_publisher env L n c d op ⟨hfull, hc d hfull⟩
    rw [publisherStep_other L hrole] at hsent hpublishes
    exact ⟨hsent, hpublishes.1⟩

/-- The state that a call sets for `n`. -/
def stateSet (n : Namespace) : ControllerOp Namespace → Option PublicationState
  | .setPublicationState ns state => if ns = n then some state else none
  | _ => none

/-- The states that the calls set for `n`, in order. -/
def statesSet (n : Namespace) (ops : List (ControllerOp Namespace)) : List PublicationState :=
  ops.filterMap (stateSet n)

/-- The state of a publication is the one last set. -/
theorem publisherStep_state (n : Namespace) (d : PublicationDetails Suite Ctx Namespace)
    (op : ControllerOp Namespace) :
    (publisherStep L n d op).2.state = (stateSet n op).getD d.state := by
  unfold publisherStep stateSet
  cases op with
  | publishNamedObject ns data groupFlag startTime =>
      simp only
      split
      · rfl
      · rfl
  | setPublicationState ns state =>
      by_cases hns : ns = n
      · simp only [hns, if_true]
        rfl
      · simp only [hns, if_false]
        rfl
  | _ => rfl

/-- A publication is in the state that was set last. -/
theorem finalState_publisherStep_state (n : Namespace) (ops : List (ControllerOp Namespace))
    (d : PublicationDetails Suite Ctx Namespace) :
    (finalState (publisherStep L n) d (feeds (publicationRole n) ops)).state =
      (statesSet n ops).getLastD d.state := by
  induction ops generalizing d with
  | nil => rfl
  | cons op ops ih =>
      have hset : (statesSet n (op :: ops)).getLastD d.state =
          (statesSet n ops).getLastD (publisherStep L n d op).2.state := by
        rw [publisherStep_state]
        unfold statesSet
        rw [List.filterMap_cons]
        cases stateSet n op with
        | none => rfl
        | some state => exact List.getLastD_cons
      rw [hset]
      cases hrole : publicationRole n op with
      | feed fed =>
          obtain ⟨rfl, -⟩ := eq_of_publicationRole hrole
          rw [feeds_cons_feed hrole]
          exact ih _
      | clear => exact absurd hrole (publicationRole_ne_clear n op)
      | other =>
          rw [feeds_cons_other hrole, publisherStep_other L hrole]
          exact ih d

omit [DecidableEq Namespace] in
/-- `getPublications` lists what is registered, with its state. -/
theorem mem_getPublications [DecidableEq Namespace] (c : QController Suite Ctx Namespace)
    (n : Namespace) (state : PublicationState) :
    ⟨state, n⟩ ∈ c.getPublications ↔
      ∃ d, c.quicrPublicationsMap.lookup n = some d ∧ d.state = state := by
  unfold getPublications
  rw [List.mem_map]
  constructor
  · rintro ⟨⟨ns, d⟩, hmem, heq⟩
    obtain ⟨rfl, rfl⟩ := PublicationReport.mk.inj heq
    exact ⟨d, AList.mem_lookup_iff.mpr hmem, rfl⟩
  · rintro ⟨d, hl, rfl⟩
    exact ⟨⟨n, d⟩, AList.mem_lookup_iff.mp hl, rfl⟩

/-- **Publications.** In every run of a new controller `getPublications` lists each namespace at
most once, and it lists `n` with a state exactly if a manifest of the run registered `n`, listing
it, and the state is the last one that was set for `n` after that, or active.
SOURCE: src/QController.cpp:224-258, src/QController.cpp:526-549 -/
theorem reported_publication_iff {qSubscriberDelegate qPublisherDelegate : Option Ref}
    {logger debugging : Bool} {cipherSuite : Option Suite} {c₀ : QController Suite Ctx Namespace}
    (hc₀ : QController.create qSubscriberDelegate qPublisherDelegate logger debugging cipherSuite =
      .ok c₀) (ops : List (ControllerOp Namespace)) :
    ((finalState (controllerStep env L) c₀ ops).getPublications.map
        PublicationReport.quicrNamespace).Nodup ∧
      ∀ n state, ⟨state, n⟩ ∈ (finalState (controllerStep env L) c₀ ops).getPublications ↔
        ∃ pre m post, ops = pre ++ .updateManifest m :: post ∧
          (∃ sourceId, Lists m.publications sourceId n) ∧
          (finalState (controllerStep env L) c₀ pre).quicrPublicationsMap.lookup n = none ∧
          Registered (finalState (controllerStep env L) c₀ (pre ++ [.updateManifest m])) n ∧
          state = (statesSet n post).getLastD .active := by
  refine ⟨?_, fun n state => ?_⟩
  · unfold getPublications
    rw [List.map_map]
    exact AList.keys_nodup _
  have hfree : c₀.quicrPublicationsMap.lookup n = none := by
    obtain rfl := create_ok hc₀
    rfl
  have hnew : PublishesOnSession n c₀ := by
    intro d hd
    rw [hfree] at hd
    cases hd
  have hslot := controllerStep_keepsSlot env L n
  rw [mem_getPublications]
  constructor
  · rintro ⟨d', hd', rfl⟩
    obtain ⟨pre, op, post, d, rfl, hpre, hopen, hasks, -, rfl⟩ :=
      hslot.run_last ops c₀ hnew hfree d' hd'
    obtain ⟨m, rfl, hactive, stream, hstream, profile, hprofile, hn⟩ := hasks
    refine ⟨pre, m, post, rfl, ⟨stream.sourceId, stream, hstream, rfl, profile, hprofile, hn⟩,
      hpre, ?_, ?_⟩
    · exact (congrArg Option.isSome hopen).trans rfl
    · rw [finalState_publisherStep_state, hactive]
  · rintro ⟨pre, m, post, rfl, -, hpre, hregistered, rfl⟩
    obtain ⟨d, hd⟩ := Option.isSome_iff_exists.mp hregistered
    have hsession (ops : List (ControllerOp Namespace)) :
        PublishesOnSession n (finalState (controllerStep env L) c₀ ops) :=
      finalState_invariant (sentStep env L n) (PublishesOnSession n) ops
        (fun c op _ hc => hslot.inv c op hc) c₀ hnew
    obtain ⟨-, hfinal⟩ := hslot.run_full post (fun op _ => publicationRole_ne_clear n op) _
      (hsession (pre ++ [.updateManifest m])) d hd
    refine ⟨_, ?_, finalState_publisherStep_state L n post d |>.trans ?_⟩
    · rw [← List.singleton_append, ← List.append_assoc, finalState_append]
      exact hfinal
    · rw [finalState_append] at hd
      obtain ⟨⟨-, -, hactive, -⟩, -⟩ := controllerStep_asksToRegister env L hpre _ d hd
      rw [hactive]

/-- The camera of `pausedRun` is on again in the end. -/
theorem reported_publication_iff_pausedRun :
    ⟨.active, mediaNamespace⟩ ∈ (finalState (controllerStep (takesAll true) referenceLibs)
      (newController (some .aesGcm128Sha256)) pausedRun).getPublications := by
  refine ((reported_publication_iff (takesAll true) referenceLibs (create_newController _)
    pausedRun).2 mediaNamespace .active).mpr ⟨[.connect localRelay], cameraManifest,
      pausedRun.drop 2, rfl, ?_, ?_, ?_, ?_⟩
  · exact ⟨"80a6ac22", camera "80a6ac22", by decide +kernel, rfl, cameraProfile,
      by decide +kernel, rfl⟩
  · decide +kernel
  · unfold Registered
    decide +kernel
  · decide +kernel

end Qmedia.Analysis
