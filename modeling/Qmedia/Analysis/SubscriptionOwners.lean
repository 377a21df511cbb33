import Qmedia.Library.FirstWriter
import Qmedia.Analysis.ManifestHalves

/-!
# Under which source a namespace is subscribed

The registry of subscriptions is looked up by namespace and reported by source id. As a
map from namespaces to source ids it is first writer wins: a stream that a manifest
prepares claims its namespaces for its source, and a claim on a taken namespace is lost
(`processSubscription_owner`). So `getSubscriptions` lists a namespace under the source
that held it before the manifest, or, if it was free, under the source of the first
stream prepared by the manifest that lists it (`handled_subscribed_iff`). A stream that
is only updated claims nothing.
-/

set_option autoImplicit false

namespace Qmedia.Analysis

open Qmedia.Library Qmedia.Model Qmedia.Model.QController

variable {Suite Ctx Namespace : Type} [DecidableEq Namespace]

/-- The source id under which a namespace is subscribed. -/
def owner (c : QController Suite Ctx Namespace) (ns : Namespace) : Option SourceId :=
  (c.quicrSubscriptionsMap.lookup ns).map SubscriptionDelegate.sourceId

/-- `getSubscriptions` reports the owners. -/
theorem mem_getSubscriptions (c : QController Suite Ctx Namespace) (sourceId : SourceId)
    (ns : Namespace) : ns ∈ c.getSubscriptions sourceId ↔ owner c ns = some sourceId := by
  unfold getSubscriptions owner
  rw [Option.map_eq_some_iff, List.mem_map]
  constructor
  · rintro ⟨⟨ns', delegate⟩, hmem, rfl⟩
    obtain ⟨hentry, hsource⟩ := List.mem_filter.mp hmem
    exact ⟨delegate, AList.mem_lookup_iff.mpr hentry, of_decide_eq_true hsource⟩
  · rintro ⟨delegate, hl, hsource⟩
    exact ⟨⟨ns, delegate⟩,
      List.mem_filter.mpr ⟨AList.mem_lookup_iff.mp hl, decide_eq_true hsource⟩, rfl⟩

/-! ## Claims -/

section Claims

variable (env : Environment Namespace) (L : Libs Suite Ctx Namespace)

omit [DecidableEq Namespace] in
/-- `subscribe` registers nothing. -/
theorem subscribe_map (c : QController Suite Ctx Namespace)
    (delegate : SubscriptionDelegate Suite Ctx Namespace) (transportMode : TransportMode) :
    (c.subscribe delegate transportMode).quicrSubscriptionsMap = c.quicrSubscriptionsMap := by
  rw [subscribe_eq]

/-- Starting a subscription claims its namespace. -/
theorem startSubscription_owner (c : QController Suite Ctx Namespace) (qDelegate : Ref)
    (sourceId : SourceId) (ns : Namespace) (intent : SubscribeIntent) (originUrl : String)
    (transportMode : TransportMode) (authToken : String) (e2eToken : Bytes) :
    owner (c.startSubscription env L qDelegate sourceId ns intent originUrl transportMode authToken
      e2eToken).2 = latch (owner c) ns sourceId := by
  unfold startSubscription findQuicrSubscriptionDelegate createQuicrSubscriptionDelegate
  cases hl : c.quicrSubscriptionsMap.lookup ns with
  | some delegate =>
      have htaken : (owner c ns).isSome := by
        unfold owner
        rw [hl]
        rfl
      rw [latch_eq_self (owner c) ns sourceId htaken]
      funext ns'
      unfold owner
      simp only [subscribe_map]
  | none =>
      have hfree : owner c ns = none := by
        unfold owner
        rw [hl]
        rfl
      funext ns'
      simp only
      by_cases hns : ns' = ns
      · subst hns
        rw [latch_self, hfree]
        unfold owner
        rw [subscribe_map]
        simp only [AList.lookup_insert]
        rfl
      · rw [latch_of_ne (owner c) sourceId hns]
        unfold owner
        rw [subscribe_map]
        simp only [AList.lookup_insert_ne hns]

omit [DecidableEq Namespace] in
/-- The namespaces that a prepared stream starts: that of its first profile, or of all. -/
def targets (singleordered : Bool) (stream : MediaStream Namespace) : List Namespace :=
  (if singleordered then stream.profileSet.profiles.take 1
    else stream.profileSet.profiles).map Profile.quicrNamespace

/-- The profiles of a stream claim their namespaces for its source. -/
theorem startSubscriptions_owner (c : QController Suite Ctx Namespace) (delegate : Ref)
    (sourceId : SourceId) (transportMode : TransportMode) (profiles : List (Profile Namespace)) :
    owner (c.startSubscriptions env L delegate sourceId transportMode profiles) =
      latchAll (owner c) (((if c.isSingleorderedSubscription then profiles.take 1
        else profiles).map Profile.quicrNamespace).map fun ns => (ns, sourceId)) := by
  induction profiles generalizing c with
  | nil =>
      rw [List.take_nil, ite_self]
      rfl
  | cons profile profiles ih =>
      have hone := startSubscription_owner env L c delegate sourceId profile.quicrNamespace .syncUp
        "" transportMode "" []
      obtain ⟨m₁, m₂, es, heq, -⟩ := startSubscription_side env L c delegate sourceId
        profile.quicrNamespace .syncUp "" transportMode "" []
      have hsingle : (c.startSubscription env L delegate sourceId profile.quicrNamespace .syncUp ""
          transportMode "" []).2.isSingleorderedSubscription = c.isSingleorderedSubscription := by
        rw [heq]
      unfold startSubscriptions
      simp only
      cases hc : c.isSingleorderedSubscription with
      | true =>
          rw [hsingle, hc, if_pos rfl, if_pos rfl, hone]
          rfl
      | false =>
          rw [hsingle, hc, if_neg (by decide), if_neg (by decide), ih, hsingle, hc, hone,
            if_neg (by decide)]
          rfl

/-- What the loop body for a stream claims. -/
def claimsOf (c : QController Suite Ctx Namespace) (stream : MediaStream Namespace) :
    List (Namespace × SourceId) :=
  if (c.processSubscription env L stream).1 = .started then
    (targets c.isSingleorderedSubscription stream).map fun ns => (ns, stream.sourceId)
  else []

/-- The claims of a list of streams, in order. -/
def claims : QController Suite Ctx Namespace → List (MediaStream Namespace) →
    List (Namespace × SourceId)
  | _, [] => []
  | c, stream :: streams =>
      claimsOf env L c stream ++ claims (c.processSubscription env L stream).2 streams

/-- **One stream.** The loop body for a stream writes its claims into the owners, first
writer wins. -/
theorem processSubscription_owner (c : QController Suite Ctx Namespace)
    (stream : MediaStream Namespace) :
    owner (c.processSubscription env L stream).2 =
      latchAll (owner c) (claimsOf env L c stream) := by
  obtain ⟨m, es, -, hcases⟩ := processSubscription_cases env L c stream
  have hconsulted : owner (consulted c m es) = owner c := rfl
  unfold claimsOf
  rcases hcases with ⟨hnot, heq⟩ | ⟨hstarted, delegate, transportMode, heq⟩
  · rw [if_neg hnot, heq, hconsulted]
    rfl
  · rw [if_pos hstarted, heq, startSubscriptions_owner, hconsulted]
    rfl

/-- **Run of streams.** -/
theorem processSubscriptions_owner (c : QController Suite Ctx Namespace)
    (streams : List (MediaStream Namespace)) :
    owner (c.processSubscriptions env L streams) = latchAll (owner c) (claims env L c streams) := by
  unfold processSubscriptions
  induction streams generalizing c with
  | nil => rfl
  | cons stream streams ih =>
      rw [finalState_cons, ih, processSubscription_owner]
      exact (latchAll_append _ _ _).symm

/-- The publications half leaves the owners alone. -/
theorem updateManifest_owner (c : QController Suite Ctx Namespace) (m : Manifest Namespace) :
    owner (c.updateManifest env L m) = latchAll (owner c) (claims env L c m.subscriptions) := by
  rw [← processSubscriptions_owner]
  refine processPublications_invariant env L
    (fun c' => owner c' = owner (c.processSubscriptions env L m.subscriptions)) m.publications
    (fun c' s p _ _ h => ?_) _ rfl
  rw [← h]
  rcases processProfile_cases env L c' s p with
    ⟨_, _, -, heq, -⟩ | ⟨_, _, _, _, _, _, _, -, -, -, -, -, heq⟩
  · rw [heq]
    rfl
  · rw [heq]
    rfl

end Claims

/-! ## Handled streams -/

section Handled

variable (env : Environment Namespace) (L : Libs Suite Ctx Namespace)

/-- The controller when the stream after `pre` is met. -/
def whenMet (c : QController Suite Ctx Namespace) (pre : List (MediaStream Namespace)) :
    QController Suite Ctx Namespace :=
  c.processSubscriptions env L pre

/-- How the stream after `pre` is handled. -/
def outcomeOf (c : QController Suite Ctx Namespace) (pre : List (MediaStream Namespace))
    (stream : MediaStream Namespace) : Outcome :=
  ((whenMet env L c pre).processSubscription env L stream).1

/-- The source of the first stream among `post`, the streams after `stream`, that is
prepared in the call and starts the namespace. -/
def firstClaimAfter (c : QController Suite Ctx Namespace) (pre : List (MediaStream Namespace))
    (stream : MediaStream Namespace) (post : List (MediaStream Namespace)) (ns : Namespace) :
    Option SourceId :=
  ((claims env L ((whenMet env L c pre).processSubscription env L stream).2 post).find?
    (fun w => w.1 = ns)).map Prod.snd

/-- The owners after a manifest, cut at one of its streams. -/
theorem updateManifest_owner_cut (c : QController Suite Ctx Namespace) (m : Manifest Namespace)
    {pre post : List (MediaStream Namespace)} {stream : MediaStream Namespace}
    (hm : m.subscriptions = pre ++ stream :: post) (ns : Namespace) :
    owner (c.updateManifest env L m) ns =
      (owner ((whenMet env L c pre).processSubscription env L stream).2 ns).or
        (firstClaimAfter env L c pre stream post ns) := by
  unfold firstClaimAfter
  rw [← latchAll_apply, ← processSubscriptions_owner, updateManifest_owner,
    ← processSubscriptions_owner, hm]
  unfold processSubscriptions
  rw [finalState_append, finalState_cons]
  rfl

/-- **Handled streams.** After a manifest, a namespace that a handled stream starts is
listed under the stream's source exactly if, when the stream is met, the source holds it,
or it is free and is then claimed for the source first: by this stream, if it is
prepared, or else by a later one.
SOURCE: src/QController.cpp:303-352, src/QController.cpp:391-436 -/
theorem handled_subscribed_iff (c : QController Suite Ctx Namespace) (m : Manifest Namespace)
    (pre post : List (MediaStream Namespace)) (stream : MediaStream Namespace)
    (hm : m.subscriptions = pre ++ stream :: post)
    (hhandled : outcomeOf env L c pre stream = .updated ∨ outcomeOf env L c pre stream = .started)
    (ns : Namespace) (hns : ns ∈ targets c.isSingleorderedSubscription stream) :
    ns ∈ (c.updateManifest env L m).getSubscriptions stream.sourceId ↔
      owner (whenMet env L c pre) ns = some stream.sourceId ∨
      (owner (whenMet env L c pre) ns = none ∧
        (outcomeOf env L c pre stream = .started ∨
          firstClaimAfter env L c pre stream post ns = some stream.sourceId)) := by
  have hsingle : (whenMet env L c pre).isSingleorderedSubscription =
      c.isSingleorderedSubscription := by
    obtain ⟨m₁, m₂, es, heq, -⟩ := processSubscriptions_side env L c pre
    unfold whenMet
    rw [heq]
  rw [mem_getSubscriptions, updateManifest_owner_cut env L c m hm, processSubscription_owner,
    latchAll_apply]
  unfold outcomeOf at *
  unfold claimsOf
  rcases hhandled with hupdated | hstarted
  · rw [hupdated, if_neg (by decide)]
    cases owner (whenMet env L c pre) ns with
    | some sourceId => simp
    | none => simp
  · rw [hstarted, if_pos rfl, hsingle]
    -- the stream's own claim on the namespace
    have hclaim : (((targets c.isSingleorderedSubscription stream).map
        fun ns => (ns, stream.sourceId)).find? (fun w => w.1 = ns)).map Prod.snd =
        some stream.sourceId := by
      rw [List.find?_map, Option.map_map]
      obtain ⟨ns', hfind⟩ : ∃ ns', (targets c.isSingleorderedSubscription stream).find?
          ((fun w : Namespace × SourceId => decide (w.1 = ns)) ∘ fun ns => (ns, stream.sourceId)) =
          some ns' := by
        rw [← Option.isSome_iff_exists, List.find?_isSome]
        exact ⟨ns, hns, decide_eq_true rfl⟩
      rw [hfind]
      rfl
    rw [hclaim]
    cases owner (whenMet env L c pre) ns with
    | some sourceId => simp
    | none => simp

end Handled

/-! ## Handled streams that are not subscribed -/

/-- One camera to subscribe to. -/
def subscribeCamera (sourceId : SourceId) : Manifest Prefix := ⟨[camera sourceId], []⟩

/-- The calls of `update` on a subscription. -/
def isUpdate : Event Prefix → Bool
  | .updateSubscription .. => true
  | _ => false

/-- An application that updates a subscription it has seen before. -/
def updatesKnown : Environment Prefix :=
  { takesAll true with updateSubscription := fun log _ _ _ _ => if log.any isUpdate then 0 else 1 }

/-- A controller that has subscribed to the camera under the source `"A"`. -/
def subscribedToA (env : Environment Prefix) : QController CipherSuite KeyRing Prefix :=
  finalState (controllerStep env referenceLibs) (newController none)
    [.connect localRelay, .updateManifest (subscribeCamera "A")]

/-- A camera of source `"A"`, applied to a controller that has it. -/
theorem handled_subscribed_iff_camera :
    mediaNamespace ∈ ((subscribedToA (takesAll true)).updateManifest (takesAll true) referenceLibs
        (subscribeCamera "A")).getSubscriptions "A" ↔
      owner (whenMet (takesAll true) referenceLibs (subscribedToA (takesAll true)) [])
          mediaNamespace = some "A" ∨
      (owner (whenMet (takesAll true) referenceLibs (subscribedToA (takesAll true)) [])
          mediaNamespace = none ∧
        (outcomeOf (takesAll true) referenceLibs (subscribedToA (takesAll true)) [] (camera "A") =
            .started ∨
          firstClaimAfter (takesAll true) referenceLibs (subscribedToA (takesAll true)) []
            (camera "A") [] mediaNamespace = some "A")) :=
  handled_subscribed_iff (takesAll true) referenceLibs (subscribedToA (takesAll true))
    (subscribeCamera "A") [] [] (camera "A") rfl (by decide +kernel) mediaNamespace
    (by decide +kernel)

/-- After `stopSubscription` the same manifest is only an update and subscribes nothing; and
a namespace that source `"A"` holds is not subscribed under source `"B"`, although the
stream is prepared. -/
theorem camera_handled_not_subscribed :
    (outcomeOf updatesKnown referenceLibs
        ((subscribedToA updatesKnown).stopSubscription mediaNamespace) [] (camera "A") = .updated ∧
      mediaNamespace ∉ (((subscribedToA updatesKnown).stopSubscription mediaNamespace).updateManifest
        updatesKnown referenceLibs (subscribeCamera "A")).getSubscriptions "A") ∧
    (outcomeOf (takesAll true) referenceLibs (subscribedToA (takesAll true)) [] (camera "B") =
        .started ∧
      mediaNamespace ∉ ((subscribedToA (takesAll true)).updateManifest (takesAll true) referenceLibs
        (subscribeCamera "B")).getSubscriptions "B") := by
  refine ⟨⟨by decide +kernel, by decide +kernel⟩, by decide +kernel, by decide +kernel⟩

end Qmedia.Analysis
