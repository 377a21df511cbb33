import Qmedia.Analysis.CallEffects
import Qmedia.Model.Reference

/-!
# The two halves of a manifest

`updateManifest` runs the subscriptions and then the publications, and the two halves
touch disjoint parts of the controller: `SubscriptionSide` says which the first may
change, and `processProfile_settings` what the second leaves alone. What one loop body of
either half can do is said once, in `processSubscription_given` and `processProfile_given`;
the loops are then covered by one invariant rule each.
-/

set_option autoImplicit false

namespace Qmedia.Analysis

open Qmedia.Library Qmedia.Model Qmedia.Model.QController

/-- The calls the subscriptions half makes. -/
def ofSubscriptions {Namespace : Type} : Event Namespace → Bool
  | .allocateSubBySourceId .. => true
  | .updateSubscription .. => true
  | .prepareSubscription .. => true
  | .subscribe .. => true
  | .unsubscribe .. => true
  | _ => false

/-- The calls that hand an object to a session. -/
def isObject {Namespace : Type} : Event Namespace → Bool
  | .publishNamedObject .. => true
  | _ => false

/-- The questions the subscriptions half puts to the application. -/
def asksSubscription {Namespace : Type} : Event Namespace → Bool
  | .allocateSubBySourceId .. => true
  | .updateSubscription .. => true
  | .prepareSubscription .. => true
  | _ => false

/-- The questions put to a subscription's delegate. -/
def asksDelegate {Namespace : Type} : Event Namespace → Bool
  | .updateSubscription .. => true
  | .prepareSubscription .. => true
  | _ => false

/-- The questions the publications half puts to the application. -/
def asksPublication {Namespace : Type} : Event Namespace → Bool
  | .allocatePubByNamespace .. => true
  | .preparePublication .. => true
  | _ => false

variable {Suite Ctx Namespace : Type} [DecidableEq Namespace]

/-! ## The subscriptions half -/

omit [DecidableEq Namespace] in
/-- Only the maps of subscriptions have changed, and only subscription calls were made. -/
def SubscriptionSide (c c' : QController Suite Ctx Namespace) : Prop :=
  ∃ m₁ m₂ es, c' = { c with
      qSubscriptionsMap := m₁
      quicrSubscriptionsMap := m₂
      log := es ++ c.log } ∧
    ∀ e ∈ es, ofSubscriptions e

omit [DecidableEq Namespace] in
/-- Nothing has happened. -/
theorem SubscriptionSide.refl (c : QController Suite Ctx Namespace) : SubscriptionSide c c :=
  ⟨_, _, [], rfl, by simp⟩

omit [DecidableEq Namespace] in
/-- Two steps of the subscriptions half. -/
theorem SubscriptionSide.trans {c c' c'' : QController Suite Ctx Namespace}
    (h : SubscriptionSide c c') (h' : SubscriptionSide c' c'') : SubscriptionSide c c'' := by
  obtain ⟨m₁, m₂, es, rfl, hes⟩ := h
  obtain ⟨n₁, n₂, es', rfl, hes'⟩ := h'
  refine ⟨n₁, n₂, es' ++ es, ?_, ?_⟩
  · rw [List.append_assoc]
  · intro e he
    rcases List.mem_append.mp he with he | he
    · exact hes' e he
    · exact hes e he

section Subscriptions

variable (env : Environment Namespace) (L : Libs Suite Ctx Namespace)

omit [DecidableEq Namespace] in
/-- `subscribe` belongs to the subscriptions half. -/
theorem subscribe_side (c : QController Suite Ctx Namespace)
    (delegate : SubscriptionDelegate Suite Ctx Namespace) (transportMode : TransportMode) :
    SubscriptionSide c (c.subscribe delegate transportMode) := by
  rw [subscribe_eq]
  refine ⟨c.qSubscriptionsMap, c.quicrSubscriptionsMap, _, rfl, ?_⟩
  intro e he
  obtain ⟨r, -, rfl⟩ := List.mem_map.mp he
  rfl

/-- Creating a receiving delegate belongs to the subscriptions half. -/
theorem createQuicrSubscriptionDelegate_side (c : QController Suite Ctx Namespace)
    (sourceId : SourceId) (ns : Namespace) (intent : SubscribeIntent)
    (originUrl authToken : String) (e2eToken : Bytes) (qDelegate : Ref)
    (cipherSuite : Option Suite) :
    SubscriptionSide c (c.createQuicrSubscriptionDelegate env L sourceId ns intent originUrl
      authToken e2eToken qDelegate cipherSuite).2 := by
  unfold createQuicrSubscriptionDelegate
  split
  · exact SubscriptionSide.refl c
  · exact ⟨c.qSubscriptionsMap, _, [], rfl, by simp⟩

/-- `startSubscription` belongs to the subscriptions half. -/
theorem startSubscription_side (c : QController Suite Ctx Namespace) (qDelegate : Ref)
    (sourceId : SourceId) (ns : Namespace) (intent : SubscribeIntent) (originUrl : String)
    (transportMode : TransportMode) (authToken : String) (e2eToken : Bytes) :
    SubscriptionSide c (c.startSubscription env L qDelegate sourceId ns intent originUrl
      transportMode authToken e2eToken).2 := by
  unfold startSubscription
  cases c.findQuicrSubscriptionDelegate ns with
  | some delegate => exact subscribe_side c delegate transportMode
  | none =>
      have hcreate := createQuicrSubscriptionDelegate_side env L c sourceId ns intent originUrl
        authToken e2eToken qDelegate c.cipherSuite
      simp only
      split
      · exact hcreate
      · exact hcreate.trans (subscribe_side _ _ transportMode)

/-- So do the profiles of one stream. -/
theorem startSubscriptions_side (c : QController Suite Ctx Namespace) (delegate : Ref)
    (sourceId : SourceId) (transportMode : TransportMode) (profiles : List (Profile Namespace)) :
    SubscriptionSide c
      (c.startSubscriptions env L delegate sourceId transportMode profiles) := by
  induction profiles generalizing c with
  | nil => exact SubscriptionSide.refl c
  | cons profile profiles ih =>
      have hone := startSubscription_side env L c delegate sourceId profile.quicrNamespace .syncUp
        "" transportMode "" []
      unfold startSubscriptions
      simp only
      split
      · exact hone
      · exact hone.trans (ih _)

omit [DecidableEq Namespace] in
/-- The controller with the calls `es` made. -/
def withCalls (c : QController Suite Ctx Namespace) (es : List (Event Namespace)) :
    QController Suite Ctx Namespace :=
  { c with log := es ++ c.log }

/-- **One stream.** What the loop body for a stream can do: get a delegate, put questions
to it, and, if it prepares the stream, start the profiles with it. -/
theorem processSubscription_given (c : QController Suite Ctx Namespace)
    (stream : MediaStream Namespace) :
    ∃ es, (∀ e ∈ es, asksDelegate e) ∧
      (((c.processSubscription env L stream).1 ≠ .started ∧
          (c.processSubscription env L stream).2 =
            withCalls (c.getSubscriptionDelegate env stream.sourceId stream.profileSet).2 es) ∨
        ((c.processSubscription env L stream).1 = .started ∧ ∃ delegate transportMode,
          (c.getSubscriptionDelegate env stream.sourceId stream.profileSet).1 = some delegate ∧
          (c.processSubscription env L stream).2 =
            (withCalls (c.getSubscriptionDelegate env stream.sourceId stream.profileSet).2
              es).startSubscriptions env L delegate stream.sourceId transportMode
              stream.profileSet.profiles)) := by
  unfold processSubscription
  generalize c.getSubscriptionDelegate env stream.sourceId stream.profileSet = given
  obtain ⟨delegate, c'⟩ := given
  cases delegate with
  | none => exact ⟨[], by simp, Or.inl ⟨nofun, rfl⟩⟩
  | some delegate =>
      simp only
      split
      · exact ⟨[_], by simp [asksDelegate], Or.inl ⟨nofun, rfl⟩⟩
      · split
        · exact ⟨[_, _], by simp [asksDelegate], Or.inl ⟨nofun, rfl⟩⟩
        · exact ⟨[_, _], by simp [asksDelegate], Or.inr ⟨rfl, delegate, _, rfl, rfl⟩⟩

omit [DecidableEq Namespace] in
/-- The controller with `es` asked of the application about subscriptions. -/
def consulted (c : QController Suite Ctx Namespace) (m : Map SourceId (Option Ref))
    (es : List (Event Namespace)) : QController Suite Ctx Namespace :=
  { c with qSubscriptionsMap := m, log := es ++ c.log }

omit [DecidableEq Namespace] in
/-- `getSubscriptionDelegate` changes the stored answers and asks the application only. -/
theorem getSubscriptionDelegate_consulted (c : QController Suite Ctx Namespace)
    (sourceId : SourceId) (profileSet : ProfileSet Namespace) :
    ∃ m es, (∀ e ∈ es, asksSubscription e) ∧
      (c.getSubscriptionDelegate env sourceId profileSet).2 = consulted c m es := by
  unfold getSubscriptionDelegate
  split
  · exact ⟨c.qSubscriptionsMap, [], by simp, rfl⟩
  · split
    · exact ⟨c.qSubscriptionsMap, [], by simp, rfl⟩
    · exact ⟨_, [_], by simp [asksSubscription], rfl⟩

/-- One stream, whatever delegate it is given. -/
theorem processSubscription_cases (c : QController Suite Ctx Namespace)
    (stream : MediaStream Namespace) :
    ∃ m es, (∀ e ∈ es, asksSubscription e) ∧
      (((c.processSubscription env L stream).1 ≠ .started ∧
          (c.processSubscription env L stream).2 = consulted c m es) ∨
        ((c.processSubscription env L stream).1 = .started ∧ ∃ delegate transportMode,
          (c.processSubscription env L stream).2 =
            (consulted c m es).startSubscriptions env L delegate stream.sourceId transportMode
              stream.profileSet.profiles)) := by
  obtain ⟨m, es, hes, hget⟩ := getSubscriptionDelegate_consulted env c stream.sourceId
    stream.profileSet
  obtain ⟨es', hes', hcases⟩ := processSubscription_given env L c stream
  have hconsulted : withCalls (consulted c m es) es' = consulted c m (es' ++ es) := by
    unfold withCalls consulted
    rw [List.append_assoc]
  rw [hget, hconsulted] at hcases
  refine ⟨m, es' ++ es, List.forall_mem_append.mpr ⟨?_, hes⟩, ?_⟩
  · intro e he
    have hasks := hes' e he
    cases e with
    | updateSubscription _ _ _ _ _ => rfl
    | prepareSubscription _ _ _ _ _ => rfl
    | _ => cases hasks
  · refine hcases.imp_right ?_
    rintro ⟨hstarted, delegate, transportMode, -, heq⟩
    exact ⟨hstarted, delegate, transportMode, heq⟩

/-- So does one stream. -/
theorem processSubscription_side (c : QController Suite Ctx Namespace)
    (subscription : MediaStream Namespace) :
    SubscriptionSide c (c.processSubscription env L subscription).2 := by
  obtain ⟨m, es, hes, hcases⟩ := processSubscription_cases env L c subscription
  have hconsulted : SubscriptionSide c (consulted c m es) := by
    refine ⟨m, c.quicrSubscriptionsMap, es, rfl, ?_⟩
    intro e he
    have hasks := hes e he
    cases e with
    | allocateSubBySourceId _ _ _ => rfl
    | updateSubscription _ _ _ _ _ => rfl
    | prepareSubscription _ _ _ _ _ => rfl
    | _ => cases hasks
  rcases hcases with ⟨-, heq⟩ | ⟨-, delegate, transportMode, heq⟩
  · rw [heq]
    exact hconsulted
  · rw [heq]
    exact hconsulted.trans (startSubscriptions_side env L _ delegate _ transportMode _)

/-- So do all streams. -/
theorem processSubscriptions_side (c : QController Suite Ctx Namespace)
    (subscriptions : List (MediaStream Namespace)) :
    SubscriptionSide c (c.processSubscriptions env L subscriptions) :=
  finalState_invariant (processSubscription env L) (SubscriptionSide c) subscriptions
    (fun c' s _ h => h.trans (processSubscription_side env L c' s)) c (SubscriptionSide.refl c)

/-- `stopSubscription` belongs to the subscriptions half. -/
theorem stopSubscription_side (c : QController Suite Ctx Namespace) (ns : Namespace) :
    SubscriptionSide c (c.stopSubscription ns) := by
  rcases stopSubscription_cases c ns with ⟨-, heq⟩ | ⟨delegate, -, heq⟩
  · rw [heq]
    exact SubscriptionSide.refl c
  · rw [heq]
    refine ⟨c.qSubscriptionsMap, _, _, rfl, ?_⟩
    intro e he
    obtain ⟨r, -, rfl⟩ := List.mem_map.mp he
    rfl

/-- `setSubscriptionState` belongs to the subscriptions half. -/
theorem setSubscriptionState_side (c : QController Suite Ctx Namespace) (ns : Namespace)
    (transportMode : TransportMode) :
    SubscriptionSide c (c.setSubscriptionState ns transportMode) := by
  rcases setSubscriptionState_cases c ns transportMode with ⟨-, heq⟩ | ⟨delegate, -, heq⟩
  · rw [heq]
    exact SubscriptionSide.refl c
  · rw [heq]
    exact subscribe_side c delegate transportMode

end Subscriptions

/-! ## The publications half -/

section Publications

variable (env : Environment Namespace) (L : Libs Suite Ctx Namespace)

omit [DecidableEq Namespace] in
/-- The delegate that a stream and a profile ask for. -/
def delegateFor (c : QController Suite Ctx Namespace) (qDelegate : Ref) (time : BitVec 64)
    (stream : MediaStream Namespace) (profile : Profile Namespace) :
    PublicationDelegate Suite Ctx Namespace :=
  PublicationDelegate.create L.toSFrame qDelegate stream.sourceId profile.quicrNamespace "" "" []
    profile.priorities profile.expiry c.cipherSuite time

omit [DecidableEq Namespace] in
/-- The controller with `es` asked of the application. -/
def asked (c : QController Suite Ctx Namespace) (m : Map String (Option Ref))
    (es : List (Event Namespace)) : QController Suite Ctx Namespace :=
  { c with qPublicationsMap := m, log := es ++ c.log }

omit [DecidableEq Namespace] in
/-- `getPublicationDelegate` changes the stored answers and asks the application only. -/
theorem getPublicationDelegate_asked (c : QController Suite Ctx Namespace) (ns : Namespace)
    (sourceID qualityProfile appTag : String) :
    ∃ m es, (∀ e ∈ es, asksPublication e) ∧
      (c.getPublicationDelegate env L.toQuicr ns sourceID qualityProfile appTag).2 =
        asked c m es := by
  unfold getPublicationDelegate
  split
  · exact ⟨c.qPublicationsMap, [], by simp, rfl⟩
  · split
    · exact ⟨c.qPublicationsMap, [], by simp, rfl⟩
    · exact ⟨_, [_], by simp [asksPublication], rfl⟩

/-- What starting a publication does: nothing without a session or for a registered
namespace, otherwise a new active entry and one announcement on the session. -/
theorem startPublication_cases (c : QController Suite Ctx Namespace) (qDelegate : Ref)
    (sourceId : SourceId) (ns : Namespace) (originUrl authToken : String) (payload : Bytes)
    (priority : List (BitVec 8)) (expiry : List (BitVec 16)) (transportMode : TransportMode) :
    ((c.clientSession = none ∨ (c.quicrPublicationsMap.lookup ns).isSome) ∧
      (c.startPublication env L qDelegate sourceId ns originUrl authToken payload priority expiry
        transportMode).2 = c) ∨
    ∃ session time request accepted, c.clientSession = some session ∧
      c.quicrPublicationsMap.lookup ns = none ∧ request.quicrNamespace = ns ∧
      (c.startPublication env L qDelegate sourceId ns originUrl authToken payload priority expiry
        transportMode).2 =
      { c with
        quicrPublicationsMap := c.quicrPublicationsMap.insert ns
          ⟨.active, PublicationDelegate.create L.toSFrame qDelegate sourceId ns originUrl authToken
            payload priority expiry c.cipherSuite time⟩
        log := .publishIntent session request accepted :: c.log } := by
  unfold startPublication createQuicrPublicationDelegate
  cases hs : c.clientSession with
  | none => exact Or.inl ⟨Or.inl rfl, by rw [if_pos rfl]⟩
  | some session =>
      rw [if_neg (by simp)]
      cases hl : c.quicrPublicationsMap.lookup ns with
      | some publication => exact Or.inl ⟨Or.inr rfl, rfl⟩
      | none =>
          right
          simp only [QController.publishIntent, PublicationDelegate.publishIntent, Option.map_some]
          exact ⟨session, _, _, _, rfl, trivial, rfl, rfl⟩

/-- **One profile.** What the loop body for a profile can do: get a delegate, ask it to
prepare, and, if it does so on a session and the namespace is free, register the delegate
the profile asks for and announce it on the session. -/
theorem processProfile_given (c : QController Suite Ctx Namespace)
    (stream : MediaStream Namespace) (profile : Profile Namespace)
    {given : Option Ref × QController Suite Ctx Namespace}
    (hgiven : c.getPublicationDelegate env L.toQuicr profile.quicrNamespace stream.sourceId
      profile.qualityProfile profile.appTag = given) :
    ∃ es, (∀ e ∈ es, ∃ delegate result, e =
        .preparePublication delegate stream.sourceId profile.qualityProfile result) ∧
      (((c.processProfile env L stream profile).2 = withCalls given.2 es ∧
        ((c.processProfile env L stream profile).1 = .started →
          given.2.clientSession = none ∨
            (given.2.quicrPublicationsMap.lookup profile.quicrNamespace).isSome)) ∨
      ∃ session qDelegate time request accepted, given.1 = some qDelegate ∧
        (c.processProfile env L stream profile).1 = .started ∧
        given.2.clientSession = some session ∧
        given.2.quicrPublicationsMap.lookup profile.quicrNamespace = none ∧
        request.quicrNamespace = profile.quicrNamespace ∧
        (c.processProfile env L stream profile).2 =
        { withCalls given.2 es with
          quicrPublicationsMap := given.2.quicrPublicationsMap.insert profile.quicrNamespace
            ⟨.active, delegateFor L given.2 qDelegate time stream profile⟩
          log := .publishIntent session request accepted :: (es ++ given.2.log) }) := by
  unfold processProfile
  rw [hgiven]
  obtain ⟨delegate, c'⟩ := given
  cases delegate with
  | none => exact ⟨[], by simp, Or.inl ⟨rfl, fun h => by cases h⟩⟩
  | some delegate =>
      refine ⟨[.preparePublication delegate stream.sourceId profile.qualityProfile
        (env.preparePublication c'.log delegate stream.sourceId profile.qualityProfile
          .unreliable)], fun e he => ⟨delegate, _, List.mem_singleton.mp he⟩, ?_⟩
      simp only
      split
      · exact Or.inl ⟨rfl, fun h => by cases h⟩
      · rcases startPublication_cases env L (withCalls c' [.preparePublication delegate
            stream.sourceId profile.qualityProfile (env.preparePublication c'.log delegate
              stream.sourceId profile.qualityProfile .unreliable)]) delegate stream.sourceId
            profile.quicrNamespace "" "" [] profile.priorities profile.expiry
            (env.preparePublication c'.log delegate stream.sourceId profile.qualityProfile
              .unreliable).2 with
          ⟨hnot, heq⟩ | ⟨session, time, request, accepted, hs, hl, hr, heq⟩
        · exact Or.inl ⟨heq, fun _ => hnot⟩
        · exact Or.inr ⟨session, delegate, time, request, accepted, rfl, rfl, hs, hl, hr, heq⟩

/-- One profile, whatever delegate it is given. -/
theorem processProfile_cases (c : QController Suite Ctx Namespace)
    (stream : MediaStream Namespace) (profile : Profile Namespace) :
    (∃ m es, (∀ e ∈ es, asksPublication e) ∧
      (c.processProfile env L stream profile).2 = asked c m es ∧
      ((c.processProfile env L stream profile).1 = .started →
        c.clientSession = none ∨
          (c.quicrPublicationsMap.lookup profile.quicrNamespace).isSome)) ∨
    ∃ m es session qDelegate time request accepted, (∀ e ∈ es, asksPublication e) ∧
      (c.processProfile env L stream profile).1 = .started ∧ c.clientSession = some session ∧
      c.quicrPublicationsMap.lookup profile.quicrNamespace = none ∧
      request.quicrNamespace = profile.quicrNamespace ∧
      (c.processProfile env L stream profile).2 =
      { asked c m es with
        quicrPublicationsMap := c.quicrPublicationsMap.insert profile.quicrNamespace
          ⟨.active, delegateFor L c qDelegate time stream profile⟩
        log := .publishIntent session request accepted :: (es ++ c.log) } := by
  obtain ⟨m, es, hes, hget⟩ := getPublicationDelegate_asked env L c profile.quicrNamespace
    stream.sourceId profile.qualityProfile profile.appTag
  obtain ⟨es', hes', hcases⟩ := processProfile_given env L c stream profile rfl
  rw [hget] at hcases
  have hasks : ∀ e ∈ es' ++ es, asksPublication e := by
    refine List.forall_mem_append.mpr ⟨fun e he => ?_, hes⟩
    obtain ⟨delegate, result, rfl⟩ := hes' e he
    rfl
  rcases hcases with
    ⟨heq, hnot⟩ | ⟨session, qDelegate, time, request, accepted, -, hstarted, hs, hl, hr, heq⟩
  · refine Or.inl ⟨m, es' ++ es, hasks, ?_, hnot⟩
    rw [heq]
    unfold withCalls asked
    rw [List.append_assoc]
  · refine Or.inr ⟨m, es' ++ es, session, qDelegate, time, request, accepted, hasks, hstarted, hs,
      hl, hr, ?_⟩
    rw [heq, List.append_assoc]
    rfl

/-- A registered publication stays as it is. -/
theorem processProfile_keeps (c : QController Suite Ctx Namespace)
    (stream : MediaStream Namespace) (profile : Profile Namespace) {ns : Namespace}
    {publication : PublicationDetails Suite Ctx Namespace}
    (h : c.quicrPublicationsMap.lookup ns = some publication) :
    (c.processProfile env L stream profile).2.quicrPublicationsMap.lookup ns =
      some publication := by
  rcases processProfile_cases env L c stream profile with
    ⟨m, es, -, heq, -⟩ | ⟨m, es, session, q, time, request, accepted, -, -, -, hfree, -, heq⟩
  · rw [heq]
    exact h
  · rw [heq]
    have hne : ns ≠ profile.quicrNamespace := by
      rintro rfl
      rw [h] at hfree
      cases hfree
    exact (AList.lookup_insert_ne hne).trans h

/-- The settings a profile does not touch. -/
theorem processProfile_settings (c : QController Suite Ctx Namespace)
    (stream : MediaStream Namespace) (profile : Profile Namespace) :
    (c.processProfile env L stream profile).2.clientSession = c.clientSession ∧
      (c.processProfile env L stream profile).2.cipherSuite = c.cipherSuite ∧
      (c.processProfile env L stream profile).2.isSingleorderedPublication =
        c.isSingleorderedPublication ∧
      (c.processProfile env L stream profile).2.qPublisherDelegate = c.qPublisherDelegate := by
  rcases processProfile_cases env L c stream profile with
    ⟨m, es, -, heq, -⟩ | ⟨m, es, session, q, time, request, accepted, -, -, -, -, -, heq⟩
  · rw [heq]
    exact ⟨rfl, rfl, rfl, rfl⟩
  · rw [heq]
    exact ⟨rfl, rfl, rfl, rfl⟩

/-- **Loop rule.** What every profile of the list keeps, the loops keep. -/
theorem processPublications_invariant (I : QController Suite Ctx Namespace → Prop)
    (publications : List (MediaStream Namespace))
    (hstep : ∀ c stream profile, stream ∈ publications → profile ∈ stream.profileSet.profiles →
      I c → I (c.processProfile env L stream profile).2)
    (c : QController Suite Ctx Namespace) (hc : I c) :
    I (c.processPublications env L publications) := by
  have hprofiles (stream : MediaStream Namespace) (hstream : stream ∈ publications)
      (profiles : List (Profile Namespace))
      (hsub : ∀ profile ∈ profiles, profile ∈ stream.profileSet.profiles)
      (c : QController Suite Ctx Namespace) (hc : I c) :
      I (c.processProfiles env L stream profiles) := by
    induction profiles generalizing c with
    | nil => exact hc
    | cons profile profiles ih =>
        have hone := hstep c stream profile hstream (hsub profile (List.mem_cons_self ..)) hc
        unfold processProfiles
        simp only
        split
        · exact hone
        · exact ih (fun q hq => hsub q (List.mem_cons_of_mem _ hq)) _ hone
  unfold processPublications
  induction publications generalizing c with
  | nil => exact hc
  | cons stream publications ih =>
      refine ih (fun c s p hs => hstep c s p (List.mem_cons_of_mem _ hs)) _ ?_
        (fun s hs => hprofiles s (List.mem_cons_of_mem _ hs))
      exact hprofiles stream (List.mem_cons_self ..) _ (fun q hq => hq) c hc

/-- The profiles of a manifest half in the order they are met. -/
def allProfiles (publications : List (MediaStream Namespace)) :
    List (MediaStream Namespace × Profile Namespace) :=
  publications.flatMap fun stream => stream.profileSet.profiles.map fun profile => (stream, profile)

omit [DecidableEq Namespace] in
/-- The profiles of a manifest are those of its streams. -/
theorem mem_allProfiles (publications : List (MediaStream Namespace))
    (stream : MediaStream Namespace) (profile : Profile Namespace) :
    (stream, profile) ∈ allProfiles publications ↔
      stream ∈ publications ∧ profile ∈ stream.profileSet.profiles := by
  unfold allProfiles
  simp only [List.mem_flatMap, List.mem_map, Prod.mk.injEq]
  constructor
  · rintro ⟨s, hs, p, hp, rfl, rfl⟩
    exact ⟨hs, hp⟩
  · rintro ⟨hs, hp⟩
    exact ⟨stream, hs, profile, hp, rfl, rfl⟩

/-- One profile with its stream, as a machine step. -/
def profileStep (c : QController Suite Ctx Namespace)
    (x : MediaStream Namespace × Profile Namespace) : Outcome × QController Suite Ctx Namespace :=
  c.processProfile env L x.1 x.2

/-- Unless publications are single-ordered, the two loops are one. -/
theorem processPublications_eq (publications : List (MediaStream Namespace))
    (c : QController Suite Ctx Namespace) (hc : c.isSingleorderedPublication = false) :
    c.processPublications env L publications =
      finalState (profileStep env L) c (allProfiles publications) := by
  have hprofiles (stream : MediaStream Namespace) (profiles : List (Profile Namespace))
      (c : QController Suite Ctx Namespace) (hc : c.isSingleorderedPublication = false) :
      c.processProfiles env L stream profiles =
          finalState (profileStep env L) c (profiles.map fun profile => (stream, profile)) ∧
        (c.processProfiles env L stream profiles).isSingleorderedPublication = false := by
    induction profiles generalizing c with
    | nil => exact ⟨rfl, hc⟩
    | cons profile profiles ih =>
        obtain ⟨-, -, hsingle, -⟩ := processProfile_settings env L c stream profile
        rw [hc] at hsingle
        unfold processProfiles
        simp only [hsingle, Bool.and_false, Bool.false_eq_true, if_false]
        exact ih _ hsingle
  unfold processPublications allProfiles
  induction publications generalizing c with
  | nil => rfl
  | cons stream publications ih =>
      obtain ⟨heq, hsingle⟩ := hprofiles stream stream.profileSet.profiles c hc
      rw [List.foldl_cons, List.flatMap_cons, finalState_append, ← heq]
      exact ih _ hsingle

end Publications

/-! ## An application that takes everything -/

/-- It allocates and prepares whatever it is asked for and has every subscription
prepared anew; every client connects, and `accepts` is what a client answers to an
announcement. -/
def takesAll (accepts : Bool) : Environment Namespace where
  allocateSubBySourceId _ _ _ := some 1
  updateSubscription _ _ _ _ _ := 1
  prepareSubscription _ _ _ _ _ mode := (0, mode)
  allocatePubByNamespace _ _ _ _ _ := some 1
  preparePublication _ _ _ _ mode := (0, mode)
  connect _ _ _ := true
  connected _ _ := true
  publishIntent _ _ _ := accepts
  getSubscriptionState _ _ _ := 0
  time _ := 1700000000
  uninitialised _ := ⟨0, 0, 0, 0⟩

/-- A new controller of such an application. -/
def newController (cipherSuite : Option Suite) : QController Suite Ctx Namespace where
  logger := false
  qSubscriberDelegate := some 1
  qPublisherDelegate := some 1
  qSubscriptionsMap := ∅
  qPublicationsMap := ∅
  quicrSubscriptionsMap := ∅
  quicrPublicationsMap := ∅
  clientSession := none
  stop := false
  closed := false
  isSingleorderedSubscription := true
  isSingleorderedPublication := false
  cipherSuite := cipherSuite
  sessions := 0
  log := []

omit [DecidableEq Namespace] in
/-- The constructor accepts these arguments. -/
theorem create_newController (cipherSuite : Option Suite) :
    QController.create (some 1) (some 1) false false cipherSuite =
      .ok (newController cipherSuite : QController Suite Ctx Namespace) := rfl

/-- One camera with one profile. -/
def cameraProfile : Profile Prefix where
  qualityProfile := "h264,width=1920,height=1080,fps=30,br=2000"
  quicrNamespace := mediaNamespace
  priorities := [6, 7]
  expiry := [500, 500]
  appTag := "primaryV"

/-- A camera with one profile. -/
def camera (sourceId : SourceId) : MediaStream Prefix where
  mediaType := "video"
  sourceName := "Camera A1"
  sourceId := sourceId
  label := "Participant A"
  profileSet := { type := "singleordered", profiles := [cameraProfile] }

/-- The relay the tests connect to. -/
def localRelay : RelayConfig := ⟨"client@example", "127.0.0.1", 33435, 0, 3000⟩

/-- One camera to publish. -/
def cameraManifest : Manifest Prefix := ⟨[], [camera "80a6ac22"]⟩

end Qmedia.Analysis
