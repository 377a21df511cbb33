import Qmedia.Analysis.InterleavedPublications
import Qmedia.Analysis.SubscriberRefinement

/-!
# Manifests from several threads

Let the application answer a question the same way whenever it is asked, and let it allocate
delegates by the source id, and by the string of the namespace, alone. (The controller keeps the
first delegate it is given for a source or a namespace, so with an allocator that also looks at
the profile set, or at the tag of a profile, the order of the calls decides.) Then what a manifest
asks for is settled before its call begins, and each step of the call either leaves what it has
still to register alone or registers some of it: what is registered and what the calls have
still to register are, together, the same after every step (`callStep_subscriptions`,
`callStep_publications`). So in every interleaving, when all calls have returned, exactly what
was registered before and what their manifests ask for is registered
(`interleaved_manifests`): no registration is lost, and none depends on the order.
-/

set_option autoImplicit false

namespace Qmedia.Analysis

open Qmedia.Library Qmedia.Model Qmedia.Model.QController

variable {Suite Ctx Namespace : Type} [DecidableEq Namespace]

/-! ## What a manifest asks for -/

/-- What an application answers. -/
structure Answers (Namespace : Type) where
  allocateSubBySourceId : SourceId → Option Ref
  updateSubscription : Ref → String → String → ProfileSet Namespace → ℤ
  prepareSubscription : Ref → String → String → ProfileSet Namespace → ℤ
  allocatePubByNamespace : String → Option Ref
  preparePublication : Ref → String → String → ℤ

/-- The application gives these answers at all times. It allocates by the source id alone, and by
the string of the namespace alone: an answer that depended on the profile set or on the tag would
be kept from whichever call came first. -/
structure Answers.Of (a : Answers Namespace) (q : Quicr Namespace) (env : Environment Namespace) :
    Prop where
  allocateSubBySourceId : ∀ log sourceId profileSet,
    env.allocateSubBySourceId log sourceId profileSet = a.allocateSubBySourceId sourceId
  updateSubscription : ∀ log delegate sourceId label profileSet,
    env.updateSubscription log delegate sourceId label profileSet =
      a.updateSubscription delegate sourceId label profileSet
  prepareSubscription : ∀ log delegate sourceId label profileSet transportMode,
    (env.prepareSubscription log delegate sourceId label profileSet transportMode).1 =
      a.prepareSubscription delegate sourceId label profileSet
  allocatePubByNamespace : ∀ log ns sourceId qualityProfile appTag,
    env.allocatePubByNamespace log ns sourceId qualityProfile appTag =
      a.allocatePubByNamespace (q.str ns)
  preparePublication : ∀ log delegate sourceId qualityProfile transportMode,
    (env.preparePublication log delegate sourceId qualityProfile transportMode).1 =
      a.preparePublication delegate sourceId qualityProfile

section Asking

variable (a : Answers Namespace) (q : Quicr Namespace) (c₀ : QController Suite Ctx Namespace)

omit [DecidableEq Namespace] in
/-- The delegate of a source, if it is not in the table yet the one that is allocated. -/
def subGiven (sourceId : SourceId) : Option Ref :=
  if c₀.qSubscriberDelegate = none then none
  else (c₀.qSubscriptionsMap.lookup sourceId).getD (a.allocateSubBySourceId sourceId)

omit [DecidableEq Namespace] in
/-- The delegate of a namespace, found by its string, in the same way. -/
def pubGiven (key : String) : Option Ref :=
  if c₀.qPublisherDelegate = none then none
  else (c₀.qPublicationsMap.lookup key).getD (a.allocatePubByNamespace key)

omit [DecidableEq Namespace] in
/-- The stream asks to subscribe to `ns`: its delegate does not update it and prepares it, and
`ns` is one of the namespaces that a prepared stream starts. -/
def AsksToSubscribe (stream : MediaStream Namespace) (ns : Namespace) : Prop :=
  ∃ delegate, subGiven a c₀ stream.sourceId = some delegate ∧
    a.updateSubscription delegate stream.sourceId stream.label stream.profileSet ≠ 0 ∧
    a.prepareSubscription delegate stream.sourceId stream.label stream.profileSet = 0 ∧
    ns ∈ targets c₀.isSingleorderedSubscription stream

omit [DecidableEq Namespace] in
/-- The delegate of a profile prepares it. -/
def preparesProfile (stream : MediaStream Namespace) (profile : Profile Namespace) : Bool :=
  match pubGiven a c₀ (q.str profile.quicrNamespace) with
  | none => false
  | some delegate => a.preparePublication delegate stream.sourceId profile.qualityProfile = 0

omit [DecidableEq Namespace] in
/-- The namespaces of the profiles that are prepared, or of the first one. -/
def chosen (stream : MediaStream Namespace) (profiles : List (Profile Namespace)) :
    List Namespace :=
  let prepared := profiles.filter (preparesProfile a q c₀ stream)
  (if c₀.isSingleorderedPublication then prepared.take 1 else prepared).map Profile.quicrNamespace

omit [DecidableEq Namespace] in
/-- The stream asks to publish on `ns`. -/
def AsksToPublish (stream : MediaStream Namespace) (ns : Namespace) : Prop :=
  ns ∈ chosen a q c₀ stream stream.profileSet.profiles

omit [DecidableEq Namespace] in
/-- The first of a list, or all of it. -/
theorem mem_map_taken {α κ : Type} (single : Bool) (f : α → κ) (x : α) (xs : List α) (k : κ) :
    k ∈ (if single then (x :: xs).take 1 else x :: xs).map f ↔
      f x = k ∨ single = false ∧ k ∈ xs.map f := by
  cases single with
  | false => simp [eq_comm]
  | true => simp [eq_comm]

omit [DecidableEq Namespace] in
/-- One profile after the other: a prepared one is chosen and ends the choice if only one is
wanted. -/
theorem mem_chosen_cons (stream : MediaStream Namespace) (profile : Profile Namespace)
    (profiles : List (Profile Namespace)) (ns : Namespace) :
    ns ∈ chosen a q c₀ stream (profile :: profiles) ↔
      if preparesProfile a q c₀ stream profile then
        profile.quicrNamespace = ns ∨
          c₀.isSingleorderedPublication = false ∧ ns ∈ chosen a q c₀ stream profiles
      else ns ∈ chosen a q c₀ stream profiles := by
  unfold chosen
  cases hprepared : preparesProfile a q c₀ stream profile with
  | false =>
      rw [List.filter_cons_of_neg (by simp [hprepared])]
      simp
  | true =>
      rw [List.filter_cons_of_pos hprepared, mem_map_taken]
      simp only [if_true]
      refine or_congr_right (and_congr_right fun hsingle => ?_)
      simp [hsingle]

/-! ## What a call has still to register -/

omit [DecidableEq Namespace] in
/-- The rest of a loop over profiles, when one of them has been started. -/
def loopOwesSubscription (ns : Namespace) (loop : ProfileLoop Namespace) : Prop :=
  (c₀.isSingleorderedSubscription = false ∧ ns ∈ loop.profiles.map Profile.quicrNamespace) ∨
    ∃ stream ∈ loop.rest.subscriptions, AsksToSubscribe a c₀ stream ns

omit [DecidableEq Namespace] in
/-- The call has still to register the subscription to `ns`. -/
def owesSubscription (ns : Namespace) : Task Suite Ctx Namespace → Prop
  | .allocating rest => ∃ stream ∈ rest.subscriptions, AsksToSubscribe a c₀ stream ns
  | .updating delegate stream rest =>
      (a.updateSubscription delegate stream.sourceId stream.label stream.profileSet ≠ 0 ∧
        a.prepareSubscription delegate stream.sourceId stream.label stream.profileSet = 0 ∧
        ns ∈ targets c₀.isSingleorderedSubscription stream) ∨
      ∃ stream ∈ rest.subscriptions, AsksToSubscribe a c₀ stream ns
  | .preparing delegate stream rest =>
      (a.prepareSubscription delegate stream.sourceId stream.label stream.profileSet = 0 ∧
        ns ∈ targets c₀.isSingleorderedSubscription stream) ∨
      ∃ stream ∈ rest.subscriptions, AsksToSubscribe a c₀ stream ns
  | .finding loop profile => profile.quicrNamespace = ns ∨ loopOwesSubscription a c₀ ns loop
  | .creating loop profile => profile.quicrNamespace = ns ∨ loopOwesSubscription a c₀ ns loop
  | .subscribing loop _ => loopOwesSubscription a c₀ ns loop
  | _ => False

omit [DecidableEq Namespace] in
/-- The streams whose profiles a call will publish, while it is at its subscriptions. -/
def publicationsOf : Task Suite Ctx Namespace → List (MediaStream Namespace)
  | .allocating rest => rest.publications
  | .updating _ _ rest => rest.publications
  | .preparing _ _ rest => rest.publications
  | .finding loop _ => loop.rest.publications
  | .creating loop _ => loop.rest.publications
  | .subscribing loop _ => loop.rest.publications
  | _ => []

omit [DecidableEq Namespace] in
/-- The rest of a loop over profiles, when one of them has been started. -/
def loopOwesPublication (ns : Namespace) (loop : PublicationLoop Namespace) : Prop :=
  (c₀.isSingleorderedPublication = false ∧ ns ∈ chosen a q c₀ loop.publication loop.profiles) ∨
    ∃ stream ∈ loop.publications, AsksToPublish a q c₀ stream ns

omit [DecidableEq Namespace] in
/-- The call has still to register the publication of `ns`. -/
def owesPublication (ns : Namespace) : CallTask Suite Ctx Namespace → Prop
  | .subscriptions task => ∃ stream ∈ publicationsOf task.1, AsksToPublish a q c₀ stream ns
  | .allocating loop => ns ∈ chosen a q c₀ loop.publication (loop.profile :: loop.profiles) ∨
      ∃ stream ∈ loop.publications, AsksToPublish a q c₀ stream ns
  | .preparing loop delegate =>
      if a.preparePublication delegate loop.publication.sourceId loop.profile.qualityProfile = 0
      then loop.profile.quicrNamespace = ns ∨ loopOwesPublication a q c₀ ns loop
      else ns ∈ chosen a q c₀ loop.publication loop.profiles ∨
        ∃ stream ∈ loop.publications, AsksToPublish a q c₀ stream ns
  | .checking loop _ _ => loop.profile.quicrNamespace = ns ∨ loopOwesPublication a q c₀ ns loop
  | .creating loop _ _ => loop.profile.quicrNamespace = ns ∨ loopOwesPublication a q c₀ ns loop
  | .announcing loop _ _ => loopOwesPublication a q c₀ ns loop
  | _ => False

/-! ## What the calls leave as it was -/

omit [DecidableEq Namespace] in
/-- What no call but `connect`, `disconnect` and the single ordering settings changes. -/
def settings (c : QController Suite Ctx Namespace) :
    Option Ref × Option Ref × Bool × Bool × Option Session :=
  (c.qSubscriberDelegate, c.qPublisherDelegate, c.isSingleorderedSubscription,
    c.isSingleorderedPublication, c.clientSession)

omit [DecidableEq Namespace] in
/-- The settings are those of `c₀`, and the tables of delegates have since grown by the answers
of the application only. -/
structure Settled (c : QController Suite Ctx Namespace) : Prop where
  settings_eq : settings c = settings c₀
  sub : AnsweredBy a.allocateSubBySourceId (fun k => c₀.qSubscriptionsMap.lookup k)
    fun k => c.qSubscriptionsMap.lookup k
  pub : AnsweredBy a.allocatePubByNamespace (fun k => c₀.qPublicationsMap.lookup k)
    fun k => c.qPublicationsMap.lookup k

omit [DecidableEq Namespace] in
/-- Nothing has been done yet. -/
theorem Settled.refl : Settled a c₀ c₀ := ⟨rfl, .refl _ _, .refl _ _⟩

variable {a c₀} {c c' : QController Suite Ctx Namespace}

omit [DecidableEq Namespace] in
/-- The setting for subscriptions is as it was. -/
theorem Settled.singleSubscription (h : Settled a c₀ c) :
    c.isSingleorderedSubscription = c₀.isSingleorderedSubscription :=
  congrArg (fun x => x.2.2.1) h.settings_eq

omit [DecidableEq Namespace] in
/-- The setting for publications is as it was. -/
theorem Settled.singlePublication (h : Settled a c₀ c) :
    c.isSingleorderedPublication = c₀.isSingleorderedPublication :=
  congrArg (fun x => x.2.2.2.1) h.settings_eq

omit [DecidableEq Namespace] in
/-- The session is the one it was. -/
theorem Settled.clientSession (h : Settled a c₀ c) : c.clientSession = c₀.clientSession :=
  congrArg (fun x => x.2.2.2.2) h.settings_eq

omit [DecidableEq Namespace] in
/-- What changes neither the settings nor the tables. -/
theorem Settled.keeps (h : Settled a c₀ c) (hsettings : settings c' = settings c)
    (hsub : c'.qSubscriptionsMap = c.qSubscriptionsMap)
    (hpub : c'.qPublicationsMap = c.qPublicationsMap) : Settled a c₀ c' where
  settings_eq := hsettings.trans h.settings_eq
  sub sourceId := by
    rw [hsub]
    exact h.sub sourceId
  pub key := by
    rw [hpub]
    exact h.pub key

variable (env : Environment Namespace) (L : Libs Suite Ctx Namespace)

omit [DecidableEq Namespace] in
/-- A source is given its delegate. -/
theorem Settled.getSubscriptionDelegate (h : Settled a c₀ c) (ha : a.Of q env)
    (sourceId : SourceId) (profileSet : ProfileSet Namespace) :
    (c.getSubscriptionDelegate env sourceId profileSet).1 = subGiven a c₀ sourceId ∧
      Settled a c₀ (c.getSubscriptionDelegate env sourceId profileSet).2 := by
  have hq : c.qSubscriberDelegate = c₀.qSubscriberDelegate := congrArg Prod.fst h.settings_eq
  unfold QController.getSubscriptionDelegate subGiven
  rw [hq]
  split
  · exact ⟨rfl, h⟩
  · cases hl : c.qSubscriptionsMap.lookup sourceId with
    | some v => exact ⟨h.sub.found hl, h⟩
    | none =>
        have hfree := h.sub.missing hl
        have htable := h.sub.allocated hl
        rw [← lookup_insert_eq_latch _ _ hl] at htable
        simp only [ha.allocateSubBySourceId]
        exact ⟨by rw [hfree]; rfl, h.settings_eq, htable, h.pub⟩

omit [DecidableEq Namespace] in
/-- A profile is given its delegate. -/
theorem Settled.getPublicationDelegate (h : Settled a c₀ c) (ha : a.Of q env) (ns : Namespace)
    (sourceID qualityProfile appTag : String) :
    (c.getPublicationDelegate env q ns sourceID qualityProfile appTag).1 =
        pubGiven a c₀ (q.str ns) ∧
      Settled a c₀ (c.getPublicationDelegate env q ns sourceID qualityProfile appTag).2 := by
  have hq : c.qPublisherDelegate = c₀.qPublisherDelegate :=
    congrArg (fun x => x.2.1) h.settings_eq
  unfold QController.getPublicationDelegate pubGiven
  rw [hq]
  split
  · exact ⟨rfl, h⟩
  · cases hl : c.qPublicationsMap.lookup (q.str ns) with
    | some v => exact ⟨h.pub.found hl, h⟩
    | none =>
        have hfree := h.pub.missing hl
        have htable := h.pub.allocated hl
        rw [← lookup_insert_eq_latch _ _ hl] at htable
        simp only [ha.allocatePubByNamespace]
        exact ⟨by rw [hfree]; rfl, h.settings_eq, h.sub, htable⟩

end Asking

/-! ## Steps -/

section Steps

variable (env : Environment Namespace) (L : Libs Suite Ctx Namespace)
variable {a : Answers Namespace} {c₀ c : QController Suite Ctx Namespace}

/-- A locked call changes no setting. -/
theorem locked_settings (c : QController Suite Ctx Namespace) {op : ControllerOp Namespace}
    (hop : op.isLocked) : settings (controllerStep env L c op).2 = settings c := by
  have hside {c' : QController Suite Ctx Namespace} (h : SubscriptionSide c c') :
      settings c' = settings c := by
    obtain ⟨m₁, m₂, es, rfl, -⟩ := h
    rfl
  cases op with
  | publishNamedObject ns data groupFlag startTime =>
      show settings (c.publishNamedObject L ns data groupFlag startTime).2 = _
      rcases publishNamedObject_cases L c ns data groupFlag startTime with
        hskip | ⟨d, es, -, -, -, hnext⟩
      · rw [hskip]
      · rw [hnext]
        rfl
  | setPublicationState ns state =>
      show settings (c.setPublicationState ns state) = _
      rcases setPublicationState_cases c ns state with ⟨-, heq⟩ | ⟨publication, -, heq⟩
      · rw [heq]
      · rw [heq]
        rfl
  | stopSubscription ns => exact hside (stopSubscription_side c ns)
  | setSubscriptionState ns mode => exact hside (setSubscriptionState_side c ns mode)
  | getSwitchingSets => rfl
  | getSubscriptions sourceId => rfl
  | getPublications => rfl
  | _ => cases hop

omit [DecidableEq Namespace] in
/-- After a profile the call is still at its subscriptions, with the same publications to come. -/
theorem nextProfile_ofSubscriptions (c : QController Suite Ctx Namespace)
    (loop : ProfileLoop Namespace) :
    (Task.nextProfile c loop).ofSubscriptions = true ∧
      publicationsOf (Task.nextProfile c loop) = loop.rest.publications := by
  have hprofiles : (Task.profiles loop : Task Suite Ctx Namespace).ofSubscriptions = true ∧
      publicationsOf (Task.profiles loop : Task Suite Ctx Namespace) = loop.rest.publications := by
    unfold Task.profiles
    split
    · exact ⟨rfl, rfl⟩
    · exact ⟨rfl, rfl⟩
  unfold Task.nextProfile
  split
  · exact ⟨rfl, rfl⟩
  · exact hprofiles

/-- What a step of the subscriptions half leaves to do. -/
theorem taskStep_next (c : QController Suite Ctx Namespace) {t : Task Suite Ctx Namespace}
    (ht : t.ofSubscriptions = true) :
    (taskStep env L c t).2.2 = .publications (publicationsOf t) ∨
      (taskStep env L c t).2.2.ofSubscriptions = true ∧
        publicationsOf (taskStep env L c t).2.2 = publicationsOf t := by
  cases t with
  | allocating rest =>
      obtain ⟨subscriptions, publications⟩ := rest
      cases subscriptions with
      | nil => exact Or.inl rfl
      | cons stream subscriptions =>
          right
          unfold taskStep
          simp only
          split
          · exact ⟨rfl, rfl⟩
          · exact ⟨rfl, rfl⟩
  | updating delegate stream rest =>
      right
      unfold taskStep
      simp only
      split
      · exact ⟨rfl, rfl⟩
      · exact ⟨rfl, rfl⟩
  | preparing delegate stream rest =>
      right
      unfold taskStep
      simp only
      split
      · exact ⟨rfl, rfl⟩
      · unfold Task.profiles
        split
        · exact ⟨rfl, rfl⟩
        · exact ⟨rfl, rfl⟩
  | finding loop profile =>
      right
      unfold taskStep
      cases hfind : c.findQuicrSubscriptionDelegate profile.quicrNamespace with
      | none =>
          simp only [hfind]
          exact ⟨rfl, rfl⟩
      | some subDelegate =>
          simp only [hfind]
          exact ⟨rfl, rfl⟩
  | creating loop profile =>
      right
      unfold taskStep
      simp only
      split
      · exact nextProfile_ofSubscriptions _ loop
      · exact ⟨rfl, rfl⟩
  | subscribing loop subDelegate => exact Or.inr (nextProfile_ofSubscriptions _ loop)
  | _ => cases ht

/-! ## Subscriptions -/

omit [DecidableEq Namespace] in
/-- What is part of an alternative can be listed beside it. -/
theorem or_absorb {A P R : Prop} (h : P → A) : A ∨ R ↔ A ∨ P ∨ R := by
  rw [← or_assoc, or_iff_left_of_imp h]

omit [DecidableEq Namespace] in
/-- A call at its publications has no more subscriptions to register. -/
theorem owesSubscription_publications (ns : Namespace)
    (publications : List (MediaStream Namespace)) :
    ¬ owesSubscription a c₀ ns (Task.publications publications : Task Suite Ctx Namespace) := by
  cases publications with
  | nil => exact id
  | cons publication publications => exact id

omit [DecidableEq Namespace] in
/-- At the head of the inner loop. -/
theorem owesSubscription_profiles (ns : Namespace) (loop : ProfileLoop Namespace) :
    owesSubscription a c₀ ns (Task.profiles loop : Task Suite Ctx Namespace) ↔
      ns ∈ (if c₀.isSingleorderedSubscription then loop.profiles.take 1
        else loop.profiles).map Profile.quicrNamespace ∨
      ∃ stream ∈ loop.rest.subscriptions, AsksToSubscribe a c₀ stream ns := by
  unfold Task.profiles
  cases hprofiles : loop.profiles with
  | nil => simp [owesSubscription]
  | cons profile profiles =>
      rw [mem_map_taken]
      show _ ∨ _ ∨ _ ↔ _
      rw [or_assoc]

omit [DecidableEq Namespace] in
/-- At the end of its body. -/
theorem owesSubscription_nextProfile (h : Settled a c₀ c) (ns : Namespace)
    (loop : ProfileLoop Namespace) :
    owesSubscription a c₀ ns (Task.nextProfile c loop) ↔ loopOwesSubscription a c₀ ns loop := by
  unfold Task.nextProfile loopOwesSubscription
  rw [h.singleSubscription]
  cases hsingle : c₀.isSingleorderedSubscription with
  | true => simp [owesSubscription]
  | false =>
      simp only [Bool.false_eq_true, if_false, true_and]
      rw [owesSubscription_profiles, hsingle]
      simp

omit [DecidableEq Namespace] in
/-- A stream without a delegate asks for nothing. -/
theorem not_asksToSubscribe {stream : MediaStream Namespace}
    (hgiven : subGiven a c₀ stream.sourceId = none) (ns : Namespace) :
    ¬ AsksToSubscribe a c₀ stream ns := by
  rintro ⟨delegate, hdelegate, -⟩
  rw [hgiven] at hdelegate
  cases hdelegate

omit [DecidableEq Namespace] in
/-- What a stream asks for, once its delegate is known. -/
theorem asksToSubscribe_iff {stream : MediaStream Namespace} {delegate : Ref}
    (hgiven : subGiven a c₀ stream.sourceId = some delegate) (ns : Namespace) :
    AsksToSubscribe a c₀ stream ns ↔
      a.updateSubscription delegate stream.sourceId stream.label stream.profileSet ≠ 0 ∧
        a.prepareSubscription delegate stream.sourceId stream.label stream.profileSet = 0 ∧
        ns ∈ targets c₀.isSingleorderedSubscription stream := by
  unfold AsksToSubscribe
  rw [hgiven]
  simp only [Option.some.injEq, exists_eq_left']

/-- **One step of the subscriptions half** keeps what is registered or has still to be. -/
theorem taskStep_subscriptions (ha : a.Of L.toQuicr env) (hc : Settled a c₀ c)
    {t : Task Suite Ctx Namespace} (ht : t.ofSubscriptions = true) :
    Settled a c₀ (taskStep env L c t).2.1 ∧
      ∀ ns, ns ∈ (taskStep env L c t).2.1.quicrSubscriptionsMap ∨
          owesSubscription a c₀ ns (taskStep env L c t).2.2 ↔
        ns ∈ c.quicrSubscriptionsMap ∨ owesSubscription a c₀ ns t := by
  cases t with
  | allocating rest =>
      obtain ⟨subscriptions, publications⟩ := rest
      cases subscriptions with
      | nil =>
          refine ⟨hc, fun ns => or_congr_right ?_⟩
          refine iff_of_false (owesSubscription_publications ns _) ?_
          rintro ⟨stream, hstream, -⟩
          cases hstream
      | cons stream subscriptions =>
          obtain ⟨hgiven, hsettled⟩ := hc.getSubscriptionDelegate L.toQuicr env ha
            stream.sourceId stream.profileSet
          have hmap := (getSubscriptionDelegate_quiet env c stream.sourceId
            stream.profileSet).map_eq
          have howes (ns : Namespace) : owesSubscription a c₀ ns (.allocating ⟨stream :: subscriptions,
              publications⟩ : Task Suite Ctx Namespace) ↔ AsksToSubscribe a c₀ stream ns ∨
              ∃ s ∈ subscriptions, AsksToSubscribe a c₀ s ns := List.exists_mem_cons_iff ..
          simp only [howes]
          unfold taskStep
          simp only
          split
          · rename_i hnone
            rw [hnone] at hgiven
            refine ⟨hsettled, fun ns => ?_⟩
            rw [hmap, or_iff_right (not_asksToSubscribe hgiven.symm ns)]
            exact Iff.rfl
          · rename_i delegate hsome
            rw [hsome] at hgiven
            refine ⟨hsettled, fun ns => ?_⟩
            rw [hmap, asksToSubscribe_iff hgiven.symm ns]
            exact Iff.rfl
  | updating delegate stream rest =>
      unfold taskStep
      simp only [ha.updateSubscription]
      split
      · rename_i hupdated
        refine ⟨hc.keeps rfl rfl rfl, fun ns => or_congr_right (or_iff_right ?_).symm⟩
        exact fun h => h.1 hupdated
      · rename_i hupdated
        refine ⟨hc.keeps rfl rfl rfl, fun ns => or_congr_right (or_congr_left ?_)⟩
        exact (and_iff_right hupdated).symm
  | preparing delegate stream rest =>
      have hcode := ha.prepareSubscription c.log delegate stream.sourceId stream.label
        stream.profileSet .unreliable
      unfold taskStep
      simp only [hcode]
      split
      · rename_i hfailed
        refine ⟨hc.keeps rfl rfl rfl, fun ns => or_congr_right (or_iff_right ?_).symm⟩
        exact fun h => hfailed h.1
      · rename_i hprepared
        refine ⟨hc.keeps rfl rfl rfl, fun ns => or_congr_right ?_⟩
        rw [owesSubscription_profiles]
        exact or_congr_left (and_iff_right (not_not.mp hprepared)).symm
  | finding loop profile =>
      unfold taskStep
      cases hfind : c.findQuicrSubscriptionDelegate profile.quicrNamespace with
      | none =>
          simp only [hfind]
          exact ⟨hc, fun _ => Iff.rfl⟩
      | some subDelegate =>
          simp only [hfind]
          refine ⟨hc, fun ns => or_absorb ?_⟩
          rintro rfl
          exact mem_of_lookup hfind
  | creating loop profile =>
      unfold taskStep createQuicrSubscriptionDelegate
      cases hl : c.quicrSubscriptionsMap.lookup profile.quicrNamespace with
      | some subDelegate =>
          simp only [hl]
          refine ⟨hc, fun ns => ?_⟩
          rw [owesSubscription_nextProfile hc]
          refine or_absorb ?_
          rintro rfl
          exact mem_of_lookup hl
      | none =>
          simp only [hl]
          refine ⟨hc.keeps rfl rfl rfl, fun ns => ?_⟩
          have hmem (d : SubscriptionDelegate Suite Ctx Namespace) :
              ns ∈ c.quicrSubscriptionsMap.insert profile.quicrNamespace d ↔
                ns ∈ c.quicrSubscriptionsMap ∨ profile.quicrNamespace = ns := by
            rw [AList.mem_insert, or_comm, eq_comm]
          rw [hmem, or_assoc]
          exact Iff.rfl
  | subscribing loop subDelegate =>
      have hkeeps := subscribe_keepsAllocations c subDelegate loop.transportMode
      obtain ⟨m₁, m₂, es, hside, -⟩ := subscribe_side c subDelegate loop.transportMode
      have hsettled : Settled a c₀ (c.subscribe subDelegate loop.transportMode) :=
        hc.keeps (by rw [hside]; rfl) hkeeps.qSubscriptionsMap_eq hkeeps.qPublicationsMap_eq
      refine ⟨hsettled, fun ns => ?_⟩
      show ns ∈ (c.subscribe subDelegate loop.transportMode).quicrSubscriptionsMap ∨
        owesSubscription a c₀ ns (Task.nextProfile c loop) ↔ _
      rw [subscribe_map, owesSubscription_nextProfile hc]
      exact Iff.rfl
  | _ => cases ht

/-! ## Publications -/

section Publications

variable (q : Quicr Namespace)

omit [DecidableEq Namespace] in
/-- At the head of the outer loop the streams to come are owed. -/
theorem owesPublication_streams (ns : Namespace) (publications : List (MediaStream Namespace)) :
    owesPublication a q c₀ ns (CallTask.streams publications : CallTask Suite Ctx Namespace) ↔
      ∃ stream ∈ publications, AsksToPublish a q c₀ stream ns := by
  induction publications with
  | nil => simp [CallTask.streams, owesPublication]
  | cons publication publications ih =>
      have hcons : (∃ stream ∈ publication :: publications, AsksToPublish a q c₀ stream ns) ↔
          AsksToPublish a q c₀ publication ns ∨
            ∃ stream ∈ publications, AsksToPublish a q c₀ stream ns := List.exists_mem_cons_iff ..
      rw [hcons]
      unfold CallTask.streams AsksToPublish
      split
      · rename_i hprofiles
        rw [hprofiles, ih, or_iff_right (by unfold chosen; simp)]
        exact Iff.rfl
      · rename_i profile profiles hprofiles
        rw [hprofiles]
        exact Iff.rfl

omit [DecidableEq Namespace] in
/-- At the head of the inner loop the profiles to come are owed, too. -/
theorem owesPublication_profiles (ns : Namespace) (publication : MediaStream Namespace)
    (profiles : List (Profile Namespace)) (publications : List (MediaStream Namespace)) :
    owesPublication a q c₀ ns (CallTask.profiles publication profiles publications :
        CallTask Suite Ctx Namespace) ↔
      ns ∈ chosen a q c₀ publication profiles ∨
        ∃ stream ∈ publications, AsksToPublish a q c₀ stream ns := by
  cases profiles with
  | nil =>
      show owesPublication a q c₀ ns (CallTask.streams publications) ↔ _
      rw [owesPublication_streams, or_iff_right (by unfold chosen; simp)]
  | cons profile profiles => exact Iff.rfl

omit [DecidableEq Namespace] in
/-- After a profile was started, what is owed is what the setting lets through. -/
theorem owesPublication_processed (h : Settled a c₀ c) (ns : Namespace)
    (loop : PublicationLoop Namespace) :
    owesPublication a q c₀ ns (CallTask.processed c loop) ↔
      loopOwesPublication a q c₀ ns loop := by
  unfold CallTask.processed loopOwesPublication
  rw [h.singlePublication]
  cases hsingle : c₀.isSingleorderedPublication with
  | true =>
      rw [if_pos rfl, owesPublication_streams]
      simp
  | false =>
      rw [if_neg Bool.false_ne_true]
      unfold CallTask.nextProfile
      rw [owesPublication_profiles]
      simp

end Publications

/-- A step of the subscriptions half leaves the publications to do. -/
theorem owesPublication_ofTask (q : Quicr Namespace) (c : QController Suite Ctx Namespace)
    {t : Task Suite Ctx Namespace} (ht : t.ofSubscriptions = true) (ns : Namespace) :
    owesPublication a q c₀ ns (.ofTask (taskStep env L c t).2.2) ↔
      ∃ stream ∈ publicationsOf t, AsksToPublish a q c₀ stream ns := by
  rcases taskStep_next env L c ht with heq | ⟨hnext, hsame⟩
  · rw [heq, ofTask_publications, owesPublication_streams]
  · unfold CallTask.ofTask
    rw [dif_pos hnext]
    show (∃ stream ∈ publicationsOf _, _) ↔ _
    rw [hsame]

/-! ## Steps of a call -/

/-- No step of a call changes a setting, and the tables grow by answers. -/
theorem callStep_settled (ha : a.Of L.toQuicr env) (hc : Settled a c₀ c)
    (t : CallTask Suite Ctx Namespace) : Settled a c₀ (callStep env L c t).2.1 := by
  cases t with
  | locked op =>
      have hop := ne_updateManifest_of_isLocked op.2
      have hkeeps := controllerStep_keepsAllocations env L c hop
      exact hc.keeps (locked_settings env L c op.2) hkeeps.qSubscriptionsMap_eq
        hkeeps.qPublicationsMap_eq
  | subscriptions task => exact (taskStep_subscriptions env L ha hc task.2).1
  | allocating loop =>
      rw [callStep_allocating]
      exact (hc.getPublicationDelegate L.toQuicr env ha loop.profile.quicrNamespace
        loop.publication.sourceId loop.profile.qualityProfile loop.profile.appTag).2
  | preparing loop delegate =>
      rw [callStep_preparing]
      exact hc.keeps rfl rfl rfl
  | checking loop delegate transportMode =>
      unfold callStep
      simp only
      split
      · exact hc
      · exact hc
  | creating loop delegate transportMode =>
      unfold callStep createQuicrPublicationDelegate
      cases hl : c.quicrPublicationsMap.lookup loop.profile.quicrNamespace with
      | some publication =>
          simp only [hl]
          exact hc
      | none =>
          simp only [hl]
          exact hc.keeps rfl rfl rfl
  | announcing loop pubDelegate transportMode =>
      unfold callStep QController.publishIntent
      simp only
      split
      · exact hc
      · exact hc.keeps rfl rfl rfl
  | done => exact hc

/-- **One step** keeps what is registered or has still to be, of the publications.
SOURCE: src/QController.cpp:224-258, src/QController.cpp:354-389, src/QController.cpp:438-482 -/
theorem callStep_publications (ha : a.Of L.toQuicr env) (hc : Settled a c₀ c)
    (hlive : c₀.clientSession ≠ none) (t : CallTask Suite Ctx Namespace) (ns : Namespace) :
    Registered (callStep env L c t).2.1 ns ∨
        owesPublication a L.toQuicr c₀ ns (callStep env L c t).2.2 ↔
      Registered c ns ∨ owesPublication a L.toQuicr c₀ ns t := by
  cases t with
  | locked op => exact or_congr_left ((locked_keeps env L c op.2).2.1 ns)
  | subscriptions task =>
      have haside := taskStep_aside env L c task.2
      show Registered (taskStep env L c task.1).2.1 ns ∨
        owesPublication a L.toQuicr c₀ ns (.ofTask (taskStep env L c task.1).2.2) ↔ _
      rw [owesPublication_ofTask env L L.toQuicr c task.2]
      unfold Registered
      rw [haside.publications_eq]
      exact Iff.rfl
  | allocating loop =>
      obtain ⟨m, es, hes, heq⟩ := getPublicationDelegate_asked env L c loop.profile.quicrNamespace
        loop.publication.sourceId loop.profile.qualityProfile loop.profile.appTag
      obtain ⟨hgiven, -⟩ := hc.getPublicationDelegate L.toQuicr env ha
        loop.profile.quicrNamespace loop.publication.sourceId loop.profile.qualityProfile
        loop.profile.appTag
      rw [callStep_allocating, hgiven, heq]
      refine or_congr_right ?_
      show _ ↔ ns ∈ chosen a L.toQuicr c₀ loop.publication (loop.profile :: loop.profiles) ∨ _
      rw [mem_chosen_cons]
      unfold preparesProfile
      cases pubGiven a c₀ (L.str loop.profile.quicrNamespace) with
      | none => exact owesPublication_profiles L.toQuicr ns _ _ _
      | some delegate =>
          show (if _ then _ else _) ↔ _
          by_cases hprepared : a.preparePublication delegate loop.publication.sourceId
              loop.profile.qualityProfile = 0
          · simp only [hprepared, if_true, decide_true, or_assoc]
            exact Iff.rfl
          · simp only [hprepared, if_false, decide_false, Bool.false_eq_true]
  | preparing loop delegate =>
      rw [callStep_preparing, ha.preparePublication]
      refine or_congr_right ?_
      show _ ↔ if _ then _ else _
      by_cases hprepared : a.preparePublication delegate loop.publication.sourceId
          loop.profile.qualityProfile = 0
      · rw [if_neg (not_not_intro hprepared), if_pos hprepared]
        exact Iff.rfl
      · rw [if_pos hprepared, if_neg hprepared]
        exact owesPublication_profiles L.toQuicr ns _ _ _
  | checking loop delegate transportMode =>
      have hsession : ¬ c.clientSession = none := by
        rw [hc.clientSession]
        exact hlive
      unfold callStep
      simp only [if_neg hsession]
      exact Iff.rfl
  | creating loop delegate transportMode =>
      unfold callStep createQuicrPublicationDelegate
      cases hl : c.quicrPublicationsMap.lookup loop.profile.quicrNamespace with
      | some publication =>
          simp only [hl]
          rw [owesPublication_processed L.toQuicr hc]
          refine or_absorb ?_
          rintro rfl
          unfold Registered
          rw [hl]
          rfl
      | none =>
          simp only [hl]
          rw [registered_insert_iff rfl, or_comm (a := ns = _), eq_comm (a := ns), or_assoc]
          exact Iff.rfl
  | announcing loop pubDelegate transportMode =>
      have hsettled : Settled a c₀ (c.publishIntent env pubDelegate transportMode) :=
        callStep_settled env L ha hc (.announcing loop pubDelegate transportMode)
      have hregistered : Registered (c.publishIntent env pubDelegate transportMode) ns ↔
          Registered c ns := by
        unfold QController.publishIntent
        split
        · exact Iff.rfl
        · exact Iff.rfl
      show Registered (c.publishIntent env pubDelegate transportMode) ns ∨
        owesPublication a L.toQuicr c₀ ns
          (CallTask.processed (c.publishIntent env pubDelegate transportMode) loop) ↔ _
      rw [hregistered, owesPublication_processed L.toQuicr hsettled]
      exact Iff.rfl
  | done => exact Iff.rfl

omit [DecidableEq Namespace] in
/-- The call has still to register the subscription to `ns`. -/
def callOwesSubscription (a : Answers Namespace) (c₀ : QController Suite Ctx Namespace)
    (ns : Namespace) : CallTask Suite Ctx Namespace → Prop
  | .subscriptions task => owesSubscription a c₀ ns task.1
  | _ => False

omit [DecidableEq Namespace] in
/-- The call is not one that stops `ns`. -/
def spares (ns : Namespace) : CallTask Suite Ctx Namespace → Prop
  | .locked op => op.1 ≠ .stopSubscription ns
  | _ => True

omit [DecidableEq Namespace] in
/-- The publications half owes no subscription and stops none. -/
theorem streams_subscription (ns : Namespace) (publications : List (MediaStream Namespace)) :
    ¬ callOwesSubscription a c₀ ns (CallTask.streams publications : CallTask Suite Ctx Namespace) ∧
      spares ns (CallTask.streams publications : CallTask Suite Ctx Namespace) := by
  induction publications with
  | nil => exact ⟨id, trivial⟩
  | cons publication publications ih =>
      unfold CallTask.streams
      split
      · exact ih
      · exact ⟨id, trivial⟩

omit [DecidableEq Namespace] in
/-- The loop over publications owes no subscription and stops none. -/
theorem profiles_subscription (ns : Namespace) (publication : MediaStream Namespace)
    (profiles : List (Profile Namespace)) (publications : List (MediaStream Namespace)) :
    ¬ callOwesSubscription a c₀ ns (CallTask.profiles publication profiles publications :
        CallTask Suite Ctx Namespace) ∧
      spares ns (CallTask.profiles publication profiles publications :
        CallTask Suite Ctx Namespace) := by
  cases profiles with
  | nil => exact streams_subscription ns publications
  | cons profile profiles => exact ⟨id, trivial⟩

omit [DecidableEq Namespace] in
/-- Nor does the end of its body. -/
theorem processed_subscription (ns : Namespace) (c : QController Suite Ctx Namespace)
    (loop : PublicationLoop Namespace) :
    ¬ callOwesSubscription a c₀ ns (CallTask.processed c loop) ∧
      spares ns (CallTask.processed c loop) := by
  unfold CallTask.processed
  split
  · exact streams_subscription ns _
  · exact profiles_subscription ns _ _ _

/-- **One step** keeps what is registered or has still to be, of the subscriptions that are not
stopped.
SOURCE: src/QController.cpp:183-212, src/QController.cpp:303-335, src/QController.cpp:391-436 -/
theorem callStep_subscriptions (ha : a.Of L.toQuicr env) (hc : Settled a c₀ c) {ns : Namespace}
    {t : CallTask Suite Ctx Namespace} (ht : spares ns t) :
    spares ns (callStep env L c t).2.2 ∧
      (ns ∈ (callStep env L c t).2.1.quicrSubscriptionsMap ∨
          callOwesSubscription a c₀ ns (callStep env L c t).2.2 ↔
        ns ∈ c.quicrSubscriptionsMap ∨ callOwesSubscription a c₀ ns t) := by
  -- a step of the publications half
  have hother {c' : QController Suite Ctx Namespace} {t t' : CallTask Suite Ctx Namespace}
      (hmap : c'.quicrSubscriptionsMap = c.quicrSubscriptionsMap)
      (ht : ¬ callOwesSubscription a c₀ ns t)
      (ht' : ¬ callOwesSubscription a c₀ ns t' ∧ spares ns t') :
      spares ns t' ∧ (ns ∈ c'.quicrSubscriptionsMap ∨ callOwesSubscription a c₀ ns t' ↔
        ns ∈ c.quicrSubscriptionsMap ∨ callOwesSubscription a c₀ ns t) := by
    rw [hmap]
    exact ⟨ht'.2, or_congr_right (iff_of_false ht'.1 ht)⟩
  cases t with
  | locked op =>
      have hop := ne_updateManifest_of_isLocked op.2
      have hl := controllerStep_subscription_frame env L c ht hop
      refine ⟨trivial, or_congr_left ?_⟩
      show ns ∈ (controllerStep env L c op.1).2.quicrSubscriptionsMap ↔ _
      rw [← AList.lookup_isSome, hl, AList.lookup_isSome]
  | subscriptions task =>
      have hstep := (taskStep_subscriptions env L ha hc task.2).2 ns
      show spares ns (.ofTask (taskStep env L c task.1).2.2) ∧
        (ns ∈ (taskStep env L c task.1).2.1.quicrSubscriptionsMap ∨
          callOwesSubscription a c₀ ns (.ofTask (taskStep env L c task.1).2.2) ↔
          ns ∈ c.quicrSubscriptionsMap ∨ owesSubscription a c₀ ns task.1)
      rw [← hstep]
      rcases taskStep_next env L c task.2 with heq | ⟨hnext, -⟩
      · rw [heq, ofTask_publications]
        have hdone : ¬ callOwesSubscription a c₀ ns (.streams (publicationsOf task.1)) ∧
            spares ns (.streams (publicationsOf task.1)) := streams_subscription ns _
        exact ⟨hdone.2, or_congr_right
          (iff_of_false hdone.1 (owesSubscription_publications ns _))⟩
      · unfold CallTask.ofTask
        rw [dif_pos hnext]
        exact ⟨trivial, Iff.rfl⟩
  | allocating loop =>
      obtain ⟨m, es, -, heq⟩ := getPublicationDelegate_asked env L c loop.profile.quicrNamespace
        loop.publication.sourceId loop.profile.qualityProfile loop.profile.appTag
      rw [callStep_allocating, heq]
      refine hother rfl id ?_
      split
      · exact profiles_subscription ns _ _ _
      · exact ⟨id, trivial⟩
  | preparing loop delegate =>
      rw [callStep_preparing]
      refine hother rfl id ?_
      split
      · exact profiles_subscription ns _ _ _
      · exact ⟨id, trivial⟩
  | checking loop delegate transportMode =>
      unfold callStep
      simp only
      split
      · exact hother rfl id (processed_subscription ns c loop)
      · exact hother rfl id ⟨id, trivial⟩
  | creating loop delegate transportMode =>
      unfold callStep createQuicrPublicationDelegate
      cases hl : c.quicrPublicationsMap.lookup loop.profile.quicrNamespace with
      | some publication =>
          simp only [hl]
          exact hother rfl id (processed_subscription ns c loop)
      | none =>
          simp only [hl]
          exact hother rfl id ⟨id, trivial⟩
  | announcing loop pubDelegate transportMode =>
      refine hother ?_ id (processed_subscription ns _ loop)
      show (c.publishIntent env pubDelegate transportMode).quicrSubscriptionsMap = _
      unfold QController.publishIntent
      split
      · rfl
      · rfl
  | done => exact ⟨trivial, Iff.rfl⟩

/-! ## Runs -/

section Runs

variable {ι : Type} [DecidableEq ι]

omit [DecidableEq Namespace] in
/-- A call that has returned owes nothing. -/
theorem owes_nothing {t : CallTask Suite Ctx Namespace} (ht : hasReturned t = true)
    (q : Quicr Namespace) (ns : Namespace) :
    ¬ callOwesSubscription a c₀ ns t ∧ ¬ owesPublication a q c₀ ns t := by
  cases t with
  | done => exact ⟨id, id⟩
  | _ => cases ht

/-- **Manifests from several threads.** Let the application answer alike whenever it is asked,
and allocate by source id and namespace string alone (`Answers.Of`), and let the locked calls of
any number of threads be interleaved on a controller with a session.
When all of them have returned, the namespaces with a publication are those that had one before
and those that the manifests ask to publish, and, but for those that a call stops, the
namespaces with a subscription are those that had one and those that the manifests ask to
subscribe to.
SOURCE: src/QController.cpp:183-258, src/QController.cpp:303-335, src/QController.cpp:354-482 -/
theorem interleaved_manifests (ha : a.Of L.toQuicr env) {c : QController Suite Ctx Namespace}
    (hlive : c.clientSession ≠ none) (calls : ι → InterfaceCall Namespace) (schedule : List ι)
    (hreturned : ∀ i, hasReturned ((afterCalls env L c calls schedule).tasks i)) (ns : Namespace) :
    (Registered (afterCalls env L c calls schedule).shared ns ↔
      Registered c ns ∨ ∃ i m, calls i = .updateManifest m ∧
        ∃ stream ∈ m.publications, AsksToPublish a L.toQuicr c stream ns) ∧
    ((∀ i, ∀ op, calls i = .locked op → op.1 ≠ .stopSubscription ns) →
      (ns ∈ (afterCalls env L c calls schedule).shared.quicrSubscriptionsMap ↔
        ns ∈ c.quicrSubscriptionsMap ∨ ∃ i m, calls i = .updateManifest m ∧
          ∃ stream ∈ m.subscriptions, AsksToSubscribe a c stream ns)) := by
  have hidle (i : ι) : ¬ callOwesSubscription a c ns ((afterCalls env L c calls schedule).tasks i) ∧
      ¬ owesPublication a L.toQuicr c ns ((afterCalls env L c calls schedule).tasks i) :=
    owes_nothing (hreturned i) L.toQuicr ns
  have hcall (i : ι) {P : InterfaceCall Namespace → Prop} {Q : Manifest Namespace → Prop}
      (hmanifest : ∀ m, P (.updateManifest m) ↔ Q m) (hlocked : ∀ op, ¬ P (.locked op)) :
      P (calls i) ↔ ∃ m, calls i = .updateManifest m ∧ Q m := by
    cases h : calls i with
    | updateManifest m => simp [hmanifest]
    | locked op => simp [hlocked]
  constructor
  · have hrun : (Registered (afterCalls env L c calls schedule).shared ns ∨
        ∃ i, owesPublication a L.toQuicr c ns ((afterCalls env L c calls schedule).tasks i)) ↔
        Registered c ns ∨ ∃ i, owesPublication a L.toQuicr c ns (calls i).task := by
      refine conserved_run (I := Settled a c) (A := fun _ => True)
        (G := fun s => Registered s ns) (fun s t hs _ => ?_) _ (Settled.refl a c)
        (fun _ => trivial) schedule
      exact ⟨callStep_settled env L ha hs t, trivial,
        callStep_publications env L ha hs hlive t ns⟩
    rw [or_iff_left (not_exists.mpr fun i => (hidle i).2)] at hrun
    rw [hrun]
    refine or_congr_right (exists_congr fun i => ?_)
    exact hcall i (P := fun call => owesPublication a L.toQuicr c ns call.task)
      (fun _ => Iff.rfl) fun _ => id
  · intro hspared
    have hrun : (ns ∈ (afterCalls env L c calls schedule).shared.quicrSubscriptionsMap ∨
        ∃ i, callOwesSubscription a c ns ((afterCalls env L c calls schedule).tasks i)) ↔
        ns ∈ c.quicrSubscriptionsMap ∨ ∃ i, callOwesSubscription a c ns (calls i).task := by
      refine conserved_run (I := Settled a c) (A := spares ns)
        (G := fun s => ns ∈ s.quicrSubscriptionsMap) (fun s t hs ht => ?_) _ (Settled.refl a c)
        (fun i => ?_) schedule
      · obtain ⟨hspares, hstep⟩ := callStep_subscriptions env L ha hs ht
        exact ⟨callStep_settled env L ha hs t, hspares, hstep⟩
      · show spares ns (calls i).task
        cases h : calls i with
        | updateManifest m => trivial
        | locked op => exact hspared i op h
    rw [or_iff_left (not_exists.mpr fun i => (hidle i).1)] at hrun
    rw [hrun]
    refine or_congr_right (exists_congr fun i => ?_)
    exact hcall i (P := fun call => callOwesSubscription a c ns call.task)
      (fun _ => Iff.rfl) fun _ => id

end Runs

end Steps

/-! ## Two threads subscribe, and one of them publishes too -/

/-- What `takesAll` answers. -/
def takesAllAnswers : Answers Namespace where
  allocateSubBySourceId _ := some 1
  updateSubscription _ _ _ _ := 1
  prepareSubscription _ _ _ _ := 0
  allocatePubByNamespace _ := some 1
  preparePublication _ _ _ := 0

omit [DecidableEq Namespace] in
/-- The application that takes everything gives the same answers at all times. -/
theorem takesAllAnswers_of (accepts : Bool) (q : Quicr Namespace) :
    (takesAllAnswers : Answers Namespace).Of q (takesAll accepts) :=
  ⟨fun _ _ _ => rfl, fun _ _ _ _ _ => rfl, fun _ _ _ _ _ _ => rfl, fun _ _ _ _ _ => rfl,
    fun _ _ _ _ _ => rfl⟩

/-- Two threads with a source each for one namespace, and a report. -/
inductive Caller where
  | first
  | second
  | report
deriving DecidableEq, Repr

/-- The second thread publishes, too. -/
def callers : Caller → InterfaceCall Prefix
  | .first => .updateManifest (subscribeCamera "A")
  | .second => .updateManifest ⟨(subscribeCamera "B").subscriptions, cameraManifest.publications⟩
  | .report => .locked ⟨.getPublications, rfl⟩

/-- The first thread has prepared its source when the second registers the namespace. -/
def subscriptionRace : List Caller :=
  List.replicate 4 .first ++ List.replicate 12 .second ++ [.report] ++ List.replicate 8 .first

/-- Both the publication and the subscription are there in the end. -/
theorem interleaved_manifests_callers :
    Registered (afterCalls (takesAll true) referenceLibs connectedController callers
        subscriptionRace).shared mediaNamespace ∧
      mediaNamespace ∈ (afterCalls (takesAll true) referenceLibs connectedController callers
        subscriptionRace).shared.quicrSubscriptionsMap := by
  obtain ⟨hpublication, hsubscription⟩ := interleaved_manifests (takesAll true) referenceLibs
    (takesAllAnswers_of true referenceLibs.toQuicr) (c := connectedController) (by decide)
    callers subscriptionRace (fun i => by cases i <;> decide +kernel) mediaNamespace
  refine ⟨hpublication.mpr ?_, (hsubscription ?_).mpr ?_⟩
  · exact Or.inr ⟨.second, _, rfl, camera "80a6ac22", by decide +kernel, by
      unfold AsksToPublish
      decide +kernel⟩
  · intro i op h
    cases i with
    | report =>
        cases h
        intro hstop
        cases hstop
    | _ => cases h
  · exact Or.inr ⟨.first, _, rfl, camera "A", by decide +kernel, 1, rfl, by decide, rfl,
      by decide +kernel⟩

end Qmedia.Analysis
