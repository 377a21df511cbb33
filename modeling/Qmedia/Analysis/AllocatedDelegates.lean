import Qmedia.Library.FindOrAllocate
import Qmedia.Library.ThreadPool
import Qmedia.Analysis.SubscriptionOwners

/-!
# Delegates the application has allocated

`getSubscriptionDelegate` and `getPublicationDelegate` find a delegate or have one
allocated, under the source id and under the string of the namespace. Both write a null
answer down like any other, so a source whose allocation failed is a switching set and is
never tried again. Failed allocations leave no trace exactly in the runs without one
(`leavesNoTrace_iff`).
-/

set_option autoImplicit false

namespace Qmedia.Analysis

open Qmedia.Library Qmedia.Model Qmedia.Model.QController

variable {Suite Ctx Namespace : Type} [DecidableEq Namespace]

/-! ## The two tables -/

/-- The two calls that allocate. -/
def isAllocation {Namespace : Type} : Event Namespace → Bool
  | .allocateSubBySourceId .. => true
  | .allocatePubByNamespace .. => true
  | _ => false

/-- The source a call asked about, and the answer. -/
def subAnswer {Namespace : Type} : Event Namespace → Option (SourceId × Option Ref)
  | .allocateSubBySourceId sourceId _ result => some (sourceId, result)
  | _ => none

/-- The namespace a call asked about, as the string it is stored under, and the answer. -/
def pubAnswer {Namespace : Type} (q : Quicr Namespace) :
    Event Namespace → Option (String × Option Ref)
  | .allocatePubByNamespace quicrNamespace _ _ _ result => some (q.str quicrNamespace, result)
  | _ => none

omit [DecidableEq Namespace] in
/-- The subscription delegates by source id, with the answers of `allocateSubBySourceId`. -/
def subAllocations (c : QController Suite Ctx Namespace) : Allocations SourceId Ref where
  table sourceId := c.qSubscriptionsMap.lookup sourceId
  answers := c.log.reverse.filterMap subAnswer

omit [DecidableEq Namespace] in
/-- The publication delegates by the string of the namespace, with the answers of
`allocatePubByNamespace`. -/
def pubAllocations (q : Quicr Namespace) (c : QController Suite Ctx Namespace) :
    Allocations String Ref where
  table key := c.qPublicationsMap.lookup key
  answers := c.log.reverse.filterMap (pubAnswer q)

omit [DecidableEq Namespace] in
/-- Inserting under a missing key is a first write. -/
theorem lookup_insert_eq_latch {K V : Type} [DecidableEq K] (m : Map K V) {key : K} (v : V)
    (hmissing : m.lookup key = none) :
    (fun k => (m.insert key v).lookup k) = latch (fun k => m.lookup k) key v := by
  funext k
  by_cases hk : k = key
  · subst hk
    rw [latch_self, hmissing]
    exact AList.lookup_insert m
  · rw [latch_of_ne _ v hk]
    exact AList.lookup_insert_ne hk

section Refinement

variable (env : Environment Namespace)

omit [DecidableEq Namespace] in
/-- **Refinement.** `getSubscriptionDelegate` finds or allocates the source id. -/
theorem getSubscriptionDelegate_findOrAllocate (c : QController Suite Ctx Namespace)
    (sourceId : SourceId) (profileSet : ProfileSet Namespace) :
    FindOrAllocate (c.qSubscriberDelegate ≠ none) sourceId (subAllocations c)
      (c.getSubscriptionDelegate env sourceId profileSet).1
      (subAllocations (c.getSubscriptionDelegate env sourceId profileSet).2) := by
  unfold getSubscriptionDelegate
  by_cases hnull : c.qSubscriberDelegate = none
  · rw [if_pos hnull]
    exact .unavailable _ (not_not_intro hnull)
  · rw [if_neg hnull]
    cases hl : c.qSubscriptionsMap.lookup sourceId with
    | some delegate => exact .found _ hnull hl
    | none =>
        have hafter := FindOrAllocate.allocated (subAllocations c)
          (env.allocateSubBySourceId c.log sourceId profileSet) hnull hl
        simp only
        convert hafter using 2
        · exact lookup_insert_eq_latch _ _ hl
        · simp [subAllocations, QController.call, subAnswer]

omit [DecidableEq Namespace] in
/-- **Refinement.** `getPublicationDelegate` finds or allocates the string of the
namespace. -/
theorem getPublicationDelegate_findOrAllocate (q : Quicr Namespace)
    (c : QController Suite Ctx Namespace) (ns : Namespace)
    (sourceID qualityProfile appTag : String) :
    FindOrAllocate (c.qPublisherDelegate ≠ none) (q.str ns) (pubAllocations q c)
      (c.getPublicationDelegate env q ns sourceID qualityProfile appTag).1
      (pubAllocations q (c.getPublicationDelegate env q ns sourceID qualityProfile appTag).2) := by
  unfold getPublicationDelegate
  by_cases hnull : c.qPublisherDelegate = none
  · rw [if_pos hnull]
    exact .unavailable _ (not_not_intro hnull)
  · rw [if_neg hnull]
    cases hl : c.qPublicationsMap.lookup (q.str ns) with
    | some delegate => exact .found _ hnull hl
    | none =>
        have hafter := FindOrAllocate.allocated (pubAllocations q c)
          (env.allocatePubByNamespace c.log ns sourceID qualityProfile appTag) hnull hl
        simp only
        convert hafter using 2
        · exact lookup_insert_eq_latch _ _ hl
        · simp [pubAllocations, QController.call, pubAnswer]

end Refinement

/-! ## What allocates nothing -/

omit [DecidableEq Namespace] in
/-- Neither table has changed, and no allocator was asked. -/
structure KeepsAllocations (c c' : QController Suite Ctx Namespace) : Prop where
  qSubscriptionsMap_eq : c'.qSubscriptionsMap = c.qSubscriptionsMap
  qPublicationsMap_eq : c'.qPublicationsMap = c.qPublicationsMap
  log_eq : ∃ es, c'.log = es ++ c.log ∧ ∀ e ∈ es, isAllocation e = false

omit [DecidableEq Namespace] in
/-- A controller keeps its own allocations. -/
theorem KeepsAllocations.refl (c : QController Suite Ctx Namespace) : KeepsAllocations c c :=
  ⟨rfl, rfl, [], rfl, by simp⟩

omit [DecidableEq Namespace] in
/-- Two calls that allocate nothing allocate nothing together. -/
theorem KeepsAllocations.trans {c c' c'' : QController Suite Ctx Namespace}
    (h : KeepsAllocations c c') (h' : KeepsAllocations c' c'') : KeepsAllocations c c'' where
  qSubscriptionsMap_eq := h'.qSubscriptionsMap_eq.trans h.qSubscriptionsMap_eq
  qPublicationsMap_eq := h'.qPublicationsMap_eq.trans h.qPublicationsMap_eq
  log_eq := by
    obtain ⟨es, hlog, hes⟩ := h.log_eq
    obtain ⟨es', hlog', hes'⟩ := h'.log_eq
    refine ⟨es' ++ es, by rw [hlog', hlog, List.append_assoc], ?_⟩
    exact List.forall_mem_append.mpr ⟨hes', hes⟩

omit [DecidableEq Namespace] in
/-- The sources' table and answers are the same. -/
theorem KeepsAllocations.subAllocations_eq {c c' : QController Suite Ctx Namespace}
    (h : KeepsAllocations c c') : subAllocations c' = subAllocations c := by
  obtain ⟨es, hlog, hes⟩ := h.log_eq
  have hnone : es.reverse.filterMap subAnswer = [] := by
    rw [List.filterMap_eq_nil_iff]
    intro e he
    have hcalm := hes e (List.mem_reverse.mp he)
    cases e with
    | allocateSubBySourceId _ _ _ => cases hcalm
    | _ => rfl
  unfold subAllocations
  rw [h.qSubscriptionsMap_eq, hlog, List.reverse_append, List.filterMap_append, hnone,
    List.append_nil]

omit [DecidableEq Namespace] in
/-- The namespaces' table and answers are the same. -/
theorem KeepsAllocations.pubAllocations_eq {c c' : QController Suite Ctx Namespace}
    (h : KeepsAllocations c c') (q : Quicr Namespace) :
    pubAllocations q c' = pubAllocations q c := by
  obtain ⟨es, hlog, hes⟩ := h.log_eq
  have hnone : es.reverse.filterMap (pubAnswer q) = [] := by
    rw [List.filterMap_eq_nil_iff]
    intro e he
    have hcalm := hes e (List.mem_reverse.mp he)
    cases e with
    | allocatePubByNamespace _ _ _ _ _ => cases hcalm
    | _ => rfl
  unfold pubAllocations
  rw [h.qPublicationsMap_eq, hlog, List.reverse_append, List.filterMap_append, hnone,
    List.append_nil]

section Steps

variable (env : Environment Namespace) (L : Libs Suite Ctx Namespace)

omit [DecidableEq Namespace] in
/-- A subscribe request allocates nothing. -/
theorem subscribe_keepsAllocations (c : QController Suite Ctx Namespace)
    (delegate : SubscriptionDelegate Suite Ctx Namespace) (transportMode : TransportMode) :
    KeepsAllocations c (c.subscribe delegate transportMode) := by
  rw [subscribe_eq]
  refine ⟨rfl, rfl, _, rfl, ?_⟩
  intro e he
  obtain ⟨r, -, rfl⟩ := List.mem_map.mp he
  rfl

/-- `startSubscription` is given its delegate. -/
theorem startSubscription_keepsAllocations (c : QController Suite Ctx Namespace) (qDelegate : Ref)
    (sourceId : SourceId) (ns : Namespace) (intent : SubscribeIntent) (originUrl : String)
    (transportMode : TransportMode) (authToken : String) (e2eToken : Bytes) :
    KeepsAllocations c (c.startSubscription env L qDelegate sourceId ns intent originUrl
      transportMode authToken e2eToken).2 := by
  unfold startSubscription findQuicrSubscriptionDelegate createQuicrSubscriptionDelegate
  cases c.quicrSubscriptionsMap.lookup ns with
  | some delegate => exact subscribe_keepsAllocations c delegate transportMode
  | none =>
      have hcreated (m : Map Namespace (SubscriptionDelegate Suite Ctx Namespace)) :
          KeepsAllocations c { c with quicrSubscriptionsMap := m } := ⟨rfl, rfl, [], rfl, by simp⟩
      exact (hcreated _).trans (subscribe_keepsAllocations _ _ transportMode)

/-- So is the loop over the profiles. -/
theorem startSubscriptions_keepsAllocations (c : QController Suite Ctx Namespace) (delegate : Ref)
    (sourceId : SourceId) (transportMode : TransportMode) (profiles : List (Profile Namespace)) :
    KeepsAllocations c
      (c.startSubscriptions env L delegate sourceId transportMode profiles) := by
  induction profiles generalizing c with
  | nil => exact KeepsAllocations.refl c
  | cons profile profiles ih =>
      have hone := startSubscription_keepsAllocations env L c delegate sourceId
        profile.quicrNamespace .syncUp "" transportMode "" []
      unfold startSubscriptions
      simp only
      split
      · exact hone
      · exact hone.trans (ih _)

omit [DecidableEq Namespace] in
/-- Calls that do not allocate leave the tables alone. -/
theorem withCalls_keepsAllocations (c : QController Suite Ctx Namespace)
    {es : List (Event Namespace)} (hes : ∀ e ∈ es, isAllocation e = false) :
    KeepsAllocations c (withCalls c es) := ⟨rfl, rfl, es, rfl, hes⟩

/-- After it has its delegate, a stream allocates nothing. -/
theorem processSubscription_keepsAllocations (c : QController Suite Ctx Namespace)
    (stream : MediaStream Namespace) :
    KeepsAllocations (c.getSubscriptionDelegate env stream.sourceId stream.profileSet).2
      (c.processSubscription env L stream).2 := by
  obtain ⟨es, hes, hcases⟩ := processSubscription_given env L c stream
  have hasked : ∀ e ∈ es, isAllocation e = false := by
    intro e he
    have hasks := hes e he
    cases e with
    | allocateSubBySourceId _ _ _ => cases hasks
    | allocatePubByNamespace _ _ _ _ _ => cases hasks
    | _ => rfl
  rcases hcases with ⟨-, heq⟩ | ⟨-, delegate, transportMode, -, heq⟩
  · rw [heq]
    exact withCalls_keepsAllocations _ hasked
  · rw [heq]
    exact (withCalls_keepsAllocations _ hasked).trans
      (startSubscriptions_keepsAllocations env L _ delegate _ transportMode _)

/-- After it has its delegate, a profile allocates nothing. -/
theorem processProfile_keepsAllocations (c : QController Suite Ctx Namespace)
    (stream : MediaStream Namespace) (profile : Profile Namespace) :
    KeepsAllocations (c.getPublicationDelegate env L.toQuicr profile.quicrNamespace
        stream.sourceId profile.qualityProfile profile.appTag).2
      (c.processProfile env L stream profile).2 := by
  obtain ⟨es, hes, hcases⟩ := processProfile_given env L c stream profile rfl
  have hasked : ∀ e ∈ es, isAllocation e = false := by
    intro e he
    obtain ⟨delegate, result, rfl⟩ := hes e he
    rfl
  rcases hcases with
    ⟨heq, -⟩ | ⟨session, qDelegate, time, request, accepted, -, -, -, -, -, heq⟩
  · rw [heq]
    exact withCalls_keepsAllocations _ hasked
  · rw [heq]
    exact ⟨rfl, rfl, .publishIntent session request accepted :: es, rfl,
      List.forall_mem_cons.mpr ⟨rfl, hasked⟩⟩

/-- Publishing allocates nothing. -/
theorem publishNamedObject_keepsAllocations (c : QController Suite Ctx Namespace) (ns : Namespace)
    (data : Bytes) (groupFlag : Bool) (startTime : ℕ) :
    KeepsAllocations c (c.publishNamedObject L ns data groupFlag startTime).2 := by
  obtain ⟨m, es, hes, heq⟩ := publishNamedObject_frame L c ns data groupFlag startTime
  rw [heq]
  refine ⟨rfl, rfl, es, rfl, ?_⟩
  intro e he
  obtain ⟨session, object, rfl⟩ := hes e he
  rfl

/-- Stopping a subscription leaves the delegate of its source in the table. -/
theorem stopSubscription_keepsAllocations (c : QController Suite Ctx Namespace)
    (ns : Namespace) : KeepsAllocations c (c.stopSubscription ns) := by
  rcases stopSubscription_cases c ns with ⟨-, heq⟩ | ⟨delegate, -, heq⟩
  · rw [heq]
    exact KeepsAllocations.refl c
  · rw [heq]
    refine ⟨rfl, rfl, _, rfl, ?_⟩
    intro e he
    obtain ⟨r, -, rfl⟩ := List.mem_map.mp he
    rfl

/-- Changing a subscription allocates nothing. -/
theorem setSubscriptionState_keepsAllocations (c : QController Suite Ctx Namespace)
    (ns : Namespace) (transportMode : TransportMode) :
    KeepsAllocations c (c.setSubscriptionState ns transportMode) := by
  rcases setSubscriptionState_cases c ns transportMode with ⟨-, heq⟩ | ⟨delegate, -, heq⟩
  · rw [heq]
    exact KeepsAllocations.refl c
  · rw [heq]
    exact subscribe_keepsAllocations c delegate transportMode

/-- Changing a publication allocates nothing. -/
theorem setPublicationState_keepsAllocations (c : QController Suite Ctx Namespace)
    (ns : Namespace) (state : PublicationState) :
    KeepsAllocations c (c.setPublicationState ns state) := by
  rcases setPublicationState_cases c ns state with ⟨-, heq⟩ | ⟨publication, -, heq⟩
  · rw [heq]
    exact KeepsAllocations.refl c
  · rw [heq]
    exact ⟨rfl, rfl, [], rfl, by simp⟩

/-- Only a manifest allocates. -/
theorem controllerStep_keepsAllocations (c : QController Suite Ctx Namespace)
    {op : ControllerOp Namespace} (hop : ∀ m, op ≠ .updateManifest m) :
    KeepsAllocations c (controllerStep env L c op).2 := by
  cases op with
  | updateManifest m => exact absurd rfl (hop m)
  | connect config =>
      obtain ⟨success, heq⟩ := connect_eq env c config
      show KeepsAllocations c (c.connect env config).2
      rw [heq]
      exact ⟨rfl, rfl, [_], rfl, by simp [isAllocation]⟩
  | disconnect =>
      show KeepsAllocations c c.disconnect.2
      rcases disconnect_cases c with ⟨-, heq⟩ | ⟨-, heq⟩
      · rw [heq]
        exact KeepsAllocations.refl c
      · rw [heq]
        exact ⟨rfl, rfl, _, rfl, by simp [isAllocation]⟩
  | publishNamedObject ns data groupFlag startTime =>
      exact publishNamedObject_keepsAllocations L c ns data groupFlag startTime
  | stopSubscription ns => exact stopSubscription_keepsAllocations c ns
  | setPublicationState ns state => exact setPublicationState_keepsAllocations c ns state
  | setSubscriptionState ns transportMode =>
      exact setSubscriptionState_keepsAllocations c ns transportMode
  | _ => exact ⟨rfl, rfl, [], rfl, by simp⟩

end Steps

/-! ## Failed allocations -/

section Failures

variable (env : Environment Namespace) (L : Libs Suite Ctx Namespace)

omit [DecidableEq Namespace] in
/-- Both tables hold the first answers of their allocators. -/
def AllRecorded (q : Quicr Namespace) (c : QController Suite Ctx Namespace) : Prop :=
  Recorded (subAllocations c) ∧ Recorded (pubAllocations q c)

omit [DecidableEq Namespace] in
/-- No allocator has answered null. -/
def NothingRefused (q : Quicr Namespace) (c : QController Suite Ctx Namespace) : Prop :=
  NoRefusal (subAllocations c) ∧ NoRefusal (pubAllocations q c)

omit [DecidableEq Namespace] in
/-- The stream's source is met without a trace of failed allocations. -/
def StreamLeavesNoTrace (c : QController Suite Ctx Namespace) (stream : MediaStream Namespace) :
    Prop :=
  LeavesNoTrace (c.qSubscriberDelegate ≠ none) stream.sourceId (subAllocations c)
    (subAllocations (c.getSubscriptionDelegate env stream.sourceId stream.profileSet).2)

omit [DecidableEq Namespace] in
/-- The profile's namespace is met without a trace of failed allocations. -/
def ProfileLeavesNoTrace (c : QController Suite Ctx Namespace) (stream : MediaStream Namespace)
    (profile : Profile Namespace) : Prop :=
  LeavesNoTrace (c.qPublisherDelegate ≠ none) (L.str profile.quicrNamespace)
    (pubAllocations L.toQuicr c)
    (pubAllocations L.toQuicr (c.getPublicationDelegate env L.toQuicr profile.quicrNamespace
      stream.sourceId profile.qualityProfile profile.appTag).2)

/-- Every profile that the inner loop meets leaves no trace. -/
def ProfilesLeaveNoTrace (c : QController Suite Ctx Namespace) (stream : MediaStream Namespace) :
    List (Profile Namespace) → Prop
  | [] => True
  | profile :: profiles =>
      ProfileLeavesNoTrace env L c stream profile ∧
        let (outcome, c) := c.processProfile env L stream profile
        if outcome = .started && c.isSingleorderedPublication then True
        else ProfilesLeaveNoTrace c stream profiles

/-- The body of the outer loop, as a machine step. -/
def publicationStep (c : QController Suite Ctx Namespace) (stream : MediaStream Namespace) :
    Unit × QController Suite Ctx Namespace :=
  ((), c.processProfiles env L stream stream.profileSet.profiles)

/-- Every source and every namespace that a manifest meets is met without a trace of
failed allocations. -/
def ManifestLeavesNoTrace (c : QController Suite Ctx Namespace) (m : Manifest Namespace) : Prop :=
  EachStep (processSubscription env L) (StreamLeavesNoTrace env) c m.subscriptions ∧
    EachStep (publicationStep env L)
      (fun c stream => ProfilesLeaveNoTrace env L c stream stream.profileSet.profiles)
      (c.processSubscriptions env L m.subscriptions) m.publications

omit [DecidableEq Namespace] in
/-- `getSwitchingSets` lists only sources for which a delegate was allocated. -/
def ListsAllocated (c : QController Suite Ctx Namespace) : Prop :=
  ∀ sourceId ∈ c.getSwitchingSets, granted (subAllocations c).answers sourceId ≠ none

/-- A call leaves no trace of failed allocations. -/
def CallLeavesNoTrace (c : QController Suite Ctx Namespace) (op : ControllerOp Namespace) : Prop :=
  (∀ m, op = .updateManifest m → ManifestLeavesNoTrace env L c m) ∧
    ListsAllocated (controllerStep env L c op).2

/-! ### One meeting -/

omit [DecidableEq Namespace] in
/-- Asking about a source leaves the namespaces' table alone. -/
theorem getSubscriptionDelegate_pubAllocations (q : Quicr Namespace)
    (c : QController Suite Ctx Namespace) (sourceId : SourceId)
    (profileSet : ProfileSet Namespace) :
    pubAllocations q (c.getSubscriptionDelegate env sourceId profileSet).2 =
      pubAllocations q c := by
  unfold getSubscriptionDelegate
  split
  · rfl
  · split
    · rfl
    · simp [pubAllocations, QController.call, pubAnswer]

omit [DecidableEq Namespace] in
/-- Asking about a namespace leaves the sources' table alone. -/
theorem getPublicationDelegate_subAllocations (q : Quicr Namespace)
    (c : QController Suite Ctx Namespace) (ns : Namespace)
    (sourceID qualityProfile appTag : String) :
    subAllocations (c.getPublicationDelegate env q ns sourceID qualityProfile appTag).2 =
      subAllocations c := by
  unfold getPublicationDelegate
  split
  · rfl
  · split
    · rfl
    · simp [subAllocations, QController.call, subAnswer]

omit [DecidableEq Namespace] in
/-- Without new answers the tables still record all of them. -/
theorem KeepsAllocations.allRecorded {q : Quicr Namespace} {c c' : QController Suite Ctx Namespace}
    (h : KeepsAllocations c c') (hc : AllRecorded q c) : AllRecorded q c' := by
  unfold AllRecorded
  rw [h.subAllocations_eq, h.pubAllocations_eq q]
  exact hc

omit [DecidableEq Namespace] in
/-- Without new answers nothing new is refused. -/
theorem KeepsAllocations.nothingRefused_iff {q : Quicr Namespace}
    {c c' : QController Suite Ctx Namespace} (h : KeepsAllocations c c') :
    NothingRefused q c' ↔ NothingRefused q c := by
  unfold NothingRefused
  rw [h.subAllocations_eq, h.pubAllocations_eq q]

/-- **One stream.** -/
theorem processSubscription_nothingRefused {c : QController Suite Ctx Namespace}
    (h : AllRecorded L.toQuicr c) (stream : MediaStream Namespace) :
    AllRecorded L.toQuicr (c.processSubscription env L stream).2 ∧
      (NothingRefused L.toQuicr (c.processSubscription env L stream).2 ↔
        NothingRefused L.toQuicr c ∧ StreamLeavesNoTrace env c stream) := by
  have hkeeps := processSubscription_keepsAllocations env L c stream
  have hfind := getSubscriptionDelegate_findOrAllocate env c stream.sourceId stream.profileSet
  have hpub := getSubscriptionDelegate_pubAllocations env L.toQuicr c stream.sourceId
    stream.profileSet
  constructor
  · refine hkeeps.allRecorded ⟨hfind.recorded h.1, ?_⟩
    rw [hpub]
    exact h.2
  · rw [hkeeps.nothingRefused_iff]
    unfold NothingRefused
    rw [hpub, hfind.noRefusal_iff h.1, and_right_comm]
    rfl

/-- **One profile.** -/
theorem processProfile_nothingRefused {c : QController Suite Ctx Namespace}
    (h : AllRecorded L.toQuicr c) (stream : MediaStream Namespace)
    (profile : Profile Namespace) :
    AllRecorded L.toQuicr (c.processProfile env L stream profile).2 ∧
      (NothingRefused L.toQuicr (c.processProfile env L stream profile).2 ↔
        NothingRefused L.toQuicr c ∧ ProfileLeavesNoTrace env L c stream profile) := by
  have hkeeps := processProfile_keepsAllocations env L c stream profile
  have hfind := getPublicationDelegate_findOrAllocate env L.toQuicr c profile.quicrNamespace
    stream.sourceId profile.qualityProfile profile.appTag
  have hsub := getPublicationDelegate_subAllocations env L.toQuicr c profile.quicrNamespace
    stream.sourceId profile.qualityProfile profile.appTag
  constructor
  · refine hkeeps.allRecorded ⟨?_, hfind.recorded h.2⟩
    rw [hsub]
    exact h.1
  · rw [hkeeps.nothingRefused_iff]
    unfold NothingRefused
    rw [hsub, hfind.noRefusal_iff h.2, and_assoc]
    rfl

/-! ### The loops -/

/-- The loop over the profiles of a stream, by induction on them. -/
theorem processProfiles_nothingRefused {c : QController Suite Ctx Namespace}
    (h : AllRecorded L.toQuicr c) (stream : MediaStream Namespace)
    (profiles : List (Profile Namespace)) :
    AllRecorded L.toQuicr (c.processProfiles env L stream profiles) ∧
      (NothingRefused L.toQuicr (c.processProfiles env L stream profiles) ↔
        NothingRefused L.toQuicr c ∧ ProfilesLeaveNoTrace env L c stream profiles) := by
  induction profiles generalizing c with
  | nil => exact ⟨h, (and_iff_left trivial).symm⟩
  | cons profile profiles ih =>
      obtain ⟨hone, hrefused⟩ := processProfile_nothingRefused env L h stream profile
      unfold processProfiles ProfilesLeaveNoTrace
      simp only
      split
      · exact ⟨hone, hrefused.trans (and_congr_right fun _ => (and_iff_left trivial).symm)⟩
      · obtain ⟨hrest, hrestRefused⟩ := ih hone
        refine ⟨hrest, ?_⟩
        rw [hrestRefused, hrefused, and_assoc]

/-- **One manifest.** -/
theorem updateManifest_nothingRefused {c : QController Suite Ctx Namespace}
    (h : AllRecorded L.toQuicr c) (m : Manifest Namespace) :
    AllRecorded L.toQuicr (c.updateManifest env L m) ∧
      (NothingRefused L.toQuicr (c.updateManifest env L m) ↔
        NothingRefused L.toQuicr c ∧ ManifestLeavesNoTrace env L c m) := by
  have hsubs : AllRecorded L.toQuicr (c.processSubscriptions env L m.subscriptions) :=
    finalState_invariant (processSubscription env L) (AllRecorded L.toQuicr) m.subscriptions
      (fun _ stream _ hc => (processSubscription_nothingRefused env L hc stream).1) c h
  have hfirst := finalState_iff_eachStep (AllRecorded L.toQuicr) (NothingRefused L.toQuicr)
    (fun _ stream hc => (processSubscription_nothingRefused env L hc stream).1)
    (fun _ stream hc => (processSubscription_nothingRefused env L hc stream).2) c m.subscriptions h
  have hstep (c : QController Suite Ctx Namespace) (stream : MediaStream Namespace)
      (hc : AllRecorded L.toQuicr c) :
      AllRecorded L.toQuicr (publicationStep env L c stream).2 ∧
        (NothingRefused L.toQuicr (publicationStep env L c stream).2 ↔ NothingRefused L.toQuicr c ∧
          ProfilesLeaveNoTrace env L c stream stream.profileSet.profiles) :=
    processProfiles_nothingRefused env L hc stream _
  have hsecond := finalState_iff_eachStep (AllRecorded L.toQuicr) (NothingRefused L.toQuicr)
    (fun c stream hc => (hstep c stream hc).1) (fun c stream hc => (hstep c stream hc).2) _
    m.publications hsubs
  constructor
  · exact finalState_invariant (publicationStep env L) (AllRecorded L.toQuicr) m.publications
      (fun c stream _ hc => (hstep c stream hc).1) _ hsubs
  · show NothingRefused L.toQuicr (finalState (publicationStep env L) _ m.publications) ↔ _
    rw [hsecond]
    show NothingRefused L.toQuicr (finalState (processSubscription env L) c m.subscriptions) ∧ _ ↔ _
    rw [hfirst, and_assoc]
    rfl

omit [DecidableEq Namespace] in
/-- Where nothing was refused, whatever is listed was allocated. -/
theorem AllRecorded.listsAllocated {q : Quicr Namespace} {c : QController Suite Ctx Namespace}
    (h : AllRecorded q c) (hno : NothingRefused q c) : ListsAllocated c := by
  intro sourceId hmem hnone
  have htable := h.1.table_eq hno.1 sourceId
  rw [hnone] at htable
  exact AList.lookup_eq_none.mp htable hmem

/-- **One call.** -/
theorem controllerStep_nothingRefused {c : QController Suite Ctx Namespace}
    (h : AllRecorded L.toQuicr c) (op : ControllerOp Namespace) :
    AllRecorded L.toQuicr (controllerStep env L c op).2 ∧
      (NothingRefused L.toQuicr (controllerStep env L c op).2 ↔
        NothingRefused L.toQuicr c ∧ CallLeavesNoTrace env L c op) := by
  have hcall : AllRecorded L.toQuicr (controllerStep env L c op).2 ∧
      (NothingRefused L.toQuicr (controllerStep env L c op).2 ↔ NothingRefused L.toQuicr c ∧
        ∀ m, op = .updateManifest m → ManifestLeavesNoTrace env L c m) := by
    by_cases hop : ∃ m, op = .updateManifest m
    · obtain ⟨m, rfl⟩ := hop
      obtain ⟨hrecorded, hrefused⟩ := updateManifest_nothingRefused env L h m
      refine ⟨hrecorded, hrefused.trans (and_congr_right fun _ => ?_)⟩
      constructor
      · rintro hleaves _ ⟨⟩
        exact hleaves
      · exact fun hleaves => hleaves m rfl
    · have hkeeps := controllerStep_keepsAllocations env L c fun m hm => hop ⟨m, hm⟩
      refine ⟨hkeeps.allRecorded h, hkeeps.nothingRefused_iff.trans (and_iff_left ?_).symm⟩
      exact fun m hm => absurd ⟨m, hm⟩ hop
  refine ⟨hcall.1, ?_⟩
  unfold CallLeavesNoTrace
  rw [← and_assoc, ← hcall.2]
  exact (and_iff_left_of_imp hcall.1.listsAllocated).symm

/-- **Failed allocations.** In every run of a new controller, whatever the allocators
answer: failed allocations leave no trace exactly if there are none. That is, each call of
an allocator that answers null leaves its map as it was, `getSwitchingSets` lists only
sources for which a delegate was allocated, and each source and each namespace that a
manifest meets is allocated again until a delegate is granted and then no more, exactly in
the runs in which no allocator answers null.
SOURCE: src/QController.cpp:264-301, src/QController.cpp:391-482 -/
theorem leavesNoTrace_iff {qSubscriberDelegate qPublisherDelegate : Option Ref}
    {logger debugging : Bool} {cipherSuite : Option Suite} {c₀ : QController Suite Ctx Namespace}
    (hc₀ : QController.create qSubscriberDelegate qPublisherDelegate logger debugging cipherSuite =
      .ok c₀) (ops : List (ControllerOp Namespace)) :
    EachStep (controllerStep env L) (CallLeavesNoTrace env L) c₀ ops ↔
      NothingRefused L.toQuicr (finalState (controllerStep env L) c₀ ops) := by
  have hstart : AllRecorded L.toQuicr c₀ ∧ NothingRefused L.toQuicr c₀ := by
    obtain rfl := create_ok hc₀
    exact ⟨⟨rfl, rfl⟩, nofun, nofun⟩
  rw [finalState_iff_eachStep (AllRecorded L.toQuicr) (NothingRefused L.toQuicr)
    (fun _ op hc => (controllerStep_nothingRefused env L hc op).1)
    (fun _ op hc => (controllerStep_nothingRefused env L hc op).2) c₀ ops hstart.1]
  exact (and_iff_right hstart.2).symm

end Failures

/-- An application that allocates whatever it is asked for. -/
theorem leavesNoTrace_iff_camera :
    EachStep (controllerStep (takesAll true) referenceLibs)
        (CallLeavesNoTrace (takesAll true) referenceLibs) (newController none)
        [.updateManifest (subscribeCamera "A"), .updateManifest (subscribeCamera "A")] ↔
      NothingRefused referenceLibs.toQuicr (finalState (controllerStep (takesAll true) referenceLibs)
        (newController none)
        [.updateManifest (subscribeCamera "A"), .updateManifest (subscribeCamera "A")]) :=
  leavesNoTrace_iff (takesAll true) referenceLibs (create_newController none)
    [.updateManifest (subscribeCamera "A"), .updateManifest (subscribeCamera "A")]

/-- An application that refuses the first delegate it is asked for and no other. -/
def refusesFirst : Environment Prefix :=
  { takesAll true with
    allocateSubBySourceId := fun log _ _ => if log.any isAllocation then some 1 else none
    allocatePubByNamespace := fun log _ _ _ _ => if log.any isAllocation then some 1 else none }

/-- The source whose delegate was refused is a switching set, and the namespace whose
delegate was refused is met again without asking for one. -/
theorem refusal_is_kept :
    ¬ EachStep (controllerStep refusesFirst referenceLibs)
        (CallLeavesNoTrace refusesFirst referenceLibs) (newController none)
        [.updateManifest (subscribeCamera "A"), .updateManifest (subscribeCamera "A")] ∧
      ¬ EachStep (controllerStep refusesFirst referenceLibs)
        (CallLeavesNoTrace refusesFirst referenceLibs) (newController none)
        [.updateManifest cameraManifest, .updateManifest cameraManifest] := by
  constructor
  · rintro ⟨⟨-, hlists⟩, -⟩
    have hallocated := hlists "A" (by decide +kernel)
    revert hallocated
    decide +kernel
  · rintro ⟨-, ⟨hmanifest, -⟩, -⟩
    obtain ⟨-, ⟨hprofile, -⟩, -⟩ := hmanifest cameraManifest rfl
    obtain ⟨answer, hasked⟩ := hprofile.asks_iff.mpr ⟨by decide +kernel, by decide +kernel⟩
    have hlength := congrArg List.length hasked
    rw [List.length_append, List.length_singleton] at hlength
    revert hlength
    decide +kernel

end Qmedia.Analysis
