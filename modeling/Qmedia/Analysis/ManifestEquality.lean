import Qmedia.Analysis.ManifestPublications

/-!
# What `operator==` says about manifests

The operator compares every field of a manifest but the application tag of a profile, at
every level in the same way: two lists are equal if their elements are and if their tags
are equal too (`isEqv_and_map_iff`). So manifests that compare equal are equal, and are
applied alike, exactly if their tags agree (`operatorEq_congruence_iff`). Applying them is
enough to tell, as long as each published profile has a delegate of its own: an application
that refuses every publication is told every tag (`appliedAlike_iff`).
-/

set_option autoImplicit false

namespace Qmedia.Analysis

open Qmedia.Library Qmedia.Model Qmedia.Model.QController

section Equality

variable {Namespace : Type} [DecidableEq Namespace]

/-- Where a comparison and a key together decide equality, so do the comparison of lists
and the list of keys. -/
theorem isEqv_and_map_iff {α κ : Type} {eq : α → α → Bool} {key : α → κ}
    (h : ∀ x y, eq x y = true ∧ key x = key y ↔ x = y) (xs ys : List α) :
    xs.isEqv ys eq = true ∧ xs.map key = ys.map key ↔ xs = ys := by
  induction xs generalizing ys with
  | nil =>
      cases ys with
      | nil => simp [List.isEqv]
      | cons y ys => simp [List.isEqv]
  | cons x xs ih =>
      cases ys with
      | nil => simp [List.isEqv]
      | cons y ys =>
          have hhead := h x y
          have htail := ih ys
          simp only [List.isEqv, Bool.and_eq_true, List.map_cons, List.cons.injEq, ← hhead, ← htail]
          constructor
          · rintro ⟨⟨heq, heqs⟩, hkey, hkeys⟩
            exact ⟨⟨heq, hkey⟩, heqs, hkeys⟩
          · rintro ⟨⟨heq, hkey⟩, heqs, hkeys⟩
            exact ⟨⟨heq, heqs⟩, hkey, hkeys⟩

omit [DecidableEq Namespace] in
/-- The application tags of a stream's profiles. -/
def streamTags (stream : MediaStream Namespace) : List String :=
  stream.profileSet.profiles.map Profile.appTag

omit [DecidableEq Namespace] in
/-- The application tags of a manifest, by list, stream and profile. -/
def appTags (m : Manifest Namespace) : List (List String) × List (List String) :=
  (m.subscriptions.map streamTags, m.publications.map streamTags)

/-- The tag is the one member of a profile that `operator==` omits. -/
theorem profile_operatorEq_iff (p q : Profile Namespace) :
    p.operatorEq q = true ∧ p.appTag = q.appTag ↔ p = q := by
  unfold Profile.operatorEq
  cases p with
  | mk quality ns priorities expiry tag =>
      cases q with
      | mk quality' ns' priorities' expiry' tag' =>
          simp [and_assoc]

/-- Profile sets are equal if they compare equal and have the same tags. -/
theorem profileSet_operatorEq_iff (s t : ProfileSet Namespace) :
    s.operatorEq t = true ∧ s.profiles.map Profile.appTag = t.profiles.map Profile.appTag ↔
      s = t := by
  have hlists := isEqv_and_map_iff profile_operatorEq_iff s.profiles t.profiles
  unfold ProfileSet.operatorEq
  cases s with
  | mk type profiles =>
      cases t with
      | mk type' profiles' =>
          simp only [ProfileSet.mk.injEq, Bool.and_eq_true, beq_iff_eq, and_assoc] at hlists ⊢
          rw [hlists]

/-- Media streams are equal if they compare equal and have the same tags. -/
theorem mediaStream_operatorEq_iff (s t : MediaStream Namespace) :
    s.operatorEq t = true ∧ streamTags s = streamTags t ↔ s = t := by
  have hset := profileSet_operatorEq_iff s.profileSet t.profileSet
  unfold MediaStream.operatorEq streamTags
  cases s with
  | mk mediaType sourceName sourceId label profileSet =>
      cases t with
      | mk mediaType' sourceName' sourceId' label' profileSet' =>
          simp only [MediaStream.mk.injEq, Bool.and_eq_true, beq_iff_eq, and_assoc] at hset ⊢
          rw [hset]

/-- **Equal manifests.** The operator and the tags together decide equality. -/
theorem manifest_operatorEq_iff (m m' : Manifest Namespace) :
    m.operatorEq m' = true ∧ appTags m = appTags m' ↔ m = m' := by
  have hsubscriptions := isEqv_and_map_iff mediaStream_operatorEq_iff m.subscriptions
    m'.subscriptions
  have hpublications := isEqv_and_map_iff mediaStream_operatorEq_iff m.publications m'.publications
  unfold Manifest.operatorEq appTags
  cases m with
  | mk subscriptions publications =>
      cases m' with
      | mk subscriptions' publications' =>
          simp only [Manifest.mk.injEq, Bool.and_eq_true, Prod.mk.injEq] at *
          rw [← hsubscriptions, ← hpublications]
          exact and_and_and_comm

end Equality

/-! ## Applying equal manifests -/

section Applying

variable {Suite Ctx Namespace : Type} [DecidableEq Namespace]

omit [DecidableEq Namespace] in
/-- The answers of the application depend only on the arguments it is called with. -/
structure AnswersByArguments (env : Environment Namespace) : Prop where
  allocateSubBySourceId : ∀ log log' sourceId profileSet,
    env.allocateSubBySourceId log sourceId profileSet =
      env.allocateSubBySourceId log' sourceId profileSet
  updateSubscription : ∀ log log' delegate sourceId label profileSet,
    env.updateSubscription log delegate sourceId label profileSet =
      env.updateSubscription log' delegate sourceId label profileSet
  prepareSubscription : ∀ log log' delegate sourceId label profileSet mode,
    env.prepareSubscription log delegate sourceId label profileSet mode =
      env.prepareSubscription log' delegate sourceId label profileSet mode
  allocatePubByNamespace : ∀ log log' ns sourceId qualityProfile appTag,
    env.allocatePubByNamespace log ns sourceId qualityProfile appTag =
      env.allocatePubByNamespace log' ns sourceId qualityProfile appTag
  preparePublication : ∀ log log' delegate sourceId qualityProfile mode,
    env.preparePublication log delegate sourceId qualityProfile mode =
      env.preparePublication log' delegate sourceId qualityProfile mode

/-- In every state the two manifests make the same calls, with the same arguments, and lead
to the same state; the calls are part of the state. -/
def AppliedAlike (L : Libs Suite Ctx Namespace) (m m' : Manifest Namespace) : Prop :=
  ∀ env, AnswersByArguments env → ∀ c : QController Suite Ctx Namespace,
    c.updateManifest env L m = c.updateManifest env L m'

/-- **Congruence.** Manifests that compare equal agree in every field and are applied alike
exactly if corresponding profiles have the same application tag.
SOURCE: src/ManifestTypes.cpp:71-91, src/QController.cpp:391-482 -/
theorem operatorEq_congruence_iff (L : Libs Suite Ctx Namespace) {m m' : Manifest Namespace}
    (h : m.operatorEq m' = true) : (m = m' ∧ AppliedAlike L m m') ↔ appTags m = appTags m' := by
  constructor
  · rintro ⟨rfl, -⟩
    rfl
  · intro htags
    obtain rfl := (manifest_operatorEq_iff m m').mp ⟨h, htags⟩
    exact ⟨rfl, fun _ _ _ => rfl⟩

end Applying

/-! ## The tags an application is told -/

section Told

variable {Suite Ctx Namespace : Type} [DecidableEq Namespace] (L : Libs Suite Ctx Namespace)

/-- It has a delegate for every stream, which updates nothing anew, and refuses every
publication. -/
def refusesPublications : Environment Namespace :=
  { takesAll false with
    updateSubscription := fun _ _ _ _ _ => 0
    allocatePubByNamespace := fun _ _ _ _ _ => none }

omit [DecidableEq Namespace] in
/-- It gives the same answers whatever was called before. -/
theorem refusesPublications_answersByArguments :
    AnswersByArguments (refusesPublications : Environment Namespace) where
  allocateSubBySourceId _ _ _ _ := rfl
  updateSubscription _ _ _ _ _ _ := rfl
  prepareSubscription _ _ _ _ _ _ _ := rfl
  allocatePubByNamespace _ _ _ _ _ _ := rfl
  preparePublication _ _ _ _ _ _ := rfl

omit [DecidableEq Namespace] in
/-- The application tags a call hands over: a stream's when its delegate is asked to update
it, a profile's when a delegate is asked for. -/
def tagsTold : Event Namespace → List String
  | .updateSubscription _ _ _ profileSet _ => profileSet.profiles.map Profile.appTag
  | .allocatePubByNamespace _ _ _ appTag _ => [appTag]
  | _ => []

omit [DecidableEq Namespace] in
/-- The tags handed over by the calls of a log, oldest first. -/
def allTagsTold (log : List (Event Namespace)) : List String := log.reverse.flatMap tagsTold

omit [DecidableEq Namespace] in
/-- The newest call is told last. -/
@[simp] theorem allTagsTold_cons (e : Event Namespace) (log : List (Event Namespace)) :
    allTagsTold (e :: log) = allTagsTold log ++ tagsTold e := by
  unfold allTagsTold
  simp

omit [DecidableEq Namespace] in
/-- There is an application, and it has not refused a stream. -/
structure GivesDelegates (c : QController Suite Ctx Namespace) : Prop where
  subscriber : c.qSubscriberDelegate ≠ none
  given : ∀ sourceId, c.qSubscriptionsMap.lookup sourceId ≠ some none

/-- The application is told every tag of a stream to subscribe to. -/
theorem processSubscription_told {c : QController Suite Ctx Namespace} (h : GivesDelegates c)
    (stream : MediaStream Namespace) :
    GivesDelegates (c.processSubscription refusesPublications L stream).2 ∧
      allTagsTold (c.processSubscription refusesPublications L stream).2.log =
        allTagsTold c.log ++ streamTags stream := by
  cases hl : c.qSubscriptionsMap.lookup stream.sourceId with
  | some delegate =>
      cases delegate with
      | none => exact absurd hl (h.given stream.sourceId)
      | some delegate =>
          have hstep : (c.processSubscription refusesPublications L stream).2 =
              c.call (.updateSubscription delegate stream.sourceId stream.label stream.profileSet
                0) := by
            unfold processSubscription getSubscriptionDelegate
            rw [if_neg h.subscriber, hl]
            rfl
          rw [hstep]
          exact ⟨⟨h.subscriber, h.given⟩, allTagsTold_cons _ _⟩
  | none =>
      have hstep : (c.processSubscription refusesPublications L stream).2 =
          { c with
            qSubscriptionsMap := c.qSubscriptionsMap.insert stream.sourceId (some 1)
            log := .updateSubscription 1 stream.sourceId stream.label stream.profileSet 0 ::
              .allocateSubBySourceId stream.sourceId stream.profileSet (some 1) :: c.log } := by
        unfold processSubscription getSubscriptionDelegate
        rw [if_neg h.subscriber, hl]
        rfl
      rw [hstep]
      refine ⟨⟨h.subscriber, ?_⟩, ?_⟩
      · intro sourceId
        by_cases hid : sourceId = stream.sourceId
        · rw [hid, AList.lookup_insert]
          nofun
        · rw [AList.lookup_insert_ne hid]
          exact h.given sourceId
      · rw [allTagsTold_cons, allTagsTold_cons]
        simp [tagsTold, streamTags]

/-- The application is told every tag of the subscriptions, in order. -/
theorem processSubscriptions_told {c : QController Suite Ctx Namespace} (h : GivesDelegates c)
    (streams : List (MediaStream Namespace)) :
    allTagsTold (c.processSubscriptions refusesPublications L streams).log =
      allTagsTold c.log ++ streams.flatMap streamTags := by
  unfold processSubscriptions
  induction streams generalizing c with
  | nil => simp
  | cons stream streams ih =>
      obtain ⟨hnext, htags⟩ := processSubscription_told L h stream
      rw [finalState_cons, ih hnext, htags, List.flatMap_cons, List.append_assoc]

/-- The key under which the delegate for a profile is looked up. -/
def delegateKey (x : MediaStream Namespace × Profile Namespace) : String :=
  L.str x.2.quicrNamespace

/-- A delegate is asked for exactly once for each profile, if no two share a key. -/
theorem profiles_told {c : QController Suite Ctx Namespace}
    (hpublisher : c.qPublisherDelegate ≠ none)
    {xs : List (MediaStream Namespace × Profile Namespace)}
    (hdistinct : (xs.map (delegateKey L)).Nodup)
    (hfree : ∀ x ∈ xs, c.qPublicationsMap.lookup (delegateKey L x) = none) :
    allTagsTold (finalState (profileStep refusesPublications L) c xs).log =
      allTagsTold c.log ++ xs.map fun x => x.2.appTag := by
  induction xs generalizing c with
  | nil => simp
  | cons x xs ih =>
      have hx := hfree x (List.mem_cons_self ..)
      have hstep : (profileStep refusesPublications L c x).2 =
          { c with
            qPublicationsMap := c.qPublicationsMap.insert (delegateKey L x) none
            log := .allocatePubByNamespace x.2.quicrNamespace x.1.sourceId x.2.qualityProfile
              x.2.appTag none :: c.log } := by
        unfold delegateKey at hx
        unfold profileStep processProfile getPublicationDelegate
        rw [if_neg hpublisher, hx]
        rfl
      rw [List.map_cons, List.nodup_cons] at hdistinct
      have hothers : ∀ y ∈ xs,
          (c.qPublicationsMap.insert (delegateKey L x) none).lookup (delegateKey L y) = none := by
        intro y hy
        have hne : delegateKey L y ≠ delegateKey L x := by
          intro heq
          exact hdistinct.1 (heq ▸ List.mem_map_of_mem hy)
        rw [AList.lookup_insert_ne hne]
        exact hfree y (List.mem_cons_of_mem x hy)
      rw [finalState_cons, hstep]
      refine (ih ?_ hdistinct.2 ?_).trans ?_
      · exact hpublisher
      · exact hothers
      · rw [allTagsTold_cons]
        simp [tagsTold]

/-- The whole manifest is told, with the tags of all its profiles. -/
theorem updateManifest_told (m : Manifest Namespace)
    (hdistinct : ((allProfiles m.publications).map (delegateKey L)).Nodup) :
    allTagsTold ((newController none : QController Suite Ctx Namespace).updateManifest
        refusesPublications L m).log =
      (m.subscriptions ++ m.publications).flatMap streamTags := by
  have hnew : GivesDelegates (newController none : QController Suite Ctx Namespace) :=
    ⟨nofun, fun sourceId => by simp [newController]⟩
  have hsubscriptions := processSubscriptions_told L hnew m.subscriptions
  obtain ⟨m₁, m₂, es, hside, -⟩ := processSubscriptions_side refusesPublications L
    (newController none) m.subscriptions
  have htags : (allProfiles m.publications).map (fun x => x.2.appTag) =
      m.publications.flatMap streamTags := by
    unfold allProfiles streamTags
    simp [List.map_flatMap, Function.comp_def]
  unfold updateManifest
  rw [processPublications_eq _ L m.publications _ (by rw [hside]; rfl),
    profiles_told L (by rw [hside]; nofun) hdistinct (fun x _ => by rw [hside]; rfl),
    hsubscriptions, htags, List.flatMap_append]
  rfl

omit [DecidableEq Namespace] in
/-- The namespaces of a stream's profiles. -/
def streamNamespaces (stream : MediaStream Namespace) : List Namespace :=
  stream.profileSet.profiles.map Profile.quicrNamespace

/-- What a comparison makes sure of for elements, it makes sure of for lists. -/
theorem map_eq_of_isEqv {α κ : Type} {eq : α → α → Bool} {key : α → κ}
    (h : ∀ x y, eq x y = true → key x = key y) {xs ys : List α} (heq : xs.isEqv ys eq = true) :
    xs.map key = ys.map key := by
  induction xs generalizing ys with
  | nil =>
      cases ys with
      | nil => rfl
      | cons y ys => cases heq
  | cons x xs ih =>
      cases ys with
      | nil => cases heq
      | cons y ys =>
          obtain ⟨hhead, htail⟩ := Bool.and_eq_true_iff.mp heq
          rw [List.map_cons, List.map_cons, h x y hhead, ih htail]

/-- Streams that compare equal list the same namespaces. -/
theorem streamNamespaces_eq {s t : MediaStream Namespace} (h : s.operatorEq t = true) :
    streamNamespaces s = streamNamespaces t := by
  unfold MediaStream.operatorEq ProfileSet.operatorEq at h
  simp only [Bool.and_eq_true] at h
  refine map_eq_of_isEqv ?_ h.2.2
  intro p q hpq
  unfold Profile.operatorEq at hpq
  simp only [Bool.and_eq_true, beq_iff_eq] at hpq
  exact hpq.1.1.2

/-- **Differing tags show.** Where no two published profiles share a key (nothing is asked
about the second of two that do), manifests that compare equal are applied alike exactly if
their tags agree.
SOURCE: src/ManifestTypes.cpp:71-75, src/QController.cpp:391-482 -/
theorem appliedAlike_iff {m m' : Manifest Namespace} (h : m.operatorEq m' = true)
    (hdistinct : ((m.publications.flatMap streamNamespaces).map L.str).Nodup) :
    AppliedAlike L m m' ↔ appTags m = appTags m' := by
  have hlists := h
  unfold Manifest.operatorEq at hlists
  rw [Bool.and_eq_true] at hlists
  have hsubscriptions := map_eq_of_isEqv (fun _ _ => streamNamespaces_eq) hlists.1
  have hpublications := map_eq_of_isEqv (fun _ _ => streamNamespaces_eq) hlists.2
  have hkeys (streams : List (MediaStream Namespace)) :
      (allProfiles streams).map (delegateKey L) = (streams.flatMap streamNamespaces).map L.str := by
    unfold allProfiles delegateKey streamNamespaces
    simp [List.map_flatMap, Function.comp_def]
  constructor
  · intro halike
    have hlog := congrArg (fun c => allTagsTold c.log)
      (halike refusesPublications refusesPublications_answersByArguments (newController none))
    have hdistinct' : ((m'.publications.flatMap streamNamespaces).map L.str).Nodup := by
      rwa [List.flatMap, ← hpublications]
    rw [updateManifest_told L m (by rwa [hkeys]), updateManifest_told L m' (by rwa [hkeys])] at hlog
    have hlengths (streams : List (MediaStream Namespace)) :
        (streams.map streamTags).map List.length =
          (streams.map streamNamespaces).map List.length := by
      unfold streamTags streamNamespaces
      simp [Function.comp_def]
    have hall : (m.subscriptions ++ m.publications).map streamTags =
        (m'.subscriptions ++ m'.publications).map streamTags := by
      refine List.eq_iff_flatten_eq.mpr ⟨hlog, ?_⟩
      simp only [hlengths, List.map_append, hsubscriptions, hpublications]
    have hcount : (m.subscriptions.map streamTags).length =
        (m'.subscriptions.map streamTags).length := by
      simpa using congrArg List.length hsubscriptions
    rw [List.map_append, List.map_append] at hall
    obtain ⟨hsubscribed, hpublished⟩ := List.append_inj hall hcount
    exact Prod.ext hsubscribed hpublished
  · intro htags
    obtain rfl := (manifest_operatorEq_iff m m').mp ⟨h, htags⟩
    exact fun _ _ _ => rfl

end Told

/-! ## Two cameras that differ in their tag -/

/-- A published camera with an application tag. -/
def taggedCamera (appTag : String) : Manifest Prefix :=
  ⟨[], [{ camera "80a6ac22" with
    profileSet := ⟨"simulcast", [{ cameraProfile with appTag := appTag }]⟩ }]⟩

/-- A camera compared with itself. -/
theorem operatorEq_congruence_iff_camera :
    (taggedCamera "primaryV" = taggedCamera "primaryV" ∧
        AppliedAlike referenceLibs (taggedCamera "primaryV") (taggedCamera "primaryV")) ↔
      appTags (taggedCamera "primaryV") = appTags (taggedCamera "primaryV") :=
  operatorEq_congruence_iff referenceLibs (by decide +kernel)

/-- An application that publishes only under the tag `"primaryV"`. -/
def takesPrimary : Environment Prefix :=
  { takesAll true with
    allocatePubByNamespace := fun _ _ _ _ appTag => if appTag = "primaryV" then some 1 else none }

/-- It gives the same answers whatever was called before. -/
theorem takesPrimary_answersByArguments : AnswersByArguments takesPrimary where
  allocateSubBySourceId _ _ _ _ := rfl
  updateSubscription _ _ _ _ _ _ := rfl
  prepareSubscription _ _ _ _ _ _ _ := rfl
  allocatePubByNamespace _ _ _ _ _ _ := rfl
  preparePublication _ _ _ _ _ _ := rfl

/-- The two manifests compare equal, but only the first is published. -/
theorem tag_not_compared :
    (taggedCamera "primaryV").operatorEq (taggedCamera "secondaryV") = true ∧
      taggedCamera "primaryV" ≠ taggedCamera "secondaryV" ∧
      ¬ AppliedAlike referenceLibs (taggedCamera "primaryV") (taggedCamera "secondaryV") := by
  refine ⟨by decide +kernel, by decide +kernel, ?_⟩
  intro halike
  have hstate := halike takesPrimary takesPrimary_answersByArguments connectedPublisher
  have hpublished := congrArg (fun c => (c.quicrPublicationsMap.lookup mediaNamespace).isSome) hstate
  revert hpublished
  decide +kernel

end Qmedia.Analysis
