import Qmedia.Analysis.AllocatedDelegates

/-!
# What a manifest does to the subscriptions

A stream is selected by its delegate, if it is given one that does not update it and
prepares it (`selectedBy`), and then claims its namespaces: that of its first profile if
subscriptions are single-ordered, or of all of them (`selection`). A manifest extends the
registry of subscriptions by the claims of its streams, first writer wins
(`processSubscriptions_extends`). Applying it again finds every source and, with the same
answers, every selected namespace taken, so both maps stay as they are
(`updateManifest_subscriptions`).
-/

set_option autoImplicit false

namespace Qmedia.Analysis

open Qmedia.Library Qmedia.Model Qmedia.Model.QController

variable {Suite Ctx Namespace : Type} [DecidableEq Namespace]

/-! ## Selected streams -/

/-- The source of a stream and the delegate that has prepared it. -/
structure SelectedBy where
  sourceId : SourceId
  qDelegate : Ref
deriving DecidableEq, Repr

section Selection

variable (env : Environment Namespace) (L : Libs Suite Ctx Namespace)

omit [DecidableEq Namespace] in
/-- What the delegate given for a stream answers to `update`. -/
def updateError (c : QController Suite Ctx Namespace) (stream : MediaStream Namespace)
    (delegate : Ref) : ℤ :=
  env.updateSubscription (c.getSubscriptionDelegate env stream.sourceId stream.profileSet).2.log
    delegate stream.sourceId stream.label stream.profileSet

omit [DecidableEq Namespace] in
/-- What it then answers to `prepare`. -/
def prepareError (c : QController Suite Ctx Namespace) (stream : MediaStream Namespace)
    (delegate : Ref) : ℤ :=
  let given := (c.getSubscriptionDelegate env stream.sourceId stream.profileSet).2
  (env.prepareSubscription (given.call (.updateSubscription delegate stream.sourceId stream.label
      stream.profileSet (updateError env c stream delegate))).log
    delegate stream.sourceId stream.label stream.profileSet .unreliable).1

omit [DecidableEq Namespace] in
/-- The delegate of a stream, if there is one and `update` fails and `prepare` does not. -/
def selectedBy (c : QController Suite Ctx Namespace) (stream : MediaStream Namespace) :
    Option Ref :=
  match (c.getSubscriptionDelegate env stream.sourceId stream.profileSet).1 with
  | none => none
  | some delegate =>
      if updateError env c stream delegate ≠ 0 ∧ prepareError env c stream delegate = 0 then
        some delegate
      else none

omit [DecidableEq Namespace] in
/-- The namespaces a stream is selected with. -/
def selection (c : QController Suite Ctx Namespace) (stream : MediaStream Namespace) :
    List (Namespace × SelectedBy) :=
  match selectedBy env c stream with
  | none => []
  | some delegate =>
      (targets c.isSingleorderedSubscription stream).map fun ns => (ns, ⟨stream.sourceId, delegate⟩)

/-- The selections of a list of streams, in order. -/
def subscriptionSelections : QController Suite Ctx Namespace → List (MediaStream Namespace) →
    List (Namespace × SelectedBy)
  | _, [] => []
  | c, stream :: streams =>
      selection env c stream ++
        subscriptionSelections (c.processSubscription env L stream).2 streams

omit [DecidableEq Namespace] in
/-- What the application answers about a stream: nothing without a delegate; otherwise its
answer to `update` and, if it is asked, to `prepare`. -/
def answersTo (c : QController Suite Ctx Namespace) (stream : MediaStream Namespace) :
    Option (ℤ × Option ℤ) :=
  (c.getSubscriptionDelegate env stream.sourceId stream.profileSet).1.map fun delegate =>
    (updateError env c stream delegate,
      if updateError env c stream delegate = 0 then none
      else some (prepareError env c stream delegate))

/-- The answers about a list of streams, in order. -/
def allAnswers : QController Suite Ctx Namespace → List (MediaStream Namespace) →
    List (Option (ℤ × Option ℤ))
  | _, [] => []
  | c, stream :: streams =>
      answersTo env c stream :: allAnswers (c.processSubscription env L stream).2 streams

/-- The loop body starts the profiles of the streams that are selected. -/
theorem processSubscription_started_iff (c : QController Suite Ctx Namespace)
    (stream : MediaStream Namespace) :
    (c.processSubscription env L stream).1 = .started ↔ (selectedBy env c stream).isSome := by
  unfold processSubscription selectedBy prepareError updateError
  generalize c.getSubscriptionDelegate env stream.sourceId stream.profileSet = given
  obtain ⟨delegate, c'⟩ := given
  cases delegate with
  | none => simp
  | some delegate =>
      simp only
      by_cases hupdated : env.updateSubscription c'.log delegate stream.sourceId stream.label
          stream.profileSet = 0
      · simp [hupdated]
      · rw [if_neg hupdated]
        show (if (env.prepareSubscription (c'.call _).log delegate stream.sourceId stream.label
            stream.profileSet .unreliable).1 ≠ 0 then (Outcome.unprepared, _)
          else (Outcome.started, _)).1 = Outcome.started ↔ _
        split
        · rename_i hfailed
          simp [hfailed]
        · rename_i hprepared
          simp [hupdated, not_not.mp hprepared]

omit [DecidableEq Namespace] in
/-- A stream is selected by the delegate it is given. -/
theorem given_of_selectedBy {c : QController Suite Ctx Namespace} {stream : MediaStream Namespace}
    {delegate : Ref} (h : selectedBy env c stream = some delegate) :
    (c.getSubscriptionDelegate env stream.sourceId stream.profileSet).1 = some delegate := by
  unfold selectedBy at h
  cases hgiven : (c.getSubscriptionDelegate env stream.sourceId stream.profileSet).1 with
  | none => simp [hgiven] at h
  | some delegate' =>
      simp only [hgiven] at h
      split at h
      · exact h
      · cases h

omit [DecidableEq Namespace] in
/-- Whether a stream is selected can be read off the answers. -/
theorem selectedBy_isSome_iff (c : QController Suite Ctx Namespace)
    (stream : MediaStream Namespace) :
    (selectedBy env c stream).isSome ↔ ∃ code, answersTo env c stream = some (code, some 0) := by
  unfold selectedBy answersTo
  cases (c.getSubscriptionDelegate env stream.sourceId stream.profileSet).1 with
  | none => simp
  | some delegate =>
      by_cases hupdate : updateError env c stream delegate = 0
      · simp [hupdate]
      · by_cases hprepare : prepareError env c stream delegate = 0
        · simp [hupdate, hprepare]
        · simp [hupdate, hprepare]

end Selection

/-! ## The registry -/

section Registry

variable (env : Environment Namespace) (L : Libs Suite Ctx Namespace)

omit [DecidableEq Namespace] in
/-- The delegate of a new entry: it has the source and the application delegate of the
stream that was selected; its counters are not initialised. -/
def BuiltFor (cipherSuite : Option Suite) (ns : Namespace) (s : SelectedBy)
    (delegate : SubscriptionDelegate Suite Ctx Namespace) : Prop :=
  ∃ uninitialised, delegate = SubscriptionDelegate.create L.toSFrame s.sourceId ns .syncUp "" "" []
    s.qDelegate cipherSuite uninitialised

/-- The entries after are those before, extended by the selections. -/
def ExtendedBy (c c' : QController Suite Ctx Namespace)
    (selections : List (Namespace × SelectedBy)) : Prop :=
  Extends (BuiltFor L c.cipherSuite) (fun ns => c.quicrSubscriptionsMap.lookup ns)
    (fun ns => c'.quicrSubscriptionsMap.lookup ns) selections

/-- Selections that follow each other. -/
theorem ExtendedBy.trans {c c' c'' : QController Suite Ctx Namespace}
    {ws ws' : List (Namespace × SelectedBy)} (h : ExtendedBy L c c' ws)
    (hsuite : c'.cipherSuite = c.cipherSuite) (h' : ExtendedBy L c' c'' ws') :
    ExtendedBy L c c'' (ws ++ ws') := by
  unfold ExtendedBy at h' ⊢
  rw [hsuite] at h'
  exact Extends.trans h h'

/-- **One profile.** -/
theorem startSubscription_extends (c : QController Suite Ctx Namespace) (qDelegate : Ref)
    (sourceId : SourceId) (ns : Namespace) (transportMode : TransportMode) :
    ExtendedBy L c (c.startSubscription env L qDelegate sourceId ns .syncUp "" transportMode "" []).2
      [(ns, ⟨sourceId, qDelegate⟩)] := by
  unfold ExtendedBy startSubscription findQuicrSubscriptionDelegate
    createQuicrSubscriptionDelegate
  cases hl : c.quicrSubscriptionsMap.lookup ns with
  | some delegate =>
      simp only [subscribe_map]
      apply Extends.of_taken
      simp [hl]
  | none =>
      simp only [subscribe_map]
      refine Extends.of_free hl (AList.lookup_insert _) ?_ ⟨env.uninitialised c.log, rfl⟩
      intro ns' hne
      exact AList.lookup_insert_ne hne

/-- **The profiles of a stream.** -/
theorem startSubscriptions_extends (c : QController Suite Ctx Namespace) (delegate : Ref)
    (sourceId : SourceId) (transportMode : TransportMode) (profiles : List (Profile Namespace)) :
    ExtendedBy L c (c.startSubscriptions env L delegate sourceId transportMode profiles)
      (((if c.isSingleorderedSubscription then profiles.take 1 else profiles).map
        Profile.quicrNamespace).map fun ns => (ns, ⟨sourceId, delegate⟩)) := by
  induction profiles generalizing c with
  | nil =>
      rw [List.take_nil, ite_self]
      exact Extends.refl _ _
  | cons profile profiles ih =>
      have hone := startSubscription_extends env L c delegate sourceId profile.quicrNamespace
        transportMode
      obtain ⟨m₁, m₂, es, heq, -⟩ := startSubscription_side env L c delegate sourceId
        profile.quicrNamespace .syncUp "" transportMode "" []
      have hsingle : (c.startSubscription env L delegate sourceId profile.quicrNamespace .syncUp ""
          transportMode "" []).2.isSingleorderedSubscription = c.isSingleorderedSubscription := by
        rw [heq]
      have hsuite : (c.startSubscription env L delegate sourceId profile.quicrNamespace .syncUp ""
          transportMode "" []).2.cipherSuite = c.cipherSuite := by
        rw [heq]
      have hrest := ih (c.startSubscription env L delegate sourceId profile.quicrNamespace .syncUp ""
        transportMode "" []).2
      unfold startSubscriptions
      simp only [hsingle] at hrest ⊢
      cases hc : c.isSingleorderedSubscription with
      | true => simpa using hone
      | false =>
          rw [hc] at hrest
          simpa using hone.trans L hsuite hrest

/-- **One stream.** The loop body extends the registry by what the stream is selected
with. -/
theorem processSubscription_extends (c : QController Suite Ctx Namespace)
    (stream : MediaStream Namespace) :
    ExtendedBy L c (c.processSubscription env L stream).2 (selection env c stream) := by
  have hstarted := processSubscription_started_iff env L c stream
  obtain ⟨m, es, -, hget⟩ := getSubscriptionDelegate_consulted env c stream.sourceId
    stream.profileSet
  obtain ⟨es', -, hcases⟩ := processSubscription_given env L c stream
  rw [hget] at hcases
  unfold selection
  rcases hcases with ⟨hnot, heq⟩ | ⟨hnew, delegate, transportMode, hdelegate, heq⟩
  · have hnone : selectedBy env c stream = none := by
      rw [← Option.not_isSome_iff_eq_none, ← hstarted]
      exact hnot
    rw [hnone, heq]
    exact Extends.refl _ _
  · obtain ⟨delegate', hselected⟩ := Option.isSome_iff_exists.mp (hstarted.mp hnew)
    have hgiven := given_of_selectedBy env hselected
    rw [hdelegate] at hgiven
    obtain rfl := Option.some.inj hgiven
    rw [hselected, heq]
    exact startSubscriptions_extends env L (withCalls (consulted c m es) es') delegate
      stream.sourceId transportMode stream.profileSet.profiles

/-- A stream changes no setting of the controller. -/
theorem processSubscription_settings (c : QController Suite Ctx Namespace)
    (stream : MediaStream Namespace) :
    (c.processSubscription env L stream).2.cipherSuite = c.cipherSuite ∧
      (c.processSubscription env L stream).2.isSingleorderedSubscription =
        c.isSingleorderedSubscription ∧
      (c.processSubscription env L stream).2.qSubscriberDelegate = c.qSubscriberDelegate := by
  obtain ⟨m₁, m₂, es, heq, -⟩ := processSubscription_side env L c stream
  rw [heq]
  exact ⟨rfl, rfl, rfl⟩

/-- **Run of streams.** -/
theorem processSubscriptions_extends (c : QController Suite Ctx Namespace)
    (streams : List (MediaStream Namespace)) :
    ExtendedBy L c (c.processSubscriptions env L streams)
      (subscriptionSelections env L c streams) := by
  unfold processSubscriptions
  induction streams generalizing c with
  | nil => exact Extends.refl _ _
  | cons stream streams ih =>
      obtain ⟨hsuite, -, -⟩ := processSubscription_settings env L c stream
      rw [finalState_cons, subscriptionSelections]
      exact (processSubscription_extends env L c stream).trans L hsuite (ih _)

/-- The publications half leaves the maps of subscriptions alone, and a manifest leaves the
settings for them. -/
theorem updateManifest_subscriptionMaps (c : QController Suite Ctx Namespace)
    (m : Manifest Namespace) :
    (c.updateManifest env L m).qSubscriptionsMap =
        (c.processSubscriptions env L m.subscriptions).qSubscriptionsMap ∧
      (c.updateManifest env L m).quicrSubscriptionsMap =
        (c.processSubscriptions env L m.subscriptions).quicrSubscriptionsMap ∧
      (c.updateManifest env L m).qSubscriberDelegate = c.qSubscriberDelegate ∧
      (c.updateManifest env L m).isSingleorderedSubscription = c.isSingleorderedSubscription := by
  refine processPublications_invariant env L
    (fun c' => c'.qSubscriptionsMap =
        (c.processSubscriptions env L m.subscriptions).qSubscriptionsMap ∧
      c'.quicrSubscriptionsMap =
        (c.processSubscriptions env L m.subscriptions).quicrSubscriptionsMap ∧
      c'.qSubscriberDelegate = c.qSubscriberDelegate ∧
      c'.isSingleorderedSubscription = c.isSingleorderedSubscription)
    m.publications ?_ (c.processSubscriptions env L m.subscriptions) ?_
  · intro c' s p _ _ h
    rcases processProfile_cases env L c' s p with
      ⟨_, _, -, heq, -⟩ | ⟨_, _, _, _, _, _, _, -, -, -, -, -, heq⟩
    · rw [heq]
      exact h
    · rw [heq]
      exact h
  · obtain ⟨m₁, m₂, es, heq, -⟩ := processSubscriptions_side env L c m.subscriptions
    rw [heq]
    exact ⟨rfl, rfl, rfl, rfl⟩

end Registry

/-! ## The second application -/

section Again

variable (env : Environment Namespace) (L : Libs Suite Ctx Namespace)

omit [DecidableEq Namespace] in
/-- The source of the stream has been met, or no delegate can be allocated. -/
def Known (c : QController Suite Ctx Namespace) (stream : MediaStream Namespace) : Prop :=
  c.qSubscriberDelegate = none ∨ stream.sourceId ∈ c.qSubscriptionsMap

omit [DecidableEq Namespace] in
/-- A source that is known is not asked for again. -/
theorem getSubscriptionDelegate_of_known {c : QController Suite Ctx Namespace}
    {stream : MediaStream Namespace} (h : Known c stream) :
    (c.getSubscriptionDelegate env stream.sourceId stream.profileSet).2 = c := by
  unfold getSubscriptionDelegate
  split
  · rfl
  · rename_i havailable
    have hmem := h.resolve_left havailable
    obtain ⟨delegate, hl⟩ := Option.isSome_iff_exists.mp (AList.lookup_isSome.mpr hmem)
    rw [hl]

omit [DecidableEq Namespace] in
/-- After it was asked for, a source is known. -/
theorem getSubscriptionDelegate_known (c : QController Suite Ctx Namespace)
    (stream : MediaStream Namespace) :
    Known (c.getSubscriptionDelegate env stream.sourceId stream.profileSet).2 stream := by
  unfold getSubscriptionDelegate
  split
  · rename_i hnone
    exact Or.inl hnone
  · cases hl : c.qSubscriptionsMap.lookup stream.sourceId with
    | some delegate =>
        apply Or.inr
        rw [← AList.lookup_isSome, hl]
        rfl
    | none =>
        apply Or.inr
        simp

/-- A stream is known once it has been met. -/
theorem processSubscription_known (c : QController Suite Ctx Namespace)
    (stream : MediaStream Namespace) : Known (c.processSubscription env L stream).2 stream := by
  have hkeeps := processSubscription_keepsAllocations env L c stream
  obtain ⟨-, -, hdelegate⟩ := processSubscription_settings env L c stream
  obtain ⟨m, es, -, hget⟩ := getSubscriptionDelegate_consulted env c stream.sourceId
    stream.profileSet
  have hknown := getSubscriptionDelegate_known env c stream
  unfold Known at hknown ⊢
  rw [hkeeps.qSubscriptionsMap_eq, hdelegate]
  rwa [hget] at hknown ⊢

/-- A known stream stays known. -/
theorem Known.processSubscription {c : QController Suite Ctx Namespace}
    {stream : MediaStream Namespace} (h : Known c stream) (stream' : MediaStream Namespace) :
    Known (c.processSubscription env L stream').2 stream := by
  have hkeeps := processSubscription_keepsAllocations env L c stream'
  have hfind := getSubscriptionDelegate_findOrAllocate env c stream'.sourceId stream'.profileSet
  obtain ⟨-, -, hdelegate⟩ := processSubscription_settings env L c stream'
  unfold Known
  rw [hkeeps.qSubscriptionsMap_eq, hdelegate]
  refine h.imp_right ?_
  intro hmem
  obtain ⟨delegate, hl⟩ := Option.isSome_iff_exists.mp (AList.lookup_isSome.mpr hmem)
  rw [← AList.lookup_isSome]
  exact Option.isSome_iff_exists.mpr ⟨delegate, hfind.table_of_some hl⟩

/-- **Met streams.** After a run every stream of it is known. -/
theorem processSubscriptions_known (c : QController Suite Ctx Namespace)
    (streams : List (MediaStream Namespace)) :
    ∀ stream ∈ streams, Known (c.processSubscriptions env L streams) stream := by
  unfold processSubscriptions
  induction streams generalizing c with
  | nil => simp
  | cons stream streams ih =>
      intro stream' hmem
      rw [finalState_cons]
      rcases List.mem_cons.mp hmem with rfl | hmem
      · exact finalState_invariant (QController.processSubscription env L)
          (fun c' => Known c' stream') streams
          (fun c' s _ h => h.processSubscription env L s) _ (processSubscription_known env L c stream')
      · exact ih _ stream' hmem

/-- A run of known streams allocates nothing. -/
theorem processSubscriptions_of_known {c : QController Suite Ctx Namespace}
    {streams : List (MediaStream Namespace)} (h : ∀ stream ∈ streams, Known c stream) :
    (c.processSubscriptions env L streams).qSubscriptionsMap = c.qSubscriptionsMap := by
  have hrun := finalState_invariant (QController.processSubscription env L)
    (fun c' => (∀ stream ∈ streams, Known c' stream) ∧
      c'.qSubscriptionsMap = c.qSubscriptionsMap) streams ?_ c ⟨h, rfl⟩
  · exact hrun.2
  · rintro c' stream hmem ⟨hknown, hmap⟩
    have hkeeps := processSubscription_keepsAllocations env L c' stream
    refine ⟨fun stream' hmem' => (hknown stream' hmem').processSubscription env L stream, ?_⟩
    rw [hkeeps.qSubscriptionsMap_eq, getSubscriptionDelegate_of_known env (hknown stream hmem)]
    exact hmap

/-- A start on a taken namespace changes no entry. -/
theorem startSubscriptions_of_taken (c : QController Suite Ctx Namespace) (delegate : Ref)
    (sourceId : SourceId) (transportMode : TransportMode) (profiles : List (Profile Namespace))
    (h : ∀ profile ∈ (if c.isSingleorderedSubscription then profiles.take 1 else profiles),
      profile.quicrNamespace ∈ c.quicrSubscriptionsMap) :
    (c.startSubscriptions env L delegate sourceId transportMode profiles).quicrSubscriptionsMap =
      c.quicrSubscriptionsMap := by
  induction profiles generalizing c with
  | nil => rfl
  | cons profile profiles ih =>
      have htaken : profile.quicrNamespace ∈ c.quicrSubscriptionsMap := by
        apply h
        split
        · simp
        · simp
      obtain ⟨entry, hl⟩ := Option.isSome_iff_exists.mp (AList.lookup_isSome.mpr htaken)
      have hone : (c.startSubscription env L delegate sourceId profile.quicrNamespace .syncUp ""
          transportMode "" []).2 = c.subscribe entry transportMode := by
        unfold startSubscription findQuicrSubscriptionDelegate
        rw [hl]
      have hsingle : (c.subscribe entry transportMode).isSingleorderedSubscription =
          c.isSingleorderedSubscription := by
        rw [subscribe_eq]
      unfold startSubscriptions
      simp only [hone, hsingle]
      split
      · exact subscribe_map c entry transportMode
      · rename_i hmany
        rw [ih, subscribe_map]
        intro profile' hmem
        rw [hsingle, if_neg hmany] at hmem
        rw [subscribe_map]
        apply h
        rw [if_neg hmany]
        exact List.mem_cons_of_mem _ hmem

/-- A stream whose selections are taken changes no entry; one without selections is a case
of it. -/
theorem processSubscription_of_taken (c : QController Suite Ctx Namespace)
    (stream : MediaStream Namespace)
    (h : ∀ s ∈ selection env c stream, s.1 ∈ c.quicrSubscriptionsMap) :
    (c.processSubscription env L stream).2.quicrSubscriptionsMap = c.quicrSubscriptionsMap := by
  have hstarted := processSubscription_started_iff env L c stream
  obtain ⟨m, es, -, hcases⟩ := processSubscription_cases env L c stream
  rcases hcases with ⟨-, heq⟩ | ⟨hnew, delegate, transportMode, heq⟩
  · rw [heq]
    rfl
  · obtain ⟨delegate', hselected⟩ := Option.isSome_iff_exists.mp (hstarted.mp hnew)
    rw [heq]
    refine startSubscriptions_of_taken env L (consulted c m es) delegate stream.sourceId
      transportMode stream.profileSet.profiles ?_
    intro profile hmem
    apply h (profile.quicrNamespace, ⟨stream.sourceId, delegate'⟩)
    unfold selection
    rw [hselected]
    exact List.mem_map_of_mem (List.mem_map_of_mem hmem)

/-- **Taken namespaces.** A run whose selections are all taken changes no entry. -/
theorem processSubscriptions_of_taken (c : QController Suite Ctx Namespace)
    (streams : List (MediaStream Namespace))
    (h : ∀ s ∈ subscriptionSelections env L c streams, s.1 ∈ c.quicrSubscriptionsMap) :
    (c.processSubscriptions env L streams).quicrSubscriptionsMap = c.quicrSubscriptionsMap := by
  unfold processSubscriptions
  induction streams generalizing c with
  | nil => rfl
  | cons stream streams ih =>
      rw [subscriptionSelections] at h
      have hfirst := processSubscription_of_taken env L c stream
        fun s hs => h s (List.mem_append_left _ hs)
      rw [finalState_cons, ih, hfirst]
      intro s hs
      rw [hfirst]
      exact h s (List.mem_append_right _ hs)

/-- **Same answers.** The namespaces selected by a run can be read off the answers. -/
theorem subscriptionSelections_of_answers {c c' : QController Suite Ctx Namespace}
    (hsingle : c'.isSingleorderedSubscription = c.isSingleorderedSubscription)
    (streams : List (MediaStream Namespace))
    (h : allAnswers env L c' streams = allAnswers env L c streams) :
    (subscriptionSelections env L c' streams).map Prod.fst =
      (subscriptionSelections env L c streams).map Prod.fst := by
  have hone {c : QController Suite Ctx Namespace} (stream : MediaStream Namespace) :
      (selection env c stream).map Prod.fst =
        if (selectedBy env c stream).isSome then targets c.isSingleorderedSubscription stream
        else [] := by
    unfold selection
    cases selectedBy env c stream with
    | none => rfl
    | some delegate => simp [Function.comp_def]
  induction streams generalizing c c' with
  | nil => rfl
  | cons stream streams ih =>
      simp only [allAnswers, List.cons.injEq] at h
      obtain ⟨-, hnext, -⟩ := processSubscription_settings env L c stream
      obtain ⟨-, hnext', -⟩ := processSubscription_settings env L c' stream
      have hrest := ih (hnext'.trans (hsingle.trans hnext.symm)) h.2
      have hselected : (selectedBy env c' stream).isSome ↔ (selectedBy env c stream).isSome := by
        rw [selectedBy_isSome_iff, selectedBy_isSome_iff, h.1]
      simp only [subscriptionSelections, List.map_append, hone, hrest, hselected, hsingle]

/-- The streams that follow are selected in the state that the first ones leave. -/
theorem subscriptionSelections_append (c : QController Suite Ctx Namespace)
    (streams streams' : List (MediaStream Namespace)) :
    subscriptionSelections env L c (streams ++ streams') =
      subscriptionSelections env L c streams ++
        subscriptionSelections env L (c.processSubscriptions env L streams) streams' := by
  unfold processSubscriptions
  induction streams generalizing c with
  | nil => rfl
  | cons stream streams ih =>
      rw [List.cons_append, subscriptionSelections, subscriptionSelections, ih, finalState_cons,
        List.append_assoc]

omit [DecidableEq Namespace] in
/-- Equal but for the counters, which a new delegate does not initialise. -/
def AlikeButCounters (d d' : SubscriptionDelegate Suite Ctx Namespace) : Prop :=
  ∃ counters, d' = { d with counters := counters }

/-- The registry after a manifest. -/
theorem updateManifest_extends (c : QController Suite Ctx Namespace) (m : Manifest Namespace) :
    ExtendedBy L c (c.updateManifest env L m)
      (subscriptionSelections env L c m.subscriptions) := by
  obtain ⟨-, hmap, -, -⟩ := updateManifest_subscriptionMaps env L c m
  unfold ExtendedBy
  rw [hmap]
  exact processSubscriptions_extends env L c m.subscriptions

/-- **A stream that fails.** If the others are selected alike without it, so is the registry,
entry by entry. -/
theorem updateManifest_without (c : QController Suite Ctx Namespace) (m : Manifest Namespace)
    {pre post : List (MediaStream Namespace)} {stream : MediaStream Namespace}
    (hm : m.subscriptions = pre ++ stream :: post)
    (hfails : selectedBy env (whenMet env L c pre) stream = none)
    (hothers : subscriptionSelections env L
        ((whenMet env L c pre).processSubscription env L stream).2 post =
      subscriptionSelections env L (whenMet env L c pre) post) (ns : Namespace) :
    Option.Rel AlikeButCounters ((c.updateManifest env L m).quicrSubscriptionsMap.lookup ns)
      ((c.updateManifest env L ⟨pre ++ post, m.publications⟩).quicrSubscriptionsMap.lookup ns) := by
  have hwith := updateManifest_extends env L c m
  have hwithout := updateManifest_extends env L c ⟨pre ++ post, m.publications⟩
  have hnone : selection env (whenMet env L c pre) stream = [] := by
    unfold selection
    rw [hfails]
  have hsame : subscriptionSelections env L c m.subscriptions =
      subscriptionSelections env L c (pre ++ post) := by
    rw [hm, subscriptionSelections_append, subscriptionSelections_append, subscriptionSelections]
    unfold whenMet at hnone hothers
    rw [hnone, hothers, List.nil_append]
  rw [hsame] at hwith
  refine Extends.rel hwith hwithout (fun d => ⟨d.counters, rfl⟩) ?_ ns
  rintro ns s d d' ⟨counters, rfl⟩ ⟨counters', rfl⟩
  exact ⟨counters', rfl⟩

/-- After a manifest every source of its subscriptions is found. -/
theorem updateManifest_again_qSubscriptionsMap (c : QController Suite Ctx Namespace)
    (m : Manifest Namespace) :
    ((c.updateManifest env L m).updateManifest env L m).qSubscriptionsMap =
      (c.updateManifest env L m).qSubscriptionsMap := by
  obtain ⟨hsources, -, hdelegate, -⟩ := updateManifest_subscriptionMaps env L c m
  obtain ⟨hsources', -, -, -⟩ :=
    updateManifest_subscriptionMaps env L (c.updateManifest env L m) m
  have hknown := processSubscriptions_known env L c m.subscriptions
  rw [hsources']
  apply processSubscriptions_of_known
  intro stream hmem
  have hstream := hknown stream hmem
  obtain ⟨m₁, m₂, es, heq, -⟩ := processSubscriptions_side env L c m.subscriptions
  unfold Known at hstream ⊢
  rw [hsources, hdelegate]
  rwa [heq] at hstream ⊢

/-- With the same answers, every namespace selected the second time is taken. -/
theorem updateManifest_again_quicrSubscriptionsMap (c : QController Suite Ctx Namespace)
    (m : Manifest Namespace)
    (hanswers : allAnswers env L (c.updateManifest env L m) m.subscriptions =
      allAnswers env L c m.subscriptions) :
    ((c.updateManifest env L m).updateManifest env L m).quicrSubscriptionsMap =
      (c.updateManifest env L m).quicrSubscriptionsMap := by
  obtain ⟨-, -, -, hsingle⟩ := updateManifest_subscriptionMaps env L c m
  obtain ⟨-, hentries, -, -⟩ :=
    updateManifest_subscriptionMaps env L (c.updateManifest env L m) m
  have hsame := subscriptionSelections_of_answers env L hsingle m.subscriptions hanswers
  rw [hentries]
  apply processSubscriptions_of_taken
  intro s hs
  -- the namespace was selected the first time
  have hfst : s.1 ∈ (subscriptionSelections env L c m.subscriptions).map Prod.fst := by
    rw [← hsame]
    exact List.mem_map_of_mem hs
  obtain ⟨w, hw, heq⟩ := List.mem_map.mp hfst
  rw [← AList.lookup_isSome, ← heq]
  exact (updateManifest_extends env L c m).isSome_of_mem hw

/-- **Subscriptions of a manifest.** In every state, whatever the application answers and
whether subscriptions are single-ordered or not: a manifest extends the registry by the
selections of its streams, first writer wins; a stream that is not selected changes
nothing in it, and the registry without the stream is alike as long as the others are
selected alike; and applying the manifest again allocates nothing and, with the same
answers, changes no entry.
SOURCE: src/QController.cpp:173-212, src/QController.cpp:264-280,
src/QController.cpp:303-335, src/QController.cpp:391-436 -/
theorem updateManifest_subscriptions (c : QController Suite Ctx Namespace)
    (m : Manifest Namespace) :
    ExtendedBy L c (c.updateManifest env L m)
      (subscriptionSelections env L c m.subscriptions) ∧
    (∀ pre stream post, m.subscriptions = pre ++ stream :: post →
      selectedBy env (whenMet env L c pre) stream = none →
      ((whenMet env L c pre).processSubscription env L stream).2.quicrSubscriptionsMap =
          (whenMet env L c pre).quicrSubscriptionsMap ∧
        (subscriptionSelections env L
            ((whenMet env L c pre).processSubscription env L stream).2 post =
          subscriptionSelections env L (whenMet env L c pre) post →
          ∀ ns, Option.Rel AlikeButCounters
            ((c.updateManifest env L m).quicrSubscriptionsMap.lookup ns)
            ((c.updateManifest env L ⟨pre ++ post, m.publications⟩).quicrSubscriptionsMap.lookup
              ns))) ∧
    ((c.updateManifest env L m).updateManifest env L m).qSubscriptionsMap =
      (c.updateManifest env L m).qSubscriptionsMap ∧
    (allAnswers env L (c.updateManifest env L m) m.subscriptions =
        allAnswers env L c m.subscriptions →
      ((c.updateManifest env L m).updateManifest env L m).quicrSubscriptionsMap =
        (c.updateManifest env L m).quicrSubscriptionsMap) := by
  refine ⟨updateManifest_extends env L c m, ?_, updateManifest_again_qSubscriptionsMap env L c m,
    updateManifest_again_quicrSubscriptionsMap env L c m⟩
  intro pre stream post hm hfails
  refine ⟨?_, updateManifest_without env L c m hm hfails⟩
  apply processSubscription_of_taken
  unfold selection
  rw [hfails]
  simp

end Again

/-! ## A stream that is not prepared -/

/-- An application that prepares every subscription but that of source `"B"`. -/
def refusesB : Environment Prefix :=
  { takesAll true with
    prepareSubscription := fun _ _ sourceId _ _ mode => (if sourceId = "B" then 1 else 0, mode) }

/-- Two cameras to subscribe to, under one namespace. -/
def subscribeBoth : Manifest Prefix := ⟨[camera "B", camera "A"], []⟩

/-- Two cameras under one namespace, the first of which is not prepared. -/
theorem updateManifest_subscriptions_cameras :
    (∀ ns, Option.Rel AlikeButCounters
      (((newController none).updateManifest refusesB referenceLibs
        subscribeBoth).quicrSubscriptionsMap.lookup ns)
      (((newController none).updateManifest refusesB referenceLibs
        (subscribeCamera "A")).quicrSubscriptionsMap.lookup ns)) ∧
    (((newController none).updateManifest refusesB referenceLibs subscribeBoth).updateManifest
        refusesB referenceLibs subscribeBoth).quicrSubscriptionsMap =
      ((newController none).updateManifest refusesB referenceLibs
        subscribeBoth).quicrSubscriptionsMap := by
  obtain ⟨-, hfails, -, hagain⟩ := updateManifest_subscriptions refusesB referenceLibs
    (newController none) subscribeBoth
  exact ⟨(hfails [] (camera "B") [camera "A"] rfl (by decide +kernel)).2 (by decide +kernel),
    hagain (by decide +kernel)⟩

-- the namespace is subscribed under the second camera's source
example : owner ((newController none).updateManifest refusesB referenceLibs subscribeBoth)
    mediaNamespace = some "A" := by
  decide +kernel

end Qmedia.Analysis
