import Qmedia.Analysis.CallEffects
import Qmedia.Model.ControllerThreads

/-!
# Calls that nothing interrupts

A thread whose steps follow each other without another thread's in between does what the
sequential model says: `updateManifest` is one schedule of its own steps
(`updateManifest_schedule`), and `stopSubscription` is one step.
-/

set_option autoImplicit false

namespace Qmedia.Analysis

open Qmedia.Library Qmedia.Model Qmedia.Model.QController

variable {Suite Ctx Namespace : Type} [DecidableEq Namespace]
variable (env : Environment Namespace) (L : Libs Suite Ctx Namespace)

/-! ## The subscriptions half -/

/-- The three steps of `startSubscription`, or two if it finds the delegate. -/
theorem startSubscription_alone (c : QController Suite Ctx Namespace)
    (loop : ProfileLoop Namespace) (profile : Profile Namespace) :
    Alone (taskStep env L) (c, .finding loop profile)
      ((c.startSubscription env L loop.delegate loop.sourceId profile.quicrNamespace .syncUp ""
          loop.transportMode "" []).2,
        .nextProfile (c.startSubscription env L loop.delegate loop.sourceId profile.quicrNamespace
          .syncUp "" loop.transportMode "" []).2 loop) := by
  have hsingle (c : QController Suite Ctx Namespace)
      (subDelegate : SubscriptionDelegate Suite Ctx Namespace) :
      Task.nextProfile (c.subscribe subDelegate loop.transportMode) loop =
        Task.nextProfile c loop := by
    rw [subscribe_eq]
    rfl
  have hsubscribe (c : QController Suite Ctx Namespace)
      (subDelegate : SubscriptionDelegate Suite Ctx Namespace) :
      Alone (taskStep env L) (c, .subscribing loop subDelegate)
        (c.subscribe subDelegate loop.transportMode,
          .nextProfile (c.subscribe subDelegate loop.transportMode) loop) := by
    refine Alone.head ?_
    rw [hsingle]
    exact Alone.refl _
  cases hfind : c.findQuicrSubscriptionDelegate profile.quicrNamespace with
  | some subDelegate =>
      have hstep : aloneStep (taskStep env L) (c, .finding loop profile) =
          (c, .subscribing loop subDelegate) := by
        unfold aloneStep taskStep
        simp only [hfind]
      unfold startSubscription
      rw [hfind]
      refine Alone.head ?_
      rw [hstep]
      exact hsubscribe c subDelegate
  | none =>
      have hstep : aloneStep (taskStep env L) (c, .finding loop profile) =
          (c, .creating loop profile) := by
        unfold aloneStep taskStep
        simp only [hfind]
      unfold findQuicrSubscriptionDelegate at hfind
      unfold startSubscription findQuicrSubscriptionDelegate createQuicrSubscriptionDelegate
      simp only [hfind]
      refine Alone.head ?_
      rw [hstep]
      refine Alone.head ?_
      unfold aloneStep taskStep createQuicrSubscriptionDelegate
      simp only [hfind]
      exact hsubscribe _ _

/-- Uninterrupted, a task starts the profiles of a stream as `startSubscriptions` does. -/
theorem startSubscriptions_alone (c : QController Suite Ctx Namespace) (delegate : Ref)
    (sourceId : SourceId) (transportMode : TransportMode) (profiles : List (Profile Namespace))
    (rest : Manifest Namespace) :
    Alone (taskStep env L) (c, .profiles ⟨delegate, sourceId, transportMode, profiles, rest⟩)
      (c.startSubscriptions env L delegate sourceId transportMode profiles, .allocating rest) := by
  induction profiles generalizing c with
  | nil => exact Alone.refl _
  | cons profile profiles ih =>
      refine (startSubscription_alone env L c
        ⟨delegate, sourceId, transportMode, profiles, rest⟩ profile).trans ?_
      unfold startSubscriptions Task.nextProfile
      simp only
      split
      · exact Alone.refl _
      · exact ih _

/-- The next stream asks for its delegate. -/
theorem aloneStep_allocating (c : QController Suite Ctx Namespace)
    (stream : MediaStream Namespace) (subscriptions publications : List (MediaStream Namespace)) :
    aloneStep (taskStep env L) (c, .allocating ⟨stream :: subscriptions, publications⟩) =
      ((c.getSubscriptionDelegate env stream.sourceId stream.profileSet).2,
        match (c.getSubscriptionDelegate env stream.sourceId stream.profileSet).1 with
        | none => .allocating ⟨subscriptions, publications⟩
        | some delegate => .updating delegate stream ⟨subscriptions, publications⟩) := by
  unfold aloneStep taskStep
  cases hget : (c.getSubscriptionDelegate env stream.sourceId stream.profileSet).1 with
  | none => simp only [hget]
  | some delegate => simp only [hget]

/-- The delegate of a stream is updated. -/
theorem aloneStep_updating (c : QController Suite Ctx Namespace) (delegate : Ref)
    (stream : MediaStream Namespace) (rest : Manifest Namespace) :
    aloneStep (taskStep env L) (c, .updating delegate stream rest) =
      (c.call (.updateSubscription delegate stream.sourceId stream.label stream.profileSet
          (env.updateSubscription c.log delegate stream.sourceId stream.label stream.profileSet)),
        if env.updateSubscription c.log delegate stream.sourceId stream.label stream.profileSet = 0
        then .allocating rest else .preparing delegate stream rest) := by
  unfold aloneStep taskStep
  simp only
  split
  · rfl
  · rfl

/-- The delegate of a stream is prepared. -/
theorem aloneStep_preparing (c : QController Suite Ctx Namespace) (delegate : Ref)
    (stream : MediaStream Namespace) (rest : Manifest Namespace) :
    aloneStep (taskStep env L) (c, .preparing delegate stream rest) =
      (c.call (.prepareSubscription delegate stream.sourceId stream.label stream.profileSet
          (env.prepareSubscription c.log delegate stream.sourceId stream.label stream.profileSet
            .unreliable)),
        if (env.prepareSubscription c.log delegate stream.sourceId stream.label stream.profileSet
          .unreliable).1 ≠ 0 then .allocating rest
        else .profiles ⟨delegate, stream.sourceId, (env.prepareSubscription c.log delegate
          stream.sourceId stream.label stream.profileSet .unreliable).2,
          stream.profileSet.profiles, rest⟩) := by
  unfold aloneStep taskStep
  simp only
  split
  · rfl
  · rfl

/-- The steps of the loop body for one stream. -/
theorem processSubscription_alone (c : QController Suite Ctx Namespace)
    (stream : MediaStream Namespace) (subscriptions publications : List (MediaStream Namespace)) :
    Alone (taskStep env L) (c, .allocating ⟨stream :: subscriptions, publications⟩)
      ((c.processSubscription env L stream).2, .allocating ⟨subscriptions, publications⟩) := by
  refine Alone.head ?_
  rw [aloneStep_allocating]
  unfold processSubscription
  generalize c.getSubscriptionDelegate env stream.sourceId stream.profileSet = answer
  obtain ⟨delegate, c'⟩ := answer
  cases delegate with
  | none => exact Alone.refl _
  | some delegate =>
      refine Alone.head ?_
      rw [aloneStep_updating]
      simp only
      split
      · exact Alone.refl _
      · refine Alone.head ?_
        rw [aloneStep_preparing]
        split
        · exact Alone.refl _
        · exact startSubscriptions_alone env L _ _ _ _ _ _

/-- Uninterrupted, a task goes through the subscriptions as `processSubscriptions` does. -/
theorem processSubscriptions_alone (c : QController Suite Ctx Namespace)
    (subscriptions publications : List (MediaStream Namespace)) :
    Alone (taskStep env L) (c, .allocating ⟨subscriptions, publications⟩)
      (c.processSubscriptions env L subscriptions, .publications publications) := by
  induction subscriptions generalizing c with
  | nil => exact Alone.head (Alone.refl _)
  | cons stream subscriptions ih =>
      exact (processSubscription_alone env L c stream subscriptions publications).trans (ih _)

/-! ## The publications half -/

/-- Uninterrupted, a task goes through the profiles of a publication as `processProfiles` does. -/
theorem processProfiles_alone (c : QController Suite Ctx Namespace)
    (publication : MediaStream Namespace) (profiles : List (Profile Namespace))
    (publications : List (MediaStream Namespace)) :
    Alone (taskStep env L) (c, .publishing publication profiles publications)
      (c.processProfiles env L publication profiles, .publications publications) := by
  induction profiles generalizing c with
  | nil => exact Alone.head (Alone.refl _)
  | cons profile profiles ih =>
      have hstep : aloneStep (taskStep env L)
          (c, .publishing publication (profile :: profiles) publications) =
          ((c.processProfile env L publication profile).2,
            if (c.processProfile env L publication profile).1 = .started &&
              (c.processProfile env L publication profile).2.isSingleorderedPublication
            then .publications publications else .publishing publication profiles publications) := by
        unfold aloneStep taskStep
        simp only
        split
        · rfl
        · rfl
      refine Alone.head ?_
      rw [hstep]
      unfold processProfiles
      simp only
      split
      · exact Alone.refl _
      · exact ih _

/-- Uninterrupted, a task goes through the publications as `processPublications` does. -/
theorem processPublications_alone (c : QController Suite Ctx Namespace)
    (publications : List (MediaStream Namespace)) :
    Alone (taskStep env L) (c, .publications publications)
      (c.processPublications env L publications, .done) := by
  induction publications generalizing c with
  | nil => exact Alone.refl _
  | cons publication publications ih =>
      exact (processProfiles_alone env L c publication _ publications).trans (ih _)

/-! ## Whole calls -/

/-- **Uninterrupted manifest.** The steps of `updateManifest`, taken one after the other,
are the call. -/
theorem updateManifest_alone (c : QController Suite Ctx Namespace) (m : Manifest Namespace) :
    Alone (taskStep env L) (c, .allocating m) (c.updateManifest env L m, .done) :=
  (processSubscriptions_alone env L c m.subscriptions m.publications).trans
    (processPublications_alone env L _ m.publications)

/-- **Sequential schedules.** In a pool, some schedule of a thread's own steps makes its
call of `updateManifest` and leaves the other threads where they are. -/
theorem updateManifest_schedule {ι : Type} [DecidableEq ι]
    (p : Pool (QController Suite Ctx Namespace) (Task Suite Ctx Namespace) ι) (i : ι)
    (m : Manifest Namespace) (hi : p.tasks i = .allocating m) :
    ∃ n, finalState (poolStep (taskStep env L)) p (List.replicate n i) =
      ⟨p.shared.updateManifest env L m, Function.update p.tasks i .done⟩ := by
  refine Alone.exists_schedule ?_
  rw [hi]
  exact updateManifest_alone env L p.shared m

end Qmedia.Analysis
