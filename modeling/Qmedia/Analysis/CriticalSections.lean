import Qmedia.Analysis.Announcements
import Qmedia.Analysis.UninterruptedCalls
import Qmedia.Model.InterleavedCalls

/-!
# The critical sections of a call

What one step of a call can do, when calls of several threads are interleaved: a locked call
as a whole, the two steps that register and announce a namespace, and of the others only that
they leave the publications alone (`callStep_cases`); and a call goes on with what its manifest
lists (`callStep_lists`). Without interruption the steps of `updateManifest` are the call
(`updateManifest_steps`).
-/

set_option autoImplicit false

namespace Qmedia.Analysis

open Qmedia.Library Qmedia.Model Qmedia.Model.QController

variable {Suite Ctx Namespace : Type} [DecidableEq Namespace]

section Steps

variable (env : Environment Namespace) (L : Libs Suite Ctx Namespace)

/-! ## Calls that nothing interrupts -/

omit [DecidableEq Namespace] in
/-- Both models are at the head of the same loop. -/
theorem ofTask_publications (publications : List (MediaStream Namespace)) :
    CallTask.ofTask (Task.publications publications : Task Suite Ctx Namespace) =
      .streams publications := by
  cases publications with
  | nil => rfl
  | cons publication publications => rfl

/-- The step under `qPubsMutex`, with its outcome written out. -/
theorem callStep_allocating (c : QController Suite Ctx Namespace)
    (loop : PublicationLoop Namespace) :
    (callStep env L c (.allocating loop)).2 =
      ((c.getPublicationDelegate env L.toQuicr loop.profile.quicrNamespace
          loop.publication.sourceId loop.profile.qualityProfile loop.profile.appTag).2,
        match (c.getPublicationDelegate env L.toQuicr loop.profile.quicrNamespace
          loop.publication.sourceId loop.profile.qualityProfile loop.profile.appTag).1 with
        | none => .nextProfile loop
        | some delegate => .preparing loop delegate) := by
  unfold callStep
  cases hget : (c.getPublicationDelegate env L.toQuicr loop.profile.quicrNamespace
      loop.publication.sourceId loop.profile.qualityProfile loop.profile.appTag).1 with
  | none => simp only [hget]
  | some delegate => simp only [hget]

/-- The call of `prepare`, with its outcome written out. -/
theorem callStep_preparing (c : QController Suite Ctx Namespace)
    (loop : PublicationLoop Namespace) (delegate : Ref) :
    (callStep env L c (.preparing loop delegate)).2 =
      (c.call (.preparePublication delegate loop.publication.sourceId
          loop.profile.qualityProfile (env.preparePublication c.log delegate
            loop.publication.sourceId loop.profile.qualityProfile .unreliable)),
        if (env.preparePublication c.log delegate loop.publication.sourceId
          loop.profile.qualityProfile .unreliable).1 ≠ 0 then .nextProfile loop
        else .checking loop delegate (env.preparePublication c.log delegate
          loop.publication.sourceId loop.profile.qualityProfile .unreliable).2) := by
  unfold callStep
  simp only
  split
  · rfl
  · rfl

/-- The steps of `startPublication`. -/
theorem startPublication_steps (c : QController Suite Ctx Namespace)
    (loop : PublicationLoop Namespace) (delegate : Ref) (transportMode : TransportMode) :
    Alone (callStep env L) (c, .checking loop delegate transportMode)
      ((c.startPublication env L delegate loop.publication.sourceId loop.profile.quicrNamespace
          "" "" [] loop.profile.priorities loop.profile.expiry transportMode).2,
        .processed (c.startPublication env L delegate loop.publication.sourceId
          loop.profile.quicrNamespace "" "" [] loop.profile.priorities loop.profile.expiry
          transportMode).2 loop) := by
  refine Alone.head ?_
  unfold startPublication
  by_cases hsession : c.clientSession = none
  · have hstep : aloneStep (callStep env L) (c, .checking loop delegate transportMode) =
        (c, .processed c loop) := by
      unfold aloneStep callStep
      simp only [if_pos hsession]
    rw [hstep, if_pos hsession]
    exact Alone.refl _
  · have hstep : aloneStep (callStep env L) (c, .checking loop delegate transportMode) =
        (c, .creating loop delegate transportMode) := by
      unfold aloneStep callStep
      simp only [if_neg hsession]
    rw [hstep, if_neg hsession]
    refine Alone.head ?_
    cases hcreate : c.createQuicrPublicationDelegate env L delegate loop.publication.sourceId
        loop.profile.quicrNamespace "" "" [] loop.profile.priorities loop.profile.expiry with
    | mk pubDelegate c' =>
        have hstep' : aloneStep (callStep env L) (c, .creating loop delegate transportMode) =
            match pubDelegate with
            | none => (c', .processed c' loop)
            | some pubDelegate => (c', .announcing loop pubDelegate transportMode) := by
          unfold aloneStep callStep
          simp only [hcreate]
          split
          · rfl
          · rfl
        rw [hstep']
        cases pubDelegate with
        | none => exact Alone.refl _
        | some pubDelegate => exact Alone.head (Alone.refl _)

/-- The steps of one profile. -/
theorem processProfile_steps (c : QController Suite Ctx Namespace)
    (loop : PublicationLoop Namespace) :
    Alone (callStep env L) (c, .allocating loop)
      ((c.processProfile env L loop.publication loop.profile).2,
        if (c.processProfile env L loop.publication loop.profile).1 = .started &&
          (c.processProfile env L loop.publication loop.profile).2.isSingleorderedPublication
        then .streams loop.publications else .nextProfile loop) := by
  refine Alone.head ?_
  rw [aloneStep, callStep_allocating]
  unfold processProfile
  generalize c.getPublicationDelegate env L.toQuicr loop.profile.quicrNamespace
    loop.publication.sourceId loop.profile.qualityProfile loop.profile.appTag = given
  obtain ⟨delegate, c'⟩ := given
  cases delegate with
  | none => exact Alone.refl _
  | some delegate =>
      refine Alone.head ?_
      rw [aloneStep, callStep_preparing]
      simp only
      split
      · exact Alone.refl _
      · exact startPublication_steps env L _ loop delegate _

/-- A step of `ControllerThreads` is made of finer steps. -/
theorem taskStep_steps (c : QController Suite Ctx Namespace) (t : Task Suite Ctx Namespace) :
    Alone (callStep env L) (c, .ofTask t)
      ((taskStep env L c t).2.1, .ofTask (taskStep env L c t).2.2) := by
  have hsubscriptions (ht : t.ofSubscriptions = true) : Alone (callStep env L) (c, .ofTask t)
      ((taskStep env L c t).2.1, .ofTask (taskStep env L c t).2.2) := by
    refine Alone.head ?_
    unfold CallTask.ofTask
    rw [dif_pos ht]
    exact Alone.refl _
  cases t with
  | publishing publication profiles publications =>
      cases profiles with
      | nil =>
          show Alone _ (c, CallTask.streams publications)
            (c, CallTask.ofTask (.publications publications))
          rw [ofTask_publications]
          exact Alone.refl _
      | cons profile profiles =>
          have hsteps := processProfile_steps env L c ⟨publication, profile, profiles, publications⟩
          unfold taskStep
          simp only at hsteps ⊢
          split
          · rename_i hbreak
            rw [if_pos hbreak] at hsteps
            rw [ofTask_publications]
            exact hsteps
          · rename_i hbreak
            rw [if_neg hbreak] at hsteps
            exact hsteps
  | stopping ns => exact Alone.head (Alone.refl _)
  | done => exact Alone.refl _
  | _ => exact hsubscriptions rfl

/-- **Uninterrupted manifest, in critical sections.** The steps of `updateManifest`, taken one
after the other, are the call. -/
theorem updateManifest_steps (c : QController Suite Ctx Namespace) (m : Manifest Namespace) :
    Alone (callStep env L) (c, (InterfaceCall.updateManifest m).task)
      (c.updateManifest env L m, .done) :=
  (updateManifest_alone env L c m).simulate CallTask.ofTask (taskStep_steps env L)

/-! ## What a step does -/

omit [DecidableEq Namespace] in
/-- The announcement that a call owes between two of its steps. -/
def debt : CallTask Suite Ctx Namespace → Option Namespace
  | .announcing _ pubDelegate _ => some pubDelegate.quicrNamespace
  | _ => none

/-- How often the namespace was announced on the session. -/
def announcedOn (session : Session) (ns : Namespace) (log : List (Event Namespace)) : ℕ :=
  log.countP (announces session ns false)

/-- Calls that are no announcements do not count. -/
theorem announcedOn_append {es : List (Event Namespace)} {p : Event Namespace → Bool}
    (hes : ∀ e ∈ es, p e) (hp : ∀ session request accepted,
      p (.publishIntent session request accepted) = false) (session : Session) (ns : Namespace)
    (log : List (Event Namespace)) :
    announcedOn session ns (es ++ log) = announcedOn session ns log := by
  unfold announcedOn
  rw [List.countP_append, Nat.add_eq_right, List.countP_eq_zero]
  intro e he
  have h := hes e he
  cases e with
  | publishIntent session' request accepted =>
      rw [hp] at h
      cases h
  | _ => exact Bool.false_ne_true

/-- One announcement counts for its own namespace. -/
theorem announcedOn_publishIntent (session : Session) (request : PublishIntent Namespace)
    (accepted : Bool) (log : List (Event Namespace)) :
    (fun ns => announcedOn session ns (.publishIntent session request accepted :: log)) =
      Function.update (fun ns => announcedOn session ns log) request.quicrNamespace
        (announcedOn session request.quicrNamespace log + 1) := by
  funext ns
  unfold announcedOn
  rw [List.countP_cons]
  by_cases hns : ns = request.quicrNamespace
  · subst hns
    have hself : announces session request.quicrNamespace false
        (.publishIntent session request accepted) = true := decide_eq_true ⟨rfl, rfl, nofun⟩
    rw [Function.update_self, if_pos hself]
  · rw [Function.update_of_ne hns, if_neg fun h => hns (of_decide_eq_true h).2.1.symm]
    rfl

/-- Nothing about the publications has changed, and nothing was announced. -/
structure Aside (c c' : QController Suite Ctx Namespace) : Prop where
  clientSession_eq : c'.clientSession = c.clientSession
  cipherSuite_eq : c'.cipherSuite = c.cipherSuite
  publications_eq : c'.quicrPublicationsMap = c.quicrPublicationsMap
  announcedOn_eq : ∀ session ns, announcedOn session ns c'.log = announcedOn session ns c.log

/-- Nothing has happened. -/
theorem Aside.refl (c : QController Suite Ctx Namespace) : Aside c c :=
  ⟨rfl, rfl, rfl, fun _ _ => rfl⟩

/-- The subscriptions half leaves the publications alone. -/
theorem SubscriptionSide.aside {c c' : QController Suite Ctx Namespace}
    (h : SubscriptionSide c c') : Aside c c' := by
  obtain ⟨m₁, m₂, es, rfl, hes⟩ := h
  exact ⟨rfl, rfl, rfl, fun session ns =>
    announcedOn_append hes (fun _ _ _ => rfl) session ns c.log⟩

/-- Asking the application about a publication announces nothing. -/
theorem asked_aside (c : QController Suite Ctx Namespace) (m : Map String (Option Ref))
    (es : List (Event Namespace)) (hes : ∀ e ∈ es, asksPublication e) :
    Aside c (asked c m es) :=
  ⟨rfl, rfl, rfl, fun session ns => announcedOn_append hes (fun _ _ _ => rfl) session ns c.log⟩

/-- A step of the subscriptions half. -/
theorem taskStep_aside (c : QController Suite Ctx Namespace) {t : Task Suite Ctx Namespace}
    (ht : t.ofSubscriptions = true) : Aside c (taskStep env L c t).2.1 := by
  refine SubscriptionSide.aside ?_
  have hcall {e : Event Namespace} (he : ofSubscriptions e = true) : SubscriptionSide c (c.call e) :=
    ⟨c.qSubscriptionsMap, c.quicrSubscriptionsMap, [e], rfl, fun e' he' => by
      rw [List.mem_singleton.mp he']
      exact he⟩
  cases t with
  | allocating rest =>
      obtain ⟨subscriptions, publications⟩ := rest
      cases subscriptions with
      | nil => exact SubscriptionSide.refl c
      | cons stream subscriptions =>
          obtain ⟨m, es, hes, heq⟩ := getSubscriptionDelegate_consulted env c stream.sourceId
            stream.profileSet
          have hside : SubscriptionSide c
              (c.getSubscriptionDelegate env stream.sourceId stream.profileSet).2 := by
            rw [heq]
            refine ⟨m, c.quicrSubscriptionsMap, es, rfl, fun e he => ?_⟩
            have hasks := hes e he
            cases e with
            | allocateSubBySourceId _ _ _ => rfl
            | updateSubscription _ _ _ _ _ => rfl
            | prepareSubscription _ _ _ _ _ => rfl
            | _ => cases hasks
          unfold taskStep
          simp only
          split
          · exact hside
          · exact hside
  | updating delegate stream rest =>
      unfold taskStep
      simp only
      split
      · exact hcall rfl
      · exact hcall rfl
  | preparing delegate stream rest =>
      unfold taskStep
      simp only
      split
      · exact hcall rfl
      · exact hcall rfl
  | finding loop profile =>
      unfold taskStep
      cases hfind : c.findQuicrSubscriptionDelegate profile.quicrNamespace with
      | none =>
          simp only [hfind]
          exact SubscriptionSide.refl c
      | some subDelegate =>
          simp only [hfind]
          exact SubscriptionSide.refl c
  | creating loop profile =>
      have hside := createQuicrSubscriptionDelegate_side env L c loop.sourceId
        profile.quicrNamespace .syncUp "" "" [] loop.delegate c.cipherSuite
      unfold taskStep
      simp only
      split
      · exact hside
      · exact hside
  | subscribing loop subDelegate => exact subscribe_side c subDelegate loop.transportMode
  | _ => cases ht

omit [DecidableEq Namespace] in
/-- `updateManifest` holds no lock from its first line to its last. -/
theorem ne_updateManifest_of_isLocked {op : ControllerOp Namespace} (hop : op.isLocked)
    (m : Manifest Namespace) : op ≠ .updateManifest m := by
  rintro rfl
  cases hop

/-- A locked call keeps what is registered and announces nothing. -/
theorem locked_keeps (c : QController Suite Ctx Namespace) {op : ControllerOp Namespace}
    (hop : op.isLocked) :
    (controllerStep env L c op).2.clientSession = c.clientSession ∧
      (∀ ns, Registered (controllerStep env L c op).2 ns ↔ Registered c ns) ∧
      ∀ session ns, announcedOn session ns (controllerStep env L c op).2.log =
        announcedOn session ns c.log := by
  have haside {c' : QController Suite Ctx Namespace} (h : Aside c c') :
      c'.clientSession = c.clientSession ∧ (∀ ns, Registered c' ns ↔ Registered c ns) ∧
        ∀ session ns, announcedOn session ns c'.log = announcedOn session ns c.log := by
    refine ⟨h.clientSession_eq, fun ns => ?_, h.announcedOn_eq⟩
    unfold Registered
    rw [h.publications_eq]
  have hinsert {ns : Namespace} {publication publication' : PublicationDetails Suite Ctx Namespace}
      (hl : c.quicrPublicationsMap.lookup ns = some publication) (ns' : Namespace) :
      ((c.quicrPublicationsMap.insert ns publication').lookup ns').isSome ↔ Registered c ns' := by
    by_cases hns : ns' = ns
    · subst hns
      unfold Registered
      rw [AList.lookup_insert, hl]
      exact Iff.rfl
    · rw [AList.lookup_insert_ne hns]
      exact Iff.rfl
  cases op with
  | publishNamedObject ns data groupFlag startTime =>
      show (c.publishNamedObject L ns data groupFlag startTime).2.clientSession = _ ∧
        (∀ ns', Registered (c.publishNamedObject L ns data groupFlag startTime).2 ns' ↔ _) ∧
        ∀ session ns', announcedOn session ns'
          (c.publishNamedObject L ns data groupFlag startTime).2.log = _
      rcases publishNamedObject_cases L c ns data groupFlag startTime with
        hskip | ⟨d, es, hes, hl, -, hnext⟩
      · rw [hskip]
        exact ⟨rfl, fun _ => Iff.rfl, fun _ _ => rfl⟩
      · rw [hnext]
        refine ⟨rfl, hinsert hl, fun session ns' => ?_⟩
        refine announcedOn_append (p := isObject) (fun e he => ?_) (fun _ _ _ => rfl) session ns'
          c.log
        obtain ⟨session', object, rfl⟩ := hes e he
        rfl
  | setPublicationState ns state =>
      show (c.setPublicationState ns state).clientSession = _ ∧
        (∀ ns', Registered (c.setPublicationState ns state) ns' ↔ _) ∧
        ∀ session ns', announcedOn session ns' (c.setPublicationState ns state).log = _
      rcases setPublicationState_cases c ns state with ⟨-, heq⟩ | ⟨publication, hl, heq⟩
      · rw [heq]
        exact ⟨rfl, fun _ => Iff.rfl, fun _ _ => rfl⟩
      · rw [heq]
        exact ⟨rfl, hinsert hl, fun _ _ => rfl⟩
  | stopSubscription ns => exact haside (stopSubscription_side c ns).aside
  | setSubscriptionState ns mode => exact haside (setSubscriptionState_side c ns mode).aside
  | getSwitchingSets => exact haside (Aside.refl c)
  | getSubscriptions sourceId => exact haside (Aside.refl c)
  | getPublications => exact haside (Aside.refl c)
  | _ => cases hop

/-- What one step of a call does: a locked call as a whole, the two steps that register and
announce a namespace, and of the others only that they leave the publications alone. -/
inductive CallStepCase (c : QController Suite Ctx Namespace) : CallTask Suite Ctx Namespace →
    Option (ControllerOp Namespace × Except Fault (Reply Namespace)) ×
      QController Suite Ctx Namespace × CallTask Suite Ctx Namespace → Prop where
  | locked {op : {op : ControllerOp Namespace // op.isLocked}} :
      CallStepCase c (.locked op)
        (some (op.1, (controllerStep env L c op.1).1), (controllerStep env L c op.1).2, .done)
  | aside {t t' : CallTask Suite Ctx Namespace} {c' : QController Suite Ctx Namespace}
      (hdebt : debt t = none) (haside : Aside c c') (hdebt' : debt t' = none) :
      CallStepCase c t (none, c', t')
  | created {loop : PublicationLoop Namespace} {delegate : Ref} {transportMode : TransportMode}
      {time : BitVec 64}
      (hfree : c.quicrPublicationsMap.lookup loop.profile.quicrNamespace = none) :
      CallStepCase c (.creating loop delegate transportMode)
        (none, { c with
          quicrPublicationsMap := c.quicrPublicationsMap.insert loop.profile.quicrNamespace
            ⟨.active, delegateFor L c delegate time loop.publication loop.profile⟩ },
          .announcing loop (delegateFor L c delegate time loop.publication loop.profile)
            transportMode)
  | announced {loop : PublicationLoop Namespace}
      {pubDelegate : PublicationDelegate Suite Ctx Namespace} {transportMode : TransportMode}
      {session : Session} {request : PublishIntent Namespace} {accepted : Bool}
      {t' : CallTask Suite Ctx Namespace} (hsession : c.clientSession = some session)
      (hns : request.quicrNamespace = pubDelegate.quicrNamespace) (hdebt' : debt t' = none) :
      CallStepCase c (.announcing loop pubDelegate transportMode)
        (none, c.call (.publishIntent session request accepted), t')
  | unannounced {loop : PublicationLoop Namespace}
      {pubDelegate : PublicationDelegate Suite Ctx Namespace} {transportMode : TransportMode}
      {t' : CallTask Suite Ctx Namespace} (hsession : c.clientSession = none) :
      CallStepCase c (.announcing loop pubDelegate transportMode) (none, c, t')

omit [DecidableEq Namespace] in
/-- At the head of the outer loop no announcement is owed. -/
@[simp] theorem debt_streams (publications : List (MediaStream Namespace)) :
    debt (CallTask.streams publications : CallTask Suite Ctx Namespace) = none := by
  induction publications with
  | nil => rfl
  | cons publication publications ih =>
      unfold CallTask.streams
      split
      · exact ih
      · rfl

omit [DecidableEq Namespace] in
/-- At the head of the inner loop no announcement is owed. -/
@[simp] theorem debt_profiles (publication : MediaStream Namespace)
    (profiles : List (Profile Namespace)) (publications : List (MediaStream Namespace)) :
    debt (CallTask.profiles publication profiles publications : CallTask Suite Ctx Namespace) =
      none := by
  cases profiles with
  | nil => exact debt_streams publications
  | cons profile profiles => rfl

omit [DecidableEq Namespace] in
/-- After a profile no announcement is owed. -/
@[simp] theorem debt_processed (c : QController Suite Ctx Namespace)
    (loop : PublicationLoop Namespace) : debt (CallTask.processed c loop) = none := by
  unfold CallTask.processed
  split
  · exact debt_streams loop.publications
  · exact debt_profiles loop.publication loop.profiles loop.publications

omit [DecidableEq Namespace] in
/-- The subscriptions half owes no announcement. -/
@[simp] theorem debt_ofTask (t : Task Suite Ctx Namespace) : debt (CallTask.ofTask t) = none := by
  unfold CallTask.ofTask
  split
  · rfl
  · split
    · exact debt_profiles _ _ _
    · rfl
    · rfl

/-- **Inversion of a step.** -/
theorem callStep_cases (c : QController Suite Ctx Namespace) (t : CallTask Suite Ctx Namespace) :
    CallStepCase env L c t (callStep env L c t) := by
  cases t with
  | locked op => exact .locked
  | subscriptions task =>
      exact .aside rfl (taskStep_aside env L c task.2) (debt_ofTask _)
  | allocating loop =>
      obtain ⟨m, es, hes, heq⟩ := getPublicationDelegate_asked env L c loop.profile.quicrNamespace
        loop.publication.sourceId loop.profile.qualityProfile loop.profile.appTag
      have haside := asked_aside c m es hes
      rw [← heq] at haside
      unfold callStep
      simp only
      split
      · exact .aside rfl haside (debt_profiles _ _ _)
      · exact .aside rfl haside rfl
  | preparing loop delegate =>
      have haside (result : ℤ × TransportMode) : Aside c (c.call (.preparePublication delegate
          loop.publication.sourceId loop.profile.qualityProfile result)) :=
        asked_aside c c.qPublicationsMap [_] (by simp [asksPublication])
      unfold callStep
      simp only
      split
      · exact .aside rfl (haside _) (debt_profiles _ _ _)
      · exact .aside rfl (haside _) rfl
  | checking loop delegate transportMode =>
      unfold callStep
      simp only
      split
      · exact .aside rfl (Aside.refl c) (debt_processed c loop)
      · exact .aside rfl (Aside.refl c) rfl
  | creating loop delegate transportMode =>
      unfold callStep createQuicrPublicationDelegate
      cases hl : c.quicrPublicationsMap.lookup loop.profile.quicrNamespace with
      | some publication =>
          simp only [hl]
          exact .aside rfl (Aside.refl c) (debt_processed c loop)
      | none =>
          simp only [hl]
          exact .created hl
  | announcing loop pubDelegate transportMode =>
      unfold callStep QController.publishIntent PublicationDelegate.publishIntent
      cases hsession : c.clientSession with
      | none =>
          simp only [Option.map_none]
          exact .unannounced hsession
      | some session =>
          simp only [Option.map_some]
          exact .announced hsession rfl (debt_processed _ loop)
  | done => exact .aside rfl (Aside.refl c) rfl

/-! ## What the calls list -/

omit [DecidableEq Namespace] in
/-- The loop of a call is over some of the streams. -/
structure LoopLists (streams : List (MediaStream Namespace))
    (loop : PublicationLoop Namespace) : Prop where
  publication : loop.publication ∈ streams
  profile : loop.profile ∈ loop.publication.profileSet.profiles
  profiles : loop.profiles ⊆ loop.publication.profileSet.profiles
  publications : loop.publications ⊆ streams

/-- The publications that a call has still to process are some of the streams. -/
def taskLists (streams : List (MediaStream Namespace)) : Task Suite Ctx Namespace → Prop
  | .allocating rest => rest.publications ⊆ streams
  | .updating _ _ rest => rest.publications ⊆ streams
  | .preparing _ _ rest => rest.publications ⊆ streams
  | .finding loop _ => loop.rest.publications ⊆ streams
  | .creating loop _ => loop.rest.publications ⊆ streams
  | .subscribing loop _ => loop.rest.publications ⊆ streams
  | .publishing publication profiles publications => publication ∈ streams ∧
      profiles ⊆ publication.profileSet.profiles ∧ publications ⊆ streams
  | .stopping _ => True
  | .done => True

/-- What a call has still to start are profiles of some of the streams. -/
def callLists (streams : List (MediaStream Namespace)) : CallTask Suite Ctx Namespace → Prop
  | .locked _ => True
  | .subscriptions task => taskLists streams task.1
  | .allocating loop => LoopLists streams loop
  | .preparing loop _ => LoopLists streams loop
  | .checking loop _ _ => LoopLists streams loop
  | .creating loop _ _ => LoopLists streams loop
  | .announcing loop _ _ => LoopLists streams loop
  | .done => True

section Lists

omit [DecidableEq Namespace]

variable {streams : List (MediaStream Namespace)}

/-- The head of the outer loop. -/
theorem callLists_streams {publications : List (MediaStream Namespace)}
    (h : publications ⊆ streams) :
    callLists streams (CallTask.streams publications : CallTask Suite Ctx Namespace) := by
  induction publications with
  | nil => trivial
  | cons publication publications ih =>
      obtain ⟨hmem, hrest⟩ := List.cons_subset.mp h
      unfold CallTask.streams
      split
      · exact ih hrest
      · rename_i profile profiles hprofiles
        have hsub : profile :: profiles ⊆ publication.profileSet.profiles := by
          rw [hprofiles]
          exact List.Subset.refl _
        obtain ⟨hprofile, hprofiles'⟩ := List.cons_subset.mp hsub
        exact ⟨hmem, hprofile, hprofiles', hrest⟩

/-- The head of the inner loop. -/
theorem callLists_profiles {publication : MediaStream Namespace}
    {profiles : List (Profile Namespace)} {publications : List (MediaStream Namespace)}
    (hmem : publication ∈ streams) (hprofiles : profiles ⊆ publication.profileSet.profiles)
    (hrest : publications ⊆ streams) :
    callLists streams (CallTask.profiles publication profiles publications :
      CallTask Suite Ctx Namespace) := by
  cases profiles with
  | nil => exact callLists_streams hrest
  | cons profile profiles =>
      obtain ⟨hprofile, hprofiles'⟩ := List.cons_subset.mp hprofiles
      exact ⟨hmem, hprofile, hprofiles', hrest⟩

/-- The next profile is one of the same stream. -/
theorem LoopLists.nextProfile {loop : PublicationLoop Namespace}
    (h : LoopLists streams loop) :
    callLists streams (CallTask.nextProfile loop : CallTask Suite Ctx Namespace) :=
  callLists_profiles h.publication h.profiles h.publications

/-- So is the next one after a profile was started, if there is one. -/
theorem LoopLists.processed {loop : PublicationLoop Namespace}
    (h : LoopLists streams loop) (c : QController Suite Ctx Namespace) :
    callLists streams (CallTask.processed c loop) := by
  unfold CallTask.processed
  split
  · exact callLists_streams h.publications
  · exact h.nextProfile

/-- What a task lists, the call lists. -/
theorem callLists_ofTask {t : Task Suite Ctx Namespace} (h : taskLists streams t) :
    callLists streams (CallTask.ofTask t) := by
  unfold CallTask.ofTask
  split
  · exact h
  · split
    · exact callLists_profiles h.1 h.2.1 h.2.2
    · trivial
    · trivial

/-- The publications still to come. -/
theorem taskLists_publications {publications : List (MediaStream Namespace)}
    (h : publications ⊆ streams) :
    taskLists streams (Task.publications publications : Task Suite Ctx Namespace) := by
  cases publications with
  | nil => trivial
  | cons publication publications =>
      obtain ⟨hmem, hrest⟩ := List.cons_subset.mp h
      exact ⟨hmem, List.Subset.refl _, hrest⟩

/-- The inner loop of the subscriptions half leaves them for later. -/
theorem taskLists_profiles {loop : ProfileLoop Namespace}
    (h : loop.rest.publications ⊆ streams) :
    taskLists streams (Task.profiles loop : Task Suite Ctx Namespace) := by
  unfold Task.profiles
  split
  · exact h
  · exact h

/-- So does the end of its body. -/
theorem taskLists_nextProfile {loop : ProfileLoop Namespace}
    (h : loop.rest.publications ⊆ streams) (c : QController Suite Ctx Namespace) :
    taskLists streams (Task.nextProfile c loop) := by
  unfold Task.nextProfile
  split
  · exact h
  · exact taskLists_profiles h

end Lists

/-- A step of the subscriptions half keeps the publications for later. -/
theorem taskStep_lists {streams : List (MediaStream Namespace)}
    (c : QController Suite Ctx Namespace) {t : Task Suite Ctx Namespace}
    (ht : t.ofSubscriptions = true) (h : taskLists streams t) :
    taskLists streams (taskStep env L c t).2.2 := by
  cases t with
  | allocating rest =>
      obtain ⟨subscriptions, publications⟩ := rest
      cases subscriptions with
      | nil => exact taskLists_publications h
      | cons stream subscriptions =>
          unfold taskStep
          simp only
          split
          · exact h
          · exact h
  | updating delegate stream rest =>
      unfold taskStep
      simp only
      split
      · exact h
      · exact h
  | preparing delegate stream rest =>
      unfold taskStep
      simp only
      split
      · exact h
      · exact taskLists_profiles h
  | finding loop profile =>
      unfold taskStep
      cases hfind : c.findQuicrSubscriptionDelegate profile.quicrNamespace with
      | none =>
          simp only [hfind]
          exact h
      | some subDelegate =>
          simp only [hfind]
          exact h
  | creating loop profile =>
      unfold taskStep
      simp only
      split
      · exact taskLists_nextProfile h _
      · exact h
  | subscribing loop subDelegate => exact taskLists_nextProfile h _
  | _ => cases ht

/-- A call goes on with what it lists. -/
theorem callStep_lists {streams : List (MediaStream Namespace)}
    (c : QController Suite Ctx Namespace) {t : CallTask Suite Ctx Namespace}
    (h : callLists streams t) : callLists streams (callStep env L c t).2.2 := by
  cases t with
  | locked op => trivial
  | subscriptions task => exact callLists_ofTask (taskStep_lists env L c task.2 h)
  | allocating loop =>
      rw [callStep_allocating]
      simp only
      split
      · exact LoopLists.nextProfile h
      · exact h
  | preparing loop delegate =>
      rw [callStep_preparing]
      simp only
      split
      · exact LoopLists.nextProfile h
      · exact h
  | checking loop delegate transportMode =>
      unfold callStep
      simp only
      split
      · exact LoopLists.processed h c
      · exact h
  | creating loop delegate transportMode =>
      unfold callStep
      simp only
      split
      · exact LoopLists.processed h _
      · exact h
  | announcing loop pubDelegate transportMode => exact LoopLists.processed h _
  | done => trivial

end Steps

end Qmedia.Analysis
