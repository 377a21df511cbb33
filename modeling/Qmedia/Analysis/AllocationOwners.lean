import Qmedia.Analysis.AllocatedDelegates
import Qmedia.Analysis.InterleavedPublications

/-!
# Whose delegates are registered

A delegate of the controller reports to one of the application's, which the controller found
in its tables or had allocated, some steps before it registers its own. Other threads may
allocate in between, but a table keeps what it holds, so what a call remembers of the tables
stays true (`callHolds`). In every interleaving the application is asked at most once for each
source id and each namespace, and every registered delegate reports to the one that it answered
with (`interleaved_bound`).
-/

set_option autoImplicit false

namespace Qmedia.Analysis

open Qmedia.Library Qmedia.Model Qmedia.Model.QController

variable {Suite Ctx Namespace : Type} [DecidableEq Namespace]

omit [DecidableEq Namespace] in
/-- The tables of the application's delegates have kept what they hold. -/
structure Grows (c c' : QController Suite Ctx Namespace) : Prop where
  sub : ∀ sourceId v, c.qSubscriptionsMap.lookup sourceId = some v →
    c'.qSubscriptionsMap.lookup sourceId = some v
  pub : ∀ key v, c.qPublicationsMap.lookup key = some v → c'.qPublicationsMap.lookup key = some v

omit [DecidableEq Namespace] in
/-- Tables that stay the same have grown. -/
theorem Grows.refl (c : QController Suite Ctx Namespace) : Grows c c :=
  ⟨fun _ _ h => h, fun _ _ h => h⟩

omit [DecidableEq Namespace] in
/-- A call that allocates nothing keeps the tables. -/
theorem KeepsAllocations.grows {c c' : QController Suite Ctx Namespace}
    (h : KeepsAllocations c c') : Grows c c' where
  sub sourceId v hv := by
    rw [h.qSubscriptionsMap_eq]
    exact hv
  pub key v hv := by
    rw [h.qPublicationsMap_eq]
    exact hv

/-- The delegates of subscriptions report to the ones in the table. -/
def SubscriptionsBound (c : QController Suite Ctx Namespace)
    (m : Map Namespace (SubscriptionDelegate Suite Ctx Namespace)) : Prop :=
  ∀ ns d, m.lookup ns = some d → c.qSubscriptionsMap.lookup d.sourceId = some (some d.qDelegate)

/-- The delegates of publications report to the ones in the table. -/
def PublicationsBound (q : Quicr Namespace) (c : QController Suite Ctx Namespace)
    (m : Map Namespace (PublicationDetails Suite Ctx Namespace)) : Prop :=
  ∀ ns d, m.lookup ns = some d →
    c.qPublicationsMap.lookup (q.str ns) = some (some d.delegate.qDelegate)

/-- The application was asked at most once for each key of the tables, and every registered
delegate reports to the one that it answered with. -/
structure Bound (q : Quicr Namespace) (c : QController Suite Ctx Namespace) : Prop where
  sub : AskedOnce (subAllocations c)
  pub : AskedOnce (pubAllocations q c)
  subscriptions : SubscriptionsBound c c.quicrSubscriptionsMap
  publications : PublicationsBound q c c.quicrPublicationsMap

/-- What changes no table keeps the controller bound if what it registers is. -/
theorem Bound.keeps {q : Quicr Namespace} {c c' : QController Suite Ctx Namespace}
    (hc : Bound q c) (h : KeepsAllocations c c')
    (hsub : SubscriptionsBound c c'.quicrSubscriptionsMap)
    (hpub : PublicationsBound q c c'.quicrPublicationsMap) : Bound q c' where
  sub := by
    rw [h.subAllocations_eq]
    exact hc.sub
  pub := by
    rw [h.pubAllocations_eq]
    exact hc.pub
  subscriptions := fun ns d hl => h.grows.sub _ _ (hsub ns d hl)
  publications := fun ns d hl => h.grows.pub _ _ (hpub ns d hl)

/-- A delegate whose source has its application object is bound. -/
theorem SubscriptionsBound.insert {c : QController Suite Ctx Namespace}
    {m : Map Namespace (SubscriptionDelegate Suite Ctx Namespace)} (h : SubscriptionsBound c m)
    (ns : Namespace) {d : SubscriptionDelegate Suite Ctx Namespace}
    (hd : c.qSubscriptionsMap.lookup d.sourceId = some (some d.qDelegate)) :
    SubscriptionsBound c (m.insert ns d) := by
  intro ns' d' hl
  by_cases hns : ns' = ns
  · subst hns
    rw [AList.lookup_insert] at hl
    obtain rfl := Option.some.inj hl
    exact hd
  · exact h ns' d' ((AList.lookup_insert_ne hns).symm.trans hl)

/-- A publication whose namespace has its application object is bound. -/
theorem PublicationsBound.insert {q : Quicr Namespace} {c : QController Suite Ctx Namespace}
    {m : Map Namespace (PublicationDetails Suite Ctx Namespace)} (h : PublicationsBound q c m)
    {ns : Namespace} {d : PublicationDetails Suite Ctx Namespace}
    (hd : c.qPublicationsMap.lookup (q.str ns) = some (some d.delegate.qDelegate)) :
    PublicationsBound q c (m.insert ns d) := by
  intro ns' d' hl
  by_cases hns : ns' = ns
  · subst hns
    rw [AList.lookup_insert] at hl
    obtain rfl := Option.some.inj hl
    exact hd
  · exact h ns' d' ((AList.lookup_insert_ne hns).symm.trans hl)

section Steps

variable (env : Environment Namespace) (L : Libs Suite Ctx Namespace)

/-! ## Calls that allocate nothing -/

/-- A delegate that publishes reports to the same one. -/
theorem publishNamedObject_qDelegate (d : PublicationDelegate Suite Ctx Namespace)
    (client : Bool) (data : Bytes) (groupFlag : Bool) (trace : Trace) :
    (d.publishNamedObject L client data groupFlag trace).2.qDelegate = d.qDelegate := by
  rcases publishNamedObject_delegate_cases L d client data groupFlag trace with
    heq | heq | ⟨name, pri, exp, -, heq⟩
  · rw [heq]
  · rw [heq]
  · rw [heq]

/-- Every call but `updateManifest`, which takes more than one step. -/
theorem controllerStep_bound {q : Quicr Namespace} {c : QController Suite Ctx Namespace}
    (hc : Bound q c) {op : ControllerOp Namespace} (hop : ∀ m, op ≠ .updateManifest m) :
    Bound q (controllerStep env L c op).2 := by
  refine hc.keeps (controllerStep_keepsAllocations env L c hop) ?_ ?_
  · cases op with
    | updateManifest m => exact absurd rfl (hop m)
    | connect config =>
        obtain ⟨success, heq⟩ := connect_eq env c config
        show SubscriptionsBound c (c.connect env config).2.quicrSubscriptionsMap
        rw [heq]
        exact hc.subscriptions
    | disconnect =>
        show SubscriptionsBound c c.disconnect.2.quicrSubscriptionsMap
        rw [(disconnect_quiet c).map_eq]
        exact hc.subscriptions
    | publishNamedObject ns data groupFlag startTime =>
        show SubscriptionsBound c
          (c.publishNamedObject L ns data groupFlag startTime).2.quicrSubscriptionsMap
        rw [(publishNamedObject_quiet L c ns data groupFlag startTime).map_eq]
        exact hc.subscriptions
    | stopSubscription ns =>
        exact fun ns' d hl => hc.subscriptions ns' d (lookup_of_stopSubscription hl)
    | setPublicationState ns state =>
        show SubscriptionsBound c (c.setPublicationState ns state).quicrSubscriptionsMap
        rw [(setPublicationState_quiet c ns state).map_eq]
        exact hc.subscriptions
    | setSubscriptionState ns transportMode =>
        show SubscriptionsBound c (c.setSubscriptionState ns transportMode).quicrSubscriptionsMap
        rcases setSubscriptionState_cases c ns transportMode with ⟨-, heq⟩ | ⟨d, -, heq⟩
        · rw [heq]
          exact hc.subscriptions
        · rw [heq, subscribe_map]
          exact hc.subscriptions
    | _ => exact hc.subscriptions
  · have hleaves (h : leavesPublications op) :
        PublicationsBound q c (controllerStep env L c op).2.quicrPublicationsMap := by
      rw [(controllerStep_leaves env L c h).1]
      exact hc.publications
    cases op with
    | updateManifest m => exact absurd rfl (hop m)
    | publishNamedObject ns data groupFlag startTime =>
        show PublicationsBound q c
          (c.publishNamedObject L ns data groupFlag startTime).2.quicrPublicationsMap
        rcases publishNamedObject_cases L c ns data groupFlag startTime with
          hskip | ⟨d, es, -, hl, -, hnext⟩
        · rw [hskip]
          exact hc.publications
        · rw [hnext]
          refine hc.publications.insert ?_
          rw [publishNamedObject_qDelegate]
          exact hc.publications ns d hl
    | setPublicationState ns state =>
        show PublicationsBound q c (c.setPublicationState ns state).quicrPublicationsMap
        rcases setPublicationState_cases c ns state with ⟨-, heq⟩ | ⟨d, hl, heq⟩
        · rw [heq]
          exact hc.publications
        · rw [heq]
          exact hc.publications.insert (hc.publications ns d hl)
    | _ => exact hleaves rfl

/-! ## What a call remembers of the tables -/

/-- The delegate that a call holds between two of its steps is the one in the table. -/
def taskHolds (c : QController Suite Ctx Namespace) : Task Suite Ctx Namespace → Prop
  | .updating delegate stream _ =>
      c.qSubscriptionsMap.lookup stream.sourceId = some (some delegate)
  | .preparing delegate stream _ =>
      c.qSubscriptionsMap.lookup stream.sourceId = some (some delegate)
  | .finding loop _ => c.qSubscriptionsMap.lookup loop.sourceId = some (some loop.delegate)
  | .creating loop _ => c.qSubscriptionsMap.lookup loop.sourceId = some (some loop.delegate)
  | .subscribing loop _ => c.qSubscriptionsMap.lookup loop.sourceId = some (some loop.delegate)
  | _ => True

/-- A delegate that the call has been given is the one in the table. -/
def callHolds (q : Quicr Namespace) (c : QController Suite Ctx Namespace) :
    CallTask Suite Ctx Namespace → Prop
  | .subscriptions task => taskHolds c task.1
  | .preparing loop delegate =>
      c.qPublicationsMap.lookup (q.str loop.profile.quicrNamespace) = some (some delegate)
  | .checking loop delegate _ =>
      c.qPublicationsMap.lookup (q.str loop.profile.quicrNamespace) = some (some delegate)
  | .creating loop delegate _ =>
      c.qPublicationsMap.lookup (q.str loop.profile.quicrNamespace) = some (some delegate)
  | _ => True

section Memory

omit [DecidableEq Namespace]

variable {q : Quicr Namespace} {c c' : QController Suite Ctx Namespace}

/-- What a task was given stays in tables that grow. -/
theorem Grows.taskHolds (h : Grows c c') {t : Task Suite Ctx Namespace} (ht : taskHolds c t) :
    taskHolds c' t := by
  cases t with
  | updating delegate stream rest => exact h.sub _ _ ht
  | preparing delegate stream rest => exact h.sub _ _ ht
  | finding loop profile => exact h.sub _ _ ht
  | creating loop profile => exact h.sub _ _ ht
  | subscribing loop subDelegate => exact h.sub _ _ ht
  | _ => trivial

/-- What a call remembers stays true while the tables grow. -/
theorem Grows.callHolds (h : Grows c c') {t : CallTask Suite Ctx Namespace}
    (ht : callHolds q c t) : callHolds q c' t := by
  cases t with
  | subscriptions task => exact h.taskHolds ht
  | preparing loop delegate => exact h.pub _ _ ht
  | checking loop delegate transportMode => exact h.pub _ _ ht
  | creating loop delegate transportMode => exact h.pub _ _ ht
  | _ => trivial

/-- Between two streams nothing is held. -/
theorem callHolds_streams (publications : List (MediaStream Namespace)) :
    callHolds q c (CallTask.streams publications) := by
  induction publications with
  | nil => trivial
  | cons publication publications ih =>
      unfold CallTask.streams
      split
      · exact ih
      · trivial

/-- Before a profile nothing is held. -/
theorem callHolds_profiles (publication : MediaStream Namespace)
    (profiles : List (Profile Namespace)) (publications : List (MediaStream Namespace)) :
    callHolds q c (CallTask.profiles publication profiles publications) := by
  cases profiles with
  | nil => exact callHolds_streams publications
  | cons profile profiles => trivial

/-- After a profile nothing is held. -/
theorem callHolds_processed (loop : PublicationLoop Namespace) :
    callHolds q c (CallTask.processed c' loop) := by
  unfold CallTask.processed
  split
  · exact callHolds_streams loop.publications
  · exact callHolds_profiles loop.publication loop.profiles loop.publications

/-- What a task holds, the call holds. -/
theorem callHolds_ofTask {t : Task Suite Ctx Namespace} (h : taskHolds c t) :
    callHolds q c (CallTask.ofTask t) := by
  unfold CallTask.ofTask
  split
  · exact h
  · split
    · exact callHolds_profiles _ _ _
    · trivial
    · trivial

/-- Before the publications nothing is held. -/
theorem taskHolds_publications (publications : List (MediaStream Namespace)) :
    taskHolds c (Task.publications publications) := by
  cases publications <;> trivial

/-- In the loop over its profiles the delegate of a source is held. -/
theorem taskHolds_profiles {loop : ProfileLoop Namespace}
    (h : c.qSubscriptionsMap.lookup loop.sourceId = some (some loop.delegate)) :
    taskHolds c (Task.profiles loop) := by
  unfold Task.profiles
  split
  · trivial
  · exact h

/-- It is held from one profile to the next. -/
theorem taskHolds_nextProfile {loop : ProfileLoop Namespace}
    (h : c.qSubscriptionsMap.lookup loop.sourceId = some (some loop.delegate)) :
    taskHolds c (Task.nextProfile c' loop) := by
  unfold Task.nextProfile
  split
  · trivial
  · exact taskHolds_profiles h

end Memory

/-! ## Steps -/

/-- What a step keeps: the controller bound, what it leaves of its own call true, and what the
tables hold. -/
structure KeepsBound (q : Quicr Namespace) (c c' : QController Suite Ctx Namespace)
    (holds : Prop) : Prop where
  bound : Bound q c'
  holds : holds
  grows : Grows c c'

/-- A call to the outside that allocates nothing. -/
theorem Bound.call {q : Quicr Namespace} {c : QController Suite Ctx Namespace} (hc : Bound q c)
    {e : Event Namespace} (he : isAllocation e = false) {holds : Prop} (h : holds) :
    KeepsBound q c (c.call e) holds := by
  have hkeeps : KeepsAllocations c (c.call e) := ⟨rfl, rfl, [e], rfl, by simpa using he⟩
  exact ⟨hc.keeps hkeeps hc.subscriptions hc.publications, h, hkeeps.grows⟩

/-- A step that changes nothing. -/
theorem Bound.same {q : Quicr Namespace} {c : QController Suite Ctx Namespace} (hc : Bound q c)
    {holds : Prop} (h : holds) : KeepsBound q c c holds :=
  ⟨hc, h, Grows.refl c⟩

/-- The delegate of a source is the one in the table afterwards. -/
theorem getSubscriptionDelegate_bound {q : Quicr Namespace} {c : QController Suite Ctx Namespace}
    (hc : Bound q c) (sourceId : SourceId) (profileSet : ProfileSet Namespace) :
    KeepsBound q c (c.getSubscriptionDelegate env sourceId profileSet).2
      (∀ delegate, (c.getSubscriptionDelegate env sourceId profileSet).1 = some delegate →
        (c.getSubscriptionDelegate env sourceId profileSet).2.qSubscriptionsMap.lookup sourceId =
          some (some delegate)) := by
  have hfind := getSubscriptionDelegate_findOrAllocate env c sourceId profileSet
  have hpub := getSubscriptionDelegate_pubAllocations env q c sourceId profileSet
  obtain ⟨m, es, -, heq⟩ := getSubscriptionDelegate_consulted env c sourceId profileSet
  have hgrows : Grows c (c.getSubscriptionDelegate env sourceId profileSet).2 := by
    refine ⟨fun _ _ h => hfind.table_of_some h, fun key v h => ?_⟩
    rw [heq]
    exact h
  refine ⟨⟨hfind.askedOnce hc.sub, by rw [hpub]; exact hc.pub, ?_, ?_⟩, ?_, hgrows⟩
  · intro ns d hl
    rw [heq] at hl
    exact hgrows.sub _ _ (hc.subscriptions ns d hl)
  · intro ns d hl
    rw [heq] at hl
    exact hgrows.pub _ _ (hc.publications ns d hl)
  · intro delegate hdelegate
    rw [hdelegate] at hfind
    exact hfind.table_self

/-- So is the delegate of a namespace. -/
theorem getPublicationDelegate_bound {c : QController Suite Ctx Namespace}
    (hc : Bound L.toQuicr c) (ns : Namespace) (sourceID qualityProfile appTag : String) :
    KeepsBound L.toQuicr c
      (c.getPublicationDelegate env L.toQuicr ns sourceID qualityProfile appTag).2
      (∀ delegate,
        (c.getPublicationDelegate env L.toQuicr ns sourceID qualityProfile appTag).1 =
          some delegate →
        (c.getPublicationDelegate env L.toQuicr ns sourceID qualityProfile
          appTag).2.qPublicationsMap.lookup (L.str ns) = some (some delegate)) := by
  have hfind := getPublicationDelegate_findOrAllocate env L.toQuicr c ns sourceID qualityProfile
    appTag
  have hsub := getPublicationDelegate_subAllocations env L.toQuicr c ns sourceID qualityProfile
    appTag
  obtain ⟨m, es, -, heq⟩ := getPublicationDelegate_asked env L c ns sourceID qualityProfile appTag
  have hgrows : Grows c
      (c.getPublicationDelegate env L.toQuicr ns sourceID qualityProfile appTag).2 := by
    refine ⟨fun sourceId v h => ?_, fun _ _ h => hfind.table_of_some h⟩
    rw [heq]
    exact h
  refine ⟨⟨by rw [hsub]; exact hc.sub, hfind.askedOnce hc.pub, ?_, ?_⟩, ?_, hgrows⟩
  · intro ns' d hl
    rw [heq] at hl
    exact hgrows.sub _ _ (hc.subscriptions ns' d hl)
  · intro ns' d hl
    rw [heq] at hl
    exact hgrows.pub _ _ (hc.publications ns' d hl)
  · intro delegate hdelegate
    rw [hdelegate] at hfind
    exact hfind.table_self

/-- A step of the subscriptions half. -/
theorem taskStep_bound {q : Quicr Namespace} {c : QController Suite Ctx Namespace}
    (hc : Bound q c) {t : Task Suite Ctx Namespace} (ht : t.ofSubscriptions = true)
    (hholds : taskHolds c t) :
    KeepsBound q c (taskStep env L c t).2.1
      (taskHolds (taskStep env L c t).2.1 (taskStep env L c t).2.2) := by
  cases t with
  | allocating rest =>
      obtain ⟨subscriptions, publications⟩ := rest
      cases subscriptions with
      | nil => exact hc.same (taskHolds_publications publications)
      | cons stream subscriptions =>
          obtain ⟨hbound, hdelegate, hgrows⟩ := getSubscriptionDelegate_bound env hc
            stream.sourceId stream.profileSet
          unfold taskStep
          simp only
          split
          · exact ⟨hbound, trivial, hgrows⟩
          · rename_i delegate hsome
            exact ⟨hbound, hdelegate delegate hsome, hgrows⟩
  | updating delegate stream rest =>
      unfold taskStep
      simp only
      split
      · exact hc.call rfl trivial
      · exact hc.call rfl hholds
  | preparing delegate stream rest =>
      unfold taskStep
      simp only
      split
      · exact hc.call rfl trivial
      · exact hc.call rfl (taskHolds_profiles hholds)
  | finding loop profile =>
      unfold taskStep
      cases hfind : c.findQuicrSubscriptionDelegate profile.quicrNamespace with
      | none =>
          simp only [hfind]
          exact hc.same hholds
      | some subDelegate =>
          simp only [hfind]
          exact hc.same hholds
  | creating loop profile =>
      unfold taskStep createQuicrSubscriptionDelegate
      cases hl : c.quicrSubscriptionsMap.lookup profile.quicrNamespace with
      | some subDelegate =>
          simp only [hl]
          exact hc.same (taskHolds_nextProfile hholds)
      | none =>
          simp only [hl]
          exact ⟨hc.keeps ⟨rfl, rfl, [], rfl, by simp⟩
            (hc.subscriptions.insert profile.quicrNamespace hholds) hc.publications, hholds,
            fun _ _ h => h, fun _ _ h => h⟩
  | subscribing loop subDelegate =>
      have hkeeps := subscribe_keepsAllocations c subDelegate loop.transportMode
      have hsubs : SubscriptionsBound c
          (c.subscribe subDelegate loop.transportMode).quicrSubscriptionsMap := by
        rw [subscribe_map]
        exact hc.subscriptions
      have hpubs : PublicationsBound q c
          (c.subscribe subDelegate loop.transportMode).quicrPublicationsMap := by
        rw [(subscribe_side c subDelegate loop.transportMode).aside.publications_eq]
        exact hc.publications
      exact ⟨hc.keeps hkeeps hsubs hpubs,
        taskHolds_nextProfile (hkeeps.grows.sub _ _ hholds), hkeeps.grows⟩
  | _ => cases ht

/-- **Step.** -/
theorem callStep_bound {c : QController Suite Ctx Namespace} (hc : Bound L.toQuicr c)
    {t : CallTask Suite Ctx Namespace} (hholds : callHolds L.toQuicr c t) :
    KeepsBound L.toQuicr c (callStep env L c t).2.1
      (callHolds L.toQuicr (callStep env L c t).2.1 (callStep env L c t).2.2) := by
  cases t with
  | locked op =>
      have hop := ne_updateManifest_of_isLocked op.2
      exact ⟨controllerStep_bound env L hc hop, trivial,
        (controllerStep_keepsAllocations env L c hop).grows⟩
  | subscriptions task =>
      obtain ⟨hbound, htask, hgrows⟩ := taskStep_bound env L hc task.2 hholds
      exact ⟨hbound, callHolds_ofTask htask, hgrows⟩
  | allocating loop =>
      obtain ⟨hbound, hdelegate, hgrows⟩ := getPublicationDelegate_bound env L hc
        loop.profile.quicrNamespace loop.publication.sourceId loop.profile.qualityProfile
        loop.profile.appTag
      unfold callStep
      simp only
      split
      · exact ⟨hbound, callHolds_profiles _ _ _, hgrows⟩
      · rename_i delegate hsome
        exact ⟨hbound, hdelegate delegate hsome, hgrows⟩
  | preparing loop delegate =>
      unfold callStep
      simp only
      split
      · exact hc.call rfl (callHolds_profiles _ _ _)
      · exact hc.call rfl hholds
  | checking loop delegate transportMode =>
      unfold callStep
      simp only
      split
      · exact hc.same (callHolds_processed loop)
      · exact hc.same hholds
  | creating loop delegate transportMode =>
      unfold callStep createQuicrPublicationDelegate
      cases hl : c.quicrPublicationsMap.lookup loop.profile.quicrNamespace with
      | some publication =>
          simp only [hl]
          exact hc.same (callHolds_processed loop)
      | none =>
          simp only [hl]
          exact ⟨hc.keeps ⟨rfl, rfl, [], rfl, by simp⟩ hc.subscriptions
            (hc.publications.insert hholds), trivial, fun _ _ h => h, fun _ _ h => h⟩
  | announcing loop pubDelegate transportMode =>
      unfold callStep QController.publishIntent
      simp only
      split
      · exact hc.same (callHolds_processed loop)
      · exact hc.call rfl (callHolds_processed loop)
  | done => exact hc.same trivial

/-! ## Runs -/

/-- Every reachable controller is bound. -/
theorem reachable_bound {c : QController Suite Ctx Namespace} (hreach : Reachable env L c) :
    Bound L.toQuicr c := by
  refine reachable_invariant (Bound L.toQuicr) (fun _ _ _ _ _ c₀ hc₀ => ?_) (fun c op hc => ?_)
    hreach
  · rw [create_ok hc₀]
    exact ⟨⟨List.nodup_nil, fun _ _ => iff_of_false nofun nofun⟩,
      ⟨List.nodup_nil, fun _ _ => iff_of_false nofun nofun⟩, nofun, nofun⟩
  · by_cases hop : ∃ m, op = .updateManifest m
    · obtain ⟨m, rfl⟩ := hop
      have hrun := (updateManifest_steps env L c m).invariant
        (fun x => Bound L.toQuicr x.1 ∧ callHolds L.toQuicr x.1 x.2) (fun x hx => ?_) ⟨hc, trivial⟩
      · exact hrun.1
      · obtain ⟨hbound, hholds, -⟩ := callStep_bound env L hx.1 hx.2
        exact ⟨hbound, hholds⟩
    · exact controllerStep_bound env L hc fun m hm => hop ⟨m, hm⟩

/-- **Whose delegates are registered.** In every interleaving of locked calls on a reachable
controller the application is asked at most once to allocate for each source id and for each
string of a namespace, and every registered delegate reports to the one that it answered with:
of a subscription for the source id, of a publication for the string of the namespace.
SOURCE: src/QController.cpp:183-301, src/QController.cpp:391-482 -/
theorem interleaved_bound {ι : Type} [DecidableEq ι] {c : QController Suite Ctx Namespace}
    (hreach : Reachable env L c) (calls : ι → InterfaceCall Namespace) (schedule : List ι) :
    Bound L.toQuicr (afterCalls env L c calls schedule).shared := by
  have hrun := finalState_invariant (poolStep (callStep env L))
    (fun p => Bound L.toQuicr p.shared ∧ ∀ i, callHolds L.toQuicr p.shared (p.tasks i)) schedule
    (fun p i _ hp => ?_) (InterfaceCall.pool c calls) ⟨reachable_bound env L hreach, fun i => ?_⟩
  · exact hrun.1
  · obtain ⟨hbound, hholds, hgrows⟩ := callStep_bound env L hp.1 (hp.2 i)
    exact ⟨hbound, forall_update hp.2 hholds fun _ _ h => hgrows.callHolds h⟩
  · show callHolds L.toQuicr c (calls i).task
    cases calls i with
    | updateManifest m => trivial
    | locked op => trivial

end Steps

/-- Two threads that ask for one camera. -/
theorem interleaved_bound_race :
    Bound referenceLibs.toQuicr
      (afterCalls (takesAll true) referenceLibs connectedController racers race).shared :=
  interleaved_bound (takesAll true) referenceLibs reachable_connectedController racers race

end Qmedia.Analysis
