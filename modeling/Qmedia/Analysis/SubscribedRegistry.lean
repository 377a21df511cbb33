import Qmedia.Library.Registry
import Qmedia.Analysis.ManifestHalves
import Qmedia.Model.ControllerThreads

/-!
# The registry of subscriptions and the relay

Seen from a session, the controller is a registry: the keys of `quicrSubscriptionsMap`
are registered, and the namespaces whose last request on the session is a subscribe are
active. What a step of a call can do is said once, in `taskStep_cases`; from it follow
that it is a step of that registry (`taskStep_refines`) and which parts of the controller
it cannot touch (`taskStep_effect`).
-/

set_option autoImplicit false

namespace Qmedia.Analysis

open Qmedia.Library Qmedia.Model Qmedia.Model.QController

/-! ## Requests -/

section Requests

variable {Namespace : Type}

/-- The requests that subscribe and unsubscribe. -/
def isRequest : Event Namespace → Bool
  | .subscribe .. => true
  | .unsubscribe .. => true
  | _ => false

variable [DecidableEq Namespace]

/-- The last request for the namespace on the session is a subscribe. -/
def subscribedOn (session : Session) (ns : Namespace) : List (Event Namespace) → Bool
  | [] => false
  | .subscribe session' request :: log =>
      if session' = session ∧ request.quicrNamespace = ns then true
      else subscribedOn session ns log
  | .unsubscribe session' request :: log =>
      if session' = session ∧ request.quicrNamespace = ns then false
      else subscribedOn session ns log
  | _ :: log => subscribedOn session ns log

/-- After a subscribe its namespace is subscribed to as well. -/
theorem subscribedOn_subscribe (session : Session) (ns : Namespace)
    (request : SubscribeRequest Namespace) (log : List (Event Namespace)) :
    subscribedOn session ns (.subscribe session request :: log) ↔
      request.quicrNamespace = ns ∨ subscribedOn session ns log := by
  rw [subscribedOn]
  by_cases hns : request.quicrNamespace = ns
  · rw [if_pos ⟨rfl, hns⟩]
    exact iff_of_true rfl (Or.inl hns)
  · rw [if_neg fun h => hns h.2]
    exact (or_iff_right hns).symm

/-- After an unsubscribe its namespace is not subscribed to. -/
theorem subscribedOn_unsubscribe (session : Session) (ns : Namespace)
    (request : UnsubscribeRequest Namespace) (log : List (Event Namespace)) :
    subscribedOn session ns (.unsubscribe session request :: log) ↔
      subscribedOn session ns log ∧ request.quicrNamespace ≠ ns := by
  rw [subscribedOn]
  by_cases hns : request.quicrNamespace = ns
  · rw [if_pos ⟨rfl, hns⟩]
    exact iff_of_false (fun h => by cases h) fun h => h.2 hns
  · rw [if_neg fun h => hns h.2]
    exact (and_iff_left hns).symm

/-- Calls that are no requests change nothing. -/
theorem subscribedOn_append {es : List (Event Namespace)} (hes : ∀ e ∈ es, isRequest e = false)
    (session : Session) (ns : Namespace) (log : List (Event Namespace)) :
    subscribedOn session ns (es ++ log) = subscribedOn session ns log := by
  induction es with
  | nil => rfl
  | cons e es ih =>
      have he := hes e (List.mem_cons_self ..)
      have hrest := ih fun e' he' => hes e' (List.mem_cons_of_mem _ he')
      cases e with
      | subscribe _ _ => cases he
      | unsubscribe _ _ => cases he
      | _ => exact hrest

end Requests

variable {Suite Ctx Namespace : Type} [DecidableEq Namespace]

/-! ## What leaves the registry alone -/

/-- Neither the map nor the requests have changed, and the session is the same. -/
structure Quiet (c c' : QController Suite Ctx Namespace) : Prop where
  clientSession_eq : c'.clientSession = c.clientSession
  sessions_eq : c'.sessions = c.sessions
  map_eq : c'.quicrSubscriptionsMap = c.quicrSubscriptionsMap
  subscribedOn_eq : ∀ session ns,
    subscribedOn session ns c'.log = subscribedOn session ns c.log

/-- Nothing has happened. -/
theorem Quiet.refl (c : QController Suite Ctx Namespace) : Quiet c c :=
  ⟨rfl, rfl, rfl, fun _ _ => rfl⟩

/-- A call that is no request is quiet. -/
theorem quiet_call (c : QController Suite Ctx Namespace) {e : Event Namespace}
    (he : isRequest e = false) : Quiet c (c.call e) where
  clientSession_eq := rfl
  sessions_eq := rfl
  map_eq := rfl
  subscribedOn_eq session ns := by
    cases e with
    | subscribe _ _ => cases he
    | unsubscribe _ _ => cases he
    | _ => rfl

section QuietSteps

variable (env : Environment Namespace) (L : Libs Suite Ctx Namespace)

/-- Asking for a delegate makes no request. -/
theorem getSubscriptionDelegate_quiet (c : QController Suite Ctx Namespace) (sourceId : SourceId)
    (profileSet : ProfileSet Namespace) :
    Quiet c (c.getSubscriptionDelegate env sourceId profileSet).2 := by
  obtain ⟨m, es, hes, heq⟩ := getSubscriptionDelegate_consulted env c sourceId profileSet
  rw [heq]
  refine ⟨rfl, rfl, rfl, fun session ns => subscribedOn_append (fun e he => ?_) session ns c.log⟩
  have hasks := hes e he
  cases e with
  | subscribe _ _ => cases hasks
  | unsubscribe _ _ => cases hasks
  | _ => rfl

/-- A profile to publish makes no request. -/
theorem processProfile_quiet (c : QController Suite Ctx Namespace)
    (publication : MediaStream Namespace) (profile : Profile Namespace) :
    Quiet c (c.processProfile env L publication profile).2 := by
  have hcalm {es : List (Event Namespace)} (hes : ∀ e ∈ es, asksPublication e) :
      ∀ e ∈ es, isRequest e = false := by
    intro e he
    have hasks := hes e he
    cases e with
    | subscribe _ _ => cases hasks
    | unsubscribe _ _ => cases hasks
    | _ => rfl
  rcases processProfile_cases env L c publication profile with
    ⟨m, es, hes, heq, -⟩ | ⟨m, es, session, q, time, request, accepted, hes, -, -, -, -, heq⟩
  · rw [heq]
    exact ⟨rfl, rfl, rfl, fun session ns => subscribedOn_append (hcalm hes) session ns c.log⟩
  · rw [heq]
    exact ⟨rfl, rfl, rfl, fun session ns => subscribedOn_append (hcalm hes) session ns c.log⟩

/-- `disconnect` makes no request. -/
theorem disconnect_quiet (c : QController Suite Ctx Namespace) : Quiet c c.disconnect.2 := by
  rcases disconnect_cases c with ⟨-, heq⟩ | ⟨-, heq⟩
  · rw [heq]
    exact Quiet.refl c
  · rw [heq]
    refine ⟨rfl, rfl, rfl, fun session ns => subscribedOn_append (fun e he => ?_) session ns c.log⟩
    obtain ⟨session, -, rfl⟩ := List.mem_map.mp he
    rfl

/-- An object is no request. -/
theorem publishNamedObject_quiet (c : QController Suite Ctx Namespace) (ns : Namespace)
    (data : Bytes) (groupFlag : Bool) (startTime : ℕ) :
    Quiet c (c.publishNamedObject L ns data groupFlag startTime).2 := by
  obtain ⟨m, es, hes, heq⟩ := publishNamedObject_frame L c ns data groupFlag startTime
  rw [heq]
  refine ⟨rfl, rfl, rfl, fun session ns => subscribedOn_append (fun e he => ?_) session ns c.log⟩
  obtain ⟨session, object, rfl⟩ := hes e he
  rfl

/-- Neither is the state of a publication. -/
theorem setPublicationState_quiet (c : QController Suite Ctx Namespace) (ns : Namespace)
    (state : PublicationState) : Quiet c (c.setPublicationState ns state) := by
  rcases setPublicationState_cases c ns state with ⟨-, heq⟩ | ⟨publication, -, heq⟩
  · rw [heq]
    exact Quiet.refl c
  · rw [heq]
    exact ⟨rfl, rfl, rfl, fun _ _ => rfl⟩

end QuietSteps

/-! ## The registry a session sees -/

/-- The registry of a controller, seen from a session. -/
def view (session : Session) (c : QController Suite Ctx Namespace) : Registry Namespace where
  registered := {ns | ns ∈ c.quicrSubscriptionsMap}
  active := {ns | subscribedOn session ns c.log}

/-- A quiet step is not seen on any session. -/
theorem Quiet.view_eq {c c' : QController Suite Ctx Namespace} (h : Quiet c c')
    (session : Session) : view session c' = view session c := by
  unfold view
  rw [h.map_eq]
  simp only [h.subscribedOn_eq]

/-- What a call remembers between two of its steps. -/
def phase : Task Suite Ctx Namespace → Registry.Phase Namespace
  | .creating _ profile => .missed profile.quicrNamespace
  | .subscribing _ subDelegate => .holds subDelegate.quicrNamespace
  | _ => .idle

/-- What the next step of a call does to the registry. -/
def action (c : QController Suite Ctx Namespace) :
    Task Suite Ctx Namespace → Registry.Action Namespace
  | .finding _ profile =>
      if profile.quicrNamespace ∈ c.quicrSubscriptionsMap then .hit profile.quicrNamespace
      else .miss profile.quicrNamespace
  | .creating _ profile =>
      if profile.quicrNamespace ∈ c.quicrSubscriptionsMap then .fail profile.quicrNamespace
      else .register profile.quicrNamespace
  | .subscribing _ subDelegate => .activate subDelegate.quicrNamespace
  | .stopping quicrNamespace =>
      if quicrNamespace ∈ c.quicrSubscriptionsMap then .withdraw quicrNamespace else .quiet
  | _ => .quiet

omit [DecidableEq Namespace] in
/-- A call in its publications half relies on nothing. -/
@[simp] theorem phase_publications (publications : List (MediaStream Namespace)) :
    phase (Task.publications publications : Task Suite Ctx Namespace) = .idle := by
  cases publications <;> rfl

omit [DecidableEq Namespace] in
/-- Between two profiles a call relies on nothing. -/
@[simp] theorem phase_profiles (loop : ProfileLoop Namespace) :
    phase (Task.profiles loop : Task Suite Ctx Namespace) = .idle := by
  unfold Task.profiles
  split <;> rfl

omit [DecidableEq Namespace] in
/-- Going to the next profile, a call relies on nothing. -/
@[simp] theorem phase_nextProfile (c : QController Suite Ctx Namespace)
    (loop : ProfileLoop Namespace) : phase (Task.nextProfile c loop) = .idle := by
  unfold Task.nextProfile
  split
  · rfl
  · exact phase_profiles loop

/-! ## What changes the registry -/

/-- A namespace with a delegate is registered. -/
theorem mem_of_lookup {c : QController Suite Ctx Namespace} {ns : Namespace}
    {subDelegate : SubscriptionDelegate Suite Ctx Namespace}
    (hl : c.quicrSubscriptionsMap.lookup ns = some subDelegate) : ns ∈ c.quicrSubscriptionsMap :=
  AList.lookup_isSome.mp (Option.isSome_iff_exists.mpr ⟨_, hl⟩)

/-- Every delegate is registered under its own namespace. -/
def Keyed (c : QController Suite Ctx Namespace) : Prop :=
  ∀ ns subDelegate, c.quicrSubscriptionsMap.lookup ns = some subDelegate →
    subDelegate.quicrNamespace = ns

/-- What is registered after a `stopSubscription` was registered before it. -/
theorem lookup_of_stopSubscription {c : QController Suite Ctx Namespace} {ns ns' : Namespace}
    {subDelegate : SubscriptionDelegate Suite Ctx Namespace}
    (hl : (c.stopSubscription ns).quicrSubscriptionsMap.lookup ns' = some subDelegate) :
    c.quicrSubscriptionsMap.lookup ns' = some subDelegate := by
  rcases stopSubscription_cases c ns with ⟨-, heq⟩ | ⟨stopped, -, heq⟩
  · rw [heq] at hl
    exact hl
  · rw [heq] at hl
    by_cases hns : ns' = ns
    · subst hns
      rw [AList.lookup_erase] at hl
      cases hl
    · rwa [AList.lookup_erase_ne hns] at hl

section Effects

variable (env : Environment Namespace) (L : Libs Suite Ctx Namespace)

/-- It fails for a registered namespace and registers any other. -/
theorem createQuicrSubscriptionDelegate_cases (c : QController Suite Ctx Namespace)
    (sourceId : SourceId) (ns : Namespace) (intent : SubscribeIntent)
    (originUrl authToken : String) (e2eToken : Bytes) (qDelegate : Ref)
    (cipherSuite : Option Suite) :
    (ns ∈ c.quicrSubscriptionsMap ∧
      c.createQuicrSubscriptionDelegate env L sourceId ns intent originUrl authToken e2eToken
        qDelegate cipherSuite = (none, c)) ∨
    ∃ subDelegate : SubscriptionDelegate Suite Ctx Namespace,
      ns ∉ c.quicrSubscriptionsMap ∧ subDelegate.quicrNamespace = ns ∧
      c.createQuicrSubscriptionDelegate env L sourceId ns intent originUrl authToken e2eToken
        qDelegate cipherSuite = (some subDelegate,
          { c with quicrSubscriptionsMap := c.quicrSubscriptionsMap.insert ns subDelegate }) := by
  unfold createQuicrSubscriptionDelegate
  cases hl : c.quicrSubscriptionsMap.lookup ns with
  | some subDelegate => exact Or.inl ⟨mem_of_lookup hl, rfl⟩
  | none => exact Or.inr ⟨_, AList.lookup_eq_none.mp hl, rfl, rfl⟩

/-- A subscribe activates the delegate's namespace on the live session. -/
theorem view_subscribe {session : Session} {c : QController Suite Ctx Namespace}
    (hlive : c.clientSession = some session)
    (subDelegate : SubscriptionDelegate Suite Ctx Namespace) (transportMode : TransportMode) :
    view session (c.subscribe subDelegate transportMode) =
      ⟨(view session c).registered,
        insert subDelegate.quicrNamespace (view session c).active⟩ := by
  unfold QController.subscribe SubscriptionDelegate.subscribe
  rw [hlive]
  refine congrArg (Registry.mk _) (Set.ext fun ns => ?_)
  show subscribedOn session ns (.subscribe session _ :: c.log) ↔
    ns = subDelegate.quicrNamespace ∨ subscribedOn session ns c.log
  rw [subscribedOn_subscribe, eq_comm]

/-- `stopSubscription` withdraws a registered namespace. -/
theorem view_stopSubscription {session : Session} {c : QController Suite Ctx Namespace}
    (hkeyed : Keyed c) (hlive : c.clientSession = some session) {ns : Namespace}
    (hns : ns ∈ c.quicrSubscriptionsMap) :
    view session (c.stopSubscription ns) =
      ⟨(view session c).registered \ {ns}, (view session c).active \ {ns}⟩ := by
  obtain ⟨subDelegate, hl⟩ := Option.isSome_iff_exists.mp (AList.lookup_isSome.mpr hns)
  have hself : subDelegate.quicrNamespace = ns := hkeyed ns subDelegate hl
  unfold stopSubscription SubscriptionDelegate.unsubscribe
  rw [hl, hlive]
  unfold view
  congr 1
  · ext ns'
    show ns' ∈ c.quicrSubscriptionsMap.erase ns ↔ ns' ∈ c.quicrSubscriptionsMap ∧ ns' ≠ ns
    rw [AList.mem_erase, and_comm]
  · ext ns'
    show subscribedOn session ns' (.unsubscribe session _ :: c.log) ↔
      subscribedOn session ns' c.log ∧ ns' ≠ ns
    rw [subscribedOn_unsubscribe, ne_comm]
    show _ ∧ ns' ≠ subDelegate.quicrNamespace ↔ _
    rw [hself]

/-- `stopSubscription` does nothing for a namespace that is not registered. -/
theorem stopSubscription_of_not_mem {c : QController Suite Ctx Namespace} {ns : Namespace}
    (hns : ns ∉ c.quicrSubscriptionsMap) : c.stopSubscription ns = c := by
  rcases stopSubscription_cases c ns with ⟨-, heq⟩ | ⟨subDelegate, hl, -⟩
  · exact heq
  · exact absurd (mem_of_lookup hl) hns

end Effects

/-! ## The cases of a step -/

/-- What one step of a call does: of the steps that concern the registry, each with the
answer it got, and of the others only that they are quiet. -/
inductive StepCase (c : QController Suite Ctx Namespace) :
    Task Suite Ctx Namespace → Option ℤ × QController Suite Ctx Namespace × Task Suite Ctx Namespace →
    Prop where
  | quiet {t t' : Task Suite Ctx Namespace} {c' : QController Suite Ctx Namespace}
      (hphase : phase t = .idle) (haction : action c t = .quiet) (hquiet : Quiet c c')
      (hnext : phase t' = .idle) : StepCase c t (none, c', t')
  | found {loop : ProfileLoop Namespace} {profile : Profile Namespace}
      {subDelegate : SubscriptionDelegate Suite Ctx Namespace}
      (hl : c.quicrSubscriptionsMap.lookup profile.quicrNamespace = some subDelegate) :
      StepCase c (.finding loop profile) (none, c, .subscribing loop subDelegate)
  | missed {loop : ProfileLoop Namespace} {profile : Profile Namespace}
      (hfree : profile.quicrNamespace ∉ c.quicrSubscriptionsMap) :
      StepCase c (.finding loop profile) (none, c, .creating loop profile)
  | failed {loop : ProfileLoop Namespace} {profile : Profile Namespace}
      (hmem : profile.quicrNamespace ∈ c.quicrSubscriptionsMap) :
      StepCase c (.creating loop profile) (some (-1), c, .nextProfile c loop)
  | created {loop : ProfileLoop Namespace} {profile : Profile Namespace}
      {subDelegate : SubscriptionDelegate Suite Ctx Namespace}
      (hfree : profile.quicrNamespace ∉ c.quicrSubscriptionsMap)
      (hns : subDelegate.quicrNamespace = profile.quicrNamespace) :
      StepCase c (.creating loop profile)
        (none, { c with
          quicrSubscriptionsMap :=
            c.quicrSubscriptionsMap.insert profile.quicrNamespace subDelegate },
          .subscribing loop subDelegate)
  | subscribed {loop : ProfileLoop Namespace}
      {subDelegate : SubscriptionDelegate Suite Ctx Namespace} :
      StepCase c (.subscribing loop subDelegate)
        (some 0, c.subscribe subDelegate loop.transportMode, .nextProfile c loop)
  | stopped {ns : Namespace} :
      StepCase c (.stopping ns) (none, c.stopSubscription ns, .done)

section Steps

variable (env : Environment Namespace) (L : Libs Suite Ctx Namespace)

/-- **Inversion of a step.** -/
theorem taskStep_cases (c : QController Suite Ctx Namespace) (t : Task Suite Ctx Namespace) :
    StepCase c t (taskStep env L c t) := by
  cases t with
  | allocating rest =>
      obtain ⟨subscriptions, publications⟩ := rest
      cases subscriptions with
      | nil => exact .quiet rfl rfl (Quiet.refl c) (phase_publications _)
      | cons stream subscriptions =>
          have hquiet := getSubscriptionDelegate_quiet env c stream.sourceId stream.profileSet
          unfold taskStep
          simp only
          split
          · exact .quiet rfl rfl hquiet rfl
          · exact .quiet rfl rfl hquiet rfl
  | updating delegate stream rest =>
      unfold taskStep
      simp only
      split
      · exact .quiet rfl rfl (quiet_call c rfl) rfl
      · exact .quiet rfl rfl (quiet_call c rfl) rfl
  | preparing delegate stream rest =>
      unfold taskStep
      simp only
      split
      · exact .quiet rfl rfl (quiet_call c rfl) rfl
      · exact .quiet rfl rfl (quiet_call c rfl) (phase_profiles _)
  | finding loop profile =>
      unfold taskStep findQuicrSubscriptionDelegate
      cases hl : c.quicrSubscriptionsMap.lookup profile.quicrNamespace with
      | some subDelegate =>
          simp only [hl]
          exact .found hl
      | none =>
          simp only [hl]
          exact .missed (AList.lookup_eq_none.mp hl)
  | creating loop profile =>
      unfold taskStep
      rcases createQuicrSubscriptionDelegate_cases env L c loop.sourceId profile.quicrNamespace
          .syncUp "" "" [] loop.delegate c.cipherSuite with
        ⟨hmem, heq⟩ | ⟨subDelegate, hfree, hns, heq⟩
      · simp only [heq]
        exact .failed hmem
      · simp only [heq]
        exact .created hfree hns
  | subscribing loop subDelegate => exact .subscribed
  | publishing publication profiles publications =>
      cases profiles with
      | nil => exact .quiet rfl rfl (Quiet.refl c) (phase_publications _)
      | cons profile profiles =>
          have hquiet := processProfile_quiet env L c publication profile
          unfold taskStep
          simp only
          split
          · exact .quiet rfl rfl hquiet (phase_publications _)
          · exact .quiet rfl rfl hquiet rfl
  | stopping ns => exact .stopped
  | done => exact .quiet rfl rfl (Quiet.refl c) rfl

/-- **Refinement.** Each step of a call is one step of a registry's client.
SOURCE: src/QController.cpp:173-212, src/QController.cpp:303-352 -/
theorem taskStep_refines {session : Session} {c : QController Suite Ctx Namespace}
    (hkeyed : Keyed c) (hlive : c.clientSession = some session) (t : Task Suite Ctx Namespace) :
    Registry.Step (view session c) (phase t) (action c t)
      (view session (taskStep env L c t).2.1) (phase (taskStep env L c t).2.2) := by
  have hcases := taskStep_cases env L c t
  generalize taskStep env L c t = result at hcases
  cases hcases with
  | quiet hphase haction hquiet hnext =>
      simp only [hphase, haction, hnext, hquiet.view_eq]
      exact .quiet _
  | @found loop profile subDelegate hl =>
      have hholds : phase (.subscribing loop subDelegate) = .holds profile.quicrNamespace :=
        congrArg _ (hkeyed _ _ hl)
      have haction : action c (.finding loop profile) = .hit profile.quicrNamespace :=
        if_pos (mem_of_lookup hl)
      simp only [hholds, haction]
      exact .hit _ (mem_of_lookup hl)
  | @missed loop profile hfree =>
      have haction : action c (.finding loop profile) = .miss profile.quicrNamespace :=
        if_neg hfree
      rw [haction]
      exact .miss (view session c) hfree
  | @failed loop profile hmem =>
      have haction : action c (.creating loop profile) = .fail profile.quicrNamespace :=
        if_pos hmem
      simp only [haction, phase_nextProfile]
      exact .fail _ hmem
  | @created loop profile subDelegate hfree hns =>
      have hholds : phase (.subscribing loop subDelegate) = .holds profile.quicrNamespace :=
        congrArg _ hns
      have haction : action c (.creating loop profile) = .register profile.quicrNamespace :=
        if_neg hfree
      have hview : view session { c with
          quicrSubscriptionsMap :=
            c.quicrSubscriptionsMap.insert profile.quicrNamespace subDelegate } =
          ⟨insert profile.quicrNamespace (view session c).registered, (view session c).active⟩ := by
        refine congrArg (fun s => Registry.mk s _) (Set.ext fun ns => ?_)
        exact AList.mem_insert _
      simp only [hholds, haction, hview]
      exact .register (view session c) hfree
  | subscribed =>
      simp only [phase_nextProfile, view_subscribe hlive]
      exact .activate _ _
  | @stopped ns =>
      by_cases hmem : ns ∈ c.quicrSubscriptionsMap
      · have haction : action c (.stopping ns : Task Suite Ctx Namespace) = .withdraw ns :=
          if_pos hmem
        simp only [haction, view_stopSubscription hkeyed hlive hmem]
        exact .withdraw _ hmem
      · have haction : action c (.stopping ns : Task Suite Ctx Namespace) = .quiet :=
          if_neg hmem
        simp only [haction, stopSubscription_of_not_mem hmem]
        exact .quiet _

/-- A `startSubscription` fails exactly where it creates a delegate that exists. -/
theorem taskStep_fails_iff (c : QController Suite Ctx Namespace) (t : Task Suite Ctx Namespace) :
    (taskStep env L c t).1 = some (-1) ↔ ∃ ns, action c t = .fail ns := by
  have hcases := taskStep_cases env L c t
  generalize taskStep env L c t = result at hcases
  cases hcases with
  | quiet hphase haction hquiet hnext => simp [haction]
  | found hl => simp [action, mem_of_lookup hl]
  | missed hfree => simp [action, hfree]
  | failed hmem => simp [action, hmem]
  | created hfree hns => simp [action, hfree]
  | subscribed => simp [action]
  | @stopped ns => by_cases hmem : ns ∈ c.quicrSubscriptionsMap <;> simp [action, hmem]

end Steps

/-! ## What every step leaves alone -/

/-- What the steps of calls can do to the controller. -/
inductive Effect (c : QController Suite Ctx Namespace) :
    QController Suite Ctx Namespace → Prop where
  | quiet {c' : QController Suite Ctx Namespace} (h : Quiet c c') : Effect c c'
  | register (subDelegate : SubscriptionDelegate Suite Ctx Namespace) :
      Effect c { c with
        quicrSubscriptionsMap :=
          c.quicrSubscriptionsMap.insert subDelegate.quicrNamespace subDelegate }
  | subscribe (subDelegate : SubscriptionDelegate Suite Ctx Namespace)
      (transportMode : TransportMode) : Effect c (c.subscribe subDelegate transportMode)
  | stop (ns : Namespace) : Effect c (c.stopSubscription ns)

namespace Effect

variable {c c' : QController Suite Ctx Namespace}

/-- No effect replaces the session. -/
theorem clientSession_eq (h : Effect c c') : c'.clientSession = c.clientSession := by
  cases h with
  | quiet h => exact h.clientSession_eq
  | register subDelegate => rfl
  | subscribe subDelegate transportMode =>
      obtain ⟨_, _, _, heq, -⟩ := subscribe_side c subDelegate transportMode
      rw [heq]
  | stop ns =>
      obtain ⟨_, _, _, heq, -⟩ := stopSubscription_side c ns
      rw [heq]

/-- No effect starts a session. -/
theorem sessions_eq (h : Effect c c') : c'.sessions = c.sessions := by
  cases h with
  | quiet h => exact h.sessions_eq
  | register subDelegate => rfl
  | subscribe subDelegate transportMode =>
      obtain ⟨_, _, _, heq, -⟩ := subscribe_side c subDelegate transportMode
      rw [heq]
  | stop ns =>
      obtain ⟨_, _, _, heq, -⟩ := stopSubscription_side c ns
      rw [heq]

/-- Every effect keeps the delegates under their own namespaces. -/
theorem keyed (h : Effect c c') (hc : Keyed c) : Keyed c' := by
  intro ns d hl
  cases h with
  | quiet h =>
      rw [h.map_eq] at hl
      exact hc ns d hl
  | register subDelegate =>
      by_cases hns : ns = subDelegate.quicrNamespace
      · subst hns
        rw [AList.lookup_insert] at hl
        cases hl
        rfl
      · rw [AList.lookup_insert_ne hns] at hl
        exact hc ns d hl
  | subscribe subDelegate transportMode =>
      refine hc ns d ?_
      rw [subscribe_eq] at hl
      exact hl
  | stop ns' => exact hc ns d (lookup_of_stopSubscription hl)

/-- Requests go to the live session. -/
theorem subscribedOn_eq (h : Effect c c') {session : Session}
    (hsession : c.clientSession ≠ some session) (ns : Namespace) :
    subscribedOn session ns c'.log = subscribedOn session ns c.log := by
  have hne {session' : Session} (hlive : c.clientSession = some session') (P : Prop) :
      ¬ (session' = session ∧ P) := by
    rintro ⟨rfl, -⟩
    exact hsession hlive
  cases h with
  | quiet h => exact h.subscribedOn_eq session ns
  | register subDelegate => rfl
  | subscribe subDelegate transportMode =>
      unfold QController.subscribe SubscriptionDelegate.subscribe
      cases hlive : c.clientSession with
      | none => rfl
      | some session' => exact if_neg (hne hlive _)
  | stop ns' =>
      unfold stopSubscription SubscriptionDelegate.unsubscribe
      cases c.quicrSubscriptionsMap.lookup ns' with
      | none => rfl
      | some subDelegate =>
          cases hlive : c.clientSession with
          | none => rfl
          | some session' => exact if_neg (hne hlive _)

end Effect

/-- **Every step is an effect.** A task registers, subscribes, stops or is quiet. -/
theorem taskStep_effect (env : Environment Namespace) (L : Libs Suite Ctx Namespace)
    (c : QController Suite Ctx Namespace) (t : Task Suite Ctx Namespace) :
    Effect c (taskStep env L c t).2.1 := by
  have hcases := taskStep_cases env L c t
  generalize taskStep env L c t = result at hcases
  cases hcases with
  | quiet hphase haction hquiet hnext => exact .quiet hquiet
  | found hl => exact .quiet (Quiet.refl c)
  | missed hfree => exact .quiet (Quiet.refl c)
  | failed hmem => exact .quiet (Quiet.refl c)
  | @created loop profile subDelegate hfree hns =>
      rw [← hns]
      exact .register subDelegate
  | @subscribed loop subDelegate => exact .subscribe subDelegate loop.transportMode
  | @stopped ns => exact .stop ns

end Qmedia.Analysis
