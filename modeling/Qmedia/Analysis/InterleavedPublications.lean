import Qmedia.Analysis.CriticalSections
import Qmedia.Analysis.PublisherRefinement
import Qmedia.Analysis.StartStopAgreement
import Qmedia.Library.ClaimedWork

/-!
# Publications from several threads

`startPublication` registers a namespace under the lock and announces it outside, while other
threads start, publish on and pause publications. Seen from the session in use a call claims a
namespace when it registers it and owes its announcement until it makes it, so in every
interleaving each new namespace is announced once (`interleaved_announcements`); and whatever
is sent for a namespace is what one delegate sends for the calls addressed to it, in the order
in which they took the lock (`interleaved_publisher`).
-/

set_option autoImplicit false

namespace Qmedia.Analysis

open Qmedia.Library Qmedia.Model Qmedia.Model.QController

variable {Suite Ctx Namespace : Type} [DecidableEq Namespace]

section Steps

variable (env : Environment Namespace) (L : Libs Suite Ctx Namespace)

/-! ## Announced once -/

/-- What is registered, and how often each namespace was announced on the session. -/
def announcements (session : Session) (c : QController Suite Ctx Namespace) :
    Ledger Namespace where
  claimed := {ns | Registered c ns}
  done ns := announcedOn session ns c.log

/-- What leaves the publications alone leaves the announcements alone. -/
theorem Aside.announcements_eq {c c' : QController Suite Ctx Namespace} (h : Aside c c')
    (session : Session) : announcements session c' = announcements session c := by
  unfold announcements Registered
  rw [h.publications_eq]
  simp only [h.announcedOn_eq]

/-- **Refinement.** Each step of a call is one step of a worker at the ledger.
SOURCE: src/QController.cpp:224-258, src/QController.cpp:354-389 -/
theorem callStep_ledger {session : Session} {c : QController Suite Ctx Namespace}
    (hlive : c.clientSession = some session) (t : CallTask Suite Ctx Namespace) :
    Ledger.Step (announcements session c) (debt t)
        (announcements session (callStep env L c t).2.1) (debt (callStep env L c t).2.2) ∧
      (callStep env L c t).2.1.clientSession = some session := by
  have hcases := callStep_cases env L c t
  generalize callStep env L c t = result at hcases
  cases hcases with
  | @locked op =>
      obtain ⟨hsession, hregistered, hannounced⟩ := locked_keeps env L c op.2
      have heq : announcements session (controllerStep env L c op.1).2 =
          announcements session c := by
        unfold announcements
        simp only [hregistered, hannounced]
      simp only [heq]
      exact ⟨.quiet _ _, hsession.trans hlive⟩
  | aside hdebt haside hdebt' =>
      simp only [hdebt, hdebt', haside.announcements_eq]
      exact ⟨.quiet _ _, haside.clientSession_eq.trans hlive⟩
  | @created loop delegate transportMode time hfree =>
      refine ⟨?_, hlive⟩
      have hnew : loop.profile.quicrNamespace ∉ (announcements session c).claimed := by
        show ¬ Registered c _
        unfold Registered
        rw [hfree]
        exact Bool.false_ne_true
      have hclaimed : (announcements session { c with
          quicrPublicationsMap := c.quicrPublicationsMap.insert loop.profile.quicrNamespace
            ⟨.active, delegateFor L c delegate time loop.publication loop.profile⟩ }).claimed =
          insert loop.profile.quicrNamespace (announcements session c).claimed :=
        Set.ext fun ns => registered_insert_iff rfl ns
      have hstep := Ledger.Step.claim (announcements session c) hnew
      rw [← hclaimed] at hstep
      exact hstep
  | @announced loop pubDelegate transportMode session' request accepted t' hsession hns hdebt' =>
      obtain rfl : session' = session := by
        rw [hlive] at hsession
        exact (Option.some.inj hsession).symm
      refine ⟨?_, hlive⟩
      have hdone : (announcements session' (c.call (.publishIntent session' request
          accepted))).done = Function.update (announcements session' c).done
            request.quicrNamespace ((announcements session' c).done request.quicrNamespace + 1) :=
        announcedOn_publishIntent session' request accepted c.log
      have hstep := Ledger.Step.settle (announcements session' c) request.quicrNamespace
      rw [← hdone, hns] at hstep
      simp only [hdebt']
      exact hstep
  | unannounced hsession =>
      rw [hlive] at hsession
      cases hsession

end Steps

section Pools

variable (env : Environment Namespace) (L : Libs Suite Ctx Namespace)
variable {ι : Type} [DecidableEq ι]

/-- The calls `calls`, made on the controller `c`, after the steps of a schedule. -/
def afterCalls (c : QController Suite Ctx Namespace) (calls : ι → InterfaceCall Namespace)
    (schedule : List ι) :
    Pool (QController Suite Ctx Namespace) (CallTask Suite Ctx Namespace) ι :=
  finalState (poolStep (callStep env L)) (InterfaceCall.pool c calls) schedule

omit [DecidableEq Namespace] in
/-- A call that has not started owes nothing. -/
theorem debt_task (call : InterfaceCall Namespace) :
    debt (call.task : CallTask Suite Ctx Namespace) = none := by
  cases call <;> rfl

/-- **Every interleaving settles.** A namespace gained is announced or owed by one call. -/
theorem afterCalls_settles {session : Session} {c : QController Suite Ctx Namespace}
    (hlive : c.clientSession = some session) (calls : ι → InterfaceCall Namespace)
    (schedule : List ι) :
    (afterCalls env L c calls schedule).shared.clientSession = some session ∧
      Ledger.Settles (announcements session c)
        (announcements session (afterCalls env L c calls schedule).shared)
        (fun i => debt ((afterCalls env L c calls schedule).tasks i)) := by
  refine finalState_invariant (poolStep (callStep env L))
    (fun p => p.shared.clientSession = some session ∧ Ledger.Settles (announcements session c)
      (announcements session p.shared) fun i => debt (p.tasks i)) schedule
    (fun p i _ hp => ?_) (InterfaceCall.pool c calls)
    ⟨hlive, Ledger.Settles.refl _ fun i => debt_task (calls i)⟩
  obtain ⟨hstep, hsession⟩ := callStep_ledger env L hp.1 (p.tasks i)
  have hdebts : (fun j => debt ((poolStep (callStep env L) p i).2.tasks j)) =
      Function.update (fun j => debt (p.tasks j)) i
        (debt (callStep env L p.shared (p.tasks i)).2.2) :=
    Function.comp_update debt p.tasks i _
  refine ⟨hsession, ?_⟩
  rw [hdebts]
  exact hp.2.step hstep

omit [DecidableEq Namespace] in
/-- The call has returned. -/
def hasReturned : CallTask Suite Ctx Namespace → Bool
  | .done => true
  | _ => false

/-- The namespace was registered between the two states. -/
def NewlyRegistered (c c' : QController Suite Ctx Namespace) (ns : Namespace) : Prop :=
  ¬ Registered c ns ∧ Registered c' ns

/-- **Announced once.** However the locked calls of any number of threads are interleaved, no
namespace is announced but one that they register, and none twice; and when all of them have
returned, each namespace that they registered has been announced.
SOURCE: src/QController.cpp:224-258, src/QController.cpp:354-389, src/QController.cpp:438-482 -/
theorem interleaved_announcements {session : Session} {c : QController Suite Ctx Namespace}
    (hlive : c.clientSession = some session) (calls : ι → InterfaceCall Namespace)
    (schedule : List ι) (ns : Namespace) :
    (announcedOn session ns (afterCalls env L c calls schedule).shared.log =
        announcedOn session ns c.log ∨
      announcedOn session ns (afterCalls env L c calls schedule).shared.log =
        announcedOn session ns c.log + 1 ∧
        NewlyRegistered c (afterCalls env L c calls schedule).shared ns) ∧
    ((∀ i, hasReturned ((afterCalls env L c calls schedule).tasks i)) →
      NewlyRegistered c (afterCalls env L c calls schedule).shared ns →
      announcedOn session ns (afterCalls env L c calls schedule).shared.log =
        announcedOn session ns c.log + 1) := by
  obtain ⟨-, hsettles⟩ := afterCalls_settles env L hlive calls schedule
  refine ⟨hsettles.done_le ns, ?_⟩
  rintro hreturned ⟨hold, hnew⟩
  have hidle (i : ι) : debt ((afterCalls env L c calls schedule).tasks i) = none := by
    have hi := hreturned i
    cases h : (afterCalls env L c calls schedule).tasks i with
    | announcing _ _ _ =>
        rw [h] at hi
        cases hi
    | _ => rfl
  rcases hsettles.done_eq hidle ns with ⟨hdone, -, -⟩ | ⟨-, hclaimed | hunclaimed⟩
  · exact hdone
  · exact absurd hclaimed hold
  · exact absurd hnew hunclaimed

/-! ## One publisher for each namespace -/

/-- The objects that the locked calls of a run send for `n`. -/
def sentIn (n : Namespace)
    (outs : List (Option (ControllerOp Namespace × Except Fault (Reply Namespace)))) :
    List Datagram :=
  outs.filterMap fun out => out.bind fun made => sentReply n made.1 made.2

omit [DecidableEq Namespace] in
/-- The locked calls of a run, in the order in which they took their locks. -/
def madeIn (outs : List (Option (ControllerOp Namespace × Except Fault (Reply Namespace)))) :
    List (ControllerOp Namespace) :=
  outs.filterMap fun out => out.map Prod.fst

omit [DecidableEq ι] in
/-- What a step sends for a registered namespace is what its publisher sends. -/
theorem callStep_publishes {n : Namespace} {c : QController Suite Ctx Namespace}
    {d : PublicationDetails Suite Ctx Namespace} (h : Publishes n c d)
    (t : CallTask Suite Ctx Namespace) :
    match (callStep env L c t).1 with
    | none => Publishes n (callStep env L c t).2.1 d
    | some made => sentReply n made.1 made.2 = (publisherStep L n d made.1).1 ∧
        Publishes n (callStep env L c t).2.1 (publisherStep L n d made.1).2 := by
  have hcases := callStep_cases env L c t
  generalize callStep env L c t = result at hcases
  cases hcases with
  | @locked op => exact controllerStep_publisher env L n c d op.1 h
  | aside _ haside _ =>
      refine ⟨?_, ?_⟩
      · rw [haside.publications_eq]
        exact h.1
      · rw [haside.clientSession_eq]
        exact h.2
  | @created loop delegate transportMode time hfree =>
      have hne : n ≠ loop.profile.quicrNamespace := by
        rintro rfl
        rw [h.1] at hfree
        cases hfree
      exact ⟨(AList.lookup_insert_ne hne).trans h.1, h.2⟩
  | announced _ _ _ => exact h
  | unannounced _ => exact h

/-- Everything that a pool sends for a registered namespace. -/
theorem sentIn_registered {n : Namespace}
    {p : Pool (QController Suite Ctx Namespace) (CallTask Suite Ctx Namespace) ι}
    {d : PublicationDetails Suite Ctx Namespace} (h : Publishes n p.shared d)
    (schedule : List ι) :
    sentIn n (outputs (poolStep (callStep env L)) p schedule) =
      sentObjects L d.delegate (activeCalls n d.state
        (madeIn (outputs (poolStep (callStep env L)) p schedule))) := by
  rw [← outputs_publisherStep]
  induction schedule generalizing p d with
  | nil => rfl
  | cons i schedule ih =>
      have hstep := callStep_publishes env L h (p.tasks i)
      rw [outputs_cons]
      unfold sentIn madeIn at ih ⊢
      cases hout : (poolStep (callStep env L) p i).1 with
      | none =>
          have hout' : (callStep env L p.shared (p.tasks i)).1 = none := hout
          rw [hout'] at hstep
          exact ih hstep
      | some made =>
          have hout' : (callStep env L p.shared (p.tasks i)).1 = some made := hout
          rw [hout'] at hstep
          obtain ⟨hsent, hnext⟩ := hstep
          rw [List.filterMap_cons, List.filterMap_cons, Option.bind_some, hsent, ih hnext,
            Option.map_some, outputs_cons, List.filterMap_cons]
          rfl

omit [DecidableEq ι] in
/-- What a step does for a namespace that is not registered: it sends nothing, and registers
the namespace only if that is what the call was about to do. -/
theorem callStep_unregistered {n : Namespace} {c : QController Suite Ctx Namespace}
    (hfree : c.quicrPublicationsMap.lookup n = none) (t : CallTask Suite Ctx Namespace) :
    (callStep env L c t).1.bind (fun made => sentReply n made.1 made.2) = none ∧
      ((callStep env L c t).2.1.quicrPublicationsMap.lookup n = none ∨
        ∃ loop delegate transportMode time, t = .creating loop delegate transportMode ∧
          loop.profile.quicrNamespace = n ∧
          (callStep env L c t).2.1.quicrPublicationsMap.lookup n =
            some ⟨.active, delegateFor L c delegate time loop.publication loop.profile⟩) := by
  have hcases := callStep_cases env L c t
  generalize callStep env L c t = result at hcases
  cases hcases with
  | @locked op =>
      refine ⟨sentStep_unregistered env L hfree op.1, ?_⟩
      rcases controllerStep_registers env L hfree op.1 with hnone | ⟨m, hm⟩
      · exact Or.inl hnone
      · have hlocked := op.2
        rw [hm] at hlocked
        cases hlocked
  | aside _ haside _ =>
      refine ⟨rfl, Or.inl ?_⟩
      rw [haside.publications_eq]
      exact hfree
  | @created loop delegate transportMode time _ =>
      refine ⟨rfl, ?_⟩
      by_cases hns : loop.profile.quicrNamespace = n
      · subst hns
        exact Or.inr ⟨loop, delegate, transportMode, time, rfl, rfl, AList.lookup_insert _⟩
      · exact Or.inl ((AList.lookup_insert_ne (Ne.symm hns)).trans hfree)
  | announced _ _ _ => exact ⟨rfl, Or.inl hfree⟩
  | unannounced _ => exact ⟨rfl, Or.inl hfree⟩

/-! ## Runs -/

/-- The streams of publications that a call lists. -/
def streamsOf : InterfaceCall Namespace → List (MediaStream Namespace)
  | .updateManifest manifest => manifest.publications
  | .locked _ => []

/-- What holds of every thread of a pool between two steps: it goes on with what its call
lists, and the cipher suite is the one of the start. -/
def KeepsToLists (cipherSuite : Option Suite) (calls : ι → InterfaceCall Namespace)
    (p : Pool (QController Suite Ctx Namespace) (CallTask Suite Ctx Namespace) ι) : Prop :=
  p.shared.cipherSuite = cipherSuite ∧ ∀ i, callLists (streamsOf (calls i)) (p.tasks i)

omit [DecidableEq ι] in
/-- No step changes the cipher suite. -/
theorem callStep_cipherSuite (c : QController Suite Ctx Namespace)
    (t : CallTask Suite Ctx Namespace) :
    (callStep env L c t).2.1.cipherSuite = c.cipherSuite := by
  have hcases := callStep_cases env L c t
  generalize callStep env L c t = result at hcases
  cases hcases with
  | @locked op => exact controllerStep_cipherSuite env L c op.1
  | aside _ haside _ => exact haside.cipherSuite_eq
  | created _ => rfl
  | announced _ _ _ => rfl
  | unannounced _ => rfl

/-- A step that registers a namespace takes it from the list of its call. -/
theorem KeepsToLists.step {cipherSuite : Option Suite} {calls : ι → InterfaceCall Namespace}
    {p : Pool (QController Suite Ctx Namespace) (CallTask Suite Ctx Namespace) ι}
    (h : KeepsToLists cipherSuite calls p) (i : ι) :
    KeepsToLists cipherSuite calls (poolStep (callStep env L) p i).2 := by
  refine ⟨(callStep_cipherSuite env L p.shared (p.tasks i)).trans h.1, fun j => ?_⟩
  show callLists _ (Function.update p.tasks i _ j)
  by_cases hj : j = i
  · subst hj
    rw [Function.update_self]
    exact callStep_lists env L p.shared (h.2 j)
  · rw [Function.update_of_ne hj]
    exact h.2 j

omit [DecidableEq Namespace] in
/-- The manifest of a call lists what its loop is about to register. -/
theorem streamsOf_lists {call : InterfaceCall Namespace} {loop : PublicationLoop Namespace}
    (h : LoopLists (streamsOf call) loop) :
    ∃ m, call = .updateManifest m ∧ loop.publication ∈ m.publications := by
  cases call with
  | updateManifest m => exact ⟨m, rfl, h.publication⟩
  | locked op => exact absurd h.publication List.not_mem_nil

/-- Step `i` of a run registers `n` with `delegate`, built as a stream and a profile that list
`n` in the manifest of the thread ask. -/
def RegisteredBy (c : QController Suite Ctx Namespace) (calls : ι → InterfaceCall Namespace)
    (p : Pool (QController Suite Ctx Namespace) (CallTask Suite Ctx Namespace) ι) (i : ι)
    (n : Namespace) (delegate : PublicationDelegate Suite Ctx Namespace) : Prop :=
  p.shared.quicrPublicationsMap.lookup n = none ∧
  (poolStep (callStep env L) p i).2.shared.quicrPublicationsMap.lookup n =
    some ⟨.active, delegate⟩ ∧
  ∃ m stream profile qDelegate time, calls i = .updateManifest m ∧ stream ∈ m.publications ∧
    profile ∈ stream.profileSet.profiles ∧ profile.quicrNamespace = n ∧
    delegate = delegateFor L c qDelegate time stream profile

/-- Everything that a pool sends for a namespace that is not registered yet. -/
theorem sentIn_created {n : Namespace} {session : Session}
    {c : QController Suite Ctx Namespace} {calls : ι → InterfaceCall Namespace}
    (schedule : List ι)
    (p : Pool (QController Suite Ctx Namespace) (CallTask Suite Ctx Namespace) ι)
    (hlive : p.shared.clientSession = some session)
    (hlists : KeepsToLists c.cipherSuite calls p)
    (hfree : p.shared.quicrPublicationsMap.lookup n = none) :
    ((finalState (poolStep (callStep env L)) p schedule).shared.quicrPublicationsMap.lookup n =
        none ∧ sentIn n (outputs (poolStep (callStep env L)) p schedule) = []) ∨
    ∃ pre i post delegate, schedule = pre ++ i :: post ∧
      RegisteredBy env L c calls (finalState (poolStep (callStep env L)) p pre) i n delegate ∧
      sentIn n (outputs (poolStep (callStep env L)) p schedule) =
        sentObjects L delegate (activeCalls n .active (madeIn (outputs (poolStep (callStep env L))
          (finalState (poolStep (callStep env L)) p (pre ++ [i])) post))) := by
  induction schedule generalizing p with
  | nil => exact Or.inl ⟨hfree, rfl⟩
  | cons i schedule ih =>
      obtain ⟨hsent, hcases⟩ := callStep_unregistered env L hfree (p.tasks i)
      obtain ⟨-, hlive'⟩ := callStep_ledger env L hlive (p.tasks i)
      have hrest : sentIn n (outputs (poolStep (callStep env L)) p (i :: schedule)) =
          sentIn n (outputs (poolStep (callStep env L)) (poolStep (callStep env L) p i).2
            schedule) := by
        unfold sentIn
        rw [outputs_cons]
        exact List.filterMap_cons_none hsent
      rw [hrest, finalState_cons]
      rcases hcases with hnone | ⟨loop, q, transportMode, time, htask, hns, hlookup⟩
      · rcases ih _ hlive' (hlists.step env L i) hnone with
          hnever | ⟨pre, j, post, delegate, hschedule, hby, hall⟩
        · exact Or.inl hnever
        · refine Or.inr ⟨i :: pre, j, post, delegate, ?_, hby, hall⟩
          rw [hschedule, List.cons_append]
      · have hlisted := hlists.2 i
        rw [htask] at hlisted
        have hdelegate : delegateFor L p.shared q time loop.publication loop.profile =
            delegateFor L c q time loop.publication loop.profile := by
          unfold delegateFor
          rw [hlists.1]
        rw [hdelegate] at hlookup
        have hpublishes : Publishes n (poolStep (callStep env L) p i).2.shared
            ⟨.active, delegateFor L c q time loop.publication loop.profile⟩ :=
          ⟨hlookup, Option.isSome_iff_exists.mpr ⟨session, hlive'⟩⟩
        obtain ⟨m, hcall, hstream⟩ := streamsOf_lists hlisted
        exact Or.inr ⟨[], i, schedule, delegateFor L c q time loop.publication loop.profile, rfl,
          ⟨hfree, hlookup, m, loop.publication, loop.profile, q, time, hcall, hstream,
            LoopLists.profile hlisted, hns, rfl⟩, sentIn_registered env L hpublishes schedule⟩

/-- **One publisher for each namespace, in every interleaving.** Whatever locked calls of any
number of threads send for a namespace is what one delegate sends for those addressed to it, in
the order in which they took the lock: the delegate registered before the calls, or else the
one that a thread registers, built as its manifest asks and fed with the calls after that.
SOURCE: src/QController.cpp:125-148, src/QController.cpp:224-258, src/QController.cpp:438-482 -/
theorem interleaved_publisher {session : Session} {c : QController Suite Ctx Namespace}
    (hlive : c.clientSession = some session) (calls : ι → InterfaceCall Namespace)
    (schedule : List ι) (n : Namespace) :
    (∃ d, c.quicrPublicationsMap.lookup n = some d ∧
      sentIn n (outputs (poolStep (callStep env L)) (InterfaceCall.pool c calls) schedule) =
        sentObjects L d.delegate (activeCalls n d.state (madeIn
          (outputs (poolStep (callStep env L)) (InterfaceCall.pool c calls) schedule)))) ∨
    ((afterCalls env L c calls schedule).shared.quicrPublicationsMap.lookup n = none ∧
      sentIn n (outputs (poolStep (callStep env L)) (InterfaceCall.pool c calls) schedule) = []) ∨
    ∃ pre i post delegate, schedule = pre ++ i :: post ∧
      RegisteredBy env L c calls (afterCalls env L c calls pre) i n delegate ∧
      sentIn n (outputs (poolStep (callStep env L)) (InterfaceCall.pool c calls) schedule) =
        sentObjects L delegate (activeCalls n .active (madeIn (outputs (poolStep (callStep env L))
          (afterCalls env L c calls (pre ++ [i])) post))) := by
  cases hl : c.quicrPublicationsMap.lookup n with
  | some d =>
      have hpublishes : Publishes n (InterfaceCall.pool c calls).shared d :=
        ⟨hl, Option.isSome_iff_exists.mpr ⟨session, hlive⟩⟩
      exact Or.inl ⟨d, rfl, sentIn_registered env L hpublishes schedule⟩
  | none =>
      refine Or.inr (sentIn_created env L schedule (InterfaceCall.pool c calls) hlive
        ⟨rfl, fun i => ?_⟩ hl)
      show callLists (streamsOf (calls i)) (calls i).task
      cases calls i with
      | updateManifest m => exact List.Subset.refl _
      | locked op => trivial

end Pools

/-! ## Two threads register one camera -/

/-- Two threads that start the same publication, and one that publishes on it. -/
inductive Racer where
  | first
  | second
  | camera
deriving DecidableEq, Repr

/-- Two threads apply the same manifest, and a third publishes on its camera. -/
def racers : Racer → InterfaceCall Prefix
  | .first => .updateManifest cameraManifest
  | .second => .updateManifest cameraManifest
  | .camera => .locked ⟨.publishNamedObject mediaNamespace [0x2a] true 0, rfl⟩

/-- Both threads have prepared the camera before either registers it, and an object is
published on it before it is announced. -/
def race : List Racer :=
  List.replicate 4 .first ++ List.replicate 4 .second ++ [.first, .camera, .second, .first]

/-- Both threads start the camera, and it is announced once. -/
theorem interleaved_announcements_race :
    announcedOn 0 mediaNamespace
      (afterCalls (takesAll true) referenceLibs connectedController racers race).shared.log = 1 :=
  (interleaved_announcements (takesAll true) referenceLibs rfl racers race mediaNamespace).2
    (fun i => by cases i <;> decide +kernel) (by unfold NewlyRegistered Registered; decide +kernel)

/-- The object published before the announcement is sent by the delegate that is registered. -/
theorem interleaved_publisher_race :
    ∃ pre i post delegate, race = pre ++ i :: post ∧
      RegisteredBy (takesAll true) referenceLibs connectedController racers
        (afterCalls (takesAll true) referenceLibs connectedController racers pre) i
        mediaNamespace delegate ∧
      sentIn mediaNamespace (outputs (poolStep (callStep (takesAll true) referenceLibs))
          (InterfaceCall.pool connectedController racers) race) =
        sentObjects referenceLibs delegate (activeCalls mediaNamespace .active (madeIn
          (outputs (poolStep (callStep (takesAll true) referenceLibs))
            (afterCalls (takesAll true) referenceLibs connectedController racers (pre ++ [i]))
            post))) := by
  have hsent : sentIn mediaNamespace (outputs (poolStep (callStep (takesAll true) referenceLibs))
      (InterfaceCall.pool connectedController racers) race) ≠ [] := by
    decide +kernel
  have hlive : connectedController.clientSession = some 0 := rfl
  have hfree : (connectedController.quicrPublicationsMap.lookup mediaNamespace).isSome = false := by
    decide +kernel
  rcases interleaved_publisher (takesAll true) referenceLibs hlive racers race mediaNamespace with
    ⟨d, hd, -⟩ | ⟨-, hnone⟩ | h
  · rw [hd] at hfree
    cases hfree
  · exact absurd hnone hsent
  · exact h

end Qmedia.Analysis
