import Qmedia.Analysis.ManifestHalves

/-!
# Announcing publications

A call of `updateManifest` announces exactly the namespaces it registers
(`attempted_iff_registers`), whatever became of earlier announcements: the registry is
never shrunk, and a registered namespace is an error for `createQuicrPublicationDelegate`
and not started again. So a publication is announced on the session in use exactly if it
is new to the controller or was accepted on that session before
(`updatesAnnounced_iff`); one that was refused, or announced on a session that `connect`
has replaced since, is never announced again.
-/

set_option autoImplicit false

namespace Qmedia.Analysis

open Qmedia.Library Qmedia.Model Qmedia.Model.QController

section Events

variable {Namespace : Type}

/-- A `publishIntent` for the namespace was accepted on the session. -/
def AcceptedOn (session : Session) (ns : Namespace) (log : List (Event Namespace)) : Prop :=
  ∃ request, request.quicrNamespace = ns ∧ .publishIntent session request true ∈ log

/-- A `publishIntent` for the namespace was attempted on the session. -/
def AttemptedOn (session : Session) (ns : Namespace) (log : List (Event Namespace)) : Prop :=
  ∃ request accepted, request.quicrNamespace = ns ∧
    .publishIntent session request accepted ∈ log

/-- An announcement was attempted in one part or in the other. -/
theorem attemptedOn_append (session : Session) (ns : Namespace) (es es' : List (Event Namespace)) :
    AttemptedOn session ns (es ++ es') ↔
      AttemptedOn session ns es ∨ AttemptedOn session ns es' := by
  unfold AttemptedOn
  constructor
  · rintro ⟨request, accepted, hns, hmem⟩
    rcases List.mem_append.mp hmem with hmem | hmem
    · exact Or.inl ⟨request, accepted, hns, hmem⟩
    · exact Or.inr ⟨request, accepted, hns, hmem⟩
  · rintro (⟨request, accepted, hns, hmem⟩ | ⟨request, accepted, hns, hmem⟩)
    · exact ⟨request, accepted, hns, List.mem_append_left _ hmem⟩
    · exact ⟨request, accepted, hns, List.mem_append_right _ hmem⟩

/-- Calls of which none is an announcement announce nothing. -/
theorem not_attemptedOn {p : Event Namespace → Bool} {es : List (Event Namespace)}
    (hes : ∀ e ∈ es, p e) (hp : ∀ session request accepted,
      p (.publishIntent session request accepted) = false) (session : Session) (ns : Namespace) :
    ¬ AttemptedOn session ns es := by
  rintro ⟨request, accepted, -, hmem⟩
  have h := hes _ hmem
  rw [hp] at h
  cases h

/-- It was the last attempt, or an earlier one. -/
theorem attemptedOn_cons (session : Session) (ns : Namespace) (request : PublishIntent Namespace)
    (accepted : Bool) (es : List (Event Namespace)) :
    AttemptedOn session ns (.publishIntent session request accepted :: es) ↔
      request.quicrNamespace = ns ∨ AttemptedOn session ns es := by
  rw [← List.singleton_append, attemptedOn_append]
  refine or_congr_left ⟨?_, fun h => ⟨request, accepted, h, List.mem_singleton.mpr rfl⟩⟩
  rintro ⟨request', accepted', hns, hmem⟩
  cases List.mem_singleton.mp hmem
  exact hns

variable [DecidableEq Namespace]

/-- An event is an announcement of the namespace on the session, accepted if asked for. -/
def announces (session : Session) (ns : Namespace) (mustAccept : Bool) :
    Event Namespace → Bool
  | .publishIntent session' request accepted =>
      session' = session ∧ request.quicrNamespace = ns ∧ (mustAccept → accepted)
  | _ => false

/-- Decided by going through the log. -/
instance (session : Session) (ns : Namespace) (log : List (Event Namespace)) :
    Decidable (AcceptedOn session ns log) :=
  decidable_of_iff (log.any (announces session ns true)) <| by
    rw [List.any_eq_true]
    constructor
    · rintro ⟨e, hmem, he⟩
      cases e with
      | publishIntent session' request accepted =>
          obtain ⟨rfl, hns, haccepted⟩ := of_decide_eq_true he
          obtain rfl := haccepted rfl
          exact ⟨request, hns, hmem⟩
      | _ => cases he
    · rintro ⟨request, hns, hmem⟩
      exact ⟨_, hmem, decide_eq_true ⟨rfl, hns, fun _ => rfl⟩⟩

/-- Decided by going through the log. -/
instance (session : Session) (ns : Namespace) (log : List (Event Namespace)) :
    Decidable (AttemptedOn session ns log) :=
  decidable_of_iff (log.any (announces session ns false)) <| by
    rw [List.any_eq_true]
    constructor
    · rintro ⟨e, hmem, he⟩
      cases e with
      | publishIntent session' request accepted =>
          obtain ⟨rfl, hns, -⟩ := of_decide_eq_true he
          exact ⟨request, accepted, hns, hmem⟩
      | _ => cases he
    · rintro ⟨request, accepted, hns, hmem⟩
      exact ⟨_, hmem, decide_eq_true ⟨rfl, hns, fun h => by cases h⟩⟩

end Events

variable {Suite Ctx Namespace : Type} [DecidableEq Namespace]
variable (env : Environment Namespace) (L : Libs Suite Ctx Namespace)

/-- The namespace has a publication. -/
def Registered (c : QController Suite Ctx Namespace) (ns : Namespace) : Prop :=
  (c.quicrPublicationsMap.lookup ns).isSome

/-! ## A call announces what it registers -/

/-- What the calls `es`, made since the controller was `c`, have announced and
registered. -/
structure AnnouncesNew (session : Session) (c c' : QController Suite Ctx Namespace)
    (es : List (Event Namespace)) : Prop where
  log_eq : c'.log = es ++ c.log
  clientSession_eq : c'.clientSession = some session
  keeps : ∀ ns, Registered c ns → Registered c' ns
  attempted_iff : ∀ ns, AttemptedOn session ns es ↔ Registered c' ns ∧ ¬ Registered c ns

/-- A new entry registers its own namespace and no other. -/
theorem registered_insert_iff {c c' : QController Suite Ctx Namespace} {ns : Namespace}
    {publication : PublicationDetails Suite Ctx Namespace}
    (h : c'.quicrPublicationsMap = c.quicrPublicationsMap.insert ns publication)
    (ns' : Namespace) : Registered c' ns' ↔ ns' = ns ∨ Registered c ns' := by
  unfold Registered
  rw [h]
  by_cases hns : ns' = ns
  · rw [hns, AList.lookup_insert]
    simp
  · rw [AList.lookup_insert_ne hns]
    simp [hns]

/-- One profile announces its namespace if it registers it. -/
theorem processProfile_announcesNew {session : Session} {c c' : QController Suite Ctx Namespace}
    {es : List (Event Namespace)} (h : AnnouncesNew session c c' es)
    (x : MediaStream Namespace × Profile Namespace) :
    ∃ es', AnnouncesNew session c (profileStep env L c' x).2 es' := by
  unfold profileStep
  rcases processProfile_cases env L c' x.1 x.2 with
    ⟨m, es₁, hes₁, heq, -⟩ | ⟨m, es₁, session', q, time, request, accepted, hes₁, -, hsession,
      hfree, hrequest, heq⟩
  · refine ⟨es₁ ++ es, ?_⟩
    rw [heq]
    refine ⟨?_, h.clientSession_eq, h.keeps, ?_⟩
    · show es₁ ++ c'.log = _
      rw [h.log_eq, List.append_assoc]
    · intro ns
      rw [attemptedOn_append, h.attempted_iff]
      exact or_iff_right (not_attemptedOn hes₁ (fun _ _ _ => rfl) session ns)
  · obtain rfl : session' = session := by
      rw [h.clientSession_eq] at hsession
      exact (Option.some.inj hsession).symm
    have hregistered := registered_insert_iff (congrArg QController.quicrPublicationsMap heq)
    have hnew : ¬ Registered c x.2.quicrNamespace := by
      intro hold
      have hkept := h.keeps _ hold
      unfold Registered at hkept
      rw [hfree] at hkept
      cases hkept
    refine ⟨.publishIntent session' request accepted :: (es₁ ++ es), ?_, ?_, ?_, ?_⟩
    · rw [heq]
      show _ :: (es₁ ++ c'.log) = _
      rw [h.log_eq, List.cons_append, List.append_assoc]
    · rw [heq]
      exact h.clientSession_eq
    · intro ns hns
      exact (hregistered ns).mpr (Or.inr (h.keeps ns hns))
    · intro ns
      have hnone := not_attemptedOn hes₁ (fun _ _ _ => rfl) session' ns
      rw [attemptedOn_cons, attemptedOn_append, h.attempted_iff, hrequest, hregistered,
        or_iff_right hnone, or_and_right]
      refine or_congr_left ?_
      constructor
      · rintro rfl
        exact ⟨rfl, hnew⟩
      · rintro ⟨heq', -⟩
        exact heq'.symm

/-- **Announcements of a call.** `updateManifest` announces on the session exactly the
namespaces it registers. -/
theorem attempted_iff_registers {session : Session} {c : QController Suite Ctx Namespace}
    (hsession : c.clientSession = some session) (hsingle : c.isSingleorderedPublication = false)
    (m : Manifest Namespace) :
    ∃ es, AnnouncesNew session c (c.updateManifest env L m) es := by
  obtain ⟨m₁, m₂, es₁, heq, hes₁⟩ := processSubscriptions_side env L c m.subscriptions
  unfold updateManifest
  rw [processPublications_eq env L _ _ (by rw [heq]; exact hsingle), heq]
  refine finalState_invariant (profileStep env L)
    (fun c' => ∃ es, AnnouncesNew session c c' es) _
    (fun c' x _ ⟨es, h⟩ => processProfile_announcesNew env L h x) _ ⟨es₁, ?_⟩
  refine ⟨rfl, hsession, fun _ h => h, ?_⟩
  intro ns
  constructor
  · exact fun h => absurd h (not_attemptedOn hes₁ (fun _ _ _ => rfl) session ns)
  · rintro ⟨h, hn⟩
    exact absurd h hn

/-! ## Selected profiles -/

/-- A profile of the publications whose delegate is not null and is prepared in this
call: the call's loop body for it ends as started. -/
def Selected (c : QController Suite Ctx Namespace) (m : Manifest Namespace)
    (x : MediaStream Namespace × Profile Namespace) : Prop :=
  ∃ pre post, allProfiles m.publications = pre ++ x :: post ∧
    (profileStep env L (finalState (profileStep env L)
      (c.processSubscriptions env L m.subscriptions) pre) x).1 = .started

/-- A selected profile is registered when the call returns. -/
theorem registered_of_selected {session : Session} {c : QController Suite Ctx Namespace}
    (hsession : c.clientSession = some session) (hsingle : c.isSingleorderedPublication = false)
    {m : Manifest Namespace} {x : MediaStream Namespace × Profile Namespace}
    (hx : Selected env L c m x) :
    Registered (c.updateManifest env L m) x.2.quicrNamespace := by
  obtain ⟨pre, post, hall, hstarted⟩ := hx
  obtain ⟨m₁, m₂, es₁, heq, -⟩ := processSubscriptions_side env L c m.subscriptions
  have hkeep (c' : QController Suite Ctx Namespace)
      (y : MediaStream Namespace × Profile Namespace) (ns : Namespace)
      (h : Registered c' ns) : Registered (profileStep env L c' y).2 ns := by
    obtain ⟨publication, hl⟩ := Option.isSome_iff_exists.mp h
    exact Option.isSome_iff_exists.mpr ⟨_, processProfile_keeps env L c' y.1 y.2 hl⟩
  have hpre : (finalState (profileStep env L) (c.processSubscriptions env L m.subscriptions)
      pre).clientSession = some session := by
    refine finalState_invariant (profileStep env L) (fun c' => c'.clientSession = some session) pre
      (fun c' y _ h => (processProfile_settings env L c' y.1 y.2).1.trans h) _ ?_
    rw [heq]
    exact hsession
  unfold updateManifest
  rw [processPublications_eq env L _ _ (by rw [heq]; exact hsingle), hall, finalState_append,
    finalState_cons]
  refine finalState_invariant (profileStep env L) (fun c' => Registered c' x.2.quicrNamespace) post
    (fun c' y _ h => hkeep c' y _ h) _ ?_
  generalize finalState (profileStep env L) (c.processSubscriptions env L m.subscriptions) pre = c'
    at hstarted hpre
  rcases processProfile_cases env L c' x.1 x.2 with
    ⟨_, _, -, -, hnot⟩ | ⟨_, _, _, _, _, _, _, -, -, -, -, -, hreg⟩
  · rcases hnot hstarted with hnone | hsome
    · rw [hpre] at hnone
      cases hnone
    · exact hkeep c' x _ hsome
  · unfold Registered profileStep
    rw [hreg]
    exact Option.isSome_iff_exists.mpr ⟨_, AList.lookup_insert _⟩

/-! ## Runs -/

/-- The events of a call that led from `c` to `c'`. -/
def callsOf (c c' : QController Suite Ctx Namespace) : List (Event Namespace) :=
  c'.log.take (c'.log.length - c.log.length)

omit [DecidableEq Namespace] in
/-- The calls made in between are those by which the log has grown. -/
theorem callsOf_eq {c c' : QController Suite Ctx Namespace} {es : List (Event Namespace)}
    (h : c'.log = es ++ c.log) : callsOf c c' = es := by
  unfold callsOf
  rw [h, List.length_append, Nat.add_sub_cancel, List.take_left']
  rfl

/-- A property of every call of `updateManifest` in a run that is made with a session and
without single ordering of publications. -/
def EveryUpdate (P : Session → QController Suite Ctx Namespace → Manifest Namespace → Prop)
    (c₀ : QController Suite Ctx Namespace) (ops : List (ControllerOp Namespace)) : Prop :=
  ∀ pre m post session, ops = pre ++ .updateManifest m :: post →
    (finalState (controllerStep env L) c₀ pre).clientSession = some session →
    (finalState (controllerStep env L) c₀ pre).isSingleorderedPublication = false →
    P session (finalState (controllerStep env L) c₀ pre) m

/-- After the call every selected profile has been accepted on the session before, or has
been announced on it by the call. -/
def AnnouncesSelected (session : Session) (c : QController Suite Ctx Namespace)
    (m : Manifest Namespace) : Prop :=
  ∀ x, Selected env L c m x → AcceptedOn session x.2.quicrNamespace c.log ∨
    AttemptedOn session x.2.quicrNamespace (callsOf c (c.updateManifest env L m))

/-- Every selected profile that is registered already was accepted on the session. -/
def RegisteredAccepted (session : Session) (c : QController Suite Ctx Namespace)
    (m : Manifest Namespace) : Prop :=
  ∀ x, Selected env L c m x → Registered c x.2.quicrNamespace →
    AcceptedOn session x.2.quicrNamespace c.log

/-- What the manifest selects is announced exactly if what is registered has been accepted. -/
theorem announcesSelected_iff {session : Session} {c : QController Suite Ctx Namespace}
    (hsession : c.clientSession = some session) (hsingle : c.isSingleorderedPublication = false)
    (m : Manifest Namespace) :
    AnnouncesSelected env L session c m ↔ RegisteredAccepted env L session c m := by
  obtain ⟨es, hes⟩ := attempted_iff_registers env L hsession hsingle m
  unfold AnnouncesSelected RegisteredAccepted
  rw [callsOf_eq hes.log_eq]
  refine forall₂_congr ?_
  intro x hx
  have hreg := registered_of_selected env L hsession hsingle hx
  rw [hes.attempted_iff]
  constructor
  · rintro (haccepted | ⟨-, hnew⟩) hold
    · exact haccepted
    · exact absurd hold hnew
  · intro h
    by_cases hold : Registered c x.2.quicrNamespace
    · exact Or.inl (h hold)
    · exact Or.inr ⟨hreg, hold⟩

/-- **Announced on the live session.** In every run, each manifest announces its selected
profiles on the session in use exactly if those of them that are registered already were
accepted on that session.
SOURCE: src/QController.cpp:224-258, src/QController.cpp:354-389 -/
theorem updatesAnnounced_iff (c₀ : QController Suite Ctx Namespace)
    (ops : List (ControllerOp Namespace)) :
    EveryUpdate env L (AnnouncesSelected env L) c₀ ops ↔
      EveryUpdate env L (RegisteredAccepted env L) c₀ ops := by
  unfold EveryUpdate
  constructor
  · intro h pre m post session hops hsession hsingle
    exact (announcesSelected_iff env L hsession hsingle m).mp (h pre m post session hops hsession
      hsingle)
  · intro h pre m post session hops hsession hsingle
    exact (announcesSelected_iff env L hsession hsingle m).mpr (h pre m post session hops hsession
      hsingle)

/-! ## Announcements that are not made again -/

/-- An announcement that the client refused is not made again by the same manifest, and
one that it accepted is not made again on the session of a later `connect`. -/
theorem camera_not_announced_again :
    ¬ EveryUpdate (takesAll false) referenceLibs (AnnouncesSelected (takesAll false) referenceLibs)
        (newController none)
        [.connect localRelay, .updateManifest cameraManifest, .updateManifest cameraManifest] ∧
      ¬ EveryUpdate (takesAll true) referenceLibs (AnnouncesSelected (takesAll true) referenceLibs)
        (newController none)
        [.connect localRelay, .updateManifest cameraManifest, .connect localRelay,
          .updateManifest cameraManifest] := by
  constructor
  · intro h
    have hupdate := h [.connect localRelay, .updateManifest cameraManifest] cameraManifest [] 0 rfl
      (by decide +kernel) (by decide +kernel)
    have hcamera := hupdate (camera "80a6ac22", cameraProfile)
      ⟨[], [], rfl, by decide +kernel⟩
    revert hcamera
    decide +kernel
  · intro h
    have hupdate := h [.connect localRelay, .updateManifest cameraManifest, .connect localRelay]
      cameraManifest [] 1 rfl (by decide +kernel) (by decide +kernel)
    have hcamera := hupdate (camera "80a6ac22", cameraProfile)
      ⟨[], [], rfl, by decide +kernel⟩
    revert hcamera
    decide +kernel

end Qmedia.Analysis
