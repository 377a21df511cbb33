import Qmedia.Analysis.ManifestDecoding
import Qmedia.Analysis.ManifestHalves
import Qmedia.Analysis.PublishedNames

/-!
# Expiry times in bounds

A publication delegate pads its priorities to two but leaves its expiry times alone,
while a profile of a manifest may leave both out. The two priorities are in bounds by
construction. The first expiry time is read at every non-empty call, so a document can
be published, whatever the application answers and whatever is published, exactly if
every profile of its publications has one (`alwaysInBounds_iff_givesExpiry`).
-/

set_option autoImplicit false

namespace Qmedia.Analysis

open Qmedia.Library Qmedia.Model Qmedia.Model.QController

variable {Suite Ctx Namespace : Type} [DecidableEq Namespace]

/-! ## Which call faults -/

section Faults

variable (L : Libs Suite Ctx Namespace)

/-- A delegate keeps its expiry times, and only runs out of bounds without any. -/
theorem publishNamedObject_expiry (d : PublicationDelegate Suite Ctx Namespace) (client : Bool)
    (data : Bytes) (groupFlag : Bool) (trace : Trace) :
    (d.publishNamedObject L client data groupFlag trace).2.expiry = d.expiry ∧
      (d.expiry ≠ [] →
        (d.publishNamedObject L client data groupFlag trace).1 ≠ .error .outOfBounds) := by
  by_cases hdata : data = []
  · have heq : d.publishNamedObject L client data groupFlag trace = (.ok ⟨none, none⟩, d) := by
      unfold PublicationDelegate.publishNamedObject
      rw [if_pos hdata]
    rw [heq]
    exact ⟨rfl, fun _ h => by cases h⟩
  · cases client with
    | false =>
        have heq : d.publishNamedObject L false data groupFlag trace = (.ok ⟨none, none⟩, d) := by
          unfold PublicationDelegate.publishNamedObject
          rw [if_neg hdata, if_pos (by decide)]
        rw [heq]
        exact ⟨rfl, fun _ h => by cases h⟩
    | true =>
        have hstep : d.publishNamedObject L true data groupFlag trace =
          publishStep L d ⟨data, groupFlag, trace⟩ := rfl
        rw [hstep]
        cases hd : d.expiry with
        | nil =>
            rw [publishStep_fault L d hdata hd]
            exact ⟨hd, fun h => absurd rfl h⟩
        | cons e es =>
            rw [publishStep_ok L d hdata hd rfl rfl]
            exact ⟨hd, fun _ h => by cases h⟩

/-- The delegates of some namespaces all have expiry times. -/
def ExpirySet (created : Namespace → Prop) (c : QController Suite Ctx Namespace) : Prop :=
  ∀ ns publication, created ns → c.quicrPublicationsMap.lookup ns = some publication →
    publication.delegate.expiry ≠ []

/-- Publishing on namespaces with expiry times does not fault and keeps them. -/
theorem publish_expirySet (env : Environment Namespace) (created : Namespace → Prop)
    (c : QController Suite Ctx Namespace) (h : ExpirySet created c) {ns : Namespace}
    (hns : created ns) (data : Bytes) (groupFlag : Bool) (startTime : ℕ) :
    (controllerStep env L c (.publishNamedObject ns data groupFlag startTime)).1 ≠
        .error .outOfBounds ∧
      ExpirySet created
        (controllerStep env L c (.publishNamedObject ns data groupFlag startTime)).2 := by
  unfold controllerStep
  simp only
  rcases publishNamedObject_cases L c ns data groupFlag startTime with
    hskip | ⟨publication, es, -, hl, heffect, hnext⟩
  · rw [hskip]
    exact ⟨fun h => (by cases h), h⟩
  · obtain ⟨hexp, hsafe⟩ := publishNamedObject_expiry L publication.delegate
      c.clientSession.isSome data groupFlag (startTrace startTime)
    rw [heffect, hnext]
    constructor
    · intro herror
      refine hsafe (h ns publication hns hl) ?_
      cases hr : (publication.delegate.publishNamedObject L c.clientSession.isSome data groupFlag
          (startTrace startTime)).1 with
      | error f =>
          rw [hr] at herror
          cases herror
          rfl
      | ok e =>
          rw [hr] at herror
          cases herror
    · intro ns' publication' hns' hl'
      by_cases hne : ns' = ns
      · subst hne
        rw [AList.lookup_insert] at hl'
        cases hl'
        show (publication.delegate.publishNamedObject L c.clientSession.isSome data groupFlag
          (startTrace startTime)).2.expiry ≠ []
        rw [hexp]
        exact h ns' publication hns' hl
      · rw [AList.lookup_insert_ne hne] at hl'
        exact h ns' publication' hns' hl'

end Faults

/-! ## What a manifest creates -/

section Creation

variable (env : Environment Namespace) (L : Libs Suite Ctx Namespace)

/-- The publications that a manifest creates. -/
def Created (c : QController Suite Ctx Namespace) (m : Manifest Namespace) (ns : Namespace) :
    Prop :=
  c.quicrPublicationsMap.lookup ns = none ∧
    ((c.updateManifest env L m).quicrPublicationsMap.lookup ns).isSome

/-- If every profile has expiry times, so has every publication created from one. -/
theorem updateManifest_expirySet (c : QController Suite Ctx Namespace) (m : Manifest Namespace)
    (hm : ∀ s ∈ m.publications, ∀ p ∈ s.profileSet.profiles, p.expiry ≠ []) :
    ExpirySet (Created env L c m) (c.updateManifest env L m) := by
  obtain ⟨m₁, m₂, es, heq, -⟩ := processSubscriptions_side env L c m.subscriptions
  have hfree : ExpirySet (fun ns => c.quicrPublicationsMap.lookup ns = none)
      (c.updateManifest env L m) := by
    refine processPublications_invariant env L _ m.publications ?_ _ ?_
    · intro c' s p hs hp h
      rcases processProfile_cases env L c' s p with
        ⟨m, es, -, heq, -⟩ | ⟨m, es, session, q, time, request, accepted, -, -, -, -, -, heq⟩
      · rw [heq]
        exact h
      · rw [heq]
        intro ns publication hns hl
        by_cases hne : ns = p.quicrNamespace
        · subst hne
          obtain rfl := Option.some.inj ((AList.lookup_insert _).symm.trans hl)
          exact hm s hs p hp
        · exact h ns publication hns ((AList.lookup_insert_ne hne).symm.trans hl)
    · intro ns publication hns hl
      rw [heq] at hl
      rw [hns] at hl
      cases hl
  exact fun ns publication hns hl => hfree ns publication hns.1 hl

/-- A manifest leaves the session as it is. -/
theorem updateManifest_clientSession (c : QController Suite Ctx Namespace)
    (m : Manifest Namespace) :
    (c.updateManifest env L m).clientSession = c.clientSession := by
  obtain ⟨m₁, m₂, es, heq, -⟩ := processSubscriptions_side env L c m.subscriptions
  refine processPublications_invariant env L (fun c' => c'.clientSession = c.clientSession)
    m.publications (fun c' s p _ _ h => ?_) _ ?_
  · exact (processProfile_settings env L c' s p).1.trans h
  · rw [heq]

/-- Calls of `publishNamedObject` on publications that a manifest creates. -/
def PublishesCreated (c : QController Suite Ctx Namespace) (m : Manifest Namespace)
    (op : ControllerOp Namespace) : Prop :=
  ∃ ns data groupFlag startTime, op = .publishNamedObject ns data groupFlag startTime ∧
    Created env L c m ns

/-- **Run without faults.** Publications created with expiry times read none out of bounds,
whatever is called. -/
theorem outputs_inBounds (c : QController Suite Ctx Namespace) (m : Manifest Namespace)
    (hm : ∀ s ∈ m.publications, ∀ p ∈ s.profileSet.profiles, p.expiry ≠ [])
    (calls : List (ControllerOp Namespace))
    (hcalls : ∀ op ∈ calls, PublishesCreated env L c m op) :
    ∀ r ∈ outputs (controllerStep env L) (c.updateManifest env L m) calls,
      r ≠ .error .outOfBounds := by
  have hset := updateManifest_expirySet env L c m hm
  generalize c.updateManifest env L m = c' at hset
  induction calls generalizing c' with
  | nil =>
      intro r hr
      cases hr
  | cons op calls ih =>
      obtain ⟨ns, data, groupFlag, startTime, rfl, hns⟩ := hcalls op (List.mem_cons_self ..)
      obtain ⟨hsafe, hset'⟩ := publish_expirySet L env (Created env L c m) c' hset hns data
        groupFlag startTime
      intro r hr
      rw [outputs_cons] at hr
      rcases List.mem_cons.mp hr with rfl | hr
      · exact hsafe
      · exact ih (fun op' hop' => hcalls op' (List.mem_cons_of_mem _ hop')) _ hset' r hr

end Creation

/-! ## A profile without expiry times -/

section OneProfile

/-- The call asks the application to prepare a publication. -/
def isPreparation : Event Namespace → Bool
  | .preparePublication .. => true
  | _ => false

/-- An application that prepares only the publication profile number `k`. -/
def preparesOnly (k : ℕ) : Environment Namespace where
  allocateSubBySourceId _ _ _ := none
  updateSubscription _ _ _ _ _ := 0
  prepareSubscription _ _ _ _ _ mode := (0, mode)
  allocatePubByNamespace _ _ _ _ _ := some 1
  preparePublication log _ _ _ mode := (if log.countP isPreparation = k then 0 else 1, mode)
  connect _ _ _ := true
  connected _ _ := true
  publishIntent _ _ _ := true
  getSubscriptionState _ _ _ := 0
  time _ := 0
  uninitialised _ := ⟨0, 0, 0, 0⟩

/-- A controller on a session whose application has been asked to prepare `i` profiles
and has allocated every delegate asked for. -/
structure Ready (i : ℕ) (c : QController Suite Ctx Namespace) : Prop where
  session : c.clientSession = some 0
  publisher : c.qPublisherDelegate = some 1
  prepared : c.log.countP isPreparation = i
  allocated : ∀ key delegate, c.qPublicationsMap.lookup key = some delegate → delegate = some 1

variable (L : Libs Suite Ctx Namespace) (k : ℕ)

omit [DecidableEq Namespace] in
/-- The application gives its one delegate for every namespace. -/
theorem getPublicationDelegate_ready {i : ℕ} {c : QController Suite Ctx Namespace}
    (h : Ready i c) (ns : Namespace) (sourceID qualityProfile appTag : String) :
    ∃ c', c.getPublicationDelegate (preparesOnly k) L.toQuicr ns sourceID qualityProfile appTag =
        (some 1, c') ∧ Ready i c' ∧ c'.quicrPublicationsMap = c.quicrPublicationsMap := by
  unfold getPublicationDelegate
  rw [if_neg (by rw [h.publisher]; simp)]
  cases hl : c.qPublicationsMap.lookup (L.str ns) with
  | some delegate =>
      obtain rfl := h.allocated _ _ hl
      exact ⟨c, rfl, h, rfl⟩
  | none =>
      refine ⟨_, rfl, ⟨h.session, h.publisher, h.prepared, fun key delegate hkey => ?_⟩, rfl⟩
      by_cases hk : key = L.str ns
      · subst hk
        exact (Option.some.inj ((AList.lookup_insert _).symm.trans hkey)).symm
      · exact h.allocated key delegate ((AList.lookup_insert_ne hk).symm.trans hkey)

/-- A profile with another number is not prepared, and nothing is created for it. -/
theorem processProfile_refused {i : ℕ} {c : QController Suite Ctx Namespace} (h : Ready i c)
    (hi : i ≠ k) (s : MediaStream Namespace) (p : Profile Namespace) :
    Ready (i + 1) (c.processProfile (preparesOnly k) L s p).2 ∧
      (c.processProfile (preparesOnly k) L s p).2.quicrPublicationsMap =
        c.quicrPublicationsMap := by
  obtain ⟨c', heq, h', hmap⟩ := getPublicationDelegate_ready L k h p.quicrNamespace s.sourceId
    p.qualityProfile p.appTag
  have hanswer (mode : TransportMode) :
      ((preparesOnly k).preparePublication c'.log 1 s.sourceId p.qualityProfile mode).1 = 1 := by
    show (if c'.log.countP isPreparation = k then (0 : ℤ) else 1) = 1
    rw [h'.prepared, if_neg hi]
  unfold processProfile
  simp only [heq, hanswer]
  refine ⟨⟨h'.session, h'.publisher, ?_, h'.allocated⟩, hmap⟩
  show (_ :: c'.log).countP isPreparation = i + 1
  rw [List.countP_cons_of_pos rfl, h'.prepared]

/-- The profile number `k` is prepared and started. -/
theorem processProfile_prepared {c : QController Suite Ctx Namespace} (h : Ready k c)
    (s : MediaStream Namespace) (p : Profile Namespace) :
    (c.processProfile (preparesOnly k) L s p).1 = .started := by
  obtain ⟨c', heq, h', -⟩ := getPublicationDelegate_ready L k h p.quicrNamespace s.sourceId
    p.qualityProfile p.appTag
  have hanswer (mode : TransportMode) :
      ((preparesOnly k).preparePublication c'.log 1 s.sourceId p.qualityProfile mode).1 = 0 := by
    show (if c'.log.countP isPreparation = k then (0 : ℤ) else 1) = 0
    rw [h'.prepared, if_pos rfl]
  unfold processProfile
  simp only [heq, hanswer]
  rfl

/-- Of a list of profiles that application starts the one number `k`, alone. -/
theorem finalState_preparesOnly (pre post : List (MediaStream Namespace × Profile Namespace))
    (s : MediaStream Namespace) (p : Profile Namespace) (i : ℕ) (hk : i + pre.length = k)
    (c : QController Suite Ctx Namespace) (h : Ready i c)
    (hfree : c.quicrPublicationsMap.lookup p.quicrNamespace = none) :
    ∃ c' qDelegate time,
      (finalState (profileStep (preparesOnly k) L) c
        (pre ++ (s, p) :: post)).quicrPublicationsMap.lookup p.quicrNamespace =
        some ⟨.active, delegateFor L c' qDelegate time s p⟩ := by
  induction pre generalizing i c with
  | nil =>
      obtain rfl : i = k := by simpa using hk
      have hstarted := processProfile_prepared L i h s p
      rw [List.nil_append, finalState_cons]
      rcases processProfile_cases (preparesOnly i) L c s p with
        ⟨m, es, -, -, hnot⟩ | ⟨m, es, session, q, time, request, accepted, -, -, -, -, -, heq⟩
      · -- the profile is prepared, on a session, and its namespace is free
        exfalso
        rcases hnot hstarted with hnone | hsome
        · rw [h.session] at hnone
          cases hnone
        · rw [hfree] at hsome
          cases hsome
      · refine ⟨c, q, time, ?_⟩
        refine finalState_invariant (profileStep (preparesOnly i) L)
          (fun c' => c'.quicrPublicationsMap.lookup p.quicrNamespace =
            some ⟨.active, delegateFor L c q time s p⟩) post
          (fun c' x _ hc' => processProfile_keeps (preparesOnly i) L c' x.1 x.2 hc') _ ?_
        show (c.processProfile (preparesOnly i) L s p).2.quicrPublicationsMap.lookup _ = _
        rw [heq]
        exact AList.lookup_insert _
  | cons x pre ih =>
      rw [List.length_cons] at hk
      obtain ⟨hready, hmap⟩ := processProfile_refused L k h (by omega) x.1 x.2
      rw [List.cons_append, finalState_cons]
      refine ih (i + 1) (by omega) _ hready ?_
      show (c.processProfile (preparesOnly k) L x.1 x.2).2.quicrPublicationsMap.lookup _ = none
      rw [hmap, hfree]

/-- A controller with a session and nothing else. -/
def freshSession : QController Suite Ctx Namespace where
  logger := false
  qSubscriberDelegate := none
  qPublisherDelegate := some 1
  qSubscriptionsMap := ∅
  qPublicationsMap := ∅
  quicrSubscriptionsMap := ∅
  quicrPublicationsMap := ∅
  clientSession := some 0
  stop := false
  closed := false
  isSingleorderedSubscription := true
  isSingleorderedPublication := false
  cipherSuite := none
  sessions := 1
  log := [.connect 0 ⟨"", "", 0, 0, 0⟩ true]

/-- A new controller that has connected. -/
theorem freshSession_reachable :
    Reachable (preparesOnly k) L (freshSession : QController Suite Ctx Namespace) :=
  ⟨none, some 1, false, false, none, _, [.connect ⟨"", "", 0, 0, 0⟩], rfl, rfl⟩

omit [DecidableEq Namespace] in
/-- Nothing has been prepared yet. -/
theorem freshSession_ready : Ready 0 (freshSession : QController Suite Ctx Namespace) :=
  ⟨rfl, rfl, rfl, fun _ _ h => by cases h⟩

/-- Without an application for subscriptions, that half does nothing. -/
theorem processSubscriptions_none (env : Environment Namespace)
    (c : QController Suite Ctx Namespace) (hc : c.qSubscriberDelegate = none)
    (subscriptions : List (MediaStream Namespace)) :
    c.processSubscriptions env L subscriptions = c := by
  refine finalState_invariant (processSubscription env L) (fun c' => c' = c) subscriptions
    (fun c' s _ h => ?_) c rfl
  rw [h]
  unfold processSubscription getSubscriptionDelegate
  rw [if_pos hc]

/-- A profile without expiry times can be reached and published. -/
theorem exists_fault (m : Manifest Namespace) {s : MediaStream Namespace}
    {p : Profile Namespace} (hs : s ∈ m.publications) (hp : p ∈ s.profileSet.profiles)
    (hexp : p.expiry = []) :
    ∃ (env : Environment Namespace) (c : QController Suite Ctx Namespace) (op : _),
      Reachable env L c ∧ c.clientSession.isSome ∧ PublishesCreated env L c m op ∧
      (controllerStep env L (c.updateManifest env L m) op).1 = .error .outOfBounds := by
  obtain ⟨pre, post, hall⟩ := List.append_of_mem
    ((mem_allProfiles m.publications s p).mpr ⟨hs, hp⟩)
  have hupdate : freshSession.updateManifest (preparesOnly pre.length) L m =
      finalState (profileStep (preparesOnly pre.length) L)
        (freshSession : QController Suite Ctx Namespace) (pre ++ (s, p) :: post) := by
    unfold updateManifest
    rw [processSubscriptions_none L _ _ rfl, processPublications_eq _ L _ _ rfl, hall]
  obtain ⟨c', q, time, hl⟩ := finalState_preparesOnly L pre.length pre post s p 0 (Nat.zero_add _)
    freshSession freshSession_ready rfl
  rw [← hupdate] at hl
  refine ⟨preparesOnly pre.length, freshSession, .publishNamedObject p.quicrNamespace [0] true 0,
    freshSession_reachable L pre.length, rfl, ⟨_, _, _, _, rfl, rfl, by rw [hl]; rfl⟩, ?_⟩
  obtain ⟨heffect, -⟩ := publishNamedObject_active L _ [0] true 0 hl (by simp)
  have hsession := updateManifest_clientSession (preparesOnly pre.length) L freshSession m
  have hfault := publishStep_fault L (delegateFor L c' q time s p)
    (x := ⟨[0], true, startTrace 0⟩) (by simp) hexp
  unfold publishStep at hfault
  rw [hsession] at heffect
  unfold controllerStep
  simp only [heffect]
  show Except.map Reply.published
    ((delegateFor L c' q time s p).publishNamedObject L true [0] true (startTrace 0)).1 = _
  rw [hfault]
  rfl

end OneProfile

/-! ## The documents that can be published -/

section Documents

variable (L : Libs Suite Ctx Namespace)

/-- No application, no reachable controller with a session and no calls on the
publications that the manifest creates run out of bounds. -/
def AlwaysInBounds (m : Manifest Namespace) : Prop :=
  ∀ (env : Environment Namespace) (c : QController Suite Ctx Namespace), Reachable env L c →
    c.clientSession.isSome → ∀ calls, (∀ op ∈ calls, PublishesCreated env L c m op) →
    ∀ r ∈ outputs (controllerStep env L) (c.updateManifest env L m) calls, r ≠ .error .outOfBounds

/-- **Documents that can be published.** Every indexing stays in bounds, for an accepted
document, exactly if the document gives expiry times for every profile of its
publications.
SOURCE: src/QuicrDelegates.cpp:376-399, src/ManifestTypes.cpp:10-30 -/
theorem alwaysInBounds_iff_givesExpiry (parseNamespace : String → Option Namespace) (j : Json)
    (m : Manifest Namespace) (hj : Manifest.fromJson parseNamespace j = .ok m) :
    AlwaysInBounds L m ↔
      ∀ s ∈ itemsAt j "publications", ∀ profile ∈ profileItems s, GivesExpiry profile := by
  rw [forall_publicationItems_iff parseNamespace hj GivesExpiry (fun p => p.expiry ≠ [])
    (fun x y h => expiry_ne_nil_iff parseNamespace h)]
  constructor
  · intro hsafe s hs p hp hexp
    obtain ⟨env, c, op, hreach, hsession, hop, hfault⟩ := exists_fault L m hs hp hexp
    refine hsafe env c hreach hsession [op] ?_ _ ?_ hfault
    · intro op' hop'
      rw [List.mem_singleton.mp hop']
      exact hop
    · rw [outputs_cons]
      exact List.mem_cons_self ..
  · intro hm env c _ _ calls hcalls
    exact outputs_inBounds env L c m hm calls hcalls

end Documents

/-! ## A document without expiry times -/

/-- The namespace parser on the one text used here. -/
def parseMedia (text : String) : Option Prefix :=
  if text = "0x0000010100000dc00001000000000000/80" then some mediaNamespace else none

/-- One audio publication without the field "expiry". -/
def audioDocument : Json :=
  .object [
    ("publications", .array [.object [
      ("label", .string "Participant A"),
      ("mediaType", .string "audio"),
      ("profileSet", .object [
        ("profiles", .array [.object [
          ("qualityProfile", .string "opus,br=6"),
          ("quicrNamespace", .string "0x0000010100000dc00001000000000000/80")]]),
        ("type", .string "simulcast")]),
      ("sourceId", .string "68ff975e"),
      ("sourceName", .string "Audio A1")]]),
    ("subscriptions", .array [])]

/-- What is read from it. -/
def audioManifest : Manifest Prefix where
  subscriptions := []
  publications := [{
    mediaType := "audio"
    sourceName := "Audio A1"
    sourceId := "68ff975e"
    label := "Participant A"
    profileSet := {
      type := "simulcast"
      profiles := [{
        qualityProfile := "opus,br=6"
        quicrNamespace := mediaNamespace
        priorities := []
        expiry := []
        appTag := "" }] } }]

/-- Its one profile gives no expiry times, so neither side holds. -/
theorem alwaysInBounds_iff_audioDocument :
    AlwaysInBounds referenceLibs audioManifest ↔
      ∀ s ∈ itemsAt audioDocument "publications", ∀ profile ∈ profileItems s,
        GivesExpiry profile :=
  alwaysInBounds_iff_givesExpiry referenceLibs parseMedia audioDocument audioManifest
    (by decide +kernel)

/-- The document is accepted, and the first object published from it reads the first
expiry time of an empty list. -/
theorem missing_expiry_faults :
    Manifest.fromJson parseMedia audioDocument = .ok audioManifest ∧
      Created (preparesOnly 0) referenceLibs freshSession audioManifest mediaNamespace ∧
      outputs (controllerStep (preparesOnly 0) referenceLibs)
          (freshSession.updateManifest (preparesOnly 0) referenceLibs audioManifest)
          [.publishNamedObject mediaNamespace [0x2a] true 0] = [.error .outOfBounds] ∧
      ¬ AlwaysInBounds referenceLibs audioManifest := by
  have hcreated : Created (preparesOnly 0) referenceLibs freshSession audioManifest
      mediaNamespace := by
    unfold Created
    decide +kernel
  have hfault : outputs (controllerStep (preparesOnly 0) referenceLibs)
      (freshSession.updateManifest (preparesOnly 0) referenceLibs audioManifest)
      [.publishNamedObject mediaNamespace [0x2a] true 0] = [.error .outOfBounds] := by
    decide +kernel
  refine ⟨by decide +kernel, hcreated, hfault, ?_⟩
  intro hsafe
  refine hsafe (preparesOnly 0) freshSession (freshSession_reachable referenceLibs 0) rfl
    [.publishNamedObject mediaNamespace [0x2a] true 0] (fun op hop => ?_) (.error .outOfBounds) ?_
    rfl
  · rw [List.mem_singleton.mp hop]
    exact ⟨_, _, _, _, rfl, hcreated⟩
  · rw [hfault]
    exact List.mem_singleton.mpr rfl

end Qmedia.Analysis
