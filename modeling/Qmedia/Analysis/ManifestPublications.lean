import Qmedia.Library.FirstWriter
import Qmedia.Analysis.ManifestHalves

/-!
# What a manifest does to the publications

The profiles of a stream that are given a delegate and prepared are selected, only the
first of them if publications are single-ordered (`selectedProfiles`). As a map from
namespaces to where their entries come from, the registry of publications is first writer
wins: a selected profile claims its namespace, and a claim on a taken namespace is lost
(`processPublications_originates`). So after a manifest the registry has the old entries,
unchanged, and one new active entry for each new namespace that is selected, built from
the first selected profile that names it (`updateManifest_publications`).
-/

set_option autoImplicit false

namespace Qmedia.Analysis

open Qmedia.Library Qmedia.Model Qmedia.Model.QController

variable {Suite Ctx Namespace : Type} [DecidableEq Namespace]

/-! ## Selected profiles -/

section Selection

variable (env : Environment Namespace) (L : Libs Suite Ctx Namespace)

omit [DecidableEq Namespace] in
/-- A delegate is given for the profile, and it prepares it. -/
def prepares (c : QController Suite Ctx Namespace) (stream : MediaStream Namespace)
    (profile : Profile Namespace) : Bool :=
  let (delegate, c) := c.getPublicationDelegate env L.toQuicr profile.quicrNamespace
    stream.sourceId profile.qualityProfile profile.appTag
  match delegate with
  | none => false
  | some delegate =>
      (env.preparePublication c.log delegate stream.sourceId profile.qualityProfile
        .unreliable).1 = 0

/-- The profiles of a list that are prepared, each when its turn comes. -/
def preparedProfiles (c : QController Suite Ctx Namespace) (stream : MediaStream Namespace) :
    List (Profile Namespace) → List (Profile Namespace)
  | [] => []
  | profile :: profiles =>
      let rest := preparedProfiles (c.processProfile env L stream profile).2 stream profiles
      if prepares env L c stream profile then profile :: rest else rest

/-- All of them, or the first one if publications are single-ordered. -/
def selectedProfiles (c : QController Suite Ctx Namespace) (stream : MediaStream Namespace)
    (profiles : List (Profile Namespace)) : List (Profile Namespace) :=
  if c.isSingleorderedPublication then (preparedProfiles env L c stream profiles).take 1
  else preparedProfiles env L c stream profiles

/-- The selected profiles of a list of streams with their streams, in order. -/
def selections : QController Suite Ctx Namespace → List (MediaStream Namespace) →
    List (MediaStream Namespace × Profile Namespace)
  | _, [] => []
  | c, stream :: streams =>
      (selectedProfiles env L c stream stream.profileSet.profiles).map (fun p => (stream, p)) ++
        selections (c.processProfiles env L stream stream.profileSet.profiles) streams

/-- The selected profiles of a manifest: its subscriptions come first. -/
def manifestSelections (c : QController Suite Ctx Namespace) (m : Manifest Namespace) :
    List (MediaStream Namespace × Profile Namespace) :=
  selections env L (c.processSubscriptions env L m.subscriptions) m.publications

/-- The loop body starts what is prepared. -/
theorem processProfile_started_iff (c : QController Suite Ctx Namespace)
    (stream : MediaStream Namespace) (profile : Profile Namespace) :
    (c.processProfile env L stream profile).1 = .started ↔
      prepares env L c stream profile = true := by
  unfold processProfile prepares
  generalize c.getPublicationDelegate env L.toQuicr profile.quicrNamespace stream.sourceId
    profile.qualityProfile profile.appTag = given
  obtain ⟨delegate, c'⟩ := given
  cases delegate with
  | none => simp
  | some delegate =>
      simp only
      split
      · rename_i hfailed
        simpa using hfailed
      · rename_i hprepared
        simpa using hprepared

/-- The first profile of a list is selected if it is prepared, and the others only if
publications are not single-ordered or it is not. -/
theorem selectedProfiles_cons (c : QController Suite Ctx Namespace)
    (stream : MediaStream Namespace) (profile : Profile Namespace)
    (profiles : List (Profile Namespace)) :
    selectedProfiles env L c stream (profile :: profiles) =
      if prepares env L c stream profile then
        profile :: (if c.isSingleorderedPublication then []
          else selectedProfiles env L (c.processProfile env L stream profile).2 stream profiles)
      else selectedProfiles env L (c.processProfile env L stream profile).2 stream profiles := by
  obtain ⟨-, -, hsingle, -⟩ := processProfile_settings env L c stream profile
  unfold selectedProfiles
  rw [hsingle, preparedProfiles]
  cases c.isSingleorderedPublication with
  | true =>
      cases prepares env L c stream profile with
      | true => simp
      | false => simp
  | false => simp

end Selection

/-! ## Where an entry comes from -/

/-- An entry was there before, or comes from a stream and one of its profiles. -/
inductive Origin (Suite Ctx Namespace : Type) where
  | before (publication : PublicationDetails Suite Ctx Namespace)
  | selected (stream : MediaStream Namespace) (profile : Profile Namespace)

section Origins

variable (env : Environment Namespace) (L : Libs Suite Ctx Namespace)

omit [DecidableEq Namespace] in
/-- An old entry is what it was; a new one is active, with the delegate its stream and
profile ask for. -/
def OriginatesIn (c : QController Suite Ctx Namespace)
    (publication : PublicationDetails Suite Ctx Namespace) :
    Origin Suite Ctx Namespace → Prop
  | .before publication' => publication = publication'
  | .selected stream profile =>
      ∃ qDelegate time, publication = ⟨.active, delegateFor L c qDelegate time stream profile⟩

/-- The entries of a controller, as origins. -/
def origins (c : QController Suite Ctx Namespace) (ns : Namespace) :
    Option (Origin Suite Ctx Namespace) :=
  (c.quicrPublicationsMap.lookup ns).map .before

omit [DecidableEq Namespace] in
/-- A selected profile claims its namespace. -/
def claim (s : MediaStream Namespace × Profile Namespace) :
    Namespace × Origin Suite Ctx Namespace :=
  (s.2.quicrNamespace, .selected s.1 s.2)

/-- The entries of `c` originate as `f` says, for a controller of the cipher suite of
`c₀`. -/
structure Originates (c₀ c : QController Suite Ctx Namespace)
    (f : Namespace → Option (Origin Suite Ctx Namespace)) : Prop where
  session : c.clientSession.isSome
  cipherSuite_eq : c.cipherSuite = c₀.cipherSuite
  refines : Refines (fun _ => OriginatesIn L c₀) (fun ns => c.quicrPublicationsMap.lookup ns) f

/-- **One profile.** It claims its namespace if it is prepared. -/
theorem Originates.processProfile {c₀ c : QController Suite Ctx Namespace}
    {f : Namespace → Option (Origin Suite Ctx Namespace)} (h : Originates L c₀ c f)
    (stream : MediaStream Namespace) (profile : Profile Namespace) :
    Originates L c₀ (c.processProfile env L stream profile).2
      (if prepares env L c stream profile then
        latch f profile.quicrNamespace (.selected stream profile) else f) := by
  obtain ⟨hsession, hsuite, -, -⟩ := processProfile_settings env L c stream profile
  refine ⟨by rw [hsession]; exact h.session, hsuite.trans h.cipherSuite_eq, ?_⟩
  have hstarted := processProfile_started_iff env L c stream profile
  rcases processProfile_cases env L c stream profile with
    ⟨m, es, -, heq, htaken⟩ | ⟨m, es, session, q, time, request, accepted, -, hnew, -, hfree, -, heq⟩
  · -- the entries stay, so the namespace of a prepared profile is taken
    rw [heq]
    split
    · rename_i hprepares
      have hsome : (f profile.quicrNamespace).isSome := by
        rcases htaken (hstarted.mpr hprepares) with hnone | hregistered
        · have hlive := h.session
          rw [hnone] at hlive
          cases hlive
        · exact (h.refines.isSome_iff _).mp hregistered
      rw [latch_eq_self f _ _ hsome]
      exact h.refines
    · exact h.refines
  · rw [heq, if_pos (hstarted.mp hnew)]
    have hdelegate : delegateFor L c q time stream profile =
        delegateFor L c₀ q time stream profile := by
      unfold delegateFor
      rw [h.cipherSuite_eq]
    refine Refines.latch h.refines (AList.lookup_insert _)
      (fun ns hne => AList.lookup_insert_ne hne) (fun _ => ?_) (fun b w hb => ?_)
    · rw [hdelegate]
      exact ⟨q, time, rfl⟩
    · rw [hfree] at hb
      cases hb

/-- **One stream.** Its selected profiles claim their namespaces, in order. -/
theorem Originates.processProfiles {c₀ c : QController Suite Ctx Namespace}
    {f : Namespace → Option (Origin Suite Ctx Namespace)} (h : Originates L c₀ c f)
    (stream : MediaStream Namespace) (profiles : List (Profile Namespace)) :
    Originates L c₀ (c.processProfiles env L stream profiles)
      (latchAll f (((selectedProfiles env L c stream profiles).map
        fun p => (stream, p)).map claim)) := by
  induction profiles generalizing c f with
  | nil =>
      have hnone : selectedProfiles env L c stream [] = [] := by
        simp [selectedProfiles, preparedProfiles]
      rw [hnone]
      exact h
  | cons profile profiles ih =>
      have hone := h.processProfile env L stream profile
      have hstarted := processProfile_started_iff env L c stream profile
      obtain ⟨-, -, hsingle, -⟩ := processProfile_settings env L c stream profile
      rw [selectedProfiles_cons]
      unfold QController.processProfiles
      simp only [hsingle]
      by_cases hprepares : prepares env L c stream profile = true
      · rw [if_pos hprepares] at hone
        rw [hstarted.mpr hprepares, if_pos hprepares]
        cases hc : c.isSingleorderedPublication with
        | true =>
            -- the loop ends here
            simpa [claim] using hone
        | false => simpa [claim] using ih hone
      · have hnot : (c.processProfile env L stream profile).1 ≠ .started :=
          fun hnew => hprepares (hstarted.mp hnew)
        rw [if_neg hprepares] at hone
        rw [if_neg hprepares]
        simpa [hnot] using ih hone

/-- **Run of streams.** -/
theorem processPublications_originates {c₀ c : QController Suite Ctx Namespace}
    {f : Namespace → Option (Origin Suite Ctx Namespace)} (h : Originates L c₀ c f)
    (streams : List (MediaStream Namespace)) :
    Originates L c₀ (c.processPublications env L streams)
      (latchAll f ((selections env L c streams).map claim)) := by
  unfold processPublications
  induction streams generalizing c f with
  | nil => exact h
  | cons stream streams ih =>
      have hone := h.processProfiles env L stream stream.profileSet.profiles
      rw [List.foldl_cons, selections, List.map_append, latchAll_append]
      exact ih hone

/-- **Manifest.** On a session, the entries after a manifest are the old ones with the
claims of the selected profiles written over them, first writer wins. -/
theorem updateManifest_originates {c : QController Suite Ctx Namespace}
    (hsession : c.clientSession.isSome) (m : Manifest Namespace) :
    Originates L c (c.updateManifest env L m)
      (latchAll (origins c) ((manifestSelections env L c m).map claim)) := by
  refine processPublications_originates env L ?_ m.publications
  obtain ⟨m₁, m₂, es, heq, -⟩ := processSubscriptions_side env L c m.subscriptions
  rw [heq]
  exact ⟨hsession, rfl, refines_map _ Origin.before fun _ _ => rfl⟩

/-- Without a session a manifest starts no publication. -/
theorem updateManifest_quicrPublicationsMap_of_none {c : QController Suite Ctx Namespace}
    (hnone : c.clientSession = none) (m : Manifest Namespace) :
    (c.updateManifest env L m).quicrPublicationsMap = c.quicrPublicationsMap := by
  have hrun := processPublications_invariant env L
    (fun c' => c'.clientSession = none ∧ c'.quicrPublicationsMap = c.quicrPublicationsMap)
    m.publications ?_ (c.processSubscriptions env L m.subscriptions) ?_
  · exact hrun.2
  · rintro c' stream profile - - ⟨hnone', hmap⟩
    rcases processProfile_cases env L c' stream profile with
      ⟨_, _, -, heq, -⟩ | ⟨_, _, session, _, _, _, _, -, -, hsession, -, -, -⟩
    · rw [heq]
      exact ⟨hnone', hmap⟩
    · rw [hnone'] at hsession
      cases hsession
  · obtain ⟨m₁, m₂, es, heq, -⟩ := processSubscriptions_side env L c m.subscriptions
    rw [heq]
    exact ⟨hnone, rfl⟩

/-- **Publications of a manifest.** In every state with a session, whatever the
application answers and whether publications are single-ordered or not: the namespaces
registered after a manifest are the old ones and those of the selected profiles; an old
entry keeps its delegate, with its counters, and its state; and a new entry is active,
with the delegate built from the first selected profile that names it. Without a session
nothing changes.
SOURCE: src/QController.cpp:224-258, src/QController.cpp:354-389,
src/QController.cpp:438-482 -/
theorem updateManifest_publications (c : QController Suite Ctx Namespace)
    (m : Manifest Namespace) :
    (c.clientSession.isSome →
      (∀ ns, ns ∈ (c.updateManifest env L m).quicrPublicationsMap ↔
        ns ∈ c.quicrPublicationsMap ∨
          ∃ s ∈ manifestSelections env L c m, s.2.quicrNamespace = ns) ∧
      (∀ ns publication, c.quicrPublicationsMap.lookup ns = some publication →
        (c.updateManifest env L m).quicrPublicationsMap.lookup ns = some publication) ∧
      (∀ ns publication, ns ∉ c.quicrPublicationsMap →
        (c.updateManifest env L m).quicrPublicationsMap.lookup ns = some publication →
        ∃ stream profile qDelegate time,
          (manifestSelections env L c m).find? (fun s => s.2.quicrNamespace = ns) =
            some (stream, profile) ∧
          publication = ⟨.active, delegateFor L c qDelegate time stream profile⟩)) ∧
    (c.clientSession = none →
      (c.updateManifest env L m).quicrPublicationsMap = c.quicrPublicationsMap) := by
  refine ⟨fun hsession => ?_, fun hnone => updateManifest_quicrPublicationsMap_of_none env L hnone m⟩
  have hrefines := (updateManifest_originates env L hsession m).refines
  have hafter (ns : Namespace) :
      latchAll (origins c) ((manifestSelections env L c m).map claim) ns =
        (origins c ns).or (((manifestSelections env L c m).find?
          fun s => s.2.quicrNamespace = ns).map fun s => .selected s.1 s.2) := by
    rw [latchAll_apply, List.find?_map, Option.map_map]
    rfl
  refine ⟨?_, ?_, ?_⟩
  · intro ns
    have hold : (origins c ns).isSome ↔ ns ∈ c.quicrPublicationsMap := by
      unfold origins
      rw [Option.isSome_map, AList.lookup_isSome]
    rw [← AList.lookup_isSome, hrefines.isSome_iff ns, latchAll_isSome, hold]
    simp [claim]
  · intro ns publication hl
    have horigin : origins c ns = some (.before publication) := by
      simp [origins, hl]
    have hsome := (hrefines.isSome_iff ns).mpr (by rw [hafter, horigin]; rfl)
    obtain ⟨publication', hl'⟩ := Option.isSome_iff_exists.mp hsome
    obtain ⟨origin, hf, hin⟩ := hrefines.exists_of_some hl'
    rw [hafter, horigin] at hf
    cases hf
    rw [hl']
    exact congrArg some hin
  · intro ns publication hnew hl
    have horigin : origins c ns = none := by
      unfold origins
      rw [AList.lookup_eq_none.mpr hnew, Option.map_none]
    obtain ⟨origin, hf, hin⟩ := hrefines.exists_of_some hl
    rw [hafter, horigin, Option.none_or, Option.map_eq_some_iff] at hf
    obtain ⟨⟨stream, profile⟩, hfind, rfl⟩ := hf
    obtain ⟨qDelegate, time, heq⟩ := hin
    exact ⟨stream, profile, qDelegate, time, hfind, heq⟩

end Origins

/-- Two cameras that publish under one namespace. -/
def twoCameras : Manifest Prefix := ⟨[], [camera "A", camera "B"]⟩

/-- A new controller that has connected. -/
def connectedPublisher : QController CipherSuite KeyRing Prefix :=
  ((newController none).connect (takesAll true) localRelay).2

/-- Two cameras, the second of which claims the namespace of the first. -/
theorem updateManifest_publications_cameras :
    (∀ ns, ns ∈ (connectedPublisher.updateManifest (takesAll true) referenceLibs
          twoCameras).quicrPublicationsMap ↔
        ns ∈ connectedPublisher.quicrPublicationsMap ∨
          ∃ s ∈ manifestSelections (takesAll true) referenceLibs connectedPublisher twoCameras,
            s.2.quicrNamespace = ns) ∧
      (∀ ns publication, connectedPublisher.quicrPublicationsMap.lookup ns = some publication →
        (connectedPublisher.updateManifest (takesAll true) referenceLibs
          twoCameras).quicrPublicationsMap.lookup ns = some publication) ∧
      (∀ ns publication, ns ∉ connectedPublisher.quicrPublicationsMap →
        (connectedPublisher.updateManifest (takesAll true) referenceLibs
          twoCameras).quicrPublicationsMap.lookup ns = some publication →
        ∃ stream profile qDelegate time,
          (manifestSelections (takesAll true) referenceLibs connectedPublisher twoCameras).find?
            (fun s => s.2.quicrNamespace = ns) = some (stream, profile) ∧
          publication =
            ⟨.active, delegateFor referenceLibs connectedPublisher qDelegate time stream profile⟩) :=
  (updateManifest_publications (takesAll true) referenceLibs connectedPublisher twoCameras).1 rfl

-- the first camera's source is published
example : ((connectedPublisher.updateManifest (takesAll true) referenceLibs
      twoCameras).quicrPublicationsMap.lookup mediaNamespace).map
      (fun publication => publication.delegate.sourceId) = some "A" := by
  decide +kernel

end Qmedia.Analysis
