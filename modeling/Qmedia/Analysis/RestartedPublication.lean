import Qmedia.Analysis.PublishedNames

/-!
# A publication that is started again

The group id of a new `PublicationDelegate` is the clock in seconds, and it moves on by
one for each group, however many groups there are in a second. So the names of a
publication that is started again may be names of the earlier one, under the same fixed
epoch's key. Two runs have no name in common, and call `protect` with no common pair,
exactly if no group is started in both and none gets objects after its start from both
(`usedNames_disjoint_iff`); a first run that starts at most as many groups as seconds pass
is enough only if the second one starts a group at once.
-/

set_option autoImplicit false

namespace Qmedia.Analysis

open Qmedia.Library Qmedia.Model Qmedia.Model.PublicationDelegate

variable {Suite Ctx Namespace : Type} [DecidableEq Namespace]
variable (L : Libs Suite Ctx Namespace)

/-! ## The names of a run -/

omit [DecidableEq Namespace] in
/-- The names a run gives to objects. A call without data, and one on a delegate without
expiry times, ends before it makes a name. -/
def usedNames (d : PublicationDelegate Suite Ctx Namespace) (calls : List PublishCall) :
    List Name :=
  if d.expiry = [] then [] else namesOf L d (withData calls)

/-- The pairs an encrypting delegate calls `protect` with are those of its names. -/
theorem protectCalls_usedNames (d : PublicationDelegate Suite Ctx Namespace)
    (calls : List PublishCall) (hc : d.sframeContext.isSome) :
    protectCalls L d calls = (usedNames L d calls).map (protectKey L) := by
  unfold usedNames
  split
  · rename_i hd
    exact (run_of_no_expiry L d calls hd).1
  · rename_i hd
    rw [(run_withData L d calls).1]
    exact protectCalls_eq L d _ (fun x hx => data_of_mem_withData hx) hd hc

/-- Every object sent has one of the run's names. -/
theorem sentObjects_usedNames (d : PublicationDelegate Suite Ctx Namespace)
    (calls : List PublishCall) :
    ((sentObjects L d calls).map Datagram.quicrName).Sublist (usedNames L d calls) := by
  unfold usedNames
  split
  · rename_i hd
    rw [(run_of_no_expiry L d calls hd).2]
    exact List.Sublist.slnil
  · rename_i hd
    rw [(run_withData L d calls).2]
    exact sentObjects_sublist L d _ (fun x hx => data_of_mem_withData hx) hd

/-! ## Two delegates of one namespace -/

omit [DecidableEq Namespace] in
/-- A delegate built for a namespace at a clock reading, whatever its other parameters. -/
def BuiltAt (suite : Suite) (ns : Namespace) (time : BitVec 64)
    (d : PublicationDelegate Suite Ctx Namespace) : Prop :=
  ∃ qDelegate sourceId originUrl authToken payload priority expiry,
    d = create L.toSFrame qDelegate sourceId ns originUrl authToken payload priority expiry
      (some suite) time

/-- The group id of a delegate built at a clock reading. -/
def firstGroup (time : BitVec 64) : BitVec 32 := time.setWidth 32

/-- The ticks of the group counter in a run. -/
def groupTicks (calls : List PublishCall) : List Bool :=
  (withData calls).map PublishCall.groupFlag

/-- The 32-bit group counter of a delegate built at `time` does not wrap in a run. -/
def NoWrap (time : BitVec 64) (calls : List PublishCall) : Prop :=
  (firstGroup time).toNat + (groupTicks calls).count true < 2 ^ 32

/-- No group of a run has more than 65535 objects that do not start a group. -/
def GroupsHold (calls : List PublishCall) : Prop :=
  ∀ p ∈ objectPositions (withData calls), p.2 ≤ 65535

/-- No group is started by both runs, and none gets objects after its start from both. -/
def RunsApart (time₁ time₂ : BitVec 64) (calls₁ calls₂ : List PublishCall) : Prop :=
  ∀ s, ¬ (StartsGroup (firstGroup time₁).toNat (groupTicks calls₁) s ∧
      StartsGroup (firstGroup time₂).toNat (groupTicks calls₂) s) ∧
    ¬ (CountsInside (firstGroup time₁).toNat (groupTicks calls₁) s ∧
      CountsInside (firstGroup time₂).toNat (groupTicks calls₂) s)

/-- Runs keep apart when the second begins in a group the first has not reached. -/
theorem runsApart_of_lt {time₁ time₂ : BitVec 64} {calls₁ calls₂ : List PublishCall}
    (h : (firstGroup time₁).toNat + (groupTicks calls₁).count true < (firstGroup time₂).toNat) :
    RunsApart time₁ time₂ calls₁ calls₂ := by
  intro s
  constructor
  · rintro ⟨⟨-, hle⟩, hlt, -⟩
    omega
  · rintro ⟨⟨-, hmem⟩, hle, -⟩
    have hfst := fst_le_of_mem_values hmem
    simp only at hfst
    omega

omit [DecidableEq Namespace] in
/-- The names of a run count from the clock reading at which the publication was built. -/
theorem namesOf_builtAt {suite : Suite} {ns : Namespace} {time : BitVec 64}
    {d : PublicationDelegate Suite Ctx Namespace} (h : BuiltAt L suite ns time d)
    (calls : List PublishCall) :
    namesOf L d (withData calls) =
      ((values tick (0, 0) (groupTicks calls)).map
        (wrap (firstGroup time) : ℕ × ℕ → BitVec 32 × BitVec 16)).map (nameAt L ns) := by
  obtain ⟨_, _, _, _, _, _, _, rfl⟩ := h
  exact congrArg (List.map (nameAt L ns)) (values_counters (firstGroup time) (withData calls))

omit [DecidableEq Namespace] in
/-- Counters that differ give names that differ. -/
theorem nameAt_injective (ns : Namespace) : Function.Injective (nameAt L ns) := by
  intro c c' h
  obtain ⟨h1, h2⟩ := (objectName_inj _ _ _ _ _).mp h
  exact Prod.ext h1 h2

omit [DecidableEq Namespace] in
/-- So they give pairs of key and counter that differ. -/
theorem protectKey_nameAt_injective (ns : Namespace) :
    Function.Injective (protectKey L ∘ nameAt L ns) := by
  intro c c' h
  obtain ⟨h1, h2⟩ := (bits_counter_objectName_inj _ _ _ _ _).mp (congrArg Prod.snd h)
  exact Prod.ext h1 h2

/-- **Starting again.** Two delegates built for one namespace with one cipher suite use no
common name, and reach `protect` with no common pair, exactly if one of them has no expiry
times, or no group is started in both runs and none gets objects after its start from both.
SOURCE: src/QuicrDelegates.cpp:249-297, src/QuicrDelegates.cpp:382-418 -/
theorem usedNames_disjoint_iff {suite : Suite} {ns : Namespace} {time₁ time₂ : BitVec 64}
    {d₁ d₂ : PublicationDelegate Suite Ctx Namespace} (h₁ : BuiltAt L suite ns time₁ d₁)
    (h₂ : BuiltAt L suite ns time₂ d₂) (calls₁ calls₂ : List PublishCall)
    (hwrap₁ : NoWrap time₁ calls₁) (hwrap₂ : NoWrap time₂ calls₂)
    (hfit₁ : GroupsHold calls₁) (hfit₂ : GroupsHold calls₂) :
    ((usedNames L d₁ calls₁).Disjoint (usedNames L d₂ calls₂) ↔
      d₁.expiry = [] ∨ d₂.expiry = [] ∨ RunsApart time₁ time₂ calls₁ calls₂) ∧
    ((protectCalls L d₁ calls₁).Disjoint (protectCalls L d₂ calls₂) ↔
      d₁.expiry = [] ∨ d₂.expiry = [] ∨ RunsApart time₁ time₂ calls₁ calls₂) := by
  have hsuite {time : BitVec 64} {d : PublicationDelegate Suite Ctx Namespace}
      (h : BuiltAt L suite ns time d) : d.sframeContext.isSome := by
    obtain ⟨_, _, _, _, _, _, _, rfl⟩ := h
    rfl
  have hcounters : ((values tick (0, 0) (groupTicks calls₁)).map
        (wrap (firstGroup time₁) : ℕ × ℕ → BitVec 32 × BitVec 16)).Disjoint
      ((values tick (0, 0) (groupTicks calls₂)).map (wrap (firstGroup time₂))) ↔
      RunsApart time₁ time₂ calls₁ calls₂ :=
    disjoint_wrap_iff (firstGroup time₁) (firstGroup time₂) _ _ hwrap₁ hwrap₂
      (fun p hp => Nat.lt_succ_of_le (hfit₁ p hp)) (fun p hp => Nat.lt_succ_of_le (hfit₂ p hp))
  rw [protectCalls_usedNames L d₁ calls₁ (hsuite h₁), protectCalls_usedNames L d₂ calls₂ (hsuite h₂)]
  unfold usedNames
  by_cases hexp₁ : d₁.expiry = []
  · simp [hexp₁]
  by_cases hexp₂ : d₂.expiry = []
  · simp [hexp₂]
  rw [if_neg hexp₁, if_neg hexp₂, namesOf_builtAt L h₁, namesOf_builtAt L h₂, ← hcounters]
  simp only [hexp₁, hexp₂, false_or]
  constructor
  · exact ⟨List.Disjoint.of_map, List.Disjoint.map (nameAt_injective L ns)⟩
  · have hkeys (cs : List (BitVec 32 × BitVec 16)) :
        (cs.map (nameAt L ns)).map (protectKey L) = cs.map (protectKey L ∘ nameAt L ns) :=
      List.map_map
    rw [hkeys, hkeys]
    exact ⟨List.Disjoint.of_map, List.Disjoint.map (protectKey_nameAt_injective L ns)⟩

/-! ## A client that publishes groups faster than once a second -/

/-- The publication of the manifest tests, started at a clock reading. -/
def mediaPublisherAt (time : BitVec 64) : PublicationDelegate CipherSuite KeyRing Prefix :=
  create referenceSFrame 1 "80a6ac22" mediaNamespace "" "" [] [1, 2] [500, 500]
    (some .aesGcm128Sha256) time

/-- The publication is built at its clock reading. -/
theorem mediaPublisherAt_builtAt (time : BitVec 64) :
    BuiltAt referenceLibs .aesGcm128Sha256 mediaNamespace time (mediaPublisherAt time) :=
  ⟨_, _, _, _, _, _, _, rfl⟩

/-- One second later, after no more than one group: the second run keeps apart. -/
theorem usedNames_one_second_later :
    ((usedNames referenceLibs (mediaPublisherAt 1700000000) [groupStart]).Disjoint
        (usedNames referenceLibs (mediaPublisherAt 1700000001) [groupStart, frame]) ↔
      ([500, 500] : List (BitVec 16)) = [] ∨ ([500, 500] : List (BitVec 16)) = [] ∨
        RunsApart 1700000000 1700000001 [groupStart] [groupStart, frame]) ∧
    ((protectCalls referenceLibs (mediaPublisherAt 1700000000) [groupStart]).Disjoint
        (protectCalls referenceLibs (mediaPublisherAt 1700000001) [groupStart, frame]) ↔
      ([500, 500] : List (BitVec 16)) = [] ∨ ([500, 500] : List (BitVec 16)) = [] ∨
        RunsApart 1700000000 1700000001 [groupStart] [groupStart, frame]) :=
  usedNames_disjoint_iff referenceLibs (mediaPublisherAt_builtAt 1700000000)
    (mediaPublisherAt_builtAt 1700000001) [groupStart] [groupStart, frame]
    (by unfold NoWrap; decide) (by unfold NoWrap; decide) (by unfold GroupsHold; decide)
    (by unfold GroupsHold; decide)

/-- Three groups are published within one second, and the publication is started again at
the next one: its first group is the second group of the earlier run, name and pair. -/
theorem restart_reuses_pair :
    (1700000000 : BitVec 64) ≤ 1700000001 ∧
      NoWrap 1700000000 [groupStart, groupStart, groupStart] ∧ NoWrap 1700000001 [groupStart] ∧
      GroupsHold [groupStart, groupStart, groupStart] ∧ GroupsHold [groupStart] ∧
      ¬ (usedNames referenceLibs (mediaPublisherAt 1700000000)
          [groupStart, groupStart, groupStart]).Disjoint
        (usedNames referenceLibs (mediaPublisherAt 1700000001) [groupStart]) ∧
      ¬ (protectCalls referenceLibs (mediaPublisherAt 1700000000)
          [groupStart, groupStart, groupStart]).Disjoint
        (protectCalls referenceLibs (mediaPublisherAt 1700000001) [groupStart]) := by
  refine ⟨by decide, by unfold NoWrap; decide, by unfold NoWrap; decide,
    by unfold GroupsHold; decide, by unfold GroupsHold; decide, fun hnames => ?_, fun hpairs => ?_⟩
  · have hfirst : objectName mediaNamespace.name 1700000002 0 ∈
        usedNames referenceLibs (mediaPublisherAt 1700000000)
          [groupStart, groupStart, groupStart] := by decide +kernel
    have hsecond : objectName mediaNamespace.name 1700000002 0 ∈
        usedNames referenceLibs (mediaPublisherAt 1700000001) [groupStart] := by decide +kernel
    exact hnames hfirst hsecond
  · have hfirst : protectKey referenceLibs (objectName mediaNamespace.name 1700000002 0) ∈
        protectCalls referenceLibs (mediaPublisherAt 1700000000)
          [groupStart, groupStart, groupStart] := by decide +kernel
    have hsecond : protectKey referenceLibs (objectName mediaNamespace.name 1700000002 0) ∈
        protectCalls referenceLibs (mediaPublisherAt 1700000001) [groupStart] := by decide +kernel
    exact hpairs hfirst hsecond

end Qmedia.Analysis
