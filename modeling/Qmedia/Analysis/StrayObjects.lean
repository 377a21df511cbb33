import Qmedia.Analysis.LossStatistics

/-!
# Late, duplicate and forged objects in the loss statistics

The ids of every object are counted, before it is known whether the object is late or
authentic, and become the ones that the next object is compared with. So an object can be
taken out of what a delegate receives without a trace in the statistics exactly if the way
from the object before it to the object after it is charged alike with and without it
(`sameStatistics_iff`). For ids this is a condition on the three objects: `Unnoticed`.
-/

set_option autoImplicit false

namespace Qmedia.Analysis

open Qmedia.Library Qmedia.Model

/-! ## A detour over one object -/

/-- Between the groups `p` and `r`, a group `q` makes no difference: all descend; or `q` is
not above `p` and the step up to `r` skips groups either way or neither way; or `r` is
between them and so on. -/
def GroupUnnoticed (p q r : ℕ) : Prop :=
  (q ≤ p ∧ r ≤ q) ∨
  (q ≤ p ∧ p < r ∧ (q = p ∨ p + 1 < r)) ∨
  (p < r ∧ r ≤ q ∧ (q = p + 1 ∨ p + 1 < r))

/-- Within a group, between the objects `p` and `r`, an object `q` makes no difference. -/
def ObjectUnnoticed (p q r : ℕ) : Prop :=
  (q ≤ p + 1 ∧ r ≤ q + 1 ∧ r ≤ p + 1) ∨
  (q ≤ p + 1 ∧ q + 1 < r ∧ p + 1 < r) ∨
  (p + 1 < q ∧ p + 1 < r ∧ r ≤ q + 1)

/-- An object `q` goes unnoticed between `p` and the next object. -/
def Unnoticed (p q : ℕ × ℕ) : Option (ℕ × ℕ) → Prop
  | none => q.1 ≤ p.1 ∧ q.2 ≤ p.2 + 1
  | some r =>
      GroupUnnoticed p.1 q.1 r.1 ∧
        if q.1 ≤ p.1 ∧ p.1 + 1 < r.1 then q.2 ≤ p.2 + 1
        else ObjectUnnoticed (comparedId p q) q.2 r.2

/-- An object adds nothing to the group statistics exactly if its group goes unnoticed. -/
theorem groups_free_iff (p q r : ℕ × ℕ) :
    groupCharge p q + groupCharge q r = groupCharge p r ∧
      groupGapCharge p q + groupGapCharge q r = groupGapCharge p r ↔
        GroupUnnoticed p.1 q.1 r.1 := by
  unfold groupCharge groupGapCharge GroupUnnoticed
  constructor
  · rintro ⟨hgroup, hgap⟩
    split_ifs at hgroup hgap
    all_goals omega
  · intro h
    split_ifs <;> omega

/-- It adds nothing to the lost objects exactly if its id goes unnoticed. -/
theorem objects_free_iff (k q r : ℕ) :
    ((if k + 1 < q then 1 else 0) + (if q + 1 < r then 1 else 0) = if k + 1 < r then 1 else 0) ↔
      ObjectUnnoticed k q r := by
  unfold ObjectUnnoticed
  constructor
  · intro h
    split_ifs at h <;> omega
  · intro h
    split_ifs <;> omega

/-- Where the groups make no difference, neither do the object ids that are compared. -/
theorem comparedId_of_groupUnnoticed {p q r : ℕ × ℕ} (h : GroupUnnoticed p.1 q.1 r.1)
    (hnot : ¬ (q.1 ≤ p.1 ∧ p.1 + 1 < r.1)) :
    comparedId q r = q.2 ∧ comparedId p r = comparedId p q := by
  unfold GroupUnnoticed at h
  have hqr : ¬ q.1 + 1 < r.1 := by omega
  have hsame : p.1 + 1 < r.1 ↔ p.1 + 1 < q.1 := by omega
  unfold comparedId
  rw [if_neg hqr]
  simp only [hsame, and_self]

/-- When it adds nothing to the gaps of objects, if its group goes unnoticed. -/
theorem objectGaps_free_iff {p q r : ℕ × ℕ} (h : GroupUnnoticed p.1 q.1 r.1) :
    objectGapCharge p q + objectGapCharge q r = objectGapCharge p r ↔
      if q.1 ≤ p.1 ∧ p.1 + 1 < r.1 then q.2 ≤ p.2 + 1
      else ObjectUnnoticed (comparedId p q) q.2 r.2 := by
  unfold objectGapCharge
  by_cases hdown : q.1 ≤ p.1 ∧ p.1 + 1 < r.1
  · -- the next object is compared with 0 either way
    have hpq : comparedId p q = p.2 := if_neg (by omega)
    have hqr : comparedId q r = 0 := if_pos (by omega)
    have hpr : comparedId p r = 0 := if_pos hdown.2
    rw [if_pos hdown, hpq, hqr, hpr, add_eq_right]
    constructor
    · intro hzero
      by_contra hskip
      rw [if_pos (by omega)] at hzero
      omega
    · intro hle
      exact if_neg (by omega)
  · obtain ⟨hqr, hpr⟩ := comparedId_of_groupUnnoticed h hdown
    rw [if_neg hdown, hqr, hpr]
    exact objects_free_iff _ _ _

/-- **Detours.** The detour over an object is free for the three counters exactly if the
object goes unnoticed. -/
theorem freeDetours_iff (p q : ℕ × ℕ) (r : Option (ℕ × ℕ)) :
    (FreeDetour groupCharge p q r ∧ FreeDetour groupGapCharge p q r ∧
        FreeDetour objectGapCharge p q r) ↔ Unnoticed p q r := by
  cases r with
  | none =>
      unfold FreeDetour Unnoticed groupCharge groupGapCharge objectGapCharge comparedId
      simp only
      constructor
      · rintro ⟨hgroup, hgap, hobject⟩
        split_ifs at hgroup hgap hobject
        omega
      · rintro ⟨hgroup, hobject⟩
        have hgap : ¬ p.1 + 1 < q.1 := by omega
        have hnew : ¬ p.1 < q.1 := by omega
        have hskip : ¬ p.2 + 1 < q.2 := by omega
        simp [hgap, hnew, hskip]
  | some r =>
      unfold FreeDetour Unnoticed
      simp only
      rw [← and_assoc, groups_free_iff]
      exact and_congr_right objectGaps_free_iff

/-- A duplicate that follows at once goes unnoticed. -/
theorem unnoticed_self (p : ℕ × ℕ) (r : Option (ℕ × ℕ)) : Unnoticed p p r := by
  cases r with
  | none => exact ⟨le_refl p.1, Nat.le_succ p.2⟩
  | some r =>
      have hcompared : comparedId p p = p.2 := if_neg (by omega)
      unfold Unnoticed GroupUnnoticed ObjectUnnoticed
      rw [hcompared]
      refine ⟨by omega, ?_⟩
      split <;> omega

/-! ## Sequences -/

section Sequences

variable {Suite Ctx Namespace : Type} [DecidableEq Namespace]
variable (L : Libs Suite Ctx Namespace)

/-- With and without the object `x` between `pre` and `post`, the three counters move on
equally often. -/
def SameStatistics (d : SubscriptionDelegate Suite Ctx Namespace) (pre : List Received)
    (x : Received) (post : List Received) : Prop :=
  increase L LossCounters.groupCount d (pre ++ x :: post) =
      increase L LossCounters.groupCount d (pre ++ post) ∧
    increase L LossCounters.groupGapCount d (pre ++ x :: post) =
      increase L LossCounters.groupGapCount d (pre ++ post) ∧
    increase L LossCounters.objectGapCount d (pre ++ x :: post) =
      increase L LossCounters.objectGapCount d (pre ++ post)

omit [DecidableEq Namespace] in
/-- The ids of the last object counted in `pre`, or of the one counted last before. -/
def idsBefore (d : SubscriptionDelegate Suite Ctx Namespace) (pre : List Received) : ℕ × ℕ :=
  (pre.filterMap countedIds).getLastD (lastIds d)

/-- The ids of the first object counted in `post`, if there is one. -/
def idsAfter (post : List Received) : Option (ℕ × ℕ) := (post.filterMap countedIds).head?

/-- **Stray objects.** Whatever a delegate receives, an object can be taken out without a
trace in the numbers of groups, lost groups and lost objects exactly if it has no data or
goes unnoticed between the object before it and the object after it.
SOURCE: src/QuicrDelegates.cpp:114-190 -/
theorem sameStatistics_iff (d : SubscriptionDelegate Suite Ctx Namespace) (pre : List Received)
    (x : Received) (post : List Received) :
    SameStatistics L d pre x post ↔
      ∀ q, countedIds x = some q → Unnoticed (idsBefore d pre) q (idsAfter post) := by
  unfold SameStatistics
  simp only [increase_groupCount, increase_groupGapCount, increase_objectGapCount,
    List.filterMap_append]
  cases hx : countedIds x with
  | none =>
      rw [List.filterMap_cons_none hx]
      simp
  | some q =>
      rw [List.filterMap_cons_some hx]
      simp only [pathSum_remove_iff, Option.some.injEq, forall_eq']
      exact freeDetours_iff (idsBefore d pre) q (idsAfter post)

/-- The object is not newer than an object the application has been handed. -/
def NotNewer (d : SubscriptionDelegate Suite Ctx Namespace) (pre : List Received)
    (x : Received) : Prop :=
  ∃ accepted, some accepted ∈ outputs (receiveStep L) d pre ∧
    (bits 32 x.quicrName 16 32 < accepted.groupId ∨
      (bits 32 x.quicrName 16 32 = accepted.groupId ∧
        bits 16 x.quicrName 0 16 ≤ accepted.objectId))

/-- The object has data, but the application is not handed it. -/
def Rejected (d : SubscriptionDelegate Suite Ctx Namespace) (pre : List Received)
    (x : Received) : Prop :=
  x.data ≠ [] ∧ (receiveStep L (finalState (receiveStep L) d pre) x).1 = none

end Sequences

/-! ## A late and a forged object -/

/-- A delegate without a cipher suite. -/
def clearReceiver : SubscriptionDelegate CipherSuite KeyRing Prefix :=
  SubscriptionDelegate.create referenceSFrame "80a6ac22" mediaNamespace .syncUp "" "" [] 1 none
    ⟨0, 0, 0, 0⟩

/-- An object with a byte of data. -/
def objectAt (groupId : BitVec 32) (objectId : BitVec 16) : Received :=
  ⟨objectName mediaNamespace.name groupId objectId, [0x2a]⟩

/-- Object 3 of group 6 between the starts of groups 7 and 8 is late, and group 8 is counted
as following a lost one; a forged object of a high group counts as a group after a lost
one. -/
theorem stray_objects_noticed :
    (NotNewer referenceLibs clearReceiver [objectAt 7 0] (objectAt 6 3) ∧
      ¬ SameStatistics referenceLibs clearReceiver [objectAt 7 0] (objectAt 6 3)
        [objectAt 8 0]) ∧
    Rejected referenceLibs mediaReceiver [genuineObject] (objectAt 4000000000 0) ∧
      ¬ SameStatistics referenceLibs mediaReceiver [genuineObject] (objectAt 4000000000 0) [] := by
  refine ⟨⟨⟨⟨mediaNamespace, [0x2a], 7, 0⟩, by decide +kernel, by decide +kernel⟩, ?_⟩, ?_, ?_⟩
  · rintro ⟨-, hgap, -⟩
    revert hgap
    decide +kernel
  · unfold Rejected
    decide +kernel
  · rintro ⟨hgroup, -, -⟩
    revert hgroup
    decide +kernel

end Qmedia.Analysis
