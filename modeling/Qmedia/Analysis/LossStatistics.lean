import Qmedia.Library.ConsecutiveSums
import Qmedia.Analysis.RejectedObjects

/-!
# What the loss statistics count

The receiving delegate remembers the ids of the last object it has counted and nothing
else, so each of the four counters counts a sum over consecutive ids (`increase_of_charge`): an
object is charged as a new group, a lost group, an object or a lost object by its ids and
those of the object before it.
-/

set_option autoImplicit false

namespace Qmedia.Analysis

open Qmedia.Library Qmedia.Model

/-! ## What one object is charged as -/

/-- A group is new if its id is larger than the last one. -/
def groupCharge (p q : ℕ × ℕ) : ℕ := if p.1 < q.1 then 1 else 0

/-- A group is lost if an id is skipped, however many are. -/
def groupGapCharge (p q : ℕ × ℕ) : ℕ := if p.1 + 1 < q.1 then 1 else 0

/-- The object id that the next one is compared with: where a group is lost, 0. -/
def comparedId (p q : ℕ × ℕ) : ℕ := if p.1 + 1 < q.1 then 0 else p.2

/-- An object is counted if its id is larger than the one it is compared with. -/
def objectCharge (p q : ℕ × ℕ) : ℕ := if comparedId p q < q.2 then 1 else 0

/-- An object is lost if an id is skipped. -/
def objectGapCharge (p q : ℕ × ℕ) : ℕ := if comparedId p q + 1 < q.2 then 1 else 0

/-- One object counts at most one lost group. -/
theorem groupCharge_le_one (p q : ℕ × ℕ) : groupCharge p q ≤ 1 := by
  unfold groupCharge
  split <;> omega

/-- One object counts at most one gap of groups. -/
theorem groupGapCharge_le_one (p q : ℕ × ℕ) : groupGapCharge p q ≤ 1 := by
  unfold groupGapCharge
  split <;> omega

/-- One object counts at most one lost object. -/
theorem objectCharge_le_one (p q : ℕ × ℕ) : objectCharge p q ≤ 1 := by
  unfold objectCharge
  split <;> omega

/-- One object counts at most one gap of objects. -/
theorem objectGapCharge_le_one (p q : ℕ × ℕ) : objectGapCharge p q ≤ 1 := by
  unfold objectGapCharge
  split <;> omega

/-- `currentGroupId + 1` wraps only where no group id is larger. -/
theorem add_one_lt_iff {w : ℕ} {a b : BitVec w} (h : a < b) :
    a + 1 < b ↔ a.toNat + 1 < b.toNat := by
  rw [BitVec.lt_def] at h
  have hb := b.isLt
  have hsucc : (a + 1).toNat = a.toNat + 1 := by
    rw [BitVec.toNat_add]
    have hone : (1 : BitVec w).toNat = 1 := by
      have hw : 1 < 2 ^ w := by omega
      rw [BitVec.ofNat_eq_ofNat, BitVec.toNat_ofNat, Nat.mod_eq_of_lt hw]
    rw [hone, Nat.mod_eq_of_lt (by omega)]
  rw [BitVec.lt_def, hsucc]

section Delegate

variable {Suite Ctx Namespace : Type} [DecidableEq Namespace]

omit [DecidableEq Namespace] in
/-- The ids of the last object counted. -/
def lastIds (d : SubscriptionDelegate Suite Ctx Namespace) : ℕ × ℕ :=
  (d.currentGroupId.toNat, d.currentObjectId.toNat)

/-- The part of the accounting that deals with object ids. -/
theorem count_objectId (c : LossCounters) (currentObjectId objectId : BitVec 16) :
    (if currentObjectId < objectId then
      let c := if currentObjectId.toNat + 1 < objectId.toNat then
          { c with objectGapCount := c.objectGapCount + 1 } else c
      { c with objectCount := c.objectCount + 1 }
    else c) =
      { c with
        objectCount :=
          if currentObjectId.toNat < objectId.toNat then c.objectCount + 1 else c.objectCount
        objectGapCount :=
          if currentObjectId.toNat + 1 < objectId.toNat then c.objectGapCount + 1
          else c.objectGapCount } := by
  simp only [BitVec.lt_def]
  by_cases hnew : currentObjectId.toNat < objectId.toNat
  · rw [if_pos hnew, if_pos hnew]
    split
    · rfl
    · rfl
  · have hskip : ¬ currentObjectId.toNat + 1 < objectId.toNat := by omega
    rw [if_neg hnew, if_neg hnew, if_neg hskip]

omit [DecidableEq Namespace] in
/-- **One object.** Each counter moves on by what the object is charged as. -/
theorem countObject_counters (d : SubscriptionDelegate Suite Ctx Namespace) (g : BitVec 32)
    (o : BitVec 16) :
    (d.countObject g o).counters =
      ⟨d.counters.groupCount + BitVec.ofNat 64 (groupCharge (lastIds d) (g.toNat, o.toNat)),
        d.counters.objectCount + BitVec.ofNat 64 (objectCharge (lastIds d) (g.toNat, o.toNat)),
        d.counters.groupGapCount +
          BitVec.ofNat 64 (groupGapCharge (lastIds d) (g.toNat, o.toNat)),
        d.counters.objectGapCount +
          BitVec.ofNat 64 (objectGapCharge (lastIds d) (g.toNat, o.toNat))⟩ := by
  have hone (p : Prop) [Decidable p] (n : BitVec 64) :
      n + BitVec.ofNat 64 (if p then 1 else 0) = if p then n + 1 else n := by
    split
    · rfl
    · simp
  unfold SubscriptionDelegate.countObject groupCharge objectCharge groupGapCharge objectGapCharge
    comparedId lastIds
  simp only [hone]
  rw [count_objectId]
  by_cases hnew : d.currentGroupId < g
  · have hlt := BitVec.lt_def.mp hnew
    rw [if_pos hnew, if_pos hlt]
    by_cases hskip : d.currentGroupId + 1 < g
    · have hgap := (add_one_lt_iff hnew).mp hskip
      simp only [hskip, hgap, if_true]
      rfl
    · have hgap : ¬ d.currentGroupId.toNat + 1 < g.toNat :=
        fun h => hskip ((add_one_lt_iff hnew).mpr h)
      simp only [hskip, hgap, if_false]
  · have hlt : ¬ d.currentGroupId.toNat < g.toNat := fun h => hnew (BitVec.lt_def.mpr h)
    have hgap : ¬ d.currentGroupId.toNat + 1 < g.toNat := by omega
    simp only [hnew, hlt, hgap, if_false]

/-- The ids an object is counted by; without data it is not counted. -/
def countedIds (x : Received) : Option (ℕ × ℕ) :=
  if x.data = [] then none
  else some ((bits 32 x.quicrName 16 32).toNat, (bits 16 x.quicrName 0 16).toNat)

variable (L : Libs Suite Ctx Namespace)

/-- An object that is dropped before it is counted changes nothing. -/
theorem receiveStep_uncounted (d : SubscriptionDelegate Suite Ctx Namespace) {x : Received}
    (hx : countedIds x = none) : (receiveStep L d x).2 = d := by
  have hdata : x.data = [] := by
    by_contra hdata
    simp [countedIds, hdata] at hx
  unfold receiveStep SubscriptionDelegate.onSubscribedObject
  rw [if_pos hdata]

/-- Counting comes first, so what becomes of the object afterwards does not matter. -/
theorem receiveStep_counted (d : SubscriptionDelegate Suite Ctx Namespace) {x : Received}
    {p : ℕ × ℕ} (hx : countedIds x = some p) :
    (receiveStep L d x).2.counters =
        ⟨d.counters.groupCount + BitVec.ofNat 64 (groupCharge (lastIds d) p),
          d.counters.objectCount + BitVec.ofNat 64 (objectCharge (lastIds d) p),
          d.counters.groupGapCount + BitVec.ofNat 64 (groupGapCharge (lastIds d) p),
          d.counters.objectGapCount + BitVec.ofNat 64 (objectGapCharge (lastIds d) p)⟩ ∧
      lastIds (receiveStep L d x).2 = p := by
  have hdata : x.data ≠ [] := by
    intro hdata
    simp [countedIds, hdata] at hx
  have hids : p = ((bits 32 x.quicrName 16 32).toNat, (bits 16 x.quicrName 0 16).toNat) := by
    simp only [countedIds, if_neg hdata, Option.some.injEq] at hx
    exact hx.symm
  have hcount := countObject_counters d (bits 32 x.quicrName 16 32) (bits 16 x.quicrName 0 16)
  have hkeeps : (receiveStep L d x).2.counters =
        (d.countObject (bits 32 x.quicrName 16 32) (bits 16 x.quicrName 0 16)).counters ∧
      lastIds (receiveStep L d x).2 = p := by
    rw [hids]
    unfold receiveStep SubscriptionDelegate.onSubscribedObject
    rw [if_neg hdata]
    simp only
    split
    · exact ⟨rfl, rfl⟩
    · split
      · exact ⟨rfl, rfl⟩
      · split
        · exact ⟨rfl, rfl⟩
        · exact ⟨rfl, rfl⟩
  rw [hkeeps.1, hcount, hids]
  exact ⟨rfl, hids ▸ hkeeps.2⟩

/-! ## Runs -/

/-- How often a step moves a counter on. -/
def increment (read : LossCounters → BitVec 64) (d : SubscriptionDelegate Suite Ctx Namespace)
    (x : Received) : ℕ :=
  (read (receiveStep L d x).2.counters - read d.counters).toNat

/-- How often a run moves a counter on. -/
def increase (read : LossCounters → BitVec 64) (d : SubscriptionDelegate Suite Ctx Namespace)
    (xs : List Received) : ℕ :=
  total (receiveStep L) (increment L read) d xs

/-- The counter itself is the increase, modulo `2^64`. -/
theorem read_finalState (read : LossCounters → BitVec 64)
    (d : SubscriptionDelegate Suite Ctx Namespace) (xs : List Received) :
    read (finalState (receiveStep L) d xs).counters =
      read d.counters + BitVec.ofNat 64 (increase L read d xs) := by
  unfold increase
  induction xs generalizing d with
  | nil => simp [total]
  | cons x xs ih =>
      rw [finalState_cons, ih, total, BitVec.ofNat_add, ← BitVec.add_assoc]
      unfold increment
      rw [BitVec.ofNat_toNat, BitVec.setWidth_eq, BitVec.add_comm (read d.counters),
        BitVec.sub_add_cancel]

/-- A counter that moves on by a charge counts the charges along the ids. -/
theorem increase_of_charge (read : LossCounters → BitVec 64) (charge : ℕ × ℕ → ℕ × ℕ → ℕ)
    (hcharge : ∀ p q, charge p q ≤ 1)
    (hread : ∀ d : SubscriptionDelegate Suite Ctx Namespace, ∀ x p, countedIds x = some p →
      read (receiveStep L d x).2.counters =
        read d.counters + BitVec.ofNat 64 (charge (lastIds d) p))
    (d : SubscriptionDelegate Suite Ctx Namespace) (xs : List Received) :
    increase L read d xs = pathSum charge (lastIds d) (xs.filterMap countedIds) := by
  refine total_eq_pathSum (receiveStep L) (increment L read) lastIds countedIds charge ?_ ?_ d xs
  · intro d x hx
    unfold increment
    rw [receiveStep_uncounted L d hx]
    simp
  · intro d x p hx
    refine ⟨?_, (receiveStep_counted L d hx).2⟩
    unfold increment
    have hsmall : charge (lastIds d) p < 2 ^ 64 := by
      have hone := hcharge (lastIds d) p
      omega
    rw [hread d x p hx, BitVec.add_comm, BitVec.add_sub_cancel, BitVec.toNat_ofNat,
      Nat.mod_eq_of_lt hsmall]

/-- The groups counted as lost are those of the steps along the ids. -/
theorem increase_groupCount (d : SubscriptionDelegate Suite Ctx Namespace) (xs : List Received) :
    increase L LossCounters.groupCount d xs =
      pathSum groupCharge (lastIds d) (xs.filterMap countedIds) := by
  refine increase_of_charge L _ _ groupCharge_le_one ?_ d xs
  intro d x p hx
  rw [(receiveStep_counted L d hx).1]

/-- The objects counted as lost are those of the steps along the ids. -/
theorem increase_objectCount (d : SubscriptionDelegate Suite Ctx Namespace) (xs : List Received) :
    increase L LossCounters.objectCount d xs =
      pathSum objectCharge (lastIds d) (xs.filterMap countedIds) := by
  refine increase_of_charge L _ _ objectCharge_le_one ?_ d xs
  intro d x p hx
  rw [(receiveStep_counted L d hx).1]

/-- The gaps of groups are those of the steps along the ids. -/
theorem increase_groupGapCount (d : SubscriptionDelegate Suite Ctx Namespace)
    (xs : List Received) :
    increase L LossCounters.groupGapCount d xs =
      pathSum groupGapCharge (lastIds d) (xs.filterMap countedIds) := by
  refine increase_of_charge L _ _ groupGapCharge_le_one ?_ d xs
  intro d x p hx
  rw [(receiveStep_counted L d hx).1]

/-- The gaps of objects are those of the steps along the ids. -/
theorem increase_objectGapCount (d : SubscriptionDelegate Suite Ctx Namespace)
    (xs : List Received) :
    increase L LossCounters.objectGapCount d xs =
      pathSum objectGapCharge (lastIds d) (xs.filterMap countedIds) := by
  refine increase_of_charge L _ _ objectGapCharge_le_one ?_ d xs
  intro d x p hx
  rw [(receiveStep_counted L d hx).1]

end Delegate

end Qmedia.Analysis
