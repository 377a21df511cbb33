import Mathlib.Data.List.AList

/-!
# Rosters

Values enter under a key, and all values of a key that satisfy a predicate leave it
together. `present` reads off a history who is still there: whoever entered and was not met
by a later leave, as often as it entered. A finite map from keys to lists of values keeps the
same bag of pairs, however its keys are ordered: entering is `pairs_insert_append`, leaving
is `pairs_insert_filter`.
-/

set_option autoImplicit false

namespace Qmedia.Library

variable {K V : Type*} [DecidableEq K]

/-! ## The bag of a map to lists -/

omit [DecidableEq K] in
/-- The pairs that a list of keyed lists holds. -/
def pairsOf (entries : List (Sigma fun _ : K => List V)) : List (K × V) :=
  entries.flatMap fun e => e.2.map (Prod.mk e.1)

omit [DecidableEq K] in
/-- The pairs that a map holds, in an arbitrary order. -/
def pairs (m : AList fun _ : K => List V) : List (K × V) := pairsOf m.entries

/-- The pairs of one key and the others. -/
theorem pairsOf_perm (k : K) (entries : List (Sigma fun _ : K => List V))
    (hkeys : entries.NodupKeys) :
    (pairsOf entries).Perm
        (((entries.dlookup k).getD []).map (Prod.mk k) ++
          (pairsOf entries).filter fun p => p.1 ≠ k) ∧
      pairsOf (entries.kerase k) = (pairsOf entries).filter fun p => p.1 ≠ k := by
  induction entries with
  | nil => exact ⟨List.Perm.refl _, rfl⟩
  | cons e entries ih =>
      obtain ⟨k', vs⟩ := e
      obtain ⟨hnot, hrest⟩ := List.nodupKeys_cons.mp hkeys
      obtain ⟨hperm, herase⟩ := ih hrest
      have hcons : pairsOf (⟨k', vs⟩ :: entries) = vs.map (Prod.mk k') ++ pairsOf entries := rfl
      by_cases hk : k = k'
      · subst hk
        have hown : (vs.map (Prod.mk k)).filter (fun p => p.1 ≠ k) = [] := by simp
        have hnone : entries.dlookup k = none := List.dlookup_eq_none.mpr hnot
        rw [hnone] at hperm
        have hothers : (pairsOf entries).filter (fun p => p.1 ≠ k) = pairsOf entries := by
          rw [← herase, List.kerase_of_notMem_keys hnot]
        have herase' : pairsOf (List.kerase k (⟨k, vs⟩ :: entries)) = pairsOf entries := by
          simp
        rw [List.dlookup_cons_eq, herase', hcons, List.filter_append, hown, List.nil_append,
          hothers]
        exact ⟨List.Perm.refl _, rfl⟩
      · have hall : (vs.map (Prod.mk k')).filter (fun p => p.1 ≠ k) = vs.map (Prod.mk k') := by
          rw [List.filter_eq_self]
          intro p hp
          obtain ⟨v, -, rfl⟩ := List.mem_map.mp hp
          simpa using Ne.symm hk
        have herase' : pairsOf ((⟨k', vs⟩ :: entries).kerase k) =
            vs.map (Prod.mk k') ++ pairsOf (entries.kerase k) := by
          rw [List.kerase_cons_ne hk]
          rfl
        rw [List.dlookup_cons_ne _ _ hk, herase', hcons, List.filter_append, hall, herase]
        refine ⟨?_, rfl⟩
        refine (hperm.append_left (vs.map (Prod.mk k'))).trans ?_
        rw [← List.append_assoc, ← List.append_assoc]
        exact List.perm_append_comm.append_right _

/-- The pairs of a key first, then those of the other keys. -/
theorem pairs_perm (m : AList fun _ : K => List V) (k : K) :
    (pairs m).Perm (((m.lookup k).getD []).map (Prod.mk k) ++
      (pairs m).filter fun p => p.1 ≠ k) :=
  (pairsOf_perm k m.entries m.nodupKeys).1

/-- The values of the inserted key, and the pairs of the other keys. -/
theorem pairs_insert (m : AList fun _ : K => List V) (k : K) (vs : List V) :
    pairs (m.insert k vs) = vs.map (Prod.mk k) ++ (pairs m).filter fun p => p.1 ≠ k := by
  unfold pairs
  rw [AList.entries_insert, ← (pairsOf_perm k m.entries m.nodupKeys).2]
  rfl

/-- **Entering.** A value appended under a key is one pair more. -/
theorem pairs_insert_append (m : AList fun _ : K => List V) (k : K) (v : V) :
    (pairs (m.insert k ((m.lookup k).getD [] ++ [v]))).Perm (pairs m ++ [(k, v)]) := by
  rw [pairs_insert, List.map_append, List.append_assoc]
  refine List.Perm.trans ?_ ((pairs_perm m k).symm.append_right _)
  rw [List.append_assoc]
  exact List.perm_append_comm.append_left _

/-- **Leaving.** Keeping some of the values of a key drops the other pairs of the key. -/
theorem pairs_insert_filter (m : AList fun _ : K => List V) {k : K} {vs : List V}
    (hvs : m.lookup k = some vs) (keep : V → Bool) :
    (pairs (m.insert k (vs.filter keep))).Perm
      ((pairs m).filter fun p => p.1 ≠ k || keep p.2) := by
  have hown : (vs.map (Prod.mk k)).filter (fun p => p.1 ≠ k || keep p.2) =
      (vs.filter keep).map (Prod.mk k) := by
    rw [List.filter_map]
    congr 1
    refine List.filter_congr fun v _ => ?_
    simp
  have hothers : ((pairs m).filter fun p => p.1 ≠ k).filter (fun p => p.1 ≠ k || keep p.2) =
      (pairs m).filter fun p => p.1 ≠ k := by
    rw [List.filter_filter]
    refine List.filter_congr fun p _ => ?_
    by_cases hp : p.1 = k
    · simp [hp]
    · simp [hp]
  have hsplit := (pairs_perm m k).filter fun p => p.1 ≠ k || keep p.2
  rw [hvs, Option.getD_some, List.filter_append, hown, hothers] at hsplit
  rw [pairs_insert]
  exact hsplit.symm

/-! ## Histories -/

/-- One event: a value enters under a key, or the values of a key that satisfy a predicate
leave it. -/
inductive Attendance (K V : Type*) where
  | enter (k : K) (v : V)
  | leave (k : K) (p : V → Bool)

/-- Whether an event takes `v` from under `k`. -/
def Attendance.dismisses (k : K) (v : V) : Attendance K V → Bool
  | .enter _ _ => false
  | .leave k' p => decide (k' = k) && p v

/-- Who is there after a history: whoever entered and was not dismissed later. -/
def present : List (Attendance K V) → List (K × V)
  | [] => []
  | .enter k v :: later =>
      if later.any (Attendance.dismisses k v) then present later else (k, v) :: present later
  | .leave _ _ :: later => present later

/-- Whoever enters last stands last. -/
theorem present_append_enter (history : List (Attendance K V)) (k : K) (v : V) :
    present (history ++ [.enter k v]) = present history ++ [(k, v)] := by
  induction history with
  | nil => rfl
  | cons event history ih =>
      cases event with
      | enter k' v' =>
          have hany : (history ++ [Attendance.enter k v]).any (Attendance.dismisses k' v') =
              history.any (Attendance.dismisses k' v') := by
            simp [Attendance.dismisses]
          rw [List.cons_append, present, present, ih, hany]
          split
          · rfl
          · rfl
      | leave k' p =>
          rw [List.cons_append, present, present, ih]

/-- Those who leave are gone, and the others keep their order. -/
theorem present_append_leave (history : List (Attendance K V)) (k : K) (p : V → Bool) :
    present (history ++ [.leave k p]) =
      (present history).filter fun e => e.1 ≠ k || !p e.2 := by
  induction history with
  | nil => rfl
  | cons event history ih =>
      cases event with
      | enter k' v' =>
          have hany : (history ++ [Attendance.leave k p]).any (Attendance.dismisses k' v') =
              (history.any (Attendance.dismisses k' v') || decide (k = k') && p v') := by
            simp [Attendance.dismisses]
          rw [List.cons_append, present, present, ih, hany]
          by_cases hlater : history.any (Attendance.dismisses k' v') = true
          · rw [hlater, Bool.true_or, if_pos rfl, if_pos rfl]
          · rw [Bool.not_eq_true] at hlater
            rw [hlater, Bool.false_or, if_neg Bool.false_ne_true, List.filter_cons]
            by_cases hk : k' = k
            · subst hk
              cases p v' with
              | true => simp
              | false => simp
            · simp [hk, Ne.symm hk]
      | leave k' p' =>
          rw [List.cons_append, present, present, ih]

end Qmedia.Library
