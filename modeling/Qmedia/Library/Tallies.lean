import Mathlib.Data.List.Count
import Mathlib.Data.List.Induction
import Mathlib.Data.List.Nodup
import Qmedia.Library.MachineRun

/-!
# Tallies of a run

`tally` lists what an observer notes along a run, at most one note for each input. The rules
compare how often something was noted, whatever the order: with what another observer noted
(`countP_tally_le`), with a measure of the state (`measure_le_tally`), and with a list that
grows in the state and from which the inputs pick entries by their index, no index twice
(`tally_picked`).
-/

set_option autoImplicit false

namespace Qmedia.Library

variable {σ ι ω α β : Type*}

/-- What an observer notes along a run, oldest first. -/
def tally (note : σ → ι → Option α) (step : σ → ι → ω × σ) : σ → List ι → List α
  | _, [] => []
  | s, x :: xs => (note s x).toList ++ tally note step (step s x).2 xs

section Splitting

variable (note : σ → ι → Option α) (step : σ → ι → ω × σ)

/-- The notes of the first part come first. -/
theorem tally_append (s : σ) (xs ys : List ι) :
    tally note step s (xs ++ ys) =
      tally note step s xs ++ tally note step (finalState step s xs) ys := by
  induction xs generalizing s with
  | nil => rfl
  | cons x xs ih => rw [List.cons_append, tally, ih, tally, List.append_assoc, finalState_cons]

/-- The last input adds its note at the end. -/
theorem tally_append_singleton (s : σ) (xs : List ι) (x : ι) :
    tally note step s (xs ++ [x]) =
      tally note step s xs ++ (note (finalState step s xs) x).toList := by
  rw [tally_append, tally, tally, List.append_nil]

/-- A note was made at some input, in the state before it. -/
theorem exists_of_mem_tally {s : σ} {xs : List ι} {a : α} (ha : a ∈ tally note step s xs) :
    ∃ pre x post, xs = pre ++ x :: post ∧ note (finalState step s pre) x = some a := by
  induction xs using List.reverseRecOn with
  | nil => cases ha
  | append_singleton xs x ih =>
      rw [tally_append_singleton] at ha
      rcases List.mem_append.mp ha with hold | hnew
      · obtain ⟨pre, y, post, rfl, hy⟩ := ih hold
        exact ⟨pre, y, post ++ [x], by simp, hy⟩
      · exact ⟨xs, x, [], rfl, Option.mem_toList.mp hnew⟩

end Splitting

section Rules

variable (step : σ → ι → ω × σ)

/-- **Comparison rule.** If at every input the first observer notes something only if the
second does, the second has noted at least as much. -/
theorem countP_tally_le (note : σ → ι → Option α) (note' : σ → ι → Option β) (p : α → Bool)
    (q : β → Bool) (s : σ) (xs : List ι)
    (hnotes : ∀ pre x post, xs = pre ++ x :: post →
      ∀ a, note (finalState step s pre) x = some a → p a = true →
        ∃ b, note' (finalState step s pre) x = some b ∧ q b = true) :
    (tally note step s xs).countP p ≤ (tally note' step s xs).countP q := by
  induction xs using List.reverseRecOn with
  | nil => exact Nat.le_refl 0
  | append_singleton xs x ih =>
      have hold := ih fun pre y post hxs =>
        hnotes pre y (post ++ [x]) (by rw [hxs, List.append_assoc, List.cons_append])
      have hnew : (note (finalState step s xs) x).toList.countP p ≤
          (note' (finalState step s xs) x).toList.countP q := by
        cases ha : note (finalState step s xs) x with
        | none => exact Nat.zero_le _
        | some a =>
            by_cases hp : p a = true
            · obtain ⟨b, hb, hq⟩ := hnotes xs x [] rfl a ha hp
              refine Nat.le_of_eq ?_
              rw [hb, Option.toList_some, Option.toList_some, List.countP_singleton,
                List.countP_singleton, if_pos hp, if_pos hq]
            · rw [Option.toList_some, List.countP_singleton, if_neg hp]
              exact Nat.zero_le _
      rw [tally_append_singleton, tally_append_singleton, List.countP_append, List.countP_append]
      omega

/-- **Charging rule.** If a measure of the state grows by at most `k` at an input that is noted
and not at all at the others, it is at most `k` times the number of notes. -/
theorem measure_le_tally (note : σ → ι → Option α) (p : α → Bool) (measure : σ → ℕ) (k : ℕ)
    (s : σ) (xs : List ι) (hs : measure s = 0)
    (hcharge : ∀ pre x post, xs = pre ++ x :: post →
      measure (step (finalState step s pre) x).2 ≤ measure (finalState step s pre) +
        k * (note (finalState step s pre) x).toList.countP p) :
    measure (finalState step s xs) ≤ k * (tally note step s xs).countP p := by
  induction xs using List.reverseRecOn with
  | nil =>
      rw [finalState_nil, hs]
      exact Nat.zero_le _
  | append_singleton xs x ih =>
      have hold := ih fun pre y post hxs =>
        hcharge pre y (post ++ [x]) (by rw [hxs, List.append_assoc, List.cons_append])
      have hnew := hcharge xs x [] rfl
      rw [finalState_append, finalState_cons, finalState_nil, tally_append_singleton,
        List.countP_append, Nat.mul_add]
      omega

end Rules

section Picking

/-- Picking every index once picks the whole list. -/
theorem filterMap_range_getElem? (l : List α) :
    (List.range l.length).filterMap (l[·]?) = l := by
  induction l using List.reverseRecOn with
  | nil => rfl
  | append_singleton l a ih =>
      have hfirst : (List.range l.length).filterMap ((l ++ [a])[·]?) =
          (List.range l.length).filterMap (l[·]?) :=
        List.filterMap_congr fun i hi => List.getElem?_append_left (List.mem_range.mp hi)
      rw [List.length_append, List.length_singleton, List.range_succ, List.filterMap_append, hfirst,
        ih]
      simp

/-- No index twice, no entry more often than it is there. -/
theorem picked_subperm (l : List α) {is : List ℕ} (his : is.Nodup) :
    (is.filterMap (l[·]?)).Subperm l := by
  have hinside : is.filterMap (l[·]?) = (is.filter (· < l.length)).filterMap (l[·]?) := by
    rw [List.filterMap_filter]
    refine List.filterMap_congr fun i _ => ?_
    by_cases hi : i < l.length
    · simp [hi]
    · simp [hi]
  have hbound : (is.filter (· < l.length)).Subperm (List.range l.length) := by
    refine List.subperm_of_subset (his.filter _) fun i hi => ?_
    rw [List.mem_range]
    exact of_decide_eq_true (List.mem_filter.mp hi).2
  obtain ⟨js, hperm, hsub⟩ := hbound
  have hpicked := hsub.filterMap (l[·]?)
  rw [filterMap_range_getElem?] at hpicked
  rw [hinside]
  exact ⟨js.filterMap (l[·]?), hperm.filterMap _, hpicked⟩

/-- What was picked stays picked when the list grows. -/
theorem picked_sublist {l l' : List α} (hgrows : l <+: l') (is : List ℕ) :
    (is.filterMap (l[·]?)).Sublist (is.filterMap (l'[·]?)) := by
  induction is with
  | nil => exact List.Sublist.refl _
  | cons i is ih =>
      cases hi : l[i]? with
      | none =>
          rw [List.filterMap_cons_none hi]
          refine ih.trans ?_
          rw [List.filterMap_cons]
          split
          · exact List.Sublist.refl _
          · exact List.sublist_cons_self _ _
      | some a =>
          have hi' : l'[i]? = some a := by
            obtain ⟨t, rfl⟩ := hgrows
            obtain ⟨hlt, -⟩ := List.getElem?_eq_some_iff.mp hi
            rw [List.getElem?_append_left hlt, hi]
          rw [List.filterMap_cons_some hi, List.filterMap_cons_some hi']
          exact ih.cons_cons a

/-- **Picking rule.** Inputs that pick entries of a growing list by their index, no index
twice, pick no entry more often than it is there in the end. -/
theorem tally_picked (step : σ → ι → ω × σ) (store : σ → List α) (index : ι → Option ℕ)
    (hgrows : ∀ s x, store s <+: store (step s x).2) (s : σ) (xs : List ι)
    (hindices : (xs.filterMap index).Nodup) :
    (tally (fun s x => (index x).bind ((store s)[·]?)) step s xs).Subperm
      (store (finalState step s xs)) := by
  have hpicked : (tally (fun s x => (index x).bind ((store s)[·]?)) step s xs).Sublist
      ((xs.filterMap index).filterMap ((store (finalState step s xs))[·]?)) := by
    clear hindices
    induction xs using List.reverseRecOn with
    | nil => exact List.Sublist.refl _
    | append_singleton xs x ih =>
        have hnote : ((index x).bind ((store (finalState step s xs))[·]?)).toList =
            ([x].filterMap index).filterMap ((store (finalState step s xs))[·]?) := by
          cases hx : index x with
          | none => simp [hx]
          | some i => cases hi : (store (finalState step s xs))[i]? <;> simp [hx, hi]
        have hgrow := hgrows (finalState step s xs) x
        rw [tally_append_singleton, hnote, List.filterMap_append, List.filterMap_append,
          finalState_append, finalState_cons, finalState_nil]
        exact (ih.trans (picked_sublist hgrow _)).append (picked_sublist hgrow _)
  exact hpicked.subperm.trans (picked_subperm _ hindices)

end Picking

end Qmedia.Library
