import Mathlib.Algebra.BigOperators.Group.List.Basic
import Qmedia.Library.MachineRun

/-!
# Sums over consecutive elements

`pathSum f p xs` charges each element of a list against the one before it, the first one
against `p`. An element only takes part in two charges, so whether a sum changes when it
is taken out depends on its two neighbours (`pathSum_remove_iff`).

A machine that remembers no more than the last key it was given, and counts something on
each key, counts such a sum (`total_eq_pathSum`).
-/

set_option autoImplicit false

namespace Qmedia.Library

variable {α M : Type*}

section Sums

variable [AddCommMonoid M] (f : α → α → M)

/-- The charges along a list, started from `p`. -/
def pathSum : α → List α → M
  | _, [] => 0
  | p, x :: xs => f p x + pathSum x xs

/-- Nothing follows, nothing is charged. -/
@[simp] theorem pathSum_nil (p : α) : pathSum f p [] = 0 := rfl

/-- The first item is charged against the one before it. -/
@[simp] theorem pathSum_cons (p x : α) (xs : List α) :
    pathSum f p (x :: xs) = f p x + pathSum f x xs := rfl

/-- The second part is charged from the last item of the first on. -/
theorem pathSum_append (p : α) (xs ys : List α) :
    pathSum f p (xs ++ ys) = pathSum f p xs + pathSum f (xs.getLastD p) ys := by
  induction xs generalizing p with
  | nil => simp
  | cons x xs ih =>
      have hlast : (x :: xs).getLastD p = xs.getLastD x := List.getLastD_cons
      rw [List.cons_append, pathSum_cons, pathSum_cons, ih, hlast, add_assoc]

end Sums

/-- Where an element is charged at most one, a list is charged at most its length. -/
theorem pathSum_le_length (f : α → α → ℕ) (hf : ∀ p x, f p x ≤ 1) (p : α) (xs : List α) :
    pathSum f p xs ≤ xs.length := by
  induction xs generalizing p with
  | nil => simp
  | cons x xs ih =>
      have hfirst := hf p x
      have hrest := ih x
      rw [pathSum_cons, List.length_cons]
      omega

section Removing

variable [AddCancelCommMonoid M] (f : α → α → M)

/-- The way from `q` over `x` to the element after it, if there is one, is charged like the
way without `x`. -/
def FreeDetour (q x : α) : Option α → Prop
  | none => f q x = 0
  | some y => f q x + f x y = f q y

/-- **Removal.** Taking an element out leaves the sum as it is exactly if the detour over the
element is free. -/
theorem pathSum_remove_iff (p x : α) (pre post : List α) :
    pathSum f p (pre ++ x :: post) = pathSum f p (pre ++ post) ↔
      FreeDetour f (pre.getLastD p) x post.head? := by
  rw [pathSum_append, pathSum_append, add_right_inj, pathSum_cons]
  cases post with
  | nil => simp [FreeDetour]
  | cons y post =>
      rw [pathSum_cons, pathSum_cons, ← add_assoc, add_left_inj]
      rfl

end Removing

section Machines

variable {σ ι ω : Type*} [AddCommMonoid M] (step : σ → ι → ω × σ) (inc : σ → ι → M)

/-- What the steps of a run count together. -/
def total : σ → List ι → M
  | _, [] => 0
  | s, x :: xs => inc s x + total (step s x).2 xs

/-- **Machines that remember the last key.** -/
theorem total_eq_pathSum (pos : σ → α) (key : ι → Option α) (f : α → α → M)
    (hnone : ∀ s x, key x = none → inc s x = 0 ∧ pos (step s x).2 = pos s)
    (hsome : ∀ s x a, key x = some a → inc s x = f (pos s) a ∧ pos (step s x).2 = a)
    (s : σ) (xs : List ι) : total step inc s xs = pathSum f (pos s) (xs.filterMap key) := by
  induction xs generalizing s with
  | nil => rfl
  | cons x xs ih =>
      rw [total, ih]
      cases hkey : key x with
      | none =>
          obtain ⟨hzero, hpos⟩ := hnone s x hkey
          rw [List.filterMap_cons_none hkey, hzero, hpos, zero_add]
      | some a =>
          obtain ⟨hcharge, hpos⟩ := hsome s x a hkey
          rw [List.filterMap_cons_some hkey, pathSum_cons, hcharge, hpos]

end Machines

end Qmedia.Library
