import Mathlib.Data.Set.Insert
import Mathlib.Logic.Function.Basic

/-!
# Claiming a key and doing its work later

Workers share a ledger that says which keys are claimed and how often the work for each key
has been done. A worker claims a key that nobody has claimed yet, owes its work from then on
and does it in a later step; no other step adds to the ledger. So in whatever order the
workers take their steps, the work for a key is done at most once after the key is claimed
and not at all for other keys (`Settles.done_le`), and when nobody owes anything it is done
exactly once (`Settles.done_eq`).
-/

set_option autoImplicit false

namespace Qmedia.Library

variable {K ι : Type*}

/-- Which keys are claimed, and how often the work for each has been done. -/
structure Ledger (K : Type*) where
  claimed : Set K
  done : K → ℕ

namespace Ledger

variable [DecidableEq K]

/-- One step of one worker: the ledger and what the worker owes, before and after. -/
inductive Step : Ledger K → Option K → Ledger K → Option K → Prop where
  | quiet (l : Ledger K) (debt : Option K) : Step l debt l debt
  | claim (l : Ledger K) {k : K} (h : k ∉ l.claimed) :
      Step l none ⟨insert k l.claimed, l.done⟩ (some k)
  | settle (l : Ledger K) (k : K) :
      Step l (some k) ⟨l.claimed, Function.update l.done k (l.done k + 1)⟩ none

/-- Nobody owes the work for the key. -/
def NoneOwes (debts : ι → Option K) (k : K) : Prop := ∀ i, debts i ≠ some k

/-- Exactly one worker owes the work for the key. -/
def OneOwes (debts : ι → Option K) (k : K) : Prop := ∃ i, debts i = some k ∧
  ∀ j, debts j = some k → j = i

/-- What has become of the ledger `l₀`: a key that was claimed before, or is not claimed,
has seen no work and is owed by nobody; for a key claimed since, the work has been done
once, or it is still owed by one worker. -/
structure Settles (l₀ l : Ledger K) (debts : ι → Option K) : Prop where
  kept : l₀.claimed ⊆ l.claimed
  untouched : ∀ k, k ∈ l₀.claimed ∨ k ∉ l.claimed → l.done k = l₀.done k ∧ NoneOwes debts k
  claimed : ∀ k, k ∉ l₀.claimed → k ∈ l.claimed →
    l.done k = l₀.done k + 1 ∧ NoneOwes debts k ∨ l.done k = l₀.done k ∧ OneOwes debts k

omit [DecidableEq K] in
/-- Nothing has happened yet. -/
theorem Settles.refl (l : Ledger K) {debts : ι → Option K} (hdebts : ∀ i, debts i = none) :
    Settles l l debts where
  kept := Set.Subset.refl _
  untouched k _ := ⟨rfl, fun i => by rw [hdebts i]; exact nofun⟩
  claimed k h h' := absurd h' h

section Debts

variable [DecidableEq ι] {debts : ι → Option K} {i : ι} {debt : Option K} {k : K}

omit [DecidableEq K] in
/-- A worker whose new debt is another leaves the key owed by none. -/
theorem NoneOwes.update (h : NoneOwes debts k) (hdebt : debt ≠ some k) :
    NoneOwes (Function.update debts i debt) k := by
  intro j
  by_cases hj : j = i
  · rw [hj, Function.update_self]
    exact hdebt
  · rw [Function.update_of_ne hj]
    exact h j

omit [DecidableEq K] in
/-- Somebody else's step does not change who owes a key. -/
theorem OneOwes.update (h : OneOwes debts k) (hi : debts i ≠ some k) (hdebt : debt ≠ some k) :
    OneOwes (Function.update debts i debt) k := by
  obtain ⟨i', hi', honly⟩ := h
  have hne : i' ≠ i := by
    rintro rfl
    exact hi hi'
  refine ⟨i', by rw [Function.update_of_ne hne]; exact hi', ?_⟩
  intro j hj
  by_cases hji : j = i
  · rw [hji, Function.update_self] at hj
    exact absurd hj hdebt
  · rw [Function.update_of_ne hji] at hj
    exact honly j hj

omit [DecidableEq K] in
/-- What nobody owed is owed by the worker that claims it. -/
theorem NoneOwes.oneOwes (h : NoneOwes debts k) :
    OneOwes (Function.update debts i (some k)) k := by
  refine ⟨i, Function.update_self .., ?_⟩
  intro j hj
  by_contra hji
  rw [Function.update_of_ne hji] at hj
  exact h j hj

omit [DecidableEq K] in
/-- The one that owed a key and owes it no more leaves nobody that does. -/
theorem OneOwes.noneOwes (h : OneOwes debts k) (hi : debts i = some k) :
    NoneOwes (Function.update debts i none) k := by
  obtain ⟨i', -, honly⟩ := h
  intro j
  by_cases hj : j = i
  · rw [hj, Function.update_self]
    exact nofun
  · rw [Function.update_of_ne hj]
    intro hjk
    exact hj ((honly j hjk).trans (honly i hi).symm)

end Debts

section Rules

variable {l₀ l l' : Ledger K} {debts : ι → Option K}

/-- **Step of a ledger.** -/
theorem Settles.step [DecidableEq ι] (h : Settles l₀ l debts) {i : ι} {debt : Option K}
    (hstep : Step l (debts i) l' debt) : Settles l₀ l' (Function.update debts i debt) := by
  generalize hbefore : debts i = before at hstep
  cases hstep with
  | quiet =>
      rw [← hbefore, Function.update_eq_self]
      exact h
  | @claim k hk =>
      obtain ⟨hdone, hnone⟩ := h.untouched k (Or.inr hk)
      refine ⟨h.kept.trans (Set.subset_insert k _), ?_, ?_⟩
      · intro k' hk'
        have hne : some k ≠ some k' := by
          rintro ⟨⟩
          rcases hk' with hold | hnot
          · exact hk (h.kept hold)
          · exact hnot (Set.mem_insert k _)
        obtain ⟨hdone', hnone'⟩ := h.untouched k'
          (hk'.imp_right fun hnot hmem => hnot (Set.mem_insert_of_mem k hmem))
        exact ⟨hdone', hnone'.update hne⟩
      · intro k' hnew hk'
        by_cases hkk : k' = k
        · rw [hkk]
          exact Or.inr ⟨hdone, hnone.oneOwes⟩
        · have hne : some k ≠ some k' := fun heq => hkk (Option.some.inj heq).symm
          have hi : debts i ≠ some k' := by
            rw [hbefore]
            exact nofun
          rcases h.claimed k' hnew (Set.mem_of_mem_insert_of_ne hk' hkk) with
            ⟨hdone', hnone'⟩ | ⟨hdone', hone'⟩
          · exact Or.inl ⟨hdone', hnone'.update hne⟩
          · exact Or.inr ⟨hdone', hone'.update hi hne⟩
  | settle k =>
      refine ⟨h.kept, ?_, ?_⟩
      · intro k' hk'
        obtain ⟨hdone', hnone'⟩ := h.untouched k' hk'
        have hne : k' ≠ k := by
          rintro rfl
          exact hnone' i hbefore
        exact ⟨(Function.update_of_ne hne _ _).trans hdone', hnone'.update nofun⟩
      · intro k' hnew hk'
        rcases h.claimed k' hnew hk' with ⟨hdone', hnone'⟩ | ⟨hdone', hone'⟩
        · have hne : k' ≠ k := by
            rintro rfl
            exact hnone' i hbefore
          exact Or.inl ⟨(Function.update_of_ne hne _ _).trans hdone', hnone'.update nofun⟩
        · by_cases hkk : k' = k
          · subst hkk
            left
            refine ⟨?_, hone'.noneOwes hbefore⟩
            show Function.update l.done k' (l.done k' + 1) k' = _
            rw [Function.update_self, hdone']
          · have hi : debts i ≠ some k' := by
              rw [hbefore]
              exact fun heq => hkk (Option.some.inj heq).symm
            exact Or.inr ⟨(Function.update_of_ne hkk _ _).trans hdone', hone'.update hi nofun⟩

omit [DecidableEq K] in
/-- The work done so far, at any time. -/
theorem Settles.done_le (h : Settles l₀ l debts) (k : K) :
    l.done k = l₀.done k ∨ l.done k = l₀.done k + 1 ∧ k ∉ l₀.claimed ∧ k ∈ l.claimed := by
  by_cases hold : k ∈ l₀.claimed
  · exact Or.inl (h.untouched k (Or.inl hold)).1
  · by_cases hnew : k ∈ l.claimed
    · rcases h.claimed k hold hnew with ⟨hdone, -⟩ | ⟨hdone, -⟩
      · exact Or.inr ⟨hdone, hold, hnew⟩
      · exact Or.inl hdone
    · exact Or.inl (h.untouched k (Or.inr hnew)).1

omit [DecidableEq K] in
/-- When nobody owes anything, the work has been done for exactly the keys claimed since. -/
theorem Settles.done_eq (h : Settles l₀ l debts) (hidle : ∀ i, debts i = none) (k : K) :
    l.done k = l₀.done k + 1 ∧ k ∉ l₀.claimed ∧ k ∈ l.claimed ∨
      l.done k = l₀.done k ∧ (k ∈ l₀.claimed ∨ k ∉ l.claimed) := by
  by_cases hold : k ∈ l₀.claimed
  · exact Or.inr ⟨(h.untouched k (Or.inl hold)).1, Or.inl hold⟩
  · by_cases hnew : k ∈ l.claimed
    · rcases h.claimed k hold hnew with ⟨hdone, -⟩ | ⟨-, i, hi, -⟩
      · exact Or.inl ⟨hdone, hold, hnew⟩
      · rw [hidle i] at hi
        cases hi
    · exact Or.inr ⟨(h.untouched k (Or.inr hnew)).1, Or.inr hnew⟩

end Rules

end Ledger

end Qmedia.Library
