import Qmedia.Library.MachineRun
import Mathlib.Logic.Function.Iterate

/-!
# Threads over a shared state

A task takes one atomic step at a time: `step : σ → τ → ω × σ × τ` gives an output, the
next shared state and what is left of the task. A pool runs one task for each thread,
and a schedule names the thread of each step, so a run of a pool is a run of a machine
whose inputs are threads. The rules here are those an invariant of a pool needs: an
assertion about one thread, an obligation that some thread owes, conditions on the steps
of a schedule, and the run of a thread that nothing interrupts.
-/

set_option autoImplicit false

namespace Qmedia.Library

variable {σ τ ι ω : Type*}

/-- The shared state and what is left of each thread's task. -/
structure Pool (σ τ ι : Type*) where
  shared : σ
  tasks : ι → τ

/-- Thread `i` takes one atomic step. -/
def poolStep [DecidableEq ι] (step : σ → τ → ω × σ × τ) (p : Pool σ τ ι) (i : ι) :
    ω × Pool σ τ ι :=
  let (out, s, t) := step p.shared (p.tasks i)
  (out, ⟨s, Function.update p.tasks i t⟩)

/-! ## Conditions on the steps of a run -/

section Conditions

variable (step : σ → ι → ω × σ) (C : σ → ι → Prop)

/-- Each step of a run is taken from a state that meets the condition for its input. -/
def EachStep : σ → List ι → Prop
  | _, [] => True
  | s, x :: xs => C s x ∧ EachStep (step s x).2 xs

/-- A condition on each step is checked along the run. -/
instance decidableEachStep [∀ s x, Decidable (C s x)] :
    (s : σ) → (xs : List ι) → Decidable (EachStep step C s xs)
  | _, [] => isTrue trivial
  | s, x :: xs =>
      have : Decidable (EachStep step C (step s x).2 xs) := decidableEachStep (step s x).2 xs
      inferInstanceAs (Decidable (_ ∧ _))

/-- **Conditional invariant rule.** What every step that meets the condition keeps, and
what its output then satisfies, holds of a run whose steps all meet it. -/
theorem EachStep.invariant {step C} (I : σ → Prop) (Q : ω → Prop)
    (hstep : ∀ s x, I s → C s x → I (step s x).2 ∧ Q (step s x).1) {s : σ} {xs : List ι}
    (hxs : EachStep step C s xs) (hs : I s) :
    I (finalState step s xs) ∧ ∀ out ∈ outputs step s xs, Q out := by
  induction xs generalizing s with
  | nil => exact ⟨hs, by simp⟩
  | cons x xs ih =>
      obtain ⟨hx, hrest⟩ := hxs
      obtain ⟨hnext, hout⟩ := hstep s x hs hx
      obtain ⟨hfinal, houts⟩ := ih hrest hnext
      refine ⟨hfinal, ?_⟩
      intro out hmem
      rcases List.mem_cons.mp hmem with rfl | hmem
      · exact hout
      · exact houts out hmem

/-- **Lasting condition rule.** If a step ends with `N` exactly when it starts with `N` and
meets the condition, a run ends with `N` exactly when it starts with it and each step
meets the condition. -/
theorem finalState_iff_eachStep {step : σ → ι → ω × σ} {C : σ → ι → Prop} (I N : σ → Prop)
    (hI : ∀ s x, I s → I (step s x).2)
    (hN : ∀ s x, I s → (N (step s x).2 ↔ N s ∧ C s x)) (s : σ) (xs : List ι) (hs : I s) :
    N (finalState step s xs) ↔ N s ∧ EachStep step C s xs := by
  induction xs generalizing s with
  | nil => exact (and_iff_left trivial).symm
  | cons x xs ih =>
      rw [finalState_cons, ih _ (hI s x hs), hN s x hs, and_assoc]
      rfl

end Conditions

/-! ## One step of a pool -/

section Steps

variable [DecidableEq ι]

/-- **Assertion rule.** An assertion about the shared state and a task holds of every
thread after a step, if it holds of what is left of the thread's own task, and the step
does not interfere with it for the others. -/
theorem forall_update {A A' : τ → Prop} {tasks : ι → τ} {i : ι} {t : τ}
    (h : ∀ j, A (tasks j)) (hown : A' t) (hothers : ∀ j, j ≠ i → A (tasks j) → A' (tasks j)) :
    ∀ j, A' (Function.update tasks i t j) := by
  intro j
  by_cases hj : j = i
  · subst hj
    rw [Function.update_self]
    exact hown
  · rw [Function.update_of_ne hj]
    exact hothers j hj (h j)

/-- **Obligation rule.** What holds or is owed by some thread still holds or is owed after
a step, if the step settles or passes on what its own thread owes and gives up nothing
that holds without owing it. -/
theorem or_exists_update {G G' : Prop} (owes : τ → Prop) {tasks : ι → τ} {i : ι} {t : τ}
    (h : G ∨ ∃ j, owes (tasks j)) (hown : owes (tasks i) → G' ∨ owes t)
    (hkeep : G → G' ∨ owes t) : G' ∨ ∃ j, owes (Function.update tasks i t j) := by
  have hmine (h : G' ∨ owes t) : G' ∨ ∃ j, owes (Function.update tasks i t j) := by
    refine h.imp_right fun ht => ⟨i, ?_⟩
    rw [Function.update_self]
    exact ht
  rcases h with hG | ⟨j, hj⟩
  · exact hmine (hkeep hG)
  · by_cases hji : j = i
    · subst hji
      exact hmine (hown hj)
    · refine Or.inr ⟨j, ?_⟩
      rw [Function.update_of_ne hji]
      exact hj

/-- **Conservation rule.** If a step keeps what holds or is owed by its own task, as a whole,
then what holds or is owed by some thread is the same before and after every run. -/
theorem conserved_run {step : σ → τ → ω × σ × τ} {I G : σ → Prop} {A owes : τ → Prop}
    (hstep : ∀ s t, I s → A t → I (step s t).2.1 ∧ A (step s t).2.2 ∧
      (G (step s t).2.1 ∨ owes (step s t).2.2 ↔ G s ∨ owes t))
    (p : Pool σ τ ι) (hI : I p.shared) (hA : ∀ i, A (p.tasks i)) (schedule : List ι) :
    (G (finalState (poolStep step) p schedule).shared ∨
        ∃ i, owes ((finalState (poolStep step) p schedule).tasks i)) ↔
      (G p.shared ∨ ∃ i, owes (p.tasks i)) := by
  induction schedule generalizing p with
  | nil => exact Iff.rfl
  | cons i schedule ih =>
      obtain ⟨hI', hA', hown⟩ := hstep p.shared (p.tasks i) hI (hA i)
      refine (ih (poolStep step p i).2 hI' (forall_update hA hA' fun _ _ h => h)).trans ⟨?_, ?_⟩
      · intro h
        have hback : G p.shared ∨ ∃ j, owes (Function.update (Function.update p.tasks i
            (step p.shared (p.tasks i)).2.2) i (p.tasks i) j) :=
          or_exists_update owes h (fun ht => hown.mp (Or.inr (by simpa using ht)))
            fun hG => hown.mp (Or.inl hG)
        simpa using hback
      · intro h
        exact or_exists_update owes h (fun ht => hown.mpr (Or.inr ht)) fun hG => hown.mpr (Or.inl hG)

end Steps

/-! ## A thread that nothing interrupts -/

section Alone

variable (step : σ → τ → ω × σ × τ)

/-- One step of a task on the shared state. -/
def aloneStep (x : σ × τ) : σ × τ := (step x.1 x.2).2

/-- The task `x.2` can run from the state `x.1` to `y` without interruption. -/
def Alone (x y : σ × τ) : Prop := ∃ n, (aloneStep step)^[n] x = y

variable {step}

/-- A thread that takes no steps is alone. -/
theorem Alone.refl (x : σ × τ) : Alone step x x := ⟨0, rfl⟩

/-- One more step before. -/
theorem Alone.head {x y : σ × τ} (h : Alone step (aloneStep step x) y) : Alone step x y := by
  obtain ⟨n, hn⟩ := h
  exact ⟨n + 1, hn⟩

/-- Two stretches of steps make one. -/
theorem Alone.trans {x y z : σ × τ} (hxy : Alone step x y) (hyz : Alone step y z) :
    Alone step x z := by
  obtain ⟨n, rfl⟩ := hxy
  obtain ⟨m, rfl⟩ := hyz
  exact ⟨m + n, Function.iterate_add_apply _ _ _ _⟩

/-- **Uninterrupted invariant rule.** What every step of a task keeps, its run keeps. -/
theorem Alone.invariant (I : σ × τ → Prop) (hstep : ∀ x, I x → I (aloneStep step x))
    {x y : σ × τ} (h : Alone step x y) (hx : I x) : I y := by
  obtain ⟨n, rfl⟩ := h
  exact Function.Iterate.rec I hx hstep n

/-- **Refinement rule.** If every step of a task can be made by steps of a finer task, so can
its uninterrupted run. -/
theorem Alone.simulate {τ' ω' : Type*} {step' : σ → τ' → ω' × σ × τ'} (f : τ → τ')
    (hstep : ∀ s t, Alone step' (s, f t) ((step s t).2.1, f (step s t).2.2)) {x y : σ × τ}
    (h : Alone step x y) : Alone step' (x.1, f x.2) (y.1, f y.2) :=
  h.invariant (fun z => Alone step' (x.1, f x.2) (z.1, f z.2))
    (fun z hz => hz.trans (hstep z.1 z.2)) (Alone.refl _)

variable [DecidableEq ι]

/-- Steps of one thread only are steps of its task. -/
theorem finalState_replicate (p : Pool σ τ ι) (i : ι) (n : ℕ) :
    finalState (poolStep step) p (List.replicate n i) =
      ⟨((aloneStep step)^[n] (p.shared, p.tasks i)).1,
        Function.update p.tasks i ((aloneStep step)^[n] (p.shared, p.tasks i)).2⟩ := by
  induction n generalizing p with
  | zero =>
      rw [Function.iterate_zero, id_eq, Function.update_eq_self]
      rfl
  | succ n ih =>
      rw [List.replicate_succ, finalState_cons, ih]
      show Pool.mk ((aloneStep step)^[n] (_, Function.update p.tasks i _ i)).1
        (Function.update (Function.update p.tasks i _) i
          ((aloneStep step)^[n] (_, Function.update p.tasks i _ i)).2) = _
      rw [Function.update_self, Function.update_idem]
      rfl

/-- A task that can run without interruption is run so by a schedule of its thread. -/
theorem Alone.exists_schedule {p : Pool σ τ ι} {i : ι} {s : σ} {t : τ}
    (h : Alone step (p.shared, p.tasks i) (s, t)) :
    ∃ n, finalState (poolStep step) p (List.replicate n i) = ⟨s, Function.update p.tasks i t⟩ := by
  obtain ⟨n, hn⟩ := h
  exact ⟨n, by rw [finalState_replicate, hn]⟩

end Alone

end Qmedia.Library
