import Mathlib.Data.List.Basic

/-!
# Runs of a deterministic machine with outputs

A machine is a function `step : σ → ι → ω × σ`: from a state and an input it gives
an output and the next state. `finalState` and `outputs` run it over a list of
inputs. The rules below are the ones a proof about runs needs: splitting a run at
any point, keeping an invariant, keeping the entries of a list that only grows, reading the
outputs off an invariant, replacing one machine by another that simulates it, and taking
inputs out of a run.
-/

set_option autoImplicit false

namespace Qmedia.Library

variable {σ τ ι ω : Type*}

/-- The state after the inputs `xs`. -/
def finalState (step : σ → ι → ω × σ) (s : σ) (xs : List ι) : σ :=
  xs.foldl (fun s x => (step s x).2) s

/-- One output for each input, in order. -/
def outputs (step : σ → ι → ω × σ) : σ → List ι → List ω
  | _, [] => []
  | s, x :: xs => (step s x).1 :: outputs step (step s x).2 xs

section Splitting

variable (step : σ → ι → ω × σ)

/-- A run without inputs stays where it is. -/
@[simp] theorem finalState_nil (s : σ) : finalState step s [] = s := rfl

/-- The first input is taken first. -/
@[simp] theorem finalState_cons (s : σ) (x : ι) (xs : List ι) :
    finalState step s (x :: xs) = finalState step (step s x).2 xs := rfl

/-- The second part of a run starts where the first ends. -/
@[simp] theorem finalState_append (s : σ) (xs ys : List ι) :
    finalState step s (xs ++ ys) = finalState step (finalState step s xs) ys :=
  List.foldl_append

/-- A run without inputs gives no outputs. -/
@[simp] theorem outputs_nil (s : σ) : outputs step s [] = [] := rfl

/-- The output of the first input comes first. -/
@[simp] theorem outputs_cons (s : σ) (x : ι) (xs : List ι) :
    outputs step s (x :: xs) = (step s x).1 :: outputs step (step s x).2 xs := rfl

/-- Every input gives one output. -/
@[simp] theorem length_outputs (s : σ) (xs : List ι) :
    (outputs step s xs).length = xs.length := by
  induction xs generalizing s with
  | nil => rfl
  | cons x xs ih => simp [ih]

/-- The outputs of a run are those of its first part followed by those of the rest,
started where the first part ended. -/
theorem outputs_append (s : σ) (xs ys : List ι) :
    outputs step s (xs ++ ys) =
      outputs step s xs ++ outputs step (finalState step s xs) ys := by
  induction xs generalizing s with
  | nil => rfl
  | cons x xs ih => simp [ih]

/-- An output of a run is the output of some step from the state before it. -/
theorem mem_outputs_iff (s : σ) (xs : List ι) (r : ω) :
    r ∈ outputs step s xs ↔
      ∃ pre x post, xs = pre ++ x :: post ∧ (step (finalState step s pre) x).1 = r := by
  constructor
  · induction xs generalizing s with
    | nil => exact fun h => by cases h
    | cons x xs ih =>
        intro h
        rcases List.mem_cons.mp h with rfl | h
        · exact ⟨[], x, xs, rfl, rfl⟩
        · obtain ⟨pre, y, post, rfl, hy⟩ := ih _ h
          exact ⟨x :: pre, y, post, rfl, hy⟩
  · rintro ⟨pre, x, post, rfl, rfl⟩
    rw [outputs_append]
    exact List.mem_append_right _ (List.mem_cons_self ..)

end Splitting

section Rules

/-- **Invariant rule.** What the start state satisfies and every step on an input of
the run keeps, the final state satisfies. -/
theorem finalState_invariant (step : σ → ι → ω × σ) (I : σ → Prop) (xs : List ι)
    (hstep : ∀ s x, x ∈ xs → I s → I (step s x).2) (s : σ) (hs : I s) :
    I (finalState step s xs) := by
  induction xs generalizing s with
  | nil => exact hs
  | cons x xs ih =>
      exact ih (fun s y hy => hstep s y (List.mem_cons_of_mem _ hy)) _
        (hstep s x (List.mem_cons_self ..) hs)

/-- **Output rule.** If an invariant determines the output of every step from the
input alone, the outputs of a run are the inputs mapped one by one. The inputs are
given as images under `g`. -/
theorem outputs_eq_map {α : Type*} (step : σ → ι → ω × σ) (I : σ → Prop) (g : α → ι)
    (f : α → ω) (xs : List α)
    (hstep : ∀ s x, x ∈ xs → I s → (step s (g x)).1 = f x ∧ I (step s (g x)).2) (s : σ)
    (hs : I s) : outputs step s (xs.map g) = xs.map f := by
  induction xs generalizing s with
  | nil => rfl
  | cons x xs ih =>
      obtain ⟨hout, hnext⟩ := hstep s x (List.mem_cons_self ..) hs
      rw [List.map_cons, outputs_cons, List.map_cons, hout,
        ih (fun s y hy => hstep s y (List.mem_cons_of_mem _ hy)) _ hnext]

/-- **Simulation rule.** Two machines whose states stay related and whose related
steps give equal outputs have the same outputs, and end in related states. -/
theorem outputs_simulation (step : σ → ι → ω × σ) (step' : τ → ι → ω × τ)
    (R : σ → τ → Prop)
    (hstep : ∀ s t x, R s t → (step s x).1 = (step' t x).1 ∧ R (step s x).2 (step' t x).2)
    (xs : List ι) (s : σ) (t : τ) (hst : R s t) :
    outputs step s xs = outputs step' t xs ∧
      R (finalState step s xs) (finalState step' t xs) := by
  induction xs generalizing s t with
  | nil => exact ⟨rfl, hst⟩
  | cons x xs ih =>
      obtain ⟨hout, hnext⟩ := hstep s t x hst
      obtain ⟨houts, hfin⟩ := ih _ _ hnext
      exact ⟨by rw [outputs_cons, outputs_cons, hout, houts], hfin⟩

end Rules

section Removing

/-- `Removed p xs ys`: `ys` is `xs` with some of the inputs that satisfy `p` taken out. -/
inductive Removed (p : ι → Prop) : List ι → List ι → Prop
  | nil : Removed p [] []
  | keep {x : ι} {xs ys : List ι} : Removed p xs ys → Removed p (x :: xs) (x :: ys)
  | remove {x : ι} {xs ys : List ι} : p x → Removed p xs ys → Removed p (x :: xs) ys

/-- The outputs of a run at the inputs an observer sees. -/
def observed (visible : ι → Bool) (step : σ → ι → ω × σ) : σ → List ι → List ω
  | _, [] => []
  | s, x :: xs =>
      if visible x then (step s x).1 :: observed visible step (step s x).2 xs
      else observed visible step (step s x).2 xs

/-- **Removal rule.** Let `R` relate states that look alike to the observer: related
states give equal visible outputs and stay related on every input, and a removable input,
which is not visible, does not lead out of the relation. Then the observer cannot tell a
run from one with removable inputs taken out. -/
theorem observed_removed (step : σ → ι → ω × σ) (visible : ι → Bool) (p : ι → Prop)
    (R : σ → σ → Prop) (hhidden : ∀ x, p x → visible x = false)
    (hremove : ∀ s t x, p x → R s t → R (step s x).2 t)
    (hkeep : ∀ s t x, R s t → R (step s x).2 (step t x).2)
    (hout : ∀ s t x, R s t → visible x = true → (step s x).1 = (step t x).1)
    {xs ys : List ι} (h : Removed p xs ys) (s t : σ) (hst : R s t) :
    observed visible step s xs = observed visible step t ys := by
  induction h generalizing s t with
  | nil => rfl
  | @keep x xs ys _ ih =>
      have hrest := ih _ _ (hkeep s t x hst)
      unfold observed
      split
      · rename_i hx
        rw [hout s t x hst hx, hrest]
      · exact hrest
  | @remove x xs ys hx _ ih =>
      have hrest := ih _ _ (hremove s t x hx hst)
      rw [observed, hhidden x hx, if_neg Bool.false_ne_true]
      exact hrest

end Removing

end Qmedia.Library
