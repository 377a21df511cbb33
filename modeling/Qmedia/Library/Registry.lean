import Mathlib.Data.Set.Insert
import Mathlib.Data.Fintype.Defs
import Qmedia.Library.ThreadPool

/-!
# Registering and activating in separate steps

A registry knows which keys are registered and which are active. A client looks a key up,
registers it in a second step if it was missing, and activates it in a third; another may
withdraw a key, which ends both at once. Between its steps a client remembers what it has
seen (`Phase`), and other clients' steps can make that untrue. A run in which they do not
(`Undisturbed`) registers what it found missing, and when every client is idle again the
registered keys are the active ones.
-/

set_option autoImplicit false

namespace Qmedia.Library

variable {K ι : Type*}

/-- Which keys are registered and which are active. -/
structure Registry (K : Type*) where
  registered : Set K
  active : Set K

namespace Registry

/-- What a client remembers between two of its steps. -/
inductive Phase (K : Type*) where
  | idle
  | missed (k : K)
  | holds (k : K)
deriving DecidableEq

/-- What a client may do to the registry in one step. -/
inductive Action (K : Type*) where
  | quiet
  | hit (k : K)
  | miss (k : K)
  | register (k : K)
  | fail (k : K)
  | activate (k : K)
  | withdraw (k : K)

/-- One step of one client: the registry and the client's phase, before and after. -/
inductive Step : Registry K → Phase K → Action K → Registry K → Phase K → Prop where
  | quiet (r : Registry K) : Step r .idle .quiet r .idle
  | hit (r : Registry K) {k : K} (h : k ∈ r.registered) : Step r .idle (.hit k) r (.holds k)
  | miss (r : Registry K) {k : K} (h : k ∉ r.registered) : Step r .idle (.miss k) r (.missed k)
  | register (r : Registry K) {k : K} (h : k ∉ r.registered) :
      Step r (.missed k) (.register k) ⟨insert k r.registered, r.active⟩ (.holds k)
  | fail (r : Registry K) {k : K} (h : k ∈ r.registered) : Step r (.missed k) (.fail k) r .idle
  | activate (r : Registry K) (k : K) :
      Step r (.holds k) (.activate k) ⟨r.registered, insert k r.active⟩ .idle
  | withdraw (r : Registry K) {k : K} (h : k ∈ r.registered) :
      Step r .idle (.withdraw k) ⟨r.registered \ {k}, r.active \ {k}⟩ .idle

/-- What a client remembers is true of the registry. -/
def Remembers (r : Registry K) : Phase K → Prop
  | .idle => True
  | .missed k => k ∉ r.registered
  | .holds k => k ∈ r.registered

/-- A step makes untrue what a client in the given phase remembers. -/
def Disturbs : Action K → Phase K → Prop
  | .register k, .missed k' => k' = k
  | .withdraw k, .holds k' => k' = k
  | _, _ => False

/-- Case by case of the action and the phase. -/
instance [DecidableEq K] (a : Action K) (phase : Phase K) : Decidable (Disturbs a phase) := by
  cases a <;> cases phase <;> unfold Disturbs <;> infer_instance

/-- The step of client `i` disturbs no other client. -/
def Undisturbed (phases : ι → Phase K) (i : ι) (a : Action K) : Prop :=
  ∀ j, j ≠ i → ¬ Disturbs a (phases j)

/-- Case by case of the action and the phase. -/
instance [DecidableEq K] [DecidableEq ι] [Fintype ι] (phases : ι → Phase K) (i : ι)
    (a : Action K) : Decidable (Undisturbed phases i a) :=
  inferInstanceAs (Decidable (∀ _, _))

/-- What is active is registered, and what every client remembers is true. -/
structure Sound (r : Registry K) (phases : ι → Phase K) : Prop where
  active_registered : r.active ⊆ r.registered
  remembers : ∀ i, Remembers r (phases i)

/-- What is registered is active, or a client holds it and has yet to activate it. -/
def Accounted (r : Registry K) (phases : ι → Phase K) : Prop :=
  ∀ k ∈ r.registered, k ∈ r.active ∨ ∃ i, phases i = .holds k

section Rules

variable {r r' : Registry K} {before after : Phase K} {a : Action K}

/-! ## One step -/

/-- What a client remembers after its step is true. -/
theorem Step.remembers (h : Step r before a r' after) : Remembers r' after := by
  cases h with
  | quiet => trivial
  | hit hk => exact hk
  | miss hk => exact hk
  | @register k hk => exact Set.mem_insert k _
  | fail hk => trivial
  | activate k => trivial
  | withdraw hk => trivial

/-- What another client remembers stays true unless the step disturbs it. -/
theorem Step.remembers_of_not_disturbs (h : Step r before a r' after) {other : Phase K}
    (hother : Remembers r other) (ha : ¬ Disturbs a other) : Remembers r' other := by
  cases h with
  | quiet => exact hother
  | hit hk => exact hother
  | miss hk => exact hother
  | @register k hk =>
      cases other with
      | idle => trivial
      | missed k' =>
          rintro (heq | hmem)
          · exact ha heq
          · exact hother hmem
      | holds k' => exact Set.mem_insert_of_mem k hother
  | fail hk => exact hother
  | activate k => cases other <;> exact hother
  | @withdraw k hk =>
      cases other with
      | idle => trivial
      | missed k' => exact fun hmem => hother hmem.1
      | holds k' => exact ⟨hother, ha⟩

/-- A step keeps what is active registered, if the client remembers the truth. -/
theorem Step.active_registered (h : Step r before a r' after) (hbefore : Remembers r before)
    (hactive : r.active ⊆ r.registered) : r'.active ⊆ r'.registered := by
  cases h with
  | quiet => exact hactive
  | hit hk => exact hactive
  | miss hk => exact hactive
  | @register k hk => exact hactive.trans (Set.subset_insert k _)
  | fail hk => exact hactive
  | activate k => exact Set.insert_subset hbefore hactive
  | withdraw hk => exact Set.sdiff_subset_sdiff_left hactive

/-- A key registered after a step was accounted for before it, or is the client's own, or
stays active. -/
theorem Step.accounted (h : Step r before a r' after) {k : K} (hk : k ∈ r'.registered) :
    after = .holds k ∨ k ∈ r.registered ∧ (before = .holds k → k ∈ r'.active) ∧
      (k ∈ r.active → k ∈ r'.active) := by
  cases h with
  | quiet => exact Or.inr ⟨hk, nofun, id⟩
  | hit _ => exact Or.inr ⟨hk, nofun, id⟩
  | miss _ => exact Or.inr ⟨hk, nofun, id⟩
  | register _ =>
      rcases hk with rfl | hk
      · exact Or.inl rfl
      · exact Or.inr ⟨hk, nofun, id⟩
  | fail _ => exact Or.inr ⟨hk, nofun, id⟩
  | activate k' =>
      refine Or.inr ⟨hk, ?_, Set.mem_insert_of_mem k'⟩
      rintro ⟨⟩
      exact Set.mem_insert k _
  | withdraw _ => exact Or.inr ⟨hk.1, nofun, fun hactive => ⟨hactive, hk.2⟩⟩

/-- A client whose memory is true does not fail. -/
theorem Step.ne_fail (h : Step r before a r' after) (hbefore : Remembers r before) (k : K) :
    a ≠ .fail k := by
  rintro rfl
  cases h with
  | fail hk => exact hbefore hk

/-! ## The clients together -/

variable [DecidableEq ι] {phases : ι → Phase K} {i : ι}

/-- **Step of a sound registry.** -/
theorem Sound.step (h : Sound r phases) (hstep : Step r (phases i) a r' after)
    (ha : Undisturbed phases i a) : Sound r' (Function.update phases i after) where
  active_registered := hstep.active_registered (h.remembers i) h.active_registered
  remembers := forall_update h.remembers hstep.remembers fun j hj hother =>
    hstep.remembers_of_not_disturbs hother (ha j hj)

/-- **Step of an accounted registry.** No step forgets a registered key. -/
theorem Accounted.step (h : Accounted r phases) (hstep : Step r (phases i) a r' after) :
    Accounted r' (Function.update phases i after) := by
  intro k hk
  rcases hstep.accounted hk with hmine | ⟨hold, hown, hkeep⟩
  · refine Or.inr ⟨i, ?_⟩
    rw [Function.update_self]
    exact hmine
  · exact or_exists_update (· = Phase.holds k) (h k hold)
      (fun hholds => Or.inl (hown hholds)) (fun hactive => Or.inl (hkeep hactive))

omit [DecidableEq ι] in
/-- When every client is idle, exactly the registered keys are active. -/
theorem Sound.registered_eq_active (h : Sound r phases) (haccounted : Accounted r phases)
    (hidle : ∀ i, phases i = .idle) : r.registered = r.active := by
  refine Set.Subset.antisymm (fun k hk => ?_) h.active_registered
  rcases haccounted k hk with hactive | ⟨i, hi⟩
  · exact hactive
  · rw [hidle i] at hi
    cases hi

/-! ## Disturbed clients -/

omit [DecidableEq ι] in
/-- A client that is disturbed goes wrong with its next step: it activates a key that is
no longer registered, or it fails. -/
theorem Step.of_disturbed {other next : Phase K} {b : Action K} {r'' : Registry K}
    (h : Step r before a r' after) (ha : Disturbs a other) (hnext : Step r' other b r'' next) :
    (∃ k, k ∈ r''.active ∧ k ∉ r''.registered) ∨ ∃ k, b = .fail k := by
  cases h with
  | @register k _ =>
      cases hnext with
      | register hfree =>
          obtain rfl := ha
          exact absurd (Set.mem_insert _ _) hfree
      | fail _ => exact Or.inr ⟨_, rfl⟩
      | _ => cases ha
  | @withdraw k _ =>
      cases hnext with
      | activate k' =>
          obtain rfl := ha
          exact Or.inl ⟨_, Set.mem_insert _ _, fun hmem => hmem.2 rfl⟩
      | _ => cases ha
  | _ => cases ha

end Rules

end Registry

end Qmedia.Library
