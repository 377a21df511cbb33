import Mathlib.Data.List.Induction
import Qmedia.Library.MachineRun

/-!
# A slot of a machine

A machine keeps at most one inner machine in a slot. Its inputs feed the inner machine, clear
the slot or do neither; one that does neither may fill an empty slot with a new inner machine.
If every step does to the slot what its input says (`KeepsSlot`), then between two inputs that
clear it the machine shows what one inner machine gives, from the step that put it there
(`KeepsSlot.run_empty`). What is in the slot at the end of a run is an inner machine that one
of the steps put there and that has been fed since (`KeepsSlot.run_last`).
-/

set_option autoImplicit false

namespace Qmedia.Library

variable {σ δ ι α ω : Type*}

/-- What an input is to the slot. -/
inductive SlotRole (α : Type*) where
  | feed (a : α)
  | clear
  | other

/-- What an input feeds. -/
def SlotRole.fed : SlotRole α → Option α
  | .feed a => some a
  | _ => none

/-- What the inputs of a run feed, in order. -/
def feeds (role : ι → SlotRole α) (xs : List ι) : List α :=
  xs.filterMap fun x => (role x).fed

/-- An input that feeds the slot comes first. -/
theorem feeds_cons_feed {role : ι → SlotRole α} {x : ι} {a : α} (h : role x = .feed a)
    (xs : List ι) : feeds role (x :: xs) = a :: feeds role xs := by
  unfold feeds
  rw [List.filterMap_cons, h]
  rfl

/-- An input that does something else is left out. -/
theorem feeds_cons_other {role : ι → SlotRole α} {x : ι} (h : role x = .other) (xs : List ι) :
    feeds role (x :: xs) = feeds role xs := by
  unfold feeds
  rw [List.filterMap_cons, h]
  rfl

/-- What a run feeds the slot is what its parts feed it. -/
theorem feeds_append (role : ι → SlotRole α) (xs ys : List ι) :
    feeds role (xs ++ ys) = feeds role xs ++ feeds role ys := List.filterMap_append

/-- What a run gives, in order. -/
def produced (step : σ → ι → Option ω × σ) (s : σ) (xs : List ι) : List ω :=
  (outputs step s xs).filterMap id

section Produced

variable {step : σ → ι → Option ω × σ} {s : σ} {x : ι}

/-- An input that produces nothing is left out. -/
theorem produced_cons_none (h : (step s x).1 = none) (xs : List ι) :
    produced step s (x :: xs) = produced step (step s x).2 xs := by
  unfold produced
  rw [outputs_cons, h]
  rfl

/-- A step that gives what a step of another machine gives puts the same in front. -/
theorem produced_cons_congr {τ κ : Type*} {step' : τ → κ → Option ω × τ} {t : τ} {y : κ}
    (h : (step s x).1 = (step' t y).1) {xs : List ι} {ys : List κ}
    (hrest : produced step (step s x).2 xs = produced step' (step' t y).2 ys) :
    produced step s (x :: xs) = produced step' t (y :: ys) := by
  unfold produced at *
  rw [outputs_cons, outputs_cons, List.filterMap_cons, List.filterMap_cons, h, hrest]

end Produced

/-- Every step from a state in `I` stays in `I` and does to the slot what its input says:
`inner` is the machine in the slot, and `Opens x d` says that `x` may put `d` there. -/
structure KeepsSlot (step : σ → ι → Option ω × σ) (I : σ → Prop) (slot : σ → Option δ)
    (role : ι → SlotRole α) (inner : δ → α → Option ω × δ) (Opens : ι → δ → Prop) : Prop where
  inv : ∀ s x, I s → I (step s x).2
  feed_empty : ∀ s x a, I s → role x = .feed a → slot s = none →
    (step s x).1 = none ∧ slot (step s x).2 = none
  feed_full : ∀ s x a d, I s → role x = .feed a → slot s = some d →
    (step s x).1 = (inner d a).1 ∧ slot (step s x).2 = some (inner d a).2
  clear : ∀ s x, I s → role x = .clear → (step s x).1 = none ∧ slot (step s x).2 = none
  other_empty : ∀ s x, I s → role x = .other → slot s = none →
    (step s x).1 = none ∧ ∀ d, slot (step s x).2 = some d → Opens x d
  other_full : ∀ s x d, I s → role x = .other → slot s = some d →
    (step s x).1 = none ∧ slot (step s x).2 = some d

namespace KeepsSlot

variable {step : σ → ι → Option ω × σ} {I : σ → Prop} {slot : σ → Option δ}
  {role : ι → SlotRole α} {inner : δ → α → Option ω × δ} {Opens : ι → δ → Prop}

/-- **From a full slot** a run that does not clear it is a run of the inner machine. -/
theorem run_full (h : KeepsSlot step I slot role inner Opens) (xs : List ι)
    (hxs : ∀ x ∈ xs, role x ≠ .clear) (s : σ) (hs : I s) (d : δ) (hfull : slot s = some d) :
    produced step s xs = produced inner d (feeds role xs) ∧
      slot (finalState step s xs) = some (finalState inner d (feeds role xs)) := by
  induction xs generalizing s d with
  | nil => exact ⟨rfl, hfull⟩
  | cons x xs ih =>
      have hrest := ih (fun y hy => hxs y (List.mem_cons_of_mem _ hy)) (step s x).2 (h.inv s x hs)
      cases hrole : role x with
      | feed a =>
          obtain ⟨hout, hslot⟩ := h.feed_full s x a d hs hrole hfull
          obtain ⟨hproduced, hfinal⟩ := hrest _ hslot
          rw [feeds_cons_feed hrole]
          exact ⟨produced_cons_congr hout hproduced, hfinal⟩
      | clear => exact absurd hrole (hxs x (List.mem_cons_self ..))
      | other =>
          obtain ⟨hout, hslot⟩ := h.other_full s x d hs hrole hfull
          obtain ⟨hproduced, hfinal⟩ := hrest d hslot
          rw [feeds_cons_other hrole]
          exact ⟨(produced_cons_none hout xs).trans hproduced, hfinal⟩

/-- **From an empty slot** a run that does not clear it gives nothing and leaves the slot
empty, or one of its inputs puts an inner machine there, and the run is a run of that one. -/
theorem run_empty (h : KeepsSlot step I slot role inner Opens) (xs : List ι)
    (hxs : ∀ x ∈ xs, role x ≠ .clear) (s : σ) (hs : I s) (hempty : slot s = none) :
    (produced step s xs = [] ∧ slot (finalState step s xs) = none) ∨
    ∃ pre x post d, xs = pre ++ x :: post ∧ slot (finalState step s pre) = none ∧
      slot (finalState step s (pre ++ [x])) = some d ∧ Opens x d ∧
      produced step s xs = produced inner d (feeds role post) ∧
      slot (finalState step s xs) = some (finalState inner d (feeds role post)) := by
  induction xs generalizing s with
  | nil => exact Or.inl ⟨rfl, hempty⟩
  | cons x xs ih =>
      have hxs' : ∀ y ∈ xs, role y ≠ .clear := fun y hy => hxs y (List.mem_cons_of_mem _ hy)
      -- the slot stays empty for this step, or is filled by it
      have hstep : (step s x).1 = none ∧ ∀ d, slot (step s x).2 = some d → Opens x d := by
        cases hrole : role x with
        | feed a =>
            obtain ⟨hout, hslot⟩ := h.feed_empty s x a hs hrole hempty
            refine ⟨hout, fun d hd => ?_⟩
            rw [hslot] at hd
            cases hd
        | clear => exact absurd hrole (hxs x (List.mem_cons_self ..))
        | other => exact h.other_empty s x hs hrole hempty
      rw [produced_cons_none hstep.1, finalState_cons]
      cases hslot : slot (step s x).2 with
      | none =>
          rcases ih hxs' (step s x).2 (h.inv s x hs) hslot with
            hnever | ⟨pre, y, post, d, rfl, hpre, hopen, hopens, hrun⟩
          · exact Or.inl hnever
          · exact Or.inr ⟨x :: pre, y, post, d, rfl, hpre, hopen, hopens, hrun⟩
      | some d =>
          exact Or.inr ⟨[], x, xs, d, rfl, hempty, hslot, hstep.2 d hslot,
            h.run_full xs hxs' _ (h.inv s x hs) d hslot⟩

/-- **Whatever is in the slot** after a run from an empty one was put there by one of the
steps, has not been cleared since, and is where the inputs since then have left it. -/
theorem run_last (h : KeepsSlot step I slot role inner Opens) (xs : List ι) (s : σ) (hs : I s)
    (hempty : slot s = none) (d' : δ) (hfull : slot (finalState step s xs) = some d') :
    ∃ pre x post d, xs = pre ++ x :: post ∧ slot (finalState step s pre) = none ∧
      slot (finalState step s (pre ++ [x])) = some d ∧ Opens x d ∧
      (∀ y ∈ post, role y ≠ .clear) ∧ d' = finalState inner d (feeds role post) := by
  induction xs using List.reverseRecOn generalizing d' with
  | nil => exact nomatch hempty.symm.trans hfull
  | append_singleton ys y ih =>
      have hI : I (finalState step s ys) :=
        finalState_invariant step I ys (fun s x _ hs => h.inv s x hs) s hs
      rw [finalState_append] at hfull
      change slot (step (finalState step s ys) y).2 = some d' at hfull
      -- the slot was full before the step, and the step did not clear it
      have hlater (d₁ : δ) (hbefore : slot (finalState step s ys) = some d₁)
          (hy : role y ≠ .clear)
          (hd' : ∀ d post, d₁ = finalState inner d (feeds role post) →
            d' = finalState inner d (feeds role (post ++ [y]))) :
          ∃ pre x post d, ys ++ [y] = pre ++ x :: post ∧ slot (finalState step s pre) = none ∧
            slot (finalState step s (pre ++ [x])) = some d ∧ Opens x d ∧
            (∀ y ∈ post, role y ≠ .clear) ∧ d' = finalState inner d (feeds role post) := by
        obtain ⟨pre, x, post, d, rfl, hpre, hopen, hopens, hpost, hd₁⟩ := ih d₁ hbefore
        refine ⟨pre, x, post ++ [y], d, by simp, hpre, hopen, hopens, ?_, hd' d post hd₁⟩
        intro z hz
        rcases List.mem_append.mp hz with hz | hz
        · exact hpost z hz
        · obtain rfl := List.mem_singleton.mp hz
          exact hy
      cases hrole : role y with
      | feed a =>
          cases hbefore : slot (finalState step s ys) with
          | none => exact nomatch (h.feed_empty _ y a hI hrole hbefore).2.symm.trans hfull
          | some d₁ =>
              have hnext := (h.feed_full _ y a d₁ hI hrole hbefore).2.symm.trans hfull
              refine hlater d₁ hbefore (by rw [hrole]; exact nofun) fun d post hd₁ => ?_
              rw [feeds_append, feeds_cons_feed hrole, finalState_append, ← hd₁]
              exact (Option.some.inj hnext).symm
      | clear => exact nomatch (h.clear _ y hI hrole).2.symm.trans hfull
      | other =>
          cases hbefore : slot (finalState step s ys) with
          | none =>
              refine ⟨ys, y, [], d', rfl, hbefore, ?_, (h.other_empty _ y hI hrole hbefore).2 d' hfull,
                nofun, rfl⟩
              rw [finalState_append]
              exact hfull
          | some d₁ =>
              have hnext := (h.other_full _ y d₁ hI hrole hbefore).2.symm.trans hfull
              refine hlater d₁ hbefore (by rw [hrole]; exact nofun) fun d post hd₁ => ?_
              rw [feeds_append, feeds_cons_other hrole, ← Option.some.inj hnext, hd₁]
              exact congrArg (finalState inner d) (List.append_nil _).symm

end KeepsSlot

end Qmedia.Library
