import Mathlib.Data.List.Basic
import Mathlib.Logic.Function.Basic

/-!
# First writer wins

A partial map `K → Option V` in which a key, once written, keeps its value: `latch`
writes a key only when it is free. The value a key has after a list of writes is
the one it had before, or else the one of the first write to it
(`latchAll_apply`), so later writes to a taken key change nothing and the order of
writes to different keys does not matter.

`Refines R m f` says that a concrete map `m` holds, key by key, a value related by `R`
to the one of `f`; `Refines.latch` is the step rule for a concrete operation that
changes one key. `Extends built m m' ws` says the same of two concrete maps: the second is
the first with values built for the writes, and extensions compose (`Extends.trans`).
-/

set_option autoImplicit false

namespace Qmedia.Library

variable {K V : Type*} [DecidableEq K]

/-- Write `v` at `k` unless `k` is taken. -/
def latch (f : K → Option V) (k : K) (v : V) : K → Option V :=
  fun k' => if k' = k then (f k).or (some v) else f k'

/-- Apply a list of writes from left to right. -/
def latchAll (f : K → Option V) (ws : List (K × V)) : K → Option V :=
  ws.foldl (fun f w => latch f w.1 w.2) f

/-- At its own key a write lasts if the key was free. -/
@[simp] theorem latch_self (f : K → Option V) (k : K) (v : V) :
    latch f k v k = (f k).or (some v) := by
  simp [latch]

/-- Other keys are not touched. -/
theorem latch_of_ne (f : K → Option V) {k k' : K} (v : V) (h : k' ≠ k) :
    latch f k v k' = f k' := by
  simp [latch, h]

/-- A write to a taken key is lost. -/
theorem latch_eq_self (f : K → Option V) (k : K) (v : V) (h : (f k).isSome) :
    latch f k v = f := by
  funext k'
  by_cases hk : k' = k
  · subst hk
    obtain ⟨w, hw⟩ := Option.isSome_iff_exists.mp h
    simp [hw]
  · exact latch_of_ne f v hk

/-- Writes to different keys commute. -/
theorem latch_comm (f : K → Option V) {k k' : K} (v v' : V) (h : k' ≠ k) :
    latch (latch f k v) k' v' = latch (latch f k' v') k v := by
  funext j
  unfold latch
  by_cases hj : j = k
  · subst hj
    simp [Ne.symm h]
  · by_cases hj' : j = k' <;> simp [hj, hj', h]

/-- No writes change nothing. -/
@[simp] theorem latchAll_nil (f : K → Option V) : latchAll f [] = f := rfl

/-- Writes are taken in order. -/
@[simp] theorem latchAll_cons (f : K → Option V) (w : K × V) (ws : List (K × V)) :
    latchAll f (w :: ws) = latchAll (latch f w.1 w.2) ws := rfl

/-- Two batches of writes are taken one after the other. -/
theorem latchAll_append (f : K → Option V) (ws ws' : List (K × V)) :
    latchAll f (ws ++ ws') = latchAll (latchAll f ws) ws' :=
  List.foldl_append

/-- **First writer wins.** -/
theorem latchAll_apply (f : K → Option V) (ws : List (K × V)) (k : K) :
    latchAll f ws k = (f k).or ((ws.find? (fun w => w.1 = k)).map Prod.snd) := by
  induction ws generalizing f with
  | nil => simp
  | cons w ws ih =>
      rw [latchAll_cons, ih]
      by_cases hk : w.1 = k
      · subst hk
        cases h : f w.1 <;> simp [h]
      · rw [latch_of_ne f w.2 (Ne.symm hk)]
        simp [hk]

/-- A key is taken in the end exactly if it was taken before or written. -/
theorem latchAll_isSome (f : K → Option V) (ws : List (K × V)) (k : K) :
    (latchAll f ws k).isSome ↔ (f k).isSome ∨ ∃ w ∈ ws, w.1 = k := by
  rw [latchAll_apply]
  cases h : f k <;> simp

/-! ## Concrete maps that refine a first-writer-wins map -/

section Refinement

variable {A : Type*} {R : K → A → V → Prop} {m m' : K → Option A} {f : K → Option V}

omit [DecidableEq K] in
/-- `m` has a value exactly where `f` has one, and a related one. -/
def Refines (R : K → A → V → Prop) (m : K → Option A) (f : K → Option V) : Prop :=
  ∀ k, Option.Rel (R k) (m k) (f k)

omit [DecidableEq K] in
/-- A map refines its image under a function that gives related values. -/
theorem refines_map (m : K → Option A) (g : A → V) (hg : ∀ k a, R k a (g a)) :
    Refines R m fun k => (m k).map g := by
  intro k
  show Option.Rel (R k) (m k) ((m k).map g)
  cases m k with
  | none => exact Option.Rel.none
  | some a => exact Option.Rel.some (hg k a)

omit [DecidableEq K] in
/-- What the concrete map has, the abstract one has, and they are related. -/
theorem Refines.exists_of_some (h : Refines R m f) {k : K} {a : A} (hm : m k = some a) :
    ∃ v, f k = some v ∧ R k a v := by
  have hk := h k
  rw [hm] at hk
  cases hf : f k with
  | none =>
      rw [hf] at hk
      cases hk
  | some v =>
      rw [hf] at hk
      cases hk with
      | some hr => exact ⟨v, rfl, hr⟩

omit [DecidableEq K] in
/-- Both maps have the same keys. -/
theorem Refines.isSome_iff (h : Refines R m f) (k : K) : (m k).isSome ↔ (f k).isSome := by
  have hk := h k
  generalize m k = a at hk
  generalize f k = v at hk
  cases hk with
  | none => exact Iff.rfl
  | some _ => exact Iff.rfl

omit [DecidableEq K] in
/-- What is free in the concrete map is free in the abstract one. -/
theorem Refines.eq_none (h : Refines R m f) {k : K} (hm : m k = none) : f k = none := by
  have hk := h k
  rw [hm] at hk
  cases hf : f k with
  | none => rfl
  | some v =>
      rw [hf] at hk
      cases hk

/-- **Step rule.** A change of one key refines a write of that key if the new value is
related to the one the key keeps, or to the one written when the key was free. -/
theorem Refines.latch (h : Refines R m f) {k : K} {a : A} {v : V} (hm : m' k = some a)
    (hne : ∀ k', k' ≠ k → m' k' = m k') (hfree : m k = none → R k a v)
    (htaken : ∀ b w, m k = some b → f k = some w → R k b w → R k a w) :
    Refines R m' (Library.latch f k v) := by
  intro k'
  by_cases hk : k' = k
  · subst hk
    rw [latch_self, hm]
    cases hb : m k' with
    | none =>
        rw [h.eq_none hb]
        exact Option.Rel.some (hfree hb)
    | some b =>
        obtain ⟨w, hw, hr⟩ := h.exists_of_some hb
        rw [hw]
        exact Option.Rel.some (htaken b w hb hw hr)
  · rw [latch_of_ne f v hk, hne k' hk]
    exact h k'

end Refinement

/-! ## Maps extended by writes -/

section Extension

variable {A S : Type*} {built : K → S → A → Prop} {m m' m'' : K → Option A}
  {ws ws' : List (K × S)}

/-- What the first write to a key is given. -/
def firstWrite (ws : List (K × S)) (k : K) : Option S :=
  (ws.find? fun w => w.1 = k).map Prod.snd

/-- The first write of a key is in the first batch, or else in the second. -/
theorem firstWrite_append (ws ws' : List (K × S)) (k : K) :
    firstWrite (ws ++ ws') k = (firstWrite ws k).or (firstWrite ws' k) := by
  unfold firstWrite
  rw [List.find?_append]
  cases ws.find? fun w => w.1 = k with
  | none => simp
  | some w => simp

/-- A key has a first write if it is written at all. -/
theorem firstWrite_isSome (ws : List (K × S)) (k : K) :
    (firstWrite ws k).isSome ↔ ∃ w ∈ ws, w.1 = k := by
  simp [firstWrite, List.find?_isSome]

/-- `m'` is `m` extended by the writes, first writer wins: what was there is kept, a free
key that is written holds what is built for its first write, and the others stay free. -/
structure Extends (built : K → S → A → Prop) (m m' : K → Option A) (ws : List (K × S)) :
    Prop where
  kept : ∀ k a, m k = some a → m' k = some a
  written : ∀ k s, m k = none → firstWrite ws k = some s → ∃ a, m' k = some a ∧ built k s a
  free : ∀ k, m k = none → firstWrite ws k = none → m' k = none

/-- A map extends itself by no writes. -/
theorem Extends.refl (built : K → S → A → Prop) (m : K → Option A) : Extends built m m [] where
  kept _ _ h := h
  written _ _ _ h := by
    simp [firstWrite] at h
  free _ h _ := h

/-- **Composition.** -/
theorem Extends.trans (h : Extends built m m' ws) (h' : Extends built m' m'' ws') :
    Extends built m m'' (ws ++ ws') where
  kept k a hk := h'.kept k a (h.kept k a hk)
  written k s hk hs := by
    rw [firstWrite_append] at hs
    cases hw : firstWrite ws k with
    | some t =>
        rw [hw, Option.some_or] at hs
        obtain ⟨a, ha, hbuilt⟩ := h.written k t hk hw
        obtain rfl := Option.some.inj hs
        exact ⟨a, h'.kept k a ha, hbuilt⟩
    | none =>
        rw [hw, Option.none_or] at hs
        exact h'.written k s (h.free k hk hw) hs
  free k hk hs := by
    rw [firstWrite_append, Option.or_eq_none_iff] at hs
    exact h'.free k (h.free k hk hs.1) hs.2

/-- A write to a taken key. -/
theorem Extends.of_taken {k : K} {s : S} (htaken : (m k).isSome) :
    Extends built m m [(k, s)] where
  kept _ _ h := h
  written k' _ hk' hs := by
    have hne : k ≠ k' := by
      rintro rfl
      simp [hk'] at htaken
    simp [firstWrite, hne] at hs
  free _ h _ := h

/-- A write to a free key. -/
theorem Extends.of_free {k : K} {s : S} {a : A} (hfree : m k = none) (hm : m' k = some a)
    (hne : ∀ k', k' ≠ k → m' k' = m k') (hbuilt : built k s a) :
    Extends built m m' [(k, s)] where
  kept k' b hb := by
    have hk : k' ≠ k := by
      rintro rfl
      simp [hfree] at hb
    rw [hne k' hk, hb]
  written k' t hk' ht := by
    by_cases hk : k = k'
    · subst hk
      have heq : s = t := by simpa [firstWrite] using ht
      exact ⟨a, hm, heq ▸ hbuilt⟩
    · simp [firstWrite, hk] at ht
  free k' hk' ht := by
    have hk : k ≠ k' := by
      rintro rfl
      simp [firstWrite] at ht
    rw [hne k' (Ne.symm hk), hk']

/-- The first write is one of the writes. -/
theorem mem_of_firstWrite {ws : List (K × S)} {k : K} {s : S} (h : firstWrite ws k = some s) :
    (k, s) ∈ ws := by
  unfold firstWrite at h
  obtain ⟨w, hw, rfl⟩ := Option.map_eq_some_iff.mp h
  have hk : w.1 = k := by simpa using List.find?_some hw
  rw [← hk]
  exact List.mem_of_find?_eq_some hw

/-- What is there afterwards was there before, or was built for a write. -/
theorem Extends.kept_or_built (h : Extends built m m' ws) {k : K} {a : A} (hk : m' k = some a) :
    m k = some a ∨ ∃ s, (k, s) ∈ ws ∧ built k s a := by
  cases hm : m k with
  | some b => exact Or.inl (by rw [← hk, h.kept k b hm])
  | none =>
      right
      cases hw : firstWrite ws k with
      | none =>
          rw [h.free k hm hw] at hk
          cases hk
      | some s =>
          obtain ⟨b, hb, hbuilt⟩ := h.written k s hm hw
          rw [hb] at hk
          obtain rfl := Option.some.inj hk
          exact ⟨s, mem_of_firstWrite hw, hbuilt⟩

/-- A written key is taken afterwards. -/
theorem Extends.isSome_of_mem (h : Extends built m m' ws) {w : K × S} (hw : w ∈ ws) :
    (m' w.1).isSome := by
  cases hm : m w.1 with
  | some a =>
      rw [h.kept w.1 a hm]
      rfl
  | none =>
      obtain ⟨s, hs⟩ := Option.isSome_iff_exists.mp ((firstWrite_isSome ws w.1).mpr ⟨w, hw, rfl⟩)
      obtain ⟨a, ha, -⟩ := h.written w.1 s hm hs
      rw [ha]
      rfl

/-- Two extensions of one map by the same writes hold alike values. -/
theorem Extends.rel {R : A → A → Prop} (h : Extends built m m' ws) (h' : Extends built m m'' ws)
    (hrefl : ∀ a, R a a) (hbuilt : ∀ k s a b, built k s a → built k s b → R a b) (k : K) :
    Option.Rel R (m' k) (m'' k) := by
  cases hm : m k with
  | some a =>
      rw [h.kept k a hm, h'.kept k a hm]
      exact Option.Rel.some (hrefl a)
  | none =>
      cases hw : firstWrite ws k with
      | none =>
          rw [h.free k hm hw, h'.free k hm hw]
          exact Option.Rel.none
      | some s =>
          obtain ⟨a, ha, hsa⟩ := h.written k s hm hw
          obtain ⟨b, hb, hsb⟩ := h'.written k s hm hw
          rw [ha, hb]
          exact Option.Rel.some (hbuilt k s a b hsa hsb)

end Extension

end Qmedia.Library
