import Mathlib.Data.List.Nodup
import Mathlib.Data.BitVec
import Qmedia.Library.MachineRun

/-!
# Two-level counters

A counter of two words. A tick either starts a new group, which moves the first word
on and sets the second to zero, or counts inside the group, which moves the second
word on. `tick` is the unbounded counter, whose values are positions in a sequence of
groups; `wrappedTick` is the same on machine words and `wrap g` maps the values of one
to those of the other.

Positions never repeat. Their wrapped images do not repeat either as long as the first
word does not come round, exactly if no group outgrows the second word
(`nodup_wrap_iff`). Two counters that start from different words keep apart exactly if no
group is started by both and none is counted inside by both (`disjoint_wrap_iff`).
-/

set_option autoImplicit false

namespace Qmedia.Library

/-- One tick of the unbounded counter. -/
def tick (p : ℕ × ℕ) (newGroup : Bool) : ℕ × ℕ :=
  if newGroup then (p.1 + 1, 0) else (p.1, p.2 + 1)

variable {a b : ℕ}

/-- One tick of the counter on machine words. -/
def wrappedTick (c : BitVec a × BitVec b) (newGroup : Bool) : BitVec a × BitVec b :=
  if newGroup then (c.1 + 1, 0) else (c.1, c.2 + 1)

/-- The machine words at a position, counted from a first group `g`. -/
def wrap (g : BitVec a) (p : ℕ × ℕ) : BitVec a × BitVec b :=
  (g + BitVec.ofNat a p.1, BitVec.ofNat b p.2)

/-- The values of a counter after each tick. -/
def values {σ : Type*} (f : σ → Bool → σ) (s : σ) (ticks : List Bool) : List σ :=
  outputs (fun s x => (f s x, f s x)) s ticks

section Values

variable {σ : Type*} (f : σ → Bool → σ)

/-- No inputs, no values. -/
@[simp] theorem values_nil (s : σ) : values f s [] = [] := rfl

/-- Each input moves the counter and yields its value. -/
@[simp] theorem values_cons (s : σ) (x : Bool) (xs : List Bool) :
    values f s (x :: xs) = f s x :: values f (f s x) xs := rfl

end Values

/-- The word counter follows the unbounded one. -/
theorem wrappedTick_wrap (g : BitVec a) (p : ℕ × ℕ) (x : Bool) :
    wrappedTick (wrap (b := b) g p) x = wrap g (tick p x) := by
  unfold wrappedTick wrap tick
  cases x with
  | true =>
      simp only [if_true, Prod.mk.injEq, and_true, BitVec.ofNat_add, BitVec.ofNat_eq_ofNat]
      exact BitVec.add_assoc g _ _
  | false => simp [BitVec.ofNat_add]

/-- A wrapping counter takes the values of the unbounded one, wrapped. -/
theorem values_wrappedTick (g : BitVec a) (p : ℕ × ℕ) (xs : List Bool) :
    values wrappedTick (wrap (b := b) g p) xs = (values tick p xs).map (wrap g) := by
  induction xs generalizing p with
  | nil => rfl
  | cons x xs ih => rw [values_cons, values_cons, List.map_cons, wrappedTick_wrap, ih]

/-! ## Positions -/

/-- The order in which positions are visited. -/
def Before (p q : ℕ × ℕ) : Prop := p.1 < q.1 ∨ (p.1 = q.1 ∧ p.2 < q.2)

/-- What comes before is different. -/
theorem Before.ne {p q : ℕ × ℕ} (h : Before p q) : p ≠ q := by
  rintro rfl
  unfold Before at h
  omega

/-- A tick moves the counter on. -/
theorem before_tick (p : ℕ × ℕ) (x : Bool) : Before p (tick p x) := by
  unfold Before tick
  cases x with
  | true => left; simp
  | false => right; simp

/-- Coming before is transitive. -/
theorem Before.trans {p q r : ℕ × ℕ} (hpq : Before p q) (hqr : Before q r) : Before p r := by
  unfold Before at *
  omega

/-- Every value comes after the start. -/
theorem before_of_mem_values {p q : ℕ × ℕ} {xs : List Bool} (hq : q ∈ values tick p xs) :
    Before p q := by
  induction xs generalizing p with
  | nil => cases hq
  | cons x xs ih =>
      rcases List.mem_cons.mp hq with rfl | hq
      · exact before_tick p x
      · exact (before_tick p x).trans (ih hq)

/-- The values of the unbounded counter are in increasing order. -/
theorem pairwise_before_values (p : ℕ × ℕ) (xs : List Bool) :
    (values tick p xs).Pairwise Before := by
  induction xs generalizing p with
  | nil => exact List.Pairwise.nil
  | cons x xs ih => exact List.Pairwise.cons (fun q hq => before_of_mem_values hq) (ih _)

/-- The unbounded counter repeats no value. -/
theorem nodup_values (p : ℕ × ℕ) (xs : List Bool) : (values tick p xs).Nodup :=
  (pairwise_before_values p xs).imp fun h => h.ne

/-- The group of a value is at most the number of groups started. -/
theorem fst_le_of_mem_values {p q : ℕ × ℕ} {xs : List Bool} (hq : q ∈ values tick p xs) :
    q.1 ≤ p.1 + xs.count true := by
  induction xs generalizing p with
  | nil => cases hq
  | cons x xs ih =>
      have hx : (tick p x).1 + xs.count true = p.1 + (x :: xs).count true := by
        cases x with
        | true => simp only [tick, if_true, List.count_cons_self]; omega
        | false => simp [tick]
      rw [← hx]
      rcases List.mem_cons.mp hq with rfl | hq
      · exact Nat.le_add_right _ _
      · exact ih hq

/-- A group is visited from its start, or from where the counter stood, without gaps. -/
theorem mem_values_of_le {p : ℕ × ℕ} {s r r' : ℕ} {xs : List Bool}
    (h : (s, r) ∈ values tick p xs) (hle : r' ≤ r) (hstart : p.1 < s ∨ p.2 < r') :
    (s, r') ∈ values tick p xs := by
  induction xs generalizing p with
  | nil => cases h
  | cons x xs ih =>
      rw [values_cons, List.mem_cons] at h ⊢
      by_cases heq : (s, r') = tick p x
      · exact Or.inl heq
      · right
        have hx := before_tick p x
        rcases h with h | h
        · -- the first value is the only one with this group so far
          exfalso
          unfold tick at h heq
          cases x with
          | true =>
              obtain ⟨rfl, rfl⟩ := Prod.mk.inj h
              exact heq (by rw [Nat.le_zero.mp hle, if_pos rfl])
          | false =>
              obtain ⟨rfl, rfl⟩ := Prod.mk.inj h
              have hr : r' = p.2 + 1 := by omega
              exact heq (by rw [hr]; rfl)
        · refine ih h ?_
          have hafter := before_of_mem_values h
          unfold Before tick at *
          cases x with
          | true =>
              simp only [if_true, Prod.mk.injEq, not_and] at *
              omega
          | false =>
              simp only [Bool.false_eq_true, if_false, Prod.mk.injEq, not_and] at *
              omega

/-- Every group that was started has its first position. -/
theorem mem_values_start {p : ℕ × ℕ} {s : ℕ} {xs : List Bool} (hlow : p.1 < s)
    (hhigh : s ≤ p.1 + xs.count true) : (s, 0) ∈ values tick p xs := by
  induction xs generalizing p with
  | nil =>
      rw [List.count_nil] at hhigh
      omega
  | cons x xs ih =>
      rw [values_cons, List.mem_cons]
      cases x with
      | true =>
          rw [List.count_cons_self] at hhigh
          by_cases hs : s = p.1 + 1
          · left
            rw [hs]
            rfl
          · right
            exact ih (by show p.1 + 1 < s; omega) (by show s ≤ p.1 + 1 + _; omega)
      | false =>
          rw [List.count_cons_of_ne (by decide)] at hhigh
          right
          exact ih hlow hhigh

/-- Counting inside a group for `n + 1` ticks reaches the position `n + 1` further on. -/
theorem mem_values_replicate (s r n : ℕ) :
    (s, r + n + 1) ∈ values tick (s, r) (List.replicate (n + 1) false) := by
  induction n generalizing r with
  | zero => exact List.mem_singleton.mpr rfl
  | succ n ih =>
      rw [List.replicate_succ, values_cons, List.mem_cons]
      right
      have h := ih (r + 1)
      rwa [show r + 1 + n + 1 = r + (n + 1) + 1 by omega] at h

/-! ## Wrapping -/

/-- A group fits the second word. The group the counter starts in has no value zero,
so one more value fits there. -/
def FitsWord (b : ℕ) (p : ℕ × ℕ) : Prop :=
  if p.1 = 0 then p.2 ≤ 2 ^ b else p.2 < 2 ^ b

/-- Both cases are comparisons. -/
instance (b : ℕ) (p : ℕ × ℕ) : Decidable (FitsWord b p) := by
  unfold FitsWord
  infer_instance

/-- Two words are equal if the numbers are, modulo the number of words. -/
theorem ofNat_eq_ofNat_iff (w m n : ℕ) :
    BitVec.ofNat w m = BitVec.ofNat w n ↔ m % 2 ^ w = n % 2 ^ w := by
  rw [← BitVec.toNat_inj, BitVec.toNat_ofNat, BitVec.toNat_ofNat]

/-- While the groups fit, wrapped values coincide if the groups are equal and the objects are,
modulo the number of words. -/
theorem wrap_eq_wrap_iff (g : BitVec a) (p q : ℕ × ℕ) (hp : p.1 < 2 ^ a) (hq : q.1 < 2 ^ a) :
    (wrap g p : BitVec a × BitVec b) = wrap g q ↔ p.1 = q.1 ∧ p.2 % 2 ^ b = q.2 % 2 ^ b := by
  unfold wrap
  rw [Prod.mk.injEq, BitVec.add_right_inj, ofNat_eq_ofNat_iff, ofNat_eq_ofNat_iff,
    Nat.mod_eq_of_lt hp, Nat.mod_eq_of_lt hq]

/-- Two values below the word size, or both from one on and up to it, that agree
modulo the word size are equal. -/
theorem eq_of_fits {s m n w : ℕ} (hm : FitsWord w (s, m)) (hn : FitsWord w (s, n))
    (hm0 : s = 0 → 0 < m) (hn0 : s = 0 → 0 < n) (h : m % 2 ^ w = n % 2 ^ w) : m = n := by
  unfold FitsWord at hm hn
  have hself := Nat.mod_self (2 ^ w)
  by_cases hs : s = 0
  · simp only [hs, if_true] at hm hn hm0 hn0
    rcases Nat.lt_or_eq_of_le hm with hm' | rfl
    · rcases Nat.lt_or_eq_of_le hn with hn' | rfl
      · rwa [Nat.mod_eq_of_lt hm', Nat.mod_eq_of_lt hn'] at h
      · rw [Nat.mod_eq_of_lt hm', hself] at h
        exact absurd h (Nat.pos_iff_ne_zero.mp (hm0 trivial))
    · rcases Nat.lt_or_eq_of_le hn with hn' | rfl
      · rw [Nat.mod_eq_of_lt hn', hself] at h
        exact absurd h.symm (Nat.pos_iff_ne_zero.mp (hn0 trivial))
      · rfl
  · simp only [hs, if_false] at hm hn
    rwa [Nat.mod_eq_of_lt hm, Nat.mod_eq_of_lt hn] at h

/-- **No repetition.** As long as the first word does not come round, the words of a
fresh counter are pairwise different exactly if every group fits the second word. -/
theorem nodup_wrap_iff (g : BitVec a) (xs : List Bool) (hxs : xs.count true < 2 ^ a) :
    ((values tick (0, 0) xs).map (wrap g : ℕ × ℕ → BitVec a × BitVec b)).Nodup ↔
      ∀ p ∈ values tick (0, 0) xs, FitsWord b p := by
  have hfst (p : ℕ × ℕ) (hp : p ∈ values tick (0, 0) xs) : p.1 < 2 ^ a := by
    have := fst_le_of_mem_values hp
    omega
  have hsnd (p : ℕ × ℕ) (hp : p ∈ values tick (0, 0) xs) (h0 : p.1 = 0) : 0 < p.2 := by
    have := before_of_mem_values hp
    unfold Before at this
    omega
  rw [List.nodup_map_iff_inj_on (nodup_values (0, 0) xs)]
  constructor
  · intro hinj p hp
    by_contra hfit
    -- the value one word size earlier is in the same group and has the same words
    have hlow : 2 ^ b ≤ p.2 ∧ (p.1 = 0 → 2 ^ b < p.2) := by
      unfold FitsWord at hfit
      split at hfit <;> omega
    have hpos : 0 < 2 ^ b := Nat.two_pow_pos b
    have hmem : (p.1, p.2 - 2 ^ b) ∈ values tick (0, 0) xs :=
      mem_values_of_le (r := p.2) hp (Nat.sub_le _ _) (by show 0 < p.1 ∨ 0 < p.2 - 2 ^ b; omega)
    have hmod : p.2 % 2 ^ b = (p.2 - 2 ^ b) % 2 ^ b := Nat.mod_eq_sub_mod hlow.1
    have heq := hinj p hp _ hmem
      ((wrap_eq_wrap_iff g p (p.1, p.2 - 2 ^ b) (hfst p hp) (hfst p hp)).mpr ⟨rfl, hmod⟩)
    have := congrArg Prod.snd heq
    simp only at this
    omega
  · intro hfit p hp q hq heq
    obtain ⟨h1, h2⟩ := (wrap_eq_wrap_iff g p q (hfst p hp) (hfst q hq)).mp heq
    have hqfit : FitsWord b (p.1, q.2) := by
      rw [h1]
      exact hfit q hq
    refine Prod.ext h1 (eq_of_fits (hfit p hp) hqfit (hsnd p hp) (fun h => ?_) h2)
    exact hsnd q hq (h1.symm.trans h)

/-- Once the first word comes round, the words repeat. -/
theorem not_nodup_wrap (g : BitVec a) (xs : List Bool) (hxs : 2 ^ a < xs.count true) :
    ¬ ((values tick (0, 0) xs).map (wrap g : ℕ × ℕ → BitVec a × BitVec b)).Nodup := by
  intro hnodup
  rw [List.nodup_map_iff_inj_on (nodup_values (0, 0) xs)] at hnodup
  have hpos := Nat.two_pow_pos a
  have hfirst : (1, 0) ∈ values tick (0, 0) xs :=
    mem_values_start Nat.one_pos (by show 1 ≤ 0 + xs.count true; omega)
  have hagain : (2 ^ a + 1, 0) ∈ values tick (0, 0) xs :=
    mem_values_start (Nat.succ_pos _) (by show 2 ^ a + 1 ≤ 0 + xs.count true; omega)
  have hwrap : (wrap g (1, 0) : BitVec a × BitVec b) = wrap g (2 ^ a + 1, 0) := by
    unfold wrap
    rw [Prod.mk.injEq, BitVec.add_right_inj, ofNat_eq_ofNat_iff, Nat.add_mod_left]
    exact ⟨rfl, rfl⟩
  have heq := congrArg Prod.fst (hnodup _ hfirst _ hagain hwrap)
  simp only at heq
  omega

/-- The first word reaches every value at the start of some group. -/
theorem exists_mem_values_start (c : BitVec a × BitVec b) (g : BitVec a) :
    ∃ n, (g, 0) ∈ values wrappedTick c (List.replicate (n + 1) true) := by
  have hreach (n : ℕ) (c : BitVec a × BitVec b) :
      (c.1 + BitVec.ofNat a (n + 1), 0) ∈
        values wrappedTick c (List.replicate (n + 1) true) := by
    induction n generalizing c with
    | zero => exact List.mem_singleton.mpr rfl
    | succ n ih =>
        rw [List.replicate_succ, values_cons, List.mem_cons]
        right
        have h := ih (c.1 + 1, 0)
        simp only at h
        rwa [BitVec.add_assoc, show (1 : BitVec a) = BitVec.ofNat a 1 from rfl,
          ← BitVec.ofNat_add, Nat.add_comm 1 (n + 1)] at h
  refine ⟨(g - c.1 - 1).toNat, ?_⟩
  have h := hreach (g - c.1 - 1).toNat c
  have hone : BitVec.ofNat a ((g - c.1 - 1).toNat + 1) = g - c.1 := by
    rw [BitVec.ofNat_add, BitVec.ofNat_toNat, BitVec.setWidth_eq]
    exact BitVec.sub_add_cancel _ _
  rwa [hone, BitVec.add_comm, BitVec.sub_add_cancel] at h

/-! ## Two counters -/

/-- A counter that begins in the group `g` starts the group `s`. -/
def StartsGroup (g : ℕ) (xs : List Bool) (s : ℕ) : Prop := g < s ∧ s ≤ g + xs.count true

/-- A counter that begins in the group `g` counts inside the group `s`. -/
def CountsInside (g : ℕ) (xs : List Bool) (s : ℕ) : Prop :=
  g ≤ s ∧ (s - g, 1) ∈ values tick (0, 0) xs

/-- The start of a group is taken exactly if the run starts that many groups. -/
theorem mem_values_zero_iff (r : ℕ) (xs : List Bool) :
    (r, 0) ∈ values tick (0, 0) xs ↔ 0 < r ∧ r ≤ xs.count true := by
  constructor
  · intro h
    have hafter := before_of_mem_values h
    have hle := fst_le_of_mem_values h
    unfold Before at hafter
    simp only at hafter hle
    omega
  · rintro ⟨hpos, hle⟩
    exact mem_values_start hpos (by simpa using hle)

/-- Starting a group, told of a counter that begins in the group 0. -/
theorem startsGroup_iff (g : ℕ) (xs : List Bool) (s : ℕ) :
    StartsGroup g xs s ↔ g ≤ s ∧ (s - g, 0) ∈ values tick (0, 0) xs := by
  unfold StartsGroup
  rw [mem_values_zero_iff]
  omega

/-- Words that do not come round are equal exactly if the positions are. -/
theorem wrap_eq_wrap_iff_of_lt (g g' : BitVec a) (p q : ℕ × ℕ) (hp : g.toNat + p.1 < 2 ^ a)
    (hq : g'.toNat + q.1 < 2 ^ a) (hp2 : p.2 < 2 ^ b) (hq2 : q.2 < 2 ^ b) :
    (wrap g p : BitVec a × BitVec b) = wrap g' q ↔ g.toNat + p.1 = g'.toNat + q.1 ∧ p.2 = q.2 := by
  unfold wrap
  rw [Prod.mk.injEq, ofNat_eq_ofNat_iff, Nat.mod_eq_of_lt hp2, Nat.mod_eq_of_lt hq2,
    ← BitVec.toNat_inj, BitVec.toNat_add, BitVec.toNat_add, BitVec.toNat_ofNat, BitVec.toNat_ofNat,
    Nat.add_mod_mod, Nat.add_mod_mod, Nat.mod_eq_of_lt hp, Nat.mod_eq_of_lt hq]

/-- **Two counters.** As long as neither counter outgrows its words, two counters have no
value in common exactly if no group is started by both and no group is counted inside by
both. -/
theorem disjoint_wrap_iff (g g' : BitVec a) (xs ys : List Bool)
    (hxs : g.toNat + xs.count true < 2 ^ a) (hys : g'.toNat + ys.count true < 2 ^ a)
    (hxfit : ∀ p ∈ values tick (0, 0) xs, p.2 < 2 ^ b)
    (hyfit : ∀ p ∈ values tick (0, 0) ys, p.2 < 2 ^ b) :
    ((values tick (0, 0) xs).map (wrap g : ℕ × ℕ → BitVec a × BitVec b)).Disjoint
        ((values tick (0, 0) ys).map (wrap g')) ↔
      ∀ s, ¬ (StartsGroup g.toNat xs s ∧ StartsGroup g'.toNat ys s) ∧
        ¬ (CountsInside g.toNat xs s ∧ CountsInside g'.toNat ys s) := by
  have heq (p q : ℕ × ℕ) (hp : p ∈ values tick (0, 0) xs) (hq : q ∈ values tick (0, 0) ys) :
      (wrap g p : BitVec a × BitVec b) = wrap g' q ↔
        g.toNat + p.1 = g'.toNat + q.1 ∧ p.2 = q.2 := by
    have hp1 := fst_le_of_mem_values hp
    have hq1 := fst_le_of_mem_values hq
    exact wrap_eq_wrap_iff_of_lt g g' p q (by omega) (by omega) (hxfit p hp) (hyfit q hq)
  have hshare (s r : ℕ) (hg : g.toNat ≤ s) (hg' : g'.toNat ≤ s)
      (hp : (s - g.toNat, r) ∈ values tick (0, 0) xs)
      (hq : (s - g'.toNat, r) ∈ values tick (0, 0) ys)
      (hdisjoint : ((values tick (0, 0) xs).map (wrap g : ℕ × ℕ → BitVec a × BitVec b)).Disjoint
        ((values tick (0, 0) ys).map (wrap g'))) : False := by
    refine hdisjoint (List.mem_map_of_mem hp) ?_
    rw [(heq _ _ hp hq).mpr ⟨by show g.toNat + (s - g.toNat) = g'.toNat + (s - g'.toNat); omega,
      rfl⟩]
    exact List.mem_map_of_mem hq
  constructor
  · intro hdisjoint s
    constructor
    · rw [startsGroup_iff, startsGroup_iff]
      rintro ⟨⟨hg, hp⟩, hg', hq⟩
      exact hshare s 0 hg hg' hp hq hdisjoint
    · rintro ⟨⟨hg, hp⟩, hg', hq⟩
      exact hshare s 1 hg hg' hp hq hdisjoint
  · intro hapart c hc hc'
    obtain ⟨⟨s, r⟩, hp, rfl⟩ := List.mem_map.mp hc
    obtain ⟨⟨s', r'⟩, hq, hwrap⟩ := List.mem_map.mp hc'
    obtain ⟨hgroup, hinner⟩ := (heq (s, r) (s', r') hp hq).mp hwrap.symm
    simp only at hgroup hinner
    subst hinner
    obtain ⟨hstarts, hcounts⟩ := hapart (g.toNat + s)
    have hs : g.toNat + s - g.toNat = s := by omega
    have hs' : g.toNat + s - g'.toNat = s' := by omega
    by_cases hr : r = 0
    · subst hr
      apply hstarts
      rw [startsGroup_iff, startsGroup_iff, hs, hs']
      exact ⟨⟨by omega, hp⟩, by omega, hq⟩
    · -- both counters have passed the first value inside the group
      apply hcounts
      unfold CountsInside
      rw [hs, hs']
      exact ⟨⟨by omega, mem_values_of_le hp (by omega) (Or.inr Nat.one_pos)⟩, by omega,
        mem_values_of_le hq (by omega) (Or.inr Nat.one_pos)⟩

end Qmedia.Library
