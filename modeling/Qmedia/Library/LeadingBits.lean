import Mathlib.Data.BitVec

/-!
# Words that share their leading bits

Two words of one width share their leading `n` bits if they are the same once shifted
right past the others. Sharing leading bits is an equivalence relation, and sharing more
of them implies sharing fewer.
-/

set_option autoImplicit false

namespace Qmedia.Library

variable {w : ℕ}

/-- The leading `n` bits of `a` and `b` are the same. -/
def SameLeading (n : ℕ) (a b : BitVec w) : Prop := a >>> (w - n) = b >>> (w - n)

/-- The shifted words are compared. -/
instance (n : ℕ) (a b : BitVec w) : Decidable (SameLeading n a b) := by
  unfold SameLeading
  infer_instance

/-- Bit by bit. -/
theorem sameLeading_iff (n : ℕ) (a b : BitVec w) :
    SameLeading n a b ↔ ∀ i, w - n ≤ i → a.getLsbD i = b.getLsbD i := by
  unfold SameLeading
  constructor
  · intro h i hi
    have hbit := congrArg (fun c => c.getLsbD (i - (w - n))) h
    simp only [BitVec.getLsbD_ushiftRight] at hbit
    rwa [Nat.add_sub_cancel' hi] at hbit
  · intro h
    apply BitVec.eq_of_getLsbD_eq
    intro i _
    rw [BitVec.getLsbD_ushiftRight, BitVec.getLsbD_ushiftRight]
    exact h _ (Nat.le_add_right _ _)

/-- Agreement is symmetric. -/
theorem SameLeading.symm {n : ℕ} {a b : BitVec w} (h : SameLeading n a b) : SameLeading n b a :=
  Eq.symm h

/-- Agreement is transitive. -/
theorem SameLeading.trans {n : ℕ} {a b c : BitVec w} (h : SameLeading n a b)
    (h' : SameLeading n b c) : SameLeading n a c :=
  Eq.trans h h'

/-- Agreement in more bits is agreement in fewer. -/
theorem SameLeading.mono {m n : ℕ} {a b : BitVec w} (h : SameLeading n a b) (hmn : m ≤ n) :
    SameLeading m a b := by
  rw [sameLeading_iff] at *
  intro i hi
  exact h i (by omega)

end Qmedia.Library
