import Mathlib.Data.BitVec

/-!
# Names and the fields packed into them

A `quicr::Name` is a 128-bit unsigned value. A publication keeps the leading 80
bits of its namespace and packs two counters below them: bits 16 to 47 hold the
32-bit group id and bits 0 to 15 the 16-bit object id. This file has the two
masks of `src/QuicrDelegates.cpp`, the two expressions that build a name from
them, and the field reader `bits` the receiver uses.
-/

set_option autoImplicit false

namespace Qmedia.Model

/-- `quicr::Name`. -/
abbrev Name := BitVec 128

/-- `quicr::bytes` and `sframe::bytes`. -/
abbrev Bytes := List (BitVec 8)

/-- An SFrame key id; the source uses the epoch number as key id. -/
abbrev Epoch := BitVec 64

/-- `sframe::Counter`. -/
abbrev Counter := BitVec 64

/-- `~(~0x0_name << 32) << 16`.
SOURCE: src/QuicrDelegates.cpp:19 -/
def groupIdMask : Name := ~~~(~~~(0x0#128) <<< 32) <<< 16

/-- `~(~0x0_name << 16)`.
SOURCE: src/QuicrDelegates.cpp:20 -/
def objectIdMask : Name := ~~~(~~~(0x0#128) <<< 16)

/-- SOURCE: src/QuicrDelegates.cpp:22 -/
def fixedEpoch : Epoch := 1

/-- SOURCE: src/QuicrDelegates.cpp:23 -/
def quicrSFrameSigBits : ℕ := 80

/-- `name.bits<T>(start, length)` for an unsigned `T` of `w` bits. -/
def bits (w : ℕ) (name : Name) (start length : ℕ) : BitVec w :=
  (name.extractLsb' start length).setWidth w

/-- The name of an object that starts a group: the group id field is replaced and
the object id field cleared.
SOURCE: src/QuicrDelegates.cpp:386-388 -/
def groupStartName (quicrName : Name) (groupId : BitVec 32) : Name :=
  ((0x0#128 ||| groupId.setWidth 128) <<< 16 ||| (quicrName &&& ~~~groupIdMask)) &&&
    ~~~objectIdMask

/-- The name of an object inside a group: both fields are replaced.
SOURCE: src/QuicrDelegates.cpp:396-397 -/
def objectName (quicrName : Name) (groupId : BitVec 32) (objectId : BitVec 16) : Name :=
  (0x0#128 ||| objectId.setWidth 128) |||
    (((0x0#128 ||| groupId.setWidth 128) <<< 16 ||| (quicrName &&& ~~~groupIdMask)) &&&
      ~~~objectIdMask)

/-! ## The masks bit by bit -/

/-- The group id takes bits 16 to 47. -/
theorem getLsbD_groupIdMask (i : ℕ) :
    groupIdMask.getLsbD i = decide (16 ≤ i ∧ i < 48) := by
  have h : groupIdMask = (BitVec.allOnes 32).setWidth 128 <<< 16 := by decide
  rw [h]
  simp only [BitVec.getLsbD_shiftLeft, BitVec.getLsbD_setWidth, BitVec.getLsbD_allOnes]
  grind

/-- The object id takes bits 0 to 15. -/
theorem getLsbD_objectIdMask (i : ℕ) : objectIdMask.getLsbD i = decide (i < 16) := by
  have h : objectIdMask = (BitVec.allOnes 16).setWidth 128 := by decide
  rw [h]
  simp only [BitVec.getLsbD_setWidth, BitVec.getLsbD_allOnes]
  grind

/-- Every bit of a published name comes from exactly one of the three fields. -/
theorem getLsbD_objectName (n : Name) (g : BitVec 32) (o : BitVec 16) (i : ℕ) :
    (objectName n g o).getLsbD i =
      if i < 16 then o.getLsbD i else if i < 48 then g.getLsbD (i - 16) else n.getLsbD i := by
  have hn : 128 ≤ i → n.getLsbD i = false := BitVec.getLsbD_of_ge n i
  have hg : 32 ≤ i - 16 → g.getLsbD (i - 16) = false := BitVec.getLsbD_of_ge g (i - 16)
  have ho : 16 ≤ i → o.getLsbD i = false := BitVec.getLsbD_of_ge o i
  simp only [objectName, BitVec.getLsbD_or, BitVec.getLsbD_and, BitVec.getLsbD_not,
    BitVec.getLsbD_shiftLeft, BitVec.getLsbD_setWidth, getLsbD_groupIdMask,
    getLsbD_objectIdMask, BitVec.getLsbD_zero]
  grind

/-- Starting a group is the same as naming its object number zero. -/
theorem groupStartName_eq (n : Name) (g : BitVec 32) :
    groupStartName n g = objectName n g 0 := by
  simp [groupStartName, objectName]

/-! ## Reading the fields back -/

/-- The bits of a field are those of the name from `start` on. -/
theorem getLsbD_bits (w : ℕ) (n : Name) (start length i : ℕ) :
    (bits w n start length).getLsbD i =
      (decide (i < w) && (decide (i < length) && n.getLsbD (start + i))) := by
  simp [bits, BitVec.getLsbD_setWidth, BitVec.getLsbD_extractLsb']

/-- The receiver's `bits(16, 32)` is the publisher's group id.
SOURCE: src/QuicrDelegates.cpp:125 -/
theorem bits_group_objectName (n : Name) (g : BitVec 32) (o : BitVec 16) :
    bits 32 (objectName n g o) 16 32 = g := by
  apply BitVec.eq_of_getLsbD_eq
  intro i hi
  rw [getLsbD_bits, getLsbD_objectName]
  have h : 16 + i - 16 = i := by omega
  grind

/-- The receiver's `bits(0, 16)` is the publisher's object id.
SOURCE: src/QuicrDelegates.cpp:126 -/
theorem bits_object_objectName (n : Name) (g : BitVec 32) (o : BitVec 16) :
    bits 16 (objectName n g o) 0 16 = o := by
  apply BitVec.eq_of_getLsbD_eq
  intro i hi
  rw [getLsbD_bits, getLsbD_objectName]
  have h : 0 + i = i := by omega
  grind

/-- Two published names with the same group and object fields over one namespace
are the same name, and only those. -/
theorem objectName_inj (n : Name) (g g' : BitVec 32) (o o' : BitVec 16) :
    objectName n g o = objectName n g' o' ↔ g = g' ∧ o = o' := by
  constructor
  · intro h
    constructor
    · rw [← bits_group_objectName n g o, h, bits_group_objectName]
    · rw [← bits_object_objectName n g o, h, bits_object_objectName]
  · rintro ⟨rfl, rfl⟩
    rfl

/-- The 48-bit counter handed to SFrame already tells two names of one
publication apart.
SOURCE: src/QuicrDelegates.cpp:410 -/
theorem bits_counter_objectName_inj (n : Name) (g g' : BitVec 32) (o o' : BitVec 16) :
    bits 64 (objectName n g o) 0 48 = bits 64 (objectName n g' o') 0 48 ↔
      g = g' ∧ o = o' := by
  constructor
  · intro h
    have hbit (i : ℕ) (hi : i < 48) :
        (objectName n g o).getLsbD i = (objectName n g' o').getLsbD i := by
      have := congrArg (fun b => b.getLsbD i) h
      simp only [getLsbD_bits, Nat.zero_add] at this
      grind
    simp only [getLsbD_objectName] at hbit
    constructor
    · apply BitVec.eq_of_getLsbD_eq
      intro i hi
      have := hbit (16 + i) (by omega)
      have h16 : 16 + i - 16 = i := by omega
      grind
    · apply BitVec.eq_of_getLsbD_eq
      intro i hi
      have := hbit i (by omega)
      grind
  · rintro ⟨rfl, rfl⟩
    rfl

end Qmedia.Model
