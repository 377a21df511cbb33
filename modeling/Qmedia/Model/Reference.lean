import Qmedia.Model.ThirdParty

/-!
# Concrete dependencies

One instance of the dependency parameter, for evaluating the model on concrete
inputs. Namespaces are masked names with a prefix length; a context is a key ring;
`protect` puts a 16-byte tag over key, header and plaintext in front of the
plaintext, and `unprotect` throws unless the tag is right. The instance satisfies
every law of `Qmedia.Model.ThirdParty` (`referenceLibs_keyLaws` and the theorems
after it).
-/

set_option autoImplicit false

namespace Qmedia.Model

open Qmedia.Library (SameLeading sameLeading_iff)

/-- The cipher suites the source can be built with; it uses the first. -/
inductive CipherSuite where
  | aesGcm128Sha256
  | aesGcm256Sha512
deriving DecidableEq, Repr

/-- The leading `length` bits of a name. -/
structure Prefix where
  name : Name
  length : ℕ
deriving DecidableEq, Repr

/-- `Namespace(name, sig_bits)` clears the bits after the significant ones. -/
def Prefix.ofName (name : Name) (sigBits : ℕ) : Prefix :=
  ⟨name &&& ~~~(BitVec.allOnes 128 >>> sigBits), sigBits⟩

/-- `Namespace::contains`. -/
def Prefix.contains (p : Prefix) (name : Name) : Bool := decide (SameLeading p.length name p.name)

/-- `std::string(ns)`, the name in hexadecimal and the length. -/
def Prefix.str (p : Prefix) : String :=
  "0x" ++ String.ofList (Nat.toDigits 16 p.name.toNat) ++ "/" ++ toString p.length

/-- A context holds base keys under key ids. -/
abbrev KeyRing := Map Epoch Bytes

/-- A checksum that depends on every byte and on their order. -/
def byteSum (bs : Bytes) : BitVec 8 := bs.foldl (fun acc b => 31 * acc + b) 7

/-- The tag over the key, the header and the plaintext. -/
def tag (key : Bytes) (h : Header) (plaintext : Bytes) : Bytes :=
  List.replicate 16 (byteSum (key ++ [h.keyId.setWidth 8, h.ctr.setWidth 8] ++ plaintext))

/-- A context without a key for the header throws, and so does a buffer that is too short or a tag
that is wrong. -/
def referenceSFrame : SFrame CipherSuite KeyRing where
  hkdfExtract _ salt secret := salt ++ [0] ++ secret
  contextBase _ := ∅
  hasKey c e := (c.lookup e).isSome
  addKey c e k := c.insert e k
  protect c h bufferSize plaintext :=
    match c.lookup h.keyId with
    | none => none
    | some key =>
        if bufferSize < plaintext.length + 16 then none
        else some (tag key h plaintext ++ plaintext)
  unprotect c h bufferSize ciphertext :=
    match c.lookup h.keyId with
    | none => none
    | some key =>
        if bufferSize + 16 < ciphertext.length then none
        else if ciphertext.take 16 = tag key h (ciphertext.drop 16) then some (ciphertext.drop 16)
        else none

/-- Variable-length integers: the two leading bits of the first byte give the number
of bytes that follow. -/
def writeVar (v : BitVec 64) : Bytes :=
  if v.toNat < 2 ^ 6 then [v.setWidth 8]
  else if v.toNat < 2 ^ 14 then [0x40 ||| (v >>> 8).setWidth 8, v.setWidth 8]
  else if v.toNat < 2 ^ 30 then
    [0x80 ||| (v >>> 24).setWidth 8, (v >>> 16).setWidth 8, (v >>> 8).setWidth 8, v.setWidth 8]
  else
    [0xc0 ||| (v >>> 56).setWidth 8, (v >>> 48).setWidth 8, (v >>> 40).setWidth 8,
      (v >>> 32).setWidth 8, (v >>> 24).setWidth 8, (v >>> 16).setWidth 8,
      (v >>> 8).setWidth 8, v.setWidth 8]

/-- The bytes that the first one announces, and what follows them. -/
def readVar (bs : Bytes) : Option (BitVec 64 × Bytes) :=
  match bs with
  | [] => none
  | b :: rest =>
      let n := 2 ^ (b >>> 6).toNat - 1
      if rest.length < n then none
      else
        some ((rest.take n).foldl (fun acc x => acc <<< 8 ||| x.setWidth 64)
          ((b &&& 0x3f).setWidth 64), rest.drop n)

/-- Namespaces as masked names with a length, and the integers above. -/
def referenceQuicr : Quicr Prefix where
  namespaceOf := Prefix.ofName
  nameOf p := p.name
  str := Prefix.str
  writeVarInt := writeVar
  readVarInt := readVar

/-- Both dependencies together. -/
def referenceLibs : Libs CipherSuite KeyRing Prefix where
  toSFrame := referenceSFrame
  toQuicr := referenceQuicr

/-- A namespace of the manifest tests. -/
def mediaNamespace : Prefix := Prefix.ofName 0x0000010100000dc00001000000000000#128 80

/-- A namespace of another media type. -/
def audioNamespace : Prefix := Prefix.ofName 0x0000010100000d800001000000000000#128 80

/-! ## The laws hold -/

/-- A key ring has the keys that were added. -/
theorem referenceLibs_keyLaws : referenceLibs.KeyLaws where
  hasKey_contextBase _ _ := rfl
  hasKey_addKey c e k e' := by
    show ((AList.insert e k c).lookup e').isSome = (decide (e' = e) || (c.lookup e').isSome)
    by_cases h : e' = e
    · subst h
      simp
    · simp [h, AList.lookup_insert_ne h]

/-- Without a key for the header both directions throw. -/
theorem referenceLibs_keyRequired : referenceLibs.KeyRequired where
  protect_noKey c h n p hk := by
    change (c.lookup h.keyId).isSome = false at hk
    show (match c.lookup h.keyId with | none => none | some _ => _) = none
    rw [Option.isSome_eq_false_iff, Option.isNone_iff_eq_none] at hk
    rw [hk]
  unprotect_noKey c h n p hk := by
    change (c.lookup h.keyId).isSome = false at hk
    show (match c.lookup h.keyId with | none => none | some _ => _) = none
    rw [Option.isSome_eq_false_iff, Option.isNone_iff_eq_none] at hk
    rw [hk]

/-- The base keys are looked up in the ring itself. -/
theorem referenceLibs_keyStore : referenceLibs.KeyStore (fun c e => c.lookup e) where
  stored_contextBase _ _ := rfl
  stored_addKey_self c _ _ := Or.inl (AList.lookup_insert c)
  stored_addKey_ne _ _ _ _ h := AList.lookup_insert_ne h
  hasKey_eq _ _ := rfl

/-- Adding a key again replaces it by itself. -/
theorem referenceLibs_addKeyIdem : referenceLibs.AddKeyIdem :=
  fun c _ _ => AList.insert_insert c

/-- `unprotect` finds the tag that `protect` has put in front. -/
theorem referenceLibs_roundTrip : referenceLibs.RoundTrip := by
  intro c h n m p ct hp hm
  change (match c.lookup h.keyId with
    | none => none
    | some key => if n < p.length + 16 then none else some (tag key h p ++ p)) = some ct at hp
  show (match c.lookup h.keyId with
    | none => none
    | some key =>
        if m + 16 < ct.length then none
        else if ct.take 16 = tag key h (ct.drop 16) then some (ct.drop 16) else none) = some p
  cases hk : c.lookup h.keyId with
  | none => simp [hk] at hp
  | some key =>
      simp only [hk] at hp ⊢
      split at hp
      · simp at hp
      · obtain rfl := Option.some.inj hp
        have htag : (tag key h p).length = 16 := by simp [tag]
        rw [List.take_left' htag, List.drop_left' htag, if_neg (by omega), if_pos rfl]

/-- Masking keeps the significant bits. -/
theorem referenceLibs_keepsLeading : referenceLibs.KeepsLeading := by
  intro name sigBits hsig
  rw [sameLeading_iff]
  intro i hi
  show (name &&& ~~~(BitVec.allOnes 128 >>> sigBits)).getLsbD i = name.getLsbD i
  have hname : 128 ≤ i → name.getLsbD i = false := BitVec.getLsbD_of_ge name i
  simp only [BitVec.getLsbD_and, BitVec.getLsbD_not, BitVec.getLsbD_ushiftRight,
    BitVec.getLsbD_allOnes]
  grind

/-- The fixed epoch takes one byte. -/
theorem referenceLibs_varIntLaws : referenceLibs.VarIntLaws where
  read_write rest := by
    have h : writeVar fixedEpoch = [1] := by decide
    show readVar (writeVar fixedEpoch ++ rest) = some (fixedEpoch, rest)
    rw [h]
    simp [readVar, fixedEpoch]
  write_ne_nil := by decide

end Qmedia.Model
