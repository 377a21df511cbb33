import Mathlib.Data.List.AList
import Qmedia.Library.LeadingBits
import Qmedia.Model.Name

/-!
# What the source calls of its dependencies

`sframe` and `libquicr` are submodules, so nothing here defines what they do: their
operations are the fields of two structures, and every model function takes them as
a parameter. What the source relies on is stated as named properties of that
parameter (`KeyLaws`, `KeyStore`, …), each the documented behaviour of one of the
operations, and taken as a hypothesis by the results that need it.
-/

set_option autoImplicit false

namespace Qmedia.Model

open Qmedia.Library (SameLeading)

/-- `std::map` and `quicr::namespace_map`: finite maps without repeated keys. -/
abbrev Map (K V : Type) := AList (fun _ : K => V)

/-- `map[key]`: the value stored under `key`, storing a default one first if there
is none. -/
def subscript {K V : Type} [DecidableEq K] (m : Map K V) (key : K) (default : V) :
    V × Map K V :=
  match m.lookup key with
  | some v => (v, m)
  | none => (default, m.insert key default)

/-- `sframe::Header(key_id, ctr)`. -/
structure Header where
  keyId : Epoch
  ctr : Counter
deriving DecidableEq, Repr

/-- The operations of `sframe` the source calls. `Ctx` is `sframe::ContextBase`.
`protect` and `unprotect` take the size of the output buffer and the input, and give
`none` where the library throws. -/
structure SFrame (Suite Ctx : Type) where
  hkdfExtract : Suite → Bytes → Bytes → Bytes
  contextBase : Suite → Ctx
  hasKey : Ctx → Epoch → Bool
  addKey : Ctx → Epoch → Bytes → Ctx
  protect : Ctx → Header → ℕ → Bytes → Option Bytes
  unprotect : Ctx → Header → ℕ → Bytes → Option Bytes

/-- The operations of `libquicr` the source calls on namespaces and messages.
`namespaceOf` is the constructor `Namespace(name, sig_bits)`, `nameOf` is `name()`,
`str` the conversion to `std::string`, `writeVarInt` the bytes `buf << uintVar_t(v)`
appends, and `readVarInt` is `buf >> v` followed by `buf.take()`, `none` where the
read throws. -/
structure Quicr (Namespace : Type) where
  namespaceOf : Name → ℕ → Namespace
  nameOf : Namespace → Name
  str : Namespace → String
  writeVarInt : BitVec 64 → Bytes
  readVarInt : Bytes → Option (BitVec 64 × Bytes)

/-- All dependencies of the source. -/
structure Libs (Suite Ctx Namespace : Type) extends SFrame Suite Ctx, Quicr Namespace

section Laws

variable {Suite Ctx Namespace : Type}

/-- `has_key(e)` holds exactly when `add_key(e, _)` was called on the context. -/
structure SFrame.KeyLaws (sf : SFrame Suite Ctx) : Prop where
  hasKey_contextBase : ∀ suite e, sf.hasKey (sf.contextBase suite) e = false
  hasKey_addKey : ∀ c e k e', sf.hasKey (sf.addKey c e k) e' = (decide (e' = e) || sf.hasKey c e')

/-- `protect` and `unprotect` throw when the header's key id has no key. -/
structure SFrame.KeyRequired (sf : SFrame Suite Ctx) : Prop where
  protect_noKey : ∀ c h n p, sf.hasKey c h.keyId = false → sf.protect c h n p = none
  unprotect_noKey : ∀ c h n p, sf.hasKey c h.keyId = false → sf.unprotect c h n p = none

/-- `stored c e` is the base key a context holds under the key id `e`: none in a new
context; after `add_key(e, k)` it is `k`, or still the key that was there before;
other key ids are not touched. -/
structure SFrame.KeyStore (sf : SFrame Suite Ctx) (stored : Ctx → Epoch → Option Bytes) :
    Prop where
  stored_contextBase : ∀ suite e, stored (sf.contextBase suite) e = none
  stored_addKey_self : ∀ c e k, stored (sf.addKey c e k) e = some k ∨
    ((stored c e).isSome ∧ stored (sf.addKey c e k) e = stored c e)
  stored_addKey_ne : ∀ c e k e', e' ≠ e → stored (sf.addKey c e k) e' = stored c e'
  hasKey_eq : ∀ c e, sf.hasKey c e = (stored c e).isSome

/-- A context depends only on the keys added to it: adding the same key under the
same id again changes nothing. -/
def SFrame.AddKeyIdem (sf : SFrame Suite Ctx) : Prop :=
  ∀ c e k, sf.addKey (sf.addKey c e k) e k = sf.addKey c e k

/-- `unprotect` inverts `protect` on an equal context and header, given a buffer at
least as long as the ciphertext. -/
def SFrame.RoundTrip (sf : SFrame Suite Ctx) : Prop :=
  ∀ c h n m plaintext ciphertext, sf.protect c h n plaintext = some ciphertext →
    ciphertext.length ≤ m → sf.unprotect c h m ciphertext = some plaintext

/-- `Namespace(name, sig_bits)` has the significant bits of the name. -/
def Quicr.KeepsLeading (q : Quicr Namespace) : Prop :=
  ∀ name sigBits, sigBits ≤ 128 → SameLeading sigBits (q.nameOf (q.namespaceOf name sigBits)) name

/-- Reading a `uintVar_t` inverts writing it and leaves the bytes that follow, for the
one value the source writes; an encoding is not empty. -/
structure Quicr.VarIntLaws (q : Quicr Namespace) : Prop where
  read_write : ∀ rest, q.readVarInt (q.writeVarInt fixedEpoch ++ rest) = some (fixedEpoch, rest)
  write_ne_nil : q.writeVarInt fixedEpoch ≠ []

end Laws

end Qmedia.Model
