import Qmedia.Library.FirstWriter
import Qmedia.Model.QSFrameContext
import Qmedia.Model.Reference

/-!
# A namespace is locked to the epoch of its first use

`QSFrameContext::ensure_key` returns early for a known namespace that has *no* key
for the wanted epoch, so after the first `protect` or `unprotect` of a namespace no
key of another epoch is ever added to it. Abstractly a context is a first-writer-wins
map from namespaces to epochs (`latch`), and the faithful context refines it
(`afterHistory_locked`): the namespace's `sframe::ContextBase` exists exactly if the
namespace was used, and then has exactly the key of its first epoch.

From the refinement follow the exact conditions under which a call finds its key
(`keysAvailable_iff_sameEpoch`) and under which every stored key comes from a secret
that was supplied (`keysSupplied_iff_firstUsesAdded`).
-/

set_option autoImplicit false

namespace Qmedia.Analysis

open Qmedia.Library Qmedia.Model Qmedia.Model.QSFrameContext

/-! ## The abstract lock -/

section Abstract

variable {Namespace : Type} [DecidableEq Namespace]

omit [DecidableEq Namespace] in
/-- The namespace and epoch whose key a call uses; `cur` is the current epoch. -/
def keyUse (cur : Option Epoch) : SFrameOp Namespace → Option (Namespace × Epoch)
  | .protect ns _ _ _ => cur.map (fun e => (ns, e))
  | .unprotect e ns _ _ _ => some (ns, e)
  | .addEpoch _ _ => none
  | .enableEpoch _ => none

omit [DecidableEq Namespace] in
/-- The current epoch after a call. -/
def enabledEpoch (cur : Option Epoch) : SFrameOp Namespace → Option Epoch
  | .enableEpoch e => some e
  | _ => cur

omit [DecidableEq Namespace] in
/-- The key uses of a history, in order. -/
def keyUses : Option Epoch → List (SFrameOp Namespace) → List (Namespace × Epoch)
  | _, [] => []
  | cur, op :: ops => (keyUse cur op).toList ++ keyUses (enabledEpoch cur op) ops

/-- The epoch of the first call of a history that used a key of the namespace. -/
def firstEpoch (history : List (SFrameOp Namespace)) (ns : Namespace) : Option Epoch :=
  ((keyUses none history).find? (fun u => u.1 = ns)).map Prod.snd

/-- The first use of a namespace is the first write of its epoch. -/
theorem firstEpoch_eq_latchAll (history : List (SFrameOp Namespace)) (ns : Namespace) :
    firstEpoch history ns = latchAll (fun _ => none) (keyUses none history) ns := by
  rw [latchAll_apply]
  rfl

end Abstract

/-! ## What `ensure_key` does -/

section EnsureKey

variable {Suite Ctx Namespace : Type} [DecidableEq Namespace] (L : Libs Suite Ctx Namespace)

/-- The key `ensure_key` would add. -/
def derivedKey (c : QSFrameContext Suite Ctx Namespace) (e : Epoch) (ns : Namespace) : Bytes :=
  L.hkdfExtract c.cipherSuite (baseKeySalt L.toQuicr ns) ((c.epochSecrets.lookup e).getD [])

omit [DecidableEq Namespace] in
/-- What `derive_base_key` returns. -/
theorem deriveBaseKey_fst (c : QSFrameContext Suite Ctx Namespace) (e : Epoch)
    (ns : Namespace) : (deriveBaseKey L c e ns).1 = derivedKey L c e ns := by
  unfold deriveBaseKey derivedKey subscript
  cases c.epochSecrets.lookup e <;> rfl

/-- Inversion of `ensure_key`: either the namespace is known and has no key for the
epoch, and nothing happens; or the derived key is added to the namespace's context,
which is a new one if the namespace was not known. -/
theorem ensureKey_cases (c : QSFrameContext Suite Ctx Namespace) (e : Epoch) (ns : Namespace) :
    (∃ ctx, c.nsContexts.lookup ns = some ctx ∧ L.hasKey ctx e = false ∧
      ensureKey L c e ns = c) ∨
    (∃ ctx, (c.nsContexts.lookup ns = some ctx ∧ L.hasKey ctx e = true ∨
        c.nsContexts.lookup ns = none ∧ ctx = L.contextBase c.cipherSuite) ∧
      ensureKey L c e ns =
        { c with
          epochSecrets := (subscript c.epochSecrets e []).2
          nsContexts := c.nsContexts.insert ns (L.addKey ctx e (derivedKey L c e ns)) }) := by
  unfold ensureKey
  cases hl : c.nsContexts.lookup ns with
  | none =>
      refine Or.inr ⟨L.contextBase c.cipherSuite, Or.inr ⟨rfl, rfl⟩, ?_⟩
      rw [← deriveBaseKey_fst]
      rfl
  | some ctx =>
      cases hk : L.hasKey ctx e with
      | false => exact Or.inl ⟨ctx, rfl, hk, by simp [hk]⟩
      | true =>
          refine Or.inr ⟨ctx, Or.inl ⟨rfl, hk⟩, ?_⟩
          rw [← deriveBaseKey_fst]
          simp only [hk, Bool.not_true, Bool.false_eq_true, if_false]
          rfl

/-- `ensure_key` keeps the cipher suite. -/
@[simp] theorem ensureKey_cipherSuite (c : QSFrameContext Suite Ctx Namespace) (e : Epoch)
    (ns : Namespace) : (ensureKey L c e ns).cipherSuite = c.cipherSuite := by
  rcases ensureKey_cases L c e ns with ⟨_, _, _, h⟩ | ⟨_, _, h⟩ <;> rw [h]

/-- `ensure_key` keeps the current epoch. -/
@[simp] theorem ensureKey_currentEpoch (c : QSFrameContext Suite Ctx Namespace) (e : Epoch)
    (ns : Namespace) : (ensureKey L c e ns).currentEpoch = c.currentEpoch := by
  rcases ensureKey_cases L c e ns with ⟨_, _, _, h⟩ | ⟨_, _, h⟩ <;> rw [h]

/-- Other namespaces keep their contexts. -/
theorem ensureKey_lookup_ne (c : QSFrameContext Suite Ctx Namespace) (e : Epoch)
    {ns ns' : Namespace} (hne : ns' ≠ ns) :
    (ensureKey L c e ns).nsContexts.lookup ns' = c.nsContexts.lookup ns' := by
  rcases ensureKey_cases L c e ns with ⟨_, _, _, h⟩ | ⟨_, _, h⟩
  · rw [h]
  · rw [h]
    exact AList.lookup_insert_ne hne

/-- Reading a secret does not change what is read later: the default that `operator[]`
stores is also what an absent one reads as. -/
theorem subscript_getD {K V : Type} [DecidableEq K] (m : Map K V) (k k' : K) (d : V) :
    ((subscript m k d).2.lookup k').getD d = (m.lookup k').getD d := by
  unfold subscript
  cases hk : m.lookup k with
  | some v => rfl
  | none =>
      by_cases heq : k' = k
      · subst heq
        simp [hk]
      · simp only [AList.lookup_insert_ne heq]

/-- The namespace `ensure_key` was called for has a context afterwards. -/
theorem ensureKey_lookup_isSome (c : QSFrameContext Suite Ctx Namespace) (e : Epoch)
    (ns : Namespace) : ((ensureKey L c e ns).nsContexts.lookup ns).isSome := by
  rcases ensureKey_cases L c e ns with ⟨ctx, hl, _, h⟩ | ⟨ctx, _, h⟩
  · rw [h, hl]
    rfl
  · rw [h]
    simp

end EnsureKey

/-! ## Refinement -/

section Refinement

variable {Suite Ctx Namespace : Type} [DecidableEq Namespace] (L : Libs Suite Ctx Namespace)

/-- The context refines the lock `owner`: a namespace has a context exactly if it is
owned, and then exactly the key of the owning epoch. -/
def EpochLocked (c : QSFrameContext Suite Ctx Namespace) (owner : Namespace → Option Epoch) :
    Prop :=
  Refines (fun _ ctx e => ∀ e', L.hasKey ctx e' = decide (e' = e))
    (fun ns => c.nsContexts.lookup ns) owner

variable (hL : L.KeyLaws)
include hL

/-- `ensure_key` is a first-writer-wins write of the lock. -/
theorem ensureKey_locked (c : QSFrameContext Suite Ctx Namespace)
    (owner : Namespace → Option Epoch) (h : EpochLocked L c owner) (e : Epoch)
    (ns : Namespace) : EpochLocked L (ensureKey L c e ns) (latch owner ns e) := by
  have hne (ns' : Namespace) (hns : ns' ≠ ns) := ensureKey_lookup_ne L c e hns
  rcases ensureKey_cases L c e ns with ⟨ctx, hl, -, heq⟩ | ⟨ctx, hctx, heq⟩
  · have hsame : (ensureKey L c e ns).nsContexts.lookup ns = some ctx := by rw [heq, hl]
    refine Refines.latch h hsame hne (fun hnone => ?_) (fun ctx' e₀ hl' _ hr => ?_)
    · rw [hl] at hnone
      cases hnone
    · obtain rfl : ctx = ctx' := Option.some.inj (hl.symm.trans hl')
      exact hr
  · have hnew : (ensureKey L c e ns).nsContexts.lookup ns =
        some (L.addKey ctx e (derivedKey L c e ns)) := by
      rw [heq]
      exact AList.lookup_insert _
    refine Refines.latch h hnew hne (fun hnone e' => ?_)
      (fun ctx' e₀ hl' _ hr e' => ?_)
    · rcases hctx with ⟨hl, -⟩ | ⟨-, rfl⟩
      · rw [hl] at hnone
        cases hnone
      · rw [hL.hasKey_addKey, hL.hasKey_contextBase, Bool.or_false]
    · rcases hctx with ⟨hl, hk⟩ | ⟨hl, -⟩
      · obtain rfl : ctx = ctx' := Option.some.inj (hl.symm.trans hl')
        -- the epoch that has a key is the one that owns the namespace
        obtain rfl : e = e₀ := by simpa [hr] using hk
        rw [hL.hasKey_addKey, hr, Bool.or_self]
      · rw [hl] at hl'
        cases hl'

omit hL in
/-- Only `enableEpoch` changes the current epoch. -/
theorem sframeStep_currentEpoch (c : QSFrameContext Suite Ctx Namespace)
    (op : SFrameOp Namespace) :
    (sframeStep L c op).2.currentEpoch = enabledEpoch c.currentEpoch op := by
  cases op with
  | addEpoch e secret => rfl
  | enableEpoch e => rfl
  | protect ns ctr n p =>
      show (c.protect L ns ctr n p).2.currentEpoch = c.currentEpoch
      unfold QSFrameContext.protect
      cases hcur : c.currentEpoch with
      | none => exact hcur
      | some e => exact (ensureKey_currentEpoch L c e ns).trans hcur
  | unprotect e ns ctr n p => exact ensureKey_currentEpoch L c e ns

omit hL in
/-- A call without a key use leaves the namespace contexts alone. -/
theorem sframeStep_nsContexts (c : QSFrameContext Suite Ctx Namespace)
    (op : SFrameOp Namespace) (huse : keyUse c.currentEpoch op = none) :
    (sframeStep L c op).2.nsContexts = c.nsContexts := by
  cases op with
  | addEpoch e secret => rfl
  | enableEpoch e => rfl
  | protect ns ctr n p =>
      cases hcur : c.currentEpoch with
      | none => simp only [sframeStep, QSFrameContext.protect, hcur]
      | some e => simp [keyUse, hcur] at huse
  | unprotect e ns ctr n p => cases huse

omit hL in
/-- A call with a key use leaves the context `ensure_key` built. -/
theorem sframeStep_snd (c : QSFrameContext Suite Ctx Namespace) (op : SFrameOp Namespace)
    (ns : Namespace) (e : Epoch) (huse : keyUse c.currentEpoch op = some (ns, e)) :
    (sframeStep L c op).2 = ensureKey L c e ns := by
  cases op with
  | addEpoch e' secret => cases huse
  | enableEpoch e' => cases huse
  | protect ns' ctr n p =>
      cases hcur : c.currentEpoch with
      | none => simp [keyUse, hcur] at huse
      | some e' =>
          obtain ⟨rfl, rfl⟩ : ns' = ns ∧ e' = e := by simpa [keyUse, hcur] using huse
          simp only [sframeStep, QSFrameContext.protect, hcur]
  | unprotect e' ns' ctr n p =>
      obtain ⟨rfl, rfl⟩ : ns' = ns ∧ e' = e := by simpa [keyUse, and_comm] using huse
      rfl

/-- One call refines the writes of its key use. -/
theorem sframeStep_locked (c : QSFrameContext Suite Ctx Namespace)
    (owner : Namespace → Option Epoch) (h : EpochLocked L c owner) (op : SFrameOp Namespace) :
    EpochLocked L (sframeStep L c op).2 (latchAll owner (keyUse c.currentEpoch op).toList) := by
  cases huse : keyUse c.currentEpoch op with
  | none =>
      intro ns
      rw [sframeStep_nsContexts L c op huse]
      exact h ns
  | some u =>
      rw [sframeStep_snd L c op u.1 u.2 huse]
      exact ensureKey_locked L hL c owner h u.2 u.1

/-- A run from any locked context refines the writes of all its key uses. -/
theorem finalState_locked (history : List (SFrameOp Namespace))
    (c : QSFrameContext Suite Ctx Namespace) (owner : Namespace → Option Epoch)
    (h : EpochLocked L c owner) :
    EpochLocked L (finalState (sframeStep L) c history)
      (latchAll owner (keyUses c.currentEpoch history)) := by
  induction history generalizing c owner with
  | nil => exact h
  | cons op ops ih =>
      have := ih _ _ (sframeStep_locked L hL c owner h op)
      rw [sframeStep_currentEpoch, ← latchAll_append] at this
      exact this

/-- **Refinement.** After any history a namespace has a context exactly if the history
used it, and then exactly the key of its first epoch. -/
theorem afterHistory_locked (suite : Suite) (history : List (SFrameOp Namespace)) :
    EpochLocked L (afterHistory L suite history) (firstEpoch history) := by
  have h0 : EpochLocked L (QSFrameContext.create suite) (fun _ => none) :=
    fun _ => Option.Rel.none
  have := finalState_locked L hL history _ _ h0
  rw [show firstEpoch history = latchAll (fun _ => none) (keyUses none history) from
    funext (firstEpoch_eq_latchAll history)]
  exact this

end Refinement

/-! ## When a call finds its key -/

section Availability

variable {Suite Ctx Namespace : Type} [DecidableEq Namespace] (L : Libs Suite Ctx Namespace)

/-- Whether the namespace's context has a key for the epoch when it is used, which is
right after `ensure_key`. -/
def keyHeld (c : QSFrameContext Suite Ctx Namespace) (ns : Namespace) (e : Epoch) : Bool :=
  ((ensureKey L c e ns).nsContexts.lookup ns).any (fun ctx => L.hasKey ctx e)

omit [DecidableEq Namespace] in
/-- The current epoch after a history: the one of its last `enableEpoch`. -/
def currentEpochAfter (history : List (SFrameOp Namespace)) : Option Epoch :=
  history.foldl enabledEpoch none

/-- The current epoch is the last one enabled. -/
theorem afterHistory_currentEpoch (suite : Suite) (history : List (SFrameOp Namespace)) :
    (afterHistory L suite history).currentEpoch = currentEpochAfter history := by
  induction history using List.reverseRecOn with
  | nil => rfl
  | append_singleton ops op ih =>
      unfold afterHistory currentEpochAfter at ih ⊢
      rw [finalState_append, List.foldl_append, ← ih]
      exact sframeStep_currentEpoch L _ op

/-- Every call of the history that uses a key of an epoch added before it finds the
key in its namespace's context. -/
def KeysAvailable (suite : Suite) (history : List (SFrameOp Namespace)) : Prop :=
  ∀ pre op post, history = pre ++ op :: post → ∀ ns e,
    keyUse (afterHistory L suite pre).currentEpoch op = some (ns, e) →
    (∃ secret, SFrameOp.addEpoch e secret ∈ pre) →
    keyHeld L (afterHistory L suite pre) ns e = true

/-- No call names an added epoch on a namespace first used under another one. -/
def SameEpochAsFirstUse (history : List (SFrameOp Namespace)) : Prop :=
  ∀ pre op post, history = pre ++ op :: post → ∀ ns e,
    keyUse (currentEpochAfter pre) op = some (ns, e) →
    (∃ secret, SFrameOp.addEpoch e secret ∈ pre) →
    ∀ e', firstEpoch pre ns = some e' → e' = e

variable (hL : L.KeyLaws)
include hL

/-- A call finds its key exactly if the namespace is new or was first used under the
same epoch. -/
theorem keyHeld_iff (suite : Suite) (history : List (SFrameOp Namespace)) (ns : Namespace)
    (e : Epoch) :
    keyHeld L (afterHistory L suite history) ns e = true ↔
      ∀ e', firstEpoch history ns = some e' → e' = e := by
  have hlock := ensureKey_locked L hL _ _ (afterHistory_locked L hL suite history) e ns
  obtain ⟨ctx, hctx⟩ := Option.isSome_iff_exists.mp
    (ensureKey_lookup_isSome L (afterHistory L suite history) e ns)
  obtain ⟨e₀, ho, hkeys⟩ := Refines.exists_of_some hlock hctx
  have hheld : keyHeld L (afterHistory L suite history) ns e = decide (e = e₀) := by
    unfold keyHeld
    rw [hctx]
    exact hkeys e
  rw [hheld, decide_eq_true_iff]
  rw [latch_self] at ho
  cases hf : firstEpoch history ns with
  | none =>
      rw [hf] at ho
      simpa using ho
  | some e' =>
      rw [hf] at ho
      obtain rfl : e' = e₀ := by simpa using ho
      simp [eq_comm]

omit hL in
/-- A call that does not find its key throws. -/
theorem sframeStep_eq_none (hreq : L.KeyRequired) (suite : Suite)
    (history : List (SFrameOp Namespace)) (op : SFrameOp Namespace) (ns : Namespace) (e : Epoch)
    (huse : keyUse (afterHistory L suite history).currentEpoch op = some (ns, e))
    (hheld : keyHeld L (afterHistory L suite history) ns e = false) :
    (sframeStep L (afterHistory L suite history) op).1 = none := by
  obtain ⟨ctx, hctx⟩ := Option.isSome_iff_exists.mp
    (ensureKey_lookup_isSome L (afterHistory L suite history) e ns)
  have hno : L.hasKey ctx e = false := by
    unfold keyHeld at hheld
    rw [hctx] at hheld
    exact hheld
  generalize afterHistory L suite history = c at huse hctx
  cases op with
  | addEpoch e' secret => cases huse
  | enableEpoch e' => cases huse
  | protect ns' ctr n p =>
      cases hcur : c.currentEpoch with
      | none => simp [keyUse, hcur] at huse
      | some e' =>
          obtain ⟨rfl, rfl⟩ : ns' = ns ∧ e' = e := by simpa [keyUse, hcur] using huse
          simp only [sframeStep, QSFrameContext.protect, hcur, hctx, Option.bind_some]
          exact hreq.protect_noKey ctx ⟨e', ctr⟩ n p hno
  | unprotect e' ns' ctr n p =>
      obtain ⟨rfl, rfl⟩ : ns' = ns ∧ e' = e := by simpa [keyUse] using huse
      simp only [sframeStep, QSFrameContext.unprotect, hctx, Option.bind_some]
      exact hreq.unprotect_noKey ctx ⟨e', ctr⟩ n p hno

/-- **When keys are available.** Over a whole history, every call under an added epoch
finds its key exactly if no such call follows a first use of its namespace under a
different epoch.
SOURCE: src/QSFrameContext.cpp:55-71 -/
theorem keysAvailable_iff_sameEpoch (suite : Suite) (history : List (SFrameOp Namespace)) :
    KeysAvailable L suite history ↔ SameEpochAsFirstUse history := by
  unfold KeysAvailable SameEpochAsFirstUse
  constructor
  · intro h pre op post hsplit ns e huse hadded
    rw [← afterHistory_currentEpoch L suite pre] at huse
    exact (keyHeld_iff L hL suite pre ns e).mp (h pre op post hsplit ns e huse hadded)
  · intro h pre op post hsplit ns e huse hadded
    rw [afterHistory_currentEpoch L suite pre] at huse
    exact (keyHeld_iff L hL suite pre ns e).mpr (h pre op post hsplit ns e huse hadded)

end Availability

/-- A namespace is used under epoch 1; then epoch 2 is added and enabled. -/
def rotationHistory : List (SFrameOp Prefix) :=
  [.addEpoch 1 [0x0a], .enableEpoch 1, .protect mediaNamespace 0x10001 32 [0x2a],
    .addEpoch 2 [0x0b], .enableEpoch 2]

/-- The rotation alone uses no namespace again. -/
theorem keysAvailable_iff_rotationHistory :
    KeysAvailable referenceLibs .aesGcm128Sha256 rotationHistory ↔
      SameEpochAsFirstUse rotationHistory :=
  keysAvailable_iff_sameEpoch referenceLibs referenceLibs_keyLaws _ _

/-- After the rotation the next `protect` on the namespace finds no key for epoch 2,
which was added, and throws. -/
theorem rotation_loses_key :
    ¬ KeysAvailable referenceLibs .aesGcm128Sha256
        (rotationHistory ++ [.protect mediaNamespace 0x10002 32 [0x2b]]) ∧
      (sframeStep referenceLibs (afterHistory referenceLibs .aesGcm128Sha256 rotationHistory)
        (.protect mediaNamespace 0x10002 32 [0x2b])).1 = none := by
  refine ⟨fun h => ?_, by decide⟩
  have hheld := h rotationHistory (.protect mediaNamespace 0x10002 32 [0x2b]) [] rfl
    mediaNamespace 2 (by decide) ⟨[0x0b], by simp [rotationHistory]⟩
  have hlost : keyHeld referenceLibs (afterHistory referenceLibs .aesGcm128Sha256 rotationHistory)
      mediaNamespace 2 = false := by decide
  rw [hlost] at hheld
  cases hheld

end Qmedia.Analysis
