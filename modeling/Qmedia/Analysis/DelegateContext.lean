import Qmedia.Analysis.EpochLock
import Qmedia.Model.SubscriptionDelegate

/-!
# The SFrame context inside a delegate

Both delegates build their context the same way: one cipher suite, the fixed epoch
added and enabled in the constructor, and no further `addEpoch` afterwards. The
secret of an epoch never changes then, so the epoch lock of
`Qmedia.Analysis.EpochLock` becomes exact: the context of a namespace is
`keyedContext` of its first epoch (`ensureKey_contextLocked`), and `protect` and
`unprotect` either use that context or throw.
-/

set_option autoImplicit false

namespace Qmedia.Analysis

open Qmedia.Library Qmedia.Model Qmedia.Model.QSFrameContext

variable {Suite Ctx Namespace : Type} [DecidableEq Namespace]
variable (L : Libs Suite Ctx Namespace) (suite : Suite)

omit [DecidableEq Namespace] in
/-- The secret a delegate's context finds for an epoch: the fixed epoch's key, and an
empty secret for every epoch a sender may make up. -/
def delegateSecret (e : Epoch) : Bytes :=
  if e = fixedEpoch then epochKey L.toSFrame suite else []

omit [DecidableEq Namespace] in
/-- The context of a namespace first used under epoch `e`. -/
def keyedContext (e : Epoch) (ns : Namespace) : Ctx :=
  L.addKey (L.contextBase suite) e
    (L.hkdfExtract suite (baseKeySalt L.toQuicr ns) (delegateSecret L suite e))

/-- The delegate's context refines the lock `owner`. -/
structure ContextLocked (c : QSFrameContext Suite Ctx Namespace)
    (owner : Namespace → Option Epoch) : Prop where
  cipherSuite_eq : c.cipherSuite = suite
  secrets : ∀ e, (c.epochSecrets.lookup e).getD [] = delegateSecret L suite e
  contexts : Refines (fun ns ctx e => ctx = keyedContext L suite e ns)
    (fun ns => c.nsContexts.lookup ns) owner

/-- A new delegate's context owns no namespace. -/
theorem newSFrameContext_locked (c : QSFrameContext Suite Ctx Namespace)
    (hc : newSFrameContext L.toSFrame (some suite) = some c) :
    ContextLocked L suite c (fun _ => none) ∧ c.currentEpoch = some fixedEpoch := by
  obtain rfl := Option.some.inj hc
  refine ⟨⟨rfl, fun e => ?_, fun ns => Option.Rel.none⟩, rfl⟩
  show ((AList.insert fixedEpoch (epochKey L.toSFrame suite)
    (∅ : Map Epoch Bytes)).lookup e).getD [] =
    delegateSecret L suite e
  unfold delegateSecret
  by_cases he : e = fixedEpoch
  · subst he
    rw [AList.lookup_insert, if_pos rfl]
    rfl
  · rw [AList.lookup_insert_ne he, if_neg he]
    rfl

/-- The secrets of a delegate's context are the fixed epoch's and the empty one. -/
theorem ContextLocked.derivedKey_eq {c : QSFrameContext Suite Ctx Namespace}
    {owner : Namespace → Option Epoch} (h : ContextLocked L suite c owner) (e : Epoch)
    (ns : Namespace) :
    derivedKey L c e ns =
      L.hkdfExtract suite (baseKeySalt L.toQuicr ns) (delegateSecret L suite e) := by
  unfold derivedKey
  rw [h.cipherSuite_eq, h.secrets]

section Keyed

variable (hkeys : L.KeyLaws) (hidem : L.AddKeyIdem)
include hkeys

omit [DecidableEq Namespace] in
/-- It has the key of its own epoch and no other. -/
theorem hasKey_keyedContext (e e' : Epoch) (ns : Namespace) :
    L.hasKey (keyedContext L suite e ns) e' = decide (e' = e) := by
  unfold keyedContext
  rw [hkeys.hasKey_addKey, hkeys.hasKey_contextBase, Bool.or_false]

include hidem

/-- `ensure_key` on a delegate's context is a first-writer-wins write of the lock. -/
theorem ensureKey_contextLocked {c : QSFrameContext Suite Ctx Namespace}
    {owner : Namespace → Option Epoch} (h : ContextLocked L suite c owner) (e : Epoch)
    (ns : Namespace) : ContextLocked L suite (ensureKey L c e ns) (latch owner ns e) := by
  refine ⟨by rw [ensureKey_cipherSuite, h.cipherSuite_eq], ?_, ?_⟩
  · intro e'
    rcases ensureKey_cases L c e ns with ⟨_, _, _, heq⟩ | ⟨_, _, heq⟩
    · rw [heq]
      exact h.secrets e'
    · rw [heq, ← h.secrets e']
      exact subscript_getD c.epochSecrets e e' []
  · have hne (ns' : Namespace) (hns : ns' ≠ ns) := ensureKey_lookup_ne L c e hns
    rcases ensureKey_cases L c e ns with ⟨ctx, hl, -, heq⟩ | ⟨ctx, hctx, heq⟩
    · have hsame : (ensureKey L c e ns).nsContexts.lookup ns = some ctx := by rw [heq, hl]
      refine Refines.latch h.contexts hsame hne (fun hnone => ?_) (fun ctx' e₀ hl' _ hr => ?_)
      · rw [hl] at hnone
        cases hnone
      · exact (Option.some.inj (hl.symm.trans hl')).trans hr
    · have hnew : (ensureKey L c e ns).nsContexts.lookup ns =
          some (L.addKey ctx e (derivedKey L c e ns)) := by
        rw [heq]
        exact AList.lookup_insert _
      rw [h.derivedKey_eq] at hnew
      refine Refines.latch h.contexts hnew hne (fun hnone => ?_)
        (fun ctx' e₀ hl' _ hr => ?_)
      · rcases hctx with ⟨hl, -⟩ | ⟨-, rfl⟩
        · rw [hl] at hnone
          cases hnone
        · rw [h.cipherSuite_eq]
          rfl
      · rcases hctx with ⟨hl, hk⟩ | ⟨hl, -⟩
        · obtain rfl : ctx = ctx' := Option.some.inj (hl.symm.trans hl')
          subst hr
          obtain rfl : e = e₀ := by
            simpa [hasKey_keyedContext L suite hkeys] using hk
          exact hidem (L.contextBase suite) e _
        · rw [hl] at hl'
          cases hl'

/-- The context `ensure_key` leaves for the namespace is the one of the epoch that owns
the namespace after the call. -/
theorem ensureKey_lookup_owner {c : QSFrameContext Suite Ctx Namespace}
    {owner : Namespace → Option Epoch} (h : ContextLocked L suite c owner) (e : Epoch)
    (ns : Namespace) :
    ∃ e₀, latch owner ns e ns = some e₀ ∧
      (ensureKey L c e ns).nsContexts.lookup ns = some (keyedContext L suite e₀ ns) := by
  obtain ⟨ctx, hctx⟩ := Option.isSome_iff_exists.mp (ensureKey_lookup_isSome L c e ns)
  obtain ⟨e₀, ho, rfl⟩ :=
    (ensureKey_contextLocked L suite hkeys hidem h e ns).contexts.exists_of_some hctx
  exact ⟨e₀, ho, hctx⟩

/-- `unprotect` uses the key of the epoch the object names if that epoch owns the
namespace after the call, and throws otherwise. -/
theorem unprotect_locked (hreq : L.KeyRequired) {c : QSFrameContext Suite Ctx Namespace}
    {owner : Namespace → Option Epoch} (h : ContextLocked L suite c owner) (e : Epoch)
    (ns : Namespace) (ctr : Counter) (n : ℕ) (ciphertext : Bytes) :
    (c.unprotect L e ns ctr n ciphertext).1 =
        (if latch owner ns e ns = some e then
          L.unprotect (keyedContext L suite e ns) ⟨e, ctr⟩ n ciphertext
        else none) ∧
      ContextLocked L suite (c.unprotect L e ns ctr n ciphertext).2 (latch owner ns e) := by
  refine ⟨?_, ensureKey_contextLocked L suite hkeys hidem h e ns⟩
  obtain ⟨e₀, ho, hl⟩ := ensureKey_lookup_owner L suite hkeys hidem h e ns
  show ((ensureKey L c e ns).nsContexts.lookup ns).bind _ = _
  rw [hl, ho, Option.bind_some]
  by_cases he : e₀ = e
  · subst he
    rw [if_pos rfl]
  · rw [if_neg (fun h => he (Option.some.inj h))]
    refine hreq.unprotect_noKey _ _ _ _ ?_
    rw [hasKey_keyedContext L suite hkeys]
    exact decide_eq_false (Ne.symm he)

/-- `protect` under the fixed epoch uses that epoch's key as long as no other epoch
owns the namespace. -/
theorem protect_locked {c : QSFrameContext Suite Ctx Namespace}
    {owner : Namespace → Option Epoch} (h : ContextLocked L suite c owner)
    (hcur : c.currentEpoch = some fixedEpoch) (ns : Namespace)
    (hns : latch owner ns fixedEpoch ns = some fixedEpoch) (ctr : Counter) (n : ℕ)
    (plaintext : Bytes) :
    (c.protect L ns ctr n plaintext).1 =
        L.protect (keyedContext L suite fixedEpoch ns) ⟨fixedEpoch, ctr⟩ n plaintext ∧
      ContextLocked L suite (c.protect L ns ctr n plaintext).2 (latch owner ns fixedEpoch) ∧
      (c.protect L ns ctr n plaintext).2.currentEpoch = some fixedEpoch := by
  obtain ⟨e₀, ho, hl⟩ := ensureKey_lookup_owner L suite hkeys hidem h fixedEpoch ns
  obtain rfl : e₀ = fixedEpoch := Option.some.inj (ho.symm.trans hns)
  unfold QSFrameContext.protect
  rw [hcur]
  refine ⟨?_, ensureKey_contextLocked L suite hkeys hidem h fixedEpoch ns, ?_⟩
  · simp only [hl, Option.bind_some]
  · exact (ensureKey_currentEpoch L c fixedEpoch ns).trans hcur

end Keyed

end Qmedia.Analysis
