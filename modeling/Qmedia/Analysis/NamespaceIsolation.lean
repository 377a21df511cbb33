import Qmedia.Analysis.EpochLock

/-!
# Namespaces do not interfere inside a context

The namespaces of a `QSFrameContext` share its epochs, and every call on one of them may
store an empty secret for an epoch that has none, which a later call on another one
reads. What is read is the same as before: the empty secret is the one that a missing
epoch stands for. So two contexts that agree on everything but one namespace, secrets
compared as they are read (`AgreeOff`), stay so under every call, and a call on that
namespace does not lead out of the relation. Removing any calls on one namespace from a
history therefore leaves the results of the calls on every other one as they were
(`resultsOn_removed`).
-/

set_option autoImplicit false

namespace Qmedia.Analysis

open Qmedia.Library Qmedia.Model Qmedia.Model.QSFrameContext

/-! ## Removing calls from a history -/

section Histories

variable {Suite Ctx Namespace : Type} [DecidableEq Namespace] (L : Libs Suite Ctx Namespace)

/-- The `protect` and `unprotect` calls on a namespace. -/
def calledOn (ns : Namespace) : SFrameOp Namespace → Bool
  | .protect ns' _ _ _ => ns' = ns
  | .unprotect _ ns' _ _ _ => ns' = ns
  | .addEpoch _ _ => false
  | .enableEpoch _ => false

/-- What the calls on a namespace return in a history on a new context, in order: bytes,
an empty result or an exception. -/
def resultsOn (suite : Suite) (ns : Namespace) (history : List (SFrameOp Namespace)) :
    List (Option Bytes) :=
  observed (calledOn ns) (sframeStep L) (create suite) history

/-- No call is on two namespaces. -/
theorem calledOn_ne {A B : Namespace} (hne : A ≠ B) (op : SFrameOp Namespace)
    (hop : calledOn A op = true) : calledOn B op = false := by
  unfold calledOn at *
  cases op with
  | addEpoch e secret => rfl
  | enableEpoch e => rfl
  | protect ns ctr n p =>
      obtain rfl := of_decide_eq_true hop
      exact decide_eq_false hne
  | unprotect e ns ctr n p =>
      obtain rfl := of_decide_eq_true hop
      exact decide_eq_false hne

end Histories

/-! ## What the calls on a namespace read -/

section Reading

variable {Suite Ctx Namespace : Type} [DecidableEq Namespace] (L : Libs Suite Ctx Namespace)

omit [DecidableEq Namespace] in
/-- The secret of an epoch, as `epoch_secrets[epoch_id]` reads it. -/
def secretOf (c : QSFrameContext Suite Ctx Namespace) (e : Epoch) : Bytes :=
  (c.epochSecrets.lookup e).getD []

/-- `ensure_key` changes no secret as it is read. -/
@[simp] theorem secretOf_ensureKey (c : QSFrameContext Suite Ctx Namespace) (e e' : Epoch)
    (ns : Namespace) : secretOf (ensureKey L c e ns) e' = secretOf c e' := by
  unfold secretOf
  rcases ensureKey_cases L c e ns with ⟨_, _, _, h⟩ | ⟨_, _, h⟩
  · rw [h]
  · rw [h]
    exact subscript_getD c.epochSecrets e e' []

/-- Two contexts agree off a namespace: same suite, same current epoch, secrets that read
the same, and the same context for every other namespace. -/
structure AgreeOff (A : Namespace) (c c' : QSFrameContext Suite Ctx Namespace) : Prop where
  cipherSuite : c.cipherSuite = c'.cipherSuite
  currentEpoch : c.currentEpoch = c'.currentEpoch
  secrets : ∀ e, secretOf c e = secretOf c' e
  contexts : ∀ ns, ns ≠ A → c.nsContexts.lookup ns = c'.nsContexts.lookup ns

omit [DecidableEq Namespace] in
/-- A derived key depends on the suite, the namespace and the epoch's secret. -/
theorem derivedKey_eq (c : QSFrameContext Suite Ctx Namespace) (e : Epoch) (ns : Namespace) :
    derivedKey L c e ns =
      L.hkdfExtract c.cipherSuite (baseKeySalt L.toQuicr ns) (secretOf c e) := rfl

/-- The context of a namespace after `ensure_key`, from the one before it, if any, and the
key that is derived. -/
def contextAfter (suite : Suite) (ctx : Option Ctx) (e : Epoch) (key : Bytes) : Ctx :=
  match ctx with
  | none => L.addKey (L.contextBase suite) e key
  | some ctx => if L.hasKey ctx e then L.addKey ctx e key else ctx

/-- The context of the namespace after `ensure_key`. -/
theorem ensureKey_lookup_self (c : QSFrameContext Suite Ctx Namespace) (e : Epoch)
    (ns : Namespace) :
    (ensureKey L c e ns).nsContexts.lookup ns =
      some (contextAfter L c.cipherSuite (c.nsContexts.lookup ns) e (derivedKey L c e ns)) := by
  unfold contextAfter
  rcases ensureKey_cases L c e ns with ⟨ctx, hl, hk, h⟩ | ⟨ctx, hctx, h⟩
  · rw [h, hl]
    simp [hk]
  · have hnew : (ensureKey L c e ns).nsContexts.lookup ns =
        some (L.addKey ctx e (derivedKey L c e ns)) := by
      rw [h]
      exact AList.lookup_insert _
    rw [hnew]
    rcases hctx with ⟨hl, hk⟩ | ⟨hl, rfl⟩
    · simp [hl, hk]
    · rw [hl]

variable {L} {A : Namespace} {c c' : QSFrameContext Suite Ctx Namespace}

/-- The context `ensure_key` leaves for another namespace is the same on both sides. -/
theorem AgreeOff.ensureKey_lookup (h : AgreeOff A c c') (e : Epoch) {ns : Namespace}
    (hne : ns ≠ A) :
    (ensureKey L c e ns).nsContexts.lookup ns = (ensureKey L c' e ns).nsContexts.lookup ns := by
  have hkey : derivedKey L c e ns = derivedKey L c' e ns := by
    rw [derivedKey_eq, derivedKey_eq, h.cipherSuite, h.secrets]
  rw [ensureKey_lookup_self, ensureKey_lookup_self, h.contexts ns hne, h.cipherSuite, hkey]

/-- `ensure_key` on both sides keeps two contexts in agreement, whatever the namespace. -/
theorem AgreeOff.ensureKey (h : AgreeOff A c c') (e : Epoch) (ns : Namespace) :
    AgreeOff A (ensureKey L c e ns) (ensureKey L c' e ns) where
  cipherSuite := by simp [h.cipherSuite]
  currentEpoch := by simp [h.currentEpoch]
  secrets e' := by simp [h.secrets]
  contexts ns' hne := by
    by_cases heq : ns' = ns
    · subst heq
      exact h.ensureKey_lookup e hne
    · rw [ensureKey_lookup_ne L c e heq, ensureKey_lookup_ne L c' e heq]
      exact h.contexts ns' hne

/-- `ensure_key` for the namespace itself on one side only goes unnoticed. -/
theorem AgreeOff.ensureKey_left (h : AgreeOff A c c') (e : Epoch) :
    AgreeOff A (Model.QSFrameContext.ensureKey L c e A) c' where
  cipherSuite := by simp [h.cipherSuite]
  currentEpoch := by simp [h.currentEpoch]
  secrets e' := by simp [h.secrets]
  contexts ns' hne := by
    rw [ensureKey_lookup_ne L c e hne]
    exact h.contexts ns' hne

/-! ## One call -/

/-- Every call keeps two contexts in agreement. -/
theorem AgreeOff.sframeStep (h : AgreeOff A c c') (op : SFrameOp Namespace) :
    AgreeOff A (Model.sframeStep L c op).2 (Model.sframeStep L c' op).2 := by
  cases op with
  | addEpoch e secret =>
      refine ⟨h.cipherSuite, h.currentEpoch, fun e' => ?_, h.contexts⟩
      show (AList.lookup e' (AList.insert e secret c.epochSecrets)).getD [] =
        (AList.lookup e' (AList.insert e secret c'.epochSecrets)).getD []
      by_cases heq : e' = e
      · subst heq
        rw [AList.lookup_insert, AList.lookup_insert]
      · rw [AList.lookup_insert_ne heq, AList.lookup_insert_ne heq]
        exact h.secrets e'
  | enableEpoch e => exact ⟨h.cipherSuite, rfl, h.secrets, h.contexts⟩
  | protect ns ctr n p =>
      show AgreeOff A (c.protect L ns ctr n p).2 (c'.protect L ns ctr n p).2
      unfold QSFrameContext.protect
      rw [← h.currentEpoch]
      cases hcur : c.currentEpoch with
      | none => exact h
      | some e => exact h.ensureKey e ns
  | unprotect e ns ctr n p => exact h.ensureKey e ns

/-- A call on the namespace itself on one side only goes unnoticed. -/
theorem AgreeOff.sframeStep_left (h : AgreeOff A c c') {op : SFrameOp Namespace}
    (hop : calledOn A op = true) : AgreeOff A (Model.sframeStep L c op).2 c' := by
  cases op with
  | addEpoch e secret => cases hop
  | enableEpoch e => cases hop
  | protect ns ctr n p =>
      obtain rfl : ns = A := of_decide_eq_true hop
      show AgreeOff ns (c.protect L ns ctr n p).2 c'
      unfold QSFrameContext.protect
      cases hcur : c.currentEpoch with
      | none => exact h
      | some e => exact h.ensureKey_left e
  | unprotect e ns ctr n p =>
      obtain rfl : ns = A := of_decide_eq_true hop
      exact h.ensureKey_left e

/-- A call on another namespace returns the same on both sides. -/
theorem AgreeOff.sframeStep_result (h : AgreeOff A c c') {B : Namespace} (hne : B ≠ A)
    {op : SFrameOp Namespace} (hop : calledOn B op = true) :
    (Model.sframeStep L c op).1 = (Model.sframeStep L c' op).1 := by
  cases op with
  | addEpoch e secret => cases hop
  | enableEpoch e => cases hop
  | protect ns ctr n p =>
      obtain rfl : ns = B := of_decide_eq_true hop
      show (c.protect L ns ctr n p).1 = (c'.protect L ns ctr n p).1
      unfold QSFrameContext.protect
      rw [← h.currentEpoch]
      cases hcur : c.currentEpoch with
      | none => rfl
      | some e =>
          simp only
          rw [h.ensureKey_lookup e hne]
  | unprotect e ns ctr n p =>
      obtain rfl : ns = B := of_decide_eq_true hop
      show (c.unprotect L e ns ctr n p).1 = (c'.unprotect L e ns ctr n p).1
      unfold QSFrameContext.unprotect
      simp only
      rw [h.ensureKey_lookup e hne]

end Reading

/-! ## Histories -/

section Isolation

variable {Suite Ctx Namespace : Type} [DecidableEq Namespace] (L : Libs Suite Ctx Namespace)

/-- **Namespaces do not interfere.** Take any calls on `A` out of a history: the calls on
every other namespace return what they returned before, whatever epochs the removed calls
named and whatever is added or enabled in between.
SOURCE: src/QSFrameContext.cpp:33-79 -/
theorem resultsOn_removed (suite : Suite) {A B : Namespace} (hne : A ≠ B)
    {history remaining : List (SFrameOp Namespace)}
    (hremoved : Removed (fun op => calledOn A op = true) history remaining) :
    resultsOn L suite B remaining = resultsOn L suite B history := by
  unfold resultsOn
  symm
  apply observed_removed (sframeStep L) (calledOn B) _ (AgreeOff A) (calledOn_ne hne) _ _ _ hremoved
  · exact ⟨rfl, rfl, fun _ => rfl, fun _ _ => rfl⟩
  · intro c c' op hop h
    exact h.sframeStep_left hop
  · intro c c' op h
    exact h.sframeStep op
  · intro c c' op h hop
    exact h.sframeStep_result hne.symm hop

/-- An object for another namespace arrives under an epoch nobody knows before its secret is
added: the results on the first namespace are the same without it. -/
theorem resultsOn_without_audio :
    resultsOn referenceLibs .aesGcm128Sha256 mediaNamespace
        [.enableEpoch 7, .protect mediaNamespace 1 17 [42], .addEpoch 7 [1, 2, 3]] =
      resultsOn referenceLibs .aesGcm128Sha256 mediaNamespace
        [.unprotect 7 audioNamespace 1 17 [0], .enableEpoch 7,
          .protect mediaNamespace 1 17 [42], .addEpoch 7 [1, 2, 3]] :=
  resultsOn_removed referenceLibs .aesGcm128Sha256 (A := audioNamespace) (by decide)
    (.remove (by decide) (.keep (.keep (.keep .nil))))

end Isolation

end Qmedia.Analysis
