import Qmedia.Analysis.KeyProvenance

/-!
# Two contexts that follow one key schedule

The participants of a conference are given the same secrets for the same epochs, each when it
gets there. If the first use of a namespace names an epoch that was added before it, the
namespace's `sframe::ContextBase` is the one of that epoch's secret for good, whatever is
added, enabled, sent or received afterwards (`afterHistory_scheduled`). So what one context
protects under an epoch another one opens exactly if it has used the namespace under no other
epoch first (`unprotect_rotated_if`): a receiver that joins late reads the new epoch, and one
that has received an object of an earlier epoch on the namespace is locked out of it.
-/

set_option autoImplicit false

namespace Qmedia.Analysis

open Qmedia.Library Qmedia.Model Qmedia.Model.QSFrameContext

variable {Suite Ctx Namespace : Type}

/-- The secrets that a history adds are those of the schedule. -/
def Follows (schedule : Epoch → Bytes) (history : List (SFrameOp Namespace)) : Prop :=
  ∀ e secret, SFrameOp.addEpoch e secret ∈ history → secret = schedule e

/-- The secret that a call adds, if it adds one, is the schedule's. -/
def ofSchedule (schedule : Epoch → Bytes) : SFrameOp Namespace → Bool
  | .addEpoch e secret => secret = schedule e
  | _ => true

/-- A history follows the schedule if each of its calls does. -/
theorem follows_of_forall {schedule : Epoch → Bytes} {history : List (SFrameOp Namespace)}
    (h : ∀ op ∈ history, ofSchedule schedule op = true) : Follows schedule history :=
  fun _ _ hmem => of_decide_eq_true (h _ hmem)

/-- An epoch has been added. -/
def Added (history : List (SFrameOp Namespace)) (e : Epoch) : Prop :=
  ∃ secret, SFrameOp.addEpoch e secret ∈ history

/-- So does its beginning. -/
theorem Follows.of_append {schedule : Epoch → Bytes} {history rest : List (SFrameOp Namespace)}
    (h : Follows schedule (history ++ rest)) : Follows schedule history :=
  fun e secret hmem => h e secret (List.mem_append_left _ hmem)

/-- An epoch once added stays added. -/
theorem Added.append {history : List (SFrameOp Namespace)} {e : Epoch} (h : Added history e)
    (rest : List (SFrameOp Namespace)) : Added (history ++ rest) e := by
  obtain ⟨secret, hmem⟩ := h
  exact ⟨secret, List.mem_append_left _ hmem⟩

variable [DecidableEq Namespace]

/-- The first use of the namespace, if there is one, names an epoch that was added before it. -/
def FirstUseAdded (history : List (SFrameOp Namespace)) (ns : Namespace) : Prop :=
  ∀ pre op post, history = pre ++ op :: post → ∀ e,
    keyUse (currentEpochAfter pre) op = some (ns, e) → firstEpoch pre ns = none → Added pre e

/-- Nothing has been used yet. -/
theorem FirstUseAdded.nil (ns : Namespace) : FirstUseAdded [] ns := by
  intro pre op post hsplit
  simp at hsplit

/-- The beginning of a history names added epochs first if the whole does. -/
theorem FirstUseAdded.of_append {history rest : List (SFrameOp Namespace)} {ns : Namespace}
    (h : FirstUseAdded (history ++ rest) ns) : FirstUseAdded history ns := by
  intro pre op post hsplit e huse hfirst
  exact h pre op (post ++ rest) (by rw [hsplit]; simp) e huse hfirst

/-- One more call. -/
theorem FirstUseAdded.concat {history : List (SFrameOp Namespace)} {ns : Namespace}
    (h : FirstUseAdded history ns) (op : SFrameOp Namespace)
    (hop : ∀ e, keyUse (currentEpochAfter history) op = some (ns, e) →
      firstEpoch history ns = none → Added history e) : FirstUseAdded (history ++ [op]) ns := by
  intro pre op' post hsplit
  rcases List.eq_nil_or_concat post with rfl | ⟨post, last, rfl⟩
  · obtain ⟨rfl, heq⟩ := List.append_inj' hsplit rfl
    obtain rfl : op = op' := List.singleton_inj.mp heq
    exact hop
  · rw [List.concat_eq_append, ← List.cons_append, ← List.append_assoc] at hsplit
    obtain ⟨hhistory, -⟩ := List.append_inj' hsplit rfl
    exact h pre op' post hhistory

variable (L : Libs Suite Ctx Namespace) (suite : Suite) (schedule : Epoch → Bytes)

omit [DecidableEq Namespace] in
/-- The context of a namespace under the schedule's secret of an epoch. -/
def scheduledContext (e : Epoch) (ns : Namespace) : Ctx :=
  L.addKey (L.contextBase suite) e (L.hkdfExtract suite (baseKeySalt L.toQuicr ns) (schedule e))

/-- An added epoch derives the schedule's key. -/
theorem derivedKey_scheduled {history : List (SFrameOp Namespace)}
    (hfollows : Follows schedule history) {e : Epoch} (hadded : Added history e)
    (ns : Namespace) : derivedKey L (afterHistory L suite history) e ns =
      L.hkdfExtract suite (baseKeySalt L.toQuicr ns) (schedule e) := by
  obtain ⟨secret, hlookup, hmem⟩ := epochSecrets_lookup L suite history e hadded
  unfold derivedKey
  rw [hlookup, afterHistory_cipherSuite, ← hfollows e secret hmem]
  rfl

section Keyed

variable (hkeys : L.KeyLaws) (hidem : L.AddKeyIdem)
include hkeys

omit [DecidableEq Namespace] in
/-- It has the key of its own epoch and no other. -/
theorem hasKey_scheduledContext (e e' : Epoch) (ns : Namespace) :
    L.hasKey (scheduledContext L suite schedule e ns) e' = decide (e' = e) := by
  unfold scheduledContext
  rw [hkeys.hasKey_addKey, hkeys.hasKey_contextBase, Bool.or_false]

include hidem

/-- **Key schedule.** After every history the context of a namespace whose first use named an
added epoch is the one of that epoch's secret.
SOURCE: src/QSFrameContext.cpp:55-79 -/
theorem afterHistory_scheduled (history : List (SFrameOp Namespace))
    (hfollows : Follows schedule history) (ns : Namespace) (hfirst : FirstUseAdded history ns)
    (ctx : Ctx) (hl : (afterHistory L suite history).nsContexts.lookup ns = some ctx) :
    ∃ e, Added history e ∧ ctx = scheduledContext L suite schedule e ns := by
  induction history using List.reverseRecOn generalizing ctx with
  | nil => cases hl
  | append_singleton ops op ih =>
      -- the context that was there before the call
      have hbefore (ctx : Ctx)
          (hl : (afterHistory L suite ops).nsContexts.lookup ns = some ctx) :
          ∃ e, Added ops e ∧ ctx = scheduledContext L suite schedule e ns :=
        ih hfollows.of_append hfirst.of_append ctx hl
      have hkept (hl : (afterHistory L suite ops).nsContexts.lookup ns = some ctx) :
          ∃ e, Added (ops ++ [op]) e ∧ ctx = scheduledContext L suite schedule e ns := by
        obtain ⟨e, hadded, hctx⟩ := hbefore ctx hl
        exact ⟨e, hadded.append [op], hctx⟩
      rw [afterHistory_append_singleton] at hl
      cases huse : keyUse (afterHistory L suite ops).currentEpoch op with
      | none =>
          rw [sframeStep_nsContexts L _ op huse] at hl
          exact hkept hl
      | some u =>
          obtain ⟨ns₁, e⟩ := u
          rw [sframeStep_snd L _ op ns₁ e huse] at hl
          by_cases hns : ns = ns₁
          · subst hns
            rcases ensureKey_cases L (afterHistory L suite ops) e ns with
              ⟨ctx₀, hl₀, -, heq⟩ | ⟨ctx₀, hctx₀, heq⟩
            · rw [heq] at hl
              exact hkept hl
            · rw [heq, AList.lookup_insert] at hl
              obtain rfl := Option.some.inj hl
              rcases hctx₀ with ⟨hl₀, hkey⟩ | ⟨hfree, rfl⟩
              · -- the key that is added is the one the context has
                obtain ⟨e₀, hadded, rfl⟩ := hbefore ctx₀ hl₀
                rw [hasKey_scheduledContext L suite schedule hkeys] at hkey
                obtain rfl := of_decide_eq_true hkey
                refine ⟨e, hadded.append [op], ?_⟩
                rw [derivedKey_scheduled L suite schedule hfollows.of_append hadded]
                exact hidem _ _ _
              · have hunused : firstEpoch ops ns = none :=
                  Refines.eq_none (afterHistory_locked L hkeys suite ops) hfree
                rw [afterHistory_currentEpoch] at huse
                have hadded : Added ops e := hfirst ops op [] (by simp) e huse hunused
                refine ⟨e, hadded.append [op], ?_⟩
                rw [derivedKey_scheduled L suite schedule hfollows.of_append hadded,
                  afterHistory_cipherSuite]
                rfl
          · rw [ensureKey_lookup_ne L _ e hns] at hl
            exact hkept hl

/-- A call under an added epoch on a namespace that no other epoch was first to use finds the
schedule's context of that epoch. -/
theorem ensureKey_scheduled {history : List (SFrameOp Namespace)}
    (hfollows : Follows schedule history) {ns : Namespace} (hfirst : FirstUseAdded history ns)
    {e : Epoch} (hadded : Added history e)
    (hown : firstEpoch history ns = none ∨ firstEpoch history ns = some e) :
    (ensureKey L (afterHistory L suite history) e ns).nsContexts.lookup ns =
      some (scheduledContext L suite schedule e ns) := by
  have hlock := afterHistory_locked L hkeys suite history
  have hkey := derivedKey_scheduled L suite schedule hfollows hadded ns
  rcases ensureKey_cases L (afterHistory L suite history) e ns with
    ⟨ctx, hl, hno, -⟩ | ⟨ctx, hctx, heq⟩
  · -- a context without the key belongs to another epoch
    obtain ⟨e₀, ho, hhas⟩ := Refines.exists_of_some hlock hl
    rw [hhas] at hno
    rcases hown with hfree | hsame
    · rw [hfree] at ho
      cases ho
    · rw [hsame] at ho
      obtain rfl := Option.some.inj ho
      simp at hno
  · rw [heq]
    refine (AList.lookup_insert _).trans (congrArg some ?_)
    rw [hkey]
    rcases hctx with ⟨hl, hhas⟩ | ⟨-, rfl⟩
    · obtain ⟨e₀, -, rfl⟩ :=
        afterHistory_scheduled L suite schedule hkeys hidem history hfollows ns hfirst ctx hl
      rw [hasKey_scheduledContext L suite schedule hkeys] at hhas
      obtain rfl := of_decide_eq_true hhas
      exact hidem _ _ _
    · rw [afterHistory_cipherSuite]
      rfl

end Keyed

section Exchange

variable (hkeys : L.KeyLaws) (hreq : L.KeyRequired) (hidem : L.AddKeyIdem) (hround : L.RoundTrip)
include hkeys hreq

/-- A call that gets past `ensure_key` is under the epoch that was first to use the
namespace. -/
theorem firstEpoch_of_some {history : List (SFrameOp Namespace)} {op : SFrameOp Namespace}
    {ns : Namespace} {e : Epoch} {result : Bytes}
    (huse : keyUse (currentEpochAfter history) op = some (ns, e))
    (hresult : (sframeStep L (afterHistory L suite history) op).1 = some result) :
    firstEpoch history ns = none ∨ firstEpoch history ns = some e := by
  rw [← afterHistory_currentEpoch L suite] at huse
  cases hheld : keyHeld L (afterHistory L suite history) ns e with
  | false =>
      rw [sframeStep_eq_none L hreq suite history op ns e huse hheld] at hresult
      cases hresult
  | true =>
      have hown := (keyHeld_iff L hkeys suite history ns e).mp hheld
      cases hfirst : firstEpoch history ns with
      | none => exact Or.inl rfl
      | some e' => exact Or.inr (congrArg some (hown e' hfirst))

include hidem hround

/-- **Rotation.** Let two contexts of one suite follow one key schedule through any histories of
calls, and let the first use of `ns` in each name an epoch it had added. What the one protects
for `ns` under its current epoch, the other, having added that epoch, opens if it has not used
`ns` or used it first under that epoch; if it used it first under another one, it throws.
SOURCE: src/QSFrameContext.cpp:21-79 -/
theorem unprotect_rotated_if {sender receiver : List (SFrameOp Namespace)}
    (hsender : Follows schedule sender) (hreceiver : Follows schedule receiver) {ns : Namespace}
    (hsenderFirst : FirstUseAdded sender ns) (hreceiverFirst : FirstUseAdded receiver ns)
    {e : Epoch} (hcurrent : currentEpochAfter sender = some e) (hsenderAdded : Added sender e)
    (hreceiverAdded : Added receiver e) {ctr : Counter} {bufferSize bufferSize' : ℕ}
    {plaintext ciphertext : Bytes}
    (hsent : (sframeStep L (afterHistory L suite sender)
      (.protect ns ctr bufferSize plaintext)).1 = some ciphertext)
    (hbuffer : ciphertext.length ≤ bufferSize') :
    (sframeStep L (afterHistory L suite receiver)
        (.unprotect e ns ctr bufferSize' ciphertext)).1 =
      if firstEpoch receiver ns = none ∨ firstEpoch receiver ns = some e then some plaintext
      else none := by
  have huse : keyUse (currentEpochAfter sender) (.protect ns ctr bufferSize plaintext) =
      some (ns, e) := by
    rw [hcurrent]
    rfl
  have hsealed : L.protect (scheduledContext L suite schedule e ns) ⟨e, ctr⟩ bufferSize plaintext =
      some ciphertext := by
    have hown := firstEpoch_of_some L suite hkeys hreq huse hsent
    change ((afterHistory L suite sender).protect L ns ctr bufferSize plaintext).1 = _ at hsent
    unfold QSFrameContext.protect at hsent
    rw [afterHistory_currentEpoch, hcurrent] at hsent
    simpa only [ensureKey_scheduled L suite schedule hkeys hidem hsender hsenderFirst hsenderAdded
      hown, Option.bind_some] using hsent
  split
  · rename_i hown
    show ((ensureKey L (afterHistory L suite receiver) e ns).nsContexts.lookup ns).bind _ = _
    rw [ensureKey_scheduled L suite schedule hkeys hidem hreceiver hreceiverFirst hreceiverAdded
      hown, Option.bind_some]
    exact hround _ _ _ _ _ _ hsealed hbuffer
  · rename_i hother
    cases hopened : (sframeStep L (afterHistory L suite receiver)
        (.unprotect e ns ctr bufferSize' ciphertext)).1 with
    | none => rfl
    | some result =>
        exact absurd (firstEpoch_of_some L suite hkeys hreq rfl hopened) hother

end Exchange

/-- A sender that has moved on to epoch 2. -/
def rotatedSender : List (SFrameOp Prefix) :=
  [.addEpoch 1 [0x0a], .enableEpoch 1, .protect audioNamespace 1 17 [0x2a], .addEpoch 2 [0x0b],
    .enableEpoch 2]

/-- A receiver that is given the secrets in the other order and has opened nothing on the
namespace. -/
def lateReceiver : List (SFrameOp Prefix) :=
  [.addEpoch 2 [0x0b], .addEpoch 1 [0x0a]]

/-- A receiver that has tried an object of epoch 1 on the namespace. -/
def earlyReceiver : List (SFrameOp Prefix) :=
  [.addEpoch 1 [0x0a], .unprotect 1 mediaNamespace 1 17 [0], .addEpoch 2 [0x0b]]

/-- The secrets of epochs 1 and 2. -/
def twoEpochs (e : Epoch) : Bytes := if e = 1 then [0x0a] else [0x0b]

/-- One payload byte sealed under epoch 2. -/
def rotatedCiphertext : Bytes :=
  tag (baseKeySalt referenceQuicr mediaNamespace ++ [0, 0x0b]) ⟨2, 0x10001⟩ [0x2a] ++ [0x2a]

/-- The sender has used another namespace only. -/
theorem rotatedSender_firstUseAdded : FirstUseAdded rotatedSender mediaNamespace := by
  refine (((((FirstUseAdded.nil _).concat (.addEpoch 1 [0x0a]) nofun).concat
    (.enableEpoch 1) nofun).concat (.protect audioNamespace 1 17 [0x2a]) ?_).concat
    (.addEpoch 2 [0x0b]) nofun).concat (.enableEpoch 2) nofun
  intro e huse
  exact absurd (Prod.mk.inj (Option.some.inj huse)).1 (by decide)

/-- The late receiver has used none. -/
theorem lateReceiver_firstUseAdded : FirstUseAdded lateReceiver mediaNamespace :=
  ((FirstUseAdded.nil _).concat (.addEpoch 2 [0x0b]) nofun).concat (.addEpoch 1 [0x0a]) nofun

/-- The early receiver first used the namespace under epoch 1, which had been added. -/
theorem earlyReceiver_firstUseAdded : FirstUseAdded earlyReceiver mediaNamespace := by
  refine (((FirstUseAdded.nil _).concat (.addEpoch 1 [0x0a]) nofun).concat
    (.unprotect 1 mediaNamespace 1 17 [0]) ?_).concat (.addEpoch 2 [0x0b]) nofun
  intro e huse _
  obtain rfl : 1 = e := (Prod.mk.inj (Option.some.inj huse)).2
  exact ⟨[0x0a], List.mem_singleton_self _⟩

/-- The late receiver opens the byte, the early one throws. -/
theorem unprotect_rotated_if_receivers :
    (sframeStep referenceLibs (afterHistory referenceLibs .aesGcm128Sha256 lateReceiver)
        (.unprotect 2 mediaNamespace 0x10001 17 rotatedCiphertext)).1 = some [0x2a] ∧
      (sframeStep referenceLibs (afterHistory referenceLibs .aesGcm128Sha256 earlyReceiver)
        (.unprotect 2 mediaNamespace 0x10001 17 rotatedCiphertext)).1 = none := by
  have hsent : (sframeStep referenceLibs
      (afterHistory referenceLibs .aesGcm128Sha256 rotatedSender)
      (.protect mediaNamespace 0x10001 17 [0x2a])).1 = some rotatedCiphertext := by
    decide +kernel
  have hadded : Added rotatedSender 2 := ⟨[0x0b], by simp [rotatedSender]⟩
  constructor
  · rw [unprotect_rotated_if referenceLibs .aesGcm128Sha256 twoEpochs referenceLibs_keyLaws
      referenceLibs_keyRequired referenceLibs_addKeyIdem referenceLibs_roundTrip
      (follows_of_forall (by decide)) (follows_of_forall (by decide)) rotatedSender_firstUseAdded
      lateReceiver_firstUseAdded (by decide) hadded ⟨[0x0b], by simp [lateReceiver]⟩ hsent
      (by decide)]
    decide
  · rw [unprotect_rotated_if referenceLibs .aesGcm128Sha256 twoEpochs referenceLibs_keyLaws
      referenceLibs_keyRequired referenceLibs_addKeyIdem referenceLibs_roundTrip
      (follows_of_forall (by decide)) (follows_of_forall (by decide)) rotatedSender_firstUseAdded
      earlyReceiver_firstUseAdded (by decide) hadded ⟨[0x0b], by simp [earlyReceiver]⟩ hsent
      (by decide)]
    decide

end Qmedia.Analysis
