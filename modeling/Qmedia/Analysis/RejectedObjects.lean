import Qmedia.Analysis.DelegateContext

/-!
# What a rejected object leaves behind

An encrypting `SubscriptionDelegate` is, abstractly, an epoch lock: an object that can
be read writes the lock of its 80-bit namespace (first writer wins), and is forwarded
exactly if its epoch owns the namespace and its ciphertext opens under that epoch's
key (`lockStep`, `receiveStep_locked`). The loss statistics never decide what is
forwarded.

An object that is rejected has still written the lock. Deleting it from a sequence
changes what happens to later objects of its namespace exactly if it was the first one
there, the next one names another epoch, and some later object of either epoch is
authentic (`deletionHarmless_iff`).
-/

set_option autoImplicit false

namespace Qmedia.Analysis

open Qmedia.Library Qmedia.Model

/-! ## The abstract receiver -/

section Abstract

variable {Suite Ctx Namespace : Type} [DecidableEq Namespace]
variable (L : Libs Suite Ctx Namespace) (suite : Suite)

omit [DecidableEq Namespace] in
/-- The 80-bit namespace and the epoch of an object that reaches SFrame; an empty
object, or one whose epoch cannot be decoded, does not. -/
def addressed (x : Received) : Option (Namespace × Epoch) :=
  if x.data = [] then none
  else (L.readVarInt x.data).map
    fun r => (L.namespaceOf x.quicrName quicrSFrameSigBits, r.1)

omit [DecidableEq Namespace] in
/-- The payload, if the object is authentic under the key of the epoch it names. -/
def opened (x : Received) : Option Bytes :=
  (L.readVarInt x.data).bind fun r =>
    L.unprotect (keyedContext L suite r.1 (L.namespaceOf x.quicrName quicrSFrameSigBits))
      ⟨r.1, bits 64 x.quicrName 0 48⟩ r.2.length r.2

omit [DecidableEq Namespace] in
/-- The record that a delegate of `dns` forwards for an object that can be opened. -/
def forwardOf (dns : Namespace) (x : Received) : Option (Forwarded Namespace) :=
  (opened L suite x).map
    fun p => ⟨dns, p, bits 32 x.quicrName 16 32, bits 16 x.quicrName 0 16⟩

omit [DecidableEq Namespace] in
/-- An object is forwarded unless it cannot be opened. -/
theorem forwardOf_eq_none (dns : Namespace) (x : Received) :
    forwardOf L suite dns x = none ↔ opened L suite x = none := by
  unfold forwardOf
  rw [Option.map_eq_none_iff]

/-- One received object, on the lock alone. -/
def lockStep (dns : Namespace) (owner : Namespace → Option Epoch) (x : Received) :
    Option (Forwarded Namespace) × (Namespace → Option Epoch) :=
  match addressed L x with
  | none => (none, owner)
  | some (ns, e) =>
      (if latch owner ns e ns = some e then forwardOf L suite dns x else none,
        latch owner ns e)

/-- An object that addresses no epoch changes no lock. -/
theorem lockStep_none (dns : Namespace) (owner : Namespace → Option Epoch) {x : Received}
    (hx : addressed L x = none) : lockStep L suite dns owner x = (none, owner) := by
  unfold lockStep
  rw [hx]

/-- An object locks its namespace to its epoch if it is free, and passes if the lock is its own.
-/
theorem lockStep_some (dns : Namespace) (owner : Namespace → Option Epoch) {x : Received}
    {ns : Namespace} {e : Epoch} (hx : addressed L x = some (ns, e)) :
    lockStep L suite dns owner x =
      (if latch owner ns e ns = some e then forwardOf L suite dns x else none,
        latch owner ns e) := by
  unfold lockStep
  rw [hx]

/-- The epoch of the next object of the namespace. -/
def nextEpoch (xs : List Received) (ns : Namespace) : Option Epoch :=
  ((xs.filterMap (addressed L)).find? (fun u => u.1 = ns)).map Prod.snd

/-- An object that addresses no epoch is passed over. -/
theorem nextEpoch_cons_none {x : Received} (hx : addressed L x = none) (xs : List Received)
    (ns : Namespace) : nextEpoch L (x :: xs) ns = nextEpoch L xs ns := by
  unfold nextEpoch
  rw [List.filterMap_cons_none hx]

/-- The first object of a namespace gives its next epoch. -/
theorem nextEpoch_cons_some {x : Received} {ns' : Namespace} {e : Epoch}
    (hx : addressed L x = some (ns', e)) (xs : List Received) (ns : Namespace) :
    nextEpoch L (x :: xs) ns = if ns' = ns then some e else nextEpoch L xs ns := by
  unfold nextEpoch
  rw [List.filterMap_cons_some hx, List.find?_cons]
  by_cases h : ns' = ns <;> simp [h]

/-- The lock after a run: the first writes of its addressed objects. -/
theorem finalState_lockStep (dns : Namespace) (owner : Namespace → Option Epoch)
    (xs : List Received) :
    finalState (lockStep L suite dns) owner xs =
      latchAll owner (xs.filterMap (addressed L)) := by
  induction xs generalizing owner with
  | nil => rfl
  | cons x xs ih =>
      rw [finalState_cons, ih]
      cases hx : addressed L x with
      | none => rw [lockStep_none L suite dns owner hx, List.filterMap_cons_none hx]
      | some u =>
          rw [lockStep_some L suite dns owner hx, List.filterMap_cons_some hx, latchAll_cons]

/-- A free lock may be written in advance with the epoch the next object of the
namespace is going to write anyway. -/
theorem outputs_latch_next (dns : Namespace) (ns : Namespace) (e : Epoch) (xs : List Received)
    (owner : Namespace → Option Epoch) (hfree : owner ns = none)
    (hnext : nextEpoch L xs ns = none ∨ nextEpoch L xs ns = some e) :
    outputs (lockStep L suite dns) owner xs =
      outputs (lockStep L suite dns) (latch owner ns e) xs := by
  induction xs generalizing owner with
  | nil => rfl
  | cons x xs ih =>
      rw [outputs_cons, outputs_cons]
      cases hx : addressed L x with
      | none =>
          rw [nextEpoch_cons_none L hx] at hnext
          rw [lockStep_none L suite dns _ hx, lockStep_none L suite dns _ hx]
          exact congrArg _ (ih owner hfree hnext)
      | some u =>
          obtain ⟨ns', e'⟩ := u
          rw [nextEpoch_cons_some L hx] at hnext
          rw [lockStep_some L suite dns _ hx, lockStep_some L suite dns _ hx]
          by_cases hns : ns' = ns
          · subst hns
            obtain rfl : e' = e := by simpa using hnext
            -- writing in advance is the write this object makes
            have htaken : (latch owner ns' e' ns').isSome := by simp [hfree]
            rw [latch_eq_self (latch owner ns' e') ns' e' htaken]
          · rw [if_neg hns] at hnext
            have hfree' : latch owner ns' e' ns = none := by
              rw [latch_of_ne owner e' (Ne.symm hns), hfree]
            rw [latch_comm owner e e' hns, latch_of_ne (latch owner ns' e') e hns]
            exact congrArg _ (ih _ hfree' hnext)

/-- What is allowed under only one of two epochs comes to the same under both exactly if it
is nothing where they would differ. -/
theorem allowed_eq_iff {α : Type} {a b e : Epoch} (hab : a ≠ b) (r : Option α) :
    (if some a = some e then r else none) = (if some b = some e then r else none) ↔
      (e = a ∨ e = b → r = none) := by
  simp only [Option.some.injEq]
  constructor
  · intro heq
    rintro (rfl | rfl)
    · rwa [if_pos rfl, if_neg (Ne.symm hab)] at heq
    · rw [if_pos rfl, if_neg hab] at heq
      exact heq.symm
  · intro hr
    by_cases he : e = a ∨ e = b
    · rw [hr he, ite_self, ite_self]
    · rw [not_or] at he
      rw [if_neg (Ne.symm he.1), if_neg (Ne.symm he.2)]

/-- Two locks that differ only in the epoch owning `ns` treat a run alike exactly if no
object of the namespace that names one of the two epochs is authentic. -/
theorem outputs_latch_iff (dns : Namespace) (ns : Namespace) (a b : Epoch) (hab : a ≠ b)
    (xs : List Received) (owner : Namespace → Option Epoch) (hfree : owner ns = none) :
    outputs (lockStep L suite dns) (latch owner ns a) xs =
        outputs (lockStep L suite dns) (latch owner ns b) xs ↔
      ∀ z ∈ xs, ∀ e, addressed L z = some (ns, e) → e = a ∨ e = b → opened L suite z = none := by
  induction xs generalizing owner with
  | nil => simp
  | cons x xs ih =>
      rw [outputs_cons, outputs_cons, List.cons.injEq, List.forall_mem_cons]
      cases hx : addressed L x with
      | none =>
          rw [lockStep_none L suite dns _ hx, lockStep_none L suite dns _ hx, ih owner hfree]
          simp
      | some u =>
          obtain ⟨ns', e'⟩ := u
          rw [lockStep_some L suite dns _ hx, lockStep_some L suite dns _ hx]
          by_cases hns : ns' = ns
          · subst hns
            have hsome (c : Epoch) : (latch owner ns' c ns').isSome := by simp [hfree]
            have hval (c : Epoch) : latch owner ns' c ns' = some c := by simp [hfree]
            rw [latch_eq_self _ ns' e' (hsome a), latch_eq_self _ ns' e' (hsome b), hval, hval,
              ih owner hfree]
            refine and_congr_left ?_
            intro _
            rw [allowed_eq_iff hab, forwardOf_eq_none]
            constructor
            · intro hrejects e he
              obtain rfl : e' = e := by simpa using he
              exact hrejects
            · exact fun hrejects => hrejects e' rfl
          · have hfree' : latch owner ns' e' ns = none := by
              rw [latch_of_ne owner e' (Ne.symm hns), hfree]
            rw [latch_comm owner a e' hns, latch_comm owner b e' hns, latch_of_ne _ a hns,
              latch_of_ne _ b hns, ih _ hfree']
            simp [hns]

end Abstract

/-! ## The delegate refines the lock -/

section Refinement

variable {Suite Ctx Namespace : Type} [DecidableEq Namespace]
variable (L : Libs Suite Ctx Namespace) (suite : Suite)

/-- A delegate for the namespace `dns` whose SFrame context refines the lock. -/
def ReceiverLocked (dns : Namespace) (d : SubscriptionDelegate Suite Ctx Namespace)
    (owner : Namespace → Option Epoch) : Prop :=
  d.quicrNamespace = dns ∧ ∃ c, d.sframeContext = some c ∧ ContextLocked L suite c owner

omit [DecidableEq Namespace] in
/-- Counting leaves the namespace. -/
@[simp] theorem countObject_quicrNamespace (d : SubscriptionDelegate Suite Ctx Namespace)
    (g : BitVec 32) (o : BitVec 16) : (d.countObject g o).quicrNamespace = d.quicrNamespace := by
  unfold SubscriptionDelegate.countObject
  split
  rfl

omit [DecidableEq Namespace] in
/-- Counting leaves the SFrame context. -/
@[simp] theorem countObject_sframeContext (d : SubscriptionDelegate Suite Ctx Namespace)
    (g : BitVec 32) (o : BitVec 16) : (d.countObject g o).sframeContext = d.sframeContext := by
  unfold SubscriptionDelegate.countObject
  split
  rfl

/-- A new receiving delegate has locked nothing. -/
theorem create_receiverLocked (sourceId : SourceId) (dns : Namespace) (intent : SubscribeIntent)
    (originUrl authToken : String) (e2eToken : Bytes) (qDelegate : Ref)
    (uninitialised : LossCounters) :
    ReceiverLocked L suite dns
      (SubscriptionDelegate.create L.toSFrame sourceId dns intent originUrl authToken e2eToken
        qDelegate (some suite) uninitialised) (fun _ => none) :=
  ⟨rfl, _, rfl, (newSFrameContext_locked L suite _ rfl).1⟩

variable (hkeys : L.KeyLaws) (hreq : L.KeyRequired) (hidem : L.AddKeyIdem)
include hkeys hreq hidem

/-- One received object gives what the lock gives, and keeps the refinement. -/
theorem receiveStep_locked (dns : Namespace) (d : SubscriptionDelegate Suite Ctx Namespace)
    (owner : Namespace → Option Epoch) (x : Received) (h : ReceiverLocked L suite dns d owner) :
    (receiveStep L d x).1 = (lockStep L suite dns owner x).1 ∧
      ReceiverLocked L suite dns (receiveStep L d x).2 (lockStep L suite dns owner x).2 := by
  obtain ⟨hdns, c, hc, hlock⟩ := h
  unfold receiveStep SubscriptionDelegate.onSubscribedObject
  by_cases hdata : x.data = []
  · have hx : addressed L x = none := by simp [addressed, hdata]
    rw [if_pos hdata, lockStep_none L suite dns owner hx]
    exact ⟨rfl, hdns, c, hc, hlock⟩
  · rw [if_neg hdata]
    simp only [countObject_sframeContext, hc]
    cases hread : L.readVarInt x.data with
    | none =>
        have hx : addressed L x = none := by simp [addressed, hread]
        rw [lockStep_none L suite dns owner hx]
        exact ⟨rfl, by rw [countObject_quicrNamespace, hdns], c,
          by rw [countObject_sframeContext, hc], hlock⟩
    | some r =>
        obtain ⟨e, ciphertext⟩ := r
        have hx : addressed L x = some (L.namespaceOf x.quicrName quicrSFrameSigBits, e) := by
          simp [addressed, hdata, hread]
        obtain ⟨hres, hlock'⟩ := unprotect_locked L suite hkeys hidem hreq hlock e
          (L.namespaceOf x.quicrName quicrSFrameSigBits) (bits 64 x.quicrName 0 48)
          ciphertext.length ciphertext
        rw [lockStep_some L suite dns owner hx]
        have hopen : opened L suite x = L.unprotect
            (keyedContext L suite e (L.namespaceOf x.quicrName quicrSFrameSigBits))
            ⟨e, bits 64 x.quicrName 0 48⟩ ciphertext.length ciphertext := by
          simp [opened, hread]
        unfold forwardOf
        rw [hopen]
        simp only [hres]
        by_cases howner : latch owner (L.namespaceOf x.quicrName quicrSFrameSigBits) e
            (L.namespaceOf x.quicrName quicrSFrameSigBits) = some e
        · rw [if_pos howner, if_pos howner]
          cases L.unprotect
              (keyedContext L suite e (L.namespaceOf x.quicrName quicrSFrameSigBits))
              ⟨e, bits 64 x.quicrName 0 48⟩ ciphertext.length ciphertext with
          | none => exact ⟨rfl, by simpa using hdns, _, rfl, hlock'⟩
          | some p => exact ⟨by simp [hdns], by simpa using hdns, _, rfl, hlock'⟩
        · rw [if_neg howner, if_neg howner]
          exact ⟨rfl, by simpa using hdns, _, rfl, hlock'⟩

/-- **Refinement.** A run of a delegate has the outputs of the lock, and ends in a
delegate that refines it. -/
theorem outputs_receiveStep (dns : Namespace) (d : SubscriptionDelegate Suite Ctx Namespace)
    (owner : Namespace → Option Epoch) (h : ReceiverLocked L suite dns d owner)
    (xs : List Received) :
    outputs (receiveStep L) d xs = outputs (lockStep L suite dns) owner xs ∧
      ReceiverLocked L suite dns (finalState (receiveStep L) d xs)
        (finalState (lockStep L suite dns) owner xs) :=
  outputs_simulation (receiveStep L) (lockStep L suite dns) (ReceiverLocked L suite dns)
    (receiveStep_locked L suite hkeys hreq hidem dns) xs d owner h

end Refinement

/-! ## Deleting one object -/

section Deletion

variable {Suite Ctx Namespace : Type} [DecidableEq Namespace]
variable (L : Libs Suite Ctx Namespace) (suite : Suite)

/-- The object between `pre` and `post` does not decide, through the lock, about a later
authentic object: an earlier object has already written the lock of its namespace, or
the next object there names the same epoch, or no later object of either epoch is
authentic. -/
def LockUndisturbed (pre : List Received) (x : Received) (post : List Received) : Prop :=
  ∀ ns e, addressed L x = some (ns, e) →
    (∃ y ∈ pre, ∃ e', addressed L y = some (ns, e')) ∨
    ∀ e₁, nextEpoch L post ns = some e₁ → e₁ = e ∨
      ∀ z ∈ post, ∀ e', addressed L z = some (ns, e') → e' = e ∨ e' = e₁ →
        opened L suite z = none

/-- The lock of a namespace is written once an object of it has come. -/
theorem finalState_lockStep_isSome_iff (dns : Namespace) (pre : List Received) (ns : Namespace) :
    (finalState (lockStep L suite dns) (fun _ => none) pre ns).isSome ↔
      ∃ y ∈ pre, ∃ e, addressed L y = some (ns, e) := by
  rw [finalState_lockStep, latchAll_isSome]
  constructor
  · rintro (h | ⟨⟨ns', e⟩, hmem, rfl⟩)
    · cases h
    · obtain ⟨y, hy, hy'⟩ := List.mem_filterMap.mp hmem
      exact ⟨y, hy, e, hy'⟩
  · rintro ⟨y, hy, e, hy'⟩
    exact Or.inr ⟨(ns, e), List.mem_filterMap.mpr ⟨y, hy, hy'⟩, rfl⟩

/-- A free lock written in advance matters only against the epoch the next object of the
namespace is going to write. -/
theorem outputs_latch_free_iff (dns : Namespace) (ns : Namespace) (e : Epoch)
    (post : List Received) (owner : Namespace → Option Epoch) (hfree : owner ns = none) :
    outputs (lockStep L suite dns) owner post =
        outputs (lockStep L suite dns) (latch owner ns e) post ↔
      ∀ e₁, nextEpoch L post ns = some e₁ → e₁ = e ∨
        ∀ z ∈ post, ∀ e', addressed L z = some (ns, e') → e' = e ∨ e' = e₁ →
          opened L suite z = none := by
  cases hnext : nextEpoch L post ns with
  | none =>
      rw [← outputs_latch_next L suite dns ns e post owner hfree (Or.inl hnext)]
      simp
  | some e₁ =>
      rw [outputs_latch_next L suite dns ns e₁ post owner hfree (Or.inr hnext)]
      simp only [Option.some.injEq, forall_eq']
      by_cases he : e₁ = e
      · subst he
        simp
      · rw [outputs_latch_iff L suite dns ns e₁ e he post owner hfree]
        simp only [he, false_or]
        constructor
        · exact fun h z hz e' hz' hor => h z hz e' hz' hor.symm
        · exact fun h z hz e' hz' hor => h z hz e' hz' hor.symm

/-- On the lock alone, one object changes the outputs of a later run only if its own
write matters there. -/
theorem outputs_lockStep_iff (dns : Namespace) (pre : List Received) (x : Received)
    (post : List Received) (owner : Namespace → Option Epoch)
    (hpre : owner = finalState (lockStep L suite dns) (fun _ => none) pre) :
    outputs (lockStep L suite dns) owner post =
        outputs (lockStep L suite dns) (lockStep L suite dns owner x).2 post ↔
      LockUndisturbed L suite pre x post := by
  unfold LockUndisturbed
  simp only [← finalState_lockStep_isSome_iff L suite dns, ← hpre]
  cases hx : addressed L x with
  | none =>
      rw [lockStep_none L suite dns owner hx]
      simp
  | some u =>
      obtain ⟨ns, e⟩ := u
      rw [lockStep_some L suite dns owner hx]
      simp only [Option.some.injEq, Prod.mk.injEq, and_imp]
      cases hfree : owner ns with
      | some e₀ =>
          rw [latch_eq_self owner ns e (by rw [hfree]; rfl)]
          simp [hfree]
      | none =>
          rw [outputs_latch_free_iff L suite dns ns e post owner hfree]
          simp [hfree]

/-- Without the object `x` all other objects have the same outcome as with it. -/
def DeletionHarmless (d : SubscriptionDelegate Suite Ctx Namespace) (pre : List Received)
    (x : Received) (post : List Received) : Prop :=
  outputs (receiveStep L) d (pre ++ post) =
    (outputs (receiveStep L) d (pre ++ x :: post)).eraseIdx pre.length

/-- **Deleting an object.** For every delegate with an SFrame context, every sequence of
received objects and every position, deleting the object there leaves the outcome of
all other objects unchanged exactly if its write of the epoch lock is immaterial.
SOURCE: src/QuicrDelegates.cpp:114-213, src/QSFrameContext.cpp:44-79 -/
theorem deletionHarmless_iff (hkeys : L.KeyLaws) (hreq : L.KeyRequired) (hidem : L.AddKeyIdem)
    (sourceId : SourceId) (dns : Namespace) (intent : SubscribeIntent)
    (originUrl authToken : String) (e2eToken : Bytes) (qDelegate : Ref)
    (uninitialised : LossCounters) (pre : List Received) (x : Received) (post : List Received) :
    DeletionHarmless L (SubscriptionDelegate.create L.toSFrame sourceId dns intent originUrl
        authToken e2eToken qDelegate (some suite) uninitialised) pre x post ↔
      LockUndisturbed L suite pre x post := by
  have hd := create_receiverLocked L suite sourceId dns intent originUrl authToken e2eToken
    qDelegate uninitialised
  generalize SubscriptionDelegate.create L.toSFrame sourceId dns intent originUrl authToken
    e2eToken qDelegate (some suite) uninitialised = d at hd
  obtain ⟨-, hpre⟩ := outputs_receiveStep L suite hkeys hreq hidem dns d _ hd pre
  obtain ⟨-, hx⟩ := receiveStep_locked L suite hkeys hreq hidem dns _ _ x hpre
  unfold DeletionHarmless
  rw [outputs_append, outputs_append, outputs_cons,
    List.eraseIdx_append_of_length_le (by simp), length_outputs, Nat.sub_self,
    List.eraseIdx_cons_zero, List.append_cancel_left_eq,
    (outputs_receiveStep L suite hkeys hreq hidem dns _ _ hpre post).1,
    (outputs_receiveStep L suite hkeys hreq hidem dns _ _ hx post).1]
  exact outputs_lockStep_iff L suite dns pre x post _ rfl

end Deletion

/-! ## A forged epoch shuts a namespace out -/

/-- A delegate subscribed to a namespace of the manifest tests. -/
def mediaReceiver : SubscriptionDelegate CipherSuite KeyRing Prefix :=
  SubscriptionDelegate.create referenceSFrame "80a6ac22" mediaNamespace .syncUp "" "" [] 1
    (some .aesGcm128Sha256) ⟨0, 0, 0, 0⟩

/-- Object 1 of group 7, as a publisher with the fixed epoch's key sends it. -/
def genuineObject : Received where
  quicrName := objectName mediaNamespace.name 7 1
  data := writeVar fixedEpoch ++
    ((referenceLibs.protect (keyedContext referenceLibs .aesGcm128Sha256 fixedEpoch mediaNamespace)
      ⟨fixedEpoch, bits 64 (objectName mediaNamespace.name 7 1) 0 48⟩ 20
      [0x2a, 0x2b, 0x2c, 0x2d]).getD [])

/-- Two bytes anyone can send: epoch 2 and no valid tag. -/
def forgedObject : Received where
  quicrName := objectName mediaNamespace.name 7 0
  data := [2, 0]

/-- A forged object before a genuine one. -/
theorem deletionHarmless_iff_forged :
    DeletionHarmless referenceLibs mediaReceiver [] forgedObject [genuineObject] ↔
      LockUndisturbed referenceLibs .aesGcm128Sha256 [] forgedObject [genuineObject] :=
  deletionHarmless_iff referenceLibs .aesGcm128Sha256 referenceLibs_keyLaws
    referenceLibs_keyRequired referenceLibs_addKeyIdem _ _ _ _ _ _ _ _ _ _ _

/-- The forged object is dropped, and so is the genuine one after it; alone the genuine
one is forwarded. -/
theorem forged_epoch_shuts_out :
    outputs (receiveStep referenceLibs) mediaReceiver [forgedObject, genuineObject] =
        [none, none] ∧
      outputs (receiveStep referenceLibs) mediaReceiver [genuineObject] =
        [some ⟨mediaNamespace, [0x2a, 0x2b, 0x2c, 0x2d], 7, 1⟩] ∧
      ¬ DeletionHarmless referenceLibs mediaReceiver [] forgedObject [genuineObject] := by
  have hboth : outputs (receiveStep referenceLibs) mediaReceiver
      [forgedObject, genuineObject] = [none, none] := by decide +kernel
  have halone : outputs (receiveStep referenceLibs) mediaReceiver [genuineObject] =
      [some ⟨mediaNamespace, [0x2a, 0x2b, 0x2c, 0x2d], 7, 1⟩] := by decide +kernel
  refine ⟨hboth, halone, ?_⟩
  intro h
  unfold DeletionHarmless at h
  rw [List.nil_append, List.nil_append, halone, hboth] at h
  cases h

end Qmedia.Analysis
