import Qmedia.Analysis.EpochLock

/-!
# Where the stored keys come from

`derive_base_key` reads the epoch's secret with `epoch_secrets[epoch_id]`, which
yields an empty secret for an epoch that was never added, and the epoch of an
`unprotect` comes from the wire. A key of an unknown epoch is therefore derived from
the empty secret and stored whenever the call is the first of its namespace; any
later call of an unknown epoch is stopped by the epoch lock. So the keys of a context
all come from supplied secrets exactly if every first use of a namespace names an
epoch already added (`keysSupplied_iff_firstUsesAdded`).
-/

set_option autoImplicit false

namespace Qmedia.Analysis

open Qmedia.Library Qmedia.Model Qmedia.Model.QSFrameContext

section Provenance

variable {Suite Ctx Namespace : Type} [DecidableEq Namespace] (L : Libs Suite Ctx Namespace)
variable (stored : Ctx → Epoch → Option Bytes)

/-- Every key stored for a namespace under an epoch was derived for that namespace from
a secret that an `addEpoch` call of the history supplied for that epoch. -/
def KeysSupplied (suite : Suite) (history : List (SFrameOp Namespace)) : Prop :=
  ∀ ns ctx e key, (afterHistory L suite history).nsContexts.lookup ns = some ctx →
    stored ctx e = some key →
    ∃ secret, SFrameOp.addEpoch e secret ∈ history ∧
      key = L.hkdfExtract suite (baseKeySalt L.toQuicr ns) secret

/-- The first call that uses a key of a namespace names an epoch added before it. -/
def FirstUsesAdded (history : List (SFrameOp Namespace)) : Prop :=
  ∀ pre op post, history = pre ++ op :: post → ∀ ns e,
    keyUse (currentEpochAfter pre) op = some (ns, e) → firstEpoch pre ns = none →
    ∃ secret, SFrameOp.addEpoch e secret ∈ pre

/-- `operator[]` changes no entry that is there. -/
theorem subscript_lookup {K V : Type} [DecidableEq K] (m : Map K V) (k : K) (d : V) {k' : K}
    {v : V} (h : m.lookup k' = some v) : (subscript m k d).2.lookup k' = some v := by
  unfold subscript
  cases hk : m.lookup k with
  | some w => exact h
  | none =>
      have hne : k' ≠ k := by
        rintro rfl
        rw [hk] at h
        cases h
      exact (AList.lookup_insert_ne hne).trans h

/-- The last call of a history is made last. -/
theorem afterHistory_append_singleton (suite : Suite) (history : List (SFrameOp Namespace))
    (op : SFrameOp Namespace) :
    afterHistory L suite (history ++ [op]) =
      (sframeStep L (afterHistory L suite history) op).2 := by
  unfold afterHistory
  rw [finalState_append]
  rfl

/-- No call changes the cipher suite. -/
theorem afterHistory_cipherSuite (suite : Suite) (history : List (SFrameOp Namespace)) :
    (afterHistory L suite history).cipherSuite = suite := by
  induction history using List.reverseRecOn with
  | nil => rfl
  | append_singleton ops op ih =>
      rw [afterHistory_append_singleton]
      refine Eq.trans ?_ ih
      generalize afterHistory L suite ops = c
      cases op with
      | addEpoch e secret => rfl
      | enableEpoch e => rfl
      | protect ns ctr n p =>
          show (c.protect L ns ctr n p).2.cipherSuite = c.cipherSuite
          unfold QSFrameContext.protect
          cases c.currentEpoch with
          | none => rfl
          | some e => exact ensureKey_cipherSuite L c e ns
      | unprotect e ns ctr n p => exact ensureKey_cipherSuite L c e ns

/-- `ensure_key` overwrites no secret. -/
theorem ensureKey_secrets (c : QSFrameContext Suite Ctx Namespace) (e : Epoch) (ns : Namespace)
    {e' : Epoch} {secret : Bytes} (h : c.epochSecrets.lookup e' = some secret) :
    (ensureKey L c e ns).epochSecrets.lookup e' = some secret := by
  rcases ensureKey_cases L c e ns with ⟨_, _, _, heq⟩ | ⟨_, _, heq⟩
  · rw [heq]
    exact h
  · rw [heq]
    exact subscript_lookup _ _ _ h

/-- A call stores the secret it supplies, or overwrites none. -/
theorem sframeStep_epochSecrets (c : QSFrameContext Suite Ctx Namespace)
    (op : SFrameOp Namespace) :
    (∃ e secret, op = .addEpoch e secret ∧
      (sframeStep L c op).2.epochSecrets = c.epochSecrets.insert e secret) ∨
    ((∀ e secret, SFrameOp.addEpoch e secret ≠ op) ∧
      ∀ e secret, c.epochSecrets.lookup e = some secret →
        (sframeStep L c op).2.epochSecrets.lookup e = some secret) := by
  cases op with
  | addEpoch e secret => exact Or.inl ⟨e, secret, rfl, rfl⟩
  | enableEpoch e => exact Or.inr ⟨nofun, fun _ _ h => h⟩
  | protect ns ctr n p =>
      refine Or.inr ⟨nofun, ?_⟩
      intro e secret h
      unfold sframeStep QSFrameContext.protect
      cases c.currentEpoch with
      | none => exact h
      | some e' => exact ensureKey_secrets L c e' ns h
  | unprotect e' ns ctr n p =>
      exact Or.inr ⟨nofun, fun _ _ h => ensureKey_secrets L c e' ns h⟩

/-- The secret looked up for an added epoch is one that was supplied for it: no other
call overwrites a stored secret. -/
theorem epochSecrets_lookup (suite : Suite) (history : List (SFrameOp Namespace)) (e : Epoch)
    (hadded : ∃ secret, SFrameOp.addEpoch e secret ∈ history) :
    ∃ secret, (afterHistory L suite history).epochSecrets.lookup e = some secret ∧
      SFrameOp.addEpoch e secret ∈ history := by
  induction history using List.reverseRecOn with
  | nil =>
      obtain ⟨secret, hmem⟩ := hadded
      cases hmem
  | append_singleton ops op ih =>
      rw [afterHistory_append_singleton]
      obtain ⟨secret, hmem⟩ := hadded
      have hold (hne : SFrameOp.addEpoch e secret ≠ op) : SFrameOp.addEpoch e secret ∈ ops :=
        (List.mem_append.mp hmem).resolve_right fun h => hne (List.mem_singleton.mp h)
      rcases sframeStep_epochSecrets L (afterHistory L suite ops) op with
        ⟨e', secret', rfl, hsecrets⟩ | ⟨hne, hkeeps⟩
      · rw [hsecrets]
        by_cases he : e = e'
        · subst he
          exact ⟨secret', AList.lookup_insert _, by simp⟩
        · obtain ⟨s, hs, hm⟩ := ih ⟨secret, hold fun heq => he (SFrameOp.addEpoch.inj heq).1⟩
          exact ⟨s, (AList.lookup_insert_ne he).trans hs, List.mem_append_left _ hm⟩
      · obtain ⟨s, hs, hm⟩ := ih ⟨secret, hold (hne e secret)⟩
        exact ⟨s, hkeeps e s hs, List.mem_append_left _ hm⟩

variable (hstore : L.KeyStore stored)
include hstore

omit [DecidableEq Namespace] in
/-- A context that stores what it is given says so of the keys it has. -/
theorem keyLaws_of_keyStore : L.KeyLaws where
  hasKey_contextBase suite e := by
    rw [hstore.hasKey_eq, hstore.stored_contextBase]
    rfl
  hasKey_addKey c e k e' := by
    by_cases h : e' = e
    · subst h
      rw [hstore.hasKey_eq]
      rcases hstore.stored_addKey_self c e' k with hs | ⟨hold, hs⟩
      · simp [hs]
      · rw [hs, hold]
        simp
    · rw [hstore.hasKey_eq, hstore.hasKey_eq, hstore.stored_addKey_ne c e k e' h]
      simp [h]

/-- A key stored after `ensure_key` was stored before, or is the derived one, and then its
namespace is new or has a key of the epoch already. -/
theorem ensureKey_stored {c : QSFrameContext Suite Ctx Namespace} {e₁ e : Epoch}
    {ns₁ ns : Namespace} {ctx : Ctx} {key : Bytes}
    (hl : (ensureKey L c e₁ ns₁).nsContexts.lookup ns = some ctx) (hk : stored ctx e = some key) :
    (∃ ctx', c.nsContexts.lookup ns = some ctx' ∧ stored ctx' e = some key) ∨
    (ns = ns₁ ∧ e = e₁ ∧ key = derivedKey L c e₁ ns₁ ∧
      (c.nsContexts.lookup ns₁ = none ∨
        ∃ ctx' key', c.nsContexts.lookup ns₁ = some ctx' ∧ stored ctx' e₁ = some key')) := by
  by_cases hns : ns = ns₁
  · subst hns
    rcases ensureKey_cases L c e₁ ns with ⟨ctx₀, hl₀, -, heq⟩ | ⟨ctx₀, hctx₀, heq⟩
    · rw [heq] at hl
      exact Or.inl ⟨ctx, hl, hk⟩
    · rw [heq, AList.lookup_insert] at hl
      obtain rfl := Option.some.inj hl
      -- the keys of the context before the new one was added
      have hprev (hk' : stored ctx₀ e = some key) :
          ∃ ctx', c.nsContexts.lookup ns = some ctx' ∧ stored ctx' e = some key := by
        rcases hctx₀ with ⟨hl₀, -⟩ | ⟨-, rfl⟩
        · exact ⟨ctx₀, hl₀, hk'⟩
        · rw [hstore.stored_contextBase] at hk'
          cases hk'
      by_cases he : e = e₁
      · subst he
        rcases hstore.stored_addKey_self ctx₀ e (derivedKey L c e ns) with hs | ⟨-, hs⟩
        · rw [hs] at hk
          refine Or.inr ⟨rfl, rfl, (Option.some.inj hk).symm, ?_⟩
          rcases hctx₀ with ⟨hl₀, hkey⟩ | ⟨hl₀, -⟩
          · rw [hstore.hasKey_eq] at hkey
            obtain ⟨key', hk'⟩ := Option.isSome_iff_exists.mp hkey
            exact Or.inr ⟨ctx₀, key', hl₀, hk'⟩
          · exact Or.inl hl₀
        · rw [hs] at hk
          exact Or.inl (hprev hk)
      · rw [hstore.stored_addKey_ne _ _ _ _ he] at hk
        exact Or.inl (hprev hk)
  · rw [ensureKey_lookup_ne L _ e₁ hns] at hl
    exact Or.inl ⟨ctx, hl, hk⟩

/-- One call keeps the provenance of the stored keys, provided a first use of a
namespace names an added epoch. -/
theorem keysSupplied_step (suite : Suite) (history : List (SFrameOp Namespace))
    (op : SFrameOp Namespace) (h : KeysSupplied L stored suite history)
    (hfirst : ∀ ns e, keyUse (currentEpochAfter history) op = some (ns, e) →
      firstEpoch history ns = none → ∃ secret, SFrameOp.addEpoch e secret ∈ history) :
    KeysSupplied L stored suite (history ++ [op]) := by
  intro ns ctx e key hl hk
  rw [afterHistory_append_singleton] at hl
  -- a key that was stored before the call
  have hold (ctx' : Ctx) (hl' : (afterHistory L suite history).nsContexts.lookup ns = some ctx')
      (hk' : stored ctx' e = some key) : ∃ secret, SFrameOp.addEpoch e secret ∈ history ++ [op] ∧
        key = L.hkdfExtract suite (baseKeySalt L.toQuicr ns) secret := by
    obtain ⟨secret, hm, heq⟩ := h ns ctx' e key hl' hk'
    exact ⟨secret, List.mem_append_left _ hm, heq⟩
  cases huse : keyUse (afterHistory L suite history).currentEpoch op with
  | none =>
      rw [sframeStep_nsContexts L _ op huse] at hl
      exact hold ctx hl hk
  | some u =>
      obtain ⟨ns₁, e₁⟩ := u
      rw [sframeStep_snd L _ op ns₁ e₁ huse] at hl
      rcases ensureKey_stored L stored hstore hl hk with
        ⟨ctx', hl', hk'⟩ | ⟨rfl, rfl, rfl, hbefore⟩
      · exact hold ctx' hl' hk'
      · have hadded : ∃ secret, SFrameOp.addEpoch e secret ∈ history := by
          rcases hbefore with hnew | ⟨ctx', key', hl', hk'⟩
          · have hnone := Refines.eq_none (afterHistory_locked L
              (keyLaws_of_keyStore L stored hstore) suite history) hnew
            rw [afterHistory_currentEpoch] at huse
            exact hfirst ns e huse hnone
          · obtain ⟨secret, hm, -⟩ := h ns ctx' e key' hl' hk'
            exact ⟨secret, hm⟩
        obtain ⟨secret, hsecret, hm⟩ := epochSecrets_lookup L suite history e hadded
        refine ⟨secret, List.mem_append_left _ hm, ?_⟩
        unfold derivedKey
        rw [hsecret, afterHistory_cipherSuite]
        rfl

/-- A first use of a namespace stores a key of the epoch it names, so after it that
epoch must have been added for the keys to be supplied ones. -/
theorem firstUse_added (suite : Suite) (history : List (SFrameOp Namespace))
    (op : SFrameOp Namespace) (ns : Namespace) (e : Epoch)
    (huse : keyUse (currentEpochAfter history) op = some (ns, e))
    (hfirst : firstEpoch history ns = none)
    (h : KeysSupplied L stored suite (history ++ [op])) :
    ∃ secret, SFrameOp.addEpoch e secret ∈ history := by
  have hlock := afterHistory_locked L (keyLaws_of_keyStore L stored hstore) suite history
  have hnone : (afterHistory L suite history).nsContexts.lookup ns = none := by
    cases hl : (afterHistory L suite history).nsContexts.lookup ns with
    | none => rfl
    | some ctx =>
        obtain ⟨e', hsome, -⟩ := Refines.exists_of_some hlock hl
        rw [hfirst] at hsome
        cases hsome
  rw [← afterHistory_currentEpoch L suite] at huse
  rcases ensureKey_cases L (afterHistory L suite history) e ns with
    ⟨ctx, hl, -, -⟩ | ⟨ctx, hctx, heq⟩
  · rw [hnone] at hl
    cases hl
  · rcases hctx with ⟨hl, -⟩ | ⟨-, rfl⟩
    · rw [hnone] at hl
      cases hl
    · set key := derivedKey L (afterHistory L suite history) e ns with hkey
      have hstored : stored (L.addKey (L.contextBase
          (afterHistory L suite history).cipherSuite) e key) e = some key := by
        rcases hstore.stored_addKey_self (L.contextBase
            (afterHistory L suite history).cipherSuite) e key with hs | ⟨hsome, -⟩
        · exact hs
        · rw [hstore.stored_contextBase] at hsome
          cases hsome
      obtain ⟨secret, hm, -⟩ := h ns _ e key (by
        rw [afterHistory_append_singleton, sframeStep_snd L _ op ns e huse, heq]
        exact AList.lookup_insert _) hstored
      refine ⟨secret, ?_⟩
      rcases List.mem_append.mp hm with hm | hm
      · exact hm
      · rw [← List.mem_singleton.mp hm] at huse
        cases huse

/-- **Key provenance.** In every state of a history all stored keys come from supplied
secrets exactly if every first use of a namespace names an epoch added before it.
SOURCE: src/QSFrameContext.cpp:55-79 -/
theorem keysSupplied_iff_firstUsesAdded (suite : Suite) (history : List (SFrameOp Namespace)) :
    (∀ pre, pre <+: history → KeysSupplied L stored suite pre) ↔ FirstUsesAdded history := by
  constructor
  · intro h pre op post hsplit ns e huse hfirst
    refine firstUse_added L stored hstore suite pre op ns e huse hfirst (h _ ?_)
    exact ⟨post, by rw [hsplit]; simp⟩
  · intro h pre hpre
    induction pre using List.reverseRecOn with
    | nil =>
        intro ns ctx e key hl
        cases hl
    | append_singleton ops op ih =>
        obtain ⟨post, hpost⟩ := hpre
        have hsplit : history = ops ++ op :: post := by
          rw [← hpost]
          simp
        refine keysSupplied_step L stored hstore suite ops op (ih ⟨op :: post, ?_⟩) ?_
        · rw [hsplit]
        · exact fun ns e huse hfirst => h ops op post hsplit ns e huse hfirst

end Provenance

/-- One payload byte sealed, for the object with counter `0x10001`, under the key that
anyone can derive for epoch 7 from the empty secret. -/
def forgedCiphertext : Bytes :=
  tag (baseKeySalt referenceQuicr mediaNamespace ++ [0]) ⟨7, 0x10001⟩ [0x2a] ++ [0x2a]

/-- A context is given epoch 1, as the delegates do, and receives an object of epoch 7. -/
def forgedHistory : List (SFrameOp Prefix) :=
  [.addEpoch 1 [0x0a], .enableEpoch 1, .unprotect 7 mediaNamespace 0x10001 17 forgedCiphertext]

/-- The forged history, which uses epoch 7 first without a secret for it. -/
theorem keysSupplied_iff_forgedHistory :
    (∀ pre, pre <+: forgedHistory →
        KeysSupplied referenceLibs (fun c e => c.lookup e) .aesGcm128Sha256 pre) ↔
      FirstUsesAdded forgedHistory :=
  keysSupplied_iff_firstUsesAdded referenceLibs _ referenceLibs_keyStore _ _

/-- On a context that was only ever given epoch 1, one received object that names epoch 7
is opened, and a key for epoch 7 stays stored. -/
theorem unknown_epoch_stores_key :
    ¬ KeysSupplied referenceLibs (fun c e => c.lookup e) .aesGcm128Sha256 forgedHistory ∧
      outputs (sframeStep referenceLibs) (QSFrameContext.create .aesGcm128Sha256)
        forgedHistory = [some [], some [], some [0x2a]] := by
  refine ⟨fun h => ?_, by decide +kernel⟩
  obtain ⟨secret, hm, -⟩ := h mediaNamespace _ 7 _ rfl rfl
  simp [forgedHistory] at hm

end Qmedia.Analysis
