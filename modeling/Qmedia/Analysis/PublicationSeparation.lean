import Qmedia.Analysis.NamespaceMembership
import Qmedia.Analysis.PublisherRefinement

/-!
# Two publications of one controller

The controller tells publications apart by the whole namespace, value and length, while
names and keys are made from its leading 80 bits and two counters that all start from one
clock. So publications whose namespaces differ in their leading 80 bits share no name and
no pair of key and counter, in whatever order their calls come; of two namespaces with the
same leading 80 bits some order of calls sends one name for both
(`publications_separate`).
-/

set_option autoImplicit false

namespace Qmedia.Analysis

open Qmedia.Library Qmedia.Model Qmedia.Model.QController

variable {Suite Ctx Namespace : Type} [DecidableEq Namespace]
variable (env : Environment Namespace) (L : Libs Suite Ctx Namespace)

/-! ## What one call does under its namespace -/

/-- Names and keys are made from the leading 80 bits of the namespace. -/
structure UnderNamespace (ns : Namespace) (effect : PublishEffect Namespace) : Prop where
  sent : ∀ object, effect.sent = some object → SameLeading 80 object.quicrName (L.nameOf ns)
  protectCall : ∀ pair, effect.protectCall = some pair →
    ∃ name, pair = protectKey L name ∧ SameLeading 80 name (L.nameOf ns)

omit [DecidableEq Namespace] in
/-- A call that sends and protects nothing stays under every namespace. -/
theorem underNamespace_nothing (ns : Namespace) : UnderNamespace L ns ⟨none, none⟩ :=
  ⟨fun _ h => (by cases h), fun _ h => (by cases h)⟩

/-- A call on a delegate works under the delegate's namespace. -/
theorem publishNamedObject_underNamespace (d : PublicationDelegate Suite Ctx Namespace)
    (client : Bool) (data : Bytes) (groupFlag : Bool) (trace : Trace)
    {effect : PublishEffect Namespace}
    (h : (d.publishNamedObject L client data groupFlag trace).1 = .ok effect) :
    UnderNamespace L d.quicrNamespace effect := by
  rcases publishNamedObject_delegate_cases L d client data groupFlag trace with
    hcall | hcall | ⟨name, pri, exp, rfl, hcall⟩
  · rw [hcall] at h
    cases h
    exact underNamespace_nothing L _
  · rw [hcall] at h
    cases h
  · rw [hcall] at h
    have heffect := Except.ok.inj h
    constructor
    · intro object hobject
      rw [← heffect] at hobject
      obtain ⟨p, -, rfl⟩ := Option.map_eq_some_iff.mp hobject
      exact sameLeading_objectName _ _ _
    · intro pair hpair
      rw [← heffect] at hpair
      simp only [encryptObject_pair] at hpair
      obtain ⟨_, -, rfl⟩ := Option.map_eq_some_iff.mp hpair
      exact ⟨_, rfl, sameLeading_objectName _ _ _⟩

/-- A call on a delegate does not change its namespace. -/
theorem publishNamedObject_quicrNamespace (d : PublicationDelegate Suite Ctx Namespace)
    (client : Bool) (data : Bytes) (groupFlag : Bool) (trace : Trace) :
    (d.publishNamedObject L client data groupFlag trace).2.quicrNamespace = d.quicrNamespace := by
  rcases publishNamedObject_delegate_cases L d client data groupFlag trace with
    hcall | hcall | ⟨name, pri, exp, -, hcall⟩
  · rw [hcall]
  · rw [hcall]
  · rw [hcall]

/-! ## The delegates of a controller -/

/-- Every publication is registered under the namespace of its delegate. -/
def Labelled (c : QController Suite Ctx Namespace) : Prop :=
  ∀ ns publication, c.quicrPublicationsMap.lookup ns = some publication →
    publication.delegate.quicrNamespace = ns

/-- A publication registered under its own namespace. -/
theorem Labelled.insert {c : QController Suite Ctx Namespace} (h : Labelled c) (ns : Namespace)
    (publication : PublicationDetails Suite Ctx Namespace)
    (hns : publication.delegate.quicrNamespace = ns) {c' : QController Suite Ctx Namespace}
    (hc' : c'.quicrPublicationsMap = c.quicrPublicationsMap.insert ns publication) :
    Labelled c' := by
  intro ns' publication' hl
  rw [hc'] at hl
  by_cases heq : ns' = ns
  · subst heq
    rw [AList.lookup_insert] at hl
    cases hl
    exact hns
  · rw [AList.lookup_insert_ne heq] at hl
    exact h ns' publication' hl

/-- Every call keeps the publications under their own namespaces. -/
theorem Labelled.controllerStep {c : QController Suite Ctx Namespace} (h : Labelled c)
    (op : ControllerOp Namespace) : Labelled (controllerStep env L c op).2 := by
  cases op with
  | updateManifest m =>
      refine processPublications_invariant env L Labelled m.publications
        (fun c' s p _ _ h' => ?_) _ ?_
      · rcases processProfile_cases env L c' s p with
          ⟨_, _, -, heq, -⟩ | ⟨_, _, _, _, _, _, _, -, -, -, -, -, heq⟩
        · rw [heq]
          exact h'
        · rw [heq]
          exact h'.insert p.quicrNamespace _ rfl rfl
      · obtain ⟨m₁, m₂, es, heq, -⟩ := processSubscriptions_side env L c m.subscriptions
        rw [heq]
        exact h
  | publishNamedObject ns data groupFlag startTime =>
      show Labelled (c.publishNamedObject L ns data groupFlag startTime).2
      rcases publishNamedObject_cases L c ns data groupFlag startTime with
        hskip | ⟨publication, es, -, hl, -, hnext⟩
      · rw [hskip]
        exact h
      · rw [hnext]
        refine h.insert ns _ ?_ rfl
        exact (publishNamedObject_quicrNamespace L _ _ _ _ _).trans (h ns publication hl)
  | setPublicationState ns state =>
      show Labelled (c.setPublicationState ns state)
      rcases setPublicationState_cases c ns state with ⟨-, heq⟩ | ⟨publication, hl, heq⟩
      · rw [heq]
        exact h
      · rw [heq]
        exact h.insert ns { publication with state := state } (h ns publication hl) rfl
  | _ =>
      unfold Labelled
      rw [(controllerStep_leaves env L c rfl).1]
      exact h

/-- In every reachable state the publications are under their own namespaces. -/
theorem reachable_labelled {c : QController Suite Ctx Namespace} (h : Reachable env L c) :
    Labelled c := by
  refine reachable_invariant Labelled (fun _ _ _ _ _ c₀ hc₀ => ?_)
    (fun c op h => h.controllerStep env L op) h
  obtain rfl := create_ok hc₀
  exact nofun

/-! ## What a run does for one namespace -/

/-- What a reply does to the outside for `n`, if the call is addressed to `n`. -/
def effectReply (n : Namespace) (op : ControllerOp Namespace)
    (reply : Except Fault (Reply Namespace)) : Option (PublishEffect Namespace) :=
  match op, reply with
  | .publishNamedObject ns _ _ _, .ok (.published effect) => if ns = n then some effect else none
  | _, _ => none

/-- A call on the controller, with what it does to the outside for `n`. -/
def effectStep (n : Namespace) (c : QController Suite Ctx Namespace)
    (op : ControllerOp Namespace) :
    Option (PublishEffect Namespace) × QController Suite Ctx Namespace :=
  (effectReply n op (controllerStep env L c op).1, (controllerStep env L c op).2)

/-- What the `publishNamedObject` calls of a run that are addressed to `n` do to the
outside, in order. -/
def effectsFor (n : Namespace) (c : QController Suite Ctx Namespace)
    (ops : List (ControllerOp Namespace)) : List (PublishEffect Namespace) :=
  (outputs (effectStep env L n) c ops).filterMap id

/-- One call addressed to `n` works under `n`. -/
theorem effectStep_underNamespace {n : Namespace} {c : QController Suite Ctx Namespace}
    (h : Labelled c) {op : ControllerOp Namespace} {effect : PublishEffect Namespace}
    (heffect : (effectStep env L n c op).1 = some effect) : UnderNamespace L n effect := by
  unfold effectStep effectReply at heffect
  cases op with
  | publishNamedObject ns data groupFlag startTime =>
      have hreply : (controllerStep env L c (.publishNamedObject ns data groupFlag startTime)).1 =
          (c.publishNamedObject L ns data groupFlag startTime).1.map .published := rfl
      simp only [hreply] at heffect
      cases hresult : (c.publishNamedObject L ns data groupFlag startTime).1 with
      | error f =>
          rw [hresult] at heffect
          cases heffect
      | ok e =>
          rw [hresult] at heffect
          simp only [Except.map, Option.ite_none_right_eq_some, Option.some.injEq] at heffect
          obtain ⟨rfl, rfl⟩ := heffect
          rcases publishNamedObject_cases L c ns data groupFlag startTime with
            hskip | ⟨publication, es, -, hl, hcall, -⟩
          · rw [hskip] at hresult
            cases hresult
            exact underNamespace_nothing L ns
          · rw [hcall] at hresult
            rw [← h ns publication hl]
            exact publishNamedObject_underNamespace L _ _ _ _ _ hresult
  | _ => cases heffect

/-- **Run for one namespace.** -/
theorem underNamespace_of_mem_effectsFor {n : Namespace} {c : QController Suite Ctx Namespace}
    (h : Labelled c) {ops : List (ControllerOp Namespace)} {effect : PublishEffect Namespace}
    (hmem : effect ∈ effectsFor env L n c ops) : UnderNamespace L n effect := by
  unfold effectsFor at hmem
  induction ops generalizing c with
  | nil => cases hmem
  | cons op ops ih =>
      rw [outputs_cons, List.filterMap_cons] at hmem
      have hrest := ih (h.controllerStep env L op)
      cases hhead : (effectStep env L n c op).1 with
      | none =>
          rw [hhead] at hmem
          exact hrest hmem
      | some e =>
          rw [hhead] at hmem
          rcases List.mem_cons.mp hmem with rfl | hmem
          · exact effectStep_underNamespace env L h hhead
          · exact hrest hmem

/-! ## Two namespaces -/

/-- Two effects have neither a sent name nor a pair for `protect` in common. -/
def ShareNothing (effect₁ effect₂ : PublishEffect Namespace) : Prop :=
  (∀ object₁ object₂, effect₁.sent = some object₁ → effect₂.sent = some object₂ →
    object₁.quicrName ≠ object₂.quicrName) ∧
  ∀ pair₁ pair₂, effect₁.protectCall = some pair₁ → effect₂.protectCall = some pair₂ →
    pair₁ ≠ pair₂

omit [DecidableEq Namespace] in
/-- The namespace that selects the key keeps the leading 80 bits apart. -/
theorem UnderNamespace.shareNothing (hL : L.KeepsLeading) {ns₁ ns₂ : Namespace}
    (hns : ¬ SameLeading 80 (L.nameOf ns₁) (L.nameOf ns₂)) {effect₁ effect₂ : PublishEffect Namespace}
    (h₁ : UnderNamespace L ns₁ effect₁) (h₂ : UnderNamespace L ns₂ effect₂) :
    ShareNothing effect₁ effect₂ := by
  constructor
  · intro object₁ object₂ hsent₁ hsent₂ heq
    have hleft := (h₁.sent object₁ hsent₁).symm
    rw [heq] at hleft
    exact hns (hleft.trans (h₂.sent object₂ hsent₂))
  · intro pair₁ pair₂ hpair₁ hpair₂ heq
    obtain ⟨name₁, rfl, hname₁⟩ := h₁.protectCall pair₁ hpair₁
    obtain ⟨name₂, rfl, hname₂⟩ := h₂.protectCall pair₂ hpair₂
    have hkey : L.namespaceOf name₁ 80 = L.namespaceOf name₂ 80 := congrArg Prod.fst heq
    have hkept₁ := hL name₁ 80 (by decide)
    have hkept₂ := hL name₂ 80 (by decide)
    rw [hkey] at hkept₁
    exact hns (hname₁.symm.trans (hkept₁.symm.trans (hkept₂.trans hname₂)))

/-- Calls on a namespace that each start a group. -/
def startGroups (ns : Namespace) (n : ℕ) : List (ControllerOp Namespace) :=
  List.replicate n (.publishNamedObject ns [0x2a] true 0)

/-- Calls that start groups of a namespace count for that namespace alone. -/
theorem activeCalls_startGroups (n ns : Namespace) (k : ℕ) (ops : List (ControllerOp Namespace)) :
    activeCalls n .active (startGroups ns k ++ ops) =
      (if ns = n then List.replicate k ⟨[0x2a], true, startTrace 0⟩ else []) ++
        activeCalls n .active ops := by
  unfold startGroups
  induction k with
  | zero => simp
  | succ k ih =>
      rw [List.replicate_succ, List.cons_append, activeCalls, ih]
      by_cases hns : ns = n
      · rw [if_pos ⟨hns, by decide⟩, if_pos hns, if_pos hns, List.replicate_succ, List.cons_append]
      · rw [if_neg fun h => hns h.1, if_neg hns, if_neg hns]

omit [DecidableEq Namespace] in
/-- A publication that sends every object as it is. -/
structure SendsPlain (d : PublicationDetails Suite Ctx Namespace) : Prop where
  state_eq : d.state = .active
  expiry_ne : d.delegate.expiry ≠ []
  sframeContext_eq : d.delegate.sframeContext = none

/-- **Separation.** Two publications of a reachable controller whose namespaces differ in
their leading 80 bits share no name and no pair of key namespace and counter, whatever is
called in whatever order. If the leading 80 bits are the same and both send their objects
as they are, some order of calls sends one name for both.
SOURCE: src/QController.cpp:224-258, src/QuicrDelegates.cpp:382-418 -/
theorem publications_separate (hL : L.KeepsLeading) {c : QController Suite Ctx Namespace}
    (hreach : Reachable env L c) {n₁ n₂ : Namespace} (hne : n₁ ≠ n₂)
    {d₁ d₂ : PublicationDetails Suite Ctx Namespace}
    (h₁ : c.quicrPublicationsMap.lookup n₁ = some d₁)
    (h₂ : c.quicrPublicationsMap.lookup n₂ = some d₂) :
    (¬ SameLeading 80 (L.nameOf n₁) (L.nameOf n₂) →
      ∀ ops, ∀ effect₁ ∈ effectsFor env L n₁ c ops, ∀ effect₂ ∈ effectsFor env L n₂ c ops,
        ShareNothing effect₁ effect₂) ∧
    (SameLeading 80 (L.nameOf n₁) (L.nameOf n₂) → c.clientSession.isSome → SendsPlain d₁ →
      SendsPlain d₂ →
      ∃ ops, ∃ object₁ ∈ sentFor env L n₁ c ops, ∃ object₂ ∈ sentFor env L n₂ c ops,
        object₁.quicrName = object₂.quicrName) := by
  have hlabelled := reachable_labelled env L hreach
  constructor
  · intro hns ops effect₁ heffect₁ effect₂ heffect₂
    exact (underNamespace_of_mem_effectsFor env L hlabelled heffect₁).shareNothing L hL hns
      (underNamespace_of_mem_effectsFor env L hlabelled heffect₂)
  · intro hns hsession hplain₁ hplain₂
    -- both publications start groups until they have reached the group 0
    obtain ⟨k₁, hk₁⟩ := exists_sent_groupStart L d₁.delegate hplain₁.expiry_ne
      hplain₁.sframeContext_eq 0 ⟨[0x2a], true, startTrace 0⟩ (List.cons_ne_nil _ _) rfl
    obtain ⟨k₂, hk₂⟩ := exists_sent_groupStart L d₂.delegate hplain₂.expiry_ne
      hplain₂.sframeContext_eq 0 ⟨[0x2a], true, startTrace 0⟩ (List.cons_ne_nil _ _) rfl
    refine ⟨startGroups n₁ (k₁ + 1) ++ (startGroups n₂ (k₂ + 1) ++ []), ?_⟩
    rw [sentFor_registered env L ⟨h₁, hsession⟩, sentFor_registered env L ⟨h₂, hsession⟩,
      hplain₁.state_eq, hplain₂.state_eq]
    simp only [activeCalls_startGroups, if_pos, if_neg hne, if_neg hne.symm, List.nil_append]
    have hnil (n : Namespace) : activeCalls n .active ([] : List (ControllerOp Namespace)) = [] :=
      rfl
    rw [hnil, hnil, List.append_nil, List.append_nil]
    obtain ⟨object₁, hobject₁, hname₁⟩ := List.mem_map.mp hk₁
    obtain ⟨object₂, hobject₂, hname₂⟩ := List.mem_map.mp hk₂
    refine ⟨object₁, hobject₁, object₂, hobject₂, ?_⟩
    rw [hname₁, hname₂, hlabelled n₁ d₁ h₁, hlabelled n₂ d₂ h₂]
    exact (objectName_eq_iff _ _ _ _ _ _).mpr ⟨hns, rfl, rfl⟩

/-! ## Two namespaces with the same leading bits -/

/-- One camera that publishes in two namespaces. -/
def twoNamespaces (ns₁ ns₂ : Prefix) : Manifest Prefix :=
  ⟨[], [{ camera "80a6ac22" with
    profileSet :=
      { type := "simulcast"
        profiles := [{ cameraProfile with quicrNamespace := ns₁ },
          { cameraProfile with quicrNamespace := ns₂ }] } }]⟩

/-- A connected controller that publishes it. -/
def twoPublications (cipherSuite : Option CipherSuite) (ns₁ ns₂ : Prefix) :
    QController CipherSuite KeyRing Prefix :=
  finalState (controllerStep (takesAll true) referenceLibs) (newController cipherSuite)
    [.connect localRelay, .updateManifest (twoNamespaces ns₁ ns₂)]

/-- A controller with two publications is reachable. -/
theorem reachable_twoPublications (cipherSuite : Option CipherSuite) (ns₁ ns₂ : Prefix) :
    Reachable (takesAll true) referenceLibs (twoPublications cipherSuite ns₁ ns₂) :=
  ⟨some 1, some 1, false, false, cipherSuite, newController cipherSuite, _, rfl, rfl⟩

/-- Two namespaces of 96 bits that differ after the leading 80, in bits of the group id. -/
def firstLongNamespace : Prefix := Prefix.ofName 0x0000010100000dc00001000100000000#128 96

/-- The second of them. -/
def secondLongNamespace : Prefix := Prefix.ofName 0x0000010100000dc00001000200000000#128 96

/-- Video and audio share nothing, and the two long namespaces share a name. -/
theorem media_audio_separate :
    (∀ ops, ∀ effect₁ ∈ effectsFor (takesAll true) referenceLibs mediaNamespace
        (twoPublications none mediaNamespace audioNamespace) ops,
      ∀ effect₂ ∈ effectsFor (takesAll true) referenceLibs audioNamespace
        (twoPublications none mediaNamespace audioNamespace) ops,
        ShareNothing effect₁ effect₂) ∧
    ∃ ops, ∃ object₁ ∈ sentFor (takesAll true) referenceLibs firstLongNamespace
        (twoPublications none firstLongNamespace secondLongNamespace) ops,
      ∃ object₂ ∈ sentFor (takesAll true) referenceLibs secondLongNamespace
        (twoPublications none firstLongNamespace secondLongNamespace) ops,
        object₁.quicrName = object₂.quicrName := by
  have hplain (ns : Prefix) (c : QController CipherSuite KeyRing Prefix)
      (h : (c.quicrPublicationsMap.lookup ns).any (fun d => d.state = .active ∧
        d.delegate.expiry ≠ [] ∧ d.delegate.sframeContext.isNone = true) = true) :
      ∃ d, c.quicrPublicationsMap.lookup ns = some d ∧ SendsPlain d := by
    obtain ⟨d, hl, hd⟩ := (Option.any_eq_true _ _).mp h
    obtain ⟨hstate, hexp, hnone⟩ := of_decide_eq_true hd
    exact ⟨d, hl, hstate, hexp, Option.isNone_iff_eq_none.mp hnone⟩
  constructor
  · obtain ⟨d₁, h₁, -⟩ := hplain mediaNamespace (twoPublications none mediaNamespace audioNamespace)
      (by decide +kernel)
    obtain ⟨d₂, h₂, -⟩ := hplain audioNamespace (twoPublications none mediaNamespace audioNamespace)
      (by decide +kernel)
    exact (publications_separate (takesAll true) referenceLibs referenceLibs_keepsLeading
      (reachable_twoPublications _ _ _) (by decide) h₁ h₂).1 (by decide)
  · obtain ⟨d₁, h₁, hplain₁⟩ := hplain firstLongNamespace
      (twoPublications none firstLongNamespace secondLongNamespace)
      (by decide +kernel)
    obtain ⟨d₂, h₂, hplain₂⟩ := hplain secondLongNamespace
      (twoPublications none firstLongNamespace secondLongNamespace)
      (by decide +kernel)
    exact (publications_separate (takesAll true) referenceLibs referenceLibs_keepsLeading
      (reachable_twoPublications _ _ _) (by decide) h₁ h₂).2 (by decide) rfl hplain₁ hplain₂

/-- Two namespaces with the same leading 80 bits, published by one manifest: both publish the
first group of the same second under one name, and protect it under one pair. -/
theorem long_namespaces_share :
    Reachable (takesAll true) referenceLibs
      (twoPublications (some .aesGcm128Sha256) firstLongNamespace secondLongNamespace) ∧
    firstLongNamespace ≠ secondLongNamespace ∧
    (∃ effect₁ ∈ effectsFor (takesAll true) referenceLibs firstLongNamespace
        (twoPublications (some .aesGcm128Sha256) firstLongNamespace secondLongNamespace)
        [.publishNamedObject firstLongNamespace [0x2a] true 0,
          .publishNamedObject secondLongNamespace [0x2b] true 0],
      ∃ effect₂ ∈ effectsFor (takesAll true) referenceLibs secondLongNamespace
        (twoPublications (some .aesGcm128Sha256) firstLongNamespace secondLongNamespace)
        [.publishNamedObject firstLongNamespace [0x2a] true 0,
          .publishNamedObject secondLongNamespace [0x2b] true 0],
        effect₁.sent.isSome ∧ effect₁.protectCall.isSome ∧
        effect₁.sent.map Datagram.quicrName = effect₂.sent.map Datagram.quicrName ∧
        effect₁.protectCall = effect₂.protectCall) := by
  refine ⟨reachable_twoPublications _ _ _, by decide, ?_⟩
  decide +kernel

end Qmedia.Analysis
