import Qmedia.Library.Slots
import Qmedia.Model.Arrivals
import Qmedia.Analysis.Interoperability

/-!
# One subscriber for each namespace

Seen through one namespace `n`, a controller that receives objects is a slot for a single
receiving delegate: a manifest fills it if it is empty, `stopSubscription` on `n` empties it,
the objects that arrive for `n` go to the delegate in it, and nothing else touches it
(`sessionStep_keepsSlot`). So between two stops everything handed over for `n` is what one
delegate gives, built as the manifest that registered `n` asks (`handedFor_refines`), and
whether a genuine object is handed over depends on the first object for its 80-bit namespace
since then alone (`genuine_handed_if`).
-/

set_option autoImplicit false

namespace Qmedia.Analysis

open Qmedia.Library Qmedia.Model Qmedia.Model.QController

variable {Suite Ctx Namespace : Type} [DecidableEq Namespace]
variable (env : Environment Namespace) (L : Libs Suite Ctx Namespace)

/-! ## What is handed over for a namespace -/

/-- What a reply hands over for `n`, if an object arrived for it. -/
def handedReply (n : Namespace) (op : SessionOp Namespace) (reply : SessionReply Namespace) :
    Option (Forwarded Namespace) :=
  match op, reply with
  | .arrive ns _, .handed forwarded => if ns = n then forwarded else none
  | _, _ => none

/-- A call or an arrival, with what it hands over for `n`. -/
def handedStep (n : Namespace) (c : QController Suite Ctx Namespace) (op : SessionOp Namespace) :
    Option (Forwarded Namespace) × QController Suite Ctx Namespace :=
  (handedReply n op (sessionStep env L c op).1, (sessionStep env L c op).2)

/-- Everything a run hands over for `n`, in order. -/
def handedFor (n : Namespace) (c : QController Suite Ctx Namespace)
    (ops : List (SessionOp Namespace)) : List (Forwarded Namespace) :=
  produced (handedStep env L n) c ops

/-- What a call or an arrival is to the delegate of `n`. -/
def subscriberRole (n : Namespace) : SessionOp Namespace → SlotRole Received
  | .arrive ns object => if ns = n then .feed object else .other
  | .call (.stopSubscription ns) => if ns = n then .clear else .other
  | _ => .other

/-- An object for `n` is fed to its delegate. -/
theorem subscriberRole_arrive (n : Namespace) (x : Received) :
    subscriberRole n (.arrive n x) = .feed x := if_pos rfl

/-- `stopSubscription` on `n` empties the slot. -/
theorem subscriberRole_stop (n : Namespace) :
    subscriberRole n (.call (.stopSubscription n)) = .clear := if_pos rfl

/-- The objects that arrive for `n`. -/
def arrivals (n : Namespace) (ops : List (SessionOp Namespace)) : List Received :=
  feeds (subscriberRole n) ops

/-- What a delegate hands over for a list of objects. -/
def handed (d : SubscriptionDelegate Suite Ctx Namespace) (objects : List Received) :
    List (Forwarded Namespace) :=
  produced (receiveStep L) d objects

/-! ## Registration -/

/-- What a manifest selects is of one of its streams and a namespace of that stream. -/
theorem mem_subscriptionSelections (streams : List (MediaStream Namespace))
    (c : QController Suite Ctx Namespace) {ns : Namespace} {s : SelectedBy}
    (h : (ns, s) ∈ subscriptionSelections env L c streams) :
    ∃ stream ∈ streams, s.sourceId = stream.sourceId ∧
      ∃ profile ∈ stream.profileSet.profiles, profile.quicrNamespace = ns := by
  induction streams generalizing c with
  | nil => cases h
  | cons stream streams ih =>
      unfold subscriptionSelections at h
      rcases List.mem_append.mp h with hfirst | hrest
      · refine ⟨stream, List.mem_cons_self .., ?_⟩
        unfold selection at hfirst
        split at hfirst
        · cases hfirst
        · obtain ⟨ns', hns', heq⟩ := List.mem_map.mp hfirst
          obtain ⟨rfl, rfl⟩ := Prod.mk.inj heq
          unfold targets at hns'
          obtain ⟨profile, hprofile, rfl⟩ := List.mem_map.mp hns'
          refine ⟨rfl, profile, ?_, rfl⟩
          split at hprofile
          · exact List.mem_of_mem_take hprofile
          · exact hprofile
      · obtain ⟨stream', hstream', hlists⟩ := ih _ hrest
        exact ⟨stream', List.mem_cons_of_mem _ hstream', hlists⟩

/-- A manifest asks for the delegate `d` of `n`: one of its streams lists `n`, and `d` is new
and has the source of that stream. -/
def AsksFor (cipherSuite : Option Suite) (n : Namespace) (op : SessionOp Namespace)
    (d : SubscriptionDelegate Suite Ctx Namespace) : Prop :=
  ∃ m stream profile qDelegate uninitialised,
    op = .call (.updateManifest m) ∧ stream ∈ m.subscriptions ∧
    profile ∈ stream.profileSet.profiles ∧ profile.quicrNamespace = n ∧
    d = SubscriptionDelegate.create L.toSFrame stream.sourceId n .syncUp "" "" [] qDelegate
      cipherSuite uninitialised

/-- A manifest keeps the delegates that are registered. -/
theorem updateManifest_subscription_kept {c : QController Suite Ctx Namespace} {n : Namespace}
    {d : SubscriptionDelegate Suite Ctx Namespace} (h : c.quicrSubscriptionsMap.lookup n = some d)
    (m : Manifest Namespace) : (c.updateManifest env L m).quicrSubscriptionsMap.lookup n = some d :=
  (updateManifest_extends env L c m).kept n d h

/-- What a manifest registers, it asks for. -/
theorem updateManifest_asksFor {c : QController Suite Ctx Namespace} {n : Namespace}
    (hfree : c.quicrSubscriptionsMap.lookup n = none) (m : Manifest Namespace)
    {d : SubscriptionDelegate Suite Ctx Namespace}
    (h : (c.updateManifest env L m).quicrSubscriptionsMap.lookup n = some d) :
    AsksFor L c.cipherSuite n (.call (.updateManifest m)) d := by
  have hextends := updateManifest_extends env L c m
  unfold ExtendedBy at hextends
  rcases hextends.kept_or_built h with hold | ⟨s, hs, uninitialised, hd⟩
  · rw [hfree] at hold
    cases hold
  · obtain ⟨stream, hstream, hsource, profile, hprofile, hn⟩ :=
      mem_subscriptionSelections env L m.subscriptions c hs
    rw [hsource] at hd
    exact ⟨m, stream, profile, s.qDelegate, uninitialised, rfl, hstream, hprofile, hn, hd⟩

/-- Once it is stopped, a namespace is free. -/
theorem stopSubscription_free (c : QController Suite Ctx Namespace) (n : Namespace) :
    (c.stopSubscription n).quicrSubscriptionsMap.lookup n = none := by
  rcases stopSubscription_cases c n with ⟨hfree, heq⟩ | ⟨d, -, heq⟩
  · rw [heq]
    exact hfree
  · rw [heq]
    exact AList.lookup_erase _ _

/-- **Frame.** The other calls leave the delegate of `n` alone. -/
theorem controllerStep_subscription_frame (c : QController Suite Ctx Namespace) {n : Namespace}
    {op : ControllerOp Namespace} (hstop : op ≠ .stopSubscription n)
    (hmanifest : ∀ m, op ≠ .updateManifest m) :
    (controllerStep env L c op).2.quicrSubscriptionsMap.lookup n =
      c.quicrSubscriptionsMap.lookup n := by
  cases op with
  | connect config =>
      obtain ⟨success, heq⟩ := connect_eq env c config
      show (c.connect env config).2.quicrSubscriptionsMap.lookup n = _
      rw [heq]
  | disconnect =>
      show c.disconnect.2.quicrSubscriptionsMap.lookup n = _
      rw [(disconnect_quiet c).map_eq]
  | updateManifest m => exact absurd rfl (hmanifest m)
  | publishNamedObject ns data groupFlag startTime =>
      show (c.publishNamedObject L ns data groupFlag startTime).2.quicrSubscriptionsMap.lookup n = _
      rw [(publishNamedObject_quiet L c ns data groupFlag startTime).map_eq]
  | stopSubscription ns =>
      have hne : n ≠ ns := by
        rintro rfl
        exact hstop rfl
      show (c.stopSubscription ns).quicrSubscriptionsMap.lookup n = _
      rcases stopSubscription_cases c ns with ⟨-, heq⟩ | ⟨d, -, heq⟩
      · rw [heq]
      · rw [heq]
        exact AList.lookup_erase_ne hne
  | setPublicationState ns state =>
      show (c.setPublicationState ns state).quicrSubscriptionsMap.lookup n = _
      rw [(setPublicationState_quiet c ns state).map_eq]
  | setSubscriptionState ns transportMode =>
      show (c.setSubscriptionState ns transportMode).quicrSubscriptionsMap.lookup n = _
      rcases setSubscriptionState_cases c ns transportMode with ⟨-, heq⟩ | ⟨d, -, heq⟩
      · rw [heq]
      · rw [heq, subscribe_map]
  | _ => rfl

/-! ## The slot -/

/-- Receiving leaves the cipher suite. -/
theorem onSubscribedObject_cipherSuite (c : QController Suite Ctx Namespace) (ns : Namespace)
    (x : Received) : (c.onSubscribedObject L ns x).2.cipherSuite = c.cipherSuite := by
  rcases onSubscribedObject_cases L c ns x with ⟨-, heq⟩ | ⟨delegate, -, heq⟩
  · rw [heq]
  · rw [heq]

/-- An arrival hands over what the delegate of `n` does. -/
theorem handedStep_arrive (n : Namespace) (c : QController Suite Ctx Namespace) (ns : Namespace)
    (x : Received) : handedStep env L n c (.arrive ns x) =
      (if ns = n then (c.onSubscribedObject L ns x).1 else none,
        (c.onSubscribedObject L ns x).2) := rfl

/-- An object for another namespace leaves the delegate of `n` alone. -/
theorem onSubscribedObject_ne (c : QController Suite Ctx Namespace) {n ns : Namespace}
    (hne : n ≠ ns) (x : Received) :
    (c.onSubscribedObject L ns x).2.quicrSubscriptionsMap.lookup n =
      c.quicrSubscriptionsMap.lookup n := by
  rcases onSubscribedObject_cases L c ns x with ⟨-, heq⟩ | ⟨delegate, -, heq⟩
  · rw [heq]
  · rw [heq]
    exact AList.lookup_insert_ne hne

omit [DecidableEq Namespace] in
/-- Only an arrival for `n` is fed to its delegate. -/
theorem eq_arrive_of_role [DecidableEq Namespace] {n : Namespace} {op : SessionOp Namespace}
    {x : Received} (h : subscriberRole n op = .feed x) : op = .arrive n x := by
  unfold subscriberRole at h
  split at h
  · split at h
    · rename_i ns object hns
      cases h
      rw [hns]
    · cases h
  · split at h
    · cases h
    · cases h
  · cases h

omit [DecidableEq Namespace] in
/-- Only `stopSubscription` on `n` empties the slot. -/
theorem eq_stop_of_role [DecidableEq Namespace] {n : Namespace} {op : SessionOp Namespace}
    (h : subscriberRole n op = .clear) : op = .call (.stopSubscription n) := by
  unfold subscriberRole at h
  split at h
  · split at h
    · cases h
    · cases h
  · split at h
    · rename_i ns hns
      rw [hns]
    · cases h
  · cases h

/-- A step that neither feeds nor stops `n` hands nothing over for it, and leaves its delegate
alone unless it is a manifest. -/
theorem handedStep_other (c : QController Suite Ctx Namespace) {n : Namespace}
    {op : SessionOp Namespace} (h : subscriberRole n op = .other) :
    (handedStep env L n c op).1 = none ∧
      ((handedStep env L n c op).2.quicrSubscriptionsMap.lookup n =
          c.quicrSubscriptionsMap.lookup n ∨ ∃ m, op = .call (.updateManifest m)) := by
  cases op with
  | call op =>
      refine ⟨rfl, ?_⟩
      by_cases hmanifest : ∃ m, op = .updateManifest m
      · obtain ⟨m, rfl⟩ := hmanifest
        exact Or.inr ⟨m, rfl⟩
      · left
        refine controllerStep_subscription_frame env L c ?_ fun m hm => hmanifest ⟨m, hm⟩
        rintro rfl
        rw [subscriberRole_stop] at h
        cases h
  | arrive ns x =>
      have hne : ns ≠ n := by
        rintro rfl
        rw [subscriberRole_arrive] at h
        cases h
      rw [handedStep_arrive, if_neg hne]
      exact ⟨rfl, Or.inl (onSubscribedObject_ne L c (Ne.symm hne) x)⟩

/-- **Refinement.** To a controller the delegate of `n` is a slot. -/
theorem sessionStep_keepsSlot (cipherSuite : Option Suite) (n : Namespace) :
    KeepsSlot (handedStep env L n) (fun c => c.cipherSuite = cipherSuite)
      (fun c => c.quicrSubscriptionsMap.lookup n) (subscriberRole n) (receiveStep L)
      (AsksFor L cipherSuite n) where
  inv c op hc := by
    cases op with
    | call op => exact (controllerStep_cipherSuite env L c op).trans hc
    | arrive ns x => exact (onSubscribedObject_cipherSuite L c ns x).trans hc
  feed_empty c op x _ hrole hfree := by
    obtain rfl := eq_arrive_of_role hrole
    rw [handedStep_arrive, if_pos rfl]
    rcases onSubscribedObject_cases L c n x with ⟨-, heq⟩ | ⟨delegate, hl, -⟩
    · rw [heq]
      exact ⟨rfl, hfree⟩
    · rw [hfree] at hl
      cases hl
  feed_full c op x d _ hrole hfull := by
    obtain rfl := eq_arrive_of_role hrole
    rw [handedStep_arrive, if_pos rfl]
    rcases onSubscribedObject_cases L c n x with ⟨hfree, -⟩ | ⟨delegate, hl, heq⟩
    · rw [hfull] at hfree
      cases hfree
    · rw [hfull] at hl
      obtain rfl := Option.some.inj hl
      rw [heq]
      exact ⟨rfl, AList.lookup_insert _⟩
  clear c op _ hrole := by
    obtain rfl := eq_stop_of_role hrole
    exact ⟨rfl, stopSubscription_free c n⟩
  other_empty c op hc hrole hfree := by
    obtain ⟨hnone, hkeep⟩ := handedStep_other env L c hrole
    refine ⟨hnone, fun d hd => ?_⟩
    rcases hkeep with hsame | ⟨m, rfl⟩
    · rw [hsame, hfree] at hd
      cases hd
    · rw [← hc]
      exact updateManifest_asksFor env L hfree m hd
  other_full c op d _ hrole hfull := by
    obtain ⟨hnone, hkeep⟩ := handedStep_other env L c hrole
    refine ⟨hnone, ?_⟩
    rcases hkeep with hsame | ⟨m, rfl⟩
    · exact hsame.trans hfull
    · exact updateManifest_subscription_kept env L hfull m

/-! ## Runs -/

/-- Without a stop of `n` the slot is never emptied. -/
theorem role_ne_clear {n : Namespace} {ops : List (SessionOp Namespace)}
    (hstop : .call (.stopSubscription n) ∉ ops) : ∀ op ∈ ops, subscriberRole n op ≠ .clear := by
  rintro op hop hrole
  rw [eq_stop_of_role hrole] at hop
  exact hstop hop

/-- The cipher suite stays the same over a run. -/
theorem finalState_cipherSuite (c : QController Suite Ctx Namespace)
    (ops : List (SessionOp Namespace)) :
    (finalState (sessionStep env L) c ops).cipherSuite = c.cipherSuite := by
  refine finalState_invariant (sessionStep env L) (fun c' => c'.cipherSuite = c.cipherSuite) ops
    (fun c' op _ hc' => ?_) c rfl
  cases op with
  | call op => exact (controllerStep_cipherSuite env L c' op).trans hc'
  | arrive ns x => exact (onSubscribedObject_cipherSuite L c' ns x).trans hc'

/-- A delegate that is registered stays registered until `n` is stopped, and receives the objects
that arrive for `n`. -/
theorem lookup_of_not_stopped (c : QController Suite Ctx Namespace) {n : Namespace}
    (pre : List (SessionOp Namespace)) (op : SessionOp Namespace) {post : List (SessionOp Namespace)}
    (hstop : .call (.stopSubscription n) ∉ post) {d : SubscriptionDelegate Suite Ctx Namespace}
    (hd : (finalState (sessionStep env L) c (pre ++ [op])).quicrSubscriptionsMap.lookup n = some d) :
    (finalState (sessionStep env L) c (pre ++ op :: post)).quicrSubscriptionsMap.lookup n =
      some (finalState (receiveStep L) d (arrivals n post)) := by
  obtain ⟨-, hfinal⟩ := (sessionStep_keepsSlot env L c.cipherSuite n).run_full post
    (role_ne_clear hstop) _ (finalState_cipherSuite env L c (pre ++ [op])) d hd
  rw [← List.singleton_append, ← List.append_assoc, finalState_append]
  exact hfinal

/-- How `n` was registered in a run from `c`: by a manifest of the run that asks for its
delegate, when nothing was registered for `n`. -/
def SubscribedIn (c : QController Suite Ctx Namespace) (ops : List (SessionOp Namespace))
    (n : Namespace) (d : SubscriptionDelegate Suite Ctx Namespace)
    (post : List (SessionOp Namespace)) : Prop :=
  ∃ pre op, ops = pre ++ op :: post ∧ AsksFor L c.cipherSuite n op d ∧
    (finalState (sessionStep env L) c pre).quicrSubscriptionsMap.lookup n = none ∧
    (finalState (sessionStep env L) c (pre ++ [op])).quicrSubscriptionsMap.lookup n = some d

/-- **One subscriber for each namespace.** Take any run of calls and arrivals in any order,
from a state in which `n` is not registered, that does not stop `n`. Either `n` is never
registered and nothing is handed over for it, or everything handed over for it is what one
delegate gives for the objects that arrive for `n` after the manifest that registered it, and
that delegate, in the state those objects have left it in, is the one registered at the end.
SOURCE: src/QController.cpp:183-212, src/QController.cpp:303-352,
src/QuicrDelegates.cpp:114-213 -/
theorem handedFor_refines (c : QController Suite Ctx Namespace) (n : Namespace)
    (hfree : c.quicrSubscriptionsMap.lookup n = none) (ops : List (SessionOp Namespace))
    (hstop : .call (.stopSubscription n) ∉ ops) :
    ((finalState (sessionStep env L) c ops).quicrSubscriptionsMap.lookup n = none ∧
      handedFor env L n c ops = []) ∨
    ∃ d post, SubscribedIn env L c ops n d post ∧
      handedFor env L n c ops = handed L d (arrivals n post) ∧
      (finalState (sessionStep env L) c ops).quicrSubscriptionsMap.lookup n =
        some (finalState (receiveStep L) d (arrivals n post)) := by
  rcases (sessionStep_keepsSlot env L c.cipherSuite n).run_empty ops (role_ne_clear hstop) c rfl
    hfree with ⟨hnothing, hnone⟩ | ⟨pre, op, post, d, hops, hpre, hopen, hasks, hhanded, hfinal⟩
  · exact Or.inl ⟨hnone, hnothing⟩
  · exact Or.inr ⟨d, post, ⟨pre, op, hops, hasks, hpre, hopen⟩, hhanded, hfinal⟩

/-- A subscriber that is paused, and receives objects for two namespaces. -/
def pausedSubscriber : List (SessionOp Prefix) :=
  [.call (.connect localRelay), .call (.updateManifest (subscribeCamera "80a6ac22")),
    .arrive mediaNamespace genuineObject, .call (.setSubscriptionState mediaNamespace .pause),
    .arrive audioNamespace genuineObject, .arrive mediaNamespace forgedObject]

/-- A subscription that is paused while an object arrives. -/
theorem handedFor_refines_paused :
    handedFor (takesAll true) referenceLibs mediaNamespace
        (newController (some .aesGcm128Sha256)) pausedSubscriber =
      [⟨mediaNamespace, [0x2a, 0x2b, 0x2c, 0x2d], 7, 1⟩] ∧
    ∃ d post, SubscribedIn (takesAll true) referenceLibs (newController (some .aesGcm128Sha256))
        pausedSubscriber mediaNamespace d post ∧
      handedFor (takesAll true) referenceLibs mediaNamespace
        (newController (some .aesGcm128Sha256)) pausedSubscriber =
        handed referenceLibs d (arrivals mediaNamespace post) ∧
      (finalState (sessionStep (takesAll true) referenceLibs)
          (newController (some .aesGcm128Sha256)) pausedSubscriber).quicrSubscriptionsMap.lookup
        mediaNamespace =
        some (finalState (receiveStep referenceLibs) d (arrivals mediaNamespace post)) := by
  have hhanded : handedFor (takesAll true) referenceLibs mediaNamespace
      (newController (some .aesGcm128Sha256)) pausedSubscriber =
      [⟨mediaNamespace, [0x2a, 0x2b, 0x2c, 0x2d], 7, 1⟩] := by decide +kernel
  rcases handedFor_refines (takesAll true) referenceLibs (newController (some .aesGcm128Sha256))
    mediaNamespace rfl pausedSubscriber (by simp [pausedSubscriber]) with
    ⟨-, hnothing⟩ | hserved
  · rw [hhanded] at hnothing
    cases hnothing
  · exact ⟨hhanded, hserved⟩

/-! ## Genuine objects -/

/-- Without a cipher suite a delegate stays without an SFrame context. -/
theorem receiveStep_keepsClear (d : SubscriptionDelegate Suite Ctx Namespace)
    (h : d.sframeContext = none) (x : Received) : (receiveStep L d x).2.sframeContext = none := by
  unfold receiveStep SubscriptionDelegate.onSubscribedObject
  by_cases hdata : x.data = []
  · rw [if_pos hdata]
    exact h
  · rw [if_neg hdata]
    simp only [countObject_sframeContext, h]

section Genuine

variable (hround : L.RoundTrip) (hvar : L.VarIntLaws)
include hround hvar

/-- Where a genuine object is addressed, and what it opens to. -/
theorem Genuine.addressed_forwardOf {suite : Suite} {p : Published}
    (hp : Genuine L (some suite) p) (ns : Namespace) :
    addressed L p.received = some (L.namespaceOf p.quicrName quicrSFrameSigBits, fixedEpoch) ∧
      forwardOf L suite ns p.received = some (p.forwarded ns) := by
  -- a lock that nothing has written lets it through and keeps its epoch
  obtain ⟨hout, hfixed⟩ := lockStep_genuine L suite hround hvar ns (fun _ => none)
    (fun _ => Or.inl rfl) p hp
  cases haddr : addressed L p.received with
  | none =>
      rw [lockStep_none L suite ns _ haddr] at hout
      cases hout
  | some u =>
      obtain ⟨ns', e⟩ := u
      have hself : latch (fun _ : Namespace => (none : Option Epoch)) ns' e ns' = some e := by
        rw [latch_self]
        rfl
      rw [lockStep_some L suite ns _ haddr] at hout hfixed
      rw [if_pos hself] at hout
      have he : e = fixedEpoch := by
        rcases hfixed ns' with hfree | hlocked
        · exact nomatch hself.symm.trans hfree
        · exact Option.some.inj (hself.symm.trans hlocked)
      have hns : L.namespaceOf p.quicrName quicrSFrameSigBits = ns' := by
        unfold addressed at haddr
        split at haddr
        · cases haddr
        · obtain ⟨r, -, hr⟩ := Option.map_eq_some_iff.mp haddr
          exact (Prod.mk.inj hr).1
      rw [hns, he]
      exact ⟨rfl, hout⟩

/-- A lock lets a genuine object through if its namespace is free or held by the fixed epoch. -/
theorem lockStep_genuine_if {suite : Suite} {p : Published} (hp : Genuine L (some suite) p)
    (ns : Namespace) (owner : Namespace → Option Epoch) :
    (lockStep L suite ns owner p.received).1 =
      if owner (L.namespaceOf p.quicrName quicrSFrameSigBits) = none ∨
        owner (L.namespaceOf p.quicrName quicrSFrameSigBits) = some fixedEpoch
      then some (p.forwarded ns) else none := by
  obtain ⟨haddr, hforward⟩ := hp.addressed_forwardOf L hround hvar ns
  rw [lockStep_some L suite ns owner haddr, hforward, latch_self]
  cases owner (L.namespaceOf p.quicrName quicrSFrameSigBits) with
  | none => simp
  | some e => simp

variable (hkeys : L.KeyLaws) (hreq : L.KeyRequired) (hidem : L.AddKeyIdem)
include hkeys hreq hidem

/-- A new delegate of `n`, after it has received `objects`, hands a genuine object over exactly
if the first of them for the object's 80-bit namespace, if any, named the fixed epoch. -/
theorem receiveStep_genuine_if (cipherSuite : Option Suite) (n : Namespace) (sourceId : SourceId)
    (intent : SubscribeIntent) (originUrl authToken : String) (e2eToken : Bytes) (qDelegate : Ref)
    (uninitialised : LossCounters) (objects : List Received) {p : Published}
    (hp : Genuine L cipherSuite p) :
    (receiveStep L (finalState (receiveStep L) (SubscriptionDelegate.create L.toSFrame sourceId n
        intent originUrl authToken e2eToken qDelegate cipherSuite uninitialised) objects)
      p.received).1 =
      if cipherSuite = none ∨
        nextEpoch L objects (L.namespaceOf p.quicrName quicrSFrameSigBits) = none ∨
        nextEpoch L objects (L.namespaceOf p.quicrName quicrSFrameSigBits) = some fixedEpoch
      then some (p.forwarded n) else none := by
  cases cipherSuite with
  | none =>
      obtain ⟨hns, hclear⟩ := finalState_invariant (receiveStep L)
        (fun d => d.quicrNamespace = n ∧ d.sframeContext = none) objects
        (fun d x _ hd => ⟨(receiveStep_identity L d x).1.trans hd.1,
          receiveStep_keepsClear L d hd.2 x⟩)
        (SubscriptionDelegate.create L.toSFrame sourceId n intent originUrl authToken e2eToken
          qDelegate none uninitialised) ⟨rfl, rfl⟩
      rw [if_pos (Or.inl rfl), (receiveStep_clear L _ hclear p hp).1, hns]
  | some suite =>
      have hnew := create_receiverLocked L suite sourceId n intent originUrl authToken e2eToken
        qDelegate uninitialised
      obtain ⟨-, hlocked⟩ := outputs_receiveStep L suite hkeys hreq hidem n _ _ hnew objects
      have howner : finalState (lockStep L suite n) (fun _ => none) objects
          (L.namespaceOf p.quicrName quicrSFrameSigBits) =
          nextEpoch L objects (L.namespaceOf p.quicrName quicrSFrameSigBits) := by
        rw [finalState_lockStep, latchAll_apply, Option.none_or]
        rfl
      rw [(receiveStep_locked L suite hkeys hreq hidem n _ _ p.received hlocked).1,
        lockStep_genuine_if L hround hvar hp, howner]
      simp

/-- **Lock-out and recovery.** Let a manifest register `n` in a run of calls and arrivals, the
objects being anyone's, and let `n` not be stopped since. A genuine object that then arrives
for `n` is handed over with its data, unless there is a cipher suite and the first object for
its 80-bit namespace since that manifest named another epoch than the fixed one; then no
genuine object of that namespace is handed over any more. What arrived before the manifest
does not matter.
SOURCE: src/QuicrDelegates.cpp:114-213, src/QController.cpp:183-212, src/QController.cpp:337-352 -/
theorem genuine_handed_if (c : QController Suite Ctx Namespace) (n : Namespace)
    (pre : List (SessionOp Namespace)) (m : Manifest Namespace)
    (post : List (SessionOp Namespace))
    (hfree : (finalState (sessionStep env L) c pre).quicrSubscriptionsMap.lookup n = none)
    (hregistered : (finalState (sessionStep env L) c
      (pre ++ [.call (.updateManifest m)])).quicrSubscriptionsMap.lookup n ≠ none)
    (hstop : .call (.stopSubscription n) ∉ post) {p : Published}
    (hp : Genuine L c.cipherSuite p) :
    (sessionStep env L
        (finalState (sessionStep env L) c (pre ++ .call (.updateManifest m) :: post))
        (.arrive n p.received)).1 =
      .handed (if c.cipherSuite = none ∨
          nextEpoch L (arrivals n post) (L.namespaceOf p.quicrName quicrSFrameSigBits) = none ∨
          nextEpoch L (arrivals n post) (L.namespaceOf p.quicrName quicrSFrameSigBits) =
            some fixedEpoch
        then some (p.forwarded n) else none) := by
  obtain ⟨d, hd⟩ := Option.ne_none_iff_exists'.mp hregistered
  have hl := lookup_of_not_stopped env L c pre (.call (.updateManifest m)) hstop hd
  rw [finalState_append] at hd
  have hasks := updateManifest_asksFor env L hfree m hd
  rw [finalState_cipherSuite] at hasks
  obtain ⟨-, stream, profile, qDelegate, uninitialised, -, -, -, -, hcreate⟩ := hasks
  have hgenuine := receiveStep_genuine_if L hround hvar hkeys hreq hidem c.cipherSuite n
    stream.sourceId .syncUp "" "" [] qDelegate uninitialised (arrivals n post) hp
  rw [← hcreate] at hgenuine
  rcases onSubscribedObject_cases L _ n p.received with ⟨hnone, -⟩ | ⟨d', hl', heq⟩
  · rw [hl] at hnone
    cases hnone
  · rw [hl] at hl'
    obtain rfl := Option.some.inj hl'
    show SessionReply.handed (onSubscribedObject L _ n p.received).1 = _
    rw [heq, hgenuine]

end Genuine

/-- The record of `genuineObject`. -/
def genuineRecord : Published :=
  ⟨genuineObject.quicrName, genuineObject.data, [0x2a, 0x2b, 0x2c, 0x2d], 7, 1⟩

/-- The record is of an object that a publisher sends. -/
theorem genuineRecord_genuine : Genuine referenceLibs (some .aesGcm128Sha256) genuineRecord where
  groupId_eq := by decide +kernel
  objectId_eq := by decide +kernel
  payload_ne_nil := by decide
  wire := ⟨_, by decide +kernel, rfl⟩

/-- A forged object locks the subscriber out, until it is stopped and registered again. -/
theorem genuine_handed_if_forged :
    (sessionStep (takesAll true) referenceLibs
        (finalState (sessionStep (takesAll true) referenceLibs)
          (newController (some .aesGcm128Sha256))
          ([.call (.connect localRelay)] ++ .call (.updateManifest (subscribeCamera "80a6ac22")) ::
            [.arrive mediaNamespace forgedObject]))
        (.arrive mediaNamespace genuineRecord.received)).1 = .handed none ∧
      (sessionStep (takesAll true) referenceLibs
        (finalState (sessionStep (takesAll true) referenceLibs)
          (newController (some .aesGcm128Sha256))
          ([.call (.connect localRelay), .call (.updateManifest (subscribeCamera "80a6ac22")),
            .arrive mediaNamespace forgedObject, .call (.stopSubscription mediaNamespace)] ++
            .call (.updateManifest (subscribeCamera "80a6ac22")) :: []))
        (.arrive mediaNamespace genuineRecord.received)).1 =
        .handed (some (genuineRecord.forwarded mediaNamespace)) := by
  refine ⟨?_, ?_⟩
  · rw [genuine_handed_if (takesAll true) referenceLibs referenceLibs_roundTrip
      referenceLibs_varIntLaws referenceLibs_keyLaws referenceLibs_keyRequired
      referenceLibs_addKeyIdem (newController (some .aesGcm128Sha256)) mediaNamespace
      [.call (.connect localRelay)] (subscribeCamera "80a6ac22")
      [.arrive mediaNamespace forgedObject] (by decide +kernel) (by decide +kernel) (by simp)
      genuineRecord_genuine]
    decide +kernel
  · rw [genuine_handed_if (takesAll true) referenceLibs referenceLibs_roundTrip
      referenceLibs_varIntLaws referenceLibs_keyLaws referenceLibs_keyRequired
      referenceLibs_addKeyIdem (newController (some .aesGcm128Sha256)) mediaNamespace
      [.call (.connect localRelay), .call (.updateManifest (subscribeCamera "80a6ac22")),
        .arrive mediaNamespace forgedObject, .call (.stopSubscription mediaNamespace)]
      (subscribeCamera "80a6ac22") [] (by decide +kernel) (by decide +kernel) (by simp)
      genuineRecord_genuine]
    decide +kernel

end Qmedia.Analysis
