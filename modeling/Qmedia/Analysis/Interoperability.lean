import Qmedia.Analysis.RoundTrip
import Qmedia.Analysis.PublisherRefinement
import Qmedia.Analysis.ManifestSubscriptions
import Qmedia.Analysis.PublicationSeparation
import Qmedia.Analysis.LiveSubscriptions
import Qmedia.Model.Conference

/-!
# Controllers that can talk to each other

What `Qmedia.Analysis.RoundTrip` asks of one publishing and one receiving delegate holds of all
delegates of a controller, in every state: their SFrame contexts belong to the controller's
cipher suite and no epoch but the fixed one has been used in them (`Interoperable`). Every call
keeps that, and so does every object that such a controller sent. A call hands an object to the
session only if it publishes, and the object is genuine for the data of the call
(`controllerStep_objects`).
-/

set_option autoImplicit false

namespace Qmedia.Analysis

open Qmedia.Library Qmedia.Model Qmedia.Model.QController

variable {Suite Ctx Namespace : Type} [DecidableEq Namespace]
variable (env : Environment Namespace) (L : Libs Suite Ctx Namespace)

/-! ## Receiving delegates -/

/-- Receiving an object changes neither the namespace nor the source of a delegate. -/
theorem receiveStep_identity (d : SubscriptionDelegate Suite Ctx Namespace) (x : Received) :
    (receiveStep L d x).2.quicrNamespace = d.quicrNamespace ∧
      (receiveStep L d x).2.sourceId = d.sourceId := by
  have hcount : (d.countObject (bits 32 x.quicrName 16 32) (bits 16 x.quicrName 0
      16)).quicrNamespace = d.quicrNamespace ∧
      (d.countObject (bits 32 x.quicrName 16 32) (bits 16 x.quicrName 0 16)).sourceId =
        d.sourceId := ⟨countObject_quicrNamespace d _ _, rfl⟩
  unfold receiveStep SubscriptionDelegate.onSubscribedObject
  split
  · exact ⟨rfl, rfl⟩
  · simp only
    split
    · exact hcount
    · split
      · exact hcount
      · split
        · exact hcount
        · exact hcount

/-- A delegate for `ns` that has received nothing but genuine objects. -/
def ReceiverReady (cipherSuite : Option Suite) (ns : Namespace)
    (d : SubscriptionDelegate Suite Ctx Namespace) : Prop :=
  match cipherSuite with
  | none => d.quicrNamespace = ns ∧ d.sframeContext = none
  | some suite => ∃ owner, ReceiverLocked L suite ns d owner ∧ FixedOnly owner

/-- A new receiving delegate is ready. -/
theorem create_receiverReady (cipherSuite : Option Suite) (ns : Namespace) (sourceId : SourceId)
    (intent : SubscribeIntent) (originUrl authToken : String) (e2eToken : Bytes)
    (qDelegate : Ref) (uninitialised : LossCounters) :
    ReceiverReady L cipherSuite ns (SubscriptionDelegate.create L.toSFrame sourceId ns intent
      originUrl authToken e2eToken qDelegate cipherSuite uninitialised) := by
  unfold ReceiverReady
  cases cipherSuite with
  | none => exact ⟨rfl, rfl⟩
  | some suite =>
      exact ⟨_, create_receiverLocked L suite sourceId ns intent originUrl authToken e2eToken
        qDelegate uninitialised, fun _ => Or.inl rfl⟩

/-! ## Objects -/

omit [DecidableEq Namespace] in
/-- The record of an object sent for `data`, with the ids that its name carries. -/
def asPublished (quicrName : Name) (bytes data : Bytes) : Published :=
  ⟨quicrName, bytes, data, bits 32 quicrName 16 32, bits 16 quicrName 0 16⟩

section Receiving

variable (hkeys : L.KeyLaws) (hreq : L.KeyRequired) (hidem : L.AddKeyIdem)
  (hround : L.RoundTrip) (hvar : L.VarIntLaws)
include hkeys hreq hidem hround hvar

/-- **Receiving.** A genuine object is handed over, and the delegate stays ready. -/
theorem receiveStep_ready {cipherSuite : Option Suite} {ns : Namespace}
    {d : SubscriptionDelegate Suite Ctx Namespace} (h : ReceiverReady L cipherSuite ns d)
    {p : Published} (hp : Genuine L cipherSuite p) :
    (receiveStep L d p.received).1 = some (p.forwarded ns) ∧
      ReceiverReady L cipherSuite ns (receiveStep L d p.received).2 := by
  unfold ReceiverReady at *
  cases cipherSuite with
  | none =>
      obtain ⟨rfl, hclear⟩ := h
      exact receiveStep_clear L d hclear p hp
  | some suite =>
      obtain ⟨owner, hlocked, hfixed⟩ := h
      obtain ⟨hout, hlocked'⟩ := receiveStep_locked L suite hkeys hreq hidem ns d owner p.received
        hlocked
      obtain ⟨hforward, hfixed'⟩ := lockStep_genuine L suite hround hvar ns owner hfixed p hp
      exact ⟨hout.trans hforward, _, hlocked', hfixed'⟩

end Receiving

/-! ## Interoperable controllers -/

/-- Every delegate of the controller is as built, or as genuine objects have left it. -/
structure Interoperable (cipherSuite : Option Suite) (c : QController Suite Ctx Namespace) :
    Prop where
  cipherSuite_eq : c.cipherSuite = cipherSuite
  publications : ∀ ns publication, c.quicrPublicationsMap.lookup ns = some publication →
    PublisherContext L cipherSuite publication.delegate.sframeContext
  subscriptions : ∀ ns delegate, c.quicrSubscriptionsMap.lookup ns = some delegate →
    ReceiverReady L cipherSuite ns delegate

/-- A new controller is interoperable. -/
theorem create_interoperable {qSubscriberDelegate qPublisherDelegate : Option Ref}
    {logger debugging : Bool} {cipherSuite : Option Suite} {c₀ : QController Suite Ctx Namespace}
    (hc₀ : QController.create qSubscriberDelegate qPublisherDelegate logger debugging cipherSuite =
      .ok c₀) : Interoperable L cipherSuite c₀ := by
  obtain rfl := create_ok hc₀
  exact ⟨rfl, nofun, nofun⟩

/-- An interoperable controller stays so while its publications stay, whatever is left of its
subscriptions. -/
theorem Interoperable.of_subset {cipherSuite : Option Suite}
    {c c' : QController Suite Ctx Namespace} (h : Interoperable L cipherSuite c)
    (hsuite : c'.cipherSuite = c.cipherSuite)
    (hpub : c'.quicrPublicationsMap = c.quicrPublicationsMap)
    (hsub : ∀ ns delegate, c'.quicrSubscriptionsMap.lookup ns = some delegate →
      c.quicrSubscriptionsMap.lookup ns = some delegate) :
    Interoperable L cipherSuite c' where
  cipherSuite_eq := hsuite.trans h.cipherSuite_eq
  publications ns publication hl := by
    rw [hpub] at hl
    exact h.publications ns publication hl
  subscriptions ns delegate hl := h.subscriptions ns delegate (hsub ns delegate hl)

/-- An interoperable controller stays so when a publication is put in the place of another or
under a new namespace, if its context is a publisher's. -/
theorem Interoperable.insert {cipherSuite : Option Suite}
    {c c' : QController Suite Ctx Namespace}
    (h : Interoperable L cipherSuite c) (ns : Namespace)
    (publication : PublicationDetails Suite Ctx Namespace)
    (hcontext : PublisherContext L cipherSuite publication.delegate.sframeContext)
    (hsuite : c'.cipherSuite = c.cipherSuite)
    (hpub : c'.quicrPublicationsMap = c.quicrPublicationsMap.insert ns publication)
    (hsub : c'.quicrSubscriptionsMap = c.quicrSubscriptionsMap) :
    Interoperable L cipherSuite c' where
  cipherSuite_eq := hsuite.trans h.cipherSuite_eq
  publications ns' publication' hl := by
    rw [hpub] at hl
    by_cases hns : ns' = ns
    · subst hns
      rw [AList.lookup_insert] at hl
      obtain rfl := Option.some.inj hl
      exact hcontext
    · rw [AList.lookup_insert_ne hns] at hl
      exact h.publications ns' publication' hl
  subscriptions ns' delegate hl := by
    rw [hsub] at hl
    exact h.subscriptions ns' delegate hl

/-- A manifest adds new delegates only. -/
theorem Interoperable.updateManifest {cipherSuite : Option Suite}
    {c : QController Suite Ctx Namespace}
    (h : Interoperable L cipherSuite c) (m : Manifest Namespace) :
    Interoperable L cipherSuite (c.updateManifest env L m) := by
  obtain ⟨-, hmap, -, -⟩ := updateManifest_subscriptionMaps env L c m
  refine processPublications_invariant env L (Interoperable L cipherSuite) m.publications
    (fun c' s p _ _ hc' => ?_) (c.processSubscriptions env L m.subscriptions) ?_
  · rcases processProfile_cases env L c' s p with
      ⟨_, _, -, heq, -⟩ | ⟨_, _, _, q, time, _, _, -, -, -, -, -, heq⟩
    · rw [heq]
      exact hc'.of_subset L rfl rfl fun _ _ hl => hl
    · rw [heq]
      refine hc'.insert L p.quicrNamespace ⟨.active, delegateFor L c' q time s p⟩ ?_ rfl rfl rfl
      show PublisherContext L cipherSuite (newSFrameContext L.toSFrame c'.cipherSuite)
      rw [hc'.cipherSuite_eq]
      exact newSFrameContext_publisherContext L cipherSuite
  · have hextends := updateManifest_extends env L c m
    obtain ⟨m₁, m₂, es, heq, -⟩ := processSubscriptions_side env L c m.subscriptions
    unfold ExtendedBy at hextends
    rw [hmap] at hextends
    refine ⟨by rw [heq]; exact h.cipherSuite_eq, by rw [heq]; exact h.publications, ?_⟩
    intro ns delegate hl
    rcases hextends.kept_or_built hl with hold | ⟨s, -, uninitialised, rfl⟩
    · exact h.subscriptions ns delegate hold
    · rw [h.cipherSuite_eq]
      exact create_receiverReady L cipherSuite ns _ _ _ _ _ _ _

section Publishing

variable (hkeys : L.KeyLaws) (hidem : L.AddKeyIdem)
include hkeys hidem

/-- **Publishing.** A call on a delegate keeps its context a publisher's, and what it hands to
the client is genuine. -/
theorem publishNamedObject_genuine {cipherSuite : Option Suite}
    {d : PublicationDelegate Suite Ctx Namespace}
    (h : PublisherContext L cipherSuite d.sframeContext) (client : Bool) (data : Bytes)
    (groupFlag : Bool) (trace : Trace) :
    (∀ object, sentObject (d.publishNamedObject L client data groupFlag trace).1 = some object →
        Genuine L cipherSuite (asPublished object.quicrName object.data data)) ∧
      PublisherContext L cipherSuite
        (d.publishNamedObject L client data groupFlag trace).2.sframeContext := by
  by_cases hdata : data = []
  · have heq : d.publishNamedObject L client data groupFlag trace = (.ok ⟨none, none⟩, d) := by
      unfold PublicationDelegate.publishNamedObject
      rw [if_pos hdata]
    rw [heq]
    exact ⟨nofun, h⟩
  · rcases publishNamedObject_delegate_cases L d client data groupFlag trace with
      heq | heq | ⟨name, pri, exp, hname, heq⟩
    · rw [heq]
      exact ⟨nofun, h⟩
    · rw [heq]
      exact ⟨nofun, h⟩
    · obtain ⟨hwire, hnext⟩ := encryptObject_wire L hkeys hidem cipherSuite d.sframeContext h name
        data trace
      rw [heq]
      refine ⟨fun object hobject => ?_, hnext⟩
      obtain ⟨q, hq, rfl⟩ := Option.map_eq_some_iff.mp hobject
      exact ⟨rfl, rfl, hdata, hwire q hq⟩

/-- Publishing uses the fixed epoch only. -/
theorem Interoperable.publishNamedObject {cipherSuite : Option Suite}
    {c : QController Suite Ctx Namespace} (h : Interoperable L cipherSuite c) (ns : Namespace)
    (data : Bytes) (groupFlag : Bool) (startTime : ℕ) :
    Interoperable L cipherSuite (c.publishNamedObject L ns data groupFlag startTime).2 := by
  rcases publishNamedObject_cases L c ns data groupFlag startTime with
    hskip | ⟨publication, es, -, hl, -, hnext⟩
  · rw [hskip]
    exact h
  · rw [hnext]
    exact h.insert L ns _ (publishNamedObject_genuine L hkeys hidem
      (h.publications ns publication hl) c.clientSession.isSome data groupFlag
      (startTrace startTime)).2 rfl rfl rfl

/-- **One call** keeps a controller interoperable. -/
theorem Interoperable.controllerStep {cipherSuite : Option Suite}
    {c : QController Suite Ctx Namespace}
    (h : Interoperable L cipherSuite c) (op : ControllerOp Namespace) :
    Interoperable L cipherSuite (controllerStep env L c op).2 := by
  cases op with
  | connect config =>
      show Interoperable L cipherSuite (c.connect env config).2
      obtain ⟨success, heq⟩ := connect_eq env c config
      rw [heq]
      exact h.of_subset L rfl rfl fun _ _ hl => hl
  | disconnect =>
      show Interoperable L cipherSuite c.disconnect.2
      rcases disconnect_cases c with ⟨-, heq⟩ | ⟨-, heq⟩
      · rw [heq]
        exact h
      · rw [heq]
        exact h.of_subset L rfl rfl fun _ _ hl => hl
  | updateManifest m => exact h.updateManifest env L m
  | publishNamedObject ns data groupFlag startTime =>
      exact h.publishNamedObject L hkeys hidem ns data groupFlag startTime
  | stopSubscription ns =>
      show Interoperable L cipherSuite (c.stopSubscription ns)
      refine h.of_subset L ?_ ?_ fun _ _ hl => lookup_of_stopSubscription hl
      · rcases stopSubscription_cases c ns with ⟨-, heq⟩ | ⟨delegate, -, heq⟩
        · rw [heq]
        · rw [heq]
      · rcases stopSubscription_cases c ns with ⟨-, heq⟩ | ⟨delegate, -, heq⟩
        · rw [heq]
        · rw [heq]
  | setPublicationState ns state =>
      show Interoperable L cipherSuite (c.setPublicationState ns state)
      rcases setPublicationState_cases c ns state with ⟨-, heq⟩ | ⟨publication, hl, heq⟩
      · rw [heq]
        exact h
      · rw [heq]
        exact h.insert L ns { publication with state := state } (h.publications ns publication hl)
          rfl rfl rfl
  | setSubscriptionState ns transportMode =>
      show Interoperable L cipherSuite (c.setSubscriptionState ns transportMode)
      rcases setSubscriptionState_cases c ns transportMode with ⟨-, heq⟩ | ⟨delegate, -, heq⟩
      · rw [heq]
        exact h
      · rw [heq, subscribe_eq]
        exact h.of_subset L rfl rfl fun _ _ hl => hl
  | setSubscriptionSingleOrdered newValue => exact h.of_subset L rfl rfl fun _ _ hl => hl
  | setPublicationSingleOrdered newValue => exact h.of_subset L rfl rfl fun _ _ hl => hl
  | _ => exact h

/-- What a call on an interoperable controller hands to the session is genuine for the data of
the call. -/
theorem Interoperable.genuine {cipherSuite : Option Suite} {c : QController Suite Ctx Namespace}
    (h : Interoperable L cipherSuite c) {ns : Namespace} {data : Bytes} {groupFlag : Bool}
    {startTime : ℕ} {object : Datagram}
    (hobject : sentObject (c.publishNamedObject L ns data groupFlag startTime).1 = some object) :
    Genuine L cipherSuite (asPublished object.quicrName object.data data) := by
  rcases publishNamedObject_cases L c ns data groupFlag startTime with
    hskip | ⟨publication, es, -, hl, heffect, -⟩
  · rw [hskip] at hobject
    cases hobject
  · rw [heffect] at hobject
    exact (publishNamedObject_genuine L hkeys hidem (h.publications ns publication hl)
      c.clientSession.isSome data groupFlag (startTrace startTime)).1 object hobject

end Publishing

/-- A call hands the object that it reports to the session in use, and nothing if it reports
none. -/
theorem publishNamedObject_log (c : QController Suite Ctx Namespace) (ns : Namespace)
    (data : Bytes) (groupFlag : Bool) (startTime : ℕ) :
    (sentObject (c.publishNamedObject L ns data groupFlag startTime).1 = none ∧
      (c.publishNamedObject L ns data groupFlag startTime).2.log = c.log) ∨
    ∃ session object, c.clientSession = some session ∧
      sentObject (c.publishNamedObject L ns data groupFlag startTime).1 = some object ∧
      (c.publishNamedObject L ns data groupFlag startTime).2.log =
        .publishNamedObject session object :: c.log := by
  unfold QController.publishNamedObject
  cases hl : c.quicrPublicationsMap.lookup ns with
  | none => exact Or.inl ⟨rfl, rfl⟩
  | some publication =>
      simp only
      by_cases hpaused : publication.state = .paused
      · rw [if_pos hpaused]
        exact Or.inl ⟨rfl, rfl⟩
      · rw [if_neg hpaused]
        cases hsession : c.clientSession with
        | none =>
            -- without a session the delegate sends nothing
            have hidle : publication.delegate.publishNamedObject L false data groupFlag
                (startTrace startTime) = (.ok ⟨none, none⟩, publication.delegate) := by
              unfold PublicationDelegate.publishNamedObject
              simp only [Bool.not_false, if_true, ite_self]
            rw [Option.isSome_none, hidle]
            exact Or.inl ⟨rfl, rfl⟩
        | some session =>
            generalize publication.delegate.publishNamedObject L (some session).isSome data groupFlag
              (startTrace startTime) = result
            obtain ⟨effect, delegate⟩ := result
            cases effect with
            | error f => exact Or.inl ⟨rfl, rfl⟩
            | ok effect =>
                obtain ⟨protectCall, sent⟩ := effect
                cases sent with
                | none => exact Or.inl ⟨rfl, rfl⟩
                | some object => exact Or.inr ⟨session, object, rfl, rfl, rfl⟩

/-- No call but `publishNamedObject` hands an object to a session. -/
theorem controllerStep_objects (c : QController Suite Ctx Namespace) (op : ControllerOp Namespace) :
    (∃ es, (∀ e ∈ es, isObject e = false) ∧ (controllerStep env L c op).2.log = es ++ c.log) ∨
    ∃ ns data groupFlag startTime session object,
      op = .publishNamedObject ns data groupFlag startTime ∧ c.clientSession = some session ∧
      sentObject (c.publishNamedObject L ns data groupFlag startTime).1 = some object ∧
      (controllerStep env L c op).2.log = .publishNamedObject session object :: c.log := by
  have hside {c' : QController Suite Ctx Namespace} (h : SubscriptionSide c c') :
      ∃ es, (∀ e ∈ es, isObject e = false) ∧ c'.log = es ++ c.log := by
    obtain ⟨m₁, m₂, es, rfl, hes⟩ := h
    refine ⟨es, fun e he => ?_, rfl⟩
    have hasks := hes e he
    cases e with
    | publishNamedObject _ _ => cases hasks
    | _ => rfl
  cases op with
  | connect config =>
      obtain ⟨success, heq⟩ := connect_eq env c config
      refine Or.inl ⟨[.connect c.sessions config success], by simp [isObject], ?_⟩
      show (c.connect env config).2.log = _
      rw [heq]
      rfl
  | disconnect =>
      left
      show ∃ es, _ ∧ c.disconnect.2.log = es ++ c.log
      rcases disconnect_cases c with ⟨-, heq⟩ | ⟨-, heq⟩
      · rw [heq]
        exact ⟨[], by simp, rfl⟩
      · rw [heq]
        exact ⟨c.clientSession.toList.map Event.disconnect, by simp [isObject], rfl⟩
  | updateManifest m =>
      left
      refine processPublications_invariant env L
        (fun c' => ∃ es, (∀ e ∈ es, isObject e = false) ∧ c'.log = es ++ c.log) m.publications
        (fun c' s p _ _ hc' => ?_) _ (hside (processSubscriptions_side env L c m.subscriptions))
      obtain ⟨before, hbefore, hlog⟩ := hc'
      have hasked {es : List (Event Namespace)} (hes : ∀ e ∈ es, asksPublication e) :
          ∀ e ∈ es ++ before, isObject e = false := by
        intro e he
        rcases List.mem_append.mp he with hnew | hold
        · have hasks := hes e hnew
          cases e with
          | publishNamedObject _ _ => cases hasks
          | _ => rfl
        · exact hbefore e hold
      rcases processProfile_cases env L c' s p with
        ⟨_, es, hes, heq, -⟩ | ⟨_, es, session, _, _, request, accepted, hes, -, -, -, -, heq⟩
      · refine ⟨es ++ before, hasked hes, ?_⟩
        rw [heq, List.append_assoc, ← hlog]
        rfl
      · refine ⟨.publishIntent session request accepted :: (es ++ before),
          List.forall_mem_cons.mpr ⟨rfl, hasked hes⟩, ?_⟩
        rw [heq, List.cons_append, List.append_assoc, ← hlog]
  | publishNamedObject ns data groupFlag startTime =>
      rcases publishNamedObject_log L c ns data groupFlag startTime with
        ⟨-, hlog⟩ | ⟨session, object, hsession, hsent, hlog⟩
      · exact Or.inl ⟨[], by simp, hlog⟩
      · exact Or.inr ⟨ns, data, groupFlag, startTime, session, object, rfl, hsession, hsent, hlog⟩
  | stopSubscription ns => exact Or.inl (hside (stopSubscription_side c ns))
  | setPublicationState ns state =>
      left
      show ∃ es, _ ∧ (c.setPublicationState ns state).log = es ++ c.log
      rcases setPublicationState_cases c ns state with ⟨-, heq⟩ | ⟨publication, -, heq⟩
      · rw [heq]
        exact ⟨[], by simp, rfl⟩
      · rw [heq]
        exact ⟨[], by simp, rfl⟩
  | setSubscriptionState ns transportMode =>
      exact Or.inl (hside (setSubscriptionState_side c ns transportMode))
  | _ => exact Or.inl ⟨[], by simp, rfl⟩

/-! ## Objects that arrive -/

/-- An object for a namespace without a delegate is dropped, any other is the delegate's. -/
theorem onSubscribedObject_cases (c : QController Suite Ctx Namespace) (ns : Namespace)
    (x : Received) :
    (c.quicrSubscriptionsMap.lookup ns = none ∧ c.onSubscribedObject L ns x = (none, c)) ∨
    ∃ delegate, c.quicrSubscriptionsMap.lookup ns = some delegate ∧
      c.onSubscribedObject L ns x = ((receiveStep L delegate x).1, { c with
        quicrSubscriptionsMap := c.quicrSubscriptionsMap.insert ns
          (receiveStep L delegate x).2 }) := by
  unfold QController.onSubscribedObject
  cases hl : c.quicrSubscriptionsMap.lookup ns with
  | none => exact Or.inl ⟨rfl, rfl⟩
  | some delegate => exact Or.inr ⟨delegate, rfl, rfl⟩

section Receiving

variable (hkeys : L.KeyLaws) (hreq : L.KeyRequired) (hidem : L.AddKeyIdem)
  (hround : L.RoundTrip) (hvar : L.VarIntLaws)
include hkeys hreq hidem hround hvar

/-- A genuine object keeps a controller interoperable. -/
theorem Interoperable.onSubscribedObject {cipherSuite : Option Suite}
    {c : QController Suite Ctx Namespace} (h : Interoperable L cipherSuite c) (ns : Namespace)
    {p : Published} (hp : Genuine L cipherSuite p) :
    Interoperable L cipherSuite (c.onSubscribedObject L ns p.received).2 := by
  rcases onSubscribedObject_cases L c ns p.received with ⟨-, heq⟩ | ⟨delegate, hl, heq⟩
  · rw [heq]
    exact h
  · rw [heq]
    refine ⟨h.cipherSuite_eq, h.publications, ?_⟩
    intro ns' delegate' hl'
    by_cases hns : ns' = ns
    · subst hns
      rw [AList.lookup_insert] at hl'
      obtain rfl := Option.some.inj hl'
      exact (receiveStep_ready L hkeys hreq hidem hround hvar (h.subscriptions ns' delegate hl)
        hp).2
    · exact h.subscriptions ns' delegate' ((AList.lookup_insert_ne hns).symm.trans hl')

end Receiving

end Qmedia.Analysis
