import Qmedia.Analysis.Interoperability
import Qmedia.Analysis.RelayRouting
import Qmedia.Analysis.SubscriptionOwners
import Qmedia.Model.Reference

/-!
# What an application is handed was published

In a conference whose parties share the cipher suite, the calls of the clients may reach the
relay in any order, and what the relay sends may reach the parties in any order, again or
never. Still every object on its way is one that some call of the run published on another
connection (`Carries`), so an application is never handed anything else: whatever arrives for
a registered namespace is handed over, with the data of the call that published it and the ids
of its name (`delivered_handed`).
-/

set_option autoImplicit false

namespace Qmedia.Analysis

open Qmedia.Library Qmedia.Model Qmedia.Model.QController

variable {Party Suite Ctx Namespace : Type} [DecidableEq Party] [DecidableEq Namespace]
variable (env : Party → Environment Namespace) (L : Libs Suite Ctx Namespace)
  (contains : Namespace → Name → Bool)

/-! ## Steps -/

/-- The controller of the party that calls. -/
theorem call_self (w : Conference Party Suite Ctx Namespace) (party : Party)
    (op : ControllerOp Namespace) :
    (conferenceStep env L contains w (.call party op)).2.controllers party =
      (controllerStep (env party) L (w.controllers party) op).2 :=
  Function.update_self ..

/-- The controllers of the other parties stay as they are. -/
theorem call_other (w : Conference Party Suite Ctx Namespace) {party party' : Party}
    (hne : party' ≠ party) (op : ControllerOp Namespace) :
    (conferenceStep env L contains w (.call party op)).2.controllers party' =
      w.controllers party' :=
  Function.update_of_ne hne ..

/-- The controller of the party that receives. -/
theorem deliver_self (w : Conference Party Suite Ctx Namespace) (party : Party) (ns : Namespace)
    (datagram : PublishDatagram) :
    (w.deliver L party ns datagram).2.controllers party =
      ((w.controllers party).onSubscribedObject L ns ⟨datagram.name, datagram.mediaData⟩).2 :=
  Function.update_self ..

/-- The controllers of the other parties stay as they are. -/
theorem deliver_other (w : Conference Party Suite Ctx Namespace) {party party' : Party}
    (hne : party' ≠ party) (ns : Namespace) (datagram : PublishDatagram) :
    (w.deliver L party ns datagram).2.controllers party' = w.controllers party' :=
  Function.update_of_ne hne ..

/-- What reaches the relay changes no controller. -/
theorem request_controllers (w : Conference Party Suite Ctx Namespace) (party : Party)
    (e : Event Namespace) : (w.request contains party e).2.controllers = w.controllers := by
  unfold Conference.request
  cases requestOf party e with
  | none => rfl
  | some op => rfl

/-- A call that was made reaches a relay that still runs. -/
theorem request_some {w : Conference Party Suite Ctx Namespace} {party : Party} {index : ℕ}
    {e : Event Namespace} (hdown : w.down = false)
    (hindex : (w.controllers party).log.reverse[index]? = some e) :
    conferenceStep env L contains w (.request party index) = w.request contains party e := by
  unfold conferenceStep
  simp only [hdown, Bool.false_eq_true, if_false, hindex]

/-- A request that is made of the relay is some call of the party. -/
theorem request_cases (w : Conference Party Suite Ctx Namespace) (party : Party) (index : ℕ) :
    conferenceStep env L contains w (.request party index) = (.nothing, w) ∨
    ∃ e ∈ (w.controllers party).log, w.down = false ∧
      conferenceStep env L contains w (.request party index) = w.request contains party e := by
  cases hdown : w.down with
  | true =>
      left
      unfold conferenceStep
      simp only [hdown, if_true]
  | false =>
      cases hindex : (w.controllers party).log.reverse[index]? with
      | none =>
          left
          unfold conferenceStep
          simp only [hdown, Bool.false_eq_true, if_false, hindex]
      | some e =>
          exact Or.inr ⟨e, List.mem_reverse.mp (List.mem_of_getElem? hindex), rfl,
            request_some env L contains hdown hindex⟩

/-- Nothing arrives that was not sent. -/
theorem deliver_none {w : Conference Party Suite Ctx Namespace} {index : ℕ}
    (hindex : w.relayed[index]? = none) :
    conferenceStep env L contains w (.deliver index) = (.nothing, w) := by
  unfold conferenceStep
  simp only [hindex]

/-- What was sent arrives at the party it was sent to. -/
theorem deliver_some {w : Conference Party Suite Ctx Namespace} {index : ℕ}
    {m : ClientSubscription Party Namespace × PublishDatagram}
    (hindex : w.relayed[index]? = some m) :
    conferenceStep env L contains w (.deliver index) = w.deliver L m.1.1.1 m.1.2 m.2 := by
  unfold conferenceStep
  simp only [hindex]

/-- The conference after a run. -/
def conferenceAfter (w₀ : Conference Party Suite Ctx Namespace)
    (ops : List (ConferenceOp Party Namespace)) : Conference Party Suite Ctx Namespace :=
  finalState (conferenceStep env L contains) w₀ ops

/-- The last step is taken last. -/
theorem conferenceAfter_append (w₀ : Conference Party Suite Ctx Namespace)
    (ops : List (ConferenceOp Party Namespace)) (op : ConferenceOp Party Namespace) :
    conferenceAfter env L contains w₀ (ops ++ [op]) =
      (conferenceStep env L contains (conferenceAfter env L contains w₀ ops) op).2 := by
  unfold conferenceAfter
  rw [finalState_append]
  rfl

/-! ## Published objects -/

/-- A call of the run, made by `party` while `session` was its session, published `data` as
the object. -/
def PublishedIn (w₀ : Conference Party Suite Ctx Namespace)
    (ops : List (ConferenceOp Party Namespace)) (party : Party) (session : Session)
    (data : Bytes) (object : Datagram) : Prop :=
  ∃ pre ns groupFlag startTime post,
    ops = pre ++ .call party (.publishNamedObject ns data groupFlag startTime) :: post ∧
    ((conferenceAfter env L contains w₀ pre).controllers party).clientSession = some session ∧
    sentObject (((conferenceAfter env L contains w₀ pre).controllers party).publishNamedObject L ns
      data groupFlag startTime).1 = some object

/-- What was published in a run was published in a longer one. -/
theorem PublishedIn.append {w₀ : Conference Party Suite Ctx Namespace}
    {ops : List (ConferenceOp Party Namespace)} {party : Party} {session : Session}
    {data : Bytes} {object : Datagram}
    (h : PublishedIn env L contains w₀ ops party session data object)
    (op : ConferenceOp Party Namespace) :
    PublishedIn env L contains w₀ (ops ++ [op]) party session data object := by
  obtain ⟨pre, ns, groupFlag, startTime, post, rfl, hsession, hsent⟩ := h
  exact ⟨pre, ns, groupFlag, startTime, post ++ [op], by simp, hsession, hsent⟩

/-- **Carriage.** Every controller can read what the others send; every object that a client
was handed was published on its session by its party, and is genuine for the data published;
so is every object that the relay has sent, which it sends for a namespace that contains the
name and on another connection. -/
structure Carries (cipherSuite : Option Suite) (w₀ : Conference Party Suite Ctx Namespace)
    (ops : List (ConferenceOp Party Namespace)) (w : Conference Party Suite Ctx Namespace) :
    Prop where
  interoperable : ∀ party, Interoperable L cipherSuite (w.controllers party)
  logged : ∀ party session object,
    .publishNamedObject session object ∈ (w.controllers party).log →
      ∃ data, PublishedIn env L contains w₀ ops party session data object ∧
        Genuine L cipherSuite (asPublished object.quicrName object.data data)
  owned : ∀ s ∈ pairs w.relay.subscriptions, s.2.subscriberId = (s.2.connId, s.1)
  relayed : ∀ m ∈ w.relayed, ∃ party session data object,
    PublishedIn env L contains w₀ ops party session data object ∧
      Genuine L cipherSuite (asPublished object.quicrName object.data data) ∧
      m.2 = ⟨object.quicrName, object.data⟩ ∧ (party, session) ≠ m.1.1 ∧
      contains m.1.2 object.quicrName = true

omit [DecidableEq Party] [DecidableEq Namespace] in
/-- Every `sendNamedObject` sends one object. -/
theorem sentObjectsOf_map (datagram : PublishDatagram)
    (subs : List (Namespace × Subscriber (ClientSubscription Party Namespace) (ClientConn Party))) :
    sentObjectsOf (subs.map fun s => ServerCall.sendNamedObject s.2.subscriberId 1 500 datagram) =
      subs.map fun s => (s.2.subscriberId, datagram) := by
  unfold sentObjectsOf
  rw [List.filterMap_map, ← List.filterMap_eq_map]
  rfl

omit [DecidableEq Namespace] in
/-- What the relay sends for an object. -/
theorem sentObjectsOf_onPublisherObject
    (r : Relay Namespace (ClientSubscription Party Namespace) (ClientConn Party))
    (connId : ClientConn Party) (datagram : PublishDatagram) :
    sentObjectsOf (r.onPublisherObject contains connId datagram).1.calls =
      ((pairs r.subscriptions).filter fun s =>
        contains s.1 datagram.name && s.2.connId ≠ connId).map fun s =>
          (s.2.subscriberId, datagram) := by
  rw [onPublisherObject_calls, sentObjectsOf_map]

/-- What the relay has sent once an object has reached it. -/
theorem request_relayed (w : Conference Party Suite Ctx Namespace)
    (party : Party) (session : Session) (object : Datagram) :
    (w.request contains party (.publishNamedObject session object)).2.relayed =
      w.relayed ++ ((pairs w.relay.subscriptions).filter fun s =>
        contains s.1 object.quicrName && s.2.connId ≠ (party, session)).map fun s =>
          (s.2.subscriberId, ⟨object.quicrName, object.data⟩) := by
  show w.relayed ++ sentObjectsOf (w.relay.onPublisherObject contains (party, session)
    ⟨object.quicrName, object.data⟩).1.calls = _
  rw [sentObjectsOf_onPublisherObject]

/-- Only an object that reaches the relay makes it send objects. -/
theorem request_relayed_other (w : Conference Party Suite Ctx Namespace) (party : Party)
    {e : Event Namespace} (he : isObject e = false) :
    (w.request contains party e).2.relayed = w.relayed := by
  cases e with
  | publishNamedObject _ _ => cases he
  | subscribe session request => exact List.append_nil w.relayed
  | unsubscribe session request =>
      show w.relayed ++ sentObjectsOf (w.relay.onUnsubscribe request.quicrNamespace
        ((party, session), request.quicrNamespace)).1.calls = w.relayed
      rcases onUnsubscribe_cases w.relay request.quicrNamespace
        ((party, session), request.quicrNamespace) with ⟨-, heq⟩ | ⟨subs, -, heq⟩
      · rw [heq]
        exact List.append_nil w.relayed
      · rw [heq]
        exact List.append_nil w.relayed
  | publishIntent session request accepted => exact List.append_nil w.relayed
  | _ => rfl

/-- What the relay has sent stays on its way. -/
theorem relayed_grows (w : Conference Party Suite Ctx Namespace)
    (op : ConferenceOp Party Namespace) :
    w.relayed <+: (conferenceStep env L contains w op).2.relayed := by
  cases op with
  | call party op => exact List.prefix_rfl
  | request party index =>
      rcases request_cases env L contains w party index with heq | ⟨e, -, -, heq⟩
      · rw [heq]
      · rw [heq]
        cases he : isObject e with
        | false => rw [request_relayed_other contains w party he]
        | true =>
            cases e with
            | publishNamedObject session object =>
                rw [request_relayed]
                exact List.prefix_append _ _
            | _ => cases he
  | deliver index =>
      cases hindex : w.relayed[index]? with
      | none => rw [deliver_none env L contains hindex]
      | some m =>
          rw [deliver_some env L contains hindex]
          exact List.prefix_rfl

section Invariant

variable (hkeys : L.KeyLaws) (hreq : L.KeyRequired) (hidem : L.AddKeyIdem)
  (hround : L.RoundTrip) (hvar : L.VarIntLaws)

include hkeys hidem in
/-- A call of a party. -/
theorem Carries.call {cipherSuite : Option Suite} {w₀ : Conference Party Suite Ctx Namespace}
    {ops : List (ConferenceOp Party Namespace)}
    (h : Carries env L contains cipherSuite w₀ ops (conferenceAfter env L contains w₀ ops))
    (party : Party) (op : ControllerOp Namespace) :
    Carries env L contains cipherSuite w₀ (ops ++ [.call party op])
      (conferenceStep env L contains (conferenceAfter env L contains w₀ ops)
        (.call party op)).2 := by
  refine ⟨?_, ?_, h.owned, ?_⟩
  · intro party'
    by_cases hparty : party' = party
    · subst hparty
      rw [call_self]
      exact (h.interoperable party').controllerStep (env party') L hkeys hidem op
    · rw [call_other env L contains _ hparty]
      exact h.interoperable party'
  · intro party' session object he
    have hold (he' : .publishNamedObject session object ∈
        ((conferenceAfter env L contains w₀ ops).controllers party').log) :
        ∃ data, PublishedIn env L contains w₀ (ops ++ [.call party op]) party' session data object ∧
          Genuine L cipherSuite (asPublished object.quicrName object.data data) := by
      obtain ⟨data, hpublished, hgenuine⟩ := h.logged party' session object he'
      exact ⟨data, hpublished.append env L contains _, hgenuine⟩
    by_cases hparty : party' = party
    · subst hparty
      rw [call_self] at he
      rcases controllerStep_objects (env party') L ((conferenceAfter env L contains w₀
        ops).controllers party') op with
        ⟨es, hes, hlog⟩ | ⟨ns, data, groupFlag, startTime, session', object', rfl, hsession, hsent, hlog⟩
      · rw [hlog] at he
        rcases List.mem_append.mp he with hnew | he'
        · cases hes _ hnew
        · exact hold he'
      · rw [hlog] at he
        rcases List.mem_cons.mp he with heq | he'
        · cases heq
          exact ⟨data, ⟨ops, ns, groupFlag, startTime, [], rfl, hsession, hsent⟩,
            (h.interoperable party').genuine L hkeys hidem hsent⟩
        · exact hold he'
    · rw [call_other env L contains _ hparty] at he
      exact hold he
  · intro m hm
    obtain ⟨party', session, data, object, hpublished, hrest⟩ := h.relayed m hm
    exact ⟨party', session, data, object, hpublished.append env L contains _, hrest⟩

/-- A call that reaches the relay. -/
theorem Carries.request {cipherSuite : Option Suite} {w₀ : Conference Party Suite Ctx Namespace}
    {ops : List (ConferenceOp Party Namespace)} {w : Conference Party Suite Ctx Namespace}
    (h : Carries env L contains cipherSuite w₀ ops w) (party : Party) {e : Event Namespace}
    (he : e ∈ (w.controllers party).log) :
    Carries env L contains cipherSuite w₀ ops (w.request contains party e).2 := by
  have hquiet (hobject : isObject e = false) : (w.request contains party e).2.relayed = w.relayed :=
    request_relayed_other contains w party hobject
  cases e with
  | subscribe session request =>
      refine ⟨h.interoperable, h.logged, ?_, hquiet rfl ▸ h.relayed⟩
      intro s hs
      have hmem := (onSubscribe_pairs w.relay request.quicrNamespace
        ((party, session), request.quicrNamespace) (party, session)).mem_iff.mp hs
      rcases List.mem_append.mp hmem with hold | hnew
      · exact h.owned s hold
      · rw [List.mem_singleton.mp hnew]
  | unsubscribe session request =>
      refine ⟨h.interoperable, h.logged, ?_, hquiet rfl ▸ h.relayed⟩
      intro s hs
      have hmem := (onUnsubscribe_pairs w.relay request.quicrNamespace
        ((party, session), request.quicrNamespace)).mem_iff.mp hs
      exact h.owned s (List.mem_of_mem_filter hmem)
  | publishIntent session request accepted =>
      exact ⟨h.interoperable, h.logged, h.owned, hquiet rfl ▸ h.relayed⟩
  | publishNamedObject session object =>
      refine ⟨h.interoperable, h.logged, h.owned, ?_⟩
      intro m hm
      rw [request_relayed] at hm
      rcases List.mem_append.mp hm with hold | hnew
      · exact h.relayed m hold
      · obtain ⟨s, hs, rfl⟩ := List.mem_map.mp hnew
        obtain ⟨hmem, hs⟩ := List.mem_filter.mp hs
        rw [Bool.and_eq_true, decide_eq_true_eq] at hs
        obtain ⟨data, hpublished, hgenuine⟩ := h.logged party session object he
        rw [h.owned s hmem]
        exact ⟨party, session, data, object, hpublished, hgenuine, rfl, Ne.symm hs.2, hs.1⟩
  | _ => exact ⟨h.interoperable, h.logged, h.owned, h.relayed⟩

include hkeys hreq hidem hround hvar in
/-- An object that reaches a party. -/
theorem Carries.deliver {cipherSuite : Option Suite} {w₀ : Conference Party Suite Ctx Namespace}
    {ops : List (ConferenceOp Party Namespace)} {w : Conference Party Suite Ctx Namespace}
    (h : Carries env L contains cipherSuite w₀ ops w)
    {m : ClientSubscription Party Namespace × PublishDatagram} (hm : m ∈ w.relayed) :
    Carries env L contains cipherSuite w₀ ops (w.deliver L m.1.1.1 m.1.2 m.2).2 := by
  obtain ⟨party, session, data, object, -, hgenuine, hdatagram, -⟩ := h.relayed m hm
  have hreceived : (⟨m.2.name, m.2.mediaData⟩ : Received) =
      (asPublished object.quicrName object.data data).received := by
    rw [hdatagram]
    rfl
  refine ⟨?_, ?_, h.owned, h.relayed⟩
  · intro party'
    by_cases hparty : party' = m.1.1.1
    · subst hparty
      rw [deliver_self, hreceived]
      exact (h.interoperable _).onSubscribedObject L hkeys hreq hidem hround hvar m.1.2 hgenuine
    · rw [deliver_other L _ hparty]
      exact h.interoperable party'
  · intro party' session' object' he
    refine h.logged party' session' object' ?_
    by_cases hparty : party' = m.1.1.1
    · subst hparty
      rw [deliver_self] at he
      rcases onSubscribedObject_cases L (w.controllers m.1.1.1) m.1.2
        ⟨m.2.name, m.2.mediaData⟩ with ⟨-, heq⟩ | ⟨delegate, -, heq⟩
      · rw [heq] at he
        exact he
      · rw [heq] at he
        exact he
    · rwa [deliver_other L _ hparty] at he

/-- A step that changes nothing. -/
theorem Carries.append {cipherSuite : Option Suite} {w₀ : Conference Party Suite Ctx Namespace}
    {ops : List (ConferenceOp Party Namespace)} {w : Conference Party Suite Ctx Namespace}
    (h : Carries env L contains cipherSuite w₀ ops w) (op : ConferenceOp Party Namespace) :
    Carries env L contains cipherSuite w₀ (ops ++ [op]) w := by
  refine ⟨h.interoperable, ?_, h.owned, ?_⟩
  · intro party session object he
    obtain ⟨data, hpublished, hgenuine⟩ := h.logged party session object he
    exact ⟨data, hpublished.append env L contains op, hgenuine⟩
  · intro m hm
    obtain ⟨party, session, data, object, hpublished, hrest⟩ := h.relayed m hm
    exact ⟨party, session, data, object, hpublished.append env L contains op, hrest⟩

include hkeys hreq hidem hround hvar in
/-- **Every run carries.** -/
theorem carries_run {cipherSuite : Option Suite} {w₀ : Conference Party Suite Ctx Namespace}
    (hw₀ : w₀.Starts cipherSuite) (ops : List (ConferenceOp Party Namespace)) :
    Carries env L contains cipherSuite w₀ ops (conferenceAfter env L contains w₀ ops) := by
  induction ops using List.reverseRecOn with
  | nil =>
      refine ⟨?_, ?_, ?_, ?_⟩
      · intro party
        obtain ⟨_, _, _, _, hcreate⟩ := hw₀.controllers party
        exact create_interoperable L hcreate
      · intro party session object he
        obtain ⟨_, _, _, _, hcreate⟩ := hw₀.controllers party
        change _ ∈ (w₀.controllers party).log at he
        rw [create_ok hcreate] at he
        cases he
      · intro s hs
        change s ∈ pairs w₀.relay.subscriptions at hs
        rw [hw₀.relay] at hs
        cases hs
      · intro m hm
        change m ∈ w₀.relayed at hm
        rw [hw₀.relayed] at hm
        cases hm
  | append_singleton ops op ih =>
      rw [conferenceAfter_append]
      cases op with
      | call party op => exact ih.call env L contains hkeys hidem party op
      | request party index =>
          rcases request_cases env L contains (conferenceAfter env L contains w₀ ops) party index with
            heq | ⟨e, he, -, heq⟩
          · rw [heq]
            exact ih.append env L contains _
          · rw [heq]
            exact (ih.request env L contains party he).append env L contains _
      | deliver index =>
          cases hindex : (conferenceAfter env L contains w₀ ops).relayed[index]? with
          | none =>
              rw [deliver_none env L contains hindex]
              exact ih.append env L contains _
          | some m =>
              rw [deliver_some env L contains hindex]
              exact (ih.deliver env L contains hkeys hreq hidem hround hvar
                (List.mem_of_getElem? hindex)).append env L contains _

include hkeys hreq hidem hround hvar in
/-- A genuine object that arrives for a registered namespace is handed to the application. -/
theorem deliver_genuine {cipherSuite : Option Suite} {w : Conference Party Suite Ctx Namespace}
    {party : Party} (hparty : Interoperable L cipherSuite (w.controllers party)) {index : ℕ}
    {session : Session} {ns : Namespace} {object : Datagram} {data : Bytes}
    (hgenuine : Genuine L cipherSuite (asPublished object.quicrName object.data data))
    (hindex : w.relayed[index]? =
      some (((party, session), ns), ⟨object.quicrName, object.data⟩))
    (hregistered : ns ∈ (w.controllers party).quicrSubscriptionsMap) :
    (conferenceStep env L contains w (.deliver index)).1 =
      .handed party (some ⟨ns, data, bits 32 object.quicrName 16 32,
        bits 16 object.quicrName 0 16⟩) := by
  obtain ⟨delegate, hl⟩ := Option.isSome_iff_exists.mp (AList.lookup_isSome.mpr hregistered)
  obtain ⟨hout, -⟩ := receiveStep_ready L hkeys hreq hidem hround hvar
    (hparty.subscriptions ns delegate hl) hgenuine
  rw [deliver_some env L contains hindex]
  show ConferenceReply.handed party ((w.controllers party).onSubscribedObject L ns
    ⟨object.quicrName, object.data⟩).1 = _
  rcases onSubscribedObject_cases L (w.controllers party) ns ⟨object.quicrName, object.data⟩ with
    ⟨hnone, -⟩ | ⟨delegate', hl', heq⟩
  · rw [hl] at hnone
    cases hnone
  · rw [hl] at hl'
    obtain rfl := Option.some.inj hl'
    rw [heq]
    exact congrArg (ConferenceReply.handed party) hout

include hkeys hreq hidem hround hvar in
/-- **End-to-end integrity.** In every run of a conference whose parties share the cipher suite,
an object that arrives for a namespace registered with its party is handed to the application:
it is the object of an earlier call of another connection, with the data of that call and the
ids of its name, which lies in the namespace.
SOURCE: src/QController.cpp:125-148, src/QuicrDelegates.cpp:114-213, test/relay.cpp:38-100 -/
theorem delivered_handed {cipherSuite : Option Suite}
    {w₀ : Conference Party Suite Ctx Namespace} (hw₀ : w₀.Starts cipherSuite)
    (ops : List (ConferenceOp Party Namespace)) {index : ℕ} {party : Party} {session : Session}
    {ns : Namespace} {datagram : PublishDatagram}
    (hindex : (conferenceAfter env L contains w₀ ops).relayed[index]? =
      some (((party, session), ns), datagram))
    (hregistered : ns ∈
      ((conferenceAfter env L contains w₀ ops).controllers party).quicrSubscriptionsMap) :
    ∃ party' session' data object,
      PublishedIn env L contains w₀ ops party' session' data object ∧
      (party', session') ≠ (party, session) ∧ contains ns object.quicrName = true ∧
      (conferenceStep env L contains (conferenceAfter env L contains w₀ ops)
        (.deliver index)).1 = .handed party (some ⟨ns, data, bits 32 object.quicrName 16 32,
          bits 16 object.quicrName 0 16⟩) := by
  have hcarries := carries_run env L contains hkeys hreq hidem hround hvar hw₀ ops
  obtain ⟨party', session', data, object, hpublished, hgenuine, hdatagram, hne, hcontains⟩ :=
    hcarries.relayed _ (List.mem_of_getElem? hindex)
  refine ⟨party', session', data, object, hpublished, hne, hcontains, ?_⟩
  have hdatagram' : datagram = ⟨object.quicrName, object.data⟩ := hdatagram
  subst hdatagram'
  exact deliver_genuine env L contains hkeys hreq hidem hround hvar (hcarries.interoperable party)
    hgenuine hindex hregistered

end Invariant

/-! ## A camera between two parties -/

/-- The parties of the runs below. -/
inductive Side where
  | publisher
  | subscriber
deriving DecidableEq, Repr

/-- Two parties with new controllers. -/
def twoParties (cipherSuite : Option CipherSuite) :
    Conference Side CipherSuite KeyRing Prefix :=
  ⟨fun _ => newController cipherSuite, Relay.create, false, fun _ => [], []⟩

/-- They start a conference. -/
theorem twoParties_starts (cipherSuite : Option CipherSuite) :
    (twoParties cipherSuite).Starts cipherSuite where
  controllers _ := ⟨some 1, some 1, false, false, rfl⟩
  relay := rfl
  down := rfl
  seen _ := rfl
  relayed := rfl

/-- One party publishes a camera and the other subscribes to it; the subscription reaches the
relay, and so does the first object. -/
def cameraSession : List (ConferenceOp Side Prefix) :=
  [.call .publisher (.connect localRelay), .call .publisher (.updateManifest cameraManifest),
    .call .subscriber (.connect localRelay),
    .call .subscriber (.updateManifest (subscribeCamera "80a6ac22")), .request .subscriber 4,
    .call .publisher (.publishNamedObject mediaNamespace [0x2a] true 0), .request .publisher 4]

/-- The object on its way: the epoch, the tag and the data. -/
def cameraObject : PublishDatagram :=
  ⟨objectName mediaNamespace.name 1700000001 0, 1 :: List.replicate 16 0x57 ++ [0x2a]⟩

/-- The camera's first object arrives. -/
theorem delivered_handed_camera :
    ∃ party' session' data object,
      PublishedIn (fun _ => takesAll true) referenceLibs Prefix.contains
        (twoParties (some .aesGcm128Sha256)) cameraSession party' session' data object ∧
      (party', session') ≠ (.subscriber, 0) ∧ Prefix.contains mediaNamespace object.quicrName = true ∧
      (conferenceStep (fun _ => takesAll true) referenceLibs Prefix.contains
        (conferenceAfter (fun _ => takesAll true) referenceLibs Prefix.contains
          (twoParties (some .aesGcm128Sha256)) cameraSession) (.deliver 0)).1 =
        .handed .subscriber (some ⟨mediaNamespace, data, bits 32 object.quicrName 16 32,
          bits 16 object.quicrName 0 16⟩) := by
  have hindex : (conferenceAfter (fun _ => takesAll true) referenceLibs Prefix.contains
      (twoParties (some .aesGcm128Sha256)) cameraSession).relayed[0]? =
      some (((.subscriber, 0), mediaNamespace), cameraObject) := by
    decide +kernel
  exact delivered_handed (fun _ => takesAll true) referenceLibs Prefix.contains
    referenceLibs_keyLaws referenceLibs_keyRequired referenceLibs_addKeyIdem
    referenceLibs_roundTrip referenceLibs_varIntLaws (twoParties_starts _) cameraSession hindex
    (by decide +kernel)

end Qmedia.Analysis
