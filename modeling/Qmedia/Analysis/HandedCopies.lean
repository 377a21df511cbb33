import Qmedia.Analysis.ConferenceDelivery
import Qmedia.Library.Tallies

/-!
# How often an application is handed an object

Let the network between the clients and the relay lose, delay and reorder what it carries, but
repeat nothing (`NoRepeats`). Then copies come from the relay alone, which sends an object once
for each time that a connection has subscribed without giving up (`Holds`): if a session never
has more than `k` such subscriptions to a namespace at the relay, its application is handed
what a call published at most `k` times (`handed_at_most`). The calls, the calls that reach the
relay, the objects it sends and those that arrive are compared one after the other, each as
often as it occurs in the run.
-/

set_option autoImplicit false

namespace Qmedia.Analysis

open Qmedia.Library Qmedia.Model Qmedia.Model.QController

variable {Party Suite Ctx Namespace : Type} [DecidableEq Party] [DecidableEq Namespace]
variable (env : Party → Environment Namespace) (L : Libs Suite Ctx Namespace)
  (contains : Namespace → Name → Bool)

/-! ## What is observed -/

/-- An object that a call handed to a session, and the data of the call. -/
structure PublishedObject (Party : Type) where
  connId : ClientConn Party
  data : Bytes
  object : Datagram
deriving DecidableEq, Repr

omit [DecidableEq Party] [DecidableEq Namespace] in
/-- An object as the application is to be handed it. -/
def PublishedObject.forwarded (ns : Namespace) (x : PublishedObject Party) : Forwarded Namespace :=
  ⟨ns, x.data, bits 32 x.object.quicrName 16 32, bits 16 x.object.quicrName 0 16⟩

omit [DecidableEq Namespace] in
/-- Whether an object concerns a subscription: it comes from another connection, and the
namespace contains its name. -/
def PublishedObject.concerns (sub : ClientSubscription Party Namespace) (x : PublishedObject Party) :
    Bool :=
  decide (x.connId ≠ sub.1) && contains sub.2 x.object.quicrName

/-- What a step publishes. -/
def publishedAt (w : Conference Party Suite Ctx Namespace) :
    ConferenceOp Party Namespace → Option (PublishedObject Party)
  | .call party (.publishNamedObject ns data groupFlag startTime) =>
      match (w.controllers party).clientSession,
          sentObject ((w.controllers party).publishNamedObject L ns data groupFlag startTime).1 with
      | some session, some object => some ⟨(party, session), data, object⟩
      | _, _ => none
  | _ => none

/-- The call that a step brings to the relay, and its party. -/
def reachedAt (w : Conference Party Suite Ctx Namespace) :
    ConferenceOp Party Namespace → Option (Party × Event Namespace)
  | .request party index =>
      if w.down then none
      else ((w.controllers party).log.reverse[index]?).map (party, ·)
  | _ => none

/-- What a step hands over for a subscription. -/
def handedAt (sub : ClientSubscription Party Namespace) (w : Conference Party Suite Ctx Namespace)
    (op : ConferenceOp Party Namespace) : Option (Forwarded Namespace) :=
  match op with
  | .deliver index =>
      match w.relayed[index]?, (conferenceStep env L contains w (.deliver index)).1 with
      | some (sub', _), .handed _ forwarded => if sub' = sub then forwarded else none
      | _, _ => none
  | _ => none

/-- The call of `party` that a step asks to bring to the relay. -/
def requestIndex (party : Party) : ConferenceOp Party Namespace → Option ℕ
  | .request party' index => if party' = party then some index else none
  | _ => none

/-- The object that a step asks to bring to its subscriber. -/
def deliverIndex : ConferenceOp Party Namespace → Option ℕ
  | .deliver index => some index
  | _ => none

/-- The network repeats neither a call nor an object. -/
structure NoRepeats (ops : List (ConferenceOp Party Namespace)) : Prop where
  requests : ∀ party, (ops.filterMap (requestIndex party)).Nodup
  deliveries : (ops.filterMap deliverIndex).Nodup

/-! ## What only grows -/

/-- A step adds to a party's calls at most the object that it publishes, and calls of other kinds.
-/
theorem conferenceStep_log (w : Conference Party Suite Ctx Namespace)
    (op : ConferenceOp Party Namespace) (party : Party) :
    ∃ es, ((conferenceStep env L contains w op).2.controllers party).log =
        es ++ (w.controllers party).log ∧
      ((∀ e ∈ es, isObject e = false) ∨ ∃ x, publishedAt L w op = some x ∧ x.connId.1 = party ∧
        es = [.publishNamedObject x.connId.2 x.object]) := by
  rcases conferenceStep_controllers env L contains w op party with ⟨call, rfl, heq⟩ | honly
  · rw [heq]
    rcases controllerStep_objects (env party) L (w.controllers party) call with
      ⟨es, hes, hlog⟩ | ⟨ns, data, groupFlag, startTime, session, object, rfl, hsession, hsent, hlog⟩
    · exact ⟨es, hlog, Or.inl hes⟩
    · refine ⟨[.publishNamedObject session object], hlog, Or.inr
        ⟨⟨(party, session), data, object⟩, ?_, rfl, rfl⟩⟩
      unfold publishedAt
      simp only [hsession, hsent]
  · exact ⟨[], honly.log_eq, Or.inl nofun⟩

/-- A request brings nothing to the relay, or one call of the party. -/
theorem reachedAt_cases (w : Conference Party Suite Ctx Namespace) (party : Party) (index : ℕ) :
    (reachedAt w (.request party index) = none ∧
      conferenceStep env L contains w (.request party index) = (.nothing, w)) ∨
    ∃ e, reachedAt w (.request party index) = some (party, e) ∧
      conferenceStep env L contains w (.request party index) = w.request contains party e := by
  unfold reachedAt conferenceStep
  cases w.down with
  | true =>
      left
      simp only [if_true, and_self]
  | false =>
      cases hindex : (w.controllers party).log.reverse[index]? with
      | none =>
          left
          simp only [Bool.false_eq_true, if_false, hindex, Option.map_none, and_self]
      | some e =>
          refine Or.inr ⟨e, ?_⟩
          simp only [Bool.false_eq_true, if_false, hindex, Option.map_some, and_self]

omit [DecidableEq Namespace] in
/-- What reaches the relay is the call that the step asks for. -/
theorem requested_of_reachedAt {w : Conference Party Suite Ctx Namespace}
    {op : ConferenceOp Party Namespace} {party : Party} {e : Event Namespace}
    (h : reachedAt w op = some (party, e)) :
    (requestIndex party op).bind ((w.controllers party).log.reverse[·]?) = some e := by
  cases op with
  | request party' index =>
      change (if w.down then none else ((w.controllers party').log.reverse[index]?).map (party', ·)) =
        some (party, e) at h
      cases hdown : w.down with
      | true =>
          rw [hdown] at h
          cases h
      | false =>
          rw [hdown, if_neg Bool.false_ne_true] at h
          obtain ⟨e', he', heq⟩ := Option.map_eq_some_iff.mp h
          obtain ⟨rfl, rfl⟩ := Prod.mk.inj heq
          rw [requestIndex, if_pos rfl]
          exact he'
  | call party' op => cases h
  | deliver index => cases h

/-! ## From the calls to the relay -/

section Runs

variable {cipherSuite : Option Suite} {w₀ : Conference Party Suite Ctx Namespace}
  (hw₀ : w₀.Starts cipherSuite) (ops : List (ConferenceOp Party Namespace))
include hw₀

omit [DecidableEq Party] [DecidableEq Namespace] in
/-- No party has called anything yet. -/
theorem starts_log (party : Party) : (w₀.controllers party).log = [] := by
  obtain ⟨_, _, _, _, hcreate⟩ := hw₀.controllers party
  rw [create_ok hcreate]

/-- What a session was handed was published on it, as often. -/
theorem logged_le_published (party : Party) (session : Session) (object : Datagram) :
    ((conferenceAfter env L contains w₀ ops).controllers party).log.count
        (.publishNamedObject session object) ≤
      (tally (publishedAt L) (conferenceStep env L contains) w₀ ops).countP fun x =>
        decide (x.connId = (party, session) ∧ x.object = object) := by
  have hcharged := measure_le_tally (conferenceStep env L contains) (publishedAt L)
    (fun x => decide (x.connId = (party, session) ∧ x.object = object))
    (fun w => (w.controllers party).log.count (.publishNamedObject session object)) 1 w₀ ops
    (by rw [starts_log hw₀ party, List.count_nil]) (fun pre op post _ => ?_)
  · rwa [Nat.one_mul] at hcharged
  · obtain ⟨es, hlog, hes⟩ := conferenceStep_log env L contains
      (finalState (conferenceStep env L contains) w₀ pre) op party
    rw [hlog, List.count_append, Nat.one_mul, Nat.add_comm]
    refine Nat.add_le_add_left ?_ _
    rcases hes with hes | ⟨x, hx, hparty, rfl⟩
    · rw [List.count_eq_zero.mpr fun he => Bool.noConfusion (hes _ he)]
      exact Nat.zero_le _
    · rw [hx, Option.toList_some, List.countP_singleton, List.count_singleton]
      by_cases heq : x.connId = (party, session) ∧ x.object = object
      · rw [if_pos (decide_eq_true heq)]
        split
        · exact Nat.le_refl 1
        · exact Nat.zero_le 1
      · rw [if_neg]
        · exact Nat.zero_le _
        · intro h
          have hevent := eq_of_beq h
          rw [Event.publishNamedObject.injEq] at hevent
          exact heq ⟨Prod.ext hparty hevent.1, hevent.2⟩

/-- An object reaches the relay at most as often as it was published. -/
theorem reached_subperm (hrepeats : NoRepeats ops) :
    ((tally reachedAt (conferenceStep env L contains) w₀ ops).filter fun x => isObject x.2).Subperm
      ((tally (publishedAt L) (conferenceStep env L contains) w₀ ops).map fun x =>
        (x.connId.1, .publishNamedObject x.connId.2 x.object)) := by
  rw [List.subperm_ext_iff]
  rintro ⟨party, e⟩ hmem
  have hobject := (List.mem_filter.mp hmem).2
  cases e with
  | publishNamedObject session object =>
      have hpicked := tally_picked (conferenceStep env L contains)
        (fun w => (w.controllers party).log.reverse) (requestIndex party)
        (fun w op => log_grows env L contains w op party) w₀ ops (hrepeats.requests party)
      have hreached := countP_tally_le (conferenceStep env L contains) reachedAt
        (fun w op => (requestIndex party op).bind ((w.controllers party).log.reverse[·]?))
        (· == (party, .publishNamedObject session object))
        (· == .publishNamedObject session object) w₀ ops
        (fun pre op post _ x hx heq => ?_)
      · calc ((tally reachedAt (conferenceStep env L contains) w₀ ops).filter fun x =>
              isObject x.2).count (party, .publishNamedObject session object)
            ≤ (tally reachedAt (conferenceStep env L contains) w₀ ops).count
                (party, .publishNamedObject session object) := List.filter_sublist.count_le _
          _ ≤ (tally (fun w op => (requestIndex party op).bind
                ((w.controllers party).log.reverse[·]?)) (conferenceStep env L contains) w₀
                ops).count (.publishNamedObject session object) := hreached
          _ ≤ ((conferenceAfter env L contains w₀ ops).controllers party).log.reverse.count
                (.publishNamedObject session object) := hpicked.count_le _
          _ = ((conferenceAfter env L contains w₀ ops).controllers party).log.count
                (.publishNamedObject session object) := List.count_reverse
          _ ≤ _ := logged_le_published env L contains hw₀ ops party session object
          _ = _ := by
                rw [List.count, List.countP_map]
                refine List.countP_congr fun x _ => ?_
                simp [Prod.ext_iff, and_assoc]
      · obtain rfl := eq_of_beq heq
        exact ⟨_, requested_of_reachedAt hx, beq_self_eq_true _⟩
  | _ => cases hobject

end Runs

/-! ## What the relay sends -/

/-- Whether a call that reaches the relay makes it send an object that satisfies `p` for the
subscription. -/
def reaches (sub : ClientSubscription Party Namespace) (p : PublishDatagram → Bool)
    (x : Party × Event Namespace) : Bool :=
  match x.2 with
  | .publishNamedObject session object =>
      decide ((x.1, session) ≠ sub.1) && contains sub.2 object.quicrName &&
        p ⟨object.quicrName, object.data⟩
  | _ => false

/-- The copies that the relay sends for an object. -/
theorem request_copies_le {w : Conference Party Suite Ctx Namespace}
    (howned : ∀ s ∈ pairs w.relay.subscriptions, s.2.subscriberId = (s.2.connId, s.1))
    (sub : ClientSubscription Party Namespace) (p : PublishDatagram → Bool) {k : ℕ}
    (hk : (pairs w.relay.subscriptions).count (sub.2, ⟨sub, sub.1⟩) ≤ k) (party : Party)
    (e : Event Namespace) :
    (w.request contains party e).2.relayed.countP (fun m => decide (m.1 = sub) && p m.2) ≤
      w.relayed.countP (fun m => decide (m.1 = sub) && p m.2) +
        k * [(party, e)].countP (reaches contains sub p) := by
  cases he : isObject e with
  | false =>
      rw [request_relayed_other contains w party he]
      exact Nat.le_add_right _ _
  | true =>
      cases e with
      | publishNamedObject session object =>
          rw [request_relayed, List.countP_append, List.countP_map]
          refine Nat.add_le_add_left ?_ _
          -- every subscriber whose id is `sub` is the one entry that `hk` counts
          have hentry : ∀ s ∈ pairs w.relay.subscriptions, s.2.subscriberId = sub →
              s = (sub.2, ⟨sub, sub.1⟩) := by
            rintro ⟨ns, subscriberId, connId⟩ hs hsub
            have hown := howned _ hs
            simp only at hsub hown
            subst hsub
            rw [hown]
          cases hreaches : reaches contains sub p (party, .publishNamedObject session object) with
          | true =>
              rw [List.countP_singleton, if_pos hreaches, Nat.mul_one, List.countP_filter]
              refine le_trans (List.countP_mono_left fun s hs h => ?_) hk
              simp only [Function.comp_apply, Bool.and_eq_true, decide_eq_true_eq] at h
              exact beq_iff_eq.mpr (hentry s hs h.1.1)
          | false =>
              rw [List.countP_eq_zero.mpr fun s hs h => ?_]
              · exact Nat.zero_le _
              · obtain ⟨hmem, hfilter⟩ := List.mem_filter.mp hs
                simp only [Function.comp_apply, Bool.and_eq_true, decide_eq_true_eq] at h hfilter
                obtain rfl := hentry s hmem h.1
                have hyes : reaches contains sub p (party, .publishNamedObject session object) =
                    true := by
                  simp only [reaches, Bool.and_eq_true, decide_eq_true_eq]
                  exact ⟨⟨Ne.symm hfilter.2, hfilter.1⟩, h.2⟩
                rw [hreaches] at hyes
                cases hyes
      | _ => cases he

/-! ## What the application is handed -/

omit [DecidableEq Party] in
/-- What a step publishes, some call hands to the session. -/
theorem publishedAt_eq_some {w : Conference Party Suite Ctx Namespace}
    {op : ConferenceOp Party Namespace} {x : PublishedObject Party}
    (h : publishedAt L w op = some x) :
    ∃ ns groupFlag startTime, sentObject ((w.controllers x.connId.1).publishNamedObject L ns x.data
      groupFlag startTime).1 = some x.object := by
  cases op with
  | call party call =>
      cases call with
      | publishNamedObject ns data groupFlag startTime =>
          simp only [publishedAt] at h
          split at h
          · rename_i session object hsession hsent
            cases h
            exact ⟨ns, groupFlag, startTime, hsent⟩
          · cases h
      | _ => cases h
  | request party index => cases h
  | deliver index => cases h

/-- What a new delegate for a namespace hands over of an object. -/
def newlyReceived (cipherSuite : Option Suite) (ns : Namespace) (datagram : PublishDatagram) :
    Option (Forwarded Namespace) :=
  (receiveStep L (SubscriptionDelegate.create L.toSFrame "" ns .syncUp "" "" [] 0 cipherSuite
    ⟨0, 0, 0, 0⟩) ⟨datagram.name, datagram.mediaData⟩).1

section Handing

variable (hkeys : L.KeyLaws) (hreq : L.KeyRequired) (hidem : L.AddKeyIdem)
  (hround : L.RoundTrip) (hvar : L.VarIntLaws)
variable {cipherSuite : Option Suite} {w₀ : Conference Party Suite Ctx Namespace}
  (hw₀ : w₀.Starts cipherSuite) (ops : List (ConferenceOp Party Namespace))
include hkeys hreq hidem hround hvar hw₀

/-- The relay sends a subscription at most `k` copies of each object that reaches it. -/
theorem relayed_le_reached (sub : ClientSubscription Party Namespace)
    (p : PublishDatagram → Bool) {k : ℕ}
    (hk : ∀ pre, pre <+: ops → timesSubscribed sub.1.2 sub.2
      ((conferenceAfter env L contains w₀ pre).seen sub.1.1) ≤ k) :
    (conferenceAfter env L contains w₀ ops).relayed.countP (fun m => decide (m.1 = sub) && p m.2) ≤
      k * (tally reachedAt (conferenceStep env L contains) w₀ ops).countP
        (reaches contains sub p) := by
  refine measure_le_tally (conferenceStep env L contains) reachedAt (reaches contains sub p)
    (fun w => w.relayed.countP fun m => decide (m.1 = sub) && p m.2) k w₀ ops
    (by rw [hw₀.relayed, List.countP_nil]) fun pre op post hops => ?_
  have hcarries := carries_run env L contains hkeys hreq hidem hround hvar hw₀ pre
  have hheld : (pairs (conferenceAfter env L contains w₀ pre).relay.subscriptions).count
      (sub.2, ⟨sub, sub.1⟩) ≤ k := by
    rw [holds_run env L contains hw₀ pre sub.1.1 sub.1.2 sub.2]
    exact hk pre (hops ▸ List.prefix_append _ _)
  change _ ≤ (conferenceAfter env L contains w₀ pre).relayed.countP _ +
    k * (reachedAt (conferenceAfter env L contains w₀ pre) op).toList.countP _
  cases op with
  | call party op => exact Nat.le_add_right _ _
  | request party index =>
      rcases reachedAt_cases env L contains (conferenceAfter env L contains w₀ pre) party index with
        ⟨hnone, heq⟩ | ⟨e, hsome, heq⟩
      · exact (congrArg (fun r => List.countP _ r.2.relayed) heq).trans_le (Nat.le_add_right _ _)
      · rw [hsome]
        exact (congrArg (fun r => List.countP _ r.2.relayed) heq).trans_le
          (request_copies_le contains hcarries.owned sub p hheld party e)
  | deliver index =>
      refine (congrArg (List.countP _) ?_).trans_le (Nat.le_add_right _ _)
      change (conferenceStep env L contains (conferenceAfter env L contains w₀ pre)
        (.deliver index)).2.relayed = _
      cases hindex : (conferenceAfter env L contains w₀ pre).relayed[index]? with
      | none => rw [deliver_none env L contains hindex]
      | some m =>
          rw [deliver_some env L contains hindex]
          rfl

omit hw₀ in
/-- A new delegate opens what is genuine. -/
theorem newlyReceived_genuine (ns : Namespace) {object : Datagram} {data : Bytes}
    (hgenuine : Genuine L cipherSuite (asPublished object.quicrName object.data data)) :
    newlyReceived L cipherSuite ns ⟨object.quicrName, object.data⟩ =
      some ⟨ns, data, bits 32 object.quicrName 16 32, bits 16 object.quicrName 0 16⟩ :=
  (receiveStep_ready L hkeys hreq hidem hround hvar
    (create_receiverReady L cipherSuite ns "" .syncUp "" "" [] 0 ⟨0, 0, 0, 0⟩) hgenuine).1

/-- What is handed over is what a new delegate makes of the object that arrives. -/
theorem handedAt_eq_some {sub : ClientSubscription Party Namespace}
    {op : ConferenceOp Party Namespace} {f : Forwarded Namespace}
    (h : handedAt env L contains sub (conferenceAfter env L contains w₀ ops) op = some f) :
    ∃ m, (deliverIndex op).bind ((conferenceAfter env L contains w₀ ops).relayed[·]?) = some m ∧
      m.1 = sub ∧ newlyReceived L cipherSuite sub.2 m.2 = some f := by
  have hcarries := carries_run env L contains hkeys hreq hidem hround hvar hw₀ ops
  cases op with
  | call party op => cases h
  | request party index => cases h
  | deliver index =>
      unfold handedAt at h
      cases hindex : (conferenceAfter env L contains w₀ ops).relayed[index]? with
      | none => simp [hindex] at h
      | some m =>
          obtain ⟨party', session', data, object, -, hgenuine, hdatagram, -⟩ :=
            hcarries.relayed m (List.mem_of_getElem? hindex)
          obtain ⟨sub', datagram⟩ := m
          simp only [hindex, congrArg Prod.fst (deliver_some env L contains hindex)] at h
          change (if sub' = sub then (((conferenceAfter env L contains w₀ ops).controllers
            sub'.1.1).onSubscribedObject L sub'.2 ⟨datagram.name, datagram.mediaData⟩).1 else none) =
            some f at h
          by_cases hsub : sub' = sub
          · subst hsub
            rw [if_pos rfl] at h
            refine ⟨_, hindex, rfl, ?_⟩
            rcases onSubscribedObject_cases L ((conferenceAfter env L contains w₀ ops).controllers
              sub'.1.1) sub'.2 ⟨datagram.name, datagram.mediaData⟩ with
              ⟨-, heq⟩ | ⟨delegate, hl, heq⟩
            · rw [heq] at h
              cases h
            · rw [heq] at h
              simp only at hdatagram
              subst hdatagram
              rw [newlyReceived_genuine L hkeys hreq hidem hround hvar sub'.2 hgenuine, ← h]
              exact (receiveStep_ready L hkeys hreq hidem hround hvar
                ((hcarries.interoperable sub'.1.1).subscriptions sub'.2 delegate hl)
                hgenuine).1.symm
          · rw [if_neg hsub] at h
            cases h

/-- What a call of the run published is genuine. -/
theorem genuine_of_mem_published {x : PublishedObject Party}
    (hx : x ∈ tally (publishedAt L) (conferenceStep env L contains) w₀ ops) :
    Genuine L cipherSuite (asPublished x.object.quicrName x.object.data x.data) := by
  obtain ⟨pre, op, post, -, hnote⟩ := exists_of_mem_tally _ _ hx
  obtain ⟨ns, groupFlag, startTime, hsent⟩ := publishedAt_eq_some L hnote
  have hcarries := carries_run env L contains hkeys hreq hidem hround hvar hw₀ pre
  exact (hcarries.interoperable x.connId.1).genuine L hkeys hidem hsent

/-- An object that opens as `f` reaches the relay at most as often as it was published. -/
theorem reached_le_published (hrepeats : NoRepeats ops)
    (sub : ClientSubscription Party Namespace) (f : Forwarded Namespace) :
    (tally reachedAt (conferenceStep env L contains) w₀ ops).countP
        (reaches contains sub fun datagram =>
          decide (newlyReceived L cipherSuite sub.2 datagram = some f)) ≤
      (((tally (publishedAt L) (conferenceStep env L contains) w₀ ops).filter
        (PublishedObject.concerns contains sub)).map (PublishedObject.forwarded sub.2)).count f := by
  have hobjects := (reached_subperm env L contains hw₀ ops hrepeats).countP_le
    (reaches contains sub fun datagram =>
      decide (newlyReceived L cipherSuite sub.2 datagram = some f))
  rw [List.countP_filter, List.countP_map] at hobjects
  rw [List.count, List.countP_map, List.countP_filter]
  refine Nat.le_trans (Nat.le_of_eq ?_) (hobjects.trans (Nat.le_of_eq ?_))
  · refine List.countP_congr fun x _ => ?_
    obtain ⟨party, e⟩ := x
    cases e with
    | publishNamedObject session object => simp [isObject]
    | _ => simp [reaches]
  · refine List.countP_congr fun x hx => ?_
    have hopened := newlyReceived_genuine L hkeys hreq hidem hround hvar sub.2
      (genuine_of_mem_published env L contains hkeys hreq hidem hround hvar hw₀ ops hx)
    simp only [Function.comp_apply, reaches, hopened, PublishedObject.concerns, Bool.and_eq_true,
      decide_eq_true_eq, Option.some.injEq, beq_iff_eq]
    exact and_comm

/-- **At most as often as subscribed.** In every run of a conference whose network repeats
nothing, and in which a session never has more than `k` subscriptions to a namespace at the
relay, its application is handed an object at most `k` times for each call of another
connection that published it.
SOURCE: src/QController.cpp:125-148, src/QuicrDelegates.cpp:114-213, test/relay.cpp:38-100 -/
theorem handed_at_most (hrepeats : NoRepeats ops) (sub : ClientSubscription Party Namespace)
    {k : ℕ}
    (hk : ∀ pre, pre <+: ops → timesSubscribed sub.1.2 sub.2
      ((conferenceAfter env L contains w₀ pre).seen sub.1.1) ≤ k) (f : Forwarded Namespace) :
    (tally (handedAt env L contains sub) (conferenceStep env L contains) w₀ ops).count f ≤
      k * (((tally (publishedAt L) (conferenceStep env L contains) w₀ ops).filter
        (PublishedObject.concerns contains sub)).map (PublishedObject.forwarded sub.2)).count f := by
  have hhanded := countP_tally_le (conferenceStep env L contains) (handedAt env L contains sub)
    (fun w op => (deliverIndex op).bind (w.relayed[·]?)) (· == f)
    (fun m => decide (m.1 = sub) && decide (newlyReceived L cipherSuite sub.2 m.2 = some f)) w₀ ops
    (fun pre op post _ g hg heq => ?_)
  · have hdelivered := (tally_picked (conferenceStep env L contains) (fun w => w.relayed)
      deliverIndex (relayed_grows env L contains) w₀ ops hrepeats.deliveries).countP_le
      (fun m => decide (m.1 = sub) && decide (newlyReceived L cipherSuite sub.2 m.2 = some f))
    have hrelayed := relayed_le_reached env L contains hkeys hreq hidem hround hvar hw₀ ops sub
      (fun datagram => decide (newlyReceived L cipherSuite sub.2 datagram = some f)) hk
    have hreached := reached_le_published env L contains hkeys hreq hidem hround hvar hw₀ ops
      hrepeats sub f
    exact (hhanded.trans hdelivered).trans (hrelayed.trans (Nat.mul_le_mul_left k hreached))
  · obtain rfl := eq_of_beq heq
    obtain ⟨m, hm, hsub, hopened⟩ := handedAt_eq_some env L contains hkeys hreq hidem hround hvar
      hw₀ pre hg
    exact ⟨m, hm, by simp [hsub, hopened]⟩

end Handing

/-- The subscriber of `cameraSession` asks for the camera a second time, and both copies of the
object arrive. -/
def insistingSession : List (ConferenceOp Side Prefix) :=
  [.call .publisher (.connect localRelay), .call .publisher (.updateManifest cameraManifest),
    .call .subscriber (.connect localRelay),
    .call .subscriber (.updateManifest (subscribeCamera "80a6ac22")),
    .call .subscriber (.setSubscriptionState mediaNamespace .unreliable),
    .request .subscriber 5, .request .subscriber 4,
    .call .publisher (.publishNamedObject mediaNamespace [0x2a] true 0), .request .publisher 4,
    .deliver 1, .deliver 0]

/-- The subscriber's session never has more than two subscriptions. -/
theorem handed_at_most_twice :
    (tally (handedAt (fun _ => takesAll true) referenceLibs Prefix.contains
        ((.subscriber, 0), mediaNamespace))
      (conferenceStep (fun _ => takesAll true) referenceLibs Prefix.contains)
      (twoParties (some .aesGcm128Sha256)) insistingSession).count cameraFrame ≤
    2 * (((tally (publishedAt referenceLibs)
      (conferenceStep (fun _ => takesAll true) referenceLibs Prefix.contains)
      (twoParties (some .aesGcm128Sha256)) insistingSession).filter
        (PublishedObject.concerns Prefix.contains ((.subscriber, 0), mediaNamespace))).map
        (PublishedObject.forwarded mediaNamespace)).count cameraFrame := by
  have hasked : ∀ pre ∈ insistingSession.inits, timesSubscribed 0 mediaNamespace
      ((conferenceAfter (fun _ => takesAll true) referenceLibs Prefix.contains
        (twoParties (some .aesGcm128Sha256)) pre).seen .subscriber) ≤ 2 := by
    decide +kernel
  have hrepeats : NoRepeats insistingSession :=
    ⟨fun party => by cases party <;> decide, by decide⟩
  exact handed_at_most (fun _ => takesAll true) referenceLibs Prefix.contains
    referenceLibs_keyLaws referenceLibs_keyRequired referenceLibs_addKeyIdem
    referenceLibs_roundTrip referenceLibs_varIntLaws (twoParties_starts _) insistingSession hrepeats
    ((.subscriber, 0), mediaNamespace) (fun pre hpre => hasked pre ((List.mem_inits _ _).mpr hpre))
    cameraFrame

/-- It is handed the object twice, and the object was published once. -/
example :
    (tally (handedAt (fun _ => takesAll true) referenceLibs Prefix.contains
        ((.subscriber, 0), mediaNamespace))
      (conferenceStep (fun _ => takesAll true) referenceLibs Prefix.contains)
      (twoParties (some .aesGcm128Sha256)) insistingSession).count cameraFrame = 2 ∧
    ((tally (publishedAt referenceLibs)
      (conferenceStep (fun _ => takesAll true) referenceLibs Prefix.contains)
      (twoParties (some .aesGcm128Sha256)) insistingSession).map
        (PublishedObject.forwarded mediaNamespace)).count cameraFrame = 1 := by
  decide +kernel

end Qmedia.Analysis
