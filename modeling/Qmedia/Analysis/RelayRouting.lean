import Qmedia.Library.Roster
import Qmedia.Model.Relay

/-!
# Where the relay forwards an object

The subscriptions of the relay are a roster: `onSubscribe` enters a subscriber under a
namespace and `onUnsubscribe` lets those of one subscriber id leave it. Read off a history of
callbacks, `live` is who is there; the relay's map holds the same bag (`relayAfter_pairs`), so
what it forwards is one copy for each live subscription of another connection
(`relay_forwards_live`). It throws exactly for a namespace that was never subscribed to
(`relay_throws_iff`).
-/

set_option autoImplicit false

namespace Qmedia.Analysis

open Qmedia.Library Qmedia.Model

variable {Namespace SubscriberId Conn : Type} [DecidableEq Namespace] [DecidableEq SubscriberId]
  [DecidableEq Conn]

/-! ## Live subscriptions -/

omit [DecidableEq Namespace] [DecidableEq Conn] in
/-- What a callback does to the roster of subscribers. -/
def attendance : RelayOp Namespace SubscriberId Conn →
    Option (Attendance Namespace (Subscriber SubscriberId Conn))
  | .onSubscribe ns subscriberId connId => some (.enter ns ⟨subscriberId, connId⟩)
  | .onUnsubscribe ns subscriberId =>
      some (.leave ns fun sub => decide (sub.subscriberId = subscriberId))
  | _ => none

omit [DecidableEq Conn] in
/-- The subscriptions of a history that no later callback ended. -/
def live (history : List (RelayOp Namespace SubscriberId Conn)) :
    List (Namespace × Subscriber SubscriberId Conn) :=
  present (history.filterMap attendance)

omit [DecidableEq Conn] in
/-- A subscription is added at the end. -/
theorem live_append_subscribe (history : List (RelayOp Namespace SubscriberId Conn))
    (ns : Namespace) (subscriberId : SubscriberId) (connId : Conn) :
    live (history ++ [.onSubscribe ns subscriberId connId]) =
      live history ++ [(ns, ⟨subscriberId, connId⟩)] := by
  unfold live
  rw [List.filterMap_append]
  exact present_append_enter (history.filterMap attendance) ns (Subscriber.mk subscriberId connId)

omit [DecidableEq Conn] in
/-- Unsubscribing ends all subscriptions of the subscriber to the namespace. -/
theorem live_append_unsubscribe (history : List (RelayOp Namespace SubscriberId Conn))
    (ns : Namespace) (subscriberId : SubscriberId) :
    live (history ++ [.onUnsubscribe ns subscriberId]) =
      (live history).filter fun s => s.1 ≠ ns || s.2.subscriberId ≠ subscriberId := by
  unfold live
  rw [List.filterMap_append]
  refine (present_append_leave _ ns _).trans ?_
  refine List.filter_congr fun s _ => ?_
  simp

omit [DecidableEq Conn] in
/-- Other callbacks neither start nor end subscriptions. -/
theorem live_append_other (history : List (RelayOp Namespace SubscriberId Conn))
    {op : RelayOp Namespace SubscriberId Conn} (hop : attendance op = none) :
    live (history ++ [op]) = live history := by
  unfold live
  rw [List.filterMap_append]
  simp [hop]

/-! ## The relay refines the roster -/

omit [DecidableEq Conn] in
/-- `onUnsubscribe` throws for a namespace that is not in the map, and filters its list otherwise.
-/
theorem onUnsubscribe_cases (r : Relay Namespace SubscriberId Conn) (ns : Namespace)
    (subscriberId : SubscriberId) :
    (r.subscriptions.lookup ns = none ∧
      r.onUnsubscribe ns subscriberId = (⟨[.subscriptionEnded subscriberId ns], true⟩, r)) ∨
    ∃ subs, r.subscriptions.lookup ns = some subs ∧
      r.onUnsubscribe ns subscriberId = (⟨[.subscriptionEnded subscriberId ns], false⟩,
        ⟨r.subscriptions.insert ns
          (subs.filter fun sub => sub.subscriberId ≠ subscriberId)⟩) := by
  unfold Relay.onUnsubscribe
  cases hl : r.subscriptions.lookup ns with
  | none => exact Or.inl ⟨rfl, rfl⟩
  | some subs => exact Or.inr ⟨subs, rfl, rfl⟩

omit [DecidableEq SubscriberId] [DecidableEq Conn] in
/-- `onSubscribe` adds one pair. -/
theorem onSubscribe_pairs (r : Relay Namespace SubscriberId Conn) (ns : Namespace)
    (subscriberId : SubscriberId) (connId : Conn) :
    (pairs (r.onSubscribe ns subscriberId connId).2.subscriptions).Perm
      (pairs r.subscriptions ++ [(ns, ⟨subscriberId, connId⟩)]) :=
  pairs_insert_append r.subscriptions ns ⟨subscriberId, connId⟩

omit [DecidableEq Conn] in
/-- `onUnsubscribe` removes the pairs of the subscriber and the namespace. -/
theorem onUnsubscribe_pairs (r : Relay Namespace SubscriberId Conn) (ns : Namespace)
    (subscriberId : SubscriberId) :
    (pairs (r.onUnsubscribe ns subscriberId).2.subscriptions).Perm
      ((pairs r.subscriptions).filter fun s => s.1 ≠ ns || s.2.subscriberId ≠ subscriberId) := by
  rcases onUnsubscribe_cases r ns subscriberId with ⟨hl, heq⟩ | ⟨subs, hl, heq⟩
  · -- nobody ever entered under the namespace, so nobody leaves it
    have hnone : ∀ s ∈ pairs r.subscriptions, s.1 ≠ ns := by
      intro s hs hns
      have hmem := (pairs_perm r.subscriptions ns).mem_iff.mp hs
      rw [hl] at hmem
      simp [hns] at hmem
    rw [heq, List.filter_eq_self.mpr fun s hs => by simp [hnone s hs]]
  · rw [heq]
    exact pairs_insert_filter r.subscriptions hl _

variable (contains : Namespace → Name → Bool)

/-- The last callback of a history comes last. -/
theorem relayAfter_append (history : List (RelayOp Namespace SubscriberId Conn))
    (op : RelayOp Namespace SubscriberId Conn) :
    relayAfter contains (history ++ [op]) =
      (relayStep contains (relayAfter contains history) op).2 := by
  unfold relayAfter
  rw [finalState_append]
  rfl

/-- The namespaces of the map are those that were ever subscribed to. -/
theorem relayAfter_isSome (history : List (RelayOp Namespace SubscriberId Conn))
    (ns : Namespace) :
    ((relayAfter contains history).subscriptions.lookup ns).isSome ↔
      ∃ subscriberId connId, .onSubscribe ns subscriberId connId ∈ history := by
  induction history using List.reverseRecOn with
  | nil => simp [relayAfter, Relay.create]
  | append_singleton history op ih =>
      rw [relayAfter_append]
      cases op with
      | onSubscribe ns' subscriberId connId =>
          show ((AList.insert ns' _ (relayAfter contains history).subscriptions).lookup ns).isSome ↔ _
          by_cases hns : ns = ns'
          · subst hns
            simp only [AList.lookup_insert, Option.isSome_some, true_iff]
            exact ⟨subscriberId, connId, by simp⟩
          · rw [AList.lookup_insert_ne hns, ih]
            simp [hns]
      | onUnsubscribe ns' subscriberId =>
          have hsame : (((relayAfter contains history).onUnsubscribe ns'
              subscriberId).2.subscriptions.lookup ns).isSome =
              ((relayAfter contains history).subscriptions.lookup ns).isSome := by
            rcases onUnsubscribe_cases (relayAfter contains history) ns' subscriberId with
              ⟨-, heq⟩ | ⟨subs, hl, heq⟩
            · rw [heq]
            · rw [heq]
              by_cases hns : ns = ns'
              · subst hns
                simp [hl]
              · rw [AList.lookup_insert_ne hns]
          show (((relayAfter contains history).onUnsubscribe ns'
            subscriberId).2.subscriptions.lookup ns).isSome ↔ _
          rw [hsame, ih]
          simp
      | _ => simpa [relayStep, Relay.onPublishIntent, Relay.onPublisherObject] using ih

/-- **Refinement.** The map holds the live subscriptions, each as often as it is live. -/
theorem relayAfter_pairs (history : List (RelayOp Namespace SubscriberId Conn)) :
    (pairs (relayAfter contains history).subscriptions).Perm (live history) := by
  induction history using List.reverseRecOn with
  | nil => exact List.Perm.refl _
  | append_singleton history op ih =>
      rw [relayAfter_append]
      cases op with
      | onSubscribe ns subscriberId connId =>
          rw [live_append_subscribe]
          exact (onSubscribe_pairs _ ns subscriberId connId).trans (ih.append_right _)
      | onUnsubscribe ns subscriberId =>
          rw [live_append_unsubscribe]
          exact (onUnsubscribe_pairs _ ns subscriberId).trans (ih.filter _)
      | _ =>
          rw [live_append_other history rfl]
          exact ih

omit [DecidableEq Namespace] [DecidableEq SubscriberId] in
/-- The copies of one object, read off the pairs of the map. -/
theorem onPublisherObject_calls (r : Relay Namespace SubscriberId Conn) (connId : Conn)
    (datagram : PublishDatagram) :
    (r.onPublisherObject contains connId datagram).1.calls =
      ((pairs r.subscriptions).filter fun s =>
        contains s.1 datagram.name && s.2.connId ≠ connId).map fun s =>
          .sendNamedObject s.2.subscriberId 1 500 datagram := by
  unfold Relay.onPublisherObject pairs pairsOf
  rw [List.filter_flatMap, List.map_flatMap]
  refine List.flatMap_congr fun entry _ => ?_
  rw [List.filter_map, List.map_map]
  cases hc : contains entry.1 datagram.name with
  | false => simp [Function.comp_def, hc]
  | true => simp [Function.comp_def, hc]

/-- **Routing.** After every history of callbacks an object is forwarded once for each live
subscription, made on another connection, of a namespace that contains its name, and to nobody
else.
SOURCE: test/relay.cpp:38-100 -/
theorem relay_forwards_live (history : List (RelayOp Namespace SubscriberId Conn))
    (connId : Conn) (datagram : PublishDatagram) :
    (relayStep contains (relayAfter contains history)
        (.onPublisherObject connId datagram)).1.calls.Perm
      (((live history).filter fun s =>
        contains s.1 datagram.name && s.2.connId ≠ connId).map fun s =>
          .sendNamedObject s.2.subscriberId 1 500 datagram) := by
  show ((relayAfter contains history).onPublisherObject contains connId datagram).1.calls.Perm _
  rw [onPublisherObject_calls]
  exact ((relayAfter_pairs contains history).filter _).map _

/-- **Exceptions.** A callback throws exactly if it ends a subscription to a namespace that no
earlier callback subscribed to.
SOURCE: test/relay.cpp:38-70 -/
theorem relay_throws_iff (history : List (RelayOp Namespace SubscriberId Conn))
    (op : RelayOp Namespace SubscriberId Conn) :
    (relayStep contains (relayAfter contains history) op).1.throws = true ↔
      ∃ ns subscriberId, op = .onUnsubscribe ns subscriberId ∧
        ∀ subscriberId' connId, .onSubscribe ns subscriberId' connId ∉ history := by
  have hnever (ns : Namespace) :
      (relayAfter contains history).subscriptions.lookup ns = none ↔
        ∀ subscriberId connId, .onSubscribe ns subscriberId connId ∉ history := by
    have h := relayAfter_isSome contains history ns
    rw [← Option.not_isSome_iff_eq_none, h]
    simp
  cases op with
  | onUnsubscribe ns subscriberId =>
      show ((relayAfter contains history).onUnsubscribe ns subscriberId).1.throws = true ↔ _
      rcases onUnsubscribe_cases (relayAfter contains history) ns subscriberId with
        ⟨hl, heq⟩ | ⟨subs, hl, heq⟩
      · simp [heq, ← hnever, hl]
      · simp [heq, ← hnever, hl]
  | _ => simp [relayStep, Relay.onPublishIntent, Relay.onSubscribe, Relay.onPublisherObject]

end Qmedia.Analysis
