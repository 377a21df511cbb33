import Qmedia.Library.MachineRun
import Qmedia.Model.ThirdParty

/-!
# The relay

`LocalhostServerDelegate` of `test/relay.cpp`, the relay the tests run against: it answers
every announcement and every subscription, keeps the subscribers of each namespace, and
forwards an object to the subscribers of the namespaces that contain its name, except on the
connection it came from. Subscriber ids and connections are only compared, so their types are
left open. The map of subscriptions is a finite map whose order is not modelled: the order of
the calls for one object is arbitrary. Log output is left out.
-/

set_option autoImplicit false

namespace Qmedia.Model

open Qmedia.Library (finalState outputs)

/-- SOURCE: test/relay.cpp:114-118 -/
structure Subscriber (SubscriberId Conn : Type) where
  subscriberId : SubscriberId
  connId : Conn
deriving DecidableEq, Repr

/-- What the relay reads of a `quicr::messages::PublishDatagram`, and the data it passes on. -/
structure PublishDatagram where
  name : Name
  mediaData : Bytes
deriving DecidableEq, Repr

/-- A call on the `quicr::Server`. The status of the first three is always `Ok`. -/
inductive ServerCall (Namespace SubscriberId : Type) where
  | publishIntentResponse (quicrNamespace : Namespace)
  | subscribeResponse (subscriberId : SubscriberId) (quicrNamespace : Namespace)
  | subscriptionEnded (subscriberId : SubscriberId) (quicrNamespace : Namespace)
  | sendNamedObject (subscriberId : SubscriberId) (priority : BitVec 8) (expiry : BitVec 16)
      (datagram : PublishDatagram)
deriving DecidableEq, Repr

/-- What a callback does to the outside: the calls it makes on the server, and whether
`std::out_of_range` leaves it after them. -/
structure CallbackResult (Namespace SubscriberId : Type) where
  calls : List (ServerCall Namespace SubscriberId)
  throws : Bool
deriving DecidableEq, Repr

/-- SOURCE: test/relay.cpp:110-119 -/
structure Relay (Namespace SubscriberId Conn : Type) where
  subscriptions : Map Namespace (List (Subscriber SubscriberId Conn))

variable {Namespace SubscriberId Conn : Type} [DecidableEq Namespace] [DecidableEq SubscriberId]
  [DecidableEq Conn]

namespace Relay

omit [DecidableEq Namespace] [DecidableEq SubscriberId] [DecidableEq Conn] in
/-- A relay without subscriptions.
SOURCE: test/relay.cpp:15-17 -/
def create : Relay Namespace SubscriberId Conn := ⟨∅⟩

omit [DecidableEq Namespace] [DecidableEq SubscriberId] [DecidableEq Conn] in
/-- SOURCE: test/relay.cpp:21-30 -/
def onPublishIntent (r : Relay Namespace SubscriberId Conn) (quicrNamespace : Namespace) :
    CallbackResult Namespace SubscriberId × Relay Namespace SubscriberId Conn :=
  (⟨[.publishIntentResponse quicrNamespace], false⟩, r)

omit [DecidableEq SubscriberId] [DecidableEq Conn] in
/-- Nothing keeps a subscriber from being entered twice.
SOURCE: test/relay.cpp:38-55 -/
def onSubscribe (r : Relay Namespace SubscriberId Conn) (quicrNamespace : Namespace)
    (subscriberId : SubscriberId) (connId : Conn) :
    CallbackResult Namespace SubscriberId × Relay Namespace SubscriberId Conn :=
  let subs := (r.subscriptions.lookup quicrNamespace).getD [] ++ [⟨subscriberId, connId⟩]
  (⟨[.subscribeResponse subscriberId quicrNamespace], false⟩,
    { r with subscriptions := r.subscriptions.insert quicrNamespace subs })

omit [DecidableEq Conn] in
/-- The end is reported before the namespace is looked up, and `at` throws for one that no
subscriber was ever entered under; a namespace whose last subscriber left stays.
SOURCE: test/relay.cpp:57-70 -/
def onUnsubscribe (r : Relay Namespace SubscriberId Conn) (quicrNamespace : Namespace)
    (subscriberId : SubscriberId) :
    CallbackResult Namespace SubscriberId × Relay Namespace SubscriberId Conn :=
  match r.subscriptions.lookup quicrNamespace with
  | none => (⟨[.subscriptionEnded subscriberId quicrNamespace], true⟩, r)
  | some subs =>
      let subs := subs.filter fun sub => sub.subscriberId ≠ subscriberId
      (⟨[.subscriptionEnded subscriberId quicrNamespace], false⟩,
        { r with subscriptions := r.subscriptions.insert quicrNamespace subs })

omit [DecidableEq Namespace] [DecidableEq SubscriberId] in
/-- `contains` is `Namespace::contains`.
SOURCE: test/relay.cpp:72-100 -/
def onPublisherObject (contains : Namespace → Name → Bool)
    (r : Relay Namespace SubscriberId Conn) (connId : Conn) (datagram : PublishDatagram) :
    CallbackResult Namespace SubscriberId × Relay Namespace SubscriberId Conn :=
  let calls := r.subscriptions.entries.flatMap fun entry =>
    if !contains entry.1 datagram.name then []
    else
      -- no loopback
      (entry.2.filter fun sub => sub.connId ≠ connId).map fun sub =>
        .sendNamedObject sub.subscriberId 1 500 datagram
  (⟨calls, false⟩, r)

end Relay

/-! ## Runs of a relay -/

/-- One callback of the server, with the arguments the relay reads. -/
inductive RelayOp (Namespace SubscriberId Conn : Type) where
  | onPublishIntent (quicrNamespace : Namespace)
  | onPublishIntentEnd (quicrNamespace : Namespace)
  | onSubscribe (quicrNamespace : Namespace) (subscriberId : SubscriberId) (connId : Conn)
  | onUnsubscribe (quicrNamespace : Namespace) (subscriberId : SubscriberId)
  | onPublisherObject (connId : Conn) (datagram : PublishDatagram)
  | onSubscribePause (quicrNamespace : Namespace) (subscriberId : SubscriberId) (connId : Conn)
      (pause : Bool)
deriving DecidableEq, Repr

/-- One callback on a relay; two of them do nothing. An exception ends the program; the state
after it is only a placeholder.
SOURCE: test/relay.cpp:32-36, test/relay.cpp:102-108 -/
def relayStep (contains : Namespace → Name → Bool) (r : Relay Namespace SubscriberId Conn) :
    RelayOp Namespace SubscriberId Conn →
      CallbackResult Namespace SubscriberId × Relay Namespace SubscriberId Conn
  | .onPublishIntent ns => r.onPublishIntent ns
  | .onPublishIntentEnd _ => (⟨[], false⟩, r)
  | .onSubscribe ns subscriberId connId => r.onSubscribe ns subscriberId connId
  | .onUnsubscribe ns subscriberId => r.onUnsubscribe ns subscriberId
  | .onPublisherObject connId datagram => r.onPublisherObject contains connId datagram
  | .onSubscribePause .. => (⟨[], false⟩, r)

/-- The relay after a history of callbacks on a new one. -/
def relayAfter (contains : Namespace → Name → Bool)
    (history : List (RelayOp Namespace SubscriberId Conn)) : Relay Namespace SubscriberId Conn :=
  finalState (relayStep contains) Relay.create history

end Qmedia.Model
