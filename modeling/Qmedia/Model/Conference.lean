import Mathlib.Logic.Function.Basic
import Qmedia.Model.Arrivals
import Qmedia.Model.Relay

/-!
# A conference

Any number of parties, each with a controller and an application of its own, and one relay
between them, as in the sessions of `test/qmedia.cpp`. What lies between a controller and the
relay is not in the repository: a call on a client session may reach the relay late, again, out
of order or never, and so may an object on its way back. So the conference keeps all the calls
that were made and all the objects that the relay has sent, and a step takes any of them.
Taken from `libquicr` is only who is who: a connection belongs to one client of one party, a
subscriber id to one namespace of one connection, and an object that the relay sends for it
goes to the delegate that the party has registered for the namespace.
-/

set_option autoImplicit false

namespace Qmedia.Model

open Qmedia.Library (finalState outputs)

/-- A connection: a party and one of its clients. -/
abbrev ClientConn (Party : Type) := Party × Session

/-- A subscriber id: a connection and a namespace subscribed to on it. -/
abbrev ClientSubscription (Party Namespace : Type) := ClientConn Party × Namespace

/-- `down` tells that an exception has ended the relay, `seen` which calls of a party have
reached it, newest first, and `relayed` which objects it has sent to whom, oldest first. -/
structure Conference (Party Suite Ctx Namespace : Type) where
  controllers : Party → QController Suite Ctx Namespace
  relay : Relay Namespace (ClientSubscription Party Namespace) (ClientConn Party)
  down : Bool
  seen : Party → List (Event Namespace)
  relayed : List (ClientSubscription Party Namespace × PublishDatagram)

/-- One step. Calls are counted from the first that the party made, objects from the first
that the relay sent. -/
inductive ConferenceOp (Party Namespace : Type) where
  | call (party : Party) (op : ControllerOp Namespace)
  | request (party : Party) (index : ℕ)
  | deliver (index : ℕ)

/-- What comes of a step: what a call returns, what the relay does, or what an application is
handed. -/
inductive ConferenceReply (Party Namespace : Type) where
  | returned (reply : Except Fault (Reply Namespace))
  | answered (result : CallbackResult Namespace (ClientSubscription Party Namespace))
  | handed (party : Party) (forwarded : Option (Forwarded Namespace))
  | nothing

variable {Party Suite Ctx Namespace : Type} [DecidableEq Party] [DecidableEq Namespace]

omit [DecidableEq Party] [DecidableEq Namespace] in
/-- The callback of the relay that a call of a client leads to. -/
def requestOf (party : Party) : Event Namespace →
    Option (RelayOp Namespace (ClientSubscription Party Namespace) (ClientConn Party))
  | .subscribe session request =>
      some (.onSubscribe request.quicrNamespace ((party, session), request.quicrNamespace)
        (party, session))
  | .unsubscribe session request =>
      some (.onUnsubscribe request.quicrNamespace ((party, session), request.quicrNamespace))
  | .publishIntent _ request _ => some (.onPublishIntent request.quicrNamespace)
  | .publishNamedObject session object =>
      some (.onPublisherObject (party, session) ⟨object.quicrName, object.data⟩)
  | _ => none

omit [DecidableEq Party] [DecidableEq Namespace] in
/-- The objects among the calls of a callback. -/
def sentObjectsOf (calls : List (ServerCall Namespace (ClientSubscription Party Namespace))) :
    List (ClientSubscription Party Namespace × PublishDatagram) :=
  calls.filterMap fun
    | .sendNamedObject subscriberId _ _ datagram => some (subscriberId, datagram)
    | _ => none

section Steps

variable (env : Party → Environment Namespace) (L : Libs Suite Ctx Namespace)
  (contains : Namespace → Name → Bool)

/-- A call of a party reaches the relay. -/
def Conference.request (w : Conference Party Suite Ctx Namespace) (party : Party)
    (e : Event Namespace) :
    ConferenceReply Party Namespace × Conference Party Suite Ctx Namespace :=
  let w := { w with seen := Function.update w.seen party (e :: w.seen party) }
  match requestOf party e with
  | none => (.nothing, w)
  | some op =>
      let (result, relay) := relayStep contains w.relay op
      (.answered result, { w with
        relay := relay
        down := result.throws
        relayed := w.relayed ++ sentObjectsOf result.calls })

/-- An object that the relay has sent reaches its subscriber. -/
def Conference.deliver (w : Conference Party Suite Ctx Namespace) (party : Party)
    (ns : Namespace) (datagram : PublishDatagram) :
    ConferenceReply Party Namespace × Conference Party Suite Ctx Namespace :=
  let (forwarded, c) :=
    (w.controllers party).onSubscribedObject L ns ⟨datagram.name, datagram.mediaData⟩
  (.handed party forwarded, { w with controllers := Function.update w.controllers party c })

/-- One step of a conference. -/
def conferenceStep (w : Conference Party Suite Ctx Namespace) :
    ConferenceOp Party Namespace →
      ConferenceReply Party Namespace × Conference Party Suite Ctx Namespace
  | .call party op =>
      let (reply, c) := controllerStep (env party) L (w.controllers party) op
      (.returned reply, { w with controllers := Function.update w.controllers party c })
  | .request party index =>
      if w.down then (.nothing, w)
      else
        match (w.controllers party).log.reverse[index]? with
        | none => (.nothing, w)
        | some e => w.request contains party e
  | .deliver index =>
      match w.relayed[index]? with
      | none => (.nothing, w)
      | some (((party, _), ns), datagram) => w.deliver L party ns datagram

end Steps

omit [DecidableEq Party] [DecidableEq Namespace] in
/-- A conference before its first step: new controllers, all built with the same cipher
suite or all with none, and a new relay. -/
structure Conference.Starts (cipherSuite : Option Suite)
    (w : Conference Party Suite Ctx Namespace) : Prop where
  controllers : ∀ party, ∃ qSubscriberDelegate qPublisherDelegate logger debugging,
    QController.create qSubscriberDelegate qPublisherDelegate logger debugging cipherSuite =
      .ok (w.controllers party)
  relay : w.relay = Relay.create
  down : w.down = false
  seen : ∀ party, w.seen party = []
  relayed : w.relayed = []

end Qmedia.Model
