import Qmedia.Model.Controller

/-!
# Objects that arrive

An object that arrives for a namespace is received by the delegate that the controller has
registered for it: `subscribe` gives that delegate to the client, and `stopSubscription`
takes it back. So a controller's life is a list of calls and arrivals, in any order.
-/

set_option autoImplicit false

namespace Qmedia.Model

variable {Suite Ctx Namespace : Type} [DecidableEq Namespace]

/-- The delegate registered for a namespace receives an object.
SOURCE: src/QuicrDelegates.cpp:114-213 -/
def QController.onSubscribedObject (L : Libs Suite Ctx Namespace)
    (c : QController Suite Ctx Namespace) (ns : Namespace) (x : Received) :
    Option (Forwarded Namespace) × QController Suite Ctx Namespace :=
  match c.quicrSubscriptionsMap.lookup ns with
  | none => (none, c)
  | some delegate =>
      let (forwarded, delegate) := receiveStep L delegate x
      (forwarded,
        { c with quicrSubscriptionsMap := c.quicrSubscriptionsMap.insert ns delegate })

/-- A call on a controller, or an object that arrives. -/
inductive SessionOp (Namespace : Type) where
  | call (op : ControllerOp Namespace)
  | arrive (quicrNamespace : Namespace) (object : Received)

/-- What a call returns, or what the application is handed. -/
inductive SessionReply (Namespace : Type) where
  | returned (reply : Except Fault (Reply Namespace))
  | handed (forwarded : Option (Forwarded Namespace))
deriving DecidableEq

/-- One call or arrival. -/
def sessionStep (env : Environment Namespace) (L : Libs Suite Ctx Namespace)
    (c : QController Suite Ctx Namespace) :
    SessionOp Namespace → SessionReply Namespace × QController Suite Ctx Namespace
  | .call op =>
      let (reply, c) := controllerStep env L c op
      (.returned reply, c)
  | .arrive quicrNamespace object =>
      let (forwarded, c) := c.onSubscribedObject L quicrNamespace object
      (.handed forwarded, c)

end Qmedia.Model
