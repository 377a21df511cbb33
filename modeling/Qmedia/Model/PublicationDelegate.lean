import Qmedia.Model.SubscriptionDelegate

/-!
# The publishing delegate

`PublicationDelegate` of `src/QuicrDelegates.cpp`: it is built for one namespace,
gives each object the next name there, encrypts it with its own SFrame context and
sends it through the client session. The session is seen as one bit, whether the
pointer is set: nothing a session answers changes the delegate. Undefined behaviour
ends a call with a `Fault`.
-/

set_option autoImplicit false

namespace Qmedia.Model

open Qmedia.Library (finalState outputs)

/-- What a call may run into instead of returning. -/
inductive Fault where
  | outOfBounds
  | nullDereference
deriving DecidableEq, Repr

/-- `qtransport::MethodTraceItem`, without the time difference its constructor adds. -/
structure MethodTraceItem where
  method : String
  startTime : ℕ
deriving DecidableEq, Repr

/-- A trace with at least one item: the source reads `trace.front()`. -/
structure Trace where
  front : MethodTraceItem
  rest : List MethodTraceItem
deriving DecidableEq, Repr

/-- `trace.push_back({method, trace.front().start_time})`. -/
def Trace.pushBack (t : Trace) (method : String) : Trace :=
  { t with rest := t.rest ++ [⟨method, t.front.startTime⟩] }

/-- The constructor pads the priorities, so that both indices the source uses are
in bounds; it does not pad the expiry times.
SOURCE: include/qmedia/QuicrDelegates.hpp:148-166 -/
structure PublicationDelegate (Suite Ctx Namespace : Type) where
  sourceId : SourceId
  originUrl : String
  authToken : String
  quicrNamespace : Namespace
  groupId : BitVec 32
  objectId : BitVec 16
  payload : Bytes
  priority : List (BitVec 8)
  expiry : List (BitVec 16)
  qDelegate : Ref
  sframeContext : Option (QSFrameContext Suite Ctx Namespace)
  two_le_priority : 2 ≤ priority.length

/-- A call `client->publishNamedObject(quicrName, priority, expiry, data, trace)`. -/
structure Datagram where
  quicrName : Name
  priority : BitVec 8
  expiry : BitVec 16
  data : Bytes
  trace : Trace
deriving DecidableEq, Repr

/-- A call `client->publishIntent(…)`, without the delegate it is made for. -/
structure PublishIntent (Namespace : Type) where
  quicrNamespace : Namespace
  originUrl : String
  authToken : String
  payload : Bytes
  transportMode : TransportMode
  priority : BitVec 8
deriving DecidableEq, Repr

/-- What one call of `publishNamedObject` does to the outside: the namespace and
counter it calls `sframe_context->protect` with, and the object it hands to the
client. -/
structure PublishEffect (Namespace : Type) where
  protectCall : Option (Namespace × Counter)
  sent : Option Datagram
deriving DecidableEq, Repr

/-- Two default priorities, or the only one twice.
SOURCE: src/QuicrDelegates.cpp:290-296 -/
def padPriority (priority : List (BitVec 8)) : List (BitVec 8) :=
  match priority with
  | [] => [10, 11]
  | [p] => [p, p]
  | p :: q :: rest => p :: q :: rest

/-- There are two priorities after padding. -/
theorem two_le_length_padPriority (priority : List (BitVec 8)) :
    2 ≤ (padPriority priority).length := by
  match priority with
  | [] => exact le_refl 2
  | [_] => exact le_refl 2
  | _ :: _ :: rest => exact Nat.le_add_left 2 rest.length

variable {Suite Ctx Namespace : Type} [DecidableEq Namespace]

namespace PublicationDelegate

omit [DecidableEq Namespace] in
/-- `time` is `time(nullptr)`.
SOURCE: src/QuicrDelegates.cpp:249-297 -/
def create (sf : SFrame Suite Ctx) (qDelegate : Ref) (sourceId : SourceId)
    (quicrNamespace : Namespace) (originUrl authToken : String) (payload : Bytes)
    (priority : List (BitVec 8)) (expiry : List (BitVec 16)) (cipherSuite : Option Suite)
    (time : BitVec 64) : PublicationDelegate Suite Ctx Namespace where
  sourceId := sourceId
  originUrl := originUrl
  authToken := authToken
  quicrNamespace := quicrNamespace
  groupId := time.setWidth 32
  objectId := 0
  payload := payload
  priority := padPriority priority
  expiry := expiry
  qDelegate := qDelegate
  sframeContext := newSFrameContext sf cipherSuite
  two_le_priority := two_le_length_padPriority priority

omit [DecidableEq Namespace] in
/-- `priority[0]`. -/
def firstPriority (d : PublicationDelegate Suite Ctx Namespace) : BitVec 8 :=
  d.priority.get ⟨0, Nat.lt_of_lt_of_le Nat.zero_lt_two d.two_le_priority⟩

omit [DecidableEq Namespace] in
/-- `priority[1]`. -/
def secondPriority (d : PublicationDelegate Suite Ctx Namespace) : BitVec 8 :=
  d.priority.get ⟨1, Nat.lt_of_lt_of_le Nat.one_lt_two d.two_le_priority⟩

omit [DecidableEq Namespace] in
/-- The announcement made on the client, if there is one. The payload is moved out of a
vector of the caller, not of the delegate.
SOURCE: src/QuicrDelegates.cpp:329-350 -/
def publishIntent (d : PublicationDelegate Suite Ctx Namespace) (client : Option Session)
    (transportMode : TransportMode) : Option (Session × PublishIntent Namespace) :=
  client.map fun session =>
    (session,
      ⟨d.quicrNamespace, d.originUrl, d.authToken, d.payload, transportMode, d.firstPriority⟩)

variable (L : Libs Suite Ctx Namespace)

omit [DecidableEq Namespace] in
/-- The name of the next object, and the delegate with the counters moved on. Both
increments wrap.
SOURCE: src/QuicrDelegates.cpp:384-398 -/
def nextName (d : PublicationDelegate Suite Ctx Namespace) (groupFlag : Bool) :
    Name × PublicationDelegate Suite Ctx Namespace :=
  if groupFlag then
    let d := { d with groupId := d.groupId + 1, objectId := 0 }
    (groupStartName (L.nameOf d.quicrNamespace) d.groupId, d)
  else
    let d := { d with objectId := d.objectId + 1 }
    (objectName (L.nameOf d.quicrNamespace) d.groupId d.objectId, d)

/-- What is sent for an object: the data itself, or with an SFrame context the epoch and
the ciphertext, `none` if the encryption throws. First the namespace and counter that
`sframe_context->protect` is called with; last the context afterwards.
SOURCE: src/QuicrDelegates.cpp:400-441 -/
def encryptObject (sframeContext : Option (QSFrameContext Suite Ctx Namespace))
    (quicrName : Name) (data : Bytes) (trace : Trace) :
    Option (Namespace × Counter) × Option (Bytes × Trace) ×
      Option (QSFrameContext Suite Ctx Namespace) :=
  match sframeContext with
  | none => (none, some (data, trace), none)
  | some sframe =>
      let trace := trace.pushBack "qMediaDelegate:publishNamedObject:beforeEncrypt"
      let ns := L.namespaceOf quicrName quicrSFrameSigBits
      let ctr := bits 64 quicrName 0 48
      let (ciphertext, sframe) := sframe.protect L ns ctr (data.length + 16) data
      let toPublish := ciphertext.map fun output =>
        (L.writeVarInt fixedEpoch ++ output,
          trace.pushBack "qMediaDelegate:publishNamedObject:afterEncrypt")
      (some (ns, ctr), toPublish, some sframe)

/-- Only a call inside a group uses the second priority and expiry. The counters have
moved on before anything can throw.
SOURCE: src/QuicrDelegates.cpp:363-460 -/
def publishNamedObject (d : PublicationDelegate Suite Ctx Namespace) (client : Bool)
    (data : Bytes) (groupFlag : Bool) (trace : Trace) :
    Except Fault (PublishEffect Namespace) × PublicationDelegate Suite Ctx Namespace :=
  if data = [] then (.ok ⟨none, none⟩, d)
  else if !client then (.ok ⟨none, none⟩, d)
  else
    match d.expiry with
    | [] => (.error .outOfBounds, d)
    | expiry₀ :: expiryRest =>
        let pri := if groupFlag then d.firstPriority else d.secondPriority
        let exp := if groupFlag then expiry₀ else expiryRest.headD expiry₀
        let (quicrName, d) := d.nextName L groupFlag
        let (protectCall, toPublish, sframeContext) :=
          encryptObject L d.sframeContext quicrName data trace
        (.ok ⟨protectCall, toPublish.map fun (bytes, trace) => ⟨quicrName, pri, exp, bytes, trace⟩⟩,
          { d with sframeContext := sframeContext })

end PublicationDelegate

/-- The arguments of one call of `publishNamedObject` on a session. -/
structure PublishCall where
  data : Bytes
  groupFlag : Bool
  trace : Trace
deriving DecidableEq, Repr

/-- One call of `publishNamedObject` with a client, as a machine step. -/
def publishStep (L : Libs Suite Ctx Namespace) (d : PublicationDelegate Suite Ctx Namespace)
    (x : PublishCall) :
    Except Fault (PublishEffect Namespace) × PublicationDelegate Suite Ctx Namespace :=
  d.publishNamedObject L true x.data x.groupFlag x.trace

end Qmedia.Model
