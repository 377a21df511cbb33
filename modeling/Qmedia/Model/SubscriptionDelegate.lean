import Qmedia.Model.QSFrameContext

/-!
# The receiving delegate

`SubscriptionDelegate` of `src/QuicrDelegates.cpp`: it is built for one namespace,
counts the group and object ids it sees, decrypts each object with its own SFrame
context and hands the payload to the application. Log output is left out; an
exception that the source catches ends the call with what was changed before it.
-/

set_option autoImplicit false

namespace Qmedia.Model

open Qmedia.Library (finalState outputs)

/-- The identity of a heap object of the application (what a `shared_ptr` points to). -/
abbrev Ref := ℕ

/-- The identity of a `quicr::Client`. -/
abbrev Session := ℕ

/-- The `sourceId` of a media stream. -/
abbrev SourceId := String

/-- `quicr::TransportMode`, by the enumerators the source names. -/
inductive TransportMode where
  | unreliable
  | reliablePerTrack
  | reliablePerGroup
  | pause
  | other (code : ℕ)
deriving DecidableEq, Repr

/-- `quicr::SubscribeIntent`, by the enumerators the source names. -/
inductive SubscribeIntent where
  | immediate
  | syncUp
  | other (code : ℕ)
deriving DecidableEq, Repr

/-- The secret both delegates derive the fixed epoch's key from.
SOURCE: src/QuicrDelegates.cpp:60, src/QuicrDelegates.cpp:281-282 -/
def epochMasterSecret : Bytes :=
  [0x00, 0x01, 0x02, 0x03, 0x04, 0x05, 0x06, 0x07, 0x08, 0x09, 0x0a, 0x0b, 0x0c, 0x0d, 0x0e, 0x0f]

/-- SOURCE: src/QuicrDelegates.cpp:54-60 -/
def epochKey {Suite Ctx : Type} (sf : SFrame Suite Ctx) (suite : Suite) : Bytes :=
  sf.hkdfExtract suite (stringBytes ("Quicr epoch master key " ++ toString fixedEpoch.toNat))
    epochMasterSecret

/-- The SFrame context of a new delegate: none without a cipher suite, otherwise one
with the fixed epoch added and enabled.
SOURCE: src/QuicrDelegates.cpp:46-63, src/QuicrDelegates.cpp:272-285 -/
def newSFrameContext {Suite Ctx Namespace : Type} (sf : SFrame Suite Ctx)
    (cipherSuite : Option Suite) : Option (QSFrameContext Suite Ctx Namespace) :=
  cipherSuite.map fun suite =>
    ((QSFrameContext.create suite).addEpoch fixedEpoch (epochKey sf suite)).enableEpoch fixedEpoch

/-- The four counters the constructor does not initialise. -/
structure LossCounters where
  groupCount : BitVec 64
  objectCount : BitVec 64
  groupGapCount : BitVec 64
  objectGapCount : BitVec 64
deriving DecidableEq, Repr

/-- SOURCE: include/qmedia/QuicrDelegates.hpp:73-93 -/
structure SubscriptionDelegate (Suite Ctx Namespace : Type) where
  sourceId : SourceId
  quicrNamespace : Namespace
  intent : SubscribeIntent
  originUrl : String
  authToken : String
  e2eToken : Bytes
  qDelegate : Ref
  counters : LossCounters
  currentGroupId : BitVec 32
  currentObjectId : BitVec 16
  sframeContext : Option (QSFrameContext Suite Ctx Namespace)

/-- A call `qDelegate->subscribedObject(quicrNamespace, data, groupId, objectId)`. -/
structure Forwarded (Namespace : Type) where
  quicrNamespace : Namespace
  data : Bytes
  groupId : BitVec 32
  objectId : BitVec 16
deriving DecidableEq, Repr

/-- The arguments of `client->subscribe(…)`, without the delegate. -/
structure SubscribeRequest (Namespace : Type) where
  quicrNamespace : Namespace
  intent : SubscribeIntent
  transportMode : TransportMode
  originUrl : String
  authToken : String
  e2eToken : Bytes
deriving DecidableEq, Repr

/-- The arguments of `client->unsubscribe(…)`. -/
structure UnsubscribeRequest (Namespace : Type) where
  quicrNamespace : Namespace
  originUrl : String
  authToken : String
deriving DecidableEq, Repr

variable {Suite Ctx Namespace : Type} [DecidableEq Namespace]

namespace SubscriptionDelegate

omit [DecidableEq Namespace] in
/-- `uninitialised` is whatever the four counters happen to hold.
SOURCE: src/QuicrDelegates.cpp:26-68 -/
def create (sf : SFrame Suite Ctx) (sourceId : SourceId) (quicrNamespace : Namespace)
    (intent : SubscribeIntent) (originUrl authToken : String) (e2eToken : Bytes)
    (qDelegate : Ref) (cipherSuite : Option Suite) (uninitialised : LossCounters) :
    SubscriptionDelegate Suite Ctx Namespace where
  sourceId := sourceId
  quicrNamespace := quicrNamespace
  intent := intent
  originUrl := originUrl
  authToken := authToken
  e2eToken := e2eToken
  qDelegate := qDelegate
  counters := uninitialised
  currentGroupId := 0
  currentObjectId := -1
  sframeContext := newSFrameContext sf cipherSuite

omit [DecidableEq Namespace] in
/-- The gap accounting. `currentGroupId + 1` wraps in 32 bits; `currentObjectId + 1`
is computed in `int` and does not wrap.
SOURCE: src/QuicrDelegates.cpp:135-155 -/
def countObject (d : SubscriptionDelegate Suite Ctx Namespace) (groupId : BitVec 32)
    (objectId : BitVec 16) : SubscriptionDelegate Suite Ctx Namespace :=
  let (counters, currentObjectId) :=
    if d.currentGroupId < groupId then
      let (counters, currentObjectId) :=
        if d.currentGroupId + 1 < groupId then
          ({ d.counters with groupGapCount := d.counters.groupGapCount + 1 }, 0)
        else (d.counters, d.currentObjectId)
      ({ counters with groupCount := counters.groupCount + 1 }, currentObjectId)
    else (d.counters, d.currentObjectId)
  let counters :=
    if currentObjectId < objectId then
      let counters :=
        if currentObjectId.toNat + 1 < objectId.toNat then
          { counters with objectGapCount := counters.objectGapCount + 1 }
        else counters
      { counters with objectCount := counters.objectCount + 1 }
    else counters
  { d with counters := counters, currentGroupId := groupId, currentObjectId := objectId }

omit [DecidableEq Namespace] in
/-- The request made on the client, if there is one. Moving the token out of the delegate
leaves an empty one, which is the only one the controller ever passes in.
SOURCE: src/QuicrDelegates.cpp:219-230 -/
def subscribe (d : SubscriptionDelegate Suite Ctx Namespace) (client : Option Session)
    (transportMode : TransportMode) : Option (Session × SubscribeRequest Namespace) :=
  client.map fun session =>
    (session, ⟨d.quicrNamespace, d.intent, transportMode, d.originUrl, d.authToken, d.e2eToken⟩)

omit [DecidableEq Namespace] in
/-- SOURCE: src/QuicrDelegates.cpp:232-241 -/
def unsubscribe (d : SubscriptionDelegate Suite Ctx Namespace) (client : Option Session) :
    Option (Session × UnsubscribeRequest Namespace) :=
  client.map fun session => (session, ⟨d.quicrNamespace, d.originUrl, d.authToken⟩)

variable (L : Libs Suite Ctx Namespace)

/-- What the application is handed, if anything. What the application does with it,
exceptions included, has no effect on the delegate.
SOURCE: src/QuicrDelegates.cpp:114-213 -/
def onSubscribedObject (d : SubscriptionDelegate Suite Ctx Namespace) (quicrName : Name)
    (data : Bytes) : Option (Forwarded Namespace) × SubscriptionDelegate Suite Ctx Namespace :=
  if data = [] then (none, d)
  else
    let groupId := bits 32 quicrName 16 32
    let objectId := bits 16 quicrName 0 16
    let d := d.countObject groupId objectId
    match d.sframeContext with
    | none => (some ⟨d.quicrNamespace, data, groupId, objectId⟩, d)
    | some sframe =>
        match L.readVarInt data with
        | none => (none, d)
        | some (epoch, ciphertext) =>
            let (cleartext, sframe) := sframe.unprotect L epoch
              (L.namespaceOf quicrName quicrSFrameSigBits) (bits 64 quicrName 0 48)
              ciphertext.length ciphertext
            let d := { d with sframeContext := some sframe }
            match cleartext with
            | none => (none, d)
            | some output => (some ⟨d.quicrNamespace, output, groupId, objectId⟩, d)

end SubscriptionDelegate

/-- One received object. -/
structure Received where
  quicrName : Name
  data : Bytes
deriving DecidableEq, Repr

/-- One call of `onSubscribedObject`, as a machine step. -/
def receiveStep (L : Libs Suite Ctx Namespace) (d : SubscriptionDelegate Suite Ctx Namespace)
    (x : Received) : Option (Forwarded Namespace) × SubscriptionDelegate Suite Ctx Namespace :=
  d.onSubscribedObject L x.quicrName x.data

end Qmedia.Model
