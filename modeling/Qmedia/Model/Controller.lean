import Qmedia.Model.Manifest
import Qmedia.Model.PublicationDelegate

/-!
# The controller

`QController` of `src/QController.cpp`. Everything the controller calls outside itself
and its delegates (the application, the client sessions, the clocks) answers through an
`Environment`, whose answers may depend on everything that was called before: the
controller keeps the log of its outside calls, newest first. Log output is left out.
Maps are finite maps whose order is not modelled, so the lists read off them are in an
arbitrary order; a `quicr::namespace_map` is keyed by equality of namespaces, name and length.
-/

set_option autoImplicit false

namespace Qmedia.Model

open Qmedia.Library (finalState outputs)

/-- The arguments of `connect`, less the transport's configuration. -/
structure RelayConfig where
  endpointID : String
  remoteAddress : String
  remotePort : BitVec 16
  protocol : ℕ
  chunkSize : ℕ
deriving DecidableEq, Repr

/-- One call to the outside, with what it answered. -/
inductive Event (Namespace : Type) where
  | allocateSubBySourceId (sourceId : SourceId) (profileSet : ProfileSet Namespace)
      (result : Option Ref)
  | updateSubscription (delegate : Ref) (sourceId label : String)
      (profileSet : ProfileSet Namespace) (result : ℤ)
  | prepareSubscription (delegate : Ref) (sourceId label : String)
      (profileSet : ProfileSet Namespace) (result : ℤ × TransportMode)
  | allocatePubByNamespace (quicrNamespace : Namespace) (sourceId qualityProfile appTag : String)
      (result : Option Ref)
  | preparePublication (delegate : Ref) (sourceId qualityProfile : String)
      (result : ℤ × TransportMode)
  | connect (session : Session) (config : RelayConfig) (success : Bool)
  | disconnect (session : Session)
  | subscribe (session : Session) (request : SubscribeRequest Namespace)
  | unsubscribe (session : Session) (request : UnsubscribeRequest Namespace)
  | publishIntent (session : Session) (request : PublishIntent Namespace) (accepted : Bool)
  | publishNamedObject (session : Session) (object : Datagram)
deriving DecidableEq, Repr

/-- What the outside answers, given the calls made so far. `time` is `time(nullptr)`. -/
structure Environment (Namespace : Type) where
  allocateSubBySourceId : List (Event Namespace) → SourceId → ProfileSet Namespace → Option Ref
  updateSubscription : List (Event Namespace) → Ref → String → String → ProfileSet Namespace → ℤ
  prepareSubscription : List (Event Namespace) → Ref → String → String → ProfileSet Namespace →
    TransportMode → ℤ × TransportMode
  allocatePubByNamespace : List (Event Namespace) → Namespace → String → String → String →
    Option Ref
  preparePublication : List (Event Namespace) → Ref → String → String → TransportMode →
    ℤ × TransportMode
  connect : List (Event Namespace) → Session → RelayConfig → Bool
  connected : List (Event Namespace) → Session → Bool
  publishIntent : List (Event Namespace) → Session → PublishIntent Namespace → Bool
  getSubscriptionState : List (Event Namespace) → Session → Namespace → ℕ
  time : List (Event Namespace) → BitVec 64
  uninitialised : List (Event Namespace) → LossCounters

/-- SOURCE: include/qmedia/QController.hpp:29 -/
inductive PublicationState where
  | active
  | paused
deriving DecidableEq, Repr

/-- SOURCE: include/qmedia/QController.hpp:84-88 -/
structure PublicationDetails (Suite Ctx Namespace : Type) where
  state : PublicationState
  delegate : PublicationDelegate Suite Ctx Namespace

/-- SOURCE: include/qmedia/QController.hpp:30-33 -/
structure PublicationReport (Namespace : Type) where
  state : PublicationState
  quicrNamespace : Namespace
deriving DecidableEq, Repr

/-- Pointers are `none` where null; of the logger only that matters. `sessions` counts the
clients created so far, whose identities are the numbers below it.
SOURCE: include/qmedia/QController.hpp:150-173 -/
structure QController (Suite Ctx Namespace : Type) where
  logger : Bool
  qSubscriberDelegate : Option Ref
  qPublisherDelegate : Option Ref
  qSubscriptionsMap : Map SourceId (Option Ref)
  qPublicationsMap : Map String (Option Ref)
  quicrSubscriptionsMap : Map Namespace (SubscriptionDelegate Suite Ctx Namespace)
  quicrPublicationsMap : Map Namespace (PublicationDetails Suite Ctx Namespace)
  clientSession : Option Session
  stop : Bool
  closed : Bool
  isSingleorderedSubscription : Bool
  isSingleorderedPublication : Bool
  cipherSuite : Option Suite
  sessions : ℕ
  log : List (Event Namespace)

/-- What `updateManifest` throws on a text. -/
inductive ManifestError where
  | parseError
  | document (error : JsonError)
deriving DecidableEq, Repr

/-- How the body of one of the two manifest loops ends. -/
inductive Outcome where
  | unallocated
  | updated
  | unprepared
  | started
deriving DecidableEq, Repr

variable {Suite Ctx Namespace : Type} [DecidableEq Namespace]

namespace QController

omit [DecidableEq Namespace] in
/-- Where it asks whether there is a parent logger, the constructor reads the parameter
it has already moved from, which is null.
SOURCE: src/QController.cpp:20-50 -/
def create (qSubscriberDelegate qPublisherDelegate : Option Ref) (logger debugging : Bool)
    (cipherSuite : Option Suite) : Except Fault (QController Suite Ctx Namespace) :=
  if debugging && !logger then .error .nullDereference
  else
    .ok {
      logger := logger
      qSubscriberDelegate := qSubscriberDelegate
      qPublisherDelegate := qPublisherDelegate
      qSubscriptionsMap := ∅
      qPublicationsMap := ∅
      quicrSubscriptionsMap := ∅
      quicrPublicationsMap := ∅
      clientSession := none
      stop := false
      closed := false
      isSingleorderedSubscription := true
      isSingleorderedPublication := false
      cipherSuite := cipherSuite
      sessions := 0
      log := []
    }

omit [DecidableEq Namespace] in
/-- Record a call to the outside. -/
def call (c : QController Suite Ctx Namespace) (e : Event Namespace) :
    QController Suite Ctx Namespace :=
  { c with log := e :: c.log }

/-! ## Sessions -/

section Sessions

variable (env : Environment Namespace)

omit [DecidableEq Namespace] in
/-- The new client is installed before it connects.
SOURCE: src/QController.cpp:57-76 -/
def connect (c : QController Suite Ctx Namespace) (config : RelayConfig) :
    ℤ × QController Suite Ctx Namespace :=
  let session := c.sessions
  let c := { c with clientSession := some session, sessions := session + 1 }
  let success := env.connect c.log session config
  let c := c.call (.connect session config success)
  if !success then (-1, c) else (0, c)

omit [DecidableEq Namespace] in
/-- SOURCE: src/QController.cpp:78-81 -/
def connected (c : QController Suite Ctx Namespace) : Bool :=
  match c.clientSession with
  | none => false
  | some session => env.connected c.log session

omit [DecidableEq Namespace] in
/-- Also `close()` and the destructor.
SOURCE: src/QController.cpp:52-55, src/QController.cpp:83-109 -/
def disconnect (c : QController Suite Ctx Namespace) : ℤ × QController Suite Ctx Namespace :=
  if c.closed then (-1, c)
  else
    let c := { c with stop := true }
    let c :=
      match c.clientSession with
      | none => c
      | some session => c.call (.disconnect session)
    (0, { c with closed := true })

end Sessions

/-! ## Publishing -/

section Publishing

variable (L : Libs Suite Ctx Namespace)

/-- The trace the controller starts. -/
def startTrace (startTime : ℕ) : Trace := ⟨⟨"qController:publishNamedObject", startTime⟩, []⟩

/-- `startTime` is the reading of the steady clock.
SOURCE: src/QController.cpp:125-148 -/
def publishNamedObject (c : QController Suite Ctx Namespace) (quicrNamespace : Namespace)
    (data : Bytes) (groupFlag : Bool) (startTime : ℕ) :
    Except Fault (PublishEffect Namespace) × QController Suite Ctx Namespace :=
  match c.quicrPublicationsMap.lookup quicrNamespace with
  | none => (.ok ⟨none, none⟩, c)
  | some publication =>
      if publication.state = .paused then (.ok ⟨none, none⟩, c)
      else
        let (effect, delegate) := publication.delegate.publishNamedObject L c.clientSession.isSome
          data groupFlag (startTrace startTime)
        let c := { c with
          quicrPublicationsMap :=
            c.quicrPublicationsMap.insert quicrNamespace { publication with delegate := delegate } }
        match effect, c.clientSession with
        | .ok ⟨_, some object⟩, some session => (effect, c.call (.publishNamedObject session object))
        | _, _ => (effect, c)

end Publishing

/-! ## Delegates -/

/-- SOURCE: src/QController.cpp:173-181 -/
def findQuicrSubscriptionDelegate (c : QController Suite Ctx Namespace)
    (quicrNamespace : Namespace) : Option (SubscriptionDelegate Suite Ctx Namespace) :=
  c.quicrSubscriptionsMap.lookup quicrNamespace

/-- SOURCE: src/QController.cpp:183-212 -/
def createQuicrSubscriptionDelegate (env : Environment Namespace) (L : Libs Suite Ctx Namespace)
    (c : QController Suite Ctx Namespace) (sourceId : SourceId) (quicrNamespace : Namespace)
    (intent : SubscribeIntent) (originUrl authToken : String) (e2eToken : Bytes)
    (qDelegate : Ref) (cipherSuite : Option Suite) :
    Option (SubscriptionDelegate Suite Ctx Namespace) × QController Suite Ctx Namespace :=
  match c.quicrSubscriptionsMap.lookup quicrNamespace with
  | some _ => (none, c)
  | none =>
      let delegate := SubscriptionDelegate.create L.toSFrame sourceId quicrNamespace intent originUrl
        authToken e2eToken qDelegate cipherSuite (env.uninitialised c.log)
      (some delegate,
        { c with quicrSubscriptionsMap := c.quicrSubscriptionsMap.insert quicrNamespace delegate })

/-- SOURCE: src/QController.cpp:224-258 -/
def createQuicrPublicationDelegate (env : Environment Namespace) (L : Libs Suite Ctx Namespace)
    (c : QController Suite Ctx Namespace) (qDelegate : Ref) (sourceId : SourceId)
    (quicrNamespace : Namespace) (originUrl authToken : String) (payload : Bytes)
    (priority : List (BitVec 8)) (expiry : List (BitVec 16)) :
    Option (PublicationDelegate Suite Ctx Namespace) × QController Suite Ctx Namespace :=
  match c.quicrPublicationsMap.lookup quicrNamespace with
  | some _ => (none, c)
  | none =>
      let delegate := PublicationDelegate.create L.toSFrame qDelegate sourceId quicrNamespace
        originUrl authToken payload priority expiry c.cipherSuite (env.time c.log)
      (some delegate,
        { c with
          quicrPublicationsMap :=
            c.quicrPublicationsMap.insert quicrNamespace ⟨.active, delegate⟩ })

section Allocation

variable (env : Environment Namespace)

omit [DecidableEq Namespace] in
/-- A null answer is stored like any other.
SOURCE: src/QController.cpp:264-280 -/
def getSubscriptionDelegate (c : QController Suite Ctx Namespace) (sourceId : SourceId)
    (profileSet : ProfileSet Namespace) : Option Ref × QController Suite Ctx Namespace :=
  if c.qSubscriberDelegate = none then (none, c)
  else
    match c.qSubscriptionsMap.lookup sourceId with
    | some delegate => (delegate, c)
    | none =>
        let delegate := env.allocateSubBySourceId c.log sourceId profileSet
        let c := c.call (.allocateSubBySourceId sourceId profileSet delegate)
        (delegate, { c with qSubscriptionsMap := c.qSubscriptionsMap.insert sourceId delegate })

omit [DecidableEq Namespace] in
/-- The map's keys are strings, so it is the string of the namespace that is looked up.
SOURCE: src/QController.cpp:282-301 -/
def getPublicationDelegate (q : Quicr Namespace) (c : QController Suite Ctx Namespace)
    (quicrNamespace : Namespace) (sourceID qualityProfile appTag : String) :
    Option Ref × QController Suite Ctx Namespace :=
  if c.qPublisherDelegate = none then (none, c)
  else
    match c.qPublicationsMap.lookup (q.str quicrNamespace) with
    | some delegate => (delegate, c)
    | none =>
        let delegate := env.allocatePubByNamespace c.log quicrNamespace sourceID qualityProfile appTag
        let c := c.call
          (.allocatePubByNamespace quicrNamespace sourceID qualityProfile appTag delegate)
        (delegate,
          { c with qPublicationsMap := c.qPublicationsMap.insert (q.str quicrNamespace) delegate })

end Allocation

/-! ## Subscriptions -/

section Subscriptions

variable (env : Environment Namespace) (L : Libs Suite Ctx Namespace)

omit [DecidableEq Namespace] in
/-- `sub_delegate->subscribe(client_session, transportMode)`. -/
def subscribe (c : QController Suite Ctx Namespace)
    (delegate : SubscriptionDelegate Suite Ctx Namespace) (transportMode : TransportMode) :
    QController Suite Ctx Namespace :=
  match delegate.subscribe c.clientSession transportMode with
  | none => c
  | some (session, request) => c.call (.subscribe session request)

/-- SOURCE: src/QController.cpp:303-335 -/
def startSubscription (c : QController Suite Ctx Namespace) (qDelegate : Ref)
    (sourceId : SourceId) (quicrNamespace : Namespace) (intent : SubscribeIntent)
    (originUrl : String) (transportMode : TransportMode) (authToken : String)
    (e2eToken : Bytes) : ℤ × QController Suite Ctx Namespace :=
  let (delegate, c) :=
    match c.findQuicrSubscriptionDelegate quicrNamespace with
    | some delegate => (some delegate, c)
    | none => c.createQuicrSubscriptionDelegate env L sourceId quicrNamespace intent originUrl
        authToken e2eToken qDelegate c.cipherSuite
  match delegate with
  | none => (-1, c)
  | some delegate => (0, c.subscribe delegate transportMode)

/-- SOURCE: src/QController.cpp:337-352 -/
def stopSubscription (c : QController Suite Ctx Namespace) (quicrNamespace : Namespace) :
    QController Suite Ctx Namespace :=
  match c.quicrSubscriptionsMap.lookup quicrNamespace with
  | none => c
  | some delegate =>
      let c :=
        match delegate.unsubscribe c.clientSession with
        | none => c
        | some (session, request) => c.call (.unsubscribe session request)
      { c with quicrSubscriptionsMap := c.quicrSubscriptionsMap.erase quicrNamespace }

/-- The inner loop over the profiles of a prepared stream.
SOURCE: src/QController.cpp:418-433 -/
def startSubscriptions (c : QController Suite Ctx Namespace) (delegate : Ref)
    (sourceId : SourceId) (transportMode : TransportMode) :
    List (Profile Namespace) → QController Suite Ctx Namespace
  | [] => c
  | profile :: profiles =>
      let (_, c) := c.startSubscription env L delegate sourceId profile.quicrNamespace .syncUp ""
        transportMode "" []
      if c.isSingleorderedSubscription then c
      else c.startSubscriptions delegate sourceId transportMode profiles

/-- The body of the loop over the streams.
SOURCE: src/QController.cpp:396-433 -/
def processSubscription (c : QController Suite Ctx Namespace)
    (subscription : MediaStream Namespace) : Outcome × QController Suite Ctx Namespace :=
  let (delegate, c) :=
    c.getSubscriptionDelegate env subscription.sourceId subscription.profileSet
  match delegate with
  | none => (.unallocated, c)
  | some delegate =>
      let updateError := env.updateSubscription c.log delegate subscription.sourceId
        subscription.label subscription.profileSet
      let c := c.call (.updateSubscription delegate subscription.sourceId subscription.label
        subscription.profileSet updateError)
      if updateError = 0 then (.updated, c)
      else
        let (prepareError, transportMode) := env.prepareSubscription c.log delegate
          subscription.sourceId subscription.label subscription.profileSet .unreliable
        let c := c.call (.prepareSubscription delegate subscription.sourceId subscription.label
          subscription.profileSet (prepareError, transportMode))
        if prepareError ≠ 0 then (.unprepared, c)
        else
          (.started, c.startSubscriptions env L delegate subscription.sourceId transportMode
            subscription.profileSet.profiles)

/-- SOURCE: src/QController.cpp:391-436 -/
def processSubscriptions (c : QController Suite Ctx Namespace)
    (subscriptions : List (MediaStream Namespace)) : QController Suite Ctx Namespace :=
  finalState (processSubscription env L) c subscriptions

end Subscriptions

/-! ## Publications -/

section Publications

variable (env : Environment Namespace) (L : Libs Suite Ctx Namespace)

omit [DecidableEq Namespace] in
/-- `quicrPubDelegate->publishIntent(client_session, transportMode)`. Whether the client
accepts it is only logged. -/
def publishIntent (c : QController Suite Ctx Namespace)
    (delegate : PublicationDelegate Suite Ctx Namespace) (transportMode : TransportMode) :
    QController Suite Ctx Namespace :=
  match delegate.publishIntent c.clientSession transportMode with
  | none => c
  | some (session, request) =>
      c.call (.publishIntent session request (env.publishIntent c.log session request))

/-- SOURCE: src/QController.cpp:354-389 -/
def startPublication (c : QController Suite Ctx Namespace) (qDelegate : Ref)
    (sourceId : SourceId) (quicrNamespace : Namespace) (originUrl authToken : String)
    (payload : Bytes) (priority : List (BitVec 8)) (expiry : List (BitVec 16))
    (transportMode : TransportMode) : ℤ × QController Suite Ctx Namespace :=
  if c.clientSession = none then (-1, c)
  else
    let (delegate, c) := c.createQuicrPublicationDelegate env L qDelegate sourceId quicrNamespace
      originUrl authToken payload priority expiry
    match delegate with
    | none => (-1, c)
    | some delegate => (0, c.publishIntent env delegate transportMode)

/-- The body of the inner loop, for one profile.
SOURCE: src/QController.cpp:445-473 -/
def processProfile (c : QController Suite Ctx Namespace) (publication : MediaStream Namespace)
    (profile : Profile Namespace) : Outcome × QController Suite Ctx Namespace :=
  let (delegate, c) := c.getPublicationDelegate env L.toQuicr profile.quicrNamespace
    publication.sourceId profile.qualityProfile profile.appTag
  match delegate with
  | none => (.unallocated, c)
  | some delegate =>
      let (prepareError, transportMode) := env.preparePublication c.log delegate
        publication.sourceId profile.qualityProfile .unreliable
      let c := c.call (.preparePublication delegate publication.sourceId profile.qualityProfile
        (prepareError, transportMode))
      if prepareError ≠ 0 then (.unprepared, c)
      else
        let (_, c) := c.startPublication env L delegate publication.sourceId profile.quicrNamespace
          "" "" [] profile.priorities profile.expiry transportMode
        (.started, c)

/-- The inner loop over the profiles of a stream; a failed start counts as processed.
SOURCE: src/QController.cpp:443-477 -/
def processProfiles (c : QController Suite Ctx Namespace) (publication : MediaStream Namespace) :
    List (Profile Namespace) → QController Suite Ctx Namespace
  | [] => c
  | profile :: profiles =>
      let (outcome, c) := c.processProfile env L publication profile
      if outcome = .started && c.isSingleorderedPublication then c
      else c.processProfiles publication profiles

/-- SOURCE: src/QController.cpp:438-482 -/
def processPublications (c : QController Suite Ctx Namespace)
    (publications : List (MediaStream Namespace)) : QController Suite Ctx Namespace :=
  publications.foldl
    (fun c publication => c.processProfiles env L publication publication.profileSet.profiles) c

/-- SOURCE: src/QController.cpp:494-502 -/
def updateManifest (c : QController Suite Ctx Namespace) (manifest : Manifest Namespace) :
    QController Suite Ctx Namespace :=
  (c.processSubscriptions env L manifest.subscriptions).processPublications env L
    manifest.publications

/-- The text is parsed by `nlohmann::json`, its namespaces by `libquicr`.
SOURCE: src/QController.cpp:484-492 -/
def updateManifestText (parse : String → Option Json)
    (parseNamespace : String → Option Namespace) (c : QController Suite Ctx Namespace)
    (manifestJson : String) : Except ManifestError Unit × QController Suite Ctx Namespace :=
  match parse manifestJson with
  | none => (.error .parseError, c)
  | some manifestParsed =>
      match Manifest.fromJson parseNamespace manifestParsed with
      | .error e => (.error (.document e), c)
      | .ok manifestObj => (.ok (), c.updateManifest env L manifestObj)

end Publications

/-! ## Reports and settings -/

omit [DecidableEq Namespace] in
/-- SOURCE: src/QController.cpp:504-512 -/
def getSwitchingSets (c : QController Suite Ctx Namespace) : List SourceId :=
  c.qSubscriptionsMap.keys

omit [DecidableEq Namespace] in
/-- SOURCE: src/QController.cpp:514-524 -/
def getSubscriptions (c : QController Suite Ctx Namespace) (sourceId : SourceId) :
    List Namespace :=
  (c.quicrSubscriptionsMap.entries.filter fun entry => entry.2.sourceId = sourceId).map Sigma.fst

omit [DecidableEq Namespace] in
/-- SOURCE: src/QController.cpp:526-537 -/
def getPublications (c : QController Suite Ctx Namespace) : List (PublicationReport Namespace) :=
  c.quicrPublicationsMap.entries.map fun entry => ⟨entry.2.state, entry.1⟩

/-- SOURCE: src/QController.cpp:539-549 -/
def setPublicationState (c : QController Suite Ctx Namespace) (quicrNamespace : Namespace)
    (state : PublicationState) : QController Suite Ctx Namespace :=
  match c.quicrPublicationsMap.lookup quicrNamespace with
  | none => c
  | some publication =>
      { c with
        quicrPublicationsMap :=
          c.quicrPublicationsMap.insert quicrNamespace { publication with state := state } }

/-- SOURCE: src/QController.cpp:551-561 -/
def setSubscriptionState (c : QController Suite Ctx Namespace) (quicrNamespace : Namespace)
    (transportMode : TransportMode) : QController Suite Ctx Namespace :=
  match c.quicrSubscriptionsMap.lookup quicrNamespace with
  | none => c
  | some delegate => c.subscribe delegate transportMode

omit [DecidableEq Namespace] in
/-- The session is not checked.
SOURCE: src/QController.cpp:563-566 -/
def getSubscriptionState (env : Environment Namespace) (c : QController Suite Ctx Namespace)
    (quicrNamespace : Namespace) : Except Fault ℕ :=
  match c.clientSession with
  | none => .error .nullDereference
  | some session => .ok (env.getSubscriptionState c.log session quicrNamespace)

end QController

/-! ## Runs of a controller -/

/-- One call of the public interface. -/
inductive ControllerOp (Namespace : Type) where
  | connect (config : RelayConfig)
  | disconnect
  | connected
  | updateManifest (manifest : Manifest Namespace)
  | publishNamedObject (quicrNamespace : Namespace) (data : Bytes) (groupFlag : Bool)
      (startTime : ℕ)
  | setSubscriptionSingleOrdered (newValue : Bool)
  | setPublicationSingleOrdered (newValue : Bool)
  | stopSubscription (quicrNamespace : Namespace)
  | getSwitchingSets
  | getSubscriptions (sourceId : SourceId)
  | getPublications
  | setPublicationState (quicrNamespace : Namespace) (state : PublicationState)
  | setSubscriptionState (quicrNamespace : Namespace) (transportMode : TransportMode)
  | getSubscriptionState (quicrNamespace : Namespace)

/-- What a call returns; for `publishNamedObject` what it does to the outside. -/
inductive Reply (Namespace : Type) where
  | nothing
  | code (n : ℤ)
  | flag (b : Bool)
  | published (effect : PublishEffect Namespace)
  | sourceIds (ids : List SourceId)
  | namespaces (namespaces : List Namespace)
  | publications (reports : List (PublicationReport Namespace))
  | subscriptionState (state : ℕ)
deriving DecidableEq, Repr

/-- One call on a controller. A fault ends the program; the state after it is only a
placeholder. -/
def controllerStep (env : Environment Namespace) (L : Libs Suite Ctx Namespace)
    (c : QController Suite Ctx Namespace) :
    ControllerOp Namespace → Except Fault (Reply Namespace) × QController Suite Ctx Namespace
  | .connect config =>
      let (result, c) := c.connect env config
      (.ok (.code result), c)
  | .disconnect =>
      let (result, c) := c.disconnect
      (.ok (.code result), c)
  | .connected => (.ok (.flag (c.connected env)), c)
  | .updateManifest manifest => (.ok .nothing, c.updateManifest env L manifest)
  | .publishNamedObject quicrNamespace data groupFlag startTime =>
      let (effect, c) := c.publishNamedObject L quicrNamespace data groupFlag startTime
      (effect.map .published, c)
  | .setSubscriptionSingleOrdered newValue =>
      (.ok .nothing, { c with isSingleorderedSubscription := newValue })
  | .setPublicationSingleOrdered newValue =>
      (.ok .nothing, { c with isSingleorderedPublication := newValue })
  | .stopSubscription quicrNamespace => (.ok .nothing, c.stopSubscription quicrNamespace)
  | .getSwitchingSets => (.ok (.sourceIds c.getSwitchingSets), c)
  | .getSubscriptions sourceId => (.ok (.namespaces (c.getSubscriptions sourceId)), c)
  | .getPublications => (.ok (.publications c.getPublications), c)
  | .setPublicationState quicrNamespace state =>
      (.ok .nothing, c.setPublicationState quicrNamespace state)
  | .setSubscriptionState quicrNamespace transportMode =>
      (.ok .nothing, c.setSubscriptionState quicrNamespace transportMode)
  | .getSubscriptionState quicrNamespace =>
      ((c.getSubscriptionState env quicrNamespace).map .subscriptionState, c)

/-- The states a controller reaches from its construction. -/
def Reachable (env : Environment Namespace) (L : Libs Suite Ctx Namespace)
    (c : QController Suite Ctx Namespace) : Prop :=
  ∃ (qSubscriberDelegate qPublisherDelegate : Option Ref) (logger debugging : Bool)
    (cipherSuite : Option Suite) (c₀ : QController Suite Ctx Namespace)
    (ops : List (ControllerOp Namespace)),
    QController.create qSubscriberDelegate qPublisherDelegate logger debugging cipherSuite = .ok c₀ ∧
      c = finalState (controllerStep env L) c₀ ops

end Qmedia.Model
