import Qmedia.Library.ThreadPool
import Qmedia.Model.Controller

/-!
# Concurrent calls on the controller

`updateManifest` and `stopSubscription` as threads on one controller. Each critical
section under `qSubsMutex` or `subsMutex` is one step, and so is each call to the
application or the client made outside a lock. Of the publications half, which takes
other locks and leaves the subscriptions alone, each profile is one step.
-/

set_option autoImplicit false

namespace Qmedia.Model

open Qmedia.Library (Pool)

/-- The locals of the inner loop of `processSubscriptions`: the stream's delegate, source
and transport mode, the profiles still to come, and what is left of the manifest. -/
structure ProfileLoop (Namespace : Type) where
  delegate : Ref
  sourceId : SourceId
  transportMode : TransportMode
  profiles : List (Profile Namespace)
  rest : Manifest Namespace

/-- Where a call is between two of its steps, named after the next one. -/
inductive Task (Suite Ctx Namespace : Type) where
  | allocating (rest : Manifest Namespace)
  | updating (delegate : Ref) (stream : MediaStream Namespace) (rest : Manifest Namespace)
  | preparing (delegate : Ref) (stream : MediaStream Namespace) (rest : Manifest Namespace)
  | finding (loop : ProfileLoop Namespace) (profile : Profile Namespace)
  | creating (loop : ProfileLoop Namespace) (profile : Profile Namespace)
  | subscribing (loop : ProfileLoop Namespace) (subDelegate : SubscriptionDelegate Suite Ctx Namespace)
  | publishing (publication : MediaStream Namespace) (profiles : List (Profile Namespace))
      (publications : List (MediaStream Namespace))
  | stopping (quicrNamespace : Namespace)
  | done

namespace Task

variable {Suite Ctx Namespace : Type}

/-- The head of the loop of `processPublications`. -/
def publications : List (MediaStream Namespace) → Task Suite Ctx Namespace
  | [] => .done
  | publication :: publications =>
      .publishing publication publication.profileSet.profiles publications

/-- The head of the inner loop of `processSubscriptions`. -/
def profiles (loop : ProfileLoop Namespace) : Task Suite Ctx Namespace :=
  match loop.profiles with
  | [] => .allocating loop.rest
  | profile :: profiles => .finding { loop with profiles := profiles } profile

/-- The end of the inner loop's body. -/
def nextProfile (c : QController Suite Ctx Namespace) (loop : ProfileLoop Namespace) :
    Task Suite Ctx Namespace :=
  if c.isSingleorderedSubscription then .allocating loop.rest else profiles loop

end Task

variable {Suite Ctx Namespace : Type} [DecidableEq Namespace]

/-- One step of a call, with what `startSubscription` returns in it if it returns.
SOURCE: src/QController.cpp:303-352, src/QController.cpp:391-482 -/
def taskStep (env : Environment Namespace) (L : Libs Suite Ctx Namespace)
    (c : QController Suite Ctx Namespace) :
    Task Suite Ctx Namespace → Option ℤ × QController Suite Ctx Namespace × Task Suite Ctx Namespace
  | .allocating ⟨[], publications⟩ => (none, c, .publications publications)
  | .allocating ⟨stream :: subscriptions, publications⟩ =>
      let (delegate, c) := c.getSubscriptionDelegate env stream.sourceId stream.profileSet
      match delegate with
      | none => (none, c, .allocating ⟨subscriptions, publications⟩)
      | some delegate => (none, c, .updating delegate stream ⟨subscriptions, publications⟩)
  | .updating delegate stream rest =>
      let updateError := env.updateSubscription c.log delegate stream.sourceId stream.label
        stream.profileSet
      let c := c.call (.updateSubscription delegate stream.sourceId stream.label stream.profileSet
        updateError)
      if updateError = 0 then (none, c, .allocating rest)
      else (none, c, .preparing delegate stream rest)
  | .preparing delegate stream rest =>
      let (prepareError, transportMode) := env.prepareSubscription c.log delegate stream.sourceId
        stream.label stream.profileSet .unreliable
      let c := c.call (.prepareSubscription delegate stream.sourceId stream.label stream.profileSet
        (prepareError, transportMode))
      if prepareError ≠ 0 then (none, c, .allocating rest)
      else
        (none, c,
          .profiles ⟨delegate, stream.sourceId, transportMode, stream.profileSet.profiles, rest⟩)
  | .finding loop profile =>
      match c.findQuicrSubscriptionDelegate profile.quicrNamespace with
      | some subDelegate => (none, c, .subscribing loop subDelegate)
      | none => (none, c, .creating loop profile)
  | .creating loop profile =>
      let (subDelegate, c) := c.createQuicrSubscriptionDelegate env L loop.sourceId
        profile.quicrNamespace .syncUp "" "" [] loop.delegate c.cipherSuite
      match subDelegate with
      | none => (some (-1), c, .nextProfile c loop)
      | some subDelegate => (none, c, .subscribing loop subDelegate)
  | .subscribing loop subDelegate =>
      (some 0, c.subscribe subDelegate loop.transportMode, .nextProfile c loop)
  | .publishing _ [] publications => (none, c, .publications publications)
  | .publishing publication (profile :: profiles) publications =>
      let (outcome, c) := c.processProfile env L publication profile
      if outcome = .started && c.isSingleorderedPublication then
        (none, c, .publications publications)
      else (none, c, .publishing publication profiles publications)
  | .stopping quicrNamespace => (none, c.stopSubscription quicrNamespace, .done)
  | .done => (none, c, .done)

/-- A call that a thread makes. -/
inductive ThreadCall (Namespace : Type) where
  | updateManifest (manifest : Manifest Namespace)
  | stopSubscription (quicrNamespace : Namespace)

omit [DecidableEq Namespace] in
/-- The call before its first step. -/
def ThreadCall.task : ThreadCall Namespace → Task Suite Ctx Namespace
  | .updateManifest manifest => .allocating manifest
  | .stopSubscription quicrNamespace => .stopping quicrNamespace

/-- A controller with calls on it that have not begun. -/
def ThreadCall.pool {ι : Type} (c : QController Suite Ctx Namespace)
    (calls : ι → ThreadCall Namespace) :
    Pool (QController Suite Ctx Namespace) (Task Suite Ctx Namespace) ι :=
  ⟨c, fun i => (calls i).task⟩

end Qmedia.Model
