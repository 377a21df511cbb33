import Qmedia.Model.ControllerThreads

/-!
# The locked interface from several threads

All calls on the controller that take its locks, from any number of threads. A call whose body
is one critical section is one step. `updateManifest` is the steps of `ControllerThreads` for
its subscriptions and, for each profile of its publications, one step for each critical
section under `qPubsMutex` or `pubsMutex`, one for the check of the session and one for each
call to the application or the client made outside a lock. `connect`, `disconnect` and the two
single ordering settings take no lock and are left to a time when no other call runs.
-/

set_option autoImplicit false

namespace Qmedia.Model

open Qmedia.Library (Pool)

/-- The calls that hold one lock from their first line to their last.
SOURCE: src/QController.cpp:125-148, src/QController.cpp:337-352, src/QController.cpp:504-561 -/
def ControllerOp.isLocked {Namespace : Type} : ControllerOp Namespace → Bool
  | .publishNamedObject .. => true
  | .stopSubscription _ => true
  | .getSwitchingSets => true
  | .getSubscriptions _ => true
  | .getPublications => true
  | .setPublicationState .. => true
  | .setSubscriptionState .. => true
  | _ => false

/-- The next step belongs to `processSubscriptions`. -/
def Task.ofSubscriptions {Suite Ctx Namespace : Type} : Task Suite Ctx Namespace → Bool
  | .publishing .. => false
  | .stopping _ => false
  | .done => false
  | _ => true

/-- The locals of `processPublications`: the stream and its profile, the profiles still to come
after it, and the streams after that. -/
structure PublicationLoop (Namespace : Type) where
  publication : MediaStream Namespace
  profile : Profile Namespace
  profiles : List (Profile Namespace)
  publications : List (MediaStream Namespace)

/-- Where a call is between two of its steps, named after the next one. -/
inductive CallTask (Suite Ctx Namespace : Type) where
  | locked (op : {op : ControllerOp Namespace // op.isLocked})
  | subscriptions (task : {task : Task Suite Ctx Namespace // task.ofSubscriptions})
  | allocating (loop : PublicationLoop Namespace)
  | preparing (loop : PublicationLoop Namespace) (delegate : Ref)
  | checking (loop : PublicationLoop Namespace) (delegate : Ref) (transportMode : TransportMode)
  | creating (loop : PublicationLoop Namespace) (delegate : Ref) (transportMode : TransportMode)
  | announcing (loop : PublicationLoop Namespace)
      (pubDelegate : PublicationDelegate Suite Ctx Namespace) (transportMode : TransportMode)
  | done

namespace CallTask

variable {Suite Ctx Namespace : Type}

/-- The head of the loop of `processPublications`. -/
def streams : List (MediaStream Namespace) → CallTask Suite Ctx Namespace
  | [] => .done
  | publication :: publications =>
      match publication.profileSet.profiles with
      | [] => streams publications
      | profile :: profiles => .allocating ⟨publication, profile, profiles, publications⟩

/-- The head of the inner loop. -/
def profiles (publication : MediaStream Namespace) (profiles : List (Profile Namespace))
    (publications : List (MediaStream Namespace)) : CallTask Suite Ctx Namespace :=
  match profiles with
  | [] => streams publications
  | profile :: profiles => .allocating ⟨publication, profile, profiles, publications⟩

/-- A `continue` of the inner loop. -/
def nextProfile (loop : PublicationLoop Namespace) : CallTask Suite Ctx Namespace :=
  profiles loop.publication loop.profiles loop.publications

/-- The end of the inner loop's body. -/
def processed (c : QController Suite Ctx Namespace) (loop : PublicationLoop Namespace) :
    CallTask Suite Ctx Namespace :=
  if c.isSingleorderedPublication then streams loop.publications else nextProfile loop

/-- A call of `ControllerThreads`. -/
def ofTask (task : Task Suite Ctx Namespace) : CallTask Suite Ctx Namespace :=
  if h : task.ofSubscriptions then .subscriptions ⟨task, h⟩
  else
    match task with
    | .publishing publication ps publications => profiles publication ps publications
    | .stopping quicrNamespace => .locked ⟨.stopSubscription quicrNamespace, rfl⟩
    | _ => .done

end CallTask

variable {Suite Ctx Namespace : Type} [DecidableEq Namespace]

/-- One step of a call, with the call and its reply if it is a locked one.
SOURCE: src/QController.cpp:125-148, src/QController.cpp:224-301, src/QController.cpp:354-482 -/
def callStep (env : Environment Namespace) (L : Libs Suite Ctx Namespace)
    (c : QController Suite Ctx Namespace) :
    CallTask Suite Ctx Namespace →
      Option (ControllerOp Namespace × Except Fault (Reply Namespace)) ×
        QController Suite Ctx Namespace × CallTask Suite Ctx Namespace
  | .locked op =>
      let (reply, c) := controllerStep env L c op.1
      (some (op.1, reply), c, .done)
  | .subscriptions task =>
      let (_, c, task) := taskStep env L c task.1
      (none, c, .ofTask task)
  | .allocating loop =>
      let (delegate, c) := c.getPublicationDelegate env L.toQuicr loop.profile.quicrNamespace
        loop.publication.sourceId loop.profile.qualityProfile loop.profile.appTag
      match delegate with
      | none => (none, c, .nextProfile loop)
      | some delegate => (none, c, .preparing loop delegate)
  | .preparing loop delegate =>
      let (prepareError, transportMode) := env.preparePublication c.log delegate
        loop.publication.sourceId loop.profile.qualityProfile .unreliable
      let c := c.call (.preparePublication delegate loop.publication.sourceId
        loop.profile.qualityProfile (prepareError, transportMode))
      if prepareError ≠ 0 then (none, c, .nextProfile loop)
      else (none, c, .checking loop delegate transportMode)
  | .checking loop delegate transportMode =>
      if c.clientSession = none then (none, c, .processed c loop)
      else (none, c, .creating loop delegate transportMode)
  | .creating loop delegate transportMode =>
      let (pubDelegate, c) := c.createQuicrPublicationDelegate env L delegate
        loop.publication.sourceId loop.profile.quicrNamespace "" "" [] loop.profile.priorities
        loop.profile.expiry
      match pubDelegate with
      | none => (none, c, .processed c loop)
      | some pubDelegate => (none, c, .announcing loop pubDelegate transportMode)
  | .announcing loop pubDelegate transportMode =>
      let c := c.publishIntent env pubDelegate transportMode
      (none, c, .processed c loop)
  | .done => (none, c, .done)

/-- A call that a thread makes. -/
inductive InterfaceCall (Namespace : Type) where
  | updateManifest (manifest : Manifest Namespace)
  | locked (op : {op : ControllerOp Namespace // op.isLocked})

omit [DecidableEq Namespace] in
/-- The call before its first step. -/
def InterfaceCall.task : InterfaceCall Namespace → CallTask Suite Ctx Namespace
  | .updateManifest manifest => .subscriptions ⟨.allocating manifest, rfl⟩
  | .locked op => .locked op

/-- A controller with calls on it that have not begun. -/
def InterfaceCall.pool {ι : Type} (c : QController Suite Ctx Namespace)
    (calls : ι → InterfaceCall Namespace) :
    Pool (QController Suite Ctx Namespace) (CallTask Suite Ctx Namespace) ι :=
  ⟨c, fun i => (calls i).task⟩

end Qmedia.Model
