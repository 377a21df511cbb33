import Qmedia.Analysis.SequentialSubscriptions
import Qmedia.Analysis.SubscriptionOwners

/-!
# Starting and stopping from several threads

`startSubscription` looks a delegate up, creates it if there is none and subscribes it in
three steps, while `stopSubscription` unsubscribes and erases in one. A call between two
of its steps relies on what it has seen: that a delegate it holds is in the map, or that
a namespace it missed is not. In a run whose steps leave that alone (`Undisturbing`) the
keys of the map are the subscribed namespaces once all calls have returned, and no
`startSubscription` fails (`interleaved_agrees`). Any other step goes wrong with the next
step of the call it disturbs (`disturbed_goes_wrong`). Of a whole run there is no converse:
where two calls are about to create the same namespace, the creation by one disturbs the other,
but a stop of the namespace before the other creates it makes that creation succeed again, and
the run may end in agreement.
-/

set_option autoImplicit false

namespace Qmedia.Analysis

open Qmedia.Library Qmedia.Model Qmedia.Model.QController

variable {Suite Ctx Namespace : Type} [DecidableEq Namespace]

/-- The call has returned. -/
def returned : Task Suite Ctx Namespace → Bool
  | .done => true
  | _ => false

omit [DecidableEq Namespace] in
/-- A call that has returned relies on nothing. -/
theorem phase_of_returned {t : Task Suite Ctx Namespace} (h : returned t) : phase t = .idle := by
  cases t with
  | done => rfl
  | _ => cases h

/-- The keys of the map are the namespaces whose last request on the session is a
subscribe. -/
def Agrees (session : Session) (c : QController Suite Ctx Namespace) : Prop :=
  ∀ ns, ns ∈ c.quicrSubscriptionsMap ↔ subscribedOn session ns c.log

section Pools

variable (env : Environment Namespace) (L : Libs Suite Ctx Namespace)
variable {ι : Type} [DecidableEq ι]

/-- The step that thread `i` takes next makes nothing untrue that another call relies on:
it does not stop a namespace whose delegate another call holds and has yet to subscribe,
and it does not register one that another call has looked up in vain and is about to
create. -/
def Undisturbing (p : Pool (QController Suite Ctx Namespace) (Task Suite Ctx Namespace) ι)
    (i : ι) : Prop :=
  Registry.Undisturbed (fun j => phase (p.tasks j)) i (action p.shared (p.tasks i))

/-- With finitely many calls it can be decided whether a step disturbs another. -/
instance [Fintype ι]
    (p : Pool (QController Suite Ctx Namespace) (Task Suite Ctx Namespace) ι) (i : ι) :
    Decidable (Undisturbing p i) :=
  inferInstanceAs (Decidable (Registry.Undisturbed _ _ _))

/-- Seen from the live session, the threads are clients of a registry that remember the
truth, and of what is registered everything is subscribed or about to be. -/
structure Consistent (session : Session)
    (p : Pool (QController Suite Ctx Namespace) (Task Suite Ctx Namespace) ι) : Prop where
  live : p.shared.clientSession = some session
  keyed : Keyed p.shared
  sound : Registry.Sound (view session p.shared) fun i => phase (p.tasks i)
  accounted : Registry.Accounted (view session p.shared) fun i => phase (p.tasks i)

/-- **Step of a consistent pool.** -/
theorem Consistent.step {session : Session}
    {p : Pool (QController Suite Ctx Namespace) (Task Suite Ctx Namespace) ι}
    (h : Consistent session p) {i : ι} (hi : Undisturbing p i) :
    Consistent session (poolStep (taskStep env L) p i).2 ∧
      (poolStep (taskStep env L) p i).1 ≠ some (-1) := by
  have hstep := taskStep_refines env L h.keyed h.live (p.tasks i)
  have heffect := taskStep_effect env L p.shared (p.tasks i)
  have hphases : (fun j => phase ((poolStep (taskStep env L) p i).2.tasks j)) =
      Function.update (fun j => phase (p.tasks j)) i
        (phase (taskStep env L p.shared (p.tasks i)).2.2) :=
    Function.comp_update phase p.tasks i _
  refine ⟨⟨heffect.clientSession_eq.trans h.live, heffect.keyed h.keyed, ?_, ?_⟩, ?_⟩
  · rw [hphases]
    exact h.sound.step hstep hi
  · rw [hphases]
    exact h.accounted.step hstep
  · intro hfails
    obtain ⟨ns, hns⟩ := (taskStep_fails_iff env L p.shared (p.tasks i)).mp hfails
    exact hstep.ne_fail (h.sound.remembers i) ns hns

omit [DecidableEq ι] in
/-- A consistent pool whose calls have all returned agrees. -/
theorem Consistent.agrees {session : Session}
    {p : Pool (QController Suite Ctx Namespace) (Task Suite Ctx Namespace) ι}
    (h : Consistent session p) (hreturned : ∀ i, returned (p.tasks i)) :
    Agrees session p.shared := by
  have heq := h.sound.registered_eq_active h.accounted fun i => phase_of_returned (hreturned i)
  exact fun ns => Set.ext_iff.mp heq ns

omit [DecidableEq ι] in
/-- Calls that have not begun, on a controller that has subscribed what it holds. -/
theorem consistent_pool {session : Session} {c : QController Suite Ctx Namespace}
    (hreach : Reachable env L c) (hlive : c.clientSession = some session)
    (hheld : ∀ ns ∈ c.quicrSubscriptionsMap, subscribedOn session ns c.log)
    (calls : ι → ThreadCall Namespace) : Consistent session (ThreadCall.pool c calls) := by
  have htidy := reachable_tidy env L hreach
  have hidle (i : ι) : phase ((ThreadCall.pool c calls).tasks i) = .idle := by
    unfold ThreadCall.pool ThreadCall.task
    simp only
    split
    · rfl
    · rfl
  refine ⟨hlive, htidy.keyed, ⟨htidy.active_registered session hlive, ?_⟩, ?_⟩
  · intro i
    rw [hidle i]
    trivial
  · intro ns hns
    exact Or.inl (hheld ns hns)

/-- **Disturbed calls.** A step that is not undisturbing goes wrong with the next step of
a call that it disturbs: a namespace is then subscribed that is not in the map, or a
`startSubscription` fails. -/
theorem disturbed_goes_wrong {session : Session}
    {p : Pool (QController Suite Ctx Namespace) (Task Suite Ctx Namespace) ι}
    (h : Consistent session p) {i : ι} (hi : ¬ Undisturbing p i) :
    ∃ j, j ≠ i ∧
      ((∃ ns, subscribedOn session ns (finalState (poolStep (taskStep env L)) p [i, j]).shared.log ∧
          ns ∉ (finalState (poolStep (taskStep env L)) p [i, j]).shared.quicrSubscriptionsMap) ∨
        some (-1) ∈ outputs (poolStep (taskStep env L)) p [i, j]) := by
  unfold Undisturbing Registry.Undisturbed at hi
  push Not at hi
  obtain ⟨j, hj, hdisturbs⟩ := hi
  refine ⟨j, hj, ?_⟩
  have heffect := taskStep_effect env L p.shared (p.tasks i)
  have hother : (poolStep (taskStep env L) p i).2.tasks j = p.tasks j :=
    Function.update_of_ne hj _ _
  have hstep := taskStep_refines env L h.keyed h.live (p.tasks i)
  have hnext := taskStep_refines env L (heffect.keyed h.keyed)
    (heffect.clientSession_eq.trans h.live) (p.tasks j)
  have hsame : poolStep (taskStep env L) (poolStep (taskStep env L) p i).2 j =
      ((taskStep env L (taskStep env L p.shared (p.tasks i)).2.1 (p.tasks j)).1,
        ⟨(taskStep env L (taskStep env L p.shared (p.tasks i)).2.1 (p.tasks j)).2.1,
          Function.update (poolStep (taskStep env L) p i).2.tasks j
            (taskStep env L (taskStep env L p.shared (p.tasks i)).2.1 (p.tasks j)).2.2⟩) := by
    rw [← hother]
    rfl
  rw [finalState_cons, finalState_cons, finalState_nil, outputs_cons, outputs_cons, hsame]
  rcases hstep.of_disturbed hdisturbs hnext with ⟨ns, hactive, hregistered⟩ | hfails
  · exact Or.inl ⟨ns, hactive, hregistered⟩
  · refine Or.inr (List.mem_cons_of_mem _ ?_)
    rw [(taskStep_fails_iff env L _ _).mpr hfails]
    exact List.mem_cons_self ..

/-! ## Runs -/

/-- Once every call has returned the map agrees with the requests on the session, and no
`startSubscription` fails. -/
def AgreesOnReturn (session : Session)
    (p : Pool (QController Suite Ctx Namespace) (Task Suite Ctx Namespace) ι)
    (schedule : List ι) : Prop :=
  ((∀ i, returned ((finalState (poolStep (taskStep env L)) p schedule).tasks i)) →
      Agrees session (finalState (poolStep (taskStep env L)) p schedule).shared) ∧
    some (-1) ∉ outputs (poolStep (taskStep env L)) p schedule

/-- **Agreement.** Any calls of `updateManifest` and `stopSubscription`, on a reachable
controller that has subscribed on its live session what it holds, and interleaved in any
order in which no step disturbs another call. The condition on the steps suffices and is not
necessary for a run as a whole: a later stop can mask what a step has disturbed.
SOURCE: src/QController.cpp:173-212, src/QController.cpp:303-352, src/QController.cpp:391-436 -/
theorem interleaved_agrees (session : Session) (c : QController Suite Ctx Namespace)
    (hreach : Reachable env L c) (hlive : c.clientSession = some session)
    (hheld : ∀ ns ∈ c.quicrSubscriptionsMap, subscribedOn session ns c.log)
    (calls : ι → ThreadCall Namespace) (schedule : List ι)
    (hschedule : EachStep (poolStep (taskStep env L)) Undisturbing (ThreadCall.pool c calls)
      schedule) :
    AgreesOnReturn env L session (ThreadCall.pool c calls) schedule := by
  obtain ⟨hfinal, houts⟩ := hschedule.invariant (Consistent session) (· ≠ some (-1))
    (fun p i hp hi => hp.step env L hi) (consistent_pool env L hreach hlive hheld calls)
  exact ⟨hfinal.agrees, fun hmem => houts _ hmem rfl⟩

end Pools

/-! ## Calls that disturb each other -/

/-- A connected controller. -/
def connectedController : QController CipherSuite KeyRing Prefix :=
  finalState (controllerStep (takesAll true) referenceLibs) (newController none)
    [.connect localRelay]

/-- A controller that has subscribed to the camera and connects again. -/
def reconnectedController : QController CipherSuite KeyRing Prefix :=
  finalState (controllerStep (takesAll true) referenceLibs) (newController none)
    [.connect localRelay, .updateManifest (subscribeCamera "A"), .connect localRelay]

/-- The connected controller is reachable. -/
theorem reachable_connectedController :
    Reachable (takesAll true) referenceLibs connectedController :=
  ⟨some 1, some 1, false, false, none, newController none, _, rfl, rfl⟩

/-- So is the one that has connected again. -/
theorem reachable_reconnectedController :
    Reachable (takesAll true) referenceLibs reconnectedController :=
  ⟨some 1, some 1, false, false, none, newController none, _, rfl, rfl⟩

/-- One thread subscribes to the camera and the other stops it. -/
def startAndStop : Fin 2 → ThreadCall Prefix
  | 0 => .updateManifest (subscribeCamera "A")
  | 1 => .stopSubscription mediaNamespace

/-- Both threads subscribe to the camera. -/
def startTwice (_ : Fin 2) : ThreadCall Prefix := .updateManifest (subscribeCamera "A")

/-- The stop comes after the start is complete. -/
theorem interleaved_agrees_startAndStop :
    AgreesOnReturn (takesAll true) referenceLibs 0
      (ThreadCall.pool connectedController startAndStop) [0, 0, 0, 0, 0, 0, 1, 0] :=
  interleaved_agrees (takesAll true) referenceLibs 0 connectedController
    reachable_connectedController rfl (fun ns hns => by cases hns) startAndStop _
    (by decide +kernel)

/-- A stop between the creation of a delegate and its subscribe leaves a subscription
running that is not in the map; of two threads that both look the namespace up before
either creates it, one fails; and a controller that connects again holds a namespace that
is not subscribed on the new session, even if nothing is called. -/
theorem startAndStop_disagrees :
    (Reachable (takesAll true) referenceLibs connectedController ∧
      connectedController.clientSession = some 0 ∧
      ¬ AgreesOnReturn (takesAll true) referenceLibs 0
        (ThreadCall.pool connectedController startAndStop) [0, 0, 0, 0, 0, 1, 0, 0] ∧
      ¬ AgreesOnReturn (takesAll true) referenceLibs 0
        (ThreadCall.pool connectedController startTwice)
        [0, 0, 0, 0, 1, 1, 1, 1, 0, 1, 0, 0, 1]) ∧
    (Reachable (takesAll true) referenceLibs reconnectedController ∧
      reconnectedController.clientSession = some 1 ∧
      ¬ AgreesOnReturn (takesAll true) referenceLibs 1
        (ThreadCall.pool reconnectedController (fun i : Fin 0 => i.elim0)) []) := by
  refine ⟨⟨reachable_connectedController, rfl, fun h => ?_, fun h => ?_⟩,
    reachable_reconnectedController, rfl, fun h => ?_⟩
  · have hagrees := h.1 (by decide +kernel) mediaNamespace
    revert hagrees
    decide +kernel
  · exact absurd h.2 (by decide +kernel)
  · have hagrees := h.1 (fun i => i.elim0) mediaNamespace
    revert hagrees
    decide +kernel

end Qmedia.Analysis
