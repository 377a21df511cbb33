import Qmedia.Analysis.ManifestHalves
import Qmedia.Analysis.PublishedNames

/-!
# One publisher for each namespace

Seen through one namespace `n`, a controller is a single publisher with a pause switch:
once `n` is registered on a session, a call addressed to `n` is a call on its delegate
while it is active, `setPublicationState` on `n` turns the switch, and no other call
touches it (`controllerStep_publisher`). So everything sent for `n` in a run is what one
delegate, built when `n` was registered, sends for the calls addressed to `n` while it was
active (`sentFor_refines`).
-/

set_option autoImplicit false

namespace Qmedia.Analysis

open Qmedia.Library Qmedia.Model Qmedia.Model.QController

variable {Suite Ctx Namespace : Type} [DecidableEq Namespace]
variable (env : Environment Namespace) (L : Libs Suite Ctx Namespace)

/-! ## The two machines -/

/-- The object that a reply sends for `n`, if the call is addressed to `n`. -/
def sentReply (n : Namespace) (op : ControllerOp Namespace)
    (reply : Except Fault (Reply Namespace)) : Option Datagram :=
  match op, reply with
  | .publishNamedObject ns _ _ _, .ok (.published effect) => if ns = n then effect.sent else none
  | _, _ => none

/-- A call on `n` sends what its delegate does. -/
theorem sentReply_self (n : Namespace) (data : Bytes) (groupFlag : Bool) (startTime : ℕ)
    (r : Except Fault (PublishEffect Namespace)) :
    sentReply n (.publishNamedObject n data groupFlag startTime) (r.map .published) =
      sentObject r := by
  cases r with
  | error f => rfl
  | ok e => exact if_pos rfl

/-- A call on another namespace sends nothing for `n`. -/
theorem sentReply_ne {n ns : Namespace} (hns : ns ≠ n) (data : Bytes) (groupFlag : Bool)
    (startTime : ℕ) (reply : Except Fault (Reply Namespace)) :
    sentReply n (.publishNamedObject ns data groupFlag startTime) reply = none := by
  cases reply with
  | error f => rfl
  | ok r =>
      cases r with
      | published e => exact if_neg hns
      | _ => rfl

/-- A call on the controller, with what it sends for `n`. -/
def sentStep (n : Namespace) (c : QController Suite Ctx Namespace) (op : ControllerOp Namespace) :
    Option Datagram × QController Suite Ctx Namespace :=
  (sentReply n op (controllerStep env L c op).1, (controllerStep env L c op).2)

/-- Everything a run sends for `n`, in order. -/
def sentFor (n : Namespace) (c : QController Suite Ctx Namespace)
    (ops : List (ControllerOp Namespace)) : List Datagram :=
  (outputs (sentStep env L n) c ops).filterMap id

/-- A single publisher for `n` with a pause switch. -/
def publisherStep (n : Namespace) (d : PublicationDetails Suite Ctx Namespace)
    (op : ControllerOp Namespace) : Option Datagram × PublicationDetails Suite Ctx Namespace :=
  match op with
  | .publishNamedObject ns data groupFlag startTime =>
      if ns = n ∧ d.state ≠ .paused then
        let (result, delegate) := publishStep L d.delegate ⟨data, groupFlag, startTrace startTime⟩
        (sentObject result, { d with delegate := delegate })
      else (none, d)
  | .setPublicationState ns state => (none, if ns = n then { d with state := state } else d)
  | _ => (none, d)

/-- The calls addressed to `n` that are made while `n` is active. -/
def activeCalls (n : Namespace) :
    PublicationState → List (ControllerOp Namespace) → List PublishCall
  | _, [] => []
  | state, .publishNamedObject ns data groupFlag startTime :: ops =>
      if ns = n ∧ state ≠ .paused then
        ⟨data, groupFlag, startTrace startTime⟩ :: activeCalls n state ops
      else activeCalls n state ops
  | state, .setPublicationState ns state' :: ops =>
      activeCalls n (if ns = n then state' else state) ops
  | state, _ :: ops => activeCalls n state ops

/-- The switch only selects the calls that reach the delegate. -/
theorem outputs_publisherStep (n : Namespace) (ops : List (ControllerOp Namespace))
    (d : PublicationDetails Suite Ctx Namespace) :
    (outputs (publisherStep L n) d ops).filterMap id =
      sentObjects L d.delegate (activeCalls n d.state ops) := by
  induction ops generalizing d with
  | nil => rfl
  | cons op ops ih =>
      rw [outputs_cons]
      cases op with
      | publishNamedObject ns data groupFlag startTime =>
          unfold activeCalls
          by_cases h : ns = n ∧ d.state ≠ .paused
          · have hstep : publisherStep L n d (.publishNamedObject ns data groupFlag startTime) =
                (sentObject (publishStep L d.delegate
                    ⟨data, groupFlag, startTrace startTime⟩).1,
                  { d with
                    delegate := (publishStep L d.delegate
                      ⟨data, groupFlag, startTrace startTime⟩).2 }) := if_pos h
            rw [if_pos h, hstep, List.filterMap_cons, ih]
            unfold sentObjects
            rw [outputs_cons, List.filterMap_cons]
            rfl
          · have hstep : publisherStep L n d (.publishNamedObject ns data groupFlag startTime) =
                (none, d) := if_neg h
            rw [if_neg h, hstep]
            exact ih d
      | setPublicationState ns state =>
          refine (ih _).trans ?_
          show sentObjects L (if ns = n then { d with state := state } else d).delegate
              (activeCalls n (if ns = n then { d with state := state } else d).state ops) =
            sentObjects L d.delegate (activeCalls n (if ns = n then state else d.state) ops)
          by_cases h : ns = n
          · rw [if_pos h, if_pos h]
          · rw [if_neg h, if_neg h]
      | _ => exact ih d

/-! ## The controller refines the publisher -/

/-- The controller has a session, and `d` is the publication of `n`. -/
def Publishes (n : Namespace) (c : QController Suite Ctx Namespace)
    (d : PublicationDetails Suite Ctx Namespace) : Prop :=
  c.quicrPublicationsMap.lookup n = some d ∧ c.clientSession.isSome

omit [DecidableEq Namespace] in
/-- What the subscriptions half leaves alone. -/
theorem Publishes.of_side [DecidableEq Namespace] {n : Namespace}
    {c c' : QController Suite Ctx Namespace} {d : PublicationDetails Suite Ctx Namespace}
    (h : Publishes n c d) (hside : SubscriptionSide c c') : Publishes n c' d := by
  obtain ⟨m₁, m₂, es, rfl, -⟩ := hside
  exact h

/-- A manifest leaves the publication of `n` in place. -/
theorem updateManifest_publishes {n : Namespace} {c : QController Suite Ctx Namespace}
    {d : PublicationDetails Suite Ctx Namespace} (h : Publishes n c d) (m : Manifest Namespace) :
    Publishes n (c.updateManifest env L m) d := by
  refine processPublications_invariant env L (fun c' => Publishes n c' d) m.publications
    (fun c' s p _ _ h' => ?_) _ (h.of_side (processSubscriptions_side env L c m.subscriptions))
  refine ⟨processProfile_keeps env L c' s p h'.1, ?_⟩
  rw [(processProfile_settings env L c' s p).1]
  exact h'.2

/-- Publishing on a namespace moves its own publication only. -/
theorem publishNamedObject_publishes {n : Namespace} {c : QController Suite Ctx Namespace}
    {d : PublicationDetails Suite Ctx Namespace} (h : Publishes n c d) (ns : Namespace)
    (data : Bytes) (groupFlag : Bool) (startTime : ℕ) :
    (sentStep env L n c (.publishNamedObject ns data groupFlag startTime)).1 =
        (publisherStep L n d (.publishNamedObject ns data groupFlag startTime)).1 ∧
      Publishes n (sentStep env L n c (.publishNamedObject ns data groupFlag startTime)).2
        (publisherStep L n d (.publishNamedObject ns data groupFlag startTime)).2 := by
  unfold sentStep controllerStep publisherStep
  simp only
  by_cases hns : ns = n
  · subst hns
    rw [sentReply_self]
    by_cases hpaused : d.state = .paused
    · rw [publishNamedObject_skipped L c ns data groupFlag startTime (fun d' hd' => by
        rw [h.1] at hd'
        cases hd'
        exact hpaused), if_neg (fun hn => hn.2 hpaused)]
      exact ⟨rfl, h⟩
    · obtain ⟨heffect, es, -, hnext⟩ := publishNamedObject_active L c data groupFlag startTime h.1
        hpaused
      rw [h.2] at heffect hnext
      rw [heffect, hnext, if_pos ⟨rfl, hpaused⟩]
      exact ⟨rfl, AList.lookup_insert _, h.2⟩
  · rw [sentReply_ne hns, if_neg (fun hn => hns hn.1)]
    refine ⟨rfl, ?_⟩
    rcases publishNamedObject_cases L c ns data groupFlag startTime with
      hskip | ⟨d', es, -, -, -, hnext⟩
    · rw [hskip]
      exact h
    · rw [hnext]
      exact ⟨(AList.lookup_insert_ne (Ne.symm hns)).trans h.1, h.2⟩

/-- Setting a state changes the state of its own namespace only. -/
theorem setPublicationState_publishes {n : Namespace} {c : QController Suite Ctx Namespace}
    {d : PublicationDetails Suite Ctx Namespace} (h : Publishes n c d) (ns : Namespace)
    (state : PublicationState) :
    Publishes n (c.setPublicationState ns state)
      (if ns = n then { d with state := state } else d) := by
  unfold setPublicationState
  by_cases hns : ns = n
  · subst hns
    rw [if_pos rfl, h.1]
    exact ⟨AList.lookup_insert _, h.2⟩
  · rw [if_neg hns]
    split
    · exact h
    · exact ⟨(AList.lookup_insert_ne (Ne.symm hns)).trans h.1, h.2⟩

/-- The calls that leave the publications alone. -/
def leavesPublications : ControllerOp Namespace → Bool
  | .updateManifest _ => false
  | .publishNamedObject .. => false
  | .setPublicationState .. => false
  | _ => true

/-- **Frame.** What the other calls keep. -/
theorem controllerStep_leaves (c : QController Suite Ctx Namespace) {op : ControllerOp Namespace}
    (hop : leavesPublications op) :
    (controllerStep env L c op).2.quicrPublicationsMap = c.quicrPublicationsMap ∧
      (controllerStep env L c op).2.cipherSuite = c.cipherSuite ∧
      (c.clientSession.isSome → (controllerStep env L c op).2.clientSession.isSome) := by
  have hside {c' : QController Suite Ctx Namespace} (h : SubscriptionSide c c') :
      c'.quicrPublicationsMap = c.quicrPublicationsMap ∧ c'.cipherSuite = c.cipherSuite ∧
        (c.clientSession.isSome → c'.clientSession.isSome) := by
    obtain ⟨m₁, m₂, es, rfl, -⟩ := h
    exact ⟨rfl, rfl, id⟩
  cases op with
  | connect config =>
      obtain ⟨log, heq⟩ := connect_eq env c config
      unfold controllerStep
      simp only [heq]
      exact ⟨trivial, trivial, fun _ => rfl⟩
  | disconnect =>
      unfold controllerStep
      rcases disconnect_cases c with ⟨-, heq⟩ | ⟨-, heq⟩
      · rw [heq]
        exact ⟨rfl, rfl, id⟩
      · rw [heq]
        exact ⟨rfl, rfl, id⟩
  | updateManifest m => cases hop
  | publishNamedObject ns data groupFlag startTime => cases hop
  | stopSubscription ns => exact hside (stopSubscription_side c ns)
  | setPublicationState ns state => cases hop
  | setSubscriptionState ns mode => exact hside (setSubscriptionState_side c ns mode)
  | _ => exact ⟨rfl, rfl, id⟩

/-- **Refinement.** On a registered namespace a call on the controller sends for it what
the publisher sends, and leaves its publication where the publisher does. -/
theorem controllerStep_publisher (n : Namespace) (c : QController Suite Ctx Namespace)
    (d : PublicationDetails Suite Ctx Namespace) (op : ControllerOp Namespace)
    (h : Publishes n c d) :
    (sentStep env L n c op).1 = (publisherStep L n d op).1 ∧
      Publishes n (sentStep env L n c op).2 (publisherStep L n d op).2 := by
  have hleaves (hop : leavesPublications op) : Publishes n (sentStep env L n c op).2 d := by
    obtain ⟨hmap, -, hsession⟩ := controllerStep_leaves env L c hop
    exact ⟨(congrArg (AList.lookup n) hmap).trans h.1, hsession h.2⟩
  cases op with
  | updateManifest m => exact ⟨rfl, updateManifest_publishes env L h m⟩
  | publishNamedObject ns data groupFlag startTime =>
      exact publishNamedObject_publishes env L h ns data groupFlag startTime
  | setPublicationState ns state => exact ⟨rfl, setPublicationState_publishes h ns state⟩
  | _ => exact ⟨rfl, hleaves rfl⟩

/-- Everything sent for a registered namespace. -/
theorem sentFor_registered {n : Namespace} {c : QController Suite Ctx Namespace}
    {d : PublicationDetails Suite Ctx Namespace} (h : Publishes n c d)
    (ops : List (ControllerOp Namespace)) :
    sentFor env L n c ops = sentObjects L d.delegate (activeCalls n d.state ops) := by
  unfold sentFor
  rw [(outputs_simulation (sentStep env L n) (publisherStep L n) (Publishes n)
    (controllerStep_publisher env L n) ops c d h).1]
  exact outputs_publisherStep L n ops d

/-! ## Registration -/

/-- The cipher suite is the one of the constructor. -/
theorem controllerStep_cipherSuite (c : QController Suite Ctx Namespace)
    (op : ControllerOp Namespace) : (controllerStep env L c op).2.cipherSuite = c.cipherSuite := by
  cases op with
  | updateManifest m =>
      refine processPublications_invariant env L (fun c' => c'.cipherSuite = c.cipherSuite)
        m.publications (fun c' s p _ _ h => ?_) _ ?_
      · exact (processProfile_settings env L c' s p).2.1.trans h
      · obtain ⟨m₁, m₂, es, heq, -⟩ := processSubscriptions_side env L c m.subscriptions
        rw [heq]
  | publishNamedObject ns data groupFlag startTime =>
      show (c.publishNamedObject L ns data groupFlag startTime).2.cipherSuite = _
      rcases publishNamedObject_cases L c ns data groupFlag startTime with
        hskip | ⟨d, es, -, -, -, hnext⟩
      · rw [hskip]
      · rw [hnext]
  | setPublicationState ns state =>
      show (c.setPublicationState ns state).cipherSuite = _
      rcases setPublicationState_cases c ns state with ⟨-, heq⟩ | ⟨publication, -, heq⟩
      · rw [heq]
      · rw [heq]
  | _ => exact (controllerStep_leaves env L c rfl).2.1

/-- A manifest registers a namespace, if at all, with the delegate that a stream and a
profile listing it ask for, on a session. -/
theorem updateManifest_registers {n : Namespace} {c : QController Suite Ctx Namespace}
    (hfree : c.quicrPublicationsMap.lookup n = none) (m : Manifest Namespace) :
    (c.updateManifest env L m).quicrPublicationsMap.lookup n = none ∨
      ∃ stream profile qDelegate time, stream ∈ m.publications ∧
        profile ∈ stream.profileSet.profiles ∧ profile.quicrNamespace = n ∧
        Publishes n (c.updateManifest env L m)
          ⟨.active, delegateFor L c qDelegate time stream profile⟩ := by
  have h := processPublications_invariant env L
    (fun c' => c'.cipherSuite = c.cipherSuite ∧ (c'.quicrPublicationsMap.lookup n = none ∨
      ∃ stream profile qDelegate time, stream ∈ m.publications ∧
        profile ∈ stream.profileSet.profiles ∧ profile.quicrNamespace = n ∧
        Publishes n c' ⟨.active, delegateFor L c qDelegate time stream profile⟩)) m.publications
    (fun c' s p hs hp hc' => ?_) (c.processSubscriptions env L m.subscriptions) ?_
  · exact h.2
  · obtain ⟨hsuite, hc'⟩ := hc'
    obtain ⟨hsession, hsuite', -, -⟩ := processProfile_settings env L c' s p
    refine ⟨hsuite'.trans hsuite, ?_⟩
    rcases hc' with hnone | ⟨stream, profile, q, time, hstream, hprofile, hns, hpub⟩
    · rcases processProfile_cases env L c' s p with
        ⟨_, _, -, heq, -⟩ | ⟨_, _, session, q, time, _, _, -, -, hses, -, -, heq⟩
      · rw [heq]
        exact Or.inl hnone
      · by_cases hn : p.quicrNamespace = n
        · right
          refine ⟨s, p, q, time, hs, hp, hn, ?_, ?_⟩
          · subst hn
            rw [heq]
            unfold delegateFor
            rw [hsuite]
            exact AList.lookup_insert _
          · rw [hsession, hses]
            rfl
        · left
          rw [heq]
          exact (AList.lookup_insert_ne (Ne.symm hn)).trans hnone
    · exact Or.inr ⟨stream, profile, q, time, hstream, hprofile, hns,
        processProfile_keeps env L c' s p hpub.1, by rw [hsession]; exact hpub.2⟩
  · obtain ⟨m₁, m₂, es, heq, -⟩ := processSubscriptions_side env L c m.subscriptions
    rw [heq]
    exact ⟨rfl, Or.inl hfree⟩

/-- Only a manifest registers a namespace. -/
theorem controllerStep_registers {n : Namespace} {c : QController Suite Ctx Namespace}
    (hfree : c.quicrPublicationsMap.lookup n = none) (op : ControllerOp Namespace) :
    (controllerStep env L c op).2.quicrPublicationsMap.lookup n = none ∨
      ∃ m, op = .updateManifest m := by
  cases op with
  | updateManifest m => exact Or.inr ⟨m, rfl⟩
  | publishNamedObject ns data groupFlag startTime =>
      left
      show (c.publishNamedObject L ns data groupFlag startTime).2.quicrPublicationsMap.lookup n = none
      rcases publishNamedObject_cases L c ns data groupFlag startTime with
        hskip | ⟨d, es, -, hl, -, hnext⟩
      · rw [hskip]
        exact hfree
      · have hne : n ≠ ns := by
          rintro rfl
          rw [hfree] at hl
          cases hl
        rw [hnext]
        exact (AList.lookup_insert_ne hne).trans hfree
  | setPublicationState ns state =>
      left
      show (c.setPublicationState ns state).quicrPublicationsMap.lookup n = none
      rcases setPublicationState_cases c ns state with ⟨-, heq⟩ | ⟨d, hl, heq⟩
      · rw [heq]
        exact hfree
      · have hne : n ≠ ns := by
          rintro rfl
          rw [hfree] at hl
          cases hl
        rw [heq]
        exact (AList.lookup_insert_ne hne).trans hfree
  | _ =>
      left
      exact (congrArg (AList.lookup n) (controllerStep_leaves env L c rfl).1).trans hfree

/-- For a namespace that is not registered nothing is sent. -/
theorem sentStep_unregistered {n : Namespace} {c : QController Suite Ctx Namespace}
    (hfree : c.quicrPublicationsMap.lookup n = none) (op : ControllerOp Namespace) :
    (sentStep env L n c op).1 = none := by
  unfold sentStep
  cases op with
  | publishNamedObject ns data groupFlag startTime =>
      by_cases hns : ns = n
      · subst hns
        unfold controllerStep
        simp only
        rw [sentReply_self, publishNamedObject_skipped L c ns data groupFlag startTime
          (fun d hd => by
            rw [hfree] at hd
            cases hd)]
        rfl
      · rw [sentReply_ne hns]
  | _ => rfl

/-! ## Runs -/

/-- How `n` was created in a run from `c`: by a manifest of the run, when nothing was
registered for `n`, from a stream and a profile that list it. -/
def CreatedIn (c : QController Suite Ctx Namespace) (ops : List (ControllerOp Namespace))
    (n : Namespace) (delegate : PublicationDelegate Suite Ctx Namespace)
    (post : List (ControllerOp Namespace)) : Prop :=
  ∃ pre m stream profile qDelegate time,
    ops = pre ++ .updateManifest m :: post ∧
    (finalState (controllerStep env L) c pre).quicrPublicationsMap.lookup n = none ∧
    (finalState (controllerStep env L) c (pre ++ [.updateManifest m])).quicrPublicationsMap.lookup
      n = some ⟨.active, delegate⟩ ∧
    stream ∈ m.publications ∧ profile ∈ stream.profileSet.profiles ∧
    profile.quicrNamespace = n ∧ delegate = delegateFor L c qDelegate time stream profile

/-- Either `n` is never registered and nothing is sent for it, or one delegate is created and
sends the rest. -/
theorem sentFor_created (n : Namespace) (ops : List (ControllerOp Namespace))
    (c : QController Suite Ctx Namespace) (hfree : c.quicrPublicationsMap.lookup n = none) :
    ((finalState (controllerStep env L) c ops).quicrPublicationsMap.lookup n = none ∧
      sentFor env L n c ops = []) ∨
    ∃ delegate post, CreatedIn env L c ops n delegate post ∧
      sentFor env L n c ops = sentObjects L delegate (activeCalls n .active post) := by
  induction ops generalizing c with
  | nil => exact Or.inl ⟨hfree, rfl⟩
  | cons op ops ih =>
      have hsent : sentFor env L n c (op :: ops) =
          sentFor env L n (controllerStep env L c op).2 ops := by
        unfold sentFor
        rw [outputs_cons, sentStep_unregistered env L hfree op]
        rfl
      rw [hsent]
      cases hl : (controllerStep env L c op).2.quicrPublicationsMap.lookup n with
      | none =>
          rcases ih _ hl with hnever | ⟨delegate, post, ⟨pre, m, stream, profile, q, time, hops,
            hpre, hlook, hstream, hprofile, hns, hdelegate⟩, hall⟩
          · exact Or.inl hnever
          · refine Or.inr ⟨delegate, post, ⟨op :: pre, m, stream, profile, q, time, ?_, hpre, hlook,
              hstream, hprofile, hns, ?_⟩, hall⟩
            · rw [hops, List.cons_append]
            · rw [hdelegate]
              unfold delegateFor
              rw [controllerStep_cipherSuite]
      | some d =>
          rcases controllerStep_registers env L hfree op with hnone | ⟨m, rfl⟩
          · rw [hnone] at hl
            cases hl
          · rcases updateManifest_registers env L hfree m with
              hnone | ⟨stream, profile, q, time, hstream, hprofile, hns, hpub⟩
            · rw [show (controllerStep env L c (.updateManifest m)).2 = c.updateManifest env L m
                from rfl, hnone] at hl
              cases hl
            · exact Or.inr ⟨_, ops, ⟨[], m, stream, profile, q, time, rfl, hfree, hpub.1, hstream,
                hprofile, hns, rfl⟩, sentFor_registered env L hpub ops⟩

/-- **One publisher for each namespace.** In every run of a new controller and for every
namespace `n`, either `n` is never registered and nothing is sent for it, or everything
sent for it is what one delegate sends, built as the manifest that created `n` asks, for
the calls addressed to `n` after that while `n` was active.
SOURCE: src/QController.cpp:125-148, src/QController.cpp:224-258 -/
theorem sentFor_refines (qSubscriberDelegate qPublisherDelegate : Option Ref)
    (logger debugging : Bool) (cipherSuite : Option Suite)
    (c₀ : QController Suite Ctx Namespace)
    (hc₀ : QController.create qSubscriberDelegate qPublisherDelegate logger debugging cipherSuite =
      .ok c₀) (ops : List (ControllerOp Namespace)) (n : Namespace) :
    ((finalState (controllerStep env L) c₀ ops).quicrPublicationsMap.lookup n = none ∧
      sentFor env L n c₀ ops = []) ∨
    ∃ delegate post, CreatedIn env L c₀ ops n delegate post ∧
      sentFor env L n c₀ ops = sentObjects L delegate (activeCalls n .active post) := by
  refine sentFor_created env L n ops c₀ ?_
  obtain rfl := create_ok hc₀
  rfl

/-- A camera that starts a group, is paused for one frame, and goes on. -/
def pausedRun : List (ControllerOp Prefix) :=
  [.connect localRelay, .updateManifest cameraManifest,
    .publishNamedObject mediaNamespace [0x2a] true 0,
    .setPublicationState mediaNamespace .paused,
    .publishNamedObject mediaNamespace [0x2b] false 1,
    .updateManifest cameraManifest,
    .setPublicationState mediaNamespace .active,
    .publishNamedObject mediaNamespace [0x2c] false 2]

/-- The pause takes nothing from the counters: objects 0 and 1 of one group are sent. -/
theorem sentFor_pausedRun :
    (sentFor (takesAll true) referenceLibs mediaNamespace
        (newController (some .aesGcm128Sha256)) pausedRun).map Datagram.quicrName =
      [objectName mediaNamespace.name 1700000001 0, objectName mediaNamespace.name 1700000001 1] ∧
    ∃ delegate post, CreatedIn (takesAll true) referenceLibs
        (newController (some .aesGcm128Sha256)) pausedRun mediaNamespace delegate post ∧
      sentFor (takesAll true) referenceLibs mediaNamespace
          (newController (some .aesGcm128Sha256)) pausedRun =
        sentObjects referenceLibs delegate (activeCalls mediaNamespace .active post) := by
  have hnames : (sentFor (takesAll true) referenceLibs mediaNamespace
      (newController (some .aesGcm128Sha256)) pausedRun).map Datagram.quicrName =
      [objectName mediaNamespace.name 1700000001 0, objectName mediaNamespace.name 1700000001 1] := by
    decide +kernel
  refine ⟨hnames, ?_⟩
  rcases sentFor_refines (takesAll true) referenceLibs (some 1) (some 1) false false
    (some .aesGcm128Sha256) _ (create_newController _) pausedRun mediaNamespace with ⟨-, hnone⟩ | h
  · rw [hnone] at hnames
    cases hnames
  · exact h

end Qmedia.Analysis
