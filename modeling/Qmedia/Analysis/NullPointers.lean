import Qmedia.Analysis.PublishedNames
import Qmedia.Analysis.SessionHistory

/-!
# Null pointers

Of the pointers a controller may hold null, two are dereferenced unchecked: the logger by
the constructor, where it means to ask for a parent logger and asks the parameter it has
moved from, and the session by `getSubscriptionState`. So a controller dereferences no null
pointer exactly if it is not built for debugging without a logger, and `getSubscriptionState`
is called after the first `connect` only (`noNullDereference_iff`).
-/

set_option autoImplicit false

namespace Qmedia.Analysis

open Qmedia.Library Qmedia.Model Qmedia.Model.QController

variable {Suite Ctx Namespace : Type} [DecidableEq Namespace]
variable (env : Environment Namespace) (L : Libs Suite Ctx Namespace)

/-! ## One call -/

/-- Publishing may read out of bounds but checks the session. -/
theorem publishNamedObject_ne_nullDereference (d : PublicationDelegate Suite Ctx Namespace)
    (client : Bool) (data : Bytes) (groupFlag : Bool) (trace : Trace) :
    (d.publishNamedObject L client data groupFlag trace).1 ≠ .error .nullDereference := by
  rcases publishNamedObject_delegate_cases L d client data groupFlag trace with
    hcall | hcall | ⟨name, pri, exp, -, hcall⟩
  · rw [hcall]
    exact nofun
  · rw [hcall]
    exact fun h => by cases h
  · rw [hcall]
    exact nofun

/-- The one call that dereferences a null pointer, and when. -/
theorem controllerStep_nullDereference_iff (c : QController Suite Ctx Namespace)
    (op : ControllerOp Namespace) :
    (controllerStep env L c op).1 = .error .nullDereference ↔
      (∃ ns, op = .getSubscriptionState ns) ∧ c.clientSession = none := by
  cases op with
  | getSubscriptionState ns =>
      show (c.getSubscriptionState env ns).map Reply.subscriptionState =
        .error .nullDereference ↔ _
      unfold QController.getSubscriptionState
      cases c.clientSession with
      | none => exact iff_of_true rfl ⟨⟨ns, rfl⟩, rfl⟩
      | some session => exact iff_of_false nofun (fun h => by cases h.2)
  | publishNamedObject ns data groupFlag startTime =>
      refine iff_of_false (fun h => ?_) (fun h => by cases h.1 with | intro _ h => cases h)
      have hresult : (c.publishNamedObject L ns data groupFlag startTime).1 =
          .error .nullDereference := by
        have hmap : (c.publishNamedObject L ns data groupFlag startTime).1.map Reply.published =
            .error .nullDereference := h
        cases hr : (c.publishNamedObject L ns data groupFlag startTime).1 with
        | error f =>
            rw [hr] at hmap
            cases hmap
            rfl
        | ok effect =>
            rw [hr] at hmap
            cases hmap
      rcases publishNamedObject_cases L c ns data groupFlag startTime with
        hskip | ⟨publication, _, -, -, hcall, -⟩
      · rw [hskip] at hresult
        cases hresult
      · rw [hcall] at hresult
        exact publishNamedObject_ne_nullDereference L _ _ _ _ _ hresult
  | _ => exact iff_of_false nofun (fun h => by cases h.1 with | intro _ h => cases h)

/-! ## Runs -/

/-- A controller that is constructed and called dereferences no null pointer, neither in
the constructor nor in any call. -/
def NoNullDereference (qSubscriberDelegate qPublisherDelegate : Option Ref)
    (logger debugging : Bool) (cipherSuite : Option Suite) (ops : List (ControllerOp Namespace)) :
    Prop :=
  match QController.create qSubscriberDelegate qPublisherDelegate logger debugging cipherSuite with
  | .error fault => fault ≠ .nullDereference
  | .ok c₀ => .error .nullDereference ∉ outputs (controllerStep env L) c₀ ops

omit [DecidableEq Namespace] in
/-- Every `getSubscriptionState` of the run comes after a `connect`. -/
def AsksConnected (ops : List (ControllerOp Namespace)) : Prop :=
  ∀ pre ns post, ops = pre ++ .getSubscriptionState ns :: post → ∃ config, .connect config ∈ pre

/-- A new controller has no session until it connects. -/
theorem clientSession_eq_none_iff {qSubscriberDelegate qPublisherDelegate : Option Ref}
    {logger debugging : Bool} {cipherSuite : Option Suite} {c₀ : QController Suite Ctx Namespace}
    (hc₀ : QController.create qSubscriberDelegate qPublisherDelegate logger debugging cipherSuite =
      .ok c₀) (ops : List (ControllerOp Namespace)) :
    (finalState (controllerStep env L) c₀ ops).clientSession = none ↔
      ¬ ∃ config, .connect config ∈ ops := by
  rw [(tracks_run env L hc₀ ops).clientSession_eq]
  have hnone : (ledger ops).live = none ↔ (ledger ops).installed = 0 := by
    unfold SessionLedger.live
    split
    · rename_i h
      exact iff_of_true rfl h
    · rename_i h
      exact iff_of_false nofun h
  rw [hnone, installed_eq_countP, List.countP_eq_zero]
  constructor
  · rintro h ⟨config, hmem⟩
    exact h _ hmem rfl
  · intro h op hmem hop
    cases op with
    | connect config => exact h ⟨config, hmem⟩
    | _ => cases hop

/-- **Null pointers.** For every construction of a controller, whatever the application
answers, and every sequence of calls: no null pointer is dereferenced exactly if the
controller is not built for debugging without a logger, and each `getSubscriptionState`
comes after a `connect`.
SOURCE: src/QController.cpp:20-50, src/QController.cpp:563-566 -/
theorem noNullDereference_iff (qSubscriberDelegate qPublisherDelegate : Option Ref)
    (logger debugging : Bool) (cipherSuite : Option Suite) (ops : List (ControllerOp Namespace)) :
    NoNullDereference env L qSubscriberDelegate qPublisherDelegate logger debugging cipherSuite
        ops ↔
      (debugging = true → logger = true) ∧ AsksConnected ops := by
  unfold NoNullDereference
  cases hc₀ : (QController.create qSubscriberDelegate qPublisherDelegate logger debugging
      cipherSuite : Except Fault (QController Suite Ctx Namespace)) with
  | error fault =>
      unfold QController.create at hc₀
      split at hc₀
      · rename_i hbuilt
        cases hc₀
        refine iff_of_false (fun h => h rfl) ?_
        intro h
        cases debugging with
        | false => cases hbuilt
        | true =>
            rw [h.1 rfl] at hbuilt
            cases hbuilt
      · cases hc₀
  | ok c₀ =>
      have hlogger : debugging = true → logger = true := by
        intro hdebugging
        unfold QController.create at hc₀
        rw [hdebugging] at hc₀
        cases logger with
        | true => rfl
        | false => cases hc₀
      rw [and_iff_right hlogger]
      simp only [mem_outputs_iff, controllerStep_nullDereference_iff,
        clientSession_eq_none_iff env L hc₀]
      constructor
      · intro h pre ns post hops
        by_contra hnever
        exact h ⟨pre, _, post, hops, ⟨ns, rfl⟩, hnever⟩
      · rintro h ⟨pre, op, post, hops, ⟨ns, rfl⟩, hnever⟩
        exact hnever (h pre ns post hops)

/-- Debugging without a logger, and asking for a subscription's state before connecting. -/
theorem null_logger_and_session :
    ¬ NoNullDereference (takesAll true) referenceLibs (some 1) (some 1) false true none [] ∧
      ¬ NoNullDereference (takesAll true) referenceLibs (some 1) (some 1) true false none
        [.getSubscriptionState mediaNamespace] := by
  constructor
  · exact fun h => h rfl
  · exact fun h => h (List.mem_cons_self ..)

end Qmedia.Analysis
