import Qmedia.Analysis.InterleavedPublications
import Qmedia.Analysis.SessionHistory

/-!
# Sent before it is announced

`startPublication` registers a namespace under the lock and announces it after it has given the
lock back. While one call follows the other nobody sees the difference: if every `connect` is
made while nothing is registered, each registered namespace has been announced once on the
session in use (`inOrder_run`). A call of another thread may come in between, so an
object is handed to the session either when its namespace has been announced there, once, or
while one thread is still to announce it, and then it goes first (`sent_announced`).
-/

set_option autoImplicit false

namespace Qmedia.Analysis

open Qmedia.Library Qmedia.Model Qmedia.Model.QController

variable {Suite Ctx Namespace : Type} [DecidableEq Namespace]

/-! ## Announced once -/

/-- The registered namespaces have been announced on the session, each once, and no other has. -/
def AnnouncedOnce (session : Session) (c : QController Suite Ctx Namespace) : Prop :=
  ∀ ns, (Registered c ns → announcedOn session ns c.log = 1) ∧
    (¬ Registered c ns → announcedOn session ns c.log = 0)

omit [DecidableEq Namespace] in
/-- The ledger before anything is registered. -/
def nothingAnnounced : Ledger Namespace := ⟨∅, fun _ => 0⟩

/-- Seen as work to be done for each namespace, it has all been done. -/
theorem AnnouncedOnce.settles {session : Session} {c : QController Suite Ctx Namespace}
    (h : AnnouncedOnce session c) {ι : Type} {debts : ι → Option Namespace}
    (hdebts : ∀ i, debts i = none) :
    Ledger.Settles nothingAnnounced (announcements session c) debts where
  kept := Set.empty_subset _
  untouched ns hns := by
    have hfree : ¬ Registered c ns := hns.resolve_left (Set.notMem_empty ns)
    exact ⟨(h ns).2 hfree, fun i => by rw [hdebts i]; exact nofun⟩
  claimed ns _ hns := Or.inl ⟨(h ns).1 hns, fun i => by rw [hdebts i]; exact nofun⟩

/-- If all work has been done and none is owed, every namespace has been announced once. -/
theorem announcedOnce_of_settles {session : Session} {c : QController Suite Ctx Namespace}
    {ι : Type} {debts : ι → Option Namespace}
    (h : Ledger.Settles nothingAnnounced (announcements session c) debts)
    (hidle : ∀ i, debts i = none) : AnnouncedOnce session c := by
  intro ns
  rcases h.done_eq hidle ns with ⟨hdone, -, hclaimed⟩ | ⟨hdone, hclaimed | hfree⟩
  · exact ⟨fun _ => hdone, fun hfree => absurd hclaimed hfree⟩
  · exact absurd hclaimed (Set.notMem_empty ns)
  · exact ⟨fun hregistered => absurd hregistered hfree, fun _ => hdone⟩

section Steps

variable (env : Environment Namespace) (L : Libs Suite Ctx Namespace)

/-- A call of `updateManifest` announces what it registers. -/
theorem AnnouncedOnce.updateManifest {session : Session} {c : QController Suite Ctx Namespace}
    (h : AnnouncedOnce session c) (hlive : c.clientSession = some session)
    (m : Manifest Namespace) : AnnouncedOnce session (c.updateManifest env L m) := by
  have hrun := (updateManifest_steps env L c m).invariant
    (fun x => x.1.clientSession = some session ∧ Ledger.Settles nothingAnnounced
      (announcements session x.1) fun _ : Unit => debt x.2) (fun x hx => ?_)
    ⟨hlive, h.settles fun _ => debt_task (.updateManifest m)⟩
  · exact announcedOnce_of_settles hrun.2 fun _ => rfl
  · obtain ⟨hstep, hlive'⟩ := callStep_ledger env L hx.1 x.2
    refine ⟨hlive', ?_⟩
    have hsettles := hx.2.step (i := ()) hstep
    have honly : Function.update (fun _ : Unit => debt x.2) () (debt (callStep env L x.1 x.2).2.2) =
        fun _ => debt (callStep env L x.1 x.2).2.2 := by
      funext i
      rw [Function.update_self]
    rwa [honly] at hsettles

/-- A step announces nothing on a session that is not in use. -/
theorem callStep_announcedOn_ne {session : Session} {c : QController Suite Ctx Namespace}
    (hne : c.clientSession ≠ some session) (t : CallTask Suite Ctx Namespace) :
    (callStep env L c t).2.1.clientSession = c.clientSession ∧
      ∀ ns, announcedOn session ns (callStep env L c t).2.1.log = announcedOn session ns c.log := by
  have hcases := callStep_cases env L c t
  generalize callStep env L c t = result at hcases
  cases hcases with
  | @locked op =>
      obtain ⟨hsession, -, hannounced⟩ := locked_keeps env L c op.2
      exact ⟨hsession, hannounced session⟩
  | aside _ haside _ => exact ⟨haside.clientSession_eq, haside.announcedOn_eq session⟩
  | created _ => exact ⟨rfl, fun _ => rfl⟩
  | @announced loop pubDelegate transportMode session' request accepted t' hsession hns hdebt' =>
      refine ⟨rfl, fun ns => ?_⟩
      have hother : session' ≠ session := by
        rintro rfl
        exact hne hsession
      show (Event.publishIntent session' request accepted :: c.log).countP _ = _
      rw [List.countP_cons, if_neg fun h => hother (of_decide_eq_true h).1]
      rfl
  | unannounced _ => exact ⟨rfl, fun _ => rfl⟩

/-! ## One call after the other -/

/-- The session in use has been announced whatever is registered, and no later session has been
announced anything. -/
structure InOrder (c : QController Suite Ctx Namespace) : Prop where
  live_lt : ∀ session, c.clientSession = some session → session < c.sessions
  fresh : ∀ session, c.sessions ≤ session → ∀ ns, announcedOn session ns c.log = 0
  announced : ∀ session, c.clientSession = some session → AnnouncedOnce session c

/-- A manifest announces nothing on a session that is not in use. -/
theorem updateManifest_announcedOn_ne {session : Session} {c : QController Suite Ctx Namespace}
    (hne : c.clientSession ≠ some session) (m : Manifest Namespace) (ns : Namespace) :
    announcedOn session ns (c.updateManifest env L m).log = announcedOn session ns c.log := by
  have hrun := (updateManifest_steps env L c m).invariant
    (fun x => x.1.clientSession = c.clientSession ∧
      announcedOn session ns x.1.log = announcedOn session ns c.log) (fun x hx => ?_) ⟨rfl, rfl⟩
  · exact hrun.2
  · rw [← hx.1] at hne
    obtain ⟨hsession, hannounced⟩ := callStep_announcedOn_ne env L hne x.2
    exact ⟨hsession.trans hx.1, (hannounced ns).trans hx.2⟩

/-- What a call other than `connect` keeps. -/
theorem controllerStep_announcedOn (c : QController Suite Ctx Namespace)
    {op : ControllerOp Namespace} (hop : ∀ config, op ≠ .connect config) :
    (controllerStep env L c op).2.clientSession = c.clientSession ∧
      (controllerStep env L c op).2.sessions = c.sessions ∧
      (∀ session, c.clientSession ≠ some session → ∀ ns,
        announcedOn session ns (controllerStep env L c op).2.log = announcedOn session ns c.log) ∧
      ∀ session, c.clientSession = some session → AnnouncedOnce session c →
        AnnouncedOnce session (controllerStep env L c op).2 := by
  have hkept {c' : QController Suite Ctx Namespace}
      (hregistered : ∀ ns, Registered c' ns ↔ Registered c ns)
      (hannounced : ∀ session ns, announcedOn session ns c'.log = announcedOn session ns c.log) :
      (∀ session, c.clientSession ≠ some session → ∀ ns,
        announcedOn session ns c'.log = announcedOn session ns c.log) ∧
      ∀ session, c.clientSession = some session → AnnouncedOnce session c →
        AnnouncedOnce session c' := by
    refine ⟨fun session _ => hannounced session, fun session _ h ns => ?_⟩
    rw [hregistered ns, hannounced session ns]
    exact h ns
  by_cases hdisconnect : op = .disconnect
  · subst hdisconnect
    have hstep : (controllerStep env L c .disconnect).2 = c.disconnect.2 := rfl
    rcases disconnect_cases c with ⟨-, heq⟩ | ⟨-, heq⟩
    · rw [hstep, heq]
      exact ⟨rfl, rfl, hkept (fun _ => Iff.rfl) fun _ _ => rfl⟩
    · rw [hstep, heq]
      refine ⟨rfl, rfl, hkept (fun _ => Iff.rfl) fun session ns => ?_⟩
      exact announcedOn_append (p := isSessionCall) (by simp [isSessionCall]) (fun _ _ _ => rfl)
        session ns c.log
  · have hsessions := controllerStep_keepsSessions env L c hop hdisconnect
    refine ⟨hsessions.clientSession_eq, hsessions.sessions_eq, ?_⟩
    by_cases hlocked : op.isLocked
    · obtain ⟨-, hregistered, hannounced⟩ := locked_keeps env L c hlocked
      exact hkept hregistered hannounced
    · cases op with
      | connect config => exact absurd rfl (hop config)
      | disconnect => exact absurd rfl hdisconnect
      | updateManifest m =>
          exact ⟨fun session hne ns => updateManifest_announcedOn_ne env L hne m ns,
            fun session hlive h => h.updateManifest env L hlive m⟩
      | connected => exact hkept (fun _ => Iff.rfl) fun _ _ => rfl
      | setSubscriptionSingleOrdered newValue => exact hkept (fun _ => Iff.rfl) fun _ _ => rfl
      | setPublicationSingleOrdered newValue => exact hkept (fun _ => Iff.rfl) fun _ _ => rfl
      | getSubscriptionState ns => exact hkept (fun _ => Iff.rfl) fun _ _ => rfl
      | _ => exact absurd rfl hlocked

/-- A call other than `connect`. -/
theorem InOrder.controllerStep {c : QController Suite Ctx Namespace} (h : InOrder c)
    {op : ControllerOp Namespace} (hop : ∀ config, op ≠ .connect config) :
    InOrder (controllerStep env L c op).2 := by
  obtain ⟨hsession, hsessions, hother, hannounced⟩ := controllerStep_announcedOn env L c hop
  refine ⟨?_, ?_, ?_⟩
  · intro session hlive
    rw [hsessions]
    exact h.live_lt session (hsession.symm.trans hlive)
  · intro session hle ns
    rw [hsessions] at hle
    have hne : c.clientSession ≠ some session := fun hlive =>
      absurd (h.live_lt session hlive) (Nat.not_lt.mpr hle)
    rw [hother session hne ns]
    exact h.fresh session hle ns
  · intro session hlive
    have hlive' := hsession.symm.trans hlive
    exact hannounced session hlive' (h.announced session hlive')

/-- A `connect` that finds nothing registered. -/
theorem InOrder.connect {c : QController Suite Ctx Namespace} (h : InOrder c)
    (hfree : ∀ ns, ¬ Registered c ns) (config : RelayConfig) :
    InOrder (c.connect env config).2 := by
  obtain ⟨success, heq⟩ := connect_eq env c config
  rw [heq]
  refine ⟨?_, ?_, ?_⟩
  · rintro session ⟨⟩
    exact Nat.lt_succ_self c.sessions
  · exact fun session hle ns => h.fresh session (Nat.le_of_succ_le hle) ns
  · rintro session ⟨⟩ ns
    exact ⟨fun hregistered => absurd hregistered (hfree ns), fun _ => h.fresh c.sessions le_rfl ns⟩

/-- Every `connect` of a run is made while nothing has a publication. -/
def ConnectsUnpublished (c₀ : QController Suite Ctx Namespace) (ops : List (ControllerOp Namespace)) :
    Prop :=
  ∀ pre config post, ops = pre ++ .connect config :: post →
    ∀ ns, ¬ Registered (finalState (Model.controllerStep env L) c₀ pre) ns

/-- **Run of one caller.** Calls that follow one another keep the order. -/
theorem inOrder_run {qSubscriberDelegate qPublisherDelegate : Option Ref}
    {logger debugging : Bool} {cipherSuite : Option Suite} {c₀ : QController Suite Ctx Namespace}
    (hc₀ : QController.create qSubscriberDelegate qPublisherDelegate logger debugging cipherSuite =
      .ok c₀) (ops : List (ControllerOp Namespace)) (hconnects : ConnectsUnpublished env L c₀ ops) :
    InOrder (finalState (Model.controllerStep env L) c₀ ops) := by
  induction ops using List.reverseRecOn with
  | nil =>
      rw [create_ok hc₀]
      exact ⟨nofun, fun _ _ _ => rfl, nofun⟩
  | append_singleton ops op ih =>
      have hbefore := ih fun pre config post hops =>
        hconnects pre config (post ++ [op]) (by rw [hops]; simp)
      rw [finalState_append]
      by_cases hop : ∃ config, op = .connect config
      · obtain ⟨config, rfl⟩ := hop
        exact hbefore.connect env (hconnects ops config [] rfl) config
      · exact hbefore.controllerStep env L fun config hconnect => hop ⟨config, hconnect⟩

/-! ## Calls of other threads -/

/-- What is sent is sent for a registered namespace. -/
theorem registered_of_sent {c : QController Suite Ctx Namespace} {ns : Namespace} {data : Bytes}
    {groupFlag : Bool} {startTime : ℕ} {object : Datagram}
    (hsent : sentObject (c.publishNamedObject L ns data groupFlag startTime).1 = some object) :
    Registered c ns := by
  rcases publishNamedObject_cases L c ns data groupFlag startTime with
    hskip | ⟨publication, es, -, hl, -⟩
  · rw [hskip] at hsent
    cases hsent
  · unfold Registered
    rw [hl]
    rfl

/-- **Announced first, or by one thread.** Let every `connect` of a run be made while nothing is
registered, and let then the calls of any number of threads be interleaved. An object that some
call hands to the session belongs to a namespace that has been announced there once, and that no
thread is to announce again, or to one that has not been announced yet and that exactly one
thread has registered and is about to announce.
SOURCE: src/QController.cpp:125-148, src/QController.cpp:224-258, src/QController.cpp:354-389 -/
theorem sent_announced {qSubscriberDelegate qPublisherDelegate : Option Ref}
    {logger debugging : Bool} {cipherSuite : Option Suite}
    {c₀ c : QController Suite Ctx Namespace}
    (hc₀ : QController.create qSubscriberDelegate qPublisherDelegate logger debugging cipherSuite =
      .ok c₀) (ops : List (ControllerOp Namespace)) (hconnects : ConnectsUnpublished env L c₀ ops)
    (hc : c = finalState (Model.controllerStep env L) c₀ ops) {session : Session}
    (hlive : c.clientSession = some session) {ι : Type} [DecidableEq ι]
    (calls : ι → InterfaceCall Namespace) (schedule : List ι) {ns : Namespace} {data : Bytes}
    {groupFlag : Bool} {startTime : ℕ} {object : Datagram}
    (hsent : sentObject ((afterCalls env L c calls schedule).shared.publishNamedObject L ns data
      groupFlag startTime).1 = some object) :
    (announcedOn session ns (afterCalls env L c calls schedule).shared.log = 1 ∧
      ∀ i, debt ((afterCalls env L c calls schedule).tasks i) ≠ some ns) ∨
    announcedOn session ns (afterCalls env L c calls schedule).shared.log = 0 ∧
      ∃ i, debt ((afterCalls env L c calls schedule).tasks i) = some ns ∧
        ∀ j, debt ((afterCalls env L c calls schedule).tasks j) = some ns → j = i := by
  have horder := inOrder_run env L hc₀ ops hconnects
  rw [← hc] at horder
  obtain ⟨honce, hnever⟩ := horder.announced session hlive ns
  obtain ⟨-, hsettles⟩ := afterCalls_settles env L hlive calls schedule
  by_cases hold : Registered c ns
  · -- announced before the calls began
    obtain ⟨hdone, hnone⟩ := hsettles.untouched ns (Or.inl hold)
    exact Or.inl ⟨hdone.trans (honce hold), hnone⟩
  · rcases hsettles.claimed ns hold (registered_of_sent L hsent) with
      ⟨hdone, hnone⟩ | ⟨hdone, hone⟩
    · exact Or.inl ⟨hdone.trans (congrArg (· + 1) (hnever hold)), hnone⟩
    · exact Or.inr ⟨hdone.trans (hnever hold), hone⟩

end Steps

/-! ## An object that goes first -/

/-- One thread has registered the camera and is about to announce it; the object of another
thread is sent in between. -/
def beforeAnnouncing : List Racer :=
  List.replicate 4 .first ++ List.replicate 4 .second ++ [.first]

/-- Another thread is between the two steps of `startPublication`. -/
theorem sent_announced_race :
    (announcedOn 0 mediaNamespace (afterCalls (takesAll true) referenceLibs connectedController
        racers beforeAnnouncing).shared.log = 1 ∧
      ∀ i, debt ((afterCalls (takesAll true) referenceLibs connectedController racers
        beforeAnnouncing).tasks i) ≠ some mediaNamespace) ∨
    announcedOn 0 mediaNamespace (afterCalls (takesAll true) referenceLibs connectedController
        racers beforeAnnouncing).shared.log = 0 ∧
      ∃ i, debt ((afterCalls (takesAll true) referenceLibs connectedController racers
        beforeAnnouncing).tasks i) = some mediaNamespace ∧
        ∀ j, debt ((afterCalls (takesAll true) referenceLibs connectedController racers
          beforeAnnouncing).tasks j) = some mediaNamespace → j = i := by
  have hconnects : ConnectsUnpublished (takesAll true) referenceLibs (newController none)
      [.connect localRelay] := by
    intro pre config post hops ns
    cases pre with
    | nil => exact Bool.false_ne_true
    | cons op pre => simp at hops
  obtain ⟨object, hsent⟩ : ∃ object, sentObject ((afterCalls (takesAll true) referenceLibs
      connectedController racers beforeAnnouncing).shared.publishNamedObject referenceLibs
      mediaNamespace [0x2a] true 0).1 = some object :=
    Option.isSome_iff_exists.mp (by decide +kernel)
  exact sent_announced (takesAll true) referenceLibs (create_newController none)
    [.connect localRelay] hconnects rfl rfl racers beforeAnnouncing hsent

/-- The camera's object is sent, and the camera has not been announced. -/
example :
    announcedOn 0 mediaNamespace (afterCalls (takesAll true) referenceLibs connectedController
      racers (beforeAnnouncing ++ [.camera])).shared.log = 0 ∧
    (sentIn mediaNamespace (outputs (poolStep (callStep (takesAll true) referenceLibs))
      (InterfaceCall.pool connectedController racers)
      (beforeAnnouncing ++ [.camera]))).length = 1 := by
  decide +kernel

end Qmedia.Analysis
