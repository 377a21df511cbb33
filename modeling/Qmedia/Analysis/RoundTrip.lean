import Qmedia.Analysis.PublishedNames
import Qmedia.Analysis.RejectedObjects

/-!
# From the publisher to the application

The two delegates are separate code that meets in one predicate: an object is
`Genuine` for a published record if its name carries the record's group and object ids
and its bytes are what the receiver can open. Every object a publisher sends is genuine
(`published_genuine`), because its SFrame context only ever uses the fixed epoch; and a
receiver that has seen nothing but genuine objects forwards each of them, in any order
and any number of times, because then every 80-bit namespace is owned by the fixed
epoch or free.
-/

set_option autoImplicit false

namespace Qmedia.Analysis

open Qmedia.Library Qmedia.Model Qmedia.Model.PublicationDelegate

/-- A published object: the name and bytes on the wire, the payload of the call that
produced it, and the publisher's counters right after that call. -/
structure Published where
  quicrName : Name
  data : Bytes
  payload : Bytes
  groupId : BitVec 32
  objectId : BitVec 16
deriving DecidableEq, Repr

/-- What arrives at a receiver. -/
def Published.received (p : Published) : Received := ⟨p.quicrName, p.data⟩

/-- The call that the receiving delegate of `ns` is to make for a published object. -/
def Published.forwarded {Namespace : Type} (ns : Namespace) (p : Published) :
    Forwarded Namespace :=
  ⟨ns, p.payload, p.groupId, p.objectId⟩

section Runs

variable {Suite Ctx Namespace : Type} [DecidableEq Namespace]
variable (L : Libs Suite Ctx Namespace)

/-- One call of a publishing delegate, with the record of the object it sends. -/
def publishRecord (d : PublicationDelegate Suite Ctx Namespace) (x : PublishCall) :
    Option Published × PublicationDelegate Suite Ctx Namespace :=
  let (result, d) := publishStep L d x
  ((sentObject result).map fun sent =>
    ⟨sent.quicrName, sent.data, x.data, d.groupId, d.objectId⟩, d)

/-- The objects a run sends, in order. -/
def published (d : PublicationDelegate Suite Ctx Namespace) (calls : List PublishCall) :
    List Published :=
  (outputs (publishRecord L) d calls).filterMap id

end Runs

/-! ## The publisher's half -/

section Publisher

variable {Suite Ctx Namespace : Type} [DecidableEq Namespace]
variable (L : Libs Suite Ctx Namespace)

omit [DecidableEq Namespace] in
/-- The wire bytes of `payload` under a name: the payload itself, or the epoch and a
ciphertext that the fixed epoch's key for the name's 80-bit namespace produced. -/
def WireBytes (cipherSuite : Option Suite) (quicrName : Name) (payload data : Bytes) : Prop :=
  match cipherSuite with
  | none => data = payload
  | some suite => ∃ ciphertext,
      L.protect (keyedContext L suite fixedEpoch (L.namespaceOf quicrName quicrSFrameSigBits))
        ⟨fixedEpoch, bits 64 quicrName 0 48⟩ (payload.length + 16) payload = some ciphertext ∧
      data = L.writeVarInt fixedEpoch ++ ciphertext

omit [DecidableEq Namespace] in
/-- The predicate both delegates meet in. -/
structure Genuine (cipherSuite : Option Suite) (p : Published) : Prop where
  groupId_eq : bits 32 p.quicrName 16 32 = p.groupId
  objectId_eq : bits 16 p.quicrName 0 16 = p.objectId
  payload_ne_nil : p.payload ≠ []
  wire : WireBytes L cipherSuite p.quicrName p.payload p.data

/-- A lock that no epoch but the fixed one has written. -/
def FixedOnly (owner : Namespace → Option Epoch) : Prop :=
  ∀ ns, owner ns = none ∨ owner ns = some fixedEpoch

/-- The fixed epoch locks a namespace to itself. -/
theorem FixedOnly.latch {owner : Namespace → Option Epoch} (h : FixedOnly owner)
    (ns : Namespace) :
    FixedOnly (Library.latch owner ns fixedEpoch) ∧
      Library.latch owner ns fixedEpoch ns = some fixedEpoch := by
  have hself : Library.latch owner ns fixedEpoch ns = some fixedEpoch := by
    rw [latch_self]
    rcases h ns with hns | hns
    · rw [hns]
      rfl
    · rw [hns]
      rfl
  refine ⟨fun ns' => ?_, hself⟩
  by_cases hns : ns' = ns
  · subst hns
    exact Or.inr hself
  · rw [latch_of_ne owner fixedEpoch hns]
    exact h ns'

/-- The SFrame context of a publisher: as built, and used only under the fixed epoch. -/
def PublisherContext (cipherSuite : Option Suite)
    (sframeContext : Option (QSFrameContext Suite Ctx Namespace)) : Prop :=
  match cipherSuite with
  | none => sframeContext = none
  | some suite => ∃ c owner, sframeContext = some c ∧ ContextLocked L suite c owner ∧
      FixedOnly owner ∧ c.currentEpoch = some fixedEpoch

/-- A new SFrame context is a publisher's. -/
theorem newSFrameContext_publisherContext (cipherSuite : Option Suite) :
    PublisherContext L cipherSuite (newSFrameContext L.toSFrame cipherSuite) := by
  unfold PublisherContext
  cases cipherSuite with
  | none => rfl
  | some suite =>
      obtain ⟨hlock, hcur⟩ := newSFrameContext_locked L suite _ rfl
      exact ⟨_, _, rfl, hlock, fun _ => Or.inl rfl, hcur⟩

variable (hkeys : L.KeyLaws) (hidem : L.AddKeyIdem)
include hkeys hidem

/-- Encrypting an object produces its wire bytes and keeps the context as it should be. -/
theorem encryptObject_wire (cipherSuite : Option Suite)
    (sframeContext : Option (QSFrameContext Suite Ctx Namespace))
    (h : PublisherContext L cipherSuite sframeContext) (quicrName : Name) (data : Bytes)
    (trace : Trace) :
    (∀ p, (encryptObject L sframeContext quicrName data trace).2.1 = some p →
        WireBytes L cipherSuite quicrName data p.1) ∧
      PublisherContext L cipherSuite (encryptObject L sframeContext quicrName data trace).2.2 := by
  unfold PublisherContext WireBytes at *
  cases cipherSuite with
  | none =>
      subst h
      refine ⟨fun p hp => ?_, rfl⟩
      obtain rfl := Option.some.inj hp
      rfl
  | some suite =>
      obtain ⟨c, owner, rfl, hlock, hfixed, hcur⟩ := h
      obtain ⟨hfixed', hself⟩ := hfixed.latch (L.namespaceOf quicrName quicrSFrameSigBits)
      obtain ⟨hres, hlock', hcur'⟩ := protect_locked L suite hkeys hidem hlock hcur
        (L.namespaceOf quicrName quicrSFrameSigBits) hself (bits 64 quicrName 0 48)
        (data.length + 16) data
      refine ⟨fun p hp => ?_, _, _, rfl, hlock', hfixed', hcur'⟩
      obtain ⟨ciphertext, hciphertext, rfl⟩ := Option.map_eq_some_iff.mp hp
      exact ⟨ciphertext, hres ▸ hciphertext, rfl⟩

/-- One call sends a genuine object or none. -/
theorem publishRecord_genuine (cipherSuite : Option Suite)
    (d : PublicationDelegate Suite Ctx Namespace)
    (h : PublisherContext L cipherSuite d.sframeContext) (x : PublishCall) :
    (∀ p, (publishRecord L d x).1 = some p → Genuine L cipherSuite p) ∧
      PublisherContext L cipherSuite (publishRecord L d x).2.sframeContext := by
  unfold publishRecord
  by_cases hx : x.data = []
  · rw [publishStep_empty L d hx]
    exact ⟨fun p hp => (by cases hp), h⟩
  · cases hd : d.expiry with
    | nil =>
        rw [publishStep_fault L d hx hd]
        exact ⟨fun p hp => (by cases hp), h⟩
    | cons e es =>
        obtain ⟨hwire, hnext⟩ := encryptObject_wire L hkeys hidem cipherSuite d.sframeContext h
          (nameAt L d.quicrNamespace (wrappedTick (counters d) x.groupFlag)) x.data x.trace
        rw [publishStep_ok L d hx hd rfl rfl]
        refine ⟨fun p hp => ?_, hnext⟩
        obtain ⟨sent, hsent, rfl⟩ := Option.map_eq_some_iff.mp hp
        obtain ⟨q, hq, rfl⟩ := Option.map_eq_some_iff.mp hsent
        exact ⟨bits_group_objectName _ _ _, bits_object_objectName _ _ _, hx, hwire q hq⟩

/-- **Publisher.** Every object a run sends is genuine. -/
theorem published_genuine (cipherSuite : Option Suite)
    (d : PublicationDelegate Suite Ctx Namespace)
    (h : PublisherContext L cipherSuite d.sframeContext) (calls : List PublishCall) :
    ∀ p ∈ published L d calls, Genuine L cipherSuite p := by
  unfold published
  induction calls generalizing d with
  | nil => simp
  | cons x calls ih =>
      obtain ⟨hgenuine, hnext⟩ := publishRecord_genuine L hkeys hidem cipherSuite d h x
      intro p hp
      rw [outputs_cons, List.filterMap_cons] at hp
      cases hx : (publishRecord L d x).1 with
      | none =>
          rw [hx] at hp
          exact ih _ hnext p hp
      | some q =>
          rw [hx] at hp
          rcases List.mem_cons.mp hp with rfl | hp
          · exact hgenuine p hx
          · exact ih _ hnext p hp

end Publisher

/-! ## The receiver's half -/

section Receiver

variable {Suite Ctx Namespace : Type} [DecidableEq Namespace]
variable (L : Libs Suite Ctx Namespace)

/-- A genuine encrypted object on a lock of the fixed epoch is forwarded. -/
theorem lockStep_genuine (suite : Suite) (hround : L.RoundTrip) (hvar : L.VarIntLaws)
    (dns : Namespace) (owner : Namespace → Option Epoch) (hfixed : FixedOnly owner)
    (p : Published) (hp : Genuine L (some suite) p) :
    (lockStep L suite dns owner p.received).1 = some (p.forwarded dns) ∧
      FixedOnly (lockStep L suite dns owner p.received).2 := by
  obtain ⟨ciphertext, hprotect, hdata⟩ := hp.wire
  have hread : L.readVarInt p.received.data = some (fixedEpoch, ciphertext) := by
    show L.readVarInt p.data = _
    rw [hdata]
    exact hvar.read_write ciphertext
  have hne : p.received.data ≠ [] := by
    show p.data ≠ []
    rw [hdata]
    intro h
    exact hvar.write_ne_nil (List.append_eq_nil_iff.mp h).1
  have haddr : addressed L p.received =
      some (L.namespaceOf p.quicrName quicrSFrameSigBits, fixedEpoch) := by
    unfold addressed
    rw [if_neg hne, hread]
    rfl
  have hopen : opened L suite p.received = some p.payload := by
    unfold opened
    rw [hread]
    exact hround _ _ _ _ _ _ hprotect (le_refl _)
  obtain ⟨hfixed', hself⟩ := hfixed.latch (L.namespaceOf p.quicrName quicrSFrameSigBits)
  rw [lockStep_some L suite dns owner haddr, if_pos hself]
  refine ⟨?_, hfixed'⟩
  unfold forwardOf
  rw [hopen]
  show some (Forwarded.mk dns p.payload (bits 32 p.quicrName 16 32) (bits 16 p.quicrName 0 16)) = _
  rw [hp.groupId_eq, hp.objectId_eq]
  rfl

/-- A genuine object in the clear is forwarded. -/
theorem receiveStep_clear (d : SubscriptionDelegate Suite Ctx Namespace)
    (hd : d.sframeContext = none) (p : Published) (hp : Genuine L none p) :
    (receiveStep L d p.received).1 = some (p.forwarded d.quicrNamespace) ∧
      (receiveStep L d p.received).2.quicrNamespace = d.quicrNamespace ∧
      (receiveStep L d p.received).2.sframeContext = none := by
  have hdata : p.received.data = p.payload := hp.wire
  have hne : p.received.data ≠ [] := by
    rw [hdata]
    exact hp.payload_ne_nil
  unfold receiveStep SubscriptionDelegate.onSubscribedObject
  rw [if_neg hne]
  simp only [countObject_sframeContext, countObject_quicrNamespace, hd, hdata, and_self, and_true]
  show some (Forwarded.mk d.quicrNamespace p.payload (bits 32 p.quicrName 16 32)
    (bits 16 p.quicrName 0 16)) = _
  rw [hp.groupId_eq, hp.objectId_eq]
  rfl

end Receiver

/-! ## Both halves -/

section RoundTrip

variable {Suite Ctx Namespace : Type} [DecidableEq Namespace]
variable (L : Libs Suite Ctx Namespace)

/-- **Round trip.** Whatever a publisher's calls send, delivered in any order, with any
loss and any duplication, is forwarded once for each delivery, with the payload of the
call and the publisher's counters after it.
SOURCE: src/QuicrDelegates.cpp:114-213, src/QuicrDelegates.cpp:363-460 -/
theorem delivered_forwarded (hkeys : L.KeyLaws) (hreq : L.KeyRequired) (hidem : L.AddKeyIdem)
    (hround : L.RoundTrip) (hvar : L.VarIntLaws) (cipherSuite : Option Suite)
    -- the publisher
    (qDelegate : Ref) (sourceId : SourceId) (ns : Namespace) (originUrl authToken : String)
    (payload : Bytes) (priority : List (BitVec 8)) (expiry : List (BitVec 16)) (time : BitVec 64)
    -- the subscriber
    (qDelegate' : Ref) (sourceId' : SourceId) (ns' : Namespace) (intent : SubscribeIntent)
    (originUrl' authToken' : String) (e2eToken : Bytes) (uninitialised : LossCounters)
    (calls : List PublishCall) (delivered : List Published)
    (hdelivered : ∀ p ∈ delivered, p ∈ published L (create L.toSFrame qDelegate sourceId ns
      originUrl authToken payload priority expiry cipherSuite time) calls) :
    outputs (receiveStep L) (SubscriptionDelegate.create L.toSFrame sourceId' ns' intent originUrl'
        authToken' e2eToken qDelegate' cipherSuite uninitialised)
        (delivered.map Published.received) =
      delivered.map (fun p => some (p.forwarded ns')) := by
  have hgenuine (p : Published) (hp : p ∈ delivered) : Genuine L cipherSuite p :=
    published_genuine L hkeys hidem cipherSuite _
      (newSFrameContext_publisherContext L cipherSuite) calls p (hdelivered p hp)
  cases cipherSuite with
  | none =>
      refine outputs_eq_map (receiveStep L)
        (fun d => d.quicrNamespace = ns' ∧ d.sframeContext = none) _ _ delivered
        (fun d p hp hd => ?_) _ ⟨rfl, rfl⟩
      obtain ⟨rfl, hclear⟩ := hd
      exact receiveStep_clear L d hclear p (hgenuine p hp)
  | some suite =>
      refine outputs_eq_map (receiveStep L)
        (fun d => ∃ owner, ReceiverLocked L suite ns' d owner ∧ FixedOnly owner) _ _ delivered
        (fun d p hp hd => ?_) _
        ⟨_, create_receiverLocked L suite sourceId' ns' intent originUrl' authToken' e2eToken
          qDelegate' uninitialised, fun _ => Or.inl rfl⟩
      obtain ⟨owner, hlocked, hfixed⟩ := hd
      obtain ⟨hout, hlocked'⟩ := receiveStep_locked L suite hkeys hreq hidem ns' d owner p.received
        hlocked
      obtain ⟨hforward, hfixed'⟩ := lockStep_genuine L suite hround hvar ns' owner hfixed p
        (hgenuine p hp)
      exact ⟨hout.trans hforward, _, hlocked', hfixed'⟩

end RoundTrip

/-! ## A delivery on the reference dependencies -/

/-- Three calls of the publisher of `Qmedia.Analysis.PublishedNames`. -/
def threeFrames : List PublishCall :=
  [{ groupStart with data := [0x2a, 0x2b] }, frame, { groupStart with data := [0x2c] }]

/-- The last object first, the first one late, the second one lost, the last one again. -/
def delivery : List Published :=
  (published referenceLibs mediaPublisher threeFrames).drop 2 ++
    (published referenceLibs mediaPublisher threeFrames).take 1 ++
    (published referenceLibs mediaPublisher threeFrames).drop 2

/-- The delivery comes out of order and with a repeat, and all of it is forwarded. -/
theorem delivery_forwarded :
    delivery.map Published.payload = [[0x2c], [0x2a, 0x2b], [0x2c]] ∧
      outputs (receiveStep referenceLibs) mediaReceiver (delivery.map Published.received) =
        delivery.map (fun p => some (p.forwarded mediaNamespace)) := by
  refine ⟨by decide +kernel, ?_⟩
  refine delivered_forwarded referenceLibs referenceLibs_keyLaws referenceLibs_keyRequired
    referenceLibs_addKeyIdem referenceLibs_roundTrip referenceLibs_varIntLaws
    (some .aesGcm128Sha256) 1 "80a6ac22" mediaNamespace "" "" [] [1, 2] [500, 500] 1700000000
    1 "80a6ac22" mediaNamespace .syncUp "" "" [] ⟨0, 0, 0, 0⟩ threeFrames delivery ?_
  intro p hp
  rcases List.mem_append.mp hp with hp | hp
  · rcases List.mem_append.mp hp with hp | hp
    · exact List.mem_of_mem_drop hp
    · exact List.mem_of_mem_take hp
  · exact List.mem_of_mem_drop hp

end Qmedia.Analysis
