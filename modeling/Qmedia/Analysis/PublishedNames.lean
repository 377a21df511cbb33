import Qmedia.Library.GroupCounter
import Qmedia.Model.PublicationDelegate
import Qmedia.Model.Reference

/-!
# The names of one publication

The two counters of a `PublicationDelegate` are a two-level counter that every
non-empty call on a session moves on by one tick, whether or not the encryption or the
sending then fails. So the names a run uses, and the pairs it calls
`sframe_context->protect` with, are the images of the counter's values
(`protectCalls_eq`), and a pair is used twice exactly if the counter comes round. The
object id has 16 bits and nothing guards it: a group of 65536 objects after its start
reuses a pair.
-/

set_option autoImplicit false

namespace Qmedia.Analysis

open Qmedia.Library Qmedia.Model Qmedia.Model.PublicationDelegate

variable {Suite Ctx Namespace : Type} [DecidableEq Namespace]
variable (L : Libs Suite Ctx Namespace)

/-! ## One call -/

omit [DecidableEq Namespace] in
/-- The two counters as one two-level counter. -/
def counters (d : PublicationDelegate Suite Ctx Namespace) : BitVec 32 × BitVec 16 :=
  (d.groupId, d.objectId)

omit [DecidableEq Namespace] in
/-- The name of an object by the publication's namespace and the counters after the
call. -/
def nameAt (ns : Namespace) (c : BitVec 32 × BitVec 16) : Name :=
  objectName (L.nameOf ns) c.1 c.2

omit [DecidableEq Namespace] in
/-- The namespace that selects the key, and the counter, for an object. -/
def protectKey (quicrName : Name) : Namespace × Counter :=
  (L.namespaceOf quicrName quicrSFrameSigBits, bits 64 quicrName 0 48)

omit [DecidableEq Namespace] in
/-- The next name is that of the counters after one tick. -/
theorem nextName_eq (d : PublicationDelegate Suite Ctx Namespace) (groupFlag : Bool) :
    d.nextName L groupFlag =
      (nameAt L d.quicrNamespace (wrappedTick (counters d) groupFlag),
        { d with
          groupId := (wrappedTick (counters d) groupFlag).1
          objectId := (wrappedTick (counters d) groupFlag).2 }) := by
  unfold nextName nameAt wrappedTick counters
  cases groupFlag with
  | true => simp only [if_true, groupStartName_eq]
  | false => rfl

/-- A call without data returns at once. -/
theorem publishStep_empty (d : PublicationDelegate Suite Ctx Namespace) {x : PublishCall}
    (hx : x.data = []) : publishStep L d x = (.ok ⟨none, none⟩, d) := by
  unfold publishStep publishNamedObject
  rw [if_pos hx]

/-- With no expiry times the first one is read out of bounds. -/
theorem publishStep_fault (d : PublicationDelegate Suite Ctx Namespace) {x : PublishCall}
    (hx : x.data ≠ []) (hd : d.expiry = []) : publishStep L d x = (.error .outOfBounds, d) := by
  unfold publishStep publishNamedObject
  rw [if_neg hx, if_neg (by decide), hd]

/-- The object of a call: its name, and what `encryptObject` makes of it. -/
theorem publishStep_ok (d : PublicationDelegate Suite Ctx Namespace) {x : PublishCall}
    {e : BitVec 16} {es : List (BitVec 16)} (hx : x.data ≠ []) (hd : d.expiry = e :: es)
    {c : BitVec 32 × BitVec 16} (hc : wrappedTick (counters d) x.groupFlag = c)
    {pair : Option (Namespace × Counter)} {toPublish : Option (Bytes × Trace)}
    {sframeContext : Option (QSFrameContext Suite Ctx Namespace)}
    (hr : encryptObject L d.sframeContext (nameAt L d.quicrNamespace c) x.data x.trace =
      (pair, toPublish, sframeContext)) :
    publishStep L d x =
      (.ok ⟨pair, toPublish.map fun p => ⟨nameAt L d.quicrNamespace c,
          if x.groupFlag then d.firstPriority else d.secondPriority,
          if x.groupFlag then e else es.headD e, p.1, p.2⟩⟩,
        { d with groupId := c.1, objectId := c.2, sframeContext := sframeContext }) := by
  unfold publishStep publishNamedObject
  rw [if_neg hx, if_neg (by decide), hd, nextName_eq, hc]
  simp only [hr]
  rw [hd]

/-- **One call.** A call on a delegate does nothing, reads out of bounds, or handles an
object under the next name. -/
theorem publishNamedObject_delegate_cases (d : PublicationDelegate Suite Ctx Namespace)
    (client : Bool) (data : Bytes) (groupFlag : Bool) (trace : Trace) :
    d.publishNamedObject L client data groupFlag trace = (.ok ⟨none, none⟩, d) ∨
    d.publishNamedObject L client data groupFlag trace = (.error .outOfBounds, d) ∨
    ∃ name pri exp, name = nameAt L d.quicrNamespace (wrappedTick (counters d) groupFlag) ∧
      d.publishNamedObject L client data groupFlag trace =
        (.ok ⟨(encryptObject L d.sframeContext name data trace).1,
            (encryptObject L d.sframeContext name data trace).2.1.map
              fun p => ⟨name, pri, exp, p.1, p.2⟩⟩,
          { d with
            groupId := (wrappedTick (counters d) groupFlag).1
            objectId := (wrappedTick (counters d) groupFlag).2
            sframeContext := (encryptObject L d.sframeContext name data trace).2.2 }) := by
  cases client with
  | false =>
      left
      unfold publishNamedObject
      simp only [Bool.not_false, if_true, ite_self]
  | true =>
      have hcall : d.publishNamedObject L true data groupFlag trace =
          publishStep L d ⟨data, groupFlag, trace⟩ := rfl
      rw [hcall]
      by_cases hdata : data = []
      · exact Or.inl (publishStep_empty L d hdata)
      · by_cases hexp : d.expiry = []
        · exact Or.inr (Or.inl (publishStep_fault L d hdata hexp))
        · obtain ⟨e, es, he⟩ := List.exists_cons_of_ne_nil hexp
          have hok := publishStep_ok L d (x := ⟨data, groupFlag, trace⟩) hdata he rfl rfl
          exact Or.inr (Or.inr ⟨_, _, _, rfl, hok⟩)

/-- The key and counter of an object come from its name. -/
theorem encryptObject_pair (sframeContext : Option (QSFrameContext Suite Ctx Namespace))
    (quicrName : Name) (data : Bytes) (trace : Trace) :
    (encryptObject L sframeContext quicrName data trace).1 =
      sframeContext.map (fun _ => protectKey L quicrName) := by
  unfold encryptObject
  cases sframeContext with
  | none => rfl
  | some c => rfl

/-- An object is encrypted exactly if there is an SFrame context. -/
theorem encryptObject_isSome (sframeContext : Option (QSFrameContext Suite Ctx Namespace))
    (quicrName : Name) (data : Bytes) (trace : Trace) :
    (encryptObject L sframeContext quicrName data trace).2.2.isSome = sframeContext.isSome := by
  unfold encryptObject
  cases sframeContext with
  | none => rfl
  | some c => rfl

/-- A call with data moves the counters on by one tick and leaves the parameters of the
delegate alone, encrypting or not, failing or not. -/
theorem publishStep_next (d : PublicationDelegate Suite Ctx Namespace) {x : PublishCall}
    (hx : x.data ≠ []) (hd : d.expiry ≠ []) :
    counters (publishStep L d x).2 = wrappedTick (counters d) x.groupFlag ∧
      (publishStep L d x).2.quicrNamespace = d.quicrNamespace ∧
      (publishStep L d x).2.expiry = d.expiry ∧
      (publishStep L d x).2.sframeContext.isSome = d.sframeContext.isSome := by
  obtain ⟨e, es, he⟩ := List.exists_cons_of_ne_nil hd
  rw [publishStep_ok L d hx he rfl rfl]
  exact ⟨rfl, rfl, rfl, encryptObject_isSome L _ _ _ _⟩

/-- The pair a call reaches `protect` with, if it does. -/
def protectedPair (r : Except Fault (PublishEffect Namespace)) : Option (Namespace × Counter) :=
  r.toOption.bind PublishEffect.protectCall

/-- The object a call hands to the client, if it does. -/
def sentObject (r : Except Fault (PublishEffect Namespace)) : Option Datagram :=
  r.toOption.bind PublishEffect.sent

/-- An encrypting call reaches `protect` before it can fail. -/
theorem publishStep_protectedPair (d : PublicationDelegate Suite Ctx Namespace) {x : PublishCall}
    (hx : x.data ≠ []) (hd : d.expiry ≠ []) (hc : d.sframeContext.isSome) :
    protectedPair (publishStep L d x).1 = some (protectKey L
      (nameAt L d.quicrNamespace (wrappedTick (counters d) x.groupFlag))) := by
  obtain ⟨e, es, he⟩ := List.exists_cons_of_ne_nil hd
  obtain ⟨c, hc⟩ := Option.isSome_iff_exists.mp hc
  rw [publishStep_ok L d hx he rfl rfl]
  show (encryptObject L d.sframeContext _ _ _).1 = _
  rw [encryptObject_pair, hc]
  rfl

/-- An object is sent under the name of the counters after the call. -/
theorem publishStep_sentObject (d : PublicationDelegate Suite Ctx Namespace) {x : PublishCall}
    (hx : x.data ≠ []) (hd : d.expiry ≠ []) {sent : Datagram}
    (hsent : sentObject (publishStep L d x).1 = some sent) :
    sent.quicrName = nameAt L d.quicrNamespace (wrappedTick (counters d) x.groupFlag) := by
  obtain ⟨e, es, he⟩ := List.exists_cons_of_ne_nil hd
  rw [publishStep_ok L d hx he rfl rfl] at hsent
  obtain ⟨p, -, rfl⟩ := Option.map_eq_some_iff.mp hsent
  rfl

/-! ## Runs -/

/-- The pairs the calls of a run reach `protect` with, in order. -/
def protectCalls (d : PublicationDelegate Suite Ctx Namespace) (calls : List PublishCall) :
    List (Namespace × Counter) :=
  (outputs (publishStep L) d calls).filterMap protectedPair

/-- The objects the calls of a run hand to the client, in order. -/
def sentObjects (d : PublicationDelegate Suite Ctx Namespace) (calls : List PublishCall) :
    List Datagram :=
  (outputs (publishStep L) d calls).filterMap sentObject

omit [DecidableEq Namespace] in
/-- The names of a run of non-empty calls. -/
def namesOf (d : PublicationDelegate Suite Ctx Namespace) (calls : List PublishCall) : List Name :=
  (values wrappedTick (counters d) (calls.map PublishCall.groupFlag)).map
    (nameAt L d.quicrNamespace)

/-- Without expiry times no call gets as far as `protect` or the client. -/
theorem run_of_no_expiry (d : PublicationDelegate Suite Ctx Namespace) (calls : List PublishCall)
    (hd : d.expiry = []) : protectCalls L d calls = [] ∧ sentObjects L d calls = [] := by
  unfold protectCalls sentObjects
  induction calls with
  | nil => exact ⟨rfl, rfl⟩
  | cons x calls ih =>
      rw [outputs_cons]
      by_cases hx : x.data = []
      · rw [publishStep_empty L d hx]
        exact ih
      · rw [publishStep_fault L d hx hd]
        exact ih

/-- The calls of an encrypting run reach `protect` with the keys of the run's names. -/
theorem protectCalls_eq (d : PublicationDelegate Suite Ctx Namespace) (calls : List PublishCall)
    (hcalls : ∀ x ∈ calls, x.data ≠ []) (hd : d.expiry ≠ []) (hc : d.sframeContext.isSome) :
    protectCalls L d calls = (namesOf L d calls).map (protectKey L) := by
  unfold protectCalls namesOf
  induction calls generalizing d with
  | nil => rfl
  | cons x calls ih =>
      have hx := hcalls x (List.mem_cons_self ..)
      obtain ⟨hcount, hns, hexp, hsome⟩ := publishStep_next L d hx hd
      have hrest := ih (publishStep L d x).2 (fun y hy => hcalls y (List.mem_cons_of_mem x hy))
        (by rw [hexp]; exact hd) (by rw [hsome]; exact hc)
      rw [outputs_cons, List.filterMap_cons_some (publishStep_protectedPair L d hx hd hc), hrest,
        hcount, hns]
      rfl

/-- The objects sent are named by a part of the run's names. -/
theorem sentObjects_sublist (d : PublicationDelegate Suite Ctx Namespace)
    (calls : List PublishCall) (hcalls : ∀ x ∈ calls, x.data ≠ []) (hd : d.expiry ≠ []) :
    ((sentObjects L d calls).map Datagram.quicrName).Sublist (namesOf L d calls) := by
  unfold sentObjects namesOf
  induction calls generalizing d with
  | nil => exact List.Sublist.slnil
  | cons x calls ih =>
      have hx := hcalls x (List.mem_cons_self ..)
      obtain ⟨hcount, hns, hexp, -⟩ := publishStep_next L d hx hd
      have hrest := ih (publishStep L d x).2 (fun y hy => hcalls y (List.mem_cons_of_mem x hy))
        (by rw [hexp]; exact hd)
      rw [hcount, hns] at hrest
      rw [outputs_cons, List.map_cons, values_cons, List.map_cons]
      cases hsent : sentObject (publishStep L d x).1 with
      | none =>
          rw [List.filterMap_cons_none hsent]
          exact hrest.cons _
      | some sent =>
          rw [List.filterMap_cons_some hsent, List.map_cons,
            publishStep_sentObject L d hx hd hsent]
          exact hrest.cons_cons _

/-- The calls that have data. -/
def withData (calls : List PublishCall) : List PublishCall :=
  calls.filter fun x => x.data ≠ []

/-- Only the calls with data are kept. -/
theorem data_of_mem_withData {calls : List PublishCall} {x : PublishCall}
    (hx : x ∈ withData calls) : x.data ≠ [] :=
  of_decide_eq_true (List.mem_filter.mp hx).2

/-- The other calls leave no trace in a run. -/
theorem run_withData (d : PublicationDelegate Suite Ctx Namespace) (calls : List PublishCall) :
    protectCalls L d calls = protectCalls L d (withData calls) ∧
      sentObjects L d calls = sentObjects L d (withData calls) := by
  unfold protectCalls sentObjects withData
  induction calls generalizing d with
  | nil => exact ⟨rfl, rfl⟩
  | cons x calls ih =>
      by_cases hx : x.data = []
      · rw [outputs_cons, publishStep_empty L d hx, List.filter_cons_of_neg (by simp [hx])]
        exact ih d
      · obtain ⟨hpairs, hsent⟩ := ih (publishStep L d x).2
        rw [List.filter_cons_of_pos (by simp [hx]), outputs_cons, outputs_cons,
          List.filterMap_cons, List.filterMap_cons, List.filterMap_cons, List.filterMap_cons, hpairs,
          hsent]
        exact ⟨rfl, rfl⟩

/-! ## No pair twice -/

/-- The positions of the objects of a run: groups started so far, and objects in the
group after its start. -/
def objectPositions (calls : List PublishCall) : List (ℕ × ℕ) :=
  values tick (0, 0) (calls.map PublishCall.groupFlag)

/-- At most 65535 objects in each group after its start, and at most 65536 before the
first group is started. -/
def GroupsFit (calls : List PublishCall) : Prop := ∀ p ∈ objectPositions calls, FitsWord 16 p

omit [DecidableEq Namespace] in
/-- The names at a list of counters differ exactly if the counters do. -/
theorem nodup_map_nameAt (ns : Namespace) (cs : List (BitVec 32 × BitVec 16)) :
    (cs.map (nameAt L ns)).Nodup ↔ cs.Nodup := by
  refine List.nodup_map_iff ?_
  intro c c' h
  obtain ⟨h1, h2⟩ := (objectName_inj _ _ _ _ _).mp h
  exact Prod.ext h1 h2

omit [DecidableEq Namespace] in
/-- So do the key and counter that the objects at them are protected with. -/
theorem nodup_map_protectKey (ns : Namespace) (cs : List (BitVec 32 × BitVec 16)) :
    ((cs.map (nameAt L ns)).map (protectKey L)).Nodup ↔ cs.Nodup := by
  rw [List.map_map]
  refine List.nodup_map_iff ?_
  intro c c' h
  obtain ⟨h1, h2⟩ := (bits_counter_objectName_inj _ _ _ _ _).mp (congrArg Prod.snd h)
  exact Prod.ext h1 h2

/-- The calls that start a group. -/
theorem count_groupFlag (calls : List PublishCall) :
    (calls.map PublishCall.groupFlag).count true = calls.countP PublishCall.groupFlag := by
  rw [List.count, List.countP_map]
  simp [Function.comp_def]

/-- The counters of a run are its positions, wrapped to their widths. -/
theorem values_counters (groupId : BitVec 32) (calls : List PublishCall) :
    values wrappedTick (groupId, (0 : BitVec 16)) (calls.map PublishCall.groupFlag) =
      (objectPositions calls).map (wrap groupId) := by
  have hstart : (groupId, (0 : BitVec 16)) = wrap groupId (0, 0) := by simp [wrap]
  rw [hstart, values_wrappedTick]
  rfl

section Created

variable (suite : Suite) (qDelegate : Ref) (sourceId : SourceId) (ns : Namespace)
  (originUrl authToken : String) (payload : Bytes) (priority : List (BitVec 8))
  (expiry : List (BitVec 16)) (time : BitVec 64)

/-- The counter values of a new delegate's run. -/
theorem nodup_values_iff (calls : List PublishCall)
    (hstarts : calls.countP PublishCall.groupFlag < 2 ^ 32) (groupId : BitVec 32) :
    (values wrappedTick (groupId, (0 : BitVec 16)) (calls.map PublishCall.groupFlag)).Nodup ↔
      GroupsFit calls := by
  rw [values_counters]
  exact nodup_wrap_iff groupId _ (by rw [count_groupFlag]; exact hstarts)

/-- **No pair twice.** A run of an encrypting delegate with fewer than `2^32` group
starts reaches `protect` with pairwise different pairs and sends pairwise different
names if its groups fit the object id, and, where the calls do not fault, only then.
SOURCE: src/QuicrDelegates.cpp:363-460 -/
theorem nodup_protectCalls_iff_groupsFit (calls : List PublishCall)
    (hcalls : ∀ x ∈ calls, x.data ≠ [])
    (hstarts : calls.countP PublishCall.groupFlag < 2 ^ 32) :
    (GroupsFit calls →
      (protectCalls L (create L.toSFrame qDelegate sourceId ns originUrl authToken payload priority
        expiry (some suite) time) calls).Nodup ∧
      ((sentObjects L (create L.toSFrame qDelegate sourceId ns originUrl authToken payload priority
        expiry (some suite) time) calls).map Datagram.quicrName).Nodup) ∧
    (expiry ≠ [] →
      (protectCalls L (create L.toSFrame qDelegate sourceId ns originUrl authToken payload priority
        expiry (some suite) time) calls).Nodup → GroupsFit calls) := by
  have hpairs := protectCalls_eq L (create L.toSFrame qDelegate sourceId ns originUrl authToken
    payload priority expiry (some suite) time) calls hcalls
  have hvalues := nodup_values_iff calls hstarts (time.setWidth 32)
  constructor
  · intro hfit
    by_cases hexp : expiry = []
    · obtain ⟨hp, hs⟩ := run_of_no_expiry L (create L.toSFrame qDelegate sourceId ns originUrl
        authToken payload priority expiry (some suite) time) calls hexp
      rw [hp, hs]
      exact ⟨List.nodup_nil, List.nodup_nil⟩
    · have hnames := (nodup_map_nameAt L ns _).mpr (hvalues.mpr hfit)
      rw [hpairs hexp rfl]
      exact ⟨(nodup_map_protectKey L ns _).mpr (hvalues.mpr hfit),
        hnames.sublist (sentObjects_sublist L _ calls hcalls hexp)⟩
  · intro hexp hnodup
    rw [hpairs hexp rfl] at hnodup
    exact hvalues.mp ((nodup_map_protectKey L ns _).mp hnodup)

end Created

/-! ## A group too long for the object id -/

/-- A publication in a namespace of the manifest tests. -/
def mediaPublisher : PublicationDelegate CipherSuite KeyRing Prefix :=
  create referenceSFrame 1 "80a6ac22" mediaNamespace "" "" [] [1, 2] [500, 500]
    (some .aesGcm128Sha256) 1700000000

/-- One media frame inside a group. -/
def frame : PublishCall where
  data := [0x2a]
  groupFlag := false
  trace := ⟨⟨"qController:publishNamedObject", 0⟩, []⟩

/-- Three objects of one group. -/
theorem nodup_protectCalls_frames :
    (GroupsFit (List.replicate 3 frame) →
      (protectCalls referenceLibs mediaPublisher (List.replicate 3 frame)).Nodup ∧
      ((sentObjects referenceLibs mediaPublisher (List.replicate 3 frame)).map
        Datagram.quicrName).Nodup) ∧
    (([500, 500] : List (BitVec 16)) ≠ [] →
      (protectCalls referenceLibs mediaPublisher (List.replicate 3 frame)).Nodup →
        GroupsFit (List.replicate 3 frame)) :=
  nodup_protectCalls_iff_groupsFit referenceLibs .aesGcm128Sha256 1 "80a6ac22" mediaNamespace "" ""
    [] [1, 2] [500, 500] 1700000000 (List.replicate 3 frame) (by decide) (by decide)

/-- The first frame of a group. -/
def groupStart : PublishCall := { frame with groupFlag := true }

/-- 65537 frames in a row: the last one is protected under the pair of the first one. So
is one of `2^32 + 1` group starts. -/
theorem frames_reuse_pair :
    ¬ (protectCalls referenceLibs mediaPublisher (List.replicate 65537 frame)).Nodup ∧
      ¬ (protectCalls referenceLibs mediaPublisher
        (List.replicate (2 ^ 32 + 1) groupStart)).Nodup := by
  have hdata {x : PublishCall} (hx : x.data ≠ []) (n : ℕ) :
      ∀ y ∈ List.replicate n x, y.data ≠ [] := by
    intro y hy
    rwa [List.eq_of_mem_replicate hy]
  have hpairs (x : PublishCall) (hx : x.data ≠ []) (n : ℕ) :=
    protectCalls_eq referenceLibs mediaPublisher (List.replicate n x) (hdata hx n) (by decide) rfl
  constructor
  · rw [hpairs frame (by decide)]
    intro hnodup
    have hcount : (List.replicate 65537 frame).countP PublishCall.groupFlag < 2 ^ 32 := by
      rw [List.countP_replicate]
      decide
    have hfit := (nodup_values_iff _ hcount _).mp
      ((nodup_map_protectKey referenceLibs _ _).mp hnodup)
    have hlast : (0, 65537) ∈ objectPositions (List.replicate 65537 frame) := by
      unfold objectPositions
      rw [List.map_replicate]
      exact mem_values_replicate 0 0 65536
    exact absurd (hfit (0, 65537) hlast) (by decide)
  · rw [hpairs groupStart (by decide)]
    intro hnodup
    have hvalues := (nodup_map_protectKey referenceLibs _ _).mp hnodup
    refine not_nodup_wrap (b := 16) mediaPublisher.groupId
      ((List.replicate (2 ^ 32 + 1) groupStart).map PublishCall.groupFlag) ?_ ?_
    · rw [List.map_replicate, List.count_replicate, if_pos (by decide)]
      exact Nat.lt_succ_self _
    · exact (values_counters _ _) ▸ hvalues

end Qmedia.Analysis
