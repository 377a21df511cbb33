import Qmedia.Analysis.LossStatistics
import Qmedia.Analysis.NamespaceMembership

/-!
# The loss statistics of a perfect stream

A new subscription compares the first object with group 0 and object 65535. Either a group
is skipped and counted as lost, or the object id is not larger and the object is not
counted, so the statistics are wrong about every stream with an object in it
(`perfectStream_countedRight_iff`). For a publisher whose counters do not wrap the error is
always the same: one lost group too many, and the objects that start a group are missing
(`perfectStream_counts`).
-/

set_option autoImplicit false

namespace Qmedia.Analysis

open Qmedia.Library Qmedia.Model Qmedia.Model.PublicationDelegate

variable {Suite Ctx Namespace : Type} [DecidableEq Namespace]
variable (L : Libs Suite Ctx Namespace)

/-! ## The first object -/

/-- The statistics are right about a stream of which nothing is lost. -/
structure CountedRight (d : SubscriptionDelegate Suite Ctx Namespace) (xs : List Received) :
    Prop where
  groupGapCount : increase L LossCounters.groupGapCount d xs = 0
  objectGapCount : increase L LossCounters.objectGapCount d xs = 0
  groupCount : increase L LossCounters.groupCount d xs =
    (xs.map fun x => bits 32 x.quicrName 16 32).dedup.length
  objectCount : increase L LossCounters.objectCount d xs = xs.length

/-- An object id is a 16-bit number. -/
theorem snd_lt_of_countedIds {x : Received} {p : ℕ × ℕ} (h : countedIds x = some p) :
    p.2 < 2 ^ 16 := by
  unfold countedIds at h
  split at h
  · cases h
  · obtain rfl := Option.some.inj h
    exact (bits 16 x.quicrName 0 16).isLt

/-- The first object is not counted unless a group is counted as lost before it. -/
theorem countedRight_iff_nil {d : SubscriptionDelegate Suite Ctx Namespace}
    (hd : lastIds d = (0, 65535)) (xs : List Received) : CountedRight L d xs ↔ xs = [] := by
  constructor
  · intro h
    have hgap := h.groupGapCount
    have hcount := h.objectCount
    rw [increase_groupGapCount, hd] at hgap
    rw [increase_objectCount, hd] at hcount
    have hlength := List.length_filterMap_le countedIds xs
    cases hids : xs.filterMap countedIds with
    | nil =>
        rw [hids, pathSum_nil] at hcount
        exact List.length_eq_zero_iff.mp hcount.symm
    | cons p ps =>
        exfalso
        obtain ⟨x, -, hx⟩ := List.mem_filterMap.mp (hids ▸ List.mem_cons_self : p ∈ _)
        have hp := snd_lt_of_countedIds hx
        rw [hids, pathSum_cons] at hgap hcount
        rw [hids, List.length_cons] at hlength
        have hrest := pathSum_le_length objectCharge objectCharge_le_one p ps
        have hnogap : ¬ 0 + 1 < p.1 := by
          intro hskip
          simp [groupGapCharge, hskip] at hgap
        have hfirst : objectCharge (0, 65535) p = 0 := by
          unfold objectCharge comparedId
          rw [if_neg hnogap, if_neg (by omega)]
        omega
  · rintro rfl
    exact ⟨rfl, rfl, rfl, rfl⟩

/-- What arrives of an object that was sent. -/
def arrival (sent : Datagram) : Received := ⟨sent.quicrName, sent.data⟩

/-- **Perfect streams.** When the objects that a publisher sends, in any state and with any
calls, all reach a new subscription once each and in order, the statistics are right only
if there is no object.
SOURCE: src/QuicrDelegates.cpp:48-49, src/QuicrDelegates.cpp:125-155,
src/QuicrDelegates.cpp:386-399 -/
theorem perfectStream_countedRight_iff (publisher : PublicationDelegate Suite Ctx Namespace)
    (calls : List PublishCall) (sourceId : SourceId) (ns : Namespace) (intent : SubscribeIntent)
    (originUrl authToken : String) (e2eToken : Bytes) (qDelegate : Ref)
    (cipherSuite : Option Suite) (uninitialised : LossCounters) :
    CountedRight L (SubscriptionDelegate.create L.toSFrame sourceId ns intent originUrl authToken
        e2eToken qDelegate cipherSuite uninitialised)
        ((sentObjects L publisher calls).map arrival) ↔
      sentObjects L publisher calls = [] := by
  have hstart : lastIds (SubscriptionDelegate.create L.toSFrame sourceId ns intent originUrl
      authToken e2eToken qDelegate cipherSuite uninitialised) = (0, 65535) := rfl
  rw [countedRight_iff_nil L hstart, List.map_eq_nil_iff]

/-- Two frames that arrive as they were sent: one group is counted as lost, and only one of
the two objects is counted. -/
theorem twoFrames_miscounted :
    (finalState (receiveStep referenceLibs) mediaReceiver
        ((sentObjects referenceLibs mediaPublisher [groupStart, frame]).map arrival)).counters =
      ⟨1, 1, 1, 0⟩ ∧
    (sentObjects referenceLibs mediaPublisher [groupStart, frame]).length = 2 ∧
    ¬ CountedRight referenceLibs mediaReceiver
      ((sentObjects referenceLibs mediaPublisher [groupStart, frame]).map arrival) := by
  refine ⟨by decide +kernel, by decide +kernel, ?_⟩
  intro hright
  have hgap := hright.groupGapCount
  revert hgap
  decide +kernel

/-! ## What is counted -/

/-- Along consecutive positions a group is charged for each start and an object for each
step inside a group, and nothing is lost. -/
theorem pathSum_values (p : ℕ × ℕ) (flags : List Bool) :
    pathSum groupCharge p (values tick p flags) = flags.count true ∧
      pathSum objectCharge p (values tick p flags) = flags.count false ∧
      pathSum groupGapCharge p (values tick p flags) = 0 ∧
      pathSum objectGapCharge p (values tick p flags) = 0 := by
  induction flags generalizing p with
  | nil => exact ⟨rfl, rfl, rfl, rfl⟩
  | cons flag flags ih =>
      obtain ⟨hgroup, hobject, hgroupGap, hobjectGap⟩ := ih (tick p flag)
      simp only [values_cons, pathSum_cons, hgroup, hobject, hgroupGap, hobjectGap]
      cases flag with
      | true =>
          simp [tick, groupCharge, objectCharge, groupGapCharge, objectGapCharge, comparedId,
            Nat.add_comm]
      | false =>
          have hsame : ¬ p.1 + 1 < p.1 := by omega
          simp [tick, groupCharge, objectCharge, groupGapCharge, objectGapCharge, comparedId,
            hsame, Nat.add_comm]

/-- The ids of a run from a later group are those of the run, shifted. -/
theorem map_shift_values (g : ℕ) (p : ℕ × ℕ) (flags : List Bool) :
    (values tick p flags).map (fun q => (g + q.1, q.2)) = values tick (g + p.1, p.2) flags := by
  induction flags generalizing p with
  | nil => rfl
  | cons flag flags ih =>
      have hone : (g + (tick p flag).1, (tick p flag).2) = tick (g + p.1, p.2) flag := by
        cases flag with
        | true => rfl
        | false => rfl
      rw [values_cons, values_cons, List.map_cons, ih, hone]

/-- The ids of the arrivals are those of their names, if they have data. -/
theorem filterMap_countedIds_arrivals {sent : List Datagram} (hdata : ∀ x ∈ sent, x.data ≠ []) :
    (sent.map arrival).filterMap countedIds =
      (sent.map Datagram.quicrName).map fun name =>
        ((bits 32 name 16 32).toNat, (bits 16 name 0 16).toNat) := by
  induction sent with
  | nil => rfl
  | cons x sent ih =>
      have hx : countedIds (arrival x) =
          some ((bits 32 x.quicrName 16 32).toNat, (bits 16 x.quicrName 0 16).toNat) := by
        unfold countedIds arrival
        rw [if_neg (hdata x (List.mem_cons_self ..))]
      rw [List.map_cons, List.filterMap_cons_some hx, List.map_cons, List.map_cons,
        ih fun y hy => hdata y (List.mem_cons_of_mem x hy)]

/-- The ids that arrive of a publisher whose counters do not wrap: its positions, counted
from its group id. -/
theorem arrivals_ids {publisher : PublicationDelegate Suite Ctx Namespace}
    (hobject : publisher.objectId = 0) {calls : List PublishCall}
    (hcalls : ∀ x ∈ calls, x.data ≠ []) (hexpiry : publisher.expiry ≠ [])
    (hall : (sentObjects L publisher calls).length = calls.length)
    (hdata : ∀ x ∈ sentObjects L publisher calls, x.data ≠ [])
    (hgroups : publisher.groupId.toNat + calls.countP PublishCall.groupFlag < 2 ^ 32)
    (hobjects : ∀ p ∈ objectPositions calls, p.2 < 2 ^ 16) :
    ((sentObjects L publisher calls).map arrival).filterMap countedIds =
      values tick (publisher.groupId.toNat, 0) (calls.map PublishCall.groupFlag) := by
  have hnames : (sentObjects L publisher calls).map Datagram.quicrName =
      namesOf L publisher calls := by
    apply (sentObjects_sublist L publisher calls hcalls hexpiry).eq_of_length
    simp [namesOf, values, hall]
  have hstart : counters publisher = (publisher.groupId, 0) := by
    unfold counters
    rw [hobject]
  rw [filterMap_countedIds_arrivals hdata, hnames]
  unfold namesOf
  rw [hstart, values_counters, List.map_map, List.map_map]
  have hshift := map_shift_values publisher.groupId.toNat (0, 0) (calls.map PublishCall.groupFlag)
  rw [Nat.add_zero] at hshift
  rw [← hshift]
  refine List.map_congr_left ?_
  intro p hp
  have hp1 := fst_le_of_mem_values hp
  have hp2 := hobjects p hp
  rw [count_groupFlag] at hp1
  simp only [Function.comp_apply, nameAt, bits_group_objectName, bits_object_objectName, wrap]
  rw [BitVec.toNat_add, BitVec.toNat_ofNat, BitVec.toNat_ofNat, Nat.mod_eq_of_lt hp2,
    Nat.add_mod_mod, Nat.mod_eq_of_lt (by omega)]

/-- Along groups in ascending order each group is charged once. -/
theorem length_dedup_eq_pathSum (p : ℕ × ℕ) (ps : List (ℕ × ℕ))
    (h : (p :: ps).Pairwise fun p q => p.1 ≤ q.1) :
    ((p :: ps).map Prod.fst).dedup.length = 1 + pathSum groupCharge p ps := by
  induction ps generalizing p with
  | nil => simp
  | cons q ps ih =>
      obtain ⟨hp, hrest⟩ := List.pairwise_cons.mp h
      have hq := ih q hrest
      have hle := hp q (List.mem_cons_self ..)
      rw [List.map_cons, pathSum_cons]
      by_cases hnew : p.1 < q.1
      · have hnot : p.1 ∉ (q :: ps).map Prod.fst := by
          intro hmem
          obtain ⟨r, hr, heq⟩ := List.mem_map.mp hmem
          rcases List.mem_cons.mp hr with rfl | hr
          · omega
          · have hqr := (List.pairwise_cons.mp hrest).1 r hr
            omega
        rw [List.dedup_cons_of_notMem hnot, List.length_cons, hq]
        simp only [groupCharge, if_pos hnew]
        omega
      · have hmem : p.1 ∈ (q :: ps).map Prod.fst := by
          have heq : p.1 = q.1 := by omega
          rw [heq]
          exact List.mem_map_of_mem (List.mem_cons_self ..)
        rw [List.dedup_cons_of_mem hmem, hq]
        simp only [groupCharge, if_neg hnew, Nat.zero_add]

/-- A new subscription and the first of a list of ids from a clock. -/
theorem pathSum_first {flags : List Bool} (hne : flags ≠ []) {g : ℕ} (hg : 1 < g) :
    pathSum groupCharge (0, 65535) (values tick (g, 0) flags) =
        ((values tick (g, 0) flags).map Prod.fst).dedup.length ∧
      pathSum objectCharge (0, 65535) (values tick (g, 0) flags) = flags.count false ∧
      pathSum groupGapCharge (0, 65535) (values tick (g, 0) flags) = 1 ∧
      pathSum objectGapCharge (0, 65535) (values tick (g, 0) flags) = 0 := by
  obtain ⟨flag, flags, rfl⟩ := List.exists_cons_of_ne_nil hne
  obtain ⟨hgroup, hobject, hgroupGap, hobjectGap⟩ := pathSum_values (tick (g, 0) flag) flags
  have hordered : (values tick (g, 0) (flag :: flags)).Pairwise fun p q => p.1 ≤ q.1 := by
    refine (pairwise_before_values (g, 0) (flag :: flags)).imp ?_
    intro p q hpq
    unfold Before at hpq
    omega
  rw [values_cons] at hordered ⊢
  rw [length_dedup_eq_pathSum _ _ hordered]
  simp only [pathSum_cons, hgroup, hobject, hgroupGap, hobjectGap]
  have hnew : 0 < g := by omega
  cases flag with
  | true =>
      simp [tick, groupCharge, objectCharge, groupGapCharge, objectGapCharge, comparedId, hnew]
  | false =>
      simp [tick, groupCharge, objectCharge, groupGapCharge, objectGapCharge, comparedId, hg, hnew,
        Nat.add_comm]

/-- The group ids are the same as numbers and as words of 32 bits. -/
theorem length_dedup_groups {sent : List Datagram} (hdata : ∀ x ∈ sent, x.data ≠ []) :
    (((sent.map arrival).filterMap countedIds).map Prod.fst).dedup.length =
      ((sent.map arrival).map fun x => bits 32 x.quicrName 16 32).dedup.length := by
  have hwords : ((sent.map arrival).filterMap countedIds).map Prod.fst =
      ((sent.map arrival).map fun x => bits 32 x.quicrName 16 32).map BitVec.toNat := by
    rw [filterMap_countedIds_arrivals hdata]
    simp only [List.map_map]
    rfl
  rw [hwords, List.dedup_map_of_injective fun _ _ h => BitVec.eq_of_toNat_eq h, List.length_map]

/-- The calls that stay in their group. -/
theorem count_no_groupFlag (calls : List PublishCall) :
    (calls.map PublishCall.groupFlag).count false = calls.countP fun x => !x.groupFlag := by
  rw [List.count, List.countP_map]
  simp [Function.comp_def]

/-- **Counted streams.** Let a publisher's group id come from the clock, its calls all send
an object with data, and neither counter wrap. When the objects all reach a new
subscription once each and in order, one group is counted as lost and no object; every
group is counted, and every object that does not start a group.
SOURCE: src/QuicrDelegates.cpp:125-155, src/QuicrDelegates.cpp:386-399 -/
theorem perfectStream_counts {publisher : PublicationDelegate Suite Ctx Namespace}
    {d : SubscriptionDelegate Suite Ctx Namespace} (hd : lastIds d = (0, 65535))
    (hclock : 1 < publisher.groupId.toNat) (hobject : publisher.objectId = 0)
    {calls : List PublishCall} (hne : calls ≠ []) (hcalls : ∀ x ∈ calls, x.data ≠ [])
    (hexpiry : publisher.expiry ≠ [])
    (hall : (sentObjects L publisher calls).length = calls.length)
    (hdata : ∀ x ∈ sentObjects L publisher calls, x.data ≠ [])
    (hgroups : publisher.groupId.toNat + calls.countP PublishCall.groupFlag < 2 ^ 32)
    (hobjects : ∀ p ∈ objectPositions calls, p.2 < 2 ^ 16) :
    increase L LossCounters.groupGapCount d ((sentObjects L publisher calls).map arrival) = 1 ∧
      increase L LossCounters.objectGapCount d ((sentObjects L publisher calls).map arrival) = 0 ∧
      increase L LossCounters.groupCount d ((sentObjects L publisher calls).map arrival) =
        (((sentObjects L publisher calls).map arrival).map
          fun x => bits 32 x.quicrName 16 32).dedup.length ∧
      increase L LossCounters.objectCount d ((sentObjects L publisher calls).map arrival) =
        calls.countP fun x => !x.groupFlag := by
  have hids := arrivals_ids L hobject hcalls hexpiry hall hdata hgroups hobjects
  have hflags : calls.map PublishCall.groupFlag ≠ [] := by
    simpa using hne
  obtain ⟨hgroup, hinside, hgroupGap, hobjectGap⟩ := pathSum_first hflags hclock
  rw [increase_groupGapCount, increase_objectGapCount, increase_groupCount, increase_objectCount,
    hd, hids]
  refine ⟨hgroupGap, hobjectGap, ?_, ?_⟩
  · rw [hgroup, ← hids]
    exact length_dedup_groups hdata
  · rw [hinside]
    exact count_no_groupFlag calls

end Qmedia.Analysis
