import Qmedia.Library.LeadingBits
import Qmedia.Analysis.RestartedPublication

/-!
# Names and the namespace they are published in

A name takes its leading 80 bits from the namespace and the 48 below from the two
counters, whatever the length of the namespace. So every name of a publication lies in
its namespace if that has at most 80 significant bits, and shares its leading 80 bits
with a longer one. A longer namespace is left by some run, since the group id takes
every value (`publication_stays_inside`).
-/

set_option autoImplicit false

namespace Qmedia.Analysis

open Qmedia.Library Qmedia.Model Qmedia.Model.PublicationDelegate

/-! ## Names as a prefix and two counters -/

/-- The ids are written into the low 48 bits of a name. -/
theorem sameLeading_objectName (n : Name) (g : BitVec 32) (o : BitVec 16) :
    SameLeading 80 (objectName n g o) n := by
  rw [sameLeading_iff]
  intro i hi
  rw [getLsbD_objectName, if_neg (by omega), if_neg (by omega)]

/-- Names of two publications are equal exactly if the prefixes and the counters are. -/
theorem objectName_eq_iff (n n' : Name) (g g' : BitVec 32) (o o' : BitVec 16) :
    objectName n g o = objectName n' g' o' ↔ SameLeading 80 n n' ∧ g = g' ∧ o = o' := by
  constructor
  · intro h
    refine ⟨?_, ?_, ?_⟩
    · have hleft := (sameLeading_objectName n g o).symm
      rw [h] at hleft
      exact hleft.trans (sameLeading_objectName n' g' o')
    · rw [← bits_group_objectName n g o, h, bits_group_objectName]
    · rw [← bits_object_objectName n g o, h, bits_object_objectName]
  · rintro ⟨hsame, rfl, rfl⟩
    rw [sameLeading_iff] at hsame
    apply BitVec.eq_of_getLsbD_eq
    intro i _
    rw [getLsbD_objectName, getLsbD_objectName]
    split
    · rfl
    · split
      · rfl
      · exact hsame i (by omega)

/-- For more than 80 leading bits some group id tells the name from its namespace. -/
theorem exists_group_outside (n : Name) {length : ℕ} (hlength : 80 < length) :
    ∃ g, ∀ o, ¬ SameLeading length (objectName n g o) n := by
  -- the highest bit of the group field is significant
  have hfield (g : BitVec 32) (o : BitVec 16) (h : SameLeading length (objectName n g o) n) :
      g.getLsbD 31 = n.getLsbD 47 := by
    rw [sameLeading_iff] at h
    have hbit := h 47 (by omega)
    rwa [getLsbD_objectName, if_neg (by decide), if_pos (by decide)] at hbit
  cases hn : n.getLsbD 47 with
  | true =>
      refine ⟨0, ?_⟩
      intro o h
      have hbit := hfield 0 o h
      rw [hn] at hbit
      exact absurd hbit (by decide)
  | false =>
      refine ⟨BitVec.allOnes 32, ?_⟩
      intro o h
      have hbit := hfield (BitVec.allOnes 32) o h
      rw [hn] at hbit
      exact absurd hbit (by decide)

/-! ## Runs of one publication -/

variable {Suite Ctx Namespace : Type} [DecidableEq Namespace]
variable (L : Libs Suite Ctx Namespace)

omit [DecidableEq Namespace] in
/-- Every name of a run is the publication's name at some counters. -/
theorem exists_nameAt_of_mem_usedNames {d : PublicationDelegate Suite Ctx Namespace}
    {calls : List PublishCall} {name : Name} (hname : name ∈ usedNames L d calls) :
    ∃ c, name = nameAt L d.quicrNamespace c := by
  unfold usedNames at hname
  split at hname
  · cases hname
  · obtain ⟨c, -, rfl⟩ := List.mem_map.mp hname
    exact ⟨c, rfl⟩

/-- Every object sent has the leading 80 bits of the namespace. -/
theorem sameLeading_of_mem_sentObjects {d : PublicationDelegate Suite Ctx Namespace}
    {calls : List PublishCall} {sent : Datagram} (hsent : sent ∈ sentObjects L d calls) :
    SameLeading 80 sent.quicrName (L.nameOf d.quicrNamespace) := by
  obtain ⟨c, hc⟩ := exists_nameAt_of_mem_usedNames L
    ((sentObjects_usedNames L d calls).subset (List.mem_map_of_mem hsent))
  rw [hc]
  exact sameLeading_objectName _ _ _

/-- Without encryption every call with data sends its object. -/
theorem map_quicrName_sentObjects (d : PublicationDelegate Suite Ctx Namespace)
    (calls : List PublishCall) (hcalls : ∀ x ∈ calls, x.data ≠ []) (hd : d.expiry ≠ [])
    (hc : d.sframeContext = none) :
    (sentObjects L d calls).map Datagram.quicrName = namesOf L d calls := by
  unfold sentObjects namesOf
  induction calls generalizing d with
  | nil => rfl
  | cons x calls ih =>
      have hx := hcalls x (List.mem_cons_self ..)
      obtain ⟨hcount, hns, hexp, hsome⟩ := publishStep_next L d hx hd
      have hnone : (publishStep L d x).2.sframeContext = none := by
        rw [hc] at hsome
        exact Option.not_isSome_iff_eq_none.mp (by rw [hsome]; exact Bool.false_ne_true)
      have hrest := ih (publishStep L d x).2 (fun y hy => hcalls y (List.mem_cons_of_mem x hy))
        (by rw [hexp]; exact hd) hnone
      obtain ⟨sent, hsent⟩ : ∃ sent, sentObject (publishStep L d x).1 = some sent := by
        obtain ⟨e, es, he⟩ := List.exists_cons_of_ne_nil hd
        rw [publishStep_ok L d hx he rfl rfl, hc]
        exact ⟨_, rfl⟩
      rw [outputs_cons, List.filterMap_cons_some hsent, List.map_cons, hrest, hcount, hns,
        publishStep_sentObject L d hx hd hsent]
      rfl

/-- Starting groups long enough, an unencrypted publication sends an object under every
group id. -/
theorem exists_sent_groupStart (d : PublicationDelegate Suite Ctx Namespace) (hd : d.expiry ≠ [])
    (hc : d.sframeContext = none) (g : BitVec 32) (x : PublishCall) (hx : x.data ≠ [])
    (hstart : x.groupFlag = true) :
    ∃ n, nameAt L d.quicrNamespace (g, 0) ∈
      (sentObjects L d (List.replicate (n + 1) x)).map Datagram.quicrName := by
  obtain ⟨n, hn⟩ := exists_mem_values_start (counters d) g
  refine ⟨n, ?_⟩
  have hdata : ∀ y ∈ List.replicate (n + 1) x, y.data ≠ [] := by
    intro y hy
    rwa [List.eq_of_mem_replicate hy]
  rw [map_quicrName_sentObjects L d _ hdata hd hc]
  unfold namesOf
  rw [List.map_replicate, hstart]
  exact List.mem_map_of_mem hn

/-- **Names and namespaces.** Every object a publication sends has the leading 80 bits of
its namespace, or all its significant bits if there are fewer, so it lies in a namespace
of at most 80 bits. A longer namespace is left by some run of every publication that sends
its objects unencrypted and has an expiry time.
SOURCE: src/QuicrDelegates.cpp:19-23, src/QuicrDelegates.cpp:382-399 -/
theorem publication_stays_inside (qDelegate : Ref) (sourceId : SourceId) (ns : Namespace)
    (originUrl authToken : String) (payload : Bytes) (priority : List (BitVec 8))
    (expiry : List (BitVec 16)) (cipherSuite : Option Suite) (time : BitVec 64) (length : ℕ) :
    (∀ calls, ∀ sent ∈ sentObjects L (create L.toSFrame qDelegate sourceId ns originUrl authToken
        payload priority expiry cipherSuite time) calls,
      SameLeading (min length 80) sent.quicrName (L.nameOf ns)) ∧
    (80 < length → cipherSuite = none → expiry ≠ [] →
      ∃ calls, ∃ sent ∈ sentObjects L (create L.toSFrame qDelegate sourceId ns originUrl authToken
          payload priority expiry cipherSuite time) calls,
        ¬ SameLeading length sent.quicrName (L.nameOf ns)) := by
  constructor
  · intro calls sent hsent
    exact (sameLeading_of_mem_sentObjects L hsent).mono (min_le_right _ _)
  · rintro hlength rfl hexp
    obtain ⟨g, hg⟩ := exists_group_outside (L.nameOf ns) hlength
    obtain ⟨n, hn⟩ := exists_sent_groupStart L (create L.toSFrame qDelegate sourceId ns originUrl
      authToken payload priority expiry none time) hexp rfl g groupStart (by decide) rfl
    obtain ⟨sent, hsent, hname⟩ := List.mem_map.mp hn
    refine ⟨_, sent, hsent, ?_⟩
    rw [hname]
    exact hg 0

/-! ## A namespace that reaches into the group id -/

/-- A namespace of 96 bits, with the bits of the one of the manifest tests. -/
def longNamespace : Prefix := Prefix.ofName 0x0000010100000dc00001000000000000#128 96

/-- A publication there. -/
def longPublisher (cipherSuite : Option CipherSuite) :
    PublicationDelegate CipherSuite KeyRing Prefix :=
  create referenceSFrame 1 "80a6ac22" longNamespace "" "" [] [1, 2] [500, 500] cipherSuite 1700000000

/-- Its objects lie in the namespace as far as 80 bits go, and some run leaves it. -/
theorem longPublisher_stays_inside :
    (∀ calls, ∀ sent ∈ sentObjects referenceLibs (longPublisher none) calls,
      SameLeading (min 96 80) sent.quicrName longNamespace.name) ∧
    ∃ calls, ∃ sent ∈ sentObjects referenceLibs (longPublisher none) calls,
      ¬ SameLeading 96 sent.quicrName longNamespace.name := by
  obtain ⟨hinside, hleaves⟩ := publication_stays_inside referenceLibs 1 "80a6ac22" longNamespace ""
    "" [] [1, 2] [500, 500] none 1700000000 96
  exact ⟨hinside, hleaves (by decide) rfl (by decide)⟩

/-- The first object already is outside, encrypted or not: the upper half of its group id
is not zero. -/
theorem longPublisher_leaves :
    longNamespace.length = 96 ∧
      (∃ sent ∈ sentObjects referenceLibs (longPublisher none) [groupStart],
        ¬ SameLeading 96 sent.quicrName longNamespace.name) ∧
      ∃ sent ∈ sentObjects referenceLibs (longPublisher (some .aesGcm128Sha256)) [groupStart],
        ¬ SameLeading 96 sent.quicrName longNamespace.name := by
  refine ⟨rfl, ?_, ?_⟩
  · decide +kernel
  · decide +kernel

end Qmedia.Analysis
