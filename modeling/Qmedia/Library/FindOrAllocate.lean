import Qmedia.Library.FirstWriter

/-!
# Find or allocate

A table remembers under each key what an allocator has answered, which may be that it
refuses. To find or allocate is to look the key up and, if it is missing, to ask the
allocator and to write its answer down, whatever it is. So the table holds the first
answer for each key (`Recorded`), and a refusal is found again like any other answer. A
client that wants refusals to leave no trace (`LeavesNoTrace`) has what it wants exactly
as long as there are none (`FindOrAllocate.noRefusal_iff`). What an allocator that goes by
the key alone has answered can be told from the key (`AnsweredBy`).
-/

set_option autoImplicit false

namespace Qmedia.Library

variable {K V : Type*}

/-- What the table holds, and what the allocator has answered so far, in order. -/
structure Allocations (K V : Type*) where
  table : K → Option (Option V)
  answers : List (K × Option V)

/-- Whatever the allocator has answered, it has not refused. -/
def NoRefusal (s : Allocations K V) : Prop := ∀ answer ∈ s.answers, answer.2 ≠ none

variable [DecidableEq K]

/-- Find or allocate a key: the allocations before, what is returned, and the allocations
after. Without an allocator nothing is returned. -/
inductive FindOrAllocate (available : Prop) (key : K) :
    Allocations K V → Option V → Allocations K V → Prop where
  | unavailable (s : Allocations K V) (h : ¬ available) : FindOrAllocate available key s none s
  | found (s : Allocations K V) {v : Option V} (h : available) (hfound : s.table key = some v) :
      FindOrAllocate available key s v s
  | allocated (s : Allocations K V) (v : Option V) (h : available)
      (hmissing : s.table key = none) :
      FindOrAllocate available key s v ⟨latch s.table key v, s.answers ++ [(key, v)]⟩

/-- What the allocator has granted for a key: its first answer that is no refusal. -/
def granted (answers : List (K × Option V)) (key : K) : Option V :=
  answers.findSome? fun answer => if answer.1 = key then answer.2 else none

/-- The allocator is asked exactly while it is there and has granted nothing, and if it
refuses, the table stays as it is. -/
structure LeavesNoTrace (available : Prop) (key : K) (s s' : Allocations K V) : Prop where
  asks_iff : (∃ v, s'.answers = s.answers ++ [(key, v)]) ↔
    available ∧ granted s.answers key = none
  refused : s'.answers = s.answers ++ [(key, none)] → s'.table = s.table

/-- The table holds the first answer for each key. -/
def Recorded (s : Allocations K V) : Prop := s.table = latchAll (fun _ => none) s.answers

/-- If nothing was refused, the table holds what was granted. -/
theorem Recorded.table_eq {s : Allocations K V} (h : Recorded s) (hno : NoRefusal s) (key : K) :
    s.table key = (granted s.answers key).map some := by
  have hfirst (answers : List (K × Option V)) (hanswers : ∀ answer ∈ answers, answer.2 ≠ none) :
      (answers.find? fun answer => answer.1 = key).map Prod.snd =
        (granted answers key).map some := by
    unfold granted
    induction answers with
    | nil => rfl
    | cons answer answers ih =>
        rw [List.find?_cons, List.findSome?_cons]
        by_cases hkey : answer.1 = key
        · obtain ⟨v, hv⟩ := Option.ne_none_iff_exists'.mp
            (hanswers answer (List.mem_cons_self ..))
          simp [hkey, hv]
        · simp only [hkey, decide_false, if_false]
          exact ih fun a ha => hanswers a (List.mem_cons_of_mem _ ha)
  rw [h, latchAll_apply, Option.none_or]
  exact hfirst s.answers hno

omit [DecidableEq K] in
/-- The allocator was asked at most once for each key, and the table holds its answers. -/
structure AskedOnce (s : Allocations K V) : Prop where
  nodup : (s.answers.map Prod.fst).Nodup
  table_iff : ∀ key v, s.table key = some v ↔ (key, v) ∈ s.answers

/-! ## An allocator that answers by the key -/

section ByKey

omit [DecidableEq K] in
/-- A key of the table `m` is as in `m₀`, or new with the allocator's answer for it. -/
def AnsweredBy (answer : K → Option V) (m₀ m : K → Option (Option V)) : Prop :=
  ∀ k, m k = m₀ k ∨ m₀ k = none ∧ m k = some (answer k)

variable {answer : K → Option V} {m₀ m : K → Option (Option V)} {key : K}

omit [DecidableEq K] in
/-- A table is answered by itself. -/
theorem AnsweredBy.refl (answer : K → Option V) (m : K → Option (Option V)) :
    AnsweredBy answer m m :=
  fun _ => Or.inl rfl

omit [DecidableEq K] in
/-- What is missing in the end was missing in the beginning. -/
theorem AnsweredBy.missing (h : AnsweredBy answer m₀ m) (hk : m key = none) : m₀ key = none := by
  rcases h key with hold | ⟨hfree, -⟩
  · exact hold.symm.trans hk
  · exact hfree

omit [DecidableEq K] in
/-- What is found. -/
theorem AnsweredBy.found (h : AnsweredBy answer m₀ m) {v : Option V} (hk : m key = some v) :
    v = (m₀ key).getD (answer key) := by
  rcases h key with hold | ⟨hfree, hnew⟩
  · rw [← hold, hk]
    rfl
  · rw [hfree]
    exact Option.some.inj (hk.symm.trans hnew)

/-- A missing key is written with the allocator's answer. -/
theorem AnsweredBy.allocated (h : AnsweredBy answer m₀ m) (hk : m key = none) :
    AnsweredBy answer m₀ (latch m key (answer key)) := by
  intro k
  by_cases hkey : k = key
  · subst hkey
    rw [latch_self, hk]
    exact Or.inr ⟨h.missing hk, rfl⟩
  · rw [latch_of_ne _ _ hkey]
    exact h k

end ByKey

section Rules

variable {available : Prop} {key : K} {s s' : Allocations K V} {v : Option V}

/-- A key is looked up before the allocator is asked. -/
theorem FindOrAllocate.askedOnce (h : FindOrAllocate available key s v s') (hs : AskedOnce s) :
    AskedOnce s' := by
  cases h with
  | unavailable _ => exact hs
  | found _ _ => exact hs
  | allocated _ _ hmissing =>
      have hnew (w : Option V) : (key, w) ∉ s.answers := by
        intro hmem
        have htable := (hs.table_iff key w).mpr hmem
        rw [hmissing] at htable
        cases htable
      constructor
      · show ((s.answers ++ [(key, v)]).map Prod.fst).Nodup
        rw [List.map_append, List.nodup_append]
        refine ⟨hs.nodup, by simp, ?_⟩
        rintro k hk k' hk' rfl
        obtain ⟨⟨_, w⟩, hmem, rfl⟩ := List.mem_map.mp hk
        obtain rfl : _ = key := List.mem_singleton.mp hk'
        exact hnew w hmem
      · intro k w
        rw [List.mem_append, List.mem_singleton, Prod.mk.injEq]
        show latch s.table key v k = some w ↔ _
        by_cases hk : k = key
        · subst hk
          rw [latch_self, hmissing, Option.none_or, Option.some.injEq, or_iff_right (hnew w),
            and_iff_right rfl, eq_comm]
        · rw [latch_of_ne _ v hk, hs.table_iff, or_iff_left fun h => hk h.1]

/-- A call records the answer it gets. -/
theorem FindOrAllocate.recorded (h : FindOrAllocate available key s v s') (hs : Recorded s) :
    Recorded s' := by
  cases h with
  | unavailable _ => exact hs
  | found _ _ => exact hs
  | allocated _ _ hmissing =>
      unfold Recorded at hs ⊢
      rw [latchAll_append, ← hs]
      rfl

/-- What is returned is in the table. -/
theorem FindOrAllocate.table_self {a : V} (h : FindOrAllocate available key s (some a) s') :
    s'.table key = some (some a) := by
  cases h with
  | found _ hfound => exact hfound
  | allocated _ _ hmissing =>
      simp only [latch_self, hmissing, Option.none_or]

/-- What is in the table stays there. -/
theorem FindOrAllocate.table_of_some (h : FindOrAllocate available key s v s') {k : K}
    {w : Option V} (hk : s.table k = some w) : s'.table k = some w := by
  cases h with
  | unavailable _ => exact hk
  | found _ _ => exact hk
  | allocated _ _ hmissing =>
      have hne : k ≠ key := by
        rintro rfl
        rw [hmissing] at hk
        cases hk
      exact (latch_of_ne s.table v hne).trans hk

/-- **Refusals leave a trace.** Where nothing was refused before, finding or allocating a
key leaves no trace of a refusal exactly if nothing is refused now. -/
theorem FindOrAllocate.noRefusal_iff (h : FindOrAllocate available key s v s')
    (hs : Recorded s) :
    NoRefusal s' ↔ NoRefusal s ∧ LeavesNoTrace available key s s' := by
  have hnothing (hasks : ∃ w, s.answers = s.answers ++ [(key, w)]) : False := by
    obtain ⟨w, hw⟩ := hasks
    exact absurd (List.self_eq_append_right.mp hw) (List.cons_ne_nil _ _)
  have hquiet (hno : NoRefusal s) (hgranted : available → granted s.answers key ≠ none) :
      LeavesNoTrace available key s s := by
    refine ⟨iff_of_false hnothing fun h => hgranted h.1 h.2, ?_⟩
    intro h
    exact absurd ⟨none, h⟩ hnothing
  cases h with
  | unavailable hnot =>
      refine ⟨fun hno => ⟨hno, hquiet hno fun h => absurd h hnot⟩, And.left⟩
  | found _ hfound =>
      refine ⟨fun hno => ⟨hno, hquiet hno fun _ hnone => ?_⟩, And.left⟩
      rw [hs.table_eq hno, hnone] at hfound
      cases hfound
  | allocated _ havailable hmissing =>
      constructor
      · intro hno
        have hbefore : NoRefusal s := fun answer ha => hno answer (List.mem_append_left _ ha)
        refine ⟨hbefore, iff_of_true ⟨v, rfl⟩ ⟨havailable, ?_⟩, ?_⟩
        · have htable := hs.table_eq hbefore key
          rw [hmissing] at htable
          exact Option.map_eq_none_iff.mp htable.symm
        · intro hrefused
          have hlast : [(key, v)] = [(key, none)] := List.append_cancel_left hrefused
          obtain rfl : v = none := by simpa using hlast
          exact absurd rfl (hno (key, none) (List.mem_append_right _ (List.mem_cons_self ..)))
      · rintro ⟨hbefore, hleaves⟩ answer hmem
        rcases List.mem_append.mp hmem with hmem | hmem
        · exact hbefore answer hmem
        · rw [List.mem_singleton.mp hmem]
          rintro rfl
          -- the refusal has been written down
          have htable := congrFun (hleaves.refused rfl) key
          simp only [latch_self, hmissing, Option.none_or] at htable
          cases htable

end Rules

end Qmedia.Library
