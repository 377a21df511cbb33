import Qmedia.Model.Manifest

/-!
# What an accepted document looks like

Reading a document is a sequence of reads that all have to succeed, so an accepted
document can be taken apart field by field: each list of the manifest is the list of the
document's items read one by one (`mapM_eq_ok_iff`), and the expiry times of a profile
are there exactly if the document gives some (`expiry_ne_nil_iff`).
-/

set_option autoImplicit false

namespace Qmedia.Analysis

open Qmedia.Model

/-! ## Sequences of reads -/

section Reads

variable {ε α β : Type}

/-- A sequence succeeds exactly if both of its parts do. -/
theorem bind_eq_ok_iff (x : Except ε α) (f : α → Except ε β) (b : β) :
    (x >>= f) = .ok b ↔ ∃ a, x = .ok a ∧ f a = .ok b := by
  cases x with
  | error e =>
      constructor
      · intro h
        cases h
      · rintro ⟨a, h, -⟩
        cases h
  | ok a =>
      constructor
      · intro h
        exact ⟨a, rfl, h⟩
      · rintro ⟨a', h, hf⟩
        cases h
        exact hf

/-- A list is read if every item is. -/
theorem mapM_eq_ok_iff (f : α → Except ε β) (xs : List α) (ys : List β) :
    xs.mapM f = .ok ys ↔ List.Forall₂ (fun x y => f x = .ok y) xs ys := by
  induction xs generalizing ys with
  | nil =>
      rw [List.mapM_nil]
      constructor
      · intro h
        cases h
        exact List.Forall₂.nil
      · intro h
        cases h
        rfl
  | cons x xs ih =>
      rw [List.mapM_cons, bind_eq_ok_iff]
      constructor
      · rintro ⟨y, hy, h⟩
        obtain ⟨ys', hys, h⟩ := (bind_eq_ok_iff _ _ _).mp h
        cases h
        exact List.Forall₂.cons hy ((ih ys').mp hys)
      · intro h
        cases h with
        | cons hy hys =>
            refine ⟨_, hy, ?_⟩
            rw [bind_eq_ok_iff]
            exact ⟨_, (ih _).mpr hys, rfl⟩

/-- A field is read if it is there and its value is read. -/
theorem get_eq_ok_iff (j : Json) (key : String) (read : Json → Except JsonError α) (a : α) :
    j.get key read = .ok a ↔ ∃ v, j.at key = .ok v ∧ read v = .ok a :=
  bind_eq_ok_iff _ _ _

end Reads

/-! ## The fields of a profile -/

section Fields

variable {Namespace : Type} (parseNamespace : String → Option Namespace)

/-- A field that can be accessed is there. -/
theorem contains_of_at {j v : Json} {key : String} (h : j.at key = .ok v) :
    j.contains key = true := by
  unfold Json.at at h
  unfold Json.contains
  cases j with
  | object members =>
      simp only at h ⊢
      cases hl : members.lookup key with
      | some w => rfl
      | none =>
          rw [hl] at h
          cases h
  | _ => cases h

/-- The document gives at least one expiry time for a profile. -/
def GivesExpiry (j : Json) : Prop := ∃ item items, j.at "expiry" = .ok (.array (item :: items))

/-- An accepted profile has expiry times if the document gives some. -/
theorem expiry_ne_nil_iff {j : Json} {profile : Profile Namespace}
    (h : Profile.fromJson parseNamespace j = .ok profile) :
    profile.expiry ≠ [] ↔ GivesExpiry j := by
  unfold Profile.fromJson at h
  simp only [bind_eq_ok_iff] at h
  obtain ⟨qualityProfile, -, ns, -, priorities, -, expiry, hexpiry, appTag, -, heq⟩ := h
  cases heq
  show expiry ≠ [] ↔ GivesExpiry j
  unfold Json.getOptional at hexpiry
  constructor
  · intro hne
    split at hexpiry
    · obtain ⟨v, hv, hread⟩ := (get_eq_ok_iff _ _ _ _).mp hexpiry
      cases v with
      | array items =>
          cases items with
          | nil =>
              cases hread
              exact absurd rfl hne
          | cons item items => exact ⟨item, items, hv⟩
      | _ => cases hread
    · cases hexpiry
      exact absurd rfl hne
  · rintro ⟨item, items, hv⟩ rfl
    rw [if_pos (contains_of_at hv)] at hexpiry
    obtain ⟨v, hv', hread⟩ := (get_eq_ok_iff _ _ _ _).mp hexpiry
    rw [hv] at hv'
    cases hv'
    cases (mapM_eq_ok_iff _ _ _).mp hread

end Fields

/-! ## The profiles of the publications -/

section Profiles

variable {Namespace : Type} (parseNamespace : String → Option Namespace)

/-- The items under a key, none if the key is missing. -/
def itemsAt (j : Json) (key : String) : List Json :=
  match j.at key with
  | .ok v => v.items
  | .error _ => []

/-- The profiles of a stream of a document. -/
def profileItems (j : Json) : List Json :=
  match j.at "profileSet" with
  | .ok v => itemsAt v "profiles"
  | .error _ => []

/-- The profiles of a stream are those of its JSON array, in order. -/
theorem profileItems_fromJson {j : Json} {stream : MediaStream Namespace}
    (h : MediaStream.fromJson parseNamespace j = .ok stream) :
    List.Forall₂ (fun x y => Profile.fromJson parseNamespace x = .ok y) (profileItems j)
      stream.profileSet.profiles := by
  unfold MediaStream.fromJson at h
  simp only [bind_eq_ok_iff, get_eq_ok_iff] at h
  obtain ⟨mediaType, -, sourceName, -, sourceId, -, label, -, profileSet, ⟨v, hv, hset⟩, heq⟩ := h
  cases heq
  unfold ProfileSet.fromJson at hset
  simp only [bind_eq_ok_iff, get_eq_ok_iff] at hset
  obtain ⟨type, -, profiles, ⟨w, hw, hprofiles⟩, heq⟩ := hset
  cases heq
  unfold profileItems itemsAt
  rw [hv]
  simp only [hw]
  exact (mapM_eq_ok_iff _ _ _).mp hprofiles

/-- The publications of a manifest are those of the document, in order. -/
theorem publications_fromJson {j : Json} {m : Manifest Namespace}
    (h : Manifest.fromJson parseNamespace j = .ok m) :
    List.Forall₂ (fun x y => MediaStream.fromJson parseNamespace x = .ok y)
      (itemsAt j "publications") m.publications := by
  unfold Manifest.fromJson at h
  simp only [bind_eq_ok_iff, get_eq_ok_iff] at h
  obtain ⟨subscriptions, -, publications, ⟨v, hv, hpublications⟩, heq⟩ := h
  cases heq
  unfold itemsAt
  rw [hv]
  exact (mapM_eq_ok_iff _ _ _).mp hpublications

/-- Lists whose elements correspond have corresponding properties. -/
theorem forall_mem_iff_of_forall₂ {α β : Type} {R : α → β → Prop} {xs : List α} {ys : List β}
    (hR : List.Forall₂ R xs ys) {P : α → Prop} {Q : β → Prop}
    (hPQ : ∀ x y, R x y → (Q y ↔ P x)) : (∀ x ∈ xs, P x) ↔ ∀ y ∈ ys, Q y := by
  induction hR with
  | nil => simp
  | cons hxy _ ih => rw [List.forall_mem_cons, List.forall_mem_cons, ih, hPQ _ _ hxy]

/-- What holds of the profile items of a document's publications exactly if something
holds of the profiles read from them, holds of all of them together. -/
theorem forall_publicationItems_iff {j : Json} {m : Manifest Namespace}
    (h : Manifest.fromJson parseNamespace j = .ok m) (P : Json → Prop)
    (Q : Profile Namespace → Prop)
    (hPQ : ∀ x y, Profile.fromJson parseNamespace x = .ok y → (Q y ↔ P x)) :
    (∀ s ∈ itemsAt j "publications", ∀ x ∈ profileItems s, P x) ↔
      ∀ s ∈ m.publications, ∀ p ∈ s.profileSet.profiles, Q p := by
  exact forall_mem_iff_of_forall₂ (publications_fromJson parseNamespace h) fun s stream hs =>
    (forall_mem_iff_of_forall₂ (profileItems_fromJson parseNamespace hs) hPQ).symm

end Profiles

end Qmedia.Analysis
