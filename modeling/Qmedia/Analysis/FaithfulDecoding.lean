import Mathlib.Data.Rat.Cast.Defs
import Mathlib.Data.Rat.Lemmas
import Qmedia.Analysis.ManifestDecoding
import Qmedia.Analysis.ExpiryBounds

/-!
# Whether a manifest is the image of its document

`ManifestImage` says field by field what a manifest has to be for a document: the same texts, and
the items of each list in order, where `number` says which stored number stands for which
JSON value. The decoder accepts exactly the manifests that are images with the numbers
converted (`fromJson_eq_ok_iff`). Conversion is a `static_cast`, so an accepted manifest
has the numbers of the document exactly if they all fit (`fromJson_image_iff`). A `double` that is
out of range does not fit, and no stored number equals it, whatever the cast makes of it.
-/

set_option autoImplicit false

namespace Qmedia.Analysis

open Qmedia.Model

/-! ## Numbers -/

/-- The value of a JSON number. -/
def numberOf : Json → Option ℚ
  | .integer n => some n
  | .float q => some q
  | _ => none

/-- The stored number is the JSON number. -/
def NumericallyEqual (w : ℕ) (item : Json) (b : BitVec w) : Prop :=
  numberOf item = some (b.toNat : ℚ)

/-- The stored number is what `get_to` makes of the JSON value. -/
def Converted (w : ℕ) (item : Json) (b : BitVec w) : Prop := item.getUnsigned w = .ok b

/-- The JSON value is a number that an unsigned integer of `w` bits can hold. -/
def Fits (w : ℕ) (item : Json) : Prop := ∃ k : ℕ, k < 2 ^ w ∧ numberOf item = some (k : ℚ)

/-- A whole number is converted to itself modulo `2^w`. -/
theorem getUnsigned_of_number {item : Json} {k : ℕ} (h : numberOf item = some (k : ℚ)) (w : ℕ) :
    item.getUnsigned w = .ok (BitVec.ofNat w k) := by
  cases item with
  | integer n =>
      have hn : n = k := by
        simp only [numberOf, Option.some.injEq] at h
        exact_mod_cast h
      rw [hn]
      simp [Json.getUnsigned, BitVec.ofInt_natCast]
  | float q =>
      have hq : q = k := by
        simpa [numberOf] using h
      rw [hq]
      simp [Json.getUnsigned, BitVec.ofInt_natCast]
  | _ => simp [numberOf] at h

/-- A converted value is the number itself exactly if it fits. -/
theorem numericallyEqual_iff_fits {w : ℕ} {item : Json} {b : BitVec w} (h : Converted w item b) :
    NumericallyEqual w item b ↔ Fits w item := by
  constructor
  · intro hequals
    exact ⟨b.toNat, b.isLt, hequals⟩
  · rintro ⟨k, hk, hnumber⟩
    have hconverted := getUnsigned_of_number hnumber w
    unfold Converted at h
    rw [h] at hconverted
    obtain rfl := Except.ok.inj hconverted
    unfold NumericallyEqual
    rw [BitVec.toNat_ofNat, Nat.mod_eq_of_lt hk]
    exact hnumber

/-! ## Images -/

section Images

variable {Namespace : Type} (parseNamespace : String → Option Namespace)
  (number : (w : ℕ) → Json → BitVec w → Prop)

/-- The field is absent and the list is empty, or it is an array and the list has its
numbers in order. -/
def ListImage (w : ℕ) (j : Json) (key : String) (bs : List (BitVec w)) : Prop :=
  (j.contains key = false ∧ bs = []) ∨
    ∃ items, j.at key = .ok (.array items) ∧ List.Forall₂ (number w) items bs

/-- The items of the value under the key are depicted by the list, in order. -/
def ItemsImage {α : Type} (image : Json → α → Prop) (j : Json) (key : String) (xs : List α) :
    Prop :=
  ∃ list, j.at key = .ok list ∧ List.Forall₂ image list.items xs

/-- The fields of a profile, the last three of which may be absent. -/
structure ProfileImage (j : Json) (profile : Profile Namespace) : Prop where
  qualityProfile : j.at "qualityProfile" = .ok (.string profile.qualityProfile)
  quicrNamespace : ∃ text, j.at "quicrNamespace" = .ok (.string text) ∧
    parseNamespace text = some profile.quicrNamespace
  priorities : ListImage number 8 j "priorities" profile.priorities
  expiry : ListImage number 16 j "expiry" profile.expiry
  appTag : (j.contains "appTag" = false ∧ profile.appTag = "") ∨
    j.at "appTag" = .ok (.string profile.appTag)

/-- The type, and the profiles in order. -/
structure ProfileSetImage (j : Json) (profileSet : ProfileSet Namespace) : Prop where
  type : j.at "type" = .ok (.string profileSet.type)
  profiles : ItemsImage (ProfileImage parseNamespace number) j "profiles" profileSet.profiles

/-- The four texts, and the profile set. -/
structure MediaStreamImage (j : Json) (stream : MediaStream Namespace) : Prop where
  mediaType : j.at "mediaType" = .ok (.string stream.mediaType)
  sourceName : j.at "sourceName" = .ok (.string stream.sourceName)
  sourceId : j.at "sourceId" = .ok (.string stream.sourceId)
  label : j.at "label" = .ok (.string stream.label)
  profileSet : ∃ v, j.at "profileSet" = .ok v ∧
    ProfileSetImage parseNamespace number v stream.profileSet

/-- Both lists of streams. -/
structure ManifestImage (j : Json) (m : Manifest Namespace) : Prop where
  subscriptions : ItemsImage (MediaStreamImage parseNamespace number) j "subscriptions"
    m.subscriptions
  publications : ItemsImage (MediaStreamImage parseNamespace number) j "publications"
    m.publications

/-! ## What the decoder accepts -/

/-- Only a string is read as a text. -/
theorem getString_eq_ok_iff (j : Json) (text : String) :
    j.getString = .ok text ↔ j = .string text := by
  cases j with
  | string s => simp [Json.getString]
  | _ => simp [Json.getString]

/-- The text of a field is the document's. -/
theorem get_getString_eq_ok_iff (j : Json) (key text : String) :
    j.get key Json.getString = .ok text ↔ j.at key = .ok (.string text) := by
  rw [get_eq_ok_iff]
  constructor
  · rintro ⟨v, hv, htext⟩
    rw [getString_eq_ok_iff] at htext
    rw [hv, htext]
  · intro h
    exact ⟨_, h, rfl⟩

/-- A namespace is read from a string that the parser of `libquicr` takes. -/
theorem getNamespace_eq_ok_iff (j : Json) (ns : Namespace) :
    j.getNamespace parseNamespace = .ok ns ↔
      ∃ text, j = .string text ∧ parseNamespace text = some ns := by
  unfold Json.getNamespace
  rw [bind_eq_ok_iff]
  constructor
  · rintro ⟨text, htext, hparse⟩
    rw [getString_eq_ok_iff] at htext
    refine ⟨text, htext, ?_⟩
    cases hns : parseNamespace text with
    | none =>
        rw [hns] at hparse
        cases hparse
    | some ns' =>
        rw [hns] at hparse
        cases hparse
        rfl
  · rintro ⟨text, rfl, hparse⟩
    refine ⟨text, rfl, ?_⟩
    rw [hparse]
    rfl

/-- A vector is read from an array, item by item. -/
theorem getVector_eq_ok_iff (w : ℕ) (j : Json) (bs : List (BitVec w)) :
    j.getVector w = .ok bs ↔ ∃ items, j = .array items ∧ List.Forall₂ (Converted w) items bs := by
  cases j with
  | array items =>
      unfold Json.getVector
      simp only [mapM_eq_ok_iff, Json.array.injEq]
      constructor
      · intro h
        exact ⟨items, rfl, h⟩
      · rintro ⟨items', rfl, h⟩
        exact h
  | _ => simp [Json.getVector]

/-- An optional field is absent and has its default, or it is read. -/
theorem getOptional_eq_ok_iff {α : Type} (j : Json) (key : String)
    (read : Json → Except JsonError α) (default a : α) :
    j.getOptional key read default = .ok a ↔
      (j.contains key = false ∧ a = default) ∨ ∃ v, j.at key = .ok v ∧ read v = .ok a := by
  unfold Json.getOptional
  cases hcontains : j.contains key with
  | true => simp [get_eq_ok_iff]
  | false =>
      have hnot (v : Json) : j.at key ≠ .ok v := by
        intro hv
        rw [contains_of_at hv] at hcontains
        cases hcontains
      simp [hnot, eq_comm]

/-- An optional vector is read from an array, or is empty if the field is absent. -/
theorem listImage_iff (w : ℕ) (j : Json) (key : String) (bs : List (BitVec w)) :
    j.getOptional key (Json.getVector w) [] = .ok bs ↔ ListImage Converted w j key bs := by
  rw [getOptional_eq_ok_iff]
  simp only [getVector_eq_ok_iff]
  unfold ListImage
  refine or_congr_right ?_
  constructor
  · rintro ⟨_, hv, items, rfl, hitems⟩
    exact ⟨items, hv, hitems⟩
  · rintro ⟨items, hv, hitems⟩
    exact ⟨_, hv, items, rfl, hitems⟩

/-- Items that are read one by one. -/
theorem itemsImage_iff {α : Type} {read : Json → Except JsonError α} {image : Json → α → Prop}
    (hread : ∀ j a, read j = .ok a ↔ image j a) (j : Json) (key : String) (xs : List α) :
    (j.get key fun list => list.items.mapM read) = .ok xs ↔ ItemsImage image j key xs := by
  rw [get_eq_ok_iff]
  unfold ItemsImage
  simp only [mapM_eq_ok_iff, hread]

/-- A profile is accepted as its image. -/
theorem profile_fromJson_eq_ok_iff (j : Json) (profile : Profile Namespace) :
    Profile.fromJson parseNamespace j = .ok profile ↔
      ProfileImage parseNamespace Converted j profile := by
  unfold Profile.fromJson
  simp only [bind_eq_ok_iff, get_getString_eq_ok_iff, listImage_iff]
  simp only [get_eq_ok_iff, getNamespace_eq_ok_iff, getOptional_eq_ok_iff, getString_eq_ok_iff]
  constructor
  · rintro ⟨qualityProfile, hquality, ns, ⟨v, hv, text, rfl, hparse⟩, priorities, hpriorities,
      expiry, hexpiry, appTag, hprofile, heq⟩
    cases heq
    refine ⟨hquality, ⟨text, hv, hparse⟩, hpriorities, hexpiry, ?_⟩
    refine hprofile.imp_right ?_
    rintro ⟨_, hv', rfl⟩
    exact hv'
  · rintro ⟨hquality, ⟨text, hv, hparse⟩, hpriorities, hexpiry, hprofile⟩
    refine ⟨_, hquality, _, ⟨_, hv, text, rfl, hparse⟩, _, hpriorities, _, hexpiry, _, ?_, rfl⟩
    exact hprofile.imp_right fun hv' => ⟨_, hv', rfl⟩

/-- A profile set is accepted as its image. -/
theorem profileSet_fromJson_eq_ok_iff (j : Json) (profileSet : ProfileSet Namespace) :
    ProfileSet.fromJson parseNamespace j = .ok profileSet ↔
      ProfileSetImage parseNamespace Converted j profileSet := by
  unfold ProfileSet.fromJson
  simp only [bind_eq_ok_iff, get_getString_eq_ok_iff,
    itemsImage_iff (profile_fromJson_eq_ok_iff parseNamespace)]
  constructor
  · rintro ⟨type, htype, profiles, hprofiles, heq⟩
    cases heq
    exact ⟨htype, hprofiles⟩
  · rintro ⟨htype, hprofiles⟩
    exact ⟨_, htype, _, hprofiles, rfl⟩

/-- A stream is accepted as its image. -/
theorem mediaStream_fromJson_eq_ok_iff (j : Json) (stream : MediaStream Namespace) :
    MediaStream.fromJson parseNamespace j = .ok stream ↔
      MediaStreamImage parseNamespace Converted j stream := by
  unfold MediaStream.fromJson
  simp only [bind_eq_ok_iff, get_getString_eq_ok_iff]
  simp only [get_eq_ok_iff, profileSet_fromJson_eq_ok_iff]
  constructor
  · rintro ⟨mediaType, hmedia, sourceName, hname, sourceId, hid, label, hlabel, profileSet, hset, heq⟩
    cases heq
    exact ⟨hmedia, hname, hid, hlabel, hset⟩
  · rintro ⟨hmedia, hname, hid, hlabel, hset⟩
    exact ⟨_, hmedia, _, hname, _, hid, _, hlabel, _, hset, rfl⟩

/-- **Accepted documents.** The decoder accepts the images with converted numbers, and no
others. -/
theorem fromJson_eq_ok_iff (j : Json) (m : Manifest Namespace) :
    Manifest.fromJson parseNamespace j = .ok m ↔ ManifestImage parseNamespace Converted j m := by
  unfold Manifest.fromJson
  simp only [bind_eq_ok_iff, itemsImage_iff (mediaStream_fromJson_eq_ok_iff parseNamespace)]
  constructor
  · rintro ⟨subscriptions, hsubscriptions, publications, hpublications, heq⟩
    cases heq
    exact ⟨hsubscriptions, hpublications⟩
  · rintro ⟨hsubscriptions, hpublications⟩
    exact ⟨_, hsubscriptions, _, hpublications, rfl⟩

end Images

/-! ## Documents whose numbers fit -/

section Fitting

variable {Namespace : Type} (parseNamespace : String → Option Namespace)

/-- The numbers under the key, if there are any, fit. -/
def ListFits (w : ℕ) (j : Json) (key : String) : Prop :=
  ∀ items, j.at key = .ok (.array items) → ∀ item ∈ items, Fits w item

/-- The numbers of a profile fit. -/
def ProfileFits (j : Json) : Prop := ListFits 8 j "priorities" ∧ ListFits 16 j "expiry"

/-- All priorities and expiry times of the document fit. -/
def NumbersFit (j : Json) : Prop :=
  (∀ s ∈ itemsAt j "subscriptions", ∀ x ∈ profileItems s, ProfileFits x) ∧
    ∀ s ∈ itemsAt j "publications", ∀ x ∈ profileItems s, ProfileFits x

/-- Where two relations differ by a condition on the left element, so do their liftings. -/
theorem forall₂_iff_forall {α β : Type} {R S : α → β → Prop} {P : α → Prop} {xs : List α}
    {ys : List β} (h : List.Forall₂ R xs ys) (hS : ∀ x y, R x y → (S x y ↔ P x)) :
    List.Forall₂ S xs ys ↔ ∀ x ∈ xs, P x := by
  induction h with
  | nil => simp
  | cons hxy _ ih => rw [List.forall₂_cons, List.forall_mem_cons, ih, hS _ _ hxy]

/-- A converted list has the numbers of the document exactly if they fit. -/
theorem listImage_iff_fits {w : ℕ} {j : Json} {key : String} {bs : List (BitVec w)}
    (h : ListImage Converted w j key bs) :
    ListImage NumericallyEqual w j key bs ↔ ListFits w j key := by
  rcases h with ⟨habsent, rfl⟩ | ⟨items, hat, hitems⟩
  · refine iff_of_true (Or.inl ⟨habsent, rfl⟩) ?_
    intro items hat
    rw [contains_of_at hat] at habsent
    cases habsent
  · have hfits := forall₂_iff_forall hitems fun _ _ => numericallyEqual_iff_fits
    constructor
    · rintro (⟨habsent, -⟩ | ⟨items', hat', hitems'⟩)
      · rw [contains_of_at hat] at habsent
        cases habsent
      · intro items'' hat''
        rw [hat'] at hat hat''
        cases hat
        cases hat''
        exact hfits.mp hitems'
    · intro hall
      exact Or.inr ⟨items, hat, hfits.mpr (hall items hat)⟩

/-- So has a profile. -/
theorem profileImage_iff_fits {j : Json} {profile : Profile Namespace}
    (h : ProfileImage parseNamespace Converted j profile) :
    ProfileImage parseNamespace NumericallyEqual j profile ↔ ProfileFits j := by
  constructor
  · intro himage
    exact ⟨(listImage_iff_fits h.priorities).mp himage.priorities,
      (listImage_iff_fits h.expiry).mp himage.expiry⟩
  · rintro ⟨hpriorities, hexpiry⟩
    exact ⟨h.qualityProfile, h.quicrNamespace, (listImage_iff_fits h.priorities).mpr hpriorities,
      (listImage_iff_fits h.expiry).mpr hexpiry, h.appTag⟩

/-- Items whose images differ by a condition on the item. -/
theorem itemsImage_iff_forall {α : Type} {image image' : Json → α → Prop} {P : Json → Prop}
    {j : Json} {key : String} {xs : List α} (h : ItemsImage image j key xs)
    (himage : ∀ x y, image x y → (image' x y ↔ P x)) :
    ItemsImage image' j key xs ↔ ∀ x ∈ itemsAt j key, P x := by
  obtain ⟨list, hat, hitems⟩ := h
  have hall := forall₂_iff_forall hitems himage
  unfold itemsAt
  rw [hat, ← hall]
  constructor
  · rintro ⟨list', hat', hitems'⟩
    rw [hat] at hat'
    cases hat'
    exact hitems'
  · intro hitems'
    exact ⟨list, hat, hitems'⟩

/-- So has a stream, for all its profiles. -/
theorem mediaStreamImage_iff_fits {j : Json} {stream : MediaStream Namespace}
    (h : MediaStreamImage parseNamespace Converted j stream) :
    MediaStreamImage parseNamespace NumericallyEqual j stream ↔
      ∀ x ∈ profileItems j, ProfileFits x := by
  obtain ⟨v, hat, hset⟩ := h.profileSet
  have hprofiles := itemsImage_iff_forall hset.profiles fun _ _ =>
    profileImage_iff_fits parseNamespace
  unfold profileItems
  rw [hat]
  constructor
  · intro himage
    obtain ⟨v', hat', hset'⟩ := himage.profileSet
    rw [hat] at hat'
    cases hat'
    exact hprofiles.mp hset'.profiles
  · intro hfits
    exact ⟨h.mediaType, h.sourceName, h.sourceId, h.label, v, hat, hset.type,
      hprofiles.mpr hfits⟩

/-- An image with converted numbers has the numbers themselves exactly if they fit. -/
theorem manifestImage_iff_fits {j : Json} {m : Manifest Namespace}
    (h : ManifestImage parseNamespace Converted j m) :
    ManifestImage parseNamespace NumericallyEqual j m ↔ NumbersFit j := by
  have hsubscriptions := itemsImage_iff_forall h.subscriptions fun _ _ =>
    mediaStreamImage_iff_fits parseNamespace
  have hpublications := itemsImage_iff_forall h.publications fun _ _ =>
    mediaStreamImage_iff_fits parseNamespace
  constructor
  · intro himage
    exact ⟨hsubscriptions.mp himage.subscriptions, hpublications.mp himage.publications⟩
  · rintro ⟨hfits, hfits'⟩
    exact ⟨hsubscriptions.mpr hfits, hpublications.mpr hfits'⟩

/-- **Faithful decoding.** An accepted document's manifest is its image, texts, lists and
numbers, exactly if every priority is a whole number below 256 and every expiry time one
below 65536.
SOURCE: src/ManifestTypes.cpp:10-69, include/qmedia/ManifestTypes.hpp:16-52 -/
theorem fromJson_image_iff {j : Json} {m : Manifest Namespace}
    (h : Manifest.fromJson parseNamespace j = .ok m) :
    ManifestImage parseNamespace NumericallyEqual j m ↔ NumbersFit j := by
  have himage := (fromJson_eq_ok_iff parseNamespace j m).mp h
  exact manifestImage_iff_fits parseNamespace himage

end Fitting

/-! ## A document with an expiry time above 65535 -/

/-- One published camera with the given priorities and expiry times. -/
def cameraDocument (priorities expiry : List Json) : Json :=
  .object [
    ("publications", .array [.object [
      ("label", .string "Participant A"),
      ("mediaType", .string "video"),
      ("profileSet", .object [
        ("profiles", .array [.object [
          ("expiry", .array expiry),
          ("priorities", .array priorities),
          ("qualityProfile", .string "h264,width=1920,height=1080,fps=30,br=2000"),
          ("quicrNamespace", .string "0x0000010100000dc00001000000000000/80")]]),
        ("type", .string "simulcast")]),
      ("sourceId", .string "80a6ac22"),
      ("sourceName", .string "Camera A1")]]),
    ("subscriptions", .array [])]

/-- The manifest with one such camera. -/
def publishedCamera (priorities : List (BitVec 8)) (expiry : List (BitVec 16)) :
    Manifest Prefix where
  subscriptions := []
  publications := [{
    mediaType := "video"
    sourceName := "Camera A1"
    sourceId := "80a6ac22"
    label := "Participant A"
    profileSet := {
      type := "simulcast"
      profiles := [{
        qualityProfile := "h264,width=1920,height=1080,fps=30,br=2000"
        quicrNamespace := mediaNamespace
        priorities := priorities
        expiry := expiry
        appTag := "" }] } }]

/-- A camera with two priorities and two expiry times. -/
theorem fromJson_image_iff_camera :
    ManifestImage parseMedia NumericallyEqual
        (cameraDocument [.integer 6, .integer 7] [.integer 500, .integer 500])
        (publishedCamera [6, 7] [500, 500]) ↔
      NumbersFit (cameraDocument [.integer 6, .integer 7] [.integer 500, .integer 500]) :=
  fromJson_image_iff parseMedia (by decide +kernel)

/-- A priority of 256 and an expiry time of 66036 are accepted as 0 and 500. -/
theorem large_numbers_altered :
    Manifest.fromJson parseMedia (cameraDocument [.integer 256] [.integer 66036]) =
        .ok (publishedCamera [0] [500]) ∧
      ¬ ManifestImage parseMedia NumericallyEqual
        (cameraDocument [.integer 256] [.integer 66036]) (publishedCamera [0] [500]) := by
  have haccepted : Manifest.fromJson parseMedia (cameraDocument [.integer 256] [.integer 66036]) =
      .ok (publishedCamera [0] [500]) := by
    decide +kernel
  refine ⟨haccepted, ?_⟩
  rw [manifestImage_iff_fits parseMedia ((fromJson_eq_ok_iff parseMedia _ _).mp haccepted)]
  rintro ⟨-, hfits⟩
  obtain ⟨hpriorities, -⟩ := hfits _ (List.mem_singleton.mpr rfl) _ (List.mem_singleton.mpr rfl)
  obtain ⟨k, hk, hnumber⟩ := hpriorities [.integer 256] rfl _ (List.mem_singleton.mpr rfl)
  simp only [numberOf, Option.some.injEq] at hnumber
  have heq : (256 : ℕ) = k := by exact_mod_cast hnumber
  omega

end Qmedia.Analysis
