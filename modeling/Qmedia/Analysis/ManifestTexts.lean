import Qmedia.Analysis.FaithfulDecoding
import Qmedia.Model.Controller

/-!
# Manifests given as text

Which documents the decoder accepts can be said without it: the fields that have to be there
are, with values of the right kind, and so are the optional ones, if they are there at all
(`WellFormedManifest`). Other members of an object, and the order of its members, make no
difference. A text is applied exactly if it parses to such a document, and then as the one
manifest that the document depicts; any other text throws before anything has been done
(`updateManifestText_cases`). So a run with texts is the run of the manifests among them
(`texts_come_to`), and what holds of every run of calls holds of it.
-/

set_option autoImplicit false

namespace Qmedia.Analysis

open Qmedia.Library Qmedia.Model Qmedia.Model.QController

/-! ## Well-formed documents -/

section Schema

variable {Namespace : Type} (parseNamespace : String → Option Namespace)

/-- The value of the field, if the object has it, is a string. -/
def HasString (j : Json) (key : String) : Prop := ∃ text, j.at key = .ok (.string text)

/-- What is converted to an unsigned number. -/
def isNumber : Json → Bool
  | .boolean _ => true
  | .integer _ => true
  | .float _ => true
  | _ => false

/-- The field is absent or an array of numbers. -/
def NumbersIfAny (j : Json) (key : String) : Prop :=
  j.contains key = false ∨ ∃ items, j.at key = .ok (.array items) ∧ ∀ item ∈ items, isNumber item

/-- The field is there, and all its items are well formed. -/
def ItemsAll (wellFormed : Json → Prop) (j : Json) (key : String) : Prop :=
  ∃ list, j.at key = .ok list ∧ ∀ item ∈ list.items, wellFormed item

/-- A profile has the fields that are read, of the types they are read as. -/
structure WellFormedProfile (j : Json) : Prop where
  qualityProfile : HasString j "qualityProfile"
  quicrNamespace : ∃ text, j.at "quicrNamespace" = .ok (.string text) ∧
    (parseNamespace text).isSome
  priorities : NumbersIfAny j "priorities"
  expiry : NumbersIfAny j "expiry"
  appTag : j.contains "appTag" = false ∨ HasString j "appTag"

/-- A profile set has a type, and a list of profiles. -/
structure WellFormedProfileSet (j : Json) : Prop where
  type : HasString j "type"
  profiles : ItemsAll (WellFormedProfile parseNamespace) j "profiles"

/-- A media stream has its texts, and a profile set. -/
structure WellFormedMediaStream (j : Json) : Prop where
  mediaType : HasString j "mediaType"
  sourceName : HasString j "sourceName"
  sourceId : HasString j "sourceId"
  label : HasString j "label"
  profileSet : ∃ v, j.at "profileSet" = .ok v ∧ WellFormedProfileSet parseNamespace v

/-- What a manifest has to look like. -/
structure WellFormedManifest (j : Json) : Prop where
  subscriptions : ItemsAll (WellFormedMediaStream parseNamespace) j "subscriptions"
  publications : ItemsAll (WellFormedMediaStream parseNamespace) j "publications"

end Schema

/-! ## What depicts something is well formed -/

section Depicting

variable {Namespace : Type} (parseNamespace : String → Option Namespace)

/-- Something is related to every element of a list exactly if a list is related to it. -/
theorem exists_forall₂_iff {α β : Type} (R : α → β → Prop) (xs : List α) :
    (∃ ys, List.Forall₂ R xs ys) ↔ ∀ x ∈ xs, ∃ y, R x y := by
  induction xs with
  | nil => exact ⟨fun _ => nofun, fun _ => ⟨[], .nil⟩⟩
  | cons x xs ih =>
      rw [List.forall_mem_cons, ← ih]
      constructor
      · rintro ⟨_, hys⟩
        cases hys with
        | cons hy hys => exact ⟨⟨_, hy⟩, _, hys⟩
      · rintro ⟨⟨y, hy⟩, ys, hys⟩
        exact ⟨y :: ys, .cons hy hys⟩

/-- Items depict a list exactly if each depicts something. -/
theorem exists_itemsImage_iff {α : Type} {image : Json → α → Prop} {wellFormed : Json → Prop}
    (hwellFormed : ∀ j, (∃ a, image j a) ↔ wellFormed j) (j : Json) (key : String) :
    (∃ xs, ItemsImage image j key xs) ↔ ItemsAll wellFormed j key := by
  unfold ItemsImage ItemsAll
  rw [exists_comm]
  simp only [exists_and_left, exists_forall₂_iff, hwellFormed]

/-- Any JSON number is converted, and nothing else is. -/
theorem exists_converted_iff (w : ℕ) (item : Json) :
    (∃ b, Converted w item b) ↔ isNumber item := by
  unfold Converted Json.getUnsigned
  cases item with
  | boolean b => exact iff_of_true ⟨_, rfl⟩ rfl
  | integer n => exact iff_of_true ⟨_, rfl⟩ rfl
  | float q => exact iff_of_true ⟨_, rfl⟩ rfl
  | _ => exact iff_of_false (fun ⟨_, h⟩ => nomatch h) nofun

/-- A list is read if it is absent or an array of numbers. -/
theorem exists_listImage_iff (w : ℕ) (j : Json) (key : String) :
    (∃ bs, ListImage Converted w j key bs) ↔ NumbersIfAny j key := by
  unfold ListImage NumbersIfAny
  rw [exists_or]
  refine or_congr (by simp) ?_
  rw [exists_comm]
  simp only [exists_and_left, exists_forall₂_iff, exists_converted_iff]

/-- A profile is decoded exactly if it is well formed. -/
theorem exists_profileImage_iff (j : Json) :
    (∃ profile, ProfileImage parseNamespace Converted j profile) ↔
      WellFormedProfile parseNamespace j := by
  constructor
  · rintro ⟨profile, h⟩
    obtain ⟨text, htext, hparse⟩ := h.quicrNamespace
    refine ⟨⟨_, h.qualityProfile⟩, ⟨text, htext, ?_⟩, (exists_listImage_iff 8 j _).mp ⟨_, h.priorities⟩,
      (exists_listImage_iff 16 j _).mp ⟨_, h.expiry⟩, h.appTag.imp And.left fun htag => ⟨_, htag⟩⟩
    rw [hparse]
    rfl
  · intro h
    obtain ⟨qualityProfile, hquality⟩ := h.qualityProfile
    obtain ⟨text, htext, hparse⟩ := h.quicrNamespace
    obtain ⟨ns, hns⟩ := Option.isSome_iff_exists.mp hparse
    obtain ⟨priorities, hpriorities⟩ := (exists_listImage_iff 8 j _).mpr h.priorities
    obtain ⟨expiry, hexpiry⟩ := (exists_listImage_iff 16 j _).mpr h.expiry
    rcases h.appTag with habsent | ⟨appTag, htag⟩
    · exact ⟨⟨qualityProfile, ns, priorities, expiry, ""⟩, hquality, ⟨text, htext, hns⟩,
        hpriorities, hexpiry, Or.inl ⟨habsent, rfl⟩⟩
    · exact ⟨⟨qualityProfile, ns, priorities, expiry, appTag⟩, hquality, ⟨text, htext, hns⟩,
        hpriorities, hexpiry, Or.inr htag⟩

/-- A profile set is decoded exactly if it is well formed. -/
theorem exists_profileSetImage_iff (j : Json) :
    (∃ profileSet, ProfileSetImage parseNamespace Converted j profileSet) ↔
      WellFormedProfileSet parseNamespace j := by
  have hprofiles := exists_itemsImage_iff (exists_profileImage_iff parseNamespace) j "profiles"
  constructor
  · rintro ⟨profileSet, h⟩
    exact ⟨⟨_, h.type⟩, hprofiles.mp ⟨_, h.profiles⟩⟩
  · rintro ⟨⟨type, htype⟩, hitems⟩
    obtain ⟨profiles, hprofiles⟩ := hprofiles.mpr hitems
    exact ⟨⟨type, profiles⟩, htype, hprofiles⟩

/-- A media stream is decoded exactly if it is well formed. -/
theorem exists_mediaStreamImage_iff (j : Json) :
    (∃ stream, MediaStreamImage parseNamespace Converted j stream) ↔
      WellFormedMediaStream parseNamespace j := by
  constructor
  · rintro ⟨stream, h⟩
    obtain ⟨v, hv, hset⟩ := h.profileSet
    exact ⟨⟨_, h.mediaType⟩, ⟨_, h.sourceName⟩, ⟨_, h.sourceId⟩, ⟨_, h.label⟩, v, hv,
      (exists_profileSetImage_iff parseNamespace v).mp ⟨_, hset⟩⟩
  · rintro ⟨⟨mediaType, hmedia⟩, ⟨sourceName, hname⟩, ⟨sourceId, hid⟩, ⟨label, hlabel⟩, v, hv, hset⟩
    obtain ⟨profileSet, hset⟩ := (exists_profileSetImage_iff parseNamespace v).mpr hset
    exact ⟨⟨mediaType, sourceName, sourceId, label, profileSet⟩, hmedia, hname, hid, hlabel, v, hv,
      hset⟩

/-- **Accepted documents** are the well-formed ones.
SOURCE: src/ManifestTypes.cpp:10-69 -/
theorem exists_fromJson_iff (j : Json) :
    (∃ m, Manifest.fromJson parseNamespace j = .ok m) ↔ WellFormedManifest parseNamespace j := by
  have hstreams := exists_itemsImage_iff (exists_mediaStreamImage_iff parseNamespace) j
  simp only [fromJson_eq_ok_iff]
  constructor
  · rintro ⟨m, h⟩
    exact ⟨(hstreams _).mp ⟨_, h.subscriptions⟩, (hstreams _).mp ⟨_, h.publications⟩⟩
  · intro h
    obtain ⟨subscriptions, hsubscriptions⟩ := (hstreams _).mpr h.subscriptions
    obtain ⟨publications, hpublications⟩ := (hstreams _).mpr h.publications
    exact ⟨⟨subscriptions, publications⟩, hsubscriptions, hpublications⟩

end Depicting

/-! ## Runs with texts -/

section Texts

variable {Suite Ctx Namespace : Type} [DecidableEq Namespace]
variable (env : Environment Namespace) (L : Libs Suite Ctx Namespace)
variable (parse : String → Option Json) (parseNamespace : String → Option Namespace)

omit [DecidableEq Namespace] in
/-- A call, or a manifest given as text. -/
inductive TextOp (Namespace : Type) where
  | call (op : ControllerOp Namespace)
  | updateManifest (manifestJson : String)

/-- What a text throws, and the controller after the call. -/
def textStep (c : QController Suite Ctx Namespace) :
    TextOp Namespace → Except ManifestError Unit × QController Suite Ctx Namespace
  | .call op => (.ok (), (controllerStep env L c op).2)
  | .updateManifest manifestJson => c.updateManifestText env L parse parseNamespace manifestJson

omit [DecidableEq Namespace] in
/-- The text is that of a well-formed document. -/
def IsManifest (manifestJson : String) : Prop :=
  ∃ j, parse manifestJson = some j ∧ WellFormedManifest parseNamespace j

omit [DecidableEq Namespace] in
/-- The document of the text depicts `m`. -/
def Depicts (manifestJson : String) (m : Manifest Namespace) : Prop :=
  ∃ j, parse manifestJson = some j ∧ ManifestImage parseNamespace Converted j m

omit [DecidableEq Namespace] in
/-- A text depicts a manifest exactly if it is one. -/
theorem isManifest_iff (manifestJson : String) :
    IsManifest parse parseNamespace manifestJson ↔
      ∃ m, Depicts parse parseNamespace manifestJson m := by
  unfold IsManifest Depicts
  rw [exists_comm]
  simp only [exists_and_left, ← fromJson_eq_ok_iff, exists_fromJson_iff]

omit [DecidableEq Namespace] in
/-- A text depicts one manifest at most. -/
theorem Depicts.unique {manifestJson : String} {m m' : Manifest Namespace}
    (h : Depicts parse parseNamespace manifestJson m)
    (h' : Depicts parse parseNamespace manifestJson m') : m = m' := by
  obtain ⟨j, hj, hm⟩ := h
  obtain ⟨j', hj', hm'⟩ := h'
  obtain rfl := Option.some.inj (hj.symm.trans hj')
  rw [← fromJson_eq_ok_iff] at hm hm'
  exact Except.ok.inj (hm.symm.trans hm')

/-- **One text.** It is applied as the manifest it depicts, or it throws and nothing has been
done.
SOURCE: src/QController.cpp:484-492 -/
theorem updateManifestText_cases (c : QController Suite Ctx Namespace) (manifestJson : String) :
    (∃ m, Depicts parse parseNamespace manifestJson m ∧
      c.updateManifestText env L parse parseNamespace manifestJson =
        (.ok (), c.updateManifest env L m)) ∨
    (¬ IsManifest parse parseNamespace manifestJson ∧ ∃ e,
      c.updateManifestText env L parse parseNamespace manifestJson = (.error e, c)) := by
  unfold updateManifestText IsManifest Depicts
  cases hparse : parse manifestJson with
  | none =>
      right
      refine ⟨?_, _, rfl⟩
      rintro ⟨j, hj, -⟩
      cases hj
  | some j =>
      simp only [Option.some.injEq, exists_eq_left']
      cases hread : Manifest.fromJson parseNamespace j with
      | ok m => exact Or.inl ⟨m, (fromJson_eq_ok_iff parseNamespace j m).mp hread, rfl⟩
      | error e =>
          refine Or.inr ⟨fun hwellFormed => ?_, _, rfl⟩
          obtain ⟨m, hm⟩ := (exists_fromJson_iff parseNamespace j).mpr hwellFormed
          rw [hread] at hm
          cases hm

omit [DecidableEq Namespace] in
/-- The calls that a run with texts comes to: a text that depicts a manifest is a call with that
manifest, and any other text is none. -/
inductive ComesTo : List (TextOp Namespace) → List (ControllerOp Namespace) → Prop
  | nil : ComesTo [] []
  | call (op : ControllerOp Namespace) {ops : List (TextOp Namespace)}
      {calls : List (ControllerOp Namespace)} : ComesTo ops calls →
      ComesTo (.call op :: ops) (op :: calls)
  | applied {manifestJson : String} {m : Manifest Namespace} {ops : List (TextOp Namespace)}
      {calls : List (ControllerOp Namespace)} :
      Depicts parse parseNamespace manifestJson m → ComesTo ops calls →
      ComesTo (.updateManifest manifestJson :: ops) (.updateManifest m :: calls)
  | thrown {manifestJson : String} {ops : List (TextOp Namespace)}
      {calls : List (ControllerOp Namespace)} :
      ¬ IsManifest parse parseNamespace manifestJson → ComesTo ops calls →
      ComesTo (.updateManifest manifestJson :: ops) calls

omit [DecidableEq Namespace] in
/-- Every run with texts comes to one list of calls. -/
theorem exists_comesTo (ops : List (TextOp Namespace)) :
    ∃ calls, ComesTo parse parseNamespace ops calls := by
  induction ops with
  | nil => exact ⟨[], .nil⟩
  | cons op ops ih =>
      obtain ⟨calls, hcalls⟩ := ih
      cases op with
      | call op => exact ⟨op :: calls, .call op hcalls⟩
      | updateManifest manifestJson =>
          by_cases h : IsManifest parse parseNamespace manifestJson
          · obtain ⟨m, hm⟩ := (isManifest_iff parse parseNamespace manifestJson).mp h
            exact ⟨.updateManifest m :: calls, .applied hm hcalls⟩
          · exact ⟨calls, .thrown h hcalls⟩

omit [DecidableEq Namespace] in
/-- A run of calls and texts comes to one run of calls. -/
theorem ComesTo.unique {ops : List (TextOp Namespace)} {calls calls' : List (ControllerOp Namespace)}
    (h : ComesTo parse parseNamespace ops calls) (h' : ComesTo parse parseNamespace ops calls') :
    calls = calls' := by
  induction h generalizing calls' with
  | nil =>
      cases h'
      rfl
  | call op _ ih =>
      cases h' with
      | call _ hrest => rw [ih hrest]
  | applied hm _ ih =>
      cases h' with
      | applied hm' hrest => rw [hm.unique parse parseNamespace hm', ih hrest]
      | thrown hnot _ => exact absurd ((isManifest_iff parse parseNamespace _).mpr ⟨_, hm⟩) hnot
  | thrown hnot _ ih =>
      cases h' with
      | applied hm _ => exact absurd ((isManifest_iff parse parseNamespace _).mpr ⟨_, hm⟩) hnot
      | thrown _ hrest => exact ih hrest

/-- A text throws exactly if it is not a manifest. -/
theorem textStep_throws_iff (c : QController Suite Ctx Namespace) (manifestJson : String) :
    (textStep env L parse parseNamespace c (.updateManifest manifestJson)).1 ≠ .ok () ↔
      ¬ IsManifest parse parseNamespace manifestJson := by
  show (c.updateManifestText env L parse parseNamespace manifestJson).1 ≠ .ok () ↔ _
  rcases updateManifestText_cases env L parse parseNamespace c manifestJson with
    ⟨m, hm, heq⟩ | ⟨hnot, e, heq⟩
  · rw [heq]
    exact iff_of_false (fun h => h rfl)
      (not_not_intro ((isManifest_iff parse parseNamespace _).mpr ⟨m, hm⟩))
  · rw [heq]
    exact iff_of_true nofun hnot

/-- **Runs with texts.** A run of calls and of manifests given as text comes to exactly one list
of calls: each text whose document is well formed is a call with the manifest that the document
depicts, and every other text throws and is none. The run ends where that list of calls ends.
SOURCE: src/QController.cpp:484-502, src/ManifestTypes.cpp:10-69 -/
theorem texts_come_to (c : QController Suite Ctx Namespace) (ops : List (TextOp Namespace)) :
    (∃! calls, ComesTo parse parseNamespace ops calls) ∧
      (∀ calls, ComesTo parse parseNamespace ops calls →
        finalState (textStep env L parse parseNamespace) c ops =
          finalState (controllerStep env L) c calls) ∧
      ∀ pre manifestJson post, ops = pre ++ .updateManifest manifestJson :: post →
        ((textStep env L parse parseNamespace
            (finalState (textStep env L parse parseNamespace) c pre)
            (.updateManifest manifestJson)).1 ≠ .ok () ↔
          ¬ IsManifest parse parseNamespace manifestJson) := by
  refine ⟨?_, ?_, fun _ _ _ _ => textStep_throws_iff env L parse parseNamespace _ _⟩
  · obtain ⟨calls, hcalls⟩ := exists_comesTo parse parseNamespace ops
    exact ⟨calls, hcalls, fun calls' hcalls' => hcalls'.unique parse parseNamespace hcalls⟩
  · intro calls h
    induction h generalizing c with
    | nil => rfl
    | call op _ ih => exact ih _
    | @applied manifestJson m ops calls hm _ ih =>
        rcases updateManifestText_cases env L parse parseNamespace c manifestJson with
          ⟨m', hm', heq⟩ | ⟨hnot, -⟩
        · obtain rfl := hm.unique parse parseNamespace hm'
          show finalState _ (c.updateManifestText env L parse parseNamespace manifestJson).2 ops = _
          rw [heq]
          exact ih _
        · exact absurd ((isManifest_iff parse parseNamespace _).mpr ⟨m, hm⟩) hnot
    | @thrown manifestJson ops calls hnot _ ih =>
        rcases updateManifestText_cases env L parse parseNamespace c manifestJson with
          ⟨m', hm', -⟩ | ⟨-, e, heq⟩
        · exact absurd ((isManifest_iff parse parseNamespace _).mpr ⟨m', hm'⟩) hnot
        · show finalState _ (c.updateManifestText env L parse parseNamespace manifestJson).2 ops = _
          rw [heq]
          exact ih c

end Texts

end Qmedia.Analysis
