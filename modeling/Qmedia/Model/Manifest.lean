import Mathlib.Data.Rat.Init
import Qmedia.Model.Name

/-!
# Manifests and their JSON form

`include/qmedia/ManifestTypes.hpp` and `src/ManifestTypes.cpp`. A document is a parsed
`nlohmann::json` value; reading it either gives a manifest or throws. The parser of
namespace strings is the one of `libquicr` and a parameter here.

`nlohmann::json` is not in the repository. Assumed of it is that `at` throws `out_of_range` for
a missing key and `type_error` on a value that is no object, of which `contains` is false; that a
range-based `for` runs over the items of an array or the values of an object; that reading a
string or a vector throws `type_error` on any other kind of value; and that reading an
arithmetic type casts a number or a boolean and throws on the rest.
-/

set_option autoImplicit false

namespace Qmedia.Model

/-- SOURCE: include/qmedia/ManifestTypes.hpp:16-25 -/
structure Profile (Namespace : Type) where
  qualityProfile : String
  quicrNamespace : Namespace
  priorities : List (BitVec 8)
  expiry : List (BitVec 16)
  appTag : String
deriving DecidableEq, Repr

/-- SOURCE: include/qmedia/ManifestTypes.hpp:27-33 -/
structure ProfileSet (Namespace : Type) where
  type : String
  profiles : List (Profile Namespace)
deriving DecidableEq, Repr

/-- SOURCE: include/qmedia/ManifestTypes.hpp:35-44 -/
structure MediaStream (Namespace : Type) where
  mediaType : String
  sourceName : String
  sourceId : String
  label : String
  profileSet : ProfileSet Namespace
deriving DecidableEq, Repr

/-- SOURCE: include/qmedia/ManifestTypes.hpp:46-52 -/
structure Manifest (Namespace : Type) where
  subscriptions : List (MediaStream Namespace)
  publications : List (MediaStream Namespace)
deriving DecidableEq, Repr

/-! ## `nlohmann::json` -/

/-- A JSON value. The members of an object have different keys, in key order. A number written
with a fraction or an exponent is a finite `double`, so a rational number. -/
inductive Json where
  | null
  | boolean (b : Bool)
  | integer (n : ℤ)
  | float (q : ℚ)
  | string (s : String)
  | array (items : List Json)
  | object (members : List (String × Json))

/-- What reading a document may throw. -/
inductive JsonError where
  | typeError
  | outOfRange (key : String)
  | badNamespace (text : String)
deriving DecidableEq, Repr

/-- `j.at(key)`. -/
def Json.at (j : Json) (key : String) : Except JsonError Json :=
  match j with
  | .object members =>
      match members.lookup key with
      | some value => .ok value
      | none => .error (.outOfRange key)
  | _ => .error .typeError

/-- `j.contains(key)`. -/
def Json.contains (j : Json) (key : String) : Bool :=
  match j with
  | .object members => (members.lookup key).isSome
  | _ => false

/-- What `for (const auto& x : j)` runs over: the items of an array, the values of an
object, nothing for `null`, and any other value itself. -/
def Json.items (j : Json) : List Json :=
  match j with
  | .null => []
  | .array items => items
  | .object members => members.map Prod.snd
  | j => [j]

/-- `j.get<std::string>()`. -/
def Json.getString (j : Json) : Except JsonError String :=
  match j with
  | .string s => .ok s
  | _ => .error .typeError

/-- `j.get<T>()` for an unsigned `T` of `w` bits: a `static_cast` of a number or a boolean, so
an integer is taken modulo `2^w` and a fraction is cut off. The cast of a `double` that is out of
range is undefined behaviour in C++, and what stands here for it is only a placeholder. -/
def Json.getUnsigned (w : ℕ) (j : Json) : Except JsonError (BitVec w) :=
  match j with
  | .boolean b => .ok (BitVec.ofNat w b.toNat)
  | .integer n => .ok (BitVec.ofInt w n)
  | .float q => .ok (BitVec.ofInt w (q.num.tdiv q.den))
  | _ => .error .typeError

/-- `j.get<std::vector<T>>()` for an unsigned `T` of `w` bits. -/
def Json.getVector (w : ℕ) (j : Json) : Except JsonError (List (BitVec w)) :=
  match j with
  | .array items => items.mapM (Json.getUnsigned w)
  | _ => .error .typeError

/-- `j.at(key).get_to(…)`. -/
def Json.get {α : Type} (j : Json) (key : String) (read : Json → Except JsonError α) :
    Except JsonError α :=
  j.at key >>= read

/-- `if (j.contains(key)) j.at(key).get_to(…)` on a field that holds `default`. -/
def Json.getOptional {α : Type} (j : Json) (key : String) (read : Json → Except JsonError α)
    (default : α) : Except JsonError α :=
  if j.contains key then j.get key read else .ok default

/-! ## Reading a manifest -/

section FromJson

variable {Namespace : Type} (parseNamespace : String → Option Namespace)

/-- A string that is converted to a namespace. -/
def Json.getNamespace (j : Json) : Except JsonError Namespace := do
  let text ← j.getString
  match parseNamespace text with
  | some quicrNamespace => return quicrNamespace
  | none => throw (.badNamespace text)

/-- SOURCE: src/ManifestTypes.cpp:10-30 -/
def Profile.fromJson (j : Json) : Except JsonError (Profile Namespace) := do
  let qualityProfile ← j.get "qualityProfile" Json.getString
  let quicrNamespace ← j.get "quicrNamespace" (Json.getNamespace parseNamespace)
  let priorities ← j.getOptional "priorities" (Json.getVector 8) []
  let expiry ← j.getOptional "expiry" (Json.getVector 16) []
  let appTag ← j.getOptional "appTag" Json.getString ""
  return { qualityProfile, quicrNamespace, priorities, expiry, appTag }

/-- SOURCE: src/ManifestTypes.cpp:32-41 -/
def ProfileSet.fromJson (j : Json) : Except JsonError (ProfileSet Namespace) := do
  let type ← j.get "type" Json.getString
  let profiles ← j.get "profiles" fun list => list.items.mapM (Profile.fromJson parseNamespace)
  return { type, profiles }

/-- SOURCE: src/ManifestTypes.cpp:43-50 -/
def MediaStream.fromJson (j : Json) : Except JsonError (MediaStream Namespace) := do
  let mediaType ← j.get "mediaType" Json.getString
  let sourceName ← j.get "sourceName" Json.getString
  let sourceId ← j.get "sourceId" Json.getString
  let label ← j.get "label" Json.getString
  let profileSet ← j.get "profileSet" (ProfileSet.fromJson parseNamespace)
  return { mediaType, sourceName, sourceId, label, profileSet }

/-- SOURCE: src/ManifestTypes.cpp:52-69 -/
def Manifest.fromJson (j : Json) : Except JsonError (Manifest Namespace) := do
  let subscriptions ← j.get "subscriptions" fun list =>
    list.items.mapM (MediaStream.fromJson parseNamespace)
  let publications ← j.get "publications" fun list =>
    list.items.mapM (MediaStream.fromJson parseNamespace)
  return { subscriptions, publications }

end FromJson

/-! ## `operator==`

Vectors are equal if they have the same length and equal elements in order. -/

section Equality

variable {Namespace : Type} [DecidableEq Namespace]

/-- SOURCE: src/ManifestTypes.cpp:71-75 -/
def Profile.operatorEq (lhs rhs : Profile Namespace) : Bool :=
  lhs.qualityProfile == rhs.qualityProfile && lhs.quicrNamespace == rhs.quicrNamespace &&
    lhs.priorities == rhs.priorities && lhs.expiry == rhs.expiry

/-- SOURCE: src/ManifestTypes.cpp:77-80 -/
def ProfileSet.operatorEq (lhs rhs : ProfileSet Namespace) : Bool :=
  lhs.type == rhs.type && lhs.profiles.isEqv rhs.profiles Profile.operatorEq

/-- SOURCE: src/ManifestTypes.cpp:82-86 -/
def MediaStream.operatorEq (lhs rhs : MediaStream Namespace) : Bool :=
  lhs.mediaType == rhs.mediaType && lhs.sourceName == rhs.sourceName &&
    lhs.sourceId == rhs.sourceId && lhs.label == rhs.label &&
    lhs.profileSet.operatorEq rhs.profileSet

/-- SOURCE: src/ManifestTypes.cpp:88-91 -/
def Manifest.operatorEq (lhs rhs : Manifest Namespace) : Bool :=
  lhs.subscriptions.isEqv rhs.subscriptions MediaStream.operatorEq &&
    lhs.publications.isEqv rhs.publications MediaStream.operatorEq

end Equality

end Qmedia.Model
