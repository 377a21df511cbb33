import Qmedia.Model.ThirdParty
import Qmedia.Library.MachineRun

/-!
# The per-namespace SFrame context

`src/QSFrameContext.cpp`. A context keeps one secret for each epoch and one
`sframe::ContextBase` for each namespace, created at the first use of the namespace
and keyed by `ensureKey`. A C++ exception thrown by a dependency is the result
`none`; what was changed before it was thrown stays changed.
-/

set_option autoImplicit false

namespace Qmedia.Model

open Qmedia.Library (finalState outputs)

/-- SOURCE: include/qmedia/QSFrameContext.hpp:38-41 -/
structure QSFrameContext (Suite Ctx Namespace : Type) where
  cipherSuite : Suite
  currentEpoch : Option Epoch
  epochSecrets : Map Epoch Bytes
  nsContexts : Map Namespace Ctx

/-- The characters of a `std::string` as bytes. -/
def stringBytes (s : String) : Bytes := s.toUTF8.data.toList.map UInt8.toBitVec

variable {Suite Ctx Namespace : Type} [DecidableEq Namespace]

namespace QSFrameContext

omit [DecidableEq Namespace] in
/-- SOURCE: src/QSFrameContext.cpp:7-10 -/
def create (cipherSuite : Suite) : QSFrameContext Suite Ctx Namespace :=
  ⟨cipherSuite, none, ∅, ∅⟩

/-- SOURCE: src/QSFrameContext.cpp:21-25 -/
def addEpoch (c : QSFrameContext Suite Ctx Namespace) (epochId : Epoch) (epochSecret : Bytes) :
    QSFrameContext Suite Ctx Namespace :=
  { c with epochSecrets := c.epochSecrets.insert epochId epochSecret }

/-- SOURCE: src/QSFrameContext.cpp:27-31 -/
def enableEpoch (c : QSFrameContext Suite Ctx Namespace) (epochId : Epoch) :
    QSFrameContext Suite Ctx Namespace :=
  { c with currentEpoch := some epochId }

end QSFrameContext

/-- The salt of a namespace's base keys.
SOURCE: src/QSFrameContext.cpp:76-77 -/
def baseKeySalt (q : Quicr Namespace) (quicrNamespace : Namespace) : Bytes :=
  stringBytes ("Quicr epoch base key " ++ q.str quicrNamespace)

namespace QSFrameContext

variable (L : Libs Suite Ctx Namespace)

omit [DecidableEq Namespace] in
/-- `epoch_secrets[epoch_id]` stores an empty secret for an epoch that has none.
SOURCE: src/QSFrameContext.cpp:73-79 -/
def deriveBaseKey (c : QSFrameContext Suite Ctx Namespace) (epochId : Epoch)
    (quicrNamespace : Namespace) : Bytes × QSFrameContext Suite Ctx Namespace :=
  let (secret, epochSecrets) := subscript c.epochSecrets epochId []
  (L.hkdfExtract c.cipherSuite (baseKeySalt L.toQuicr quicrNamespace) secret,
    { c with epochSecrets := epochSecrets })

/-- SOURCE: src/QSFrameContext.cpp:55-71 -/
def ensureKey (c : QSFrameContext Suite Ctx Namespace) (epochId : Epoch)
    (quicrNamespace : Namespace) : QSFrameContext Suite Ctx Namespace :=
  match c.nsContexts.lookup quicrNamespace with
  | some ctx =>
      if !L.hasKey ctx epochId then c
      else
        let (baseKey, c) := deriveBaseKey L c epochId quicrNamespace
        { c with nsContexts := c.nsContexts.insert quicrNamespace (L.addKey ctx epochId baseKey) }
  | none =>
      let ctx := L.contextBase c.cipherSuite
      let (baseKey, c) := deriveBaseKey L c epochId quicrNamespace
      { c with nsContexts := c.nsContexts.insert quicrNamespace (L.addKey ctx epochId baseKey) }

/-- Without a current epoch the result is an empty span.
SOURCE: src/QSFrameContext.cpp:33-42 -/
def protect (c : QSFrameContext Suite Ctx Namespace) (quicrNamespace : Namespace)
    (ctr : Counter) (ciphertext : ℕ) (plaintext : Bytes) :
    Option Bytes × QSFrameContext Suite Ctx Namespace :=
  match c.currentEpoch with
  | none => (some [], c)
  | some epoch =>
      let c := ensureKey L c epoch quicrNamespace
      ((c.nsContexts.lookup quicrNamespace).bind
        fun ctx => L.protect ctx ⟨epoch, ctr⟩ ciphertext plaintext, c)

/-- SOURCE: src/QSFrameContext.cpp:44-53 -/
def unprotect (c : QSFrameContext Suite Ctx Namespace) (epoch : Epoch)
    (quicrNamespace : Namespace) (ctr : Counter) (plaintext : ℕ) (ciphertext : Bytes) :
    Option Bytes × QSFrameContext Suite Ctx Namespace :=
  let c := ensureKey L c epoch quicrNamespace
  ((c.nsContexts.lookup quicrNamespace).bind
    fun ctx => L.unprotect ctx ⟨epoch, ctr⟩ plaintext ciphertext, c)

end QSFrameContext

/-! ## Histories of calls on one context -/

/-- One call of the public interface with its arguments. -/
inductive SFrameOp (Namespace : Type) where
  | addEpoch (epochId : Epoch) (epochSecret : Bytes)
  | enableEpoch (epochId : Epoch)
  | protect (quicrNamespace : Namespace) (ctr : Counter) (ciphertext : ℕ) (plaintext : Bytes)
  | unprotect (epoch : Epoch) (quicrNamespace : Namespace) (ctr : Counter) (plaintext : ℕ)
      (ciphertext : Bytes)

/-- One call: its result (an empty span for the two calls that return nothing, `none`
for an exception) and the context after it. -/
def sframeStep (L : Libs Suite Ctx Namespace) (c : QSFrameContext Suite Ctx Namespace) :
    SFrameOp Namespace → Option Bytes × QSFrameContext Suite Ctx Namespace
  | .addEpoch e secret => (some [], c.addEpoch e secret)
  | .enableEpoch e => (some [], c.enableEpoch e)
  | .protect ns ctr n p => c.protect L ns ctr n p
  | .unprotect e ns ctr n p => c.unprotect L e ns ctr n p

/-- The context after a history of calls on a new one. -/
def afterHistory (L : Libs Suite Ctx Namespace) (suite : Suite)
    (history : List (SFrameOp Namespace)) : QSFrameContext Suite Ctx Namespace :=
  finalState (sframeStep L) (QSFrameContext.create suite) history

end Qmedia.Model
