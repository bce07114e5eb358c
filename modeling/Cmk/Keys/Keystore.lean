import Cmk.Access

/-!
# Cmk.Keys.Keystore

The keystore providers behind `internal/manager/key.go`. They are plugins, so what they answer is a
parameter: every call is indexed by the statement number and may answer anything.

`getOrInitProvider` stands for the cache of provider configurations with the pool of keystores and the
certificates behind it. A call that fails has changed nothing at the provider.
-/

namespace Cmk

open Tx

namespace UUID

def toString (id : UUID) : String :=
  let digits := id.toHex.toList
  String.ofList (digits.take 8 ++ '-' :: (digits.drop 8).take 4 ++ '-' :: (digits.drop 12).take 4 ++
    '-' :: (digits.drop 16).take 4 ++ '-' :: digits.drop 20)

end UUID

def aes256 : Int := 1

/-- `keymanagement.GetKeyResponse`. -/
structure GetKeyResponse where
  keyID : String
  keyAlgorithm : Int
  status : KeyState
  deriving DecidableEq, Repr

structure CreateKeyResponse where
  keyID : String
  status : KeyState
  deriving DecidableEq, Repr

/-- `keymanagement.KeyVersion`. -/
structure ProviderKeyVersion where
  id : String
  creationTime : Option Int
  status : String
  deriving DecidableEq, Repr

structure ClientCertificate where
  name : String
  subject : String
  deriving DecidableEq, Repr

/-- `cmkapi.KeyAccessDetails`. -/
structure KeyAccessDetails where
  crypto : Option (List (String × KeyAccessDetailsRegion)) := none
  management : Option KeyAccessDetailsRegion := none
  deriving DecidableEq, Repr

structure Keystores where
  getOrInitProvider : Nat → Key → Except Err Unit
  /-- `NeedsDefaultKeystoreProvisioning`: the default keystore has no management role yet. -/
  needsProvisioning : Nat → Except Err Bool
  /-- Decoding the management access data of a key. -/
  managementAccessData : Key → Except Err KeyAccessDetailsRegion
  createKey : Nat → Key → Except Err CreateKeyResponse
  getKey : Nat → String → Except Err GetKeyResponse
  getKeyVersions : Nat → String → Except Err (List ProviderKeyVersion)
  deleteKey : Nat → String → Except Err Unit
  enableKey : Nat → String → Except Err Unit
  disableKey : Nat → String → Except Err Unit
  getCryptoCertificates : Nat → Except Err (List ClientCertificate)
  newPluginProviderTransformer : Nat → Key → Except Err Unit
  /-- The validation of access details by the transformer. -/
  validateKeyAccessData : Nat → KeyAccessDetails → Except Err Unit

def plugin {α : Type} (f : Nat → Except Err α) : Q α := .ask fun n _ => (f n).mapError .err

end Cmk
