import Cmk.Keys.Sync
import Cmk.Workflow.Create

/-!
# Cmk.Keys.Manager

The requests on keys of `internal/manager/key.go`, the creation of key configurations, and the
handlers of KEY_DETACH jobs of `internal/event-processor/handlers_key.go`.

* `get`                     — reads a key; a HYOK key is synchronised with its provider.
* `create`                  — creates a BYOK key at the provider or registers a HYOK key. While the
  keystore of the tenant has no management role, a BYOK key is stored as PENDING_CREATION.
* `syncPendingCreationKey`  — completes such a key later, or gives it up after 15 minutes.
* `updateKey`               — name, description, crypto regions, and enabling of a BYOK key.
* `delete`                  — deletes the key at its provider, then its rows.
* `detach`                  — marks the key as DETACHING and sends the event.
-/

namespace Cmk

open Tx List

def setEntry {α : Type} (map : List (String × α)) (key : String) (a : α) : List (String × α) :=
  if map.any (·.1 = key) then map.map fun e => if e.1 = key then (key, a) else e
  else map ++ [(key, a)]

theorem lookup_replace {α : Type} (map : List (String × α)) (key key' : String) (a : α) :
    (map.map fun e => if e.1 = key then (key, a) else e).lookup key' =
      if key' = key then (map.lookup key).map fun _ => a else map.lookup key' := by
  induction map with
  | nil => simp
  | cons e map ih =>
    rw [map_cons, lookup_cons, lookup_cons, lookup_cons, ih]
    grind

theorem lookup_setEntry {α : Type} (map : List (String × α)) (key key' : String) (a : α) :
    (setEntry map key a).lookup key' = if key' = key then some a else map.lookup key' := by
  have hany : map.any (·.1 = key) = (map.lookup key).isSome := by
    rw [Bool.eq_iff_iff, any_eq_true, Option.isSome_iff_ne_none, ne_eq, lookup_eq_none_iff]
    grind
  unfold setEntry
  split
  · rename_i h
    rw [hany] at h
    obtain ⟨b, hb⟩ := Option.isSome_iff_exists.1 h
    rw [lookup_replace, hb]
    rfl
  · rename_i h
    rw [hany, Option.not_isSome_iff_eq_none] at h
    rw [lookup_append, lookup_cons]
    by_cases hk : key' = key
    · subst hk
      simp [h]
    · rw [beq_eq_false_iff_ne.2 hk, if_neg hk]
      exact Option.or_none

def mapsEqual (map map' : List (String × String)) : Bool :=
  (map.all fun e => map'.lookup e.1 = some e.2) && map'.all fun e => map.lookup e.1 = some e.2

/-- `GetCryptoAccessData`: bytes that do not decode are as good as none. -/
def getCryptoAccessData (key : Key) : Option (List (String × KeyAccessDetailsRegion)) :=
  match key.cryptoAccessData with
  | some (.regions data) => some data
  | _ => none

/-- A key with the fields of the struct that are not columns. -/
structure LoadedKey where
  key : Key
  isPrimary : Bool
  editableRegions : List (String × Bool)
  deriving DecidableEq, Repr

structure KeyPatch where
  accessDetails : Option KeyAccessDetails := none
  description : Option String := none
  enabled : Option Bool := none
  name : Option String := none
  deriving DecidableEq, Repr

namespace KeyManager

variable (m : KeyManager) (ctx : Ctx)

/-- The regions of the crypto access data a user may change. -/
def setEditableStatus (key : Key) (isPrimary : Bool) : Q (List (String × Bool)) := do
  match getCryptoAccessData key with
  | none => return []
  | some data =>
    let regions := data.map fun region => (region.1, decide (key.keyType = some .hyok))
    if ¬ isPrimary ∨ key.keyType ≠ some .hyok then return regions
    let systems ← m.repo.listSystemsOfKeyConfiguration ctx key.keyConfigurationID
    return systems.foldl (fun regions s => setEntry regions s.region (s.status = .failed)) regions

def get (keyID : UUID) : M LoadedKey := do
  let key ← (m.repo.firstKeyByID ctx keyID).mapError (.wrap .errGetKeyDB)
  let isPrimary ← (m.repo.isPrimaryKey ctx key).mapError (.wrap .errGetKeyDB)
  let _ ← m.user.hasKeyAccess ctx .read key.keyConfigurationID
  let key ← match key.keyType with
    | some .byok => pure key
    | some .hyok => m.syncHYOKKeyState ctx key
    | none => throw (.of .errInvalidKeystore)
  let editableRegions ← m.setEditableStatus ctx key isPrimary
  return ⟨key, isPrimary, editableRegions⟩

def validateKeyCreation (key : Key) : Q Unit := do
  let _ ← m.user.hasKeyAccess ctx .create key.keyConfigurationID
  let _ ← (m.repo.firstKeyConfiguration ctx key.keyConfigurationID).mapError
    (.wrap .errGetConfiguration)

/-- A key is the first of its configuration if no row of the configuration exists, in whatever state. -/
def setPrimaryIfFirstKey (key : Key) : M Unit := do
  match ← (m.repo.firstKeyOf ctx key.keyConfigurationID).attempt with
  | .ok _ => return ()
  | .error e =>
    if ¬ e.is .errNotFound then throw e
    if key.state = .pendingCreation then return ()
    if key.state = .disabled then throw (.of .errKeyIsNotEnabled)
    m.repo.patchPrimaryKeyID ctx key.keyConfigurationID key.id

def createKeyRetryAttempts : Nat := 5

/-- `CreateKey`, with as many more attempts as given while the provider refuses the credentials. -/
def createKeyRetrying (key : Key) : Nat → Q CreateKeyResponse
  | 0 => plugin (m.keystores.createKey · key)
  | attempts + 1 => do
    match ← (plugin (m.keystores.createKey · key)).attempt with
    | .ok keyResp => return keyResp
    | .error e =>
      if e.is .errProviderAuthenticationFailed then createKeyRetrying key attempts else throw e

def createManagedProviderKey (key : Key) : Q Key := do
  let keyResp ← (m.createKeyRetrying key (createKeyRetryAttempts - 1)).mapError
    (.wrap .errKeyCreationFailed)
  return { key with nativeID := some keyResp.keyID, state := keyResp.status }

def addCertificateSubjectToCryptoData (key : Key) : Q Key := do
  let cryptoCerts ← plugin m.keystores.getCryptoCertificates
  match getCryptoAccessData key with
  | none => return key
  | some data =>
    let data := cryptoCerts.foldl (fun data cert =>
      match data.lookup cert.name with
      | none => data
      | some region => setEntry data cert.name { region with certificateSubject := some cert.subject })
      data
    return { key with cryptoAccessData := some (.regions data) }

/-- A HYOK key exists at its provider, as an enabled AES-256 key. -/
def registerHYOKKey (key : Key) : Q Key := do
  let id ← (m.providerKeyID key : Except Exn String)
  let keyResp ← (plugin (m.keystores.getKey · id)).mapError (.wrap .errKeyRegistration)
  let key ← (m.addCertificateSubjectToCryptoData key).mapError (.wrap .errKeyRegistration)
  if keyResp.keyAlgorithm ≠ aes256 then
    throw (.err (.wrapf (.sentinel .errUnsupportedKeyAlgorithm)
      (toString keyResp.keyAlgorithm ++ " for HYOK registration")))
  if keyResp.status ≠ .enabled then
    throw (.err (.wrapf (.sentinel .errInvalidKeyState)
      (keyResp.status.toString ++ " for HYOK registration")))
  return { key with state := .enabled }

def createOrRegisterProviderKey (key : Key) : Q Key :=
  match key.keyType with
  | some .byok => m.createManagedProviderKey key
  | some .hyok => m.registerHYOKKey key
  | none => throw (.of .errInvalidKeystore)

def persistCreatedKey (key : Key) : M Key :=
  m.repo.transaction ctx fun ctx => do
    (m.setPrimaryIfFirstKey ctx key).mapError (.wrap .errUpdatePrimary)
    let key ← (m.repo.createKey ctx key).mapError (.wrap .errCreateKeyDB)
    if key.keyType = some .hyok then
      (m.syncKeyVersions ctx key).mapError (.wrap .errCreateKeyVersionDB)
    return key

/-- A task that cannot be enqueued is only logged. -/
def enqueuePendingStateSync (key : Key) : M Unit :=
  match m.asyncClient with
  | none => pure ()
  | some client => .call fun n _ x =>
    match client.enqueue n with
    | .error _ => (.ok (), x)
    | .ok () =>
      (.ok (), { x with
        queue := x.queue ++ [.pendingStateSync (WorkflowManager.newTaskPayload ctx key.id)] })

def storePendingKey (key : Key) : M Key := do
  let key ← (m.repo.transaction ctx fun ctx =>
    m.repo.createKey ctx { key with state := .pendingCreation, nativeID := none }).mapError
      (.wrap .errCreateKeyDB)
  m.sendAuditLog .create key.id
  m.enqueuePendingStateSync ctx key
  return key

/-- The key at the provider, and then its row. -/
def createDirectly (key : Key) : M Key := do
  (m.getOrInitProvider key).mapError (.wrap .errFailedToInitProvider)
  let key ← m.createOrRegisterProviderKey key
  let key ← m.persistCreatedKey ctx key
  m.sendAuditLog .create key.id
  return key

def create (key : Key) : M Key := do
  m.validateKeyCreation ctx key
  if key.keyType = some .byok then
    let needsProvisioning ← plugin m.keystores.needsProvisioning
    if needsProvisioning then m.storePendingKey ctx key else m.createDirectly ctx key
  else m.createDirectly ctx key

/-- Seconds. -/
def pendingCreationTimeout : Int := 15 * 60

def transitionPendingKeyToError (key : Key) (code msg : String) : M Unit := do
  let now ← (Query.ask fun n _ => .ok (m.repo.now n) : Q Int)
  let _ ← (m.repo.patchKey ctx true
    { key with state := .error, errorDetail := some ⟨code, msg, now⟩ }).mapError
      (.wrap .errUpdateKeyDB)

/-- On AlreadyExists the key of an earlier attempt is taken. -/
def createOrRecoverProviderKey (key : Key) : Q Key := do
  match ← (m.createManagedProviderKey key).attempt with
  | .ok key => return key
  | .error e =>
    if ¬ e.is .codeAlreadyExists then throw e
    let keyResp ← (plugin (m.keystores.getKey · key.id.toString)).mapError
      (.wrap .errKeyCreationFailed)
    return { key with nativeID := some keyResp.keyID, state := keyResp.status }

def completePendingKey (key : Key) : M Unit := do
  let key ← m.createOrRecoverProviderKey key
  m.repo.transaction ctx fun ctx => do
    (m.setPrimaryIfFirstKey ctx key).mapError (.wrap .errUpdatePrimary)
    let _ ← (m.repo.patchKey ctx true key).mapError (.wrap .errUpdateKeyDB)

/-- The unexported `syncPendingCreationKey`. -/
def provisionPendingKey (key : Key) : M Unit := do
  let now ← (Query.ask fun n _ => .ok (m.repo.now n) : Q Int)
  if pendingCreationTimeout < now - key.createdAt then
    m.transitionPendingKeyToError ctx key "PROVISIONING_TIMEOUT"
      "Key provisioning timed out. Delete this key and re-create it once the issue is resolved."
  else
    match ← (m.getOrInitProvider key).attempt with
    | .ok () => m.completePendingKey ctx key
    | .error e =>
      if ¬ e.is .errGrantTrustFailed ∧ e.is .errPoolIsDrained then
        m.transitionPendingKeyToError ctx key "KEYSTORE_POOL_DRAINED"
          ("No keystore available for key provisioning. " ++
            "Delete this key and re-create it once the keystore pool is replenished.")
      else throw e

def syncPendingCreationKey (keyID : UUID) : M Unit := do
  match ← (m.get ctx keyID).attempt with
  | .error e => if e.is .errNotFound then return () else throw (e.wrap .errGetKeyDB)
  | .ok loaded =>
    if loaded.key.state ≠ .pendingCreation then return ()
    m.provisionPendingKey ctx loaded.key

/-- A region of a patch. Assignment to a nil map panics. -/
def patchRegion (editableRegions : List (String × Bool))
    (data : Option (List (String × KeyAccessDetailsRegion)))
    (region : String × KeyAccessDetailsRegion) :
    Q (Option (List (String × KeyAccessDetailsRegion))) := do
  let old := ((data.getD []).lookup region.1).getD {}
  let new ← match editableRegions.lookup region.1 with
    | none => do
      let cryptoCerts ← plugin m.keystores.getCryptoCertificates
      let certName := if cryptoCerts.any (·.name = region.1) then region.1 else ""
      pure { certificateSubject := some certName
             additionalProperties := region.2.additionalProperties }
    | some editable => do
      if ¬ editable ∧ ¬ mapsEqual old.additionalProperties region.2.additionalProperties then
        throw (.of .errNonEditableCryptoRegionUpdate)
      pure { old with
        additionalProperties := region.2.additionalProperties.foldl
          (fun properties e => setEntry properties e.1 e.2) old.additionalProperties }
  match data with
  | none => throw .panic
  | some data => return some (setEntry data region.1 new)

def handleCryptoDetailsUpdate (keyPatch : KeyPatch) (loaded : LoadedKey) : Q Key := do
  match keyPatch.accessDetails.bind (·.crypto) with
  | none => return loaded.key
  | some crypto =>
    plugin (m.keystores.newPluginProviderTransformer · loaded.key)
    let management ← ((m.keystores.managementAccessData loaded.key).mapError .err : Except Exn _)
    plugin (m.keystores.validateKeyAccessData · ⟨some crypto, some management⟩)
    let data ← crypto.foldlM (m.patchRegion loaded.editableRegions) (getCryptoAccessData loaded.key)
    let bytes := match data with
      | none => CryptoAccessData.null
      | some data => .regions data
    return { loaded.key with cryptoAccessData := some bytes }

/-- The new values, and whether the state of the key changes. -/
def copyFieldsToModelKey (keyPatch : KeyPatch) (key : Key) : Key × Bool :=
  let key := { key with
    name := keyPatch.name.getD key.name
    description := keyPatch.description.getD key.description }
  match keyPatch.enabled with
  | none => (key, false)
  | some enabled =>
    let state := if enabled then KeyState.enabled else .disabled
    if key.state = state then (key, false) else ({ key with state := state }, true)

/-- `enableKey` and `disableKey`: first at the provider, then for the targets. -/
def setEnablement (enabled : Bool) (key : Key) : M Unit := do
  (m.getOrInitProvider key).mapError (.wrap .errFailedToInitProvider)
  let id ← (deref key.nativeID : Except Exn String)
  let change := if enabled then m.keystores.enableKey else m.keystores.disableKey
  (plugin (change · id)).mapError (.wrap .errFailedToDisableProviderKey)
  m.sendAuditLog (if enabled then .enable else .disable) key.id
  if enabled then m.sendEnableEvent ctx key else m.sendDisableEvent ctx key

def applyKeyPatch (key : Key) (enablement : Option Bool) : M Key :=
  m.repo.transaction ctx fun ctx => do
    let key ← (m.repo.patchKey ctx true key).mapError (.wrap .errUpdateKeyDB)
    match enablement with
    | none => return key
    | some enabled =>
      m.setEnablement ctx enabled key
      return key

def updateKey (keyID : UUID) (keyPatch : KeyPatch) : M Key := do
  if keyPatch.accessDetails.any (·.management.isSome) then throw (.of .errManagementDetailsUpdate)
  let loaded ← (m.get ctx keyID).mapError (.wrap .errGetKeyDB)
  if loaded.key.state = .pendingCreation ∧ keyPatch.enabled ≠ none then
    throw (.of .errKeyInPendingState)
  let key ← (m.handleCryptoDetailsUpdate keyPatch loaded).mapError (.wrap .errCryptoDetailsUpdate)
  if key.keyType = some .hyok ∧ keyPatch.enabled ≠ none then
    throw (.err (.wrapf (.sentinel .errHYOKKeyActionNotAllowed) "update key state"))
  let (key, enablementUpdated) := copyFieldsToModelKey keyPatch key
  (m.applyKeyPatch ctx key (if enablementUpdated then keyPatch.enabled else none)).mapError
    (.wrap .errUpdateKeyDB)

def deleteAtProvider (nativeID : String) : M Unit :=
  .call fun n _ x =>
    match m.keystores.deleteKey n nativeID with
    | .error e => (.error (.err e), x)
    | .ok () => (.ok (), { x with deletedKeys := x.deletedKeys ++ [nativeID] })

/-- A HYOK key is left to its provider, and a pending key has no key there yet. -/
def deleteProviderKey (key : Key) : M Unit := do
  if key.keyType = some .hyok ∨ key.state = .pendingCreation then return ()
  (m.getOrInitProvider key).mapError (.wrap .errFailedToInitProvider)
  match key.nativeID with
  | none => return ()
  | some nativeID => (m.deleteAtProvider nativeID).mapError (.wrap .errFailedToDeleteProvider)

def deleteRows (keyID : UUID) : M Unit :=
  m.repo.transaction ctx fun ctx => do
    (m.repo.deleteKeyVersions ctx keyID).mapError (.wrap .errDeleteKeyDB)
    (m.repo.deleteKey ctx keyID).mapError (.wrap .errDeleteKeyDB)

def delete (keyID : UUID) : M Unit := do
  let loaded ← (m.get ctx keyID).mapError (.wrap .errGetKeyDB)
  if loaded.isPrimary then
    let existing ← m.repo.hasConnectedSystems ctx loaded.key.keyConfigurationID
    if existing then throw ((Exn.of .errConnectedSystemToKeyConfig).wrap .errDeleteKey)
  m.deleteProviderKey loaded.key
  (m.deleteRows ctx keyID).mapError (.wrap .errDeleteKey)
  m.sendAuditLog .delete loaded.key.id

def detach (key : Key) : M Unit :=
  m.repo.transaction ctx fun ctx => do
    let key ← m.repo.patchKey ctx false { key with state := .detaching }
    m.sendDetachEvent ctx key

end KeyManager

namespace KeyConfigManager

variable (m : KeyConfigManager) (ctx : Ctx)

def postKeyConfigurations (keyConfiguration : KeyConfiguration) : M KeyConfiguration := do
  match ← (m.repo.firstGroup ctx keyConfiguration.adminGroupID none).attempt with
  | .error _ => throw (.of .errInvalidKeyAdminGroup)
  | .ok group =>
    if group.role ≠ some .keyAdmin then throw (.of .errInvalidKeyAdminGroup)
    let keyConfiguration := { keyConfiguration with adminGroup := group }
    let _ ← m.user.hasKeyConfigAccess ctx .create (some keyConfiguration)
    if keyConfiguration.name.toList.all isSpace then throw (.of .errNameCannotBeEmpty)
    (m.repo.createKeyConfiguration ctx keyConfiguration).mapError (.wrap .errCreateKeyConfiguration)
    return keyConfiguration

end KeyConfigManager

inductive KeyCancelReason where
  | keyNotFound (id : UUID)
  | keyNotDetaching (id : UUID)
  deriving DecidableEq, Repr

inductive KeyJobConfirmerResult where
  | complete
  | cancel (reason : KeyCancelReason)
  deriving DecidableEq, Repr

/-- The handlers of KEY_DETACH jobs. Those of KEY_ENABLE and KEY_DISABLE confirm every job and do
nothing else. -/
structure KeyDetachJobHandler where
  repo : Repo
  cmkAuditor : Nat → Option Err

namespace KeyDetachJobHandler

variable (h : KeyDetachJobHandler) (job : KeyJob)

/-- The context a handler creates for the tenant of its job. -/
def tenantContext : Ctx :=
  { tenant := job.data.tenantID
    userType := some .internalUser
    businessUserData := none
    internalUserData := some .eventReconciler
    inTx := false }

def getKeyByKeyID : Q Key :=
  (h.repo.firstKey (tenantContext job) job.data.keyID).mapError (.errorf "failed to get key by ID")

def handleJobConfirm : Q KeyJobConfirmerResult := do
  match ← (h.getKeyByKeyID job).attempt with
  | .error e =>
    if e.is .errNotFound then return .cancel (.keyNotFound job.data.keyID)
    else throw (e.errorf "failed to get key by ID")
  | .ok key =>
    if key.state ≠ .detaching then return .cancel (.keyNotDetaching key.id)
    return .complete

/-- A key that is gone by the time of the update is not an error. -/
def terminate (targetState : KeyState) : M Key := do
  let key ← h.getKeyByKeyID job
  (h.repo.patchKey (tenantContext job) true { key with state := targetState }).mapError
    (.errorf "failed to update key")

def handleJobDoneEvent : M Unit := do
  let key ← (h.terminate job .detached).mapError
    (.errorf "failed to update key state on detach job completion")
  .call fun n _ x =>
    match h.cmkAuditor n with
    | some _ => (.ok (), x)
    | none => (.ok (), { x with auditLog := x.auditLog ++ [(.detach, key.id)] })

/-- A failed detach counts as done. -/
def handleJobFailedEvent : M Unit := do
  let _ ← (h.terminate job .detached).mapError
    (.errorf "failed to update key state on detach job failure")

def handleJobCanceledEvent : M Unit := do
  let _ ← (h.terminate job .unknown).mapError
    (.errorf "failed to update key state on detach job cancellation")

end KeyDetachJobHandler

end Cmk
