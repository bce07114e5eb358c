import Cmk.Jobs.Requests
import Cmk.Keys.Rows

/-!
# Cmk.Keys.Sync

What a synchronisation with the provider does to a HYOK key (`internal/manager/key.go`,
`keyversion.go`), and the events and audit logs about keys.

* `updateVersions`     — stores the versions the provider lists.
* `syncKeyVersions`    — the list is stored, the rotation is logged, and announced to the systems if
  the key is the primary one.
* `syncHYOKKeyState`   — the provider's status becomes the state of the key; an error becomes one too.
* `syncHYOKKeys`       — all HYOK keys of the tenant, page by page.

A struct the source changes in place is an argument and a result here.
-/

namespace Cmk

open Tx

namespace EventFactory

variable (f : EventFactory) (ctx : Ctx)

def createKeyEventJob (keyID : UUID) (type : KeyJobType) : M KeyJob := do
  let tenantID ← (ctx.extractTenantID : Except Exn String)
  .call fun n _ x =>
    match f.prepareKeyJob n x keyID type with
    | .error e => (.error (.err e), x)
    | .ok status =>
      let job : KeyJob := { externalID := keyID, type, data := ⟨tenantID, keyID⟩, status }
      (.ok job, { x with keyJobs := x.keyJobs ++ [job] })

end EventFactory

/-- `KeyVersionManager`. -/
structure KeyVersionManager where
  repo : Repo

namespace KeyVersionManager

variable (m : KeyVersionManager) (ctx : Ctx)

/-- A version with a time of the keystore is set, another one is only inserted. -/
def updateVersions (keyID : UUID) : List ProviderKeyVersion → M Unit
  | [] => pure ()
  | v :: versions => do
    match v.creationTime with
    | some time => m.repo.setKeyVersion ctx ⟨keyID, v.id, time, v.status⟩
    | none =>
      let now ← (Query.ask fun n _ => .ok (m.repo.now n) : Q Int)
      m.repo.createKeyVersion ctx ⟨keyID, v.id, now, v.status⟩
    updateVersions keyID versions

end KeyVersionManager

def unavailableKeyStates : List KeyState :=
  [.pendingDeletion, .deleted, .forbidden, .unknown, .pendingCreation, .error]

def isUnavailableKeyState (state : KeyState) : Bool := unavailableKeyStates.contains state

namespace KeyManager

variable (m : KeyManager) (ctx : Ctx)

def keyVersionManager : KeyVersionManager := ⟨m.repo⟩

def getOrInitProvider (key : Key) : Q Unit := plugin (m.keystores.getOrInitProvider · key)

/-- A failure to send an audit log is only logged. -/
def sendAuditLog (event : AuditEvent) (keyID : UUID) : M Unit :=
  .call fun n _ x =>
    match m.cmkAuditor n with
    | some _ => (.ok (), x)
    | none => (.ok (), { x with auditLog := x.auditLog ++ [(event, keyID)] })

/-- A job of the type that exists already is as good as a new one. -/
def sendKeyEvent (type : KeyJobType) (key : Key) : M Unit := do
  match ← (m.eventFactory.createKeyEventJob ctx key.id type).attempt with
  | .ok _ => return ()
  | .error e =>
    if e.is .errJobAlreadyExists then return () else throw (e.wrap .errEventSendingFailed)

def sendEnableEvent (key : Key) : M Unit := m.sendKeyEvent ctx .keyEnable key

def sendDisableEvent (key : Key) : M Unit := m.sendKeyEvent ctx .keyDisable key

def sendDetachEvent (key : Key) : M Unit := m.sendKeyEvent ctx .keyDetach key

/-- The ID of a key at its provider. The management access data of the key must decode, as it is
merged into the configuration of the provider. -/
def providerKeyID (key : Key) : Except Exn String := do
  let _ ← (m.keystores.managementAccessData key).mapError .err
  deref key.nativeID

def getKeyFromProvider (initialized : Bool) (key : Key) : Q GetKeyResponse := do
  if ¬ initialized then throw (.of .errFailedToInitProvider)
  let id ← (m.providerKeyID key : Except Exn String)
  (plugin (m.keystores.getKey · id)).mapError (.wrap .errGetProviderKey)

def getKeyVersionsFromProvider (key : Key) : Q (List ProviderKeyVersion) := do
  let id ← (m.providerKeyID key : Except Exn String)
  (plugin (m.keystores.getKeyVersions · id)).mapError (.wrap .errGetProviderKeyVersions)

def announce (key : Key) : M Unit :=
  .call fun _ _ x => (.ok (), { x with announced := x.announced ++ [key.id] })

/-- What is done once versions are stored, whether one of them is new or not. -/
def handleNewKeyVersion (key : Key) (versions : List ProviderKeyVersion) : M Unit := do
  m.keyVersionManager.updateVersions ctx key.id versions
  m.sendAuditLog .rotate key.id
  let isPrimary ← m.repo.isPrimaryKey ctx key
  if isPrimary then
    announce key
    -- a failure to notify the systems is only logged
    let _ ← errValue (m.handleSystemsOnKeyRotation ctx key)

def syncKeyVersions (key : Key) : M Unit := do
  let versions ← m.getKeyVersionsFromProvider key
  if versions.isEmpty then throw (.of .errNoKeyVersionsFound)
  m.handleNewKeyVersion ctx key versions

def getKeyStateOnSyncError (key : Key) (e : Err) : KeyState :=
  if e.is .errProviderAuthenticationFailed then .forbidden
  else if e.is .errHYOKKeyNotFound then .deleted
  else if e.isAny [.errFailedToInitProvider, .errGetProviderKey] then .unknown
  else key.state

def handleKeyStateTransition (key : Key) (oldKeyState : KeyState) : M Unit :=
  match key.state with
  | .enabled => do
    if ¬ isUnavailableKeyState oldKeyState then m.sendAuditLog .enable key.id
    m.sendEnableEvent ctx key
  | .disabled => do
    if ¬ isUnavailableKeyState oldKeyState then m.sendAuditLog .disable key.id
    m.sendDisableEvent ctx key
  | _ => pure ()

/-- The state the provider gives to the key, with its versions stored on the way. -/
def stateFromProvider (key : Key) : M KeyState := do
  let provider ← errValue (liftM (m.getOrInitProvider key))
  match ← errValue (liftM (m.getKeyFromProvider (provider matches .ok _) key)) with
  | .error e => return getKeyStateOnSyncError key e
  | .ok keyResp =>
    -- a failure to synchronise the versions is only logged
    let _ ← errValue (m.syncKeyVersions ctx { key with state := keyResp.status })
    return keyResp.status

def syncHYOKKeyState (key : Key) : M Key := do
  if key.keyType ≠ some .hyok then throw (.of .errInvalidKeyTypeForHYOKSync)
  let state ← m.stateFromProvider ctx key
  if state = key.state then return key
  (m.repo.transaction ctx fun ctx => do
    let synced ← m.repo.patchKey ctx false { key with state := state }
    m.handleKeyStateTransition ctx synced key.state
    return synced).mapError (.wrap .errUpdateKeyDB)

/-- A key that cannot be synchronised is skipped. -/
def syncKeys : List Key → M Unit
  | [] => pure ()
  | key :: keys => do
    let _ ← errValue (m.syncHYOKKeyState ctx key)
    syncKeys keys

def hyokKeys (d : Db) : List Key := d.keys.rows.filter (·.keyType = some .hyok)

def syncHYOKKeys : M Unit := m.repo.processInBatch ctx hyokKeys (m.syncKeys ctx)

end KeyManager

end Cmk
