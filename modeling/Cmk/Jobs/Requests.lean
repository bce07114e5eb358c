import Cmk.Jobs.Events
import Cmk.Keys.Keystore

/-!
# Cmk.Jobs.Requests

The requests on systems besides link and unlink:

* `decommissionSystemAction`    — the unlink that a tenant's decommission triggers.
* `sendRecoveryActions`         — CANCEL and RETRY of a failed system, and `getRecoveryActions`, which
  says what a user is offered.
* `updateKeyConfigurationByID`  — a new primary key switches every system of the configuration.
* `handleSystemsOnKeyRotation`  — new key material is announced to every system of the configuration.
-/

namespace Cmk

open Tx

/-- `constants.KeyActionSetPrimary`. -/
def keyActionSetPrimary : String := "SET_PRIMARY_KEY"

inductive SystemRecoveryActionBodyAction where
  | cancel | retry
  | other (s : String)
  deriving DecidableEq, Repr

structure SystemRecoveryAction where
  canRetry : Bool
  canCancel : Bool
  deriving DecidableEq, Repr

namespace SystemManager

variable (m : SystemManager) (ctx : Ctx)

/-- `UnlinkSystemAction` with the trigger of a decommission. -/
def decommissionSystemAction (systemID : UUID) : M Unit :=
  m.repo.transaction ctx fun ctx => do
    let (system, keyConfig) ← m.unlinkSystemChecks ctx systemID
    if KeyConfigManager.isNotNilUUID keyConfig.primaryKeyID then
      let keyID ← (deref keyConfig.primaryKeyID : Except Exn UUID)
      let _ ← (m.eventFactory.systemUnlinkDecommission ctx system keyID).mapError
        (.wrap .errEventSendingFailed)
    else throw (.of .errUnlinkSystemNoPrimaryKey)

/-- May the caller administer the key configuration of the key? Any failure means no. -/
def hasKeyAdminAccess (keyID : Option UUID) : Q Bool := do
  match keyID with
  | none => return false
  | some keyID =>
    match ← (m.repo.firstKeyByID ctx keyID).attempt with
    | .error _ => return false
    | .ok key =>
      match ← (m.user.hasKeyAccess ctx .update key.keyConfigurationID).attempt with
      | .error _ => return false
      | .ok _ => return true

def retryKey (event : Event) : Option UUID :=
  match event.type with
  | .systemUnlink => event.data.keyIDFrom
  | .systemSwitch =>
    if event.data.trigger = keyActionSetPrimary then event.data.keyIDTo else event.data.keyIDFrom
  | .systemSwitchNewPK | .systemLink | .systemKeyRotate => event.data.keyIDTo
  | .systemUnlinkDecommission => none

def cancelable (event : Event) : Bool :=
  match event.type with
  | .systemUnlink | .systemLink | .systemKeyRotate => true
  | .systemSwitch => event.data.trigger ≠ keyActionSetPrimary
  | .systemSwitchNewPK | .systemUnlinkDecommission => false

def determineRecoveryPermissions (event : Event) : Q SystemRecoveryAction :=
  return ⟨← m.hasKeyAdminAccess ctx (retryKey event), cancelable event⟩

def getRecoveryActions (systemID : UUID) : Q SystemRecoveryAction := do
  let system ← m.getSystemByID ctx systemID
  if system.status ≠ .failed then return ⟨false, false⟩
  match ← (m.eventFactory.getLastEvent ctx systemID).attempt with
  | .error e => if e.is .errNoPreviousEvent then return ⟨false, false⟩ else throw e
  | .ok event => m.determineRecoveryPermissions ctx event

/-- Puts back the status the event has recorded. The event stays. -/
def cancelSystemAction (systemID : UUID) : M Unit := do
  let event ← m.eventFactory.getLastEvent ctx systemID
  m.repo.patchSystemStatus ctx systemID event.previousItemStatus

def retrySystemAction (system : System) : M Unit := do
  if system.status ≠ .failed then throw (.of .errRetryNonFailedSystem)
  let lastJob ← m.eventFactory.getLastEvent ctx system.id
  let _ ← (m.repo.transaction ctx fun ctx => do
    -- a rotation is a notification: the system is not marked as processing
    if lastJob.type ≠ .systemKeyRotate then
      let _ ← m.repo.patchSystem ctx false { system with status := .processing }
    m.eventFactory.createJobFor lastJob.identifier lastJob.type lastJob.data).mapError
      (.wrap .errEventSendingFailed)

/-- The `switch` of `SendRecoveryActions`. -/
def recoveryAction (systemID : UUID) (system : System) : SystemRecoveryActionBodyAction → M Unit
  | .cancel => m.cancelSystemAction ctx systemID
  | .retry => m.retrySystemAction ctx system
  | .other _ => throw (.of .errUnsupportedSystemAction)

def sendRecoveryActions (systemID : UUID) (action : SystemRecoveryActionBodyAction) : M Unit := do
  let system ← m.getSystemByID ctx systemID
  let _ ← m.user.hasSystemAccess ctx .systemModifyLink system
  m.recoveryAction ctx systemID system action

end SystemManager

structure KeyConfigurationPatch where
  name : Option String := none
  description : Option String := none
  primaryKeyID : Option UUID := none
  deriving DecidableEq, Repr

/-- `unicode.IsSpace`. -/
def isSpace (c : Char) : Bool :=
  let n := c.toNat
  (9 ≤ n && n ≤ 13) || n = 32 || n = 0x85 || n = 0xA0 || n = 0x1680 || (0x2000 ≤ n && n ≤ 0x200A) ||
    n = 0x2028 || n = 0x2029 || n = 0x202F || n = 0x205F || n = 0x3000

def validateKeyForPrimarySwitch (key : Key) : Except Exn Unit := do
  if key.state = .deleted ∨ key.state = .pendingDeletion then throw (.of .errKeyIsDeleted)
  if key.state ≠ .enabled then throw (.of .errKeyIsNotEnabled)

namespace KeyConfigManager

-- the event factory is a field of the manager in the source
variable (m : KeyConfigManager) (f : EventFactory) (ctx : Ctx)

def rekeyEvents (newPkey : UUID) : List Event → M Unit
  | [] => pure ()
  | e :: events => do
    m.repo.patchEvent ctx { e with data := { e.data with keyIDTo := some newPkey } }
    rekeyEvents newPkey events

/-- The events that still name the old key as their target get the new one. -/
def updatePrimaryKeySystemEvents (oldPkey newPkey : UUID) : M Unit :=
  m.repo.processInBatch ctx (Repo.eventsTo · oldPkey) (m.rekeyEvents ctx newPkey)

def switchSystems (keyIDTo keyIDFrom : UUID) : List System → M Unit
  | [] => pure ()
  | s :: systems => do
    let _ ← f.systemSwitchNewPrimaryKey ctx s keyIDTo keyIDFrom
    switchSystems keyIDTo keyIDFrom systems

/-- The target key is looked up by its ID alone: it need not belong to the key configuration. -/
def handleUpdatePrimaryKey (keyConfig : KeyConfiguration) (primaryKeyID : UUID) : M Unit := do
  let targetKey ← m.repo.firstKeyByID ctx primaryKeyID
  (validateKeyForPrimarySwitch targetKey : Except Exn Unit)
  match keyConfig.primaryKeyID with
  | none => return ()
  | some oldID =>
    let sourceKey ← m.repo.firstKeyByID ctx oldID
    (validateKeyForPrimarySwitch sourceKey : Except Exn Unit)
    m.updatePrimaryKeySystemEvents ctx oldID primaryKeyID
    m.repo.processInBatch ctx (Repo.systemsOf · keyConfig.id)
      (switchSystems f ctx primaryKeyID oldID)

def updateKeyConfigurationByID (keyConfigID : UUID) (patch : KeyConfigurationPatch) :
    M KeyConfiguration := do
  let _ ← m.user.hasKeyConfigAccess ctx .update
    (some { id := keyConfigID, name := "", adminGroupID := UUID.nil, primaryKeyID := none })
  let keyConfig ← (m.repo.firstKeyConfiguration ctx keyConfigID).mapError
    (.wrap .errGettingKeyConfigByID)
  if patch.name.any (·.all isSpace) then throw (.of .errNameCannotBeEmpty)
  let keyConfig := { keyConfig with
    name := patch.name.getD keyConfig.name
    description := patch.description.getD keyConfig.description }
  m.repo.transaction ctx fun ctx => do
    let keyConfig ← match patch.primaryKeyID with
      | none => pure keyConfig
      | some primaryKeyID => do
        (m.handleUpdatePrimaryKey f ctx keyConfig primaryKeyID).mapError
          (.wrap .errUpdateKeyConfiguration)
        pure { keyConfig with primaryKeyID := some primaryKeyID }
    (m.repo.patchKeyConfiguration ctx keyConfig).mapError (.wrap .errUpdateKeyConfiguration)
    return keyConfig

end KeyConfigManager

structure KeyManager where
  repo : Repo
  eventFactory : EventFactory
  user : User
  keystores : Keystores
  /-- A failing audit log. -/
  cmkAuditor : Nat → Option Err
  asyncClient : Option AsyncClient

namespace KeyManager

variable (m : KeyManager) (ctx : Ctx)

def rotateSystems (keyID : UUID) : List System → M Unit
  | [] => pure ()
  | s :: systems => do
    let _ ← m.eventFactory.systemKeyRotate ctx s keyID
    rotateSystems keyID systems

def handleSystemsOnKeyRotation (key : Key) : M Unit :=
  m.repo.processInBatch ctx (Repo.systemsOf · key.keyConfigurationID) (m.rotateSystems ctx key.id)

end KeyManager

end Cmk
