import Cmk.Jobs.Requests

/-!
# Cmk.Jobs.Handlers

The handlers of `internal/event-processor/handlers_system.go`. Orbital asks `handleJobConfirm`
before it starts a job, and calls one of the three event handlers when the job has ended.

* link, switch and switch to a new primary key connect the system to the key configuration of the
  key the job names (`connectSystem`);
* unlink and the unlink of a decommission disconnect it, and leave its target as it is;
* a rotation touches only the Event row, unless it fails;
* a failed or canceled job marks the system as FAILED.

A handler reads the system before its transaction, and writes every column of it back.
-/

namespace Cmk

open Tx

def defaultErrorCode : String := "UNKNOWN"

def keyVersionMismatchCode : String := "KEY_VERSION_MISMATCH"

/-- Does the text match `^[A-Z]+(?:_[A-Z]+)*$`? -/
def isScreamingSnakeCase (code : List Char) : Bool :=
  (code.splitOn '_').all fun word => word ≠ [] && word.all fun c => 'A' ≤ c && c ≤ 'Z'

structure OrbitalError where
  message : String
  code : String
  deriving DecidableEq, Repr

def parseOrbitalError (errorMessage : String) : OrbitalError :=
  let code := errorMessage.toList.takeWhile (· ≠ ':')
  if ':' ∉ errorMessage.toList ∨ ¬ isScreamingSnakeCase code then ⟨errorMessage, defaultErrorCode⟩
  else ⟨String.ofList (errorMessage.toList.drop (code.length + 1)), String.ofList code⟩

def isVersionMismatchError (errorMessage : String) : Bool :=
  (parseOrbitalError errorMessage).code = keyVersionMismatchCode

inductive CancelReason where
  | systemNotFound (id : UUID)
  | systemNotProcessing (id : UUID)
  deriving DecidableEq, Repr

inductive JobConfirmerResult where
  | complete
  | cancel (reason : CancelReason)
  deriving DecidableEq, Repr

/-- What the handlers work with: the repository, the registry and the orbital manager. -/
structure JobHandlers where
  repo : Repo
  /-- A call that sets the L1 key claim fails without effect. -/
  claimFault : Nat → Option Err
  /-- Such a failure is not the answer that the claim has the value already. -/
  claimFault_already : ∀ n e, claimFault n = some e →
    e.is .errKeyClaimAlreadyActive = false ∧ e.is .errKeyClaimAlreadyInactive = false
  /-- `ExtendedUpdateSystemStatus`. -/
  lockSystem : Nat → Except Err Unit
  /-- `mergeOrbitalTaskErrors`. -/
  mergeTaskErrors : Nat → Except Err String

namespace JobHandlers

variable (h : JobHandlers) (ctx : Ctx) (job : Job)

/-- The context a handler creates for the tenant of its job. -/
def tenantContext : Ctx :=
  { tenant := job.data.tenantID
    userType := some .internalUser
    businessUserData := none
    internalUserData := some .eventReconciler
    inTx := false }

/-- An ID that is not in the data is an empty string, which is no UUID. -/
def getKeyByKeyID (keyID : Option UUID) : Q Key := do
  match keyID with
  | none => throw (.err (.foreign "invalid input syntax for type uuid"))
  | some keyID => (h.repo.firstKey ctx keyID).mapError (.errorf "failed to get key by ID")

def updateSystem (system : System) : M Unit := do
  let _ ← (h.repo.patchSystem ctx true system).mapError (.errorf "failed to update system")

def cleanUpEvent : M Unit :=
  (h.repo.deleteEvent ctx job.externalID job.type).mapError (.errorf "failed to clean up event")

def updateEventError (errorMessage : String) : M Unit :=
  let orbitalErr := parseOrbitalError errorMessage
  h.repo.patchEventError ctx job.externalID orbitalErr.code orbitalErr.message

/-- `ExtendedUpdateSystemL1KeyClaim`: the registry refuses to set a claim to the value it has. -/
def updateSystemL1KeyClaim (system : System) (keyClaim : Bool) : M Unit :=
  .call fun n _ x =>
    let id := (system.identifier, system.region)
    match h.claimFault n with
    | some e => (.error (.err e), x)
    | none =>
      if x.keyClaims.contains id = keyClaim then
        (.error (.err (.wrap (.sentinel .errSystemsClientFailedUpdatingKeyClaim) (.sentinel
          (if keyClaim then .errKeyClaimAlreadyActive else .errKeyClaimAlreadyInactive)))), x)
      else if keyClaim then (.ok (), { x with keyClaims := id :: x.keyClaims })
      else (.ok (), { x with keyClaims := x.keyClaims.filter (· ≠ id) })

def sendL1KeyClaim (system : System) (keyClaim : Bool) : M Unit := do
  match ← (h.updateSystemL1KeyClaim system keyClaim).attempt with
  | .ok () => return ()
  | .error e =>
    if e.is .errKeyClaimAlreadyActive && keyClaim || e.is .errKeyClaimAlreadyInactive && !keyClaim then
      return ()
    throw (e.wrap .errSettingKeyClaim)

def handleSystemJobConfirm : Q JobConfirmerResult := do
  match ← (h.repo.firstSystem (tenantContext job) job.data.systemID).attempt with
  | .error e =>
    if e.is .errNotFound then return .cancel (.systemNotFound job.data.systemID)
    throw (e.errorf "failed to get system by ID")
  | .ok system =>
    if system.status ≠ .processing then return .cancel (.systemNotProcessing system.id)
    return .complete

/-- The transaction at the end of a link or switch. -/
def connectSystem (system : System) (key : Key) : M Unit :=
  h.repo.transaction ctx fun ctx => do
    h.updateSystem ctx { system with
      status := .connected
      keyConfigurationID := some key.keyConfigurationID
      targetKeyConfigurationID := none }
    h.cleanUpEvent ctx job

/-- The end of a job that left its system failed; without the system there is nothing to do. -/
def failSystem (errorMessage : Q String) : M Unit := do
  let ctx := tenantContext job
  match ← (h.repo.firstSystem ctx job.data.systemID).attempt with
  | .error e => if e.is .errNotFound then return () else throw e
  | .ok system =>
    let errorMessage ← errorMessage
    h.repo.transaction ctx fun ctx => do
      h.updateEventError ctx job errorMessage
      h.updateSystem ctx { system with status := .failed }

/-- The errors of the job's tasks, or the error of the job if there are none. -/
def failureMessage (errorMessage : String) : Q String := do
  match ← (Query.ask fun n _ => (h.mergeTaskErrors n).mapError .err).attempt with
  | .error _ => return errorMessage
  | .ok message => return if message = "" then errorMessage else message

def terminateFailedSystemJob (errorMessage : String) : M Unit :=
  h.failSystem job (h.failureMessage errorMessage)

def terminateCanceledSystemJob (errorMessage : String) : M Unit :=
  h.failSystem job (pure errorMessage)

def linkDone : M Unit := do
  let ctx := tenantContext job
  let system ← h.repo.firstSystem ctx job.data.systemID
  h.sendL1KeyClaim system true
  let key ← (h.getKeyByKeyID ctx job.data.keyIDTo).mapError (.errorf "failed to get key config ID")
  h.connectSystem ctx job system key

def switchDone : M Unit := do
  let ctx := tenantContext job
  let system ← h.repo.firstSystem ctx job.data.systemID
  let key ← (h.getKeyByKeyID ctx job.data.keyIDTo).mapError (.errorf "failed to get key config ID")
  h.connectSystem ctx job system key

def unlinkDone : M Unit := do
  let ctx := tenantContext job
  let system ← h.repo.firstSystem ctx job.data.systemID
  h.sendL1KeyClaim system false
  h.repo.transaction ctx fun ctx => do
    h.updateSystem ctx { system with status := .disconnected, keyConfigurationID := none }
    h.cleanUpEvent ctx job

def terminate : M Unit := do
  let ctx := tenantContext job
  let system ← h.repo.firstSystem ctx job.data.systemID
  let system := { system with status := .disconnected, keyConfigurationID := none }
  h.updateSystem ctx system
  h.sendL1KeyClaim system false

def lockSystemInRegistry : M Unit := do
  let _ ← h.repo.firstSystem (tenantContext job) job.data.systemID
  Prog.mapError (.wrap .errSettingSystemLockedStatus)
    (.call fun n _ x => ((h.lockSystem n).mapError .err, x))

/-- Neither the error messages nor the lock stop the decommission. -/
def decommissionFailed : M Unit := do
  let _ ← (Query.ask fun n _ => (h.mergeTaskErrors n).mapError .err : Q String).attempt
  let _ ← (h.lockSystemInRegistry job).attempt
  (h.terminate job).mapError (.errorf "failed to handle job failed event")

def decommissionCanceled : M Unit := do
  let ctx := tenantContext job
  let system ← h.repo.firstSystem ctx job.data.systemID
  h.updateSystem ctx { system with status := .failed }

def rotateDone : M Unit := do
  let ctx := tenantContext job
  match ← (h.repo.firstSystem ctx job.data.systemID).attempt with
  | .error e => if e.is .errNotFound then h.cleanUpEvent ctx job else throw e
  | .ok _ => (h.cleanUpEvent ctx job).mapError (.errorf "failed to clean up event for system")

def rotateFailed (errorMessage : String) : M Unit := do
  let message ← (Query.ask fun n _ => (h.mergeTaskErrors n).mapError .err : Q String).attempt
  let message := match message with
    | .ok message => message
    | .error _ => errorMessage
  if isVersionMismatchError message then h.cleanUpEvent (tenantContext job) job
  else h.terminateFailedSystemJob job errorMessage

def handleJobConfirm : Q JobConfirmerResult :=
  match job.type with
  | .systemKeyRotate => pure .complete
  | _ => h.handleSystemJobConfirm job

def handleJobDoneEvent : M Unit :=
  match job.type with
  | .systemLink => h.linkDone job
  | .systemUnlink => h.unlinkDone job
  | .systemSwitch | .systemSwitchNewPK => h.switchDone job
  | .systemUnlinkDecommission =>
    (h.terminate job).mapError (.errorf "failed to handle job done event")
  | .systemKeyRotate => h.rotateDone job

def handleJobFailedEvent (errorMessage : String) : M Unit :=
  match job.type with
  | .systemUnlinkDecommission => h.decommissionFailed job
  | .systemKeyRotate => h.rotateFailed job errorMessage
  | _ => h.terminateFailedSystemJob job errorMessage

def handleJobCanceledEvent (errorMessage : String) : M Unit :=
  match job.type with
  | .systemUnlinkDecommission => h.decommissionCanceled job
  | .systemKeyRotate => h.cleanUpEvent (tenantContext job) job
  | _ => h.terminateCanceledSystemJob job errorMessage

end JobHandlers

end Cmk
