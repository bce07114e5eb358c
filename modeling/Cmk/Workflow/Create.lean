import Cmk.Workflow.Approvers

/-!
# Cmk.Workflow.Create

The workflow manager, second part: whether a workflow may be created (`CheckWorkflow`), its
creation (`CreateWorkflow`), and what the creation stores besides the row: the flag
`UnderWorkflow` of the artifact and the task that assigns the approvers.
-/

namespace Cmk

open Tx

structure WorkflowStatus where
  enabled : Bool := false
  existing : Bool := false
  valid : Bool := false
  canCreate : Bool := false
  errDetails : Option Err := none
  deriving DecidableEq, Repr

/-- The errors that mean the requested action is not valid. -/
def isInvalidAction (e : Err) : Bool :=
  e.isAny [.errConnectSystemNoPrimaryKey, .errNotAllSystemsConnected, .errAlreadyPrimaryKey,
    .errUpdateNonBYOKKeyStatus, .errPrimaryKeyDisabled, .errUnsuportedWorkflow]

/-- An invalid action is reported in the status; any other error is returned. -/
def transformCheckWorkflowError (status : WorkflowStatus) (err : Option Err) :
    Except Exn WorkflowStatus :=
  if !status.canCreate && status.existing then
    .ok { status with errDetails := some (.sentinel .errOngoingWorkflowExist) }
  else
    match err with
    | none => .ok status
    | some e =>
      if isInvalidAction e then .ok { status with errDetails := some e, canCreate := false }
      else .error (.err (.wrap (.sentinel .errCheckWorkflow) e))

def isSupportedWorkflow (workflow : Workflow) : Bool :=
  match workflow.artifactType, workflow.actionType with
  | .key, .updateState | .key, .delete => true
  | .system, .link | .system, .unlink | .system, .switch => true
  | .keyConfiguration, .updatePrimary => true
  | _, _ => false

namespace WorkflowManager

variable (w : WorkflowManager) (ctx : Ctx)

def isKeyStateChange (workflow : Workflow) : Bool :=
  workflow.artifactType = .key ∧ workflow.actionType = .updateState

def isPrimaryKeySwitch (workflow : Workflow) : Bool :=
  workflow.artifactType = .keyConfiguration ∧ workflow.actionType = .updatePrimary

def isSystemConnect (workflow : Workflow) : Bool :=
  workflow.artifactType = .system ∧ (workflow.actionType = .link ∨ workflow.actionType = .switch)

/-- Every key configuration has an enabled primary key. -/
def validateSystemConnect : List KeyConfiguration → Q Unit
  | [] => return ()
  | kc :: kcs => do
    match kc.primaryKeyID with
    | none => throw (.of .errConnectSystemNoPrimaryKey)
    | some keyID =>
      if keyID = UUID.nil then throw (.of .errConnectSystemNoPrimaryKey)
      let key ← w.repo.firstKey ctx keyID
      if key.state ≠ .enabled then throw (.of .errConnectSystemNoPrimaryKey)
      validateSystemConnect kcs

def validatePrimaryKeySwitch (workflow : Workflow) (keyConfigs : List KeyConfiguration) :
    Q Unit := do
  let targetKeyID ← ((w.parseUUID workflow.parameters).mapError .err : Except Exn UUID)
  let keyConfig ← (deref keyConfigs.head? : Except Exn KeyConfiguration)
  match keyConfig.primaryKeyID with
  | none => throw (.of .errPrimaryKeyDisabled)
  | some primaryKeyID =>
    let targetKey ← w.repo.firstKey ctx targetKeyID
    if targetKey.state ≠ .enabled then throw (.of .errPrimaryKeyDisabled)
    let sourceKey ← w.repo.firstKey ctx primaryKeyID
    if sourceKey.state ≠ .enabled then throw (.of .errPrimaryKeyDisabled)
    if primaryKeyID = targetKey.id then throw (.of .errAlreadyPrimaryKey)
    let systems ← w.repo.listSystemsOfKeyConfiguration ctx workflow.artifactID
    if systems.any fun s => s.status ≠ .connected then throw (.of .errNotAllSystemsConnected)

def validateKeyStateChange (workflow : Workflow) : Q Unit := do
  match ← (w.repo.firstKey ctx workflow.artifactID).attempt with
  -- the type is checked before the error, and a key that was not found has none
  | .error _ => throw (.of .errUpdateNonBYOKKeyStatus)
  | .ok key => if key.keyType ≠ some .byok then throw (.of .errUpdateNonBYOKKeyStatus)

def validateWorkflow (workflow : Workflow) : M Unit := do
  let keyConfigs ← w.getKeyConfigurationsFromArtifact ctx workflow
  if isSystemConnect workflow then w.validateSystemConnect ctx keyConfigs
  else if isPrimaryKeySwitch workflow then w.validatePrimaryKeySwitch ctx workflow keyConfigs
  else if isKeyStateChange workflow then w.validateKeyStateChange ctx workflow

def checkOngoingWorkflowForArtifact (workflow : Workflow) : Q Bool := do
  let count ← (w.repo.countOngoing ctx workflow.artifactType workflow.artifactID).mapError
    (.wrap .errCheckOngoingWorkflow)
  return 0 < count

def validateApproverCount (workflow : Workflow) (minimumApprovals : Int) : M Unit := do
  let keyConfigs ← (w.getKeyConfigurationsFromArtifact ctx workflow).mapError
    (.wrap .errCheckWorkflow)
  let (approvers, _) ← (w.getApproversAndGroupsFromKeyConfigs ctx workflow keyConfigs).mapError
    (.wrap .errCheckWorkflow)
  if approvers.length < minimumApprovals then
    throw (.err (.insufficientApprovers minimumApprovals approvers.length))

/-- `checkWorkflow`: the status, and the error returned with it. -/
def checkWorkflowStatus (workflow : Workflow) (enabled : Bool) :
    M (WorkflowStatus × Option Err) := do
  if ¬ enabled then return ({ enabled := false }, none)
  if ¬ isSupportedWorkflow workflow then
    return ({ enabled }, some (.sentinel .errUnsuportedWorkflow))
  match ← errValue (w.validateWorkflow ctx workflow) with
  | .error e => return ({ enabled }, some e)
  | .ok () =>
    match ← errValue (w.checkOngoingWorkflowForArtifact ctx workflow) with
    | .error e => return ({ enabled, valid := true }, some e)
    | .ok true => return ({ enabled, existing := true, valid := true }, none)
    | .ok false =>
      let minimumApprovals ← w.getMinimumApprovals ctx
      match ← errValue (w.validateApproverCount ctx workflow minimumApprovals) with
      | .ok () => return ({ enabled, valid := true, canCreate := true }, none)
      | .error e =>
        if e.is .errWorkflowGroupNotSufficientMembers then
          return ({ enabled, valid := true, errDetails := some e }, none)
        return ({ enabled, valid := true }, some e)

def checkPermissionToCreateWorkflow (workflow : Workflow) : M Bool := do
  match workflow.artifactType with
  | .other s => throw (unsupportedArtifactError s)
  | _ =>
    match ← errValue (w.getKeyConfigurationsFromArtifact ctx workflow) with
    | .error e =>
      if e.is .errKeyConfigurationNotAllowed || e.is .errNotFound then return false
      throw (.err e)
    | .ok _ =>
      let role ← w.userManager.getBusinessUserRole ctx
      return role ≠ some .tenantAuditor

def checkWorkflow (workflow : Workflow) : M WorkflowStatus := do
  let config ← w.workflowConfig ctx
  let allowed ← (w.checkPermissionToCreateWorkflow ctx workflow).mapError (.wrap .errCheckWorkflow)
  if ¬ allowed then throw ((Exn.of .errWorkflowCreationNotAllowed).wrap .errCheckWorkflow)
  let (status, err) ← w.checkWorkflowStatus ctx workflow config.enabled
  (transformCheckWorkflowError status err : Except Exn WorkflowStatus)

/-- The system's property displayed as "NAME", or its identifier. -/
def getWorkflowSystemArtifactName (system : System) : String :=
  match w.systemManager.optionalProperties.find? (·.2.toUpper = "NAME") with
  | none => system.identifier
  | some (propertyName, _) => (system.properties.lookup propertyName).getD system.identifier

def populateArtifact (workflow : Workflow) : M Workflow := do
  match workflow.artifactType with
  | .key =>
    let key ← w.keyManager.get ctx workflow.artifactID
    return { workflow with artifactName := some key.name }
  | .keyConfiguration =>
    let keyConfig ← w.keyConfigurationManager.getKeyConfigurationByID ctx workflow.artifactID
    return { workflow with artifactName := some keyConfig.name }
  | .system =>
    let system ← w.systemManager.getSystemByID ctx workflow.artifactID
    return { workflow with artifactName := some (w.getWorkflowSystemArtifactName system) }
  | .other _ => return workflow

def populateParametersResource (workflow : Workflow) : M Workflow := do
  match workflow.artifactType, workflow.actionType with
  | .keyConfiguration, .updatePrimary =>
    let keyID ← ((w.parseUUID workflow.parameters).mapError .err : Except Exn UUID)
    let key ← w.keyManager.get ctx keyID
    return { workflow with
      parametersResourceType := some .key
      parametersResourceName := some key.name }
  | .system, .link | .system, .switch =>
    let keyConfigID ← ((w.parseUUID workflow.parameters).mapError .err : Except Exn UUID)
    let keyConfig ← w.keyConfigurationManager.getKeyConfigurationByID ctx keyConfigID
    return { workflow with
      parametersResourceType := some .keyConfiguration
      parametersResourceName := some keyConfig.name }
  | _, _ => return workflow

/-- Sets the flag `UnderWorkflow` of an artifact that has one. -/
def patchUnderWorkflow (workflow : Workflow) (b : Bool) : M Unit :=
  match workflow.artifactType with
  | .system => w.repo.patchSystemUnderWorkflow ctx workflow.artifactID b
  | .key => w.repo.patchKeyUnderWorkflow ctx workflow.artifactID b
  | _ => pure ()

def handleNewWorkflow (workflow : Workflow) : M Unit := w.patchUnderWorkflow ctx workflow true

/-- `NewTaskPayload`. -/
def newTaskPayload (data : UUID) : TaskPayload :=
  { tenantID := ctx.tenant
    businessData := ctx.businessUserData.getD ⟨"", [], []⟩
    data := some data }

def createAutoAssignApproversAsyncTask (workflow : Workflow) : M Unit :=
  match w.asyncClient with
  | none => pure ()
  | some client => .call fun n _ x =>
    match client.enqueue n with
    | .error e => (.error (.err (.wrap (.sentinel .errCreateApproverAssignTask) e)), x)
    | .ok () =>
      (.ok (), { x with queue := x.queue ++ [.workflowAutoAssign (newTaskPayload ctx workflow.id)] })

def storeWorkflow (workflow : Workflow) : M Workflow :=
  (w.repo.transaction ctx fun ctx => do
    let workflow ← (w.repo.createWorkflow ctx workflow).mapError (.wrap .errCreateWorkflowDB)
    (w.handleNewWorkflow ctx workflow).mapError (.wrap .errCreateWorkflowDB)
    w.createAutoAssignApproversAsyncTask ctx workflow
    return workflow).mapError (.wrap .errInDBTransaction)

def createWorkflow (workflow : Workflow) : M Workflow := do
  let minimumApprovals ← w.getMinimumApprovals ctx
  let workflow :=
    { workflow with state := .initial, minimumApprovalCount := minimumApprovals }
  let status ← w.checkWorkflow ctx workflow
  if status.existing then throw (.of .errOngoingWorkflowExist)
  match status.errDetails with
  | some e => throw (.err e)
  | none =>
    let workflow ← w.populateArtifact ctx workflow
    let workflow ← w.populateParametersResource ctx workflow
    w.storeWorkflow ctx workflow

end WorkflowManager

end Cmk
