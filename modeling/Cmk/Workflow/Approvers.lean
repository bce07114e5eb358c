import Cmk.Lifecycle

/-!
# Cmk.Workflow.Approvers

The workflow manager of `internal/manager/workflow.go`, first part: which key configurations a
workflow concerns, who its approvers are, who of them is still eligible to vote, and the lifecycle
the manager builds for a workflow.
-/

namespace Cmk

open Tx

structure WorkflowManager where
  repo : Repo
  keyManager : KeyActions
  keyConfigurationActions : KeyConfigurationActions
  keyConfigurationManager : KeyConfigManager
  systemManager : SystemManager
  groupManager : GroupManager
  userManager : User
  asyncClient : Option AsyncClient
  tenantConfigManager : TenantConfigManager
  svcRegistry : Registry
  /-- Does the notifier produce a task for a transition? -/
  createTask : Nat → Except Err Bool
  /-- `uuid.Parse`. -/
  parseUUID : String → Except Err UUID
  /-- `uuid.New`. -/
  newUUID : Nat → UUID
  /-- `json.Unmarshal` of a list of IDs. -/
  unmarshalIDs : String → Except Err (List UUID)

namespace WorkflowManager

variable (w : WorkflowManager) (ctx : Ctx)

def workflowConfig : M WorkflowConfig :=
  (w.tenantConfigManager.getWorkflowConfig ctx).mapError fun
    | .err e => .err (.join (.sentinel .errGetWorkflowConfig) e)
    | .panic => .panic

def getMinimumApprovals : M Int := do
  match ← errValue (w.tenantConfigManager.getWorkflowConfig ctx) with
  | .ok config => return if 0 < config.minimumApprovals then config.minimumApprovals else 2
  | .error _ => return 2

/-- The minimum a lifecycle is built with: the workflow's own, or for workflows created before the
field existed the one of the tenant. -/
def minimumApprovalsOf (workflow : Workflow) : M Int := do
  if workflow.minimumApprovalCount = 0 then
    let config ← (w.workflowConfig ctx).mapError fun
      | .err e => .err (.join (.sentinel .errGetWorkflowConfig) e)
      | .panic => .panic
    return config.minimumApprovals
  return workflow.minimumApprovalCount

/-- `getWorkflowLifecycleWithEligibility`, once the minimum is known. -/
def workflowLifecycle (workflow : Workflow) (userID : String) (minimumApprovals : Int)
    (eligibleApproverIDs : Option (List String)) : Lifecycle :=
  { Lifecycle.new workflow w.keyManager w.keyConfigurationActions w.systemManager w.repo userID
      minimumApprovals w.parseUUID with
    eligibleApproverIDs := eligibleApproverIDs }

/-- The groups named in the column the junction table replaced. -/
def expandGroups : List UUID → Q (List Group)
  | [] => return []
  | id :: ids => do
    let group ← (do
      match ← (w.groupManager.getGroupByID ctx id).attempt with
      | .ok group => return group
      | .error _ => return { id, name := "NOT_AVAILABLE", role := some .keyAdmin })
    return group :: (← expandGroups ids)

def getApproverGroupsFromLegacyField (workflow : Workflow) : Q (List Group) := do
  match workflow.approverGroupIDs with
  | none => return []
  | some json =>
    let ids ← ((w.unmarshalIDs json).mapError .err : Except Exn (List UUID))
    w.expandGroups ctx ids

def getWorkflowApproverGroups (workflow : Workflow) : Q (List Group) := do
  let groups ← w.repo.listApproverGroups ctx workflow.id
  if groups.isEmpty then w.getApproverGroupsFromLegacyField ctx workflow
  else return groups

/-- The users who are in any of the groups now. Groups that no longer exist are skipped. -/
def queryGroupMembersFromIAM (idm : IdentityManagement) (auth : AuthContext) :
    List Group → Q (List String)
  | [] => return []
  | group :: groups => do
    match ← (w.groupManager.getGroupByID ctx group.id).attempt with
    | .error e =>
      if e.is .errNotFound || e.is .errGetGroups then
        queryGroupMembersFromIAM idm auth groups
      else throw (e.wrap .errCheckWorkflowEligibility)
    | .ok group =>
      let users ← (idm.members group.iamIdentifier auth).mapError
        (.wrap .errCheckWorkflowEligibility)
      return users ++ (← queryGroupMembersFromIAM idm auth groups)

/-- The members of the approver groups; none if the workflow has no groups. -/
def getEligibleUserIDsForWorkflow (workflow : Workflow) : Q (Option (List String)) := do
  let groups ← (w.getWorkflowApproverGroups ctx workflow).mapError
    (.wrap .errCheckWorkflowEligibility)
  if groups.isEmpty then return none
  let idm ← w.groupManager.getIdentityManagementPlugin.mapError (.wrap .errCheckWorkflowEligibility)
  return some (← w.queryGroupMembersFromIAM ctx idm ctx.authContext groups)

/-- Eligibility is best effort: if it cannot be checked, every approver counts. -/
def fetchEligibilityForVote (workflow : Workflow) (t : Transition) : Q (Option (List String)) := do
  if workflow.state ≠ .waitApproval then return none
  if ¬ t.isVote then return none
  match ← (w.getEligibleUserIDsForWorkflow ctx workflow).attempt with
  | .ok ids => return ids
  | .error _ => return none

def approverNoLongerEligibleError (userID : String) : Exn :=
  .err (.wrapf (.sentinel .errApproverNoLongerEligible)
    ("approver " ++ userID ++ " has been removed from the admin group and cannot vote"))

def checkApproverEligibility (workflow : Workflow) (userID : String) : Q Unit := do
  let groups ← (w.getWorkflowApproverGroups ctx workflow).mapError
    (.wrap .errCheckWorkflowEligibility)
  if groups.isEmpty then return ()
  let idm ← w.groupManager.getIdentityManagementPlugin.mapError (.wrap .errCheckWorkflowEligibility)
  let eligibleUserIDs ← w.queryGroupMembersFromIAM ctx idm ctx.authContext groups
  if ¬ eligibleUserIDs.contains userID then throw (approverNoLongerEligibleError userID)

def resolveUserGroupIDs : Q (List UUID) := do
  let userIAMGroups ← (ctx.extractBusinessUserDataGroups : Except Exn (List String))
  if userIAMGroups.isEmpty then return []
  let groups ← w.repo.listGroups ctx userIAMGroups userIAMGroups.length
  return groups.map (·.id)

/-- The approver groups the caller is in; none if the workflow has no groups. -/
def resolveActorApproverGroupIDs (workflow : Workflow) : Q (Option (List UUID)) := do
  let groups ← w.getWorkflowApproverGroups ctx workflow
  if groups.isEmpty then return none
  let userGroupIDs ← w.resolveUserGroupIDs ctx
  return some ((groups.map (·.id)).filter userGroupIDs.contains)

def getKeyConfigFromSystem (workflow : Workflow) : Q (List KeyConfiguration) := do
  let current ← (do
    match workflow.actionType with
    | .unlink | .switch =>
      let system ← (w.systemManager.getSystemByID ctx workflow.artifactID).mapError
        (.wrap .errGetKeyConfigFromArtifact)
      let keyConfigID ← (deref system.keyConfigurationID : Except Exn UUID)
      let keyConfig ← (w.keyConfigurationManager.getKeyConfigurationByID ctx keyConfigID).mapError
        (.wrap .errGetKeyConfigFromArtifact)
      return [keyConfig]
    | _ => return [])
  let target ← (do
    match workflow.actionType with
    | .link | .switch =>
      let keyConfigID ← ((w.parseUUID workflow.parameters).mapError fun e =>
        .err (.wrapf (.sentinel .errGetKeyConfigFromArtifact)
          ("invalid key configuration ID in workflow parameters: " ++ e.error)) : Except Exn UUID)
      let keyConfig ← (w.keyConfigurationManager.getKeyConfigurationByID ctx keyConfigID).mapError
        (.wrap .errGetKeyConfigFromArtifact)
      return [keyConfig]
    | _ => return [])
  return current ++ target

def getKeyConfigFromKey (workflow : Workflow) : M KeyConfiguration := do
  let key ← (w.keyManager.get ctx workflow.artifactID).mapError (.wrap .errGetKeyConfigFromArtifact)
  (w.keyConfigurationManager.getKeyConfigurationByID ctx key.keyConfigurationID).mapError
    (.wrap .errGetKeyConfigFromArtifact)

def unsupportedArtifactError (s : String) : Exn :=
  .err (.wrapf (.sentinel .errGetKeyConfigFromArtifact) ("unsupported artifact type: " ++ s))

def getKeyConfigurationsFromArtifact (workflow : Workflow) : M (List KeyConfiguration) := do
  match workflow.artifactType with
  | .keyConfiguration =>
    let keyConfig ←
      (w.keyConfigurationManager.getKeyConfigurationByID ctx workflow.artifactID).mapError
        (.wrap .errGetKeyConfigFromArtifact)
    return [keyConfig]
  | .system => w.getKeyConfigFromSystem ctx workflow
  | .key => return [← w.getKeyConfigFromKey ctx workflow]
  | .other s => throw (unsupportedArtifactError s)

/-- The users of the admin groups other than the initiator, and the groups. -/
def collectApprovers (idm : IdentityManagement) (auth : AuthContext) (initiatorID : String) :
    List KeyConfiguration → Q (List String × List Group)
  | [] => return ([], [])
  | keyConfig :: keyConfigs => do
    let group := keyConfig.adminGroup
    if group.id = UUID.nil then
      throw (.err (.wrapf (.sentinel .errAutoAssignApprover)
        "admin group not loaded for key configuration"))
    let users ← (idm.members group.iamIdentifier auth).mapError (.wrap .errAutoAssignApprover)
    let (approvers, groups) ← collectApprovers idm auth initiatorID keyConfigs
    return (users.filter (· ≠ initiatorID) ++ approvers, group :: groups)

/-- The maps of the source keep one entry for each user and for each IAM identifier. -/
def getApproversAndGroupsFromKeyConfigs (workflow : Workflow) (keyConfigs : List KeyConfiguration) :
    Q (List String × List Group) := do
  let idm ← w.groupManager.getIdentityManagementPlugin
  let (approvers, groups) ←
    collectApprovers idm ctx.authContext workflow.initiatorID keyConfigs
  return (approvers.dedup, groups.pwFilter fun g g' => g.iamIdentifier ≠ g'.iamIdentifier)

end WorkflowManager

end Cmk
