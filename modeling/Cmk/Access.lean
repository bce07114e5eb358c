import Cmk.Repo

/-!
# Cmk.Access

The managers behind the workflow manager that only read: `internal/manager/user.go` (who may see
what), the lookups of `group.go` and `keyconfiguration.go`, and the workflow configuration of
`tenantconfigs.go`, which is written once with its defaults when it is missing.
-/

namespace Cmk

open Tx

inductive APIAction where
  | read | create | update | delete | keyRotate | systemModifyLink
  deriving DecidableEq, Repr

inductive APIResourceType where
  | keyConfiguration | key | system | workflow | userGroup
  deriving DecidableEq, Repr

/-- Is the caller an internal user whose role bypasses the check? Any other internal role is
refused; a business user goes on. -/
def ensureBusinessUserOpsAllowed (ctx : Ctx) (bypassRoles : List InternalRole) :
    Except Exn Bool :=
  match checkInternalUserRoles ctx bypassRoles with
  | .ok () => .ok true
  | .error e =>
    if e.is .errAuthzUnauthorized then .error (.of .errInternalRoleNotSupported) else .ok false

structure User where
  repo : Repo

namespace User

variable (u : User) (ctx : Ctx)

/-- The one role of the user's groups; none if they are in no group. -/
def getRoleFromIAM (iamIdentifiers : List String) : Q (Option BusinessRole) := do
  let authCtx ← (ctx.businessToInternalContext .businessAuthz : Except Exn Ctx)
  let groups ← (u.repo.listGroups authCtx iamIdentifiers 0).mapError (.wrap .errGetGroups)
  match (groups.map (·.role)).dedup with
  | [] => return none
  | [role] => return role
  | _ => throw (.of .errMultipleRolesInGroups)

def roleBypassesGroupFilter (role : Option BusinessRole) (resource : APIResourceType) : Bool :=
  role = some .tenantAuditor ||
    (role = some .tenantAdmin && resource = .userGroup) ||
    (role = some .keyAdmin && resource = .system)

def needsGroupFiltering (action : APIAction) (resource : APIResourceType) : Q Bool := do
  let isBypass ← (ensureBusinessUserOpsAllowed ctx
    [.taskWorkflowApprovers, .taskWorkflowExpiration, .tenantProvisioning] : Except Exn Bool)
  if isBypass then return false
  let iamIdentifiers ← (ctx.extractBusinessUserDataGroups : Except Exn (List String))
  let role ← u.getRoleFromIAM ctx iamIdentifiers
  if action = .read && roleBypassesGroupFilter role resource then return false
  return true

/-- Is the key configuration managed by one of the caller's IAM groups? `adminGroup` is the group
of a key configuration that is being created. -/
def hasKeyConfigAccessVia (keyConfigID : UUID) (adminGroup : Group) (action : APIAction)
    (resource : APIResourceType) : Q Bool := do
  let iamIdentifiers ← (ctx.extractBusinessUserDataGroups : Except Exn (List String))
  let role ← u.getRoleFromIAM ctx iamIdentifiers
  if role = some .tenantAuditor && action = .read then return true
  if iamIdentifiers.isEmpty then throw (.of .errKeyConfigurationNotAllowed)
  if action = .create && resource = .keyConfiguration && adminGroup ≠ {} then
    return iamIdentifiers.contains adminGroup.iamIdentifier
  let authCtx ← (ctx.businessToInternalContext .businessAuthz : Except Exn Ctx)
  let count ← (u.repo.countKeyConfigurationsManagedBy authCtx keyConfigID iamIdentifiers).mapError
    (.wrap .errCheckKeyConfigManagedByIAMGroups)
  return 0 < count

/-- The common end of the access checks: is the caller's scope filtered, and may they act? -/
def checkAccess (keyConfigID : UUID) (adminGroup : Group) (action : APIAction)
    (resource : APIResourceType) : Q Bool := do
  let isGroupFiltered ← u.needsGroupFiltering ctx action resource
  let isAuthorized ← (u.hasKeyConfigAccessVia ctx keyConfigID adminGroup action resource).mapError
    (.wrap .errGettingKeyConfigByID)
  if isAuthorized then return isGroupFiltered
  throw (.of .errKeyConfigurationNotAllowed)

def hasKeyAccess (action : APIAction) (keyConfigID : UUID) : Q Bool := do
  let isBypass ← (ensureBusinessUserOpsAllowed ctx
    [.taskWorkflowApprovers, .tenantProvisioning, .taskPendingStateSync] : Except Exn Bool)
  if isBypass then return false
  u.checkAccess ctx keyConfigID {} action .key

def hasKeyConfigAccess (action : APIAction) (keyConfig : Option KeyConfiguration) : Q Bool := do
  let isBypass ← (ensureBusinessUserOpsAllowed ctx
    [.taskWorkflowApprovers, .tenantProvisioning] : Except Exn Bool)
  if isBypass then return false
  match keyConfig with
  | some kc => u.checkAccess ctx kc.id kc.adminGroup action .keyConfiguration
  | none =>
    let isGroupFiltered ← u.needsGroupFiltering ctx action .keyConfiguration
    if action = .read then return isGroupFiltered
    throw (.of .errKeyConfigurationNotFound)

/-- A system without a key configuration is accessible to everyone. -/
def hasSystemAccess (action : APIAction) (system : System) : Q Bool := do
  let isBypass ← (ensureBusinessUserOpsAllowed ctx
    [.taskWorkflowApprovers, .tenantProvisioning] : Except Exn Bool)
  if isBypass then return false
  match system.keyConfigurationID with
  | none => return false
  | some keyConfigID => u.checkAccess ctx keyConfigID {} action .system

/-- The role of `GetBusinessUserInfo`; none for a bypassing internal user. -/
def getBusinessUserRole : Q (Option BusinessRole) := do
  let isBypass ← (ensureBusinessUserOpsAllowed ctx
    [.taskWorkflowApprovers, .taskWorkflowExpiration, .tenantProvisioning] : Except Exn Bool)
  if isBypass then return none
  let groups ← (ctx.extractBusinessUserDataGroups : Except Exn (List String))
  u.getRoleFromIAM ctx groups

end User

structure KeyConfigManager where
  repo : Repo
  user : User

namespace KeyConfigManager

variable (m : KeyConfigManager) (ctx : Ctx)

def getKeyConfigurationByID (keyConfigID : UUID) : Q KeyConfiguration := do
  let _ ← m.user.hasKeyConfigAccess ctx .read
    (some { id := keyConfigID, name := "", adminGroupID := UUID.nil, primaryKeyID := none })
  (m.repo.firstKeyConfigurationWithAdminGroup ctx keyConfigID).mapError
    (.wrap .errGettingKeyConfigByID)

/-- `ptr.IsNotNilUUID`. -/
def isNotNilUUID (id : Option UUID) : Bool := id ≠ none ∧ id ≠ some UUID.nil

/-- The primary key, if there is one and it is enabled. -/
def canConnectSystems (keyConfig : KeyConfiguration) : Q UUID := do
  match keyConfig.primaryKeyID with
  | none => throw (.of .errConnectSystemNoPrimaryKey)
  | some keyID =>
    if keyID = UUID.nil then throw (.of .errConnectSystemNoPrimaryKey)
    let pKey ← (m.repo.firstKey ctx keyID).mapError (.wrap .errGettingKeyByID)
    if pKey.state ≠ .enabled then throw (.of .errConnectSystemNoPrimaryKey)
    return keyID

end KeyConfigManager

abbrev AuthContext := List (String × String)

/-- A failed lookup of a user: not found, or another error. -/
inductive GetUserError where
  | notFound
  | failed (e : Err)

/-- The identity management plugin. Its answers may change from call to call. -/
structure IdentityManagement where
  /-- The e-mail address of a user. -/
  getUser : Nat → String → AuthContext → Except GetUserError String
  /-- The plugin's ID of a group. -/
  getGroup : Nat → String → AuthContext → Except Err String
  /-- The IDs of the users of a group. -/
  listGroupUsers : Nat → String → AuthContext → Except Err (List String)

structure Registry where
  identityManagement : Nat → Except Err IdentityManagement

namespace IdentityManagement

variable (idm : IdentityManagement) (ctx : Ctx)

def members (iamIdentifier : String) (auth : AuthContext) : Q (List String) := do
  let groupID ← Query.ask fun n _ => (idm.getGroup n iamIdentifier auth).mapError .err
  Query.ask fun n _ => (idm.listGroupUsers n groupID auth).mapError .err

/-- `identity.GetUserName`. -/
def getUserName (id : String) : Q String := do
  let auth ← (ctx.extractBusinessUserDataAuthContext : Except Exn AuthContext)
  Query.ask fun n _ =>
    match idm.getUser n id auth with
    | .ok email => .ok email
    | .error .notFound => .ok "UNKNOWN"
    | .error (.failed e) => .error (.err e)

end IdentityManagement

structure AsyncClient where
  enqueue : Nat → Except Err Unit

structure GroupManager where
  repo : Repo
  userManager : User
  svcRegistry : Option Registry

namespace GroupManager

variable (m : GroupManager) (ctx : Ctx)

def getGroupByID (id : UUID) : Q Group := do
  let isGroupFiltered ← m.userManager.needsGroupFiltering ctx .read .userGroup
  -- without client data the filter is empty and no group matches
  let own := match ctx.extractBusinessUserDataGroups with
    | .ok groups => groups
    | .error _ => []
  (m.repo.firstGroup ctx id (if isGroupFiltered then some own else none)).mapError
    (.wrap .errGetGroups)

def getIdentityManagementPlugin : Q IdentityManagement :=
  match m.svcRegistry with
  | none => throw (.err (.wrapf (.sentinel .errLoadIdentityManagementPlugin)
      "plugin catalog is not initialized"))
  | some registry => Query.ask fun n _ => (registry.identityManagement n).mapError .err

end GroupManager

structure DeploymentWorkflowConfig where
  defaultMinimumApprovals : Int
  defaultRetentionPeriodDays : Int
  defaultExpiryPeriodDays : Int
  defaultMaxExpiryPeriodDays : Int

structure TenantConfigManager where
  repo : Repo
  cfg : Option DeploymentWorkflowConfig

namespace TenantConfigManager

variable (m : TenantConfigManager) (ctx : Ctx)

/-- A deployment value overrides the default if it is positive. -/
def override (value default : Int) : Int := if 0 < value then value else default

def getDefaultWorkflowConfig (defaultEnabled : Bool) : WorkflowConfig :=
  let c : WorkflowConfig :=
    { enabled := defaultEnabled
      minimumApprovals := 2
      retentionPeriodDays := 30
      defaultExpiryPeriodDays := 7
      maxExpiryPeriodDays := 30 }
  match m.cfg with
  | none => c
  | some cfg =>
    { c with
      minimumApprovals := override cfg.defaultMinimumApprovals c.minimumApprovals
      retentionPeriodDays := override cfg.defaultRetentionPeriodDays c.retentionPeriodDays
      defaultExpiryPeriodDays := override cfg.defaultExpiryPeriodDays c.defaultExpiryPeriodDays
      maxExpiryPeriodDays := override cfg.defaultMaxExpiryPeriodDays c.maxExpiryPeriodDays }

/-- Stores a workflow configuration that passes the checks. -/
def storeWorkflowConfig (c : WorkflowConfig) : M WorkflowConfig := do
  let refuse (s : Sentinel) : Exn := (Exn.of s).wrap .errSetWorkflowConfig
  if c.retentionPeriodDays < 30 then throw (refuse .errRetentionLessThanMinimum)
  if c.defaultExpiryPeriodDays > c.maxExpiryPeriodDays then
    throw (refuse .errDefaultExpiryExceedsMax)
  if c.minimumApprovals < 2 then throw (refuse .errMinimumApprovalsTooLow)
  (m.repo.setWorkflowConfig ctx c).mapError (.wrap .errSetWorkflowConfig)
  return c

/-- `SetWorkflowConfig`; without a configuration the default of the tenant's role. -/
def setWorkflowConfig (workflowConfig : Option WorkflowConfig) : M WorkflowConfig := do
  match workflowConfig with
  | some c => m.storeWorkflowConfig ctx c
  | none =>
    let t ← m.repo.getTenant ctx
    m.storeWorkflowConfig ctx (m.getDefaultWorkflowConfig (t.role = .live))

def getWorkflowConfig : M WorkflowConfig := do
  match ← (m.repo.firstWorkflowConfig ctx).attempt with
  | .ok c => return c
  | .error e =>
    if e.is .errNotFound then m.setWorkflowConfig ctx none
    else throw (e.wrap .errGetWorkflowConfig)

end TenantConfigManager

end Cmk
