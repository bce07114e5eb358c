import Cmk.Errors

/-!
# Cmk.Store

The rows of one tenant's tables, the tables, the world outside the database, and the request
context with the functions of `utils/context` that read it.

A struct read from the database is a value of the row type. Fields that gorm does not store
(`System.properties`, `KeyConfiguration.adminGroup`) are filled by the query that loads them.
-/

namespace Cmk

open Tx

structure Workflow where
  id : UUID
  state : WorkflowState
  initiatorID : String
  artifactType : WorkflowArtifactType
  artifactID : UUID
  artifactName : Option String
  actionType : WorkflowActionType
  parameters : String
  parametersResourceName : Option String
  parametersResourceType : Option WorkflowParametersResourceType
  failureReason : String
  expiryDate : Option Int
  minimumApprovalCount : Int
  /-- The column the junction table replaced, as JSON text. -/
  approverGroupIDs : Option String
  deriving DecidableEq, Repr

structure WorkflowApprover where
  workflowID : UUID
  userID : String
  /-- `sql.NullBool`: no vote, approved or rejected. -/
  approved : Option Bool
  deriving DecidableEq, Repr

structure WorkflowApproverGroup where
  id : UUID
  workflowID : UUID
  groupID : UUID
  deriving DecidableEq, Repr

structure Group where
  id : UUID := UUID.nil
  name : String := ""
  role : Option BusinessRole := none
  iamIdentifier : String := ""
  deriving DecidableEq, Repr

structure KeyConfiguration where
  id : UUID
  name : String
  description : String := ""
  adminGroupID : UUID
  primaryKeyID : Option UUID
  adminGroup : Group := {}
  deriving DecidableEq, Repr

/-- Properties are kept as the text of their JSON values. -/
structure KeyAccessDetailsRegion where
  certificateSubject : Option String := none
  additionalProperties : List (String × String) := []
  deriving DecidableEq, Repr

inductive CryptoAccessData where
  | undecodable (text : String)
  | null
  | regions (data : List (String × KeyAccessDetailsRegion))
  deriving DecidableEq, Repr

structure KeyErrorDetail where
  errorCode : String
  errorMessage : String
  errorTimestamp : Int
  deriving DecidableEq, Repr

structure Key where
  id : UUID
  keyConfigurationID : UUID
  name : String
  keyType : Option KeyType
  state : KeyState
  underWorkflow : Bool
  description : String := ""
  nativeID : Option String := none
  createdAt : Int := 0
  cryptoAccessData : Option CryptoAccessData := none
  errorDetail : Option KeyErrorDetail := none
  deriving DecidableEq, Repr

/-- A version is identified by its key and its ID at the provider. -/
structure KeyVersion where
  keyID : UUID
  nativeID : String
  rotatedAt : Int
  status : String
  deriving DecidableEq, Repr

structure KeyLabel where
  id : UUID
  resourceID : UUID
  deriving DecidableEq, Repr

structure System where
  id : UUID
  identifier : String
  region : String
  keyConfigurationID : Option UUID
  targetKeyConfigurationID : Option UUID
  status : SystemStatus
  underWorkflow : Bool
  properties : List (String × String) := []
  deriving DecidableEq, Repr

structure SystemProperty where
  id : UUID
  key : String
  value : String
  deriving DecidableEq, Repr

structure SystemActionJobData where
  systemID : UUID
  tenantID : String := ""
  keyIDTo : Option UUID := none
  keyIDFrom : Option UUID := none
  trigger : String := ""
  deriving DecidableEq, Repr

structure Job where
  externalID : UUID
  type : JobType
  data : SystemActionJobData
  status : String
  deriving DecidableEq, Repr

structure KeyActionJobData where
  tenantID : String
  keyID : UUID
  deriving DecidableEq, Repr

/-- A job that tells the targets of a key about its state. -/
structure KeyJob where
  externalID : UUID
  type : KeyJobType
  data : KeyActionJobData
  status : String
  deriving DecidableEq, Repr

structure Event where
  identifier : UUID
  type : JobType
  data : SystemActionJobData
  status : String
  previousItemStatus : SystemStatus
  errorCode : String := ""
  errorMessage : String := ""
  deriving DecidableEq, Repr

structure Tenant where
  id : String
  role : TenantRole
  deriving DecidableEq, Repr

structure WorkflowConfig where
  enabled : Bool
  minimumApprovals : Int
  retentionPeriodDays : Int
  defaultExpiryPeriodDays : Int
  maxExpiryPeriodDays : Int
  deriving DecidableEq, Repr

namespace WorkflowApprover

def key (a : WorkflowApprover) : UUID × String := (a.workflowID, a.userID)

end WorkflowApprover

namespace KeyVersion

/-- The columns of the unique index `idx_key_versions_key_native`. -/
def key (v : KeyVersion) : UUID × String := (v.keyID, v.nativeID)

end KeyVersion

namespace SystemProperty

def primaryKey (p : SystemProperty) : UUID × String := (p.id, p.key)

end SystemProperty

/-- The schema of one tenant, and the shared table of tenants. -/
structure Db where
  workflows : Table Workflow.id
  approvers : Table WorkflowApprover.key
  approverGroups : Table WorkflowApproverGroup.id
  groups : Table Group.id
  keyConfigurations : Table KeyConfiguration.id
  keys : Table Key.id
  keyVersions : Table KeyVersion.key
  keyLabels : Table KeyLabel.id
  systems : Table System.id
  systemProperties : Table SystemProperty.primaryKey
  events : Table Event.identifier
  /-- The row of `tenant_configs` with key `WORKFLOW_CONFIG`. -/
  workflowConfig : Option WorkflowConfig
  tenants : Table Tenant.id

structure ClientData where
  identifier : String
  groups : List String
  authContext : List (String × String)
  deriving DecidableEq, Repr

/-- `asyncUtils.TaskPayload`; `data` is `none` if its bytes are not a UUID. -/
structure TaskPayload where
  tenantID : String
  businessData : ClientData
  data : Option UUID
  deriving DecidableEq, Repr

inductive Task where
  | workflowAutoAssign (payload : TaskPayload)
  | workflowNotification (workflowID : UUID) (t : Transition) (recipients : List String)
  | pendingStateSync (payload : TaskPayload)
  deriving DecidableEq, Repr

/-- A call of `executeWorkflowAction`: for which workflow, the rows it saw, and the number of
statements before it. -/
structure Execution where
  workflowID : UUID
  db : Db
  clock : Nat

/-- The audit logs of `internal/auditor` about keys. -/
inductive AuditEvent where
  | create | delete | enable | disable | rotate | detach
  deriving DecidableEq, Repr

/-- The task queue, the jobs of the orbital manager for systems and for keys, a record of the actions
executed, the systems (by identifier and region) whose L1 key claim is active in the registry, the
IDs of the keys deleted at their provider, the audit logs sent, and a record of the keys whose
rotation was announced to the systems. -/
structure World where
  queue : List Task
  jobs : List Job
  executed : List Execution
  keyClaims : List (String × String) := []
  keyJobs : List KeyJob := []
  deletedKeys : List String := []
  auditLog : List (AuditEvent × UUID) := []
  announced : List UUID := []

inductive UserType where
  | businessUser | internalUser
  deriving DecidableEq, Repr

structure Ctx where
  tenant : String
  userType : Option UserType
  businessUserData : Option ClientData
  internalUserData : Option InternalRole
  /-- The context carries the transaction of `sql.ResourceRepository.Transaction`. -/
  inTx : Bool
  deriving DecidableEq, Repr

namespace Ctx

def extractTenantID (ctx : Ctx) : Except Exn String :=
  if ctx.tenant = "" then
    .error (.err (.wrap (.sentinel .errExtractTenantID) (.sentinel .errTenantInvalid)))
  else .ok ctx.tenant

def extractUserType (ctx : Ctx) : Except Exn UserType :=
  match ctx.userType with
  | some t => .ok t
  | none => .error (.of .errExtractUserType)

def extractBusinessUserData (ctx : Ctx) : Except Exn ClientData :=
  match ctx.businessUserData with
  | some d => .ok d
  | none => .error (.of .errExtractBusinessUserData)

def extractBusinessUserDataGroups (ctx : Ctx) : Except Exn (List String) :=
  return (← ctx.extractBusinessUserData).groups

def extractBusinessUserDataAuthContext (ctx : Ctx) : Except Exn (List (String × String)) :=
  return (← ctx.extractBusinessUserData).authContext

/-- The auth context, or an empty one for a caller without business data. -/
def authContext (ctx : Ctx) : List (String × String) :=
  match ctx.extractBusinessUserDataAuthContext with
  | .ok c => c
  | .error _ => []

def extractInternalRole (ctx : Ctx) : Except Exn InternalRole := do
  let userType ← ctx.extractUserType
  if userType ≠ .internalUser then throw (.of .errInvalidUserType)
  match ctx.internalUserData with
  | some role => return role
  | none => throw (.of .errExtractBusinessUserData)

/-- Business users are identified by their IAM identifier, internal users by their role. -/
def extractUserIdentifier (ctx : Ctx) : Except Exn String :=
  match ctx.extractBusinessUserData with
  | .ok d => .ok d.identifier
  | .error _ => return (← ctx.extractInternalRole).toString

/-- The context a business user's authorization queries run in. It is a new context: it does not
carry the caller's transaction. -/
def businessToInternalContext (ctx : Ctx) (role : InternalRole) : Except Exn Ctx := do
  match ctx.userType with
  | some .internalUser => throw (.of .errInvalidUserType)
  | _ =>
    let tenantID ← ctx.extractTenantID
    return { tenant := tenantID, userType := some .internalUser, businessUserData := none,
             internalUserData := some role, inTx := false }

end Ctx

def checkInternalUserRole (ctx : Ctx) (role : InternalRole) : Except Exn Unit := do
  let ctxRole ← ctx.extractInternalRole.mapError (·.wrap .errExtractInternalUserData)
  if ctxRole ≠ role then throw (.of .errAuthzUnauthorized)

def checkInternalUserRoles (ctx : Ctx) (allowedRoles : List InternalRole) : Except Exn Unit := do
  let ctxRole ← ctx.extractInternalRole.mapError (·.wrap .errExtractInternalUserData)
  if ctxRole ∉ allowedRoles then throw (.of .errAuthzUnauthorized)

end Cmk
