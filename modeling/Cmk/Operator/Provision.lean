import Cmk.Access
import Cmk.Operator.Cluster

/-!
# Cmk.Operator.Provision

`handleCreateTenant`: the handler that provisions a tenant. Every invocation probes how far the
creation has come; it creates what is missing and asks to be invoked again, or tells the registry the
groups of the tenant and completes the task.
-/

namespace Cmk

open Tx

def tenantAdminGroup : String := "TenantAdministrator"

def tenantAuditorGroup : String := "TenantAuditor"

/-- `model.NewIAMIdentifier`. -/
def newIAMIdentifier (name tenantID : String) : String := "KMS_" ++ name ++ "_" ++ tenantID

/-- The pattern `^[a-zA-Z0-9 _-]+$`. -/
def validText (s : String) : Bool :=
  s ≠ "" ∧ s.toList.all fun c => c.isAlphanum || c = ' ' || c = '_' || c = '-'

def Group.beforeSave (g : Group) : Option Err :=
  if ¬ validText g.iamIdentifier ∨ 128 < g.iamIdentifier.utf8ByteSize then
    some (.wrapf (.sentinel .errModelValidation) "invalid group IAMIdentifier")
  else if ¬ validText g.name ∨ 64 < g.name.utf8ByteSize then
    some (.wrapf (.sentinel .errModelValidation) "invalid group name")
  else none

def defaultGroup (tenantID name : String) (role : BusinessRole) (id : UUID) : Group where
  id := id
  name := name
  role := some role
  iamIdentifier := newIAMIdentifier name tenantID

/-- What `CreateTenant` and `CreateDefaultGroups` make of the error of a `Create`: a row that exists
means that another onboarding is in progress. -/
def onboardingError (s : Sentinel) : Exn → Exn
  | .err e =>
    let e := if e.is .errUniqueConstraint then .wrap (.sentinel .errOnboardingInProgress) e else e
    .err (.wrap (.sentinel s) e)
  | .panic => .panic

namespace Repo

variable (r : Repo) (ctx : Ctx)

/-- `Create` of a group. The name and the IAM identifier are unique. -/
def createGroup (g : Group) : M Unit :=
  r.exec ctx (.wrap .errCreateResource) fun _ d =>
    let duplicated : Exn := .err (.wrap (.sentinel .errUniqueConstraint) (.foreign "duplicated key"))
    match g.beforeSave with
    | some e => (.error (.err (.wrap (.sentinel .errCreateResource) e)), d)
    | none =>
      if d.groups.rows.any fun g' => g'.name = g.name ∨ g'.iamIdentifier = g.iamIdentifier then
        (.error duplicated, d)
      else
        match d.groups.insert? g with
        | none => (.error duplicated, d)
        | some t => (.ok (), { d with groups := t })

def firstGroupByName (name : String) : Q Group :=
  r.first ctx fun d => d.groups.rows.find? (·.name = name)

end Repo

namespace GroupManager

variable (m : GroupManager) (newUUID : Nat → UUID)

def createGroup (ctx : Ctx) (g : Group) : M Unit := do
  if g.role = none then throw (.of .errGroupRole)
  (m.repo.createGroup ctx g).mapError (.wrap .errCreateGroups)

def createDefaultGroup (ctx : Ctx) (tenantID name : String) (role : BusinessRole) : M Unit := do
  let id ← (Query.ask fun n _ => .ok (newUUID n) : Q UUID)
  (m.createGroup ctx (defaultGroup tenantID name role id)).mapError (onboardingError .errCreatingGroups)

def createDefaultGroups (ctx : Ctx) : M Unit := do
  let tenantID ← (ctx.extractTenantID.mapError (Exn.wrap .errCreateGroups) : Except Exn String)
  m.repo.transaction ctx fun ctx => do
    m.createDefaultGroup newUUID ctx tenantID tenantAdminGroup .tenantAdmin
    m.createDefaultGroup newUUID ctx tenantID tenantAuditorGroup .tenantAuditor

end GroupManager

structure TenantProto where
  id : String
  ownerType : String
  ownerID : String
  name : String
  role : TenantRole
  deriving DecidableEq, Repr

/-- The pattern `^[_a-zA-Z][_a-zA-Z0-9]{2,}$`. -/
def validNamespace (tenantID : String) : Bool :=
  match tenantID.toList with
  | [] => false
  | c :: cs => (c = '_' || c.isAlpha) && 2 ≤ cs.length && cs.all fun c => c = '_' || c.isAlphanum

def namespaceError (tenantID : String) : Option Err :=
  if ¬ validNamespace tenantID then
    some (.foreign ("multitenancy: tenant name must start with an underscore or a letter, followed " ++
      "by at least two characters that can be underscores, letters, or numbers: got '" ++ tenantID ++
      "' (pattern \"^[_a-zA-Z][_a-zA-Z0-9]\x7b2,\x7d$\")"))
  else if tenantID.startsWith "pg_" then
    some (.foreign ("multitenancy: tenant name must not start with 'pg_' as it is reserved for " ++
      "system schemas in PostgreSQL: got '" ++ tenantID ++ "'"))
  else none

def validateSchema (schema : String) : Option Err :=
  match namespaceError schema with
  | some e => some (.wrap (.foreign "invalid schema name pattern") e)
  | none =>
    if schema.utf8ByteSize < 3 ∨ 63 < schema.utf8ByteSize then
      some (.foreign "schema name length must be between 3 and 63 characters")
    else none

inductive SchemaExistenceStatus where
  | schemaNotFound | schemaExists
  deriving DecidableEq, Repr

inductive GroupsExistenceStatus where
  | groupsNotFound | groupsExist
  deriving DecidableEq, Repr

/-- The statuses for a failed check come with an error, and only the error is looked at. -/
structure TenantProbeResult where
  schemaStatus : SchemaExistenceStatus
  groupsStatus : GroupsExistenceStatus
  deriving DecidableEq, Repr

structure TenantOperator where
  db : Connections
  gm : GroupManager
  /-- `base62.EncodeToString` of the library. -/
  encodeToString : String → String
  /-- The names of the enumerations of the registry. -/
  validTenantRoles : List TenantRole
  validTenantStatuses : List String
  /-- `uuid.New`. -/
  newUUID : Nat → UUID
  /-- `SetTenantUserGroups` of the registry. -/
  setTenantUserGroups : Nat → String → List String → Except Err Bool

namespace TenantOperator

variable (o : TenantOperator)

def encodeSchemaNameBase62 (input : String) : Except Err String :=
  if input = "" then .error (.foreign "empty tenant ID")
  else if (o.encodeToString input).utf8ByteSize < 3 ∨ 62 < (o.encodeToString input).utf8ByteSize then
    .error (.foreign ("encoded schema name has invalid length got " ++
      toString (o.encodeToString input).utf8ByteSize))
  else .ok ("_" ++ o.encodeToString input)

/-- `unmarshalTenantData`; `data` is what `proto.Unmarshal` makes of the task data. -/
def unmarshalTenantData (data : Except Err TenantProto) : Except Err TenantRow := do
  let proto ← data.mapError (.errorf "unmarshalling task data failed")
  let schemaName ← (o.encodeSchemaNameBase62 proto.id).mapError (.errorf "schema encoding failed")
  return { id := proto.id
           name := proto.name
           status := "STATUS_ACTIVE"
           ownerType := proto.ownerType
           ownerID := proto.ownerID
           role := proto.role
           domainURL := schemaName
           schemaName := schemaName }

def validate (tenant : TenantRow) : Option Err :=
  if tenant.status ∉ o.validTenantStatuses then
    some (.wrapf (.sentinel .errModelValidation) "tenant status is not valid")
  else if tenant.role ∉ o.validTenantRoles then
    some (.wrapf (.sentinel .errModelValidation) "tenant role is not valid")
  else none

/-! ### The probe -/

def schemaExists (schemaName : String) : OpM Bool :=
  liftM (Query.ask fun n (d : Catalogue) =>
    match o.db.fault n with
    | some e => .error (Exn.err (.wrap (.sentinel .errCheckingTenantExistence) e))
    | none => .ok (d.tenants.rows.any (·.schemaName = schemaName)))

def groupExists (groupType tenantID : String) : OpM Bool := do
  match ← tryErr (o.db.inSchema tenantID fun r ctx => liftM (r.firstGroupByName ctx groupType)) with
  | .ok _ => return true
  | .error e =>
    if e.is .errNotFound then return false
    throw (.err (.wrap (.sentinel .errGroupNotFound) e))

def checkTenantGroupsExistenceStatus (tenantID : String) : OpM GroupsExistenceStatus := do
  let adminExists ← o.groupExists tenantAdminGroup tenantID
  let auditorExists ← o.groupExists tenantAuditorGroup tenantID
  return if adminExists && auditorExists then .groupsExist else .groupsNotFound

def check (tenant : TenantRow) : OpM TenantProbeResult := do
  match ← tryErr (o.schemaExists tenant.schemaName) with
  | .error e =>
    if e.is .errSchemaNotFound then return ⟨.schemaNotFound, .groupsNotFound⟩
    throw (.err e)
  | .ok false => return ⟨.schemaNotFound, .groupsNotFound⟩
  | .ok true => return ⟨.schemaExists, ← o.checkTenantGroupsExistenceStatus tenant.id⟩

def isProvisioningComplete (result : TenantProbeResult) : Bool :=
  result.schemaStatus = .schemaExists ∧ result.groupsStatus = .groupsExist

/-! ### Creating what is missing -/

def createTenant (tenant : TenantRow) : OpM Unit :=
  match validateSchema tenant.schemaName, o.validate tenant with
  | some e, _ => throw (.err (.wrap (.sentinel .errOnboardingTenant) e))
  | none, some e => throw (.err (.wrap (.sentinel .errValidatingTenant) e))
  | none, none => o.db.transaction do
    (o.db.createTenantRow tenant).mapError (onboardingError .errCreatingTenant)
    o.db.migrateTenantToLatest tenant

def unlessInProgress (p : OpM Unit) : OpM Unit := do
  match ← tryErr p with
  | .ok () => return ()
  | .error e => if e.is .errOnboardingInProgress then return () else throw (.err e)

def createTenantSchema (tenant : TenantRow) : OpM Unit := unlessInProgress (o.createTenant tenant)

def createTenantGroups (tenant : TenantRow) : OpM Unit :=
  unlessInProgress (o.db.inSchema tenant.id fun r ctx =>
    { o.gm with repo := r }.createDefaultGroups o.newUUID ctx)

/-! ### The handler -/

/-- `sendTenantUserGroupsToRegistry`. -/
def sendTenantUserGroupsToRegistry (tenantID : String) : OpM Bool :=
  .call fun n _ x =>
    let groups :=
      [newIAMIdentifier tenantAdminGroup tenantID, newIAMIdentifier tenantAuditorGroup tenantID]
    ((o.setTenantUserGroups n tenantID groups).mapError .err, x)

def finalizeTenantProvisioning (tenantID : String) (resp : HandlerResponse) : OpM HandlerResponse := do
  match ← tryErr (o.sendTenantUserGroupsToRegistry tenantID) with
  | .error e =>
    liftM (resp.setErrorStateAndContinue (some e) "failed to send groups to registry")
  -- the registry replied, so the error is nil
  | .ok false => liftM (resp.setErrorStateAndContinue none "failed to send groups to registry")
  | .ok true => return (resp.useRawWorkingState "tenant created successfully").answer .complete

def pendingStep (pending : Bool) (step : OpM Unit) (resp : HandlerResponse) (state : String)
    (next : OpM HandlerResponse) : OpM HandlerResponse :=
  if pending then do
    match ← tryErr step with
    | .error e => liftM (resp.setErrorState e state)
    | .ok () => next
  else next

def handleCreateTenant (data : Except Err TenantProto) (resp : HandlerResponse) :
    OpM HandlerResponse :=
  match o.unmarshalTenantData data with
  | .error e =>
    liftM (resp.setErrorStateAndFail (some (.wrap (.sentinel .errInvalidData) e)) "invalid task data")
  | .ok tenant => do
    match ← tryErr (o.check tenant) with
    | .error e => liftM (resp.setErrorStateAndContinue (some e) "tenant probing failed")
    | .ok probeResult =>
      if isProvisioningComplete probeResult then o.finalizeTenantProvisioning tenant.id resp
      else
        pendingStep (probeResult.schemaStatus ≠ .schemaExists) (o.createTenantSchema tenant) resp
          "schema creation failed" <|
        pendingStep (probeResult.groupsStatus ≠ .groupsExist) (o.createTenantGroups tenant) resp
          "group creation failed" <|
        return (resp.useRawWorkingState "tenant is being created").answer
          (.continueAndWaitFor HandlerResponse.reconcileAfterSecProcessing)

end TenantOperator

end Cmk
