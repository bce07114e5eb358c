import Cmk.Access

/-!
# Cmk.System

Systems: the event factory of `internal/event-processor` that turns a link, switch or unlink into
an orbital job, and the two actions of `internal/manager/system.go` a workflow executes.

`handleSystemStatus` marks the system as PROCESSING and creates the job in one transaction. The
job manager keeps its own store, so a job is not undone with the transaction.
-/

namespace Cmk

open Tx

/-- A nil dereference panics. -/
def deref {α : Type} : Option α → Except Exn α
  | some a => .ok a
  | none => .error .panic

/-- The events of a workflow's action, with the keys they name. -/
inductive SystemEvent where
  | link (keyID : Option UUID)
  | unlink (keyID : Option UUID)
  | switch (keyIDTo keyIDFrom : Option UUID)

structure EventFactory where
  repo : Repo
  /-- `orbital.Manager.PrepareJob` for a system: the status of the new job. The answer may depend on
  the jobs orbital has. -/
  prepareJob : Nat → World → UUID → JobType → Except Err String
  /-- The same for a key. -/
  prepareKeyJob : Nat → World → UUID → KeyJobType → Except Err String

namespace EventFactory

variable (f : EventFactory) (ctx : Ctx)

def createJobFor (externalID : UUID) (type : JobType) (data : SystemActionJobData) : M Job :=
  .call fun n _ x =>
    match f.prepareJob n x externalID type with
    | .error e => (.error (.err e), x)
    | .ok status =>
      let job : Job := { externalID, type, data, status }
      (.ok job, { x with jobs := x.jobs ++ [job] })

def createJob (type : JobType) (data : SystemActionJobData) : M Job :=
  f.createJobFor data.systemID type data

def createSystemEventJob (type : JobType) (data : SystemActionJobData) : M Job := do
  let tenantID ← (ctx.extractTenantID : Except Exn String)
  f.createJob type { data with tenantID := tenantID }

def handleSystemStatus (system : System) (eventFn : M Job) : M Job := do
  let previousStatus := system.status
  let job ← f.repo.transaction ctx fun ctx => do
    if system.status = .processing then throw (.of .errSystemProcessing)
    let _ ← f.repo.patchSystem ctx true { system with status := .processing }
    eventFn
  -- a failure to store the event is only logged
  let _ ← (f.repo.setEvent ctx
    { identifier := job.externalID
      type := job.type
      data := job.data
      status := job.status
      previousItemStatus := previousStatus }).attempt
  return job

def systemLink (system : System) (keyID : UUID) : M Job :=
  f.handleSystemStatus ctx system
    (f.createSystemEventJob ctx .systemLink { systemID := system.id, keyIDTo := some keyID })

def systemUnlink (system : System) (keyID : UUID) : M Job :=
  f.handleSystemStatus ctx system
    (f.createSystemEventJob ctx .systemUnlink { systemID := system.id, keyIDFrom := some keyID })

def systemSwitch (system : System) (keyIDTo keyIDFrom : UUID) : M Job :=
  f.handleSystemStatus ctx system
    (f.createSystemEventJob ctx .systemSwitch
      { systemID := system.id, keyIDTo := some keyIDTo, keyIDFrom := some keyIDFrom })

def sendEvent (system : System) (event : SystemEvent) : M Unit := do
  let _ ← Prog.mapError (.wrap .errEventSendingFailed) <| do
    match event with
    | .link keyID => f.systemLink ctx system (← deref keyID)
    | .unlink keyID => f.systemUnlink ctx system (← deref keyID)
    | .switch keyIDTo keyIDFrom => f.systemSwitch ctx system (← deref keyIDTo) (← deref keyIDFrom)

end EventFactory

structure SystemManager where
  repo : Repo
  user : User
  keyConfigManager : KeyConfigManager
  eventFactory : EventFactory
  /-- `ContextModelsCfg.OptionalProperties`: property names and their display names. -/
  optionalProperties : List (String × String)

namespace SystemManager

variable (m : SystemManager) (ctx : Ctx)

def getSystemByID (systemID : UUID) : Q System :=
  (m.repo.getSystemByIDWithProperties ctx systemID).mapError (.wrap .errGettingSystemByID)

/-- The checks `LinkSystemAction` makes before it writes. -/
def linkSystemChecks (systemID keyConfigID : UUID) : Q (System × KeyConfiguration) := do
  let system ← m.getSystemByID ctx systemID
  if keyConfigID ≠ UUID.nil then
    let _ ← m.user.hasSystemAccess ctx .systemModifyLink system
  let keyConfig ← (m.repo.firstKeyConfiguration ctx keyConfigID).mapError
    (.wrap .errGettingKeyConfigByID)
  let _ ← m.keyConfigManager.canConnectSystems ctx keyConfig
  if system.status = .processing ∨ system.status = .failed then
    throw (.of .errLinkSystemProcessingOrFailed)
  return (system, keyConfig)

/-- A switch if the system has another key configuration with a primary key, otherwise a link. -/
def chooseEvent (oldKeyConfigID : Option UUID) (newKeyConfig : KeyConfiguration) :
    Q SystemEvent := do
  match oldKeyConfigID with
  | none => return .link newKeyConfig.primaryKeyID
  | some oldID =>
    if oldID = UUID.nil ∨ oldID = newKeyConfig.id then return .link newKeyConfig.primaryKeyID
    let oldKeyConfig ← (m.repo.firstKeyConfiguration ctx oldID).mapError
      (.wrap .errGettingKeyConfigByID)
    if KeyConfigManager.isNotNilUUID oldKeyConfig.primaryKeyID then
      return .switch newKeyConfig.primaryKeyID oldKeyConfig.primaryKeyID
    return .link newKeyConfig.primaryKeyID

/-- Records the target key configuration before it chooses the event. -/
def selectEvent (system : System) (newKeyConfig : KeyConfiguration) : M (System × SystemEvent) := do
  let oldKeyConfigID := system.keyConfigurationID
  let system ← m.repo.patchSystem ctx false
    { system with targetKeyConfigurationID := some newKeyConfig.id }
  let event ← m.chooseEvent ctx oldKeyConfigID newKeyConfig
  return (system, event)

def linkSystemAction (systemID keyConfigID : UUID) : M Unit :=
  (m.repo.transaction ctx fun ctx => do
    let (system, keyConfig) ← m.linkSystemChecks ctx systemID keyConfigID
    let (system, event) ← m.selectEvent ctx system keyConfig
    m.eventFactory.sendEvent ctx system event).mapError (.wrap .errUpdateSystem)

/-- The checks `UnlinkSystemAction` makes before it writes. -/
def unlinkSystemChecks (systemID : UUID) : Q (System × KeyConfiguration) := do
  let system ← (m.repo.firstSystem ctx systemID).mapError (.wrap .errGettingSystemByID)
  match system.keyConfigurationID with
  | none => throw ((Exn.of .errSystemNotLinked).wrap .errUpdateSystem)
  | some keyConfigID =>
    if keyConfigID = UUID.nil then throw ((Exn.of .errSystemNotLinked).wrap .errUpdateSystem)
    let _ ← m.user.hasSystemAccess ctx .systemModifyLink system
    let keyConfig ← (m.repo.firstKeyConfiguration ctx keyConfigID).mapError
      (.wrap .errGettingKeyConfigByID)
    if system.status = .processing then throw (.of .errUnlinkSystemProcessing)
    return (system, keyConfig)

def sendSystemUnlinkEvent (system : System) (keyConfig : KeyConfiguration) : M Unit := do
  if KeyConfigManager.isNotNilUUID keyConfig.primaryKeyID then
    m.eventFactory.sendEvent ctx system (.unlink keyConfig.primaryKeyID)
  else throw (.of .errUnlinkSystemNoPrimaryKey)

def unlinkSystemAction (systemID : UUID) : M Unit :=
  m.repo.transaction ctx fun ctx => do
    let (system, keyConfig) ← m.unlinkSystemChecks ctx systemID
    m.sendSystemUnlinkEvent ctx system keyConfig

end SystemManager

end Cmk
