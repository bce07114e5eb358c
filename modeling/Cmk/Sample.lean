import Cmk.Workflow.Transition

/-!
# Cmk.Sample

A small tenant: one admin group with the users `a`, `b`, `c` and `i`, a key configuration with an
enabled primary key, and a system that is not connected. It shows that the parameters of the model
(the database, the plugin, the managers outside) have instances, and is the input on which the
conditions of the general theorems are met or missed.
-/

namespace Cmk
namespace Sample

open Tx

/-- A database that refuses nothing. -/
def repo : Repo where
  fault _ := none
  fault_found _ _ h := by cases h
  commit _ := none
  order _ _ := Equiv.refl _
  now _ := 0

/-- Managers that do nothing outside the database. -/
def keyActions : KeyActions where
  get ctx id := liftM (repo.firstKey ctx id)
  updateKey _ _ _ := pure ()
  delete _ _ := pure ()
  get_keeps _ _ := .query _
  updateKey_keeps _ _ _ := .pure _
  delete_keeps _ _ := .pure _

def keyConfigurationActions : KeyConfigurationActions where
  deleteKeyConfigurationByID _ _ := pure ()
  updatePrimaryKey _ _ _ := pure ()
  delete_keeps _ _ := .pure _
  updatePrimaryKey_quiet _ _ _ s _ := ⟨refl_of Untouched s.db, rfl⟩

/-- Every group has the same members, which may change. -/
def registry (members : Nat → List String) : Registry :=
  ⟨fun _ => .ok
    { getUser := fun _ user _ => .ok user
      getGroup := fun _ group _ => .ok group
      listGroupUsers := fun n _ _ => .ok (members n) }⟩

def keyConfigManager : KeyConfigManager := ⟨repo, ⟨repo⟩⟩

def eventFactory (prepareJob : Nat → Except Err String) : EventFactory :=
  ⟨repo, fun n _ _ _ => prepareJob n, fun _ _ _ _ => .ok "CREATED"⟩

def systemManager (prepareJob : Nat → Except Err String) : SystemManager :=
  ⟨repo, ⟨repo⟩, keyConfigManager, eventFactory prepareJob, []⟩

/-- The workflow manager, for given members and an orbital manager that may refuse a job. -/
def manager (members : Nat → List String) (prepareJob : Nat → Except Err String) :
    WorkflowManager where
  repo := repo
  keyManager := keyActions
  keyConfigurationActions := keyConfigurationActions
  keyConfigurationManager := keyConfigManager
  systemManager := systemManager prepareJob
  groupManager := ⟨repo, ⟨repo⟩, some (registry members)⟩
  userManager := ⟨repo⟩
  asyncClient := some ⟨fun _ => .ok ()⟩
  tenantConfigManager := ⟨repo, none⟩
  svcRegistry := registry members
  createTask _ := .ok false
  parseUUID s := if s = "kc" then .ok 30 else .error (.foreign "invalid UUID")
  newUUID n := 1000 + n
  unmarshalIDs _ := .ok []

def processor : WorkflowProcessor :=
  ⟨manager (fun _ => ["a", "b", "c", "i"]) fun _ => .ok "CREATED", repo⟩

def system : System where
  id := 40
  identifier := "s"
  region := "r"
  keyConfigurationID := none
  targetKeyConfigurationID := none
  status := .disconnected
  underWorkflow := false

def enabledKey (id keyConfigurationID : UUID) (name : String) : Key where
  id := id
  keyConfigurationID := keyConfigurationID
  name := name
  keyType := some .byok
  state := .enabled
  underWorkflow := false
  nativeID := some name

/-- The tables before any workflow. -/
def db : Db where
  workflows := .empty
  approvers := .empty
  approverGroups := .empty
  groups := ⟨[⟨10, "g", some .keyAdmin, "KMS_g"⟩], by decide⟩
  keyConfigurations :=
    ⟨[{ id := 30, name := "kc", adminGroupID := 10, primaryKeyID := some 20 }], by decide⟩
  keys := ⟨[enabledKey 20 30 "k"], by decide⟩
  keyVersions := .empty
  keyLabels := .empty
  systems := ⟨[system], by decide⟩
  systemProperties := .empty
  events := .empty
  workflowConfig := some ⟨true, 2, 30, 7, 30⟩
  tenants := ⟨[⟨"t", .live⟩], by decide⟩

def world : World := { queue := [], jobs := [], executed := [] }

def start : St Db World := ⟨db, world, 0, []⟩

/-- A request of a user of the admin group. -/
def as (user : String) : Ctx := ⟨"t", some .businessUser, some ⟨user, ["KMS_g"], []⟩, none, false⟩

/-- The context of the task queue. -/
def worker : Ctx := ⟨"t", some .internalUser, none, some .taskWorkflowApprovers, false⟩

/-- User `i` asks to link the system. -/
def link (id : UUID) : Workflow where
  id := id
  state := .initial
  initiatorID := "i"
  artifactType := .system
  artifactID := 40
  artifactName := none
  actionType := .link
  parameters := "kc"
  parametersResourceName := none
  parametersResourceType := none
  failureReason := ""
  expiryDate := none
  minimumApprovalCount := 0
  approverGroupIDs := none

def assign (id : UUID) : TaskPayload := ⟨"t", ⟨"i", ["KMS_g"], []⟩, some id⟩

end Sample
end Cmk
