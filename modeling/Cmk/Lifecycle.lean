import Cmk.System

/-!
# Cmk.Lifecycle

The lifecycle of one workflow (`internal/workflow`): its state machine, who may trigger which
transition, the vote count that decides an approval, and the action a confirmed workflow executes.

`applyTransition` returns the error together with the workflow, because the Go function changes
the workflow in memory before the write that may fail.
-/

namespace Cmk

open Tx

structure EventDesc where
  name : Transition
  src : List WorkflowState
  dst : WorkflowState

/-- `fsm.FSM`, without callbacks. -/
structure FSM where
  current : WorkflowState
  events : List EventDesc

namespace FSM

def target (m : FSM) (t : Transition) : Option WorkflowState :=
  (m.events.find? fun e => e.name = t ∧ m.current ∈ e.src).map (·.dst)

def can (m : FSM) (t : Transition) : Bool := (m.target t).isSome

def event (m : FSM) (t : Transition) : Except Err FSM :=
  match m.target t with
  | some dst => .ok { m with current := dst }
  | none =>
    if m.events.any fun e => e.name = t ∧ e.src ≠ [] then .error (.invalidEvent t m.current)
    else .error (.unknownEvent t)

end FSM

def workflowEvents : List EventDesc :=
  [ ⟨.create, [.initial], .waitApproval⟩,
    ⟨.approve, [.waitApproval], .waitConfirmation⟩,
    ⟨.reject, [.waitApproval], .rejected⟩,
    ⟨.revoke, [.waitApproval, .waitConfirmation], .revoked⟩,
    ⟨.confirm, [.waitConfirmation], .executing⟩,
    ⟨.expire, [.waitApproval, .waitConfirmation, .executing], .expired⟩,
    ⟨.fail, [.executing], .failed⟩,
    ⟨.execute, [.executing], .successful⟩ ]

/-- The flag `UnderWorkflow` of an artifact; only systems and keys have one. -/
def Db.flag (d : Db) : WorkflowArtifactType → UUID → Option Bool
  | .system, id => (d.systems.get? id).map (·.underWorkflow)
  | .key, id => (d.keys.get? id).map (·.underWorkflow)
  | _, _ => none

/-- What a change outside the workflow component leaves alone: the workflow tables, and the flag of
every artifact that still exists. -/
structure Untouched (d d' : Db) : Prop where
  workflows : d'.workflows = d.workflows
  approvers : d'.approvers = d.approvers
  approverGroups : d'.approverGroups = d.approverGroups
  flag : ∀ ty id b, d'.flag ty id = some b → d.flag ty id = some b

instance : Std.Refl Untouched := ⟨fun _ => ⟨rfl, rfl, rfl, fun _ _ _ h => h⟩⟩

instance : IsTrans Db Untouched :=
  ⟨fun _ _ _ h h' => ⟨h'.workflows.trans h.workflows, h'.approvers.trans h.approvers,
    h'.approverGroups.trans h.approverGroups, fun ty id b hb => h.flag ty id b (h'.flag ty id b hb)⟩⟩

structure Synced (d d' : Db) : Prop extends Untouched d d' where
  workflowConfig : d'.workflowConfig = d.workflowConfig

instance : Std.Refl Synced := ⟨fun d => ⟨refl_of Untouched d, rfl⟩⟩

instance : IsTrans Db Synced :=
  ⟨fun _ _ _ h h' => ⟨trans_of Untouched h.toUntouched h'.toUntouched,
    h'.workflowConfig.trans h.workflowConfig⟩⟩

def SameLog (x x' : World) : Prop := x'.executed = x.executed

instance : Std.Refl SameLog := ⟨fun _ => rfl⟩

instance : IsTrans World SameLog := ⟨fun _ _ _ h h' => Eq.trans h' h⟩

def Quiet (s s' : St Db World) : Prop := Untouched s.db s'.db ∧ SameLog s.ext s'.ext

/-- The key manager, as far as workflows use it. Key material, providers and synchronization are
outside this development; what it may rely on is that they leave the workflow component alone. -/
structure KeyActions where
  get : Ctx → UUID → M Key
  updateKey : Ctx → UUID → Bool → M Unit
  delete : Ctx → UUID → M Unit
  get_keeps : ∀ ctx id, Keeps Synced SameLog (get ctx id)
  updateKey_keeps : ∀ ctx id enabled, Keeps Untouched SameLog (updateKey ctx id enabled)
  delete_keeps : ∀ ctx id, Keeps Untouched SameLog (delete ctx id)

/-- The updates of the key configuration manager, as far as workflows use them. -/
structure KeyConfigurationActions where
  deleteKeyConfigurationByID : Ctx → UUID → M Unit
  /-- `UpdateKeyConfigurationByID` with a new primary key. -/
  updatePrimaryKey : Ctx → UUID → UUID → M Unit
  delete_keeps : ∀ ctx id, Keeps Untouched SameLog (deleteKeyConfigurationByID ctx id)
  updatePrimaryKey_quiet : ∀ ctx id keyID s, ctx.inTx = true →
    (updatePrimaryKey ctx id keyID).wp true (fun _ => Quiet s) s

structure Lifecycle where
  workflow : Workflow
  stateMachine : FSM
  actorID : String
  repository : Repo
  keyActions : KeyActions
  keyConfigurationActions : KeyConfigurationActions
  systemActions : SystemManager
  minimumApproverCount : Int
  /-- If set, only these approvers count as pending. -/
  eligibleApproverIDs : Option (List String)
  /-- If set, the approver groups the actor is in. -/
  actorApproverGroupIDs : Option (List UUID)
  /-- `uuid.Parse`. -/
  parseUUID : String → Except Err UUID

structure VoteCounts where
  approvals : Nat
  rejections : Nat
  pending : Nat
  deriving DecidableEq, Repr

namespace Lifecycle

/-- `NewLifecycle`; a minimum that is not set defaults to two. -/
def new (workflow : Workflow) (keyActions : KeyActions)
    (keyConfigurationActions : KeyConfigurationActions) (systemActions : SystemManager)
    (repo : Repo) (actorID : String) (minimumApproverCount : Int)
    (parseUUID : String → Except Err UUID) : Lifecycle :=
  { workflow, keyActions, keyConfigurationActions, systemActions, actorID, parseUUID
    stateMachine := ⟨workflow.state, workflowEvents⟩
    repository := repo
    minimumApproverCount := if minimumApproverCount = 0 then 2 else minimumApproverCount
    eligibleApproverIDs := none
    actorApproverGroupIDs := none }

variable (l : Lifecycle) (ctx : Ctx)

/-! ### Who may trigger a transition -/

def validateInternalTransition (role : InternalRole) : Except Exn Unit := do
  let source ← ctx.extractUserType.mapError (.wrapf "failed to validate automated transition")
  if source = .businessUser then throw (.of .errAutomatedTransition)
  (checkInternalUserRole ctx role).mapError (.wrapf "failed to validate automated transition")

def validateActorGroupMembership (t : Transition) : Except Exn Unit :=
  match l.actorApproverGroupIDs, t with
  | some [], .confirm | some [], .revoke | some [], .approve | some [], .reject =>
    .error (.of .errUserRemovedFromApproverGroup)
  | _, _ => .ok ()

def validateUserIsApprover : Q Bool := do
  let count ← (l.repository.countApprover ctx l.workflow.id l.actorID).mapError
    (.wrap .errCheckApprovers)
  return 0 < count

def invalidEventActorError (expectedRole : String) : Exn :=
  .err (.wrapf (.sentinel .errInvalidEventActor)
    ("user " ++ l.actorID ++ " is not the " ++ expectedRole ++ " of the workflow"))

def validateActor (t : Transition) : Q Unit := do
  (l.validateActorGroupMembership t : Except Exn Unit)
  match t with
  | .create | .revoke | .confirm =>
    if l.actorID ≠ l.workflow.initiatorID then throw (l.invalidEventActorError "initiator")
  | .approve | .reject =>
    let valid ← (l.validateUserIsApprover ctx).mapError (.wrapf "failed to validate approver")
    if ¬ valid then throw (l.invalidEventActorError "approver")
  | .expire => (validateInternalTransition ctx .taskWorkflowExpiration : Except Exn Unit)
  | .execute | .fail => (validateInternalTransition ctx .taskWorkflowApprovers : Except Exn Unit)
  | .other _ => throw (.of .errInvalidWorkflowState)

/-! ### Votes -/

def getAllApprovers : Q (List WorkflowApprover) :=
  (l.repository.listApprovers ctx l.workflow.id).mapError (.wrap .errCheckApproverDecision)

/-- Approvers count if they are eligible now, or have voted. -/
def filterEligibleApprovers (approvers : List WorkflowApprover) : List WorkflowApprover :=
  match l.eligibleApproverIDs with
  | none => approvers
  | some ids => approvers.filter fun a => ids.contains a.userID || a.approved.isSome

def applyCurrentVote (counts : VoteCounts) : Transition → Except Exn VoteCounts
  | .approve => .ok { counts with approvals := counts.approvals + 1 }
  | .reject => .ok { counts with rejections := counts.rejections + 1 }
  | _ => .error (.of .errInvalidVotingTransition)

def countExistingVote (counts : VoteCounts) (a : WorkflowApprover) : VoteCounts :=
  match a.approved with
  | none => { counts with pending := counts.pending + 1 }
  | some true => { counts with approvals := counts.approvals + 1 }
  | some false => { counts with rejections := counts.rejections + 1 }

/-- The actor's row counts as the vote being cast. -/
def calculateVoteCounts (allApprovers : List WorkflowApprover) (t : Transition) :
    Except Exn VoteCounts :=
  allApprovers.foldlM (fun counts a =>
    if a.userID = l.actorID then applyCurrentVote counts t else .ok (countExistingVote counts a))
    ⟨0, 0, 0⟩

def shouldTransition (counts : VoteCounts) (t : Transition) : Except Exn Bool :=
  let score : Int := counts.approvals - counts.rejections
  let maxPossibleScore : Int := score + counts.pending
  match t with
  | .approve => .ok (decide (l.minimumApproverCount ≤ score))
  | .reject => .ok (decide (maxPossibleScore < l.minimumApproverCount))
  | _ => .error (.of .errInvalidVotingTransition)

def checkVotingScore (t : Transition) : Q Bool := do
  if ¬ l.stateMachine.can t then
    throw (.err (.wrap (.transition t) (.invalidEvent t l.workflow.state)))
  let allApprovers ← l.getAllApprovers ctx
  let counts ← (l.calculateVoteCounts (l.filterEligibleApprovers allApprovers) t :
    Except Exn VoteCounts)
  (l.shouldTransition counts t : Except Exn Bool)

/-! ### Executing the action -/

def executionError {α : Type} (p : M α) : M Unit := do
  let _ ← p.mapError (.wrap .errWorkflowExecution)

def updateKeyState : M Unit := do
  let keyID := l.workflow.artifactID
  executionError (l.keyActions.get ctx keyID)
  if l.workflow.parameters = "ENABLED" ∨ l.workflow.parameters = "DISABLED" then
    executionError (l.keyActions.updateKey ctx keyID (l.workflow.parameters = "ENABLED"))
  else
    throw (.err (.wrapf (.sentinel .errWorkflowExecution)
      ("invalid key state " ++ l.workflow.parameters)))

def deleteKey : M Unit := executionError (l.keyActions.delete ctx l.workflow.artifactID)

def deleteKeyConfiguration : M Unit :=
  executionError (l.keyConfigurationActions.deleteKeyConfigurationByID ctx l.workflow.artifactID)

def parametersID : M UUID :=
  .done ((l.parseUUID l.workflow.parameters).mapError fun e =>
    .err (.wrap (.sentinel .errWorkflowExecution) e))

def updatePrimaryKey : M Unit := do
  let keyID ← l.parametersID
  executionError (l.keyConfigurationActions.updatePrimaryKey ctx l.workflow.artifactID keyID)

def systemLinkOrSwitch : M Unit := do
  let keyConfigurationID ← l.parametersID
  executionError (l.systemActions.linkSystemAction ctx l.workflow.artifactID keyConfigurationID)

def systemUnlink : M Unit :=
  executionError (l.systemActions.unlinkSystemAction ctx l.workflow.artifactID)

def handler : M Unit :=
  match l.workflow.artifactType, l.workflow.actionType with
  | .key, .updateState => l.updateKeyState ctx
  | .key, .delete => l.deleteKey ctx
  | .keyConfiguration, .delete => l.deleteKeyConfiguration ctx
  | .keyConfiguration, .updatePrimary => l.updatePrimaryKey ctx
  | .system, .link => l.systemLinkOrSwitch ctx
  | .system, .unlink => l.systemUnlink ctx
  | .system, .switch => l.systemLinkOrSwitch ctx
  | .other s, _ => throw (.err (.wrapf (.sentinel .errWorkflowExecution)
      ("unknown artifact type " ++ s)))
  | _, action => throw (.err (.wrapf (.sentinel .errWorkflowExecution)
      ("unknown action type " ++ action.toString)))

def executeWorkflowAction : M Unit := do
  -- the record of the call is ours, not the program's
  Prog.call fun n d x => (.ok (), { x with executed := ⟨l.workflow.id, d, n⟩ :: x.executed })
  l.handler ctx

/-- From EXECUTING to SUCCESSFUL or FAILED. An error of the action becomes the failure reason. -/
def transitionExecute (fsm : FSM) : M (FSM × Workflow) := do
  let (t, workflow) := match ← errValue (l.executeWorkflowAction ctx) with
    | .ok () => (Transition.execute, l.workflow)
    | .error e => (Transition.fail, { l.workflow with failureReason := e.error })
  match fsm.event t with
  | .ok fsm => return (fsm, workflow)
  | .error e => throw (.err (.wrap (.transition t) e))

/-! ### Applying a transition -/

def getNumberOfApprovers : Q Nat := do
  let _ ← (l.repository.firstWorkflow ctx l.workflow.id).mapError (.wrap .errListApprovers)
  (l.repository.countApprovers ctx l.workflow.id).mapError (.wrap .errListApprovers)

def transitionPrecheck (t : Transition) : Q Bool := do
  match t with
  | .create =>
    let approversCount ← l.getNumberOfApprovers ctx
    if approversCount < l.minimumApproverCount then
      throw (.err (.wrapf (.sentinel .errInsufficientApproverCount)
        (toString approversCount ++ ", required: " ++ toString l.minimumApproverCount)))
    return false
  | .approve | .reject => return !(← l.checkVotingScore ctx t)
  | .execute | .fail | .expire =>
    throw (.err (.wrapf (.transition t) "automated transition cannot be triggered by user input"))
  | .confirm | .revoke | .other _ => return false

/-- The error, if any, and the workflow as it is in memory afterwards. -/
def applyTransition (t : Transition) : M (Except Exn Unit × Workflow) := do
  match ← (l.transitionPrecheck ctx t).attempt with
  | .error e => return (.error e, l.workflow)
  | .ok true => return (.ok (), l.workflow)
  | .ok false =>
    match l.stateMachine.event t with
    | .error e => return (.error (.err (.wrap (.transition t) e)), l.workflow)
    | .ok fsm =>
      let (fsm, workflow) ←
        if fsm.current = .executing then l.transitionExecute ctx fsm
        else pure (fsm, l.workflow)
      let workflow := { workflow with state := fsm.current }
      match ← (l.repository.patchWorkflow ctx workflow).attempt with
      | .ok workflow => return (.ok (), workflow)
      | .error e => return (.error (e.wrap .errUpdateWorkflowState), workflow)

def validateAndApplyTransition (t : Transition) : M Workflow := do
  l.validateActor ctx t
  match ← l.applyTransition ctx t with
  | (.ok (), workflow) => return workflow
  | (.error e, _) => throw e

def expire : M Workflow := do
  match l.stateMachine.event .expire with
  | .error e => throw (.err (.wrap (.transition .expire) e))
  | .ok fsm =>
    (l.repository.patchWorkflow ctx { l.workflow with state := fsm.current }).mapError
      (.wrap .errUpdateWorkflowState)

end Lifecycle

end Cmk
