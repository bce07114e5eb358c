import Cmk.Workflow.Create

/-!
# Cmk.Workflow.Transition

The workflow manager, third part: assigning approvers (`AutoAssignApprovers`), the transitions
users trigger (`TransitionWorkflow`), expiry, and the background task that runs the assignment
(`internal/async/tasks/workflow.go`).

A workflow passed by pointer in the source is passed here as a value and returned as it is
afterwards.
-/

namespace Cmk

open Tx

namespace WorkflowManager

variable (w : WorkflowManager) (ctx : Ctx)

/-- Clears the flag of the artifact of a workflow in a terminal state. -/
def handleTerminalWorkflow (workflow : Workflow) : M Unit :=
  if workflow.state ∈ workflowTerminalStates then w.patchUnderWorkflow ctx workflow false
  else pure ()

/-- `GetApproverUserNames`. -/
def getApproverUserNames (idm : IdentityManagement) : List String → Q (List String)
  | [] => return []
  | userID :: userIDs => do
    let userName ← idm.getUserName ctx userID
    let userNames ← getApproverUserNames idm userIDs
    return if userName ≠ "" then userName :: userNames else userNames

/-- `GetNotificationRecipients`; `approvers` are the rows loaded with the workflow. -/
def getNotificationRecipients (workflow : Workflow) (approvers : List WorkflowApprover)
    (t : Transition) (idm : IdentityManagement) : Q (List String) := do
  match t with
  | .create => getApproverUserNames ctx idm (approvers.map (·.userID))
  | .approve | .reject =>
    let initiatorName ← idm.getUserName ctx workflow.initiatorID
    return if initiatorName ≠ "" then [initiatorName] else []
  | .confirm | .revoke =>
    getApproverUserNames ctx idm ((approvers.filter (·.approved.isSome)).map (·.userID))
  | _ => return []

def identityManagement : Q IdentityManagement :=
  Query.ask fun n _ => (w.svcRegistry.identityManagement n).mapError .err

def createWorkflowTransitionNotificationTask (workflow : Workflow) (t : Transition)
    (recipients : List String) : M Unit := do
  match w.asyncClient with
  | none => return ()
  | some client =>
    let _ ← w.repo.getTenant ctx
    let _ ← w.identityManagement
    if recipients.isEmpty then return ()
    let created ← (Query.ask fun n _ => (w.createTask n).mapError .err : Q Bool)
    if created then
      Prog.call fun n _ x =>
        match client.enqueue n with
        | .error e => (.error (.err e), x)
        | .ok () =>
          (.ok (), { x with queue := x.queue ++ [.workflowNotification workflow.id t recipients] })

def setApprovers (workflowID : UUID) : List String → M Unit
  | [] => return ()
  | userID :: userIDs => do
    (w.repo.setApprover ctx ⟨workflowID, userID, none⟩).mapError (.wrap .errAddApproversDB)
    setApprovers workflowID userIDs

def setApproverGroups (workflowID : UUID) : List Group → M Unit
  | [] => return ()
  | group :: groups => do
    let id ← (Query.ask fun n _ => .ok (w.newUUID n) : Q UUID)
    w.repo.setApproverGroup ctx ⟨id, workflowID, group.id⟩
    setApproverGroups workflowID groups

def addApproversAndGroupAssociations (userID : String) (workflow : Workflow)
    (approvers : List String) (groups : List Group) : M Workflow :=
  (w.repo.transaction ctx fun ctx => do
    let minimumApprovals ← w.minimumApprovalsOf ctx workflow
    let lifecycle := w.workflowLifecycle workflow userID minimumApprovals none
    w.setApprovers ctx workflow.id approvers
    w.setApproverGroups ctx workflow.id groups
    (lifecycle.validateAndApplyTransition ctx .create).mapError
      (.wrap .errApplyTransition)).mapError (.wrap .errInDBTransaction)

def autoAssignApprovers (workflowID : UUID) : M Workflow := do
  let workflow ← (w.repo.firstWorkflow ctx workflowID).mapError (.wrap .errGetWorkflowDB)
  let keyConfigs ← w.getKeyConfigurationsFromArtifact ctx workflow
  let (approvers, groups) ← w.getApproversAndGroupsFromKeyConfigs ctx workflow keyConfigs
  let workflow ← (w.addApproversAndGroupAssociations ctx workflow.initiatorID workflow approvers
    groups).mapError (.wrap .errAddApproversDB)
  let idm ← w.identityManagement
  let approverUserNames ← getApproverUserNames ctx idm approvers
  -- an error is only logged
  let _ ← (w.createWorkflowTransitionNotificationTask ctx workflow .create approverUserNames).attempt
  return workflow

def fetchAndValidateApprover (workflow : Workflow) (userID : String) : Q WorkflowApprover := do
  let approver ← (w.repo.firstApprover ctx workflow.id userID).mapError
    (.wrap .errCheckWorkflowEligibility)
  w.checkApproverEligibility ctx workflow userID
  return approver

def updateApproverDecision (approver : WorkflowApprover) (approved : Bool) : M Unit :=
  (w.repo.transaction ctx fun ctx =>
    (w.repo.patchApprover ctx { approver with approved := some approved }).mapError
      (.wrap .errUpdateApproverDecision)).mapError (.wrap .errWorkflowApproverDecision)

/-- Stores the vote of an approver; `approver` is set exactly for votes. -/
def recordTransitionInDB (t : Transition) (approver : Option WorkflowApprover) : M Unit := do
  match t with
  | .approve => w.updateApproverDecision ctx (← deref approver) true
  | .reject => w.updateApproverDecision ctx (← deref approver) false
  | .create | .expire | .execute | .fail => throw (.of .errWorkflowCannotTransitionDB)
  | .confirm | .revoke | .other _ => return ()

/-- After a vote, rejects the workflow if the approval cannot be reached any more. Errors are only
logged. -/
def attemptAutoReject (workflow : Workflow) (t : Transition)
    (eligibleApproverIDs : Option (List String)) : M Workflow := do
  if workflow.state ≠ .waitApproval ∨ ¬ t.isVote then return workflow
  match ← errValue (w.minimumApprovalsOf ctx workflow) with
  | .error _ => return workflow
  | .ok minimumApprovals =>
    let lifecycle := w.workflowLifecycle workflow "" minimumApprovals eligibleApproverIDs
    match ← errValue (lifecycle.applyTransition ctx .reject) with
    | .ok (_, workflow) => return workflow
    | .error _ => return workflow

def applyTransitionTx (userID : String) (workflow : Workflow) (t : Transition) : M Workflow := do
  let eligibleApproverIDs ← w.fetchEligibilityForVote ctx workflow t
  let minimumApprovals ← w.minimumApprovalsOf ctx workflow
  let actorApproverGroupIDs ← w.resolveActorApproverGroupIDs ctx workflow
  let lifecycle :=
    { w.workflowLifecycle workflow userID minimumApprovals eligibleApproverIDs with
      actorApproverGroupIDs := actorApproverGroupIDs }
  (lifecycle.validateActor ctx t).mapError (.wrap .errValidateActor)
  let approver ← (do
    if t.isVote then return some (← w.fetchAndValidateApprover ctx workflow userID)
    else return none : Q (Option WorkflowApprover))
  w.recordTransitionInDB ctx t approver
  let workflow ← (lifecycle.validateAndApplyTransition ctx t).mapError (.wrap .errApplyTransition)
  w.handleTerminalWorkflow ctx workflow
  w.attemptAutoReject ctx workflow t eligibleApproverIDs

def applyTransition (userID : String) (workflow : Workflow) (t : Transition) : M Workflow :=
  (w.repo.transaction ctx fun ctx => w.applyTransitionTx ctx userID workflow t).mapError
    (.wrap .errInDBTransaction)

def firstWorkflowWithApprovers (workflowID : UUID) : Q (Workflow × List WorkflowApprover) :=
  w.repo.first ctx fun d =>
    (d.workflows.get? workflowID).map fun workflow => (workflow, Repo.approversOf d workflowID)

def transitionWorkflow (workflowID : UUID) (t : Transition) : M Workflow := do
  let userID ← (ctx.extractUserIdentifier : Except Exn String)
  let (workflow, approvers) ← (w.firstWorkflowWithApprovers ctx workflowID).mapError
    (.wrap .errGetWorkflowDB)
  let workflow ← w.applyTransition ctx userID workflow t
  let idm ← w.identityManagement
  let recipients ← getNotificationRecipients ctx workflow approvers t idm
  let _ ← (w.createWorkflowTransitionNotificationTask ctx workflow t recipients).attempt
  return workflow

def expireWorkflowTx (workflow : Workflow) : M Workflow := do
  let userID ← (ctx.extractUserIdentifier : Except Exn String)
  let minimumApprovals ← w.minimumApprovalsOf ctx workflow
  let workflow ← (w.workflowLifecycle workflow userID minimumApprovals none).expire ctx
  w.handleTerminalWorkflow ctx workflow
  return workflow

def expireWorkflow (workflowID : UUID) : M Workflow := do
  let workflow ← (w.repo.firstWorkflow ctx workflowID).mapError (.wrap .errGetWorkflowDB)
  w.repo.transaction ctx fun ctx => w.expireWorkflowTx ctx workflow

end WorkflowManager

structure WorkflowProcessor where
  updater : WorkflowManager
  repo : Repo

namespace WorkflowProcessor

variable (p : WorkflowProcessor) (ctx : Ctx)

/-- The body of the transaction of `putWorkflowInFailedState`. -/
def failedStateTx (workflow : Workflow) : M Unit := do
  let workflow ← p.repo.patchWorkflow ctx workflow
  p.updater.handleTerminalWorkflow ctx workflow

def putWorkflowInFailedState (workflowID : UUID) (failureReason : String) : M Unit := do
  let workflow ← p.repo.firstWorkflow ctx workflowID
  p.repo.transaction ctx fun ctx =>
    p.failedStateTx ctx { workflow with state := .failed, failureReason := failureReason }

def injectContext (payload : TaskPayload) : Ctx :=
  { ctx with
    tenant := if payload.tenantID ≠ "" then payload.tenantID else ctx.tenant
    userType := some .internalUser
    businessUserData := some payload.businessData }

/-- `ProcessTask`. A panic of the assignment is recovered and not reported. -/
def processTask (payload : TaskPayload) : M Unit := do
  match payload.data with
  | none => throw (.err (.wrap (.sentinel .errRunningTask) (.foreign "invalid UUID")))
  | some workflowID =>
    let ctx := injectContext ctx payload
    match ← (p.updater.autoAssignApprovers ctx workflowID).attempt with
    | .ok _ => return ()
    | .error (.err e) =>
      let _ ← (p.putWorkflowInFailedState ctx workflowID e.error).attempt
      throw (.err (.wrap (.sentinel .errRunningTask) e))
    | .error .panic =>
      let _ ← (p.putWorkflowInFailedState ctx workflowID
        "internal error when assigning approvers").attempt
      return ()

end WorkflowProcessor

end Cmk
