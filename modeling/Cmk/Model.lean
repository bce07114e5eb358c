import Mathlib.Data.BitVec
import Cmk.Tx.Table

/-!
# Cmk.Model

The data of the workflow component: the enumerations and rows of `internal/model`, the errors the
managers return, the request context, and the tables of one tenant.

An error is kept as the tree Go builds with `errs.Wrap`, so that `errors.Is` (`Err.is`) and the
text stored as a failure reason (`Err.error`) are both functions of it. A nil dereference is a
`panic`, which no `if err != nil` sees.
-/

namespace Cmk

abbrev UUID := BitVec 128

namespace UUID

def nil : UUID := 0

end UUID

inductive WorkflowState where
  | initial | revoked | rejected | expired | waitApproval | waitConfirmation | executing
  | successful | failed
  deriving DecidableEq, Repr

inductive WorkflowArtifactType where
  | key | keyConfiguration | system
  | other (s : String)
  deriving DecidableEq, Repr

inductive WorkflowActionType where
  | updateState | updatePrimary | link | unlink | switch | delete
  | other (s : String)
  deriving DecidableEq, Repr

inductive WorkflowParametersResourceType where
  | key | keyConfiguration
  deriving DecidableEq, Repr

inductive Transition where
  | create | revoke | reject | expire | approve | confirm | execute | fail
  | other (s : String)
  deriving DecidableEq, Repr

inductive SystemStatus where
  | connected | disconnected | failed | processing
  deriving DecidableEq, Repr

inductive KeyState where
  | deleted | detached | detaching | disabled | enabled | error | forbidden | pendingCreation
  | pendingDeletion | pendingImport | unknown
  /-- A status of a provider that is none of these; the database does not store it. -/
  | other (s : String)
  deriving DecidableEq, Repr

inductive KeyType where
  | byok | hyok
  deriving DecidableEq, Repr

inductive BusinessRole where
  | keyAdmin | tenantAdmin | tenantAuditor
  deriving DecidableEq, Repr

inductive InternalRole where
  | requestingHandling | businessAuthz | tenantProvisioning | tenantCLI | eventReconciler
  | taskProcessing | taskCertRotation | taskWorkflowApprovers | taskWorkflowCleanup
  | taskWorkflowExpiration | taskHYOKSync | taskPendingStateSync | taskKeystorePool
  | taskSystemRefresh | taskTenantRefresh | taskSendNotification
  deriving DecidableEq, Repr

inductive TenantRole where
  | live | test
  | other (s : String)
  deriving DecidableEq, Repr

inductive JobType where
  | systemLink | systemUnlink | systemUnlinkDecommission | systemSwitch | systemSwitchNewPK
  | systemKeyRotate
  deriving DecidableEq, Repr

inductive KeyJobType where
  | keyEnable | keyDisable | keyDetach
  deriving DecidableEq, Repr

namespace WorkflowState

def toString : WorkflowState → String
  | initial => "INITIAL"
  | revoked => "REVOKED"
  | rejected => "REJECTED"
  | expired => "EXPIRED"
  | waitApproval => "WAIT_APPROVAL"
  | waitConfirmation => "WAIT_CONFIRMATION"
  | executing => "EXECUTING"
  | successful => "SUCCESSFUL"
  | failed => "FAILED"

end WorkflowState

def workflowNonTerminalStates : List WorkflowState :=
  [.initial, .waitApproval, .waitConfirmation, .executing]

def workflowTerminalStates : List WorkflowState :=
  [.revoked, .rejected, .expired, .successful, .failed]

namespace WorkflowArtifactType

def toString : WorkflowArtifactType → String
  | key => "KEY"
  | keyConfiguration => "KEY_CONFIGURATION"
  | system => "SYSTEM"
  | other s => s

def valid : WorkflowArtifactType → Bool
  | other _ => false
  | _ => true

end WorkflowArtifactType

namespace WorkflowActionType

def toString : WorkflowActionType → String
  | updateState => "UPDATE_STATE"
  | updatePrimary => "UPDATE_PRIMARY"
  | link => "LINK"
  | unlink => "UNLINK"
  | switch => "SWITCH"
  | delete => "DELETE"
  | other s => s

def valid : WorkflowActionType → Bool
  | other _ => false
  | _ => true

end WorkflowActionType

namespace Transition

def toString : Transition → String
  | create => "CREATE"
  | revoke => "REVOKE"
  | reject => "REJECT"
  | expire => "EXPIRE"
  | approve => "APPROVE"
  | confirm => "CONFIRM"
  | execute => "EXECUTE"
  | fail => "FAIL"
  | other s => s

/-- Approve and Reject are votes. -/
def isVote : Transition → Bool
  | approve | reject => true
  | _ => false

end Transition

namespace KeyState

def toString : KeyState → String
  | deleted => "DELETED"
  | detached => "DETACHED"
  | detaching => "DETACHING"
  | disabled => "DISABLED"
  | enabled => "ENABLED"
  | error => "ERROR"
  | forbidden => "FORBIDDEN"
  | pendingCreation => "PENDING_CREATION"
  | pendingDeletion => "PENDING_DELETION"
  | pendingImport => "PENDING_IMPORT"
  | unknown => "UNKNOWN"
  | other s => s

def valid : KeyState → Bool
  | other _ => false
  | _ => true

end KeyState

namespace InternalRole

def toString : InternalRole → String
  | requestingHandling => "INTERNAL_REQUEST_HANDLING"
  | businessAuthz => "INTERNAL_BUSINESS_AUTH"
  | tenantProvisioning => "INTERNAL_TENANT_PROVISIONING"
  | tenantCLI => "INTERNAL_TENANT_CLI"
  | eventReconciler => "INTERNAL_EVENT_RECONCILER"
  | taskProcessing => "INTERNAL_TASK_PROCESSING"
  | taskCertRotation => "INTERNAL_TASK_CERT_ROTATION"
  | taskWorkflowApprovers => "INTERNAL_TASK_WORKFLOW_APPROVERS"
  | taskWorkflowCleanup => "INTERNAL_TASK_WORKFLOW_CLEANUP"
  | taskWorkflowExpiration => "INTERNAL_TASK_WORKFLOW_EXPIRATION"
  | taskHYOKSync => "INTERNAL_TASK_HYOK_SYNC"
  | taskPendingStateSync => "INTERNAL_TASK_PENDING_STATE_SYNC"
  | taskKeystorePool => "INTERNAL_TASK_KEYSTORE_POOL"
  | taskSystemRefresh => "INTERNAL_TASK_SYSTEM_REFRESH"
  | taskTenantRefresh => "INTERNAL_TASK_TENANT_REFRESH"
  | taskSendNotification => "INTERNAL_TASK_SEND_NOTIFICATION"

end InternalRole

end Cmk
