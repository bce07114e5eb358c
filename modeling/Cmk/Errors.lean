import Cmk.Model

/-!
# Cmk.Errors

The errors of the repository layer, the managers and the workflow lifecycle.

* `Sentinel` — the package-level error variables, with their texts.
* `Err`      — an error value: a sentinel, a structured error, or the tree `errs.Wrap`,
  `errs.Wrapf` and `oops.Join` build from others.
* `Exn`      — how a function ends without a result: an error, or a panic.
-/

namespace Cmk

inductive Sentinel where
  -- internal/repo
  | errNotFound | errUniqueConstraint | errCreateResource | errSetResource | errUpdateResource
  | errGetResource | errDeleteResource | errTransaction | errWithTenant | errTenantNotFound
  | errListingItems | errCountingItem | errOnboardingTenant
  -- utils/context
  | errTenantInvalid | errExtractTenantID | errExtractBusinessUserData | errExtractUserType
  | errInvalidUserType
  -- internal/authz
  | errAuthzUnauthorized | errExtractInternalUserData | errInvalidRole | errValidation
  | errInvalidRequest | errAuthorizationDecision | errAuthorizationDenied | errResourceTypeInvalid
  | errActionInvalidForResource | errEmptyRequest | errWrongTenantID | errNoAuthzForUserType
  -- internal/authz/loader
  | errLoadAuthzAllowList | errTenantNotExist | errEmptyTenantID
  -- internal/model
  | errInvalidWorkflowArtifactType | errInvalidWorkflowActionType | errModelValidation
  -- internal/api/cmkapi
  | errInvalidKeyStateValue
  -- internal/manager
  | errWorkflowApproverDecision | errWorkflowCreationNotAllowed | errGettingKeyConfigByID
  | errKeyConfigurationNotAllowed | errKeyConfigurationNotFound | errGetGroups
  | errMultipleRolesInGroups | errCheckKeyConfigManagedByIAMGroups | errInternalRoleNotSupported
  | errGettingKeyByID | errConnectSystemNoPrimaryKey | errNotAllSystemsConnected
  | errAlreadyPrimaryKey | errUpdateNonBYOKKeyStatus | errPrimaryKeyDisabled
  | errUnsuportedWorkflow | errGetWorkflowDB | errOngoingWorkflowExist | errCreateWorkflowDB
  | errCheckWorkflow | errCheckOngoingWorkflow | errValidateActor | errAddApproversDB
  | errApplyTransition | errInDBTransaction | errWorkflowCannotTransitionDB
  | errUpdateApproverDecision | errGetKeyConfigFromArtifact | errAutoAssignApprover
  | errCreateApproverAssignTask | errCheckWorkflowEligibility | errLoadIdentityManagementPlugin
  | errGetWorkflowConfig | errSetWorkflowConfig | errRetentionLessThanMinimum
  | errWorkflowEnableDisableNotAllowed | errDefaultExpiryExceedsMax | errMinimumApprovalsTooLow
  | errGettingSystemByID
  | errUpdateSystem | errSystemNotLinked | errLinkSystemProcessingOrFailed
  | errUnlinkSystemProcessing | errUnlinkSystemNoPrimaryKey | errRetryNonFailedSystem
  | errUnsupportedSystemAction | errCreatingSystem | errKeyIsDeleted | errKeyIsNotEnabled
  | errUpdateKeyConfiguration | errNameCannotBeEmpty | errKeyCreationFailed | errKeyRegistration
  | errUnsupportedKeyAlgorithm | errInvalidKeyState | errHYOKKeyActionNotAllowed
  | errCreateKeyConfiguration | errConnectedSystemToKeyConfig | errInvalidKeyAdminGroup
  | errFailedToInitProvider | errFailedToDisableProviderKey | errFailedToDeleteProvider
  | errGetProviderKey | errGetProviderKeyVersions | errKeyInPendingState | errGetKeyDB
  | errManagementDetailsUpdate | errCryptoDetailsUpdate | errNonEditableCryptoRegionUpdate
  | errUpdateKeyDB | errCreateKeyDB | errDeleteKeyDB | errGetConfiguration | errUpdatePrimary
  | errInvalidKeyTypeForHYOKSync | errDeleteKey | errCreateKeyVersionDB | errNoKeyVersionsFound
  | errPoolIsDrained | errInvalidKeystore | errGrantTrustFailed | errCouldNotRemoveConfiguration
  | errGetKeystoreFromPool | errUnmarshalConfig | errMarshalConfig | errSetDefaultKeystore
  | errOnboardingInProgress | errCreatingTenant | errValidatingTenant | errCreateGroups
  | errCreatingGroups | errGroupRole | errGetKeyVersionDB
  -- internal/workflow
  | errInvalidEventActor | errInsufficientApproverCount | errApproverNoLongerEligible
  | errTransitionExecution | errWorkflowExecution | errUpdateWorkflowState | errCheckApprovers
  | errAutomatedTransition | errInvalidWorkflowState | errCheckApproverDecision
  | errListApprovers | errInvalidVotingTransition | errWorkflowGroupNotSufficientMembers
  | errUserRemovedFromApproverGroup
  -- internal/event-processor, internal/async/tasks
  | errEventSendingFailed | errSystemProcessing | errRunningTask | errNoPreviousEvent
  | errSettingKeyClaim | errSettingSystemLockedStatus | errVersionHasNoNativeID
  | errInvalidJobType | errNoConnectedRegionsForKey
  -- internal/async, utils/async
  | errEnqueueingTask | errNilTask | errParsingPayload
  -- internal/clients/registry/systems
  | errKeyClaimAlreadyActive | errKeyClaimAlreadyInactive | errSystemsClientFailedUpdatingKeyClaim
  | errGettingSystem | errClientInternalError | errSystemsClientFailedGettingSystems
  | errSystemsClientEmptyFilter | errUnsupportSystemType
  -- internal/pluginregistry/service/api/keymanagement, and gRPC statuses
  | errProviderAuthenticationFailed | errHYOKKeyNotFound | codeAlreadyExists | codeUnavailable
  | codeInternal
  -- internal/operator
  | errInvalidData | errFailedResponse | errTenantOffboarding | errTerminationTimeout
  | errInvalidTenantID | errGroupNotFound | errCheckingTenantExistence | errSchemaNotFound
  -- orbital
  | errJobAlreadyExists
  -- utils/odata
  | errFilterNotToSpec | errFilterOperationNotSupported | errFilterTypeNotSupported
  | errFilterInvalidValue | errFilterNonSchema | errFilterValueConversionFailed
  | errFilterValueModificationFailed
  -- utils/sanitise, utils/tags
  | errNilPtr | errBadRepoTag
  deriving DecidableEq, Repr

namespace Sentinel

def text : Sentinel → String
  | errNotFound => "resource not found"
  | errUniqueConstraint => "unique constraint violation"
  | errCreateResource => "failed to create resource"
  | errSetResource => "failed to set resource"
  | errUpdateResource => "failed to update resource"
  | errGetResource => "failed to get resource"
  | errDeleteResource => "failed to delete resource"
  | errTransaction => "failed to execute transaction"
  | errWithTenant => "failed to use tenant from context"
  | errTenantNotFound => "tenant not found"
  | errListingItems => "couldn't list items"
  | errCountingItem => "couldn't count total number of items for pagination"
  | errOnboardingTenant => "onboarding tenant failed"
  | errTenantInvalid => "invalid tenant or tenant not found"
  | errExtractTenantID => "could not extract tenant ID from context"
  | errExtractBusinessUserData => "could not extract business data from context"
  | errExtractUserType => "could not extract user type from context"
  | errInvalidUserType => "invalid user type"
  | errAuthzUnauthorized => "action authorized"
  | errExtractInternalUserData => "error extracting internal data from context"
  | errInvalidRole => "invalid role"
  | errValidation => "validation failed"
  | errInvalidRequest => "invalid request"
  | errAuthorizationDecision => "authorization decision error"
  | errAuthorizationDenied => "authorization denied"
  | errResourceTypeInvalid => "resource type is invalid"
  | errActionInvalidForResource => "action is invalid for resource type"
  | errEmptyRequest => "empty request"
  | errWrongTenantID => "wrong tenant ID in request"
  | errNoAuthzForUserType => "incompatible user type"
  | errLoadAuthzAllowList => "failed to load authz allow list for tenantID"
  | errTenantNotExist => "tenantID does not exist"
  | errEmptyTenantID => "tenantID cannot be empty"
  | errInvalidWorkflowArtifactType => "validation failed: invalid workflow artifact type"
  | errInvalidWorkflowActionType => "validation failed: invalid workflow action type"
  | errModelValidation => "validation failed"
  | errInvalidKeyStateValue => "invalid key state"
  | errWorkflowApproverDecision => "workflow approver decision"
  | errWorkflowCreationNotAllowed => "user has no permission to create workflow"
  | errGettingKeyConfigByID => "failed to get key configuration by ID"
  | errKeyConfigurationNotAllowed => "user has no permission to access key configuration"
  | errKeyConfigurationNotFound => "KeyConfiguration not found"
  | errGetGroups => "failed to get group from database"
  | errMultipleRolesInGroups => "users with multiple roles are not allowed"
  | errCheckKeyConfigManagedByIAMGroups =>
    "failed to check key configurations managed by IAM groups"
  | errInternalRoleNotSupported => "operation not supported for this internal role"
  | errGettingKeyByID => "failed to get key by ID"
  | errConnectSystemNoPrimaryKey => "system cannot be connect without an enabled primary key"
  | errNotAllSystemsConnected => "keyconfig contains systems not connected"
  | errAlreadyPrimaryKey => "key is already primary key"
  | errUpdateNonBYOKKeyStatus => "key status update is only supported for byok"
  | errPrimaryKeyDisabled => "primary key must be enabled to perform switch action"
  | errUnsuportedWorkflow => "workflow artifact type and action type set is not supported"
  | errGetWorkflowDB => "failed to get workflow"
  | errOngoingWorkflowExist => "ongoing workflow for artifact already exists"
  | errCreateWorkflowDB => "failed to create workflow"
  | errCheckWorkflow => "failed to check workflow"
  | errCheckOngoingWorkflow => "failed to check ongoing workflow for artifact"
  | errValidateActor => "failed to validate actor for workflow transition"
  | errAddApproversDB => "failed to add approvers to workflow"
  | errApplyTransition => "failed to apply transition to workflow"
  | errInDBTransaction => "error when executing sequence of operations in a transaction"
  | errWorkflowCannotTransitionDB => "workflow cannot transition to specified state"
  | errUpdateApproverDecision => "failed to update approver decision"
  | errGetKeyConfigFromArtifact => "failed to get key configuration from artifact"
  | errAutoAssignApprover => "failed to auto assign approver"
  | errCreateApproverAssignTask => "failed to create auto approver assignment task"
  | errCheckWorkflowEligibility => "failed to check workflow eligibility"
  | errLoadIdentityManagementPlugin => "failed to load identity management plugin"
  | errGetWorkflowConfig => "failed to get workflow config"
  | errSetWorkflowConfig => "failed to set workflow config"
  | errRetentionLessThanMinimum => "retention is less than the minimum allowed (30 day)"
  | errWorkflowEnableDisableNotAllowed =>
    "workflow enable/disable is only allowed for ROLE_TEST tenants"
  | errDefaultExpiryExceedsMax =>
    "defaultExpiryPeriodDays must be less than or equal to maxExpiryPeriodDays"
  | errMinimumApprovalsTooLow => "minimumApprovals must be at least 2"
  | errGettingSystemByID => "failed to get system by ID"
  | errUpdateSystem => "failed to update system"
  | errSystemNotLinked => "system is not linked to a key configuration"
  | errLinkSystemProcessingOrFailed => "system cannot be linked in PROCESSING/FAILED state"
  | errUnlinkSystemProcessing => "system cannot be unlinked in PROCESSING state"
  | errUnlinkSystemNoPrimaryKey => "failed to unlink system without primary key"
  | errRetryNonFailedSystem => "system can action only be retried on failed state"
  | errUnsupportedSystemAction => "system action not supported"
  | errCreatingSystem => "failed to create system"
  | errKeyIsDeleted => "key is deleted"
  | errKeyIsNotEnabled => "key is not enabled"
  | errUpdateKeyConfiguration => "failed to update key configuration"
  | errNameCannotBeEmpty => "name field cannot be empty"
  | errKeyCreationFailed => "failed to create key in provider"
  | errKeyRegistration => "failed to register key from provider"
  | errUnsupportedKeyAlgorithm => "unsupported key algorithm"
  | errInvalidKeyState => "invalid key state"
  | errHYOKKeyActionNotAllowed => "HYOK key action not allowed"
  | errCreateKeyConfiguration => "failed to create key configuration"
  | errConnectedSystemToKeyConfig => "system is connected to keyconfig"
  | errInvalidKeyAdminGroup => "invalid keyconfig admin group"
  | errFailedToInitProvider => "failed to init provider"
  | errFailedToDisableProviderKey => "failed to disable provider key"
  | errFailedToDeleteProvider => "failed to delete provider"
  | errGetProviderKey => "failed to get provider key"
  | errGetProviderKeyVersions => "failed to get provider key versions"
  | errKeyInPendingState => "operation not allowed: key is in a pending state"
  | errGetKeyDB => "failed to get key from database"
  | errManagementDetailsUpdate => "management credentials cannot be updated"
  | errCryptoDetailsUpdate => "crypto access data cannot be updated"
  | errNonEditableCryptoRegionUpdate => "crypto region cant be updated as it's not editable"
  | errUpdateKeyDB => "failed to update key in database"
  | errCreateKeyDB => "failed to create key in database"
  | errDeleteKeyDB => "failed to delete key from database"
  | errGetConfiguration => "failed to get configuration"
  | errUpdatePrimary => "failed to update key primary state"
  | errInvalidKeyTypeForHYOKSync => "invalid key type for hyok sync"
  | errDeleteKey => "failed to delete key"
  | errCreateKeyVersionDB => "failed to create key version in database"
  | errNoKeyVersionsFound => "no key versions found"
  | errPoolIsDrained => "pool is drained"
  | errInvalidKeystore => "invalid keystore"
  | errGrantTrustFailed => "failed to grant trust to certificate"
  | errCouldNotRemoveConfiguration => "could not remove configuration"
  | errGetKeystoreFromPool => "failed to get keystore config from pool"
  | errUnmarshalConfig => "error unmarshalling tenant config"
  | errMarshalConfig => "error marshalling tenant config"
  | errSetDefaultKeystore => "failed to set default keystore"
  | errOnboardingInProgress => "another onboarding is already in progress"
  | errCreatingTenant => "creating tenant failed"
  | errValidatingTenant => "tenant validation failed"
  | errCreateGroups => "failed to create group from database"
  | errCreatingGroups => "creating user groups for existing tenant"
  | errGroupRole => "unsupported role for group creation"
  | errGetKeyVersionDB => "failed to get key version from database"
  | errInvalidEventActor => "invalid event actor"
  | errInsufficientApproverCount => "insufficient approvers to transition to next state"
  | errApproverNoLongerEligible =>
    "approver is no longer in the admin group and has not voted yet"
  | errTransitionExecution => "failed to execute transition"
  | errWorkflowExecution => "failed to execute workflow action"
  | errUpdateWorkflowState => "failed to update workflow state"
  | errCheckApprovers => "failed to check approvers"
  | errAutomatedTransition => "automated transition cannot be triggered by user input"
  | errInvalidWorkflowState => "invalid workflow state"
  | errCheckApproverDecision => "failed to check approver decision"
  | errListApprovers => "failed to list approvers"
  | errInvalidVotingTransition => "invalid voting transition"
  | errWorkflowGroupNotSufficientMembers => "insufficient eligible approvers in admin group"
  | errUserRemovedFromApproverGroup =>
    "user is no longer a member of the workflow approver groups"
  | errEventSendingFailed => "failed to send event"
  | errSystemProcessing => "system is still in processing state"
  | errRunningTask => "task failed"
  | errNoPreviousEvent => "no previous events found for selected item"
  | errSettingKeyClaim => "error setting key claim for system"
  | errSettingSystemLockedStatus => "error setting system status to locked"
  | errInvalidJobType => "invalid job type"
  | errNoConnectedRegionsForKey => "no connected regions found for key"
  | errVersionHasNoNativeID => "latest key version has no native ID"
  | errEnqueueingTask => "enqueue task"
  | errNilTask => "task is nil"
  | errParsingPayload => "could not parse task payload"
  | errKeyClaimAlreadyActive =>
    "rpc error: code = FailedPrecondition desc = key claim is already active"
  | errKeyClaimAlreadyInactive =>
    "rpc error: code = FailedPrecondition desc = key claim is already inactive"
  | errSystemsClientFailedUpdatingKeyClaim => "systems client failed to update keyclaim"
  | errGettingSystem => "failed to get system"
  | errClientInternalError => "internal error in systems client"
  | errSystemsClientFailedGettingSystems => "systems client failed to list systems"
  | errSystemsClientEmptyFilter => "systems client requires at least one filter criterion"
  | errUnsupportSystemType => "unsupported system type "
  | errProviderAuthenticationFailed => "failed to authenticate with the keystore provider"
  | errHYOKKeyNotFound => "HYOK provider key not found"
  | codeAlreadyExists => "rpc error: code = AlreadyExists"
  | codeUnavailable => "rpc error: code = Unavailable"
  | codeInternal => "rpc error: code = Internal"
  | errInvalidData => "invalid data"
  | errFailedResponse => "failed response"
  | errTenantOffboarding => "tenant offboarding error"
  | errTerminationTimeout => "tenant termination timed out"
  | errInvalidTenantID => "invalid tenant ID"
  | errGroupNotFound => "group not found"
  | errCheckingTenantExistence => "checking tenant existence failed"
  | errSchemaNotFound => "schema not found"
  | errJobAlreadyExists => "job already exists"
  | errFilterNotToSpec => "odata filter parameter: not to odata spec"
  | errFilterOperationNotSupported => "odata filter parameter: operation not supported"
  | errFilterTypeNotSupported => "odata filter parameter: type not supported"
  | errFilterInvalidValue => "odata filter parameter: value invalid"
  | errFilterNonSchema => "odata filter parameter: non schema"
  | errFilterValueConversionFailed => "odata filter parameter: type conversation failed"
  | errFilterValueModificationFailed => "odata filter parameter: value modification failed"
  | errNilPtr => "input must be a non-nil pointer"
  | errBadRepoTag => "unrecognised repo tag"

end Sentinel

inductive Err where
  | sentinel (s : Sentinel)
  /-- An error of the database, a plugin or another package, known by its text. -/
  | foreign (text : String)
  | wrap (base ext : Err)
  | wrapf (base : Err) (str : String)
  /-- `fmt.Errorf` with `%w` after its text. -/
  | errorf (str : String) (e : Err)
  | join (e e' : Err)
  /-- `NewTransitionError`. -/
  | transition (t : Transition)
  /-- `InsufficientApproversError`. -/
  | insufficientApprovers (required : Int) (actual : Nat)
  /-- `fsm.InvalidEventError`. -/
  | invalidEvent (event : Transition) (state : WorkflowState)
  /-- `fsm.UnknownEventError`. -/
  | unknownEvent (event : Transition)
  deriving DecidableEq, Repr

namespace Err

def error : Err → String
  | sentinel s => s.text
  | foreign text => text
  | wrap base ext => base.error ++ ": " ++ ext.error
  | wrapf base str => base.error ++ ": " ++ str
  | errorf str e => str ++ ": " ++ e.error
  | join e e' => e.error ++ "\n" ++ e'.error
  | transition t => Sentinel.errTransitionExecution.text ++ " " ++ t.toString
  | insufficientApprovers required actual =>
    "insufficient eligible approvers in admin group: required: " ++ toString required ++
      ", actual: " ++ toString actual
  | invalidEvent event state =>
    "event " ++ event.toString ++ " inappropriate in current state " ++ state.toString
  | unknownEvent event => "event " ++ event.toString ++ " does not exist"

/-- `errors.Is(err, s)`. -/
def is : Err → Sentinel → Bool
  | sentinel s', s => s' = s
  | wrap base ext, s => base.is s || ext.is s
  | wrapf base _, s => base.is s
  | errorf _ e, s => e.is s
  | join e e', s => e.is s || e'.is s
  | transition _, s => s = .errTransitionExecution
  | insufficientApprovers _ _, s => s = .errWorkflowGroupNotSufficientMembers
  | _, _ => false

/-- `errs.IsAnyError`. -/
def isAny (e : Err) (ss : List Sentinel) : Bool := ss.any e.is

end Err

inductive Exn where
  | err (e : Err)
  | panic
  deriving DecidableEq, Repr

namespace Exn

/-- A sentinel returned as it is. -/
def of (s : Sentinel) : Exn := .err (.sentinel s)

/-- `errs.Wrap(s, err)`. A panic is not an error value and passes unchanged. -/
def wrap (s : Sentinel) : Exn → Exn
  | err e => err (.wrap (.sentinel s) e)
  | panic => panic

def wrapf (str : String) : Exn → Exn
  | err e => err (.wrapf e str)
  | panic => panic

def errorf (str : String) : Exn → Exn
  | err e => err (.errorf str e)
  | panic => panic

def is : Exn → Sentinel → Bool
  | err e, s => e.is s
  | panic, _ => false

end Exn

end Cmk
