import Cmk.Repo

/-!
# Cmk.Authz.Data

The allow list of `internal/authz`: the keys `AddUser` puts into it and the decision
`IsBusinessUserAllowed` takes from it.

The code is generic in the resource and action types (those of the API and of the repository), and
so is the model.
-/

namespace Cmk

structure PolicyResource (Resource Action : Type) where
  type : Resource
  actions : List Action

structure Policy (Resource Action : Type) where
  id : String
  resourceTypes : List (PolicyResource Resource Action)

/-- A map from roles to policies; a role that is not in it is invalid. -/
abbrev RolePolicies (Role Resource Action : Type) :=
  Role → Option (List (Policy Resource Action))

structure BusinessUserCheck where
  tenantID : String
  group : String
  deriving DecidableEq, Repr

structure AuthorizationKey (Resource Action : Type) where
  user : BusinessUserCheck
  resourceType : Resource
  action : Action
  deriving DecidableEq, Repr

structure BusinessUser where
  tenantID : String
  groups : List String
  deriving DecidableEq, Repr

/-- `authz.Handler` without its keys, which are state. -/
structure AuthzHandler (Resource Action : Type) where
  rolePolicies : RolePolicies (Option BusinessRole) Resource Action
  resourceActions : Resource → Option (List Action)

structure BusinessUserRequest where
  tenantID : String
  userName : String
  groups : List String
  deriving DecidableEq, Repr

namespace BusinessUserRequest

def isEmpty (r : BusinessUserRequest) : Bool := r.userName = "" || r.groups.isEmpty

/-- The request must be of the context's tenant and of a business user. -/
def isValidContext (r : BusinessUserRequest) (ctx : Ctx) : Except Exn Unit := do
  let tenant ← ctx.extractTenantID
  if r.tenantID ≠ tenant then throw (.of .errWrongTenantID)
  let userType ← ctx.extractUserType
  if userType ≠ .businessUser then throw (.of .errNoAuthzForUserType)

end BusinessUserRequest

structure AuthzRequest (Resource Action : Type) where
  user : BusinessUserRequest
  resourceTypeName : Resource
  action : Action

def AuthzRequest.isValidContext {Resource Action : Type} (r : AuthzRequest Resource Action)
    (ctx : Ctx) : Except Exn Unit := do
  if r.user.isEmpty then throw (.of .errEmptyRequest)
  r.user.isValidContext ctx

/-- A loop that adds elements: one is present afterwards if it was before or if a round adds it. -/
theorem mem_foldl_of_step {α κ : Type} {f : Finset κ → α → Finset κ} {P : α → Prop} {k : κ}
    (hf : ∀ s a, k ∈ f s a ↔ k ∈ s ∨ P a) (l : List α) (s : Finset κ) :
    k ∈ l.foldl f s ↔ k ∈ s ∨ ∃ a ∈ l, P a := by
  induction l generalizing s with
  | nil => simp
  | cons a l ih => simp [ih, hf, or_assoc]

namespace AuthzHandler

variable {Resource Action : Type} [DecidableEq Resource] [DecidableEq Action]
variable (h : AuthzHandler Resource Action)

def addRole (policies : List (Policy Resource Action)) (tenantAuth : BusinessUser)
    (authzKeys : Finset (AuthorizationKey Resource Action)) :
    Finset (AuthorizationKey Resource Action) :=
  policies.foldl (fun keys policy =>
    policy.resourceTypes.foldl (fun keys resource =>
      resource.actions.foldl (fun keys action =>
        tenantAuth.groups.foldl (fun keys group =>
          insert ⟨⟨tenantAuth.tenantID, group⟩, resource.type, action⟩ keys) keys) keys) keys)
    authzKeys

/-- `AddUser`, over the entries of the map in the order they are visited. A role without policies
ends it; what was added before stays. -/
def addUser : List (Option BusinessRole × BusinessUser) →
    Finset (AuthorizationKey Resource Action) →
    Except Exn Unit × Finset (AuthorizationKey Resource Action)
  | [], authzKeys => (.ok (), authzKeys)
  | (role, tenantAuth) :: user, authzKeys =>
    match h.rolePolicies role with
    | none => (.error (.wrap .errValidation (.of .errInvalidRole)), authzKeys)
    | some policies => addUser user (addRole policies tenantAuth authzKeys)

def isValidResourceAction [ToString Resource] [ToString Action] (resource : Resource)
    (action : Action) : Except Exn Unit :=
  match h.resourceActions resource with
  | none => .error (.wrapf (toString resource) (.of .errResourceTypeInvalid))
  | some actions =>
    if action ∈ actions then .ok ()
    else .error (.wrapf (toString action) (.of .errActionInvalidForResource))

/-- `IsBusinessUserAllowed`. It returns true without an error, or false with one. -/
def isBusinessUserAllowed [ToString Resource] [ToString Action]
    (authzKeys : Finset (AuthorizationKey Resource Action)) (ctx : Ctx)
    (request : AuthzRequest Resource Action) : Except Exn Bool := do
  (request.isValidContext ctx).mapError (.wrap .errInvalidRequest)
  (h.isValidResourceAction request.resourceTypeName request.action).mapError
    fun _ => .wrap .errInvalidRequest (.of .errInvalidRequest)
  if request.user.groups.any fun group =>
      (⟨⟨request.user.tenantID, group⟩, request.resourceTypeName, request.action⟩ :
        AuthorizationKey Resource Action) ∈ authzKeys then
    return true
  throw (.wrap .errAuthorizationDecision (.of .errAuthorizationDenied))

/-- A policy of the role lists the action on the resource. -/
def Grants (role : Option BusinessRole) (resource : Resource) (action : Action) : Prop :=
  ∃ policies, h.rolePolicies role = some policies ∧ ∃ policy ∈ policies,
    ∃ r ∈ policy.resourceTypes, r.type = resource ∧ action ∈ r.actions

variable {h} {key : AuthorizationKey Resource Action}

theorem mem_addRole {policies : List (Policy Resource Action)} {tenantAuth : BusinessUser}
    {keys : Finset (AuthorizationKey Resource Action)} :
    key ∈ addRole policies tenantAuth keys ↔ key ∈ keys ∨
      (∃ policy ∈ policies, ∃ r ∈ policy.resourceTypes,
        r.type = key.resourceType ∧ key.action ∈ r.actions) ∧
      key.user.tenantID = tenantAuth.tenantID ∧ key.user.group ∈ tenantAuth.groups := by
  refine (mem_foldl_of_step (fun keys policy => mem_foldl_of_step (fun keys r =>
    mem_foldl_of_step (fun keys action =>
      mem_foldl_of_step (P := fun group => key = ⟨⟨tenantAuth.tenantID, group⟩, r.type, action⟩)
        (fun keys group => by rw [Finset.mem_insert, or_comm]) tenantAuth.groups keys)
      r.actions keys) policy.resourceTypes keys) policies keys).trans ?_
  refine or_congr_right ⟨?_, ?_⟩
  · rintro ⟨policy, hp, r, hr, action, ha, group, hg, rfl⟩
    exact ⟨⟨policy, hp, r, hr, rfl, ha⟩, rfl, hg⟩
  · rintro ⟨⟨policy, hp, r, hr, htype, ha⟩, htenant, hg⟩
    refine ⟨policy, hp, r, hr, key.action, ha, key.user.group, hg, ?_⟩
    rw [htype, ← htenant]

theorem addUser_ok {user : List (Option BusinessRole × BusinessUser)}
    (hroles : ∀ e ∈ user, (h.rolePolicies e.1).isSome)
    (keys : Finset (AuthorizationKey Resource Action)) :
    ∃ keys', h.addUser user keys = (.ok (), keys') ∧ ∀ key, key ∈ keys' ↔ key ∈ keys ∨
      ∃ e ∈ user, h.Grants e.1 key.resourceType key.action ∧
        key.user.tenantID = e.2.tenantID ∧ key.user.group ∈ e.2.groups := by
  induction user generalizing keys with
  | nil => exact ⟨keys, rfl, by simp⟩
  | cons e user ih =>
    obtain ⟨policies, hp⟩ := Option.isSome_iff_exists.1 (hroles e (by simp))
    obtain ⟨keys', hadd, hmem⟩ := ih (fun e he => hroles e (by simp [he]))
      (addRole policies e.2 keys)
    refine ⟨keys', by simp only [addUser, hp, hadd], fun key => ?_⟩
    simp only [hmem, mem_addRole, List.mem_cons, or_and_right, exists_or, exists_eq_left, or_assoc,
      Grants, hp, Option.some.injEq, exists_eq_left']

theorem isBusinessUserAllowed_iff [ToString Resource] [ToString Action]
    {keys : Finset (AuthorizationKey Resource Action)} {ctx : Ctx}
    {request : AuthzRequest Resource Action} (huser : request.user.userName ≠ "")
    (htenant : request.user.tenantID = ctx.tenant) (htype : ctx.userType = some .businessUser)
    (hra : h.isValidResourceAction request.resourceTypeName request.action = .ok ()) :
    h.isBusinessUserAllowed keys ctx request = .ok true ↔ ctx.tenant ≠ "" ∧
      ∃ group ∈ request.user.groups,
        (⟨⟨ctx.tenant, group⟩, request.resourceTypeName, request.action⟩ :
          AuthorizationKey Resource Action) ∈ keys := by
  simp only [isBusinessUserAllowed, AuthzRequest.isValidContext,
    BusinessUserRequest.isValidContext, BusinessUserRequest.isEmpty, Ctx.extractTenantID,
    Ctx.extractUserType, huser, htenant, htype, hra, bind, Except.bind, pure, Except.pure,
    Except.mapError]
  by_cases hg : request.user.groups = []
  · simp [hg, throw, throwThe, MonadExceptOf.throw]
  · by_cases ht : ctx.tenant = ""
    · simp [hg, ht]
    · simp [hg, ht]

end AuthzHandler

end Cmk
