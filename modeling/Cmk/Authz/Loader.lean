import Cmk.Authz.Data
import Cmk.Sample

/-!
# Cmk.Authz.Loader

`internal/authz/loader`: the allow list of a tenant is built from its groups the first time a
request of the tenant arrives, and thrown away by a reset.

- `AuthzLoader`: the loader as the code has it. The mutex makes its operations a sequence.
- `Represents`: its keys and tenant IDs as a map from tenants to the groups they were loaded with.
- `allowed_iff`: what the decisions are after any sequence of loads, group changes and resets.
-/

namespace Cmk

open Tx Function List

variable {groups groups' : List Group}

variable {Resource Action : Type} [DecidableEq Resource] [DecidableEq Action]

/-- `TenantIDs` and the `AuthzKeys` of the handler. -/
structure LoaderState (Resource Action : Type) where
  tenantIDs : List String
  nodup : tenantIDs.Nodup
  authzKeys : Finset (AuthorizationKey Resource Action)

namespace LoaderState

/-- The state of a new loader, and after `ResetBusinessUserData`. -/
def empty : LoaderState Resource Action := ⟨[], .nil, ∅⟩

def addTenant (s : LoaderState Resource Action) (tenantID : String) (h : tenantID ∉ s.tenantIDs)
    (authzKeys : Finset (AuthorizationKey Resource Action)) : LoaderState Resource Action :=
  ⟨tenantID :: s.tenantIDs, List.nodup_cons.2 ⟨h, s.nodup⟩, authzKeys⟩

end LoaderState

def addGroup (tenantID : String) (group : Group) :
    List (Option BusinessRole × BusinessUser) → List (Option BusinessRole × BusinessUser)
  | [] => [(group.role, ⟨tenantID, [group.iamIdentifier]⟩)]
  | (role, user) :: m =>
    if role = group.role then
      (role, { user with groups := user.groups ++ [group.iamIdentifier] }) :: m
    else (role, user) :: addGroup tenantID group m

def tenantRoleGroupsMap (tenantID : String) (groups : List Group) :
    List (Option BusinessRole × BusinessUser) :=
  groups.foldl (fun m group => addGroup tenantID group m) []

structure AuthzLoader (Resource Action : Type) where
  authzHandler : AuthzHandler Resource Action
  repo : Repo
  /-- Does `First` find the row of the tenant? It is in the shared schema. -/
  firstTenant : Nat → String → Bool
  /-- The order in which a map is visited. -/
  range : Nat → (k : Nat) → Equiv.Perm (Fin k)

namespace AuthzLoader

variable (am : AuthzLoader Resource Action) (stores : String → Db) (n : Nat) (ctx : Ctx)

/-- The groups of the tenant of the context, whichever tenant is being loaded. -/
def getGroups : Except Exn (List Group) :=
  ((am.repo.list ctx 0 fun d => d.groups.rows).eval (stores ctx.tenant) n).1.mapError
    (.wrap .errLoadAuthzAllowList)

/-- `loadTenantAllowedActions`, in its statements `n` and `n + 1`. -/
def loadAllowedActions (tenantID : String) (s : LoaderState Resource Action) :
    Except Exn Unit × LoaderState Resource Action :=
  if tenantID = "" then (.error (.of .errEmptyTenantID), s)
  else if am.firstTenant n tenantID = false then (.error (.of .errTenantNotExist), s)
  else if h : tenantID ∈ s.tenantIDs then (.ok (), s)
  else
    match am.getGroups stores (n + 1) ctx with
    | .error e => (.error e, s)
    | .ok groups =>
      let m := tenantRoleGroupsMap tenantID groups
      match am.authzHandler.addUser (shuffle m (am.range n _)) s.authzKeys with
      | (.error e, keys) => (.error (e.wrap .errLoadAuthzAllowList), { s with authzKeys := keys })
      | (.ok (), keys) => (.ok (), s.addTenant tenantID h keys)

/-- A context without a tenant is not an error: there is nothing to load. -/
def loadTenantAllowedActions (s : LoaderState Resource Action) :
    Except Exn Unit × LoaderState Resource Action :=
  match ctx.extractTenantID with
  | .error _ => (.ok (), s)
  | .ok tenantID => am.loadAllowedActions stores n ctx tenantID s

def reloadAllowedActions : List String → Nat → LoaderState Resource Action →
    Except Exn Unit × LoaderState Resource Action
  | [], _, s => (.ok (), s)
  | tenantID :: tenantIDs, n, s =>
    match am.loadAllowedActions stores n ctx tenantID s with
    | (.error e, s) => (.error (e.wrap .errLoadAuthzAllowList), s)
    | (.ok (), s) => reloadAllowedActions tenantIDs (n + 2) s

def reloadTenantAllowedActions (s : LoaderState Resource Action) :
    Except Exn Unit × LoaderState Resource Action :=
  am.reloadAllowedActions stores ctx (shuffle s.tenantIDs (am.range n _)) n .empty

end AuthzLoader

section Map

variable {tenantID : String} {group : Group} {groups : List Group}
  {m : List (Option BusinessRole × BusinessUser)}

def Listed (m : List (Option BusinessRole × BusinessUser)) (role : Option BusinessRole)
    (iamIdentifier : String) : Prop :=
  ∃ e ∈ m, e.1 = role ∧ iamIdentifier ∈ e.2.groups

theorem listed_addGroup {role : Option BusinessRole} {iamIdentifier : String} :
    Listed (addGroup tenantID group m) role iamIdentifier ↔
      Listed m role iamIdentifier ∨ group.role = role ∧ group.iamIdentifier = iamIdentifier := by
  induction m with
  | nil => simp [Listed, addGroup, eq_comm]
  | cons e m ih =>
    unfold addGroup
    simp only [Listed] at ih
    split
    · rename_i h
      simp only [Listed, mem_cons, exists_eq_or_imp, mem_append, not_mem_nil,
        or_false, ← h]
      grind
    · simp only [Listed, mem_cons, exists_eq_or_imp, ih, or_assoc]

theorem mem_addGroup {e : Option BusinessRole × BusinessUser} (h : e ∈ addGroup tenantID group m) :
    (e.2.tenantID = tenantID ∧ e.1 = group.role) ∨
      ∃ e' ∈ m, e.2.tenantID = e'.2.tenantID ∧ e.1 = e'.1 := by
  induction m with
  | nil =>
    simp only [addGroup, mem_singleton] at h
    exact .inl (by simp [h])
  | cons e' m ih =>
    unfold addGroup at h
    split at h <;> rcases mem_cons.1 h with rfl | h
    · exact .inr ⟨e', by simp, rfl, rfl⟩
    · exact .inr ⟨e, by simp [h], rfl, rfl⟩
    · exact .inr ⟨_, by simp, rfl, rfl⟩
    · rcases ih h with h | ⟨e'', he, h⟩
      · exact .inl h
      · exact .inr ⟨e'', by simp [he], h⟩

theorem listed_tenantRoleGroupsMap {role : Option BusinessRole} {iamIdentifier : String} :
    Listed (tenantRoleGroupsMap tenantID groups) role iamIdentifier ↔
      ∃ g ∈ groups, g.role = role ∧ g.iamIdentifier = iamIdentifier := by
  have hfold : ∀ (groups : List Group) m,
      Listed (groups.foldl (fun m group => addGroup tenantID group m) m) role iamIdentifier ↔
        Listed m role iamIdentifier ∨ ∃ g ∈ groups, g.role = role ∧ g.iamIdentifier = iamIdentifier := by
    intro groups
    induction groups with
    | nil => simp
    | cons g groups ih =>
      intro m
      simp only [foldl_cons, ih, listed_addGroup, mem_cons, exists_eq_or_imp, or_assoc]
  rw [tenantRoleGroupsMap, hfold]
  simp [Listed]

theorem mem_tenantRoleGroupsMap {e : Option BusinessRole × BusinessUser}
    (h : e ∈ tenantRoleGroupsMap tenantID groups) :
    e.2.tenantID = tenantID ∧ ∃ g ∈ groups, e.1 = g.role := by
  have hfold : ∀ (groups : List Group) m,
      e ∈ groups.foldl (fun m group => addGroup tenantID group m) m →
        (e.2.tenantID = tenantID ∧ ∃ g ∈ groups, e.1 = g.role) ∨
          ∃ e' ∈ m, e.2.tenantID = e'.2.tenantID ∧ e.1 = e'.1 := by
    intro groups
    induction groups with
    | nil => exact fun m h => .inr ⟨e, h, rfl, rfl⟩
    | cons g groups ih =>
      intro m h
      rcases ih _ h with ⟨ht, g', hg, hr⟩ | ⟨e', he', ht, hr⟩
      · exact .inl ⟨ht, g', by simp [hg], hr⟩
      · rcases mem_addGroup he' with ⟨ht', hr'⟩ | ⟨e'', he'', ht', hr'⟩
        · exact .inl ⟨ht.trans ht', g, by simp, hr.trans hr'⟩
        · exact .inr ⟨e'', he'', ht.trans ht', hr.trans hr'⟩
  rcases hfold groups [] h with h | ⟨e', he', -⟩
  · exact h
  · simp at he'

end Map

namespace AuthzLoader

variable {am : AuthzLoader Resource Action} {stores : String → Db} {n : Nat} {ctx : Ctx}
  {tenantID : String} {s : LoaderState Resource Action}

def RolesKnown (am : AuthzLoader Resource Action) (groups : List Group) : Prop :=
  ∀ g ∈ groups, (am.authzHandler.rolePolicies g.role).isSome

/-- One of the groups is the group of the key, and its role grants what the key allows. -/
def Granted (am : AuthzLoader Resource Action) (groups : List Group)
    (key : AuthorizationKey Resource Action) : Prop :=
  ∃ g ∈ groups, g.iamIdentifier = key.user.group ∧
    am.authzHandler.Grants g.role key.resourceType key.action

omit [DecidableEq Resource] [DecidableEq Action] in
theorem RolesKnown.mono (h : am.RolesKnown groups) (hsub : groups' ⊆ groups) :
    am.RolesKnown groups' := fun g hg => h g (hsub hg)

theorem addUser_map (tenantID : String) (hroles : am.RolesKnown groups)
    (σ : Equiv.Perm (Fin (tenantRoleGroupsMap tenantID groups).length))
    (keys : Finset (AuthorizationKey Resource Action)) :
    ∃ keys', am.authzHandler.addUser (shuffle (tenantRoleGroupsMap tenantID groups) σ) keys =
        (.ok (), keys') ∧
      ∀ key, key ∈ keys' ↔ key ∈ keys ∨ key.user.tenantID = tenantID ∧ am.Granted groups key := by
  have hmem : ∀ e, e ∈ shuffle (tenantRoleGroupsMap tenantID groups) σ ↔
      e ∈ tenantRoleGroupsMap tenantID groups := fun e => (shuffle_perm _ σ).mem_iff
  have hknown : ∀ e ∈ shuffle (tenantRoleGroupsMap tenantID groups) σ,
      (am.authzHandler.rolePolicies e.1).isSome := by
    intro e he
    obtain ⟨-, g, hg, hr⟩ := mem_tenantRoleGroupsMap ((hmem e).1 he)
    exact hr ▸ hroles g hg
  obtain ⟨keys', hadd, hkeys⟩ := AuthzHandler.addUser_ok hknown keys
  refine ⟨keys', hadd, fun key => (hkeys key).trans (or_congr_right ⟨?_, ?_⟩)⟩
  · rintro ⟨e, he, hgrants, ht, hg⟩
    rw [hmem] at he
    obtain ⟨g, hgm, hr, hi⟩ := listed_tenantRoleGroupsMap.1 ⟨e, he, rfl, hg⟩
    exact ⟨ht.trans (mem_tenantRoleGroupsMap he).1, g, hgm, hi, hr ▸ hgrants⟩
  · rintro ⟨ht, g, hg, hi, hgrants⟩
    obtain ⟨e, he, hr, hi'⟩ := listed_tenantRoleGroupsMap.2 ⟨g, hg, rfl, hi⟩
    exact ⟨e, (hmem e).2 he, hr ▸ hgrants, ht.trans (mem_tenantRoleGroupsMap he).1.symm, hi'⟩

def Answered (am : AuthzLoader Resource Action) (n : Nat) (ctx : Ctx) (tenantID : String) : Prop :=
  tenantID ≠ "" ∧ am.firstTenant n tenantID = true ∧ ¬ am.repo.Refuses ctx (n + 1)

omit [DecidableEq Resource] [DecidableEq Action] in
theorem getGroups_ok (h : ¬ am.repo.Refuses ctx n) :
    am.getGroups stores n ctx =
      .ok (page (stores ctx.tenant).groups.rows (am.repo.order n _) 0 defaultLimit) := by
  obtain ⟨ht, hf⟩ := not_or.1 h
  rw [getGroups, Repo.eval_list ht (not_not.1 hf)]
  rfl

omit [DecidableEq Resource] [DecidableEq Action] in
theorem getGroups_refused (stores : String → Db) (h : am.repo.Refuses ctx n) :
    ∃ e, am.getGroups stores n ctx = .error e := by
  unfold getGroups Repo.list Repo.query
  simp only [Query.eval_ask, Ctx.extractTenantID]
  rcases h with ht | hf
  · simp only [if_pos ht]
    exact ⟨_, rfl⟩
  · obtain ⟨e, he⟩ := Option.ne_none_iff_exists'.1 hf
    simp only [he]
    split <;> exact ⟨_, rfl⟩

theorem load_again (am : AuthzLoader Resource Action) (stores : String → Db) (n : Nat) (ctx : Ctx)
    (hs : tenantID ∈ s.tenantIDs) :
    ∃ r, am.loadAllowedActions stores n ctx tenantID s = (r, s) := by
  unfold loadAllowedActions
  split
  · exact ⟨_, rfl⟩
  · split
    · exact ⟨_, rfl⟩
    · exact ⟨_, rfl⟩

theorem load_refused (stores : String → Db) (hs : tenantID ∉ s.tenantIDs) (h : ¬ am.Answered n ctx tenantID) :
    ∃ e, am.loadAllowedActions stores n ctx tenantID s = (.error e, s) := by
  unfold loadAllowedActions
  by_cases hne : tenantID = ""
  · exact ⟨_, if_pos hne⟩
  · rw [if_neg hne]
    by_cases hfirst : am.firstTenant n tenantID = false
    · exact ⟨_, if_pos hfirst⟩
    · have hrefused : am.repo.Refuses ctx (n + 1) := by
        by_contra hr
        exact h ⟨hne, Bool.eq_true_of_not_eq_false hfirst, hr⟩
      obtain ⟨e, he⟩ := getGroups_refused stores hrefused
      rw [if_neg hfirst, dif_neg hs, he]
      exact ⟨e, rfl⟩

theorem load_answered (hroles : am.RolesKnown (stores ctx.tenant).groups.rows)
    (hs : tenantID ∉ s.tenantIDs) (h : am.Answered n ctx tenantID) :
    ∃ keys, am.loadAllowedActions stores n ctx tenantID s =
        (.ok (), s.addTenant tenantID hs keys) ∧
      ∀ key, key ∈ keys ↔ key ∈ s.authzKeys ∨ key.user.tenantID = tenantID ∧
        am.Granted (page (stores ctx.tenant).groups.rows (am.repo.order (n + 1) _) 0 defaultLimit)
          key := by
  obtain ⟨hne, hfirst, hr⟩ := h
  obtain ⟨keys, hadd, hkeys⟩ := addUser_map tenantID (hroles.mono page_subset)
    (am.range n _) s.authzKeys
  refine ⟨keys, ?_, hkeys⟩
  unfold loadAllowedActions
  rw [if_neg hne, if_neg (by simp [hfirst]), dif_neg hs, getGroups_ok hr]
  simp only [hadd]

end AuthzLoader

/-- The loader, the tables of every tenant and the number of the next statement. -/
structure AuthzSys (Resource Action : Type) where
  stores : String → Db
  loader : LoaderState Resource Action
  n : Nat

inductive LoaderOp where
  /-- `LoadTenantAllowedActions`. -/
  | load (ctx : Ctx)
  /-- The tables of a tenant change. -/
  | change (tenantID : String) (d : Db)
  /-- `ResetBusinessUserData`. -/
  | reset

abbrev FirstLoads := String → Option (List Group)

namespace AuthzLoader

variable (am : AuthzLoader Resource Action)

def step (s : AuthzSys Resource Action) : LoaderOp → Except Exn Unit × AuthzSys Resource Action
  | .load ctx =>
    let r := am.loadTenantAllowedActions s.stores s.n ctx s.loader
    (r.1, { s with loader := r.2, n := s.n + 2 })
  | .change tenantID d => (.ok (), { s with stores := Function.update s.stores tenantID d })
  | .reset => (.ok (), { s with loader := .empty })

def run (s : AuthzSys Resource Action) (ops : List LoaderOp) : AuthzSys Resource Action :=
  ops.foldl (fun s op => (am.step s op).2) s

/-- What an operation adds to the record of first loads: a load that succeeds, unless the tenant was
loaded before. -/
def record (s : AuthzSys Resource Action) (first : FirstLoads) : LoaderOp → FirstLoads
  | .load ctx =>
    if ctx.tenant ≠ "" ∧ (am.step s (.load ctx)).1.isOk then
      Function.update first ctx.tenant
        (some ((first ctx.tenant).getD (s.stores ctx.tenant).groups.rows))
    else first
  | .change _ _ => first
  | .reset => fun _ => none

/-- The groups of every tenant at its first load since the last reset. -/
def firstLoads : AuthzSys Resource Action → FirstLoads → List LoaderOp → FirstLoads
  | _, first, [] => first
  | s, first, op :: ops => firstLoads (am.step s op).2 (am.record s first op) ops

variable {am}

/-- Groups that fit on one page and have roles of the policy table. -/
structure Proper (am : AuthzLoader Resource Action) (d : Db) : Prop where
  fits : d.groups.rows.length ≤ defaultLimit
  known : am.RolesKnown d.groups.rows

structure Represents (am : AuthzLoader Resource Action) (s : LoaderState Resource Action)
    (first : FirstLoads) : Prop where
  tenants : ∀ t, t ∈ s.tenantIDs ↔ (first t).isSome
  keys : ∀ key, key ∈ s.authzKeys ↔
    ∃ groups, first key.user.tenantID = some groups ∧ am.Granted groups key
  unnamed : first "" = none

omit [DecidableEq Resource] [DecidableEq Action] in
theorem represents_empty : am.Represents .empty fun _ => none :=
  ⟨by simp [LoaderState.empty], by simp [LoaderState.empty], rfl⟩

omit [DecidableEq Resource] [DecidableEq Action] in
theorem granted_congr (h : groups.Perm groups') {key : AuthorizationKey Resource Action} :
    am.Granted groups key ↔ am.Granted groups' key := by
  simp only [Granted, h.mem_iff]

theorem Represents.load {s : LoaderState Resource Action} {first : FirstLoads}
    (h : am.Represents s first) {stores : String → Db} {n : Nat} {ctx : Ctx}
    (hp : am.Proper (stores ctx.tenant)) (ht : ctx.tenant ≠ "") :
    am.Represents (am.loadAllowedActions stores n ctx ctx.tenant s).2
      (if (am.loadAllowedActions stores n ctx ctx.tenant s).1.isOk then
        update first ctx.tenant
          (some ((first ctx.tenant).getD (stores ctx.tenant).groups.rows))
      else first) := by
  by_cases hs : ctx.tenant ∈ s.tenantIDs
  · obtain ⟨r, hr⟩ := load_again am stores n ctx hs
    obtain ⟨groups, hg⟩ := Option.isSome_iff_exists.1 ((h.tenants _).1 hs)
    simp only [hr, hg, Option.getD_some]
    rw [← hg, update_eq_self, ite_self]
    exact h
  · have hnone : first ctx.tenant = none := by
      rw [← Option.not_isSome_iff_eq_none, ← h.tenants]
      exact hs
    by_cases ha : am.Answered n ctx ctx.tenant
    · obtain ⟨keys, hload, hkeys⟩ := load_answered hp.known hs ha
      simp only [hload, hnone, Option.getD_none, Except.isOk, Except.toBool, if_true]
      refine ⟨fun t => ?_, fun key => ?_, ?_⟩
      · by_cases he : t = ctx.tenant
        · simp [LoaderState.addTenant, he]
        · simp [LoaderState.addTenant, he, h.tenants]
      · rw [LoaderState.addTenant, hkeys, h.keys, granted_congr (page_perm hp.fits)]
        by_cases he : key.user.tenantID = ctx.tenant
        · simp [he, hnone]
        · simp [he]
      · rw [update_of_ne (Ne.symm ht)]
        exact h.unnamed
    · obtain ⟨e, he⟩ := load_refused stores hs ha
      simp only [he, Except.isOk, Except.toBool, Bool.false_eq_true, if_false]
      exact h

theorem Represents.step {s : AuthzSys Resource Action} {first : FirstLoads}
    (h : am.Represents s.loader first) (hp : ∀ t, am.Proper (s.stores t)) (op : LoaderOp) :
    am.Represents (am.step s op).2.loader (am.record s first op) := by
  cases op with
  | load ctx =>
    simp only [AuthzLoader.step, record, loadTenantAllowedActions, Ctx.extractTenantID]
    by_cases ht : ctx.tenant = ""
    · simp only [ht, if_true]
      exact h
    · simp only [ht, if_false, ne_eq, not_false_eq_true, true_and]
      exact h.load (hp _) ht
  | change t d => exact h
  | reset => exact represents_empty

theorem Represents.run {s : AuthzSys Resource Action} {first : FirstLoads}
    (h : am.Represents s.loader first) (hp : ∀ t, am.Proper (s.stores t)) (ops : List LoaderOp)
    (hops : ∀ t d, .change t d ∈ ops → am.Proper d) :
    am.Represents (am.run s ops).loader (am.firstLoads s first ops) := by
  induction ops generalizing s first with
  | nil => exact h
  | cons op ops ih =>
    refine ih (h.step hp op) (fun t => ?_) fun t d hd => hops t d (mem_cons_of_mem _ hd)
    cases op with
    | load ctx => exact hp t
    | change t' d =>
      by_cases he : t = t'
      · subst he
        simpa [AuthzLoader.step] using hops t d (mem_cons_self ..)
      · simpa [AuthzLoader.step, he] using hp t
    | reset => exact hp t

variable [ToString Resource] [ToString Action]

/-- After any sequence of loads, group changes and resets, the decision for a user is the one their
groups' roles had at the first load of the tenant since the last reset. -/
theorem business_user_allowed_iff {stores : String → Db} {n : Nat}
    (hstores : ∀ t, am.Proper (stores t)) {ops : List LoaderOp}
    (hops : ∀ t d, .change t d ∈ ops → am.Proper d) {ctx : Ctx}
    {request : AuthzRequest Resource Action} (huser : request.user.userName ≠ "")
    (htenant : request.user.tenantID = ctx.tenant) (htype : ctx.userType = some .businessUser)
    (hra : am.authzHandler.isValidResourceAction request.resourceTypeName request.action =
      .ok ()) :
    am.authzHandler.isBusinessUserAllowed (am.run ⟨stores, .empty, n⟩ ops).loader.authzKeys ctx
        request = .ok true ↔
      ∃ groups, am.firstLoads ⟨stores, .empty, n⟩ (fun _ => none) ops request.user.tenantID =
          some groups ∧
        ∃ g ∈ groups, g.iamIdentifier ∈ request.user.groups ∧
          am.authzHandler.Grants g.role request.resourceTypeName request.action := by
  have h := represents_empty.run (s := ⟨stores, .empty, n⟩) hstores ops hops
  rw [AuthzHandler.isBusinessUserAllowed_iff huser htenant htype hra, htenant]
  constructor
  · rintro ⟨-, group, hg, hkey⟩
    obtain ⟨groups, hfirst, g, hmem, hi, hgrants⟩ := (h.keys _).1 hkey
    exact ⟨groups, hfirst, g, hmem, hi ▸ hg, hgrants⟩
  · rintro ⟨groups, hfirst, g, hmem, hi, hgrants⟩
    refine ⟨fun ht => ?_, g.iamIdentifier, hi, (h.keys _).2 ⟨groups, hfirst, g, hmem, rfl, hgrants⟩⟩
    rw [ht, h.unnamed] at hfirst
    cases hfirst

end AuthzLoader

namespace Sample

def authzHandler : AuthzHandler String String where
  rolePolicies role :=
    if role = some .keyAdmin then some [⟨"KeyAdmin", [⟨"Key", ["read"]⟩]⟩] else none
  resourceActions resource := if resource = "Key" then some ["read", "delete"] else none

def authzLoader : AuthzLoader String String where
  authzHandler := authzHandler
  repo := repo
  firstTenant _ _ := true
  range _ _ := Equiv.refl _

theorem proper_db : authzLoader.Proper db := ⟨by decide, by unfold AuthzLoader.RolesKnown; decide⟩

/-- The user of the admin group may read keys once the tenant is loaded. -/
theorem business_user_allowed_after_load :
    authzLoader.authzHandler.isBusinessUserAllowed
      (authzLoader.run ⟨fun _ => db, .empty, 0⟩ [.load (as "a")]).loader.authzKeys (as "a")
      ⟨⟨"t", "a", ["KMS_g"]⟩, "Key", "read"⟩ = .ok true :=
  (AuthzLoader.business_user_allowed_iff (fun _ => proper_db) (by simp) (by decide) rfl rfl
    (by decide)).2
    ⟨_, rfl, ⟨10, "g", some .keyAdmin, "KMS_g"⟩, by decide, by decide, _, rfl, _,
      List.mem_singleton_self _, _, List.mem_singleton_self _, rfl, by decide⟩

end Sample

end Cmk
