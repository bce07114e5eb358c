import Cmk.Authz.Roles
import Cmk.Workflow.Listing

/-!
# Cmk.Keys.Listing

Which key configurations a user sees is decided twice: by the statement of `GetKeyConfigurations`,
which joins the admin groups and keeps one row for each configuration, and by the access check of
`GetKeyConfigurationByID`, which counts the rows of a join. Auditors bypass both.

- `Repo.keyConfigRows`, `KeyConfigManager.getKeyConfigurations`: the listing.
- `Db.Sees`: what both should say, in terms of the tables.
- `listed_iff_accessible`: they agree, and the pages are cut from a list without repetitions.
-/

namespace Cmk

open Tx List Sql KeyConfigManager Repo User

variable {c : KeyConfiguration}

/-- A key configuration with the totals of `getKeyConfigWithTotalsQuery`. -/
structure KeyConfigurationTotals where
  keyConfig : KeyConfiguration
  totalSystems : Nat
  totalKeys : Nat
  deriving DecidableEq, Repr

structure KeyConfigRow where
  keyConfig : KeyConfiguration
  system : Option System := none
  key : Option Key := none
  group : Option Group := none

namespace Repo

/-- The joins of `getKeyConfigWithTotalsQuery`. -/
def joinTotals (d : Db) : List KeyConfigRow :=
  let rows := d.keyConfigurations.rows.map fun kc => ({ keyConfig := kc } : KeyConfigRow)
  let rows := Sql.leftJoin (fun row s => Sql.eq (some row.keyConfig.id) s.keyConfigurationID)
    (fun row s => { row with system := s }) d.systems.rows rows
  Sql.leftJoin (fun row k => Sql.eq (some row.keyConfig.id) (some k.keyConfigurationID))
    (fun row k => { row with key := k }) d.keys.rows rows

/-- What `applyIAMGroupFilter` adds: the admin group has one of the identifiers. -/
def joinAdminGroup (d : Db) (iamIdentifiers : List String) (rows : List KeyConfigRow) :
    List KeyConfigRow :=
  (Sql.innerJoin (fun row g => Sql.eq (some row.keyConfig.adminGroupID) (some g.id))
    (fun row g => { row with group := some g }) d.groups.rows rows).filter fun row =>
      (Sql.isIn (row.group.map (·.iamIdentifier)) (iamIdentifiers.map some)).Holds

/-- The selected columns of a group: the configuration, and distinct systems and keys. -/
def selectTotals (rows : List KeyConfigRow) (row : KeyConfigRow) : KeyConfigurationTotals :=
  let group := rows.filter (·.keyConfig.id = row.keyConfig.id)
  { keyConfig := row.keyConfig
    totalSystems := (group.filterMap fun row => row.system.map (·.id)).dedup.length
    totalKeys := (group.filterMap fun row => row.key.map (·.id)).dedup.length }

/-- The rows of the listing; without identifiers it is not filtered. -/
def keyConfigRows (d : Db) (iamIdentifiers : Option (List String)) : List KeyConfigurationTotals :=
  let rows := joinTotals d
  let rows := match iamIdentifiers with
    | none => rows
    | some iamIdentifiers => joinAdminGroup d iamIdentifiers rows
  (Sql.groupBy (·.keyConfig.id) rows).map (selectTotals rows)

/-- `Preload("AdminGroup")`; a missing group is left zero. -/
def preloadAdminGroup (d : Db) (row : KeyConfigurationTotals) : KeyConfigurationTotals :=
  { row with keyConfig := { row.keyConfig with
      adminGroup := (d.groups.get? row.keyConfig.adminGroupID).getD {} } }

variable (r : Repo) (ctx : Ctx)

def listKeyConfigurations (expand : Bool) (iamIdentifiers : Option (List String))
    (pagination : Pagination) : Q (List KeyConfigurationTotals) :=
  r.query ctx id fun n d =>
    let rows := keyConfigRows d iamIdentifiers
    let rows := if expand then rows.map (preloadAdminGroup d) else rows
    .ok (page rows (r.order n _) pagination.skip
      (if pagination.top = 0 then defaultLimit else pagination.top))

def countKeyConfigurations (iamIdentifiers : Option (List String)) : Q Nat :=
  r.count ctx fun d => (keyConfigRows d iamIdentifiers).length

end Repo

structure KeyConfigFilter where
  expand : Bool
  pagination : Pagination
  /-- `Pagination.Count`. -/
  count : Bool

namespace KeyConfigManager

variable (m : KeyConfigManager) (ctx : Ctx)

/-- Does the user have no groups, and which identifiers is the query filtered by? -/
def applyIAMGroupFilter : Q (Bool × Option (List String)) := do
  let iamIdentifiers ← (ctx.extractBusinessUserDataGroups : Except Exn (List String))
  let isGroupFiltered ← m.user.hasKeyConfigAccess ctx .read none
  if ¬ isGroupFiltered then return (false, none)
  if iamIdentifiers.isEmpty then return (true, none)
  return (false, some iamIdentifiers)

def getKeyConfigurations (filter : KeyConfigFilter) : Q (List KeyConfigurationTotals × Nat) := do
  let (hasNoGroups, iamIdentifiers) ← m.applyIAMGroupFilter ctx
  if hasNoGroups then return ([], 0)
  let res ← (m.repo.listKeyConfigurations ctx filter.expand iamIdentifiers
    filter.pagination).mapError (.wrap .errListingItems)
  if ¬ filter.count then return (res, 0)
  let count ← (m.repo.countKeyConfigurations ctx iamIdentifiers).mapError (.wrap .errCountingItem)
  return (res, count)

end KeyConfigManager

/-- The admin group of the configuration has one of the identifiers. -/
def Db.ManagedBy (d : Db) (c : KeyConfiguration) (iamIdentifiers : List String) : Prop :=
  ∃ g ∈ d.groups.rows, g.id = c.adminGroupID ∧ g.iamIdentifier ∈ iamIdentifiers

/-- A user sees what their groups manage; an auditor sees everything. -/
def Db.Sees (d : Db) (iamIdentifiers : List String) (c : KeyConfiguration) : Prop :=
  some .tenantAuditor ∈ d.rolesOf iamIdentifiers ∨ d.ManagedBy c iamIdentifiers

section Rows

variable {d : Db}

theorem mem_joinTotals {row : KeyConfigRow} : row ∈ joinTotals d ↔
    ∃ c ∈ d.keyConfigurations.rows, ∃ s k,
      Sql.Partner d.systems.rows (fun s => s.keyConfigurationID = some c.id) s ∧
      Sql.Partner d.keys.rows (fun k => k.keyConfigurationID = c.id) k ∧
      row = { keyConfig := c, system := s, key := k } := by
  have hsystem : ∀ (c : KeyConfiguration) (s : System),
      (eq (some c.id) s.keyConfigurationID).Holds ↔ s.keyConfigurationID = some c.id := by
    intro c s
    simp [eq_comm]
  have hkey : ∀ (c : KeyConfiguration) (k : Key),
      (eq (some c.id) (some k.keyConfigurationID)).Holds ↔ k.keyConfigurationID = c.id := by
    intro c k
    simp [eq_comm]
  simp only [joinTotals, mem_leftJoin, mem_map]
  constructor
  · rintro ⟨_, ⟨_, ⟨c, hc, rfl⟩, s, hs, rfl⟩, k, hk, rfl⟩
    exact ⟨c, hc, s, k, (partner_congr (hsystem c)).1 hs, (partner_congr (hkey c)).1 hk, rfl⟩
  · rintro ⟨c, hc, s, k, hs, hk, rfl⟩
    exact ⟨_, ⟨_, ⟨c, hc, rfl⟩, s, (partner_congr (hsystem c)).2 hs, rfl⟩, k,
      (partner_congr (hkey c)).2 hk, rfl⟩

theorem exists_mem_joinTotals {id : UUID} :
    (∃ row ∈ joinTotals d, row.keyConfig.id = id) ↔
      ∃ c ∈ d.keyConfigurations.rows, c.id = id := by
  constructor
  · rintro ⟨row, hrow, rfl⟩
    obtain ⟨c, hc, s, k, -, -, rfl⟩ := mem_joinTotals.1 hrow
    exact ⟨c, hc, rfl⟩
  · rintro ⟨c, hc, rfl⟩
    obtain ⟨s, hs⟩ := exists_partner d.systems.rows fun s => s.keyConfigurationID = some c.id
    obtain ⟨k, hk⟩ := exists_partner d.keys.rows fun k => k.keyConfigurationID = c.id
    exact ⟨_, mem_joinTotals.2 ⟨c, hc, s, k, hs, hk, rfl⟩, rfl⟩

theorem mem_joinAdminGroup {iamIdentifiers : List String} {rows : List KeyConfigRow} {id : UUID} :
    (∃ row ∈ joinAdminGroup d iamIdentifiers rows, row.keyConfig.id = id) ↔
      ∃ row ∈ rows, row.keyConfig.id = id ∧ d.ManagedBy row.keyConfig iamIdentifiers := by
  simp only [joinAdminGroup, mem_filter, mem_innerJoin, decide_eq_true_eq]
  constructor
  · rintro ⟨_, ⟨⟨row, hrow, g, hg, hon, rfl⟩, hin⟩, rfl⟩
    simp only [holds_eq, Option.some.injEq, ne_eq, reduceCtorEq, not_false_eq_true, and_true]
      at hon
    simp only [Option.map_some, holds_isIn, mem_map, Option.some.injEq, exists_eq_right]
      at hin
    exact ⟨row, hrow, rfl, g, hg, hon.symm, hin.1⟩
  · rintro ⟨row, hrow, rfl, g, hg, hon, hin⟩
    refine ⟨_, ⟨⟨row, hrow, g, hg, ?_, rfl⟩, ?_⟩, rfl⟩
    · simp [hon]
    · simpa using hin

theorem mem_keyConfigRows (iamIdentifiers : Option (List String))
    (hc : c ∈ d.keyConfigurations.rows) :
    c.id ∈ (keyConfigRows d iamIdentifiers).map (·.keyConfig.id) ↔
      ∀ ids ∈ iamIdentifiers, d.ManagedBy c ids := by
  have hgroup : ∀ rows : List KeyConfigRow,
      c.id ∈ ((groupBy (·.keyConfig.id) rows).map (selectTotals rows)).map
        (·.keyConfig.id) ↔ ∃ row ∈ rows, row.keyConfig.id = c.id := by
    intro rows
    simp only [map_map, mem_map, Function.comp_apply, selectTotals]
    constructor
    · rintro ⟨row, hrow, hid⟩
      exact ⟨row, mem_of_mem_groupBy hrow, hid⟩
    · rintro ⟨row, hrow, hid⟩
      obtain ⟨row', hrow', hid'⟩ := exists_mem_groupBy (·.keyConfig.id) hrow
      exact ⟨row', hrow', hid'.trans hid⟩
  cases iamIdentifiers with
  | none =>
    simp only [keyConfigRows, hgroup, exists_mem_joinTotals]
    simpa using ⟨c, hc, rfl⟩
  | some ids =>
    simp only [keyConfigRows, hgroup, mem_joinAdminGroup, Option.mem_some_iff, forall_eq']
    constructor
    · rintro ⟨row, hrow, hid, hmanaged⟩
      obtain ⟨c', hc', s, k, -, -, rfl⟩ := mem_joinTotals.1 hrow
      rwa [d.keyConfigurations.eq_of_key hc' hc hid] at hmanaged
    · intro hmanaged
      obtain ⟨row, hrow, hid⟩ := exists_mem_joinTotals.2 ⟨c, hc, rfl⟩
      obtain ⟨c', hc', s, k, -, -, rfl⟩ := mem_joinTotals.1 hrow
      refine ⟨_, hrow, hid, ?_⟩
      rwa [d.keyConfigurations.eq_of_key hc' hc hid]

theorem nodup_keyConfigRows (iamIdentifiers : Option (List String)) :
    ((keyConfigRows d iamIdentifiers).map (·.keyConfig.id)).Nodup := by
  unfold keyConfigRows
  rw [map_map]
  exact nodup_groupBy _ _

end Rows

structure Ctx.IsBusinessUser (ctx : Ctx) (user : ClientData) : Prop where
  tenant : ctx.tenant ≠ ""
  userType : ctx.userType = some .businessUser
  data : ctx.businessUserData = some user

section Role

variable {ctx : Ctx} {user : ClientData} {u : User} {d : Db} {n : Nat}

theorem Ctx.IsBusinessUser.groups (h : ctx.IsBusinessUser user) :
    ctx.extractBusinessUserDataGroups = .ok user.groups := by
  rw [Ctx.extractBusinessUserDataGroups, Ctx.extractBusinessUserData, h.data]
  rfl

theorem Ctx.IsBusinessUser.internal (h : ctx.IsBusinessUser user) (role : InternalRole) :
    ∃ authCtx, ctx.businessToInternalContext role = .ok authCtx := by
  rw [Ctx.businessToInternalContext, h.userType, Ctx.extractTenantID, if_neg h.tenant]
  exact ⟨_, rfl⟩

theorem Ctx.IsBusinessUser.ops (h : ctx.IsBusinessUser user) (bypassRoles : List InternalRole) :
    ensureBusinessUserOpsAllowed ctx bypassRoles = .ok false := by
  have hroles : checkInternalUserRoles ctx bypassRoles =
      .error ((Exn.of .errInvalidUserType).wrap .errExtractInternalUserData) := by
    rw [checkInternalUserRoles, Ctx.extractInternalRole, Ctx.extractUserType, h.userType]
    rfl
  rw [ensureBusinessUserOpsAllowed, hroles]
  rfl

/-- The role that the groups with these identifiers share, or none. -/
def Db.roleOf (d : Db) (iamIdentifiers : List String) : Option BusinessRole :=
  (d.rolesOf iamIdentifiers).head?.join

theorem Db.roleOf_auditor {iamIdentifiers : List String}
    (h : ¬ Mixed (d.rolesOf iamIdentifiers)) :
    d.roleOf iamIdentifiers = some .tenantAuditor ↔
      some .tenantAuditor ∈ d.rolesOf iamIdentifiers := by
  unfold Db.roleOf
  cases hroles : d.rolesOf iamIdentifiers with
  | nil => simp
  | cons role roles =>
    rw [hroles] at h
    constructor
    · intro hrole
      simp only [head?_cons, Option.join_some] at hrole
      simp [hrole]
    · intro hmem
      exact by_contra fun hne => h ⟨role, by simp, _, hmem, by simpa using hne⟩

theorem User.eval_role (h : ctx.IsBusinessUser user) (hrole : ¬ Mixed (d.rolesOf user.groups))
    (hf : u.repo.fault n = none) :
    (u.getRoleFromIAM ctx user.groups).eval d n = (.ok (d.roleOf user.groups), n + 1) := by
  obtain ⟨authCtx, hauth⟩ := h.internal .businessAuthz
  rw [eval_getRoleFromIAM hauth hf]
  have hone := oneRole_pageOf (σ := u.repo.order n _) fun hm => absurd hm hrole
  unfold Db.roleOf
  cases hroles : d.rolesOf user.groups with
  | nil => rw [hone.absent hroles]; rfl
  | cons role roles => rw [hone.common hrole role (by simp [hroles])]; rfl

theorem User.eval_needsGroupFiltering (h : ctx.IsBusinessUser user)
    (hrole : ¬ Mixed (d.rolesOf user.groups)) (hf : u.repo.fault n = none) :
    (u.needsGroupFiltering ctx .read .keyConfiguration).eval d n =
      (.ok (d.roleOf user.groups ≠ some .tenantAuditor), n + 1) := by
  rw [needsGroupFiltering, h.ops, h.groups, eval_bind_of_ok (a := false) rfl,
    if_neg (by simp), eval_bind_of_ok (a := user.groups) rfl,
    eval_bind_of_ok (eval_role h hrole hf)]
  by_cases hauditor : d.roleOf user.groups = some .tenantAuditor
  · simp [hauditor, roleBypassesGroupFilter]
  · simp [hauditor, roleBypassesGroupFilter]

end Role

section Decisions

variable {ctx : Ctx} {user : ClientData} {m : KeyConfigManager} {d : Db} {n : Nat}
  (h : ctx.IsBusinessUser user) (hrole : ¬ Mixed (d.rolesOf user.groups))
  (huser : ∀ n, m.user.repo.fault n = none)

include h hrole huser

theorem eval_applyIAMGroupFilter : (m.applyIAMGroupFilter ctx).eval d n =
    (.ok (if d.roleOf user.groups = some .tenantAuditor then (false, none)
      else if user.groups = [] then (true, none) else (false, some user.groups)), n + 1) := by
  have haccess : (m.user.hasKeyConfigAccess ctx .read none).eval d n =
      (.ok (d.roleOf user.groups ≠ some .tenantAuditor), n + 1) := by
    rw [hasKeyConfigAccess, h.ops, eval_bind_of_ok (a := false) rfl, if_neg (by simp),
      eval_bind_of_ok (eval_needsGroupFiltering h hrole (huser n))]
    rfl
  rw [applyIAMGroupFilter, h.groups, eval_bind_of_ok (a := user.groups) rfl,
    eval_bind_of_ok haccess]
  by_cases hauditor : d.roleOf user.groups = some .tenantAuditor
  · simp [hauditor]
  · rw [if_neg hauditor, if_neg (by simp [hauditor])]
    by_cases hgroups : user.groups = []
    · rw [if_pos hgroups, if_pos (List.isEmpty_iff.2 hgroups)]
      rfl
    · rw [if_neg hgroups, if_neg (mt List.isEmpty_iff.1 hgroups)]
      rfl

theorem hasKeyConfigAccessVia_iff (hc : c ∈ d.keyConfigurations.rows) :
    ((m.user.hasKeyConfigAccessVia ctx c.id {} .read .keyConfiguration).eval d n).1 = .ok true ↔
      d.Sees user.groups c := by
  obtain ⟨authCtx, hauth⟩ := h.internal .businessAuthz
  have hcount : (m.user.repo.countKeyConfigurationsManagedBy authCtx c.id user.groups).eval d (n + 1) =
      (.ok (d.keyConfigurations.rows.filter fun kc => kc.id = c.id ∧ d.groups.rows.any fun g =>
        g.id = kc.adminGroupID ∧ g.iamIdentifier ∈ user.groups).length, n + 2) :=
    eval_query (Ctx.tenant_of_internal hauth) (huser _)
  rw [hasKeyConfigAccessVia, h.groups, eval_bind_of_ok (a := user.groups) rfl,
    eval_bind_of_ok (eval_role h hrole (huser n)), Db.Sees, ← Db.roleOf_auditor hrole]
  by_cases hauditor : d.roleOf user.groups = some .tenantAuditor
  · simp [hauditor]
  · rw [if_neg (by simp [hauditor]), or_iff_right hauditor]
    by_cases hgroups : user.groups = []
    · rw [if_pos (List.isEmpty_iff.2 hgroups)]
      simp [Db.ManagedBy, hgroups]
    · rw [if_neg (mt List.isEmpty_iff.1 hgroups), if_neg (by simp), hauth,
        eval_bind_of_ok (a := authCtx) rfl, eval_bind, eval_mapError, hcount]
      simp only [Except.mapError, Query.eval_pure, Except.ok.injEq, decide_eq_true_eq,
        length_pos_iff_exists_mem, mem_filter, any_eq_true]
      constructor
      · rintro ⟨kc, hkc, hid, g, hg, hmanaged⟩
        rw [← d.keyConfigurations.eq_of_key hkc hc hid]
        exact ⟨g, hg, hmanaged⟩
      · rintro ⟨g, hg, hmanaged⟩
        exact ⟨c, hc, rfl, g, hg, hmanaged⟩

theorem getKeyConfigurationByID_iff (hrepo : ∀ n, m.repo.fault n = none)
    (hc : c ∈ d.keyConfigurations.rows) :
    (∃ kc, ((m.getKeyConfigurationByID ctx c.id).eval d n).1 = .ok kc) ↔ d.Sees user.groups c := by
  have hfirst : ∀ n, ((m.repo.firstKeyConfigurationWithAdminGroup ctx c.id).mapError
      (.wrap .errGettingKeyConfigByID)).eval d n =
        (.ok { c with adminGroup := (d.groups.get? c.adminGroupID).getD {} }, n + 1) := by
    intro n
    rw [eval_mapError, firstKeyConfigurationWithAdminGroup,
      eval_first_found h.tenant (hrepo n) (by rw [get?_key hc]; rfl)]
    rfl
  have haccess := hasKeyConfigAccessVia_iff h hrole huser (n := n + 1) hc
  rw [getKeyConfigurationByID, hasKeyConfigAccess, h.ops, checkAccess,
    ← haccess, eval_bind]
  rw [eval_bind_of_ok (a := false) rfl, if_neg (by simp),
    eval_bind_of_ok (eval_needsGroupFiltering h hrole (huser n)), eval_bind,
    eval_mapError]
  cases hvia : (m.user.hasKeyConfigAccessVia ctx c.id {} .read .keyConfiguration).eval d (n + 1) with
  | mk r n' =>
    rcases r with e | authorized
    · simp [Except.mapError]
    · cases authorized with
      | true => simp [Except.mapError, hfirst]
      | false => simp [Except.mapError]

def KeyConfigManager.listing (m : KeyConfigManager) (d : Db) (expand : Bool)
    (iamIdentifiers : Option (List String)) : List KeyConfigurationTotals :=
  let rows := Repo.keyConfigRows d iamIdentifiers
  let rows := if expand then rows.map (Repo.preloadAdminGroup d) else rows
  shuffle rows (m.repo.order 0 _)

omit h hrole huser

theorem listing_ids (m : KeyConfigManager) (d : Db) (expand : Bool)
    (iamIdentifiers : Option (List String)) :
    ((m.listing d expand iamIdentifiers).map (·.keyConfig.id)).Perm
      ((keyConfigRows d iamIdentifiers).map (·.keyConfig.id)) := by
  cases expand with
  | true =>
    refine ((shuffle_perm _ _).map _).trans ?_
    simp only [if_true, map_map]
    exact List.Perm.refl _
  | false => exact (shuffle_perm _ _).map _

theorem length_listing (m : KeyConfigManager) (d : Db) (expand : Bool)
    (iamIdentifiers : Option (List String)) :
    (m.listing d expand iamIdentifiers).length = (keyConfigRows d iamIdentifiers).length := by
  have hlen := (listing_ids m d expand iamIdentifiers).length_eq
  rwa [length_map, length_map] at hlen

def KeyConfigManager.seen (m : KeyConfigManager) (d : Db) (expand : Bool)
    (iamIdentifiers : List String) : List KeyConfigurationTotals :=
  if d.roleOf iamIdentifiers = some .tenantAuditor then m.listing d expand none
  else if iamIdentifiers = [] then []
  else m.listing d expand (some iamIdentifiers)

include h hrole huser

theorem eval_getKeyConfigurations (hrepo : ∀ n, m.repo.fault n = none)
    (horder : ∀ n, m.repo.order n = m.repo.order 0) (filter : KeyConfigFilter) :
    ((m.getKeyConfigurations ctx filter).eval d n).1 =
      .ok (((m.seen d filter.expand user.groups).drop filter.pagination.skip).take
          (if filter.pagination.top = 0 then defaultLimit else filter.pagination.top),
        if filter.count then (m.seen d filter.expand user.groups).length else 0) := by
  have hlist : ∀ ids, ((m.repo.listKeyConfigurations ctx filter.expand ids
      filter.pagination).mapError (.wrap .errListingItems)).eval d (n + 1) =
      (.ok (((m.listing d filter.expand ids).drop filter.pagination.skip).take
        (if filter.pagination.top = 0 then defaultLimit else filter.pagination.top)), n + 2) := by
    intro ids
    rw [eval_mapError, listKeyConfigurations, eval_query h.tenant (hrepo _)]
    simp only [horder]
    rfl
  have hcount : ∀ ids, ((m.repo.countKeyConfigurations ctx ids).mapError
      (.wrap .errCountingItem)).eval d (n + 2) =
      (.ok (m.listing d filter.expand ids).length, n + 3) := by
    intro ids
    rw [eval_mapError, Repo.countKeyConfigurations, Repo.count,
      Repo.eval_query h.tenant (hrepo _), length_listing]
    rfl
  rw [getKeyConfigurations,
    eval_bind_of_ok (eval_applyIAMGroupFilter h hrole huser)]
  unfold seen
  by_cases hauditor : d.roleOf user.groups = some .tenantAuditor
  · simp only [if_pos hauditor, Bool.false_eq_true, ↓reduceIte]
    rw [eval_bind_of_ok (hlist none)]
    cases filter.count with
    | false => rfl
    | true => exact congrArg Prod.fst (eval_bind_of_ok (hcount none))
  · by_cases hgroups : user.groups = []
    · simp only [if_neg hauditor, if_pos hgroups, ↓reduceIte]
      simp
    · simp only [if_neg hauditor, if_neg hgroups, Bool.false_eq_true, ↓reduceIte]
      rw [eval_bind_of_ok (hlist (some user.groups))]
      cases filter.count with
      | false => rfl
      | true => exact congrArg Prod.fst (eval_bind_of_ok (hcount (some user.groups)))

omit h huser in
theorem mem_seen (expand : Bool) (hc : c ∈ d.keyConfigurations.rows) :
    c.id ∈ (m.seen d expand user.groups).map (·.keyConfig.id) ↔ d.Sees user.groups c := by
  unfold seen Db.Sees
  rw [← Db.roleOf_auditor hrole]
  by_cases hauditor : d.roleOf user.groups = some .tenantAuditor
  · rw [if_pos hauditor, (listing_ids m d expand none).mem_iff, mem_keyConfigRows none hc]
    simp [hauditor]
  · rw [if_neg hauditor, or_iff_right hauditor]
    by_cases hgroups : user.groups = []
    · simp [hgroups, Db.ManagedBy]
    · rw [if_neg hgroups, (listing_ids m d expand _).mem_iff, mem_keyConfigRows _ hc]
      simp

omit h hrole huser

theorem nodup_seen (m : KeyConfigManager) (d : Db) (expand : Bool) (iamIdentifiers : List String) :
    ((m.seen d expand iamIdentifiers).map (·.keyConfig.id)).Nodup := by
  unfold seen
  split
  · exact (listing_ids m d expand none).nodup_iff.2 (nodup_keyConfigRows none)
  · split
    · exact nodup_nil
    · exact (listing_ids m d expand _).nodup_iff.2 (nodup_keyConfigRows _)

end Decisions

theorem exists_page_of_mem {α : Type} {l : List α} {p : α → Prop} {limit : Nat} (hlimit : 0 < limit) :
    (∃ skip, ∃ a ∈ (l.drop skip).take limit, p a) ↔ ∃ a ∈ l, p a := by
  constructor
  · rintro ⟨skip, a, ha, hp⟩
    exact ⟨a, mem_of_mem_drop (mem_of_mem_take ha), hp⟩
  · rintro ⟨a, ha, hp⟩
    obtain ⟨i, hi, rfl⟩ := mem_iff_getElem.1 ha
    refine ⟨i, l[i], ?_, hp⟩
    rw [drop_eq_getElem_cons hi]
    cases limit with
    | zero => cases hlimit
    | succ limit => exact mem_cons_self

/-- The pages that a user is shown are cut from one list, which has every configuration at most once.
A configuration is on some page, whatever their size, exactly if the user can get it by its ID. -/
theorem listed_iff_accessible (m : KeyConfigManager) (ctx : Ctx) (user : ClientData) (d : Db)
    (expand : Bool) (h : ctx.IsBusinessUser user) (hrole : ¬ Mixed (d.rolesOf user.groups))
    (huser : ∀ n, m.user.repo.fault n = none) (hrepo : ∀ n, m.repo.fault n = none)
    (horder : ∀ n, m.repo.order n = m.repo.order 0) :
    ∃ all : List KeyConfigurationTotals, (all.map (·.keyConfig.id)).Nodup ∧
      (∀ skip top count n,
        ((m.getKeyConfigurations ctx ⟨expand, ⟨skip, top⟩, count⟩).eval d n).1 =
          .ok ((all.drop skip).take (if top = 0 then defaultLimit else top),
            if count then all.length else 0)) ∧
      ∀ c ∈ d.keyConfigurations.rows, ∀ top count n n',
        (∃ skip res, ((m.getKeyConfigurations ctx ⟨expand, ⟨skip, top⟩, count⟩).eval d n).1 = .ok res ∧
            ∃ kc ∈ res.1, kc.keyConfig.id = c.id) ↔
          ∃ kc, ((m.getKeyConfigurationByID ctx c.id).eval d n').1 = .ok kc := by
  have hpages : ∀ skip top count n,
      ((m.getKeyConfigurations ctx ⟨expand, ⟨skip, top⟩, count⟩).eval d n).1 =
        .ok (((m.seen d expand user.groups).drop skip).take (if top = 0 then defaultLimit else top),
          if count then (m.seen d expand user.groups).length else 0) :=
    fun skip top count n => eval_getKeyConfigurations h hrole huser hrepo horder _
  refine ⟨m.seen d expand user.groups, nodup_seen m d expand _, hpages, ?_⟩
  intro c hc top count n n'
  have hlimit : 0 < if top = 0 then defaultLimit else top := by
    split
    · decide
    · omega
  rw [getKeyConfigurationByID_iff h hrole huser hrepo hc, ← mem_seen (m := m) hrole expand hc,
    List.mem_map, ← exists_page_of_mem hlimit]
  simp only [hpages, Except.ok.injEq, exists_eq_left']

/-- A key administrator is shown the configuration of their group. -/
theorem Sample.own_configuration_listed :
    (∃ skip res, ((Sample.keyConfigManager.getKeyConfigurations (Sample.as "a")
        ⟨false, ⟨skip, 1⟩, true⟩).eval Sample.db 0).1 = .ok res ∧
          ∃ kc ∈ res.1, kc.keyConfig.id = 30) ∧
      ∃ kc, ((Sample.keyConfigManager.getKeyConfigurationByID (Sample.as "a") 30).eval
        Sample.db 0).1 = .ok kc := by
  obtain ⟨all, -, -, hall⟩ := listed_iff_accessible Sample.keyConfigManager (Sample.as "a")
    ⟨"a", ["KMS_g"], []⟩ Sample.db false ⟨by decide, rfl, rfl⟩ (by decide) (fun _ => rfl)
    (fun _ => rfl) fun _ => rfl
  have hiff := hall { id := 30, name := "kc", adminGroupID := 10, primaryKeyID := some 20 }
    (by decide) 1 true 0 0
  have hget : ∃ kc, ((Sample.keyConfigManager.getKeyConfigurationByID (Sample.as "a") 30).eval
      Sample.db 0).1 = .ok kc := ⟨_, rfl⟩
  exact ⟨hiff.2 hget, hget⟩

end Cmk
