import Cmk.Sample

/-!
# Cmk.Authz.Roles

Segregation of roles: `GetRoleFromIAM` asks for the groups with one of the user's IAM identifiers
and refuses a user whose groups have different roles. The listing has no limit of its own, so the
database answers with `defaultLimit` rows of its choice.

- `rolesOf`: the role of every group the user is in.
- `OneRole`: what the decision has to be, given all of them.
- `role_segregation_iff`: when every page the database may choose gives that decision.
-/

namespace Cmk

open Tx

variable {part roles : List (Option BusinessRole)}

/-- The end of `GetRoleFromIAM`: the keys of its `roleMap`. -/
def commonRole (roles : List (Option BusinessRole)) : Except Exn (Option BusinessRole) :=
  match roles.dedup with
  | [] => .ok none
  | [role] => .ok role
  | _ => .error (.of .errMultipleRolesInGroups)

def Mixed (roles : List (Option BusinessRole)) : Prop := ∃ a ∈ roles, ∃ b ∈ roles, a ≠ b

instance (roles : List (Option BusinessRole)) : Decidable (Mixed roles) :=
  inferInstanceAs (Decidable (∃ a ∈ roles, ∃ b ∈ roles, a ≠ b))

/-- The answer for a user whose groups have these roles: refused if two of them differ, otherwise
the role they share, or none. -/
structure OneRole (roles : List (Option BusinessRole)) (r : Except Exn (Option BusinessRole)) :
    Prop where
  mixed : r = .error (.of .errMultipleRolesInGroups) ↔ Mixed roles
  common : ¬ Mixed roles → ∀ role ∈ roles, r = .ok role
  absent : roles = [] → r = .ok none

theorem commonRole_mixed (h : Mixed roles) :
    commonRole roles = .error (.of .errMultipleRolesInGroups) := by
  obtain ⟨a, ha, b, hb, hab⟩ := h
  rw [← List.mem_dedup] at ha hb
  unfold commonRole
  split
  · rename_i hd; simp [hd] at ha
  · rename_i hd
    simp only [hd, List.mem_singleton] at ha hb
    exact absurd (ha.trans hb.symm) hab
  · rfl

theorem commonRole_of_mem {role : Option BusinessRole} (hm : role ∈ roles) (h : ¬ Mixed roles) :
    commonRole roles = .ok role := by
  have hall : ∀ b ∈ roles.dedup, b = role := fun b hb =>
    by_contra fun hne => h ⟨b, List.mem_dedup.1 hb, role, hm, hne⟩
  have hd : roles.dedup = [role] := by
    have hmem := List.mem_dedup.2 hm
    have hnd := List.nodup_dedup roles
    match hr : roles.dedup with
    | [] => simp [hr] at hmem
    | [b] => rw [hall b (by simp [hr])]
    | b :: c :: l =>
      rw [hr] at hnd hall
      simp [hall b (by simp), hall c (by simp)] at hnd
  simp [commonRole, hd]

theorem oneRole_commonRole (roles : List (Option BusinessRole)) : OneRole roles (commonRole roles) where
  mixed := by
    refine ⟨fun h => by_contra fun hm => ?_, commonRole_mixed⟩
    cases roles with
    | nil => simp [commonRole] at h
    | cons role roles => simp [commonRole_of_mem (List.mem_cons_self ..) hm] at h
  common hm _ hrole := commonRole_of_mem hrole hm
  absent h := by simp [h, commonRole]

/-- A decision taken from some of the roles is the right one if they are as mixed as all of them. -/
theorem OneRole.of_part {r : Except Exn (Option BusinessRole)} (h : OneRole part r)
    (hsub : part ⊆ roles) (hmixed : Mixed roles → Mixed part) (hne : part = [] → roles = []) :
    OneRole roles r := by
  have hback : Mixed part → Mixed roles := by
    rintro ⟨a, ha, b, hb, hab⟩
    exact ⟨a, hsub ha, b, hsub hb, hab⟩
  refine ⟨h.mixed.trans ⟨hback, hmixed⟩, fun hm role hrole => ?_, fun hr => ?_⟩
  · cases part with
    | nil => simp [hne rfl] at hrole
    | cons role' part =>
      have hrole' : role' ∈ roles := hsub (List.mem_cons_self ..)
      have heq : role' = role := by_contra fun hab => hm ⟨role', hrole', role, hrole, hab⟩
      rw [h.common (mt hback hm) role' (List.mem_cons_self ..), heq]
  · exact h.absent (List.subset_nil.1 (hr ▸ hsub))

def Db.groupsOf (d : Db) (iamIdentifiers : List String) : List Group :=
  d.groups.rows.filter (·.iamIdentifier ∈ iamIdentifiers)

def Db.rolesOf (d : Db) (iamIdentifiers : List String) : List (Option BusinessRole) :=
  (d.groupsOf iamIdentifiers).map (·.role)

def Repo.ordered (r : Repo) (order : Nat → (n : Nat) → Equiv.Perm (Fin n)) : Repo :=
  { r with order := order }

theorem Ctx.tenant_of_internal {ctx authCtx : Ctx} {role : InternalRole}
    (h : ctx.businessToInternalContext role = .ok authCtx) : authCtx.tenant ≠ "" := by
  unfold businessToInternalContext extractTenantID at h
  split at h
  · cases h
  · split at h
    · cases h
    · rename_i ht
      cases h
      exact ht

namespace User

variable {u : User} {ctx authCtx : Ctx} {d : Db} {n : Nat} {iamIdentifiers : List String}

def pageOf (d : Db) (iamIdentifiers : List String)
    (σ : Equiv.Perm (Fin (d.groupsOf iamIdentifiers).length)) : List (Option BusinessRole) :=
  (page (d.groupsOf iamIdentifiers) σ 0 defaultLimit).map (·.role)

theorem eval_getRoleFromIAM (hctx : ctx.businessToInternalContext .businessAuthz = .ok authCtx)
    (hf : u.repo.fault n = none) :
    (u.getRoleFromIAM ctx iamIdentifiers).eval d n =
      (commonRole (pageOf d iamIdentifiers (u.repo.order n _)), n + 1) := by
  have hlist : (u.repo.listGroups authCtx iamIdentifiers 0).eval d n =
      (.ok (page (d.groupsOf iamIdentifiers) (u.repo.order n _) 0 defaultLimit), n + 1) :=
    Repo.eval_list (Ctx.tenant_of_internal hctx) hf
  simp only [getRoleFromIAM, hctx]
  rw [eval_bind_of_ok (a := authCtx) rfl, eval_bind, eval_mapError, hlist]
  simp only [Except.mapError, commonRole, pageOf]
  generalize (List.map (fun g : Group => g.role) _).dedup = roles
  rcases roles with _ | ⟨role, _ | _⟩ <;> rfl

variable {σ : Equiv.Perm (Fin (d.groupsOf iamIdentifiers).length)}

theorem pageOf_subset : pageOf d iamIdentifiers σ ⊆ d.rolesOf iamIdentifiers :=
  List.map_subset _ page_subset

theorem pageOf_eq_nil (h : pageOf d iamIdentifiers σ = []) : d.rolesOf iamIdentifiers = [] := by
  have hlen := congrArg List.length h
  rw [pageOf, List.length_map, length_page, List.length_nil, Nat.min_eq_zero_iff] at hlen
  rcases hlen with hlen | hlen
  · simp [defaultLimit] at hlen
  · rw [Db.rolesOf, List.length_eq_zero_iff.1 hlen, List.map_nil]

theorem oneRole_pageOf (h : Mixed (d.rolesOf iamIdentifiers) → Mixed (pageOf d iamIdentifiers σ)) :
    OneRole (d.rolesOf iamIdentifiers) (commonRole (pageOf d iamIdentifiers σ)) :=
  (oneRole_commonRole _).of_part pageOf_subset h pageOf_eq_nil

theorem mixed_pageOf (hm : Mixed (d.rolesOf iamIdentifiers))
    (h : ∀ role, (d.rolesOf iamIdentifiers).count role < defaultLimit) :
    Mixed (pageOf d iamIdentifiers σ) := by
  by_cases hlen : (d.groupsOf iamIdentifiers).length ≤ defaultLimit
  · obtain ⟨a, ha, b, hb, hab⟩ := hm
    have hperm : (pageOf d iamIdentifiers σ).Perm (d.rolesOf iamIdentifiers) :=
      (page_perm hlen).map _
    exact ⟨a, hperm.mem_iff.2 ha, b, hperm.mem_iff.2 hb, hab⟩
  · by_contra hno
    obtain ⟨role, hrole⟩ : ∃ role, role ∈ pageOf d iamIdentifiers σ := by
      refine List.exists_mem_of_ne_nil _ fun hnil => ?_
      obtain ⟨a, ha, -⟩ := hm
      simp [pageOf_eq_nil hnil] at ha
    have hall : ∀ g ∈ page (d.groupsOf iamIdentifiers) σ 0 defaultLimit, decide (g.role = role) := by
      intro g hg
      have hg' : g.role ∈ pageOf d iamIdentifiers σ := List.mem_map_of_mem hg
      exact decide_eq_true (by_contra fun hne => hno ⟨g.role, hg', role, hrole, hne⟩)
    have hle := limit_le_countP (not_le.1 hlen).le hall
    have hlt := h role
    rw [Db.rolesOf, List.count_eq_countP, List.countP_map] at hlt
    exact absurd hlt (not_lt.2 (by simpa [Function.comp_def, beq_eq_decide] using hle))

theorem exists_pageOf {role : Option BusinessRole}
    (h : defaultLimit ≤ (d.rolesOf iamIdentifiers).count role) :
    ∃ σ, ¬ Mixed (pageOf d iamIdentifiers σ) := by
  rw [Db.rolesOf, List.count_eq_countP, List.countP_map] at h
  obtain ⟨σ, hσ⟩ := exists_page _ h
  have hall : ∀ a ∈ pageOf d iamIdentifiers σ, a = role := by
    intro a ha
    obtain ⟨g, hg, rfl⟩ := List.mem_map.1 ha
    simpa using hσ g hg
  refine ⟨σ, ?_⟩
  rintro ⟨a, ha, b, hb, hab⟩
  exact hab ((hall a ha).trans (hall b hb).symm)

/-- Every choice of the database leads to the right decision exactly if the user's groups have one
role, or no role has so many of them that they fill a page. -/
theorem role_segregation_iff (hctx : ctx.businessToInternalContext .businessAuthz = .ok authCtx)
    (hf : u.repo.fault n = none) :
    (∀ order, OneRole (d.rolesOf iamIdentifiers)
      (((User.mk (u.repo.ordered order)).getRoleFromIAM ctx iamIdentifiers).eval d n).1) ↔
    ¬ Mixed (d.rolesOf iamIdentifiers) ∨
      ∀ role, (d.rolesOf iamIdentifiers).count role < defaultLimit := by
  have heval : ∀ order,
      (((User.mk (u.repo.ordered order)).getRoleFromIAM ctx iamIdentifiers).eval d n).1 =
        commonRole (pageOf d iamIdentifiers (order n _)) :=
    fun order => by rw [eval_getRoleFromIAM (u := ⟨u.repo.ordered order⟩) hctx hf]; rfl
  simp only [heval]
  constructor
  · intro h
    by_contra hcon
    simp only [not_or, not_not, not_forall, not_lt] at hcon
    obtain ⟨hmixed, role, hcount⟩ := hcon
    obtain ⟨σ, hσ⟩ := exists_pageOf hcount
    obtain ⟨order, rfl⟩ : ∃ order : Nat → (k : Nat) → Equiv.Perm (Fin k), order n _ = σ :=
      ⟨fun _ k => if hk : k = (d.groupsOf iamIdentifiers).length then hk ▸ σ else Equiv.refl _,
        dif_pos rfl⟩
    exact hσ ((oneRole_commonRole _).mixed.1 ((h order).mixed.2 hmixed))
  · rintro (h | h) order
    · exact oneRole_pageOf fun hm => absurd hm h
    · exact oneRole_pageOf fun hm => mixed_pageOf hm h

theorem role_segregation_of_one_group :
    ¬ Mixed (Sample.db.rolesOf ["KMS_g"]) ∧
      ∀ order, OneRole (Sample.db.rolesOf ["KMS_g"])
        (((User.mk (Sample.repo.ordered order)).getRoleFromIAM (Sample.as "a") ["KMS_g"]).eval
          Sample.db 0).1 :=
  ⟨by decide, (role_segregation_iff (u := ⟨Sample.repo⟩) rfl rfl).2 (Or.inl (by decide))⟩

end User

namespace Sample

/-- A hundred groups of key administrators and one of auditors. -/
def crowdedGroups : List Group :=
  (List.range 101).map fun i =>
    { id := BitVec.ofNat 128 i
      name := toString i
      role := if i < 100 then some .keyAdmin else some .tenantAuditor
      iamIdentifier := toString i }

def crowded : Db := { db with groups := ⟨crowdedGroups, by decide +kernel⟩ }

def everyGroup : List String := (List.range 101).map toString

theorem crowded_groupsOf : crowded.groupsOf everyGroup = crowdedGroups := by
  refine List.filter_eq_self.2 fun g hg => decide_eq_true ?_
  obtain ⟨i, hi, rfl⟩ := List.mem_map.1 hg
  exact List.mem_map_of_mem hi

/-- The auditor's group is on the second page, so the user counts as a key administrator. -/
theorem mixed_roles_accepted :
    Mixed (crowded.rolesOf everyGroup) ∧
      (((User.mk repo).getRoleFromIAM (as "a") everyGroup).eval crowded 0).1 =
        .ok (some .keyAdmin) := by
  rw [Db.rolesOf, User.eval_getRoleFromIAM rfl rfl, User.pageOf]
  simp only [repo]
  rw [crowded_groupsOf]
  constructor
  · exact ⟨some .keyAdmin, by decide +kernel, some .tenantAuditor, by decide +kernel, by decide⟩
  · decide +kernel

end Sample

end Cmk
