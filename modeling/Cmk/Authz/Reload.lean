import Cmk.Authz.Loader

/-!
# Cmk.Authz.Reload

The periodic refresh of the allow lists. `ReloadTenantAllowedActions` forgets everything and loads
every tenant again, but each load reads the groups of the tenant of the caller's context.

- `Reloaded`: every list is the tenant's own, freshly computed or (after an error) the one before.
- `reload_own_groups_iff`: for which contexts, loaded tenants and failures that is so.
-/

namespace Cmk

open Tx List

variable {Resource Action : Type}

namespace AuthzLoader

variable {am : AuthzLoader Resource Action} {stores : String → Db} {n : Nat} {ctx : Ctx}
  {t : String} {s s' : LoaderState Resource Action}

/-- The allow list of the tenant is computed from the tenant's own groups. -/
def Fresh (am : AuthzLoader Resource Action) (stores : String → Db)
    (s : LoaderState Resource Action) (t : String) : Prop :=
  ∃ σ, ∀ key, key.user.tenantID = t →
    (key ∈ s.authzKeys ↔ am.Granted (page (stores t).groups.rows σ 0 defaultLimit) key)

/-- The allow list of the tenant is the same in both states. -/
def SameList (s s' : LoaderState Resource Action) (t : String) : Prop :=
  ∀ key, key.user.tenantID = t → (key ∈ s'.authzKeys ↔ key ∈ s.authzKeys)

/-- What a refresh has to be: from the state before, its result and the state after. -/
structure Reloaded (am : AuthzLoader Resource Action) (stores : String → Db)
    (s : LoaderState Resource Action) (r : Except Exn Unit × LoaderState Resource Action) :
    Prop where
  done : r.1 = .ok () → ∀ t ∈ s.tenantIDs, am.Fresh stores r.2 t
  failed : r.1 ≠ .ok () → ∀ t ∈ s.tenantIDs, SameList s r.2 t ∨ am.Fresh stores r.2 t
  own : ∀ key ∈ r.2.authzKeys,
    key ∈ s.authzKeys ∨ am.Granted (stores key.user.tenantID).groups.rows key

def oneGroup (role : Option BusinessRole) : Db :=
  { Sample.db with groups := ⟨[{ id := 1, name := "g", role := role, iamIdentifier := "g" }],
      List.pairwise_singleton _ _⟩ }

def noGroup : Db := { Sample.db with groups := .empty }

def groupOnlyIn (tenant : String) (role : Option BusinessRole) : String → Db := fun t =>
  if t = tenant then oneGroup role else noGroup

section Wrong

variable {role : Option BusinessRole} {resource : Resource} {action : Action}
  {T : List String} {hT : T.Nodup}

theorem rolesKnown_oneGroup (hgrants : am.authzHandler.Grants role resource action) :
    am.RolesKnown (oneGroup role).groups.rows := by
  obtain ⟨policies, hp, -⟩ := hgrants
  simp [RolesKnown, oneGroup, hp]

theorem granted_oneGroup (hgrants : am.authzHandler.Grants role resource action)
    {σ : Equiv.Perm (Fin (oneGroup role).groups.rows.length)} {tenant : String} :
    am.Granted (page (oneGroup role).groups.rows σ 0 defaultLimit)
      ⟨⟨tenant, "g"⟩, resource, action⟩ := by
  rw [granted_congr (page_perm (by simp [oneGroup, defaultLimit]))]
  exact ⟨_, mem_singleton_self _, rfl, hgrants⟩

theorem rolesKnown_groupOnlyIn (hgrants : am.authzHandler.Grants role resource action)
    (tenant t : String) : am.RolesKnown (groupOnlyIn tenant role t).groups.rows := by
  unfold groupOnlyIn
  split
  · exact rolesKnown_oneGroup hgrants
  · simp [RolesKnown, noGroup, Table.empty]

theorem not_reloaded_of_lost (hgrants : am.authzHandler.Grants role resource action)
    {r : Except Exn Unit × LoaderState Resource Action} (ht : t ∈ T) (hr : r.1 ≠ .ok ()) (hlost : ∀ key ∈ r.2.authzKeys, key.user.tenantID ≠ t) :
    ¬ am.Reloaded (fun _ => oneGroup role)
      ⟨T, hT, {⟨⟨t, "h"⟩, resource, action⟩}⟩ r := by
  intro h
  rcases h.failed hr t ht with hsame | ⟨σ, hfresh⟩
  · exact hlost _ ((hsame ⟨⟨t, "h"⟩, resource, action⟩ rfl).2 (Finset.mem_singleton_self _)) rfl
  · exact hlost _ ((hfresh ⟨⟨t, "g"⟩, resource, action⟩ rfl).2 (granted_oneGroup hgrants)) rfl

theorem not_reloaded_of_foreign {r : Except Exn Unit × LoaderState Resource Action}
    (ht : t ≠ ctx.tenant) (hkey : ⟨⟨t, "g"⟩, resource, action⟩ ∈ r.2.authzKeys) :
    ¬ am.Reloaded (groupOnlyIn ctx.tenant role) ⟨T, hT, ∅⟩ r := by
  intro h
  rcases h.own _ hkey with hbefore | ⟨g, hg, -⟩
  · simp at hbefore
  · simp [groupOnlyIn, ht, noGroup, Table.empty] at hg

end Wrong

variable [DecidableEq Resource] [DecidableEq Action]

theorem load_subset (hroles : am.RolesKnown (stores ctx.tenant).groups.rows) :
    s.authzKeys ⊆ (am.loadAllowedActions stores n ctx t s).2.authzKeys := by
  by_cases hs : t ∈ s.tenantIDs
  · obtain ⟨r, hr⟩ := load_again am stores n ctx hs
    simp [hr]
  · by_cases ha : am.Answered n ctx t
    · obtain ⟨keys, hload, hkeys⟩ := load_answered hroles hs ha
      intro key hkey
      rw [hload]
      exact (hkeys key).2 (.inl hkey)
    · obtain ⟨e, he⟩ := load_refused stores hs ha
      simp [he]

theorem reload_subset (ts : List String) (hroles : am.RolesKnown (stores ctx.tenant).groups.rows) :
    s.authzKeys ⊆ (am.reloadAllowedActions stores ctx ts n s).2.authzKeys := by
  induction ts generalizing n s with
  | nil => exact Finset.Subset.refl _
  | cons t ts ih =>
    have hload := load_subset (n := n) (t := t) (s := s) hroles
    unfold reloadAllowedActions
    split
    · rename_i he
      simpa [he] using hload
    · rename_i he
      rw [he] at hload
      exact hload.trans ih

theorem reload_refused (stores : String → Db) (ts : List String) (hs : t ∉ s.tenantIDs) (h : ¬ am.Answered n ctx t) :
    ∃ e, am.reloadAllowedActions stores ctx (t :: ts) n s = (.error e, s) := by
  obtain ⟨e, he⟩ := load_refused stores hs h
  exact ⟨_, by rw [reloadAllowedActions, he]⟩

theorem reload_answered (stores : String → Db) (ts : List String)
    (hroles : am.RolesKnown (stores ctx.tenant).groups.rows) (hs : t ∉ s.tenantIDs) (h : am.Answered n ctx t) :
    ∃ keys, am.reloadAllowedActions stores ctx (t :: ts) n s =
        am.reloadAllowedActions stores ctx ts (n + 2) (s.addTenant t hs keys) ∧
      ∀ key, key ∈ keys ↔ key ∈ s.authzKeys ∨ key.user.tenantID = t ∧
        am.Granted (page (stores ctx.tenant).groups.rows (am.repo.order (n + 1) _) 0 defaultLimit)
          key := by
  obtain ⟨keys, hload, hkeys⟩ := load_answered hroles hs h
  exact ⟨keys, by rw [reloadAllowedActions, hload], hkeys⟩

theorem reloaded_single (hroles : ∀ t, am.RolesKnown (stores t).groups.rows)
    (h : am.Answered n ctx ctx.tenant) (hs : s.tenantIDs = [ctx.tenant]) :
    am.Reloaded stores s (am.reloadAllowedActions stores ctx [ctx.tenant] n .empty) := by
  obtain ⟨keys, hreload, hkeys⟩ := reload_answered (s := .empty) stores []
    (hroles _) not_mem_nil h
  rw [hreload, reloadAllowedActions]
  have hkeys' : ∀ key, key ∈ keys ↔ key.user.tenantID = ctx.tenant ∧
      am.Granted (page (stores ctx.tenant).groups.rows (am.repo.order (n + 1) _) 0 defaultLimit)
        key := fun key => by simpa [LoaderState.empty] using hkeys key
  refine ⟨fun _ t ht => ?_, fun hne => absurd rfl hne, fun key hkey => .inr ?_⟩
  · rw [hs, mem_singleton] at ht
    subst ht
    exact ⟨am.repo.order (n + 1) _, fun key hk => (hkeys' key).trans (and_iff_right hk)⟩
  · obtain ⟨ht, g, hg, hgrants⟩ := (hkeys' key).1 hkey
    rw [ht]
    exact ⟨g, page_subset hg, hgrants⟩

section Wrong

variable {role : Option BusinessRole} {resource : Resource} {action : Action}
  {T ts : List String} {hT : T.Nodup}

theorem reload_lost (hgrants : am.authzHandler.Grants role resource action) (ht : t ∈ T)
    (hs : t ∉ s.tenantIDs) (hkeys : ∀ key ∈ s.authzKeys, key.user.tenantID ≠ t)
    (h : ¬ am.Answered n ctx t) :
    ¬ am.Reloaded (fun _ => oneGroup role) ⟨T, hT, {⟨⟨t, "h"⟩, resource, action⟩}⟩
      (am.reloadAllowedActions (fun _ => oneGroup role) ctx (t :: ts) n s) := by
  obtain ⟨e, he⟩ := reload_refused (fun _ => oneGroup role) ts hs h
  rw [he]
  exact not_reloaded_of_lost hgrants ht (by simp) hkeys

theorem reload_foreign (hgrants : am.authzHandler.Grants role resource action)
    (hs : t ∉ s.tenantIDs) (hne : t ≠ ctx.tenant) (h : am.Answered n ctx t) :
    ¬ am.Reloaded (groupOnlyIn ctx.tenant role) ⟨T, hT, ∅⟩
      (am.reloadAllowedActions (groupOnlyIn ctx.tenant role) ctx
        (t :: ts) n s) := by
  obtain ⟨keys, hreload, hkeys⟩ := reload_answered (groupOnlyIn ctx.tenant role) ts
    (rolesKnown_groupOnlyIn hgrants ctx.tenant ctx.tenant) hs h
  have hown : groupOnlyIn ctx.tenant role ctx.tenant = oneGroup role := if_pos rfl
  have hkey : (⟨⟨t, "g"⟩, resource, action⟩ : AuthorizationKey Resource Action) ∈ keys :=
    (hkeys _).2 (.inr ⟨rfl, by rw [hown]; exact granted_oneGroup hgrants⟩)
  rw [hreload]
  exact not_reloaded_of_foreign hne
    (reload_subset ts (rolesKnown_groupOnlyIn hgrants ctx.tenant ctx.tenant) hkey)

end Wrong

/-- For a given context, given loaded tenants and given failures, a refresh is right whatever the
groups of the tenants are (with roles of the policy table) exactly if only the tenant of the context
was loaded and its load is answered. -/
theorem reload_own_groups_iff {role : Option BusinessRole} {resource : Resource} {action : Action}
    (hgrants : am.authzHandler.Grants role resource action) {T : List String} (hT : T.Nodup) :
    (∀ stores keys, (∀ t, am.RolesKnown (stores t).groups.rows) →
      am.Reloaded stores ⟨T, hT, keys⟩ (am.reloadTenantAllowedActions stores n ctx ⟨T, hT, keys⟩)) ↔
    T = [] ∨ (T = [ctx.tenant] ∧ am.Answered n ctx ctx.tenant) := by
  have hperm := shuffle_perm T (am.range n _)
  constructor
  · intro h
    simp only [reloadTenantAllowedActions] at h
    generalize shuffle T (am.range n _) = ts at h hperm
    have hlost := fun keys => h (fun _ => oneGroup role) keys fun _ => rolesKnown_oneGroup hgrants
    have hforeign := h (groupOnlyIn ctx.tenant role) ∅
      (rolesKnown_groupOnlyIn hgrants ctx.tenant)
    rcases ts with _ | ⟨t, ts⟩
    · exact .inl hperm.symm.eq_nil
    · have ha : am.Answered n ctx t := by_contra fun ha =>
        reload_lost hgrants (hperm.mem_iff.1 (by simp)) List.not_mem_nil
          (by simp [LoaderState.empty]) ha (hlost _)
      have ht : t = ctx.tenant := by_contra fun ht =>
        reload_foreign hgrants List.not_mem_nil ht ha hforeign
      subst ht
      rcases ts with _ | ⟨t, ts⟩
      · exact .inr ⟨List.perm_singleton.1 hperm.symm, ha⟩
      · -- a second tenant is read in the context of the first, or not at all
        have hne : t ≠ ctx.tenant := by
          have hnd := hperm.nodup_iff.2 hT
          simp only [List.nodup_cons, List.mem_cons, not_or] at hnd
          exact Ne.symm hnd.1.1
        by_cases ha' : am.Answered (n + 2) ctx t
        · obtain ⟨keys, hreload, -⟩ := reload_answered (s := .empty)
            (groupOnlyIn ctx.tenant role) (t :: ts)
            (rolesKnown_groupOnlyIn hgrants ctx.tenant ctx.tenant) List.not_mem_nil ha
          rw [hreload] at hforeign
          exact absurd hforeign (reload_foreign hgrants (by simp [LoaderState.addTenant, hne,
            LoaderState.empty]) hne ha')
        · obtain ⟨keys, hreload, hkeys⟩ := reload_answered (s := .empty) (fun _ => oneGroup role)
            (t :: ts) (rolesKnown_oneGroup hgrants) List.not_mem_nil ha
          simp only [hreload] at hlost
          refine absurd (hlost _) (reload_lost hgrants (hperm.mem_iff.1 (by simp))
            (by simp [LoaderState.addTenant, hne, LoaderState.empty]) (fun key hkey he => ?_) ha')
          simp [LoaderState.addTenant, hkeys, LoaderState.empty] at hkey
          exact hne (he ▸ hkey.1)
  · rintro (rfl | ⟨rfl, ha⟩) stores keys hroles
    · exact ⟨fun _ t ht => absurd ht List.not_mem_nil, fun _ t ht => absurd ht List.not_mem_nil,
        fun key hkey => absurd hkey (Finset.notMem_empty key)⟩
    · rw [reloadTenantAllowedActions, List.perm_singleton.1 hperm]
      exact reloaded_single hroles ha rfl

end AuthzLoader

namespace Sample

theorem grants_keyAdmin : authzLoader.authzHandler.Grants (some .keyAdmin) "Key" "read" :=
  ⟨_, rfl, _, mem_singleton_self _, _, mem_singleton_self _, rfl, by decide⟩

theorem answered_own_tenant : authzLoader.Answered 0 (as "a") "t" :=
  ⟨by decide, rfl, by unfold Repo.Refuses; decide⟩

theorem reload_own_groups_of_one_tenant :
    authzLoader.Answered 0 (as "a") "t" ∧
      ∀ stores keys, (∀ t, authzLoader.RolesKnown (stores t).groups.rows) →
        authzLoader.Reloaded stores ⟨["t"], List.nodup_singleton _, keys⟩
          (authzLoader.reloadTenantAllowedActions stores 0 (as "a")
            ⟨["t"], List.nodup_singleton _, keys⟩) :=
  ⟨answered_own_tenant,
    (AuthzLoader.reload_own_groups_iff grants_keyAdmin (List.nodup_singleton _)).2
      (.inr ⟨rfl, answered_own_tenant⟩)⟩

def twoTenants : String → Db := fun t => if t = "t" then db else AuthzLoader.noGroup

def ofTenant (t : String) : Ctx := { as "a" with tenant := t }

def bothLoaded : AuthzSys String String :=
  authzLoader.run ⟨twoTenants, .empty, 0⟩ [.load (ofTenant "t"), .load (ofTenant "u")]

/-- A refresh in the context of the first tenant lets its groups into the second. -/
theorem reload_foreign_groups :
    let r := authzLoader.reloadTenantAllowedActions twoTenants 4 (ofTenant "t") bothLoaded.loader
    (⟨⟨"u", "KMS_g"⟩, "Key", "read"⟩ : AuthorizationKey String String) ∉
        bothLoaded.loader.authzKeys ∧
      r.1 = .ok () ∧
      (⟨⟨"u", "KMS_g"⟩, "Key", "read"⟩ : AuthorizationKey String String) ∈ r.2.authzKeys ∧
      (twoTenants "u").groups.rows = [] := by
  decide

end Sample

end Cmk
