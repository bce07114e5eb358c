import Cmk.Sample
import Cmk.Operator.Answers

/-!
# Cmk.Operator.Repeat

Creating a tenant again and again.

* `ClusterWellFormed` — the invariant of the cluster: a tenant has the schema its ID encodes, and a schema has
  both default groups or neither. Every invocation keeps it, whatever fails.
* `handleCreateTenant_creates` — without failures an invocation leaves the tenant provisioned, and one
  that finds it provisioned completes the task.
-/

namespace Cmk

open Tx Function List Repo Prog Connections Table

variable {db db' : Db} {a b name schema schemaName tenantID : String} {resp : HandlerResponse}

def BothGroups (db : Db) : Prop :=
  (∃ g ∈ db.groups.rows, g.name = tenantAdminGroup) ∧ ∃ g ∈ db.groups.rows, g.name = tenantAuditorGroup

theorem bothGroups_iff : BothGroups db ↔
    (db.groups.rows.any (·.name = tenantAdminGroup) &&
      db.groups.rows.any (·.name = tenantAuditorGroup)) = true := by
  simp only [BothGroups, Bool.and_eq_true, any_eq_true, decide_eq_true_eq]

/-- No group has the name or the IAM identifier of a default group. -/
def NoDefaultGroup (tenantID : String) (db : Db) : Prop :=
  ∀ g ∈ db.groups.rows, ∀ name ∈ [tenantAdminGroup, tenantAuditorGroup],
    g.name ≠ name ∧ g.iamIdentifier ≠ newIAMIdentifier name tenantID

def Grouped (tenantID : String) (db : Db) : Prop := BothGroups db ∨ NoDefaultGroup tenantID db

theorem tenantAdminGroup_ne : tenantAdminGroup ≠ tenantAuditorGroup := by decide

theorem newIAMIdentifier_ne (tenantID : String) :
    newIAMIdentifier tenantAdminGroup tenantID ≠ newIAMIdentifier tenantAuditorGroup tenantID := by
  intro h
  have hlen := congrArg String.length h
  simp only [newIAMIdentifier, String.length_append] at hlen
  have hadmin : tenantAdminGroup.length = 19 := by decide
  have hauditor : tenantAuditorGroup.length = 13 := by decide
  omega

theorem grouped_empty (tenantID : String) : Grouped tenantID .empty :=
  .inr fun g hg => by cases hg

namespace Repo

variable {r : Repo} {ctx : Ctx} {g : Group} {s : State}

theorem wp_createGroup : (r.createGroup ctx g).wp true (fun res s' => res = .ok () →
    s'.db.groups.rows = s.db.groups.rows ++ [g]) s := by
  refine wp_exec (fun e _ h => by cases h) fun _ => ?_
  simp only
  split
  · exact fun h => by cases h
  · split
    · exact fun h => by cases h
    · split
      · exact fun h => by cases h
      · exact fun _ => (insert?_eq_some.1 ‹_›).1

theorem wp_createGroup_new {P : Post Unit} (hrefused : ¬ r.Refuses ctx s.clock)
    (hvalid : g.beforeSave = none)
    (hnew : ∀ g' ∈ s.db.groups.rows, g'.id ≠ g.id ∧ g'.name ≠ g.name ∧
      g'.iamIdentifier ≠ g.iamIdentifier)
    (hP : ∀ t, t.rows = s.db.groups.rows ++ [g] →
      P (.ok ()) { s with db := { s.db with groups := t }, clock := s.clock + 1 }) :
    (r.createGroup ctx g).wp true P s := by
  refine wp_exec (fun e h => absurd h hrefused) fun _ => ?_
  have hany : ¬ (s.db.groups.rows.any fun g' => g'.name = g.name ∨ g'.iamIdentifier = g.iamIdentifier) := by
    simp only [any_eq_true, decide_eq_true_eq, not_exists, not_and, not_or]
    exact fun g' hg' => (hnew g' hg').2
  obtain ⟨t, hinsert, hrows⟩ : ∃ t, s.db.groups.insert? g = some t ∧ t.rows = s.db.groups.rows ++ [g] :=
    exists_insert? (get?_eq_none.2 fun g' hg' => (hnew g' hg').1)
  simp only [hvalid, if_neg hany, hinsert]
  exact hP t hrows

end Repo

namespace GroupManager

variable {m : GroupManager} {newUUID : Nat → UUID} {ctx : Ctx} {tenantID name : String}
  {role : BusinessRole} {s : State}

theorem wp_createDefaultGroup :
    (m.createDefaultGroup newUUID ctx tenantID name role).wp true (fun r s' => r = .ok () →
      ∃ g, g.name = name ∧ s'.db.groups.rows = s.db.groups.rows ++ [g]) s := by
  refine wp_query_bind (fun e n h => by cases h) fun id n _ => wp_mapError ?_
  unfold createGroup
  refine wp_mapError (wp_mono wp_createGroup fun r s' h hr => ?_)
  cases r with
  | ok u => exact ⟨_, rfl, h rfl⟩
  | error e => cases hr

theorem wp_createDefaultGroups (hout : ctx.inTx = false) :
    (m.createDefaultGroups newUUID ctx).wp false (fun _ s' => s'.db = s.db ∨ BothGroups s'.db) s := by
  refine wp_bind_run (fun e s1 h => ?_) fun tenantID s1 h => ?_
  all_goals
    rw [run_except, Prod.mk.injEq] at h
    obtain ⟨-, rfl⟩ := h
  · exact .inl rfl
  · refine wp_transaction hout ?_
    refine wp_bind (wp_mono wp_createDefaultGroup fun r1 s1 h1 => ?_)
    cases r1 with
    | error e => exact ⟨(fun a h => by cases h), fun _ e k => .inl rfl⟩
    | ok u =>
      obtain ⟨g, hg, hrows⟩ := h1 rfl
      refine wp_mono wp_createDefaultGroup fun r2 s2 h2 =>
        ⟨fun a h => .inr ?_, fun _ e k => .inl rfl⟩
      obtain ⟨g', hg', hrows'⟩ := h2 h
      rw [hrows, append_assoc] at hrows'
      unfold BothGroups
      rw [hrows']
      exact ⟨⟨g, by simp, hg⟩, ⟨g', by simp, hg'⟩⟩

theorem wp_createDefaultGroup_new {P : Post Unit}
    (hrefused : ∀ n, ¬ m.repo.Refuses ctx n)
    (hvalid : ∀ id, (defaultGroup tenantID name role id).beforeSave = none)
    (hnew : ∀ g ∈ s.db.groups.rows, g.id ≠ newUUID s.clock ∧ g.name ≠ name ∧
      g.iamIdentifier ≠ newIAMIdentifier name tenantID)
    (hP : ∀ t, t.rows = s.db.groups.rows ++ [defaultGroup tenantID name role (newUUID s.clock)] →
      P (.ok ()) { s with db := { s.db with groups := t }, clock := s.clock + 2 }) :
    (m.createDefaultGroup newUUID ctx tenantID name role).wp true P s := by
  refine wp_query_bind (fun e n h => by cases h) fun id n h => wp_mapError ?_
  cases h
  unfold createGroup
  exact wp_mapError (wp_createGroup_new (hrefused _) (hvalid _) hnew hP)

theorem wp_createDefaultGroup_exists (hrefused : ∀ n, ¬ m.repo.Refuses ctx n)
    (hvalid : ∀ id, (defaultGroup tenantID name role id).beforeSave = none)
    (hexists : ∃ g ∈ s.db.groups.rows, g.name = name) :
    (m.createDefaultGroup newUUID ctx tenantID name role).wp true
      (fun r _ => ∃ e, r = .error e ∧ e.is .errOnboardingInProgress = true) s := by
  refine wp_query_bind (fun e n h => by cases h) fun id n h => wp_mapError ?_
  cases h
  unfold createGroup
  refine wp_mapError (wp_exec (fun e h => absurd h (hrefused _)) fun _ => ?_)
  have hany : s.db.groups.rows.any (fun g' => g'.name = name ∨
      g'.iamIdentifier = newIAMIdentifier name tenantID) = true := by
    obtain ⟨g, hg, hname⟩ := hexists
    exact any_eq_true.2 ⟨g, hg, by simp [hname]⟩
  simp only [hvalid]
  unfold defaultGroup
  simp only [hany, if_true]
  unfold outside
  cases ctx.inTx with
  | true => exact ⟨_, rfl, rfl⟩
  | false => exact ⟨_, rfl, rfl⟩

/-- Without failures both groups exist at the end, created by this call or by an earlier one. -/
theorem wp_createDefaultGroups_grouped (hout : ctx.inTx = false) (htenant : ctx.tenant ≠ "")
    (hfault : ∀ n, m.repo.fault n = none) (hcommit : ∀ n, m.repo.commit n = none)
    (hvalid : ∀ name ∈ [tenantAdminGroup, tenantAuditorGroup], ∀ role id,
      (defaultGroup ctx.tenant name role id).beforeSave = none)
    (hids : newUUID s.clock ≠ newUUID (s.clock + 2))
    (hfresh : ∀ g ∈ s.db.groups.rows, ∀ n ∈ [s.clock, s.clock + 2], g.id ≠ newUUID n)
    (hgrouped : Grouped ctx.tenant s.db) :
    (m.createDefaultGroups newUUID ctx).wp false (fun r s' => BothGroups s'.db ∧
      (r = .ok () ∨ ∃ e, r = .error e ∧ e.is .errOnboardingInProgress = true)) s := by
  have hid : ctx.extractTenantID = .ok ctx.tenant := if_neg htenant
  have hadmin : tenantAdminGroup ∈ [tenantAdminGroup, tenantAuditorGroup] := by simp
  have hauditor : tenantAuditorGroup ∈ [tenantAdminGroup, tenantAuditorGroup] := by simp
  have hrefused : ∀ n, ¬ m.repo.Refuses { ctx with inTx := true } n :=
    fun n h => h.elim htenant fun h => h (hfault n)
  simp only [createDefaultGroups, hid, Except.mapError, ok_bind]
  rcases hgrouped with hboth | hnone
  · rw [transaction_outermost hout]
    refine wp_mapError (wp_mono (wp_transact_error (A := (·.is .errOnboardingInProgress))
      (wp_bind (wp_mono (wp_createDefaultGroup_exists hrefused
        (fun id => hvalid _ hadmin _ id) hboth.1) fun r s' h => ?_))) fun r s' h => ?_)
    · obtain ⟨e, rfl, he⟩ := h
      exact ⟨e, rfl, he⟩
    · obtain ⟨⟨e, rfl, he⟩, hdb⟩ := h
      rw [hdb]
      refine ⟨hboth, .inr ⟨_, rfl, ?_⟩⟩
      cases e with
      | panic => cases he
      | err e => exact he
  · refine wp_transaction hout ?_
    refine wp_bind (wp_createDefaultGroup_new hrefused (fun id => hvalid _ hadmin _ id)
      (fun g hg => ⟨hfresh g hg _ mem_cons_self, hnone g hg _ hadmin⟩) fun t ht => ?_)
    refine wp_createDefaultGroup_new hrefused (fun id => hvalid _ hauditor _ id) (fun g hg => ?_)
      fun t' ht' => ?_
    · simp only [ht, mem_append, mem_singleton] at hg
      rcases hg with hg | rfl
      · exact ⟨hfresh g hg _ (by simp), hnone g hg _ hauditor⟩
      · exact ⟨hids, tenantAdminGroup_ne, newIAMIdentifier_ne ctx.tenant⟩
    · simp only [ht, append_assoc] at ht'
      refine ⟨fun _ _ => ⟨?_, .inl rfl⟩, fun hfail => ?_⟩
      · unfold BothGroups
        simp only [ht']
        exact ⟨⟨_, mem_append_right _ mem_cons_self, rfl⟩,
          ⟨_, mem_append_right _ (mem_cons_of_mem _ mem_cons_self), rfl⟩⟩
      · obtain ⟨k, hk⟩ := hfail () rfl
        exact absurd (hcommit k) hk

end GroupManager

/-- A tenant has the schema its ID encodes, and a schema has both default groups or neither. -/
structure ClusterWellFormed (o : TenantOperator) (d : Catalogue) (x : Cluster) : Prop where
  encoded : ∀ row ∈ d.tenants.rows,
    o.encodeSchemaNameBase62 row.id = .ok row.schemaName ∧ row.domainURL = row.schemaName
  migrated : ∀ row ∈ d.tenants.rows, x.schemas row.schemaName ≠ none
  grouped : ∀ tenantID schema db, o.encodeSchemaNameBase62 tenantID = .ok schema →
    x.schemas schema = some db → Grouped tenantID db

namespace Cluster

theorem withSchema_self (x : Cluster) (name : String) : (x.withSchema name).schemas name ≠ none := by
  simp only [withSchema, update_self]
  exact fun h => by cases h

theorem withSchema_of_ne_none {x : Cluster} (h : x.schemas schema ≠ none) :
    (x.withSchema name).schemas schema = x.schemas schema := by
  simp only [withSchema]
  by_cases hname : schema = name
  · subst hname
    rw [update_self]
    cases hs : x.schemas schema with
    | none => exact absurd hs h
    | some db => rfl
  · rw [update_of_ne hname]

theorem withSchema_some {x : Cluster} (h : (x.withSchema name).schemas schema = some db) :
    x.schemas schema = some db ∨ db = .empty := by
  simp only [withSchema] at h
  by_cases hname : schema = name
  · subst hname
    rw [update_self] at h
    cases hs : x.schemas schema with
    | none =>
      rw [hs] at h
      exact .inr (Option.some.inj h).symm
    | some db' =>
      rw [hs] at h
      exact .inl h
  · rw [update_of_ne hname] at h
    exact .inl h

end Cluster

namespace ClusterWellFormed

variable {o : TenantOperator} {d d' : Catalogue} {x : Cluster} {tenant : TenantRow}

theorem withSchema (h : ClusterWellFormed o d x) (name : String) : ClusterWellFormed o d (x.withSchema name) where
  encoded := h.encoded
  migrated row hrow := by
    rw [Cluster.withSchema_of_ne_none (h.migrated row hrow)]
    exact h.migrated row hrow
  grouped tenantID schema db henc hdb := by
    rcases Cluster.withSchema_some hdb with hdb | rfl
    · exact h.grouped tenantID schema db henc hdb
    · exact grouped_empty tenantID

theorem add (h : ClusterWellFormed o d x) (henc : o.encodeSchemaNameBase62 tenant.id = .ok tenant.schemaName)
    (hdomain : tenant.domainURL = tenant.schemaName) (hrows : d'.tenants.rows = d.tenants.rows ++ [tenant]) :
    ClusterWellFormed o d' (x.withSchema tenant.schemaName) where
  encoded row hrow := by
    rw [hrows, mem_append, mem_singleton] at hrow
    rcases hrow with hrow | rfl
    · exact h.encoded row hrow
    · exact ⟨henc, hdomain⟩
  migrated row hrow := by
    rw [hrows, mem_append, mem_singleton] at hrow
    rcases hrow with hrow | rfl
    · exact (h.withSchema _).migrated row hrow
    · exact x.withSchema_self _
  grouped := (h.withSchema _).grouped

theorem update (h : ClusterWellFormed o d x) {world : World} (hdb : x.schemas schema = some db)
    (hgroups : db' = db ∨ BothGroups db') :
    ClusterWellFormed o d { schemas := update x.schemas schema (some db'), world := world } where
  encoded := h.encoded
  migrated row hrow := by
    by_cases hname : row.schemaName = schema
    · simp only [hname, update_self]
      exact fun h => by cases h
    · simp only [update_of_ne hname]
      exact h.migrated row hrow
  grouped tenantID schema' db'' henc hdb'' := by
    by_cases hname : schema' = schema
    · simp only [hname, update_self] at hdb''
      cases hdb''
      rcases hgroups with rfl | hboth
      · exact h.grouped tenantID schema' db' henc (hname ▸ hdb)
      · exact .inl hboth
    · simp only [update_of_ne hname] at hdb''
      exact h.grouped tenantID schema' db'' henc hdb''

end ClusterWellFormed

theorem wp_tryErr_state_bind {D X α β : Type} {p : Prog D X Exn α} {h : Except Err α → Prog D X Exn β}
    {i : Bool} {s : St D X} {P : St D X → Prop} (hcalls : Calls p) (hp : p.wp i (fun _ => P) s)
    (hh : ∀ r s', P s' → (h r).wp i (fun _ => P) s') : (tryErr p >>= h).wp i (fun _ => P) s :=
  wp_tryErr_bind hcalls (fun _ s1 hrun => hh _ s1 (wp_of_run hp hrun))
    fun _ s1 hrun => hh _ s1 (wp_of_run hp hrun)

namespace TenantOperator

variable {o : TenantOperator} {tenant : TenantRow} {i : Bool} {s : St Catalogue Cluster}

theorem wp_createTenantRow_migrate :
    ((o.db.createTenantRow tenant).mapError (onboardingError .errCreatingTenant) >>= fun _ =>
      o.db.migrateTenantToLatest tenant).wp true (fun r s' =>
        (s'.ext = s.ext ∨ s'.ext = s.ext.withSchema tenant.schemaName) ∧ (r = .ok () →
          s'.db.tenants.rows = s.db.tenants.rows ++ [tenant] ∧
          s'.ext = s.ext.withSchema tenant.schemaName)) s := by
  have hrow : (o.db.createTenantRow tenant).wp true (fun r s' => s'.ext = s.ext ∧
      (r = .ok () → s'.db.tenants.rows = s.db.tenants.rows ++ [tenant])) s := by
    unfold createTenantRow wp
    rw [run_exec_nested]
    simp only
    split
    · exact ⟨trivial, fun h => by cases h⟩
    · split
      · exact ⟨trivial, fun h => by cases h⟩
      · split
        · exact ⟨trivial, fun h => by cases h⟩
        · exact ⟨trivial, fun _ => (insert?_eq_some.1 ‹_›).1⟩
  refine wp_bind (wp_mapError (wp_mono hrow fun r s' h => ?_))
  obtain ⟨hext, hrows⟩ := h
  cases r with
  | error e => exact ⟨.inl hext, fun h => by cases h⟩
  | ok u =>
    unfold migrateTenantToLatest wp
    rw [run_call]
    cases hm : o.db.migrate s'.clock with
    | some e => exact ⟨.inl hext, fun h => by cases h⟩
    | none =>
      simp only [hext]
      exact ⟨.inr trivial, fun _ => ⟨hrows rfl, trivial⟩⟩

theorem wp_createTenant (henc : o.encodeSchemaNameBase62 tenant.id = .ok tenant.schemaName)
    (hdomain : tenant.domainURL = tenant.schemaName) (hs : ClusterWellFormed o s.db s.ext) :
    (o.createTenant tenant).wp false (fun _ s' => ClusterWellFormed o s'.db s'.ext) s := by
  unfold createTenant
  split
  · exact hs
  · exact hs
  · refine wp_mapError (wp_transact (wp_mono wp_createTenantRow_migrate
      fun r s' h => ⟨fun a hr _ => ?_, fun _ e n => ?_⟩))
    · obtain ⟨hrows, hext⟩ := h.2 hr
      simp only
      rw [hext]
      exact hs.add henc hdomain hrows
    · rcases h.1 with hext | hext
      · simp only
        rw [hext]
        exact hs
      · simp only
        rw [hext]
        exact hs.withSchema _

theorem wp_createTenantGroups (hs : ClusterWellFormed o s.db s.ext) :
    (o.createTenantGroups tenant).wp false (fun _ s' => ClusterWellFormed o s'.db s'.ext) s := by
  refine wp_tryErr_state_bind
    (inSchema_calls fun _ _ => GroupManager.createDefaultGroups_calls) ?_ fun r s' hs' => ?_
  · unfold inSchema wp
    rw [run_call]
    simp only [connect_tables]
    cases htables : tablesOf s.db s.ext tenant.id with
    | none => exact ⟨hs.encoded, hs.migrated, hs.grouped⟩
    | some p =>
      exact hs.update (schemas_of_tables htables)
        (GroupManager.wp_createDefaultGroups (s := ⟨p.2, s.ext.world, 0, []⟩) rfl)
  · cases r with
    | ok u => exact hs'
    | error e =>
      simp only
      split
      · exact hs'
      · exact hs'

theorem wp_createTenantSchema (henc : o.encodeSchemaNameBase62 tenant.id = .ok tenant.schemaName)
    (hdomain : tenant.domainURL = tenant.schemaName) (hs : ClusterWellFormed o s.db s.ext) :
    (o.createTenantSchema tenant).wp false (fun _ s' => ClusterWellFormed o s'.db s'.ext) s := by
  refine wp_tryErr_state_bind createTenant_calls (wp_createTenant henc hdomain hs) fun r s' hs' => ?_
  cases r with
  | ok u => exact hs'
  | error e =>
    simp only
    split
    · exact hs'
    · exact hs'

theorem unmarshalTenantData_ok {data : Except Err TenantProto}
    (h : o.unmarshalTenantData data = .ok tenant) :
    o.encodeSchemaNameBase62 tenant.id = .ok tenant.schemaName ∧
      tenant.domainURL = tenant.schemaName := by
  unfold unmarshalTenantData at h
  cases data with
  | error e => cases h
  | ok proto =>
    change ((o.encodeSchemaNameBase62 proto.id).mapError _ >>= fun _ => _) = _ at h
    cases henc : o.encodeSchemaNameBase62 proto.id with
    | error e =>
      rw [henc] at h
      cases h
    | ok schemaName =>
      rw [henc] at h
      cases h
      exact ⟨henc, rfl⟩

theorem wp_pendingStep_state {pending : Bool} {step : OpM Unit} {state : String}
    {next : OpM HandlerResponse} {P : St Catalogue Cluster → Prop} (hcalls : Calls step) (hs : P s)
    (hstep : step.wp false (fun _ => P) s) (hnext : ∀ s, P s → next.wp false (fun _ => P) s) :
    (pendingStep pending step resp state next).wp false (fun _ => P) s := by
  unfold pendingStep
  cases pending with
  | false => exact hnext s hs
  | true =>
    refine wp_tryErr_state_bind hcalls hstep fun r s' hs' => ?_
    cases r with
    | ok u => exact hnext s' hs'
    | error e => exact hs'

theorem handleCreateTenant_wellFormed {data : Except Err TenantProto}
    (hs : ClusterWellFormed o s.db s.ext) :
    (o.handleCreateTenant data resp).wp false (fun _ s' => ClusterWellFormed o s'.db s'.ext) s := by
  unfold handleCreateTenant
  cases hdata : o.unmarshalTenantData data with
  | error e => exact hs
  | ok tenant =>
    obtain ⟨henc, hdomain⟩ := unmarshalTenantData_ok hdata
    have hcheck : (o.check tenant).wp false (fun _ s' => ClusterWellFormed o s'.db s'.ext) s :=
      wp_mono wp_check fun r s' h => by
        rw [h.1, h.2.1]
        exact hs
    refine wp_tryErr_state_bind check_calls hcheck fun r s' hs' => ?_
    cases r with
    | error e => exact hs'
    | ok result =>
      simp only
      split
      · refine wp_tryErr_state_bind (sendTenantUserGroupsToRegistry_calls _) hs' fun r s'' hs'' => ?_
        rcases r with e | (_ | _)
        · exact hs''
        · exact hs''
        · exact hs''
      · exact wp_pendingStep_state createTenantSchema_calls hs'
          (wp_createTenantSchema henc hdomain hs') fun s1 hs1 =>
            wp_pendingStep_state createTenantGroups_calls hs1 (wp_createTenantGroups hs1)
              fun s2 hs2 => hs2

/-- No statement, commit, migration or call of the registry fails, and the tenant is valid. -/
structure NoFailures (o : TenantOperator) (tenant : TenantRow) : Prop where
  fault : ∀ n, o.db.fault n = none
  commit : ∀ n, o.db.commit n = none
  repo : ∀ n k, (o.db.repo n).fault k = none ∧ (o.db.repo n).commit k = none
  migrate : ∀ n, o.db.migrate n = none
  registry : ∀ n groups, o.setTenantUserGroups n tenant.id groups = .ok true
  schema : validateSchema tenant.schemaName = none
  valid : o.validate tenant = none
  groups : ∀ name ∈ [tenantAdminGroup, tenantAuditorGroup], ∀ role id,
    (defaultGroup tenant.id name role id).beforeSave = none

/-- `uuid.New` gives the two default groups IDs of their own. What is asked in a schema is counted from
0, and the first group takes two numbers. -/
structure FreshIDs (o : TenantOperator) (x : Cluster) (schema : String) : Prop where
  distinct : o.newUUID 0 ≠ o.newUUID 2
  new : ∀ db, x.schemas schema = some db → ∀ g ∈ db.groups.rows, ∀ n ∈ [0, 2], g.id ≠ o.newUUID n

section

variable {schema : String} {db : Db}

theorem wp_groupExists_found (hok : o.NoFailures tenant) (htenant : tenant.id ≠ "")
    (htables : tablesOf s.db s.ext tenant.id = some (schema, db)) (groupType : String) :
    (o.groupExists groupType tenant.id).wp i (fun r s' =>
      r = .ok (db.groups.rows.any (·.name = groupType)) ∧ s' = { s with clock := s.clock + 1 }) s := by
  have hfault : (o.db.repo s.clock).fault 0 = none := (hok.repo _ _).1
  have hctx : (tenantContext tenant.id).tenant ≠ "" := htenant
  refine wp_tryErr_bind (inSchema_calls fun r ctx => firstGroupByName_calls _)
    (fun e s1 hrun => ?_) fun g s1 hrun => ?_
  all_goals
    rw [run_inSchema_query, connect_of_tables htables, htables,
      Prod.mk.injEq] at hrun
    simp only [Option.map_some, Option.getD_some] at hrun
    obtain ⟨hfirst, rfl⟩ := hrun
  · cases hfind : db.groups.rows.find? (·.name = groupType) with
    | some g =>
      rw [firstGroupByName, eval_first_found hctx hfault hfind] at hfirst
      cases hfirst
    | none =>
      obtain ⟨e', he', heval⟩ : ∃ e : Exn, e.is .errNotFound ∧
          ((o.db.repo s.clock).first (tenantContext tenant.id) fun d =>
            d.groups.rows.find? (·.name = groupType)).eval db 0 = (.error e, 1) :=
        eval_first_missing hctx hfault hfind
      rw [firstGroupByName, heval] at hfirst
      cases hfirst
      have hany : db.groups.rows.any (·.name = groupType) = false := by
        rw [any_eq_false]
        exact find?_eq_none.1 hfind
      have hmissing : e.is .errNotFound = true := he'
      simp only [hany, hmissing, if_true]
      exact ⟨rfl, rfl⟩
  · obtain ⟨hfind, -⟩ := eval_first_ok (Prod.ext hfirst rfl)
    have hany : db.groups.rows.any (·.name = groupType) = true :=
      any_eq_true.2 ⟨g, mem_of_find?_eq_some hfind, by simpa using find?_some hfind⟩
    rw [hany]
    exact ⟨rfl, rfl⟩

theorem run_schemaExists (hok : o.NoFailures tenant) (schemaName : String) :
    (o.schemaExists schemaName).run i s =
      (.ok (s.db.tenants.rows.any (·.schemaName = schemaName)), { s with clock := s.clock + 1 }) := by
  unfold schemaExists
  rw [run_lift, Query.eval_ask, hok.fault]

theorem wp_check_missing (hok : o.NoFailures tenant)
    (hmissing : ∀ row ∈ s.db.tenants.rows, row.schemaName ≠ tenant.schemaName) :
    (o.check tenant).wp i (fun r s' => r = .ok ⟨.schemaNotFound, .groupsNotFound⟩ ∧ s'.db = s.db ∧
      s'.ext = s.ext) s := by
  have hany : s.db.tenants.rows.any (·.schemaName = tenant.schemaName) = false := by
    rw [any_eq_false]
    simpa using hmissing
  refine wp_tryErr_bind (schemaExists_calls _) (fun e s1 hrun => ?_) fun b s1 hrun => ?_
  all_goals
    rw [run_schemaExists hok, hany] at hrun
    cases hrun
  exact ⟨rfl, rfl, rfl⟩

theorem wp_check_tables (hok : o.NoFailures tenant) (htenant : tenant.id ≠ "")
    (hrow : ∃ row ∈ s.db.tenants.rows, row.schemaName = tenant.schemaName)
    (htables : tablesOf s.db s.ext tenant.id = some (schema, db)) :
    (o.check tenant).wp i (fun r s' => (∃ groups, r = .ok ⟨.schemaExists, groups⟩ ∧
      (groups = .groupsExist ↔ BothGroups db)) ∧ s'.db = s.db ∧ s'.ext = s.ext) s := by
  have hany : s.db.tenants.rows.any (·.schemaName = tenant.schemaName) = true := by
    simpa using hrow
  refine wp_tryErr_bind (schemaExists_calls _) (fun e s1 hrun => ?_) fun b s1 hrun => ?_
  all_goals
    rw [run_schemaExists hok, hany] at hrun
    cases hrun
  refine wp_bind (wp_bind (wp_mono
    (wp_groupExists_found (s := { s with clock := s.clock + 1 }) hok htenant htables _)
    fun r1 s1 h1 => ?_))
  obtain ⟨rfl, rfl⟩ := h1
  refine wp_bind (wp_mono
    (wp_groupExists_found (s := { s with clock := s.clock + 2 }) hok htenant htables _)
    fun r2 s2 h2 => ?_)
  obtain ⟨rfl, rfl⟩ := h2
  refine ⟨⟨_, rfl, ?_⟩, rfl, rfl⟩
  rw [bothGroups_iff]
  split
  · exact ⟨fun _ => ‹_›, fun _ => rfl⟩
  · exact ⟨(fun h => by cases h), fun h => absurd h ‹_›⟩

theorem wp_createTenantSchema_new (hok : o.NoFailures tenant)
    (hnew : ∀ row ∈ s.db.tenants.rows, row.id ≠ tenant.id ∧ row.domainURL ≠ tenant.domainURL ∧
      row.schemaName ≠ tenant.schemaName) :
    (o.createTenantSchema tenant).wp false (fun r s' => r = .ok () ∧
      s'.db.tenants.rows = s.db.tenants.rows ++ [tenant] ∧
      s'.ext = s.ext.withSchema tenant.schemaName) s := by
  obtain ⟨t, hinsert, hrows⟩ : ∃ t, s.db.tenants.insert? tenant = some t ∧
      t.rows = s.db.tenants.rows ++ [tenant] :=
    exists_insert? (get?_eq_none.2 fun row hrow => (hnew row hrow).1)
  have hany : ¬ (s.db.tenants.rows.any fun row =>
      row.domainURL = tenant.domainURL ∨ row.schemaName = tenant.schemaName) := by
    simp only [any_eq_true, decide_eq_true_eq, not_exists, not_and, not_or]
    exact fun row hrow => (hnew row hrow).2
  have hrow : (o.db.createTenantRow tenant).run true s =
      (.ok (), { s with db := { s.db with tenants := t }, clock := s.clock + 1 }) := by
    unfold createTenantRow
    rw [run_exec_nested]
    simp only [hok.fault, if_neg hany, hinsert]
  have hmigrate : ∀ s1 : St Catalogue Cluster, (o.db.migrateTenantToLatest tenant).run true s1 =
      (.ok (), { s1 with ext := s1.ext.withSchema tenant.schemaName, clock := s1.clock + 1 }) := by
    intro s1
    unfold migrateTenantToLatest
    rw [run_call, hok.migrate]
  have hcreate : (o.createTenant tenant).wp false (fun r s' => r = .ok () ∧
      s'.db.tenants.rows = s.db.tenants.rows ++ [tenant] ∧
      s'.ext = s.ext.withSchema tenant.schemaName) s := by
    unfold createTenant
    rw [hok.schema, hok.valid]
    refine wp_mapError (wp_transact ?_)
    refine wp_bind_run (fun e s1 h => ?_) fun a s1 h => ?_
    all_goals
      rw [run_mapError, hrow] at h
      cases h
    unfold wp
    rw [hmigrate]
    refine ⟨fun _ _ _ => ⟨rfl, hrows, rfl⟩, fun hfail => ?_⟩
    have hcommit := hfail () rfl
    rw [hok.commit] at hcommit
    exact absurd rfl hcommit
  refine wp_tryErr_bind createTenant_calls (fun e s1 hrun => ?_) fun a s1 hrun => ?_
  · cases (wp_of_run hcreate hrun).1
  · exact ⟨rfl, (wp_of_run hcreate hrun).2⟩

theorem wp_createTenantGroups_grouped (hok : o.NoFailures tenant) (htenant : tenant.id ≠ "")
    (htables : tablesOf s.db s.ext tenant.id = some (schema, db)) (hgrouped : Grouped tenant.id db)
    (hids : o.newUUID 0 ≠ o.newUUID 2)
    (hfresh : ∀ g ∈ db.groups.rows, ∀ n ∈ [0, 2], g.id ≠ o.newUUID n) :
    (o.createTenantGroups tenant).wp false (fun r s' => r = .ok () ∧ s'.db = s.db ∧
      HasGroup s'.db s'.ext tenant.id tenantAdminGroup ∧
      HasGroup s'.db s'.ext tenant.id tenantAuditorGroup) s := by
  have hgroups : (({ o.gm with repo := o.db.repo s.clock } : GroupManager).createDefaultGroups o.newUUID
      (tenantContext tenant.id)).wp false (fun r s' => BothGroups s'.db ∧
        (r = .ok () ∨ ∃ e, r = .error e ∧ e.is .errOnboardingInProgress = true))
      ⟨db, s.ext.world, 0, []⟩ :=
    GroupManager.wp_createDefaultGroups_grouped rfl htenant (fun n => (hok.repo _ n).1)
      (fun n => (hok.repo _ n).2) hok.groups hids hfresh hgrouped
  have hcall : (o.db.inSchema tenant.id fun r ctx =>
      ({ o.gm with repo := r } : GroupManager).createDefaultGroups o.newUUID ctx).wp false (fun r s' =>
        (s'.db = s.db ∧ HasGroup s'.db s'.ext tenant.id tenantAdminGroup ∧
          HasGroup s'.db s'.ext tenant.id tenantAuditorGroup) ∧
        (r = .ok () ∨ ∃ e, r = .error e ∧ e.is .errOnboardingInProgress = true)) s := by
    unfold inSchema wp
    rw [run_call, connect_of_tables htables]
    obtain ⟨⟨hadmin, hauditor⟩, hr⟩ := hgroups
    exact ⟨⟨rfl, ⟨schema, _, tablesOf_update htables, hadmin⟩,
      schema, _, tablesOf_update htables, hauditor⟩, hr⟩
  refine wp_tryErr_bind
    (inSchema_calls fun _ _ => GroupManager.createDefaultGroups_calls)
    (fun e s1 hrun => ?_) fun a s1 hrun => ?_
  · obtain ⟨hs1, hr⟩ := wp_of_run hcall hrun
    rcases hr with hr | ⟨e', he', hprogress⟩
    · cases hr
    · cases he'
      have hprogress : e.is .errOnboardingInProgress = true := hprogress
      simp only [hprogress, if_true]
      exact ⟨rfl, hs1⟩
  · exact ⟨rfl, (wp_of_run hcall hrun).1⟩

theorem wp_pendingGroups {pending : Bool} (hok : o.NoFailures tenant) (htenant : tenant.id ≠ "")
    (hrow : ∃ row ∈ s.db.tenants.rows, row.schemaName = tenant.schemaName)
    (htables : tablesOf s.db s.ext tenant.id = some (schema, db)) (hgrouped : Grouped tenant.id db)
    (hids : o.newUUID 0 ≠ o.newUUID 2)
    (hfresh : ∀ g ∈ db.groups.rows, ∀ n ∈ [0, 2], g.id ≠ o.newUUID n) (hpending : pending = true)
    {next : HandlerResponse} :
    (pendingStep pending (o.createTenantGroups tenant) resp "group creation failed"
      (return next)).wp false (fun _ s' => TenantProvisioned s'.db s'.ext tenant) s := by
  subst hpending
  have hstep := wp_createTenantGroups_grouped hok htenant htables hgrouped hids hfresh
  refine wp_tryErr_bind createTenantGroups_calls (fun e s1 hrun => ?_) fun a s1 hrun => ?_
  · cases (wp_of_run hstep hrun).1
  · obtain ⟨-, hdb, hadmin, hauditor⟩ := wp_of_run hstep hrun
    exact ⟨hdb ▸ hrow, hadmin, hauditor⟩

end

section

variable {data : Except Err TenantProto} {resp : HandlerResponse}

def Completes (resp : HandlerResponse) (r : Except Exn HandlerResponse) : Prop :=
  ∃ resp', r = .ok resp' ∧ resp'.answers = resp.answers ++ [.complete]

theorem encodeSchemaNameBase62_ne_empty (h : o.encodeSchemaNameBase62 tenantID = .ok schemaName) :
    tenantID ≠ "" := by
  rintro rfl
  unfold encodeSchemaNameBase62 at h
  rw [if_pos rfl] at h
  cases h

theorem encodeSchemaNameBase62_ok (h : o.encodeSchemaNameBase62 tenantID = .ok schemaName) :
    schemaName = "_" ++ o.encodeToString tenantID := by
  unfold encodeSchemaNameBase62 at h
  split at h
  · cases h
  · split at h
    · cases h
    · cases h
      rfl

theorem eq_of_schemaName (hinj : Function.Injective o.encodeToString)
    (ha : o.encodeSchemaNameBase62 a = .ok schemaName)
    (hb : o.encodeSchemaNameBase62 b = .ok schemaName) : a = b := by
  have h := (encodeSchemaNameBase62_ok ha).symm.trans (encodeSchemaNameBase62_ok hb)
  exact hinj ((String.append_right_inj _).1 h)

theorem TenantProvisioned.finished (hok : o.NoFailures tenant)
    (hdata : o.unmarshalTenantData data = .ok tenant) (h : TenantProvisioned s.db s.ext tenant) :
    ∃ s1, o.Finished data s tenant s1 := by
  obtain ⟨schema, db, htables, hadmin⟩ := h.admin
  obtain ⟨schema', db', htables', hauditor⟩ := h.auditor
  rw [htables] at htables'
  cases htables'
  have htenant := encodeSchemaNameBase62_ne_empty (unmarshalTenantData_ok hdata).1
  obtain ⟨⟨groups, hr, hgroups⟩, -⟩ := wp_check_tables (i := false) hok htenant h.schema htables
  cases hgroups.2 ⟨hadmin, hauditor⟩
  exact ⟨_, hdata, _, Prod.ext hr rfl, rfl⟩

theorem handleCreateTenant_completes (hok : o.NoFailures tenant)
    (hdata : o.unmarshalTenantData data = .ok tenant) (h : TenantProvisioned s.db s.ext tenant) :
    Completes resp ((o.handleCreateTenant data resp).run false s).1 := by
  obtain ⟨s1, hfinished⟩ := TenantProvisioned.finished hok hdata h
  rw [handleCreateTenant_finished hfinished, finalAnswer, hok.registry]
  exact ⟨_, rfl, rfl⟩

theorem handleCreateTenant_creates (hok : o.NoFailures tenant)
    (hinj : Function.Injective o.encodeToString) (hdata : o.unmarshalTenantData data = .ok tenant)
    (hs : ClusterWellFormed o s.db s.ext) (hfresh : FreshIDs o s.ext tenant.schemaName) :
    (o.handleCreateTenant data resp).wp false
      (fun _ s' => TenantProvisioned s'.db s'.ext tenant) s := by
  obtain ⟨henc, hdomain⟩ := unmarshalTenantData_ok hdata
  have htenant := encodeSchemaNameBase62_ne_empty henc
  unfold handleCreateTenant
  rw [hdata]
  by_cases hrow : ∃ row ∈ s.db.tenants.rows, row.schemaName = tenant.schemaName
  · -- the tenant is in the catalogue, so its schema exists
    obtain ⟨row, hmem, hname⟩ := hrow
    have hid : row.id = tenant.id := eq_of_schemaName hinj (hname ▸ (hs.encoded row hmem).1) henc
    obtain ⟨db, hdb⟩ := Option.ne_none_iff_exists'.1 (hname ▸ hs.migrated row hmem)
    have htables : tablesOf s.db s.ext tenant.id = some (tenant.schemaName, db) := by
      unfold tablesOf
      rw [← hid, get?_key hmem, Option.bind_some, hname, hdb, Option.map_some]
    have hcheck := wp_check_tables (i := false) hok htenant ⟨row, hmem, hname⟩ htables
    refine wp_tryErr_bind check_calls (fun e s1 hrun => ?_) fun result s1 hrun => ?_
    all_goals obtain ⟨⟨groups, hr, hgroups⟩, hdb1, hext1⟩ := wp_of_run hcheck hrun
    · cases hr
    cases hr
    rw [← hdb1, ← hext1] at htables
    have hrow1 : ∃ row ∈ s1.db.tenants.rows, row.schemaName = tenant.schemaName :=
      ⟨row, hdb1 ▸ hmem, hname⟩
    cases groups with
    | groupsExist =>
      obtain ⟨hadmin, hauditor⟩ := hgroups.1 rfl
      refine wp_mono (Q := fun _ s' => s'.db = s1.db ∧ s'.ext = s1.ext) ?_ fun r s' h => ?_
      · refine wp_tryErr_state_bind (P := fun s' => s'.db = s1.db ∧ s'.ext = s1.ext)
          (sendTenantUserGroupsToRegistry_calls _) ⟨rfl, rfl⟩ fun r s' hs' => ?_
        rcases r with e | (_ | _)
        · exact hs'
        · exact hs'
        · exact hs'
      · rw [h.1, h.2]
        exact ⟨hrow1, ⟨_, _, htables, hadmin⟩, _, _, htables, hauditor⟩
    | groupsNotFound =>
      exact wp_pendingGroups hok htenant hrow1 htables (hs.grouped _ _ _ henc hdb)
        hfresh.distinct (hfresh.new db hdb) rfl
  · have hmissing : ∀ row ∈ s.db.tenants.rows, row.schemaName ≠ tenant.schemaName :=
      fun row hmem hname => hrow ⟨row, hmem, hname⟩
    refine wp_tryErr_bind check_calls (fun e s1 hrun => ?_) fun result s1 hrun => ?_
    all_goals
      obtain ⟨hr, hdb1, hext1⟩ := wp_of_run (wp_check_missing hok hmissing) hrun
      cases hr
    have hnew : ∀ row ∈ s1.db.tenants.rows, row.id ≠ tenant.id ∧
        row.domainURL ≠ tenant.domainURL ∧ row.schemaName ≠ tenant.schemaName := by
      rw [hdb1]
      intro row hmem
      obtain ⟨henc', hdomain'⟩ := hs.encoded row hmem
      refine ⟨fun hid => ?_, ?_, hmissing row hmem⟩
      · rw [hid, henc] at henc'
        exact hmissing row hmem (Except.ok.inj henc').symm
      · rw [hdomain, hdomain']
        exact hmissing row hmem
    have hschema := wp_createTenantSchema_new hok hnew
    refine wp_tryErr_bind createTenantSchema_calls (fun e s2 hrun => ?_) fun a s2 hrun => ?_
    all_goals obtain ⟨hr, hrows, hext2⟩ := wp_of_run hschema hrun
    · cases hr
    have hmem : tenant ∈ s2.db.tenants.rows := by
      rw [hrows]
      exact mem_append_right _ mem_cons_self
    obtain ⟨db, hdb⟩ := Option.ne_none_iff_exists'.1 (s.ext.withSchema_self tenant.schemaName)
    rw [hext1] at hext2
    have htables : tablesOf s2.db s2.ext tenant.id = some (tenant.schemaName, db) := by
      unfold tablesOf
      rw [get?_key hmem, Option.bind_some, hext2, hdb, Option.map_some]
    refine wp_pendingGroups hok htenant ⟨tenant, hmem, rfl⟩ htables
      ((hs.withSchema _).grouped _ _ _ henc hdb) hfresh.distinct ?_ rfl
    rcases Cluster.withSchema_some hdb with hdb | rfl
    · exact hfresh.new db hdb
    · exact fun g hg => by cases hg

end

/-- `SetTenantUserGroups` for the default groups of a tenant. -/
def registryReply (o : TenantOperator) (tenantID : String) (n : Nat) : Except Err Bool :=
  o.setTenantUserGroups n tenantID
    [newIAMIdentifier tenantAdminGroup tenantID, newIAMIdentifier tenantAuditorGroup tenantID]

def Answered (resp : HandlerResponse) (r : Except Exn HandlerResponse) : Prop :=
  ∃ resp' a, r = .ok resp' ∧ resp'.answers = resp.answers ++ [a]

theorem finalAnswer_answered {n : Nat} :
    Answered resp (o.finalAnswer tenantID n resp) ↔
      ¬ (o.registryReply tenantID n = .ok false ∧ resp.workingState ≠ none) := by
  unfold finalAnswer registryReply
  generalize o.setTenantUserGroups n tenantID _ = reply
  rcases reply with e | (_ | _)
  · obtain ⟨resp', a, hr, ha, -⟩ : Incomplete resp _ :=
      incomplete_continue e "failed to send groups to registry"
    simp only [hr]
    exact ⟨(fun _ h => by cases h.1), fun _ => ⟨resp', a, rfl, ha⟩⟩
  · simp only [HandlerResponse.setErrorStateAndContinue_nil]
    split
    · exact ⟨fun _ h => h.2 ‹_›, fun _ => ⟨_, _, rfl, rfl⟩⟩
    · refine ⟨?_, fun h => absurd ⟨trivial, ‹_›⟩ h⟩
      rintro ⟨resp', a, hr, -⟩
      cases hr
  · exact ⟨(fun _ h => by cases h.1), fun _ => ⟨_, _, rfl, rfl⟩⟩

theorem finalAnswer_completes {n : Nat} (h : Completes resp (o.finalAnswer tenantID n resp)) :
    o.registryReply tenantID n = .ok true := by
  unfold finalAnswer at h
  unfold registryReply
  generalize o.setTenantUserGroups n tenantID _ = reply at h ⊢
  obtain ⟨resp', hr, hanswers⟩ := h
  rcases reply with e | (_ | _)
  · obtain ⟨resp'', a, hr', ha, hne⟩ : Incomplete resp _ :=
      incomplete_continue e "failed to send groups to registry"
    simp only [hr'] at hr
    cases hr
    rw [ha] at hanswers
    exact absurd (cons.inj (append_cancel_left hanswers)).1 hne
  · simp only [HandlerResponse.setErrorStateAndContinue_nil] at hr
    split at hr
    · cases hr
      cases (append_cancel_left hanswers)
    · cases hr
  · rfl

/-- The handler answers its task once, unless the tenant is provisioned and the registry replies to a
task with a working state that it has not taken the groups. It completes a task only if the tenant is
provisioned and the registry has taken the groups, and without failures it completes the task when it
is invoked again. -/
theorem createTenant_answers (o : TenantOperator) (data : Except Err TenantProto)
    (resp : HandlerResponse) (s : St Catalogue Cluster) :
    let invocation := (o.handleCreateTenant data resp).run false s
    (Answered resp invocation.1 ↔
      ¬ ∃ tenant s₁, o.Finished data s tenant s₁ ∧ o.registryReply tenant.id s₁.clock = .ok false ∧
        resp.workingState ≠ none) ∧
    (Completes resp invocation.1 → ∃ tenant n, o.unmarshalTenantData data = .ok tenant ∧
      TenantProvisioned s.db s.ext tenant ∧ o.registryReply tenant.id n = .ok true) ∧
    (ClusterWellFormed o s.db s.ext → ClusterWellFormed o invocation.2.db invocation.2.ext ∧
      ∀ tenant, o.unmarshalTenantData data = .ok tenant → o.NoFailures tenant →
        Function.Injective o.encodeToString → FreshIDs o s.ext tenant.schemaName →
        Completes resp ((o.handleCreateTenant data resp).run false invocation.2).1) := by
  refine ⟨?_, fun hcomplete => ?_, fun hs => ⟨handleCreateTenant_wellFormed hs, ?_⟩⟩
  · by_cases hfinished : ∃ tenant s₁, o.Finished data s tenant s₁
    · obtain ⟨tenant, s₁, hfinished⟩ := hfinished
      rw [handleCreateTenant_finished hfinished, finalAnswer_answered]
      refine not_congr ⟨fun h => ⟨tenant, s₁, hfinished, h⟩, ?_⟩
      rintro ⟨tenant', s₁', hfinished', h⟩
      obtain ⟨rfl, rfl⟩ := hfinished.unique hfinished'
      exact h
    · simp only [not_exists] at hfinished
      obtain ⟨resp', a, hr, ha, -⟩ : Incomplete resp _ := handleCreateTenant_unfinished hfinished
      refine ⟨?_, fun _ => ⟨resp', a, hr, ha⟩⟩
      rintro - ⟨tenant, s₁, h, -⟩
      exact hfinished tenant s₁ h
  · by_cases hfinished : ∃ tenant s₁, o.Finished data s tenant s₁
    · obtain ⟨tenant, s₁, hfinished⟩ := hfinished
      rw [handleCreateTenant_finished hfinished] at hcomplete
      exact ⟨tenant, _, hfinished.1, hfinished.provisioned, finalAnswer_completes hcomplete⟩
    · simp only [not_exists] at hfinished
      obtain ⟨resp', a, hr, ha, hne⟩ : Incomplete resp _ := handleCreateTenant_unfinished hfinished
      obtain ⟨resp'', hr', ha'⟩ := hcomplete
      rw [hr] at hr'
      cases hr'
      rw [ha] at ha'
      exact absurd (List.cons.inj (List.append_cancel_left ha')).1 hne
  · intro tenant hdata hok hinj hfresh
    exact handleCreateTenant_completes hok hdata (handleCreateTenant_creates hok hinj hdata hs hfresh)

end TenantOperator

namespace Sample

def decliningOperator : TenantOperator where
  db := { fault := fun _ => none, commit := fun _ => none, repo := fun _ => repo, migrate := fun _ => none }
  gm := ⟨repo, ⟨repo⟩, none⟩
  encodeToString := id
  validTenantRoles := []
  validTenantStatuses := []
  newUUID n := BitVec.ofNat 128 n
  setTenantUserGroups _ _ _ := .ok false

def tenantRow : TenantRow := ⟨"acme", "Acme", "STATUS_ACTIVE", "", "", .live, "_acme", "_acme"⟩

def provisionedDb : Db :=
  { Db.empty with groups := (((Table.empty.insert? (defaultGroup "acme" tenantAdminGroup .tenantAdmin 1)).getD
      .empty).insert? (defaultGroup "acme" tenantAuditorGroup .tenantAuditor 2)).getD .empty }

def provisionedCluster : St Catalogue Cluster :=
  ⟨⟨(Table.empty.insert? tenantRow).getD .empty⟩,
    ⟨update (fun _ => none) "_acme" (some provisionedDb), world⟩, 0, []⟩

end Sample

theorem createTenant_panics :
    ((Sample.decliningOperator.handleCreateTenant (.ok ⟨"acme", "", "", "Acme", .live⟩)
      { workingState := some [] }).run false Sample.provisionedCluster).1 = .error .panic := by
  decide +kernel

end Cmk
