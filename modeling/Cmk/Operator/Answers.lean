import Cmk.Operator.Provision

/-!
# Cmk.Operator.Answers

What `handleCreateTenant` answers.

* `Calls`                         — no part of the handler panics but the last one.
* `handleCreateTenant_unfinished` — while something is missing it answers once, and not with Complete.
* `handleCreateTenant_finished`   — when nothing is missing the reply of the registry decides.
* `TenantProvisioned`                   — what the probe has found when nothing is missing.
-/

namespace Cmk

open Tx Option Connections Prog Function Repo

variable {e : Exn} {c : Connections}

theorem Exn.wrap_ne_panic (s : Sentinel) (he : e ≠ .panic) : e.wrap s ≠ .panic := by
  cases e with
  | err e => exact fun h => by cases h
  | panic => exact absurd rfl he

theorem Calls.tryErr {D X α : Type} {p : Prog D X Exn α} (hp : Calls p) : Calls (tryErr p) := by
  refine fun i s e he => ?_
  unfold Cmk.tryErr at he
  rw [run_bind, run_attempt] at he
  cases hr : (p.run i s).1 with
  | ok a =>
    rw [hr] at he
    cases he
  | error e' =>
    rw [hr] at he
    cases e' with
    | err e' => cases he
    | panic => exact absurd rfl (hp i s _ hr)

theorem Ctx.extractTenantID_ne_panic {ctx : Ctx} (h : ctx.extractTenantID = .error e) :
    e ≠ .panic := by
  unfold Ctx.extractTenantID at h
  split at h
  · cases h
    exact fun h => by cases h
  · cases h

namespace Repo

variable {r : Repo} {ctx : Ctx} {α : Type} {onFault : Exn → Exn}

theorem outside_ne_panic (he : e ≠ .panic) : outside ctx e ≠ .panic := by
  unfold outside
  cases ctx.inTx with
  | true => exact he
  | false => exact e.wrap_ne_panic _ he

theorem mapError_outside_ne_panic {x : Except Exn α} (hx : ∀ e, x = .error e → e ≠ .panic)
    (h : x.mapError (outside ctx) = .error e) : e ≠ .panic := by
  cases x with
  | ok a => cases h
  | error e' =>
    cases h
    exact outside_ne_panic (hx e' rfl)

theorem query_calls {f : Nat → Db → Except Exn α} (hfault : ∀ e, onFault (.err e) ≠ .panic)
    (hf : ∀ n d e, f n d = .error e → e ≠ .panic) :
    Calls (liftM (r.query ctx onFault f) : M α) := by
  refine .query fun d n e he => ?_
  simp only [query, Query.eval_ask] at he
  cases ht : ctx.extractTenantID with
  | error e' =>
    rw [ht] at he
    cases he
    exact Exn.wrap_ne_panic _ (Ctx.extractTenantID_ne_panic ht)
  | ok t =>
    rw [ht] at he
    cases hn : r.fault n with
    | some e' =>
      simp only [hn] at he
      cases he
      exact outside_ne_panic (hfault e')
    | none =>
      simp only [hn] at he
      exact mapError_outside_ne_panic (hf n d) he

theorem exec_calls {f : Nat → Db → Except Exn α × Db} (hfault : ∀ e, onFault (.err e) ≠ .panic)
    (hf : ∀ n d e, (f n d).1 = .error e → e ≠ .panic) : Calls (r.exec ctx onFault f) := by
  refine .exec fun n d e he => ?_
  cases ht : ctx.extractTenantID with
  | error e' =>
    rw [ht] at he
    cases he
    exact Exn.wrap_ne_panic _ (Ctx.extractTenantID_ne_panic ht)
  | ok t =>
    rw [ht] at he
    cases hn : r.fault n with
    | some e' =>
      simp only [hn] at he
      cases he
      exact outside_ne_panic (hfault e')
    | none =>
      simp only [hn] at he
      exact mapError_outside_ne_panic (hf n d) he

theorem transaction_calls {txFunc : Ctx → M α} (h : ∀ ctx, Calls (txFunc ctx)) :
    Calls (r.transaction ctx txFunc) := by
  cases hin : ctx.inTx with
  | true =>
    rw [transaction_inTx hin]
    exact h ctx
  | false =>
    rw [transaction_outermost hin]
    refine Calls.wrap (.transact (h _) fun n e he => ?_)
    cases hc : r.commit n with
    | none =>
      rw [hc] at he
      cases he
    | some e' =>
      rw [hc] at he
      cases he
      exact fun h => by cases h

theorem firstGroupByName_calls (name : String) : Calls (liftM (r.firstGroupByName ctx name) : M Group) := by
  refine query_calls (fun e h => by cases h) fun n d e he => ?_
  split at he
  · cases he
  · cases he
    exact fun h => by cases h

theorem createGroup_calls (g : Group) : Calls (r.createGroup ctx g) := by
  refine exec_calls (fun e h => by cases h) fun n d e he => ?_
  simp only at he
  split at he
  · cases he
    exact fun h => by cases h
  · split at he
    · cases he
      exact fun h => by cases h
    · split at he
      · cases he
        exact fun h => by cases h
      · cases he

end Repo

theorem onboardingError_ne_panic (s : Sentinel) (he : e ≠ .panic) :
    onboardingError s e ≠ .panic := by
  cases e with
  | err e => exact fun h => by cases h
  | panic => exact absurd rfl he

theorem Calls.onboarding {D X α : Type} {p : Prog D X Exn α} {s : Sentinel} (hp : Calls p) :
    Calls (p.mapError (onboardingError s)) :=
  .mapError fun i st e he => onboardingError_ne_panic s (hp i st e he)

theorem GroupManager.createDefaultGroups_calls {m : GroupManager} {newUUID : Nat → UUID} {ctx : Ctx} :
    Calls (m.createDefaultGroups newUUID ctx) := by
  have hgroup : ∀ ctx g, Calls (m.createGroup ctx g) := by
    intro ctx g
    simp only [GroupManager.createGroup, throw_bind]
    exact .ite (.throw (fun h => by cases h)) (createGroup_calls g).wrap
  have hdefault : ∀ ctx tenantID name role,
      Calls (m.createDefaultGroup newUUID ctx tenantID name role) := fun ctx tenantID name role =>
    .bind (.query fun d n e he => by cases he) fun id => (hgroup _ _).onboarding
  unfold GroupManager.createDefaultGroups
  refine .bind (fun i s e he => ?_) fun tenantID =>
    transaction_calls fun ctx => .bind (hdefault _ _ _ _) fun _ => hdefault _ _ _ _
  cases ht : ctx.extractTenantID with
  | error e' =>
    rw [ht] at he
    cases he
    exact Exn.wrap_ne_panic _ (Ctx.extractTenantID_ne_panic ht)
  | ok t =>
    rw [ht] at he
    cases he

theorem Connections.inSchema_calls {α : Type} {tenantID : String} {p : Repo → Ctx → M α}
    (hp : ∀ r ctx, Calls (p r ctx)) : Calls (c.inSchema tenantID p) :=
  .call fun _ _ _ _ he => hp _ _ _ _ _ he

theorem Connections.transaction_calls {α : Type} {p : OpM α} (hp : Calls p) :
    Calls (c.transaction p) := by
  refine Calls.wrap (.transact hp fun n e he => ?_)
  cases hc : c.commit n with
  | none =>
    rw [hc] at he
    cases he
  | some e' =>
    rw [hc] at he
    cases he
    exact fun h => by cases h

theorem Connections.createTenantRow_calls {tenant : TenantRow} :
    Calls (c.createTenantRow tenant) := by
  refine .exec fun n d e he => ?_
  simp only at he
  split at he
  · cases he
    exact fun h => by cases h
  · split at he
    · cases he
      exact fun h => by cases h
    · split at he
      · cases he
        exact fun h => by cases h
      · cases he

namespace TenantOperator

variable {o : TenantOperator} {tenant : TenantRow}

theorem schemaExists_calls (schemaName : String) : Calls (o.schemaExists schemaName) := by
  refine .query fun d n e he => ?_
  rw [Query.eval_ask] at he
  cases hn : o.db.fault n with
  | some e' =>
    simp only [hn] at he
    cases he
    exact fun h => by cases h
  | none =>
    simp only [hn] at he
    cases he

theorem groupExists_calls (groupType tenantID : String) : Calls (o.groupExists groupType tenantID) := by
  refine .bind (inSchema_calls fun r ctx => firstGroupByName_calls _).tryErr
    fun res => ?_
  cases res with
  | ok g => exact .pure _
  | error e => exact .ite (.pure _) (.throw (fun h => by cases h))

theorem check_calls : Calls (o.check tenant) := by
  refine .bind (schemaExists_calls _).tryErr fun res => ?_
  rcases res with e | (_ | _)
  · exact .ite (.pure _) (.throw (fun h => by cases h))
  · exact .pure _
  · refine .bind (.bind (groupExists_calls _ _) fun _ => .bind (groupExists_calls _ _) fun _ => ?_)
      fun _ => .pure _
    exact .pure _

theorem createTenant_calls : Calls (o.createTenant tenant) := by
  unfold createTenant
  split
  · exact .throw (fun h => by cases h)
  · exact .throw (fun h => by cases h)
  · refine transaction_calls (.bind (Calls.onboarding createTenantRow_calls) fun _ => ?_)
    refine .call fun n d x e he => ?_
    split at he
    · cases he
      exact fun h => by cases h
    · cases he

theorem unlessInProgress_calls {p : OpM Unit} (hp : Calls p) : Calls (unlessInProgress p) := by
  refine .bind hp.tryErr fun res => ?_
  cases res with
  | ok u => exact .pure _
  | error e => exact .ite (.pure _) (.throw (fun h => by cases h))

theorem createTenantSchema_calls : Calls (o.createTenantSchema tenant) :=
  unlessInProgress_calls createTenant_calls

theorem createTenantGroups_calls : Calls (o.createTenantGroups tenant) :=
  unlessInProgress_calls (inSchema_calls fun _ _ => GroupManager.createDefaultGroups_calls)

theorem sendTenantUserGroupsToRegistry_calls (tenantID : String) :
    Calls (o.sendTenantUserGroupsToRegistry tenantID) := by
  refine .call fun n d x e he => ?_
  simp only at he
  generalize o.setTenantUserGroups n tenantID _ = reply at he
  cases reply with
  | ok b => cases he
  | error e' =>
    cases he
    exact fun h => by cases h

section

variable {data : Except Err TenantProto} {resp : HandlerResponse} {s s₁ : St Catalogue Cluster}

/-- The probe finds the tenant of the task data provisioned, and ends in `s₁`. -/
def Finished (o : TenantOperator) (data : Except Err TenantProto) (s : St Catalogue Cluster)
    (tenant : TenantRow) (s₁ : St Catalogue Cluster) : Prop :=
  o.unmarshalTenantData data = .ok tenant ∧
    ∃ result, (o.check tenant).run false s = (.ok result, s₁) ∧ isProvisioningComplete result = true

theorem Finished.unique {tenant' : TenantRow} {s₁' : St Catalogue Cluster}
    (h : o.Finished data s tenant s₁) (h' : o.Finished data s tenant' s₁') :
    tenant' = tenant ∧ s₁' = s₁ := by
  obtain ⟨hdata, result, hrun, -⟩ := h
  obtain ⟨hdata', result', hrun', -⟩ := h'
  rw [hdata] at hdata'
  cases hdata'
  rw [hrun] at hrun'
  cases hrun'
  exact ⟨rfl, rfl⟩

def Incomplete (resp : HandlerResponse) (r : Except Exn HandlerResponse) : Prop :=
  ∃ resp' a, r = .ok resp' ∧ resp'.answers = resp.answers ++ [a] ∧ a ≠ .complete

theorem incomplete_continue (e : Err) (state : String) :
    Incomplete resp (resp.setErrorStateAndContinue (some e) state) := by
  obtain ⟨ws, h⟩ := resp.setErrorStateAndContinue_some e state
  exact ⟨_, _, h, rfl, fun h => by cases h⟩

theorem incomplete_fail (e : Err) (state : String) :
    Incomplete resp (resp.setErrorStateAndFail (some e) state) := by
  obtain ⟨ws, h⟩ := resp.setErrorStateAndFail_some e state
  exact ⟨_, _, h, rfl, fun h => by cases h⟩

theorem incomplete_setErrorState (e : Err) (state : String) :
    Incomplete resp (resp.setErrorState e state) := by
  obtain ⟨ws, a, ha, h⟩ := resp.setErrorState_some e state
  exact ⟨_, a, h, rfl, ha⟩

theorem wp_pendingStep {pending : Bool} {step : OpM Unit} {state : String} {next : OpM HandlerResponse}
    (hstep : Calls step) (hnext : ∀ s, next.wp false (fun r _ => Incomplete resp r) s) :
    (pendingStep pending step resp state next).wp false (fun r _ => Incomplete resp r) s := by
  unfold pendingStep
  cases pending with
  | false => exact hnext s
  | true =>
    exact wp_tryErr_bind hstep (fun e s₁ _ => incomplete_setErrorState e state) fun _ s₁ _ => hnext s₁

/-- While something is missing, or cannot be looked up, the handler answers once and the task is not
complete. -/
theorem handleCreateTenant_unfinished (h : ∀ tenant s₁, ¬ o.Finished data s tenant s₁) :
    (o.handleCreateTenant data resp).wp false (fun r _ => Incomplete resp r) s := by
  unfold handleCreateTenant
  cases hdata : o.unmarshalTenantData data with
  | error e => exact incomplete_fail _ _
  | ok tenant =>
    refine wp_tryErr_bind check_calls (fun e s₁ _ => incomplete_continue e _) fun result s₁ hrun => ?_
    have hmissing : isProvisioningComplete result = false :=
      Bool.eq_false_iff.2 fun hc => h tenant s₁ ⟨hdata, result, hrun, hc⟩
    simp only [hmissing, Bool.false_eq_true, if_false]
    exact wp_pendingStep createTenantSchema_calls fun s₂ =>
      wp_pendingStep createTenantGroups_calls fun s₃ => ⟨_, _, rfl, rfl, fun h => by cases h⟩

def finalAnswer (o : TenantOperator) (tenantID : String) (n : Nat) (resp : HandlerResponse) :
    Except Exn HandlerResponse :=
  match o.setTenantUserGroups n tenantID
      [newIAMIdentifier tenantAdminGroup tenantID, newIAMIdentifier tenantAuditorGroup tenantID] with
  | .error e => resp.setErrorStateAndContinue (some e) "failed to send groups to registry"
  | .ok false => resp.setErrorStateAndContinue none "failed to send groups to registry"
  | .ok true => .ok ((resp.useRawWorkingState "tenant created successfully").answer .complete)

theorem handleCreateTenant_finished (h : o.Finished data s tenant s₁) :
    ((o.handleCreateTenant data resp).run false s).1 = o.finalAnswer tenant.id s₁.clock resp := by
  obtain ⟨hdata, result, hrun, hcomplete⟩ := h
  have hwp : (o.handleCreateTenant data resp).wp false
      (fun r _ => r = o.finalAnswer tenant.id s₁.clock resp) s := by
    unfold handleCreateTenant
    rw [hdata]
    refine wp_tryErr_bind check_calls (fun e s₂ hrun' => ?_) fun result' s₂ hrun' => ?_
    · rw [hrun] at hrun'
      cases hrun'
    · rw [hrun] at hrun'
      cases hrun'
      simp only [hcomplete, if_true]
      refine wp_tryErr_bind (sendTenantUserGroupsToRegistry_calls _) (fun e s₂ hsend => ?_)
        fun success s₂ hsend => ?_
      all_goals
        simp only [sendTenantUserGroupsToRegistry, run_call, Prod.mk.injEq] at hsend
        unfold finalAnswer
        generalize o.setTenantUserGroups s₁.clock tenant.id _ = reply at hsend ⊢
      · rcases reply with e' | b
        · cases hsend.1
          rfl
        · cases hsend.1
      · rcases reply with e' | (_ | _)
        · cases hsend.1
        · cases hsend.1
          rfl
        · cases hsend.1
          rfl
  exact hwp

end

end TenantOperator

def tablesOf (d : Catalogue) (x : Cluster) (tenantID : String) : Option (String × Db) :=
  (d.tenants.get? tenantID).bind fun row => (x.schemas row.schemaName).map (row.schemaName, ·)

/-- There is a group with the name in the schema of the tenant. -/
def HasGroup (d : Catalogue) (x : Cluster) (tenantID name : String) : Prop :=
  ∃ schema db, tablesOf d x tenantID = some (schema, db) ∧ ∃ g ∈ db.groups.rows, g.name = name

/-- The schema of the tenant and its default groups exist. -/
structure TenantProvisioned (d : Catalogue) (x : Cluster) (tenant : TenantRow) : Prop where
  schema : ∃ row ∈ d.tenants.rows, row.schemaName = tenant.schemaName
  admin : HasGroup d x tenant.id tenantAdminGroup
  auditor : HasGroup d x tenant.id tenantAuditorGroup

namespace Connections

variable {c : Connections} {n : Nat} {tenantID : String} {d : Catalogue} {x : Cluster}

theorem connect_tables : (c.connect n tenantID d x).2 = tablesOf d x tenantID := by
  unfold connect tablesOf
  cases d.tenants.get? tenantID with
  | none => rfl
  | some row =>
    cases h : x.schemas row.schemaName with
    | none => simp [h]
    | some db => simp [h]

theorem connect_of_tables {p : String × Db} (h : tablesOf d x tenantID = some p) :
    c.connect n tenantID d x = (c.repo n, some p) := by
  unfold connect
  unfold tablesOf at h
  cases hrow : d.tenants.get? tenantID with
  | none =>
    rw [hrow] at h
    cases h
  | some row =>
    rw [hrow] at h
    simp only [bind_some] at h
    cases hs : x.schemas row.schemaName with
    | none =>
      rw [hs] at h
      cases h
    | some db =>
      rw [hs] at h
      cases h
      simp [hs]

theorem schemas_of_tables {schema : String} {db : Db} (h : tablesOf d x tenantID = some (schema, db)) :
    x.schemas schema = some db := by
  unfold tablesOf at h
  obtain ⟨row, hrow, hs⟩ := bind_eq_some_iff.1 h
  obtain ⟨db', hdb, he⟩ := map_eq_some_iff.1 hs
  cases he
  exact hdb

theorem tablesOf_update {schema : String} {db db' : Db} {world : World}
    (h : tablesOf d x tenantID = some (schema, db)) :
    tablesOf d { schemas := update x.schemas schema (some db'), world := world } tenantID =
      some (schema, db') := by
  unfold tablesOf at h ⊢
  obtain ⟨row, hrow, hs⟩ := bind_eq_some_iff.1 h
  obtain ⟨db0, -, he⟩ := map_eq_some_iff.1 hs
  cases he
  simp only [hrow, bind_some, update_self, map_some]

theorem run_inSchema_query {α : Type} {q : Repo → Ctx → Q α} {i : Bool} {s : St Catalogue Cluster} :
    (c.inSchema tenantID fun r ctx => liftM (q r ctx)).run i s =
      (((q (c.connect s.clock tenantID s.db s.ext).1 (tenantContext tenantID)).eval
        (((tablesOf s.db s.ext tenantID).map Prod.snd).getD .empty) 0).1,
        { s with clock := s.clock + 1 }) := by
  unfold inSchema
  simp only [run_call, run_lift, connect_tables]
  refine Prod.ext rfl ?_
  cases htables : tablesOf s.db s.ext tenantID with
  | none => rfl
  | some p =>
    obtain ⟨schema, db⟩ := p
    have hs := schemas_of_tables htables
    simp only [map_some, getD_some]
    rw [← hs, update_eq_self]

end Connections

namespace TenantOperator

variable {o : TenantOperator} {tenant : TenantRow} {i : Bool} {s s₁ : St Catalogue Cluster}

theorem wp_groupExists (groupType tenantID : String) :
    (o.groupExists groupType tenantID).wp i (fun r s' => s' = { s with clock := s.clock + 1 } ∧
      (r = .ok true → HasGroup s.db s.ext tenantID groupType)) s := by
  refine wp_tryErr_bind (inSchema_calls fun r ctx => firstGroupByName_calls _)
    (fun e s₁ hrun => ?_) fun g s₁ hrun => ?_
  all_goals
    rw [run_inSchema_query, Prod.mk.injEq] at hrun
    obtain ⟨hfirst, rfl⟩ := hrun
  · simp only
    split
    · exact ⟨rfl, fun h => by cases h⟩
    · exact ⟨rfl, fun h => by cases h⟩
  · refine ⟨rfl, fun _ => ?_⟩
    obtain ⟨hfind, -⟩ := eval_first_ok (Prod.ext hfirst rfl)
    cases htables : tablesOf s.db s.ext tenantID with
    | none =>
      rw [htables] at hfind
      cases hfind
    | some p =>
      rw [htables] at hfind
      exact ⟨p.1, p.2, htables, g, List.mem_of_find?_eq_some hfind,
        by simpa using List.find?_some hfind⟩

theorem wp_check : (o.check tenant).wp i (fun r s' => s'.db = s.db ∧ s'.ext = s.ext ∧
    ∀ result, r = .ok result → isProvisioningComplete result = true →
      TenantProvisioned s.db s.ext tenant) s := by
  have hmissing : isProvisioningComplete ⟨.schemaNotFound, .groupsNotFound⟩ = false := rfl
  refine wp_tryErr_bind (schemaExists_calls _) (fun e s₁ hrun => ?_) fun exists_ s₁ hrun => ?_
  all_goals
    simp only [schemaExists, run_lift, Prod.mk.injEq] at hrun
    obtain ⟨hschema, rfl⟩ := hrun
  · simp only
    split
    · refine ⟨rfl, rfl, fun result hr hc => ?_⟩
      cases hr
      rw [hmissing] at hc
      cases hc
    · exact ⟨rfl, rfl, fun _ h => by cases h⟩
  cases exists_ with
  | false =>
    refine ⟨rfl, rfl, fun result hr hc => ?_⟩
    cases hr
    rw [hmissing] at hc
    cases hc
  | true =>
    have hrow : ∃ row ∈ s.db.tenants.rows, row.schemaName = tenant.schemaName := by
      rw [Query.eval_ask] at hschema
      simp only at hschema
      split at hschema
      · cases hschema
      · simpa using hschema
    refine wp_bind (wp_bind (wp_mono (wp_groupExists _ _) fun r₁ s₁ h₁ => ?_))
    obtain ⟨rfl, hadmin⟩ := h₁
    cases r₁ with
    | error e => exact ⟨rfl, rfl, fun _ h => by cases h⟩
    | ok adminExists =>
      refine wp_bind (wp_mono (wp_groupExists _ _) fun r₂ s₂ h₂ => ?_)
      obtain ⟨rfl, hauditor⟩ := h₂
      cases r₂ with
      | error e => exact ⟨rfl, rfl, fun _ h => by cases h⟩
      | ok auditorExists =>
        refine ⟨rfl, rfl, fun result hr hc => ?_⟩
        cases hr
        cases adminExists <;> cases auditorExists <;> cases hc
        exact ⟨hrow, hadmin rfl, hauditor rfl⟩

theorem Finished.provisioned {data : Except Err TenantProto} (h : o.Finished data s tenant s₁) :
    TenantProvisioned s.db s.ext tenant := by
  obtain ⟨-, result, hrun, hcomplete⟩ := h
  exact (wp_of_run wp_check hrun).2.2 result rfl hcomplete

end TenantOperator

end Cmk
