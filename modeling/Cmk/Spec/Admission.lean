import Cmk.Spec.Create

/-!
# Cmk.Spec.Admission

When a new workflow passes the checks of `CheckWorkflow`. A status without an ongoing workflow and
without an error detail comes from one of two paths: every check passed (`Admitted`), or workflows
are disabled and none was made.
-/

namespace Cmk

open Tx Prog TenantConfigManager Repo

variable {i : Bool} {c c' : WorkflowConfig} {m m' : Int}

theorem errValue_ok {α : Type} {p : M α} {s s' : State} {a : α}
    (h : (errValue p).run i s = (.ok (.ok a), s')) : p.run i s = (.ok a, s') := by
  obtain ⟨r, s1, hp, h⟩ := run_bind_ok h
  rw [run_attempt] at hp
  cases hr : p.run i s with
  | mk res s2 =>
    rw [hr] at hp
    cases hp
    rcases res with (e | _) | a' <;> cases h
    rfl

theorem errValue_error {α : Type} {p : M α} {s s' : State} {e : Err}
    (h : (errValue p).run i s = (.ok (.error e), s')) : p.run i s = (.error (.err e), s') := by
  obtain ⟨r, s1, hp, h⟩ := run_bind_ok h
  rw [run_attempt] at hp
  cases hr : p.run i s with
  | mk res s2 =>
    rw [hr] at hp
    cases hp
    rcases res with (e' | _) | a' <;> cases h
    rfl

structure WorkflowConfig.Valid (c : WorkflowConfig) : Prop where
  retention : 30 ≤ c.retentionPeriodDays
  expiry : c.defaultExpiryPeriodDays ≤ c.maxExpiryPeriodDays
  approvals : 2 ≤ c.minimumApprovals

namespace TenantConfigManager

variable {m : TenantConfigManager} {ctx : Ctx} {s s' : State} {i : Bool} {c : WorkflowConfig}

/-- The configuration of a tenant: the stored one, or the default of its role. -/
def effectiveConfig (m : TenantConfigManager) (ctx : Ctx) (d : Db) : Option WorkflowConfig :=
  d.workflowConfig <|>
    (d.tenants.get? ctx.tenant).map fun t => m.getDefaultWorkflowConfig (t.role = .live)

/-- What a call that reads or stores a configuration leaves in the store. -/
inductive Obtained (d d' : Db) : Except Exn WorkflowConfig → Prop where
  | stored {c : WorkflowConfig} : d.workflowConfig = some c → d' = d → Obtained d d' (.ok c)
  | default {c : WorkflowConfig} : d.workflowConfig = none → 2 ≤ c.minimumApprovals →
      d' = { d with workflowConfig := some c } → Obtained d d' (.ok c)
  | failed {e : Exn} : d' = d → Obtained d d' (.error e)

/-- A configuration is refused, or it passes the checks and is stored. -/
inductive Stores (c : WorkflowConfig) (d d' : Db) : Except Exn WorkflowConfig → Prop where
  | refused {e : Exn} : d' = d → Stores c d d' (.error e)
  | stored : c.Valid → d' = { d with workflowConfig := some c } → Stores c d d' (.ok c)

theorem wp_storeWorkflowConfig :
    (m.storeWorkflowConfig ctx c).wp i (fun r s' => Stores c s.db s'.db r) s := by
  simp only [storeWorkflowConfig, throw_bind]
  split
  · exact .refused rfl
  split
  · exact .refused rfl
  split
  · exact .refused rfl
  rename_i hretention hexpiry hmin
  have hset : ((m.repo.setWorkflowConfig ctx c).mapError (.wrap .errSetWorkflowConfig)).wp i
      (fun r s' => Stores c s.db s'.db (r.map fun _ => c)) s :=
    wp_mapError (wp_exec_db
      (P := fun r d => Stores c s.db d ((r.mapError (.wrap .errSetWorkflowConfig)).map fun _ => c))
      (fun e => .refused rfl) (.stored ⟨by omega, by omega, by omega⟩ rfl))
  refine wp_bind (wp_mono hset fun r s' h => ?_)
  cases r with
  | error e => exact h
  | ok u => exact h

theorem Stores.obtained {d d' : Db} {r : Except Exn WorkflowConfig} (h : d.workflowConfig = none)
    (hs : Stores c d d' r) : Obtained d d' r ∧ ∀ c', r = .ok c' → c' = c := by
  cases hs with
  | refused hd => exact ⟨.failed hd, fun _ h => by cases h⟩
  | stored hc hd => exact ⟨.default h hc.approvals hd, fun _ h => (Except.ok.inj h).symm⟩

theorem getTenant_ok {r : Repo} {d : Db} {n k : Nat} {t : Tenant}
    (h : (r.getTenant ctx).eval d n = (.ok t, k)) :
    ctx.tenant ≠ "" ∧ d.tenants.get? ctx.tenant = some t := by
  obtain ⟨tenantID, n1, hid, h⟩ := eval_bind_ok h
  have hfirst := eval_mapError_ok h
  have htenant : ctx.tenant ≠ "" := eval_query_tenant hfirst
  rw [Query.eval_except, Ctx.extractTenantID, if_neg htenant] at hid
  cases hid
  exact ⟨htenant, (eval_first_ok hfirst).1⟩

theorem getWorkflowConfig_obtained :
    (m.getWorkflowConfig ctx).wp i (fun r s' => Obtained s.db s'.db r ∧
      ∀ c, r = .ok c → ctx.tenant ≠ "" ∧ m.effectiveConfig ctx s.db = some c) s := by
  refine wp_query_attempt_bind fun r n hr => ?_
  cases r with
  | ok c =>
    have hc := (eval_first_ok hr).1
    refine ⟨.stored hc rfl, fun c' hc' => ?_⟩
    cases hc'
    exact ⟨eval_query_tenant hr, by rw [effectiveConfig, hc]; rfl⟩
  | error e =>
    simp only
    split
    · rename_i hnot
      have hnone : s.db.workflowConfig = none := by
        cases hc : s.db.workflowConfig with
        | none => rfl
        | some c => rw [eval_first_error hc hr] at hnot; cases hnot
      refine wp_query_bind (fun e n _ => ⟨.failed rfl, fun _ h => (nomatch h)⟩) fun t n' ht => ?_
      obtain ⟨htenant, hget⟩ := getTenant_ok ht
      refine wp_mono (wp_storeWorkflowConfig (s := { s with clock := n' }))
        fun r s' hs => ?_
      have h := hs.obtained hnone
      refine ⟨h.1, fun c hc => ⟨htenant, ?_⟩⟩
      rw [effectiveConfig, hnone, hget, h.2 c hc]
      rfl
    · exact ⟨.failed rfl, fun _ h => (nomatch h)⟩

theorem getWorkflowConfig_effective {r : Except Exn WorkflowConfig}
    (h : (m.getWorkflowConfig ctx).run i s = (r, s')) :
    m.effectiveConfig ctx s'.db = m.effectiveConfig ctx s.db := by
  obtain ⟨hob, hok⟩ := wp_of_run getWorkflowConfig_obtained h
  cases hob with
  | stored _ hd => rw [hd]
  | failed hd => rw [hd]
  | default _ _ hd =>
    rw [(hok _ rfl).2, hd]
    rfl

theorem getWorkflowConfig_of_stored (hfault : ∀ n, m.repo.fault n = none) (htenant : ctx.tenant ≠ "")
    (h : s.db.workflowConfig = some c) :
    (m.getWorkflowConfig ctx).run i s = (.ok c, { s with clock := s.clock + 1 }) := by
  have hfirst : (m.repo.firstWorkflowConfig ctx).eval s.db s.clock = (.ok c, s.clock + 1) := by
    rw [firstWorkflowConfig, first, eval_query htenant (hfault _), h]
    rfl
  rw [getWorkflowConfig, run_bind, run_lift, Query.eval_attempt, hfirst]
  rfl

end TenantConfigManager

namespace WorkflowManager

variable {w : WorkflowManager} {ctx : Ctx} {wf : Workflow} {s s' : State}

theorem workflowConfig_obtained (h : (w.workflowConfig ctx).run i s = (.ok c, s')) :
    TenantConfigManager.Obtained s.db s'.db (.ok c) ∧ ctx.tenant ≠ "" ∧
      w.tenantConfigManager.effectiveConfig ctx s.db = some c := by
  obtain ⟨hob, hok⟩ := wp_of_run getWorkflowConfig_obtained
    (run_mapError_ok h)
  exact ⟨hob, hok c rfl⟩

theorem getMinimumApprovals_run (h : (w.getMinimumApprovals ctx).run i s = (.ok m, s')) :
    ∃ r, (w.tenantConfigManager.getWorkflowConfig ctx).run i s = (r, s') ∧
      ((∃ c, r = .ok c ∧ m = if 0 < c.minimumApprovals then c.minimumApprovals else 2) ∨
        ∃ e, r = .error e ∧ m = 2) := by
  obtain ⟨r, s1, hr, h⟩ := run_bind_ok h
  cases r with
  | ok c => cases h; exact ⟨_, errValue_ok hr, .inl ⟨c, rfl, rfl⟩⟩
  | error e => cases h; exact ⟨_, errValue_error hr, .inr ⟨_, rfl, rfl⟩⟩

theorem getMinimumApprovals_pos (h : (w.getMinimumApprovals ctx).run i s = (.ok m, s')) :
    1 ≤ m := by
  obtain ⟨r, -, ⟨c, -, rfl⟩ | ⟨e, -, rfl⟩⟩ := getMinimumApprovals_run h
  · split <;> omega
  · decide

theorem workflowConfig_stored (hc : s.db.workflowConfig = some c)
    (h : (w.workflowConfig ctx).run i s = (.ok c', s')) : c' = c ∧ s'.db = s.db := by
  cases (workflowConfig_obtained h).1 with
  | stored hc' hd => exact ⟨Option.some.inj (hc'.symm.trans hc), hd⟩
  | default hnone => rw [hc] at hnone; cases hnone

theorem getMinimumApprovals_stored (hc : s.db.workflowConfig = some c)
    (h : (w.getMinimumApprovals ctx).run i s = (.ok m, s')) :
    s'.db = s.db := by
  obtain ⟨r, hr, -⟩ := getMinimumApprovals_run h
  cases (wp_of_run getWorkflowConfig_obtained hr).1 with
  | stored _ hd => exact hd
  | default hnone => rw [hc] at hnone; cases hnone
  | failed hd => exact hd

/-- If no statement of the configuration is refused, a later minimum is not below an earlier one. -/
theorem getMinimumApprovals_le {s1 s2 s3 s4 : State}
    (hfault : ∀ n, w.tenantConfigManager.repo.fault n = none)
    (h : (w.getMinimumApprovals ctx).run false s = (.ok m, s1))
    (hcfg : (w.workflowConfig ctx).run false s1 = (.ok c, s2))
    (hsame : s3.db.workflowConfig = s2.db.workflowConfig)
    (h' : (w.getMinimumApprovals ctx).run false s3 = (.ok m', s4)) : m ≤ m' := by
  obtain ⟨hob, htenant, -⟩ := workflowConfig_obtained hcfg
  have hc3 : s3.db.workflowConfig = some c := by
    rw [hsame]
    cases hob with
    | stored hc hd => rw [hd, hc]
    | default _ _ hd => rw [hd]
  have hm' : m' = if 0 < c.minimumApprovals then c.minimumApprovals else 2 := by
    obtain ⟨r, hr, hres⟩ := getMinimumApprovals_run h'
    rw [getWorkflowConfig_of_stored hfault htenant hc3] at hr
    obtain ⟨rfl, -⟩ := Prod.mk.inj hr
    rcases hres with ⟨c', hc', rfl⟩ | ⟨e, he, -⟩
    · cases hc'; rfl
    · cases he
  obtain ⟨r, hr, hres⟩ := getMinimumApprovals_run h
  have hob1 := (wp_of_run getWorkflowConfig_obtained hr).1
  rcases hres with ⟨c1, rfl, rfl⟩ | ⟨e, rfl, rfl⟩
  · -- the first read found a configuration, which is the one found later
    have hc1 : s1.db.workflowConfig = some c1 := by
      cases hob1 with
      | stored hc hd => rw [hd, hc]
      | default _ _ hd => rw [hd]
    rw [(workflowConfig_stored hc1 hcfg).1] at hm'
    exact hm'.ge
  · -- the first read failed, so nothing was stored and the later one is a default
    cases hob1 with
    | failed hd =>
      cases hob with
      | stored hc _ =>
        rw [hd] at hc
        rw [getWorkflowConfig_of_stored hfault htenant hc] at hr
        cases hr
      | default _ hmin _ => rw [hm']; split <;> omega

/-- The checks a workflow passed, in the order they are made. -/
structure Admitted (w : WorkflowManager) (ctx : Ctx) (wf : Workflow) (s s' : St Db World) : Prop where
  supported : isSupportedWorkflow wf = true
  path : ∃ s₁ n m s₂, (w.validateWorkflow ctx wf).run false s = (.ok (), s₁) ∧
    (w.checkOngoingWorkflowForArtifact ctx wf).eval s₁.db s₁.clock = (.ok false, n) ∧
    (w.getMinimumApprovals ctx).run false { s₁ with clock := n } = (.ok m, s₂) ∧
    (w.validateApproverCount ctx wf m).run false s₂ = (.ok (), s')

/-- A status that lets a creation go on was reached by passing every check, or because workflows are
disabled. -/
theorem checkWorkflowStatus_pass {enabled : Bool} {status : WorkflowStatus}
    (h : (w.checkWorkflowStatus ctx wf enabled).run false s = (.ok (status, none), s'))
    (hex : status.existing = false) (herr : status.errDetails = none) :
    (enabled = false ∧ status.canCreate = false) ∨
      (enabled = true ∧ status.canCreate = true ∧ Admitted w ctx wf s s') := by
  cases enabled with
  | false => cases h; exact .inl ⟨rfl, rfl⟩
  | true =>
    refine .inr ⟨rfl, ?_⟩
    simp only [checkWorkflowStatus, not_true_eq_false, if_false] at h
    split at h
    · cases h
    · rename_i hsup
      obtain ⟨r, s1, hval, h⟩ := run_bind_ok h
      rcases r with e | _
      · cases h
      · obtain ⟨r, s2, hongoing, h⟩ := run_bind_ok h
        rcases r with e | (_ | _)
        · cases h
        · obtain ⟨m, s3, hmin, h⟩ := run_bind_ok h
          obtain ⟨r, s4, hcount, h⟩ := run_bind_ok h
          rcases r with e | _
          · by_cases hins : e.is .errWorkflowGroupNotSufficientMembers
            · simp only [hins, if_true] at h; cases h; cases herr
            · simp only [hins] at h; cases h
          · cases h
            have hlift := errValue_ok hongoing
            rw [run_lift] at hlift
            obtain ⟨hon, rfl⟩ := Prod.mk.inj hlift
            exact ⟨rfl, by simpa using hsup, s1, _, m, s3, errValue_ok hval, Prod.ext hon rfl, hmin,
              errValue_ok hcount⟩
        · cases h
          cases hex

theorem checkWorkflow_pass {status : WorkflowStatus}
    (h : (w.checkWorkflow ctx wf).run false s = (.ok status, s'))
    (hex : status.existing = false) (herr : status.errDetails = none) :
    ∃ config s1 s2, (w.workflowConfig ctx).run false s = (.ok config, s1) ∧
      (w.checkPermissionToCreateWorkflow ctx wf).run false s1 = (.ok true, s2) ∧
      ((config.enabled = false ∧ status.canCreate = false) ∨
        (config.enabled = true ∧ status.canCreate = true ∧ Admitted w ctx wf s2 s')) := by
  simp only [checkWorkflow, throw_bind] at h
  obtain ⟨config, s1, hcfg, h⟩ := run_bind_ok h
  obtain ⟨allowed, s2, hperm, h⟩ := run_bind_ok h
  split at h
  · cases h
  · rename_i hallowed
    obtain ⟨⟨status0, err⟩, s3, hstatus, h⟩ := run_bind_ok h
    rw [run_except] at h
    obtain ⟨htr, rfl⟩ := Prod.mk.inj h
    refine ⟨config, s1, s2, hcfg, ?_, ?_⟩
    · have hp := run_mapError_ok hperm
      rwa [show allowed = true by simpa using hallowed] at hp
    · -- the transformation adds a detail to every status that stops a creation
      unfold transformCheckWorkflowError at htr
      split at htr
      · cases htr; cases herr
      · cases err with
        | none => cases htr; exact checkWorkflowStatus_pass hstatus hex herr
        | some e =>
          simp only at htr
          split at htr <;> cases htr
          cases herr

theorem Admitted.untouched (h : Admitted w ctx wf s s') : Untouched s.db s'.db := by
  obtain ⟨s1, n, m, s2, hval, -, hmin, hcount⟩ := h.path
  have h1 := ((w.validateWorkflow_syncs ctx wf).run hval).1.toUntouched
  have h2 := ((w.getMinimumApprovals_calm ctx).run hmin).1
  have h3 := ((w.validateApproverCount_syncs ctx wf m).run hcount).1.toUntouched
  exact trans_of Untouched h1 (trans_of Untouched h2 h3)

theorem Admitted.ongoing (h : Admitted w ctx wf s s') :
    ongoing s.db wf.artifactType wf.artifactID = [] := by
  obtain ⟨s1, n, m, s2, hval, hon, -, -⟩ := h.path
  have hw := ((w.validateWorkflow_syncs ctx wf).run hval).1.workflows
  obtain ⟨count, k, hcount, hret⟩ := eval_bind_ok hon
  obtain ⟨hc, -⟩ := eval_count_ok (eval_mapError_ok hcount)
  have hzero : count = 0 := by
    have hlt : decide (0 < count) = false := Except.ok.inj (Prod.mk.inj hret).1
    simpa using hlt
  rw [hc, List.length_eq_zero_iff] at hzero
  rw [← hzero]
  unfold Repo.ongoing
  rw [hw]

end WorkflowManager

end Cmk
