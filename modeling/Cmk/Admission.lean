import Cmk.Calls

/-!
# Cmk.Admission

Which requests `CreateWorkflow` stores. The call looks at two fields of the status that
`CheckWorkflow` returns, `Exists` and `ErrDetails`, and not at `CanCreate`. The checks set one of the
two whenever they refuse a request, with one exception: if workflows are disabled no check is made,
and both stay empty.

* `Admissible`          — what the request had to pass, with `CanCreate` as it was reported.
* `stored_admissible_iff` — a request that was stored is admissible exactly if workflows are enabled.
-/

namespace Cmk

open Tx

namespace WorkflowManager

variable {w : WorkflowManager} {ctx : Ctx} {req wf : Workflow} {s s' : State} {d : Db}

/-- The request as it is checked: a new workflow with the minimum of the tenant. -/
def requested (req : Workflow) (minimum : Int) : Workflow :=
  { req with state := .initial, minimumApprovalCount := minimum }

/-- The users who can approve a request: members of the admin groups other than the initiator. -/
def Approvers (w : WorkflowManager) (ctx : Ctx) (wf : Workflow) (s : St Db World)
    (users : List String) : Prop :=
  ∃ kcs s₁ groups n, (w.getKeyConfigurationsFromArtifact ctx wf).run false s = (.ok kcs, s₁) ∧
    (w.getApproversAndGroupsFromKeyConfigs ctx wf kcs).eval s₁.db s₁.clock = (.ok (users, groups), n) ∧
    users.Nodup ∧ wf.initiatorID ∉ users

/-- What a request has to pass before it is stored as `wf`. The checks are made one after the other,
each on a store in which the workflow component is as it was. -/
structure Admissible (w : WorkflowManager) (ctx : Ctx) (req : Workflow) (s : St Db World)
    (wf : Workflow) : Prop where
  canCreate : ∃ s₁ status s₂,
    (w.getMinimumApprovals ctx).run false s = (.ok wf.minimumApprovalCount, s₁) ∧
    (w.checkWorkflow ctx (requested req wf.minimumApprovalCount)).run false s₁ = (.ok status, s₂) ∧
    status.canCreate = true
  enabled : ∃ c, w.tenantConfigManager.effectiveConfig ctx s.db = some c ∧ c.enabled = true
  supported : isSupportedWorkflow req = true
  valid : ∃ s₁ s₂, Untouched s.db s₁.db ∧
    (w.validateWorkflow ctx (requested req wf.minimumApprovalCount)).run false s₁ = (.ok (), s₂)
  ongoing : Repo.ongoing s.db req.artifactType req.artifactID = []
  approvers : ∃ s₁ users, Untouched s.db s₁.db ∧
    w.Approvers ctx (requested req wf.minimumApprovalCount) s₁ users ∧
    wf.minimumApprovalCount ≤ users.length

theorem validateApproverCount_ok {m : Int} (h : (w.validateApproverCount ctx wf m).run false s = (.ok (), s')) :
    ∃ users, w.Approvers ctx wf s users ∧ m ≤ users.length := by
  simp only [validateApproverCount] at h
  obtain ⟨kcs, s1, hkcs, h⟩ := run_bind_ok h
  obtain ⟨⟨users, groups⟩, n, hgroups, h⟩ := Prog.run_query_bind_ok h
  have hgroups := eval_mapError_ok hgroups
  obtain ⟨hnodup, hinitiator⟩ := (getApproversAndGroupsFromKeyConfigs_returns _ _).eval hgroups
  refine ⟨users, ⟨kcs, s1, groups, n, Prog.run_mapError_ok hkcs, hgroups, hnodup, hinitiator⟩, ?_⟩
  simp only at h
  split at h
  · cases h
  · omega

/-- A request that went on to be stored is admissible exactly if workflows are enabled. -/
theorem Submitted.admissible_iff (h : Submitted w ctx req s d wf)
    (hfault : ∀ n, w.tenantConfigManager.repo.fault n = none) :
    w.Admissible ctx req s wf ↔
      ∃ c, w.tenantConfigManager.effectiveConfig ctx s.db = some c ∧ c.enabled = true := by
  refine ⟨fun h => h.enabled, fun ⟨c, hc, henabled⟩ => ?_⟩
  obtain ⟨m, s1, status, s2, hmin, hcheck, hex, herr, -, hsame⟩ := h
  obtain rfl : wf.minimumApprovalCount = m := hsame.minimumApprovalCount
  obtain ⟨config, s3, s4, hcfg, hperm, hpath⟩ := checkWorkflow_pass hcheck hex herr
  have hconfig : config = c := by
    obtain ⟨r, hr, -⟩ := getMinimumApprovals_run hmin
    have heff := (workflowConfig_obtained hcfg).2.2
    rw [TenantConfigManager.getWorkflowConfig_effective hr, hc] at heff
    exact (Option.some.inj heff).symm
  obtain ⟨hdisabled, -⟩ | ⟨-, hcan, hadm⟩ := hpath
  · rw [hconfig, henabled] at hdisabled
    cases hdisabled
  have hsync4 := ((w.checkPermissionToCreateWorkflow_syncs ctx _).run hperm).1
  have hu4 : Untouched s.db s4.db := trans_of Untouched ((w.getMinimumApprovals_calm ctx).run hmin).1
    (trans_of Untouched ((w.workflowConfig_configures ctx).calm.run hcfg).1 hsync4.toUntouched)
  obtain ⟨s5, n, m', s6, hval, hon, hmin', hcount⟩ := hadm.path
  have hsync5 := ((w.validateWorkflow_syncs ctx _).run hval).1
  have hu6 : Untouched s5.db s6.db := ((w.getMinimumApprovals_calm ctx).run hmin').1
  have hsame5 : ({ s5 with clock := n } : State).db.workflowConfig = s3.db.workflowConfig :=
    hsync5.workflowConfig.trans hsync4.workflowConfig
  have hle : wf.minimumApprovalCount ≤ m' := getMinimumApprovals_le hfault hmin hcfg hsame5 hmin'
  obtain ⟨users, husers, hmany⟩ := validateApproverCount_ok hcount
  exact
    { canCreate := ⟨s1, status, s2, hmin, hcheck, hcan⟩
      enabled := ⟨c, hc, henabled⟩
      supported := hadm.supported
      valid := ⟨s4, s5, hu4, hval⟩
      ongoing := by
        have h := hadm.ongoing
        unfold Repo.ongoing at h ⊢
        rwa [hu4.workflows] at h
      approvers := ⟨s6, users, trans_of Untouched hu4 (trans_of Untouched hsync5.toUntouched hu6),
        husers, hle.trans hmany⟩ }

end WorkflowManager

/-- If `CreateWorkflow` has stored a workflow, and no statement on the configuration of the tenant
was refused, then the request was admissible exactly if workflows are enabled. -/
theorem stored_admissible_iff (w : WorkflowManager) (ctx : Ctx) (req wf : Workflow)
    (s s' : St Db World) (r : Except Exn Workflow)
    (hfault : ∀ n, w.tenantConfigManager.repo.fault n = none)
    (hrun : (w.createWorkflow ctx.request req).run false s = (r, s'))
    (hold : s.db.workflows.get? wf.id = none) (hnew : s'.db.workflows.get? wf.id = some wf) :
    w.Admissible ctx.request req s wf ↔
      ∃ c, w.tenantConfigManager.effectiveConfig ctx.request s.db = some c ∧ c.enabled = true := by
  let P : St Db World → Prop := fun s' => s'.db.workflows.get? wf.id = some wf →
    ∃ d, w.Submitted ctx.request req s d wf
  have hwp : (w.createWorkflow ctx.request req).wp false (fun _ => P) s := by
    refine WorkflowManager.wp_createWorkflow rfl (fun s' hreach hnew => ?_) ?_
    · rw [(Frame.of_reach hreach).1.workflows, hold] at hnew
      cases hnew
    · intro wf₁ s₁ s' hreach hsub hcreated _ _ _ hnew
      by_cases hid : wf.id = wf₁.id
      · rw [hid, hcreated.new] at hnew
        cases hnew
        exact ⟨s₁.db, hsub⟩
      · rw [hcreated.others _ hid, (Frame.of_reach hreach).1.workflows, hold] at hnew
        cases hnew
  obtain ⟨d, hsub⟩ := Prog.wp_of_run hwp hrun hnew
  exact hsub.admissible_iff hfault

namespace Sample

def disabled : St Db World :=
  { start with db := { db with workflowConfig := some ⟨false, 2, 30, 7, 30⟩ } }

def stored : St Db World :=
  ((processor.updater.createWorkflow (as "i").request (link 1)).run false start).2

end Sample

open Sample in
/-- The request of the sample tenant is stored, and it is admissible. -/
theorem stored_admissible_link : ∃ wf, stored.db.workflows.get? 1 = some wf ∧
    processor.updater.Admissible (as "i").request (link 1) start wf := by
  have hsome : (stored.db.workflows.get? 1).isSome = true := by decide
  obtain ⟨wf, hwf⟩ := Option.isSome_iff_exists.1 hsome
  have hid : wf.id = 1 := Table.key_of_get? hwf
  have hold : start.db.workflows.get? wf.id = none := by rw [hid]; rfl
  have hrun : (processor.updater.createWorkflow (as "i").request (link 1)).run false start =
      (_, stored) := (Prod.eta _).symm
  have henabled : ∃ c, processor.updater.tenantConfigManager.effectiveConfig (as "i").request start.db =
      some c ∧ c.enabled = true := ⟨⟨true, 2, 30, 7, 30⟩, rfl, rfl⟩
  exact ⟨wf, hwf, (stored_admissible_iff _ (as "i") (link 1) wf start stored _ (fun _ => rfl) hrun hold
    (hid ▸ hwf)).2 henabled⟩

open Sample in
/-- With workflows disabled nothing is checked: two workflows are stored for one system, and neither
could have been created according to `CheckWorkflow`. -/
theorem disabled_stored :
    ((processor.updater.checkWorkflow (as "i").request (link 1)).run false disabled).1.toOption.map
        (·.canCreate) = some false ∧
      (Call.afterAll processor [.createWorkflow (as "i") (link 1), .createWorkflow (as "i") (link 2)]
        disabled).db.workflows.rows.map (fun wf => (wf.artifactID, wf.state)) =
          [(40, .initial), (40, .initial)] := by
  decide

end Cmk
