import Cmk.Workflow.Transition

/-!
# Cmk.Frames

What the managers leave alone. Outside the transactions that create, assign, vote on, execute or
end a workflow, a call only reads, writes a default configuration, or lets the key manager
synchronize a key: each of these keeps the workflow tables and the flags (`Untouched`) and
executes no action (`SameLog`).
-/

namespace Cmk

open Tx

variable {R : Db → Db → Prop}

/-- A program that leaves the workflow component alone. -/
abbrev Calm {α : Type} (p : M α) : Prop := Keeps Untouched SameLog p

variable {α β : Type}

abbrev Syncs {α : Type} (p : M α) : Prop := Keeps Synced SameLog p

theorem Syncs.calm {p : M α} (hp : Syncs p) : Calm p :=
  Keeps.mono (fun _ _ h => h.toUntouched) (fun _ _ h => h) hp

/-- Nothing but the workflow configuration of the tenant has changed. -/
def Configured (d d' : Db) : Prop := d' = { d with workflowConfig := d'.workflowConfig }

instance : Std.Refl Configured := ⟨fun _ => rfl⟩

instance : IsTrans Db Configured := ⟨fun d d₁ d₂ h h' => by
  unfold Configured at *
  rw [h', h]⟩

theorem Configured.untouched {d d' : Db} (h : Configured d d') : Untouched d d' := by
  rw [h]
  exact ⟨rfl, rfl, rfl, fun ty _ _ h => by cases ty <;> exact h⟩

/-- A program that at most writes the workflow configuration. -/
abbrev Configures {α : Type} (p : M α) : Prop := Keeps Configured Eq p

theorem Configures.keeps {Q : World → World → Prop} [Std.Refl Q] {p : M α} (hp : Configures p)
    (hconfig : ∀ d d', Configured d d' → R d d') : Keeps R Q p := by
  refine Keeps.mono hconfig ?_ hp
  rintro x _ rfl
  exact refl_of Q x

theorem Configures.calm {p : M α} (hp : Configures p) : Calm p :=
  hp.keeps fun _ _ h => h.untouched

namespace TenantConfigManager

variable (m : TenantConfigManager) (ctx : Ctx)

theorem storeWorkflowConfig_configures (c : WorkflowConfig) :
    Configures (m.storeWorkflowConfig ctx c) := by
  have hset : Configures (m.repo.setWorkflowConfig ctx c) := exec_keeps fun _ _ => rfl
  simp only [storeWorkflowConfig, Prog.throw_bind]
  exact .ite (.throw _) (.ite (.throw _) (.ite (.throw _) ((hset.mapError _).bind fun _ => .pure c)))

/-- What every configuration keeps when it is stored is kept by the calls that store one. -/
theorem setWorkflowConfig_keeps {Q : World → World → Prop}
    (h : ∀ c, Keeps R Q (m.storeWorkflowConfig ctx c)) (c : Option WorkflowConfig) :
    Keeps R Q (m.setWorkflowConfig ctx c) := by
  cases c with
  | some c => exact h c
  | none => exact .bind (.query _) fun t => h _

theorem getWorkflowConfig_keeps {Q : World → World → Prop}
    (h : ∀ c, Keeps R Q (m.storeWorkflowConfig ctx c)) : Keeps R Q (m.getWorkflowConfig ctx) := by
  refine .bind (.query _) fun r => ?_
  cases r with
  | ok c => exact .pure c
  | error e => exact .ite (m.setWorkflowConfig_keeps ctx h none) (.throw _)

theorem getWorkflowConfig_configures : Configures (m.getWorkflowConfig ctx) :=
  m.getWorkflowConfig_keeps ctx (m.storeWorkflowConfig_configures ctx)

end TenantConfigManager

namespace WorkflowManager

variable (w : WorkflowManager) (ctx : Ctx)

theorem workflowConfig_configures : Configures (w.workflowConfig ctx) :=
  (w.tenantConfigManager.getWorkflowConfig_configures ctx).mapError _

theorem getMinimumApprovals_configures : Configures (w.getMinimumApprovals ctx) := by
  refine .bind (errValue_keeps (w.tenantConfigManager.getWorkflowConfig_configures ctx)) fun r => ?_
  cases r with
  | ok c => exact .pure _
  | error e => exact .pure _

theorem getMinimumApprovals_calm : Calm (w.getMinimumApprovals ctx) :=
  (w.getMinimumApprovals_configures ctx).calm

theorem minimumApprovalsOf_configures (workflow : Workflow) :
    Configures (w.minimumApprovalsOf ctx workflow) :=
  .ite (((w.workflowConfig_configures ctx).mapError _).bind fun _ => .pure _) (.pure _)

section

variable {w} {R : Db → Db → Prop} {Q : World → World → Prop}

section

variable (hget : ∀ ctx id, Keeps R Q (w.keyManager.get ctx id))
include hget

theorem getKeyConfigFromKey_keeps (workflow : Workflow) :
    Keeps R Q (w.getKeyConfigFromKey ctx workflow) :=
  ((hget ctx _).mapError _).bind fun _ => .query _

theorem getKeyConfigurationsFromArtifact_keeps (workflow : Workflow) :
    Keeps R Q (w.getKeyConfigurationsFromArtifact ctx workflow) := by
  unfold getKeyConfigurationsFromArtifact
  split
  · exact .bind (.query _) fun _ => .pure _
  · exact .query _
  · exact (getKeyConfigFromKey_keeps ctx hget workflow).bind fun _ => .pure _
  · exact .throw _

theorem validateWorkflow_keeps (workflow : Workflow) : Keeps R Q (w.validateWorkflow ctx workflow) :=
  (getKeyConfigurationsFromArtifact_keeps ctx hget workflow).bind fun _ =>
    .ite (.query _) (.ite (.query _) (.ite (.query _) (.pure _)))

theorem validateApproverCount_keeps (workflow : Workflow) (m : Int) :
    Keeps R Q (w.validateApproverCount ctx workflow m) :=
  ((getKeyConfigurationsFromArtifact_keeps ctx hget workflow).mapError _).bind fun _ =>
    .bind (.query _) fun _ => .ite (.throw _) (.pure _)

theorem checkPermissionToCreateWorkflow_keeps (workflow : Workflow) :
    Keeps R Q (w.checkPermissionToCreateWorkflow ctx workflow) := by
  unfold checkPermissionToCreateWorkflow
  split
  · exact .throw _
  · refine .bind (errValue_keeps (getKeyConfigurationsFromArtifact_keeps ctx hget workflow)) fun r => ?_
    cases r with
    | error e => exact .ite (.pure _) (.throw _)
    | ok _ => exact .bind (.query _) fun _ => .pure _

theorem populateArtifact_keeps (workflow : Workflow) :
    Keeps R Q (w.populateArtifact ctx workflow) := by
  unfold populateArtifact
  split
  · exact .bind (hget ctx _) fun _ => .pure _
  · exact .bind (.query _) fun _ => .pure _
  · exact .bind (.query _) fun _ => .pure _
  · exact .pure _

theorem populateParametersResource_keeps (workflow : Workflow) :
    Keeps R Q (w.populateParametersResource ctx workflow) := by
  unfold populateParametersResource
  split
  · exact .bind (.query (.done _)) fun _ => .bind (hget ctx _) fun _ => .pure _
  · exact .bind (.query (.done _)) fun _ => .bind (.query _) fun _ => .pure _
  · exact .bind (.query (.done _)) fun _ => .bind (.query _) fun _ => .pure _
  · exact .pure _

variable [Std.Refl Q] (hconfig : ∀ d d', Configured d d' → R d d')
include hconfig

theorem checkWorkflowStatus_keeps (workflow : Workflow) (enabled : Bool) :
    Keeps R Q (w.checkWorkflowStatus ctx workflow enabled) := by
  refine .ite (.pure _) (.ite (.pure _) ?_)
  refine .bind (errValue_keeps (validateWorkflow_keeps ctx hget workflow)) fun r => ?_
  cases r with
  | error e => exact .pure _
  | ok _ =>
    refine .bind (errValue_keeps (.query _)) fun r => ?_
    rcases r with e | b
    · exact .pure _
    · cases b with
      | true => exact .pure _
      | false =>
        refine .bind ((w.getMinimumApprovals_configures ctx).keeps hconfig) fun m => ?_
        refine .bind (errValue_keeps (validateApproverCount_keeps ctx hget workflow m)) fun r => ?_
        cases r with
        | ok _ => exact .pure _
        | error e => exact .ite (.pure _) (.pure _)

theorem checkWorkflow_keeps (workflow : Workflow) : Keeps R Q (w.checkWorkflow ctx workflow) := by
  refine .bind ((w.workflowConfig_configures ctx).keeps hconfig) fun config => ?_
  refine .bind ((checkPermissionToCreateWorkflow_keeps ctx hget workflow).mapError _) fun allowed => ?_
  refine .ite (.bind (.throw _) fun _ => ?_) ?_
  all_goals
    exact .bind (checkWorkflowStatus_keeps ctx hget hconfig workflow _) fun _ => .query (.done _)

end

end

theorem getKeyConfigurationsFromArtifact_syncs (workflow : Workflow) :
    Syncs (w.getKeyConfigurationsFromArtifact ctx workflow) :=
  getKeyConfigurationsFromArtifact_keeps ctx w.keyManager.get_keeps workflow

theorem validateWorkflow_syncs (workflow : Workflow) : Syncs (w.validateWorkflow ctx workflow) :=
  validateWorkflow_keeps ctx w.keyManager.get_keeps workflow

theorem validateApproverCount_syncs (workflow : Workflow) (m : Int) :
    Syncs (w.validateApproverCount ctx workflow m) :=
  validateApproverCount_keeps ctx w.keyManager.get_keeps workflow m

theorem checkPermissionToCreateWorkflow_syncs (workflow : Workflow) :
    Syncs (w.checkPermissionToCreateWorkflow ctx workflow) :=
  checkPermissionToCreateWorkflow_keeps ctx w.keyManager.get_keeps workflow

theorem keyManager_get_calm (id : UUID) : Calm (w.keyManager.get ctx id) :=
  Syncs.calm (w.keyManager.get_keeps ctx id)

theorem checkWorkflow_calm (workflow : Workflow) : Calm (w.checkWorkflow ctx workflow) :=
  checkWorkflow_keeps ctx w.keyManager_get_calm (fun _ _ h => h.untouched) workflow

theorem populateArtifact_calm (workflow : Workflow) : Calm (w.populateArtifact ctx workflow) :=
  populateArtifact_keeps ctx w.keyManager_get_calm workflow

theorem populateParametersResource_calm (workflow : Workflow) :
    Calm (w.populateParametersResource ctx workflow) :=
  populateParametersResource_keeps ctx w.keyManager_get_calm workflow

theorem createAutoAssignApproversAsyncTask_calm (workflow : Workflow) :
    Calm (w.createAutoAssignApproversAsyncTask ctx workflow) := by
  unfold createAutoAssignApproversAsyncTask
  split
  · exact .pure _
  · refine .call fun n d x => ?_
    split
    · exact rfl
    · exact rfl

theorem createWorkflowTransitionNotificationTask_calm (workflow : Workflow) (t : Transition)
    (recipients : List String) :
    Calm (w.createWorkflowTransitionNotificationTask ctx workflow t recipients) := by
  unfold createWorkflowTransitionNotificationTask
  split
  · exact .pure _
  · refine .bind (.query _) fun _ => .bind (.query _) fun _ => .ite (.pure _) ?_
    refine .bind (.query _) fun created => .ite (.call fun n d x => ?_) (.pure _)
    split
    · exact rfl
    · exact rfl

end WorkflowManager

end Cmk
