import Cmk.Batch
import Cmk.Frames

/-!
# Cmk.Workflow.Cleanup

`CleanupTerminalWorkflows`: terminal workflows older than the retention period are deleted, a page at
a time in delete mode.

* `Dropped`     — what deleting the workflows of a page does to the table, whether it succeeds or not.
* `cleanup_ends` — the loop ends, no other workflow is lost, and without an error none of the old ones
  is left.
-/

namespace Cmk

open Tx List Repo Prog

variable {workflows : List Workflow}

namespace Repo

variable (r : Repo) (ctx : Ctx)

/-- The hook `BeforeDelete` deletes the approvers first. The rows of `workflow_approver_groups` go
with the workflow. -/
def deleteWorkflow (id : UUID) : M Unit :=
  r.exec ctx (.wrap .errDeleteResource) fun _ d =>
    let d := { d with approvers := d.approvers.filter (·.workflowID ≠ id) }
    if id = UUID.nil then
      (.error (.err (.wrap (.sentinel .errDeleteResource) (.foreign "WHERE conditions required"))), d)
    else
      (.ok (), { d with
        workflows := d.workflows.delete id
        approverGroups := d.approverGroups.filter (·.workflowID ≠ id) })

def listMatchingWorkflows (matching : Workflow → Bool) (limit offset : Nat) : Q (List Workflow) :=
  r.query ctx id fun n d =>
    .ok (page (d.workflows.rows.filter matching) (r.order n _) offset
      (if limit = 0 then defaultLimit else limit))

def countMatchingWorkflows (matching : Workflow → Bool) : Q Nat :=
  r.count ctx fun d => (d.workflows.rows.filter matching).length

end Repo

namespace WorkflowManager

variable (w : WorkflowManager) (ctx : Ctx)

def deleteWorkflows : List Workflow → Ctx → M Unit
  | [], _ => pure ()
  | workflow :: workflows, ctx => do
    w.repo.deleteWorkflow ctx workflow.id
    deleteWorkflows workflows ctx

def cleanupBatch (workflows : List Workflow) : M Unit :=
  if workflows.isEmpty then return ()
  else w.repo.transaction ctx (w.deleteWorkflows workflows)

def outdated (createdAt : UUID → Int) (cutoffDate : Int) (workflow : Workflow) : Bool :=
  workflow.state ∈ workflowTerminalStates ∧ createdAt workflow.id < cutoffDate

def cleanupCalls (matching : Workflow → Bool) : BatchCalls (St Db World) Workflow Exn where
  list limit offset := (liftM (w.repo.listMatchingWorkflows ctx matching limit offset) : M _).run ctx.inTx
  count := (liftM (w.repo.countMatchingWorkflows ctx matching) : M _).run ctx.inTx
  processFunc workflows := (w.cleanupBatch ctx workflows).run ctx.inTx

/-- `time.Now().AddDate(0, 0, -RetentionPeriodDays)`. -/
def cutoffDate (config : WorkflowConfig) (n : Nat) : Int :=
  w.repo.now n - config.retentionPeriodDays * 86400

/-- `CleanupTerminalWorkflows`, with a bound on the pages. `createdAt` is the column `created_at`, which
nothing updates. -/
def cleanupTerminalWorkflows (createdAt : UUID → Int) (fuel : Nat) (s : St Db World) :
    Option (Except Exn Unit × St Db World) :=
  match (w.workflowConfig ctx).run ctx.inTx s with
  | (.error e, s) => some (.error e, s)
  | (.ok config, s) =>
    (BatchLoop.run (w.cleanupCalls ctx (outdated createdAt (w.cutoffDate config s.clock)))
      defaultLimit { deleteMode := true } fuel { st := s }).map fun p => (p.1, p.2.st)

end WorkflowManager

/-- No workflow is new, and only those with one of the IDs may be gone. -/
structure Dropped (ids : List UUID) (d d' : Db) : Prop where
  sublist : d'.workflows.rows.Sublist d.workflows.rows
  kept : ∀ wf ∈ d.workflows.rows, wf.id ∉ ids → wf ∈ d'.workflows.rows

instance (ids : List UUID) : Std.Refl (Dropped ids) := ⟨fun _ => ⟨.refl _, fun _ h _ => h⟩⟩

instance (ids : List UUID) : IsTrans Db (Dropped ids) :=
  ⟨fun _ _ _ h h' => ⟨h'.sublist.trans h.sublist, fun wf hwf hid => h'.kept wf (h.kept wf hwf hid) hid⟩⟩

theorem Repo.deleteWorkflow_keeps {r : Repo} {ctx : Ctx} {ids : List UUID} {id : UUID} (hid : id ∈ ids) :
    Keeps (Dropped ids) Eq (r.deleteWorkflow ctx id) := by
  refine exec_keeps fun n d => ?_
  simp only
  split
  · exact ⟨.refl _, fun _ h _ => h⟩
  · refine ⟨filter_sublist, fun wf hwf hne => Table.mem_delete.2 ⟨hwf, ?_⟩⟩
    rintro rfl
    exact hne hid

namespace WorkflowManager

variable {w : WorkflowManager} {ctx : Ctx}

theorem deleteWorkflows_keeps {ids : List UUID} (h : ∀ wf ∈ workflows, wf.id ∈ ids) :
    Keeps (Dropped ids) Eq (w.deleteWorkflows workflows ctx) := by
  induction workflows with
  | nil => exact .pure _
  | cons wf workflows ih =>
    exact .bind (deleteWorkflow_keeps (h wf mem_cons_self)) fun _ =>
      ih fun wf' h' => h wf' (mem_cons_of_mem _ h')

theorem cleanupBatch_keeps (workflows : List Workflow) :
    Keeps (Dropped (workflows.map Workflow.id)) Eq (w.cleanupBatch ctx workflows) :=
  .ite (.pure _) (transaction_keeps fun _ => deleteWorkflows_keeps fun _ h => mem_map_of_mem h)

theorem wp_deleteWorkflows {i : Bool} {s : State} :
    (w.deleteWorkflows workflows ctx).wp i (fun r s' => r = .ok () →
      ∀ wf ∈ s'.db.workflows.rows, ∀ wf' ∈ workflows, wf.id ≠ wf'.id) s := by
  induction workflows generalizing s with
  | nil => exact fun _ _ _ => forall_mem_nil _
  | cons wf0 workflows ih =>
    have hdelete : (w.repo.deleteWorkflow ctx wf0.id).wp i (fun r s' => r = .ok () →
        ∀ wf ∈ s'.db.workflows.rows, wf.id ≠ wf0.id) s := by
      refine wp_exec_any (fun e s' _ _ _ h => by cases h) fun s' _ hdb _ hr wf hwf => ?_
      rw [hdb] at hwf
      by_cases hnil : wf0.id = UUID.nil
      · simp only [if_pos hnil] at hr
        cases hr
      · simp only [if_neg hnil] at hwf
        exact (Table.mem_delete.1 hwf).2
    refine wp_bind_run (fun e s1 _ h => by cases h) fun a s1 hrun => ?_
    have hgone := wp_of_run hdelete hrun rfl
    have hkeeps : Keeps (Dropped (workflows.map Workflow.id)) Eq (w.deleteWorkflows workflows ctx) :=
      deleteWorkflows_keeps fun _ h => mem_map_of_mem h
    refine wp_mono (wp_and hkeeps.wp ih) fun r s' h hr wf hwf wf' hwf' => ?_
    rcases mem_cons.1 hwf' with rfl | hwf'
    · exact hgone wf (h.1.1.sublist.subset hwf)
    · exact h.2 hr wf hwf wf' hwf'

theorem wp_cleanupBatch {s : State} :
    (w.cleanupBatch ctx workflows).wp ctx.inTx (fun r s' => r = .ok () →
      ∀ wf ∈ s'.db.workflows.rows, ∀ wf' ∈ workflows, wf.id ≠ wf'.id) s := by
  unfold cleanupBatch
  cases workflows with
  | nil => exact fun _ _ _ => forall_mem_nil _
  | cons wf workflows =>
    simp only [isEmpty_cons, Bool.false_eq_true, if_false]
    cases hin : ctx.inTx with
    | true =>
      rw [transaction_inTx hin]
      exact wp_deleteWorkflows
    | false =>
      refine wp_transaction hin (wp_mono wp_deleteWorkflows fun r s' h => ⟨?_, ?_⟩)
      · exact fun a ha _ => h ha
      · exact fun _ e k h => by cases h

/-- What the loop keeps: no workflow is new, and of the others none is lost. -/
structure Cleaning (rows : List Workflow) (matching : Workflow → Bool) (d : Db) : Prop where
  sublist : d.workflows.rows.Sublist rows
  kept : ∀ wf ∈ rows, matching wf = false → wf ∈ d.workflows.rows

theorem cleanupCalls_deletes (w : WorkflowManager) (ctx : Ctx) (rows : List Workflow) (matching : Workflow → Bool) :
    BatchLoop.Deletes (w.cleanupCalls ctx matching) defaultLimit
      (fun s => s.db.workflows.rows.filter matching) (fun s => Cleaning rows matching s.db) where
  list s items s' _ hlist := by
    simp only [cleanupCalls, run_lift, Prod.mk.injEq] at hlist
    obtain ⟨hpage, -⟩ := eval_query_ok (Prod.ext hlist.1 rfl)
    cases hpage
    refine ⟨page_subset, fun hnil => eq_nil_of_length_eq_zero ?_⟩
    have hlen := congrArg length hnil
    rw [length_page, ite_self, length_nil] at hlen
    have hlimit : 0 < defaultLimit := by decide
    omega
  list_keeps s r s' hs hlist := by
    simp only [cleanupCalls, run_lift, Prod.mk.injEq] at hlist
    rw [← hlist.2]
    exact ⟨hs, rfl⟩
  count_keeps s r s' hs hcount := by
    simp only [cleanupCalls, run_lift, Prod.mk.injEq] at hcount
    rw [← hcount.2]
    exact ⟨hs, rfl⟩
  process items s r s' hs hitems hproc := by
    have hdropped := ((cleanupBatch_keeps items).run hproc).1
    refine ⟨⟨hdropped.sublist.trans hs.sublist, fun wf hwf hkeep => ?_⟩,
      hdropped.sublist.filter _, fun hr wf hwf hleft => ?_⟩
    · refine hdropped.kept wf (hs.kept wf hwf hkeep) fun hid => ?_
      obtain ⟨wf', hwf', hid⟩ := mem_map.1 hid
      have hmem := mem_filter.1 (hitems hwf')
      rw [s.db.workflows.eq_of_key hmem.1 (hs.kept wf hwf hkeep) hid, hkeep] at hmem
      exact absurd hmem.2 Bool.false_ne_true
    · exact wp_of_run wp_cleanupBatch hproc hr wf (mem_filter.1 hleft).1 wf hwf rfl

/-- The cleanup ends; without an error, what is left are the workflows that are not outdated. -/
theorem cleanup_ends (createdAt : UUID → Int) (s : State) :
    ∃ fuel r s', w.cleanupTerminalWorkflows ctx createdAt fuel s = some (r, s') ∧ (r = .ok () →
      ∃ config s1, (w.workflowConfig ctx).run ctx.inTx s = (.ok config, s1) ∧
        ∀ wf, wf ∈ s'.db.workflows.rows ↔ wf ∈ s.db.workflows.rows ∧
          outdated createdAt (w.cutoffDate config s1.clock) wf = false) := by
  unfold cleanupTerminalWorkflows
  cases hconfig : (w.workflowConfig ctx).run ctx.inTx s with
  | mk res s1 =>
    cases res with
    | error e => exact ⟨0, _, _, rfl, fun h => by cases h⟩
    | ok config =>
      have hsame : s1.db.workflows = s.db.workflows := by
        rw [((w.workflowConfig_configures ctx).run hconfig).1]
      obtain ⟨r, l, hrun, hl, hleft⟩ := BatchLoop.run_deletes
        (w.cleanupCalls_deletes ctx s1.db.workflows.rows
          (outdated createdAt (w.cutoffDate config s1.clock)))
        ⟨.refl _, fun _ h _ => h⟩ (Nat.lt_succ_self _)
      refine ⟨_, r, l.st, congrArg (Option.map fun p => (p.1, p.2.st)) hrun,
        fun hr => ⟨config, s1, rfl, fun wf => ?_⟩⟩
      rw [← hsame]
      constructor
      · intro hwf
        refine ⟨hl.sublist.subset hwf, Bool.eq_false_iff.2 fun h => ?_⟩
        have hmem := mem_filter.2 ⟨hwf, h⟩
        rw [hleft hr] at hmem
        cases hmem
      · exact fun h => hl.kept wf h.1 h.2

end WorkflowManager

end Cmk
