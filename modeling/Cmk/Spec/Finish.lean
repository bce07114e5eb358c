import Cmk.Spec.Vote

/-!
# Cmk.Spec.Finish

The transactions that end a workflow: a revocation, a confirmation with the action it executes, an
expiry, and the failed state of the auto-assign task. They rewrite the row of the workflow to a
terminal state and clear the flag of its artifact; no approver row changes.
-/

namespace Cmk

open Tx Lifecycle Repo Prog

variable {P : Post Workflow}

/-- The row of a workflow was rewritten, the approver tables are as they were, and the flag of the
artifact was cleared or not. -/
structure Stated (cleared : Bool) (d d' : Db) (wf wf' : Workflow) : Prop where
  row : Restated d d' wf wf'
  approvers : d'.approvers = d.approvers
  approverGroups : d'.approverGroups = d.approverGroups
  flags : ClearedIf cleared wf d d'

/-- The end of a workflow. -/
abbrev Finished (d d' : Db) (wf wf' : Workflow) : Prop :=
  Stated true d d' wf wf' ∧ wf'.state ∈ workflowTerminalStates

section

variable {d d₁ d₂ : Db} {wf wf' : Workflow}

theorem Untouched.stated (hu : Untouched d d₁) (h : Stated false d₁ d₂ wf wf') :
    Stated false d d₂ wf wf' where
  row := h.row.congr hu.workflows.symm rfl
  approvers := h.approvers.trans hu.approvers
  approverGroups := h.approverGroups.trans hu.approverGroups
  flags ty id c hc := by
    have hfl := h.flags ty id c hc
    rw [if_neg (by simp)] at hfl ⊢
    exact hu.flag ty id c hfl

theorem Stated.clear (h : Stated false d d₁ wf wf')
    (hf : Flagged d₁ d₂ wf'.artifactType wf'.artifactID false) : Stated true d d₂ wf wf' where
  row := h.row.congr rfl hf.workflows
  approvers := hf.approvers.trans h.approvers
  approverGroups := hf.approverGroups.trans h.approverGroups
  flags ty id c hc := by
    have hfl := hf.flag ty id c hc
    rw [h.row.same.artifactType, h.row.same.artifactID] at hfl
    simp only [true_and]
    split at hfl
    · rename_i hart
      rw [if_pos hart]
      exact hfl
    · rename_i hart
      rw [if_neg hart]
      have hfl' := h.flags ty id c hfl
      rwa [if_neg (by simp)] at hfl'

end

namespace WorkflowManager

variable {w : WorkflowManager} {ctx : Ctx} {wf wf' : Workflow} {s : State} {d : Db}

theorem wp_handleTerminalWorkflow {P : Post Unit}
    (h : Stated false d s.db wf wf') (hterm : wf'.state ∈ workflowTerminalStates)
    (hrefused : ∀ e, w.repo.Refuses ctx s.clock → P (.error e) { s with clock := s.clock + 1 })
    (hdone : ∀ s', Finished d s'.db wf wf' → s'.ext = s.ext →
      s'.db.connection = s.db.connection → P (.ok ()) s') :
    (w.handleTerminalWorkflow ctx wf').wp true P s := by
  unfold handleTerminalWorkflow
  rw [if_pos hterm]
  exact wp_patchUnderWorkflow hrefused fun s' hf hx => hdone s' ⟨h.clear hf, hterm⟩ hx hf.connection

theorem stated_table {table : Table Workflow.id}
    (h : Restated d { d with workflows := table } wf wf') :
    Stated false d { d with workflows := table } wf wf' :=
  ⟨h, rfl, rfl, clearedIf_of_same rfl rfl⟩

theorem wp_expireWorkflowTx (hrow : s.db.workflows.get? wf.id = some wf)
    (herr : ∀ e s', s'.ext = s.ext → P (.error e) s')
    (hok : ∀ d0 s' wf', Configured s.db d0 → (wf.minimumApprovalCount ≠ 0 → d0 = s.db) →
      s'.ext = s.ext → nextState wf.state .expire = some wf'.state → Finished d0 s'.db wf wf' →
      P (.ok wf') s') :
    (w.expireWorkflowTx ctx wf).wp true P s := by
  unfold expireWorkflowTx
  refine wp_query_bind (q := .done _) (fun e n _ => herr _ _ rfl) fun u n _ => ?_
  have hmin := w.minimumApprovalsOf_configures ctx wf
  refine wp_bind_run (fun e s0 hr => herr _ _ (hmin.run hr).2.symm) fun m s0 hr => ?_
  have hdb : wf.minimumApprovalCount ≠ 0 → s0.db = s.db := fun hm => by
    rw [minimumApprovalsOf_eq hm] at hr
    cases hr
    rfl
  obtain ⟨hcfg, hext⟩ := hmin.run hr
  have hrow0 : s0.db.workflows.get? wf.id = some wf := hcfg.untouched.workflows ▸ hrow
  refine wp_bind ?_
  unfold expire
  split
  · exact herr _ _ hext.symm
  · rename_i fsm hev
    obtain ⟨-, hnext⟩ := event_ok hev
    refine wp_mapError (wp_patchState wf _ hrow0 (fun e => herr _ _ hext.symm)
      fun wf' table hre hst => ?_)
    have hterm : wf'.state ∈ workflowTerminalStates := by
      rw [hst, expire_state hnext]; decide
    refine wp_bind (wp_handleTerminalWorkflow (stated_table hre) hterm
      (fun e _ => herr _ _ hext.symm) fun s' hfin hx _ => ?_)
    exact hok s0.db s' wf' hcfg hdb (hx.trans hext.symm) (hst ▸ hnext) hfin

end WorkflowManager

namespace Lifecycle

variable {l : Lifecycle} {ctx : Ctx} {s : State}

/-- The action can panic. -/
def Panics (l : Lifecycle) (ctx : Ctx) : Prop :=
  ∃ s s', (l.handler ctx).run true s = (.error .panic, s')

/-- The log after the action of a workflow was called once. -/
def Logged (wf : Workflow) (d : Db) (n : Nat) (x x' : World) : Prop :=
  x'.executed = ⟨wf.id, d, n⟩ :: x.executed

/-- Whatever the action returned, it left the workflow component alone, and its call is recorded. -/
theorem executeWorkflowAction_run (hin : ctx.inTx = true) {r : Except Exn Unit} {s' : State}
    (hr : (l.executeWorkflowAction ctx).run true s = (r, s')) :
    Untouched s.db s'.db ∧ Logged l.workflow s.db s.clock s.ext s'.ext ∧
      (r = .error .panic → l.Panics ctx) := by
  let s1 : State := { s with
    ext := { s.ext with executed := ⟨l.workflow.id, s.db, s.clock⟩ :: s.ext.executed }
    clock := s.clock + 1 }
  have hrun : (l.handler ctx).run true s1 = (r, s') := hr
  have hq := wp_of_run (l.handler_quiet hin (Quiet.refl s1)) hrun
  exact ⟨hq.1, hq.2, fun hp => ⟨s1, s', hp ▸ hrun⟩⟩

inductive Outcome : Except Exn Unit → WorkflowState → Prop where
  | executed : Outcome (.ok ()) .successful
  | failed (e : Err) : Outcome (.error (.err e)) .failed

theorem Outcome.terminal {r : Except Exn Unit} {st : WorkflowState} (h : Outcome r st) :
    st ∈ workflowTerminalStates := by
  cases h <;> decide

/-- The action succeeds, or its error is the reason of the failure. A panic goes through. -/
theorem wp_transitionExecute {P : Post (FSM × Workflow)}
    (hpanic : ∀ s', (l.executeWorkflowAction ctx).run true s = (.error .panic, s') →
      P (.error .panic) s')
    (hdone : ∀ r st reason s', (l.executeWorkflowAction ctx).run true s = (r, s') → Outcome r st →
      P (.ok (⟨st, workflowEvents⟩, { l.workflow with failureReason := reason })) s') :
    (l.transitionExecute ctx ⟨.executing, workflowEvents⟩).wp true P s := by
  have hrun : (l.executeWorkflowAction ctx).wp true
      (fun r s' => (l.executeWorkflowAction ctx).run true s = (r, s')) s := rfl
  refine wp_bind (wp_errValue (wp_mono hrun fun r s' h => ?_))
  rcases r with (e | _) | _
  · exact hdone _ .failed e.error s' h (.failed e)
  · exact hpanic s' h
  · exact hdone _ .successful l.workflow.failureReason s' h .executed

theorem wp_applyTransition_confirm {P : Post (Except Exn Unit × Workflow)}
    (hin : ctx.inTx = true) (hfsm : l.stateMachine = ⟨l.workflow.state, workflowEvents⟩)
    (hrow : s.db.workflows.get? l.workflow.id = some l.workflow)
    (henum : enumError l.workflow = none)
    (hquiet : ∀ e wf n, P (.ok (.error e, wf)) { s with clock := n })
    (hpanic : ∀ s', l.workflow.state = .waitConfirmation →
      (l.executeWorkflowAction ctx).run true s = (.error .panic, s') → P (.error .panic) s')
    (hrefused : ∀ e wf r s1 n, l.workflow.state = .waitConfirmation →
      (l.executeWorkflowAction ctx).run true s = (r, s1) → (∃ n, l.repository.Refuses ctx n) →
      P (.ok (.error e, wf)) { s1 with clock := n })
    (hdone : ∀ wf' r s1 table n, l.workflow.state = .waitConfirmation →
      (l.executeWorkflowAction ctx).run true s = (r, s1) → Outcome r wf'.state →
      Restated s1.db { s1.db with workflows := table } l.workflow wf' →
      P (.ok (.ok (), wf')) { s1 with db := { s1.db with workflows := table }, clock := n }) :
    (l.applyTransition ctx .confirm).wp true P s := by
  unfold applyTransition
  refine wp_query_attempt_bind fun r n hr => ?_
  cases hr
  rw [hfsm]
  by_cases hst : l.workflow.state = .waitConfirmation
  · have hnext : nextState .waitConfirmation .confirm = some .executing := rfl
    rw [hst, event_of_nextState hnext]
    refine wp_bind (wp_transitionExecute (s := { s with clock := s.clock }) (hpanic · hst)
      fun r st reason s1 hrun hout => ?_)
    have hu := (executeWorkflowAction_run hin hrun).1
    have hrow' : s1.db.workflows.get? l.workflow.id = some l.workflow := hu.workflows ▸ hrow
    refine wp_bind (wp_attempt (wp_patchWorkflow l.workflow st reason hrow' henum
      ?_ ?_))
    · exact fun e hr => hrefused _ _ _ _ _ hst hrun ⟨_, hr⟩
    · intro wf' table hre hwf
      exact hdone wf' _ _ table _ hst hrun (hwf.symm ▸ hout) hre
  · have hnext : nextState l.workflow.state .confirm = none := by
      revert hst; cases l.workflow.state <;> simp [nextState]
    obtain ⟨e, he⟩ : ∃ e, FSM.event ⟨l.workflow.state, workflowEvents⟩ .confirm = .error e := by
      rw [FSM.event, target_workflowEvents, hnext]
      exact ⟨_, rfl⟩
    rw [he]
    exact hquiet _ _ _

/-- A transition that neither counts votes nor executes the action stores the state. -/
theorem wp_applyTransition_plain {P : Post (Except Exn Unit × Workflow)}
    {t : Transition} (hskip : ∀ d n m, (l.transitionPrecheck ctx t).eval d n ≠ (.ok true, m))
    (hexec : ∀ st, nextState l.workflow.state t = some st → st ≠ .executing)
    (hfsm : l.stateMachine = ⟨l.workflow.state, workflowEvents⟩)
    (hrow : s.db.workflows.get? l.workflow.id = some l.workflow)
    (hfailed : ∀ e wf n, P (.ok (.error e, wf)) { s with clock := n })
    (hdone : ∀ wf' table n, (∃ m, (l.transitionPrecheck ctx t).eval s.db s.clock = (.ok false, m)) →
      nextState l.workflow.state t = some wf'.state →
      Restated s.db { s.db with workflows := table } l.workflow wf' →
      P (.ok (.ok (), wf')) { s with db := { s.db with workflows := table }, clock := n }) :
    (l.applyTransition ctx t).wp true P s := by
  unfold applyTransition
  refine wp_query_attempt_bind fun r n hr => ?_
  rcases r with e | (_ | _)
  · exact hfailed _ _ _
  · rw [hfsm]
    cases hev : FSM.event ⟨l.workflow.state, workflowEvents⟩ t with
    | error e => exact hfailed _ _ _
    | ok fsm =>
      obtain ⟨-, hnext⟩ := event_ok hev
      simp only [if_neg (hexec _ hnext), pure_bind]
      refine wp_bind (wp_attempt (wp_patchState l.workflow _ hrow ?_ ?_))
      · exact fun e => hfailed _ _ _
      · exact fun wf' table hre hwf => hdone wf' table _ ⟨_, hr⟩ (hwf.symm ▸ hnext) hre
  · exact absurd hr (hskip _ _ _)

end Lifecycle

namespace WorkflowManager

variable {w : WorkflowManager} {ctx : Ctx} {wf : Workflow} {t : Transition} {s : State}
  {u : String}

structure BuiltFor (w : WorkflowManager) (wf : Workflow) (l : Lifecycle) : Prop where
  workflow : l.workflow = wf
  stateMachine : l.stateMachine = ⟨l.workflow.state, workflowEvents⟩
  repository : l.repository = w.repo
  keyActions : l.keyActions = w.keyManager
  keyConfigurationActions : l.keyConfigurationActions = w.keyConfigurationActions
  systemActions : l.systemActions = w.systemManager
  parseUUID : l.parseUUID = w.parseUUID

/-- What happens before the transition is applied: at most the default configuration is written, and
only for a workflow without a minimum of its own. -/
theorem wp_applyTransitionTx_start (hvote : ¬ t.isVote)
    (herr : ∀ e s', s'.ext = s.ext → P (.error e) s')
    (hrest : ∀ ids l s0, BuiltFor w wf l → t = .confirm ∨ t = .revoke → Configured s.db s0.db →
      (wf.minimumApprovalCount ≠ 0 → s0.db = s.db) → s0.ext = s.ext →
      wp true (do
        let workflow ← (l.validateAndApplyTransition ctx t).mapError (.wrap .errApplyTransition)
        w.handleTerminalWorkflow ctx workflow
        w.attemptAutoReject ctx workflow t ids) P s0) :
    (w.applyTransitionTx ctx u wf t).wp true P s := by
  unfold applyTransitionTx
  refine wp_query_bind (fun e n _ => herr _ _ rfl) fun ids n _ => ?_
  have hmin := w.minimumApprovalsOf_configures ctx wf
  refine wp_bind_run (fun e s0 hr => herr _ _ (hmin.run hr).2.symm) fun m s0 hr => ?_
  have hdb : wf.minimumApprovalCount ≠ 0 → s0.db = s.db := fun hm => by
    rw [minimumApprovalsOf_eq hm] at hr
    cases hr
    rfl
  obtain ⟨hcfg, hext⟩ := hmin.run hr
  refine wp_query_bind (fun e n _ => herr _ _ hext.symm) fun groups n1 _ => ?_
  refine wp_query_bind (fun e n _ => herr _ _ hext.symm) fun _ n2 hactor => ?_
  refine wp_query_bind (fun e n _ => herr _ _ hext.symm) fun approver n3 _ => ?_
  have hdone : ∀ l, BuiltFor w wf l → t = .confirm ∨ t = .revoke → _ :=
    fun l hl ht => hrest ids l { s0 with clock := n3 } hl ht hcfg hdb hext.symm
  cases t with
  | approve | reject => exact absurd rfl hvote
  | create | expire | execute | fail => exact herr _ _ hext.symm
  | confirm => exact hdone _ ⟨rfl, rfl, rfl, rfl, rfl, rfl, rfl⟩ (.inl rfl)
  | revoke => exact hdone _ ⟨rfl, rfl, rfl, rfl, rfl, rfl, rfl⟩ (.inr rfl)
  | other name =>
    obtain ⟨_, _, _, hactor⟩ := eval_bind_ok (eval_mapError_ok hactor)
    cases hactor

/-- The action of a workflow was executed in a transaction that began in `s`: from `s₀`, to `s₁`. -/
structure Performed (w : WorkflowManager) (ctx : Ctx) (wf : Workflow) (s : St Db World) (l : Lifecycle)
    (r : Except Exn Unit) (s₀ s₁ : St Db World) : Prop where
  built : BuiltFor w wf l
  configured : Configured s.db s₀.db
  run : (l.executeWorkflowAction ctx).run true s₀ = (r, s₁)
  logged : Lifecycle.Logged wf s₀.db s₀.clock s.ext s₁.ext

theorem wp_applyTransitionTx_finish (hin : ctx.inTx = true) (hvote : ¬ t.isVote)
    (hrow : s.db.workflows.get? wf.id = some wf) (henum : enumError wf = none)
    (herr : ∀ e s', s'.ext = s.ext → P (.error e) s')
    (hexec : ∀ e s' d n, t = .confirm → wf.state = .waitConfirmation →
      (wf.minimumApprovalCount ≠ 0 → d = s.db) → Lifecycle.Logged wf d n s.ext s'.ext →
      ((∃ l, BuiltFor w wf l ∧ l.Panics ctx) ∨ ∃ n, w.repo.Refuses ctx n) → P (.error e) s')
    (hrevoked : ∀ wf' s', t = .revoke → nextState wf.state .revoke = some wf'.state →
      s'.ext = s.ext → Finished s.db s'.db wf wf' → P (.ok wf') s')
    (hconfirmed : ∀ wf' l r s0 s1 s', t = .confirm → wf.state = .waitConfirmation →
      (wf.minimumApprovalCount ≠ 0 → s0.db = s.db) → Performed w ctx wf s l r s0 s1 →
      Lifecycle.Outcome r wf'.state → s'.ext = s1.ext → s'.db.connection = s1.db.connection →
      Finished s.db s'.db wf wf' → P (.ok wf') s') :
    (w.applyTransitionTx ctx u wf t).wp true P s := by
  refine wp_applyTransitionTx_start hvote herr fun ids l s0 hl ht hcfg hdb hext => ?_
  have hwf := hl.workflow
  subst hwf
  have hrow0 : s0.db.workflows.get? l.workflow.id = some l.workflow :=
    hcfg.untouched.workflows ▸ hrow
  refine wp_bind (wp_mapError ?_)
  refine wp_query_bind (fun e n _ => herr _ _ hext) fun _ n _ => wp_bind ?_
  -- the tail of the transaction, once the row has a terminal state
  have htail : ∀ wf' s', Stated false s.db s'.db l.workflow wf' →
      wf'.state ∈ workflowTerminalStates →
      (∀ e n, w.repo.Refuses ctx n → P (.error e) { s' with clock := s'.clock + 1 }) →
      (∀ s'', s''.ext = s'.ext → s''.db.connection = s'.db.connection →
        Finished s.db s''.db l.workflow wf' → P (.ok wf') s'') →
      wp true (w.handleTerminalWorkflow ctx wf' >>= fun _ =>
        w.attemptAutoReject ctx wf' t ids) P s' := by
    intro wf' s' hstated hterm hrefused hdone
    have hne : wf'.state ≠ .waitApproval := by rintro h; rw [h] at hterm; revert hterm; decide
    rw [attemptAutoReject_decided hne]
    exact wp_bind (wp_handleTerminalWorkflow hstated hterm (fun e hr => hrefused _ _ hr)
      fun s'' hfin hx hconn => hdone s'' hx hconn hfin)
  rcases ht with rfl | rfl
  · refine wp_applyTransition_confirm (s := { s0 with clock := n }) hin hl.stateMachine
      hrow0 henum (fun e wf n => herr _ _ hext) ?_ ?_ ?_
    · intro s' hst hrun
      obtain ⟨-, hlog, hpanics⟩ := executeWorkflowAction_run hin hrun
      exact hexec _ s' s0.db n rfl hst hdb (hext ▸ hlog) (.inl ⟨l, hl, hpanics rfl⟩)
    · intro e wf r s1 n' hst hrun hr
      obtain ⟨-, hlog, -⟩ := executeWorkflowAction_run hin hrun
      exact hexec _ _ s0.db n rfl hst hdb (hext ▸ hlog) (.inr (hl.repository ▸ hr))
    · intro wf' r s1 table n' hst hrun hout hre
      obtain ⟨hu, hlog, -⟩ := executeWorkflowAction_run hin hrun
      have hstated := (trans_of Untouched hcfg.untouched hu).stated (stated_table hre)
      refine htail wf' _ hstated hout.terminal
        (fun e n' hr => hexec e _ s0.db n rfl hst hdb (hext ▸ hlog) (.inr ⟨n', hr⟩))
        fun s' hx hconn hf => ?_
      exact hconfirmed wf' l r { s0 with clock := n } s1 s' rfl hst hdb
        ⟨hl, hcfg, hrun, hext ▸ hlog⟩ hout hx hconn hf
  · refine wp_applyTransition_plain (s := { s0 with clock := n }) nofun
      (fun st hst => by rw [revoke_state hst]; decide) hl.stateMachine hrow0
      (fun e wf n => herr _ _ hext) fun wf' table n _ hnext hre => ?_
    exact htail wf' _ (hcfg.untouched.stated (stated_table hre)) (by rw [revoke_state hnext]; decide)
      (fun e n hr => herr e _ hext) fun s' hx _ hf => hrevoked wf' s' rfl hnext (hx.trans hext) hf

end WorkflowManager

end Cmk
