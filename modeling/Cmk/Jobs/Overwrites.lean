import Cmk.Jobs.WholeRows

/-!
# Cmk.Jobs.Overwrites

Workflows and jobs on one system. A workflow sets and clears the flag `UnderWorkflow` of its system
and writes no other column; a request or job callback writes the row back as it read it, with another
status. Neither looks again before it writes, and neither locks the row. So a callback that has read
the row before a workflow is created clears the flag that the workflow sets.

* `Op`        — calls on workflows, requests on systems, callbacks of jobs.
* `Op.writesRow` — those that write whole rows; a confirmation executes the action of its workflow.
* `underWorkflow_not_lost` — if the flag does not change between two statements of such an
  operation, it is in the end as the last workflow operation left it, and the status is as the last
  operation on systems left it.
-/

namespace Cmk

open Tx WorkflowManager Lifecycle Function Call

variable {d d' : Db} {t : Transition} {call : Call}

variable {id : UUID} {own : Bool} {ctx : Ctx}

def Db.systemStatus (d : Db) (id : UUID) : Option SystemStatus :=
  (d.systems.get? id).map (·.status)

/-- The flag of the system, if it still exists, is as it was or `own`. -/
def Turned (id : UUID) (own : Bool) (d d' : Db) : Prop :=
  ∀ b, d'.flag .system id = some b → d.flag .system id = some b ∨ b = own

instance : Std.Refl (Turned id own) := ⟨fun _ _ h => .inl h⟩

def StatusKept (id : UUID) (d d' : Db) : Prop := d'.systemStatus id = d.systemStatus id

instance : Std.Refl (StatusKept id) := ⟨fun _ => rfl⟩

instance : IsTrans Db (StatusKept id) := ⟨fun _ _ _ h h' => Eq.trans h' h⟩

/-- Nothing but the flag of the system has changed, and at most to `own`. -/
structure OnlyFlag (id : UUID) (own : Bool) (d d' : Db) : Prop where
  flag : Turned id own d d'
  status : StatusKept id d d'

instance : Std.Refl (OnlyFlag id own) := ⟨fun d => ⟨refl_of (Turned id own) d, rfl⟩⟩

instance : IsTrans Db (OnlyFlag id own) := ⟨fun _ _ _ h h' => by
  refine ⟨fun b hb => ?_, trans_of (StatusKept id) h.status h'.status⟩
  rcases h'.flag b hb with hb | rfl
  · exact h.flag b hb
  · exact .inr rfl⟩

theorem OnlyFlag.of_systems (h : d'.systems = d.systems) : OnlyFlag id own d d' := by
  refine ⟨fun b hb => .inl ?_, ?_⟩
  · rwa [Db.flag, h] at hb
  · rw [StatusKept, Db.systemStatus, h, Db.systemStatus]

theorem Configured.onlyFlag (h : Configured d d') : OnlyFlag id own d d' :=
  .of_systems (by rw [h])

/-- A program of a workflow operation that executes no action. -/
abbrev Flags (id : UUID) (own : Bool) {α : Type} (p : M α) : Prop := Keeps (OnlyFlag id own) AnyWorld p

theorem Repo.patchWorkflow_flags (r : Repo) (wf : Workflow) :
    Flags id own (r.patchWorkflow ctx wf) := by
  refine exec_keeps fun n d => ?_
  split
  · exact refl_of (OnlyFlag id own) d
  · exact .of_systems rfl

theorem Lifecycle.applyTransition_flags {l : Lifecycle}
    (hfsm : l.stateMachine = ⟨l.workflow.state, workflowEvents⟩) (ht : t ≠ .confirm) :
    Flags id own (l.applyTransition ctx t) := by
  refine .bind (.query _) fun r => ?_
  rcases r with e | (_ | _)
  · exact .pure _
  · simp only
    split
    · exact .pure _
    · rename_i fsm hev
      rw [hfsm] at hev
      have hexec : fsm.current ≠ .executing := by
        obtain ⟨-, hnext⟩ := event_ok hev
        intro hcur
        rw [hcur] at hnext
        revert hnext ht
        cases l.workflow.state <;> cases t <;> simp [nextState]
      rw [if_neg hexec]
      refine .bind (.pure _) fun _ => .bind (l.repository.patchWorkflow_flags _).attempt fun r => ?_
      cases r with
      | ok wf => exact .pure _
      | error e => exact .pure _
  · exact .pure _

theorem Lifecycle.validateAndApplyTransition_flags {l : Lifecycle}
    (hfsm : l.stateMachine = ⟨l.workflow.state, workflowEvents⟩) (ht : t ≠ .confirm) :
    Flags id own (l.validateAndApplyTransition ctx t) := by
  refine .bind (.query _) fun _ => .bind (l.applyTransition_flags hfsm ht) fun r => ?_
  rcases r with ⟨(e | _), wf⟩
  · exact .throw _
  · exact .pure _

namespace WorkflowManager

variable {w : WorkflowManager}

theorem patchUnderWorkflow_flags (wf : Workflow) :
    Flags id own (w.patchUnderWorkflow ctx wf own) := by
  unfold patchUnderWorkflow
  split
  · refine exec_keeps fun _ d => ⟨fun b hb => ?_, ?_⟩
    · change Option.map _ _ = some b at hb
      rw [get?_modify] at hb
      by_cases hid : id = wf.artifactID
      · subst hid
        rw [update_self, Option.map_map] at hb
        obtain ⟨row, -, hrow⟩ := Option.map_eq_some_iff.1 hb
        exact .inr hrow.symm
      · rw [update_of_ne hid] at hb
        exact .inl hb
    · change Option.map _ _ = Option.map _ _
      rw [get?_modify]
      by_cases hid : id = wf.artifactID
      · subst hid
        rw [update_self, Option.map_map]
        rfl
      · rw [update_of_ne hid]
  · exact exec_keeps fun _ _ => .of_systems rfl
  · exact .pure _

theorem handleTerminalWorkflow_flags (wf : Workflow) :
    Flags id false (w.handleTerminalWorkflow ctx wf) :=
  .ite (patchUnderWorkflow_flags wf) (.pure _)

theorem minimumApprovalsOf_flags (wf : Workflow) : Flags id own (w.minimumApprovalsOf ctx wf) :=
  (w.minimumApprovalsOf_configures ctx wf).keeps fun _ _ => Configured.onlyFlag

theorem notification_flags (wf : Workflow) (t : Transition) (recipients : List String) :
    Flags id own (w.createWorkflowTransitionNotificationTask ctx wf t recipients) := by
  unfold createWorkflowTransitionNotificationTask
  split
  · exact .pure _
  · refine .bind (.query _) fun _ => .bind (.query _) fun _ => .ite (.pure _) ?_
    exact .bind (.query _) fun _ => .ite (.call fun _ _ _ => trivial) (.pure _)

theorem expireWorkflow_flags (i : UUID) : Flags id false (w.expireWorkflow ctx i) := by
  refine .bind (.query _) fun wf => w.repo.transaction_keeps fun ctx => ?_
  refine .bind (.query (.done _)) fun u => .bind (minimumApprovalsOf_flags wf) fun m => ?_
  refine .bind ?_ fun wf' => .bind (handleTerminalWorkflow_flags wf') fun _ => .pure _
  unfold expire
  split
  · exact .throw _
  · exact .mapError _ (Repo.patchWorkflow_flags _ _)

theorem recordTransitionInDB_flags (t : Transition) (approver : Option WorkflowApprover) :
    Flags id own (w.recordTransitionInDB ctx t approver) := by
  have hpatch : ∀ a b, Flags id own (w.updateApproverDecision ctx a b) := fun a b =>
    .mapError _ (w.repo.transaction_keeps fun ctx =>
      .mapError _ (exec_keeps fun _ _ => .of_systems rfl))
  unfold recordTransitionInDB
  split
  · exact .bind (.query (.done _)) fun _ => hpatch _ _
  · exact .bind (.query (.done _)) fun _ => hpatch _ _
  all_goals first | exact .throw _ | exact .pure _

theorem attemptAutoReject_flags (wf : Workflow) (t : Transition) (ids : Option (List String)) :
    Flags id own (w.attemptAutoReject ctx wf t ids) := by
  refine .ite (.pure _) (.bind (errValue_keeps (minimumApprovalsOf_flags wf)) fun r => ?_)
  cases r with
  | error e => exact .pure _
  | ok m =>
    refine .bind (errValue_keeps (applyTransition_flags rfl (by decide))) fun r => ?_
    cases r with
    | error e => exact .pure _
    | ok a => exact .pure _

theorem transitionWorkflow_flags (i : UUID) (ht : t ≠ .confirm) :
    Flags id false (w.transitionWorkflow ctx i t) := by
  refine .bind (.query (.done _)) fun u => .bind (.query _) fun a => .bind (.mapError _ ?_) fun wf' => ?_
  · refine w.repo.transaction_keeps fun ctx => .bind (.query _) fun ids => ?_
    refine .bind (minimumApprovalsOf_flags _) fun m => .bind (.query _) fun groups => ?_
    refine .bind (.query _) fun _ => .bind (.query _) fun approver => ?_
    refine .bind (recordTransitionInDB_flags t approver) fun _ => ?_
    refine .bind (.mapError _ (validateAndApplyTransition_flags rfl ht)) fun wf' => ?_
    exact .bind (handleTerminalWorkflow_flags wf') fun _ => attemptAutoReject_flags wf' t ids
  · exact .bind (.query _) fun idm => .bind (.query _) fun names =>
      .bind (notification_flags wf' t names).attempt fun _ => .pure _

section

variable (hget : ∀ ctx i, Flags id own (w.keyManager.get ctx i))
include hget

theorem autoAssignApprovers_flags (i : UUID) : Flags id own (w.autoAssignApprovers ctx i) := by
  refine .bind (.query _) fun wf => ?_
  refine .bind (getKeyConfigurationsFromArtifact_keeps ctx hget wf) fun kcs => ?_
  refine .bind (.query _) fun a => .bind (.mapError _ (.mapError _ ?_)) fun wf' => ?_
  · refine w.repo.transaction_keeps fun ctx => .bind (minimumApprovalsOf_flags wf) fun m => ?_
    have happrovers : ∀ users, Flags id own (w.setApprovers ctx wf.id users) := by
      intro users
      induction users with
      | nil => exact .pure _
      | cons u users ih =>
        exact .bind (.mapError _ (exec_keeps fun _ _ => .of_systems rfl)) fun _ => ih
    have hgroups : ∀ groups, Flags id own (w.setApproverGroups ctx wf.id groups) := by
      intro groups
      induction groups with
      | nil => exact .pure _
      | cons g groups ih =>
        refine .bind (.query _) fun _ => .bind (exec_keeps fun _ _ => .of_systems ?_) fun _ => ih
        split <;> rfl
    exact .bind (happrovers _) fun _ => .bind (hgroups _) fun _ =>
      .mapError _ (validateAndApplyTransition_flags rfl (by decide))
  · exact .bind (.query _) fun idm => .bind (.query _) fun names =>
      .bind (notification_flags wf' _ names).attempt fun _ => .pure _

end

theorem createWorkflow_flags (hget : ∀ ctx i, Flags id true (w.keyManager.get ctx i))
    (wf : Workflow) : Flags id true (w.createWorkflow ctx wf) := by
  have hconfig : ∀ d d' : Db, Configured d d' → OnlyFlag id true d d' := fun _ _ => Configured.onlyFlag
  refine .bind ((w.getMinimumApprovals_configures ctx).keeps hconfig) fun m => ?_
  refine .bind (checkWorkflow_keeps ctx hget hconfig _) fun status => ?_
  have hstore : ∀ wf, Flags id true (w.storeWorkflow ctx wf) := by
    intro wf
    refine .mapError _ (w.repo.transaction_keeps fun ctx => .bind (.mapError _ ?_) fun wf' => ?_)
    · refine exec_keeps fun n d => ?_
      split
      · exact refl_of (OnlyFlag id true) d
      · simp only
        split
        · exact refl_of (OnlyFlag id true) d
        · exact .of_systems rfl
    · refine .bind (.mapError _ (patchUnderWorkflow_flags wf')) fun _ => .bind ?_ fun _ => .pure _
      unfold createAutoAssignApproversAsyncTask
      split
      · exact .pure _
      · exact .call fun _ _ _ => trivial
  have hrest : ∀ wf, Flags id true (do
      let wf ← w.populateArtifact ctx wf
      let wf ← w.populateParametersResource ctx wf
      w.storeWorkflow ctx wf) := fun wf =>
    .bind (populateArtifact_keeps ctx hget wf) fun _ =>
      .bind (populateParametersResource_keeps ctx hget _) fun _ => hstore _
  refine .ite (.bind (.throw _) fun _ => ?_) ?_
  all_goals
    split
    · exact .throw _
    · exact hrest _

end WorkflowManager

namespace WorkflowProcessor

theorem processTask_flags {p : WorkflowProcessor}
    (hget : ∀ ctx i, Flags id false (p.updater.keyManager.get ctx i)) (payload : TaskPayload) :
    Flags id false (p.processTask ctx payload) := by
  have hfailed : ∀ ctx i reason, Flags id false (p.putWorkflowInFailedState ctx i reason) :=
    fun ctx i reason => .bind (.query _) fun wf => p.repo.transaction_keeps fun ctx =>
      .bind (p.repo.patchWorkflow_flags _) fun wf' => handleTerminalWorkflow_flags wf'
  unfold processTask
  split
  · exact .throw _
  · refine .bind (Keeps.attempt (autoAssignApprovers_flags hget _)) fun r => ?_
    rcases r with (e | _) | _
    · exact .bind (hfailed _ _ _).attempt fun _ => .throw _
    · exact .bind (hfailed _ _ _).attempt fun _ => .pure _
    · exact .pure _

end WorkflowProcessor

/-- The flag of the system, if it has one, is `v` or cleared. -/
def OrCleared (v o : Option Bool) : Prop := ∀ b, o = some b → v = some b ∨ b = false

section

variable {v : Option Bool}

theorem OrCleared.untouched (h : FlagIn id (OrCleared v) d) (hu : Untouched d d') :
    FlagIn id (OrCleared v) d' :=
  fun b hb => h b (hu.flag _ _ b hb)

theorem OrCleared.turned (h : FlagIn id (OrCleared v) d) (ht : OnlyFlag id false d d') :
    FlagIn id (OrCleared v) d' := by
  intro b hb
  rcases ht.flag b hb with hb | rfl
  · exact h b hb
  · exact .inr rfl

variable {α : Type} {p : M α}

theorem Calm.yields (hp : Calm p) : p.Yields (FlagIn id (OrCleared v)) fun _ => True :=
  .any (.keeps hp fun _ _ => OrCleared.untouched)

theorem Flags.yields (hp : Flags id false p) : p.Yields (FlagIn id (OrCleared v)) fun _ => True :=
  .any (.keeps hp fun _ _ => OrCleared.turned)

theorem errValue_yields {I : Db → Prop} (hp : p.Yields I fun _ => True) :
    (errValue p).Yields I fun _ => True := by
  refine .bind hp.attempt fun r _ => ?_
  rcases r with (e | _) | a
  · exact .pure trivial
  · exact .throw _
  · exact .pure trivial

theorem Lifecycle.executionError_yields {I : Db → Prop} (hp : p.Yields I fun _ => True) :
    (executionError p).Yields I fun _ => True :=
  .bind (.mapError _ hp) fun _ _ => .pure trivial

namespace Platform

variable {p : Platform} {wf : Workflow} {l : Lifecycle}

theorem handler_yields (hl : WorkflowManager.BuiltFor p.workflows wf l) :
    (l.handler ctx).Yields (FlagIn id (OrCleared v)) fun _ => True := by
  have hlink : (l.systemLinkOrSwitch ctx).Yields (FlagIn id (OrCleared v)) fun _ => True :=
    .bind (.query (q := .done _) (.any _)) fun _ _ =>
      executionError_yields (l.systemActions.linkSystemAction_yields _ _)
  have hprimary : (l.updatePrimaryKey ctx).Yields (FlagIn id (OrCleared v)) fun _ => True := by
    simp only [Lifecycle.updatePrimaryKey, hl.keyConfigurationActions, p.updatePrimaryKey]
    refine .bind (.query (q := .done _) (.any _)) fun keyID _ => Lifecycle.executionError_yields ?_
    exact .bind (KeyConfigManager.updateKeyConfigurationByID_yields _ _ _ _) fun _ _ => .pure trivial
  have hkey : Calm (l.updateKeyState ctx) :=
    (executionError_calm (Syncs.calm (l.keyActions.get_keeps ctx _))).bind fun _ =>
      .ite (executionError_calm (l.keyActions.updateKey_keeps ctx _ _)) (.throw _)
  unfold handler
  split
  · exact hkey.yields
  · exact (executionError_calm (l.keyActions.delete_keeps ctx _)).yields
  · exact (executionError_calm (l.keyConfigurationActions.delete_keeps ctx _)).yields
  · exact hprimary
  · exact hlink
  · exact executionError_yields (l.systemActions.unlinkSystemAction_yields _)
  · exact hlink
  · exact .throw _
  · exact .throw _

theorem applyTransition_yields (hl : WorkflowManager.BuiltFor p.workflows wf l) (t : Transition) :
    (l.applyTransition ctx t).Yields (FlagIn id (OrCleared v)) fun _ => True := by
  have hexec : ∀ fsm, (l.transitionExecute ctx fsm).Yields (FlagIn id (OrCleared v)) fun _ => True := by
    intro fsm
    refine .bind (errValue_yields (.bind (.call _) fun _ _ => handler_yields hl)) fun r _ => ?_
    cases r with
    | ok u =>
      simp only
      split
      · exact .pure trivial
      · exact .throw _
    | error e =>
      simp only
      split
      · exact .pure trivial
      · exact .throw _
  have hstore : ∀ wf', (l.repository.patchWorkflow ctx wf').attempt.Yields (FlagIn id (OrCleared v))
      fun _ => True := fun wf' =>
    (Flags.yields (l.repository.patchWorkflow_flags wf')).attempt.mono fun _ _ => trivial
  refine .bind (.query (.any _)) fun r _ => ?_
  rcases r with e | (_ | _)
  · exact .pure trivial
  · simp only
    split
    · exact .pure trivial
    · split
      · refine .bind (hexec _) fun _ _ => .bind (hstore _) fun r _ => ?_
        cases r with
        | ok wf => exact .pure trivial
        | error e => exact .pure trivial
      · refine .bind (P := fun _ => True) (.pure trivial) fun _ _ => .bind (hstore _) fun r _ => ?_
        cases r with
        | ok wf => exact .pure trivial
        | error e => exact .pure trivial
  · exact .pure trivial

theorem confirm_minds (p : Platform) (i : UUID) :
    (p.workflows.transitionWorkflow ctx.request i .confirm).Minds
      (fun v => FlagIn id (OrCleared v)) (Turned id false) := by
  have hkeeps : ∀ {β : Type} {q : M β}, Flags id false q →
      q.Minds (fun v => FlagIn id (OrCleared v)) (Turned id false) := fun hq =>
    .keeps hq (fun _ _ h => h.flag) fun _ _ _ => OrCleared.turned
  refine .bind (hkeeps (.query (.done _))) fun u => .bind (hkeeps (.query _)) fun a => ?_
  refine .bind (.mapError _ ?_) fun wf' => ?_
  · rw [Repo.transaction_outermost rfl]
    refine .mapError _ (.transact fun v => Prog.Steady.mono (Q := fun r => ∀ b, r = .ok b → True) ?_
      fun _ _ => trivial)
    refine Prog.Yields.bind (.query (.any _)) fun ids _ => ?_
    refine .bind (Flags.yields (minimumApprovalsOf_flags _)) fun m _ => ?_
    refine .bind (.query (.any _)) fun groups _ => .bind (.query (.any _)) fun _ _ => ?_
    refine .bind (.query (.any _)) fun approver _ => ?_
    refine .bind (Flags.yields (WorkflowManager.recordTransitionInDB_flags _ _)) fun _ _ => ?_
    refine .bind (P := fun _ => True) (.mapError _ (.bind (.query (.any _)) fun _ _ => ?_))
      fun wf' _ => ?_
    · refine .bind (applyTransition_yields (p := p) ⟨rfl, rfl, rfl, rfl, rfl, rfl, rfl⟩ _) fun r _ => ?_
      rcases r with ⟨(e | _), wf'⟩
      · exact .throw _
      · exact .pure trivial
    · exact .bind (Flags.yields (handleTerminalWorkflow_flags _)) fun _ _ =>
        Flags.yields (attemptAutoReject_flags _ _ _)
  · exact hkeeps (.bind (.query _) fun idm => .bind (.query _) fun names =>
      .bind (notification_flags wf' _ names).attempt fun _ => .pure _)

end Platform

end

/-- The flag a workflow call writes: set by a new workflow, cleared by one that ends. -/
def Call.flagValue : Call → Bool
  | createWorkflow _ _ => true
  | _ => false

def Call.executes : Call → Bool
  | transitionWorkflow _ _ .confirm => true
  | _ => false

inductive Op where
  | workflow (call : Call)
  | request (ctx : Ctx) (req : Request)
  | callback (job : Job) (ending : Ending) (errorMessage : String)

namespace Op

/-- The program of an operation; `r` is the repository of the task queue. -/
def prog (p : Platform) (r : Repo) : Op → M Unit
  | workflow call => call.prog ⟨p.workflows, r⟩
  | request ctx req => p.prog ctx.request req
  | callback job ending errorMessage => p.handlers.handle job ending errorMessage

def isWorkflow : Op → Bool
  | workflow _ => true
  | _ => false

def writesRow : Op → Bool
  | workflow call => call.executes
  | _ => true

end Op

theorem Call.flagValue_of_executes (h : call.executes = true) :
    call.flagValue = false := by
  unfold executes at h
  split at h
  · rfl
  · cases h

theorem Call.prog_flags {p : WorkflowProcessor}
    (hget : ∀ own ctx i, Flags id own (p.updater.keyManager.get ctx i))
    (hexec : call.executes = false) : Flags id call.flagValue (call.prog p) := by
  cases call with
  | createWorkflow ctx wf =>
    exact .bind (createWorkflow_flags (hget true) wf) fun _ => .pure _
  | autoAssignApprovers ctx i =>
    exact .bind (autoAssignApprovers_flags (hget false) i) fun _ => .pure _
  | transitionWorkflow ctx i t =>
    refine .bind (transitionWorkflow_flags i ?_) fun _ => .pure _
    rintro rfl
    cases hexec
  | expireWorkflow ctx i => exact .bind (expireWorkflow_flags i) fun _ => .pure _
  | processTask ctx payload => exact WorkflowProcessor.processTask_flags (hget false) payload

theorem Call.prog_minds {p : Platform} {r : Repo} (hexec : call.executes = true) :
    (call.prog ⟨p.workflows, r⟩).Minds (fun v => FlagIn id (OrCleared v)) (Turned id false) := by
  unfold executes at hexec
  split at hexec
  · exact .bind (p.confirm_minds _) fun _ => trivial
  · cases hexec

/-- What a step of an operation does to the flag and the status of the system. -/
structure Op.Effect (id : UUID) (op : Op) (d d' : Db) : Prop where
  system : op.isWorkflow = false → FlagKept id d d'
  workflow : ∀ call, op = .workflow call → Turned id call.flagValue d d'
  status : op.writesRow = false → StatusKept id d d'

/-- Where an operation is; `last` is the flag its last statement left. -/
def Op.At (id : UUID) (op : Op) (last : Option (Option Bool)) (t : Thread Db World Exn) : Prop :=
  match op with
  | .workflow call =>
    if call.executes then t.Minds (fun v => FlagIn id (OrCleared v)) (Turned id false) last
    else t.Keeping (OnlyFlag id call.flagValue) AnyWorld
  | _ => ∀ v, (∀ u ∈ last, u = v) → t.Steady (FlagIn id (· = v))

theorem Op.at_start {p : Platform} {r : Repo}
    (hget : ∀ own ctx i, Flags id own (p.workflows.keyManager.get ctx i)) (op : Op) :
    op.At id none (.top [] (op.prog p r)) := by
  cases op with
  | workflow call =>
    simp only [At]
    split
    · rename_i hexec
      exact prog_minds hexec
    · rename_i hexec
      exact prog_flags (p := ⟨p.workflows, r⟩) hget (Bool.eq_false_iff.2 hexec)
  | request ctx req => exact fun v _ => Prog.Steady.mono (p.prog_yields req) fun _ _ => trivial
  | callback job ending msg =>
    exact fun v _ => Prog.Steady.mono (p.handlers.handle_yields job ending msg) fun _ _ => trivial

theorem Op.step {op : Op} {last : Option (Option Bool)} {t : Thread Db World Exn}
    {st : State} (hat : op.At id last t)
    (hlast : op.writesRow → ∀ v ∈ last, st.db.flag .system id = v) :
    op.At id (some ((t.step st).2.db.flag .system id)) (t.step st).1 ∧
      op.Effect id st.db (t.step st).2.db := by
  have hrow : op.isWorkflow = false → op.writesRow →
      (∀ v, (∀ u ∈ last, u = v) → t.Steady (FlagIn id (· = v))) →
      (∀ v, (∀ u ∈ some ((t.step st).2.db.flag .system id), u = v) →
        (t.step st).1.Steady (FlagIn id (· = v))) ∧ op.Effect id st.db (t.step st).2.db := by
    intro hop hwrites hsteady
    obtain ⟨hsteady', hflag⟩ := (hsteady _ fun u hu => (hlast hwrites u hu).symm).step rfl
    have hflag : FlagKept id st.db (t.step st).2.db := hflag
    refine ⟨fun v hv => ?_, fun _ => hflag, fun call hcall => ?_, fun h => ?_⟩
    · obtain rfl := hv _ rfl
      rwa [hflag]
    · rw [hcall] at hop
      cases hop
    · rw [h] at hwrites
      cases hwrites
  cases op with
  | workflow call =>
    simp only [At] at hat ⊢
    split at hat
    · rename_i hexec
      rw [if_pos hexec]
      obtain ⟨hat', hturned⟩ := hat.step (fun d : Db => d.flag .system id) (hlast hexec)
        (fun d b hb => .inl hb) fun d d' h b hb => h b hb
      refine ⟨hat', fun h => ?_, fun _ hcall => ?_, fun h => ?_⟩
      · cases h
      · cases hcall
        rw [flagValue_of_executes hexec]
        exact hturned
      · rw [writesRow, hexec] at h
        cases h
    · rename_i hexec
      rw [if_neg hexec]
      obtain ⟨hat', honly⟩ : (t.step st).1.Keeping (OnlyFlag id call.flagValue) AnyWorld ∧
        OnlyFlag id call.flagValue st.db (t.step st).2.db := hat.step
      refine ⟨hat', fun h => ?_, fun _ hcall => ?_, fun _ => honly.status⟩
      · cases h
      · cases hcall
        exact honly.flag
  | request ctx req => exact hrow rfl rfl hat
  | callback job ending msg => exact hrow rfl rfl hat

/-- What follows for the system if the flag does not change between two statements of an operation
that writes rows. The key manager is taken to leave the status of systems alone. -/
theorem underWorkflow_not_lost {ι : Type} [DecidableEq ι] (p : Platform) (r : Repo) (id : UUID)
    (ops : ι → Op) (s₀ : St Db World) (schedule : List ι)
    (hkeys : ∀ ctx i, Keeps (StatusKept id) AnyWorld (p.workflows.keyManager.get ctx i))
    (hrun : Pool.Undisturbed (fun d : Db => d.flag .system id) (fun i => (ops i).writesRow)
      (Pool.start (fun i => (ops i).prog p r) s₀) (fun _ => none) schedule) :
    let c := Pool.start (fun i => (ops i).prog p r) s₀
    let d := (c.steps schedule).st.db
    d.flag .system id =
      (c.lastStore (fun i => (ops i).isWorkflow) s₀.db schedule).flag .system id ∧
    d.systemStatus id = (c.lastStore (fun i => (ops i).writesRow) s₀.db schedule).systemStatus id ∧
    c.Along (fun c i => ∀ call, ops i = .workflow call →
      Turned id call.flagValue c.st.db (c.step i).st.db) schedule := by
  intro c d
  have hget : ∀ own ctx i, Flags id own (p.workflows.keyManager.get ctx i) := fun own ctx i =>
    Keeps.mono (fun _ _ h => ⟨fun b hb => .inl (h.1.flag _ _ b hb), h.2⟩) (fun _ _ _ => trivial)
      ((p.workflows.keyManager.get_keeps ctx i).and (hkeys ctx i))
  have hsteps : c.Along (fun c i => (ops i).Effect id c.st.db (c.step i).st.db) schedule :=
    Pool.undisturbed (fun i => (ops i).At id) (fun i => (ops i).Effect id)
      (fun i _ _ _ hat hlast => Op.step hat hlast) (fun i => Op.at_start hget (ops i)) hrun
  refine ⟨?_, ?_, hsteps.mono fun _ _ h => h.workflow⟩
  · refine Pool.lastStore_kept (R := FlagKept id) rfl (hsteps.mono fun _ i h hP => h.system ?_)
    exact Bool.eq_false_iff.2 hP
  · refine Pool.lastStore_kept (R := StatusKept id) rfl (hsteps.mono fun _ i h hP => h.status ?_)
    exact Bool.eq_false_iff.2 hP

namespace Sample

def linkingJob : Job where
  externalID := 40
  type := .systemLink
  data := { tenantID := "t", systemID := 40, keyIDTo := some 20 }
  status := "CREATED"

/-- The system is linked, its job ends, and a workflow is created for it. -/
def linkAndReview : Fin 3 → Op
  | 0 => .request (as "i") (.link 40 30)
  | 1 => .callback linkingJob .done ""
  | 2 => .workflow (.createWorkflow (as "i") (link 1))

def linkAndReviewStart : Pool (Fin 3) Db World Exn :=
  Pool.start (fun i => (linkAndReview i).prog platform repo) ⟨jobsDb, world, 0, []⟩

def inTurn : List (Fin 3) := List.replicate 10 0 ++ List.replicate 7 1 ++ List.replicate 32 2

theorem underWorkflow_kept_in_turn :
    let d := (linkAndReviewStart.steps inTurn).st.db
    d.flag .system 40 = some true ∧
    d.flag .system 40 = (linkAndReviewStart.lastStore (fun i => (linkAndReview i).isWorkflow) jobsDb
      inTurn).flag .system 40 ∧
    d.systemStatus 40 = some .connected ∧
    d.systemStatus 40 = (linkAndReviewStart.lastStore (fun i => (linkAndReview i).writesRow) jobsDb
      inTurn).systemStatus 40 := by
  obtain ⟨hflag, hstatus, -⟩ := underWorkflow_not_lost platform repo 40 linkAndReview
    ⟨jobsDb, world, 0, []⟩ inTurn (fun _ _ => .query _) (by decide +kernel)
  exact ⟨by decide +kernel, hflag, by decide +kernel, hstatus⟩

/-- The callback reads the system, the workflow is created, and the callback writes. -/
def crossing : List (Fin 3) :=
  List.replicate 10 0 ++ [1] ++ List.replicate 32 2 ++ List.replicate 6 1

/-- The workflow has set the flag, and the callback, which came after it, has cleared it. -/
theorem underWorkflow_overwritten :
    let c := linkAndReviewStart.steps crossing
    (∀ i, (c.threads i).Ended) ∧
    (linkAndReviewStart.lastStore (fun i => (linkAndReview i).isWorkflow) jobsDb
      crossing).flag .system 40 = some true ∧
    c.st.db.flag .system 40 = some false ∧
    (c.st.db.workflows.get? 1).map (·.state) = some .initial := by
  refine ⟨fun i => ?_, by decide +kernel, by decide +kernel, by decide +kernel⟩
  match i with
  | 0 => exact ⟨_, _, rfl⟩
  | 1 => exact ⟨_, _, rfl⟩
  | 2 => exact ⟨_, _, rfl⟩

end Sample

end Cmk
