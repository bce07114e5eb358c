import Cmk.Jobs.Quiet

/-!
# Cmk.Jobs.Confirm

A confirmed workflow, as deeds.

The action of a workflow runs inside the transaction that stores the workflow's new state, and an
error of the action is stored with it: what the action had written stays. So the deeds of an action
that failed half way, `mark` and `retarget`, are seen after a workflow only.

* `View.Same`            — the systems, events and jobs are the same.
* `wp_confirm`           — a confirmation does what the action does, or leaves its jobs.
* `Executes`, `wp_action`— the deeds of the actions on systems and primary keys.
-/

namespace Cmk

open Tx Lifecycle

variable {ctx : Ctx} {s s' : State}

structure View.Same (v v' : View) : Prop where
  connection : v'.connection = v.connection
  event : v'.event = v.event
  jobs : v'.jobs = v.jobs

structure Aside (d d' : Db) : Prop where
  connection : d'.connection = d.connection
  events : d'.events = d.events

instance : Std.Refl Aside := ⟨fun _ => ⟨rfl, rfl⟩⟩

instance : IsTrans Db Aside :=
  ⟨fun _ _ _ h h' => ⟨h'.connection.trans h.connection, h'.events.trans h.events⟩⟩

def SameJobs (x x' : World) : Prop := x'.jobs = x.jobs

instance : Std.Refl SameJobs := ⟨fun _ => rfl⟩

instance : IsTrans World SameJobs := ⟨fun _ _ _ h h' => Eq.trans h' h⟩

/-- A program that leaves the systems, events and jobs alone. -/
abbrev Besides {α : Type} (p : M α) : Prop := Keeps Aside SameJobs p

def Local (P : View → Prop) : Prop := ∀ v v', v.Same v' → P v → P v'

theorem Besides.wp {α : Type} {p : M α} {i : Bool} {P : View → Prop} (hp : Besides p) (hP : Local P)
    (h : P s.view) : p.wp i (fun _ s' => P s'.view) s := by
  obtain ⟨hd, hx⟩ := hp.run (i := i) (s := s) rfl
  refine hP s.view _ ⟨hd.connection, ?_, hx⟩ h
  rw [view_event, hd.events]
  rfl

theorem Configures.besides {α : Type} {p : M α} (hp : Configures p) : Besides p := by
  refine Keeps.mono (fun d d' h => ?_) (fun _ _ h => by rw [h]; rfl) hp
  rw [h]
  exact ⟨rfl, rfl⟩

theorem Repo.patchWorkflow_besides (r : Repo) (wf : Workflow) :
    Besides (r.patchWorkflow ctx wf) := by
  refine exec_keeps fun n d => ?_
  split
  · exact ⟨rfl, rfl⟩
  · exact ⟨rfl, rfl⟩

namespace WorkflowManager

variable (w : WorkflowManager)

theorem handleTerminalWorkflow_besides (wf : Workflow) :
    Besides (w.handleTerminalWorkflow ctx wf) := by
  refine .ite ?_ (.pure _)
  unfold patchUnderWorkflow
  split
  · refine exec_keeps fun _ d => ⟨?_, rfl⟩
    funext id
    rw [Db.connection, Db.connection, get?_modify]
    by_cases hid : id = wf.artifactID
    · subst hid
      rw [Function.update_self, Option.map_map]
      rfl
    · rw [Function.update_of_ne hid]
  · exact exec_keeps fun _ _ => ⟨rfl, rfl⟩
  · exact .pure _

theorem notification_besides (wf : Workflow) (t : Transition) (recipients : List String) :
    Besides (w.createWorkflowTransitionNotificationTask ctx wf t recipients) := by
  unfold createWorkflowTransitionNotificationTask
  split
  · exact .pure _
  · refine .bind (.query _) fun _ => .bind (.query _) fun _ => .ite (.pure _) ?_
    refine .bind (.query _) fun created => .ite (.call fun n d x => ?_) (.pure _)
    split
    · exact rfl
    · exact rfl

end WorkflowManager

section

variable {P : View → Prop} (hP : Local P)

include hP

namespace Lifecycle

variable {l : Lifecycle}

theorem transitionExecute_local {fsm : FSM}
    (hhandler : ∀ s0 : State, s0.view = s.view →
      (l.handler ctx).wp true (fun _ s' => P s'.view) s0) :
    (l.transitionExecute ctx fsm).wp true (fun _ s' => P s'.view) s := by
  have hexec : (l.executeWorkflowAction ctx).wp true (fun _ s' => P s'.view) s :=
    wp_bind (hhandler _ rfl)
  refine wp_state_bind (P := fun s' => P s'.view) (wp_errValue (wp_mono hexec
    fun r s' h => ?_)) fun r s1 h1 => ?_
  · rcases r with (e | _) | a <;> exact h
  · refine Besides.wp ?_ hP h1
    cases r with
    | ok u =>
      simp only
      split
      · exact .pure _
      · exact .throw _
    | error e =>
      simp only
      split
      · exact .pure _
      · exact .throw _

theorem applyTransition_local (hkept : P s.view)
    (hhandler : ∀ s0 : State, s0.view = s.view →
      (l.handler ctx).wp true (fun _ s' => P s'.view) s0) :
    (l.applyTransition ctx .confirm).wp true (fun _ s' => P s'.view) s := by
  unfold applyTransition
  refine Prog.wp_query_attempt_bind fun r n _ => ?_
  have hkept : P ({ s with clock := n } : State).view := hkept
  cases r with
  | error e => exact hkept
  | ok skip =>
    cases skip with
    | true => exact hkept
    | false =>
      simp only
      split
      · exact hkept
      · rename_i fsm _
        split
        · refine wp_state_bind (P := fun s' => P s'.view)
            (transitionExecute_local hP fun s0 hs0 => hhandler s0 hs0) fun x s1 h1 => ?_
          refine Besides.wp (.bind (l.repository.patchWorkflow_besides _).attempt fun r => ?_) hP h1
          cases r with
          | ok wf => exact .pure _
          | error e => exact .pure _
        · refine wp_state_bind (P := fun s' => P s'.view) hkept fun x s1 h1 => ?_
          refine Besides.wp (.bind (l.repository.patchWorkflow_besides _).attempt fun r => ?_) hP h1
          cases r with
          | ok wf => exact .pure _
          | error e => exact .pure _

end Lifecycle

namespace WorkflowManager

variable {w : WorkflowManager}

theorem applyTransitionTx_local {u : String} {wf : Workflow} (hkept : P s.view)
    (hhandler : ∀ l (s0 : State), BuiltFor w wf l → s.view.Same s0.view →
      (l.handler ctx).wp true (fun _ s' => P s'.view) s0) :
    (w.applyTransitionTx ctx u wf .confirm).wp true (fun _ s' => P s'.view) s := by
  unfold applyTransitionTx
  refine wp_query_bind (fun _ _ _ => hkept) fun ids n _ => ?_
  have hsame : Local fun v => s.view.Same v := fun v v' h h' =>
    ⟨h.connection.trans h'.connection, h.event.trans h'.event, h.jobs.trans h'.jobs⟩
  have hmin : (w.minimumApprovalsOf ctx wf).wp true (fun _ s' => s.view.Same s'.view)
      { s with clock := n } :=
    (w.minimumApprovalsOf_configures ctx wf).besides.wp hsame ⟨rfl, rfl, rfl⟩
  refine wp_bind_run (fun e s1 hrun => hP _ _ (wp_of_run hmin hrun) hkept)
    fun m s1 hrun => ?_
  have hs1 : s.view.Same s1.view := wp_of_run hmin hrun
  have hkept1 : P s1.view := hP _ _ hs1 hkept
  refine wp_query_bind (fun _ _ _ => hkept1) fun groups n1 _ => ?_
  refine wp_query_bind (fun _ _ _ => hkept1) fun _ n2 _ => ?_
  refine wp_query_bind (fun _ _ _ => hkept1) fun approver n3 _ => ?_
  simp only [recordTransitionInDB, Prog.pure_bind]
  refine wp_state_bind (P := fun s' => P s'.view) (wp_mapError ?_) fun wf' s2 h2 => ?_
  · refine wp_query_bind (fun _ _ _ => hkept1) fun _ n4 _ => ?_
    refine wp_state_bind (P := fun s' => P s'.view) ?_ fun r s3 h3 => ?_
    · refine applyTransition_local hP (s := { s1 with clock := n4 }) hkept1 fun s0 hs0 => ?_
      exact hhandler _ s0 ⟨rfl, rfl, rfl, rfl, rfl, rfl, rfl⟩ (hs0 ▸ hs1)
    · rcases r with ⟨(e | u), wf'⟩ <;> exact h3
  · refine Besides.wp ((w.handleTerminalWorkflow_besides wf').bind fun _ => ?_) hP h2
    rw [attemptAutoReject, if_pos (.inr (by decide))]
    exact .pure _

/-- A confirmation does what the action of the workflow does, or is rolled back and leaves the jobs
of the action. -/
theorem wp_confirm {I : View → Prop} {id : UUID} (hI : Local I) (hstart : I s.view) (hkept : P s.view)
    (hhandler : ∀ wf l (s0 : State), s.db.workflows.get? id = some wf → BuiltFor w wf l →
      s.view.Same s0.view → (l.handler ctx.tx).wp true (fun _ s' => P s'.view) s0)
    (hdone : ∀ v, P v → I v) (hrolled : ∀ v, P v → I { s.view with jobs := v.jobs }) :
    (w.transitionWorkflow ctx.request id .confirm).wp false (fun _ s' => I s'.view) s := by
  unfold transitionWorkflow
  refine wp_query_bind (q := .done _) (fun _ _ _ => hstart) fun u n _ => ?_
  refine wp_query_bind (fun _ _ _ => hstart) fun a k ha => ?_
  obtain ⟨wf, approvers⟩ := a
  obtain ⟨hrow, hid, -⟩ := firstWorkflowWithApprovers_ok ha
  refine wp_state_bind (P := fun s' => I s'.view) (wp_mapError ?_) fun wf' s1 h1 => ?_
  · refine Repo.wp_transaction_view (P := fun _ v => I v) rfl ?_
    refine wp_mono (applyTransitionTx_local hP (s := { s with clock := k }) hkept
      fun l s0 hl hs0 => hhandler wf l s0 (hid ▸ hrow) hl hs0) fun res s' h => ⟨fun _ _ => hdone _ h,
        fun _ _ => hrolled _ h⟩
  · refine Besides.wp (.bind (.query _) fun idm => .bind (.query _) fun recipients => ?_) hI h1
    exact .bind (w.notification_besides wf' _ recipients).attempt fun _ => .pure _

end WorkflowManager

end

namespace View.Same

variable {v v' v'' : View}

theorem refl (v : View) : v.Same v := ⟨rfl, rfl, rfl⟩

theorem trans (h : v.Same v') (h' : v'.Same v'') : v.Same v'' :=
  ⟨h'.connection.trans h.connection, h'.event.trans h.event, h'.jobs.trans h.jobs⟩

end View.Same

/-- Does the workflow link, switch or unlink a system, or change a primary key? -/
def Workflow.onSystems (wf : Workflow) : Bool :=
  match wf.artifactType, wf.actionType with
  | .system, .link | .system, .switch | .system, .unlink | .keyConfiguration, .updatePrimary => true
  | _, _ => false

def Executes (f : EventFactory) (_ : View) : Deed → Prop
  | .submit job _ _ _ _ => job.type ≠ .systemKeyRotate
  | .mark _ _ _ => f.RefusesJob
  | .prepare job => job.data.systemID = job.externalID
  | .retarget _ _ _ _ | .rekey _ _ | .replace _ => True
  | _ => False

theorem Executes.rollback {f : EventFactory} {v v' v0 : View} (h : Leads (Executes f) v v')
    (h0 : v0.jobs = v.jobs) : Leads (Executes f) v0 { v0 with jobs := v'.jobs } := by
  refine (h.rollback (J := fun job => job.data.systemID = job.externalID)
    (fun w δ hδ hen job hjob => ?_) h0).mono ?_
  · cases δ with
    | submit job' prev kcID target stored =>
      cases hjob
      exact hen.2.1
    | prepare job' =>
      cases hjob
      exact hδ
    | rotate | retry => exact hδ.elim
    | _ => cases hjob
  · rintro w δ ⟨job, rfl, hdata⟩
    exact hdata

theorem Updates.executes {f : EventFactory} {c : UUID} {old new : Option UUID} {v : View} {δ : Deed}
    (h : f.Marked (Updates f c old new) v δ) : Executes f v δ := by
  rcases h with h | ⟨hr, id, kcID, target, rfl⟩
  · cases δ with
    | submit job prev kcID target stored => exact h.not_rotate
    | rekey ev keyID => trivial
    | replace kc => trivial
    | _ => exact h.elim
  · exact hr

namespace Platform

variable {p : Platform}

theorem wp_linkSystemAction (hin : ctx.inTx = true) {systemID keyConfigID : UUID} :
    (p.systems.linkSystemAction ctx systemID keyConfigID).wp true (fun _ s' =>
      Leads (Executes p.eventFactory) s.view s'.view) s := by
  rw [SystemManager.linkSystemAction, Repo.transaction_inTx hin]
  refine wp_mapError (SystemManager.wp_link hin (fun e s' hv => ?_)
    (fun e s' status kcID target hen hv => ?_) (fun e s' kcID target hr hen hv => ?_)
    fun s' job prev kcID target stored _ hjob _ hen hv => ?_)
  · rw [hv]; exact .refl
  · rw [hv]; exact .single trivial hen
  · rw [hv]; exact .single hr hen
  · rw [hv]
    refine .single (fun hty => ?_) hen
    rcases hjob.type with h | h <;> rw [h] at hty <;> cases hty

theorem wp_unlinkSystemAction (hin : ctx.inTx = true) {systemID : UUID} :
    (p.systems.unlinkSystemAction ctx systemID).wp true (fun _ s' =>
      Leads (Executes p.eventFactory) s.view s'.view) s := by
  rw [SystemManager.unlinkSystemAction, Repo.transaction_inTx hin]
  refine SystemManager.wp_unlink hin (fun e s' hv => ?_) (fun e s' kcID target hr hen hv => ?_)
    fun s' job prev kcID target stored _ hty _ _ hen hv => ?_
  · rw [hv]; exact .refl
  · rw [hv]; exact .single hr hen
  · rw [hv]
    exact .single (fun h => by rw [hty] at h; cases h) hen

theorem wp_action (hin : ctx.inTx = true) {wf : Workflow} {l : Lifecycle}
    (hl : WorkflowManager.BuiltFor p.workflows wf l) (hwf : wf.onSystems) :
    (l.handler ctx).wp true (fun _ s' => Leads (Executes p.eventFactory) s.view s'.view) s := by
  have hlink : (l.systemLinkOrSwitch ctx).wp true (fun _ s' =>
      Leads (Executes p.eventFactory) s.view s'.view) s := by
    simp only [systemLinkOrSwitch, hl.systemActions]
    refine wp_query_bind (q := .done _) (fun _ _ _ => .refl) fun keyConfigID n _ => ?_
    exact wp_state_bind (wp_mapError (wp_linkSystemAction (s := { s with clock := n }) hin))
      fun _ _ h => h
  have hunlink : (l.systemUnlink ctx).wp true (fun _ s' =>
      Leads (Executes p.eventFactory) s.view s'.view) s := by
    simp only [systemUnlink, hl.systemActions]
    exact wp_state_bind (wp_mapError (wp_unlinkSystemAction hin)) fun _ _ h => h
  have hprimary : (l.updatePrimaryKey ctx).wp true (fun _ s' =>
      Leads (Executes p.eventFactory) s.view s'.view) s := by
    simp only [Lifecycle.updatePrimaryKey, hl.keyConfigurationActions, p.updatePrimaryKey]
    refine wp_query_bind (q := .done _) (fun _ _ _ => .refl) fun keyID n _ => ?_
    refine wp_state_bind (wp_mapError (wp_state_bind ?_ fun _ _ h => h)) fun _ _ h => h
    exact KeyConfigManager.wp_updateKeyConfigurationByID_inTx (s := { s with clock := n }) hin
      (fun _ _ => .refl) fun kc s' res _ h => h.ran.marked.mono fun _ _ => Updates.executes
  unfold handler
  rw [hl.workflow]
  simp only [Workflow.onSystems] at hwf
  split at hwf
  · rename_i hty hact
    rw [hty, hact]
    exact hlink
  · rename_i hty hact
    rw [hty, hact]
    exact hlink
  · rename_i hty hact
    rw [hty, hact]
    exact hunlink
  · rename_i hty hact
    rw [hty, hact]
    exact hprimary
  · cases hwf

end Platform

/-- What is known of a confirmed workflow: its deeds, with nothing that matters around them. -/
def Confirmed (p : Platform) (v v' : View) : Prop :=
  ∃ v₀ v₁, v.Same v₀ ∧ Leads (Executes p.eventFactory) v₀ v₁ ∧ v₁.Same v'

theorem Sys.step_workflow {p : Platform} {s s' : Sys} {ctx : Ctx} {id : UUID}
    (hwf : ∀ wf ∈ s.st.db.workflows.get? id, wf.onSystems)
    (h : s.step p (.workflow ctx id) = some s') :
    Confirmed p s.view s'.view ∧ s'.phase = s.phase ∧ s'.ended = s.ended ∧
      s'.promoted = s.promoted ∧ s'.stable = s'.view.observe s.stable := by
  have hconf : (p.workflows.transitionWorkflow ctx.request id .confirm).wp false (fun _ s' =>
      Confirmed p s.view s'.view) s.st := by
    have hlocal : Local (Confirmed p s.view) := fun v v' hv ⟨v0, v1, h0, hl, h1⟩ =>
      ⟨v0, v1, h0, hl, h1.trans hv⟩
    have hkept : Confirmed p s.view s.view := ⟨_, _, .refl _, .refl, .refl _⟩
    refine WorkflowManager.wp_confirm hlocal hlocal hkept hkept ?_ (fun _ h => h) ?_
    · intro wf l s0 hrow hl hsame
      exact wp_mono (Platform.wp_action rfl hl (hwf wf hrow)) fun _ s' h =>
        ⟨s0.view, s'.view, hsame, h, .refl _⟩
    · rintro v ⟨v0, v1, h0, hl, h1⟩
      exact ⟨s.view, _, .refl _, Executes.rollback hl h0.jobs.symm, ⟨rfl, rfl, h1.jobs⟩⟩
  cases h
  exact ⟨hconf, rfl, rfl, rfl, rfl⟩

end Cmk
