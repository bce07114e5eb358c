import Cmk.Spec.Rows

/-!
# Cmk.Spec.Vote

The transaction of an approval or a rejection. The vote is stored first; then the transition of the
vote is taken if the count decides it; if the workflow still waits, it is rejected if the minimum
is out of reach. `wp_applyTransitionTx_vote` says in which of these ways the transaction can end.
-/

namespace Cmk

open Tx Prog Lifecycle Repo

variable {st st' : WorkflowState} {t : Transition} {P : Post Workflow}

def nextState : WorkflowState → Transition → Option WorkflowState
  | .initial, .create => some .waitApproval
  | .waitApproval, .approve => some .waitConfirmation
  | .waitApproval, .reject => some .rejected
  | .waitApproval, .revoke | .waitConfirmation, .revoke => some .revoked
  | .waitConfirmation, .confirm => some .executing
  | .waitApproval, .expire | .waitConfirmation, .expire | .executing, .expire => some .expired
  | .executing, .fail => some .failed
  | .executing, .execute => some .successful
  | _, _ => none

theorem target_workflowEvents (st : WorkflowState) (t : Transition) :
    FSM.target ⟨st, workflowEvents⟩ t = nextState st t := by
  cases st <;> cases t <;> rfl

theorem event_ok {fsm : FSM} (h : FSM.event ⟨st, workflowEvents⟩ t = .ok fsm) :
    fsm.events = workflowEvents ∧ nextState st t = some fsm.current := by
  unfold FSM.event at h
  rw [target_workflowEvents] at h
  split at h
  · rename_i dst hdst
    cases h
    exact ⟨rfl, hdst⟩
  · split at h <;> cases h

theorem event_of_nextState (h : nextState st t = some st') :
    FSM.event ⟨st, workflowEvents⟩ t = .ok ⟨st', workflowEvents⟩ := by
  rw [FSM.event, target_workflowEvents, h]

theorem vote_state (ht : t.isVote) (h : FSM.can ⟨st, workflowEvents⟩ t) : st = .waitApproval := by
  rcases isVote_iff.1 ht with rfl | rfl <;> cases st <;> first | rfl | cases h

theorem create_state (h : nextState st .create = some st') :
    st = .initial ∧ st' = .waitApproval := by
  cases st <;> cases h
  exact ⟨rfl, rfl⟩

theorem revoke_state (h : nextState st .revoke = some st') :
    st' = .revoked := by
  cases st <;> cases h <;> rfl

theorem expire_state (h : nextState st .expire = some st') :
    st' = .expired := by
  cases st <;> cases h <;> rfl

def voteTarget (t : Transition) : WorkflowState :=
  if t = .approve then .waitConfirmation else .rejected

namespace Lifecycle

variable {l : Lifecycle} {ctx : Ctx} {t : Transition} {s : State}

theorem wp_applyTransition_vote {P : Post (Except Exn Unit × Workflow)}
    (ht : t.isVote) (hfsm : l.stateMachine = ⟨l.workflow.state, workflowEvents⟩)
    (hrow : s.db.workflows.get? l.workflow.id = some l.workflow)
    (henum : enumError l.workflow = none)
    (hfailed : ∀ e wf n, (l.workflow.state = .waitApproval → ∃ m, l.repository.Refuses ctx m) →
      P (.ok (.error e, wf)) { s with clock := n })
    (hundecided : ∀ n, l.workflow.state = .waitApproval →
      (Few (approversOf s.db l.workflow.id) →
        l.decides t (approversOf s.db l.workflow.id) = false) →
      P (.ok (.ok (), l.workflow)) { s with clock := n })
    (hdecided : ∀ wf table n, l.workflow.state = .waitApproval →
      (Few (approversOf s.db l.workflow.id) →
        l.decides t (approversOf s.db l.workflow.id) = true) →
      Restated s.db { s.db with workflows := table } l.workflow wf → wf.state = voteTarget t →
      P (.ok (.ok (), wf)) { s with db := { s.db with workflows := table }, clock := n }) :
    (l.applyTransition ctx t).wp true P s := by
  have hpre : l.transitionPrecheck ctx t = (do return !(← l.checkVotingScore ctx t)) := by
    rcases isVote_iff.1 ht with rfl | rfl <;> rfl
  unfold applyTransition
  rw [hpre]
  refine wp_query_attempt_bind fun r n hr => ?_
  rw [eval_bind] at hr
  cases hscore : (l.checkVotingScore ctx t).eval s.db s.clock with
  | mk b m =>
    rw [hscore] at hr
    cases b with
    | error e =>
      cases hr
      refine hfailed e _ n fun hst => ⟨s.clock, ?_⟩
      refine l.checkVotingScore_error ctx ht ?_ hscore
      rw [hfsm, hst]
      rcases isVote_iff.1 ht with rfl | rfl <;> rfl
    | ok b =>
      cases hr
      obtain ⟨hcan, -, hb⟩ := l.checkVotingScore_ok ctx hscore
      have hst : l.workflow.state = .waitApproval := vote_state ht (hfsm ▸ hcan)
      have hd : Few (approversOf s.db l.workflow.id) →
          l.decides t (approversOf s.db l.workflow.id) = b :=
        fun hfew => (l.decides_page hfew).symm.trans (hb ht).symm
      cases b with
      | false => exact hundecided n hst hd
      | true =>
        have hev : l.stateMachine.event t = .ok ⟨voteTarget t, workflowEvents⟩ := by
          rw [hfsm, hst]
          rcases isVote_iff.1 ht with rfl | rfl <;> rfl
        have hne : voteTarget t ≠ .executing := by
          rcases isVote_iff.1 ht with rfl | rfl <;> decide
        simp only [Bool.not_true, hev, if_neg hne, pure_bind]
        refine wp_bind (wp_attempt
          (wp_patchWorkflow (s := { s with clock := n }) l.workflow _ _ hrow henum ?_ ?_))
        · exact fun e he => hfailed _ _ _ fun _ => ⟨n, he⟩
        · exact fun wf table hd' hwf => hdecided wf table _ hst hd hd' hwf

end Lifecycle

namespace WorkflowManager

variable {w : WorkflowManager} {ctx : Ctx} {wf : Workflow} {t : Transition} {s : State}
  {ids : Option (List String)}

theorem minimumApprovalsOf_eq (h : wf.minimumApprovalCount ≠ 0) :
    w.minimumApprovalsOf ctx wf = pure wf.minimumApprovalCount := by
  unfold minimumApprovalsOf
  rw [if_neg h]

@[simp] theorem workflowLifecycle_minimum (u : String) (h : wf.minimumApprovalCount ≠ 0) :
    (w.workflowLifecycle wf u wf.minimumApprovalCount ids).minimumApproverCount =
      wf.minimumApprovalCount :=
  if_neg h

/-- No approver has an empty user ID. The rejection attempted after a vote counts such a row as one
more rejection. -/
def Named (rows : List WorkflowApprover) : Prop := ∀ a ∈ rows, a.userID ≠ ""

def OutOfReach (wf : Workflow) (ids : Option (List String)) (rows : List WorkflowApprover) : Prop :=
  score rows + openVotes ids rows < wf.minimumApprovalCount

theorem autoReject_decides (hm : wf.minimumApprovalCount ≠ 0) {rows : List WorkflowApprover}
    (hn : Named rows) :
    (w.workflowLifecycle wf "" wf.minimumApprovalCount ids).decides .reject rows = true ↔
      OutOfReach wf ids rows := by
  have hb : ∀ a ∈ rows, (w.workflowLifecycle wf "" wf.minimumApprovalCount ids).ballot .reject a =
      a.approved := fun a ha => if_neg (hn a ha)
  rw [decides_reject _ hb, workflowLifecycle_minimum "" hm, decide_eq_true_eq]
  rfl

/-- After a vote that left the workflow waiting, it is rejected if the minimum is out of reach. -/
theorem wp_attemptAutoReject (ht : t.isVote) (hst : wf.state = .waitApproval)
    (hm : wf.minimumApprovalCount ≠ 0) (hrow : s.db.workflows.get? wf.id = some wf)
    (henum : enumError wf = none)
    (hkept : ∀ wf' n, (Few (approversOf s.db wf.id) → Named (approversOf s.db wf.id) →
        OutOfReach wf ids (approversOf s.db wf.id) → ∃ m, w.repo.Refuses ctx m) →
      P (.ok wf') { s with clock := n })
    (hrejected : ∀ wf' table n, (Few (approversOf s.db wf.id) →
        Named (approversOf s.db wf.id) → OutOfReach wf ids (approversOf s.db wf.id)) →
      Restated s.db { s.db with workflows := table } wf wf' → wf'.state = .rejected →
      P (.ok wf') { s with db := { s.db with workflows := table }, clock := n }) :
    (w.attemptAutoReject ctx wf t ids).wp true P s := by
  unfold attemptAutoReject
  rw [if_neg (by simp [hst, ht]), minimumApprovalsOf_eq hm, errValue_pure, pure_bind]
  refine wp_bind (wp_errValue (wp_applyTransition_vote rfl rfl hrow henum ?_ ?_ ?_))
  · exact fun e wf' n hr => hkept wf' n fun _ _ _ => hr hst
  · intro n _ hd
    refine hkept _ n fun hfew hn hout => ?_
    cases (hd hfew).symm.trans ((autoReject_decides hm hn).2 hout)
  · intro wf' table n _ hd hre hwf
    exact hrejected wf' table n (fun hfew hn => (autoReject_decides hm hn).1 (hd hfew)) hre hwf

def Undecided (t : Transition) (wf : Workflow) (ids : Option (List String))
    (rows : List WorkflowApprover) : Prop :=
  (t = .approve → score rows < wf.minimumApprovalCount) ∧ (t = .reject → ¬ OutOfReach wf ids rows)

/-- The state stored with a vote, given the rows after it, and whether the flag of the artifact was
cleared. What the count says is known if the rows fit on one page. A workflow that waits on although
the minimum is out of reach met a database error. -/
inductive VoteOutcome (refused : Prop) (t : Transition) (wf : Workflow) (ids : Option (List String))
    (rows : List WorkflowApprover) : WorkflowState → Bool → Prop where
  | confirmed : t = .approve → (Few rows → wf.minimumApprovalCount ≤ score rows) →
      VoteOutcome refused t wf ids rows .waitConfirmation false
  | rejected : t = .reject → (Few rows → OutOfReach wf ids rows) →
      VoteOutcome refused t wf ids rows .rejected true
  | autoRejected : (Few rows → Undecided t wf ids rows) →
      (Few rows → Named rows → OutOfReach wf ids rows) →
      VoteOutcome refused t wf ids rows .rejected false
  | waiting : (Few rows → Undecided t wf ids rows) →
      (Few rows → Named rows → OutOfReach wf ids rows → refused) →
      VoteOutcome refused t wf ids rows .waitApproval false

/-- A vote of user `u` was cast: the rows before and after it. -/
structure VoteCast (refused : Prop) (t : Transition) (u : String) (ids : Option (List String))
    (wf wf' : Workflow) (d d' : Db) : Prop where
  isVote : t.isVote
  waiting : wf.state = .waitApproval
  row : Restated d d' wf wf'
  approver : ∃ a, d.approvers.get? (wf.id, u) = some a
  vote : Voted d d' wf.id u (t = .approve)
  approverGroups : d'.approverGroups = d.approverGroups
  outcome : ∃ cleared, VoteOutcome refused t wf ids (Repo.approversOf d' wf.id) wf'.state cleared ∧
    ClearedIf cleared wf d d'

theorem recordTransitionInDB_vote (ht : t.isVote) (a : WorkflowApprover) :
    w.recordTransitionInDB ctx t (some a) = w.updateApproverDecision ctx a (t = .approve) := by
  rcases isVote_iff.1 ht with rfl | rfl <;> rfl

theorem handleTerminalWorkflow_open (h : wf.state ∉ workflowTerminalStates) :
    w.handleTerminalWorkflow ctx wf = pure () := by
  unfold handleTerminalWorkflow
  rw [if_neg h]

theorem attemptAutoReject_decided (h : wf.state ≠ .waitApproval) :
    w.attemptAutoReject ctx wf t ids = pure wf := by
  unfold attemptAutoReject
  rw [if_pos (.inl h)]

theorem decides_vote {l : Lifecycle} {rows : List WorkflowApprover} (ht : t.isVote)
    (hids : l.eligibleApproverIDs = ids) (hmin : l.minimumApproverCount = wf.minimumApprovalCount)
    (hballot : ∀ a ∈ rows, l.ballot t a = a.approved) :
    l.decides t rows = true ↔
      (t = .approve ∧ wf.minimumApprovalCount ≤ score rows) ∨
        (t = .reject ∧ OutOfReach wf ids rows) := by
  rcases isVote_iff.1 ht with rfl | rfl
  · rw [l.decides_approve hballot, decide_eq_true_eq, hmin]
    simp
  · rw [l.decides_reject hballot, decide_eq_true_eq, hmin, hids]
    simp [OutOfReach]

theorem wp_transition_vote {l : Lifecycle} (ht : t.isVote) (hwf : l.workflow = wf)
    (hfsm : l.stateMachine = ⟨l.workflow.state, workflowEvents⟩)
    (hids : l.eligibleApproverIDs = ids) (hmin : l.minimumApproverCount = wf.minimumApprovalCount)
    (hrow : s.db.workflows.get? wf.id = some wf) (hm : wf.minimumApprovalCount ≠ 0)
    (henum : enumError wf = none)
    (hballot : ∀ a ∈ approversOf s.db wf.id, l.ballot t a = a.approved)
    (herr : ∀ e s', s'.ext = s.ext → P (.error e) s')
    (hok : ∀ res s' wf' cleared, s'.ext = s.ext → wf.state = .waitApproval →
      Restated s.db s'.db wf wf' → s'.db.approvers = s.db.approvers →
      s'.db.approverGroups = s.db.approverGroups →
      VoteOutcome (∃ m, w.repo.Refuses ctx m) t wf ids (approversOf s.db wf.id) wf'.state cleared →
      ClearedIf cleared wf s.db s'.db → P (.ok res) s') :
    wp true (do
      let workflow ← (l.validateAndApplyTransition ctx t).mapError (.wrap .errApplyTransition)
      w.handleTerminalWorkflow ctx workflow
      w.attemptAutoReject ctx workflow t ids) P s := by
  refine wp_bind (wp_mapError ?_)
  refine wp_query_bind (fun e n _ => herr _ _ rfl) fun _ n _ => wp_bind ?_
  subst hwf
  refine wp_applyTransition_vote (s := { s with clock := n }) ht hfsm hrow henum ?_ ?_ ?_
  · exact fun e wf' n' _ => herr _ _ rfl
  · -- the workflow still waits; it may be rejected now
    intro n' hst hd
    have hun : Few (approversOf s.db l.workflow.id) →
        Undecided t l.workflow ids (approversOf s.db l.workflow.id) := by
      intro hfew
      have hno := (decides_vote ht hids hmin hballot).not.1 (Bool.eq_false_iff.1 (hd hfew))
      exact ⟨fun h => lt_of_not_ge fun hle => hno (.inl ⟨h, hle⟩), fun h ho => hno (.inr ⟨h, ho⟩)⟩
    change wp true (w.handleTerminalWorkflow ctx l.workflow >>= fun _ =>
      w.attemptAutoReject ctx l.workflow t ids) P { s with clock := n' }
    rw [handleTerminalWorkflow_open (by rw [hst]; decide), pure_bind]
    refine wp_attemptAutoReject ht hst hm hrow henum ?_ ?_
    · exact fun wf' n' hr => hok _ _ l.workflow false rfl hst (.refl hrow) rfl rfl
        (hst.symm ▸ .waiting hun hr) (clearedIf_of_same rfl rfl)
    · exact fun wf' table n' ho hre hwf => hok _ _ wf' false rfl hst hre rfl rfl
        (hwf.symm ▸ .autoRejected hun ho) (clearedIf_of_same rfl rfl)
  · -- the vote decided
    intro wf' table n' hst hd hre hwf
    change wp true (w.handleTerminalWorkflow ctx wf' >>= fun _ =>
      w.attemptAutoReject ctx wf' t ids) P { s with db := { s.db with workflows := table }, clock := n' }
    have hne : wf'.state ≠ .waitApproval := by
      rw [hwf]; unfold voteTarget; split <;> decide
    rw [attemptAutoReject_decided hne]
    have hcount := fun hfew => (decides_vote ht hids hmin hballot).1 (hd hfew)
    rcases isVote_iff.1 ht with rfl | rfl
    · have hle : Few (approversOf s.db l.workflow.id) → l.workflow.minimumApprovalCount ≤
          score (approversOf s.db l.workflow.id) := fun hfew => by simpa using hcount hfew
      rw [handleTerminalWorkflow_open (by rw [hwf]; decide), pure_bind]
      exact hok _ _ wf' false rfl hst hre rfl rfl (hwf.symm ▸ .confirmed rfl hle)
        (clearedIf_of_same rfl rfl)
    · have ho : Few (approversOf s.db l.workflow.id) → OutOfReach l.workflow ids
          (approversOf s.db l.workflow.id) := fun hfew => by simpa using hcount hfew
      unfold handleTerminalWorkflow
      rw [if_pos (by rw [hwf]; decide)]
      refine wp_bind (wp_patchUnderWorkflow (fun e _ => herr _ _ rfl) fun s' hf hx => ?_)
      refine hok _ _ wf' true hx hst (hre.congr rfl hf.workflows) hf.approvers hf.approverGroups
        (hwf.symm ▸ .rejected rfl ho) fun ty id c hc => ?_
      have hfl := hf.flag ty id c hc
      rw [hre.same.artifactType, hre.same.artifactID] at hfl
      simp only [true_and]
      exact hfl

theorem wp_applyTransitionTx_vote {u : String} (hin : ctx.inTx = true) (ht : t.isVote)
    (hrow : s.db.workflows.get? wf.id = some wf) (hm : wf.minimumApprovalCount ≠ 0)
    (henum : enumError wf = none) (herr : ∀ e s', s'.ext = s.ext → P (.error e) s')
    (hok : ∀ res s' ids n wf', (w.fetchEligibilityForVote ctx wf t).eval s.db s.clock = (.ok ids, n) →
      s'.ext = s.ext → VoteCast (∃ m, w.repo.Refuses ctx m) t u ids wf wf' s.db s'.db →
      P (.ok res) s') :
    (w.applyTransitionTx ctx u wf t).wp true P s := by
  unfold applyTransitionTx
  refine wp_query_bind (fun e n _ => herr _ _ rfl) fun ids n hids => ?_
  rw [minimumApprovalsOf_eq hm, pure_bind]
  refine wp_query_bind (fun e n _ => herr _ _ rfl) fun groups n1 _ => ?_
  refine wp_query_bind (fun e n _ => herr _ _ rfl) fun _ n2 _ => ?_
  refine wp_query_bind (fun e n _ => herr _ _ rfl) fun approver n3 happ => ?_
  obtain ⟨a, ha, rfl⟩ : ∃ a, s.db.approvers.get? (wf.id, u) = some a ∧ approver = some a := by
    rw [if_pos ht] at happ
    obtain ⟨a, n', hfetch, hret⟩ := eval_bind_ok happ
    obtain ⟨a', n', hfirst, hfetch⟩ := eval_bind_ok hfetch
    obtain ⟨-, n', -, hfetch⟩ := eval_bind_ok hfetch
    cases hret
    cases hfetch
    exact ⟨a, (eval_first_ok (eval_mapError_ok hfirst)).1, rfl⟩
  have hkey : a.key = (wf.id, u) := key_of_get? ha
  obtain ⟨hwid, huid⟩ := Prod.mk.inj hkey
  rw [recordTransitionInDB_vote ht]
  refine wp_bind (wp_updateApproverDecision hin (fun e => herr _ _ rfl) fun table hv => ?_)
  have hrows : approversOf { s.db with approvers := table } wf.id =
      (approversOf s.db wf.id).map (castVote u (t = .approve)) := hwid ▸ huid ▸ hv.rows
  have hothers : ∀ id, id ≠ wf.id → approversOf { s.db with approvers := table } id =
      approversOf s.db id := hwid ▸ hv.others
  refine wp_transition_vote (s := { s with db := { s.db with approvers := table }, clock := n3 + 1 })
    ht rfl rfl rfl (if_neg hm) hrow hm henum ?_ herr ?_
  · intro a' ha'
    have hmem : a' ∈ approversOf { s.db with approvers := table } wf.id := ha'
    rw [hrows] at hmem
    obtain ⟨a0, -, rfl⟩ := List.mem_map.1 hmem
    exact ballot_castVote _ a0
  · intro res s' wf' cleared hx hst hre happs hgroups hout hfl
    have hsame : approversOf s'.db = approversOf { s.db with approvers := table } := by
      funext id
      simp only [approversOf, happs]
    refine hok res s' ids n wf' hids hx
      ⟨ht, hst, hre.congr rfl rfl, ⟨a, ha⟩, ?_, hgroups, cleared, ?_, hfl⟩
    · exact ⟨hsame ▸ hrows, hsame ▸ hothers⟩
    · rw [hsame]
      exact hout

end WorkflowManager

end Cmk
