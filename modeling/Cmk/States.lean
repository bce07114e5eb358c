import Cmk.Quorum

/-!
# Cmk.States

Where the state of a workflow may go. The state machine has no transition out of a terminal state,
but `putWorkflowInFailedState` does not ask the state machine. `run_advanced` says when the stored
states nevertheless follow it.

* `Fires`    — one transition of the state machine.
* `Advanced` — every workflow that has left INITIAL has moved along the state machine.
* `InTime`   — a task finds its workflow before the assignment, or failed.
* `Recorded` — what was asked for and of whom stays as it is, in every run.
* `Unvoted`  — a user has no vote on a workflow, which only a request of the user changes.
-/

namespace Cmk

open Tx Relation

variable {st st' : WorkflowState}

/-- The state machine has a transition between the two states. -/
def Fires (st st' : WorkflowState) : Prop :=
  ∃ t, FSM.target ⟨st, workflowEvents⟩ t = some st'

theorem fires_of_nextState {t : Transition} (h : nextState st t = some st') :
    Fires st st' :=
  ⟨t, (target_workflowEvents st t).trans h⟩

theorem nextState_of_fires (h : Fires st st') :
    ∃ t, nextState st t = some st' := by
  obtain ⟨t, ht⟩ := h
  exact ⟨t, (target_workflowEvents st t).symm.trans ht⟩

theorem not_fires_of_terminal (h : st ∈ workflowTerminalStates) :
    ¬ Fires st st' := by
  intro hf
  obtain ⟨t, ht⟩ := nextState_of_fires hf
  revert h
  cases st <;> cases t <;> cases ht <;> decide

theorem ne_initial_of_fires (h : Fires st st') : st' ≠ .initial := by
  obtain ⟨t, ht⟩ := nextState_of_fires h
  cases st <;> cases t <;> cases ht <;> decide

theorem eq_of_terminal (h : ReflTransGen Fires st st') (hst : st ∈ workflowTerminalStates) :
    st' = st := by
  rcases h.cases_head with rfl | ⟨st1, hf, -⟩
  · rfl
  · exact absurd hf (not_fires_of_terminal hst)

/-- Every workflow that was past INITIAL is still there and has moved along the state machine. -/
def Advanced (d d' : Db) : Prop :=
  ∀ id wf, d.workflows.get? id = some wf → wf.state ≠ .initial →
    ∃ wf', d'.workflows.get? id = some wf' ∧ ReflTransGen Fires wf.state wf'.state

instance : Std.Refl Advanced := ⟨fun _ _ wf hwf _ => ⟨wf, hwf, .refl⟩⟩

instance : IsTrans Db Advanced := by
  refine ⟨fun d₁ d₂ d₃ h h' id wf hwf hst => ?_⟩
  obtain ⟨wf₂, hwf₂, hpath⟩ := h id wf hwf hst
  have hst₂ : wf₂.state ≠ .initial := by
    rcases hpath.cases_tail with heq | ⟨st, -, hf⟩
    · rw [heq]; exact hst
    · exact ne_initial_of_fires hf
  obtain ⟨wf₃, hwf₃, hpath'⟩ := h' id wf₂ hwf₂ hst₂
  exact ⟨wf₃, hwf₃, hpath.trans hpath'⟩

theorem Advanced.terminal {d d' : Db} (h : Advanced d d') (wf : Workflow)
    (hwf : d.workflows.get? wf.id = some wf) (hst : wf.state ∈ workflowTerminalStates) :
    ∃ wf', d'.workflows.get? wf.id = some wf' ∧ wf'.state = wf.state := by
  obtain ⟨wf', hwf', hpath⟩ := h _ wf hwf (settled_of_terminal hst).1
  exact ⟨wf', hwf', eq_of_terminal hpath hst⟩

section

variable {d d' : Db} {G : Guard} {x x' : World} {wf wf' : Workflow}

theorem Restated.advanced (h : Restated d d' wf wf')
    (hpath : wf.state ≠ .initial → ReflTransGen Fires wf.state wf'.state) : Advanced d d' := by
  intro id wf1 hwf1 hst1
  by_cases hid : id = wf.id
  · subst hid
    cases h.old.symm.trans hwf1
    exact ⟨wf', h.new, hpath hst1⟩
  · exact ⟨wf1, (h.others id hid).trans hwf1, .refl⟩

theorem confirm_path {r : Except Exn Unit} (h : st = .waitConfirmation)
    (h' : Lifecycle.Outcome r st') : ReflTransGen Fires st st' := by
  have hconfirm : Fires .waitConfirmation .executing := ⟨.confirm, rfl⟩
  subst h
  cases h' with
  | executed => exact .tail (.single hconfirm) ⟨.execute, rfl⟩
  | failed => exact .tail (.single hconfirm) ⟨.fail, rfl⟩

theorem vote_path {refused : Prop} {t : Transition} {ids : Option (List String)}
    {rows : List WorkflowApprover} {cleared : Bool} (h : st = .waitApproval)
    (hout : WorkflowManager.VoteOutcome refused t wf ids rows st' cleared) :
    ReflTransGen Fires st st' := by
  subst h
  cases hout with
  | confirmed => exact .single ⟨.approve, rfl⟩
  | rejected => exact .single ⟨.reject, rfl⟩
  | autoRejected => exact .single ⟨.reject, rfl⟩
  | waiting => exact .refl

theorem Move.advanced (hfail : ∀ wf, d.workflows.get? wf.id = some wf → G.fail d wf →
      wf.state = .initial ∨ wf.state = .failed) (h : Move G d x (some d') x') : Advanced d d' := by
  cases h with
  | around ha =>
    have hu := ha.1 d' rfl
    exact fun id wf hwf _ => ⟨wf, by rw [hu.workflows, hwf], .refl⟩
  | create hc =>
    intro id wf hwf _
    have hid : id ≠ _ := fun heq => by rw [heq, hc.fresh] at hwf; cases hwf
    exact ⟨wf, (hc.others id hid).trans hwf, .refl⟩
  | assign ha => exact ha.row.advanced fun hst => absurd ha.initial hst
  | vote hv =>
    obtain ⟨cleared, hout, -⟩ := hv.outcome
    exact hv.row.advanced fun _ => vote_path hv.waiting hout
  | finish _ hnext hf => exact hf.1.row.advanced fun _ => .single (fires_of_nextState hnext)
  | confirm hst hend hf => exact hf.1.row.advanced fun _ => confirm_path hst hend
  | fail hf hst hG =>
    refine hf.1.row.advanced fun hne => ?_
    rcases hfail _ hf.1.row.old hG with hinit | hfailed
    · exact absurd hinit hne
    · rw [hst, hfailed]

end

/-- A task of the queue finds its workflow before the assignment, or failed. -/
def InTime (c : Call) (s : St Db World) : Prop :=
  ∀ ctx payload id wf, c = .processTask ctx payload → payload.data = some id →
    s.db.workflows.get? id = some wf → wf.state = .initial ∨ wf.state = .failed

def Call.isRequest : Call → Bool
  | processTask _ _ => false
  | _ => true

theorem inTime_of_request {c : Call} (h : c.isRequest = true) (s : State) : InTime c s := by
  intro ctx payload id wf hc
  subst hc
  cases h

theorem InTime.failed {p : WorkflowProcessor} {c : Call} {s : State} (h : InTime c s)
    (hlookups : p.updater.Lookups) {d : Db} {wf : Workflow} (hwf : d.workflows.get? wf.id = some wf)
    (hG : (c.guard p s).fail d wf) : wf.state = .initial ∨ wf.state = .failed := by
  obtain ⟨ctx, payload, id, hc, hdata, rfl, hu | ⟨hl, -⟩⟩ := hG
  · rw [hu.workflows] at hwf
    exact h ctx payload _ wf hc hdata hwf
  · exact absurd hlookups hl

/-- If tasks come in time and the names of approvers can be looked up, the stored states follow the
state machine: terminal states are final, and a workflow leaves the two waiting states only by its
transitions. -/
theorem run_advanced {p : WorkflowProcessor} {s₀ s : St Db World} (hlookups : p.updater.Lookups)
    (hwell : WellFormed s₀.db) (hcommits : s₀.commits = []) (hrun : Run p InTime s₀ s) :
    (s.db :: s.commits ++ [s₀.db]).Pairwise fun d' d => ∀ wf, d.workflows.get? wf.id = some wf →
      (wf.state ∈ workflowTerminalStates →
        ∃ wf', d'.workflows.get? wf.id = some wf' ∧ wf'.state = wf.state) ∧
      (wf.state = .waitApproval ∨ wf.state = .waitConfirmation →
        ∃ wf', d'.workflows.get? wf.id = some wf' ∧ ReflTransGen Fires wf.state wf'.state) := by
  have hinv : WellFormed s.db ∧ Ordered Advanced s.db (s.commits ++ [s₀.db]) := by
    refine hrun.induct (I := fun d _ l => WellFormed d ∧ Ordered Advanced d (l ++ [s₀.db]))
      (fun _ _ _ h => h.1) ⟨hwell, ?_⟩ (fun _ _ _ _ _ _ _ h _ => h) ?_
    · rw [hcommits]
      exact .singleton _
    · intro c s ha d x l d' x' h hmove
      refine ⟨h.1.move hmove, h.2.commit ?_⟩
      exact hmove.advanced fun wf hwf hG => ha.failed hlookups hwf hG
  have himp : ∀ {d d'}, Advanced d d' → ∀ wf, d.workflows.get? wf.id = some wf →
      (wf.state ∈ workflowTerminalStates →
        ∃ wf', d'.workflows.get? wf.id = some wf' ∧ wf'.state = wf.state) ∧
      (wf.state = .waitApproval ∨ wf.state = .waitConfirmation →
        ∃ wf', d'.workflows.get? wf.id = some wf' ∧ ReflTransGen Fires wf.state wf'.state) := by
    intro d d' h wf hwf
    constructor
    · exact Advanced.terminal h wf hwf
    · intro hwait
      exact h _ wf hwf (by rcases hwait with hst | hst <;> rw [hst] <;> decide)
  exact .cons (fun c hc => himp (hinv.2.latest c hc)) (hinv.2.pairwise.imp himp)

namespace Sample

theorem lookups : processor.updater.Lookups := fun _ => ⟨_, rfl, nofun⟩

def confirmed : List Call := twoApprovals ++ [.transitionWorkflow (as "i") 1 .confirm]

end Sample

open Sample in
theorem inTime_confirmed : Call.Along processor InTime confirmed start := by
  refine .cons (inTime_of_request rfl _) (.cons ?_ (.cons (inTime_of_request rfl _)
    (.cons (inTime_of_request rfl _) (.cons (inTime_of_request rfl _) trivial))))
  intro ctx payload id wf hc hdata hwf
  cases hc
  cases hdata
  have hst := initial_after_create
  rw [hwf] at hst
  exact .inl (Option.some.inj hst)

open Sample in
/-- The confirmed workflow is successful, and its states followed the state machine. -/
theorem run_advanced_confirmed :
    (Call.afterAll processor confirmed start).db.workflows.rows.map (·.state) = [.successful] ∧
      (Call.afterAll processor confirmed start).commits.Pairwise fun d' d =>
        ∀ wf, d.workflows.get? wf.id = some wf → wf.state ∈ workflowTerminalStates →
          ∃ wf', d'.workflows.get? wf.id = some wf' ∧ wf'.state = wf.state := by
  refine ⟨by decide, ?_⟩
  have h := run_advanced lookups (fun id wf hwf => by cases hwf) rfl (Run.of_along _ inTime_confirmed)
  exact (List.pairwise_append.1 (List.pairwise_cons.1 h).2).1.imp fun h wf hwf => (h wf hwf).1

open Sample in
/-- The assignment delivered once more fails, and the successful workflow becomes a failed one. -/
theorem redelivered_task_overwrites :
    (Call.afterAll processor confirmed start).db.workflows.rows.map (·.state) = [.successful] ∧
      (Call.afterAll processor (confirmed ++ [.processTask worker (assign 1)]) start).db.workflows.rows.map
        (·.state) = [.failed] := by
  decide

section

variable {d d' : Db} {G : Guard} {x x' : World} {wf wf' : Workflow}

/-- Every workflow is still there with the same request, and past INITIAL with the same approvers. -/
def Recorded (d d' : Db) : Prop :=
  ∀ id wf, d.workflows.get? id = some wf → ∃ wf', d'.workflows.get? id = some wf' ∧
    SameWorkflow wf wf' ∧ (wf.state ≠ .initial → wf'.state ≠ .initial ∧
      (Repo.approversOf d' id).map (·.userID) = (Repo.approversOf d id).map (·.userID))

instance : Std.Refl Recorded := ⟨fun _ _ wf hwf => ⟨wf, hwf, .refl wf, fun hst => ⟨hst, rfl⟩⟩⟩

instance : IsTrans Db Recorded := by
  refine ⟨fun d₁ d₂ d₃ h h' id wf hwf => ?_⟩
  obtain ⟨wf₂, hwf₂, hsame, hst⟩ := h id wf hwf
  obtain ⟨wf₃, hwf₃, hsame', hst'⟩ := h' id wf₂ hwf₂
  refine ⟨wf₃, hwf₃, hsame.trans hsame', fun hinit => ?_⟩
  obtain ⟨hinit₂, husers⟩ := hst hinit
  exact ⟨(hst' hinit₂).1, (hst' hinit₂).2.trans husers⟩

theorem Restated.recorded (h : Restated d d' wf wf') (hst : wf'.state ≠ .initial)
    (husers : wf.state ≠ .initial →
      (approversOf d' wf.id).map (·.userID) = (approversOf d wf.id).map (·.userID))
    (hothers : ∀ id, id ≠ wf.id → approversOf d' id = approversOf d id) : Recorded d d' := by
  intro id wf1 hwf1
  by_cases hid : id = wf.id
  · subst hid
    cases h.old.symm.trans hwf1
    exact ⟨wf', h.new, h.same, fun hinit => ⟨hst, husers hinit⟩⟩
  · exact ⟨wf1, (h.others id hid).trans hwf1, .refl wf1, fun hinit => ⟨hinit, by rw [hothers id hid]⟩⟩

theorem Finished.recorded (h : Finished d d' wf wf') : Recorded d d' := by
  have hrows := approversOf_congr h.1.approvers
  exact h.1.row.recorded (settled_of_terminal h.2).1 (fun _ => by rw [hrows]) fun _ _ => by rw [hrows]

theorem Move.recorded (h : Move G d x (some d') x') : Recorded d d' := by
  cases h with
  | around ha =>
    have hu := ha.1 d' rfl
    intro id wf hwf
    refine ⟨wf, by rw [hu.workflows, hwf], .refl wf, fun hst => ⟨hst, ?_⟩⟩
    rw [approversOf_congr hu.approvers]
  | create hc =>
    intro id wf hwf
    have hid : id ≠ _ := fun heq => by rw [heq, hc.fresh] at hwf; cases hwf
    refine ⟨wf, (hc.others id hid).trans hwf, .refl wf, fun hst => ⟨hst, ?_⟩⟩
    rw [approversOf_congr hc.approvers]
  | assign ha =>
    refine ha.row.recorded ?_ (fun hst => absurd ha.initial hst) ha.enrolled.others
    rw [ha.waiting]
    decide
  | vote hv =>
    obtain ⟨cleared, hout, -⟩ := hv.outcome
    refine hv.row.recorded (fun hst => ?_) (fun _ => ?_) hv.vote.others
    · rw [hst] at hout
      cases hout
    · rw [hv.vote.rows, List.map_map]
      refine List.map_congr_left fun a _ => ?_
      simp only [Function.comp_apply, castVote]
      split <;> rfl
  | finish _ _ hf => exact hf.recorded
  | confirm _ _ hf => exact hf.recorded
  | fail hf => exact hf.recorded

end

section

variable {p : WorkflowProcessor} {c : Call} {d d' : Db} {x x' : World} {s : St Db World}
  {u : String} {id : UUID}

/-- The user has no vote on the workflow. -/
def Unvoted (u : String) (id : UUID) (d : Db) : Prop :=
  ∀ a ∈ Repo.approversOf d id, a.userID = u → a.approved = none

/-- The call is not a vote of the user on the workflow. -/
def Call.NotOf (u : String) (id : UUID) (c : Call) : Prop :=
  ∀ ctx t, c = .transitionWorkflow ctx id t → t.isVote → ctx.extractUserIdentifier ≠ .ok u

theorem Unvoted.congr (h : Unvoted u id d) (hrows : approversOf d' id = approversOf d id) :
    Unvoted u id d' := by
  unfold Unvoted
  rwa [hrows]

theorem Unvoted.move (h : Unvoted u id d) (hs : Unvoted u id s.db) (hc : c.NotOf u id)
    (hmove : Move (c.guard p s) d x (some d') x') : Unvoted u id d' := by
  cases hmove with
  | around ha => exact h.congr (by rw [approversOf_congr (ha.1 d' rfl).approvers])
  | create hcr => exact h.congr (by rw [approversOf_congr hcr.approvers])
  | @assign _ _ wf _ _ ha =>
    by_cases hid : id = wf.id
    · subst hid
      intro a hmem hu
      rcases ha.enrolled.rows a hmem with hold | hnew
      · exact h a hold hu
      · exact hnew.1
    · exact h.congr (ha.enrolled.others id hid)
  | @vote _ _ wf _ _ _ _ _ hv hg =>
    by_cases hid : id = wf.id
    · subst hid
      obtain ⟨ctx, u', n, rfl, ht, -, hu', -, hrows⟩ := hg
      -- `u'` is who calls, so not the user
      have hne : u ≠ u' := fun heq => hc ctx _ rfl ht (heq ▸ hu')
      intro a hmem hu
      obtain ⟨b, hb, rfl⟩ := List.mem_map.1 (hrows ▸ hmem)
      unfold castVote at hu ⊢
      split at hu
      · rename_i hb'
        exact absurd (hu.symm.trans hb') hne
      · rename_i hb'
        rw [if_neg hb']
        exact hs b hb hu
    · exact h.congr (hv.vote.others id hid)
  | finish _ _ hf => exact h.congr (by rw [approversOf_congr hf.1.approvers])
  | confirm _ _ hf => exact h.congr (by rw [approversOf_congr hf.1.approvers])
  | fail hf => exact h.congr (by rw [approversOf_congr hf.1.approvers])

end

end Cmk
