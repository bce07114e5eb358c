import Cmk.Calls

/-!
# Cmk.Quorum

Quorum safety. `Healthy` ties the state of a workflow to its approver rows, `Sound` says it of every
workflow of a store. Every move keeps it, so it holds of every store a run commits.

* `run_quorum`    — whenever a workflow waits for its confirmation or its action is executed, enough
  approvers other than the initiator have approved; and its votes do not change any more.
* `vote_decided` — a vote that is committed leaves the workflow in the state its votes call for.
-/

namespace Cmk

open Tx List

variable {d d' : Db} {rows : List WorkflowApprover} {wf wf' : Workflow} {s s₀ : State}

/-- What the state of a workflow says about its approver rows. -/
structure Healthy (wf : Workflow) (rows : List WorkflowApprover) : Prop where
  minimum : 1 ≤ wf.minimumApprovalCount
  valid : Repo.enumError wf = none
  initiator : ∀ a ∈ rows, a.userID ≠ wf.initiatorID
  initial : wf.state = .initial → rows = []
  waiting : wf.state = .waitApproval → score rows < wf.minimumApprovalCount
  confirmed : wf.state = .waitConfirmation → wf.minimumApprovalCount ≤ score rows

/-- Every workflow is healthy, and every approver row belongs to a workflow. -/
structure Sound (d : Db) : Prop where
  healthy : ∀ id wf, d.workflows.get? id = some wf → Healthy wf (Repo.approversOf d id)
  orphan : ∀ id, d.workflows.get? id = none → Repo.approversOf d id = []

theorem approversOf_congr (h : d'.approvers = d.approvers) :
    approversOf d' = approversOf d := by
  funext id
  rw [approversOf, h]
  rfl

theorem score_eq_zero (h : ∀ a ∈ rows, a.approved = none) :
    score rows = 0 := by
  have hcount : ∀ b, rows.countP (·.approved = some b) = 0 := fun b =>
    countP_eq_zero.2 fun a ha => by simp [h a ha]
  rw [score, hcount, hcount]
  rfl

theorem score_castVote_le (u : String) (rows : List WorkflowApprover) :
    score (rows.map (castVote u false)) ≤ score rows := by
  unfold score
  induction rows with
  | nil => rfl
  | cons a rows ih =>
    simp only [map_cons, countP_cons]
    by_cases hu : a.userID = u
    · rcases ha : a.approved with _ | (_ | _) <;> simp [castVote, hu] at ih ⊢ <;> omega
    · simp only [castVote, if_neg hu] at ih ⊢
      omega

theorem mem_castVote {u : String} {b : Bool} {a : WorkflowApprover}
    (h : a ∈ rows.map (castVote u b)) : ∃ a' ∈ rows, a.userID = a'.userID := by
  obtain ⟨a', ha', rfl⟩ := mem_map.1 h
  refine ⟨a', ha', ?_⟩
  unfold castVote
  split <;> rfl

namespace Healthy

variable {wf wf' : Workflow} {rows rows' : List WorkflowApprover}

theorem ended (h : Healthy wf rows) (hsame : SameWorkflow wf wf')
    (hend : wf'.state ∈ workflowTerminalStates) : Healthy wf' rows where
  minimum := hsame.minimumApprovalCount ▸ h.minimum
  valid := hsame.enumError.trans h.valid
  initiator := hsame.initiatorID ▸ h.initiator
  initial hst := absurd hend (by rw [hst]; decide)
  waiting hst := absurd hend (by rw [hst]; decide)
  confirmed hst := absurd hend (by rw [hst]; decide)

theorem assigned (h : Healthy wf rows) (hsame : SameWorkflow wf wf') (hinit : wf.state = .initial)
    (hwait : wf'.state = .waitApproval) {users : List String} (huser : wf.initiatorID ∉ users)
    (hrows : ∀ a ∈ rows', a ∈ rows ∨ (a.approved = none ∧ a.userID ∈ users)) :
    Healthy wf' rows' := by
  -- before the assignment there were no rows
  have hnew : ∀ a ∈ rows', a.approved = none ∧ a.userID ∈ users := fun a ha =>
    (hrows a ha).resolve_left (h.initial hinit ▸ not_mem_nil)
  refine ⟨hsame.minimumApprovalCount ▸ h.minimum, hsame.enumError.trans h.valid, ?_, ?_, ?_, ?_⟩
  · intro a ha heq
    rw [hsame.initiatorID] at heq
    exact huser (heq ▸ (hnew a ha).2)
  · rw [hwait]; nofun
  · intro _
    rw [score_eq_zero fun a ha => (hnew a ha).1, hsame.minimumApprovalCount]
    have hm := h.minimum
    omega
  · rw [hwait]; nofun

theorem voted (h : Healthy wf rows) (hsame : SameWorkflow wf wf') (hwait : wf.state = .waitApproval)
    {u : String} {t : Transition} {ids : Option (List String)} {refused : Prop} {cleared : Bool}
    (hrows : rows' = rows.map (castVote u (t = .approve))) (hfew : Few rows') (ht : t.isVote)
    (hout : WorkflowManager.VoteOutcome refused t wf ids rows' wf'.state cleared) :
    Healthy wf' rows' := by
  refine ⟨hsame.minimumApprovalCount ▸ h.minimum, hsame.enumError.trans h.valid, ?_, ?_, ?_, ?_⟩
  · intro a ha
    obtain ⟨a', ha', heq⟩ := mem_castVote (hrows ▸ ha)
    rw [heq, hsame.initiatorID]
    exact h.initiator a' ha'
  · intro hst; rw [hst] at hout; cases hout
  · intro hst
    rw [hst] at hout
    rw [hsame.minimumApprovalCount]
    cases hout with
    | waiting hun _ =>
      rcases isVote_iff.1 ht with rfl | rfl
      · exact (hun hfew).1 rfl
      · -- the score was below the minimum before the rejection
        subst hrows
        exact lt_of_le_of_lt (score_castVote_le u rows) (h.waiting hwait)
  · intro hst
    rw [hst] at hout
    rw [hsame.minimumApprovalCount]
    cases hout with
    | confirmed _ hle => exact hle hfew

end Healthy

namespace Sound

variable {d d' : Db} {G : Guard} {x x' : World}

theorem wellFormed (h : Sound d) : WellFormed d :=
  fun id wf hwf => ⟨(h.healthy id wf hwf).minimum, (h.healthy id wf hwf).valid⟩

theorem update (h : Sound d) {id : UUID} (hnew : d'.workflows.get? id = some wf)
    (hothers : ∀ id', id' ≠ id → d'.workflows.get? id' = d.workflows.get? id')
    (hrows : ∀ id', id' ≠ id → approversOf d' id' = approversOf d id')
    (hwf : Healthy wf (approversOf d' id)) : Sound d' where
  healthy id' wf' hwf' := by
    by_cases hid : id' = id
    · subst hid
      cases hnew.symm.trans hwf'
      exact hwf
    · rw [hrows id' hid]
      exact h.healthy id' wf' (hothers id' hid ▸ hwf')
  orphan id' hnone := by
    by_cases hid : id' = id
    · subst hid
      cases hnew.symm.trans hnone
    · rw [hrows id' hid]
      exact h.orphan id' (hothers id' hid ▸ hnone)

theorem finished (h : Sound d) (hf : Finished d d' wf wf') : Sound d' := by
  have hrows := approversOf_congr hf.1.approvers
  refine h.update hf.1.row.new hf.1.row.others (fun id' _ => by rw [hrows]) ?_
  rw [hrows]
  exact (h.healthy _ _ hf.1.row.old).ended hf.1.row.same hf.2

theorem move (h : Sound d) (hfew : ∀ t ids wf rows, G.vote t ids wf rows → Few rows)
    (hmove : Move G d x (some d') x') : Sound d' := by
  cases hmove with
  | around ha =>
    have hu := ha.1 d' rfl
    have hrows := approversOf_congr hu.approvers
    exact ⟨hu.workflows ▸ hrows ▸ h.healthy, hu.workflows ▸ hrows ▸ h.orphan⟩
  | create hc hst hm =>
    have hrows := approversOf_congr hc.approvers
    refine h.update hc.new hc.others (fun id' _ => by rw [hrows]) ?_
    rw [hrows, h.orphan _ hc.fresh]
    exact ⟨hm, hc.valid, nofun, fun _ => rfl, by rw [hst]; nofun, by rw [hst]; nofun⟩
  | assign ha huser =>
    refine h.update ha.row.new ha.row.others ha.enrolled.others ?_
    exact (h.healthy _ _ ha.row.old).assigned ha.row.same ha.initial ha.waiting huser ha.enrolled.rows
  | vote hv hG =>
    obtain ⟨cleared, hout, -⟩ := hv.outcome
    refine h.update hv.row.new hv.row.others hv.vote.others ?_
    exact (h.healthy _ _ hv.row.old).voted hv.row.same hv.waiting hv.vote.rows (hfew _ _ _ _ hG)
      hv.isVote hout
  | finish _ _ hf => exact h.finished hf
  | confirm _ _ hf => exact h.finished hf
  | fail hf => exact h.finished hf

end Sound

def Settled (st : WorkflowState) : Prop := st ≠ .initial ∧ st ≠ .waitApproval

instance (st : WorkflowState) : Decidable (Settled st) := inferInstanceAs (Decidable (_ ∧ _))

/-- Where the votes were over, they still are and no row has changed. -/
def Frozen (d d' : Db) : Prop :=
  ∀ id wf, d.workflows.get? id = some wf → Settled wf.state →
    Repo.approversOf d' id = Repo.approversOf d id ∧
      ∃ wf', d'.workflows.get? id = some wf' ∧ Settled wf'.state

instance : Std.Refl Frozen := ⟨fun _ _ wf hwf hst => ⟨rfl, wf, hwf, hst⟩⟩

instance : IsTrans Db Frozen := by
  refine ⟨fun d₁ d₂ d₃ h h' id wf hwf hst => ?_⟩
  obtain ⟨hrows, wf₂, hwf₂, hst₂⟩ := h id wf hwf hst
  obtain ⟨hrows', hwf₃⟩ := h' id wf₂ hwf₂ hst₂
  exact ⟨hrows'.trans hrows, hwf₃⟩

theorem settled_of_terminal {st : WorkflowState} (h : st ∈ workflowTerminalStates) : Settled st := by
  revert h
  cases st <;> decide

section

variable {d d' : Db} {G : Guard} {x x' : World} {wf wf' : Workflow}

theorem Restated.frozen (h : Restated d d' wf wf') (hst : ¬ Settled wf.state)
    (hrows : ∀ id, id ≠ wf.id → approversOf d' id = approversOf d id) : Frozen d d' := by
  intro id wf1 hwf1 hst1
  have hid : id ≠ wf.id := by
    rintro rfl
    cases h.old.symm.trans hwf1
    exact hst hst1
  exact ⟨hrows id hid, wf1, (h.others id hid).trans hwf1, hst1⟩

theorem Finished.frozen (h : Finished d d' wf wf') : Frozen d d' := by
  intro id wf1 hwf1 hst1
  refine ⟨by rw [approversOf_congr h.1.approvers], ?_⟩
  by_cases hid : id = wf.id
  · exact ⟨wf', hid ▸ h.1.row.new, settled_of_terminal h.2⟩
  · exact ⟨wf1, (h.1.row.others id hid).trans hwf1, hst1⟩

theorem Move.frozen (h : Move G d x (some d') x') : Frozen d d' := by
  cases h with
  | around ha =>
    have hu := ha.1 d' rfl
    intro id wf hwf hst
    exact ⟨by rw [approversOf_congr hu.approvers], wf, by rw [hu.workflows, hwf], hst⟩
  | create hc =>
    intro id wf hwf hst
    have hid : id ≠ _ := fun heq => by rw [heq, hc.fresh] at hwf; cases hwf
    exact ⟨by rw [approversOf_congr hc.approvers], wf, (hc.others id hid).trans hwf, hst⟩
  | assign ha => exact ha.row.frozen (by rw [ha.initial]; decide) ha.enrolled.others
  | vote hv => exact hv.row.frozen (by rw [hv.waiting]; decide) hv.vote.others
  | finish _ _ hf => exact hf.frozen
  | confirm _ _ hf => exact hf.frozen
  | fail hf => exact hf.frozen

end

def Small (d : Db) : Prop := ∀ id, Few (Repo.approversOf d id)

theorem Small.of_length (h : d.approvers.rows.length ≤ defaultLimit) : Small d :=
  fun _ => (length_filter_le _ _).trans h

theorem Small.few {p : WorkflowProcessor} {c : Call} (h : Small s.db) (t : Transition)
    (ids : Option (List String)) (wf : Workflow) (rows : List WorkflowApprover)
    (hG : (c.guard p s).vote t ids wf rows) : Few rows := by
  obtain ⟨ctx, u, n, -, -, -, -, -, rfl⟩ := hG
  have hlen := h wf.id
  unfold Few at hlen ⊢
  rwa [length_map]

/-- Enough approvers other than the initiator have approved, each counted once. -/
structure Approved (d : Db) (wf : Workflow) : Prop where
  distinct : ((Repo.approversOf d wf.id).map (·.userID)).Nodup
  initiator : ∀ a ∈ Repo.approversOf d wf.id, a.userID ≠ wf.initiatorID
  reached : wf.minimumApprovalCount ≤ score (Repo.approversOf d wf.id)

theorem nodup_approversOf (d : Db) (id : UUID) : ((approversOf d id).map (·.userID)).Nodup := by
  have hkeys : ((approversOf d id).map WorkflowApprover.key).Nodup :=
    d.approvers.nodup.sublist (filter_sublist.map _)
  have heq : (approversOf d id).map WorkflowApprover.key =
      ((approversOf d id).map (·.userID)).map (id, ·) := by
    rw [map_map]
    refine map_congr_left fun a ha => ?_
    have hid : a.workflowID = id := by simpa using (mem_filter.1 ha).2
    simp [WorkflowApprover.key, hid]
  rw [heq] at hkeys
  exact hkeys.of_map _

theorem Sound.approved (h : Sound d) (hwf : d.workflows.get? wf.id = some wf)
    (hst : wf.state = .waitConfirmation) : Approved d wf :=
  ⟨nodup_approversOf d wf.id, (h.healthy _ _ hwf).initiator, (h.healthy _ _ hwf).confirmed hst⟩

/-- What every run keeps: the store and every commit are sound, votes are final, and an action was
executed on a sound store that waited for the confirmation. -/
structure Safe (d : Db) (x : World) (l : List Db) : Prop where
  sound : Sound d
  commits : ∀ c ∈ l, Sound c
  votes : Ordered Frozen d l
  executed : ∀ e ∈ x.executed, Sound e.db ∧
    ∃ wf, e.db.workflows.get? e.workflowID = some wf ∧ wf.state = .waitConfirmation

namespace Safe

variable {d d' : Db} {x x' : World} {l : List Db} {G : Guard}

theorem fresh (h : Fresh s) : Safe s.db s.ext s.commits := by
  refine ⟨⟨fun id wf hwf => ?_, fun id _ => ?_⟩, ?_, ?_, ?_⟩
  · have hmem := mem_of_get? hwf
    rw [h.workflows] at hmem
    cases hmem
  · rw [approversOf, h.approvers]; rfl
  · rw [h.commits]; exact fun _ hc => absurd hc not_mem_nil
  · rw [h.commits]; exact .nil _
  · rw [h.executed]; exact fun _ he => absurd he not_mem_nil

theorem logged (h : Safe d x l) (hwf : d.workflows.get? wf.id = some wf)
    (hst : wf.state = .waitConfirmation) {n : Nat} (hlog : Lifecycle.Logged wf d n x x') :
    ∀ e ∈ x'.executed, Sound e.db ∧
      ∃ wf, e.db.workflows.get? e.workflowID = some wf ∧ wf.state = .waitConfirmation := by
  intro e he
  rw [hlog] at he
  rcases mem_cons.1 he with rfl | he
  · exact ⟨h.sound, wf, hwf, hst⟩
  · exact h.executed e he

theorem log (h : Safe d x l) {o : Option Db} (hmove : Move G d x o x') :
    ∀ e ∈ x'.executed, Sound e.db ∧
      ∃ wf, e.db.workflows.get? e.workflowID = some wf ∧ wf.state = .waitConfirmation := by
  have hsame : SameLog x x' → ∀ e ∈ x'.executed, Sound e.db ∧
      ∃ wf, e.db.workflows.get? e.workflowID = some wf ∧ wf.state = .waitConfirmation :=
    fun hlog e he => h.executed e (Eq.subst (motive := (e ∈ ·)) hlog he)
  cases hmove with
  | around ha => exact hsame ha.2
  | create _ _ _ _ hlog => exact hsame hlog
  | assign _ _ hlog => exact hsame hlog
  | vote _ _ hlog => exact hsame hlog
  | finish _ _ _ hlog => exact hsame hlog
  | confirm hst _ hf hlog => exact h.logged hf.1.row.old hst hlog
  | abort hwf hst hlog => exact h.logged hwf hst hlog
  | fail _ _ _ hlog => exact hsame hlog

theorem world (h : Safe d x l) (hmove : Move G d x none x') : Safe d x' l :=
  ⟨h.sound, h.commits, h.votes, h.log hmove⟩

theorem commit (h : Safe d x l) (hfew : ∀ t ids wf rows, G.vote t ids wf rows → Few rows)
    (hmove : Move G d x (some d') x') : Safe d' x' (d' :: l) := by
  have hd' := h.sound.move hfew hmove
  refine ⟨hd', fun c hc => ?_, h.votes.commit hmove.frozen, h.log hmove⟩
  rcases mem_cons.1 hc with rfl | hc
  · exact hd'
  · exact h.commits c hc

theorem run {p : WorkflowProcessor} {allowed : Call → State → Prop} (hrun : Run p allowed s₀ s)
    (hsmall : ∀ c s, allowed c s → Small s.db) (h₀ : Safe s₀.db s₀.ext s₀.commits) :
    Safe s.db s.ext s.commits :=
  hrun.induct (fun _ _ _ h => h.sound.wellFormed) h₀ (fun _ _ _ _ _ _ _ h => h.world)
    fun _ _ ha _ _ _ _ _ h => h.commit (hsmall _ _ ha).few

end Safe

open Sample in
theorem fresh_start : Fresh start := ⟨rfl, rfl, rfl, rfl⟩

open Sample in
theorem run_twoApprovals :
    Run processor (fun _ s => Small s.db) start (Call.afterAll processor twoApprovals start) :=
  .of_along _ ⟨.of_length (by decide), .of_length (by decide), .of_length (by decide),
    .of_length (by decide), trivial⟩

/-- The state the votes call for, given who may still vote. -/
structure Decided (m : Int) (ids : Option (List String)) (rows : List WorkflowApprover)
    (st : WorkflowState) : Prop where
  waiting : st = .waitApproval → score rows < m ∧ m ≤ score rows + openVotes ids rows ∧
    ∃ a ∈ rows, a.approved = none ∧ eligible ids a.userID
  confirmed : m ≤ score rows → st = .waitConfirmation
  rejected : score rows + openVotes ids rows < m → st = .rejected

theorem decided_of_outcome {refused : Prop} {t : Transition} {ids : Option (List String)}
    {st : WorkflowState} {cleared : Bool}
    (h : WorkflowManager.VoteOutcome refused t wf ids rows st cleared) (hrefused : ¬ refused)
    (hfew : Few rows) (hnamed : WorkflowManager.Named rows)
    (hreject : t ≠ .approve → score rows < wf.minimumApprovalCount) :
    Decided wf.minimumApprovalCount ids rows st := by
  have hbelow : (Few rows → WorkflowManager.Undecided t wf ids rows) →
      score rows < wf.minimumApprovalCount :=
    fun hun => if ht : t = .approve then (hun hfew).1 ht else hreject ht
  cases h with
  | confirmed _ hle =>
    have hle := hle hfew
    exact ⟨nofun, fun _ => rfl, fun hlt => by omega⟩
  | rejected _ hout =>
    have hout := hout hfew
    unfold WorkflowManager.OutOfReach at hout
    exact ⟨nofun, fun hle => by omega, fun _ => rfl⟩
  | autoRejected hun _ =>
    have hlt := hbelow hun
    exact ⟨nofun, fun hle => by omega, fun _ => rfl⟩
  | waiting hun hwait =>
    have hlt := hbelow hun
    have hreach : wf.minimumApprovalCount ≤ score rows + openVotes ids rows :=
      le_of_not_gt fun hout => hrefused (hwait hfew hnamed hout)
    refine ⟨fun _ => ⟨hlt, hreach, ?_⟩, fun hle => by omega, fun hout => by omega⟩
    have hpos : 0 < openVotes ids rows := by omega
    simpa using countP_pos_iff.1 hpos

namespace WorkflowManager.VoteCast

variable {refused : Prop} {t : Transition} {u : String} {ids : Option (List String)}
  {wf wf' : Workflow} {d d' : Db}

theorem few (h : VoteCast refused t u ids wf wf' d d') (hfew : Few (approversOf d wf.id)) :
    Few (approversOf d' wf.id) := by
  unfold Few at hfew ⊢
  rwa [h.vote.rows, length_map]

theorem users (h : VoteCast refused t u ids wf wf' d d') {P : String → Prop}
    (hP : ∀ a ∈ approversOf d wf.id, P a.userID) : ∀ a ∈ approversOf d' wf.id, P a.userID := by
  intro a ha
  obtain ⟨a', ha', heq⟩ := mem_castVote (h.vote.rows ▸ ha)
  exact heq ▸ hP a' ha'

theorem decided (h : VoteCast refused t u ids wf wf' d d') (hsound : Sound d) (hrefused : ¬ refused)
    (hfew : Few (approversOf d wf.id)) (hnamed : Named (approversOf d wf.id)) :
    Decided wf.minimumApprovalCount ids (approversOf d' wf.id) wf'.state := by
  obtain ⟨cleared, hout, -⟩ := h.outcome
  refine decided_of_outcome hout hrefused (h.few hfew)
    (h.users (P := (· ≠ "")) hnamed) fun hne => ?_
  rw [h.vote.rows, decide_eq_false hne]
  exact lt_of_le_of_lt (score_castVote_le u _)
    ((hsound.healthy _ _ h.row.old).waiting h.waiting)

end WorkflowManager.VoteCast

end Cmk
