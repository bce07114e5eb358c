import Cmk.Spec.Vote

/-!
# Cmk.Workflow.Eligibility

`checkInsufficientApprovers`: the warning that the approvers who are still eligible cannot bring a
workflow to its confirmation.

* `VotesLeadTo` — what the votes still to come can do, under the rule of `checkVotingScore`.
* `reaches_iff` — they can confirm the workflow exactly if the score and the open votes together reach
  the minimum.
* `checkInsufficientApprovers_exact_iff` — when the warning says the same. It counts the approvals of
  eligible approvers only, and no rejections.
-/

namespace Cmk

open Tx List

namespace Lifecycle

def checkInsufficientApprovers (l : Lifecycle) (eligibleApprovers : List WorkflowApprover) : Bool :=
  let currentApprovals := eligibleApprovers.countP (·.approved = some true)
  let eligiblePending := eligibleApprovers.countP (·.approved = none)
  let maxPossibleApprovals : Int := currentApprovals + eligiblePending
  maxPossibleApprovals < l.minimumApproverCount

end Lifecycle

namespace WorkflowManager

def checkInsufficientApprovers (w : WorkflowManager) (ctx : Ctx) (workflow : Workflow)
    (eligibleUserIDs : List String) : M Bool := do
  let minimumApprovals ← (w.minimumApprovalsOf ctx workflow).mapError
    (.wrap .errCheckWorkflowEligibility)
  let lifecycle := w.workflowLifecycle workflow "" minimumApprovals none
  let allApprovers ← (lifecycle.getAllApprovers ctx).mapError (.wrap .errCheckWorkflowEligibility)
  let eligibleApprovers := allApprovers.filter fun a => eligibleUserIDs.contains a.userID
  return lifecycle.checkInsufficientApprovers eligibleApprovers

end WorkflowManager

def MayVote (ids : Option (List String)) (rows : List WorkflowApprover) (u : String) : Prop :=
  ∃ a ∈ rows, a.userID = u ∧ a.approved = none ∧ eligible ids u

/-- No user has two rows. -/
def OneRowEach (rows : List WorkflowApprover) : Prop := (rows.map (·.userID)).Nodup

theorem oneRowEach_approversOf (d : Db) (id : UUID) : OneRowEach (approversOf d id) := by
  have hkeys : (d.approvers.rows.map WorkflowApprover.key).Nodup := d.approvers.nodup
  unfold OneRowEach approversOf
  rw [nodup_iff_pairwise_ne, pairwise_map] at hkeys ⊢
  refine (hkeys.filter _).imp_of_mem fun ha hb hne heq => hne ?_
  simp only [mem_filter, decide_eq_true_eq] at ha hb
  exact Prod.ext (ha.2.trans hb.2.symm) heq

theorem castVote_userID (u : String) (b : Bool) (a : WorkflowApprover) :
    (castVote u b a).userID = a.userID := by
  unfold castVote
  split <;> rfl

theorem OneRowEach.castVote {rows : List WorkflowApprover} (h : OneRowEach rows) (u : String)
    (b : Bool) : OneRowEach (rows.map (castVote u b)) := by
  unfold OneRowEach at h ⊢
  rw [map_map]
  simpa only [Function.comp_def, castVote_userID] using h

theorem OneRowEach.split {rows : List WorkflowApprover} {a : WorkflowApprover} (h : OneRowEach rows)
    (ha : a ∈ rows) (b : Bool) : ∃ pre post, rows = pre ++ a :: post ∧
      rows.map (Cmk.castVote a.userID b) = pre ++ { a with approved := some b } :: post := by
  obtain ⟨pre, post, rfl⟩ := append_of_mem ha
  have hother : ∀ c, (c ∈ pre ∨ c ∈ post) → Cmk.castVote a.userID b c = c := by
    intro c hc
    refine if_neg fun heq => ?_
    unfold OneRowEach at h
    rw [map_append, map_cons, nodup_middle, nodup_cons] at h
    refine h.1 (heq ▸ ?_)
    rw [← map_append]
    exact mem_map_of_mem (mem_append.2 hc)
  refine ⟨pre, post, rfl, ?_⟩
  rw [map_append, map_cons, map_congr_left fun c hc => hother c (.inl hc),
    map_congr_left fun c hc => hother c (.inr hc), map_id', map_id']
  simp [Cmk.castVote]

section

variable {ids : Option (List String)} {rows : List WorkflowApprover} {u : String}

theorem score_castVote (h : OneRowEach rows) (hu : MayVote ids rows u) (b : Bool) :
    score (rows.map (castVote u b)) = score rows + (if b then 1 else -1) ∧
      openVotes ids (rows.map (castVote u b)) + 1 = openVotes ids rows := by
  obtain ⟨a, ha, rfl, hopen, hids⟩ := hu
  obtain ⟨pre, post, hrows, hcast⟩ := h.split ha b
  rw [hcast, hrows]
  unfold score openVotes
  constructor
  · cases b <;> simp [hopen] <;> omega
  · simp [hopen, hids]
    omega

end

namespace Lifecycle

variable (l : Lifecycle)

def withActor (u : String) : Lifecycle := { l with actorID := u }

/-- The state after the vote of a user, with the rows it left. -/
def stateAfterVote (rows : List WorkflowApprover) (u : String) (b : Bool) : WorkflowState :=
  let t := if b then Transition.approve else .reject
  if (l.withActor u).decides t rows then voteTarget t else .waitApproval

/-- The states that votes of eligible approvers who have not voted can lead to. -/
inductive VotesLeadTo : List WorkflowApprover → WorkflowState → Prop where
  | last {rows : List WorkflowApprover} {u : String} {b : Bool} :
      MayVote l.eligibleApproverIDs rows u →
      VotesLeadTo rows (l.stateAfterVote (rows.map (castVote u b)) u b)
  | next {rows : List WorkflowApprover} {u : String} {b : Bool} {st : WorkflowState} :
      MayVote l.eligibleApproverIDs rows u →
      l.stateAfterVote (rows.map (castVote u b)) u b = .waitApproval →
      VotesLeadTo (rows.map (castVote u b)) st → VotesLeadTo rows st

/-- The approval has the votes it needs, or can get them. -/
def Reaches (rows : List WorkflowApprover) : Prop :=
  l.minimumApproverCount ≤ score rows ∨ l.VotesLeadTo rows .waitConfirmation

variable {l} {rows : List WorkflowApprover} {u : String}

theorem stateAfterVote_approve :
    l.stateAfterVote (rows.map (castVote u true)) u true =
      if l.minimumApproverCount ≤ score (rows.map (castVote u true)) then .waitConfirmation
      else .waitApproval := by
  have hballot : ∀ a ∈ rows.map (castVote u true), (l.withActor u).ballot .approve a = a.approved := by
    intro a ha
    obtain ⟨c, -, rfl⟩ := mem_map.1 ha
    exact (l.withActor u).ballot_castVote (t := .approve) c
  unfold stateAfterVote
  simp only [if_true, (l.withActor u).decides_approve hballot, decide_eq_true_eq]
  rfl

theorem stateAfterVote_reject :
    l.stateAfterVote rows u false ≠ .waitConfirmation := by
  unfold stateAfterVote
  simp only [Bool.false_eq_true, if_false]
  split
  · exact fun h => by cases h
  · exact fun h => by cases h

theorem VotesLeadTo.le {st : WorkflowState} (h : l.VotesLeadTo rows st) (hst : st = .waitConfirmation)
    (hrows : OneRowEach rows) :
    l.minimumApproverCount ≤ score rows + openVotes l.eligibleApproverIDs rows := by
  induction h with
  | @last rows u b hu =>
    obtain ⟨hscore, hopen⟩ := score_castVote hrows hu b
    cases b with
    | false => exact absurd hst stateAfterVote_reject
    | true =>
      rw [stateAfterVote_approve] at hst
      split at hst
      · simp only [if_true] at hscore
        omega
      · cases hst
  | @next rows u b st hu _ _ ih =>
    obtain ⟨hscore, hopen⟩ := score_castVote hrows hu b
    have hle := ih hst (hrows.castVote u b)
    cases b <;> simp only [Bool.false_eq_true, if_true, if_false] at hscore <;> omega

theorem reaches_of_le {n : Nat} (hn : openVotes l.eligibleApproverIDs rows = n)
    (hrows : OneRowEach rows) (hle : l.minimumApproverCount ≤ score rows + n) : l.Reaches rows := by
  induction n generalizing rows with
  | zero => exact .inl (by simpa using hle)
  | succ n ih =>
    obtain ⟨a, ha, hopen⟩ : ∃ a ∈ rows, a.approved = none ∧ eligible l.eligibleApproverIDs a.userID := by
      have hpos : 0 < openVotes l.eligibleApproverIDs rows := by omega
      simpa using countP_pos_iff.1 hpos
    have hu : MayVote l.eligibleApproverIDs rows a.userID := ⟨a, ha, rfl, hopen⟩
    obtain ⟨hscore, hcount⟩ := score_castVote hrows hu true
    simp only [if_true] at hscore
    have hstate : l.stateAfterVote (rows.map (castVote a.userID true)) a.userID true = _ :=
      stateAfterVote_approve
    -- the first approval confirms the workflow, or leaves it waiting for the others
    by_cases hdone : l.minimumApproverCount ≤ score (rows.map (castVote a.userID true))
    · rw [if_pos hdone] at hstate
      exact .inr (hstate ▸ .last hu)
    · rw [if_neg hdone] at hstate
      have hrest : l.Reaches (rows.map (castVote a.userID true)) :=
        ih (by omega) (hrows.castVote _ _) (by omega)
      exact .inr (.next hu hstate (hrest.resolve_left hdone))

theorem reaches_iff (hrows : OneRowEach rows) : l.Reaches rows ↔
    l.minimumApproverCount ≤ score rows + openVotes l.eligibleApproverIDs rows := by
  constructor
  · rintro (hscore | hvotes)
    · omega
    · exact hvotes.le rfl hrows
  · exact reaches_of_le rfl hrows

end Lifecycle

/-- The approvals of approvers who are no longer eligible. -/
def outsideApprovals (ids : List String) (rows : List WorkflowApprover) : Nat :=
  rows.countP fun a => a.approved = some true ∧ ¬ ids.contains a.userID

def rejections (rows : List WorkflowApprover) : Nat := rows.countP (·.approved = some false)

theorem eligible_counts (ids : List String) (rows : List WorkflowApprover) :
    (((rows.filter fun a => ids.contains a.userID).countP (·.approved = some true) : Int) +
      (rows.filter fun a => ids.contains a.userID).countP (·.approved = none)) =
    score rows + openVotes (some ids) rows + rejections rows - outsideApprovals ids rows := by
  unfold score openVotes rejections outsideApprovals eligible
  induction rows with
  | nil => rfl
  | cons a rows ih =>
    by_cases hids : a.userID ∈ ids <;> rcases happroved : a.approved with _ | (_ | _) <;>
      simp [hids, happroved] at ih ⊢ <;> omega

namespace WorkflowManager

variable {w : WorkflowManager} {ctx : Ctx} {wf : Workflow} {ids : List String} {i : Bool}
  {s s₁ : State} {m : Int}

theorem wp_checkInsufficientApprovers (hm : (w.minimumApprovalsOf ctx wf).run i s = (.ok m, s₁))
    (htenant : ctx.tenant ≠ "") (hfault : w.repo.fault s₁.clock = none)
    (hfew : Few (approversOf s.db wf.id)) :
    (w.checkInsufficientApprovers ctx wf ids).wp i (fun r _ => r =
      .ok (decide (score (approversOf s.db wf.id) +
        openVotes (some ids) (approversOf s.db wf.id) + rejections (approversOf s.db wf.id) -
          outsideApprovals ids (approversOf s.db wf.id) <
        (w.workflowLifecycle wf "" m (some ids)).minimumApproverCount))) s := by
  have hrows : approversOf s₁.db wf.id = approversOf s.db wf.id := by
    rw [((w.minimumApprovalsOf_configures ctx wf).run hm).1]
    rfl
  have hlist : ((w.workflowLifecycle wf "" m none).getAllApprovers ctx).eval s₁.db s₁.clock =
      (.ok (page (approversOf s.db wf.id) (w.repo.order s₁.clock _) 0 defaultLimit),
        s₁.clock + 1) := by
    have hfault' : (w.workflowLifecycle wf "" m none).repository.fault s₁.clock = none := hfault
    unfold Lifecycle.getAllApprovers Repo.listApprovers
    rw [eval_mapError, ← hrows, Repo.eval_list htenant hfault']
    rfl
  refine wp_bind_run (fun e s' h => ?_) fun a s' h => ?_
  all_goals
    rw [Prog.run_mapError, hm] at h
    cases h
  refine wp_query_bind (fun e n h => ?_) fun rows n h => ?_
  all_goals
    rw [eval_mapError, hlist] at h
    cases h
  have hperm := (page_perm (σ := w.repo.order s₁.clock _) hfew).filter fun a => ids.contains a.userID
  refine congrArg Except.ok ?_
  unfold Lifecycle.checkInsufficientApprovers
  simp only [hperm.countP_eq, eligible_counts]
  rfl

/-- The warning is exact, unless the minimum lies between what can be reached and that with the
rejections added and the approvals of those who are no longer eligible left out. -/
theorem checkInsufficientApprovers_exact_iff (w : WorkflowManager) (ctx : Ctx) (wf : Workflow)
    (ids : List String) (hm : (w.minimumApprovalsOf ctx wf).run i s = (.ok m, s₁))
    (htenant : ctx.tenant ≠ "") (hfault : w.repo.fault s₁.clock = none)
    (hfew : Few (Repo.approversOf s.db wf.id)) :
    let rows := Repo.approversOf s.db wf.id
    let l := w.workflowLifecycle wf "" m (some ids)
    (¬ l.Reaches rows ↔ score rows + openVotes (some ids) rows < l.minimumApproverCount) ∧
    ∃ insufficient, ((w.checkInsufficientApprovers ctx wf ids).run i s).1 = .ok insufficient ∧
      ((insufficient = true ↔ ¬ l.Reaches rows) ↔
        (l.minimumApproverCount ≤ score rows + openVotes (some ids) rows ↔
          l.minimumApproverCount + outsideApprovals ids rows ≤
            score rows + openVotes (some ids) rows + rejections rows)) := by
  intro rows l
  have hreach : ¬ l.Reaches rows ↔ score rows + openVotes (some ids) rows < l.minimumApproverCount := by
    rw [Lifecycle.reaches_iff (oneRowEach_approversOf s.db wf.id), not_le]
    rfl
  refine ⟨hreach, _, wp_checkInsufficientApprovers hm htenant hfault hfew, ?_⟩
  rw [hreach, decide_eq_true_eq]
  change (score rows + openVotes (some ids) rows + rejections rows - outsideApprovals ids rows <
    l.minimumApproverCount ↔ _) ↔ _
  omega

end WorkflowManager

namespace Sample

/-- Two votes are needed, `a` has approved and `b` has not voted. -/
def halfApproved : St Db World :=
  { start with db := { db with approvers := ⟨[⟨1, "a", some true⟩, ⟨1, "b", none⟩], by decide⟩ } }

def needsTwo : Workflow := { link 1 with state := .waitApproval, minimumApprovalCount := 2 }

def quietManager : WorkflowManager := manager (fun _ => []) fun _ => .ok "CREATED"

end Sample

namespace WorkflowManager

open Sample

/-- While both are eligible, the warning is exact. -/
theorem checkInsufficientApprovers_both :
    ∃ insufficient, ((quietManager.checkInsufficientApprovers worker needsTwo ["a", "b"]).run false
        halfApproved).1 = .ok insufficient ∧
      (insufficient = true ↔ ¬ (quietManager.workflowLifecycle needsTwo "" 2 (some ["a", "b"])).Reaches
        (Repo.approversOf halfApproved.db needsTwo.id)) := by
  have hfew : Few (Repo.approversOf halfApproved.db needsTwo.id) := by
    unfold Few
    decide
  obtain ⟨-, b, hb, hiff⟩ := checkInsufficientApprovers_exact_iff quietManager worker needsTwo ["a", "b"]
    (i := false) (s := halfApproved) (m := 2) rfl (by decide) rfl hfew
  exact ⟨b, hb, hiff.2 (by decide)⟩

/-- `a` is no longer eligible. The approval of `b` would confirm the workflow, and the warning says that
it cannot be confirmed. -/
theorem checkInsufficientApprovers_outside_approval :
    ((quietManager.checkInsufficientApprovers worker needsTwo ["b"]).run false halfApproved).1 =
        .ok true ∧
      (quietManager.workflowLifecycle needsTwo "" 2 (some ["b"])).VotesLeadTo
        (Repo.approversOf halfApproved.db needsTwo.id) .waitConfirmation := by
  refine ⟨by decide, ?_⟩
  have hvote : MayVote (some ["b"]) (Repo.approversOf halfApproved.db needsTwo.id) "b" :=
    ⟨⟨1, "b", none⟩, by decide, rfl, rfl, by decide⟩
  have hstate : (quietManager.workflowLifecycle needsTwo "" 2 (some ["b"])).stateAfterVote
      ((Repo.approversOf halfApproved.db needsTwo.id).map (castVote "b" true)) "b" true =
        .waitConfirmation := by decide
  exact hstate ▸ .last hvote

end WorkflowManager

end Cmk
