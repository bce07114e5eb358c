import Cmk.Sample
import Cmk.Tally

/-!
# Cmk.Votes

What the vote count decides. Every approver row has a weight: it counts for, against or not at all,
with the actor's row counted as the vote being cast. `checkVotingScore` compares the tally of the
rows it was given with the minimum.

* `checkVotingScore_ok` — the decision is taken on one page of the rows.
* `decides_page` — with at most `defaultLimit` rows that is the decision on all of them.
-/

namespace Cmk

open List Repo

open Tx Tally

variable {rows : List WorkflowApprover}

/-- How a vote counts. What a row without a vote counts as depends on the question asked. -/
def voteSign (pending : SignType) : Option Bool → SignType
  | none => pending
  | some true => 1
  | some false => -1

def Few (rows : List WorkflowApprover) : Prop := rows.length ≤ defaultLimit

theorem isVote_iff {t : Transition} : t.isVote ↔ t = .approve ∨ t = .reject := by
  cases t <;> simp [Transition.isVote]

section Counts

variable {α : Type} (v : α → Option Bool) (rows : List α)

theorem tally_score : tally (fun a => voteSign 0 (v a)) rows =
    rows.countP (v · = some true) - rows.countP (v · = some false) := by
  induction rows with
  | nil => rfl
  | cons a rows ih =>
    rw [tally_cons, ih, countP_cons, countP_cons]
    rcases v a with _ | (_ | _) <;> simp [voteSign] <;> omega

theorem tally_potential : tally (fun a => voteSign 1 (v a)) rows =
    rows.countP (v · = some true) - rows.countP (v · = some false) + rows.countP (v · = none) := by
  induction rows with
  | nil => rfl
  | cons a rows ih =>
    rw [tally_cons, ih, countP_cons, countP_cons, countP_cons]
    rcases v a with _ | (_ | _) <;> simp [voteSign] <;> omega

end Counts

namespace Lifecycle

variable (l : Lifecycle) (ctx : Ctx) {t : Transition} {d : Db} {n n' : Nat} {b : Bool}

def ballot (t : Transition) (a : WorkflowApprover) : Option Bool :=
  if a.userID = l.actorID then some (t = .approve) else a.approved

def counts (a : WorkflowApprover) : Bool :=
  match l.eligibleApproverIDs with
  | none => true
  | some ids => ids.contains a.userID || a.approved.isSome

/-- An approval asks for the score, a rejection for the best score still possible. -/
def weight (t : Transition) (a : WorkflowApprover) : SignType :=
  if l.counts a then voteSign (if t = .approve then 0 else 1) (l.ballot t a) else 0

def decides (t : Transition) (rows : List WorkflowApprover) : Bool :=
  if t = .approve then l.minimumApproverCount ≤ tally (l.weight t) rows
  else tally (l.weight t) rows < l.minimumApproverCount

theorem filterEligibleApprovers_eq (rows : List WorkflowApprover) :
    l.filterEligibleApprovers rows = rows.filter l.counts := by
  unfold filterEligibleApprovers counts
  cases l.eligibleApproverIDs with
  | none => exact (filter_true rows).symm
  | some ids => rfl

theorem count_row (ht : t.isVote) (c : VoteCounts) (a : WorkflowApprover) :
    (if a.userID = l.actorID then applyCurrentVote c t else .ok (countExistingVote c a)) =
      .ok ⟨c.approvals + if l.ballot t a = some true then 1 else 0,
        c.rejections + if l.ballot t a = some false then 1 else 0,
        c.pending + if l.ballot t a = none then 1 else 0⟩ := by
  unfold ballot
  split
  · rcases isVote_iff.1 ht with rfl | rfl <;> rfl
  · rcases ha : a.approved with _ | (_ | _) <;> simp [countExistingVote, ha]

theorem foldlM_rows (ht : t.isVote) (rows : List WorkflowApprover) (c : VoteCounts) :
    rows.foldlM (fun c a => if a.userID = l.actorID then applyCurrentVote c t
      else .ok (countExistingVote c a)) c =
    (.ok ⟨c.approvals + rows.countP (l.ballot t · = some true),
      c.rejections + rows.countP (l.ballot t · = some false),
      c.pending + rows.countP (l.ballot t · = none)⟩ : Except Exn VoteCounts) := by
  induction rows generalizing c with
  | nil => rfl
  | cons a rows ih =>
    rw [foldlM_cons, l.count_row ht]
    refine (ih _).trans ?_
    simp only [countP_cons, decide_eq_true_eq, Except.ok.injEq, VoteCounts.mk.injEq]
    omega

theorem calculateVoteCounts_eq (ht : t.isVote) (rows : List WorkflowApprover) :
    l.calculateVoteCounts rows t =
      .ok ⟨rows.countP (l.ballot t · = some true), rows.countP (l.ballot t · = some false),
        rows.countP (l.ballot t · = none)⟩ := by
  unfold calculateVoteCounts
  rw [l.foldlM_rows ht]
  simp only [Nat.zero_add]

def decision (t : Transition) (rows : List WorkflowApprover) : Except Exn Bool := do
  let counts ← l.calculateVoteCounts (l.filterEligibleApprovers rows) t
  l.shouldTransition counts t

theorem decision_eq (ht : t.isVote) (rows : List WorkflowApprover) :
    l.decision t rows = .ok (l.decides t rows) := by
  have hw : tally (l.weight t) rows =
      tally (fun a => voteSign (if t = .approve then 0 else 1) (l.ballot t a))
        (rows.filter l.counts) := (tally_filter l.counts rows).symm
  unfold decision decides
  rw [filterEligibleApprovers_eq, l.calculateVoteCounts_eq ht, hw]
  rcases isVote_iff.1 ht with rfl | rfl
  · rw [if_pos rfl, if_pos rfl, tally_score]; rfl
  · rw [if_neg (by decide), if_neg (by decide), tally_potential]; rfl

theorem checkVotingScore_eval (hcan : l.stateMachine.can t) :
    (l.checkVotingScore ctx t).eval d n =
      match (l.getAllApprovers ctx).eval d n with
      | (.ok rows, m) => (l.decision t rows, m)
      | (.error e, m) => (.error e, m) := by
  simp only [checkVotingScore, hcan, not_true_eq_false, if_false, eval_bind]
  rcases (l.getAllApprovers ctx).eval d n with ⟨_ | rows, m⟩
  · rfl
  · simp only [decision, Query.eval_except]
    cases l.calculateVoteCounts (l.filterEligibleApprovers rows) t <;> rfl

theorem checkVotingScore_ok (h : (l.checkVotingScore ctx t).eval d n = (.ok b, n')) :
    l.stateMachine.can t ∧ n' = n + 1 ∧
      (t.isVote → b = l.decides t (page (approversOf d l.workflow.id)
        (l.repository.order n _) 0 defaultLimit)) := by
  by_cases hcan : l.stateMachine.can t
  · rw [l.checkVotingScore_eval ctx hcan] at h
    split at h
    · rename_i rows m hrows
      obtain ⟨rfl, rfl⟩ := eval_list_ok (eval_mapError_ok hrows)
      obtain ⟨hb, rfl⟩ := Prod.mk.inj h
      refine ⟨hcan, rfl, fun ht => ?_⟩
      rw [l.decision_eq ht] at hb
      exact (Except.ok.inj hb).symm
    · cases h
  · simp only [checkVotingScore, hcan, Query.throw_bind] at h
    cases h

theorem checkVotingScore_error {e : Exn} (ht : t.isVote) (hcan : l.stateMachine.can t)
    (h : (l.checkVotingScore ctx t).eval d n = (.error e, n')) : l.repository.Refuses ctx n := by
  rw [l.checkVotingScore_eval ctx hcan] at h
  split at h
  · rw [l.decision_eq ht] at h
    cases h
  · rename_i e' m hrows
    unfold getAllApprovers at hrows
    rw [eval_mapError] at hrows
    cases hl : (l.repository.listApprovers ctx l.workflow.id).eval d n with
    | mk r k =>
      rw [hl] at hrows
      cases r with
      | ok rows => cases hrows
      | error e => exact eval_list_error hl

theorem decides_page {σ : Equiv.Perm (Fin rows.length)} (h : Few rows) :
    l.decides t (page rows σ 0 defaultLimit) = l.decides t rows := by
  unfold decides
  rw [tally_perm (page_perm h)]

end Lifecycle

def score (rows : List WorkflowApprover) : Int :=
  rows.countP (·.approved = some true) - rows.countP (·.approved = some false)

/-- May the user still vote? Without an eligible set everyone may. -/
def eligible (ids : Option (List String)) (userID : String) : Bool :=
  match ids with
  | none => true
  | some ids => ids.contains userID

@[simp] theorem eligible_none (userID : String) : eligible none userID = true := rfl

def openVotes (ids : Option (List String)) (rows : List WorkflowApprover) : Nat :=
  rows.countP fun a => a.approved = none ∧ eligible ids a.userID

def castVote (u : String) (b : Bool) (a : WorkflowApprover) : WorkflowApprover :=
  if a.userID = u then { a with approved := some b } else a

theorem score_eq_tally (rows : List WorkflowApprover) :
    score rows = tally (fun a => voteSign 0 a.approved) rows :=
  (tally_score _ _).symm

theorem score_add_openVotes (ids : Option (List String)) (rows : List WorkflowApprover) :
    score rows + openVotes ids rows =
      tally (fun a => voteSign (if eligible ids a.userID then 1 else 0) a.approved) rows := by
  rw [score_eq_tally]
  unfold openVotes
  induction rows with
  | nil => rfl
  | cons a rows ih =>
    rw [tally_cons, tally_cons, ← ih, countP_cons]
    rcases a.approved with _ | (_ | _) <;> cases eligible ids a.userID <;> simp [voteSign] <;> omega

namespace Lifecycle

variable (l : Lifecycle) (ctx : Ctx) {t : Transition} {d : Db} {n : Nat}

theorem weight_eq {a : WorkflowApprover} (h : l.ballot t a = a.approved) :
    l.weight t a = voteSign (if t ≠ .approve ∧ eligible l.eligibleApproverIDs a.userID then 1 else 0)
      a.approved := by
  have hc : l.counts a = (eligible l.eligibleApproverIDs a.userID || a.approved.isSome) := by
    unfold counts eligible
    cases l.eligibleApproverIDs <;> simp
  unfold weight
  rw [h, hc]
  cases a.approved with
  | none => by_cases ht : t = .approve <;> cases eligible l.eligibleApproverIDs a.userID <;>
      simp [voteSign, ht]
  | some b => cases b <;> simp [voteSign]

theorem decides_approve (h : ∀ a ∈ rows, l.ballot .approve a = a.approved) :
    l.decides .approve rows = decide (l.minimumApproverCount ≤ score rows) := by
  unfold decides
  rw [if_pos rfl, score_eq_tally, tally_congr fun a ha => ?_]
  rw [l.weight_eq (h a ha)]
  simp

theorem decides_reject (h : ∀ a ∈ rows, l.ballot .reject a = a.approved) :
    l.decides .reject rows = decide
      (score rows + openVotes l.eligibleApproverIDs rows < l.minimumApproverCount) := by
  unfold decides
  rw [if_neg (by decide), score_add_openVotes, tally_congr fun a ha => ?_]
  rw [l.weight_eq (h a ha)]
  simp

theorem ballot_castVote (a : WorkflowApprover) :
    l.ballot t (castVote l.actorID (t = .approve) a) =
      (castVote l.actorID (t = .approve) a).approved := by
  unfold ballot castVote
  split <;> rename_i h
  · simp_all
  · simp_all

/-- The lifecycle on a database that lists rows in another order. -/
def withOrder (order : Nat → (n : Nat) → Equiv.Perm (Fin n)) : Lifecycle :=
  { l with repository := { l.repository with order := order } }

theorem decides_eq_iff (rows rows' : List WorkflowApprover) :
    l.decides t rows = l.decides t rows' ↔
      (l.minimumApproverCount ≤ tally (l.weight t) rows ↔
        l.minimumApproverCount ≤ tally (l.weight t) rows') := by
  unfold decides
  split
  · rw [decide_eq_decide]
  · rw [decide_eq_decide, ← not_le, ← not_le, not_iff_not]

theorem checkVotingScore_withOrder (ht : t.isVote) (hcan : l.stateMachine.can t)
    (htenant : ctx.tenant ≠ "") (hfault : l.repository.fault n = none)
    (order : Nat → (n : Nat) → Equiv.Perm (Fin n)) :
    (((l.withOrder order).checkVotingScore ctx t).eval d n).1 =
      .ok (l.decides t (page (approversOf d l.workflow.id) (order n _) 0 defaultLimit)) := by
  have hrows : ((l.withOrder order).getAllApprovers ctx).eval d n =
      (.ok (page (approversOf d l.workflow.id) (order n _) 0 defaultLimit), n + 1) := by
    have hfault' : (l.withOrder order).repository.fault n = none := hfault
    unfold getAllApprovers listApprovers
    rw [eval_mapError, eval_list htenant hfault']
    rfl
  rw [(l.withOrder order).checkVotingScore_eval ctx hcan, hrows]
  exact l.decision_eq ht _

/-- Whatever page the database returns, the decision is the one on all rows: exactly if there is
only one page, or the tally of all rows is so clear that no page can differ. -/
theorem checkVotingScore_eq_decision_iff (ht : t.isVote) (hcan : l.stateMachine.can t)
    (htenant : ctx.tenant ≠ "") (hfault : l.repository.fault n = none) :
    (∀ order, (((l.withOrder order).checkVotingScore ctx t).eval d n).1 =
        l.decision t (Repo.approversOf d l.workflow.id)) ↔
      (Repo.approversOf d l.workflow.id).length ≤ defaultLimit ∨
        if l.minimumApproverCount ≤ tally (l.weight t) (Repo.approversOf d l.workflow.id) then
          l.minimumApproverCount ≤
            lowest (l.weight t) defaultLimit (Repo.approversOf d l.workflow.id)
        else highest (l.weight t) defaultLimit (Repo.approversOf d l.workflow.id) <
          l.minimumApproverCount := by
  simp only [l.checkVotingScore_withOrder ctx ht hcan htenant hfault, l.decision_eq ht,
    Except.ok.injEq]
  generalize Repo.approversOf d l.workflow.id = rows
  by_cases hlen : rows.length ≤ defaultLimit
  · simp only [l.decides_page hlen, hlen, true_or, implies_true]
  · rw [or_iff_right hlen, ← threshold_stable_iff (not_le.1 hlen).le]
    constructor
    · intro h rows' hp
      obtain ⟨σ, rfl⟩ := exists_shuffle hp
      have hσ := h fun _ k => if hk : rows.length = k then hk ▸ σ else .refl _
      rw [dif_pos rfl] at hσ
      exact (l.decides_eq_iff _ _).1 hσ
    · intro h order
      exact (l.decides_eq_iff _ _).2 (h _ (shuffle_perm rows _))

end Lifecycle

/-! ### A second page -/

namespace Sample

def approver (i : Nat) : WorkflowApprover :=
  ⟨1, String.ofList (List.replicate i 'u'), if i = 0 then some true else none⟩

theorem approver_key_injective : Function.Injective fun i => (approver i).key := by
  intro i j h
  have hu : replicate i 'u' = replicate j 'u' := String.ofList_injective (Prod.mk.inj h).2
  simpa using congrArg length hu

def crowd (n : Nat) : Db :=
  { db with
    approvers := ⟨(List.range n).map approver, by
      rw [List.map_map]
      exact List.nodup_range.map approver_key_injective⟩ }

/-- A workflow that needs two approvals, with the last of `n` approvers as the actor. -/
def lifecycle (n : Nat) : Lifecycle :=
  .new { link 1 with state := .waitApproval, minimumApprovalCount := 2 } keyActions
    keyConfigurationActions (systemManager fun _ => .ok "CREATED") repo (approver (n - 1)).userID 2
    fun _ => .error (.foreign "invalid UUID")

end Sample

open Sample in
/-- With three approvers the second approval decides, in whatever order they are listed. -/
theorem checkVotingScore_three :
    (lifecycle 3).decision .approve (Repo.approversOf (crowd 3) 1) = .ok true ∧
      ∀ order, ((((lifecycle 3).withOrder order).checkVotingScore (as "uu") .approve).eval
        (crowd 3) 0).1 = (lifecycle 3).decision .approve (Repo.approversOf (crowd 3) 1) :=
  ⟨by decide, ((lifecycle 3).checkVotingScore_eq_decision_iff (as "uu") (d := crowd 3) (n := 0) rfl rfl
    (by decide) rfl).2 (.inl (by decide))⟩

open Sample in
/-- With 101 approvers the row of the actor may be on the second page, and the approval that reaches
the minimum does not decide. -/
theorem checkVotingScore_second_page :
    (((lifecycle 101).withOrder repo.order).checkVotingScore (as "u") .approve).eval (crowd 101) 0 =
        (.ok false, 1) ∧
      (lifecycle 101).decision .approve (Repo.approversOf (crowd 101) 1) = .ok true := by
  constructor <;> decide +kernel

end Cmk
