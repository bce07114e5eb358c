import Cmk.Flags
import Cmk.Interleave

/-!
# Cmk.Races

What calls that interleave may break, and when they do not. A call reads its workflow (a creation:
the open workflows of its artifact) before its transaction, and a vote counts the votes it can see.
Three properties of sequential runs are lost that way; each comes back if no transaction is
interrupted and every transaction begins in a store in which nothing has changed that its call
relies on (`Undisturbed`).

* `undisturbed_exclusive` — an artifact has at most one open workflow.
* `undisturbed_once`      — an action is executed once, and an end is final.
-/

namespace Cmk

open Tx List WorkflowManager

variable {x x' : World} {wf : Workflow} {d d' : Db}

section

variable {ι : Type} [DecidableEq ι] {p : WorkflowProcessor} {calls : ι → Call}
  {s₀ : State} {c : Pool ι Db World Exn}

/-- At every moment of an undisturbed interleaving an artifact has at most one open workflow. -/
theorem undisturbed_exclusive (hwell : WellFormed s₀.db) (hcommits : s₀.commits = [])
    (hone : ∀ ty id, (Repo.ongoing s₀.db ty id).length ≤ 1)
    (hrun : Undisturbed p (fun _ => True) calls s₀ c) :
    ∀ d ∈ c.st.db :: c.st.commits, ∀ ty id, (Repo.ongoing d ty id).length ≤ 1 := by
  obtain ⟨s, hreach, hdb, hc, -⟩ := hrun.moves hwell
  rw [← hdb, ← hc]
  have hinv : Exclusive s.db ∧ ∀ d ∈ s.commits, Exclusive d := by
    refine hreach.induct (I := fun d _ l => Exclusive d ∧ ∀ d' ∈ l, Exclusive d')
      ⟨.of_length_le hone, by rw [hcommits]; nofun⟩ (fun _ _ _ _ h _ => h) ?_
    rintro d x l d' x' ⟨hd, hl⟩ ⟨i, hmove⟩
    have hd' : Exclusive d' := hd.move (fun wf hG => not_exists_open.2 hG) hmove
    exact ⟨hd', List.forall_mem_cons.2 ⟨hd', hl⟩⟩
  intro d hd ty id
  rcases List.mem_cons.1 hd with rfl | hd
  · exact hinv.1.length_le ty id
  · exact (hinv.2 d hd).length_le ty id

end

namespace Sample

def pair (c₁ c₂ : Call) : Bool → Call
  | false => c₁
  | true => c₂

def twoRequests : Bool → Call :=
  pair (.createWorkflow (as "i") (link 1)) (.createWorkflow (as "i") (link 2))

/-- The second request has begun when the first is made, and finds its workflow. -/
def oneAfterOther : List Bool :=
  List.replicate 3 true ++ List.replicate 32 false ++ List.replicate 32 true

/-- Both requests look for an open workflow before either stores its own. -/
def bothLook : List Bool :=
  List.replicate 27 false ++ List.replicate 32 true ++ List.replicate 5 false

def together (calls : Bool → Call) (s : St Db World) : Pool Bool Db World Exn :=
  Pool.start (fun i => (calls i).prog processor) s

end Sample

open Sample in
/-- Two requests, of which only the first is stored. -/
theorem undisturbed_exclusive_requests :
    ((together twoRequests start).steps oneAfterOther).st.db.workflows.rows.map (·.id) = [1] ∧
      ∀ ty id, (Repo.ongoing ((together twoRequests start).steps oneAfterOther).st.db ty id).length ≤
        1 := by
  have hrun : Undisturbed processor (fun _ => True) twoRequests start
      ((together twoRequests start).steps oneAfterOther) :=
    Pool.Along.interleaved (by decide +kernel)
  have hnone : ∀ ty id, (Repo.ongoing start.db ty id).length ≤ 1 := fun _ _ => Nat.zero_le 1
  exact ⟨by decide +kernel, undisturbed_exclusive (fun id wf hwf => by cases hwf) rfl hnone hrun _
    List.mem_cons_self⟩

open Sample in
/-- Both requests are stored, and the system has two open workflows. -/
theorem both_requests_open :
    (Repo.ongoing ((together twoRequests start).steps bothLook).st.db .system 40).map (·.id) =
      [2, 1] := by
  decide +kernel

section

variable {ι : Type} [DecidableEq ι] {p : WorkflowProcessor} {calls : ι → Call}
  {s₀ : State} {c : Pool ι Db World Exn}

def Call.ActsOn (id : UUID) (c : Call) : Prop :=
  (∃ ctx t, c = .transitionWorkflow ctx id t) ∨ ∃ ctx, c = .expireWorkflow ctx id

def World.executions (x : World) (id : UUID) : Nat := x.executed.countP (·.workflowID = id)

theorem SameLog.executions (h : SameLog x x') (id : UUID) :
    x'.executions id = x.executions id :=
  congrArg (countP _) h

/-- The state of a workflow and the log of executions agree: there was none, or there was one and the
workflow ended with it. -/
structure Once (wf₀ : Workflow) (d : Db) (x : World) : Prop where
  row : ∃ wf, d.workflows.get? wf₀.id = some wf ∧ SameWorkflow wf₀ wf
  executed : x.executions wf₀.id = 0 ∨ x.executions wf₀.id = 1 ∧ ∃ wf,
    d.workflows.get? wf₀.id = some wf ∧ (wf.state = .successful ∨ wf.state = .failed)

namespace Once

variable {wf₀ wf wf' : Workflow} {d d' : Db} {x x' : World} {G : Guard}

theorem kept (h : Once wf₀ d x) (hrow : d'.workflows.get? wf₀.id = d.workflows.get? wf₀.id)
    (hlog : x'.executions wf₀.id = x.executions wf₀.id) : Once wf₀ d' x' := by
  obtain ⟨hwf, hex⟩ := h
  rw [← hrow] at hwf hex
  rw [← hlog] at hex
  exact ⟨hwf, hex⟩

theorem row_restated (h : Once wf₀ d x) (hr : Restated d d' wf wf') (hid : wf.id = wf₀.id) :
    d'.workflows.get? wf₀.id = some wf' ∧ SameWorkflow wf₀ wf' := by
  obtain ⟨wf₁, hwf₁, hsame⟩ := h.row
  rw [← hid, hr.old] at hwf₁
  cases hwf₁
  exact ⟨hid ▸ hr.new, hsame.trans hr.same⟩

theorem restated (h : Once wf₀ d x) (hr : Restated d d' wf wf')
    (hst : wf.state ∉ workflowTerminalStates) (hlog : SameLog x x') : Once wf₀ d' x' := by
  by_cases hid : wf.id = wf₀.id
  · obtain ⟨hnew, hsame⟩ := h.row_restated hr hid
    refine ⟨⟨wf', hnew, hsame⟩, .inl ?_⟩
    rw [hlog.executions]
    rcases h.executed with hex | ⟨-, wf₁, hwf₁, hend⟩
    · exact hex
    · rw [← hid, hr.old] at hwf₁
      cases hwf₁
      rcases hend with hend | hend <;> exact absurd (by rw [hend]; decide) hst
  · exact h.kept (hr.others _ (Ne.symm hid)) (hlog.executions _)

theorem confirmed (h : Once wf₀ d x) (hr : Restated d d' wf wf') {r : Except Exn Unit} {n : Nat}
    (hst : wf.state = .waitConfirmation) (hend : Lifecycle.Outcome r wf'.state)
    (hlog : Lifecycle.Logged wf d n x x') : Once wf₀ d' x' := by
  have hcount : x'.executions wf₀.id = x.executions wf₀.id + if wf.id = wf₀.id then 1 else 0 := by
    rw [World.executions, hlog, countP_cons]
    simp only [decide_eq_true_eq]
    rfl
  by_cases hid : wf.id = wf₀.id
  · obtain ⟨hnew, hsame⟩ := h.row_restated hr hid
    rw [if_pos hid] at hcount
    refine ⟨⟨wf', hnew, hsame⟩, .inr ⟨?_, wf', hnew, ?_⟩⟩
    · rcases h.executed with hex | ⟨-, wf₁, hwf₁, hdone⟩
      · rw [hcount, hex]
      · rw [← hid, hr.old] at hwf₁
        cases hwf₁
        rw [hst] at hdone
        rcases hdone with hdone | hdone <;> cases hdone
    · generalize wf'.state = st at hend
      cases hend with
      | executed => exact .inl rfl
      | failed => exact .inr rfl
  · rw [if_neg hid] at hcount
    exact h.kept (hr.others _ (Ne.symm hid)) hcount

/-- The step lemma, if no task fails and no action of the workflow is executed in vain. -/
theorem move (h : Once wf₀ d x) (hfail : ∀ wf, ¬ G.fail d wf)
    (hmove : Move G d x (some d') x') : Once wf₀ d' x' := by
  cases hmove with
  | around ha => exact h.kept (by rw [(ha.1 d' rfl).workflows]) (SameLog.executions ha.2 _)
  | create hc _ _ _ hlog =>
    refine h.kept (hc.others _ fun hid => ?_) (hlog.executions _)
    obtain ⟨wf, hwf, -⟩ := h.row
    rw [hid, hc.fresh] at hwf
    cases hwf
  | assign ha _ hlog => exact h.restated ha.row (by rw [ha.initial]; decide) hlog
  | vote hv _ hlog => exact h.restated hv.row (by rw [hv.waiting]; decide) hlog
  | finish _ hnext hf hlog =>
    exact h.restated hf.1.row (fun hst => not_fires_of_terminal hst (fires_of_nextState hnext)) hlog
  | confirm hst hend hf hlog => exact h.confirmed hf.1.row hst hend hlog
  | fail _ _ hG => exact absurd hG (hfail _)

theorem world (h : Once wf₀ d x) (habort : ∀ wf, SameWorkflow wf₀ wf → ¬ G.abort wf)
    (hmove : Move G d x none x') : Once wf₀ d x' := by
  cases hmove with
  | around ha => exact h.kept rfl (SameLog.executions ha.2 _)
  | abort hwf hst hlog hG =>
    obtain ⟨wf₁, hwf₁, hsame⟩ := h.row
    refine h.kept rfl ?_
    rw [World.executions, hlog, countP_cons_of_neg]
    · rfl
    · intro hid
      rw [decide_eq_true_eq] at hid
      change _ = wf₀.id at hid
      rw [← hid, hwf] at hwf₁
      cases hwf₁
      exact habort _ hsame hG

end Once

/-- In an undisturbed interleaving of transitions and expiries of one workflow a committed end is
final, and whenever no transaction is open the action was executed at most once, and not at all if
the workflow was revoked or has expired. -/
theorem undisturbed_once {id : UUID} {wf₀ : Workflow} (hcalls : ∀ i, (calls i).ActsOn id)
    (hwell : WellFormed s₀.db) (hrow : s₀.db.workflows.get? id = some wf₀)
    (hcommits : s₀.commits = []) (hnone : s₀.ext.executions id = 0)
    (hdone : ∀ i ctx t wf, calls i = .transitionWorkflow ctx id t → SameWorkflow wf₀ wf →
      ¬ p.updater.Aborts ctx.request wf)
    (hrun : Undisturbed p (fun _ => True) calls s₀ c) :
    ((c.st.db :: c.st.commits ++ [s₀.db]).Pairwise fun d' d => ∀ wf,
      d.workflows.get? wf.id = some wf → wf.state ∈ workflowTerminalStates →
      ∃ wf', d'.workflows.get? wf.id = some wf' ∧ wf'.state = wf.state) ∧
    ((∀ i, (c.threads i).inTx = false) → c.st.ext.executions id ≤ 1 ∧
      ∀ wf, c.st.db.workflows.get? id = some wf → wf.state = .revoked ∨ wf.state = .expired →
        c.st.ext.executions id = 0) := by
  obtain rfl : wf₀.id = id := Table.key_of_get? hrow
  obtain ⟨s, hreach, hdb, hc, hsettled⟩ := hrun.moves hwell
  have hfail : ∀ i d wf, ¬ ((calls i).shared p fun _ => True).fail d wf := by
    rintro i d wf ⟨ctx, payload, hcall, -⟩
    rcases hcalls i with ⟨ctx, t, hi⟩ | ⟨ctx, hi⟩ <;> rw [hi] at hcall <;> cases hcall
  have habort : ∀ i wf, SameWorkflow wf₀ wf → ¬ ((calls i).shared p fun _ => True).abort wf := by
    rintro i wf hsame ⟨ctx, id, t, hcall, ha⟩
    rcases hcalls i with ⟨ctx', t', hi⟩ | ⟨ctx', hi⟩
    · rw [hi] at hcall
      cases hcall
      exact hdone i ctx t wf hi hsame ha
    · rw [hi] at hcall
      cases hcall
  have hinv : Once wf₀ s.db s.ext ∧ Ordered Advanced s.db (s.commits ++ [s₀.db]) := by
    refine hreach.induct (I := fun d x l => Once wf₀ d x ∧ Ordered Advanced d (l ++ [s₀.db]))
      ⟨⟨⟨wf₀, hrow, .refl _⟩, .inl hnone⟩, ?_⟩ ?_ ?_
    · rw [hcommits]
      exact .singleton _
    · rintro d x l x' ⟨honce, hl⟩ ⟨i, hmove⟩
      exact ⟨honce.world (habort i) hmove, hl⟩
    · rintro d x l d' x' ⟨honce, hl⟩ ⟨i, hmove⟩
      exact ⟨honce.move (hfail i d) hmove, hl.commit (hmove.advanced fun wf _ hG =>
        absurd hG (hfail i d wf))⟩
  obtain ⟨honce, hadv⟩ := hinv
  rw [hdb, hc] at hadv
  refine ⟨.cons (fun d hd => Advanced.terminal (hadv.latest d hd))
    (hadv.pairwise.imp Advanced.terminal), ?_⟩
  intro hall
  rw [← hsettled hall]
  rcases honce.executed with hex | ⟨hex, wf, hwf, hend⟩
  · exact ⟨by omega, fun _ _ _ => hex⟩
  · refine ⟨by omega, fun wf' hwf' hst => ?_⟩
    rw [hwf] at hwf'
    cases hwf'
    rcases hend with hend | hend <;> rw [hend] at hst <;> rcases hst with hst | hst <;> cases hst

end

namespace Sample

def waiting : St Db World := Call.afterAll processor twoApprovals start

def twoConfirms : Bool → Call :=
  pair (.transitionWorkflow (as "i") 1 .confirm) (.transitionWorkflow (as "i") 1 .confirm)

def confirmAndRevoke : Bool → Call :=
  pair (.transitionWorkflow (as "i") 1 .confirm) (.transitionWorkflow (as "i") 1 .revoke)

/-- Both calls read the workflow, then the transactions follow each other. -/
def bothRead : List Bool :=
  [false, true] ++ List.replicate 22 false ++ List.replicate 22 true

/-- The second call reads the workflow after the first has committed, while that is still running. -/
def readAfter : List Bool :=
  List.replicate 12 false ++ [true] ++ List.replicate 10 false ++ List.replicate 22 true

def lastStates (c : Pool Bool Db World Exn) : List (List WorkflowState) :=
  (c.st.commits.take 2).map fun d => d.workflows.rows.map (·.state)

/-- A request to delete a key, and the tenant in which it waits for its confirmation. -/
def deletion : Workflow :=
  { link 1 with
    artifactType := .key
    artifactID := 20
    actionType := .delete
    state := .waitConfirmation
    minimumApprovalCount := 1 }

def deleting : St Db World :=
  { start with db := { db with workflows := ⟨[deletion], by decide⟩ } }

theorem get?_deleting {id : UUID} (h : deleting.db.workflows.get? id = some wf) : wf = deletion :=
  mem_singleton.1 (mem_of_get? h)

theorem deletion_not_aborts {ctx : Ctx} (htenant : ctx.tenant ≠ "") (h : SameWorkflow deletion wf) :
    ¬ processor.updater.Aborts ctx wf := by
  rintro (⟨l, hl, s, s', hrun⟩ | ⟨n, hr | hr⟩ | ⟨n, hn⟩)
  · have hty : l.workflow.artifactType = .key := by rw [hl.workflow, h.artifactType]; rfl
    have hac : l.workflow.actionType = .delete := by rw [hl.workflow, h.actionType]; rfl
    have hkey : l.keyActions = keyActions := hl.keyActions
    rw [Lifecycle.handler, hty, hac] at hrun
    simp only [Lifecycle.deleteKey, hkey] at hrun
    cases hrun
  · exact htenant hr
  · exact hr rfl
  · exact hn rfl

end Sample

open Sample in
/-- The deletion is executed once, and not revoked afterwards. -/
theorem undisturbed_once_deletion :
    ((together confirmAndRevoke deleting).steps readAfter).st.db.workflows.rows.map (·.state) =
        [.successful] ∧
      ((together confirmAndRevoke deleting).steps readAfter).st.ext.executions 1 ≤ 1 := by
  have hrun : Undisturbed processor (fun _ => True) confirmAndRevoke deleting
      ((together confirmAndRevoke deleting).steps readAfter) :=
    Pool.Along.interleaved (by decide +kernel)
  have hcalls : ∀ i, (confirmAndRevoke i).ActsOn 1 := by
    rintro (_ | _) <;> exact .inl ⟨_, _, rfl⟩
  have hwell : WellFormed deleting.db := fun id wf h => by rw [get?_deleting h]; decide
  have hrow : deleting.db.workflows.get? 1 = some deletion := by decide
  have hdone : ∀ i ctx t wf, confirmAndRevoke i = .transitionWorkflow ctx 1 t →
      SameWorkflow deletion wf → ¬ processor.updater.Aborts ctx.request wf := by
    rintro (_ | _) ctx t wf hi hsame <;> cases hi <;> exact deletion_not_aborts (by decide) hsame
  refine ⟨by decide +kernel, ((undisturbed_once hcalls hwell hrow rfl (by decide) hdone hrun).2 ?_).1⟩
  rintro (_ | _) <;> decide +kernel

open Sample in
/-- The action is executed twice, and a successful end becomes a failed one; or it is executed and
the successful workflow is revoked. -/
theorem both_confirms_executed :
    (((together twoConfirms waiting).steps bothRead).st.ext.executions 1 = 2 ∧
      lastStates ((together twoConfirms waiting).steps bothRead) = [[.failed], [.successful]]) ∧
    (((together confirmAndRevoke waiting).steps bothRead).st.ext.executions 1 = 1 ∧
      lastStates ((together confirmAndRevoke waiting).steps bothRead) = [[.revoked], [.successful]]) := by
  decide +kernel

section

variable {ι : Type} {p : WorkflowProcessor} {calls : ι → Call} {id : UUID}

/-- The approvers of a workflow in a store: at most 100 users, and eligible whenever one of the calls
asks who is. -/
structure Electorate (p : WorkflowProcessor) (calls : ι → Call) (id : UUID) (d : Db) : Prop where
  few : Few (Repo.approversOf d id)
  named : WorkflowManager.Named (Repo.approversOf d id)
  eligible : ∀ i ctx t wf ids n m, calls i = .transitionWorkflow ctx id t →
    d.workflows.get? id = some wf →
    (p.updater.fetchEligibilityForVote ctx.tx wf t).eval d n = (.ok ids, m) →
    ∀ a ∈ Repo.approversOf d id, eligible ids a.userID

/-- What a vote commits: all it does, counted by all approvers. -/
def VoteMove (p : WorkflowProcessor) (id : UUID) : Effect Db World := fun d _ o _ =>
  ∀ d', o = some d' → ∃ ctx : Ctx, ctx.tenant ≠ "" ∧ ∃ t u ids wf wf', wf.id = id ∧
    Few (Repo.approversOf d id) ∧ WorkflowManager.Named (Repo.approversOf d id) ∧
    (∀ a ∈ Repo.approversOf d id, eligible ids a.userID) ∧
    WorkflowManager.VoteCast (∃ m, p.updater.repo.Refuses ctx.tx m) t u ids wf wf' d d'

theorem vote_obeys (i : ι) (hcall : ∃ ctx t, t.isVote ∧ calls i = .transitionWorkflow ctx id t) :
    ((calls i).prog p).Obeys WellFormed
      (fun seen d => Electorate p calls id d ∧ (calls i).Unchanged seen d) (VoteMove p id) []
      fun _ _ => True := by
  obtain ⟨ctx, t, ht, hi⟩ := hcall
  have htransition : Prog.Obeys WellFormed
      (fun seen d => Electorate p calls id d ∧ (calls i).Unchanged seen d) (VoteMove p id) []
      (p.updater.transitionWorkflow ctx.request id t) fun _ _ => True := by
    refine transitionWorkflow_obeys_of (fun _ _ _ _ => nofun) ?_
    rintro u wf d seen htenant hd hrow rfl
    refine .single ((Repo.transaction_single _ rfl _).mapError _) fun s hs ⟨hE, hsame⟩ => ?_
    rw [hi] at hsame
    have hrow' : s.db.workflows.get? wf.id = some wf := (hsame d hd).trans hrow
    refine wp_mono (applyTransition_vote rfl ht hs hrow') fun _ s' h => ⟨?_, trivial⟩
    rcases h with h | ⟨hc, hlog, wf', ids, n, hids, hcast⟩
    · exact .world h.db h.commits nofun
    · refine .commit ?_ hc
      rintro _ ⟨⟩
      exact ⟨ctx, htenant, t, u, ids, wf, wf', rfl, hE.few, hE.named,
        hE.eligible i ctx t wf ids _ n hi hrow' hids, hcast⟩
  rw [hi] at *
  refine .bind (htransition.mono fun seen r _ => ?_)
  cases r <;> trivial

theorem VoteMove.move (h : VoteMove p id d x (some d') x') :
    ∃ G : Guard, (∀ t ids wf rows, G.vote t ids wf rows → Few rows) ∧ Move G d x (some d') x := by
  obtain ⟨ctx, -, t, u, ids, wf, wf', rfl, hfew, -, -, hcast⟩ := h d' rfl
  refine ⟨⟨fun _ _ => True, fun _ _ _ rows => Few rows, fun _ => True, fun _ _ => True⟩,
    fun _ _ _ _ h => h, .vote hcast (hcast.few hfew) rfl⟩

/-- The state of a workflow is the one its votes call for, everyone being eligible. -/
def Counted (id : UUID) (d : Db) : Prop :=
  ∃ wf, d.workflows.get? id = some wf ∧
    (wf.minimumApprovalCount ≤ score (Repo.approversOf d id) → wf.state ≠ .waitApproval) ∧
    (score (Repo.approversOf d id) + openVotes none (Repo.approversOf d id) <
      wf.minimumApprovalCount → wf.state = .rejected)

theorem VoteMove.counted (h : VoteMove p id d x (some d') x')
    (hfault : ∀ n, p.updater.repo.fault n = none) (hsound : Sound d) : Counted id d' := by
  obtain ⟨ctx, htenant, t, u, ids, wf, wf', rfl, hfew, hnamed, heligible, hcast⟩ := h d' rfl
  have hrefused : ¬ ∃ m, p.updater.repo.Refuses ctx.tx m := by
    rintro ⟨m, hm | hm⟩
    · exact htenant hm
    · exact hm (hfault m)
  have hdecided := hcast.decided hsound hrefused hfew hnamed
  have hopen : openVotes none (approversOf d' wf.id) =
      openVotes ids (approversOf d' wf.id) := by
    refine countP_congr fun a ha => ?_
    have hel : eligible ids a.userID = true :=
      hcast.users (P := fun user => eligible ids user = true) heligible a ha
    simp [hel]
  refine ⟨wf', hcast.row.new, ?_, ?_⟩
  · rw [hcast.row.same.minimumApprovalCount]
    intro hle hst
    have hlt := (hdecided.waiting hst).1
    omega
  · rw [hcast.row.same.minimumApprovalCount, hopen]
    exact hdecided.rejected

/-- As soon as one vote of an undisturbed interleaving is committed, and after every further one, the
workflow is in the state its votes call for. -/
theorem undisturbed_votes [DecidableEq ι] {s₀ : St Db World} {c : Pool ι Db World Exn}
    (hcalls : ∀ i, ∃ ctx t, t.isVote ∧ calls i = .transitionWorkflow ctx id t)
    (hfault : ∀ n, p.updater.repo.fault n = none) (hsound : Sound s₀.db)
    (hcommits : s₀.commits = []) (hrun : Undisturbed p (Electorate p calls id) calls s₀ c)
    (hvoted : c.st.commits ≠ []) :
    ∃ wf, c.st.db.workflows.get? id = some wf ∧
      (wf.minimumApprovalCount ≤ score (Repo.approversOf c.st.db id) → wf.state ≠ .waitApproval) ∧
      (score (Repo.approversOf c.st.db id) + openVotes none (Repo.approversOf c.st.db id) <
        wf.minimumApprovalCount → wf.state = .rejected) := by
  have hwell : ∀ (i : ι) d x d' x', WellFormed d → VoteMove p id d x (some d') x' → WellFormed d' := by
    intro _ d x d' x' hd h
    obtain ⟨G, -, hmove⟩ := h.move
    exact hd.move hmove
  obtain ⟨s, hreach, hdb, hc, -⟩ := Pool.sound (fun i => vote_obeys i (hcalls i)) hwell
    hsound.wellFormed hrun
  have hinv : Sound s.db ∧ (s.commits ≠ [] → Counted id s.db) := by
    refine hreach.induct (I := fun d _ l => Sound d ∧ (l ≠ [] → Counted id d))
      ⟨hsound, fun h => absurd hcommits h⟩ (fun _ _ _ _ h _ => h) ?_
    rintro d x l d' x' ⟨hd, -⟩ ⟨i, h⟩
    obtain ⟨G, hfew, hmove⟩ := h.move
    exact ⟨hd.move hfew hmove, fun _ => h.counted hfault hd⟩
  rw [hdb, hc] at hinv
  exact hinv.2 hvoted

end

namespace Sample

def assigned : St Db World :=
  { Call.afterAll processor (twoApprovals.take 2) start with commits := [] }

def twoVotes : Bool → Call :=
  pair (.transitionWorkflow (as "a") 1 .approve) (.transitionWorkflow (as "b") 1 .approve)

def voteAfterVote : List Bool :=
  List.replicate 24 false ++ [true] ++ List.replicate 6 false ++ List.replicate 30 true

def bothCount : List Bool :=
  List.replicate 22 false ++ List.replicate 22 true ++ [false, true] ++ List.replicate 6 false ++
    List.replicate 6 true

/-- The approvers and their group are as they were assigned. -/
def AsAssigned (d : Db) : Prop :=
  (Repo.approversOf d 1).map (·.userID) = ["a", "b", "c"] ∧
    d.approverGroups.rows = assigned.db.approverGroups.rows ∧ d.groups.rows = db.groups.rows

instance (d : Db) : Decidable (AsAssigned d) := inferInstanceAs (Decidable (_ ∧ _ ∧ _))

theorem eligible_asAssigned (h : AsAssigned d) (user : String) (n : Nat) (hid : wf.id = 1)
    (hst : wf.state = .waitApproval) :
    ((processor.updater.fetchEligibilityForVote (as user).tx wf .approve).eval d n).1 =
      .ok (some ["a", "b", "c", "i"]) := by
  have hgroups : d.approverGroups = assigned.db.approverGroups := Table.ext h.2.1
  have hgroup : d.groups = db.groups := Table.ext h.2.2
  cases d
  cases wf
  cases hgroups
  cases hgroup
  cases hid
  cases hst
  rfl

theorem AsAssigned.electorate (h : AsAssigned d) : Electorate processor twoVotes 1 d := by
  have husers : ∀ a ∈ approversOf d 1, a.userID ∈ ["a", "b", "c"] := fun a ha =>
    h.1 ▸ mem_map_of_mem ha
  refine ⟨?_, fun a ha hempty => ?_, ?_⟩
  · have hlen := congrArg length h.1
    rw [length_map] at hlen
    rw [Few, hlen]
    decide
  · have hmem := husers a ha
    rw [hempty] at hmem
    revert hmem
    decide
  · intro i ctx t wf ids n m hi hwf hids a ha
    have hctx : ∃ user, ctx = as user ∧ t = .approve := by
      cases i <;> cases hi <;> exact ⟨_, rfl, rfl⟩
    obtain ⟨user, rfl, rfl⟩ := hctx
    by_cases hst : wf.state = .waitApproval
    · have hel := eligible_asAssigned h user n (key_of_get? hwf) hst
      rw [hids] at hel
      cases hel
      have hmem := husers a ha
      simp only [mem_cons, not_mem_nil, or_false] at hmem
      rcases hmem with hu | hu | hu <;> rw [hu] <;> decide
    · rw [fetchEligibilityForVote, if_pos hst] at hids
      cases hids
      rfl

theorem sound_assigned : Sound assigned.db := by
  have hrun : Run processor (fun _ s => Small s.db) start
      (Call.afterAll processor (twoApprovals.take 2) start) :=
    .of_along _ ⟨.of_length (by decide), .of_length (by decide), trivial⟩
  exact (Safe.run hrun (fun _ _ h => h) (Safe.fresh fresh_start)).sound

end Sample

open Sample in
/-- Two approvals that follow each other reach the minimum. -/
theorem undisturbed_votes_approvals :
    score (Repo.approversOf ((together twoVotes assigned).steps voteAfterVote).st.db 1) = 2 ∧
      ∃ wf, ((together twoVotes assigned).steps voteAfterVote).st.db.workflows.get? 1 = some wf ∧
        (wf.minimumApprovalCount ≤
          score (Repo.approversOf ((together twoVotes assigned).steps voteAfterVote).st.db 1) →
          wf.state ≠ .waitApproval) := by
  have hrun : Undisturbed processor (Electorate processor twoVotes 1) twoVotes assigned
      ((together twoVotes assigned).steps voteAfterVote) := by
    have halong : Pool.Along (Pool.Orderly fun i seen d => AsAssigned d ∧
        (twoVotes i).Unchanged seen d) (together twoVotes assigned) voteAfterVote := by
      decide +kernel
    refine halong.interleaved.mono fun c i h => ?_
    exact ⟨h.1, fun seen hseen => ⟨(h.2 seen hseen).1.electorate, (h.2 seen hseen).2⟩⟩
  have hcalls : ∀ i, ∃ ctx t, t.isVote ∧ twoVotes i = .transitionWorkflow ctx 1 t := by
    rintro (_ | _) <;> exact ⟨_, .approve, rfl, rfl⟩
  have hcommits : ((together twoVotes assigned).steps voteAfterVote).st.commits ≠ [] :=
    fun h => absurd (congrArg List.length h) (by decide +kernel)
  obtain ⟨wf, hwf, hscore, -⟩ := undisturbed_votes hcalls (fun _ => rfl) sound_assigned rfl hrun hcommits
  exact ⟨by decide +kernel, wf, hwf, hscore⟩

open Sample in
/-- Two approvals that overlap: the minimum is reached and the workflow still waits. -/
theorem overlapping_votes_lost :
    ((together twoVotes assigned).steps bothCount).st.commits.length = 2 ∧
      score (Repo.approversOf ((together twoVotes assigned).steps bothCount).st.db 1) = 2 ∧
      ((together twoVotes assigned).steps bothCount).st.db.workflows.rows.map
        (fun wf => (wf.minimumApprovalCount, wf.state)) = [(2, .waitApproval)] := by
  decide +kernel

end Cmk
