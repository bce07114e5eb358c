import Cmk.Moves

/-!
# Cmk.Calls

The calls of the workflow component as one type, and runs of them.

* `Call.prog`   — the program of a call. A request carries no transaction.
* `Call.guard`  — all that is known of the moves of a call, given the state it begins in.
* `Call.commits`— every move of a call is a `Move` under its guard.
-/

namespace Cmk

open Tx WorkflowManager

variable {p : WorkflowProcessor} {s s₀ : State}

/-- The calls that act on workflows: by users, by the expiry task and by the task queue. -/
inductive Call where
  | createWorkflow (ctx : Ctx) (workflow : Workflow)
  | autoAssignApprovers (ctx : Ctx) (workflowID : UUID)
  | transitionWorkflow (ctx : Ctx) (workflowID : UUID) (t : Transition)
  | expireWorkflow (ctx : Ctx) (workflowID : UUID)
  | processTask (ctx : Ctx) (payload : TaskPayload)

def Ctx.request (ctx : Ctx) : Ctx := { ctx with inTx := false }

def Ctx.tx (ctx : Ctx) : Ctx := { ctx with inTx := true }

namespace Call

variable (p : WorkflowProcessor)

/-- The program of a call; what it returns does not matter here. -/
def prog : Call → M Unit
  | createWorkflow ctx workflow => do let _ ← p.updater.createWorkflow ctx.request workflow
  | autoAssignApprovers ctx id => do let _ ← p.updater.autoAssignApprovers ctx.request id
  | transitionWorkflow ctx id t => do let _ ← p.updater.transitionWorkflow ctx.request id t
  | expireWorkflow ctx id => do let _ ← p.updater.expireWorkflow ctx.request id
  | processTask ctx payload => p.processTask ctx.request payload

def after (c : Call) (s : St Db World) : St Db World := ((c.prog p).run false s).2

def afterAll : List Call → St Db World → St Db World
  | [], s => s
  | c :: cs, s => afterAll cs (c.after p s)

/-- Every call of a sequence is allowed in the state it finds. -/
def Along (allowed : Call → St Db World → Prop) : List Call → St Db World → Prop
  | [], _ => True
  | c :: cs, s => allowed c s ∧ Along allowed cs (c.after p s)

/-- What is known of the moves of a call that begins in `s`. -/
def guard (c : Call) (s : St Db World) : Guard where
  create d wf := ∃ ctx req, c = .createWorkflow ctx req ∧
    p.updater.Submitted ctx.request req s d wf
  vote t ids wf rows := ∃ ctx u n, c = .transitionWorkflow ctx wf.id t ∧ t.isVote ∧
    s.db.workflows.get? wf.id = some wf ∧ ctx.extractUserIdentifier = .ok u ∧
    (p.updater.fetchEligibilityForVote ctx.tx wf t).eval s.db (s.clock + 1) = (.ok ids, n) ∧
    rows = (Repo.approversOf s.db wf.id).map (castVote u (t = .approve))
  abort wf := ∃ ctx id t, c = .transitionWorkflow ctx id t ∧ p.updater.Aborts ctx.request wf
  fail d wf := ∃ ctx payload id, c = .processTask ctx payload ∧ payload.data = some id ∧
    WorkflowProcessor.TaskFailed p.updater id s d wf

variable {p} {s : State}

theorem commits (c : Call) (hwell : WellFormed s.db) :
    (c.prog p).Commits (Move (c.guard p s)) s := by
  cases c with
  | createWorkflow ctx req =>
    exact wp_state_bind (createWorkflow_commits rfl
      fun d wf h => ⟨ctx, req, rfl, h⟩) fun _ _ h => h
  | autoAssignApprovers ctx id =>
    exact wp_state_bind (wp_mono
      (p.updater.autoAssignApprovers_commits ctx.request id rfl hwell) fun _ _ h => h.1) fun _ _ h => h
  | transitionWorkflow ctx id t =>
    refine wp_state_bind ?_ fun _ _ h => h
    by_cases ht : t.isVote
    · refine wp_mono (transitionWorkflow_vote rfl ht hwell) ?_
      rintro _ s' (hstill | ⟨hc, hlog, u, wf, wf', ids, n, hu, -, rfl, hids, hcast⟩)
      · exact hstill.reach
      · exact .single (.commit (.vote hcast ⟨ctx, u, n, rfl, ht, hcast.row.old, hu, hids, hcast.vote.rows⟩
          hlog) hc)
    · exact transitionWorkflow_finish rfl ht hwell
        fun wf h => ⟨ctx, id, t, rfl, h⟩
  | expireWorkflow ctx id =>
    exact wp_state_bind (expireWorkflow_commits rfl hwell) fun _ _ h => h
  | processTask ctx payload =>
    exact WorkflowProcessor.processTask_commits rfl hwell
      fun d wf id hid h => ⟨ctx, payload, id, rfl, hid, h⟩

end Call

/-- Runs of the component whose calls find states that meet a condition. -/
abbrev Run (p : WorkflowProcessor) (allowed : Call → St Db World → Prop) :
    St Db World → St Db World → Prop :=
  Runs (Call.prog p) allowed

theorem Call.Along.cons {allowed : Call → State → Prop} {c : Call} {cs : List Call}
    (h : allowed c s) (hcs : Call.Along p allowed cs (c.after p s)) :
    Call.Along p allowed (c :: cs) s :=
  ⟨h, hcs⟩

theorem Run.of_along {allowed : Call → State → Prop} (cs : List Call)
    (h : Call.Along p allowed cs s) : Run p allowed s (Call.afterAll p cs s) := by
  induction cs generalizing s with
  | nil => exact .refl
  | cons c cs ih => exact .head ⟨c, h.1, rfl⟩ (ih h.2)

/-- An invariant of the store, the world and the commits that the moves of every allowed call keep. -/
theorem Run.induct {allowed : Call → State → Prop} {I : Db → World → List Db → Prop}
    (hrun : Run p allowed s₀ s) (hwell : ∀ d x l, I d x l → WellFormed d)
    (h₀ : I s₀.db s₀.ext s₀.commits)
    (hworld : ∀ c s, allowed c s → ∀ d x l x', I d x l → Move (c.guard p s) d x none x' → I d x' l)
    (hcommit : ∀ c s, allowed c s → ∀ d x l d' x', I d x l → Move (c.guard p s) d x (some d') x' →
      I d' x' (d' :: l)) : I s.db s.ext s.commits :=
  Runs.induct (I := fun s => I s.db s.ext s.commits) hrun h₀ fun c s ha hs =>
    (c.commits (hwell _ _ _ hs)).induct hs (hworld c s ha) (hcommit c s ha)

structure Fresh (s : St Db World) : Prop where
  workflows : s.db.workflows.rows = []
  approvers : s.db.approvers.rows = []
  executed : s.ext.executed = []
  commits : s.commits = []

namespace Sample

/-- User `i` asks to link the system, the approvers are assigned, and two of them approve. -/
def twoApprovals : List Call :=
  [.createWorkflow (as "i") (link 1), .processTask worker (assign 1),
    .transitionWorkflow (as "a") 1 .approve, .transitionWorkflow (as "b") 1 .approve]

theorem initial_after_create :
    (((Call.createWorkflow (as "i") (link 1)).after processor start).db.workflows.get? 1).map
      (·.state) = some .initial := by decide

end Sample

end Cmk
