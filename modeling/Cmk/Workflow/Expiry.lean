import Cmk.Spec.Admission
import Cmk.Workflow.Listing

/-!
# Cmk.Workflow.Expiry

The task that expires overdue workflows (`internal/async/tasks/tenant/workflow_expiry.go`).

* `processTask` — the loop over the workflows of the listing. An error is only logged, so its value
  here is the list of what it logs.
* `processWorkflow_ok`, `processWorkflows_ok` — what a round and the whole loop do if nothing is logged.
* `getWorkflows_internal` — the task is shown one page of all workflows.
* `expiry_pass_iff` — a pass is complete exactly if nothing overdue is beyond that page.
-/

namespace Cmk

open Tx List Prog WorkflowManager Workflow Sql Repo

variable {lt : Sql.Datum → Sql.Datum → Bool} {wfs : List Workflow}

def expirableStates : List WorkflowState := [.waitApproval, .waitConfirmation, .executing]

def Lifecycle.canExpire (l : Lifecycle) : Bool := l.stateMachine.can .expire

namespace WorkflowManager

variable (w : WorkflowManager) (ctx : Ctx)

def workflowCanExpire (workflow : Workflow) : M Bool := do
  let userID ← (ctx.extractUserIdentifier : Except Exn String)
  let minimumApprovals ← w.minimumApprovalsOf ctx workflow
  return (w.workflowLifecycle workflow userID minimumApprovals none).canExpire

end WorkflowManager

/-- `WorkflowExpiryProcessor` with the manager as its updater. -/
structure WorkflowExpiryProcessor where
  updater : WorkflowManager
  repo : Repo

namespace WorkflowExpiryProcessor

variable (p : WorkflowExpiryProcessor) (ctx : Ctx) (lt : Sql.Datum → Sql.Datum → Bool)

/-- One round of the loop of `ProcessTask`; the value is what it logs. -/
def processWorkflow (wf : Workflow) : M (List Err) := do
  let now ← (Query.ask fun n _ => .ok (p.repo.now n) : Q Int)
  if wf.expiryDate.all (now < ·) then return []
  match ← errValue (p.updater.workflowCanExpire ctx wf) with
  | .error e => return [e]
  | .ok false => return []
  | .ok true =>
    match ← errValue (p.updater.expireWorkflow ctx wf.id) with
    | .error e => return [e]
    | .ok _ => return []

def processWorkflows : List Workflow → M (List Err)
  | [] => return []
  | wf :: wfs => do
    let logged ← p.processWorkflow ctx wf
    return logged ++ (← processWorkflows wfs)

/-- `ProcessTask`, which always returns nil; the value is what it logs. The empty `WorkflowFilter` adds
no condition and no page size. -/
def processTask : M (List Err) := do
  match ← errValue (p.updater.getWorkflows ctx lt ⟨0, 0⟩ Sql.newQuery) with
  | .error e => return [e]
  | .ok (wfs, _) => p.processWorkflows ctx wfs

end WorkflowExpiryProcessor

section Listed

theorem workflowRows_all (lt : Sql.Datum → Sql.Datum → Bool) (d : Db) :
    workflowRows lt (((newQuery.setLimit 0).setOffset 0).groupBy "workflows.id") d =
      .ok d.workflows.rows := by
  let rows := fromRows "workflows" (d.workflows.rows.map fun w => (w, w.columns))
  have hrows : rows = d.workflows.rows.map fun w =>
      (w, Sql.Row.extend (fun _ => none) "workflows" w.columns) := map_map
  have hkeys : rows.map (fun p => [p.2 (.of "workflows" "workflows.id")]) =
      (d.workflows.rows.map Workflow.id).map fun id => [some (Sql.Datum.uuid id)] := by
    rw [hrows, map_map, map_map, column_id]
    rfl
  have hnodup : (rows.map fun p => [p.2 (.of "workflows" "workflows.id")]).Nodup := by
    rw [hkeys]
    exact d.workflows.nodup.map fun a b h => by simpa using h
  have hgroup : groupBy (fun p => [p.2 (.of "workflows" "workflows.id")]) rows = rows :=
    groupBy_eq_self hnodup
  have hselected : (rows.filter fun p => (value p.2 []).Holds) = rows :=
    filter_eq_self.2 fun _ _ => rfl
  have hfst : rows.map Prod.fst = d.workflows.rows := by
    rw [hrows, map_map]
    exact map_id _
  change Except.ok ((groupBy (fun p => [p.2 (.of "workflows" "workflows.id")])
    (rows.filter fun p => (value p.2 []).Holds)).map Prod.fst) = _
  rw [hselected, hgroup, hfst]

theorem needsGroupFiltering_internal {u : User} {ctx : Ctx} {action : APIAction}
    {resource : APIResourceType} {d : Db} {n m : Nat} {b : Bool}
    (hctx : ctx.userType = some .internalUser)
    (h : (u.needsGroupFiltering ctx action resource).eval d n = (.ok b, m)) : b = false ∧ m = n := by
  simp only [User.needsGroupFiltering] at h
  obtain ⟨isBypass, n1, hb, h⟩ := eval_bind_ok h
  obtain ⟨-, rfl⟩ := Prod.mk.inj hb
  cases isBypass with
  | true =>
    cases h
    exact ⟨rfl, rfl⟩
  | false =>
    obtain ⟨groups, n2, -, h⟩ := eval_bind_ok h
    obtain ⟨role, n3, hrole, -⟩ := eval_bind_ok h
    simp only [User.getRoleFromIAM] at hrole
    obtain ⟨authCtx, n4, hauth, -⟩ := eval_bind_ok hrole
    rw [Query.eval_except, Ctx.businessToInternalContext, hctx] at hauth
    cases hauth

theorem getWorkflows_internal {w : WorkflowManager} {ctx : Ctx} {d : Db} {n m k : Nat}
    (hctx : ctx.userType = some .internalUser)
    (h : (w.getWorkflows ctx lt ⟨0, 0⟩ newQuery).eval d n = (.ok (wfs, k), m)) :
    wfs = page d.workflows.rows (w.repo.order n _) 0 defaultLimit := by
  simp only [getWorkflows] at h
  obtain ⟨b, n1, hb, h1⟩ := eval_bind_ok h
  obtain ⟨rfl, rfl⟩ := needsGroupFiltering_internal hctx (eval_mapError_ok hb)
  obtain ⟨query, n2, hquery, h2⟩ := eval_bind_ok h1
  cases hquery
  obtain ⟨ws, n3, hlist, h3⟩ := eval_bind_ok h2
  obtain ⟨count, n4, -, h4⟩ := eval_bind_ok h3
  cases h4
  obtain ⟨hrows, -⟩ := eval_query_ok (eval_mapError_ok hlist)
  rw [workflowRows_all] at hrows
  cases hrows
  rfl

end Listed

def Workflow.overdue (wf : Workflow) (t : Int) : Bool := wf.expiryDate.any (· ≤ t)

def Workflow.notYetDue (wf : Workflow) (t : Int) : Bool := wf.expiryDate.any (t < ·)

def Workflow.expiredAt (wf : Workflow) (t : Int) : WorkflowState :=
  if wf.overdue t ∧ wf.state ∈ expirableStates then .expired else wf.state

def Db.stateOf (d : Db) (id : UUID) : Option WorkflowState := (d.workflows.get? id).map (·.state)

namespace WorkflowManager

variable {w : WorkflowManager} {ctx : Ctx} {s s' : State} {id : UUID} {wf wf' : Workflow}

theorem nextState_expire {st : WorkflowState} :
    nextState st .expire = if st ∈ expirableStates then some .expired else none := by
  cases st <;> rfl

theorem canExpire_eq {u : String} {m : Int} :
    (w.workflowLifecycle wf u m none).canExpire = decide (wf.state ∈ expirableStates) := by
  change FSM.can ⟨wf.state, workflowEvents⟩ .expire = _
  rw [FSM.can, target_workflowEvents, nextState_expire]
  split
  · rename_i h
    simp [h]
  · rename_i h
    simp [h]

theorem workflowCanExpire_ok {b : Bool} {i : Bool}
    (h : (w.workflowCanExpire ctx wf).run i s = (.ok b, s')) :
    b = decide (wf.state ∈ expirableStates) ∧ s'.db.workflows = s.db.workflows := by
  obtain ⟨u, s1, hu, h⟩ := run_bind_ok h
  obtain ⟨-, rfl⟩ := Prod.mk.inj hu
  obtain ⟨m, s2, hm, h⟩ := run_bind_ok h
  cases h
  exact ⟨canExpire_eq, ((w.minimumApprovalsOf_configures ctx wf).run hm).1.untouched.workflows⟩

theorem expireWorkflowTx_ok (hrow : s.db.workflows.get? wf.id = some wf)
    (h : (w.expireWorkflowTx ctx wf).run true s = (.ok wf', s')) :
    wf'.state = .expired ∧ s'.db.workflows.get? wf.id = some wf' ∧
      ∀ id, id ≠ wf.id → s'.db.workflows.get? id = s.db.workflows.get? id := by
  refine wp_of_run (wp_expireWorkflowTx hrow (P := fun r s' => ∀ wf', r = .ok wf' →
    wf'.state = .expired ∧ s'.db.workflows.get? wf.id = some wf' ∧
      ∀ id, id ≠ wf.id → s'.db.workflows.get? id = s.db.workflows.get? id) ?_ ?_) h wf' rfl
  · intro e s' _ wf' h
    cases h
  · rintro d0 s' wf1 hconf _ _ hnext ⟨hfin, -⟩ wf' h
    cases h
    refine ⟨expire_state hnext, hfin.row.new, fun id hne => ?_⟩
    rw [hfin.row.others id hne, hconf.untouched.workflows]

theorem expireWorkflow_ok (hout : ctx.inTx = false)
    (h : (w.expireWorkflow ctx id).run false s = (.ok wf', s')) :
    s'.db.stateOf id = some .expired ∧
      ∀ id', id' ≠ id → s'.db.workflows.get? id' = s.db.workflows.get? id' := by
  obtain ⟨wf, n, hwf, h⟩ := run_query_bind_ok h
  obtain ⟨hrow, rfl⟩ := eval_first_ok (eval_mapError_ok hwf)
  have hid : wf.id = id := key_of_get? hrow
  rw [transaction_outermost hout] at h
  obtain ⟨s1, hbody, -, rfl⟩ := run_transact_ok (run_mapError_ok h)
  obtain ⟨hst, hnew, hothers⟩ := expireWorkflowTx_ok (hid ▸ hrow) hbody
  rw [hid] at hnew hothers
  exact ⟨by rw [Db.stateOf, hnew, Option.map_some, hst], hothers⟩

end WorkflowManager

namespace Workflow

variable {wf : Workflow} {t u : Int}

theorem overdue_mono (h : t ≤ u) (hdue : wf.overdue t) : wf.overdue u := by
  unfold overdue at hdue ⊢
  cases hdate : wf.expiryDate with
  | none => simp [hdate] at hdue
  | some e =>
    simp only [hdate, Option.any_some, decide_eq_true_eq] at hdue ⊢
    omega

theorem notYetDue_mono (h : t ≤ u) (hfuture : wf.notYetDue u) : wf.notYetDue t := by
  unfold notYetDue at hfuture ⊢
  cases hdate : wf.expiryDate with
  | none => simp [hdate] at hfuture
  | some e =>
    simp only [hdate, Option.any_some, decide_eq_true_eq] at hfuture ⊢
    omega

theorem not_overdue_iff : ¬ wf.overdue t ↔ wf.expiryDate.all (t < ·) := by
  unfold overdue
  cases wf.expiryDate <;> simp

theorem not_overdue_of_notYetDue (h : wf.notYetDue t) : ¬ wf.overdue t := by
  unfold notYetDue at h
  unfold overdue
  cases hdate : wf.expiryDate with
  | none => simp
  | some e => simpa [hdate] using h

theorem expiredAt_of_overdue (h : wf.overdue t) (hst : wf.state ∈ expirableStates) :
    wf.expiredAt t = .expired :=
  if_pos ⟨h, hst⟩

theorem expiredAt_of_not_overdue (h : ¬ wf.overdue t) : wf.expiredAt t = wf.state :=
  if_neg fun hc => h hc.1

theorem expiredAt_of_state (h : wf.state ∉ expirableStates) : wf.expiredAt t = wf.state :=
  if_neg fun hc => h hc.2

end Workflow

namespace WorkflowExpiryProcessor

variable {p : WorkflowExpiryProcessor} {ctx : Ctx} {s s' : State} {wf : Workflow}

/-- A round that logs nothing brings the workflow to the state it has at the time of the round, and
leaves the others alone. -/
theorem processWorkflow_ok (hout : ctx.inTx = false) (hrow : s.db.workflows.get? wf.id = some wf)
    (h : (p.processWorkflow ctx wf).run false s = (.ok [], s')) :
    s'.db.stateOf wf.id = some (wf.expiredAt (p.repo.now s.clock)) ∧
      ∀ id, id ≠ wf.id → s'.db.workflows.get? id = s.db.workflows.get? id := by
  have hstate : s.db.stateOf wf.id = some wf.state := by rw [Db.stateOf, hrow, Option.map_some]
  obtain ⟨now, n, hnow, h1⟩ := run_query_bind_ok h
  cases hnow
  split at h1
  · rename_i hfuture
    cases h1
    rw [expiredAt_of_not_overdue (not_overdue_iff.2 hfuture)]
    exact ⟨hstate, fun _ _ => rfl⟩
  · rename_i hdue
    obtain ⟨r, s1, hcan, h2⟩ := run_bind_ok h1
    rcases r with e | b
    · cases h2
    · obtain ⟨hb, hsame⟩ := workflowCanExpire_ok (errValue_ok hcan)
      cases b with
      | false =>
        cases h2
        have hst : wf.state ∉ expirableStates := of_decide_eq_false hb.symm
        refine ⟨?_, fun id _ => by rw [hsame]⟩
        rw [Db.stateOf, hsame, expiredAt_of_state hst]
        exact hstate
      | true =>
        have hst : wf.state ∈ expirableStates := of_decide_eq_true hb.symm
        obtain ⟨r, s2, hexp, h3⟩ := run_bind_ok h2
        rcases r with e | wf'
        · cases h3
        · cases h3
          obtain ⟨hown, hothers⟩ := expireWorkflow_ok hout (errValue_ok hexp)
          refine ⟨?_, fun id hne => by rw [hothers id hne, hsame]⟩
          rw [hown, expiredAt_of_overdue (not_not.1 (mt not_overdue_iff.1 hdue)) hst]

theorem processWorkflows_ok (hout : ctx.inTx = false) (hnodup : (wfs.map Workflow.id).Nodup)
    (hrows : ∀ wf ∈ wfs, s.db.workflows.get? wf.id = some wf)
    (h : (p.processWorkflows ctx wfs).run false s = (.ok [], s')) :
    (∀ wf ∈ wfs, ∃ n, s.clock ≤ n ∧ n ≤ s'.clock ∧
        s'.db.stateOf wf.id = some (wf.expiredAt (p.repo.now n))) ∧
      ∀ id, id ∉ wfs.map Workflow.id → s'.db.workflows.get? id = s.db.workflows.get? id := by
  induction wfs generalizing s with
  | nil =>
    cases h
    exact ⟨forall_mem_nil _, fun _ _ => rfl⟩
  | cons wf wfs ih =>
    obtain ⟨hid, hnodup'⟩ := nodup_cons.1 hnodup
    obtain ⟨logged, s1, hround, h1⟩ := run_bind_ok h
    obtain ⟨logged', s2, hrest, h2⟩ := run_bind_ok h1
    obtain ⟨hlog, rfl⟩ := Prod.mk.inj h2
    obtain ⟨rfl, rfl⟩ := append_eq_nil_iff.1 (Except.ok.inj hlog)
    have hle1 : s.clock ≤ s1.clock := by
      have := le_clock_run false (p.processWorkflow ctx wf) s
      rwa [hround] at this
    have hle2 : s1.clock ≤ s2.clock := by
      have := le_clock_run false (p.processWorkflows ctx wfs) s1
      rwa [hrest] at this
    obtain ⟨hown, hothers⟩ := processWorkflow_ok hout (hrows wf mem_cons_self) hround
    have hrows1 : ∀ wf' ∈ wfs, s1.db.workflows.get? wf'.id = some wf' := by
      intro wf' hwf'
      rw [hothers wf'.id fun heq => hid (heq ▸ mem_map_of_mem hwf')]
      exact hrows wf' (mem_cons_of_mem _ hwf')
    obtain ⟨hlisted, hunlisted⟩ := ih hnodup' hrows1 hrest
    constructor
    · refine forall_mem_cons.2 ⟨⟨s.clock, le_refl _, hle1.trans hle2, ?_⟩, fun wf' hwf' => ?_⟩
      · rw [Db.stateOf, hunlisted wf.id hid]
        exact hown
      · obtain ⟨n, hn, hn', hst⟩ := hlisted wf' hwf'
        exact ⟨n, hle1.trans hn, hn', hst⟩
    · intro id hne
      rw [map_cons, mem_cons, not_or] at hne
      rw [hunlisted id hne.2, hothers id hne.1]

/-- The task expires what is due on the first page of the listing, and changes nothing else. -/
theorem processTask_ok (hctx : ctx.userType = some .internalUser) (hout : ctx.inTx = false)
    (h : (p.processTask ctx lt).run false s = (.ok [], s')) (hwf : wf ∈ s.db.workflows.rows) :
    (wf ∈ page s.db.workflows.rows (p.updater.repo.order s.clock _) 0 defaultLimit →
      ∃ n, s.clock ≤ n ∧ n ≤ s'.clock ∧ s'.db.stateOf wf.id = some (wf.expiredAt (p.repo.now n))) ∧
    (wf ∉ page s.db.workflows.rows (p.updater.repo.order s.clock _) 0 defaultLimit →
      s'.db.stateOf wf.id = some wf.state) := by
  obtain ⟨r, s1, hlist, h1⟩ := run_bind_ok h
  rcases r with e | ⟨wfs, count⟩
  · cases h1
  have hle := le_clock_run false (errValue (p.updater.getWorkflows ctx lt ⟨0, 0⟩ newQuery)) s
  rw [hlist] at hle
  have hrun := errValue_ok hlist
  rw [run_lift] at hrun
  obtain ⟨heval, hs1⟩ := Prod.mk.inj hrun
  have hdb : s1.db = s.db := by rw [← hs1]
  have hpage := getWorkflows_internal hctx (Prod.ext heval rfl)
  have hsub : ∀ wf' ∈ wfs, wf' ∈ s.db.workflows.rows := fun wf' h' => page_subset (hpage ▸ h')
  have hnodup : (wfs.map Workflow.id).Nodup := by
    obtain ⟨l, hperm, hl⟩ := page_subperm (l := s.db.workflows.rows)
    rw [hpage]
    exact (hperm.map _).nodup_iff.1 (s.db.workflows.nodup.sublist (hl.map _))
  obtain ⟨hlisted, hunlisted⟩ := processWorkflows_ok hout hnodup
    (fun wf' h' => by rw [hdb]; exact get?_key (hsub wf' h')) h1
  rw [← hpage]
  constructor
  · intro hmem
    obtain ⟨n, hn, hn', hst⟩ := hlisted wf hmem
    exact ⟨n, hle.trans hn, hn', hst⟩
  · intro hmem
    have hid : wf.id ∉ wfs.map Workflow.id := by
      intro hid
      obtain ⟨wf', hwf', heq⟩ := mem_map.1 hid
      exact hmem (s.db.workflows.eq_of_key (hsub wf' hwf') hwf heq ▸ hwf')
    rw [Db.stateOf, hunlisted wf.id hid, hdb, get?_key hwf, Option.map_some]

theorem processWorkflows_idle (h : ∀ wf ∈ wfs, ∀ n, ¬ wf.overdue (p.repo.now n)) :
    (p.processWorkflows ctx wfs).run false s = (.ok [], { s with clock := s.clock + wfs.length }) := by
  induction wfs generalizing s with
  | nil => rfl
  | cons wf wfs ih =>
    obtain ⟨hwf, hwfs⟩ := forall_mem_cons.1 h
    have hround : (p.processWorkflow ctx wf).run false s = (.ok [], { s with clock := s.clock + 1 }) := by
      have hfuture := not_overdue_iff.1 (hwf s.clock)
      change run false (if wf.expiryDate.all (p.repo.now s.clock < ·) then _ else _) _ = _
      rw [if_pos hfuture]
      rfl
    rw [processWorkflows, run_bind_of_ok hround, run_bind_of_ok (ih hwfs), length_cons]
    rw [Nat.add_comm wfs.length, ← Nat.add_assoc]
    rfl

theorem processTask_run (htenant : ctx.tenant ≠ "")
    (hbypass : p.updater.userManager.needsGroupFiltering ctx .read .workflow = pure false)
    (hlist : p.updater.repo.fault s.clock = none)
    (hcount : p.updater.repo.fault (s.clock + 1) = none) :
    (p.processTask ctx lt).run false s =
      (p.processWorkflows ctx (page s.db.workflows.rows (p.updater.repo.order s.clock _) 0
        defaultLimit)).run false { s with clock := s.clock + 2 } := by
  let query := ((newQuery.setLimit 0).setOffset 0).groupBy "workflows.id"
  let wfs := page s.db.workflows.rows (p.updater.repo.order s.clock _) 0 defaultLimit
  have hpage : ((p.updater.repo.listWorkflows ctx lt query).mapError
      (.wrap .errGetWorkflowDB)).eval s.db s.clock = (.ok wfs, s.clock + 1) := by
    rw [eval_mapError, listWorkflows, eval_query htenant hlist, workflowRows_all]
    rfl
  have hnumber : ((p.updater.repo.countWorkflows ctx lt query).mapError
      (.wrap .errGetWorkflowDB)).eval s.db (s.clock + 1) =
        (.ok s.db.workflows.rows.length, s.clock + 2) := by
    rw [eval_mapError, countWorkflows, eval_query htenant hcount, workflowRows_all]
    rfl
  have heval : (p.updater.getWorkflows ctx lt ⟨0, 0⟩ newQuery).eval s.db s.clock =
      (.ok (wfs, s.db.workflows.rows.length), s.clock + 2) := by
    rw [getWorkflows, hbypass]
    exact (eval_bind_of_ok hpage).trans (eval_bind_of_ok hnumber)
  have hvalue : (errValue (p.updater.getWorkflows ctx lt ⟨0, 0⟩ newQuery)).run false s =
      (.ok (.ok (wfs, s.db.workflows.rows.length)), { s with clock := s.clock + 2 }) := by
    rw [errValue, run_bind, run_attempt, run_lift, heval]
    rfl
  rw [processTask, run_bind_of_ok hvalue]

/-- After a pass in which no call fails, no workflow that was overdue at the start can still expire and
none that is not yet due has changed: exactly if each overdue one that can expire is among the first
`defaultLimit` of the listing. `age` is the order of the listing: by `created_at`, newest first, and for
one time as the database has it. -/
theorem expiry_pass_iff (p : WorkflowExpiryProcessor) (ctx : Ctx) (lt : Sql.Datum → Sql.Datum → Bool)
    (age : UUID → Int) (s s' : St Db World) (hctx : ctx.userType = some .internalUser)
    (hout : ctx.inTx = false) (hnow : ∀ m n, m ≤ n → p.repo.now m ≤ p.repo.now n)
    (hage : (shuffle s.db.workflows.rows (p.updater.repo.order s.clock _)).Pairwise
      fun wf wf' => age wf.id < age wf'.id)
    (hrun : (p.processTask ctx lt).run false s = (.ok [], s')) :
    ((∀ wf ∈ s.db.workflows.rows, wf.overdue (p.repo.now s.clock) →
        ∀ st, s'.db.stateOf wf.id = some st → st ∉ expirableStates) ∧
      ∀ wf ∈ s.db.workflows.rows, wf.notYetDue (p.repo.now s'.clock) →
        s'.db.stateOf wf.id = some wf.state) ↔
    ∀ wf ∈ s.db.workflows.rows, wf.overdue (p.repo.now s.clock) → wf.state ∈ expirableStates →
      s.db.workflows.rows.countP (fun wf' => age wf'.id < age wf.id) < defaultLimit := by
  have hpage : ∀ wf ∈ s.db.workflows.rows,
      (wf ∈ page s.db.workflows.rows (p.updater.repo.order s.clock _) 0 defaultLimit ↔
        s.db.workflows.rows.countP (fun wf' => age wf'.id < age wf.id) < defaultLimit) := by
    intro wf hwf
    have hperm := shuffle_perm s.db.workflows.rows (p.updater.repo.order s.clock _)
    rw [← hperm.countP_eq]
    exact mem_take_iff_countP (f := fun wf => age wf.id) hage (hperm.mem_iff.2 hwf) _
  constructor
  · rintro ⟨hexpired, -⟩ wf hwf hdue hst
    rw [← hpage wf hwf]
    by_contra hout'
    exact hexpired wf hwf hdue _ ((processTask_ok hctx hout hrun hwf).2 hout') hst
  · intro h
    refine ⟨fun wf hwf hdue st hst => ?_, fun wf hwf hfuture => ?_⟩
    · obtain ⟨hin, hnotin⟩ := processTask_ok hctx hout hrun hwf
      by_cases hstate : wf.state ∈ expirableStates
      · obtain ⟨n, hn, -, hafter⟩ := hin ((hpage wf hwf).2 (h wf hwf hdue hstate))
        rw [hafter, Workflow.expiredAt_of_overdue (Workflow.overdue_mono (hnow _ _ hn) hdue) hstate] at hst
        cases hst
        decide
      · by_cases hmem : wf ∈ page s.db.workflows.rows (p.updater.repo.order s.clock _) 0 defaultLimit
        · obtain ⟨n, -, -, hafter⟩ := hin hmem
          rw [hafter, Workflow.expiredAt_of_state hstate] at hst
          cases hst
          exact hstate
        · rw [hnotin hmem] at hst
          cases hst
          exact hstate
    · obtain ⟨hin, hnotin⟩ := processTask_ok hctx hout hrun hwf
      by_cases hmem : wf ∈ page s.db.workflows.rows (p.updater.repo.order s.clock _) 0 defaultLimit
      · obtain ⟨n, -, hn, hafter⟩ := hin hmem
        rw [hafter, Workflow.expiredAt_of_not_overdue
          (Workflow.not_overdue_of_notYetDue (Workflow.notYetDue_mono (hnow _ _ hn) hfuture))]
      · exact hnotin hmem

end WorkflowExpiryProcessor

namespace Sample

def expirer : WorkflowExpiryProcessor := ⟨manager (fun _ => []) fun _ => .ok "CREATED", repo⟩

def expiryWorker : Ctx := ⟨"t", some .internalUser, none, some .taskWorkflowExpiration, false⟩

def waitingUntil (id : UUID) (expiryDate : Int) : Workflow :=
  { link id with state := .waitApproval, expiryDate := some expiryDate, minimumApprovalCount := 2 }

/-- A workflow that is not yet due, and an older one that is overdue. -/
def oneOverdue : St Db World :=
  { start with db := { db with workflows := ⟨[waitingUntil 2 5, waitingUntil 1 (-1)], by decide⟩ } }

def afterPass (s : St Db World) : Except Exn (List Err) × St Db World :=
  (expirer.processTask expiryWorker fun _ _ => false).run false s

end Sample

/-- The overdue one expires, the other does not. -/
theorem expiry_pass_two :
    (∀ wf ∈ Sample.oneOverdue.db.workflows.rows, wf.overdue 0 →
        ∀ st, (Sample.afterPass Sample.oneOverdue).2.db.stateOf wf.id = some st → st ∉ expirableStates) ∧
      ∀ wf ∈ Sample.oneOverdue.db.workflows.rows, wf.notYetDue 0 →
        (Sample.afterPass Sample.oneOverdue).2.db.stateOf wf.id = some wf.state :=
  (WorkflowExpiryProcessor.expiry_pass_iff Sample.expirer Sample.expiryWorker (fun _ _ => false)
    (fun id => if id = 2 then 0 else 1) Sample.oneOverdue (Sample.afterPass Sample.oneOverdue).2 rfl rfl
    (fun _ _ _ => le_refl _) (by decide +kernel) (Prod.ext (by decide +kernel) rfl)).2
    (by decide +kernel)

namespace Sample

/-- A hundred workflows that are not yet due, and an older one that is overdue. -/
def manyWaiting : St Db World :=
  { start with db := { db with workflows :=
      ⟨(List.range 100).map (fun i => waitingUntil (BitVec.ofNat 128 (101 - i)) 5) ++
        [waitingUntil 1 (-1)], by decide +kernel⟩ } }

end Sample

/-- The older one is on the second page: no call fails, and it is not expired. -/
theorem overdue_not_expired :
    (Sample.afterPass Sample.manyWaiting).1 = .ok [] ∧
      (Sample.waitingUntil 1 (-1)).overdue 0 ∧ Sample.manyWaiting.db.stateOf 1 = some .waitApproval ∧
      (Sample.afterPass Sample.manyWaiting).2.db.stateOf 1 = some .waitApproval := by
  let wfs := page Sample.manyWaiting.db.workflows.rows
    (Sample.expirer.updater.repo.order Sample.manyWaiting.clock _) 0 defaultLimit
  have hwfs : ∀ wf ∈ wfs, ∀ n, ¬ wf.overdue (Sample.expirer.repo.now n) := by
    have h : ∀ wf ∈ wfs, ¬ wf.overdue 0 := by decide +kernel
    exact fun wf hwf _ => h wf hwf
  have hrun : Sample.afterPass Sample.manyWaiting =
      (.ok [], { Sample.manyWaiting with clock := 2 + wfs.length }) := by
    rw [Sample.afterPass, WorkflowExpiryProcessor.processTask_run (by decide) rfl rfl rfl,
      WorkflowExpiryProcessor.processWorkflows_idle hwfs]
    rfl
  have hrow : Sample.manyWaiting.db.stateOf 1 = some .waitApproval := by decide +kernel
  rw [hrun]
  exact ⟨rfl, rfl, hrow, hrow⟩

end Cmk
