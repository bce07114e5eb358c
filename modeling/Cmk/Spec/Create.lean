import Cmk.Spec.Finish

/-!
# Cmk.Spec.Create

The transactions in which a workflow begins: its row is stored and the flag of its artifact set;
then the approvers are assigned and it starts to wait for their votes.
-/

namespace Cmk

open Tx List Table Repo Prog

variable {P : Post Workflow} {d d' d₁ d₂ : Db} {id : UUID}

/-- A workflow was stored: its row is new, and the flag of its artifact is set. -/
structure Created (d d' : Db) (wf : Workflow) : Prop where
  fresh : d.workflows.get? wf.id = none
  new : d'.workflows.get? wf.id = some wf
  others : ∀ id, id ≠ wf.id → d'.workflows.get? id = d.workflows.get? id
  approvers : d'.approvers = d.approvers
  approverGroups : d'.approverGroups = d.approverGroups
  valid : Repo.enumError wf = none
  flags : ∀ ty id c, d'.flag ty id = some c →
    if ty = wf.artifactType ∧ id = wf.artifactID then c = true else d.flag ty id = some c

namespace Repo

variable {r : Repo} {ctx : Ctx} {s : State}

theorem beforeSave_same (n : Nat) (wf : Workflow) :
    SameWorkflow wf (r.beforeSave n wf) ∧ (r.beforeSave n wf).state = wf.state := by
  unfold beforeSave
  split
  · exact ⟨.refl wf, rfl⟩
  · exact ⟨⟨rfl, rfl, rfl, rfl, rfl, rfl⟩, rfl⟩

theorem wp_createWorkflow {wf : Workflow} (hm : wf.minimumApprovalCount ≠ 0)
    (herr : ∀ e, P (.error e) { s with clock := s.clock + 1 })
    (hdone : ∀ wf' table, SameWorkflow wf wf' → wf'.state = wf.state → enumError wf' = none →
      s.db.workflows.insert? wf' = some table →
      P (.ok wf') { s with db := { s.db with workflows := table }, clock := s.clock + 1 }) :
    (r.createWorkflow ctx wf).wp true P s := by
  refine wp_exec (fun e _ => herr e) fun _ => ?_
  obtain ⟨hsame, hst⟩ := beforeSave_same (r := r) s.clock wf
  cases henum : enumError wf with
  | some e => exact herr _
  | none =>
    simp only [if_neg (hsame.minimumApprovalCount ▸ hm)]
    cases hi : s.db.workflows.insert? (r.beforeSave s.clock wf) with
    | none => exact herr _
    | some table => exact hdone _ table hsame hst (hsame.enumError.trans henum) hi

end Repo

namespace WorkflowManager

variable {w : WorkflowManager} {ctx : Ctx} {wf : Workflow} {s : State}

theorem wp_storeWorkflowTx (hm : wf.minimumApprovalCount ≠ 0)
    (herr : ∀ e s', SameLog s.ext s'.ext → P (.error e) s')
    (hok : ∀ wf' s', SameLog s.ext s'.ext → SameWorkflow wf wf' → wf'.state = wf.state →
      Created s.db s'.db wf' → P (.ok wf') s') :
    wp true (do
      let workflow ← (w.repo.createWorkflow ctx wf).mapError (.wrap .errCreateWorkflowDB)
      (w.handleNewWorkflow ctx workflow).mapError (.wrap .errCreateWorkflowDB)
      w.createAutoAssignApproversAsyncTask ctx workflow
      return workflow) P s := by
  refine wp_bind (wp_mapError (wp_createWorkflow hm (fun e => herr _ _ rfl)
    fun wf' table hsame hst henum hi => ?_))
  refine wp_bind (wp_mapError (wp_patchUnderWorkflow (fun e _ => herr _ _ rfl)
    fun s1 hf hx => ?_))
  have htask : (w.createAutoAssignApproversAsyncTask ctx wf').wp true (fun _ => Quiet s1) s1 :=
    (Quiet.refl s1).calm (w.createAutoAssignApproversAsyncTask_calm ctx wf')
  refine wp_bind (wp_mono htask fun r s' hq => ?_)
  have hlog : SameLog s.ext s'.ext := hq.2.trans (congrArg World.executed hx)
  cases r with
  | error e => exact herr e s' hlog
  | ok _ =>
    have hw : s'.db.workflows = table := hq.1.workflows.trans hf.workflows
    refine hok wf' s' hlog hsame hst ⟨?_, ?_, ?_, ?_, ?_, henum, fun ty id c hc => ?_⟩
    · exact (insert?_eq_some.1 hi).2
    · rw [hw]; exact get?_insert?_self hi
    · intro id hid; rw [hw]; exact get?_insert?_ne hi hid
    · exact hq.1.approvers.trans hf.approvers
    · exact hq.1.approverGroups.trans hf.approverGroups
    · exact hf.flag ty id c (hq.1.flag ty id c hc)

/-- Approver rows were added to a workflow, without votes and for the given users. -/
structure Enrolled (d d' : Db) (id : UUID) (users : List String) : Prop where
  rows : ∀ a ∈ Repo.approversOf d' id,
    a ∈ Repo.approversOf d id ∨ (a.approved = none ∧ a.userID ∈ users)
  others : ∀ id', id' ≠ id → Repo.approversOf d' id' = Repo.approversOf d id'

theorem enrolled_upsert (d : Db) (id : UUID) (u : String) :
    Enrolled d { d with approvers := d.approvers.upsert ⟨id, u, none⟩ } id [u] where
  rows a ha := by
    obtain ⟨hmem, hid⟩ := mem_filter.1 ha
    rcases mem_upsert.1 hmem with rfl | ⟨hold, -⟩
    · exact .inr ⟨rfl, mem_singleton.2 rfl⟩
    · exact .inl (mem_filter.2 ⟨hold, hid⟩)
  others id' hne := by
    refine filter_upsert (fun a b hk => ?_) (by simpa using hne.symm)
    have hid : a.workflowID = b.workflowID := congrArg Prod.fst hk
    rw [hid]

theorem Enrolled.cons {u : String} {users : List String} (h : Enrolled d d₁ id [u])
    (h' : Enrolled d₁ d₂ id users) : Enrolled d d₂ id (u :: users) where
  rows a ha := by
    rcases h'.rows a ha with ha | ⟨hv, hu⟩
    · rcases h.rows a ha with ha | ⟨hv, hu⟩
      · exact .inl ha
      · exact .inr ⟨hv, by rw [mem_singleton.1 hu]; exact mem_cons_self⟩
    · exact .inr ⟨hv, mem_cons_of_mem _ hu⟩
  others id' hne := (h'.others id' hne).trans (h.others id' hne)

/-- The approver rows after an assignment: one for each user, and the others that were there. -/
def Seated (d d' : Db) (id : UUID) (users : List String) : Prop :=
  ∀ a, a ∈ d'.approvers.rows ↔
    (∃ u ∈ users, a = ⟨id, u, none⟩) ∨ a ∈ d.approvers.rows ∧ ∀ u ∈ users, a.key ≠ (id, u)

theorem wp_setApprovers {P : Post Unit} (users : List String)
    (herr : ∀ e s', s'.ext = s.ext → P (.error e) s')
    (hok : ∀ table n, s.clock ≤ n → Enrolled s.db { s.db with approvers := table } id users →
      Seated s.db { s.db with approvers := table } id users →
      P (.ok ()) { s with db := { s.db with approvers := table }, clock := n }) :
    (w.setApprovers ctx id users).wp true P s := by
  induction users generalizing s with
  | nil =>
    exact hok s.db.approvers s.clock le_rfl ⟨fun a ha => .inl ha, fun _ _ => rfl⟩ fun a => by simp
  | cons u users ih =>
    refine wp_bind (wp_mapError (wp_exec (fun e _ => herr _ _ rfl) fun _ => ?_))
    refine ih herr fun table n hn h hrows => hok table n (Nat.le_of_succ_le hn)
      ((enrolled_upsert s.db id u).cons h) fun a => ?_
    rw [hrows a, mem_upsert, exists_mem_cons_iff, forall_mem_cons]
    constructor
    · rintro (ha | ⟨rfl | ⟨ha, hk⟩, hne⟩)
      · exact .inl (.inr ha)
      · exact .inl (.inl rfl)
      · exact .inr ⟨ha, hk, hne⟩
    · rintro ((rfl | ha) | ⟨ha, hk, hne⟩)
      · by_cases hu : u ∈ users
        · exact .inl ⟨u, hu, rfl⟩
        · refine .inr ⟨.inl rfl, fun u' hu' he => hu ?_⟩
          obtain rfl : u = u' := congrArg Prod.snd he
          exact hu'
      · exact .inl ha
      · exact .inr ⟨.inr ⟨ha, hk⟩, hne⟩

/-- `uuid.New` gives IDs that no row has and that differ, for the statements in a window. -/
def FreshGroupIDs (w : WorkflowManager) (d : Db) (first last : Nat) : Prop :=
  ∀ n, first ≤ n → n < last → (∀ g ∈ d.approverGroups.rows, g.id ≠ w.newUUID n) ∧
    ∀ m, n < m → m < last → w.newUUID n ≠ w.newUUID m

/-- The group rows after an assignment: the old ones, and rows that name the groups. -/
structure GroupsNamed (w : WorkflowManager) (d d' : Db) (first last : Nat) (id : UUID)
    (groups : List Group) : Prop where
  old : ∀ g ∈ d'.approverGroups.rows,
    g ∈ d.approverGroups.rows ∨ g.workflowID = id ∧ g.groupID ∈ groups.map (·.id)
  new : FreshGroupIDs w d first last → (∀ g ∈ d.approverGroups.rows, g ∈ d'.approverGroups.rows) ∧
    ∀ group ∈ groups, ∃ g ∈ d'.approverGroups.rows, g.workflowID = id ∧ g.groupID = group.id

theorem GroupsNamed.widen {first first' last last' : Nat} {groups : List Group}
    (h : GroupsNamed w d d' first last id groups) (hfirst : first' ≤ first) (hlast : last ≤ last') :
    GroupsNamed w d d' first' last' id groups := by
  refine ⟨h.old, fun hfresh => h.new fun n hn hn' => ?_⟩
  obtain ⟨hrows, hlater⟩ := hfresh n (hfirst.trans hn) (hn'.trans_le hlast)
  exact ⟨hrows, fun m hm hm' => hlater m hm (hm'.trans_le hlast)⟩

theorem wp_setApproverGroups {P : Post Unit} (groups : List Group)
    (herr : ∀ e s', s'.ext = s.ext → P (.error e) s')
    (hok : ∀ table n, s.clock ≤ n →
      GroupsNamed w s.db { s.db with approverGroups := table } s.clock n id groups →
      P (.ok ()) { s with db := { s.db with approverGroups := table }, clock := n }) :
    (w.setApproverGroups ctx id groups).wp true P s := by
  induction groups generalizing s with
  | nil =>
    exact hok s.db.approverGroups s.clock le_rfl
      ⟨fun g hg => .inl hg, fun _ => ⟨fun g hg => hg, forall_mem_nil _⟩⟩
  | cons group groups ih =>
    refine wp_query_bind (fun e n _ => herr _ _ rfl) fun newID n hid => ?_
    cases hid
    refine wp_bind (wp_exec (fun e _ => herr _ _ rfl) fun _ => ?_)
    by_cases hdup : s.db.approverGroups.rows.any fun g' =>
        g'.id ≠ w.newUUID s.clock ∧ g'.workflowID = id ∧ g'.groupID = group.id
    · rw [if_pos hdup]
      exact herr _ _ rfl
    rw [if_neg hdup]
    refine ih herr fun table n hn h => ?_
    have hlt : s.clock + 1 < n := hn
    refine hok table n (by omega) ⟨fun g hg => ?_, fun hfresh => ?_⟩
    · rcases h.old g hg with hg | ⟨hwf, hgroup⟩
      · rcases mem_upsert.1 hg with rfl | ⟨hg, -⟩
        · exact .inr ⟨rfl, mem_cons_self⟩
        · exact .inl hg
      · exact .inr ⟨hwf, mem_cons_of_mem _ hgroup⟩
    · obtain ⟨hrows, hlater⟩ := hfresh s.clock le_rfl (by omega)
      have hstep := h.new fun k hk hk' => ?_
      · refine ⟨fun g hg => hstep.1 g (mem_upsert.2 (.inr ⟨hg, hrows g hg⟩)), ?_⟩
        rw [forall_mem_cons]
        exact ⟨⟨_, hstep.1 _ (mem_upsert.2 (.inl rfl)), rfl, rfl⟩, hstep.2⟩
      · have hlt : s.clock + 1 < k := hk
        obtain ⟨hrows', hlater'⟩ := hfresh k (by omega) hk'
        refine ⟨fun g hg => ?_, hlater'⟩
        rcases mem_upsert.1 hg with rfl | ⟨hg, -⟩
        · exact hlater k (by omega) hk'
        · exact hrows' g hg

theorem precheck_create {l : Lifecycle} (d : Db) (n m : Nat) :
    (l.transitionPrecheck ctx .create).eval d n ≠ (.ok true, m) := by
  intro h
  obtain ⟨count, n', -, h⟩ := eval_bind_ok h
  simp only [Query.throw_bind] at h
  split at h <;> cases h

theorem precheck_create_enough {l : Lifecycle} {n m : Nat}
    (h : (l.transitionPrecheck ctx .create).eval d n = (.ok false, m)) :
    l.minimumApproverCount ≤ (approversOf d l.workflow.id).length := by
  obtain ⟨count, n', hcount, h⟩ := eval_bind_ok h
  obtain ⟨_, n0, -, hcount⟩ := eval_bind_ok hcount
  obtain ⟨rfl, -⟩ := eval_count_ok (eval_mapError_ok hcount)
  simp only [Query.throw_bind] at h
  split at h
  · cases h
  · omega

structure Assigned (d d' : Db) (wf wf' : Workflow) (users : List String) : Prop where
  initial : wf.state = .initial
  row : Restated d d' wf wf'
  waiting : wf'.state = .waitApproval
  enrolled : Enrolled d d' wf.id users
  flags : ClearedIf false wf d d'

structure SeatsTaken (w : WorkflowManager) (d d' : Db) (first last : Nat) (wf : Workflow)
    (users : List String) (groups : List Group) : Prop where
  seated : Seated d d' wf.id users
  named : GroupsNamed w d d' first last wf.id groups
  enough : wf.minimumApprovalCount ≤ (Repo.approversOf d' wf.id).length

theorem wp_addApproversTx {u : String} {users : List String} {groups : List Group}
    (hrow : s.db.workflows.get? wf.id = some wf) (hm : wf.minimumApprovalCount ≠ 0)
    (herr : ∀ e s', s'.ext = s.ext → P (.error e) s')
    (hok : ∀ s' wf', s'.ext = s.ext → Assigned s.db s'.db wf wf' users →
      SeatsTaken w s.db s'.db s.clock s'.clock wf users groups → P (.ok wf') s') :
    wp true (do
      let minimumApprovals ← w.minimumApprovalsOf ctx wf
      let lifecycle := w.workflowLifecycle wf u minimumApprovals none
      w.setApprovers ctx wf.id users
      w.setApproverGroups ctx wf.id groups
      (lifecycle.validateAndApplyTransition ctx .create).mapError (.wrap .errApplyTransition)) P s := by
  rw [minimumApprovalsOf_eq hm, pure_bind]
  refine wp_bind (wp_setApprovers users herr fun table n hn hen hseated => ?_)
  refine wp_bind (wp_setApproverGroups groups herr fun groupTable n' hn' hnamed => ?_)
  refine wp_clock (wp_mapError (wp_query_bind (fun e n _ _ => herr _ _ rfl)
    fun _ n _ => ?_))
  refine wp_bind (Lifecycle.wp_applyTransition_plain (s := { s with
      db := { s.db with approvers := table, approverGroups := groupTable }, clock := n })
    precheck_create (fun st hst => by rw [(create_state hst).2]; decide) rfl hrow
    (fun e wf n _ => herr _ _ rfl) fun wf' wfTable n hpre hnext hre hlast => ?_)
  obtain ⟨hinit, hwait⟩ := create_state hnext
  obtain ⟨m, hpre⟩ := hpre
  have henough : wf.minimumApprovalCount ≤ (table.rows.filter (·.workflowID = wf.id)).length :=
    (if_neg hm).symm.trans_le (precheck_create_enough hpre)
  have hnamed' := hnamed.widen hn hlast
  exact hok _ wf' rfl ⟨hinit, hre.congr rfl rfl, hwait, ⟨hen.rows, hen.others⟩,
    clearedIf_of_same rfl rfl⟩ ⟨hseated, ⟨hnamed'.old, hnamed'.new⟩, henough⟩

end WorkflowManager

end Cmk
