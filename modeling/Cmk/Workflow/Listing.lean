import Cmk.Sample
import Cmk.Sql.Select

/-!
# Cmk.Workflow.Listing

`getWorkflows`: the workflows a user may see. A filtered user sees a workflow they started or are an
approver of, unless it has approver groups and the user is in none of them.

- `Repo.listWorkflows`, `WorkflowManager.getWorkflows`: the listing, as one statement with three
  left joins.
- `VisibleTo`: who may see a workflow, in terms of the tables.
- `visible_workflows_listed`: the listing shows what is visible, once.
-/

namespace Cmk

open Tx List Sql WorkflowManager

variable {rows : List (Workflow × Sql.Row)} {p : Workflow × Sql.Row} {user : ClientData}

def utf8 (s : String) : Bytes := s.toByteArray.data.toList

theorem utf8_inj {s t : String} : utf8 s = utf8 t ↔ s = t := by
  rw [utf8, utf8, Array.toList_inj, ← ByteArray.ext_iff, String.toByteArray_inj]

def Workflow.columns (w : Workflow) : String → Sql.Cell
  | "id" => some (.uuid w.id)
  | "initiator_id" => some (.text (utf8 w.initiatorID))
  | _ => none

def WorkflowApprover.columns (a : WorkflowApprover) : String → Sql.Cell
  | "workflow_id" => some (.uuid a.workflowID)
  | "user_id" => some (.text (utf8 a.userID))
  | _ => none

def WorkflowApproverGroup.columns (g : WorkflowApproverGroup) : String → Sql.Cell
  | "workflow_id" => some (.uuid g.workflowID)
  | "group_id" => some (.uuid g.groupID)
  | _ => none

def Group.columns (g : Group) : String → Sql.Cell
  | "id" => some (.uuid g.id)
  | "iam_identifier" => some (.text (utf8 g.iamIdentifier))
  | _ => none

def sqlTables (d : Db) : Sql.Tables
  | "workflow_approvers" => d.approvers.rows.map WorkflowApprover.columns
  | "workflow_approver_groups" => d.approverGroups.rows.map WorkflowApproverGroup.columns
  | "groups" => d.groups.rows.map Group.columns
  | _ => []

namespace Repo

variable (r : Repo) (ctx : Ctx) (lt : Sql.Datum → Sql.Datum → Bool)

def workflowRows (query : Sql.Query) (d : Db) : Except Exn (List Workflow) :=
  query.rows lt "workflows" (sqlTables d) (d.workflows.rows.map fun w => (w, w.columns))

def listWorkflows (query : Sql.Query) : Q (List Workflow) :=
  r.query ctx id fun n d => do
    let workflows ← workflowRows lt query d
    return page workflows (r.order n _) query.offset
      (if query.limit = 0 then defaultLimit else query.limit)

def countWorkflows (query : Sql.Query) : Q Nat :=
  r.query ctx (.wrap .errGetResource) fun _ d => do
    let workflows ← workflowRows lt query d
    return workflows.length

end Repo

structure Pagination where
  skip : Nat
  top : Nat

def equals (field : Sql.QueryField) (value : Sql.KeyValue) : Sql.Condition :=
  ⟨field, ⟨⟨value, .equal⟩, none⟩⟩

def approverJoin : Sql.JoinCondition := ⟨"workflows", "id", "workflow_approvers", "workflow_id"⟩

def approverGroupJoin : Sql.JoinCondition :=
  ⟨"workflows", "id", "workflow_approver_groups", "workflow_id"⟩

def groupJoin : Sql.JoinCondition := ⟨"workflow_approver_groups", "group_id", "groups", "id"⟩

def initiatorOrApprover (iamIdentifier : String) : Sql.CompositeKey :=
  ⟨false, [equals "initiator_id" (.string (utf8 iamIdentifier)),
    equals "workflow_approvers.user_id" (.string (utf8 iamIdentifier))]⟩

/-- The user is in an approver group, or there is none. -/
def groupFilter (userIAMGroups : List String) : Sql.CompositeKey :=
  ⟨false, [equals "groups.iam_identifier" (.slice (userIAMGroups.map fun g => some (.text (utf8 g)))),
    equals "workflow_approver_groups.workflow_id" (.string Sql.null)]⟩

namespace WorkflowManager

variable (w : WorkflowManager) (ctx : Ctx) (lt : Sql.Datum → Sql.Datum → Bool)

def filterByInitiatorOrApprover (query : Sql.Query) : Except Exn Sql.Query := do
  let iamIdentifier := (← ctx.extractBusinessUserData).identifier
  return (query.join approverJoin).addWhere
    (Sql.newCompositeKeyGroup (initiatorOrApprover iamIdentifier))

/-- What `getWorkflows` adds to the query of a filtered user. -/
def filterByAccess (query : Sql.Query) : Except Exn Sql.Query := do
  let userIAMGroups ← ctx.extractBusinessUserDataGroups.mapError (.wrap .errGetWorkflowDB)
  let query ← filterByInitiatorOrApprover ctx query
  return ((query.join approverGroupJoin).join groupJoin).addWhere
    (Sql.newCompositeKeyGroup (groupFilter userIAMGroups))

def getWorkflows (pagination : Pagination) (query : Sql.Query) : Q (List Workflow × Nat) := do
  let isGroupFiltered ← (w.userManager.needsGroupFiltering ctx .read .workflow).mapError
    (.wrap .errGetWorkflowDB)
  let query ← (if isGroupFiltered then filterByAccess ctx query else .ok query :
    Except Exn Sql.Query)
  let query := ((query.setLimit pagination.top).setOffset pagination.skip).groupBy "workflows.id"
  let workflows ← (w.repo.listWorkflows ctx lt query).mapError (.wrap .errGetWorkflowDB)
  let count ← (w.repo.countWorkflows ctx lt query).mapError (.wrap .errGetWorkflowDB)
  return (workflows, count)

end WorkflowManager

/-- The user started the workflow or is an approver of it; and if it has approver groups, one of them
is a group of the user. -/
def VisibleTo (d : Db) (user : ClientData) (w : Workflow) : Prop :=
  (w.initiatorID = user.identifier ∨
      ∃ a ∈ d.approvers.rows, a.workflowID = w.id ∧ a.userID = user.identifier) ∧
    ((∀ g ∈ d.approverGroups.rows, g.workflowID ≠ w.id) ∨
      ∃ g ∈ d.approverGroups.rows, g.workflowID = w.id ∧
        ∃ k ∈ d.groups.rows, g.groupID = k.id ∧ k.iamIdentifier ∈ user.groups)

section Joined

variable {d : Db} {w : Workflow} {a : Option WorkflowApprover} {g : Option WorkflowApproverGroup}
  {k : Option Group}

structure Joined (d : Db) (w : Workflow) (a : Option WorkflowApprover)
    (g : Option WorkflowApproverGroup) (k : Option Group) : Prop where
  approver : Sql.Partner d.approvers.rows (fun a => a.workflowID = w.id) a
  approverGroup : Sql.Partner d.approverGroups.rows (fun g => g.workflowID = w.id) g
  group : Sql.Partner d.groups.rows (fun k => ∃ g' ∈ g, g'.groupID = k.id) k

def joinedRow (w : Workflow) (a : Option WorkflowApprover) (g : Option WorkflowApproverGroup)
    (k : Option Group) : Sql.Row :=
  ((((Sql.Row.extend (fun _ => none) "workflows" w.columns).extend "workflow_approvers"
    ((a.map WorkflowApprover.columns).getD fun _ => none)).extend "workflow_approver_groups"
    ((g.map WorkflowApproverGroup.columns).getD fun _ => none)).extend "groups"
    ((k.map Group.columns).getD fun _ => none))

theorem joinedRow_id : joinedRow w a g k ⟨"workflows", "id"⟩ = some (.uuid w.id) := rfl

theorem joinedRow_initiator :
    joinedRow w a g k ⟨"workflows", "initiator_id"⟩ = some (.text (utf8 w.initiatorID)) := rfl

theorem joinedRow_user : joinedRow w a g k ⟨"workflow_approvers", "user_id"⟩ =
    a.map fun a => .text (utf8 a.userID) := by
  cases a <;> rfl

theorem joinedRow_workflow : joinedRow w a g k ⟨"workflow_approver_groups", "workflow_id"⟩ =
    g.map fun g => .uuid g.workflowID := by
  cases g <;> rfl

theorem joinedRow_iam : joinedRow w a g k ⟨"groups", "iam_identifier"⟩ =
    k.map fun k => .text (utf8 k.iamIdentifier) := by
  cases k <;> rfl

theorem mem_approverJoin :
    p ∈ approverJoin.apply (sqlTables d) rows ↔ ∃ q ∈ rows, ∃ a,
      Sql.Partner d.approvers.rows
        (fun a => (eq (q.2 ⟨"workflows", "id"⟩) (some (.uuid a.workflowID))).Holds) a ∧
      p = (q.1, q.2.extend "workflow_approvers"
        ((a.map WorkflowApprover.columns).getD fun _ => none)) :=
  Sql.JoinCondition.mem_apply approverJoin d.approvers.rows WorkflowApprover.columns rfl

theorem mem_approverGroupJoin :
    p ∈ approverGroupJoin.apply (sqlTables d) rows ↔ ∃ q ∈ rows, ∃ g,
      Sql.Partner d.approverGroups.rows
        (fun g => (eq (q.2 ⟨"workflows", "id"⟩) (some (.uuid g.workflowID))).Holds) g ∧
      p = (q.1, q.2.extend "workflow_approver_groups"
        ((g.map WorkflowApproverGroup.columns).getD fun _ => none)) :=
  Sql.JoinCondition.mem_apply approverGroupJoin d.approverGroups.rows WorkflowApproverGroup.columns rfl

theorem mem_groupJoin :
    p ∈ groupJoin.apply (sqlTables d) rows ↔ ∃ q ∈ rows, ∃ k,
      Sql.Partner d.groups.rows (fun k => (eq
        (q.2 ⟨"workflow_approver_groups", "group_id"⟩) (some (.uuid k.id))).Holds) k ∧
      p = (q.1, q.2.extend "groups" ((k.map Group.columns).getD fun _ => none)) :=
  Sql.JoinCondition.mem_apply groupJoin d.groups.rows Group.columns rfl

theorem mem_joined :
    p ∈ groupJoin.apply (sqlTables d) (approverGroupJoin.apply (sqlTables d)
        (approverJoin.apply (sqlTables d)
          (fromRows "workflows" (d.workflows.rows.map fun w => (w, w.columns))))) ↔
      ∃ w ∈ d.workflows.rows, ∃ a g k, Joined d w a g k ∧ p = (w, joinedRow w a g k) := by
  have hid : ∀ w x : UUID, (eq (some (Sql.Datum.uuid w)) (some (.uuid x))).Holds ↔ x = w := by
    intro w x
    simp [eq_comm]
  have hgroup : ∀ (g : Option WorkflowApproverGroup) (k : Group),
      (eq (g.map fun g => Sql.Datum.uuid g.groupID) (some (.uuid k.id))).Holds ↔
        ∃ g' ∈ g, g'.groupID = k.id := by
    intro g k
    cases g <;> simp
  rw [mem_groupJoin]
  constructor
  · rintro ⟨_, hq1, k, hk, rfl⟩
    obtain ⟨_, hq2, g, hg, rfl⟩ := mem_approverGroupJoin.1 hq1
    obtain ⟨_, hq3, a, ha, rfl⟩ := mem_approverJoin.1 hq2
    simp only [fromRows, map_map, mem_map] at hq3
    obtain ⟨w, hw, rfl⟩ := hq3
    refine ⟨w, hw, a, g, k, ⟨?_, ?_, ?_⟩, rfl⟩
    · exact (partner_congr fun a : WorkflowApprover => hid w.id a.workflowID).1 ha
    · exact (partner_congr fun g : WorkflowApproverGroup => hid w.id g.workflowID).1 hg
    · refine (partner_congr fun k => ?_).1 hk
      rw [← hgroup]
      cases g <;> rfl
  · rintro ⟨w, hw, a, g, k, hjoined, rfl⟩
    refine ⟨_, mem_approverGroupJoin.2 ⟨_, mem_approverJoin.2 ⟨_, mem_map_of_mem
      (mem_map_of_mem hw), a, ?_, rfl⟩, g, ?_, rfl⟩, k, ?_, rfl⟩
    · exact (partner_congr fun a : WorkflowApprover => hid w.id a.workflowID).2 hjoined.approver
    · exact (partner_congr fun g : WorkflowApproverGroup => hid w.id g.workflowID).2
        hjoined.approverGroup
    · refine (partner_congr fun k => ?_).2 hjoined.group
      rw [← hgroup]
      cases g <;> rfl

theorem visibleTo_iff :
    VisibleTo d user w ↔ ∃ a g k, Joined d w a g k ∧
      (w.initiatorID = user.identifier ∨ ∃ a' ∈ a, a'.userID = user.identifier) ∧
      (g = none ∨ ∃ k' ∈ k, k'.iamIdentifier ∈ user.groups) := by
  constructor
  · rintro ⟨huser, hgroup⟩
    have happrover : ∃ a, Sql.Partner d.approvers.rows (fun a => a.workflowID = w.id) a ∧
        (w.initiatorID = user.identifier ∨ ∃ a' ∈ a, a'.userID = user.identifier) := by
      rcases huser with hinit | ⟨a, ha, hw, hu⟩
      · obtain ⟨a, ha⟩ := exists_partner d.approvers.rows fun a => a.workflowID = w.id
        exact ⟨a, ha, .inl hinit⟩
      · exact ⟨some a, ⟨ha, hw⟩, .inr ⟨a, rfl, hu⟩⟩
    obtain ⟨a, ha, hu⟩ := happrover
    rcases hgroup with hnone | ⟨g, hg, hw, k, hk, hid, hiam⟩
    · obtain ⟨k, hk⟩ := exists_partner d.groups.rows
        fun k => ∃ g' ∈ (none : Option WorkflowApproverGroup), g'.groupID = k.id
      exact ⟨a, none, k, ⟨ha, hnone, hk⟩, hu, .inl rfl⟩
    · exact ⟨a, some g, some k, ⟨ha, ⟨hg, hw⟩, hk, g, rfl, hid⟩, hu, .inr ⟨k, rfl, hiam⟩⟩
  · rintro ⟨a, g, k, hjoined, huser, hgroup⟩
    constructor
    · rcases huser with hinit | ⟨a', rfl, hu⟩
      · exact .inl hinit
      · exact .inr ⟨a', hjoined.approver.1, hjoined.approver.2, hu⟩
    · rcases hgroup with rfl | ⟨k', rfl, hiam⟩
      · exact .inl hjoined.approverGroup
      · obtain ⟨hk, g', rfl, hid⟩ := hjoined.group
        exact .inr ⟨g', hjoined.approverGroup.1, hjoined.approverGroup.2, k', hk, hid, hiam⟩

end Joined

section Filters

variable (lt : Sql.Datum → Sql.Datum → Bool) (w : Workflow) (a : Option WorkflowApprover)
  (g : Option WorkflowApproverGroup) (k : Option Group)

theorem initiatorOrApprover_sound (u : String) : (initiatorOrApprover u).Sound := by
  intro cond hcond
  simp only [initiatorOrApprover, mem_cons, not_mem_nil, or_false] at hcond
  rcases hcond with rfl | rfl <;> rfl

theorem groupFilter_sound (groups : List String) : (groupFilter groups).Sound := by
  intro cond hcond
  simp only [groupFilter, mem_cons, not_mem_nil, or_false] at hcond
  rcases hcond with rfl | rfl <;> rfl

theorem column_initiator :
    Sql.Column.of "workflows" "initiator_id" = ⟨"workflows", "initiator_id"⟩ := by decide

theorem column_user : Sql.Column.of "workflows" "workflow_approvers.user_id" =
    ⟨"workflow_approvers", "user_id"⟩ := by decide

theorem column_iam :
    Sql.Column.of "workflows" "groups.iam_identifier" = ⟨"groups", "iam_identifier"⟩ := by decide

theorem column_workflow : Sql.Column.of "workflows" "workflow_approver_groups.workflow_id" =
    ⟨"workflow_approver_groups", "workflow_id"⟩ := by decide

theorem column_id : Sql.Column.of "workflows" "workflows.id" = ⟨"workflows", "id"⟩ := by decide

theorem selects_initiatorOrApprover {u : String} (hu : utf8 u ∉ markers) :
    Sql.Selects lt "workflows" (initiatorOrApprover u) (joinedRow w a g k) ↔
      w.initiatorID = u ∨ ∃ a' ∈ a, a'.userID = u := by
  rw [initiatorOrApprover, selects_loose_iff (initiatorOrApprover_sound u)
    (forall_mem_singleton.2 (Sql.Key.usesWhere_text hu))]
  simp only [exists_mem_cons_iff, equals, Sql.Condition.Holds, column_initiator, column_user,
    joinedRow_initiator, joinedRow_user, Sql.Key.holds_text_iff lt hu]
  cases a <;> simp [utf8_inj]

theorem selects_groupFilter {groups : List String} :
    Sql.Selects lt "workflows" (groupFilter groups) (joinedRow w a g k) ↔
      g = none ∨ ∃ k' ∈ k, k'.iamIdentifier ∈ groups := by
  rw [groupFilter, selects_loose_iff (groupFilter_sound groups)
    (forall_mem_singleton.2 rfl)]
  simp only [exists_mem_cons_iff, equals, Sql.Condition.Holds, column_iam, column_workflow,
    joinedRow_iam, joinedRow_workflow, Sql.Key.Holds]
  cases g <;> cases k <;> simp [utf8_inj]

end Filters

section Listed

def accessQuery (user : ClientData) (pagination : Pagination) : Sql.Query :=
  { limit := pagination.top
    offset := pagination.skip
    compositeKeyGroup := [Sql.newCompositeKeyGroup (initiatorOrApprover user.identifier),
      Sql.newCompositeKeyGroup (groupFilter user.groups)]
    joins := [approverJoin, approverGroupJoin, groupJoin]
    group := ["workflows.id"] }

theorem filterByAccess_newQuery {ctx : Ctx} (h : ctx.businessUserData = some user) :
    filterByAccess ctx newQuery =
      .ok { accessQuery user ⟨0, 0⟩ with group := [] } := by
  have hdata : ctx.extractBusinessUserData = .ok user := by rw [Ctx.extractBusinessUserData, h]
  rw [filterByAccess, filterByInitiatorOrApprover,
    Ctx.extractBusinessUserDataGroups, hdata]
  rfl

theorem workflowRows_visible (lt : Sql.Datum → Sql.Datum → Bool) (d : Db) (pagination : Pagination)
    (hu : utf8 user.identifier ∉ markers) :
    ∃ ws, Repo.workflowRows lt (accessQuery user pagination) d = .ok ws ∧ ws.Nodup ∧
      ∀ w, w ∈ ws ↔ w ∈ d.workflows.rows ∧ VisibleTo d user w := by
  have hsound : ∀ ck ∈ (accessQuery user pagination).compositeKeyGroup,
      ck.isStrict = true ∧ ck.compositeKey.Sound := by
    intro ck hck
    simp only [accessQuery, mem_cons, not_mem_nil, or_false] at hck
    rcases hck with rfl | rfl
    · exact ⟨rfl, initiatorOrApprover_sound _⟩
    · exact ⟨rfl, groupFilter_sound _⟩
  obtain ⟨tx, htx, hrow⟩ := applyQuery_strict lt "workflows" hsound
  have hselected : ∀ w a g k, (value (joinedRow w a g k) tx).Holds ↔
      (w.initiatorID = user.identifier ∨ ∃ a' ∈ a, a'.userID = user.identifier) ∧
        (g = none ∨ ∃ k' ∈ k, k'.iamIdentifier ∈ user.groups) := by
    intro w a g k
    rw [hrow, ← selects_initiatorOrApprover lt w a g k hu, ← selects_groupFilter lt w a g k]
    simp [accessQuery, newCompositeKeyGroup]
  let selected := (groupJoin.apply (sqlTables d) (approverGroupJoin.apply (sqlTables d)
    (approverJoin.apply (sqlTables d)
      (fromRows "workflows" (d.workflows.rows.map fun w => (w, w.columns)))))).filter
        fun p => (value p.2 tx).Holds
  have hjoined : ∀ p ∈ selected, ∃ w ∈ d.workflows.rows, ∃ a g k,
      Joined d w a g k ∧ p = (w, joinedRow w a g k) :=
    fun p hp => mem_joined.1 (mem_of_mem_filter hp)
  have hkey : ∀ p ∈ selected,
      (accessQuery user pagination).group.map (fun f => p.2 (.of "workflows" f)) =
        [some (.uuid p.1.id)] := by
    intro p hp
    obtain ⟨w, -, a, g, k, -, rfl⟩ := hjoined p hp
    simp only [accessQuery, map_cons, map_nil, column_id, joinedRow_id]
  have hid : ∀ p ∈ selected, ∀ q ∈ selected,
      [some (Sql.Datum.uuid p.1.id)] = [some (.uuid q.1.id)] → p.1 = q.1 := by
    intro p hp q hq heq
    obtain ⟨w, hw, a, g, k, -, rfl⟩ := hjoined p hp
    obtain ⟨w', hw', a', g', k', -, rfl⟩ := hjoined q hq
    exact d.workflows.eq_of_key hw hw' (by simpa using heq)
  obtain ⟨hnodup, hmem⟩ := groupBy_map Prod.fst
    (fun w : Workflow => [some (Sql.Datum.uuid w.id)]) hkey hid
  refine ⟨_, ?_, hnodup, fun w => ?_⟩
  · rw [Repo.workflowRows, Sql.Query.rows, htx]
    rfl
  · rw [hmem, visibleTo_iff]
    constructor
    · rintro ⟨p, hp, rfl⟩
      obtain ⟨w, hw, a, g, k, hpartners, rfl⟩ := hjoined p hp
      exact ⟨hw, a, g, k, hpartners,
        (hselected w a g k).1 (of_decide_eq_true (mem_filter.1 hp).2)⟩
    · rintro ⟨hw, a, g, k, hpartners, hholds⟩
      refine ⟨(w, joinedRow w a g k), mem_filter.2 ⟨?_, ?_⟩, rfl⟩
      · exact mem_joined.2 ⟨w, hw, a, g, k, hpartners, rfl⟩
      · exact decide_eq_true ((hselected w a g k).2 hholds)

theorem tenant_of_needsGroupFiltering {u : User} {ctx : Ctx} {action : APIAction}
    {resource : APIResourceType} {d : Db} {n m : Nat}
    (h : (u.needsGroupFiltering ctx action resource).eval d n = (.ok true, m)) : ctx.tenant ≠ "" := by
  simp only [User.needsGroupFiltering] at h
  obtain ⟨isBypass, n1, -, h⟩ := eval_bind_ok h
  cases isBypass with
  | true => cases h
  | false =>
    obtain ⟨groups, n2, -, h⟩ := eval_bind_ok h
    obtain ⟨role, n3, hrole, -⟩ := eval_bind_ok h
    simp only [User.getRoleFromIAM] at hrole
    obtain ⟨authCtx, n4, hauth, -⟩ := eval_bind_ok hrole
    intro htenant
    rw [Query.eval_except, Ctx.businessToInternalContext, Ctx.extractTenantID, htenant] at hauth
    cases huser : ctx.userType with
    | none => rw [huser] at hauth; cases hauth
    | some t => rw [huser] at hauth; cases t <;> cases hauth

/-- A user whose scope is filtered is shown every workflow they may see, each once, and no other. -/
theorem visible_workflows_listed (m : WorkflowManager) (ctx : Ctx)
    (lt : Sql.Datum → Sql.Datum → Bool) (d : Db) (n n' top : Nat) (user : ClientData)
    (hfilter : (m.userManager.needsGroupFiltering ctx .read .workflow).eval d n = (.ok true, n'))
    (huser : ctx.businessUserData = some user) (hid : utf8 user.identifier ∉ Sql.markers)
    (htop : d.workflows.rows.length ≤ if top = 0 then defaultLimit else top)
    (hlist : m.repo.fault n' = none) (hcount : m.repo.fault (n' + 1) = none) :
    ∃ ws, (m.getWorkflows ctx lt ⟨0, top⟩ Sql.newQuery).eval d n = (.ok (ws, ws.length), n' + 2) ∧
      ws.Nodup ∧ ∀ w, w ∈ ws ↔ w ∈ d.workflows.rows ∧ VisibleTo d user w := by
  have htenant := tenant_of_needsGroupFiltering hfilter
  obtain ⟨ws, hrows, hnodup, hmem⟩ := workflowRows_visible lt d ⟨0, top⟩ hid
  have hlen : ws.length ≤ if top = 0 then defaultLimit else top :=
    (List.subperm_of_subset hnodup fun w hw => ((hmem w).1 hw).1).length_le.trans htop
  have hperm : (page ws (m.repo.order n' ws.length) 0
      (if top = 0 then defaultLimit else top)).Perm ws := page_perm hlen
  refine ⟨page ws (m.repo.order n' ws.length) 0 (if top = 0 then defaultLimit else top), ?_,
    hperm.nodup_iff.2 hnodup, fun w => by rw [hperm.mem_iff, hmem]⟩
  have hneeds : ((m.userManager.needsGroupFiltering ctx .read .workflow).mapError
      (.wrap .errGetWorkflowDB)).eval d n = (.ok true, n') := by
    rw [Query.eval_mapError, hfilter]
    rfl
  have hpage : ((m.repo.listWorkflows ctx lt (accessQuery user ⟨0, top⟩)).mapError
      (.wrap .errGetWorkflowDB)).eval d n' = (.ok (page ws (m.repo.order n' ws.length) 0
        (if top = 0 then defaultLimit else top)), n' + 1) := by
    rw [Query.eval_mapError, Repo.listWorkflows, Repo.eval_query htenant hlist, hrows]
    rfl
  have hnumber : ((m.repo.countWorkflows ctx lt (accessQuery user ⟨0, top⟩)).mapError
      (.wrap .errGetWorkflowDB)).eval d (n' + 1) = (.ok ws.length, n' + 2) := by
    rw [Query.eval_mapError, Repo.countWorkflows, Repo.eval_query htenant hcount, hrows]
    rfl
  rw [WorkflowManager.getWorkflows, Query.eval_bind_of_ok hneeds, if_pos rfl,
    filterByAccess_newQuery huser, hperm.length_eq]
  exact (Query.eval_bind_of_ok hpage).trans (Query.eval_bind_of_ok hnumber)

end Listed

namespace Sample

def listing : Db := { db with workflows := ⟨[link 1], by decide⟩ }

/-- They see it. -/
theorem own_workflow_listed :
    ∃ ws, ((manager (fun _ => []) fun _ => .ok "CREATED").getWorkflows (as "i") (fun _ _ => false)
        ⟨0, 10⟩ Sql.newQuery).eval listing 0 = (.ok (ws, ws.length), 3) ∧ ws.Nodup ∧
      ∀ w, w ∈ ws ↔ w ∈ listing.workflows.rows ∧ VisibleTo listing ⟨"i", ["KMS_g"], []⟩ w :=
  visible_workflows_listed _ (as "i") _ listing 0 1 10 _ (by decide +kernel) rfl (by decide)
    (by decide) rfl rfl

end Sample

end Cmk
