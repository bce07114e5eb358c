import Cmk.Store
import Cmk.Tx.Rules

/-!
# Cmk.Repo

The repository of `internal/repo/sql`: `First`, `List`, `Count`, `Create`, `Patch`, `Set` and
`Transaction`, one definition for each table and query the managers use.

The database is an oracle indexed by the statement number. It may refuse any statement (`fault`)
or commit, and it chooses the order of rows no `ORDER BY` fixes. A statement outside a transaction
is a transaction of its own, so its error is wrapped once more (`WithTenant`).
-/

namespace Cmk

open Tx Prog Query

variable {R : Db → Db → Prop}

variable {i : Bool} {limit : Nat} {e : Exn}

abbrev M := Prog Db World Exn

abbrev Q := Query Db Exn

abbrev State := St Db World

/-- What is asked of the end of a program. -/
abbrev Post (α : Type) := Except Exn α → State → Prop

/-- The error a Go call returned, as a value. A panic is not one. -/
def errValue {α : Type} (p : M α) : M (Except Err α) := do
  match ← p.attempt with
  | .ok a => return .ok a
  | .error (.err e) => return .error e
  | .error .panic => throw .panic

@[simp] theorem errValue_pure {α : Type} (a : α) : errValue (pure a : M α) = pure (.ok a) := rfl

theorem wp_errValue {α : Type} {p : M α} {s : State} {P : Post (Except Err α)}
    (h : p.wp i (fun r s' => match r with
      | .ok a => P (.ok (.ok a)) s'
      | .error (.err e) => P (.ok (.error e)) s'
      | .error .panic => P (.error .panic) s') s) : (errValue p).wp i P s := by
  refine wp_bind (wp_attempt (wp_mono h fun r s' hr => ?_))
  rcases r with (e | _) | a <;> exact hr

theorem wp_errValue_state {α : Type} {p : M α} {s : State} {P : State → Prop}
    (h : p.wp i (fun _ => P) s) : (errValue p).wp i (fun _ => P) s := by
  refine wp_errValue (wp_mono h fun r s' hs => ?_)
  rcases r with (e | _) | a <;> exact hs

theorem wp_errValue_query_bind {α β : Type} {q : Q α} {h : Except Err α → M β} {s : State}
    {P : Post β}
    (hpanic : ∀ n, q.eval s.db s.clock = (.error .panic, n) → P (.error .panic) { s with clock := n })
    (hr : ∀ r n, q.eval s.db s.clock = (r.mapError .err, n) → (h r).wp i P { s with clock := n }) :
    (errValue (liftM q) >>= h).wp i P s := by
  refine wp_bind (wp_errValue (wp_query fun r n he => ?_))
  rcases r with (e | _) | a
  · exact hr (.error e) n he
  · exact hpanic n he
  · exact hr (.ok a) n he

theorem errValue_keeps {α : Type} {Q : World → World → Prop} {p : M α} (hp : Keeps R Q p) :
    Keeps R Q (errValue p) := by
  refine .bind hp.attempt fun r => ?_
  rcases r with (e | _) | a
  · exact .pure _
  · exact .throw _
  · exact .pure _

def defaultLimit : Nat := 100

structure Repo where
  fault : Nat → Option Err
  /-- A refused statement is not a row that was not found. -/
  fault_found : ∀ n e, fault n = some e → e.is .errNotFound = false
  commit : Nat → Option Err
  order : Nat → (n : Nat) → Equiv.Perm (Fin n)
  now : Nat → Int

namespace Repo

variable (r : Repo) (ctx : Ctx)

/-- What `WithTenant` adds to the error of a statement. -/
def outside (e : Exn) : Exn := bif ctx.inTx then e else e.wrap .errTransaction

/-- A statement that reads; `onFault` is what the operation makes of a database error. -/
def query {α : Type} (onFault : Exn → Exn) (f : Nat → Db → Except Exn α) : Q α :=
  .ask fun n d =>
    match ctx.extractTenantID with
    | .error e => .error (e.wrap .errWithTenant)
    | .ok _ =>
      match r.fault n with
      | some e => .error (outside ctx (onFault (.err e)))
      | none => (f n d).mapError (outside ctx)

/-- A statement that writes. One that is refused changes nothing. -/
def exec {α : Type} (onFault : Exn → Exn) (f : Nat → Db → Except Exn α × Db) : M α :=
  .exec fun n d =>
    match ctx.extractTenantID with
    | .error e => (.error (e.wrap .errWithTenant), d)
    | .ok _ =>
      match r.fault n with
      | some e => (.error (outside ctx (onFault (.err e))), d)
      | none => ((f n d).1.mapError (outside ctx), (f n d).2)

def first {α : Type} (select : Db → Option α) : Q α :=
  r.query ctx (.wrap .errGetResource) fun _ d =>
    match select d with
    | some a => .ok a
    | none => .error (.err (.wrap (.sentinel .errNotFound) (.foreign "record not found")))

/-- `applyPagination`: without a limit in the query, `defaultLimit` rows. -/
def list {α : Type} (limit : Nat) (select : Db → List α) : Q (List α) :=
  r.query ctx id fun n d =>
    .ok (page (select d) (r.order n _) 0 (if limit = 0 then defaultLimit else limit))

def count (select : Db → Nat) : Q Nat :=
  r.query ctx (.wrap .errGetResource) fun _ d => .ok (select d)

/-- `ProcessInBatch`: the pages of a listing, each statement with an order of its own. -/
def listInBatches {α : Type} (select : Db → List α) : Q (List α) :=
  r.query ctx id fun n d =>
    .ok ((List.range ((select d).length / defaultLimit + 1)).flatMap fun i =>
      page (select d) (r.order (n + i) _) (i * defaultLimit) defaultLimit)

/-- `Transaction`. Inside a transaction the function runs as it is. -/
def transaction {α : Type} (txFunc : Ctx → M α) : M α :=
  bif ctx.inTx then txFunc ctx
  else
    (Prog.transact (fun n => (r.commit n).map .err) (txFunc { ctx with inTx := true })).mapError
      (.wrap .errTransaction)

def firstWorkflow (id : UUID) : Q Workflow := r.first ctx (·.workflows.get? id)

/-- Writing an enumeration value outside its set fails. -/
def enumError (w : Workflow) : Option Exn :=
  if ¬ w.artifactType.valid then some (.of .errInvalidWorkflowArtifactType)
  else if ¬ w.actionType.valid then some (.of .errInvalidWorkflowActionType)
  else none

def defaultExpiryPeriodDays : Int := 7

def beforeSave (n : Nat) (w : Workflow) : Workflow :=
  match w.expiryDate with
  | some _ => w
  | none => { w with expiryDate := some (r.now n + defaultExpiryPeriodDays * 86400) }

def createWorkflow (w : Workflow) : M Workflow :=
  r.exec ctx (.wrap .errCreateResource) fun n d =>
    match enumError w with
    | some e => (.error (e.wrap .errCreateResource), d)
    | none =>
      let w := r.beforeSave n w
      -- the column default for a zero count
      let w := if w.minimumApprovalCount = 0 then { w with minimumApprovalCount := 2 } else w
      match d.workflows.insert? w with
      | none =>
        (.error (.err (.wrap (.sentinel .errUniqueConstraint) (.foreign "duplicated key"))), d)
      | some t => (.ok w, { d with workflows := t })

/-- A column of an update by struct: zero values are not written. -/
def nonZero {α : Type} [DecidableEq α] (zero new old : α) : α := if new = zero then old else new

def updates (w row : Workflow) : Workflow :=
  { id := row.id
    state := w.state
    initiatorID := nonZero "" w.initiatorID row.initiatorID
    artifactType := nonZero (.other "") w.artifactType row.artifactType
    artifactID := nonZero UUID.nil w.artifactID row.artifactID
    artifactName := nonZero none w.artifactName row.artifactName
    actionType := nonZero (.other "") w.actionType row.actionType
    parameters := nonZero "" w.parameters row.parameters
    parametersResourceName := nonZero none w.parametersResourceName row.parametersResourceName
    parametersResourceType := nonZero none w.parametersResourceType row.parametersResourceType
    failureReason := nonZero "" w.failureReason row.failureReason
    expiryDate := nonZero none w.expiryDate row.expiryDate
    minimumApprovalCount := nonZero 0 w.minimumApprovalCount row.minimumApprovalCount
    approverGroupIDs := nonZero none w.approverGroupIDs row.approverGroupIDs }

/-- `Patch` of a workflow; the struct is read back from the row. -/
def patchWorkflow (w : Workflow) : M Workflow :=
  r.exec ctx (.wrap .errUpdateResource) fun n d =>
    match enumError w with
    | some e => (.error (e.wrap .errUpdateResource), d)
    | none =>
      let w := r.beforeSave n w
      let t := d.workflows.modify w.id (updates w) fun _ => rfl
      (.ok ((t.get? w.id).getD w), { d with workflows := t })

def approversOf (d : Db) (workflowID : UUID) : List WorkflowApprover :=
  d.approvers.rows.filter (·.workflowID = workflowID)

def listApprovers (workflowID : UUID) : Q (List WorkflowApprover) :=
  r.list ctx 0 (approversOf · workflowID)

def countApprovers (workflowID : UUID) : Q Nat :=
  r.count ctx fun d => (approversOf d workflowID).length

def countApprover (workflowID : UUID) (userID : String) : Q Nat :=
  r.count ctx fun d => ((approversOf d workflowID).filter (·.userID = userID)).length

def firstApprover (workflowID : UUID) (userID : String) : Q WorkflowApprover :=
  r.first ctx (·.approvers.get? (workflowID, userID))

def setApprover (a : WorkflowApprover) : M Unit :=
  r.exec ctx (.wrap .errSetResource) fun _ d =>
    (.ok (), { d with approvers := d.approvers.upsert a })

def patchApprover (a : WorkflowApprover) : M Unit :=
  r.exec ctx (.wrap .errUpdateResource) fun _ d =>
    let f row : WorkflowApprover := { row with approved := nonZero none a.approved row.approved }
    (.ok (), { d with approvers := d.approvers.modify a.key f fun _ => rfl })

/-- `Set`: the conflict target is the primary key, so a second row for the same workflow and group
violates `unique_workflow_group`. -/
def setApproverGroup (g : WorkflowApproverGroup) : M Unit :=
  r.exec ctx (.wrap .errSetResource) fun _ d =>
    if d.approverGroups.rows.any fun g' =>
        g'.id ≠ g.id ∧ g'.workflowID = g.workflowID ∧ g'.groupID = g.groupID then
      (.error (.err (.wrap (.sentinel .errSetResource) (.foreign "unique_workflow_group"))), d)
    else (.ok (), { d with approverGroups := d.approverGroups.upsert g })

/-- The groups joined to a workflow through the junction table. -/
def groupsOf (d : Db) (workflowID : UUID) : List Group :=
  d.groups.rows.filter fun g =>
    d.approverGroups.rows.any fun ag => ag.groupID = g.id ∧ ag.workflowID = workflowID

def listApproverGroups (workflowID : UUID) : Q (List Group) := r.list ctx 0 (groupsOf · workflowID)

def listGroups (iamIdentifiers : List String) (limit : Nat) : Q (List Group) :=
  r.list ctx limit fun d => d.groups.rows.filter (·.iamIdentifier ∈ iamIdentifiers)

/-- `First` of a group; `filter` restricts it to the caller's own groups. -/
def firstGroup (id : UUID) (filter : Option (List String)) : Q Group :=
  r.first ctx fun d => (d.groups.get? id).filter fun g =>
    match filter with
    | none => true
    | some iamIdentifiers => g.iamIdentifier ∈ iamIdentifiers

/-- `First` with the ID of the struct as its only condition. A nil ID is no condition: then the row
with the least ID comes first. -/
def byID {α : Type} {key : α → UUID} (t : Table key) (id : UUID) : Option α :=
  if id = UUID.nil then t.rows.find? fun row => t.rows.all fun row' => key row ≤ key row'
  else t.get? id

theorem byID_of_ne {α : Type} {key : α → UUID} {t : Table key} {id : UUID} (h : id ≠ UUID.nil) :
    byID t id = t.get? id := if_neg h

theorem get?_of_byID {α : Type} {key : α → UUID} {t : Table key} {id : UUID} {row : α}
    (h : byID t id = some row) : t.get? (key row) = some row := by
  unfold byID at h
  split at h
  · exact get?_key (List.mem_of_find?_eq_some h)
  · rw [key_of_get? h]; exact h

def firstKeyConfiguration (id : UUID) : Q KeyConfiguration :=
  r.first ctx fun d => byID d.keyConfigurations id

/-- `First` with `Preload("AdminGroup")`; a missing group is left zero. -/
def firstKeyConfigurationWithAdminGroup (id : UUID) : Q KeyConfiguration :=
  r.first ctx fun d => (d.keyConfigurations.get? id).map fun kc =>
    { kc with adminGroup := (d.groups.get? kc.adminGroupID).getD {} }

/-- The key configurations with this ID whose admin group is one of the given IAM groups. -/
def countKeyConfigurationsManagedBy (id : UUID) (iamIdentifiers : List String) : Q Nat :=
  r.count ctx fun d => (d.keyConfigurations.rows.filter fun kc => kc.id = id ∧
    d.groups.rows.any fun g => g.id = kc.adminGroupID ∧ g.iamIdentifier ∈ iamIdentifiers).length

def firstKey (id : UUID) : Q Key := r.first ctx (·.keys.get? id)

def patchKeyUnderWorkflow (id : UUID) (b : Bool) : M Unit :=
  r.exec ctx (.wrap .errUpdateResource) fun _ d =>
    let f row : Key := { row with underWorkflow := b }
    (.ok (), { d with keys := d.keys.modify id f fun _ => rfl })

def firstSystem (id : UUID) : Q System := r.first ctx (·.systems.get? id)

def joinSystem (d : Db) (id : UUID) : List (System × Option SystemProperty) :=
  match d.systems.get? id, d.systemProperties.rows.filter (·.id = id) with
  | none, _ => []
  | some sys, [] => [(sys, none)]
  | some sys, props => props.map fun p => (sys, some p)

def getSystemByIDWithProperties (id : UUID) : Q System := do
  let systems ← (r.list ctx 0 fun d => (d.systems.get? id).toList).mapError fun e =>
    (e.wrap .errListingItems).wrap .errGetResource
  if systems.isEmpty then throw (.of .errNotFound)
  let rows ← (r.listInBatches ctx (joinSystem · id)).mapError (.wrap .errGetResource)
  match rows with
  | [] => throw (.of .errNotFound)
  | (sys, _) :: _ =>
    let properties := rows.filterMap fun row => row.2.bind fun p =>
      if p.key = "" then none else some (p.key, p.value)
    return { sys with properties := properties }

/-- `System.AfterSave`. -/
def saveProperties (d : Db) (sys : System) : Table SystemProperty.primaryKey :=
  sys.properties.foldl (fun t p => t.upsert ⟨sys.id, p.1, p.2⟩) d.systemProperties

def systemUpdates (sys row : System) : System :=
  { id := row.id
    identifier := nonZero "" sys.identifier row.identifier
    region := nonZero "" sys.region row.region
    keyConfigurationID := nonZero none sys.keyConfigurationID row.keyConfigurationID
    targetKeyConfigurationID :=
      nonZero none sys.targetKeyConfigurationID row.targetKeyConfigurationID
    status := sys.status
    underWorkflow := nonZero false sys.underWorkflow row.underWorkflow }

/-- What `Select("*").Updates(sys)` makes of the row: every column is written. -/
def systemUpdatesAll (sys row : System) : System := { sys with id := row.id, properties := [] }

/-- `Patch` of a system; the struct is read back from the row and keeps its properties. -/
def patchSystem (all : Bool) (sys : System) : M System :=
  r.exec ctx (.wrap .errUpdateResource) fun _ d =>
    let f := if all then systemUpdatesAll sys else systemUpdates sys
    let t := d.systems.modify sys.id f fun _ => by cases all <;> rfl
    (.ok { (t.get? sys.id).getD sys with properties := sys.properties },
      { d with systems := t, systemProperties := saveProperties d sys })

def patchSystemUnderWorkflow (id : UUID) (b : Bool) : M Unit :=
  r.exec ctx (.wrap .errUpdateResource) fun _ d =>
    let f row : System := { row with underWorkflow := b }
    (.ok (), { d with systems := d.systems.modify id f fun _ => rfl })

def listSystemsOfKeyConfiguration (keyConfigID : UUID) : Q (List System) :=
  r.listInBatches ctx fun d => d.systems.rows.filter (·.keyConfigurationID = some keyConfigID)

def setEvent (ev : Event) : M Unit :=
  r.exec ctx (.wrap .errSetResource) fun _ d => (.ok (), { d with events := d.events.upsert ev })

def firstWorkflowConfig : Q WorkflowConfig := r.first ctx (·.workflowConfig)

def setWorkflowConfig (c : WorkflowConfig) : M Unit :=
  r.exec ctx (.wrap .errSetResource) fun _ d => (.ok (), { d with workflowConfig := some c })

/-- `repo.GetTenant`. -/
def getTenant : Q Tenant := do
  let tenantID ← (ctx.extractTenantID : Except Exn String)
  (r.first ctx (·.tenants.get? tenantID)).mapError fun e =>
    if e.is .errNotFound then .of .errTenantNotFound else e.wrap .errGetResource

def ongoing (d : Db) (artifactType : WorkflowArtifactType) (artifactID : UUID) : List Workflow :=
  d.workflows.rows.filter fun w =>
    w.artifactType = artifactType ∧ w.artifactID = artifactID ∧ w.state ∈ workflowNonTerminalStates

def countOngoing (artifactType : WorkflowArtifactType) (artifactID : UUID) : Q Nat :=
  r.count ctx fun d => (ongoing d artifactType artifactID).length

section

variable {r : Repo} {ctx : Ctx} {α : Type} {onFault : Exn → Exn} {d : Db} {n m : Nat} {a : α}
  {s s' : State}

theorem eval_query_ok {f : Nat → Db → Except Exn α}
    (h : (r.query ctx onFault f).eval d n = (.ok a, m)) : f n d = .ok a ∧ m = n + 1 := by
  simp only [query, eval_ask, Prod.mk.injEq] at h
  obtain ⟨h, rfl⟩ := h
  split at h
  · cases h
  · split at h
    · cases h
    · cases hf : f n d with
      | error e => rw [hf] at h; cases h
      | ok b => rw [hf] at h; cases h; exact ⟨rfl, rfl⟩

theorem eval_query_tenant {f : Nat → Db → Except Exn α}
    (h : (r.query ctx onFault f).eval d n = (.ok a, m)) : ctx.tenant ≠ "" := by
  intro ht
  simp only [query, eval_ask, Ctx.extractTenantID, ht, if_true] at h
  cases h

theorem eval_first_ok {select : Db → Option α}
    (h : (r.first ctx select).eval d n = (.ok a, m)) : select d = some a ∧ m = n + 1 := by
  unfold first at h
  obtain ⟨hf, rfl⟩ := eval_query_ok h
  cases hs : select d with
  | none => rw [hs] at hf; cases hf
  | some b => rw [hs] at hf; cases hf; exact ⟨rfl, rfl⟩

theorem eval_list_ok {select : Db → List α} {l : List α}
    (h : (r.list ctx limit select).eval d n = (.ok l, m)) :
    l = page (select d) (r.order n _) 0 (if limit = 0 then defaultLimit else limit) ∧
      m = n + 1 := by
  unfold list at h
  obtain ⟨hf, rfl⟩ := eval_query_ok h
  cases hf
  exact ⟨rfl, rfl⟩

theorem eval_count_ok {select : Db → Nat} {k : Nat}
    (h : (r.count ctx select).eval d n = (.ok k, m)) : k = select d ∧ m = n + 1 := by
  unfold count at h
  obtain ⟨hf, rfl⟩ := eval_query_ok h
  cases hf
  exact ⟨rfl, rfl⟩

def Refuses (r : Repo) (ctx : Ctx) (n : Nat) : Prop := ctx.tenant = "" ∨ r.fault n ≠ none

theorem eval_query {f : Nat → Db → Except Exn α} (ht : ctx.tenant ≠ "") (hf : r.fault n = none) :
    (r.query ctx onFault f).eval d n = ((f n d).mapError (outside ctx), n + 1) := by
  simp only [query, eval_ask, Ctx.extractTenantID, if_neg ht, hf]

theorem eval_first_found {select : Db → Option α} (ht : ctx.tenant ≠ "") (hf : r.fault n = none)
    (hs : select d = some a) : (r.first ctx select).eval d n = (.ok a, n + 1) := by
  rw [first, eval_query ht hf, hs]
  rfl

theorem eval_first_missing {select : Db → Option α} (ht : ctx.tenant ≠ "") (hf : r.fault n = none)
    (hs : select d = none) :
    ∃ e : Exn, e.is .errNotFound ∧ (r.first ctx select).eval d n = (.error e, n + 1) := by
  refine ⟨outside ctx (.err (.wrap (.sentinel .errNotFound) (.foreign "record not found"))), ?_, ?_⟩
  · unfold outside
    cases ctx.inTx <;> rfl
  · rw [first, eval_query ht hf, hs]
    rfl

theorem eval_list {select : Db → List α} (ht : ctx.tenant ≠ "") (hf : r.fault n = none) :
    (r.list ctx limit select).eval d n =
      (.ok (page (select d) (r.order n _) 0 (if limit = 0 then defaultLimit else limit)), n + 1) :=
  eval_query ht hf

theorem eval_query_error {f : Nat → Db → Except Exn α} (hf : f n d = .ok a)
    (h : (r.query ctx onFault f).eval d n = (.error e, m)) : r.Refuses ctx n := by
  by_contra hr
  obtain ⟨ht, hfault⟩ := not_or.1 hr
  rw [eval_query ht (not_not.1 hfault), hf] at h
  cases h

theorem eval_first_refused {select : Db → Option α} (hs : select d = some a)
    (h : (r.first ctx select).eval d n = (.error e, m)) : r.Refuses ctx n :=
  eval_query_error (a := a) (by simp only [hs]) h

theorem eval_list_error {select : Db → List α}
    (h : (r.list ctx limit select).eval d n = (.error e, m)) : r.Refuses ctx n :=
  eval_query_error rfl h

theorem eval_first_error {select : Db → Option α} (hs : select d = some a)
    (h : (r.first ctx select).eval d n = (.error e, m)) : e.is .errNotFound = false := by
  have hout : ∀ e : Exn, e.is .errNotFound = false → (outside ctx e).is .errNotFound = false := by
    intro e he
    unfold outside
    cases ctx.inTx with
    | true => exact he
    | false =>
      cases e with
      | panic => rfl
      | err e => exact he
  simp only [first, query, eval_ask, hs, Prod.mk.injEq, Ctx.extractTenantID] at h
  obtain ⟨h, -⟩ := h
  split at h
  · rename_i he
    split at he <;> cases he
    cases h
    rfl
  · split at h
    · rename_i e' hf
      cases h
      exact hout _ (r.fault_found n e' hf)
    · cases h

theorem wp_exec {f : Nat → Db → Except Exn α × Db} {P : Post α}
    (hrefused : ∀ e, r.Refuses ctx s.clock → P (.error e) { s with clock := s.clock + 1 })
    (hdone : ¬ r.Refuses ctx s.clock → P ((f s.clock s.db).1.mapError (outside ctx))
      { s with db := (f s.clock s.db).2, clock := s.clock + 1 }) :
    (r.exec ctx onFault f).wp true P s := by
  simp only [wp, exec, run_exec_nested, Ctx.extractTenantID]
  by_cases ht : ctx.tenant = ""
  · simp only [if_pos ht]
    exact hrefused _ (.inl ht)
  · simp only [if_neg ht]
    cases hf : r.fault s.clock with
    | some e => exact hrefused _ (.inr (by simp [hf]))
    | none => exact hdone (not_or.2 ⟨ht, by simp [hf]⟩)

theorem wp_exec_any {f : Nat → Db → Except Exn α × Db} {P : Post α}
    (hrefused : ∀ e s', r.Refuses ctx s.clock → s'.db = s.db → s'.ext = s.ext → P (.error e) s')
    (hdone : ∀ s', ¬ r.Refuses ctx s.clock → s'.db = (f s.clock s.db).2 → s'.ext = s.ext →
      P ((f s.clock s.db).1.mapError (outside ctx)) s') : (r.exec ctx onFault f).wp i P s := by
  unfold Prog.wp exec Prog.exec
  simp only [Prog.run, Ctx.extractTenantID]
  by_cases ht : ctx.tenant = ""
  · simp only [if_pos ht]
    exact hrefused _ _ (.inl ht) rfl rfl
  · simp only [if_neg ht]
    cases hf : r.fault s.clock with
    | some e => exact hrefused _ _ (.inr (by simp [hf])) rfl rfl
    | none => exact hdone _ (not_or.2 ⟨ht, by simp [hf]⟩) rfl rfl

theorem wp_exec_db {f : Nat → Db → Except Exn α × Db} {P : Except Exn α → Db → Prop}
    (hrefused : ∀ e, P (.error e) s.db)
    (hdone : P ((f s.clock s.db).1.mapError (outside ctx)) (f s.clock s.db).2) :
    (r.exec ctx onFault f).wp i (fun res s' => P res s'.db) s := by
  unfold Prog.wp exec Prog.exec
  simp only [Prog.run]
  split
  · exact hrefused _
  · split
    · exact hrefused _
    · exact hdone

theorem exec_keeps {Q : World → World → Prop} [Std.Refl R] [Std.Refl Q]
    {f : Nat → Db → Except Exn α × Db} (h : ∀ n d, R d (f n d).2) :
    Keeps R Q (r.exec ctx onFault f) := by
  refine .exec fun n d => ?_
  split
  · exact refl d
  · split
    · exact refl d
    · exact h n d

theorem transaction_inTx {txFunc : Ctx → M α} (h : ctx.inTx = true) :
    r.transaction ctx txFunc = txFunc ctx := by
  rw [transaction, h]; rfl

theorem transaction_outermost {txFunc : Ctx → M α} (h : ctx.inTx = false) :
    r.transaction ctx txFunc =
      (transact (fun n => (r.commit n).map .err) (txFunc { ctx with inTx := true })).mapError
        (.wrap .errTransaction) := by
  rw [transaction, h]; rfl

theorem transaction_keeps {Q : World → World → Prop} {txFunc : Ctx → M α}
    (h : ∀ ctx, Keeps R Q (txFunc ctx)) : Keeps R Q (r.transaction ctx txFunc) := by
  cases hin : ctx.inTx with
  | true => rw [transaction_inTx hin]; exact h ctx
  | false =>
    rw [transaction_outermost hin]
    exact .mapError _ ⟨h _, fun _ => trivial⟩

/-- An outermost transaction commits what its function did, or puts the store back because the
function or the commit failed. -/
theorem wp_transaction {txFunc : Ctx → M α} {P : Post α}
    (hout : ctx.inTx = false)
    (hp : (txFunc { ctx with inTx := true }).wp true (fun res s' =>
      (∀ a, res = .ok a →
        P (.ok a) { s' with clock := s'.clock + 1, commits := s'.db :: s.commits }) ∧
      ((∀ a, res = .ok a → ∃ k, r.commit k ≠ none) →
        ∀ e k, P (.error e) { s' with db := s.db, clock := k, commits := s.commits })) s) :
    (r.transaction ctx txFunc).wp false P s := by
  rw [transaction_outermost hout]
  refine wp_mapError (wp_transact (wp_mono hp fun res s' h => ?_))
  refine ⟨fun a ha _ => h.1 a ha, fun hfail e k => h.2 (fun a ha => ⟨s'.clock, fun hn => ?_⟩) _ k⟩
  exact hfail a ha (by rw [hn]; rfl)

end

end Repo

export Repo (approversOf byID exec_keeps eval_first_ok wp_exec_any wp_transaction)

end Cmk
