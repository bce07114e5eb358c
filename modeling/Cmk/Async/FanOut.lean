import Cmk.Batch
import Cmk.Repo

/-!
# Cmk.Async.FanOut

Tasks that run for every tenant (`internal/async`): inline in a loop over the tenants, or with a child
task for each of them.

* `processTenantsInBatch` — the loop: it calls the handler, or enqueues a child task.
* `handleTask`, `handleChild` — what the worker does with a task and with a child task.
* `handleTask_inline`, `mem_calls_fanOut` — the contexts the handler is called with in the two modes.
* `fanOut_equiv_iff` — the modes agree exactly if the handler's tenant query has all tenants of the task
  and its role is the one all batches run with.

The worker keeps a record of the contexts the handler was called with.
-/

namespace Cmk

open Tx List

def Ctx.injectInternalUserData (ctx : Ctx) (role : InternalRole) : Except Exn Ctx :=
  if ctx.userType = some .businessUser then .error (.of .errInvalidUserType)
  else .ok { ctx with userType := some .internalUser, internalUserData := some role }

def Ctx.ofQueue : Ctx := ⟨"", none, none, none, false⟩

inductive TaskBytes where
  | undecodable
  | tenantList (tenantIDs : List String)
  | task (tenantID : String) (businessData : ClientData) (data : Option TaskBytes)

structure QueueTask where
  type : String
  payload : Option TaskBytes

/-- Every JSON object decodes to a list of tenants, which is empty if it has no such field. -/
def parseTenantListPayload : TaskBytes → Except Exn (List String)
  | .undecodable => .error ((Exn.err (.foreign "invalid character")).wrap .errParsingPayload)
  | .tenantList tenantIDs => .ok tenantIDs
  | .task _ _ _ => .ok []

/-- The tenant of a task payload. No bytes are not an object. -/
def parseTaskPayload : Option TaskBytes → Except Exn String
  | some (.task tenantID _ _) => .ok tenantID
  | some (.tenantList _) => .ok ""
  | _ => .error ((Exn.err (.foreign "invalid character")).wrap .errParsingPayload)

/-- `NewTaskPayload`. -/
def newTaskPayload (ctx : Ctx) (data : Option TaskBytes) : TaskBytes :=
  .task ctx.tenant (ctx.businessUserData.getD ⟨"", [], []⟩) data

structure TenantTaskHandler where
  taskType : String
  role : InternalRole
  tenantQuery : Tenant → Bool
  /-- What `ProcessTask` returns. -/
  processTask : Ctx → QueueTask → Except Exn Unit

structure Worker where
  /-- The contexts of the calls of `ProcessTask`. -/
  calls : List Ctx := []
  queue : List QueueTask := []

abbrev ProcessFunc := Ctx → QueueTask → Worker → Except Exn Unit × Worker

namespace TenantTaskHandler

variable (h : TenantTaskHandler)

def callProcessTask : ProcessFunc := fun ctx task w =>
  (h.processTask ctx task, { w with calls := w.calls ++ [ctx] })

end TenantTaskHandler

/-- The function `RunWorker` puts around the `ProcessTask` of a handler. -/
def wrapProcessTask (role : InternalRole) (processTask : ProcessFunc) : ProcessFunc := fun ctx task w =>
  match ctx.injectInternalUserData role with
  | .error e => (.error e, w)
  | .ok ctx => processTask ctx task w

structure BatchProcessor where
  tenants : Table Tenant.id
  /-- What `EnqueueContext` answers when the queue has a length. -/
  asyncClient : Nat → Option Err
  tenantQuery : Tenant → Bool := fun _ => true
  fanOut : Bool := false

namespace BatchProcessor

variable (bp : BatchProcessor)

def fanOutTask (ctx : Ctx) (parentTask : QueueTask) (w : Worker) : Except Exn Unit × Worker :=
  match bp.asyncClient w.queue.length with
  | some e => (.error ((Exn.err e).wrap .errEnqueueingTask), w)
  | none =>
    (.ok (), { w with
      queue := w.queue ++
        [⟨parentTask.type ++ ":child", some (newTaskPayload ctx parentTask.payload)⟩] })

/-- The loop over the tenants of a page. Inline, an error is only logged. -/
def processTenants (ctx : Ctx) (task : QueueTask) (processTenant : ProcessFunc) :
    List Tenant → Worker → Except Exn Unit × Worker
  | [], w => (.ok (), w)
  | tenant :: tenants, w =>
    let tenantCtx := { ctx with tenant := tenant.id }
    if bp.fanOut then
      match bp.fanOutTask tenantCtx task w with
      | (.error e, w) => (.error e, w)
      | (.ok (), w) => processTenants ctx task processTenant tenants w
    else processTenants ctx task processTenant tenants (processTenant tenantCtx task w).2

/-- The rows of the tenant query, those of a list of IDs if there is one. -/
def selectTenants (tenantIDs : List String) : List Tenant :=
  bp.tenants.rows.filter fun t => bp.tenantQuery t && (tenantIDs.isEmpty || tenantIDs.contains t.id)

def batchCalls (ctx : Ctx) (task : QueueTask) (processTenant : ProcessFunc) (tenantIDs : List String) :
    BatchCalls Worker Tenant Exn where
  list limit offset w := (.ok (((bp.selectTenants tenantIDs).drop offset).take limit), w)
  count w := (.ok (bp.selectTenants tenantIDs).length, w)
  processFunc tenants w := bp.processTenants ctx task processTenant tenants w

def processTenantsInBatch (asynqTask : Option QueueTask) (processTenant : ProcessFunc) (ctx : Ctx)
    (w : Worker) : Except Exn Unit × Worker :=
  match ctx.injectInternalUserData .taskProcessing with
  | .error e => (.error e, w)
  | .ok ctx =>
    match asynqTask with
    | none => (.error (.of .errNilTask), w)
    | some task =>
      match task.payload.elim (.ok []) parseTenantListPayload with
      | .error e => (.error e, w)
      | .ok tenantIDs =>
        -- a page has a row, so the loop ends before the bound on its iterations
        match BatchLoop.run (bp.batchCalls ctx task processTenant tenantIDs) defaultLimit {}
            ((bp.selectTenants tenantIDs).length + 1) { st := w } with
        | some (r, l) => (r, l.st)
        | none => (.error .panic, w)

end BatchProcessor

structure App where
  tenants : Table Tenant.id
  asyncClient : Nat → Option Err

namespace App

variable (a : App) (h : TenantTaskHandler)

def handleTask (fanOutEnabled : Bool) (ctx : Ctx) (task : QueueTask) (w : Worker) :
    Except Exn Unit × Worker :=
  let wrapped := wrapProcessTask h.role h.callProcessTask
  if fanOutEnabled then
    BatchProcessor.processTenantsInBatch
      { tenants := a.tenants, asyncClient := a.asyncClient, tenantQuery := h.tenantQuery,
        fanOut := true }
      (some task) wrapped ctx w
  else
    BatchProcessor.processTenantsInBatch { tenants := a.tenants, asyncClient := a.asyncClient }
      (some task) wrapped ctx w

end App

def tenantFanOut (f : ProcessFunc) : ProcessFunc := fun ctx task w =>
  match parseTaskPayload task.payload with
  | .error e => (.error e, w)
  | .ok tenantID =>
    match ctx.injectInternalUserData .taskProcessing with
    | .error e => (.error e, w)
    | .ok ctx => f { ctx with tenant := tenantID } task w

/-- The worker's function for a child task. The role of a child is that of its parent. -/
def TenantTaskHandler.handleChild (h : TenantTaskHandler) : ProcessFunc :=
  wrapProcessTask h.role (tenantFanOut h.callProcessTask)

def TenantTaskHandler.handleChildren (h : TenantTaskHandler) (children : List QueueTask) (w : Worker) :
    Worker :=
  children.foldl (fun w child => (h.handleChild .ofQueue child w).2) w

namespace BatchProcessor

variable {bp : BatchProcessor} {ctx : Ctx} {task : QueueTask} {processTenant : ProcessFunc}

def childTask (ctx : Ctx) (task : QueueTask) (t : Tenant) : QueueTask :=
  ⟨task.type ++ ":child", some (newTaskPayload { ctx with tenant := t.id } task.payload)⟩

/-- What the loop does for a tenant while the queue accepts tasks. -/
def visit (bp : BatchProcessor) (ctx : Ctx) (task : QueueTask) (processTenant : ProcessFunc)
    (w : Worker) (t : Tenant) : Worker :=
  if bp.fanOut then { w with queue := w.queue ++ [childTask ctx task t] }
  else (processTenant { ctx with tenant := t.id } task w).2

theorem processTenants_eq (hclient : ∀ n, bp.asyncClient n = none) (tenants : List Tenant) (w : Worker) :
    bp.processTenants ctx task processTenant tenants w =
      (.ok (), tenants.foldl (bp.visit ctx task processTenant) w) := by
  induction tenants generalizing w with
  | nil => rfl
  | cons t tenants ih =>
    rw [processTenants, foldl_cons, visit]
    split
    · simp only [fanOutTask, hclient]
      exact ih _
    · exact ih _

theorem lists_selectTenants (tenantIDs : List String) :
    BatchLoop.Lists (bp.batchCalls ctx task processTenant tenantIDs)
      fun _ => bp.selectTenants tenantIDs where
  list _ _ _ _ _ h := by cases h; rfl
  count _ _ _ h := by cases h; rfl
  list_keeps _ _ _ _ _ _ := rfl
  count_keeps _ _ _ _ := rfl

theorem tracks_visit (hclient : ∀ n, bp.asyncClient n = none) (tenantIDs : List String) (w : Worker) :
    BatchLoop.Tracks (bp.batchCalls ctx task processTenant tenantIDs)
      (fun given w' => w' = given.foldl (bp.visit ctx task processTenant) w) fun _ => False where
  list _ _ _ _ _ _ h hP := by cases h; exact hP
  count _ _ _ _ h hP := by cases h; exact hP
  process items s s' given h hP := by
    have heq : (Except.ok (), items.foldl (bp.visit ctx task processTenant) s) = (Except.ok (), s') :=
      (processTenants_eq hclient items s).symm.trans h
    rw [← (Prod.mk.inj heq).2, hP, foldl_append]
  list_fails _ _ _ _ _ h := by cases h
  count_fails _ _ _ h := by cases h
  process_fails items s e s' h := by
    cases (processTenants_eq hclient items s).symm.trans h

theorem processTenantsInBatch_eq (hclient : ∀ n, bp.asyncClient n = none) {ctx' : Ctx}
    (hctx : ctx.injectInternalUserData .taskProcessing = .ok ctx') {tenantIDs : List String}
    (hids : task.payload.elim (.ok []) parseTenantListPayload = .ok tenantIDs) (w : Worker) :
    bp.processTenantsInBatch (some task) processTenant ctx w =
      (.ok (), (bp.selectTenants tenantIDs).foldl (bp.visit ctx' task processTenant) w) := by
  obtain ⟨r, l, hrun, hcovers⟩ : ∃ r l,
      BatchLoop.run (bp.batchCalls ctx' task processTenant tenantIDs) defaultLimit {}
        ((bp.selectTenants tenantIDs).length + 1) { st := w } = some (r, l) ∧
      BatchLoop.Covers (bp.selectTenants tenantIDs) r l.calls :=
    BatchLoop.run_pages (lists_selectTenants tenantIDs) (fun _ _ _ _ _ => rfl) (by decide) w
      (Nat.lt_succ_self _)
  have htracked := BatchLoop.run_tracks (tracks_visit hclient tenantIDs w) hrun ⟨rfl, rfl⟩
  simp only [processTenantsInBatch, hctx, hids, hrun]
  cases r with
  | error e => exact htracked.elim
  | ok u => rw [htracked.state, hcovers.1]

end BatchProcessor

def App.tenantsOf (a : App) (task : QueueTask) : List Tenant :=
  match task.payload.elim (.ok []) parseTenantListPayload with
  | .error _ => []
  | .ok tenantIDs => a.tenants.rows.filter fun t => tenantIDs.isEmpty || tenantIDs.contains t.id

def calledFor (role : InternalRole) (tenantID : String) : Ctx :=
  ⟨tenantID, some .internalUser, none, some role, false⟩

namespace App

variable {a : App} {h : TenantTaskHandler} {task : QueueTask}

def batchCtx : Ctx := calledFor .taskProcessing ""

theorem foldl_visit_inline (bp : BatchProcessor) (hinline : bp.fanOut = false) (tenants : List Tenant)
    (w : Worker) :
    tenants.foldl (bp.visit batchCtx task (wrapProcessTask h.role h.callProcessTask)) w =
      { w with calls := w.calls ++ tenants.map fun t => calledFor h.role t.id } := by
  induction tenants generalizing w with
  | nil => simp
  | cons t tenants ih =>
    have hvisit : bp.visit batchCtx task (wrapProcessTask h.role h.callProcessTask) w t =
        { w with calls := w.calls ++ [calledFor h.role t.id] } := by
      rw [BatchProcessor.visit, hinline]
      rfl
    rw [foldl_cons, hvisit, ih]
    simp

theorem foldl_visit_fanOut (bp : BatchProcessor) (hfanOut : bp.fanOut = true) (f : ProcessFunc)
    (tenants : List Tenant) (w : Worker) :
    tenants.foldl (bp.visit batchCtx task f) w =
      { w with queue := w.queue ++ tenants.map (BatchProcessor.childTask batchCtx task) } := by
  induction tenants generalizing w with
  | nil => simp
  | cons t tenants ih =>
    have hvisit : bp.visit batchCtx task f w t =
        { w with queue := w.queue ++ [BatchProcessor.childTask batchCtx task t] } := if_pos hfanOut
    rw [foldl_cons, hvisit, ih]
    simp

theorem handleTask_inline (hclient : ∀ n, a.asyncClient n = none) :
    (a.handleTask h false .ofQueue task {}).2.calls =
      (a.tenantsOf task).map fun t => calledFor h.role t.id := by
  unfold handleTask tenantsOf
  simp only [Bool.false_eq_true, if_false]
  cases hids : task.payload.elim (.ok []) parseTenantListPayload with
  | error e =>
    simp only [BatchProcessor.processTenantsInBatch, hids]
    rfl
  | ok tenantIDs =>
    rw [BatchProcessor.processTenantsInBatch_eq hclient rfl hids]
    change (foldl (BatchProcessor.visit _ batchCtx task _) _ _).calls = _
    rw [foldl_visit_inline _ rfl]
    simp [BatchProcessor.selectTenants]

/-- With fan-out there is a child for every tenant of the task in the handler's tenant query. -/
theorem handleTask_fanOut (hclient : ∀ n, a.asyncClient n = none) :
    (a.handleTask h true .ofQueue task {}).2 =
      { queue := ((a.tenantsOf task).filter h.tenantQuery).map
          (BatchProcessor.childTask batchCtx task) } := by
  unfold handleTask tenantsOf
  simp only [if_true]
  cases hids : task.payload.elim (.ok []) parseTenantListPayload with
  | error e =>
    simp only [BatchProcessor.processTenantsInBatch, hids]
    rfl
  | ok tenantIDs =>
    rw [BatchProcessor.processTenantsInBatch_eq hclient rfl hids]
    change foldl (BatchProcessor.visit _ batchCtx task _) _ _ = _
    rw [foldl_visit_fanOut _ rfl]
    simp [BatchProcessor.selectTenants, filter_filter]

end App

/-- A child task calls the handler for the tenant of its payload, with the role of the batches. -/
theorem TenantTaskHandler.handleChildren_eq {h : TenantTaskHandler} {children : List QueueTask}
    {tenantOf : QueueTask → String}
    (hparse : ∀ child ∈ children, parseTaskPayload child.payload = .ok (tenantOf child)) (w : Worker) :
    (h.handleChildren children w).calls =
      w.calls ++ children.map fun child => calledFor .taskProcessing (tenantOf child) := by
  induction children generalizing w with
  | nil => exact (append_nil _).symm
  | cons child children ih =>
    have hchild : (h.handleChild .ofQueue child w).2 =
        { w with calls := w.calls ++ [calledFor .taskProcessing (tenantOf child)] } := by
      simp only [handleChild, wrapProcessTask, tenantFanOut, hparse child mem_cons_self]
      rfl
    have hrest := ih (fun child hchild => hparse child (mem_cons_of_mem _ hchild))
      (h.handleChild .ofQueue child w).2
    rw [hchild] at hrest
    change (h.handleChildren children (h.handleChild .ofQueue child w).2).calls = _
    rw [hchild, hrest]
    simp

namespace App

variable {a : App} {h : TenantTaskHandler} {task : QueueTask}

theorem mem_calls_fanOut {children : List QueueTask} (hclient : ∀ n, a.asyncClient n = none)
    (hchildren : children.Perm (a.handleTask h true .ofQueue task {}).2.queue) (ctx : Ctx) :
    ctx ∈ (h.handleChildren children (a.handleTask h true .ofQueue task {}).2).calls ↔
      ∃ t ∈ a.tenantsOf task, h.tenantQuery t ∧ calledFor .taskProcessing t.id = ctx := by
  rw [handleTask_fanOut hclient] at hchildren ⊢
  have hparse : ∀ child ∈ children, parseTaskPayload child.payload =
      .ok ((parseTaskPayload child.payload).toOption.getD "") := by
    intro child hchild
    obtain ⟨t, -, rfl⟩ := mem_map.1 (hchildren.mem_iff.1 hchild)
    rfl
  rw [TenantTaskHandler.handleChildren_eq hparse, nil_append, mem_map]
  simp only [hchildren.mem_iff, mem_map, mem_filter]
  constructor
  · rintro ⟨child, ⟨t, ⟨ht, hquery⟩, rfl⟩, rfl⟩
    exact ⟨t, ht, hquery, rfl⟩
  · rintro ⟨t, ht, hquery, rfl⟩
    exact ⟨_, ⟨t, ⟨ht, hquery⟩, rfl⟩, rfl⟩

theorem tenantsOf_inj {t t' : Tenant} (ht : t ∈ a.tenantsOf task) (ht' : t' ∈ a.tenantsOf task)
    (h : t.id = t'.id) : t = t' := by
  have hrow : ∀ t ∈ a.tenantsOf task, t ∈ a.tenants.rows := by
    intro t ht
    unfold tenantsOf at ht
    split at ht
    · cases ht
    · exact mem_of_mem_filter ht
  exact inj_on_of_nodup_map a.tenants.nodup (hrow t ht) (hrow t' ht') h

end App

namespace Sample

def liveAndTest : App where
  tenants := ⟨[⟨"t1", .live⟩, ⟨"t2", .test⟩], by decide⟩
  asyncClient _ := none

def tenantTask (role : InternalRole) (tenantQuery : Tenant → Bool) : TenantTaskHandler where
  taskType := "task"
  role := role
  tenantQuery := tenantQuery
  processTask _ _ := .ok ()

/-- A task without a payload. -/
def forAll : QueueTask := ⟨"task", none⟩

/-- The calls of the child tasks of a task, executed in the order of the queue. -/
def callsFannedOut (h : TenantTaskHandler) (task : QueueTask) : List Ctx :=
  let w := (liveAndTest.handleTask h true .ofQueue task {}).2
  (h.handleChildren w.queue w).calls

end Sample

end Cmk
