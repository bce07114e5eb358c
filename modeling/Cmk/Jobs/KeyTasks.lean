import Cmk.Keys.Regions
import Cmk.Sample

/-!
# Cmk.Jobs.KeyTasks

`KeyTaskInfoResolver` of `internal/event-processor/resolvers.go`: the tasks of a job that concerns a
key. To enable or disable a key one task goes to every configured region with a connected system; any
other task goes to all configured targets.

* `getRegionsByKeyID` — the regions, collected over the pages of a listing.
* `mem_regions`, `nodup_regions` — what is collected.
* `key_tasks_exact` — the tasks of every job.
-/

namespace Cmk

open Tx List Repo

/-- `proto.TaskType`, as far as it concerns keys. -/
inductive KeyTaskType where
  | keyEnable | keyDisable | keyDetach | keyDelete
  deriving DecidableEq, Repr

/-- The `switch` of `Resolve`. -/
def keyTaskType (jobType : String) : Except Exn KeyTaskType :=
  if jobType = "KEY_ENABLE" then .ok .keyEnable
  else if jobType = "KEY_DISABLE" then .ok .keyDisable
  else if jobType = "KEY_DETACH" then .ok .keyDetach
  else if jobType = "KEY_DELETE" then .ok .keyDelete
  else .error (.err (.wrapf (.sentinel .errInvalidJobType) jobType))

structure KeyTaskData where
  taskType : KeyTaskType
  keyID : UUID
  tenantID : String
  cmkRegion : String
  deriving DecidableEq, Repr

/-- `orbital.TaskInfo`. -/
structure TaskInfo where
  target : String
  data : List UInt8
  type : KeyTaskType
  deriving DecidableEq, Repr

structure KeyTaskInfoResolver where
  repo : Repo
  targets : List String
  /-- The targets are the keys of a map. -/
  targets_nodup : targets.Nodup
  /-- `cfg.Landscape.Region`. -/
  region : String
  /-- `proto.Marshal`. -/
  marshal : KeyTaskData → Except Err (List UInt8)

namespace KeyTaskInfoResolver

variable (r : KeyTaskInfoResolver) (ctx : Ctx)

/-- A connected system adds its region, unless it is not configured. -/
def addRegion (regions : List String) (system : System) : List String :=
  if system.status = .connected ∧ system.region ∈ r.targets then regions.insert system.region
  else regions

def getRegionsByKeyID (keyID : UUID) : Q (List String) := do
  let key ← (r.repo.firstKey ctx keyID).mapError (.errorf "failed to get key by ID")
  let systems ← (r.repo.listSystemsOfKeyConfiguration ctx key.keyConfigurationID).mapError
    (.errorf "failed to get connected regions for key ID")
  return systems.foldl r.addRegion []

def taskInfo (data : KeyTaskData) (target : String) : Except Exn TaskInfo :=
  match r.marshal data with
  | .error e => .error (.err (.errorf "failed to marshal task data" e))
  | .ok bytes => .ok ⟨target, bytes, data.taskType⟩

/-- Where the task goes to. -/
def targetsOf (taskType : KeyTaskType) (keyID : UUID) : Q (List String) :=
  if taskType = .keyEnable ∨ taskType = .keyDisable then do
    let regions ← r.getRegionsByKeyID ctx keyID
    if regions = [] then throw (.of .errNoConnectedRegionsForKey)
    return regions
  else pure r.targets

def getTaskInfo (taskType : KeyTaskType) (data : KeyActionJobData) : Q (List TaskInfo) := do
  let ctx := { ctx with tenant := data.tenantID }
  let tenant ← r.repo.first ctx (·.tenants.get? data.tenantID)
  let targets ← r.targetsOf ctx taskType data.keyID
  (targets.mapM (r.taskInfo ⟨taskType, data.keyID, tenant.id, r.region⟩) : Except Exn _)

def resolve (jobType : String) (data : KeyActionJobData) : Q (List TaskInfo) := do
  let taskType ← keyTaskType jobType
  (r.getTaskInfo ctx taskType data).mapError (.errorf "failed to resolve task info")

variable {r ctx}

theorem mem_regions {regions : List String} {systems : List System} {region : String} :
    region ∈ systems.foldl r.addRegion regions ↔
      region ∈ regions ∨
        region ∈ r.targets ∧ ∃ sys ∈ systems, sys.status = .connected ∧ sys.region = region := by
  induction systems generalizing regions with
  | nil => simp
  | cons sys systems ih =>
    rw [foldl_cons, ih]
    unfold addRegion
    split
    · rename_i h
      simp only [mem_insert_iff, exists_mem_cons_iff]
      constructor
      · rintro ((rfl | hr) | ⟨ht, hs⟩)
        · exact .inr ⟨h.2, .inl ⟨h.1, rfl⟩⟩
        · exact .inl hr
        · exact .inr ⟨ht, .inr hs⟩
      · rintro (hr | ⟨ht, ⟨-, rfl⟩ | hs⟩)
        · exact .inl (.inr hr)
        · exact .inl (.inl rfl)
        · exact .inr ⟨ht, hs⟩
    · rename_i h
      simp only [exists_mem_cons_iff]
      constructor
      · rintro (hr | ⟨ht, hs⟩)
        · exact .inl hr
        · exact .inr ⟨ht, .inr hs⟩
      · rintro (hr | ⟨ht, ⟨hc, rfl⟩ | hs⟩)
        · exact .inl hr
        · exact absurd ⟨hc, ht⟩ h
        · exact .inr ⟨ht, hs⟩

theorem nodup_regions {regions : List String} (h : regions.Nodup) (systems : List System) :
    (systems.foldl r.addRegion regions).Nodup := by
  induction systems generalizing regions with
  | nil => exact h
  | cons sys systems ih =>
    refine ih ?_
    unfold addRegion
    split
    · exact h.insert
    · exact h

variable (r)

/-- The region is configured, and a system of the key's configuration is connected there. -/
def ConnectedRegion (d : Db) (key : Key) (region : String) : Prop :=
  region ∈ r.targets ∧ ∃ sys ∈ d.systems.rows, sys.keyConfigurationID = some key.keyConfigurationID ∧
    sys.status = .connected ∧ sys.region = region

/-- There is exactly one task for each wanted target, and no other. -/
structure Serves (type : KeyTaskType) (data : KeyActionJobData) (wanted : String → Prop)
    (tasks : List TaskInfo) : Prop where
  once : (tasks.map (·.target)).Nodup
  wanted : ∀ target, target ∈ tasks.map (·.target) ↔ wanted target
  content : ∀ t ∈ tasks, t.type = type ∧
    r.marshal ⟨type, data.keyID, data.tenantID, r.region⟩ = .ok t.data

variable {r} {d : Db} {n : Nat} {data : KeyActionJobData} {tenant : Tenant} {key : Key}

theorem eval_getRegionsByKeyID (hfault : ∀ n, r.repo.fault n = none) (hσ : r.repo.OneOrder)
    (ht : ctx.tenant ≠ "") {keyID : UUID} (hkey : d.keys.get? keyID = some key) :
    ∃ regions, (r.getRegionsByKeyID ctx keyID).eval d n = (.ok regions, n + 2) ∧
      regions.Nodup ∧ ∀ region, region ∈ regions ↔ r.ConnectedRegion d key region := by
  let systems := d.systems.rows.filter (·.keyConfigurationID = some key.keyConfigurationID)
  refine ⟨(shuffle systems (r.repo.order 0 _)).foldl r.addRegion [], ?_, nodup_regions .nil _, ?_⟩
  · rw [getRegionsByKeyID, eval_bind, eval_mapError, firstKey,
      eval_first_found ht (hfault n) hkey]
    dsimp only [Except.mapError]
    rw [eval_bind, eval_mapError, listSystemsOfKeyConfiguration,
      eval_listInBatches ht (hfault _) hσ]
    rfl
  · intro region
    have hmem : ∀ sys, sys ∈ shuffle systems (r.repo.order 0 _) ↔
        sys ∈ d.systems.rows ∧ sys.keyConfigurationID = some key.keyConfigurationID := fun sys => by
      rw [(shuffle_perm _ _).mem_iff, mem_filter, decide_eq_true_eq]
    simp only [mem_regions, hmem, ConnectedRegion, not_mem_nil, false_or, and_assoc]

theorem eval_getTaskInfo_found (hfault : ∀ n, r.repo.fault n = none) (ht : data.tenantID ≠ "")
    (htenant : d.tenants.get? data.tenantID = some tenant) (type : KeyTaskType) :
    (r.getTaskInfo ctx type data).eval d n =
      (r.targetsOf { ctx with tenant := data.tenantID } type data.keyID >>= fun targets =>
        liftM (targets.mapM (r.taskInfo ⟨type, data.keyID, tenant.id, r.region⟩))).eval d (n + 1) := by
  have hfirst : (r.repo.first { ctx with tenant := data.tenantID }
      (·.tenants.get? data.tenantID)).eval d n = (.ok tenant, n + 1) :=
    eval_first_found ht (hfault n) htenant
  rw [getTaskInfo, eval_bind, hfirst]

theorem eval_getTaskInfo (hfault : ∀ n, r.repo.fault n = none)
    (hmarshal : ∀ data, ∃ bytes, r.marshal data = .ok bytes) (ht : data.tenantID ≠ "")
    (htenant : d.tenants.get? data.tenantID = some tenant) {type : KeyTaskType}
    {targets : List String} {k : Nat} {wanted : String → Prop}
    (htargets : (r.targetsOf { ctx with tenant := data.tenantID } type data.keyID).eval d (n + 1) =
      (.ok targets, k))
    (hnodup : targets.Nodup) (hwanted : ∀ target, target ∈ targets ↔ wanted target) :
    ∃ tasks, ((r.getTaskInfo ctx type data).eval d n).1 = .ok tasks ∧
      r.Serves type data wanted tasks := by
  obtain ⟨bytes, hbytes⟩ := hmarshal ⟨type, data.keyID, data.tenantID, r.region⟩
  have hid : tenant.id = data.tenantID := (Table.get?_eq_some.1 htenant).2
  refine ⟨targets.map fun target => ⟨target, bytes, type⟩, ?_, ⟨?_, ?_, ?_⟩⟩
  · have htasks : targets.mapM (r.taskInfo ⟨type, data.keyID, tenant.id, r.region⟩) =
        .ok (targets.map fun target => ⟨target, bytes, type⟩) := by
      have hone : r.taskInfo ⟨type, data.keyID, tenant.id, r.region⟩ =
          fun target => pure ⟨target, bytes, type⟩ := by
        funext target
        rw [taskInfo, hid, hbytes]
        rfl
      rw [hone]
      exact mapM_pure
    rw [eval_getTaskInfo_found hfault ht htenant, eval_bind, htargets]
    dsimp only
    rw [htasks]
    rfl
  · simpa [map_map, Function.comp_def] using hnodup
  · simpa [map_map, Function.comp_def] using hwanted
  · intro t htask
    obtain ⟨target, -, rfl⟩ := mem_map.1 htask
    exact ⟨rfl, hbytes⟩

/-- For every tenant and key: a job that enables or disables the key has one task for each configured
region with a connected system, and fails exactly if there is none; a job that detaches it has one
for each target. -/
theorem key_tasks_exact (hfault : ∀ n, r.repo.fault n = none) (hσ : r.repo.OneOrder)
    (hmarshal : ∀ data, ∃ bytes, r.marshal data = .ok bytes) (ctx : Ctx) (d : Db) (n : Nat)
    (ht : data.tenantID ≠ "") (htenant : d.tenants.get? data.tenantID = some tenant)
    (hkey : d.keys.get? data.keyID = some key) :
    (∀ jobType type, (jobType, type) ∈ [("KEY_ENABLE", .keyEnable), ("KEY_DISABLE", .keyDisable)] →
      let res := ((r.resolve ctx jobType data).eval d n).1
      ((∃ region, r.ConnectedRegion d key region) →
        ∃ tasks, res = .ok tasks ∧ r.Serves type data (r.ConnectedRegion d key) tasks) ∧
      ((∃ e, res = .error e ∧ e.is .errNoConnectedRegionsForKey = true) ↔
        ¬ ∃ region, r.ConnectedRegion d key region)) ∧
      ∃ tasks, ((r.resolve ctx "KEY_DETACH" data).eval d n).1 = .ok tasks ∧
        r.Serves .keyDetach data (· ∈ r.targets) tasks := by
  -- the job type only selects the task type
  have hresolve : ∀ jobType type, keyTaskType jobType = .ok type →
      ((r.resolve ctx jobType data).eval d n).1 =
        ((r.getTaskInfo ctx type data).eval d n).1.mapError
          (.errorf "failed to resolve task info") := by
    intro jobType type htype
    rw [resolve, htype, Query.eval_bind, Query.eval_except]
    dsimp only
    rw [Query.eval_mapError]
  constructor
  · intro jobType type hjob
    have htype : keyTaskType jobType = .ok type ∧ (type = .keyEnable ∨ type = .keyDisable) := by
      simp only [List.mem_cons, List.not_mem_nil, or_false, Prod.mk.injEq] at hjob
      rcases hjob with ⟨rfl, rfl⟩ | ⟨rfl, rfl⟩
      · exact ⟨rfl, .inl rfl⟩
      · exact ⟨rfl, .inr rfl⟩
    obtain ⟨regions, heval, hnodup, hmem⟩ := @eval_getRegionsByKeyID r
      { ctx with tenant := data.tenantID } d (n + 1) key hfault hσ ht _ hkey
    simp only [hresolve jobType type htype.1]
    have htargets : (r.targetsOf { ctx with tenant := data.tenantID } type data.keyID).eval d (n + 1) =
        if regions = [] then (.error (.of .errNoConnectedRegionsForKey), n + 3)
        else (.ok regions, n + 3) := by
      rw [targetsOf, if_pos htype.2, Query.eval_bind, heval]
      dsimp only
      split
      · rfl
      · rfl
    by_cases hnone : regions = []
    · have hno : ¬ ∃ region, r.ConnectedRegion d key region := by
        rintro ⟨region, h⟩
        simpa [hnone] using (hmem region).2 h
      rw [if_pos hnone] at htargets
      rw [eval_getTaskInfo_found hfault ht htenant, Query.eval_bind, htargets]
      exact ⟨fun h => absurd h hno, fun _ => hno, fun _ => ⟨_, rfl, rfl⟩⟩
    · rw [if_neg hnone] at htargets
      obtain ⟨tasks, htasks, hserves⟩ := eval_getTaskInfo hfault hmarshal ht htenant htargets hnodup hmem
      obtain ⟨region, hregion⟩ := List.exists_mem_of_ne_nil regions hnone
      rw [htasks]
      refine ⟨fun _ => ⟨tasks, rfl, hserves⟩, ?_, fun hno => ?_⟩
      · rintro ⟨e, he, -⟩
        cases he
      · exact absurd ⟨region, (hmem region).1 hregion⟩ hno
  · have htargets : (r.targetsOf { ctx with tenant := data.tenantID } .keyDetach data.keyID).eval d
        (n + 1) = (.ok r.targets, n + 1) := rfl
    obtain ⟨tasks, htasks, hserves⟩ := eval_getTaskInfo hfault hmarshal ht htenant htargets
      r.targets_nodup fun _ => Iff.rfl
    rw [hresolve "KEY_DETACH" .keyDetach rfl, htasks]
    exact ⟨tasks, rfl, hserves⟩

end KeyTaskInfoResolver

namespace Sample

def keyTaskResolver : KeyTaskInfoResolver :=
  ⟨repo, ["r", "q"], by decide, "eu", fun _ => .ok []⟩

/-- The system of the tenant is connected in the region `r`, and a task goes there only. -/
def connectedDb : Db :=
  { db with
    systems := ⟨[{ system with keyConfigurationID := some 30, status := .connected }],
      List.nodup_singleton _⟩ }

theorem key_tasks_of_connected :
    ∃ tasks, ((keyTaskResolver.resolve worker "KEY_ENABLE" ⟨"t", 20⟩).eval connectedDb 0).1 = .ok tasks ∧
      keyTaskResolver.Serves .keyEnable ⟨"t", 20⟩
        (keyTaskResolver.ConnectedRegion connectedDb (enabledKey 20 30 "k")) tasks := by
  have hkey : connectedDb.keys.get? 20 = some (enabledKey 20 30 "k") := rfl
  have htenant : connectedDb.tenants.get? "t" = some ⟨"t", .live⟩ := rfl
  exact ((@KeyTaskInfoResolver.key_tasks_exact keyTaskResolver ⟨"t", 20⟩ _ _ (fun _ => rfl)
    (fun _ => rfl) (fun _ => ⟨[], rfl⟩) worker connectedDb 0 (by decide) htenant hkey).1 _ _
    (List.mem_cons_self ..)).1 ⟨"r", by decide, _, List.mem_cons_self .., rfl, rfl, rfl⟩

end Sample

end Cmk
