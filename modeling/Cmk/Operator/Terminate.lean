import Cmk.Operator.Repeat
import Cmk.Tenant.Offboard

/-!
# Cmk.Operator.Terminate

`handleTerminateTenant`: the handler that offboards a tenant, deletes it and completes the task.

* `handleTerminateTenant_gone` — without a row of the tenant the first listing of `OffboardTenant` is
  refused, and the handler asks to be invoked again.
* `terminate_repeats_iff`      — so the task of a tenant that is deleted only completes if orbital does
  not invoke the handler again.
-/

namespace Cmk

open Tx Repo

/-- `orbital.HandlerRequest`; `taskData` is what `proto.Unmarshal` makes of the task data. -/
structure HandlerRequest where
  taskCreatedAt : Int
  taskData : Except Err TenantProto

/-- `RemoveOIDCMappingResponse`, with the zero values for a nil response, and the error of the call. -/
structure OIDCReply where
  err : Option (GrpcCode × Err)
  success : Bool
  message : String

namespace Connections

variable (c : Connections)

def deleteTenantRow (tenantID : String) : OpM Unit :=
  .exec fun n d =>
    match c.fault n with
    | some e => (.error (.err (.wrap (.sentinel .errDeleteResource) e)), d)
    | none => (.ok (), { d with tenants := d.tenants.delete tenantID })

end Connections

structure TenantTerminator where
  db : Connections
  /-- The tenant manager on the connections of a call. -/
  tm : Repo → TenantManager
  tm_repo : ∀ r, (tm r).repo = r
  /-- `RemoveOIDCMapping` of the session manager. -/
  sessionManager : Nat → String → OIDCReply
  /-- A failing `DROP SCHEMA`. -/
  dropSchema : Nat → Option Err
  terminationTimeout : Int
  /-- `time.Now`. -/
  now : Nat → Int

namespace TenantTerminator

variable (o : TenantTerminator)

/-- `ResourceRepository.OffboardTenant`. It drops the schema that is called like the tenant ID. -/
def dropSchemaForTenant (tenantID : String) : OpM Unit :=
  .call fun n _ x =>
    match o.dropSchema n with
    | some e => (.error (.err e), x)
    | none => (.ok (), { x with schemas := Function.update x.schemas tenantID none })

/-- `TenantManager.DeleteTenant`. A failing audit log is only logged. -/
def deleteTenant (tenantID : String) : OpM Unit :=
  o.db.transaction do
    let tenantID ← ((tenantContext tenantID).extractTenantID : Except Exn String)
    o.db.deleteTenantRow tenantID
    o.dropSchemaForTenant tenantID

def terminateTenant (tenantID : String) : OpM OffboardingStatus := do
  let (status, _) ← o.db.inSchema tenantID fun r ctx => (o.tm r).offboardTenant ctx
  if status ≠ .success then return status
  o.deleteTenant tenantID
  return status

/-- `removeOIDCMapping`; the response if an error has occurred and is handled. -/
def removeOIDCMapping (resp : HandlerResponse) (tenantID : String) : OpM (Option HandlerResponse) := do
  let reply ← (.call fun n _ x => (.ok (o.sessionManager n tenantID), x) : OpM OIDCReply)
  let failed := .wrapf (.sentinel .errFailedResponse)
    ("session manager could not remove OIDC mapping: " ++ reply.message)
  match reply.err.filter (·.1 ≠ .internal) with
  | some (_, e) =>
    some <$> liftM (resp.setErrorStateAndContinue (some e) "failed to remove OIDC mapping")
  | none =>
    if reply.success then return none
    some <$> liftM (resp.setErrorStateAndFail (some failed) "failed to remove OIDC mapping")

def terminationResponse (resp : HandlerResponse) :
    Except Err OffboardingStatus → Except Exn HandlerResponse
  | .error e => resp.setErrorStateAndContinue (some e) "waiting for tenant offboarding to complete"
  | .ok .failed =>
    resp.setErrorStateAndFail (some (.sentinel .errTenantOffboarding)) "tenant offboarding failed"
  | .ok .continueAndWait =>
    .ok ((resp.useRawWorkingState "waiting for tenant offboarding to complete").answer
      (.continueAndWaitFor HandlerResponse.reconcileAfterSecProcessing))
  | .ok .success => .ok (resp.answer .complete)
  | .ok .goToNextStep =>
    resp.setErrorStateAndFail (some (.sentinel .errTenantOffboarding))
      "unexpected error: unknown offboarding status"

def handleTerminateTenant (req : HandlerRequest) (resp : HandlerResponse) : OpM HandlerResponse := do
  let now ← (Query.ask fun n _ => .ok (o.now n) : Query Catalogue Exn Int)
  if now - req.taskCreatedAt > o.terminationTimeout then
    liftM (resp.setErrorStateAndFail (some (.sentinel .errTerminationTimeout))
      "tenant termination timed out")
  else
    match req.taskData with
    | .error e =>
      liftM (resp.setErrorStateAndFail (some (.wrap (.sentinel .errInvalidData) e)) "invalid task data")
    | .ok proto =>
      if proto.id = "" then
        liftM (resp.setErrorStateAndFail (some (.sentinel .errInvalidTenantID)) "invalid task data")
      else
        match ← o.removeOIDCMapping resp proto.id with
        | some resp => return resp
        | none => liftM (terminationResponse resp (← tryErr (o.terminateTenant proto.id)))

end TenantTerminator

theorem TenantManager.offboardTenant_refused {m : TenantManager} {ctx : Ctx} {e : Err} {i : Bool}
    {s : State} (htenant : ctx.tenant ≠ "") (hfault : ∀ n, m.repo.fault n = some e) :
    ∃ e', ((m.offboardTenant ctx).run i s).1 = .error (.err e') := by
  have hwp : (m.offboardTenant ctx).wp i (fun r _ => ∃ e', r = .error (.err e')) s := by
    refine wp_bind (wp_query_bind (fun err n h => ?_) fun a n h => ?_)
    all_goals
      rw [listPage, query, Query.eval_ask, Ctx.extractTenantID, if_neg htenant, hfault] at h
      cases h
    unfold outside
    cases ctx.inTx with
    | true => exact ⟨_, rfl⟩
    | false => exact ⟨_, rfl⟩
  exact hwp

namespace TenantTerminator

open TenantOperator (Incomplete Completes incomplete_continue incomplete_fail)

variable {o : TenantTerminator} {req : HandlerRequest} {resp : HandlerResponse} {proto : TenantProto}
  {tenantID : String} {s : St Catalogue Cluster}

def TenantExists (tenantID : String) (s : St Catalogue Cluster) : Prop :=
  s.db.tenants.get? tenantID ≠ none

instance : Decidable (TenantExists tenantID s) := inferInstanceAs (Decidable (_ ≠ _))

theorem terminateTenant_gone (htenant : tenantID ≠ "") (hgone : ¬ TenantExists tenantID s) :
    (o.terminateTenant tenantID).wp false (fun r _ => ∃ e, r = .error (.err e)) s := by
  have hrow : s.db.tenants.get? tenantID = none := not_not.1 hgone
  have hrefused : ∀ r st, ∃ e,
      (((o.tm (refusing r (.sentinel .errTenantNotFound) rfl)).offboardTenant
        (tenantContext tenantID)).run false st).1 = .error (.err e) := fun r st =>
    TenantManager.offboardTenant_refused htenant fun n => by
      rw [o.tm_repo]
      rfl
  refine wp_bind_run (fun err s1 h => ?_) fun a s1 h => ?_
  all_goals
    have hreply := congrArg Prod.fst h
    simp only [Connections.inSchema, run_call, Connections.connect, hrow] at hreply
    obtain ⟨e, he⟩ := hrefused (o.db.repo s.clock) ⟨.empty, s.ext.world, 0, []⟩
    cases hreply.symm.trans he
  exact ⟨e, rfl⟩

/-- The mapping is removed, or the response is one more answer that is not Complete. The catalogue is
as it was. -/
theorem wp_removeOIDCMapping {P : Except Exn (Option HandlerResponse) → St Catalogue Cluster → Prop}
    (hremoved : ∀ s', s'.db = s.db → P (.ok none) s')
    (hfailed : ∀ resp' s', Incomplete resp (.ok resp') → P (.ok (some resp')) s') :
    (o.removeOIDCMapping resp tenantID).wp false P s := by
  refine wp_bind_run (fun e s1 h => ?_) fun reply s1 h => ?_
  · cases h
  cases h
  have hanswered : ∀ r s', Incomplete resp r →
      (some <$> (liftM r : OpM HandlerResponse)).wp false P s' := by
    rintro r s' ⟨resp', a, rfl, h⟩
    exact hfailed resp' s' ⟨resp', a, rfl, h⟩
  dsimp only
  split
  · exact hanswered _ _ (incomplete_continue _ _)
  · split
    · exact hremoved _ rfl
    · exact hanswered _ _ (incomplete_fail _ _)

theorem handleTerminateTenant_gone (hdata : req.taskData = .ok proto)
    (hgone : ¬ TenantExists proto.id s) :
    (o.handleTerminateTenant req resp).wp false (fun r _ => Incomplete resp r) s := by
  refine wp_query_bind (fun e n h => by cases h) fun now n h => ?_
  split
  · exact incomplete_fail _ _
  simp only [hdata]
  split
  · exact incomplete_fail _ _
  rename_i htenant
  refine wp_bind (wp_removeOIDCMapping (fun s1 hdb => ?_) fun resp' s1 h => h)
  have hgone1 : ¬ TenantExists proto.id s1 := by
    unfold TenantExists at hgone ⊢
    rwa [hdb]
  unfold tryErr
  simp only [Prog.bind_assoc]
  refine wp_bind (wp_attempt (wp_mono (terminateTenant_gone htenant hgone1) ?_))
  rintro r s2 ⟨e, rfl⟩
  exact incomplete_continue _ _

/-- An invocation of the handler, with the response it was given. -/
structure Invocation where
  resp : HandlerResponse
  before : St Catalogue Cluster
  reply : Except Exn HandlerResponse
  after : St Catalogue Cluster

def Invocation.Deletes (tenantID : String) (t : Invocation) : Prop :=
  TenantExists tenantID t.before ∧ ¬ TenantExists tenantID t.after

instance (tenantID : String) (t : Invocation) : Decidable (t.Deletes tenantID) :=
  inferInstanceAs (Decidable (_ ∧ _))

/-- Invocations for a task, in their order. In between the rest of the platform works, but it neither
creates nor deletes the tenant. -/
structure Invocations (o : TenantTerminator) (req : HandlerRequest) (tenantID : String)
    (trace : List Invocation) : Prop where
  runs : ∀ t ∈ trace, (o.handleTerminateTenant req t.resp).run false t.before = (t.reply, t.after)
  between : trace.IsChain fun t t' => TenantExists tenantID t'.before ↔ TenantExists tenantID t.after

theorem Invocation.gone {t : Invocation} (hdata : req.taskData = .ok proto)
    (hrun : (o.handleTerminateTenant req t.resp).run false t.before = (t.reply, t.after))
    (hgone : ¬ TenantExists proto.id t.before) : ¬ Completes t.resp t.reply := by
  have h : (o.handleTerminateTenant req t.resp).wp false (fun r _ => Incomplete t.resp r) t.before :=
    handleTerminateTenant_gone hdata hgone
  unfold Prog.wp at h
  rw [hrun] at h
  obtain ⟨resp', a, hreply, hanswers, ha⟩ := h
  rintro ⟨resp'', hreply', hanswers'⟩
  cases hreply.symm.trans hreply'
  rw [hanswers] at hanswers'
  exact ha (List.singleton_inj.1 (List.append_cancel_left hanswers'))

/-- Every invocation that follows the deletion of the tenant completes the task exactly if no
invocation is made without the tenant: there is no such invocation that completes it. -/
theorem terminate_repeats_iff (o : TenantTerminator) (req : HandlerRequest) (proto : TenantProto)
    (trace : List Invocation) (hdata : req.taskData = .ok proto)
    (h : o.Invocations req proto.id trace) :
    trace.Pairwise (fun t t' => t.Deletes proto.id → Completes t'.resp t'.reply) ↔
      trace.Pairwise (fun t t' => TenantExists proto.id t.before → TenantExists proto.id t'.before) := by
  induction trace with
  | nil => exact iff_of_true .nil .nil
  | cons t trace ih =>
    cases trace with
    | nil => exact iff_of_true (List.pairwise_singleton _ _) (List.pairwise_singleton _ _)
    | cons u trace =>
      obtain ⟨hruns, hbetween⟩ := h
      obtain ⟨htu, hbetween⟩ := List.isChain_cons_cons.1 hbetween
      have hu : ¬ TenantExists proto.id u.before → ¬ Completes u.resp u.reply :=
        Invocation.gone hdata (hruns u (.tail _ (.head _)))
      have ih := ih ⟨fun t' ht' => hruns t' (.tail _ ht'), hbetween⟩
      rw [List.pairwise_cons (l := u :: trace), List.pairwise_cons (l := u :: trace), ih]
      refine and_congr_left fun hexists => ⟨fun hcompletes t' ht' ht => ?_, fun hrow t' ht' hdel => ?_⟩
      · -- the invocation after `t` finds the tenant, or would have to complete without it
        have hnext : TenantExists proto.id u.before := by
          by_contra hgone
          exact hu hgone (hcompletes u (.head _) ⟨ht, mt htu.2 hgone⟩)
        rcases List.mem_cons.1 ht' with rfl | ht'
        · exact hnext
        · exact (List.pairwise_cons.1 hexists).1 t' ht' hnext
      · exact absurd (htu.1 (hrow u (.head _) hdel.1)) hdel.2

end TenantTerminator

namespace Sample

def tenantManagerOn (r : Repo) : TenantManager :=
  { tenantManager with
    repo := r
    sys := { tenantManager.sys with repo := r }
    key := { tenantManager.key with repo := r } }

def terminator : TenantTerminator where
  db := decliningOperator.db
  tm := tenantManagerOn
  tm_repo _ := rfl
  sessionManager _ _ := ⟨none, true, ""⟩
  dropSchema _ := none
  terminationTimeout := 10
  now n := n

def terminate : HandlerRequest := ⟨0, .ok ⟨"acme", "", "", "Acme", .live⟩⟩

/-- The tenant with one system, which is not connected, and a key. -/
def occupied : St Catalogue Cluster :=
  { provisionedCluster with
    ext := ⟨Function.update (fun _ => none) "_acme" (some start.db), start.ext⟩ }

def keysDetached (s : St Catalogue Cluster) : St Catalogue Cluster :=
  { s with ext := { s.ext with schemas := fun schema => (s.ext.schemas schema).map fun d =>
    (detachDone ⟨d, s.ext.world, 0, []⟩).db } }

def invoke (s : St Catalogue Cluster) : TenantTerminator.Invocation :=
  let r := (terminator.handleTerminateTenant terminate { workingState := some [] }).run false s
  ⟨{ workingState := some [] }, s, r.1, r.2⟩

/-- The first invocation waits for the key, the second deletes the tenant. -/
def termination : List TenantTerminator.Invocation :=
  [invoke occupied, invoke (keysDetached (invoke occupied).after)]

end Sample

theorem termination_completes :
    Sample.termination.Pairwise fun t t' =>
      t.Deletes "acme" → TenantOperator.Completes t'.resp t'.reply := by
  refine (TenantTerminator.terminate_repeats_iff Sample.terminator Sample.terminate _ _ rfl
    ⟨?_, ?_⟩).2 ?_
  · intro t ht
    rcases List.mem_pair.1 ht with rfl | rfl
    · rfl
    · rfl
  · decide +kernel
  · decide +kernel

/-- The response of the invocation that deleted the tenant is lost. The next one waits, and so does
every other. -/
theorem deleted_not_completed :
    let t := Sample.invoke (Sample.keysDetached (Sample.invoke Sample.occupied).after)
    let t' := Sample.invoke t.after
    t.Deletes "acme" ∧ t.reply.map (·.answers) = .ok [.complete] ∧
      t'.reply.map (·.answers) = .ok [.continueAndWaitFor 15] ∧
      t'.before.db.tenants.rows = t'.after.db.tenants.rows := by
  decide +kernel

end Cmk
