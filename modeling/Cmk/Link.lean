import Cmk.Calls

/-!
# Cmk.Link

Who may link a system. `LinkSystemAction` calls `HasSystemAccess`, which looks at the key
configuration the system has, not at the one it is to get: a system without one is open to everyone,
and with a nil ID the check is left out and `First` takes the first key configuration there is.

* `Db.Manages`                 — one of the caller's IAM groups is the admin group.
* `User.hasSystemAccess_ok`    — what a passed check says about the system's own key configuration.
* `linkSystemAction_access_iff` — a link that succeeds had access to its target exactly if the system
  was linked to the target already, or the caller manages it anyway.
-/

namespace Cmk

open Tx Prog

def Ctx.iamGroups (ctx : Ctx) : List String :=
  match ctx.businessUserData with
  | some data => data.groups
  | none => []

/-- One of the caller's IAM groups is the admin group of the key configuration. -/
def Db.Manages (d : Db) (ctx : Ctx) (keyConfigID : UUID) : Prop :=
  ∃ kc ∈ d.keyConfigurations.rows, kc.id = keyConfigID ∧
    ∃ g ∈ d.groups.rows, g.id = kc.adminGroupID ∧ g.iamIdentifier ∈ ctx.iamGroups

instance (d : Db) (ctx : Ctx) (keyConfigID : UUID) : Decidable (d.Manages ctx keyConfigID) := by
  unfold Db.Manages; infer_instance

namespace User

variable {u : User} {ctx : Ctx} {d : Db} {n m : Nat} {keyConfigID : UUID} {g : Group}
  {action : APIAction} {resource : APIResourceType}

/-- The count of `HasKeyConfigAccess` is positive only for a managed key configuration. -/
theorem hasKeyConfigAccessVia_ok (hread : action ≠ .read) (hcreate : action ≠ .create)
    (h : (u.hasKeyConfigAccessVia ctx keyConfigID g action resource).eval d n = (.ok true, m)) :
    d.Manages ctx keyConfigID := by
  simp only [hasKeyConfigAccessVia, Query.throw_bind, hread, hcreate, decide_false, Bool.and_false,
    Bool.false_and, Bool.false_eq_true, if_false] at h
  obtain ⟨groups, n1, hgroups, h⟩ := eval_bind_ok h
  obtain ⟨role, n2, -, h⟩ := eval_bind_ok h
  split at h
  · cases h
  · obtain ⟨authCtx, n3, -, h⟩ := eval_bind_ok h
    obtain ⟨count, n4, hcount, h⟩ := eval_bind_ok h
    simp only [Query.eval_pure, Prod.mk.injEq, Except.ok.injEq, decide_eq_true_eq] at h
    have heq := (Repo.eval_count_ok (eval_mapError_ok hcount)).1
    rw [heq, List.length_pos_iff_exists_mem] at h
    obtain ⟨⟨kc, hkc⟩, -⟩ := h
    rw [List.mem_filter] at hkc
    simp only [decide_eq_true_eq, List.any_eq_true] at hkc
    obtain ⟨hmem, hid, g, hg, hadmin, hin⟩ := hkc
    have hgroups : groups = ctx.iamGroups := by
      rw [Query.eval_except, Ctx.extractBusinessUserDataGroups, Ctx.extractBusinessUserData] at hgroups
      unfold Ctx.iamGroups
      cases hdata : ctx.businessUserData with
      | none => rw [hdata] at hgroups; cases hgroups
      | some data => rw [hdata] at hgroups; cases hgroups; rfl
    exact ⟨kc, hmem, hid, g, hg, hadmin, hgroups ▸ hin⟩

theorem checkAccess_ok (hread : action ≠ .read) (hcreate : action ≠ .create) {b : Bool}
    (h : (u.checkAccess ctx keyConfigID g action resource).eval d n = (.ok b, m)) :
    d.Manages ctx keyConfigID := by
  simp only [checkAccess] at h
  obtain ⟨filtered, n1, -, h⟩ := eval_bind_ok h
  obtain ⟨authorized, n2, ha, h⟩ := eval_bind_ok h
  cases authorized with
  | false => cases h
  | true => exact hasKeyConfigAccessVia_ok hread hcreate (eval_mapError_ok ha)

/-- Unless an internal role lets the caller pass, access to a linked system is access to its key
configuration. -/
theorem hasSystemAccess_ok {sys : System} {b : Bool} (hread : action ≠ .read)
    (hcreate : action ≠ .create)
    (hu : ensureBusinessUserOpsAllowed ctx [.taskWorkflowApprovers, .tenantProvisioning] ≠ .ok true)
    (hkc : sys.keyConfigurationID = some keyConfigID)
    (h : (u.hasSystemAccess ctx action sys).eval d n = (.ok b, m)) : d.Manages ctx keyConfigID := by
  simp only [hasSystemAccess, hkc] at h
  obtain ⟨isBypass, n1, hb, h⟩ := eval_bind_ok h
  cases isBypass with
  | true => exact absurd (Prod.mk.inj hb).1 hu
  | false => exact checkAccess_ok hread hcreate h

end User

/-- The function of a transaction that succeeds has succeeded, in a transaction of its own or in the
one that is open already. -/
theorem Repo.transaction_ok {α : Type} {r : Repo} {ctx : Ctx} {txFunc : Ctx → M α} {a : α}
    {s s' : State} (h : (r.transaction ctx txFunc).run ctx.inTx s = (.ok a, s')) :
    ∃ s1, (txFunc ctx.tx).run true s = (.ok a, s1) := by
  cases hin : ctx.inTx with
  | true =>
    rw [transaction_inTx hin, hin] at h
    have htx : ctx.tx = ctx := by rw [Ctx.tx, ← hin]
    exact ⟨s', htx.symm ▸ h⟩
  | false =>
    rw [transaction_outermost hin, hin] at h
    obtain ⟨s1, hb, -, -⟩ := run_transact_ok (run_mapError_ok h)
    exact ⟨s1, hb⟩

namespace SystemManager

variable {m : SystemManager} {ctx : Ctx} {systemID keyConfigID : UUID} {s s' : State}

theorem linkSystemAction_checked
    (h : (m.linkSystemAction ctx systemID keyConfigID).run ctx.inTx s = (.ok (), s')) :
    ∃ sys kc, m.LinkChecked ctx.tx systemID keyConfigID s.db sys kc := by
  obtain ⟨s1, hbody⟩ := Repo.transaction_ok (run_mapError_ok h)
  obtain ⟨⟨sys, kc⟩, n, hchecks, -⟩ := run_query_bind_ok hbody
  exact ⟨sys, kc, m.linkSystemChecks_ok hchecks⟩

end SystemManager

/-- The caller of a link that succeeds manages the target `kc`, and the key configuration the system
was linked to, exactly if the system was linked to the target already (and was checked for that), or
the caller manages the target anyway (and for a nil ID, which is not checked, also the old one). -/
theorem linkSystemAction_access_iff (m : SystemManager) (ctx : Ctx) (systemID keyConfigID : UUID)
    (s s' : St Db World)
    (hu : ensureBusinessUserOpsAllowed ctx [.taskWorkflowApprovers, .tenantProvisioning] ≠ .ok true)
    (hrun : (m.linkSystemAction ctx systemID keyConfigID).run ctx.inTx s = (.ok (), s')) :
    ∃ sys kc, s.db.systems.get? systemID = some sys ∧
      Repo.byID s.db.keyConfigurations keyConfigID = some kc ∧
      ((s.db.Manages ctx kc.id ∧
          ∀ d, sys.keyConfigurationID = some d → d ≠ kc.id → s.db.Manages ctx d) ↔
        (keyConfigID ≠ UUID.nil ∧ sys.keyConfigurationID = some kc.id) ∨
          (s.db.Manages ctx kc.id ∧
            (keyConfigID = UUID.nil → ∀ d, sys.keyConfigurationID = some d → s.db.Manages ctx d))) := by
  obtain ⟨sys, kc, ⟨row, props, hrow, rfl⟩, haccess, hkc, -, -⟩ :=
    SystemManager.linkSystemAction_checked hrun
  have hold : keyConfigID ≠ UUID.nil → ∀ d, row.keyConfigurationID = some d →
      s.db.Manages ctx d := by
    intro hne d hd
    obtain ⟨n, b, k, heval⟩ := haccess hne
    have hread : APIAction.systemModifyLink ≠ .read := by decide
    have hcreate : APIAction.systemModifyLink ≠ .create := by decide
    have hmanages : s.db.Manages ctx.tx d := User.hasSystemAccess_ok hread hcreate hu hd heval
    exact hmanages
  refine ⟨row, kc, hrow, hkc, ⟨fun ⟨hnew, hd⟩ => .inr ⟨hnew, fun _ d hlinked => ?_⟩, ?_⟩⟩
  · by_cases hdk : d = kc.id
    · exact hdk ▸ hnew
    · exact hd d hlinked hdk
  · rintro (⟨hne, hlinked⟩ | ⟨hnew, hnil⟩)
    · exact ⟨hold hne _ hlinked, fun d hd _ => hold hne d hd⟩
    · refine ⟨hnew, fun d hd _ => ?_⟩
      by_cases hne : keyConfigID = UUID.nil
      · exact hnil hne d hd
      · exact hold hne d hd

namespace Sample

def outsider : Ctx := ⟨"t", some .businessUser, some ⟨"o", ["KMS_o"], []⟩, none, false⟩

def linkedBy (ctx : Ctx) : Except Exn Unit × St Db World :=
  ((systemManager fun _ => .ok "CREATED").linkSystemAction ctx 40 30).run false start

end Sample

open Sample in
/-- The link of an admin is a case of the theorem. -/
theorem linkSystemAction_access_iff_admin : (linkedBy (as "a")).1 = .ok () ∧
    start.db.Manages (as "a") 30 ∧
      ∀ d, system.keyConfigurationID = some d → d ≠ 30 → start.db.Manages (as "a") d := by
  have hrun : (linkedBy (as "a")).1 = .ok () := by decide +kernel
  obtain ⟨sys, kc, hsys, hkc, hiff⟩ := linkSystemAction_access_iff
    (systemManager fun _ => .ok "CREATED") (as "a") 40 30 start (linkedBy (as "a")).2
    (by decide +kernel) (Prod.ext hrun rfl)
  have hid : kc.id = 30 := Table.key_of_get? (t := start.db.keyConfigurations) hkc
  have hrow : start.db.systems.get? 40 = some system := by decide
  rw [hrow] at hsys
  cases hsys
  rw [hid] at hiff
  exact ⟨hrun, hiff.2 (.inr ⟨by decide, by decide⟩)⟩

open Sample in
/-- Someone who is in no group of the tenant links the system to a key configuration. -/
theorem outsider_links : (linkedBy outsider).1 = .ok () ∧
    (linkedBy outsider).2.db.connection 40 = some (.processing, none, some 30) ∧
    (linkedBy outsider).2.ext.jobs.map (fun job => (job.type, job.data.keyIDTo)) =
      [(.systemLink, some 20)] ∧
    ¬ start.db.Manages outsider 30 := by
  decide +kernel

end Cmk
