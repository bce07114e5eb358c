import Cmk.Sample
import Cmk.Spec.Admission

/-!
# Cmk.Tenant.WorkflowSettings

`internal/manager/tenantconfigs.go`: the workflow configuration of a tenant over any sequence of
calls. The first read stores the default of the tenant's role, with what the deployment overrides.

- `mergeWorkflowConfig`, `updateWorkflowConfig`: a partial update.
- `wp_updateWorkflowConfig`: what an update leaves in the store.
- `workflow_settings_valid`: what holds after every call of every sequence.
-/

namespace Cmk

open Tx TenantConfigManager

structure TenantWorkflowConfiguration where
  enabled : Option Bool
  minimumApprovals : Option Int
  retentionPeriodDays : Option Int
  defaultExpiryPeriodDays : Option Int
  maxExpiryPeriodDays : Option Int

/-- Merge-patch semantics. The existing configuration is never nil where this is called. -/
def mergeWorkflowConfig (existing : WorkflowConfig) :
    Option TenantWorkflowConfiguration → WorkflowConfig
  | none => existing
  | some update =>
    { enabled := update.enabled.getD existing.enabled
      minimumApprovals := update.minimumApprovals.getD existing.minimumApprovals
      retentionPeriodDays := update.retentionPeriodDays.getD existing.retentionPeriodDays
      defaultExpiryPeriodDays := update.defaultExpiryPeriodDays.getD existing.defaultExpiryPeriodDays
      maxExpiryPeriodDays := update.maxExpiryPeriodDays.getD existing.maxExpiryPeriodDays }

/-- The fields that are missing from the update have the same value. -/
structure MissingKept (update : Option TenantWorkflowConfiguration) (c c' : WorkflowConfig) : Prop where
  enabled : update.bind (·.enabled) = none → c'.enabled = c.enabled
  minimumApprovals : update.bind (·.minimumApprovals) = none →
    c'.minimumApprovals = c.minimumApprovals
  retentionPeriodDays : update.bind (·.retentionPeriodDays) = none →
    c'.retentionPeriodDays = c.retentionPeriodDays
  defaultExpiryPeriodDays : update.bind (·.defaultExpiryPeriodDays) = none →
    c'.defaultExpiryPeriodDays = c.defaultExpiryPeriodDays
  maxExpiryPeriodDays : update.bind (·.maxExpiryPeriodDays) = none →
    c'.maxExpiryPeriodDays = c.maxExpiryPeriodDays

theorem MissingKept.refl (update : Option TenantWorkflowConfiguration) (c : WorkflowConfig) :
    MissingKept update c c :=
  ⟨fun _ => rfl, fun _ => rfl, fun _ => rfl, fun _ => rfl, fun _ => rfl⟩

theorem MissingKept.merge (update : Option TenantWorkflowConfiguration) (c : WorkflowConfig) :
    MissingKept update c (mergeWorkflowConfig c update) := by
  cases update with
  | none => exact .refl _ c
  | some u => constructor <;> intro h <;> simp_all [mergeWorkflowConfig]

namespace TenantConfigManager

variable (m : TenantConfigManager) (ctx : Ctx)

/-- The first part of `UpdateWorkflowConfig`: only a test tenant may change `Enabled`. -/
def checkEnabled (existingConfig : WorkflowConfig) (update : Option TenantWorkflowConfiguration) :
    Q Unit :=
  if (update.bind (·.enabled)).any (· ≠ existingConfig.enabled) then do
    let t ← m.repo.getTenant ctx
    if t.role ≠ .test then
      throw ((Exn.of .errWorkflowEnableDisableNotAllowed).wrap .errSetWorkflowConfig)
  else pure ()

def updateWorkflowConfig (update : Option TenantWorkflowConfiguration) : M WorkflowConfig := do
  let existingConfig ← m.getWorkflowConfig ctx
  m.checkEnabled ctx existingConfig update
  m.setWorkflowConfig ctx (some (mergeWorkflowConfig existingConfig update))

variable {m ctx} {s : State} {update : Option TenantWorkflowConfiguration}

theorem checkEnabled_ok {c : WorkflowConfig} {d : Db} {n k : Nat} {t : Tenant}
    (h : (m.checkEnabled ctx c update).eval d n = (.ok (), k)) (ht : d.tenants.get? ctx.tenant = some t)
    (hrole : t.role ≠ .test) : (mergeWorkflowConfig c update).enabled = c.enabled := by
  unfold checkEnabled at h
  split at h
  · obtain ⟨t', n', ht', h⟩ := eval_bind_ok h
    rw [(getTenant_ok ht').2] at ht
    cases ht
    rw [if_pos hrole] at h
    cases h
  · rename_i hsame
    cases update with
    | none => rfl
    | some u =>
      cases hu : u.enabled with
      | none => simp [mergeWorkflowConfig, hu]
      | some b => simpa [mergeWorkflowConfig, hu] using hsame

/-- The configuration is as it was, or it is the default where nothing was stored. -/
def AtMostDefault (m : TenantConfigManager) (ctx : Ctx) (d d' : Db) : Prop :=
  d'.workflowConfig = d.workflowConfig ∨
    d.workflowConfig = none ∧ d'.workflowConfig = m.effectiveConfig ctx d

inductive Updated (m : TenantConfigManager) (ctx : Ctx) (update : Option TenantWorkflowConfiguration)
    (d d' : Db) : Except Exn WorkflowConfig → Prop where
  | refused {e : Exn} : AtMostDefault m ctx d d' → Updated m ctx update d d' (.error e)
  | merged {c : WorkflowConfig} : m.effectiveConfig ctx d = some c →
      (∀ t, d.tenants.get? ctx.tenant = some t → t.role ≠ .test →
        (mergeWorkflowConfig c update).enabled = c.enabled) →
      d'.workflowConfig = some (mergeWorkflowConfig c update) →
      Updated m ctx update d d' (.ok (mergeWorkflowConfig c update))

theorem wp_updateWorkflowConfig :
    (m.updateWorkflowConfig ctx update).wp false
      (fun r s' => Updated m ctx update s.db s'.db r) s := by
  refine wp_bind (wp_mono getWorkflowConfig_obtained fun r s1 hr => ?_)
  obtain ⟨hob, heff⟩ := hr
  have hafter : ∀ c, r = .ok c → m.effectiveConfig ctx s.db = some c ∧ s1.db.workflowConfig = some c ∧
      s1.db.tenants = s.db.tenants ∧ (s.db.workflowConfig = some c ∨ s.db.workflowConfig = none) := by
    rintro c rfl
    refine ⟨(heff c rfl).2, ?_⟩
    cases hob with
    | stored hc hd => rw [hd]; exact ⟨hc, rfl, .inl hc⟩
    | default hn _ hd => rw [hd]; exact ⟨rfl, rfl, .inr hn⟩
  cases r with
  | error e =>
    cases hob with
    | failed hd => exact .refused (.inl (by rw [hd]))
  | ok c =>
    obtain ⟨heff, hstored, htenants, hbefore⟩ := hafter c rfl
    -- whatever is refused from here on, the configuration that was read is stored
    have hleft : ∀ d' e, d'.workflowConfig = some c → Updated m ctx update s.db d' (.error e) := by
      intro d' e hd'
      rcases hbefore with hc | hn
      · exact .refused (.inl (by rw [hd', hc]))
      · exact .refused (.inr ⟨hn, by rw [hd', heff]⟩)
    refine wp_query_bind (fun e n _ => hleft _ _ hstored) fun u n hcheck => ?_
    refine wp_mono (wp_storeWorkflowConfig (s := { s1 with clock := n })) fun r s2 hr => ?_
    cases hr with
    | refused hd => exact hleft _ _ (by rw [hd]; exact hstored)
    | stored _ hd =>
      refine .merged heff (fun t ht hrole => checkEnabled_ok hcheck ?_ hrole) (by rw [hd])
      rw [htenants]
      exact ht

/-- What is stored stays valid. -/
def SettingsKept (d d' : Db) : Prop :=
  (∀ c, d.workflowConfig = some c → c.Valid) → ∀ c, d'.workflowConfig = some c → c.Valid

instance : Std.Refl SettingsKept := ⟨fun _ h => h⟩

instance : IsTrans Db SettingsKept := ⟨fun _ _ _ h h' hd => h' (h hd)⟩

theorem storeWorkflowConfig_valid (c : WorkflowConfig) :
    Keeps SettingsKept Eq (m.storeWorkflowConfig ctx c) := by
  simp only [storeWorkflowConfig, Prog.throw_bind]
  split
  · exact .throw _
  split
  · exact .throw _
  split
  · exact .throw _
  rename_i hretention hexpiry hmin
  have hset : Keeps SettingsKept Eq (m.repo.setWorkflowConfig ctx c) := by
    refine exec_keeps fun _ d _ c' hc' => ?_
    cases hc'
    exact ⟨by omega, by omega, by omega⟩
  exact (hset.mapError _).bind fun _ => .pure c

end TenantConfigManager

inductive SettingsCall where
  | getWorkflowConfig
  | setWorkflowConfig (workflowConfig : Option WorkflowConfig)
  | updateWorkflowConfig (update : Option TenantWorkflowConfiguration)

namespace SettingsCall

variable (m : TenantConfigManager)

def prog (ctx : Ctx) : SettingsCall → M WorkflowConfig
  | .getWorkflowConfig => m.getWorkflowConfig ctx
  | .setWorkflowConfig workflowConfig => m.setWorkflowConfig ctx workflowConfig
  | .updateWorkflowConfig update => m.updateWorkflowConfig ctx update

/-- `s'` is reached from `s` by calls, each with a context of its own. -/
abbrev Reached (s s' : St Db World) : Prop :=
  Runs (fun call : Ctx × SettingsCall => call.2.prog m call.1) (fun _ _ => True) s s'

variable {m} {s : State}

theorem prog_valid (ctx : Ctx) (call : SettingsCall) :
    Keeps TenantConfigManager.SettingsKept Eq (call.prog m ctx) := by
  have hstore := @TenantConfigManager.storeWorkflowConfig_valid m ctx
  cases call with
  | getWorkflowConfig => exact m.getWorkflowConfig_keeps ctx hstore
  | setWorkflowConfig c => exact m.setWorkflowConfig_keeps ctx hstore c
  | updateWorkflowConfig update =>
    exact .bind (m.getWorkflowConfig_keeps ctx hstore) fun c => .bind (.query _) fun _ => hstore _

theorem Reached.valid {s' : State} (hrun : Reached m s s')
    (h : ∀ c, s.db.workflowConfig = some c → c.Valid) :
    ∀ c, s'.db.workflowConfig = some c → c.Valid :=
  hrun.induct (I := fun s => ∀ c, s.db.workflowConfig = some c → c.Valid) h
    fun call _ _ hs => ((prog_valid call.1 call.2).run (Prod.eta _).symm).1 hs

theorem wp_failed (ctx : Ctx) (call : SettingsCall) :
    (call.prog m ctx).wp false (fun r s' => ∀ e, r = .error e →
      m.AtMostDefault ctx s.db s'.db) s := by
  have hstore : ∀ (c : WorkflowConfig) (s1 : State), s1.db = s.db →
      (m.storeWorkflowConfig ctx c).wp false (fun r s' => ∀ e, r = .error e →
        m.AtMostDefault ctx s.db s'.db) s1 := by
    intro c s1 hs1
    refine wp_mono wp_storeWorkflowConfig fun r s' hr => ?_
    rintro e rfl
    cases hr with
    | refused hd => exact .inl (by rw [hd, hs1])
  cases call with
  | getWorkflowConfig =>
    refine wp_mono getWorkflowConfig_obtained fun r s' hr => ?_
    rintro e rfl
    cases hr.1 with
    | failed hd => exact .inl (by rw [hd])
  | setWorkflowConfig c =>
    cases c with
    | some c => exact hstore c s rfl
    | none => exact wp_query_bind (fun _ _ _ _ _ => .inl rfl) fun t n _ => hstore _ _ rfl
  | updateWorkflowConfig update =>
    refine wp_mono wp_updateWorkflowConfig fun r s' hr => ?_
    rintro e rfl
    cases hr with
    | refused h => exact h

end SettingsCall

/-- After every sequence of calls the stored configuration is valid. A call that fails leaves it as
it is, or stores the default where nothing was stored. An update keeps the fields it does not
name, and `Enabled` for a tenant whose role is not `ROLE_TEST`. -/
theorem workflow_settings_valid (m : TenantConfigManager) {s₀ s : St Db World}
    (h₀ : ∀ c, s₀.db.workflowConfig = some c → c.Valid) (hrun : SettingsCall.Reached m s₀ s)
    (ctx : Ctx) (call : SettingsCall) :
    let out := (call.prog m ctx).run false s
    (∀ c, out.2.db.workflowConfig = some c → c.Valid) ∧
      (∀ e, out.1 = .error e → m.AtMostDefault ctx s.db out.2.db) ∧
      ∀ update, call = .updateWorkflowConfig update → ∀ c c',
        m.effectiveConfig ctx s.db = some c → out.2.db.workflowConfig = some c' →
        MissingKept update c c' ∧ ∀ t, s.db.tenants.get? ctx.tenant = some t → t.role ≠ .test →
          c'.enabled = c.enabled := by
  intro out
  have hcall : SettingsCall.Reached m s₀ out.2 := hrun.tail ⟨(ctx, call), trivial, rfl⟩
  refine ⟨hcall.valid h₀, SettingsCall.wp_failed ctx call, ?_⟩
  rintro update rfl c c' hc hc'
  have hout : TenantConfigManager.Updated m ctx update s.db out.2.db out.1 :=
    TenantConfigManager.wp_updateWorkflowConfig
  generalize out.1 = r at hout
  cases hout with
  | refused hleft =>
    have hsame : c' = c := by
      rcases hleft with h | ⟨_, h⟩
      · rw [h] at hc'
        rw [TenantConfigManager.effectiveConfig, hc'] at hc
        exact Option.some.inj hc
      · rw [hc', hc] at h
        exact Option.some.inj h
    rw [hsame]
    exact ⟨.refl update c, fun _ _ _ => rfl⟩
  | merged heff hrole hd =>
    rw [hc] at heff
    cases heff
    rw [hd] at hc'
    cases hc'
    exact ⟨.merge update c, hrole⟩

namespace Sample

/-- A tenant without a workflow configuration. -/
def unsettled : St Db World := { start with db := { db with workflowConfig := none } }

def oneApproval : TenantWorkflowConfiguration := ⟨none, some 1, none, none, none⟩

theorem settings_valid_from_start :
    (∀ c, unsettled.db.workflowConfig = some c → c.Valid) ∧
      ∀ c, (((SettingsCall.updateWorkflowConfig (some oneApproval)).prog ⟨repo, none⟩ (as "a")).run
        false unsettled).2.db.workflowConfig = some c → c.Valid := by
  have h₀ : ∀ c, unsettled.db.workflowConfig = some c → c.Valid := fun c hc => by cases hc
  exact ⟨h₀, (workflow_settings_valid ⟨repo, none⟩ h₀ .refl (as "a") _).1⟩

theorem refused_update_stores :
    let out := ((⟨repo, none⟩ : TenantConfigManager).updateWorkflowConfig (as "a")
      (some oneApproval)).run false unsettled
    out.1 = .error ((Exn.of .errMinimumApprovalsTooLow).wrap .errSetWorkflowConfig) ∧
      unsettled.db.workflowConfig = none ∧
      out.2.db.workflowConfig = some ⟨true, 2, 30, 7, 30⟩ := by
  refine ⟨rfl, rfl, rfl⟩

end Sample

end Cmk
