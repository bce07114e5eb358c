import Cmk.Actions
import Cmk.Votes

/-!
# Cmk.Spec.Rows

What the single writes of the workflow component do to the rows: the state of a workflow, the flag
of an artifact, the vote of an approver. The facts are stated by key, so that the rows a write
leaves alone are covered too.
-/

namespace Cmk

open Tx Table Option

/-- Two rows of one workflow. A workflow keeps everything but its state, its failure reason, the
names it displays and its expiry date. -/
structure SameWorkflow (wf wf' : Workflow) : Prop where
  id : wf'.id = wf.id
  initiatorID : wf'.initiatorID = wf.initiatorID
  artifactType : wf'.artifactType = wf.artifactType
  artifactID : wf'.artifactID = wf.artifactID
  actionType : wf'.actionType = wf.actionType
  minimumApprovalCount : wf'.minimumApprovalCount = wf.minimumApprovalCount

structure Restated (d d' : Db) (wf wf' : Workflow) : Prop where
  old : d.workflows.get? wf.id = some wf
  new : d'.workflows.get? wf.id = some wf'
  others : ∀ id, id ≠ wf.id → d'.workflows.get? id = d.workflows.get? id
  same : SameWorkflow wf wf'

namespace SameWorkflow

variable {wf wf' wf'' : Workflow}

theorem refl (wf : Workflow) : SameWorkflow wf wf := ⟨rfl, rfl, rfl, rfl, rfl, rfl⟩

theorem trans (h : SameWorkflow wf wf') (h' : SameWorkflow wf' wf'') : SameWorkflow wf wf'' :=
  ⟨h'.id.trans h.id, h'.initiatorID.trans h.initiatorID, h'.artifactType.trans h.artifactType,
    h'.artifactID.trans h.artifactID, h'.actionType.trans h.actionType,
    h'.minimumApprovalCount.trans h.minimumApprovalCount⟩

theorem enumError (h : SameWorkflow wf wf') : Repo.enumError wf' = Repo.enumError wf := by
  unfold Repo.enumError
  rw [h.artifactType, h.actionType]

end SameWorkflow

namespace Restated

variable {d d₁ d₂ : Db} {wf wf₁ wf₂ : Workflow}

theorem refl (h : d.workflows.get? wf.id = some wf) : Restated d d wf wf :=
  ⟨h, h, fun _ _ => rfl, .refl wf⟩

theorem congr {e e' : Db} (h : Restated d d₁ wf wf₁) (he : e.workflows = d.workflows)
    (he' : e'.workflows = d₁.workflows) : Restated e e' wf wf₁ := by
  obtain ⟨h₁, h₂, h₃, h₄⟩ := h
  exact ⟨he ▸ h₁, he' ▸ h₂, he ▸ he' ▸ h₃, h₄⟩

end Restated

namespace Repo

variable {r : Repo} {ctx : Ctx} {s : State}

@[simp] theorem nonZero_self {α : Type} [DecidableEq α] (z a : α) : nonZero z a a = a := by
  simp [nonZero]

@[simp] theorem beforeSave_id (n : Nat) (wf : Workflow) : (r.beforeSave n wf).id = wf.id := by
  unfold beforeSave; split <;> rfl

theorem updates_same (wf : Workflow) (st : WorkflowState) (reason : String) (n : Nat) :
    SameWorkflow wf (updates (r.beforeSave n { wf with state := st, failureReason := reason }) wf) ∧
      (updates (r.beforeSave n { wf with state := st, failureReason := reason }) wf).state = st := by
  unfold beforeSave
  split
  all_goals
    refine ⟨⟨rfl, ?_, ?_, ?_, ?_, ?_⟩, rfl⟩
    all_goals exact nonZero_self _ _

theorem wp_patchWorkflow {P : Post Workflow} (wf : Workflow)
    (st : WorkflowState) (reason : String) (hrow : s.db.workflows.get? wf.id = some wf)
    (henum : enumError wf = none)
    (hrefused : ∀ e, r.Refuses ctx s.clock → P (.error e) { s with clock := s.clock + 1 })
    (hdone : ∀ wf' table, Restated s.db { s.db with workflows := table } wf wf' → wf'.state = st →
      P (.ok wf') { s with db := { s.db with workflows := table }, clock := s.clock + 1 }) :
    (r.patchWorkflow ctx { wf with state := st, failureReason := reason }).wp true P s := by
  refine wp_exec hrefused fun _ => ?_
  have henum' : enumError { wf with state := st, failureReason := reason } = none := henum
  obtain ⟨hsame, hst⟩ := updates_same (r := r) wf st reason s.clock
  have hid := beforeSave_id (r := r) s.clock { wf with state := st, failureReason := reason }
  simp only [henum']
  generalize r.beforeSave s.clock { wf with state := st, failureReason := reason } = w'
    at hsame hst hid ⊢
  have hnew : (s.db.workflows.modify w'.id (updates w') fun _ => rfl).get? w'.id =
      some (updates w' wf) :=
    (get?_modify_self (f := updates w') fun _ => rfl).trans (by rw [hid, hrow, map_some])
  rw [hnew, getD_some]
  refine hdone _ _ ⟨hrow, hid ▸ hnew, fun id h => ?_, hsame⟩ hst
  exact get?_modify_ne (f := updates w') (fun _ => rfl) (hid ▸ h)

/-- `Patch` with a new state, for a workflow whose enumeration values may be invalid. -/
theorem wp_patchState {P : Post Workflow} (wf : Workflow)
    (st : WorkflowState) (hrow : s.db.workflows.get? wf.id = some wf)
    (herr : ∀ e, P (.error e) { s with clock := s.clock + 1 })
    (hdone : ∀ wf' table, Restated s.db { s.db with workflows := table } wf wf' → wf'.state = st →
      P (.ok wf') { s with db := { s.db with workflows := table }, clock := s.clock + 1 }) :
    (r.patchWorkflow ctx { wf with state := st }).wp true P s := by
  cases henum : enumError wf with
  | none => exact wp_patchWorkflow wf st _ hrow henum (fun e _ => herr e) hdone
  | some e =>
    refine wp_exec (fun e _ => herr e) fun _ => ?_
    have henum' : enumError { wf with state := st } = some e := henum
    simp only [henum']
    exact herr _

end Repo

theorem Db.flag_congr {d d' : Db} (hs : d'.systems = d.systems) (hk : d'.keys = d.keys) :
    d'.flag = d.flag := by
  funext ty id
  cases ty with
  | system => simp only [Db.flag, hs]
  | key => simp only [Db.flag, hk]
  | keyConfiguration => rfl
  | other => rfl

def System.connection (sys : System) : SystemStatus × Option UUID × Option UUID :=
  (sys.status, sys.keyConfigurationID, sys.targetKeyConfigurationID)

def Db.connection (d : Db) (id : UUID) : Option (SystemStatus × Option UUID × Option UUID) :=
  (d.systems.get? id).map System.connection

def System.name (sys : System) : String × String := (sys.identifier, sys.region)

def Db.name (d : Db) (id : UUID) : Option (String × String) := (d.systems.get? id).map System.name

structure Flagged (d d' : Db) (ty : WorkflowArtifactType) (id : UUID) (b : Bool) : Prop where
  workflows : d'.workflows = d.workflows
  approvers : d'.approvers = d.approvers
  approverGroups : d'.approverGroups = d.approverGroups
  connection : d'.connection = d.connection
  flag : ∀ ty' id' c, d'.flag ty' id' = some c →
    if ty' = ty ∧ id' = id then c = b else d.flag ty' id' = some c

/-- If `cleared`, the flag of the workflow's artifact is false; every other flag is as before. -/
def ClearedIf (cleared : Bool) (wf : Workflow) (d d' : Db) : Prop :=
  ∀ ty id c, d'.flag ty id = some c →
    if cleared ∧ ty = wf.artifactType ∧ id = wf.artifactID then c = false
    else d.flag ty id = some c

theorem clearedIf_of_same {wf : Workflow} {d d' : Db} (h : d'.systems = d.systems)
    (h' : d'.keys = d.keys) : ClearedIf false wf d d' := by
  intro ty id c hc
  rw [if_neg (by simp)]
  rwa [Db.flag_congr h h'] at hc

theorem map_get?_modify {α κ β : Type} {key : α → κ} [DecidableEq κ] {t : Table key} {k k' : κ}
    (col : α → β) (f : α → α) (hf : ∀ r, key (f r) = key r) {b c : β} (hcol : ∀ r, col (f r) = b)
    (h : ((t.modify k f hf).get? k').map col = some c) :
    if k' = k then c = b else (t.get? k').map col = some c := by
  split
  · rename_i hk
    subst hk
    rw [get?_modify_self, map_map] at h
    obtain ⟨r, -, rfl⟩ := map_eq_some_iff.1 h
    exact hcol r
  · rename_i hk
    rwa [get?_modify_ne hf hk] at h

theorem map_get?_modify_same {α κ β : Type} {key : α → κ} [DecidableEq κ] {t : Table key} {k k' : κ}
    (col : α → β) (f : α → α) (hf : ∀ r, key (f r) = key r) (hcol : ∀ r, col (f r) = col r) :
    ((t.modify k f hf).get? k').map col = (t.get? k').map col := by
  by_cases hk : k' = k
  · subst hk
    rw [get?_modify_self, map_map]
    exact map_congr fun r _ => hcol r
  · rw [get?_modify_ne hf hk]

namespace WorkflowManager

variable {w : WorkflowManager} {ctx : Ctx} {s : State}

theorem wp_patchUnderWorkflow {P : Post Unit} {wf : Workflow} {b : Bool}
    (hrefused : ∀ e, w.repo.Refuses ctx s.clock → P (.error e) { s with clock := s.clock + 1 })
    (hdone : ∀ s', Flagged s.db s'.db wf.artifactType wf.artifactID b → s'.ext = s.ext →
      P (.ok ()) s') :
    (w.patchUnderWorkflow ctx wf b).wp true P s := by
  unfold patchUnderWorkflow
  split
  · rename_i hty
    refine Repo.wp_exec hrefused fun _ =>
      hdone _ ⟨rfl, rfl, rfl, funext fun id => ?_, fun ty id c hc => ?_⟩ rfl
    · exact map_get?_modify_same System.connection (fun row => { row with underWorkflow := b })
        (fun _ => rfl) fun _ => rfl
    rw [hty]
    cases ty with
    | system =>
      simp only [true_and]
      exact map_get?_modify System.underWorkflow
        (fun row => { row with underWorkflow := b }) (fun _ => rfl) (fun _ => rfl) hc
    | key => rw [if_neg (by simp)]; exact hc
    | keyConfiguration => cases hc
    | other => cases hc
  · rename_i hty
    refine Repo.wp_exec hrefused fun _ => hdone _ ⟨rfl, rfl, rfl, rfl, fun ty id c hc => ?_⟩ rfl
    rw [hty]
    cases ty with
    | system => rw [if_neg (by simp)]; exact hc
    | key =>
      simp only [true_and]
      exact map_get?_modify Key.underWorkflow
        (fun row => { row with underWorkflow := b }) (fun _ => rfl) (fun _ => rfl) hc
    | keyConfiguration => cases hc
    | other => cases hc
  · rename_i hsys hkey
    refine hdone s ⟨rfl, rfl, rfl, rfl, fun ty id c hc => ?_⟩ rfl
    rw [if_neg]
    · exact hc
    · rintro ⟨hty, -⟩
      cases ty with
      | system => exact hsys hty.symm
      | key => exact hkey hty.symm
      | keyConfiguration => cases hc
      | other => cases hc

end WorkflowManager

structure Voted (d d' : Db) (id : UUID) (u : String) (b : Bool) : Prop where
  rows : Repo.approversOf d' id = (Repo.approversOf d id).map (castVote u b)
  others : ∀ id', id' ≠ id → Repo.approversOf d' id' = Repo.approversOf d id'

theorem voted_modify (d : Db) (id : UUID) (u : String) (b : Bool)
    (f : WorkflowApprover → WorkflowApprover) (hf : ∀ a, (f a).key = a.key)
    (hb : ∀ a, f a = { a with approved := some b }) :
    Voted d { d with approvers := d.approvers.modify (id, u) f hf } id u b := by
  have hw : ∀ a, (if a.key = (id, u) then f a else a).workflowID = a.workflowID := by
    intro a
    split
    · exact congrArg Prod.fst (hf a)
    · rfl
  have hfilter : ∀ id', approversOf { d with approvers := d.approvers.modify (id, u) f hf } id' =
      (approversOf d id').map fun a => if a.key = (id, u) then f a else a := by
    intro id'
    simp only [approversOf, Table.modify, List.filter_map]
    congr 1
    refine List.filter_congr fun a _ => ?_
    simp only [Function.comp_apply, hw]
  constructor
  · rw [hfilter]
    refine List.map_congr_left fun a ha => ?_
    have hid : a.workflowID = id := by simpa using (List.mem_filter.1 ha).2
    simp only [castVote, WorkflowApprover.key, Prod.mk.injEq, hid, true_and, hb]
  · intro id' hne
    rw [hfilter]
    refine (List.map_congr_left fun a ha => ?_).trans (List.map_id _)
    have hid : a.workflowID = id' := by simpa using (List.mem_filter.1 ha).2
    refine if_neg fun hk => hne ?_
    rw [← hid]
    exact congrArg Prod.fst hk

theorem WorkflowManager.wp_updateApproverDecision {w : WorkflowManager} {ctx : Ctx}
    {s : State} {P : Post Unit} (hin : ctx.inTx = true)
    {a : WorkflowApprover} {b : Bool}
    (hrefused : ∀ e, P (.error e) { s with clock := s.clock + 1 })
    (hdone : ∀ table, Voted s.db { s.db with approvers := table } a.workflowID a.userID b →
      P (.ok ()) { s with db := { s.db with approvers := table }, clock := s.clock + 1 }) :
    (w.updateApproverDecision ctx a b).wp true P s := by
  unfold updateApproverDecision
  rw [Repo.transaction_inTx hin]
  refine wp_mapError (wp_mapError (Repo.wp_exec (fun e _ => hrefused _) fun _ => hdone _ ?_))
  exact voted_modify s.db a.workflowID a.userID b _ _ fun _ => rfl

end Cmk
