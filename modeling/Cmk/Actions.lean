import Cmk.Frames

/-!
# Cmk.Actions

What the actions on systems write. A link or unlink rewrites the row of its system from a struct
read in the same transaction, so the flag `UnderWorkflow` comes back as it was. `handler_quiet`
says it for every action a workflow can execute.
-/

namespace Cmk

open Tx Query Repo List Option

variable {d d' : Db} {row row' sys : System} {kc : KeyConfiguration} {n n' : Nat}

/-- The row of a system was replaced; nothing else a workflow reads has changed. -/
structure SystemPatched (d d' : Db) (row row' : System) : Prop where
  old : d.systems.get? row.id = some row
  new : d'.systems.get? row.id = some row'
  others : ∀ id, id ≠ row.id → d'.systems.get? id = d.systems.get? id
  keys : d'.keys = d.keys
  keyConfigurations : d'.keyConfigurations = d.keyConfigurations
  events : d'.events = d.events
  workflows : d'.workflows = d.workflows
  approvers : d'.approvers = d.approvers
  approverGroups : d'.approverGroups = d.approverGroups

theorem SystemPatched.untouched (h : SystemPatched d d' row row')
    (hflag : row'.underWorkflow = row.underWorkflow) : Untouched d d' where
  workflows := h.workflows
  approvers := h.approvers
  approverGroups := h.approverGroups
  flag ty id b hb := by
    cases ty with
    | system =>
      simp only [Db.flag] at hb ⊢
      by_cases hid : id = row.id
      · subst hid
        rw [h.new, map_some, hflag] at hb
        rw [h.old, map_some, hb]
      · rwa [h.others id hid] at hb
    | key => simpa only [Db.flag, h.keys] using hb
    | keyConfiguration => cases hb
    | other => cases hb

namespace Repo

variable {s : State} {ctx : Ctx}

/-- The row after `Patch`, with or without the option to write every column. -/
def patchedSystem (all : Bool) (sys row : System) : System :=
  if all then systemUpdatesAll sys row else systemUpdates sys row

@[simp] theorem patchedSystem_id {all : Bool} :
    (patchedSystem all sys row).id = row.id := by
  cases all <;> rfl

theorem wp_patchSystem (r : Repo) (all : Bool) {P : Post System}
    (hrow : s.db.systems.get? sys.id = some row)
    (hrefused : ∀ e, r.Refuses ctx s.clock → P (.error e) { s with clock := s.clock + 1 })
    (hdone : ∀ d', ¬ r.Refuses ctx s.clock → SystemPatched s.db d' row (patchedSystem all sys row) →
      P (.ok { patchedSystem all sys row with properties := sys.properties })
        { s with db := d', clock := s.clock + 1 }) :
    (r.patchSystem ctx all sys).wp true P s := by
  have hid : row.id = sys.id := key_of_get? hrow
  refine wp_exec hrefused fun hacc => ?_
  have hf : ∀ row' : System,
      ((if all then systemUpdatesAll sys else systemUpdates sys) row').id = row'.id := fun _ => by
    cases all <;> rfl
  have hnew : (s.db.systems.modify sys.id
      (if all then systemUpdatesAll sys else systemUpdates sys) hf).get? sys.id =
        some (patchedSystem all sys row) := by
    rw [Table.get?_modify_self, hrow]
    cases all <;> rfl
  have hothers : ∀ id, id ≠ sys.id → (s.db.systems.modify sys.id
      (if all then systemUpdatesAll sys else systemUpdates sys) hf).get? id =
        s.db.systems.get? id := fun id h => Table.get?_modify_ne hf h
  simp only [hnew, getD_some]
  exact hdone _ hacc ⟨hid ▸ hrow, hid ▸ hnew, hid ▸ hothers, rfl, rfl, rfl, rfl, rfl, rfl⟩

end Repo

section Actions

variable {s₀ s : State} {ctx : Ctx}

theorem Quiet.refl (s : State) : Quiet s s := ⟨refl_of Untouched _, rfl⟩

theorem Quiet.trans {s1 s2 s3 : State} (h : Quiet s1 s2) (h' : Quiet s2 s3) : Quiet s1 s3 :=
  ⟨trans_of Untouched h.1 h'.1, trans_of SameLog h.2 h'.2⟩

theorem Quiet.calm {α : Type} {p : M α} (h : Quiet s₀ s) (hp : Calm p) :
    p.wp true (fun _ => Quiet s₀) s :=
  h.trans (hp.nested s)

/-- The struct was read from its row: they have the same flag. -/
def Loaded (d : Db) (sys : System) : Prop :=
  ∃ row, d.systems.get? sys.id = some row ∧ row.underWorkflow = sys.underWorkflow

theorem Repo.patchedSystem_flag {all : Bool} (h : row.underWorkflow = sys.underWorkflow) :
    (patchedSystem all sys row).underWorkflow = row.underWorkflow := by
  cases all with
  | true => exact h.symm
  | false => simp [patchedSystem, systemUpdates, nonZero, h]

theorem Repo.patchSystem_quiet (r : Repo) (all : Bool) (hs : Quiet s₀ s) (h : Loaded s.db sys) :
    (r.patchSystem ctx all sys).wp true
      (fun res s' => Quiet s₀ s' ∧ ∀ sys', res = .ok sys' → Loaded s'.db sys') s := by
  obtain ⟨row, hrow, hflag⟩ := h
  refine r.wp_patchSystem all hrow (fun e _ => ⟨hs, nofun⟩) fun d' _ hd => ?_
  refine ⟨hs.trans ⟨hd.untouched (patchedSystem_flag hflag), rfl⟩, ?_⟩
  rintro _ ⟨⟩
  exact ⟨patchedSystem all sys row, by simpa using hd.new, rfl⟩

namespace EventFactory

variable (f : EventFactory)

theorem createSystemEventJob_calm (type : JobType) (data : SystemActionJobData) :
    Calm (f.createSystemEventJob ctx type data) := by
  refine .bind (.query (.done _)) fun tenantID => .call fun n d x => ?_
  split
  · exact rfl
  · exact rfl

theorem setEvent_calm (r : Repo) (ev : Event) : Calm (r.setEvent ctx ev) :=
  exec_keeps fun _ _ => ⟨rfl, rfl, rfl, fun ty _ _ h => by cases ty <;> exact h⟩

theorem handleSystemStatus_quiet (hin : ctx.inTx = true) (hs : Quiet s₀ s) (h : Loaded s.db sys)
    {eventFn : M Job} (hev : Calm eventFn) :
    (f.handleSystemStatus ctx sys eventFn).wp true (fun _ => Quiet s₀) s := by
  simp only [handleSystemStatus, transaction_inTx hin, Prog.throw_bind]
  refine wp_state_bind ?_ fun job s' hq =>
    hq.calm (.bind (setEvent_calm _ _).attempt fun _ => .pure _)
  split
  · exact hs
  · exact wp_state_bind (wp_mono (f.repo.patchSystem_quiet true hs h) fun _ _ hq => hq.1)
      fun _ s' hq => hq.calm hev

theorem sendEvent_quiet (hin : ctx.inTx = true) (hs : Quiet s₀ s) (h : Loaded s.db sys)
    (event : SystemEvent) :
    (f.sendEvent ctx sys event).wp true (fun _ => Quiet s₀) s := by
  have hjob : ∀ type data, (f.handleSystemStatus ctx sys (f.createSystemEventJob ctx type data)).wp
      true (fun _ => Quiet s₀) s :=
    fun type data => f.handleSystemStatus_quiet hin hs h (f.createSystemEventJob_calm type data)
  refine wp_state_bind (wp_mapError ?_) fun _ s' hq => hq.calm (.pure _)
  cases event with
  | link keyID =>
    cases keyID with
    | none => exact hs
    | some id => exact hjob _ _
  | unlink keyID =>
    cases keyID with
    | none => exact hs
    | some id => exact hjob _ _
  | switch keyIDTo keyIDFrom =>
    rcases keyIDTo with _ | idTo
    · exact hs
    · rcases keyIDFrom with _ | idFrom
      · exact hs
      · exact hjob _ _

end EventFactory

namespace Repo

variable {r : Repo} {d : Db} {n m : Nat} {id : UUID} {sys : System}

theorem get?_of_mem_joinSystem {x : System × Option SystemProperty} (h : x ∈ joinSystem d id) :
    d.systems.get? id = some x.1 := by
  unfold joinSystem at h
  split at h
  · cases h
  · rename_i sys hsys _
    rw [mem_singleton.1 h, hsys]
  · rename_i sys hsys _
    obtain ⟨p, -, rfl⟩ := mem_map.1 h
    exact hsys

theorem getSystemByIDWithProperties_ok
    (h : (r.getSystemByIDWithProperties ctx id).eval d n = (.ok sys, m)) :
    ∃ row props, d.systems.get? id = some row ∧ sys = { row with properties := props } := by
  simp only [getSystemByIDWithProperties, throw_bind] at h
  obtain ⟨systems, n1, -, h⟩ := eval_bind_ok h
  split at h
  · cases h
  · obtain ⟨rows, n2, hrows, h⟩ := eval_bind_ok h
    have hmem := (eval_query_ok (eval_mapError_ok hrows)).1
    split at h
    · cases h
    · rename_i sys' p rows
      cases h
      refine ⟨sys', _, get?_of_mem_joinSystem (x := (sys', p)) ?_, rfl⟩
      obtain ⟨i, -, hi⟩ := mem_flatMap.1 ((Except.ok.inj hmem) ▸ mem_cons_self)
      exact page_subset hi

end Repo

theorem KeyConfigManager.canConnectSystems_ok {m : KeyConfigManager} {id : UUID}
    (h : (m.canConnectSystems ctx kc).eval d n = (.ok id, n')) :
    ∃ key, kc.primaryKeyID = some key.id ∧ d.keys.get? key.id = some key ∧ key.state = .enabled := by
  unfold canConnectSystems at h
  split at h
  · cases h
  · rename_i keyID hkey
    simp only [throw_bind] at h
    split at h
    · cases h
    · obtain ⟨key, n1, hrow, h⟩ := eval_bind_ok h
      have hrow := (eval_first_ok (eval_mapError_ok hrow)).1
      have hid : key.id = keyID := key_of_get? hrow
      subst hid
      split at h
      · cases h
      · rename_i hstate
        exact ⟨key, hkey, hrow, not_not.1 hstate⟩

namespace SystemManager

variable (m : SystemManager)

structure LinkChecked (ctx : Ctx) (systemID keyConfigID : UUID) (d : Db) (sys : System)
    (kc : KeyConfiguration) : Prop where
  row : ∃ row props, d.systems.get? systemID = some row ∧ sys = { row with properties := props }
  access : keyConfigID ≠ UUID.nil →
    ∃ n b k, (m.user.hasSystemAccess ctx .systemModifyLink sys).eval d n = (.ok b, k)
  keyConfig : Repo.byID d.keyConfigurations keyConfigID = some kc
  primary : ∃ key, kc.primaryKeyID = some key.id ∧ d.keys.get? key.id = some key ∧
    key.state = .enabled
  status : sys.status ≠ .processing ∧ sys.status ≠ .failed

theorem linkSystemChecks_ok {systemID keyConfigID : UUID}
    (h : (m.linkSystemChecks ctx systemID keyConfigID).eval d n = (.ok (sys, kc), n')) :
    m.LinkChecked ctx systemID keyConfigID d sys kc := by
  simp only [linkSystemChecks, throw_bind] at h
  obtain ⟨sys0, n1, hsys, h⟩ := eval_bind_ok h
  have htail : (keyConfigID ≠ UUID.nil → ∃ k b l,
      (m.user.hasSystemAccess ctx .systemModifyLink sys0).eval d k = (.ok b, l)) ∧
      ∃ l, eval (do
        let keyConfig ← (m.repo.firstKeyConfiguration ctx keyConfigID).mapError
          (.wrap .errGettingKeyConfigByID)
        let _ ← m.keyConfigManager.canConnectSystems ctx keyConfig
        if sys0.status = .processing ∨ sys0.status = .failed then
          throw (.of .errLinkSystemProcessingOrFailed)
        else pure (sys0, keyConfig)) d l = (.ok (sys, kc), n') := by
    split at h
    · obtain ⟨b, n2, hb, h⟩ := eval_bind_ok h
      exact ⟨fun _ => ⟨n1, b, n2, hb⟩, n2, h⟩
    · rename_i hnil
      exact ⟨fun hne => absurd hne hnil, n1, h⟩
  obtain ⟨haccess, l, h⟩ := htail
  obtain ⟨kc', n2, hkc, h⟩ := eval_bind_ok h
  obtain ⟨keyID, n3, hcan, h⟩ := eval_bind_ok h
  split at h
  · cases h
  · rename_i hstatus
    cases h
    exact ⟨getSystemByIDWithProperties_ok (eval_mapError_ok hsys), haccess,
      (eval_first_ok (eval_mapError_ok hkc)).1,
      KeyConfigManager.canConnectSystems_ok hcan, not_or.1 hstatus⟩

theorem unlinkSystemChecks_ok {systemID : UUID}
    (h : (m.unlinkSystemChecks ctx systemID).eval d n = (.ok (sys, kc), n')) :
    d.systems.get? systemID = some sys ∧ sys.status ≠ .processing ∧
      sys.keyConfigurationID ≠ none := by
  simp only [unlinkSystemChecks, throw_bind] at h
  obtain ⟨sys0, n1, hsys, h⟩ := eval_bind_ok h
  have hrow := (eval_first_ok (eval_mapError_ok hsys)).1
  split at h
  · cases h
  · rename_i hkcID
    split at h
    · cases h
    · obtain ⟨_, n2, -, h⟩ := eval_bind_ok h
      obtain ⟨kc', n3, -, h⟩ := eval_bind_ok h
      split at h
      · cases h
      · rename_i hstatus
        cases h
        exact ⟨hrow, hstatus, by simp [hkcID]⟩

theorem loaded_of_row {id : UUID} (h : d.systems.get? id = some row)
    (props : List (String × String)) (target : Option UUID) :
    Loaded d { row with properties := props, targetKeyConfigurationID := target } :=
  ⟨row, (key_of_get? h).symm ▸ h, rfl⟩

theorem linkSystemAction_quiet (hin : ctx.inTx = true) (hs : Quiet s₀ s)
    (systemID keyConfigID : UUID) :
    (m.linkSystemAction ctx systemID keyConfigID).wp true (fun _ => Quiet s₀) s := by
  unfold linkSystemAction
  rw [transaction_inTx hin]
  refine wp_mapError (wp_query_bind (fun _ _ _ => hs) fun a n ha => ?_)
  obtain ⟨sys, kc⟩ := a
  obtain ⟨row, props, hrow, rfl⟩ := (m.linkSystemChecks_ok ha).row
  refine wp_bind (wp_bind (wp_mono
    (m.repo.patchSystem_quiet false hs (loaded_of_row hrow props _)) fun res s' hq => ?_))
  cases res with
  | error e => exact hq.1
  | ok sys' =>
    refine wp_query_bind (fun _ _ _ => hq.1) fun event n' _ => ?_
    exact m.eventFactory.sendEvent_quiet (s := { s' with clock := n' }) hin hq.1 (hq.2 sys' rfl) event

theorem unlinkSystemAction_quiet (hin : ctx.inTx = true) (hs : Quiet s₀ s) (systemID : UUID) :
    (m.unlinkSystemAction ctx systemID).wp true (fun _ => Quiet s₀) s := by
  unfold unlinkSystemAction
  rw [transaction_inTx hin]
  refine wp_query_bind (fun _ _ _ => hs) fun a n ha => ?_
  obtain ⟨sys, kc⟩ := a
  obtain ⟨hrow, -⟩ := m.unlinkSystemChecks_ok ha
  simp only [sendSystemUnlinkEvent]
  split
  · exact m.eventFactory.sendEvent_quiet (s := { s with clock := n }) hin hs
      ⟨sys, key_of_get? hrow ▸ hrow, rfl⟩ _
  · exact hs

end SystemManager

namespace Lifecycle

variable (l : Lifecycle)

theorem executionError_quiet {α : Type} {p : M α} (h : p.wp true (fun _ => Quiet s₀) s) :
    (executionError p).wp true (fun _ => Quiet s₀) s :=
  wp_state_bind (wp_mapError h) fun _ _ hq => hq.calm (.pure _)

theorem executionError_calm {α : Type} {p : M α} (h : Calm p) : Calm (executionError p) :=
  (h.mapError _).bind fun _ => .pure _

theorem handler_quiet (hin : ctx.inTx = true) (hs : Quiet s₀ s) :
    (l.handler ctx).wp true (fun _ => Quiet s₀) s := by
  have hkey : Calm (l.updateKeyState ctx) :=
    (executionError_calm (Syncs.calm (l.keyActions.get_keeps ctx _))).bind fun _ =>
      .ite (executionError_calm (l.keyActions.updateKey_keeps ctx _ _)) (.throw _)
  have hprimary : (l.updatePrimaryKey ctx).wp true (fun _ => Quiet s₀) s := by
    refine wp_query_bind (q := .done _) (fun _ _ _ => hs) fun id n _ => executionError_quiet ?_
    exact wp_mono (l.keyConfigurationActions.updatePrimaryKey_quiet ctx _ id
      { s with clock := n } hin) fun _ _ hq => hs.trans hq
  have hlink : (l.systemLinkOrSwitch ctx).wp true (fun _ => Quiet s₀) s :=
    wp_query_bind (q := .done _) (fun _ _ _ => hs) fun id n _ =>
      executionError_quiet (l.systemActions.linkSystemAction_quiet (s := { s with clock := n }) hin
        hs _ id)
  unfold handler
  split
  · exact hs.calm hkey
  · exact hs.calm (executionError_calm (l.keyActions.delete_keeps ctx _))
  · exact hs.calm (executionError_calm (l.keyConfigurationActions.delete_keeps ctx _))
  · exact hprimary
  · exact hlink
  · exact executionError_quiet (l.systemActions.unlinkSystemAction_quiet hin hs _)
  · exact hlink
  · exact hs
  · exact hs

end Lifecycle

end Actions

end Cmk
