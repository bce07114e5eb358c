import Cmk.Jobs.View

/-!
# Cmk.Jobs.Effects

The programs of `Cmk.Jobs.Requests` and `Cmk.Jobs.Handlers` as deeds of the machine of
`Cmk.Jobs.View`.

Each lemma runs one function and says which deed it did, with what the function has checked before;
a statement that was refused and a job that orbital did not take are part of it.
-/

namespace Cmk

open Tx Function Repo Option Deed Db EventFactory

variable {row row' sys : System} {P : Post Unit} {type : JobType} {data : SystemActionJobData}
  {d : Db} {id : UUID}

variable {ctx : Ctx} {s s' : State} {i : Bool}

theorem view_congr (hd : s'.db = s.db) (hx : s'.ext = s.ext) : s'.view = s.view := by
  simp only [St.view, hd, hx]

theorem view_events {t : Table Event.identifier} {ev : UUID → Option Event}
    (hd : s'.db = { s.db with events := t }) (hx : s'.ext = s.ext) (ht : t.get? = ev) :
    s'.view = { s.view with event := ev } := by
  have hc : s'.db.connection = s.db.connection := by
    funext id
    simp only [connection, hd]
  have hn : s'.db.name = s.db.name := by
    funext id
    simp only [name, hd]
  rw [St.view, hn, hc, hd, hx, ← ht]
  rfl

theorem Repo.patchedSystem_name (all : Bool) (h : sys.name = row.name) :
    (patchedSystem all sys row).name = row.name := by
  cases all with
  | true => exact h
  | false =>
    obtain ⟨hid, hregion⟩ := Prod.mk.inj h
    simp [patchedSystem, systemUpdates, System.name, nonZero, hid, hregion]

theorem SystemPatched.view {d' : Db} (h : SystemPatched s.db d' row row')
    (hname : row'.name = row.name) (n : Nat) :
    ({ s with db := d', clock := n } : State).view =
      s.view.setConnection row.id row'.connection := by
  have hconn : d'.connection = update s.db.connection row.id (some row'.connection) := by
    funext id
    by_cases hid : id = row.id
    · subst hid; rw [update_self, connection, h.new, map_some]
    · rw [update_of_ne hid, connection, h.others id hid, connection]
  have hn : d'.name = s.db.name := by
    funext id
    by_cases hid : id = row.id
    · subst hid; rw [name, h.new, name, h.old, map_some, map_some, hname]
    · rw [name, h.others id hid, name]
  simp only [St.view, View.setConnection, hn, hconn, h.events, h.keys, h.keyConfigurations]

/-- An outermost transaction leaves what its function did, or only the jobs that were created. -/
theorem Repo.wp_transaction_view {α : Type} {r : Repo} {txFunc : Ctx → M α}
    {P : Except Exn α → View → Prop} (hout : ctx.inTx = false)
    (hp : (txFunc { ctx with inTx := true }).wp true (fun res s' =>
      (∀ a, res = .ok a → P (.ok a) s'.view) ∧
      ((∀ a, res = .ok a → ∃ k, r.commit k ≠ none) →
        ∀ e, P (.error e) { s.view with jobs := s'.view.jobs })) s) :
    (r.transaction ctx txFunc).wp false (fun res s' => P res s'.view) s :=
  wp_transaction hout (wp_mono hp fun _ _ h => ⟨fun a ha => h.1 a ha, fun hf e _ => h.2 hf e⟩)

namespace EventFactory

variable {f : EventFactory}

def RefusesJob (f : EventFactory) : Prop := ∃ n x id type e, f.prepareJob n x id type = .error e

def Marked (f : EventFactory) (G : View → Deed → Prop) (v : View) (δ : Deed) : Prop :=
  G v δ ∨ f.RefusesJob ∧ ∃ id keyConfigID target, δ = .mark id keyConfigID target

/-- What a program did, by its result: no system is only marked after a success. -/
def Ran {α : Type} (f : EventFactory) (G : View → Deed → Prop) (v v' : View) : Except Exn α → Prop
  | .ok _ => Leads G v v'
  | .error _ => Leads (f.Marked G) v v'

section

variable {α : Type} {G G' : View → Deed → Prop} {v v₁ v' : View} {res : Except Exn α}

theorem Ran.of_leads (h : Leads G v v') : f.Ran G v v' res := by
  cases res with
  | ok a => exact h
  | error e => exact h.mono fun _ _ => .inl

theorem Ran.marked (h : f.Ran G v v' res) : Leads (f.Marked G) v v' := by
  cases res with
  | ok a => exact Leads.mono h fun _ _ => .inl
  | error e => exact h

theorem Ran.after (hl : Leads G v v₁) (h : f.Ran G v₁ v' res) : f.Ran G v v' res := by
  cases res with
  | ok a => exact hl.trans h
  | error e => exact (hl.mono fun _ _ => .inl).trans h

theorem Ran.mono (h : f.Ran G v v' res) (hG : ∀ v δ, G v δ → G' v δ) : f.Ran G' v v' res := by
  cases res with
  | ok a => exact Leads.mono h hG
  | error e => exact Leads.mono h fun v δ => Or.imp_left (hG v δ)

end

theorem wp_createJobFor_of {P : Post Job} {externalID : UUID}
    (hrefused : ∀ e s', f.prepareJob s.clock s.ext externalID type = .error e → s'.db = s.db →
      s'.ext = s.ext → P (.error (.err e)) s')
    (hok : ∀ job s', f.prepareJob s.clock s.ext externalID type = .ok job.status →
      job.externalID = externalID → job.type = type → job.data = data → s'.db = s.db →
      s'.ext = { s.ext with jobs := s.ext.jobs ++ [job] } → P (.ok job) s') :
    (f.createJobFor externalID type data).wp i P s := by
  unfold Prog.wp createJobFor
  rw [run_call]
  cases hp : f.prepareJob s.clock s.ext externalID type with
  | error e => exact hrefused e _ hp rfl rfl
  | ok status => exact hok _ _ hp rfl rfl rfl rfl rfl

theorem wp_createJobFor {P : Post Job} {externalID : UUID}
    (hrefused : ∀ e s', f.RefusesJob → s'.view = s.view → P (.error e) s')
    (hok : ∀ job s', job.externalID = externalID → job.type = type → job.data = data →
      s'.db = s.db → s'.view = s.view.addJob job → P (.ok job) s') :
    (f.createJobFor externalID type data).wp i P s := by
  refine wp_createJobFor_of (fun e s' he hd hx => ?_) fun job s' _ hext hty hdata hd hx => ?_
  · exact hrefused _ _ ⟨_, _, _, _, e, he⟩ (view_congr hd hx)
  · exact hok job s' hext hty hdata hd (by simp only [St.view, View.addJob, hd, hx])

theorem wp_createSystemEventJob {P : Post Job} (ht : ctx.tenant ≠ "")
    (hrefused : ∀ e s', f.RefusesJob → s'.view = s.view → P (.error e) s')
    (hok : ∀ job s', job.externalID = data.systemID → job.type = type →
      job.data = { data with tenantID := ctx.tenant } → s'.db = s.db →
      s'.view = s.view.addJob job → P (.ok job) s') :
    (f.createSystemEventJob ctx type data).wp i P s := by
  have htenant : ctx.extractTenantID = .ok ctx.tenant := if_neg ht
  unfold createSystemEventJob
  rw [htenant]
  exact wp_createJobFor hrefused hok

theorem wp_setEvent {P : Post (Except Exn Unit)} {ev : Event}
    (hrefused : ∀ r s', f.repo.Refuses ctx s.clock → s'.view = s.view → P (.ok r) s')
    (hok : ∀ r s', s'.view = s.view.setEvent ev.identifier (some ev) → P (.ok r) s') :
    (f.repo.setEvent ctx ev).attempt.wp i P s := by
  refine wp_attempt (wp_exec_any (fun e s' hr hd hx => ?_) fun s' _ hd hx => ?_)
  · exact hrefused _ _ hr (view_congr hd hx)
  · refine hok _ _ ?_
    simp only [St.view, View.setEvent, hd, hx, Table.get?_upsert]
    rfl

/-- A system is submitted to a job, unless it is being processed or a statement is refused. If only
the job is refused, the system is marked nevertheless. -/
theorem wp_submit {P : Post Job} (hin : ctx.inTx = true) (hdata : data.systemID = sys.id)
    (hsys : s.db.connection sys.id = some sys.connection) (hname : s.db.name sys.id = some sys.name)
    (hkept : ∀ e s', sys.status = .processing ∨ f.repo.Refuses ctx s.clock → s'.view = s.view →
      P (.error e) s')
    (hmarked : ∀ e s', f.RefusesJob → sys.status ≠ .processing →
      s'.view = (mark sys.id sys.keyConfigurationID sys.targetKeyConfigurationID).apply s.view →
      P (.error e) s')
    (hok : ∀ job stored s', job.externalID = sys.id → job.type = type →
      job.data = { data with tenantID := ctx.tenant } → sys.status ≠ .processing →
      (stored = false → ∃ n, f.repo.fault n ≠ none) →
      s'.view = (submit job sys.status sys.keyConfigurationID sys.targetKeyConfigurationID
        stored).apply s.view → P (.ok job) s') :
    (f.handleSystemStatus ctx sys (f.createSystemEventJob ctx type data)).wp true P s := by
  obtain ⟨row, hrow, hconn⟩ := map_eq_some_iff.1 hsys
  have hid : row.id = sys.id := key_of_get? hrow
  have hname : sys.name = row.name := by
    rw [name, hrow, map_some] at hname
    exact (Option.some.inj hname).symm
  simp only [handleSystemStatus, transaction_inTx hin, Prog.throw_bind]
  by_cases hst : sys.status = .processing
  · rw [if_pos hst]
    exact hkept _ _ (.inl hst) rfl
  rw [if_neg hst]
  refine wp_bind (wp_bind (f.repo.wp_patchSystem true hrow
    (fun e hr => hkept _ _ (.inr hr) rfl) fun d' hacc hd => ?_))
  have ht : ctx.tenant ≠ "" := (not_or.1 hacc).1
  have hview : ({ s with db := d', clock := s.clock + 1 } : State).view =
      s.view.setConnection sys.id
        (.processing, sys.keyConfigurationID, sys.targetKeyConfigurationID) := by
    rw [hd.view (patchedSystem_name true hname), hid]
    rfl
  refine wp_createSystemEventJob ht (fun e s' hr hv => ?_) fun job s' hext hty hjob _ hv => ?_
  · exact hmarked _ _ hr hst (hv.trans hview)
  rw [hview] at hv
  rw [hdata] at hext
  refine wp_bind (wp_setEvent (fun r s1 hr hv1 => ?_) fun r s1 hv1 => ?_)
  · refine hok job false s1 hext hty hjob hst (fun _ => ⟨_, hr.resolve_left ht⟩) ?_
    rw [hv1, hv, ← hext]
    rfl
  · refine hok job true s1 hext hty hjob hst (by simp) ?_
    rw [hv1, hv, ← hext]
    rfl

end EventFactory

/-- The job of a link or switch to the key configuration `target` names its enabled primary key. -/
structure LinkJob (v : View) (job : Job) (prev : SystemStatus) (target : Option UUID) : Prop where
  data : job.data.systemID = job.externalID
  type : job.type = .systemLink ∨ job.type = .systemSwitch
  prev : prev ≠ .processing ∧ prev ≠ .failed
  key : ∃ kc key, v.keyConfiguration kc.id = some kc ∧ target = some kc.id ∧
    kc.primaryKeyID = some key.id ∧ v.key key.id = some key ∧ job.data.keyIDTo = some key.id

namespace SystemManager

variable {m : SystemManager} {systemID keyConfigID : UUID}

theorem chooseEvent_ok {old : Option UUID} {kc : KeyConfiguration} {n k : Nat} {event : SystemEvent}
    (h : (m.chooseEvent ctx old kc).eval d n = (.ok event, k)) :
    event = .link kc.primaryKeyID ∨
      old ≠ none ∧ ∃ keyID, event = .switch kc.primaryKeyID (some keyID) := by
  cases old with
  | none => cases h; exact .inl rfl
  | some oldID =>
    simp only [chooseEvent] at h
    split at h
    · cases h; exact .inl rfl
    · obtain ⟨oldKc, _, -, h⟩ := eval_bind_ok h
      split at h
      · rename_i hold
        cases h
        cases hp : oldKc.primaryKeyID with
        | none => rw [hp] at hold; cases hold
        | some keyID => exact .inr ⟨by simp, keyID, rfl⟩
      · cases h; exact .inl rfl

theorem wp_link (hin : ctx.inTx = true) (hkept : ∀ e s', s'.view = s.view → P (.error e) s')
    (hretargeted : ∀ e s' status kcID target,
      (retarget systemID status kcID target).Enabled s.view →
      s'.view = (retarget systemID status kcID target).apply s.view → P (.error e) s')
    (hmarked : ∀ e s' kcID target, m.eventFactory.RefusesJob →
      (mark systemID kcID target).Enabled s.view →
      s'.view = (mark systemID kcID target).apply s.view → P (.error e) s')
    (hok : ∀ s' job prev kcID target stored, job.externalID = systemID →
      LinkJob s.view job prev target → (stored = false → ∃ n, m.eventFactory.repo.fault n ≠ none) →
      (submit job prev kcID target stored).Enabled s.view →
      s'.view = (submit job prev kcID target stored).apply s.view → P (.ok ()) s') :
    (do
      let (system, keyConfig) ← m.linkSystemChecks ctx systemID keyConfigID
      let (system, event) ← m.selectEvent ctx system keyConfig
      m.eventFactory.sendEvent ctx system event : M Unit).wp true P s := by
  refine wp_query_bind (fun e n _ => hkept _ _ rfl) fun a n hchecks => ?_
  obtain ⟨sys, kc⟩ := a
  obtain ⟨⟨row, props, hrow, rfl⟩, -, hkc, ⟨key, hprimary, hkey, -⟩, hst, hfailed⟩ :=
    m.linkSystemChecks_ok hchecks
  have hid : row.id = systemID := key_of_get? hrow
  subst hid
  have hconn : s.view.connection row.id = some row.connection := by
    rw [view_connection, connection, hrow, map_some]
  refine wp_bind (wp_bind (m.repo.wp_patchSystem (s := { s with clock := n }) false hrow
    (fun e _ => hkept _ _ rfl) fun d' _ hd => ?_))
  generalize hsys : ({ patchedSystem false { row with
    properties := props, targetKeyConfigurationID := some kc.id } row with
      properties := props } : System) = sys
  have hsysID : sys.id = row.id := by rw [← hsys]; rfl
  have hsysConn : sys.connection = (row.status, row.keyConfigurationID, some kc.id) := by
    rw [← hsys]
    simp [System.connection, patchedSystem, systemUpdates, nonZero]
  have hview : ∀ k, ({ s with db := d', clock := k } : State).view =
      s.view.setConnection row.id (row.status, row.keyConfigurationID, some kc.id) := by
    intro k
    rw [hd.view (s := s) (patchedSystem_name false rfl), ← hsysConn, ← hsys]
    rfl
  refine wp_query_bind (fun e k _ => ?_) fun event k hevent => ?_
  · exact hretargeted e _ row.status row.keyConfigurationID (some kc.id) ⟨_, hconn⟩ (hview k)
  have hnew : d'.connection sys.id = some sys.connection := by
    rw [connection, hsysID, hd.new, ← hsys]
    rfl
  have hname : d'.name sys.id = some sys.name := by
    rw [name, hsysID, hd.new, ← hsys]
    rfl
  simp only [System.connection, Prod.mk.injEq] at hsysConn
  obtain ⟨hstatus, hkcID, htarget⟩ := hsysConn
  have hsend : ∀ (type : JobType) (data : SystemActionJobData), data.systemID = sys.id →
      data.keyIDTo = some key.id → (type = .systemLink ∨ type = .systemSwitch) →
      (type ≠ .systemLink → row.keyConfigurationID ≠ none) →
      (do
        let _ ← (m.eventFactory.handleSystemStatus ctx sys
          (m.eventFactory.createSystemEventJob ctx type data)).mapError
            (.wrap .errEventSendingFailed) : M Unit).wp true P { s with db := d', clock := k } := by
    intro type data hdata hto htype hlinked
    refine wp_bind (wp_mapError (wp_submit hin hdata hnew hname
      (fun e s' _ hv => ?_) (fun e s' hr _ hv => ?_) fun job stored s' hext hty hjob _ hstored hv => ?_))
    · exact hretargeted _ _ row.status row.keyConfigurationID (some kc.id) ⟨_, hconn⟩
        (hv.trans (hview k))
    · refine hmarked _ _ row.keyConfigurationID (some kc.id) hr ⟨_, _, hst, hconn⟩ ?_
      rw [hv, hview, hsysID, hkcID, htarget]
      simp only [apply, View.setConnection, update_idem]
    · have hext' : job.externalID = row.id := hext.trans hsysID
      have hdata' : job.data.systemID = job.externalID := by rw [hjob, hext]; exact hdata
      rw [hview, submit_setConnection hext', hstatus, hkcID, htarget] at hv
      refine hok s' job row.status row.keyConfigurationID (some kc.id) stored hext' ?_ hstored ?_ hv
      · refine ⟨hdata', by rw [hty]; exact htype, ⟨hst, hfailed⟩, kc, key, ?_, rfl, hprimary, hkey, ?_⟩
        · exact get?_of_byID hkc
        · rw [hjob]; exact hto
      · exact ⟨hst, hdata', hty ▸ hlinked, _, hext' ▸ hconn⟩
  rcases chooseEvent_ok hevent with rfl | ⟨hold, keyID, rfl⟩
  · rw [hprimary]
    exact hsend _ _ rfl rfl (.inl rfl) fun h => absurd rfl h
  · rw [hprimary]
    exact hsend _ _ rfl rfl (.inr rfl) fun _ => hold

theorem connection_of_row (h : d.systems.get? id = some sys) :
    d.connection sys.id = some sys.connection := by
  have hid : sys.id = id := key_of_get? h
  rw [connection, hid, h, map_some]

theorem name_of_row (h : d.systems.get? id = some sys) :
    d.name sys.id = some sys.name := by
  have hid : sys.id = id := key_of_get? h
  rw [name, hid, h, map_some]

theorem wp_unlink (hin : ctx.inTx = true) (hkept : ∀ e s', s'.view = s.view → P (.error e) s')
    (hmarked : ∀ e s' kcID target, m.eventFactory.RefusesJob →
      (mark systemID kcID target).Enabled s.view →
      s'.view = (mark systemID kcID target).apply s.view → P (.error e) s')
    (hok : ∀ s' job prev kcID target stored, job.externalID = systemID →
      job.type = .systemUnlink → job.data.keyIDTo = none →
      (stored = false → ∃ n, m.eventFactory.repo.fault n ≠ none) →
      (submit job prev kcID target stored).Enabled s.view →
      s'.view = (submit job prev kcID target stored).apply s.view → P (.ok ()) s') :
    (do
      let (system, keyConfig) ← m.unlinkSystemChecks ctx systemID
      m.sendSystemUnlinkEvent ctx system keyConfig : M Unit).wp true P s := by
  refine wp_query_bind (fun e n _ => hkept _ _ rfl) fun a n hchecks => ?_
  obtain ⟨sys, kc⟩ := a
  obtain ⟨hrow, hst, hlinked⟩ := m.unlinkSystemChecks_ok hchecks
  have hid : sys.id = systemID := key_of_get? hrow
  subst hid
  simp only [sendSystemUnlinkEvent]
  split
  · rename_i hkey
    obtain ⟨keyID, hkeyID⟩ : ∃ keyID, kc.primaryKeyID = some keyID := by
      cases hp : kc.primaryKeyID with
      | none => rw [hp] at hkey; cases hkey
      | some keyID => exact ⟨keyID, rfl⟩
    rw [hkeyID]
    refine wp_bind (wp_mapError (wp_submit (s := { s with clock := n }) hin rfl
      (connection_of_row hrow) (name_of_row hrow) (fun e s' _ hv => hkept _ _ hv) (fun e s' hr hst hv => ?_)
      fun job stored s' hext hty hjob hst hstored hv => ?_))
    · exact hmarked _ _ _ _ hr ⟨_, _, hst, connection_of_row hrow⟩ hv
    · have hdata : job.data.systemID = job.externalID := by rw [hjob, hext]
      exact hok s' job _ _ _ stored hext hty (by rw [hjob]) hstored
        ⟨hst, hdata, fun _ => hlinked, _, hext ▸ connection_of_row hrow⟩ hv
  · exact hkept _ _ rfl

theorem wp_decommission (hin : ctx.inTx = true) (hkept : ∀ e s', s'.view = s.view → P (.error e) s')
    (hmarked : ∀ e s' kcID target, m.eventFactory.RefusesJob →
      (mark systemID kcID target).Enabled s.view →
      s'.view = (mark systemID kcID target).apply s.view → P (.error e) s')
    (hok : ∀ s' job prev kcID target, job.externalID = systemID →
      job.type = .systemUnlinkDecommission → job.data.keyIDTo = none →
      (submit job prev kcID target false).Enabled s.view →
      s'.view = (submit job prev kcID target false).apply s.view → P (.ok ()) s') :
    (do
      let (system, keyConfig) ← m.unlinkSystemChecks ctx systemID
      if KeyConfigManager.isNotNilUUID keyConfig.primaryKeyID then
        let keyID ← (deref keyConfig.primaryKeyID : Except Exn UUID)
        let _ ← (m.eventFactory.systemUnlinkDecommission ctx system keyID).mapError
          (.wrap .errEventSendingFailed)
      else throw (.of .errUnlinkSystemNoPrimaryKey) : M Unit).wp true P s := by
  refine wp_query_bind (fun e n _ => hkept _ _ rfl) fun a n hchecks => ?_
  obtain ⟨sys, kc⟩ := a
  obtain ⟨hrow, hst, hlinked⟩ := m.unlinkSystemChecks_ok hchecks
  have hid : sys.id = systemID := key_of_get? hrow
  subst hid
  simp only
  split
  · rename_i hkey
    obtain ⟨keyID, hkeyID⟩ : ∃ keyID, kc.primaryKeyID = some keyID := by
      cases hp : kc.primaryKeyID with
      | none => rw [hp] at hkey; cases hkey
      | some keyID => exact ⟨keyID, rfl⟩
    rw [hkeyID]
    simp only [deref, Prog.ok_bind, systemUnlinkDecommission, transaction_inTx hin,
      Prog.throw_bind, if_neg hst, Prog.bind_assoc, Prog.pure_bind]
    have hconn : s.db.connection sys.id = some sys.connection := connection_of_row hrow
    refine wp_bind (wp_mapError (wp_bind
      (m.eventFactory.repo.wp_patchSystem (s := { s with clock := n }) true hrow
        (fun e _ => hkept _ _ rfl) fun d' hacc hd => ?_)))
    refine wp_createSystemEventJob (not_or.1 hacc).1 (fun e s' hr hv => ?_)
      fun job s' hext hty hjob _ hv => ?_
    · refine hmarked _ _ sys.keyConfigurationID sys.targetKeyConfigurationID hr
        ⟨_, _, hst, hconn⟩ (hv.trans ?_)
      rw [hd.view (s := s) rfl]
      rfl
    · have hext : job.externalID = sys.id := hext
      have hdata : job.data.systemID = job.externalID := by rw [hjob, hext]
      refine hok s' job sys.status sys.keyConfigurationID sys.targetKeyConfigurationID hext hty
        (by rw [hjob]) ⟨hst, hdata, fun _ => hlinked, _, hext ▸ hconn⟩ (hv.trans ?_)
      rw [hd.view (s := s) rfl, ← hext]
      rfl
  · exact hkept _ _ rfl

theorem getLastEvent_ok {f : EventFactory} {n k : Nat} {ev : Event}
    (h : (f.getLastEvent ctx id).eval d n = (.ok ev, k)) : d.events.get? id = some ev := by
  simp only [getLastEvent] at h
  obtain ⟨r, l, hr, h⟩ := eval_bind_ok h
  rw [Query.eval_attempt] at hr
  cases r with
  | error e => cases h
  | ok ev' =>
    cases h
    exact (eval_first_ok (Prod.ext (Except.ok.inj (Prod.mk.inj hr).1) rfl)).1

theorem wp_recovery {action : SystemRecoveryActionBodyAction}
    (hkept : ∀ e s', s'.view = s.view → P (.error e) s')
    (hact : ∀ n row props, s.db.systems.get? systemID = some row →
      (m.recoveryAction ctx systemID { row with properties := props } action).wp i P
        { s with clock := n }) :
    (m.sendRecoveryActions ctx systemID action).wp i P s := by
  refine wp_query_bind (fun e n _ => hkept _ _ rfl) fun sys n hsys => ?_
  obtain ⟨row, props, hrow, rfl⟩ := getSystemByIDWithProperties_ok (eval_mapError_ok hsys)
  exact wp_query_bind (fun e k _ => hkept _ _ rfl) fun _ k _ => hact k row props hrow

theorem wp_cancel {P : Except Exn Unit → View → Prop} (hkept : ∀ e, P (.error e) s.view)
    (hrestore : ∀ prev kcID, (restore systemID prev kcID).Enabled s.view →
      P (.ok ()) ((restore systemID prev kcID).apply s.view)) :
    (m.sendRecoveryActions ctx systemID .cancel).wp i (fun res s' => P res s'.view) s := by
  refine wp_recovery (fun e s' hv => hv ▸ hkept e) fun n row props hrow => ?_
  refine wp_query_bind (fun e k _ => hkept e) fun ev k hev => ?_
  have hev : s.db.events.get? systemID = some ev := getLastEvent_ok hev
  refine wp_exec_any (fun e s' _ hd hx => view_congr hd hx ▸ hkept e) fun s' _ hd hx => ?_
  have hconn : s.view.connection systemID = some row.connection := by
    rw [view_connection, connection, hrow, map_some]
  have hview : s'.view = (restore systemID ev.previousItemStatus row.keyConfigurationID).apply
      s.view := by
    have hc : s'.db.connection = update s.db.connection systemID
        (some (ev.previousItemStatus, row.keyConfigurationID, none)) := by
      funext id
      rw [connection, hd]
      simp only [get?_modify, hrow]
      by_cases hid : id = systemID
      · subst hid; simp [System.connection]
      · simp [hid, connection]
    have hn : s'.db.name = s.db.name := by
      funext id
      rw [name, hd]
      exact map_get?_modify_same System.name (fun row => { row with
        status := ev.previousItemStatus, targetKeyConfigurationID := none }) (fun _ => rfl) fun _ => rfl
    simp only [St.view, apply, View.setConnection, hn, hc, hx]
    rw [hd]
  rw [hview]
  exact hrestore _ _ ⟨⟨_, _, hconn⟩, ev, hev, rfl⟩

/-- A job that is created again from the Event row of a failed system. -/
structure Again (v : View) (systemID : UUID) (job : Job) : Prop where
  externalID : job.externalID = systemID
  failed : ∃ kcID target, v.connection systemID = some (.failed, kcID, target)
  event : ∃ ev, v.event systemID = some ev ∧ ev.type = job.type ∧ ev.data = job.data

theorem wp_retry {P : Except Exn Unit → View → Prop} (hin : ctx.inTx = false)
    (hkept : ∀ e, P (.error e) s.view)
    (hretry : ∀ job kcID target, Again s.view systemID job →
      (retry job kcID target).Enabled s.view →
      P (.ok ()) ((retry job kcID target).apply s.view))
    (hnotify : ∀ job, Again s.view systemID job → job.type = .systemKeyRotate →
      P (.ok ()) (s.view.addJob job))
    (hleft : ∀ job e, Again s.view systemID job → (∃ k, m.repo.commit k ≠ none) →
      P (.error e) (s.view.addJob job)) :
    (m.sendRecoveryActions ctx systemID .retry).wp false (fun res s' => P res s'.view) s := by
  refine wp_recovery (fun e s' hv => hv ▸ hkept e) fun n row props hrow => ?_
  simp only [recoveryAction, retrySystemAction, Prog.throw_bind]
  split
  · exact hkept _
  rename_i hst
  have hst : row.status = .failed := not_not.1 hst
  have hid : row.id = systemID := key_of_get? hrow
  have hconn : s.view.connection systemID =
      some (.failed, row.keyConfigurationID, row.targetKeyConfigurationID) := by
    rw [view_connection, connection, hrow, map_some, System.connection, hst]
  refine wp_query_bind (fun e k _ => hkept e) fun ev k hev => ?_
  have hev : s.db.events.get? systemID = some ev := hid ▸ getLastEvent_ok hev
  have hident : ev.identifier = systemID := key_of_get? hev
  have hagain : ∀ job : Job, job.externalID = ev.identifier → job.type = ev.type →
      job.data = ev.data → Again s.view systemID job := fun job hext hty hdata =>
    ⟨hext.trans hident, ⟨_, _, hconn⟩, ev, hev, hty.symm, hdata.symm⟩
  refine wp_bind (wp_mapError (wp_mono (wp_transaction_view
    (s := { s with clock := k })
    (P := fun res v => ∀ e, P (match res with
      | .ok _ => .ok ()
      | .error _ => .error e) v) hin ?_) fun res s' h => ?_))
  rotate_left
  · cases res with
    | ok job => exact h .panic
    | error e => exact h _
  have hcreate : ∀ s1 : State, s1.view.jobs = s.view.jobs →
      (∀ job, Again s.view systemID job → job.type = ev.type → P (.ok ()) (s1.view.addJob job)) →
      (m.eventFactory.createJobFor ev.identifier ev.type ev.data).wp true (fun res s' =>
        (∀ a, res = .ok a → ∀ _ : Exn, P (.ok ()) s'.view) ∧
        ((∀ a, res = .ok a → ∃ k, m.repo.commit k ≠ none) → ∀ _ e : Exn,
          P (.error e) { s.view with jobs := s'.view.jobs })) s1 := by
    intro s1 hjobs hdone
    refine wp_createJobFor (fun e s' _ hv => ⟨nofun, fun _ _ e => ?_⟩)
      fun job s' hext hty hdata _ hv => ⟨fun _ _ _ => ?_, fun hc _ e => ?_⟩
    · rw [hv, hjobs]; exact hkept e
    · rw [hv]; exact hdone job (hagain job hext hty hdata) hty
    · rw [hv, View.addJob, hjobs]
      exact hleft job e (hagain job hext hty hdata) (hc job rfl)
  by_cases hrotate : ev.type = .systemKeyRotate
  · rw [if_neg (not_not.2 hrotate)]
    exact hcreate { s with clock := k } rfl fun job hjob hty =>
      hnotify job hjob (hty.trans hrotate)
  · rw [if_pos hrotate]
    have hrow' : s.db.systems.get? row.id = some row := hid.symm ▸ hrow
    refine wp_bind (m.repo.wp_patchSystem (s := { s with clock := k }) false hrow'
      (fun e _ => ⟨nofun, fun _ _ e => hkept e⟩) fun d' _ hd => ?_)
    have hview : ({ s with db := d', clock := k + 1 } : State).view =
        s.view.setConnection systemID
          (.processing, row.keyConfigurationID, row.targetKeyConfigurationID) := by
      rw [hd.view (s := s) (patchedSystem_name false rfl), hid]
      simp [System.connection, patchedSystem, systemUpdates, nonZero]
    refine hcreate { s with db := d', clock := k + 1 } rfl fun job hjob hty => ?_
    have hext : job.externalID = systemID := hjob.externalID
    rw [hview, ← hext]
    refine hretry job row.keyConfigurationID row.targetKeyConfigurationID hjob
      ⟨hty ▸ hrotate, hext.symm ▸ hconn, hext.symm ▸ hjob.event⟩

end SystemManager

end Cmk
