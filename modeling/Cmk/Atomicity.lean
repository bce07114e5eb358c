import Cmk.Calls

/-!
# Cmk.Atomicity

What a failed action leaves behind. A transaction inside another one is only its function
(`Repo.transaction_inTx`): there is no savepoint, so when the lifecycle turns the error of an action
into the state FAILED, the writes the action made before the error are committed with it.

A link makes two writes to its system, an unlink one:

* `TargetWritten`              — a link passed its checks and stored the target key configuration.
* `LinkMarked`, `UnlinkMarked` — the status PROCESSING was stored; after that only the job can fail.
* `ActionKeeps`                — the action of a workflow stores neither the status nor another
  target.

`confirm_failed_iff` says that a failed workflow left its system as it was exactly if `ActionKeeps`.
-/

namespace Cmk

open Tx Repo Lifecycle Option Prog SystemManager

variable {row sys : System} {d d' : Db} {kc : KeyConfiguration} {k n : Nat}

variable {ctx : Ctx} {s : State}

def SystemEvent.Complete : SystemEvent → Prop
  | .link keyID | .unlink keyID => keyID.isSome
  | .switch keyIDTo keyIDFrom => keyIDTo.isSome ∧ keyIDFrom.isSome

namespace EventFactory

variable {f : EventFactory}

theorem createSystemEventJob_db (type : JobType) (data : SystemActionJobData) :
    (f.createSystemEventJob ctx type data).wp true (fun _ s' => s'.db = s.db) s :=
  wp_query_bind (q := .done _) (fun _ _ _ => rfl) fun _ _ _ => rfl

theorem wp_handleSystemStatus {P : Post Job} (hin : ctx.inTx = true)
    (hrow : s.db.systems.get? sys.id = some row) (hst : sys.status ≠ .processing) (type : JobType)
    (data : SystemActionJobData)
    (hrefused : ∀ e, f.repo.Refuses ctx s.clock → P (.error e) { s with clock := s.clock + 1 })
    (hmarked : ∀ r s', ¬ f.repo.Refuses ctx s.clock →
      s'.db.connection sys.id =
        some (.processing, sys.keyConfigurationID, sys.targetKeyConfigurationID) → P r s') :
    (f.handleSystemStatus ctx sys (f.createSystemEventJob ctx type data)).wp true P s := by
  simp only [handleSystemStatus, transaction_inTx hin, throw_bind, if_neg hst]
  refine wp_bind (wp_bind (f.repo.wp_patchSystem true hrow hrefused fun d' hacc hd => ?_))
  have hid : row.id = sys.id := key_of_get? hrow
  have hconn : d'.connection sys.id =
      some (.processing, sys.keyConfigurationID, sys.targetKeyConfigurationID) := by
    rw [Db.connection, ← hid, hd.new]
    rfl
  refine wp_mono (createSystemEventJob_db type data) fun r s' hdb => ?_
  have hconn' : s'.db.connection sys.id =
      some (.processing, sys.keyConfigurationID, sys.targetKeyConfigurationID) := by rw [hdb]; exact hconn
  cases r with
  | error e => exact hmarked _ _ hacc hconn'
  | ok job =>
    refine wp_bind (wp_attempt (wp_exec (fun e _ => ?_) fun _ => ?_))
    · exact hmarked _ _ hacc hconn'
    · exact hmarked _ _ hacc hconn'

theorem wp_sendEvent {P : Post Unit} (hin : ctx.inTx = true) {event : SystemEvent}
    (hevent : event.Complete) (hrow : s.db.systems.get? sys.id = some row)
    (hst : sys.status ≠ .processing)
    (hrefused : ∀ e, f.repo.Refuses ctx s.clock → P (.error e) { s with clock := s.clock + 1 })
    (hmarked : ∀ r s', ¬ f.repo.Refuses ctx s.clock →
      s'.db.connection sys.id =
        some (.processing, sys.keyConfigurationID, sys.targetKeyConfigurationID) → P r s') :
    (f.sendEvent ctx sys event).wp true P s := by
  have hjob : ∀ type data, wp true (do
      let _ ← (f.handleSystemStatus ctx sys (f.createSystemEventJob ctx type data)).mapError
        (.wrap .errEventSendingFailed)) P s := by
    intro type data
    refine wp_bind (wp_mapError (wp_handleSystemStatus hin hrow hst type data
      (fun e hr => hrefused _ hr) fun r s' hacc hconn => ?_))
    cases r with
    | error e => exact hmarked _ _ hacc hconn
    | ok job => exact hmarked _ _ hacc hconn
  cases event with
  | link keyID =>
    obtain ⟨id, rfl⟩ := isSome_iff_exists.1 hevent
    exact hjob _ _
  | unlink keyID =>
    obtain ⟨id, rfl⟩ := isSome_iff_exists.1 hevent
    exact hjob _ _
  | switch keyIDTo keyIDFrom =>
    obtain ⟨idTo, rfl⟩ := isSome_iff_exists.1 hevent.1
    obtain ⟨idFrom, rfl⟩ := isSome_iff_exists.1 hevent.2
    exact hjob _ _

end EventFactory

def Db.TargetIs (d : Db) (id keyConfigID : UUID) : Prop :=
  ∀ row, d.systems.get? id = some row → row.targetKeyConfigurationID = some keyConfigID

theorem Db.connection_ne {id : UUID} {c : Option UUID × Option UUID}
    (hrow : d.systems.get? id = some row) (hst : row.status ≠ .processing)
    (h : d'.connection id = some (.processing, c)) : d'.connection id ≠ d.connection id := by
  intro heq
  rw [h, connection, hrow] at heq
  exact hst (congrArg Prod.fst (Option.some.inj heq)).symm

namespace SystemManager

variable {m : SystemManager} {systemID keyConfigID : UUID}

/-- A link at statement `n` passes its checks, and its target `kc` is stored. -/
def TargetWritten (m : SystemManager) (ctx : Ctx) (systemID keyConfigID : UUID) (d : Db) (n : Nat)
    (kc : KeyConfiguration) : Prop :=
  ∃ sys k, (m.linkSystemChecks ctx systemID keyConfigID).eval d n = (.ok (sys, kc), k) ∧
    ¬ m.repo.Refuses ctx k

/-- A link at statement `n` also finds its event, and the status is stored. -/
def LinkMarked (m : SystemManager) (ctx : Ctx) (systemID keyConfigID : UUID) (d : Db) (n : Nat) :
    Prop :=
  ∃ sys kc k event k',
    (m.linkSystemChecks ctx systemID keyConfigID).eval d n = (.ok (sys, kc), k) ∧
    ¬ m.repo.Refuses ctx k ∧
    (m.chooseEvent ctx sys.keyConfigurationID kc).eval d (k + 1) = (.ok event, k') ∧
    ¬ m.eventFactory.repo.Refuses ctx k'

/-- The status is not stored, and neither is another target. -/
def LinkKeeps (m : SystemManager) (ctx : Ctx) (systemID keyConfigID : UUID) (d : Db) (n : Nat) :
    Prop :=
  ¬ m.LinkMarked ctx systemID keyConfigID d n ∧
    ∀ kc, m.TargetWritten ctx systemID keyConfigID d n kc → d.TargetIs systemID kc.id

/-- An unlink at statement `n` passes its checks, and the status is stored. -/
def UnlinkMarked (m : SystemManager) (ctx : Ctx) (systemID : UUID) (d : Db) (n : Nat) : Prop :=
  ∃ sys kc k, (m.unlinkSystemChecks ctx systemID).eval d n = (.ok (sys, kc), k) ∧
    KeyConfigManager.isNotNilUUID kc.primaryKeyID ∧ ¬ m.eventFactory.repo.Refuses ctx k

theorem chooseEvent_congr (h : d'.keyConfigurations = d.keyConfigurations) (old : Option UUID)
    (kc : KeyConfiguration) (n : Nat) :
    (m.chooseEvent ctx old kc).eval d' n = (m.chooseEvent ctx old kc).eval d n := by
  cases old with
  | none => rfl
  | some oldID =>
    simp only [chooseEvent]
    split
    · rfl
    · simp only [eval_bind, eval_mapError, firstKeyConfiguration, first,
        query, Query.eval_ask, h]
      split
      · split <;> rfl
      · rfl

theorem chooseEvent_complete {old : Option UUID} {keyID : UUID} {event : SystemEvent}
    (hkey : kc.primaryKeyID = some keyID) (h : (m.chooseEvent ctx old kc).eval d n = (.ok event, k)) :
    event.Complete := by
  have hlink : (SystemEvent.link kc.primaryKeyID).Complete := by simp [SystemEvent.Complete, hkey]
  cases old with
  | none => cases h; exact hlink
  | some oldID =>
    simp only [chooseEvent] at h
    split at h
    · cases h; exact hlink
    · obtain ⟨oldKc, _, -, h⟩ := eval_bind_ok h
      split at h
      · rename_i hold
        cases h
        refine ⟨by simp [hkey], ?_⟩
        cases hp : oldKc.primaryKeyID with
        | none => rw [hp] at hold; cases hold
        | some _ => rfl
      · cases h; exact hlink

theorem targetWritten_iff
    (h : (m.linkSystemChecks ctx systemID keyConfigID).eval d n = (.ok (sys, kc), k))
    (kc' : KeyConfiguration) :
    m.TargetWritten ctx systemID keyConfigID d n kc' ↔ kc' = kc ∧ ¬ m.repo.Refuses ctx k := by
  constructor
  · rintro ⟨sys', k', h', hacc⟩
    cases h.symm.trans h'
    exact ⟨rfl, hacc⟩
  · rintro ⟨rfl, hacc⟩
    exact ⟨sys, k, h, hacc⟩

theorem LinkMarked.targetWritten (h : m.LinkMarked ctx systemID keyConfigID d n) :
    ∃ kc, m.TargetWritten ctx systemID keyConfigID d n kc := by
  obtain ⟨sys, kc, k, event, k', hchecks, hacc, -, -⟩ := h
  exact ⟨kc, sys, k, hchecks, hacc⟩

theorem linkMarked_iff
    (h : (m.linkSystemChecks ctx systemID keyConfigID).eval d n = (.ok (sys, kc), k))
    (hacc : ¬ m.repo.Refuses ctx k) :
    m.LinkMarked ctx systemID keyConfigID d n ↔ ∃ event k',
      (m.chooseEvent ctx sys.keyConfigurationID kc).eval d (k + 1) = (.ok event, k') ∧
        ¬ m.eventFactory.repo.Refuses ctx k' := by
  refine ⟨?_, fun ⟨event, k', he, hacc'⟩ => ⟨sys, kc, k, event, k', h, hacc, he, hacc'⟩⟩
  rintro ⟨sys', kc', l, event, k', h', -, he, hacc'⟩
  cases h.symm.trans h'
  exact ⟨event, k', he, hacc'⟩

/-- A link leaves its system as it was exactly if it stores neither the status nor another target,
whatever it returns. -/
theorem linkSystemAction_kept (hin : ctx.inTx = true) :
    (m.linkSystemAction ctx systemID keyConfigID).wp true (fun _ s' =>
      s'.db.connection systemID = s.db.connection systemID ↔
        m.LinkKeeps ctx systemID keyConfigID s.db s.clock) s := by
  have hunwritten : ∀ d : Db, d = s.db →
      (∀ kc, ¬ m.TargetWritten ctx systemID keyConfigID s.db s.clock kc) →
      (d.connection systemID = s.db.connection systemID ↔
        m.LinkKeeps ctx systemID keyConfigID s.db s.clock) := by
    rintro d rfl hno
    refine iff_of_true rfl ⟨fun h => ?_, fun kc h => absurd h (hno kc)⟩
    obtain ⟨kc, h⟩ := h.targetWritten
    exact hno kc h
  unfold linkSystemAction
  rw [transaction_inTx hin]
  refine wp_mapError (wp_query_bind (fun e n he => hunwritten _ rfl ?_) fun a k hk => ?_)
  · rintro kc ⟨sys, k, h, -⟩
    cases he.symm.trans h
  obtain ⟨sys, kc⟩ := a
  obtain ⟨⟨row, props, hrow, rfl⟩, -, -, ⟨key, hkey, -⟩, hst, -⟩ := m.linkSystemChecks_ok hk
  have hid : row.id = systemID := key_of_get? hrow
  subst hid
  refine wp_bind (wp_bind (m.repo.wp_patchSystem (s := { s with clock := k }) false hrow
    (fun e hr => hunwritten _ rfl fun _ h => ((targetWritten_iff hk _).1 h).2 hr) fun d' hacc hd => ?_))
  have hwritten := fun kc' => (targetWritten_iff hk kc').trans (and_iff_left hacc)
  have hnew : d'.connection row.id = some (row.status, row.keyConfigurationID, some kc.id) := by
    rw [Db.connection, hd.new, map_some]
    simp [System.connection, patchedSystem, systemUpdates, nonZero]
  -- from here on the target is stored
  have htarget : ∀ d : Db, d.connection row.id = d'.connection row.id →
      ¬ m.LinkMarked ctx row.id keyConfigID s.db s.clock →
      (d.connection row.id = s.db.connection row.id ↔
        m.LinkKeeps ctx row.id keyConfigID s.db s.clock) := by
    intro d hd hno
    rw [hd, hnew, Db.connection, hrow]
    simp only [LinkKeeps, hno, hwritten, not_false_eq_true, true_and, forall_eq, Db.TargetIs, hrow,
      Option.some.injEq, forall_eq', map_some, System.connection, Prod.mk.injEq]
    exact eq_comm
  refine wp_query_bind (fun e n he => htarget _ rfl ?_) fun event k' he => ?_
  all_goals rw [chooseEvent_congr hd.keyConfigurations] at he
  · rw [linkMarked_iff hk hacc]
    rintro ⟨event, k', he', -⟩
    cases he.symm.trans he'
  · have hsend : ∀ sys : System, sys.id = row.id → sys.status ≠ .processing →
        (m.eventFactory.sendEvent ctx sys event).wp true (fun _ s' =>
          s'.db.connection row.id = s.db.connection row.id ↔
            m.LinkKeeps ctx row.id keyConfigID s.db s.clock) { s with db := d', clock := k' } := by
      intro sys hid hst'
      refine EventFactory.wp_sendEvent (s := { s with db := d', clock := k' }) hin
        (chooseEvent_complete hkey he) (hid ▸ hd.new) hst' (fun e hr => htarget _ rfl ?_)
        fun r s' hacc' hconn => ?_
      · rw [linkMarked_iff hk hacc]
        rintro ⟨event', l, he', hacc'⟩
        cases he.symm.trans he'
        exact hacc' hr
      · have hmarked := (linkMarked_iff hk hacc).2 ⟨event, k', he, hacc'⟩
        exact iff_of_false (Db.connection_ne hrow hst (hid ▸ hconn)) fun h => h.1 hmarked
    exact hsend _ rfl hst

theorem unlinkSystemAction_kept (hin : ctx.inTx = true) :
    (m.unlinkSystemAction ctx systemID).wp true (fun _ s' =>
      s'.db.connection systemID = s.db.connection systemID ↔
        ¬ m.UnlinkMarked ctx systemID s.db s.clock) s := by
  unfold unlinkSystemAction
  rw [transaction_inTx hin]
  refine wp_query_bind (fun e n he => ?_) fun a k hk => ?_
  · refine iff_of_true rfl ?_
    rintro ⟨sys, kc, k, h, -⟩
    cases he.symm.trans h
  obtain ⟨sys, kc⟩ := a
  obtain ⟨hrow, hst, -⟩ := m.unlinkSystemChecks_ok hk
  have hid : sys.id = systemID := key_of_get? hrow
  subst hid
  have hiff : m.UnlinkMarked ctx sys.id s.db s.clock ↔
      KeyConfigManager.isNotNilUUID kc.primaryKeyID ∧ ¬ m.eventFactory.repo.Refuses ctx k := by
    refine ⟨?_, fun h => ⟨sys, kc, k, hk, h⟩⟩
    rintro ⟨sys', kc', k', h', h⟩
    cases hk.symm.trans h'
    exact h
  simp only [sendSystemUnlinkEvent]
  split
  · rename_i hkey
    have hcomplete : (SystemEvent.unlink kc.primaryKeyID).Complete := by
      cases hp : kc.primaryKeyID with
      | none => rw [hp] at hkey; cases hkey
      | some _ => rfl
    refine EventFactory.wp_sendEvent (s := { s with clock := k }) hin hcomplete hrow hst
      (fun e hr => ?_) fun r s' hacc hconn => ?_
    · exact iff_of_true rfl fun h => (hiff.1 h).2 hr
    · exact iff_of_false (Db.connection_ne hrow hst hconn) (not_not.2 (hiff.2 ⟨hkey, hacc⟩))
  · rename_i hkey
    exact iff_of_true rfl fun h => hkey (hiff.1 h).1

end SystemManager

namespace WorkflowManager

variable {w : WorkflowManager} {wf : Workflow} {l : Lifecycle}

/-- The action of a workflow on a system, begun at statement `n` of the store `d`, stores neither
the status nor another target. -/
def ActionKeeps (w : WorkflowManager) (ctx : Ctx) (wf : Workflow) (d : Db) (n : Nat) : Prop :=
  match wf.actionType with
  | .link | .switch => ∀ keyConfigID, w.parseUUID wf.parameters = .ok keyConfigID →
      w.systemManager.LinkKeeps ctx wf.artifactID keyConfigID d n
  | .unlink => ¬ w.systemManager.UnlinkMarked ctx wf.artifactID d n
  | _ => True

theorem executionError_kept {α : Type} {p : M α} {Q : State → Prop}
    (h : p.wp true (fun _ => Q) s) : (executionError p).wp true (fun _ => Q) s :=
  wp_state_bind (wp_mapError h) fun _ _ hq => hq

theorem handler_kept (hin : ctx.inTx = true) (hl : BuiltFor w wf l) (hty : wf.artifactType = .system)
    (hact : wf.actionType = .link ∨ wf.actionType = .switch ∨ wf.actionType = .unlink) :
    (l.handler ctx).wp true (fun _ s' =>
      s'.db.connection wf.artifactID = s.db.connection wf.artifactID ↔
        w.ActionKeeps ctx wf s.db s.clock) s := by
  have hlink : wf.actionType = .link ∨ wf.actionType = .switch →
      (l.systemLinkOrSwitch ctx).wp true (fun _ s' =>
        s'.db.connection wf.artifactID = s.db.connection wf.artifactID ↔
          w.ActionKeeps ctx wf s.db s.clock) s := by
    intro hact
    have hkeeps : w.ActionKeeps ctx wf s.db s.clock ↔
        ∀ keyConfigID, w.parseUUID wf.parameters = .ok keyConfigID →
          w.systemManager.LinkKeeps ctx wf.artifactID keyConfigID s.db s.clock := by
      rcases hact with hact | hact <;> simp only [ActionKeeps, hact]
    simp only [hkeeps, systemLinkOrSwitch, parametersID, hl.workflow, hl.parseUUID,
      hl.systemActions]
    cases hp : w.parseUUID wf.parameters with
    | error e => exact iff_of_true rfl fun _ h => (nomatch h)
    | ok keyConfigID =>
      refine executionError_kept (wp_mono (linkSystemAction_kept hin)
        fun _ s' h => h.trans ?_)
      simp
  unfold handler
  rw [hl.workflow, hty]
  rcases hact with hact | hact | hact
  · rw [hact]; exact hlink (.inl hact)
  · rw [hact]; exact hlink (.inr hact)
  · simp only [hact, systemUnlink, hl.workflow, hl.systemActions, ActionKeeps]
    exact executionError_kept (unlinkSystemAction_kept hin)

theorem executeWorkflowAction_kept (hin : ctx.inTx = true) (hl : BuiltFor w wf l)
    (hty : wf.artifactType = .system)
    (hact : wf.actionType = .link ∨ wf.actionType = .switch ∨ wf.actionType = .unlink)
    {r : Except Exn Unit} {s1 : State} (hrun : (l.executeWorkflowAction ctx).run true s = (r, s1)) :
    s1.db.connection wf.artifactID = s.db.connection wf.artifactID ↔
      w.ActionKeeps ctx wf s.db (s.clock + 1) := by
  let s0 : State := { s with
    ext := { s.ext with executed := ⟨l.workflow.id, s.db, s.clock⟩ :: s.ext.executed }
    clock := s.clock + 1 }
  have hrun' : (l.handler ctx).run true s0 = (r, s1) := hrun
  exact wp_of_run (handler_kept (s := s0) hin hl hty hact) hrun'

/-- What is left of the action of a workflow that is stored as failed. -/
def FailedAs (w : WorkflowManager) (ctx : Ctx) (wf : Workflow) (s s' : St Db World) : Prop :=
  ∀ wf', s'.db.workflows.get? wf.id = some wf' → wf'.state = .failed → ∃ d n, Configured s.db d ∧
    s'.ext.executed = ⟨wf.id, d, n⟩ :: s.ext.executed ∧
    (s'.db.connection wf.artifactID = s.db.connection wf.artifactID ↔ w.ActionKeeps ctx wf d (n + 1))

theorem transitionWorkflow_failedAs (hrow : s.db.workflows.get? wf.id = some wf)
    (hst : wf.state = .waitConfirmation) (hty : wf.artifactType = .system)
    (hact : wf.actionType = .link ∨ wf.actionType = .switch ∨ wf.actionType = .unlink) :
    (w.transitionWorkflow ctx.request wf.id .confirm).wp false
      (fun _ => w.FailedAs ctx.tx wf s) s := by
  have hsame : ∀ s' : State, s'.db = s.db → w.FailedAs ctx.tx wf s s' := by
    intro s' hdb wf' hwf' hfailed
    rw [hdb, hrow] at hwf'
    cases hwf'
    rw [hst] at hfailed
    cases hfailed
  refine wp_transitionWorkflow (fun s' h => hsame s' h.db) ?_ fun u wf1 _ _ hrow1 hid => ?_
  · intro s1 s2 h hstill wf' hwf' hfailed
    rw [hstill.db] at hwf' ⊢
    rw [show s2.ext.executed = s1.ext.executed from hstill.log]
    exact h wf' hwf' hfailed
  · rw [hid, hrow] at hrow1
    cases hrow1
    have henum : enumError wf = none := by
      rcases hact with h | h | h <;> simp [enumError, hty, h] <;> decide
    refine wp_mapError (wp_transaction rfl (wp_applyTransitionTx_finish
      (s := { s with clock := s.clock + 1 }) rfl nofun hrow henum ?_ ?_ ?_ ?_))
    · exact fun e s' _ => ⟨fun _ h => (nomatch h), fun _ _ k => hsame _ rfl⟩
    · exact fun e s' d n _ _ _ _ _ => ⟨fun _ h => (nomatch h), fun _ _ k => hsame _ rfl⟩
    · exact fun wf' s' h => (nomatch h)
    · intro wf' l r s0 s1 s' _ _ _ hperf _ hx hconn _
      refine ⟨fun _ _ _ _ _ => ⟨s0.db, s0.clock, hperf.configured, hx ▸ hperf.logged, ?_⟩,
        fun _ _ k => hsame _ rfl⟩
      have hkept := executeWorkflowAction_kept rfl hperf.built hty hact hperf.run
      have hcfg : s0.db.connection = s.db.connection := by rw [hperf.configured]; rfl
      rw [hcfg, ← congrFun hconn] at hkept
      exact hkept

end WorkflowManager

/-- A transaction in a transaction that swallows its error: what its function wrote is committed. -/
theorem Repo.run_swallowed {α : Type} (r : Repo) {txFunc : Ctx → M α} {e : Err} {s1 : State}
    (h : (txFunc ctx.tx).run true s = (.error (.err e), s1)) (hc : r.commit s1.clock = none) :
    (r.transaction ctx.request fun ctx => do let _ ← (r.transaction ctx txFunc).attempt).run false s =
      (.ok (), { s1 with clock := s1.clock + 1, commits := s1.db :: s.commits }) := by
  have hn : s1.commits = s.commits := by
    have hn := run_nested_commits (txFunc ctx.tx) s
    rwa [h] at hn
  have hbody : (do let _ ← (r.transaction ctx.tx txFunc).attempt : M Unit).run true s =
      (.ok (), s1) := by
    rw [transaction_inTx rfl, run_bind, run_attempt, h]
    rfl
  have hreq : ({ ctx.request with inTx := true } : Ctx) = ctx.tx := rfl
  rw [transaction_outermost rfl, run_mapError, run_transact, hreq, hbody, ← hn]
  simp only [settle, hc]
  rfl

/-- A workflow on a system that is stored as failed leaves the system as it was exactly if its
action stored neither the status nor another target; and a nested transaction that fails leaves
the committed store as it was exactly if its function did. -/
theorem confirm_failed_iff (w : WorkflowManager) (ctx : Ctx) (wf wf' : Workflow) (s s' : St Db World)
    (r : Except Exn Workflow) (hrow : s.db.workflows.get? wf.id = some wf)
    (hst : wf.state = .waitConfirmation) (hty : wf.artifactType = .system)
    (hact : wf.actionType = .link ∨ wf.actionType = .switch ∨ wf.actionType = .unlink)
    (hrun : (w.transitionWorkflow ctx.request wf.id .confirm).run false s = (r, s'))
    (hrow' : s'.db.workflows.get? wf.id = some wf') (hfailed : wf'.state = .failed) :
    (∃ d n, Configured s.db d ∧ s'.ext.executed = ⟨wf.id, d, n⟩ :: s.ext.executed ∧
      (s'.db.connection wf.artifactID = s.db.connection wf.artifactID ↔
        w.ActionKeeps ctx.tx wf d (n + 1))) ∧
    ∀ {α : Type} (txFunc : Ctx → M α) (e : Err) (s s₁ : St Db World),
      (txFunc ctx.tx).run true s = (.error (.err e), s₁) → w.repo.commit s₁.clock = none →
      ∃ s', (w.repo.transaction ctx.request fun ctx => do
          let _ ← (w.repo.transaction ctx txFunc).attempt).run false s = (.ok (), s') ∧
        s'.commits = s'.db :: s.commits ∧ (s'.db = s.db ↔ s₁.db = s.db) :=
  ⟨Prog.wp_of_run (WorkflowManager.transitionWorkflow_failedAs hrow hst hty hact) hrun wf' hrow' hfailed,
    fun _ _ _ _ h hc => ⟨_, w.repo.run_swallowed h hc, rfl, Iff.rfl⟩⟩

namespace Sample

def refusing : WorkflowProcessor :=
  ⟨manager (fun _ => ["a", "b", "c", "i"]) fun _ => .error (.foreign "orbital"), repo⟩

def approved : St Db World := Call.afterAll refusing twoApprovals start

def failed : St Db World :=
  ((refusing.updater.transitionWorkflow (as "i").request 1 .confirm).run false approved).2

end Sample

open Sample in
/-- The failed link is a case of the theorem. -/
theorem confirm_failed_iff_refusing : ∃ wf, approved.db.workflows.get? 1 = some wf ∧
    ∃ d n, failed.ext.executed = ⟨1, d, n⟩ :: approved.ext.executed ∧
      (failed.db.connection 40 = approved.db.connection 40 ↔
        refusing.updater.ActionKeeps (as "i").tx wf d (n + 1)) := by
  have hrow : (approved.db.workflows.get? 1).map (fun wf => (wf.state, wf.artifactType,
      wf.artifactID, wf.actionType)) = some (.waitConfirmation, .system, 40, .link) := by
    decide +kernel
  have hrow' : (failed.db.workflows.get? 1).map (·.state) = some .failed := by decide +kernel
  obtain ⟨wf, hwf, heq⟩ := Option.map_eq_some_iff.1 hrow
  obtain ⟨wf', hwf', hfailed⟩ := Option.map_eq_some_iff.1 hrow'
  have hid : wf.id = 1 := Table.key_of_get? hwf
  simp only [Prod.mk.injEq] at heq
  obtain ⟨hst, hty, hart, hact⟩ := heq
  obtain ⟨⟨d, n, -, hlog, hiff⟩, -⟩ := confirm_failed_iff refusing.updater (as "i") wf wf' approved
    failed _ (hid ▸ hwf) hst hty (.inl hact) (by rw [hid]; rfl) (hid ▸ hwf') hfailed
  rw [hart] at hiff
  rw [hid] at hlog
  exact ⟨wf, hwf, d, n, hlog, hiff⟩

open Sample in
/-- The workflow has failed, but its system is still marked as being connected. -/
theorem failed_link_committed :
    approved.db.workflows.rows.map (·.state) = [.waitConfirmation] ∧
      failed.db.workflows.rows.map (·.state) = [.failed] ∧
      approved.db.connection 40 = some (.disconnected, none, none) ∧
      failed.db.connection 40 = some (.processing, none, some 30) := by
  decide +kernel

end Cmk
