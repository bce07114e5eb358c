import Cmk.Jobs.Quiet
import Cmk.Link

/-!
# Cmk.Jobs.Gate

What `GetRecoveryActions` offers, and what `SendRecoveryActions` does.

The two look at different things. A cancel is offered for a FAILED system with an event that may be
canceled, and is done for every system that has an event; a retry is offered to an administrator of
the event's key, and is done for everyone who may modify the link of the system.

* `Finds`           — the system, its event and the access of the caller.
* `cancels_iff`, `retries_iff`     — when something is done.
* `canCancel_iff`, `canRetry_iff`  — when it is offered.
-/

namespace Cmk

open Tx Repo Query

variable {d : Db} {k n : Nat}

namespace SystemManager

variable (m : SystemManager) (ctx : Ctx) (systemID : UUID) (s : State)

/-- The system, read until `n`, its event, and a caller who may modify the link. -/
structure Finds (sys : System) (n : Nat) (ev : Event) : Prop where
  system : (m.getSystemByID ctx systemID).eval s.db s.clock = (.ok sys, n)
  access : ∃ b k, (m.user.hasSystemAccess ctx .systemModifyLink sys).eval s.db n = (.ok b, k)
  event : s.db.events.get? systemID = some ev

def Admits : Prop :=
  ∃ sys n b k, (m.getSystemByID ctx systemID).eval s.db s.clock = (.ok sys, n) ∧
    (m.user.hasSystemAccess ctx .systemModifyLink sys).eval s.db n = (.ok b, k)

def Cancels : Prop :=
  ((m.sendRecoveryActions ctx systemID .cancel).run false s).2.db.systems.get? systemID ≠
    s.db.systems.get? systemID

/-- A retry creates a job. -/
def Retries : Prop :=
  ((m.sendRecoveryActions ctx systemID .retry).run false s).2.ext.jobs ≠ s.ext.jobs

instance : Decidable (m.Cancels ctx systemID s) := by unfold Cancels; infer_instance

instance : Decidable (m.Retries ctx systemID s) := by unfold Retries; infer_instance

def CanCancel : Prop :=
  ∃ r n, (m.getRecoveryActions ctx systemID).eval s.db s.clock = (.ok r, n) ∧ r.canCancel

def CanRetry : Prop :=
  ∃ r n, (m.getRecoveryActions ctx systemID).eval s.db s.clock = (.ok r, n) ∧ r.canRetry

variable {m ctx systemID s}

theorem getSystemByID_ok {sys : System} (h : (m.getSystemByID ctx systemID).eval d k = (.ok sys, n)) :
    ctx.tenant ≠ "" ∧ ∃ row props, d.systems.get? systemID = some row ∧
      sys = { row with properties := props } := by
  have h := eval_mapError_ok h
  refine ⟨?_, getSystemByIDWithProperties_ok h⟩
  obtain ⟨_, _, hlist, -⟩ := eval_bind_ok h
  exact eval_query_tenant (eval_mapError_ok hlist)

theorem eval_getLastEvent {f : EventFactory} (hfault : ∀ n, f.repo.fault n = none)
    (ht : ctx.tenant ≠ "") :
    (f.getLastEvent ctx systemID).eval d n =
      ((d.events.get? systemID).elim (.error (.of .errNoPreviousEvent)) .ok, n + 1) := by
  simp only [EventFactory.getLastEvent, firstEvent, first, eval_bind,
    eval_attempt, eval_query ht (hfault n)]
  cases d.events.get? systemID <;> rfl

theorem wp_sendRecoveryActions {P : Post Unit}
    {action : SystemRecoveryActionBodyAction}
    (hrefused : (∀ sys n ev, ¬ m.Finds ctx systemID s sys n ev) → ∀ e n,
      P (.error e) { s with clock := n })
    (hact : ∀ sys n b k, (m.getSystemByID ctx systemID).eval s.db s.clock = (.ok sys, n) →
      (m.user.hasSystemAccess ctx .systemModifyLink sys).eval s.db n = (.ok b, k) →
      (m.recoveryAction ctx systemID sys action).wp false P { s with clock := k }) :
    (m.sendRecoveryActions ctx systemID action).wp false P s := by
  refine wp_query_bind (fun e n he => hrefused (fun sys k ev hf => ?_) e n) fun sys n hsys => ?_
  · cases he.symm.trans hf.system
  · refine wp_query_bind (fun e k he => hrefused (fun sys' n' ev hf => ?_) e k)
      fun b k hb => hact sys n b k hsys hb
    cases hsys.symm.trans hf.system
    obtain ⟨b, l, hb⟩ := hf.access
    cases he.symm.trans hb

theorem wp_getLastEvent_bind {α : Type} {P : Post α} {f : EventFactory}
    {h : Event → M α} (hfault : ∀ n, f.repo.fault n = none) (ht : ctx.tenant ≠ "")
    (hnone : s.db.events.get? systemID = none → ∀ e n, P (.error e) { s with clock := n })
    (hsome : ∀ ev n, s.db.events.get? systemID = some ev → (h ev).wp false P { s with clock := n }) :
    ((liftM (f.getLastEvent ctx systemID) : M Event) >>= h).wp false P s := by
  refine wp_query_bind (fun e n he => ?_) fun ev n he => ?_
  all_goals
    rw [eval_getLastEvent hfault ht] at he
    cases hev : s.db.events.get? systemID with
    | none => rw [hev] at he; cases he <;> exact hnone hev _ _
    | some ev => rw [hev] at he; cases he <;> exact hsome ev _ hev

theorem wp_cancel_finds (hfault : ∀ n, m.repo.fault n = none)
    (hevents : ∀ n, m.eventFactory.repo.fault n = none) {sys : System} {ev : Event}
    (hf : m.Finds ctx systemID s sys n ev) :
    (m.sendRecoveryActions ctx systemID .cancel).wp false (fun res s' => res = .ok () ∧
      ∃ row props, s.db.systems.get? systemID = some row ∧ sys = { row with properties := props } ∧
        s'.db.systems.get? systemID = some { row with
          status := ev.previousItemStatus, targetKeyConfigurationID := none }) s := by
  refine wp_sendRecoveryActions (fun hnone => absurd hf (hnone sys n ev)) fun sys' n' b k hsys _ => ?_
  cases hf.system.symm.trans hsys
  obtain ⟨ht, row, props, hrow, hrowEq⟩ := getSystemByID_ok hsys
  refine wp_getLastEvent_bind hevents ht (fun hev => ?_) fun ev' l hev => ?_
  · cases hev.symm.trans hf.event
  cases hf.event.symm.trans hev
  refine wp_exec_any (fun e s' hr _ _ => ?_) fun s' _ hd _ => ?_
  · exact absurd (hfault _) (hr.resolve_left ht)
  refine ⟨rfl, row, props, hrow, hrowEq, ?_⟩
  rw [hd]
  simp [get?_modify, hrow]

theorem wp_cancel_none (hevents : ∀ n, m.eventFactory.repo.fault n = none)
    (hnone : ∀ sys n ev, ¬ m.Finds ctx systemID s sys n ev) :
    (m.sendRecoveryActions ctx systemID .cancel).wp false (fun _ s' => s'.db = s.db) s := by
  refine wp_sendRecoveryActions (fun _ _ _ => rfl) fun sys n b k hsys hb => ?_
  obtain ⟨ht, -⟩ := getSystemByID_ok hsys
  refine wp_getLastEvent_bind hevents ht (fun _ _ _ => rfl) fun ev l hev => ?_
  exact absurd ⟨hsys, ⟨b, k, hb⟩, hev⟩ (hnone sys n ev)

theorem cancels_iff (hfault : ∀ n, m.repo.fault n = none)
    (hevents : ∀ n, m.eventFactory.repo.fault n = none) :
    m.Cancels ctx systemID s ↔ ∃ sys n ev, m.Finds ctx systemID s sys n ev ∧
      (sys.status, sys.targetKeyConfigurationID) ≠ (ev.previousItemStatus, none) := by
  by_cases hfinds : ∃ sys n ev, m.Finds ctx systemID s sys n ev
  · obtain ⟨sys, n, ev, hf⟩ := hfinds
    obtain ⟨-, row, props, hrow, hsys, hrow'⟩ := wp_cancel_finds hfault hevents hf
    rw [Cancels, hrow, hrow']
    constructor
    · refine fun hne => ⟨sys, n, ev, hf, fun heq => hne ?_⟩
      rw [hsys] at heq
      simp only [Prod.mk.injEq] at heq
      rw [← heq.1, ← heq.2]
    · rintro ⟨sys', n', ev', hf', hne⟩ heq
      cases hf.system.symm.trans hf'.system
      cases hf.event.symm.trans hf'.event
      rw [hsys] at hne
      exact hne (by rw [← Option.some.inj heq])
  · have hnone : ∀ sys n ev, ¬ m.Finds ctx systemID s sys n ev := fun sys n ev hf =>
      hfinds ⟨sys, n, ev, hf⟩
    have hdb := wp_cancel_none hevents hnone
    refine iff_of_false (fun hne => hne ?_) fun ⟨sys, n, ev, hf, _⟩ => hnone sys n ev hf
    rw [hdb]

theorem retries_iff (hout : ctx.inTx = false) (hfault : ∀ n, m.repo.fault n = none)
    (hevents : ∀ n, m.eventFactory.repo.fault n = none) (hjobs : ¬ m.eventFactory.RefusesJob) :
    m.Retries ctx systemID s ↔ ∃ sys n ev, m.Finds ctx systemID s sys n ev ∧
      sys.status = .failed := by
  have hwp : (m.sendRecoveryActions ctx systemID .retry).wp false (fun _ s' =>
      s'.ext.jobs ≠ s.ext.jobs ↔
        ∃ sys n ev, m.Finds ctx systemID s sys n ev ∧ sys.status = .failed) s := by
    refine wp_sendRecoveryActions (fun hnone _ _ => ?_) fun sys n b k hsys hb => ?_
    · refine iff_of_false (fun h => h rfl) ?_
      rintro ⟨sys, n, ev, hf, -⟩
      exact hnone sys n ev hf
    obtain ⟨ht, row, props, hrow, hsysEq⟩ := getSystemByID_ok hsys
    simp only [recoveryAction, retrySystemAction, Prog.throw_bind]
    split
    · rename_i hst
      refine iff_of_false (fun h => h rfl) ?_
      rintro ⟨_, _, ev, hf, hst'⟩
      cases hsys.symm.trans hf.system
      exact hst hst'
    rename_i hst
    have hst : sys.status = .failed := not_not.1 hst
    have hid : row.id = systemID := key_of_get? hrow
    have hid : systemID = sys.id := by rw [hsysEq]; exact hid.symm
    subst hid
    refine wp_getLastEvent_bind hevents ht (fun hev e l => ?_) fun ev l hev => ?_
    · refine iff_of_false (fun h => h rfl) ?_
      rintro ⟨_, _, ev, hf, -⟩
      cases hev.symm.trans hf.event
    -- the job is created before the transaction ends, however it ends
    have htx : (m.repo.transaction ctx fun ctx => do
        if ev.type ≠ .systemKeyRotate then
          let _ ← m.repo.patchSystem ctx false { sys with status := .processing }
        m.eventFactory.createJobFor ev.identifier ev.type ev.data).wp false
          (fun _ s' => s'.view.jobs ≠ s.view.jobs) { s with clock := l } := by
      refine wp_transaction_view (P := fun _ v => v.jobs ≠ s.view.jobs) hout ?_
      have hcreate : ∀ s1 : State, s1.view.jobs = s.view.jobs →
          (m.eventFactory.createJobFor ev.identifier ev.type ev.data).wp true (fun _ s' =>
            s'.view.jobs ≠ s.view.jobs) s1 := by
        intro s1 h1
        refine EventFactory.wp_createJobFor (fun _ _ hr _ => absurd hr hjobs)
          fun job s' _ _ _ _ hv => ?_
        rw [hv, View.addJob, h1]
        simp
      have hbody : (do
          if ev.type ≠ .systemKeyRotate then
            let _ ← m.repo.patchSystem { ctx with inTx := true } false { sys with status := .processing }
          m.eventFactory.createJobFor ev.identifier ev.type ev.data : M Job).wp true (fun _ s' =>
            s'.view.jobs ≠ s.view.jobs) { s with clock := l } := by
        split
        · refine wp_bind (m.repo.wp_patchSystem (s := { s with clock := l }) false hrow
            (fun e hr => absurd (hfault _) (hr.resolve_left ht)) fun d' _ hd => hcreate _ rfl)
        · exact hcreate _ rfl
      exact wp_mono hbody fun _ _ h => ⟨fun _ _ => h, fun _ _ => h⟩
    have hfinds : m.Finds ctx sys.id s sys n ev := ⟨hsys, ⟨b, k, hb⟩, hev⟩
    refine wp_bind (wp_mapError (wp_mono htx fun r s' h => ?_))
    cases r with
    | ok job => exact iff_of_true h ⟨sys, n, ev, hfinds, hst⟩
    | error e => exact iff_of_true h ⟨sys, n, ev, hfinds, hst⟩
  exact hwp

theorem eval_getRecoveryActions_iff (hevents : ∀ n, m.eventFactory.repo.fault n = none)
    {P : SystemRecoveryAction → Prop} (hP : ¬ P ⟨false, false⟩) :
    (∃ r n, (m.getRecoveryActions ctx systemID).eval s.db s.clock = (.ok r, n) ∧ P r) ↔
      ∃ sys n ev, (m.getSystemByID ctx systemID).eval s.db s.clock = (.ok sys, n) ∧
        sys.status = .failed ∧ s.db.events.get? systemID = some ev ∧
        ∃ r k, (m.determineRecoveryPermissions ctx ev).eval s.db (n + 1) = (.ok r, k) ∧ P r := by
  simp only [getRecoveryActions]
  cases hsys : (m.getSystemByID ctx systemID).eval s.db s.clock with
  | mk res n =>
    cases res with
    | error e =>
      rw [eval_bind_of_error hsys]
      refine iff_of_false ?_ ?_
      · rintro ⟨_, _, h, _⟩
        cases h
      · rintro ⟨_, _, _, h, _⟩
        cases h
    | ok sys =>
      obtain ⟨ht, -⟩ := getSystemByID_ok hsys
      simp only [eval_bind_of_ok hsys]
      by_cases hst : sys.status = .failed
      · rw [if_neg (not_not.2 hst), eval_bind, eval_attempt, eval_getLastEvent hevents ht]
        cases hev : s.db.events.get? systemID with
        | none =>
          refine iff_of_false ?_ ?_
          · rintro ⟨r, k, h, hr⟩
            cases h
            exact hP hr
          · rintro ⟨_, _, _, _, _, h, _⟩
            cases h
        | some ev =>
          constructor
          · rintro ⟨r, k, h, hr⟩
            exact ⟨sys, n, ev, rfl, hst, rfl, r, k, h, hr⟩
          · rintro ⟨_, _, _, ⟨⟩, _, ⟨⟩, h⟩
            exact h
      · rw [if_pos hst]
        refine iff_of_false ?_ ?_
        · rintro ⟨r, k, h, hr⟩
          cases h
          exact hP hr
        · rintro ⟨_, _, _, h, hst', _⟩
          cases h
          exact hst hst'

theorem hasKeyAdminAccess_total (m : SystemManager) (ctx : Ctx) (keyID : Option UUID) (d : Db)
    (n : Nat) :
    ∃ b k, (m.hasKeyAdminAccess ctx keyID).eval d n = (.ok b, k) := by
  cases keyID with
  | none => exact ⟨false, n, rfl⟩
  | some keyID =>
    simp only [hasKeyAdminAccess]
    rw [eval_bind, eval_attempt]
    cases (m.repo.firstKeyByID ctx keyID).eval d n with
    | mk r k =>
      cases r with
      | error e => exact ⟨false, k, rfl⟩
      | ok key =>
        simp only
        rw [eval_bind, eval_attempt]
        cases (m.user.hasKeyAccess ctx .update key.keyConfigurationID).eval d k with
        | mk r l =>
          cases r with
          | error e => exact ⟨false, l, rfl⟩
          | ok b => exact ⟨true, l, rfl⟩

theorem eval_determineRecoveryPermissions {ev : Event} {b : Bool}
    (h : (m.hasKeyAdminAccess ctx (retryKey ev)).eval d n = (.ok b, k)) :
    (m.determineRecoveryPermissions ctx ev).eval d n = (.ok ⟨b, cancelable ev⟩, k) := by
  rw [determineRecoveryPermissions, eval_bind_of_ok h]
  rfl

theorem canCancel_iff (hevents : ∀ n, m.eventFactory.repo.fault n = none) :
    m.CanCancel ctx systemID s ↔
      ∃ sys n ev, (m.getSystemByID ctx systemID).eval s.db s.clock = (.ok sys, n) ∧
        sys.status = .failed ∧ s.db.events.get? systemID = some ev ∧ cancelable ev := by
  refine (eval_getRecoveryActions_iff hevents (by simp)).trans ?_
  refine exists_congr fun sys => exists_congr fun n => exists_congr fun ev => ?_
  refine and_congr_right fun _ => and_congr_right fun _ => and_congr_right fun _ => ?_
  obtain ⟨b, k, h⟩ := m.hasKeyAdminAccess_total ctx (retryKey ev) s.db (n + 1)
  rw [eval_determineRecoveryPermissions h]
  simp

theorem canRetry_iff (hevents : ∀ n, m.eventFactory.repo.fault n = none) :
    m.CanRetry ctx systemID s ↔
      ∃ sys n ev, (m.getSystemByID ctx systemID).eval s.db s.clock = (.ok sys, n) ∧
        sys.status = .failed ∧ s.db.events.get? systemID = some ev ∧
        ∃ k, (m.hasKeyAdminAccess ctx (retryKey ev)).eval s.db (n + 1) = (.ok true, k) := by
  refine (eval_getRecoveryActions_iff hevents (by simp)).trans ?_
  refine exists_congr fun sys => exists_congr fun n => exists_congr fun ev => ?_
  refine and_congr_right fun _ => and_congr_right fun _ => and_congr_right fun _ => ?_
  obtain ⟨b, k, h⟩ := m.hasKeyAdminAccess_total ctx (retryKey ev) s.db (n + 1)
  rw [eval_determineRecoveryPermissions h, h]
  simp

end SystemManager

/-- While every call succeeds, a cancel is done only if it is offered exactly if the cancels that
change something find a FAILED system and an event that may be canceled; and a retry exactly if those
who may modify the link of a FAILED system administer the key of its event. -/
theorem recovery_gate_iff (m : SystemManager) (ctx : Ctx) (systemID : UUID) (s : St Db World)
    (hout : ctx.inTx = false) (hfault : ∀ n, m.repo.fault n = none)
    (hevents : ∀ n, m.eventFactory.repo.fault n = none) (hjobs : ¬ m.eventFactory.RefusesJob) :
    ((m.Cancels ctx systemID s → m.CanCancel ctx systemID s) ↔
      ∀ sys n ev, m.Finds ctx systemID s sys n ev →
        (sys.status, sys.targetKeyConfigurationID) ≠ (ev.previousItemStatus, none) →
        sys.status = .failed ∧ SystemManager.cancelable ev) ∧
    ((m.Retries ctx systemID s → m.CanRetry ctx systemID s) ↔
      ∀ sys n ev, m.Finds ctx systemID s sys n ev → sys.status = .failed →
        ∃ k, (m.hasKeyAdminAccess ctx (SystemManager.retryKey ev)).eval s.db (n + 1) =
          (.ok true, k)) := by
  rw [SystemManager.cancels_iff hfault hevents, SystemManager.canCancel_iff hevents,
    SystemManager.retries_iff hout hfault hevents hjobs, SystemManager.canRetry_iff hevents]
  refine ⟨⟨fun h sys n ev hf hne => ?_, fun h => ?_⟩, ⟨fun h sys n ev hf hst => ?_, fun h => ?_⟩⟩
  · obtain ⟨sys', n', ev', hsys, hst, hev, hc⟩ := h ⟨sys, n, ev, hf, hne⟩
    cases hf.system.symm.trans hsys
    cases hf.event.symm.trans hev
    exact ⟨hst, hc⟩
  · rintro ⟨sys, n, ev, hf, hne⟩
    obtain ⟨hst, hc⟩ := h sys n ev hf hne
    exact ⟨sys, n, ev, hf.system, hst, hf.event, hc⟩
  · obtain ⟨sys', n', ev', hsys, -, hev, hk⟩ := h ⟨sys, n, ev, hf, hst⟩
    cases hf.system.symm.trans hsys
    cases hf.event.symm.trans hev
    exact hk
  · rintro ⟨sys, n, ev, hf, hst⟩
    exact ⟨sys, n, ev, hf.system, hst, hf.event, h sys n ev hf hst⟩

namespace Sample

def linkAsked : St Db World := (after [ask (.link 40 30)]).st

def linkFailed : St Db World := (after (ask (.link 40 30) :: ends 0 .failed)).st

def switchFailed : St Db World :=
  (after (linking ++ ask (.update 30 { primaryKeyID := some 22 }) :: ends 1 .failed)).st

def offered (ctx : Ctx) (s : St Db World) : Option SystemRecoveryAction :=
  ((platform.systems.getRecoveryActions ctx 40).eval s.db s.clock).1.toOption

theorem not_canCancel {ctx : Ctx} {s : State} {r : SystemRecoveryAction}
    (h : offered ctx s = some r) (hr : r.canCancel = false) : ¬ platform.systems.CanCancel ctx 40 s := by
  rintro ⟨r', n, he, hr'⟩
  rw [offered, he] at h
  cases h
  rw [hr] at hr'
  cases hr'

theorem not_canRetry {ctx : Ctx} {s : State} {r : SystemRecoveryAction}
    (h : offered ctx s = some r) (hr : r.canRetry = false) : ¬ platform.systems.CanRetry ctx 40 s := by
  rintro ⟨r', n, he, hr'⟩
  rw [offered, he] at h
  cases h
  rw [hr] at hr'
  cases hr'

end Sample

open Sample in
/-- The cancel of a failed link is a case of the theorem. -/
theorem recovery_gate_iff_failed : platform.systems.Cancels (as "i") 40 linkFailed ∧
    platform.systems.CanCancel (as "i") 40 linkFailed := by
  have hcancels : platform.systems.Cancels (as "i") 40 linkFailed := by decide +kernel
  refine ⟨hcancels, ?_⟩
  refine (recovery_gate_iff platform.systems (as "i") 40 linkFailed rfl (fun _ => rfl) (fun _ => rfl)
    (by rintro ⟨_, _, _, _, e, h⟩; cases h)).1.2 (fun sys n ev hf _ => ⟨?_, ?_⟩) hcancels
  · obtain ⟨-, row, props, hrow, rfl⟩ := SystemManager.getSystemByID_ok hf.system
    have h : (linkFailed.db.systems.get? 40).map System.status = some .failed := by decide +kernel
    rw [hrow] at h
    exact Option.some.inj h
  · have h : (linkFailed.db.events.get? 40).map SystemManager.cancelable = some true := by
      decide +kernel
    rw [hf.event] at h
    exact Option.some.inj h

open Sample in
/-- A system that is PROCESSING, and one that failed to switch to a new primary key, are canceled
although no cancel is offered; and someone who is in no group of the tenant sends a link again. -/
theorem recovered_without_offer :
    (platform.systems.Cancels (as "i") 40 linkAsked ∧
      ¬ platform.systems.CanCancel (as "i") 40 linkAsked) ∧
    (platform.systems.Cancels (as "i") 40 switchFailed ∧
      ¬ platform.systems.CanCancel (as "i") 40 switchFailed) ∧
    (platform.systems.Retries outsider 40 linkFailed ∧
      ¬ platform.systems.CanRetry outsider 40 linkFailed) := by
  refine ⟨⟨?_, not_canCancel (r := ⟨false, false⟩) ?_ rfl⟩,
    ⟨?_, not_canCancel (r := ⟨true, false⟩) ?_ rfl⟩, ⟨?_, not_canRetry (r := ⟨false, true⟩) ?_ rfl⟩⟩
  all_goals decide +kernel

end Cmk
