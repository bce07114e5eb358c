import Cmk.Jobs.Recovery

/-!
# Cmk.Jobs.Cancel

What a cancel goes back to.

An Event row keeps the status its system had when the row was written. That is the status a cancel
puts back, so it has to be the last one in which the system was at rest. An unlink or a switch of a
FAILED system writes FAILED into the row; `Calmly` leaves these two out.

* `Settles` — the row of a system against its last stable status; `Steady` is that for all systems.
-/

namespace Cmk

open Tx Function Deed View List

variable {v v' : View} {stable : UUID → Option SystemStatus} {s s' s0 : Sys}

/-- The row of a system goes back to its last stable status. -/
structure Settles (stable : Option SystemStatus) (c : Option Connection) (row : Option Event)
    (pending : Nat → Job → Prop) : Prop where
  prev : ∀ ev, row = some ev → ev.previousItemStatus.isStable
  rotating : ∀ x ev n job, c = some x → row = some ev → pending n job → x.1.isStable →
    ev.previousItemStatus = x.1
  back : ∀ x ev, c = some x → row = some ev → ¬ x.1.isStable → stable = some ev.previousItemStatus

namespace Settles

variable {stable stable' : Option SystemStatus} {c : Option Connection} {ev : Event}
  {pending : Nat → Job → Prop} {x : Connection}

theorem of_none : Settles stable c none pending where
  prev _ h := by cases h
  rotating _ _ _ _ _ h := by cases h
  back _ _ _ h := by cases h

theorem of_busy (hx : ¬ x.1.isStable) (hprev : ev.previousItemStatus.isStable)
    (hstable : stable = some ev.previousItemStatus) : Settles stable (some x) (some ev) pending where
  prev _ h := by cases h; exact hprev
  rotating _ _ _ _ hc _ _ hst := by cases hc; exact absurd hst hx
  back _ _ _ h _ := by cases h; exact hstable

theorem of_rest (hx : x.1.isStable) (hprev : ev.previousItemStatus = x.1) :
    Settles stable (some x) (some ev) pending where
  prev _ h := by cases h; rw [hprev]; exact hx
  rotating _ _ _ _ hc h _ _ := by cases hc; cases h; exact hprev
  back _ _ hc _ hst := by cases hc; exact absurd hx hst

theorem of_gone {row : Option Event} (h : Settles stable c row pending) {pending' : Nat → Job → Prop} :
    Settles stable none row pending' where
  prev := h.prev
  rotating _ _ _ _ hc := by cases hc
  back _ _ hc := by cases hc

theorem rekey (h : Settles stable c (some ev) pending) {keyID : UUID} :
    Settles stable c (some (ev.rekey keyID)) pending where
  prev ev' h' := by cases h'; exact h.prev ev rfl
  rotating y ev' n job hc h' := by cases h'; exact h.rotating y ev n job hc rfl
  back y ev' hc h' := by cases h'; exact h.back y ev hc rfl

end Settles

abbrev Steady (stable : UUID → Option SystemStatus) (phase : Nat → Phase) (v : View) : Prop :=
  PerSystem (fun id => Settles (stable id)) phase v

/-- The last stable status of a system at rest is the one it has. -/
def Observed (stable : UUID → Option SystemStatus) (v : View) : Prop :=
  ∀ id c, v.connection id = some c → c.1.isStable → stable id = some c.1

theorem View.observe_observed :
    Observed (v.observe stable) v := by
  intro id c hc hst
  simp only [observe, hc, hst, if_true]

theorem Steady.observe {phase : Nat → Phase} (h : Steady stable phase v) :
    Steady (v.observe stable) phase v := by
  refine fun id => ⟨(h id).prev, (h id).rotating, fun x ev hc hev hst => ?_⟩
  simp only [View.observe, hc, hst]
  exact (h id).back x ev hc hev hst

def Deed.Gentle : Deed → Prop
  | .submit _ prev _ _ stored => stored = true ∧ prev.isStable
  | .rotate _ prev => prev.isStable
  | .retry _ _ _ | .rekey _ _ | .replace _ => True
  | _ => False

namespace Steady

variable {stable : UUID → Option SystemStatus} {phase : Nat → Phase} {v v' : View}

theorem restore {id : UUID} {prev : SystemStatus} {kcID : Option UUID} (h : Steady stable phase v)
    (hen : (restore id prev kcID).Enabled v) :
    Steady stable phase ((restore id prev kcID).apply v) := by
  obtain ⟨-, ev, hev, rfl⟩ := hen
  refine h.set id [] (fun id' hid => update_of_ne hid _ _) (fun _ _ => rfl)
    (append_nil _).symm (by simp) ?_
  simp only [apply, setConnection, update_self]
  exact hev.symm ▸ .of_rest ((h id).prev ev hev) rfl

theorem apply (h : Steady stable phase v) (hobs : Observed stable v) (δ : Deed) (hen : δ.Enabled v)
    (hδ : δ.Gentle) : Steady stable phase (δ.apply v) ∧ Observed stable (δ.apply v) := by
  have hbusy : ∀ {w : View} {id : UUID} {kcID target : Option UUID},
      w.connection = update v.connection id (some (.processing, kcID, target)) →
      Observed stable w := by
    intro w id kcID target hw id' c hc hst
    rw [hw] at hc
    by_cases hid : id' = id
    · subst hid
      rw [update_self] at hc
      cases hc
      cases hst
    · rw [update_of_ne hid] at hc
      exact hobs id' c hc hst
  cases δ with
  | submit job prev kcID target stored =>
    obtain ⟨rfl, hprev⟩ := hδ
    obtain ⟨-, -, -, target', hconn⟩ := hen
    refine ⟨h.set job.externalID [job] (fun id' hid => update_of_ne hid _ _)
      (fun id' hid => update_of_ne hid _ _) rfl (by simp) ?_, hbusy submit_connection⟩
    rw [Deed.submit_connection, update_self]
    simp only [Deed.apply, if_true, setEvent_event, update_self]
    exact .of_busy (by simp [SystemStatus.isStable]) hprev (hobs _ _ hconn hprev)
  | rotate job prev =>
    obtain ⟨-, -, c, hconn⟩ := hen
    refine ⟨h.set job.externalID [job] (fun _ _ => rfl)
      (fun id' hid => update_of_ne hid _ _) rfl (by simp) ?_, hobs⟩
    simp only [Deed.apply, setEvent_event, update_self]
    exact hconn.symm ▸ .of_rest hδ rfl
  | retry job kcID target =>
    obtain ⟨-, hconn, ev, hev, -⟩ := hen
    refine ⟨h.set job.externalID [job] (fun id' hid => update_of_ne hid _ _)
      (fun _ _ => rfl) rfl (by simp) ?_, hbusy rfl⟩
    simp only [Deed.apply, addJob, setConnection, update_self]
    have hfailed : ¬ SystemStatus.failed.isStable := by simp [SystemStatus.isStable]
    exact hev.symm ▸ .of_busy (by simp [SystemStatus.isStable]) ((h _).prev ev hev)
      ((h _).back _ ev hconn hev hfailed)
  | rekey ev keyID =>
    refine ⟨h.set ev.identifier [] (fun _ _ => rfl) (fun id' hid => update_of_ne hid _ _)
      (append_nil _).symm (by simp) ?_, hobs⟩
    simp only [Deed.apply, setEvent_event, update_self]
    have hset := h ev.identifier
    rw [hen.1] at hset
    exact hset.rekey
  | replace kc => exact ⟨h, hobs⟩
  | _ => exact hδ.elim

theorem updated {f : EventFactory} {c : UUID} {old new : Option UUID} (h : Steady stable phase v)
    (hobs : Observed stable v) (hf : f.repo.Reliable)
    (hfine : ∀ id status target, v.connection id = some (status, some c, target) →
      new ≠ none → status ≠ .failed)
    (hl : Leads (Updates f c old new) v v') : Steady stable phase v' := by
  refine (hl.induct (I := fun w => (Steady stable phase w ∧ Observed stable w) ∧
    ∀ id status target, w.connection id = some (status, some c, target) →
      new ≠ none → status ≠ .failed) ⟨⟨h, hobs⟩, hfine⟩ fun w δ hI hδ hen => ?_).1.1
  obtain ⟨⟨hw, ho⟩, hnf⟩ := hI
  cases δ with
  | rekey ev keyID => exact ⟨hw.apply ho _ hen trivial, hnf⟩
  | submit job prev kcID target stored =>
    obtain ⟨⟨keyTo, keyFrom, hnew, -, hjob⟩, rfl, hstored⟩ := hδ
    have hstored : stored = true := hf.stored hstored
    obtain ⟨hprev, hdata, hlinked, target', hconn⟩ := hen
    have hstable : prev.isStable := by
      have hne := hnf _ _ _ hconn (by simp [hnew])
      cases prev <;> simp_all [SystemStatus.isStable]
    refine ⟨hw.apply ho _ ⟨hprev, hdata, hlinked, target', hconn⟩ ⟨hstored, hstable⟩, ?_⟩
    intro id status target'' hc hn
    rw [submit_connection] at hc
    by_cases hid : id = job.externalID
    · subst hid
      rw [update_self] at hc
      cases hc
      simp
    · rw [update_of_ne hid] at hc
      exact hnf id status target'' hc hn
  | replace kc => exact ⟨hw.apply ho _ hen trivial, hnf⟩
  | _ => exact hδ.elim

theorem rotated {f : EventFactory} {key : Key} (h : Steady stable phase v) (hobs : Observed stable v)
    (hf : f.repo.Reliable)
    (hrest : ∀ id status target, v.connection id = some (status, some key.keyConfigurationID, target) →
      status.isStable)
    (hl : Leads (Rotates f key) v v') : Steady stable phase v' := by
  refine (hl.induct (I := fun w => (Steady stable phase w ∧ Observed stable w) ∧
    w.connection = v.connection) ⟨⟨h, hobs⟩, rfl⟩ fun w δ hI hδ hen => ?_).1.1
  obtain ⟨⟨hw, ho⟩, hconn⟩ := hI
  cases δ with
  | rotate job prev =>
    obtain ⟨-, target, hc⟩ := hδ
    exact ⟨hw.apply ho _ hen (hrest _ _ target (hconn ▸ hc)), hconn⟩
  | prepare job =>
    obtain ⟨n, hn⟩ := hδ.2
    exact absurd (hf.fault n) hn
  | _ => exact hδ.elim

end Steady

/-- An act that gives no system a second job, and unlinks or switches no FAILED system. -/
def Calmly (p : Platform) (s : Sys) (act : Act) : Prop :=
  OneAtATime p s act ∧
  match act with
  | .request _ (.unlink id) => ∀ c, s.view.connection id = some c → c.1 ≠ .failed
  | .request _ (.update keyConfigID patch) => patch.primaryKeyID ≠ none →
      ∀ kc, Repo.byID s.st.db.keyConfigurations keyConfigID = some kc →
      ∀ id status target, s.view.connection id = some (status, some kc.id, target) → status ≠ .failed
  | _ => True

namespace Steady

theorem answers {p : Platform} {ctx : Ctx} {req : Request} {res : Except Exn Unit}
    (h : Steady s.stable s.phase s.view) (hobs : Observed s.stable s.view)
    (ha : Calmly p s (.request ctx req)) (hans : Answers p s.st req res s'.view) :
    Steady s.stable s.phase s'.view := by
  obtain ⟨⟨hrel, halone⟩, hcalm⟩ := ha
  have hcommit : ¬ ∃ k, p.systems.repo.commit k ≠ none := fun ⟨k, hk⟩ => hk (hrel.systems.commit k)
  have hstable : ∀ {status : SystemStatus}, status ≠ .processing → status ≠ .failed →
      status.isStable := by
    intro status hp hf
    cases status <;> simp_all [SystemStatus.isStable]
  generalize s'.view = v' at hans ⊢
  cases hans with
  | kept => exact h
  | link id _ job prev kcID target stored _ hjob hs hen =>
    exact (h.apply hobs (.submit job prev kcID target stored) hen
      ⟨hrel.events.stored hs, hstable hjob.prev.1 hjob.prev.2⟩).1
  | unlink id job prev kcID target stored hext _ _ hs hen =>
    obtain ⟨hprev, hdata, hlinked, target', hconn⟩ := hen
    exact (h.apply hobs (.submit job prev kcID target stored) ⟨hprev, hdata, hlinked, target', hconn⟩
      ⟨hrel.events.stored hs, hstable hprev (hcalm _ (hext ▸ hconn))⟩).1
  | decommission => exact halone.elim
  | orphan _ _ _ hc => exact absurd hc hcommit
  | cancel id prev kcID hen => exact h.restore hen
  | retry id job kcID target _ hen =>
    exact (h.apply hobs (.retry job kcID target) hen trivial).1
  | notify id job hag hty =>
    obtain ⟨ev, hev, hevty, -⟩ := hag.event
    exact absurd (hevty.trans hty) (halone ev hev)
  | retryLeft _ _ _ _ hc => exact absurd hc hcommit
  | update keyConfigID patch kc _ _ hkc hupd =>
    exact h.updated hobs hrel.events (fun id status target hc hp => hcalm hp kc hkc id status target hc)
      hupd.ran
  | updateFailed keyConfigID patch kc v1 res _ hkc hupd hc =>
    have hjobs : v1.jobs = s.view.jobs := by
      refine Switchable.no_job hrel (fun hp => halone hp kc hkc) hupd fun a ha => ?_
      obtain ⟨k, hk⟩ := hc ⟨a, ha⟩
      exact hk (hrel.keyConfigurations.commit k)
    rw [hjobs]
    exact h
  | rotate key _ _ hl _ =>
    exact h.rotated hobs hrel.keys (fun id status target hc => (halone.2 id status target hc).1) hl

theorem reacts {later : Nat → UUID → Prop} {phase : Nat → Phase} {ended : List Ended} {n : Nat}
    {job : Job} {ending : Ending} {u : Unit} (h : Steady stable phase v) (hobs : Observed stable v)
    (htracks : Tracks later phase ended v) (hn : Pending v.jobs phase job.externalID n job)
    (hsane : job.data.systemID = job.externalID) (hdec : job.type ≠ .systemUnlinkDecommission)
    (hr : Reacts v job ending (.ok u) v') :
    Steady stable (update phase n .ended) v' := by
  have hset := h job.externalID
  have htr := htracks.traced job.externalID
  have hother : ∀ c id, id ≠ job.externalID →
      (v.setConnection job.data.systemID c).connection id = v.connection id :=
    fun c id hid => update_of_ne (hsane.symm ▸ hid) _ _
  have hcleaned : ∀ (w : View) id, id ≠ job.externalID → (w.clean job).event id = w.event id :=
    fun w id hid => update_of_ne hid _ _
  have hdone : ∀ w : View, w.event = v.event → w.jobs = v.jobs →
      (∀ id, id ≠ job.externalID → w.connection id = v.connection id) →
      Steady stable (update phase n .ended) (w.clean job) := by
    intro w hw hjobs hconn
    refine h.finish hn.listed hjobs hconn (fun id hid => (hcleaned w id hid).trans (by rw [hw])) ?_
    rw [htracks.clean_none hn hw]
    exact .of_none
  cases hr with
  | connect kcID => exact hdone _ rfl rfl (hother (.connected, some kcID, none))
  | unlink target => exact hdone _ rfl rfl (hother (.disconnected, none, target))
  | decommission _ _ _ hty => exact absurd hty hdec
  | rotated => exact hdone v rfl rfl fun _ _ => rfl
  | fail _ kcID target error hne _ _ hen =>
    obtain ⟨ev, hev, -⟩ := htr.event n job hn
    obtain ⟨ev', hev', -, -, hprev⟩ := fail_event kcID target error hev
    obtain ⟨status, hconn⟩ := hen
    rw [hsane] at hconn
    have hback : stable job.externalID = some ev.previousItemStatus := by
      by_cases hty : job.type = .systemKeyRotate
      · have hst := htr.rotating n job hn hty _ hconn
        rw [hset.rotating _ ev n job hconn hev hn hst]
        exact hobs _ _ hconn hst
      · obtain ⟨kcID', target', hp⟩ := htr.processing n job hn hty
        exact hset.back _ ev hp hev (by simp [SystemStatus.isStable])
    refine h.finish hn.listed (apply_jobs.trans (append_nil _)) (fun id hid => ?_)
      (fun id hid => fail_event_of_ne hid) ?_
    · rw [fail_connection]
      exact update_of_ne (hsane.symm ▸ hid) _ _
    · rw [fail_connection, hsane, update_self, hev']
      exact .of_busy (by simp [SystemStatus.isStable]) (hprev ▸ hset.prev ev hev) (hprev ▸ hback)
  | missing _ _ _ hnone =>
    refine h.finish hn.listed rfl (fun _ _ => rfl) (fun _ _ => rfl) ?_
    rw [← hsane, hnone]
    exact (hsane.symm ▸ hset).of_gone

theorem step {p : Platform} {act : Act} (h : Steady s.stable s.phase s.view)
    (hobs : Observed s.stable s.view) (htracks : Tracks s.later s.phase s.ended s.view)
    (hsane : Sane s.view) (hdec : Each (fun _ type _ => type ≠ .systemUnlinkDecommission) s.view)
    (ha : Calmly p s act) (hstep : s.step p act = some s') :
    Steady s'.stable s'.phase s'.view ∧ Observed s'.stable s'.view := by
  cases act with
  | request ctx req =>
    obtain ⟨res, hans, hphase, -, hstable, -⟩ := Sys.step_request hstep
    rw [hphase, hstable]
    exact ⟨(h.answers hobs ha hans).observe, observe_observed⟩
  | workflow => exact ha.1.elim
  | confirm number =>
    obtain ⟨job, hjob, hcreated, ⟨ph, hph, hphase⟩, hv, -, -, hstable⟩ := Sys.step_confirm hstep
    rw [hphase, hv, hstable]
    have hp : Steady s.stable (update s.phase number ph) s.view :=
      h.proceed (by rw [hcreated]; nofun) hph
    exact ⟨hp.observe, observe_observed⟩
  | finish number ending message =>
    obtain ⟨job, res, hjob, hn, hreact, -, hstable, hres⟩ := Sys.step_finish hstep
    have hmem := mem_of_getElem? hjob
    have hv' : Steady s.stable s'.phase s'.view := by
      cases res with
      | ok u =>
        rw [hres.1]
        exact h.reacts hobs htracks ⟨hjob, rfl, hn⟩ (hsane.jobs job hmem) (hdec.jobs job hmem) hreact
      | error e =>
        rw [hres.1, hreact.error_view (hdec.jobs job hmem)]
        exact h.proceed hn nofun
    rw [hstable]
    exact ⟨hv'.observe, observe_observed⟩

end Steady

theorem Steady.of_reach (hstart : Start s0) (hrun : Reach Calmly s0 s) :
    Steady s.stable s.phase s.view ∧ Observed s.stable s.view := by
  induction hrun with
  | start =>
    refine ⟨fun id => ?_, ?_⟩
    · rw [hstart.events id]
      exact .of_none
    · rw [hstart.stable]
      exact observe_observed
  | step p act hrun ha hstep ih =>
    have hrun := hrun.mono fun _ _ _ h => h.1
    exact ih.1.step ih.2 (.of_reach hstart hrun) (.of_reach (fun _ _ _ h => h.modelled) hstart hrun)
      (not_decommission hstart hrun) ha hstep

/-- While the jobs come one at a time, and only to systems that are not FAILED, the status of an
event is CONNECTED or DISCONNECTED, and a cancel of a FAILED system puts back its last stable one. -/
theorem cancel_returns_to_stable (s₀ s : Sys) (hstart : Start s₀) (hrun : Reach Calmly s₀ s) :
    (∀ id ev, s.view.event id = some ev →
      ev.previousItemStatus = .connected ∨ ev.previousItemStatus = .disconnected) ∧
    ∀ (p : Platform) (ctx : Ctx) (id : UUID) (keyConfigID target : Option UUID) (s' : Sys),
      s.view.connection id = some (.failed, keyConfigID, target) → p.Reliable →
      p.systems.Admits ctx.request id s.st →
      s.step p (.request ctx (.recover id .cancel)) = some s' →
      ∃ status, s.stable id = some status ∧
        s'.view.connection id = some (status, keyConfigID, none) := by
  obtain ⟨hsteady, -⟩ := Steady.of_reach hstart hrun
  refine ⟨fun id ev hev => ?_, ?_⟩
  · have hprev := (hsteady id).prev ev hev
    cases h : ev.previousItemStatus <;> simp_all [SystemStatus.isStable]
  intro p ctx id keyConfigID target s' hconn hrel hadmits hstep
  obtain ⟨sys, n, b, k, hsys, hb⟩ := hadmits
  have htracks := Tracks.of_reach hstart (hrun.mono fun _ _ _ h => h.1)
  obtain ⟨-, ev, -, hev, -⟩ := (htracks.traced id).failed keyConfigID target hconn
  have hfinds : p.systems.Finds ctx.request id s.st sys n ev := ⟨hsys, ⟨b, k, hb⟩, hev⟩
  obtain ⟨-, row, props, hrow, -, hrow'⟩ :=
    SystemManager.wp_cancel_finds hrel.systems.fault hrel.events.fault hfinds
  have hfailed : ¬ SystemStatus.failed.isStable := by simp [SystemStatus.isStable]
  refine ⟨ev.previousItemStatus, (hsteady id).back _ ev hconn hev hfailed, ?_⟩
  cases hstep
  have hkc : row.keyConfigurationID = keyConfigID := by
    have hrowConn : s.view.connection id = some row.connection :=
      congrArg (Option.map System.connection) hrow
    have heq : row.connection = (.failed, keyConfigID, target) :=
      Option.some.inj (hrowConn.symm.trans hconn)
    exact congrArg (·.2.1) heq
  refine (congrArg (Option.map System.connection) hrow').trans ?_
  rw [Option.map_some, System.connection, hkc]

namespace Sample

abbrev failedLink : List Act := ask (.link 40 30) :: ends 0 .failed

theorem failedLink_calm : Reach Calmly fresh (after failedLink) := by
  have hlink : Calmly platform fresh (ask (.link 40 30)) :=
    ⟨⟨platform_reliable, fun n job hn => by cases hn.listed⟩, trivial⟩
  have h1 : Reach Calmly fresh (after [ask (.link 40 30)]) := Reach.start.step platform _ hlink rfl
  have h2 : Reach Calmly fresh (after ([ask (.link 40 30)] ++ [.confirm 0])) :=
    after_snoc (.confirm 0) h1 ⟨trivial, trivial⟩ (by decide +kernel)
  exact after_snoc (.finish 0 .failed "E") h2 ⟨trivial, trivial⟩ (by decide +kernel)

theorem admits {ctx : Ctx} {s : State} (h : ((do
      let sys ← platform.systems.getSystemByID ctx 40
      platform.systems.user.hasSystemAccess ctx .systemModifyLink sys : Q Bool).eval s.db
        s.clock).1.toOption.isSome) : platform.systems.Admits ctx 40 s := by
  cases hq : (do
      let sys ← platform.systems.getSystemByID ctx 40
      platform.systems.user.hasSystemAccess ctx .systemModifyLink sys : Q Bool).eval s.db s.clock with
  | mk r k =>
    rw [hq] at h
    cases r with
    | error e => cases h
    | ok b =>
      obtain ⟨sys, n, hsys, hb⟩ := eval_bind_ok hq
      exact ⟨sys, n, b, k, hsys, hb⟩

/-- The unlink of a linked system fails twice, and is canceled. -/
def unlinkCanceled : List Act :=
  linking ++ ask (.unlink 40) :: ends 1 .failed ++ ask (.unlink 40) :: ends 2 .failed ++
    [ask (.recover 40 .cancel)]

end Sample

open Sample in
theorem cancel_returns_to_stable_link : ∃ s' ∈ (after failedLink).step platform (ask (.recover 40 .cancel)),
    ∃ status, (after failedLink).stable 40 = some status ∧
      s'.view.connection 40 = some (status, none, none) :=
  ⟨_, rfl, (cancel_returns_to_stable fresh _ start_fresh failedLink_calm).2 platform (as "i") 40 none
    (some 30) _ (by decide +kernel) platform_reliable (admits (by decide +kernel)) rfl⟩

open Sample in
/-- The second unlink has stored FAILED, and the cancel leaves it. -/
theorem canceled_still_failed : Start fresh ∧ ∃ s ∈ fresh.steps platform unlinkCanceled,
    (s.view.event 40).map (·.previousItemStatus) = some .failed ∧ s.stable 40 = some .connected ∧
      s.view.connection 40 = some (.failed, some 30, none) := ⟨start_fresh, by decide +kernel⟩

end Cmk
