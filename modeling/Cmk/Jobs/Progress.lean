import Cmk.Atomicity
import Cmk.Jobs.Confirm

/-!
# Cmk.Jobs.Progress

Jobs and the systems they are for, in every run.

* `Each`  — a fact of every job and every event. One is `Sane`: the data names the system.
* `done_clears_failure_iff` — what the end of a successful job leaves.
* `Owned` — a system that is PROCESSING has a job whose end is still to come.

The last is not true of every run: a workflow whose action could not create its job leaves the system
marked.
-/

namespace Cmk

open Tx Function View List Option

variable {job : Job} {id : UUID} {c : Connection} {ending : Ending} {res : Except Exn Unit}
  {s s' s₀ : Sys} {v v' : View} {p : Platform}

/-- A fact of every job and every event; both have a system, a type and data. -/
structure Each (J : UUID → JobType → SystemActionJobData → Prop) (v : View) : Prop where
  jobs : ∀ job ∈ v.jobs, J job.externalID job.type job.data
  events : ∀ id ev, v.event id = some ev → J id ev.type ev.data

/-- An act of the component. Of the workflows, those that act on systems or primary keys. -/
def Modelled (_ : Platform) (s : Sys) : Act → Prop
  | .workflow _ id => ∀ wf ∈ s.st.db.workflows.get? id, wf.onSystems
  | _ => True

instance (p : Platform) (s : Sys) (act : Act) : Decidable (Modelled p s act) := by
  unfold Modelled
  split <;> infer_instance

namespace Each

variable {J : UUID → JobType → SystemActionJobData → Prop} {v v' : View}

theorem congr (h : Each J v) (hv : v.Same v') : Each J v' :=
  ⟨fun job hjob => h.jobs job (hv.jobs ▸ hjob), fun id ev hev => h.events id ev (hv.event ▸ hev)⟩

theorem addJob (h : Each J v) (hjob : J job.externalID job.type job.data) :
    Each J (v.addJob job) := by
  refine ⟨fun job' hmem => ?_, h.events⟩
  rcases mem_append.1 hmem with hmem | hmem
  · exact h.jobs job' hmem
  · rw [mem_singleton.1 hmem]
    exact hjob

theorem setEvent (h : Each J v) {ev : Option Event} (hev : ∀ e, ev = some e → J id e.type e.data) :
    Each J (v.setEvent id ev) := by
  refine ⟨h.jobs, fun id' e he => ?_⟩
  rw [setEvent_event] at he
  by_cases hid : id' = id
  · subst hid
    rw [update_self] at he
    exact hev e he
  · rw [update_of_ne hid] at he
    exact h.events id' e he

theorem setConnection (h : Each J v) : Each J (v.setConnection id c) :=
  ⟨h.jobs, h.events⟩

theorem clean (h : Each J v) : Each J (v.clean job) :=
  h.setEvent fun _ he => h.events _ _ (filter_eq_some_iff.1 he).1

theorem note (h : Each J v) {code message : String} :
    Each J (v.note job code message) := by
  refine h.setEvent fun e he => ?_
  obtain ⟨ev, hev, rfl⟩ := map_eq_some_iff.1 he
  exact h.events _ ev hev

theorem again (h : Each J v) (hag : SystemManager.Again v id job) :
    J job.externalID job.type job.data := by
  obtain ⟨ev, hev, hty, hdata⟩ := hag.event
  rw [hag.externalID, ← hty, ← hdata]
  exact h.events id ev hev

def Rekeys (J : UUID → JobType → SystemActionJobData → Prop) : Prop :=
  ∀ id type data keyID, J id type data → J id type { data with keyIDTo := some keyID }

def Sound (J : UUID → JobType → SystemActionJobData → Prop) : Deed → Prop
  | .submit job _ _ _ _ | .prepare job | .rotate job _ => J job.externalID job.type job.data
  | _ => True

theorem apply (hJ : Rekeys J) (h : Each J v) (δ : Deed) (hen : δ.Enabled v) (hs : Sound J δ) :
    Each J (δ.apply v) := by
  cases δ with
  | submit job prev kcID target stored =>
    have hjob : Each J ((v.setConnection job.externalID (.processing, kcID, target)).addJob job) :=
      h.setConnection.addJob hs
    cases stored with
    | false => exact hjob
    | true => exact hjob.setEvent fun e he => by cases he; exact hs
  | mark id kcID target => exact h.setConnection
  | retarget id status kcID target => exact h.setConnection
  | prepare job => exact h.addJob hs
  | rotate job prev => exact (h.addJob hs).setEvent fun e he => by cases he; exact hs
  | retry job kcID target =>
    obtain ⟨-, hconn, hev⟩ := hen
    exact h.setConnection.addJob (h.again ⟨rfl, ⟨_, _, hconn⟩, hev⟩)
  | restore id prev kcID => exact h.setConnection
  | rekey ev keyID =>
    exact h.setEvent fun e he => by cases he; exact hJ _ _ _ _ (h.events _ ev hen.1)
  | replace kc => exact ⟨h.jobs, h.events⟩
  | connect job kcID => exact h.setConnection.clean
  | disconnect job target cleaned =>
    cases cleaned with
    | true => exact h.setConnection.clean
    | false => exact h.setConnection
  | fail job kcID target error =>
    cases error with
    | none => exact h.setConnection
    | some error => exact h.setConnection.note
  | clean job => exact h.clean

theorem leads {G : View → Deed → Prop} (hJ : Rekeys J) (h : Each J v) (hl : Leads G v v')
    (hG : ∀ w δ, Each J w → G w δ → δ.Enabled w → Sound J δ) : Each J v' :=
  hl.induct h fun w δ hw hδ hen => hw.apply hJ δ hen (hG w δ hw hδ hen)

theorem reacts (hJ : Rekeys J) (h : Each J v) (hr : Reacts v job ending res v') : Each J v' := by
  refine h.leads hJ hr.leads fun w δ _ hδ _ => ?_
  cases δ with
  | submit | prepare | rotate => exact hδ.elim
  | _ => trivial

theorem of_start (h : Start s) : Each J s.view := by
  refine ⟨fun job hjob => ?_, fun id ev hev => ?_⟩
  · rw [h.jobs] at hjob
    cases hjob
  · rw [h.events id] at hev
    cases hev

theorem of_reach (hJ : Rekeys J) {allowed : Platform → Sys → Act → Prop}
    (hmodelled : ∀ p s act, allowed p s act → Modelled p s act)
    (hasked : ∀ p s ctx req, allowed p s (.request ctx req) → ∀ w δ, Each J w → Asked req w δ →
      δ.Enabled w → Sound J δ)
    (hexecutes : ∀ p s ctx id, allowed p s (.workflow ctx id) → ∀ w δ, Executes p.eventFactory w δ →
      δ.Enabled w → Sound J δ) (hstart : Start s₀) (hrun : Reach allowed s₀ s) : Each J s.view := by
  induction hrun with
  | start => exact of_start hstart
  | step p act _ ha hstep ih =>
    cases act with
    | request ctx req =>
      obtain ⟨res, hans, -⟩ := Sys.step_request hstep
      exact ih.leads hJ hans.leads (hasked p _ ctx req ha)
    | workflow ctx id =>
      obtain ⟨⟨v₀, v₁, h₀, hl, h₁⟩, -⟩ := Sys.step_workflow (hmodelled p _ _ ha) hstep
      exact ((ih.congr h₀).leads hJ hl fun w δ _ => hexecutes p _ ctx id ha w δ).congr h₁
    | confirm number =>
      obtain ⟨-, -, -, -, hv, -⟩ := Sys.step_confirm hstep
      rw [hv]
      exact ih
    | finish number ending message =>
      obtain ⟨job, res, -, -, hreact, -⟩ := Sys.step_finish hstep
      exact ih.reacts hJ hreact

end Each

/-- The data of a job or an event names the system it is for. -/
abbrev Sane : View → Prop := Each fun id _ data => data.systemID = id

theorem Sane.of_reach {allowed : Platform → Sys → Act → Prop}
    (hmodelled : ∀ p s act, allowed p s act → Modelled p s act) (hstart : Start s₀)
    (hrun : Reach allowed s₀ s) : Sane s.view := by
  refine Each.of_reach (fun _ _ _ _ h => h) hmodelled (fun p s ctx req _ w δ hw hδ hen => ?_)
    (fun p s ctx id _ w δ hδ hen => ?_) hstart hrun
  · cases δ with
    | submit => exact hen.2.1
    | rotate => exact hen.2.1
    | prepare job =>
      rcases hδ with ⟨hdata, -⟩ | ⟨id, hag⟩
      · exact hdata
      · exact hw.again hag
    | _ => trivial
  · cases δ with
    | submit => exact hen.2.1
    | prepare => exact hδ
    | rotate => exact hδ.elim
    | _ => trivial

/-- The system, if there is one, is CONNECTED or DISCONNECTED. -/
def View.Rests (v : View) (id : UUID) : Prop := ∀ c, v.connection id = some c → c.1.isStable

def View.Cleared (v : View) (id : UUID) (type : JobType) : Prop :=
  ∀ ev, v.event id = some ev → ev.type ≠ type

theorem View.clean_cleared : (v.clean job).Cleared job.externalID job.type := by
  intro ev hev
  rw [clean, setEvent_event, update_self] at hev
  simpa using (filter_eq_some_iff.1 hev).2

theorem View.setConnection_rests (hc : c.1.isStable)
    (hv : v'.connection = update v.connection id (some c)) : v'.Rests id := by
  intro c' hc'
  rw [hv, update_self] at hc'
  cases hc'
  exact hc

/-- A job that is done clears its event, and all but a rotation bring their system to rest. -/
theorem Reacts.done_iff {u : Unit} (h : Reacts v job .done (.ok u) v')
    (hsane : job.data.systemID = job.externalID) (hty : job.type ≠ .systemUnlinkDecommission) :
    v'.Rests job.externalID ∧ v'.Cleared job.externalID job.type ↔
      (job.type = .systemKeyRotate → v.Rests job.externalID) := by
  cases h with
  | connect kcID hconn hen =>
    refine iff_of_true ⟨?_, clean_cleared⟩ fun h => ?_
    · rw [← hsane]
      exact setConnection_rests (c := (.connected, some kcID, none)) rfl rfl
    · rw [h] at hconn
      cases hconn
  | unlink target hunlink hen =>
    refine iff_of_true ⟨?_, clean_cleared⟩ fun h => ?_
    · rw [← hsane]
      exact setConnection_rests (c := (.disconnected, none, target)) rfl rfl
    · rw [h] at hunlink
      cases hunlink
  | decommission _ _ target h => exact absurd h hty
  | rotated _ hrot => exact ⟨fun h _ => h.1, fun h => ⟨h hrot, clean_cleared⟩⟩
  | fail _ _ _ _ h => exact absurd rfl h
  | missing _ h => exact absurd rfl h

/-- A job that is done clears its event and leaves its system at rest, unless it is a rotation of a
system that was not. -/
theorem done_clears_failure_iff (p : Platform) (s₀ s s' : Sys) (number : Nat) (job : Job)
    (message : String) (hstart : Start s₀) (hrun : Reach Modelled s₀ s)
    (hjob : s.view.jobs[number]? = some job) (hty : job.type ≠ .systemUnlinkDecommission)
    (hstep : s.step p (.finish number .done message) = some s') (hended : s'.phase number = .ended) :
    s'.view.Rests job.externalID ∧ s'.view.Cleared job.externalID job.type ↔
      (job.type = .systemKeyRotate → s.view.Rests job.externalID) := by
  have hsane : Sane s.view := .of_reach (fun _ _ _ h => h) hstart hrun
  obtain ⟨job', res, hjob', -, hreact, -, -, hres⟩ := Sys.step_finish hstep
  cases hjob.symm.trans hjob'
  cases res with
  | ok u => exact hreact.done_iff (hsane.jobs job (List.mem_of_getElem? hjob)) hty
  | error e =>
    rw [hres.1, update_self] at hended
    cases hended

namespace Sample

def rotating (ending : Ending) : List Act := linking ++ ask (.rotate primaryKey) :: ends 1 ending

def rotatedAgain : List Act := rotating .failed ++ ask (.recover 40 .retry) :: ends 2 .done

end Sample

open Sample in
theorem done_clears_failure_iff_rotated :
    (after (rotating .done)).view.Rests 40 ∧
      (after (rotating .done)).view.Cleared 40 .systemKeyRotate ↔
    (JobType.systemKeyRotate = .systemKeyRotate →
      (after (linking ++ [ask (.rotate primaryKey), .confirm 1])).view.Rests 40) :=
  done_clears_failure_iff platform fresh (after (linking ++ [ask (.rotate primaryKey), .confirm 1]))
    (after (rotating .done)) 1 ⟨40, .systemKeyRotate, ⟨40, "t", some 20, some 20, ""⟩, "CREATED"⟩ "E"
    start_fresh (after_reach (by decide +kernel)) (by decide +kernel) (by decide)
    (after_step _ _ (by decide +kernel)) (by decide +kernel)

open Sample in
/-- The system is FAILED although no job is pending and no event is left. -/
theorem rotated_again_failed : Start fresh ∧ ∃ s ∈ fresh.steps platform rotatedAgain,
    s.view.jobs.map Job.type = [.systemLink, .systemKeyRotate, .systemKeyRotate] ∧
    (List.range 3).map s.phase = [.ended, .ended, .ended] ∧
    s.view.connection 40 = some (.failed, some 30, none) ∧ s.view.event 40 = none :=
  ⟨start_fresh, by decide +kernel⟩

/-- A job that will reset the status of the system is still to end. -/
def Waits (jobs : List Job) (phase : Nat → Phase) (id : UUID) : Prop :=
  ∃ n job, Pending jobs phase id n job ∧ job.type ≠ .systemKeyRotate

structure Owned (v : View) (phase : Nat → Phase) : Prop where
  busy : ∀ id kcID target, v.connection id = some (.processing, kcID, target) → Waits v.jobs phase id
  prev : ∀ id ev, v.event id = some ev → ev.previousItemStatus ≠ .processing
  fresh : ∀ n, v.jobs.length ≤ n → phase n = .created

theorem Waits.addJob {phase : Nat → Phase} (h : Waits v.jobs phase id) :
    Waits (v.addJob job).jobs phase id := by
  obtain ⟨n, job', ⟨hjob, hext, hn⟩, hty⟩ := h
  refine ⟨n, job', ⟨?_, hext, hn⟩, hty⟩
  obtain ⟨hlt, -⟩ := List.getElem?_eq_some_iff.1 hjob
  rw [View.addJob, List.getElem?_append_left hlt]
  exact hjob

namespace Owned

variable {v v' : View} {phase : Nat → Phase}

theorem congr (h : Owned v phase) (hv : v.Same v') : Owned v' phase := by
  obtain ⟨hconn, hevent, hjobs⟩ := hv
  refine ⟨fun id kcID target hc => ?_, fun id ev hev => ?_, fun n hn => ?_⟩
  · rw [hconn] at hc
    obtain ⟨n, job, ⟨hjob, hext, hn⟩, hty⟩ := h.busy id kcID target hc
    exact ⟨n, job, ⟨hjobs ▸ hjob, hext, hn⟩, hty⟩
  · rw [hevent] at hev
    exact h.prev id ev hev
  · rw [hjobs] at hn
    exact h.fresh n hn

theorem addJob (h : Owned v phase) : Owned (v.addJob job) phase := by
  refine ⟨fun id kcID target hc => (h.busy id kcID target hc).addJob, h.prev, fun n hn => ?_⟩
  rw [View.addJob, length_append] at hn
  exact h.fresh n (by omega)

theorem waits (h : Owned v phase) (hty : job.type ≠ .systemKeyRotate) :
    Waits (v.addJob job).jobs phase job.externalID := by
  refine ⟨v.jobs.length, job, ⟨getElem?_concat_length, rfl, ?_⟩, hty⟩
  rw [h.fresh _ le_rfl]
  nofun

theorem setConnection (h : Owned v phase) (hc : c.1 = .processing → Waits v.jobs phase id) :
    Owned (v.setConnection id c) phase := by
  refine ⟨fun id' kcID target hc' => ?_, h.prev, h.fresh⟩
  rw [setConnection_connection] at hc'
  by_cases hid : id' = id
  · subst hid
    rw [update_self] at hc'
    cases hc'
    exact hc rfl
  · rw [update_of_ne hid] at hc'
    exact h.busy id' kcID target hc'

theorem settle (h : Owned v phase) (hc : c.1 ≠ .processing) :
    Owned (v.setConnection id c) phase :=
  h.setConnection fun hp => absurd hp hc

theorem setEvent (h : Owned v phase) {ev : Option Event}
    (hev : ∀ e, ev = some e → e.previousItemStatus ≠ .processing) :
    Owned (v.setEvent id ev) phase := by
  refine ⟨h.busy, fun id' e he => ?_, h.fresh⟩
  rw [setEvent_event] at he
  by_cases hid : id' = id
  · subst hid
    rw [update_self] at he
    exact hev e he
  · rw [update_of_ne hid] at he
    exact h.prev id' e he

theorem clean (h : Owned v phase) : Owned (v.clean job) phase :=
  h.setEvent fun _ he => h.prev _ _ (filter_eq_some_iff.1 he).1

theorem note (h : Owned v phase) {code message : String} :
    Owned (v.note job code message) phase := by
  refine h.setEvent fun e he => ?_
  obtain ⟨ev, hev, rfl⟩ := map_eq_some_iff.1 he
  exact h.prev _ ev hev

end Owned

/-- The deed leaves no system PROCESSING without a job, and stores no such status. -/
def Deed.Fair : Deed → Prop
  | .submit job _ _ _ _ => job.type ≠ .systemKeyRotate
  | .mark _ _ _ | .rotate _ _ => False
  | _ => True

theorem Owned.apply {phase : Nat → Phase} (h : Owned v phase) (δ : Deed) (hen : δ.Enabled v)
    (hδ : δ.Fair) : Owned (δ.apply v) phase := by
  cases δ with
  | submit job prev kcID target stored =>
    have hjob : Owned ((v.addJob job).setConnection job.externalID (.processing, kcID, target)) phase :=
      h.addJob.setConnection fun _ => h.waits hδ
    cases stored with
    | false => exact hjob
    | true => exact hjob.setEvent fun e he => by cases he; exact hen.1
  | mark | rotate => exact hδ.elim
  | retarget id status kcID target =>
    obtain ⟨target', hconn⟩ := hen
    exact h.setConnection fun hst => h.busy id kcID target' (hst ▸ hconn)
  | prepare job => exact h.addJob
  | retry job kcID target => exact h.addJob.setConnection fun _ => h.waits hen.1
  | restore id prev kcID =>
    obtain ⟨-, ev, hev, rfl⟩ := hen
    exact h.setConnection fun hst => absurd hst (h.prev id ev hev)
  | rekey ev keyID => exact h.setEvent fun e he => by cases he; exact h.prev _ ev hen.1
  | replace kc => exact ⟨h.busy, h.prev, h.fresh⟩
  | connect job kcID => exact (h.settle (by simp)).clean
  | disconnect job target cleaned =>
    cases cleaned with
    | true => exact (h.settle (by simp)).clean
    | false => exact h.settle (by simp)
  | fail job kcID target error =>
    cases error with
    | none => exact h.settle (by simp)
    | some error => exact (h.settle (by simp)).note
  | clean job => exact h.clean

/-- An act of which no workflow has a job refused, without rotations. -/
def AllSubmitted (p : Platform) (s : Sys) : Act → Prop
  | .request _ (.rotate _) => False
  | .workflow _ id => ¬ p.eventFactory.RefusesJob ∧ ∀ wf ∈ s.st.db.workflows.get? id, wf.onSystems
  | _ => True

theorem AllSubmitted.modelled {act : Act} (h : AllSubmitted p s act) :
    Modelled p s act := by
  cases act with
  | workflow => exact h.2
  | _ => trivial

namespace Owned

variable {v v' : View} {phase : Nat → Phase}

theorem leads {G : View → Deed → Prop} (h : Owned v phase) (hl : Leads G v v')
    (hG : ∀ w δ, G w δ → δ.Fair) : Owned v' phase :=
  hl.induct (I := fun w => Owned w phase) h fun w δ hw hδ hen => hw.apply δ hen (hG w δ hδ)

theorem answers {s : State} {req : Request} (h : Owned s.view phase) (hans : Answers p s req res v')
    (hreq : ∀ key, req ≠ .rotate key) :
    Owned v' phase := by
  refine h.leads hans.leads fun w δ hδ => ?_
  cases δ with
  | submit => exact hδ.1
  | mark => exact hδ
  | rotate job prev =>
    obtain ⟨key, rfl⟩ := hδ
    exact absurd rfl (hreq key)
  | _ => trivial

theorem confirmed (h : Owned v phase) (hr : ¬ p.eventFactory.RefusesJob) (hc : Confirmed p v v') :
    Owned v' phase := by
  obtain ⟨v0, v1, h0, hl, h1⟩ := hc
  refine ((h.congr h0).leads hl fun w δ hδ => ?_).congr h1
  cases δ with
  | submit => exact hδ
  | mark => exact hr hδ
  | rotate => exact hδ
  | _ => trivial

/-- The system of a job that has ended is not PROCESSING, except for a rotation. -/
def Released (v : View) (job : Job) : Prop :=
  ∀ kcID target, v.connection job.externalID = some (.processing, kcID, target) →
    job.type = .systemKeyRotate

theorem reacts (h : Owned v phase) (hr : Reacts v job ending res v') : Owned v' phase := by
  refine h.leads hr.leads fun w δ hδ => ?_
  cases δ with
  | submit | mark | rotate => exact hδ.elim
  | _ => trivial

end Owned

theorem Reacts.released {u : Unit} (hr : Reacts v job ending (.ok u) v')
    (hsane : job.data.systemID = job.externalID) :
    Owned.Released v' job := by
  have hset : ∀ (w : View) (c : Connection), c.1 ≠ .processing →
      v'.connection = (w.setConnection job.data.systemID c).connection →
      Owned.Released v' job := by
    intro w c hc hv kcID target hconn
    rw [hv, ← hsane, setConnection_connection, update_self] at hconn
    cases hconn
    exact absurd rfl hc
  cases hr with
  | connect kcID => exact hset v (.connected, some kcID, none) (by simp) rfl
  | unlink target => exact hset v (.disconnected, none, target) (by simp) rfl
  | decommission _ _ target => exact hset v (.disconnected, none, target) (by simp) rfl
  | rotated _ hty => exact fun _ _ _ => hty
  | fail _ kcID target error =>
    refine hset v (.failed, kcID, target) (by simp) ?_
    cases error <;> rfl
  | missing _ _ _ hnone =>
    intro kcID target hconn
    rw [← hsane, hnone] at hconn
    cases hconn

namespace Owned

variable {v : View} {phase : Nat → Phase}

theorem proceed (h : Owned v phase) {n : Nat} {ph : Phase} (hjob : v.jobs[n]? = some job)
    (hph : ph = .ended → Released v job) : Owned v (update phase n ph) := by
  refine ⟨fun id kcID target hc => ?_, h.prev, fun k hk => ?_⟩
  · obtain ⟨m, job', ⟨hjob', hext, hm⟩, hty⟩ := h.busy id kcID target hc
    refine ⟨m, job', ⟨hjob', hext, ?_⟩, hty⟩
    by_cases hmn : m = n
    · subst hmn
      cases hjob.symm.trans hjob'
      rw [update_self]
      exact fun hend => hty (hph hend kcID target (hext ▸ hc))
    · rwa [update_of_ne hmn]
  · obtain ⟨hn, -⟩ := List.getElem?_eq_some_iff.1 hjob
    rw [update_of_ne (by omega)]
    exact h.fresh k hk

theorem step {act : Act} (h : Owned s.view s.phase) (hsane : Sane s.view)
    (ha : AllSubmitted p s act) (hstep : s.step p act = some s') :
    Owned s'.view s'.phase := by
  cases act with
  | request ctx req =>
    obtain ⟨res, hans, hphase, -⟩ := Sys.step_request hstep
    rw [hphase]
    refine h.answers hans fun key hreq => ?_
    subst hreq
    exact ha
  | workflow ctx id =>
    obtain ⟨hconf, hphase, -⟩ := Sys.step_workflow ha.2 hstep
    rw [hphase]
    exact h.confirmed ha.1 hconf
  | confirm number =>
    obtain ⟨job, hjob, -, ⟨ph, hph, hphase⟩, hv, -⟩ := Sys.step_confirm hstep
    rw [hphase, hv]
    exact h.proceed hjob fun hend => absurd hend hph
  | finish number ending message =>
    obtain ⟨job, res, hjob, -, hreact, -, -, hres⟩ := Sys.step_finish hstep
    have hv := h.reacts hreact
    have hjob' : s'.view.jobs[number]? = some job := by rw [hreact.jobs, hjob]
    cases res with
    | ok u =>
      rw [hres.1]
      have hdata := hsane.jobs job (mem_of_getElem? hjob)
      exact hv.proceed hjob' fun _ => hreact.released hdata
    | error e =>
      rw [hres.1]
      exact hv.proceed hjob' nofun

end Owned

/-- If no workflow has a job refused, a job is pending for every system that is PROCESSING. -/
theorem processing_has_job (s₀ s : Sys) (hstart : Start s₀) (hrun : Reach AllSubmitted s₀ s)
    (id : UUID) (keyConfigID target : Option UUID)
    (h : s.view.connection id = some (.processing, keyConfigID, target)) :
    ∃ n job, Pending s.view.jobs s.phase id n job := by
  have howned : Owned s.view s.phase := by
    clear h
    induction hrun with
    | start =>
      refine ⟨fun id kcID target hc => ?_, fun id ev hev => ?_, fun n _ => hstart.phase n⟩
      · cases hstart.systems id _ hc
      · rw [hstart.events id] at hev
        cases hev
    | step p act hrun ha hstep ih =>
      exact ih.step (.of_reach (fun _ _ _ h => h.modelled) hstart hrun) ha hstep
  obtain ⟨n, job, hpending, -⟩ := howned.busy id keyConfigID target h
  exact ⟨n, job, hpending⟩

namespace Sample

def awaiting : Sys :=
  { fresh with
    st := { fresh.st with
      db := { jobsDb with
        workflows := approved.db.workflows
        approvers := approved.db.approvers
        approverGroups := approved.db.approverGroups } } }

theorem awaiting_start : Start awaiting :=
  ⟨start_fresh.systems, start_fresh.events, rfl, start_fresh.phase, rfl, rfl, rfl⟩

end Sample

open Sample in
theorem processing_has_job_linking : ∃ s ∈ fresh.step platform (ask (.link 40 30)),
    s.view.connection 40 = some (.processing, none, some 30) ∧
      ∃ n job, Pending s.view.jobs s.phase 40 n job := by
  have hconn : (after [ask (.link 40 30)]).view.connection 40 =
      some (.processing, none, some 30) := by decide +kernel
  have hrun : Reach AllSubmitted fresh (after [ask (.link 40 30)]) :=
    after_reach ⟨trivial, _, rfl, trivial⟩
  exact ⟨_, rfl, hconn, processing_has_job fresh _ start_fresh hrun 40 none (some 30) hconn⟩

open Sample in
/-- A confirmed workflow leaves its system PROCESSING without a job. -/
theorem processing_without_job : Start awaiting ∧
    ∃ s ∈ awaiting.steps (platformWith fun _ => .error (.foreign "orbital")) [.workflow (as "i") 1],
      s.view.connection 40 = some (.processing, none, some 30) ∧ s.view.jobs = [] :=
  ⟨awaiting_start, by decide +kernel⟩

end Cmk
