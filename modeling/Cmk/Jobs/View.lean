import Mathlib.Logic.Function.Basic
import Cmk.Jobs.Handlers
import Cmk.Spec.Rows

/-!
# Cmk.Jobs.View

What the requests and the job handlers do to systems, as a machine of its own.

* `View`         — the name, the connection and the Event row of every system, the keys and key
  configurations, and the jobs orbital has been given.
* `Deed`         — one change of a view: a system is submitted to a job, a rotation announced, an event
  rekeyed, a system connected, and so on. `Enabled` says what the deed finds, `apply` what it leaves.
* `Leads G v v'` — from `v` to `v'` by deeds that `G` allows in the view they find.

The programs are related to the machine in `Cmk.Jobs.Effects`; the invariants are proved here and
above without looking at a program again.
-/

namespace Cmk

open Tx Function

abbrev Connection := SystemStatus × Option UUID × Option UUID

structure View where
  name : UUID → Option (String × String)
  connection : UUID → Option Connection
  event : UUID → Option Event
  key : UUID → Option Key
  keyConfiguration : UUID → Option KeyConfiguration
  jobs : List Job

def Tx.St.view (s : St Db World) : View where
  name := s.db.name
  connection := s.db.connection
  event := s.db.events.get?
  key := s.db.keys.get?
  keyConfiguration := s.db.keyConfigurations.get?
  jobs := s.ext.jobs

section

variable (s : State)

@[simp] theorem view_name : s.view.name = s.db.name := rfl
@[simp] theorem view_connection : s.view.connection = s.db.connection := rfl
@[simp] theorem view_event : s.view.event = s.db.events.get? := rfl
@[simp] theorem view_jobs : s.view.jobs = s.ext.jobs := rfl

end

namespace View

def setConnection (v : View) (id : UUID) (c : Connection) : View :=
  { v with connection := update v.connection id (some c) }

def setEvent (v : View) (id : UUID) (ev : Option Event) : View :=
  { v with event := update v.event id ev }

def addJob (v : View) (job : Job) : View := { v with jobs := v.jobs ++ [job] }

section

variable {v : View} {id : UUID} {c : Connection} {ev : Option Event}

@[simp] theorem setConnection_connection :
    (v.setConnection id c).connection = update v.connection id (some c) := rfl

@[simp] theorem setConnection_event : (v.setConnection id c).event = v.event := rfl

@[simp] theorem setEvent_event : (v.setEvent id ev).event = update v.event id ev := rfl

@[simp] theorem setEvent_connection : (v.setEvent id ev).connection = v.connection := rfl

end

/-- The Event row of a job is deleted if it is of the type of the job. -/
def clean (v : View) (job : Job) : View :=
  v.setEvent job.externalID ((v.event job.externalID).filter fun ev => ev.type ≠ job.type)

/-- The error of a job is noted in the Event row of its system. -/
def note (v : View) (job : Job) (code message : String) : View :=
  v.setEvent job.externalID ((v.event job.externalID).map fun ev =>
    { ev with
      errorCode := Repo.nonZero "" code ev.errorCode
      errorMessage := Repo.nonZero "" message ev.errorMessage })

end View

def Job.event (job : Job) (prev : SystemStatus) : Event where
  identifier := job.externalID
  type := job.type
  data := job.data
  status := job.status
  previousItemStatus := prev

def Event.rekey (ev : Event) (keyID : UUID) : Event :=
  { ev with data := { ev.data with keyIDTo := some keyID } }

inductive Deed where
  /-- A job is created and the system marked as processing; `stored` says that the event is stored. -/
  | submit (job : Job) (prev : SystemStatus) (keyConfigID target : Option UUID) (stored : Bool)
  /-- The system is marked as processing, but no job is created. -/
  | mark (id : UUID) (keyConfigID target : Option UUID)
  /-- Only the target of the system is stored. -/
  | retarget (id : UUID) (status : SystemStatus) (keyConfigID target : Option UUID)
  /-- Only the job is left. -/
  | prepare (job : Job)
  | rotate (job : Job) (prev : SystemStatus)
  | retry (job : Job) (keyConfigID target : Option UUID)
  | restore (id : UUID) (prev : SystemStatus) (keyConfigID : Option UUID)
  | rekey (ev : Event) (keyID : UUID)
  | replace (kc : KeyConfiguration)
  | connect (job : Job) (keyConfigID : UUID)
  | disconnect (job : Job) (target : Option UUID) (cleaned : Bool)
  | fail (job : Job) (keyConfigID target : Option UUID) (error : Option (String × String))
  | clean (job : Job)

namespace Deed

/-- What a deed finds. -/
def Enabled (v : View) : Deed → Prop
  | submit job prev keyConfigID _ _ => prev ≠ .processing ∧ job.data.systemID = job.externalID ∧
      (job.type ≠ .systemLink → keyConfigID ≠ none) ∧
      ∃ target, v.connection job.externalID = some (prev, keyConfigID, target)
  | mark id keyConfigID _ => ∃ prev target, prev ≠ .processing ∧
      v.connection id = some (prev, keyConfigID, target)
  | retarget id status keyConfigID _ => ∃ target,
      v.connection id = some (status, keyConfigID, target)
  | prepare _ => True
  | rotate job prev => job.type = .systemKeyRotate ∧ job.data.systemID = job.externalID ∧
      ∃ c, v.connection job.externalID = some (prev, c)
  | retry job keyConfigID target => job.type ≠ .systemKeyRotate ∧
      v.connection job.externalID = some (.failed, keyConfigID, target) ∧
      ∃ ev, v.event job.externalID = some ev ∧ ev.type = job.type ∧ ev.data = job.data
  | restore id prev keyConfigID =>
      (∃ status target, v.connection id = some (status, keyConfigID, target)) ∧
      ∃ ev, v.event id = some ev ∧ ev.previousItemStatus = prev
  | rekey ev _ => v.event ev.identifier = some ev ∧ ev.data.keyIDTo ≠ none
  | replace kc => ∃ kc', v.keyConfiguration kc.id = some kc'
  | connect job keyConfigID => (∃ c, v.connection job.data.systemID = some c) ∧
      ∃ key, v.key key.id = some key ∧ job.data.keyIDTo = some key.id ∧
        key.keyConfigurationID = keyConfigID
  | disconnect job target _ => ∃ status keyConfigID,
      v.connection job.data.systemID = some (status, keyConfigID, target)
  | fail job keyConfigID target _ => ∃ status,
      v.connection job.data.systemID = some (status, keyConfigID, target)
  | clean _ => True

/-- What a deed leaves. -/
def apply (v : View) : Deed → View
  | submit job prev keyConfigID target stored =>
      let v := (v.setConnection job.externalID (.processing, keyConfigID, target)).addJob job
      if stored then v.setEvent job.externalID (some (job.event prev)) else v
  | mark id keyConfigID target => v.setConnection id (.processing, keyConfigID, target)
  | retarget id status keyConfigID target => v.setConnection id (status, keyConfigID, target)
  | prepare job => v.addJob job
  | rotate job prev => (v.addJob job).setEvent job.externalID (some (job.event prev))
  | retry job keyConfigID target =>
      (v.setConnection job.externalID (.processing, keyConfigID, target)).addJob job
  | restore id prev keyConfigID => v.setConnection id (prev, keyConfigID, none)
  | rekey ev keyID => v.setEvent ev.identifier (some (ev.rekey keyID))
  | replace kc =>
      { v with keyConfiguration := update v.keyConfiguration kc.id (some kc) }
  | connect job keyConfigID =>
      (v.setConnection job.data.systemID (.connected, some keyConfigID, none)).clean job
  | disconnect job target cleaned =>
      let v := v.setConnection job.data.systemID (.disconnected, none, target)
      if cleaned then v.clean job else v
  | fail job keyConfigID target error =>
      let v := v.setConnection job.data.systemID (.failed, keyConfigID, target)
      match error with
      | some (code, message) => v.note job code message
      | none => v
  | clean job => v.clean job

end Deed

namespace Deed

variable {v : View} {job : Job} {prev : SystemStatus} {kcID target : Option UUID} {stored : Bool}

@[simp] theorem submit_connection : ((submit job prev kcID target stored).apply v).connection =
    update v.connection job.externalID (some (.processing, kcID, target)) := by
  cases stored <;> rfl

@[simp] theorem submit_jobs :
    ((submit job prev kcID target stored).apply v).jobs = v.jobs ++ [job] := by
  cases stored <;> rfl

@[simp] theorem submit_key : ((submit job prev kcID target stored).apply v).key = v.key := by
  cases stored <;> rfl

@[simp] theorem submit_keyConfiguration :
    ((submit job prev kcID target stored).apply v).keyConfiguration = v.keyConfiguration := by
  cases stored <;> rfl

section

variable {error : Option (String × String)}

@[simp] theorem fail_connection : ((fail job kcID target error).apply v).connection =
    update v.connection job.data.systemID (some (.failed, kcID, target)) := by
  cases error <;> rfl

theorem fail_event_of_ne {id : UUID} (hid : id ≠ job.externalID) :
    ((fail job kcID target error).apply v).event id = v.event id := by
  cases error with
  | none => rfl
  | some error => exact update_of_ne hid _ _

theorem fail_event (kcID target : Option UUID) (error : Option (String × String)) {ev : Event}
    (hev : v.event job.externalID = some ev) :
    ∃ ev', ((fail job kcID target error).apply v).event job.externalID = some ev' ∧
      ev'.type = ev.type ∧ ev'.data = ev.data ∧ ev'.previousItemStatus = ev.previousItemStatus := by
  cases error with
  | none => exact ⟨ev, hev, rfl, rfl, rfl⟩
  | some error =>
    have hnote : ((fail job kcID target (some error)).apply v).event job.externalID =
        (v.event job.externalID).map _ := update_self _ _ _
    rw [hnote, hev]
    exact ⟨_, rfl, rfl, rfl, rfl⟩

end

end Deed

def Deed.job : Deed → Option Job
  | submit job _ _ _ _ | prepare job | rotate job _ | retry job _ _ => some job
  | _ => none

theorem Deed.apply_jobs {v : View} {δ : Deed} : (δ.apply v).jobs = v.jobs ++ δ.job.toList := by
  cases δ with
  | submit => exact Deed.submit_jobs
  | prepare | rotate | retry => rfl
  | disconnect job target cleaned => cases cleaned <;> exact (List.append_nil _).symm
  | fail job kcID target error => cases error <;> exact (List.append_nil _).symm
  | _ => exact (List.append_nil _).symm

@[simp] theorem Deed.apply_name {v : View} {δ : Deed} : (δ.apply v).name = v.name := by
  cases δ with
  | submit job prev kcID target stored => cases stored <;> rfl
  | disconnect job target cleaned => cases cleaned <;> rfl
  | fail job kcID target error => cases error <;> rfl
  | _ => rfl

theorem Deed.submit_setConnection {v : View} {job : Job} {prev : SystemStatus}
    {keyConfigID target : Option UUID} {stored : Bool} {id : UUID} {c : Connection}
    (h : job.externalID = id) :
    (Deed.submit job prev keyConfigID target stored).apply (v.setConnection id c) =
      (Deed.submit job prev keyConfigID target stored).apply v := by
  subst h
  simp only [Deed.apply, View.setConnection, update_idem]

/-- From `v` to `v'` by deeds that `G` allows in the view they find. -/
def Leads (G : View → Deed → Prop) : View → View → Prop :=
  Relation.ReflTransGen fun v v' => ∃ δ, G v δ ∧ δ.Enabled v ∧ v' = δ.apply v

namespace Leads

variable {G G' : View → Deed → Prop} {v v' : View}

theorem single {δ : Deed} (hG : G v δ) (he : δ.Enabled v) : Leads G v (δ.apply v) :=
  Relation.ReflTransGen.single ⟨δ, hG, he, rfl⟩

theorem induct {I : View → Prop} (h : Leads G v v') (h0 : I v)
    (hstep : ∀ v δ, I v → G v δ → δ.Enabled v → I (δ.apply v)) : I v' := by
  induction h with
  | refl => exact h0
  | tail _ hδ ih =>
    obtain ⟨δ, hG, he, rfl⟩ := hδ
    exact hstep _ δ ih hG he

theorem mono (h : Leads G v v') (hG : ∀ v δ, G v δ → G' v δ) : Leads G' v v' :=
  Relation.ReflTransGen.mono (fun _ _ ⟨δ, h, he, heq⟩ => ⟨δ, hG _ δ h, he, heq⟩) _ _ h

theorem name (h : Leads G v v') : v'.name = v.name :=
  h.induct (I := fun v' => v'.name = v.name) rfl fun _ _ hv _ _ => Deed.apply_name.trans hv

theorem rollback (h : Leads G v v') {J : Job → Prop}
    (hJ : ∀ v δ, G v δ → δ.Enabled v → ∀ job ∈ δ.job, J job) {v0 : View} (h0 : v0.jobs = v.jobs) :
    Leads (fun _ δ => ∃ job, δ = .prepare job ∧ J job) v0 { v0 with jobs := v'.jobs } := by
  induction h with
  | refl => rw [← h0]; exact .refl
  | tail _ hδ ih =>
    obtain ⟨δ, hG, he, rfl⟩ := hδ
    rw [Deed.apply_jobs]
    cases hjob : δ.job with
    | none => simpa using ih
    | some job =>
      refine ih.trans (.single ⟨.prepare job, ⟨job, rfl, hJ _ δ hG he job hjob⟩, trivial, rfl⟩)

end Leads

end Cmk
