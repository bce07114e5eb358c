import Cmk.Jobs.Gate
import Cmk.Jobs.Progress

/-!
# Cmk.Jobs.Recovery

The Event row of a system and the jobs it stands for.

There is one row for a system, and every job that is created for the system overwrites it. While the
jobs come one at a time, the row describes the job that is pending, and in a FAILED system the one
that failed.

* `Describes`  — a row has the type and the keys of a job, up to a later primary key.
* `Traced`     — what the row of one system says about its jobs; `Tracks` is that for all systems.
* `OneAtATime` — the acts that give no system a second job, and cancel no job that is running.
-/

namespace Cmk

open Tx Function List Deed View

variable {phase : Nat → Phase}

variable {jobs : List Job} {id : UUID} {m n : Nat} {j job : Job} {ph : Phase} {p : Platform}
  {s s' s₀ : Sys} {f : EventFactory} {ending : Ending}

/-- The last job of the system that ended failed or canceled. -/
def lastFailed (ended : List Ended) (id : UUID) : Option Ended :=
  ended.find? fun e => e.job.externalID = id ∧ e.ending ≠ .done

/-- The row is that of a job; `later` says which keys became primary since the job was created. -/
structure Describes (later : Nat → UUID → Prop) (number : Nat) (job : Job) (ev : Event) : Prop where
  type : ev.type = job.type
  systemID : ev.data.systemID = job.data.systemID
  keyIDFrom : ev.data.keyIDFrom = job.data.keyIDFrom
  keyIDTo : ev.data.keyIDTo = job.data.keyIDTo ∨
    ∃ keyID, later number keyID ∧ ev.data.keyIDTo = some keyID

namespace Describes

variable {later later' : Nat → UUID → Prop} {n : Nat} {job : Job} {ev : Event}

theorem of_eq (hty : ev.type = job.type) (hdata : ev.data = job.data) : Describes later n job ev :=
  ⟨hty, by rw [hdata], by rw [hdata], .inl (by rw [hdata])⟩

theorem mono (h : Describes later n job ev) (hl : ∀ keyID, later n keyID → later' n keyID) :
    Describes later' n job ev := by
  refine ⟨h.type, h.systemID, h.keyIDFrom, h.keyIDTo.imp_right ?_⟩
  rintro ⟨keyID, hk, hev⟩
  exact ⟨keyID, hl keyID hk, hev⟩

theorem rekey (h : Describes later n job ev) {keyID : UUID} (hl : later n keyID) :
    Describes later n job (ev.rekey keyID) :=
  ⟨h.type, h.systemID, h.keyIDFrom, .inr ⟨keyID, hl, rfl⟩⟩

end Describes

/-- What the row of a system says, by its connection, its pending jobs and the last one that failed. -/
structure Traced (later : Nat → UUID → Prop) (c : Option Connection) (row : Option Event)
    (pending : Nat → Job → Prop) (last : Option Ended) : Prop where
  single : ∀ n m job job', pending n job → pending m job' → n = m
  event : ∀ n job, pending n job → ∃ ev, row = some ev ∧ Describes later n job ev
  processing : ∀ n job, pending n job → job.type ≠ .systemKeyRotate →
    ∃ kcID target, c = some (.processing, kcID, target)
  rotating : ∀ n job, pending n job → job.type = .systemKeyRotate → ∀ x, c = some x → x.1.isStable
  failed : ∀ kcID target, c = some (.failed, kcID, target) →
    ∃ e ev, last = some e ∧ row = some ev ∧ Describes later e.number e.job ev
  prev : ∀ ev, row = some ev → ev.previousItemStatus ≠ .processing
  stable : ∀ x ev, c = some x → x.1.isStable → row = some ev → ev.previousItemStatus.isStable

namespace Traced

variable {later later' : Nat → UUID → Prop} {c : Option Connection} {row : Option Event}
  {pending : Nat → Job → Prop} {last : Option Ended} {n : Nat} {job : Job} {ev : Event}
  {kcID target : Option UUID}

theorem mono (h : Traced later c row pending last)
    (hp : ∀ n job, pending n job → ∀ keyID, later n keyID → later' n keyID)
    (hl : ∀ e, last = some e → ∀ keyID, later e.number keyID → later' e.number keyID) :
    Traced later' c row pending last := by
  refine ⟨h.single, fun n job hn => ?_, h.processing, h.rotating, fun kcID target hc => ?_, h.prev,
    h.stable⟩
  · obtain ⟨ev, hev, hd⟩ := h.event n job hn
    exact ⟨ev, hev, hd.mono (hp n job hn)⟩
  · obtain ⟨e, ev, he, hev, hd⟩ := h.failed kcID target hc
    exact ⟨e, ev, he, hev, hd.mono (hl e he)⟩

theorem not_pending (h : Traced later (some (.failed, kcID, target)) row pending last) :
    ¬ pending n job := by
  intro hn
  by_cases hty : job.type = .systemKeyRotate
  · cases h.rotating n job hn hty _ rfl
  · obtain ⟨_, _, hc⟩ := h.processing n job hn hty
    cases hc

theorem of_job (hp : ∀ m j, pending m j → m = n ∧ j = job) (hty : job.type ≠ .systemKeyRotate)
    (hev : Describes later n job ev) (hprev : ev.previousItemStatus ≠ .processing) :
    Traced later (some (.processing, kcID, target)) (some ev) pending last where
  single m m' j j' hm hm' := (hp m j hm).1.trans (hp m' j' hm').1.symm
  event m j hm := by
    obtain ⟨rfl, rfl⟩ := hp m j hm
    exact ⟨ev, rfl, hev⟩
  processing _ _ _ _ := ⟨kcID, target, rfl⟩
  rotating m j hm hr := absurd ((hp m j hm).2 ▸ hr) hty
  failed _ _ hc := by cases hc
  prev ev' h := by cases h; exact hprev
  stable x _ hc hst _ := by cases hc; cases hst

theorem of_rotation {x : Connection} (hp : ∀ m j, pending m j → m = n ∧ j = job)
    (hty : job.type = .systemKeyRotate) (hx : x.1.isStable) (hev : Describes later n job ev)
    (hprev : ev.previousItemStatus.isStable) : Traced later (some x) (some ev) pending last where
  single m m' j j' hm hm' := (hp m j hm).1.trans (hp m' j' hm').1.symm
  event m j hm := by
    obtain ⟨rfl, rfl⟩ := hp m j hm
    exact ⟨ev, rfl, hev⟩
  processing m j hm hr := absurd hty ((hp m j hm).2 ▸ hr)
  rotating _ _ _ _ y hy := by cases hy; exact hx
  failed _ _ hc := by cases hc; cases hx
  prev ev' h := by
    cases h
    intro hpr
    rw [hpr] at hprev
    cases hprev
  stable _ _ _ _ h := by cases h; exact hprev

theorem of_done (hp : ∀ m j, ¬ pending m j) (hc : ∀ x, c = some x → x.1.isStable) :
    Traced later c none pending last where
  single m _ j _ hm := absurd hm (hp m j)
  event m j hm := absurd hm (hp m j)
  processing m j hm := absurd hm (hp m j)
  rotating m j hm := absurd hm (hp m j)
  failed _ _ h := by cases hc _ h
  prev _ h := by cases h
  stable _ _ _ _ h := by cases h

theorem of_failed {e : Ended} (hp : ∀ m j, ¬ pending m j) (hlast : last = some e)
    (hev : Describes later e.number e.job ev) (hprev : ev.previousItemStatus ≠ .processing) :
    Traced later (some (.failed, kcID, target)) (some ev) pending last where
  single m _ j _ hm := absurd hm (hp m j)
  event m j hm := absurd hm (hp m j)
  processing m j hm := absurd hm (hp m j)
  rotating m j hm := absurd hm (hp m j)
  failed _ _ _ := ⟨e, ev, hlast, rfl, hev⟩
  prev _ h := by cases h; exact hprev
  stable x _ hc hst _ := by cases hc; cases hst

theorem of_gone (hp : ∀ m j, ¬ pending m j)
    (hprev : ∀ ev, row = some ev → ev.previousItemStatus ≠ .processing) :
    Traced later none row pending last where
  single m _ j _ hm := absurd hm (hp m j)
  event m j hm := absurd hm (hp m j)
  processing m j hm := absurd hm (hp m j)
  rotating m j hm := absurd hm (hp m j)
  failed _ _ h := by cases h
  prev := hprev
  stable _ _ h := by cases h

theorem rekey (h : Traced later c (some ev) pending last) {keyID : UUID}
    (hl : ∀ n, later n keyID) : Traced later c (some (ev.rekey keyID)) pending last where
  single := h.single
  event n job hn := by
    obtain ⟨_, ⟨⟩, hd⟩ := h.event n job hn
    exact ⟨_, rfl, hd.rekey (hl n)⟩
  processing := h.processing
  rotating := h.rotating
  failed kcID target hc := by
    obtain ⟨e, _, he, ⟨⟩, hd⟩ := h.failed kcID target hc
    exact ⟨e, _, he, rfl, hd.rekey (hl e.number)⟩
  prev ev' h' := by cases h'; exact h.prev ev rfl
  stable x ev' hc hst h' := by cases h'; exact h.stable x ev hc hst rfl

theorem restore {status : SystemStatus}
    (h : Traced later (some (status, kcID, target)) (some ev) pending last) (hst : status ≠ .processing) :
    Traced later (some (ev.previousItemStatus, kcID, none)) (some ev) pending last := by
  by_cases hfailed : status = .failed
  · subst hfailed
    refine ⟨h.single, h.event, fun n job hn => absurd hn h.not_pending, fun n job hn =>
      absurd hn h.not_pending, fun _ _ _ => h.failed kcID target rfl, h.prev, fun x ev' hc hx hev => ?_⟩
    cases hc
    cases hev
    exact hx
  · have hstable : status.isStable := by cases status <;> simp_all [SystemStatus.isStable]
    have hprev : ev.previousItemStatus.isStable := h.stable _ ev rfl hstable rfl
    refine ⟨h.single, h.event, fun n job hn hty => ?_, fun _ _ _ _ x hx => ?_, fun _ _ hc => ?_,
      h.prev, fun x ev' _ _ hev => ?_⟩
    · obtain ⟨_, _, hc⟩ := h.processing n job hn hty
      cases hc
      exact absurd rfl hst
    · cases hx
      exact hprev
    · simp only [Option.some.injEq, Prod.mk.injEq] at hc
      rw [hc.1] at hprev
      cases hprev
    · cases hev
      exact hprev

end Traced

namespace Pending

variable {jobs : List Job} {phase : Nat → Phase} {id : UUID} {n : Nat} {job job' : Job}

theorem append_iff {added : List Job} (hne : ∀ job ∈ added, job.externalID ≠ id) :
    Pending (jobs ++ added) phase id n job ↔ Pending jobs phase id n job := by
  refine ⟨fun ⟨hl, hid, hr⟩ => ⟨?_, hid, hr⟩, fun ⟨hl, hid, hr⟩ => ⟨?_, hid, hr⟩⟩
  · by_cases hlt : n < jobs.length
    · rwa [List.getElem?_append_left hlt] at hl
    · rw [List.getElem?_append_right (by omega)] at hl
      exact absurd hid (hne job (mem_of_getElem? hl))
  · obtain ⟨hlt, -⟩ := List.getElem?_eq_some_iff.1 hl
    rwa [List.getElem?_append_left hlt]

theorem of_append (h : Pending (jobs ++ [job']) phase id n job) :
    Pending jobs phase id n job ∨ n = jobs.length ∧ job = job' := by
  obtain ⟨hl, hid, hr⟩ := h
  rcases lt_trichotomy n jobs.length with hlt | heq | hgt
  · rw [List.getElem?_append_left hlt] at hl
    exact .inl ⟨hl, hid, hr⟩
  · subst heq
    rw [List.getElem?_concat_length] at hl
    cases hl
    exact .inr ⟨rfl, rfl⟩
  · rw [List.getElem?_eq_none (by rw [length_append, length_singleton]; omega)] at hl
    cases hl

end Pending

theorem Pending.end_iff (hn : jobs[n]? = some job) (hid : id ≠ job.externalID) :
    Pending jobs (update phase n .ended) id m j ↔ Pending jobs phase id m j := by
  have hother : j.externalID = id → jobs[m]? = some j → m ≠ n := by
    rintro hj hm rfl
    cases hn.symm.trans hm
    exact hid hj.symm
  refine ⟨fun ⟨hl, hs, hr⟩ => ⟨hl, hs, ?_⟩, fun ⟨hl, hs, hr⟩ => ⟨hl, hs, ?_⟩⟩
  · rwa [update_of_ne (hother hs hl)] at hr
  · rwa [update_of_ne (hother hs hl)]

theorem Pending.proceed_eq (hn : phase n ≠ .ended) (hph : ph ≠ .ended) :
    Pending jobs (update phase n ph) id = Pending jobs phase id := by
  have hiff : ∀ m, update phase n ph m ≠ .ended ↔ phase m ≠ .ended := by
    intro m
    by_cases hm : m = n
    · subst hm
      rw [update_self]
      exact iff_of_true hph hn
    · rw [update_of_ne hm]
  funext m job
  exact propext ⟨fun ⟨hl, hid, hr⟩ => ⟨hl, hid, (hiff m).1 hr⟩,
    fun ⟨hl, hid, hr⟩ => ⟨hl, hid, (hiff m).2 hr⟩⟩

/-- A fact of every system, its Event row and its pending jobs. -/
def PerSystem (Q : UUID → Option Connection → Option Event → (Nat → Job → Prop) → Prop)
    (phase : Nat → Phase) (v : View) : Prop :=
  ∀ id, Q id (v.connection id) (v.event id) (Pending v.jobs phase id)

namespace PerSystem

variable {Q : UUID → Option Connection → Option Event → (Nat → Job → Prop) → Prop}
  {phase : Nat → Phase} {v v' : View}

theorem congr (h : PerSystem Q phase v) {pending : Nat → Job → Prop}
    (hp : ∀ n job, pending n job ↔ Pending v.jobs phase id n job) :
    Q id (v.connection id) (v.event id) pending := by
  have heq : pending = Pending v.jobs phase id := by
    funext n job
    exact propext (hp n job)
  exact heq ▸ h id

theorem set (h : PerSystem Q phase v) (id : UUID) (added : List Job)
    (hconn : ∀ id', id' ≠ id → v'.connection id' = v.connection id')
    (hevent : ∀ id', id' ≠ id → v'.event id' = v.event id')
    (hjobs : v'.jobs = v.jobs ++ added) (hadded : ∀ job ∈ added, job.externalID = id)
    (hid : Q id (v'.connection id) (v'.event id) (Pending v'.jobs phase id)) :
    PerSystem Q phase v' := by
  intro id'
  by_cases heq : id' = id
  · exact heq ▸ hid
  · rw [hconn id' heq, hevent id' heq]
    refine h.congr fun n job => ?_
    rw [hjobs]
    exact Pending.append_iff fun job' hmem => (hadded job' hmem).symm ▸ fun h => heq h.symm

theorem finish (h : PerSystem Q phase v) (hn : v.jobs[n]? = some job) (hjobs : v'.jobs = v.jobs)
    (hconn : ∀ id, id ≠ job.externalID → v'.connection id = v.connection id)
    (hevent : ∀ id, id ≠ job.externalID → v'.event id = v.event id)
    (hid : Q job.externalID (v'.connection job.externalID) (v'.event job.externalID)
      (Pending v.jobs (update phase n .ended) job.externalID)) :
    PerSystem Q (update phase n .ended) v' := by
  intro id
  by_cases heq : id = job.externalID
  · rw [heq, hjobs]
    exact hid
  · rw [hconn id heq, hevent id heq, hjobs]
    exact h.congr fun m j => Pending.end_iff hn heq

theorem proceed (h : PerSystem Q phase v) (hn : phase n ≠ .ended) (hph : ph ≠ .ended) :
    PerSystem Q (update phase n ph) v := by
  intro id
  rw [Pending.proceed_eq hn hph]
  exact h id

end PerSystem

def NoRotation (jobs : List Job) (phase : Nat → Phase) (id : UUID) : Prop :=
  ∀ n job, Pending jobs phase id n job → job.type ≠ .systemKeyRotate

theorem NoRotation.append (h : NoRotation jobs phase id) (hty : job.type ≠ .systemKeyRotate) :
    NoRotation (jobs ++ [job]) phase id := by
  intro n job' hn
  rcases hn.of_append with hn | ⟨-, rfl⟩
  · exact h n job' hn
  · exact hty

structure Tracks (later : Nat → UUID → Prop) (phase : Nat → Phase) (ended : List Ended) (v : View) :
    Prop where
  traced : PerSystem (fun id c row pending => Traced later c row pending (lastFailed ended id)) phase v
  listed : ∀ e ∈ ended, e.number < v.jobs.length

/-- The deeds of requests that find their system without a job. -/
def Deed.Lone (later : Nat → UUID → Prop) (phase : Nat → Phase) (v : View) : Deed → Prop
  | .submit job _ _ _ stored => stored = true ∧ job.type ≠ .systemKeyRotate ∧
      NoRotation v.jobs phase job.externalID
  | .rotate job prev => prev.isStable ∧ NoRotation v.jobs phase job.externalID
  | .restore id _ _ => ∀ c, v.connection id = some c → c.1 ≠ .processing
  | .rekey _ keyID => ∀ n, later n keyID
  | .retry _ _ _ | .replace _ => True
  | _ => False

namespace Tracks

variable {later later' : Nat → UUID → Prop} {phase : Nat → Phase} {ended : List Ended} {v v' : View}

theorem set (h : Tracks later phase ended v) (id : UUID) (added : List Job)
    (hconn : ∀ id', id' ≠ id → v'.connection id' = v.connection id')
    (hevent : ∀ id', id' ≠ id → v'.event id' = v.event id')
    (hjobs : v'.jobs = v.jobs ++ added) (hadded : ∀ job ∈ added, job.externalID = id)
    (hid : Traced later (v'.connection id) (v'.event id) (Pending v'.jobs phase id)
      (lastFailed ended id)) : Tracks later phase ended v' := by
  refine ⟨h.traced.set id added hconn hevent hjobs hadded hid, fun e he => ?_⟩
  rw [hjobs, length_append]
  exact Nat.lt_add_right _ (h.listed e he)

theorem only (hnone : ∀ n j, ¬ Pending jobs phase job.externalID n j)
    (hn : Pending (jobs ++ [job]) phase job.externalID n j) :
    n = jobs.length ∧ j = job :=
  hn.of_append.resolve_left (hnone n j)

theorem none_pending (h : Tracks later phase ended v) {c : Connection}
    (hc : v.connection id = some c) (hst : c.1 ≠ .processing) (hrot : NoRotation v.jobs phase id)
    (n : Nat) (job : Job) : ¬ Pending v.jobs phase id n job := by
  intro hn
  obtain ⟨kcID, target, hp⟩ := (h.traced id).processing n job hn (hrot n job hn)
  rw [hc] at hp
  cases hp
  exact hst rfl

theorem apply (h : Tracks later phase ended v) (δ : Deed) (hen : δ.Enabled v)
    (hδ : δ.Lone later phase v) : Tracks later phase ended (δ.apply v) := by
  cases δ with
  | submit job prev kcID target stored =>
    obtain ⟨rfl, hty, hrot⟩ := hδ
    obtain ⟨hprev, -, -, target', hconn⟩ := hen
    have hnone := h.none_pending hconn hprev hrot
    refine h.set job.externalID [job] (fun id' hid => update_of_ne hid _ _)
      (fun id' hid => update_of_ne hid _ _) rfl (by simp) ?_
    rw [Deed.submit_connection, update_self]
    simp only [Deed.apply, if_true, setEvent_event, update_self]
    exact .of_job (fun m j => only hnone) hty (.of_eq rfl rfl) hprev
  | rotate job prev =>
    obtain ⟨hstable, hrot⟩ := hδ
    obtain ⟨hty, -, c, hconn⟩ := hen
    have hprev : prev ≠ .processing := fun heq => by rw [heq] at hstable; cases hstable
    have hnone := h.none_pending hconn hprev hrot
    refine h.set job.externalID [job] (fun _ _ => rfl)
      (fun id' hid => update_of_ne hid _ _) rfl (by simp) ?_
    simp only [Deed.apply, setEvent_event, update_self]
    exact hconn.symm ▸ .of_rotation (fun m j => only hnone) hty hstable (.of_eq rfl rfl) hstable
  | retry job kcID target =>
    obtain ⟨hty, hconn, ev, hev, hevty, hdata⟩ := hen
    have htr := h.traced job.externalID
    have hprev := htr.prev ev hev
    rw [hconn] at htr
    refine h.set job.externalID [job] (fun id' hid => update_of_ne hid _ _)
      (fun _ _ => rfl) rfl (by simp) ?_
    simp only [Deed.apply, addJob, setConnection, update_self]
    exact hev.symm ▸ .of_job (fun m j => only fun _ _ => htr.not_pending) hty
      (.of_eq hevty hdata) hprev
  | restore id prev kcID =>
    obtain ⟨⟨status, target, hconn⟩, ev, hev, rfl⟩ := hen
    have htr := h.traced id
    rw [hconn, hev] at htr
    refine h.set id [] (fun id' hid => update_of_ne hid _ _) (fun _ _ => rfl)
      (append_nil _).symm (by simp) ?_
    simp only [Deed.apply, setConnection, update_self]
    exact hev.symm ▸ htr.restore (hδ _ hconn)
  | rekey ev keyID =>
    have htr := h.traced ev.identifier
    rw [hen.1] at htr
    refine h.set ev.identifier [] (fun _ _ => rfl) (fun id' hid => update_of_ne hid _ _)
      (append_nil _).symm (by simp) ?_
    simp only [Deed.apply, setEvent_event, update_self]
    exact htr.rekey hδ
  | replace kc => exact ⟨h.traced, h.listed⟩
  | _ => exact hδ.elim

theorem mono (h : Tracks later phase ended v)
    (hl : ∀ n < v.jobs.length, ∀ keyID, later n keyID → later' n keyID) :
    Tracks later' phase ended v := by
  refine ⟨fun id => (h.traced id).mono (fun n job hn => hl n ?_) fun e he => hl e.number ?_, h.listed⟩
  · exact (List.getElem?_eq_some_iff.1 hn.listed).1
  · exact h.listed e (mem_of_find?_eq_some he)

end Tracks

/-- A switch to a new primary key that reaches every system, each of them without a job. -/
structure Switchable (p : Platform) (s : Sys) (kc : KeyConfiguration) (patch : KeyConfigurationPatch) :
    Prop where
  small : OnePage s.st.db kc.id kc.primaryKeyID
  accepted : ¬ p.eventFactory.RefusesJob
  name : ¬ KeyConfigManager.NameTaken s.view kc.id (KeyConfigManager.patched kc patch).name
  systems : ∀ id status target, s.view.connection id = some (status, some kc.id, target) →
    status ≠ .processing ∧ NoRotation s.view.jobs s.phase id

def Request.Alone (p : Platform) (s : Sys) : Request → Prop
  | .link id _ | .unlink id => NoRotation s.view.jobs s.phase id
  | .decommission _ => False
  | .update keyConfigID patch => patch.primaryKeyID ≠ none →
      ∀ kc, Repo.byID s.st.db.keyConfigurations keyConfigID = some kc → Switchable p s kc patch
  | .rotate key => (Repo.systemsOf s.st.db key.keyConfigurationID).length ≤ defaultLimit ∧
      ∀ id status target, s.view.connection id = some (status, some key.keyConfigurationID, target) →
        status.isStable ∧ NoRotation s.view.jobs s.phase id
  | .recover id .retry => ∀ ev, s.view.event id = some ev → ev.type ≠ .systemKeyRotate
  | .recover id .cancel => ∀ c, s.view.connection id = some c → c.1 ≠ .processing
  | .recover _ (.other _) => True

/-- No repository fails, and a request gives no system a second job. -/
def OneAtATime (p : Platform) (s : Sys) : Act → Prop
  | .request _ req => p.Reliable ∧ req.Alone p s
  | .workflow _ _ => False
  | _ => True

theorem OneAtATime.modelled {act : Act} (h : OneAtATime p s act) :
    Modelled p s act := by
  cases act with
  | workflow => exact h.elim
  | _ => trivial

def Sys.later (s : Sys) (number : Nat) (keyID : UUID) : Prop :=
  ∃ k, number < k ∧ (k, keyID) ∈ s.promoted

theorem Sys.later_congr (h : s'.promoted = s.promoted) : s'.later = s.later := by
  funext n keyID
  simp only [later, h]

theorem Updates.jobs_of_none {c : UUID} {old : Option UUID} {v v' : View}
    (h : Leads (f.Marked (Updates f c old none)) v v') : v'.jobs = v.jobs := by
  refine h.induct (I := fun w => w.jobs = v.jobs) rfl fun w δ hw hδ _ => ?_
  rcases hδ with hδ | ⟨-, id, kcID, target, rfl⟩
  · cases δ with
    | submit =>
      obtain ⟨⟨_, _, hnew, _⟩, _⟩ := hδ
      cases hnew
    | rekey | replace => exact hw
    | _ => exact hδ.elim
  · exact hw

theorem Switchable.no_job {kc : KeyConfiguration} {patch : KeyConfigurationPatch} {v' : View}
    {res : Except Exn KeyConfiguration} (hrel : p.Reliable)
    (hsw : patch.primaryKeyID ≠ none → Switchable p s kc patch)
    (hupd : KeyConfigManager.Updated p.keyConfigurations p.eventFactory s.st.db kc patch s.view v' res)
    (hres : ∀ a, res ≠ .ok a) : v'.jobs = s.view.jobs := by
  cases hp : patch.primaryKeyID with
  | none =>
    have hran := hupd.ran.marked
    rw [hp] at hran
    exact Updates.jobs_of_none hran
  | some new =>
    have hsw := hsw (by rw [hp]; nofun)
    cases res with
    | ok a => exact absurd rfl (hres a)
    | error e =>
      rcases hupd.outcome hsw.small with hjobs | hob | hname
      · exact hjobs
      · cases hob with
        | processing id target hc => exact absurd rfl (hsw.systems id _ target hc).1
        | unreliable h => exact absurd ⟨hrel.keyConfigurations, hrel.events⟩ h
        | refusesJob h => exact absurd h hsw.accepted
      · exact absurd hname hsw.name

namespace Tracks

variable {later : Nat → UUID → Prop} {phase : Nat → Phase} {ended : List Ended} {v v' : View}

theorem updated {c : UUID} {old new : Option UUID} (h : Tracks later phase ended v)
    (hf : f.repo.Reliable) (hlater : ∀ keyID, new = some keyID → ∀ n, later n keyID)
    (hrot : ∀ id status target, v.connection id = some (status, some c, target) →
      new ≠ none → NoRotation v.jobs phase id) (hl : Leads (Updates f c old new) v v') :
    Tracks later phase ended v' := by
  refine (hl.induct (I := fun w => Tracks later phase ended w ∧
    ∀ id status target, w.connection id = some (status, some c, target) →
      new ≠ none → NoRotation w.jobs phase id) ⟨h, hrot⟩ fun w δ ⟨hw, hnr⟩ hδ hen => ?_).1
  cases δ with
  | rekey ev keyID => exact ⟨hw.apply _ hen (hlater keyID hδ.1), hnr⟩
  | submit job prev kcID target stored =>
    obtain ⟨⟨keyTo, keyFrom, hnew, -, hjob⟩, rfl, hstored⟩ := hδ
    have hstored : stored = true := hf.stored hstored
    have hty : job.type ≠ .systemKeyRotate := by rw [hjob.type]; nofun
    have hnone : new ≠ none := by rw [hnew]; nofun
    obtain ⟨hprev, hdata, hlinked, target', hconn⟩ := hen
    refine ⟨hw.apply _ ⟨hprev, hdata, hlinked, target', hconn⟩ ⟨hstored, hty, hnr _ _ _ hconn hnone⟩, ?_⟩
    intro id status target'' hc hn
    rw [submit_jobs]
    refine NoRotation.append ?_ hty
    rw [submit_connection] at hc
    by_cases hid : id = job.externalID
    · exact hid ▸ hnr _ _ _ hconn hn
    · rw [update_of_ne hid] at hc
      exact hnr id status target'' hc hn
  | replace kc => exact ⟨hw.apply _ hen trivial, hnr⟩
  | _ => exact hδ.elim

theorem rotated {key : Key} (h : Tracks later phase ended v) (hf : f.repo.Reliable)
    (hrot : ∀ id status target, v.connection id = some (status, some key.keyConfigurationID, target) →
      status.isStable ∧ NoRotation v.jobs phase id) (hl : Leads (RotatesOnce f key v.jobs) v v') :
    Tracks later phase ended v' := by
  refine (hl.induct (I := fun w => Tracks later phase ended w ∧
    ∀ id status target, w.connection id = some (status, some key.keyConfigurationID, target) →
      status.isStable ∧ (NoneAdded v.jobs w id → NoRotation w.jobs phase id))
    ⟨h, fun id status target hc => ⟨(hrot id status target hc).1, fun _ => (hrot id status target hc).2⟩⟩
    fun w δ ⟨hw, hnr⟩ hδ hen => ?_).1
  cases δ with
  | rotate job prev =>
    obtain ⟨⟨hjob, target, hconn⟩, hadd⟩ := hδ
    obtain ⟨hst, hr⟩ := hnr _ _ _ hconn
    refine ⟨hw.apply _ hen ⟨hst, hr (hadd job prev rfl)⟩, fun id status target' hc => ?_⟩
    obtain ⟨hst', hr'⟩ := hnr id status target' hc
    refine ⟨hst', fun ⟨added, hjobs, hne⟩ n job' hn => ?_⟩
    -- the job was added for another system
    obtain ⟨before, hbefore, -⟩ := hadd job prev rfl
    have hadded : added = before ++ [job] := by
      have hjobs : w.jobs ++ [job] = v.jobs ++ added := hjobs
      rw [hbefore, append_assoc] at hjobs
      exact (append_cancel_left hjobs).symm
    rw [hadded] at hne
    have hn : Pending w.jobs phase id n job' :=
      (Pending.append_iff fun j hj => hne j (mem_append_right _ hj)).1 hn
    exact hr' ⟨before, hbefore, fun j hj => hne j (mem_append_left _ hj)⟩ n job' hn
  | prepare job =>
    obtain ⟨n, hn⟩ := hδ.1.2
    exact absurd (hf.fault n) hn
  | _ => exact hδ.1.elim

theorem answers {req : Request} {res : Except Exn Unit} (h : Tracks s.later s.phase s.ended s.view)
    (hrel : p.Reliable) (halone : req.Alone p s) (hans : Answers p s.st req res s'.view)
    (hprom : s'.promoted = (req.promotes res).toList.map (s'.view.jobs.length, ·) ++ s.promoted) :
    Tracks s'.later s.phase s.ended s'.view := by
  have hmono : ∀ n keyID, s.later n keyID → s'.later n keyID := by
    rintro n keyID ⟨k, hk, hmem⟩
    refine ⟨k, hk, ?_⟩
    rw [hprom]
    exact mem_append_right _ hmem
  have hcommit : ¬ ∃ k, p.systems.repo.commit k ≠ none := fun ⟨k, hk⟩ => hk (hrel.systems.commit k)
  generalize s'.view = v' at hans hprom ⊢
  cases hans with
  | kept => exact h.mono fun n _ => hmono n
  | link id _ job prev kcID target stored hext hjob hs hen =>
    exact (h.apply (.submit job prev kcID target stored) hen
      ⟨hrel.events.stored hs, hjob.not_rotate, hext ▸ halone⟩).mono fun n _ => hmono n
  | unlink id job prev kcID target stored hext hty _ hs hen =>
    refine (h.apply (.submit job prev kcID target stored) hen ⟨hrel.events.stored hs, ?_, hext ▸ halone⟩).mono
      fun n _ => hmono n
    rw [hty]
    nofun
  | decommission => exact halone.elim
  | orphan _ _ _ hc => exact absurd hc hcommit
  | cancel id prev kcID hen =>
    exact (h.apply (.restore id prev kcID) hen halone).mono fun n _ => hmono n
  | retry id job kcID target _ hen =>
    exact (h.apply (.retry job kcID target) hen trivial).mono fun n _ => hmono n
  | notify id job hag hty =>
    obtain ⟨ev, hev, hevty, -⟩ := hag.event
    exact absurd (hevty.trans hty) (halone ev hev)
  | retryLeft _ _ _ _ hc => exact absurd hc hcommit
  | update keyConfigID patch kc _ _ hkc hupd =>
    have hnew : Tracks (fun n keyID => s.later n keyID ∨ patch.primaryKeyID = some keyID) s.phase
        s.ended v' := by
      refine (h.mono fun n _ keyID => .inl).updated hrel.events (fun keyID hk n => .inr hk)
        (fun id status target hc hp => ((halone hp kc hkc).systems id status target hc).2) hupd.ran
    refine hnew.mono fun n hn keyID hk => ?_
    rcases hk with hk | hk
    · exact hmono n keyID hk
    · refine ⟨v'.jobs.length, hn, ?_⟩
      rw [hprom, Request.promotes, hk]
      exact mem_cons_self
  | updateFailed keyConfigID patch kc v1 res _ hkc hupd hc =>
    have hjobs : v1.jobs = s.view.jobs := by
      refine Switchable.no_job hrel (fun hp => halone hp kc hkc) hupd fun a ha => ?_
      obtain ⟨k, hk⟩ := hc ⟨a, ha⟩
      exact hk (hrel.keyConfigurations.commit k)
    rw [hjobs]
    exact h.mono fun n _ => hmono n
  | rotate key _ _ _ honce =>
    exact (h.rotated hrel.keys halone.2 (honce halone.1)).mono fun n _ => hmono n

theorem proceed (h : Tracks later phase ended v) (hn : phase n ≠ .ended) (hph : ph ≠ .ended) :
    Tracks later (update phase n ph) ended v :=
  ⟨h.traced.proceed hn hph, h.listed⟩

theorem none_left (h : Tracks later phase ended v) (hn : Pending v.jobs phase job.externalID n job) :
    ¬ Pending v.jobs (update phase n .ended) job.externalID m j := by
  intro hm
  by_cases hmn : m = n
  · subst hmn
    exact hm.running (update_self _ _ _)
  · have hrun := hm.running
    rw [update_of_ne hmn] at hrun
    have hm : Pending v.jobs phase job.externalID m j := ⟨hm.listed, hm.system, hrun⟩
    exact hmn ((h.traced job.externalID).single m n j job hm hn)

theorem finish (h : Tracks later phase ended v) (hn : Pending v.jobs phase job.externalID n job)
    (hjobs : v'.jobs = v.jobs)
    (hconn : ∀ id, id ≠ job.externalID → v'.connection id = v.connection id)
    (hevent : ∀ id, id ≠ job.externalID → v'.event id = v.event id)
    (hid : ∀ pending : Nat → Job → Prop, (∀ m j, ¬ pending m j) →
      Traced later (v'.connection job.externalID) (v'.event job.externalID) pending
        (lastFailed (⟨n, job, ending⟩ :: ended) job.externalID)) :
    Tracks later (update phase n .ended) (⟨n, job, ending⟩ :: ended) v' := by
  have hlast : ∀ id, id ≠ job.externalID →
      lastFailed (⟨n, job, ending⟩ :: ended) id = lastFailed ended id := by
    intro id hne
    rw [lastFailed, find?_cons_of_neg]
    · rfl
    · simp [Ne.symm hne]
  have hold : PerSystem (fun id c row pending => id ≠ job.externalID →
      Traced later c row pending (lastFailed (⟨n, job, ending⟩ :: ended) id)) phase v := by
    intro id hne
    rw [hlast id hne]
    exact h.traced id
  refine ⟨fun id => ?_, fun e he => ?_⟩
  · by_cases heq : id = job.externalID
    · rw [heq, hjobs]
      exact hid _ fun m j => h.none_left hn
    · exact hold.finish hn.listed hjobs hconn hevent (fun hne => absurd rfl hne) id heq
  · rw [hjobs]
    rcases mem_cons.1 he with rfl | he
    · exact (List.getElem?_eq_some_iff.1 hn.listed).1
    · exact h.listed e he

theorem lastFailed_self (hne : ending ≠ .done) :
    lastFailed (⟨n, job, ending⟩ :: ended) job.externalID = some ⟨n, job, ending⟩ := by
  rw [lastFailed, find?_cons_of_pos]
  simpa using hne

theorem clean_none (h : Tracks later phase ended v) (hn : Pending v.jobs phase job.externalID n job)
    {w : View} (hw : w.event = v.event) :
    (w.clean job).event job.externalID = none := by
  obtain ⟨ev, hev, hdesc⟩ := (h.traced job.externalID).event n job hn
  rw [View.clean, View.setEvent_event, update_self, hw, hev, Option.filter_some]
  simp [hdesc.type]

theorem reacts (h : Tracks later phase ended v) {u : Unit}
    (hn : Pending v.jobs phase job.externalID n job) (hsane : job.data.systemID = job.externalID)
    (hdec : job.type ≠ .systemUnlinkDecommission) (hr : Reacts v job ending (.ok u) v') :
    Tracks later (update phase n .ended) (⟨n, job, ending⟩ :: ended) v' := by
  have htr := h.traced job.externalID
  obtain ⟨ev, hev, hdesc⟩ := htr.event n job hn
  have hclean : ∀ w : View, w.event = v.event → (w.clean job).event job.externalID = none :=
    fun w hw => h.clean_none hn hw
  have hcleaned : ∀ (w : View) id, id ≠ job.externalID → (w.clean job).event id = w.event id :=
    fun w id hid => update_of_ne hid _ _
  have hset : ∀ c id, id ≠ job.externalID →
      (v.setConnection job.data.systemID c).connection id = v.connection id :=
    fun c id hid => update_of_ne (hsane.symm ▸ hid) _ _
  have hself : ∀ c, (v.setConnection job.data.systemID c).connection job.externalID = some c := by
    intro c
    rw [setConnection_connection, hsane, update_self]
  cases hr with
  | connect kcID =>
    refine h.finish hn rfl (hset (.connected, some kcID, none)) (hcleaned _) fun pending hp => ?_
    rw [show ((connect job kcID).apply v).event job.externalID = none from hclean _ rfl]
    refine .of_done hp fun x hx => ?_
    rw [show ((connect job kcID).apply v).connection job.externalID = _ from hself _] at hx
    cases hx
    rfl
  | unlink target =>
    refine h.finish hn rfl (hset (.disconnected, none, target)) (hcleaned _) fun pending hp => ?_
    rw [show ((disconnect job target true).apply v).event job.externalID = none from hclean _ rfl]
    refine .of_done hp fun x hx => ?_
    rw [show ((disconnect job target true).apply v).connection job.externalID = _ from
      hself _] at hx
    cases hx
    rfl
  | decommission _ _ _ hty => exact absurd hty hdec
  | rotated _ hty =>
    refine h.finish hn rfl (fun _ _ => rfl) (hcleaned v) fun pending hp => ?_
    rw [show ((clean job).apply v).event job.externalID = none from hclean v rfl]
    exact .of_done hp (htr.rotating n job hn hty)
  | fail _ kcID target error hne =>
    obtain ⟨ev', hev', hty, hdata, hprev⟩ := fail_event kcID target error hev
    refine h.finish hn (apply_jobs.trans (append_nil _)) (fun id hid => ?_)
      (fun id hid => fail_event_of_ne hid) fun pending hp => ?_
    · rw [fail_connection]
      exact update_of_ne (hsane.symm ▸ hid) _ _
    · rw [fail_connection, hsane, update_self, hev']
      refine .of_failed hp (lastFailed_self hne) ?_ (hprev ▸ htr.prev ev hev)
      exact ⟨hty.trans hdesc.type, hdata ▸ hdesc.systemID, hdata ▸ hdesc.keyIDFrom,
        hdata ▸ hdesc.keyIDTo⟩
  | missing _ _ _ hnone =>
    refine h.finish hn rfl (fun _ _ => rfl) (fun _ _ => rfl) fun pending hp => ?_
    rw [← hsane, hnone]
    exact .of_gone hp fun ev hev => htr.prev ev (hsane ▸ hev)

end Tracks

theorem not_decommission (hstart : Start s₀) (hrun : Reach OneAtATime s₀ s) :
    Each (fun _ type _ => type ≠ .systemUnlinkDecommission) s.view := by
  refine Each.of_reach (fun _ _ _ _ h => h) (fun _ _ _ h => h.modelled)
    (fun p s ctx req ha w δ hw hδ hen => ?_) (fun _ _ _ _ ha => ha.elim) hstart hrun
  have hmakes : ∀ job, req.Makes job → job.type ≠ .systemUnlinkDecommission := by
    intro job hm hty
    obtain ⟨id, rfl⟩ := hm hty
    exact ha.2
  cases δ with
  | submit job => exact hmakes job hδ.2
  | prepare job =>
    rcases hδ with ⟨-, hm⟩ | ⟨id, hag⟩
    · exact hmakes job hm
    · exact hw.again hag
  | rotate job prev =>
    intro hty
    cases hen.1.symm.trans hty
  | _ => trivial

theorem Tracks.step {act : Act} (h : Tracks s.later s.phase s.ended s.view) (hsane : Sane s.view)
    (hdec : Each (fun _ type _ => type ≠ .systemUnlinkDecommission) s.view)
    (ha : OneAtATime p s act) (hstep : s.step p act = some s') :
    Tracks s'.later s'.phase s'.ended s'.view := by
  cases act with
  | request ctx req =>
    obtain ⟨res, hans, hphase, hended, -, hprom⟩ := Sys.step_request hstep
    rw [hphase, hended]
    exact h.answers ha.1 ha.2 hans hprom
  | workflow => exact ha.elim
  | confirm number =>
    obtain ⟨job, hjob, hcreated, ⟨ph, hph, hphase⟩, hv, hended, hprom, -⟩ := Sys.step_confirm hstep
    rw [hphase, hended, hv, Sys.later_congr hprom]
    exact h.proceed (by rw [hcreated]; nofun) hph
  | finish number ending message =>
    obtain ⟨job, res, hjob, hn, hreact, hprom, -, hres⟩ := Sys.step_finish hstep
    rw [Sys.later_congr hprom]
    have hmem := mem_of_getElem? hjob
    cases res with
    | ok u =>
      rw [hres.1, hres.2]
      exact h.reacts ⟨hjob, rfl, hn⟩ (hsane.jobs job hmem) (hdec.jobs job hmem) hreact
    | error e =>
      rw [hres.1, hres.2]
      rw [hreact.error_view (hdec.jobs job hmem)]
      exact h.proceed hn nofun

theorem Tracks.of_reach (hstart : Start s₀) (hrun : Reach OneAtATime s₀ s) :
    Tracks s.later s.phase s.ended s.view := by
  induction hrun with
  | start =>
    refine ⟨fun id => ?_, fun e he => ?_⟩
    · rw [hstart.events id]
      refine .of_done (fun m j hm => ?_) fun x hx => ?_
      · have hl := hm.listed
        rw [hstart.jobs] at hl
        cases hl
      · rw [hstart.systems id x hx]
        rfl
    · rw [hstart.ended] at he
      cases he
  | step p act hrun ha hstep ih =>
    exact ih.step (.of_reach (fun _ _ _ h => h.modelled) hstart hrun)
      (not_decommission hstart hrun) ha hstep

/-- While the jobs come one at a time, the Event row of a FAILED system is that of its last job that
failed or was canceled. -/
theorem failed_event_describes (s₀ s : Sys) (hstart : Start s₀) (hrun : Reach OneAtATime s₀ s)
    (id : UUID) (keyConfigID target : Option UUID)
    (h : s.view.connection id = some (.failed, keyConfigID, target)) :
    ∃ e ev, lastFailed s.ended id = some e ∧ s.view.event id = some ev ∧ ev.identifier = id ∧
      Describes s.later e.number e.job ev := by
  obtain ⟨e, ev, he, hev, hd⟩ := ((Tracks.of_reach hstart hrun).traced id).failed keyConfigID target h
  exact ⟨e, ev, he, hev, Table.key_of_get? hev, hd⟩

namespace Sample

theorem linkFailed_reach : Reach OneAtATime fresh (after (ask (.link 40 30) :: ends 0 .failed)) := by
  have hlink : OneAtATime platform fresh (ask (.link 40 30)) :=
    ⟨platform_reliable, fun n job hn => by cases hn.listed⟩
  have h1 : Reach OneAtATime fresh (after [ask (.link 40 30)]) :=
    Reach.start.step platform _ hlink rfl
  have h2 : Reach OneAtATime fresh (after ([ask (.link 40 30)] ++ [.confirm 0])) :=
    after_snoc (.confirm 0) h1 trivial (by decide +kernel)
  exact after_snoc (.finish 0 .failed "E") h2 trivial (by decide +kernel)

/-- New key material is announced to a linked system, the system is unlinked, and the announcement
fails. -/
def unlinkedWhileRotating : List Act :=
  linking ++ [ask (.rotate primaryKey), .confirm 1, ask (.unlink 40), .finish 1 .failed "E"]

end Sample

open Sample in
theorem failed_event_describes_link :
    (after (ask (.link 40 30) :: ends 0 .failed)).view.connection 40 = some (.failed, none, some 30) ∧
    ∃ e ev, lastFailed (after (ask (.link 40 30) :: ends 0 .failed)).ended 40 = some e ∧
      (after (ask (.link 40 30) :: ends 0 .failed)).view.event 40 = some ev ∧ ev.identifier = 40 ∧
      Describes (after (ask (.link 40 30) :: ends 0 .failed)).later e.number e.job ev := by
  have hconn : (after (ask (.link 40 30) :: ends 0 .failed)).view.connection 40 =
      some (.failed, none, some 30) := by decide +kernel
  exact ⟨hconn, failed_event_describes fresh _ start_fresh linkFailed_reach 40 none (some 30) hconn⟩

open Sample in
/-- The rotation has failed, and the Event row is that of the unlink. -/
theorem failed_rotation_overwritten : Start fresh ∧
    ∃ s ∈ fresh.steps platform unlinkedWhileRotating,
      s.view.connection 40 = some (.failed, some 30, none) ∧
      (lastFailed s.ended 40).map (·.job.type) = some .systemKeyRotate ∧
      (s.view.event 40).map (·.type) = some .systemUnlink := ⟨start_fresh, by decide +kernel⟩

end Cmk
