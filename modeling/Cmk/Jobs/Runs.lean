import Cmk.Calls
import Cmk.Jobs.Callbacks

/-!
# Cmk.Jobs.Runs

Systems, requests and orbital as one machine.

* `Request` — what users and the tenant's decommission ask for; `Platform.prog` is its program.
* `Act`     — a request, a confirmed workflow, or a callback of orbital.
* `Sys`     — the store and the jobs, with the phase of every job by its number. The other fields are
  history: how jobs ended, which keys became primary, the last stable status of every system, and
  whether the last handler call for it failed.
* `Reach`   — the states of the runs whose acts meet a condition.

Orbital asks a handler to confirm a new job, lets it run, and reports its end until a handler has
returned no error. A job that is not confirmed ends as canceled.
-/

namespace Cmk

open Tx Function SystemManager

variable {keyConfigID systemID : UUID} {v v' : View}

structure Platform where
  workflows : WorkflowManager
  keys : KeyManager
  handlers : JobHandlers
  /-- The primary key is changed for a workflow as it is for a request. -/
  updatePrimaryKey : ∀ ctx id keyID,
    workflows.keyConfigurationActions.updatePrimaryKey ctx id keyID = do
      let _ ← workflows.keyConfigurationManager.updateKeyConfigurationByID
        workflows.systemManager.eventFactory ctx id { primaryKeyID := some keyID }

inductive Request where
  | link (systemID keyConfigID : UUID)
  | unlink (systemID : UUID)
  | decommission (systemID : UUID)
  | update (keyConfigID : UUID) (patch : KeyConfigurationPatch)
  | rotate (key : Key)
  | recover (systemID : UUID) (action : SystemRecoveryActionBodyAction)
  deriving DecidableEq, Repr

namespace Platform

variable (p : Platform)

abbrev systems : SystemManager := p.workflows.systemManager

abbrev keyConfigurations : KeyConfigManager := p.workflows.keyConfigurationManager

abbrev eventFactory : EventFactory := p.systems.eventFactory

def prog (ctx : Ctx) : Request → M Unit
  | .link systemID keyConfigID => p.systems.linkSystemAction ctx systemID keyConfigID
  | .unlink systemID => p.systems.unlinkSystemAction ctx systemID
  | .decommission systemID => p.systems.decommissionSystemAction ctx systemID
  | .update keyConfigID patch => do
    let _ ← p.keyConfigurations.updateKeyConfigurationByID p.eventFactory ctx keyConfigID patch
  | .rotate key => p.keys.handleSystemsOnKeyRotation ctx key
  | .recover systemID action => p.systems.sendRecoveryActions ctx systemID action

structure Reliable : Prop where
  systems : p.systems.repo.Reliable
  events : p.eventFactory.repo.Reliable
  keyConfigurations : p.keyConfigurations.repo.Reliable
  keys : p.keys.eventFactory.repo.Reliable

end Platform

def Rotates (f : EventFactory) (key : Key) (v : View) : Deed → Prop
  | .rotate job prev => RotateJob key.id job ∧
      ∃ target, v.connection job.externalID = some (prev, some key.keyConfigurationID, target)
  | .prepare job => RotateJob key.id job ∧ ∃ n, f.repo.fault n ≠ none
  | _ => False

/-- The deeds of a rotation that comes to each system once. -/
def RotatesOnce (f : EventFactory) (key : Key) (jobs : List Job) (v : View) (δ : Deed) : Prop :=
  Rotates f key v δ ∧ ∀ job prev, δ = .rotate job prev → NoneAdded jobs v job.externalID

def Offers (v : View) (job : Job) : Request → Prop
  | .link id _ => job.externalID = id ∧ ∃ prev target, LinkJob v job prev target
  | .unlink id => job.externalID = id ∧ job.type = .systemUnlink ∧ job.data.keyIDTo = none
  | .decommission id =>
      job.externalID = id ∧ job.type = .systemUnlinkDecommission ∧ job.data.keyIDTo = none
  | _ => False

/-- What is known of a request that begins in `s`: its result and the view it leaves. -/
inductive Answers (p : Platform) (s : St Db World) : Request → Except Exn Unit → View → Prop where
  | kept (req : Request) (e : Exn) : Answers p s req (.error e) s.view
  | link (systemID keyConfigID : UUID) (job : Job) (prev : SystemStatus) (kcID target : Option UUID)
      (stored : Bool) : job.externalID = systemID → LinkJob s.view job prev target →
      (stored = false → ∃ n, p.eventFactory.repo.fault n ≠ none) →
      (Deed.submit job prev kcID target stored).Enabled s.view →
      Answers p s (.link systemID keyConfigID) (.ok ())
        ((Deed.submit job prev kcID target stored).apply s.view)
  | unlink (systemID : UUID) (job : Job) (prev : SystemStatus) (kcID target : Option UUID)
      (stored : Bool) : job.externalID = systemID → job.type = .systemUnlink →
      job.data.keyIDTo = none → (stored = false → ∃ n, p.eventFactory.repo.fault n ≠ none) →
      (Deed.submit job prev kcID target stored).Enabled s.view →
      Answers p s (.unlink systemID) (.ok ())
        ((Deed.submit job prev kcID target stored).apply s.view)
  | decommission (systemID : UUID) (job : Job) (prev : SystemStatus) (kcID target : Option UUID) :
      job.externalID = systemID → job.type = .systemUnlinkDecommission →
      job.data.keyIDTo = none → (Deed.submit job prev kcID target false).Enabled s.view →
      Answers p s (.decommission systemID) (.ok ())
        ((Deed.submit job prev kcID target false).apply s.view)
  /-- The commit failed, and the job is left. -/
  | orphan (req : Request) (job : Job) (e : Exn) : (∃ k, p.systems.repo.commit k ≠ none) →
      job.data.systemID = job.externalID → Offers s.view job req →
      Answers p s req (.error e) ((Deed.prepare job).apply s.view)
  | cancel (systemID : UUID) (prev : SystemStatus) (kcID : Option UUID) :
      (Deed.restore systemID prev kcID).Enabled s.view →
      Answers p s (.recover systemID .cancel) (.ok ())
        ((Deed.restore systemID prev kcID).apply s.view)
  | retry (systemID : UUID) (job : Job) (kcID target : Option UUID) :
      SystemManager.Again s.view systemID job → (Deed.retry job kcID target).Enabled s.view →
      Answers p s (.recover systemID .retry) (.ok ())
        ((Deed.retry job kcID target).apply s.view)
  | notify (systemID : UUID) (job : Job) : SystemManager.Again s.view systemID job →
      job.type = .systemKeyRotate →
      Answers p s (.recover systemID .retry) (.ok ()) ((Deed.prepare job).apply s.view)
  | retryLeft (systemID : UUID) (job : Job) (e : Exn) : SystemManager.Again s.view systemID job →
      (∃ k, p.systems.repo.commit k ≠ none) →
      Answers p s (.recover systemID .retry) (.error e) ((Deed.prepare job).apply s.view)
  | update (keyConfigID : UUID) (patch : KeyConfigurationPatch) (kc a : KeyConfiguration) (v' : View) :
      Repo.byID s.db.keyConfigurations keyConfigID = some kc →
      KeyConfigManager.Updated p.keyConfigurations p.eventFactory s.db kc patch s.view v' (.ok a) →
      Answers p s (.update keyConfigID patch) (.ok ()) v'
  /-- The update was rolled back, and the jobs it had created are left. -/
  | updateFailed (keyConfigID : UUID) (patch : KeyConfigurationPatch) (kc : KeyConfiguration)
      (v' : View) (res : Except Exn KeyConfiguration) (e : Exn) :
      Repo.byID s.db.keyConfigurations keyConfigID = some kc →
      KeyConfigManager.Updated p.keyConfigurations p.eventFactory s.db kc patch s.view v' res →
      ((∃ a, res = .ok a) → ∃ k, p.keyConfigurations.repo.commit k ≠ none) →
      Answers p s (.update keyConfigID patch) (.error e) { s.view with jobs := v'.jobs }
  | rotate (key : Key) (res : Except Exn Unit) (v' : View) :
      Leads (Rotates p.keys.eventFactory key) s.view v' →
      ((Repo.systemsOf s.db key.keyConfigurationID).length ≤ defaultLimit →
        Leads (RotatesOnce p.keys.eventFactory key s.view.jobs) s.view v') →
      Answers p s (.rotate key) res v'

def Request.Makes (req : Request) (job : Job) : Prop :=
  job.type = .systemUnlinkDecommission → ∃ id, req = .decommission id

def Asked (req : Request) (v : View) : Deed → Prop
  | .submit job _ _ _ _ => job.type ≠ .systemKeyRotate ∧ req.Makes job
  | .prepare job => job.data.systemID = job.externalID ∧ req.Makes job ∨
      ∃ id, SystemManager.Again v id job
  | .rotate _ _ => ∃ key, req = .rotate key
  | .restore id _ _ => req = .recover id .cancel
  | .retry _ _ _ | .rekey _ _ | .replace _ => True
  | _ => False

namespace Platform

variable {p : Platform} {ctx : Ctx} {s : State}

theorem wp_link (hout : ctx.inTx = false) :
    (p.prog ctx (.link systemID keyConfigID)).wp false (fun res s' =>
      Answers p s (.link systemID keyConfigID) res s'.view) s := by
  refine wp_mapError (wp_mono (Repo.wp_transaction_view
    (P := fun res v' => ∀ w : Exn → Exn,
      Answers p s (.link systemID keyConfigID) (res.mapError w) v') hout ?_) fun res s' h => h _)
  refine SystemManager.wp_link rfl (fun e s' hv => ⟨nofun, fun _ e w => ?_⟩)
    (fun e s' status kcID target _ hv => ⟨nofun, fun _ e w => ?_⟩)
    (fun e s' kcID target _ _ hv => ⟨nofun, fun _ e w => ?_⟩)
    fun s' job prev kcID target stored hext hjob hstored hen hv => ⟨fun _ _ w => ?_, fun hc e w => ?_⟩
  · rw [hv]; exact .kept _ _
  · rw [hv]; exact .kept _ _
  · rw [hv]; exact .kept _ _
  · rw [hv]; exact .link _ _ job prev kcID target stored hext hjob hstored hen
  · rw [hv, Deed.submit_jobs]; exact .orphan _ job _ (hc _ rfl) hjob.data ⟨hext, prev, target, hjob⟩

theorem wp_unlink (hout : ctx.inTx = false) :
    (p.prog ctx (.unlink systemID)).wp false (fun res s' =>
      Answers p s (.unlink systemID) res s'.view) s := by
  simp only [prog, unlinkSystemAction]
  refine Repo.wp_transaction_view (P := fun res v' => Answers p s (.unlink systemID) res v') hout ?_
  refine SystemManager.wp_unlink rfl (fun e s' hv => ⟨nofun, fun _ e => ?_⟩)
    (fun e s' kcID target _ _ hv => ⟨nofun, fun _ e => ?_⟩)
    fun s' job prev kcID target stored hext hty hto hstored hen hv => ⟨fun _ _ => ?_, fun hc e => ?_⟩
  · rw [hv]; exact .kept _ _
  · rw [hv]; exact .kept _ _
  · rw [hv]; exact .unlink _ job prev kcID target stored hext hty hto hstored hen
  · rw [hv, Deed.submit_jobs]; exact .orphan _ job _ (hc _ rfl) hen.2.1 ⟨hext, hty, hto⟩

theorem wp_decommission (hout : ctx.inTx = false) :
    (p.prog ctx (.decommission systemID)).wp false (fun res s' =>
      Answers p s (.decommission systemID) res s'.view) s := by
  simp only [prog, decommissionSystemAction]
  refine Repo.wp_transaction_view (P := fun res v' => Answers p s (.decommission systemID) res v')
    hout ?_
  refine SystemManager.wp_decommission rfl (fun e s' hv => ⟨nofun, fun _ e => ?_⟩)
    (fun e s' kcID target _ _ hv => ⟨nofun, fun _ e => ?_⟩)
    fun s' job prev kcID target hext hty hto hen hv => ⟨fun _ _ => ?_, fun hc e => ?_⟩
  · rw [hv]; exact .kept _ _
  · rw [hv]; exact .kept _ _
  · rw [hv]; exact .decommission _ job prev kcID target hext hty hto hen
  · rw [hv, Deed.submit_jobs]; exact .orphan _ job _ (hc _ rfl) hen.2.1 ⟨hext, hty, hto⟩

theorem wp_update {patch : KeyConfigurationPatch} (hout : ctx.inTx = false) :
    (p.prog ctx (.update keyConfigID patch)).wp false (fun res s' =>
      Answers p s (.update keyConfigID patch) res s'.view) s := by
  have hupd : (p.keyConfigurations.updateKeyConfigurationByID p.eventFactory ctx keyConfigID
      patch).wp false (fun res s' => Answers p s (.update keyConfigID patch)
        (res.map fun _ => ()) s'.view) s := by
    refine KeyConfigManager.wp_updateKeyConfigurationByID
      (P := fun res v' => Answers p s (.update keyConfigID patch) (res.map fun _ => ()) v') hout
      (fun e => .kept _ _) (fun kc v' a hkc h => .update _ _ kc a v' hkc h)
      fun kc v' res e hkc h hc => .updateFailed _ _ kc v' res e hkc h hc
  refine wp_bind (wp_mono hupd fun res s' h => ?_)
  cases res with
  | ok a => exact h
  | error e => exact h

theorem wp_rotate {key : Key} :
    (p.prog ctx (.rotate key)).wp false (fun res s' => Answers p s (.rotate key) res s'.view) s := by
  have hall : (p.prog ctx (.rotate key)).wp false (fun _ s' =>
      Leads (Rotates p.keys.eventFactory key) s.view s'.view) s :=
    KeyManager.wp_handleSystemsOnKeyRotation (fun v job prev target hjob hc => ⟨hjob, target, hc⟩)
      fun v job hjob hf => ⟨hjob, hf⟩
  have honce : (systemsOf s.db key.keyConfigurationID).length ≤ defaultLimit →
      (p.prog ctx (.rotate key)).wp false (fun _ s' =>
        Leads (RotatesOnce p.keys.eventFactory key s.view.jobs) s.view s'.view) s := by
    intro hsmall
    refine KeyManager.wp_handleSystemsOnKeyRotation_one hsmall
      (fun v job prev target hjob hc hadd => ⟨⟨hjob, target, hc⟩, ?_⟩)
      fun v job hjob hf => ⟨⟨hjob, hf⟩, nofun⟩
    rintro job' prev' ⟨⟩
    exact hadd
  exact .rotate key _ _ hall honce

theorem wp_recover {action : SystemRecoveryActionBodyAction} (hout : ctx.inTx = false) :
    (p.prog ctx (.recover systemID action)).wp false (fun res s' =>
      Answers p s (.recover systemID action) res s'.view) s := by
  cases action with
  | cancel =>
    exact wp_cancel (P := fun res v' => Answers p s (.recover systemID .cancel) res v')
      (fun e => .kept _ _) fun prev kcID hen => .cancel _ prev kcID hen
  | retry =>
    refine wp_retry (P := fun res v' => Answers p s (.recover systemID .retry) res v')
      hout (fun e => .kept _ _) (fun job kcID target hag hen => .retry _ job kcID target hag hen)
      (fun job hag hty => .notify _ job hag hty) fun job e hag hc => .retryLeft _ job e hag hc
  | other a =>
    exact wp_recovery (fun e s' hv => hv ▸ .kept _ _) fun n row props _ => .kept _ _

theorem wp_prog (hout : ctx.inTx = false) (req : Request) :
    (p.prog ctx req).wp false (fun res s' => Answers p s req res s'.view) s := by
  cases req with
  | link systemID keyConfigID => exact wp_link hout
  | unlink systemID => exact wp_unlink hout
  | decommission systemID => exact wp_decommission hout
  | update keyConfigID patch => exact wp_update hout
  | rotate key => exact wp_rotate
  | recover systemID action => exact wp_recover hout

end Platform

section

variable {v : View} {job : Job} {prev : SystemStatus} {target : Option UUID}

theorem LinkJob.not_rotate (h : LinkJob v job prev target) : job.type ≠ .systemKeyRotate := by
  rcases h.type with h | h
  · rw [h]; nofun
  · rw [h]; nofun

theorem LinkJob.makes (h : LinkJob v job prev target) (req : Request) : req.Makes job := by
  intro hty
  rcases h.type with h | h
  · rw [h] at hty; cases hty
  · rw [h] at hty; cases hty

end

theorem Offers.makes {job : Job} {req : Request} (h : Offers v job req) :
    req.Makes job := by
  cases req with
  | link id keyConfigID =>
    obtain ⟨-, prev, target, hjob⟩ := h
    exact hjob.makes _
  | unlink id =>
    intro hty
    rw [h.2.1] at hty
    cases hty
  | decommission id => exact fun _ => ⟨id, rfl⟩
  | _ => exact h.elim

theorem Updates.asked {f : EventFactory} {c : UUID} {old new : Option UUID} {req : Request}
    {δ : Deed} (h : Updates f c old new v δ) : Asked req v δ := by
  cases δ with
  | submit job prev kcID target stored =>
    obtain ⟨⟨keyTo, keyFrom, -, -, hjob⟩, -⟩ := h
    exact ⟨by rw [hjob.type]; nofun, fun hty => by rw [hjob.type] at hty; cases hty⟩
  | rekey ev keyID => trivial
  | replace kc => trivial
  | _ => exact h.elim

theorem Updates.rollback {f : EventFactory} {c : UUID} {old new : Option UUID} {req : Request}
    (h : Leads (f.Marked (Updates f c old new)) v v') :
    Leads (Asked req) v { v with jobs := v'.jobs } := by
  refine (h.rollback (J := fun job => job.data.systemID = job.externalID ∧ req.Makes job)
    (fun v δ hδ hen job hjob => ?_) rfl).mono ?_
  · rcases hδ with hδ | ⟨-, id, kcID, target, rfl⟩
    · cases δ with
      | submit job' prev kcID target stored =>
        cases hjob
        exact ⟨hen.2.1, (Updates.asked hδ).2⟩
      | rekey | replace => cases hjob
      | _ => exact hδ.elim
    · cases hjob
  · rintro v δ ⟨job, rfl, hjob⟩
    exact .inl hjob

theorem Answers.leads {p : Platform} {s : State} {req : Request} {res : Except Exn Unit}
    (h : Answers p s req res v') : Leads (Asked req) s.view v' := by
  cases h with
  | kept => exact .refl
  | link _ _ job prev kcID target stored _ hjob _ hen => 
    exact .single ⟨hjob.not_rotate, hjob.makes _⟩ hen
  | unlink _ job prev kcID target stored _ hty _ _ hen =>
    exact .single ⟨by rw [hty]; nofun, fun h => by rw [hty] at h; cases h⟩ hen
  | decommission id job prev kcID target _ hty _ hen =>
    exact .single ⟨by rw [hty]; nofun, fun _ => ⟨id, rfl⟩⟩ hen
  | orphan _ job _ _ hdata hoff => exact .single (.inl ⟨hdata, hoff.makes⟩) trivial
  | cancel id prev kcID hen => exact .single rfl hen
  | retry id job kcID target hag hen => exact .single trivial hen
  | notify id job hag _ => exact .single (.inr ⟨id, hag⟩) trivial
  | retryLeft id job _ hag _ => exact .single (.inr ⟨id, hag⟩) trivial
  | update _ _ kc _ _ _ hupd => exact Leads.mono hupd.ran fun _ _ => Updates.asked
  | updateFailed _ _ kc v1 _ _ _ hupd _ => exact Updates.rollback hupd.ran.marked
  | rotate key _ _ hlead _ =>
    refine hlead.mono fun v δ hδ => ?_
    cases δ with
    | rotate job prev => exact ⟨key, rfl⟩
    | prepare job => exact .inl ⟨hδ.1.data, fun hty => by rw [hδ.1.type] at hty; cases hty⟩
    | _ => exact hδ.elim

inductive Phase where
  | created | confirmed
  /-- The job has ended, and its handler has not yet taken note. -/
  | terminated (ending : Ending)
  | ended
  deriving DecidableEq, Repr

inductive Act where
  | request (ctx : Ctx) (req : Request)
  /-- A user confirms a workflow, which executes its action. -/
  | workflow (ctx : Ctx) (workflowID : UUID)
  | confirm (number : Nat)
  | finish (number : Nat) (ending : Ending) (errorMessage : String)

structure Ended where
  number : Nat
  job : Job
  ending : Ending

structure Sys where
  st : St Db World
  phase : Nat → Phase
  /-- The jobs that have ended, the last one first. -/
  ended : List Ended
  /-- The keys that became primary, each with the number of jobs there were then. -/
  promoted : List (Nat × UUID)
  /-- The last status of a system that was neither PROCESSING nor FAILED. -/
  stable : UUID → Option SystemStatus
  /-- The last handler call for the system has returned an error. -/
  failing : UUID → Bool := fun _ => false

structure Pending (jobs : List Job) (phase : Nat → Phase) (id : UUID) (number : Nat) (job : Job) :
    Prop where
  listed : jobs[number]? = some job
  system : job.externalID = id
  running : phase number ≠ .ended

def Request.promotes : Request → Except Exn Unit → Option UUID
  | .update _ patch, .ok _ => patch.primaryKeyID
  | _, _ => none

def SystemStatus.isStable : SystemStatus → Bool
  | .connected | .disconnected => true
  | .processing | .failed => false

/-- The last stable statuses, when the systems are now as in the view. -/
def View.observe (v : View) (stable : UUID → Option SystemStatus) (id : UUID) : Option SystemStatus :=
  match v.connection id with
  | some (status, _) => if status.isStable then some status else stable id
  | none => stable id

namespace Sys

variable (p : Platform)

def view (s : Sys) : View := s.st.view

def observe (s : Sys) : Sys := { s with stable := s.view.observe s.stable }

def request (s : Sys) (ctx : Ctx) (req : Request) : Sys :=
  let (res, st) := (p.prog ctx.request req).run false s.st
  { s with
    st := st
    promoted := (req.promotes res).toList.map (st.ext.jobs.length, ·) ++ s.promoted }

def workflow (s : Sys) (ctx : Ctx) (workflowID : UUID) : Sys :=
  { s with st := ((p.workflows.transitionWorkflow ctx.request workflowID .confirm).run false s.st).2 }

def confirm (s : Sys) (number : Nat) (job : Job) : Sys :=
  let (res, clock) := (p.handlers.handleJobConfirm job).eval s.st.db s.st.clock
  { s with
    st := { s.st with clock := clock }
    phase := match res with
      | .ok .complete => update s.phase number .confirmed
      | .ok (.cancel _) => update s.phase number (.terminated .canceled)
      | .error _ => s.phase
    failing := update s.failing job.externalID (match res with
      | .ok _ => false
      | .error _ => true) }

def finish (s : Sys) (number : Nat) (job : Job) (ending : Ending) (errorMessage : String) : Sys :=
  let (res, st) := (p.handlers.handle job ending errorMessage).run false s.st
  match res with
  | .ok _ =>
    { s with
      st := st
      phase := update s.phase number .ended
      ended := ⟨number, job, ending⟩ :: s.ended
      failing := update s.failing job.externalID false }
  | .error _ =>
    { s with
      st := st
      phase := update s.phase number (.terminated ending)
      failing := update s.failing job.externalID true }

def step (s : Sys) : Act → Option Sys
  | .request ctx req => some (s.request p ctx req).observe
  | .workflow ctx workflowID => some (s.workflow p ctx workflowID).observe
  | .confirm number =>
    match s.st.ext.jobs[number]? with
    | some job => if s.phase number = .created then some (s.confirm p number job).observe else none
    | none => none
  | .finish number ending errorMessage =>
    match s.st.ext.jobs[number]? with
    | some job =>
      if s.phase number = .confirmed ∨ s.phase number = .terminated ending then
        some (s.finish p number job ending errorMessage).observe
      else none
    | none => none

/-- A sequence of acts. -/
def steps (s : Sys) : List Act → Option Sys
  | [] => some s
  | act :: acts => (s.step p act).bind fun s => steps s acts

theorem steps_append {p : Platform} {s : Sys} (acts acts' : List Act) :
    s.steps p (acts ++ acts') = (s.steps p acts).bind fun s => s.steps p acts' := by
  induction acts generalizing s with
  | nil => rfl
  | cons act acts ih =>
    simp only [List.cons_append, steps]
    cases s.step p act with
    | none => rfl
    | some s1 => exact ih

end Sys

/-- The states of the runs from `s₀` whose acts meet `allowed`. Which calls fail during an act is said
by the platform it runs on, so every act has its own. -/
inductive Reach (allowed : Platform → Sys → Act → Prop) (s₀ : Sys) : Sys → Prop where
  | start : Reach allowed s₀ s₀
  | step {s s' : Sys} (p : Platform) (act : Act) : Reach allowed s₀ s → allowed p s act →
      s.step p act = some s' → Reach allowed s₀ s'

theorem Reach.mono {allowed allowed' : Platform → Sys → Act → Prop} {s0 s : Sys}
    (h : Reach allowed s0 s) (ha : ∀ p s act, allowed p s act → allowed' p s act) :
    Reach allowed' s0 s := by
  induction h with
  | start => exact .start
  | step p act _ hact hstep ih => exact ih.step p act (ha p _ act hact) hstep

/-- Every act of a sequence is possible, and meets `allowed` in the state it finds. -/
def Sys.Along (p : Platform) (allowed : Platform → Sys → Act → Prop) (s : Sys) : List Act → Prop
  | [] => True
  | act :: acts => allowed p s act ∧
      ∃ s' ∈ s.step p act, Along p allowed s' acts

instance Sys.decidableAlong {p : Platform} {allowed : Platform → Sys → Act → Prop}
    [∀ s act, Decidable (allowed p s act)] : (acts : List Act) → (s : Sys) →
      Decidable (s.Along p allowed acts)
  | [], _ => .isTrue trivial
  | act :: acts, s =>
    match h : s.step p act with
    | none => .isFalse fun hs => by
        obtain ⟨-, s', hs', -⟩ := hs
        rw [h] at hs'
        cases hs'
    | some s' =>
      haveI := @decidableAlong p allowed _ acts s'
      decidable_of_iff (allowed p s act ∧ s'.Along p allowed acts) (by simp [Along, h])

theorem Reach.of_along {p : Platform} {allowed : Platform → Sys → Act → Prop} {s0 s : Sys}
    {acts : List Act} (hs : Reach allowed s0 s) (h : s.Along p allowed acts) :
    ∃ s', s.steps p acts = some s' ∧ Reach allowed s0 s' := by
  induction acts generalizing s with
  | nil => exact ⟨s, rfl, hs⟩
  | cons act acts ih =>
    obtain ⟨ha, s1, hs1, h⟩ := h
    obtain ⟨s', hsteps, hreach⟩ := ih (hs.step p act ha hs1) h
    refine ⟨s', ?_, hreach⟩
    rw [Sys.steps, Option.mem_def.1 hs1]
    exact hsteps

/-- A tenant with disconnected systems, before any request. -/
structure Start (s : Sys) : Prop where
  systems : ∀ id c, s.view.connection id = some c → c = (.disconnected, none, none)
  events : ∀ id, s.view.event id = none
  jobs : s.view.jobs = []
  phase : ∀ n, s.phase n = .created
  ended : s.ended = []
  promoted : s.promoted = []
  stable : s.stable = s.view.observe fun _ => none

namespace Sys

variable {p : Platform} {s s' : Sys}

theorem step_request {ctx : Ctx} {req : Request} (h : s.step p (.request ctx req) = some s') :
    ∃ res, Answers p s.st req res s'.view ∧ s'.phase = s.phase ∧ s'.ended = s.ended ∧
      s'.stable = s'.view.observe s.stable ∧
      s'.promoted = (req.promotes res).toList.map (s'.view.jobs.length, ·) ++ s.promoted := by
  have hans : (p.prog ctx.request req).wp false (fun res s' => Answers p s.st req res s'.view) s.st :=
    Platform.wp_prog rfl req
  cases h
  exact ⟨_, hans, rfl, rfl, rfl, rfl⟩

theorem step_confirm {number : Nat} (h : s.step p (.confirm number) = some s') :
    ∃ job, s.view.jobs[number]? = some job ∧ s.phase number = .created ∧
      (∃ phase, phase ≠ .ended ∧ s'.phase = update s.phase number phase) ∧
      s'.view = s.view ∧ s'.ended = s.ended ∧ s'.promoted = s.promoted ∧
      s'.stable = s.view.observe s.stable := by
  simp only [step] at h
  split at h
  · rename_i job hjob
    split at h
    · rename_i hphase
      cases h
      refine ⟨job, hjob, hphase, ?_, rfl, rfl, rfl, rfl⟩
      simp only [observe, confirm]
      split
      · exact ⟨.confirmed, nofun, rfl⟩
      · exact ⟨.terminated .canceled, nofun, rfl⟩
      · exact ⟨.created, nofun, by rw [← hphase, update_eq_self]⟩
    · cases h
  · cases h

theorem step_finish {number : Nat} {ending : Ending} {message : String}
    (h : s.step p (.finish number ending message) = some s') :
    ∃ job res, s.view.jobs[number]? = some job ∧ s.phase number ≠ .ended ∧
      Reacts s.view job ending res s'.view ∧ s'.promoted = s.promoted ∧
      s'.stable = s'.view.observe s.stable ∧
      match res with
      | .ok _ => s'.phase = update s.phase number .ended ∧
          s'.ended = ⟨number, job, ending⟩ :: s.ended
      | .error _ => s'.phase = update s.phase number (.terminated ending) ∧
          s'.ended = s.ended := by
  simp only [step] at h
  split at h
  · rename_i job hjob
    split at h
    · rename_i hphase
      have hne : s.phase number ≠ .ended := by
        rcases hphase with h | h <;> rw [h] <;> nofun
      have hreact : (p.handlers.handle job ending message).wp false (fun res s' =>
          Reacts s.view job ending res s'.view) s.st := JobHandlers.wp_handle ending message
      cases h
      unfold Prog.wp at hreact
      simp only [finish]
      cases hrun : (p.handlers.handle job ending message).run false s.st with
      | mk res st =>
        rw [hrun] at hreact
        cases res with
        | ok u => exact ⟨job, .ok u, hjob, hne, hreact, rfl, rfl, rfl, rfl⟩
        | error e => exact ⟨job, .error e, hjob, hne, hreact, rfl, rfl, rfl, rfl⟩
    · cases h
  · cases h

end Sys

end Cmk
