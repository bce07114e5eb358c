import Cmk.Jobs.Recovery

/-!
# Cmk.Jobs.Claims

The L1 key claims of the registry, next to the key configurations of the systems.

A link sets the claim of its system before it writes the row, an unlink clears it before, and a
decommission clears it after. Each handler may fail between the two and is called again, so the two
stores agree as soon as no handler is left half done, unless another job has come in between.

* `Half`   — the job is at a point where one of its two stores may be written and the other not.
* `Accord` — what the claim of one system says, by its row and its pending job.
-/

namespace Cmk

open Tx Function Deed View List Prog Option

variable {b : Bool} {res : Except Exn Unit} {x : Connection} {ph : Phase} {s s₀ : Sys}
  {number : Nat}

def SameClaims (x x' : World) : Prop := x'.keyClaims = x.keyClaims

instance : Std.Refl SameClaims := ⟨fun _ => rfl⟩

instance : IsTrans World SameClaims := ⟨fun _ _ _ h h' => h'.trans h⟩

abbrev NoClaim {α : Type} (p : M α) : Prop := Keeps AnyDb SameClaims p

section

variable {ctx : Ctx} {α : Type}

namespace Repo

variable (r : Repo)

theorem exec_noClaim {onFault : Exn → Exn} {f : Nat → Db → Except Exn α × Db} :
    NoClaim (r.exec ctx onFault f) :=
  exec_keeps fun _ _ => trivial

end Repo

theorem systemFrame_noClaim : SystemFrame AnyDb SameClaims where
  systems _ _ _ := trivial
  events _ _ := trivial
  job _ _ := rfl

theorem updateKeyConfigurationByID_noClaim (m : KeyConfigManager) (f : EventFactory) (id : UUID)
    (patch : KeyConfigurationPatch) : NoClaim (m.updateKeyConfigurationByID f ctx id patch) := by
  have hpatch : ∀ (ctx : Ctx) (kc : KeyConfiguration), NoClaim (do
      (m.repo.patchKeyConfiguration ctx kc).mapError (.wrap .errUpdateKeyConfiguration)
      return kc : M KeyConfiguration) := fun ctx kc =>
    .bind (m.repo.exec_noClaim.mapError _) fun _ => .pure _
  simp only [KeyConfigManager.updateKeyConfigurationByID, throw_bind]
  refine .bind (.query _) fun _ => .bind (.query _) fun kc => .ite (.throw _) ?_
  refine m.repo.transaction_keeps fun ctx => ?_
  cases patch.primaryKeyID with
  | none => exact hpatch ctx _
  | some new =>
    exact .bind ((systemFrame_noClaim.handleUpdatePrimaryKey m f _ new).mapError _) fun _ =>
      hpatch ctx _

theorem Platform.prog_noClaim (p : Platform) (req : Request) : NoClaim (p.prog ctx req) := by
  have hF := systemFrame_noClaim
  cases req with
  | link systemID keyConfigID =>
    refine .mapError _ (p.systems.repo.transaction_keeps fun ctx => .bind (.query _) fun a => ?_)
    exact .bind (.bind (hF.patchSystem _ _ _) fun _ => .bind (.query _) fun _ => .pure _)
      fun _ => hF.sendEvent _ _ _
  | unlink systemID =>
    simp only [prog, SystemManager.unlinkSystemAction]
    refine p.systems.repo.transaction_keeps fun ctx => .bind (.query _) fun a => ?_
    exact .ite (hF.sendEvent _ _ _) (.throw _)
  | decommission systemID => exact hF.decommissionSystemAction _ systemID
  | update keyConfigID patch => exact .bind (updateKeyConfigurationByID_noClaim _ _ _ _) fun _ => .pure _
  | rotate key => exact p.keys.repo.processInBatch_keeps (hF.rotateSystems _ _)
  | recover systemID action =>
    refine .bind (.query _) fun sys => .bind (.query _) fun _ => ?_
    cases action with
    | cancel => exact .bind (.query _) fun _ => p.systems.repo.exec_noClaim
    | retry => exact hF.retrySystemAction _ _
    | other a => exact .throw _

end

/-- The value a handler gives to the claim of its system. -/
def JobType.claim : JobType → Ending → Option Bool
  | .systemLink, .done => some true
  | .systemUnlink, .done => some false
  | .systemUnlinkDecommission, .done | .systemUnlinkDecommission, .failed => some false
  | _, _ => none

structure ClaimSet (name : String × String) (b : Bool) (claims claims' : List (String × String)) :
    Prop where
  self : name ∈ claims' ↔ b = true
  others : ∀ name', name' ≠ name → (name' ∈ claims' ↔ name' ∈ claims)

/-- The claim of a system was set, unless something failed before. -/
def ClaimTried (v : View) (id : UUID) (b : Bool) (claims : List (String × String))
    (res : Except Exn Unit) (claims' : List (String × String)) : Prop :=
  (∃ e, res = .error e) ∧ claims' = claims ∨
    ∃ name, v.name id = some name ∧ ClaimSet name b claims claims'

def ClaimsLeft (v : View) (job : Job) (ending : Ending) (claims : List (String × String))
    (res : Except Exn Unit) (claims' : List (String × String)) : Prop :=
  match job.type.claim ending with
  | none => claims' = claims
  | some b => ClaimTried v job.data.systemID b claims res claims'

theorem ClaimTried.mapError {v : View} {id : UUID} {claims claims' : List (String × String)}
    {w : Exn → Exn} (hc : ClaimTried v id b claims res claims') :
    ClaimTried v id b claims (res.mapError w) claims' := by
  refine hc.imp_left fun ⟨⟨e, he⟩, hsame⟩ => ⟨⟨w e, ?_⟩, hsame⟩
  rw [he]
  rfl

theorem NoClaim.wp {α : Type} {p : M α} {i : Bool} {s : State} (hp : NoClaim p) :
    p.wp i (fun _ s' => s'.ext.keyClaims = s.ext.keyClaims) s :=
  (hp.run rfl).2

namespace JobHandlers

variable {h : JobHandlers} {job : Job} {ctx : Ctx} {s : State} {i : Bool}

theorem wp_sendL1KeyClaim_claims {sys : System} :
    (h.sendL1KeyClaim sys b).wp i (fun res s' =>
      (∃ e, res = .error e) ∧ s'.ext.keyClaims = s.ext.keyClaims ∨
        ClaimSet sys.name b s.ext.keyClaims s'.ext.keyClaims) s := by
  refine wp_bind (wp_attempt ?_)
  unfold wp updateSystemL1KeyClaim
  rw [run_call]
  cases hf : h.claimFault s.clock with
  | some e =>
    obtain ⟨hactive, hinactive⟩ := h.claimFault_already _ e hf
    simp only [Exn.is, hactive, hinactive, Bool.false_and, Bool.or_self]
    exact .inl ⟨⟨_, rfl⟩, rfl⟩
  | none =>
    by_cases hsame : s.ext.keyClaims.contains sys.name = b
    · -- the registry reports that the claim has the value already
      have hself : sys.name ∈ s.ext.keyClaims ↔ b = true := by
        rw [← contains_iff_mem, hsame]
      have hset : ClaimSet sys.name b s.ext.keyClaims s.ext.keyClaims := ⟨hself, fun _ _ => .rfl⟩
      simp only [System.name] at hsame
      simp only [if_pos hsame]
      cases b with
      | true => exact .inr hset
      | false => exact .inr hset
    · simp only [System.name] at hsame
      simp only [if_neg hsame]
      refine .inr ?_
      cases b with
      | true => exact ⟨by simp [System.name], fun name hne => by simp_all [System.name]⟩
      | false => exact ⟨by simp [System.name], fun name hne => by simp_all [System.name]⟩

theorem updateSystem_noClaim (sys : System) : NoClaim (h.updateSystem ctx sys) :=
  .bind (h.repo.exec_noClaim.mapError _) fun _ => .pure _

theorem connectSystem_noClaim (sys : System) (key : Key) : NoClaim (h.connectSystem ctx job sys key) :=
  h.repo.transaction_keeps fun _ => .bind (updateSystem_noClaim _) fun _ =>
    h.repo.exec_noClaim.mapError _

theorem failSystem_noClaim (message : Q String) : NoClaim (h.failSystem job message) := by
  refine .bind (.query _) fun r => ?_
  cases r with
  | error e => exact .ite (.pure _) (.throw _)
  | ok sys =>
    exact .bind (.query _) fun _ => h.repo.transaction_keeps fun _ =>
      .bind h.repo.exec_noClaim fun _ => updateSystem_noClaim _

theorem name_firstSystem {d : Db} {n k : Nat} {id : UUID} {sys : System}
    (hs : (h.repo.firstSystem ctx id).eval d n = (.ok sys, k)) : d.name id = some sys.name :=
  (connection_firstSystem hs).2.1

theorem wp_claim_first {rest : System → M Unit} (hrest : ∀ sys, NoClaim (rest sys)) :
    (do
      let sys ← h.repo.firstSystem (tenantContext job) job.data.systemID
      h.sendL1KeyClaim sys b
      rest sys : M Unit).wp i (fun res s' =>
        ClaimTried s.view job.data.systemID b s.ext.keyClaims res s'.ext.keyClaims) s := by
  refine wp_query_bind (fun e _ _ => .inl ⟨⟨e, rfl⟩, rfl⟩) fun sys n hsys => ?_
  refine wp_bind (wp_mono wp_sendL1KeyClaim_claims fun res s1 hset => ?_)
  cases res with
  | error e =>
    rcases hset with ⟨-, hset⟩ | hset
    · exact .inl ⟨⟨e, rfl⟩, hset⟩
    · exact .inr ⟨_, name_firstSystem hsys, hset⟩
  | ok u =>
    rcases hset with ⟨⟨e, he⟩, -⟩ | hset
    · cases he
    · refine wp_mono (hrest sys).wp fun res s' hs' => .inr ⟨_, name_firstSystem hsys, ?_⟩
      rw [hs']
      exact hset

theorem wp_terminate_claims :
    (h.terminate job).wp i (fun res s' =>
      ClaimTried s.view job.data.systemID false s.ext.keyClaims res s'.ext.keyClaims) s := by
  refine wp_query_bind (fun e _ _ => .inl ⟨⟨e, rfl⟩, rfl⟩) fun sys n hsys => ?_
  refine wp_bind (wp_mono (updateSystem_noClaim _).wp fun res s1 hs1 => ?_)
  cases res with
  | error e => exact .inl ⟨⟨e, rfl⟩, hs1⟩
  | ok u =>
    refine wp_mono wp_sendL1KeyClaim_claims fun res s2 hset => ?_
    rw [hs1] at hset
    exact hset.imp_right fun hset => ⟨_, name_firstSystem hsys, hset⟩

theorem wp_decommissionFailed_claims :
    (h.decommissionFailed job).wp i (fun res s' =>
      ClaimTried s.view job.data.systemID false s.ext.keyClaims res s'.ext.keyClaims) s := by
  have hterminate : ∀ s1 : State, s1.view = s.view → s1.ext = s.ext →
      ((h.terminate job).mapError (.errorf "failed to handle job failed event")).wp i
        (fun res s' => ClaimTried s.view job.data.systemID false s.ext.keyClaims res
          s'.ext.keyClaims) s1 := by
    intro s1 hv hx
    rw [← hv, ← hx]
    exact wp_mapError (wp_mono wp_terminate_claims fun _ _ hc => hc.mapError)
  refine wp_query_attempt_bind fun _ n _ => wp_bind (wp_attempt ?_)
  refine wp_query_bind (fun _ _ _ => hterminate _ rfl rfl) fun _ _ _ => ?_
  exact wp_mapError (hterminate _ rfl rfl)

theorem rotateDone_noClaim : NoClaim (h.rotateDone job) := by
  refine .bind (.query _) fun r => ?_
  cases r with
  | error e => exact .ite (h.repo.exec_noClaim.mapError _) (.throw _)
  | ok sys => exact (h.repo.exec_noClaim.mapError _).mapError _

theorem wp_handle_claims (ending : Ending) (errorMessage : String) :
    (h.handle job ending errorMessage).wp i (fun res s' =>
      ClaimsLeft s.view job ending s.ext.keyClaims res s'.ext.keyClaims) s := by
  cases ending with
  | done =>
    simp only [handle, handleJobDoneEvent, ClaimsLeft]
    cases job.type with
    | systemLink =>
      exact wp_claim_first fun sys => .bind (.query _) fun key => connectSystem_noClaim sys key
    | systemUnlink =>
      exact wp_claim_first fun sys => h.repo.transaction_keeps fun _ =>
        .bind (updateSystem_noClaim _) fun _ => h.repo.exec_noClaim.mapError _
    | systemSwitch | systemSwitchNewPK =>
      exact NoClaim.wp (.bind (.query _) fun sys => .bind (.query _) fun key =>
        connectSystem_noClaim sys key)
    | systemUnlinkDecommission =>
      exact wp_mapError (wp_mono wp_terminate_claims fun _ _ hc => hc.mapError)
    | systemKeyRotate => exact NoClaim.wp rotateDone_noClaim
  | failed =>
    simp only [handle, handleJobFailedEvent, ClaimsLeft]
    cases job.type with
    | systemUnlinkDecommission => exact wp_decommissionFailed_claims
    | systemKeyRotate =>
      exact NoClaim.wp (.bind (.query _) fun _ => .ite (h.repo.exec_noClaim.mapError _)
        (failSystem_noClaim _))
    | _ => exact NoClaim.wp (failSystem_noClaim _)
  | canceled =>
    simp only [handle, handleJobCanceledEvent, ClaimsLeft]
    cases job.type with
    | systemUnlinkDecommission =>
      exact NoClaim.wp (.bind (.query _) fun sys => updateSystem_noClaim _)
    | systemKeyRotate => exact NoClaim.wp (h.repo.exec_noClaim.mapError _)
    | _ => exact NoClaim.wp (failSystem_noClaim _)

end JobHandlers

/-- A handler of the job has failed that may have written only one of the two stores. -/
def Half (type : JobType) : Phase → Prop
  | .terminated ending => (type.claim ending).isSome
  | _ => False

/-- What the claim of a system says, by its row and its pending job. The jobs from the number `bound`
on have no Event row yet. -/
structure Accord (claimed : Prop) (failing : Bool) (phase : Nat → Phase) (bound : Nat)
    (c : Option Connection) (row : Option Event) (pending : Nat → Job → Prop) : Prop where
  single : ∀ n m job job', pending n job → pending m job' → n = m ∧ job = job'
  noRotation : ∀ n job, pending n job → job.type ≠ .systemKeyRotate
  noRotationEvent : ∀ ev, row = some ev → ev.type ≠ .systemKeyRotate
  event : ∀ n job, pending n job → n < bound → job.type ≠ .systemUnlinkDecommission →
    ∃ ev, row = some ev ∧ ev.type = job.type
  busy : ∀ n job x, pending n job → c = some x →
    x.1 = .processing ∧ (job.type ≠ .systemLink → x.2.1 ≠ none) ∨
    x.1 = .disconnected ∧ x.2.1 = none ∧ job.type = .systemUnlinkDecommission ∧
      Half job.type (phase n)
  failed : ∀ kcID target ev, c = some (.failed, kcID, target) → row = some ev →
    ev.type ≠ .systemLink → kcID ≠ none
  agrees : (∀ x, c = some x → (claimed ↔ x.2.1 ≠ none)) ∨
    ∃ n job, pending n job ∧ Half job.type (phase n)
  called : ∀ n job, pending n job → Half job.type (phase n) → failing = true

namespace Accord

variable {claimed : Prop} {failing : Bool} {phase phase' : Nat → Phase} {bound : Nat}
  {c : Option Connection} {row : Option Event} {pending : Nat → Job → Prop} {n : Nat} {job : Job}

theorem congr (h : Accord claimed failing phase bound c row pending)
    (hphase : ∀ n job, pending n job → phase' n = phase n) :
    Accord claimed failing phase' bound c row pending where
  single := h.single
  noRotation := h.noRotation
  noRotationEvent := h.noRotationEvent
  event := h.event
  busy n job x hn hx := by rw [hphase n job hn]; exact h.busy n job x hn hx
  failed := h.failed
  agrees := by
    refine h.agrees.imp_right fun ⟨n, job, hn, hhalf⟩ => ⟨n, job, hn, ?_⟩
    rw [hphase n job hn]
    exact hhalf
  called n job hn hhalf := h.called n job hn (hphase n job hn ▸ hhalf)

theorem agrees_of_none (h : Accord claimed failing phase bound c row pending)
    (hnone : ∀ n job, ¬ pending n job) (hx : c = some x) :
    claimed ↔ x.2.1 ≠ none := by
  rcases h.agrees with hc | ⟨n, job, hn, -⟩
  · exact hc x hx
  · exact absurd hn (hnone n job)

theorem of_job {kcID target : Option UUID} {row' : Option Event}
    (hp : ∀ m j, pending m j → m = n ∧ j = job) (hty : job.type ≠ .systemKeyRotate)
    (hrow : ∀ ev, row' = some ev → ev.type ≠ .systemKeyRotate) (hbound : bound ≤ n)
    (hlinked : job.type ≠ .systemLink → kcID ≠ none) (hphase : phase n = .created)
    (hclaim : claimed ↔ kcID ≠ none) :
    Accord claimed failing phase bound (some (.processing, kcID, target)) row' pending where
  single m m' j j' hm hm' :=
    ⟨(hp m j hm).1.trans (hp m' j' hm').1.symm, (hp m j hm).2.trans (hp m' j' hm').2.symm⟩
  noRotation m j hm := (hp m j hm).2 ▸ hty
  noRotationEvent := hrow
  event m j hm hlt := by
    obtain ⟨rfl, -⟩ := hp m j hm
    omega
  busy m j x hm hx := by
    cases hx
    exact .inl ⟨rfl, (hp m j hm).2 ▸ hlinked⟩
  failed kcID target ev hc := by cases hc
  agrees := .inl fun x hx => by cases hx; exact hclaim
  called m j hm hhalf := by
    obtain ⟨rfl, -⟩ := hp m j hm
    rw [hphase] at hhalf
    exact hhalf.elim

theorem of_end {row' : Option Event} (hp : ∀ m j, ¬ pending m j)
    (hrow : ∀ ev, row' = some ev → ev.type ≠ .systemKeyRotate)
    (hfailed : ∀ kcID target ev, c = some (.failed, kcID, target) → row' = some ev →
      ev.type ≠ .systemLink → kcID ≠ none)
    (hclaim : ∀ x, c = some x → (claimed ↔ x.2.1 ≠ none)) :
    Accord claimed failing phase bound c row' pending where
  single m _ j _ hm := absurd hm (hp m j)
  noRotation m j hm := absurd hm (hp m j)
  noRotationEvent := hrow
  event m j hm := absurd hm (hp m j)
  busy m j _ hm := absurd hm (hp m j)
  failed := hfailed
  agrees := .inl hclaim
  called m j hm := absurd hm (hp m j)

theorem rekey {ev : Event} (h : Accord claimed failing phase bound c (some ev) pending)
    (keyID : UUID) : Accord claimed failing phase bound c (some (ev.rekey keyID)) pending where
  single := h.single
  noRotation := h.noRotation
  noRotationEvent ev' hev := by cases hev; exact h.noRotationEvent ev rfl
  event n job hn hlt hty := by
    obtain ⟨_, hev, heq⟩ := h.event n job hn hlt hty
    cases hev
    exact ⟨_, rfl, heq⟩
  busy := h.busy
  failed kcID target ev' hc hev hty := by cases hev; exact h.failed kcID target ev hc rfl hty
  agrees := h.agrees
  called := h.called

theorem agrees_of_not_half (h : Accord claimed failing phase bound c row pending)
    (hn : pending n job) (hnot : ¬ Half job.type (phase n)) (hx : c = some x) :
    (claimed ↔ x.2.1 ≠ none) ∧ (job.type ≠ .systemLink → x.2.1 ≠ none) := by
  refine ⟨?_, ((h.busy n job x hn hx).resolve_right fun hdec => hnot hdec.2.2.2).2⟩
  rcases h.agrees with hc | ⟨m, j, hm, hhalf⟩
  · exact hc x hx
  · obtain ⟨rfl, rfl⟩ := h.single m n j job hm hn
    exact absurd hhalf hnot

theorem advance {failing' : Bool} (h : Accord claimed failing phase bound c row pending)
    (hn : pending n job) (hold : ¬ Half job.type (phase n)) (hnew : ¬ Half job.type ph) :
    Accord claimed failing' (update phase n ph) bound c row pending := by
  have hone : ∀ m j, pending m j → m = n ∧ j = job := fun m j hm => h.single m n j job hm hn
  refine { h with
    busy := fun m j x hm hx => ?_,
    agrees := .inl fun x hx => (h.agrees_of_not_half hn hold hx).1,
    called := fun m j hm hhalf => ?_ }
  · obtain ⟨rfl, rfl⟩ := hone m j hm
    exact .inl ((h.busy m j x hm hx).resolve_right fun hdec => hold hdec.2.2.2)
  · obtain ⟨rfl, rfl⟩ := hone m j hm
    rw [update_self] at hhalf
    exact absurd hhalf hnew

theorem stop {claimed' : Prop} {c' : Option Connection}
    (h : Accord claimed failing phase bound c row pending) (hn : pending n job)
    (hhalf : Half job.type ph)
    (hc : c' = c ∨ job.type = .systemUnlinkDecommission ∧
      ∃ target, c' = some (.disconnected, none, target)) :
    Accord claimed' true (update phase n ph) bound c' row pending := by
  have hone : ∀ m j, pending m j → m = n ∧ j = job := fun m j hm => h.single m n j job hm hn
  have hat : Half job.type (update phase n ph n) := by rwa [update_self]
  refine { h with
    busy := fun m j x hm hx => ?_, failed := fun kcID target ev hf => ?_,
    agrees := .inr ⟨n, job, hn, hat⟩, called := fun _ _ _ _ => rfl }
  · obtain ⟨rfl, rfl⟩ := hone m j hm
    rcases hc with rfl | ⟨hty, target, rfl⟩
    · refine (h.busy m j x hm hx).imp_right fun hdec => ⟨hdec.1, hdec.2.1, hdec.2.2.1, hat⟩
    · cases hx
      exact .inr ⟨rfl, rfl, hty, hat⟩
  · rcases hc with rfl | ⟨-, target', rfl⟩
    · exact h.failed kcID target ev hf
    · cases hf

theorem raise {bound' : Nat} (h : Accord claimed failing phase bound c row pending)
    (hrows : ∀ n job, pending n job → bound ≤ n → job.type ≠ .systemUnlinkDecommission →
      ∃ ev, row = some ev ∧ ev.type = job.type) :
    Accord claimed failing phase bound' c row pending :=
  { h with
    event := fun n job hn _ hty => by
      by_cases hlt : n < bound
      · exact h.event n job hn hlt hty
      · exact hrows n job hn (by omega) hty }

end Accord

def Claimed (names : UUID → Option (String × String)) (claims : List (String × String)) (id : UUID) :
    Prop :=
  ∃ name, names id = some name ∧ name ∈ claims

structure Accords (names : UUID → Option (String × String)) (claims : List (String × String))
    (failing : UUID → Bool) (phase : Nat → Phase) (bound : Nat) (v : View) : Prop where
  each : PerSystem (fun id c row pending =>
    Accord (Claimed names claims id) (failing id) phase bound c row pending) phase v
  fresh : ∀ n, v.jobs.length ≤ n → phase n = .created
  bound : bound ≤ v.jobs.length

/-- The deeds of requests that take effect completely, except that events may still be missing. -/
def Deed.Takes (phase : Nat → Phase) (v : View) : Deed → Prop
  | .submit job _ keyConfigID _ _ => job.type ≠ .systemKeyRotate ∧
      (keyConfigID = none → ∀ n j, Pending v.jobs phase job.externalID n j →
        j.type ≠ .systemUnlinkDecommission)
  | .retry _ _ _ | .rekey _ _ | .replace _ => True
  | _ => False

namespace Accords

variable {names : UUID → Option (String × String)} {claims : List (String × String)}
  {failing : UUID → Bool} {phase : Nat → Phase} {bound : Nat} {v v' : View}

theorem set (h : Accords names claims failing phase bound v) (id : UUID) (added : List Job)
    (hconn : ∀ id', id' ≠ id → v'.connection id' = v.connection id')
    (hevent : ∀ id', id' ≠ id → v'.event id' = v.event id')
    (hjobs : v'.jobs = v.jobs ++ added) (hadded : ∀ job ∈ added, job.externalID = id)
    (hid : Accord (Claimed names claims id) (failing id) phase bound (v'.connection id) (v'.event id)
      (Pending v'.jobs phase id)) : Accords names claims failing phase bound v' := by
  have hlen : v.jobs.length ≤ v'.jobs.length := by rw [hjobs, length_append]; omega
  exact ⟨h.each.set id added hconn hevent hjobs hadded hid, fun n hn => h.fresh n (by omega),
    h.bound.trans hlen⟩

theorem none_pending (h : Accords names claims failing phase bound v) {id : UUID}
    (hx : v.connection id = some x) (hst : x.1 ≠ .processing)
    (hdec : x.1 = .disconnected → x.2.1 = none → ∀ n j, Pending v.jobs phase id n j →
      j.type ≠ .systemUnlinkDecommission) (n : Nat) (job : Job) :
    ¬ Pending v.jobs phase id n job := by
  intro hn
  rcases (h.each id).busy n job x hn hx with ⟨hp, -⟩ | ⟨hd, hnone, hty, -⟩
  · exact hst hp
  · exact hdec hd hnone n job hn hty

theorem apply (h : Accords names claims failing phase bound v) (δ : Deed) (hen : δ.Enabled v)
    (hδ : δ.Takes phase v) : Accords names claims failing phase bound (δ.apply v) := by
  cases δ with
  | submit job prev kcID target stored =>
    obtain ⟨hprev, -, hlinked, target', hconn⟩ := hen
    have hnone := h.none_pending hconn hprev fun _ hkc => hδ.2 hkc
    have hacc := h.each job.externalID
    refine h.set job.externalID [job] (fun id hid => ?_) (fun id hid => ?_) submit_jobs
      (by simp) ?_
    · rw [submit_connection, update_of_ne hid]
    · cases stored with
      | true => exact update_of_ne hid _ _
      | false => rfl
    · rw [submit_connection, update_self, submit_jobs]
      refine .of_job (fun m j => Tracks.only hnone) hδ.1 (fun ev hev => ?_) h.bound hlinked
        (h.fresh _ le_rfl) (hacc.agrees_of_none hnone hconn)
      cases stored with
      | true =>
        simp only [Deed.apply, if_true, setEvent_event, update_self] at hev
        cases hev
        exact hδ.1
      | false => exact hacc.noRotationEvent ev hev
  | retry job kcID target =>
    obtain ⟨hty, hconn, ev, hev, hevty, -⟩ := hen
    have hnone := h.none_pending hconn (by simp) fun hd => by cases hd
    have hacc := h.each job.externalID
    refine h.set job.externalID [job] (fun id hid => update_of_ne hid _ _) (fun _ _ => rfl)
      rfl (by simp) ?_
    simp only [Deed.apply, addJob, setConnection, update_self]
    refine .of_job (fun m j => Tracks.only hnone) hty hacc.noRotationEvent h.bound (fun hlink => ?_)
      (h.fresh _ le_rfl) (hacc.agrees_of_none hnone hconn)
    exact hacc.failed kcID target ev hconn hev (hevty ▸ hlink)
  | rekey ev keyID =>
    have hacc := h.each ev.identifier
    rw [hen.1] at hacc
    refine h.set ev.identifier [] (fun _ _ => rfl) (fun id hid => update_of_ne hid _ _)
      (append_nil _).symm (by simp) ?_
    simp only [Deed.apply, setEvent_event, update_self]
    exact hacc.rekey keyID
  | replace kc => exact ⟨h.each, h.fresh, h.bound⟩
  | _ => exact hδ.elim

theorem leads {G : View → Deed → Prop} (h : Accords names claims failing phase bound v)
    (hl : Leads G v v') (hG : ∀ w δ, G w δ → δ.Takes phase w) :
    Accords names claims failing phase bound v' :=
  hl.induct (I := Accords names claims failing phase bound) h fun w δ hw hδ hen =>
    hw.apply δ hen (hG w δ hδ)

theorem raise (h : Accords names claims failing phase bound v)
    (hrows : ∀ job ∈ v.jobs.drop bound, job.type ≠ .systemUnlinkDecommission →
      ∃ ev, v.event job.externalID = some ev ∧ ev.type = job.type) :
    Accords names claims failing phase v.jobs.length v := by
  refine ⟨fun id => (h.each id).raise fun n job hn hle hty => ?_, h.fresh, le_rfl⟩
  have hmem : job ∈ v.jobs.drop bound := by
    refine mem_of_getElem? (i := n - bound) ?_
    rw [getElem?_drop, Nat.add_sub_cancel' hle]
    exact hn.listed
  exact hn.system ▸ hrows job hmem hty

end Accords

/-- The new jobs have their events, or there is no new job because of an error. -/
def AllOrNothing (v v' : View) : Except Exn Unit → Prop
  | .ok _ => ∀ job ∈ v'.jobs.drop v.jobs.length, job.type ≠ .systemUnlinkDecommission →
      ∃ ev ∈ v'.event job.externalID, ev.type = job.type ∧ ev.data = job.data
  | .error _ => v'.jobs = v.jobs

def Whole (p : Platform) (s : Sys) (ctx : Ctx) (req : Request) : Prop :=
  (p.prog ctx.request req).wp false (fun res st => AllOrNothing s.view st.view res) s.st

def Request.claims : Request → Prop
  | .recover _ .cancel | .rotate _ => False
  | _ => True

/-- The acts of which the claims are to follow the systems. -/
def Claiming (p : Platform) (s : Sys) : Act → Prop
  | .request ctx req => req.claims ∧ Whole p s ctx req
  | .workflow _ _ => False
  | _ => True

/-- No system is linked while its decommission has not ended. -/
def NotDecommissioning (s : Sys) : Act → Prop
  | .request _ (.link id _) => ∀ n job, Pending s.view.jobs s.phase id n job →
      job.type ≠ .systemUnlinkDecommission
  | _ => True

namespace Accords

variable {names : UUID → Option (String × String)} {claims : List (String × String)}
  {failing : UUID → Bool}

theorem answers {p : Platform} {ctx : Ctx} {req : Request} {v' : View}
    (h : Accords names claims failing s.phase s.view.jobs.length s.view)
    (hans : Answers p s.st req res v') (hscope : req.claims)
    (hcond : NotDecommissioning s (.request ctx req)) (hwhole : AllOrNothing s.view v' res) :
    Accords names claims failing s.phase v'.jobs.length v' := by
  have htakes : ∀ {G : View → Deed → Prop}, Leads G s.view v' → (∀ w δ, G w δ → δ.Takes s.phase w) →
      res = .ok () → Accords names claims failing s.phase v'.jobs.length v' := by
    rintro G hl hG rfl
    refine (h.leads hl hG).raise fun job hjob hty => ?_
    obtain ⟨ev, hev, hevty, -⟩ := hwhole job hjob hty
    exact ⟨ev, hev, hevty⟩
  -- a request that fails has left no job
  have hfails : ∀ e jobs, res = .error e → v' = { s.view with jobs := jobs } →
      Accords names claims failing s.phase v'.jobs.length v' := by
    rintro e jobs rfl rfl
    have hjobs : jobs = s.view.jobs := hwhole
    rw [hjobs]
    exact h
  cases hans with
  | kept _ e => exact h
  | link id c job prev kcID target stored hext hjob _ hen =>
    refine htakes (G := fun w δ => w = s.view ∧ δ = .submit job prev kcID target stored)
      (.single ⟨rfl, rfl⟩ hen) ?_ rfl
    rintro w δ ⟨rfl, rfl⟩
    exact ⟨hjob.not_rotate, fun _ => hext ▸ hcond⟩
  | unlink id job prev kcID target stored hext hty _ _ hen =>
    refine htakes (G := fun w δ => δ = .submit job prev kcID target stored)
      (.single rfl hen) ?_ rfl
    rintro w δ rfl
    exact ⟨by rw [hty]; simp, fun hnone => absurd hnone (hen.2.2.1 (by rw [hty]; simp))⟩
  | decommission id job prev kcID target hext hty _ hen =>
    refine htakes (G := fun w δ => δ = .submit job prev kcID target false)
      (.single rfl hen) ?_ rfl
    rintro w δ rfl
    exact ⟨by rw [hty]; simp, fun hnone => absurd hnone (hen.2.2.1 (by rw [hty]; simp))⟩
  | orphan _ job e => exact hfails e _ rfl rfl
  | cancel => exact hscope.elim
  | retry id job kcID target _ hen =>
    refine htakes (G := fun w δ => δ = .retry job kcID target) (.single rfl hen) ?_ rfl
    rintro w δ rfl
    trivial
  | notify id job hag hty =>
    obtain ⟨ev, hev, hevty, -⟩ := hag.event
    exact absurd (hevty.trans hty) ((h.each id).noRotationEvent ev hev)
  | retryLeft id job e => exact hfails e _ rfl rfl
  | update id patch kc a _ _ hupd =>
    refine htakes hupd.ran (fun w δ hδ => ?_) rfl
    cases δ with
    | submit job prev kcID target stored =>
      obtain ⟨⟨keyTo, keyFrom, -, -, hjob⟩, rfl, -⟩ := hδ
      exact ⟨by rw [hjob.type]; simp, by simp⟩
    | rekey | replace => trivial
    | _ => exact hδ.elim
  | updateFailed id patch kc v1 _ e => exact hfails e _ rfl rfl
  | rotate => exact hscope.elim

end Accords

namespace Sys

variable {p : Platform} {s s' : Sys}

theorem step_call {ending : Ending} {message : String}
    (h : s.step p (.finish number ending message) = some s') :
    ∃ job res, s.view.jobs[number]? = some job ∧
      (s.phase number = .confirmed ∨ s.phase number = .terminated ending) ∧
      Reacts s.view job ending res s'.view ∧
      ClaimsLeft s.view job ending s.st.ext.keyClaims res s'.st.ext.keyClaims ∧
      match res with
      | .ok _ => s'.phase = update s.phase number .ended ∧
          s'.failing = update s.failing job.externalID false
      | .error _ => s'.phase = update s.phase number (.terminated ending) ∧
          s'.failing = update s.failing job.externalID true := by
  simp only [step] at h
  split at h
  · rename_i job hjob
    split at h
    · rename_i hphase
      have hreact : (p.handlers.handle job ending message).wp false (fun res st =>
          Reacts s.view job ending res st.view ∧
          ClaimsLeft s.view job ending s.st.ext.keyClaims res st.ext.keyClaims) s.st :=
        ⟨JobHandlers.wp_handle ending message, JobHandlers.wp_handle_claims ending message⟩
      cases h
      unfold wp at hreact
      simp only [finish]
      cases hrun : (p.handlers.handle job ending message).run false s.st with
      | mk res st =>
        rw [hrun] at hreact
        cases res with
        | ok u => exact ⟨job, .ok u, hjob, hphase, hreact.1, hreact.2, rfl, rfl⟩
        | error e => exact ⟨job, .error e, hjob, hphase, hreact.1, hreact.2, rfl, rfl⟩
    · cases h
  · cases h

theorem step_confirm_call (h : s.step p (.confirm number) = some s') :
    ∃ job, s.view.jobs[number]? = some job ∧ s.phase number = .created ∧ s'.view = s.view ∧
      s'.st.ext = s.st.ext ∧
      (∃ phase, (∀ type, ¬ Half type phase) ∧ phase ≠ .ended ∧
        s'.phase = update s.phase number phase) ∧
      ∃ b, s'.failing = update s.failing job.externalID b := by
  simp only [step] at h
  split at h
  · rename_i job hjob
    split at h
    · rename_i hphase
      cases h
      refine ⟨job, hjob, hphase, rfl, rfl, ?_, _, rfl⟩
      simp only [observe, confirm]
      split
      · exact ⟨.confirmed, fun type => id, by simp, rfl⟩
      · exact ⟨.terminated .canceled, fun type => by cases type <;> simp [Half, JobType.claim],
          by simp, rfl⟩
      · exact ⟨.created, fun type => id, by simp, by rw [← hphase, update_eq_self]⟩
    · cases h
  · cases h

end Sys

section

variable {v v' : View} {claims claims' : List (String × String)} {job : Job} {ending : Ending}
  {phase : Nat → Phase} {n : Nat}

theorem Deed.type_of_fail_event {kcID target : Option UUID} {error : Option (String × String)}
    {ev : Event} (h : ((fail job kcID target error).apply v).event job.externalID = some ev) :
    ∃ ev0, v.event job.externalID = some ev0 ∧ ev.type = ev0.type := by
  cases hv : v.event job.externalID with
  | none => cases error <;> simp_all [apply, note]
  | some ev0 =>
    obtain ⟨ev', hev', hty, -⟩ := fail_event kcID target error hv
    cases h.symm.trans hev'
    exact ⟨ev0, rfl, hty⟩

theorem ClaimsLeft.claimed {u : Unit} (h : ClaimsLeft v job ending claims (.ok u) claims')
    (hb : job.type.claim ending = some b) (hsane : job.data.systemID = job.externalID) :
    Claimed v.name claims' job.externalID ↔ b = true := by
  simp only [ClaimsLeft, hb, ClaimTried, hsane] at h
  rcases h with ⟨⟨e, he⟩, -⟩ | ⟨name, hname, hset⟩
  · cases he
  · rw [← hset.self, Claimed]
    refine ⟨fun ⟨name', hname', hmem⟩ => ?_, fun hmem => ⟨name, hname, hmem⟩⟩
    cases hname.symm.trans hname'
    exact hmem

theorem ClaimsLeft.others (h : ClaimsLeft v job ending claims res claims')
    (hnames : ∀ id id' name, v.name id = some name → v.name id' = some name → id = id')
    (hsane : job.data.systemID = job.externalID) {id : UUID} (hid : id ≠ job.externalID) :
    Claimed v.name claims' id ↔ Claimed v.name claims id := by
  unfold ClaimsLeft at h
  split at h
  · rw [h]
  · rcases h with ⟨-, hsame⟩ | ⟨name, hname, hset⟩
    · rw [hsame]
    · have hother : ∀ name', v.name id = some name' → (name' ∈ claims' ↔ name' ∈ claims) := by
        intro name' hname'
        refine hset.others name' fun heq => hid ?_
        rw [← hsane]
        exact hnames _ _ _ hname' (heq ▸ hname)
      refine ⟨fun ⟨name', hname', hmem⟩ => ⟨name', hname', (hother name' hname').1 hmem⟩,
        fun ⟨name', hname', hmem⟩ => ⟨name', hname', (hother name' hname').2 hmem⟩⟩

theorem not_half (hphase : phase n = .confirmed ∨ phase n = .terminated ending)
    (hclaim : job.type.claim ending = none) : ¬ Half job.type (phase n) := by
  rcases hphase with hp | hp
  · rw [hp]
    exact id
  · rw [hp, Half, hclaim]
    simp

end

namespace Accord

variable {v v' : View} {claims claims' : List (String × String)} {failing failing' : Bool}
  {phase phase' : Nat → Phase} {bound bound' n : Nat} {pending pending' : Nat → Job → Prop}
  {job : Job} {ending : Ending}

theorem ended {u : Unit}
    (h : Accord (Claimed v.name claims job.externalID) failing phase bound
      (v.connection job.externalID) (v.event job.externalID) pending)
    (hn : pending n job) (hlt : n < bound) (hsane : job.data.systemID = job.externalID)
    (hphase : phase n = .confirmed ∨ phase n = .terminated ending)
    (hr : Reacts v job ending (.ok u) v') (hcl : ClaimsLeft v job ending claims (.ok u) claims')
    (hnone : ∀ m j, ¬ pending' m j) :
    Accord (Claimed v.name claims' job.externalID) failing' phase' bound'
      (v'.connection job.externalID) (v'.event job.externalID) pending' := by
  have hkept : job.type.claim ending = none → claims' = claims ∧ ¬ Half job.type (phase n) :=
    fun hclaim => ⟨by simpa only [ClaimsLeft, hclaim] using hcl, not_half hphase hclaim⟩
  have hclean : ∀ w : View, w.event = v.event → ∀ ev, (w.clean job).event job.externalID = some ev →
      ev.type ≠ .systemKeyRotate := by
    intro w hw ev hev
    rw [View.clean, View.setEvent_event, update_self, hw] at hev
    exact h.noRotationEvent ev (filter_eq_some_iff.1 hev).1
  have hset : ∀ (δ : Deed) (c : Connection),
      (δ.apply v).connection = (v.setConnection job.data.systemID c).connection →
      (δ.apply v).connection job.externalID = some c := by
    intro δ c hδ
    rw [hδ, hsane, setConnection_connection, update_self]
  cases hr with
  | connect kcID hty hen =>
    rw [hset (.connect job kcID) (.connected, some kcID, none) rfl]
    refine .of_end hnone (hclean _ rfl) (fun _ _ _ hc => by cases hc) fun x hx => ?_
    cases hx
    by_cases hlink : job.type = .systemLink
    · rw [hcl.claimed (b := true) (by rw [hlink]; rfl) hsane]
      simp
    · have hclaim : job.type.claim .done = none := by
        cases htype : job.type <;> simp_all [JobType.connects, JobType.claim]
      obtain ⟨⟨x, hx⟩, -⟩ := hen
      rw [hsane] at hx
      obtain ⟨hiff, hlinked⟩ := h.agrees_of_not_half hn (hkept hclaim).2 hx
      rw [(hkept hclaim).1, hiff]
      simpa using hlinked hlink
  | unlink target hty hen =>
    rw [hset (.disconnect job target true) (.disconnected, none, target) rfl]
    refine .of_end hnone (hclean _ rfl) (fun _ _ _ hc => by cases hc) fun x hx => ?_
    cases hx
    rw [hcl.claimed (b := false) (by rw [hty]; rfl) hsane]
    simp
  | decommission _ _ target hty hne hen =>
    rw [hset (.disconnect job target false) (.disconnected, none, target) rfl]
    refine .of_end hnone h.noRotationEvent (fun _ _ _ hc => by cases hc) fun x hx => ?_
    cases hx
    have hclaim : job.type.claim ending = some false := by
      rw [hty]
      cases ending <;> simp_all [JobType.claim]
    rw [hcl.claimed hclaim hsane]
    simp
  | rotated _ hty => exact absurd hty (h.noRotation n job hn)
  | fail _ kcID target error hne hdec _ hen =>
    obtain ⟨status, hconn⟩ := hen
    rw [hsane] at hconn
    have hclaim : job.type.claim ending = none := by
      cases ending <;> cases htype : job.type <;> simp_all [JobType.claim]
    obtain ⟨hiff, hlinked⟩ := h.agrees_of_not_half hn (hkept hclaim).2 hconn
    rw [hset (.fail job kcID target error) (.failed, kcID, target) fail_connection]
    refine .of_end hnone (fun ev hev => ?_) (fun kcID' target' ev hc hev hne => ?_) fun x hx => ?_
    · obtain ⟨ev0, hev0, hty⟩ := type_of_fail_event hev
      rw [hty]
      exact h.noRotationEvent ev0 hev0
    · -- the row still has the type of the job
      cases hc
      refine hlinked fun hlink => hne ?_
      obtain ⟨ev0, hev0, hty⟩ := type_of_fail_event hev
      obtain ⟨ev1, hev1, hty1⟩ := h.event n job hn hlt (by rw [hlink]; simp)
      cases hev0.symm.trans hev1
      rw [hty, hty1, hlink]
    · cases hx
      rw [(hkept hclaim).1]
      exact hiff
  | missing _ _ _ hgone =>
    rw [hsane] at hgone
    refine .of_end hnone h.noRotationEvent (fun _ _ _ hc => ?_) fun x hx => ?_
    · rw [hgone] at hc
      cases hc
    · rw [hgone] at hx
      cases hx

theorem interrupted {e : Exn}
    (h : Accord (Claimed v.name claims job.externalID) failing phase bound
      (v.connection job.externalID) (v.event job.externalID) pending)
    (hn : pending n job) (hsane : job.data.systemID = job.externalID)
    (hphase : phase n = .confirmed ∨ phase n = .terminated ending)
    (hr : Reacts v job ending (.error e) v')
    (hcl : ClaimsLeft v job ending claims (.error e) claims') :
    Accord (Claimed v.name claims' job.externalID) true
      (update phase n (.terminated ending)) bound (v'.connection job.externalID)
      (v'.event job.externalID) pending := by
  cases hr with
  | refused =>
    cases hclaim : job.type.claim ending with
    | none =>
      have hsame : claims' = claims := by simpa only [ClaimsLeft, hclaim] using hcl
      rw [hsame]
      exact h.advance hn (not_half hphase hclaim) (by simp [Half, hclaim])
    | some b => exact h.stop hn (by simp [Half, hclaim]) (.inl rfl)
  | decommission _ _ target hty hne =>
    have hclaim : (job.type.claim ending).isSome := by
      rw [hty]
      cases ending <;> simp_all [JobType.claim]
    refine h.stop hn hclaim (.inr ⟨hty, target, ?_⟩)
    rw [← hsane]
    exact update_self _ _ _

end Accord

def View.Distinct (v : View) : Prop :=
  ∀ id id' name, v.name id = some name → v.name id' = some name → id = id'

abbrev Sys.InAccord (s : Sys) : Prop :=
  Accords s.view.name s.st.ext.keyClaims s.failing s.phase s.view.jobs.length s.view

namespace Sys.InAccord

variable {p : Platform} {s s' : Sys}

theorem request {ctx : Ctx} {req : Request} (h : s.InAccord) (hact : Claiming p s (.request ctx req))
    (hcond : NotDecommissioning s (.request ctx req)) (hstep : s.step p (.request ctx req) = some s') :
    s'.InAccord ∧ s'.view.name = s.view.name := by
  have hans : Answers p s.st req ((p.prog ctx.request req).run false s.st).1
      ((p.prog ctx.request req).run false s.st).2.view := Platform.wp_prog rfl req
  have hclaims : ((p.prog ctx.request req).run false s.st).2.ext.keyClaims = s.st.ext.keyClaims :=
    (p.prog_noClaim req).wp
  have hacc := h.answers hans hact.1 hcond hact.2
  have hname := hans.leads.name
  cases hstep
  refine ⟨?_, hname⟩
  simp only [Sys.InAccord, observe, Sys.request, view] at hacc hname ⊢
  rw [hclaims, hname]
  exact hacc

theorem confirm (h : s.InAccord) (hstep : s.step p (.confirm number) = some s') :
    s'.InAccord ∧ s'.view.name = s.view.name := by
  obtain ⟨job, hjob, hphase, hv, hx, ⟨ph, hhalf, hph, hphase'⟩, b, hfailing⟩ :=
    step_confirm_call hstep
  have hn : Pending s.view.jobs s.phase job.externalID number job :=
    ⟨hjob, rfl, by rw [hphase]; simp⟩
  have hpending : PerSystem (fun id c row pending =>
      Accord (Claimed s.view.name s.st.ext.keyClaims id) (s'.failing id) s'.phase
        s.view.jobs.length c row pending) s.phase s.view := by
    intro id
    by_cases hid : id = job.externalID
    · subst hid
      rw [hphase']
      exact (h.each _).advance hn (by rw [hphase]; exact fun h => h) (hhalf _)
    · rw [hfailing, update_of_ne hid]
      refine (h.each id).congr fun m j hm => ?_
      rw [hphase', update_of_ne]
      rintro rfl
      cases hm.listed.symm.trans hjob
      exact hid hm.system.symm
  refine ⟨⟨?_, fun m hm => ?_, le_rfl⟩, by rw [hv]⟩
  · rw [hv, hx]
    nth_rewrite 2 [hphase']
    exact hpending.proceed hn.running hph
  · rw [hv] at hm
    obtain ⟨hlt, -⟩ := List.getElem?_eq_some_iff.1 hjob
    rw [hphase', update_of_ne (by omega)]
    exact h.fresh m hm

theorem others {claims : List (String × String)} {failing : UUID → Bool} {job : Job} {id : UUID}
    (h : s.InAccord) (hjob : s.view.jobs[number]? = some job) (hid : id ≠ job.externalID)
    (hclaims : Claimed s.view.name claims id ↔ Claimed s.view.name s.st.ext.keyClaims id)
    (hfailing : failing id = s.failing id) :
    Accord (Claimed s.view.name claims id) (failing id) (update s.phase number ph)
      s.view.jobs.length (s.view.connection id) (s.view.event id)
      (Pending s.view.jobs (update s.phase number ph) id) := by
  have hne : ∀ m j, s.view.jobs[m]? = some j → j.externalID = id → m ≠ number := by
    rintro m j hm hj rfl
    cases hm.symm.trans hjob
    exact hid hj.symm
  have hpending : Pending s.view.jobs (update s.phase number ph) id =
      Pending s.view.jobs s.phase id := by
    funext m j
    refine propext ⟨fun hm => ⟨hm.listed, hm.system, ?_⟩, fun hm => ⟨hm.listed, hm.system, ?_⟩⟩
    · have hrun := hm.running
      rwa [update_of_ne (hne m j hm.listed hm.system)] at hrun
    · rw [update_of_ne (hne m j hm.listed hm.system)]
      exact hm.running
  rw [hpending, hfailing, propext hclaims]
  exact (h.each id).congr fun m j hm => update_of_ne (hne m j hm.listed hm.system) _ _

theorem finish {ending : Ending} {message : String} (h : s.InAccord) (hnames : s.view.Distinct)
    (hsane : Sane s.view) (hstep : s.step p (.finish number ending message) = some s') :
    s'.InAccord ∧ s'.view.name = s.view.name := by
  obtain ⟨job, res, hjob, hphase, hreact, hcl, hres⟩ := step_call hstep
  have hdata : job.data.systemID = job.externalID := hsane.jobs job (mem_of_getElem? hjob)
  have hname : s'.view.name = s.view.name := hreact.leads.name
  have hjobs : s'.view.jobs = s.view.jobs := hreact.jobs
  obtain ⟨hlt, -⟩ := List.getElem?_eq_some_iff.1 hjob
  have hn : Pending s.view.jobs s.phase job.externalID number job := by
    refine ⟨hjob, rfl, ?_⟩
    rcases hphase with hp | hp <;> simp [hp]
  have hacc := h.each job.externalID
  have hfresh : ∀ ph m, s'.phase = update s.phase number ph → s'.view.jobs.length ≤ m →
      s'.phase m = .created := by
    intro ph m hph hm
    rw [hjobs] at hm
    rw [hph, update_of_ne (by omega)]
    exact h.fresh m hm
  have hothers : ∀ ph, s'.phase = update s.phase number ph →
      (∃ b, s'.failing = update s.failing job.externalID b) → ∀ id, id ≠ job.externalID →
      Accord (Claimed s'.view.name s'.st.ext.keyClaims id) (s'.failing id) s'.phase
        s'.view.jobs.length (s'.view.connection id) (s'.view.event id)
        (Pending s'.view.jobs s'.phase id) := by
    rintro ph hph ⟨b, hb⟩ id hid
    obtain ⟨hconn, hevent⟩ := hreact.others hdata hid
    rw [hname, hconn, hevent, hjobs, hph]
    refine h.others hjob hid (hcl.others hnames hdata hid) ?_
    rw [hb, update_of_ne hid]
  refine ⟨?_, hname⟩
  cases res with
  | ok u =>
    refine ⟨fun id => ?_, fun m hm => hfresh _ m hres.1 hm, le_rfl⟩
    by_cases hid : id = job.externalID
    · subst hid
      rw [hname]
      refine hacc.ended hn hlt hdata hphase hreact hcl fun m j hm => ?_
      rw [hjobs, hres.1] at hm
      have hne : m ≠ number := by
        rintro rfl
        exact hm.running (update_self _ _ _)
      have hrun := hm.running
      rw [update_of_ne hne] at hrun
      exact hne (hacc.single m number j job ⟨hm.listed, hm.system, hrun⟩ hn).1
    · exact hothers _ hres.1 ⟨_, hres.2⟩ id hid
  | error e =>
    refine ⟨fun id => ?_, fun m hm => hfresh _ m hres.1 hm, le_rfl⟩
    by_cases hid : id = job.externalID
    · subst hid
      have hpending : Pending s'.view.jobs s'.phase job.externalID =
          Pending s.view.jobs s.phase job.externalID := by
        rw [hjobs, hres.1]
        exact Pending.proceed_eq hn.running (by simp)
      rw [hname, hpending, hjobs, hres.1, hres.2, update_self]
      exact hacc.interrupted hn hdata hphase hreact hcl
    · exact hothers _ hres.1 ⟨_, hres.2⟩ id hid

end Sys.InAccord

theorem Claiming.modelled {p : Platform} {act : Act} (h : Claiming p s act) :
    Modelled p s act := by
  cases act with
  | workflow => exact h.elim
  | _ => trivial

/-- A tenant with disconnected systems without a claim, before any request. -/
structure Unclaimed (s : Sys) : Prop extends Start s where
  claims : ∀ id, ¬ Claimed s.view.name s.st.ext.keyClaims id
  names : s.view.Distinct
  calls : ∀ id, s.failing id = false

theorem Unclaimed.inAccord (h : Unclaimed s) : s.InAccord := by
  refine ⟨fun id => ?_, fun n _ => h.phase n, le_rfl⟩
  refine .of_end (fun m j hm => ?_) (fun ev hev => ?_) (fun _ _ ev _ hev => ?_) fun x hx => ?_
  · have hl := hm.listed
    rw [h.jobs] at hl
    cases hl
  · rw [h.events id] at hev
    cases hev
  · rw [h.events id] at hev
    cases hev
  · rw [h.systems id x hx]
    exact iff_of_false (h.claims id) (by simp)

theorem Sys.InAccord.of_reach (hstart : Unclaimed s₀)
    (hrun : Reach (fun p s act => Claiming p s act ∧ NotDecommissioning s act) s₀ s) :
    s.InAccord ∧ s.view.Distinct := by
  induction hrun with
  | start => exact ⟨hstart.inAccord, hstart.names⟩
  | step p act hrun ha hstep ih =>
    obtain ⟨hacc, hnames⟩ := ih
    have hkept : ∀ {s s' : Sys}, s'.view.name = s.view.name → s.view.Distinct → s'.view.Distinct := by
      intro s s' hname hd
      unfold View.Distinct
      rw [hname]
      exact hd
    cases act with
    | request ctx req =>
      obtain ⟨h, hname⟩ := hacc.request ha.1 ha.2 hstep
      exact ⟨h, hkept hname hnames⟩
    | workflow => exact ha.1.elim
    | confirm number =>
      obtain ⟨h, hname⟩ := hacc.confirm hstep
      exact ⟨h, hkept hname hnames⟩
    | finish number ending message =>
      have hsane : Sane _ := .of_reach (fun _ _ _ h => h.1.modelled) hstart.toStart hrun
      obtain ⟨h, hname⟩ := hacc.finish hnames hsane hstep
      exact ⟨h, hkept hname hnames⟩

/-- If no system is linked while its decommission has not ended, a system whose last handler call
returned no error has an active claim exactly when it has a key configuration. -/
theorem claim_follows_configuration (s₀ s : Sys) (hstart : Unclaimed s₀)
    (hrun : Reach (fun p s act => Claiming p s act ∧ NotDecommissioning s act) s₀ s)
    (id : UUID) (hcall : s.failing id = false) (status : SystemStatus) (keyConfigID target : Option UUID)
    (h : s.view.connection id = some (status, keyConfigID, target)) :
    Claimed s.view.name s.st.ext.keyClaims id ↔ keyConfigID ≠ none := by
  have hacc := (Sys.InAccord.of_reach hstart hrun).1.each id
  rcases hacc.agrees with hc | ⟨n, job, hn, hhalf⟩
  · exact hc _ h
  · rw [hacc.called n job hn hhalf] at hcall
    cases hcall

instance (v v' : View) : (res : Except Exn Unit) → Decidable (AllOrNothing v v' res)
  | .ok _ => inferInstanceAs (Decidable (∀ job ∈ v'.jobs.drop v.jobs.length,
      job.type ≠ .systemUnlinkDecommission →
      ∃ ev ∈ v'.event job.externalID, ev.type = job.type ∧ ev.data = job.data))
  | .error _ => inferInstanceAs (Decidable (v'.jobs = v.jobs))

instance : (req : Request) → Decidable req.claims
  | .recover _ .cancel => .isFalse id
  | .rotate _ => .isFalse id
  | .recover _ .retry | .recover _ (.other _) => .isTrue trivial
  | .link _ _ | .unlink _ | .decommission _ | .update _ _ => .isTrue trivial

instance (p : Platform) (s : Sys) : (act : Act) → Decidable (Claiming p s act)
  | .request ctx req => inferInstanceAs (Decidable (req.claims ∧
      AllOrNothing s.view ((p.prog ctx.request req).run false s.st).2.view
        ((p.prog ctx.request req).run false s.st).1))
  | .workflow _ _ => .isFalse id
  | .confirm _ | .finish _ _ _ => .isTrue trivial

namespace Sample

theorem unclaimed_fresh : Unclaimed fresh where
  toStart := start_fresh
  claims id h := by
    obtain ⟨_, -, hmem⟩ := h
    cases hmem
  names id id' name h h' := by
    obtain ⟨row, hrow, rfl⟩ := map_eq_some_iff.1 h
    obtain ⟨row', hrow', hname⟩ := map_eq_some_iff.1 h'
    have hrows : ∀ {id : UUID} {row : System}, fresh.st.db.systems.get? id = some row →
        row = system ∨ row = { system with id := 41, identifier := "s2" } := by
      intro id row hrow
      simpa [fresh, jobsDb] using mem_of_get? hrow
    have hid : row.id = id := key_of_get? hrow
    have hid' : row'.id = id' := key_of_get? hrow'
    rw [← hid, ← hid']
    rcases hrows hrow with rfl | rfl <;> rcases hrows hrow' with rfl | rfl <;>
      first | rfl | simp [System.name, system] at hname
  calls _ := rfl

def unreachableAt (k : Nat) : Platform :=
  { platform with
    handlers :=
      { platform.handlers with
        claimFault := fun n => if n = k then some (.foreign "registry") else none
        claimFault_already := fun n e h => by
          split at h
          · cases h
            exact ⟨rfl, rfl⟩
          · cases h } }

/-- The decommission of a linked system fails after it has written the row. The system is linked again
and switched, and only then the decommission clears the claim. -/
def overtaken : List Act :=
  linking ++ ask (.decommission 40) :: ends 1 .done ++ ask (.link 40 30) :: ends 2 .done ++
    [ask (.link 40 31), .confirm 3, .finish 1 .done "E", .finish 3 .done "E"]

end Sample

open Sample in
theorem claim_follows_configuration_linked :
    (after linking).view.connection 40 = some (.connected, some 30, none) ∧
    (Claimed (after linking).view.name (after linking).st.ext.keyClaims 40 ↔
      (some 30 : Option UUID) ≠ none) := by
  have hlink : Claiming platform fresh (ask (.link 40 30)) ∧
      NotDecommissioning fresh (ask (.link 40 30)) :=
    ⟨by decide +kernel, fun n job hn => by cases hn.listed⟩
  have h₁ : Reach (fun p s act => Claiming p s act ∧ NotDecommissioning s act) fresh
      (after [ask (.link 40 30)]) := Reach.start.step platform _ hlink rfl
  have h₂ : Reach (fun p s act => Claiming p s act ∧ NotDecommissioning s act) fresh
      (after ([ask (.link 40 30)] ++ [.confirm 0])) :=
    after_snoc (.confirm 0) h₁ ⟨trivial, trivial⟩ (by decide +kernel)
  have h₃ : Reach (fun p s act => Claiming p s act ∧ NotDecommissioning s act) fresh
      (after linking) := after_snoc (.finish 0 .done "E") h₂ ⟨trivial, trivial⟩ (by decide +kernel)
  have hconn : (after linking).view.connection 40 = some (.connected, some 30, none) := by
    decide +kernel
  exact ⟨hconn, claim_follows_configuration fresh (after linking) unclaimed_fresh h₃ 40
    (by decide +kernel) .connected (some 30) none hconn⟩

open Sample in
/-- Every handler call has returned no error in the end, and a CONNECTED system has no claim. -/
theorem connected_without_claim : Unclaimed fresh ∧
    fresh.Along (unreachableAt 27) Claiming overtaken ∧
    ∃ s ∈ fresh.steps (unreachableAt 27) overtaken,
      (List.range 4).map s.phase = [.ended, .ended, .ended, .ended] ∧ [40, 41].map s.failing = [false, false] ∧
      s.view.connection 40 = some (.connected, some 31, none) ∧ s.view.name 40 = some ("s", "r") ∧
      s.st.ext.keyClaims = [] :=
  ⟨unclaimed_fresh, by decide +kernel, by decide +kernel⟩

end Cmk
