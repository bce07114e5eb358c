import Cmk.Jobs.Promotion

/-!
# Cmk.Jobs.Callbacks

The job handlers as deeds.

`Reacts v job ending res v'` says what the handler of `job` makes of `v` when the job ends. A handler
that returns an error has done nothing, except for a decommission, which disconnects the system
before it calls the registry. Orbital calls a handler again until it returns no error.
-/

namespace Cmk

open Tx Function Option Db Repo Prog

variable {v v' : View} {job : Job} {res : Except Exn Unit} {id : UUID} {row sys : System}
  {P : Post Unit} {d : Db} {k n : Nat} {errorMessage : String}

variable {ctx : Ctx} {s s' : State} {i : Bool}

/-- How a job ends. -/
inductive Ending where
  | done | failed | canceled
  deriving DecidableEq, Repr

namespace JobHandlers

variable (h : JobHandlers) (job : Job)

/-- The event handler orbital calls, with the error message of the job. -/
def handle (ending : Ending) (errorMessage : String) : M Unit :=
  match ending with
  | .done => h.handleJobDoneEvent job
  | .failed => h.handleJobFailedEvent job errorMessage
  | .canceled => h.handleJobCanceledEvent job errorMessage

end JobHandlers

def JobType.connects : JobType → Bool
  | .systemLink | .systemSwitch | .systemSwitchNewPK => true
  | .systemUnlink | .systemUnlinkDecommission | .systemKeyRotate => false

inductive Reacts (v : View) (job : Job) : Ending → Except Exn Unit → View → Prop where
  | refused (ending : Ending) (e : Exn) : Reacts v job ending (.error e) v
  | connect (keyConfigID : UUID) : job.type.connects → (Deed.connect job keyConfigID).Enabled v →
      Reacts v job .done (.ok ()) ((Deed.connect job keyConfigID).apply v)
  | unlink (target : Option UUID) : job.type = .systemUnlink →
      (Deed.disconnect job target true).Enabled v →
      Reacts v job .done (.ok ()) ((Deed.disconnect job target true).apply v)
  | decommission (ending : Ending) (res : Except Exn Unit) (target : Option UUID) :
      job.type = .systemUnlinkDecommission → ending ≠ .canceled →
      (Deed.disconnect job target false).Enabled v →
      Reacts v job ending res ((Deed.disconnect job target false).apply v)
  | rotated (ending : Ending) : job.type = .systemKeyRotate →
      Reacts v job ending (.ok ()) ((Deed.clean job).apply v)
  | fail (ending : Ending) (keyConfigID target : Option UUID) (error : Option (String × String)) :
      ending ≠ .done → (job.type = .systemUnlinkDecommission → ending = .canceled) →
      (job.type = .systemKeyRotate → ending = .failed) →
      (Deed.fail job keyConfigID target error).Enabled v →
      Reacts v job ending (.ok ()) ((Deed.fail job keyConfigID target error).apply v)
  /-- The system of a failed job is gone. -/
  | missing (ending : Ending) : ending ≠ .done → job.type ≠ .systemUnlinkDecommission →
      v.connection job.data.systemID = none → Reacts v job ending (.ok ()) v

theorem Reacts.jobs {ending : Ending} (hr : Reacts v job ending res v') : v'.jobs = v.jobs := by
  cases hr with
  | fail _ kcID target error => cases error <;> rfl
  | _ => rfl

theorem Reacts.error_view {ending : Ending} {e : Exn} (hr : Reacts v job ending (.error e) v')
    (hty : job.type ≠ .systemUnlinkDecommission) :
    v' = v := by
  cases hr with
  | refused => rfl
  | decommission _ _ _ h => exact absurd h hty

/-- The deeds of a handler. -/
def Reacted (job : Job) (ending : Ending) (_ : View) : Deed → Prop
  | .connect job' _ => job' = job ∧ job.type.connects ∧ ending = .done
  | .disconnect job' _ cleaned => job' = job ∧
      if cleaned then job.type = .systemUnlink ∧ ending = .done
      else job.type = .systemUnlinkDecommission ∧ ending ≠ .canceled
  | .clean job' => job' = job ∧ job.type = .systemKeyRotate
  | .fail job' _ _ _ => job' = job ∧ ending ≠ .done
  | _ => False

theorem Reacts.leads {ending : Ending} (hr : Reacts v job ending res v') :
    Leads (Reacted job ending) v v' := by
  cases hr with
  | refused | missing => exact .refl
  | connect kcID hty hen => exact .single ⟨rfl, hty, rfl⟩ hen
  | unlink target hty hen => exact .single ⟨rfl, hty, rfl⟩ hen
  | decommission _ _ target hty hne hen => exact .single ⟨rfl, hty, hne⟩ hen
  | rotated _ hty =>
    have hok : Reacted job ending v (.clean job) := ⟨rfl, hty⟩
    exact .single hok trivial
  | fail _ kcID target error hne _ _ hen => exact .single ⟨rfl, hne⟩ hen

theorem Reacts.others {ending : Ending} (hr : Reacts v job ending res v')
    (hsane : job.data.systemID = job.externalID) (hid : id ≠ job.externalID) :
    v'.connection id = v.connection id ∧ v'.event id = v.event id := by
  have hid' : id ≠ job.data.systemID := by rwa [hsane]
  cases hr with
  | refused | missing => exact ⟨rfl, rfl⟩
  | connect kcID => exact ⟨update_of_ne hid' _ _, update_of_ne hid _ _⟩
  | unlink target => exact ⟨update_of_ne hid' _ _, update_of_ne hid _ _⟩
  | decommission _ _ target => exact ⟨update_of_ne hid' _ _, rfl⟩
  | rotated => exact ⟨rfl, update_of_ne hid _ _⟩
  | fail _ kcID target error =>
    exact ⟨by rw [Deed.fail_connection, update_of_ne hid'], Deed.fail_event_of_ne hid⟩

theorem Reacts.mapError {ending : Ending} {w : Exn → Exn} (hr : Reacts v job ending res v') :
    Reacts v job ending (res.mapError w) v' := by
  cases hr with
  | refused _ e => exact .refused _ _
  | connect kcID hty hen => exact .connect kcID hty hen
  | unlink target hty hen => exact .unlink target hty hen
  | decommission _ _ target hty hne hen => exact .decommission _ _ target hty hne hen
  | rotated _ hty => exact .rotated _ hty
  | fail _ kcID target error hne hd hrot hen => exact .fail _ kcID target error hne hd hrot hen
  | missing _ hne hd hnone => exact .missing _ hne hd hnone

theorem Repo.wp_patchSystem_view {P : Post System} {r : Repo} (all : Bool)
    (hrow : s.db.systems.get? sys.id = some row) (hname : sys.name = row.name)
    (hrefused : ∀ e s', s'.view = s.view → P (.error e) s')
    (hdone : ∀ a s', s'.view = s.view.setConnection sys.id (patchedSystem all sys row).connection →
      P (.ok a) s') :
    (r.patchSystem ctx all sys).wp i P s := by
  refine wp_exec_any (fun e s' _ hd hx => hrefused _ _ (view_congr hd hx)) fun s' _ hd hx => ?_
  refine hdone _ s' ?_
  have hc : s'.db.connection = update s.db.connection sys.id
      (some (patchedSystem all sys row).connection) := by
    funext id
    rw [connection, hd]
    refine (congrArg (·.map System.connection) (congrFun (get?_modify (fun _ => ?_)) id)).trans ?_
    · cases all <;> rfl
    · rw [hrow]
      by_cases hid : id = sys.id
      · subst hid
        cases all <;> simp [patchedSystem]
      · simp [hid, connection]
  have hn : s'.db.name = s.db.name := by
    funext id
    rw [name, hd]
    refine (congrArg (·.map System.name) (congrFun (get?_modify (fun _ => ?_)) id)).trans ?_
    · cases all <;> rfl
    · rw [hrow, map_some]
      by_cases hid : id = sys.id
      · subst hid
        rw [update_self, map_some, name, hrow, map_some]
        refine congrArg some (Eq.trans ?_ (patchedSystem_name all hname))
        cases all <;> rfl
      · rw [update_of_ne hid, name]
  rw [St.view, hn, hc, hd, hx]
  rfl

namespace JobHandlers

variable {h : JobHandlers} {job : Job}

theorem wp_updateSystem {c : Connection} (hconn : s.view.connection sys.id = some c)
    (hname : s.view.name sys.id = some sys.name)
    (hrefused : ∀ e s', s'.view = s.view → P (.error e) s')
    (hdone : ∀ s', s'.view = s.view.setConnection sys.id sys.connection → P (.ok ()) s') :
    (h.updateSystem ctx sys).wp i P s := by
  obtain ⟨row, hrow, -⟩ := map_eq_some_iff.1 hconn
  rw [view_name, name, hrow, map_some] at hname
  exact wp_bind (wp_mapError (wp_patchSystem_view true hrow (Option.some.inj hname).symm
    (fun _ s' hv => hrefused _ s' hv) fun _ s' hv => hdone s' hv))

theorem wp_cleanUpEvent (hrefused : ∀ e s', s'.view = s.view → P (.error e) s')
    (hdone : ∀ s', s'.view = s.view.clean job → P (.ok ()) s') :
    (h.cleanUpEvent ctx job).wp i P s := by
  refine wp_mapError (wp_exec_any (fun e s' _ hd hx => hrefused _ _ (view_congr hd hx))
    fun s' _ hd hx => hdone s' (view_events hd hx ?_))
  cases hev : s.db.events.get? job.externalID with
  | none => simp [hev]
  | some ev =>
    by_cases hty : ev.type = job.type
    · simp [hev, hty, Table.get?_delete, filter_some]
    · simp [hev, hty, filter_some]

theorem wp_updateEventError {message : String}
    (hrefused : ∀ e s', s'.view = s.view → P (.error e) s')
    (hdone : ∀ code text s', s'.view = s.view.note job code text → P (.ok ()) s') :
    (h.updateEventError ctx job message).wp i P s :=
  wp_exec_any (fun _ _ _ hd hx => hrefused _ _ (view_congr hd hx))
    fun s' _ hd hx => hdone (parseOrbitalError message).code (parseOrbitalError message).message s'
      (view_events hd hx (get?_modify _))

theorem wp_sendL1KeyClaim {claim : Bool} (hdone : ∀ res s', s'.view = s.view → P res s') :
    (h.sendL1KeyClaim sys claim).wp i P s := by
  refine wp_bind (wp_attempt ?_)
  have hcall : ((h.updateSystemL1KeyClaim sys claim).run i s).2.view = s.view := by
    unfold updateSystemL1KeyClaim
    rw [run_call]
    cases h.claimFault s.clock with
    | some e => rfl
    | none =>
      simp only
      split
      · rfl
      · split <;> rfl
  unfold wp
  cases ((h.updateSystemL1KeyClaim sys claim).run i s).1 with
  | ok u => exact hdone _ _ hcall
  | error e =>
    simp only
    split
    · exact hdone _ _ hcall
    · exact hdone _ _ hcall

theorem connection_firstSystem (hs : (h.repo.firstSystem ctx id).eval d n = (.ok sys, k)) :
    sys.id = id ∧ d.name id = some sys.name ∧ d.connection id = some sys.connection := by
  have hrow : d.systems.get? id = some sys := (eval_first_ok hs).1
  refine ⟨key_of_get? hrow, ?_, ?_⟩
  · rw [name, hrow, map_some]
  · rw [connection, hrow, map_some]

theorem getKeyByKeyID_ok {keyID : Option UUID} {key : Key}
    (hk : (h.getKeyByKeyID ctx keyID).eval d n = (.ok key, k)) :
    keyID = some key.id ∧ d.keys.get? key.id = some key := by
  cases keyID with
  | none => cases hk
  | some keyID =>
    have hrow : d.keys.get? keyID = some key := (eval_first_ok (eval_mapError_ok hk)).1
    have hid : key.id = keyID := key_of_get? hrow
    exact ⟨by rw [hid], hid ▸ hrow⟩

theorem wp_connectSystem (hty : job.type.connects) (hid : sys.id = job.data.systemID)
    (hname : s.view.name job.data.systemID = some sys.name)
    (hconn : s.view.connection job.data.systemID = some sys.connection) :
    (do
      let key ← (h.getKeyByKeyID (tenantContext job) job.data.keyIDTo).mapError
        (.errorf "failed to get key config ID")
      h.connectSystem (tenantContext job) job sys key : M Unit).wp false (fun res s' =>
        Reacts s.view job .done res s'.view) s := by
  refine wp_query_bind (fun _ _ _ => .refused _ _) fun key n hkey => ?_
  obtain ⟨hto, hkey⟩ := getKeyByKeyID_ok (eval_mapError_ok hkey)
  have hen : (Deed.connect job key.keyConfigurationID).Enabled s.view :=
    ⟨⟨_, hconn⟩, key, hkey, hto, rfl⟩
  refine wp_transaction_view (P := fun res v' => Reacts s.view job .done res v') rfl ?_
  refine wp_bind (wp_updateSystem (hid ▸ hconn) (hid ▸ hname)
    (fun e s1 hv => ⟨nofun, fun _ e => ?_⟩)
    fun s1 hv => ?_)
  · rw [hv]
    exact .refused _ _
  · refine wp_cleanUpEvent (fun e s2 hv2 => ⟨nofun, fun _ e => ?_⟩) fun s2 hv2 => ⟨fun _ _ => ?_,
      fun _ e => ?_⟩
    · rw [hv2, hv]
      exact .refused _ _
    · rw [hv2, hv, hid]
      exact .connect _ hty hen
    · rw [hv2, hv]
      exact .refused _ _

theorem wp_linkDone (hty : job.type.connects) :
    (h.linkDone job).wp false (fun res s' => Reacts s.view job .done res s'.view) s := by
  refine wp_query_bind (fun _ _ _ => .refused _ _) fun sys n hsys => ?_
  obtain ⟨hid, hname, hconn⟩ := connection_firstSystem hsys
  refine wp_bind (wp_sendL1KeyClaim fun res s1 hv => ?_)
  have hv : s1.view = s.view := hv
  rw [← hv]
  cases res with
  | error e => exact .refused _ _
  | ok u => exact wp_connectSystem hty hid (by rw [hv]; exact hname) (by rw [hv]; exact hconn)

theorem wp_switchDone (hty : job.type.connects) :
    (h.switchDone job).wp false (fun res s' => Reacts s.view job .done res s'.view) s := by
  refine wp_query_bind (fun _ _ _ => .refused _ _) fun sys n hsys => ?_
  obtain ⟨hid, hname, hconn⟩ := connection_firstSystem hsys
  exact wp_connectSystem (s := { s with clock := n }) hty hid hname hconn

theorem wp_unlinkDone (hty : job.type = .systemUnlink) :
    (h.unlinkDone job).wp false (fun res s' => Reacts s.view job .done res s'.view) s := by
  refine wp_query_bind (fun _ _ _ => .refused _ _) fun sys n hsys => ?_
  obtain ⟨hid, hname, hconn⟩ := connection_firstSystem hsys
  refine wp_bind (wp_sendL1KeyClaim fun res s1 hv => ?_)
  have hv : s1.view = s.view := hv
  have hname : s1.view.name job.data.systemID = some sys.name := by rw [hv]; exact hname
  have hconn : s1.view.connection job.data.systemID = some sys.connection := by rw [hv]; exact hconn
  rw [← hv]
  cases res with
  | error e => exact .refused _ _
  | ok u =>
    refine wp_transaction_view (P := fun res v' => Reacts s1.view job .done res v') rfl ?_
    refine wp_bind (wp_updateSystem (hid ▸ hconn) (hid ▸ hname)
      (fun e s2 hv2 => ⟨nofun, fun _ e => ?_⟩) fun s2 hv2 => ?_)
    · rw [hv2]
      exact .refused _ _
    · refine wp_cleanUpEvent (fun e s3 hv3 => ⟨nofun, fun _ e => ?_⟩) fun s3 hv3 => ⟨fun _ _ => ?_,
        fun _ e => ?_⟩
      · rw [hv3, hv2]
        exact .refused _ _
      · rw [hv3, hv2, hid]
        exact .unlink _ hty ⟨_, _, hconn⟩
      · rw [hv3, hv2]
        exact .refused _ _

theorem wp_terminate (ending : Ending) (hty : job.type = .systemUnlinkDecommission)
    (hending : ending ≠ .canceled) :
    (h.terminate job).wp false (fun res s' => Reacts s.view job ending res s'.view) s := by
  refine wp_query_bind (fun _ _ _ => .refused _ _) fun sys n hsys => ?_
  obtain ⟨hid, hname, hconn⟩ := connection_firstSystem hsys
  refine wp_bind (wp_updateSystem (hid ▸ hconn) (hid ▸ hname) (fun e s1 hv => ?_)
    fun s1 hv => ?_)
  · rw [hv]
    exact .refused _ _
  · refine wp_sendL1KeyClaim fun res s2 hv2 => ?_
    rw [hv2, hv, hid]
    exact .decommission _ _ _ hty hending ⟨_, _, hconn⟩

theorem firstSystem_notFound {e : Exn} (hs : (h.repo.firstSystem ctx id).eval d n = (.error e, k))
    (he : e.is .errNotFound = true) :
    d.connection id = none := by
  cases hrow : d.systems.get? id with
  | none => rw [connection, hrow, map_none]
  | some sys =>
    have hfound := eval_first_error hrow hs
    rw [he] at hfound
    cases hfound

theorem wp_failSystem (ending : Ending) {message : Q String} (hending : ending ≠ .done)
    (hdecom : job.type ≠ .systemUnlinkDecommission)
    (hrotate : job.type = .systemKeyRotate → ending = .failed) :
    (h.failSystem job message).wp false (fun res s' => Reacts s.view job ending res s'.view) s := by
  refine wp_query_attempt_bind fun r n hr => ?_
  cases r with
  | error e =>
    simp only
    split
    · rename_i he
      exact .missing _ hending hdecom (firstSystem_notFound hr he)
    · exact .refused _ _
  | ok sys =>
    obtain ⟨hid, hname, hconn⟩ := connection_firstSystem hr
    refine wp_query_bind (fun _ _ _ => .refused _ _) fun text k _ => ?_
    refine wp_transaction_view (P := fun res v' => Reacts s.view job ending res v') rfl ?_
    refine wp_bind (wp_updateEventError (fun e s1 hv => ⟨nofun, fun _ e => ?_⟩)
      fun code text s1 hv => ?_)
    · rw [hv]
      exact .refused _ _
    · have hconn1 : s1.view.connection sys.id = some sys.connection := by
        rw [hv, hid]
        exact hconn
      have hname1 : s1.view.name sys.id = some sys.name := by
        rw [hv, hid]
        exact hname
      refine wp_updateSystem hconn1 hname1 (fun e s2 hv2 => ⟨nofun, fun _ e => ?_⟩)
        fun s2 hv2 => ⟨fun _ _ => ?_, fun _ e => ?_⟩
      · rw [hv2, hv]
        exact .refused _ _
      · rw [hv2, hv, hid]
        exact .fail ending sys.keyConfigurationID sys.targetKeyConfigurationID (some (code, text))
          hending (fun h => absurd h hdecom) hrotate ⟨_, hconn⟩
      · rw [hv2, hv]
        exact .refused _ _

theorem wp_decommissionFailed (hty : job.type = .systemUnlinkDecommission) :
    (h.decommissionFailed job).wp false (fun res s' => Reacts s.view job .failed res s'.view) s := by
  have hterminate : ∀ s1 : State, s1.view = s.view →
      ((h.terminate job).mapError (.errorf "failed to handle job failed event")).wp false
        (fun res s' => Reacts s.view job .failed res s'.view) s1 := by
    intro s1 hv
    rw [← hv]
    exact wp_mapError (wp_mono (wp_terminate .failed hty nofun)
      fun _ _ hr => hr.mapError)
  refine wp_query_attempt_bind fun _ n _ => ?_
  refine wp_bind (wp_attempt ?_)
  refine wp_query_bind (fun _ _ _ => hterminate _ rfl) fun _ _ _ => ?_
  exact wp_mapError (hterminate _ rfl)

theorem wp_decommissionCanceled (hty : job.type = .systemUnlinkDecommission) :
    (h.decommissionCanceled job).wp false (fun res s' =>
      Reacts s.view job .canceled res s'.view) s := by
  refine wp_query_bind (fun _ _ _ => .refused _ _) fun sys n hsys => ?_
  obtain ⟨hid, hname, hconn⟩ := connection_firstSystem hsys
  refine wp_updateSystem (hid ▸ hconn) (hid ▸ hname) (fun e s1 hv => ?_) fun s1 hv => ?_
  · rw [hv]
    exact .refused _ _
  · rw [hv, hid]
    exact .fail .canceled sys.keyConfigurationID sys.targetKeyConfigurationID none nofun
      (fun _ => rfl) (fun h => by rw [hty] at h; cases h) ⟨_, hconn⟩

theorem wp_rotated (ending : Ending) (hty : job.type = .systemKeyRotate) :
    (h.cleanUpEvent ctx job).wp i (fun res s' => Reacts s.view job ending res s'.view) s := by
  refine wp_cleanUpEvent (fun e s' hv => ?_) fun s' hv => ?_
  · rw [hv]
    exact .refused _ _
  · rw [hv]
    exact .rotated _ hty

theorem wp_rotateDone (hty : job.type = .systemKeyRotate) :
    (h.rotateDone job).wp false (fun res s' => Reacts s.view job .done res s'.view) s := by
  refine wp_query_attempt_bind fun r n _ => ?_
  cases r with
  | error e =>
    simp only
    split
    · exact wp_rotated (s := { s with clock := n }) .done hty
    · exact .refused _ _
  | ok sys =>
    exact wp_mapError (wp_mono (wp_rotated (s := { s with clock := n }) .done hty)
      fun _ _ hr => hr.mapError)

theorem wp_rotateFailed (hty : job.type = .systemKeyRotate) :
    (h.rotateFailed job errorMessage).wp false (fun res s' =>
      Reacts s.view job .failed res s'.view) s := by
  refine wp_query_attempt_bind fun r n _ => ?_
  have hend : ∀ mismatch : Bool, (if mismatch then h.cleanUpEvent (tenantContext job) job
      else h.terminateFailedSystemJob job errorMessage).wp false (fun res s' =>
        Reacts s.view job .failed res s'.view) { s with clock := n } := by
    intro mismatch
    cases mismatch with
    | true => exact wp_rotated (s := { s with clock := n }) .failed hty
    | false =>
      exact wp_failSystem (s := { s with clock := n }) .failed nofun (by rw [hty]; nofun)
        fun _ => rfl
  exact hend _

theorem wp_handleJobDoneEvent :
    (h.handleJobDoneEvent job).wp false (fun res s' => Reacts s.view job .done res s'.view) s := by
  unfold handleJobDoneEvent
  split
  · rename_i hty; exact wp_linkDone (by rw [hty]; rfl)
  · rename_i hty; exact wp_unlinkDone hty
  · rename_i hty; exact wp_switchDone (by rw [hty]; rfl)
  · rename_i hty; exact wp_switchDone (by rw [hty]; rfl)
  · rename_i hty
    exact wp_mapError (wp_mono (wp_terminate .done hty nofun)
      fun _ _ hr => hr.mapError)
  · rename_i hty; exact wp_rotateDone hty

theorem wp_handleJobFailedEvent :
    (h.handleJobFailedEvent job errorMessage).wp false (fun res s' =>
      Reacts s.view job .failed res s'.view) s := by
  unfold handleJobFailedEvent
  split
  · rename_i hty; exact wp_decommissionFailed hty
  · rename_i hty; exact wp_rotateFailed hty
  · rename_i hdecom hrotate
    exact wp_failSystem _ nofun hdecom fun hty => absurd hty hrotate

theorem wp_handleJobCanceledEvent :
    (h.handleJobCanceledEvent job errorMessage).wp false (fun res s' =>
      Reacts s.view job .canceled res s'.view) s := by
  unfold handleJobCanceledEvent
  split
  · rename_i hty; exact wp_decommissionCanceled hty
  · rename_i hty; exact wp_rotated .canceled hty
  · rename_i hdecom hrotate
    exact wp_failSystem _ nofun hdecom fun hty => absurd hty hrotate

theorem wp_handle (ending : Ending) (errorMessage : String) :
    (h.handle job ending errorMessage).wp false (fun res s' =>
      Reacts s.view job ending res s'.view) s := by
  cases ending with
  | done => exact wp_handleJobDoneEvent
  | failed => exact wp_handleJobFailedEvent
  | canceled => exact wp_handleJobCanceledEvent

end JobHandlers

end Cmk
