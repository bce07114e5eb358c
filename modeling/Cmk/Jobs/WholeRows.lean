import Cmk.Jobs.Quiet
import Cmk.Tx.Steady

/-!
# Cmk.Jobs.WholeRows

The operations that write a system back as a whole. Requests and job callbacks read the row of a
system, change some of its fields in memory and write every column, the flag `UnderWorkflow` among
them. So they put the flag back as they read it: if the flags they find are in a set `S`, so are
those they write (`Known`).

* `Platform.prog_yields`, `JobHandlers.handle_yields` — this, for every request and callback,
  whatever other calls commit between two of its statements.
-/

namespace Cmk

open Tx Function Prog List

variable {I : Db → Prop}

variable {sys : System}

variable {id : UUID} {S : Option Bool → Prop} {ctx : Ctx} {α : Type}

def FlagIn (id : UUID) (S : Option Bool → Prop) (d : Db) : Prop := S (d.flag .system id)

/-- The struct was read from a row whose flag is in `S`, if it is one of the system. -/
def Known (id : UUID) (S : Option Bool → Prop) (sys : System) : Prop :=
  sys.id = id → S (some sys.underWorkflow)

theorem Known.of_row {d : Db} {i : UUID} (hd : FlagIn id S d) (hrow : d.systems.get? i = some sys) :
    Known id S sys := by
  rintro rfl
  have hid : sys.id = i := key_of_get? hrow
  subst hid
  have hflag : S ((d.systems.get? sys.id).map (·.underWorkflow)) := hd
  rwa [hrow] at hflag

def FlagKept (id : UUID) (d d' : Db) : Prop := d'.flag .system id = d.flag .system id

instance : Std.Refl (FlagKept id) := ⟨fun _ => rfl⟩

instance : IsTrans Db (FlagKept id) := ⟨fun _ _ _ h h' => Eq.trans h' h⟩

theorem FlagKept.flagIn {d d' : Db} (h : FlagIn id S d) (hk : FlagKept id d d') : FlagIn id S d' := by
  rw [FlagIn, hk]
  exact h

theorem yields_of_flagKept {p : M α} (hp : Keeps (FlagKept id) AnyWorld p) :
    p.Yields (FlagIn id S) fun _ => True :=
  .any (.keeps hp fun _ _ => FlagKept.flagIn)

namespace Repo

variable (r : Repo)

theorem query_finds {onFault : Exn → Exn} {f : Nat → Db → Except Exn α} {P : α → Prop}
    (hf : ∀ n d a, I d → f n d = .ok a → P a) :
    (r.query ctx onFault f).Finds I P := by
  refine .ask fun n d a hd ha => ?_
  split at ha
  · cases ha
  · split at ha
    · cases ha
    · cases hr : f n d with
      | error e => rw [hr] at ha; cases ha
      | ok b => rw [hr] at ha; cases ha; exact hf n d _ hd hr

theorem first_finds {select : Db → Option α} {P : α → Prop}
    (hs : ∀ d a, I d → select d = some a → P a) : (r.first ctx select).Finds I P := by
  refine r.query_finds fun n d a hd ha => ?_
  cases hsel : select d with
  | none => rw [hsel] at ha; cases ha
  | some b => rw [hsel] at ha; cases ha; exact hs d _ hd hsel

theorem transaction_yields {P : α → Prop} {txFunc : Ctx → M α} (h : ∀ ctx, (txFunc ctx).Yields I P) :
    (r.transaction ctx txFunc).Yields I P := by
  cases hin : ctx.inTx with
  | true => rw [transaction_inTx hin]; exact h ctx
  | false =>
    rw [transaction_outermost hin]
    exact .mapError _ (.transact (h _))

theorem exec_yields {P : α → Prop} {onFault : Exn → Exn} {f : Nat → Db → Except Exn α × Db}
    (hf : ∀ n d, I d → I (f n d).2 ∧ ∀ a, (f n d).1 = .ok a → P a) :
    (r.exec ctx onFault f).Yields I P := by
  refine .exec fun n d hd => ?_
  split
  · exact ⟨hd, fun _ h => by cases h⟩
  · split
    · exact ⟨hd, fun _ h => by cases h⟩
    · refine ⟨(hf n d hd).1, fun a ha => ?_⟩
      cases hr : (f n d).1 with
      | error e => rw [hr] at ha; cases ha
      | ok b => rw [hr] at ha; cases ha; exact (hf n d hd).2 _ hr

theorem firstSystem_finds (i : UUID) : (r.firstSystem ctx i).Finds (FlagIn id S) (Known id S) :=
  r.first_finds fun _ _ hd hrow => .of_row hd hrow

theorem getSystemByIDWithProperties_finds (i : UUID) :
    (r.getSystemByIDWithProperties ctx i).Finds (FlagIn id S) (Known id S) := by
  simp only [getSystemByIDWithProperties, Query.throw_bind]
  refine .bind (.any _) fun systems _ => ?_
  split
  · exact fun _ h => by cases h
  have hrows : (r.listInBatches ctx (joinSystem · i)).Finds (FlagIn id S)
      fun rows => ∀ row ∈ rows, Known id S row.1 := by
    refine r.query_finds fun n d rows hd hok => ?_
    cases hok
    intro row hrow
    obtain ⟨j, -, hj⟩ := mem_flatMap.1 hrow
    exact .of_row hd (get?_of_mem_joinSystem (page_subset hj))
  refine .bind (hrows.mapError _) fun rows hknown => ?_
  split
  · exact fun _ h => by cases h
  · rename_i sys p rest
    rintro _ ⟨⟩
    exact hknown (sys, p) mem_cons_self

theorem patchSystem_yields (all : Bool) (hsys : Known id S sys) :
    (r.patchSystem ctx all sys).Yields (FlagIn id S) (Known id S) := by
  refine r.exec_yields fun n d hd => ?_
  have hrow : ∀ row, d.systems.get? sys.id = some row → sys.id = id →
      S (some ((if all then systemUpdatesAll sys else systemUpdates sys) row).underWorkflow) := by
    intro row hrow hid
    cases all with
    | true => exact hsys hid
    | false =>
      have hold : S ((d.systems.get? id).map (·.underWorkflow)) := hd
      rw [← hid, hrow] at hold
      change S (some (nonZero false sys.underWorkflow row.underWorkflow))
      rw [nonZero]
      split
      · exact hold
      · exact hsys hid
  constructor
  · change S (Option.map _ _)
    rw [get?_modify]
    by_cases hid : id = sys.id
    · subst hid
      rw [update_self]
      cases hget : d.systems.get? sys.id with
      | none =>
        have hold : S ((d.systems.get? sys.id).map (·.underWorkflow)) := hd
        rwa [hget] at hold
      | some row => exact hrow row hget rfl
    · rw [update_of_ne hid]
      exact hd
  · rintro _ ⟨⟩ hid
    rw [get?_modify, update_self] at hid ⊢
    cases hget : d.systems.get? sys.id with
    | none => rw [hget] at hid; exact hsys hid
    | some row =>
      rw [hget] at hid
      have hkey : row.id = sys.id := key_of_get? hget
      refine hrow row hget (hkey.symm.trans ?_)
      cases all <;> exact hid

theorem processInBatch_yields {β : Type} {select : Db → List β} {P : β → Prop}
    {process : List β → M Unit} (hselect : ∀ d a, I d → a ∈ select d → P a)
    (hprocess : ∀ items, (∀ a ∈ items, P a) → (process items).Yields I fun _ => True) :
    (r.processInBatch ctx select process).Yields I fun _ => True := by
  have hlist : ∀ offset, (r.listPage ctx select offset).Finds I fun a => ∀ x ∈ a.1, P x := by
    intro offset
    refine r.query_finds fun n d a hd hok => ?_
    cases hok
    exact fun x hx => hselect d x hd (page_subset hx)
  have hpage : ∀ offset items next, (∀ a ∈ items, P a) → next.Yields I (fun _ => True) →
      (r.processPage ctx select process offset items next).Yields I fun _ => True :=
    fun offset items next hitems hnext => .bind (hprocess items hitems) fun _ _ =>
      .ite (.pure trivial) (.bind (.query (.any _)) fun _ _ => .ite (.pure trivial) hnext)
  have hfrom : ∀ pages offset,
      (r.processFrom ctx select process pages offset).Yields I fun _ => True := by
    intro pages
    induction pages with
    | zero => exact fun _ => .pure trivial
    | succ pages ih =>
      exact fun offset => .bind (.query (hlist offset)) fun a ha => hpage _ _ _ ha (ih _)
  exact .bind (.query (hlist 0)) fun a ha => hpage _ _ _ ha (hfrom _ _)

end Repo

namespace EventFactory

variable (f : EventFactory)

theorem createSystemEventJob_yields (type : JobType) (data : SystemActionJobData) :
    (f.createSystemEventJob ctx type data).Yields (FlagIn id S) fun _ => True :=
  .bind (.query (.any _)) fun _ _ => .call _

theorem setEvent_yields (ev : Event) :
    (f.repo.setEvent ctx ev).Yields (FlagIn id S) fun _ => True :=
  yields_of_flagKept (exec_keeps fun _ _ => rfl)

theorem handleSystemStatus_yields (hsys : Known id S sys) {eventFn : M Job}
    (hev : eventFn.Yields (FlagIn id S) fun _ => True) :
    (f.handleSystemStatus ctx sys eventFn).Yields (FlagIn id S) fun _ => True := by
  simp only [handleSystemStatus, throw_bind]
  refine .bind (P := fun _ => True) (f.repo.transaction_yields fun ctx => ?_) fun job _ =>
    .bind (f.setEvent_yields _).attempt fun _ _ => .pure trivial
  have hsys' : Known id S { sys with status := .processing } := hsys
  exact .ite (.throw _) (.bind (f.repo.patchSystem_yields true hsys') fun _ _ => hev)

theorem sendEvent_yields (hsys : Known id S sys) (event : SystemEvent) :
    (f.sendEvent ctx sys event).Yields (FlagIn id S) fun _ => True := by
  have hjob : ∀ type data, (f.handleSystemStatus ctx sys
      (f.createSystemEventJob ctx type data)).Yields (FlagIn id S) fun _ => True := fun type data =>
    f.handleSystemStatus_yields hsys (f.createSystemEventJob_yields type data)
  have hderef : ∀ {β : Type} (o : Option UUID) (h : UUID → M β),
      (∀ i, (h i).Yields (FlagIn id S) fun _ => True) →
      ((deref o : Except Exn UUID) >>= h : M β).Yields (FlagIn id S) fun _ => True :=
    fun o h hh => .bind (.query (q := .done _) (.any _)) fun i _ => hh i
  refine .bind (P := fun _ => True) (.mapError _ ?_) fun _ _ => .pure trivial
  cases event with
  | link keyID => exact hderef keyID _ fun _ => hjob _ _
  | unlink keyID => exact hderef keyID _ fun _ => hjob _ _
  | switch keyIDTo keyIDFrom => exact hderef keyIDTo _ fun _ => hderef keyIDFrom _ fun _ => hjob _ _

end EventFactory

namespace SystemManager

variable (m : SystemManager)

theorem getSystemByID_finds (i : UUID) :
    (m.getSystemByID ctx i).Finds (FlagIn id S) (Known id S) :=
  (m.repo.getSystemByIDWithProperties_finds i).mapError _

theorem linkSystemChecks_finds (i keyConfigID : UUID) :
    (m.linkSystemChecks ctx i keyConfigID).Finds (FlagIn id S) fun a => Known id S a.1 := by
  simp only [linkSystemChecks, Query.throw_bind]
  refine .bind (m.getSystemByID_finds i) fun sys hsys => ?_
  have hrest : (do
      let keyConfig ← (m.repo.firstKeyConfiguration ctx keyConfigID).mapError
        (.wrap .errGettingKeyConfigByID)
      let _ ← m.keyConfigManager.canConnectSystems ctx keyConfig
      if sys.status = .processing ∨ sys.status = .failed then
        throw (.of .errLinkSystemProcessingOrFailed)
      else pure (sys, keyConfig) : Q (System × KeyConfiguration)).Finds (FlagIn id S)
        fun a => Known id S a.1 := by
    refine .bind (.any _) fun kc _ => .bind (.any _) fun _ _ => ?_
    split
    · exact fun _ h => by cases h
    · rintro _ ⟨⟩
      exact hsys
  split
  · exact .bind (.any _) fun _ _ => hrest
  · exact hrest

theorem unlinkSystemChecks_finds (i : UUID) :
    (m.unlinkSystemChecks ctx i).Finds (FlagIn id S) fun a => Known id S a.1 := by
  simp only [unlinkSystemChecks, Query.throw_bind]
  refine .bind ((m.repo.firstSystem_finds i).mapError _) fun sys hsys => ?_
  split
  · exact fun _ h => by cases h
  · split
    · exact fun _ h => by cases h
    · refine .bind (.any _) fun _ _ => .bind (.any _) fun _ _ => ?_
      split
      · exact fun _ h => by cases h
      · rintro _ ⟨⟩
        exact hsys

theorem linkSystemAction_yields (i keyConfigID : UUID) :
    (m.linkSystemAction ctx i keyConfigID).Yields (FlagIn id S) fun _ => True := by
  refine .mapError _ (m.repo.transaction_yields fun ctx => ?_)
  refine .bind (.query (m.linkSystemChecks_finds i keyConfigID)) fun a ha => ?_
  have hsys : Known id S { a.1 with targetKeyConfigurationID := some a.2.id } := ha
  refine .bind (P := fun b => Known id S b.1) ?_ ?_
  · exact .bind (m.repo.patchSystem_yields false hsys) fun sys hsys =>
      .bind (.query (.any _)) fun _ _ => .pure hsys
  · rintro ⟨sys, event⟩ hb
    exact m.eventFactory.sendEvent_yields hb event

theorem unlinkSystemAction_yields (i : UUID) :
    (m.unlinkSystemAction ctx i).Yields (FlagIn id S) fun _ => True := by
  refine m.repo.transaction_yields fun ctx => ?_
  refine .bind (.query (m.unlinkSystemChecks_finds i)) fun a ha => ?_
  exact .ite (m.eventFactory.sendEvent_yields ha _) (.throw _)

theorem decommissionSystemAction_yields (i : UUID) :
    (m.decommissionSystemAction ctx i).Yields (FlagIn id S) fun _ => True := by
  simp only [decommissionSystemAction, EventFactory.systemUnlinkDecommission, throw_bind]
  refine m.repo.transaction_yields fun ctx => ?_
  refine .bind (.query (m.unlinkSystemChecks_finds i)) fun a ha => .ite ?_ (.throw _)
  have hsys : Known id S { a.1 with status := .processing } := ha
  refine .bind (.query (q := .done _) (.any _)) fun keyID _ => ?_
  refine .bind (P := fun _ => True) (.mapError _ (.ite (.throw _) ?_)) fun _ _ => .pure trivial
  refine .bind (P := fun _ => True) (m.eventFactory.repo.transaction_yields fun ctx => ?_)
    fun _ _ => m.eventFactory.createSystemEventJob_yields _ _
  exact .bind (m.eventFactory.repo.patchSystem_yields true hsys) fun _ _ => .pure trivial

theorem retrySystemAction_yields (hsys : Known id S sys) :
    (m.retrySystemAction ctx sys).Yields (FlagIn id S) fun _ => True := by
  simp only [retrySystemAction, throw_bind]
  refine .ite (.throw _) (.bind (.query (.any _)) fun ev _ => ?_)
  refine .bind (P := fun _ => True) (.mapError _ ?_) fun _ _ => .pure trivial
  have hsys' : Known id S { sys with status := .processing } := hsys
  refine m.repo.transaction_yields fun ctx =>
    .ite (.bind (m.repo.patchSystem_yields false hsys') fun _ _ => ?_) ?_
  all_goals exact .call _

theorem sendRecoveryActions_yields (i : UUID) (action : SystemRecoveryActionBodyAction) :
    (m.sendRecoveryActions ctx i action).Yields (FlagIn id S) fun _ => True := by
  refine .bind (.query (m.getSystemByID_finds i)) fun sys hsys => ?_
  refine .bind (.query (.any _)) fun _ _ => ?_
  cases action with
  | cancel =>
    refine .bind (.query (.any _)) fun ev _ => yields_of_flagKept (exec_keeps fun _ d => ?_)
    change Option.map _ _ = Option.map _ _
    rw [get?_modify]
    by_cases hid : id = i
    · subst hid
      rw [update_self, Option.map_map]
      rfl
    · rw [update_of_ne hid]
  | retry => exact m.retrySystemAction_yields hsys
  | other => exact .throw _

end SystemManager

namespace KeyConfigManager

variable (m : KeyConfigManager) (f : EventFactory)

theorem switchSystems_yields (keyIDTo keyIDFrom : UUID) {items : List System}
    (hitems : ∀ sys ∈ items, Known id S sys) :
    (switchSystems f ctx keyIDTo keyIDFrom items).Yields (FlagIn id S) fun _ => True := by
  induction items with
  | nil => exact .pure trivial
  | cons sys items ih =>
    obtain ⟨hsys, hitems⟩ := forall_mem_cons.1 hitems
    exact .bind (f.handleSystemStatus_yields hsys (f.createSystemEventJob_yields _ _))
      fun _ _ => ih hitems

theorem handleUpdatePrimaryKey_yields (kc : KeyConfiguration) (new : UUID) :
    (m.handleUpdatePrimaryKey f ctx kc new).Yields (FlagIn id S) fun _ => True := by
  refine .bind (.query (.any _)) fun _ _ => .bind (.query (q := .done _) (.any _)) fun _ _ => ?_
  split
  · exact .pure trivial
  · refine .bind (.query (.any _)) fun _ _ => .bind (.query (q := .done _) (.any _)) fun _ _ => ?_
    refine .bind (yields_of_flagKept (m.repo.processInBatch_keeps fun events => ?_)) fun _ _ => ?_
    · induction events with
      | nil => exact .pure _
      | cons ev events ih => exact .bind (exec_keeps fun _ _ => rfl) fun _ => ih
    · exact m.repo.processInBatch_yields
        (fun d sys hd hsys => .of_row hd (get?_key (mem_filter.1 hsys).1))
        fun items hitems => switchSystems_yields f _ _ hitems

theorem updateKeyConfigurationByID_yields (keyConfigID : UUID) (patch : KeyConfigurationPatch) :
    (m.updateKeyConfigurationByID f ctx keyConfigID patch).Yields (FlagIn id S) fun _ => True := by
  simp only [updateKeyConfigurationByID, throw_bind]
  refine .bind (.query (.any _)) fun _ _ => .bind (.query (.any _)) fun kc _ => .ite (.throw _) ?_
  refine m.repo.transaction_yields fun ctx => ?_
  have hpatch : ∀ kc' : KeyConfiguration, (do
      (m.repo.patchKeyConfiguration ctx kc').mapError (.wrap .errUpdateKeyConfiguration)
      return kc' : M KeyConfiguration).Yields (FlagIn id S) fun _ => True := by
    intro kc'
    refine .bind (yields_of_flagKept (.mapError _ (exec_keeps fun _ d => ?_))) fun _ _ =>
      .pure trivial
    split <;> exact rfl
  cases patch.primaryKeyID with
  | none => exact hpatch _
  | some new =>
    simp only [pure_bind]
    exact .bind (.mapError _ (m.handleUpdatePrimaryKey_yields f _ new)) fun _ _ => hpatch _

end KeyConfigManager

theorem KeyManager.handleSystemsOnKeyRotation_yields (m : KeyManager) (key : Key) :
    (m.handleSystemsOnKeyRotation ctx key).Yields (FlagIn id S) fun _ => True := by
  refine yields_of_flagKept (m.repo.processInBatch_keeps fun items => ?_)
  induction items with
  | nil => exact .pure _
  | cons sys items ih =>
    refine .bind (.bind (.bind (.query (.done _)) fun _ => .call fun _ _ _ => trivial) fun _ => ?_)
      fun _ => ih
    exact .bind (Keeps.attempt (exec_keeps fun _ _ => rfl)) fun _ => .pure _

namespace Platform

theorem prog_yields (p : Platform) (req : Request) :
    (p.prog ctx req).Yields (FlagIn id S) fun _ => True := by
  cases req with
  | link i keyConfigID => exact p.systems.linkSystemAction_yields i keyConfigID
  | unlink i => exact p.systems.unlinkSystemAction_yields i
  | decommission i => exact p.systems.decommissionSystemAction_yields i
  | update keyConfigID patch =>
    exact .bind (p.keyConfigurations.updateKeyConfigurationByID_yields p.eventFactory keyConfigID patch)
      fun _ _ => .pure trivial
  | rotate key => exact p.keys.handleSystemsOnKeyRotation_yields key
  | recover i action => exact p.systems.sendRecoveryActions_yields i action

end Platform

namespace JobHandlers

variable (h : JobHandlers) (job : Job)

theorem updateSystem_yields (hsys : Known id S sys) :
    (h.updateSystem ctx sys).Yields (FlagIn id S) fun _ => True :=
  .bind (.mapError _ (h.repo.patchSystem_yields true hsys)) fun _ _ => .pure trivial

theorem cleanUpEvent_yields : (h.cleanUpEvent ctx job).Yields (FlagIn id S) fun _ => True :=
  yields_of_flagKept (.mapError _ (exec_keeps fun _ _ => rfl))

theorem sendL1KeyClaim_yields (sys : System) (keyClaim : Bool) :
    (h.sendL1KeyClaim sys keyClaim).Yields (FlagIn id S) fun _ => True := by
  refine .bind (P := fun _ => True) (.any ?_) fun r _ => ?_
  · exact .attempt (Prog.Steady.mono (Prog.Yields.call _) fun _ _ => trivial)
  · split
    · exact .pure trivial
    · exact .ite (.pure trivial) (.throw _)

theorem connectSystem_yields (hsys : Known id S sys) (key : Key) :
    (h.connectSystem ctx job sys key).Yields (FlagIn id S) fun _ => True := by
  refine h.repo.transaction_yields fun ctx => ?_
  have hsys' : Known id S { sys with
      status := .connected
      keyConfigurationID := some key.keyConfigurationID
      targetKeyConfigurationID := none } := hsys
  exact .bind (h.updateSystem_yields hsys') fun _ _ => h.cleanUpEvent_yields job

theorem failSystem_yields (message : Q String) :
    (h.failSystem job message).Yields (FlagIn id S) fun _ => True := by
  refine .bind (.query (h.repo.firstSystem_finds _).attempt) fun r hr => ?_
  cases r with
  | error e => exact .ite (.pure trivial) (.throw _)
  | ok sys =>
    have hsys : Known id S { sys with status := .failed } := hr sys rfl
    refine .bind (.query (.any _)) fun msg _ => h.repo.transaction_yields fun ctx => ?_
    exact .bind (yields_of_flagKept (exec_keeps fun _ _ => rfl)) fun _ _ =>
      h.updateSystem_yields hsys

theorem terminate_yields : (h.terminate job).Yields (FlagIn id S) fun _ => True := by
  refine .bind (.query (h.repo.firstSystem_finds _)) fun sys hsys => ?_
  have hsys' : Known id S { sys with status := .disconnected, keyConfigurationID := none } := hsys
  exact .bind (h.updateSystem_yields hsys') fun _ _ => h.sendL1KeyClaim_yields _ _

theorem done_yields : (h.handleJobDoneEvent job).Yields (FlagIn id S) fun _ => True := by
  have hswitch : (h.switchDone job).Yields (FlagIn id S) fun _ => True :=
    .bind (.query (h.repo.firstSystem_finds _)) fun sys hsys =>
      .bind (.query (.any _)) fun key _ => h.connectSystem_yields job hsys key
  unfold handleJobDoneEvent
  split
  · exact .bind (.query (h.repo.firstSystem_finds _)) fun sys hsys =>
      .bind (h.sendL1KeyClaim_yields _ _) fun _ _ =>
        .bind (.query (.any _)) fun key _ => h.connectSystem_yields job hsys key
  · refine .bind (.query (h.repo.firstSystem_finds _)) fun sys hsys =>
      .bind (h.sendL1KeyClaim_yields _ _) fun _ _ => h.repo.transaction_yields fun ctx => ?_
    have hsys' : Known id S { sys with status := .disconnected, keyConfigurationID := none } := hsys
    exact .bind (h.updateSystem_yields hsys') fun _ _ => h.cleanUpEvent_yields job
  · exact hswitch
  · exact hswitch
  · exact .mapError _ (h.terminate_yields job)
  · refine .bind (.query (.any _)) fun r _ => ?_
    cases r with
    | error e => exact .ite (h.cleanUpEvent_yields job) (.throw _)
    | ok sys => exact .mapError _ (h.cleanUpEvent_yields job)

theorem failed_yields (errorMessage : String) :
    (h.handleJobFailedEvent job errorMessage).Yields (FlagIn id S) fun _ => True := by
  unfold handleJobFailedEvent
  split
  · refine .bind (.query (.any _)) fun _ _ => ?_
    refine .bind (Prog.Yields.attempt (P := fun _ => True) ?_) fun _ _ =>
      .mapError _ (h.terminate_yields job)
    exact .bind (.query (.any _)) fun _ _ => .mapError _ (.call _)
  · refine .bind (.query (.any _)) fun _ _ => .ite (h.cleanUpEvent_yields job) ?_
    exact h.failSystem_yields job _
  · exact h.failSystem_yields job _

theorem canceled_yields (errorMessage : String) :
    (h.handleJobCanceledEvent job errorMessage).Yields (FlagIn id S) fun _ => True := by
  unfold handleJobCanceledEvent
  split
  · refine .bind (.query (h.repo.firstSystem_finds _)) fun sys hsys => ?_
    have hsys' : Known id S { sys with status := .failed } := hsys
    exact h.updateSystem_yields hsys'
  · exact h.cleanUpEvent_yields job
  · exact h.failSystem_yields job _

theorem handle_yields (ending : Ending) (errorMessage : String) :
    (h.handle job ending errorMessage).Yields (FlagIn id S) fun _ => True := by
  cases ending with
  | done => exact h.done_yields job
  | failed => exact h.failed_yields job errorMessage
  | canceled => exact h.canceled_yields job errorMessage

end JobHandlers

end Cmk
