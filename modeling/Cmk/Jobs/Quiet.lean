import Cmk.Jobs.Frames
import Cmk.Jobs.Runs

/-!
# Cmk.Jobs.Quiet

`UpdateKeyConfigurationByID` leaves the workflow component alone.

A switch writes every column of a system, the flag of a workflow among them, from a struct that was
listed before. The rows of a page are those of different systems, so each struct still has the flag
of its row when its turn comes.
-/

namespace Cmk

open Tx Option List Repo

variable {s₀ s : State} {ctx : Ctx}

def OthersKept (id : UUID) (d d' : Db) : Prop :=
  ∀ id', id' ≠ id → d'.systems.get? id' = d.systems.get? id'

instance (id : UUID) : Std.Refl (OthersKept id) := ⟨fun _ _ _ => rfl⟩

instance (id : UUID) : IsTrans Db (OthersKept id) :=
  ⟨fun _ _ _ h h' id' hid => (h' id' hid).trans (h id' hid)⟩

namespace EventFactory

variable (f : EventFactory)

theorem handleSystemStatus_others (hin : ctx.inTx = true) (sys : System) (type : JobType)
    (data : SystemActionJobData) :
    Keeps (OthersKept sys.id) AnyWorld
      (f.handleSystemStatus ctx sys (f.createSystemEventJob ctx type data)) := by
  simp only [handleSystemStatus, transaction_inTx hin, Prog.throw_bind]
  have hpatch : ∀ sys' : System, sys'.id = sys.id →
      Keeps (OthersKept sys.id) AnyWorld (f.repo.patchSystem ctx true sys') :=
    fun sys' hid => exec_keeps fun _ d id' hne =>
      Table.get?_modify_ne (f := systemUpdatesAll sys') (fun _ => rfl) (hid ▸ hne)
  have hjob : Keeps (OthersKept sys.id) AnyWorld (f.createSystemEventJob ctx type data) :=
    .bind (.query (.done _)) fun _ => .call fun _ _ _ => trivial
  exact .bind (.ite (.throw _) ((hpatch { sys with status := .processing } rfl).bind fun _ => hjob))
    fun job => .bind (Keeps.attempt (exec_keeps fun _ _ _ _ => rfl)) fun _ => .pure _

end EventFactory

namespace KeyConfigManager

variable (m : KeyConfigManager) (f : EventFactory)

theorem switchSystems_quiet (hin : ctx.inTx = true) {keyIDTo keyIDFrom : UUID} {items : List System}
    (hs : Quiet s₀ s) (hloaded : ∀ sys ∈ items, Loaded s.db sys)
    (hnd : (items.map System.id).Nodup) :
    (switchSystems f ctx keyIDTo keyIDFrom items).wp true (fun _ => Quiet s₀) s := by
  induction items generalizing s with
  | nil => exact hs
  | cons sys items ih =>
    obtain ⟨hnew, hnd⟩ := nodup_cons.1 hnd
    have hquiet : (f.systemSwitchNewPrimaryKey ctx sys keyIDTo keyIDFrom).wp true
        (fun _ => Quiet s₀) s :=
      f.handleSystemStatus_quiet hin hs (hloaded sys mem_cons_self)
        (f.createSystemEventJob_calm _ _)
    have hothers : (f.systemSwitchNewPrimaryKey ctx sys keyIDTo keyIDFrom).wp true
        (fun _ s' => OthersKept sys.id s.db s'.db) s :=
      ((f.handleSystemStatus_others hin sys _ _).nested s).1
    refine wp_bind_run (fun e s₁ hrun => wp_of_run hquiet hrun) fun job s₁ hrun => ?_
    refine ih (wp_of_run hquiet hrun) (fun sys' hsys' => ?_) hnd
    obtain ⟨row, hrow, hflag⟩ := hloaded sys' (mem_cons_of_mem _ hsys')
    have hne : sys'.id ≠ sys.id := fun h => hnew (h ▸ mem_map_of_mem hsys')
    have hkept : s₁.db.systems.get? sys'.id = s.db.systems.get? sys'.id :=
      wp_of_run hothers hrun _ hne
    exact ⟨row, hkept.trans hrow, hflag⟩

theorem rekeyEvents_calm (newPkey : UUID) (events : List Event) :
    Calm (m.rekeyEvents ctx newPkey events) := by
  induction events with
  | nil => exact .pure _
  | cons ev events ih =>
    refine .bind (exec_keeps fun _ _ => ⟨rfl, rfl, rfl, fun ty _ _ h => ?_⟩) fun _ => ih
    cases ty <;> exact h

theorem processInBatch_quiet {α : Type} {select : Db → List α} {process : List α → M Unit}
    (hs : Quiet s₀ s) (hpage : ∀ (s₁ : State) (items : List α), Quiet s₀ s₁ →
      items.Subperm (select s₁.db) → (process items).wp true (fun _ => Quiet s₀) s₁) :
    (m.repo.processInBatch ctx select process).wp true (fun _ => Quiet s₀) s := by
  have hended : ∀ (res : Except Exn Unit) s', Repo.Ended (Quiet s₀) (Quiet s₀) res s' ↔
      Quiet s₀ s' := by
    intro res s'
    cases res <;> rfl
  refine wp_mono (wp_processInBatch (fun _ _ h => h) (fun _ h _ => h)
    (fun s₁ items h₁ hitems => ?_) hs) fun res s' => (hended res s').1
  exact wp_mono (hpage s₁ items h₁ hitems) fun res s' => (hended res s').2

theorem handleUpdatePrimaryKey_quiet (hin : ctx.inTx = true) {kc : KeyConfiguration} {new : UUID}
    (hs : Quiet s₀ s) :
    (m.handleUpdatePrimaryKey f ctx kc new).wp true (fun _ => Quiet s₀) s := by
  refine wp_handleUpdatePrimaryKey (fun _ _ => hs) (fun _ _ => hs) fun old n _ _ => ?_
  refine wp_state_bind ?_ fun _ s₁ h₁ => ?_
  · exact m.processInBatch_quiet (s := { s with clock := n }) hs fun s₁ events h₁ _ =>
      h₁.calm (m.rekeyEvents_calm new events)
  · refine m.processInBatch_quiet h₁ fun s₂ items h₂ hitems => ?_
    have hcur : Current s₂.view kc.id items := .of_subperm hitems
    refine switchSystems_quiet f hin h₂ (fun sys hsys => ?_) hcur.nodup
    have hmem := (mem_filter.1 (hitems.subset hsys)).1
    exact ⟨sys, get?_key hmem, rfl⟩

theorem patchKeyConfiguration_calm (r : Repo) (kc : KeyConfiguration) :
    Calm (r.patchKeyConfiguration ctx kc) := by
  refine exec_keeps fun _ d => ?_
  split
  · exact refl_of Untouched d
  · exact ⟨rfl, rfl, rfl, fun ty _ _ h => by cases ty <;> exact h⟩

/-- An update inside the transaction of a workflow leaves the workflow component alone. -/
theorem updateKeyConfigurationByID_quiet (hin : ctx.inTx = true) {keyConfigID : UUID}
    {patch : KeyConfigurationPatch} :
    (m.updateKeyConfigurationByID f ctx keyConfigID patch).wp true (fun _ => Quiet s) s := by
  refine wp_updateChecks (fun _ _ => .refl s) fun n kc _ _ => ?_
  rw [transaction_inTx hin]
  have hpatch : ∀ (kc' : KeyConfiguration) (s1 : State), Quiet s s1 →
      (do
        (m.repo.patchKeyConfiguration ctx kc').mapError (.wrap .errUpdateKeyConfiguration)
        return kc' : M KeyConfiguration).wp true (fun _ => Quiet s) s1 := fun kc' s1 h =>
    h.calm (((patchKeyConfiguration_calm m.repo kc').mapError _).bind fun _ => .pure _)
  cases patch.primaryKeyID with
  | none => exact hpatch _ { s with clock := n } (.refl s)
  | some new =>
    simp only [Prog.pure_bind]
    refine wp_state_bind (wp_mapError ?_) fun _ s1 h => hpatch _ s1 h
    exact m.handleUpdatePrimaryKey_quiet f hin (s := { s with clock := n }) (.refl s)

end KeyConfigManager

namespace Sample

/-- The tenant with a second system, a second key configuration and a second key of the first. -/
def jobsDb : Db :=
  { db with
    keyConfigurations :=
      ⟨[{ id := 30, name := "kc", adminGroupID := 10, primaryKeyID := some 20 },
        { id := 31, name := "kc2", adminGroupID := 10, primaryKeyID := some 21 }], by decide⟩
    keys :=
      ⟨[enabledKey 20 30 "k", enabledKey 21 31 "k2",
        enabledKey 22 30 "k3"], by decide⟩
    systems := ⟨[system, { system with id := 41, identifier := "s2" }], by decide⟩ }

/-- The manager whose workflows change primary keys as requests do. -/
def jobManager (prepareJob : Nat → Except Err String) : WorkflowManager :=
  { manager (fun _ => ["a", "b", "c", "i"]) prepareJob with
    keyConfigurationActions :=
      { deleteKeyConfigurationByID := fun _ _ => pure ()
        updatePrimaryKey := fun ctx id keyID => do
          let _ ← keyConfigManager.updateKeyConfigurationByID (eventFactory prepareJob) ctx id
            { primaryKeyID := some keyID }
        delete_keeps := fun _ _ => .pure _
        updatePrimaryKey_quiet := fun _ _ _ _ hin =>
          Prog.wp_state_bind (keyConfigManager.updateKeyConfigurationByID_quiet _ hin)
            fun _ _ h => h } }

/-- Providers that know every key as enabled, with one version. -/
def keystores : Keystores where
  getOrInitProvider _ _ := .ok ()
  needsProvisioning _ := .ok false
  managementAccessData _ := .ok {}
  createKey _ key := .ok ⟨key.name, .pendingImport⟩
  getKey _ id := .ok ⟨id, aes256, .enabled⟩
  getKeyVersions _ _ := .ok [⟨"v1", some 0, "ENABLED"⟩]
  deleteKey _ _ := .ok ()
  enableKey _ _ := .ok ()
  disableKey _ _ := .ok ()
  getCryptoCertificates _ := .ok []
  newPluginProviderTransformer _ _ := .ok ()
  validateKeyAccessData _ _ := .ok ()

def keyManager (f : EventFactory) : KeyManager where
  repo := repo
  eventFactory := f
  user := ⟨repo⟩
  keystores := keystores
  cmkAuditor _ := none
  asyncClient := none

def platformWith (prepareJob : Nat → Except Err String) : Platform where
  workflows := jobManager prepareJob
  keys := keyManager (eventFactory prepareJob)
  handlers :=
    { repo := repo
      claimFault := fun _ => none
      claimFault_already := fun _ _ h => by cases h
      lockSystem := fun _ => .ok ()
      mergeTaskErrors := fun _ => .ok "" }
  updatePrimaryKey _ _ _ := rfl

def platform : Platform := platformWith fun _ => .ok "CREATED"

theorem platform_reliable : platform.Reliable :=
  ⟨⟨fun _ => rfl, fun _ => rfl⟩, ⟨fun _ => rfl, fun _ => rfl⟩, ⟨fun _ => rfl, fun _ => rfl⟩,
    ⟨fun _ => rfl, fun _ => rfl⟩⟩

def fresh : Sys where
  st := ⟨jobsDb, world, 0, []⟩
  phase _ := .created
  ended := []
  promoted := []
  stable := (St.view ⟨jobsDb, world, 0, []⟩).observe fun _ => none

theorem start_fresh : Start fresh where
  systems id c h := by
    obtain ⟨row, hrow, rfl⟩ := map_eq_some_iff.1 h
    have hmem : row = system ∨ row = { system with id := 41, identifier := "s2" } := by
      simpa [fresh, jobsDb] using mem_of_get? hrow
    rcases hmem with rfl | rfl <;> rfl
  events _ := rfl
  jobs := rfl
  phase _ := rfl
  ended := rfl
  promoted := rfl
  stable := rfl

def after (acts : List Act) : Sys := (fresh.steps platform acts).getD fresh

theorem after_reach {allowed : Platform → Sys → Act → Prop} {acts : List Act}
    (h : fresh.Along platform allowed acts) : Reach allowed fresh (after acts) := by
  obtain ⟨s, hs, hrun⟩ := (Reach.start : Reach allowed fresh fresh).of_along h
  rw [after, hs]
  exact hrun

theorem after_step (acts : List Act) (act : Act)
    (h : (fresh.steps platform (acts ++ [act])).isSome) :
    (after acts).step platform act = some (after (acts ++ [act])) := by
  obtain ⟨s', hs'⟩ := isSome_iff_exists.1 h
  rw [after, after, hs', getD_some]
  rw [Sys.steps_append] at hs'
  obtain ⟨s, hs, hs'⟩ := bind_eq_some_iff.1 hs'
  obtain ⟨s1, hs1, hs'⟩ := bind_eq_some_iff.1 hs'
  cases hs'
  rw [hs, getD_some, hs1]

theorem after_snoc {allowed : Platform → Sys → Act → Prop} {acts : List Act} (act : Act)
    (hrun : Reach allowed fresh (after acts)) (ha : allowed platform (after acts) act)
    (h : (fresh.steps platform (acts ++ [act])).isSome) :
    Reach allowed fresh (after (acts ++ [act])) :=
  hrun.step platform act ha (after_step acts act h)

/-- A job runs to its end. -/
def ends (number : Nat) (ending : Ending) : List Act :=
  [.confirm number, .finish number ending "E"]

/-- The admin asks. -/
def ask (req : Request) : Act := .request (as "i") req

/-- A system is linked. -/
def linking : List Act := ask (.link 40 30) :: ends 0 .done

def primaryKey : Key := enabledKey 20 30 "k"

end Sample

end Cmk
