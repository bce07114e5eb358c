import Cmk.Jobs.Requests

/-!
# Cmk.Jobs.Frames

What the requests on systems write: rows of systems and of events, the columns of a key configuration
in an update, and the jobs orbital takes. Whatever none of these touches stays as it is
(`SystemFrame`).
-/

namespace Cmk

open Tx

def AnyDb (_ _ : Db) : Prop := True

instance : Std.Refl AnyDb := ⟨fun _ => trivial⟩

instance : IsTrans Db AnyDb := ⟨fun _ _ _ _ _ => trivial⟩

def AnyWorld (_ _ : World) : Prop := True

instance : Std.Refl AnyWorld := ⟨fun _ => trivial⟩

instance : IsTrans World AnyWorld := ⟨fun _ _ _ _ _ => trivial⟩

/-- The writes of a request on systems keep `R` and `Q`. -/
structure SystemFrame (R : Db → Db → Prop) (Q : World → World → Prop) : Prop where
  systems : ∀ d t p, R d { d with systems := t, systemProperties := p }
  events : ∀ d t, R d { d with events := t }
  job : ∀ x job, Q x { x with jobs := x.jobs ++ [job] }

variable {R : Db → Db → Prop} {Q : World → World → Prop} [Std.Refl R] [Std.Refl Q] {ctx : Ctx}

namespace SystemFrame

variable (hF : SystemFrame R Q)
include hF

theorem patchSystem (r : Repo) (all : Bool) (sys : System) : Keeps R Q (r.patchSystem ctx all sys) :=
  exec_keeps fun _ d => hF.systems d _ _

theorem setEvent (r : Repo) (ev : Event) : Keeps R Q (r.setEvent ctx ev) :=
  exec_keeps fun _ d => hF.events d _

omit [Std.Refl R] in
theorem createJobFor (f : EventFactory) (id : UUID) (type : JobType) (data : SystemActionJobData) :
    Keeps R Q (f.createJobFor id type data) := by
  refine .call fun n d x => ?_
  split
  · exact refl_of Q x
  · exact hF.job x _

omit [Std.Refl R] in
theorem createSystemEventJob (f : EventFactory) (type : JobType) (data : SystemActionJobData) :
    Keeps R Q (f.createSystemEventJob ctx type data) :=
  .bind (.query (.done _)) fun _ => hF.createJobFor f _ _ _

theorem handleSystemStatus (f : EventFactory) (sys : System) (type : JobType)
    (data : SystemActionJobData) :
    Keeps R Q (f.handleSystemStatus ctx sys (f.createSystemEventJob ctx type data)) := by
  simp only [EventFactory.handleSystemStatus, Prog.throw_bind]
  refine .bind (f.repo.transaction_keeps fun ctx => ?_) fun job =>
    .bind (hF.setEvent f.repo _).attempt fun _ => .pure _
  exact .ite (.throw _) (.bind (hF.patchSystem f.repo _ _) fun _ => hF.createSystemEventJob f _ _)

theorem sendEvent (f : EventFactory) (sys : System) (event : SystemEvent) :
    Keeps R Q (f.sendEvent ctx sys event) := by
  refine .bind (.mapError _ ?_) fun _ => .pure _
  cases event with
  | link keyID =>
    cases keyID with
    | none => exact .throw _
    | some id => exact hF.handleSystemStatus f _ _ _
  | unlink keyID =>
    cases keyID with
    | none => exact .throw _
    | some id => exact hF.handleSystemStatus f _ _ _
  | switch keyIDTo keyIDFrom =>
    rcases keyIDTo with _ | idTo
    · exact .throw _
    · rcases keyIDFrom with _ | idFrom
      · exact .throw _
      · exact hF.handleSystemStatus f _ _ _

theorem decommissionSystemAction (m : SystemManager) (systemID : UUID) :
    Keeps R Q (m.decommissionSystemAction ctx systemID) := by
  simp only [SystemManager.decommissionSystemAction, EventFactory.systemUnlinkDecommission,
    Prog.throw_bind]
  refine m.repo.transaction_keeps fun ctx => .bind (.query _) fun a => .ite ?_ (.throw _)
  refine .bind (.query (.done _)) fun keyID => .bind (.mapError _ (.ite (.throw _) ?_)) fun _ => .pure _
  refine .bind (m.eventFactory.repo.transaction_keeps fun ctx => ?_) fun _ =>
    hF.createSystemEventJob m.eventFactory _ _
  exact .bind (hF.patchSystem m.eventFactory.repo _ _) fun _ => .pure _

theorem retrySystemAction (m : SystemManager) (sys : System) :
    Keeps R Q (m.retrySystemAction ctx sys) := by
  simp only [SystemManager.retrySystemAction, Prog.throw_bind]
  refine .ite (.throw _) (.bind (.query _) fun ev => .bind (.mapError _ ?_) fun _ => .pure _)
  refine m.repo.transaction_keeps fun ctx => .ite (.bind (hF.patchSystem m.repo _ _) fun _ => ?_) ?_
  all_goals exact hF.createJobFor m.eventFactory _ _ _

theorem rekeyEvents (m : KeyConfigManager) (newPkey : UUID) (events : List Event) :
    Keeps R Q (m.rekeyEvents ctx newPkey events) := by
  induction events with
  | nil => exact .pure _
  | cons ev events ih =>
    exact .bind (exec_keeps fun _ d => hF.events d _) fun _ => ih

theorem switchSystems (f : EventFactory) (keyIDTo keyIDFrom : UUID) (items : List System) :
    Keeps R Q (KeyConfigManager.switchSystems f ctx keyIDTo keyIDFrom items) := by
  induction items with
  | nil => exact .pure _
  | cons sys items ih => exact .bind (hF.handleSystemStatus f _ _ _) fun _ => ih

theorem handleUpdatePrimaryKey (m : KeyConfigManager) (f : EventFactory) (kc : KeyConfiguration)
    (new : UUID) : Keeps R Q (m.handleUpdatePrimaryKey f ctx kc new) := by
  refine .bind (.query _) fun key => .bind (.query (.done _)) fun _ => ?_
  split
  · exact .pure _
  · refine .bind (.query _) fun key => .bind (.query (.done _)) fun _ => ?_
    exact .bind (m.repo.processInBatch_keeps (hF.rekeyEvents m _)) fun _ =>
      m.repo.processInBatch_keeps (hF.switchSystems f _ _)

theorem rotateSystems (m : KeyManager) (keyID : UUID) (items : List System) :
    Keeps R Q (m.rotateSystems ctx keyID items) := by
  induction items with
  | nil => exact .pure _
  | cons sys items ih =>
    exact .bind (.bind (hF.createSystemEventJob m.eventFactory _ _) fun _ =>
      .bind (hF.setEvent m.eventFactory.repo _).attempt fun _ => .pure _) fun _ => ih

end SystemFrame

end Cmk
