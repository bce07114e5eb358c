import Cmk.Calls
import Cmk.Tx.Thread

/-!
# Cmk.Interleave

Calls of the workflow component that interleave. A call reads its workflow before its transaction
and writes it back without looking again, so what it does is right only if the row is still as it was
read (`Call.Unchanged`). Under this condition, and if no transaction is interrupted, every commit is a
`Move`, as it is for calls run one after the other: `Call.obeys` for one call, `Undisturbed.moves` for
any number of them.
-/

namespace Cmk

open Tx Repo WorkflowManager Keeps List

variable {R : Effect Db World} {id : UUID} {p : WorkflowProcessor}

/-- The row of a workflow is as it was in the stores read before. -/
def SameRow (id : UUID) (seen : List Db) (d : Db) : Prop :=
  ∀ d₀ ∈ seen, d.workflows.get? id = d₀.workflows.get? id

instance (id : UUID) (seen : List Db) (d : Db) : Decidable (SameRow id seen d) :=
  inferInstanceAs (Decidable (∀ d₀ ∈ seen, d.workflows.get? id = d₀.workflows.get? id))

namespace Call

/-- What a call relies on when its transaction begins, given the stores it has read: that its
artifact has no ongoing workflow, or that its workflow is as it was read. -/
def Unchanged : Call → List Db → Db → Prop
  | createWorkflow _ req, _, d => Repo.ongoing d req.artifactType req.artifactID = []
  | autoAssignApprovers _ id, seen, d => SameRow id seen d
  | transitionWorkflow _ id _, seen, d => SameRow id seen d
  | expireWorkflow _ id, seen, d => SameRow id seen d
  | processTask _ payload, seen, d => ∀ id, payload.data = some id → SameRow id seen d

instance (c : Call) (seen : List Db) (d : Db) : Decidable (c.Unchanged seen d) :=
  match c with
  | createWorkflow _ _ => inferInstanceAs (Decidable (_ = []))
  | autoAssignApprovers _ _ => inferInstanceAs (Decidable (SameRow ..))
  | transitionWorkflow _ _ _ => inferInstanceAs (Decidable (SameRow ..))
  | expireWorkflow _ _ => inferInstanceAs (Decidable (SameRow ..))
  | processTask _ payload =>
    match h : payload.data with
    | none => .isTrue fun id hid => by rw [h] at hid; cases hid
    | some id => decidable_of_iff (SameRow id seen d) (by simp [Unchanged, h])

/-- What is known of the moves of a call, whatever other calls have committed since it began. `Q` is
what holds of every store in which it begins a transaction. -/
def shared (p : WorkflowProcessor) (Q : Db → Prop) (c : Call) : Guard where
  create d wf := Repo.ongoing d wf.artifactType wf.artifactID = []
  vote t ids wf rows := ∃ ctx u d n m, c = .transitionWorkflow ctx wf.id t ∧ Q d ∧
    d.workflows.get? wf.id = some wf ∧
    (p.updater.fetchEligibilityForVote ctx.tx wf t).eval d n = (.ok ids, m) ∧
    rows = (Repo.approversOf d wf.id).map (castVote u (t = .approve))
  abort wf := ∃ ctx id t, c = .transitionWorkflow ctx id t ∧ p.updater.Aborts ctx.request wf
  fail _ wf := ∃ ctx payload, c = .processTask ctx payload ∧ payload.data = some wf.id

end Call

section

variable {I : Db → Prop} {B : List Db → Db → Prop} {G : Guard} {seen : List Db} {ctx : Ctx} {α β : Type}

theorem Repo.transaction_single (r : Repo) (hout : ctx.inTx = false) (txFunc : Ctx → M α) :
    Prog.Single (r.transaction ctx txFunc) := by
  rw [transaction_outermost hout]
  exact (Prog.Single.transact _ _).mapError _

theorem Repo.first_one (r : Repo) (select : Db → Option α) : (r.first ctx select).One := .ask _

theorem around_move (d : Db) (x : World) (o : Option Db) (x' : World)
    (h : Frame Untouched SameLog d x o x') : Move G d x o x' :=
  .around h

namespace WorkflowManager

variable {w : WorkflowManager} {wf : Workflow} {t : Transition} {u : String}

theorem read_bind {q : Q α} {h : α → M β}
    (hh : ∀ seen a, Prog.Obeys I B R seen (h a) fun _ _ => True) :
    Prog.Obeys I B R seen (liftM q >>= h) fun _ _ => True := by
  refine .bind ((Prog.Obeys.query (.any _)).mono fun seen r _ => ?_)
  cases r with
  | error e => trivial
  | ok a => exact hh seen a

theorem createWorkflowTransitionNotificationTask_obeys (hR : ∀ d x x', SameLog x x' → R d x none x')
    (names : List String) :
    Prog.Obeys I B R seen (w.createWorkflowTransitionNotificationTask ctx wf t names)
      fun _ _ => True := by
  unfold createWorkflowTransitionNotificationTask
  split
  · trivial
  refine read_bind fun seen tenant => read_bind fun seen idm => ?_
  split
  · trivial
  refine read_bind fun seen created => ?_
  split
  · refine .call fun n d x _ => ⟨hR _ _ _ ?_, trivial⟩
    split <;> exact rfl
  · trivial

theorem notify_obeys (hR : ∀ d x x', SameLog x x' → R d x none x')
    {recipients : IdentityManagement → Q (List String)} :
    Prog.Obeys I B R seen (do
      let idm ← w.identityManagement
      let names ← recipients idm
      let _ ← (w.createWorkflowTransitionNotificationTask ctx wf t names).attempt
      return wf : M Workflow) fun _ _ => True := by
  refine read_bind fun seen idm => read_bind fun seen names => .bind (.attempt ?_)
  refine (createWorkflowTransitionNotificationTask_obeys hR names).mono fun seen r _ => ?_
  cases r <;> trivial

theorem transitionWorkflow_obeys_of (hR : ∀ d x x', SameLog x x' → R d x none x')
    (htx : ∀ u wf d seen, ctx.tenant ≠ "" → d ∈ seen → d.workflows.get? id = some wf → wf.id = id →
      Prog.Obeys I B R seen (w.applyTransition ctx u wf t) fun _ _ => True) :
    Prog.Obeys I B R [] (w.transitionWorkflow ctx id t) fun _ _ => True := by
  unfold transitionWorkflow
  refine .bind ?_
  cases ctx.extractUserIdentifier with
  | error e => trivial
  | ok u =>
    refine .bind (.query_one ((first_one _ _).mapError _) fun n d r m hd he => ?_)
    cases r with
    | error e => trivial
    | ok a =>
      obtain ⟨wf, approvers⟩ := a
      obtain ⟨hrow, rfl, htenant, -⟩ := firstWorkflowWithApprovers_ok he
      refine .bind ((htx u wf d _ htenant mem_cons_self hrow rfl).mono fun seen' r _ => ?_)
      cases r with
      | error e => trivial
      | ok wf' => exact notify_obeys hR

theorem applyTransition_obeys {Q : Db → Prop} {d : Db} (ctx : Ctx)
    (hB : ∀ seen d, B seen d → Q d ∧ SameRow wf.id seen d) (hd : d ∈ seen)
    (hrow : d.workflows.get? wf.id = some wf) :
    Prog.Obeys WellFormed B (Move ((Call.transitionWorkflow ctx wf.id t).shared p Q)) seen
      (p.updater.applyTransition ctx.request u wf t) fun _ _ => True := by
  refine .single ((transaction_single _ rfl _).mapError _) fun s hs hBs => ?_
  obtain ⟨hQ, hsame⟩ := hB _ _ hBs
  have hrow' : s.db.workflows.get? wf.id = some wf := (hsame d hd).trans hrow
  by_cases ht : t.isVote
  · refine wp_mono (applyTransition_vote rfl ht hs hrow') fun _ s' h => ⟨?_, trivial⟩
    rcases h with h | ⟨hc, hlog, wf', ids, n, hids, hcast⟩
    · exact .world h.db h.commits (.around ⟨nofun, h.log⟩)
    · exact .commit (.vote hcast ⟨ctx, u, s.db, _, n, rfl, hQ, hrow', hids, hcast.vote.rows⟩ hlog) hc
  · have habort : p.updater.Aborts ctx.request wf →
        ((Call.transitionWorkflow ctx wf.id t).shared p Q).abort wf := fun h => ⟨ctx, wf.id, t, rfl, h⟩
    exact wp_mono (applyTransition_finish rfl ht hs hrow' habort) fun _ s' h => ⟨h, trivial⟩

theorem transitionWorkflow_obeys {Q : Db → Prop} (ctx : Ctx)
    (hB : ∀ seen d, B seen d → Q d ∧ SameRow id seen d) :
    Prog.Obeys WellFormed B (Move ((Call.transitionWorkflow ctx id t).shared p Q)) []
      (p.updater.transitionWorkflow ctx.request id t) fun _ _ => True := by
  refine transitionWorkflow_obeys_of (fun _ _ _ h => .around ⟨nofun, h⟩) ?_
  rintro u wf d seen - hd hrow rfl
  exact applyTransition_obeys ctx hB hd hrow

theorem expireWorkflow_obeys {Q : Db → Prop} (ctx : Ctx)
    (hB : ∀ seen d, B seen d → Q d ∧ SameRow id seen d) :
    Prog.Obeys WellFormed B (Move ((Call.expireWorkflow ctx id).shared p Q)) []
      (p.updater.expireWorkflow ctx.request id) fun _ _ => True := by
  refine .bind (.query_one ((first_one _ _).mapError _) fun n d r m hd he => ?_)
  cases r with
  | error e => trivial
  | ok wf =>
    have hrow := (eval_first_ok (eval_mapError_ok he)).1
    obtain rfl : wf.id = id := key_of_get? hrow
    refine .single (transaction_single _ rfl _) fun s hs hBs => ?_
    have hrow' := ((hB _ _ hBs).2 d mem_cons_self).trans hrow
    exact wp_mono (expireTx_tick rfl hs hrow') fun _ s' h => ⟨h, trivial⟩

theorem calm_bind {p : M α} {h : α → M β} {P : Except Exn β → Prop} (hp : Calm p)
    (herr : ∀ e, P (.error e)) (hok : ∀ seen a, Prog.Obeys I B (Move G) seen (h a) fun _ => P) :
    Prog.Obeys I B (Move G) seen (p >>= h) fun _ => P :=
  .keeps_bind around_move hp (fun _ e _ => herr e) fun seen' a _ => hok seen' a

theorem getMinimumApprovals_obeys :
    Prog.Obeys I B (Move G) seen (w.getMinimumApprovals ctx) fun _ r => ∀ m, r = .ok m → 1 ≤ m := by
  refine calm_bind (errValue_keeps (w.tenantConfigManager.getWorkflowConfig_configures ctx).calm)
    (fun e m h => by cases h) fun seen' r => ?_
  cases r with
  | error e => intro m h; cases h; decide
  | ok c => intro m h; cases h; split <;> omega

def Renamed (wf : Workflow) (r : Except Exn Workflow) : Prop :=
  ∀ wf', r = .ok wf' → SameWorkflow wf wf' ∧ wf'.state = wf.state

theorem Renamed.error (e : Exn) : Renamed wf (.error e) := fun _ h => by cases h

theorem Renamed.ok {wf' : Workflow} (h : SameWorkflow wf wf') (hst : wf'.state = wf.state) :
    Renamed wf (.ok wf') := by
  intro _ heq
  cases heq
  exact ⟨h, hst⟩

theorem populateArtifact_obeys :
    Prog.Obeys I B (Move G) seen (w.populateArtifact ctx wf) fun _ => Renamed wf := by
  have hnamed : ∀ name, Renamed wf (.ok { wf with artifactName := name }) := fun _ =>
    .ok ⟨rfl, rfl, rfl, rfl, rfl, rfl⟩ rfl
  unfold populateArtifact
  split
  · exact calm_bind (Syncs.calm (w.keyManager.get_keeps ctx _)) Renamed.error fun _ _ => hnamed _
  · exact calm_bind (query _) Renamed.error fun _ _ => hnamed _
  · exact calm_bind (query _) Renamed.error fun _ _ => hnamed _
  · exact Renamed.ok (.refl _) rfl

theorem populateParametersResource_obeys :
    Prog.Obeys I B (Move G) seen (w.populateParametersResource ctx wf) fun _ => Renamed wf := by
  have hnamed : ∀ ty name, Renamed wf
      (.ok { wf with parametersResourceType := ty, parametersResourceName := name }) := fun _ _ =>
    .ok ⟨rfl, rfl, rfl, rfl, rfl, rfl⟩ rfl
  unfold populateParametersResource
  split
  · refine calm_bind (query (.done _)) Renamed.error fun _ _ => ?_
    exact calm_bind (Syncs.calm (w.keyManager.get_keeps ctx _)) Renamed.error fun _ _ => hnamed _ _
  · refine calm_bind (query (.done _)) Renamed.error fun _ _ => ?_
    exact calm_bind (query _) Renamed.error fun _ _ => hnamed _ _
  · refine calm_bind (query (.done _)) Renamed.error fun _ _ => ?_
    exact calm_bind (query _) Renamed.error fun _ _ => hnamed _ _
  · exact Renamed.ok (.refl _) rfl

theorem createWorkflow_obeys {req : Workflow} (ctx : Ctx)
    (hB : ∀ seen d, B seen d → ongoing d req.artifactType req.artifactID = [])
    (hG : ∀ d wf, ongoing d wf.artifactType wf.artifactID = [] → G.create d wf) :
    Prog.Obeys I B (Move G) [] (w.createWorkflow ctx.request req) fun _ _ => True := by
  unfold createWorkflow
  simp only [Prog.throw_bind]
  refine .bind (getMinimumApprovals_obeys.mono fun seen r hr => ?_)
  cases r with
  | error e => trivial
  | ok m =>
    have hm : 1 ≤ m := hr m rfl
    refine calm_bind (w.checkWorkflow_calm _ _) (fun _ => trivial) fun seen status => ?_
    split
    · trivial
    cases status.errDetails with
    | some e => trivial
    | none =>
      refine .bind (populateArtifact_obeys.mono fun seen r hr => ?_)
      cases r with
      | error e => trivial
      | ok wf1 =>
        obtain ⟨hsame1, hst1⟩ := hr wf1 rfl
        refine .bind (populateParametersResource_obeys.mono fun seen r hr => ?_)
        cases r with
        | error e => trivial
        | ok wf2 =>
          obtain ⟨hsame2, hst2⟩ := hr wf2 rfl
          have hsame := hsame1.trans hsame2
          have hm2 : 1 ≤ wf2.minimumApprovalCount := hsame.minimumApprovalCount ▸ hm
          refine .single ((transaction_single _ rfl _).mapError _) fun s hs hBs => ?_
          refine wp_storeWorkflow (P := fun s' => Tick (Move G) s s' ∧ True) rfl (by omega)
            (fun s' h => ⟨.world h.db h.commits (.around ⟨nofun, h.log⟩), trivial⟩) ?_
          intro wf' s' hcreated hsame3 hst3 hlog hc
          have hall := hsame.trans hsame3
          refine ⟨.commit (.create hcreated (by rw [hst3, hst2, hst1])
            (hsame3.minimumApprovalCount ▸ hm2) (hG _ _ ?_) hlog) hc, trivial⟩
          rw [hall.artifactType, hall.artifactID]
          exact hB _ _ hBs

theorem calmEnd_obeys {p : M α} {seen0 : List Db} (hp : Calm p) (hsub : seen0 ⊆ seen) :
    Prog.Obeys I B (Move G) seen p fun seen' _ => seen0 ⊆ seen' :=
  (Prog.Obeys.keeps around_move hp).mono fun _ _ h => List.Subset.trans hsub h

theorem autoAssignApprovers_obeys (hout : ctx.inTx = false)
    (hB : ∀ seen d, B seen d → SameRow id seen d) :
    Prog.Obeys WellFormed B (Move G) seen (w.autoAssignApprovers ctx id)
      fun seen' _ => seen ⊆ seen' := by
  refine .bind (.query_one ((first_one _ _).mapError _) fun n d r m hd he => ?_)
  have hcons : seen ⊆ d :: seen := subset_cons_self _ _
  cases r with
  | error e => exact hcons
  | ok wf =>
    have hrow := (eval_first_ok (eval_mapError_ok he)).1
    obtain rfl : wf.id = id := key_of_get? hrow
    refine .keeps_bind around_move (w.getKeyConfigurationsFromArtifact_syncs ctx wf).calm
      (fun _ _ h => List.Subset.trans hcons h) fun seen1 kcs hsub1 => ?_
    refine .bind ((Prog.Obeys.query (getApproversAndGroupsFromKeyConfigs_returns wf kcs)).mono
      fun seen2 r hr => ?_)
    have hsub2 : d :: seen ⊆ seen2 := List.Subset.trans hsub1 hr.1
    cases r with
    | error e => exact List.Subset.trans hcons hsub2
    | ok a =>
      obtain ⟨users, groups⟩ := a
      have husers := (hr.2 _ rfl).2
      refine .bind (.single (((transaction_single _ hout _).mapError _).mapError _) fun s hs hBs => ?_)
      have hrow' := (hB _ _ hBs d (hsub2 mem_cons_self)).trans hrow
      have hm := (hs _ _ hrow').1
      refine wp_mapError (wp_addApproversAndGroupAssociations hout hrow' (by omega) ?_ ?_)
      · exact fun e s' h => ⟨.world h.db h.commits (.around ⟨nofun, h.log⟩), List.Subset.trans hcons hsub2⟩
      · intro wf' s' hassign _ hlog hc
        refine ⟨.commit (.assign hassign husers hlog) hc, ?_⟩
        refine calmEnd_obeys ?_ (List.Subset.trans hcons hsub2)
        exact .bind (.query _) fun _ => .bind (.query _) fun names =>
          .bind (attempt (w.createWorkflowTransitionNotificationTask_calm ctx wf' _ names))
            fun _ => .pure _

end WorkflowManager

namespace WorkflowProcessor

variable {p : WorkflowProcessor} {id : UUID}

theorem putWorkflowInFailedState_obeys {reason : String} (hout : ctx.inTx = false)
    (hB : ∀ seen d, B seen d → SameRow id seen d) (hG : ∀ d wf, wf.id = id → G.fail d wf) :
    Prog.Obeys WellFormed B (Move G) seen (p.putWorkflowInFailedState ctx id reason)
      fun _ _ => True := by
  refine .bind (.query_one (first_one _ _) fun n d r m hd he => ?_)
  cases r with
  | error e => trivial
  | ok wf =>
    have hrow := (eval_first_ok he).1
    obtain rfl : wf.id = id := key_of_get? hrow
    refine .single (transaction_single _ hout _) fun s hs hBs => ?_
    have hrow' := (hB _ _ hBs d mem_cons_self).trans hrow
    exact wp_mono (failedStateTx_tick hout hs hrow' (hG _ _ rfl)) fun _ s' h => ⟨h, trivial⟩

theorem processTask_obeys {payload : TaskPayload} (hout : ctx.inTx = false)
    (hB : ∀ id, payload.data = some id → ∀ seen d, B seen d → SameRow id seen d)
    (hG : ∀ d wf, payload.data = some wf.id → G.fail d wf) :
    Prog.Obeys WellFormed B (Move G) [] (p.processTask ctx payload) fun _ _ => True := by
  unfold processTask
  split
  · trivial
  rename_i id hid
  have hfailed : ∀ seen reason, Prog.Obeys WellFormed B (Move G) seen
      (p.putWorkflowInFailedState (injectContext ctx payload) id reason).attempt
      fun _ _ => True := fun seen reason =>
    .attempt (putWorkflowInFailedState_obeys hout (hB id hid) fun d wf h => hG d wf (h ▸ hid))
  have hassign : Prog.Obeys WellFormed B (Move G) []
      (p.updater.autoAssignApprovers (injectContext ctx payload) id) _ :=
    autoAssignApprovers_obeys hout (hB id hid)
  refine .bind (.attempt (hassign.mono fun seen r _ => ?_))
  rcases r with (e | _) | wf
  · refine .bind ((hfailed seen _).mono fun _ r _ => ?_)
    cases r <;> trivial
  · refine .bind ((hfailed seen _).mono fun _ r _ => ?_)
    cases r <;> trivial
  · trivial

end WorkflowProcessor

end

/-- A call whose transactions begin as it relies on makes only moves under its shared guard. -/
theorem Call.obeys {Q : Db → Prop} (c : Call) :
    (c.prog p).Obeys WellFormed (fun seen d => Q d ∧ c.Unchanged seen d) (Move (c.shared p Q)) []
      fun _ _ => True := by
  have hreturn : ∀ {α : Type} (q : M α), q.Obeys WellFormed (fun seen d => Q d ∧ c.Unchanged seen d)
      (Move (c.shared p Q)) [] (fun _ _ => True) → Prog.Obeys WellFormed
      (fun seen d => Q d ∧ c.Unchanged seen d) (Move (c.shared p Q)) [] (do let _ ← q : M Unit)
      fun _ _ => True := by
    intro α q hq
    refine .bind (hq.mono fun seen r _ => ?_)
    cases r <;> trivial
  cases c with
  | createWorkflow ctx req =>
    exact hreturn _ (createWorkflow_obeys ctx (fun _ _ h => h.2) fun _ _ h => h)
  | autoAssignApprovers ctx id =>
    refine hreturn _ ((autoAssignApprovers_obeys rfl ?_).mono fun _ _ _ => trivial)
    exact fun _ _ h => h.2
  | transitionWorkflow ctx id t =>
    exact hreturn _ (transitionWorkflow_obeys ctx fun _ _ h => h)
  | expireWorkflow ctx id =>
    exact hreturn _ (expireWorkflow_obeys ctx fun _ _ h => h)
  | processTask ctx payload =>
    exact WorkflowProcessor.processTask_obeys rfl (fun id hid _ _ h => h.2 id hid)
      fun d wf h => ⟨ctx, payload, rfl, h⟩

/-- Calls that interleave, no transaction interrupted, each transaction begun in a store that meets
`Q` and in which nothing has changed that the call relies on. -/
def Undisturbed {ι : Type} [DecidableEq ι] (p : WorkflowProcessor) (Q : Db → Prop) (calls : ι → Call)
    (s₀ : St Db World) : Pool ι Db World Exn → Prop :=
  Pool.Interleaved (Pool.Orderly fun i seen d => Q d ∧ (calls i).Unchanged seen d)
    (Pool.start (fun i => (calls i).prog p) s₀)

theorem Undisturbed.moves {ι : Type} [DecidableEq ι] {Q : Db → Prop} {calls : ι → Call} {s0 : State}
    {c : Pool ι Db World Exn} (hrun : Undisturbed p Q calls s0 c) (hwell : WellFormed s0.db) :
    ∃ s, Reach (fun d x o x' => ∃ i, Move ((calls i).shared p Q) d x o x') s0 s ∧ s.db = c.st.db ∧
      s.commits = c.st.commits ∧ ((∀ i, (c.threads i).inTx = false) → s = c.st) :=
  Pool.sound (fun i => (calls i).obeys) (fun _ _ _ _ _ hd hmove => hd.move hmove) hwell hrun

end Cmk
