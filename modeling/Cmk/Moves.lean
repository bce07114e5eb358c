import Cmk.Spec.Admission

/-!
# Cmk.Moves

What a call of the workflow component does to the committed store. Each call makes at most one
transaction of its own (`processTask` two); around it there are only changes that leave the
workflow component alone. `Move` lists what the transactions can do, and is the only thing the
invariants have to look at.

A `Guard` says what is known when a workflow is stored, a vote is cast, a task fails or an action
is executed in a transaction that does not commit. The conditions under which a property holds
enter there.
-/

namespace Cmk

open Tx WorkflowManager Query

variable {P : State → Prop}

variable {s s' : State} {wf wf' : Workflow} {u : String}

structure Guard where
  /-- A workflow is stored. -/
  create : Db → Workflow → Prop
  /-- A vote is cast; the rows are those after it. -/
  vote : Transition → Option (List String) → Workflow → List WorkflowApprover → Prop
  /-- An action is executed in a transaction that does not commit. -/
  abort : Workflow → Prop
  /-- The auto-assign task puts a workflow in the failed state. -/
  fail : Db → Workflow → Prop

/-- What the workflow component does to the committed store. -/
inductive Move (G : Guard) (d : Db) (x : World) : Option Db → World → Prop where
  | around {o : Option Db} {x' : World} : Frame Untouched SameLog d x o x' → Move G d x o x'
  | create {d' : Db} {x' : World} {wf : Workflow} : Created d d' wf → wf.state = .initial →
      1 ≤ wf.minimumApprovalCount → G.create d wf → SameLog x x' → Move G d x (some d') x'
  | assign {d' : Db} {x' : World} {wf wf' : Workflow} {users : List String} :
      WorkflowManager.Assigned d d' wf wf' users → wf.initiatorID ∉ users → SameLog x x' →
      Move G d x (some d') x'
  | vote {d' : Db} {x' : World} {wf wf' : Workflow} {refused : Prop} {t : Transition} {u : String}
      {ids : Option (List String)} : WorkflowManager.VoteCast refused t u ids wf wf' d d' →
      G.vote t ids wf (Repo.approversOf d' wf.id) → SameLog x x' → Move G d x (some d') x'
  | finish {d' : Db} {x' : World} {wf wf' : Workflow} {t : Transition} :
      t = .revoke ∨ t = .expire → nextState wf.state t = some wf'.state → Finished d d' wf wf' →
      SameLog x x' → Move G d x (some d') x'
  | confirm {d' : Db} {x' : World} {wf wf' : Workflow} {r : Except Exn Unit} {n : Nat} :
      wf.state = .waitConfirmation → Lifecycle.Outcome r wf'.state → Finished d d' wf wf' →
      Lifecycle.Logged wf d n x x' → Move G d x (some d') x'
  | abort {x' : World} {wf : Workflow} {n : Nat} : d.workflows.get? wf.id = some wf →
      wf.state = .waitConfirmation → Lifecycle.Logged wf d n x x' → G.abort wf → Move G d x none x'
  | fail {d' : Db} {x' : World} {wf wf' : Workflow} : Finished d d' wf wf' → wf'.state = .failed →
      G.fail d wf → SameLog x x' → Move G d x (some d') x'

/-- Every stored workflow has a minimum and valid enumeration values. -/
def WellFormed (d : Db) : Prop :=
  ∀ id wf, d.workflows.get? id = some wf →
    1 ≤ wf.minimumApprovalCount ∧ Repo.enumError wf = none

structure Still (s s' : St Db World) : Prop where
  db : s'.db = s.db
  commits : s'.commits = s.commits
  log : SameLog s.ext s'.ext

namespace Still

variable {s s₁ s₂ : State} {G : Guard}

theorem refl (s : State) : Still s s := ⟨rfl, rfl, rfl⟩

theorem trans (h : Still s s₁) (h' : Still s₁ s₂) : Still s s₂ :=
  ⟨h'.db.trans h.db, h'.commits.trans h.commits, Eq.trans h'.log h.log⟩

theorem clock (h : Still s s₁) (n : Nat) : Still s { s₁ with clock := n } := ⟨h.db, h.commits, h.log⟩

theorem around (h : Still s s₁) : Reach (Frame Untouched SameLog) s s₁ :=
  .single (.world h.db h.commits ⟨nofun, h.log⟩)

theorem reach (h : Still s s₁) : Reach (Move G) s s₁ :=
  h.around.mono fun _ _ _ _ => .around

end Still

theorem Calm.reach {α : Type} {p : M α} (hp : Calm p) {r : Except Exn α}
    (hr : p.run false s = (r, s')) : Reach (Frame Untouched SameLog) s s' := by
  have h := hp.commits s
  unfold Prog.Commits at h
  rwa [hr] at h

namespace WellFormed

variable {d d' : Db} {wf wf' : Workflow} {G : Guard} {x x' : World}

theorem created (h : WellFormed d) (hc : Created d d' wf) (hm : 1 ≤ wf.minimumApprovalCount) :
    WellFormed d' := by
  intro id wf' hwf'
  by_cases hid : id = wf.id
  · subst hid
    cases hc.new.symm.trans hwf'
    exact ⟨hm, hc.valid⟩
  · exact h id wf' (hc.others id hid ▸ hwf')

theorem restated (h : WellFormed d) (hr : Restated d d' wf wf') : WellFormed d' := by
  intro id wf1 hwf1
  by_cases hid : id = wf.id
  · subst hid
    cases hr.new.symm.trans hwf1
    obtain ⟨hm, henum⟩ := h _ _ hr.old
    exact ⟨hr.same.minimumApprovalCount ▸ hm, hr.same.enumError.trans henum⟩
  · exact h id wf1 (hr.others id hid ▸ hwf1)

theorem move (h : WellFormed d) (hmove : Move G d x (some d') x') : WellFormed d' := by
  cases hmove with
  | around ha => exact fun id wf hwf => h id wf ((ha.1 d' rfl).workflows ▸ hwf)
  | create hc _ hm => exact h.created hc hm
  | assign ha => exact h.restated ha.row
  | vote hv => exact h.restated hv.row
  | finish _ _ hf => exact h.restated hf.1.row
  | confirm _ _ hf => exact h.restated hf.1.row
  | fail hf => exact h.restated hf.1.row

theorem reach (h : WellFormed s.db) (hr : Reach (Move G) s s') :
    WellFormed s'.db :=
  hr.induct (I := fun d _ _ => WellFormed d) h (fun _ _ _ _ hd _ => hd) fun _ _ _ _ _ hd => hd.move

end WellFormed

/-- No lookup of a user's name fails. A user that is not found has a name. -/
def IdentityManagement.Answers (idm : IdentityManagement) : Prop :=
  ∀ n user auth e, idm.getUser n user auth ≠ .error (.failed e)

namespace WorkflowManager

variable {w : WorkflowManager} {ctx : Ctx} {s₀ s : State} {G : Guard} {id : UUID}
  {t : Transition}

/-- The plugin is there and answers every lookup of a user's name. -/
def Lookups (w : WorkflowManager) : Prop :=
  ∀ n, ∃ idm, w.svcRegistry.identityManagement n = .ok idm ∧ idm.Answers

theorem getApproverUserNames_ok {idm : IdentityManagement} {data : ClientData}
    (hdata : ctx.businessUserData = some data)
    (h : idm.Answers) (users : List String) (d : Db) (n : Nat) :
    ∃ names m, (getApproverUserNames ctx idm users).eval d n = (.ok names, m) := by
  induction users generalizing n with
  | nil => exact ⟨_, _, rfl⟩
  | cons user users ih =>
    obtain ⟨name, hname⟩ : ∃ name, (idm.getUserName ctx user).eval d n = (.ok name, n + 1) := by
      unfold IdentityManagement.getUserName
      simp only [Ctx.extractBusinessUserDataAuthContext, Ctx.extractBusinessUserData, hdata]
      rw [eval_bind_of_ok (a := data.authContext) (m := n) rfl, eval_ask]
      cases hu : idm.getUser n user data.authContext with
      | ok email => exact ⟨email, rfl⟩
      | error e =>
        cases e with
        | notFound => exact ⟨_, rfl⟩
        | failed e => exact absurd hu (h _ _ _ e)
    obtain ⟨names, m, hnames⟩ := ih (n + 1)
    unfold getApproverUserNames
    rw [eval_bind_of_ok hname, eval_bind_of_ok hnames]
    exact ⟨_, _, rfl⟩

theorem createWorkflowTransitionNotificationTask_still {workflow : Workflow} {names : List String}
    (hs : Still s₀ s) :
    (w.createWorkflowTransitionNotificationTask ctx workflow t names).wp false
      (fun _ => Still s₀) s := by
  unfold createWorkflowTransitionNotificationTask
  split
  · exact hs
  · rename_i client _
    refine wp_query_bind (fun _ n _ => hs.clock n) fun _ n _ => ?_
    refine wp_query_bind (fun _ n _ => hs.clock n) fun _ n _ => ?_
    split
    · exact hs.clock n
    · refine wp_query_bind (fun _ n _ => hs.clock n) fun created n _ => ?_
      split
      · refine hs.trans ⟨rfl, rfl, ?_⟩
        simp only [run_call]
        split <;> rfl
      · exact hs.clock n

theorem wp_notify {workflow : Workflow} {recipients : IdentityManagement → Q (List String)}
    (hs : Still s₀ s) :
    Prog.wp false (do
      let idm ← w.identityManagement
      let names ← recipients idm
      let _ ← (w.createWorkflowTransitionNotificationTask ctx workflow t names).attempt
      return workflow : M Workflow) (fun r s' => Still s₀ s' ∧ (w.Lookups →
        (∀ idm : IdentityManagement, idm.Answers →
          ∀ d n, ∃ names m, (recipients idm).eval d n = (.ok names, m)) → r = .ok workflow)) s := by
  refine wp_query_bind (fun e n he => ⟨hs.clock n, fun hl _ => ?_⟩) fun idm n hidm => ?_
  · obtain ⟨idm, hidm, -⟩ := hl s.clock
    rw [identityManagement, eval_ask, hidm] at he
    cases he
  · refine wp_query_bind (fun e n' he => ⟨hs.clock n', fun hl hr => ?_⟩) fun names n' _ => ?_
    · obtain ⟨idm', hidm', hans⟩ := hl s.clock
      rw [identityManagement, eval_ask, hidm'] at hidm
      cases hidm
      obtain ⟨names, m, hnames⟩ := hr idm hans s.db (s.clock + 1)
      cases he.symm.trans hnames
    · exact wp_bind (wp_attempt (wp_mono
        (createWorkflowTransitionNotificationTask_still (hs.clock n')) fun _ s' h => ⟨h, fun _ _ => rfl⟩))

def VoteStep (w : WorkflowManager) (ctx : Ctx) (id : UUID) (t : Transition) (s s' : St Db World) :
    Prop :=
  Still s s' ∨ (s'.commits = s'.db :: s.commits ∧ SameLog s.ext s'.ext ∧ ∃ u wf wf' ids n,
    ctx.extractUserIdentifier = .ok u ∧ ctx.tenant ≠ "" ∧ wf.id = id ∧
    (w.fetchEligibilityForVote { ctx with inTx := true } wf t).eval s.db (s.clock + 1) =
      (.ok ids, n) ∧
    VoteCast (∃ m, w.repo.Refuses { ctx with inTx := true } m) t u ids wf wf' s.db s'.db)

theorem firstWorkflowWithApprovers_ok {approvers : List WorkflowApprover} {d : Db} {n m : Nat}
    {f : Exn → Exn}
    (h : ((w.firstWorkflowWithApprovers ctx id).mapError f).eval d n = (.ok (wf, approvers), m)) :
    d.workflows.get? wf.id = some wf ∧ wf.id = id ∧ ctx.tenant ≠ "" ∧ m = n + 1 := by
  have htenant := Repo.eval_query_tenant (eval_mapError_ok h)
  obtain ⟨hsel, rfl⟩ := eval_first_ok (eval_mapError_ok h)
  obtain ⟨wf', hwf, heq⟩ := Option.map_eq_some_iff.1 hsel
  obtain ⟨rfl, -⟩ := Prod.mk.inj heq
  have hid : wf'.id = id := key_of_get? hwf
  exact ⟨hid ▸ hwf, hid, htenant, rfl⟩

theorem wp_transitionWorkflow (hstill : ∀ s', Still s s' → P s')
    (hP : ∀ s1 s2, P s1 → Still s1 s2 → P s2)
    (htx : ∀ u wf, ctx.extractUserIdentifier = .ok u → ctx.tenant ≠ "" →
      s.db.workflows.get? wf.id = some wf → wf.id = id →
      (w.applyTransition ctx u wf t).wp false (fun _ => P) { s with clock := s.clock + 1 }) :
    (w.transitionWorkflow ctx id t).wp false (fun _ => P) s := by
  unfold transitionWorkflow
  refine wp_query_bind (q := .done _) (fun _ n _ => hstill _ ((Still.refl s).clock n))
    fun u n hu => ?_
  obtain rfl : s.clock = n := (Prod.mk.inj hu).2
  refine wp_query_bind (fun _ n _ => hstill _ ((Still.refl s).clock n)) fun a n ha => ?_
  obtain ⟨wf, approvers⟩ := a
  obtain ⟨hrow, hid, htenant, rfl⟩ := firstWorkflowWithApprovers_ok ha
  refine wp_state_bind (htx u wf (Prod.mk.inj hu).1 htenant hrow hid) ?_
  exact fun wf' s1 hs1 => wp_mono (wp_notify (.refl s1)) fun _ s2 h => hP s1 s2 hs1 h.1

def VoteTx (w : WorkflowManager) (ctx : Ctx) (u : String) (wf : Workflow) (t : Transition)
    (s s' : St Db World) : Prop :=
  Still s s' ∨ (s'.commits = s'.db :: s.commits ∧ SameLog s.ext s'.ext ∧ ∃ wf' ids n,
    (w.fetchEligibilityForVote { ctx with inTx := true } wf t).eval s.db s.clock = (.ok ids, n) ∧
    VoteCast (∃ m, w.repo.Refuses { ctx with inTx := true } m) t u ids wf wf' s.db s'.db)

theorem applyTransition_vote (hout : ctx.inTx = false) (ht : t.isVote) (hwell : WellFormed s.db)
    (hrow : s.db.workflows.get? wf.id = some wf) :
    (w.applyTransition ctx u wf t).wp false (fun _ => VoteTx w ctx u wf t s) s := by
  obtain ⟨hm, henum⟩ := hwell _ _ hrow
  have hm' : wf.minimumApprovalCount ≠ 0 := by omega
  refine wp_mapError (wp_transaction hout
    (wp_applyTransitionTx_vote rfl ht hrow hm' henum ?_ ?_))
  · intro e s' hx
    exact ⟨fun _ h => (nomatch h), fun _ _ k => .inl ⟨rfl, rfl, congrArg World.executed hx⟩⟩
  · intro res s' ids n wf' hids hx hcast
    have hlog : SameLog s.ext s'.ext := congrArg World.executed hx
    exact ⟨fun _ _ => .inr ⟨rfl, hlog, wf', ids, n, hids, hcast⟩, fun _ _ k => .inl ⟨rfl, rfl, hlog⟩⟩

theorem transitionWorkflow_vote (hout : ctx.inTx = false) (ht : t.isVote)
    (hwell : WellFormed s.db) :
    (w.transitionWorkflow ctx id t).wp false (fun _ => VoteStep w ctx id t s) s := by
  refine wp_transitionWorkflow (fun _ => .inl) ?_ fun u wf hu htenant hrow hid => ?_
  · intro s1 s2 h1 h2
    rcases h1 with h1 | ⟨hc, hlog, h1⟩
    · exact .inl (h1.trans h2)
    · refine .inr ⟨by rw [h2.commits, h2.db, hc], Eq.trans h2.log hlog, ?_⟩
      rw [h2.db]
      exact h1
  · refine wp_mono (applyTransition_vote (s := { s with clock := s.clock + 1 }) hout ht hwell hrow)
      fun _ s' h => ?_
    rcases h with h | ⟨hc, hlog, wf', ids, n, hids, hcast⟩
    · exact .inl ⟨h.db, h.commits, h.log⟩
    · exact .inr ⟨hc, hlog, u, wf, wf', ids, n, hu, htenant, hid, hids, hcast⟩

/-- Why an executed action may be in a transaction that does not commit. -/
def Aborts (w : WorkflowManager) (ctx : Ctx) (wf : Workflow) : Prop :=
  (∃ l, BuiltFor w wf l ∧ l.Panics { ctx with inTx := true }) ∨
    (∃ n, w.repo.Refuses { ctx with inTx := true } n) ∨ ∃ n, w.repo.commit n ≠ none

theorem tick_none (hx : s'.ext = s.ext) (k : Nat) :
    Tick (Move G) s { s' with db := s.db, clock := k, commits := s.commits } :=
  .world rfl rfl (.around ⟨nofun, congrArg World.executed hx⟩)

theorem applyTransition_finish (hout : ctx.inTx = false) (ht : ¬ t.isVote) (hwell : WellFormed s.db)
    (hrow : s.db.workflows.get? wf.id = some wf) (habort : w.Aborts ctx wf → G.abort wf) :
    (w.applyTransition ctx u wf t).wp false (fun _ => Tick (Move G) s) s := by
  obtain ⟨hm, henum⟩ := hwell _ _ hrow
  have hm' : wf.minimumApprovalCount ≠ 0 := by omega
  refine wp_mapError (wp_transaction hout
    (wp_applyTransitionTx_finish rfl ht hrow henum ?_ ?_ ?_ ?_))
  · intro e s' hx
    exact ⟨fun _ h => (nomatch h), fun _ _ => tick_none hx⟩
  · intro e s' d n _ hst hd hexec hwhy
    obtain rfl : d = s.db := hd hm'
    have ha : w.Aborts ctx wf := hwhy.imp_right .inl
    exact ⟨fun _ h => (nomatch h), fun _ _ k => .world rfl rfl (.abort hrow hst hexec (habort ha))⟩
  · intro wf' s' _ hnext hx hfin
    exact ⟨fun _ _ => .commit (.finish (.inl rfl) hnext hfin (congrArg World.executed hx)) rfl,
      fun _ _ => tick_none hx⟩
  · intro wf' l r s₀ s₁ s' _ hst hd hact hout hx _ hfin
    have hlog : Lifecycle.Logged wf s.db s₀.clock s.ext s'.ext := hx ▸ hd hm' ▸ hact.logged
    refine ⟨fun _ _ => .commit (.confirm hst hout hfin hlog) rfl, fun hc _ k => ?_⟩
    exact .world rfl rfl (.abort hrow hst hlog (habort (.inr (.inr (hc _ rfl)))))

theorem transitionWorkflow_finish (hout : ctx.inTx = false) (ht : ¬ t.isVote)
    (hwell : WellFormed s.db) (habort : ∀ wf, w.Aborts ctx wf → G.abort wf) :
    (w.transitionWorkflow ctx id t).wp false (fun _ => Reach (Move G) s) s := by
  refine wp_transitionWorkflow (fun _ h => h.reach) (fun _ _ h h' => h.trans h'.reach)
    fun u wf _ _ hrow hid => ?_
  exact wp_mono (applyTransition_finish (s := { s with clock := s.clock + 1 }) hout ht hwell hrow
    (habort wf)) fun _ s' h => .single h.clock

theorem expireTx_tick (hout : ctx.inTx = false) (hwell : WellFormed s.db)
    (hrow : s.db.workflows.get? wf.id = some wf) :
    (w.repo.transaction ctx fun ctx => w.expireWorkflowTx ctx wf).wp false
      (fun _ => Tick (Move G) s) s := by
  have hm : wf.minimumApprovalCount ≠ 0 := by
    have := (hwell _ _ hrow).1
    omega
  refine wp_transaction hout (wp_expireWorkflowTx hrow ?_ ?_)
  · exact fun e s' hx => ⟨fun _ h => (nomatch h), fun _ _ => tick_none hx⟩
  · intro d0 s' wf' _ hd hx hnext hfin
    obtain rfl : d0 = s.db := hd hm
    exact ⟨fun _ _ => .commit (.finish (.inr rfl) hnext hfin (congrArg World.executed hx)) rfl,
      fun _ _ => tick_none hx⟩

theorem expireWorkflow_commits (hout : ctx.inTx = false) (hwell : WellFormed s.db) :
    (w.expireWorkflow ctx id).wp false (fun _ => Reach (Move G) s) s := by
  refine wp_query_bind (fun _ n _ => ((Still.refl s).clock n).reach) fun wf n hwf => ?_
  obtain ⟨hrow, rfl⟩ := eval_first_ok (eval_mapError_ok hwf)
  have hid : wf.id = id := key_of_get? hrow
  exact wp_mono (expireTx_tick (s := { s with clock := s.clock + 1 }) hout hwell (hid ▸ hrow))
    fun _ s' h => .single h.clock

theorem collectApprovers_returns (idm : IdentityManagement) (auth : AuthContext) (initiator : String)
    (kcs : List KeyConfiguration) :
    (collectApprovers idm auth initiator kcs).Returns fun a => initiator ∉ a.1 := by
  induction kcs with
  | nil =>
    intro a h
    cases h
    exact List.not_mem_nil
  | cons kc kcs ih =>
    simp only [collectApprovers, throw_bind]
    split
    · exact fun a h => by cases h
    · refine .bind (.any _) fun members _ => .bind ih fun a ha b h => ?_
      cases h
      simp [ha]

theorem getApproversAndGroupsFromKeyConfigs_returns (wf : Workflow) (kcs : List KeyConfiguration) :
    (w.getApproversAndGroupsFromKeyConfigs ctx wf kcs).Returns
      fun a => a.1.Nodup ∧ wf.initiatorID ∉ a.1 := by
  refine .bind (.any _) fun idm _ => .bind (collectApprovers_returns _ _ _ _) fun a ha b h => ?_
  cases h
  exact ⟨List.nodup_dedup _, fun hmem => ha (List.mem_dedup.1 hmem)⟩

theorem wp_addApproversAndGroupAssociations {P : Post Workflow} {users : List String}
    {groups : List Group} (hout : ctx.inTx = false) (hrow : s.db.workflows.get? wf.id = some wf)
    (hm : wf.minimumApprovalCount ≠ 0) (herr : ∀ e s', Still s s' → P (.error e) s')
    (hok : ∀ wf' s', Assigned s.db s'.db wf wf' users →
      SeatsTaken w s.db s'.db s.clock s'.clock wf users groups → SameLog s.ext s'.ext →
      s'.commits = s'.db :: s.commits → P (.ok wf') s') :
    (w.addApproversAndGroupAssociations ctx u wf users groups).wp false P s := by
  refine wp_mapError (wp_transaction hout (wp_addApproversTx hrow hm ?_ ?_))
  · intro e s' hx
    exact ⟨fun _ h => (nomatch h), fun _ _ k => herr _ _ ⟨rfl, rfl, congrArg World.executed hx⟩⟩
  · intro s' wf' hx hassign hseats
    have hlog : SameLog s.ext s'.ext := congrArg World.executed hx
    refine ⟨fun _ h => ?_, fun _ _ k => herr _ _ ⟨rfl, rfl, hlog⟩⟩
    cases h
    exact hok _ _ hassign { hseats with named := hseats.named.widen le_rfl (Nat.le_succ _) } hlog rfl

/-- A failed assignment left the workflow alone, or only the notification failed. -/
def AssignFailed (w : WorkflowManager) (id : UUID) (s s' : St Db World) : Prop :=
  Untouched s.db s'.db ∨
    (¬ w.Lookups ∧ ∃ wf, s'.db.workflows.get? id = some wf ∧ wf.state = .waitApproval)

theorem autoAssignApprovers_commits (ctx : Ctx) (id : UUID) (hout : ctx.inTx = false) (hwell : WellFormed s.db) :
    (w.autoAssignApprovers ctx id).wp false (fun r s' => Reach (Move G) s s' ∧
      (ctx.businessUserData.isSome → ∀ e, r = .error e → AssignFailed w id s s')) s := by
  refine wp_query_bind (fun _ n _ => ⟨((Still.refl s).clock n).reach, ?_⟩) fun wf n hwf => ?_
  · exact fun _ _ _ => .inl (refl_of Untouched _)
  obtain ⟨hrow, rfl⟩ := eval_first_ok (eval_mapError_ok hwf)
  obtain rfl : wf.id = id := key_of_get? hrow
  have hm : 1 ≤ wf.minimumApprovalCount := (hwell _ _ hrow).1
  have hm' : wf.minimumApprovalCount ≠ 0 := by omega
  have hcalm := (w.getKeyConfigurationsFromArtifact_syncs ctx wf).calm
  have hstart : Reach (Move G) s { s with clock := s.clock + 1 } := ((Still.refl s).clock _).reach
  refine wp_bind_run (fun e s1 hr => ?_) fun kcs s1 hr => ?_
  · exact ⟨hstart.trans ((hcalm.reach hr).mono fun _ _ _ _ => .around),
      fun _ _ _ => .inl (hcalm.run hr).1⟩
  have hreach : Reach (Move G) s s1 := hstart.trans ((hcalm.reach hr).mono fun _ _ _ _ => .around)
  have hu : Untouched s.db s1.db := (hcalm.run hr).1
  refine wp_query_bind (fun e n _ => ?_) fun a n ha => ?_
  · exact ⟨hreach.trans ((Still.refl s1).clock n).reach, fun _ _ _ => .inl hu⟩
  obtain ⟨users, groups⟩ := a
  have husers := ((getApproversAndGroupsFromKeyConfigs_returns _ _).eval ha).2
  refine wp_bind (wp_mapError (wp_addApproversAndGroupAssociations
    (s := { s1 with clock := n }) hout (hu.workflows ▸ hrow) hm' ?_ ?_))
  · intro e s2 hs2
    exact ⟨hreach.trans (Still.reach ⟨hs2.db, hs2.commits, hs2.log⟩), fun _ _ _ => .inl (hs2.db ▸ hu)⟩
  · intro wf' s2 hassign _ hlog hc
    have hreach2 : Reach (Move G) s s2 :=
      hreach.tail (.commit (.assign hassign husers hlog) hc)
    refine wp_mono (wp_notify (.refl s2)) fun r s3 h => ⟨hreach2.trans h.1.reach, ?_⟩
    intro hdata e he
    obtain ⟨data, hdata⟩ := Option.isSome_iff_exists.1 hdata
    refine .inr ⟨fun hl => ?_, wf', h.1.db ▸ hassign.row.new, hassign.waiting⟩
    cases he.symm.trans (h.2 hl fun idm hans => getApproverUserNames_ok hdata hans users)

def Submitted (w : WorkflowManager) (ctx : Ctx) (req : Workflow) (s : St Db World) (d : Db)
    (wf : Workflow) : Prop :=
  ∃ m s₁ status s₂, (w.getMinimumApprovals ctx).run false s = (.ok m, s₁) ∧
    (w.checkWorkflow ctx { req with state := .initial, minimumApprovalCount := m }).run false s₁ =
      (.ok status, s₂) ∧
    status.existing = false ∧ status.errDetails = none ∧ Untouched s₂.db d ∧
    SameWorkflow { req with state := .initial, minimumApprovalCount := m } wf

section

variable {req wf : Workflow} {d : Db}

theorem Submitted.untouched (h : Submitted w ctx req s d wf) : Untouched s.db d := by
  obtain ⟨m, s1, status, s2, hmin, hcheck, -, -, hu, -⟩ := h
  have h1 := ((w.getMinimumApprovals_calm ctx).run hmin).1
  have h2 := ((w.checkWorkflow_calm ctx _).run hcheck).1
  exact trans_of Untouched h1 (trans_of Untouched h2 hu)

theorem Submitted.minimum (h : Submitted w ctx req s d wf) : 1 ≤ wf.minimumApprovalCount := by
  obtain ⟨m, s1, status, s2, hmin, -, -, -, -, hsame⟩ := h
  exact hsame.minimumApprovalCount ▸ getMinimumApprovals_pos hmin

theorem Submitted.artifact (h : Submitted w ctx req s d wf) :
    wf.artifactType = req.artifactType ∧ wf.artifactID = req.artifactID := by
  obtain ⟨m, s1, status, s2, -, -, -, -, -, hsame⟩ := h
  exact ⟨hsame.artifactType, hsame.artifactID⟩

/-- With workflows enabled, a request goes on only if its artifact has no ongoing workflow. -/
theorem Submitted.ongoing (h : Submitted w ctx req s d wf) {c : WorkflowConfig}
    (hc : s.db.workflowConfig = some c) (henabled : c.enabled = true) :
    Repo.ongoing d req.artifactType req.artifactID = [] := by
  obtain ⟨m, s1, status, s2, hmin, hcheck, hex, herr, hu, -⟩ := h
  have hdb := getMinimumApprovals_stored hc hmin
  obtain ⟨config, s3, s4, hcfg, hperm, ⟨hdis, -⟩ | ⟨-, -, hadm⟩⟩ := checkWorkflow_pass hcheck hex herr
  · obtain ⟨rfl, -⟩ := workflowConfig_stored (hdb ▸ hc) hcfg
    rw [henabled] at hdis
    cases hdis
  · have hw := (trans_of Untouched hadm.untouched hu).workflows
    have hongoing := hadm.ongoing
    unfold Repo.ongoing at hongoing ⊢
    rw [hw]
    exact hongoing

end

theorem populateArtifact_ok (h : (w.populateArtifact ctx wf).run false s = (.ok wf', s')) :
    SameWorkflow wf wf' ∧ wf'.state = wf.state := by
  unfold populateArtifact at h
  split at h
  case h_4 => cases h; exact ⟨.refl _, rfl⟩
  all_goals
    obtain ⟨_, _, -, h⟩ := run_bind_ok h
    cases h
    exact ⟨⟨rfl, rfl, rfl, rfl, rfl, rfl⟩, rfl⟩

theorem populateParametersResource_ok
    (h : (w.populateParametersResource ctx wf).run false s = (.ok wf', s')) :
    SameWorkflow wf wf' ∧ wf'.state = wf.state := by
  unfold populateParametersResource at h
  split at h
  case h_4 => cases h; exact ⟨.refl _, rfl⟩
  all_goals
    obtain ⟨_, _, -, h⟩ := run_bind_ok h
    obtain ⟨_, _, -, h⟩ := run_bind_ok h
    cases h
    exact ⟨⟨rfl, rfl, rfl, rfl, rfl, rfl⟩, rfl⟩

theorem wp_storeWorkflow (hout : ctx.inTx = false) (hm : wf.minimumApprovalCount ≠ 0)
    (hstill : ∀ s', Still s s' → P s')
    (hok : ∀ wf' s', Created s.db s'.db wf' → SameWorkflow wf wf' → wf'.state = wf.state →
      SameLog s.ext s'.ext → s'.commits = s'.db :: s.commits → P s') :
    (w.storeWorkflow ctx wf).wp false (fun _ => P) s := by
  refine wp_mapError (wp_transaction hout (wp_storeWorkflowTx hm ?_ ?_))
  · intro e s' hlog
    exact ⟨fun _ h => (nomatch h), fun _ _ k => hstill _ ⟨rfl, rfl, hlog⟩⟩
  · intro wf' s' hlog hsame hst hcreated
    exact ⟨fun _ _ => hok wf' _ hcreated hsame hst hlog rfl, fun _ _ k => hstill _ ⟨rfl, rfl, hlog⟩⟩

/-- A call of `CreateWorkflow` leaves the workflow component alone, or goes on to store the request. -/
theorem wp_createWorkflow {req : Workflow} (hout : ctx.inTx = false)
    (haround : ∀ s', Reach (Frame Untouched SameLog) s s' → P s')
    (hstored : ∀ wf s1 s', Reach (Frame Untouched SameLog) s s1 → Submitted w ctx req s s1.db wf →
      Created s1.db s'.db wf → wf.state = .initial → SameLog s1.ext s'.ext →
      s'.commits = s'.db :: s1.commits → P s') :
    (w.createWorkflow ctx req).wp false (fun _ => P) s := by
  unfold createWorkflow
  simp only [Prog.throw_bind]
  have hmin := w.getMinimumApprovals_calm ctx
  refine wp_bind_run (fun e s1 hr => haround _ (hmin.reach hr)) fun m s1 hmin' => ?_
  have hreach := hmin.reach hmin'
  have hcheck := w.checkWorkflow_calm ctx { req with state := .initial, minimumApprovalCount := m }
  refine wp_bind_run (fun e s2 hr => haround _ (hreach.trans (hcheck.reach hr)))
    fun status s2 hst => ?_
  have hreach := hreach.trans (hcheck.reach hst)
  split
  · exact haround _ hreach
  rename_i hex
  cases herr : status.errDetails with
  | some e => exact haround _ hreach
  | none =>
    have hart := w.populateArtifact_calm ctx
      { req with state := .initial, minimumApprovalCount := m }
    refine wp_bind_run (fun e s3 hr => haround _ (hreach.trans (hart.reach hr)))
      fun wf1 s3 hp1 => ?_
    have hreach := hreach.trans (hart.reach hp1)
    have hpar := w.populateParametersResource_calm ctx wf1
    refine wp_bind_run (fun e s4 hr => haround _ (hreach.trans (hpar.reach hr)))
      fun wf2 s4 hp2 => ?_
    have hreach := hreach.trans (hpar.reach hp2)
    obtain ⟨hsame1, hstate1⟩ := populateArtifact_ok hp1
    obtain ⟨hsame2, hstate2⟩ := populateParametersResource_ok hp2
    have hsame := hsame1.trans hsame2
    have hm : 1 ≤ wf2.minimumApprovalCount :=
      hsame.minimumApprovalCount ▸ getMinimumApprovals_pos hmin'
    refine wp_storeWorkflow hout (by omega) (fun s' h => haround _ (hreach.trans h.around)) ?_
    intro wf s' hcreated hsame3 hstate3 hlog hc
    have hu : Untouched s2.db s4.db := trans_of Untouched (hart.run hp1).1 (hpar.run hp2).1
    refine hstored wf s4 s' hreach ?_ hcreated (by rw [hstate3, hstate2, hstate1]) hlog hc
    exact ⟨m, s1, status, s2, hmin', hst, by simpa using hex, herr, hu, hsame.trans hsame3⟩

theorem createWorkflow_commits {req : Workflow} (hout : ctx.inTx = false)
    (hG : ∀ d wf, Submitted w ctx req s d wf → G.create d wf) :
    (w.createWorkflow ctx req).wp false (fun _ => Reach (Move G) s) s := by
  refine wp_createWorkflow hout (fun s' h => h.mono fun _ _ _ _ => .around) ?_
  intro wf s1 s' hreach hsub hcreated hst hlog hc
  refine (hreach.mono fun _ _ _ _ => .around).tail
    (.commit (.create hcreated hst hsub.minimum (hG _ _ hsub) hlog) hc)

end WorkflowManager

namespace WorkflowProcessor

variable {p : WorkflowProcessor} {ctx : Ctx} {s : State} {G : Guard} {id : UUID}

theorem failedStateTx_tick {reason : String} (hout : ctx.inTx = false) (hwell : WellFormed s.db)
    (hrow : s.db.workflows.get? wf.id = some wf) (hG : G.fail s.db wf) :
    (p.repo.transaction ctx fun ctx => p.failedStateTx ctx
      { wf with state := .failed, failureReason := reason }).wp false
      (fun _ => Tick (Move G) s) s := by
  refine wp_transaction hout (wp_bind (Repo.wp_patchWorkflow wf .failed reason hrow
    (hwell _ _ hrow).2 ?_ ?_))
  · exact fun e _ => ⟨fun _ h => (nomatch h), fun _ _ => tick_none rfl⟩
  · intro wf' table hre hst
    refine wp_handleTerminalWorkflow (stated_table hre)
      (by rw [hst]; decide)
      (fun e _ => ⟨fun _ h => (nomatch h), fun _ _ => tick_none rfl⟩) ?_
    intro s' hfin hx _
    exact ⟨fun _ _ => .commit (.fail hfin hst hG (congrArg World.executed hx)) rfl,
      fun _ _ => tick_none hx⟩

theorem putWorkflowInFailedState_commits {reason : String} (hout : ctx.inTx = false)
    (hwell : WellFormed s.db) (hG : ∀ wf, s.db.workflows.get? wf.id = some wf → wf.id = id →
      G.fail s.db wf) :
    (p.putWorkflowInFailedState ctx id reason).wp false (fun _ => Reach (Move G) s) s := by
  refine wp_query_bind (fun _ n _ => ((Still.refl s).clock n).reach) fun wf n hwf => ?_
  obtain ⟨hrow, rfl⟩ := eval_first_ok hwf
  obtain rfl : wf.id = id := key_of_get? hrow
  exact wp_mono (failedStateTx_tick (s := { s with clock := s.clock + 1 }) hout hwell hrow
    (hG wf hrow rfl)) fun _ s' h => .single h.clock

/-- What is known of the workflow that a task puts in the failed state: nothing has happened to it
since the task began, or its approvers were assigned and a name could not be looked up. -/
def TaskFailed (w : WorkflowManager) (id : UUID) (s : St Db World) (d : Db) (wf : Workflow) : Prop :=
  wf.id = id ∧ (Untouched s.db d ∨ (¬ w.Lookups ∧ wf.state = .waitApproval))

theorem processTask_commits {payload : TaskPayload} (hout : ctx.inTx = false)
    (hwell : WellFormed s.db)
    (hG : ∀ d wf id, payload.data = some id → TaskFailed p.updater id s d wf → G.fail d wf) :
    (p.processTask ctx payload).wp false (fun _ => Reach (Move G) s) s := by
  unfold processTask
  split
  · exact .refl
  rename_i id hid
  have hassign := p.updater.autoAssignApprovers_commits (G := G) (injectContext ctx payload) id
    hout hwell
  have hfailed : ∀ reason s1, Reach (Move G) s s1 → WorkflowManager.AssignFailed p.updater id s s1 →
      (p.putWorkflowInFailedState (injectContext ctx payload) id reason).wp false
        (fun _ => Reach (Move G) s) s1 := by
    intro reason s1 hreach hfail
    refine wp_mono (putWorkflowInFailedState_commits (G := G) hout (hwell.reach hreach) ?_)
      fun _ s' h => hreach.trans h
    intro wf hrow hwid
    refine hG _ wf id hid ⟨hwid, hfail.imp_right fun ⟨hl, wf', hwf', hst⟩ => ⟨hl, ?_⟩⟩
    rw [hwid] at hrow
    cases hrow.symm.trans hwf'
    exact hst
  refine wp_bind (wp_attempt (wp_mono hassign fun r s1 h => ?_))
  rcases r with (e | _) | wf
  · exact wp_state_bind (wp_attempt (hfailed _ s1 h.1 (h.2 rfl _ rfl)))
      fun _ s' h => h
  · exact wp_state_bind (wp_attempt (hfailed _ s1 h.1 (h.2 rfl _ rfl)))
      fun _ s' h => h
  · exact h.1

end WorkflowProcessor

end Cmk
