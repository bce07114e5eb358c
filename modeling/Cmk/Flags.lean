import Cmk.States

/-!
# Cmk.Flags

The flag `UnderWorkflow` of systems and keys, and how many open workflows an artifact has. The flag
is stored twice over: it should be set exactly while some workflow of the artifact is open. It is
set when a workflow is stored and cleared when one ends, so it is right as long as an artifact has
at most one open workflow and every end clears it.

* `Exclusive`  — an artifact has at most one open workflow.
* `FlagsRight` — a flag is set exactly if there is an open workflow.
* `Careful`    — the calls that keep both.
-/

namespace Cmk

open Tx List Repo

variable {d d' : Db} {id : UUID} {ctx : Ctx} {s : State}

/-- `wf` is a workflow of the artifact in a non-terminal state. -/
structure Open (d : Db) (ty : WorkflowArtifactType) (id : UUID) (wf : Workflow) : Prop where
  row : d.workflows.get? wf.id = some wf
  artifactType : wf.artifactType = ty
  artifactID : wf.artifactID = id
  state : wf.state ∈ workflowNonTerminalStates

theorem mem_ongoing {ty : WorkflowArtifactType} {wf : Workflow} :
    wf ∈ ongoing d ty id ↔ Open d ty id wf := by
  simp only [ongoing, mem_filter, decide_eq_true_eq]
  constructor
  · rintro ⟨hmem, hty, hid, hst⟩
    exact ⟨get?_key hmem, hty, hid, hst⟩
  · intro h
    exact ⟨mem_of_get? h.row, h.artifactType, h.artifactID, h.state⟩

theorem not_terminal_of_open {st : WorkflowState} (h : st ∈ workflowNonTerminalStates) :
    st ∉ workflowTerminalStates := by
  revert h
  cases st <;> decide

theorem open_or_terminal (st : WorkflowState) :
    st ∈ workflowNonTerminalStates ∨ st ∈ workflowTerminalStates := by
  cases st <;> decide

def Exclusive (d : Db) : Prop :=
  ∀ ty id wf wf', Open d ty id wf → Open d ty id wf' → wf = wf'

/-- A flag is set exactly if the artifact has an open workflow. -/
def FlagsRight (d : Db) : Prop :=
  ∀ ty id b, d.flag ty id = some b → (b = true ↔ ∃ wf, Open d ty id wf)

theorem Exclusive.length_le (h : Exclusive d) (ty : WorkflowArtifactType) (id : UUID) :
    (ongoing d ty id).length ≤ 1 := by
  have hnodup : (ongoing d ty id).Nodup :=
    (d.workflows.nodup.of_map _).sublist filter_sublist
  match hl : ongoing d ty id with
  | [] => exact Nat.zero_le _
  | [_] => exact le_refl _
  | wf :: wf' :: _ =>
    have hwf : wf ∈ ongoing d ty id := hl ▸ mem_cons_self
    have hwf' : wf' ∈ ongoing d ty id := hl ▸ mem_cons_of_mem _ mem_cons_self
    have heq := h ty id wf wf' (mem_ongoing.1 hwf) (mem_ongoing.1 hwf')
    rw [hl, heq] at hnodup
    simp at hnodup

theorem Exclusive.of_length_le (h : ∀ ty id, (ongoing d ty id).length ≤ 1) : Exclusive d := by
  intro ty id wf wf' ho ho'
  have hwf := mem_ongoing.2 ho
  have hwf' := mem_ongoing.2 ho'
  obtain ⟨wf1, hl⟩ := length_eq_one_iff.1
    (Nat.le_antisymm (h ty id) (length_pos_of_mem hwf))
  rw [hl, mem_singleton] at hwf hwf'
  rw [hwf, hwf']

section

variable {d d' : Db} {wf wf' wf₁ wf₂ : Workflow} {ty : WorkflowArtifactType} {id : UUID}

theorem Open.congr (h : d'.workflows = d.workflows) : Open d' ty id wf₁ ↔ Open d ty id wf₁ :=
  ⟨fun ho => ⟨h ▸ ho.row, ho.artifactType, ho.artifactID, ho.state⟩,
    fun ho => ⟨h ▸ ho.row, ho.artifactType, ho.artifactID, ho.state⟩⟩

theorem Open.eq_of_id (ho : Open d ty id wf₁) (ho' : Open d ty id wf₂) (h : wf₁.id = wf₂.id) :
    wf₁ = wf₂ :=
  Option.some.inj (ho.row.symm.trans (h ▸ ho'.row))

/-- A workflow that is open after a rewrite was open before, or is the one rewritten. -/
theorem Restated.open_before (h : Restated d d' wf wf') (ho : Open d' ty id wf₁)
    (hst : wf'.state ∈ workflowNonTerminalStates → wf.state ∈ workflowNonTerminalStates) :
    ∃ wf₀, Open d ty id wf₀ ∧ wf₀.id = wf₁.id := by
  by_cases hid : wf₁.id = wf.id
  · have hrow := ho.row
    rw [hid, h.new] at hrow
    cases Option.some.inj hrow
    exact ⟨wf, ⟨h.old, h.same.artifactType ▸ ho.artifactType, h.same.artifactID ▸ ho.artifactID,
      hst ho.state⟩, hid.symm⟩
  · exact ⟨wf₁, ⟨h.others _ hid ▸ ho.row, ho.artifactType, ho.artifactID, ho.state⟩, rfl⟩

/-- A workflow that was open before a rewrite still is, unless it is the one rewritten. -/
theorem Restated.open_after (h : Restated d d' wf wf') (ho : Open d ty id wf₁)
    (hst : wf₁ = wf → wf'.state ∈ workflowNonTerminalStates) : ∃ wf₂, Open d' ty id wf₂ := by
  by_cases hid : wf₁.id = wf.id
  · have hwf : wf₁ = wf := Option.some.inj (ho.row.symm.trans (hid ▸ h.old))
    have hst' := hst hwf
    subst hwf
    exact ⟨wf', h.same.id.symm ▸ h.new, h.same.artifactType.trans ho.artifactType,
      h.same.artifactID.trans ho.artifactID, hst'⟩
  · exact ⟨wf₁, (h.others _ hid).trans ho.row, ho.artifactType, ho.artifactID, ho.state⟩

theorem Created.open_before (h : Created d d' wf) (ho : Open d' ty id wf₁) :
    wf₁ = wf ∨ Open d ty id wf₁ := by
  by_cases hid : wf₁.id = wf.id
  · have hrow := ho.row
    rw [hid, h.new] at hrow
    exact .inl (Option.some.inj hrow).symm
  · exact .inr ⟨h.others _ hid ▸ ho.row, ho.artifactType, ho.artifactID, ho.state⟩

theorem Created.open_after (h : Created d d' wf) (ho : Open d ty id wf₁) : Open d' ty id wf₁ := by
  have hid : wf₁.id ≠ wf.id := by
    intro heq
    have hrow := ho.row
    rw [heq, h.fresh] at hrow
    cases hrow
  exact ⟨(h.others _ hid).trans ho.row, ho.artifactType, ho.artifactID, ho.state⟩

end

namespace Exclusive

variable {d d' : Db} {wf wf' : Workflow} {G : Guard} {x x' : World}

theorem created (h : Exclusive d) (hc : Created d d' wf)
    (hnone : ¬ ∃ wf', Open d wf.artifactType wf.artifactID wf') : Exclusive d' := by
  intro ty id wf1 wf2 ho1 ho2
  rcases hc.open_before ho1 with rfl | ho1' <;> rcases hc.open_before ho2 with rfl | ho2'
  · rfl
  · obtain ⟨-, rfl, rfl, -⟩ := ho1
    exact absurd ⟨wf2, ho2'⟩ hnone
  · obtain ⟨-, rfl, rfl, -⟩ := ho2
    exact absurd ⟨wf1, ho1'⟩ hnone
  · exact h ty id wf1 wf2 ho1' ho2'

theorem restated (h : Exclusive d) (hr : Restated d d' wf wf')
    (hst : wf'.state ∈ workflowNonTerminalStates → wf.state ∈ workflowNonTerminalStates) :
    Exclusive d' := by
  intro ty id wf1 wf2 ho1 ho2
  obtain ⟨wf1', ho1', hid1⟩ := hr.open_before ho1 hst
  obtain ⟨wf2', ho2', hid2⟩ := hr.open_before ho2 hst
  have heq := h ty id wf1' wf2' ho1' ho2'
  exact ho1.eq_of_id ho2 (by rw [← hid1, ← hid2, heq])

theorem finished (h : Exclusive d) (hf : Finished d d' wf wf') : Exclusive d' :=
  h.restated hf.1.row fun hst => absurd hf.2 (not_terminal_of_open hst)

theorem move (h : Exclusive d) (hcreate : ∀ wf, G.create d wf →
      ¬ ∃ wf', Open d wf.artifactType wf.artifactID wf')
    (hmove : Move G d x (some d') x') : Exclusive d' := by
  cases hmove with
  | around ha =>
    have hw := (ha.1 d' rfl).workflows
    exact fun ty id wf wf' ho ho' => h ty id wf wf' ((Open.congr hw).1 ho) ((Open.congr hw).1 ho')
  | create hc _ _ hG => exact h.created hc (hcreate _ hG)
  | assign ha => exact h.restated ha.row fun _ => by rw [ha.initial]; decide
  | vote hv => exact h.restated hv.row fun _ => by rw [hv.waiting]; decide
  | finish _ _ hf => exact h.finished hf
  | confirm _ _ hf => exact h.finished hf
  | fail hf => exact h.finished hf

end Exclusive

namespace FlagsRight

variable {d d' : Db} {wf wf' : Workflow} {G : Guard} {x x' : World}

theorem untouched (h : FlagsRight d) (hu : Untouched d d') : FlagsRight d' := by
  intro ty id b hb
  rw [h ty id b (hu.flag ty id b hb)]
  exact exists_congr fun wf => (Open.congr hu.workflows).symm

theorem created (h : FlagsRight d) (hc : Created d d' wf) (hst : wf.state = .initial) :
    FlagsRight d' := by
  intro ty id b hb
  have hflag := hc.flags ty id b hb
  split at hflag
  · rename_i hart
    obtain ⟨rfl, rfl⟩ := hart
    exact ⟨fun _ => ⟨wf, hc.new, rfl, rfl, by rw [hst]; decide⟩, fun _ => hflag⟩
  · rename_i hart
    rw [h ty id b hflag]
    refine ⟨fun ⟨wf1, ho⟩ => ⟨wf1, hc.open_after ho⟩, fun ⟨wf1, ho⟩ => ⟨wf1, ?_⟩⟩
    refine (hc.open_before ho).resolve_left fun heq => hart ?_
    subst heq
    exact ⟨ho.artifactType.symm, ho.artifactID.symm⟩

theorem stays (h : FlagsRight d) (hr : Restated d d' wf wf') (hfl : ClearedIf false wf d d')
    (hst : wf.state ∈ workflowNonTerminalStates) (hst' : wf'.state ∈ workflowNonTerminalStates) :
    FlagsRight d' := by
  intro ty id b hb
  have hflag := hfl ty id b hb
  rw [if_neg (by simp)] at hflag
  rw [h ty id b hflag]
  constructor
  · rintro ⟨wf1, ho⟩
    exact hr.open_after ho fun _ => hst'
  · rintro ⟨wf1, ho⟩
    obtain ⟨wf0, ho0, -⟩ := hr.open_before ho fun _ => hst
    exact ⟨wf0, ho0⟩

/-- A workflow ends and the flag of its artifact is cleared: no other workflow of it may be open. -/
theorem ended (h : FlagsRight d) (hex : Exclusive d) (hr : Restated d d' wf wf')
    (hfl : ClearedIf true wf d d') (hend : wf'.state ∈ workflowTerminalStates)
    (hno : wf.state ∈ workflowNonTerminalStates ∨
      ¬ ∃ wf1, Open d wf.artifactType wf.artifactID wf1) : FlagsRight d' := by
  have hne : ∀ {ty id wf1}, Open d' ty id wf1 → wf1.id ≠ wf.id := by
    intro ty id wf1 ho heq
    have hrow := ho.row
    rw [heq, hr.new] at hrow
    cases Option.some.inj hrow
    exact not_terminal_of_open ho.state hend
  have hback : ∀ {ty id wf1}, Open d' ty id wf1 → Open d ty id wf1 := fun ho =>
    ⟨hr.others _ (hne ho) ▸ ho.row, ho.artifactType, ho.artifactID, ho.state⟩
  intro ty id b hb
  have hflag := hfl ty id b hb
  simp only [true_and] at hflag
  split at hflag
  · rename_i hart
    obtain ⟨rfl, rfl⟩ := hart
    subst hflag
    refine ⟨nofun, fun ⟨wf1, ho⟩ => ?_⟩
    rcases hno with hst | hnone
    · have heq := hex _ _ wf wf1 ⟨hr.old, rfl, rfl, hst⟩ (hback ho)
      exact absurd (congrArg Workflow.id heq).symm (hne ho)
    · exact absurd ⟨wf1, hback ho⟩ hnone
  · rename_i hart
    rw [h ty id b hflag]
    constructor
    · rintro ⟨wf1, ho⟩
      refine hr.open_after ho fun heq => absurd ?_ hart
      subst heq
      exact ⟨ho.artifactType.symm, ho.artifactID.symm⟩
    · rintro ⟨wf1, ho⟩
      exact ⟨wf1, hback ho⟩

theorem finished (h : FlagsRight d) (hex : Exclusive d) (hf : Finished d d' wf wf')
    (hno : wf.state ∈ workflowNonTerminalStates ∨
      ¬ ∃ wf1, Open d wf.artifactType wf.artifactID wf1) : FlagsRight d' :=
  h.ended hex hf.1.row hf.1.flags hf.2 hno

end FlagsRight

/-- What has to be known of a move so that it keeps the flags right. -/
structure Cautious (G : Guard) (d : Db) : Prop where
  create : ∀ wf, G.create d wf → ¬ ∃ wf', Open d wf.artifactType wf.artifactID wf'
  vote : ∀ t ids wf rows, G.vote t ids wf rows → Few rows ∧ WorkflowManager.Named rows ∧
    (t = .approve → wf.minimumApprovalCount ≤ score rows ∨ ¬ WorkflowManager.OutOfReach wf ids rows)
  fail : ∀ wf, d.workflows.get? wf.id = some wf → G.fail d wf →
    wf.state ∈ workflowNonTerminalStates ∨ ¬ ∃ wf', Open d wf.artifactType wf.artifactID wf'

namespace FlagsRight

variable {d d' : Db} {G : Guard} {x x' : World} {wf wf' : Workflow}

theorem voted (h : FlagsRight d) (hex : Exclusive d) {refused : Prop} {t : Transition} {u : String}
    {ids : Option (List String)} (hv : WorkflowManager.VoteCast refused t u ids wf wf' d d')
    (hfew : Few (approversOf d' wf.id))
    (hnamed : WorkflowManager.Named (approversOf d' wf.id))
    (hreach : t = .approve → wf.minimumApprovalCount ≤ score (approversOf d' wf.id) ∨
      ¬ WorkflowManager.OutOfReach wf ids (approversOf d' wf.id)) : FlagsRight d' := by
  obtain ⟨cleared, hout, hfl⟩ := hv.outcome
  have hopen : wf.state ∈ workflowNonTerminalStates := by rw [hv.waiting]; decide
  generalize hst : wf'.state = st at hout
  cases hout with
  | confirmed => exact h.stays hv.row hfl hopen (by rw [hst]; decide)
  | waiting => exact h.stays hv.row hfl hopen (by rw [hst]; decide)
  | rejected => exact h.ended hex hv.row hfl (by rw [hst]; decide) (.inl hopen)
  | autoRejected hun hout =>
    -- the vote itself did not decide, so the minimum is still in reach
    have hout := hout hfew hnamed
    have hun := hun hfew
    rcases isVote_iff.1 hv.isVote with rfl | rfl
    · rcases hreach rfl with hle | hno
      · have hlt := hun.1 rfl
        omega
      · exact absurd hout hno
    · exact absurd hout (hun.2 rfl)

theorem move (h : FlagsRight d) (hex : Exclusive d) (hG : Cautious G d)
    (hmove : Move G d x (some d') x') : FlagsRight d' := by
  cases hmove with
  | around ha => exact h.untouched (ha.1 d' rfl)
  | create hc hst => exact h.created hc hst
  | assign ha =>
    exact h.stays ha.row ha.flags (by rw [ha.initial]; decide) (by rw [ha.waiting]; decide)
  | vote hv hvote =>
    obtain ⟨hfew, hnamed, hreach⟩ := hG.vote _ _ _ _ hvote
    exact h.voted hex hv hfew hnamed hreach
  | finish ht hnext hf =>
    refine h.finished hex hf (.inl ((open_or_terminal _).resolve_right fun hterm => ?_))
    exact not_fires_of_terminal hterm (fires_of_nextState hnext)
  | confirm hst _ hf => exact h.finished hex hf (.inl (by rw [hst]; decide))
  | fail hf _ hfail => exact h.finished hex hf (hG.fail _ hf.1.row.old hfail)

end FlagsRight

/-- A creation that cannot pass by an open workflow: workflows are enabled, or there is none. -/
def Sole (c : Call) (s : St Db World) : Prop :=
  ∀ ctx req, c = .createWorkflow ctx req →
    (∃ config, s.db.workflowConfig = some config ∧ config.enabled = true) ∨
      Repo.ongoing s.db req.artifactType req.artifactID = []

structure Careful (p : WorkflowProcessor) (c : Call) (s : St Db World) : Prop where
  create : Sole c s
  /-- A vote is counted as cast, and an approval is not followed by a rejection. -/
  vote : ∀ ctx t u wf ids n, c = .transitionWorkflow ctx wf.id t → t.isVote →
    s.db.workflows.get? wf.id = some wf → ctx.extractUserIdentifier = .ok u →
    (p.updater.fetchEligibilityForVote ctx.tx wf t).eval s.db (s.clock + 1) = (.ok ids, n) →
    Few (Repo.approversOf s.db wf.id) ∧ WorkflowManager.Named (Repo.approversOf s.db wf.id) ∧
      (t = .approve →
        wf.minimumApprovalCount ≤ score ((Repo.approversOf s.db wf.id).map (castVote u true)) ∨
        ¬ WorkflowManager.OutOfReach wf ids ((Repo.approversOf s.db wf.id).map (castVote u true)))
  /-- The artifact of a workflow that has ended has no open one when its task comes. -/
  task : ∀ ctx payload id wf, c = .processTask ctx payload → payload.data = some id →
    s.db.workflows.get? id = some wf → wf.state ∈ workflowTerminalStates →
    Repo.ongoing s.db wf.artifactType wf.artifactID = []

theorem not_exists_open {ty : WorkflowArtifactType} :
    (¬ ∃ wf, Open d ty id wf) ↔ ongoing d ty id = [] := by
  rw [eq_nil_iff_forall_not_mem, not_exists]
  exact forall_congr' fun wf => not_congr mem_ongoing.symm

theorem ongoing_congr (h : d'.workflows = d.workflows) :
    ongoing d' = ongoing d := by
  funext ty id
  rw [ongoing, h]
  rfl

section

variable {p : WorkflowProcessor} {c : Call} {s : State} {d : Db}

theorem Sole.none_open (h : Sole c s) {wf : Workflow} (hG : (c.guard p s).create d wf) :
    ¬ ∃ wf', Open d wf.artifactType wf.artifactID wf' := by
  obtain ⟨ctx, req, rfl, hsub⟩ := hG
  obtain ⟨hty, hid⟩ := hsub.artifact
  rw [not_exists_open, hty, hid]
  rcases h ctx req rfl with ⟨config, hcfg, henabled⟩ | hnone
  · exact hsub.ongoing hcfg henabled
  · rw [ongoing_congr hsub.untouched.workflows]
    exact hnone

theorem Careful.cautious (h : Careful p c s) : Cautious (c.guard p s) d where
  create wf hG := h.create.none_open hG
  vote t ids wf rows hG := by
    obtain ⟨ctx, u, n, hc, ht, hwf, hu, hids, rfl⟩ := hG
    obtain ⟨hfew, hnamed, hreach⟩ := h.vote ctx t u wf ids n hc ht hwf hu hids
    refine ⟨?_, ?_, ?_⟩
    · unfold Few at hfew ⊢
      rwa [length_map]
    · intro a ha
      obtain ⟨a', ha', heq⟩ := mem_castVote ha
      exact heq ▸ hnamed a' ha'
    · rintro rfl
      exact hreach rfl
  fail wf hwf hG := by
    refine (open_or_terminal wf.state).imp_right fun hterm => ?_
    obtain ⟨ctx, payload, id, hc, hdata, rfl, hu | ⟨-, hst⟩⟩ := hG
    · rw [hu.workflows] at hwf
      rw [not_exists_open, ongoing_congr hu.workflows]
      exact h.task ctx payload _ wf hc hdata hwf hterm
    · exact absurd hterm (by rw [hst]; decide)

end

namespace Sample

/-- The request is stored, its approvers are assigned, and it is revoked. -/
def revoked : List Call :=
  [.createWorkflow (as "i") (link 1), .processTask worker (assign 1),
    .transitionWorkflow (as "i") 1 .revoke]

theorem flags_start (ty : WorkflowArtifactType) (id : UUID) (b : Bool)
    (h : start.db.flag ty id = some b) : b = false := by
  have hsys : ∀ sys, db.systems.get? id = some sys → sys.underWorkflow = false := fun sys h =>
    (by decide : ∀ sys ∈ db.systems.rows, sys.underWorkflow = false) sys (mem_of_get? h)
  have hkey : ∀ key, db.keys.get? id = some key → key.underWorkflow = false := fun key h =>
    (by decide : ∀ key ∈ db.keys.rows, key.underWorkflow = false) key (mem_of_get? h)
  cases ty with
  | system =>
    obtain ⟨sys, hs, rfl⟩ := Option.map_eq_some_iff.1 h
    exact hsys sys hs
  | key =>
    obtain ⟨key, hk, rfl⟩ := Option.map_eq_some_iff.1 h
    exact hkey key hk
  | keyConfiguration => cases h
  | other => cases h

theorem careful_create {req : Workflow} {config : WorkflowConfig}
    (hcfg : s.db.workflowConfig = some config) (henabled : config.enabled = true) :
    Careful processor (.createWorkflow ctx req) s where
  create _ _ _ := .inl ⟨config, hcfg, henabled⟩
  vote _ _ _ _ _ _ h := by cases h
  task _ _ _ _ h := by cases h

theorem careful_revoke :
    Careful processor (.transitionWorkflow ctx id .revoke) s where
  create _ _ h := by cases h
  vote _ _ _ _ _ _ h ht := by cases h; cases ht
  task _ _ _ _ h := by cases h

theorem careful_task {st : WorkflowState} (h : (s.db.workflows.get? id).map (·.state) = some st)
    (hst : st ∉ workflowTerminalStates) :
    Careful processor (.processTask ctx (assign id)) s where
  create _ _ h := by cases h
  vote _ _ _ _ _ _ h := by cases h
  task _ _ _ wf hc hdata hwf hterm := by
    cases hc
    cases hdata
    rw [hwf] at h
    exact absurd (Option.some.inj h ▸ hterm) hst

theorem careful_revoked : Call.Along processor (Careful processor) revoked start :=
  .cons (careful_create rfl rfl) (.cons (careful_task initial_after_create (by decide))
    (.cons careful_revoke trivial))

def leaving : WorkflowProcessor :=
  ⟨manager (fun n => if n < 52 then ["a", "b", "c", "i"] else ["a", "i"]) fun _ => .ok "CREATED", repo⟩

end Sample

end Cmk
