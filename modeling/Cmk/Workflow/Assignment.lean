import Mathlib.Data.List.Perm.Lattice
import Cmk.Quorum

/-!
# Cmk.Workflow.Assignment

The approvers of a new workflow. `AutoAssignApprovers` looks up the key configurations the workflow
is about, asks the identity management for the members of their admin groups, and in one
transaction stores an approver row for each user, a row for each group, and the transition out of
`INITIAL`. The transition counts the rows that were just written, so too few users roll the
transaction back.

* `eligibleUsers`      — the distinct members of the admin groups other than the initiator.
* `AssignedExactly`    — what the tables hold when the transaction has committed.
* `approvers_assigned` — that, or nothing was stored; too few users are the second case.
-/

namespace Cmk

open Tx List Prog

namespace WorkflowManager

variable {w : WorkflowManager} {ctx : Ctx} {wf : Workflow} {s s₁ : State}
  {members : String → List String} {kcs : List KeyConfiguration} {users : List String} {d d' : Db}

/-- What the identity management answers about a group are its members. -/
def MembersAnswered (w : WorkflowManager) (ctx : Ctx) (members : String → List String) : Prop :=
  ∀ registry, w.groupManager.svcRegistry = some registry → ∀ k idm,
    registry.identityManagement k = .ok idm → ∀ n m group groupID users,
      idm.getGroup n group ctx.authContext = .ok groupID →
      idm.listGroupUsers m groupID ctx.authContext = .ok users → users = members group

def UniqueIdentifiers (kcs : List KeyConfiguration) : Prop :=
  ∀ kc ∈ kcs, ∀ kc' ∈ kcs, kc.adminGroup.iamIdentifier = kc'.adminGroup.iamIdentifier →
    kc.adminGroup.id = kc'.adminGroup.id

def eligibleUsers (members : String → List String) (wf : Workflow) (kcs : List KeyConfiguration) :
    List String :=
  ((kcs.flatMap fun kc => members kc.adminGroup.iamIdentifier).filter (· ≠ wf.initiatorID)).dedup

/-- No approver row, group row or workflow row changed. -/
structure NotAssigned (d d' : Db) : Prop where
  workflows : d'.workflows = d.workflows
  approvers : d'.approvers = d.approvers
  approverGroups : d'.approverGroups = d.approverGroups

structure AssignedExactly (d : Db) (wf : Workflow) (users : List String) (groups : List UUID) :
    Prop where
  waiting : (d.workflows.get? wf.id).map (·.state) = some .waitApproval
  approvers : ((Repo.approversOf d wf.id).map (·.userID)).Perm users
  undecided : ∀ a ∈ Repo.approversOf d wf.id, a.approved = none
  enough : wf.minimumApprovalCount ≤ (Repo.approversOf d wf.id).length
  groups : ∀ id, (∃ g ∈ d.approverGroups.rows, g.workflowID = wf.id ∧ g.groupID = id) ↔ id ∈ groups

theorem eval_ask_mapError_ok {ε α : Type} {f : Nat → Db → Except ε α} {wrap : ε → Exn} {a : α}
    {n m : Nat} (h : (Query.ask fun n d => (f n d).mapError wrap : Q α).eval d n = (.ok a, m)) :
    f n d = .ok a := by
  rw [Query.eval_ask] at h
  cases hf : f n d with
  | error e => rw [hf] at h; cases h
  | ok b => rw [hf] at h; cases h; rfl

theorem collectApprovers_exact {idm : IdentityManagement} {auth : AuthContext} {initiator : String}
    (hmembers : ∀ n m group groupID users, idm.getGroup n group auth = .ok groupID →
      idm.listGroupUsers m groupID auth = .ok users → users = members group)
    {a : List String × List Group} {n m : Nat}
    (h : (collectApprovers idm auth initiator kcs).eval d n = (.ok a, m)) :
    a = ((kcs.flatMap fun kc => members kc.adminGroup.iamIdentifier).filter (· ≠ initiator),
      kcs.map (·.adminGroup)) := by
  induction kcs generalizing a n m with
  | nil =>
    cases h
    rfl
  | cons kc kcs ih =>
    simp only [collectApprovers, Query.throw_bind] at h
    split at h
    · cases h
    obtain ⟨users, n1, husers, h⟩ := eval_bind_ok h
    obtain ⟨groupID, n2, hgroup, husers⟩ := eval_bind_ok (eval_mapError_ok husers)
    obtain ⟨rest, n3, hrest, h⟩ := eval_bind_ok h
    obtain rfl := hmembers _ _ _ _ _ (eval_ask_mapError_ok hgroup) (eval_ask_mapError_ok husers)
    cases ih hrest
    cases h
    simp

theorem getApproversAndGroupsFromKeyConfigs_exact (hmembers : w.MembersAnswered ctx members)
    {a : List String × List Group} {n m : Nat}
    (h : (w.getApproversAndGroupsFromKeyConfigs ctx wf kcs).eval d n = (.ok a, m)) :
    a = (eligibleUsers members wf kcs,
      (kcs.map (·.adminGroup)).pwFilter fun g g' => g.iamIdentifier ≠ g'.iamIdentifier) := by
  obtain ⟨idm, n1, hidm, h⟩ := eval_bind_ok h
  obtain ⟨b, n2, hb, h⟩ := eval_bind_ok h
  cases h
  unfold GroupManager.getIdentityManagementPlugin at hidm
  split at hidm
  · cases hidm
  · rename_i registry hregistry
    have hplugin := eval_ask_mapError_ok hidm
    rw [collectApprovers_exact (hmembers registry hregistry _ idm hplugin) hb]
    rfl

theorem mem_distinctGroups (hunique : UniqueIdentifiers kcs) (id : UUID) :
    id ∈ ((kcs.map (·.adminGroup)).pwFilter fun g g' => g.iamIdentifier ≠ g'.iamIdentifier).map
        (·.id) ↔ id ∈ kcs.map (·.adminGroup.id) := by
  constructor
  · intro h
    obtain ⟨g, hg, rfl⟩ := mem_map.1 h
    obtain ⟨kc, hkc, rfl⟩ := mem_map.1 (pwFilter_subset _ hg)
    exact mem_map_of_mem hkc
  · intro h
    obtain ⟨kc, hkc, rfl⟩ := mem_map.1 h
    by_contra hnone
    have hall : ∀ g ∈ (kcs.map (·.adminGroup)).pwFilter fun g g' => g.iamIdentifier ≠ g'.iamIdentifier,
        kc.adminGroup.iamIdentifier ≠ g.iamIdentifier := by
      intro g hg heq
      obtain ⟨kc', hkc', rfl⟩ := mem_map.1 (pwFilter_subset _ hg)
      exact hnone (mem_map.2 ⟨_, hg, (hunique _ hkc' _ hkc heq.symm)⟩)
    have htrans : ∀ {x y z : Group}, x.iamIdentifier ≠ z.iamIdentifier →
        x.iamIdentifier ≠ y.iamIdentifier ∨ y.iamIdentifier ≠ z.iamIdentifier := by
      intro x y z hne
      by_contra hboth
      push Not at hboth
      exact hne (hboth.1.trans hboth.2)
    exact (forall_mem_pwFilter (R := fun g g' : Group => g.iamIdentifier ≠ g'.iamIdentifier) htrans
      kc.adminGroup _).1 hall _ (mem_map_of_mem hkc) rfl

theorem Seated.approversOf (h : Seated d d' wf.id users) (hnone : approversOf d wf.id = [])
    (a : WorkflowApprover) :
    a ∈ approversOf d' wf.id ↔ ∃ u ∈ users, a = ⟨wf.id, u, none⟩ := by
  rw [Repo.approversOf, mem_filter, h a]
  constructor
  · rintro ⟨hseat | ⟨hold, -⟩, hid⟩
    · exact hseat
    · have hmem : a ∈ Repo.approversOf d wf.id := mem_filter.2 ⟨hold, hid⟩
      rw [hnone] at hmem
      cases hmem
  · rintro ⟨u, hu, rfl⟩
    exact ⟨.inl ⟨u, hu, rfl⟩, decide_eq_true rfl⟩

theorem SeatsTaken.exactly {groups : List Group} {first last : Nat} {wf' : Workflow}
    (h : SeatsTaken w d d' first last wf users groups) (hassigned : Assigned d d' wf wf' users)
    (hnone : approversOf d wf.id = [])
    (hgroups : ∀ g ∈ d.approverGroups.rows, g.workflowID ≠ wf.id)
    (hfresh : FreshGroupIDs w d first last) (hnodup : users.Nodup) : AssignedExactly d' wf users (groups.map (·.id)) where
  waiting := by rw [hassigned.row.new, Option.map_some, hassigned.waiting]
  approvers := by
    refine (perm_ext_iff_of_nodup (nodup_approversOf d' wf.id) hnodup).2 fun u => ?_
    constructor
    · intro hu
      obtain ⟨a, ha, rfl⟩ := mem_map.1 hu
      obtain ⟨u, hmem, rfl⟩ := (h.seated.approversOf hnone a).1 ha
      exact hmem
    · intro hu
      exact mem_map.2 ⟨_, (h.seated.approversOf hnone _).2 ⟨u, hu, rfl⟩, rfl⟩
  undecided a ha := by
    obtain ⟨u, -, rfl⟩ := (h.seated.approversOf hnone a).1 ha
    rfl
  enough := h.enough
  groups id := by
    constructor
    · rintro ⟨g, hg, hwf, rfl⟩
      rcases h.named.old g hg with hold | ⟨-, hid⟩
      · exact absurd hwf (hgroups g hold)
      · exact hid
    · intro hid
      obtain ⟨group, hgroup, rfl⟩ := mem_map.1 hid
      exact (h.named.new hfresh).2 group hgroup

theorem wp_autoAssignApprovers (hout : ctx.inTx = false)
    (hrow : s.db.workflows.get? wf.id = some wf) (hmin : 1 ≤ wf.minimumApprovalCount)
    (hnone : approversOf s.db wf.id = [])
    (hgroups : ∀ g ∈ s.db.approverGroups.rows, g.workflowID ≠ wf.id)
    (hkcs : (w.getKeyConfigurationsFromArtifact ctx wf).run false { s with clock := s.clock + 1 } =
      (.ok kcs, s₁))
    (hunique : UniqueIdentifiers kcs) (hmembers : w.MembersAnswered ctx members) :
    (w.autoAssignApprovers ctx wf.id).wp false (fun r s' =>
      FreshGroupIDs w s.db s.clock s'.clock →
      AssignedExactly s'.db wf (eligibleUsers members wf kcs) (kcs.map (·.adminGroup.id)) ∨
        (∃ e, r = .error e) ∧ NotAssigned s.db s'.db) s := by
  refine wp_query_bind (fun e n _ _ => .inr ⟨⟨e, rfl⟩, rfl, rfl, rfl⟩) fun wf₀ n hwf => ?_
  obtain ⟨hrow₀, rfl⟩ := eval_first_ok (eval_mapError_ok hwf)
  cases hrow.symm.trans hrow₀
  have hu : Untouched s.db s₁.db :=
    ((w.getKeyConfigurationsFromArtifact_syncs ctx wf).calm.run hkcs).1
  have hclock : s.clock + 1 ≤ s₁.clock := by
    have hle := le_clock_run false (w.getKeyConfigurationsFromArtifact ctx wf)
      { s with clock := s.clock + 1 }
    rwa [hkcs] at hle
  refine wp_bind_run (fun e s₂ hr => ?_) fun kcs₂ s₂ hr => ?_
  · cases hkcs.symm.trans hr
  cases hkcs.symm.trans hr
  have hsame : NotAssigned s.db s₁.db := ⟨hu.workflows, hu.approvers, hu.approverGroups⟩
  refine wp_query_bind (fun e n _ _ => .inr ⟨⟨e, rfl⟩, hsame⟩) fun a n ha => ?_
  rw [getApproversAndGroupsFromKeyConfigs_exact hmembers ha]
  refine wp_bind (wp_mapError (wp_addApproversAndGroupAssociations
    (s := { s₁ with clock := n }) hout (hu.workflows ▸ hrow) (by omega) ?_ ?_))
  · intro e s₂ hs₂ _
    exact .inr ⟨⟨_, rfl⟩, hs₂.db ▸ hsame⟩
  · intro wf' s₂ hassigned hseats _ _
    have hle : s₁.clock ≤ n := by
      have hle := le_clock_run false
        (liftM (w.getApproversAndGroupsFromKeyConfigs ctx wf kcs) : M (List String × List Group)) s₁
      rwa [run_lift, ha] at hle
    have hwide := hseats.named.widen ((Nat.le_of_succ_le hclock).trans hle) le_rfl
    refine wp_clock (wp_mono (wp_notify (.refl s₂)) fun r s₃ h hlast hfresh => .inl ?_)
    have hexact := SeatsTaken.exactly { hseats with named := hwide.widen le_rfl hlast } hassigned
      (approversOf_congr hu.approvers ▸ hnone) (hu.approverGroups ▸ hgroups)
      (fun k hk hk' => hu.approverGroups ▸ hfresh k hk hk') (nodup_dedup _)
    rw [h.1.db]
    exact { hexact with groups := fun id => (hexact.groups id).trans (mem_distinctGroups hunique id) }

end WorkflowManager

open WorkflowManager

theorem approvers_assigned {w : WorkflowManager} {ctx : Ctx} {wf : Workflow} {s s₁ : St Db World}
    {members : String → List String} {kcs : List KeyConfiguration} (hout : ctx.inTx = false)
    (hrow : s.db.workflows.get? wf.id = some wf) (hmin : 1 ≤ wf.minimumApprovalCount)
    (hnone : Repo.approversOf s.db wf.id = [])
    (hgroups : ∀ g ∈ s.db.approverGroups.rows, g.workflowID ≠ wf.id)
    (hkcs : (w.getKeyConfigurationsFromArtifact ctx wf).run false { s with clock := s.clock + 1 } =
      (.ok kcs, s₁))
    (hunique : UniqueIdentifiers kcs) (hmembers : w.MembersAnswered ctx members)
    (hfresh : FreshGroupIDs w s.db s.clock ((w.autoAssignApprovers ctx wf.id).run false s).2.clock) :
    let out := (w.autoAssignApprovers ctx wf.id).run false s
    let users := eligibleUsers members wf kcs
    let refused := (∃ e, out.1 = .error e) ∧ NotAssigned s.db out.2.db
    (AssignedExactly out.2.db wf users (kcs.map (·.adminGroup.id)) ∨ refused) ∧
      (users.length < wf.minimumApprovalCount → refused) := by
  intro out users refused
  have hcases : AssignedExactly out.2.db wf users (kcs.map (·.adminGroup.id)) ∨ refused :=
    wp_autoAssignApprovers hout hrow hmin hnone hgroups hkcs hunique hmembers hfresh
  refine ⟨hcases, fun hfew => hcases.resolve_left fun h => ?_⟩
  have hlen := h.approvers.length_eq
  rw [List.length_map] at hlen
  have henough := h.enough
  omega

namespace Sample

def requestedLink : Workflow := { link 1 with minimumApprovalCount := 2 }

def linkRequested : St Db World :=
  { start with db := { db with workflows := ⟨[requestedLink], by decide⟩ } }

def linkTarget : KeyConfiguration :=
  { id := 30, name := "kc", adminGroupID := 10, primaryKeyID := some 20,
    adminGroup := ⟨10, "g", some .keyAdmin, "KMS_g"⟩ }

/-- Of the four members of the group, the three who did not ask for the link get a seat. -/
theorem link_assigned :
    AssignedExactly
      ((processor.updater.autoAssignApprovers (as "i") 1).run false linkRequested).2.db
      requestedLink ["a", "b", "c"] [10] := by
  have h := (@approvers_assigned processor.updater (as "i") requestedLink linkRequested
    ((processor.updater.getKeyConfigurationsFromArtifact (as "i") requestedLink).run false
      { linkRequested with clock := 1 }).2
    (fun _ => ["a", "b", "c", "i"]) [linkTarget] rfl rfl (by decide) rfl
    (List.forall_mem_nil _) rfl
    (by simp [UniqueIdentifiers]) ?_ ?_).1
  · refine h.resolve_right fun h => ?_
    obtain ⟨⟨e, he⟩, -⟩ := h
    cases he
  · intro registry hregistry k idm hidm n m group groupID users _ husers
    cases hregistry
    cases hidm
    exact (Except.ok.inj husers).symm
  · intro n _ hn
    refine ⟨List.forall_mem_nil _, fun m hnm hm heq => ?_⟩
    have hlast : m < 24 := hm
    have hsum := congrArg BitVec.toNat heq
    simp only [processor, manager, BitVec.toNat_add, BitVec.toNat_ofNat, BitVec.natCast_eq_ofNat] at hsum
    omega

end Sample

end Cmk
