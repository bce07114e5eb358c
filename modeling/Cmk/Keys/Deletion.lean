import Cmk.Keys.Primary

/-!
# Cmk.Keys.Deletion

`Delete` deletes the key at its provider first and its rows afterwards. The second step can fail: a
label keeps the row, the ID was nil, the commit is lost. The provider's key does not come back.
-/

namespace Cmk

open Tx Repo

/-- What a deletion that fails must leave: the key, its versions, and its counterpart at the
provider. -/
structure KeyKept (key : Key) (s s' : St Db World) : Prop where
  stored : ∃ st, s'.db.keys.get? key.id = some { key with state := st }
  versions : ∀ v ∈ s.db.keyVersions.rows, v.keyID = key.id → (s'.db.keyVersions.get? v.key).isSome
  provider : s'.ext.deletedKeys = s.ext.deletedKeys

/-- The deletion is refused, or has nothing to delete at the provider. -/
def Undeletable (d : Db) (key : Key) : Prop :=
  key.keyType ≠ some .byok ∨ key.state = .pendingCreation ∨ key.nativeID = none ∨
    d.primaryKeyID key.keyConfigurationID = some key.id ∧ Repo.systemsOf d key.keyConfigurationID ≠ []

namespace KeyManager

variable {m : KeyManager} {ctx : Ctx} {s : State} {key : Key} {keyID : UUID}

theorem Read.kept {st : KeyState} {s' : State} (h : Read keyID s key st s') : KeyKept key s s' where
  stored := ⟨st, by rw [h.stateSet.keys, Function.update_self]⟩
  versions v hv _ := h.stateSet.versions v.key (by rw [get?_key hv]; rfl)
  provider := h.jobs.deletedKeys

theorem wp_delete_kept (hout : ctx.inTx = false) (hkey : byID s.db.keys keyID = some key)
    (h : Undeletable s.db key) :
    (m.delete ctx keyID).wp false (fun res s' => ∀ e, res = .error e → KeyKept key s s') s := by
  refine wp_delete hout (fun e s' hd hx _ _ => ⟨⟨key.state, ?_⟩, fun v hv _ => ?_, by rw [hx]⟩)
    (fun e row st s' hread _ _ => ?_) (fun e row nativeID s' hrow htype hmanaged hguard _ _ _ _ => ?_)
    fun row s' _ _ _ => by simp
  · rw [hd]
    exact get?_of_byID hkey
  · rw [hd, get?_key hv]
    rfl
  · cases hkey.symm.trans hread.found
    exact hread.kept
  · cases hkey.symm.trans hrow
    rcases h with h | h | h | ⟨hprimary, hsystems⟩
    · exact absurd htype h
    · exact absurd h hmanaged.2.1
    · rw [hmanaged.2.2] at h
      cases h
    · exact absurd (hguard hprimary) hsystems

def uncommitted : KeyManager :=
  { Sample.keyManager (Sample.eventFactory fun _ => .ok "CREATED") with
    repo := { Sample.repo with commit := fun _ => some (.foreign "connection lost") } }

def provisioner : Ctx := ⟨"t", some .internalUser, none, some .tenantProvisioning, false⟩

theorem wp_get_uncommitted (hkey : byID s.db.keys keyID = some key) (htype : key.keyType = some .byok)
    {P : Post LoadedKey}
    (hok : ∀ regions n, P (.ok ⟨key, decide (s.db.primaryKeyID key.keyConfigurationID = some key.id),
      regions⟩) { s with clock := n }) : (uncommitted.get provisioner keyID).wp false P s := by
  have ht : provisioner.tenant ≠ "" := by decide
  refine wp_query_bind (fun e n he => ?_) fun row n hrow => ?_
  · obtain ⟨e', he⟩ := Query.eval_mapError_error he
    rw [firstKeyByID, eval_first_found ht rfl hkey] at he
    cases he
  cases hkey.symm.trans (eval_first_ok (eval_mapError_ok hrow)).1
  refine wp_query_bind (fun e n he => ?_) fun isPrimary n hprimary => ?_
  · obtain ⟨e', he⟩ := Query.eval_mapError_error he
    rw [eval_isPrimaryKey ht rfl] at he
    cases he
  rw [eval_isPrimaryKey_ok (eval_mapError_ok hprimary)]
  refine wp_query_bind (fun e n he => by cases he) fun _ n _ => ?_
  rw [htype]
  refine wp_query_bind (fun e n he => ?_) fun regions n _ => hok regions n
  unfold setEditableStatus at he
  split at he
  · cases he
  · rw [if_pos (.inr (by simp [htype]))] at he
    cases he

theorem wp_deleteRows_uncommitted {P : Post Unit}
    (hfail : ∀ e s', s'.ext = s.ext → P (.error e) s') :
    (uncommitted.deleteRows provisioner keyID).wp false P s := by
  unfold deleteRows
  rw [transaction_outermost rfl]
  refine wp_mapError (Prog.wp_transact (wp_bind (wp_mapError (wp_exec_any
    (fun e s' _ _ hx => ⟨fun _ _ hc => absurd hc (by simp [uncommitted]), fun _ e k => hfail _ _ hx⟩) fun s1 _ _ hx1 => ?_))))
  refine wp_mapError (wp_exec_any (fun e s' _ _ hx => ?_) fun s2 _ _ hx2 => ?_)
  · exact ⟨fun _ _ hc => absurd hc (by simp [uncommitted]), fun _ e k => hfail _ _ (hx.trans hx1)⟩
  · exact ⟨fun _ _ hc => absurd hc (by simp [uncommitted]), fun _ e k => hfail _ _ (hx2.trans hx1)⟩

/-- A deletion that gets past its checks deletes at the provider, and then nothing else. -/
theorem wp_delete_uncommitted (hkey : byID s.db.keys keyID = some key)
    (h : ¬ Undeletable s.db key) :
    (uncommitted.delete provisioner keyID).wp false (fun res s' => (∃ e, res = .error e) ∧
      s'.ext.deletedKeys ≠ s.ext.deletedKeys) s := by
  obtain ⟨htype, hstate, hid, hguard⟩ : key.keyType = some .byok ∧ key.state ≠ .pendingCreation ∧
      key.nativeID ≠ none ∧ (s.db.primaryKeyID key.keyConfigurationID = some key.id →
        systemsOf s.db key.keyConfigurationID = []) := by
    simpa [Undeletable] using h
  obtain ⟨nativeID, hid⟩ := Option.ne_none_iff_exists'.1 hid
  have hrows : ∀ s1 : State, s1.ext.deletedKeys = s.ext.deletedKeys ++ [nativeID] → (do
      (uncommitted.deleteRows provisioner keyID).mapError (.wrap .errDeleteKey)
      uncommitted.sendAuditLog .delete key.id : M Unit).wp false (fun res s' => (∃ e, res = .error e) ∧
        s'.ext.deletedKeys ≠ s.ext.deletedKeys) s1 := by
    intro s1 hs1
    refine wp_bind (wp_mapError (wp_deleteRows_uncommitted fun e s' hx => ⟨⟨_, rfl⟩, ?_⟩))
    rw [hx, hs1]
    simp
  have hchecked : ∀ n, (do
      uncommitted.deleteProviderKey key
      (uncommitted.deleteRows provisioner keyID).mapError (.wrap .errDeleteKey)
      uncommitted.sendAuditLog .delete key.id : M Unit).wp false (fun res s' => (∃ e, res = .error e) ∧
        s'.ext.deletedKeys ≠ s.ext.deletedKeys) { s with clock := n } := by
    intro n
    refine wp_bind ?_
    unfold deleteProviderKey
    rw [if_neg (by simp [htype, hstate])]
    refine wp_query_bind (fun e n he => by cases he) fun _ n _ => ?_
    rw [hid]
    refine wp_mapError ?_
    unfold Prog.wp deleteAtProvider
    rw [run_call]
    exact hrows _ rfl
  refine wp_bind (wp_mapError (wp_get_uncommitted hkey htype fun regions n => ?_))
  simp only [Except.mapError, Prog.throw_bind]
  split
  · rename_i hprimary
    refine wp_query_bind (fun e n he => ?_) fun existing n hcount => ?_
    · rw [hasConnectedSystems, eval_bind, count, eval_query (by decide) rfl] at he
      cases he
    obtain ⟨count, n', hc, hex⟩ := eval_bind_ok hcount
    cases hex
    rw [(eval_count_ok hc).1, hguard (by simpa using hprimary)]
    exact hchecked n
  · exact hchecked n

end KeyManager

/-- Whatever fails in a deletion, the key is kept with its versions and at its provider, exactly if
the deletion has nothing to delete at the provider or is refused before. -/
theorem failed_delete_keeps_iff {d : Db} {x : World} {key : Key} {keyID : UUID}
    (hkey : Repo.byID d.keys keyID = some key) :
    (∀ (m : KeyManager) (ctx : Ctx) (clock : Nat) (commits : List Db) (e : Exn) (s' : St Db World),
      ctx.inTx = false → (m.delete ctx keyID).run false ⟨d, x, clock, commits⟩ = (.error e, s') →
      KeyKept key ⟨d, x, clock, commits⟩ s') ↔ Undeletable d key := by
  constructor
  · intro h
    by_contra hn
    obtain ⟨⟨e, he⟩, hlost⟩ := KeyManager.wp_delete_uncommitted (s := ⟨d, x, 0, []⟩) hkey hn
    exact hlost (h KeyManager.uncommitted KeyManager.provisioner 0 [] e _ rfl (Prod.ext he rfl)).provider
  · intro h m ctx clock commits e s' hout hrun
    exact Prog.wp_of_run (KeyManager.wp_delete_kept (s := ⟨d, x, clock, commits⟩) hout hkey h) hrun e rfl

namespace Sample

def labelled (key : Key) : St Db World :=
  { start with db := { db with keys := ⟨[key], by simp⟩, keyLabels := ⟨[⟨70, 20⟩], by decide⟩ } }

end Sample

theorem failed_delete_keeps_registered :
    KeyKept (Sample.registeredKey 20 30 "k") (Sample.labelled (Sample.registeredKey 20 30 "k"))
      ((Sample.keyPlatform.keys.delete (Sample.as "a") 20).run false
        (Sample.labelled (Sample.registeredKey 20 30 "k"))).2 := by
  have hfail : ((Sample.keyPlatform.keys.delete (Sample.as "a") 20).run false
      (Sample.labelled (Sample.registeredKey 20 30 "k"))).1.isOk = false := by decide +kernel
  have hkey : Repo.byID (Sample.labelled (Sample.registeredKey 20 30 "k")).db.keys 20 =
      some (Sample.registeredKey 20 30 "k") := by decide +kernel
  cases hres : ((Sample.keyPlatform.keys.delete (Sample.as "a") 20).run false
      (Sample.labelled (Sample.registeredKey 20 30 "k"))).1 with
  | ok u =>
    rw [hres] at hfail
    cases hfail
  | error e =>
    exact (failed_delete_keeps_iff hkey).2 (.inl (by decide)) _ _ _ _ e _ rfl (Prod.ext hres rfl)

/-- The label keeps the row, and the key is gone at the provider. -/
theorem labelled_key_lost :
    let s := Sample.labelled (Sample.enabledKey 20 30 "k")
    let r := (Sample.keyPlatform.keys.delete (Sample.as "a") 20).run false s
    r.1.isOk = false ∧ s.ext.deletedKeys = [] ∧ r.2.ext.deletedKeys = ["k"] ∧
      (r.2.db.keys.get? 20).bind Key.nativeID = some "k" := by
  decide +kernel

end Cmk
