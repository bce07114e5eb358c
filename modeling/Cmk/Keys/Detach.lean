import Cmk.Keys.Versions

/-!
# Cmk.Keys.Detach

A key that is being detached or is detached, and everything that may write its state: `Detach` and the
callbacks of its job, the synchronisation of HYOK keys, reads and updates.

* `Spared`  — the key has the state it had, and no job but one that detaches it was created for it.
* One lemma for each request, then `KeyAct.step` and `detached_is_final` for the runs.

The synchronisation does not look at the state it overwrites, and neither does a user who enables a
key. So a run has to keep them away from such a key.
-/

namespace Cmk

open Tx Function List KeyManager Repo Db

variable {key row : Key} {st : KeyState} {d d' : Db}

def KeyState.Withdrawn (st : KeyState) : Prop := st = .detaching ∨ st = .detached

instance (st : KeyState) : Decidable st.Withdrawn := inferInstanceAs (Decidable (_ ∨ _))

def Db.keyState (d : Db) (k : UUID) : Option KeyState := (d.keys.get? k).map Key.state

/-- Jobs were only added, and none of them enables, disables or rotates the key. -/
structure LeftAlone (k : UUID) (x x' : World) : Prop where
  keyJobs : ∃ l, x'.keyJobs = x.keyJobs ++ l ∧ ∀ job ∈ l, job.externalID = k → job.type = .keyDetach
  jobs : ∃ l, x'.jobs = x.jobs ++ l ∧
    ∀ job ∈ l, job.type = .systemKeyRotate → job.data.keyIDTo ≠ some k

namespace LeftAlone

variable {k : UUID} {x x' x'' : World}

theorem of_eq (hk : x'.keyJobs = x.keyJobs) (hj : x'.jobs = x.jobs) : LeftAlone k x x' :=
  ⟨⟨[], by rw [hk, append_nil], by simp⟩, ⟨[], by rw [hj, append_nil], by simp⟩⟩

theorem trans (h : LeftAlone k x x') (h' : LeftAlone k x' x'') : LeftAlone k x x'' := by
  obtain ⟨⟨l1, h1, hl1⟩, ⟨k1, g1, hk1⟩⟩ := h
  obtain ⟨⟨l2, h2, hl2⟩, ⟨k2, g2, hk2⟩⟩ := h'
  refine ⟨⟨l1 ++ l2, by rw [h2, h1, append_assoc], fun job hjob => ?_⟩,
    ⟨k1 ++ k2, by rw [g2, g1, append_assoc], fun job hjob => ?_⟩⟩
  · rcases mem_append.1 hjob with hjob | hjob
    · exact hl1 job hjob
    · exact hl2 job hjob
  · rcases mem_append.1 hjob with hjob | hjob
    · exact hk1 job hjob
    · exact hk2 job hjob

theorem of_jobsOf {id : UUID} (h : JobsOf id x x') (hne : k ≠ id) : LeftAlone k x x' := by
  obtain ⟨-, ⟨l, hl, hid⟩, ⟨l', hl', hid'⟩⟩ := h
  refine ⟨⟨l, hl, fun job hjob hk => ?_⟩, ⟨l', hl', fun job hjob _ hk => ?_⟩⟩
  · exact absurd (hk.symm.trans (hid job hjob)) hne
  · rw [hid' job hjob] at hk
    exact hne (Option.some.inj hk).symm

end LeftAlone

instance (k : UUID) : Std.Refl (LeftAlone k) := ⟨fun _ => .of_eq rfl rfl⟩

instance (k : UUID) : IsTrans World (LeftAlone k) := ⟨fun _ _ _ => .trans⟩

structure Spared (k : UUID) (s s' : St Db World) : Prop where
  state : s'.db.keyState k = s.db.keyState k
  jobs : LeftAlone k s.ext s'.ext

namespace Spared

variable {k : UUID} {s s' s'' : State}

theorem of_eq (hd : s'.db.keys = s.db.keys) (hx : s'.ext = s.ext) : Spared k s s' where
  state := by rw [keyState, hd]; rfl
  jobs := by rw [hx]; exact refl_of _ _

theorem trans (h : Spared k s s') (h' : Spared k s' s'') : Spared k s s'' :=
  ⟨h'.state.trans h.state, h.jobs.trans h'.jobs⟩

theorem of_update {id : UUID} {row : Option Key} (hne : k ≠ id)
    (hd : s'.db.keys.get? = update s.db.keys.get? id row) (hx : JobsOf id s.ext s'.ext) :
    Spared k s s' where
  state := by rw [keyState, hd, update_of_ne hne]; rfl
  jobs := .of_jobsOf hx hne

end Spared

namespace KeyManager

variable {m : KeyManager} {ctx : Ctx} {s : State} {k keyID : UUID}

theorem Read.spared {s' : State} (h : Read keyID s row st s')
    (hallowed : row.keyType = some .hyok → k ≠ row.id) : Spared k s s' := by
  by_cases hk : k = row.id
  · have hd := h.managed fun htype => hallowed htype hk
    exact .of_eq (by rw [hd.1]) hd.2.1
  · exact .of_update hk h.stateSet.keys h.jobs

theorem ne_of_withdrawn (hfound : byID s.db.keys keyID = some row)
    (hrow : ¬ row.state.Withdrawn) (hst : s.db.keyState k = some st) (hw : st.Withdrawn) :
    k ≠ row.id := by
  rintro rfl
  rw [keyState, get?_of_byID hfound] at hst
  cases hst
  exact hrow hw

theorem wp_get_spared (hout : ctx.inTx = false)
    (hallowed : ∀ row, byID s.db.keys keyID = some row → row.keyType = some .hyok →
      ¬ row.state.Withdrawn) (hst : s.db.keyState k = some st) (hw : st.Withdrawn) :
    (m.get ctx keyID).wp false (fun _ s' => Spared k s s') s := by
  have hread : ∀ (row : Key) (st' : KeyState) (s' : State), Read keyID s row st' s' →
      Spared k s s' := fun row st' s' h =>
    h.spared fun htype => ne_of_withdrawn h.found (hallowed row h.found htype) hst hw
  exact wp_get hout (fun e s' hd hx => .of_eq (by rw [hd]) hx) (fun e row st' s' h => hread row st' s' h)
    fun loaded row st' s' h _ _ _ => hread row st' s' h

theorem handleCryptoDetailsUpdate_ok {patch : KeyPatch} {loaded : LoadedKey} {n n' : Nat}
    (h : (m.handleCryptoDetailsUpdate patch loaded).eval d n = (.ok key, n')) :
    ∃ data, key = { loaded.key with cryptoAccessData := data } := by
  unfold handleCryptoDetailsUpdate at h
  split at h
  · cases h
    exact ⟨_, rfl⟩
  · obtain ⟨_, n1, -, h⟩ := eval_bind_ok h
    obtain ⟨_, n2, -, h⟩ := eval_bind_ok h
    obtain ⟨_, n3, -, h⟩ := eval_bind_ok h
    obtain ⟨_, n4, -, h⟩ := eval_bind_ok h
    cases h
    exact ⟨_, rfl⟩

/-- A row is written, or kept. The jobs are about the key, and there are none without a change of its
enablement. -/
theorem wp_applyKeyPatch {enablement : Option Bool} (hout : ctx.inTx = false)
    (hrow : s.db.keys.get? key.id = some row) :
    (m.applyKeyPatch ctx key enablement).wp false (fun _ s' => JobsOf key.id s.ext s'.ext ∧
      (enablement = none → s'.ext = s.ext) ∧ ∃ row', (row' = row ∨ row' = key) ∧
        s'.db.keys.get? = update s.db.keys.get? key.id (some row')) s := by
  have hid : row.id = key.id := key_of_get? hrow
  have hkept : s.db.keys.get? = update s.db.keys.get? key.id (some row) := by
    rw [← hrow, update_eq_self]
  refine wp_transaction hout (wp_bind (wp_mapError (wp_patchKey_all hrow
    (fun e s1 hd hx => ?_) fun s1 _ hrew _ hx => ?_)))
  · refine ⟨by simp, fun _ e k => ⟨?_, fun _ => hx, row, .inl rfl, hkept⟩⟩
    rw [hx]
    exact refl_of _ _
  have hdone : ∀ s2 : State, KeysKept s1.db s2.db → JobsOf key.id s1.ext s2.ext →
      JobsOf key.id s.ext s2.ext ∧ s2.db.keys.get? = update s.db.keys.get? key.id (some key) := by
    intro s2 hd hj
    refine ⟨by rw [← hx]; exact hj, ?_⟩
    rw [hd.keys, hrew.keys, hid]
  cases enablement with
  | none =>
    obtain ⟨hj, hkeys⟩ := hdone s1 (refl_of _ _) (refl_of _ _)
    exact ⟨fun a ha => ⟨hj, fun _ => hx, key, .inr rfl, hkeys⟩,
      fun _ e k => ⟨hj, fun _ => hx, row, .inl rfl, hkept⟩⟩
  | some enabled =>
    refine wp_bind_run (fun e s2 h2 => ?_) fun _ s2 h2 => ?_
    all_goals
      have hk := (m.setEnablement_about enabled key).run h2
      obtain ⟨hj, hkeys⟩ := hdone s2 hk.1 hk.2
      exact ⟨fun a ha => ⟨hj, by simp, key, .inr rfl, hkeys⟩,
        fun _ e k => ⟨hj, by simp, row, .inl rfl, hkept⟩⟩

theorem copyFieldsToModelKey_kept (patch : KeyPatch) (key : Key) :
    (copyFieldsToModelKey patch key).1.id = key.id ∧
      (patch.enabled = none → (copyFieldsToModelKey patch key).1.state = key.state) := by
  unfold copyFieldsToModelKey
  cases patch.enabled with
  | none => exact ⟨rfl, fun _ => rfl⟩
  | some enabled =>
    dsimp only
    generalize (if enabled = true then KeyState.enabled else .disabled) = state
    split
    · exact ⟨rfl, by simp⟩
    · exact ⟨rfl, by simp⟩

theorem wp_updateKey_spared {patch : KeyPatch} (hout : ctx.inTx = false)
    (hallowed : ∀ row, byID s.db.keys keyID = some row →
      row.keyType = some .hyok ∨ patch.enabled ≠ none → ¬ row.state.Withdrawn)
    (hst : s.db.keyState k = some st) (hw : st.Withdrawn) :
    (m.updateKey ctx keyID patch).wp false (fun _ s' => Spared k s s') s := by
  simp only [updateKey, Prog.throw_bind]
  split
  · exact .of_eq rfl rfl
  have hread : ∀ (row : Key) (st' : KeyState) (s' : State), Read keyID s row st' s' →
      Spared k s s' := fun row st' s' h =>
    h.spared fun htype => ne_of_withdrawn h.found (hallowed row h.found (.inl htype)) hst hw
  refine wp_bind (wp_mapError (wp_get hout (fun e s' hd hx => .of_eq (by rw [hd]) hx)
    (fun e row st' s' h => hread row st' s' h) fun loaded row st1 s1 h hloaded _ _ => ?_))
  have h1 := hread row st1 s1 h
  have hlate : ∀ (s' : State), s'.db.keys = s1.db.keys → s'.ext = s1.ext → Spared k s s' :=
    fun s' hd hx => h1.trans (.of_eq hd hx)
  simp only [Except.mapError]
  split
  · exact h1
  refine wp_query_bind (fun e n _ => hlate _ rfl rfl) fun key n hkey => ?_
  obtain ⟨data, rfl⟩ := handleCryptoDetailsUpdate_ok (eval_mapError_ok hkey)
  split
  · exact hlate _ rfl rfl
  have hrow : s1.db.keys.get? row.id = some { row with state := st1 } := by
    rw [h.stateSet.keys, update_self]
  obtain ⟨hid, hstate⟩ :=
    copyFieldsToModelKey_kept patch { loaded.key with cryptoAccessData := data }
  rw [hloaded] at hid hstate ⊢
  refine wp_mapError (wp_mono (wp_applyKeyPatch hout (hid ▸ hrow)) ?_)
  rintro _ s' ⟨hj, hn, row', hrow', hkeys⟩
  refine h1.trans ?_
  by_cases hk : k = row.id
  · -- neither a HYOK key nor one that is enabled or disabled by the patch
    have henabled : patch.enabled = none := by
      by_contra hne
      exact ne_of_withdrawn h.found (hallowed row h.found (.inr hne)) hst hw hk
    refine ⟨?_, ?_⟩
    · rw [keyState, hkeys, hid, hk, update_self, keyState, hrow]
      rcases hrow' with rfl | rfl
      · rfl
      · exact congrArg some (hstate henabled)
    · rw [hn (by simp [henabled])]
      exact refl_of _ _
  · exact .of_update (by rw [hid]; exact hk) hkeys hj

theorem sendDetachEvent_leaves (key : Key) : Keeps KeysKept (LeftAlone k) (m.sendDetachEvent ctx key) := by
  refine .bind (.attempt (.bind (.query (.done _)) fun tenant => .call fun n d x => ?_)) fun r => ?_
  · split
    · exact refl_of _ _
    · exact ⟨⟨_, rfl, by simp⟩, ⟨[], by simp, by simp⟩⟩
  · cases r with
    | ok a => exact .pure _
    | error e => exact .ite (.pure _) (.throw _)

theorem keyState_detaching
    (hd : d.keys = s.db.keys.modify key.id (patchedKey false { key with state := .detaching })
      (patchedKey_id false _)) (hkey : s.db.keyState key.id ≠ some .detached)
    (hst : s.db.keyState k = some st) (hw : st.Withdrawn) :
    d.keyState k = s.db.keyState k := by
  unfold keyState at hkey hst ⊢
  rw [hd, get?_modify, update_apply]
  split
  · rename_i hk
    subst hk
    rw [hst] at hkey ⊢
    have hdetaching : st = .detaching := hw.resolve_right fun h => hkey (congrArg some h)
    obtain ⟨row, hrow, -⟩ := Option.map_eq_some_iff.1 hst
    rw [hrow, hdetaching]
    rfl
  · rfl

theorem wp_detach_spared (hout : ctx.inTx = false) (hkey : s.db.keyState key.id ≠ some .detached)
    (hst : s.db.keyState k = some st) (hw : st.Withdrawn) :
    (m.detach ctx key).wp false (fun _ s' => Spared k s s') s := by
  refine wp_transaction hout (wp_bind (wp_patchKey (fun e s1 hd hx => ?_)
    fun s1 _ hd hx => ?_))
  · exact ⟨by simp, fun _ e n => .of_eq rfl hx⟩
  · refine wp_mono (sendDetachEvent_leaves (k := k) _).wp fun res s2 h => ?_
    rw [hx] at h
    refine ⟨fun a ha => ⟨?_, h.2⟩, fun _ e n => ⟨rfl, h.2⟩⟩
    rw [← keyState_detaching (d := s1.db) (by rw [hd]) hkey hst hw, keyState, h.1.keys]
    rfl

def HyokFree (d : Db) : Prop := ∀ key ∈ d.keys.rows, key.keyType = some .hyok → ¬ key.state.Withdrawn

def ReportsFree (m : KeyManager) : Prop :=
  ∀ n id resp, m.keystores.getKey n id = .ok resp → ¬ resp.status.Withdrawn

theorem free_of_stateAfterSync (h : StateAfterSync m key st) (hm : m.ReportsFree)
    (hkey : ¬ key.state.Withdrawn) : ¬ st.Withdrawn := by
  cases h with
  | kept => exact hkey
  | forbidden => decide
  | deleted => decide
  | unknown => decide
  | reported _ h => exact hm _ _ _ h

theorem HyokFree.set (h : HyokFree d) (hst : StateSet key st d d') (hfree : ¬ st.Withdrawn) :
    HyokFree d' := by
  intro row hrow htype
  have hget := get?_key hrow
  rw [hst.keys, update_apply] at hget
  split at hget
  · cases hget
    exact hfree
  · exact h row (mem_of_get? hget) htype

theorem wp_syncHYOKKeyState_spared (hout : ctx.inTx = false) (hm : m.ReportsFree)
    (hrow : key ∈ s.db.keys.rows) (htype : key.keyType = some .hyok) (hfree : HyokFree s.db)
    (hst : s.db.keyState k = some st) (hw : st.Withdrawn) :
    (m.syncHYOKKeyState ctx key).wp false (fun _ s' => Spared k s s' ∧ HyokFree s'.db ∧
      ∀ row ∈ s.db.keys.rows, row.id ≠ key.id → row ∈ s'.db.keys.rows) s := by
  have hget := get?_key hrow
  refine wp_mono (wp_syncHYOKKeyState hout hget) ?_
  rintro _ s' ⟨hj, st', hset, hafter, -⟩
  have hkey := hfree key hrow htype
  have hne : k ≠ key.id := by
    rintro rfl
    rw [keyState, hget] at hst
    cases hst
    exact hkey hw
  refine ⟨.of_update hne hset.keys hj, hfree.set hset (free_of_stateAfterSync hafter hm hkey), fun row hmem hid => ?_⟩
  refine mem_of_get? (k := row.id) ?_
  rw [hset.keys, update_of_ne hid]
  exact get?_key hmem

theorem wp_syncKeys_spared {keys : List Key} (hout : ctx.inTx = false) (hm : m.ReportsFree)
    (hrows : ∀ key ∈ keys, key ∈ s.db.keys.rows ∧ key.keyType = some .hyok)
    (hnd : (keys.map Key.id).Nodup) (hfree : HyokFree s.db) (hst : s.db.keyState k = some st)
    (hw : st.Withdrawn) :
    (m.syncKeys ctx keys).wp false (fun _ s' => Spared k s s' ∧ HyokFree s'.db) s := by
  induction keys generalizing s with
  | nil => exact ⟨.of_eq rfl rfl, hfree⟩
  | cons key keys ih =>
    obtain ⟨hmem, htype⟩ := hrows key mem_cons_self
    rw [map_cons, nodup_cons] at hnd
    refine wp_bind (wp_mono (wp_errValue_state
      (wp_syncHYOKKeyState_spared hout hm hmem htype hfree hst hw)) ?_)
    rintro res s1 ⟨hspared, hfree1, hkept⟩
    cases res with
    | error e => exact ⟨hspared, hfree1⟩
    | ok r =>
      refine wp_mono (ih (fun row hrow => ?_) hnd.2 hfree1 (hspared.state.trans hst)) ?_
      · obtain ⟨hrow', htype'⟩ := hrows row (mem_cons_of_mem key hrow)
        refine ⟨hkept row hrow' fun hid => hnd.1 ?_, htype'⟩
        rw [← hid]
        exact mem_map_of_mem hrow
      · rintro _ s2 ⟨hspared2, hfree2⟩
        exact ⟨hspared.trans hspared2, hfree2⟩

theorem hyokKeys_rows {keys : List Key} (h : keys.Subperm (hyokKeys d)) :
    (∀ key ∈ keys, key ∈ d.keys.rows ∧ key.keyType = some .hyok) ∧ (keys.map Key.id).Nodup := by
  constructor
  · intro key hkey
    simpa [hyokKeys] using h.subset hkey
  · obtain ⟨l, hperm, hsub⟩ := h
    refine (hperm.map Key.id).nodup_iff.1 ?_
    exact ((hsub.trans filter_sublist).map Key.id).nodup d.keys.nodup

theorem wp_syncHYOKKeys_spared (hout : ctx.inTx = false) (hm : m.ReportsFree)
    (hfree : HyokFree s.db) (hst : s.db.keyState k = some st) (hw : st.Withdrawn) :
    (m.syncHYOKKeys ctx).wp false (fun _ s' => Spared k s s') s := by
  -- the same row may come on two pages, so the keys must stay free
  let I (s' : State) : Prop := Spared k s s' ∧ HyokFree s'.db
  refine wp_mono (wp_processInBatch (I := I) (E := I) 
    (fun s' n h => ⟨⟨h.1.state, h.1.jobs⟩, h.2⟩) (fun s' h _ => h)
    (fun s1 keys h1 hkeys => ?_) ⟨.of_eq rfl rfl, hfree⟩) fun res s' h => ?_
  · obtain ⟨hrows, hnd⟩ := hyokKeys_rows hkeys
    refine wp_mono (wp_syncKeys_spared hout hm hrows hnd h1.2 (h1.1.state.trans hst) hw)
      fun res s2 h2 => ?_
    have h : I s2 := ⟨h1.1.trans h2.1, h2.2⟩
    cases res <;> exact h
  · cases res <;> exact h.1

end KeyManager

namespace KeyDetachJobHandler

variable {h : KeyDetachJobHandler} {job : KeyJob} {s : State} {k : UUID}

theorem wp_terminate {target : KeyState} : (h.terminate job target).wp false (fun _ s' =>
    s'.ext = s.ext ∧ (s'.db.keyState k = s.db.keyState k ∨
      k = job.data.keyID ∧ s'.db.keyState k = some target)) s := by
  refine wp_query_bind (fun e n _ => ⟨rfl, .inl rfl⟩) fun row n hrow => ?_
  have hrow : s.db.keys.get? job.data.keyID = some row :=
    (eval_first_ok (eval_mapError_ok hrow)).1
  have hid : row.id = job.data.keyID := key_of_get? hrow
  have hget : s.db.keys.get? ({ row with state := target } : Key).id = some row := by
    rw [hid]
    exact hrow
  refine wp_mapError (wp_patchKey_all hget (fun e s' hd hx => ⟨hx, .inl (by rw [hd])⟩)
    fun s' _ hrew _ hx => ⟨hx, ?_⟩)
  unfold keyState
  rw [hrew.keys, hid, update_apply]
  split
  · exact .inr ⟨by assumption, rfl⟩
  · exact .inl rfl

/-- How a job can end. -/
inductive Ending where
  | done | failed | canceled
  deriving DecidableEq, Repr

def Ending.state : Ending → KeyState
  | .done => .detached
  | .failed => .detached
  | .canceled => .unknown

def handleJobEnd (h : KeyDetachJobHandler) (job : KeyJob) : Ending → M Unit
  | .done => h.handleJobDoneEvent job
  | .failed => h.handleJobFailedEvent job
  | .canceled => h.handleJobCanceledEvent job

theorem wp_handleJobEnd {ending : Ending} : (h.handleJobEnd job ending).wp false (fun _ s' =>
    LeftAlone k s.ext s'.ext ∧ (s'.db.keyState k = s.db.keyState k ∨
      k = job.data.keyID ∧ s'.db.keyState k = some ending.state)) s := by
  have hterminate : (h.terminate job ending.state).wp false (fun _ s' =>
      LeftAlone k s.ext s'.ext ∧ (s'.db.keyState k = s.db.keyState k ∨
        k = job.data.keyID ∧ s'.db.keyState k = some ending.state)) s :=
    wp_mono wp_terminate fun _ s' hs' => ⟨by rw [hs'.1]; exact refl_of _ _, hs'.2⟩
  cases ending with
  | done =>
    refine wp_state_bind (wp_mapError hterminate) fun key s1 h1 => ?_
    unfold Prog.wp
    rw [run_call]
    refine ⟨h1.1.trans ?_, h1.2⟩
    dsimp only
    split
    · exact refl_of _ _
    · exact .of_eq rfl rfl
  | failed => exact wp_state_bind (wp_mapError hterminate) fun key s1 h1 => h1
  | canceled => exact wp_state_bind (wp_mapError hterminate) fun key s1 h1 => h1

end KeyDetachJobHandler

inductive KeyAct where
  | get (keyID : UUID)
  | updateKey (keyID : UUID) (keyPatch : KeyPatch)
  | syncHYOKKeys
  | detach (key : Key)
  | confirm (job : KeyJob)
  | finish (job : KeyJob) (ending : KeyDetachJobHandler.Ending)

/-- A request, or a callback for a KEY_DETACH job, with the database, the providers and orbital as they
answer to it. -/
structure KeyMove where
  keys : KeyManager
  handler : KeyDetachJobHandler
  ctx : Ctx
  outermost : ctx.inTx = false
  act : KeyAct

namespace KeyMove

def prog (move : KeyMove) : M Unit := do
  match move.act with
  | .get keyID => let _ ← move.keys.get move.ctx keyID
  | .updateKey keyID keyPatch => let _ ← move.keys.updateKey move.ctx keyID keyPatch
  | .syncHYOKKeys => move.keys.syncHYOKKeys move.ctx
  | .detach key => move.keys.detach move.ctx key
  | .confirm job => let _ ← move.handler.handleJobConfirm job
  | .finish job ending => move.handler.handleJobEnd job ending

/-- The move keeps the provider and the users away from a withdrawn key, and does not detach or cancel
what is detached. -/
def Respectful (move : KeyMove) (s : St Db World) : Prop :=
  match move.act with
  | .get keyID => ∀ row, Repo.byID s.db.keys keyID = some row → row.keyType = some .hyok →
      ¬ row.state.Withdrawn
  | .updateKey keyID keyPatch => ∀ row, Repo.byID s.db.keys keyID = some row →
      row.keyType = some .hyok ∨ keyPatch.enabled ≠ none → ¬ row.state.Withdrawn
  | .syncHYOKKeys => KeyManager.HyokFree s.db ∧ move.keys.ReportsFree
  | .detach key => s.db.keyState key.id ≠ some .detached
  | .confirm _ => True
  | .finish job ending => ending = .canceled → s.db.keyState job.data.keyID ≠ some .detached

def Finishes (move : KeyMove) (k : UUID) : Prop :=
  ∃ job ending, move.act = .finish job ending ∧ job.data.keyID = k

theorem step {move : KeyMove} {s : State} {k : UUID} (h : move.Respectful s)
    (hst : s.db.keyState k = some st) (hw : st.Withdrawn) :
    move.prog.wp false (fun _ s' => LeftAlone k s.ext s'.ext ∧
      (s'.db.keyState k = some st ∨ st = .detaching ∧ move.Finishes k)) s := by
  obtain ⟨keys, handler, ctx, hout, act⟩ := move
  have hspared : ∀ s' : State, Spared k s s' → LeftAlone k s.ext s'.ext ∧
      (s'.db.keyState k = some st ∨ st = .detaching ∧ Finishes ⟨keys, handler, ctx, hout, act⟩ k) :=
    fun s' hs => ⟨hs.jobs, .inl (hs.state.trans hst)⟩
  cases act with
  | get keyID =>
    exact wp_state_bind (wp_mono (wp_get_spared hout h hst hw)
      fun _ s' hs => hspared s' hs) fun _ s' hs => hs
  | updateKey keyID keyPatch =>
    exact wp_state_bind (wp_mono (wp_updateKey_spared hout h hst hw)
      fun _ s' hs => hspared s' hs) fun _ s' hs => hs
  | syncHYOKKeys =>
    exact wp_mono (wp_syncHYOKKeys_spared hout h.2 h.1 hst hw)
      fun _ s' hs => hspared s' hs
  | detach key =>
    exact wp_mono (wp_detach_spared hout h hst hw) fun _ s' hs => hspared s' hs
  | confirm job =>
    exact wp_query_bind (fun e n _ => hspared _ (.of_eq rfl rfl))
      fun _ n _ => hspared _ (.of_eq rfl rfl)
  | finish job ending =>
    refine wp_mono KeyDetachJobHandler.wp_handleJobEnd fun _ s' hs => ⟨hs.1, ?_⟩
    rcases hs.2 with hs | ⟨hk, hs⟩
    · exact .inl (hs.trans hst)
    · rcases hw with rfl | rfl
      · exact .inr ⟨rfl, job, ending, rfl, hk.symm⟩
      · rw [hk] at hst
        cases ending with
        | done => exact .inl hs
        | failed => exact .inl hs
        | canceled => exact absurd hst (h rfl)

end KeyMove

/-- In every run whose moves are respectful, a detached key stays detached. A key that is being detached
gets another state only from a callback for its job, and no job that enables, disables or rotates is
created for a key that is being detached or is detached. -/
theorem detached_is_final {s₀ s : St Db World} {k : UUID}
    (hrun : Runs KeyMove.prog KeyMove.Respectful s₀ s) :
    (s₀.db.keyState k = some .detached → s.db.keyState k = some .detached) ∧
    ∀ move : KeyMove, move.Respectful s →
      (s.db.keyState k = some .detaching → ((move.prog.run false s).2.db.keyState k = some .detaching ∨
        move.Finishes k)) ∧
      ∀ st, s.db.keyState k = some st → st.Withdrawn →
        LeftAlone k s.ext (move.prog.run false s).2.ext := by
  refine ⟨fun hk => ?_, fun move hmove => ⟨fun hk => ?_, fun st hst hw => ?_⟩⟩
  · refine hrun.induct (I := fun s => s.db.keyState k = some .detached) hk fun move s hmove hs => ?_
    rcases (KeyMove.step hmove hs (.inr rfl)).2 with h | ⟨h, -⟩
    · exact h
    · cases h
  · rcases (KeyMove.step hmove hk (.inl rfl)).2 with h | ⟨-, h⟩
    · exact .inl h
    · exact .inr h
  · exact (KeyMove.step hmove hst hw).1

namespace Sample

theorem as_outermost (user : String) : (as user).inTx = false := rfl

def move (act : KeyAct) : KeyMove :=
  ⟨keyPlatform.keys, ⟨repo, fun _ => none⟩, as "a", as_outermost "a", act⟩

def detachJob : KeyJob := ⟨20, .keyDetach, ⟨"t", 20⟩, "CREATED"⟩

def detached : St Db World :=
  Runs.afterAll KeyMove.prog
    [move (.detach (registeredKey 20 30 "k")), move (.confirm detachJob), move (.finish detachJob .done)]
    registered

end Sample

/-- A job that is reported again, as failed. -/
theorem detached_after_late_failure :
    Sample.detached.db.keyState 20 = some .detached ∧
    (Runs.afterAll KeyMove.prog [Sample.move (.finish Sample.detachJob .failed)]
      Sample.detached).db.keyState 20 = some .detached := by
  have hdetached : Sample.detached.db.keyState 20 = some .detached := by decide +kernel
  have hrun : Runs KeyMove.prog KeyMove.Respectful Sample.detached
      (Runs.afterAll KeyMove.prog [Sample.move (.finish Sample.detachJob .failed)] Sample.detached) :=
    Runs.of_along ⟨by rintro ⟨⟩, trivial⟩
  exact ⟨hdetached, (detached_is_final hrun).1 hdetached⟩

/-- A detached key is read. The provider still knows it as enabled, so it is enabled and rotated. -/
theorem detached_key_enabled_by_read :
    let s := Sample.detached
    let s' := ((Sample.move (.get 20)).prog.run false s).2
    s.db.keyState 20 = some .detached ∧ s.ext.keyJobs = [Sample.detachJob] ∧ s.ext.jobs = [] ∧
    s'.db.keyState 20 = some .enabled ∧
    s'.ext.keyJobs = [Sample.detachJob, ⟨20, .keyEnable, ⟨"t", 20⟩, "CREATED"⟩] ∧
    s'.ext.jobs.map (fun job => (job.type, job.data.keyIDTo)) = [(.systemKeyRotate, some 20)] := by
  decide +kernel

end Cmk
