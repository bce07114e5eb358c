import Cmk.Keys.Manager

/-!
# Cmk.Keys.Effects

What the requests on keys do to the rows of keys and key configurations.

* Frames: versions, events, audit logs and jobs leave these rows alone (`KeysKept`), and the jobs are
  about the key they are sent for (`JobsOf`).
* `wp_syncHYOKKeyState`, `wp_get` — a read of a key gives a new state to at most this one key.
* `wp_create`, `wp_syncPendingCreationKey`, `wp_delete`, … — one lemma for each
  request, with what it has checked before it writes.
-/

namespace Cmk

open Tx Function Repo Table Query Option List

variable {d d' d'' : Db} {id keyID : UUID} {issued key key' row : Key} {r : Repo} {ctx : Ctx}
  {i : Bool} {s : State} {P : Post Unit} {attempts n n' : Nat} {m : KeyManager}

def VersionsKept (d d' : Db) : Prop :=
  ∀ k, (d.keyVersions.get? k).isSome → (d'.keyVersions.get? k).isSome

theorem VersionsKept.of_eq (h : d'.keyVersions = d.keyVersions) : VersionsKept d d' := by
  intro k hk
  rw [h]
  exact hk

/-- Keys, key configurations and systems are as before, and no version is lost. -/
structure KeysKept (d d' : Db) : Prop where
  keys : d'.keys = d.keys
  keyConfigurations : d'.keyConfigurations = d.keyConfigurations
  systems : d'.systems = d.systems
  versions : VersionsKept d d'

theorem KeysKept.of_eq (h : d' = d) : KeysKept d d' := by
  subst h
  exact ⟨rfl, rfl, rfl, .of_eq rfl⟩

instance : Std.Refl KeysKept := ⟨fun _ => .of_eq rfl⟩

instance : IsTrans Db KeysKept where
  trans _ _ _ h h' := ⟨h'.keys.trans h.keys, h'.keyConfigurations.trans h.keyConfigurations,
    h'.systems.trans h.systems, fun k hk => h'.versions k (h.versions k hk)⟩

/-- Jobs were only added, and each of them is about the key. Nothing was deleted at a provider. -/
structure JobsOf (id : UUID) (x x' : World) : Prop where
  deletedKeys : x'.deletedKeys = x.deletedKeys
  keyJobs : ∃ l, x'.keyJobs = x.keyJobs ++ l ∧ ∀ job ∈ l, job.externalID = id
  jobs : ∃ l, x'.jobs = x.jobs ++ l ∧ ∀ job ∈ l, job.data.keyIDTo = some id

theorem JobsOf.of_eq {x x' : World} (hd : x'.deletedKeys = x.deletedKeys)
    (hk : x'.keyJobs = x.keyJobs) (hj : x'.jobs = x.jobs) : JobsOf id x x' :=
  ⟨hd, ⟨[], by rw [hk, append_nil], by simp⟩, ⟨[], by rw [hj, append_nil], by simp⟩⟩

instance (id : UUID) : Std.Refl (JobsOf id) := ⟨fun _ => .of_eq rfl rfl rfl⟩

instance (id : UUID) : IsTrans World (JobsOf id) where
  trans x x' x'' h h' := by
    obtain ⟨hd₁, ⟨l₁, h₁, hl₁⟩, ⟨k₁, g₁, hk₁⟩⟩ := h
    obtain ⟨hd₂, ⟨l₂, h₂, hl₂⟩, ⟨k₂, g₂, hk₂⟩⟩ := h'
    refine ⟨hd₂.trans hd₁, ⟨l₁ ++ l₂, by rw [h₂, h₁, List.append_assoc], ?_⟩,
      ⟨k₁ ++ k₂, by rw [g₂, g₁, List.append_assoc], ?_⟩⟩
    · intro job hjob
      rcases List.mem_append.1 hjob with hjob | hjob
      · exact hl₁ job hjob
      · exact hl₂ job hjob
    · intro job hjob
      rcases List.mem_append.1 hjob with hjob | hjob
      · exact hk₁ job hjob
      · exact hk₂ job hjob

section

variable {Q : World → World → Prop} [Std.Refl Q] {ctx : Ctx}

theorem KeyVersionManager.updateVersions_keeps (m : KeyVersionManager) (keyID : UUID)
    (versions : List ProviderKeyVersion) : Keeps KeysKept Q (m.updateVersions ctx keyID versions) := by
  induction versions with
  | nil => exact .pure _
  | cons v versions ih =>
    unfold updateVersions
    split
    · refine .bind (exec_keeps fun n d => ⟨rfl, rfl, rfl, fun k hk => ?_⟩) fun _ => ih
      rw [get?_upsert, update_apply]
      split
      · rfl
      · exact hk
    · refine .bind (.query _) fun now => .bind (exec_keeps fun n d => ?_) fun _ => ih
      split
      · exact refl_of _ _
      · rename_i t ht
        refine ⟨rfl, rfl, rfl, fun k hk => ?_⟩
        rw [← upsert_of_insert? ht, get?_upsert, update_apply]
        split
        · rfl
        · exact hk

/-- What a rotation of the key does outside the store keeps `Q`. -/
structure RotationFrame (id : UUID) (Q : World → World → Prop) : Prop where
  auditLog : ∀ x entry, Q x { x with auditLog := x.auditLog ++ [entry] }
  announced : ∀ x keyID, Q x { x with announced := x.announced ++ [keyID] }
  job : ∀ (x : World) (job : Job), job.data.keyIDTo = some id → Q x { x with jobs := x.jobs ++ [job] }

namespace RotationFrame

theorem sendAuditLog (hF : RotationFrame id Q) (m : KeyManager) (event : AuditEvent) (keyID : UUID) :
    Keeps KeysKept Q (m.sendAuditLog event keyID) := by
  refine .call fun n d x => ?_
  split
  · exact refl_of _ _
  · exact hF.auditLog x _

theorem rotateSystems (hF : RotationFrame id Q) (m : KeyManager) (systems : List System) :
    Keeps KeysKept Q (m.rotateSystems ctx id systems) := by
  induction systems with
  | nil => exact .pure _
  | cons sys systems ih =>
    refine .bind (.bind (.bind (.query (.done _)) fun tenant => .call fun n d x => ?_) fun job =>
      .bind (.attempt (exec_keeps fun _ _ => ⟨rfl, rfl, rfl, .of_eq rfl⟩)) fun _ => .pure _) fun _ => ih
    split
    · exact refl_of _ _
    · exact hF.job x _ rfl

theorem syncKeyVersions (hF : RotationFrame key.id Q) (m : KeyManager) :
    Keeps KeysKept Q (m.syncKeyVersions ctx key) := by
  simp only [KeyManager.syncKeyVersions, Prog.throw_bind]
  refine .bind (.query _) fun versions => .ite (.throw _) ?_
  refine .bind (m.keyVersionManager.updateVersions_keeps _ _) fun _ =>
    .bind (hF.sendAuditLog m _ _) fun _ => .bind (.query _) fun isPrimary => ?_
  refine .ite (.bind (.call fun _ _ x => hF.announced x _) fun _ => ?_) (.pure _)
  exact .bind (errValue_keeps (m.repo.processInBatch_keeps (hF.rotateSystems m))) fun _ => .pure _

theorem stateFromProvider (hF : RotationFrame key.id Q) (m : KeyManager) :
    Keeps KeysKept Q (m.stateFromProvider ctx key) := by
  refine .bind (errValue_keeps (.query _)) fun provider =>
    .bind (errValue_keeps (.query _)) fun r => ?_
  cases r with
  | error e => exact .pure _
  | ok keyResp =>
    have hF : RotationFrame ({ key with state := keyResp.status } : Key).id Q := hF
    exact .bind (errValue_keeps (hF.syncKeyVersions m)) fun _ => .pure _

end RotationFrame

end

theorem jobsOf_frame (id : UUID) : RotationFrame id (JobsOf id) where
  auditLog _ _ := .of_eq rfl rfl rfl
  announced _ _ := .of_eq rfl rfl rfl
  job x job h := ⟨rfl, ⟨[], by simp, by simp⟩, ⟨[job], rfl, by simpa using h⟩⟩

/-- The program leaves keys and key configurations alone, and its jobs are about one key. -/
abbrev About (id : UUID) {α : Type} (p : M α) : Prop := Keeps KeysKept (JobsOf id) p

section

variable {ctx : Ctx}

namespace KeyManager

variable (m : KeyManager)

theorem sendKeyEvent_about (type : KeyJobType) (key : Key) :
    About key.id (m.sendKeyEvent ctx type key) := by
  refine .bind (.attempt (.bind (.query (.done _)) fun tenant => .call fun n d x => ?_)) fun r => ?_
  · split
    · exact .of_eq rfl rfl rfl
    · exact ⟨rfl, ⟨_, rfl, by simp⟩, ⟨[], by simp, by simp⟩⟩
  · cases r with
    | ok a => exact .pure _
    | error e => exact .ite (.pure _) (.throw _)

theorem handleKeyStateTransition_about (key : Key) (old : KeyState) :
    About key.id (m.handleKeyStateTransition ctx key old) := by
  have hlog : ∀ (c : Prop) [Decidable c] (event : AuditEvent) (type : KeyJobType),
      About key.id (do
        if c then m.sendAuditLog event key.id
        m.sendKeyEvent ctx type key) := fun c _ event type =>
    .ite (.bind ((jobsOf_frame _).sendAuditLog m _ _) fun _ => m.sendKeyEvent_about _ _)
      (m.sendKeyEvent_about _ _)
  unfold handleKeyStateTransition
  split
  · exact hlog _ _ _
  · exact hlog _ _ _
  · exact .pure _

theorem setEnablement_about (enabled : Bool) (key : Key) :
    About key.id (m.setEnablement ctx enabled key) := by
  refine .bind (.query _) fun _ => .bind (.query (.done _)) fun id => .bind (.query _) fun _ =>
    .bind ((jobsOf_frame _).sendAuditLog m _ _) fun _ => ?_
  exact .ite (m.sendKeyEvent_about _ _) (m.sendKeyEvent_about _ _)

end KeyManager

end

namespace Repo

/-- A partial update with the row itself and a new state. An empty state is not written. -/
theorem keyUpdates_state (row : Key) (st : KeyState) :
    keyUpdates { row with state := st } row = { row with state := nonZero noState st row.state } := by
  simp [keyUpdates, nonZero]

theorem wp_patchKey {all : Bool} {P : Post Key}
    (hfail : ∀ e s', s'.db = s.db → s'.ext = s.ext → P (.error e) s')
    (hdone : ∀ s', keyPatchError all key = none →
      s'.db = { s.db with keys := s.db.keys.modify key.id (patchedKey all key) (patchedKey_id all key) } →
      s'.ext = s.ext → P (.ok (((s.db.keys.get? key.id).map (patchedKey all key)).getD key)) s') :
    (r.patchKey ctx all key).wp i P s := by
  refine wp_exec_any (fun e s' _ hd hx => hfail e s' hd hx) fun s' _ hd hx => ?_
  split at hd
  · rename_i e he
    exact hfail _ _ hd hx
  · rename_i he
    split at hd
    · rename_i ht
      rw [if_pos ht]
      exact hfail _ _ hd hx
    · rename_i ht
      have h := hdone s' he hd hx
      rw [← get?_modify_self (patchedKey_id all key)] at h
      rw [if_neg ht]
      exact h

end Repo

structure StateSet (row : Key) (st : KeyState) (d d' : Db) : Prop where
  keys : d'.keys.get? = Function.update d.keys.get? row.id (some { row with state := st })
  keyConfigurations : d'.keyConfigurations = d.keyConfigurations
  systems : d'.systems = d.systems
  versions : VersionsKept d d'

theorem StateSet.of_kept (hrow : d.keys.get? row.id = some row) (h : KeysKept d d') :
    StateSet row row.state d d' where
  keys := by rw [h.keys, ← hrow, update_eq_self]
  keyConfigurations := h.keyConfigurations
  systems := h.systems
  versions := h.versions

theorem StateSet.trans_kept {st : KeyState} (h : KeysKept d d') (h' : StateSet row st d' d'') :
    StateSet row st d d'' where
  keys := by rw [h'.keys, h.keys]
  keyConfigurations := by rw [h'.keyConfigurations, h.keyConfigurations]
  systems := by rw [h'.systems, h.systems]
  versions k hk := h'.versions k (h.versions k hk)

/-- The transaction that writes a new state of a key and then sends an event about it. The store has
the new state, or is put back. -/
theorem wp_setState {α : Type} {st : KeyState} {after : Ctx → Key → M α}
    (hafter : ∀ ctx key', key'.id = key.id → About key.id (after ctx key'))
    (hout : ctx.inTx = false) (hrow : s.db.keys.get? key.id = some key) :
    (r.transaction ctx fun ctx => do
      let key' ← r.patchKey ctx false { key with state := st }
      after ctx key').wp false (fun res s' => JobsOf key.id s.ext s'.ext ∧
        ∃ st', StateSet key st' s.db s'.db ∧ (st' = st ∨ st' = key.state) ∧ ∀ a, res = .ok a →
          st' = nonZero noState st key.state ∧
          ∃ s1 s2, (after { ctx with inTx := true } { key with state := st' }).run true s1 =
            (.ok a, s2)) s := by
  refine wp_transaction hout (wp_bind (wp_patchKey (fun e s' hd hx => ?_)
    fun s1 hvalid hd hx => ?_))
  · refine ⟨by simp, fun _ e k => ⟨?_, key.state, .of_kept hrow (refl_of _ _), .inr rfl, by simp⟩⟩
    rw [hx]
    exact refl_of _ _
  have hnew : patchedKey false { key with state := st } key =
      { key with state := nonZero noState st key.state } := keyUpdates_state key st
  simp only [hrow, map_some, getD_some, hnew]
  unfold Prog.wp
  cases hr : (after { ctx with inTx := true }
    { key with state := nonZero noState st key.state }).run true s1 with
  | mk res s2 =>
    have ha := (hafter { ctx with inTx := true }
      { key with state := nonZero noState st key.state } rfl).run hr
    have hj : JobsOf key.id s.ext s2.ext := by rw [← hx]; exact ha.2
    refine ⟨fun a hres => ⟨hj, _, ⟨?_, ?_, ?_, ?_⟩, ?_, fun a' ha' => ⟨rfl, ?_⟩⟩,
      fun _ e k => ⟨hj, key.state, .of_kept hrow (refl_of _ _), .inr rfl, by simp⟩⟩
    · rw [ha.1.keys, hd, get?_modify]
      simp only [hrow, map_some, hnew]
    · rw [ha.1.keyConfigurations, hd]
    · rw [ha.1.systems, hd]
    · intro k hk
      refine ha.1.versions k ?_
      rw [hd]
      exact hk
    · unfold nonZero
      split
      · exact .inr rfl
      · exact .inl rfl
    · cases ha'
      cases show res = .ok a from hres
      exact ⟨_, _, hr⟩

theorem plugin_eval_ok {α : Type} {f : Nat → Except Err α} {a : α}
    (h : (plugin f).eval d n = (.ok a, n')) : f n = .ok a := by
  simp only [plugin, eval_ask, Prod.mk.injEq] at h
  cases hf : f n with
  | error e => rw [hf] at h; cases h.1
  | ok b => rw [hf] at h; cases h.1; rfl

inductive StateAfterSync (m : KeyManager) (key : Key) : KeyState → Prop where
  | kept : StateAfterSync m key key.state
  | forbidden : StateAfterSync m key .forbidden
  | deleted : StateAfterSync m key .deleted
  | unknown : StateAfterSync m key .unknown
  | reported {n : Nat} {id : String} {resp : GetKeyResponse} (hid : key.nativeID = some id)
      (h : m.keystores.getKey n id = .ok resp) : StateAfterSync m key resp.status

namespace KeyManager

variable {m : KeyManager} {ctx : Ctx} {s : State}

theorem getKeyStateOnSyncError_state (key : Key) (e : Err) :
    StateAfterSync m key (getKeyStateOnSyncError key e) := by
  unfold getKeyStateOnSyncError
  split
  · exact .forbidden
  split
  · exact .deleted
  split
  · exact .unknown
  · exact .kept

theorem providerKeyID_ok {id : String} (h : m.providerKeyID key = .ok id) :
    key.nativeID = some id := by
  unfold providerKeyID at h
  cases hdata : m.keystores.managementAccessData key with
  | error e =>
    rw [hdata] at h
    cases h
  | ok region =>
    rw [hdata] at h
    cases hid : key.nativeID with
    | none =>
      rw [hid] at h
      cases h
    | some nativeID =>
      rw [hid] at h
      cases h
      rfl

theorem getKeyFromProvider_ok {initialized : Bool} {resp : GetKeyResponse}
    (h : (m.getKeyFromProvider initialized key).eval d n = (.ok resp, n')) :
    ∃ k id, key.nativeID = some id ∧ m.keystores.getKey k id = .ok resp := by
  simp only [getKeyFromProvider, throw_bind] at h
  split at h
  · cases h
  obtain ⟨id, n1, hid, h⟩ := eval_bind_ok h
  exact ⟨n1, id, providerKeyID_ok (congrArg Prod.fst hid), plugin_eval_ok (eval_mapError_ok h)⟩

theorem wp_stateFromProvider : (m.stateFromProvider ctx key).wp false
    (fun res _ => ∀ st, res = .ok st → StateAfterSync m key st) s := by
  refine wp_errValue_query_bind (fun n _ => by simp) fun provider n _ =>
    wp_errValue_query_bind (fun n _ => by simp) fun resp n hresp => ?_
  cases resp with
  | error e =>
    rintro st ⟨⟩
    exact getKeyStateOnSyncError_state key e
  | ok keyResp =>
    obtain ⟨k, id, hid, hk⟩ := getKeyFromProvider_ok hresp
    refine wp_bind_run (fun e s1 h1 => by simp) fun _ s1 h1 => ?_
    rintro st ⟨⟩
    exact .reported hid hk

theorem wp_syncHYOKKeyState (hout : ctx.inTx = false) (hrow : s.db.keys.get? key.id = some key) :
    (m.syncHYOKKeyState ctx key).wp false (fun res s' => JobsOf key.id s.ext s'.ext ∧
      ∃ st, StateSet key st s.db s'.db ∧ StateAfterSync m key st ∧
        ∀ key', res = .ok key' → key' = { key with state := st }) s := by
  have hkept : ∀ (res : Except Exn Key) (s' : State), KeysKept s.db s'.db →
      JobsOf key.id s.ext s'.ext → (∀ key', res = .ok key' → key' = key) →
      JobsOf key.id s.ext s'.ext ∧
      ∃ st, StateSet key st s.db s'.db ∧ StateAfterSync m key st ∧
        ∀ key', res = .ok key' → key' = { key with state := st } :=
    fun res s' hd hj hres => ⟨hj, key.state, .of_kept hrow hd, .kept, hres⟩
  unfold syncHYOKKeyState
  split
  · exact hkept _ _ (refl_of _ _) (refl_of _ _) (by simp)
  refine wp_bind_run (fun e s1 h1 => ?_) fun st s1 h1 => ?_
  all_goals have hk := ((jobsOf_frame key.id).stateFromProvider m).run h1
  · exact hkept _ _ hk.1 hk.2 (by simp)
  have hst1 := wp_of_run wp_stateFromProvider h1 st rfl
  split
  · exact hkept _ _ hk.1 hk.2 (by rintro _ ⟨⟩; rfl)
  have hrow1 : s1.db.keys.get? key.id = some key := by rw [hk.1.keys]; exact hrow
  refine wp_mapError (wp_mono (wp_setState (fun ctx key' hid => ?_) hout hrow1)
    fun res s' h => ?_)
  · exact .bind (by rw [← hid]; exact m.handleKeyStateTransition_about _ _) fun _ => .pure _
  obtain ⟨hj, st', hst, hor, hres⟩ := h
  refine ⟨trans_of _ hk.2 hj, st', .trans_kept hk.1 hst, ?_, fun key' hkey => ?_⟩
  · rcases hor with rfl | rfl
    · exact hst1
    · exact .kept
  cases res with
  | error e => cases hkey
  | ok a =>
    cases hkey
    obtain ⟨-, s2, s3, hrun⟩ := hres _ rfl
    obtain ⟨_, _, -, hpure⟩ := run_bind_ok hrun
    cases hpure
    rfl

end KeyManager

/-- The primary key of a key configuration, as `GetKeyConfigPrimaryKey` finds it. -/
def Db.primaryKeyID (d : Db) (keyConfigID : UUID) : Option UUID :=
  (Repo.byID d.keyConfigurations keyConfigID).bind (·.primaryKeyID)

theorem Repo.eval_isPrimaryKey_ok {b : Bool} (h : (r.isPrimaryKey ctx key).eval d n = (.ok b, n')) :
    b = decide (d.primaryKeyID key.keyConfigurationID = some key.id) := by
  obtain ⟨primary, n1, hp, hb⟩ := eval_bind_ok h
  cases hb
  obtain ⟨res, n2, hres, hp⟩ := eval_bind_ok hp
  rw [eval_attempt] at hres
  cases hf : (r.firstKeyConfiguration ctx key.keyConfigurationID).eval d n with
  | mk found n3 =>
    rw [hf] at hres
    cases hres
    have hprimary : primary = d.primaryKeyID key.keyConfigurationID := by
      cases found with
      | ok kc =>
        cases hp
        rw [Db.primaryKeyID, (eval_first_ok hf).1]
        rfl
      | error e =>
        dsimp only at hp
        split at hp
        · rename_i he
          cases hp
          rw [Db.primaryKeyID]
          cases hkc : byID d.keyConfigurations key.keyConfigurationID with
          | none => rfl
          | some kc =>
            rw [eval_first_error hkc hf] at he
            cases he
        · cases hp
    rw [hprimary]

theorem Repo.eval_getKeyConfigPrimaryKey {c : UUID} (ht : ctx.tenant ≠ "") (hf : r.fault n = none) :
    (r.getKeyConfigPrimaryKey ctx c).eval d n = (.ok (d.primaryKeyID c), n + 1) := by
  simp only [getKeyConfigPrimaryKey, eval_bind, eval_attempt]
  unfold Db.primaryKeyID
  cases hkc : byID d.keyConfigurations c with
  | some kc =>
    rw [firstKeyConfiguration, eval_first_found ht hf hkc]
    rfl
  | none =>
    obtain ⟨e, he, hfirst⟩ : ∃ e : Exn, e.is .errNotFound ∧
        (r.firstKeyConfiguration ctx c).eval d n = (.error e, n + 1) := eval_first_missing ht hf hkc
    rw [hfirst]
    simp only [he, if_true]
    rfl

theorem Repo.eval_isPrimaryKey (ht : ctx.tenant ≠ "") (hf : r.fault n = none) :
    (r.isPrimaryKey ctx key).eval d n =
      (.ok (decide (d.primaryKeyID key.keyConfigurationID = some key.id)), n + 1) := by
  rw [isPrimaryKey, eval_bind, eval_getKeyConfigPrimaryKey ht hf]
  rfl

namespace KeyManager

variable {m : KeyManager} {ctx : Ctx} {s : State}

structure Read (keyID : UUID) (s : St Db World) (row : Key) (st : KeyState) (s' : St Db World) :
    Prop where
  found : Repo.byID s.db.keys keyID = some row
  jobs : JobsOf row.id s.ext s'.ext
  stateSet : StateSet row st s.db s'.db
  managed : row.keyType ≠ some .hyok → s'.db = s.db ∧ s'.ext = s.ext ∧ st = row.state

/-- A read fails before it has done anything, or has given a new state to the key it found. -/
theorem wp_get {P : Post LoadedKey} (hout : ctx.inTx = false)
    (hfail : ∀ e s', s'.db = s.db → s'.ext = s.ext → P (.error e) s')
    (herr : ∀ e row st s', Read keyID s row st s' → P (.error e) s')
    (hok : ∀ loaded row st s', Read keyID s row st s' → loaded.key = { row with state := st } →
      loaded.isPrimary = decide (s.db.primaryKeyID row.keyConfigurationID = some row.id) →
      row.keyType ≠ none → P (.ok loaded) s') :
    (m.get ctx keyID).wp false P s := by
  refine wp_query_bind (fun e n _ => hfail _ _ rfl rfl) fun row n hrow => ?_
  have hbyID := (eval_first_ok (eval_mapError_ok hrow)).1
  have hget := get?_of_byID hbyID
  refine wp_query_bind (fun e n _ => hfail _ _ rfl rfl) fun isPrimary n hprimary => ?_
  have hprimary := eval_isPrimaryKey_ok (eval_mapError_ok hprimary)
  refine wp_query_bind (fun e n _ => hfail _ _ rfl rfl) fun _ n _ => ?_
  have hrest : ∀ (key : Key) (st : KeyState) (s' : State), Read keyID s row st s' →
      key = { row with state := st } → row.keyType ≠ none →
      (do
        let editableRegions ← liftM (m.setEditableStatus ctx key isPrimary)
        return ⟨key, isPrimary, editableRegions⟩ : M LoadedKey).wp false P s' := by
    intro key st s' hread hkey htype
    refine wp_query_bind (fun e n _ => ?_) fun regions n _ => ?_
    · exact herr _ row st _ ⟨hread.found, hread.jobs, hread.stateSet, hread.managed⟩
    · exact hok _ row st _ ⟨hread.found, hread.jobs, hread.stateSet, hread.managed⟩ hkey hprimary htype
  cases htype : row.keyType with
  | none => exact hfail _ _ rfl rfl
  | some keyType =>
    cases keyType with
    | byok =>
      refine hrest row row.state _ ⟨hbyID, refl_of _ _, .of_kept hget (refl_of _ _), ?_⟩ rfl
        (by simp [htype])
      exact fun _ => ⟨rfl, rfl, rfl⟩
    | hyok =>
      refine wp_bind (wp_mono (wp_syncHYOKKeyState hout hget) fun res s' h => ?_)
      obtain ⟨hj, st, hst, -, hres⟩ := h
      have hread : Read keyID s row st s' := ⟨hbyID, hj, hst, fun hn => absurd htype hn⟩
      cases res with
      | error e => exact herr _ row st _ hread
      | ok key => exact hrest key st _ hread (hres key rfl) (by simp [htype])

end KeyManager

structure Promoted (key : Key) (d d' : Db) : Prop where
  first : ∀ row ∈ d.keys.rows, row.keyConfigurationID ≠ key.keyConfigurationID
  state : key.state ≠ .pendingCreation ∧ key.state ≠ .disabled
  keyConfigurations : d'.keyConfigurations = d.keyConfigurations.modify key.keyConfigurationID
    (fun kc => { kc with primaryKeyID := some key.id }) fun _ => rfl

/-- The key did not become a primary key, because it is not the first one or is pending. -/
structure Unpromoted (key : Key) (d d' : Db) : Prop where
  reason : (∃ row ∈ d.keys.rows, row.keyConfigurationID = key.keyConfigurationID) ∨
    key.state = .pendingCreation
  keyConfigurations : d'.keyConfigurations = d.keyConfigurations

theorem KeyManager.wp_setPrimaryIfFirstKey (hfail : ∀ e s', s'.ext = s.ext → P (.error e) s')
    (hok : ∀ s', s'.ext = s.ext → s'.db.keys = s.db.keys → s'.db.keyVersions = s.db.keyVersions →
      (Promoted key s.db s'.db ∨ Unpromoted key s.db s'.db) → P (.ok ()) s') :
    (m.setPrimaryIfFirstKey ctx key).wp true P s := by
  refine Prog.wp_query_attempt_bind fun r n hr => ?_
  cases r with
  | ok row =>
    have hrow := (eval_first_ok hr).1
    refine hok _ rfl rfl rfl (.inr ⟨.inl ⟨row, mem_of_find?_eq_some hrow, ?_⟩, rfl⟩)
    simpa using find?_some hrow
  | error e =>
    simp only [Prog.throw_bind]
    split
    · exact hfail _ _ rfl
    rename_i he
    split
    · rename_i hpending
      exact hok _ rfl rfl rfl (.inr ⟨.inr hpending, rfl⟩)
    rename_i hpending
    split
    · exact hfail _ _ rfl
    rename_i hdisabled
    have hfirst : ∀ row ∈ s.db.keys.rows, row.keyConfigurationID ≠ key.keyConfigurationID := by
      cases hf : s.db.keys.rows.find? (·.keyConfigurationID = key.keyConfigurationID) with
      | none => simpa using hf
      | some row => exact absurd (eval_first_error hf hr) (by simpa using he)
    refine wp_exec_any (fun e s' _ _ hx => hfail _ _ hx) fun s' _ hd hx => ?_
    split at hd
    · rename_i hnil
      rw [if_pos hnil]
      exact hfail _ _ hx
    · rename_i hnil
      rw [if_neg hnil]
      refine hok _ hx (by rw [hd]) (by rw [hd]) (.inl ⟨hfirst, ⟨hpending, hdisabled⟩, ?_⟩)
      rw [hd]

/-- A row was added. -/
structure Inserted (key : Key) (d d' : Db) : Prop where
  new : d.keys.get? key.id = none
  keys : d'.keys.get? = Function.update d.keys.get? key.id (some key)
  versions : VersionsKept d d'

def Key.stored (key : Key) (time : Int) : Key :=
  { key with
    state := Repo.nonZero Repo.noState key.state .enabled
    createdAt := Repo.nonZero 0 key.createdAt time }

theorem Repo.wp_createKey {P : Post Key}
    (hfail : ∀ e s', s'.db = s.db → s'.ext = s.ext → P (.error e) s')
    (hok : ∀ time s', s'.ext = s.ext → s'.db.keyConfigurations = s.db.keyConfigurations →
      Inserted (key.stored time) s.db s'.db → P (.ok (key.stored time)) s') :
    (r.createKey ctx key).wp i P s := by
  refine wp_exec_any (fun e s' _ hd hx => hfail _ _ hd hx) fun s' _ hd hx => ?_
  have hrow : { key with
      state := nonZero noState key.state .enabled
      createdAt := nonZero 0 key.createdAt (r.now s.clock) } = key.stored (r.now s.clock) := rfl
  simp only [hrow] at hd ⊢
  split at hd
  · rename_i h
    rw [if_pos h]
    exact hfail _ _ hd hx
  rename_i h
  rw [if_neg h]
  split at hd
  · rename_i h
    rw [if_pos h]
    exact hfail _ _ hd hx
  rename_i h
  rw [if_neg h]
  split at hd
  · exact hfail _ _ hd hx
  · rename_i t hi
    refine hok _ _ hx (by rw [hd]) ⟨(insert?_eq_some.1 hi).2, ?_, .of_eq (by rw [hd])⟩
    rw [hd, ← upsert_of_insert? hi, get?_upsert]

/-- The struct of a new key when it is stored: pending, created by the provider, or registered. -/
inductive Issued (m : KeyManager) (key : Key) : Key → Prop where
  | pending {n : Nat} (htype : key.keyType = some .byok) (h : m.keystores.needsProvisioning n = .ok true) :
      Issued m key { key with state := .pendingCreation, nativeID := none }
  | managed {n : Nat} {resp : CreateKeyResponse} (htype : key.keyType = some .byok)
      (h : m.keystores.createKey n key = .ok resp) :
      Issued m key { key with nativeID := some resp.keyID, state := resp.status }
  | registered (crypto : Option CryptoAccessData) (htype : key.keyType = some .hyok) :
      Issued m key { key with cryptoAccessData := crypto, state := .enabled }

theorem Issued.same (h : Issued m key issued) :
    issued.id = key.id ∧ issued.keyConfigurationID = key.keyConfigurationID ∧
      issued.keyType = key.keyType := by
  cases h <;> exact ⟨rfl, rfl, rfl⟩

namespace KeyManager

variable {m : KeyManager} {ctx : Ctx} {key : Key} {s : State}

theorem createKeyRetrying_ok {resp : CreateKeyResponse}
    (h : (m.createKeyRetrying key attempts).eval d n = (.ok resp, n')) :
    ∃ k, m.keystores.createKey k key = .ok resp := by
  induction attempts generalizing n with
  | zero => exact ⟨n, plugin_eval_ok h⟩
  | succ attempts ih =>
    obtain ⟨r, n1, hr, h⟩ := eval_bind_ok h
    rw [eval_attempt] at hr
    cases hp : (plugin (m.keystores.createKey · key)).eval d n with
    | mk r' n2 =>
      rw [hp] at hr
      cases hr
      cases r' with
      | ok a => cases h; exact ⟨n, plugin_eval_ok hp⟩
      | error e =>
        dsimp only at h
        split at h
        · exact ih h
        · cases h

theorem createManagedProviderKey_ok
    (h : (m.createManagedProviderKey key).eval d n = (.ok issued, n')) :
    ∃ k resp, m.keystores.createKey k key = .ok resp ∧
      issued = { key with nativeID := some resp.keyID, state := resp.status } := by
  obtain ⟨resp, n1, hresp, h⟩ := eval_bind_ok h
  cases h
  obtain ⟨k, hk⟩ := createKeyRetrying_ok (eval_mapError_ok hresp)
  exact ⟨k, resp, hk, rfl⟩

theorem registerHYOKKey_ok (h : (m.registerHYOKKey key).eval d n = (.ok issued, n')) :
    ∃ crypto, issued = { key with cryptoAccessData := crypto, state := .enabled } := by
  obtain ⟨id, n1, -, h⟩ := eval_bind_ok h
  obtain ⟨resp, n2, -, h⟩ := eval_bind_ok h
  obtain ⟨key', n3, hkey, h⟩ := eval_bind_ok h
  have hcrypto : ∃ crypto, key' = { key with cryptoAccessData := crypto } := by
    obtain ⟨certs, n4, -, hkey⟩ := eval_bind_ok (eval_mapError_ok hkey)
    split at hkey
    · cases hkey
      exact ⟨key.cryptoAccessData, rfl⟩
    · cases hkey
      exact ⟨_, rfl⟩
  obtain ⟨crypto, rfl⟩ := hcrypto
  simp only [throw_bind] at h
  split at h
  · cases h
  split at h
  · cases h
  cases h
  exact ⟨crypto, rfl⟩

structure Added (m : KeyManager) (key : Key) (s : St Db World) (stored : Key) (s' : St Db World) :
    Prop where
  issued : ∃ issued time, Issued m key issued ∧ stored = issued.stored time ∧
    (Promoted issued s.db s'.db ∨ Unpromoted issued s.db s'.db)
  inserted : Inserted stored s.db s'.db

theorem wp_persistCreatedKey (hout : ctx.inTx = false) {P : Post Key}
    (hfail : ∀ e s', s'.db = s.db → P (.error e) s')
    (hok : ∀ time s', Inserted (key.stored time) s.db s'.db →
      (Promoted key s.db s'.db ∨ Unpromoted key s.db s'.db) → P (.ok (key.stored time)) s') :
    (m.persistCreatedKey ctx key).wp false P s := by
  refine wp_transaction hout ?_
  refine wp_bind (wp_mapError (wp_setPrimaryIfFirstKey (fun e s' _ => ?_)
    fun s1 hx hkeys hversions hprimary => ?_))
  · exact ⟨by simp, fun _ e k => hfail _ _ rfl⟩
  refine wp_bind (wp_mapError (wp_createKey (fun e s' _ _ => ?_)
    fun time s2 _ hkc hinserted => ?_))
  · exact ⟨by simp, fun _ e k => hfail _ _ rfl⟩
  have hdone : ∀ s3 : State, KeysKept s2.db s3.db →
      Inserted (key.stored time) s.db s3.db ∧ (Promoted key s.db s3.db ∨ Unpromoted key s.db s3.db) := by
    intro s3 hk
    have hkc3 : s3.db.keyConfigurations = s1.db.keyConfigurations := hk.keyConfigurations.trans hkc
    refine ⟨⟨?_, ?_, ?_⟩, hprimary.imp (fun h => ⟨h.first, h.state, ?_⟩) fun h => ⟨h.reason, ?_⟩⟩
    · rw [← hkeys]
      exact hinserted.new
    · rw [hk.keys, hinserted.keys, hkeys]
    · intro k hv
      refine hk.versions k (hinserted.versions k ?_)
      rw [hversions]
      exact hv
    · rw [hkc3, h.keyConfigurations]
    · rw [hkc3, h.keyConfigurations]
  simp only [Except.mapError]
  split
  · refine wp_bind_run (fun e s3 h3 => ?_) fun _ s3 h3 => ?_
    · exact ⟨by simp, fun _ e k => hfail _ _ rfl⟩
    · obtain ⟨hi, hp⟩ := hdone s3 ((((jobsOf_frame _).syncKeyVersions m).mapError _).run h3).1
      refine ⟨fun a ha => ?_, fun _ e k => hfail _ _ rfl⟩
      cases ha
      exact hok time _ hi hp
  · obtain ⟨hi, hp⟩ := hdone s2 (refl_of _ _)
    refine ⟨fun a ha => ?_, fun _ e k => hfail _ _ rfl⟩
    cases ha
    exact hok time _ hi hp

theorem sendAuditLog_db {event : AuditEvent} (h : ∀ s', s'.db = s.db → P (.ok ()) s') :
    (m.sendAuditLog event keyID).wp i P s := by
  unfold Prog.wp sendAuditLog
  rw [run_call]
  cases ha : m.cmkAuditor s.clock with
  | none => exact h _ rfl
  | some e => exact h _ rfl

theorem wp_createDirectly (hout : ctx.inTx = false) {P : Post Key}
    (hfail : ∀ e s', s'.db = s.db → P (.error e) s')
    (hok : ∀ stored s', Added m key s stored s' → P (.ok stored) s') :
    (m.createDirectly ctx key).wp false P s := by
  refine wp_query_bind (fun e n _ => hfail _ _ rfl) fun _ n _ => ?_
  refine wp_query_bind (fun e n _ => hfail _ _ rfl) fun issued n hissued => ?_
  have hissued : Issued m key issued := by
    unfold createOrRegisterProviderKey at hissued
    split at hissued
    · rename_i htype
      obtain ⟨k, resp, hresp, rfl⟩ := createManagedProviderKey_ok hissued
      exact .managed htype hresp
    · rename_i htype
      obtain ⟨crypto, rfl⟩ := registerHYOKKey_ok hissued
      exact .registered crypto htype
    · cases hissued
  refine wp_bind (wp_persistCreatedKey hout (fun e s' hd => hfail _ _ hd)
    fun time s' hi hp => ?_)
  refine wp_bind (sendAuditLog_db fun s'' hd => ?_)
  refine hok _ s'' ⟨⟨issued, time, hissued, rfl, ?_⟩, ?_⟩
  · rw [hd]
    exact hp
  · rw [hd]
    exact hi

theorem wp_storePendingKey (hout : ctx.inTx = false) {P : Post Key}
    (htype : key.keyType = some .byok) (hneeds : m.keystores.needsProvisioning n = .ok true)
    (hfail : ∀ e s', s'.db = s.db → P (.error e) s')
    (hok : ∀ stored s', Added m key s stored s' → P (.ok stored) s') :
    (m.storePendingKey ctx key).wp false P s := by
  refine wp_bind (wp_mapError (wp_transaction hout (wp_createKey (fun e s' _ _ => ?_)
    fun time s1 _ hkc hinserted => ⟨fun a ha => ?_, fun _ e k => hfail _ _ rfl⟩)))
  · exact ⟨by simp, fun _ e k => hfail _ _ rfl⟩
  cases ha
  refine wp_bind (sendAuditLog_db fun s2 hd => ?_)
  have hadded : Added m key s
      ({ key with state := .pendingCreation, nativeID := none }.stored time) s2 := by
    refine ⟨⟨_, time, .pending htype hneeds, rfl, .inr ⟨.inr rfl, ?_⟩⟩, ?_⟩
    · rw [hd]
      exact hkc
    · rw [hd]
      exact hinserted
  unfold enqueuePendingStateSync
  cases m.asyncClient with
  | none => exact hok _ s2 hadded
  | some client =>
    refine wp_bind_run (fun e s3 h3 => ?_) fun _ s3 h3 => ?_
    all_goals
      rw [run_call] at h3
      cases hq : client.enqueue s2.clock <;> simp only [hq, Prod.mk.injEq] at h3
    all_goals
      obtain ⟨hres, rfl⟩ := h3
      cases hres
    · exact hok _ _ ⟨hadded.issued, hadded.inserted⟩
    · exact hok _ _ ⟨hadded.issued, hadded.inserted⟩

theorem wp_create (hout : ctx.inTx = false) {P : Post Key}
    (hfail : ∀ e s', s'.db = s.db → P (.error e) s')
    (hok : ∀ stored s', Added m key s stored s' → P (.ok stored) s') :
    (m.create ctx key).wp false P s := by
  have hadded : ∀ {s1 : State}, s1.db = s.db → ∀ stored s', Added m key s1 stored s' →
      P (.ok stored) s' := by
    intro s1 hd stored s' h
    refine hok _ _ ⟨?_, ?_⟩
    · rw [← hd]
      exact h.issued
    · rw [← hd]
      exact h.inserted
  unfold create
  refine wp_query_bind (fun e n _ => hfail _ _ rfl) fun _ n _ => ?_
  split
  · rename_i htype
    refine wp_query_bind (fun e n _ => hfail _ _ rfl) fun needs n hneeds => ?_
    split
    · rename_i hn
      subst hn
      exact wp_storePendingKey hout htype (plugin_eval_ok hneeds) (fun e s' hd => hfail _ _ hd)
        (hadded rfl)
    · exact wp_createDirectly hout (fun e s' hd => hfail _ _ hd) (hadded rfl)
  · exact wp_createDirectly hout (fun e s' hd => hfail _ _ hd) (hadded rfl)

end KeyManager

/-- What becomes of a pending key: it is given up, created, or found at the provider. -/
inductive Completed (m : KeyManager) (key : Key) : Key → Prop where
  | gaveUp (detail : KeyErrorDetail) :
      Completed m key { key with state := .error, errorDetail := some detail }
  | created {n : Nat} {resp : CreateKeyResponse} (h : m.keystores.createKey n key = .ok resp) :
      Completed m key { key with nativeID := some resp.keyID, state := resp.status }
  | recovered {n : Nat} {resp : GetKeyResponse} (h : m.keystores.getKey n key.id.toString = .ok resp) :
      Completed m key { key with nativeID := some resp.keyID, state := resp.status }

theorem Completed.same (h : Completed m key key') :
    key'.id = key.id ∧ key'.keyConfigurationID = key.keyConfigurationID ∧
      key'.keyType = key.keyType := by
  cases h <;> exact ⟨rfl, rfl, rfl⟩

structure Rewritten (row key : Key) (d d' : Db) : Prop where
  keys : d'.keys.get? = Function.update d.keys.get? row.id (some key)
  keyConfigurations : d'.keyConfigurations = d.keyConfigurations

theorem Repo.wp_patchKey_all {P : Post Key} (hrow : s.db.keys.get? key.id = some row)
    (hfail : ∀ e s', s'.db = s.db → s'.ext = s.ext → P (.error e) s')
    (hdone : ∀ s', keyPatchError true key = none → Rewritten row key s.db s'.db →
      VersionsKept s.db s'.db → s'.ext = s.ext → P (.ok key) s') :
    (r.patchKey ctx true key).wp i P s := by
  have hid : row.id = key.id := key_of_get? hrow
  have hnew : patchedKey true key row = key := by
    change ({ key with id := row.id } : Key) = key
    rw [hid]
  refine wp_patchKey hfail fun s' he hd hx => ?_
  rw [hrow, map_some, getD_some, hnew]
  refine hdone _ he ⟨?_, by rw [hd]⟩ (.of_eq (by rw [hd])) hx
  rw [hd, get?_modify, hrow, map_some, hnew, hid]

namespace KeyManager

variable {m : KeyManager} {ctx : Ctx} {key : Key} {s : State}

theorem wp_transitionPendingKeyToError {code msg : String} (hrow : s.db.keys.get? key.id = some key)
    (hfail : ∀ e s', s'.db = s.db → P (.error e) s')
    (hdone : ∀ key' s', Completed m key key' → Rewritten key key' s.db s'.db → P (.ok ()) s') :
    (m.transitionPendingKeyToError ctx key code msg).wp false P s := by
  refine wp_query_bind (fun e n _ => hfail _ _ rfl) fun now n _ => ?_
  refine wp_bind (wp_mapError (wp_patchKey_all hrow
    (fun e s' hd _ => hfail _ _ hd) fun s' _ hrew _ _ => ?_))
  exact hdone _ _ (.gaveUp _) hrew

theorem wp_completePendingKey (hout : ctx.inTx = false) (hrow : s.db.keys.get? key.id = some key)
    (hfail : ∀ e s', s'.db = s.db → P (.error e) s')
    (hdone : ∀ key' s', Completed m key key' → Rewritten key key' s.db s'.db → P (.ok ()) s') :
    (m.completePendingKey ctx key).wp false P s := by
  refine wp_query_bind (fun e n _ => hfail _ _ rfl) fun key' n hkey => ?_
  have hcompleted : Completed m key key' := by
    obtain ⟨r, n1, hr, hkey⟩ := eval_bind_ok hkey
    rw [eval_attempt] at hr
    cases hp : (m.createManagedProviderKey key).eval s.db s.clock with
    | mk r' n2 =>
      rw [hp] at hr
      cases hr
      cases r' with
      | ok a =>
        cases hkey
        obtain ⟨k, resp, hresp, rfl⟩ := createManagedProviderKey_ok hp
        exact .created hresp
      | error e =>
        simp only [throw_bind] at hkey
        split at hkey
        · cases hkey
        · obtain ⟨resp, n3, hresp, hkey⟩ := eval_bind_ok hkey
          cases hkey
          exact .recovered (plugin_eval_ok (eval_mapError_ok hresp))
  obtain ⟨hid, hkc, -⟩ := hcompleted.same
  refine wp_transaction hout (wp_bind (wp_mapError (wp_setPrimaryIfFirstKey
    (fun e s' _ => ⟨by simp, fun _ e k => hfail _ _ rfl⟩) fun s1 hx hkeys _ hprimary => ?_)))
  have hkc1 : s1.db.keyConfigurations = s.db.keyConfigurations := by
    rcases hprimary with h | h
    · exact absurd hkc.symm (h.first key (mem_of_get? hrow))
    · exact h.keyConfigurations
  have hrow1 : s1.db.keys.get? key'.id = some key := by
    rw [hkeys, hid]
    exact hrow
  refine wp_bind (wp_mapError (wp_patchKey_all hrow1 (fun e s' _ _ => ?_)
    fun s2 _ hrew _ _ => ?_))
  · exact ⟨by simp, fun _ e k => hfail _ _ rfl⟩
  · refine ⟨fun a ha => hdone key' _ hcompleted ⟨?_, ?_⟩, fun _ e k => hfail _ _ rfl⟩
    · rw [← hkeys]
      exact hrew.keys
    · exact hrew.keyConfigurations.trans hkc1

theorem wp_provisionPendingKey (hout : ctx.inTx = false) (hrow : s.db.keys.get? key.id = some key)
    (hfail : ∀ e s', s'.db = s.db → P (.error e) s')
    (hdone : ∀ key' s', Completed m key key' → Rewritten key key' s.db s'.db → P (.ok ()) s') :
    (m.provisionPendingKey ctx key).wp false P s := by
  unfold provisionPendingKey
  refine wp_query_bind (fun e n _ => hfail _ _ rfl) fun now n _ => ?_
  split
  · exact wp_transitionPendingKeyToError hrow (fun e s' hd => hfail _ _ hd) hdone
  refine Prog.wp_query_attempt_bind fun r n _ => ?_
  cases r with
  | ok a => exact wp_completePendingKey hout hrow (fun e s' hd => hfail _ _ hd) hdone
  | error e =>
    dsimp only
    split
    · exact wp_transitionPendingKeyToError hrow (fun e s' hd => hfail _ _ hd) hdone
    · exact hfail _ _ rfl

theorem wp_syncPendingCreationKey (hout : ctx.inTx = false) {P : State → Prop}
    (hkept : ∀ s', s'.db = s.db → P s')
    (hread : ∀ row st s', byID s.db.keys keyID = some row → StateSet row st s.db s'.db → P s')
    (hdone : ∀ row key' s', byID s.db.keys keyID = some row →
      Completed m { row with state := .pendingCreation } key' →
      Rewritten row key' s.db s'.db → P s') :
    (m.syncPendingCreationKey ctx keyID).wp false (fun _ => P) s := by
  refine wp_bind (wp_attempt (wp_get hout (fun e s' hd _ => ?_)
    (fun e row st s' h => ?_) fun loaded row st s' h hkey _ _ => ?_))
  · dsimp only
    split
    · exact hkept _ hd
    · exact hkept _ hd
  · dsimp only
    split
    · exact hread _ _ _ h.found h.stateSet
    · exact hread _ _ _ h.found h.stateSet
  · simp only [hkey]
    split
    · exact hread _ _ _ h.found h.stateSet
    rename_i hpending
    have hst : st = .pendingCreation := not_not.1 hpending
    subst hst
    have hrow : s'.db.keys.get? row.id = some { row with state := .pendingCreation } := by
      rw [h.stateSet.keys, update_self]
    refine wp_provisionPendingKey hout hrow (fun e s'' hd => ?_) fun key' s'' hc hr => ?_
    · exact hread row _ _ h.found (by rw [hd]; exact h.stateSet)
    · refine hdone row key' _ h.found hc ⟨?_, ?_⟩
      · rw [hr.keys, h.stateSet.keys, update_idem]
      · rw [hr.keyConfigurations, h.stateSet.keyConfigurations]

end KeyManager

structure Deleted (keyID : UUID) (d d' : Db) : Prop where
  id : keyID ≠ UUID.nil
  keys : d'.keys.get? = Function.update d.keys.get? keyID none
  keyConfigurations : d'.keyConfigurations = d.keyConfigurations

namespace KeyManager

variable {m : KeyManager} {ctx : Ctx} {key : Key} {s : State}

theorem wp_deleteRows (hout : ctx.inTx = false)
    (hfail : ∀ e s', s'.db = s.db → s'.ext = s.ext → P (.error e) s')
    (hdone : ∀ s', Deleted keyID s.db s'.db → s'.ext = s.ext → P (.ok ()) s') :
    (m.deleteRows ctx keyID).wp false P s := by
  refine wp_transaction hout (wp_bind (wp_mapError (wp_exec_any
    (fun e s' _ _ hx => ⟨by simp, fun _ e k => hfail _ _ rfl hx⟩) fun s1 _ hd1 hx1 => ?_)))
  refine wp_mapError (wp_exec_any (fun e s' _ _ hx => ?_) fun s2 _ hd2 hx2 => ?_)
  · exact ⟨by simp [Except.mapError], fun _ e k => hfail _ _ rfl (hx.trans hx1)⟩
  refine ⟨fun a ha => ?_, fun _ e k => hfail _ _ rfl (hx2.trans hx1)⟩
  split at hd2
  · rename_i h
    simp only [if_pos h, Except.mapError] at ha
    cases ha
  rename_i hid
  split at hd2
  · rename_i h
    simp only [if_neg hid, if_pos h, Except.mapError] at ha
    cases ha
  refine hdone _ ⟨hid, ?_, ?_⟩ (hx2.trans hx1)
  · rw [hd2, get?_delete, hd1]
  · rw [hd2, hd1]

/-- A key that has a counterpart which `Delete` deletes at the provider. -/
def Managed (key : Key) (nativeID : String) : Prop :=
  key.keyType ≠ some .hyok ∧ key.state ≠ .pendingCreation ∧ key.nativeID = some nativeID

theorem wp_deleteProviderKey (hkept : ∀ res s', s'.db = s.db → s'.ext = s.ext → P res s')
    (hdeleted : ∀ nativeID s', Managed key nativeID → s'.db = s.db →
      s'.ext = { s.ext with deletedKeys := s.ext.deletedKeys ++ [nativeID] } → P (.ok ()) s') :
    (m.deleteProviderKey key).wp i P s := by
  unfold deleteProviderKey
  split
  · exact hkept _ _ rfl rfl
  rename_i hmanaged
  obtain ⟨htype, hstate⟩ := not_or.1 hmanaged
  refine wp_query_bind (fun e n _ => hkept _ _ rfl rfl) fun _ n _ => ?_
  cases hid : key.nativeID with
  | none => exact hkept _ _ rfl rfl
  | some nativeID =>
    refine wp_mapError ?_
    unfold Prog.wp deleteAtProvider
    rw [run_call]
    cases hd : m.keystores.deleteKey n nativeID with
    | error e => exact hkept _ _ rfl rfl
    | ok a => exact hdeleted nativeID _ ⟨htype, hstate, hid⟩ rfl rfl

theorem wp_deleteChecked (hout : ctx.inTx = false)
    (hfail : ∀ e s', s'.db = s.db → s'.ext = s.ext → P (.error e) s')
    (hlost : ∀ e nativeID s', Managed key nativeID → s'.db = s.db →
      s'.ext = { s.ext with deletedKeys := s.ext.deletedKeys ++ [nativeID] } → P (.error e) s')
    (hdone : ∀ s', Deleted keyID s.db s'.db → P (.ok ()) s') :
    (do
      m.deleteProviderKey key
      (m.deleteRows ctx keyID).mapError (.wrap .errDeleteKey)
      m.sendAuditLog .delete key.id : M Unit).wp false P s := by
  have hrows : ∀ s1 : State, s1.db = s.db →
      (∀ e s', s'.db = s.db → s'.ext = s1.ext → P (.error e) s') →
      (do
        (m.deleteRows ctx keyID).mapError (.wrap .errDeleteKey)
        m.sendAuditLog .delete key.id : M Unit).wp false P s1 := by
    intro s1 hd1 herr
    refine wp_bind (wp_mapError (wp_deleteRows hout (fun e s' hd hx => ?_) fun s2 hdel _ => ?_))
    · exact herr _ _ (hd.trans hd1) hx
    · refine sendAuditLog_db fun s3 hd3 => hdone _ ?_
      rw [hd3, ← hd1]
      exact hdel
  refine wp_bind (wp_deleteProviderKey (fun res s1 hd hx => ?_)
    fun nativeID s1 hmanaged hd hx => hrows s1 hd fun e s' hd' hx' => ?_)
  · cases res with
    | error e => exact hfail _ _ hd hx
    | ok a => exact hrows s1 hd fun e s' hd' hx' => hfail _ _ hd' (hx'.trans hx)
  · exact hlost e nativeID s' hmanaged hd' (hx'.trans hx)

/-- A deletion fails, and then the key is as it was read, perhaps without its counterpart at the
provider, or its rows are gone. In both last cases it was not the primary key of a key configuration
with systems. -/
theorem wp_delete (hout : ctx.inTx = false)
    (hfail : ∀ e s', s'.db = s.db → s'.ext = s.ext → P (.error e) s')
    (hread : ∀ e row st s', Read keyID s row st s' → P (.error e) s')
    (hlost : ∀ e row nativeID s', byID s.db.keys keyID = some row → row.keyType = some .byok →
      Managed row nativeID → (s.db.primaryKeyID row.keyConfigurationID = some row.id →
        systemsOf s.db row.keyConfigurationID = []) → s'.db = s.db →
      s'.ext = { s.ext with deletedKeys := s.ext.deletedKeys ++ [nativeID] } → P (.error e) s')
    (hdone : ∀ row s', s.db.keys.get? keyID = some row →
      (s.db.primaryKeyID row.keyConfigurationID = some row.id →
        systemsOf s.db row.keyConfigurationID = []) →
      Deleted keyID s.db s'.db → P (.ok ()) s') :
    (m.delete ctx keyID).wp false P s := by
  refine wp_bind (wp_mapError (wp_get hout (fun e s' hd hx => hfail _ _ hd hx)
    (fun e row st s' h => hread _ _ _ _ h) fun loaded row st s1 h hkey hprimary htype => ?_))
  have hlate : ∀ e (s' : State), s'.db = s1.db → s'.ext = s1.ext → P (.error e) s' := by
    intro e s' hd hx
    refine hread e row st s' ⟨h.found, ?_, ?_, fun hn => ?_⟩
    · rw [hx]
      exact h.jobs
    · rw [hd]
      exact h.stateSet
    · rw [hd, hx]
      exact h.managed hn
  have hchecked : (s.db.primaryKeyID row.keyConfigurationID = some row.id →
      systemsOf s.db row.keyConfigurationID = []) → ∀ n,
      (do
        m.deleteProviderKey loaded.key
        (m.deleteRows ctx keyID).mapError (.wrap .errDeleteKey)
        m.sendAuditLog .delete loaded.key.id : M Unit).wp false P { s1 with clock := n } := by
    intro hguard n
    refine wp_deleteChecked hout hlate (fun e nativeID s' hmanaged hd hx => ?_) fun s' hdel => ?_
    · rw [hkey] at hmanaged
      obtain ⟨hd1, hx1, hst⟩ := h.managed hmanaged.1
      have hbyok : row.keyType = some .byok := by
        cases ht : row.keyType with
        | none => exact absurd ht htype
        | some t =>
          cases t with
          | byok => rfl
          | hyok => exact absurd ht hmanaged.1
      subst hst
      refine hlost e row nativeID s' h.found hbyok hmanaged hguard (hd.trans hd1) ?_
      rw [hx]
      exact congrArg (fun x : World => { x with deletedKeys := x.deletedKeys ++ [nativeID] }) hx1
    · have hfound : s.db.keys.get? keyID = some row := by
        rw [← byID_of_ne hdel.id]
        exact h.found
      refine hdone row s' hfound hguard ⟨hdel.id, ?_, ?_⟩
      · rw [hdel.keys, h.stateSet.keys, key_of_get? hfound, update_idem]
      · rw [hdel.keyConfigurations, h.stateSet.keyConfigurations]
  have hkc : loaded.key.keyConfigurationID = row.keyConfigurationID := by rw [hkey]
  simp only [Except.mapError, Prog.throw_bind]
  split
  · refine wp_query_bind (fun e n _ => hlate _ _ rfl rfl) fun existing n hcount => ?_
    split
    · exact hlate _ _ rfl rfl
    rename_i hexisting
    refine hchecked (fun _ => ?_) n
    obtain ⟨count, n', hc, hex⟩ := eval_bind_ok hcount
    cases hex
    have hzero : (systemsOf s1.db loaded.key.keyConfigurationID).length = 0 := by
      have := (eval_count_ok hc).1
      simp only [decide_eq_true_eq] at hexisting
      omega
    rw [length_eq_zero_iff, hkc, systemsOf, h.stateSet.systems] at hzero
    exact hzero
  · rename_i hnot
    refine hchecked (fun hp => ?_) s1.clock
    rw [hprimary, decide_eq_true hp] at hnot
    exact absurd rfl hnot

end KeyManager

end Cmk
