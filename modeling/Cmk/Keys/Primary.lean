import Cmk.Jobs.Quiet
import Cmk.Keys.Effects
import Cmk.Tx.Refs

/-!
# Cmk.Keys.Primary

The primary key of a key configuration. It is a column without a foreign key, written by the creation
of a first key, by an update of the key configuration, and by its creation.

* `KeyCall`, `KeyCall.step` — the requests on keys and key configurations, and what each of them does
  to the references between the two (`Db.refs`).
-/

namespace Cmk

open Tx Function Repo Prog Table Option Db List KeyManager KeyConfigManager

variable {kc row : KeyConfiguration} {s s' : State} {key stored : Key} {i : Bool}

/-- Keys belong to key configurations, and a key configuration may have chosen its primary key. -/
def Db.refs (d : Db) : Refs UUID UUID where
  owner k := (d.keys.get? k).map Key.keyConfigurationID
  chosen c := (d.keyConfigurations.get? c).map KeyConfiguration.primaryKeyID

section

variable {d d' : Db} {row key : Key} {st : KeyState} {keyID : UUID}

theorem refs_ext (howner : d'.refs.owner = d.refs.owner)
    (hkc : d'.keyConfigurations = d.keyConfigurations) : d'.refs = d.refs := by
  simp only [refs, hkc] at howner ⊢
  rw [howner]

theorem owner_update {keys keys' : UUID → Option Key} {k : UUID} {new : Option Key}
    (h : keys' = update keys k new) :
    (fun id => (keys' id).map Key.keyConfigurationID) =
      update (fun id => (keys id).map Key.keyConfigurationID) k
        (new.map Key.keyConfigurationID) := by
  subst h
  exact Function.apply_update (fun _ => Option.map Key.keyConfigurationID) keys k new |> funext

theorem Rewritten.refs (h : Rewritten row key d d') (hrow : d.keys.get? row.id = some row)
    (hkc : key.keyConfigurationID = row.keyConfigurationID) : d'.refs = d.refs := by
  refine refs_ext ?_ h.keyConfigurations
  refine (owner_update h.keys).trans ?_
  rw [map_some, hkc, ← map_some (f := Key.keyConfigurationID), ← hrow]
  exact update_eq_self _ _

theorem StateSet.refs (h : StateSet row st d d') (hrow : d.keys.get? row.id = some row) :
    d'.refs = d.refs :=
  Rewritten.refs ⟨h.keys, h.keyConfigurations⟩ hrow rfl

theorem Deleted.refs (h : Deleted keyID d d') : d'.refs = d.refs.release keyID := by
  have hkeys := owner_update h.keys
  simp only [Db.refs, Refs.release, h.keyConfigurations, hkeys, map_none]

theorem Inserted.owner (h : Inserted key d d') :
    d'.refs.owner = (d.refs.own key.id key.keyConfigurationID).owner := owner_update h.keys

theorem Promoted.chosen (h : Promoted key d d') :
    d'.refs.chosen = (d.refs.choose key.keyConfigurationID key.id).chosen := by
  funext c
  simp only [refs, Refs.choose, h.keyConfigurations, get?_modify, update_apply]
  split
  · rename_i hc
    subst hc
    cases d.keyConfigurations.get? key.keyConfigurationID with
    | none => rfl
    | some kc => rfl
  · rfl

theorem refs_assign {c : UUID} {p : Option UUID} (hkeys : d'.keys = d.keys)
    (hkc : d'.keyConfigurations.get? = update d.keyConfigurations.get? c (some kc))
    (hp : kc.primaryKeyID = p) : d'.refs = d.refs.assign c p := by
  simp only [refs, Refs.assign, hkeys, hkc]
  congr 1
  funext c'
  simp only [update_apply]
  split
  · rw [map_some, hp]
  · rfl

/-- A new key belongs to its key configuration, and may have become its primary key. -/
theorem KeyManager.Added.refs {m : KeyManager} (h : Added m key s stored s') :
    s.db.refs.owner key.id = none ∧
    (s'.db.refs = s.db.refs.own key.id key.keyConfigurationID ∨
      s'.db.refs = (s.db.refs.own key.id key.keyConfigurationID).choose key.keyConfigurationID key.id) := by
  obtain ⟨issued, time, hissued, rfl, hprimary⟩ := h.issued
  obtain ⟨hid, hkc, -⟩ := hissued.same
  have howner := h.inserted.owner
  have hnew := h.inserted.new
  simp only [Key.stored, hid, hkc] at howner hnew
  refine ⟨by simp only [refs, hnew, map_none], ?_⟩
  rcases hprimary with hp | hp
  · right
    have hchosen := hp.chosen
    rw [hid, hkc] at hchosen
    exact congrArg₂ Refs.mk howner hchosen
  · left
    refine congrArg₂ Refs.mk howner ?_
    simp only [hp.keyConfigurations]
    rfl

end

structure KeyRowsKept (d d' : Db) : Prop where
  keys : d'.keys = d.keys
  keyConfigurations : d'.keyConfigurations = d.keyConfigurations

instance : Std.Refl KeyRowsKept := ⟨fun _ => ⟨rfl, rfl⟩⟩

instance : IsTrans Db KeyRowsKept :=
  ⟨fun _ _ _ h h' => ⟨h'.keys.trans h.keys, h'.keyConfigurations.trans h.keyConfigurations⟩⟩

theorem systemFrame_keyRows : SystemFrame KeyRowsKept AnyWorld where
  systems _ _ _ := ⟨rfl, rfl⟩
  events _ _ := ⟨rfl, rfl⟩
  job _ _ := trivial

def Db.NamesUnique (d : Db) : Prop :=
  ∀ kc ∈ d.keyConfigurations.rows, ∀ kc' ∈ d.keyConfigurations.rows, kc.name = kc'.name → kc.id = kc'.id

instance (d : Db) : Decidable d.NamesUnique := by
  unfold Db.NamesUnique
  infer_instance

def NamesKept (d d' : Db) : Prop := d.NamesUnique → d'.NamesUnique

/-- Another key configuration has the name the struct is to be written with. -/
def ClaimsName (d : Db) (kc : KeyConfiguration) : Prop :=
  kc.name ≠ "" ∧ ∃ other ∈ d.keyConfigurations.rows, other.id ≠ kc.id ∧ other.name = kc.name

section

variable {d d' : Db} {kc : KeyConfiguration}

theorem NamesKept.of_rows (h : ∀ kc' ∈ d'.keyConfigurations.rows,
    ∃ kc ∈ d.keyConfigurations.rows, kc.id = kc'.id ∧ kc.name = kc'.name) : NamesKept d d' := by
  intro hd a ha b hb hab
  obtain ⟨a0, ha0, hida, hnamea⟩ := h a ha
  obtain ⟨b0, hb0, hidb, hnameb⟩ := h b hb
  rw [← hida, ← hidb]
  exact hd a0 ha0 b0 hb0 (by rw [hnamea, hnameb, hab])

theorem NamesKept.of_eq (h : d'.keyConfigurations = d.keyConfigurations) : NamesKept d d' := by
  refine .of_rows fun kc hkc => ?_
  rw [h] at hkc
  exact ⟨kc, hkc, rfl, rfl⟩

theorem Promoted.names (h : Promoted key d d') : NamesKept d d' := by
  refine .of_rows fun kc hkc => ?_
  rw [h.keyConfigurations, mem_modify] at hkc
  rcases hkc with ⟨kc0, hmem, -, rfl⟩ | ⟨hmem, -⟩
  · exact ⟨kc0, hmem, rfl, rfl⟩
  · exact ⟨kc, hmem, rfl, rfl⟩

theorem KeyManager.Added.names {m : KeyManager} (h : Added m key s stored s') :
    NamesKept s.db s'.db := by
  obtain ⟨issued, time, -, -, hprimary⟩ := h.issued
  rcases hprimary with hp | hp
  · exact hp.names
  · exact .of_eq hp.keyConfigurations

theorem NamesKept.of_patch (hname : ¬ ClaimsName d kc)
    (h : d'.keyConfigurations =
      d.keyConfigurations.modify kc.id (keyConfigurationUpdates kc) fun _ => rfl) :
    NamesKept d d' := by
  intro hd
  -- the row that was written, and another one
  have hother : ∀ row ∈ d.keyConfigurations.rows, row.id = kc.id →
      ∀ other ∈ d.keyConfigurations.rows, other.id ≠ kc.id →
      (keyConfigurationUpdates kc row).name ≠ other.name := by
    intro row hrow hid other hmem hne heq
    by_cases hempty : kc.name = ""
    · simp only [keyConfigurationUpdates, nonZero, if_pos hempty] at heq
      exact hne ((hd row hrow other hmem heq).symm.trans hid)
    · simp only [keyConfigurationUpdates, nonZero, if_neg hempty] at heq
      exact hname ⟨hempty, other, hmem, hne, heq.symm⟩
  intro a ha b hb hab
  rw [h] at ha hb
  rcases mem_modify.1 ha with ⟨a0, hrowa, hida, rfl⟩ | ⟨hmema, hnea⟩
  · rcases mem_modify.1 hb with ⟨b0, -, hidb, rfl⟩ | ⟨hmemb, hneb⟩
    · exact hida.trans hidb.symm
    · exact absurd hab (hother a0 hrowa hida b hmemb hneb)
  · rcases mem_modify.1 hb with ⟨b0, hrowb, hidb, rfl⟩ | ⟨hmemb, -⟩
    · exact absurd hab.symm (hother b0 hrowb hidb a hmema hnea)
    · exact hd a hmema b hmemb hab

theorem NamesKept.of_insert (hname : ∀ other ∈ d.keyConfigurations.rows, other.name ≠ kc.name)
    (h : d'.keyConfigurations.rows = d.keyConfigurations.rows ++ [{ kc with adminGroup := {} }]) :
    NamesKept d d' := by
  intro hd a ha b hb hab
  rw [h, mem_append, mem_singleton] at ha hb
  rcases ha with ha | rfl
  · rcases hb with hb | rfl
    · exact hd a ha b hb hab
    · exact absurd hab (hname a ha)
  · rcases hb with hb | rfl
    · exact absurd hab.symm (hname b hb)
    · rfl

end

def updatedPrimary (patch : KeyConfigurationPatch) (kc : KeyConfiguration) : Option UUID :=
  patch.primaryKeyID.or kc.primaryKeyID

namespace KeyConfigManager

variable {m : KeyConfigManager} {f : EventFactory} {ctx : Ctx} {s : State}

theorem wp_patchKeyConfiguration_rows {P : Post Unit}
    (hrow : s.db.keyConfigurations.get? kc.id = some row)
    (hfail : ∀ e s', m.repo.Refuses ctx s.clock ∨ ClaimsName s.db kc → P (.error e) s')
    (hdone : ∀ s', s'.db.refs = s.db.refs.assign kc.id (kc.primaryKeyID.or row.primaryKeyID) →
      NamesKept s.db s'.db → P (.ok ()) s') : (m.repo.patchKeyConfiguration ctx kc).wp i P s := by
  refine wp_exec_any (fun e s' hr _ _ => hfail e s' (.inl hr)) fun s' _ hd hx => ?_
  have hclaims : (kc.name ≠ "" ∧ (s.db.keyConfigurations.rows.any fun kc' =>
      kc'.id ≠ kc.id ∧ kc'.name = kc.name) = true) ↔ ClaimsName s.db kc := by simp [ClaimsName]
  split at hd
  · rename_i h
    rw [if_pos h]
    exact hfail _ _ (.inr (hclaims.1 h))
  · rename_i h
    rw [if_neg h]
    have hget : s'.db.keyConfigurations.get? = update s.db.keyConfigurations.get? kc.id
        (some (keyConfigurationUpdates kc row)) := by
      have hkcs := get?_modify (t := s.db.keyConfigurations) (k := kc.id)
        (f := keyConfigurationUpdates kc) fun _ => rfl
      rw [hrow] at hkcs
      exact (congrArg (fun d : Db => d.keyConfigurations.get?) hd).trans hkcs
    have hprimary : (keyConfigurationUpdates kc row).primaryKeyID =
        kc.primaryKeyID.or row.primaryKeyID := by
      cases hp : kc.primaryKeyID <;> simp [keyConfigurationUpdates, nonZero, hp]
    have hkeys : s'.db.keys = s.db.keys := by rw [hd]
    exact hdone s' (refs_assign hkeys hget hprimary)
      (.of_patch (fun hc => h (hclaims.2 hc)) (congrArg keyConfigurations hd))

/-- An update leaves the references as they are, or writes the primary key of the key configuration it
has found. A new one was found by its ID alone. -/
theorem wp_updateKeyConfigurationByID_rows (hout : ctx.inTx = false) {id : UUID}
    {patch : KeyConfigurationPatch} {P : State → Prop}
    (hkept : ∀ s', s'.db = s.db → P s')
    (hdone : ∀ kc s', byID s.db.keyConfigurations id = some kc →
      (∀ k, patch.primaryKeyID = some k → ∃ key, byID s.db.keys k = some key) →
      s'.db.refs = s.db.refs.assign kc.id (updatedPrimary patch kc) → NamesKept s.db s'.db → P s') :
    (m.updateKeyConfigurationByID f ctx id patch).wp false (fun _ => P) s := by
  simp only [updateKeyConfigurationByID, throw_bind]
  refine wp_query_bind (fun e n _ => hkept _ rfl) fun _ n _ => ?_
  refine wp_query_bind (fun e n _ => hkept _ rfl) fun kc n hkc => ?_
  have hfound := (eval_first_ok (eval_mapError_ok hkc)).1
  split
  · exact hkept _ rfl
  have hget := get?_of_byID hfound
  -- the last statement of the transaction, for the struct with the new values
  have hpatch : ∀ (kc' : KeyConfiguration) (s1 : State), KeyRowsKept s.db s1.db →
      kc'.id = kc.id → kc'.primaryKeyID = updatedPrimary patch kc →
      (∀ k, patch.primaryKeyID = some k → ∃ key, byID s.db.keys k = some key) →
      (do
        (m.repo.patchKeyConfiguration { ctx with inTx := true } kc').mapError
          (.wrap .errUpdateKeyConfiguration)
        return kc' : M KeyConfiguration).wp true (fun res s' =>
          (∀ a, res = .ok a →
            P { s' with clock := s'.clock + 1, commits := s'.db :: s.commits }) ∧
          ((∀ a, res = .ok a → ∃ k, m.repo.commit k ≠ none) →
            ∀ (e : Exn) k, P { s' with db := s.db, clock := k, commits := s.commits })) s1 := by
    intro kc' s1 hk hid hprimary hkey
    have hrow : s1.db.keyConfigurations.get? kc'.id = some kc := by
      rw [hk.keyConfigurations, hid]
      exact hget
    refine wp_bind (wp_mapError (wp_patchKeyConfiguration_rows hrow (fun e s' _ => ?_)
      fun s' h hnames => ?_))
    · exact ⟨by simp, fun _ e k => hkept _ rfl⟩
    · refine ⟨fun a ha => hdone kc _ hfound hkey ?_ ?_, fun _ e k => hkept _ rfl⟩
      rotate_left
      · exact fun hd => hnames (NamesKept.of_eq hk.keyConfigurations hd)
      have hor : (updatedPrimary patch kc).or kc.primaryKeyID = updatedPrimary patch kc := by
        unfold updatedPrimary
        cases patch.primaryKeyID <;> cases kc.primaryKeyID <;> rfl
      have hsame : s1.db.refs = s.db.refs := by simp only [refs, hk.keys, hk.keyConfigurations]
      change s'.db.refs = _
      rw [h, hprimary, hid, hor, hsame]
  refine wp_transaction hout ?_
  cases hp : patch.primaryKeyID with
  | none => exact hpatch _ _ (refl_of _ _) rfl (by simp [updatedPrimary, hp]) (by simp [hp])
  | some new =>
    refine wp_bind_run (fun e s1 h1 => ⟨by simp, fun _ e k => hkept _ rfl⟩) fun _ s1 h1 => ?_
    have hkeep := ((systemFrame_keyRows.handleUpdatePrimaryKey m f _ new).mapError _).run h1
    obtain ⟨target, n1, htarget, -⟩ := run_query_bind_ok (run_mapError_ok h1)
    refine hpatch _ s1 hkeep.1 rfl (by simp [updatedPrimary, hp]) ?_
    intro k hk
    cases hp.symm.trans hk
    exact ⟨target, (eval_first_ok htarget).1⟩

theorem wp_postKeyConfigurations_rows {P : State → Prop} (hkept : ∀ s', s'.db = s.db → P s')
    (hdone : ∀ s', s'.db.refs = s.db.refs.assign kc.id kc.primaryKeyID → NamesKept s.db s'.db →
      P s') :
    (m.postKeyConfigurations ctx kc).wp i (fun _ => P) s := by
  refine wp_query_attempt_bind fun r n _ => ?_
  cases r with
  | error e => exact hkept _ rfl
  | ok group =>
    simp only [throw_bind]
    split
    · exact hkept _ rfl
    refine wp_query_bind (fun e n _ => hkept _ rfl) fun _ n _ => ?_
    split
    · exact hkept _ rfl
    refine wp_bind (wp_mapError (wp_exec_any (fun e s' _ hd _ => hkept _ hd)
      fun s' _ hd _ => ?_))
    split at hd
    · rename_i h
      rw [if_pos h]
      exact hkept _ hd
    rename_i h
    rw [if_neg h]
    split at hd
    · exact hkept _ hd
    · rename_i t ht
      have hkeys : s'.db.keys = s.db.keys := by rw [hd]
      have hget : s'.db.keyConfigurations.get? = update s.db.keyConfigurations.get? kc.id
          (some { kc with adminGroup := {} }) := by
        rw [hd, ← upsert_of_insert? ht, get?_upsert]
      have hname : ∀ other ∈ s.db.keyConfigurations.rows, other.name ≠ kc.name := by simpa using h
      refine hdone s' (refs_assign hkeys hget rfl) (.of_insert hname ?_)
      rw [hd]
      exact (insert?_eq_some.1 ht).1

end KeyConfigManager

structure KeyPlatform where
  keys : KeyManager
  keyConfigurations : KeyConfigManager
  eventFactory : EventFactory

inductive KeyRequest where
  | create (key : Key)
  | syncPendingCreationKey (keyID : UUID)
  | delete (keyID : UUID)
  | updateKeyConfiguration (keyConfigID : UUID) (patch : KeyConfigurationPatch)
  | postKeyConfigurations (keyConfiguration : KeyConfiguration)

/-- A request from outside, with the database and the providers as they answer to it. -/
structure KeyCall where
  platform : KeyPlatform
  ctx : Ctx
  outermost : ctx.inTx = false
  request : KeyRequest

namespace KeyCall

def prog (call : KeyCall) : M Unit := do
  match call.request with
  | .create key => let _ ← call.platform.keys.create call.ctx key
  | .syncPendingCreationKey keyID => call.platform.keys.syncPendingCreationKey call.ctx keyID
  | .delete keyID => call.platform.keys.delete call.ctx keyID
  | .updateKeyConfiguration keyConfigID patch =>
    let _ ← call.platform.keyConfigurations.updateKeyConfigurationByID call.platform.eventFactory
      call.ctx keyConfigID patch
  | .postKeyConfigurations keyConfiguration =>
    let _ ← call.platform.keyConfigurations.postKeyConfigurations call.ctx keyConfiguration

inductive Step (s s' : St Db World) : KeyRequest → Prop where
  | kept {request : KeyRequest} (h : s'.db.refs = s.db.refs) : Step s s' request
  | created {key : Key} (hnew : s.db.refs.owner key.id = none)
      (h : s'.db.refs = s.db.refs.own key.id key.keyConfigurationID ∨
        s'.db.refs = (s.db.refs.own key.id key.keyConfigurationID).choose key.keyConfigurationID key.id) :
      Step s s' (.create key)
  | deleted {keyID : UUID} (h : s'.db.refs = s.db.refs.release keyID) : Step s s' (.delete keyID)
  | updated {keyConfigID : UUID} {patch : KeyConfigurationPatch} {kc : KeyConfiguration}
      (hkc : Repo.byID s.db.keyConfigurations keyConfigID = some kc)
      (hkey : ∀ k, patch.primaryKeyID = some k → ∃ key, Repo.byID s.db.keys k = some key)
      (h : s'.db.refs = s.db.refs.assign kc.id (updatedPrimary patch kc)) :
      Step s s' (.updateKeyConfiguration keyConfigID patch)
  | posted {kc : KeyConfiguration} (h : s'.db.refs = s.db.refs.assign kc.id kc.primaryKeyID) :
      Step s s' (.postKeyConfigurations kc)

theorem step (call : KeyCall) (s : State) :
    Step s (call.prog.run false s).2 call.request ∧
      NamesKept s.db (call.prog.run false s).2.db := by
  obtain ⟨platform, ctx, hout, request⟩ := call
  change wp false _ (fun _ s' => Step s s' request ∧ NamesKept s.db s'.db) s
  have hdb : ∀ s' : State, s'.db = s.db → Step s s' request ∧ NamesKept s.db s'.db :=
    fun s' hd => ⟨.kept (by rw [hd]), .of_eq (by rw [hd])⟩
  cases request with
  | create key =>
    refine wp_state_bind (wp_create hout (fun e s' hd => hdb s' hd)
      fun stored s' h => ?_) fun _ _ h => h
    exact ⟨.created h.refs.1 h.refs.2, h.names⟩
  | syncPendingCreationKey keyID =>
    refine wp_syncPendingCreationKey hout hdb (fun row st s' hrow h => ?_)
      fun row key' s' hrow hc h => ?_
    · exact ⟨.kept (h.refs (get?_of_byID hrow)), .of_eq h.keyConfigurations⟩
    · exact ⟨.kept (h.refs (get?_of_byID hrow) hc.same.2.1), .of_eq h.keyConfigurations⟩
  | delete keyID =>
    refine wp_delete hout (fun e s' hd _ => hdb s' hd) (fun e row st s' h => ?_)
      (fun e row nativeID s' _ _ _ _ hd _ => hdb s' hd)
      fun row s' hrow _ h => ⟨.deleted h.refs, .of_eq h.keyConfigurations⟩
    exact ⟨.kept (h.stateSet.refs (get?_of_byID h.found)), .of_eq h.stateSet.keyConfigurations⟩
  | updateKeyConfiguration keyConfigID patch =>
    refine wp_state_bind (wp_updateKeyConfigurationByID_rows hout hdb
      fun kc s' hkc hkey h hnames => ?_) fun _ _ h => h
    exact ⟨.updated hkc hkey h, hnames⟩
  | postKeyConfigurations kc =>
    refine wp_state_bind (wp_postKeyConfigurations_rows hdb
      fun s' h hnames => ?_) fun _ _ h => h
    exact ⟨.posted h, hnames⟩

/-- The instance for `BitVec` would go through all IDs. -/
instance (priority := high) {o : Option UUID} {p : UUID → Prop} [DecidablePred p] :
    Decidable (∀ k ∈ o, p k) := Option.decidableForallMem o

/-- The request takes no primary key away, and gives none that is not a key of its configuration. -/
def KeepsPrimaries (call : KeyCall) (s : St Db World) : Prop :=
  match call.request with
  | .create _ | .syncPendingCreationKey _ => True
  | .delete keyID => ∀ kc ∈ s.db.keyConfigurations.rows, kc.primaryKeyID ≠ some keyID
  | .updateKeyConfiguration keyConfigID patch => ∀ k ∈ patch.primaryKeyID,
    ∀ kc ∈ Repo.byID s.db.keyConfigurations keyConfigID, ∀ key ∈ Repo.byID s.db.keys k,
      key.id = k ∧ key.keyConfigurationID = kc.id
  | .postKeyConfigurations kc => kc.primaryKeyID = none

instance (call : KeyCall) (s : St Db World) : Decidable (call.KeepsPrimaries s) := by
  unfold KeepsPrimaries
  cases call.request <;> infer_instance

end KeyCall

def Db.PrimariesOwned (d : Db) : Prop :=
  ∀ kc ∈ d.keyConfigurations.rows, ∀ k ∈ kc.primaryKeyID,
    ∃ key ∈ d.keys.get? k, key.keyConfigurationID = kc.id

instance (d : Db) : Decidable d.PrimariesOwned := by
  unfold Db.PrimariesOwned
  infer_instance

theorem primariesOwned_iff {d : Db} : d.PrimariesOwned ↔ d.refs.Sound := by
  constructor
  · intro h c k hc
    obtain ⟨kc, hkc, hk⟩ := map_eq_some_iff.1 hc
    obtain ⟨hmem, hid⟩ := get?_eq_some.1 hkc
    obtain ⟨key, hkey, howner⟩ := h kc hmem k hk
    simp only [refs, mem_def.1 hkey, map_some, howner]
    exact congrArg some hid
  · intro h kc hkc k hk
    have hc : d.refs.chosen kc.id = some (some k) := by
      simp only [refs, get?_key hkc, map_some]
      exact congrArg some hk
    obtain ⟨key, hkey, howner⟩ := map_eq_some_iff.1 (h _ _ hc)
    exact ⟨key, hkey, howner⟩

namespace KeyCall

theorem Step.sound {call : KeyCall} (hstep : Step s s' call.request) (hcall : call.KeepsPrimaries s)
    (h : s.db.refs.Sound) : s'.db.refs.Sound := by
  obtain ⟨platform, ctx, hout, request⟩ := call
  cases hstep with
  | kept hkept =>
    rw [hkept]
    exact h
  | created hnew hs' =>
    rcases hs' with hs' | hs'
    · rw [hs']
      exact h.own hnew
    · rw [hs']
      exact (h.own hnew).choose (by simp [Refs.own])
  | deleted hs' =>
    rw [hs']
    refine h.release fun c hc => ?_
    obtain ⟨kc, hkc, hk⟩ := map_eq_some_iff.1 hc
    exact hcall kc (mem_of_get? hkc) hk
  | @updated keyConfigID patch kc hkc hkey hs' =>
    rw [hs']
    refine h.assign fun k hk => ?_
    unfold updatedPrimary at hk
    cases hp : patch.primaryKeyID with
    | none =>
      rw [hp, none_or] at hk
      refine h kc.id k ?_
      simp only [refs, get?_of_byID hkc, map_some, hk]
    | some new =>
      rw [hp, some_or] at hk
      cases hk
      obtain ⟨key, hfound⟩ := hkey k hp
      obtain ⟨rfl, howner⟩ := hcall k hp kc hkc key hfound
      simp only [refs, get?_of_byID hfound, map_some, howner]
  | @posted kc hs' =>
    rw [hs']
    have hnone : kc.primaryKeyID = none := hcall
    exact h.assign (by simp [hnone])

end KeyCall

/-- In every run of requests that neither delete a primary key nor choose one from outside the key
configuration, every primary key is a key of its key configuration. -/
theorem primary_keys_owned {s s' : St Db World} (h : s.db.PrimariesOwned)
    (hrun : Runs KeyCall.prog KeyCall.KeepsPrimaries s s') : s'.db.PrimariesOwned := by
  refine hrun.induct (I := fun s => s.db.PrimariesOwned) h fun call s hcall hs => ?_
  exact primariesOwned_iff.2 ((call.step s).1.sound hcall (primariesOwned_iff.1 hs))

namespace Sample

def keyPlatform : KeyPlatform where
  keys := keyManager (eventFactory fun _ => .ok "CREATED")
  keyConfigurations := keyConfigManager
  eventFactory := eventFactory fun _ => .ok "CREATED"

/-- The admin asks. -/
def keyCall (request : KeyRequest) : KeyCall := ⟨keyPlatform, as "a", rfl, request⟩

def registeredKey (id keyConfigurationID : UUID) (name : String) : Key :=
  { enabledKey id keyConfigurationID name with keyType := some .hyok }

def newKeyConfiguration : KeyConfiguration :=
  { id := 31, name := "kc2", adminGroupID := 10, primaryKeyID := none }

/-- A second key configuration gets two keys, of which the first becomes its primary key. -/
def twoKeys : List KeyCall :=
  [keyCall (.postKeyConfigurations newKeyConfiguration),
    keyCall (.create (registeredKey 21 31 "k1")), keyCall (.create (registeredKey 22 31 "k2"))]

end Sample

theorem primary_keys_owned_after_update :
    (Runs.afterAll KeyCall.prog (Sample.twoKeys ++
      [Sample.keyCall (.updateKeyConfiguration 31 { primaryKeyID := some 22 })])
      Sample.start).db.PrimariesOwned := by
  refine primary_keys_owned (s := Sample.start) (by decide +kernel) (Runs.of_along ?_)
  exact ⟨by decide +kernel, by decide +kernel, by decide +kernel, by decide +kernel, trivial⟩

/-- The deleted primary key is still referenced, and so is a key of another key configuration. -/
theorem primary_keys_lost :
    Sample.start.db.PrimariesOwned ∧
    ¬ (Runs.afterAll KeyCall.prog (Sample.twoKeys ++ [Sample.keyCall (.delete 21)])
      Sample.start).db.PrimariesOwned ∧
    ¬ (Runs.afterAll KeyCall.prog (Sample.twoKeys ++
      [Sample.keyCall (.updateKeyConfiguration 31 { primaryKeyID := some 20 })])
      Sample.start).db.PrimariesOwned := by
  decide +kernel

theorem validateKeyForPrimarySwitch_ok :
    validateKeyForPrimarySwitch key = .ok () ↔ key.state = .enabled := by
  unfold validateKeyForPrimarySwitch
  constructor
  · intro h
    by_contra hne
    rw [if_pos hne] at h
    split at h <;> cases h
  · intro h
    simp [h]
    rfl

theorem Repo.byID_of_get? {α : Type} {key : α → UUID} {t : Table key} {id : UUID} {row : α}
    (h : t.get? id = some row) : byID t id = some row := by
  by_cases hid : id = UUID.nil
  · subst hid
    obtain ⟨hmem, hkey⟩ := get?_eq_some.1 h
    rw [byID, if_pos rfl]
    cases hfirst : t.rows.find? fun row => t.rows.all fun row' => key row ≤ key row' with
    | none =>
      have hnone := find?_eq_none.1 hfirst row hmem
      simp [hkey, UUID.nil] at hnone
    | some row' =>
      have hle : ∀ x ∈ t.rows, key row' ≤ key x := by simpa using find?_some hfirst
      have hzero : key row' = key row := by
        have h := hle row hmem
        rw [hkey] at h ⊢
        exact BitVec.le_zero_iff.1 h
      rw [t.eq_of_key (mem_of_find?_eq_some hfirst) hmem hzero]
  · rw [byID_of_ne hid, h]

namespace KeyConfigManager

variable {m : KeyConfigManager} {f : EventFactory} {ctx : Ctx} {s : State}

theorem rekeyEvents_kept (new : UUID) (events : List Event) :
    Keeps KeysKept AnyWorld (m.rekeyEvents ctx new events) := by
  induction events with
  | nil => exact .pure _
  | cons ev events ih =>
    exact .bind (exec_keeps fun _ _ => ⟨rfl, rfl, rfl, .of_eq rfl⟩) fun _ => ih

theorem wp_updatePrimaryKeySystemEvents_ok (hr : ∀ k, ¬ m.repo.Refuses ctx k) {old new : UUID} :
    (m.updatePrimaryKeySystemEvents ctx old new).wp i
      (fun res s' => res = .ok () ∧ KeysKept s.db s'.db) s := by
  refine wp_mono (wp_processInBatch (I := fun s' => KeysKept s.db s'.db)
    (E := fun _ => False) (fun _ _ h => h) (fun _ _ h => h.elim hr)
    (fun s1 events h1 hevents => ?_) (refl_of _ _)) fun res s' h => ?_
  · obtain ⟨hrows, hnd⟩ := eventsTo_rows hevents
    have hkept : (m.rekeyEvents ctx new events).wp i (fun _ s' => KeysKept s1.db s'.db) s1 :=
      ((rekeyEvents_kept new events).run (Prod.eta _).symm).1
    have hrekey : (m.rekeyEvents ctx new events).wp i
        (fun res _ => ∀ e, res = .error e → ∃ k, m.repo.Refuses ctx k) s1 := by
      refine wp_mono (wp_rekeyEvents (G := fun _ _ => True) (fun _ _ _ => trivial)
        (fun ev hev => ⟨(hrows ev hev).1, by rw [(hrows ev hev).2]; nofun⟩) hnd) fun res s' h e he => ?_
      subst he
      exact h.2
    unfold wp at hrekey ⊢
    cases hres : ((m.rekeyEvents ctx new events).run i s1).1 with
    | error e =>
      obtain ⟨k, hk⟩ := hrekey e hres
      exact hr k hk
    | ok u => exact trans_of _ h1 hkept
  · cases res with
    | error e => exact h.elim
    | ok u => exact ⟨rfl, h⟩

/-- Without systems a switch fails only because of a primary key that is not there or not enabled. -/
theorem wp_handleUpdatePrimaryKey_idle (hr : ∀ k, ¬ m.repo.Refuses ctx k) {new : UUID}
    (hidle : systemsOf s.db kc.id = []) (hkey : byID s.db.keys new = some key)
    (hstate : key.state = .enabled) :
    (m.handleUpdatePrimaryKey f ctx kc new).wp i (fun res s' => KeysKept s.db s'.db ∧
      (res = .ok () ↔ ∀ p ∈ kc.primaryKeyID, ∃ old ∈ byID s.db.keys p, old.state = .enabled))
      s := by
  unfold handleUpdatePrimaryKey
  refine wp_query_bind (fun e n he => (hr _ (eval_first_refused hkey he)).elim)
    fun target n htarget => ?_
  cases hkey.symm.trans (eval_first_ok htarget).1
  rw [validateKeyForPrimarySwitch_ok.2 hstate]
  simp only [ok_bind]
  cases hold : kc.primaryKeyID with
  | none => exact ⟨refl_of _ _, by simp⟩
  | some p =>
    refine wp_query_bind (fun e n he => ⟨refl_of _ _, ?_⟩) fun old n hsource => ?_
    · simp only [reduceCtorEq, false_iff]
      intro h
      obtain ⟨old, hold, -⟩ := h p rfl
      exact hr _ (eval_first_refused hold he)
    · have hsource := (eval_first_ok hsource).1
      have hiff : (∀ p' ∈ some p, ∃ old ∈ byID s.db.keys p', old.state = .enabled) ↔
          validateKeyForPrimarySwitch old = .ok () := by
        rw [validateKeyForPrimarySwitch_ok]
        simp [hsource]
      rw [hiff]
      cases hv : validateKeyForPrimarySwitch old with
      | error e => exact ⟨refl_of _ _, by simp⟩
      | ok u =>
        simp only [ok_bind]
        refine wp_bind (wp_mono (wp_updatePrimaryKeySystemEvents_ok hr) ?_)
        rintro _ s1 ⟨rfl, hk⟩
        have hnone : systemsOf s1.db kc.id = [] := by
          simp only [systemsOf, hk.systems] at hidle ⊢
          exact hidle
        refine wp_mono (wp_processInBatch (I := fun s' => s'.db = s1.db)
          (E := fun _ => False) (fun _ _ h => h) (fun _ _ h => h.elim hr)
          (fun s2 items h2 hitems => ?_) rfl) fun res s' h => ?_
        · rw [h2, hnone, subperm_nil] at hitems
          rw [hitems]
          exact h2
        · cases res with
          | error e => exact h.elim
          | ok u =>
            change s'.db = s1.db at h
            exact ⟨by rw [h]; exact hk, by simp⟩

/-- A key configuration without systems gets an enabled key as its primary key exactly if it has none
yet, or has one that is still stored and enabled. -/
theorem wp_updateKeyConfigurationByID_idle (hr : m.repo.Reliable) (ht : ctx.tenant ≠ "")
    (hout : ctx.inTx = false) {c k : UUID} (hnames : s.db.NamesUnique)
    (haccess : ((m.user.hasKeyConfigAccess ctx .update
      (some { id := c, name := "", adminGroupID := UUID.nil, primaryKeyID := none })).eval s.db
        s.clock).1.isOk = true) (hkc : s.db.keyConfigurations.get? c = some kc)
    (hidle : systemsOf s.db c = []) (hkey : s.db.keys.get? k = some key)
    (hstate : key.state = .enabled) :
    (m.updateKeyConfigurationByID f ctx c { primaryKeyID := some k }).wp false (fun res _ =>
      (∃ kc', res = .ok kc') ↔
        ∀ p ∈ kc.primaryKeyID, ∃ old ∈ byID s.db.keys p, old.state = .enabled) s := by
  have hid := key_of_get? hkc
  have hrefuses : ∀ (ctx' : Ctx), ctx'.tenant = ctx.tenant → ∀ k, ¬ m.repo.Refuses ctx' k := by
    intro ctx' hctx k hk
    rcases hk with h | h
    · exact ht (hctx.symm.trans h)
    · exact h (hr.fault k)
  have hbyID := byID_of_get? hkc
  unfold updateKeyConfigurationByID
  refine wp_query_bind (fun e n' he => ?_) fun _ n' hn => ?_
  · rw [he] at haccess
    cases haccess
  refine wp_query_bind (fun e n' he => ?_) fun kc' n' hkc' => ?_
  · obtain ⟨e', he⟩ := Query.eval_mapError_error he
    exact (hrefuses ctx rfl _ (eval_first_refused hbyID he)).elim
  cases hbyID.symm.trans (eval_first_ok (eval_mapError_ok hkc')).1
  simp only [any_none, Bool.false_eq_true, if_false, getD_none]
  have hnone : systemsOf s.db kc.id = [] := by
    rw [hid]
    exact hidle
  refine wp_transaction hout (wp_bind (wp_mapError (wp_mono
    (wp_handleUpdatePrimaryKey_idle (s := { s with clock := n' })
      (hrefuses { ctx with inTx := true } rfl) hnone (byID_of_get? hkey) hstate) ?_)))
  rintro res s1 ⟨hk, hres⟩
  cases res with
  | error e => exact ⟨by simp, fun _ e k => by simpa using hres⟩
  | ok u =>
    have hcond := hres.1 rfl
    have hrow : s1.db.keyConfigurations.get? kc.id = some kc := by
      rw [hk.keyConfigurations, hid]
      exact hkc
    change wp true (do
      (m.repo.patchKeyConfiguration { ctx with inTx := true } { kc with primaryKeyID := some k }).mapError
        (.wrap .errUpdateKeyConfiguration)
      return { kc with primaryKeyID := some k }) _ s1
    refine wp_bind (wp_mapError (wp_patchKeyConfiguration_rows hrow (fun e s' h => ?_)
      fun s' _ _ => ?_))
    · rcases h with h | ⟨-, other, hmem, hne, hname⟩
      · exact (hrefuses { ctx with inTx := true } rfl _ h).elim
      · rw [hk.keyConfigurations] at hmem
        exact absurd (hnames other hmem kc (mem_of_get? hkc) hname) hne
    · refine ⟨fun a ha => ⟨fun _ => hcond, fun _ => ⟨_, rfl⟩⟩, fun hc e k => ?_⟩
      obtain ⟨k, hk⟩ := hc _ rfl
      exact absurd (hr.commit k) hk

end KeyConfigManager

/-- In every state that requests lead to, an enabled key can become the primary key of a key
configuration without systems exactly if there is no primary key yet, or the primary key is still
stored and enabled. -/
theorem primary_key_replaceable_iff {m : KeyConfigManager} {f : EventFactory} {ctx : Ctx}
    {s₀ s : St Db World} {c k : UUID} {kc : KeyConfiguration} {key : Key}
    (hnames : s₀.db.NamesUnique) (hrun : Runs KeyCall.prog (fun _ _ => True) s₀ s)
    (hr : m.repo.Reliable) (ht : ctx.tenant ≠ "") (hout : ctx.inTx = false)
    (haccess : ((m.user.hasKeyConfigAccess ctx .update
      (some { id := c, name := "", adminGroupID := UUID.nil, primaryKeyID := none })).eval s.db
        s.clock).1.isOk = true)
    (hkc : s.db.keyConfigurations.get? c = some kc) (hidle : Repo.systemsOf s.db c = [])
    (hkey : s.db.keys.get? k = some key) (hstate : key.state = .enabled) :
    (∃ kc' s', (m.updateKeyConfigurationByID f ctx c { primaryKeyID := some k }).run false s =
      (.ok kc', s')) ↔
      ∀ p ∈ kc.primaryKeyID, ∃ old ∈ Repo.byID s.db.keys p, old.state = .enabled := by
  have hnames' : s.db.NamesUnique :=
    hrun.induct (I := fun s => s.db.NamesUnique) hnames fun call s _ h => (call.step s).2 h
  have h := KeyConfigManager.wp_updateKeyConfigurationByID_idle (f := f) hr ht hout hnames' haccess
    hkc hidle hkey hstate
  refine Iff.trans ⟨?_, ?_⟩ h
  · rintro ⟨kc', s', hk⟩
    exact ⟨kc', by rw [hk]⟩
  · rintro ⟨kc', hk⟩
    exact ⟨kc', _, Prod.ext hk rfl⟩

theorem primary_key_replaceable_after_two_keys :
    ∃ kc' s', (Sample.keyConfigManager.updateKeyConfigurationByID Sample.keyPlatform.eventFactory
      (Sample.as "a") 31 { primaryKeyID := some 22 }).run false
        (Runs.afterAll KeyCall.prog Sample.twoKeys Sample.start) = (.ok kc', s') := by
  have hrun : Runs KeyCall.prog (fun _ _ => True) Sample.start
      (Runs.afterAll KeyCall.prog Sample.twoKeys Sample.start) :=
    Runs.of_along ⟨trivial, trivial, trivial, trivial⟩
  have hkc : (Runs.afterAll KeyCall.prog Sample.twoKeys Sample.start).db.keyConfigurations.get? 31 =
      some { Sample.newKeyConfiguration with primaryKeyID := some 21 } := by decide +kernel
  have hkey : (Runs.afterAll KeyCall.prog Sample.twoKeys Sample.start).db.keys.get? 22 =
      some (Sample.registeredKey 22 31 "k2") := by decide +kernel
  exact (primary_key_replaceable_iff (by decide +kernel) hrun ⟨fun _ => rfl, fun _ => rfl⟩ (by decide)
    rfl (by decide +kernel) hkc (by decide +kernel) hkey rfl).2 (by decide +kernel)

/-- The first of two keys is deleted. The second one is enabled, but cannot become the primary key. -/
theorem primary_key_stuck :
    let s := Runs.afterAll KeyCall.prog (Sample.twoKeys ++ [Sample.keyCall (.delete 21)]) Sample.start
    (s.db.keyConfigurations.get? 31).map KeyConfiguration.primaryKeyID = some (some 21) ∧
    s.db.keys.get? 21 = none ∧ Repo.systemsOf s.db 31 = [] ∧
    (s.db.keys.get? 22).map (fun key => (key.keyConfigurationID, key.state)) = some (31, .enabled) ∧
    ((Sample.keyConfigManager.user.hasKeyConfigAccess (Sample.as "a") .update
      (some { Sample.newKeyConfiguration with name := "", adminGroupID := UUID.nil })).eval s.db
        s.clock).1.isOk = true ∧
    ((Sample.keyConfigManager.updateKeyConfigurationByID Sample.keyPlatform.eventFactory
      (Sample.as "a") 31 { primaryKeyID := some 22 }).run false s).1.isOk = false := by
  decide +kernel

end Cmk
