import Cmk.Keys.Versions

/-!
# Cmk.Keys.Resync

Storing the versions of a key again. `UpdateVersions` sets a version with a time of the keystore and
inserts one without, so the second time the two differ.

* `wp_updateVersions_rows` — versions with a time end up as listed, and no other row changes.
* `updateVersions_resync_iff` — the versions are stored as listed, and storing them again changes
  nothing, exactly if each has a time and a status.
-/

namespace Cmk

open Tx List Function Option

/-- The version is stored for the key, with the status it is listed with. -/
def Db.StoresStatus (d : Db) (keyID : UUID) (v : ProviderKeyVersion) : Prop :=
  ∃ row, d.keyVersions.get? (keyID, v.id) = some row ∧ row.status = v.status

/-- The IDs and the statuses of the stored versions of a key. -/
def Db.versionStatuses (d : Db) (keyID : UUID) : Set (String × String) :=
  {p | ∃ row, d.keyVersions.get? (keyID, p.1) = some row ∧ row.status = p.2}

namespace KeyVersionManager

variable {m : KeyVersionManager} {ctx : Ctx} {keyID : UUID} {versions : List ProviderKeyVersion}
  {i : Bool} {s : State}

def rowOf (keyID : UUID) (v : ProviderKeyVersion) (time : Int) : KeyVersion :=
  Repo.keyVersionRow ⟨keyID, v.id, time, v.status⟩

/-- The table has the listed versions as listed, and otherwise the rows of `t`. -/
structure Listed (keyID : UUID) (versions : List ProviderKeyVersion) (t t' : Table KeyVersion.key) :
    Prop where
  listed : ∀ v ∈ versions, ∀ time, v.creationTime = some time →
    t'.get? (keyID, v.id) = some (rowOf keyID v time)
  others : ∀ k, (∀ v ∈ versions, k ≠ (keyID, v.id)) → t'.get? k = t.get? k

theorem wp_updateVersions_rows (hr : ∀ k, ¬ m.repo.Refuses ctx k)
    (hids : (versions.map (·.id)).Nodup) (htime : ∀ v ∈ versions, v.creationTime ≠ none) :
    (m.updateVersions ctx keyID versions).wp i (fun res s' => res = .ok () ∧
      Listed keyID versions s.db.keyVersions s'.db.keyVersions) s := by
  induction versions generalizing s with
  | nil => exact ⟨rfl, (fun v hv => by cases hv), fun _ _ => rfl⟩
  | cons v versions ih =>
    obtain ⟨time, hv⟩ := ne_none_iff_exists'.1 (htime v mem_cons_self)
    rw [map_cons, nodup_cons] at hids
    simp only [updateVersions, hv]
    refine wp_bind (wp_exec_any (fun e s' h _ _ => (hr _ h).elim) fun s1 _ hd _ => ?_)
    refine wp_mono (ih hids.2 fun w hw => htime w (mem_cons_of_mem v hw)) fun res s' h => ?_
    obtain ⟨hres, hrest⟩ := h
    have hget : ∀ k, s1.db.keyVersions.get? k =
        update s.db.keyVersions.get? (keyID, v.id) (some (rowOf keyID v time)) k := by
      intro k
      rw [hd, Table.get?_upsert]
      rfl
    refine ⟨hres, fun w hw t ht => ?_, fun k hk => ?_⟩
    · rcases mem_cons.1 hw with rfl | hw
      · -- no later version has the same ID
        rw [hv] at ht
        cases ht
        rw [hrest.others _ fun w' hw' heq => hids.1 ?_, hget, update_self]
        rw [(Prod.mk.inj heq).2]
        exact mem_map_of_mem hw'
      · exact hrest.listed w hw t ht
    · rw [hrest.others k fun w hw => hk w (mem_cons_of_mem v hw), hget,
        update_of_ne (hk v mem_cons_self)]

theorem Listed.storesStatus {t : Table KeyVersion.key} {d : Db} {v : ProviderKeyVersion}
    (h : Listed keyID versions t d.keyVersions) (hv : v ∈ versions) (htime : v.creationTime ≠ none) :
    d.StoresStatus keyID v ↔ v.status ≠ "" := by
  obtain ⟨time, ht⟩ := ne_none_iff_exists'.1 htime
  have hrow := h.listed v hv time ht
  unfold Db.StoresStatus
  constructor
  · rintro ⟨row, hget, hstatus⟩ hempty
    rw [hrow] at hget
    cases hget
    rw [hempty] at hstatus
    simp [rowOf, Repo.keyVersionRow, hempty] at hstatus
  · intro hne
    exact ⟨_, hrow, if_neg hne⟩

theorem Listed.again {t t' t'' : Table KeyVersion.key} (htime : ∀ v ∈ versions, v.creationTime ≠ none)
    (h : Listed keyID versions t t') (h' : Listed keyID versions t' t'') : t''.get? = t'.get? := by
  funext k
  by_cases hk : ∀ v ∈ versions, k ≠ (keyID, v.id)
  · exact h'.others k hk
  · simp only [ne_eq, not_forall, not_not, exists_prop] at hk
    obtain ⟨v, hv, rfl⟩ := hk
    obtain ⟨time, ht⟩ := ne_none_iff_exists'.1 (htime v hv)
    rw [h.listed v hv time ht, h'.listed v hv time ht]

/-- Every listed version is stored with its status, and storing the list again succeeds and leaves the
IDs and statuses as they are, exactly if every version has a time of the keystore and a status. -/
theorem updateVersions_resync_iff (m : KeyVersionManager) (ctx : Ctx) (keyID : UUID)
    (versions : List ProviderKeyVersion) (s : St Db World) (hr : ∀ n, ¬ m.repo.Refuses ctx n)
    (hids : (versions.map (·.id)).Nodup) :
    let first := (m.updateVersions ctx keyID versions).run i s
    let second := (m.updateVersions ctx keyID versions).run i first.2
    (first.1 = .ok () ∧ (∀ v ∈ versions, first.2.db.StoresStatus keyID v) ∧ second.1 = .ok () ∧
      second.2.db.versionStatuses keyID = first.2.db.versionStatuses keyID) ↔
    ∀ v ∈ versions, v.creationTime ≠ none ∧ v.status ≠ "" := by
  intro first second
  have hfirst : (∀ v ∈ versions, v.creationTime ≠ none) → first.1 = .ok () ∧
      Listed keyID versions s.db.keyVersions first.2.db.keyVersions :=
    wp_updateVersions_rows hr hids
  have hsecond : (∀ v ∈ versions, v.creationTime ≠ none) → second.1 = .ok () ∧
      Listed keyID versions first.2.db.keyVersions second.2.db.keyVersions :=
    wp_updateVersions_rows hr hids
  constructor
  · rintro ⟨-, hstored, hagain, -⟩
    have htime : ∀ v ∈ versions, v.creationTime ≠ none := by
      intro v hv hnone
      obtain ⟨row, hget, -⟩ := hstored v hv
      have hfails : (∃ e, second.1 = .error e) ∧ second.2.ext = first.2.ext :=
        wp_updateVersions_untimed hv hnone (by rw [Db.StoresVersion, hget]; rfl)
      obtain ⟨⟨e, he⟩, -⟩ := hfails
      rw [hagain] at he
      cases he
    exact fun v hv => ⟨htime v hv, ((hfirst htime).2.storesStatus hv (htime v hv)).1 (hstored v hv)⟩
  · intro h
    have htime : ∀ v ∈ versions, v.creationTime ≠ none := fun v hv => (h v hv).1
    obtain ⟨hok, hlisted⟩ := hfirst htime
    obtain ⟨hok', hlisted'⟩ := hsecond htime
    refine ⟨hok, fun v hv => (hlisted.storesStatus hv (htime v hv)).2 (h v hv).2, hok', ?_⟩
    unfold Db.versionStatuses
    rw [hlisted.again htime hlisted']

end KeyVersionManager

namespace Sample

def versionManager : KeyVersionManager := ⟨repo⟩

def storedVersions (versions : List ProviderKeyVersion) (s : St Db World) : St Db World :=
  ((versionManager.updateVersions (as "a") 20 versions).run false s).2

end Sample

open Sample in
theorem updateVersions_resync_timed :
    let versions : List ProviderKeyVersion := [⟨"v1", some 0, "ENABLED"⟩, ⟨"v2", some 1, "DISABLED"⟩]
    ((versionManager.updateVersions (as "a") 20 versions).run false (storedVersions versions start)).1 =
        .ok () ∧
      (storedVersions versions (storedVersions versions start)).db.versionStatuses 20 =
        (storedVersions versions start).db.versionStatuses 20 := by
  have hr : ∀ n, ¬ versionManager.repo.Refuses (as "a") n := by
    rintro n (h | h)
    · exact absurd h (by decide)
    · exact h rfl
  have h := (KeyVersionManager.updateVersions_resync_iff (i := false) versionManager (as "a") 20
    [⟨"v1", some 0, "ENABLED"⟩, ⟨"v2", some 1, "DISABLED"⟩] start hr (by decide)).2 (by decide)
  exact ⟨h.2.2.1, h.2.2.2⟩

open Sample in
/-- The first version has no time. The second call fails at it, and the version that is new in the
list is not stored. -/
theorem updateVersions_untimed_again :
    ((versionManager.updateVersions (as "a") 20 [⟨"v1", none, "ENABLED"⟩]).run false start).1 = .ok () ∧
    ((versionManager.updateVersions (as "a") 20 [⟨"v1", none, "ENABLED"⟩]).run false
      (storedVersions [⟨"v1", none, "ENABLED"⟩] start)).1.isOk = false ∧
    ((storedVersions [⟨"v1", none, "ENABLED"⟩, ⟨"v2", some 1, "ENABLED"⟩]
      (storedVersions [⟨"v1", none, "ENABLED"⟩] start)).db.keyVersions.get? (20, "v2")) = none := by
  decide +kernel

end Cmk
