import Cmk.Keys.Resync

/-!
# Cmk.Keys.Latest

The newest version of a key, which two queries ask for.

* `getNewestKeyVersionNativeID` — of `internal/event-processor/repo.go`: the version rotated last, for
  the tasks of systems.
* `getLatestVersion` — of `internal/manager/keyversion.go`: the version rotated last, and among those
  the one created last.

`First` adds the primary key as the last column of the order. The two queries agree unless the version
of least ID among those rotated last is older than another of them.

    newest = latest   ↔   no version rotated last was created after the one of least ID
-/

namespace Cmk

open Tx List Repo

/-- `First`: the row that comes before every other. -/
def firstIn {α : Type} (before : α → α → Bool) (rows : List α) : Option α :=
  rows.find? fun v => rows.all (before v)

theorem firstIn_spec {α : Type} {before : α → α → Bool} {rows : List α} {v : α}
    (h : firstIn before rows = some v) : v ∈ rows ∧ ∀ w ∈ rows, before v w := by
  have hall : rows.all (before v) = true := find?_some (p := fun v => rows.all (before v)) h
  exact ⟨mem_of_find?_eq_some h, all_eq_true.1 hall⟩

theorem firstIn_eq_some_iff {α : Type} {before : α → α → Bool} {rows : List α} {v : α}
    (hanti : ∀ v ∈ rows, ∀ w ∈ rows, before v w → before w v → v = w) :
    firstIn before rows = some v ↔ v ∈ rows ∧ ∀ w ∈ rows, before v w := by
  constructor
  · exact firstIn_spec
  · rintro ⟨hv, hall⟩
    cases hfirst : firstIn before rows with
    | none => exact absurd (all_eq_true.2 hall) (find?_eq_none.1 hfirst v hv)
    | some w =>
      obtain ⟨hw, hall'⟩ := firstIn_spec hfirst
      rw [hanti v hv w hw (hall w hw) (hall' v hv)]

/-- The columns of the stored versions that no other part of the model reads. -/
structure VersionColumns where
  id : UUID × String → UUID
  createdAt : UUID × String → Int

namespace VersionColumns

variable (c : VersionColumns)

/-- The primary key. -/
def Distinct (rows : List KeyVersion) : Prop :=
  ∀ v ∈ rows, ∀ w ∈ rows, c.id v.key = c.id w.key → v = w

/-- `ORDER BY rotated_at DESC, id`. -/
def byRotation (v w : KeyVersion) : Bool :=
  w.rotatedAt < v.rotatedAt ∨ w.rotatedAt = v.rotatedAt ∧ c.id v.key ≤ c.id w.key

/-- `ORDER BY rotated_at DESC, created_at DESC, id`. -/
def byRotationAndCreation (v w : KeyVersion) : Bool :=
  w.rotatedAt < v.rotatedAt ∨ w.rotatedAt = v.rotatedAt ∧
    (c.createdAt w.key < c.createdAt v.key ∨
      c.createdAt w.key = c.createdAt v.key ∧ c.id v.key ≤ c.id w.key)

end VersionColumns

def Db.versionsOf (d : Db) (keyID : UUID) : List KeyVersion :=
  d.keyVersions.rows.filter (·.keyID = keyID)

def getNewestKeyVersionNativeID (c : VersionColumns) (ctx : Ctx) (r : Repo) (keyID : UUID) :
    Q String := do
  let kv ← (r.first ctx fun d => firstIn c.byRotation (d.versionsOf keyID)).mapError
    (.errorf ("failed to get newest key version for key " ++ keyID.toString))
  if kv.nativeID = "" then throw (.of .errVersionHasNoNativeID)
  return kv.nativeID

def KeyVersionManager.getLatestVersion (m : KeyVersionManager) (c : VersionColumns) (ctx : Ctx)
    (keyID : UUID) : Q KeyVersion := do
  match ← (m.repo.first ctx fun d =>
      firstIn c.byRotationAndCreation (d.versionsOf keyID)).attempt with
  | .ok version => return version
  | .error e =>
    if e.is .errNotFound then throw (.of .errNoKeyVersionsFound)
    throw (e.wrap .errGetKeyVersionDB)

/-- `fetchAndPopulateVersionInfo` of the resolver of system tasks. -/
def fetchAndPopulateVersionInfo (c : VersionColumns) (ctx : Ctx) (r : Repo) (key : Key) :
    Q (Option (List (String × KeyAccessDetailsRegion))) := do
  let cryptoData := getCryptoAccessData key
  match ← (getNewestKeyVersionNativeID c ctx r key.id).attempt with
  | .error e =>
    if e.is .errNotFound then return cryptoData
    throw (e.errorf "failed to get latest key version native ID")
  | .ok latestVersionID =>
    if latestVersionID = "" then return cryptoData
    return cryptoData.map fun data => data.map fun region =>
      (region.1, { region.2 with
        additionalProperties :=
          setEntry region.2.additionalProperties "versionIdentifier" latestVersionID })

namespace VersionColumns

variable {c : VersionColumns} {rows : List KeyVersion} {v : KeyVersion}

def Newest (c : VersionColumns) (rows : List KeyVersion) (v : KeyVersion) : Prop :=
  v ∈ rows ∧ ∀ w ∈ rows,
    w.rotatedAt < v.rotatedAt ∨ w.rotatedAt = v.rotatedAt ∧ c.id v.key ≤ c.id w.key

theorem newest_iff (hc : c.Distinct rows) : firstIn c.byRotation rows = some v ↔ c.Newest rows v := by
  rw [firstIn_eq_some_iff]
  · simp only [byRotation, decide_eq_true_eq]
    rfl
  · intro v hv w hw h h'
    simp only [byRotation, decide_eq_true_eq] at h h'
    rcases h with h | ⟨heq, hid⟩
    · omega
    · rcases h' with h' | ⟨-, hid'⟩
      · omega
      · exact hc v hv w hw (BitVec.le_antisymm hid hid')

theorem latest_iff (hc : c.Distinct rows) :
    firstIn c.byRotationAndCreation rows = some v ↔
      v ∈ rows ∧ ∀ w ∈ rows, w.rotatedAt < v.rotatedAt ∨ w.rotatedAt = v.rotatedAt ∧
        (c.createdAt w.key < c.createdAt v.key ∨
          c.createdAt w.key = c.createdAt v.key ∧ c.id v.key ≤ c.id w.key) := by
  rw [firstIn_eq_some_iff]
  · simp only [byRotationAndCreation, decide_eq_true_eq]
  · intro v hv w hw h h'
    simp only [byRotationAndCreation, decide_eq_true_eq] at h h'
    rcases h with h | ⟨heq, h | ⟨heq', hid⟩⟩
    · omega
    · omega
    · rcases h' with h' | ⟨-, h' | ⟨-, hid'⟩⟩
      · omega
      · omega
      · exact hc v hv w hw (BitVec.le_antisymm hid hid')

/-- The newest version is the latest one exactly if none rotated at the same time is younger. -/
theorem Newest.latest_iff_oldest (hc : c.Distinct rows) (h : c.Newest rows v) :
    firstIn c.byRotationAndCreation rows = some v ↔
      ∀ w ∈ rows, w.rotatedAt = v.rotatedAt → c.createdAt w.key ≤ c.createdAt v.key := by
  rw [latest_iff hc]
  constructor
  · rintro ⟨-, hle⟩ w hw heq
    rcases hle w hw with hlt | ⟨-, hlt | ⟨heq', -⟩⟩
    · omega
    · exact hlt.le
    · exact heq'.le
  · intro hle
    refine ⟨h.1, fun w hw => (h.2 w hw).imp_right fun hid => ⟨hid.1, ?_⟩⟩
    exact (hle w hw hid.1).lt_or_eq.imp_right fun heq => ⟨heq, hid.2⟩

end VersionColumns

section

variable {c : VersionColumns} {ctx : Ctx} {r : Repo} {keyID : UUID} {d : Db} {n : Nat}

theorem eval_getNewestKeyVersionNativeID (hr : ¬ r.Refuses ctx n)
    (hc : c.Distinct (d.versionsOf keyID)) (nativeID : String) :
    ((getNewestKeyVersionNativeID c ctx r keyID).eval d n).1 = .ok nativeID ↔
      nativeID ≠ "" ∧ ∃ v, c.Newest (d.versionsOf keyID) v ∧ v.nativeID = nativeID := by
  simp only [Repo.Refuses, not_or, not_not] at hr
  unfold getNewestKeyVersionNativeID
  cases hmin : firstIn c.byRotation (d.versionsOf keyID) with
  | none =>
    obtain ⟨e, -, he⟩ : ∃ e : Exn, e.is .errNotFound ∧
        (r.first ctx fun d => firstIn c.byRotation (d.versionsOf keyID)).eval d n =
          (.error e, n + 1) := eval_first_missing hr.1 hr.2 hmin
    rw [eval_bind, eval_mapError, he]
    constructor
    · intro h
      cases h
    · rintro ⟨-, v, hv, -⟩
      rw [← VersionColumns.newest_iff hc, hmin] at hv
      cases hv
  | some v =>
    rw [eval_bind, eval_mapError, eval_first_found hr.1 hr.2 hmin]
    have hv : ∀ w, c.Newest (d.versionsOf keyID) w ↔ v = w := by
      intro w
      rw [← VersionColumns.newest_iff hc, hmin, Option.some_inj]
    simp only [hv, exists_eq_left']
    change ((if v.nativeID = "" then _ else _ : Q String).eval d (n + 1)).1 = _ ↔ _
    split
    · rename_i hempty
      constructor
      · intro h
        cases h
      · rintro ⟨hne, rfl⟩
        exact (hne hempty).elim
    · rename_i hne
      constructor
      · intro h
        cases h
        exact ⟨hne, rfl⟩
      · rintro ⟨-, rfl⟩
        rfl

theorem eval_getLatestVersion {m : KeyVersionManager} (hr : ¬ m.repo.Refuses ctx n) (v : KeyVersion) :
    ((m.getLatestVersion c ctx keyID).eval d n).1 = .ok v ↔
      firstIn c.byRotationAndCreation (d.versionsOf keyID) = some v := by
  simp only [Repo.Refuses, not_or, not_not] at hr
  unfold KeyVersionManager.getLatestVersion
  cases hmin : firstIn c.byRotationAndCreation (d.versionsOf keyID) with
  | none =>
    obtain ⟨e, he, hfirst⟩ : ∃ e : Exn, e.is .errNotFound ∧
        (m.repo.first ctx fun d => firstIn c.byRotationAndCreation (d.versionsOf keyID)).eval d n =
          (.error e, n + 1) := eval_first_missing hr.1 hr.2 hmin
    rw [eval_bind, Query.eval_attempt, hfirst]
    simp only [he, if_true]
    constructor
    · intro h
      cases h
    · intro h
      cases h
  | some w =>
    rw [eval_bind, Query.eval_attempt, eval_first_found hr.1 hr.2 hmin]
    constructor
    · intro h
      cases h
      rfl
    · intro h
      cases h
      rfl

theorem fetchAndPopulateVersionInfo_sets {key : Key} {nativeID : String}
    {data : List (String × KeyAccessDetailsRegion)}
    (h : ((getNewestKeyVersionNativeID c ctx r key.id).eval d n).1 = .ok nativeID)
    (hne : nativeID ≠ "")
    (hdata : ((fetchAndPopulateVersionInfo c ctx r key).eval d n).1 = .ok (some data)) :
    ∀ region ∈ data, region.2.additionalProperties.lookup "versionIdentifier" = some nativeID := by
  unfold fetchAndPopulateVersionInfo at hdata
  simp only [eval_bind, Query.eval_attempt, h, if_neg hne] at hdata
  cases hkey : getCryptoAccessData key with
  | none =>
    rw [hkey] at hdata
    cases hdata
  | some old =>
    rw [hkey] at hdata
    cases hdata
    intro region hregion
    obtain ⟨region, -, rfl⟩ := mem_map.1 hregion
    rw [lookup_setEntry, if_pos rfl]

theorem Db.versionsOf_inj {v w : KeyVersion} (hv : v ∈ d.versionsOf keyID)
    (hw : w ∈ d.versionsOf keyID) (h : v.nativeID = w.nativeID) : v = w := by
  simp only [versionsOf, mem_filter, decide_eq_true_eq] at hv hw
  exact inj_on_of_nodup_map d.keyVersions.nodup hv.1 hw.1
    (Prod.ext (hv.2.trans hw.2.symm) h)

end

/-- The version whose native ID goes into the tasks of systems is the one `GetLatestVersion` returns,
exactly if no version rotated last was created after the one of them with the least ID. -/
theorem newest_version_is_latest_iff (c : VersionColumns) (ctx ctx' : Ctx) (r : Repo)
    (m : KeyVersionManager) (keyID : UUID) (d : Db) (n n' : Nat) (hr : ¬ r.Refuses ctx n)
    (hr' : ¬ m.repo.Refuses ctx' n') (hc : c.Distinct (d.versionsOf keyID)) :
    (∀ nativeID, ((getNewestKeyVersionNativeID c ctx r keyID).eval d n).1 = .ok nativeID →
      ∃ v, ((m.getLatestVersion c ctx' keyID).eval d n').1 = .ok v ∧ v.nativeID = nativeID) ↔
    ∀ v, c.Newest (d.versionsOf keyID) v → v.nativeID ≠ "" → ∀ w ∈ d.versionsOf keyID,
      w.rotatedAt = v.rotatedAt → c.createdAt w.key ≤ c.createdAt v.key := by
  simp only [eval_getNewestKeyVersionNativeID hr hc, eval_getLatestVersion hr']
  constructor
  · intro h v hv hne
    obtain ⟨w, hw, heq⟩ := h v.nativeID ⟨hne, v, hv, rfl⟩
    have hwv : w = v := Db.versionsOf_inj (firstIn_spec hw).1 hv.1 heq
    rw [hwv] at hw
    exact (hv.latest_iff_oldest hc).1 hw
  · rintro h nativeID ⟨hne, v, hv, rfl⟩
    exact ⟨v, (hv.latest_iff_oldest hc).2 (h v hv hne), rfl⟩

namespace Sample

def columns : VersionColumns where
  id := fun k => if k.2 = "v1" then 1 else 2
  createdAt := fun k => if k.2 = "v1" then 0 else 5

/-- The versions `v1` and `v2` of key 20, rotated at the given times. -/
def rotatedAt (time time' : Int) : Db :=
  (storedVersions [⟨"v1", some time, "ENABLED"⟩, ⟨"v2", some time', "ENABLED"⟩] start).db

end Sample

open Sample in
theorem newest_version_is_latest_rotated :
    ∃ v, ((versionManager.getLatestVersion columns (as "a") 20).eval (rotatedAt 0 9) 0).1 = .ok v ∧
      v.nativeID = "v2" := by
  have hr : ¬ repo.Refuses (as "a") 0 := by
    rintro (h | h)
    · exact absurd h (by decide)
    · exact h rfl
  have hc : columns.Distinct ((rotatedAt 0 9).versionsOf 20) := by
    unfold VersionColumns.Distinct
    decide +kernel
  have hold : ∀ v ∈ (rotatedAt 0 9).versionsOf 20,
      (∀ w ∈ (rotatedAt 0 9).versionsOf 20, w.rotatedAt ≤ v.rotatedAt) →
      ∀ w ∈ (rotatedAt 0 9).versionsOf 20, w.rotatedAt = v.rotatedAt →
        columns.createdAt w.key ≤ columns.createdAt v.key := by
    decide +kernel
  refine (newest_version_is_latest_iff columns (as "a") (as "a") repo versionManager 20 (rotatedAt 0 9)
    0 0 hr hr hc).2 (fun v hv _ => hold v hv.1 fun w hw => ?_) "v2" (by decide +kernel)
  exact (hv.2 w hw).elim le_of_lt fun h => h.1.le

open Sample in
/-- Rotated at the same time: the tasks get the version created first, `GetLatestVersion` gives the
other. -/
theorem newest_version_not_latest :
    ((getNewestKeyVersionNativeID columns (as "a") repo 20).eval (rotatedAt 9 9) 0).1 = .ok "v1" ∧
    ((versionManager.getLatestVersion columns (as "a") 20).eval (rotatedAt 9 9) 0).1.map (·.nativeID) =
      .ok "v2" := by
  decide +kernel

end Cmk
