import Cmk.Keys.Regions

/-!
# Cmk.Keys.CryptoPatch

What a patch makes of the crypto data of a key.

* `PatchedRegion` — a region of the patch: added if the key knows nothing of it, changed otherwise.
* `cryptoPatch_frame` — a patch changes the regions it may change, and no other.
* `updateKey_adds_regions_iff` — a region added later gets another certificate subject than one the
  key is registered with.
-/

namespace Cmk

open Tx List Prog

variable {key' : Key} {certs : List ClientCertificate}

namespace KeyManager

variable {m : KeyManager} {ctx : Ctx} {key : Key} {d : Db} {n n' : Nat} {keyID : UUID}
  {data : List (String × KeyAccessDetailsRegion)} {editableRegions : List (String × Bool)}
  {loaded : LoadedKey} {patch : KeyPatch} {i : Bool} {s s' : State}

inductive PatchedRegion (m : KeyManager) (editableRegions : List (String × Bool))
    (old : KeyAccessDetailsRegion) (region : String × KeyAccessDetailsRegion) :
    KeyAccessDetailsRegion → Prop where
  | added {n : Nat} {certs : List ClientCertificate} :
    editableRegions.lookup region.1 = none → m.keystores.getCryptoCertificates n = .ok certs →
    PatchedRegion m editableRegions old region
      { certificateSubject := some (if certs.any (·.name = region.1) then region.1 else "")
        additionalProperties := region.2.additionalProperties }
  | changed {editable : Bool} : editableRegions.lookup region.1 = some editable →
    (editable = false → mapsEqual old.additionalProperties region.2.additionalProperties) →
    PatchedRegion m editableRegions old region
      { old with
        additionalProperties := region.2.additionalProperties.foldl
          (fun properties e => setEntry properties e.1 e.2) old.additionalProperties }

theorem patchRegion_ok {region : String × KeyAccessDetailsRegion}
    {data' : Option (List (String × KeyAccessDetailsRegion))}
    (h : (m.patchRegion editableRegions (some data) region).eval d n = (.ok data', n')) :
    ∃ new, data' = some (setEntry data region.1 new) ∧
      PatchedRegion m editableRegions ((data.lookup region.1).getD {}) region new := by
  unfold patchRegion at h
  dsimp only at h
  split at h
  · rename_i hnone
    obtain ⟨certs, n1, hcerts, h⟩ := eval_bind_ok h
    cases h
    exact ⟨_, rfl, .added hnone (plugin_eval_ok hcerts)⟩
  · rename_i editable hsome
    split at h
    · cases h
    · rename_i hequal
      cases h
      refine ⟨_, rfl, .changed hsome fun hfalse => ?_⟩
      by_contra hne
      exact hequal ⟨by simp [hfalse], hne⟩

theorem patchRegions_ok {crypto : List (String × KeyAccessDetailsRegion)}
    (hcrypto : (crypto.map (·.1)).Nodup) {data' : Option (List (String × KeyAccessDetailsRegion))}
    (h : (crypto.foldlM (m.patchRegion editableRegions) (some data)).eval d n = (.ok data', n')) :
    ∃ result, data' = some result ∧
      (∀ region, crypto.lookup region = none → result.lookup region = data.lookup region) ∧
      ∀ region ∈ crypto, ∃ new, result.lookup region.1 = some new ∧
        PatchedRegion m editableRegions ((data.lookup region.1).getD {}) region new := by
  induction crypto generalizing data n with
  | nil =>
    cases h
    exact ⟨data, rfl, fun _ _ => rfl, by simp⟩
  | cons region crypto ih =>
    rw [map_cons, nodup_cons] at hcrypto
    rw [foldlM_cons] at h
    obtain ⟨data1, n1, h1, h⟩ := eval_bind_ok h
    obtain ⟨new, rfl, hnew⟩ := patchRegion_ok h1
    obtain ⟨result, rfl, hothers, hpatched⟩ := ih hcrypto.2 h
    have hne : ∀ other ∈ crypto, other.1 ≠ region.1 := by
      intro other hother heq
      exact hcrypto.1 (heq ▸ mem_map_of_mem hother)
    have hrest : crypto.lookup region.1 = none := by
      rw [lookup_eq_none_iff]
      intro other hother
      simpa using (hne other hother).symm
    refine ⟨result, rfl, fun name hname => ?_, fun other hother => ?_⟩
    · rw [lookup_cons] at hname
      by_cases heq : name = region.1
      · rw [beq_iff_eq.2 heq] at hname
        cases hname
      · rw [beq_eq_false_iff_ne.2 heq] at hname
        rw [hothers name hname, lookup_setEntry, if_neg heq]
    · rcases mem_cons.1 hother with rfl | hother
      · refine ⟨new, ?_, hnew⟩
        rw [hothers _ hrest, lookup_setEntry, if_pos rfl]
      · obtain ⟨new', hlookup, hnew'⟩ := hpatched other hother
        rw [lookup_setEntry, if_neg (hne other hother)] at hnew'
        exact ⟨new', hlookup, hnew'⟩

structure SameRegion (old new : KeyAccessDetailsRegion) : Prop where
  certificateSubject : new.certificateSubject = old.certificateSubject
  additionalProperties : ∀ property,
    new.additionalProperties.lookup property = old.additionalProperties.lookup property

/-- The same subject, and the properties overridden by those of the patch. -/
structure Overridden (values old new : KeyAccessDetailsRegion) : Prop where
  certificateSubject : new.certificateSubject = old.certificateSubject
  additionalProperties : ∀ property, new.additionalProperties.lookup property =
    (values.additionalProperties.lookup property).or (old.additionalProperties.lookup property)

namespace PatchedRegion

variable {old new : KeyAccessDetailsRegion} {region : String × KeyAccessDetailsRegion}

theorem same (h : PatchedRegion m editableRegions old region new)
    (hlocked : editableRegions.lookup region.1 = some false) : SameRegion old new := by
  cases h with
  | added hnone =>
    rw [hlocked] at hnone
    cases hnone
  | changed hsome hequal =>
    rw [hlocked] at hsome
    cases hsome
    refine ⟨rfl, fun property => ?_⟩
    have hequal := hequal rfl
    simp only [mapsEqual, Bool.and_eq_true, all_eq_true, decide_eq_true_eq] at hequal
    rw [lookup_setEntries]
    cases hl : region.2.additionalProperties.reverse.lookup property with
    | none => rfl
    | some a =>
      have hmem := mem_reverse.1 (mem_of_lookup hl)
      rw [hequal.2 _ hmem]
      rfl

theorem overridden (h : PatchedRegion m editableRegions old region new)
    (heditable : editableRegions.lookup region.1 = some true)
    (hmap : (region.2.additionalProperties.map (·.1)).Nodup) : Overridden region.2 old new := by
  cases h with
  | added hnone =>
    rw [heditable] at hnone
    cases hnone
  | changed =>
    refine ⟨rfl, fun property => ?_⟩
    rw [lookup_setEntries, lookup_reverse hmap]

end PatchedRegion

/-- A patch has each region once, and each property of a region once. -/
structure IsMap (crypto : List (String × KeyAccessDetailsRegion)) : Prop where
  regions : (crypto.map (·.1)).Nodup
  properties : ∀ region ∈ crypto, (region.2.additionalProperties.map (·.1)).Nodup

structure CryptoFrame (editableRegions : List (String × Bool))
    (crypto data data' : List (String × KeyAccessDetailsRegion)) : Prop where
  unpatched : ∀ region, crypto.lookup region = none → data'.lookup region = data.lookup region
  locked : ∀ region old, data.lookup region = some old → editableRegions.lookup region ≠ some true →
    ∃ new, data'.lookup region = some new ∧ SameRegion old new
  overridden : ∀ region values, crypto.lookup region = some values →
    editableRegions.lookup region = some true →
    ∃ new, data'.lookup region = some new ∧ Overridden values ((data.lookup region).getD {}) new
  kept : ∀ region, data.lookup region ≠ none → data'.lookup region ≠ none

theorem CryptoFrame.of_patched {crypto data' : List (String × KeyAccessDetailsRegion)}
    (hcrypto : IsMap crypto) (hknown : ∀ region, data.lookup region ≠ none →
      editableRegions.lookup region ≠ none)
    (hothers : ∀ region, crypto.lookup region = none → data'.lookup region = data.lookup region)
    (hpatched : ∀ region ∈ crypto, ∃ new, data'.lookup region.1 = some new ∧
      PatchedRegion m editableRegions ((data.lookup region.1).getD {}) region new) :
    CryptoFrame editableRegions crypto data data' where
  unpatched := hothers
  locked region old hold hlocked := by
    cases hl : crypto.lookup region with
    | none => exact ⟨old, by rw [hothers region hl, hold], rfl, fun _ => rfl⟩
    | some values =>
      obtain ⟨new, hnew, hp⟩ := hpatched _ (mem_of_lookup hl)
      have hfalse : editableRegions.lookup region = some false := by
        cases he : editableRegions.lookup region with
        | none => exact (hknown region (by simp [hold]) he).elim
        | some editable =>
          cases editable with
          | false => rfl
          | true => exact (hlocked he).elim
      rw [hold] at hp
      exact ⟨new, hnew, hp.same hfalse⟩
  overridden region values hl heditable := by
    obtain ⟨new, hnew, hp⟩ := hpatched _ (mem_of_lookup hl)
    exact ⟨new, hnew, hp.overridden heditable (hcrypto.properties _ (mem_of_lookup hl))⟩
  kept region hregion := by
    cases hl : crypto.lookup region with
    | none => rwa [hothers region hl]
    | some values =>
      obtain ⟨new, hnew, -⟩ := hpatched _ (mem_of_lookup hl)
      simp [hnew]

theorem get_editable (h : (m.get ctx keyID).run i s = (.ok loaded, s')) :
    ∃ n, (m.setEditableStatus ctx loaded.key loaded.isPrimary).eval s'.db n =
      (.ok loaded.editableRegions, s'.clock) := by
  have hwp : (m.get ctx keyID).wp i (fun res s' => ∀ loaded, res = .ok loaded →
      ∃ n, (m.setEditableStatus ctx loaded.key loaded.isPrimary).eval s'.db n =
        (.ok loaded.editableRegions, s'.clock)) s := by
    have hrest : ∀ (key : Key) (isPrimary : Bool) (s1 : State), (do
          let editableRegions ← liftM (m.setEditableStatus ctx key isPrimary)
          return ⟨key, isPrimary, editableRegions⟩ : M LoadedKey).wp i (fun res s' =>
        ∀ loaded, res = .ok loaded →
          ∃ n, (m.setEditableStatus ctx loaded.key loaded.isPrimary).eval s'.db n =
            (.ok loaded.editableRegions, s'.clock)) s1 := by
      intro key isPrimary s1
      refine wp_query_bind (fun e n _ => by simp) fun regions n hregions => ?_
      rintro _ ⟨⟩
      exact ⟨_, hregions⟩
    refine wp_query_bind (fun e n _ => by simp) fun row n _ => ?_
    refine wp_query_bind (fun e n _ => by simp) fun isPrimary n _ => ?_
    refine wp_query_bind (fun e n _ => by simp) fun _ n _ => ?_
    cases htype : row.keyType with
    | none => exact fun _ => by rintro ⟨⟩
    | some keyType =>
      cases keyType with
      | byok => exact hrest row isPrimary _
      | hyok =>
        exact wp_bind_run (fun e s1 _ => by simp) fun key s1 _ => hrest key isPrimary s1
  exact wp_of_run hwp h loaded rfl

def patchedCrypto (patch : KeyPatch) : List (String × KeyAccessDetailsRegion) :=
  (patch.accessDetails.bind (·.crypto)).getD []

theorem handleCryptoDetailsUpdate_data (hdata : getCryptoAccessData loaded.key = some data)
    (hmap : ((patchedCrypto patch).map (·.1)).Nodup)
    (h : (m.handleCryptoDetailsUpdate patch loaded).eval d n = (.ok key', n')) :
    ∃ data', getCryptoAccessData key' = some data' ∧
      (∀ region, (patchedCrypto patch).lookup region = none →
        data'.lookup region = data.lookup region) ∧
      ∀ region ∈ patchedCrypto patch, ∃ new, data'.lookup region.1 = some new ∧
        PatchedRegion m loaded.editableRegions ((data.lookup region.1).getD {}) region new := by
  unfold patchedCrypto at hmap ⊢
  unfold handleCryptoDetailsUpdate at h
  split at h
  · rename_i hnone
    cases h
    rw [hnone]
    exact ⟨data, hdata, fun _ _ => rfl, by simp⟩
  · rename_i crypto hcrypto
    rw [hcrypto] at hmap ⊢
    obtain ⟨_, n1, -, h⟩ := eval_bind_ok h
    obtain ⟨_, n2, -, h⟩ := eval_bind_ok h
    obtain ⟨_, n3, -, h⟩ := eval_bind_ok h
    obtain ⟨data', n4, hpatched, h⟩ := eval_bind_ok h
    rw [hdata] at hpatched
    obtain ⟨result, rfl, hresult⟩ := patchRegions_ok hmap hpatched
    cases h
    exact ⟨result, rfl, hresult⟩

theorem updateKey_refused {e : Exn} (hget : (m.get ctx keyID).run i s = (.ok loaded, s'))
    (hmanagement : patch.accessDetails.any (·.management.isSome) = false)
    (h : ((m.handleCryptoDetailsUpdate patch loaded).eval s'.db s'.clock).1 = .error e) :
    ((m.updateKey ctx keyID patch).run i s).2.db = s'.db := by
  have hwp : (m.updateKey ctx keyID patch).wp i (fun _ s2 => s2.db = s'.db) s := by
    simp only [updateKey, throw_bind, hmanagement, Bool.false_eq_true, if_false]
    refine wp_bind (wp_mapError ?_)
    rw [wp, hget]
    simp only [Except.mapError]
    split
    · rfl
    refine wp_query_bind (fun _ n _ => rfl) fun key n hkey => ?_
    rw [eval_mapError_ok hkey] at h
    cases h
  exact hwp

/-- A patch touches nothing but what it may. If it is accepted, the regions it does not name and those
that are not editable are as before, the editable ones it names have its properties over their old ones,
and no region is lost. If it is refused, the stored keys are as they were when the key was read. -/
theorem cryptoPatch_frame (m : KeyManager) (ctx : Ctx) (keyID : UUID) (patch : KeyPatch) (i : Bool)
    (s s' : St Db World) (loaded : LoadedKey) (data : List (String × KeyAccessDetailsRegion))
    (hget : (m.get ctx keyID).run i s = (.ok loaded, s'))
    (hdata : getCryptoAccessData loaded.key = some data) (hpatch : IsMap (patchedCrypto patch)) :
    (∀ key', ((m.handleCryptoDetailsUpdate patch loaded).eval s'.db s'.clock).1 = .ok key' →
      ∃ data', getCryptoAccessData key' = some data' ∧
        CryptoFrame loaded.editableRegions (patchedCrypto patch) data data') ∧
    (∀ e, ((m.handleCryptoDetailsUpdate patch loaded).eval s'.db s'.clock).1 = .error e →
      patch.accessDetails.any (·.management.isSome) = false →
      ((m.updateKey ctx keyID patch).run i s).2.db = s'.db) := by
  refine ⟨fun key' h => ?_, fun e h hmanagement => updateKey_refused hget hmanagement h⟩
  obtain ⟨n, hregions⟩ := get_editable hget
  obtain ⟨listed, hlisted, -⟩ := setEditableStatus_ok hdata hregions
  have hknown : ∀ region, data.lookup region ≠ none → loaded.editableRegions.lookup region ≠ none := by
    intro region hregion
    obtain ⟨old, hold⟩ := Option.ne_none_iff_exists'.1 hregion
    rw [hlisted, lookup_editableAfter, hold]
    simp
  obtain ⟨data', hdata', hothers, hpatched⟩ :=
    handleCryptoDetailsUpdate_data hdata hpatch.regions (Prod.ext h rfl)
  exact ⟨data', hdata', .of_patched hpatch hknown hothers hpatched⟩

def withProperties (regions : List (String × List (String × String))) :
    List (String × KeyAccessDetailsRegion) :=
  regions.map fun region => (region.1, { additionalProperties := region.2 })

/-- The key with the crypto data of a request to register it. -/
def requesting (key : Key) (regions : List (String × List (String × String))) : Key :=
  { key with cryptoAccessData := some (.regions (withProperties regions)) }

def adding (regions : List (String × List (String × String))) : KeyPatch :=
  { accessDetails := some { crypto := some (withProperties regions) } }

end KeyManager

open Sample in
/-- A patch of the locked region `eu` that says what is there, and of the new region `us`. -/
theorem cryptoPatch_frame_locked :
    let s := ((certified.get (as "a") 20).run false (regional euOnly "eu" "ap" .connected .failed)).2
    let patch := KeyManager.adding [("us", [("q", "2")]), ("eu", [("p", "1")])]
    let loaded : LoadedKey := ⟨holding euOnly, true, [("eu", false), ("ap", true)]⟩
    ∃ key' data', ((certified.handleCryptoDetailsUpdate patch loaded).eval s.db s.clock).1 = .ok key' ∧
      getCryptoAccessData key' = some data' ∧
      KeyManager.CryptoFrame loaded.editableRegions (KeyManager.patchedCrypto patch) euOnly data' := by
  intro s patch loaded
  have hget : (certified.get (as "a") 20).run false (regional euOnly "eu" "ap" .connected .failed) =
      (.ok loaded, s) := Prod.ext (by decide +kernel) rfl
  have hpatch : KeyManager.IsMap (KeyManager.patchedCrypto patch) := ⟨by decide, by decide⟩
  have hkey : ((certified.handleCryptoDetailsUpdate patch loaded).eval s.db s.clock).1 =
      .ok (holding (euOnly ++ [("us", ⟨some "us", [("q", "2")]⟩)])) := by decide +kernel
  obtain ⟨data', hdata', hframe⟩ := (KeyManager.cryptoPatch_frame certified (as "a") 20 patch false
    (regional euOnly "eu" "ap" .connected .failed) s loaded euOnly hget rfl hpatch).1 _ hkey
  exact ⟨_, data', hkey, hdata', hframe⟩

namespace KeyManager

variable {m : KeyManager} {ctx : Ctx} {key : Key} {d : Db} {n n' : Nat} {keyID : UUID}
  {data : List (String × KeyAccessDetailsRegion)} {editableRegions : List (String × Bool)}
  {loaded : LoadedKey} {patch : KeyPatch} {i : Bool} {s s' : State}

/-- The subject a region is registered with: of certificates of one name the last one counts. -/
def subjectOf (certs : List ClientCertificate) (region : String) : Option String :=
  (certs.reverse.find? (·.name = region)).map (·.subject)

def withSubject (subject : Option String) (region : KeyAccessDetailsRegion) : KeyAccessDetailsRegion :=
  { region with certificateSubject := subject.or region.certificateSubject }

@[simp] theorem withSubject_none : withSubject none = id := rfl

/-- A loop over the certificates, each of which gives its subject to the region of its name. -/
theorem lookup_foldl_subject
    {step : List (String × KeyAccessDetailsRegion) → ClientCertificate →
      List (String × KeyAccessDetailsRegion)}
    (hstep : ∀ data cert region, (step data cert).lookup region =
      (data.lookup region).map (withSubject (if cert.name = region then some cert.subject else none)))
    (certs : List ClientCertificate) (data : List (String × KeyAccessDetailsRegion)) (region : String) :
    (certs.foldl step data).lookup region =
      (data.lookup region).map (withSubject (subjectOf certs region)) := by
  unfold subjectOf
  induction certs using reverseRecOn with
  | nil => simp
  | append_singleton certs cert ih =>
    rw [foldl_append, reverse_append]
    simp only [foldl_cons, foldl_nil, reverse_singleton, singleton_append,
      find?_cons]
    rw [hstep, ih, Option.map_map]
    by_cases h : cert.name = region
    · simp only [h, decide_true, if_true]
      rfl
    · simp only [h, decide_false, if_false]
      rfl

theorem addCertificateSubjectToCryptoData_ok
    (hcerts : ∀ n, m.keystores.getCryptoCertificates n = .ok certs)
    (hdata : getCryptoAccessData key = some data)
    (h : (m.addCertificateSubjectToCryptoData key).eval d n = (.ok key', n')) :
    ∃ data', key'.cryptoAccessData = some (.regions data') ∧ ∀ region,
      data'.lookup region = (data.lookup region).map (withSubject (subjectOf certs region)) := by
  unfold addCertificateSubjectToCryptoData at h
  obtain ⟨certs', n1, hcerts', h⟩ := eval_bind_ok h
  have hcerts' := plugin_eval_ok hcerts'
  rw [hcerts] at hcerts'
  cases hcerts'
  simp only [hdata] at h
  cases h
  refine ⟨_, rfl, lookup_foldl_subject (fun data cert region => ?_) certs data⟩
  cases hl : data.lookup cert.name with
  | none =>
    by_cases heq : cert.name = region
    · simp only [← heq, hl, Option.map_none]
    · simp [heq]
  | some old =>
    simp only [lookup_setEntry]
    by_cases heq : cert.name = region
    · subst heq
      simp only [if_true, hl]
      rfl
    · simp [heq, Ne.symm heq]

theorem registerHYOKKey_data (hcerts : ∀ n, m.keystores.getCryptoCertificates n = .ok certs)
    (hdata : getCryptoAccessData key = some data)
    (h : (m.registerHYOKKey key).eval d n = (.ok key', n')) :
    ∃ data', key'.cryptoAccessData = some (.regions data') ∧ ∀ region,
      data'.lookup region = (data.lookup region).map (withSubject (subjectOf certs region)) := by
  unfold registerHYOKKey at h
  obtain ⟨_, n1, -, h⟩ := eval_bind_ok h
  obtain ⟨_, n2, -, h⟩ := eval_bind_ok h
  obtain ⟨key1, n3, hkey, h⟩ := eval_bind_ok h
  obtain ⟨data', hdata', hlookup⟩ :=
    addCertificateSubjectToCryptoData_ok hcerts hdata (eval_mapError_ok hkey)
  dsimp only at h
  split at h
  · cases h
  split at h
  · cases h
  cases h
  exact ⟨data', hdata', hlookup⟩

theorem wp_applyKeyPatch_crypto {enablement : Option Bool} (hout : ctx.inTx = false) :
    (m.applyKeyPatch ctx key enablement).wp false (fun res _ => ∀ updated, res = .ok updated →
      updated.cryptoAccessData = key.cryptoAccessData) s := by
  refine wp_transaction hout (wp_bind (wp_mapError (Repo.wp_patchKey
    (fun e s1 _ _ => ⟨by simp, by simp⟩) fun s1 _ _ _ => ?_)))
  have hread : (((s.db.keys.get? key.id).map (Repo.patchedKey true key)).getD key).cryptoAccessData =
      key.cryptoAccessData := by
    cases s.db.keys.get? key.id with
    | none => rfl
    | some row => rfl
  cases enablement with
  | none => exact ⟨by rintro _ ⟨⟩ _ ⟨⟩; exact hread, by simp⟩
  | some enabled =>
    refine wp_bind_run (fun e s2 _ => ⟨by simp, by simp⟩) fun _ s2 _ => ?_
    exact ⟨by rintro _ ⟨⟩ _ ⟨⟩; exact hread, by simp⟩

theorem copyFieldsToModelKey_crypto (patch : KeyPatch) (key : Key) :
    (copyFieldsToModelKey patch key).1.cryptoAccessData = key.cryptoAccessData := by
  unfold copyFieldsToModelKey
  cases patch.enabled with
  | none => rfl
  | some enabled =>
    dsimp only
    generalize (if enabled = true then KeyState.enabled else .disabled) = state
    split
    · rfl
    · rfl

theorem updateKey_ok {updated : Key} (hout : ctx.inTx = false)
    (h : (m.updateKey ctx keyID patch).run false s = (.ok updated, s')) :
    ∃ loaded s1 key n, (m.get ctx keyID).run false s = (.ok loaded, s1) ∧
      (m.handleCryptoDetailsUpdate patch loaded).eval s1.db s1.clock = (.ok key, n) ∧
      updated.cryptoAccessData = key.cryptoAccessData := by
  have hwp : (m.updateKey ctx keyID patch).wp false (fun res _ => ∀ updated, res = .ok updated →
      ∃ loaded s1 key n, (m.get ctx keyID).run false s = (.ok loaded, s1) ∧
        (m.handleCryptoDetailsUpdate patch loaded).eval s1.db s1.clock = (.ok key, n) ∧
        updated.cryptoAccessData = key.cryptoAccessData) s := by
    simp only [updateKey, throw_bind]
    split
    · exact fun _ => by rintro ⟨⟩
    refine wp_bind_run (fun e s1 _ => by simp) fun loaded s1 hget => ?_
    have hget := run_mapError_ok hget
    split
    · exact fun _ => by rintro ⟨⟩
    refine wp_query_bind (fun e n _ => by simp) fun key n hkey => ?_
    have hkey := eval_mapError_ok hkey
    split
    · exact fun _ => by rintro ⟨⟩
    refine wp_mapError (wp_mono (wp_applyKeyPatch_crypto hout) fun res s2 hres => ?_)
    intro updated hupdated
    cases res with
    | error e => cases hupdated
    | ok a =>
      cases hupdated
      refine ⟨loaded, s1, key, n, hget, hkey, ?_⟩
      rw [hres _ rfl, copyFieldsToModelKey_crypto]
  exact wp_of_run hwp h updated rfl

def regionOf (key : Key) (region : String) : Option KeyAccessDetailsRegion :=
  (getCryptoAccessData key).bind (·.lookup region)

theorem lookup_withProperties (regions : List (String × List (String × String))) (region : String) :
    (withProperties regions).lookup region =
      (regions.lookup region).map fun properties => { additionalProperties := properties } := by
  induction regions with
  | nil => rfl
  | cons e regions ih =>
    change lookup region ((e.1, _) :: withProperties regions) = _
    rw [lookup_cons, lookup_cons, ih]
    split
    · rfl
    · rfl

theorem regionOf_registered {registered : Key} {regions : List (String × List (String × String))}
    (hcerts : ∀ n, m.keystores.getCryptoCertificates n = .ok certs)
    (h : (m.registerHYOKKey (requesting key regions)).eval d n = (.ok registered, n'))
    (region : String) :
    regionOf registered region = (regions.lookup region).map fun properties =>
      ⟨subjectOf certs region, properties⟩ := by
  obtain ⟨data', hdata', hlookup⟩ := registerHYOKKey_data hcerts rfl h
  have hread : getCryptoAccessData registered = some data' := by rw [getCryptoAccessData, hdata']
  rw [regionOf, hread, Option.bind_some, hlookup, lookup_withProperties, Option.map_map]
  refine congrFun (congrArg Option.map (funext fun properties => ?_)) _
  simp [withSubject]

/-- A region without data is unknown to a HYOK key unless a system of its configuration is in it, and
then only if the key is the primary one. -/
theorem editable_eq_none_iff (hσ : m.repo.OneOrder)
    (hget : (m.get ctx keyID).run i s = (.ok loaded, s'))
    (hdata : getCryptoAccessData loaded.key = some data) (htype : loaded.key.keyType = some .hyok)
    {region : String} (hregion : data.lookup region = none) :
    loaded.editableRegions.lookup region = none ↔
      (loaded.isPrimary = true →
        ∀ sys ∈ systemsOf s'.db loaded.key.keyConfigurationID, sys.region ≠ region) := by
  obtain ⟨n, hregions⟩ := get_editable hget
  obtain ⟨listed, hlisted, hnone, hall⟩ := setEditableStatus_ok hdata hregions
  rw [hlisted, lookup_editableAfter, hregion, Option.map_none, Option.or_none, Option.map_eq_none_iff,
    find?_eq_none]
  simp only [mem_reverse, decide_eq_true_eq]
  cases hprimary : loaded.isPrimary with
  | false => simp [hnone (.inl hprimary)]
  | true =>
    have hperm := Repo.eval_listInBatches_ok hσ (hall hprimary htype)
    simp only [hperm.mem_iff, forall_const]
    rfl

theorem get_ok {row : Key} (hout : ctx.inTx = false) (hrow : byID s.db.keys keyID = some row)
    (h : (m.get ctx keyID).run false s = (.ok loaded, s')) :
    (∃ st, loaded.key = { row with state := st }) ∧
      loaded.isPrimary = decide (s.db.primaryKeyID row.keyConfigurationID = some row.id) ∧
      s'.db.systems = s.db.systems := by
  have hwp : (m.get ctx keyID).wp false (fun res s' => ∀ loaded, res = .ok loaded →
      (∃ st, loaded.key = { row with state := st }) ∧
        loaded.isPrimary = decide (s.db.primaryKeyID row.keyConfigurationID = some row.id) ∧
        s'.db.systems = s.db.systems) s := by
    refine wp_get hout (fun e s1 _ _ => by simp) (fun e row st s1 _ => by simp) ?_
    rintro loaded row' st s1 hread hloaded hprimary - _ ⟨⟩
    have heq : row' = row := Option.some_inj.1 (hread.found.symm.trans hrow)
    subst heq
    exact ⟨⟨st, hloaded⟩, hprimary, hread.stateSet.systems⟩
  exact wp_of_run hwp h loaded rfl

/-- A region added by the patch is as registered exactly if the key knew nothing of it and its
certificate has the name of the region as subject. -/
theorem PatchedRegion.eq_registered_iff {region : String} {properties : List (String × String)}
    {new : KeyAccessDetailsRegion} (hcerts : ∀ n, m.keystores.getCryptoCertificates n = .ok certs)
    (hcert : ∃ cert ∈ certs, cert.name = region)
    (h : PatchedRegion m editableRegions {} (region, { additionalProperties := properties }) new) :
    new = ⟨subjectOf certs region, properties⟩ ↔
      editableRegions.lookup region = none ∧ subjectOf certs region = some region := by
  have hsubject : subjectOf certs region ≠ none := by
    obtain ⟨cert, hmem, hname⟩ := hcert
    rw [subjectOf, ne_eq, Option.map_eq_none_iff, find?_eq_none]
    exact fun hall => hall cert (mem_reverse.2 hmem) (by simpa using hname)
  cases h with
  | added hnone hcerts' =>
    rw [hcerts] at hcerts'
    cases hcerts'
    have hany : certs.any (·.name = region) = true := by simpa using hcert
    simp only [hnone, hany, if_true, true_and, KeyAccessDetailsRegion.mk.injEq, and_true]
    exact eq_comm
  | changed hsome =>
    constructor
    · intro heq
      exact (hsubject (congrArg KeyAccessDetailsRegion.certificateSubject heq).symm).elim
    · rintro ⟨hnone, -⟩
      rw [hsome] at hnone
      cases hnone

/-- Registering a key with some regions and adding others by a patch that is accepted gives what
registering it with all of them gives, exactly if no system of the configuration of a primary key is in
an added region, and the certificates of the added regions have their names as subjects. -/
theorem updateKey_adds_regions_iff (m : KeyManager) (ctx : Ctx) (keyID : UUID) (key row : Key)
    (A B : List (String × List (String × String))) (certs : List ClientCertificate) (d d' : Db)
    (n n₁ k k₁ : Nat) (registered registered' updated : Key) (s s' : St Db World)
    (hout : ctx.inTx = false) (hσ : m.repo.OneOrder)
    (hcerts : ∀ n, m.keystores.getCryptoCertificates n = .ok certs)
    (hregions : ((A ++ B).map (·.1)).Nodup)
    (hcert : ∀ region ∈ A ++ B, ∃ cert ∈ certs, cert.name = region.1)
    (hA : (m.registerHYOKKey (requesting key A)).eval d n = (.ok registered, n₁))
    (hAB : (m.registerHYOKKey (requesting key (A ++ B))).eval d' k = (.ok registered', k₁))
    (hrow : Repo.byID s.db.keys keyID = some row) (htype : row.keyType = some .hyok)
    (hcrypto : row.cryptoAccessData = registered.cryptoAccessData)
    (hupdate : (m.updateKey ctx keyID (adding B)).run false s = (.ok updated, s')) :
    (∀ region, regionOf updated region = regionOf registered' region) ↔
      ∀ region ∈ B,
        (s.db.primaryKeyID row.keyConfigurationID = some row.id →
          ∀ sys ∈ Repo.systemsOf s.db row.keyConfigurationID, sys.region ≠ region.1) ∧
        subjectOf certs region.1 = some region.1 := by
  obtain ⟨loaded, s₁, patched, n₂, hget, hpatch, hupdated⟩ := updateKey_ok hout hupdate
  obtain ⟨⟨st, hloaded⟩, hprimary, hsystems⟩ := get_ok hout hrow hget
  obtain ⟨data, hregistered, -⟩ := registerHYOKKey_data hcerts rfl hA
  have hdata : getCryptoAccessData loaded.key = some data := by
    rw [getCryptoAccessData, hloaded, hcrypto, hregistered]
  have hlookup : ∀ region, data.lookup region =
      (A.lookup region).map fun properties => ⟨subjectOf certs region, properties⟩ := by
    intro region
    rw [← regionOf_registered hcerts hA, regionOf, getCryptoAccessData, hregistered]
    rfl
  have hB : ((patchedCrypto (adding B)).map (·.1)).Nodup := by
    change ((withProperties B).map (·.1)).Nodup
    rw [List.map_append] at hregions
    rw [withProperties, List.map_map]
    exact hregions.of_append_right
  obtain ⟨data', hdata', hothers, hpatched⟩ := handleCryptoDetailsUpdate_data hdata hB hpatch
  have hread : ∀ region, regionOf updated region = data'.lookup region := by
    intro region
    rw [getCryptoAccessData, ← hupdated] at hdata'
    rw [regionOf, getCryptoAccessData, hdata', Option.bind_some]
  -- a region of the patch
  have hadded : ∀ e ∈ B, regionOf updated e.1 = regionOf registered' e.1 ↔
      (s.db.primaryKeyID row.keyConfigurationID = some row.id →
        ∀ sys ∈ Repo.systemsOf s.db row.keyConfigurationID, sys.region ≠ e.1) ∧
      subjectOf certs e.1 = some e.1 := by
    intro e he
    have hboth : (A ++ B).lookup e.1 = some e.2 :=
      lookup_of_mem hregions (List.mem_append_right A he)
    have hnew : data.lookup e.1 = none := by
      rw [hlookup, Option.map_eq_none_iff, List.lookup_eq_none_iff]
      intro e' he'
      rw [List.map_append] at hregions
      have hne := List.nodup_append.1 hregions |>.2.2 _ (List.mem_map_of_mem he') _
        (List.mem_map_of_mem he)
      simpa using hne.symm
    obtain ⟨new, hnewlookup, hnewregion⟩ := hpatched (e.1, { additionalProperties := e.2 })
      (List.mem_map_of_mem he)
    rw [hnew] at hnewregion
    rw [hread, hnewlookup, regionOf_registered hcerts hAB, hboth, Option.map_some, Option.some_inj,
      hnewregion.eq_registered_iff hcerts (hcert e (List.mem_append_right A he)),
      editable_eq_none_iff hσ hget hdata (by rw [hloaded]; exact htype) hnew, hprimary,
      decide_eq_true_eq, hloaded, Repo.systemsOf, hsystems]
    rfl
  constructor
  · exact fun h e he => (hadded e he).1 (h e.1)
  · intro h region
    cases hl : B.lookup region with
    | some properties => exact (hadded _ (mem_of_lookup hl)).2 (h _ (mem_of_lookup hl))
    | none =>
      have hnone : (patchedCrypto (adding B)).lookup region = none := by
        change (withProperties B).lookup region = none
        rw [lookup_withProperties, hl]
        rfl
      rw [hread, hothers region hnone, hlookup, regionOf_registered hcerts hAB, List.lookup_append, hl,
        Option.or_none]

end KeyManager

open Sample in
/-- The subject of region `us` is its name, and no system is in it. -/
theorem updateKey_adds_named_region :
    let updated := holding (euOnly ++ [("us", ⟨some "us", [("q", "2")]⟩)])
    ((certified.updateKey (as "a") 20 (KeyManager.adding [("us", [("q", "2")])])).run false
      (regional euOnly "eu" "ap" .connected .failed)).1 = .ok updated ∧
    ∃ registered, ((certified.registerHYOKKey (KeyManager.requesting (registeredKey 20 30 "k")
        [("eu", [("p", "1")]), ("us", [("q", "2")])])).eval start.db 0).1 = .ok registered ∧
      ∀ region, KeyManager.regionOf updated region = KeyManager.regionOf registered region := by
  intro updated
  have hupdate : ((certified.updateKey (as "a") 20 (KeyManager.adding [("us", [("q", "2")])])).run false
      (regional euOnly "eu" "ap" .connected .failed)).1 = .ok updated := by decide +kernel
  have hA : ((certified.registerHYOKKey (KeyManager.requesting (registeredKey 20 30 "k")
      [("eu", [("p", "1")])])).eval start.db 0).1 = .ok (holding euOnly) := by decide +kernel
  have hAB : ((certified.registerHYOKKey (KeyManager.requesting (registeredKey 20 30 "k")
      [("eu", [("p", "1")]), ("us", [("q", "2")])])).eval start.db 0).1 =
        .ok (holding (euOnly ++ [("us", ⟨some "us", [("q", "2")]⟩)])) := by decide +kernel
  refine ⟨hupdate, _, hAB, (KeyManager.updateKey_adds_regions_iff certified (as "a") 20
    (registeredKey 20 30 "k") (holding euOnly) [("eu", [("p", "1")])] [("us", [("q", "2")])]
    [⟨"eu", "CN=eu"⟩, ⟨"us", "us"⟩, ⟨"ap", "CN=ap"⟩] start.db start.db 0 _ 0 _ (holding euOnly) _ updated
    (regional euOnly "eu" "ap" .connected .failed) _ rfl (fun _ => rfl) (fun _ => rfl) (by decide)
    (by decide) (Prod.ext hA rfl) (Prod.ext hAB rfl) (by decide +kernel) rfl rfl
    (Prod.ext hupdate rfl)).2 (by decide +kernel)⟩

open Sample in
/-- Region `ap` added later has its name for a subject, and none at all if a FAILED system of the
configuration is in it. -/
theorem updateKey_adds_other_subject :
    ((certified.registerHYOKKey (KeyManager.requesting (registeredKey 20 30 "k")
      [("eu", [("p", "1")])])).eval start.db 0).1 = .ok (holding euOnly) ∧
    ((certified.registerHYOKKey (KeyManager.requesting (registeredKey 20 30 "k")
      [("eu", [("p", "1")]), ("ap", [("q", "2")])])).eval start.db 0).1.map (KeyManager.regionOf · "ap") =
        .ok (some ⟨some "CN=ap", [("q", "2")]⟩) ∧
    ((certified.updateKey (as "a") 20 (KeyManager.adding [("ap", [("q", "2")])])).run false
      (regional euOnly "eu" "eu" .connected .failed)).1.map (KeyManager.regionOf · "ap") =
        .ok (some ⟨some "ap", [("q", "2")]⟩) ∧
    ((certified.updateKey (as "a") 20 (KeyManager.adding [("ap", [("q", "2")])])).run false
      (regional euOnly "eu" "ap" .connected .failed)).1.map (KeyManager.regionOf · "ap") =
        .ok (some ⟨none, [("q", "2")]⟩) := by
  decide +kernel

end Cmk
