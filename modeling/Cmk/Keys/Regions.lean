import Cmk.Keys.Detach

/-!
# Cmk.Keys.Regions

Which crypto regions of a HYOK key a user may change.

* `lookup_setEntries` — assignments to a map, the later ones win.
* `eval_listInBatches` — the pages of a listing in one order are the listing.
* `setEditableStatus_order_iff` — of several systems in a region the one listed last decides whether
  the region is editable.

A map is the list of its entries, and two maps are the same if they have the same lookups.
-/

namespace Cmk

open Tx List

section

variable {α : Type}

theorem lookup_setEntries (entries map : List (String × α)) (key : String) :
    (entries.foldl (fun map e => setEntry map e.1 e.2) map).lookup key =
      (entries.reverse.lookup key).or (map.lookup key) := by
  induction entries using reverseRecOn with
  | nil => rfl
  | append_singleton entries e ih =>
    rw [foldl_append, reverse_append]
    simp only [foldl_cons, foldl_nil, reverse_singleton, singleton_append]
    rw [lookup_setEntry, ih, lookup_cons]
    by_cases h : key = e.1
    · rw [if_pos h, beq_iff_eq.2 h]
      rfl
    · rw [if_neg h, beq_eq_false_iff_ne.2 h]

theorem mem_of_lookup {map : List (String × α)} {key : String} {a : α} (h : map.lookup key = some a) :
    (key, a) ∈ map := by
  obtain ⟨l1, l2, rfl, -⟩ := lookup_eq_some_iff.1 h
  simp

theorem lookup_of_mem {map : List (String × α)} (hmap : (map.map (·.1)).Nodup) {e : String × α}
    (h : e ∈ map) : map.lookup e.1 = some e.2 := by
  cases hl : map.lookup e.1 with
  | none => exact absurd (lookup_eq_none_iff.1 hl e h) (by simp)
  | some a =>
    have heq : (e.1, a) = e := inj_on_of_nodup_map hmap (mem_of_lookup hl) h rfl
    rw [← heq]

theorem lookup_reverse {map : List (String × α)} (hmap : (map.map (·.1)).Nodup) (key : String) :
    map.reverse.lookup key = map.lookup key := by
  have hrev : (map.reverse.map (·.1)).Nodup := by rwa [map_reverse, nodup_reverse]
  cases hl : map.lookup key with
  | none =>
    rw [lookup_eq_none_iff] at hl ⊢
    exact fun e he => hl e (mem_reverse.1 he)
  | some a => exact lookup_of_mem hrev (mem_reverse.2 (mem_of_lookup hl))

theorem lookup_map_pair {β : Type} (l : List β) (f : β → String) (g : β → α) (key : String) :
    (l.map fun b => (f b, g b)).lookup key = (l.find? (f · = key)).map g := by
  induction l with
  | nil => rfl
  | cons b l ih =>
    rw [map_cons, lookup_cons, find?_cons, ih]
    by_cases h : f b = key
    · simp [h]
    · simp only [h, decide_false, beq_eq_false_iff_ne.2 (Ne.symm h)]

theorem lookup_map_const {β : Type} (map : List (String × β)) (a : α) (key : String) :
    (map.map fun e => (e.1, a)).lookup key = (map.lookup key).map fun _ => a := by
  induction map with
  | nil => rfl
  | cons e map ih =>
    rw [map_cons, lookup_cons, lookup_cons, ih]
    split
    · rfl
    · rfl

end

theorem flatMap_pages {α : Type} (l : List α) (limit : Nat) (hlimit : 0 < limit) :
    ((range (l.length / limit + 1)).flatMap fun i => (l.drop (i * limit)).take limit) = l := by
  have htake : ∀ n, ((range n).flatMap fun i => (l.drop (i * limit)).take limit) =
      l.take (n * limit) := by
    intro n
    induction n with
    | zero => simp
    | succ n ih => rw [range_succ, flatMap_append, ih, Nat.succ_mul, take_add]; simp
  rw [htake, take_of_length_le]
  have := Nat.lt_div_mul_add (a := l.length) hlimit
  rw [Nat.succ_mul]
  omega

namespace Repo

variable {α : Type} {r : Repo} {ctx : Ctx} {d : Db} {n : Nat}

def OneOrder (r : Repo) : Prop := ∀ n, r.order n = r.order 0

theorem pages_of_oneOrder (hσ : r.OneOrder) (n : Nat) (l : List α) :
    ((range (l.length / defaultLimit + 1)).flatMap fun i =>
      page l (r.order (n + i) _) (i * defaultLimit) defaultLimit) = shuffle l (r.order 0 _) := by
  have hpages := flatMap_pages (shuffle l (r.order 0 _)) defaultLimit (by decide)
  rw [(shuffle_perm _ _).length_eq] at hpages
  simp only [page, hσ (n + _), hpages]

theorem eval_listInBatches {select : Db → List α} (ht : ctx.tenant ≠ "") (hf : r.fault n = none)
    (hσ : r.OneOrder) :
    (r.listInBatches ctx select).eval d n = (.ok (shuffle (select d) (r.order 0 _)), n + 1) := by
  rw [listInBatches, eval_query ht hf, pages_of_oneOrder hσ]
  rfl

theorem eval_listInBatches_ok {select : Db → List α} {l : List α} {k : Nat} (hσ : r.OneOrder)
    (h : (r.listInBatches ctx select).eval d n = (.ok l, k)) : l.Perm (select d) := by
  have hl := (eval_query_ok h).1
  rw [pages_of_oneOrder hσ] at hl
  cases hl
  exact shuffle_perm _ _

end Repo

namespace KeyManager

variable {m : KeyManager} {ctx : Ctx} {key : Key} {d : Db} {n : Nat}
  {data : List (String × KeyAccessDetailsRegion)} {systems listed : List System}

/-- The editable regions once the systems have been listed. -/
def editableAfter (hyok : Bool) (data : List (String × KeyAccessDetailsRegion))
    (listed : List System) : List (String × Bool) :=
  listed.foldl (fun regions s => setEntry regions s.region (s.status = .failed))
    (data.map fun region => (region.1, hyok))

theorem lookup_editableAfter (hyok : Bool) (data : List (String × KeyAccessDetailsRegion))
    (listed : List System) (region : String) :
    (editableAfter hyok data listed).lookup region =
      ((listed.reverse.find? (·.region = region)).map fun s => decide (s.status = .failed)).or
        ((data.lookup region).map fun _ => hyok) := by
  have h := lookup_setEntries (listed.map fun s => (s.region, decide (s.status = .failed)))
    (data.map fun region => (region.1, hyok)) region
  rw [foldl_map, ← map_reverse, lookup_map_pair, lookup_map_const] at h
  exact h

theorem eval_setEditableStatus_primary (ht : ctx.tenant ≠ "") (hf : m.repo.fault n = none)
    (hσ : m.repo.OneOrder) (hdata : getCryptoAccessData key = some data)
    (htype : key.keyType = some .hyok) :
    (m.setEditableStatus ctx key true).eval d n =
      (.ok (editableAfter true data (shuffle (systemsOf d key.keyConfigurationID) (m.repo.order 0 _))), n + 1) := by
  unfold setEditableStatus
  simp only [hdata, htype, not_true_eq_false, ne_eq, or_self, if_false]
  rw [eval_bind, Repo.listSystemsOfKeyConfiguration, Repo.eval_listInBatches ht hf hσ]
  simp only [decide_true]
  rfl

def AlikeInRegion (systems : List System) : Prop :=
  ∀ s ∈ systems, ∀ t ∈ systems, s.region = t.region → s.status = .failed → t.status = .failed

theorem AlikeInRegion.lookup (h : AlikeInRegion systems) (hl : listed.Perm systems) {s : System}
    (hs : s ∈ systems) :
    (editableAfter true data listed).lookup s.region = some (decide (s.status = .failed)) := by
  rw [lookup_editableAfter]
  cases hlast : listed.reverse.find? (·.region = s.region) with
  | none =>
    have hmem : s ∈ listed.reverse := mem_reverse.2 (hl.mem_iff.2 hs)
    exact absurd (find?_eq_none.1 hlast s hmem) (by simp)
  | some t =>
    have ht : t ∈ systems := hl.mem_iff.1 (mem_reverse.1 (mem_of_find?_eq_some hlast))
    have hregion : t.region = s.region := by simpa using find?_some hlast
    have hsame : t.status = .failed ↔ s.status = .failed :=
      ⟨h t ht s hs hregion, h s hs t ht hregion.symm⟩
    simp [hsame]

theorem lookup_editableAfter_empty (hl : listed.Perm systems) {region : String}
    (hregion : ∀ s ∈ systems, s.region ≠ region) :
    (editableAfter true data listed).lookup region = (data.lookup region).map fun _ => true := by
  have hnone : listed.reverse.find? (·.region = region) = none := by
    rw [find?_eq_none]
    intro s hs
    simpa using hregion s (hl.mem_iff.1 (mem_reverse.1 hs))
  rw [lookup_editableAfter, hnone]
  rfl

def listedIn (m : KeyManager) (σ : (n : Nat) → Equiv.Perm (Fin n)) : KeyManager :=
  { m with repo := { m.repo with order := fun _ => σ } }

theorem exists_listed_last {s : System} (hs : s ∈ systems) :
    ∃ σ : (n : Nat) → Equiv.Perm (Fin n), ∃ l, shuffle systems (σ systems.length) = l ++ [s] := by
  have hperm : (systems.erase s ++ [s]).Perm systems :=
    (perm_append_singleton s _).trans (perm_cons_erase hs).symm
  obtain ⟨τ, hτ⟩ := exists_shuffle hperm
  refine ⟨Function.update (fun _ => .refl _) systems.length τ, systems.erase s, ?_⟩
  rw [Function.update_self, hτ]

/-- Whatever the order in which the systems are listed, the same regions are editable, and of those
with systems the ones whose systems are all FAILED: exactly if no region has both FAILED systems and
others. -/
theorem setEditableStatus_order_iff (m : KeyManager) (ctx : Ctx) (key : Key) (d : Db) (n : Nat)
    (data : List (String × KeyAccessDetailsRegion)) (hr : ¬ m.repo.Refuses ctx n)
    (hdata : getCryptoAccessData key = some data) (htype : key.keyType = some .hyok) :
    (∀ σ, ∃ regions, (((m.listedIn σ).setEditableStatus ctx key true).eval d n).1 = .ok regions ∧
      (∀ σ', ∃ regions', (((m.listedIn σ').setEditableStatus ctx key true).eval d n).1 = .ok regions' ∧
        ∀ region, regions'.lookup region = regions.lookup region) ∧
      ∀ s ∈ Repo.systemsOf d key.keyConfigurationID, regions.lookup s.region = some true ↔
        ∀ t ∈ Repo.systemsOf d key.keyConfigurationID, t.region = s.region → t.status = .failed) ↔
    AlikeInRegion (Repo.systemsOf d key.keyConfigurationID) := by
  simp only [Repo.Refuses, not_or, not_not] at hr
  have heval : ∀ σ, (((m.listedIn σ).setEditableStatus ctx key true).eval d n).1 =
      .ok (editableAfter true data (shuffle (Repo.systemsOf d key.keyConfigurationID) (σ _))) := by
    intro σ
    rw [eval_setEditableStatus_primary (m := m.listedIn σ) hr.1 hr.2 (fun _ => rfl) hdata htype]
    rfl
  simp only [heval, Except.ok.injEq, exists_eq_left']
  constructor
  · intro h s hs t ht hregion hfailed
    obtain ⟨σ, l, hl⟩ := exists_listed_last hs
    have hlookup := ((h σ).2 s hs).1
    rw [hl, lookup_editableAfter, List.reverse_append] at hlookup
    simp only [List.reverse_singleton, List.singleton_append, List.find?_cons, decide_true,
      Option.map_some, hfailed, Option.some_or, forall_const] at hlookup
    exact hlookup t ht hregion.symm
  · intro h σ
    refine ⟨fun σ' region => ?_, fun s hs => ?_⟩
    · by_cases hregion : ∃ s ∈ Repo.systemsOf d key.keyConfigurationID, s.region = region
      · obtain ⟨s, hs, rfl⟩ := hregion
        rw [h.lookup (shuffle_perm _ _) hs, h.lookup (shuffle_perm _ _) hs]
      · have hnone : ∀ s ∈ Repo.systemsOf d key.keyConfigurationID, s.region ≠ region :=
          fun s hs heq => hregion ⟨s, hs, heq⟩
        rw [lookup_editableAfter_empty (shuffle_perm _ _) hnone,
          lookup_editableAfter_empty (shuffle_perm _ _) hnone]
    · rw [h.lookup (shuffle_perm _ _) hs, Option.some_inj, decide_eq_true_eq]
      exact ⟨fun hs' t ht heq => h s hs t ht heq.symm hs', fun hall => hall s hs rfl⟩

/-- What is known of the editable regions of a key, whatever the order of its systems. -/
theorem setEditableStatus_ok {isPrimary : Bool} {regions : List (String × Bool)} {n' : Nat}
    (hdata : getCryptoAccessData key = some data)
    (h : (m.setEditableStatus ctx key isPrimary).eval d n = (.ok regions, n')) :
    ∃ listed, regions = editableAfter (key.keyType = some .hyok) data listed ∧
      ((isPrimary = false ∨ key.keyType ≠ some .hyok) → listed = []) ∧
      (isPrimary = true → key.keyType = some .hyok → 
        (m.repo.listSystemsOfKeyConfiguration ctx key.keyConfigurationID).eval d n =
          (.ok listed, n + 1)) := by
  unfold setEditableStatus at h
  simp only [hdata] at h
  split at h
  · rename_i hno
    cases h
    exact ⟨[], rfl, fun _ => rfl, fun hp ht => (hno.elim (fun h => h hp) fun h => h ht).elim⟩
  · rename_i hyes
    obtain ⟨listed, n1, hl, h⟩ := eval_bind_ok h
    cases h
    refine ⟨listed, rfl, fun hno => (hyes ?_).elim, fun _ _ => ?_⟩
    · exact hno.imp_left fun hp => by simp [hp]
    · have hn : n' = n + 1 := (Repo.eval_query_ok hl).2
      rw [← hn]
      exact hl

end KeyManager

namespace Sample

/-- Certificates of three regions. That of `us` has the name of the region as subject. -/
def certified : KeyManager :=
  { keyPlatform.keys with keystores := { keystores with
      getCryptoCertificates := fun _ => .ok [⟨"eu", "CN=eu"⟩, ⟨"us", "us"⟩, ⟨"ap", "CN=ap"⟩] } }

def holding (data : List (String × KeyAccessDetailsRegion)) : Key :=
  { registeredKey 20 30 "k" with cryptoAccessData := some (.regions data) }

def euOnly : List (String × KeyAccessDetailsRegion) := [("eu", ⟨some "CN=eu", [("p", "1")]⟩)]

def inRegion (id : UUID) (region : String) (status : SystemStatus) : System :=
  { system with id := id, region := region, status := status, keyConfigurationID := some 30 }

def regional (data : List (String × KeyAccessDetailsRegion)) (region region' : String)
    (status status' : SystemStatus) : St Db World :=
  { start with
    db := { db with
      keys := ⟨[holding data], by simp⟩
      systems := ⟨[inRegion 40 region status, inRegion 41 region' status'], by simp [inRegion]⟩ } }

theorem certified_accepts (n : Nat) : ¬ certified.repo.Refuses (as "a") n := by
  rintro (h | h)
  · exact absurd h (by decide)
  · exact h rfl

end Sample

open Sample in
theorem setEditableStatus_all_failed :
    ∃ regions, (((certified.listedIn fun _ => Fin.revPerm).setEditableStatus (as "a") (holding euOnly)
      true).eval (regional euOnly "eu" "eu" .failed .failed).db 0).1 = .ok regions ∧
      regions.lookup "eu" = some true := by
  have halike : KeyManager.AlikeInRegion
      (Repo.systemsOf (regional euOnly "eu" "eu" .failed .failed).db 30) := by
    unfold KeyManager.AlikeInRegion
    decide +kernel
  obtain ⟨regions, heval, -, hfailed⟩ := (KeyManager.setEditableStatus_order_iff certified (as "a")
    (holding euOnly) (regional euOnly "eu" "eu" .failed .failed).db 0 euOnly (certified_accepts 0) rfl
    rfl).2 halike fun _ => Fin.revPerm
  have hmem : inRegion 40 "eu" .failed ∈
      Repo.systemsOf (regional euOnly "eu" "eu" .failed .failed).db 30 := by decide +kernel
  exact ⟨regions, heval, (hfailed _ hmem).2 (by decide +kernel)⟩

open Sample in
/-- A CONNECTED and a FAILED system in one region: the order in which they are listed decides. -/
theorem setEditableStatus_by_order :
    (((certified.listedIn fun _ => .refl _).setEditableStatus (as "a") (holding euOnly) true).eval
      (regional euOnly "eu" "eu" .connected .failed).db 0).1 = .ok [("eu", true)] ∧
    (((certified.listedIn fun _ => Fin.revPerm).setEditableStatus (as "a") (holding euOnly) true).eval
      (regional euOnly "eu" "eu" .connected .failed).db 0).1 = .ok [("eu", false)] := by
  decide +kernel

end Cmk
