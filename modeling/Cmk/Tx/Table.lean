import Mathlib.Data.List.FinRange
import Mathlib.Data.List.Nodup

/-!
# Cmk.Tx.Table

Tables with a primary key. A table is the list of its rows together with the proof that no two of
them have the same key, so a lookup by key and a membership are the same fact.

* `modify`  — `UPDATE … WHERE key = k`; nothing happens if there is no such row.
* `insert?` — `INSERT`; refused if the key is taken.
* `upsert`  — `INSERT … ON CONFLICT DO UPDATE`.
* `delete`  — `DELETE … WHERE key = k`.

A listing without `ORDER BY` may return the rows in any order: `page` takes the permutation as an
argument, shuffles the rows and cuts one page out of them.
-/

namespace Cmk

open List Function

variable {limit offset : Nat}
namespace Tx

structure Table {α κ : Type} (key : α → κ) where
  rows : List α
  nodup : (rows.map key).Nodup

namespace Table

variable {α κ : Type} {key : α → κ}

def empty : Table key := ⟨[], .nil⟩

theorem eq_of_key (t : Table key) {r r' : α} (h : r ∈ t.rows) (h' : r' ∈ t.rows)
    (hk : key r = key r') : r = r' :=
  inj_on_of_nodup_map t.nodup h h' hk

@[ext] theorem ext {t t' : Table key} (h : t.rows = t'.rows) : t = t' := by
  cases t; cases t'; cases h; rfl

variable [DecidableEq κ]

def get? (t : Table key) (k : κ) : Option α := t.rows.find? fun r => key r = k

def modify (t : Table key) (k : κ) (f : α → α) (hf : ∀ r, key (f r) = key r) : Table key where
  rows := t.rows.map fun r => if key r = k then f r else r
  nodup := by
    have hk : key ∘ (fun r => if key r = k then f r else r) = key := by
      funext r
      simp only [Function.comp_apply]
      split
      · exact hf r
      · rfl
    rw [List.map_map, hk]
    exact t.nodup

def insert? (t : Table key) (r : α) : Option (Table key) :=
  if h : key r ∈ t.rows.map key then none
  else some ⟨t.rows ++ [r], by
    rw [List.map_append, List.map_singleton]
    exact t.nodup.append (List.nodup_singleton _) (by simpa using h)⟩

omit [DecidableEq κ] in
def filter (t : Table key) (p : α → Bool) : Table key where
  rows := t.rows.filter p
  nodup := (List.filter_sublist.map key).nodup t.nodup

def delete (t : Table key) (k : κ) : Table key where
  rows := t.rows.filter fun r => key r ≠ k
  nodup := (List.filter_sublist.map key).nodup t.nodup

def upsert (t : Table key) (r : α) : Table key :=
  match t.insert? r with
  | some t' => t'
  | none =>
    { rows := t.rows.map fun r' => if key r' = key r then r else r'
      nodup := by
        have hk : key ∘ (fun r' => if key r' = key r then r else r') = key := by
          funext r'
          simp only [Function.comp_apply]
          split
          · rename_i h; exact h.symm
          · rfl
        rw [List.map_map, hk]
        exact t.nodup }

variable {t t' : Table key} {k k' : κ} {r r' : α} {f : α → α} {hf : ∀ r, key (f r) = key r}

theorem get?_eq_some : t.get? k = some r ↔ r ∈ t.rows ∧ key r = k := by
  constructor
  · intro h
    exact ⟨mem_of_find?_eq_some h, by simpa using find?_some h⟩
  · rintro ⟨hr, rfl⟩
    cases hg : t.get? (key r) with
    | none => simpa using find?_eq_none.1 hg r hr
    | some r' =>
      have hk : key r' = key r := by simpa using find?_some hg
      rw [t.eq_of_key (mem_of_find?_eq_some hg) hr hk]

theorem get?_eq_none : t.get? k = none ↔ ∀ r ∈ t.rows, key r ≠ k := by
  simp [get?]

theorem get?_key (h : r ∈ t.rows) : t.get? (key r) = some r :=
  get?_eq_some.2 ⟨h, rfl⟩

theorem mem_of_get? (h : t.get? k = some r) : r ∈ t.rows := (get?_eq_some.1 h).1

theorem key_of_get? (h : t.get? k = some r) : key r = k := (get?_eq_some.1 h).2

theorem mem_modify : r ∈ (t.modify k f hf).rows ↔
    (∃ r0 ∈ t.rows, key r0 = k ∧ r = f r0) ∨ (r ∈ t.rows ∧ key r ≠ k) := by
  simp only [modify, mem_map]
  constructor
  · rintro ⟨r0, hr, rfl⟩
    split
    · rename_i hk; exact .inl ⟨r0, hr, hk, rfl⟩
    · rename_i hk; exact .inr ⟨hr, hk⟩
  · rintro (⟨r0, hr, hk, rfl⟩ | ⟨hr, hk⟩)
    · exact ⟨r0, hr, if_pos hk⟩
    · exact ⟨r, hr, if_neg hk⟩

theorem get?_modify_self (hf : ∀ r, key (f r) = key r) :
    (t.modify k f hf).get? k = (t.get? k).map f := by
  cases hg : t.get? k with
  | none =>
    rw [Option.map_none, get?_eq_none]
    intro r hr hk
    rcases mem_modify.1 hr with ⟨r0, hr0, hk0, -⟩ | ⟨-, hne⟩
    · exact get?_eq_none.1 hg r0 hr0 hk0
    · exact hne hk
  | some r =>
    obtain ⟨hr, hk⟩ := get?_eq_some.1 hg
    exact get?_eq_some.2 ⟨mem_modify.2 (.inl ⟨r, hr, hk, rfl⟩), (hf r).trans hk⟩

theorem get?_modify_ne (hf : ∀ r, key (f r) = key r) (h : k' ≠ k) :
    (t.modify k f hf).get? k' = t.get? k' := by
  ext r
  rw [get?_eq_some, get?_eq_some, mem_modify]
  constructor
  · rintro ⟨⟨r0, -, hk0, rfl⟩ | ⟨hr, -⟩, hk⟩
    · exact absurd (hk.symm.trans ((hf r0).trans hk0)) h
    · exact ⟨hr, hk⟩
  · rintro ⟨hr, rfl⟩
    exact ⟨.inr ⟨hr, h⟩, rfl⟩

theorem insert?_eq_some : t.insert? r = some t' ↔ t'.rows = t.rows ++ [r] ∧ t.get? (key r) = none := by
  unfold insert?
  split
  · rename_i h
    obtain ⟨r', hr', hk⟩ := mem_map.1 h
    simp only [reduceCtorEq, false_iff, not_and]
    intro _ hg
    exact get?_eq_none.1 hg r' hr' hk
  · rename_i h
    have hg : t.get? (key r) = none :=
      get?_eq_none.2 fun r' hr' hk => h (mem_map.2 ⟨r', hr', hk⟩)
    constructor
    · rintro ⟨⟩; exact ⟨rfl, hg⟩
    · rintro ⟨hr, -⟩; exact congrArg some (Table.ext hr.symm)

theorem exists_insert? (h : t.get? (key r) = none) :
    ∃ t', t.insert? r = some t' ∧ t'.rows = t.rows ++ [r] := by
  have hfree : key r ∉ t.rows.map key := by
    intro hmem
    obtain ⟨r', hr', hk⟩ := mem_map.1 hmem
    exact get?_eq_none.1 h r' hr' hk
  exact ⟨_, dif_neg hfree, rfl⟩

theorem get?_insert?_self (h : t.insert? r = some t') : t'.get? (key r) = some r := by
  refine get?_key ?_
  rw [(insert?_eq_some.1 h).1]
  exact mem_append_right _ mem_cons_self

theorem get?_insert?_ne (h : t.insert? r = some t') (hk : k ≠ key r) : t'.get? k = t.get? k := by
  ext r'
  rw [get?_eq_some, get?_eq_some, (insert?_eq_some.1 h).1, mem_append, mem_singleton]
  constructor
  · rintro ⟨hr | rfl, hk'⟩
    · exact ⟨hr, hk'⟩
    · exact absurd hk'.symm hk
  · rintro ⟨hr, hk'⟩
    exact ⟨.inl hr, hk'⟩

theorem upsert_of_insert? (h : t.insert? r = some t') : t.upsert r = t' := by
  unfold upsert
  rw [h]

theorem mem_upsert : r' ∈ (t.upsert r).rows ↔ r' = r ∨ (r' ∈ t.rows ∧ key r' ≠ key r) := by
  cases hi : t.insert? r with
  | some t' =>
    rw [upsert_of_insert? hi]
    obtain ⟨hr, hg⟩ := insert?_eq_some.1 hi
    rw [hr, mem_append, mem_singleton, or_comm]
    refine or_congr_right ⟨fun h => ⟨h, get?_eq_none.1 hg r' h⟩, And.left⟩
  | none =>
    have hk : key r ∈ t.rows.map key := by
      unfold insert? at hi; split at hi
      · assumption
      · cases hi
    obtain ⟨r0, hr0, hk0⟩ := mem_map.1 hk
    simp only [upsert, hi, mem_map]
    constructor
    · rintro ⟨a, ha, rfl⟩
      split
      · exact .inl rfl
      · rename_i h; exact .inr ⟨ha, h⟩
    · rintro (rfl | ⟨hr, hne⟩)
      · exact ⟨r0, hr0, if_pos hk0⟩
      · exact ⟨r', hr, if_neg hne⟩

theorem get?_modify (hf : ∀ r, key (f r) = key r) :
    (t.modify k f hf).get? = update t.get? k ((t.get? k).map f) := by
  funext k'
  by_cases h : k' = k
  · subst h; rw [get?_modify_self, update_self]
  · rw [get?_modify_ne hf h, update_of_ne h]

theorem get?_upsert : (t.upsert r).get? = update t.get? (key r) (some r) := by
  funext k
  by_cases h : k = key r
  · subst h
    rw [update_self]
    exact get?_key (mem_upsert.2 (.inl rfl))
  · rw [update_of_ne h]
    ext r'
    rw [get?_eq_some, get?_eq_some, mem_upsert]
    constructor
    · rintro ⟨rfl | ⟨hr, -⟩, hk⟩
      · exact absurd hk.symm h
      · exact ⟨hr, hk⟩
    · rintro ⟨hr, rfl⟩
      exact ⟨.inr ⟨hr, h⟩, rfl⟩

theorem mem_delete : r ∈ (t.delete k).rows ↔ r ∈ t.rows ∧ key r ≠ k := by
  simp [delete]

theorem perm_delete (h : r ∈ t.rows) : t.rows.Perm (r :: (t.delete (key r)).rows) := by
  have hrows : t.rows.Nodup := List.Nodup.of_map _ t.nodup
  have hcons : (r :: (t.delete (key r)).rows).Nodup :=
    nodup_cons.2 ⟨fun hr => (mem_delete.1 hr).2 rfl, hrows.filter _⟩
  refine (perm_ext_iff_of_nodup hrows hcons).2 fun r' => ?_
  rw [mem_cons, mem_delete]
  constructor
  · intro hr'
    by_cases hk : key r' = key r
    · exact .inl (t.eq_of_key hr' h hk)
    · exact .inr ⟨hr', hk⟩
  · rintro (rfl | hr')
    · exact h
    · exact hr'.1

theorem get?_delete : (t.delete k).get? = update t.get? k none := by
  funext k'
  have hmem : ∀ r, r ∈ (t.delete k).rows ↔ r ∈ t.rows ∧ key r ≠ k := by
    intro r
    simp [delete]
  by_cases h : k' = k
  · subst h
    rw [update_self, get?_eq_none]
    exact fun r hr => ((hmem r).1 hr).2
  · rw [update_of_ne h]
    ext r
    rw [get?_eq_some, get?_eq_some, hmem]
    constructor
    · rintro ⟨⟨hr, -⟩, hk⟩; exact ⟨hr, hk⟩
    · rintro ⟨hr, rfl⟩; exact ⟨⟨hr, h⟩, rfl⟩

omit [DecidableEq κ] in
/-- A filtered table whose rows stand for rows of another filtered table is not the longer one. -/
theorem length_filter_le {t' : Table key} {p p' : α → Bool}
    (h : ∀ r' ∈ t'.rows, p' r' → ∃ r ∈ t.rows, key r = key r' ∧ p r) :
    (t'.rows.filter p').length ≤ (t.rows.filter p).length := by
  have hnd : ((t'.rows.filter p').map key).Nodup := (filter_sublist.map key).nodup t'.nodup
  have hsub : (t'.rows.filter p').map key ⊆ (t.rows.filter p).map key := by
    intro k hk
    obtain ⟨r', hr', rfl⟩ := mem_map.1 hk
    obtain ⟨hmem, hp⟩ := mem_filter.1 hr'
    obtain ⟨r, hr, hkey, hpr⟩ := h r' hmem hp
    exact mem_map.2 ⟨r, mem_filter.2 ⟨hr, hpr⟩, hkey⟩
  simpa using (subperm_of_subset hnd hsub).length_le

theorem filter_upsert {p : α → Bool} (hp : ∀ a b, key a = key b → p a = p b) (hr : p r = false) :
    (t.upsert r).rows.filter p = t.rows.filter p := by
  cases hi : t.insert? r with
  | some t' =>
    rw [upsert_of_insert? hi, (insert?_eq_some.1 hi).1, filter_append]
    simp [hr]
  | none =>
    simp only [upsert, hi, filter_map]
    have hcomp : p ∘ (fun r' => if key r' = key r then r else r') = p := by
      funext r'
      simp only [comp_apply]
      split
      · rename_i h; exact hp _ _ h.symm
      · rfl
    rw [hcomp]
    refine (map_congr_left fun r' hr' => ?_).trans (map_id _)
    refine if_neg fun hk => ?_
    have hpr := (mem_filter.1 hr').2
    rw [hp r' r hk, hr] at hpr
    cases hpr

end Table

section Listing

variable {α : Type}

/-- The elements of a list in the order a permutation gives them. -/
def shuffle (l : List α) (σ : Equiv.Perm (Fin l.length)) : List α := List.ofFn fun i => l.get (σ i)

/-- One page of a listing whose order is not specified. -/
def page (l : List α) (σ : Equiv.Perm (Fin l.length)) (offset limit : Nat) : List α :=
  ((shuffle l σ).drop offset).take limit

theorem shuffle_perm (l : List α) (σ : Equiv.Perm (Fin l.length)) : (shuffle l σ).Perm l := by
  have h := σ.ofFn_comp_perm l.get
  rwa [ofFn_get] at h

theorem exists_shuffle {α : Type} [DecidableEq α] {l l' : List α} (h : l'.Perm l) :
    ∃ σ, shuffle l σ = l' := by
  have hlen := h.length_eq
  let e : Fin l'.length ≃ Fin l.length :=
    ⟨h.idxBij, h.symm.idxBij, fun _ => h.idxBij_symm_idxBij, fun _ => h.idxBij_idxBij_symm⟩
  refine ⟨(finCongr hlen.symm).trans e, ext_getElem (by simp [shuffle, hlen]) fun i _ hi => ?_⟩
  simp only [shuffle, List.getElem_ofFn, get_eq_getElem]
  exact h.getElem_idxBij_eq_getElem ⟨i, hi⟩

theorem page_perm {l : List α} {σ : Equiv.Perm (Fin l.length)} (h : l.length ≤ limit) :
    (page l σ 0 limit).Perm l := by
  rw [page, drop_zero, take_of_length_le (by rw [(shuffle_perm l σ).length_eq]; exact h)]
  exact shuffle_perm l σ

theorem page_subperm {l : List α} {σ : Equiv.Perm (Fin l.length)} :
    (page l σ offset limit).Subperm l :=
  ((take_sublist _ _).trans (drop_sublist _ _)).subperm.trans (shuffle_perm l σ).subperm

theorem page_subset {l : List α} {σ : Equiv.Perm (Fin l.length)} :
    page l σ offset limit ⊆ l :=
  page_subperm.subset

/-- In a list sorted by `f`, the first `n` are those with fewer than `n` before them. -/
theorem mem_take_iff_countP {f : α → Int} {l : List α} {a : α}
    (h : l.Pairwise fun a b => f a < f b) (ha : a ∈ l) (n : Nat) :
    a ∈ l.take n ↔ l.countP (f · < f a) < n := by
  induction l generalizing n with
  | nil => cases ha
  | cons b l ih =>
    obtain ⟨hb, hl⟩ := pairwise_cons.1 h
    cases n with
    | zero => simp
    | succ n =>
      rw [take_succ_cons, mem_cons, countP_cons]
      rcases mem_cons.1 ha with rfl | ha'
      · have h0 : l.countP (f · < f a) = 0 := by
          rw [countP_eq_zero]
          intro c hc
          have := hb c hc
          simp only [decide_eq_true_eq]
          omega
        simp [h0]
      · have hlt := hb a ha'
        have hne : a ≠ b := by
          rintro rfl
          exact absurd hlt (Int.lt_irrefl _)
        rw [ih hl ha', decide_eq_true hlt, if_pos rfl]
        simp [hne]

theorem length_page {l : List α} (σ : Equiv.Perm (Fin l.length)) :
    (page l σ 0 limit).length = min limit l.length := by
  simp [page, shuffle]

/-- The database may answer with the rows of any part of the listing that fills the page. -/
theorem exists_page [DecidableEq α] {l : List α} (p : α → Bool) (h : limit ≤ l.countP p) :
    ∃ σ, ∀ a ∈ page l σ 0 limit, p a := by
  obtain ⟨σ, hσ⟩ := exists_shuffle (filter_append_perm p l)
  refine ⟨σ, fun a ha => ?_⟩
  rw [page, hσ, drop_zero, take_append_of_le_length (by rwa [← countP_eq_length_filter])]
    at ha
  exact (mem_filter.1 (mem_of_mem_take ha)).2

theorem limit_le_countP {l : List α} {σ : Equiv.Perm (Fin l.length)} {p : α → Bool}
    (hl : limit ≤ l.length) (h : ∀ a ∈ page l σ 0 limit, p a) : limit ≤ l.countP p :=
  calc limit = (page l σ 0 limit).length := by rw [length_page, min_eq_left hl]
    _ = (page l σ 0 limit).countP p := (countP_eq_length.2 h).symm
    _ ≤ l.countP p := page_subperm.countP_le p

end Listing

export Table (key_of_get? get?_key get?_modify mem_of_get?)

end Tx
end Cmk
