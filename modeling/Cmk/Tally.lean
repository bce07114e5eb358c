import Mathlib.Data.List.Perm.Basic
import Mathlib.Data.Sign.Defs
import Mathlib.Algebra.Ring.Int.Defs

/-!
# Cmk.Tally

Yes minus no. Each element of a list has a sign: yes, no or abstention. `tally` is the number of
yeses minus the number of noes.

* `lowest`, `highest` — the least and the greatest tally of `k` elements of a list.
* `threshold_stable_iff` — when `k` elements, whichever they are, decide a threshold like the
  whole list does.
-/

namespace Cmk

open List
namespace Tally

variable {α : Type}

/-- Yes minus no. -/
def tally (f : α → SignType) (l : List α) : Int := l.countP (f · = 1) - l.countP (f · = -1)

variable {f g : α → SignType} {l l' : List α} {k : Nat}

theorem tally_cons (a : α) (l : List α) : tally f (a :: l) = f a + tally f l := by
  unfold tally
  rw [countP_cons, countP_cons]
  cases f a <;> simp <;> omega

theorem tally_congr (h : ∀ a ∈ l, f a = g a) : tally f l = tally g l := by
  have hx : ∀ x, l.countP (f · = x) = l.countP (g · = x) := fun x =>
    countP_congr fun a ha => by rw [h a ha]
  unfold tally
  rw [hx, hx]

theorem tally_filter (p : α → Bool) (l : List α) :
    tally f (l.filter p) = tally (fun a => if p a then f a else 0) l := by
  induction l with
  | nil => rfl
  | cons a l ih =>
    rw [filter_cons, tally_cons]
    split
    · rw [tally_cons, ih]
    · rw [ih]; simp

theorem tally_perm (h : l.Perm l') : tally f l = tally f l' := by
  unfold tally
  rw [h.countP_eq, h.countP_eq]

theorem length_eq_counts (l : List α) : l.length =
    l.countP (f · = 1) + l.countP (f · = -1) + l.countP (f · = 0) := by
  induction l with
  | nil => rfl
  | cons a l ih =>
    rw [length_cons, countP_cons, countP_cons, countP_cons]
    cases f a <;> simp <;> omega

/-- The least tally of `k` elements of a list: the noes first, then the abstentions. -/
def lowest (f : α → SignType) (k : Nat) (l : List α) : Int :=
  (k - l.countP (f · = -1) - l.countP (f · = 0) : Nat) - (min k (l.countP (f · = -1)) : Nat)

/-- The greatest tally of `k` elements of a list: the yeses first, then the abstentions. -/
def highest (f : α → SignType) (k : Nat) (l : List α) : Int :=
  (min k (l.countP (f · = 1)) : Nat) - (k - l.countP (f · = 1) - l.countP (f · = 0) : Nat)

theorem lowest_le_tally (h : l'.Subperm l) : lowest f l'.length l ≤ tally f l' := by
  have hno := h.countP_le (f · = -1)
  have habs := h.countP_le (f · = 0)
  have hlen := length_eq_counts (f := f) l'
  unfold lowest tally
  omega

theorem tally_le_highest (h : l'.Subperm l) : tally f l' ≤ highest f l'.length l := by
  have hyes := h.countP_le (f · = 1)
  have habs := h.countP_le (f · = 0)
  have hlen := length_eq_counts (f := f) l'
  unfold highest tally
  omega

theorem exists_perm_lowest (f : α → SignType) (hk : k ≤ l.length) :
    ∃ l' : List α, l'.Perm l ∧ tally f (l'.take k) = lowest f k l := by
  let no := l.filter (f · = -1)
  let abs := l.filter (f · = 0)
  let yes := l.filter (f · = 1)
  refine ⟨no ++ (abs ++ yes), ?_, ?_⟩
  · have hrest : (abs ++ yes).Perm (l.filter (¬ f · = -1)) := by
      have h0 : abs = (l.filter (¬ f · = -1)).filter (f · = 0) := by
        rw [filter_filter]
        refine filter_congr fun a _ => ?_
        cases f a <;> decide
      have h1 : yes = (l.filter (¬ f · = -1)).filter (fun a => !decide (f a = 0)) := by
        rw [filter_filter]
        refine filter_congr fun a _ => ?_
        cases f a <;> decide
      rw [h0, h1]
      exact filter_append_perm _ _
    refine (hrest.append_left no).trans ?_
    simpa using filter_append_perm (f · = -1) l
  · have hcount : ∀ (x y : SignType) (j : Nat), ((l.filter (f · = x)).take j).countP (f · = y) =
        if x = y then min j (l.countP (f · = x)) else 0 := by
      intro x y j
      split
      · rename_i h
        subst h
        rw [countP_eq_length.2, length_take, countP_eq_length_filter]
        intro a ha
        simpa using (mem_filter.1 (mem_of_mem_take ha)).2
      · rename_i h
        refine countP_eq_zero.2 fun a ha hy => h ?_
        have hx := (mem_filter.1 (mem_of_mem_take ha)).2
        rw [← of_decide_eq_true hx, ← of_decide_eq_true hy]
    have hlen := length_eq_counts (f := f) l
    have hnl : no.length = l.countP (f · = -1) := countP_eq_length_filter.symm
    have hal : abs.length = l.countP (f · = 0) := countP_eq_length_filter.symm
    simp only [tally, take_append, countP_append, hnl, hal]
    simp only [no, abs, yes, hcount]
    simp only [lowest, show (1 : SignType) ≠ -1 by decide, show (-1 : SignType) ≠ 1 by decide,
      show (0 : SignType) ≠ 1 by decide, show (0 : SignType) ≠ -1 by decide, if_true, if_false]
    omega

theorem tally_neg : tally (fun a => -f a) l = -tally f l := by
  induction l with
  | nil => rfl
  | cons a l ih =>
    rw [tally_cons, tally_cons, ih]
    cases f a <;> simp <;> omega

theorem highest_eq_neg_lowest : highest f k l = -lowest (fun a => -f a) k l := by
  have hno : ∀ x : SignType, l.countP (-f · = x) = l.countP (f · = -x) := fun x =>
    countP_congr fun a _ => by simp [neg_eq_iff_eq_neg]
  simp only [highest, lowest, hno, neg_neg, neg_zero]
  omega

theorem exists_perm_highest (f : α → SignType) (hk : k ≤ l.length) :
    ∃ l' : List α, l'.Perm l ∧ tally f (l'.take k) = highest f k l := by
  obtain ⟨l', hp, ht⟩ := exists_perm_lowest (fun a => -f a) hk
  refine ⟨l', hp, ?_⟩
  rw [highest_eq_neg_lowest, ← ht, tally_neg, neg_neg]

/-- Any `k` elements decide the threshold `m` like the whole list if and only if their extreme
tallies do. -/
theorem threshold_stable_iff {m : Int} (hk : k ≤ l.length) :
    (∀ l' : List α, l'.Perm l → (m ≤ tally f (l'.take k) ↔ m ≤ tally f l)) ↔
      if m ≤ tally f l then m ≤ lowest f k l else highest f k l < m := by
  have hlen : ∀ l' : List α, l'.Perm l → (l'.take k).length = k := fun l' hp => by
    rw [length_take, hp.length_eq, Nat.min_eq_left hk]
  have hsub : ∀ l' : List α, l'.Perm l → (l'.take k).Subperm l := fun l' hp =>
    (take_sublist k l').subperm.trans hp.subperm
  constructor
  · intro h
    split
    · rename_i hm
      obtain ⟨l', hp, ht⟩ := exists_perm_lowest f hk
      rw [← ht]
      exact (h l' hp).2 hm
    · rename_i hm
      obtain ⟨l', hp, ht⟩ := exists_perm_highest f hk
      rw [← ht]
      exact not_le.1 fun hle => hm ((h l' hp).1 hle)
  · intro h l' hp
    have hlow := lowest_le_tally (f := f) (hsub l' hp)
    have hhigh := tally_le_highest (f := f) (hsub l' hp)
    rw [hlen l' hp] at hlow hhigh
    split at h <;> omega

end Tally
end Cmk
