import Mathlib.Logic.Function.Basic

/-!
# Cmk.Tx.Refs

Elements that belong to groups, and groups each of which may have chosen one element. The choice is
`Sound` if the chosen element exists and belongs to the group. A store of this kind has no constraint
that keeps it sound, so every change has a condition of its own.
-/

namespace Cmk

open Function
namespace Tx

structure Refs (κ γ : Type) where
  /-- The group an element belongs to, if the element exists. -/
  owner : κ → Option γ
  /-- The choice of a group, if the group exists. -/
  chosen : γ → Option (Option κ)

namespace Refs

variable {κ γ : Type} [DecidableEq κ] [DecidableEq γ] {g : Refs κ γ} {k : κ} {c : γ}

def Sound (g : Refs κ γ) : Prop := ∀ c k, g.chosen c = some (some k) → g.owner k = some c

def own (g : Refs κ γ) (k : κ) (c : γ) : Refs κ γ :=
  { g with owner := Function.update g.owner k (some c) }

def release (g : Refs κ γ) (k : κ) : Refs κ γ :=
  { g with owner := Function.update g.owner k none }

/-- A group that does not exist chooses nothing. -/
def choose (g : Refs κ γ) (c : γ) (k : κ) : Refs κ γ :=
  { g with chosen := Function.update g.chosen c ((g.chosen c).map fun _ => some k) }

/-- A group that need not have existed, and its choice. -/
def assign (g : Refs κ γ) (c : γ) (p : Option κ) : Refs κ γ :=
  { g with chosen := Function.update g.chosen c (some p) }

omit [DecidableEq γ] in
theorem Sound.own (h : g.Sound) (hk : g.owner k = none) : (g.own k c).Sound := by
  intro c' k' hc
  have howner := h c' k' hc
  have hne : k' ≠ k := by
    intro he
    rw [he, hk] at howner
    cases howner
  simp only [Refs.own, update_of_ne hne]
  exact howner

omit [DecidableEq γ] in
theorem Sound.release (h : g.Sound) (hk : ∀ c, g.chosen c ≠ some (some k)) : (g.release k).Sound := by
  intro c k' hc
  have hne : k' ≠ k := by
    intro he
    rw [he] at hc
    exact hk c hc
  simp only [Refs.release, update_of_ne hne]
  exact h c k' hc

omit [DecidableEq κ] in
theorem Sound.choose (h : g.Sound) (hk : g.owner k = some c) : (g.choose c k).Sound := by
  intro c' k' hc
  simp only [Refs.choose, update_apply] at hc
  split at hc
  · rename_i he
    cases hg : g.chosen c with
    | none => rw [hg] at hc; cases hc
    | some p =>
      rw [hg] at hc
      cases hc
      rw [he]
      exact hk
  · exact h c' k' hc

omit [DecidableEq κ] in
theorem Sound.assign {p : Option κ} (h : g.Sound) (hp : ∀ k, p = some k → g.owner k = some c) :
    (g.assign c p).Sound := by
  intro c' k' hc
  simp only [Refs.assign, update_apply] at hc
  split at hc
  · rename_i he
    rw [he]
    exact hp k' (Option.some.inj hc)
  · exact h c' k' hc

end Refs

end Tx
end Cmk
