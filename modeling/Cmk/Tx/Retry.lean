import Mathlib.Data.List.Basic

/-!
# Cmk.Tx.Retry

An operation that is tried again while it fails with an error worth a retry. It has a state that
outlives the attempts, so what a failed attempt has done to the state stays done.

* `retry`        — attempts, each with its number, until one succeeds or there are no retries left.
* `retry_append` — an operation that appends to its state leaves what the failed attempts appended
  before what the last one appends.
-/

namespace Cmk.Tx

variable {S E α : Type}

/-- Attempt number `n`, with a number of retries left. -/
def retry (retryIf : E → Bool) (op : Nat → S → Except E α × S) : Nat → Nat → S → Except E α × S
  | 0, n, s => op n s
  | retries + 1, n, s =>
    match op n s with
    | (.ok a, s') => (.ok a, s')
    | (.error e, s') => if retryIf e then retry retryIf op retries (n + 1) s' else (.error e, s')

variable {retryIf : E → Bool} {op : Nat → S → Except E α × S}

theorem retry_ok {n : Nat} {s s' : S} {a : α} (h : op n s = (.ok a, s')) (retries : Nat) :
    retry retryIf op retries n s = (.ok a, s') := by
  cases retries with
  | zero => exact h
  | succ retries => rw [retry, h]

theorem retry_error {n : Nat} {s s' : S} {e : E} (h : op n s = (.error e, s')) (he : retryIf e)
    (retries : Nat) :
    retry retryIf op (retries + 1) n s = retry retryIf op retries (n + 1) s' := by
  rw [retry, h]
  exact if_pos he

/-- An operation whose first `j` attempts append something and fail, and whose next one succeeds. -/
theorem retry_append {T : Type} {op : Nat → List T → Except E α × List T} {a : α} {all : List T}
    (listed : Nat → List T) (j : Nat) {n retries : Nat} {acc : List T} (hj : j ≤ retries)
    (hfail : ∀ i, i < j → ∀ acc, ∃ e, op (n + i) acc = (.error e, acc ++ listed (n + i)) ∧ retryIf e)
    (hok : ∀ acc, op (n + j) acc = (.ok a, acc ++ all)) :
    retry retryIf op retries n acc =
      (.ok a, acc ++ ((List.range j).flatMap fun i => listed (n + i)) ++ all) := by
  induction j generalizing n retries acc with
  | zero =>
    rw [Nat.add_zero] at hok
    rw [retry_ok (hok acc)]
    simp
  | succ j ih =>
    obtain ⟨retries, rfl⟩ : ∃ k, retries = k + 1 := ⟨retries - 1, by omega⟩
    obtain ⟨e, he, hretry⟩ := hfail 0 (by omega) acc
    rw [Nat.add_zero] at he
    have hstep : ∀ i, n + 1 + i = n + (i + 1) := fun i => by omega
    rw [retry_error he hretry, ih (by omega) (fun i hi acc' => ?_) fun acc' => ?_]
    · rw [List.range_succ_eq_map, List.flatMap_cons, List.flatMap_map]
      simp [hstep]
    · rw [hstep]
      exact hfail (i + 1) (by omega) acc'
    · rw [hstep]
      exact hok acc'

end Cmk.Tx
