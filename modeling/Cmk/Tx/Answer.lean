import Cmk.Tx.Prog

/-!
# Cmk.Tx.Answer

Queries that give the same answer whenever they are asked.

* `Timeless d q` — no read of `q` on the store `d` depends on the number of the statement.
* `answer`       — the answer of such a query.
-/

namespace Cmk
namespace Tx

variable {D E α β γ : Type}

namespace Query

theorem bind_assoc (q : Query D E α) (h : α → Query D E β) (k : β → Query D E γ) :
    q >>= h >>= k = q >>= fun a => h a >>= k := by
  change (q.bind h).bind k = q.bind fun a => (h a).bind k
  induction q with
  | done r => cases r <;> rfl
  | read f k' ih =>
    simp only [Query.bind]
    congr 1
    funext r
    exact ih r

def Timeless (d : D) : Query D E α → Prop
  | .done _ => True
  | .read f k => (∀ n m, f n d = f m d) ∧ ∀ n, Timeless d (k (f n d))

def answer (q : Query D E α) (d : D) : Except E α := (q.eval d 0).1

variable {d : D} {q : Query D E α}

theorem Timeless.eval_eq (h : q.Timeless d) (n m : Nat) : (q.eval d n).1 = (q.eval d m).1 := by
  induction q generalizing n m with
  | done r => rfl
  | read f k ih =>
    change ((k (f n d)).eval d (n + 1)).1 = ((k (f m d)).eval d (m + 1)).1
    rw [h.1 n m]
    exact ih _ (h.2 m) _ _

theorem Timeless.eval_answer (h : q.Timeless d) (n : Nat) : (q.eval d n).1 = q.answer d :=
  h.eval_eq n 0

namespace Timeless

theorem done (r : Except E α) : (Query.done r : Query D E α).Timeless d := trivial

theorem ask {f : Nat → D → Except E α} (hf : ∀ n m, f n d = f m d) : (Query.ask f).Timeless d :=
  ⟨hf, fun _ => trivial⟩

theorem mapError (w : E → E) (hq : q.Timeless d) : (q.mapError w).Timeless d := by
  induction q with
  | done r => trivial
  | read f k ih => exact ⟨hq.1, fun n => ih _ (hq.2 n)⟩

theorem attempt (hq : q.Timeless d) : q.attempt.Timeless d := by
  induction q with
  | done r => trivial
  | read f k ih => exact ⟨hq.1, fun n => ih _ (hq.2 n)⟩

theorem bind_answer {h : α → Query D E β} (hq : q.Timeless d)
    (hh : ∀ a n, (q.eval d n).1 = .ok a → (h a).Timeless d) : (q >>= h).Timeless d := by
  change (q.bind h).Timeless d
  induction q with
  | done r =>
    cases r with
    | error e => trivial
    | ok a => exact hh a 0 rfl
  | read f k ih =>
    refine ⟨hq.1, fun n => ih _ (hq.2 n) fun a m ha => hh a n ?_⟩
    rw [← ha]
    exact (hq.2 n).eval_eq _ _

theorem bind {h : α → Query D E β} (hq : q.Timeless d) (hh : ∀ a, (h a).Timeless d) :
    (q >>= h).Timeless d :=
  hq.bind_answer fun a _ _ => hh a

theorem ite {c : Prop} [Decidable c] {q' : Query D E α} (hq : q.Timeless d) (hq' : q'.Timeless d) :
    (if c then q else q').Timeless d := by
  split
  · exact hq
  · exact hq'

end Timeless

end Query

end Tx
end Cmk
