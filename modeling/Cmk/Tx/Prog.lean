import Mathlib.Data.List.Basic

/-!
# Cmk.Tx.Prog

Programs over a transactional store. A program is a tree of statements: `read` and `write` act on
the store `D`, `ext` on the world `X` outside it (queues, job managers, logs), and `transaction`
brackets a body. One tree has two meanings:

* `run`    — the call executed alone, statement by statement.
* `Thread` — the call as one of several that interleave (`Cmk.Tx.Thread`).

`run` carries a flag saying whether a transaction is already open. An outermost transaction is
settled: committed when the body succeeds and the commit goes through, otherwise the store is put
back. A nested one is only its body, so what it wrote stays even if it fails. The world outside is
never put back.

Every statement gets the number of statements executed so far. It indexes whatever the store does
not determine: injected faults, the order of listed rows, the answers of a plugin. The state also
keeps the stores committed so far, newest first, so that a property of every commit is a property
of the final state.
-/

namespace Cmk

variable {m n : Nat}
namespace Tx

structure St (D X : Type) where
  db : D
  ext : X
  clock : Nat
  commits : List D

inductive Prog (D X E : Type) : Type → Type 1 where
  | done {α : Type} (r : Except E α) : Prog D X E α
  | read {α β : Type} (f : Nat → D → Except E β) (k : Except E β → Prog D X E α) : Prog D X E α
  | write {α β : Type} (f : Nat → D → Except E β × D) (k : Except E β → Prog D X E α) :
      Prog D X E α
  | ext {α β : Type} (g : Nat → D → X → Except E β × X) (k : Except E β → Prog D X E α) :
      Prog D X E α
  | transaction {α β : Type} (commit : Nat → Option E) (body : Prog D X E β)
      (k : Except E β → Prog D X E α) : Prog D X E α

inductive Query (D E : Type) : Type → Type 1 where
  | done {α : Type} (r : Except E α) : Query D E α
  | read {α β : Type} (f : Nat → D → Except E β) (k : Except E β → Query D E α) : Query D E α

variable {D X E α β γ : Type}

/-- How an outermost transaction ends, given the state it began in and what its body did. -/
def settle (commit : Nat → Option E) (s : St D X) (p : Except E α × St D X) :
    Except E α × St D X :=
  match p.1 with
  | .error e => (.error e, { p.2 with db := s.db })
  | .ok a =>
    match commit p.2.clock with
    | some e => (.error e, { p.2 with db := s.db, clock := p.2.clock + 1 })
    | none => (.ok a, { p.2 with clock := p.2.clock + 1, commits := p.2.db :: p.2.commits })

namespace Query

protected def bind : Query D E α → (α → Query D E β) → Query D E β
  | .done (.ok a), h => h a
  | .done (.error e), _ => .done (.error e)
  | .read f k, h => .read f fun r => (k r).bind h

instance : Monad (Query D E) where
  pure a := .done (.ok a)
  bind := Query.bind

instance : MonadLift (Except E) (Query D E) where
  monadLift r := .done r

/-- A single read. -/
def ask (f : Nat → D → Except E α) : Query D E α := .read f .done

def attempt : Query D E α → Query D E (Except E α)
  | .done r => .done (.ok r)
  | .read f k => .read f fun r => (k r).attempt

def mapError (w : E → E) : Query D E α → Query D E α
  | .done r => .done (r.mapError w)
  | .read f k => .read f fun r => (k r).mapError w

instance : MonadExceptOf E (Query D E) where
  throw e := .done (.error e)
  tryCatch p h := p.attempt.bind fun
    | .ok a => .done (.ok a)
    | .error e => h e

/-- Result of a query on a store, and the clock after it. -/
def eval : Query D E α → D → Nat → Except E α × Nat
  | .done r, _, n => (r, n)
  | .read f k, d, n => (k (f n d)).eval d (n + 1)

/-- A query as a program. -/
def toProg : Query D E α → Prog D X E α
  | .done r => .done r
  | .read f k => .read f fun r => (k r).toProg

end Query

namespace Prog

protected def bind : Prog D X E α → (α → Prog D X E β) → Prog D X E β
  | .done (.ok a), h => h a
  | .done (.error e), _ => .done (.error e)
  | .read f k, h => .read f fun r => (k r).bind h
  | .write f k, h => .write f fun r => (k r).bind h
  | .ext g k, h => .ext g fun r => (k r).bind h
  | .transaction c b k, h => .transaction c b fun r => (k r).bind h

instance : Monad (Prog D X E) where
  pure a := .done (.ok a)
  bind := Prog.bind

instance : MonadLift (Query D E) (Prog D X E) where
  monadLift := Query.toProg

/-- A single write. -/
def exec (f : Nat → D → Except E α × D) : Prog D X E α := .write f .done

def call (g : Nat → D → X → Except E α × X) : Prog D X E α := .ext g .done

def transact (commit : Nat → Option E) (body : Prog D X E α) : Prog D X E α :=
  .transaction commit body .done

/-- The error of a program as a value. What the program wrote stays. -/
def attempt : Prog D X E α → Prog D X E (Except E α)
  | .done r => .done (.ok r)
  | .read f k => .read f fun r => (k r).attempt
  | .write f k => .write f fun r => (k r).attempt
  | .ext g k => .ext g fun r => (k r).attempt
  | .transaction c b k => .transaction c b fun r => (k r).attempt

def mapError (w : E → E) : Prog D X E α → Prog D X E α
  | .done r => .done (r.mapError w)
  | .read f k => .read f fun r => (k r).mapError w
  | .write f k => .write f fun r => (k r).mapError w
  | .ext g k => .ext g fun r => (k r).mapError w
  | .transaction c b k => .transaction c b fun r => (k r).mapError w

instance : MonadExceptOf E (Prog D X E) where
  throw e := .done (.error e)
  tryCatch p h := p.attempt.bind fun
    | .ok a => .done (.ok a)
    | .error e => h e

/-- Executing a program alone. `inTx` says that a transaction is already open. -/
def run (inTx : Bool) : {α : Type} → Prog D X E α → St D X → Except E α × St D X
  | _, .done r, s => (r, s)
  | _, .read f k, s => (k (f s.clock s.db)).run inTx { s with clock := s.clock + 1 }
  | _, .write f k, s =>
    (k (f s.clock s.db).1).run inTx
      { s with
        db := (f s.clock s.db).2
        clock := s.clock + 1
        commits := bif inTx then s.commits else (f s.clock s.db).2 :: s.commits }
  | _, .ext g k, s =>
    (k (g s.clock s.db s.ext).1).run inTx
      { s with ext := (g s.clock s.db s.ext).2, clock := s.clock + 1 }
  | _, .transaction c b k, s =>
    let p := b.run true s
    let q := bif inTx then p else settle c s p
    (k q.1).run inTx q.2

end Prog

namespace Query

@[simp] theorem throw_bind (e : E) (h : α → Query D E β) :
    (throw e : Query D E α) >>= h = throw e := rfl

@[simp] theorem eval_pure (a : α) (d : D) (n : Nat) :
    (pure a : Query D E α).eval d n = (.ok a, n) := rfl

@[simp] theorem eval_throw (e : E) (d : D) (n : Nat) :
    (throw e : Query D E α).eval d n = (.error e, n) := rfl

@[simp] theorem eval_except (r : Except E α) (d : D) (n : Nat) :
    (liftM r : Query D E α).eval d n = (r, n) := rfl

@[simp] theorem eval_ask (f : Nat → D → Except E α) (d : D) (n : Nat) :
    (ask f).eval d n = (f n d, n + 1) := rfl

theorem eval_bind (q : Query D E α) (h : α → Query D E β) (d : D) (n : Nat) :
    (q >>= h).eval d n =
      match q.eval d n with
      | (.ok a, m) => (h a).eval d m
      | (.error e, m) => (.error e, m) := by
  change (q.bind h).eval d n = _
  induction q generalizing n with
  | done r => cases r <;> rfl
  | read f k ih => exact ih _ _

@[simp] theorem eval_attempt (q : Query D E α) (d : D) (n : Nat) :
    q.attempt.eval d n = (.ok (q.eval d n).1, (q.eval d n).2) := by
  induction q generalizing n with
  | done r => rfl
  | read f k ih => exact ih _ _

@[simp] theorem eval_mapError (w : E → E) (q : Query D E α) (d : D) (n : Nat) :
    (q.mapError w).eval d n = ((q.eval d n).1.mapError w, (q.eval d n).2) := by
  induction q generalizing n with
  | done r => rfl
  | read f k ih => exact ih _ _

theorem eval_bind_ok {q : Query D E α} {h : α → Query D E β} {d : D} {b : β}
    (hr : (q >>= h).eval d n = (.ok b, m)) :
    ∃ a l, q.eval d n = (.ok a, l) ∧ (h a).eval d l = (.ok b, m) := by
  rw [eval_bind] at hr
  split at hr
  · rename_i a l hq; exact ⟨a, l, hq, hr⟩
  · cases hr

theorem eval_bind_of_ok {q : Query D E α} {h : α → Query D E β} {d : D} {a : α}
    (hq : q.eval d n = (.ok a, m)) : (q >>= h).eval d n = (h a).eval d m := by
  rw [eval_bind, hq]

theorem eval_bind_of_error {q : Query D E α} {h : α → Query D E β} {d : D} {e : E}
    (hq : q.eval d n = (.error e, m)) : (q >>= h).eval d n = (.error e, m) := by
  rw [eval_bind, hq]

theorem eval_mapError_ok {w : E → E} {q : Query D E α} {d : D} {a : α}
    (h : (q.mapError w).eval d n = (.ok a, m)) : q.eval d n = (.ok a, m) := by
  rw [eval_mapError] at h
  cases hq : q.eval d n with
  | mk r l => rw [hq] at h; cases r <;> cases h; rfl

theorem eval_mapError_error {w : E → E} {q : Query D E α} {d : D} {e : E}
    (h : (q.mapError w).eval d n = (.error e, m)) : ∃ e', q.eval d n = (.error e', m) := by
  rw [eval_mapError] at h
  cases hq : q.eval d n with
  | mk r l => rw [hq] at h; cases r <;> cases h; exact ⟨_, rfl⟩

end Query

namespace Prog

variable {i : Bool} {s s' : St D X}

@[simp] theorem throw_bind (e : E) (h : α → Prog D X E β) :
    (throw e : Prog D X E α) >>= h = throw e := rfl

@[simp] theorem pure_bind (a : α) (h : α → Prog D X E β) :
    (pure a : Prog D X E α) >>= h = h a := rfl

theorem bind_assoc (p : Prog D X E α) (h : α → Prog D X E β) (h' : β → Prog D X E γ) :
    p >>= h >>= h' = p >>= fun a => h a >>= h' := by
  change (p.bind h).bind h' = p.bind fun a => (h a).bind h'
  induction p with
  | done r => cases r <;> rfl
  | read f k ih => exact congrArg (Prog.read f) (funext fun r => ih r h)
  | write f k ih => exact congrArg (Prog.write f) (funext fun r => ih r h)
  | ext g k ih => exact congrArg (Prog.ext g) (funext fun r => ih r h)
  | transaction c b k _ ih => exact congrArg (Prog.transaction c b) (funext fun r => ih r h)

@[simp] theorem ok_bind (a : α) (h : α → Prog D X E β) :
    (liftM (.ok a : Except E α) : Prog D X E α) >>= h = h a := rfl

@[simp] theorem error_bind (e : E) (h : α → Prog D X E β) :
    (liftM (.error e : Except E α) : Prog D X E α) >>= h = throw e := rfl

@[simp] theorem run_pure (i : Bool) (a : α) (s : St D X) :
    (pure a : Prog D X E α).run i s = (.ok a, s) := rfl

@[simp] theorem run_throw (i : Bool) (e : E) (s : St D X) :
    (throw e : Prog D X E α).run i s = (.error e, s) := rfl

@[simp] theorem run_done (i : Bool) (r : Except E α) (s : St D X) :
    (done r : Prog D X E α).run i s = (r, s) := rfl

@[simp] theorem run_exec_nested (f : Nat → D → Except E α × D) (s : St D X) :
    (exec f : Prog D X E α).run true s =
      ((f s.clock s.db).1, { s with db := (f s.clock s.db).2, clock := s.clock + 1 }) := rfl

@[simp] theorem run_call (i : Bool) (g : Nat → D → X → Except E α × X) (s : St D X) :
    (call g : Prog D X E α).run i s =
      ((g s.clock s.db s.ext).1,
        { s with ext := (g s.clock s.db s.ext).2, clock := s.clock + 1 }) := rfl

theorem run_bind (i : Bool) (p : Prog D X E α) (h : α → Prog D X E β) (s : St D X) :
    (p >>= h).run i s =
      match p.run i s with
      | (.ok a, s') => (h a).run i s'
      | (.error e, s') => (.error e, s') := by
  change (p.bind h).run i s = _
  induction p generalizing s with
  | done r => cases r <;> rfl
  | read f k ih => exact ih _ _ _
  | write f k ih => exact ih _ _ _
  | ext g k ih => exact ih _ _ _
  | transaction c b k _ ih => exact ih _ _ _

@[simp] theorem run_attempt (i : Bool) (p : Prog D X E α) (s : St D X) :
    p.attempt.run i s = (.ok (p.run i s).1, (p.run i s).2) := by
  induction p generalizing s with
  | done r => rfl
  | read f k ih => exact ih _ _
  | write f k ih => exact ih _ _
  | ext g k ih => exact ih _ _
  | transaction c b k _ ih => exact ih _ _

@[simp] theorem run_mapError (w : E → E) (i : Bool) (p : Prog D X E α) (s : St D X) :
    (p.mapError w).run i s = ((p.run i s).1.mapError w, (p.run i s).2) := by
  induction p generalizing s with
  | done r => rfl
  | read f k ih => exact ih _ _
  | write f k ih => exact ih _ _
  | ext g k ih => exact ih _ _
  | transaction c b k _ ih => exact ih _ _

@[simp] theorem run_lift (i : Bool) (q : Query D E α) (s : St D X) :
    (liftM q : Prog D X E α).run i s =
      ((q.eval s.db s.clock).1, { s with clock := (q.eval s.db s.clock).2 }) := by
  change (q.toProg : Prog D X E α).run i s = _
  induction q generalizing s with
  | done r => rfl
  | read f k ih => exact ih _ _

@[simp] theorem run_except (i : Bool) (r : Except E α) (s : St D X) :
    (liftM r : Prog D X E α).run i s = (r, s) := rfl

theorem run_bind_ok {p : Prog D X E α} {h : α → Prog D X E β} {b : β}
    (hr : (p >>= h).run i s = (.ok b, s')) :
    ∃ a s1, p.run i s = (.ok a, s1) ∧ (h a).run i s1 = (.ok b, s') := by
  rw [run_bind] at hr
  split at hr
  · rename_i a s1 hp; exact ⟨a, s1, hp, hr⟩
  · cases hr

theorem run_query_bind_ok {q : Query D E α} {h : α → Prog D X E β} {b : β}
    (hr : ((liftM q : Prog D X E α) >>= h).run i s = (.ok b, s')) :
    ∃ a n, q.eval s.db s.clock = (.ok a, n) ∧ (h a).run i { s with clock := n } = (.ok b, s') := by
  obtain ⟨a, s1, hq, hk⟩ := run_bind_ok hr
  rw [run_lift] at hq
  cases he : q.eval s.db s.clock with
  | mk r n => rw [he] at hq; cases hq; exact ⟨a, n, rfl, hk⟩

theorem run_bind_of_ok {p : Prog D X E α} {h : α → Prog D X E β} {a : α} {s1 : St D X}
    (hp : p.run i s = (.ok a, s1)) : (p >>= h).run i s = (h a).run i s1 := by
  rw [run_bind, hp]

theorem run_mapError_ok {w : E → E} {p : Prog D X E α} {a : α}
    (h : (p.mapError w).run i s = (.ok a, s')) : p.run i s = (.ok a, s') := by
  rw [run_mapError] at h
  cases hp : p.run i s with
  | mk r s1 => rw [hp] at h; cases r <;> cases h; rfl

/-! ### Transactions -/

variable {commit : Nat → Option E} {body : Prog D X E α}

@[simp] theorem run_transact_nested : (transact commit body).run true s = body.run true s := rfl

theorem run_transact :
    (transact commit body).run false s = settle commit s (body.run true s) := rfl

theorem settle_ok {p : Except E α × St D X} {a : α} (h : settle commit s p = (.ok a, s')) :
    ∃ s1, p = (.ok a, s1) ∧ commit s1.clock = none ∧
      s' = { s1 with clock := s1.clock + 1, commits := s1.db :: s1.commits } := by
  obtain ⟨r, s1⟩ := p
  cases r with
  | error e => cases h
  | ok b =>
    simp only [settle] at h
    split at h
    · cases h
    · rename_i hc; cases h; exact ⟨s1, rfl, hc, rfl⟩

theorem settle_error {p : Except E α × St D X} {e : E} (h : settle commit s p = (.error e, s')) :
    s'.db = s.db ∧ s'.ext = p.2.ext ∧ s'.commits = p.2.commits := by
  obtain ⟨r, s1⟩ := p
  cases r with
  | error e => cases h; exact ⟨rfl, rfl, rfl⟩
  | ok b =>
    simp only [settle] at h
    split at h
    · cases h; exact ⟨rfl, rfl, rfl⟩
    · cases h

theorem run_nested_commits (p : Prog D X E α) (s : St D X) :
    (p.run true s).2.commits = s.commits := by
  induction p generalizing s with
  | done r => rfl
  | read f k ih => exact ih _ _
  | write f k ih => exact ih _ _
  | ext g k ih => exact ih _ _
  | transaction c b k ihb ih => exact (ih _ _).trans (ihb _)

theorem le_clock_settle {commit : Nat → Option E} {s : St D X} (p : Except E α × St D X) :
    p.2.clock ≤ (settle commit s p).2.clock := by
  obtain ⟨r, s1⟩ := p
  cases r with
  | error e => exact Nat.le_refl _
  | ok a =>
    simp only [settle]
    split <;> exact Nat.le_succ _

theorem le_clock_run (i : Bool) (p : Prog D X E α) (s : St D X) :
    s.clock ≤ (p.run i s).2.clock := by
  induction p generalizing s i with
  | done r => exact Nat.le_refl _
  | read f k ih =>
    exact Nat.le_trans (Nat.le_succ _) (ih (f s.clock s.db) i { s with clock := s.clock + 1 })
  | write f k ih =>
    refine Nat.le_trans ?_ (ih (f s.clock s.db).1 i _)
    exact Nat.le_succ _
  | ext g k ih =>
    refine Nat.le_trans ?_ (ih (g s.clock s.db s.ext).1 i _)
    exact Nat.le_succ _
  | transaction c b k ihb ih =>
    refine Nat.le_trans ?_ (ih _ i _)
    cases i with
    | true => exact ihb true s
    | false => exact Nat.le_trans (ihb true s) (le_clock_settle _)

theorem run_transact_ok {a : α} (h : (transact commit body).run false s = (.ok a, s')) :
    ∃ s1, body.run true s = (.ok a, s1) ∧ commit s1.clock = none ∧
      s' = { s1 with clock := s1.clock + 1, commits := s1.db :: s.commits } := by
  obtain ⟨s1, hb, hc, rfl⟩ := settle_ok h
  have hn := run_nested_commits body s
  rw [hb] at hn
  exact ⟨s1, hb, hc, by rw [← hn]⟩

theorem run_transact_error {e : E} (h : (transact commit body).run false s = (.error e, s')) :
    s'.db = s.db ∧ s'.ext = (body.run true s).2.ext ∧ s'.commits = s.commits := by
  obtain ⟨hd, hx, hc⟩ := settle_error h
  exact ⟨hd, hx, hc.trans (run_nested_commits body s)⟩

end Prog

export Query (eval_bind_ok eval_mapError_ok eval_bind eval_bind_of_ok eval_mapError)
export Prog (run_bind_ok run_call)

end Tx
end Cmk
