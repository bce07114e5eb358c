import Mathlib.Logic.Relation
import Mathlib.Order.Defs.Unbundled
import Cmk.Tx.Prog

/-!
# Cmk.Tx.Rules

Proof rules for programs over a transactional store.

* `wp i p Q s` — running `p` from `s` ends with a result and a state that meet `Q`. One rule for
  each way a program is built.
* `Query.Returns P q` — whatever the reads of `q` return, its value meets `P`.
* `Commits R p s` — everything `p` run from `s` does to the committed store and to the world is
  allowed by `R`. What a query returned is known when the rest of the program runs.
* `Keeps R Q p` — every statement of `p` changes the store by `R` or the world by `Q`, whatever the
  statements before it returned. For preorders `R` and `Q` the two ends of a run are then related.
* `Runs` — finite sequences of calls, and the induction that carries an invariant along them.
-/

namespace Cmk
namespace Tx

variable {D X E α β : Type}

/-- Whatever its reads return, a query that succeeds returns a value that meets `P`. -/
def Query.Returns (P : α → Prop) : Query D E α → Prop
  | .done r => ∀ a, r = .ok a → P a
  | .read _ k => ∀ r, Returns P (k r)

namespace Query.Returns

variable {P : α → Prop} {P' : β → Prop} {q : Query D E α} {h : α → Query D E β}

theorem bind (hq : q.Returns P) (hh : ∀ a, P a → (h a).Returns P') : (q >>= h).Returns P' := by
  change (q.bind h).Returns P'
  induction q with
  | done r =>
    cases r with
    | ok a => exact hh a (hq a rfl)
    | error e => exact fun a h => by cases h
  | read f k ih => exact fun r => ih r (hq r)

theorem any (q : Query D E α) : q.Returns fun _ => True := by
  induction q with
  | done r => exact fun _ _ => trivial
  | read f k ih => exact fun r => ih r

theorem eval (hq : q.Returns P) {d : D} {n m : Nat} {a : α} (he : q.eval d n = (.ok a, m)) : P a := by
  induction q generalizing n with
  | done r => exact hq a (Prod.mk.inj he).1
  | read f k ih => exact ih _ (hq _) he

end Query.Returns

namespace Prog

variable {i : Bool} {p : Prog D X E α} {q : Query D E α} {h : α → Prog D X E β} {s s' : St D X}

/-- Running `p` from `s` ends with a result and a state that meet `Q`. -/
def wp (i : Bool) (p : Prog D X E α) (Q : Except E α → St D X → Prop) (s : St D X) : Prop :=
  Q (p.run i s).1 (p.run i s).2

section
variable {Q Q' : Except E α → St D X → Prop} {Q₂ : Except E β → St D X → Prop}

theorem wp_of_run {r : Except E α} (hp : p.wp i Q s) (hr : p.run i s = (r, s')) : Q r s' := by
  unfold wp at hp; rwa [hr] at hp

theorem wp_mono (hp : p.wp i Q s) (hQ : ∀ r s', Q r s' → Q' r s') : p.wp i Q' s :=
  hQ _ _ hp

theorem wp_clock (hp : p.wp i (fun r s' => s.clock ≤ s'.clock → Q r s') s) : p.wp i Q s :=
  hp (le_clock_run i p s)

theorem wp_and (hp : p.wp i Q s) (hp' : p.wp i Q' s) : p.wp i (fun r s' => Q r s' ∧ Q' r s') s :=
  ⟨hp, hp'⟩

theorem wp_bind (hp : p.wp i (fun r s' => match r with
    | .ok a => (h a).wp i Q₂ s'
    | .error e => Q₂ (.error e) s') s) : (p >>= h).wp i Q₂ s := by
  unfold wp at hp ⊢
  rw [run_bind]
  cases hr : p.run i s with
  | mk r s1 => rw [hr] at hp; cases r <;> exact hp

theorem wp_bind_run (herr : ∀ e s1, p.run i s = (.error e, s1) → Q₂ (.error e) s1)
    (hok : ∀ a s1, p.run i s = (.ok a, s1) → (h a).wp i Q₂ s1) : (p >>= h).wp i Q₂ s := by
  refine wp_bind ?_
  unfold wp
  cases hr : p.run i s with
  | mk r s1 =>
    cases r with
    | error e => exact herr e s1 hr
    | ok a => exact hok a s1 hr

theorem wp_state_bind {P : St D X → Prop} (hp : p.wp i (fun _ => P) s)
    (hh : ∀ a s', P s' → (h a).wp i (fun _ => P) s') : (p >>= h).wp i (fun _ => P) s := by
  refine wp_bind (wp_mono hp fun r s' hP => ?_)
  cases r with
  | ok a => exact hh a s' hP
  | error e => exact hP

theorem wp_query (hr : ∀ r n, q.eval s.db s.clock = (r, n) → Q r { s with clock := n }) :
    (liftM q : Prog D X E α).wp i Q s := by
  unfold wp
  rw [run_lift]
  exact hr _ _ rfl

theorem wp_query_bind
    (herr : ∀ e n, q.eval s.db s.clock = (.error e, n) → Q₂ (.error e) { s with clock := n })
    (hok : ∀ a n, q.eval s.db s.clock = (.ok a, n) → (h a).wp i Q₂ { s with clock := n }) :
    ((liftM q : Prog D X E α) >>= h).wp i Q₂ s := by
  refine wp_bind (wp_query fun r n hr => ?_)
  cases r with
  | error e => exact herr e n hr
  | ok a => exact hok a n hr

theorem wp_query_attempt_bind {h : Except E α → Prog D X E β}
    (hr : ∀ r n, q.eval s.db s.clock = (r, n) → (h r).wp i Q₂ { s with clock := n }) :
    ((liftM q.attempt : Prog D X E (Except E α)) >>= h).wp i Q₂ s := by
  refine wp_query_bind (fun e n he => ?_) fun r n he => ?_
  all_goals
    rw [Query.eval_attempt] at he
    cases he
  exact hr _ _ rfl

theorem wp_attempt {Q₁ : Except E (Except E α) → St D X → Prop}
    (hp : p.wp i (fun r s' => Q₁ (.ok r) s') s) : p.attempt.wp i Q₁ s := by
  unfold wp
  rw [run_attempt]
  exact hp

theorem wp_mapError {w : E → E} (hp : p.wp i (fun r s' => Q (r.mapError w) s') s) :
    (p.mapError w).wp i Q s := by
  unfold wp
  rw [run_mapError]
  exact hp

/-- An outermost transaction: the body succeeds and the commit goes through, or the store is put
back. -/
theorem wp_transact {commit : Nat → Option E}
    (hp : p.wp true (fun r s' =>
      (∀ a, r = .ok a → commit s'.clock = none →
        Q (.ok a) { s' with clock := s'.clock + 1, commits := s'.db :: s.commits }) ∧
      ((∀ a, r = .ok a → commit s'.clock ≠ none) →
        ∀ e n, Q (.error e) { s' with db := s.db, clock := n, commits := s.commits })) s) :
    (transact commit p).wp false Q s := by
  have hn := run_nested_commits p s
  unfold wp at hp ⊢
  rw [run_transact, settle]
  cases hr : p.run true s with
  | mk r s' =>
    rw [hr] at hp hn
    have hc : s'.commits = s.commits := hn
    cases r with
    | error e =>
      have h := hp.2 (fun _ ha => by cases ha) e s'.clock
      rw [← hc] at h
      exact h
    | ok a =>
      cases hcm : commit s'.clock with
      | none =>
        have h := hp.1 a rfl hcm
        simp only
        rw [hc]
        exact h
      | some e =>
        have h := hp.2 (fun _ _ h => by rw [hcm] at h; cases h) e (s'.clock + 1)
        simp only
        rw [hc]
        exact h

/-- A transaction whose body fails ends with the error of the body, and the store is put back. -/
theorem wp_transact_error {commit : Nat → Option E} {A : E → Prop}
    (hp : p.wp true (fun r _ => ∃ e, r = .error e ∧ A e) s) :
    (transact commit p).wp false (fun r s' => (∃ e, r = .error e ∧ A e) ∧ s'.db = s.db) s := by
  unfold wp at hp ⊢
  obtain ⟨e, he, hA⟩ := hp
  rw [run_transact, settle, he]
  exact ⟨⟨e, rfl, hA⟩, rfl⟩

end

end Prog

/-- However it is run, the program ends with an error only if the error meets `A`. -/
def Prog.Raises (A : E → Prop) (p : Prog D X E α) : Prop :=
  ∀ i s e, (p.run i s).1 = .error e → A e

namespace Prog.Raises

variable {A : E → Prop} {p : Prog D X E α} {h : α → Prog D X E β}

theorem pure (a : α) : (Pure.pure a : Prog D X E α).Raises A := fun _ _ _ he => by cases he

theorem throw {e : E} (he : A e) : (MonadExcept.throw e : Prog D X E α).Raises A := by
  intro i s e' h
  cases h
  exact he

theorem query {q : Query D E α} (hq : ∀ d n e, (q.eval d n).1 = .error e → A e) :
    (liftM q : Prog D X E α).Raises A := by
  intro i s e he
  rw [run_lift] at he
  exact hq _ _ _ he

theorem exec {f : Nat → D → Except E α × D} (hf : ∀ n d e, (f n d).1 = .error e → A e) :
    (Prog.exec f : Prog D X E α).Raises A :=
  fun _ _ _ he => hf _ _ _ he

theorem call {g : Nat → D → X → Except E α × X} (hg : ∀ n d x e, (g n d x).1 = .error e → A e) :
    (Prog.call g : Prog D X E α).Raises A :=
  fun _ _ _ he => hg _ _ _ _ he

theorem bind (hp : p.Raises A) (hh : ∀ a, (h a).Raises A) : (p >>= h).Raises A := by
  intro i s e he
  rw [run_bind] at he
  cases hr : p.run i s with
  | mk r s1 =>
    rw [hr] at he
    cases r with
    | ok a => exact hh a i s1 e he
    | error e' =>
      cases he
      exact hp i s e (congrArg Prod.fst hr)

theorem mapError {w : E → E} (hp : p.Raises fun e => A (w e)) : (p.mapError w).Raises A := by
  intro i s e he
  rw [run_mapError] at he
  cases hr : (p.run i s).1 with
  | ok a =>
    rw [hr] at he
    cases he
  | error e' =>
    rw [hr] at he
    cases he
    exact hp i s e' hr

theorem ite {c : Prop} [Decidable c] {p' : Prog D X E α} (hp : p.Raises A) (hp' : p'.Raises A) :
    (if c then p else p').Raises A := by
  split
  · exact hp
  · exact hp'

theorem transact {commit : Nat → Option E} (hp : p.Raises A) (hc : ∀ n e, commit n = some e → A e) :
    (Prog.transact commit p).Raises A := by
  intro i s e he
  cases i with
  | true => exact hp true s e he
  | false =>
    rw [run_transact, settle] at he
    cases hr : (p.run true s).1 with
    | error e' =>
      rw [hr] at he
      cases he
      exact hp true s e hr
    | ok a =>
      simp only [hr] at he
      cases hcommit : commit (p.run true s).2.clock with
      | none =>
        rw [hcommit] at he
        cases he
      | some e' =>
        rw [hcommit] at he
        cases he
        exact hc _ _ hcommit

end Prog.Raises

/-- What a move does to the store and the world. There is no new store if nothing is committed. -/
abbrev Effect (D X : Type) := D → X → Option D → X → Prop

/-- One move of a call: time passes, the world outside changes, or a store is committed. -/
inductive Tick (R : Effect D X) : St D X → St D X → Prop where
  | idle {s s' : St D X} : s'.db = s.db → s'.ext = s.ext → s'.commits = s.commits → Tick R s s'
  | world {s s' : St D X} : s'.db = s.db → s'.commits = s.commits → R s.db s.ext none s'.ext →
      Tick R s s'
  | commit {s s' : St D X} : R s.db s.ext (some s'.db) s'.ext → s'.commits = s'.db :: s.commits →
      Tick R s s'

theorem Tick.clock {R : Effect D X} {s s' : St D X} {n : Nat} (h : Tick R { s with clock := n } s') :
    Tick R s s' := by
  cases h with
  | idle hd hx hc => exact .idle hd hx hc
  | world hd hc hr => exact .world hd hc hr
  | commit hr hc => exact .commit hr hc

/-- `s'` is reached from `s` by moves that `R` allows. -/
abbrev Reach (R : Effect D X) : St D X → St D X → Prop := Relation.ReflTransGen (Tick R)

namespace Reach

variable {R R' : Effect D X} {s s' : St D X}

theorem mono (h : ∀ d x o x', R d x o x' → R' d x o x') (hs : Reach R s s') : Reach R' s s' := by
  refine Relation.ReflTransGen.mono (fun a b hab => ?_) _ _ hs
  cases hab with
  | idle hd hx hc => exact .idle hd hx hc
  | world hd hc hr => exact .world hd hc (h _ _ _ _ hr)
  | commit hr hc => exact .commit (h _ _ _ _ hr) hc

/-- An invariant of the store, the world and the commits that every allowed move preserves. -/
theorem induct {I : D → X → List D → Prop} (hs : Reach R s s')
    (h0 : I s.db s.ext s.commits)
    (hworld : ∀ d x l x', I d x l → R d x none x' → I d x' l)
    (hcommit : ∀ d x l d' x', I d x l → R d x (some d') x' → I d' x' (d' :: l)) :
    I s'.db s'.ext s'.commits := by
  induction hs with
  | refl => exact h0
  | tail _ hab ih =>
    cases hab with
    | idle hd hx hc => rw [hd, hx, hc]; exact ih
    | world hd hc hr => rw [hd, hc]; exact hworld _ _ _ _ ih hr
    | commit hr hc => rw [hc]; exact hcommit _ _ _ _ _ ih hr

end Reach

/-- Each committed store is related to all later ones and to the current one. -/
structure Ordered (R : D → D → Prop) (d : D) (l : List D) : Prop where
  latest : ∀ c ∈ l, R c d
  pairwise : l.Pairwise fun newer older => R older newer

theorem Ordered.nil {R : D → D → Prop} (d : D) : Ordered R d [] := ⟨nofun, .nil⟩

theorem Ordered.singleton {R : D → D → Prop} [Std.Refl R] (d : D) : Ordered R d [d] :=
  ⟨fun _ hc => List.mem_singleton.1 hc ▸ refl_of R d, List.pairwise_singleton _ _⟩

theorem Ordered.commit {R : D → D → Prop} [Std.Refl R] [IsTrans D R] {d d' : D} {l : List D}
    (h : Ordered R d l) (hd : R d d') : Ordered R d' (d' :: l) := by
  have hlatest : ∀ c ∈ l, R c d' := fun c hc => trans_of R (h.latest c hc) hd
  refine ⟨fun c hc => ?_, .cons hlatest h.pairwise⟩
  rcases List.mem_cons.1 hc with rfl | hc
  · exact refl c
  · exact hlatest c hc

namespace Prog

def Commits (R : Effect D X) (p : Prog D X E α) (s : St D X) : Prop :=
  Reach R s (p.run false s).2

namespace Commits

variable {R : Effect D X} {p : Prog D X E α} {q : Query D E α} {h : α → Prog D X E β} {s : St D X}

/-- A transaction commits what its body did if the body succeeds and the commit goes through.
Otherwise only the world has changed. -/
theorem transact {commit : Nat → Option E}
    (hok : ∀ a s', p.run true s = (.ok a, s') → commit s'.clock = none →
      R s.db s.ext (some s'.db) s'.ext)
    (herr : ∀ r s', p.run true s = (r, s') → (∀ a, r = .ok a → commit s'.clock ≠ none) →
      R s.db s.ext none s'.ext) :
    Commits R (transact commit p) s := by
  unfold Commits
  cases hr : (Prog.transact commit p).run false s with
  | mk r s' =>
    cases r with
    | ok a =>
      obtain ⟨s1, hb, hc, rfl⟩ := run_transact_ok hr
      exact .single (.commit (hok a s1 hb hc) rfl)
    | error e =>
      obtain ⟨hd, hx, hc⟩ := run_transact_error hr
      refine .single (.world hd hc ?_)
      rw [hx]
      refine herr _ _ rfl fun a ha hn => ?_
      -- a body that succeeds and a commit that goes through do not give an error
      rw [run_transact, settle, ha, hn] at hr
      cases hr

end Commits

end Prog

def Frame (R : D → D → Prop) (Q : X → X → Prop) : Effect D X :=
  fun d x o x' => (∀ d', o = some d' → R d d') ∧ Q x x'

theorem Frame.of_reach {R : D → D → Prop} {Q : X → X → Prop} [Std.Refl R] [Std.Refl Q] [IsTrans D R]
    [IsTrans X Q] {s s' : St D X} (h : Reach (Frame R Q) s s') : R s.db s'.db ∧ Q s.ext s'.ext := by
  refine h.induct (I := fun d x _ => R s.db d ∧ Q s.ext x) ⟨refl _, refl _⟩ ?_ ?_
  · intro d x _ x' hi hw
    exact ⟨hi.1, trans_of Q hi.2 hw.2⟩
  · intro d x _ d' x' hi hw
    exact ⟨trans_of R hi.1 (hw.1 d' rfl), trans_of Q hi.2 hw.2⟩

/-- Every statement of `p`, whatever the statements before it returned, changes the store by `R` or
the world by `Q`. -/
def Keeps (R : D → D → Prop) (Q : X → X → Prop) : {α : Type} → Prog D X E α → Prop
  | _, .done _ => True
  | _, .read _ k => ∀ r, Keeps R Q (k r)
  | _, .write f k => (∀ n d, R d (f n d).2) ∧ ∀ r, Keeps R Q (k r)
  | _, .ext g k => (∀ n d x, Q x (g n d x).2) ∧ ∀ r, Keeps R Q (k r)
  | _, .transaction _ b k => Keeps R Q b ∧ ∀ r, Keeps R Q (k r)

namespace Keeps

variable {R : D → D → Prop} {Q : X → X → Prop} {p : Prog D X E α} {h : α → Prog D X E β}

theorem pure (a : α) : Keeps R Q (pure a : Prog D X E α) := trivial

theorem throw (e : E) : Keeps R Q (throw e : Prog D X E α) := trivial

theorem query (q : Query D E α) : Keeps R Q (liftM q : Prog D X E α) := by
  change Keeps R Q (q.toProg : Prog D X E α)
  induction q with
  | done r => trivial
  | read f k ih => exact fun r => ih r

theorem exec {f : Nat → D → Except E α × D} (hf : ∀ n d, R d (f n d).2) :
    Keeps R Q (Prog.exec f : Prog D X E α) :=
  ⟨hf, fun _ => trivial⟩

theorem call {g : Nat → D → X → Except E α × X} (hg : ∀ n d x, Q x (g n d x).2) :
    Keeps R Q (Prog.call g : Prog D X E α) :=
  ⟨hg, fun _ => trivial⟩

theorem bind (hp : Keeps R Q p) (hh : ∀ a, Keeps R Q (h a)) : Keeps R Q (p >>= h) := by
  change Keeps R Q (p.bind h)
  induction p with
  | done r =>
    cases r with
    | ok a => exact hh a
    | error e => trivial
  | read f k ih => exact fun r => ih r (hp r) hh
  | write f k ih => exact ⟨hp.1, fun r => ih r (hp.2 r) hh⟩
  | ext g k ih => exact ⟨hp.1, fun r => ih r (hp.2 r) hh⟩
  | transaction c b k _ ih => exact ⟨hp.1, fun r => ih r (hp.2 r) hh⟩

theorem attempt (hp : Keeps R Q p) : Keeps R Q p.attempt := by
  induction p with
  | done r => trivial
  | read f k ih => exact fun r => ih r (hp r)
  | write f k ih => exact ⟨hp.1, fun r => ih r (hp.2 r)⟩
  | ext g k ih => exact ⟨hp.1, fun r => ih r (hp.2 r)⟩
  | transaction c b k _ ih => exact ⟨hp.1, fun r => ih r (hp.2 r)⟩

theorem mapError (w : E → E) (hp : Keeps R Q p) : Keeps R Q (p.mapError w) := by
  induction p with
  | done r => trivial
  | read f k ih => exact fun r => ih r (hp r)
  | write f k ih => exact ⟨hp.1, fun r => ih r (hp.2 r)⟩
  | ext g k ih => exact ⟨hp.1, fun r => ih r (hp.2 r)⟩
  | transaction c b k _ ih => exact ⟨hp.1, fun r => ih r (hp.2 r)⟩

theorem ite {c : Prop} [Decidable c] {p' : Prog D X E α} (hp : Keeps R Q p)
    (hp' : Keeps R Q p') : Keeps R Q (if c then p else p') := by
  split
  · exact hp
  · exact hp'

theorem mono {R' : D → D → Prop} {Q' : X → X → Prop} (hR : ∀ d d', R d d' → R' d d')
    (hQ : ∀ x x', Q x x' → Q' x x') (hp : Keeps R Q p) : Keeps R' Q' p := by
  induction p with
  | done r => trivial
  | read f k ih => exact fun r => ih r (hp r)
  | write f k ih => exact ⟨fun n d => hR _ _ (hp.1 n d), fun r => ih r (hp.2 r)⟩
  | ext g k ih => exact ⟨fun n d x => hQ _ _ (hp.1 n d x), fun r => ih r (hp.2 r)⟩
  | transaction c b k ihb ih => exact ⟨ihb hp.1, fun r => ih r (hp.2 r)⟩

theorem and {R' : D → D → Prop} {Q' : X → X → Prop} (hp : Keeps R Q p) (hp' : Keeps R' Q' p) :
    Keeps (fun d d' => R d d' ∧ R' d d') (fun x x' => Q x x' ∧ Q' x x') p := by
  induction p with
  | done r => trivial
  | read f k ih => exact fun r => ih r (hp r) (hp' r)
  | write f k ih => exact ⟨fun n d => ⟨hp.1 n d, hp'.1 n d⟩, fun r => ih r (hp.2 r) (hp'.2 r)⟩
  | ext g k ih => exact ⟨fun n d x => ⟨hp.1 n d x, hp'.1 n d x⟩, fun r => ih r (hp.2 r) (hp'.2 r)⟩
  | transaction c b k ihb ih => exact ⟨ihb hp.1 hp'.1, fun r => ih r (hp.2 r) (hp'.2 r)⟩

section

variable [Std.Refl R] [Std.Refl Q] [IsTrans D R] [IsTrans X Q]

theorem nested (hp : Keeps R Q p) (s : St D X) :
    R s.db (p.run true s).2.db ∧ Q s.ext (p.run true s).2.ext := by
  induction p generalizing s with
  | done r => exact ⟨refl_of R _, refl_of Q _⟩
  | read f k ih => exact ih _ (hp (f s.clock s.db)) { s with clock := s.clock + 1 }
  | write f k ih =>
    have h := ih _ (hp.2 (f s.clock s.db).1)
      { s with db := (f s.clock s.db).2, clock := s.clock + 1 }
    exact ⟨trans_of R (hp.1 _ _) h.1, h.2⟩
  | ext g k ih =>
    have h := ih _ (hp.2 (g s.clock s.db s.ext).1)
      { s with ext := (g s.clock s.db s.ext).2, clock := s.clock + 1 }
    exact ⟨h.1, trans_of Q (hp.1 _ _ _) h.2⟩
  | transaction c b k ihb ih =>
    have hb := ihb hp.1 s
    have h := ih _ (hp.2 (b.run true s).1) (b.run true s).2
    exact ⟨trans_of R hb.1 h.1, trans_of Q hb.2 h.2⟩

theorem commits (hp : Keeps R Q p) (s : St D X) : p.Commits (Frame R Q) s := by
  induction p generalizing s with
  | done r => exact .refl
  | read f k ih =>
    let s1 : St D X := { s with clock := s.clock + 1 }
    exact .head (b := s1) (.idle rfl rfl rfl) (ih _ (hp (f s.clock s.db)) s1)
  | write f k ih =>
    let s1 : St D X :=
      { s with
        db := (f s.clock s.db).2
        clock := s.clock + 1
        commits := (f s.clock s.db).2 :: s.commits }
    refine .head (b := s1) (.commit ⟨?_, refl_of Q _⟩ rfl) (ih _ (hp.2 (f s.clock s.db).1) s1)
    rintro _ ⟨⟩
    exact hp.1 _ _
  | ext g k ih =>
    let s1 : St D X := { s with ext := (g s.clock s.db s.ext).2, clock := s.clock + 1 }
    exact .head (b := s1) (.world rfl rfl ⟨nofun, hp.1 _ _ _⟩)
      (ih _ (hp.2 (g s.clock s.db s.ext).1) s1)
  | transaction c b k _ ih =>
    have hb := nested hp.1 s
    have htx : (Prog.transact c b).Commits (Frame R Q) s := by
      refine .transact (fun a s' hr _ => ?_) fun r s' hr _ => ?_
      all_goals rw [hr] at hb
      · exact ⟨by rintro _ ⟨⟩; exact hb.1, hb.2⟩
      · exact ⟨nofun, hb.2⟩
    exact htx.trans (ih _ (hp.2 _) _)

theorem run (hp : Keeps R Q p) {i : Bool} {s s' : St D X} {r : Except E α}
    (hr : p.run i s = (r, s')) : R s.db s'.db ∧ Q s.ext s'.ext := by
  cases i with
  | true => have h := hp.nested s; rwa [hr] at h
  | false =>
    have h := hp.commits s
    unfold Prog.Commits at h
    rw [hr] at h
    exact Frame.of_reach h

theorem wp (hp : Keeps R Q p) {i : Bool} {s : St D X} :
    p.wp i (fun _ s' => R s.db s'.db ∧ Q s.ext s'.ext) s :=
  hp.run (Prod.eta _).symm

end

end Keeps

/-- `s'` is reached from `s` by calls run one after the other, each allowed in the state it finds. -/
def Runs {C : Type} (prog : C → Prog D X E α) (allowed : C → St D X → Prop) :
    St D X → St D X → Prop :=
  Relation.ReflTransGen fun s s' => ∃ c, allowed c s ∧ s' = ((prog c).run false s).2

namespace Runs

variable {C : Type} {prog : C → Prog D X E α} {allowed : C → St D X → Prop} {s s' : St D X}

/-- An invariant that every allowed call preserves holds after every sequence of calls. -/
theorem induct {I : St D X → Prop} (hrun : Runs prog allowed s s') (h0 : I s)
    (hstep : ∀ c s, allowed c s → I s → I ((prog c).run false s).2) : I s' := by
  induction hrun with
  | refl => exact h0
  | tail _ hc ih =>
    obtain ⟨c, ha, rfl⟩ := hc
    exact hstep c _ ha ih

def afterAll (prog : C → Prog D X E α) (calls : List C) (s : St D X) : St D X :=
  calls.foldl (fun s c => ((prog c).run false s).2) s

/-- Every call of a list is allowed in the state it finds. -/
def Along (prog : C → Prog D X E α) (allowed : C → St D X → Prop) : List C → St D X → Prop
  | [], _ => True
  | c :: cs, s => allowed c s ∧ Along prog allowed cs ((prog c).run false s).2

theorem of_along {calls : List C} (h : Along prog allowed calls s) :
    Runs prog allowed s (afterAll prog calls s) := by
  induction calls generalizing s with
  | nil => exact .refl
  | cons c cs ih => exact .head ⟨c, h.1, rfl⟩ (ih h.2)

end Runs

export Prog (wp_bind wp_query_bind wp_mono wp_mapError wp_state_bind wp_of_run wp_bind_run wp_attempt)

end Tx
end Cmk
