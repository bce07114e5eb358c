import Cmk.Tx.Thread

/-!
# Cmk.Tx.Steady

Calls whose transactions may be interrupted. What such a call does depends on what it read, and the
others may have committed since; so the rules here are about stores that agree with those it read.

* `Steady I p Q` — every write of `p` keeps `I`, also when a commit replays it, as long as the
  statements of `p` find committed stores that meet `I`. `Q` holds of the result.
* `Yields I p P` — the same, for a value that is returned.
* `Minds J A p`  — the commits of `p` are changes by `A`; its transactions are steady.
* `Pool.Undisturbed` — an observed value is, at every statement of the calls `B`, the one that the
  statement before it left.
* `Pool.undisturbed` — the run lemma: what each step does in such an interleaving.
* `Pool.lastStore`   — the store committed last by calls of one kind.
-/

namespace Cmk
namespace Tx

variable {D X E α β γ : Type}

/-- What a query returns if it finds stores that meet `I`. -/
def Query.Finds (I : D → Prop) (P : α → Prop) : Query D E α → Prop
  | .done r => ∀ a, r = .ok a → P a
  | .read f k => ∀ n d, I d → Finds I P (k (f n d))

namespace Query.Finds

variable {I : D → Prop} {P : α → Prop} {q : Query D E α}

theorem ask {f : Nat → D → Except E α} (hf : ∀ n d a, I d → f n d = .ok a → P a) :
    (Query.ask f).Finds I P :=
  fun n d hd a ha => hf n d a hd ha

theorem any (q : Query D E α) : q.Finds I fun _ => True := by
  induction q with
  | done r => exact fun _ _ => trivial
  | read f k ih => exact fun n d _ => ih _

theorem mapError (hq : q.Finds I P) (w : E → E) : (q.mapError w).Finds I P := by
  induction q with
  | done r =>
    intro a ha
    cases r with
    | error e => cases ha
    | ok b => exact hq a (by cases ha; rfl)
  | read f k ih => exact fun n d hd => ih _ (hq n d hd)

theorem attempt (hq : q.Finds I P) : q.attempt.Finds I fun r => ∀ a, r = .ok a → P a := by
  induction q with
  | done r =>
    rintro _ ⟨⟩
    exact hq
  | read f k ih => exact fun n d hd => ih _ (hq n d hd)

theorem bind {P' : β → Prop} {h : α → Query D E β} (hq : q.Finds I P)
    (hh : ∀ a, P a → (h a).Finds I P') : (q >>= h).Finds I P' := by
  change (q.bind h).Finds I P'
  induction q with
  | done r =>
    cases r with
    | error e => exact fun _ ha => by cases ha
    | ok a => exact hh a (hq a rfl)
  | read f k ih => exact fun n d hd => ih _ (hq n d hd)

end Query.Finds

namespace Prog

/-- The writes of the program keep `I` if its statements find stores that meet `I`. -/
def Steady (I : D → Prop) : {α : Type} → Prog D X E α → (Except E α → Prop) → Prop
  | _, .done r, Q => Q r
  | _, .read f k, Q => ∀ n d, I d → Steady I (k (f n d)) Q
  | _, .write f k, Q => ∀ n d, I d → I (f n d).2 ∧ Steady I (k (f n d).1) Q
  | _, .ext g k, Q => ∀ n d x, I d → Steady I (k (g n d x).1) Q
  -- whatever the body returned, the commit may fail
  | _, .transaction _ b k, Q =>
    Steady I b fun r => Steady I (k r) Q ∧ ∀ e, Steady I (k (.error e)) Q

namespace Steady

variable {I : D → Prop} {p : Prog D X E α} {h : α → Prog D X E β}

theorem mono {Q Q' : Except E α → Prop} (hp : Steady I p Q) (hQ : ∀ r, Q r → Q' r) :
    Steady I p Q' := by
  induction p with
  | done r => exact hQ _ hp
  | read f k ih => exact fun n d hd => ih _ (hp n d hd) hQ
  | write f k ih => exact fun n d hd => ⟨(hp n d hd).1, ih _ (hp n d hd).2 hQ⟩
  | ext g k ih => exact fun n d x hd => ih _ (hp n d x hd) hQ
  | transaction c b k ihb ih =>
    exact ihb hp fun r hr => ⟨ih _ hr.1 hQ, fun e => ih _ (hr.2 e) hQ⟩

theorem bind {Q : Except E β → Prop} (hp : Steady I p fun r => match r with
    | .ok a => Steady I (h a) Q
    | .error e => Q (.error e)) : Steady I (p >>= h) Q := by
  change Steady I (p.bind h) Q
  induction p with
  | done r => cases r <;> exact hp
  | read f k ih => exact fun n d hd => ih _ (hp n d hd)
  | write f k ih => exact fun n d hd => ⟨(hp n d hd).1, ih _ (hp n d hd).2⟩
  | ext g k ih => exact fun n d x hd => ih _ (hp n d x hd)
  | transaction c b k _ ih =>
    exact mono (p := b) hp fun r hr => ⟨ih _ hr.1, fun e => ih _ (hr.2 e)⟩

theorem attempt {Q : Except E (Except E α) → Prop} (hp : Steady I p fun r => Q (.ok r)) :
    Steady I p.attempt Q := by
  induction p with
  | done r => exact hp
  | read f k ih => exact fun n d hd => ih _ (hp n d hd)
  | write f k ih => exact fun n d hd => ⟨(hp n d hd).1, ih _ (hp n d hd).2⟩
  | ext g k ih => exact fun n d x hd => ih _ (hp n d x hd)
  | transaction c b k _ ih =>
    exact mono (p := b) hp fun r hr => ⟨ih _ hr.1, fun e => ih _ (hr.2 e)⟩

theorem mapError {w : E → E} {Q : Except E α → Prop} (hp : Steady I p fun r => Q (r.mapError w)) :
    Steady I (p.mapError w) Q := by
  induction p with
  | done r => exact hp
  | read f k ih => exact fun n d hd => ih _ (hp n d hd)
  | write f k ih => exact fun n d hd => ⟨(hp n d hd).1, ih _ (hp n d hd).2⟩
  | ext g k ih => exact fun n d x hd => ih _ (hp n d x hd)
  | transaction c b k _ ih =>
    exact mono (p := b) hp fun r hr => ⟨ih _ hr.1, fun e => ih _ (hr.2 e)⟩

theorem keeps {R : D → D → Prop} {Q : X → X → Prop} (hp : Keeps R Q p)
    (hI : ∀ d d', I d → R d d' → I d') : Steady I p fun _ => True := by
  induction p with
  | done r => trivial
  | read f k ih => exact fun n d _ => ih _ (hp _)
  | write f k ih => exact fun n d hd => ⟨hI _ _ hd (hp.1 n d), ih _ (hp.2 _)⟩
  | ext g k ih => exact fun n d x _ => ih _ (hp.2 _)
  | transaction c b k ihb ih =>
    exact (ihb hp.1).mono fun r _ => ⟨ih _ (hp.2 _), fun e => ih _ (hp.2 _)⟩

end Steady

/-- A steady program that returns a value that meets `P`, or fails. -/
abbrev Yields (I : D → Prop) (p : Prog D X E α) (P : α → Prop) : Prop :=
  p.Steady I fun r => ∀ a, r = .ok a → P a

namespace Yields

variable {I : D → Prop} {P : α → Prop} {P' : β → Prop} {p : Prog D X E α} {h : α → Prog D X E β}

theorem any (hp : p.Steady I fun _ => True) : p.Yields I fun _ => True :=
  hp.mono fun _ _ _ _ => trivial

theorem mono {P₁ : α → Prop} (hp : p.Yields I P) (hP : ∀ a, P a → P₁ a) : p.Yields I P₁ :=
  Steady.mono hp fun _ hr a ha => hP a (hr a ha)

theorem pure {a : α} (ha : P a) : (Pure.pure a : Prog D X E α).Yields I P := by
  rintro _ ⟨⟩
  exact ha

theorem throw (e : E) : (MonadExcept.throw e : Prog D X E α).Yields I P := by
  rintro _ ⟨⟩

theorem query {q : Query D E α} (hq : q.Finds I P) : (liftM q : Prog D X E α).Yields I P := by
  change (q.toProg : Prog D X E α).Yields I P
  induction q with
  | done r => exact hq
  | read f k ih => exact fun n d hd => ih _ (hq n d hd)

theorem exec {f : Nat → D → Except E α × D}
    (hf : ∀ n d, I d → I (f n d).2 ∧ ∀ a, (f n d).1 = .ok a → P a) :
    (Prog.exec f : Prog D X E α).Yields I P := hf

theorem call (g : Nat → D → X → Except E α × X) : (Prog.call g).Yields I fun _ => True :=
  fun _ _ _ _ _ _ => trivial

theorem bind (hp : p.Yields I P) (hh : ∀ a, P a → (h a).Yields I P') : (p >>= h).Yields I P' := by
  refine Steady.bind (Steady.mono hp fun r hr => ?_)
  cases r with
  | error e => rintro _ ⟨⟩
  | ok a => exact hh a (hr a rfl)

theorem attempt (hp : p.Yields I P) : p.attempt.Yields I fun r => ∀ a, r = .ok a → P a := by
  refine Steady.attempt (Steady.mono hp fun r hr => ?_)
  rintro _ ⟨⟩
  exact hr

theorem mapError (w : E → E) (hp : p.Yields I P) : (p.mapError w).Yields I P := by
  refine Steady.mapError (Steady.mono hp fun r hr a ha => ?_)
  cases r with
  | error e => cases ha
  | ok b => exact hr a (by cases ha; rfl)

theorem ite {c : Prop} [Decidable c] {p' : Prog D X E α} (hp : p.Yields I P)
    (hp' : p'.Yields I P) : (if c then p else p').Yields I P := by
  split
  · exact hp
  · exact hp'

theorem transact {commit : Nat → Option E} (hp : p.Yields I P) :
    (Prog.transact commit p).Yields I P := by
  unfold Prog.transact Yields Steady
  refine Steady.mono hp fun r hr => ⟨hr, fun e => ?_⟩
  rintro _ ⟨⟩

end Yields

/-- The commits of the program are changes by `A`: each of its transactions keeps `J v`, where `v` is
the value observed while it is open. -/
def Minds (J : γ → D → Prop) (A : D → D → Prop) : {α : Type} → Prog D X E α → Prop
  | _, .done _ => True
  | _, .read _ k => ∀ r, Minds J A (k r)
  | _, .write f k => (∀ n d, A d (f n d).2) ∧ ∀ r, Minds J A (k r)
  | _, .ext _ k => ∀ r, Minds J A (k r)
  | _, .transaction _ b k => (∀ v, b.Steady (J v) fun _ => True) ∧ ∀ r, Minds J A (k r)

namespace Minds

variable {J : γ → D → Prop} {A : D → D → Prop} {p : Prog D X E α} {h : α → Prog D X E β}

theorem bind (hp : Minds J A p) (hh : ∀ a, Minds J A (h a)) : Minds J A (p >>= h) := by
  change Minds J A (p.bind h)
  induction p with
  | done r =>
    cases r with
    | error e => trivial
    | ok a => exact hh a
  | read f k ih => exact fun r => ih r (hp r) hh
  | write f k ih => exact ⟨hp.1, fun r => ih r (hp.2 r) hh⟩
  | ext g k ih => exact fun r => ih r (hp r) hh
  | transaction c b k _ ih => exact ⟨hp.1, fun r => ih r (hp.2 r) hh⟩

theorem mapError (w : E → E) (hp : Minds J A p) : Minds J A (p.mapError w) := by
  induction p with
  | done r => trivial
  | read f k ih => exact fun r => ih r (hp r)
  | write f k ih => exact ⟨hp.1, fun r => ih r (hp.2 r)⟩
  | ext g k ih => exact fun r => ih r (hp r)
  | transaction c b k _ ih => exact ⟨hp.1, fun r => ih r (hp.2 r)⟩

theorem transact {commit : Nat → Option E} (hp : ∀ v, p.Steady (J v) fun _ => True) :
    Minds J A (Prog.transact commit p) :=
  ⟨hp, fun _ => trivial⟩

theorem keeps {R : D → D → Prop} {Q : X → X → Prop} (hp : Keeps R Q p)
    (hA : ∀ d d', R d d' → A d d') (hJ : ∀ v d d', J v d → R d d' → J v d') : Minds J A p := by
  induction p with
  | done r => trivial
  | read f k ih => exact fun r => ih r (hp r)
  | write f k ih => exact ⟨fun n d => hA _ _ (hp.1 n d), fun r => ih r (hp.2 r)⟩
  | ext g k ih => exact fun r => ih r (hp.2 r)
  | transaction c b k _ ih => exact ⟨fun v => .keeps hp.1 (hJ v), fun r => ih r (hp.2 r)⟩

end Minds

end Prog

namespace Thread

variable {I : D → Prop} {t : Thread D X E} {st : St D X}

theorem step_db (h : (t.step st).2.commits.length = st.commits.length) :
    (t.step st).2.db = st.db := by
  cases t with
  | top seen p =>
    cases p with
    | write f k => simp [step] at h
    | _ => rfl
  | tx seen c body log k =>
    cases body with
    | done r =>
      cases r with
      | error e => rfl
      | ok a =>
        simp only [step] at h ⊢
        split at h
        · rfl
        · simp at h
    | _ => rfl

def Steady (I : D → Prop) : Thread D X E → Prop
  | .top _ p => p.Steady I fun _ => True
  | .tx _ _ body log k => (∀ d, I d → I (log d)) ∧ body.Steady I fun r =>
      (k r).Steady I (fun _ => True) ∧ ∀ e, (k (.error e)).Steady I fun _ => True

theorem Steady.step (ht : t.Steady I) (hI : I st.db) :
    (t.step st).1.Steady I ∧ I (t.step st).2.db := by
  cases t with
  | top seen p =>
    cases p with
    | done r => exact ⟨ht, hI⟩
    | read f k => exact ⟨ht _ _ hI, hI⟩
    | write f k => exact ⟨(ht _ _ hI).2, (ht _ _ hI).1⟩
    | ext g k => exact ⟨ht _ _ st.ext hI, hI⟩
    | transaction c b k => exact ⟨⟨fun _ hd => hd, ht⟩, hI⟩
  | tx seen c body log k =>
    obtain ⟨hlog, hbody⟩ := ht
    cases body with
    | done r =>
      cases r with
      | error e => exact ⟨hbody.1, hI⟩
      | ok a =>
        simp only [Thread.step]
        split
        · exact ⟨hbody.2 _, hI⟩
        · exact ⟨hbody.1, hlog _ hI⟩
    | read f k' => exact ⟨⟨hlog, hbody _ _ (hlog _ hI)⟩, hI⟩
    | write f k' =>
      exact ⟨⟨fun d hd => (hbody _ _ (hlog d hd)).1, (hbody _ _ (hlog _ hI)).2⟩, hI⟩
    | ext g k' => exact ⟨⟨hlog, hbody _ _ st.ext (hlog _ hI)⟩, hI⟩
    | transaction c' b k' =>
      refine ⟨⟨hlog, Prog.Steady.bind (Prog.Steady.attempt (Prog.Steady.mono hbody ?_))⟩, hI⟩
      exact fun r hr => hr.1

def Keeping (R : D → D → Prop) (Q : X → X → Prop) : Thread D X E → Prop
  | .top _ p => Keeps R Q p
  | .tx _ _ body log k => (∀ d, R d (log d)) ∧ Keeps R Q body ∧ ∀ r, Keeps R Q (k r)

theorem Keeping.step {R : D → D → Prop} {Q : X → X → Prop} [Std.Refl R] [IsTrans D R]
    (ht : t.Keeping R Q) : (t.step st).1.Keeping R Q ∧ R st.db (t.step st).2.db := by
  cases t with
  | top seen p =>
    cases p with
    | done r => exact ⟨trivial, refl_of R _⟩
    | read f k => exact ⟨ht _, refl_of R _⟩
    | write f k => exact ⟨ht.2 _, ht.1 _ _⟩
    | ext g k => exact ⟨ht.2 _, refl_of R _⟩
    | transaction c b k => exact ⟨⟨fun d => refl_of R d, ht⟩, refl_of R _⟩
  | tx seen c body log k =>
    obtain ⟨hlog, hbody, hk⟩ := ht
    cases body with
    | done r =>
      cases r with
      | error e => exact ⟨hk _, refl_of R _⟩
      | ok a =>
        simp only [Thread.step]
        split
        · exact ⟨hk _, refl_of R _⟩
        · exact ⟨hk _, hlog _⟩
    | read f k' => exact ⟨⟨hlog, hbody _, hk⟩, refl_of R _⟩
    | write f k' =>
      exact ⟨⟨fun d => trans_of R (hlog d) (hbody.1 _ _), hbody.2 _, hk⟩, refl_of R _⟩
    | ext g k' => exact ⟨⟨hlog, hbody.2 _, hk⟩, refl_of R _⟩
    | transaction c' b k' =>
      exact ⟨⟨hlog, hbody.1.attempt.bind hbody.2, hk⟩, refl_of R _⟩

/-- A call that minds `J`; `last` is the value observed after its last statement. -/
def Minds (J : γ → D → Prop) (A : D → D → Prop) (last : Option γ) : Thread D X E → Prop
  | .top _ p => p.Minds J A
  | .tx _ _ body log k => ∃ v, last = some v ∧ (∀ d, J v d → J v (log d)) ∧
      body.Steady (J v) (fun _ => True) ∧ ∀ r, (k r).Minds J A

theorem Minds.step {J : γ → D → Prop} {A : D → D → Prop} [Std.Refl A] (col : D → γ)
    {last : Option γ} (ht : t.Minds J A last) (hlast : ∀ v ∈ last, col st.db = v)
    (hJ : ∀ d, J (col d) d) (hA : ∀ d d', J (col d) d' → A d d') :
    (t.step st).1.Minds J A (some (col (t.step st).2.db)) ∧ A st.db (t.step st).2.db := by
  cases t with
  | top seen p =>
    cases p with
    | done r => exact ⟨trivial, refl_of A _⟩
    | read f k => exact ⟨ht _, refl_of A _⟩
    | write f k => exact ⟨ht.2 _, ht.1 _ _⟩
    | ext g k => exact ⟨ht _, refl_of A _⟩
    | transaction c b k => exact ⟨⟨_, rfl, fun _ hd => hd, ht.1 _, ht.2⟩, refl_of A _⟩
  | tx seen c body log k =>
    obtain ⟨v, rfl, hlog, hbody, hk⟩ := ht
    obtain rfl := hlast v rfl
    have hview : J (col st.db) (log st.db) := hlog _ (hJ _)
    cases body with
    | done r =>
      cases r with
      | error e => exact ⟨hk _, refl_of A _⟩
      | ok a =>
        simp only [Thread.step]
        split
        · exact ⟨hk _, refl_of A _⟩
        · exact ⟨hk _, hA _ _ hview⟩
    | read f k' => exact ⟨⟨_, rfl, hlog, hbody _ _ hview, hk⟩, refl_of A _⟩
    | write f k' =>
      exact ⟨⟨_, rfl, fun d hd => (hbody _ _ (hlog d hd)).1, (hbody _ _ hview).2, hk⟩, refl_of A _⟩
    | ext g k' => exact ⟨⟨_, rfl, hlog, hbody _ _ st.ext hview, hk⟩, refl_of A _⟩
    | transaction c' b k' =>
      refine ⟨⟨_, rfl, hlog, Prog.Steady.bind (Prog.Steady.attempt (Prog.Steady.mono hbody ?_)), hk⟩,
        refl_of A _⟩
      exact fun r hr => hr.1

end Thread

namespace Pool

variable {ι : Type} [DecidableEq ι] {col : D → γ} {B : ι → Prop}

/-- At every statement of a call in `B`, the observed value is the one its last statement left. -/
def Undisturbed (col : D → γ) (B : ι → Prop) :
    Pool ι D X E → (ι → Option γ) → List ι → Prop
  | _, _, [] => True
  | c, last, i :: is => (B i → ∀ v ∈ last i, col c.st.db = v) ∧
      Undisturbed col B (c.step i) (Function.update last i (some (col (c.step i).st.db))) is

instance Undisturbed.decidable [DecidableEq γ] [DecidablePred B] (c : Pool ι D X E)
    (last : ι → Option γ) (schedule : List ι) : Decidable (Undisturbed col B c last schedule) :=
  match schedule with
  | [] => .isTrue trivial
  | i :: is => @instDecidableAnd _ _ inferInstance (Undisturbed.decidable (c.step i) _ is)

theorem undisturbed (Inv : ι → Option γ → Thread D X E → Prop) (G : ι → D → D → Prop)
    (hstep : ∀ i last t st, Inv i last t → (B i → ∀ v ∈ last, col st.db = v) →
      Inv i (some (col (t.step st).2.db)) (t.step st).1 ∧ G i st.db (t.step st).2.db)
    {schedule : List ι} {c : Pool ι D X E} {last : ι → Option γ}
    (hinv : ∀ i, Inv i (last i) (c.threads i)) (h : Undisturbed col B c last schedule) :
    Along (fun c i => G i c.st.db (c.step i).st.db) c schedule := by
  induction schedule generalizing c last with
  | nil => trivial
  | cons i is ih =>
    obtain ⟨hinv', hG⟩ := hstep i (last i) (c.threads i) c.st (hinv i) h.1
    refine ⟨hG, ih (fun j => ?_) h.2⟩
    by_cases hj : j = i
    · subst hj
      simpa only [Pool.step, Function.update_self] using hinv'
    · simpa only [Pool.step, Function.update_of_ne hj] using hinv j

/-- The store committed last by a call in `P`, or `d` if there is none. -/
def lastStore (P : ι → Prop) [DecidablePred P] : Pool ι D X E → D → List ι → D
  | _, d, [] => d
  | c, d, i :: is => lastStore P (c.step i)
      (if P i ∧ (c.step i).st.commits.length ≠ c.st.commits.length then (c.step i).st.db else d) is

/-- What the other calls keep is at the end as the last commit of a call in `P` left it. -/
theorem lastStore_kept {P : ι → Prop} [DecidablePred P] {R : D → D → Prop} [Std.Refl R]
    [IsTrans D R] {schedule : List ι} {c : Pool ι D X E} {d : D} (hd : R d c.st.db)
    (h : Along (fun c i => ¬ P i → R c.st.db (c.step i).st.db) c schedule) :
    R (lastStore P c d schedule) (c.steps schedule).st.db := by
  induction schedule generalizing c d with
  | nil => exact hd
  | cons i is ih =>
    refine ih ?_ h.2
    split
    · exact refl_of R _
    · rename_i hlast
      by_cases hP : P i
      · have hdb : (c.step i).st.db = c.st.db :=
          Thread.step_db (not_not.1 fun hne => hlast ⟨hP, hne⟩)
        exact hdb ▸ hd
      · exact trans_of R hd (h.1 hP)

end Pool

end Tx
end Cmk
