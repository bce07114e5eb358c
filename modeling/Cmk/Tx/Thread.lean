import Mathlib.Logic.Function.Basic
import Mathlib.Data.Fintype.Basic
import Cmk.Tx.Rules

/-!
# Cmk.Tx.Thread

Calls that interleave. Each call is a thread that executes its program one statement at a time on a
shared state, under READ COMMITTED: a transaction buffers its writes, its reads see the committed
store with its own writes on top, and a commit replays the writes on whatever is committed by then.
Nothing is locked.

* `Thread.step`, `Pool.step` — one statement of a call, and of a pool of calls.
* `Orderly`  — a step that does not interrupt the transaction of another call, and begins a
  transaction only if a condition on what the call has read before and what is committed now holds.
* `Obeys`    — the rule for one program: whatever the others commit between its statements, every
  move it makes is allowed, provided its transactions begin as `Orderly` says.
* `Pool.sound` — if every program of a pool obeys its rule, an orderly interleaving only makes moves
  that are allowed.
-/

namespace Cmk
namespace Tx

variable {D X E α β : Type}

/-- A call in progress. `seen` are the stores it has read outside of transactions, newest first. -/
inductive Thread (D X E : Type) : Type 1 where
  | top (seen : List D) (p : Prog D X E Unit)
  /-- In a transaction; `log` are the writes it has made. -/
  | tx {β : Type} (seen : List D) (commit : Nat → Option E) (body : Prog D X E β) (log : D → D)
      (k : Except E β → Prog D X E Unit)

namespace Thread

/-- Is a transaction open? -/
def inTx : Thread D X E → Bool
  | .top _ _ => false
  | .tx _ _ _ _ _ => true

/-- The call has returned. -/
def Ended (t : Thread D X E) : Prop := ∃ seen r, t = .top seen (.done r)

/-- What was read before, if the next statement begins a transaction. -/
def begins : Thread D X E → Option (List D)
  | .top seen (.transaction _ _ _) => some seen
  | _ => none

def step : Thread D X E → St D X → Thread D X E × St D X
  | .top seen (.done r), s => (.top seen (.done r), s)
  | .top seen (.read f k), s =>
    (.top (s.db :: seen) (k (f s.clock s.db)), { s with clock := s.clock + 1 })
  | .top seen (.write f k), s =>
    (.top seen (k (f s.clock s.db).1),
      { s with
        db := (f s.clock s.db).2
        clock := s.clock + 1
        commits := (f s.clock s.db).2 :: s.commits })
  | .top seen (.ext g k), s =>
    (.top seen (k (g s.clock s.db s.ext).1),
      { s with ext := (g s.clock s.db s.ext).2, clock := s.clock + 1 })
  | .top seen (.transaction c b k), s => (.tx seen c b id k, s)
  | .tx seen c (.done r) log k, s =>
    match r with
    | .error e => (.top seen (k (.error e)), s)
    | .ok a =>
      match c s.clock with
      | some e => (.top seen (k (.error e)), { s with clock := s.clock + 1 })
      | none =>
        (.top seen (k (.ok a)),
          { s with db := log s.db, clock := s.clock + 1, commits := log s.db :: s.commits })
  | .tx seen c (.read f k') log k, s =>
    (.tx seen c (k' (f s.clock (log s.db))) log k, { s with clock := s.clock + 1 })
  | .tx seen c (.write f k') log k, s =>
    (.tx seen c (k' (f s.clock (log s.db)).1) (fun d => (f s.clock (log d)).2) k,
      { s with clock := s.clock + 1 })
  | .tx seen c (.ext g k') log k, s =>
    (.tx seen c (k' (g s.clock (log s.db) s.ext).1) log k,
      { s with ext := (g s.clock (log s.db) s.ext).2, clock := s.clock + 1 })
  -- a nested transaction is only its body
  | .tx seen c (.transaction _ b k') log k, s => (.tx seen c (b.attempt.bind k') log k, s)

end Thread

structure Pool (ι D X E : Type) where
  threads : ι → Thread D X E
  st : St D X

namespace Pool

variable {ι : Type} [DecidableEq ι]

def start (prog : ι → Prog D X E Unit) (s : St D X) : Pool ι D X E := ⟨fun i => .top [] (prog i), s⟩

def step (c : Pool ι D X E) (i : ι) : Pool ι D X E where
  threads := Function.update c.threads i ((c.threads i).step c.st).1
  st := ((c.threads i).step c.st).2

def steps (c : Pool ι D X E) (schedule : List ι) : Pool ι D X E := schedule.foldl step c

/-- Call `i` may execute its next statement: no other call has a transaction open, and if it begins
one, `B i` holds of what it has read and of the committed store. -/
def Orderly (B : ι → List D → D → Prop) (c : Pool ι D X E) (i : ι) : Prop :=
  (∀ j, j ≠ i → (c.threads j).inTx = false) ∧
    ∀ seen, (c.threads i).begins = some seen → B i seen c.st.db

/-- Interleavings in which every step meets a condition. -/
def Interleaved (allowed : Pool ι D X E → ι → Prop) : Pool ι D X E → Pool ι D X E → Prop :=
  Relation.ReflTransGen fun c c' => ∃ i, allowed c i ∧ c' = c.step i

theorem Interleaved.mono {allowed allowed' : Pool ι D X E → ι → Prop} {c c' : Pool ι D X E}
    (h : Interleaved allowed c c') (himp : ∀ c i, allowed c i → allowed' c i) :
    Interleaved allowed' c c' := by
  induction h with
  | refl => exact .refl
  | tail _ hstep ih =>
    obtain ⟨i, hi, hc⟩ := hstep
    exact ih.tail ⟨i, himp _ i hi, hc⟩

def Along (allowed : Pool ι D X E → ι → Prop) : Pool ι D X E → List ι → Prop
  | _, [] => True
  | c, i :: is => allowed c i ∧ Along allowed (c.step i) is

theorem Along.mono {allowed allowed' : Pool ι D X E → ι → Prop} {c : Pool ι D X E}
    {schedule : List ι} (h : Along allowed c schedule) (himp : ∀ c i, allowed c i → allowed' c i) :
    Along allowed' c schedule := by
  induction schedule generalizing c with
  | nil => trivial
  | cons i is ih => exact ⟨himp c i h.1, ih h.2⟩

theorem Along.interleaved {allowed : Pool ι D X E → ι → Prop} {c : Pool ι D X E}
    {schedule : List ι} (h : Along allowed c schedule) : Interleaved allowed c (c.steps schedule) := by
  induction schedule generalizing c with
  | nil => exact .refl
  | cons i is ih => exact .head ⟨i, h.1, rfl⟩ (ih h.2)

instance Along.decidable {allowed : Pool ι D X E → ι → Prop} [∀ c i, Decidable (allowed c i)]
    (c : Pool ι D X E) (schedule : List ι) : Decidable (Along allowed c schedule) :=
  match schedule with
  | [] => .isTrue trivial
  | i :: is => @instDecidableAnd _ _ _ (Along.decidable (c.step i) is)

instance [Fintype ι] {B : ι → List D → D → Prop} [∀ i seen d, Decidable (B i seen d)]
    (c : Pool ι D X E) (i : ι) : Decidable (Orderly B c i) :=
  @instDecidableAnd _ _ _ <|
    match (c.threads i).begins with
    | none => .isTrue nofun
    | some seen => decidable_of_iff (B i seen c.st.db) (by simp)

end Pool

def Query.One (q : Query D E α) : Prop :=
  ∃ (γ : Type) (f : Nat → D → Except E γ) (k : Except E γ → Except E α), q = .read f fun r => .done (k r)

theorem Query.One.ask (f : Nat → D → Except E α) : (Query.ask f).One := ⟨α, f, fun r => r, rfl⟩

theorem Query.One.mapError {q : Query D E α} (hq : q.One) (w : E → E) : (q.mapError w).One := by
  obtain ⟨γ, f, k, rfl⟩ := hq
  exact ⟨γ, f, fun r => (k r).mapError w, rfl⟩

namespace Prog

/-- Every move of the program is allowed by `R`, if its statements find stores that meet `I` and its
transactions begin under `B`. `Q` holds at the end, of what was read and returned. -/
def Obeys (I : D → Prop) (B : List D → D → Prop) (R : Effect D X) :
    {α : Type} → List D → Prog D X E α → (List D → Except E α → Prop) → Prop
  | _, seen, .done r, Q => Q seen r
  | _, seen, .read f k, Q => ∀ n d, I d → Obeys I B R (d :: seen) (k (f n d)) Q
  | _, seen, .write f k, Q => ∀ n d x, I d →
      R d x (some (f n d).2) x ∧ Obeys I B R seen (k (f n d).1) Q
  | _, seen, .ext g k, Q => ∀ n d x, I d →
      R d x none (g n d x).2 ∧ Obeys I B R seen (k (g n d x).1) Q
  | _, seen, .transaction c b k, Q => ∀ s, I s.db → B seen s.db →
      Tick R s (settle c s (b.run true s)).2 ∧
        Obeys I B R seen (k (settle c s (b.run true s)).1) Q

def Single (p : Prog D X E α) : Prop :=
  ∃ (γ : Type) (c : Nat → Option E) (b : Prog D X E γ) (k : Except E γ → Except E α),
    p = .transaction c b fun r => .done (k r)

theorem Single.transact (commit : Nat → Option E) (p : Prog D X E α) :
    Single (Prog.transact commit p) :=
  ⟨α, commit, p, fun r => r, rfl⟩

theorem Single.mapError {p : Prog D X E α} (hp : Single p) (w : E → E) : Single (p.mapError w) := by
  obtain ⟨γ, c, b, k, rfl⟩ := hp
  exact ⟨γ, c, b, fun r => (k r).mapError w, rfl⟩

namespace Obeys

variable {I : D → Prop} {B : List D → D → Prop} {R : Effect D X} {seen : List D}
  {p : Prog D X E α} {h : α → Prog D X E β}

theorem mono {Q Q' : List D → Except E α → Prop} (hp : Obeys I B R seen p Q)
    (hQ : ∀ seen r, Q seen r → Q' seen r) : Obeys I B R seen p Q' := by
  induction p generalizing seen with
  | done r => exact hQ _ _ hp
  | read f k ih => exact fun n d hd => ih _ (hp n d hd) hQ
  | write f k ih => exact fun n d x hd => ⟨(hp n d x hd).1, ih _ (hp n d x hd).2 hQ⟩
  | ext g k ih => exact fun n d x hd => ⟨(hp n d x hd).1, ih _ (hp n d x hd).2 hQ⟩
  | transaction c b k _ ih => exact fun s hs hB => ⟨(hp s hs hB).1, ih _ (hp s hs hB).2 hQ⟩

theorem bind {Q : List D → Except E β → Prop} (hp : Obeys I B R seen p fun seen r => match r with
    | .ok a => Obeys I B R seen (h a) Q
    | .error e => Q seen (.error e)) : Obeys I B R seen (p >>= h) Q := by
  change Obeys I B R seen (p.bind h) Q
  induction p generalizing seen with
  | done r => cases r <;> exact hp
  | read f k ih => exact fun n d hd => ih _ (hp n d hd)
  | write f k ih => exact fun n d x hd => ⟨(hp n d x hd).1, ih _ (hp n d x hd).2⟩
  | ext g k ih => exact fun n d x hd => ⟨(hp n d x hd).1, ih _ (hp n d x hd).2⟩
  | transaction c b k _ ih => exact fun s hs hB => ⟨(hp s hs hB).1, ih _ (hp s hs hB).2⟩

theorem attempt {Q : List D → Except E (Except E α) → Prop}
    (hp : Obeys I B R seen p fun seen r => Q seen (.ok r)) : Obeys I B R seen p.attempt Q := by
  induction p generalizing seen with
  | done r => exact hp
  | read f k ih => exact fun n d hd => ih _ (hp n d hd)
  | write f k ih => exact fun n d x hd => ⟨(hp n d x hd).1, ih _ (hp n d x hd).2⟩
  | ext g k ih => exact fun n d x hd => ⟨(hp n d x hd).1, ih _ (hp n d x hd).2⟩
  | transaction c b k _ ih => exact fun s hs hB => ⟨(hp s hs hB).1, ih _ (hp s hs hB).2⟩

theorem query_one {q : Query D E α} {Q : List D → Except E α → Prop} (hone : q.One)
    (hq : ∀ n d r m, I d → q.eval d n = (r, m) → Q (d :: seen) r) :
    Obeys I B R seen (liftM q : Prog D X E α) Q := by
  obtain ⟨γ, f, k, rfl⟩ := hone
  exact fun n d hd => hq n d _ _ hd rfl

theorem single {Q : List D → Except E α → Prop} (hsingle : Single p)
    (hp : ∀ s, I s.db → B seen s.db → p.wp false (fun r s' => Tick R s s' ∧ Q seen r) s) :
    Obeys I B R seen p Q := by
  obtain ⟨γ, c, b, k, rfl⟩ := hsingle
  exact fun s hs hB => hp s hs hB

theorem keeps {R₀ : D → D → Prop} {Q₀ : X → X → Prop} [Std.Refl R₀] [Std.Refl Q₀] [IsTrans D R₀]
    [IsTrans X Q₀] (hR : ∀ d x o x', Frame R₀ Q₀ d x o x' → R d x o x') (hp : Keeps R₀ Q₀ p) :
    Obeys I B R seen p fun seen' _ => seen ⊆ seen' := by
  induction p generalizing seen with
  | done r => exact List.Subset.refl _
  | read f k ih =>
    exact fun n d hd => (ih _ (hp _)).mono fun seen' _ h => List.Subset.trans (List.subset_cons_self _ _) h
  | write f k ih =>
    refine fun n d x hd => ⟨hR _ _ _ _ ⟨?_, refl_of Q₀ x⟩, ih _ (hp.2 _)⟩
    rintro _ ⟨⟩
    exact hp.1 n d
  | ext g k ih => exact fun n d x hd => ⟨hR _ _ _ _ ⟨nofun, hp.1 n d x⟩, ih _ (hp.2 _)⟩
  | transaction c b k _ ih =>
    refine fun s hs hB => ⟨?_, ih _ (hp.2 _)⟩
    have hb := Keeps.nested hp.1 s
    have hcommits := run_nested_commits b s
    unfold settle
    cases hr : b.run true s with
    | mk r s' =>
      rw [hr] at hb hcommits
      have hworld : R s.db s.ext none s'.ext := hR _ _ _ _ ⟨nofun, hb.2⟩
      cases r with
      | error e => exact .world rfl hcommits hworld
      | ok a =>
        simp only
        split
        · exact .world rfl hcommits hworld
        · refine .commit (hR _ _ _ _ ⟨?_, hb.2⟩) (congrArg (s'.db :: ·) hcommits)
          rintro _ ⟨⟩
          exact hb.1

theorem call {g : Nat → D → X → Except E α × X} {Q : List D → Except E α → Prop}
    (hg : ∀ n d x, I d → R d x none (g n d x).2 ∧ Q seen (g n d x).1) :
    Obeys I B R seen (Prog.call g) Q := hg

/-- The rule for a first part that keeps `R₀` and `Q₀`: what it returns is not known. -/
theorem keeps_bind {R₀ : D → D → Prop} {Q₀ : X → X → Prop} [Std.Refl R₀] [Std.Refl Q₀]
    [IsTrans D R₀] [IsTrans X Q₀] {Q : List D → Except E β → Prop}
    (hR : ∀ d x o x', Frame R₀ Q₀ d x o x' → R d x o x') (hp : Keeps R₀ Q₀ p)
    (herr : ∀ seen' e, seen ⊆ seen' → Q seen' (.error e))
    (hok : ∀ seen' a, seen ⊆ seen' → Obeys I B R seen' (h a) Q) : Obeys I B R seen (p >>= h) Q := by
  refine bind ((keeps hR hp).mono fun seen' r hsub => ?_)
  cases r with
  | ok a => exact hok seen' a hsub
  | error e => exact herr seen' e hsub

theorem query {P : α → Prop} {q : Query D E α} (hq : q.Returns P) :
    Obeys I B R seen (liftM q : Prog D X E α)
      fun seen' r => seen ⊆ seen' ∧ ∀ a, r = .ok a → P a := by
  change Obeys I B R seen (q.toProg : Prog D X E α) _
  induction q generalizing seen with
  | done r => exact ⟨List.Subset.refl _, hq⟩
  | read f k ih =>
    exact fun n d hd => (ih _ (hq _)).mono fun seen' _ h =>
      ⟨List.Subset.trans (List.subset_cons_self _ _) h.1, h.2⟩

end Obeys

end Prog

namespace Pool

variable {ι : Type} [DecidableEq ι] {I : D → Prop} {B : ι → List D → D → Prop}
  {R : ι → Effect D X} {prog : ι → Prog D X E Unit} {s₀ : St D X} {c : Pool ι D X E}

/-- Where a call is: between statements that obey its rule, or in a transaction that began in `s`
and has done so far what it would have done alone. -/
def At (I : D → Prop) (B : List D → D → Prop) (R : Effect D X) (s st : St D X) :
    Thread D X E → Prop
  | .top seen p => p.Obeys I B R seen fun _ _ => True
  | .tx seen commit body log k => ∃ body₀, B seen s.db ∧
      (Prog.transaction commit body₀ k).Obeys I B R seen (fun _ _ => True) ∧
      body₀.run true s = body.run true { st with db := log st.db }

section

variable {B : List D → D → Prop} {R : Effect D X} {seen : List D} {s st : St D X}

/-- Outside of a transaction a statement is an allowed move, or it begins a transaction. -/
theorem At.top_step {p : Prog D X E Unit} (hI : I st.db) (hp : At I B R st st (.top seen p))
    (hB : ∀ seen', (Thread.top seen p).begins = some seen' → B seen' st.db) :
    let q := (Thread.top seen p).step st
    At I B R st q.2 q.1 ∧ ((q.1.inTx = true ∧ q.2 = st) ∨ (q.1.inTx = false ∧ Tick R st q.2)) := by
  cases p with
  | done r => exact ⟨hp, .inr ⟨rfl, .idle rfl rfl rfl⟩⟩
  | read f k => exact ⟨hp _ _ hI, .inr ⟨rfl, .idle rfl rfl rfl⟩⟩
  | write f k =>
    obtain ⟨hR, hk⟩ := hp st.clock st.db st.ext hI
    exact ⟨hk, .inr ⟨rfl, .commit hR rfl⟩⟩
  | ext g k =>
    obtain ⟨hR, hk⟩ := hp st.clock st.db st.ext hI
    exact ⟨hk, .inr ⟨rfl, .world rfl rfl hR⟩⟩
  | transaction c b k => exact ⟨⟨b, hB seen rfl, hp, rfl⟩, .inl ⟨rfl, rfl⟩⟩

/-- In a transaction a statement changes no committed data, or the transaction ends with an allowed
move from the state it began in. -/
theorem At.tx_step {commit : Nat → Option E} {body : Prog D X E β} {log : D → D}
    {k : Except E β → Prog D X E Unit} (hI : I s.db) (hdb : s.db = st.db)
    (ht : At I B R s st (.tx seen commit body log k)) :
    let q := (Thread.tx seen commit body log k).step st
    At I B R s q.2 q.1 ∧ ((q.1.inTx = true ∧ q.2.db = st.db ∧ q.2.commits = st.commits) ∨
      (q.1.inTx = false ∧ Tick R s q.2)) := by
  obtain ⟨body0, hB, hobeys, hrun⟩ := ht
  cases body with
  | done r =>
    obtain ⟨htick, hk⟩ := hobeys s hI hB
    rw [hrun] at htick hk
    cases r with
    | error e =>
      simp only [Prog.run_done, settle, hdb] at htick hk
      exact ⟨hk, .inr ⟨rfl, htick⟩⟩
    | ok a =>
      simp only [Prog.run_done, settle, hdb] at htick hk
      simp only [Thread.step]
      cases hc : commit st.clock with
      | some e => rw [hc] at htick hk; exact ⟨hk, .inr ⟨rfl, htick⟩⟩
      | none => rw [hc] at htick hk; exact ⟨hk, .inr ⟨rfl, htick⟩⟩
  | read f k' => exact ⟨⟨body0, hB, hobeys, hrun⟩, .inl ⟨rfl, rfl, rfl⟩⟩
  | write f k' => exact ⟨⟨body0, hB, hobeys, hrun⟩, .inl ⟨rfl, rfl, rfl⟩⟩
  | ext g k' => exact ⟨⟨body0, hB, hobeys, hrun⟩, .inl ⟨rfl, rfl, rfl⟩⟩
  | transaction c b k' =>
    refine ⟨⟨body0, hB, hobeys, hrun.trans ?_⟩, .inl ⟨rfl, rfl, rfl⟩⟩
    change _ = (b.attempt >>= k').run true _
    rw [Prog.run_bind, Prog.run_attempt]
    rfl

end

/-- The invariant of an orderly interleaving: `s` is reached by allowed moves, and is the shared
state, or the one in which the open transaction began. -/
structure Sound (I : D → Prop) (B : ι → List D → D → Prop) (R : ι → Effect D X) (s₀ : St D X)
    (c : Pool ι D X E) (s : St D X) : Prop where
  reach : Reach (fun d x o x' => ∃ i, R i d x o x') s₀ s
  inv : I s.db
  db : s.db = c.st.db
  commits : s.commits = c.st.commits
  threads : ∀ i, At I (B i) (R i) s c.st (c.threads i)
  settled : (∀ i, (c.threads i).inTx = false) → s = c.st

theorem At.other {I : D → Prop} {B : List D → D → Prop} {R : Effect D X} {s st s' st' : St D X}
    {t : Thread D X E} (h : At I B R s st t) (ht : t.inTx = false) : At I B R s' st' t := by
  cases t with
  | top seen p => exact h
  | tx => cases ht

theorem Sound.step {s : St D X} (h : Sound I B R s₀ c s) {i : ι} (hord : Orderly B c i)
    (hI : ∀ i d x d' x', I d → R i d x (some d') x' → I d') :
    ∃ s', Sound I B R s₀ (c.step i) s' := by
  have hthreads : ∀ s', At I (B i) (R i) s' (c.step i).st ((c.threads i).step c.st).1 →
      ∀ j, At I (B j) (R j) s' (c.step i).st ((c.step i).threads j) := by
    intro s' hi j
    by_cases hj : j = i
    · subst hj
      simpa only [Pool.step, Function.update_self] using hi
    · simp only [Pool.step, Function.update_of_ne hj]
      exact (h.threads j).other (hord.1 j hj)
  have hself : (c.step i).threads i = ((c.threads i).step c.st).1 := Function.update_self ..
  -- a move from `s` to the new shared state
  have hmove : At I (B i) (R i) s (c.step i).st ((c.threads i).step c.st).1 →
      ((c.threads i).step c.st).1.inTx = false → Tick (R i) s (c.step i).st →
      Sound I B R s₀ (c.step i) (c.step i).st := by
    intro hi hout htick
    refine ⟨h.reach.tail ?_, ?_, rfl, rfl, hthreads _ (hi.other hout), fun _ => rfl⟩
    · cases htick with
      | idle hd hx hc => exact .idle hd hx hc
      | world hd hc hr => exact .world hd hc ⟨i, hr⟩
      | commit hr hc => exact .commit ⟨i, hr⟩ hc
    · cases htick with
      | idle hd => rw [hd]; exact h.inv
      | world hd => rw [hd]; exact h.inv
      | commit hr => exact hI i _ _ _ _ h.inv hr
  -- the transaction of call `i` is open
  have hopen : At I (B i) (R i) s (c.step i).st ((c.threads i).step c.st).1 →
      ((c.threads i).step c.st).1.inTx = true → (c.step i).st.db = c.st.db →
      (c.step i).st.commits = c.st.commits → Sound I B R s₀ (c.step i) s := by
    intro hi hin hd hc
    refine ⟨h.reach, h.inv, h.db.trans hd.symm, h.commits.trans hc.symm, hthreads _ hi, fun hall => ?_⟩
    have hnot := hall i
    rw [hself, hin] at hnot
    cases hnot
  cases ht : c.threads i with
  | top seen p =>
    have hall : ∀ j, (c.threads j).inTx = false := by
      intro j
      by_cases hj : j = i
      · rw [hj, ht]; rfl
      · exact hord.1 j hj
    obtain rfl := h.settled hall
    have hat := h.threads i
    rw [ht] at hat
    obtain ⟨hi, ⟨hin, hst⟩ | ⟨hout, htick⟩⟩ := hat.top_step h.inv (ht ▸ hord.2)
    all_goals rw [← ht] at hi
    · have hst' : (c.step i).st = c.st := by rw [Pool.step, ht]; exact hst
      exact ⟨_, hopen hi (by rw [ht]; exact hin) (by rw [hst']) (by rw [hst'])⟩
    · exact ⟨_, hmove hi (by rw [ht]; exact hout) (by rw [Pool.step, ht]; exact htick)⟩
  | tx seen commit body log k =>
    have hat := h.threads i
    rw [ht] at hat
    obtain ⟨hi, ⟨hin, hd, hc⟩ | ⟨hout, htick⟩⟩ := hat.tx_step h.inv h.db
    all_goals rw [← ht] at hi
    · exact ⟨_, hopen hi (by rw [ht]; exact hin) (by rw [Pool.step, ht]; exact hd)
        (by rw [Pool.step, ht]; exact hc)⟩
    · exact ⟨_, hmove hi (by rw [ht]; exact hout) (by rw [Pool.step, ht]; exact htick)⟩

/-- The run lemma: if every call obeys its rule, the committed stores of an orderly interleaving are
those of a sequence of allowed moves. -/
theorem sound (hprog : ∀ i, (prog i).Obeys I (B i) (R i) [] fun _ _ => True)
    (hI : ∀ i d x d' x', I d → R i d x (some d') x' → I d') (h₀ : I s₀.db)
    (hrun : Interleaved (Orderly B) (start prog s₀) c) :
    ∃ s, Reach (fun d x o x' => ∃ i, R i d x o x') s₀ s ∧ s.db = c.st.db ∧
      s.commits = c.st.commits ∧ ((∀ i, (c.threads i).inTx = false) → s = c.st) := by
  have hsound : ∃ s, Sound I B R s₀ c s := by
    induction hrun with
    | refl => exact ⟨s₀, .refl, h₀, rfl, rfl, hprog, fun _ => rfl⟩
    | tail _ hstep ih =>
      obtain ⟨s, hs⟩ := ih
      obtain ⟨i, hord, rfl⟩ := hstep
      exact hs.step hord hI
  obtain ⟨s, hs⟩ := hsound
  exact ⟨s, hs.reach, hs.db, hs.commits, hs.settled⟩

end Pool

end Tx
end Cmk
