import Mathlib.Logic.Function.Basic

/-!
# Cmk.Cache

`utils/cache/ttl.go`, the cache of users in front of the identity management. Its mutex makes a
`Get`, a `Set` and a tick of the collector one step each. They come in any order, and time passes
in between.

* `lastSet`         — what the cache stands for: the last value of a key, which nothing deletes.
* `ttlCache_lookup` — a `Get` returns the last value, unless that has expired.
-/

namespace Cmk

open Function Option

structure TTLItem (V : Type) where
  time : Int
  item : V

abbrev TTLCache (K V : Type) := K → Option (TTLItem V)

inductive CacheOp (K V : Type) where
  | get (k : K)
  | set (k : K) (v : V)
  /-- A tick of the collector. -/
  | collect

variable {K V : Type}

namespace TTLCache

variable [DecidableEq K] (itemTTL now : Int) (c : TTLCache K V) (k : K)

def isExpired (item : TTLItem V) : Bool := itemTTL ≤ now - item.time

def isValid : Bool := (c k).any fun item => !isExpired itemTTL now item

def get : Option V × TTLCache K V :=
  if c.isValid itemTTL now k then ((c k).map (·.item), c) else (none, update c k none)

def set (v : V) : TTLCache K V := update c k (some ⟨now, v⟩)

def collect : TTLCache K V := fun k => (c k).filter fun item => !isExpired itemTTL now item

/-- An operation, some time after the last one. -/
def step (s : Int × TTLCache K V) (op : Nat × CacheOp K V) : Int × TTLCache K V :=
  (s.1 + op.1,
    match op.2 with
    | .get k => (s.2.get itemTTL (s.1 + op.1) k).2
    | .set k v => s.2.set (s.1 + op.1) k v
    | .collect => s.2.collect itemTTL (s.1 + op.1))

end TTLCache

open TTLCache

/-- The last value that was set for a key, and when; before the operations it is `item`. -/
def lastSet [DecidableEq K] (k : K) (now : Int) (item : Option (TTLItem V)) :
    List (Nat × CacheOp K V) → Option (TTLItem V)
  | [] => item
  | (wait, .set k' v) :: ops =>
    lastSet k (now + wait) (if k' = k then some ⟨now + wait, v⟩ else item) ops
  | (wait, _) :: ops => lastSet k (now + wait) item ops

def unexpired (itemTTL now : Int) (o : Option (TTLItem V)) : Option (TTLItem V) :=
  o.filter fun item => !isExpired itemTTL now item

variable {itemTTL now : Int} {a b : Option (TTLItem V)}

theorem unexpired_later (wait : Nat) :
    unexpired itemTTL (now + wait) (unexpired itemTTL now a) = unexpired itemTTL (now + wait) a := by
  cases a with
  | none => rfl
  | some item =>
    by_cases h : itemTTL ≤ now - item.time
    · have hlater : itemTTL ≤ now + wait - item.time := by omega
      simp [unexpired, isExpired, h, hlater, filter_some]
    · simp [unexpired, isExpired, Int.not_le.1 h, filter_some]

/-- Now and later a lookup finds the same in both. -/
def Indistinct (itemTTL now : Int) (a b : Option (TTLItem V)) : Prop :=
  ∀ wait : Nat, unexpired itemTTL (now + wait) a = unexpired itemTTL (now + wait) b

theorem indistinct_unexpired : Indistinct itemTTL now (unexpired itemTTL now a) a :=
  fun wait => unexpired_later wait

theorem Indistinct.later (h : Indistinct itemTTL now a b) (wait : Nat) :
    Indistinct itemTTL (now + wait) a b := by
  intro wait'
  rw [Int.add_assoc, ← Int.natCast_add]
  exact h _

variable [DecidableEq K] {c : TTLCache K V} {k : K}

theorem get_fst (k : K) :
    (c.get itemTTL now k).1 = (unexpired itemTTL now (c k)).map (·.item) := by
  unfold TTLCache.get isValid unexpired
  cases c k with
  | none => rfl
  | some item => cases h : isExpired itemTTL now item <;> simp [h, filter_some]

/-- A lookup deletes what it finds expired, and nothing else. -/
theorem get_snd (k' : K) : (c.get itemTTL now k').2 k = c k ∨
    (c.get itemTTL now k').2 k = unexpired itemTTL now (c k) := by
  unfold TTLCache.get
  split
  · exact .inl rfl
  · rename_i hvalid
    by_cases hk : k = k'
    · subst hk
      refine .inr ((update_self ..).trans (Eq.symm ?_))
      simpa [unexpired, isValid, filter_eq_none_iff, any_eq_false] using hvalid
    · exact .inl (update_of_ne hk _ _)

theorem indistinct_step {s : Int × TTLCache K V} {last : Option (TTLItem V)}
    (h : Indistinct itemTTL s.1 (s.2 k) last) (wait : Nat) (op : CacheOp K V) :
    Indistinct itemTTL (s.1 + wait) ((TTLCache.step itemTTL s (wait, op)).2 k)
      (lastSet k s.1 last [(wait, op)]) := by
  have hlater := h.later wait
  cases op with
  | get k' =>
    simp only [TTLCache.step, lastSet]
    rcases get_snd k' with hk | hk
    · rwa [hk]
    · rw [hk]
      exact fun w => (indistinct_unexpired w).trans (hlater w)
  | set k' v =>
    simp only [TTLCache.step, TTLCache.set, lastSet]
    split
    · rename_i hk
      subst hk
      rw [update_self]
      exact fun _ => rfl
    · rename_i hk
      rwa [update_of_ne (Ne.symm hk)]
  | collect => exact fun w => (indistinct_unexpired w).trans (hlater w)

/-- From any cache and after any operations, a `Get` returns the last value of its key exactly if that
has not expired. What lookups and the collector have deleted makes no difference. -/
theorem ttlCache_lookup (itemTTL now : Int) (c : TTLCache K V) (ops : List (Nat × CacheOp K V))
    (k : K) :
    let s := ops.foldl (TTLCache.step itemTTL) (now, c)
    (s.2.get itemTTL s.1 k).1 = ((lastSet k now (c k) ops).filter fun item =>
      !isExpired itemTTL s.1 item).map (·.item) := by
  have hinv : ∀ (s : Int × TTLCache K V) last, Indistinct itemTTL s.1 (s.2 k) last →
      let s' := ops.foldl (TTLCache.step itemTTL) s
      Indistinct itemTTL s'.1 (s'.2 k) (lastSet k s.1 last ops) := by
    induction ops with
    | nil => exact fun s last h => h
    | cons op ops ih =>
      intro s last h
      obtain ⟨wait, op⟩ := op
      have hstep := ih (TTLCache.step itemTTL s (wait, op)) _ (indistinct_step h wait op)
      cases op <;> exact hstep
  have hlast := hinv (now, c) (c k) (fun _ => rfl) 0
  simp only [Int.natCast_zero, Int.add_zero] at hlast
  exact (get_fst k).trans (congrArg _ hlast)

end Cmk
