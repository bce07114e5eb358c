import Mathlib.Data.List.Basic

/-!
# Cmk.Batch

`ProcessInBatchWithOptions` of `internal/repo`: the loop that lists the rows of a query page by page
and hands every page to a function.

* `BatchLoop.step` — one iteration. It keeps a record of the calls it makes.
* `BatchLoop.run`  — the loop with a bound on its iterations; `none` means that the bound was reached.
* `run_returns`    — the rule for the loop: an invariant, a number that falls with every iteration,
  and what holds when it returns.
* `run_pages`      — without options, the pages handed over are the rows in their order.
* `run_deletes`    — in delete mode, a function that removes what it is given leaves nothing.
-/

namespace Cmk

open List

variable {fuel : Nat}

structure BatchProcessOptions where
  deleteMode : Bool := false
  ignoreFailMode : Bool := false
  deriving DecidableEq, Repr

/-- What the loop calls: `List` and `Count` of its query, and the process function. -/
structure BatchCalls (S T E : Type) where
  list : (limit offset : Nat) → S → Except E (List T) × S
  count : S → Except E Nat × S
  processFunc : List T → S → Except E Unit × S

inductive BatchCall (T E : Type) where
  | list (r : Except E (List T))
  | process (items : List T) (r : Except E Unit)
  | count (r : Except E Nat)

namespace BatchCall

variable {T E : Type}

def failure : BatchCall T E → Option E
  | list (.error e) | process _ (.error e) | count (.error e) => some e
  | _ => none

def given : BatchCall T E → List T
  | process items _ => items
  | _ => []

end BatchCall

/-- The variables of the loop, the state of the program, and a record of the calls so far. -/
structure BatchLoop (S T E : Type) where
  offset : Nat := 0
  lastError : Option E := none
  st : S
  calls : List (BatchCall T E) := []

inductive BatchStep (S T E : Type) where
  | next (l : BatchLoop S T E)
  | returned (r : Except E Unit) (l : BatchLoop S T E)

def errResult {E : Type} : Option E → Except E Unit
  | none => .ok ()
  | some e => .error e

namespace BatchLoop

variable {S T E : Type} (c : BatchCalls S T E) (batchSize : Nat) (options : BatchProcessOptions)

/-- What an iteration does once the process function has returned. -/
def afterProcess (items : List T) (l : BatchLoop S T E) : BatchStep S T E :=
  if items.isEmpty then .returned (errResult l.lastError) l
  else
    let offset := if options.deleteMode then l.offset else l.offset + batchSize
    match c.count l.st with
    | (.error e, s) =>
      .returned (.error e) { l with offset, st := s, calls := l.calls ++ [.count (.error e)] }
    | (.ok count, s) =>
      let l := { l with offset, st := s, calls := l.calls ++ [.count (.ok count)] }
      if options.deleteMode = false ∧ count ≤ offset then .returned (errResult l.lastError) l
      else .next l

/-- An iteration. -/
def step (l : BatchLoop S T E) : BatchStep S T E :=
  match c.list batchSize l.offset l.st with
  | (.error e, s) => .returned (.error e) { l with st := s, calls := l.calls ++ [.list (.error e)] }
  | (.ok items, s) =>
    match c.processFunc items s with
    | (.ok (), s) =>
      afterProcess c batchSize options items
        { l with st := s, calls := l.calls ++ [.list (.ok items), .process items (.ok ())] }
    | (.error e, s) =>
      let l : BatchLoop S T E :=
        { l with
          lastError := some e
          st := s
          calls := l.calls ++ [.list (.ok items), .process items (.error e)] }
      if options.ignoreFailMode then afterProcess c batchSize options items l
      else .returned (.error e) l

/-- The loop, with a bound on the number of iterations. -/
def run : Nat → BatchLoop S T E → Option (Except E Unit × BatchLoop S T E)
  | 0, _ => none
  | fuel + 1, l =>
    match step c batchSize options l with
    | .next l => run fuel l
    | .returned r l => some (r, l)

variable {c batchSize options}

theorem run_returns {Inv : BatchLoop S T E → Prop} {μ : BatchLoop S T E → Nat}
    {Post : Except E Unit → BatchLoop S T E → Prop}
    (hreturned : ∀ l r l', Inv l → step c batchSize options l = .returned r l' → Post r l')
    (hnext : ∀ l l', Inv l → step c batchSize options l = .next l' → Inv l' ∧ μ l' < μ l)
    {l : BatchLoop S T E} (hl : Inv l) (hfuel : μ l < fuel) :
    ∃ r l', run c batchSize options fuel l = some (r, l') ∧ Post r l' := by
  induction fuel generalizing l with
  | zero => omega
  | succ fuel ih =>
    unfold run
    cases hstep : step c batchSize options l with
    | returned r l' => exact ⟨r, l', rfl, hreturned l r l' hl hstep⟩
    | next l' =>
      obtain ⟨hinv, hless⟩ := hnext l l' hl hstep
      exact ih hinv (by omega)

theorem run_none {Inv : BatchLoop S T E → Prop}
    (hnext : ∀ l, Inv l → ∃ l', step c batchSize options l = .next l' ∧ Inv l') (fuel : Nat)
    {l : BatchLoop S T E} (hl : Inv l) : run c batchSize options fuel l = none := by
  induction fuel generalizing l with
  | zero => rfl
  | succ fuel ih =>
    obtain ⟨l', hstep, hl'⟩ := hnext l hl
    unfold run
    rw [hstep]
    exact ih hl'

/-- `List` returns the rows in one order, that of `rows`, and `Count` their number. -/
structure Lists (c : BatchCalls S T E) (rows : S → List T) : Prop where
  list : ∀ limit offset s items s', c.list limit offset s = (.ok items, s') →
    items = ((rows s).drop offset).take limit
  count : ∀ s k s', c.count s = (.ok k, s') → k = (rows s).length
  list_keeps : ∀ limit offset s r s', c.list limit offset s = (r, s') → rows s' = rows s
  count_keeps : ∀ s r s', c.count s = (r, s') → rows s' = rows s

/-- Every row was given to the process function once, in order, or the last call failed, and no call
before it. -/
def Covers (rows : List T) (r : Except E Unit) (calls : List (BatchCall T E)) : Prop :=
  match r with
  | .ok () => calls.flatMap BatchCall.given = rows ∧ ∀ call ∈ calls, call.failure = none
  | .error e => calls.flatMap BatchCall.given <+: rows ∧ ∃ before last, calls = before ++ [last] ∧
      last.failure = some e ∧ ∀ call ∈ before, call.failure = none

/-- The invariant of the loop: the pages up to the offset were given to the process function. -/
structure Paged (rows : S → List T) (R : List T) (l : BatchLoop S T E) : Prop where
  rows : rows l.st = R
  lastError : l.lastError = none
  given : l.calls.flatMap BatchCall.given = R.take l.offset
  unfailed : ∀ call ∈ l.calls, call.failure = none
  offset : l.offset = 0 ∨ l.offset < R.length

/-- What an iteration leads to: the end of the loop, or a later page. -/
def Advances (rows : S → List T) (R : List T) (l : BatchLoop S T E) : BatchStep S T E → Prop
  | .returned r l' => Covers R r l'.calls
  | .next l' => Paged rows R l' ∧ R.length - l'.offset < R.length - l.offset

section

variable {rows : S → List T} {R : List T} {l : BatchLoop S T E}

theorem unfailed_snoc {calls : List (BatchCall T E)} {last : BatchCall T E}
    (hcalls : ∀ call ∈ calls, call.failure = none) (hlast : last.failure = none) :
    ∀ call ∈ calls ++ [last], call.failure = none := by
  intro call h
  rcases mem_append.1 h with h | h
  · exact hcalls call h
  · rw [mem_singleton.1 h]
    exact hlast

theorem step_paged (hlists : Lists c rows)
    (hprocess : ∀ items s r s', c.processFunc items s = (r, s') → rows s' = rows s)
    (hsize : 0 < batchSize) (hl : Paged rows R l) : Advances rows R l (step c batchSize {} l) := by
  obtain ⟨hrows, hlast, hgiven, hunfailed, hoffset⟩ := hl
  unfold step
  cases hlist : c.list batchSize l.offset l.st with
  | mk res s1 =>
    have hrows1 : rows s1 = R := (hlists.list_keeps _ _ _ _ _ hlist).trans hrows
    cases res with
    | error e =>
      refine ⟨?_, l.calls, _, rfl, rfl, hunfailed⟩
      rw [flatMap_append, hgiven]
      exact (append_nil _).symm ▸ take_prefix _ _
    | ok items =>
      have hitems : items = (R.drop l.offset).take batchSize :=
        hrows ▸ hlists.list _ _ _ _ _ hlist
      have hlisted : ∀ call ∈ l.calls ++ [BatchCall.list (.ok items)], call.failure = none :=
        unfailed_snoc hunfailed rfl
      have hpage : ∀ r : Except E Unit, (l.calls ++ [BatchCall.list (.ok items),
          BatchCall.process items r]).flatMap BatchCall.given = R.take (l.offset + batchSize) := by
        intro r
        rw [flatMap_append, hgiven, take_add, hitems]
        simp [BatchCall.given]
      simp only
      cases hproc : c.processFunc items s1 with
      | mk res s2 =>
        have hrows2 : rows s2 = R := (hprocess _ _ _ _ hproc).trans hrows1
        cases res with
        | error e =>
          exact ⟨(hpage _).symm ▸ take_prefix _ _, _, _, append_cons .., rfl, hlisted⟩
        | ok u =>
          have hprocessed : ∀ call ∈ l.calls ++ [BatchCall.list (.ok items),
              BatchCall.process items (.ok ())], call.failure = none :=
            append_cons l.calls _ _ ▸ unfailed_snoc hlisted rfl
          simp only [afterProcess]
          by_cases hempty : items.isEmpty
          · rw [if_pos hempty, hlast]
            refine ⟨(hpage _).trans (take_of_length_le ?_), hprocessed⟩
            rw [List.isEmpty_iff.1 hempty] at hitems
            have hlen := congrArg length hitems
            simp only [length_nil, length_take, length_drop] at hlen
            omega
          · rw [if_neg hempty]
            cases hcount : c.count s2 with
            | mk res s3 =>
              have hgiven3 : ∀ r : Except E Nat, (l.calls ++ [BatchCall.list (.ok items),
                  BatchCall.process items (.ok ())] ++ [BatchCall.count r]).flatMap
                  BatchCall.given = R.take (l.offset + batchSize) := by
                intro r
                rw [flatMap_append, hpage]
                exact append_nil _
              cases res with
              | error e =>
                exact ⟨(hgiven3 _).symm ▸ take_prefix _ _, _, _, rfl, rfl, hprocessed⟩
              | ok k =>
                have hk : k = R.length := (hlists.count _ _ _ hcount).trans (by rw [hrows2])
                have hcounted : ∀ call ∈ l.calls ++ [BatchCall.list (.ok items),
                    BatchCall.process items (.ok ())] ++ [BatchCall.count (.ok k)],
                    call.failure = none := unfailed_snoc hprocessed rfl
                simp only [true_and, Bool.false_eq_true, if_false, hlast]
                by_cases hend : k ≤ l.offset + batchSize
                · rw [if_pos hend]
                  exact ⟨(hgiven3 _).trans (take_of_length_le (hk ▸ hend)), hcounted⟩
                · rw [if_neg hend]
                  rw [hk, Nat.not_le] at hend
                  refine ⟨⟨(hlists.count_keeps _ _ _ hcount).trans hrows2, rfl, hgiven3 _, hcounted,
                    .inr hend⟩, ?_⟩
                  simp only
                  omega

end

theorem run_pages {rows : S → List T} (hlists : Lists c rows)
    (hprocess : ∀ items s r s', c.processFunc items s = (r, s') → rows s' = rows s)
    (hsize : 0 < batchSize) (s : S) (hfuel : (rows s).length < fuel) :
    ∃ r l, run c batchSize {} fuel { st := s } = some (r, l) ∧ Covers (rows s) r l.calls := by
  have hstart : Paged (T := T) (E := E) rows (rows s) { st := s } :=
    ⟨rfl, rfl, rfl, forall_mem_nil _, .inl rfl⟩
  refine run_returns (fun l r l' hl hstep => ?_) (fun l l' hl hstep => ?_) hstart
    (μ := fun l => (rows s).length - l.offset) hfuel
  · have h := step_paged hlists hprocess hsize hl
    rw [hstep] at h
    exact h
  · have h := step_paged hlists hprocess hsize hl
    rw [hstep] at h
    exact h

/-- The calls make the state follow the rows that were given, or fail with an error in `F`. -/
structure Tracks (c : BatchCalls S T E) (P : List T → S → Prop) (F : E → Prop) : Prop where
  list : ∀ limit offset s items s' given, c.list limit offset s = (.ok items, s') → P given s → P given s'
  count : ∀ s k s' given, c.count s = (.ok k, s') → P given s → P given s'
  process : ∀ items s s' given, c.processFunc items s = (.ok (), s') → P given s →
    P (given ++ items) s'
  list_fails : ∀ limit offset s e s', c.list limit offset s = (.error e, s') → F e
  count_fails : ∀ s e s', c.count s = (.error e, s') → F e
  process_fails : ∀ items s e s', c.processFunc items s = (.error e, s') → F e

structure Tracked (P : List T → S → Prop) (l : BatchLoop S T E) : Prop where
  lastError : l.lastError = none
  state : P (l.calls.flatMap BatchCall.given) l.st

def Follows (P : List T → S → Prop) (F : E → Prop) : BatchStep S T E → Prop
  | .next l | .returned (.ok ()) l => Tracked P l
  | .returned (.error e) _ => F e

theorem step_tracks {P : List T → S → Prop} {F : E → Prop} (hP : Tracks c P F) {l : BatchLoop S T E}
    (hl : Tracked P l) : Follows P F (step c batchSize {} l) := by
  obtain ⟨hlast, hstate⟩ := hl
  unfold step
  cases hlist : c.list batchSize l.offset l.st with
  | mk res s1 =>
    cases res with
    | error e => exact hP.list_fails _ _ _ _ _ hlist
    | ok items =>
      have hstate1 := hP.list _ _ _ _ _ _ hlist hstate
      simp only
      cases hproc : c.processFunc items s1 with
      | mk res s2 =>
        cases res with
        | error e => exact hP.process_fails _ _ _ _ hproc
        | ok u =>
          have hstate2 := hP.process _ _ _ _ hproc hstate1
          have hgiven : (l.calls ++ [BatchCall.list (.ok items),
              BatchCall.process items (.ok ())] : List (BatchCall T E)).flatMap BatchCall.given =
                l.calls.flatMap BatchCall.given ++ items := by
            simp [BatchCall.given]
          simp only [afterProcess, hlast]
          split
          · exact ⟨rfl, hgiven ▸ hstate2⟩
          · cases hcount : c.count s2 with
            | mk res s3 =>
              cases res with
              | error e => exact hP.count_fails _ _ _ hcount
              | ok k =>
                have hstate3 := hP.count _ _ _ _ hcount hstate2
                have hgiven3 : (l.calls ++ [BatchCall.list (.ok items), BatchCall.process items
                    (.ok ())] ++ [BatchCall.count (.ok k)] : List (BatchCall T E)).flatMap
                    BatchCall.given = l.calls.flatMap BatchCall.given ++ items := by
                  rw [flatMap_append, hgiven]
                  exact append_nil _
                simp only [true_and, Bool.false_eq_true, if_false]
                split
                · exact ⟨rfl, hgiven3 ▸ hstate3⟩
                · exact ⟨rfl, hgiven3 ▸ hstate3⟩

/-- A loop that returns has left the state that belongs to the rows it gave away, or has failed. -/
theorem run_tracks {P : List T → S → Prop} {F : E → Prop} (hP : Tracks c P F)
    {l l' : BatchLoop S T E} {r : Except E Unit} (h : run c batchSize {} fuel l = some (r, l'))
    (hl : Tracked P l) : Follows P F (.returned r l') := by
  induction fuel generalizing l with
  | zero => cases h
  | succ fuel ih =>
    unfold run at h
    have hstep : Follows P F (step c batchSize {} l) := step_tracks hP hl
    cases hs : step c batchSize {} l with
    | next l1 =>
      rw [hs] at h hstep
      exact ih h hstep
    | returned r1 l1 =>
      rw [hs] at h hstep
      cases h
      exact hstep

/-- A process function that brings no rows, and removes what it is given unless it fails. -/
structure Removes (c : BatchCalls S T E) (rows : S → List T) : Prop where
  sublist : ∀ items s r s', c.processFunc items s = (r, s') → (rows s').Sublist (rows s)
  removed : ∀ items s s', c.processFunc items s = (.ok (), s') → ∀ x ∈ items, x ∉ rows s'

/-- What the calls of a loop that deletes rows do to the rows, in states that meet `K`. The pages may
come in any order. -/
structure Deletes (c : BatchCalls S T E) (batchSize : Nat) (rows : S → List T) (K : S → Prop) :
    Prop where
  list : ∀ s items s', K s → c.list batchSize 0 s = (.ok items, s') →
    items ⊆ rows s ∧ (items = [] → rows s = [])
  list_keeps : ∀ s r s', K s → c.list batchSize 0 s = (r, s') → K s' ∧ rows s' = rows s
  count_keeps : ∀ s r s', K s → c.count s = (r, s') → K s' ∧ rows s' = rows s
  process : ∀ items s r s', K s → items ⊆ rows s → c.processFunc items s = (r, s') →
    K s' ∧ (rows s').Sublist (rows s) ∧ (r = .ok () → ∀ x ∈ items, x ∉ rows s')

section

variable {rows : S → List T} {K : S → Prop} {l : BatchLoop S T E}

theorem length_removed {R R' items : List T} (hsub : R'.Sublist R) (hitems : items ⊆ R)
    (hremoved : ∀ x ∈ items, x ∉ R') (hne : items ≠ []) : R'.length < R.length := by
  obtain ⟨x, hx⟩ := exists_mem_of_ne_nil items hne
  refine Nat.lt_of_le_of_ne hsub.length_le fun hlen => hremoved x hx ?_
  rw [hsub.eq_of_length hlen]
  exact hitems hx

structure Emptying (K : S → Prop) (l : BatchLoop S T E) : Prop where
  offset : l.offset = 0
  lastError : l.lastError = none
  state : K l.st

/-- What an iteration leads to: the end of the loop, or fewer rows. -/
def Empties (rows : S → List T) (K : S → Prop) (l : BatchLoop S T E) : BatchStep S T E → Prop
  | .returned r l' => K l'.st ∧ (r = .ok () → rows l'.st = [])
  | .next l' => Emptying K l' ∧ (rows l'.st).length < (rows l.st).length

theorem step_deletes (hdel : Deletes c batchSize rows K) (hl : Emptying K l) :
    Empties rows K l (step c batchSize { deleteMode := true } l) := by
  obtain ⟨hoffset, hlast, hK⟩ := hl
  unfold step
  rw [hoffset]
  cases hlist : c.list batchSize 0 l.st with
  | mk res s1 =>
    obtain ⟨hK1, hrows1⟩ := hdel.list_keeps _ _ _ hK hlist
    cases res with
    | error e => exact ⟨hK1, fun h => by cases h⟩
    | ok items =>
      obtain ⟨hitems, hempty⟩ := hdel.list _ _ _ hK hlist
      simp only
      cases hproc : c.processFunc items s1 with
      | mk res s2 =>
        obtain ⟨hK2, hsub, hremoved⟩ := hdel.process _ _ _ _ hK1 (hrows1.symm ▸ hitems) hproc
        cases res with
        | error e => exact ⟨hK2, fun h => by cases h⟩
        | ok u =>
          simp only [afterProcess]
          by_cases hnil : items.isEmpty
          · rw [if_pos hnil, hlast]
            refine ⟨hK2, fun _ => ?_⟩
            rw [hrows1, hempty (List.isEmpty_iff.1 hnil)] at hsub
            exact sublist_nil.1 hsub
          · rw [if_neg hnil]
            have hless := length_removed hsub (hrows1.symm ▸ hitems) (hremoved rfl)
              (fun h => hnil (List.isEmpty_iff.2 h))
            cases hcount : c.count s2 with
            | mk res s3 =>
              obtain ⟨hK3, hrows3⟩ := hdel.count_keeps _ _ _ hK2 hcount
              cases res with
              | error e => exact ⟨hK3, fun h => by cases h⟩
              | ok k =>
                simp only [Bool.true_eq_false, false_and, if_false, if_true]
                refine ⟨⟨rfl, hlast, hK3⟩, ?_⟩
                rw [hrows3, ← hrows1]
                exact hless

end

theorem Removes.deletes {rows : S → List T} (hremoves : Removes c rows) (hlists : Lists c rows)
    (hsize : 0 < batchSize) : Deletes c batchSize rows fun _ => True where
  list s items s' _ hlist := by
    have hitems := hlists.list _ _ _ _ _ hlist
    rw [drop_zero] at hitems
    refine ⟨hitems ▸ take_subset _ _, fun hnil => ?_⟩
    rw [hnil] at hitems
    rcases take_eq_nil_iff.1 hitems.symm with h | h
    · omega
    · exact h
  list_keeps s r s' _ hlist := ⟨trivial, hlists.list_keeps _ _ _ _ _ hlist⟩
  count_keeps s r s' _ hcount := ⟨trivial, hlists.count_keeps _ _ _ hcount⟩
  process items s r s' _ _ hproc := by
    refine ⟨trivial, hremoves.sublist _ _ _ _ hproc, fun hr => ?_⟩
    rw [hr] at hproc
    exact hremoves.removed _ _ _ hproc

theorem run_deletes {rows : S → List T} {K : S → Prop} (hdel : Deletes c batchSize rows K) {s : S}
    (hK : K s) (hfuel : (rows s).length < fuel) :
    ∃ r l, run c batchSize { deleteMode := true } fuel { st := s } = some (r, l) ∧ K l.st ∧
      (r = .ok () → rows l.st = []) := by
  have hstart : Emptying (T := T) (E := E) K { st := s } := ⟨rfl, rfl, hK⟩
  refine run_returns (fun l r l' hl hstep => ?_) (fun l l' hl hstep => ?_) hstart
    (μ := fun l => (rows l.st).length) hfuel
  · have h := step_deletes hdel hl
    rw [hstep] at h
    exact h
  · have h := step_deletes hdel hl
    rw [hstep] at h
    exact h

def failing : BatchCalls Unit Unit Unit where
  list limit offset s := (.ok (([()].drop offset).take limit), s)
  count s := (.ok 1, s)
  processFunc _ s := (.error (), s)

theorem failing_lists : Lists failing fun _ => [()] where
  list limit offset s items s' h := by
    cases h
    rfl
  count s k s' h := by
    cases h
    rfl
  list_keeps limit offset s r s' h := rfl
  count_keeps s r s' h := rfl

theorem failing_removes : Removes failing fun _ => [()] where
  sublist items s r s' h := .refl _
  removed items s s' h := by cases h

theorem run_failing (fuel : Nat) :
    run failing 1 { deleteMode := true, ignoreFailMode := true } fuel { st := () } = none := by
  have hagain : ∀ l : BatchLoop Unit Unit Unit, l.offset = 0 →
      ∃ l', step failing 1 { deleteMode := true, ignoreFailMode := true } l = .next l' ∧
        l'.offset = 0 := by
    rintro ⟨offset, lastError, st, calls⟩ hl
    cases hl
    exact ⟨_, rfl, rfl⟩
  exact run_none hagain fuel rfl

end BatchLoop

end Cmk
