import Cmk.Errors
import Mathlib.Data.List.MinMax
import Mathlib.Logic.Function.Basic

/-!
# Cmk.Mapper

`internal/errs/mapper.go`: from an internal error to the error a response shows. The table holds
pointers, `Transform` returns one of them, and a request reads through it when it writes its
response. Other requests run in between.

- `ErrorMapper.select`, `Selected.finish`: the two parts of `Transform`, before and after it writes.
- `transform_best_match`: which entry it is.
- `Serving.advance`: one request goes on by one step.
- `context_own_iff`: the errors for which no interleaving mixes up the details of two requests.
-/

namespace Cmk

open List

/-- `apierrors.APIError`. Its `Context` is a pointer to a map. -/
structure APIError where
  code : String
  message : String
  status : Nat
  context : Option Nat
  deriving DecidableEq, Repr

/-- The errors of the table by their address, and the maps allocated so far. -/
structure ErrorHeap (Details : Type) where
  errors : Nat → APIError
  maps : List Details
  allocated : ∀ p r, (errors p).context = some r → r < maps.length

namespace ErrorHeap

variable {Details : Type}

/-- `err.SetContext(new(details))`. -/
def setContext (h : ErrorHeap Details) (p : Nat) (details : Details) : ErrorHeap Details where
  errors := Function.update h.errors p { h.errors p with context := some h.maps.length }
  maps := h.maps ++ [details]
  allocated q r hr := by
    rw [List.length_append, List.length_singleton]
    by_cases hq : q = p
    · subst hq
      rw [Function.update_self, Option.some.injEq] at hr
      omega
    · rw [Function.update_of_ne hq] at hr
      exact Nat.lt_succ_of_lt (h.allocated q r hr)

def context (h : ErrorHeap Details) (p : Nat) : Option Details :=
  (h.errors p).context.bind (h.maps[·]?)

theorem context_eq_none {h : ErrorHeap Details} {p : Nat} :
    h.context p = none ↔ (h.errors p).context = none := by
  unfold context
  cases hc : (h.errors p).context with
  | none => simp
  | some r => simp [h.allocated p r hc]

theorem setContext_ne (h : ErrorHeap Details) (p : Nat) (details : Details) :
    (h.setContext p details).errors p ≠ h.errors p := by
  intro he
  have hc : (h.errors p).context = some h.maps.length := by
    rw [← he]
    simp [setContext]
  exact absurd (h.allocated p _ hc) (lt_irrefl _)

end ErrorHeap

structure ExposedErrors (Error Target Details : Type) where
  internalErrorChain : List Target
  exposedError : Nat
  contextGetter : Option (Error → Details)

structure ErrorMapper (Error Target Details : Type) where
  errors : List (ExposedErrors Error Target Details)
  priorityErrors : List (ExposedErrors Error Target Details)

inductive Selected (Error Target Details : Type) where
  | priority (e : ExposedErrors Error Target Details)
  | best (e : ExposedErrors Error Target Details)
  | default

variable {Error Target Details : Type}

def countMatchingErrors (is : Error → Target → Bool) (err : Error) (candidates : List Target) : Nat :=
  candidates.countP (is err)

namespace ErrorMapper

variable (is : Error → Target → Bool) (m : ErrorMapper Error Target Details)

def containsAsPriority (err : Error) : Option (ExposedErrors Error Target Details) :=
  m.priorityErrors.find? fun e => 0 < countMatchingErrors is err e.internalErrorChain

/-- One round of `getBestMatches`, with its `minCount` and `result`. An entry with an error that
does not match is skipped. -/
def addMatch (err : Error) (acc : Nat × List (ExposedErrors Error Target Details))
    (mErr : ExposedErrors Error Target Details) :
    Nat × List (ExposedErrors Error Target Details) :=
  let count := countMatchingErrors is err mErr.internalErrorChain
  if count < mErr.internalErrorChain.length then acc
  else if count = acc.1 then (acc.1, acc.2 ++ [mErr])
  else if acc.1 < count then (count, [mErr])
  else acc

def getBestMatches (err : Error) : List (ExposedErrors Error Target Details) :=
  (m.errors.foldl (addMatch is err) (1, [])).2

def select (err : Error) : Selected Error Target Details :=
  match m.containsAsPriority is err with
  | some e => .priority e
  | none =>
    match m.getBestMatches is err with
    | [] => .default
    | e :: _ => .best e

end ErrorMapper

namespace Selected

def entryOf : Selected Error Target Details → Option (ExposedErrors Error Target Details)
  | .priority e => some e
  | .best e => some e
  | .default => none

/-- The end of `Transform`: the pointer it returns, none for the default error, which is a new one.
A priority entry is returned as it is; the context of any other goes into the table. -/
def finish (err : Error) (h : ErrorHeap Details) :
    Selected Error Target Details → ErrorHeap Details × Option Nat
  | .priority e => (h, some e.exposedError)
  | .best e =>
    match e.contextGetter with
    | none => (h, some e.exposedError)
    | some contextGetter => (h.setContext e.exposedError (contextGetter err), some e.exposedError)
  | .default => (h, none)

end Selected

def ErrorMapper.transform (is : Error → Target → Bool) (m : ErrorMapper Error Target Details)
    (err : Error) (h : ErrorHeap Details) : ErrorHeap Details × Option Nat :=
  (m.select is err).finish err h

theorem head_filter_argmax {α : Type} {f : α → Nat} {l : List α} {a : α}
    (h : l.argmax f = some a) : (l.filter (f · = f a)).head? = some a := by
  induction l using reverseRecOn generalizing a with
  | nil => cases h
  | append_singleton l b ih =>
    rw [argmax_concat] at h
    rw [filter_append, head?_append]
    cases hl : l.argmax f with
    | none =>
      simp only [hl, Option.some.injEq] at h
      simp [argmax_eq_none.1 hl, h]
    | some c =>
      simp only [hl] at h
      split at h
      · rename_i hlt
        cases h
        have hnone : l.filter (f · = f b) = [] := filter_eq_nil_iff.2 fun x hx => by
          have hle := le_of_mem_argmax hx hl
          simp only [decide_eq_true_eq]
          omega
        simp [hnone]
      · cases h
        rw [ih hl]
        rfl

theorem argmax_congr_filter {α : Type} {f : α → Nat} {l l' : List α}
    (h : ∀ n, l'.filter (f · = n) = l.filter (f · = n)) : l'.argmax f = l.argmax f := by
  have hmem : ∀ a, a ∈ l' ↔ a ∈ l := by
    intro a
    simpa using congrArg (a ∈ ·) (h (f a))
  cases hl : l.argmax f with
  | none =>
    rw [argmax_eq_none] at hl ⊢
    exact eq_nil_iff_forall_not_mem.2 fun a ha => by simpa [hl] using (hmem a).1 ha
  | some a =>
    cases hl' : l'.argmax f with
    | none =>
      have ha := (hmem a).2 (argmax_mem hl)
      simp [argmax_eq_none.1 hl'] at ha
    | some b =>
      have hab : f b = f a := le_antisymm
        (le_of_mem_argmax ((hmem b).1 (argmax_mem hl')) hl)
        (le_of_mem_argmax ((hmem a).2 (argmax_mem hl)) hl')
      rw [← head_filter_argmax hl', ← head_filter_argmax hl, hab, h]

section Best

variable (is : Error → Target → Bool) (m : ErrorMapper Error Target Details) (err : Error)

/-- The entry has a chain, and all of its errors are in `err`. -/
def ExposedErrors.Matches (e : ExposedErrors Error Target Details) : Prop :=
  e.internalErrorChain ≠ [] ∧ ∀ t ∈ e.internalErrorChain, is err t = true

instance (e : ExposedErrors Error Target Details) : Decidable (e.Matches is err) :=
  inferInstanceAs (Decidable (e.internalErrorChain ≠ [] ∧ ∀ t ∈ e.internalErrorChain, is err t = true))

/-- The first of the matching entries with the longest chain. -/
def ErrorMapper.longestMatch (l : List (ExposedErrors Error Target Details)) :
    Option (ExposedErrors Error Target Details) :=
  (l.filter fun e => e.Matches is err).argmax fun e => e.internalErrorChain.length

/-- The loop of `getBestMatches`: `result` starts with the best match so far, and `minCount` is the
length of its chain. -/
theorem addMatch_fold (l : List (ExposedErrors Error Target Details)) :
    let acc := l.foldl (ErrorMapper.addMatch is err) (1, [])
    let best := ErrorMapper.longestMatch is err l
    acc.2.head? = best ∧ acc.1 = best.elim 1 fun e => e.internalErrorChain.length := by
  induction l using reverseRecOn with
  | nil => exact ⟨rfl, rfl⟩
  | append_singleton l e ih =>
    obtain ⟨hhead, hcount⟩ := ih
    have hpos : ∀ b, ErrorMapper.longestMatch is err l = some b →
        0 < b.internalErrorChain.length := by
      intro b hb
      have hb := (mem_filter.1 (argmax_mem hb)).2
      exact length_pos_of_ne_nil (of_decide_eq_true hb).1
    have hnil : ErrorMapper.longestMatch is err l = none →
        (l.foldl (ErrorMapper.addMatch is err) (1, [])).2 = [] := by
      intro hl
      rw [hl] at hhead
      exact head?_eq_none_iff.1 hhead
    simp only [foldl_append, foldl_cons, foldl_nil]
    generalize l.foldl (ErrorMapper.addMatch is err) (1, []) = acc at hhead hcount hnil
    by_cases he : e.Matches is err
    · have hall : countMatchingErrors is err e.internalErrorChain = e.internalErrorChain.length :=
        countP_eq_length.2 he.2
      have hlen := length_pos_of_ne_nil he.1
      have hbest : ErrorMapper.longestMatch is err (l ++ [e]) =
          Option.casesOn (ErrorMapper.longestMatch is err l) (some e) fun c =>
            if c.internalErrorChain.length < e.internalErrorChain.length then some e else some c := by
        simp only [ErrorMapper.longestMatch, filter_append, filter_cons, he,
          decide_true, if_true, filter_nil, argmax_concat]
      rw [hbest]
      simp only [ErrorMapper.addMatch, hall, lt_irrefl, if_false]
      cases hl : ErrorMapper.longestMatch is err l with
      | none =>
        rw [hl] at hcount
        simp only [Option.elim_none] at hcount
        rw [hnil hl, hcount]
        split
        · exact ⟨rfl, by simp; omega⟩
        · split
          · exact ⟨rfl, rfl⟩
          · omega
      | some c =>
        rw [hl] at hhead hcount
        simp only [Option.elim_some] at hcount
        rw [hcount]
        dsimp only
        rcases lt_trichotomy c.internalErrorChain.length e.internalErrorChain.length with h | h | h
        · simp [h, h.ne']
        · simp [← h, hhead]
        · simp [h.not_gt, h.ne, hhead, hcount]
    · have hkeep : ErrorMapper.addMatch is err acc e = acc := by
        unfold ErrorMapper.addMatch
        by_cases hchain : e.internalErrorChain = []
        · have hacc : 0 < acc.1 := by
            rw [hcount]
            cases hl : ErrorMapper.longestMatch is err l with
            | none => exact Nat.one_pos
            | some b => exact hpos b hl
          simp [hchain, countMatchingErrors, hacc.ne]
        · have hlt : countMatchingErrors is err e.internalErrorChain < e.internalErrorChain.length :=
            lt_of_le_of_ne countP_le_length fun h =>
              he ⟨hchain, countP_eq_length.1 h⟩
          simp only [hlt, if_true]
      have hbest : ErrorMapper.longestMatch is err (l ++ [e]) = ErrorMapper.longestMatch is err l := by
        simp [ErrorMapper.longestMatch, he]
      rw [hkeep, hbest]
      exact ⟨hhead, hcount⟩

/-- `Transform` returns the first priority entry with an error in `err`, else the first of the
longest chains that match, else the default error. Only the order among chains of one length
matters. -/
theorem transform_best_match (h : ErrorHeap Details) :
    (m.transform is err h).2 =
        ((m.priorityErrors.find? fun e => e.internalErrorChain.any (is err)).or
          (ErrorMapper.longestMatch is err m.errors)).map (·.exposedError) ∧
      ∀ errors' : List (ExposedErrors Error Target Details),
        (∀ n, errors'.filter (·.internalErrorChain.length = n) =
          m.errors.filter (·.internalErrorChain.length = n)) →
        ErrorMapper.transform is ⟨errors', m.priorityErrors⟩ err h = m.transform is err h := by
  have hprio : m.containsAsPriority is err =
      m.priorityErrors.find? fun e => e.internalErrorChain.any (is err) := by
    unfold ErrorMapper.containsAsPriority
    congr 1
    funext e
    rw [Bool.eq_iff_iff]
    simp [countMatchingErrors, List.countP_pos_iff]
  have hselect : ∀ l, (ErrorMapper.mk l m.priorityErrors).select is err =
      (m.containsAsPriority is err).elim
        ((ErrorMapper.longestMatch is err l).elim .default .best) .priority := by
    intro l
    unfold ErrorMapper.select
    have hp : (ErrorMapper.mk l m.priorityErrors).containsAsPriority is err =
      m.containsAsPriority is err := rfl
    rw [hp]
    cases m.containsAsPriority is err with
    | some e => rfl
    | none =>
      rw [← (addMatch_fold is err l).1]
      unfold ErrorMapper.getBestMatches
      dsimp only
      cases (l.foldl (ErrorMapper.addMatch is err) (1, [])).2 with
      | nil => rfl
      | cons e rest => rfl
  constructor
  · unfold ErrorMapper.transform
    rw [hselect m.errors, hprio]
    cases m.priorityErrors.find? fun e => e.internalErrorChain.any (is err) with
    | some e => rfl
    | none =>
      cases ErrorMapper.longestMatch is err m.errors with
      | none => rfl
      | some e =>
        simp only [Option.elim_none, Option.elim_some, Selected.finish, Option.none_or, Option.map_some]
        split <;> rfl
  · intro errors' horder
    have hbest : ErrorMapper.longestMatch is err errors' = ErrorMapper.longestMatch is err m.errors :=
      argmax_congr_filter fun n => by
        rw [List.filter_comm, horder n, List.filter_comm]
    unfold ErrorMapper.transform
    rw [hselect errors', hbest, ← hselect m.errors]

end Best

inductive ErrorPhase (Error Target Details : Type) where
  | failed
  | selected (s : Selected Error Target Details)
  | transformed (p : Option Nat)
  /-- The `Context` written to the response. -/
  | responded (context : Option Details)

structure Serving (ι Error Target Details : Type) where
  heap : ErrorHeap Details
  phase : ι → ErrorPhase Error Target Details

section Requests

variable {ι : Type} [DecidableEq ι] (is : Error → Target → Bool)
  (m : ErrorMapper Error Target Details) (err : ι → Error)

namespace Serving

def advance (s : Serving ι Error Target Details) (i : ι) : Serving ι Error Target Details :=
  match s.phase i with
  | .failed => { s with phase := Function.update s.phase i (.selected (m.select is (err i))) }
  | .selected sel =>
    let r := sel.finish (err i) s.heap
    ⟨r.1, Function.update s.phase i (.transformed r.2)⟩
  | .transformed p =>
    { s with phase := Function.update s.phase i (.responded (p.bind s.heap.context)) }
  | .responded _ => s

def start (h : ErrorHeap Details) : Serving ι Error Target Details := ⟨h, fun _ => .failed⟩

def run (s : Serving ι Error Target Details) (schedule : List ι) : Serving ι Error Target Details :=
  schedule.foldl (advance is m err) s

end Serving

/-- What request `i` has to read: what the getter of its own entry makes of its own error. -/
def ownContext (i : ι) : Option Details :=
  (m.select is (err i)).entryOf.bind fun e => e.contextGetter.map fun get => get (err i)

/-- Every response has its own context, and the table is as it was. -/
structure OwnContexts (h : ErrorHeap Details) (s : Serving ι Error Target Details) : Prop where
  own : ∀ i c, s.phase i = .responded c → c = ownContext is m err i
  table : ∀ e ∈ m.errors ++ m.priorityErrors, s.heap.errors e.exposedError = h.errors e.exposedError

/-- `Transform` of this selection writes nothing, and what its entry has is what must be read. -/
def Selected.Silent (h : ErrorHeap Details) (err : Error) : Selected Error Target Details → Prop
  | .priority e => h.context e.exposedError = e.contextGetter.map fun get => get err
  | .best e => e.contextGetter = none ∧ (h.errors e.exposedError).context = none
  | .default => True

variable {is m err} {h : ErrorHeap Details} {s : Serving ι Error Target Details} {i : ι}

/-- A request whose table entry is silent: it has come as far as the entry says. -/
def Selected.Reached (err : Error) (sel : Selected Error Target Details) :
    ErrorPhase Error Target Details → Prop
  | .failed => True
  | .selected sel' => sel' = sel
  | .transformed p => p = sel.entryOf.map (·.exposedError)
  | .responded c => c = sel.entryOf.bind fun e => e.contextGetter.map fun get => get err

theorem Selected.Silent.finish {sel : Selected Error Target Details} {err : Error}
    (hs : sel.Silent h err) : sel.finish err h = (h, sel.entryOf.map (·.exposedError)) := by
  cases sel with
  | priority e => rfl
  | best e => simp only [Selected.finish, hs.1]; rfl
  | default => rfl

theorem Selected.Silent.context {sel : Selected Error Target Details} {err : Error}
    (hs : sel.Silent h err) :
    ((sel.entryOf.map (·.exposedError)).bind h.context) =
      sel.entryOf.bind fun e => e.contextGetter.map fun get => get err := by
  cases sel with
  | priority e => exact hs
  | best e => simp [Selected.entryOf, hs.1, ErrorHeap.context_eq_none.2 hs.2]
  | default => rfl

theorem mem_of_select {err : Error} {e : ExposedErrors Error Target Details}
    (hsel : m.select is err = .best e) : e ∈ m.errors := by
  have hfold : ∀ l acc, e ∈ (foldl (ErrorMapper.addMatch is err) acc l).2 →
      e ∈ acc.2 ∨ e ∈ l := by
    intro l
    induction l with
    | nil => exact fun acc he => .inl he
    | cons mErr l ih =>
      intro acc he
      rcases ih _ he with he | he
      · unfold ErrorMapper.addMatch at he
        dsimp only at he
        split_ifs at he
        · exact .inl he
        · rcases mem_append.1 he with he | he
          · exact .inl he
          · exact .inr (by simp [mem_singleton.1 he])
        · exact .inr (by simp [mem_singleton.1 he])
        · exact .inl he
      · exact .inr (mem_cons_of_mem _ he)
  have hmem : e ∈ m.getBestMatches is err := by
    unfold ErrorMapper.select at hsel
    split at hsel
    · cases hsel
    · split at hsel
      · cases hsel
      · rename_i hbest
        cases hsel
        simp [hbest]
  simpa using hfold m.errors (1, []) hmem

theorem silent_advance (hsilent : ∀ i, (m.select is (err i)).Silent h (err i)) (hheap : s.heap = h)
    (hphase : ∀ i, (m.select is (err i)).Reached (err i) (s.phase i)) (j : ι) :
    (s.advance is m err j).heap = h ∧
      ∀ i, (m.select is (err i)).Reached (err i) ((s.advance is m err j).phase i) := by
  have hj := hphase j
  unfold Serving.advance
  split
  all_goals rename_i hp
  all_goals rw [hp] at hj
  · refine ⟨hheap, fun i => ?_⟩
    by_cases hi : i = j
    · subst hi
      simp [Selected.Reached]
    · simpa [hi] using hphase i
  · obtain rfl := hj
    rw [hheap, (hsilent j).finish]
    refine ⟨rfl, fun i => ?_⟩
    by_cases hi : i = j
    · subst hi
      simp [Selected.Reached]
    · simpa [hi] using hphase i
  · obtain rfl := hj
    rw [hheap, (hsilent j).context]
    refine ⟨rfl, fun i => ?_⟩
    by_cases hi : i = j
    · subst hi
      simp [Selected.Reached]
    · simpa [hi] using hphase i
  · exact ⟨hheap, hphase⟩

theorem silent_run (hsilent : ∀ i, (m.select is (err i)).Silent h (err i)) (schedule : List ι)
    (hheap : s.heap = h) (hphase : ∀ i, (m.select is (err i)).Reached (err i) (s.phase i)) :
    (s.run is m err schedule).heap = h ∧
      ∀ i, (m.select is (err i)).Reached (err i) ((s.run is m err schedule).phase i) := by
  induction schedule generalizing s with
  | nil => exact ⟨hheap, hphase⟩
  | cons j schedule ih =>
    obtain ⟨hheap', hphase'⟩ := silent_advance hsilent hheap hphase j
    exact ih hheap' hphase'

theorem run_alone (i : ι) :
    ((Serving.start h).run is m err [i, i, i]).heap = (m.transform is (err i) h).1 ∧
      ((Serving.start h).run is m err [i, i, i]).phase i =
        .responded ((m.transform is (err i) h).2.bind (m.transform is (err i) h).1.context) := by
  simp [Serving.run, Serving.start, Serving.advance, ErrorMapper.transform]

/-- No interleaving disturbs the requests exactly if each of them selects an entry that `Transform`
leaves as it is. -/
theorem context_own_iff :
    (∀ schedule, OwnContexts is m err h ((Serving.start h).run is m err schedule)) ↔
      ∀ i, (m.select is (err i)).Silent h (err i) := by
  constructor
  · intro hall i
    obtain ⟨hheap, hphase⟩ := run_alone (h := h) (m := m) (i := i)
    have hund := hall [i, i, i]
    have hown := hund.own i _ hphase
    simp only [ErrorMapper.transform, ownContext] at hheap hown
    cases hsel : m.select is (err i) with
    | default => trivial
    | priority e =>
      rw [hsel] at hown
      exact hown
    | best e =>
      rw [hsel] at hheap hown
      cases hget : e.contextGetter with
      | none =>
        simp only [Selected.finish, hget, Selected.entryOf, Option.bind_some, Option.map_none] at hown
        exact ⟨hget, ErrorHeap.context_eq_none.1 hown⟩
      | some get =>
        have htable := hund.table e (List.mem_append_left _ (mem_of_select hsel))
        simp only [hheap, Selected.finish, hget] at htable
        exact absurd htable (h.setContext_ne _ _)
  · intro hsilent schedule
    obtain ⟨hheap, hphase⟩ := silent_run hsilent schedule (s := Serving.start h)
      rfl fun _ => trivial
    refine ⟨fun i c hc => ?_, fun e _ => by rw [hheap]⟩
    have hi := hphase i
    rw [hc] at hi
    exact hi

end Requests

def Err.asInsufficientApprovers : Err → Option (Int × Nat)
  | .insufficientApprovers required actual => some (required, actual)
  | .wrap base ext => base.asInsufficientApprovers <|> ext.asInsufficientApprovers
  | .wrapf base _ => base.asInsufficientApprovers
  | .errorf _ e => e.asInsufficientApprovers
  | .join e e' => e.asInsufficientApprovers <|> e'.asInsufficientApprovers
  | _ => none

def getInsufficientApproversContext (err : Err) : List (String × Int) :=
  match err.asInsufficientApprovers with
  | some (required, actual) =>
    [("requiredApprovers", required), ("actualEligibleApprovers", actual)]
  | none => []

namespace Sample

/-- The entry of the API table for a group with too few members. -/
def workflowErrors : ErrorMapper Err Sentinel (List (String × Int)) where
  errors := [⟨[.errWorkflowGroupNotSufficientMembers], 0, some getInsufficientApproversContext⟩]
  priorityErrors := []

def errorTable : ErrorHeap (List (String × Int)) where
  errors _ :=
    { code := "WORKFLOW_GROUP_NOT_SUFFICIENT_MEMBERS"
      message := "The responsible user group does not have enough members to meet the minimum " ++
        "approval criteria"
      status := 400
      context := none }
  maps := []
  allocated _ _ h := by cases h

def tooFew (i : Fin 2) : Err :=
  if i = 0 then .insufficientApprovers 2 1 else .insufficientApprovers 3 0

/-- The first request answers with the numbers of the second. -/
theorem context_of_other_request :
    let s := (Serving.start errorTable).run Err.is workflowErrors tooFew [0, 0, 1, 1, 0]
    (∃ c, s.phase 0 = .responded c ∧ c = ownContext Err.is workflowErrors tooFew 1 ∧
      c ≠ ownContext Err.is workflowErrors tooFew 0) ∧
      s.heap.errors 0 ≠ errorTable.errors 0 := by
  refine ⟨⟨_, rfl, ?_, ?_⟩, ?_⟩ <;> decide

end Sample

end Cmk
