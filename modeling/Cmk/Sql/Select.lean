import Cmk.Sql.Query

/-!
# Cmk.Sql.Select

`repo.Query` and `applyQuery`: the joins, the groups of composite keys and the grouping of a listing.

- `applyQuery`: the condition of a query, each composite key in parentheses.
- `Query.rows`: the rows a query selects from the tables.
-/

namespace Cmk

open List
namespace Sql

structure CompositeKeyGroup where
  compositeKey : CompositeKey
  isStrict : Bool

def newCompositeKeyGroup (key : CompositeKey) : CompositeKeyGroup := ⟨key, true⟩

/-- Where a left join looks for partners; the joins of the other types are not used. -/
structure JoinCondition where
  table : String
  field : String
  joinTable : String
  joinField : String
  deriving DecidableEq, Repr

structure Query where
  limit : Nat
  offset : Nat
  compositeKeyGroup : List CompositeKeyGroup
  joins : List JoinCondition
  group : List QueryField

def newQuery : Query := ⟨0, 0, [], [], []⟩

namespace Query

def addWhere (q : Query) (cond : CompositeKeyGroup) : Query :=
  { q with compositeKeyGroup := q.compositeKeyGroup ++ [cond] }

/-- A join is made once. -/
def join (q : Query) (onCondition : JoinCondition) : Query :=
  if onCondition ∈ q.joins then q else { q with joins := q.joins ++ [onCondition] }

def groupBy (q : Query) (field : QueryField) : Query := { q with group := q.group ++ [field] }

def setLimit (q : Query) (limit : Nat) : Query := { q with limit := limit }

def setOffset (q : Query) (offset : Nat) : Query := { q with offset := offset }

end Query

section Condition

variable (lt : Datum → Datum → Bool) (resource : String)

/-- A session as one condition, in parentheses. One without conditions adds nothing. -/
def addSession (baseQuery : Session) (connective : Connective) (tk : Session) : Session :=
  if tk.isEmpty then baseQuery else baseQuery ++ [⟨connective, fun row => value row tk⟩]

/-- The loop of `applyQuery` after the first composite key. -/
def applyGroups (baseQuery : Session) : List CompositeKeyGroup → Except Exn Session
  | [] => .ok baseQuery
  | ck :: cks => do
    let tk ← handleCompositeKey lt resource ck.compositeKey
    applyGroups (addSession baseQuery (if ck.isStrict then .and else .or) tk) cks

/-- The `WHERE` of `applyQuery`. The first composite key stands alone, whatever its flag. -/
def applyQuery (query : Query) : Except Exn Session :=
  match query.compositeKeyGroup with
  | [] => .ok []
  | ck :: cks => do
    let tk ← handleCompositeKey lt resource ck.compositeKey
    applyGroups lt resource (addSession [] .and tk) cks

abbrev Tables := String → List (String → Cell)

def Row.extend (row : Row) (table : String) (r : String → Cell) : Row := fun column =>
  if column.table = table then r column.name else row column

variable {α : Type}

/-- The rows of the resource, each with the struct it is read into. -/
def fromRows (rows : List (α × (String → Cell))) : List (α × Row) :=
  rows.map fun p => (p.1, Row.extend (fun _ => none) resource p.2)

/-- `LEFT JOIN … ON …`: without a partner the cells of the joined table are NULL. -/
def JoinCondition.apply (tables : Tables) (on : JoinCondition) : List (α × Row) → List (α × Row) :=
  leftJoin (fun p r => eq (p.2 ⟨on.table, on.field⟩) (r on.joinField))
    (fun p r => (p.1, p.2.extend on.joinTable (r.getD fun _ => none))) (tables on.joinTable)

/-- The rows a query selects, before they are cut into pages. -/
def Query.rows (query : Query) (tables : Tables) (rows : List (α × (String → Cell))) :
    Except Exn (List α) := do
  let tx ← applyQuery lt resource query
  let joined := query.joins.foldl (fun rows on => on.apply tables rows) (fromRows resource rows)
  let selected := joined.filter fun p => (value p.2 tx).Holds
  if query.group = [] then return selected.map Prod.fst
  else
    return (Sql.groupBy (fun p => query.group.map fun f => p.2 (.of resource f)) selected).map Prod.fst

end Condition

theorem JoinCondition.mem_apply {α β : Type} {tables : Tables} (on : JoinCondition) (l : List β)
    (columns : β → String → Cell) (h : tables on.joinTable = l.map columns)
    {rows : List (α × Row)} {p : α × Row} :
    p ∈ on.apply tables rows ↔ ∃ q ∈ rows, ∃ o,
      Partner l (fun b => (eq (q.2 ⟨on.table, on.field⟩) (columns b on.joinField)).Holds) o ∧
        p = (q.1, q.2.extend on.joinTable ((o.map columns).getD fun _ => none)) := by
  rw [JoinCondition.apply, mem_leftJoin, h]
  refine exists_congr fun q => and_congr_right fun _ => ?_
  simp only [partner_map]
  constructor
  · rintro ⟨_, ⟨o, ho, rfl⟩, rfl⟩
    exact ⟨o, ho, rfl⟩
  · rintro ⟨o, ho, rfl⟩
    exact ⟨_, ⟨o, ho, rfl⟩, rfl⟩

section Strict

variable (lt : Datum → Datum → Bool) (resource : String)

def CompositeKey.Sound (ck : CompositeKey) : Prop := ∀ cond ∈ ck.conds, cond.value.err = none

theorem CompositeKey.Sound.handle {ck : CompositeKey} (h : ck.Sound) :
    ∃ tk, handleCompositeKey lt resource ck = .ok tk ∧
      ∀ row, (value row tk).Holds ↔ Selects lt resource ck row := by
  refine ⟨_, handleConds_eq lt resource h [], fun row => ?_⟩
  rw [selects_iff lt resource h, nil_append]

theorem addSession_and {baseQuery : Session} (tk : Session)
    (h : ∀ c ∈ baseQuery, c.connective = .and) :
    (∀ c ∈ addSession baseQuery .and tk, c.connective = .and) ∧ ∀ row,
      (value row (addSession baseQuery .and tk)).Holds ↔
        (value row baseQuery).Holds ∧ (value row tk).Holds := by
  unfold addSession
  split
  · rename_i hempty
    rw [List.isEmpty_iff] at hempty
    subst hempty
    exact ⟨h, fun row => by simp [value, Truth.Holds]⟩
  · have hall : ∀ c ∈ baseQuery ++ [⟨.and, fun row => value row tk⟩], c.connective = .and := by
      intro c hc
      rcases mem_append.1 hc with hc | hc
      · exact h c hc
      · rw [mem_singleton.1 hc]
    refine ⟨hall, fun row => ?_⟩
    rw [holds_value_and hall, holds_value_and h, forall_mem_append, forall_mem_singleton]

theorem applyGroups_strict {cks : List CompositeKeyGroup}
    (h : ∀ ck ∈ cks, ck.isStrict = true ∧ ck.compositeKey.Sound) {baseQuery : Session}
    (hbase : ∀ c ∈ baseQuery, c.connective = .and) :
    ∃ tx, applyGroups lt resource baseQuery cks = .ok tx ∧ ∀ row, (value row tx).Holds ↔
      (value row baseQuery).Holds ∧ ∀ ck ∈ cks, Selects lt resource ck.compositeKey row := by
  induction cks generalizing baseQuery with
  | nil => exact ⟨baseQuery, rfl, fun row => by simp⟩
  | cons ck cks ih =>
    obtain ⟨hstrict, hsound⟩ := h ck (by simp)
    obtain ⟨tk, htk, hrow⟩ := hsound.handle lt resource
    obtain ⟨hand, hvalue⟩ := addSession_and tk hbase
    obtain ⟨tx, htx, hall⟩ := ih (fun ck' hck' => h ck' (by simp [hck'])) hand
    refine ⟨tx, ?_, fun row => ?_⟩
    · rw [applyGroups, htk, hstrict]
      exact htx
    · rw [hall, hvalue, hrow, forall_mem_cons, and_assoc]

theorem applyQuery_strict {query : Query}
    (h : ∀ ck ∈ query.compositeKeyGroup, ck.isStrict = true ∧ ck.compositeKey.Sound) :
    ∃ tx, applyQuery lt resource query = .ok tx ∧ ∀ row, (value row tx).Holds ↔
      ∀ ck ∈ query.compositeKeyGroup, Selects lt resource ck.compositeKey row := by
  unfold applyQuery
  cases hgroup : query.compositeKeyGroup with
  | nil => exact ⟨[], rfl, fun row => by simp [value, Truth.Holds]⟩
  | cons ck cks =>
    rw [hgroup] at h
    have hnil : ∀ c ∈ ([] : Session), c.connective = .and := by simp
    obtain ⟨tx, htx, hrow⟩ := applyGroups_strict lt resource h hnil
    refine ⟨tx, ?_, fun row => ?_⟩
    · rw [← htx, applyGroups, (h ck (by simp)).1]
      rfl
    · rw [hrow]
      simp [value, Truth.Holds]

theorem rows_strict {α : Type} {query : Query}
    (h : ∀ ck ∈ query.compositeKeyGroup, ck.isStrict = true ∧ ck.compositeKey.Sound)
    (hjoins : query.joins = []) (hgroup : query.group = []) (tables : Tables)
    (rows : List (α × (String → Cell))) :
    ∃ p : (String → Cell) → Bool, query.rows lt resource tables rows =
        .ok ((rows.filter fun r => p r.2).map Prod.fst) ∧
      ∀ r, p r = true ↔ ∀ ck ∈ query.compositeKeyGroup,
        Selects lt resource ck.compositeKey (Row.extend (fun _ => none) resource r) := by
  obtain ⟨tx, htx, hrow⟩ := applyQuery_strict lt resource h
  refine ⟨fun r => (value (Row.extend (fun _ => none) resource r) tx).Holds, ?_, fun r => ?_⟩
  · rw [Query.rows, htx, hjoins, hgroup]
    simp [fromRows, filter_map, Function.comp_def, bind, Except.bind, pure, Except.pure]
  · rw [decide_eq_true_eq, hrow]

end Strict

end Sql
end Cmk
