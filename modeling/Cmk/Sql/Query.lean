import Cmk.Odata.Bytes
import Cmk.Sql.Logic
import Cmk.Store

/-!
# Cmk.Sql.Query

Composite keys of `repo.Query`, and what `handleCompositeKey` makes of them for gorm: `Where` adds a
condition with `AND`, `Or` one with `OR`, and an `OR` inside the text of one `Where` is put in
parentheses.

- `handleCompositeKey`: the chain of conditions.
- `Key.Holds`: what a condition says.
- `composite_key_denotes_iff`: when the chain says it of all of them, or of one of them.
-/

namespace Cmk

open List
namespace Sql

open Bytes

inductive Datum where
  | text (s : Bytes)
  | bool (b : Bool)
  | int (n : Int)
  | uuid (id : UUID)
  deriving DecidableEq, Repr

/-- A cell may be NULL. -/
abbrev Cell := Option Datum

structure Column where
  table : String
  name : String
  deriving DecidableEq, Repr

/-- The cells of a row, of all tables that are joined. -/
abbrev Row := Column → Cell

abbrev QueryField := String

/-- The column of a field. If the field does not name a table, the one of the resource is meant. -/
def Column.of (resource : String) (field : QueryField) : Column :=
  let name := (field.toList.reverse.takeWhile (· ≠ '.')).reverse
  if name = field.toList then ⟨resource, field⟩
  else ⟨String.ofList (field.toList.take (field.toList.length - name.length - 1)), String.ofList name⟩

inductive ComparisonOp where
  | equal | notEqual | greaterThan | lessThan
  deriving DecidableEq, Repr

/-- The value of a key, as far as the repository tells values apart: a Go string, a slice, or
anything else with what it is to the database. -/
inductive KeyValue where
  | string (s : Bytes)
  | scalar (c : Cell)
  | slice (cs : List Cell)
  deriving DecidableEq, Repr

structure Key where
  value : KeyValue
  operation : ComparisonOp
  deriving DecidableEq, Repr

structure CompositeKeyEntry where
  key : Key
  err : Option Err := none

structure Condition where
  field : QueryField
  value : CompositeKeyEntry

structure CompositeKey where
  isStrict : Bool
  conds : List Condition

def null : Bytes := ascii "null"

def notNull : Bytes := ascii "not_null"

def notEmpty : Bytes := ascii "not_empty"

def empty : Bytes := ascii "empty"

def falseNull : Bytes := ascii "false_null"

def markers : List Bytes := [null, notNull, notEmpty, empty, falseNull]

/-- What a comparison other than with `IN` is made with. A slice is written as a list, which is an
operand only if it has one element. -/
def KeyValue.operand : KeyValue → Cell
  | .string s => some (.text s)
  | .scalar c => c
  | .slice [c] => c
  | .slice _ => none

abbrev Session := List (Clause Row)

namespace Session

def addWhere (tx : Session) (cond : Row → Truth) : Session := tx ++ [⟨.and, cond⟩]

/-- `Or`. -/
def addOr (tx : Session) (cond : Row → Truth) : Session := tx ++ [⟨.or, cond⟩]

end Session

section Translation

-- the order of the database
variable (lt : Datum → Datum → Bool)

def applyCondition (tx : Session) (isStrict : Bool) (cond : Row → Truth) : Session :=
  if isStrict then tx.addWhere cond else tx.addOr cond

def applyFieldEqualCondition (tx : Session) (field : Column) (value : KeyValue) (isStrict : Bool) :
    Session :=
  match value with
  | .string s =>
    if s = null then applyCondition tx isStrict fun row => isNull (row field)
    else if s = notNull then tx.addWhere fun row => isNotNull (row field)
    else if s = notEmpty then
      (tx.addWhere fun row => isNotNull (row field)).addWhere fun row =>
        ne (row field) (some (.text []))
    else if s = empty then
      tx.addWhere fun row => (isNull (row field)).or (eq (row field) (some (.text [])))
    else if s = falseNull then
      tx.addWhere fun row => (isNull (row field)).or (eq (row field) (some (.bool false)))
    else applyCondition tx isStrict fun row => eq (row field) (some (.text s))
  | .scalar c => applyCondition tx isStrict fun row => eq (row field) c
  | .slice cs =>
    -- an empty list is written (NULL)
    applyCondition tx isStrict fun row => isIn (row field) (if cs = [] then [none] else cs)

def applyFieldCondition (tx : Session) (field : Column) (key : Key) (isStrict : Bool) : Session :=
  match key.operation with
  | .equal => applyFieldEqualCondition tx field key.value isStrict
  | .notEqual => applyCondition tx isStrict fun row => ne (row field) key.value.operand
  | .greaterThan =>
    applyCondition tx isStrict fun row => compare (fun a b => lt b a) (row field) key.value.operand
  | .lessThan => applyCondition tx isStrict fun row => compare lt (row field) key.value.operand

def handleConds (resource : String) (isStrict : Bool) (tx : Session) :
    List Condition → Except Exn Session
  | [] => .ok tx
  | cond :: conds =>
    match cond.value.err with
    | some e => .error (.err e)
    | none =>
      handleConds resource isStrict
        (applyFieldCondition lt tx (.of resource cond.field) cond.value.key isStrict) conds

def handleCompositeKey (resource : String) (compositeKey : CompositeKey) : Except Exn Session :=
  handleConds lt resource compositeKey.isStrict [] compositeKey.conds

namespace Key

def Holds (key : Key) (c : Cell) : Prop :=
  match key.operation with
  | .equal =>
    match key.value with
    | .string s =>
      if s = null then c = none
      else if s = notNull then c ≠ none
      else if s = notEmpty then c ≠ none ∧ c ≠ some (.text [])
      else if s = empty then c = none ∨ c = some (.text [])
      else if s = falseNull then c = none ∨ c = some (.bool false)
      else c = some (.text s)
    | .scalar v => c = v ∧ v ≠ none
    | .slice vs => c ∈ vs ∧ c ≠ none
  | .notEqual => c ≠ key.value.operand ∧ c ≠ none ∧ key.value.operand ≠ none
  | .greaterThan => ∃ a ∈ c, ∃ b ∈ key.value.operand, lt b a
  | .lessThan => ∃ a ∈ c, ∃ b ∈ key.value.operand, lt a b

/-- A key whose conditions are added with `Where`, whether the composite key is strict or not. -/
def usesWhere (key : Key) : Bool :=
  key.operation = .equal &&
    match key.value with
    | .string s => s ∈ [notNull, notEmpty, empty, falseNull]
    | _ => false

/-- The conditions of a key. Only that of a cell that is not empty has two. -/
def conds (key : Key) : List (Cell → Truth) :=
  match key.operation with
  | .equal =>
    match key.value with
    | .string s =>
      if s = null then [isNull]
      else if s = notNull then [isNotNull]
      else if s = notEmpty then [isNotNull, fun c => ne c (some (.text []))]
      else if s = empty then [fun c => (isNull c).or (eq c (some (.text [])))]
      else if s = falseNull then [fun c => (isNull c).or (eq c (some (.bool false)))]
      else [fun c => eq c (some (.text s))]
    | .scalar v => [fun c => eq c v]
    | .slice vs => [fun c => isIn c (if vs = [] then [none] else vs)]
  | .notEqual => [fun c => ne c key.value.operand]
  | .greaterThan => [fun c => compare (fun a b => lt b a) c key.value.operand]
  | .lessThan => [fun c => compare lt c key.value.operand]

def connective (key : Key) (isStrict : Bool) : Connective :=
  if isStrict || key.usesWhere then .and else .or

def clauses (key : Key) (isStrict : Bool) (field : Column) : List (Clause Row) :=
  (key.conds lt).map fun p => ⟨key.connective isStrict, fun row => p (row field)⟩

theorem conds_ne_nil (key : Key) : key.conds lt ≠ [] := by
  unfold conds
  split
  · split
    · split_ifs <;> simp
    · simp
    · simp
  all_goals simp

theorem holds_conds (key : Key) (c : Cell) : (∀ p ∈ key.conds lt, (p c).Holds) ↔ key.Holds lt c := by
  obtain ⟨value, operation⟩ := key
  cases operation with
  | equal =>
    cases value with
    | string s =>
      simp only [conds, Holds]
      split_ifs <;> cases c <;> simp
    | scalar v =>
      simp only [conds, Holds, forall_mem_singleton, holds_eq]
      constructor
      · rintro ⟨rfl, h⟩
        exact ⟨rfl, h⟩
      · rintro ⟨rfl, h⟩
        exact ⟨rfl, h⟩
    | slice vs =>
      simp only [conds, Holds, forall_mem_singleton, holds_isIn]
      split
      · simp_all
      · rfl
  | notEqual => simp [conds, Holds]
  | greaterThan => simp [conds, Holds]
  | lessThan => simp [conds, Holds]

theorem conds_eq_singleton {key : Key} (h : key.usesWhere = false) : ∃ p, key.conds lt = [p] := by
  obtain ⟨value, operation⟩ := key
  cases operation with
  | equal =>
    cases value with
    | string s =>
      simp only [conds]
      split_ifs with h1 h2 h3
      · exact ⟨_, rfl⟩
      · exact ⟨_, rfl⟩
      · subst h3
        cases h
      all_goals exact ⟨_, rfl⟩
    | scalar v => exact ⟨_, rfl⟩
    | slice vs => exact ⟨_, rfl⟩
  | notEqual => exact ⟨_, rfl⟩
  | greaterThan => exact ⟨_, rfl⟩
  | lessThan => exact ⟨_, rfl⟩

/-- Some cell makes every condition of a key fail: NULL, unless the key asks for it. -/
theorem exists_refuting (key : Key) : ∃ c, ∀ p ∈ key.conds lt, ¬ (p c).Holds := by
  obtain ⟨value, operation⟩ := key
  cases operation with
  | equal =>
    cases value with
    | string s =>
      simp only [conds]
      split_ifs
      · exact ⟨some (.int 0), by simp⟩
      · exact ⟨none, by simp⟩
      · exact ⟨none, by simp⟩
      · exact ⟨some (.int 0), by simp⟩
      · exact ⟨some (.int 0), by simp⟩
      · exact ⟨none, by simp⟩
    | scalar v => exact ⟨none, by simp [conds]⟩
    | slice vs => exact ⟨none, by simp [conds]⟩
  | notEqual => exact ⟨none, by simp [conds]⟩
  | greaterThan => exact ⟨none, by simp [conds]⟩
  | lessThan => exact ⟨none, by simp [conds]⟩

theorem exists_holds_marker {s : Bytes} (h : s ∈ markers) :
    ∃ c, (∀ t, c ≠ some (.text t)) ∧ (⟨.string s, .equal⟩ : Key).Holds lt c := by
  simp only [markers, mem_cons, not_mem_nil, or_false] at h
  rcases h with rfl | rfl | rfl | rfl | rfl
  · exact ⟨none, by simp, by simp [Holds]⟩
  · exact ⟨some (.int 0), by simp, by simp [Holds, null, notNull, ascii]⟩
  · exact ⟨some (.int 0), by simp, by simp [Holds, null, notNull, notEmpty, ascii]⟩
  · exact ⟨none, by simp, by simp [Holds, null, notNull, notEmpty, empty, ascii]⟩
  · exact ⟨none, by simp, by simp [Holds, null, notNull, notEmpty, empty, falseNull, ascii]⟩

theorem exists_holds {key : Key} (h : key.usesWhere) : ∃ c, key.Holds lt c := by
  obtain ⟨value, operation⟩ := key
  simp only [usesWhere, Bool.and_eq_true, decide_eq_true_eq] at h
  obtain ⟨rfl, h⟩ := h
  cases value with
  | string s =>
    obtain ⟨c, -, hc⟩ := exists_holds_marker lt (mem_cons_of_mem null (of_decide_eq_true h))
    exact ⟨c, hc⟩
  | scalar v => cases h
  | slice vs => cases h

theorem usesWhere_text {s : Bytes} (h : s ∉ markers) :
    (⟨.string s, .equal⟩ : Key).usesWhere = false := by
  have hs : s ∉ [notNull, notEmpty, empty, falseNull] := fun hs => h (mem_cons_of_mem null hs)
  simpa [usesWhere] using hs

theorem holds_text_iff {s : Bytes} (h : s ∉ markers) (c : Cell) :
    (⟨.string s, .equal⟩ : Key).Holds lt c ↔ c = some (.text s) := by
  simp only [markers, mem_cons, not_mem_nil, or_false, not_or] at h
  simp only [Holds, h, if_false]

end Key

theorem applyFieldCondition_eq (tx : Session) (field : Column) (key : Key) (isStrict : Bool) :
    applyFieldCondition lt tx field key isStrict = tx ++ key.clauses lt isStrict field := by
  obtain ⟨value, operation⟩ := key
  have hcond : ∀ p : Cell → Truth, ∀ key : Key, key.usesWhere = false →
      applyCondition tx isStrict (fun row => p (row field)) =
        tx ++ [⟨key.connective isStrict, fun row => p (row field)⟩] := by
    intro p key hkey
    rw [applyCondition, Key.connective, hkey, Bool.or_false]
    split <;> rfl
  cases operation with
  | equal =>
    cases value with
    | string s =>
      by_cases hs : s ∈ [notNull, notEmpty, empty, falseNull]
      · have hand : (⟨.string s, .equal⟩ : Key).connective isStrict = .and := by
          simp [Key.connective, Key.usesWhere, hs]
        rw [Key.clauses, hand]
        simp only [mem_cons, not_mem_nil, or_false] at hs
        rcases hs with rfl | rfl | rfl | rfl
        · rfl
        · exact append_assoc _ _ _
        · rfl
        · rfl
      · have hkey : (⟨.string s, .equal⟩ : Key).usesWhere = false := by
          simp [Key.usesWhere, hs]
        simp only [mem_cons, not_mem_nil, or_false, not_or] at hs
        simp only [applyFieldCondition, applyFieldEqualCondition, Key.clauses, Key.conds, hs, if_false]
        split
        · exact hcond isNull _ hkey
        · exact hcond (fun c => eq c (some (.text s))) _ hkey
    | scalar v => exact hcond (fun c => eq c v) _ rfl
    | slice vs => exact hcond (fun c => isIn c (if vs = [] then [none] else vs)) _ rfl
  | notEqual => exact hcond (fun c => ne c value.operand) _ rfl
  | greaterThan => exact hcond (fun c => compare (fun a b => lt b a) c value.operand) _ rfl
  | lessThan => exact hcond (fun c => compare lt c value.operand) _ rfl

variable (resource : String)

def Condition.Holds (cond : Condition) (row : Row) : Prop :=
  cond.value.key.Holds lt (row (.of resource cond.field))

def Condition.clauses (isStrict : Bool) (cond : Condition) : List (Clause Row) :=
  cond.value.key.clauses lt isStrict (.of resource cond.field)

theorem handleConds_eq {isStrict : Bool} {conds : List Condition}
    (h : ∀ cond ∈ conds, cond.value.err = none) (tx : Session) :
    handleConds lt resource isStrict tx conds =
      .ok (tx ++ conds.flatMap fun cond => cond.clauses lt resource isStrict) := by
  induction conds generalizing tx with
  | nil => simp [handleConds]
  | cons cond conds ih =>
    rw [handleConds, h cond (by simp)]
    simp only [applyFieldCondition_eq, ih fun c hc => h c (by simp [hc]), flatMap_cons,
      append_assoc]
    rfl

def Selects (ck : CompositeKey) (row : Row) : Prop :=
  ∃ tx, handleCompositeKey lt resource ck = .ok tx ∧ (value row tx).Holds

theorem selects_iff {ck : CompositeKey} (h : ∀ cond ∈ ck.conds, cond.value.err = none) (row : Row) :
    Selects lt resource ck row ↔
      (value row (ck.conds.flatMap fun cond => cond.clauses lt resource ck.isStrict)).Holds := by
  rw [Selects, handleCompositeKey, handleConds_eq lt resource h]
  simp

variable {lt resource} {conds : List Condition} {row : Row}

theorem Condition.holds_clauses {cond : Condition} (isStrict : Bool) :
    (∀ c ∈ cond.clauses lt resource isStrict, (c.cond row).Holds) ↔ cond.Holds lt resource row := by
  rw [Condition.Holds, ← Key.holds_conds]
  simp [Condition.clauses, Key.clauses]

theorem Condition.connective_of_mem {cond : Condition} {isStrict : Bool} {c : Clause Row}
    (h : c ∈ cond.clauses lt resource isStrict) :
    c.connective = cond.value.key.connective isStrict := by
  obtain ⟨p, -, rfl⟩ := mem_map.1 h
  rfl

theorem selects_strict_iff (h : ∀ cond ∈ conds, cond.value.err = none) :
    Selects lt resource ⟨true, conds⟩ row ↔ ∀ cond ∈ conds, cond.Holds lt resource row := by
  rw [selects_iff lt resource h, holds_value_and]
  · simp only [mem_flatMap]
    constructor
    · intro hall cond hcond
      exact (Condition.holds_clauses true).1 fun c hc => hall c ⟨cond, hcond, hc⟩
    · rintro hall c ⟨cond, hcond, hc⟩
      exact (Condition.holds_clauses true).2 (hall cond hcond) c hc
  · intro c hc
    obtain ⟨cond, -, hc⟩ := mem_flatMap.1 hc
    rw [Condition.connective_of_mem hc]
    rfl

theorem Condition.exists_clauses {cond : Condition} (isStrict : Bool)
    (h : cond.value.key.usesWhere = false) :
    (∃ c ∈ cond.clauses lt resource isStrict, (c.cond row).Holds) ↔
      cond.Holds lt resource row := by
  obtain ⟨p, hp⟩ := Key.conds_eq_singleton lt h
  rw [← Condition.holds_clauses isStrict]
  simp [Condition.clauses, Key.clauses, hp]

variable (lt resource) in
theorem Condition.clauses_eq_cons (cond : Condition) (isStrict : Bool) :
    ∃ c cs, cond.clauses lt resource isStrict = c :: cs ∧ ∀ c' ∈ cs, c'.connective = .and := by
  obtain ⟨p, ps, hp⟩ := exists_cons_of_ne_nil (Key.conds_ne_nil lt cond.value.key)
  refine ⟨_, _, by rw [Condition.clauses, Key.clauses, hp, map_cons], ?_⟩
  intro c' hc'
  obtain ⟨p', hp', rfl⟩ := mem_map.1 hc'
  cases hwhere : cond.value.key.usesWhere with
  | true => simp [Key.connective, hwhere]
  | false =>
    obtain ⟨q, hq⟩ := Key.conds_eq_singleton lt hwhere
    obtain ⟨-, rfl⟩ := cons.inj (hp.symm.trans hq)
    cases hp'

/-- A key that is not strict is the disjunction, if only the first condition is added with
`Where`. -/
theorem selects_loose_iff {cond : Condition} (h : ∀ c ∈ cond :: conds, c.value.err = none)
    (hor : ∀ c ∈ conds, c.value.key.usesWhere = false) :
    Selects lt resource ⟨false, cond :: conds⟩ row ↔
      ∃ c ∈ cond :: conds, c.Holds lt resource row := by
  obtain ⟨c, cs, hclauses, hand⟩ := cond.clauses_eq_cons lt resource false
  have hrest : ∀ c ∈ conds.flatMap fun cond => cond.clauses lt resource false,
      c.connective = .or := by
    intro c hc
    obtain ⟨cond', hcond', hc⟩ := mem_flatMap.1 hc
    rw [Condition.connective_of_mem hc, Key.connective, hor cond' hcond']
    rfl
  have hfirst : ((c.cond row).Holds ∧ ∀ c' ∈ cs, (c'.cond row).Holds) ↔
      cond.Holds lt resource row := by
    rw [← Condition.holds_clauses false, hclauses, forall_mem_cons]
  rw [selects_iff lt resource h]
  simp only [flatMap_cons, hclauses, cons_append, value, exists_mem_cons_iff]
  rw [holds_valueFrom_and_or hand hrest, hfirst]
  refine or_congr_right ?_
  simp only [mem_flatMap]
  constructor
  · rintro ⟨c, ⟨cond', hcond', hc⟩, hholds⟩
    exact ⟨cond', hcond', (Condition.exists_clauses false (hor cond' hcond')).1 ⟨c, hc, hholds⟩⟩
  · rintro ⟨cond', hcond', hholds⟩
    obtain ⟨c, hc, hc'⟩ := (Condition.exists_clauses false (hor cond' hcond')).2 hholds
    exact ⟨c, ⟨cond', hcond', hc⟩, hc'⟩

section Fields

def fieldName (i : Nat) : QueryField := String.ofList (List.replicate i 'x')

def rowOf (cells : Nat → Cell) : Row := fun column => cells column.name.toList.length

theorem rowOf_fieldName (resource : String) (cells : Nat → Cell) (i : Nat) :
    rowOf cells (.of resource (fieldName i)) = cells i := by
  have hname : (fieldName i).toList = replicate i 'x' := String.toList_ofList
  have hbare : ((fieldName i).toList.reverse.takeWhile (· ≠ '.')).reverse = (fieldName i).toList := by
    rw [hname]
    simp
  rw [Column.of, if_pos hbare, rowOf, hname, length_replicate]

end Fields

def conditions (keys : List Key) : List Condition :=
  keys.mapIdx fun i key => ⟨fieldName i, ⟨key, none⟩⟩

theorem conditions_value (keys : List Key) :
    (conditions keys).map Condition.value = keys.map fun key => ⟨key, none⟩ :=
  ext_getElem (by simp [conditions]) fun i _ _ => by simp [conditions]

theorem mem_conditions {keys : List Key} {cond : Condition} (h : cond ∈ conditions keys) :
    ∃ (i : Nat) (hi : i < keys.length), cond = ⟨fieldName i, ⟨keys[i], none⟩⟩ := by
  obtain ⟨i, hi, rfl⟩ := mem_mapIdx.1 h
  exact ⟨i, hi, rfl⟩

theorem not_holds_clause {key : Key} {cells : Nat → Cell} {i : Nat} {isStrict : Bool}
    (h : ∀ p ∈ key.conds lt, ¬ (p (cells i)).Holds) {c : Clause Row}
    (hc : c ∈ Condition.clauses lt resource isStrict ⟨fieldName i, ⟨key, none⟩⟩) :
    ¬ (c.cond (rowOf cells)).Holds := by
  obtain ⟨p, hp, rfl⟩ := mem_map.1 hc
  have hcell := h p hp
  rwa [← rowOf_fieldName resource cells i] at hcell

variable (lt resource) in
/-- If a key after the first is added with `Where`, a row that meets it and no other key is not
selected. -/
theorem exists_not_selected {keys : List Key} {j : Nat} (hj : j + 1 < keys.length)
    (hwhere : keys[j + 1].usesWhere) :
    ∃ row, ¬ Selects lt resource ⟨false, conditions keys⟩ row ∧
      ∃ cond ∈ conditions keys, cond.Holds lt resource row := by
  choose refute hrefute using Key.exists_refuting lt
  obtain ⟨c₀, hc₀⟩ := Key.exists_holds lt hwhere
  let cells : Nat → Cell := fun i => if i = j + 1 then c₀ else keys[i]?.elim none refute
  have hother : ∀ i, (hi : i < keys.length) → i ≠ j + 1 →
      ∀ p ∈ keys[i].conds lt, ¬ (p (cells i)).Holds := by
    intro i hi hne
    have hcell : cells i = refute keys[i] := by simp [cells, hne, hi]
    rw [hcell]
    exact hrefute keys[i]
  have herr : ∀ cond ∈ conditions keys, cond.value.err = none := by
    intro cond hcond
    obtain ⟨i, hi, rfl⟩ := mem_conditions hcond
    rfl
  refine ⟨rowOf cells, ?_, ⟨fieldName (j + 1), ⟨keys[j + 1], none⟩⟩, ?_, ?_⟩
  · have hor : ∀ c ∈ (conditions keys).flatMap (fun cond => cond.clauses lt resource false),
        c.connective = .or → ¬ (c.cond (rowOf cells)).Holds := by
      intro c hc hcon
      obtain ⟨cond, hcond, hc⟩ := mem_flatMap.1 hc
      obtain ⟨i, hi, rfl⟩ := mem_conditions hcond
      refine not_holds_clause (hother i hi ?_) hc
      rintro rfl
      rw [Condition.connective_of_mem hc, Key.connective, hwhere] at hcon
      cases hcon
    rw [selects_iff lt resource herr]
    obtain ⟨key, keys', rfl⟩ := exists_cons_of_length_pos (by omega : 0 < keys.length)
    have hcons : conditions (key :: keys') = ⟨fieldName 0, ⟨key, none⟩⟩ ::
        keys'.mapIdx fun i key => ⟨fieldName (i + 1), ⟨key, none⟩⟩ := mapIdx_cons
    obtain ⟨c, cs, hclauses, -⟩ :=
      (⟨fieldName 0, ⟨key, none⟩⟩ : Condition).clauses_eq_cons lt resource false
    have hc : ¬ (c.cond (rowOf cells)).Holds :=
      not_holds_clause (hother 0 (by simp) (by omega)) (hclauses ▸ mem_cons_self)
    simp only [hcons, flatMap_cons, hclauses, cons_append, mem_cons] at hor ⊢
    exact not_holds_value hc fun c' hc' => hor c' (.inr hc')
  · exact mem_mapIdx.2 ⟨j + 1, hj, rfl⟩
  · rw [Condition.Holds, rowOf_fieldName]
    simpa [cells] using hc₀

/-- For conditions on any fields and every row, a composite key selects what it says exactly if it is
strict, or has a condition and none but the first is a test for NOT NULL, for emptiness or for
false. -/
theorem composite_key_denotes_iff (lt : Datum → Datum → Bool) (resource : String) (isStrict : Bool)
    (keys : List Key) :
    (∀ conds : List Condition, conds.map Condition.value = keys.map (fun key => ⟨key, none⟩) →
        ∀ row, Selects lt resource ⟨isStrict, conds⟩ row ↔
          if isStrict then ∀ cond ∈ conds, cond.Holds lt resource row
          else ∃ cond ∈ conds, cond.Holds lt resource row) ↔
      isStrict = true ∨ (keys ≠ [] ∧ ∀ key ∈ keys.tail, key.usesWhere = false) := by
  have herr : ∀ {conds : List Condition}, conds.map Condition.value =
      keys.map (fun key => ⟨key, none⟩) → ∀ cond ∈ conds, cond.value.err = none := by
    intro conds hconds cond hcond
    have hmem := List.mem_map_of_mem (f := Condition.value) hcond
    rw [hconds] at hmem
    obtain ⟨key, -, hkey⟩ := List.mem_map.1 hmem
    rw [← hkey]
  cases isStrict with
  | true =>
    refine iff_of_true (fun conds hconds row => ?_) (.inl rfl)
    simpa using selects_strict_iff (herr hconds)
  | false =>
    simp only [Bool.false_eq_true, if_false, false_or]
    constructor
    · intro h
      have hkeys := fun row => h (conditions keys) (conditions_value keys) row
      refine ⟨?_, fun key hkey => ?_⟩
      · rintro rfl
        have hnone := (hkeys fun _ => none).1 ⟨[], rfl, rfl⟩
        obtain ⟨cond, hcond, -⟩ := hnone
        cases hcond
      · by_contra hwhere
        rw [Bool.not_eq_false] at hwhere
        obtain ⟨j, hj, rfl⟩ := List.mem_iff_getElem.1 hkey
        rw [List.getElem_tail] at hwhere
        obtain ⟨row, hnot, hsome⟩ := exists_not_selected lt resource
          (by rw [List.length_tail] at hj; omega) hwhere
        exact hnot ((hkeys row).2 hsome)
    · rintro ⟨hne, htail⟩ conds hconds row
      obtain ⟨key, keys', rfl⟩ := List.exists_cons_of_ne_nil hne
      cases conds with
      | nil => cases hconds
      | cons cond conds =>
        refine selects_loose_iff (herr hconds) fun c hc => ?_
        have hmem := List.mem_map_of_mem (f := Condition.value) hc
        rw [(List.cons.inj hconds).2] at hmem
        obtain ⟨key', hkey', hval⟩ := List.mem_map.1 hmem
        rw [← hval]
        exact htail key' hkey'

end Translation

namespace Sample

def isNotNullOn (field : QueryField) : Condition := ⟨field, ⟨⟨.string notNull, .equal⟩, none⟩⟩

/-- Either of two fields is to have a value; a row with a value in the first only is not selected. -/
theorem either_not_null :
    ¬ Selects (fun _ _ => false) "systems" ⟨false, [isNotNullOn "region", isNotNullOn "type"]⟩
        (fun c => if c = ⟨"systems", "region"⟩ then some (.int 1) else none) ∧
      (isNotNullOn "region").Holds (fun _ _ => false) "systems"
        (fun c => if c = ⟨"systems", "region"⟩ then some (.int 1) else none) := by
  constructor
  · rintro ⟨tx, htx, hrow⟩
    cases htx
    exact absurd hrow (by decide)
  · have hcolumn : Column.of "systems" "region" = ⟨"systems", "region"⟩ := by decide
    rw [Condition.Holds, isNotNullOn, hcolumn]
    simp [Key.Holds, null, notNull, ascii]

end Sample

end Sql
end Cmk
