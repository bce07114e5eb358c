import Cmk.Odata.RoundTrip
import Cmk.Sql.Select

/-!
# Cmk.Odata.Equality

From a filter to the rows it selects: the parser, `GetQuery` and the translation of the query.

- `QueryOdataMapper.getQuery`: one composite key for every parsed field.
- `filterRows`: the rows of a table for a filter.
- `filter_equality_iff`: a filter on one field selects by equality, unless its value is one of the
  texts that composite keys use as markers.
-/

namespace Cmk

open Bytes List Sql

def FilterValue.toKey : FilterValue → Sql.KeyValue
  | .string s => .string s
  | .uuid id => .scalar (some (.uuid id))
  | .bool b => .scalar (some (.bool b))
  | .int n => .scalar (some (.int n))

/-- One round of the loop of `GetQuery`. A name without an entry is a nil pointer. -/
def QueryOdataMapper.addField (mf : QueryOdataMapper Sql.Query) (query : Sql.Query)
    (field : String × FilterValue) : Except Exn Sql.Query :=
  match mf.filterSchema.getEntryFromDBName field.1 with
  | none => .error .panic
  | some entry =>
    match entry.dbQuery with
    | some dbQuery => .ok (dbQuery query field.2)
    | none =>
      .ok (query.addWhere
        (Sql.newCompositeKeyGroup ⟨true, [⟨field.1, ⟨⟨field.2.toKey, .equal⟩, none⟩⟩]⟩))

def QueryOdataMapper.getQuery (mf : QueryOdataMapper Sql.Query) : Except Exn Sql.Query :=
  mf.parseFilterFields.foldlM mf.addField Sql.newQuery

def filterRows (lt : Sql.Datum → Sql.Datum → Bool) (parseUUID : ParseUUID)
    (schema : FilterSchema Sql.Query) (table : String) (filter : Bytes)
    (rows : List (String → Sql.Cell)) : Except Exn (List (String → Sql.Cell)) := do
  let mf ← (⟨schema, []⟩ : QueryOdataMapper Sql.Query).parseFilter parseUUID (some filter)
  let query ← mf.getQuery
  query.rows lt table (fun _ => []) (rows.map fun r => (r, r))

/-- The entry that both the parser and `GetQuery` use for a field: a String entry without a query, a
modifier or a validator of its own. -/
structure StringField (schema : FilterSchema Sql.Query) (e : FilterSchemaEntry Sql.Query) : Prop where
  plain : e.Plain
  trimmed : trimSpace e.filterName = e.filterName
  found : schema.find? (fun entry => e.filterName = entry.filterName) = some e
  noQuery : ∃ e', schema.getEntryFromDBName e.dbName = some e' ∧ e'.dbQuery = none

def equalityKey (column : String) (v : Bytes) : Sql.CompositeKey :=
  ⟨true, [⟨column, ⟨⟨.string v, .equal⟩, none⟩⟩]⟩

section OneField

variable {schema : FilterSchema Sql.Query} {e : FilterSchemaEntry Sql.Query}

theorem StringField.parseFilter (h : StringField schema e) (parseUUID : ParseUUID) (v : Bytes) :
    (⟨schema, []⟩ : QueryOdataMapper Sql.Query).parseFilter parseUUID
        (some (comparison e.filterName v)) =
      .ok ⟨schema, [(e.dbName, .string v)]⟩ := by
  have happly : FilterSchema.apply schema parseUUID e.filterName (literal v) =
      .ok (e.dbName, .string v) := by
    rw [FilterSchema.apply, h.found]
    dsimp only
    rw [h.plain.apply_literal]
    rfl
  rw [QueryOdataMapper.parseFilter_comparison parseUUID schema h.plain.name, h.trimmed, happly]
  rfl

theorem StringField.getQuery (h : StringField schema e) (v : Bytes) :
    (⟨schema, [(e.dbName, .string v)]⟩ : QueryOdataMapper Sql.Query).getQuery =
      .ok (newQuery.addWhere (newCompositeKeyGroup (equalityKey e.dbName v))) := by
  obtain ⟨e', hfound, hquery⟩ := h.noQuery
  rw [QueryOdataMapper.getQuery, foldlM_cons, QueryOdataMapper.addField]
  dsimp only
  rw [hfound]
  dsimp only
  rw [hquery]
  rfl

variable (lt : Sql.Datum → Sql.Datum → Bool) (parseUUID : ParseUUID)

theorem selects_equalityKey {table column : String} {v : Bytes} {row : Sql.Row} :
    Sql.Selects lt table (equalityKey column v) row ↔
      (⟨.string v, .equal⟩ : Sql.Key).Holds lt (row (.of table column)) := by
  rw [equalityKey, selects_strict_iff (by simp), forall_mem_singleton]
  rfl

theorem StringField.filterRows_eq (h : StringField schema e) {table : String}
    (htable : (Sql.Column.of table e.dbName).table = table) (v : Bytes)
    (rows : List (String → Sql.Cell)) :
    ∃ p : (String → Sql.Cell) → Bool,
      filterRows lt parseUUID schema table (comparison e.filterName v) rows =
          .ok (rows.filter p) ∧
        ∀ r, p r = true ↔
          (⟨.string v, .equal⟩ : Sql.Key).Holds lt (r (Sql.Column.of table e.dbName).name) := by
  have hsound : ∀ ck ∈ (newQuery.addWhere
      (newCompositeKeyGroup (equalityKey e.dbName v))).compositeKeyGroup,
      ck.isStrict = true ∧ ck.compositeKey.Sound := by
    intro ck hck
    rw [mem_singleton.1 hck]
    exact ⟨rfl, fun cond hcond => by rw [mem_singleton.1 hcond]⟩
  obtain ⟨p, hrows, hp⟩ := rows_strict lt table hsound rfl rfl (fun _ => [])
    (rows.map fun r => (r, r))
  refine ⟨p, ?_, fun r => ?_⟩
  · have hfst : ((rows.map fun r => (r, r)).filter fun r => p r.2).map Prod.fst = rows.filter p := by
      simp [filter_map, Function.comp_def]
    rw [hfst] at hrows
    rw [filterRows, h.parseFilter]
    change (do (← QueryOdataMapper.getQuery _).rows lt table (fun _ => []) _) = _
    rw [h.getQuery]
    exact hrows
  · rw [hp]
    have hcell : Sql.Row.extend (fun _ => none) table r (Sql.Column.of table e.dbName) =
        r (Sql.Column.of table e.dbName).name := if_pos htable
    rw [← hcell, ← selects_equalityKey]
    exact forall_mem_singleton

/-- For every contents of the table, a filter `field eq 'v'` selects the rows whose column is `v`,
exactly if `v` is none of the markers. -/
theorem filter_equality_iff (h : StringField schema e) (table : String)
    (htable : (Sql.Column.of table e.dbName).table = table) (v : Bytes) :
    (∀ rows, filterRows lt parseUUID schema table (comparison e.filterName v) rows =
        .ok (rows.filter fun r => r (Sql.Column.of table e.dbName).name = some (.text v))) ↔
      v ∉ Sql.markers := by
  constructor
  · intro hall hv
    obtain ⟨c, hne, hc⟩ := Sql.Key.exists_holds_marker lt hv
    obtain ⟨p, hrows, hp⟩ := h.filterRows_eq lt parseUUID htable v [fun _ => c]
    have hpc : p (fun _ => c) = true := (hp _).2 hc
    rw [hall] at hrows
    simp [hpc, hne v] at hrows
  · intro hv rows
    obtain ⟨p, hrows, hp⟩ := h.filterRows_eq lt parseUUID htable v rows
    rw [hrows]
    refine congrArg Except.ok (List.filter_congr fun r _ => ?_)
    rw [Bool.eq_iff_iff, hp, Sql.Key.holds_text_iff lt hv, decide_eq_true_eq]

end OneField

namespace Sample

def nameField : FilterSchemaEntry Sql.Query where
  filterName := ascii "name"
  filterType := .string
  dbName := "name"
  dbQuery := none
  valueModifier := none
  valueValidator := none

theorem stringField_name : StringField [nameField] nameField :=
  ⟨⟨by decide, rfl, rfl, rfl⟩, rfl, rfl, nameField, rfl, rfl⟩

theorem column_name : (Sql.Column.of "groups" "name").table = "groups" := by decide

theorem filter_equality_of_text :
    ascii "nil" ∉ Sql.markers ∧
      ∀ rows, filterRows (fun _ _ => false) (fun _ => .ok UUID.nil) [nameField] "groups"
          (comparison (ascii "name") (ascii "nil")) rows =
        .ok (rows.filter fun r =>
          r (Sql.Column.of "groups" "name").name = some (.text (ascii "nil"))) :=
  ⟨by decide,
    (filter_equality_iff _ _ stringField_name "groups" column_name (ascii "nil")).2 (by decide)⟩

/-- A filter for the name `null` selects a group without a name. -/
theorem null_read_as_test :
    (filterRows (fun _ _ => false) (fun _ => .ok UUID.nil) [nameField] "groups"
        (comparison (ascii "name") (ascii "null")) [fun _ => none]).map List.length = .ok 1 ∧
      ([fun _ => none] : List (String → Sql.Cell)).filter
        (fun r => r "name" = some (.text (ascii "null"))) = [] := by
  constructor
  · rfl
  · rfl

end Sample

end Cmk
